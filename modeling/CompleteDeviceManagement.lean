import CompleteDeviceManagement.Library.Process
import CompleteDeviceManagement.Library.EventLoop
import CompleteDeviceManagement.Library.Fallible
import CompleteDeviceManagement.Library.Session
import CompleteDeviceManagement.Library.Credit
import CompleteDeviceManagement.Library.Outcomes
import CompleteDeviceManagement.Library.Server
import CompleteDeviceManagement.Library.Clients
import CompleteDeviceManagement.Library.Dict
import CompleteDeviceManagement.Library.Relay
import CompleteDeviceManagement.Library.PyValue
import CompleteDeviceManagement.Library.Datetime
import CompleteDeviceManagement.Library.FirstFit
import CompleteDeviceManagement.Library.IpAddress
import CompleteDeviceManagement.Library.IpText
import CompleteDeviceManagement.Library.Utf8
import CompleteDeviceManagement.Library.Url
import CompleteDeviceManagement.Library.Base64
import CompleteDeviceManagement.Library.Ini
import CompleteDeviceManagement.Library.JsonText
import CompleteDeviceManagement.Library.JsonPrefix
import CompleteDeviceManagement.Library.Rounding
import CompleteDeviceManagement.Source.WireGuard
import CompleteDeviceManagement.Source.TerminalProxy
import CompleteDeviceManagement.Source.TerminalUpgrade
import CompleteDeviceManagement.Source.PeersFile
import CompleteDeviceManagement.Source.Models
import CompleteDeviceManagement.Source.Runtime
import CompleteDeviceManagement.Source.JoinStore
import CompleteDeviceManagement.Source.JoinKeyStore
import CompleteDeviceManagement.Source.StepCa
import CompleteDeviceManagement.Source.RabbitMq
import CompleteDeviceManagement.Source.AdminPortal
import CompleteDeviceManagement.Source.JoinRouter
import CompleteDeviceManagement.Source.JoinPipelines
import CompleteDeviceManagement.Source.Service
import CompleteDeviceManagement.Source.InitSubCa
import CompleteDeviceManagement.Source.DeviceRuntime
import CompleteDeviceManagement.Source.HawkBit
import CompleteDeviceManagement.Source.WireGuardPeers
import CompleteDeviceManagement.Source.DeviceRouters
import CompleteDeviceManagement.Source.Telemetry
import CompleteDeviceManagement.Source.EnrollmentApi
import CompleteDeviceManagement.Source.EnrollClients
import CompleteDeviceManagement.Source.Urls
import CompleteDeviceManagement.Source.Portal
import CompleteDeviceManagement.Source.IpResolver
import CompleteDeviceManagement.Source.TerminalListener
import CompleteDeviceManagement.Source.TerminalUrl
import CompleteDeviceManagement.Source.TerminalWidget
import CompleteDeviceManagement.Library.Runs
import CompleteDeviceManagement.Guarantees.TerminalUrls
import CompleteDeviceManagement.Guarantees.TerminalKeystrokes
import CompleteDeviceManagement.Guarantees.TerminalSession
import CompleteDeviceManagement.Guarantees.TerminalAccess
import CompleteDeviceManagement.Guarantees.AddressAllocation
import CompleteDeviceManagement.Guarantees.JoinKeys
import CompleteDeviceManagement.Guarantees.Provisioning
import CompleteDeviceManagement.Guarantees.JoinContract
import CompleteDeviceManagement.Guarantees.TenantIds
import CompleteDeviceManagement.Guarantees.JoinBundle
import CompleteDeviceManagement.Guarantees.JoinPipelines
import CompleteDeviceManagement.Guarantees.JoinStateMachine
import CompleteDeviceManagement.Guarantees.CertificateAgreement
import CompleteDeviceManagement.Guarantees.JoinAuthorization
import CompleteDeviceManagement.Guarantees.BrokerIsolation
import CompleteDeviceManagement.Guarantees.TenantCa
import CompleteDeviceManagement.Guarantees.BundleInstallation
import CompleteDeviceManagement.Guarantees.DeviceCalls
import CompleteDeviceManagement.Guarantees.TargetConvergence
import CompleteDeviceManagement.Guarantees.DeviceIdentity
import CompleteDeviceManagement.Guarantees.PeerList
import CompleteDeviceManagement.Guarantees.AppendedPeer
import CompleteDeviceManagement.Guarantees.ConcurrentProvisioning
import CompleteDeviceManagement.Guarantees.PeersFile
import CompleteDeviceManagement.Guarantees.DeviceLookup
import CompleteDeviceManagement.Guarantees.UpgradeAnswers
import CompleteDeviceManagement.Guarantees.EnrollmentAgreement
import CompleteDeviceManagement.Guarantees.PlatformServices
import CompleteDeviceManagement.Guarantees.TenantCreation
import CompleteDeviceManagement.Guarantees.TenantRemoval
import CompleteDeviceManagement.Guarantees.RealmDeletion
import CompleteDeviceManagement.Guarantees.TargetUrls
import CompleteDeviceManagement.Guarantees.TelemetryRows
import CompleteDeviceManagement.Guarantees.DatabasePools
import CompleteDeviceManagement.Guarantees.DeviceFailures
import CompleteDeviceManagement.Guarantees.ReportedFailures
import CompleteDeviceManagement.Guarantees.BearerClaims
import CompleteDeviceManagement.Guarantees.PortalSessions
import CompleteDeviceManagement.Guarantees.LoginRedirects
import CompleteDeviceManagement.Guarantees.RootCertificate
import CompleteDeviceManagement.Library.WebUrl
import CompleteDeviceManagement.Library.Sed
import CompleteDeviceManagement.Library.Placeholders
import CompleteDeviceManagement.Library.JsonTemplate
import CompleteDeviceManagement.Source.RealmTemplates
import CompleteDeviceManagement.Guarantees.RealmTemplates
import CompleteDeviceManagement.Source.JoinPayload
import CompleteDeviceManagement.Guarantees.JoinPayload
import CompleteDeviceManagement.Library.Search
import CompleteDeviceManagement.Library.JsonKeys
import CompleteDeviceManagement.Source.Enroll
import CompleteDeviceManagement.Guarantees.DeviceEnrollment
import CompleteDeviceManagement.Guarantees.EnrollResponse
import CompleteDeviceManagement.Library.CString
import CompleteDeviceManagement.Guarantees.CsrEscaping
import CompleteDeviceManagement.Guarantees.EnrollBody
import CompleteDeviceManagement.Library.JsonSize
import CompleteDeviceManagement.Guarantees.EnrollParser
import CompleteDeviceManagement.Guarantees.TokenPayload
import CompleteDeviceManagement.Library.Calendar
import CompleteDeviceManagement.Library.DatetimeOrder
import CompleteDeviceManagement.Guarantees.JoinOrder
import CompleteDeviceManagement.Guarantees.AccessLevels
import CompleteDeviceManagement.Guarantees.AccessReport
import CompleteDeviceManagement.Library.PosixPath
import CompleteDeviceManagement.Library.WorkBoard
import CompleteDeviceManagement.Source.DdiPoll
import CompleteDeviceManagement.Guarantees.FeedbackUrl
import CompleteDeviceManagement.Guarantees.UpdateOnce
import CompleteDeviceManagement.Guarantees.TerminalStreams
import CompleteDeviceManagement.Library.Script
import CompleteDeviceManagement.Source.Bootstrap
import CompleteDeviceManagement.Guarantees.Bootstrap
import CompleteDeviceManagement.Guarantees.DeviceConfig
import CompleteDeviceManagement.Guarantees.Tunnel
import CompleteDeviceManagement.Guarantees.ShellReach
import CompleteDeviceManagement.Source.PgAdmin
import CompleteDeviceManagement.Guarantees.PgAdmin
import CompleteDeviceManagement.Library.JsonLead
import CompleteDeviceManagement.Source.PublishTelemetry
import CompleteDeviceManagement.Guarantees.PublishTelemetry
