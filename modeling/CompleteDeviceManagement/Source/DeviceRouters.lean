import CompleteDeviceManagement.Source.HawkBit
import CompleteDeviceManagement.Source.WireGuardPeers

/-!
# The device endpoints: enrollment and the ThingsBoard webhook

Source: glue-services/iot-bridge-api/app/routers/enrollment.py and
app/routers/webhooks.py (`thingsboard_webhook`), with the models of
app/models.py they use.
-/

set_option autoImplicit false

namespace CompleteDeviceManagement.Source.DeviceRouters
open CompleteDeviceManagement.Library CompleteDeviceManagement.Source.Models
  CompleteDeviceManagement.Source.Runtime CompleteDeviceManagement.Source.StepCa
  CompleteDeviceManagement.Source.DeviceRuntime CompleteDeviceManagement.Source.HawkBit
  CompleteDeviceManagement.Source.WireGuardPeers
open CompleteDeviceManagement.Library.Fallible

/-! ## models.py -/

structure EnrollmentRequest where
  csr : String
  deviceName : String
  deviceType : String := "generic"
  wgPublicKey : Option String := none

structure EnrollmentResponse where
  certificate : String
  caChain : String
  wireguardIp : String
  wireguardConfig : String

/-- The metadata object, each name once; `msgType` and `data` are read by no
statement of the handler. -/
structure ThingsboardWebhookEvent where
  metadata : List (String × Json)

structure WebhookResponse where
  status : String
  deviceId : Option String := none
  wireguardIp : Option String := none
  reason : Option String := none
  deriving DecidableEq

/-! ## enrollment.py -/

variable (env : DeviceEnv)

/-- `get_step_ca_client` (app/deps.py). -/
def getStepCaClient (settings : Settings) : StepCAClient :=
  ⟨rstripSlash settings.stepCaUrl, settings.stepCaProvisionerName,
    settings.stepCaProvisionerPassword⟩

def validateCsr (csrPem : String) : DeviceApp Unit :=
  match env.loadCsr csrPem with
  | .ok true => pure ()
  | .ok false => raise (.httpException 422 "Invalid CSR: CSR signature is invalid")
  | .error text => raise (.httpException 422 ("Invalid CSR: " ++ text))

/-- Step 3 of the enrollment. -/
def ensureTarget (deviceId : String) (body : EnrollmentRequest) : DeviceApp Unit :=
  answering env.env.py DeviceRaised.isHawkBitError "hawkBit unreachable: "
    "hawkBit provisioning failed: " do
      let existing ← (getHawkbitClient env.settings).getTarget deviceId
      if existing.truthy then pure ()
      else do
        let _ ← (getHawkbitClient env.settings).createTarget deviceId (.str body.deviceName)
          [("device_type", .str body.deviceType)]
        pure ()

/-- The response model takes the two certificates only as texts. -/
def enrollmentResponse (certs : Json × Json) (wgIp wgCfg : String) : DeviceApp EnrollmentResponse :=
  match strField certs.1, strField certs.2 with
  | some certificate, some caChain => pure ⟨certificate, caChain, wgIp, wgCfg⟩
  | _, _ => raise .validationError

/-- Step 2 of the enrollment. -/
def signDevice (deviceId csr : String) : DeviceApp (Json × Json) :=
  answering env.env.py DeviceRaised.isStepCaError "step-ca unreachable: " "PKI signing failed: "
    (stepCa ((getStepCaClient env.env.settings).signCertificate env.env csr deviceId [deviceId]))

def enrollDevice (deviceId : String) (body : EnrollmentRequest) : DeviceApp EnrollmentResponse := do
  validateCsr env body.csr
  let certs ← signDevice env deviceId body.csr
  ensureTarget env deviceId body
  let wgIp ← allocate env deviceId
  let wgCfg ← generateClientConfig env deviceId wgIp (body.wgPublicKey.getD "")
  enrollmentResponse certs wgIp wgCfg

/-! ## webhooks.py -/

/-- The first of the three members that is truthy, as `str` prints it. -/
def extractDeviceId (event : ThingsboardWebhookEvent) : Option String :=
  (["deviceId", "clientId", "deviceName"].findSome? fun key =>
    (Json.field? key event.metadata).filter Json.truthy).map (Json.text env.env.py)

/-- `event.metadata.get(key, default)` -/
def ThingsboardWebhookEvent.member (event : ThingsboardWebhookEvent) (key fallback : String) :
    Json :=
  (Json.field? key event.metadata).getD (.str fallback)

def thingsboardWebhook (event : ThingsboardWebhookEvent) : DeviceApp WebhookResponse :=
  match (extractDeviceId env event).filter (· ≠ "") with
  | none => pure { status := "ignored", reason := some "No device_id found in event metadata" }
  | some deviceId => do
      let existing ← answering env.env.py DeviceRaised.isHawkBitError "hawkBit unreachable: "
        "hawkBit query failed: " ((getHawkbitClient env.settings).getTarget deviceId)
      if existing.truthy then do
        let wgIp ← allocate env deviceId
        pure { status := "already_provisioned", deviceId := some deviceId,
               wireguardIp := some wgIp }
      else do
        let _ ← answering env.env.py DeviceRaised.isHawkBitError "hawkBit unreachable: "
          "hawkBit provisioning failed: "
          ((getHawkbitClient env.settings).createTarget deviceId
            (event.member "deviceName" deviceId)
            [("device_type", event.member "deviceType" "generic"),
             ("source", .str "thingsboard_webhook")])
        let wgIp ← allocate env deviceId
        pure { status := "provisioned", deviceId := some deviceId, wireguardIp := some wgIp }

/-! ## The two routes -/

inductive DeviceCall where
  | enroll (deviceId : String) (body : EnrollmentRequest)
  | webhook (event : ThingsboardWebhookEvent)

inductive DeviceReply where
  | enrolled (body : EnrollmentResponse)
  | webhook (body : WebhookResponse)
  | httpError (status : Nat) (detail : String)
  | serverError (raised : DeviceRaised)

def deviceAnswer : Except DeviceRaised DeviceReply → DeviceReply
  | .ok reply => reply
  | .error (.api (.httpException status detail)) => .httpError status detail
  | .error raised => .serverError raised

def handleDevice : DeviceCall → DeviceApp DeviceReply
  | .enroll deviceId body => .enrolled <$> enrollDevice env deviceId body
  | .webhook event => .webhook <$> thingsboardWebhook env event

def serveDevice (call : DeviceCall) : Proc DeviceWorld DeviceRequest HttpResult DeviceReply :=
  (handleDevice env call).run.bind fun result => .ret (deviceAnswer result)

end CompleteDeviceManagement.Source.DeviceRouters
