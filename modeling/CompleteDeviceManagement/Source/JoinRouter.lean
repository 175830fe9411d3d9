import CompleteDeviceManagement.Source.AdminPortal
import CompleteDeviceManagement.Source.JoinKeyStore
import CompleteDeviceManagement.Source.JoinStore

/-!
# The JOIN workflow

Source: glue-services/iot-bridge-api/app/routers/join.py. Steps 1 to 3 of the
provisioning stand there twice, in `_run_provisioning` and in
`approve_join_request`; here they are `provision`, which also keeps the
`results` that only the second reports.
-/

set_option autoImplicit false

namespace CompleteDeviceManagement.Source.JoinRouter
open CompleteDeviceManagement.Library CompleteDeviceManagement.Source.Models
  CompleteDeviceManagement.Source.Runtime CompleteDeviceManagement.Source.RabbitMq
  CompleteDeviceManagement.Source.StepCa CompleteDeviceManagement.Source.AdminPortal
  CompleteDeviceManagement.Source.JoinStore CompleteDeviceManagement.Source.JoinKeyStore
open CompleteDeviceManagement.Library.Fallible

/-! ## Helpers -/

def getRequest (tenantId : String) : App JoinEntry := do
  let store ← loadStore
  match store.get? tenantId with
  | none => fail (.httpException 404 ("No JOIN request found for tenant '" ++ tenantId ++ "'"))
  | some entry => pure entry

def redirectUris (tenantId tenantKeycloakUrl : String) : List Json :=
  if tenantKeycloakUrl ≠ "" then
    let brokerCallback := rstripSlash tenantKeycloakUrl ++ "/realms/" ++ tenantId ++
      "/broker/cdm-provider/endpoint"
    [.str brokerCallback, .str (brokerCallback ++ "/*")]
  else [.str "*"]

def federationPayload (tenantId tenantKeycloakUrl clientSecret : String) : Json := .obj
  [("clientId", .str ("cdm-federation-" ++ tenantId)),
    ("name", .str ("CDM Federation – " ++ tenantId)),
    ("description", .str
      "OIDC client used by the Tenant Keycloak to federate against the CDM Provider."),
    ("enabled", .bool true), ("protocol", .str "openid-connect"), ("publicClient", .bool false),
    ("secret", .str clientSecret),
    ("redirectUris", .arr (redirectUris tenantId tenantKeycloakUrl)),
    ("webOrigins", .arr [.str "+"]), ("standardFlowEnabled", .bool true),
    ("implicitFlowEnabled", .bool false), ("directAccessGrantsEnabled", .bool false),
    ("serviceAccountsEnabled", .bool false)]

def kcCreateFederationClient (env : Env) (tenantId tenantKeycloakUrl token : String) :
    App (String × String) := do
  let clientId := "cdm-federation-" ++ tenantId
  let clientSecret ← randomPassword env
  let resp ← exchange (.keycloakCreateClient (rstripSlash env.settings.keycloakUrl) token
    (federationPayload tenantId tenantKeycloakUrl clientSecret))
  if resp.status = 409 then pure (clientId, clientSecret)
  else if resp.isSuccess then pure (clientId, clientSecret)
  else fail (.httpException 502 ("Keycloak federation client creation failed HTTP " ++
    toString resp.status ++ ": " ++ prefixOf resp.text 300))

def fetchRootCaCert (env : Env) : App Json := do
  if env.settings.stepCaFingerprint = "" then pure (.str "")
  else do
    let resp ← exchange (.stepCaRoot (rstripSlash env.settings.stepCaUrl)
      env.settings.stepCaFingerprint)
    if resp.isSuccess then do
      let data ← resp.decoded
      let ca ← language (data.get "ca" (.str ""))
      pure (.str (ca.text env.py))
    else pure (.str "")

def stepCaClient (settings : Settings) : StepCAClient :=
  ⟨rstripSlash settings.stepCaUrl, settings.stepCaProvisionerName,
    settings.stepCaProvisionerPassword⟩

/-! ## The provisioning pipeline -/

/-- Step 1. A `StepCAError` is caught, everything else escapes. -/
def signSubCa (env : Env) (tenantId subCaCsr : String) : App (Except Raised (Json × Json)) :=
  attempt Raised.isStepCaError do
    let certs ← (stepCaAdmin env.settings).signSubCaCsr env subCaCsr tenantId
      env.settings.stepCaSubCaProvisioner env.settings.stepCaSubCaPassword
    if certs.2.truthy then pure certs
    else do
      let root ← fetchRootCaCert env
      pure (certs.1, root)

def mqttUser (tenantId : String) : String := tenantId ++ "-mqtt-bridge"

/-- Step 2. -/
def provisionRabbitMq (env : Env) (tenantId : String) : App (Except Raised Unit) :=
  attempt (fun _ => true) do
    let rmq := rabbitmq env.settings
    rmq.createVhost tenantId
    rmq.createUser (mqttUser tenantId) "" "none"
    rmq.setPermissions (mqttUser tenantId) tenantId

/-- Step 2b; nothing is signed if the tenant sent no CSR for its bridge. -/
def signMqttBridge (env : Env) (tenantId mqttBridgeCsr : String) :
    App (Option (Except Raised Json)) :=
  if mqttBridgeCsr = "" then pure none
  else some <$> attempt Raised.isStepCaError do
    let certs ← (stepCaClient env.settings).signCertificate env mqttBridgeCsr
      (mqttUser tenantId) [mqttUser tenantId]
    pure certs.1

/-- Step 3. -/
def federate (env : Env) (tenantId keycloakUrl : String) :
    App (Except Raised (String × String)) :=
  attempt (fun _ => true) do
    let token ← kcAdminToken env
    kcCreateFederationClient env tenantId keycloakUrl token

/-- The local variables of the two functions when the steps are through. -/
structure Provisioned where
  signedCert : Json
  rootCaCert : Json
  rmqUrl : String
  rmqVhost : String
  rmqMqttUser : String
  mqttBridgeCert : Json
  cdmIdpClientId : String
  cdmIdpClientSecret : String
  cdmDiscoveryUrl : String
  results : Dict String String
  errors : Dict String String

/-- `results[name] = done` or `errors[name] = str(exc)` -/
def noted {α : Type} (env : Env) (name done : String) (outcome : Except Raised α)
    (notes : Dict String String × Dict String String) :
    Dict String String × Dict String String :=
  match outcome with
  | .ok _ => (notes.1.set name done, notes.2)
  | .error exc => (notes.1, notes.2.set name (exc.text env.py))

/-- `results` and `errors` after the four steps. -/
def notes (env : Env) (subCa : Except Raised (Json × Json)) (broker : Except Raised Unit)
    (mqtt : Option (Except Raised Json)) (federation : Except Raised (String × String)) :
    Dict String String × Dict String String :=
  let notes := noted env "rabbitmq" "provisioned" broker
    (noted env "step_ca" "signed" subCa (Dict.empty, Dict.empty))
  let notes := match mqtt with
    | none => (notes.1.set "mqtt_bridge_cert" "skipped (no mqtt_bridge_csr provided)", notes.2)
    | some outcome => noted env "mqtt_bridge_cert" "signed" outcome notes
  noted env "keycloak_federation" "client_created" federation notes

def provision (env : Env) (tenantId subCaCsr mqttBridgeCsr keycloakUrl : String) :
    App Provisioned := do
  let subCa ← signSubCa env tenantId subCaCsr
  let broker ← provisionRabbitMq env tenantId
  let mqtt ← signMqttBridge env tenantId mqttBridgeCsr
  let federation ← federate env tenantId keycloakUrl
  pure
    { signedCert := match subCa with
        | .ok certs => certs.1
        | .error _ => .str ""
      rootCaCert := match subCa with
        | .ok certs => certs.2
        | .error _ => .str ""
      rmqUrl := env.settings.rabbitmqMgmtUrl
      rmqVhost := tenantId
      rmqMqttUser := mqttUser tenantId
      mqttBridgeCert := match mqtt with
        | some (.ok cert) => cert
        | _ => .str ""
      cdmIdpClientId := match federation with
        | .ok client => client.1
        | .error _ => ""
      cdmIdpClientSecret := match federation with
        | .ok client => client.2
        | .error _ => ""
      cdmDiscoveryUrl := rstripSlash env.settings.externalUrl ++
        "/auth/realms/cdm/.well-known/openid-configuration"
      results := (notes env subCa broker mqtt federation).1
      errors := (notes env subCa broker mqtt federation).2 }

/-! ## Key-based handshake -/

/-- `tenant_id.replace("-", "").isalnum() and tenant_id.islower()` -/
def tenantIdOk (py : PyText) (tenantId : String) : Bool :=
  py.isalnum (.ofList (tenantId.toList.filter (· ≠ '-'))) && py.islower tenantId

def badTenantId : Raised :=
  .httpException 422 "tenant_id must be lowercase alphanumeric with optional hyphens"

def prepareTenant (env : Env) (caller : Caller) (body : TenantPrepareRequest) :
    App TenantPrepareResponse := do
  let _ ← requireCdmAdmin env caller
  if tenantIdOk env.py body.tenantId then do
    let key ← createKey env body.tenantId body.displayName
    let preparedAt ← now env
    pure
      { tenantId := body.tenantId
        displayName := body.displayName
        joinKey := key
        expiresAt := (preparedAt.addHours joinKeyTtlHours).isoformat }
  else fail badTenantId

/-- `text or None` -/
def orNone (text : String) : Option String := if text = "" then none else some text

def runProvisioning (env : Env) (tenantId : String) (payload : JoinHandshakePayload) :
    App JoinHandshakeResponse := do
  let p ← provision env tenantId payload.subCaCsr payload.mqttBridgeCsr payload.keycloakUrl
  match strField p.signedCert, strField p.rootCaCert,
      optionalStrField (if p.mqttBridgeCert.truthy then p.mqttBridgeCert else .null) with
  | some signedCert, some rootCaCert, some mqttBridgeCert =>
      pure
        { tenantId := tenantId
          signedCert := signedCert
          rootCaCert := rootCaCert
          rabbitmqUrl := p.rmqUrl
          rabbitmqVhost := p.rmqVhost
          rabbitmqUser := p.rmqMqttUser
          mqttBridgeCert := mqttBridgeCert
          cdmIdpClientId := orNone p.cdmIdpClientId
          cdmIdpClientSecret := orNone p.cdmIdpClientSecret
          cdmDiscoveryUrl := p.cdmDiscoveryUrl }
  | _, _, _ => fail .validationError

/-- The `KeyError` and the `ValueError` of `validate_and_consume`. -/
def isKeyOrValueError : Raised → Bool
  | .language (.keyError _) => true
  | .language (.valueError _) => true
  | _ => false

def presentedKey (env : Env) (caller : Caller) : String :=
  env.py.strip (caller.xJoinKey.getD "")

def joinHandshake (env : Env) (caller : Caller) (payload : JoinHandshakePayload) :
    App JoinHandshakeResponse := do
  let joinKey := presentedKey env caller
  if joinKey = "" then fail (.httpException 401 "X-Join-Key header is required.")
  else do
    let keyEntry ← attempt isKeyOrValueError (validateAndConsume env joinKey)
    match keyEntry with
    | .error (.language (.keyError _)) => fail (.httpException 401 "Invalid JOIN key.")
    | .error exc => fail (.httpException 401 (exc.text env.py))
    | .ok keyEntry => runProvisioning env keyEntry.tenantId payload

/-! ## Approval-based flow -/

def pendingEntry (tenantId : String) (payload : JoinRequestPayload) (requestedAt : Datetime) :
    JoinEntry where
  tenantId := tenantId
  displayName := payload.displayName
  subCaCsr := payload.subCaCsr
  mqttBridgeCsr := payload.mqttBridgeCsr
  wgPubkey := payload.wgPubkey
  keycloakUrl := payload.keycloakUrl
  status := .pending
  requestedAt := requestedAt
  approvedAt := none
  rejectedAt := none
  rejectedReason := none
  signedCert := .null
  rootCaCert := .null
  rabbitmqUrl := none
  rabbitmqVhost := none
  rabbitmqUser := none
  mqttBridgeCert := .null
  cdmIdpClientId := none
  cdmIdpClientSecret := none
  cdmDiscoveryUrl := none
  wgServerPubkey := none
  wgServerEndpoint := none
  wgClientIp := none

structure SubmitResponse where
  status : String := "pending"
  tenantId : String
  message : String := "JOIN request received. Awaiting Provider Admin approval."
  pollUrl : String

def submitJoinRequest (env : Env) (tenantId : String) (payload : JoinRequestPayload) :
    App SubmitResponse := do
  if tenantIdOk env.py tenantId then do
    let store ← loadStore
    if (store.get? tenantId).map JoinEntry.status = some .approved then
      fail (.httpException 409 ("Tenant '" ++ tenantId ++ "' is already approved."))
    else do
      let requestedAt ← now env
      saveStore (store.set tenantId (pendingEntry tenantId payload requestedAt))
      pure
        { tenantId := tenantId
          pollUrl := "/portal/admin/tenants/" ++ tenantId ++ "/join-status" }
  else fail badTenantId

/-- The text sort of `list_join_requests`: descending, and stable. -/
def byRequestedAt (entries : List JoinEntry) : List JoinEntry :=
  entries.mergeSort fun e e' => decide (e'.requestedAt.isoformat ≤ e.requestedAt.isoformat)

/-- The admin that the guard finds, or `None`, is not looked at. -/
def listJoinRequests (caller : Caller) : App (List JoinEntry) := do
  let _ ← language (getCdmAdmin caller)
  let store ← loadStore
  pure (byRequestedAt store.values)

/-- The `update` of step 4. -/
def approvedEntry (entry : JoinEntry) (approvedAt : Datetime) (p : Provisioned) : JoinEntry :=
  { entry with
    status := .approved
    approvedAt := some approvedAt
    signedCert := p.signedCert
    rootCaCert := p.rootCaCert
    rabbitmqUrl := some p.rmqUrl
    rabbitmqVhost := some p.rmqVhost
    rabbitmqUser := some p.rmqMqttUser
    mqttBridgeCert := p.mqttBridgeCert
    cdmIdpClientId := some p.cdmIdpClientId
    cdmIdpClientSecret := some p.cdmIdpClientSecret
    cdmDiscoveryUrl := some p.cdmDiscoveryUrl }

structure ApproveResponse where
  tenantId : String
  status : String := "approved"
  results : Dict String String
  errors : Dict String String
  bundle : Provisioned

def approveJoinRequest (env : Env) (caller : Caller) (tenantId : String) :
    App ApproveResponse := do
  let _ ← language (getCdmAdmin caller)
  let entry ← getRequest tenantId
  if entry.status = .approved then fail (.httpException 409 "Already approved.")
  else if entry.status = .rejected then
    fail (.httpException 409 "Request was rejected. Reset it before approving.")
  else do
    let p ← provision env tenantId entry.subCaCsr entry.mqttBridgeCsr entry.keycloakUrl
    -- step 4: the store is loaded again, its entry is not checked again
    let store ← loadStore
    match store.get? tenantId with
    | none => fail (.language (.keyError tenantId))
    | some stored => do
        let approvedAt ← now env
        saveStore (store.set tenantId (approvedEntry stored approvedAt p))
        pure { tenantId := tenantId, results := p.results, errors := p.errors, bundle := p }

def rejectedEntry (entry : JoinEntry) (rejectedAt : Datetime) (reason : String) : JoinEntry :=
  { entry with
    status := .rejected
    rejectedAt := some rejectedAt
    rejectedReason := some (if reason = "" then "Rejected by provider admin." else reason) }

structure RejectResponse where
  tenantId : String
  status : String := "rejected"

def rejectJoinRequest (env : Env) (caller : Caller) (tenantId reason : String) :
    App RejectResponse := do
  let _ ← language (getCdmAdmin caller)
  let entry ← getRequest tenantId
  if entry.status = .approved then
    fail (.httpException 409 "Cannot reject an already approved request.")
  else do
    let store ← loadStore
    match store.get? tenantId with
    | none => fail (.language (.keyError tenantId))
    | some stored => do
        let rejectedAt ← now env
        saveStore (store.set tenantId (rejectedEntry stored rejectedAt reason))
        pure { tenantId := tenantId }

def getJoinStatus (tenantId : String) : App JoinStatusResponse := do
  let entry ← getRequest tenantId
  match optionalStrField entry.signedCert, optionalStrField entry.rootCaCert,
      optionalStrField entry.mqttBridgeCert with
  | some signedCert, some rootCaCert, some mqttBridgeCert =>
      pure
        { tenantId := tenantId
          status := entry.status.text
          signedCert := signedCert
          rootCaCert := rootCaCert
          rabbitmqUrl := entry.rabbitmqUrl
          rabbitmqVhost := entry.rabbitmqVhost
          rabbitmqUser := entry.rabbitmqUser
          mqttBridgeCert := mqttBridgeCert
          cdmIdpClientId := entry.cdmIdpClientId
          cdmIdpClientSecret := entry.cdmIdpClientSecret
          cdmDiscoveryUrl := entry.cdmDiscoveryUrl
          wgServerPubkey := entry.wgServerPubkey
          wgServerEndpoint := entry.wgServerEndpoint
          wgClientIp := entry.wgClientIp
          rejectedReason := entry.rejectedReason }
  | _, _, _ => fail .validationError

end CompleteDeviceManagement.Source.JoinRouter
