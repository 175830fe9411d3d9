import CompleteDeviceManagement.Source.JoinRouter

/-!
# The two copies of the provisioning pipeline

Source: glue-services/iot-bridge-api/app/routers/join.py. `_run_provisioning`
and steps 1 to 3 of `approve_join_request` are written out separately there, and
here each is transcribed on its own. What only goes to the log is left out: in
`_run_provisioning` that is `errors` and the display name.
-/

set_option autoImplicit false

namespace CompleteDeviceManagement.Source.JoinPipelines
open CompleteDeviceManagement.Library CompleteDeviceManagement.Source.Models
  CompleteDeviceManagement.Source.Runtime CompleteDeviceManagement.Source.RabbitMq
  CompleteDeviceManagement.Source.StepCa CompleteDeviceManagement.Source.AdminPortal
  CompleteDeviceManagement.Source.JoinRouter
open CompleteDeviceManagement.Library.Fallible

/-! ## `_run_provisioning` -/

/-- `JoinHandshakeResponse(…)`: pydantic checks the three fields that are not
texts already. -/
def handshakeResponse (tenantId : String) (signedCert rootCaCert : Json) (rmqUrl rmqVhost : String)
    (rmqMqttUser : String) (mqttBridgeCert : Json) (cdmIdpClientId cdmIdpClientSecret : String)
    (cdmDiscoveryUrl : String) : App JoinHandshakeResponse :=
  match strField signedCert, strField rootCaCert,
      optionalStrField (if mqttBridgeCert.truthy then mqttBridgeCert else .null) with
  | some signedCert, some rootCaCert, some mqttBridgeCert =>
      pure
        { tenantId := tenantId
          signedCert := signedCert
          rootCaCert := rootCaCert
          rabbitmqUrl := rmqUrl
          rabbitmqVhost := rmqVhost
          rabbitmqUser := rmqMqttUser
          mqttBridgeCert := mqttBridgeCert
          cdmIdpClientId := orNone cdmIdpClientId
          cdmIdpClientSecret := orNone cdmIdpClientSecret
          cdmDiscoveryUrl := cdmDiscoveryUrl }
  | _, _, _ => fail .validationError

def handshakePipeline (env : Env) (tenantId : String) (payload : JoinHandshakePayload) :
    App JoinHandshakeResponse := do
  let settings := env.settings
  -- 1. Sign Sub-CA CSR
  let signing ← attempt Raised.isStepCaError do
    let scaAdmin := stepCaAdmin settings
    let certs ← scaAdmin.signSubCaCsr env payload.subCaCsr tenantId
      settings.stepCaSubCaProvisioner settings.stepCaSubCaPassword
    if certs.2.truthy then pure certs
    else do
      let rootCaCert ← fetchRootCaCert env
      pure (certs.1, rootCaCert)
  let (signedCert, rootCaCert) := match signing with
    | .ok certs => certs
    | .error _ => (.str "", .str "")
  -- 2. Provision RabbitMQ vHost
  let rmqVhost := tenantId
  let rmqUrl := settings.rabbitmqMgmtUrl
  let rmqMqttUser := tenantId ++ "-mqtt-bridge"
  let _ ← attempt (fun _ => true) do
    let rmq := rabbitmq settings
    rmq.createVhost rmqVhost
    rmq.createUser rmqMqttUser "" "none"
    rmq.setPermissions rmqMqttUser rmqVhost
  -- 2b. Sign MQTT bridge certificate
  let mqttBridgeCert ← if payload.mqttBridgeCsr = "" then pure (.str "")
    else do
      let signing ← attempt Raised.isStepCaError do
        let scaClient := stepCaClient settings
        scaClient.signCertificate env payload.mqttBridgeCsr rmqMqttUser [rmqMqttUser]
      match signing with
      | .ok certs => pure certs.1
      | .error _ => pure (.str "")
  -- 3. Keycloak federation client
  let cdmDiscoveryUrl := rstripSlash settings.externalUrl ++
    "/auth/realms/cdm/.well-known/openid-configuration"
  let federation ← attempt (fun _ => true) do
    let token ← kcAdminToken env
    kcCreateFederationClient env tenantId payload.keycloakUrl token
  let (cdmIdpClientId, cdmIdpClientSecret) := match federation with
    | .ok client => client
    | .error _ => ("", "")
  handshakeResponse tenantId signedCert rootCaCert rmqUrl rmqVhost rmqMqttUser mqttBridgeCert
    cdmIdpClientId cdmIdpClientSecret cdmDiscoveryUrl

/-! ## Steps 1 to 3 of `approve_join_request` -/

def approvalPipeline (env : Env) (tenantId : String) (entry : JoinEntry) : App Provisioned := do
  let settings := env.settings
  let errors : Dict String String := Dict.empty
  let results : Dict String String := Dict.empty
  -- 1. Sign Sub-CA CSR
  let signing ← attempt Raised.isStepCaError do
    let scaAdmin := stepCaAdmin settings
    let certs ← scaAdmin.signSubCaCsr env entry.subCaCsr tenantId
      settings.stepCaSubCaProvisioner settings.stepCaSubCaPassword
    if certs.2.truthy then pure certs
    else do
      let rootCaCert ← fetchRootCaCert env
      pure (certs.1, rootCaCert)
  let (signedCert, rootCaCert, results, errors) := match signing with
    | .ok certs => (certs.1, certs.2, results.set "step_ca" "signed", errors)
    | .error exc => (.str "", .str "", results, errors.set "step_ca" (exc.text env.py))
  -- 2. Provision RabbitMQ vHost
  let rmqVhost := tenantId
  let rmqUrl := settings.rabbitmqMgmtUrl
  let rmqMqttUser := tenantId ++ "-mqtt-bridge"
  let broker ← attempt (fun _ => true) do
    let rmq := rabbitmq settings
    rmq.createVhost rmqVhost
    rmq.createUser rmqMqttUser "" "none"
    rmq.setPermissions rmqMqttUser rmqVhost
  let (results, errors) := match broker with
    | .ok _ => (results.set "rabbitmq" "provisioned", errors)
    | .error exc => (results, errors.set "rabbitmq" (exc.text env.py))
  -- 2b. Sign MQTT bridge client certificate
  let mqttBridgeCsr := entry.mqttBridgeCsr
  let (mqttBridgeCert, results, errors) ← if mqttBridgeCsr ≠ "" then do
      let signing ← attempt Raised.isStepCaError do
        let scaClient := stepCaClient settings
        scaClient.signCertificate env mqttBridgeCsr rmqMqttUser [rmqMqttUser]
      match signing with
      | .ok certs => pure (certs.1, results.set "mqtt_bridge_cert" "signed", errors)
      | .error exc =>
          pure (.str "", results, errors.set "mqtt_bridge_cert" (exc.text env.py))
    else pure (.str "",
      results.set "mqtt_bridge_cert" "skipped (no mqtt_bridge_csr provided)", errors)
  -- 3. Create Keycloak federation client in Provider cdm realm
  let tenantKcUrl := entry.keycloakUrl
  let cdmDiscoveryUrl := rstripSlash settings.externalUrl ++
    "/auth/realms/cdm/.well-known/openid-configuration"
  let federation ← attempt (fun _ => true) do
    let token ← kcAdminToken env
    kcCreateFederationClient env tenantId tenantKcUrl token
  let (cdmIdpClientId, cdmIdpClientSecret, results, errors) := match federation with
    | .ok client => (client.1, client.2, results.set "keycloak_federation" "client_created", errors)
    | .error exc => ("", "", results, errors.set "keycloak_federation" (exc.text env.py))
  pure
    { signedCert := signedCert
      rootCaCert := rootCaCert
      rmqUrl := rmqUrl
      rmqVhost := rmqVhost
      rmqMqttUser := rmqMqttUser
      mqttBridgeCert := mqttBridgeCert
      cdmIdpClientId := cdmIdpClientId
      cdmIdpClientSecret := cdmIdpClientSecret
      cdmDiscoveryUrl := cdmDiscoveryUrl
      results := results
      errors := errors }

/-! ## Both are the steps of `JoinRouter` -/

/-- Only the first half of what was signed is kept. -/
theorem attempt_first {catches : Raised → Bool} (x : App (Json × Json)) :
    attempt catches (x >>= fun certs => pure certs.1) =
      attempt catches x >>= fun signing => pure (signing.map Prod.fst) := by
  apply ExceptT.ext
  rw [run_bind]
  unfold attempt
  rw [run_bind]
  simp only [ExceptT.run_mk, Proc.bind_assoc]
  congr 1
  funext result
  cases result with
  | ok certs => rfl
  | error error =>
    cases hc : catches error with
    | true => simp [Proc.bind, onward, caught, hc, Except.map]
    | false => simp [Proc.bind, onward, caught, hc]

theorem approvalPipeline_eq (env : Env) (tenantId : String) (entry : JoinEntry) :
    approvalPipeline env tenantId entry =
      provision env tenantId entry.subCaCsr entry.mqttBridgeCsr entry.keycloakUrl := by
  unfold approvalPipeline provision signSubCa
  dsimp only
  refine bind_congr fun signing => ?_
  unfold provisionRabbitMq
  refine bind_congr fun broker => ?_
  unfold signMqttBridge
  by_cases hcsr : entry.mqttBridgeCsr = ""
  · simp only [hcsr, ne_eq, not_true_eq_false, if_false, if_true, pure_bind]
    refine bind_congr fun federation => ?_
    cases signing <;> cases broker <;> cases federation <;> rfl
  · simp only [hcsr, ne_eq, not_false_eq_true, if_false, if_true, attempt_first, bind_assoc,
      map_eq_pure_bind, pure_bind]
    refine bind_congr fun bridge => ?_
    cases bridge with
    | ok certs =>
      dsimp only
      refine bind_congr fun federation => ?_
      cases signing <;> cases broker <;> cases federation <;> rfl
    | error exc =>
      dsimp only
      refine bind_congr fun federation => ?_
      cases signing <;> cases broker <;> cases federation <;> rfl

theorem handshakePipeline_eq (env : Env) (tenantId : String) (payload : JoinHandshakePayload) :
    handshakePipeline env tenantId payload = runProvisioning env tenantId payload := by
  unfold handshakePipeline runProvisioning provision signSubCa
  dsimp only
  simp only [bind_assoc]
  refine bind_congr fun signing => ?_
  unfold provisionRabbitMq
  refine bind_congr fun broker => ?_
  unfold signMqttBridge
  by_cases hcsr : payload.mqttBridgeCsr = ""
  · simp only [hcsr, if_true, pure_bind]
    refine bind_congr fun federation => ?_
    cases signing <;> cases federation <;> rfl
  · simp only [hcsr, if_false, attempt_first, bind_assoc, map_eq_pure_bind, pure_bind]
    refine bind_congr fun bridge => ?_
    cases bridge with
    | ok certs =>
      dsimp only
      refine bind_congr fun federation => ?_
      cases signing <;> cases federation <;> rfl
    | error exc =>
      dsimp only
      refine bind_congr fun federation => ?_
      cases signing <;> cases federation <;> rfl

end CompleteDeviceManagement.Source.JoinPipelines
