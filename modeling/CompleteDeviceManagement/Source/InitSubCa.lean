import CompleteDeviceManagement.Source.Service
import Mathlib.Data.List.DropRight

/-!
# The tenant's side of the JOIN handshake

Source: tenant-stack/step-ca/init-sub-ca.sh, task 1, from the response on. Texts
hold no NUL character. Commands that only write files are taken to succeed: with
`set -e` the script ends where one fails.
-/

set_option autoImplicit false

namespace CompleteDeviceManagement.Source.InitSubCa
open CompleteDeviceManagement.Library CompleteDeviceManagement.Source.Models
  CompleteDeviceManagement.Source.Service

/-! ## What the script reads and writes -/

structure Host where
  providerUrl : String := ""
  joinKey : String := ""
  /-- whether `python3` can be run -/
  python3 : Bool := true

/-- The files under /tmp that `step certificate create` has written. -/
structure Generated where
  csr : String
  key : String
  mqttCsr : String
  mqttKey : String

/-- The files below /home/step that the script installs. -/
structure Volume where
  intermediateCert : Option String := none
  rootCert : Option String := none
  caKey : Option String := none
  mqttClientCert : Option String := none
  mqttClientKey : Option String := none
  mqttCa : Option String := none
  rabbitmqEnv : Option String := none
  keycloakFederationEnv : Option String := none

/-! ## The shell -/

/-- `$(...)`: an output without the newlines at its end. -/
def captured (output : String) : String :=
  .ofList (output.toList.rdropWhile (· == '\n'))

/-- `HTTP_CODE`, and the response file if it holds JSON. -/
structure CurlResult where
  httpCode : String
  response : Option Json

/-- The JSON that FastAPI makes of a `JoinHandshakeResponse`. -/
def bundleJson (body : JoinHandshakeResponse) : Json := .obj
  [("tenant_id", .str body.tenantId), ("status", .str body.status),
    ("signed_cert", .str body.signedCert), ("root_ca_cert", .str body.rootCaCert),
    ("rabbitmq_url", .ofOption body.rabbitmqUrl), ("rabbitmq_vhost", .ofOption body.rabbitmqVhost),
    ("rabbitmq_user", .ofOption body.rabbitmqUser),
    ("mqtt_bridge_cert", .ofOption body.mqttBridgeCert),
    ("cdm_idp_client_id", .ofOption body.cdmIdpClientId),
    ("cdm_idp_client_secret", .ofOption body.cdmIdpClientSecret),
    ("cdm_discovery_url", .ofOption body.cdmDiscoveryUrl)]

/-- `curl -sf ... || HTTP_CODE="000"`: with `-f` an error status is a failure,
as is no reply at all. -/
def curl : Option Reply → CurlResult
  | none => ⟨"000", none⟩
  | some (.joined body) => ⟨"200", some (bundleJson body)⟩
  -- the other replies of `join_handshake` are errors
  | some reply =>
      if 400 ≤ reply.statusCode then ⟨"000", none⟩ else ⟨toString reply.statusCode, none⟩

/-- `_jq`: what `print(d.get(key, ''))` leaves, nothing if it raises. -/
def jq (py : PyText) (host : Host) (bundle : Option Json) (key : String) : String :=
  match host.python3, bundle with
  | true, some d =>
      match d.get key (.str "") with
      | .ok value => captured (value.text py ++ "\n")
      | .error _ => ""
  | _, _ => ""

/-! ## Installing the bundle -/

section Install

variable (py : PyText) (host : Host) (generated : Generated) (bundle : Option Json)

/-- `printf '%s\n' "$text" > file` -/
def printed (text : String) : Option String := some (text ++ "\n")

def installCertificates (volume : Volume) : Volume :=
  let signedCert := jq py host bundle "signed_cert"
  let rootCaData := jq py host bundle "root_ca_cert"
  { volume with
    intermediateCert := if signedCert ≠ "" then printed signedCert else volume.intermediateCert
    rootCert := if rootCaData ≠ "" then printed rootCaData else volume.rootCert }

/-- `KEY_FILE` exists: without it the script has ended. -/
def installKey (volume : Volume) : Volume := { volume with caKey := some generated.key }

def installMqtt (volume : Volume) : Volume :=
  let rootCaData := jq py host bundle "root_ca_cert"
  let mqttCert := jq py host bundle "mqtt_bridge_cert"
  if mqttCert ≠ "" then
    { volume with
      mqttClientCert := printed mqttCert
      mqttClientKey := some generated.mqttKey
      mqttCa := if rootCaData ≠ "" then printed rootCaData else volume.mqttCa }
  else volume

/-- `s|pattern||`: without the first occurrence. -/
def removeFirst (pattern : List Char) : List Char → List Char
  | [] => []
  | c :: rest =>
      if pattern.isPrefixOf (c :: rest) then (c :: rest).drop pattern.length
      else c :: removeFirst pattern rest

/-- `sed 's|http://||; s|https://||; s|:.*||'` on one line. -/
def schemeAndPortRemoved (line : List Char) : List Char :=
  (removeFirst "https://".toList (removeFirst "http://".toList line)).takeWhile (· ≠ ':')

def mqttsHost (url : String) : String :=
  captured (.ofList (['\n'].intercalate ((url.toList.splitOn '\n').map schemeAndPortRemoved)))

def writeRabbitmqEnv (volume : Volume) : Volume :=
  let rmqUrl := jq py host bundle "rabbitmq_url"
  let dir := "/home/step/mqtt-bridge"
  if rmqUrl ≠ "" then
    { volume with
      rabbitmqEnv := some ("RABBITMQ_MQTTS_URL=mqtts://" ++ mqttsHost rmqUrl ++
        ":8883\nRABBITMQ_VHOST=" ++ jq py host bundle "rabbitmq_vhost" ++
        "\nRABBITMQ_USER=" ++ jq py host bundle "rabbitmq_user" ++
        "\nRABBITMQ_TLS_CERT=" ++ dir ++ "/client.crt\nRABBITMQ_TLS_KEY=" ++ dir ++
        "/client.key\nRABBITMQ_TLS_CA=" ++ dir ++ "/ca.crt\n") }
  else volume

def writeFederationEnv (volume : Volume) : Volume :=
  { volume with
    keycloakFederationEnv := some ("CDM_IDP_CLIENT_ID=" ++ jq py host bundle "cdm_idp_client_id" ++
      "\nCDM_IDP_CLIENT_SECRET=" ++ jq py host bundle "cdm_idp_client_secret" ++
      "\nCDM_DISCOVERY_URL=" ++ jq py host bundle "cdm_discovery_url" ++
      "\nKC_IDP_ALIAS=cdm-provider\n") }

def installBundle (volume : Volume) : Volume :=
  let volume := installCertificates py host bundle volume
  let volume := installKey generated volume
  let volume := installMqtt py host generated bundle volume
  let volume := writeRabbitmqEnv py host bundle volume
  writeFederationEnv py host bundle volume

end Install

/-- Task 1, with the Provider's reply to the handshake. -/
def initSubCa (py : PyText) (host : Host) (generated : Generated) (reply : Option Reply)
    (volume : Volume) : Volume :=
  if host.providerUrl ≠ "" ∧ host.joinKey ≠ "" then
    if (curl reply).httpCode ≠ "200" then volume
    else installBundle py host generated (curl reply).response volume
  else volume

/-! ## The identity provider -/

/-- The tenant's Keycloak, and the JSON it answers to the request for a token. -/
structure TenantKeycloak where
  internalUrl : String := "http://keycloak:8080/auth"
  tenantId : String
  tokenReply : Option Json

structure IdpRequest where
  url : String
  bearer : String
  body : Json

/-- `${text%/}` -/
def withoutSlash (text : String) : String :=
  if text.toList.getLast? = some '/' then .ofList text.toList.dropLast else text

/-- What `python3 -c` prints of its arguments. -/
def idpPayload (clientId clientSecret discoveryUrl : String) : Json := .obj
  [("alias", .str "cdm-provider"), ("displayName", .str "CDM Platform (Provider)"),
    ("providerId", .str "oidc"), ("enabled", .bool true), ("trustEmail", .bool true),
    ("storeToken", .bool false), ("addReadTokenRoleOnCreate", .bool false),
    ("config", .obj
      [("clientId", .str clientId), ("clientSecret", .str clientSecret),
        ("metadataDescriptorUrl", .str discoveryUrl), ("useJwksUrl", .str "true"),
        ("syncMode", .str "FORCE"), ("defaultScope", .str "openid profile email roles")])]

/-- The requests that create the provider. The program that prints `KC_TOKEN` is
the one of `_jq`, and `python3` has run where `CDM_IDP_CLIENT_ID` is not empty. -/
def registerIdp (py : PyText) (host : Host) (keycloak : TenantKeycloak) (bundle : Option Json) :
    List IdpRequest :=
  let clientId := jq py host bundle "cdm_idp_client_id"
  if clientId ≠ "" ∧ keycloak.internalUrl ≠ "" then
    let kcToken := jq py host keycloak.tokenReply "access_token"
    if kcToken ≠ "" then
      [{ url := withoutSlash keycloak.internalUrl ++ "/admin/realms/" ++ keycloak.tenantId ++
          "/identity-provider/instances"
         bearer := kcToken
         body := idpPayload clientId (jq py host bundle "cdm_idp_client_secret")
          (jq py host bundle "cdm_discovery_url") }]
    else []
  else []

/-- The requests of task 1. -/
def idpRequests (py : PyText) (host : Host) (keycloak : TenantKeycloak) (reply : Option Reply) :
    List IdpRequest :=
  if host.providerUrl ≠ "" ∧ host.joinKey ≠ "" then
    if (curl reply).httpCode ≠ "200" then []
    else registerIdp py host keycloak (curl reply).response
  else []

/-! ## The pair -/

theorem installBundle_caKey (py : PyText) (host : Host) (generated : Generated)
    (bundle : Option Json) (volume : Volume) :
    (installBundle py host generated bundle volume).caKey = some generated.key := by
  simp only [installBundle, writeFederationEnv, writeRabbitmqEnv, installMqtt, installKey]
  split <;> split <;> rfl

theorem installBundle_intermediateCert (py : PyText) (host : Host) (generated : Generated)
    (bundle : Option Json) (volume : Volume) :
    (installBundle py host generated bundle volume).intermediateCert =
      if jq py host bundle "signed_cert" ≠ "" then printed (jq py host bundle "signed_cert")
      else volume.intermediateCert := by
  simp only [installBundle, writeFederationEnv, writeRabbitmqEnv, installMqtt, installKey]
  split <;> split <;> rfl

theorem captured_newline (text : String) : captured (text ++ "\n") = captured text := by
  have letters : (text ++ "\n").toList = text.toList ++ ['\n'] := by simp
  unfold captured
  rw [letters, List.rdropWhile_concat_pos _ _ _ (by decide)]

/-- `$(cat …)` gives the text of the file if and only if it does not end in a
newline. -/
theorem captured_eq_iff (text : String) :
    captured text = text ↔ text.toList.getLast? ≠ some '\n' := by
  have hlist : captured text = text ↔
      text.toList.rdropWhile (· == '\n') = text.toList := by
    unfold captured
    constructor
    · intro h
      rw [← h, String.toList_ofList, List.rdropWhile_idempotent]
    · intro h
      rw [h, String.ofList_toList]
  rw [hlist, List.rdropWhile_eq_self_iff]
  constructor
  · intro h hlast
    obtain ⟨front, hfront⟩ := List.getLast?_eq_some_iff.mp hlast
    apply h
    · simp [hfront]
    · simp [hfront]
  · intro h hne hlast
    apply h
    rw [List.getLast?_eq_some_getLast hne]
    simpa using hlast

end CompleteDeviceManagement.Source.InitSubCa
