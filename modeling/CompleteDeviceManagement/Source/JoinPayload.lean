import CompleteDeviceManagement.Library.Sed
import CompleteDeviceManagement.Source.EnrollClients

/-!
# The payload of the JOIN handshake

Source: tenant-stack/step-ca/init-sub-ca.sh, from the CSR files to `PAYLOAD`, and
glue-services/iot-bridge-api/app/models.py, `JoinHandshakePayload`.
-/

set_option autoImplicit false

namespace CompleteDeviceManagement.Source.JoinPayload
open CompleteDeviceManagement.Library CompleteDeviceManagement.Source.Models
  CompleteDeviceManagement.Source.EnrollmentApi
open CompleteDeviceManagement.Library.Sed (Text Subst edited)
open CompleteDeviceManagement.Source.InitSubCa (captured)
open CompleteDeviceManagement.Source.EnrollClients (records)

/-! ## The filters of `_json_pem` -/

/-- `s/\\/\\\\/g` -/
def doubleBackslashes : Subst := ⟨['\\'], [.char '\\', .char '\\']⟩

/-- `s/"/\\"/g` -/
def escapeQuotes : Subst := ⟨['"'], [.char '\\', .char '"']⟩

/-- `sed 's/\\/\\\\/g; s/"/\\"/g'` -/
def sedEscape (input : Text) : Text := edited [doubleBackslashes, escapeQuotes] input

/-- `awk '{printf "%s\\n", $0}'`: the format ends in a backslash and an `n`. -/
def awkJoin (input : Text) : Text := (records input).flatMap fun line => line ++ ['\\', 'n']

/-- `s/\\n$//` -/
def removeEscape (line : Text) : Text :=
  if ['\\', 'n'] <:+ line then line.take (line.length - 2) else line

def editLast (command : Text → Text) : List Text → List Text
  | [] => []
  | [line] => [command line]
  | line :: rest => line :: editLast command rest

/-- `sed '$ s/\\n$//'` -/
def sedLast (input : Text) : Text :=
  ['\n'].intercalate (editLast removeEscape (records input)) ++
    (if input.getLast? = some '\n' then ['\n'] else [])

def jsonPem (text : Text) : Text := sedLast (awkJoin (sedEscape text))

/-! ## The payload -/

/-- What is sent beside the CSRs: the setting TENANT_KEYCLOAK_URL, the file
/etc/wireguard/pub_key and what `wg pubkey` prints, as far as there are such. -/
structure Forwarded where
  tenantKeycloakUrl : String := ""
  pubKeyFile : Option String := none
  wgPubkeyOutput : Option String := none

/-- `WG_PUBKEY` -/
def Forwarded.wgPubkey (forwarded : Forwarded) : String :=
  let found :=
    match forwarded.pubKeyFile, forwarded.wgPubkeyOutput with
    | some file, _ => captured file
    | none, some output => captured output
    | none, none => ""
  if found = "" then "not-available" else found

/-- `$(_json_pem "$(cat "$FILE")")` -/
def inlinedPem (file : String) : Text :=
  (captured (.ofList (jsonPem (captured file).toList))).toList

/-- `PAYLOAD` -/
def payload (forwarded : Forwarded) (csrFile mqttCsrFile : String) : String :=
  captured (.ofList
    ("\x7b\"sub_ca_csr\":\"".toList ++ inlinedPem csrFile ++
      "\",\"wg_pubkey\":\"".toList ++ forwarded.wgPubkey.toList ++
      "\",\"keycloak_url\":\"".toList ++ forwarded.tenantKeycloakUrl.toList ++
      "\",\"mqtt_bridge_csr\":\"".toList ++ inlinedPem mqttCsrFile ++ "\"\x7d".toList))

/-! ## The Provider's side -/

/-- What pydantic makes of a JSON value. -/
def validateHandshake : Json → Option JoinHandshakePayload
  | .obj fields => do
      let subCaCsr ← (Json.field? "sub_ca_csr" fields).bind strField
      let wgPubkey ← (Json.field? "wg_pubkey" fields).bind strField
      let keycloakUrl ← optionalMember fields "keycloak_url" "" strField
      let mqttBridgeCsr ← optionalMember fields "mqtt_bridge_csr" "" strField
      some ⟨subCaCsr, wgPubkey, keycloakUrl, mqttBridgeCsr⟩
  | _ => none

def received (body : String) : Option JoinHandshakePayload :=
  (JsonText.parse body).bind validateHandshake

end CompleteDeviceManagement.Source.JoinPayload
