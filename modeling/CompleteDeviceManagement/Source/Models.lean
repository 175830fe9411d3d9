import CompleteDeviceManagement.Library.Datetime
import CompleteDeviceManagement.Library.Dict
import CompleteDeviceManagement.Library.PyValue

/-!
# Request and response models, and the entries of the two JOIN stores

Source: glue-services/iot-bridge-api/app/models.py, and the entry formats of
app/clients/join_store.py and app/clients/join_key_store.py. Instants are kept
as `Datetime`; the stored text is their `isoformat`. A stored certificate is
whatever JSON value step-ca's answer had in that place.
-/

set_option autoImplicit false

namespace CompleteDeviceManagement.Source.Models
open CompleteDeviceManagement.Library

/-! ## models.py -/

def isSlugChar (c : Char) : Bool := Ascii.isLower c || Ascii.isDigit c

/-- The pattern `^[a-z0-9][a-z0-9-]{0,61}[a-z0-9]$`. -/
def tenantIdPattern (s : String) : Bool :=
  match s.toList with
  | [] => false
  | c :: rest =>
      match rest.reverse with
      | [] => false
      | last :: middle =>
          isSlugChar c && isSlugChar last && middle.all (fun m => isSlugChar m || m == '-') &&
            decide (middle.length ≤ 61)

/-- A body that pydantic has accepted. -/
structure TenantPrepareRequest where
  tenantId : String
  displayName : String
  pattern : tenantIdPattern tenantId = true

structure TenantPrepareResponse where
  tenantId : String
  displayName : String
  joinKey : String
  expiresAt : String
  hint : String :=
    "Set PROVIDER_URL=<this-api-base> and JOIN_KEY=<join_key> in the " ++
      "Tenant-Stack .env, then run `docker compose up`."

structure JoinHandshakePayload where
  subCaCsr : String
  wgPubkey : String
  keycloakUrl : String := ""
  mqttBridgeCsr : String := ""

structure JoinHandshakeResponse where
  tenantId : String
  status : String := "joined"
  signedCert : String
  rootCaCert : String
  rabbitmqUrl : Option String := none
  rabbitmqVhost : Option String := none
  rabbitmqUser : Option String := none
  mqttBridgeCert : Option String := none
  cdmIdpClientId : Option String := none
  cdmIdpClientSecret : Option String := none
  cdmDiscoveryUrl : Option String := none

structure JoinRequestPayload where
  displayName : String
  subCaCsr : String
  wgPubkey : String
  keycloakUrl : String := ""
  mqttBridgeCsr : String := ""

structure JoinStatusResponse where
  tenantId : String
  status : String
  signedCert : Option String := none
  rootCaCert : Option String := none
  rabbitmqUrl : Option String := none
  rabbitmqVhost : Option String := none
  rabbitmqUser : Option String := none
  mqttBridgeCert : Option String := none
  cdmIdpClientId : Option String := none
  cdmIdpClientSecret : Option String := none
  cdmDiscoveryUrl : Option String := none
  wgServerPubkey : Option String := none
  wgServerEndpoint : Option String := none
  wgClientIp : Option String := none
  rejectedReason : Option String := none

/-- A `str` field: pydantic accepts nothing but a text. -/
def strField : Json → Option String
  | .str s => some s
  | _ => none

theorem eq_str_of_strField {value : Json} {s : String} (h : strField value = some s) :
    value = .str s := by
  cases value with
  | str text =>
    cases h
    rfl
  | null => cases h
  | bool b => cases h
  | int n => cases h
  | float text => cases h
  | arr items => cases h
  | obj fields => cases h

/-- A `str | None` field. -/
def optionalStrField : Json → Option (Option String)
  | .null => some none
  | .str s => some (some s)
  | _ => none

/-! ## Entries of the stores -/

inductive JoinStatus where
  | pending | approved | rejected
  deriving DecidableEq, Repr

def JoinStatus.text : JoinStatus → String
  | .pending => "pending"
  | .approved => "approved"
  | .rejected => "rejected"

structure JoinEntry where
  tenantId : String
  displayName : String
  subCaCsr : String
  mqttBridgeCsr : String
  wgPubkey : String
  keycloakUrl : String
  status : JoinStatus
  requestedAt : Datetime
  approvedAt : Option Datetime
  rejectedAt : Option Datetime
  rejectedReason : Option String
  signedCert : Json
  rootCaCert : Json
  rabbitmqUrl : Option String
  rabbitmqVhost : Option String
  rabbitmqUser : Option String
  mqttBridgeCert : Json
  cdmIdpClientId : Option String
  cdmIdpClientSecret : Option String
  cdmDiscoveryUrl : Option String
  wgServerPubkey : Option String
  wgServerEndpoint : Option String
  wgClientIp : Option String

inductive KeyStatus where
  | «open» | used | expired | revoked
  deriving DecidableEq, Repr

def KeyStatus.text : KeyStatus → String
  | .open => "open"
  | .used => "used"
  | .expired => "expired"
  | .revoked => "revoked"

structure JoinKeyEntry where
  key : String
  tenantId : String
  displayName : String
  status : KeyStatus
  createdAt : Datetime
  expiresAt : Datetime
  usedAt : Option Datetime
  deriving DecidableEq

end CompleteDeviceManagement.Source.Models
