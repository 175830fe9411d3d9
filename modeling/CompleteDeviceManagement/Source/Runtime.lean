import CompleteDeviceManagement.Library.Fallible
import CompleteDeviceManagement.Source.Models

/-!
# The process the API runs in

The shared state of the one uvicorn worker: the two JSON files with their
locks, and how much of the clock and of `secrets` has been consumed. Files are
read and written synchronously and succeed. A coroutine leaves the thread only
at an HTTP exchange and at a lock that is held. HTTP requests are kept as calls
with their arguments; the URL of each is noted at its constructor.
-/

set_option autoImplicit false

namespace CompleteDeviceManagement.Source.Runtime
open CompleteDeviceManagement.Library CompleteDeviceManagement.Source.Models

/-! ## Settings and packages -/

/-- The members of `Settings` (app/config.py) that the modelled code reads. -/
structure Settings where
  stepCaUrl : String := "https://step-ca:9000"
  stepCaFingerprint : String := ""
  stepCaProvisionerName : String := "iot-bridge"
  stepCaProvisionerPassword : String := "changeme"
  stepCaVerifyTls : Bool := true
  keycloakUrl : String := "http://keycloak:8080/auth"
  externalUrl : String := "http://localhost:8888"
  portalOidcSecret : String := "changeme"
  rabbitmqMgmtUrl : String := "http://rabbitmq:15672"
  rabbitmqAdminUser : String := "admin"
  rabbitmqAdminPassword : String := "changeme"
  keycloakAdminUser : String := "admin"
  keycloakAdminPassword : String := "changeme"
  stepCaAdminProvisioner : String := "cdm-admin@cdm.local"
  stepCaAdminPassword : String := "changeme"
  stepCaSubCaProvisioner : String := "tenant-sub-ca-signer"
  stepCaSubCaPassword : String := "changeme"

structure Jwk where
  keyId : Option String
  data : Json

/-- A JWT by what it signs; `alg` is ES256. -/
structure Jwt where
  kid : Option String
  iss : String
  sub : String
  aud : List String
  iat : Int
  nbf : Int
  exp : Int
  sans : Option (List String)
  sha : Option String
  key : Jwk

/-- What the code uses of the packages jwcrypto and cryptography. A failure is
the text of the exception they raise. -/
structure Crypto where
  /-- decrypt a JWE with a password and read the JWK in it -/
  decryptKey : Json → String → Except String Jwk
  /-- base64url SHA-256 of the DER of a PEM CSR -/
  csrSha : String → Except String String
  /-- `make_signed_token` and `serialize` -/
  signToken : Jwt → Except String Unit

/-- Everything the process is given and does not change. `clock` and `choice`
are the successive readings of the clock and of `secrets`; `loadsBase64` is
`json.loads(b64decode(text))`, and `none` where either raises. -/
structure Env where
  settings : Settings
  py : PyText
  crypto : Crypto
  loadsBase64 : String → Option Json
  clock : Nat → Datetime
  choice : Nat → Nat

/-! ## Text -/

/-- `s.rstrip("/")` -/
def rstripSlash (s : String) : String :=
  .ofList (s.toList.reverse.dropWhile (· == '/')).reverse

/-- `s[:n]` -/
def prefixOf (s : String) (n : Nat) : String := .ofList (s.toList.take n)

/-! ## HTTP -/

inductive RabbitCall where
  /-- PUT /api/vhosts/{name} -/
  | putVhost (name description : String)
  /-- DELETE /api/vhosts/{name} -/
  | deleteVhost (name : String)
  /-- PUT /api/users/{name} -/
  | putUser (name password tags : String)
  /-- DELETE /api/users/{name} -/
  | deleteUser (name : String)
  /-- PUT /api/permissions/{vhost}/{user} -/
  | putPermissions (user vhost configure write read : String)
  deriving DecidableEq

inductive HttpRequest where
  /-- GET {base}/realms/cdm/protocol/openid-connect/userinfo -/
  | keycloakUserinfo (base token : String)
  /-- POST {base}/realms/master/protocol/openid-connect/token -/
  | keycloakAdminToken (base user password : String)
  /-- POST {base}/admin/realms/cdm/clients -/
  | keycloakCreateClient (base token : String) (payload : Json)
  /-- POST {base}/admin/realms -/
  | keycloakCreateRealm (base token : String) (payload : Json)
  /-- DELETE {base}/admin/realms/{realm} -/
  | keycloakDeleteRealm (base token realm : String)
  /-- GET {base}/admin/realms/{realm}/clients?clientId={client} -/
  | keycloakClients (base token realm client : String)
  /-- GET {base}/admin/realms/{realm}/clients/{client}/protocol-mappers/models -/
  | keycloakMappers (base token realm client : String)
  /-- POST {base}/admin/realms/{realm}/clients/{client}/protocol-mappers/models -/
  | keycloakAddMapper (base token realm client : String) (payload : Json)
  /-- POST {base}/admin/realms/{realm}/users -/
  | keycloakCreateUser (base token realm : String) (payload : Json)
  /-- GET {base}/admin/realms/{realm}/roles -/
  | keycloakRoles (base token realm : String)
  /-- POST {base}/admin/realms/{realm}/users/{user}/role-mappings/realm -/
  | keycloakAssignRoles (base token realm user : String) (roles : Json)
  /-- GET {base}/1.0/provisioners -/
  | stepCaProvisioners (base : String)
  /-- POST {base}/1.0/sign -/
  | stepCaSign (base csr : String) (ott : Jwt)
  /-- GET {base}/1.0/root/{fingerprint} -/
  | stepCaRoot (base fingerprint : String)
  /-- POST {base}/admin/provisioners -/
  | stepCaAddProvisioner (base : String) (token : Jwt) (payload : Json)
  /-- a call of the management API at {base} -/
  | rabbitmq (base user password : String) (call : RabbitCall)

structure Response where
  status : Nat
  text : String
  /-- the decoded body, or the text of the exception `json()` raises -/
  json : Except String Json
  location : Option String := none

def Response.isSuccess (r : Response) : Bool := 200 ≤ r.status && r.status ≤ 299

/-- An answer, or a transport error with its text. -/
inductive HttpResult where
  | response (r : Response)
  | failure (text : String)

/-! ## Exceptions -/

inductive Raised where
  | stepCaError (message : String)
  | rabbitMqError (message : String)
  | httpException (status : Nat) (detail : String)
  | runtimeError (message : String)
  | language (error : PyError)
  /-- httpx could not exchange the request -/
  | requestError (text : String)
  /-- `raise_for_status` on a response of this status -/
  | httpStatusError (status : Nat)
  | jsonDecodeError (text : String)
  /-- raised inside jwcrypto or cryptography -/
  | packageError (text : String)
  /-- a response model rejected its fields -/
  | validationError

/-- `str(exc)` -/
def Raised.text (py : PyText) : Raised → String
  | .stepCaError message => message
  | .rabbitMqError message => message
  | .httpException status detail => toString status ++ ": " ++ detail
  | .runtimeError message => message
  | .language (.keyError key) => py.repr key
  | .language (.indexError text) => text
  | .language (.valueError text) => text
  | .language (.attributeError text) => text
  | .language (.typeError text) => text
  | .requestError text => text
  | .httpStatusError status => toString status
  | .jsonDecodeError text => text
  | .packageError text => text
  | .validationError => "validation error"

def Raised.isStepCaError : Raised → Bool
  | .stepCaError _ => true
  | _ => false

def Raised.isRabbitMqError : Raised → Bool
  | .rabbitMqError _ => true
  | _ => false

/-! ## The state and the monad -/

abbrev JoinStore := Dict String JoinEntry

abbrev KeyStore := Dict String JoinKeyEntry

/-- A file that does not exist yet is `none`. -/
structure World where
  requests : Option JoinStore
  keys : Option KeyStore
  storeLocked : Bool
  keyLocked : Bool
  ticks : Nat
  choices : Nat

/-- Before the first request: neither file exists and no lock is held. -/
def World.empty : World := ⟨none, none, false, false, 0, 0⟩

abbrev App := Fallible World HttpRequest HttpResult Raised

section Primitives

variable {α : Type}

open Fallible

/-- An operation of the language on a value of unchecked type. -/
def language (result : Except PyError α) : App α := settled (result.mapError .language)

def package (result : Except String α) : App α := settled (result.mapError .packageError)

/-- One HTTP exchange: the coroutine is suspended until the answer is there. -/
def exchange (request : HttpRequest) : App Response := do
  match ← perform (Proc.call request) with
  | .response r => pure r
  | .failure text => fail (.requestError text)

/-- `resp.json()` -/
def Response.decoded (r : Response) : App Json := settled (r.json.mapError .jsonDecodeError)

/-- `resp.raise_for_status()` -/
def Response.raiseForStatus (r : Response) : App Unit :=
  if r.isSuccess then pure () else fail (.httpStatusError r.status)

end Primitives

section Environment

variable (env : Env)

open Fallible

/-- `datetime.now(UTC)` -/
def now : App Datetime := do
  let w ← perform Proc.get
  perform (Proc.modify fun w => { w with ticks := w.ticks + 1 })
  pure (env.clock w.ticks)

theorem now_runs (w : World) :
    Proc.RunsTo (now env).run w (.ok (env.clock w.ticks)) { w with ticks := w.ticks + 1 } := rfl

/-- `n` calls of `secrets.choice(alphabet)`, the readings counted from `start`. -/
def chosen (alphabet : List Char) (start n : Nat) : List Char :=
  (List.range n).map fun i => alphabet.getD (env.choice (start + i) % alphabet.length) ' '

def choose (alphabet : List Char) (n : Nat) : App String := do
  let w ← perform Proc.get
  perform (Proc.modify fun w => { w with choices := w.choices + n })
  pure (.ofList (chosen env alphabet w.choices n))

end Environment

/-- ASCII tables, packages that accept everything, a clock that advances one
microsecond a reading and choices that count up. -/
def Env.counting : Env where
  settings := {}
  py := PyText.ascii
  crypto :=
    { decryptKey := fun _ _ => .ok ⟨none, .null⟩
      csrSha := fun csr => .ok csr
      signToken := fun _ => .ok () }
  loadsBase64 := fun _ => none
  clock := fun n => ⟨63892281600000000 + n⟩
  choice := id

end CompleteDeviceManagement.Source.Runtime
