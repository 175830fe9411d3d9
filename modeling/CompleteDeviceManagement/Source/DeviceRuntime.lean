import CompleteDeviceManagement.Library.Server
import CompleteDeviceManagement.Source.StepCa
import CompleteDeviceManagement.Source.WireGuard

/-!
# What the device endpoints run on

The settings, files, calls and exceptions of the two device routers (enrollment
and webhooks), next to those of `Runtime`: hawkBit is a further service, and
the WireGuard volume holds three files the API reads or writes. Its file
operations are synchronous.
-/

set_option autoImplicit false

namespace CompleteDeviceManagement.Source.DeviceRuntime
open CompleteDeviceManagement.Library CompleteDeviceManagement.Source.Runtime
  CompleteDeviceManagement.Source.WireGuard
open CompleteDeviceManagement.Library.Fallible

/-- The members of `Settings` (app/config.py) that only the device side reads. -/
structure DeviceSettings where
  hawkbitUrl : String := "http://hawkbit:8070/hawkbit"
  hawkbitUser : String := "admin"
  hawkbitPassword : String := "admin"
  wgServerUrl : String := "localhost"
  wgPort : Nat := 51820

/-- `loadCsr` is `x509.load_pem_x509_csr(pem).is_signature_valid`, or the text
of the exception that either raises. -/
structure DeviceEnv where
  env : Env
  settings : DeviceSettings
  wg : WireGuardConfig
  loadCsr : String → Except String Bool

/-! ## HTTP -/

inductive HawkBitCall where
  /-- GET {base}/rest/v1/targets/{controllerId} -/
  | getTarget (controllerId : String)
  /-- POST {base}/rest/v1/targets -/
  | postTargets (controllerId : String) (name : Json)
  /-- PUT {base}/rest/v1/targets/{controllerId}/attributes -/
  | putAttributes (controllerId : String) (attributes : List (String × Json))

inductive DeviceRequest where
  | stepCa (request : HttpRequest)
  /-- a call of the management API at {base} -/
  | hawkbit (base user password : String) (call : HawkBitCall)

/-! ## Exceptions -/

inductive DeviceRaised where
  | api (error : Raised)
  | hawkBitError (message : String)
  | wireGuard (error : WireGuard.Error)

/-- `str(exc)` -/
def DeviceRaised.text (py : PyText) : DeviceRaised → String
  | .api error => error.text py
  | .hawkBitError message => message
  | .wireGuard (.wireGuardError message) => message
  | .wireGuard (.valueError text) => text

/-- `httpx.RequestError`; an `HTTPStatusError` is none. -/
def DeviceRaised.isRequestError : DeviceRaised → Bool
  | .api (.requestError _) => true
  | _ => false

def DeviceRaised.isStepCaError : DeviceRaised → Bool
  | .api error => error.isStepCaError
  | _ => false

def DeviceRaised.isHawkBitError : DeviceRaised → Bool
  | .hawkBitError _ => true
  | _ => false

/-! ## The state and the monad -/

/-- The WireGuard volume: cdm_peers.json, wg_confs/wg0.conf and
server/publickey. -/
structure WgFiles where
  peersDb : Option Peers
  wg0 : Option String
  publickey : Option String

structure DeviceWorld where
  api : World
  files : WgFiles

abbrev DeviceApp := Fallible DeviceWorld DeviceRequest HttpResult DeviceRaised

section Primitives

variable {α : Type}

/-- A part that only talks to step-ca. -/
def stepCa (x : App α) : DeviceApp α :=
  ExceptT.mk ((x.run.within DeviceWorld.api (fun api w => { w with api := api }) .stepCa).bind
    fun result => .ret (result.mapError .api))

def raise (error : Raised) : DeviceApp α := fail (.api error)

/-- An operation of the language on a value of unchecked type. -/
def checked (result : Except PyError α) : DeviceApp α :=
  settled (result.mapError fun error => .api (.language error))

/-- One HTTP exchange. -/
def exchange (request : DeviceRequest) : DeviceApp Response := do
  match ← perform (Proc.call request) with
  | .response r => pure r
  | .failure text => raise (.requestError text)

/-- `resp.json()` -/
def decoded (r : Response) : DeviceApp Json :=
  settled (r.json.mapError fun text => .api (.jsonDecodeError text))

/-- A synchronous operation on the WireGuard volume. -/
def onFiles (step : WgFiles → Except WireGuard.Error α × WgFiles) : DeviceApp α :=
  ExceptT.mk (.sync (fun w => { w with files := (step w.files).2 })
    fun w => .ret ((step w.files).1.mapError .wireGuard))

/-- The two `except` clauses around the calls to one service. -/
def answering (py : PyText) (isError : DeviceRaised → Bool) (unreachable failed : String)
    (body : DeviceApp α) : DeviceApp α := do
  match ← attempt (fun error => error.isRequestError || isError error) body with
  | .ok value => pure value
  | .error error =>
      if error.isRequestError then raise (.httpException 503 (unreachable ++ error.text py))
      else raise (.httpException 502 (failed ++ error.text py))

end Primitives

end CompleteDeviceManagement.Source.DeviceRuntime
