import CompleteDeviceManagement.Library.JsonText
import CompleteDeviceManagement.Source.DeviceRouters

/-!
# What request reaches `enroll_device`, and with what body

Source: glue-services/iot-bridge-api/app/main.py, app/routers/health.py,
app/routers/enrollment.py (prefix and route) and app/models.py. The first route
whose pattern and method match is taken, so the routers that main.py includes
after the enrollment router have no say here. The path is the one the
application gets, without the prefix that the proxy takes off.
-/

set_option autoImplicit false

namespace CompleteDeviceManagement.Source.EnrollmentApi
open CompleteDeviceManagement.Library CompleteDeviceManagement.Source.Models
  CompleteDeviceManagement.Source.DeviceRouters

/-! ## Routes -/

/-- A segment of a route's pattern; a parameter is `[^/]+`. -/
inductive Part where
  | literal (text : String)
  | parameter

def Part.accepts : Part → String → Option (List String)
  | .literal text, segment => if segment = text then some [] else none
  | .parameter, segment => if segment = "" then none else some [segment]

/-- The values of the parameters, if the segments match. -/
def matchParts : List Part → List String → Option (List String)
  | [], [] => some []
  | part :: parts, segment :: segments => do
      let value ← part.accepts segment
      let values ← matchParts parts segments
      some (value ++ values)
  | _, _ => none

inductive Handler where
  | health
  | enrollDevice
  deriving DecidableEq

structure Route where
  method : String
  parts : List Part
  handler : Handler

def routes : List Route :=
  [⟨"GET", [.literal "", .literal "health"], .health⟩,
    ⟨"POST", [.literal "", .literal "devices", .parameter, .literal "enroll"], .enrollDevice⟩]

def segmentsOf (path : String) : List String := (path.toList.splitOn '/').map String.ofList

def route (method path : String) : Option (Handler × List String) :=
  routes.findSome? fun r =>
    if r.method = method then (matchParts r.parts (segmentsOf path)).map fun values =>
      (r.handler, values)
    else none

example : route "POST" "/devices/sim-device-001/enroll" =
    some (.enrollDevice, ["sim-device-001"]) := by decide +kernel

/-! ## Bodies -/

/-- A member that may be left out. -/
def optionalMember {α : Type} (fields : List (String × Json)) (name : String) (default : α)
    (read : Json → Option α) : Option α :=
  match Json.field? name fields with
  | none => some default
  | some value => read value

/-- What pydantic makes of a JSON value. Other members are ignored. -/
def validateEnrollment : Json → Option EnrollmentRequest
  | .obj fields => do
      let csr ← (Json.field? "csr" fields).bind strField
      let deviceName ← (Json.field? "device_name" fields).bind strField
      let deviceType ← optionalMember fields "device_type" "generic" strField
      let wgPublicKey ← optionalMember fields "wg_public_key" none optionalStrField
      some ⟨csr, deviceName, deviceType, wgPublicKey⟩
  | _ => none

/-- The members of `EnrollmentResponse` in the JSON answer. -/
def responseFields : List String :=
  ["certificate", "ca_chain", "wireguard_ip", "wireguard_config"]

/-- A request on its way; `none` for a text that is not UTF-8. -/
structure Request where
  method : String
  url : Option String
  contentType : String
  body : Option String

/-- The body parameter of the handler; anything else is answered with 4xx. -/
def Request.enrollment (request : Request) : Option EnrollmentRequest :=
  if request.contentType = "application/json" then
    (request.body.bind JsonText.parse).bind validateEnrollment
  else none

end CompleteDeviceManagement.Source.EnrollmentApi
