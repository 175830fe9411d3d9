import CompleteDeviceManagement.Source.EnrollmentApi
import CompleteDeviceManagement.Source.InitSubCa

/-!
# The enrollment clients of the device stack

Source: device-stack/docker-based/bootstrap/enroll.sh,
device-stack/some-linux-x86_64-qemu/enroll.sh, the scripts cdm-enroll.sh and
cdm-enroll-tpm.sh of the two yocto layers, and
device-stack/freertos-x86_64-posix/enroll/enroll.c. Each is embedded from its
environment and the files it has generated to the request it sends and the
members it takes from the answer.
-/

set_option autoImplicit false

namespace CompleteDeviceManagement.Source.EnrollClients
open CompleteDeviceManagement.Library CompleteDeviceManagement.Source.EnrollmentApi
open CompleteDeviceManagement.Source.InitSubCa (captured)

/-- The variables a client reads; `none` for one that is unset. -/
structure Env where
  deviceId : Option String
  deviceName : Option String
  deviceType : Option String
  tenantId : Option String
  bridgeApiUrl : Option String

/-- What the client has generated: the texts of the files. -/
structure Generated where
  csr : String
  wgPublicKey : String

inductive Client where
  | docker
  | qemu
  | yocto
  | yoctoTpm
  | freertos
  deriving DecidableEq

/-- A request, and the members read from its answer. -/
structure Sent where
  request : Request
  extracts : List String

/-! ## Shell -/

/-- `${X:-default}`, and `env_or` of enroll.c -/
def orDefault (setting : Option String) (default : String) : String :=
  match setting with
  | none => default
  | some value => if value = "" then default else value

/-- `${X:?message}` -/
def required (setting : Option String) : Option String :=
  match setting with
  | none => none
  | some value => if value = "" then none else some value

/-- `${X%/}` -/
def dropSlash (text : String) : String :=
  match text.toList.reverse with
  | '/' :: rest => .ofList rest.reverse
  | _ => text

/-- The records awk reads: the lines, with or without a newline after the last. -/
def records (text : List Char) : List (List Char) :=
  let lines := text.splitOn '\n'
  if lines.getLast? = some [] then lines.dropLast else lines

/-- `awk '{printf "%s\\n", $0}'` -/
def inlined (csr : String) : List Char :=
  (records csr.toList).flatMap fun record => record ++ ['\\', 'n']

/-- `NF` is not zero. -/
def hasField (record : List Char) : Bool := record.any fun c => c != ' ' && c != '\t'

/-- `awk 'NF{printf "%s\\n", $0}'` -/
def inlinedFields (csr : String) : List Char :=
  ((records csr.toList).filter hasField).flatMap fun record => record ++ ['\\', 'n']

/-! ## docker-based/bootstrap/enroll.sh -/

def deviceIdDocker (env : Env) : String := orDefault env.deviceId "sim-device-001"

/-- What `jq -n` prints. -/
def payload (env : Env) (made : Generated) : Json :=
  .obj [("csr", .str (captured made.csr)),
    ("device_name", .str (orDefault env.deviceName "Simulated Device 001")),
    ("device_type", .str (orDefault env.deviceType "simulator")),
    ("wg_public_key", .str (captured made.wgPublicKey))]

def bridgeUrlDocker (env : Env) : String :=
  orDefault env.bridgeApiUrl "http://host.docker.internal:8888/api"

def enrollDocker (env : Env) (made : Generated) : Sent where
  request :=
    { method := "POST"
      url := some (bridgeUrlDocker env ++ "/devices/" ++ deviceIdDocker env ++ "/enroll")
      contentType := "application/json"
      body := some (captured
        (.ofList (JsonText.Style.jq.write 0 (payload env made) ++ ['\n']))) }
  extracts := ["certificate", "ca_chain", "wireguard_ip", "wireguard_config"]

/-! ## some-linux-x86_64-qemu/enroll.sh -/

/-- The body that this script and enroll.c put together. -/
def inlineBody (deviceId deviceType : String) (csr : List Char) : List Char :=
  "\x7b\"device_id\":\"".toList ++ deviceId.toList ++ "\",\"device_type\":\"".toList ++
    deviceType.toList ++ "\",\"csr\":\"".toList ++ csr ++ "\"\x7d".toList

def deviceIdQemu (env : Env) : String := orDefault env.deviceId "qemu-device-001"

def enrollQemu (env : Env) (made : Generated) : Option Sent :=
  (required env.bridgeApiUrl).map fun bridgeApiUrl =>
    { request :=
        { method := "POST"
          url := some (bridgeApiUrl ++ "/v1/enroll")
          contentType := "application/json"
          body := some (.ofList (inlineBody (deviceIdQemu env)
            (orDefault env.deviceType "qemu-x86_64") (inlined made.csr))) }
      extracts := ["certificate", "ca_chain"] }

/-! ## yocto: cdm-enroll.sh and cdm-enroll-tpm.sh -/

def yoctoBody (deviceId tenantId deviceType : String) (csr : List Char) : List Char :=
  "\x7b\n        \"device_id\":   \"".toList ++ deviceId.toList ++
    "\",\n        \"tenant_id\":   \"".toList ++ tenantId.toList ++
    "\",\n        \"device_type\": \"".toList ++ deviceType.toList ++
    "\",\n        \"csr\":         \"".toList ++ csr ++ "\"\n    \x7d".toList

/-- The two scripts send the same but for the default of `DEVICE_TYPE`. -/
def enrollYocto (defaultType : String) (env : Env) (made : Generated) : Option Sent := do
  let deviceId ← required env.deviceId
  let tenantId ← required env.tenantId
  let bridgeApiUrl ← required env.bridgeApiUrl
  some
    { request :=
        { method := "POST"
          url := some (dropSlash bridgeApiUrl ++ "/v1/enroll")
          contentType := "application/json"
          body := some (.ofList (yoctoBody deviceId tenantId
            (orDefault env.deviceType defaultType) (inlinedFields made.csr))) }
      extracts := ["certificate", "ca_chain"] }

def enrollRpi4 (env : Env) (made : Generated) : Option Sent := enrollYocto "rpi4" env made

def enrollRpi4Tpm (env : Env) (made : Generated) : Option Sent :=
  enrollYocto "rpi4-tpm" env made

/-! ## freertos-x86_64-posix/enroll/enroll.c -/

/-- `snprintf` with this much room before the terminating zero. A cut inside a
character leaves bytes that are no text. -/
def snprintf : Nat → List Char → Option (List Char)
  | _, [] => some []
  | room, c :: rest =>
      if c.utf8Size ≤ room then (snprintf (room - c.utf8Size) rest).map fun kept => c :: kept
      else if room = 0 then some []
      else none

/-- The loop that fills `csr_escaped`, from index `ei` on. A CSR is ASCII text. -/
def csrEscaped (ei : Nat) : List Char → List Char
  | [] => []
  | c :: rest =>
      if ei < 8192 - 3 then
        if c = '\n' then '\\' :: 'n' :: csrEscaped (ei + 2) rest
        else c :: csrEscaped (ei + 1) rest
      else []

def deviceIdFreertos (env : Env) : String := orDefault env.deviceId "freertos-device-001"

def cdmEnroll (env : Env) (made : Generated) : Option Sent :=
  (required env.bridgeApiUrl).map fun apiUrl =>
    { request :=
        { method := "POST"
          url := (snprintf (512 - 1) (apiUrl ++ "/v1/enroll").toList).map String.ofList
          contentType := "application/json"
          body := (snprintf (8192 + 256 - 1) (inlineBody (deviceIdFreertos env)
            (orDefault env.deviceType "freertos-posix")
            (csrEscaped 0 made.csr.toList))).map String.ofList }
      extracts := ["certificate", "ca_chain"] }

/-! ## Any of them -/

/-- The request, unless the client stops before it. -/
def enroll (client : Client) (env : Env) (made : Generated) : Option Sent :=
  match client with
  | .docker => some (enrollDocker env made)
  | .qemu => enrollQemu env made
  | .yocto => enrollRpi4 env made
  | .yoctoTpm => enrollRpi4Tpm env made
  | .freertos => cdmEnroll env made

/-- `DEVICE_ID` as the client sees it. -/
def deviceId (client : Client) (env : Env) : String :=
  match client with
  | .docker => deviceIdDocker env
  | .qemu => deviceIdQemu env
  | .yocto => env.deviceId.getD ""
  | .yoctoTpm => env.deviceId.getD ""
  | .freertos => deviceIdFreertos env

/-- `DEVICE_TYPE` as the client sees it. -/
def deviceType (client : Client) (env : Env) : String :=
  match client with
  | .docker => orDefault env.deviceType "simulator"
  | .qemu => orDefault env.deviceType "qemu-x86_64"
  | .yocto => orDefault env.deviceType "rpi4"
  | .yoctoTpm => orDefault env.deviceType "rpi4-tpm"
  | .freertos => orDefault env.deviceType "freertos-posix"

/-- What of `BRIDGE_API_URL` the client puts its path behind. -/
def bridgeUrl (client : Client) (env : Env) : String :=
  match client with
  | .docker => bridgeUrlDocker env
  | .qemu => env.bridgeApiUrl.getD ""
  | .yocto => dropSlash (env.bridgeApiUrl.getD "")
  | .yoctoTpm => dropSlash (env.bridgeApiUrl.getD "")
  | .freertos => env.bridgeApiUrl.getD ""

end CompleteDeviceManagement.Source.EnrollClients
