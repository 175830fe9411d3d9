import CompleteDeviceManagement.Library.JsonLine
import CompleteDeviceManagement.Library.Sed
import CompleteDeviceManagement.Source.EnrollClients
import Mathlib.Logic.Function.Basic

/-!
# The bootstrap container

Source: device-stack/docker-based/bootstrap/enroll.sh, command by command, with
the JSON that app/routers/enrollment.py answers it. Left out are the trust store
of the first step, which no later command of the model reads, `chmod`, and what is
logged.
-/

set_option autoImplicit false

namespace CompleteDeviceManagement.Source.Bootstrap
open CompleteDeviceManagement.Library CompleteDeviceManagement.Source.DeviceRouters
  CompleteDeviceManagement.Source.DeviceRuntime CompleteDeviceManagement.Source.EnrollmentApi
  CompleteDeviceManagement.Source.EnrollClients
open CompleteDeviceManagement.Source.InitSubCa (captured)

/-! ## The volume -/

/-- The files below `CERTS_DIR`. -/
inductive File where
  | tlsPub | tlsKey | tlsCsr | wgPrivkey | wgPubkey | tlsCert | caChain | wgConfig | enrolledFlag
  deriving DecidableEq

abbrev Certs := File → Option String

def Certs.write (certs : Certs) (file : File) (text : String) : Certs :=
  Function.update certs file (some text)

/-- What of the variables a later command reads. -/
structure Vars where
  payload : Option Request := none
  response : Option String := none
  wgIp : Option String := none

structure Device where
  certs : Certs
  vars : Vars

/-! ## Tools -/

/-- What a WireGuard key is written with. -/
def isKeyChar (c : Char) : Bool := Ascii.isAlnum c || c == '+' || c == '/' || c == '='

def KeyText (key : String) : Prop := ∀ c ∈ key.toList, isKeyChar c = true

/-- `step certificate create --csr` of a key, a name and what it draws; `wg pubkey`
without the newline behind; sed. -/
structure Tools where
  csrOf : String → String → Nat → String
  pubkey : String → String
  sed : Sed.Editor
  pubkeyText : ∀ key, KeyText (pubkey key) ∧ pubkey key ≠ ""

/-- What is drawn in a run. `kept` is how much `tee` could write: its own failure
does not end the pipeline. -/
structure Given where
  pub : String
  key : String
  seed : Nat
  wgKey : String
  kept : Nat
  wgText : KeyText wgKey

def jqRaw (name text : String) : Option String :=
  match JsonText.parse text with
  | some (.obj fields) =>
      match (Json.field? name fields).getD .null with
      | .str value => some (value ++ "\n")
      | value => some (.ofList (JsonText.Style.jq.write 0 value ++ ['\n']))
  | some .null => some "null\n"
  | _ => none

/-- `s|<REPLACE_WITH_DEVICE_PRIVATE_KEY>|${WG_PRIV}|g` -/
def keyExpression (wgPriv : String) : Sed.Text :=
  's' :: '|' :: ("<REPLACE_WITH_DEVICE_PRIVATE_KEY>".toList ++ '|' :: (wgPriv.toList ++ ['|', 'g']))

/-! ## The script -/

inductive Command where
  | keypair | createCsr | wgKeys | makePayload | post | checkResponse | saveCert | saveChain
  | readWgIp | buildConfig | mark
  deriving DecidableEq

def commands : List Command :=
  [.keypair, .createCsr, .wgKeys, .makePayload, .post, .checkResponse, .saveCert, .saveChain,
    .readWgIp, .buildConfig, .mark]

def Command.targets : Command → List File
  | .keypair => [.tlsPub, .tlsKey]
  | .createCsr => [.tlsCsr]
  | .wgKeys => [.wgPrivkey, .wgPubkey]
  | .saveCert => [.tlsCert]
  | .saveChain => [.caChain]
  | .buildConfig => [.wgConfig]
  | .mark => [.enrolledFlag]
  | _ => []

/-- A device, the programs on it, and the API it is told to use; `reaches url` is
the path with which the API gets a request to that URL. -/
structure Site where
  env : EnrollClients.Env
  tools : Tools
  api : DeviceEnv
  reaches : String → Option String

variable (site : Site)

def Site.deviceId : String := deviceIdDocker site.env

/-- `echo "$RESPONSE" | jq -r name` -/
def extracted (vars : Vars) (name : String) : Option String := do
  let response ← vars.response
  jqRaw name (response ++ "\n")

/-- A command that succeeds. `post` is carried out together with the API. -/
def Command.run (given : Given) (d : Device) : Command → Option Device
  | .keypair => some { d with
      certs := (d.certs.write .tlsPub given.pub).write .tlsKey given.key }
  | .createCsr => do
      let key ← d.certs .tlsKey
      some { d with certs := d.certs.write .tlsCsr (site.tools.csrOf key site.deviceId given.seed) }
  | .wgKeys => some { d with
      certs := (d.certs.write .wgPrivkey (.ofList ((given.wgKey ++ "\n").toList.take given.kept)))
        |>.write .wgPubkey (site.tools.pubkey given.wgKey ++ "\n") }
  | .makePayload => do
      let csr ← d.certs .tlsCsr
      let wgPub ← d.certs .wgPubkey
      some { d with vars := { d.vars with
        payload := some (enrollDocker site.env ⟨csr, captured wgPub⟩).request } }
  | .post => none
  | .checkResponse =>
      match d.vars.response with
      | none => none
      | some response => if response = "" then none else some d
  | .saveCert => do
      let text ← extracted d.vars "certificate"
      some { d with certs := d.certs.write .tlsCert text }
  | .saveChain => do
      let text ← extracted d.vars "ca_chain"
      some { d with certs := d.certs.write .caChain text }
  | .readWgIp => do
      let text ← extracted d.vars "wireguard_ip"
      some { d with vars := { d.vars with wgIp := some (captured text) } }
  | .buildConfig => do
      let wgPriv ← d.certs .wgPrivkey
      let text ← extracted d.vars "wireguard_config"
      let config ← site.tools.sed.run [keyExpression (captured wgPriv)] text.toList
      some { d with certs := d.certs.write .wgConfig (.ofList config) }
  | .mark => do
      let wgIp ← d.vars.wgIp
      some { d with certs := d.certs.write .enrolledFlag (wgIp ++ "\n") }

/-! ## The API -/

/-- What FastAPI makes of an `EnrollmentResponse`. -/
def responseJson (resp : EnrollmentResponse) : Json := .obj
  [("certificate", .str resp.certificate), ("ca_chain", .str resp.caChain),
    ("wireguard_ip", .str resp.wireguardIp), ("wireguard_config", .str resp.wireguardConfig)]

def responseText (resp : EnrollmentResponse) : String :=
  .ofList (JsonLine.line JsonText.Style.unicode [] (responseJson resp))

/-- The call a request becomes, if a route and the body model take it. -/
def Site.call (request : Request) : Option DeviceCall :=
  match (request.url.bind site.reaches).bind (route request.method) with
  | some (.enrollDevice, [deviceId]) => request.enrollment.map (.enroll deviceId)
  | _ => none

end CompleteDeviceManagement.Source.Bootstrap
