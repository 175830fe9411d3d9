import CompleteDeviceManagement.Library.JsonText
import CompleteDeviceManagement.Source.TerminalUpgrade
import CompleteDeviceManagement.Source.WireGuard

/-!
# cdm_peers.json, one file operation at a time

Source: glue-services/iot-bridge-api/app/clients/wireguard.py, `_load_peers`,
`_save_peers` and `allocate_ip`, and glue-services/terminal-proxy/src/ipResolver.ts.
`write_text` opens the file and so empties it, writes the text in any number of
portions and closes. The API process does nothing else meanwhile; the
terminal-proxy reads the file whenever it likes, and the API process can be
stopped and started again between any two operations. What was written stays.
-/

set_option autoImplicit false

namespace CompleteDeviceManagement.Source.PeersFile
open CompleteDeviceManagement.Library CompleteDeviceManagement.Source.WireGuard

/-! ## The text of the database -/

/-- `json.dumps(peers, indent=2)` -/
def dumpPeers (peers : Peers) : String :=
  .ofList (JsonText.Style.ascii.write 0 (.obj (peers.items.map fun item => (item.1, .str item.2))))

def textMembers : List (String × Json) → Option (List (String × String))
  | [] => some []
  | (key, .str text) :: rest => (textMembers rest).map fun more => (key, text) :: more
  | _ :: _ => none

/-- A mapping from texts to texts, if the value is one. -/
def peersOf : Json → Option Peers
  | .obj fields =>
      (textMembers fields).map fun members =>
        members.foldl (fun (d : Peers) member => d.set member.1 member.2) .empty
  | _ => none

/-- `json.loads` and `JSON.parse` on what the file holds; `none` where they
throw, or read something else than the mapping that `_save_peers` writes. -/
def readPeers (content : String) : Option Peers := (JsonText.parse content).bind peersOf

/-- `_load_peers` -/
def loadPeersFile (file : Option String) : Option Peers :=
  match file with
  | none => some Dict.empty
  | some content => readPeers content

/-! ## The processes -/

/-- A call of `allocate_ip` that has chosen a new address. `before` is what it
loaded, `after` what it saves. -/
structure Save where
  deviceId : String
  ip : String
  before : Peers
  after : Peers
  deriving DecidableEq

def Save.content (save : Save) : List Char := (dumpPeers save.after).toList

inductive Phase where
  | loaded
  /-- open, and so far this much of the text is in the file -/
  | writing (done : Nat)
  | written

inductive Api where
  | down
  | idle
  | saving (save : Save) (phase : Phase)

structure State where
  file : Option String
  api : Api

inductive AllocateError where
  | jsonDecodeError
  | raised (error : WireGuard.Error)
  deriving DecidableEq

/-- What is seen of a run: how a call of `allocate_ip` and of `resolve` ended,
and what mapping a crash during a save left in the file. -/
inductive Event where
  | returned (deviceId ip : String)
  | raised (deviceId : String) (error : AllocateError)
  | resolved (deviceId : String) (ip : Option String)
  | crashed (save : Save) (left : Option Peers)
  deriving DecidableEq

inductive Action where
  | allocate (deviceId : String)
  /-- `open(…, "w")` -/
  | truncate
  | writePrefix (done : Nat)
  | writeRest
  | close
  | crash
  | restart
  | resolve (deviceId : String)

/-- `allocate_ip` up to the save: an answer, or what is to be saved. -/
def allocate (wg : WireGuardConfig) (file : Option String) (deviceId : String) :
    Event ⊕ Save :=
  match loadPeersFile file with
  | none => .inl (.raised deviceId .jsonDecodeError)
  | some peers =>
      match allocateIp wg (some peers) deviceId with
      | (.error error, _) => .inl (.raised deviceId (.raised error))
      | (.ok ip, peersDb) =>
          if (peers.get? deviceId).isSome then .inl (.returned deviceId ip)
          else .inr ⟨deviceId, ip, peers, loadPeers peersDb⟩

/-- One operation, where the processes allow it, and what is seen of it. -/
def step (wg : WireGuardConfig) (s : State) : Action → Option (State × List Event)
  | .allocate deviceId =>
      match s.api with
      | .idle =>
          match allocate wg s.file deviceId with
          | .inl event => some (s, [event])
          | .inr save => some ({ s with api := .saving save .loaded }, [])
      | _ => none
  | .truncate =>
      match s.api with
      | .saving save .loaded => some (⟨some "", .saving save (.writing 0)⟩, [])
      | _ => none
  | .writePrefix done =>
      match s.api with
      | .saving save (.writing sofar) =>
          if sofar ≤ done ∧ done < save.content.length then
            some (⟨some (.ofList (save.content.take done)), .saving save (.writing done)⟩, [])
          else none
      | _ => none
  | .writeRest =>
      match s.api with
      | .saving save (.writing _) =>
          some (⟨some (.ofList save.content), .saving save .written⟩, [])
      | _ => none
  | .close =>
      match s.api with
      | .saving save .written =>
          some ({ s with api := .idle }, [.returned save.deviceId save.ip])
      | _ => none
  | .crash =>
      match s.api with
      | .down => none
      | .idle => some ({ s with api := .down }, [])
      | .saving save _ => some ({ s with api := .down }, [.crashed save (loadPeersFile s.file)])
  | .restart =>
      match s.api with
      | .down => some ({ s with api := .idle }, [])
      | _ => none
  | .resolve deviceId =>
      some (s, [.resolved deviceId (TerminalUpgrade.resolve (s.file.bind readPeers) deviceId)])

/-- A run from a state with what was seen before it. -/
def run (wg : WireGuardConfig) : State × List Event → List Action → Option (State × List Event)
  | s, [] => some s
  | (s, log), action :: rest =>
      match step wg s action with
      | none => none
      | some (s', events) => run wg (s', log ++ events) rest

/-- Before the first start, with a file that a save has left or none. -/
def start (peers : Option Peers) : State := ⟨peers.map dumpPeers, .down⟩

end CompleteDeviceManagement.Source.PeersFile
