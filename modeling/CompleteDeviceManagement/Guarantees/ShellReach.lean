import CompleteDeviceManagement.Guarantees.TerminalAccess
import CompleteDeviceManagement.Guarantees.Tunnel

/-!
# Which device a terminal ends at

The terminal-proxy takes the address of a device from the database that the API
writes, and WireGuard takes the way there from the peers that the API writes. Once
a device is enrolled, a request is connected to what its own key stands for if and
only if it was let through for its own id.
-/

set_option autoImplicit false

namespace CompleteDeviceManagement.Guarantees.ShellReach
open CompleteDeviceManagement.Library CompleteDeviceManagement.Source.TerminalUpgrade
  CompleteDeviceManagement.Source.WireGuard CompleteDeviceManagement.Source.DeviceRuntime
  CompleteDeviceManagement.Source.DeviceRouters CompleteDeviceManagement.Source.Bootstrap
  CompleteDeviceManagement.Guarantees.AddressAllocation
  CompleteDeviceManagement.Guarantees.DeviceCalls CompleteDeviceManagement.Guarantees.PeerList
  CompleteDeviceManagement.Guarantees.Bootstrap CompleteDeviceManagement.Guarantees.Tunnel
  CompleteDeviceManagement.Guarantees.TerminalAccess

/-! ## What the resolver finds -/

/-- Every text that an object inherits has a blank. -/
theorem inherited_blank {name text : String} (h : inherited name = some text) :
    ' ' ∈ text.toList := by
  unfold inherited at h
  split at h
  · cases h
    decide
  · split at h
    · cases h
      decide
    · split at h
      · cases h
        simp
      · cases h

theorem addressOf_of_resolve {s : Platform} {d ip : String} (blank : ' ' ∉ ip.toList)
    (h : resolve s.1.files.peersDb d = some ip) : addressOf s d = some ip := by
  unfold addressOf loadPeers
  cases hdb : s.1.files.peersDb with
  | none =>
    rw [hdb] at h
    cases h
  | some peers =>
    rw [hdb] at h
    unfold resolve at h
    rw [Option.getD_some]
    cases found : peers.get? d with
    | none =>
      simp only [found] at h
      exact absurd (inherited_blank h) blank
    | some ip' =>
      simp only [found] at h
      exact h

theorem resolve_of_addressOf {s : Platform} {d ip : String} (h : addressOf s d = some ip) :
    resolve s.1.files.peersDb d = some ip := by
  apply resolve_recorded
  unfold addressOf loadPeers at h
  cases hdb : s.1.files.peersDb with
  | none =>
    rw [hdb] at h
    cases h
  | some peers =>
    rw [hdb] at h
    exact h

/-! ## The request and the device -/

variable {R : Type} (host : Host R) (packages : Packages) (authConfig : AuthConfig)
  (ttydPort : Nat)

/-- A request with an accepted token in a path of this device. -/
def AdmittedFor (deviceId : String) (request : R) : Prop :=
  ∃ parsed token payload, host.newUrl (host.rawUrl request) = some parsed ∧
    parseDeviceId parsed.pathname = some deviceId ∧
    parsed.param "token" = some token ∧ token ≠ "" ∧
    createVerifier packages authConfig none token = .ok payload ∧ host.refuses request = none

def ttydUrl (ip : String) : String := "ws://" ++ ip ++ ":" ++ toString ttydPort

theorem ttydUrl_inj {ip ip' : String} (h : ttydUrl ttydPort ip = ttydUrl ttydPort ip') :
    ip = ip' := by
  unfold ttydUrl at h
  have chars := congrArg String.toList h
  simp only [String.toList_append, List.append_assoc] at chars
  have behind := List.append_cancel_left chars
  exact String.toList_injective (List.append_cancel_right behind)

/-- An address of the pool belongs to one device, and only what was let through for
that device is connected to it. -/
theorem connected_iff {env : DeviceEnv} {s : Platform} (ready : Ready env s) {d : String}
    {a : IpAddress} (ha : a ∈ pool env.wg) (address : addressOf s d = some a.text)
    (request : R) :
    (upgrade host packages authConfig s.1.files.peersDb ttydPort request).connected =
        [ttydUrl ttydPort a.text] ↔
      AdmittedFor host packages authConfig d request := by
  have scopeless := IpNetwork.scopeless_of_mem_hosts ((mem_pool env.wg a).mp ha).1
  have blank : ' ' ∉ a.text.toList :=
    IpAddress.not_mem_text scopeless (by decide) (by decide) (by decide)
  constructor
  · intro connected
    rcases upgrade_cases host packages authConfig s.1.files.peersDb ttydPort request with
      thrown | rejected | ⟨parsed, d', token, payload, ip, admitted⟩
    · rw [upgrade_of_thrown thrown] at connected
      cases connected
    · rw [rejected.2.2] at connected
      cases connected
    · rw [upgrade_of_admitted admitted] at connected
      obtain rfl : ip = a.text := ttydUrl_inj ttydPort (List.cons.inj connected).1
      have address' := addressOf_of_resolve blank admitted.address
      obtain rfl := addressOf_distinct ready.reached ha address address'
      exact ⟨parsed, token, payload, admitted.target, admitted.route, admitted.query,
        admitted.nonempty, admitted.accepted, admitted.handshake⟩
  · rintro ⟨parsed, token, payload, target, route, query, nonempty, accepted, handshake⟩
    have known : a.text ≠ "" := by
      intro empty
      have read := ofText_text_of_pool ha
      rw [empty] at read
      cases read
    exact upgrade_of_admitted
      ⟨target, route, query, nonempty, accepted, resolve_of_addressOf address, known, handshake⟩

/-- One target, `/terminal/sim-device-001?token=t`. -/
def simulatedTarget : Host Unit where
  rawUrl := fun _ => "/terminal/sim-device-001?token=t"
  newUrl := fun _ => some ⟨"/terminal/sim-device-001", [("token", "t")]⟩
  refuses := fun _ => none

end CompleteDeviceManagement.Guarantees.ShellReach
