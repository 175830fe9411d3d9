import CompleteDeviceManagement.Guarantees.PeersFile
import CompleteDeviceManagement.Source.IpResolver

/-!
# A dict on one side, an object on the other

`allocate_ip` writes a dict, and the resolver looks a device up in the object it
is read as. The two agree on every recorded device and on every other name but
those that each object inherits from `Object.prototype`.
-/

set_option autoImplicit false

namespace CompleteDeviceManagement.Guarantees.DeviceLookup
open CompleteDeviceManagement.Library CompleteDeviceManagement.Source
  CompleteDeviceManagement.Source.WireGuard CompleteDeviceManagement.Source.PeersFile
  CompleteDeviceManagement.Source.IpResolver
open CompleteDeviceManagement.Guarantees.PeersFile (regular_peers readPeers_dumpPeers)

section Allocations

variable (wg : WireGuardConfig) (calls : List String)

/-- cdm_peers.json after these calls of `allocate_ip`, if one has written it. -/
def written : Option String := (WireGuard.run wg none calls).map dumpPeers

/-- The address that the calls have recorded for the device. -/
def recorded (deviceId : String) : Option String :=
  (loadPeers (WireGuard.run wg none calls)).get? deviceId

/-- The resolver answers the recorded address, or null where there is none. -/
def AnswersRecorded (engine : Engine) (deviceId : String) : Prop :=
  IpResolver.resolve engine (written wg calls) deviceId =
    (recorded wg calls deviceId).map fun ip => .parsed (.str ip)

end Allocations

/-! ## The object that a dict is read as -/

theorem field_texts (items : List (String × String)) (name : String) :
    Json.field? name (items.map fun item => (item.1, .str item.2)) =
      (Dict.lookup name items).map Json.str := by
  induction items with
  | nil => rfl
  | cons item rest ih =>
    unfold Json.field? at ih ⊢
    rw [List.map_cons, List.find?_cons, Dict.lookup]
    by_cases same : item.1 = name
    · simp [same]
    · have differs : (item.1 == name) = false := beq_eq_false_iff_ne.mpr same
      simp only [differs, if_neg same]
      exact ih

theorem parse_dumpPeers (peers : Peers) :
    JsonText.parse (dumpPeers peers) =
      some (.obj (peers.items.map fun item => (item.1, .str item.2))) :=
  JsonText.parse_write JsonText.Style.ascii (regular_peers peers)

/-- The lookup in a database: what is recorded, or else what is inherited. -/
theorem resolve_dumpPeers (engine : Engine) (peers : Peers) (deviceId : String) :
    IpResolver.resolve engine (some (dumpPeers peers)) deviceId =
      match peers.get? deviceId with
      | some ip => some (.parsed (.str ip))
      | none => objectPrototype deviceId := by
  unfold IpResolver.resolve
  rw [Option.bind_some, parse_dumpPeers]
  simp only [IpResolver.lookup, property, field_texts]
  unfold Dict.get?
  cases Dict.lookup deviceId peers.items with
  | some ip => rfl
  | none =>
    simp only [Option.map_none, objectPrototype]
    split
    · rfl
    · rfl

theorem objectPrototype_eq_none_iff (name : String) :
    objectPrototype name = none ↔ name ∉ objectPrototypeNames := by
  unfold objectPrototype
  split
  next inherited => simp [inherited]
  next absent => simp [absent]

theorem resolver_iff (engine : Engine) (wg : WireGuardConfig) (calls : List String)
    (deviceId : String) :
    AnswersRecorded wg calls engine deviceId ↔
      WireGuard.run wg none calls = none ∨ (recorded wg calls deviceId).isSome = true ∨
        deviceId ∉ objectPrototypeNames := by
  unfold AnswersRecorded recorded written
  cases hrun : WireGuard.run wg none calls with
  | none =>
    constructor
    · exact fun _ => .inl rfl
    · exact fun _ => rfl
  | some peers =>
    have loaded : loadPeers (some peers) = peers := rfl
    rw [Option.map_some, resolve_dumpPeers, loaded]
    cases hget : peers.get? deviceId with
    | some ip =>
      constructor
      · exact fun _ => .inr (.inl rfl)
      · exact fun _ => rfl
    | none =>
      rw [Option.map_none, objectPrototype_eq_none_iff]
      constructor
      · exact fun absent => .inr (.inr absent)
      · intro h
        rcases h with h | h | absent
        · cases h
        · cases h
        · exact absent

/-- An engine that knows texts and plain objects only. -/
def textEngine : Engine where
  indexed := fun _ _ => none
  zero := fun text => text == "0.0" || text == "-0.0"
  template := fun _ => none

/-- One device is enrolled, and a function is answered for the id `constructor`. -/
theorem constructor_resolved :
    recorded smallNetwork ["device-a"] "constructor" = none ∧
    IpResolver.resolve textEngine (written smallNetwork ["device-a"]) "constructor" =
      some (.builtin "constructor") ∧
    ¬ AnswersRecorded smallNetwork ["device-a"] textEngine "constructor" := by
  have hrun : WireGuard.run smallNetwork none ["device-a"] =
      some (Dict.empty.set "device-a" "10.0.0.2") := by decide +kernel
  have unknown : recorded smallNetwork ["device-a"] "constructor" = none := by
    rw [recorded, hrun]
    decide
  have resolved : IpResolver.resolve textEngine (written smallNetwork ["device-a"])
      "constructor" = some (.builtin "constructor") := by
    rw [written, hrun, Option.map_some, resolve_dumpPeers]
    rfl
  refine ⟨unknown, resolved, ?_⟩
  intro answers
  rw [AnswersRecorded, resolved, unknown] at answers
  cases answers

/-! ## The texts of the lookup -/

/-- What the listener writes into the URL of the device is what `TerminalUpgrade`
looks up. -/
theorem textOf_resolve (engine : Engine) (peers : Peers) (deviceId : String) :
    (IpResolver.resolve engine (some (dumpPeers peers)) deviceId).bind (textOf engine) =
      TerminalUpgrade.resolve (readPeers (dumpPeers peers)) deviceId := by
  have names : ∀ name, (objectPrototype name).bind (textOf engine) =
      TerminalUpgrade.inherited name := by
    intro name
    unfold objectPrototype
    split
    · rfl
    next absent =>
      simp only [objectPrototypeNames, List.mem_cons, List.not_mem_nil, or_false, not_or] at absent
      simp [TerminalUpgrade.inherited, absent]
  rw [resolve_dumpPeers, readPeers_dumpPeers, TerminalUpgrade.resolve]
  cases hget : peers.get? deviceId with
  | some ip => rfl
  | none => exact names deviceId

end CompleteDeviceManagement.Guarantees.DeviceLookup
