import CompleteDeviceManagement.Guarantees.DeviceCalls

/-!
# hawkBit targets under failures

A target is made by a POST and completed by a PUT; a retry only asks whether it
is there. So the retries converge in the runs in which no call ends between the
two: a POST that was carried out is answered, and the PUT after it is carried
out. A lost PUT leaves a target that every later call takes for complete.
-/

set_option autoImplicit false

namespace CompleteDeviceManagement.Guarantees.TargetConvergence
open CompleteDeviceManagement.Library CompleteDeviceManagement.Source.Runtime
  CompleteDeviceManagement.Source.DeviceRuntime CompleteDeviceManagement.Source.DeviceRouters
  CompleteDeviceManagement.Guarantees.DeviceCalls

/-! ## Complete targets -/

/-- The target of `d` exists and carries a device_type. -/
def Complete (d : String) (hb : HawkBit) : Prop :=
  ∃ target, hb.targets.get? d = some target ∧
    (target.attributes.get? "device_type").isSome = true

def CompleteIfPresent (d : String) (hb : HawkBit) : Prop := hb.has d → Complete d hb

theorem targets_of_ne {hb : HawkBit} {call : HawkBitCall} {d d' : String} (hne : d ≠ d')
    (other : call = .getTarget d' ∨ (∃ name, call = .postTargets d' name) ∨
      ∃ attributes, call = .putAttributes d' attributes) :
    (hb.apply call).targets.get? d = hb.targets.get? d := by
  rcases other with rfl | ⟨name, rfl⟩ | ⟨attributes, rfl⟩
  · rfl
  · cases hget : hb.targets.get? d' with
    | some target => simp [HawkBit.apply, hget]
    | none => simp [HawkBit.apply, hget, Dict.get?_set_of_ne _ _ hne]
  · cases hget : hb.targets.get? d' with
    | none => simp [HawkBit.apply, hget]
    | some target => simp [HawkBit.apply, hget, Dict.get?_set_of_ne _ _ hne]

theorem CompleteIfPresent.of_same {d : String} {hb hb' : HawkBit} (h : CompleteIfPresent d hb)
    (same : hb'.targets.get? d = hb.targets.get? d) : CompleteIfPresent d hb' := by
  unfold CompleteIfPresent Complete HawkBit.has at h ⊢
  rw [same]
  exact h

theorem foldl_set_isSome (key : String) (attributes : List (String × Json)) :
    ∀ d : Dict String Json, key ∈ attributes.map Prod.fst ∨ (d.get? key).isSome = true →
      ((attributes.foldl (fun d pair => d.set pair.1 pair.2) d).get? key).isSome = true := by
  induction attributes with
  | nil =>
    intro d h
    simpa using h
  | cons pair rest ih =>
    intro d h
    apply ih
    rw [Dict.get?_set]
    split
    · exact .inr rfl
    · rename_i hne
      rcases h with h | h
      · rcases List.mem_cons.mp h with rfl | h
        · exact absurd rfl hne
        · exact .inl h
      · exact .inr h

theorem complete_putAttributes {d : String} {hb : HawkBit} (present : hb.has d)
    {attributes : List (String × Json)} (typed : "device_type" ∈ attributes.map Prod.fst) :
    Complete d (hb.apply (.putAttributes d attributes)) := by
  obtain ⟨target, htarget⟩ := Option.isSome_iff_exists.mp present
  refine ⟨{ target with
    attributes := attributes.foldl (fun d pair => d.set pair.1 pair.2) target.attributes }, ?_, ?_⟩
  · simp [HawkBit.apply, htarget]
  · exact foldl_set_isSome "device_type" attributes target.attributes (.inl typed)

theorem postTargets_of_present {d : String} {hb : HawkBit} (present : hb.has d) (name : Json) :
    (hb.apply (.postTargets d name)).targets = hb.targets := by
  obtain ⟨target, htarget⟩ := Option.isSome_iff_exists.mp present
  simp [HawkBit.apply, htarget]

/-! ## One call -/

/-- For the device `d`, a POST that fails has not been carried out, and a PUT
that fails has. -/
def AllOrNothing (d : String) : HawkBitCall → Bool → Prop
  | .getTarget _, _ => True
  | .postTargets id _, reached => id = d → reached = false
  | .putAttributes id _, reached => id = d → reached = true

theorem creates_complete {d d' : String} {name : Json} {attributes : List (String × Json)}
    {hb hb' : HawkBit} {ok : Bool} (typed : "device_type" ∈ attributes.map Prod.fst)
    (effect : Creates (AllOrNothing d) d' name attributes hb ok hb')
    (h : CompleteIfPresent d hb) : CompleteIfPresent d hb' := by
  by_cases hd : d = d'
  · subst hd
    cases effect with
    | missed => exact h
    | lost allowed => cases allowed rfl
    | conflict known => exact h.of_same (by rw [postTargets_of_present known])
    | bare allowed => cases allowed rfl
    | complete ok => exact fun _ => complete_putAttributes (has_postTargets hb d name) typed
  · have posted : (hb.apply (.postTargets d' name)).targets.get? d = hb.targets.get? d :=
      targets_of_ne hd (.inr (.inl ⟨name, rfl⟩))
    cases effect with
    | missed => exact h
    | lost _ => exact h.of_same posted
    | conflict _ => exact h.of_same posted
    | bare _ => exact h.of_same posted
    | complete ok =>
      have put : ((hb.apply (.postTargets d' name)).apply
          (.putAttributes d' attributes)).targets.get? d =
          (hb.apply (.postTargets d' name)).targets.get? d :=
        targets_of_ne hd (.inr (.inr ⟨attributes, rfl⟩))
      exact h.of_same (put.trans posted)

theorem ensured_complete {d d' : String} {hb hb' : HawkBit} {ok : Bool}
    (ensured : Ensured (AllOrNothing d) d' hb ok hb') (h : CompleteIfPresent d hb) :
    CompleteIfPresent d hb' := by
  cases ensured with
  | kept => exact h
  | found _ => exact h
  | created typed effect => exact creates_complete typed effect h

theorem call_complete {env : DeviceEnv} {d : String} {s s' : Platform} {call : DeviceCall}
    {reply : DeviceReply} (h : CompleteIfPresent d s.2)
    (post : CallPost (AllOrNothing d) env s call reply s') : CompleteIfPresent d s'.2 := by
  rcases post.ensured with ⟨_, rfl⟩ | ⟨d', b, _, ensured, _⟩
  · exact h
  · exact ensured_complete ensured h

/-! ## Sequences of calls -/

def connected : DeviceCall := .webhook ⟨[("deviceName", .str "dev-1"), ("deviceType", .str "pi")]⟩

/-- The third exchange of a call, its PUT, times out before hawkBit has it; an
exchange takes two answers of the environment. -/
def lostPut (n : Nat) : Fate := if n = 4 then .instead false (.failure "timed out") else .served

end CompleteDeviceManagement.Guarantees.TargetConvergence
