import CompleteDeviceManagement.Source.AccessMatrix

/-!
# The access that a row reports

`access_for` reports the first mapped role of a list. So the order of the roles matters
exactly when two of them are mapped to different accesses, and one more role can lower
the access if it is put first. The portal determines the highest role instead.
-/

set_option autoImplicit false

namespace CompleteDeviceManagement.Guarantees.AccessLevels
open CompleteDeviceManagement.Source.AccessMatrix

/-! ## Levels -/

/-- The order of the legend, by the symbol that an access begins with. -/
def level (access : String) : Nat :=
  match access.toList.head? with
  | some '👁' => 1
  | some '🔵' => 2
  | some '✅' => 3
  | some '⚠' => 3
  | _ => 0

/-- The access that a role alone has. -/
def accessOf (endpoint role : String) : Option String := (mappingOf endpoint).lookup role

theorem mem_of_lookup {α : Type} {entries : List (String × α)} {key : String} {value : α}
    (found : entries.lookup key = some value) : (key, value) ∈ entries := by
  obtain ⟨before, behind, split, -⟩ := List.lookup_eq_some_iff.mp found
  rw [split]
  exact List.mem_append_right before List.mem_cons_self

/-- An access is an entry of one of the tables. -/
theorem mem_of_accessOf {endpoint role access : String}
    (mapped : accessOf endpoint role = some access) :
    ∃ mapping, (endpoint, mapping) ∈ endpointAccess ∧ (role, access) ∈ mapping := by
  unfold accessOf mappingOf at mapped
  cases table : endpointAccess.lookup endpoint with
  | none =>
    rw [table] at mapped
    cases mapped
  | some mapping =>
    rw [table] at mapped
    exact ⟨mapping, mem_of_lookup table, mem_of_lookup mapped⟩

/-- No role is mapped to the cross. -/
theorem accessOf_ne_cross {endpoint role access : String}
    (mapped : accessOf endpoint role = some access) : access ≠ "✗" := by
  have tables : ∀ entry ∈ endpointAccess, ∀ item ∈ entry.2, item.2 ≠ "✗" := by
    decide +kernel
  obtain ⟨mapping, table, entry⟩ := mem_of_accessOf mapped
  exact tables _ table _ entry

theorem accessFor_cases (endpoint : String) (roles : List String) :
    (accessFor roles endpoint = "✗" ∧ ∀ role ∈ roles, accessOf endpoint role = none) ∨
    ∃ role ∈ roles, accessOf endpoint role = some (accessFor roles endpoint) := by
  induction roles with
  | nil => exact Or.inl ⟨rfl, fun role none => absurd none List.not_mem_nil⟩
  | cons role roles ih =>
    cases mapped : accessOf endpoint role with
    | some access =>
      refine Or.inr ⟨role, List.mem_cons_self, ?_⟩
      have first : (mappingOf endpoint).lookup role = some access := mapped
      rw [accessFor, first, mapped]
    | none =>
      have first : (mappingOf endpoint).lookup role = none := mapped
      rw [accessFor, first]
      rcases ih with ⟨cross, unmapped⟩ | ⟨later, member, found⟩
      · refine Or.inl ⟨cross, ?_⟩
        intro other ho
        rcases List.mem_cons.mp ho with rfl | ho
        · exact mapped
        · exact unmapped other ho
      · exact Or.inr ⟨later, List.mem_cons_of_mem role member, found⟩

theorem accessFor_head {endpoint role access : String} (roles : List String)
    (mapped : accessOf endpoint role = some access) :
    accessFor (role :: roles) endpoint = access := by
  have first : (mappingOf endpoint).lookup role = some access := mapped
  rw [accessFor, first]

/-! ## The order of the roles -/

/-- What the order and one more role do to the access that a list of roles reports. -/
structure Sound (endpoint : String) (roles : List String) (added : String) : Prop where
  order : ∀ others, others.Perm roles → accessFor others endpoint = accessFor roles endpoint
  cross : accessFor roles endpoint = "✗" ↔ ∀ role ∈ roles, accessOf endpoint role = none
  more : ∀ others, others.Perm (added :: roles) →
    level (accessFor roles endpoint) ≤ level (accessFor others endpoint)

/-- The mapped roles of the list have the same access, and that of the added role is not
lower. -/
structure Agreeing (endpoint : String) (roles : List String) (added : String) : Prop where
  same : ∀ role ∈ roles, ∀ role' ∈ roles, ∀ access access',
    accessOf endpoint role = some access → accessOf endpoint role' = some access' →
      access = access'
  notLower : ∀ role ∈ roles, ∀ access lower, accessOf endpoint role = some access →
    accessOf endpoint added = some lower → level access ≤ level lower

section Endpoint

variable {endpoint : String} {roles : List String} {added : String}

theorem accessFor_cross (roles : List String) :
    accessFor roles endpoint = "✗" ↔ ∀ role ∈ roles, accessOf endpoint role = none := by
  rcases accessFor_cases endpoint roles with ⟨cross, unmapped⟩ | ⟨role, member, mapped⟩
  · exact ⟨fun _ => unmapped, fun _ => cross⟩
  · constructor
    · intro cross
      exact absurd cross (accessOf_ne_cross mapped)
    · intro unmapped
      rw [unmapped role member] at mapped
      cases mapped

theorem agreeing_of_sound (sound : Sound endpoint roles added) : Agreeing endpoint roles added := by
  have first : ∀ role ∈ roles, ∀ access, accessOf endpoint role = some access →
      accessFor roles endpoint = access := by
    intro role member access mapped
    rw [← sound.order _ (List.perm_cons_erase member).symm]
    exact accessFor_head _ mapped
  constructor
  · intro role member role' member' access access' mapped mapped'
    exact (first role member access mapped).symm.trans (first role' member' access' mapped')
  · intro role member access lower mapped added
    have higher := sound.more _ (List.Perm.refl _)
    rw [first role member access mapped, accessFor_head roles added] at higher
    exact higher

theorem sound_of_agreeing (agree : Agreeing endpoint roles added) :
    Sound endpoint roles added := by
  constructor
  · intro others perm
    rcases accessFor_cases endpoint roles with ⟨cross, unmapped⟩ | ⟨role, member, mapped⟩
    · rw [cross, accessFor_cross]
      intro role member
      exact unmapped role (perm.mem_iff.mp member)
    · rcases accessFor_cases endpoint others with ⟨-, unmapped⟩ | ⟨role', member', mapped'⟩
      · rw [unmapped role (perm.mem_iff.mpr member)] at mapped
        cases mapped
      · exact agree.same role' (perm.mem_iff.mp member') role member _ _ mapped' mapped
  · exact accessFor_cross roles
  · intro others perm
    rcases accessFor_cases endpoint roles with ⟨cross, -⟩ | ⟨role, member, mapped⟩
    · rw [cross]
      exact Nat.zero_le _
    · rcases accessFor_cases endpoint others with ⟨-, unmapped⟩ | ⟨role', member', mapped'⟩
      · rw [unmapped role (perm.mem_iff.mpr (List.mem_cons_of_mem added member))] at mapped
        cases mapped
      · rcases List.mem_cons.mp (perm.mem_iff.mp member') with rfl | member'
        · exact agree.notLower role member _ _ mapped mapped'
        · have same := agree.same role member role' member' _ _ mapped mapped'
          exact Nat.le_of_eq (congrArg level same)

end Endpoint

/-- The report of a list of roles does not depend on their order, and one more role does
not lower it, exactly if the mapped roles agree and the new one is not below them. -/
theorem access_sound_iff (endpoint : String) (roles : List String) (added : String) :
    Sound endpoint roles added ↔ Agreeing endpoint roles added :=
  ⟨agreeing_of_sound, sound_of_agreeing⟩

/-- A viewer who is an admin, too. -/
theorem viewer_first_hides_admin :
    ¬ ∀ endpoint roles added, Sound endpoint roles added := by
  intro all
  have order := (all "grafana" ["cdm-viewer", "cdm-admin"] "").order
    ["cdm-admin", "cdm-viewer"] (List.Perm.swap _ _ [])
  exact absurd order (by decide)

end CompleteDeviceManagement.Guarantees.AccessLevels
