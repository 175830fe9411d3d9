import CompleteDeviceManagement.Library.JsonLine
import CompleteDeviceManagement.Library.JsonSize

/-!
# JSON text with given members in front

Where the text of an object begins with the members of a list, each with a comma
behind, the object is read with these in front, whatever text follows
(`parse_lead`).
-/

set_option autoImplicit false

namespace CompleteDeviceManagement.Library.JsonLine
open CompleteDeviceManagement.Library.JsonText CompleteDeviceManagement.Library.JsonText.Style

/-- What comes out of a collapse has gone in. -/
theorem mem_of_mem_collapse {m : String × Json} {ms : List (String × Json)}
    (h : m ∈ collapse ms) : m ∈ ms := by
  have stored : ∀ (key : String) (v : Json) (items : List (String × Json)),
      m ∈ Dict.store key v items → m = (key, v) ∨ m ∈ items := by
    intro key v items inside
    induction items with
    | nil =>
      left
      simpa [Dict.store] using inside
    | cons item items ih =>
      unfold Dict.store at inside
      split at inside
      next same =>
        rcases List.mem_cons.mp inside with rfl | inside
        · exact .inl (by rw [same])
        · exact .inr (List.mem_cons_of_mem _ inside)
      next =>
        rcases List.mem_cons.mp inside with rfl | inside
        · exact .inr List.mem_cons_self
        · exact (ih inside).imp id (List.mem_cons_of_mem _)
  have folded : ∀ (ms : List (String × Json)) (d : Dict String Json),
      m ∈ (ms.foldl (fun (d : Dict String Json) member => d.set member.1 member.2) d).items →
        m ∈ d.items ∨ m ∈ ms := by
    intro ms
    induction ms with
    | nil => exact fun d inside => .inl inside
    | cons member ms ih =>
      intro d inside
      rcases ih (d.set member.1 member.2) inside with first | later
      · rcases stored _ _ _ first with rfl | before
        · exact .inr List.mem_cons_self
        · exact .inl before
      · exact .inr (List.mem_cons_of_mem _ later)
  exact (folded ms .empty h).resolve_left List.not_mem_nil

section Lead

variable (style : Style)

def lead : List (String × Json) → Text
  | [] => []
  | (key, v) :: ms => style.quoted key ++ ':' :: (line style [] v ++ ',' :: lead ms)

theorem lead_starts (ms : List (String × Json)) (rest : Text) :
    ∃ t, lead style ms ++ '"' :: rest = '"' :: t := by
  cases ms with
  | nil => exact ⟨rest, rfl⟩
  | cons m ms => exact ⟨_, rfl⟩

theorem readsMembers_lead {ms ms' : List (String × Json)} {t : Text} (regular : RegularMembers ms)
    (more : ReadsMembers ms' t) : ReadsMembers (ms ++ ms') (lead style ms ++ t) := by
  induction ms with
  | nil => exact more
  | cons member ms ih =>
    obtain ⟨key, v⟩ := member
    have read := readsMembers_cons (spells_flatMap style key.toList)
      (reads_line style space_nil v regular.1) space_nil space_nil space_nil space_nil
      (ih regular.2)
    rw [String.ofList_toList] at read
    simpa only [lead, quoted, List.append_assoc, List.cons_append, List.nil_append] using read

theorem members_lead {ms : List (String × Json)} (regular : RegularMembers ms) :
    ∀ {n : Nat} {rest r : Text} {all : List (String × Json)},
      2 * (lead style ms ++ '"' :: rest).length < n →
      members n (lead style ms ++ '"' :: rest) = some (all, r) →
      ∃ m ms', all = ms ++ ms' ∧ members m ('"' :: rest) = some (ms', r) := by
  induction ms with
  | nil =>
    intro n rest r all _ read
    exact ⟨n, all, rfl, read⟩
  | cons member ms ih =>
    obtain ⟨key, v⟩ := member
    intro n rest r all fuel read
    have split : lead style ((key, v) :: ms) ++ '"' :: rest =
        '"' :: (key.toList.flatMap style.spell ++ '"' :: ':' ::
          (line style [] v ++ ',' :: (lead style ms ++ '"' :: rest))) := by
      simp [lead, quoted]
    rw [split] at fuel read
    simp only [List.length_append, List.length_cons] at fuel
    obtain ⟨t, next⟩ := lead_starts style ms rest
    have short := congrArg List.length next
    simp only [List.length_append, List.length_cons] at short
    cases n with
    | zero => cases read
    | succ n =>
      have first := reads_line style space_nil v regular.1
      have value := first.read n (',' :: (lead style ms ++ '"' :: rest)) (by omega)
        (boundary_close (.inl rfl) _)
      have begins := first.starts.skipSpace space_nil (',' :: (lead style ms ++ '"' :: rest))
      rw [List.nil_append] at begins
      simp only [members, stringRest_spells (spells_flatMap style key.toList),
        skipSpace_cons (c := ':') (by decide), begins, value,
        skipSpace_cons (c := ',') (by decide)] at read
      obtain ⟨⟨more, r'⟩, later, same⟩ := Option.map_eq_some_iff.mp read
      cases same
      rw [next, skipSpace_cons (by decide), ← next] at later
      obtain ⟨m, ms', rfl, behind⟩ := ih regular.2
        (by simp only [List.length_append, List.length_cons]; omega) later
      exact ⟨m, ms', by simp, behind⟩

theorem parse_lead {ms : List (String × Json)} (regular : RegularMembers ms) {rest : Text}
    {v : Json} (h : parse (.ofList ('\x7b' :: (lead style ms ++ '"' :: rest))) = some v) :
    ∃ ms' r, v = .obj (collapse (ms ++ ms')) ∧ Takes (membersLength ms') ('"' :: rest) r := by
  obtain ⟨t, next⟩ := lead_starts style ms rest
  unfold parse at h
  rw [String.toList_ofList, skipSpace_cons (by decide), value, next,
    skipSpace_cons (by decide)] at h
  split at h
  next read =>
    split at h
    · cases h
      obtain ⟨⟨all, r⟩, later, same⟩ := Option.map_eq_some_iff.mp read
      cases same
      rw [← next] at later
      obtain ⟨m, ms', rfl, behind⟩ := members_lead style regular
        (by simp only [List.length_cons]; omega) later
      exact ⟨ms', r, rfl, (measures m).members _ _ _ behind⟩
    · cases h
  · cases h

end Lead

end CompleteDeviceManagement.Library.JsonLine
