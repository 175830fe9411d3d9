import CompleteDeviceManagement.Library.Utf8

/-!
# What follows the first occurrence

`strstr` on lists, and on the bytes of texts.
-/

set_option autoImplicit false

namespace CompleteDeviceManagement.Library.Search
open CompleteDeviceManagement.Library.Utf8

section Lists

variable {α : Type} [DecidableEq α]

/-- What follows the first occurrence of `search`. -/
def after (search : List α) : List α → Option (List α)
  | [] => if search = [] then some [] else none
  | c :: rest =>
      if search.isPrefixOf (c :: rest) then some ((c :: rest).drop search.length)
      else after search rest

variable {search : List α}

theorem after_found (nonempty : search ≠ []) (rest : List α) :
    after search (search ++ rest) = some rest := by
  cases search with
  | nil => exact absurd rfl nonempty
  | cons c search =>
    have found : (c :: search).isPrefixOf (c :: search ++ rest) = true := by
      simp [List.isPrefixOf_iff_prefix]
    rw [List.cons_append] at found ⊢
    rw [after, if_pos found, ← List.cons_append, List.drop_left]

theorem after_cons {c : α} {rest : List α} (absent : ¬ search <+: c :: rest) :
    after search (c :: rest) = after search rest :=
  if_neg (mt List.isPrefixOf_iff_prefix.mp absent)

theorem after_isSome (text : List α) : (after search text).isSome ↔ search <:+: text := by
  induction text with
  | nil =>
    rw [after, List.infix_nil]
    split <;> simp_all
  | cons c text ih =>
    rw [List.infix_cons_iff]
    by_cases found : search <+: c :: text
    · have begins : search.isPrefixOf (c :: text) = true := List.isPrefixOf_iff_prefix.mpr found
      rw [after, if_pos begins]
      simp [found]
    · rw [after_cons found, ih]
      simp [found]

/-- No occurrence begins before the one that is found. -/
theorem after_first {text rest : List α} (found : after search text = some rest) :
    ∃ before, text = before ++ search ++ rest ∧
      ∀ front behind, text = front ++ search ++ behind → before.length ≤ front.length := by
  induction text with
  | nil =>
    unfold after at found
    split at found
    next empty =>
      cases found
      exact ⟨[], by rw [empty]; rfl, fun _ _ _ => Nat.zero_le _⟩
    · cases found
  | cons c text ih =>
    by_cases begins : search <+: c :: text
    · obtain ⟨more, split⟩ := begins
      have here : after search (c :: text) = some ((c :: text).drop search.length) :=
        if_pos (List.isPrefixOf_iff_prefix.mpr ⟨more, split⟩)
      rw [here, ← split, List.drop_left, Option.some.injEq] at found
      refine ⟨[], ?_, fun _ _ _ => Nat.zero_le _⟩
      rw [List.nil_append, ← found, split]
    · rw [after_cons begins] at found
      obtain ⟨before, split, first⟩ := ih found
      refine ⟨c :: before, by rw [split]; rfl, ?_⟩
      intro front behind other
      cases front with
      | nil => exact absurd ⟨behind, by rw [other, List.nil_append]⟩ begins
      | cons d front =>
        rw [List.cons_append, List.cons_append] at other
        exact Nat.succ_le_succ (first front behind (List.cons.inj other).2)

/-- A front without the first character that is searched for. -/
theorem after_skip {first : α} {more front : List α} (absent : first ∉ front) (rest : List α) :
    after (first :: more) (front ++ rest) = after (first :: more) rest := by
  induction front with
  | nil => rfl
  | cons c front ih =>
    obtain ⟨other, later⟩ := not_or.mp (mt List.mem_cons.mpr absent)
    have none : ¬ first :: more <+: c :: (front ++ rest) := by
      intro begins
      exact other (List.cons_prefix_cons.mp begins).1
    rw [List.cons_append, after_cons none, ih later]

end Lists

/-- Searching an ASCII text in the bytes finds it where it is in the text. -/
theorem after_encode {search : List Char} (nonempty : search ≠ [])
    (ascii : ∀ c ∈ search, c.toNat < 128) (text : List Char) :
    after (encode search) (encode text) = (after search text).map encode := by
  induction text with
  | nil =>
    cases search with
    | nil => exact absurd rfl nonempty
    | cons c search =>
      have bytes : encode (c :: search) ≠ [] := by
        rw [encode_cons]
        simp [String.utf8EncodeChar_ne_nil]
      exact (if_neg bytes).trans rfl
  | cons c text ih =>
    by_cases found : search <+: c :: text
    · obtain ⟨rest, split⟩ := found
      have bytes : encode search ≠ [] := by
        rw [encode_ascii ascii]
        simpa using nonempty
      rw [← split, encode_append, after_found bytes, after_found nonempty, Option.map_some]
    · have here : ¬ encode search <+: encode (c :: text) := mt (prefix_encode ascii _).mp found
      rw [after_cons found, ← ih]
      rw [encode_cons] at here ⊢
      cases bytes : String.utf8EncodeChar c with
      | nil => exact absurd bytes String.utf8EncodeChar_ne_nil
      | cons b more =>
        rw [bytes, List.cons_append] at here
        rw [List.cons_append, after_cons here]
        -- the other bytes of the character are no ASCII ones
        cases search with
        | nil => exact absurd rfl nonempty
        | cons first search =>
          have hfirst := ascii first List.mem_cons_self
          rw [encode_cons, encodeChar_ascii hfirst, List.singleton_append]
          refine after_skip ?_ _
          intro inside
          by_cases hc : c.toNat < 128
          · rw [encodeChar_ascii hc] at bytes
            rw [← (List.cons.inj bytes).2] at inside
            exact List.not_mem_nil inside
          · have large := encodeChar_high (Nat.le_of_not_lt hc) (UInt8.ofNat first.toNat)
              (by rw [bytes]; exact List.mem_cons_of_mem b inside)
            rw [UInt8.toNat_ofNat'] at large
            omega

theorem infix_encode {search : List Char} (nonempty : search ≠ [])
    (ascii : ∀ c ∈ search, c.toNat < 128) (text : List Char) :
    encode search <:+: encode text ↔ search <:+: text := by
  rw [← after_isSome, ← after_isSome, after_encode nonempty ascii, Option.isSome_map]

end CompleteDeviceManagement.Library.Search
