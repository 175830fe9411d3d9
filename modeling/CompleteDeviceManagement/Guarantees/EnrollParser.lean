import CompleteDeviceManagement.Guarantees.EnrollResponse
import CompleteDeviceManagement.Library.FlatJson

/-!
# What json_get_string finds

In a flat object of texts, `strstr` finds the name of the member that is asked for, if
there is one. What is copied fits into `out`, and is the beginning of the value where
that is written without other escapes than `\n` and `\\`.
-/

set_option autoImplicit false

namespace CompleteDeviceManagement.Guarantees.EnrollParser
open CompleteDeviceManagement.Library CompleteDeviceManagement.Library.FlatJson
  CompleteDeviceManagement.Library.Utf8 CompleteDeviceManagement.Source.Enroll
  CompleteDeviceManagement.Guarantees.EnrollResponse
open CompleteDeviceManagement.Library.JsonText (Spells Text spells_plain unescape)
open CompleteDeviceManagement.Library.Search (after after_encode after_first)

/-! ## What is copied -/

theorem length_copyValue (room : Nat) (p : Bytes) : (copyValue room p).length ≤ room := by
  fun_induction copyValue room p with
  | case1 => exact Nat.le_refl 0
  | case2 => exact Nat.zero_le _
  | case3 => exact Nat.zero_le _
  | case4 room rest _ ih => exact Nat.succ_le_succ ih
  | case5 room rest _ ih => exact Nat.succ_le_succ ih
  | case6 room c rest _ _ _ ih => exact Nat.succ_le_succ ih

/-- Every backslash is that of `\n` or `\\`. -/
def FewEscapes : Text → Prop
  | [] => True
  | '\\' :: e :: rest => (e = 'n' ∨ e = '\\') ∧ FewEscapes rest
  | _ :: rest => FewEscapes rest

/-- Bytes that are neither a quote nor a backslash are copied. -/
theorem copyValue_bytes {front : Bytes} (plain : ∀ b ∈ front, b ≠ 92 ∧ b ≠ 34) (room : Nat)
    (rest : Bytes) :
    copyValue room (front ++ rest) = front.take room ++ copyValue (room - front.length) rest := by
  induction front generalizing room with
  | nil => simp
  | cons b front ih =>
    have later := ih fun d hd => plain d (List.mem_cons_of_mem b hd)
    obtain ⟨backslash, quote⟩ := plain b List.mem_cons_self
    cases room with
    | zero => simp [copyValue]
    | succ room =>
      rw [List.cons_append, copyValue_plain room backslash quote, later room]
      simp

theorem encodeChar_plain {c : Char} (quote : c ≠ '"') (backslash : c ≠ '\\') :
    ∀ b ∈ String.utf8EncodeChar c, b ≠ 92 ∧ b ≠ 34 := by
  intro b hb
  by_cases ascii : c.toNat < 128
  · rw [encodeChar_ascii ascii, List.mem_singleton] at hb
    rw [hb]
    exact ⟨fun same => backslash (ofNat_injective ascii (by decide) same),
      fun same => quote (ofNat_injective ascii (by decide) same)⟩
  · have high := encodeChar_high (Nat.le_of_not_lt ascii) b hb
    constructor
    · rintro rfl
      exact absurd high (by decide)
    · rintro rfl
      exact absurd high (by decide)

/-- The value is copied as far as there is room. -/
theorem copyValue_few {cs : List Char} {t : Text} (spelled : Spells cs t) (few : FewEscapes t)
    (room : Nat) (rest : Bytes) :
    copyValue room (encode t ++ 34 :: rest) = (encode cs).take room := by
  induction spelled generalizing room with
  | nil => exact (copyValue_quote room rest).trans List.take_nil.symm
  | @plain c cs t printable quote backslash more ih =>
    have fewer : FewEscapes t := by
      rw [FewEscapes] at few
      · exact few
      · intro e rest same _
        exact backslash same
    rw [encode_cons, List.append_assoc, copyValue_bytes (encodeChar_plain quote backslash),
      ih fewer, encode_cons, List.take_append]
  | @short e c cs t escape more ih =>
    obtain ⟨letter, fewer⟩ := few
    cases room with
    | zero => rfl
    | succ room =>
      have later := ih fewer room
      rcases letter with rfl | rfl
      · cases escape
        exact congrArg (10 :: ·) later
      · cases escape
        exact congrArg (92 :: ·) later
  | unit unit more ih =>
    obtain ⟨letter, -⟩ := few
    exact absurd letter (by decide)
  | pair high isHigh low isLow both more ih =>
    obtain ⟨letter, -⟩ := few
    exact absurd letter (by decide)

/-! ## What is searched for -/

/-- The text in `search`. -/
def searched (key : String) : Bytes := snprintf 128 (34 :: bytes key ++ [34, 58])

def json (es : List Entry) : Bytes := encode (objectText es)

section Members

variable {es : List Entry} {key : String} (named : IsName key.toList) (short : key.length ≤ 100)
include named short

theorem searched_pattern : searched key = encode (pattern key.toList) := by
  have ascii : ∀ c ∈ key.toList, c.toNat < 128 := fun c hc => (nameChar_ne (named c hc)).1
  have length : (bytes key).length = key.length := by
    rw [bytes, encode_ascii ascii, List.length_map, String.length_toList]
  have fits : (34 :: bytes key ++ [34, 58]).length ≤ 128 - 1 := by
    simp only [List.length_append, List.length_cons, List.length_nil, length]
    omega
  rw [searched, snprintf_fits fits, pattern, encode_cons, encode_append]
  rfl

theorem after_searched (es : List Entry) : after (searched key) (json es) =
    (after (pattern key.toList) (objectText es)).map encode := by
  have ascii : ∀ c ∈ pattern key.toList, c.toNat < 128 := by
    intro c hc
    rcases List.mem_cons.mp hc with rfl | hc
    · decide
    · rcases List.mem_append.mp hc with hc | hc
      · exact (nameChar_ne (named c hc)).1
      · have marks : ∀ d ∈ ['"', ':'], d.toNat < 128 := by decide
        exact marks c hc
  rw [searched_pattern named short]
  exact after_encode (by simp [pattern]) ascii (objectText es)

theorem jsonGetString_absent (absent : ∀ e ∈ es, e.name ≠ key) (outSz : Nat) :
    after (searched key) (json es) = none ∧ jsonGetString (json es) key outSz = none := by
  have none := after_absent named fun e he same => absent e he (String.toList_inj.mp same)
  have search := after_searched named short es
  rw [none, Option.map_none] at search
  refine ⟨search, ?_⟩
  rw [jsonGetString]
  exact congrArg (Option.bind · (stringAt outSz)) search

theorem jsonGetString_member {front : List Entry} {e : Entry} (back : List Entry)
    (before : ∀ e' ∈ front, e'.name ≠ key) (same : e.name = key) (outSz : Nat) :
    ∃ behind, json (front ++ e :: back) = encode (beforeText front) ++ searched key ++ behind ∧
      after (searched key) (json (front ++ e :: back)) = some behind ∧
      ∃ rest, jsonGetString (json (front ++ e :: back)) key outSz =
        some (copyValue (outSz - 1) (encode e.body ++ 34 :: rest)) := by
  obtain ⟨behind, split, found⟩ := after_member named back
    (fun e' he eq => before e' he (String.toList_inj.mp eq)) (congrArg String.toList same)
  have search := after_searched named short (front ++ e :: back)
  rw [found, Option.map_some] at search
  have value : encode (e.rest ++ behind) =
      List.replicate e.blanks 32 ++ 34 :: (encode e.body ++ 34 :: encode behind) := by
    have blanks : encode (List.replicate e.blanks ' ') = List.replicate e.blanks 32 := by
      have ascii : ∀ c ∈ List.replicate e.blanks ' ', c.toNat < 128 := by
        intro c hc
        rw [List.eq_of_mem_replicate hc]
        decide
      rw [encode_ascii ascii, List.map_replicate]
      rfl
    rw [Entry.rest, List.append_assoc, List.cons_append, encode_append, blanks, encode_cons,
      List.append_assoc, encode_append, encode_append]
    rfl
  have skipped : (List.replicate e.blanks 32 ++
        34 :: (encode e.body ++ 34 :: encode behind)).dropWhile (fun b : UInt8 => b = 32) =
      34 :: (encode e.body ++ 34 :: encode behind) := by
    rw [List.dropWhile_append_of_pos]
    · rfl
    · intro b hb
      rw [List.eq_of_mem_replicate hb]
      decide
  refine ⟨encode (e.rest ++ behind), ?_, search, encode behind, ?_⟩
  · rw [json, split, encode_append, encode_append, searched_pattern named short]
  · have read : stringAt outSz (encode (e.rest ++ behind)) =
        some (copyValue (outSz - 1) (encode e.body ++ 34 :: encode behind)) := by
      rw [stringAt, value, skipped]
      rfl
    rw [← read]
    exact congrArg (Option.bind · (stringAt outSz)) search

end Members

/-- The first match is the name of the member; without one there is no match. Less than
`outSz` bytes are copied, the value itself as long as it is written with `\n` and `\\`. -/
theorem json_get_string_flat {es : List Entry} (distinct : (es.map Entry.name).Nodup)
    {key : String} (named : IsName key.toList) (short : key.length ≤ 100) {outSz : Nat}
    (room : 1 ≤ outSz) :
    (∀ front e back, es = front ++ e :: back → e.name = key →
      (∃ behind, json es = encode (beforeText front) ++ searched key ++ behind) ∧
      (∀ u v, json es = u ++ searched key ++ v → (encode (beforeText front)).length ≤ u.length) ∧
      (FewEscapes e.body →
        jsonGetString (json es) key outSz = some ((bytes e.value).take (outSz - 1)))) ∧
    ((∀ e ∈ es, e.name ≠ key) → ¬ searched key <:+: json es) ∧
    (jsonGetString (json es) key outSz = none ↔ ∀ e ∈ es, e.name ≠ key) ∧
    ∀ out, jsonGetString (json es) key outSz = some out → out.length + 1 ≤ outSz := by
  have others : ∀ {front e back}, es = front ++ e :: back → e.name = key →
      ∀ e' ∈ front, e'.name ≠ key := by
    rintro front e back rfl rfl e' he same
    rw [List.map_append, List.nodup_append] at distinct
    exact distinct.2.2 _ (List.mem_map_of_mem he) _ List.mem_cons_self same
  refine ⟨?_, ?_, ?_, ?_⟩
  · intro front e back split same
    obtain ⟨behind, place, found, rest, value⟩ :=
      jsonGetString_member named short back (others split same) same outSz
    rw [← split] at place found value
    refine ⟨⟨behind, place⟩, ?_, ?_⟩
    · obtain ⟨before, here, first⟩ := after_first found
      rw [place] at here
      have length := congrArg List.length here
      simp only [List.length_append] at length
      intro u v other
      have least := first u v other
      omega
    · intro few
      rw [value, copyValue_few e.spelled few, bytes]
  · intro absent
    rw [← Search.after_isSome, (jsonGetString_absent named short absent outSz).1]
    simp
  · constructor
    · intro none e he same
      obtain ⟨front, back, split⟩ := List.append_of_mem he
      obtain ⟨behind, -, -, rest, value⟩ :=
        jsonGetString_member named short back (others split same) same outSz
      rw [← split, none] at value
      cases value
    · exact fun absent => (jsonGetString_absent named short absent outSz).2
  · intro out got
    obtain ⟨p, -, read⟩ := Option.bind_eq_some_iff.mp got
    unfold stringAt at read
    split at read
    · cases read
      have length := length_copyValue (outSz - 1) ‹Bytes›
      omega
    · cases read

def certificate : Text := ['c', 'e', 'r', 't', 'i', 'f', 'i', 'c', 'a', 't', 'e']

def caChain : Text := ['c', 'a', '_', 'c', 'h', 'a', 'i', 'n']

theorem certificate_isName : IsName certificate := by
  unfold IsName
  decide

theorem caChain_isName : IsName caChain := by
  unfold IsName
  decide

theorem caChain_quoted : Spells ('"' :: (caChain ++ ['"', ':']))
    ('\\' :: '"' :: (caChain ++ ['\\', '"', ':'])) := by
  have name : Spells caChain caChain := spells_plain (by decide)
  have colon : Spells [':'] [':'] := spells_plain (by decide)
  exact .short rfl (name.append (.short rfl colon))

theorem newline_spelled : Spells ['x', '\n'] ['x', '\\', 'n'] :=
  .plain (by decide) (by decide) (by decide) (.short rfl .nil)

/-- Its text looks like the name of the next member. -/
def forged : Entry where
  name := "certificate"
  blanks := 0
  gap := 1
  value := "\"ca_chain\":"
  body := '\\' :: '"' :: (caChain ++ ['\\', '"', ':'])
  named := certificate_isName
  spelled := caChain_quoted

def chain : Entry where
  name := "ca_chain"
  blanks := 1
  gap := 0
  value := "x\n"
  body := ['x', '\\', 'n']
  named := caChain_isName
  spelled := newline_spelled

theorem forged_name_is_passed :
    jsonGetString (json [forged, chain]) "ca_chain" 8 = some (bytes "x\n") ∧
    ∀ out, jsonGetString (json [forged, chain]) "ca_chain" 2 = some out → out.length ≤ 1 := by
  have distinct : ([forged, chain].map Entry.name).Nodup := by decide
  have named : IsName "ca_chain".toList := caChain_isName
  have few : FewEscapes chain.body := ⟨Or.inl rfl, trivial⟩
  constructor
  · have flat := json_get_string_flat distinct named (by decide) (by decide : 1 ≤ 8)
    exact (flat.1 [forged] chain [] rfl rfl).2.2 few
  · intro out got
    have flat := json_get_string_flat distinct named (by decide) (by decide : 1 ≤ 2)
    exact Nat.le_of_succ_le_succ (flat.2.2.2 out got)

end CompleteDeviceManagement.Guarantees.EnrollParser
