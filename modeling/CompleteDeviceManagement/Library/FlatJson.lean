import CompleteDeviceManagement.Library.JsonText
import CompleteDeviceManagement.Library.Search

/-!
# Searching a name in a flat JSON object

The members have names of letters and texts for values, however these are escaped; there
may be blanks behind colons and commas. Then `"name":` begins with the quote of a member of that
name or is not there: within a text its first quote would be escaped and no unescaped one
could end the name, and what follows a text is no colon.
-/

set_option autoImplicit false

namespace CompleteDeviceManagement.Library.FlatJson
open CompleteDeviceManagement.Library.JsonText CompleteDeviceManagement.Library.Search
open CompleteDeviceManagement.Library.IpText (digitsValue digitsValue_of_mem)

/-! ## Texts -/

def nameChar (c : Char) : Bool := Ascii.isUpper c || Ascii.isLower c || c == '_'

def IsName (name : Text) : Prop := ∀ c ∈ name, nameChar c = true

/-- A member as it is written, `body` between the quotes of its value. There are `blanks`
behind its colon, and `gap` behind the comma if another one follows. -/
structure Entry where
  name : String
  blanks : Nat
  gap : Nat
  value : String
  body : Text
  named : IsName name.toList
  spelled : Spells value.toList body

/-- What is behind the colon of the name. -/
def Entry.rest (e : Entry) : Text := List.replicate e.blanks ' ' ++ '"' :: (e.body ++ ['"'])

def Entry.text (e : Entry) : Text := '"' :: (e.name.toList ++ '"' :: ':' :: e.rest)

/-- The comma behind a member. -/
def Entry.comma (e : Entry) : Text := ',' :: List.replicate e.gap ' '

def membersText : List Entry → Text
  | [] => []
  | [e] => e.text
  | e :: es => e.text ++ (e.comma ++ membersText es)

def objectText (es : List Entry) : Text := '\x7b' :: (membersText es ++ ['\x7d'])

/-- `"name":` -/
def pattern (name : Text) : Text := '"' :: (name ++ ['"', ':'])

/-- What stands before the first of some members. -/
def beforeText (es : List Entry) : Text := '\x7b' :: es.flatMap fun e => e.text ++ e.comma

/-! ## Where the pattern begins -/

theorem nameChar_ne {c : Char} (h : nameChar c = true) :
    c.toNat < 128 ∧ c ∉ ['"', '\\', ',', ':', '\x7d'] := by
  constructor
  · simp only [nameChar, Ascii.isUpper, Ascii.isLower, Bool.or_eq_true, Bool.and_eq_true,
      decide_eq_true_eq, beq_iff_eq] at h
    have upper : 'Z'.toNat = 90 := rfl
    have lower : 'z'.toNat = 122 := rfl
    rcases h with (⟨-, h⟩ | ⟨-, h⟩) | rfl
    · have code : c.toNat ≤ 'Z'.toNat := h
      omega
    · have code : c.toNat ≤ 'z'.toNat := h
      omega
    · decide
  · have marks : ∀ d ∈ ['"', '\\', ',', ':', '\x7d'], nameChar d = false := by decide
    intro mark
    rw [marks c mark] at h
    cases h

section Search

variable {key : Text} (named : IsName key)
include named

/-- The name and its end do not begin with one of these. -/
theorem absent_at_mark {c : Char} (mark : c ∈ ['\\', ',', ':', '\x7d']) (rest : Text) :
    ¬ key ++ ['"', ':'] <+: c :: rest := by
  intro begins
  cases key with
  | nil =>
    have same : '"' = c := (List.cons_prefix_cons.mp begins).1
    rw [← same] at mark
    exact absurd mark (by decide)
  | cons a key =>
    have same : a = c := (List.cons_prefix_cons.mp begins).1
    have letter := (nameChar_ne (named a List.mem_cons_self)).2
    rw [same] at letter
    exact letter (List.mem_cons_of_mem '"' mark)

/-- Nor with what is left of a text, which no colon follows. -/
theorem absent_in_body {cs : List Char} {t : Text} (spelled : Spells cs t) {mark : Char}
    (other : mark ≠ ':') (tail : Text) : ¬ key ++ ['"', ':'] <+: t ++ '"' :: mark :: tail := by
  induction spelled generalizing key with
  | nil =>
    intro begins
    cases key with
    | nil =>
      have later := (List.cons_prefix_cons.mp begins).2
      exact other (List.cons_prefix_cons.mp later).1.symm
    | cons a key =>
      have same : a = '"' := (List.cons_prefix_cons.mp begins).1
      have letter := (nameChar_ne (named a List.mem_cons_self)).2
      rw [same] at letter
      exact letter List.mem_cons_self
  | @plain c cs t printable quote backslash more ih =>
    intro begins
    cases key with
    | nil => exact quote (List.cons_prefix_cons.mp begins).1.symm
    | cons a key =>
      exact ih (fun d hd => named d (List.mem_cons_of_mem a hd)) (List.cons_prefix_cons.mp begins).2
  | short escape more ih => exact absent_at_mark named (by decide) _
  | unit unit more ih => exact absent_at_mark named (by decide) _
  | pair high isHigh low isLow both more ih => exact absent_at_mark named (by decide) _

end Search

section Skip

variable {key : Text}

theorem after_quote {rest : Text} (none : ¬ key ++ ['"', ':'] <+: rest) :
    after (pattern key) ('"' :: rest) = after (pattern key) rest :=
  after_cons fun begins => none (List.cons_prefix_cons.mp begins).2

theorem after_other {c : Char} (quote : c ≠ '"') (rest : Text) :
    after (pattern key) (c :: rest) = after (pattern key) rest :=
  after_cons fun begins => quote (List.cons_prefix_cons.mp begins).1.symm

theorem after_skipped {front : Text} (absent : '"' ∉ front) (rest : Text) :
    after (pattern key) (front ++ rest) = after (pattern key) rest := after_skip absent rest

end Skip

/-- Digits are no quotes. -/
theorem quote_not_mem {ds : List Char} {u : Nat} (digits : digitsValue 16 ds = some u) :
    '"' ∉ ds := by
  intro quote
  rw [digitsValue_of_mem quote (by decide)] at digits
  cases digits

section Found

variable {key : Text} (named : IsName key)
include named

/-- Nothing is found in a text, nor at its end. -/
theorem after_body {cs : List Char} {t : Text} (spelled : Spells cs t) {mark : Char}
    (other : mark ∈ [',', '\x7d']) (tail : Text) :
    after (pattern key) (t ++ '"' :: mark :: tail) = after (pattern key) (mark :: tail) := by
  have colon : mark ≠ ':' := by
    rintro rfl
    exact absurd other (by decide)
  induction spelled with
  | nil =>
    have inside : mark ∈ ['\\', ',', ':', '\x7d'] := by
      simp only [List.mem_cons, List.not_mem_nil, or_false] at other ⊢
      exact Or.inr (other.imp_right Or.inr)
    exact after_quote (absent_at_mark named inside tail)
  | plain printable quote backslash more ih =>
    rw [List.cons_append, after_other quote, ih]
  | @short e c cs t escape more ih =>
    rw [List.cons_append, List.cons_append, after_other (by decide)]
    by_cases quote : e = '"'
    · rw [quote, after_quote (absent_in_body named more colon tail), ih]
    · rw [after_other quote, ih]
  | @unit a b d e c cs t unit more ih =>
    have plain : '"' ∉ ['\\', 'u'] ++ [a, b, d, e] := by
      rw [List.mem_append, not_or]
      exact ⟨by decide, quote_not_mem unit⟩
    rw [← ih, ← after_skipped plain (t ++ '"' :: mark :: tail)]
    rfl
  | @pair a b d e a' b' d' e' c cs t u v high isHigh low isLow both more ih =>
    have plain : '"' ∉ ['\\', 'u'] ++ [a, b, d, e] ++ (['\\', 'u'] ++ [a', b', d', e']) := by
      simp only [List.mem_append, not_or]
      exact ⟨⟨by decide, quote_not_mem high⟩, by decide, quote_not_mem low⟩
    rw [← ih, ← after_skipped plain (t ++ '"' :: mark :: tail)]
    rfl

theorem name_prefix_iff {name : Text} (named' : IsName name) (rest : Text) :
    key ++ ['"', ':'] <+: name ++ '"' :: ':' :: rest ↔ key = name := by
  induction key generalizing name with
  | nil =>
    cases name with
    | nil => simp
    | cons a name =>
      constructor
      · intro begins
        have same : '"' = a := (List.cons_prefix_cons.mp begins).1
        have letter := (nameChar_ne (named' a List.mem_cons_self)).2
        rw [← same] at letter
        exact absurd List.mem_cons_self letter
      · intro same
        cases same
  | cons a key ih =>
    have letter := (nameChar_ne (named a List.mem_cons_self)).2
    cases name with
    | nil =>
      constructor
      · intro begins
        have same : a = '"' := (List.cons_prefix_cons.mp begins).1
        rw [same] at letter
        exact absurd List.mem_cons_self letter
      · intro same
        cases same
    | cons b name =>
      have later : key ++ ['"', ':'] <+: name ++ '"' :: ':' :: rest ↔ key = name :=
        ih (fun d hd => named d (List.mem_cons_of_mem a hd)) fun d hd =>
          named' d (List.mem_cons_of_mem b hd)
      rw [List.cons_append, List.cons_append, List.cons_prefix_cons, later, List.cons.injEq]

/-- A member of another name is passed over. -/
theorem after_entry {e : Entry} (other : e.name.toList ≠ key) {mark : Char}
    (marks : mark ∈ [',', '\x7d']) (tail : Text) :
    after (pattern key) (e.text ++ mark :: tail) = after (pattern key) (mark :: tail) := by
  have colon : mark ≠ ':' := by
    rintro rfl
    exact absurd marks (by decide)
  have letters : '"' ∉ e.name.toList := by
    intro quote
    exact (nameChar_ne (e.named _ quote)).2 List.mem_cons_self
  have blanks : '"' ∉ ':' :: List.replicate e.blanks ' ' := by
    intro quote
    rcases List.mem_cons.mp quote with same | same
    · exact absurd same (by decide)
    · exact absurd (List.eq_of_mem_replicate same) (by decide)
  have split : e.text ++ mark :: tail = '"' :: (e.name.toList ++ '"' :: ':' ::
      (List.replicate e.blanks ' ' ++ '"' :: (e.body ++ '"' :: mark :: tail))) := by
    simp [Entry.text, Entry.rest]
  rw [split, after_quote fun begins =>
      other ((name_prefix_iff named e.named _).mp begins).symm,
    after_skipped letters, after_quote (absent_at_mark named (by decide) _), ← List.cons_append,
    after_skipped blanks, after_quote (absent_in_body named e.spelled colon tail),
    after_body named e.spelled marks]

end Found

theorem after_comma {key : Text} (e : Entry) (rest : Text) :
    after (pattern key) (e.comma ++ rest) = after (pattern key) rest := by
  refine after_skipped ?_ rest
  intro quote
  rcases List.mem_cons.mp quote with same | same
  · exact absurd same (by decide)
  · exact absurd (List.eq_of_mem_replicate same) (by decide)

theorem after_found_entry {e : Entry} {key : Text} (same : e.name.toList = key) (tail : Text) :
    after (pattern key) (e.text ++ tail) = some (e.rest ++ tail) := by
  have split : e.text ++ tail = pattern key ++ (e.rest ++ tail) := by
    simp [Entry.text, pattern, same]
  rw [split, after_found (by simp [pattern])]

/-! ## In an object -/

/-- A member and what follows it in an object. -/
theorem membersText_cons (e : Entry) (es : List Entry) :
    ∃ mark tail, mark ∈ [',', '\x7d'] ∧
      membersText (e :: es) ++ ['\x7d'] = e.text ++ mark :: tail ∧
      (mark :: tail = ['\x7d'] ∧ es = [] ∨
        mark :: tail = e.comma ++ (membersText es ++ ['\x7d'])) := by
  cases es with
  | nil => exact ⟨'\x7d', [], by decide, rfl, Or.inl ⟨rfl, rfl⟩⟩
  | cons e' es =>
    refine ⟨',', List.replicate e.gap ' ' ++ (membersText (e' :: es) ++ ['\x7d']), by decide, ?_,
      Or.inr rfl⟩
    simp [membersText, Entry.comma]

theorem after_absent {key : Text} (named : IsName key) {es : List Entry}
    (absent : ∀ e ∈ es, e.name.toList ≠ key) :
    after (pattern key) (objectText es) = none := by
  have closing : after (pattern key) ['\x7d'] = none := by
    rw [after_other (by decide)]
    rfl
  have members : after (pattern key) (membersText es ++ ['\x7d']) = none := by
    induction es with
    | nil => exact closing
    | cons e es ih =>
      have later := ih fun e' he => absent e' (List.mem_cons_of_mem e he)
      obtain ⟨mark, tail, marks, split, rest⟩ := membersText_cons e es
      rw [split, after_entry named (absent e List.mem_cons_self) marks]
      rcases rest with ⟨last, -⟩ | more
      · rw [last, closing]
      · rw [more, after_comma, later]
  rw [objectText, after_other (by decide), members]

/-- The search comes to the member, past those before it. -/
theorem after_member {key : Text} (named : IsName key) {front : List Entry} {e : Entry}
    (back : List Entry)
    (before : ∀ e' ∈ front, e'.name.toList ≠ key) (same : e.name.toList = key) :
    ∃ behind, objectText (front ++ e :: back) =
        beforeText front ++ pattern key ++ (e.rest ++ behind) ∧
      after (pattern key) (objectText (front ++ e :: back)) = some (e.rest ++ behind) := by
  have members : ∃ behind, membersText (front ++ e :: back) ++ ['\x7d'] =
        (front.flatMap fun e => e.text ++ e.comma) ++ pattern key ++ (e.rest ++ behind) ∧
      after (pattern key) (membersText (front ++ e :: back) ++ ['\x7d']) =
        some (e.rest ++ behind) := by
    induction front with
    | nil =>
      obtain ⟨mark, tail, -, split, -⟩ := membersText_cons e back
      rw [List.nil_append, split]
      refine ⟨mark :: tail, ?_, after_found_entry same _⟩
      simp [Entry.text, pattern, same]
    | cons e' front ih =>
      obtain ⟨behind, later, found⟩ := ih fun d hd => before d (List.mem_cons_of_mem e' hd)
      obtain ⟨mark, tail, marks, split, rest⟩ := membersText_cons e' (front ++ e :: back)
      rcases rest with ⟨-, none⟩ | more
      · simp at none
      · rw [List.cons_append, split]
        refine ⟨behind, ?_, ?_⟩
        · rw [more, later]
          simp
        · rw [after_entry named (before e' List.mem_cons_self) marks, more,
            after_comma, found]
  obtain ⟨behind, split, found⟩ := members
  refine ⟨behind, ?_, ?_⟩
  · rw [objectText, split, beforeText]
    simp
  · rw [objectText, after_other (by decide), found]

end CompleteDeviceManagement.Library.FlatJson
