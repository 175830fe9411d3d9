import CompleteDeviceManagement.Library.JsonText
import CompleteDeviceManagement.Library.Search

/-!
# Searching a key in compact JSON

In a JSON text without space, what follows the first `"name":` is the value of the
first member, in the order of the text and at any depth, whose key is the name or
ends in a quote and the name.
-/

set_option autoImplicit false

namespace CompleteDeviceManagement.Library.JsonKeys
open CompleteDeviceManagement.Library.JsonText CompleteDeviceManagement.Library.Search

/-! ## Compact texts -/

section Write

variable (style : Style)

mutual

/-- `json.dumps(…, separators=(",", ":"))` -/
def compact : Json → Text
  | .null => "null".toList
  | .bool b => (if b then "true" else "false").toList
  | .int n => intText n
  | .float text => text.toList
  | .str s => style.quoted s
  | .arr items => '[' :: compactItems items ++ [']']
  | .obj fields => '\x7b' :: compactMembers fields ++ ['\x7d']

def compactItems : List Json → Text
  | [] => []
  | [v] => compact v
  | v :: vs => compact v ++ ',' :: compactItems vs

def compactMembers : List (String × Json) → Text
  | [] => []
  | [(key, v)] => style.quoted key ++ ':' :: compact v
  | (key, v) :: ms => style.quoted key ++ ':' :: (compact v ++ ',' :: compactMembers ms)

end

end Write

/-- The characters of numbers. -/
def numberChar (c : Char) : Bool := Ascii.isDigit c || c ∈ ['-', '+', '.', 'e', 'E']

mutual

/-- Floats are written as numbers. -/
def Numeric : Json → Prop
  | .float text => text ≠ "" ∧ ∀ c ∈ text.toList, numberChar c = true
  | .arr items => NumericItems items
  | .obj fields => NumericMembers fields
  | _ => True

def NumericItems : List Json → Prop
  | [] => True
  | v :: vs => Numeric v ∧ NumericItems vs

def NumericMembers : List (String × Json) → Prop
  | [] => True
  | (_, v) :: ms => Numeric v ∧ NumericMembers ms

end

/-! ## The value that is found -/

/-- What can be searched for: letters that are never escaped and end no token. -/
structure Name (style : Style) where
  first : Char
  more : Text
  letters : ∀ c ∈ first :: more,
    c.toNat < 128 ∧ style.spell c = [c] ∧ c ∉ ['"', '\\', ',', ':', ']', '\x7d']

variable {style : Style} (name : Name style)

def Name.text : Text := name.first :: name.more

/-- `"name":` -/
def Name.pattern : Text := '"' :: (name.text ++ ['"', ':'])

def Name.Ends (key : Text) : Prop := key = name.text ∨ ∃ front, key = front ++ '"' :: name.text

instance (key : Text) : Decidable (name.Ends key) :=
  decidable_of_iff (key = name.text ∨ '"' :: name.text <:+ key) (by
    unfold Name.Ends
    refine or_congr Iff.rfl ⟨?_, ?_⟩
    · rintro ⟨front, same⟩
      exact ⟨front, same.symm⟩
    · rintro ⟨front, same⟩
      exact ⟨front, same.symm⟩)

mutual

def find : Json → Option Json
  | .arr items => findItems items
  | .obj fields => findMembers fields
  | _ => none

def findItems : List Json → Option Json
  | [] => none
  | v :: vs => (find v).or (findItems vs)

def findMembers : List (String × Json) → Option Json
  | [] => none
  | (key, v) :: ms =>
      if name.Ends key.toList then some v else (find v).or (findMembers ms)

end

/-! ## Inside a string -/

theorem spell_cases (style : Style) (c : Char) :
    (style.spell c = [c] ∧ c ≠ '"') ∨ ∃ more, style.spell c = '\\' :: more := by
  unfold Style.spell
  cases escape : shortEscape c with
  | some e => exact Or.inr ⟨[e], rfl⟩
  | none =>
    obtain ⟨quote, -⟩ := ne_of_shortEscape escape
    by_cases plain : style.plain c
    · exact Or.inl ⟨if_pos plain, quote⟩
    · right
      by_cases small : c.toNat < 0x10000
      · exact ⟨'u' :: hex4 c.toNat, by simp [plain, small]⟩
      · exact ⟨_, by simp only [plain, small, if_false]; rfl⟩

theorem hex4_plain (u : Nat) : '"' ∉ hex4 u := by
  have digit : ∀ n < 16, n.digitChar ≠ '"' := by decide
  simp only [hex4, List.mem_cons, List.not_mem_nil, or_false, not_or]
  exact ⟨(digit _ (Nat.mod_lt _ (by decide))).symm, (digit _ (Nat.mod_lt _ (by decide))).symm,
    (digit _ (Nat.mod_lt _ (by decide))).symm, (digit _ (Nat.mod_lt _ (by decide))).symm⟩

theorem quote_not_mem_spell (style : Style) {c : Char} (other : c ≠ '"') :
    '"' ∉ style.spell c := by
  unfold Style.spell
  split
  next e escape =>
    intro inside
    have letter : '"' = e := by simpa using inside
    have meant := unescape_shortEscape escape
    rw [← letter] at meant
    exact other (Option.some.inj meant).symm
  next =>
    split
    · simpa using other.symm
    · split
      · simpa using hex4_plain c.toNat
      · simp [hex4_plain]

/-- A name and the end of its string are spelled at the beginning of that string only. -/
theorem inside_iff {n : Text} (letters : ∀ a ∈ n, style.spell a = [a] ∧ a ∉ ['"', '\\'])
    (s tail : Text) : n ++ ['"', ':'] <+: s.flatMap style.spell ++ '"' :: tail ↔
      s = n ∧ tail.head? = some ':' := by
  induction n generalizing s with
  | nil =>
    cases s with
    | nil =>
      cases tail with
      | nil => simp
      | cons d tail => simp [List.cons_prefix_cons, eq_comm]
    | cons c s =>
      rw [List.flatMap_cons, List.append_assoc, List.nil_append]
      constructor
      · intro begins
        exfalso
        rcases spell_cases style c with ⟨plain, quote⟩ | ⟨more, escaped⟩
        · rw [plain, List.singleton_append] at begins
          exact quote (List.cons_prefix_cons.mp begins).1.symm
        · rw [escaped, List.cons_append] at begins
          exact absurd (List.cons_prefix_cons.mp begins).1 (by decide)
      · rintro ⟨same, -⟩
        cases same
  | cons a n ih =>
    obtain ⟨spelled, letter⟩ := letters a List.mem_cons_self
    have rest := ih fun b hb => letters b (List.mem_cons_of_mem a hb)
    cases s with
    | nil =>
      constructor
      · intro begins
        have same : a = '"' := (List.cons_prefix_cons.mp begins).1
        rw [same] at letter
        exact absurd (by simp) letter
      · rintro ⟨same, -⟩
        cases same
    | cons c s =>
      rw [List.flatMap_cons, List.append_assoc, List.cons_append]
      constructor
      · intro begins
        rcases spell_cases style c with ⟨plain, quote⟩ | ⟨more, escaped⟩
        · rw [plain, List.singleton_append, List.cons_prefix_cons] at begins
          obtain ⟨same, last⟩ := (rest s).mp begins.2
          exact ⟨by rw [begins.1, same], last⟩
        · rw [escaped, List.cons_append, List.cons_prefix_cons] at begins
          rw [begins.1] at letter
          exact absurd (by simp) letter
      · rintro ⟨same, last⟩
        obtain ⟨rfl, rfl⟩ := List.cons.inj same
        rw [spelled, List.singleton_append, List.cons_prefix_cons]
        exact ⟨rfl, (rest s).mpr ⟨rfl, last⟩⟩

theorem Name.letter (name : Name style) {a : Char} (h : a ∈ name.text) :
    style.spell a = [a] ∧ a ∉ ['"', '\\'] := by
  obtain ⟨-, spelled, letter⟩ := name.letters a h
  refine ⟨spelled, ?_⟩
  simp only [List.mem_cons, not_or] at letter ⊢
  exact ⟨letter.1, letter.2.1, List.not_mem_nil⟩

theorem Name.spelled (name : Name style) : name.text.flatMap style.spell = name.text := by
  have each : ∀ n : Text, (∀ a ∈ n, style.spell a = [a]) → n.flatMap style.spell = n := by
    intro n letters
    induction n with
    | nil => rfl
    | cons a n ih =>
      rw [List.flatMap_cons, letters a List.mem_cons_self,
        ih fun b hb => letters b (List.mem_cons_of_mem a hb), List.singleton_append]
  exact each name.text fun a ha => (name.letter ha).1

theorem after_skipped {front : Text} (absent : '"' ∉ front) (rest : Text) :
    after name.pattern (front ++ rest) = after name.pattern rest := after_skip absent rest

/-- What is found from inside a string on, of which `s` is left. -/
theorem after_inside (s tail : Text) (closed : tail.head? ≠ some name.first) :
    after name.pattern (s.flatMap style.spell ++ '"' :: tail) =
      if '"' :: name.text <:+ s ∧ tail.head? = some ':' then some tail.tail
      else after name.pattern tail := by
  induction s with
  | nil =>
    have none : ¬ name.pattern <+: '"' :: tail := by
      intro begins
      obtain ⟨rest, split⟩ := (List.cons_prefix_cons.mp begins).2
      rw [← split] at closed
      exact closed rfl
    rw [if_neg (by simp), List.flatMap_nil, List.nil_append, after_cons none]
  | cons c s ih =>
    rw [List.flatMap_cons, List.append_assoc]
    by_cases quote : c = '"'
    · subst quote
      have spelled : style.spell '"' = ['\\'] ++ ['"'] := rfl
      have here := inside_iff (fun a ha => name.letter ha) s tail
      rw [spelled, List.append_assoc, after_skipped name (by decide), List.singleton_append]
      by_cases found : s = name.text ∧ tail.head? = some ':'
      · obtain ⟨same, last⟩ := found
        obtain ⟨more, split⟩ := List.head?_eq_some_iff.mp last
        have text : '"' :: (s.flatMap style.spell ++ '"' :: tail) = name.pattern ++ more := by
          rw [same, name.spelled, split]
          simp [Name.pattern]
        rw [if_pos ⟨by rw [same], last⟩, text, after_found (by simp [Name.pattern]), split]
        rfl
      · have none : ¬ name.pattern <+: '"' :: (s.flatMap style.spell ++ '"' :: tail) := by
          intro begins
          exact found (here.mp (List.cons_prefix_cons.mp begins).2)
        have same : ('"' :: name.text <:+ '"' :: s ∧ tail.head? = some ':') =
            ('"' :: name.text <:+ s ∧ tail.head? = some ':') := by
          rw [eq_iff_iff]
          constructor
          · rintro ⟨suffix, last⟩
            rcases List.suffix_cons_iff.mp suffix with whole | within
            · exact absurd ⟨(List.cons.inj whole).2.symm, last⟩ found
            · exact ⟨within, last⟩
          · rintro ⟨within, last⟩
            exact ⟨within.trans (List.suffix_cons _ _), last⟩
        rw [after_cons none, ih]
        simp only [same]
    · have same : ('"' :: name.text <:+ c :: s) = ('"' :: name.text <:+ s) := by
        rw [eq_iff_iff, List.suffix_cons_iff]
        refine or_iff_right ?_
        intro whole
        exact quote (List.cons.inj whole).1.symm
      rw [after_skipped name (quote_not_mem_spell style quote), ih]
      simp only [same]

/-! ## In a text -/

/-- What follows a value. -/
def Behind (rest : Text) : Prop := ∀ c, rest.head? = some c → c ∈ [',', ']', '\x7d']

theorem Name.not_mark (name : Name style) {c : Char} (mark : c ∈ [',', ':', ']', '\x7d']) :
    c ≠ name.first := by
  intro same
  obtain ⟨-, -, letter⟩ := name.letters name.first List.mem_cons_self
  rw [← same] at letter
  apply letter
  simp only [List.mem_cons] at mark ⊢
  exact Or.inr (Or.inr mark)

theorem after_key (key : String) (rest : Text) :
    after name.pattern (style.quoted key ++ ':' :: rest) =
      if name.Ends key.toList then some rest else after name.pattern rest := by
  have closed : (':' :: rest).head? ≠ some name.first :=
    fun same => name.not_mark (by decide) (Option.some.inj same)
  have inside := after_inside name key.toList (':' :: rest) closed
  have colon : after name.pattern ([':'] ++ rest) = after name.pattern rest :=
    after_skipped name (by decide) rest
  rw [List.singleton_append] at colon
  have text : style.quoted key ++ ':' :: rest =
      '"' :: (key.toList.flatMap style.spell ++ '"' :: (':' :: rest)) := by
    simp [Style.quoted]
  have here := inside_iff (fun a ha => name.letter ha) key.toList (':' :: rest)
  rw [text]
  by_cases whole : key.toList = name.text
  · have found : '"' :: (key.toList.flatMap style.spell ++ '"' :: (':' :: rest)) =
        name.pattern ++ rest := by
      rw [whole, name.spelled]
      simp [Name.pattern]
    have ends : name.Ends key.toList := Or.inl whole
    rw [if_pos ends, found, after_found (by simp [Name.pattern])]
  · have none : ¬ name.pattern <+:
        '"' :: (key.toList.flatMap style.spell ++ '"' :: (':' :: rest)) := by
      intro begins
      exact whole (here.mp (List.cons_prefix_cons.mp begins).2).1
    have same : ('"' :: name.text <:+ key.toList ∧ (':' :: rest).head? = some ':') =
        name.Ends key.toList := by
      rw [eq_iff_iff]
      constructor
      · rintro ⟨⟨front, split⟩, -⟩
        exact Or.inr ⟨front, split.symm⟩
      · rintro (same | ⟨front, split⟩)
        · exact absurd same whole
        · exact ⟨⟨front, split.symm⟩, rfl⟩
    rw [after_cons none, inside, colon]
    simp only [same]
    rfl

theorem after_string (s : String) {rest : Text} (behind : Behind rest) :
    after name.pattern (style.quoted s ++ rest) = after name.pattern rest := by
  have closed : rest.head? ≠ some name.first := by
    intro same
    have mark := behind name.first same
    refine name.not_mark ?_ rfl
    simp only [List.mem_cons] at mark ⊢
    exact mark.imp_right Or.inr
  have colon : rest.head? ≠ some ':' := fun same => absurd (behind ':' same) (by decide)
  have inside := after_inside name s.toList rest closed
  have text : style.quoted s ++ rest = '"' :: (s.toList.flatMap style.spell ++ '"' :: rest) := by
    simp [Style.quoted]
  have none : ¬ name.pattern <+: '"' :: (s.toList.flatMap style.spell ++ '"' :: rest) := by
    intro begins
    exact colon ((inside_iff (fun a ha => name.letter ha) s.toList rest).mp
      (List.cons_prefix_cons.mp begins).2).2
  rw [text, after_cons none, inside, if_neg fun h => colon h.2]

theorem number_plain {text : Text} (numbers : ∀ c ∈ text, numberChar c = true) : '"' ∉ text := by
  intro inside
  exact absurd (numbers _ inside) (by decide)

theorem intText_number (n : Int) : ∀ c ∈ intText n, numberChar c = true := by
  have digits : ∀ k, ∀ c ∈ Nat.toDigits 10 k, numberChar c = true := by
    intro k c hc
    rw [numberChar, isDigit_toDigits k c hc, Bool.true_or]
  cases n with
  | ofNat k => exact digits k
  | negSucc k =>
    intro c hc
    rcases List.mem_cons.mp hc with rfl | hc
    · decide
    · exact digits (k + 1) c hc

/-- The search comes to the value that is found, or goes on behind the text. -/
def Finds (found : Option Json) (text rest : Text) : Prop :=
  match found with
  | some w => Numeric w ∧ ∃ more, after name.pattern text = some (compact style w ++ more)
  | none => after name.pattern text = after name.pattern rest

variable {name}

theorem Finds.or {f f' : Option Json} {text middle rest : Text} (first : Finds name f text middle)
    (later : Finds name f' middle rest) : Finds name (f.or f') text rest := by
  cases f with
  | some w => exact first
  | none =>
    cases f' with
    | some w =>
      obtain ⟨numeric, more, found⟩ := later
      exact ⟨numeric, more, Eq.trans first found⟩
    | none => exact Eq.trans first later

theorem Finds.skip {f : Option Json} {front text rest : Text} (absent : '"' ∉ front)
    (finds : Finds name f text rest) : Finds name f (front ++ text) rest := by
  have skipped := after_skipped name absent text
  cases f with
  | some w =>
    obtain ⟨numeric, more, found⟩ := finds
    exact ⟨numeric, more, skipped.trans found⟩
  | none => exact skipped.trans finds

theorem Finds.plain {text : Text} (absent : '"' ∉ text) (rest : Text) :
    Finds name none (text ++ rest) rest := after_skipped name absent rest

theorem Finds.bracketed {f : Option Json} {opening closing : Char} {inner rest : Text}
    (hopening : opening ≠ '"') (hclosing : closing ≠ '"')
    (inside : Finds name f (inner ++ closing :: rest) (closing :: rest)) :
    Finds name f ((opening :: inner ++ [closing]) ++ rest) rest := by
  have skipOpening : '"' ∉ [opening] := by simpa using hopening.symm
  have skipClosing : '"' ∉ [closing] := by simpa using hclosing.symm
  have closed : Finds name none ([closing] ++ rest) rest := Finds.plain skipClosing rest
  have both := Finds.skip skipOpening (inside.or closed)
  rw [Option.or_none] at both
  simpa using both

theorem behind_mark {c : Char} (mark : c ∈ [',', ']', '\x7d']) (rest : Text) :
    Behind (c :: rest) := by
  intro d same
  rw [← Option.some.inj same]
  exact mark

theorem finds_items {v : Json} {vs : List Json} {rest : Text} (behind : Behind rest)
    (first : ∀ rest, Behind rest → Finds name (find name v) (compact style v ++ rest) rest)
    (later : vs ≠ [] → Finds name (findItems name vs) (compactItems style vs ++ rest) rest) :
    Finds name (findItems name (v :: vs)) (compactItems style (v :: vs) ++ rest) rest := by
  cases vs with
  | nil =>
    rw [compactItems, findItems, findItems, Option.or_none]
    exact first rest behind
  | cons v' vs =>
    have here := first (',' :: (compactItems style (v' :: vs) ++ rest))
      (behind_mark (by decide) _)
    have comma : Finds name (findItems name (v' :: vs))
        ([','] ++ (compactItems style (v' :: vs) ++ rest)) rest :=
      Finds.skip (by decide) (later (by simp))
    rw [findItems, compactItems, List.append_assoc]
    · exact here.or comma
    · simp

theorem finds_members {key : String} {v : Json} {ms : List (String × Json)} {rest : Text}
    (numeric : Numeric v) (behind : Behind rest)
    (first : ∀ rest, Behind rest → Finds name (find name v) (compact style v ++ rest) rest)
    (later : ms ≠ [] → Finds name (findMembers name ms) (compactMembers style ms ++ rest) rest) :
    Finds name (findMembers name ((key, v) :: ms)) (compactMembers style ((key, v) :: ms) ++ rest)
      rest := by
  have split : ∃ behindKey, compactMembers style ((key, v) :: ms) ++ rest =
      style.quoted key ++ ':' :: (compact style v ++ behindKey) ∧
      Finds name ((find name v).or (findMembers name ms)) (compact style v ++ behindKey) rest := by
    cases ms with
    | nil =>
      refine ⟨rest, by simp [compactMembers], ?_⟩
      rw [findMembers, Option.or_none]
      exact first rest behind
    | cons m ms =>
      refine ⟨',' :: (compactMembers style (m :: ms) ++ rest), by simp [compactMembers], ?_⟩
      have here := first (',' :: (compactMembers style (m :: ms) ++ rest))
        (behind_mark (by decide) _)
      have comma : Finds name (findMembers name (m :: ms))
          ([','] ++ (compactMembers style (m :: ms) ++ rest)) rest :=
        Finds.skip (by decide) (later (by simp))
      exact here.or comma
  obtain ⟨behindKey, text, finds⟩ := split
  have found := after_key name key (compact style v ++ behindKey)
  rw [findMembers, text]
  by_cases ends : name.Ends key.toList
  · rw [if_pos ends] at found ⊢
    exact ⟨numeric, behindKey, found⟩
  · rw [if_neg ends] at found ⊢
    cases hfound : (find name v).or (findMembers name ms) with
    | some w =>
      rw [hfound] at finds
      obtain ⟨numeric', more, later⟩ := finds
      exact ⟨numeric', more, found.trans later⟩
    | none =>
      rw [hfound] at finds
      exact Eq.trans found finds

/-- The search in a compact text finds the first value whose key ends so. -/
theorem finds_compact (name : Name style) (v : Json) : Numeric v → ∀ rest, Behind rest →
    Finds name (find name v) (compact style v ++ rest) rest := by
  refine @Json.rec
    (fun v => Numeric v → ∀ rest, Behind rest →
      Finds name (find name v) (compact style v ++ rest) rest)
    (fun vs => NumericItems vs → ∀ rest, Behind rest → vs ≠ [] →
      Finds name (findItems name vs) (compactItems style vs ++ rest) rest)
    (fun ms => NumericMembers ms → ∀ rest, Behind rest → ms ≠ [] →
      Finds name (findMembers name ms) (compactMembers style ms ++ rest) rest)
    (fun m => Numeric m.2 → ∀ rest, Behind rest →
      Finds name (find name m.2) (compact style m.2 ++ rest) rest)
    ?null ?bool ?int ?float ?str ?arr ?obj ?noItem ?items ?noMember ?members ?member v
  case null =>
    intro _ rest _
    have absent : '"' ∉ "null".toList := by decide
    exact Finds.plain absent rest
  case bool =>
    intro b _ rest _
    have absent : '"' ∉ (if b then "true" else "false").toList := by
      cases b <;> decide
    exact Finds.plain absent rest
  case int => exact fun n _ rest _ => Finds.plain (number_plain (intText_number n)) rest
  case float => exact fun text numeric rest _ => Finds.plain (number_plain numeric.2) rest
  case str => exact fun s _ rest behind => after_string name s behind
  case arr =>
    intro vs ih numeric rest behind
    refine Finds.bracketed (by decide) (by decide) ?_
    cases vs with
    | nil => exact Eq.refl (after name.pattern (']' :: rest))
    | cons v vs => exact ih numeric (']' :: rest) (behind_mark (by decide) rest) (by simp)
  case obj =>
    intro ms ih numeric rest behind
    refine Finds.bracketed (by decide) (by decide) ?_
    cases ms with
    | nil => exact Eq.refl (after name.pattern ('\x7d' :: rest))
    | cons m ms => exact ih numeric ('\x7d' :: rest) (behind_mark (by decide) rest) (by simp)
  case noItem => exact fun _ _ _ hne => absurd rfl hne
  case items =>
    intro v vs first more numeric rest behind _
    exact finds_items behind (first numeric.1) (more numeric.2 rest behind)
  case noMember => exact fun _ _ _ hne => absurd rfl hne
  case members =>
    intro m ms first more numeric rest behind _
    exact finds_members numeric.1 behind (first numeric.1) (more numeric.2 rest behind)
  case member => exact fun _ v ih => ih

/-! ## The characters of a text -/

theorem spell_printable (style : Style) (c : Char) : ∀ d ∈ style.spell c, 32 ≤ d.toNat := by
  have hex : ∀ u, ∀ d ∈ hex4 u, 32 ≤ d.toNat := by
    intro u d hd
    have digit : ∀ n < 16, 32 ≤ n.digitChar.toNat := by decide
    simp only [hex4, List.mem_cons, List.not_mem_nil, or_false] at hd
    rcases hd with rfl | rfl | rfl | rfl <;> exact digit _ (Nat.mod_lt _ (by decide))
  intro d hd
  unfold Style.spell at hd
  split at hd
  next e escape =>
    have letter : 32 ≤ e.toNat := by
      unfold shortEscape at escape
      split_ifs at escape <;> cases escape <;> decide
    simp only [List.mem_cons, List.not_mem_nil, or_false] at hd
    rcases hd with rfl | rfl
    · decide
    · exact letter
  next =>
    split at hd
    next plain =>
      rw [List.mem_singleton.mp hd]
      exact style.printable c plain
    next =>
      split at hd
      · simp only [List.mem_cons] at hd
        rcases hd with rfl | rfl | hd
        · decide
        · decide
        · exact hex _ d hd
      · simp only [List.cons_append, List.mem_cons, List.mem_append] at hd
        rcases hd with rfl | rfl | hd | rfl | rfl | hd
        · decide
        · decide
        · exact hex _ d hd
        · decide
        · decide
        · exact hex _ d hd

theorem numberChar_range {c : Char} (number : numberChar c = true) :
    33 ≤ c.toNat ∧ c.toNat < 128 := by
  rw [numberChar, Bool.or_eq_true] at number
  rcases number with digit | mark
  · rw [Ascii.isDigit, Bool.and_eq_true, decide_eq_true_eq, decide_eq_true_eq] at digit
    have low : '0'.toNat ≤ c.toNat := digit.1
    have high : c.toNat ≤ '9'.toNat := digit.2
    have zero : '0'.toNat = 48 := rfl
    have nine : '9'.toNat = 57 := rfl
    omega
  · have marks : ∀ d ∈ ['-', '+', '.', 'e', 'E'], 33 ≤ d.toNat ∧ d.toNat < 128 := by decide
    exact marks c (of_decide_eq_true mark)

theorem quoted_printable (style : Style) (s : String) : ∀ c ∈ style.quoted s, 32 ≤ c.toNat := by
  intro c hc
  simp only [Style.quoted, List.cons_append, List.mem_cons, List.mem_append, List.mem_flatMap,
    List.not_mem_nil, or_false] at hc
  rcases hc with rfl | ⟨d, -, hc⟩ | rfl
  · decide
  · exact spell_printable style d c hc
  · decide

theorem compactItems_printable {v : Json} {vs : List Json}
    (first : ∀ c ∈ compact style v, 32 ≤ c.toNat)
    (more : ∀ c ∈ compactItems style vs, 32 ≤ c.toNat) :
    ∀ c ∈ compactItems style (v :: vs), 32 ≤ c.toNat := by
  intro c hc
  cases vs with
  | nil => exact first c hc
  | cons v' vs =>
    rw [compactItems] at hc
    · rcases List.mem_append.mp hc with hc | hc
      · exact first c hc
      · rcases List.mem_cons.mp hc with rfl | hc
        · decide
        · exact more c hc
    · simp

theorem compactMembers_printable {key : String} {v : Json} {ms : List (String × Json)}
    (first : ∀ c ∈ compact style v, 32 ≤ c.toNat)
    (more : ∀ c ∈ compactMembers style ms, 32 ≤ c.toNat) :
    ∀ c ∈ compactMembers style ((key, v) :: ms), 32 ≤ c.toNat := by
  intro c hc
  have split : c ∈ style.quoted key ∨ c = ':' ∨ c ∈ compact style v ∨ c = ',' ∨
      c ∈ compactMembers style ms := by
    cases ms with
    | nil =>
      have here : c ∈ style.quoted key ∨ c = ':' ∨ c ∈ compact style v := by
        simpa [compactMembers] using hc
      exact here.imp_right (Or.imp_right Or.inl)
    | cons m ms => simpa [compactMembers, or_assoc] using hc
  rcases split with hc | rfl | hc | rfl | hc
  · exact quoted_printable style key c hc
  · decide
  · exact first c hc
  · decide
  · exact more c hc

theorem bracketed_printable {opening closing : Char} {inner : Text}
    (hopening : 32 ≤ opening.toNat) (hclosing : 32 ≤ closing.toNat)
    (inside : ∀ c ∈ inner, 32 ≤ c.toNat) :
    ∀ c ∈ opening :: inner ++ [closing], 32 ≤ c.toNat := by
  intro c hc
  simp only [List.cons_append, List.mem_cons, List.mem_append, List.not_mem_nil, or_false] at hc
  rcases hc with rfl | hc | rfl
  · exact hopening
  · exact inside c hc
  · exact hclosing

theorem compact_printable (style : Style) (v : Json) :
    Numeric v → ∀ c ∈ compact style v, 32 ≤ c.toNat := by
  have number : ∀ {c : Char}, numberChar c = true → 32 ≤ c.toNat := by
    intro c h
    have range := numberChar_range h
    omega
  refine @Json.rec
    (fun v => Numeric v → ∀ c ∈ compact style v, 32 ≤ c.toNat)
    (fun vs => NumericItems vs → ∀ c ∈ compactItems style vs, 32 ≤ c.toNat)
    (fun ms => NumericMembers ms → ∀ c ∈ compactMembers style ms, 32 ≤ c.toNat)
    (fun m => Numeric m.2 → ∀ c ∈ compact style m.2, 32 ≤ c.toNat)
    ?null ?bool ?int ?float ?str ?arr ?obj ?noItem ?items ?noMember ?members ?member v
  case null =>
    have letters : ∀ c ∈ "null".toList, 32 ≤ c.toNat := by decide
    exact fun _ => letters
  case bool =>
    intro b _
    have letters : ∀ c ∈ (if b then "true" else "false").toList, 32 ≤ c.toNat := by
      cases b <;> decide
    exact letters
  case int => exact fun n _ c hc => number (intText_number n c hc)
  case float => exact fun text numeric c hc => number (numeric.2 c hc)
  case str => exact fun s _ => quoted_printable style s
  case arr => exact fun vs ih numeric => bracketed_printable (by decide) (by decide) (ih numeric)
  case obj => exact fun ms ih numeric => bracketed_printable (by decide) (by decide) (ih numeric)
  case noItem => exact fun _ c hc => absurd hc List.not_mem_nil
  case items =>
    exact fun v vs first more numeric => compactItems_printable (first numeric.1) (more numeric.2)
  case noMember => exact fun _ c hc => absurd hc List.not_mem_nil
  case members =>
    exact fun m ms first more numeric =>
      compactMembers_printable (first numeric.1) (more numeric.2)
  case member => exact fun _ v ih => ih

/-- Only a string begins with a quote, and nothing with a blank. -/
theorem compact_head (style : Style) {v : Json} (numeric : Numeric v) :
    (∃ s, v = .str s) ∨ ∃ c more, compact style v = c :: more ∧ c.toNat < 128 ∧ c ≠ ' ' ∧
      c ≠ '"' := by
  have number : ∀ text : Text, text ≠ [] → (∀ c ∈ text, numberChar c = true) →
      ∃ c more, text = c :: more ∧ c.toNat < 128 ∧ c ≠ ' ' ∧ c ≠ '"' := by
    intro text nonempty numbers
    cases text with
    | nil => exact absurd rfl nonempty
    | cons c more =>
      have hc := numbers c List.mem_cons_self
      refine ⟨c, more, rfl, (numberChar_range hc).2, ?_, ?_⟩
      · rintro rfl
        exact absurd hc (by decide)
      · rintro rfl
        exact absurd hc (by decide)
  cases v with
  | null => exact Or.inr ⟨'n', _, rfl, by decide, by decide, by decide⟩
  | bool b =>
    cases b with
    | false => exact Or.inr ⟨'f', _, rfl, by decide, by decide, by decide⟩
    | true => exact Or.inr ⟨'t', _, rfl, by decide, by decide, by decide⟩
  | int n =>
    have nonempty : intText n ≠ [] := by
      cases n with
      | ofNat k => exact toDigits_ne_nil k
      | negSucc k => simp [intText]
    exact Or.inr (number (intText n) nonempty (intText_number n))
  | float text =>
    have nonempty : text.toList ≠ [] := by
      intro empty
      exact numeric.1 (String.toList_eq_nil_iff.mp empty)
    exact Or.inr (number text.toList nonempty numeric.2)
  | str s => exact Or.inl ⟨s, rfl⟩
  | arr items => exact Or.inr ⟨'[', _, rfl, by decide, by decide, by decide⟩
  | obj fields => exact Or.inr ⟨'\x7b', _, rfl, by decide, by decide, by decide⟩

end CompleteDeviceManagement.Library.JsonKeys
