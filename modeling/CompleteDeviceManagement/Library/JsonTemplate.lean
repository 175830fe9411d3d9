import Mathlib.Data.List.TakeWhile
import CompleteDeviceManagement.Library.JsonText
import CompleteDeviceManagement.Library.Placeholders

/-!
# JSON texts with places in their strings

A JSON text in any layout and spelling, with places for names inside string
literals. Whatever spells the values at the places, the text is read as the
template's JSON with the values in it.
-/

set_option autoImplicit false

namespace CompleteDeviceManagement.Library.JsonTemplate
open CompleteDeviceManagement.Library.JsonText CompleteDeviceManagement.Library.Placeholders

variable {ν : Type}

/-- Space between tokens. -/
structure Gap where
  text : Text
  space : Space text

/-- A part of a string: what is spelled there, or a place. -/
inductive Inside (ν : Type) where
  | letters (meaning : List Char) (spelling : Text) (spells : Spells meaning spelling)
  | hole (n : ν)

abbrev Literal (ν : Type) := List (Inside ν)

mutual

/-- Atoms are null, the booleans and numbers, or any other text without places. -/
inductive Node (ν : Type) where
  | atom (value : Json) (text : Text) (reads : Reads value text)
  | string (literal : Literal ν)
  | emptyArray (gap : Gap)
  | array (gap : Gap) (items : Items ν)
  | emptyObject (gap : Gap)
  | object (gap : Gap) (members : Members ν)

inductive Items (ν : Type) where
  | last (node : Node ν) (gap : Gap)
  | more (node : Node ν) (gap gap' : Gap) (rest : Items ν)

inductive Members (ν : Type) where
  | last (key : Literal ν) (gap gap' : Gap) (node : Node ν) (behind : Gap)
  | more (key : Literal ν) (gap gap' : Gap) (node : Node ν) (behind behind' : Gap)
      (rest : Members ν)

end

/-! ## The text -/

def lits (letters : Text) : List (Piece ν) := letters.map .lit

def Inside.pieces : Inside ν → List (Piece ν)
  | .letters _ spelling _ => lits spelling
  | .hole n => [.hole n]

def literalPieces (literal : Literal ν) : List (Piece ν) := literal.flatMap Inside.pieces

def quotedPieces (literal : Literal ν) : List (Piece ν) :=
  .lit '"' :: literalPieces literal ++ [.lit '"']

mutual

def Node.pieces : Node ν → List (Piece ν)
  | .atom _ text _ => lits text
  | .string literal => quotedPieces literal
  | .emptyArray gap => .lit '[' :: lits gap.text ++ [.lit ']']
  | .array gap items => .lit '[' :: (lits gap.text ++ items.pieces) ++ [.lit ']']
  | .emptyObject gap => .lit '\x7b' :: lits gap.text ++ [.lit '\x7d']
  | .object gap members => .lit '\x7b' :: (lits gap.text ++ members.pieces) ++ [.lit '\x7d']

def Items.pieces : Items ν → List (Piece ν)
  | .last node gap => node.pieces ++ lits gap.text
  | .more node gap gap' rest =>
      node.pieces ++ (lits gap.text ++ .lit ',' :: (lits gap'.text ++ rest.pieces))

def Members.pieces : Members ν → List (Piece ν)
  | .last key gap gap' node behind =>
      .lit '"' :: (literalPieces key ++ .lit '"' :: (lits gap.text ++ .lit ':' ::
        (lits gap'.text ++ (node.pieces ++ lits behind.text))))
  | .more key gap gap' node behind behind' rest =>
      .lit '"' :: (literalPieces key ++ .lit '"' :: (lits gap.text ++ .lit ':' ::
        (lits gap'.text ++ (node.pieces ++ (lits behind.text ++ .lit ',' ::
          (lits behind'.text ++ rest.pieces))))))

end

/-! ## The meaning -/

def Inside.meaning (values : ν → List Char) : Inside ν → List Char
  | .letters meaning _ _ => meaning
  | .hole n => values n

def literalMeaning (values : ν → List Char) (literal : Literal ν) : List Char :=
  literal.flatMap (Inside.meaning values)

mutual

def Node.value (values : ν → List Char) : Node ν → Json
  | .atom value _ _ => value
  | .string literal => .str (.ofList (literalMeaning values literal))
  | .emptyArray _ => .arr []
  | .array _ items => .arr (items.values values)
  | .emptyObject _ => .obj []
  | .object _ members => .obj (collapse (members.values values))

def Items.values (values : ν → List Char) : Items ν → List Json
  | .last node _ => [node.value values]
  | .more node _ _ rest => node.value values :: rest.values values

def Members.values (values : ν → List Char) : Members ν → List (String × Json)
  | .last key _ _ node _ => [(.ofList (literalMeaning values key), node.value values)]
  | .more key _ _ node _ _ rest =>
      (.ofList (literalMeaning values key), node.value values) :: rest.values values

end

/-! ## Reading the filled text -/

section Reading

variable {values fill : ν → Text}

theorem filled_cons (c : Char) (pieces : List (Piece ν)) :
    filled fill (.lit c :: pieces) = c :: filled fill pieces := rfl

theorem filled_letters (letters : Text) : filled fill (lits letters) = letters :=
  filled_lits fill letters

theorem spells_literal (spelled : ∀ n, Spells (values n) (fill n)) (literal : Literal ν) :
    Spells (literalMeaning values literal) (filled fill (literalPieces literal)) := by
  induction literal with
  | nil => exact .nil
  | cons inside literal ih =>
    have first : Spells (inside.meaning values) (filled fill inside.pieces) := by
      cases inside with
      | letters meaning spelling spells =>
        rw [Inside.pieces, filled_letters]
        exact spells
      | hole n =>
        have text : filled fill (Inside.hole n).pieces = fill n := List.append_nil _
        rw [text]
        exact spelled n
    rw [literalPieces, List.flatMap_cons, filled_append]
    exact first.append ih

mutual

theorem Node.reads (spelled : ∀ n, Spells (values n) (fill n)) :
    ∀ node : Node ν, Reads (node.value values) (filled fill node.pieces)
  | .atom value text reads => by
    rw [Node.pieces, filled_letters]
    exact reads
  | .string literal => by
    have inside := reads_str (spells_literal spelled literal)
    rw [Node.pieces, quotedPieces, filled_append, filled_cons]
    exact inside
  | .emptyArray gap => by
    rw [Node.pieces, filled_append, filled_cons, filled_letters]
    exact reads_emptyArr gap.space
  | .array gap items => by
    rw [Node.pieces, filled_append, filled_cons, filled_append, filled_letters]
    exact reads_arr gap.space (Items.reads spelled items)
  | .emptyObject gap => by
    rw [Node.pieces, filled_append, filled_cons, filled_letters]
    exact reads_emptyObj gap.space
  | .object gap members => by
    rw [Node.pieces, filled_append, filled_cons, filled_append, filled_letters]
    exact reads_obj gap.space (Members.reads spelled members)

theorem Items.reads (spelled : ∀ n, Spells (values n) (fill n)) :
    ∀ items : Items ν, ReadsItems (items.values values) (filled fill items.pieces)
  | .last node gap => by
    rw [Items.pieces, filled_append, filled_letters]
    exact readsItems_one (Node.reads spelled node) gap.space
  | .more node gap gap' rest => by
    rw [Items.pieces, filled_append, filled_append, filled_cons, filled_append, filled_letters,
      filled_letters]
    exact readsItems_cons (Node.reads spelled node) gap.space gap'.space (Items.reads spelled rest)

theorem Members.reads (spelled : ∀ n, Spells (values n) (fill n)) :
    ∀ members : Members ν, ReadsMembers (members.values values) (filled fill members.pieces)
  | .last key gap gap' node behind => by
    rw [Members.pieces, filled_cons, filled_append, filled_cons, filled_append, filled_cons,
      filled_append, filled_append, filled_letters, filled_letters, filled_letters]
    exact readsMembers_one (spells_literal spelled key) (Node.reads spelled node) gap.space
      gap'.space behind.space
  | .more key gap gap' node behind behind' rest => by
    rw [Members.pieces, filled_cons, filled_append, filled_cons, filled_append, filled_cons,
      filled_append, filled_append, filled_append, filled_cons, filled_append, filled_letters,
      filled_letters, filled_letters, filled_letters]
    exact readsMembers_cons (spells_literal spelled key) (Node.reads spelled node) gap.space
      gap'.space behind.space behind'.space (Members.reads spelled rest)

end

end Reading

/-! ## A text between quotes -/

theorem string_of_parse {t : Text} {v : Json} (h : parse (.ofList ('"' :: t)) = some v) :
    ∃ s rest, v = .str s ∧ stringRest t = some (s, rest) ∧ skipSpace rest = [] := by
  have space : skipSpace ('"' :: t) = '"' :: t := skipSpace_cons (by decide) t
  rw [parse, String.toList_ofList, space, value] at h
  cases hread : stringRest t with
  | none => simp [hread] at h
  | some read =>
    obtain ⟨s, rest⟩ := read
    rw [hread] at h
    by_cases behind : skipSpace rest = []
    · simp only [Option.map_some, behind, if_true, Option.some.injEq] at h
      exact ⟨s, rest, h.symm, rfl, behind⟩
    · simp [behind] at h

theorem units_of_map {t rest : Text} {u : Nat} {us : List Nat}
    (h : ((units t).map fun more => (u :: more.1, more.2)) = some (us, rest)) :
    ∃ more, us = u :: more ∧ units t = some (more, rest) := by
  obtain ⟨⟨more, rest'⟩, hunits, same⟩ := Option.map_eq_some_iff.mp h
  cases same
  exact ⟨more, rfl, hunits⟩

/-- There are no more backslashes in the units than in the text. -/
theorem count_units {t rest : Text} {us : List Nat} (h : units t = some (us, rest)) :
    us.count 92 ≤ t.count '\\' := by
  fun_induction units t generalizing us rest with
  | case1 => cases h
  | case2 =>
    cases h
    simp
  | case3 => cases h
  | case4 a b c d t u unit ih =>
    obtain ⟨more, rfl, hmore⟩ := units_of_map h
    have fewer := ih hmore
    have within : t.count '\\' ≤ ('u' :: a :: b :: c :: d :: t).count '\\' :=
      (List.suffix_append ['u', a, b, c, d] t).sublist.count_le '\\'
    have other := List.count_cons (a := (92 : Nat)) (b := u) (l := more)
    rw [List.count_cons_self]
    split at other <;> omega
  | case5 => cases h
  | case6 e t unit c escape ih =>
    obtain ⟨more, rfl, hmore⟩ := units_of_map h
    have fewer := ih hmore
    have within : t.count '\\' ≤ (e :: t).count '\\' := List.count_le_count_cons
    have other := List.count_cons (a := (92 : Nat)) (b := c.toNat) (l := more)
    rw [List.count_cons_self]
    split at other <;> omega
  | case7 => cases h
  | case8 c t quote unit escape printable ih =>
    obtain ⟨more, rfl, hmore⟩ := units_of_map h
    have fewer := ih hmore
    have other := List.count_cons (a := (92 : Nat)) (b := c.toNat) (l := more)
    have letter := List.count_cons (a := '\\') (b := c) (l := t)
    have same : (c.toNat == 92) = (c == '\\') := by
      rw [Bool.eq_iff_iff, beq_iff_eq, beq_iff_eq, ← Char.toNat_inj]
      rfl
    rw [same] at other
    split at other <;> split at letter <;> omega

theorem ofNat_backslash {u : Nat} (h : Char.ofNat u = '\\') : u = 92 := by
  by_cases valid : u.isValidChar
  · have code := congrArg Char.toNat h
    rw [Char.ofNat, dif_pos valid] at code
    exact code
  · rw [Char.ofNat, dif_neg valid] at h
    exact absurd h (by decide)

theorem count_chars {us : List Nat} {cs : List Char} (h : chars us = some cs) :
    cs.count '\\' ≤ us.count 92 := by
  fun_induction chars us generalizing cs with
  | case1 =>
    cases h
    exact Nat.le_refl _
  | case2 => cases h
  | case3 u high v us low ih =>
    obtain ⟨more, hmore, rfl⟩ := Option.map_eq_some_iff.mp h
    have fewer := ih hmore
    have within : us.count 92 ≤ (u :: v :: us).count 92 :=
      (List.suffix_append [u, v] us).sublist.count_le 92
    have letter : Char.ofNat (65536 + (u - 55296) * 1024 + (v - 56320)) ≠ '\\' := by
      intro same
      have code := ofNat_backslash same
      omega
    rw [List.count_cons_of_ne letter]
    omega
  | case4 => cases h
  | case5 => cases h
  | case6 u us high low ih =>
    obtain ⟨more, hmore, rfl⟩ := Option.map_eq_some_iff.mp h
    have fewer := ih hmore
    have letter := List.count_cons (a := '\\') (b := Char.ofNat u) (l := more)
    have unit := List.count_cons (a := (92 : Nat)) (b := u) (l := us)
    by_cases same : Char.ofNat u = '\\'
    · have code : (u == 92) = true := by rw [ofNat_backslash same]; rfl
      rw [if_pos code] at unit
      split at letter <;> omega
    · rw [List.count_cons_of_ne same]
      split at unit <;> omega

/-- A string that is read has no more backslashes than its text. -/
theorem count_of_parse {t : Text} {s : String}
    (h : parse (.ofList ('"' :: t)) = some (.str s)) : s.toList.count '\\' ≤ t.count '\\' := by
  obtain ⟨s', rest, same, hread, -⟩ := string_of_parse h
  cases same
  unfold stringRest at hread
  split at hread
  · cases hread
  next us rest' hunits =>
    obtain ⟨cs, hchars, heq⟩ := Option.map_eq_some_iff.mp hread
    cases heq
    rw [String.toList_ofList]
    exact Nat.le_trans (count_chars hchars) (count_units hunits)

theorem units_without {t rest : Text} {us : List Nat} (plain : '\\' ∉ t)
    (h : units t = some (us, rest)) : ∃ front, t = front ++ '"' :: rest ∧
      us = front.map Char.toNat ∧ ∀ c ∈ front, 32 ≤ c.toNat ∧ c ≠ '"' := by
  fun_induction units t generalizing us rest with
  | case1 => cases h
  | case2 t =>
    cases h
    exact ⟨[], rfl, rfl, fun c hc => absurd hc List.not_mem_nil⟩
  | case3 => cases h
  | case4 => exact absurd List.mem_cons_self plain
  | case5 => cases h
  | case6 => exact absurd List.mem_cons_self plain
  | case7 => cases h
  | case8 c t quote unit escape printable ih =>
    obtain ⟨more, rfl, hmore⟩ := units_of_map h
    obtain ⟨front, split, hmap, letters⟩ := ih (mt (List.mem_cons_of_mem c) plain) hmore
    refine ⟨c :: front, by rw [split]; rfl, by rw [hmap]; rfl, ?_⟩
    intro d hd
    rcases List.mem_cons.mp hd with rfl | hd
    · exact ⟨by omega, quote⟩
    · exact letters d hd

theorem chars_toNat (cs : List Char) : chars (cs.map Char.toNat) = some cs := by
  induction cs with
  | nil => rfl
  | cons c cs ih => rw [List.map_cons, chars_plain, ih, Option.map_some]

/-- Between two quotes, a text without backslashes is read as it stands. -/
theorem eq_of_parse {t : Text} {s : String} (plain : '\\' ∉ t)
    (h : parse (.ofList ('"' :: (t ++ ['"']))) = some (.str s)) :
    s.toList = t ∧ ∀ c ∈ t, 32 ≤ c.toNat ∧ c ≠ '"' := by
  obtain ⟨s', rest, same, hread, space⟩ := string_of_parse h
  cases same
  unfold stringRest at hread
  split at hread
  · cases hread
  next us rest' hunits =>
    obtain ⟨cs, hchars, heq⟩ := Option.map_eq_some_iff.mp hread
    cases heq
    have without : '\\' ∉ t ++ ['"'] := by simpa using plain
    obtain ⟨front, split, hmap, letters⟩ := units_without without hunits
    rw [hmap, chars_toNat] at hchars
    cases hchars
    rw [String.toList_ofList]
    rcases List.eq_nil_or_concat rest with rfl | ⟨init, c, rfl⟩
    · have text := List.append_cancel_right split
      rw [text]
      exact ⟨rfl, letters⟩
    · have last : c = '"' := by
        have ends := congrArg List.getLast? split
        rw [List.concat_eq_append, ← List.cons_append, ← List.append_assoc, List.getLast?_concat,
          List.getLast?_concat] at ends
        exact (Option.some.inj ends).symm
      have blank := List.dropWhile_eq_nil_iff.mp space c (by simp)
      rw [last] at blank
      exact absurd blank (by decide)

end CompleteDeviceManagement.Library.JsonTemplate
