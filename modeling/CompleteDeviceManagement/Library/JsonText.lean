import CompleteDeviceManagement.Library.Dict
import CompleteDeviceManagement.Library.IpText
import CompleteDeviceManagement.Library.PyValue
import CompleteDeviceManagement.Library.Utf8

/-!
# JSON text

A reader for the JSON grammar and the writers `json.dumps` and `jq` have. A
number with a fraction or an exponent is kept as it is written. An escaped
surrogate that is not half of a pair is refused, where Python and JavaScript
have a character for it and Lean has none. Of two members with one name the
last counts, at the place of the first.
-/

set_option autoImplicit false

namespace CompleteDeviceManagement.Library.JsonText
open CompleteDeviceManagement.Library.IpText

abbrev Text := List Char

/-! ## The inside of a string -/

/-- The character that an escape `\e` stands for. -/
def unescape : Char → Option Char
  | '"' => some '"'
  | '\\' => some '\\'
  | '/' => some '/'
  | 'b' => some (Char.ofNat 8)
  | 'f' => some (Char.ofNat 12)
  | 'n' => some '\n'
  | 'r' => some '\r'
  | 't' => some '\t'
  | _ => none

/-- The code units of a string up to its closing quote, and what follows it. A
character that stands for itself is one unit. -/
def units : Text → Option (List Nat × Text)
  | [] => none
  | '"' :: rest => some ([], rest)
  | '\\' :: 'u' :: a :: b :: c :: d :: rest =>
      match digitsValue 16 [a, b, c, d] with
      | none => none
      | some u => (units rest).map fun more => (u :: more.1, more.2)
  | '\\' :: e :: rest =>
      match unescape e with
      | none => none
      | some c => (units rest).map fun more => (c.toNat :: more.1, more.2)
  | c :: rest =>
      if c.toNat < 32 then none
      else (units rest).map fun more => (c.toNat :: more.1, more.2)

def isHigh (u : Nat) : Bool := 0xD800 ≤ u && u ≤ 0xDBFF

def isLow (u : Nat) : Bool := 0xDC00 ≤ u && u ≤ 0xDFFF

/-- The characters that a sequence of code units stands for. -/
def chars : List Nat → Option (List Char)
  | [] => some []
  | u :: rest =>
      if isHigh u then
        match rest with
        | [] => none
        | v :: more =>
            if isLow v then
              (chars more).map fun cs =>
                Char.ofNat (0x10000 + (u - 0xD800) * 0x400 + (v - 0xDC00)) :: cs
            else none
      else if isLow u then none
      else (chars rest).map fun cs => Char.ofNat u :: cs

/-- A string whose opening quote has been read. -/
def stringRest (s : Text) : Option (String × Text) :=
  match units s with
  | none => none
  | some (us, rest) => (chars us).map fun cs => (.ofList cs, rest)

example : stringRest "a\\n\\u00e9\\ud83d\\ude00\" ,".toList = some ("a\né😀", " ,".toList) := by
  decide +kernel

/-- The text spells these characters inside a string. -/
inductive Spells : List Char → Text → Prop
  | nil : Spells [] []
  | plain {c : Char} {cs : List Char} {t : Text} (printable : 32 ≤ c.toNat) (quote : c ≠ '"')
      (backslash : c ≠ '\\') (more : Spells cs t) : Spells (c :: cs) (c :: t)
  | short {e c : Char} {cs : List Char} {t : Text} (escape : unescape e = some c)
      (more : Spells cs t) : Spells (c :: cs) ('\\' :: e :: t)
  | unit {a b d e c : Char} {cs : List Char} {t : Text}
      (unit : digitsValue 16 [a, b, d, e] = some c.toNat) (more : Spells cs t) :
      Spells (c :: cs) ('\\' :: 'u' :: a :: b :: d :: e :: t)
  | pair {a b d e a' b' d' e' c : Char} {cs : List Char} {t : Text} {u v : Nat}
      (high : digitsValue 16 [a, b, d, e] = some u) (isHigh : isHigh u = true)
      (low : digitsValue 16 [a', b', d', e'] = some v) (isLow : isLow v = true)
      (both : 0x10000 + (u - 0xD800) * 0x400 + (v - 0xDC00) = c.toNat) (more : Spells cs t) :
      Spells (c :: cs)
        ('\\' :: 'u' :: a :: b :: d :: e :: '\\' :: 'u' :: a' :: b' :: d' :: e' :: t)

theorem Spells.append {cs cs' : List Char} {t t' : Text} (h : Spells cs t) (h' : Spells cs' t') :
    Spells (cs ++ cs') (t ++ t') := by
  induction h with
  | nil => exact h'
  | plain printable quote backslash _ ih => exact .plain printable quote backslash ih
  | short escape _ ih => exact .short escape ih
  | unit unit _ ih => exact .unit unit ih
  | pair high isHigh low isLow both _ ih => exact .pair high isHigh low isLow both ih

theorem spells_plain {cs : List Char} (h : ∀ c ∈ cs, 32 ≤ c.toNat ∧ c ≠ '"' ∧ c ≠ '\\') :
    Spells cs cs := by
  induction cs with
  | nil => exact .nil
  | cons c cs ih =>
    obtain ⟨printable, quote, backslash⟩ := h c List.mem_cons_self
    exact .plain printable quote backslash (ih fun d hd => h d (List.mem_cons_of_mem _ hd))

/-- No character is a surrogate. -/
theorem not_surrogate (c : Char) : isHigh c.toNat = false ∧ isLow c.toNat = false := by
  have hvalid := c.valid
  have hnat : c.toNat = c.val.toNat := rfl
  rw [UInt32.isValidChar, Nat.isValidChar, ← hnat] at hvalid
  unfold isHigh isLow
  simp only [Bool.and_eq_false_iff, decide_eq_false_iff_not]
  omega

theorem chars_plain (c : Char) (us : List Nat) :
    chars (c.toNat :: us) = (chars us).map fun cs => c :: cs := by
  obtain ⟨high, low⟩ := not_surrogate c
  rw [chars.eq_def]
  simp [high, low, Char.ofNat_toNat]

theorem units_plain {c : Char} (printable : 32 ≤ c.toNat) (quote : c ≠ '"')
    (backslash : c ≠ '\\') (rest : Text) :
    units (c :: rest) = (units rest).map fun more => (c.toNat :: more.1, more.2) := by
  have small : ¬ c.toNat < 32 := by omega
  rw [units]
  · simp [small]
  · exact quote
  · intros
    simp_all
  · intros
    simp_all

theorem units_short {e c : Char} (escape : unescape e = some c) (rest : Text) :
    units ('\\' :: e :: rest) = (units rest).map fun more => (c.toNat :: more.1, more.2) := by
  have hu : e ≠ 'u' := by
    rintro rfl
    cases escape
  rw [units]
  · rw [escape]
  · intros
    simp_all

theorem units_unit {a b d e : Char} {u : Nat} (unit : digitsValue 16 [a, b, d, e] = some u)
    (rest : Text) :
    units ('\\' :: 'u' :: a :: b :: d :: e :: rest) =
      (units rest).map fun more => (u :: more.1, more.2) := by
  rw [units, unit]

/-- What a text spells is what the reader makes of it. -/
theorem stringRest_spells {cs : List Char} {t : Text} (h : Spells cs t) (rest : Text) :
    stringRest (t ++ '"' :: rest) = some (.ofList cs, rest) := by
  have read : ∃ us, units (t ++ '"' :: rest) = some (us, rest) ∧ chars us = some cs := by
    induction h with
    | nil => exact ⟨[], rfl, rfl⟩
    | plain printable quote backslash _ ih =>
      obtain ⟨us, hunits, hchars⟩ := ih
      refine ⟨_, by rw [List.cons_append, units_plain printable quote backslash, hunits]; rfl, ?_⟩
      rw [chars_plain, hchars]
      rfl
    | short escape _ ih =>
      obtain ⟨us, hunits, hchars⟩ := ih
      refine ⟨_, by rw [List.cons_append, List.cons_append, units_short escape, hunits]; rfl, ?_⟩
      rw [chars_plain, hchars]
      rfl
    | unit unit _ ih =>
      obtain ⟨us, hunits, hchars⟩ := ih
      refine ⟨_, by simp only [List.cons_append]; rw [units_unit unit, hunits]; rfl, ?_⟩
      rw [chars_plain, hchars]
      rfl
    | @pair a b d e a' b' d' e' c cs t u v high hhigh low hlow both _ ih =>
      obtain ⟨us, hunits, hchars⟩ := ih
      refine ⟨u :: v :: us, ?_, ?_⟩
      · simp only [List.cons_append]
        rw [units_unit high, units_unit low, hunits]
        rfl
      · rw [chars, if_pos hhigh]
        simp only [hlow, if_true, hchars, both, Char.ofNat_toNat]
        rfl
  obtain ⟨us, hunits, hchars⟩ := read
  unfold stringRest
  rw [hunits]
  simp [hchars]

/-! ## Writing a string -/

/-- The letter of the short escape of a character. -/
def shortEscape (c : Char) : Option Char :=
  if c = '"' then some '"'
  else if c = '\\' then some '\\'
  else if c = '\n' then some 'n'
  else if c = '\r' then some 'r'
  else if c = '\t' then some 't'
  else if c.toNat = 8 then some 'b'
  else if c.toNat = 12 then some 'f'
  else none

theorem unescape_shortEscape {c e : Char} (h : shortEscape c = some e) : unescape e = some c := by
  unfold shortEscape at h
  split_ifs at h with h1 h2 h3 h4 h5 h8 h12
  · cases h
    rw [h1]
    rfl
  · cases h
    rw [h2]
    rfl
  · cases h
    rw [h3]
    rfl
  · cases h
    rw [h4]
    rfl
  · cases h
    rw [h5]
    rfl
  · cases h
    rw [← Char.ofNat_toNat c, h8]
    rfl
  · cases h
    rw [← Char.ofNat_toNat c, h12]
    rfl

theorem ne_of_shortEscape {c : Char} (h : shortEscape c = none) : c ≠ '"' ∧ c ≠ '\\' := by
  constructor
  · rintro rfl
    exact absurd h (by decide)
  · rintro rfl
    exact absurd h (by decide)

def hex4 (u : Nat) : Text :=
  [(u / 4096 % 16).digitChar, (u / 256 % 16).digitChar, (u / 16 % 16).digitChar,
    (u % 16).digitChar]

theorem digitsValue_hex4 {u : Nat} (h : u < 65536) : digitsValue 16 (hex4 u) = some u := by
  have digit : ∀ n : Nat, digitValue 16 (n % 16).digitChar = some (n % 16) := fun n =>
    digitValue_digitChar (by omega) (Nat.mod_lt n (by omega))
  simp only [digitsValue, hex4, List.foldlM_cons, List.foldlM_nil, digit, Option.map_some,
    Option.bind_eq_bind, Option.bind_some, Option.pure_def, Option.some.injEq]
  omega

/-- Which characters a writer leaves as they are. -/
structure Style where
  plain : Char → Bool
  printable : ∀ c, plain c = true → 32 ≤ c.toNat

/-- `json.dumps` -/
def Style.ascii : Style where
  plain := fun c => 32 ≤ c.toNat && c.toNat ≤ 126
  printable := fun c h => by
    simp only [Bool.and_eq_true, decide_eq_true_eq] at h
    exact h.1

/-- `json.dumps(…, ensure_ascii=False)` -/
def Style.unicode : Style where
  plain := fun c => 32 ≤ c.toNat
  printable := fun c h => by simpa using h

/-- `jq` -/
def Style.jq : Style where
  plain := fun c => 32 ≤ c.toNat && c.toNat != 127
  printable := fun c h => by
    simp only [Bool.and_eq_true, decide_eq_true_eq] at h
    exact h.1

namespace Style

variable (style : Style)

def spell (c : Char) : Text :=
  match shortEscape c with
  | some e => ['\\', e]
  | none =>
      if style.plain c then [c]
      else if c.toNat < 0x10000 then '\\' :: 'u' :: hex4 c.toNat
      else '\\' :: 'u' :: hex4 (0xD800 + (c.toNat - 0x10000) / 0x400) ++
        '\\' :: 'u' :: hex4 (0xDC00 + (c.toNat - 0x10000) % 0x400)

def quoted (s : String) : Text := '"' :: s.toList.flatMap style.spell ++ ['"']

theorem toNat_lt (c : Char) : c.toNat < 0x110000 := by
  have hvalid := c.valid
  have hnat : c.toNat = c.val.toNat := rfl
  rw [UInt32.isValidChar, Nat.isValidChar, ← hnat] at hvalid
  omega

theorem spells_spell (c : Char) : Spells [c] (style.spell c) := by
  unfold spell
  split
  next e escape => exact .short (unescape_shortEscape escape) .nil
  next none =>
    obtain ⟨quote, backslash⟩ := ne_of_shortEscape none
    split
    next plain => exact .plain (style.printable c plain) quote backslash .nil
    · split
      next small => exact .unit (digitsValue_hex4 small) .nil
      next large =>
        have hlt := toNat_lt c
        refine .pair (digitsValue_hex4 (by omega)) ?_ (digitsValue_hex4 (by omega)) ?_ ?_ .nil
        · simp only [isHigh, Bool.and_eq_true, decide_eq_true_eq]
          omega
        · simp only [isLow, Bool.and_eq_true, decide_eq_true_eq]
          omega
        · omega

theorem spells_flatMap (cs : List Char) : Spells cs (cs.flatMap style.spell) := by
  induction cs with
  | nil => exact .nil
  | cons c cs ih => exact (spells_spell style c).append ih

end Style

/-! ## Reading a value -/

def isSpace (c : Char) : Bool := c == ' ' || c == '\n' || c == '\r' || c == '\t'

def skipSpace (s : Text) : Text := s.dropWhile isSpace

/-- The digits of a fraction or an exponent, at least one of them. -/
def digitRun (s : Text) : Option (Text × Text) :=
  match s.span Ascii.isDigit with
  | ([], _) => none
  | run => some run

/-- The fraction and the exponent of a number as they are written. -/
def fraction (s : Text) : Option (Text × Text) :=
  match s with
  | '.' :: rest => (digitRun rest).map fun run => ('.' :: run.1, run.2)
  | _ => some ([], s)

def exponent (s : Text) : Option (Text × Text) :=
  match s with
  | e :: sign :: rest =>
      if e = 'e' ∨ e = 'E' then
        if sign = '+' ∨ sign = '-' then
          (digitRun rest).map fun run => (e :: sign :: run.1, run.2)
        else (digitRun (sign :: rest)).map fun run => (e :: run.1, run.2)
      else some ([], s)
  | [e] => if e = 'e' ∨ e = 'E' then none else some ([], s)
  | [] => some ([], s)

/-- No zero in front of other digits. -/
def wholePart (s : Text) : Option (Text × Text) :=
  match digitRun s with
  | some (digits, rest) =>
      if digits.head? = some '0' ∧ 1 < digits.length then none else some (digits, rest)
  | none => none

/-- A number after its sign. -/
def unsigned (sign s : Text) : Option (Json × Text) := do
  let (digits, s) ← wholePart s
  let (frac, s) ← fraction s
  let (exp, s) ← exponent s
  if frac = [] ∧ exp = [] then do
    let n ← digitsValue 10 digits
    some (.int (if sign = [] then (n : Int) else -n), s)
  else some (.float (.ofList (sign ++ digits ++ frac ++ exp)), s)

def number (s : Text) : Option (Json × Text) :=
  match s with
  | '-' :: rest => unsigned ['-'] rest
  | _ => unsigned [] s

/-- The members of an object, the last of one name at the place of the first. -/
def collapse (members : List (String × Json)) : List (String × Json) :=
  (members.foldl (fun (d : Dict String Json) member => d.set member.1 member.2) .empty).items

mutual

/-- A value at the start of the text, and what follows it. -/
def value : Nat → Text → Option (Json × Text)
  | 0, _ => none
  | n + 1, s =>
      match s with
      | '"' :: rest => (stringRest rest).map fun read => (.str read.1, read.2)
      | '[' :: rest =>
          match skipSpace rest with
          | ']' :: rest => some (.arr [], rest)
          | rest => (items n rest).map fun read => (.arr read.1, read.2)
      | '\x7b' :: rest =>
          match skipSpace rest with
          | '\x7d' :: rest => some (.obj [], rest)
          | rest => (members n rest).map fun read => (.obj (collapse read.1), read.2)
      | 'n' :: 'u' :: 'l' :: 'l' :: rest => some (.null, rest)
      | 't' :: 'r' :: 'u' :: 'e' :: rest => some (.bool true, rest)
      | 'f' :: 'a' :: 'l' :: 's' :: 'e' :: rest => some (.bool false, rest)
      | _ => number s

/-- The rest of an array that has an item next. -/
def items : Nat → Text → Option (List Json × Text)
  | 0, _ => none
  | n + 1, s =>
      match value n s with
      | none => none
      | some (v, rest) =>
          match skipSpace rest with
          | ',' :: rest => (items n (skipSpace rest)).map fun read => (v :: read.1, read.2)
          | ']' :: rest => some ([v], rest)
          | _ => none

/-- The rest of an object that has a member next. -/
def members : Nat → Text → Option (List (String × Json) × Text)
  | 0, _ => none
  | n + 1, s =>
      match s with
      | '"' :: rest =>
          match stringRest rest with
          | none => none
          | some (key, rest) =>
              match skipSpace rest with
              | ':' :: rest =>
                  match value n (skipSpace rest) with
                  | none => none
                  | some (v, rest) =>
                      match skipSpace rest with
                      | ',' :: rest =>
                          (members n (skipSpace rest)).map fun read =>
                            ((key, v) :: read.1, read.2)
                      | '\x7d' :: rest => some ([(key, v)], rest)
                      | _ => none
              | _ => none
      | _ => none

end

/-- `json.loads`, `JSON.parse`: one value with nothing but space around it. -/
def parse (text : String) : Option Json :=
  match value (2 * text.toList.length + 1) (skipSpace text.toList) with
  | some (v, rest) => if skipSpace rest = [] then some v else none
  | none => none

/-! ## What is read -/

def Space (w : Text) : Prop := ∀ c ∈ w, isSpace c = true

/-- What follows a value cannot be more of a number. -/
def Boundary (rest : Text) : Prop :=
  ∀ c, rest.head? = some c → Ascii.isDigit c = false ∧ c ≠ '.' ∧ c ≠ 'e' ∧ c ≠ 'E'

/-- The text begins with something else than space and the end of a list. -/
def Starts (t : Text) : Prop :=
  ∃ c rest, t = c :: rest ∧ isSpace c = false ∧ c ≠ ']' ∧ c ≠ '\x7d'

/-- The reader takes `t` for `v`, whatever comes after it. -/
structure Reads (v : Json) (t : Text) : Prop where
  starts : Starts t
  read : ∀ n rest, 2 * t.length < n → Boundary rest → value n (t ++ rest) = some (v, rest)

structure ReadsItems (vs : List Json) (t : Text) : Prop where
  starts : Starts t
  read : ∀ n rest, 2 * t.length + 1 < n → items n (t ++ ']' :: rest) = some (vs, rest)

structure ReadsMembers (ms : List (String × Json)) (t : Text) : Prop where
  starts : Starts t
  read : ∀ n rest, 2 * t.length + 1 < n → members n (t ++ '\x7d' :: rest) = some (ms, rest)

theorem boundary_nil : Boundary [] := by
  intro c h
  cases h

theorem boundary_of_space {c : Char} (h : isSpace c = true) (rest : Text) :
    Boundary (c :: rest) := by
  intro c' hc
  cases hc
  simp only [isSpace, Bool.or_eq_true, beq_iff_eq] at h
  rcases h with ((rfl | rfl) | rfl) | rfl <;> decide

theorem Space.boundary {w : Text} (h : Space w) {rest : Text} (hrest : Boundary rest) :
    Boundary (w ++ rest) := by
  cases w with
  | nil => exact hrest
  | cons c w => exact boundary_of_space (h c List.mem_cons_self) _

theorem skipSpace_space {w : Text} (h : Space w) (rest : Text) :
    skipSpace (w ++ rest) = skipSpace rest :=
  List.dropWhile_append_of_pos h

theorem skipSpace_cons {c : Char} (h : isSpace c = false) (rest : Text) :
    skipSpace (c :: rest) = c :: rest := by
  simp [skipSpace, h]

theorem skipSpace_all {w : Text} (h : Space w) : skipSpace w = [] := by
  have := skipSpace_space h []
  simpa [skipSpace] using this

theorem Starts.skipSpace {t : Text} (h : Starts t) {w : Text} (hw : Space w) (rest : Text) :
    skipSpace (w ++ (t ++ rest)) = t ++ rest := by
  obtain ⟨c, t', rfl, hc, -, -⟩ := h
  rw [skipSpace_space hw, List.cons_append, skipSpace_cons hc]

theorem Starts.append {t : Text} (h : Starts t) (t' : Text) : Starts (t ++ t') := by
  obtain ⟨c, rest, rfl, hc⟩ := h
  exact ⟨c, rest ++ t', rfl, hc⟩

theorem boundary_close {c : Char} (h : c = ',' ∨ c = ']' ∨ c = '\x7d') (rest : Text) :
    Boundary (c :: rest) := by
  intro c' hc
  cases hc
  rcases h with rfl | rfl | rfl <;> decide

theorem reads_null : Reads .null "null".toList where
  starts := ⟨'n', _, rfl, by decide, by decide, by decide⟩
  read := by
    intro n rest hn _
    cases n with
    | zero => omega
    | succ n => rfl

theorem reads_bool (b : Bool) : Reads (.bool b) (if b then "true" else "false").toList where
  starts := by
    cases b with
    | true => exact ⟨'t', _, rfl, by decide, by decide, by decide⟩
    | false => exact ⟨'f', _, rfl, by decide, by decide, by decide⟩
  read := by
    intro n rest hn _
    cases n with
    | zero => omega
    | succ n => cases b <;> rfl

theorem reads_str {cs : List Char} {t : Text} (h : Spells cs t) :
    Reads (.str (.ofList cs)) ('"' :: t ++ ['"']) where
  starts := ⟨'"', _, rfl, by decide, by decide, by decide⟩
  read := by
    intro n rest hn _
    cases n with
    | zero => omega
    | succ n =>
      have hread := stringRest_spells h rest
      simp only [List.cons_append, List.append_assoc, List.nil_append, value]
      rw [hread]
      rfl

/-! ### Arrays -/

theorem readsItems_one {v : Json} {t w : Text} (h : Reads v t) (hw : Space w) :
    ReadsItems [v] (t ++ w) where
  starts := h.starts.append w
  read := by
    intro n rest hn
    rw [List.length_append] at hn
    cases n with
    | zero => omega
    | succ n =>
      have hvalue := h.read n (w ++ ']' :: rest) (by omega)
        (hw.boundary (boundary_close (Or.inr (Or.inl rfl)) rest))
      rw [items, List.append_assoc, hvalue]
      simp only [skipSpace_space hw]
      rfl

theorem readsItems_cons {v : Json} {vs : List Json} {t t' w w' : Text} (h : Reads v t)
    (hw : Space w) (hw' : Space w') (more : ReadsItems vs t') :
    ReadsItems (v :: vs) (t ++ (w ++ ',' :: (w' ++ t'))) where
  starts := h.starts.append _
  read := by
    intro n rest hn
    simp only [List.length_append, List.length_cons] at hn
    cases n with
    | zero => omega
    | succ n =>
      have hvalue := h.read n (w ++ ',' :: (w' ++ (t' ++ ']' :: rest))) (by omega)
        (hw.boundary (boundary_close (Or.inl rfl) _))
      have hmore := more.read n rest (by omega)
      have hshape : t ++ (w ++ ',' :: (w' ++ t')) ++ ']' :: rest =
          t ++ (w ++ ',' :: (w' ++ (t' ++ ']' :: rest))) := by simp
      rw [items, hshape, hvalue]
      simp only [skipSpace_space hw, skipSpace_cons (c := ',') (by decide),
        more.starts.skipSpace hw', hmore, Option.map_some]

theorem reads_emptyArr {w : Text} (hw : Space w) : Reads (.arr []) ('[' :: w ++ [']']) where
  starts := ⟨'[', _, rfl, by decide, by decide, by decide⟩
  read := by
    intro n rest hn _
    cases n with
    | zero => omega
    | succ n =>
      simp only [List.cons_append, List.append_assoc, List.nil_append, value, skipSpace_space hw]
      rfl

theorem reads_arr {vs : List Json} {t w : Text} (hw : Space w) (h : ReadsItems vs t) :
    Reads (.arr vs) ('[' :: (w ++ t) ++ [']']) where
  starts := ⟨'[', _, rfl, by decide, by decide, by decide⟩
  read := by
    intro n rest hn _
    simp only [List.length_append, List.length_cons, List.length_nil] at hn
    cases n with
    | zero => omega
    | succ n =>
      have hitems := h.read n rest (by omega)
      have hskip := h.starts.skipSpace hw (']' :: rest)
      obtain ⟨c, t', rfl, -, hclose, -⟩ := h.starts
      simp only [List.cons_append, List.append_assoc, List.nil_append] at hskip hitems ⊢
      rw [value, hskip]
      split
      next heq => exact absurd (List.cons.inj heq).1 hclose
      · rw [hitems]
        rfl

/-! ### Objects -/

theorem readsMembers_one {key : List Char} {v : Json} {k t w w' w'' : Text} (hk : Spells key k)
    (h : Reads v t) (hw : Space w) (hw' : Space w') (hw'' : Space w'') :
    ReadsMembers [(.ofList key, v)] ('"' :: (k ++ '"' :: (w ++ ':' :: (w' ++ (t ++ w''))))) where
  starts := ⟨'"', _, rfl, by decide, by decide, by decide⟩
  read := by
    intro n rest hn
    simp only [List.length_append, List.length_cons] at hn
    cases n with
    | zero => omega
    | succ n =>
      have hvalue := h.read n (w'' ++ '\x7d' :: rest) (by omega)
        (hw''.boundary (boundary_close (Or.inr (Or.inr rfl)) rest))
      simp only [List.cons_append, List.append_assoc, members, stringRest_spells hk,
        skipSpace_space hw, skipSpace_cons (c := ':') (by decide), h.starts.skipSpace hw', hvalue,
        skipSpace_space hw'', skipSpace_cons (c := '\x7d') (by decide)]

theorem readsMembers_cons {key : List Char} {v : Json} {ms : List (String × Json)}
    {k t t' w w' w'' w₃ : Text} (hk : Spells key k) (h : Reads v t) (hw : Space w)
    (hw' : Space w') (hw'' : Space w'') (hw₃ : Space w₃) (more : ReadsMembers ms t') :
    ReadsMembers ((.ofList key, v) :: ms)
      ('"' :: (k ++ '"' :: (w ++ ':' :: (w' ++ (t ++ (w'' ++ ',' :: (w₃ ++ t'))))))) where
  starts := ⟨'"', _, rfl, by decide, by decide, by decide⟩
  read := by
    intro n rest hn
    simp only [List.length_append, List.length_cons] at hn
    cases n with
    | zero => omega
    | succ n =>
      have hvalue := h.read n (w'' ++ ',' :: (w₃ ++ (t' ++ '\x7d' :: rest))) (by omega)
        (hw''.boundary (boundary_close (Or.inl rfl) _))
      have hmore := more.read n rest (by omega)
      simp only [List.cons_append, List.append_assoc, members, stringRest_spells hk,
        skipSpace_space hw, skipSpace_cons (c := ':') (by decide), h.starts.skipSpace hw', hvalue,
        skipSpace_space hw'', skipSpace_cons (c := ',') (by decide),
        more.starts.skipSpace hw₃, hmore, Option.map_some]

theorem reads_emptyObj {w : Text} (hw : Space w) :
    Reads (.obj []) ('\x7b' :: w ++ ['\x7d']) where
  starts := ⟨'\x7b', _, rfl, by decide, by decide, by decide⟩
  read := by
    intro n rest hn _
    cases n with
    | zero => omega
    | succ n =>
      simp only [List.cons_append, List.append_assoc, List.nil_append, value, skipSpace_space hw]
      rfl

theorem reads_obj {ms : List (String × Json)} {t w : Text} (hw : Space w)
    (h : ReadsMembers ms t) : Reads (.obj (collapse ms)) ('\x7b' :: (w ++ t) ++ ['\x7d']) where
  starts := ⟨'\x7b', _, rfl, by decide, by decide, by decide⟩
  read := by
    intro n rest hn _
    simp only [List.length_append, List.length_cons, List.length_nil] at hn
    cases n with
    | zero => omega
    | succ n =>
      have hmembers := h.read n rest (by omega)
      have hskip := h.starts.skipSpace hw ('\x7d' :: rest)
      obtain ⟨c, t', rfl, -, -, hclose⟩ := h.starts
      simp only [List.cons_append, List.append_assoc, List.nil_append] at hskip hmembers ⊢
      rw [value, hskip]
      split
      next heq => exact absurd (List.cons.inj heq).1 hclose
      · rw [hmembers]
        rfl

/-- A text of one value is read as that value. -/
theorem parse_of_reads {v : Json} {t w w' : Text} (h : Reads v t) (hw : Space w)
    (hw' : Space w') : parse (.ofList (w ++ (t ++ w'))) = some v := by
  have hvalue := h.read (2 * (w ++ (t ++ w')).length + 1) w'
    (by simp only [List.length_append]; omega) (by
      have := hw'.boundary boundary_nil
      rwa [List.append_nil] at this)
  unfold parse
  rw [String.toList_ofList, h.starts.skipSpace hw, hvalue]
  simp only [skipSpace_all hw', if_true]

/-- Distinct names are kept as they come. -/
theorem collapse_nodup {ms : List (String × Json)} (h : (ms.map Prod.fst).Nodup) :
    collapse ms = ms := by
  have kept := Dict.foldl_set_items ms .empty (by simpa [Dict.keys, Dict.empty] using h)
  simpa [collapse, Dict.empty] using kept

/-! ### Numbers -/

theorem isDigit_toDigits (n : Nat) : ∀ c ∈ Nat.toDigits 10 n, Ascii.isDigit c = true := by
  induction n using Nat.strong_induction_on with
  | _ n ih =>
    have digit : ∀ d < 10, Ascii.isDigit d.digitChar = true := by decide
    by_cases hn : n < 10
    · rw [Nat.toDigits_of_lt_base hn]
      simp [digit n hn]
    · rw [Nat.toDigits_of_base_le (by omega) (by omega)]
      intro c hc
      rcases List.mem_append.mp hc with hc | hc
      · exact ih (n / 10) (by omega) c hc
      · rw [List.mem_singleton] at hc
        rw [hc]
        exact digit _ (by omega)

theorem toDigits_ne_nil (n : Nat) : Nat.toDigits 10 n ≠ [] := by
  by_cases hn : n < 10
  · rw [Nat.toDigits_of_lt_base hn]
    exact List.cons_ne_nil _ _
  · rw [Nat.toDigits_of_base_le (by omega) (by omega)]
    simp

/-- Only zero itself begins with a zero. -/
theorem head_toDigits {n : Nat} (h : 0 < n) : (Nat.toDigits 10 n).head? ≠ some '0' := by
  induction n using Nat.strong_induction_on with
  | _ n ih =>
    by_cases hn : n < 10
    · rw [Nat.toDigits_of_lt_base hn]
      have digit : ∀ d < 10, 0 < d → d.digitChar ≠ '0' := by decide
      simpa using digit n hn h
    · rw [Nat.toDigits_of_base_le (by omega) (by omega)]
      have hprefix := ih (n / 10) (by omega) (by omega)
      obtain ⟨c, cs, hcs⟩ := List.exists_cons_of_ne_nil (toDigits_ne_nil (n / 10))
      rw [hcs] at hprefix ⊢
      exact hprefix

theorem digitRun_digits {ds rest : Text} (digits : ∀ c ∈ ds, Ascii.isDigit c = true)
    (hne : ds ≠ []) (boundary : Boundary rest) : digitRun (ds ++ rest) = some (ds, rest) := by
  have hspan : (ds ++ rest).span Ascii.isDigit = (ds, rest) := by
    rw [List.span_eq_takeWhile_dropWhile, List.takeWhile_append_of_pos digits,
      List.dropWhile_append_of_pos digits]
    cases rest with
    | nil => simp
    | cons c rest =>
      have hc := (boundary c rfl).1
      simp [hc]
  obtain ⟨d, ds', rfl⟩ := List.exists_cons_of_ne_nil hne
  unfold digitRun
  rw [hspan]

theorem wholePart_toDigits (n : Nat) {rest : Text} (boundary : Boundary rest) :
    wholePart (Nat.toDigits 10 n ++ rest) = some (Nat.toDigits 10 n, rest) := by
  have plain : ¬ ((Nat.toDigits 10 n).head? = some '0' ∧ 1 < (Nat.toDigits 10 n).length) := by
    rintro ⟨hhead, hlength⟩
    by_cases h : 0 < n
    · exact head_toDigits h hhead
    · have hzero : n = 0 := by omega
      subst hzero
      exact absurd hlength (by decide)
  unfold wholePart
  rw [digitRun_digits (isDigit_toDigits n) (toDigits_ne_nil n) boundary]
  simp only [if_neg plain]

theorem fraction_boundary {rest : Text} (boundary : Boundary rest) :
    fraction rest = some ([], rest) := by
  unfold fraction
  split
  next rest => exact absurd rfl (boundary '.' rfl).2.1
  · rfl

theorem exponent_boundary {rest : Text} (boundary : Boundary rest) :
    exponent rest = some ([], rest) := by
  unfold exponent
  split
  next e sign rest =>
    have h := (boundary e rfl).2.2
    rw [if_neg (by rintro (he | he); exacts [h.1 he, h.2 he])]
  next e =>
    have h := (boundary e rfl).2.2
    rw [if_neg (by rintro (he | he); exacts [h.1 he, h.2 he])]
  · rfl

theorem value_number {c : Char} (h : c = '-' ∨ Ascii.isDigit c = true) (n : Nat) (s : Text) :
    value (n + 1) (c :: s) = number (c :: s) := by
  have other : ∀ d : Char, Ascii.isDigit d = false → d ≠ '-' → c ≠ d := by
    rintro d hdigit hminus rfl
    rcases h with h | h
    · exact hminus h
    · rw [hdigit] at h
      cases h
  rw [value]
  · intro rest heq
    exact other '"' (by decide) (by decide) (List.cons.inj heq).1
  · intro rest heq
    exact other '[' (by decide) (by decide) (List.cons.inj heq).1
  · intro rest heq
    exact other '\x7b' (by decide) (by decide) (List.cons.inj heq).1
  · intro rest heq
    exact other 'n' (by decide) (by decide) (List.cons.inj heq).1
  · intro rest heq
    exact other 't' (by decide) (by decide) (List.cons.inj heq).1
  · intro rest heq
    exact other 'f' (by decide) (by decide) (List.cons.inj heq).1

def intText : Int → Text
  | .ofNat n => Nat.toDigits 10 n
  | .negSucc n => '-' :: Nat.toDigits 10 (n + 1)

theorem unsigned_toDigits (sign : Text) (n : Nat) {rest : Text} (boundary : Boundary rest) :
    unsigned sign (Nat.toDigits 10 n ++ rest) =
      some (.int (if sign = [] then (n : Int) else -n), rest) := by
  have hdigits : digitsValue 10 (Nat.toDigits 10 n) = some n :=
    digitsValue_toDigits (by omega) (by omega) n
  unfold unsigned
  simp [wholePart_toDigits n boundary, fraction_boundary boundary, exponent_boundary boundary,
    hdigits]

theorem not_space_of_digit {c : Char} (h : Ascii.isDigit c = true) : isSpace c = false := by
  cases hspace : isSpace c with
  | false => rfl
  | true =>
    simp only [isSpace, Bool.or_eq_true, beq_iff_eq] at hspace
    rcases hspace with ((rfl | rfl) | rfl) | rfl <;> exact absurd h (by decide)

theorem reads_int (n : Int) : Reads (.int n) (intText n) where
  starts := by
    cases n with
    | ofNat n =>
      obtain ⟨c, cs, hcs⟩ := List.exists_cons_of_ne_nil (toDigits_ne_nil n)
      have digit := isDigit_toDigits n c (by rw [hcs]; exact List.mem_cons_self)
      refine ⟨c, cs, hcs, not_space_of_digit digit, ?_, ?_⟩
      · rintro rfl
        exact absurd digit (by decide)
      · rintro rfl
        exact absurd digit (by decide)
    | negSucc n => exact ⟨'-', _, rfl, by decide, by decide, by decide⟩
  read := by
    intro m rest hm boundary
    cases m with
    | zero => omega
    | succ m =>
      cases n with
      | ofNat n =>
        have hunsigned := unsigned_toDigits [] n boundary
        obtain ⟨c, cs, hcs⟩ := List.exists_cons_of_ne_nil (toDigits_ne_nil n)
        have digit := isDigit_toDigits n c (by rw [hcs]; exact List.mem_cons_self)
        have htext : intText (.ofNat n) = Nat.toDigits 10 n := rfl
        rw [hcs] at hunsigned
        rw [htext, hcs, List.cons_append, value_number (Or.inr digit), number]
        · rw [← List.cons_append, hunsigned]
          simp
        · intro rest' heq
          rw [(List.cons.inj heq).1] at digit
          exact absurd digit (by decide)
      | negSucc n =>
        have hunsigned := unsigned_toDigits ['-'] (n + 1) boundary
        have htext : intText (.negSucc n) = '-' :: Nat.toDigits 10 (n + 1) := rfl
        rw [htext, List.cons_append, value_number (Or.inl rfl), number, hunsigned]
        simp [Int.negSucc_eq]

/-! ## Writing a value -/

namespace Style

variable (style : Style)

/-- `indent=2` -/
def newline (level : Nat) : Text := '\n' :: List.replicate (2 * level) ' '

mutual

/-- `json.dumps(…, indent=2)`, from the given level on; `jq` prints the same
way. -/
def write (level : Nat) : Json → Text
  | .null => "null".toList
  | .bool b => (if b then "true" else "false").toList
  | .int n => intText n
  | .float text => text.toList
  | .str s => style.quoted s
  | .arr [] => "[]".toList
  | .arr (v :: vs) =>
      '[' :: (newline (level + 1) ++ writeItems (level + 1) (v :: vs)) ++ newline level ++ [']']
  | .obj [] => "\x7b\x7d".toList
  | .obj (m :: ms) =>
      '\x7b' :: (newline (level + 1) ++ writeMembers (level + 1) (m :: ms)) ++ newline level ++
        ['\x7d']

def writeItems (level : Nat) : List Json → Text
  | [] => []
  | [v] => write level v
  | v :: vs => write level v ++ ',' :: (newline level ++ writeItems level vs)

def writeMembers (level : Nat) : List (String × Json) → Text
  | [] => []
  | [(key, v)] => style.quoted key ++ ':' :: ' ' :: write level v
  | (key, v) :: ms =>
      style.quoted key ++ ':' :: ' ' :: (write level v ++
        ',' :: (newline level ++ writeMembers level ms))

end

theorem space_newline (level : Nat) : Space (newline level) := by
  intro c hc
  rcases List.mem_cons.mp hc with rfl | hc
  · decide
  · rw [(List.mem_replicate.mp hc).2]
    decide

theorem space_nil : Space [] := by
  intro c hc
  cases hc

theorem space_one : Space [' '] := by
  intro c hc
  rw [List.mem_singleton] at hc
  rw [hc]
  decide

end Style

/-! ### Writing and reading -/

mutual

/-- A value that has a text: the names of an object differ, and a float is kept
as it is written. -/
def Regular : Json → Prop
  | .null => True
  | .bool _ => True
  | .int _ => True
  | .float text => Reads (.float text) text.toList
  | .str _ => True
  | .arr items => RegularItems items
  | .obj fields => (fields.map Prod.fst).Nodup ∧ RegularMembers fields

def RegularItems : List Json → Prop
  | [] => True
  | v :: vs => Regular v ∧ RegularItems vs

def RegularMembers : List (String × Json) → Prop
  | [] => True
  | (_, v) :: ms => Regular v ∧ RegularMembers ms

end

open Style

section RoundTrip

variable (style : Style)

/-- An array is read back if its items are. -/
theorem reads_writeArr {vs : List Json} (level : Nat)
    (h : ∀ (level : Nat) (w : Text), Space w → vs ≠ [] →
      ReadsItems vs (style.writeItems level vs ++ w)) :
    Reads (.arr vs) (style.write level (.arr vs)) := by
  cases vs with
  | nil => exact reads_emptyArr space_nil
  | cons v vs =>
    have hread := reads_arr (space_newline (level + 1)) (h (level + 1) (newline level)
      (space_newline level) (List.cons_ne_nil _ _))
    simpa only [write, List.append_assoc, List.cons_append] using hread

theorem reads_writeObj {ms : List (String × Json)} (level : Nat) (nodup : (ms.map Prod.fst).Nodup)
    (h : ∀ (level : Nat) (w : Text), Space w → ms ≠ [] →
      ReadsMembers ms (style.writeMembers level ms ++ w)) :
    Reads (.obj ms) (style.write level (.obj ms)) := by
  cases ms with
  | nil => exact reads_emptyObj space_nil
  | cons m ms =>
    have hread := reads_obj (space_newline (level + 1)) (h (level + 1) (newline level)
      (space_newline level) (List.cons_ne_nil _ _))
    rw [collapse_nodup nodup] at hread
    simpa only [write, List.append_assoc, List.cons_append] using hread

theorem readsItems_writeCons {v : Json} {vs : List Json} (level : Nat) {w : Text} (hw : Space w)
    (first : Reads v (style.write level v))
    (more : vs ≠ [] → ReadsItems vs (style.writeItems level vs ++ w)) :
    ReadsItems (v :: vs) (style.writeItems level (v :: vs) ++ w) := by
  cases vs with
  | nil => exact readsItems_one first hw
  | cons v' vs =>
    have hread := readsItems_cons first space_nil (space_newline level)
      (more (List.cons_ne_nil _ _))
    simpa only [writeItems, List.append_assoc, List.cons_append, List.nil_append] using hread

theorem readsMembers_writeCons {key : String} {v : Json} {ms : List (String × Json)} (level : Nat)
    {w : Text} (hw : Space w) (first : Reads v (style.write level v))
    (more : ms ≠ [] → ReadsMembers ms (style.writeMembers level ms ++ w)) :
    ReadsMembers ((key, v) :: ms) (style.writeMembers level ((key, v) :: ms) ++ w) := by
  cases ms with
  | nil =>
    have hread := readsMembers_one (spells_flatMap style key.toList) first space_nil space_one hw
    rw [String.ofList_toList] at hread
    simpa only [writeMembers, quoted, List.append_assoc, List.cons_append, List.nil_append]
      using hread
  | cons m ms =>
    have hread := readsMembers_cons (spells_flatMap style key.toList) first space_nil space_one
      space_nil (space_newline level) (more (List.cons_ne_nil _ _))
    rw [String.ofList_toList] at hread
    simpa only [writeMembers, quoted, List.append_assoc, List.cons_append, List.nil_append]
      using hread

theorem reads_write (v : Json) : ∀ level, Regular v → Reads v (style.write level v) := by
  refine @Json.rec (fun v => ∀ level, Regular v → Reads v (style.write level v))
    (fun vs => RegularItems vs → ∀ (level : Nat) (w : Text), Space w → vs ≠ [] →
      ReadsItems vs (style.writeItems level vs ++ w))
    (fun ms => RegularMembers ms → ∀ (level : Nat) (w : Text), Space w → ms ≠ [] →
      ReadsMembers ms (style.writeMembers level ms ++ w))
    (fun m => ∀ level, Regular m.2 → Reads m.2 (style.write level m.2))
    ?null ?bool ?int ?float ?str ?arr ?obj ?noItem ?items ?noMember ?members ?member v
  case null => exact fun _ _ => reads_null
  case bool => exact fun b _ _ => reads_bool b
  case int => exact fun n _ _ => reads_int n
  case float => exact fun _ _ regular => regular
  case str =>
    intro s level _
    have hread := reads_str (spells_flatMap style s.toList)
    rwa [String.ofList_toList] at hread
  case arr => exact fun vs ih level regular => reads_writeArr style level (ih regular)
  case obj =>
    exact fun ms ih level regular => reads_writeObj style level regular.1 (ih regular.2)
  case noItem => exact fun _ _ _ _ hne => absurd rfl hne
  case items =>
    intro v vs first more regular level w hw _
    exact readsItems_writeCons style level hw (first level regular.1)
      (more regular.2 level w hw)
  case noMember => exact fun _ _ _ _ hne => absurd rfl hne
  case members =>
    intro m ms first more regular level w hw _
    exact readsMembers_writeCons style level hw (first level regular.1)
      (more regular.2 level w hw)
  case member => exact fun _ v ih => ih

end RoundTrip

/-- `json.loads(json.dumps(value, indent=2))` is the value. -/
theorem parse_write (style : Style) {v : Json} (regular : Regular v) :
    parse (.ofList (style.write 0 v)) = some v := by
  have h := parse_of_reads (reads_write style v 0 regular) space_nil space_nil
  simpa only [List.nil_append, List.append_nil] using h

example : (parse "\x7b\"a\": [1, -20], \"b\" : \"\\u0041\" \x7d\n").map (Style.ascii.write 0) =
    some ("\x7b\n  \"a\": [\n    1,\n    -20\n  ],\n  \"b\": \"A\"\n\x7d".toList) := by
  decide +kernel

end CompleteDeviceManagement.Library.JsonText
