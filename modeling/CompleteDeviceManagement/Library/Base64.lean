import CompleteDeviceManagement.Library.PyValue

/-!
# Base64 as Python decodes it

`b64decode` scans for characters of the standard alphabet and passes over
everything else; only the padding has to be enough. The URL-safe variant
translates two characters first. A text in the URL-safe alphabet is decoded by
the plain scanner as if those two characters were not there
(`scan_without_urlOnly`).
-/

set_option autoImplicit false

namespace CompleteDeviceManagement.Library.Base64

abbrev Text := List Char

/-! ## The alphabets -/

def symbols : Text :=
  "ABCDEFGHIJKLMNOPQRSTUVWXYZabcdefghijklmnopqrstuvwxyz0123456789+/".toList

def symbol (v : Nat) : Char := symbols.getD v 'A'

/-- The URL-safe alphabet differs in the last two symbols. -/
def urlSymbol (v : Nat) : Char := if v = 62 then '-' else if v = 63 then '_' else symbol v

/-- The place of a character in the standard alphabet. -/
def value (c : Char) : Option Nat :=
  if Ascii.isUpper c then some (c.toNat - 65)
  else if Ascii.isLower c then some (c.toNat - 71)
  else if Ascii.isDigit c then some (c.toNat + 4)
  else if c = '+' then some 62
  else if c = '/' then some 63
  else none

/-- The translation of `urlsafe_b64decode`. -/
def translate (c : Char) : Char := if c = '-' then '+' else if c = '_' then '/' else c

def urlOnly (c : Char) : Bool := c == '-' || c == '_'

theorem value_symbol : ∀ v < 64, value (symbol v) = some v := by
  decide +kernel

theorem symbol_ne_pad : ∀ v < 64, symbol v ≠ '=' := by
  decide +kernel

theorem translate_urlSymbol : ∀ v < 64, translate (urlSymbol v) = symbol v := by
  decide +kernel

theorem urlSymbol_plain : ∀ v < 64, (urlSymbol v).toNat < 128 ∧ urlSymbol v ≠ '.' := by
  decide +kernel

/-! ## Decoding -/

/-- `binascii.a2b_base64` in a state: how many symbols of the current quad it
has, the bits left of them, and the pads seen since the last symbol. -/
def scan : Nat → Nat → Nat → Text → Option (List UInt8)
  | quad, _, _, [] => if quad = 0 then some [] else none
  | quad, left, pads, c :: rest =>
      if c = '=' then
        if 2 ≤ quad then
          if 4 ≤ quad + (pads + 1) then some [] else scan quad left (pads + 1) rest
        else scan quad left pads rest
      else
        match value c with
        | none => scan quad left pads rest
        | some v =>
            match quad with
            | 0 => scan 1 v 0 rest
            | 1 => (scan 2 (v % 16) 0 rest).map (UInt8.ofNat (left * 4 + v / 16) :: ·)
            | 2 => (scan 3 (v % 4) 0 rest).map (UInt8.ofNat (left * 16 + v / 4) :: ·)
            | _ => (scan 0 0 0 rest).map (UInt8.ofNat (left * 64 + v) :: ·)

/-- `base64.b64decode(text)`, and `none` where it raises. -/
def b64decode (text : String) : Option (List UInt8) :=
  if text.toList.all (fun c => c.toNat < 128) then scan 0 0 0 text.toList else none

/-- `base64.urlsafe_b64decode(text)`. -/
def urlsafeB64decode (text : String) : Option (List UInt8) :=
  if text.toList.all (fun c => c.toNat < 128) then scan 0 0 0 (text.toList.map translate) else none

/-! ## Encoding -/

/-- Without padding, in the alphabet `sym`. -/
def encode (sym : Nat → Char) : List UInt8 → Text
  | [] => []
  | [a] => [sym (a.toNat / 4), sym (a.toNat % 4 * 16)]
  | [a, b] =>
      [sym (a.toNat / 4), sym (a.toNat % 4 * 16 + b.toNat / 16), sym (b.toNat % 16 * 4)]
  | a :: b :: c :: rest =>
      sym (a.toNat / 4) :: sym (a.toNat % 4 * 16 + b.toNat / 16) ::
        sym (b.toNat % 16 * 4 + c.toNat / 64) :: sym (c.toNat % 64) :: encode sym rest

theorem mem_encode {sym : Nat → Char} {bytes : List UInt8} {c : Char} (h : c ∈ encode sym bytes) :
    ∃ v < 64, c = sym v := by
  induction bytes using encode.induct with
  | case1 => cases h
  | case2 a =>
    have ha := a.toNat_lt
    simp only [encode, List.mem_cons, List.not_mem_nil, or_false] at h
    rcases h with rfl | rfl
    · exact ⟨_, by omega, rfl⟩
    · exact ⟨_, by omega, rfl⟩
  | case3 a b =>
    have ha := a.toNat_lt
    have hb := b.toNat_lt
    simp only [encode, List.mem_cons, List.not_mem_nil, or_false] at h
    rcases h with rfl | rfl | rfl
    · exact ⟨_, by omega, rfl⟩
    · exact ⟨_, by omega, rfl⟩
    · exact ⟨_, by omega, rfl⟩
  | case4 a b d rest ih =>
    have ha := a.toNat_lt
    have hb := b.toNat_lt
    have hd := d.toNat_lt
    simp only [encode, List.mem_cons] at h
    rcases h with rfl | rfl | rfl | rfl | h
    · exact ⟨_, by omega, rfl⟩
    · exact ⟨_, by omega, rfl⟩
    · exact ⟨_, by omega, rfl⟩
    · exact ⟨_, by omega, rfl⟩
    · exact ih h

theorem map_encode (f : Char → Char) (sym : Nat → Char) (bytes : List UInt8) :
    (encode sym bytes).map f = encode (fun v => f (sym v)) bytes := by
  induction bytes using encode.induct with
  | case1 => rfl
  | case2 a => rfl
  | case3 a b => rfl
  | case4 a b c rest ih => simp [encode, ih]

/-- How many pads the last quad needs. -/
def missing (bytes : List UInt8) : Nat := (3 - bytes.length % 3) % 3

theorem length_encode (sym : Nat → Char) (bytes : List UInt8) :
    (encode sym bytes).length % 4 =
      if bytes.length % 3 = 0 then 0 else bytes.length % 3 + 1 := by
  induction bytes using encode.induct with
  | case1 => rfl
  | case2 a => rfl
  | case3 a b => rfl
  | case4 a b c rest ih =>
    simp only [encode, List.length_cons]
    split at ih <;> split <;> omega

/-! ## Round trip -/

section Symbols

variable {v : Nat} (h : v < 64) (left pads : Nat) (rest : Text)

include h

theorem scan_first : scan 0 left pads (symbol v :: rest) = scan 1 v 0 rest := by
  simp [scan, symbol_ne_pad v h, value_symbol v h]

theorem scan_second : scan 1 left pads (symbol v :: rest) =
    (scan 2 (v % 16) 0 rest).map (UInt8.ofNat (left * 4 + v / 16) :: ·) := by
  simp [scan, symbol_ne_pad v h, value_symbol v h]

theorem scan_third : scan 2 left pads (symbol v :: rest) =
    (scan 3 (v % 4) 0 rest).map (UInt8.ofNat (left * 16 + v / 4) :: ·) := by
  simp [scan, symbol_ne_pad v h, value_symbol v h]

theorem scan_fourth : scan 3 left pads (symbol v :: rest) =
    (scan 0 0 0 rest).map (UInt8.ofNat (left * 64 + v) :: ·) := by
  simp [scan, symbol_ne_pad v h, value_symbol v h]

end Symbols

theorem scan_pads (pads : Nat) : scan 0 0 0 (List.replicate pads '=') = some [] := by
  induction pads with
  | zero => rfl
  | succ n ih => simpa [List.replicate_succ, scan] using ih

theorem byte_split (byte : UInt8) {n : Nat} (h : n = byte.toNat) : UInt8.ofNat n = byte := by
  rw [h, UInt8.ofNat_toNat]

/-- The scanner undoes the encoding if there are pads enough. -/
theorem scan_encode {bytes : List UInt8} {pads : Nat} (enough : missing bytes ≤ pads) :
    scan 0 0 0 (encode symbol bytes ++ List.replicate pads '=') = some bytes := by
  induction bytes using encode.induct with
  | case1 => exact scan_pads pads
  | case2 a =>
    have ha := a.toNat_lt
    obtain ⟨more, rfl⟩ : ∃ more, pads = more + 2 := ⟨pads - 2, by simp [missing] at enough; omega⟩
    have first : UInt8.ofNat (a.toNat / 4 * 4 + a.toNat % 4 * 16 / 16) = a :=
      byte_split a (by omega)
    have closed : scan 2 (a.toNat % 4 * 16 % 16) 0 (List.replicate (more + 2) '=') = some [] := by
      simp [List.replicate_succ, scan]
    rw [encode, List.cons_append, List.cons_append, List.nil_append,
      scan_first (by omega), scan_second (by omega), closed, first]
    rfl
  | case3 a b =>
    have ha := a.toNat_lt
    have hb := b.toNat_lt
    obtain ⟨more, rfl⟩ : ∃ more, pads = more + 1 := ⟨pads - 1, by simp [missing] at enough; omega⟩
    have first : UInt8.ofNat (a.toNat / 4 * 4 + (a.toNat % 4 * 16 + b.toNat / 16) / 16) = a :=
      byte_split a (by omega)
    have second : UInt8.ofNat ((a.toNat % 4 * 16 + b.toNat / 16) % 16 * 16 +
        b.toNat % 16 * 4 / 4) = b := byte_split b (by omega)
    have closed : scan 3 (b.toNat % 16 * 4 % 4) 0 (List.replicate (more + 1) '=') = some [] := by
      simp [List.replicate_succ, scan]
    rw [encode, List.cons_append, List.cons_append, List.cons_append, List.nil_append,
      scan_first (by omega), scan_second (by omega), scan_third (by omega), closed, first, second]
    rfl
  | case4 a b c rest ih =>
    have ha := a.toNat_lt
    have hb := b.toNat_lt
    have hc := c.toNat_lt
    have rests : missing rest ≤ pads := by
      simp only [missing, List.length_cons] at enough ⊢
      omega
    have first : UInt8.ofNat (a.toNat / 4 * 4 + (a.toNat % 4 * 16 + b.toNat / 16) / 16) = a :=
      byte_split a (by omega)
    have second : UInt8.ofNat ((a.toNat % 4 * 16 + b.toNat / 16) % 16 * 16 +
        (b.toNat % 16 * 4 + c.toNat / 64) / 4) = b := byte_split b (by omega)
    have third : UInt8.ofNat ((b.toNat % 16 * 4 + c.toNat / 64) % 4 * 64 + c.toNat % 64) = c :=
      byte_split c (by omega)
    rw [encode, List.cons_append, List.cons_append, List.cons_append, List.cons_append,
      scan_first (by omega), scan_second (by omega), scan_third (by omega),
      scan_fourth (by omega), ih rests, first, second, third]
    rfl

/-! ## The two alphabets -/

theorem map_translate (bytes : List UInt8) :
    (encode urlSymbol bytes).map translate = encode symbol bytes := by
  rw [map_encode]
  induction bytes using encode.induct with
  | case1 => rfl
  | case2 a =>
    have ha := a.toNat_lt
    rw [encode, encode, translate_urlSymbol _ (by omega), translate_urlSymbol _ (by omega)]
  | case3 a b =>
    have ha := a.toNat_lt
    have hb := b.toNat_lt
    rw [encode, encode, translate_urlSymbol _ (by omega), translate_urlSymbol _ (by omega),
      translate_urlSymbol _ (by omega)]
  | case4 a b c rest ih =>
    have ha := a.toNat_lt
    have hb := b.toNat_lt
    have hc := c.toNat_lt
    rw [encode, encode, ih, translate_urlSymbol _ (by omega), translate_urlSymbol _ (by omega),
      translate_urlSymbol _ (by omega), translate_urlSymbol _ (by omega)]

theorem translate_id {text : Text} (plain : ∀ c ∈ text, urlOnly c = false) :
    text.map translate = text := by
  have same : text.map translate = text.map id := by
    apply List.map_congr_left
    intro c hc
    have hplain := plain c hc
    simp only [urlOnly, Bool.or_eq_false_iff, beq_eq_false_iff_ne] at hplain
    rw [translate, if_neg hplain.1, if_neg hplain.2]
    rfl
  rw [same, List.map_id]

/-- The characters of the URL-safe alphabet alone are passed over. -/
theorem scan_without_urlOnly (text : Text) :
    ∀ quad left pads, scan quad left pads (text.filter fun c => !urlOnly c) =
      scan quad left pads text := by
  induction text with
  | nil => exact fun _ _ _ => rfl
  | cons c rest ih =>
    intro quad left pads
    cases hc : urlOnly c with
    | true =>
      have hvalue : value c = none ∧ c ≠ '=' := by
        rcases Bool.or_eq_true_iff.mp hc with h | h
        · rw [beq_iff_eq.mp h]
          decide
        · rw [beq_iff_eq.mp h]
          decide
      rw [List.filter_cons_of_neg (by simp [hc]), ih, scan, if_neg hvalue.2, hvalue.1]
    | false =>
      rw [List.filter_cons_of_pos (by simp [hc]), scan, scan]
      simp only [ih]

end CompleteDeviceManagement.Library.Base64
