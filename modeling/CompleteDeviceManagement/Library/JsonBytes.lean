import CompleteDeviceManagement.Library.JsonSize
import CompleteDeviceManagement.Library.Utf8

/-!
# json.loads on bytes

The encoding is found by the byte order mark and the zeros among the first bytes. UTF-8
text that is read has neither (`loads_encode`). Texts are of Unicode scalars: a surrogate
alone is not decoded. An interpreter's limits on digits and nesting are left out.
-/

set_option autoImplicit false

namespace CompleteDeviceManagement.Library.JsonBytes
open CompleteDeviceManagement.Library.JsonText CompleteDeviceManagement.Library.Utf8

/-! ## Encodings -/

inductive Encoding where
  | utf8
  /-- after a byte order mark -/
  | utf8Sig
  | utf16
  | utf32
  | utf16be
  | utf16le
  | utf32be
  | utf32le

def utf32Marks : List (List UInt8) := [[0, 0, 0xFE, 0xFF], [0xFF, 0xFE, 0, 0]]

def utf16Marks : List (List UInt8) := [[0xFE, 0xFF], [0xFF, 0xFE]]

def utf8Mark : List UInt8 := [0xEF, 0xBB, 0xBF]

/-- `json.detect_encoding` -/
def detectEncoding (b : List UInt8) : Encoding :=
  if utf32Marks.any (·.isPrefixOf b) then .utf32
  else if utf16Marks.any (·.isPrefixOf b) then .utf16
  else if utf8Mark.isPrefixOf b then .utf8Sig
  else
    match b with
    | b0 :: b1 :: b2 :: b3 :: _ =>
        if b0 = 0 then if b1 ≠ 0 then .utf16be else .utf32be
        else if b1 = 0 then if b2 ≠ 0 ∨ b3 ≠ 0 then .utf16le else .utf32le
        else .utf8
    | [b0, b1] => if b0 = 0 then .utf16be else if b1 = 0 then .utf16le else .utf8
    | _ => .utf8

/-- The code units of two bytes, the high byte first if `big`. -/
def units16 (big : Bool) : List UInt8 → Option (List Nat)
  | [] => some []
  | [_] => none
  | a :: b :: rest =>
      (units16 big rest).map fun units =>
        (if big then a.toNat * 256 + b.toNat else b.toNat * 256 + a.toNat) :: units

def decode16 (big : Bool) (b : List UInt8) : Option Text := (units16 big b).bind chars

def decode32 (big : Bool) : List UInt8 → Option Text
  | [] => some []
  | a :: b :: c :: d :: rest =>
      let code :=
        if big then ((a.toNat * 256 + b.toNat) * 256 + c.toNat) * 256 + d.toNat
        else ((d.toNat * 256 + c.toNat) * 256 + b.toNat) * 256 + a.toNat
      if code.isValidChar then (decode32 big rest).map (Char.ofNat code :: ·) else none
  | _ => none

/-- `b.decode(encoding)`; the codecs without an order in their names read it from the
mark. -/
def decodeAs : Encoding → List UInt8 → Option Text
  | .utf8, b => decode b
  | .utf8Sig, b => decode (b.drop 3)
  | .utf16, b => decode16 (b.head? == some 0xFE) (b.drop 2)
  | .utf32, b => decode32 (b.head? == some 0) (b.drop 4)
  | .utf16be, b => decode16 true b
  | .utf16le, b => decode16 false b
  | .utf32be, b => decode32 true b
  | .utf32le, b => decode32 false b

/-- `json.loads(b)`, and `none` where it raises. -/
def loads (b : List UInt8) : Option Json :=
  (decodeAs (detectEncoding b) b).bind fun text => parse (.ofList text)

/-! ## UTF-8 -/

/-- Bytes without a zero that begin with an ASCII character. -/
theorem detectEncoding_utf8 {a : UInt8} {b : List UInt8} (ascii : a.toNat < 128)
    (nonzero : ∀ d ∈ a :: b, d ≠ 0) : detectEncoding (a :: b) = .utf8 := by
  have first : ∀ mark ∈ [0, 0xFF, 0xFE, 0xEF], mark ≠ a := by
    have high : ∀ mark ∈ ([0xFF, 0xFE, 0xEF] : List UInt8), 128 ≤ mark.toNat := by
      intro mark marks
      simp only [List.mem_cons, List.not_mem_nil, or_false] at marks
      rcases marks with rfl | rfl | rfl <;> decide
    intro mark marks same
    rcases List.mem_cons.mp marks with zero | marks
    · exact nonzero a List.mem_cons_self (same.symm.trans zero)
    · have code := high mark marks
      rw [same] at code
      omega
  have mark32 : utf32Marks.any (·.isPrefixOf (a :: b)) = false := by
    simp [utf32Marks, List.isPrefixOf, first 0, first 0xFF]
  have mark16 : utf16Marks.any (·.isPrefixOf (a :: b)) = false := by
    simp [utf16Marks, List.isPrefixOf, first 0xFE, first 0xFF]
  have mark8 : utf8Mark.isPrefixOf (a :: b) = false := by
    simp [utf8Mark, List.isPrefixOf, first 0xEF]
  have zero : a ≠ 0 := nonzero a List.mem_cons_self
  unfold detectEncoding
  rw [mark32, mark16, mark8]
  match b with
  | [] => rfl
  | [b1] =>
    have zero1 : b1 ≠ 0 := nonzero b1 (by simp)
    simp [zero, zero1]
  | [b1, b2] => rfl
  | b1 :: b2 :: b3 :: rest =>
    have zero1 : b1 ≠ 0 := nonzero b1 (by simp)
    simp [zero, zero1]

theorem encode_nonzero {cs : List Char} (text : ∀ c ∈ cs, 0 < c.toNat) :
    ∀ b ∈ encode cs, b ≠ 0 := by
  intro b hb
  obtain ⟨c, hc, hb⟩ := List.mem_flatMap.mp hb
  have positive := text c hc
  by_cases ascii : c.toNat < 128
  · rw [encodeChar_ascii ascii, List.mem_singleton] at hb
    rintro rfl
    have same := congrArg UInt8.toNat hb
    simp only [UInt8.toNat_ofNat'] at same
    have zero : (0 : UInt8).toNat = 0 := rfl
    omega
  · have high := encodeChar_high (Nat.le_of_not_lt ascii) b hb
    rintro rfl
    exact absurd high (by decide)

/-! ## How an object begins -/

theorem value_object {n : Nat} {s r : Text} {fields : List (String × Json)}
    (h : value n s = some (.obj fields, r)) : ∃ rest, s = '\x7b' :: rest := by
  cases n with
  | zero => cases h
  | succ n =>
    unfold JsonText.value at h
    split at h
    next =>
      obtain ⟨read, -, same⟩ := Option.map_eq_some_iff.mp h
      cases same
    next =>
      split at h
      · cases h
      · obtain ⟨read, -, same⟩ := Option.map_eq_some_iff.mp h
        cases same
    next rest => exact ⟨rest, rfl⟩
    next => cases h
    next => cases h
    next => cases h
    next => exact absurd trivial (not_closed_of_number h)

/-- The text of an object begins with space or with its brace. -/
theorem parse_object {text : String} {fields : List (String × Json)}
    (h : parse text = some (.obj fields)) :
    ∃ c rest, text.toList = c :: rest ∧ c.toNat < 128 := by
  have braced : ∃ rest, skipSpace text.toList = '\x7b' :: rest := by
    unfold parse at h
    split at h
    next read =>
      split at h
      · cases h
        exact value_object read
      · cases h
    next => cases h
  obtain ⟨rest, braced⟩ := braced
  have split : text.toList = text.toList.takeWhile isSpace ++ '\x7b' :: rest := by
    rw [← braced]
    exact List.takeWhile_append_dropWhile.symm
  cases blanks : text.toList.takeWhile isSpace with
  | nil =>
    rw [blanks] at split
    exact ⟨_, _, split, by decide⟩
  | cons c more =>
    have blank : isSpace c = true := List.mem_takeWhile_imp (blanks ▸ List.mem_cons_self)
    rw [blanks] at split
    refine ⟨c, _, split, ?_⟩
    simp only [isSpace, Bool.or_eq_true, beq_iff_eq] at blank
    rcases blank with ((rfl | rfl) | rfl) | rfl <;> decide

/-- The UTF-8 text of an object is loaded as it is read. -/
theorem loads_encode {text : String} {fields : List (String × Json)}
    (read : parse text = some (.obj fields)) :
    loads (encode text.toList) = some (.obj fields) := by
  obtain ⟨c, rest, split, ascii⟩ := parse_object read
  have nonzero := encode_nonzero (parse_length read).2
  have utf8 : detectEncoding (encode text.toList) = .utf8 := by
    rw [split, encode_cons, encodeChar_ascii ascii] at nonzero ⊢
    refine detectEncoding_utf8 ?_ nonzero
    simp only [UInt8.toNat_ofNat']
    omega
  rw [loads, utf8]
  exact (congrArg (Option.bind · fun text => parse (.ofList text)) (decode_encode _)).trans
    ((congrArg parse String.ofList_toList).trans read)

end CompleteDeviceManagement.Library.JsonBytes
