import Mathlib.Data.List.Basic

/-!
# UTF-8

The bytes of a text, and the text of bytes, where they are one.
-/

set_option autoImplicit false

namespace CompleteDeviceManagement.Library.Utf8

/-! ## The characters of a text -/

/-- They are looked at one by one, not all characters there are. -/
instance decidableTextAll {p : Char → Prop} [DecidablePred p] (cs : List Char) :
    Decidable (∀ c ∈ cs, p c) :=
  List.decidableBAll p cs

instance decidableTextExists {p : Char → Prop} [DecidablePred p] (cs : List Char) :
    Decidable (∃ c ∈ cs, p c) :=
  List.decidableBEx p cs

/-! ## Their bytes -/

def encode (cs : List Char) : List UInt8 := cs.flatMap String.utf8EncodeChar

def decode (bytes : List UInt8) : Option (List Char) :=
  bytes.toByteArray.utf8Decode?.map Array.toList

theorem encode_cons (c : Char) (cs : List Char) :
    encode (c :: cs) = String.utf8EncodeChar c ++ encode cs := List.flatMap_cons

theorem decode_encode (cs : List Char) : decode (encode cs) = some cs := by
  have bytes : (encode cs).toByteArray = cs.utf8Encode := rfl
  unfold decode
  rw [bytes, List.utf8Decode?_utf8Encode]
  simp

theorem encode_injective {cs rest : List Char} (h : encode cs = encode rest) : cs = rest := by
  have decoded := congrArg decode h
  rw [decode_encode, decode_encode] at decoded
  exact Option.some.inj decoded

theorem length_char_pos (c : Char) : 1 ≤ (String.utf8EncodeChar c).length := by
  rw [String.length_utf8EncodeChar]
  exact c.utf8Size_pos

/-! ## ASCII -/

theorem encodeChar_ascii {c : Char} (ascii : c.toNat < 128) :
    String.utf8EncodeChar c = [UInt8.ofNat c.toNat] :=
  if_pos (Nat.le_of_lt_succ ascii)

/-- The bytes of other characters are not those of ASCII ones. -/
theorem encodeChar_high {c : Char} (high : 128 ≤ c.toNat) :
    ∀ b ∈ String.utf8EncodeChar c, 128 ≤ b.toNat := by
  have more : ¬ c.val.toNat ≤ 0x7f := by
    have same : c.toNat = c.val.toNat := rfl
    omega
  intro b hb
  rw [String.utf8EncodeChar, if_neg more] at hb
  split at hb
  · simp only [List.mem_cons, List.not_mem_nil, or_false] at hb
    rcases hb with rfl | rfl <;> simp only [UInt8.toNat_ofNat'] <;> omega
  · split at hb
    · simp only [List.mem_cons, List.not_mem_nil, or_false] at hb
      rcases hb with rfl | rfl | rfl <;> simp only [UInt8.toNat_ofNat'] <;> omega
    · simp only [List.mem_cons, List.not_mem_nil, or_false] at hb
      rcases hb with rfl | rfl | rfl | rfl <;> simp only [UInt8.toNat_ofNat'] <;> omega

theorem ofNat_injective {c d : Char} (hc : c.toNat < 128) (hd : d.toNat < 128)
    (same : UInt8.ofNat c.toNat = UInt8.ofNat d.toNat) : c = d := by
  have codes := congrArg UInt8.toNat same
  simp only [UInt8.toNat_ofNat'] at codes
  apply Char.toNat_inj.mp
  omega

theorem encode_append (a b : List Char) : encode (a ++ b) = encode a ++ encode b :=
  List.flatMap_append

theorem encode_ascii {text : List Char} (ascii : ∀ c ∈ text, c.toNat < 128) :
    encode text = text.map fun c => UInt8.ofNat c.toNat := by
  induction text with
  | nil => rfl
  | cons c text ih =>
    rw [encode_cons, encodeChar_ascii (ascii c List.mem_cons_self),
      ih fun d hd => ascii d (List.mem_cons_of_mem c hd)]
    rfl

/-- An ASCII text begins the bytes where it begins the text. -/
theorem prefix_encode {search : List Char} (ascii : ∀ c ∈ search, c.toNat < 128)
    (text : List Char) : encode search <+: encode text ↔ search <+: text := by
  induction search generalizing text with
  | nil => exact ⟨fun _ => List.nil_prefix, fun _ => List.nil_prefix⟩
  | cons c search ih =>
    have hc := ascii c List.mem_cons_self
    have rest := ih fun d hd => ascii d (List.mem_cons_of_mem c hd)
    rw [encode_cons, encodeChar_ascii hc]
    cases text with
    | nil => exact ⟨fun h => absurd (List.prefix_nil.mp h) (by simp), fun h =>
        absurd (List.prefix_nil.mp h) (by simp)⟩
    | cons d text =>
      rw [encode_cons, List.cons_prefix_cons, List.singleton_append]
      by_cases hd : d.toNat < 128
      · rw [encodeChar_ascii hd, List.singleton_append, List.cons_prefix_cons, rest text]
        constructor
        · rintro ⟨same, later⟩
          exact ⟨ofNat_injective hc hd same, later⟩
        · rintro ⟨same, later⟩
          exact ⟨by rw [same], later⟩
      · constructor
        · intro begins
          exfalso
          have first : UInt8.ofNat c.toNat ∈ String.utf8EncodeChar d := by
            cases bytes : String.utf8EncodeChar d with
            | nil => exact absurd bytes String.utf8EncodeChar_ne_nil
            | cons b more =>
              rw [bytes, List.cons_append, List.cons_prefix_cons] at begins
              rw [begins.1]
              exact List.mem_cons_self
          have large := encodeChar_high (Nat.le_of_not_lt hd) _ first
          rw [UInt8.toNat_ofNat'] at large
          omega
        · rintro ⟨same, -⟩
          exact absurd (same ▸ hc) hd

end CompleteDeviceManagement.Library.Utf8
