import CompleteDeviceManagement.Source.Enroll

/-!
# The buffer of the escaped CSR

The loop never leaves `csr_escaped`, whatever it reads. It stops early only where the
text it makes has 8189 bytes already, which 4095 bytes of input do not come to: the
last of 4095 newlines is met at the index 8188.
-/

set_option autoImplicit false

namespace CompleteDeviceManagement.Guarantees.CsrEscaping
open CompleteDeviceManagement.Library CompleteDeviceManagement.Library.CString
  CompleteDeviceManagement.Library.JsonText CompleteDeviceManagement.Source
  CompleteDeviceManagement.Source.Enroll
open CompleteDeviceManagement.Library.Utf8 (encode encode_append encode_cons encodeChar_ascii
  encodeChar_high)

/-! ## What is written -/

def escape (b : UInt8) : Bytes := if b = 10 then [92, 110] else [b]

/-- What is written from the index `ei` on. -/
def fitting (ei : Nat) : Bytes → Bytes
  | [] => []
  | b :: rest => if ei < 8189 then escape b ++ fitting (ei + (escape b).length) rest else []

theorem length_escape (b : UInt8) : 1 ≤ (escape b).length ∧ (escape b).length ≤ 2 := by
  unfold escape
  split <;> simp

/-- One step of the loop. -/
theorem escapeLoop_cons {b : UInt8} (noNul : b ≠ 0) {done more : List UInt8}
    (room : done.length < 8189) (size : (done ++ more).length = 8192) (rest : Bytes) :
    ∃ more', (done ++ escape b ++ more').length = 8192 ∧
      escapeLoop (b :: rest) done.length (done ++ more) =
        escapeLoop rest (done ++ escape b).length (done ++ escape b ++ more') := by
  rw [List.length_append] at size
  match more, size with
  | [], size => simp only [List.length_nil] at size; omega
  | [_], size => simp only [List.length_cons, List.length_nil] at size; omega
  | old :: old' :: more, size =>
    simp only [List.length_cons] at size
    have first : ∀ a, store (done ++ old :: old' :: more) done.length a =
        some (done ++ a :: old' :: more) := store_next done (old' :: more) old
    have second : store (done ++ 92 :: old' :: more) (done.length + 1) 110 =
        some (done ++ 92 :: 110 :: more) := by
      have next := store_next (done ++ [92]) more old' 110
      simpa using next
    rw [escapeLoop, if_pos ⟨noNul, by omega⟩]
    unfold escape
    by_cases newline : b = 10
    · rw [if_pos newline, if_pos newline]
      refine ⟨more, by simp only [List.length_append, List.length_cons, List.length_nil]; omega, ?_⟩
      simp [first, second]
    · rw [if_neg newline, if_neg newline]
      refine ⟨old' :: more, by
        simp only [List.length_append, List.length_cons, List.length_nil]; omega, ?_⟩
      simp [first]

/-- The loop stays in the buffer and leaves room for the terminator. It reads to the end
where each byte has room for an escape. -/
theorem escapeLoop_fitting {csrPem : Bytes} (noNul : 0 ∉ csrPem) (behind : Bytes)
    (done : Bytes) {more : Bytes} (room : done.length ≤ 8190)
    (size : (done ++ more).length = 8192) :
    ∃ unread more', (done ++ fitting done.length csrPem).length ≤ 8190 ∧
      (done ++ fitting done.length csrPem ++ more').length = 8192 ∧
      (done.length + 2 * csrPem.length ≤ 8190 → unread = []) ∧
      escapeLoop (csrPem ++ 0 :: behind) done.length (done ++ more) =
        some (unread ++ 0 :: behind, (done ++ fitting done.length csrPem).length,
          done ++ fitting done.length csrPem ++ more') := by
  induction csrPem generalizing done more with
  | nil =>
    refine ⟨[], more, by simpa [fitting] using room, by simpa [fitting] using size,
      fun _ => rfl, ?_⟩
    simp [escapeLoop, fitting]
  | cons b csrPem ih =>
    simp only [List.mem_cons, not_or] at noNul
    by_cases early : done.length < 8189
    · have long := length_escape b
      obtain ⟨more₁, size₁, step⟩ := escapeLoop_cons (Ne.symm noNul.1) early size
        (csrPem ++ 0 :: behind)
      have length₁ : (done ++ escape b).length = done.length + (escape b).length :=
        List.length_append
      have room₁ : (done ++ escape b).length ≤ 8190 := by omega
      obtain ⟨unread, more', bound, size', read, run⟩ := ih noNul.2 (done ++ escape b) room₁ size₁
      have split : done ++ fitting done.length (b :: csrPem) =
          done ++ escape b ++ fitting (done ++ escape b).length csrPem := by
        rw [fitting, if_pos early, List.append_assoc, List.length_append]
      rw [split]
      refine ⟨unread, more', bound, size', ?_, step.trans run⟩
      intro whole
      rw [List.length_cons] at whole
      exact read (by omega)
    · have stopped : fitting done.length (b :: csrPem) = [] := if_neg early
      rw [stopped, List.append_nil]
      refine ⟨b :: csrPem, more, room, size, ?_, ?_⟩
      · intro whole
        rw [List.length_cons] at whole
        omega
      · rw [List.cons_append, escapeLoop, if_neg fun both => early both.2]

theorem fitting_all {csrPem : Bytes} {ei : Nat} (room : ei + 2 * csrPem.length ≤ 8190) :
    fitting ei csrPem = csrPem.flatMap escape := by
  induction csrPem generalizing ei with
  | nil => rfl
  | cons b csrPem ih =>
    have long := length_escape b
    rw [List.length_cons] at room
    have early : ei < 8189 := by omega
    rw [fitting, if_pos early, ih (by omega), List.flatMap_cons]

/-! ## What is read back -/

/-- A byte that needs no escape, or a newline. -/
def Writable (b : UInt8) : Prop := b = 10 ∨ 32 ≤ b.toNat ∧ b ≠ 34 ∧ b ≠ 92

/-- Each byte as a character. -/
def latin1 (text : Bytes) : Text := text.map fun b => Char.ofNat b.toNat

theorem latin1_code (b : UInt8) : (Char.ofNat b.toNat).toNat = b.toNat := by
  have small := b.toNat_lt
  have valid : b.toNat.isValidChar := Or.inl (by omega)
  rw [Char.ofNat, dif_pos valid]
  rfl

theorem latin1_ne {b d : UInt8} (other : b ≠ d) : Char.ofNat b.toNat ≠ Char.ofNat d.toNat := by
  intro same
  have code := congrArg Char.toNat same
  rw [latin1_code, latin1_code] at code
  exact other (UInt8.toNat_inj.mp code)

theorem spells_latin1 {csrPem : Bytes} (writable : ∀ b ∈ csrPem, Writable b) :
    Spells (latin1 csrPem) (latin1 (csrPem.flatMap escape)) := by
  induction csrPem with
  | nil => exact .nil
  | cons b csrPem ih =>
    have more := ih fun d hd => writable d (List.mem_cons_of_mem b hd)
    rw [List.flatMap_cons, escape]
    rcases writable b List.mem_cons_self with newline | ⟨printable, quote, backslash⟩
    · subst newline
      exact .short rfl more
    · have other : b ≠ 10 := by
        rintro rfl
        exact absurd printable (by decide)
      rw [if_neg other]
      refine .plain ?_ (latin1_ne quote) (latin1_ne backslash) more
      rw [latin1_code]
      exact printable

theorem flatMap_escape_plain {text : Bytes} (plain : 10 ∉ text) : text.flatMap escape = text := by
  induction text with
  | nil => rfl
  | cons b text ih =>
    simp only [List.mem_cons, not_or] at plain
    rw [List.flatMap_cons, ih plain.2, escape, if_neg (Ne.symm plain.1)]
    rfl

/-- Where the bytes are UTF-8, so is what is written, and it spells their text. -/
theorem spells_utf8 {cs : List Char} (writable : ∀ b ∈ encode cs, Writable b) :
    ∃ t, (encode cs).flatMap escape = encode t ∧ Spells cs t := by
  induction cs with
  | nil => exact ⟨[], rfl, .nil⟩
  | cons c cs ih =>
    rw [encode_cons] at writable ⊢
    obtain ⟨t, bytes, spelled⟩ := ih fun b hb => writable b (List.mem_append_right _ hb)
    rw [List.flatMap_append, bytes]
    by_cases ascii : c.toNat < 128
    · have code : (UInt8.ofNat c.toNat).toNat = c.toNat := by
        rw [UInt8.toNat_ofNat']
        omega
      rw [encodeChar_ascii ascii] at writable ⊢
      rcases writable _ (List.mem_append_left _ List.mem_cons_self) with newline | plain
      · have same : c = '\n' := Utf8.ofNat_injective ascii (by decide) newline
        subst same
        exact ⟨'\\' :: 'n' :: t, rfl, .short rfl spelled⟩
      · obtain ⟨printable, quote, backslash⟩ := plain
        rw [code] at printable
        have absent : 10 ∉ [UInt8.ofNat c.toNat] := by
          intro newline
          have value := congrArg UInt8.toNat (List.mem_singleton.mp newline)
          rw [code] at value
          have ten : (10 : UInt8).toNat = 10 := rfl
          omega
        rw [flatMap_escape_plain absent, ← encodeChar_ascii ascii, ← encode_cons]
        refine ⟨c :: t, rfl, .plain printable ?_ ?_ spelled⟩
        · rintro rfl
          exact quote rfl
        · rintro rfl
          exact backslash rfl
    · have high := encodeChar_high (Nat.le_of_not_lt ascii)
      have absent : 10 ∉ String.utf8EncodeChar c := by
        intro newline
        exact absurd (high 10 newline) (by decide)
      rw [flatMap_escape_plain absent, ← encode_cons]
      refine ⟨c :: t, rfl, .plain (by omega) ?_ ?_ spelled⟩
      · rintro rfl
        exact ascii (by decide)
      · rintro rfl
        exact ascii (by decide)

/-! ## The loop on a whole CSR -/

theorem not_mem_flatMap_escape {csrPem : Bytes} {b : UInt8} (absent : b ∉ csrPem)
    (other : b ≠ 92 ∧ b ≠ 110) : b ∉ csrPem.flatMap escape := by
  intro inside
  obtain ⟨d, hd, written⟩ := List.mem_flatMap.mp inside
  unfold escape at written
  split at written
  · simp only [List.mem_cons, List.not_mem_nil, or_false] at written
    exact written.elim other.1 other.2
  · rw [List.mem_singleton.mp written] at absent
    exact absent hd

theorem not_mem_fitting {csrPem : Bytes} {b : UInt8} (absent : b ∉ csrPem)
    (other : b ≠ 92 ∧ b ≠ 110) (ei : Nat) : b ∉ fitting ei csrPem := by
  induction csrPem generalizing ei with
  | nil => exact List.not_mem_nil
  | cons d csrPem ih =>
    simp only [List.mem_cons, not_or] at absent
    have here : b ∉ [d].flatMap escape :=
      not_mem_flatMap_escape (mt List.mem_singleton.mp absent.1) other
    rw [List.flatMap_singleton] at here
    rw [fitting]
    split
    · rw [List.mem_append, not_or]
      exact ⟨here, ih absent.2 _⟩
    · exact List.not_mem_nil

theorem newline_not_mem_escape (csrPem : Bytes) : 10 ∉ csrPem.flatMap escape := by
  intro inside
  obtain ⟨d, -, written⟩ := List.mem_flatMap.mp inside
  unfold escape at written
  split at written
  next => exact absurd written (by decide)
  next other => exact other (List.mem_singleton.mp written).symm

/-- Up to 4095 bytes are read to their terminator and written without one outside of the
buffer, in one line that is the body of a JSON string for them. -/
theorem csr_escaped_complete {csrPem : Bytes} (writable : ∀ b ∈ csrPem, Writable b)
    (short : csrPem.length ≤ 4095) {buffer : Bytes} (size : buffer.length = 8192)
    (behind : Bytes) :
    ∃ written, csrEscaped (csrPem ++ 0 :: behind) buffer = some (0 :: behind, written) ∧
      written.length = 8192 ∧ 10 ∉ cString written ∧
      stringRest (latin1 (cString written) ++ ['"']) = some (.ofList (latin1 csrPem), []) ∧
      ∀ cs, csrPem = encode cs →
        ∃ t, cString written = encode t ∧ stringRest (t ++ ['"']) = some (.ofList cs, []) := by
  have noNul : 0 ∉ csrPem := by
    intro inside
    rcases writable 0 inside with newline | ⟨printable, -⟩
    · exact absurd newline (by decide)
    · exact absurd printable (by decide)
  have room : ([] : Bytes).length + 2 * csrPem.length ≤ 8190 := by
    rw [List.length_nil]
    omega
  obtain ⟨unread, more, bound, size', read, run⟩ :=
    escapeLoop_fitting noNul behind [] (Nat.zero_le _) size
  rw [fitting_all room, List.nil_append] at bound size' run
  rw [read room] at run
  rw [List.length_append] at size'
  cases more with
  | nil =>
    rw [List.length_nil] at size'
    omega
  | cons old more =>
    have text : cString (csrPem.flatMap escape ++ 0 :: more) = csrPem.flatMap escape :=
      cString_terminated (not_mem_flatMap_escape noNul (by decide)) more
    refine ⟨csrPem.flatMap escape ++ 0 :: more, ?_, ?_, ?_, ?_, ?_⟩
    · unfold csrEscaped
      simp only [List.length_nil, List.nil_append] at run
      rw [run]
      simp only [Option.bind_eq_bind, Option.bind_some, store_next]
    · rw [List.length_append]
      exact size'
    · rw [text]
      exact newline_not_mem_escape csrPem
    · rw [text]
      exact stringRest_spells (spells_latin1 writable) []
    · rintro cs rfl
      obtain ⟨t, bytes, spelled⟩ := spells_utf8 writable
      rw [text]
      exact ⟨t, bytes, stringRest_spells spelled []⟩

/-- The worst case. -/
theorem newlines_fit : ∃ written,
    csrEscaped (List.replicate 4095 10 ++ [0]) (List.replicate 8192 0) = some ([0], written) ∧
      written.length = 8192 ∧ 10 ∉ cString written := by
  have writable : ∀ b ∈ List.replicate 4095 (10 : UInt8), Writable b :=
    fun b hb => Or.inl (List.eq_of_mem_replicate hb)
  have room : (List.replicate 8192 (0 : UInt8)).length = 8192 := List.length_replicate
  obtain ⟨written, run, size, line, -⟩ := csr_escaped_complete writable
    (Nat.le_of_eq List.length_replicate) room []
  exact ⟨written, run, size, line⟩

/-! ## On characters -/

theorem fitting_encode {cs : List Char} (ascii : ∀ c ∈ cs, c.toNat < 128) (ei : Nat) :
    fitting ei (encode cs) = encode (EnrollClients.csrEscaped ei cs) := by
  induction cs generalizing ei with
  | nil => rfl
  | cons c cs ih =>
    have hc := ascii c List.mem_cons_self
    have more := ih fun d hd => ascii d (List.mem_cons_of_mem c hd)
    rw [encode_cons, encodeChar_ascii hc, List.singleton_append, fitting, EnrollClients.csrEscaped]
    by_cases early : ei < 8189
    · rw [if_pos early, if_pos early, escape]
      by_cases newline : c = '\n'
      · subst newline
        rw [if_pos rfl]
        exact congrArg (fun rest => 92 :: 110 :: rest) (more (ei + 2))
      · have other : UInt8.ofNat c.toNat ≠ 10 :=
          fun same => newline (Utf8.ofNat_injective hc (by decide) same)
        rw [if_neg newline, if_neg other, encode_cons, encodeChar_ascii hc]
        exact congrArg (UInt8.ofNat c.toNat :: ·) (more (ei + 1))
    · rw [if_neg early, if_neg early]
      rfl

/-- For an ASCII text of any length, the buffer holds what the request is built from. -/
theorem csrEscaped_text {cs : List Char} (ascii : ∀ c ∈ cs, c.toNat < 128)
    (noNul : 0 ∉ encode cs) {buffer : Bytes} (size : buffer.length = 8192) (behind : Bytes) :
    ∃ unread written, csrEscaped (encode cs ++ 0 :: behind) buffer = some (unread, written) ∧
      cString written = encode (EnrollClients.csrEscaped 0 cs) := by
  obtain ⟨unread, more, bound, size', -, run⟩ :=
    escapeLoop_fitting noNul behind [] (Nat.zero_le _) size
  simp only [List.nil_append, List.length_nil] at bound size' run
  rw [List.length_append] at size'
  cases more with
  | nil =>
    rw [List.length_nil] at size'
    omega
  | cons old more =>
    rw [fitting_encode ascii] at run
    have absent : 0 ∉ fitting 0 (encode cs) := not_mem_fitting noNul (by decide) 0
    rw [fitting_encode ascii] at absent
    refine ⟨unread ++ 0 :: behind, encode (EnrollClients.csrEscaped 0 cs) ++ 0 :: more, ?_,
      cString_terminated absent more⟩
    unfold csrEscaped
    rw [run]
    simp only [Option.bind_eq_bind, Option.bind_some, store_next]

end CompleteDeviceManagement.Guarantees.CsrEscaping
