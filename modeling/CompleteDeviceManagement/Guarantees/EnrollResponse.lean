import CompleteDeviceManagement.Guarantees.DeviceEnrollment
import CompleteDeviceManagement.Library.JsonKeys

/-!
# The certificate a FreeRTOS device takes from the response

`json_get_string` looks for the key anywhere in the text and unescapes what fits into
8191 bytes; a second loop unescapes newlines once more. So a string is taken as it is
if it is the first of its key, is short enough and has no literal `\n`.
-/

set_option autoImplicit false

namespace CompleteDeviceManagement.Guarantees.EnrollResponse
open CompleteDeviceManagement.Library CompleteDeviceManagement.Library.Utf8
  CompleteDeviceManagement.Library.JsonKeys CompleteDeviceManagement.Source.Enroll
  CompleteDeviceManagement.Guarantees.DeviceEnrollment
open CompleteDeviceManagement.Library.JsonText (Text Style shortEscape)
open CompleteDeviceManagement.Library.Search (after after_encode)

/-! ## The loop of json_get_string -/

theorem snprintf_fits {size : Nat} {text : Bytes} (short : text.length ≤ size - 1) :
    snprintf size text = text := List.take_of_length_le short

theorem copyValue_quote (room : Nat) (rest : Bytes) : copyValue room (34 :: rest) = [] := by
  cases room with
  | zero => rfl
  | succ room => rfl

theorem copyValue_newline (room : Nat) (rest : Bytes) :
    copyValue (room + 1) (92 :: 110 :: rest) = 10 :: copyValue room rest := rfl

theorem copyValue_backslash (room : Nat) (rest : Bytes) :
    copyValue (room + 1) (92 :: 92 :: rest) = 92 :: copyValue room rest := rfl

theorem copyValue_other (room : Nat) {c d : UInt8} (newline : d ≠ 110) (backslash : d ≠ 92)
    (quote : c ≠ 34) (rest : Bytes) :
    copyValue (room + 1) (c :: d :: rest) = c :: copyValue room (d :: rest) := by
  rw [copyValue, if_neg quote]
  · intro _ _ found
    exact newline (List.cons.inj found).1
  · intro _ _ found
    exact backslash (List.cons.inj found).1

theorem copyValue_plain (room : Nat) {c : UInt8} (backslash : c ≠ 92) (quote : c ≠ 34)
    (rest : Bytes) : copyValue (room + 1) (c :: rest) = c :: copyValue room rest := by
  rw [copyValue, if_neg quote]
  · intro _ same _
    exact backslash same
  · intro _ same _
    exact backslash same

/-- What stands behind the closing quote does not matter. -/
theorem copyValue_closed (room : Nat) (front rest : Bytes) :
    copyValue room (front ++ 34 :: rest) = copyValue room (front ++ [34]) := by
  induction room generalizing front with
  | zero => rfl
  | succ room ih =>
    cases front with
    | nil => rw [List.nil_append, List.nil_append, copyValue_quote, copyValue_quote]
    | cons c front =>
      by_cases quote : c = 34
      · rw [quote, List.cons_append, List.cons_append, copyValue_quote, copyValue_quote]
      · by_cases backslash : c = 92
        · subst backslash
          cases front with
          | nil =>
            have stop : ∀ more, copyValue (room + 1) (92 :: 34 :: more) = [92] := by
              intro more
              rw [copyValue_other room (by decide) (by decide) (by decide), copyValue_quote]
            exact (stop rest).trans (stop []).symm
          | cons d front =>
            have later := ih (d :: front)
            by_cases newline : d = 110
            · subst newline
              exact congrArg (10 :: ·) (ih front)
            · by_cases backslash : d = 92
              · subst backslash
                exact congrArg (92 :: ·) (ih front)
              · rw [List.cons_append, List.cons_append, List.cons_append, List.cons_append,
                  copyValue_other room newline backslash (by decide),
                  copyValue_other room newline backslash (by decide)]
                exact congrArg (92 :: ·) later
        · rw [List.cons_append, List.cons_append, copyValue_plain room backslash quote,
            copyValue_plain room backslash quote, ih front]

/-! ## The second loop -/

theorem unescapeNewlines_cons {c d : UInt8} (other : c ≠ 92 ∨ d ≠ 110) (rest : Bytes) :
    unescapeNewlines (c :: d :: rest) = c :: unescapeNewlines (d :: rest) := by
  rw [unescapeNewlines]
  intro _ same found
  rcases other with h | h
  · exact h same
  · exact h (List.cons.inj found).1

theorem length_unescapeNewlines (text : Bytes) :
    (unescapeNewlines text).length ≤ text.length ∧
      ([92, 110] <:+: text → (unescapeNewlines text).length < text.length) := by
  fun_induction unescapeNewlines text with
  | case1 => exact ⟨Nat.le_refl _, fun found => absurd (List.infix_nil.mp found) (by simp)⟩
  | case2 rest ih =>
    simp only [List.length_cons]
    have shorter := ih.1
    exact ⟨by omega, fun _ => by omega⟩
  | case3 c rest other ih =>
    simp only [List.length_cons]
    refine ⟨by have shorter := ih.1; omega, ?_⟩
    intro found
    rcases List.infix_cons_iff.mp found with begins | later
    · obtain ⟨more, split⟩ := begins
      obtain ⟨rfl, behind⟩ := List.cons.inj split
      exact absurd behind.symm (other more rfl)
    · have shorter := ih.2 later
      omega

theorem unescapeNewlines_eq_iff (text : Bytes) :
    unescapeNewlines text = text ↔ ¬ [92, 110] <:+: text := by
  constructor
  · intro same found
    have shorter := (length_unescapeNewlines text).2 found
    rw [same] at shorter
    exact Nat.lt_irrefl _ shorter
  · intro absent
    fun_induction unescapeNewlines text with
    | case1 => rfl
    | case2 rest ih => exact absurd (List.prefix_append [92, 110] rest).isInfix absent
    | case3 c rest other ih =>
      rw [ih fun found => absent (found.trans (List.suffix_cons c rest).isInfix)]

/-! ## A string of the response -/

/-- Printable ASCII other than the quote, and newlines. -/
def PemText (text : String) : Prop :=
  ∀ c ∈ text.toList, c = '\n' ∨ 32 ≤ c.toNat ∧ c.toNat < 127 ∧ c ≠ '"'

/-- A writer that leaves printable ASCII as it is. -/
def Ordinary (style : Style) : Prop := ∀ c : Char, 32 ≤ c.toNat → c.toNat < 127 → style.plain c

/-- What the two loops make of a string of the response. -/
def taken (style : Style) (s : String) : Bytes :=
  unescapeNewlines (copyValue 8191 (encode (s.toList.flatMap style.spell) ++ [34]))

theorem spell_ordinary {style : Style} (ordinary : Ordinary style) {c : Char}
    (printable : 32 ≤ c.toNat ∧ c.toNat < 127) (quote : c ≠ '"') (backslash : c ≠ '\\') :
    style.spell c = [c] := by
  have short : shortEscape c = none := by
    have code : ∀ d : Char, d.toNat < 32 → c ≠ d := by
      rintro d small rfl
      omega
    rw [shortEscape, if_neg quote, if_neg backslash, if_neg (code '\n' (by decide)),
      if_neg (code '\r' (by decide)), if_neg (code '\t' (by decide)), if_neg (by omega),
      if_neg (by omega)]
  rw [Style.spell, short]
  exact if_pos (ordinary c printable.1 printable.2)

theorem pem_ascii {text : List Char}
    (pem : ∀ c ∈ text, c = '\n' ∨ 32 ≤ c.toNat ∧ c.toNat < 127 ∧ c ≠ '"') :
    ∀ c ∈ text, c.toNat < 128 := by
  intro c hc
  rcases pem c hc with rfl | ⟨-, small, -⟩
  · decide
  · omega

/-- The first loop reads the spelling back, as far as there is room. -/
theorem copyValue_spelled {style : Style} (ordinary : Ordinary style) {text : List Char}
    (pem : ∀ c ∈ text, c = '\n' ∨ 32 ≤ c.toNat ∧ c.toNat < 127 ∧ c ≠ '"') (room : Nat) :
    copyValue room (encode (text.flatMap style.spell) ++ [34]) = (encode text).take room := by
  induction text generalizing room with
  | nil => rw [List.flatMap_nil, encode, List.flatMap_nil, List.nil_append, copyValue_quote,
      List.take_nil]
  | cons c text ih =>
    have rest := ih fun d hd => pem d (List.mem_cons_of_mem c hd)
    have ascii := pem_ascii pem c List.mem_cons_self
    cases room with
    | zero => rfl
    | succ room =>
      rw [List.flatMap_cons, encode_append, List.append_assoc, encode_cons, encodeChar_ascii ascii,
        List.singleton_append, List.take_succ_cons, ← rest room]
      by_cases newline : c = '\n'
      · subst newline
        rfl
      · by_cases backslash : c = '\\'
        · subst backslash
          rfl
        · rcases pem c List.mem_cons_self with same | ⟨low, high, quote⟩
          · exact absurd same newline
          · have code : ∀ d : Char, d.toNat < 128 → c ≠ d →
                UInt8.ofNat c.toNat ≠ UInt8.ofNat d.toNat :=
              fun d small other same => other (ofNat_injective ascii small same)
            rw [spell_ordinary ordinary ⟨low, high⟩ quote backslash, encode_cons,
              encodeChar_ascii ascii]
            exact copyValue_plain room (code '\\' (by decide) backslash)
              (code '"' (by decide) quote) _

/-- A string is taken as it is if it fits and has no literal `\n`. -/
theorem taken_eq_iff {style : Style} (ordinary : Ordinary style) {text : String}
    (pem : PemText text) : taken style text = bytes text ↔
      text.length ≤ 8191 ∧ ¬ "\\n".toList <:+: text.toList := by
  have length : (bytes text).length = text.length := by
    rw [bytes, encode_ascii (pem_ascii pem), List.length_map, String.length_toList]
  have letters : [92, 110] = encode "\\n".toList := by decide
  have newline : [92, 110] <:+: bytes text ↔ "\\n".toList <:+: text.toList := by
    rw [letters]
    exact Search.infix_encode (by decide) (by decide) text.toList
  have looped : taken style text = unescapeNewlines ((bytes text).take 8191) :=
    congrArg unescapeNewlines (copyValue_spelled ordinary pem 8191)
  rw [looped]
  constructor
  · intro same
    have shorter := (length_unescapeNewlines ((bytes text).take 8191)).1
    have taken := List.length_take_le 8191 (bytes text)
    rw [same] at shorter
    have fits : (bytes text).length ≤ 8191 := Nat.le_trans shorter taken
    rw [List.take_of_length_le fits, unescapeNewlines_eq_iff, newline] at same
    exact ⟨length ▸ fits, same⟩
  · rintro ⟨fits, absent⟩
    rw [List.take_of_length_le (length ▸ fits), unescapeNewlines_eq_iff, newline]
    exact absent

/-! ## The response -/

theorem not_mem_encode {text : List Char} (printable : ∀ c ∈ text, 32 ≤ c.toNat) :
    0 ∉ encode text := by
  intro inside
  obtain ⟨c, hc, hb⟩ := List.mem_flatMap.mp inside
  have large := printable c hc
  by_cases ascii : c.toNat < 128
  · rw [encodeChar_ascii ascii, List.mem_singleton] at hb
    have code := congrArg UInt8.toNat hb
    rw [UInt8.toNat_ofNat'] at code
    have zero : (0 : UInt8).toNat = 0 := rfl
    omega
  · have high := encodeChar_high (Nat.le_of_not_lt ascii) 0 hb
    exact absurd high (by decide)

def stringOf : Option Json → Option String
  | some (.str s) => some s
  | _ => none

theorem stringAt_other (outSz : Nat) {c : UInt8} (blank : c ≠ 32) (quote : c ≠ 34)
    (rest : Bytes) : stringAt outSz (c :: rest) = none := by
  have kept : (c :: rest).dropWhile (· = 32) = c :: rest :=
    List.dropWhile_cons_of_neg (by simpa using blank)
  rw [stringAt, kept]
  split
  next same => exact absurd (List.cons.inj same).1 quote
  next => rfl

/-- `json_get_string` on a compact text: the first value of the key, if it is a string. -/
theorem jsonGetString_compact {style : Style} (name : Name style) {key : String}
    (same : name.text = key.toList) (short : (bytes key).length ≤ 124) {v : Json}
    (numeric : Numeric v) (outSz : Nat) :
    jsonGetString ((encode (compact style v)).takeWhile (· ≠ 0)) key outSz =
      (stringOf (find name v)).map fun s =>
        copyValue (outSz - 1) (encode (s.toList.flatMap style.spell) ++ [34]) := by
  have whole : (encode (compact style v)).takeWhile (· ≠ 0) = encode (compact style v) := by
    rw [List.takeWhile_eq_self_iff]
    intro b hb
    rw [decide_eq_true_eq]
    rintro rfl
    exact not_mem_encode (compact_printable style v numeric) hb
  have ascii : ∀ c ∈ name.pattern, c.toNat < 128 := by
    intro c hc
    rcases List.mem_cons.mp hc with rfl | hc
    · decide
    · rcases List.mem_append.mp hc with hc | hc
      · exact (name.letters c hc).1
      · have ends : ∀ c ∈ ['"', ':'], c.toNat < 128 := by decide
        exact ends c hc
  have fits : (34 :: bytes key ++ [34, 58]).length ≤ 128 - 1 := by
    simp only [List.length_append, List.length_cons, List.length_nil]
    omega
  have pattern : snprintf 128 (34 :: bytes key ++ [34, 58]) = encode name.pattern := by
    rw [snprintf_fits fits, bytes, ← same, Name.pattern, encode_cons, encode_append]
    rfl
  have search := after_encode (by simp [Name.pattern]) ascii (compact style v)
  have finds := finds_compact name v numeric [] (fun c h => by cases h)
  rw [List.append_nil] at finds
  rw [jsonGetString, whole, pattern, search]
  cases hfound : find name v with
  | none =>
    rw [hfound] at finds
    have absent : after name.pattern (compact style v) = none := Eq.trans finds rfl
    rw [absent]
    rfl
  | some w =>
    rw [hfound] at finds
    obtain ⟨numeric', more, found⟩ := finds
    rw [found, Option.map_some, Option.bind_some]
    rcases compact_head style numeric' with ⟨s, rfl⟩ | ⟨c, text, begins, small, blank, quote⟩
    · have quoted : encode (compact style (.str s) ++ more) =
          34 :: (encode (s.toList.flatMap style.spell) ++ 34 :: encode more) := by
        rw [compact, Style.quoted, List.append_assoc, List.cons_append, encode_cons, encode_append,
          encode_append]
        rfl
      rw [quoted]
      exact congrArg some (copyValue_closed (outSz - 1) _ _)
    · have code : ∀ d : Char, d.toNat < 128 → c ≠ d →
          UInt8.ofNat c.toNat ≠ UInt8.ofNat d.toNat :=
        fun d small' other same => other (ofNat_injective small small' same)
      have none : stringOf (some w) = none := by
        cases w with
        | str s =>
          rw [compact, Style.quoted, List.cons_append] at begins
          exact absurd (List.cons.inj begins).1.symm quote
        | _ => rfl
      rw [begins, List.cons_append, encode_cons, encodeChar_ascii small, List.singleton_append,
        stringAt_other outSz (code ' ' (by decide) blank) (code '"' (by decide) quote), none]
      rfl

/-- An object with the two strings. -/
structure Response where
  fields : List (String × Json)
  certificate : String
  chain : String
  hasCertificate : Json.field? "certificate" fields = some (.str certificate)
  hasChain : Json.field? "ca_chain" fields = some (.str chain)
  certificatePem : PemText certificate
  chainPem : PemText chain
  numeric : NumericMembers fields

def Response.json (r : Response) : Json := .obj r.fields

/-- The bytes that are sent. -/
def Response.body (style : Style) (r : Response) : Bytes := encode (compact style r.json)

def nameOf {style : Style} (ordinary : Ordinary style) (first : Char) (more : Text)
    (letters : ∀ c ∈ first :: more,
      32 ≤ c.toNat ∧ c.toNat < 127 ∧ c ∉ ['"', '\\', ',', ':', ']', '\x7d']) : Name style where
  first := first
  more := more
  letters := by
    intro c hc
    obtain ⟨low, high, letter⟩ := letters c hc
    refine ⟨by omega, spell_ordinary ordinary ⟨low, high⟩ ?_ ?_, letter⟩
    · rintro rfl
      exact letter (by decide)
    · rintro rfl
      exact letter (by decide)

def certificateName {style : Style} (ordinary : Ordinary style) : Name style :=
  nameOf ordinary 'c' "ertificate".toList (by decide)

def chainName {style : Style} (ordinary : Ordinary style) : Name style :=
  nameOf ordinary 'c' "a_chain".toList (by decide)

/-! ## What is stored -/

/-- `cdm_enroll` fails without a flag, or hands the two texts to `write_file`. -/
def StoresSent (m : Machine) (before : Files) (certificate chain : String) : Prop :=
  let result := cdmEnroll m before
  ((∃ ret, result.ends = .returned ret ∧ ret ≠ 0) ∧
      result.disk.files (m.inCertsDir ".enrolled") = none) ∨
    ∃ keyCall, result.disk.handed = [keyCall, (m.path "device.pem", bytes certificate),
      (m.path "ca-chain.pem", bytes chain)]

/-- The string found first is the text and is taken as it is, or is another one of which
the text is left. -/
def Read (style : Style) (found : Option Json) (text : String) : Prop :=
  (stringOf found = some text ∧ text.length ≤ 8191 ∧ ¬ "\\n".toList <:+: text.toList) ∨
    ∃ s, s ≠ text ∧ stringOf found = some s ∧ taken style s = bytes text

theorem read_iff {style : Style} (ordinary : Ordinary style) {found : Option Json} {s text : String}
    (string : stringOf found = some s) (pem : PemText text) :
    Read style found text ↔ taken style s = bytes text := by
  unfold Read
  rw [string]
  by_cases same : s = text
  · subst same
    rw [taken_eq_iff ordinary pem]
    simp
  · constructor
    · rintro (⟨other, -⟩ | ⟨s', -, same', left⟩)
      · exact absurd (Option.some.inj other) same
      · rw [Option.some.inj same']
        exact left
    · intro left
      exact Or.inr ⟨s, same, rfl, left⟩

theorem certificateName_text {style : Style} (ordinary : Ordinary style) :
    (certificateName ordinary).text = "certificate".toList := by
  have letters : 'c' :: "ertificate".toList = "certificate".toList := by decide
  exact letters

theorem chainName_text {style : Style} (ordinary : Ordinary style) :
    (chainName ordinary).text = "ca_chain".toList := by
  have letters : 'c' :: "a_chain".toList = "ca_chain".toList := by decide
  exact letters

theorem pemOf_response {style : Style} (name : Name style) {key : String}
    (same : name.text = key.toList) (short : (bytes key).length ≤ 124) (r : Response) :
    pemOf (r.body style) key = (stringOf (find name r.json)).map (taken style) := by
  have found := jsonGetString_compact name same short (v := r.json) r.numeric 8192
  rw [pemOf, Response.body, found, Option.map_map]
  rfl

/-- The device stores what was sent if and only if one of the first values is no string,
or both are taken as they are. -/
theorem sent_iff {style : Style} (ordinary : Ordinary style) (r : Response) (m : Machine)
    (before : Files) (absent : before (m.inCertsDir ".enrolled") = none) (asks : Asks m before)
    (answer : m.curlInit = true ∧ m.transfer = .answered 200 (some (r.body style))) :
    StoresSent m before r.certificate r.chain ↔
      stringOf (find (certificateName ordinary) r.json) = none ∨
        stringOf (find (chainName ordinary) r.json) = none ∨
          (Read style (find (certificateName ordinary) r.json) r.certificate ∧
            Read style (find (chainName ordinary) r.json) r.chain) := by
  have crt := pemOf_response (certificateName ordinary) (certificateName_text ordinary)
    (by decide +kernel) r
  have ca := pemOf_response (chainName ordinary) (chainName_text ordinary) (by decide +kernel) r
  have failed : (cdmEnroll m before) = ⟨.returned (-1), keyWritten m before⟩ →
      StoresSent m before r.certificate r.chain := by
    intro ends
    left
    rw [ends]
    exact ⟨⟨-1, rfl, by decide⟩, stored_untouched.trans absent⟩
  have run := cdmEnroll_persist asks answer
  rw [persist] at run
  cases hcrt : stringOf (find (certificateName ordinary) r.json) with
  | none =>
    rw [hcrt, Option.map_none] at crt
    rw [crt] at run
    exact ⟨fun _ => Or.inl rfl, fun _ => failed run⟩
  | some s =>
    rw [hcrt, Option.map_some] at crt
    cases hca : stringOf (find (chainName ordinary) r.json) with
    | none =>
      rw [hca, Option.map_none] at ca
      rw [crt, ca] at run
      exact ⟨fun _ => Or.inr (Or.inl rfl), fun _ => failed run⟩
    | some t =>
      rw [hca, Option.map_some] at ca
      rw [crt, ca] at run
      have ends : (cdmEnroll m before).ends = .returned 0 := by rw [run]
      have handed : (cdmEnroll m before).disk.handed =
          [(m.path "device-key.pem", m.mbedtls.keyPem), (m.path "device.pem", taken style s),
            (m.path "ca-chain.pem", taken style t)] := by
        rw [run]
        simp only [writeFile_handed, keyWritten]
        rfl
      rw [read_iff ordinary hcrt r.certificatePem, read_iff ordinary hca r.chainPem]
      constructor
      · rintro (⟨⟨ret, returned, nonzero⟩, -⟩ | ⟨keyCall, same⟩)
        · rw [ends] at returned
          exact absurd (End.returned.inj returned).symm nonzero
        · rw [handed] at same
          simp only [List.cons.injEq, Prod.mk.injEq, true_and, and_true] at same
          exact Or.inr (Or.inr ⟨same.2.1, same.2.2⟩)
      · rintro (none | none | ⟨certificate, chain⟩)
        · cases none
        · cases none
        · refine Or.inr ⟨(m.path "device-key.pem", m.mbedtls.keyPem), ?_⟩
          rw [handed, certificate, chain]

/-! ## A chain with a literal newline escape -/

theorem unicode_ordinary : Ordinary .unicode := by
  intro c low _
  simpa [Style.unicode] using low

theorem pemText_of_all {text : String}
    (all : text.toList.all (fun c => c = '\n' ∨ 32 ≤ c.toNat ∧ c.toNat < 127 ∧ c ≠ '"') = true) :
    PemText text := by
  intro c hc
  exact of_decide_eq_true (List.all_eq_true.mp all c hc)

/-- `{"certificate":"CRT\n","ca_chain":…}` -/
def responseOf (chain : String) (pem : PemText chain) : Response where
  fields := [("certificate", .str "CRT\n"), ("ca_chain", .str chain)]
  certificate := "CRT\n"
  chain := chain
  hasCertificate := rfl
  hasChain := rfl
  certificatePem := pemText_of_all (by decide)
  chainPem := pem
  numeric := ⟨trivial, trivial, trivial⟩

theorem chain_stored : StoresSent (device (some 3)
    ((responseOf "CA\n" (pemText_of_all (by decide))).body .unicode)) noFiles "CRT\n" "CA\n" := by
  refine (sent_iff unicode_ordinary (responseOf "CA\n" (pemText_of_all (by decide))) _ noFiles rfl
    (device_asks _ _) (device_answer _ _)).mpr (Or.inr (Or.inr ⟨?_, ?_⟩))
  · exact Or.inl ⟨by decide +kernel, by decide, by decide⟩
  · exact Or.inl ⟨by decide +kernel, by decide, by decide⟩

/-- A backslash and an `n` in the chain become a newline, and the run does not fail. -/
theorem escape_unescaped_twice :
    (cdmEnroll (device (some 3) ((responseOf "C\\n" (pemText_of_all (by decide))).body .unicode))
        noFiles).disk.handed.map Prod.snd = [bytes "KEY", bytes "CRT\n", bytes "C\n"] ∧
      ¬ StoresSent (device (some 3)
        ((responseOf "C\\n" (pemText_of_all (by decide))).body .unicode)) noFiles
        "CRT\n" "C\\n" := by
  have handed : (cdmEnroll (device (some 3)
      ((responseOf "C\\n" (pemText_of_all (by decide))).body .unicode))
        noFiles).disk.handed.map Prod.snd = [bytes "KEY", bytes "CRT\n", bytes "C\n"] := by
    decide +kernel
  have ends : (cdmEnroll (device (some 3)
      ((responseOf "C\\n" (pemText_of_all (by decide))).body .unicode)) noFiles).ends =
        .returned 0 := by
    decide +kernel
  refine ⟨handed, ?_⟩
  rintro (⟨⟨ret, returned, nonzero⟩, -⟩ | ⟨keyCall, same⟩)
  · rw [ends] at returned
    exact nonzero (End.returned.inj returned).symm
  · rw [same] at handed
    simp only [List.map_cons, List.cons.injEq] at handed
    exact absurd handed.2.2.1 (by decide)

end CompleteDeviceManagement.Guarantees.EnrollResponse
