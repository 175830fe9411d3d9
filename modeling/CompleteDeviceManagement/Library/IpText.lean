import CompleteDeviceManagement.Library.IpAddress
import Mathlib.Data.List.Induction
import Mathlib.Tactic.IntervalCases
import Mathlib.Tactic.Ring

/-!
# The text of internet addresses

Dotted quads, and groups of hexadecimal digits whose first longest run of zeros
is written `::`; an IPv4-mapped address ends in a dotted quad and a scope id
follows a `%`. The reader accepts more forms than the writer produces. Reading
what was written gives the address back (`ofText_text`).
-/

set_option autoImplicit false

namespace CompleteDeviceManagement.Library

namespace IpText

/-! ## Digits -/

def digitValue (base : Nat) (c : Char) : Option Nat :=
  let value :=
    if '0' ≤ c ∧ c ≤ '9' then some (c.toNat - '0'.toNat)
    else if 'a' ≤ c ∧ c ≤ 'f' then some (c.toNat - 'a'.toNat + 10)
    else if 'A' ≤ c ∧ c ≤ 'F' then some (c.toNat - 'A'.toNat + 10)
    else none
  value.filter fun d => d < base

def digitsValue (base : Nat) (cs : List Char) : Option Nat :=
  cs.foldlM (fun acc c => (digitValue base c).map fun d => base * acc + d) 0

theorem digitValue_digitChar {base d : Nat} (hb : base ≤ 16) (hd : d < base) :
    digitValue base d.digitChar = some d := by
  have raw : digitValue 16 d.digitChar = some d := by
    have h16 : d < 16 := by omega
    interval_cases d <;> decide
  unfold digitValue at raw ⊢
  simp only [Option.filter_eq_some_iff, decide_eq_true_eq] at raw ⊢
  exact ⟨raw.1, hd⟩

/-- Reading the digits of a number gives the number. -/
theorem digitsValue_toDigits {base : Nat} (h1 : 1 < base) (h16 : base ≤ 16) (n : Nat) :
    digitsValue base (Nat.toDigits base n) = some n := by
  induction n using Nat.strong_induction_on with
  | _ n ih =>
    by_cases hn : n < base
    · rw [Nat.toDigits_of_lt_base hn]
      simp [digitsValue, digitValue_digitChar h16 hn]
    · have hsmaller : n / base < n := Nat.div_lt_self (by omega) h1
      rw [Nat.toDigits_of_base_le h1 (by omega)]
      have hprefix := ih (n / base) hsmaller
      unfold digitsValue at hprefix ⊢
      rw [List.foldlM_append, hprefix]
      simp [digitValue_digitChar h16 (Nat.mod_lt n (by omega)), Nat.div_add_mod]

theorem not_mem_toDigits {base : Nat} (h1 : 1 < base) (h16 : base ≤ 16) (n : Nat) {c : Char}
    (hc : digitValue 16 c = none) : c ∉ Nat.toDigits base n := by
  induction n using Nat.strong_induction_on with
  | _ n ih =>
    have digit : ∀ d, d < base → c ≠ d.digitChar := by
      rintro d hd rfl
      rw [digitValue_digitChar (Nat.le_refl 16) (by omega)] at hc
      cases hc
    by_cases hn : n < base
    · rw [Nat.toDigits_of_lt_base hn, List.mem_singleton]
      exact digit n hn
    · rw [Nat.toDigits_of_base_le h1 (by omega), List.mem_append, List.mem_singleton]
      rintro (h | h)
      · exact ih (n / base) (Nat.div_lt_self (by omega) h1) h
      · exact digit _ (Nat.mod_lt n (by omega)) h

/-! ## Dotted quads -/

def octets (ip : BitVec 32) : List Nat :=
  [ip.toNat / 2 ^ 24 % 256, ip.toNat / 2 ^ 16 % 256, ip.toNat / 2 ^ 8 % 256, ip.toNat % 256]

def v4Text (ip : BitVec 32) : List Char :=
  ['.'].intercalate ((octets ip).map (Nat.toDigits 10))

/-- One to three digits, no leading zero, at most 255. -/
def parseOctet (cs : List Char) : Option Nat :=
  if cs = [] ∨ 3 < cs.length ∨ (cs ≠ ['0'] ∧ cs.head? = some '0') then none
  else (digitsValue 10 cs).filter fun octet => octet ≤ 255

def v4OfText (cs : List Char) : Option (BitVec 32) :=
  match cs.splitOn '.' with
  | [p, q, r, s] => do
      let a ← parseOctet p
      let b ← parseOctet q
      let c ← parseOctet r
      let d ← parseOctet s
      some (BitVec.ofNat 32 (((a * 256 + b) * 256 + c) * 256 + d))
  | _ => none

theorem parseOctet_toDigits : ∀ octet < 256, parseOctet (Nat.toDigits 10 octet) = some octet := by
  decide +kernel

theorem splitOn_v4Text (ip : BitVec 32) :
    (v4Text ip).splitOn '.' = (octets ip).map (Nat.toDigits 10) := by
  unfold v4Text
  refine List.splitOn_intercalate '.' ?_ (by simp [octets])
  intro part hpart
  obtain ⟨octet, -, rfl⟩ := List.mem_map.mp hpart
  exact not_mem_toDigits (by omega) (by omega) octet (by decide)

theorem v4OfText_v4Text (ip : BitVec 32) : v4OfText (v4Text ip) = some ip := by
  have octet : ∀ n, parseOctet (Nat.toDigits 10 (n % 256)) = some (n % 256) := fun n =>
    parseOctet_toDigits _ (Nat.mod_lt n (by omega))
  unfold v4OfText
  rw [splitOn_v4Text]
  simp only [octets, List.map_cons, List.map_nil, octet, Option.bind_eq_bind, Option.bind_some,
    Option.some.injEq]
  apply BitVec.eq_of_toNat_eq
  have hlt := ip.isLt
  rw [BitVec.toNat_ofNat]
  omega

/-! ## Groups of sixteen bits -/

/-- The eight groups of an address, most significant first. -/
def hextets (ip : BitVec 128) : List Nat :=
  (List.range 8).map fun i => ip.toNat / 65536 ^ (7 - i) % 65536

def hextetText (hextet : Nat) : List Char := Nat.toDigits 16 hextet

/-- At most four hexadecimal digits; the empty text is not a number. -/
def parseHextet (cs : List Char) : Option Nat :=
  if cs = [] ∨ 4 < cs.length then none else digitsValue 16 cs

theorem parseHextet_hextetText {hextet : Nat} (h : hextet < 65536) :
    parseHextet (hextetText hextet) = some hextet := by
  have hlength : (Nat.toDigits 16 hextet).length ≤ 4 := by
    rw [Nat.length_toDigits_le_iff (by omega) (by omega)]
    omega
  unfold parseHextet hextetText
  rw [if_neg, digitsValue_toDigits (by omega) (by omega)]
  rintro (hempty | hlong)
  · exact Nat.toDigits_ne_nil hempty
  · omega

/-! ## Writing: the longest run of zeros -/

/-- The scan over the groups: the run in progress and the best one so far. -/
structure ZeroScan where
  bestStart : Nat
  bestLen : Nat
  start : Option Nat
  len : Nat

def ZeroScan.next (s : ZeroScan) (index : Nat) (part : List Char) : ZeroScan :=
  if part = ['0'] then
    let start := s.start.getD index
    let len := s.len + 1
    if len > s.bestLen then ⟨start, len, some start, len⟩
    else ⟨s.bestStart, s.bestLen, some start, len⟩
  else ⟨s.bestStart, s.bestLen, none, 0⟩

def zeroScan (parts : List (List Char)) : ZeroScan :=
  parts.zipIdx.foldl (fun s part => s.next part.2 part.1) ⟨0, 0, none, 0⟩

/-- Replace the best run, if it is longer than one, by an empty part; at either
end of the address one more empty part stands for the outer colon. -/
def compressHextets (parts : List (List Char)) : List (List Char) :=
  let best := zeroScan parts
  if best.bestLen > 1 then
    let stop := best.bestStart + best.bestLen
    (if best.bestStart = 0 then [[]] else []) ++ parts.take best.bestStart ++ [[]] ++
      parts.drop stop ++ (if stop = parts.length then [[]] else [])
  else parts

def stringFromIpInt (ip : BitVec 128) : List Char :=
  [':'].intercalate (compressHextets ((hextets ip).map hextetText))

/-- The IPv4 address inside an IPv4-mapped address. -/
def ipv4Mapped (ip : BitVec 128) : Option (BitVec 32) :=
  if ip.toNat / 2 ^ 32 = 0xFFFF then some (BitVec.ofNat 32 ip.toNat) else none

def v6Text (ip : BitVec 128) : List Char :=
  match ipv4Mapped ip with
  | some mapped =>
      stringFromIpInt (BitVec.ofNat 128 (ip.toNat / 2 ^ 32)) ++ ':' :: v4Text mapped
  | none => stringFromIpInt ip

/-! ## Reading -/

/-- The empty part strictly between the endpoints, if there is exactly one. -/
def skipIndex : List (List Char) → Nat → Option Nat → Option (Option Nat)
  | [], _, skip => some skip
  | [_], _, skip => some skip
  | part :: next :: rest, index, skip =>
      if part = [] then
        match skip with
        | some _ => none
        | none => skipIndex (next :: rest) (index + 1) (some index)
      else skipIndex (next :: rest) (index + 1) skip

def hextetsValue (acc : Nat) (parts : List (List Char)) : Option Nat :=
  parts.foldlM (fun acc part => (parseHextet part).map fun hextet => acc * 65536 + hextet) acc

def v6OfParts (parts : List (List Char)) : Option Nat := do
  match ← skipIndex (parts.drop 1) 1 none with
  | some skip =>
      let opens := parts.head? = some []
      let closes := parts.getLast? = some []
      let partsHi := if opens then skip - 1 else skip
      let partsLo :=
        if closes then parts.length - skip - 1 - 1 else parts.length - skip - 1
      if (opens ∧ partsHi ≠ 0) ∨ (closes ∧ partsLo ≠ 0) then none
      else if 8 < partsHi + partsLo + 1 then none
      else do
        let hi ← hextetsValue 0 (parts.take partsHi)
        hextetsValue (hi * 65536 ^ (8 - (partsHi + partsLo)))
          (parts.drop (parts.length - partsLo))
  | none =>
      if parts.length ≠ 8 ∨ parts.head? = some [] ∨ parts.getLast? = some [] then none
      else hextetsValue 0 parts

/-- Groups that are numbers, written out. -/
def Groups (vs : List Nat) : Prop := ∀ v ∈ vs, v < 65536

def valueOf (acc : Nat) (vs : List Nat) : Nat := vs.foldl (fun acc v => acc * 65536 + v) acc

theorem hextetText_ne_nil (v : Nat) : hextetText v ≠ [] := Nat.toDigits_ne_nil

theorem hextetsValue_text {vs : List Nat} (h : Groups vs) (acc : Nat) :
    hextetsValue acc (vs.map hextetText) = some (valueOf acc vs) := by
  induction vs generalizing acc with
  | nil => rfl
  | cons v vs ih =>
    have hv := parseHextet_hextetText (h v (by simp))
    have hrest := ih (fun w hw => h w (List.mem_cons_of_mem v hw)) (acc * 65536 + v)
    unfold hextetsValue at hrest ⊢
    rw [List.map_cons, List.foldlM_cons, hv]
    exact hrest

theorem skipIndex_cons {part : List Char} {rest : List (List Char)} (hpart : part ≠ [])
    (hrest : rest ≠ []) (index : Nat) (skip : Option Nat) :
    skipIndex (part :: rest) index skip = skipIndex rest (index + 1) skip := by
  cases rest with
  | nil => exact absurd rfl hrest
  | cons next rest => simp only [skipIndex, if_neg hpart]

theorem skipIndex_text (vs : List Nat) (index : Nat) (skip : Option Nat) :
    skipIndex (vs.map hextetText) index skip = some skip := by
  induction vs generalizing index with
  | nil => rfl
  | cons v vs ih =>
    cases vs with
    | nil => rfl
    | cons w vs =>
      rw [List.map_cons, skipIndex_cons (hextetText_ne_nil v) (by simp)]
      exact ih (index + 1)

theorem skipIndex_text_append (vs : List Nat) {rest : List (List Char)} (hrest : rest ≠ [])
    (index : Nat) (skip : Option Nat) :
    skipIndex (vs.map hextetText ++ rest) index skip =
      skipIndex rest (index + vs.length) skip := by
  induction vs generalizing index with
  | nil => rfl
  | cons v vs ih =>
    rw [List.map_cons, List.cons_append,
      skipIndex_cons (hextetText_ne_nil v) (by simp [hrest]), ih (index + 1), List.length_cons]
    congr 1
    omega

theorem head?_text (vs : List Nat) : (vs.map hextetText).head? ≠ some [] := by
  cases vs with
  | nil => simp
  | cons v vs => simp [hextetText_ne_nil]

theorem getLast?_text (vs : List Nat) : (vs.map hextetText).getLast? ≠ some [] := by
  rw [List.getLast?_map]
  intro h
  obtain ⟨v, -, hv⟩ := Option.map_eq_some_iff.mp h
  exact hextetText_ne_nil v hv

/-- All eight groups. -/
theorem v6OfParts_full {vs : List Nat} (h : Groups vs) (hlength : vs.length = 8) :
    v6OfParts (vs.map hextetText) = some (valueOf 0 vs) := by
  have hskip : skipIndex ((vs.map hextetText).drop 1) 1 none = some none := by
    rw [← List.map_drop]
    exact skipIndex_text _ 1 none
  unfold v6OfParts
  rw [hskip, Option.bind_eq_bind, Option.bind_some]
  simp only
  rw [if_neg, hextetsValue_text h]
  rintro (hlong | hfirst | hlast)
  · exact hlong (by simpa using hlength)
  · exact head?_text vs hfirst
  · exact getLast?_text vs hlast

/-- The groups on one side of `::`; a side without groups is the outer colon. -/
def side (vs : List Nat) : List (List Char) := if vs = [] then [[]] else vs.map hextetText

theorem side_ne_nil (vs : List Nat) : side vs ≠ [] := by
  unfold side
  split
  · simp
  next h => simpa using h

theorem side_length (vs : List Nat) : (side vs).length = if vs = [] then 1 else vs.length := by
  unfold side
  split
  · rfl
  · simp

theorem side_length_bounds (vs : List Nat) :
    1 ≤ (side vs).length ∧ ((side vs).length = 1 ∨ (side vs).length = vs.length) := by
  rw [side_length]
  split
  · omega
  next h =>
    have hpos := List.length_pos_of_ne_nil h
    omega

theorem head?_side (vs : List Nat) : (side vs).head? = some [] ↔ vs = [] := by
  unfold side
  split
  next h => simp [h]
  next h => simp only [h, head?_text]

theorem getLast?_side (vs : List Nat) : (side vs).getLast? = some [] ↔ vs = [] := by
  unfold side
  split
  next h => simp [h]
  next h => simp only [h, getLast?_text]

theorem skipIndex_side (vs : List Nat) (index : Nat) (skip : Option Nat) :
    skipIndex (side vs) index skip = some skip := by
  unfold side
  split
  · rfl
  · exact skipIndex_text vs index skip

theorem skipIndex_side_append (hi lo : List Nat) :
    skipIndex ((side hi ++ [] :: side lo).drop 1) 1 none = some (some (side hi).length) := by
  have inner : ∀ index, skipIndex ([] :: side lo) index none = some (some index) := by
    intro index
    obtain ⟨part, rest, hlo⟩ := List.exists_cons_of_ne_nil (side_ne_nil lo)
    have hrest := skipIndex_side lo (index + 1) (some index)
    rw [hlo] at hrest ⊢
    simp only [skipIndex, if_true]
    exact hrest
  cases hi with
  | nil => exact inner 1
  | cons v vs =>
    have hside : side (v :: vs) = hextetText v :: vs.map hextetText := by simp [side]
    rw [hside, List.cons_append, List.drop_one, List.tail_cons,
      skipIndex_text_append _ (by simp), inner, List.length_cons, List.length_map, Nat.add_comm]

theorem take_side (hi : List Nat) (rest : List (List Char)) :
    (side hi ++ rest).take hi.length = hi.map hextetText := by
  unfold side
  split
  next h => simp [h]
  · rw [List.take_append_of_le_length (by simp)]
    simp

theorem drop_side (front : List (List Char)) (lo : List Nat) :
    (front ++ side lo).drop (front.length + (side lo).length - lo.length) =
      lo.map hextetText := by
  rw [side_length]
  split
  next h =>
    subst h
    rw [List.drop_of_length_le]
    · rfl
    · simp [side]
  next h =>
    rw [Nat.add_sub_cancel, List.drop_left]
    simp [side, h]

/-- Groups, `::`, groups, where either side may be missing. -/
theorem v6OfParts_skip {hi lo : List Nat} (hhi : Groups hi) (hlo : Groups lo)
    (hlength : hi.length + lo.length < 8) :
    v6OfParts (side hi ++ [] :: side lo) =
      some (valueOf (valueOf 0 hi * 65536 ^ (8 - (hi.length + lo.length))) lo) := by
  have hfirst : (side hi ++ [] :: side lo).head? = some [] ↔ hi = [] := by
    rw [List.head?_append_of_ne_nil _ (side_ne_nil hi), head?_side]
  have hlast : (side hi ++ [] :: side lo).getLast? = some [] ↔ lo = [] := by
    rw [List.getLast?_append_of_ne_nil _ (by simp), List.getLast?_cons_of_ne_nil (side_ne_nil lo),
      getLast?_side]
  have hlen : (side hi ++ [] :: side lo).length = (side hi).length + 1 + (side lo).length := by
    simp
    omega
  have hpartsHi : (if hi = [] then (side hi).length - 1 else (side hi).length) = hi.length := by
    rw [side_length]
    split
    next h => simp [h]
    · rfl
  have hpartsLo : (if lo = [] then (side lo).length - 1 else (side lo).length) = lo.length := by
    rw [side_length]
    split
    next h => simp [h]
    · rfl
  have hrest : (side hi).length + 1 + (side lo).length - (side hi).length - 1 =
      (side lo).length := by omega
  unfold v6OfParts
  rw [skipIndex_side_append, Option.bind_eq_bind, Option.bind_some]
  simp only [hfirst, hlast, hlen, hrest, hpartsHi, hpartsLo]
  rw [if_neg, if_neg (by omega), take_side, hextetsValue_text hhi, Option.bind_eq_bind,
    Option.bind_some]
  · have hdrop := drop_side (side hi ++ [[]]) lo
    rw [List.append_assoc, List.length_append, List.length_singleton] at hdrop
    rw [show side hi ++ [] :: side lo = side hi ++ ([[]] ++ side lo) by rfl, hdrop,
      hextetsValue_text hlo]
  · rintro (⟨rfl, h⟩ | ⟨rfl, h⟩)
    · exact h rfl
    · exact h rfl

/-- A dotted quad in the last part stands for two groups. -/
def expandSuffix (parts : List (List Char)) : Option (List (List Char)) :=
  match parts.getLast? with
  | none => some parts
  | some last =>
      if '.' ∈ last then
        (v4OfText last).map fun ip => parts.dropLast ++
          [hextetText (ip.toNat / 65536 % 65536), hextetText (ip.toNat % 65536)]
      else some parts

def v6IntOfText (cs : List Char) : Option (BitVec 128) := do
  let parts := cs.splitOn ':'
  if parts.length < 3 then none
  else
    let parts ← expandSuffix parts
    if 9 < parts.length then none
    else (v6OfParts parts).map (BitVec.ofNat 128)

/-- The text before the first `%` and the scope id after it. -/
def splitScopeId (cs : List Char) : Option (List Char × Option String) :=
  match cs.splitOn '%' with
  | [address] => some (address, none)
  | [address, scopeId] => if scopeId = [] then none else some (address, some (.ofList scopeId))
  | _ => none

def v6OfText (cs : List Char) : Option IpAddress := do
  let (address, scopeId) ← splitScopeId cs
  let ip ← v6IntOfText address
  some (.v6 ip scopeId)

/-! ## The best run of zeros -/

/-- `count` parts from `start` on are zeros. -/
def ZerosAt (parts : List (List Char)) (start count : Nat) : Prop :=
  ∀ i, start ≤ i → i < start + count → parts[i]? = some ['0']

theorem ZerosAt.append {parts : List (List Char)} {start count : Nat}
    (h : ZerosAt parts start count) (more : List (List Char)) :
    ZerosAt (parts ++ more) start count := by
  intro i hi hlt
  have hpart := h i hi hlt
  obtain ⟨hbound, -⟩ := List.getElem?_eq_some_iff.mp hpart
  rwa [List.getElem?_append_left hbound]

/-- Both the best run and the run in progress consist of zeros, and the run in
progress ends where the scan is. -/
structure ScanOk (parts : List (List Char)) (s : ZeroScan) : Prop where
  best : ZerosAt parts s.bestStart s.bestLen
  fits : s.bestStart + s.bestLen ≤ parts.length
  current : ∀ start, s.start = some start →
    ZerosAt parts start s.len ∧ start + s.len = parts.length
  idle : s.start = none → s.len = 0

theorem zeroScan_ok (parts : List (List Char)) : ScanOk parts (zeroScan parts) := by
  induction parts using List.reverseRecOn with
  | nil => exact ⟨fun i _ h => by simp [zeroScan] at h, by simp [zeroScan],
      by simp [zeroScan], by simp [zeroScan]⟩
  | append_singleton parts part ih =>
    have hscan : zeroScan (parts ++ [part]) = (zeroScan parts).next parts.length part := by
      simp [zeroScan, List.zipIdx_append, List.foldl_append]
    rw [hscan]
    generalize zeroScan parts = s at ih
    obtain ⟨hbest, hfits, hcurrent, hidle⟩ := ih
    have hfits' : s.bestStart + s.bestLen ≤ (parts ++ [part]).length := by
      simp
      omega
    unfold ZeroScan.next
    split
    next hzero =>
      -- the run in progress grows by this part
      have run : ZerosAt (parts ++ [part]) (s.start.getD parts.length) (s.len + 1) ∧
          s.start.getD parts.length + (s.len + 1) = (parts ++ [part]).length := by
        cases hs : s.start with
        | none =>
          rw [hidle hs]
          refine ⟨fun i hi hlt => ?_, by simp⟩
          have : i = parts.length := by
            simp only [Option.getD_none] at hi hlt
            omega
          subst this
          simp [hzero]
        | some start =>
          obtain ⟨hzeros, hend⟩ := hcurrent start hs
          refine ⟨fun i hi hlt => ?_, by simp; omega⟩
          simp only [Option.getD_some] at hi hlt
          by_cases hi' : i < start + s.len
          · exact hzeros.append [part] i hi hi'
          · have : i = parts.length := by omega
            subst this
            simp [hzero]
      dsimp only
      split
      · exact ⟨run.1, Nat.le_of_eq run.2, fun start hs => by
          cases hs; exact run, fun h => by cases h⟩
      · exact ⟨hbest.append [part], hfits', fun start hs => by
          cases hs; exact run, fun h => by cases h⟩
    · exact ⟨hbest.append [part], hfits', fun start hs => (by cases hs), fun _ => rfl⟩

/-- What the run replaces: the groups split into those before it, zeros, and
those after it. -/
theorem split_at_zeros {vs : List Nat} {start count : Nat}
    (h : ZerosAt (vs.map hextetText) start count) (hfits : start + count ≤ vs.length) :
    vs = vs.take start ++ List.replicate count 0 ++ vs.drop (start + count) := by
  have zero : ∀ v, hextetText v = ['0'] → v = 0 := by
    intro v hv
    have hvalue : digitsValue 16 (Nat.toDigits 16 v) = some v :=
      digitsValue_toDigits (by omega) (by omega) v
    unfold hextetText at hv
    rw [hv] at hvalue
    exact (Option.some.inj hvalue).symm
  have middle : (vs.drop start).take count = List.replicate count 0 := by
    rw [List.eq_replicate_iff]
    refine ⟨by simp; omega, fun v hv => ?_⟩
    obtain ⟨i, hi, rfl⟩ := List.getElem_of_mem hv
    simp only [List.length_take, List.length_drop] at hi
    have hpart := h (start + i) (by omega) (by omega)
    rw [List.getElem?_map, List.getElem?_eq_getElem (by omega)] at hpart
    simp only [List.getElem_take, List.getElem_drop]
    exact zero _ (Option.some.inj hpart)
  rw [← middle, List.append_assoc, ← List.drop_drop, List.take_append_drop,
    List.take_append_drop]

theorem valueOf_replicate (acc count : Nat) :
    valueOf acc (List.replicate count 0) = acc * 65536 ^ count := by
  induction count generalizing acc with
  | zero => simp [valueOf]
  | succ count ih =>
    have := ih (acc * 65536)
    unfold valueOf at this ⊢
    rw [List.replicate_succ, List.foldl_cons, Nat.add_zero, this, Nat.pow_succ]
    ring

theorem front_side {vs : List Nat} {start : Nat} (h : start < vs.length) :
    (if start = 0 then [[]] else []) ++ (vs.map hextetText).take start = side (vs.take start) := by
  unfold side
  cases start with
  | zero => simp
  | succ start =>
    have hne : vs.take (start + 1) ≠ [] := by
      cases vs with
      | nil => simp at h
      | cons v vs => simp
    simp [hne]

theorem back_side (vs : List Nat) {stop : Nat} (h : stop ≤ vs.length) :
    (vs.map hextetText).drop stop ++ (if stop = (vs.map hextetText).length then [[]] else []) =
      side (vs.drop stop) := by
  unfold side
  rw [List.length_map]
  by_cases hstop : stop = vs.length
  · simp [hstop]
  · have hne : vs.drop stop ≠ [] := by
      rw [Ne, List.drop_eq_nil_iff]
      omega
    simp [hstop, hne]

theorem v6OfParts_compressHextets {vs : List Nat} (h : Groups vs) (hlength : vs.length = 8) :
    v6OfParts (compressHextets (vs.map hextetText)) = some (valueOf 0 vs) := by
  have scan := zeroScan_ok (vs.map hextetText)
  unfold compressHextets
  generalize zeroScan (vs.map hextetText) = best at scan
  dsimp only
  split
  next hrun =>
    have hfits := scan.fits
    rw [List.length_map] at hfits
    have hsplit := split_at_zeros scan.best hfits
    have hhi : Groups (vs.take best.bestStart) := fun v hv => h v (List.mem_of_mem_take hv)
    have hlo : Groups (vs.drop (best.bestStart + best.bestLen)) := fun v hv =>
      h v (List.mem_of_mem_drop hv)
    have hcount : (vs.take best.bestStart).length +
        (vs.drop (best.bestStart + best.bestLen)).length = 8 - best.bestLen := by
      rw [List.length_take, List.length_drop]
      omega
    have hparts := v6OfParts_skip hhi hlo (by omega)
    rw [front_side (by omega), List.append_assoc, List.append_assoc, back_side vs hfits]
    refine hparts.trans (congrArg some ?_)
    -- the zeros in the middle are the shift between the two sides
    have hshift : 8 - (8 - best.bestLen) = best.bestLen := by omega
    rw [hcount, hshift]
    conv => rhs; rw [hsplit]
    have hmiddle := valueOf_replicate (valueOf 0 (vs.take best.bestStart)) best.bestLen
    unfold valueOf at hmiddle ⊢
    rw [List.foldl_append, List.foldl_append, hmiddle]
  · exact v6OfParts_full h hlength

/-! ## Reading what was written -/

theorem hextets_length (ip : BitVec 128) : (hextets ip).length = 8 := by
  simp [hextets]

theorem hextets_groups (ip : BitVec 128) : Groups (hextets ip) := by
  intro v hv
  obtain ⟨i, -, rfl⟩ := List.mem_map.mp hv
  exact Nat.mod_lt _ (by omega)

theorem valueOf_hextets (ip : BitVec 128) : valueOf 0 (hextets ip) = ip.toNat := by
  have hlt := ip.isLt
  simp only [valueOf, hextets, List.range_succ, List.range_zero]
  simp
  omega

theorem mem_compressHextets {vs : List Nat} {part : List Char}
    (h : part ∈ compressHextets (vs.map hextetText)) :
    part = [] ∨ ∃ v, part = hextetText v := by
  have old : part ∈ vs.map hextetText → ∃ v, part = hextetText v := by
    intro hmem
    obtain ⟨v, -, rfl⟩ := List.mem_map.mp hmem
    exact ⟨v, rfl⟩
  unfold compressHextets at h
  dsimp only at h
  split at h
  · simp only [List.mem_append] at h
    rcases h with (((h | h) | h) | h) | h
    · split at h <;> simp at h
      exact Or.inl h
    · exact Or.inr (old (List.mem_of_mem_take h))
    · exact Or.inl (by simpa using h)
    · exact Or.inr (old (List.mem_of_mem_drop h))
    · split at h <;> simp at h
      exact Or.inl h
  · exact Or.inr (old h)

theorem mem_intercalate {c sep : Char} {parts : List (List Char)}
    (h : c ∈ [sep].intercalate parts) : c = sep ∨ ∃ part ∈ parts, c ∈ part := by
  induction parts with
  | nil => simp [List.intercalate] at h
  | cons part parts ih =>
    cases parts with
    | nil =>
      have hc : c ∈ part := by simpa [List.intercalate] using h
      exact Or.inr ⟨part, by simp, hc⟩
    | cons next rest =>
      rw [List.intercalate_cons_cons, List.append_assoc, List.mem_append, List.mem_append] at h
      rcases h with hpart | hsep | hrest
      · exact Or.inr ⟨part, by simp, hpart⟩
      · exact Or.inl (by simpa using hsep)
      · rcases ih hrest with hsep | ⟨p, hp, hc⟩
        · exact Or.inl hsep
        · exact Or.inr ⟨p, List.mem_cons_of_mem part hp, hc⟩

theorem not_mem_part {ip : BitVec 128} {part : List Char} {c : Char}
    (hc : digitValue 16 c = none)
    (h : part ∈ compressHextets ((hextets ip).map hextetText)) : c ∉ part := by
  rcases mem_compressHextets h with rfl | ⟨v, rfl⟩
  · simp
  · exact not_mem_toDigits (by omega) (by omega) v hc

/-- A character that is neither a colon nor a hexadecimal digit is not written. -/
theorem not_mem_stringFromIpInt (ip : BitVec 128) {c : Char} (hc : digitValue 16 c = none)
    (hcolon : c ≠ ':') : c ∉ stringFromIpInt ip := by
  intro h
  rcases mem_intercalate h with rfl | ⟨part, hpart, hmem⟩
  · exact hcolon rfl
  · exact not_mem_part hc hpart hmem

theorem not_mem_v4Text (ip : BitVec 32) {c : Char} (hc : digitValue 16 c = none)
    (hdot : c ≠ '.') : c ∉ v4Text ip := by
  intro h
  rcases mem_intercalate h with rfl | ⟨part, hpart, hmem⟩
  · exact hdot rfl
  · obtain ⟨octet, -, rfl⟩ := List.mem_map.mp hpart
    exact not_mem_toDigits (by omega) (by omega) octet hc hmem

theorem compressHextets_length {vs : List Nat} (hlength : vs.length = 8) :
    3 ≤ (compressHextets (vs.map hextetText)).length ∧
      (compressHextets (vs.map hextetText)).length ≤ 9 := by
  have scan := zeroScan_ok (vs.map hextetText)
  unfold compressHextets
  generalize zeroScan (vs.map hextetText) = best at scan
  dsimp only
  split
  next hrun =>
    have hfits := scan.fits
    rw [List.length_map] at hfits
    have hcount : (vs.take best.bestStart).length +
        (vs.drop (best.bestStart + best.bestLen)).length ≤ 6 := by
      rw [List.length_take, List.length_drop]
      omega
    have hhi := side_length_bounds (vs.take best.bestStart)
    have hlo := side_length_bounds (vs.drop (best.bestStart + best.bestLen))
    rw [front_side (by omega), List.append_assoc, List.append_assoc, back_side vs hfits,
      List.length_append, List.length_append, List.length_singleton]
    omega
  · rw [List.length_map]
    omega

theorem splitOn_stringFromIpInt (ip : BitVec 128) :
    (stringFromIpInt ip).splitOn ':' = compressHextets ((hextets ip).map hextetText) := by
  refine List.splitOn_intercalate ':' (fun part hpart => not_mem_part (by decide) hpart) ?_
  intro hnil
  have hlength := (compressHextets_length (hextets_length ip)).1
  rw [hnil] at hlength
  simp at hlength

theorem v6IntOfText_stringFromIpInt (ip : BitVec 128) :
    v6IntOfText (stringFromIpInt ip) = some ip := by
  have hlength := compressHextets_length (hextets_length ip)
  have hparts := v6OfParts_compressHextets (hextets_groups ip) (hextets_length ip)
  have hsuffix : expandSuffix (compressHextets ((hextets ip).map hextetText)) =
      some (compressHextets ((hextets ip).map hextetText)) := by
    unfold expandSuffix
    split
    · rfl
    next last hlast =>
      rw [if_neg (not_mem_part (by decide) (List.mem_of_getLast? hlast))]
  unfold v6IntOfText
  rw [splitOn_stringFromIpInt]
  dsimp only
  rw [if_neg (by omega), hsuffix, Option.bind_eq_bind, Option.bind_some, if_neg (by omega), hparts,
    valueOf_hextets]
  simp

theorem v6IntOfText_mapped {ip : BitVec 128} (h : ip.toNat / 2 ^ 32 = 0xFFFF) :
    v6IntOfText (stringFromIpInt (BitVec.ofNat 128 (ip.toNat / 2 ^ 32)) ++
      ':' :: v4Text (BitVec.ofNat 32 ip.toNat)) = some ip := by
  generalize hm : BitVec.ofNat 32 ip.toNat = mapped
  have hsplit : (stringFromIpInt (BitVec.ofNat 128 (ip.toNat / 2 ^ 32)) ++
      ':' :: v4Text mapped).splitOn ':' = [[], [], ['f', 'f', 'f', 'f'], v4Text mapped] := by
    rw [List.splitOn_append_cons_self, splitOn_stringFromIpInt, h,
      List.splitOn_eq_singleton (not_mem_v4Text mapped (by decide) (by decide))]
    rfl
  have hsuffix : expandSuffix [[], [], ['f', 'f', 'f', 'f'], v4Text mapped] =
      some (side [] ++ [] :: side [0xFFFF, mapped.toNat / 65536 % 65536,
        mapped.toNat % 65536]) := by
    have hdot : '.' ∈ v4Text mapped := by
      simp [v4Text, octets]
    simp [expandSuffix, hdot, v4OfText_v4Text, side]
    decide
  have hgroups : Groups [0xFFFF, mapped.toNat / 65536 % 65536, mapped.toNat % 65536] := by
    intro v hv
    simp only [List.mem_cons, List.not_mem_nil, or_false] at hv
    omega
  have hnil : Groups [] := fun v hv => by simp at hv
  have hparts := v6OfParts_skip hnil hgroups (by simp)
  have hvalue : valueOf (valueOf 0 [] * 65536 ^ (8 - (0 + 3)))
      [0xFFFF, mapped.toNat / 65536 % 65536, mapped.toNat % 65536] = ip.toNat := by
    have hmod : mapped.toNat = ip.toNat % 2 ^ 32 := by rw [← hm, BitVec.toNat_ofNat]
    simp only [valueOf, List.foldl_nil, List.foldl_cons]
    omega
  unfold v6IntOfText
  rw [hsplit]
  dsimp only
  rw [if_neg (by simp), hsuffix, Option.bind_eq_bind, Option.bind_some,
    if_neg (by simp [side]), hparts]
  simp only [List.length_nil, List.length_cons, hvalue]
  simp

theorem v6IntOfText_v6Text (ip : BitVec 128) : v6IntOfText (v6Text ip) = some ip := by
  unfold v6Text ipv4Mapped
  split
  next mapped hmapped =>
    split at hmapped
    next h =>
      cases hmapped
      exact v6IntOfText_mapped h
    · cases hmapped
  · exact v6IntOfText_stringFromIpInt ip

theorem not_mem_v6Text (ip : BitVec 128) {c : Char} (hc : digitValue 16 c = none)
    (hcolon : c ≠ ':') (hdot : c ≠ '.') : c ∉ v6Text ip := by
  have hplain : ∀ ip : BitVec 128, c ∉ stringFromIpInt ip := fun ip =>
    not_mem_stringFromIpInt ip hc hcolon
  unfold v6Text
  split
  next mapped _ =>
    rw [List.mem_append, List.mem_cons]
    rintro (h | h | h)
    · exact hplain _ h
    · exact hcolon h
    · exact not_mem_v4Text mapped hc hdot h
  · exact hplain ip

theorem percent_not_mem_v6Text (ip : BitVec 128) : '%' ∉ v6Text ip :=
  not_mem_v6Text ip (by decide) (by decide) (by decide)

theorem colon_mem_v6Text (ip : BitVec 128) : ':' ∈ v6Text ip := by
  have hplain : ∀ ip : BitVec 128, ':' ∈ stringFromIpInt ip := by
    intro ip
    by_contra habsent
    have hlength := (compressHextets_length (hextets_length ip)).1
    rw [← splitOn_stringFromIpInt, List.splitOn_eq_singleton habsent] at hlength
    simp at hlength
  unfold v6Text
  split
  · simp
  · exact hplain ip

theorem digitsValue_of_mem {base : Nat} {cs : List Char} {c : Char} (hmem : c ∈ cs)
    (hc : digitValue base c = none) : digitsValue base cs = none := by
  obtain ⟨before, after, rfl⟩ := List.append_of_mem hmem
  unfold digitsValue
  rw [List.foldlM_append]
  cases before.foldlM (fun acc c => (digitValue base c).map fun d => base * acc + d) 0 with
  | none => rfl
  | some acc => simp [hc]

theorem parseOctet_colon {cs : List Char} (h : ':' ∈ cs) : parseOctet cs = none := by
  unfold parseOctet
  split
  · rfl
  · rw [digitsValue_of_mem h (by decide)]
    rfl

/-- The text of an IPv6 address is not the text of an IPv4 address. -/
theorem v4OfText_v6Text (ip : BitVec 128) : v4OfText (v6Text ip) = none := by
  have hcolon := colon_mem_v6Text ip
  have hparts : ['.'].intercalate ((v6Text ip).splitOn '.') = v6Text ip :=
    List.intercalate_splitOn '.'
  rw [← hparts] at hcolon
  rcases mem_intercalate hcolon with habsurd | ⟨part, hpart, hmem⟩
  · exact absurd habsurd (by decide)
  · have hnone := parseOctet_colon hmem
    unfold v4OfText
    split
    next p q r s hsplit =>
      rw [hsplit] at hpart
      simp only [List.mem_cons, List.not_mem_nil, or_false] at hpart
      rcases hpart with rfl | rfl | rfl | rfl
      · simp [hnone]
      · cases parseOctet p <;> simp [hnone]
      · cases parseOctet p <;> cases parseOctet q <;> simp [hnone]
      · cases parseOctet p <;> cases parseOctet q <;> cases parseOctet r <;> simp [hnone]
    · rfl

end IpText

namespace IpAddress

open IpText

/-- `str(address)` -/
def text : IpAddress → String
  | .v4 ip => .ofList (v4Text ip)
  | .v6 ip none => .ofList (v6Text ip)
  | .v6 ip (some scopeId) => .ofList (v6Text ip ++ '%' :: scopeId.toList)

/-- `ip_address(s)`: an IPv4 address if `s` is one, else an IPv6 address. -/
def ofText (s : String) : Option IpAddress :=
  match v4OfText s.toList with
  | some ip => some (.v4 ip)
  | none => v6OfText s.toList

/-- Reading the text of an address without a scope id gives the address. -/
theorem ofText_text {a : IpAddress} (h : a.scopeId = none) : ofText a.text = some a := by
  cases a with
  | v4 ip => simp [text, ofText, v4OfText_v4Text]
  | v6 ip scopeId =>
    cases h
    have hscope : splitScopeId (v6Text ip) = some (v6Text ip, none) := by
      unfold splitScopeId
      rw [List.splitOn_eq_singleton (percent_not_mem_v6Text ip)]
    simp [text, ofText, v4OfText_v6Text, v6OfText, hscope, v6IntOfText_v6Text]

/-- Nothing but hexadecimal digits, colons and dots is written. -/
theorem not_mem_text {a : IpAddress} (h : a.scopeId = none) {c : Char}
    (hc : digitValue 16 c = none) (hcolon : c ≠ ':') (hdot : c ≠ '.') : c ∉ a.text.toList := by
  cases a with
  | v4 ip => simpa [text] using not_mem_v4Text ip hc hdot
  | v6 ip scopeId =>
    cases h
    simpa [text] using not_mem_v6Text ip hc hcolon hdot

end IpAddress

end CompleteDeviceManagement.Library
