import CompleteDeviceManagement.Library.JsonPrefix
import Mathlib.Algebra.GroupWithZero.Nat
import Mathlib.Algebra.Order.BigOperators.Group.List
import Mathlib.Data.List.TakeWhile

/-!
# How long a JSON text is

No text of an object is shorter than its strings need: one character for each of
theirs, a second one for each that has to be escaped, and the marks between them. No
text has a NUL.
-/

set_option autoImplicit false

namespace CompleteDeviceManagement.Library.JsonText
open CompleteDeviceManagement.Library.IpText

/-! ## What is read -/

/-- At least so many characters are read, none of them a NUL. -/
def Takes (n : Nat) (s rest : Text) : Prop :=
  ∃ t, s = t ++ rest ∧ n ≤ t.length ∧ ∀ c ∈ t, 0 < c.toNat

namespace Takes

variable {n n' : Nat} {s r r' : Text}

theorem nothing (s : Text) : Takes 0 s s :=
  ⟨[], rfl, Nat.le_refl 0, fun _ h => absurd h List.not_mem_nil⟩

theorem trans (first : Takes n s r) (later : Takes n' r r') : Takes (n + n') s r' := by
  obtain ⟨t, rfl, long, text⟩ := first
  obtain ⟨t', rfl, long', text'⟩ := later
  refine ⟨t ++ t', (List.append_assoc t t' r').symm, ?_, ?_⟩
  · rw [List.length_append]
    omega
  · intro c hc
    exact (List.mem_append.mp hc).elim (text c) (text' c)

theorem less (h : Takes n s r) (fewer : n' ≤ n) : Takes n' s r := by
  obtain ⟨t, split, long, text⟩ := h
  exact ⟨t, split, Nat.le_trans fewer long, text⟩

theorem cons {c : Char} (char : 0 < c.toNat) (h : Takes n s r) : Takes (n + 1) (c :: s) r := by
  obtain ⟨t, rfl, long, text⟩ := h
  refine ⟨c :: t, rfl, Nat.succ_le_succ long, ?_⟩
  intro d hd
  rcases List.mem_cons.mp hd with rfl | hd
  · exact char
  · exact text d hd

theorem all {t : Text} (text : ∀ c ∈ t, 0 < c.toNat) : Takes 0 (t ++ r) r :=
  ⟨t, rfl, Nat.zero_le _, text⟩

end Takes

theorem takes_skipSpace (s : Text) : Takes 0 s (skipSpace s) := by
  refine ⟨s.takeWhile isSpace, List.takeWhile_append_dropWhile.symm, Nat.zero_le _, ?_⟩
  intro c hc
  have space := List.mem_takeWhile_imp hc
  simp only [isSpace, Bool.or_eq_true, beq_iff_eq] at space
  rcases space with ((rfl | rfl) | rfl) | rfl <;> decide

/-! ## Strings -/

def unitLength (u : Nat) : Nat := if u < 32 ∨ u = 34 ∨ u = 92 then 2 else 1

/-- What these characters need in a string. -/
def spelledLength (cs : List Char) : Nat := (cs.map fun c => unitLength c.toNat).sum

theorem unitLength_bounds (u : Nat) : 1 ≤ unitLength u ∧ unitLength u ≤ 2 := by
  unfold unitLength
  split <;> omega

theorem digitValue_lt {base d : Nat} {c : Char} (h : digitValue base c = some d) : d < base := by
  obtain ⟨-, small⟩ := Option.filter_eq_some_iff.mp h
  exact of_decide_eq_true small

theorem hexDigits {a b c d : Char} {u : Nat} (h : digitsValue 16 [a, b, c, d] = some u) :
    u < 0x110000 ∧ ∀ e ∈ [a, b, c, d], 0 < e.toNat := by
  constructor
  · simp only [digitsValue, List.foldlM_cons, List.foldlM_nil, Option.bind_eq_bind,
      Option.bind_eq_some_iff, Option.map_eq_some_iff, Option.pure_def, Option.some.injEq] at h
    obtain ⟨v₁, ⟨d₁, h₁, rfl⟩, v₂, ⟨d₂, h₂, rfl⟩, v₃, ⟨d₃, h₃, rfl⟩, v₄, ⟨d₄, h₄, rfl⟩, rfl⟩ := h
    have b₁ := digitValue_lt h₁
    have b₂ := digitValue_lt h₂
    have b₃ := digitValue_lt h₃
    have b₄ := digitValue_lt h₄
    omega
  · intro e he
    apply Nat.pos_of_ne_zero
    intro zero
    have nul : e = Char.ofNat 0 := by
      rw [← zero, Char.ofNat_toNat]
    rw [digitsValue_of_mem he (by rw [nul]; decide)] at h
    cases h

theorem units_takes {s : Text} : ∀ {us : List Nat} {r : Text}, units s = some (us, r) →
    Takes ((us.map unitLength).sum + 1) s r ∧ ∀ u ∈ us, u < 0x110000 := by
  induction s using units.induct with
  | case1 =>
    intro us r h
    cases h
  | case2 rest =>
    intro us r h
    cases h
    exact ⟨.cons (by decide) (.nothing _), fun _ hu => absurd hu List.not_mem_nil⟩
  | case3 a b c d rest hdigits =>
    intro us r h
    rw [units, hdigits] at h
    cases h
  | case4 a b c d rest u hdigits ih =>
    intro us r h
    rw [units, hdigits] at h
    obtain ⟨⟨us', r'⟩, hrest, heq⟩ := Option.map_eq_some_iff.mp h
    cases heq
    obtain ⟨takes, small⟩ := ih hrest
    obtain ⟨bound, digits⟩ := hexDigits hdigits
    simp only [List.mem_cons, List.not_mem_nil, or_false, forall_eq_or_imp, forall_eq] at digits
    obtain ⟨ha, hb, hc, hd⟩ := digits
    have long := (unitLength_bounds u).2
    refine ⟨((takes.cons hd).cons hc |>.cons hb |>.cons ha |>.cons (by decide) |>.cons
      (by decide)).less ?_, ?_⟩
    · simp only [List.map_cons, List.sum_cons]
      omega
    · intro v hv
      rcases List.mem_cons.mp hv with rfl | hv
      · exact bound
      · exact small v hv
  | case5 e rest hu hescape =>
    intro us r h
    rw [units, hescape] at h
    · cases h
    · exact hu
  | case6 e rest hu c hescape ih =>
    intro us r h
    rw [units_short hescape] at h
    obtain ⟨⟨us', r'⟩, hrest, heq⟩ := Option.map_eq_some_iff.mp h
    cases heq
    obtain ⟨takes, small⟩ := ih hrest
    have letter : 0 < e.toNat := by
      apply Nat.pos_of_ne_zero
      intro zero
      have nul : e = Char.ofNat 0 := by
        rw [← zero, Char.ofNat_toNat]
      rw [nul] at hescape
      cases hescape
    have long := (unitLength_bounds c.toNat).2
    refine ⟨((takes.cons letter).cons (by decide)).less ?_, ?_⟩
    · simp only [List.map_cons, List.sum_cons]
      omega
    · intro v hv
      rcases List.mem_cons.mp hv with rfl | hv
      · exact Style.toNat_lt c
      · exact small v hv
  | case7 c rest hquote hu hescape hsmall =>
    intro us r h
    rw [units, if_pos hsmall] at h
    · cases h
    · exact hquote
    · exact hu
    · exact hescape
  | case8 c rest hquote hu hescape hsmall ih =>
    intro us r h
    rw [units, if_neg hsmall] at h
    · obtain ⟨⟨us', r'⟩, hrest, heq⟩ := Option.map_eq_some_iff.mp h
      cases heq
      obtain ⟨takes, small⟩ := ih hrest
      have hbackslash : c ≠ '\\' := by
        intro hc
        cases rest with
        | nil => cases hrest
        | cons e rest => exact hescape e rest hc rfl
      have plain : unitLength c.toNat = 1 := by
        have quote : c.toNat ≠ 34 := fun same => hquote (Char.toNat_inj.mp same)
        have backslash : c.toNat ≠ 92 := fun same => hbackslash (Char.toNat_inj.mp same)
        rw [unitLength, if_neg (by omega)]
      refine ⟨(takes.cons (by omega)).less ?_, ?_⟩
      · simp only [List.map_cons, List.sum_cons, plain]
        omega
      · intro v hv
        rcases List.mem_cons.mp hv with rfl | hv
        · exact Style.toNat_lt c
        · exact small v hv
    · exact hquote
    · exact hu
    · exact hescape

/-- A pair of surrogates is one character. -/
theorem chars_length {us : List Nat} : ∀ {cs : List Char}, chars us = some cs →
    (∀ u ∈ us, u < 0x110000) → spelledLength cs ≤ (us.map unitLength).sum := by
  induction us using chars.induct with
  | case1 =>
    intro cs h _
    cases h
    exact Nat.le_refl 0
  | case2 u high =>
    intro cs h _
    rw [chars, if_pos high] at h
    cases h
  | case3 u high v more low ih =>
    intro cs h small
    rw [chars, if_pos high] at h
    simp only [low, if_true] at h
    obtain ⟨cs', hmore, rfl⟩ := Option.map_eq_some_iff.mp h
    have rest := ih hmore fun w hw => small w (List.mem_cons_of_mem u (List.mem_cons_of_mem v hw))
    have first := (unitLength_bounds u).1
    have second := (unitLength_bounds v).1
    have both := (unitLength_bounds
      (Char.ofNat (0x10000 + (u - 0xD800) * 0x400 + (v - 0xDC00))).toNat).2
    simp only [spelledLength, List.map_cons, List.sum_cons] at rest ⊢
    omega
  | case4 u high v more low =>
    intro cs h _
    rw [chars, if_pos high] at h
    simp [low] at h
  | case5 u rest high low =>
    intro cs h _
    rw [chars.eq_def] at h
    simp [high, low] at h
  | case6 u rest high low ih =>
    intro cs h small
    rw [chars.eq_def] at h
    simp only [high, low] at h
    obtain ⟨cs', hrest, rfl⟩ := Option.map_eq_some_iff.mp h
    have later := ih hrest fun w hw => small w (List.mem_cons_of_mem u hw)
    have bound := small u List.mem_cons_self
    have valid : u.isValidChar := by
      unfold isHigh at high
      unfold isLow at low
      simp only [Bool.and_eq_true, decide_eq_true_eq, not_and, Nat.not_le] at high low
      unfold Nat.isValidChar
      omega
    have code : (Char.ofNat u).toNat = u := by
      rw [Char.ofNat, dif_pos valid]
      rfl
    simp only [spelledLength, List.map_cons, List.sum_cons, code] at later ⊢
    omega

theorem stringRest_takes {s r : Text} {text : String} (h : stringRest s = some (text, r)) :
    Takes (spelledLength text.toList + 1) s r := by
  unfold stringRest at h
  cases hunits : units s with
  | none =>
    rw [hunits] at h
    cases h
  | some read =>
    obtain ⟨us, r'⟩ := read
    rw [hunits] at h
    obtain ⟨cs, hchars, heq⟩ := Option.map_eq_some_iff.mp h
    cases heq
    obtain ⟨takes, small⟩ := units_takes hunits
    have long := chars_length hchars small
    rw [String.toList_ofList]
    exact takes.less (by omega)

/-! ## Numbers -/

theorem digitRun_takes {s run r : Text} (h : digitRun s = some (run, r)) : Takes 0 s r := by
  have split : s = s.takeWhile Ascii.isDigit ++ s.dropWhile Ascii.isDigit :=
    List.takeWhile_append_dropWhile.symm
  have digits : ∀ c ∈ s.takeWhile Ascii.isDigit, 0 < c.toNat := by
    intro c hc
    have digit := List.mem_takeWhile_imp hc
    rw [Ascii.isDigit, Bool.and_eq_true, decide_eq_true_eq] at digit
    have low : '0'.toNat ≤ c.toNat := digit.1
    have zero : '0'.toNat = 48 := rfl
    omega
  have rest : r = s.dropWhile Ascii.isDigit := by
    unfold digitRun at h
    rw [List.span_eq_takeWhile_dropWhile] at h
    cases hrun : s.takeWhile Ascii.isDigit with
    | nil =>
      rw [hrun] at h
      cases h
    | cons d ds =>
      rw [hrun] at h
      cases h
      rfl
  rw [rest]
  exact ⟨_, split, Nat.zero_le _, digits⟩

theorem wholePart_takes {s run r : Text} (h : wholePart s = some (run, r)) : Takes 0 s r := by
  unfold wholePart at h
  cases hrun : digitRun s with
  | none =>
    rw [hrun] at h
    cases h
  | some read =>
    obtain ⟨digits, r'⟩ := read
    rw [hrun] at h
    simp only at h
    split at h
    · cases h
    · cases h
      exact digitRun_takes hrun

theorem fraction_takes {s frac r : Text} (h : fraction s = some (frac, r)) : Takes 0 s r := by
  unfold fraction at h
  split at h
  next rest =>
    obtain ⟨⟨run, r'⟩, hrun, heq⟩ := Option.map_eq_some_iff.mp h
    cases heq
    exact ((digitRun_takes hrun).cons (by decide)).less (Nat.zero_le _)
  next =>
    cases h
    exact .nothing s

theorem exponent_takes {s exp r : Text} (h : exponent s = some (exp, r)) : Takes 0 s r := by
  cases s with
  | nil =>
    cases h
    exact .nothing []
  | cons e s =>
    by_cases he : e = 'e' ∨ e = 'E'
    · have letter : 0 < e.toNat := by
        rcases he with rfl | rfl <;> decide
      cases s with
      | nil =>
        rw [exponent, if_pos he] at h
        cases h
      | cons sign rest =>
        rw [exponent, if_pos he] at h
        split at h
        next hsign =>
          obtain ⟨⟨run, r'⟩, hrun, heq⟩ := Option.map_eq_some_iff.mp h
          cases heq
          have mark : 0 < sign.toNat := by
            rcases hsign with rfl | rfl <;> decide
          exact (((digitRun_takes hrun).cons mark).cons letter).less (Nat.zero_le _)
        next =>
          obtain ⟨⟨run, r'⟩, hrun, heq⟩ := Option.map_eq_some_iff.mp h
          cases heq
          exact ((digitRun_takes hrun).cons letter).less (Nat.zero_le _)
    · rw [exponent_absent he] at h
      cases h
      exact .nothing _

theorem unsigned_takes {sign s r : Text} {v : Json} (h : unsigned sign s = some (v, r)) :
    Takes 0 s r := by
  unfold unsigned at h
  simp only [Option.bind_eq_bind, Option.bind_eq_some_iff] at h
  obtain ⟨⟨digits, s₁⟩, hwhole, ⟨frac, s₂⟩, hfrac, ⟨exp, s₃⟩, hexp, h⟩ := h
  have rest : s₃ = r := by
    split at h
    · obtain ⟨n, -, heq⟩ := Option.bind_eq_some_iff.mp h
      cases heq
      rfl
    · cases h
      rfl
  subst rest
  exact ((wholePart_takes hwhole).trans (fraction_takes hfrac)).trans (exponent_takes hexp)

theorem number_takes {s r : Text} {v : Json} (h : number s = some (v, r)) : Takes 0 s r := by
  unfold number at h
  split at h
  next rest => exact ((unsigned_takes h).cons (by decide)).less (Nat.zero_le _)
  next => exact unsigned_takes h

/-! ## Values -/

def stringLength : Json → Nat
  | .str s => spelledLength s.toList + 2
  | _ => 0

/-- A key, its colon, a value, and the mark behind it. -/
def memberLength (m : String × Json) : Nat := spelledLength m.1.toList + 4 + stringLength m.2

def membersLength (ms : List (String × Json)) : Nat := (ms.map memberLength).sum

/-- What the strings of a value, or of its members, need. -/
def leastLength : Json → Nat
  | .obj fields => 1 + membersLength fields
  | v => stringLength v

theorem stringLength_le (v : Json) : stringLength v ≤ leastLength v := by
  cases v with
  | obj fields => exact Nat.zero_le _
  | _ => exact Nat.le_refl _

theorem store_length (key : String) (v : Json) (ms : List (String × Json)) :
    membersLength (Dict.store key v ms) ≤ membersLength ms + memberLength (key, v) := by
  induction ms with
  | nil => simp [Dict.store, membersLength]
  | cons m ms ih =>
    obtain ⟨key', v'⟩ := m
    rw [Dict.store]
    unfold membersLength at ih ⊢
    by_cases same : key' = key
    · subst same
      rw [if_pos rfl]
      simp only [List.map_cons, List.sum_cons, memberLength]
      omega
    · rw [if_neg same]
      simp only [List.map_cons, List.sum_cons]
      omega

theorem collapse_length (ms : List (String × Json)) :
    membersLength (collapse ms) ≤ membersLength ms := by
  have folded : ∀ d : Dict String Json, membersLength (ms.foldl
      (fun (d : Dict String Json) member => d.set member.1 member.2) d).items ≤
        membersLength d.items + membersLength ms := by
    induction ms with
    | nil => exact fun d => Nat.le_refl _
    | cons m ms ih =>
      intro d
      have later := ih (d.set m.1 m.2)
      have here := store_length m.1 m.2 d.items
      have items : (d.set m.1 m.2).items = Dict.store m.1 m.2 d.items := rfl
      rw [items] at later
      have sum : membersLength (m :: ms) = memberLength m + membersLength ms := by
        simp [membersLength]
      rw [List.foldl_cons, sum]
      have entry : memberLength (m.1, m.2) = memberLength m := rfl
      omega
  exact (folded .empty).trans (Nat.le_of_eq (Nat.zero_add _))

/-- What is read with this much fuel is as long as its strings need. -/
structure Measures (n : Nat) : Prop where
  value : ∀ s v r, value n s = some (v, r) → Takes (leastLength v) s r
  items : ∀ s vs r, items n s = some (vs, r) → Takes 0 s r
  members : ∀ s ms r, members n s = some (ms, r) → Takes (membersLength ms) s r

theorem value_measures {n : Nat} (ih : Measures n) (s : Text) (v : Json) (r : Text)
    (h : value (n + 1) s = some (v, r)) : Takes (leastLength v) s r := by
  unfold JsonText.value at h
  split at h
  next rest =>
    obtain ⟨⟨text, r'⟩, hstring, heq⟩ := Option.map_eq_some_iff.mp h
    cases heq
    exact (stringRest_takes hstring).cons (by decide)
  next rest =>
    split at h
    next rest' hskip =>
      cases h
      have closing : Takes 1 (skipSpace rest) r := by
        rw [hskip]
        exact .cons (by decide) (.nothing r)
      exact (((takes_skipSpace rest).trans closing).cons (by decide)).less (Nat.zero_le _)
    next =>
      obtain ⟨⟨vs, r'⟩, hitems, heq⟩ := Option.map_eq_some_iff.mp h
      cases heq
      exact (((takes_skipSpace rest).trans (ih.items _ _ _ hitems)).cons (by decide)).less
        (Nat.zero_le _)
  next rest =>
    split at h
    next rest' hskip =>
      cases h
      have closing : Takes 1 (skipSpace rest) r := by
        rw [hskip]
        exact .cons (by decide) (.nothing r)
      exact (((takes_skipSpace rest).trans closing).cons (by decide)).less (by
        simp [leastLength, membersLength])
    next =>
      obtain ⟨⟨ms, r'⟩, hmembers, heq⟩ := Option.map_eq_some_iff.mp h
      cases heq
      have shorter := collapse_length ms
      have least : leastLength (.obj (collapse ms)) = 1 + membersLength (collapse ms) := rfl
      exact (((takes_skipSpace rest).trans (ih.members _ _ _ hmembers)).cons (by decide)).less (by
        rw [least]
        omega)
  next rest =>
    cases h
    exact .less (.cons (by decide) (.cons (by decide) (.cons (by decide)
      (.cons (by decide) (.nothing r))))) (Nat.zero_le _)
  next rest =>
    cases h
    exact .less (.cons (by decide) (.cons (by decide) (.cons (by decide)
      (.cons (by decide) (.nothing r))))) (Nat.zero_le _)
  next rest =>
    cases h
    exact .less (.cons (by decide) (.cons (by decide) (.cons (by decide)
      (.cons (by decide) (.cons (by decide) (.nothing r)))))) (Nat.zero_le _)
  next =>
    have none : leastLength v = 0 := by
      have number := not_closed_of_number h
      cases v with
      | int => rfl
      | float => rfl
      | _ => exact absurd trivial number
    rw [none]
    exact number_takes h

theorem items_measures {n : Nat} (ih : Measures n) (s : Text) (vs : List Json) (r : Text)
    (h : items (n + 1) s = some (vs, r)) : Takes 0 s r := by
  unfold JsonText.items at h
  split at h
  · cases h
  next v rest hvalue =>
    have first := (ih.value _ _ _ hvalue).trans (takes_skipSpace rest)
    split at h
    next rest' hskip =>
      obtain ⟨⟨vs', r'⟩, hitems, heq⟩ := Option.map_eq_some_iff.mp h
      cases heq
      rw [hskip] at first
      have later := (takes_skipSpace rest').trans (ih.items _ _ _ hitems)
      exact (first.trans (later.cons (by decide))).less (Nat.zero_le _)
    next rest' hskip =>
      cases h
      rw [hskip] at first
      exact (first.trans (.cons (by decide) (.nothing r))).less (Nat.zero_le _)
    · cases h

theorem members_measures {n : Nat} (ih : Measures n) (s : Text) (ms : List (String × Json))
    (r : Text) (h : members (n + 1) s = some (ms, r)) : Takes (membersLength ms) s r := by
  unfold JsonText.members at h
  split at h
  next rest =>
    split at h
    · cases h
    next key rest₁ hstring =>
      have named := ((stringRest_takes hstring).trans (takes_skipSpace rest₁)).cons
        (show 0 < '"'.toNat by decide)
      split at h
      next rest₂ hcolon =>
        rw [hcolon] at named
        split at h
        · cases h
        next v rest₃ hvalue =>
          have read := (ih.value _ _ _ hvalue).less (stringLength_le v)
          have member := (named.trans (((takes_skipSpace rest₂).trans read).cons
            (show 0 < ':'.toNat by decide))).trans (takes_skipSpace rest₃)
          split at h
          next rest₄ hskip =>
            obtain ⟨⟨ms', r'⟩, hmembers, heq⟩ := Option.map_eq_some_iff.mp h
            cases heq
            rw [hskip] at member
            have later := (takes_skipSpace rest₄).trans (ih.members _ _ _ hmembers)
            refine (member.trans (later.cons (by decide))).less ?_
            simp only [membersLength, memberLength, List.map_cons, List.sum_cons]
            omega
          next rest₄ hskip =>
            cases h
            rw [hskip] at member
            refine (member.trans (.cons (by decide) (.nothing r))).less ?_
            simp only [membersLength, memberLength, List.map_cons, List.map_nil, List.sum_cons,
              List.sum_nil]
            omega
          · cases h
      · cases h
  · cases h

theorem measures (n : Nat) : Measures n := by
  induction n with
  | zero =>
    refine ⟨?_, ?_, ?_⟩
    · intro s v r h
      cases h
    · intro s vs r h
      cases h
    · intro s ms r h
      cases h
  | succ n ih => exact ⟨value_measures ih, items_measures ih, members_measures ih⟩

/-- What a text that is read consists of. -/
theorem parse_takes {text : String} {v : Json} (h : parse text = some v) :
    Takes (leastLength v) text.toList [] := by
  unfold parse at h
  cases hread : value (2 * text.toList.length + 1) (skipSpace text.toList) with
  | none =>
    rw [hread] at h
    cases h
  | some read =>
    obtain ⟨v', r⟩ := read
    rw [hread] at h
    simp only at h
    split at h
    next space =>
      cases h
      have behind := takes_skipSpace r
      rw [space] at behind
      have whole := ((takes_skipSpace text.toList).trans
        ((measures _).value _ _ _ hread)).trans behind
      exact whole.less (by omega)
    · cases h

theorem parse_length {text : String} {v : Json} (h : parse text = some v) :
    leastLength v ≤ text.length ∧ ∀ c ∈ text.toList, 0 < c.toNat := by
  obtain ⟨t, split, long, chars⟩ := parse_takes h
  rw [List.append_nil] at split
  rw [← String.length_toList, split]
  exact ⟨long, chars⟩

end CompleteDeviceManagement.Library.JsonText
