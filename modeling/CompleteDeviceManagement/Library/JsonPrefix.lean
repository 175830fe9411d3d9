import CompleteDeviceManagement.Library.JsonText

/-!
# JSON text that is cut short

What the reader has read does not change when more text follows, a number at the
very end apart. So a strict prefix of a text, other than a number's, is the text
of no value.
-/

set_option autoImplicit false

namespace CompleteDeviceManagement.Library.JsonText
open CompleteDeviceManagement.Library.IpText

/-! ## The reader looks no further than it reads -/

/-- What is left unread may go on. -/
theorem dropWhile_append {p : Char → Bool} {s : Text} {c : Char} {t : Text}
    (h : s.dropWhile p = c :: t) (q : Text) : (s ++ q).dropWhile p = c :: (t ++ q) := by
  induction s with
  | nil => cases h
  | cons d s ih =>
    cases hd : p d with
    | true =>
      simp only [List.dropWhile_cons, hd, if_true, List.cons_append] at h ⊢
      exact ih h
    | false =>
      simp only [List.dropWhile_cons, hd, Bool.false_eq_true, if_false, List.cons_append] at h ⊢
      cases h
      rfl

theorem takeWhile_append {p : Char → Bool} {s : Text} (h : s.dropWhile p ≠ []) (q : Text) :
    (s ++ q).takeWhile p = s.takeWhile p := by
  induction s with
  | nil => exact absurd rfl h
  | cons d s ih =>
    cases hd : p d with
    | true =>
      simp only [List.dropWhile_cons, hd, if_true] at h
      simp [hd, ih h]
    | false => simp [hd]

theorem skipSpace_append {s : Text} {c : Char} {t : Text} (h : skipSpace s = c :: t) (q : Text) :
    skipSpace (s ++ q) = c :: (t ++ q) := dropWhile_append h q

theorem units_append {s : Text} (q : Text) : ∀ {us : List Nat} {r : Text},
    units s = some (us, r) → units (s ++ q) = some (us, r ++ q) := by
  induction s using units.induct with
  | case1 =>
    intro us r h
    cases h
  | case2 rest =>
    intro us r h
    cases h
    rfl
  | case3 a b c d rest hdigits =>
    intro us r h
    rw [units, hdigits] at h
    cases h
  | case4 a b c d rest u hdigits ih =>
    intro us r h
    rw [units, hdigits] at h
    obtain ⟨⟨us', r'⟩, hrest, heq⟩ := Option.map_eq_some_iff.mp h
    cases heq
    simp only [List.cons_append, units_unit hdigits, ih hrest, Option.map_some]
  | case5 e rest hu hescape =>
    intro us r h
    rw [units, hescape] at h
    · cases h
    · exact hu
  | case6 e rest hu c hescape ih =>
    intro us r h
    rw [units_short hescape] at h
    obtain ⟨⟨us', r'⟩, hrest, heq⟩ := Option.map_eq_some_iff.mp h
    cases heq
    simp only [List.cons_append, units_short hescape, ih hrest, Option.map_some]
  | case7 c rest hquote hu hescape hsmall =>
    intro us r h
    rw [units, if_pos hsmall] at h
    · cases h
    · exact hquote
    · exact hu
    · exact hescape
  | case8 c rest hquote hu hescape hsmall ih =>
    intro us r h
    rw [units, if_neg hsmall] at h
    · obtain ⟨⟨us', r'⟩, hrest, heq⟩ := Option.map_eq_some_iff.mp h
      cases heq
      have hbackslash : c ≠ '\\' := by
        intro hc
        cases rest with
        | nil => cases hrest
        | cons e rest => exact hescape e rest hc rfl
      rw [List.cons_append, units_plain (by omega) hquote hbackslash, ih hrest]
      rfl
    · exact hquote
    · exact hu
    · exact hescape

theorem stringRest_append {s r : Text} {key : String} (h : stringRest s = some (key, r))
    (q : Text) : stringRest (s ++ q) = some (key, r ++ q) := by
  unfold stringRest at h ⊢
  cases hunits : units s with
  | none =>
    rw [hunits] at h
    cases h
  | some read =>
    obtain ⟨us, r'⟩ := read
    rw [hunits] at h
    obtain ⟨cs, hchars, heq⟩ := Option.map_eq_some_iff.mp h
    cases heq
    rw [units_append q hunits]
    simp [hchars]

/-! ### Numbers that something follows -/

theorem digitRun_append {s run r : Text} (h : digitRun s = some (run, r)) (hr : r ≠ [])
    (q : Text) : digitRun (s ++ q) = some (run, r ++ q) := by
  have split : ∀ u : Text, u.span Ascii.isDigit =
      (u.takeWhile Ascii.isDigit, u.dropWhile Ascii.isDigit) := fun u =>
    List.span_eq_takeWhile_dropWhile _ u
  unfold digitRun at h ⊢
  rw [split] at h ⊢
  cases hrun : s.takeWhile Ascii.isDigit with
  | nil =>
    rw [hrun] at h
    cases h
  | cons d ds =>
    rw [hrun] at h
    cases h
    obtain ⟨c, t, hc⟩ := List.exists_cons_of_ne_nil hr
    rw [takeWhile_append hr, hrun, dropWhile_append hc, hc]
    rfl

theorem wholePart_append {s digits r : Text} (h : wholePart s = some (digits, r)) (hr : r ≠ [])
    (q : Text) : wholePart (s ++ q) = some (digits, r ++ q) := by
  unfold wholePart at h ⊢
  cases hrun : digitRun s with
  | none =>
    rw [hrun] at h
    cases h
  | some run =>
    obtain ⟨digits', r'⟩ := run
    rw [hrun] at h
    simp only at h
    split at h
    · cases h
    next hzero =>
      cases h
      rw [digitRun_append hrun hr]
      simp only [if_neg hzero]

theorem fraction_append {s frac r : Text} (h : fraction s = some (frac, r)) (hr : r ≠ [])
    (q : Text) : fraction (s ++ q) = some (frac, r ++ q) := by
  unfold fraction at h
  split at h
  next rest =>
    obtain ⟨⟨run, r'⟩, hrun, heq⟩ := Option.map_eq_some_iff.mp h
    cases heq
    simp only [List.cons_append, fraction, digitRun_append hrun hr, Option.map_some]
  next hdot =>
    cases h
    obtain ⟨c, t, rfl⟩ := List.exists_cons_of_ne_nil hr
    rw [List.cons_append, fraction]
    intro rest heq
    exact hdot t (by rw [(List.cons.inj heq).1])

/-- Without an `e` there is no exponent. -/
theorem exponent_absent {e : Char} (h : ¬ (e = 'e' ∨ e = 'E')) (s : Text) :
    exponent (e :: s) = some ([], e :: s) := by
  cases s with
  | nil => rw [exponent, if_neg h]
  | cons sign rest => rw [exponent, if_neg h]

theorem exponent_append {s exp r : Text} (h : exponent s = some (exp, r)) (hr : r ≠ [])
    (q : Text) : exponent (s ++ q) = some (exp, r ++ q) := by
  cases s with
  | nil =>
    cases h
    exact absurd rfl hr
  | cons e s =>
    by_cases he : e = 'e' ∨ e = 'E'
    · cases s with
      | nil =>
        rw [exponent, if_pos he] at h
        cases h
      | cons sign rest =>
        rw [exponent, if_pos he] at h
        simp only [List.cons_append]
        rw [exponent, if_pos he]
        split at h
        next hsign =>
          obtain ⟨⟨run, r'⟩, hrun, heq⟩ := Option.map_eq_some_iff.mp h
          cases heq
          rw [if_pos hsign, digitRun_append hrun hr]
          rfl
        next hsign =>
          obtain ⟨⟨run, r'⟩, hrun, heq⟩ := Option.map_eq_some_iff.mp h
          cases heq
          rw [if_neg hsign, ← List.cons_append, digitRun_append hrun hr]
          rfl
    · rw [exponent_absent he] at h
      cases h
      rw [List.cons_append, exponent_absent he]

theorem unsigned_append {sign s r : Text} {v : Json} (h : unsigned sign s = some (v, r))
    (hr : r ≠ []) (q : Text) : unsigned sign (s ++ q) = some (v, r ++ q) := by
  unfold unsigned at h ⊢
  simp only [Option.bind_eq_bind, Option.bind_eq_some_iff] at h
  obtain ⟨⟨digits, s₁⟩, hwhole, ⟨frac, s₂⟩, hfrac, ⟨exp, s₃⟩, hexp, h⟩ := h
  have hs₃ : s₃ = r := by
    split at h
    · obtain ⟨n, -, heq⟩ := Option.bind_eq_some_iff.mp h
      cases heq
      rfl
    · cases h
      rfl
  subst hs₃
  have hs₂ : s₂ ≠ [] := by
    rintro rfl
    cases hexp
    exact hr rfl
  have hs₁ : s₁ ≠ [] := by
    rintro rfl
    cases hfrac
    exact hs₂ rfl
  simp only [wholePart_append hwhole hs₁, fraction_append hfrac hs₂, exponent_append hexp hr,
    Option.bind_eq_bind, Option.bind_some]
  split at h
  next hwhole =>
    rw [if_pos hwhole]
    obtain ⟨n, hn, heq⟩ := Option.bind_eq_some_iff.mp h
    cases heq
    simp [hn]
  next hfloat =>
    rw [if_neg hfloat]
    cases h
    rfl

theorem number_append {s r : Text} {v : Json} (h : number s = some (v, r)) (hr : r ≠ [])
    (q : Text) : number (s ++ q) = some (v, r ++ q) := by
  unfold number at h
  split at h
  next rest =>
    rw [List.cons_append, number]
    exact unsigned_append h hr q
  next hminus =>
    cases s with
    | nil => cases h
    | cons c s =>
      rw [List.cons_append, number]
      · exact unsigned_append h hr q
      · intro rest heq
        exact hminus s (by rw [(List.cons.inj heq).1])

/-- A number begins with a minus or a digit. -/
theorem number_starts {s r : Text} {v : Json} (h : number s = some (v, r)) :
    ∃ c t, s = c :: t ∧ (c = '-' ∨ Ascii.isDigit c = true) := by
  unfold number at h
  split at h
  next rest => exact ⟨'-', rest, rfl, Or.inl rfl⟩
  next hminus =>
    unfold unsigned at h
    simp only [Option.bind_eq_bind, Option.bind_eq_some_iff] at h
    obtain ⟨⟨digits, s₁⟩, hwhole, -⟩ := h
    cases s with
    | nil => cases hwhole
    | cons c s =>
      refine ⟨c, s, rfl, Or.inr ?_⟩
      cases hc : Ascii.isDigit c with
      | true => rfl
      | false => simp [wholePart, digitRun, List.span_eq_takeWhile_dropWhile, hc] at hwhole

/-- Numbers are the values that what follows may prolong. -/
def Closed : Json → Prop
  | .int _ => False
  | .float _ => False
  | _ => True

theorem not_closed_of_number {s r : Text} {v : Json} (h : number s = some (v, r)) :
    ¬ Closed v := by
  have hunsigned : ∃ sign t, unsigned sign t = some (v, r) := by
    unfold number at h
    split at h
    · exact ⟨_, _, h⟩
    · exact ⟨_, _, h⟩
  obtain ⟨sign, t, hunsigned⟩ := hunsigned
  unfold unsigned at hunsigned
  simp only [Option.bind_eq_bind, Option.bind_eq_some_iff] at hunsigned
  obtain ⟨⟨digits, s₁⟩, -, ⟨frac, s₂⟩, -, ⟨exp, s₃⟩, -, h⟩ := hunsigned
  split at h
  · obtain ⟨n, -, heq⟩ := Option.bind_eq_some_iff.mp h
    cases heq
    exact id
  · cases h
    exact id

theorem closed_of_value {n : Nat} {c : Char} {s r : Text} {v : Json}
    (h : value n (c :: s) = some (v, r)) (hc : ¬ (c = '-' ∨ Ascii.isDigit c = true)) :
    Closed v := by
  cases n with
  | zero => cases h
  | succ n =>
    rw [JsonText.value.eq_def] at h
    dsimp only at h
    split at h
    next rest =>
      obtain ⟨read, -, heq⟩ := Option.map_eq_some_iff.mp h
      cases heq
      trivial
    next rest =>
      split at h
      · cases h
        trivial
      · obtain ⟨read, -, heq⟩ := Option.map_eq_some_iff.mp h
        cases heq
        trivial
    next rest =>
      split at h
      · cases h
        trivial
      · obtain ⟨read, -, heq⟩ := Option.map_eq_some_iff.mp h
        cases heq
        trivial
    · cases h
      trivial
    · cases h
      trivial
    · cases h
      trivial
    · obtain ⟨d, t, heq, hd⟩ := number_starts h
      cases heq
      exact absurd hd hc

/-! ### Values that something follows -/

/-- With this much fuel, what was read stays what is read when more text
follows; a number at the very end may go on. -/
structure Prolongs (n : Nat) : Prop where
  value : ∀ s v r, value n s = some (v, r) → r ≠ [] ∨ Closed v → ∀ q,
    value n (s ++ q) = some (v, r ++ q)
  items : ∀ s vs r, items n s = some (vs, r) → ∀ q, items n (s ++ q) = some (vs, r ++ q)
  members : ∀ s ms r, members n s = some (ms, r) → ∀ q, members n (s ++ q) = some (ms, r ++ q)

theorem value_nil (n : Nat) : value n [] = none := by
  cases n <;> rfl

theorem items_nil (n : Nat) : items n [] = none := by
  cases n with
  | zero => rfl
  | succ n => rw [items, value_nil]

theorem members_nil (n : Nat) : members n [] = none := by
  cases n <;> rfl

theorem value_prolongs {n : Nat} (ih : Prolongs n) (s : Text) (v : Json) (r : Text)
    (h : value (n + 1) s = some (v, r)) (more : r ≠ [] ∨ Closed v) (q : Text) :
    value (n + 1) (s ++ q) = some (v, r ++ q) := by
  unfold JsonText.value at h
  split at h
  next rest =>
    obtain ⟨⟨key, r'⟩, hstring, heq⟩ := Option.map_eq_some_iff.mp h
    cases heq
    simp only [List.cons_append, JsonText.value, stringRest_append hstring, Option.map_some]
  next rest =>
    split at h
    next rest' hskip =>
      cases h
      simp only [List.cons_append, JsonText.value, skipSpace_append hskip]
    next hclose =>
      obtain ⟨⟨vs, r'⟩, hitems, heq⟩ := Option.map_eq_some_iff.mp h
      cases heq
      cases hskip : skipSpace rest with
      | nil =>
        rw [hskip, items_nil] at hitems
        cases hitems
      | cons c t =>
        have hnext := skipSpace_append hskip q
        rw [hskip] at hitems hclose
        rw [List.cons_append, JsonText.value, hnext]
        split
        next heq => exact absurd (by rw [(List.cons.inj heq).1]) (hclose t)
        · rw [← List.cons_append, ih.items _ _ _ hitems]
          rfl
  next rest =>
    split at h
    next rest' hskip =>
      cases h
      simp only [List.cons_append, JsonText.value, skipSpace_append hskip]
    next hclose =>
      obtain ⟨⟨ms, r'⟩, hmembers, heq⟩ := Option.map_eq_some_iff.mp h
      cases heq
      cases hskip : skipSpace rest with
      | nil =>
        rw [hskip, members_nil] at hmembers
        cases hmembers
      | cons c t =>
        have hnext := skipSpace_append hskip q
        rw [hskip] at hmembers hclose
        rw [List.cons_append, JsonText.value, hnext]
        split
        next heq => exact absurd (by rw [(List.cons.inj heq).1]) (hclose t)
        · rw [← List.cons_append, ih.members _ _ _ hmembers]
          rfl
  next rest =>
    cases h
    rfl
  next rest =>
    cases h
    rfl
  next rest =>
    cases h
    rfl
  next =>
    obtain ⟨c, t, rfl, hc⟩ := number_starts h
    have hr : r ≠ [] := by
      rcases more with hr | closed
      · exact hr
      · exact absurd closed (not_closed_of_number h)
    rw [List.cons_append, value_number hc, ← List.cons_append]
    exact number_append h hr q

theorem not_nil_of_skipSpace {s : Text} {c : Char} {t : Text} (h : skipSpace s = c :: t) :
    s ≠ [] := by
  rintro rfl
  cases h

theorem items_prolongs {n : Nat} (ih : Prolongs n) (s : Text) (vs : List Json) (r : Text)
    (h : items (n + 1) s = some (vs, r)) (q : Text) :
    items (n + 1) (s ++ q) = some (vs, r ++ q) := by
  unfold JsonText.items at h
  split at h
  · cases h
  next v rest hvalue =>
    split at h
    next rest' hskip =>
      obtain ⟨⟨vs', r'⟩, hitems, heq⟩ := Option.map_eq_some_iff.mp h
      cases heq
      have hvalue' := ih.value _ _ _ hvalue (Or.inl (not_nil_of_skipSpace hskip)) q
      have hne : skipSpace rest' ≠ [] := by
        intro hnil
        rw [hnil, items_nil] at hitems
        cases hitems
      obtain ⟨c, t, hc⟩ := List.exists_cons_of_ne_nil hne
      have hnext := skipSpace_append hc q
      rw [hc] at hitems
      have hitems' := ih.items _ _ _ hitems q
      simp only [JsonText.items, hvalue', skipSpace_append hskip, hnext]
      rw [← List.cons_append, hitems']
      rfl
    next rest' hskip =>
      cases h
      have hvalue' := ih.value _ _ _ hvalue (Or.inl (not_nil_of_skipSpace hskip)) q
      simp only [JsonText.items, hvalue', skipSpace_append hskip]
    · cases h

theorem members_prolongs {n : Nat} (ih : Prolongs n) (s : Text) (ms : List (String × Json))
    (r : Text) (h : members (n + 1) s = some (ms, r)) (q : Text) :
    members (n + 1) (s ++ q) = some (ms, r ++ q) := by
  unfold JsonText.members at h
  split at h
  next rest =>
    split at h
    · cases h
    next key rest₁ hstring =>
      split at h
      next rest₂ hcolon =>
        split at h
        · cases h
        next v rest₃ hvalue =>
          have hne : skipSpace rest₂ ≠ [] := by
            intro hnil
            rw [hnil, value_nil] at hvalue
            cases hvalue
          obtain ⟨c, t, hc⟩ := List.exists_cons_of_ne_nil hne
          have hnext := skipSpace_append hc q
          rw [hc] at hvalue
          split at h
          next rest₄ hskip =>
            obtain ⟨⟨ms', r'⟩, hmembers, heq⟩ := Option.map_eq_some_iff.mp h
            cases heq
            have hvalue' := ih.value _ _ _ hvalue (Or.inl (not_nil_of_skipSpace hskip)) q
            have hne' : skipSpace rest₄ ≠ [] := by
              intro hnil
              rw [hnil, members_nil] at hmembers
              cases hmembers
            obtain ⟨c', t', hc'⟩ := List.exists_cons_of_ne_nil hne'
            have hnext' := skipSpace_append hc' q
            rw [hc'] at hmembers
            have hmembers' := ih.members _ _ _ hmembers q
            rw [List.cons_append] at hvalue' hmembers'
            simp only [List.cons_append, JsonText.members, stringRest_append hstring,
              skipSpace_append hcolon, hnext, hvalue', skipSpace_append hskip, hnext', hmembers',
              Option.map_some]
          next rest₄ hskip =>
            cases h
            have hvalue' := ih.value _ _ _ hvalue (Or.inl (not_nil_of_skipSpace hskip)) q
            rw [List.cons_append] at hvalue'
            simp only [List.cons_append, JsonText.members, stringRest_append hstring,
              skipSpace_append hcolon, hnext, hvalue', skipSpace_append hskip]
          · cases h
      · cases h
  · cases h

theorem prolongs (n : Nat) : Prolongs n := by
  induction n with
  | zero =>
    refine ⟨?_, ?_, ?_⟩
    · intro s v r h
      cases h
    · intro s vs r h
      cases h
    · intro s ms r h
      cases h
  | succ n ih => exact ⟨value_prolongs ih, items_prolongs ih, members_prolongs ih⟩

/-! ### More fuel -/

/-- One unit of fuel more changes nothing that was read. -/
structure Enough (n : Nat) : Prop where
  value : ∀ s read, value n s = some read → value (n + 1) s = some read
  items : ∀ s read, items n s = some read → items (n + 1) s = some read
  members : ∀ s read, members n s = some read → members (n + 1) s = some read

theorem value_enough {n : Nat} (ih : Enough n) (s : Text) (read : Json × Text)
    (h : value (n + 1) s = some read) : value (n + 2) s = some read := by
  rw [JsonText.value.eq_def] at h ⊢
  dsimp only at h ⊢
  split at h
  · exact h
  next rest =>
    split at h
    · exact h
    next hclose =>
      obtain ⟨more, hitems, heq⟩ := Option.map_eq_some_iff.mp h
      cases heq
      rw [ih.items _ _ hitems]
      rfl
  next rest =>
    split at h
    · exact h
    next hclose =>
      obtain ⟨more, hmembers, heq⟩ := Option.map_eq_some_iff.mp h
      cases heq
      rw [ih.members _ _ hmembers]
      rfl
  · exact h
  · exact h
  · exact h
  next => exact h

theorem items_enough {n : Nat} (ih : Enough n) (s : Text) (read : List Json × Text)
    (h : items (n + 1) s = some read) : items (n + 2) s = some read := by
  rw [JsonText.items.eq_def] at h ⊢
  dsimp only at h ⊢
  split at h
  · cases h
  next v rest hvalue =>
    rw [ih.value _ _ hvalue]
    dsimp only
    split at h
    next rest' hskip =>
      obtain ⟨more, hitems, heq⟩ := Option.map_eq_some_iff.mp h
      cases heq
      rw [ih.items _ _ hitems]
      rfl
    · exact h
    · cases h

theorem members_enough {n : Nat} (ih : Enough n) (s : Text) (read : List (String × Json) × Text)
    (h : members (n + 1) s = some read) : members (n + 2) s = some read := by
  rw [JsonText.members.eq_def] at h ⊢
  dsimp only at h ⊢
  split at h
  next rest =>
    split at h
    · cases h
    next key rest₁ hstring =>
      split at h
      next rest₂ hcolon =>
        split at h
        · cases h
        next v rest₃ hvalue =>
          rw [ih.value _ _ hvalue]
          dsimp only
          split at h
          next rest₄ hskip =>
            obtain ⟨more, hmembers, heq⟩ := Option.map_eq_some_iff.mp h
            cases heq
            rw [ih.members _ _ hmembers]
            rfl
          · exact h
          · cases h
      · cases h
  · cases h

theorem enough (n : Nat) : Enough n := by
  induction n with
  | zero =>
    refine ⟨?_, ?_, ?_⟩
    · intro s read h
      cases h
    · intro s read h
      cases h
    · intro s read h
      cases h
  | succ n ih => exact ⟨value_enough ih, items_enough ih, members_enough ih⟩

theorem value_mono {n m : Nat} (h : n ≤ m) {s : Text} {read : Json × Text}
    (hvalue : value n s = some read) : value m s = some read := by
  induction h with
  | refl => exact hvalue
  | step _ ih => exact (enough _).value s read ih

/-! ### A text that is cut short -/

/-- Less than the whole text of a value that is no number is no text of any
value. -/
theorem parse_cut {v : Json} {t p q : Text} (h : Reads v t) (closed : Closed v)
    (hcut : p ++ q = t) (hq : q ≠ []) : parse (.ofList p) = none := by
  have hwhole := h.read (2 * t.length + 1) [] (by omega) boundary_nil
  rw [List.append_nil] at hwhole
  obtain ⟨c, t', ht, hspace, -, -⟩ := h.starts
  cases p with
  | nil =>
    unfold parse
    rw [String.toList_ofList]
    rfl
  | cons d p =>
    have hd : d = c := by
      rw [ht] at hcut
      exact (List.cons.inj hcut).1
    subst hd
    unfold parse
    rw [String.toList_ofList, skipSpace_cons hspace]
    cases hread : value (2 * (d :: p).length + 1) (d :: p) with
    | none => rfl
    | some read =>
      exfalso
      obtain ⟨v', r⟩ := read
      have hmore : r ≠ [] ∨ Closed v' := by
        by_cases hdigit : d = '-' ∨ Ascii.isDigit d = true
        · rw [ht, value_number hdigit] at hwhole
          exact absurd closed (not_closed_of_number hwhole)
        · exact Or.inr (closed_of_value hread hdigit)
      have hlonger := (prolongs _).value _ _ _ hread hmore q
      rw [hcut] at hlonger
      have hsame := value_mono (m := 2 * t.length + 1) (by
        rw [← hcut, List.length_append]
        omega) hlonger
      rw [hwhole] at hsame
      cases r with
      | nil => cases hsame; exact hq rfl
      | cons c r => cases hsame

end CompleteDeviceManagement.Library.JsonText
