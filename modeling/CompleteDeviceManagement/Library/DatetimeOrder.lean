import CompleteDeviceManagement.Library.Calendar
import Mathlib.Algebra.GroupWithZero.Nat

/-!
# The order of isoformat texts

Up to the year 9999 the fields of a text have fixed widths, so that texts compare as
their fields do, one after the other. A text without a fraction comes before the others
of its second, since `+` is less than a point.
-/

set_option autoImplicit false

namespace CompleteDeviceManagement.Library.Datetime

/-! ## Fields -/

theorem pad_succ {w n : Nat} (wide : 1 ≤ w) :
    (pad (w + 1) n).toList = (pad w (n / 10)).toList ++ [Nat.digitChar (n % 10)] := by
  simp only [pad, String.toList_ofList]
  by_cases small : n < 10
  · have digit : n / 10 = 0 := Nat.div_eq_of_lt small
    obtain ⟨w, rfl⟩ := Nat.exists_eq_succ_of_ne_zero (Nat.ne_of_gt wide)
    rw [digit, Nat.toDigits_of_lt_base small, Nat.mod_eq_of_lt small]
    simp [List.replicate_succ']
  · have last := @Nat.toDigits_eq_if 10 n (by decide)
    rw [if_neg small] at last
    rw [last, List.length_append, ← List.append_assoc]
    simp

theorem pad_length {w n : Nat} (wide : 1 ≤ w) (fits : n < 10 ^ w) :
    (pad w n).toList.length = w := by
  induction w, wide using Nat.le_induction generalizing n with
  | base =>
    have small : n < 10 := fits
    simp [pad, Nat.toDigits_of_lt_base small]
  | succ w wide ih =>
    have fewer : n / 10 < 10 ^ w := by
      rw [Nat.pow_succ] at fits
      omega
    rw [pad_succ wide, List.length_append, ih fewer]
    rfl

theorem digitChar_lt : ∀ d < 10, ∀ d' < d, Nat.digitChar d' < Nat.digitChar d := by decide

/-- What is before the first difference decides. -/
theorem append_lt_append {a b : List Char} (same : a.length = b.length) (less : a < b)
    (x y : List Char) : a ++ x < b ++ y := by
  induction a generalizing b with
  | nil =>
    rw [List.length_nil, eq_comm, List.length_eq_zero_iff] at same
    rw [same] at less
    exact absurd less (List.lt_irrefl [])
  | cons c a ih =>
    cases b with
    | nil => cases same
    | cons d b =>
      rw [List.cons_append, List.cons_append, List.cons_lt_cons_iff]
      rcases List.cons_lt_cons_iff.mp less with first | ⟨equal, later⟩
      · exact Or.inl first
      · exact Or.inr ⟨equal, ih (Nat.succ.inj same) later⟩

theorem pad_lt {w n n' : Nat} (wide : 1 ≤ w) (less : n < n') (fits : n' < 10 ^ w) :
    (pad w n).toList < (pad w n').toList := by
  induction w, wide using Nat.le_induction generalizing n n' with
  | base =>
    have small' : n' < 10 := fits
    have small : n < 10 := Nat.lt_trans less small'
    simp only [pad, Nat.toDigits_of_lt_base small', Nat.toDigits_of_lt_base small,
      String.toList_ofList]
    exact List.cons_lt_cons_iff.mpr (Or.inl (digitChar_lt n' small' n less))
  | succ w wide ih =>
    have fewer : n' / 10 < 10 ^ w := by
      rw [Nat.pow_succ] at fits
      omega
    rw [pad_succ wide, pad_succ wide]
    rcases Nat.lt_or_eq_of_le (Nat.div_le_div_right (Nat.le_of_lt less) : n / 10 ≤ n' / 10)
      with tens | tens
    · refine append_lt_append ?_ (ih tens fewer) _ _
      rw [pad_length wide (Nat.lt_trans tens fewer), pad_length wide fewer]
    · rw [tens]
      refine List.append_left_lt (List.cons_lt_cons_iff.mpr (Or.inl ?_))
      exact digitChar_lt _ (Nat.mod_lt _ (by decide)) _ (by omega)

/-- A field decides, or what follows it. -/
theorem field_lt {w n n' : Nat} (wide : 1 ≤ w) (fits : n < 10 ^ w) (fits' : n' < 10 ^ w)
    {x y : List Char} (less : n < n' ∨ n = n' ∧ x < y) :
    (pad w n).toList ++ x < (pad w n').toList ++ y := by
  rcases less with less | ⟨rfl, less⟩
  · refine append_lt_append ?_ (pad_lt wide less fits') x y
    rw [pad_length wide fits, pad_length wide fits']
  · exact List.append_left_lt less

/-! ## Texts -/

/-- Up to the year 9999. -/
def InRange (t : Datetime) : Prop := (ymd (t.micros / microsPerDay)).1 ≤ 9999

/-- The fraction, if there is one, and the offset. -/
def fractionText (micros : Nat) : List Char :=
  (if micros = 0 then "" else "." ++ pad 6 micros).toList ++ "+00:00".toList

theorem fractionText_lt {micros micros' : Nat} (less : micros < micros')
    (fits : micros' < 1000000) : fractionText micros < fractionText micros' := by
  have fraction : fractionText micros' = '.' :: ((pad 6 micros').toList ++ "+00:00".toList) := by
    rw [fractionText, if_neg (Nat.ne_of_gt (Nat.zero_lt_of_lt less)), String.toList_append]
    rfl
  rw [fraction]
  by_cases whole : micros = 0
  · rw [whole]
    exact List.cons_lt_cons_iff.mpr (Or.inl (by decide))
  · rw [fractionText, if_neg whole, String.toList_append]
    refine List.cons_lt_cons_iff.mpr (Or.inr ⟨rfl, ?_⟩)
    exact field_lt (by decide) (Nat.lt_trans less fits) fits (Or.inl less)

/-- The hour, the minute and the second, and what follows. -/
def clockText (seconds : Nat) (rest : List Char) : List Char :=
  (pad 2 (seconds / 3600)).toList ++ ':' :: ((pad 2 (seconds / 60 % 60)).toList ++
    ':' :: ((pad 2 (seconds % 60)).toList ++ rest))

theorem clockText_lt {seconds seconds' : Nat} (fits : seconds' < 86400) {x y : List Char}
    (less : seconds < seconds' ∨ seconds = seconds' ∧ x < y) :
    clockText seconds x < clockText seconds' y := by
  have le : seconds ≤ seconds' := by omega
  refine field_lt (by decide) (by omega) (by omega) ?_
  by_cases hour : seconds / 3600 = seconds' / 3600
  · refine Or.inr ⟨hour, List.cons_lt_cons_iff.mpr (Or.inr ⟨rfl, ?_⟩)⟩
    refine field_lt (by decide) (by omega) (by omega) ?_
    by_cases minute : seconds / 60 % 60 = seconds' / 60 % 60
    · refine Or.inr ⟨minute, List.cons_lt_cons_iff.mpr (Or.inr ⟨rfl, ?_⟩)⟩
      refine field_lt (by decide) (by omega) (by omega) ?_
      rcases less with less | ⟨same, less⟩
      · exact Or.inl (by omega)
      · exact Or.inr ⟨by rw [same], less⟩
    · exact Or.inl (by omega)
  · exact Or.inl (by omega)

/-- Year, month and day, and what follows. -/
def dateText (date : Nat × Nat × Nat) (rest : List Char) : List Char :=
  (pad 4 date.1).toList ++ '-' :: ((pad 2 date.2.1).toList ++
    '-' :: ((pad 2 date.2.2).toList ++ 'T' :: rest))

theorem dateText_lt {n n' : Nat} (range : (ymd n').1 ≤ 9999) {x y : List Char}
    (less : n < n' ∨ n = n' ∧ x < y) : dateText (ymd n) x < dateText (ymd n') y := by
  obtain ⟨-, month, day⟩ := ymd_bounds n
  obtain ⟨-, month', day'⟩ := ymd_bounds n'
  rcases less with later | ⟨rfl, less⟩
  · rcases ymd_later later with year | ⟨year, date⟩
    · exact field_lt (by decide) (by omega) (by omega) (Or.inl year)
    · refine field_lt (by decide) (by omega) (by omega) (Or.inr ⟨year, ?_⟩)
      refine List.cons_lt_cons_iff.mpr (Or.inr ⟨rfl, ?_⟩)
      refine field_lt (by decide) month month' ?_
      unfold dateCode at date
      by_cases same : (ymd n).2.1 = (ymd n').2.1
      · refine Or.inr ⟨same, List.cons_lt_cons_iff.mpr (Or.inr ⟨rfl, ?_⟩)⟩
        exact field_lt (by decide) day day' (Or.inl (by omega))
      · exact Or.inl (by omega)
  · refine List.append_left_lt (List.cons_lt_cons_iff.mpr (Or.inr ⟨rfl, ?_⟩))
    refine List.append_left_lt (List.cons_lt_cons_iff.mpr (Or.inr ⟨rfl, ?_⟩))
    exact List.append_left_lt (List.cons_lt_cons_iff.mpr (Or.inr ⟨rfl, less⟩))

theorem toList_isoformat (t : Datetime) : t.isoformat.toList =
    dateText (ymd (t.micros / microsPerDay))
      (clockText (t.micros % microsPerDay / 1000000)
        (fractionText (t.micros % microsPerDay % 1000000))) := by
  have dash : "-".toList = ['-'] := rfl
  have time : "T".toList = ['T'] := rfl
  have colon : ":".toList = [':'] := rfl
  simp only [isoformat, String.toList_append, List.append_assoc, dateText, clockText,
    fractionText, dash, time, colon, List.cons_append, List.nil_append]

theorem isoformat_lt {t t' : Datetime} (range : t'.InRange) (earlier : t.micros < t'.micros) :
    t.isoformat < t'.isoformat := by
  rw [String.lt_iff, toList_isoformat, toList_isoformat]
  refine dateText_lt range ?_
  by_cases day : t.micros / microsPerDay = t'.micros / microsPerDay
  · refine Or.inr ⟨day, ?_⟩
    unfold microsPerDay at day ⊢
    refine clockText_lt (by omega) ?_
    by_cases second :
        t.micros % 86400000000 / 1000000 = t'.micros % 86400000000 / 1000000
    · refine Or.inr ⟨second, fractionText_lt (by omega) (by omega)⟩
    · exact Or.inl (by omega)
  · unfold microsPerDay at day ⊢
    exact Or.inl (by omega)

/-- The texts of instants in range compare as the instants do. -/
theorem isoformat_lt_iff {t t' : Datetime} (range : t.InRange) (range' : t'.InRange) :
    t.isoformat < t'.isoformat ↔ t.micros < t'.micros := by
  constructor
  · intro less
    rcases Nat.lt_trichotomy t.micros t'.micros with earlier | same | later
    · exact earlier
    · have equal : t = t' := by
        cases t
        cases t'
        exact congrArg _ same
      rw [equal, String.lt_iff] at less
      exact absurd less (List.lt_irrefl _)
    · have other := isoformat_lt range later
      rw [String.lt_iff] at less other
      exact absurd (List.lt_trans less other) (List.lt_irrefl _)
  · exact isoformat_lt range'

end CompleteDeviceManagement.Library.Datetime
