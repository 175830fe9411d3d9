import CompleteDeviceManagement.Library.Datetime
import Mathlib.Data.Nat.Init

/-!
# The calendar in order

`ymd` splits a day number off from above. The year it has begins `daysBeforeYear` days
after the first one and is not over, and within a year month and day grow with the day.
So later days have later dates.
-/

set_option autoImplicit false

namespace CompleteDeviceManagement.Library.Datetime

def daysBeforeYear (y : Nat) : Nat := (y - 1) * 365 + (y - 1) / 4 - (y - 1) / 100 + (y - 1) / 400

def isLeap (y : Nat) : Bool := decide (y % 4 = 0 ∧ (y % 100 ≠ 0 ∨ y % 400 = 0))

def daysInYear (y : Nat) : Nat := if isLeap y then 366 else 365

/-- Month and day of a day of a year, counted from 0. -/
def monthDay (leap : Bool) (n : Nat) : Nat × Nat :=
  let month := (n + 50) / 32
  let preceding := daysBeforeMonth.getD month 0 + if 2 < month ∧ leap = true then 1 else 0
  if n < preceding then
    let month := month - 1
    let preceding := preceding -
      (daysInMonth.getD month 0 + if month = 2 ∧ leap = true then 1 else 0)
    (month, n - preceding + 1)
  else (month, n - preceding + 1)

theorem div_succ {k : Nat} (n : Nat) : (n + 1) / k = n / k + if (n + 1) % k = 0 then 1 else 0 := by
  simp only [Nat.succ_div, Nat.dvd_iff_mod_eq_zero]

theorem daysBeforeYear_succ {y : Nat} (first : 1 ≤ y) :
    daysBeforeYear (y + 1) = daysBeforeYear y + daysInYear y := by
  obtain ⟨n, rfl⟩ := Nat.exists_eq_succ_of_ne_zero (Nat.ne_of_gt first)
  have fewer : n / 100 ≤ n / 4 := Nat.div_le_div_left (by omega) (by omega)
  have whole : (n + 1) % 100 = 0 → (n + 1) % 4 = 0 := by omega
  have cycle : (n + 1) % 400 = 0 → (n + 1) % 100 = 0 := by omega
  simp only [daysBeforeYear, daysInYear, isLeap, decide_eq_true_eq, Nat.succ_eq_add_one,
    Nat.add_sub_cancel, div_succ]
  generalize (n + 1) % 4 = four, (n + 1) % 100 = hundred, (n + 1) % 400 = all at *
  generalize n / 4 = fourth, n / 100 = century, n / 400 = era at *
  split <;> split <;> split <;> split <;> omega

theorem daysBeforeYear_mono {y y' : Nat} (first : 1 ≤ y) (later : y ≤ y') :
    daysBeforeYear y ≤ daysBeforeYear y' := by
  induction y', later using Nat.le_induction with
  | base => exact Nat.le_refl _
  | succ y' more ih =>
    rw [daysBeforeYear_succ (Nat.le_trans first more)]
    omega

theorem daysInYear_bounds (y : Nat) : 365 ≤ daysInYear y ∧ daysInYear y ≤ 366 := by
  unfold daysInYear
  split <;> omega

section Cycles

/-! The years of a day are `a` times 400, `b` centuries, `c` times four and `e` more. -/

variable {a b c e : Nat} (centuries : b ≤ 3) (fours : c ≤ 24) (years : e ≤ 3)
include centuries fours years

theorem daysBeforeYear_cycles :
    daysBeforeYear (a * 400 + 1 + b * 100 + c * 4 + e) =
      a * 146097 + b * 36524 + c * 1461 + e * 365 := by
  have four : (a * 400 + 1 + b * 100 + c * 4 + e - 1) / 4 = a * 100 + b * 25 + c := by omega
  have century : (a * 400 + 1 + b * 100 + c * 4 + e - 1) / 100 = a * 4 + b := by omega
  have era : (a * 400 + 1 + b * 100 + c * 4 + e - 1) / 400 = a := by omega
  rw [daysBeforeYear, four, century, era]
  omega

theorem isLeap_cycles :
    isLeap (a * 400 + 1 + b * 100 + c * 4 + e) = decide (e = 3 ∧ (c ≠ 24 ∨ b = 3)) := by
  rw [isLeap, decide_eq_decide]
  omega

end Cycles

/-- The year of a day, the day in it, and the two as a date. -/
theorem ymd_split (n : Nat) :
    ∃ y d, 1 ≤ y ∧ n = daysBeforeYear y + d ∧ d < daysInYear y ∧
      ymd n = (y, monthDay (isLeap y) d) := by
  unfold ymd
  dsimp only
  have split400 := Nat.div_add_mod n 146097
  have below400 := Nat.mod_lt n (by omega : 146097 > 0)
  generalize n / 146097 = a, n % 146097 = r at *
  have split100 := Nat.div_add_mod r 36524
  have below100 := Nat.mod_lt r (by omega : 36524 > 0)
  generalize r / 36524 = b, r % 36524 = r1 at *
  have split4 := Nat.div_add_mod r1 1461
  have below4 := Nat.mod_lt r1 (by omega : 1461 > 0)
  generalize r1 / 1461 = c, r1 % 1461 = r2 at *
  have split1 := Nat.div_add_mod r2 365
  have below1 := Nat.mod_lt r2 (by omega : 365 > 0)
  generalize r2 / 365 = e, r2 % 365 = d at *
  split
  next last =>
    -- the 31st of December of a leap year, one day after 365
    have december : monthDay true 365 = (12, 31) := by decide
    rcases last with year | century
    · have centuries : b ≤ 3 := by omega
      have fours : c ≤ 24 := by omega
      have before : a * 400 + 1 + b * 100 + c * 4 + e - 1 = a * 400 + 1 + b * 100 + c * 4 + 3 := by
        omega
      have leap : isLeap (a * 400 + 1 + b * 100 + c * 4 + 3) = true := by
        rw [isLeap_cycles centuries fours (Nat.le_refl 3), decide_eq_true_eq]
        omega
      refine ⟨a * 400 + 1 + b * 100 + c * 4 + 3, 365, by omega, ?_, ?_, ?_⟩
      · rw [daysBeforeYear_cycles centuries fours (Nat.le_refl 3)]
        omega
      · rw [daysInYear, if_pos leap]
        omega
      · rw [before, leap, december]
    · have before : a * 400 + 1 + b * 100 + c * 4 + e - 1 =
          a * 400 + 1 + 3 * 100 + 24 * 4 + 3 := by
        omega
      have leap : isLeap (a * 400 + 1 + 3 * 100 + 24 * 4 + 3) = true := by
        rw [isLeap_cycles (Nat.le_refl 3) (Nat.le_refl 24) (Nat.le_refl 3)]
        decide
      refine ⟨a * 400 + 1 + 3 * 100 + 24 * 4 + 3, 365, by omega, ?_, ?_, ?_⟩
      · rw [daysBeforeYear_cycles (Nat.le_refl 3) (Nat.le_refl 24) (Nat.le_refl 3)]
        omega
      · rw [daysInYear, if_pos leap]
        omega
      · rw [before, leap, december]
  next day =>
    rw [not_or] at day
    have centuries : b ≤ 3 := by omega
    have fours : c ≤ 24 := by omega
    have years : e ≤ 3 := by omega
    refine ⟨a * 400 + 1 + b * 100 + c * 4 + e, d, by omega, ?_, ?_, ?_⟩
    · rw [daysBeforeYear_cycles centuries fours years]
      omega
    · have bounds := daysInYear_bounds (a * 400 + 1 + b * 100 + c * 4 + e)
      omega
    · rw [isLeap_cycles centuries fours years, monthDay]
      simp only [decide_eq_true_eq]
      exact (apply_ite (Prod.mk _) _ _ _).symm

/-! ## Later days -/

/-- Two digits for the month and two for the day. -/
def dateCode (date : Nat × Nat) : Nat := date.1 * 100 + date.2

theorem monthDay_next : ∀ leap, ∀ d < 366, (monthDay leap d).1 < 100 ∧ (monthDay leap d).2 < 100 ∧
    dateCode (monthDay leap d) < dateCode (monthDay leap (d + 1)) := by
  decide +kernel

theorem monthDay_later (leap : Bool) {d d' : Nat} (later : d < d') (year : d' < 366) :
    dateCode (monthDay leap d) < dateCode (monthDay leap d') := by
  induction d', later using Nat.le_induction with
  | base => exact (monthDay_next leap d (by omega)).2.2
  | succ d' more ih =>
    have next := (monthDay_next leap d' (by omega)).2.2
    have before := ih (by omega)
    omega

theorem ymd_bounds (n : Nat) : 1 ≤ (ymd n).1 ∧ (ymd n).2.1 < 100 ∧ (ymd n).2.2 < 100 := by
  obtain ⟨y, d, first, -, year, date⟩ := ymd_split n
  have bounds := daysInYear_bounds y
  obtain ⟨month, day, -⟩ := monthDay_next (isLeap y) d (by omega)
  rw [date]
  exact ⟨first, month, day⟩

/-- A later day has a later year, or the same and a later month and day. -/
theorem ymd_later {n n' : Nat} (later : n < n') :
    (ymd n).1 < (ymd n').1 ∨ (ymd n).1 = (ymd n').1 ∧ dateCode (ymd n).2 < dateCode (ymd n').2 := by
  obtain ⟨y, d, first, split, year, date⟩ := ymd_split n
  obtain ⟨y', d', first', split', year', date'⟩ := ymd_split n'
  rw [date, date']
  have bounds := daysInYear_bounds y'
  rcases Nat.lt_trichotomy y y' with less | same | more
  · exact Or.inl less
  · subst same
    refine Or.inr ⟨rfl, monthDay_later _ ?_ (by omega)⟩
    omega
  · have passed := daysBeforeYear_mono (by omega : 1 ≤ y' + 1) more
    rw [daysBeforeYear_succ first'] at passed
    omega

end CompleteDeviceManagement.Library.Datetime
