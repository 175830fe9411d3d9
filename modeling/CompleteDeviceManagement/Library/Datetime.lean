import Mathlib.Data.Nat.Notation

/-!
# UTC datetimes

An instant is the number of microseconds since the start of the year 1. Its text
is the one of `isoformat()` in UTC: the fraction is left out when it is zero.
-/

set_option autoImplicit false

namespace CompleteDeviceManagement.Library

structure Datetime where
  micros : Nat
  deriving DecidableEq, Repr

namespace Datetime

def microsPerDay : Nat := 86400000000

def addHours (t : Datetime) (hours : Nat) : Datetime := ⟨t.micros + hours * 3600000000⟩

/-- Whole seconds since 1970-01-01. -/
def unixSeconds (t : Datetime) : Int := (t.micros / 1000000 : Nat) - 62135596800

def daysBeforeMonth : List Nat := [0, 0, 31, 59, 90, 120, 151, 181, 212, 243, 273, 304, 334]

def daysInMonth : List Nat := [0, 31, 28, 31, 30, 31, 30, 31, 31, 30, 31, 30, 31]

/-- Year, month and day of the day number `n`, counted from 0: 400-year,
100-year, 4-year and single years are split off, then the month is guessed from
above and corrected by at most one. -/
def ymd (n : Nat) : Nat × Nat × Nat :=
  let n400 := n / 146097
  let n := n % 146097
  let n100 := n / 36524
  let n := n % 36524
  let n4 := n / 1461
  let n := n % 1461
  let n1 := n / 365
  let n := n % 365
  let year := n400 * 400 + 1 + n100 * 100 + n4 * 4 + n1
  if n1 = 4 ∨ n100 = 4 then (year - 1, 12, 31)
  else
    let leapyear := n1 = 3 ∧ (n4 ≠ 24 ∨ n100 = 3)
    let month := (n + 50) / 32
    let preceding := daysBeforeMonth.getD month 0 + if 2 < month ∧ leapyear then 1 else 0
    if n < preceding then
      let month := month - 1
      let preceding := preceding -
        (daysInMonth.getD month 0 + if month = 2 ∧ leapyear then 1 else 0)
      (year, month, n - preceding + 1)
    else (year, month, n - preceding + 1)

/-- `%0{width}d` -/
def pad (width n : Nat) : String :=
  let digits := Nat.toDigits 10 n
  .ofList (List.replicate (width - digits.length) '0' ++ digits)

def isoformat (t : Datetime) : String :=
  let (year, month, day) := ymd (t.micros / microsPerDay)
  let inDay := t.micros % microsPerDay
  let seconds := inDay / 1000000
  let micros := inDay % 1000000
  pad 4 year ++ "-" ++ pad 2 month ++ "-" ++ pad 2 day ++ "T" ++
    pad 2 (seconds / 3600) ++ ":" ++ pad 2 (seconds / 60 % 60) ++ ":" ++ pad 2 (seconds % 60) ++
    (if micros = 0 then "" else "." ++ pad 6 micros) ++ "+00:00"

example : isoformat ⟨63892281600000001⟩ = "2025-09-01T00:00:00.000001+00:00" := by decide +kernel

end Datetime

end CompleteDeviceManagement.Library
