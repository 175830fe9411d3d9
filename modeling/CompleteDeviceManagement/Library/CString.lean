import Mathlib.Data.List.TakeWhile

/-!
# Arrays and strings of C

An assignment to an element of an array is checked here. The string in an array ends
before its first NUL.
-/

set_option autoImplicit false

namespace CompleteDeviceManagement.Library.CString

/-- The array behind `array[i] = a`, if it has that element. -/
def store {α : Type} (array : List α) (i : Nat) (a : α) : Option (List α) :=
  if i < array.length then some (array.set i a) else none

theorem store_next {α : Type} (done more : List α) (old a : α) :
    store (done ++ old :: more) done.length a = some (done ++ a :: more) := by
  have inside : done.length < (done ++ old :: more).length := by
    simp
  rw [store, if_pos inside, List.set_append_right _ _ (Nat.le_refl _), Nat.sub_self,
    List.set_cons_zero]

def cString (array : List UInt8) : List UInt8 := array.takeWhile (· ≠ 0)

theorem cString_terminated {text : List UInt8} (plain : 0 ∉ text) (behind : List UInt8) :
    cString (text ++ 0 :: behind) = text := by
  induction text with
  | nil => rfl
  | cons b text ih =>
    simp only [List.mem_cons, not_or] at plain
    have other : b ≠ 0 := Ne.symm plain.1
    unfold cString at ih ⊢
    rw [List.cons_append, List.takeWhile_cons_of_pos (by simpa using other), ih plain.2]

end CompleteDeviceManagement.Library.CString
