import Mathlib.Data.Nat.Size
import Mathlib.Tactic.Ring

/-!
# Integers as floating-point numbers

A natural number rounded to `p` significant bits, to the nearest and ties to
even. Rounding reaches `2 ^ e` from half a unit below it on
(`round_lt_iff`), and leaves alone what `p` bits and an exponent express.
-/

set_option autoImplicit false

namespace CompleteDeviceManagement.Library.Rounding

/-- The nearest multiple of `2 ^ k`, of two the even one. -/
def nearest (k n : Nat) : Nat :=
  if 2 ^ k < 2 * (n % 2 ^ k) ∨ 2 * (n % 2 ^ k) = 2 ^ k ∧ n / 2 ^ k % 2 = 1 then
    (n / 2 ^ k + 1) * 2 ^ k
  else n / 2 ^ k * 2 ^ k

def round (p n : Nat) : Nat := nearest (n.size - p) n

theorem nearest_of_dvd {k n : Nat} (h : 2 ^ k ∣ n) : nearest k n = n := by
  have hpos : 0 < 2 ^ k := Nat.two_pow_pos k
  have hrest : n % 2 ^ k = 0 := Nat.mod_eq_zero_of_dvd h
  unfold nearest
  rw [hrest, if_neg (by omega), Nat.div_mul_cancel h]

theorem le_nearest (k n : Nat) : n / 2 ^ k * 2 ^ k ≤ nearest k n := by
  unfold nearest
  split
  · exact Nat.mul_le_mul_right _ (Nat.le_succ _)
  · exact Nat.le_refl _

theorem nearest_le (k n : Nat) : nearest k n ≤ (n / 2 ^ k + 1) * 2 ^ k := by
  unfold nearest
  split
  · exact Nat.le_refl _
  · exact Nat.mul_le_mul_right _ (Nat.le_succ _)

/-- `p` bits and an exponent are enough for the number. -/
def Fits (p n : Nat) : Prop := ∃ m k, m < 2 ^ p ∧ n = m * 2 ^ k

theorem round_of_fits {p n : Nat} (h : Fits p n) : round p n = n := by
  obtain ⟨m, k, hm, rfl⟩ := h
  have hlt : m * 2 ^ k < 2 ^ (p + k) := by
    rw [Nat.pow_add]
    exact Nat.mul_lt_mul_of_pos_right hm (Nat.two_pow_pos k)
  have hsize : (m * 2 ^ k).size ≤ p + k := Nat.size_le.mpr hlt
  apply nearest_of_dvd
  exact Dvd.dvd.mul_left (Nat.pow_dvd_pow 2 (by omega)) m

/-- In the topmost binade the last number that stays below `2 ^ e` is half a
unit below the largest one. -/
theorem nearest_lt_iff {p k n : Nat} (hp : 0 < p) (hk : 0 < k) (hn : n < 2 ^ (p + k)) :
    nearest k n < 2 ^ (p + k) ↔ n < 2 ^ (p + k) - 2 ^ (k - 1) := by
  obtain ⟨j, rfl⟩ : ∃ j, k = j + 1 := ⟨k - 1, by omega⟩
  obtain ⟨i, rfl⟩ : ∃ i, p = i + 1 := ⟨p - 1, by omega⟩
  have hpos : 0 < 2 ^ j := Nat.two_pow_pos j
  have hunit : 2 ^ (j + 1) = 2 * 2 ^ j := Nat.pow_succ'
  have hbits : 2 ^ (i + 1) = 2 * 2 ^ i := Nat.pow_succ'
  have hone : 0 < 2 ^ i := Nat.two_pow_pos i
  have htop : 2 ^ (i + 1 + (j + 1)) = 2 ^ (i + 1) * 2 ^ (j + 1) := Nat.pow_add 2 _ _
  have hsplit : n / 2 ^ (j + 1) * 2 ^ (j + 1) + n % 2 ^ (j + 1) = n := Nat.div_add_mod' n _
  have hrest : n % 2 ^ (j + 1) < 2 ^ (j + 1) := Nat.mod_lt _ (Nat.two_pow_pos _)
  have hquot : n / 2 ^ (j + 1) < 2 ^ (i + 1) :=
    Nat.div_lt_of_lt_mul (by rw [Nat.mul_comm, ← htop]; exact hn)
  rw [Nat.add_sub_cancel]
  unfold nearest
  rcases Nat.lt_or_ge (n / 2 ^ (j + 1) + 1) (2 ^ (i + 1)) with below | top
  · -- not the last multiple: one unit more is still below
    have hnext : (n / 2 ^ (j + 1) + 1 + 1) * 2 ^ (j + 1) ≤ 2 ^ (i + 1) * 2 ^ (j + 1) :=
      Nat.mul_le_mul_right _ below
    rw [Nat.add_mul, Nat.add_mul, Nat.one_mul] at hnext
    have hright : n < 2 ^ (i + 1 + (j + 1)) - 2 ^ j := by omega
    refine ⟨fun _ => hright, fun _ => ?_⟩
    split
    · rw [Nat.add_mul, Nat.one_mul]
      omega
    · omega
  · -- the last multiple is odd, so half a unit is rounded up
    have hlast : n / 2 ^ (j + 1) + 1 = 2 ^ (i + 1) := by omega
    have hfull : n / 2 ^ (j + 1) * 2 ^ (j + 1) + 2 ^ (j + 1) = 2 ^ (i + 1 + (j + 1)) := by
      rw [htop, ← hlast, Nat.add_mul, Nat.one_mul]
    have hodd : n / 2 ^ (j + 1) % 2 = 1 := by omega
    split
    next up =>
      rw [Nat.add_mul, Nat.one_mul, hfull]
      omega
    next down =>
      omega

theorem round_lt_iff {p e : Nat} (hp : 0 < p) (he : p < e) (n : Nat) :
    round p n < 2 ^ e ↔ n < 2 ^ e - 2 ^ (e - p - 1) := by
  have hhalf : 2 ^ (e - p - 1) ≤ 2 ^ (e - 1) := Nat.pow_le_pow_right (by decide) (by omega)
  have hdouble : 2 ^ e = 2 * 2 ^ (e - 1) := by
    rw [← Nat.pow_succ', Nat.succ_eq_add_one, Nat.sub_add_cancel (by omega)]
  unfold round
  rcases Nat.lt_trichotomy n.size e with small | topmost | large
  · have hn : n < 2 ^ (e - 1) := Nat.size_le.mp (by omega)
    refine ⟨fun _ => by omega, fun _ => ?_⟩
    rcases Nat.lt_or_ge p n.size with long | short
    · have hquot : n / 2 ^ (n.size - p) < 2 ^ p := by
        apply Nat.div_lt_of_lt_mul
        rw [← Nat.pow_add, Nat.sub_add_cancel (by omega)]
        exact Nat.lt_size_self n
      calc nearest (n.size - p) n
          ≤ (n / 2 ^ (n.size - p) + 1) * 2 ^ (n.size - p) := nearest_le _ _
        _ ≤ 2 ^ p * 2 ^ (n.size - p) := Nat.mul_le_mul_right _ hquot
        _ = 2 ^ n.size := by rw [← Nat.pow_add, Nat.add_sub_cancel' (by omega)]
        _ < 2 ^ e := Nat.pow_lt_pow_right (by decide) small
    · have hzero : n.size - p = 0 := by omega
      rw [hzero, nearest_of_dvd (by simp)]
      omega
  · have hn : n < 2 ^ (p + (e - p)) := by
      rw [Nat.add_sub_cancel' (by omega), ← topmost]
      exact Nat.lt_size_self n
    have hiff := nearest_lt_iff hp (by omega) hn
    rw [Nat.add_sub_cancel' (by omega)] at hiff
    rw [topmost]
    exact hiff
  · have hn : 2 ^ (n.size - 1) ≤ n := Nat.lt_size.mp (by omega)
    have hbig : 2 ^ e ≤ 2 ^ (n.size - 1) := Nat.pow_le_pow_right (by decide) (by omega)
    have hmultiple : 2 ^ (n.size - 1) = 2 ^ (p - 1) * 2 ^ (n.size - p) := by
      rw [← Nat.pow_add]
      congr 1
      omega
    have hquot : 2 ^ (p - 1) ≤ n / 2 ^ (n.size - p) :=
      (Nat.le_div_iff_mul_le (Nat.two_pow_pos _)).mpr (by rw [← hmultiple]; exact hn)
    have hround : 2 ^ e ≤ nearest (n.size - p) n :=
      calc 2 ^ e ≤ 2 ^ (p - 1) * 2 ^ (n.size - p) := by rw [← hmultiple]; exact hbig
        _ ≤ n / 2 ^ (n.size - p) * 2 ^ (n.size - p) := Nat.mul_le_mul_right _ hquot
        _ ≤ nearest (n.size - p) n := le_nearest _ _
    have hbelow : 2 ^ e - 2 ^ (e - p - 1) ≤ 2 ^ e := Nat.sub_le _ _
    omega

/-! ## Integers -/

/-- The number of `p` bits nearest to an integer, or none where that reaches
`2 ^ e`. -/
def ofInt (p e : Nat) (n : Int) : Option Int :=
  if round p n.natAbs < 2 ^ e then some (n.sign * round p n.natAbs) else none

/-- The integer is such a number itself. -/
def Exact (p e : Nat) (n : Int) : Prop := Fits p n.natAbs ∧ n.natAbs < 2 ^ e

theorem ofInt_isSome_iff {p e : Nat} (hp : 0 < p) (he : p < e) (n : Int) :
    (ofInt p e n).isSome = true ↔ n.natAbs < 2 ^ e - 2 ^ (e - p - 1) := by
  rw [← round_lt_iff hp he]
  unfold ofInt
  split
  next below => simpa using below
  next above => simpa using above

theorem ofInt_of_exact {p e : Nat} {n : Int} (h : Exact p e n) : ofInt p e n = some n := by
  unfold ofInt
  rw [round_of_fits h.1, if_pos h.2, Int.sign_mul_natAbs]

/-! ## binary64 -/

@[irreducible] def toDouble (n : Int) : Option Int := ofInt 53 1024 n

/-- From here on an integer is nearer to `2 ^ 1024` than to a finite double. -/
@[irreducible] def doubleLimit : Nat := 2 ^ 1024 - 2 ^ (1024 - 53 - 1)

theorem toDouble_isSome_iff (n : Int) : (toDouble n).isSome = true ↔ n.natAbs < doubleLimit := by
  unfold toDouble doubleLimit
  exact ofInt_isSome_iff (by omega) (by omega) n

theorem toDouble_of_exact {n : Int} (h : Exact 53 1024 n) : toDouble n = some n := by
  unfold toDouble
  exact ofInt_of_exact h

end CompleteDeviceManagement.Library.Rounding
