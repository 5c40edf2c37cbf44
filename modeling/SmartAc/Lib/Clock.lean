import Mathlib.Algebra.Order.Floor.Semifield
import Mathlib.Data.Rat.Floor
import Mathlib.Tactic.Linarith

/-!
# Wrapping 32-bit clocks

A counter that is read as `uint32_t` shows a real time `t` (any `Nat`) modulo `2^32`. The
difference of two readings is the elapsed time modulo `2^32`, and the elapsed time itself when
that is below `2^32`; the sign of the difference as `int32_t` is bit 31 of it. A counter of whole ticks
rounds a time in between down, so that a difference is off by less than one tick.
-/

namespace WrapClock

/-- The 32-bit reading of real time `t`. -/
def reading (t : Nat) : UInt32 := UInt32.ofNat t

@[simp] theorem toNat_reading (t : Nat) : (reading t).toNat = t % 2 ^ 32 := by
  simp [reading]

/-- The difference of two readings is the elapsed time modulo `2^32`. -/
theorem toNat_sub_reading {s t : Nat} (h : s ≤ t) :
    (reading t - reading s).toNat = (t - s) % 2 ^ 32 := by
  rw [UInt32.toNat_sub, toNat_reading, toNat_reading]
  omega

theorem toNat_sub_reading_of_lt {s t : Nat} (h : s ≤ t) (hlt : t - s < 2 ^ 32) :
    (reading t - reading s).toNat = t - s := by
  rw [toNat_sub_reading h, Nat.mod_eq_of_lt hlt]

/-- `now - since < limit` on readings compares the true elapsed time, below one wrap. -/
theorem sub_reading_lt_iff {s t : Nat} (h : s ≤ t) (hlt : t - s < 2 ^ 32) (limit : UInt32) :
    reading t - reading s < limit ↔ t - s < limit.toNat := by
  rw [UInt32.lt_iff_toNat_lt, toNat_sub_reading_of_lt h hlt]

theorem le_sub_reading_iff {s t : Nat} (h : s ≤ t) (hlt : t - s < 2 ^ 32) (limit : UInt32) :
    limit ≤ reading t - reading s ↔ limit.toNat ≤ t - s := by
  rw [UInt32.le_iff_toNat_le, toNat_sub_reading_of_lt h hlt]

/-- A reading shifted by a constant is the reading of the shifted time. -/
theorem reading_add (t : Nat) (k : UInt32) : reading t + k = reading (t + k.toNat) := by
  apply UInt32.toNat_inj.1
  rw [UInt32.toNat_add, toNat_reading, toNat_reading]
  omega

/-- An age does not depend on where the clock starts. -/
theorem add_sub_add (now since offset : UInt32) : now + offset - (since + offset) = now - since := by
  apply UInt32.toNat_inj.1
  rw [UInt32.toNat_sub, UInt32.toNat_sub, UInt32.toNat_add, UInt32.toNat_add]
  have hoffset := offset.toNat_lt
  have hsince := since.toNat_lt
  omega

/-- An age grows with the time, as long as it does not wrap. -/
theorem toNat_sub_later {s t : Nat} (since : UInt32) (h : s ≤ t)
    (hlt : (reading s - since).toNat + (t - s) < 2 ^ 32) :
    (reading t - since).toNat = (reading s - since).toNat + (t - s) := by
  have hsince := since.toNat_lt
  rw [UInt32.toNat_sub, toNat_reading] at hlt ⊢
  rw [UInt32.toNat_sub, toNat_reading]
  omega

/-- A counter that has wrapped, scaled by a whole factor, reads as the scaled time. -/
theorem reading_mul_mod (k n : Nat) : reading (k * (n % 2 ^ 32)) = reading (k * n) := by
  apply UInt32.toNat_inj.1
  rw [toNat_reading, toNat_reading, Nat.mul_mod_mod]

/-- A count scaled by `c / r` and rounded down: a difference of two such values is the scaled
difference of the counts, up to less than one. -/
theorem scaled_sub_near (c r a d : Nat) :
    |((c * (a + d) / r : Nat) : Rat) - ((c * a / r : Nat) : Rat) - c * d / r| < 1 := by
  have hexact : (c * d / r : Rat) = ((c * (a + d) : Nat) : Rat) / r - ((c * a : Nat) : Rat) / r := by
    push_cast
    ring
  have hlow := Nat.floor_le (a := ((c * a : Nat) : Rat) / r) (by positivity)
  have hlow' := Nat.lt_floor_add_one (((c * a : Nat) : Rat) / r)
  have hhigh := Nat.floor_le (a := ((c * (a + d) : Nat) : Rat) / r) (by positivity)
  have hhigh' := Nat.lt_floor_add_one (((c * (a + d) : Nat) : Rat) / r)
  rw [Nat.floor_div_eq_div] at hlow hlow' hhigh hhigh'
  rw [hexact, abs_lt]
  constructor <;> linarith

/-- A counter that rounds down: a difference of two readings is the elapsed time, up to less than one tick. -/
theorem sub_reading_floor {K : Type*} [Field K] [LinearOrder K] [IsStrictOrderedRing K] [FloorSemiring K]
    {s t : K} (hs : 0 ≤ s) (h : s ≤ t) (hlt : t - s < 2 ^ 32 - 1) :
    t - s - 1 < ((reading ⌊t⌋₊ - reading ⌊s⌋₊).toNat : K) ∧
      ((reading ⌊t⌋₊ - reading ⌊s⌋₊).toNat : K) < t - s + 1 := by
  have hmono : ⌊s⌋₊ ≤ ⌊t⌋₊ := Nat.floor_mono h
  have hlow := Nat.floor_le hs
  have hlow' := Nat.lt_floor_add_one s
  have hhigh := Nat.floor_le (hs.trans h)
  have hhigh' := Nat.lt_floor_add_one t
  have hcast : ((⌊t⌋₊ - ⌊s⌋₊ : Nat) : K) = (⌊t⌋₊ : K) - ⌊s⌋₊ := Nat.cast_sub hmono
  have hwrap : ⌊t⌋₊ - ⌊s⌋₊ < 2 ^ 32 := by
    have hreal : ((⌊t⌋₊ - ⌊s⌋₊ : Nat) : K) < ((2 ^ 32 : Nat) : K) := by
      push_cast
      rw [hcast]
      linarith
    exact_mod_cast hreal
  rw [toNat_sub_reading_of_lt hmono hwrap, hcast]
  constructor <;> linarith

/-- `(int32_t)x < 0` is bit 31 of `x`. -/
theorem toInt32_neg_iff (x : UInt32) : x.toInt32 < 0 ↔ 2 ^ 31 ≤ x.toNat := by
  have hx := x.toNat_lt
  rw [Int32.lt_iff_toInt_lt]
  simp only [Int32.toInt, UInt32.toBitVec_toInt32, BitVec.toInt_eq_toNat_cond, UInt32.toNat_toBitVec]
  simp only [Int32.toBitVec_zero, BitVec.toNat_ofNat]
  split <;> omega

/-- A deadline at most half a wrap ahead tests as pending. -/
theorem sub_reading_neg_of_lt {t deadline : Nat} (h : t < deadline) (hle : deadline - t ≤ 2 ^ 31) :
    (reading t - reading deadline).toInt32 < 0 := by
  rw [toInt32_neg_iff, UInt32.toNat_sub, toNat_reading, toNat_reading]
  omega

/-- A deadline that has passed tests as pending again in the second half of every wrap. -/
theorem sub_reading_neg_iff {t deadline : Nat} (h : deadline ≤ t) :
    (reading t - reading deadline).toInt32 < 0 ↔ 2 ^ 31 ≤ (t - deadline) % 2 ^ 32 := by
  rw [toInt32_neg_iff, toNat_sub_reading h]

end WrapClock
