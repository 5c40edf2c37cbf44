import Mathlib.Data.Nat.Cast.Field
import Mathlib.Data.Nat.ModEq
import SmartAc.Lib.Clock

/-!
# The millisecond clock: `App_Millis`

| here | there |
| --- | --- |
| `appMillis`  | `App_Millis`, given what `OSTimeGet` returned (`app_board.c:24-30`) |
| `osTimeGet`  | **kernel boundary**: the tick counter after any number of ticks |
| `rate`       | `OSCfg_TickRate_Hz` |

The kernel is not part of the repository; what is assumed of its counter is that it shows the ticks so
far modulo `2^32`. The other modules take the clock to be the reading of a real time in milliseconds:
`appMillis_reading` says at which rates it is one.
-/

namespace SmartAc

open WrapClock

/-- `App_Millis` (`app_board.c:24`): product and quotient are 64 bits wide, the result 32. -/
def appMillis (ticks rate : UInt32) : UInt32 := (ticks.toUInt64 * 1000 / rate.toUInt64).toUInt32

/-- The product of a tick count and 1000 fits into 64 bits. -/
theorem appMillis_eq (ticks rate : UInt32) :
    appMillis ticks rate = reading (1000 * ticks.toNat / rate.toNat) := by
  have hticks := ticks.toNat_lt
  have hthousand : (1000 : UInt64).toNat = 1000 := rfl
  have hproduct : (ticks.toUInt64 * 1000).toNat = 1000 * ticks.toNat := by
    rw [UInt64.toNat_mul, UInt32.toNat_toUInt64, hthousand, Nat.mul_comm]
    exact Nat.mod_eq_of_lt (by omega)
  apply UInt32.toNat_inj.1
  rw [appMillis, UInt64.toNat_toUInt32, UInt64.toNat_div, hproduct, UInt32.toNat_toUInt64, toNat_reading]

/-- `now - since` of two readings `d` ticks apart, the first after `a` ticks. -/
def elapsedMs (osTimeGet : Nat → UInt32) (rate : UInt32) (a d : Nat) : UInt32 :=
  appMillis (osTimeGet (a + d)) rate - appMillis (osTimeGet a) rate

section kernel
variable {osTimeGet : Nat → UInt32} (hticks : ∀ n, (osTimeGet n).toNat = n % 2 ^ 32)
include hticks

/-- At a rate that divides 1000 the clock is the reading of the time in milliseconds, whether the tick
counter has wrapped or not. -/
theorem appMillis_reading {rate : UInt32} (hrate : rate.toNat ∣ 1000) (n : Nat) :
    appMillis (osTimeGet n) rate = reading (1000 * n / rate.toNat) := by
  obtain ⟨k, hk⟩ := hrate
  have hpos : 0 < rate.toNat := Nat.pos_of_ne_zero fun h => by simp [h] at hk
  have hscaled (m : Nat) : 1000 * m / rate.toNat = k * m := by
    rw [hk, Nat.mul_assoc, Nat.mul_div_cancel_left _ hpos]
  rw [appMillis_eq, hticks, hscaled, hscaled, reading_mul_mod]

/-- Without a wrap of the tick counter: the difference of the rounded times. -/
theorem elapsedMs_toNat (rate : UInt32) {a d : Nat} (hwrap : a + d < 2 ^ 32) :
    (elapsedMs osTimeGet rate a d).toNat =
      (1000 * (a + d) / rate.toNat - 1000 * a / rate.toNat) % 2 ^ 32 := by
  have hle : 1000 * a / rate.toNat ≤ 1000 * (a + d) / rate.toNat := Nat.div_le_div_right (by omega)
  rw [elapsedMs, appMillis_eq, appMillis_eq, hticks, hticks, Nat.mod_eq_of_lt hwrap,
    Nat.mod_eq_of_lt (by omega), toNat_sub_reading hle]

/-- At a rate that divides 1000: the exact time, across any wraps. -/
theorem elapsedMs_exact {rate : UInt32} (hrate : rate.toNat ∣ 1000) (a d : Nat) :
    (elapsedMs osTimeGet rate a d).toNat = 1000 * d / rate.toNat % 2 ^ 32 := by
  have hsum : 1000 * (a + d) / rate.toNat = 1000 * a / rate.toNat + 1000 * d / rate.toNat := by
    rw [Nat.mul_add, Nat.add_div_of_dvd_right (hrate.mul_right a)]
  have hle : 1000 * a / rate.toNat ≤ 1000 * (a + d) / rate.toNat := Nat.div_le_div_right (by omega)
  rw [elapsedMs, appMillis_reading hticks hrate, appMillis_reading hticks hrate, toNat_sub_reading hle, hsum,
    Nat.add_sub_cancel_left]

end kernel

/-- **Elapsed time from `App_Millis`**: without a wrap of the tick counter it is off by less than a
millisecond, and at a rate that divides 1000 it is exact across any wraps, so that every test against
a limit compares the true elapsed milliseconds, below one wrap of them. -/
theorem elapsed_right (osTimeGet : Nat → UInt32) (hticks : ∀ n, (osTimeGet n).toNat = n % 2 ^ 32) :
    (∀ (rate : UInt32) (a d : Nat), 0 < rate → a + d < 2 ^ 32 → ∃ ms : Int,
      ((elapsedMs osTimeGet rate a d).toNat : Int) = ms % 2 ^ 32 ∧
        |(ms : Rat) - 1000 * d / rate.toNat| < 1) ∧
    (∀ (rate : UInt32) (a d : Nat), rate.toNat ∣ 1000 → ∃ ms : Nat,
      (ms : Rat) = 1000 * d / rate.toNat ∧
        (elapsedMs osTimeGet rate a d).toNat = ms % 2 ^ 32 ∧
        (ms < 2 ^ 32 → ∀ limit : UInt32, limit ≤ elapsedMs osTimeGet rate a d ↔
          (limit.toNat : Rat) ≤ 1000 * d / rate.toNat)) := by
  constructor
  · intro rate a d hpos hwrap
    have hle : 1000 * a / rate.toNat ≤ 1000 * (a + d) / rate.toNat := Nat.div_le_div_right (by omega)
    have hnear := scaled_sub_near 1000 rate.toNat a d
    refine ⟨((1000 * (a + d) / rate.toNat - 1000 * a / rate.toNat : Nat) : Int), ?_, ?_⟩
    · rw [elapsedMs_toNat hticks rate hwrap]
      norm_cast
    · rw [Int.cast_natCast, Nat.cast_sub hle]
      exact_mod_cast hnear
  · intro rate a d hrate
    have hpos : (rate.toNat : Rat) ≠ 0 := by
      rw [Nat.cast_ne_zero]
      exact ne_zero_of_dvd_ne_zero (by decide) hrate
    have hms : ((1000 * d / rate.toNat : Nat) : Rat) = 1000 * d / rate.toNat := by
      rw [Nat.cast_div (hrate.mul_right d) hpos, Nat.cast_mul, Nat.cast_ofNat]
    have hexact := elapsedMs_exact hticks hrate a d
    refine ⟨1000 * d / rate.toNat, hms, hexact, fun hlt limit => ?_⟩
    rw [UInt32.le_iff_toNat_le, hexact, Nat.mod_eq_of_lt hlt, ← hms]
    exact Nat.cast_le.symm

/-- At 300 ticks a second one tick counts as 3 ms or 4; at 500 the seven ticks across the wrap of the
counter are 14 ms. -/
theorem elapsed_right_rates :
    (∃ ms : Int, ((elapsedMs UInt32.ofNat 300 7 1).toNat : Int) = ms % 2 ^ 32 ∧
      |(ms : Rat) - 1000 * (1 : Nat) / (300 : UInt32).toNat| < 1) ∧
    (∃ ms : Nat, (ms : Rat) = 1000 * (7 : Nat) / (500 : UInt32).toNat ∧
      (elapsedMs UInt32.ofNat 500 (2 ^ 32 - 3) 7).toNat = ms % 2 ^ 32 ∧
      (ms < 2 ^ 32 → ∀ limit : UInt32, limit ≤ elapsedMs UInt32.ofNat 500 (2 ^ 32 - 3) 7 ↔
        (limit.toNat : Rat) ≤ 1000 * (7 : Nat) / (500 : UInt32).toNat)) := by
  have hticks : ∀ n, (UInt32.ofNat n).toNat = n % 2 ^ 32 := fun _ => UInt32.toNat_ofNat'
  exact ⟨(elapsed_right UInt32.ofNat hticks).1 300 7 1 (by decide) (by decide),
    (elapsed_right UInt32.ofNat hticks).2 500 (2 ^ 32 - 3) 7 (by decide)⟩

end SmartAc
