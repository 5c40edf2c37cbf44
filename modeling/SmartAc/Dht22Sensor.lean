import Mathlib.Data.Nat.Count
import SmartAc.Dht22Pulse

/-!
# A sensor with nominal pulse widths

`sensorLine` is what a sensor shows that sends `bytes` from time `start` on: 80 µs of response low and
high, and for each bit 50 µs low, then 70 µs high for a one and 26 µs for a zero. `evenlyPolled` is a driver
that polls at even intervals of one to two microseconds, not in step with the timer. Every frame so sent
meets what the decoding needs.
-/

namespace SmartAc

open WrapClock

/-- The width of a segment. -/
def pulseUs (bytes : List UInt8) (i : Nat) : Nat :=
  if i < 2 then 80
  else if i % 2 = 0 then 50
  else if frameBit bytes ((i - 3) / 2) then 70 else 26

/-- The beginning of a segment. -/
def edgeUs (start : Nat) (bytes : List UInt8) : Nat → Nat
  | 0 => start
  | i + 1 => edgeUs start bytes i + pulseUs bytes i

/-- The line is high before the first edge, and every edge changes it. -/
def sensorLine (start : Nat) (bytes : List UInt8) (t : Nat) : Bool :=
  Nat.count (fun i => edgeUs start bytes i ≤ t) 84 % 2 == 0

theorem pulseUs_bounds (bytes : List UInt8) (i : Nat) : 26 ≤ pulseUs bytes i ∧ pulseUs bytes i ≤ 80 := by
  unfold pulseUs
  split
  · omega
  · split
    · omega
    · split <;> omega

theorem edgeUs_succ (start : Nat) (bytes : List UInt8) (i : Nat) :
    edgeUs start bytes (i + 1) = edgeUs start bytes i + pulseUs bytes i := rfl

theorem edgeUs_mono (start : Nat) (bytes : List UInt8) : Monotone (edgeUs start bytes) :=
  monotone_nat_of_le_succ fun _ => Nat.le_add_right _ _

theorem edgeUs_le (start : Nat) (bytes : List UInt8) (i : Nat) :
    edgeUs start bytes i ≤ start + 80 * i := by
  induction i with
  | zero => exact le_refl _
  | succ i ih =>
    have := (pulseUs_bounds bytes i).2
    rw [edgeUs_succ]
    omega

/-- The high pulse of bit `b`. -/
theorem pulseUs_bit (bytes : List UInt8) (b : Nat) :
    pulseUs bytes (3 + 2 * b) = if frameBit bytes b then 70 else 26 := by
  have hbit : (3 + 2 * b - 3) / 2 = b := by omega
  unfold pulseUs
  rw [if_neg (by omega), if_neg (by omega), hbit]

/-- As many edges have passed as there are segments begun. -/
theorem sensorLine_of_passed {start : Nat} {bytes : List UInt8} {t m : Nat} (hm : m ≤ 84)
    (hpassed : ∀ i < 84, edgeUs start bytes i ≤ t ↔ i < m) :
    sensorLine start bytes t = (m % 2 == 0) := by
  have hcount : Nat.count (fun i => edgeUs start bytes i ≤ t) 84 = m := by
    rw [Nat.count_eq_card_filter_range, Finset.filter_congr fun i hi => hpassed i (Finset.mem_range.1 hi)]
    have hrange : Finset.filter (fun i => i < m) (Finset.range 84) = Finset.range m := by
      ext i
      rw [Finset.mem_filter, Finset.mem_range, Finset.mem_range]
      omega
    rw [hrange, Finset.card_range]
  rw [sensorLine, hcount]

theorem sensorLine_idle {start : Nat} {bytes : List UInt8} {t : Nat} (ht : t < start) :
    sensorLine start bytes t = true := by
  refine sensorLine_of_passed (m := 0) (by omega) fun i _ => ?_
  have hmono : start ≤ edgeUs start bytes i := edgeUs_mono start bytes (Nat.zero_le i)
  omega

theorem sensorLine_level {start : Nat} {bytes : List UInt8} {i t : Nat} (hi : i ≤ 82)
    (hlo : edgeUs start bytes i ≤ t) (hhi : t < edgeUs start bytes (i + 1)) :
    sensorLine start bytes t = segmentLevel i := by
  have hpassed (j : Nat) (_ : j < 84) : edgeUs start bytes j ≤ t ↔ j < i + 1 := by
    constructor
    · intro hj
      by_contra hlate
      have hmono := edgeUs_mono start bytes (show i + 1 ≤ j by omega)
      omega
    · intro hj
      exact (edgeUs_mono start bytes (Nat.le_of_lt_succ hj)).trans hlo
  rw [sensorLine_of_passed (by omega) hpassed, segmentLevel]
  rcases Nat.mod_two_eq_zero_or_one i with h | h <;> simp [h, Nat.add_mod]

theorem edgeUs_bit (start : Nat) (bytes : List UInt8) (b : Nat) :
    edgeUs start bytes (4 + 2 * b) = edgeUs start bytes (3 + 2 * b) + if frameBit bytes b then 70 else 26 := by
  rw [show 4 + 2 * b = 3 + 2 * b + 1 by omega, edgeUs_succ, pulseUs_bit]

/-- The beginnings of the segments as times, and the signal at any time. -/
def edgeTime (start : Nat) (bytes : List UInt8) (i : Nat) : Rat := edgeUs start bytes i

def sensorSignal (start : Nat) (bytes : List UInt8) (t : Rat) : Bool := sensorLine start bytes ⌊t⌋₊

theorem edgeTime_succ (start : Nat) (bytes : List UInt8) (i : Nat) :
    edgeTime start bytes i + 26 ≤ edgeTime start bytes (i + 1) ∧
      edgeTime start bytes (i + 1) ≤ edgeTime start bytes i + 80 := by
  obtain ⟨hlo, hhi⟩ := pulseUs_bounds bytes i
  have hsucc := edgeUs_succ start bytes i
  unfold edgeTime
  constructor
  · have hnat : edgeUs start bytes i + 26 ≤ edgeUs start bytes (i + 1) := by omega
    exact_mod_cast hnat
  · have hnat : edgeUs start bytes (i + 1) ≤ edgeUs start bytes i + 80 := by omega
    exact_mod_cast hnat

theorem edgeTime_bit (start : Nat) (bytes : List UInt8) (b : Nat) :
    edgeTime start bytes (4 + 2 * b) = edgeTime start bytes (3 + 2 * b) + if frameBit bytes b then 70 else 26 := by
  rw [edgeTime, edgeUs_bit, edgeTime]
  push_cast
  rfl

/-- Every frame is sent as a waveform that polls up to 6 µs apart can tell. -/
theorem sensor_waveform (start : Nat) {begin : Rat} (hbegin : 0 ≤ begin) (bytes : List UInt8) {d : Rat} (hd : d ≤ 6) :
    Waveform (sensorSignal start bytes) (edgeTime start bytes) begin d bytes where
  idle t ht hlt := sensorLine_idle ((Nat.floor_lt (hbegin.trans ht)).2 hlt)
  level i hi t hlo hhi := by
    have ht : 0 ≤ t := (Nat.cast_nonneg (edgeUs start bytes i)).trans hlo
    exact sensorLine_level hi (Nat.le_floor hlo) ((Nat.floor_lt ht).2 hhi)
  long i _ := by
    have hwidth := (edgeTime_succ start bytes i).1
    linarith
  short i _ := by
    have hwidth := (edgeTime_succ start bytes i).2
    linarith
  zero b _ hbit := by
    have hwidth := edgeTime_bit start bytes b
    rw [hbit, if_neg Bool.false_ne_true] at hwidth
    linarith
  one b _ hbit := by
    have hwidth := edgeTime_bit start bytes b
    rw [hbit, if_pos rfl] at hwidth
    linarith

/-! ## A driver that polls at even intervals -/

/-- The time of poll `k`, for a first poll at `start`. -/
def pollAt (start interval : Rat) (k : Nat) : Rat := start + interval * k

/-- A microsecond for each reading up to `start`; afterwards a reading directly after each poll. -/
def readAt (start interval : Rat) : Nat → Nat → Rat
  | 0, j => min j start
  | k + 1, _ => pollAt start interval k

/-- The hardware as this driver sees it. -/
def evenlyPolled (start interval : Rat) (signal : Rat → Bool) : DhtEnv where
  timerReady := true
  line k := signal (pollAt start interval k)
  timer k j := reading ⌊readAt start interval k j⌋₊

theorem pollAt_succ (start interval : Rat) (k : Nat) :
    pollAt start interval (k + 1) = pollAt start interval k + interval := by
  unfold pollAt
  push_cast
  ring

theorem edgeTime_le (start : Nat) (bytes : List UInt8) (i : Nat) : edgeTime start bytes i ≤ start + 80 * i := by
  have hnat := edgeUs_le start bytes i
  unfold edgeTime
  exact_mod_cast hnat

section polled
variable {start interval : Rat} {response : Nat} {bytes : List UInt8} {signal : Rat → Bool}

theorem readAt_nonneg (hzero : 0 ≤ start) (hlo : 0 ≤ interval) (k j : Nat) : 0 ≤ readAt start interval k j := by
  cases k with
  | zero => exact le_min (Nat.cast_nonneg j) hzero
  | succ k => exact add_nonneg hzero (mul_nonneg hlo (Nat.cast_nonneg k))

theorem evenlyPolled_polls (hzero : 0 ≤ start) (hlo : 0 ≤ interval) :
    Polls (evenlyPolled start interval signal) signal (pollAt start interval) (readAt start interval) interval where
  line _ := rfl
  timer _ _ := rfl
  forward k := by
    rw [pollAt_succ]
    linarith
  apart k := (pollAt_succ start interval k).le
  origin j := readAt_nonneg hzero hlo 0 j
  before j := by
    have hfirst : pollAt start interval 0 = start := by simp [pollAt]
    rw [hfirst]
    exact min_le_right _ _
  between k j := by
    rw [pollAt_succ]
    exact ⟨le_refl _, le_add_of_nonneg_right hlo⟩

/-- The frame ends within 16.7 ms of the start of the clock. -/
theorem frame_end (hresponse : response ≤ start + 80) (hfirst : start ≤ 10000) :
    edgeTime response bytes 82 ≤ 16640 := by
  have hedge := edgeTime_le response bytes 82
  push_cast at hedge
  linarith

/-- A response that begins within 80 µs of the first poll is read in time, if the first poll is within
10 ms of the start of the clock. -/
theorem evenlyPolled_inTime (hzero : 0 ≤ start) (hlo : 1 ≤ interval) (hhi : interval ≤ 2)
    (hstart : start ≤ response) (hresponse : response ≤ start + 80) (hfirst : start ≤ 10000) :
    InTime (evenlyPolled start interval signal) (pollAt start interval) (readAt start interval)
      (edgeTime response bytes) interval where
  start := by
    have hedge : edgeTime response bytes 1 = ((response + 80 : Nat) : Rat) := rfl
    have hpoll : pollAt start interval 0 = start := by simp [pollAt]
    rw [hedge, hpoll]
    push_cast
    linarith
  deadline := by
    have hread : 0 ≤ deadlineTime (evenlyPolled start interval signal) (readAt start interval) :=
      readAt_nonneg hzero (by linarith) _ _
    have hend : edgeTime response bytes 82 ≤ 16640 := frame_end hresponse hfirst
    linarith
  firstWait := by
    have hturns : ((appDhtLoopGuard - 1 : Nat) : Rat) = 19999 := by norm_num [appDhtLoopGuard]
    have hedge : edgeTime response bytes 0 = response := rfl
    rw [hedge, pollAt, hturns]
    linarith
  waits i _ k hk := by
    have hwidth := (edgeTime_succ response bytes i).2
    have hturns : pollAt start interval (k + appDhtLoopGuard) =
        pollAt start interval k + interval * appDhtLoopGuard := by
      unfold pollAt
      push_cast
      ring
    have hguard : (80 : Rat) ≤ appDhtLoopGuard := by norm_num [appDhtLoopGuard]
    have hmany : (80 : Rat) ≤ interval * appDhtLoopGuard := by nlinarith
    rw [hturns]
    linarith

/-- The nominal widths leave room for the rounding. -/
theorem evenlyPolled_tickMargin (hzero : 0 ≤ start) (hlo : 1 ≤ interval) (hhi : interval ≤ 2)
    (hresponse : response ≤ start + 80) (hfirst : start ≤ 10000) :
    TickMargin (evenlyPolled start interval signal) (readAt start interval) (edgeTime response bytes)
      interval bytes where
  one b _ hbit := by
    have hwidth := edgeTime_bit response bytes b
    rw [hbit, if_pos rfl] at hwidth
    linarith
  short i _ := by
    have hwidth := (edgeTime_succ response bytes i).2
    linarith
  deadline := by
    have hread : 0 ≤ deadlineTime (evenlyPolled start interval signal) (readAt start interval) :=
      readAt_nonneg hzero (by linarith) _ _
    have hend : edgeTime response bytes 82 ≤ 16640 := frame_end hresponse hfirst
    linarith

/-- Every frame that such a sensor sends to such a driver meets what the decoding needs. -/
theorem evenlyPolled_shows (start interval : Rat) (response : Nat) (bytes : List UInt8) (hzero : 0 ≤ start)
    (hlo : 1 ≤ interval) (hhi : interval ≤ 2) (hstart : start ≤ response) (hresponse : response ≤ start + 80)
    (hfirst : start ≤ 10000) :
    let signal := sensorSignal response bytes
    let env := evenlyPolled start interval signal
    Waveform signal (edgeTime response bytes) (pollAt start interval 0) interval bytes ∧
      Polls env signal (pollAt start interval) (readAt start interval) interval ∧
      InTime env (pollAt start interval) (readAt start interval) (edgeTime response bytes) interval ∧
      TickMargin env (readAt start interval) (edgeTime response bytes) interval bytes := by
  have hbegin : 0 ≤ pollAt start interval 0 := by simpa [pollAt] using hzero
  exact ⟨sensor_waveform response hbegin bytes (by linarith), evenlyPolled_polls hzero (by linarith),
    evenlyPolled_inTime hzero hlo hhi hstart hresponse hfirst,
    evenlyPolled_tickMargin hzero hlo hhi hresponse hfirst⟩

end polled

end SmartAc
