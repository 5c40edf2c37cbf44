import Mathlib.Data.Nat.Find
import SmartAc.Dht22
import SmartAc.Lib.Clock

/-!
# One pulse of a timed waveform

Times are microseconds in any ordered field, from the start of the counter on, which rounds them down to
whole ones. The line is low in the segments with an even number and high in those with an odd one: segment
`0` is the response low, `1` the response high, `2 + 2 b` and `3 + 2 b` the low and the high of bit `b`, `82`
the final low; segment `i` begins at `edge i`.

Each `DhtMeasurePulse` begins with a poll that may already lie in the pulse it is to measure, and ends
with the first poll of the next one: `AtPulse i` is the position in between, and the reason why no
pulse is skipped or counted twice. A measured width is short by less than `3 d + 1` and long by less than
`2 d + 1`: the one is the rounding, and `TickMargin` is the room that it takes.
-/

namespace SmartAc

open WrapClock

/-- The level of a segment. -/
def segmentLevel (i : Nat) : Bool := i % 2 == 1

theorem segmentLevel_succ (i : Nat) : segmentLevel (i + 1) = !segmentLevel i := by
  unfold segmentLevel
  rcases Nat.mod_two_eq_zero_or_one i with h | h <;> simp [h, Nat.add_mod]

/-- The low pulse of bit `b`. -/
theorem segmentLevel_low (b : Nat) : segmentLevel (2 + 2 * b) = false := by
  unfold segmentLevel
  rw [show (2 + 2 * b) % 2 = 0 by omega]
  rfl

/-- The high pulse of bit `b`. -/
theorem segmentLevel_high (b : Nat) : segmentLevel (2 + 2 * b + 1) = true := by
  rw [segmentLevel_succ, segmentLevel_low]
  rfl

/-- Bit `b` of the frame, the most significant bit of byte 0 first. -/
def frameBit (bytes : List UInt8) (b : Nat) : Bool :=
  (bytes.getD (b / 8) 0).toNat.testBit (7 - b % 8)

section
variable {K : Type*} [Field K] [LinearOrder K] [IsStrictOrderedRing K] [FloorSemiring K]

/-- A signal that shows the frame `bytes` from time `start` on, with pulses that a polling interval of
`d` can tell apart. Nothing is said about it after the final low. -/
structure Waveform (signal : K → Bool) (edge : Nat → K) (start d : K) (bytes : List UInt8) : Prop where
  /-- The line is high until the response begins. -/
  idle : ∀ t, start ≤ t → t < edge 0 → signal t = true
  level : ∀ i ≤ 82, ∀ t, edge i ≤ t → t < edge (i + 1) → signal t = segmentLevel i
  long : ∀ i ≤ 82, edge i + 3 * d < edge (i + 1)
  short : ∀ i < 82, edge (i + 1) + 3 * d < edge i + 2000
  zero : ∀ b < 40, frameBit bytes b = false → edge (4 + 2 * b) + 3 * d ≤ edge (3 + 2 * b) + 50
  one : ∀ b < 40, frameBit bytes b = true → edge (3 + 2 * b) + 50 + 3 * d < edge (4 + 2 * b)

/-- The driver's polls of the signal and its readings of the timer: poll `k` at `pollTime k`, the `j`-th
reading, made after `k` polls, at `readTime k j`. The timer shows whole microseconds. -/
structure Polls (env : DhtEnv) (signal : K → Bool) (pollTime : Nat → K) (readTime : Nat → Nat → K)
    (d : K) : Prop where
  line : ∀ k, env.line k = signal (pollTime k)
  timer : ∀ k j, env.timer k j = reading ⌊readTime k j⌋₊
  forward : ∀ k, pollTime k ≤ pollTime (k + 1)
  apart : ∀ k, pollTime (k + 1) ≤ pollTime k + d
  origin : ∀ j, 0 ≤ readTime 0 j
  before : ∀ j, readTime 0 j ≤ pollTime 0
  between : ∀ k j, pollTime k ≤ readTime (k + 1) j ∧ readTime (k + 1) j ≤ pollTime (k + 1)

/-- The time at which the driver reads `deadline_start_us`. -/
def deadlineTime (env : DhtEnv) (readTime : Nat → Nat → K) : K :=
  readTime (startCounts env).polls (startCounts env).reads

/-- Polls and waveform fit together: the polling begins in time, the frame ends in time, and no wait
of the driver uses up its guard. -/
structure InTime (env : DhtEnv) (pollTime : Nat → K) (readTime : Nat → Nat → K) (edge : Nat → K) (d : K) :
    Prop where
  start : pollTime 0 + 3 * d < edge 1
  deadline : edge 82 + 3 * d ≤ deadlineTime env readTime + 20000
  firstWait : edge 0 ≤ pollTime (appDhtLoopGuard - 1)
  waits : ∀ i < 82, ∀ k, edge i ≤ pollTime k → edge (i + 1) ≤ pollTime (k + appDhtLoopGuard)

/-- The room that the rounding of the timer takes. Where `d` is half a microsecond or more the last two hold of
every waveform that is in time. -/
structure TickMargin (env : DhtEnv) (readTime : Nat → Nat → K) (edge : Nat → K) (d : K) (bytes : List UInt8) :
    Prop where
  one : ∀ b < 40, frameBit bytes b = true → edge (3 + 2 * b) + 51 + 3 * d ≤ edge (4 + 2 * b)
  short : ∀ i < 82, edge (i + 1) + d + 1 ≤ edge i + 2000
  deadline : edge 82 + d + 1 ≤ deadlineTime env readTime + 20000

end

/-! ## The polling loops -/

section loops
variable {env : DhtEnv} {level : Bool} {deadlineStartUs pulseStartUs : UInt32}

/-- `waitFor` succeeds at the first poll that shows the level, if no reading on the way is late. -/
theorem waitFor_sees {m guard : Nat} {c : Counts} (hm : m < guard)
    (hother : ∀ j < m, env.line (c.polls + j) = !level) (hsees : env.line (c.polls + m) = level)
    (hfresh : ∀ j < m, ∀ r, env.timer (c.polls + j + 1) r - deadlineStartUs < appDhtReadTimeoutUs) :
    ∃ r, waitFor env level deadlineStartUs guard c = (true, ⟨c.polls + m + 1, r⟩) := by
  induction m generalizing guard c with
  | zero =>
    obtain ⟨guard, rfl⟩ := Nat.exists_eq_succ_of_ne_zero (Nat.ne_of_gt hm)
    exact ⟨c.reads, by rw [waitFor_succ]; exact if_pos hsees⟩
  | succ m ih =>
    obtain ⟨guard, rfl⟩ := Nat.exists_eq_succ_of_ne_zero (Nat.ne_of_gt (Nat.zero_lt_of_lt hm))
    have hfirst : env.line c.polls ≠ level := by
      have h0 : env.line c.polls = !level := hother 0 (Nat.succ_pos m)
      rw [h0]
      cases level <;> simp
    have hontime : ¬ appDhtReadTimeoutUs ≤ env.timer (c.polls + 1) c.reads - deadlineStartUs :=
      UInt32.not_le.2 (hfresh 0 (by omega) c.reads)
    have hpos (j : Nat) : c.polls + (j + 1) = c.polls + 1 + j := by omega
    have hother' (j : Nat) (hj : j < m) : env.line (c.polls + 1 + j) = !level :=
      hpos j ▸ hother (j + 1) (by omega)
    have hfresh' (j : Nat) (hj : j < m) (r : Nat) :
        env.timer (c.polls + 1 + j + 1) r - deadlineStartUs < appDhtReadTimeoutUs :=
      hpos j ▸ hfresh (j + 1) (by omega) r
    rw [hpos] at hsees ⊢
    obtain ⟨r, hr⟩ := @ih guard ⟨c.polls + 1, c.reads + 1⟩ (by omega) hother' hsees hfresh'
    exact ⟨r, by rw [waitFor_succ, if_neg hfirst, if_neg hontime, hr]⟩

/-- `waitWhile` ends at the first poll that shows the other level, if no reading on the way is late. -/
theorem waitWhile_ends {m guard : Nat} {c : Counts} (hm : m < guard)
    (hsame : ∀ j < m, env.line (c.polls + j) = level) (hends : env.line (c.polls + m) = !level)
    (hfresh : ∀ j < m, ∀ r, env.timer (c.polls + j + 1) r - deadlineStartUs < appDhtReadTimeoutUs)
    (hpulse : ∀ j < m, ∀ r, env.timer (c.polls + j + 1) r - pulseStartUs < appDhtPulseTimeoutUs) :
    ∃ r, waitWhile env level deadlineStartUs pulseStartUs guard c = (true, ⟨c.polls + m + 1, r⟩) := by
  induction m generalizing guard c with
  | zero =>
    obtain ⟨guard, rfl⟩ := Nat.exists_eq_succ_of_ne_zero (Nat.ne_of_gt hm)
    have hother : env.line c.polls ≠ level := by
      have h0 : env.line c.polls = !level := hends
      rw [h0]
      cases level <;> simp
    exact ⟨c.reads, by rw [waitWhile_succ]; exact if_pos hother⟩
  | succ m ih =>
    obtain ⟨guard, rfl⟩ := Nat.exists_eq_succ_of_ne_zero (Nat.ne_of_gt (Nat.zero_lt_of_lt hm))
    have hfirst : ¬ env.line c.polls ≠ level := not_not.2 (hsame 0 (Nat.succ_pos m))
    have hontime : ¬ appDhtReadTimeoutUs ≤ env.timer (c.polls + 1) c.reads - deadlineStartUs :=
      UInt32.not_le.2 (hfresh 0 (by omega) c.reads)
    have hwidth : ¬ appDhtPulseTimeoutUs ≤ env.timer (c.polls + 1) (c.reads + 1) - pulseStartUs :=
      UInt32.not_le.2 (hpulse 0 (by omega) (c.reads + 1))
    have hpos (j : Nat) : c.polls + (j + 1) = c.polls + 1 + j := by omega
    have hsame' (j : Nat) (hj : j < m) : env.line (c.polls + 1 + j) = level :=
      hpos j ▸ hsame (j + 1) (by omega)
    have hfresh' (j : Nat) (hj : j < m) (r : Nat) :
        env.timer (c.polls + 1 + j + 1) r - deadlineStartUs < appDhtReadTimeoutUs :=
      hpos j ▸ hfresh (j + 1) (by omega) r
    have hpulse' (j : Nat) (hj : j < m) (r : Nat) :
        env.timer (c.polls + 1 + j + 1) r - pulseStartUs < appDhtPulseTimeoutUs :=
      hpos j ▸ hpulse (j + 1) (by omega) r
    rw [hpos] at hends ⊢
    obtain ⟨r, hr⟩ := @ih guard ⟨c.polls + 1, c.reads + 2⟩ (by omega) hsame' hends hfresh' hpulse'
    exact ⟨r, by rw [waitWhile_succ, if_neg hfirst, if_neg hontime, if_neg hwidth, hr]⟩

end loops

/-- A delay makes no poll. -/
theorem boardDelayUs_polls (env : DhtEnv) (microseconds : UInt32) (c : Counts) :
    (boardDelayUs env microseconds c).polls = c.polls := by
  have hloop (startUs : UInt32) (guard : Nat) (c : Counts) :
      (delayLoop env startUs microseconds guard c).polls = c.polls := by
    induction guard generalizing c with
    | zero => rfl
    | succ guard ih =>
      rw [delayLoop_succ]
      split
      · exact ih _
      · rfl
  exact hloop _ _ _

/-! ## One pulse of the waveform -/

/-- The deadline is read before the first poll. -/
theorem startCounts_polls (env : DhtEnv) : (startCounts env).polls = 0 :=
  boardDelayUs_polls env appDht22StartUs ⟨0, 0⟩

/-- What the driver holds in `deadline_start_us`. -/
def deadlineStart (env : DhtEnv) : UInt32 := env.timer (startCounts env).polls (startCounts env).reads

section timed
variable {K : Type*} [Field K] [LinearOrder K] [IsStrictOrderedRing K] [FloorSemiring K] {env : DhtEnv}
  {signal : K → Bool} {edge pollTime : Nat → K} {readTime : Nat → Nat → K} {d : K} {bytes : List UInt8}
  (hw : Waveform signal edge (pollTime 0) d bytes) (hp : Polls env signal pollTime readTime d)
  (ht : InTime env pollTime readTime edge d) (hr : TickMargin env readTime edge d bytes)

omit [IsStrictOrderedRing K] in
include hp in
theorem pollTime_mono {j k : Nat} (h : j ≤ k) : pollTime j ≤ pollTime k :=
  monotone_nat_of_le_succ hp.forward h

include hp in
theorem interval_nonneg : 0 ≤ d := by
  have hforward := hp.forward 0
  have hapart := hp.apart 0
  linarith

include hp in
/-- The first poll at or after `t`, among the polls from `a` on. -/
theorem first_poll {a n : Nat} {t : K} (h : t ≤ pollTime (a + n)) :
    ∃ m ≤ n, t ≤ pollTime (a + m) ∧ (∀ j < m, pollTime (a + j) < t) ∧
      (m = 0 ∨ pollTime (a + m) < t + d) := by
  have hex : ∃ m, t ≤ pollTime (a + m) := ⟨n, h⟩
  classical
  refine ⟨Nat.find hex, Nat.find_min' hex h, Nat.find_spec hex, fun j hj => ?_, ?_⟩
  · exact lt_of_not_ge (Nat.find_min hex hj)
  · rcases Nat.eq_zero_or_eq_succ_pred (Nat.find hex) with h0 | hs
    · exact .inl h0
    · right
      have hbefore := Nat.find_min hex (show Nat.pred (Nat.find hex) < Nat.find hex by omega)
      have hstep := hp.apart (a + Nat.pred (Nat.find hex))
      rw [show a + Nat.pred (Nat.find hex) + 1 = a + Nat.find hex by omega] at hstep
      exact hstep.trans_lt (by linarith [lt_of_not_ge hbefore])

include hw hp in
theorem edge_le {i j : Nat} (h : i ≤ j) (hj : j ≤ 83) : edge i ≤ edge j := by
  have hd := interval_nonneg hp
  induction j, h using Nat.le_induction with
  | base => exact le_refl _
  | succ j hij ih =>
    have hbefore := ih (by omega)
    have hlong := hw.long j (by omega)
    linarith

omit [IsStrictOrderedRing K] in
include hp in
theorem deadlineTime_le : deadlineTime env readTime ≤ pollTime 0 := by
  unfold deadlineTime
  rw [startCounts_polls]
  exact hp.before _

omit [IsStrictOrderedRing K] in
include hp in
theorem deadlineTime_nonneg : 0 ≤ deadlineTime env readTime := by
  unfold deadlineTime
  rw [startCounts_polls]
  exact hp.origin _

omit [IsStrictOrderedRing K] in
include hp in
theorem readTime_nonneg (k r : Nat) : 0 ≤ readTime (k + 1) r := by
  have hstart := (deadlineTime_nonneg hp).trans (deadlineTime_le hp)
  exact (hstart.trans (pollTime_mono hp (Nat.zero_le k))).trans (hp.between k r).1

include hp hr in
/-- A reading that follows a poll within the frame is before the deadline. -/
theorem before_deadline {k : Nat} (h : pollTime k < edge 82) (r : Nat) :
    env.timer (k + 1) r - deadlineStart env < appDhtReadTimeoutUs := by
  obtain ⟨hlo, hhi⟩ := hp.between k r
  have hstart := deadlineTime_le hp
  have h0 := pollTime_mono hp (Nat.zero_le k)
  have hstep := hp.apart k
  have hend := hr.deadline
  have hlimit : appDhtReadTimeoutUs.toNat = 20000 := rfl
  have hd := interval_nonneg hp
  have helapsed := (sub_reading_floor (deadlineTime_nonneg hp) (hstart.trans (h0.trans hlo))
    (by norm_num; linarith)).2
  rw [deadlineStart, hp.timer, hp.timer, UInt32.lt_iff_toNat_lt, hlimit]
  have hlt : ((reading ⌊readTime (k + 1) r⌋₊ - reading ⌊deadlineTime env readTime⌋₊).toNat : K) <
      ((20000 : Nat) : K) := by
    push_cast
    linarith
  exact_mod_cast hlt

omit [IsStrictOrderedRing K] in
include hw hp in
/-- What a poll within a segment shows. -/
theorem line_within {i k : Nat} (hi : i ≤ 82) (hlo : edge i ≤ pollTime k)
    (hhi : pollTime k < edge (i + 1)) : env.line k = segmentLevel i := by
  rw [hp.line]
  exact hw.level i hi _ hlo hhi

include hp in
/-- What two readings of the timer differ by, one after poll `q` and one after the later poll `p`. -/
theorem elapsed_between {p q : Nat} (hqp : q < p) (hshort : pollTime (p + 1) < pollTime q + 10000) (r r' : Nat) :
    ((env.timer (p + 1) r' - env.timer (q + 1) r).toNat : K) < pollTime (p + 1) - pollTime q + 1 ∧
      pollTime p - pollTime (q + 1) - 1 < ((env.timer (p + 1) r' - env.timer (q + 1) r).toNat : K) := by
  obtain ⟨hlo, hhi⟩ := hp.between q r
  obtain ⟨hlo', hhi'⟩ := hp.between p r'
  have hmono : pollTime (q + 1) ≤ pollTime p := pollTime_mono hp hqp
  obtain ⟨hwide, hnarrow⟩ := sub_reading_floor (readTime_nonneg hp q r) (hhi.trans (hmono.trans hlo'))
    (by norm_num; linarith)
  rw [hp.timer, hp.timer]
  constructor <;> linarith

include hw hp ht hr in
/-- The second loop, after a poll `q` in segment `i`: it stops at the first poll of the next one. -/
theorem waitWhile_pulse {i q : Nat} (hi : i ≤ 81) (hin : edge i ≤ pollTime q)
    (hearly : pollTime q + d < edge (i + 1)) (r : Nat) :
    ∃ p r', waitWhile env (segmentLevel i) (deadlineStart env) (env.timer (q + 1) r) appDhtLoopGuard
        ⟨q + 1, r + 1⟩ = (true, ⟨p + 1, r'⟩) ∧
      q < p ∧ edge (i + 1) ≤ pollTime p ∧ pollTime p < edge (i + 1) + d := by
  have hguard := appDhtLoopGuard_pos
  have hd := interval_nonneg hp
  have hlast : edge (i + 1) ≤ edge 82 := edge_le hw hp (by omega) (by omega)
  have hshort := hr.short i (by omega)
  have hlong := hw.long (i + 1) (by omega)
  have hstep := hp.apart q
  obtain ⟨n, hn, hpast, hbefore, hclose⟩ : ∃ n ≤ appDhtLoopGuard - 1,
      edge (i + 1) ≤ pollTime (q + 1 + n) ∧ (∀ j < n, pollTime (q + 1 + j) < edge (i + 1)) ∧
        (n = 0 ∨ pollTime (q + 1 + n) < edge (i + 1) + d) := by
    refine first_poll hp ?_
    have hnext : q + appDhtLoopGuard = q + 1 + (appDhtLoopGuard - 1) := by omega
    have hwait := ht.waits i (by omega) q hin
    rwa [hnext] at hwait
  have hclose' : pollTime (q + 1 + n) < edge (i + 1) + d := by
    refine hclose.resolve_left ?_
    rintro rfl
    have hfirst : edge (i + 1) ≤ pollTime (q + 1) := hpast
    linarith
  have hinside (j : Nat) : edge i ≤ pollTime (q + 1 + j) := hin.trans (pollTime_mono hp (by omega))
  have hends : env.line (q + 1 + n) = !segmentLevel i := by
    rw [← segmentLevel_succ]
    exact line_within hw hp (by omega) hpast (by linarith)
  have hfresh (j : Nat) (hj : j < n) (r₂ : Nat) :
      env.timer (q + 1 + j + 1) r₂ - deadlineStart env < appDhtReadTimeoutUs := by
    have hinFrame := hbefore j hj
    exact before_deadline hp hr (by linarith) r₂
  have hpulse (j : Nat) (hj : j < n) (r₂ : Nat) :
      env.timer (q + 1 + j + 1) r₂ - env.timer (q + 1) r < appDhtPulseTimeoutUs := by
    have hlimit : appDhtPulseTimeoutUs.toNat = 2000 := rfl
    have hinPulse := hbefore j hj
    have hnext := hp.apart (q + 1 + j)
    have helapsed := (elapsed_between hp (show q < q + 1 + j by omega) (by linarith) r r₂).1
    rw [UInt32.lt_iff_toNat_lt, hlimit]
    have hlt : ((env.timer (q + 1 + j + 1) r₂ - env.timer (q + 1) r).toNat : K) < ((2000 : Nat) : K) := by
      push_cast
      linarith
    exact_mod_cast hlt
  obtain ⟨r', hwhile⟩ := waitWhile_ends (c := ⟨q + 1, r + 1⟩) (show n < appDhtLoopGuard by omega)
    (fun j hj => line_within hw hp (by omega) (hinside j) (hbefore j hj)) hends hfresh hpulse
  exact ⟨q + 1 + n, r', hwhile, by omega, hpast, hclose'⟩

/-- The latest poll is the first of segment `i`. -/
def AtPulse (edge pollTime : Nat → K) (d : K) (i : Nat) (c : Counts) : Prop :=
  ∃ p, c.polls = p + 1 ∧ edge i ≤ pollTime p ∧ pollTime p ≤ edge i + d

include hw hp ht hr in
/-- **One pulse**, from the `m`-th poll on, the first that lies in it: the measurement ends with the
first poll of the next segment, and is exact up to the polling interval at both ends and the rounding. -/
theorem measure_from {i m q : Nat} (hi : i ≤ 81) {c : Counts} (hq : c.polls + m = q)
    (hm : m < appDhtLoopGuard)
    (hother : ∀ j < m, env.line (c.polls + j) = !segmentLevel i ∧ pollTime (c.polls + j) < edge 82)
    (hin : edge i ≤ pollTime q) (hearly : pollTime q + d < edge (i + 1)) :
    ∃ width c', dhtMeasurePulse env (segmentLevel i) (deadlineStart env) c = (some width, c') ∧
      AtPulse edge pollTime d (i + 1) c' ∧
      edge (i + 1) - pollTime q - d - 1 < (width.toNat : K) ∧
      (width.toNat : K) < edge (i + 1) - pollTime q + 2 * d + 1 := by
  subst hq
  have hd := interval_nonneg hp
  have hshort := hr.short i (by omega)
  obtain ⟨r, hfor⟩ := waitFor_sees hm (fun j hj => (hother j hj).1)
    (line_within hw hp (by omega) hin (by linarith)) fun j hj r => before_deadline hp hr (hother j hj).2 r
  obtain ⟨p, r', hwhile, hqp, hpast, hclose⟩ := waitWhile_pulse hw hp ht hr hi hin hearly r
  have hstep := hp.apart (c.polls + m)
  have hnext := hp.apart p
  obtain ⟨hnarrow, hwide⟩ := elapsed_between hp hqp (by linarith) r r'
  have hwidth : (env.timer (p + 1) r' - env.timer (c.polls + m + 1) r).toUInt16.toNat =
      (env.timer (p + 1) r' - env.timer (c.polls + m + 1) r).toNat := by
    rw [UInt32.toNat_toUInt16]
    have hsmall : ((env.timer (p + 1) r' - env.timer (c.polls + m + 1) r).toNat : K) < ((2 ^ 16 : Nat) : K) := by
      push_cast
      linarith
    exact Nat.mod_eq_of_lt (by exact_mod_cast hsmall)
  refine ⟨_, ⟨p + 1, r' + 1⟩, measurePulse_ok env hfor hwhile, ⟨p, rfl, hpast, hclose.le⟩, ?_, ?_⟩
  · rw [hwidth]
    linarith
  · rw [hwidth]
    linarith

include hw hp ht hr in
/-- A pulse after the first: the next poll already lies in it. -/
theorem measure_next {i : Nat} (hi : i ≤ 81) {c : Counts} (hc : AtPulse edge pollTime d i c) :
    ∃ width c', dhtMeasurePulse env (segmentLevel i) (deadlineStart env) c = (some width, c') ∧
      AtPulse edge pollTime d (i + 1) c' ∧
      edge (i + 1) - edge i - 3 * d - 1 < (width.toNat : K) ∧
      (width.toNat : K) < edge (i + 1) - edge i + 2 * d + 1 := by
  obtain ⟨p, hpolls, hlo, hhi⟩ := hc
  have hstep := hp.apart p
  have hforward := hp.forward p
  have hlong := hw.long i (by omega)
  obtain ⟨width, c', hmeasure, hat, hwide, hnarrow⟩ := measure_from hw hp ht hr hi
    (show c.polls + 0 = p + 1 from hpolls) appDhtLoopGuard_pos
    (fun j hj => absurd hj (Nat.not_lt_zero j)) (by linarith) (by linarith)
  exact ⟨width, c', hmeasure, hat, by linarith, by linarith⟩

include hw hp ht hr in
/-- The response low, from the first poll on. -/
theorem measure_first (r : Nat) :
    ∃ width c', dhtMeasurePulse env false (deadlineStart env) ⟨0, r⟩ = (some width, c') ∧
      AtPulse edge pollTime d 1 c' := by
  have hstart := ht.start
  have hd := interval_nonneg hp
  have hlong : edge 0 + 3 * d < edge 1 := hw.long 0 (by omega)
  have hlast : edge 0 ≤ edge 82 := edge_le hw hp (by omega) (by omega)
  have hguard := appDhtLoopGuard_pos
  obtain ⟨m, hm, hin, hbefore, hclose⟩ : ∃ m ≤ appDhtLoopGuard - 1, edge 0 ≤ pollTime (0 + m) ∧
      (∀ j < m, pollTime (0 + j) < edge 0) ∧ (m = 0 ∨ pollTime (0 + m) < edge 0 + d) := by
    refine first_poll hp ?_
    rw [Nat.zero_add]
    exact ht.firstWait
  have hother (j : Nat) (hj : j < m) :
      env.line (0 + j) = !segmentLevel 0 ∧ pollTime (0 + j) < edge 82 := by
    have hj' := hbefore j hj
    refine ⟨?_, hj'.trans_le hlast⟩
    rw [hp.line]
    exact hw.idle _ (pollTime_mono hp (Nat.zero_le _)) hj'
  have hearly : pollTime (0 + m) + d < edge (0 + 1) := by
    rcases hclose with rfl | hclose
    · show pollTime 0 + d < edge 1
      linarith
    · show pollTime (0 + m) + d < edge 1
      linarith
  obtain ⟨width, c', hmeasure, hat, -⟩ := measure_from hw hp ht hr (by omega) (c := ⟨0, r⟩)
    (show 0 + m = 0 + m from rfl) (by omega) hother hin hearly
  exact ⟨width, c', hmeasure, hat⟩

end timed

end SmartAc
