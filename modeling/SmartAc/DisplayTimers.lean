import SmartAc.Lib.Clock
import SmartAc.Tm1637Display

/-!
# The seconds on the display

| here | there |
| --- | --- |
| `Stay`                 | consecutive calls of `Tm1637_BuildSegments` in one state, from its entry on |
| `suspectS`, `recoveryS` | what a stay is to show after a number of milliseconds (`README.md:109-117`) |
| `codeAndNumber`        | a layout of `Tm1637RenderCodeAndSeconds` (`app_tm1637.c:198-204`) |

`Tm1637_BuildSegments` keeps the entry time in two static variables that every call updates.
`displayTimer_stay` says what they hold within a stay, whatever calls came before it; the rest is
arithmetic on one 32-bit difference.
-/

namespace SmartAc

open Machine WrapClock

/-- A call at a real time in milliseconds, of which `now_ms` is the reading. -/
structure TimedCall where
  message : DisplayMsg
  time : Nat
deriving DecidableEq, Repr

def TimedCall.call (c : TimedCall) : DisplayCall := ⟨c.message, reading c.time⟩

/-- What `c` shows after the calls `past`. -/
def shownAt (past : List TimedCall) (c : TimedCall) : Segments := shown (past.map (·.call)) c.call

/-- `entry` and `later` are the calls so far in one state, entered from another one or from none. -/
structure Stay (before : List TimedCall) (entry : TimedCall) (later : List TimedCall) : Prop where
  entered : ∀ c ∈ before.getLast?, c.message.state ≠ entry.message.state
  same : ∀ c ∈ later, c.message.state = entry.message.state
  forward : (entry :: later).Pairwise (·.time ≤ ·.time)
  short : ∀ c ∈ later, c.time - entry.time < 2 ^ 32

/-! ## The static variables -/

theorem displayTimerNext_state (timer : DisplayTimer) (message : DisplayMsg) (nowMs : UInt32) :
    (displayTimerNext timer message nowMs).lastDisplayState = message.state := by
  unfold displayTimerNext
  split_ifs with h
  · rfl
  · exact (not_not.1 h).symm

/-- The timer after the calls `past`. -/
def timerAfter (past : List TimedCall) : DisplayTimer :=
  final displayStep displayTimerInit (past.map (·.call))

theorem timerAfter_snoc (past : List TimedCall) (c : TimedCall) :
    timerAfter (past ++ [c]) = displayTimerNext (timerAfter past) c.message (reading c.time) := by
  rw [timerAfter, List.map_append, List.map_singleton, final_snoc]
  rfl

theorem timerAfter_state (past : List TimedCall) :
    (timerAfter past).lastDisplayState = (past.getLast?.map (·.message.state)).getD .off := by
  rcases List.eq_nil_or_concat past with rfl | ⟨past, c, rfl⟩
  · rfl
  · rw [List.concat_eq_append, timerAfter_snoc, displayTimerNext_state, List.getLast?_append]
    rfl

/-- **Within a stay the timer holds its state and the reading of its entry.** `AC_STATE_OFF` is left
out: it may be the state the variables start with. -/
theorem timerAfter_stay {before later : List TimedCall} {entry : TimedCall}
    (h : Stay before entry later) (hoff : entry.message.state ≠ .off) :
    timerAfter (before ++ entry :: later) = ⟨entry.message.state, reading entry.time⟩ := by
  obtain ⟨hentered, hsame, -, -⟩ := h
  induction later using List.reverseRecOn with
  | nil =>
    have hnew : entry.message.state ≠ (timerAfter before).lastDisplayState := by
      rw [timerAfter_state]
      cases hlast : before.getLast? with
      | none => exact hoff
      | some c => exact (hentered c hlast).symm
    rw [timerAfter_snoc, displayTimerNext, if_pos hnew]
  | append_singleton later c ih =>
    have hprev := ih fun y hy => hsame y (List.mem_append_left _ hy)
    have hstay : ¬ c.message.state ≠ entry.message.state := not_not.2 (hsame c (by simp))
    rw [← List.cons_append, ← List.append_assoc, timerAfter_snoc, hprev, displayTimerNext, if_neg hstay]

/-- The call `x` of a stay: it is in the state of the stay, and ends a shorter stay. -/
theorem Stay.at {before later earlier rest : List TimedCall} {entry x : TimedCall}
    (h : Stay before entry later) (hsplit : entry :: later = earlier ++ x :: rest) :
    x.message.state = entry.message.state ∧ entry.time ≤ x.time ∧ x.time - entry.time < 2 ^ 32 ∧
      ∃ later', earlier ++ [x] = entry :: later' ∧ Stay before entry later' := by
  obtain ⟨hentered, hsame, hforward, hshort⟩ := h
  cases earlier with
  | nil =>
    obtain ⟨rfl, rfl⟩ := List.cons.inj hsplit
    exact ⟨rfl, Nat.le_refl _, by omega, [], rfl, hentered, nofun, List.pairwise_singleton _ _, nofun⟩
  | cons first earlier =>
    obtain ⟨rfl, rfl⟩ := List.cons.inj hsplit
    have hx : x ∈ earlier ++ x :: rest := by simp
    have hpre : ∀ c ∈ earlier ++ [x], c ∈ earlier ++ x :: rest := by
      intro c hc
      rcases List.mem_append.1 hc with hc | hc <;> simp_all
    have hsub : (entry :: (earlier ++ [x])).Sublist (entry :: (earlier ++ x :: rest)) := by simp
    refine ⟨hsame x hx, (List.pairwise_cons.1 hforward).1 x hx, hshort x hx, earlier ++ [x], rfl, hentered,
      fun c hc => hsame c (hpre c hc), hforward.sublist hsub, fun c hc => hshort c (hpre c hc)⟩

/-- **What a stay shows**: the difference of the readings since its entry is the true elapsed time. -/
theorem shownAt_stay {before later earlier rest : List TimedCall} {entry x : TimedCall}
    (h : Stay before entry later) (hoff : entry.message.state ≠ .off)
    (hsplit : entry :: later = earlier ++ x :: rest) :
    ∃ elapsedMs : UInt32, elapsedMs.toNat = x.time - entry.time ∧
      shownAt (before ++ earlier) x = renderState x.message (reading x.time) elapsedMs := by
  obtain ⟨-, hle, hlt, later', hpre, hstay⟩ := h.at hsplit
  refine ⟨reading x.time - reading entry.time, toNat_sub_reading_of_lt hle hlt, ?_⟩
  have htimer : displayTimerNext (timerAfter (before ++ earlier)) x.message (reading x.time) =
      ⟨entry.message.state, reading entry.time⟩ := by
    rw [← timerAfter_snoc, List.append_assoc, hpre]
    exact timerAfter_stay hstay hoff
  have hshown : shownAt (before ++ earlier) x = renderState x.message (reading x.time) (reading x.time -
      (displayTimerNext (timerAfter (before ++ earlier)) x.message (reading x.time)).displayStateSinceMs) := rfl
  rw [hshown, htimer]

/-! ## The seconds -/

/-- The elapsed seconds, rounded down, at most two digits. -/
def suspectS (elapsed : Nat) : Nat := min 99 ⌊(elapsed : Rat) / 1000⌋₊

/-- The seconds that are left of `APP_RECOVERY_WAIT_MS`, rounded up. -/
def recoveryS (elapsed : Nat) : Nat := ⌈((5000 - elapsed : Nat) : Rat) / 1000⌉₊

theorem suspectS_eq (elapsed : Nat) : suspectS elapsed = min 99 (elapsed / 1000) := by
  have hfloor : ⌊(elapsed : Rat) / 1000⌋₊ = elapsed / 1000 := by
    exact_mod_cast Nat.floor_div_eq_div (K := Rat) elapsed 1000
  rw [suspectS, hfloor]

theorem recoveryS_eq (elapsed : Nat) : recoveryS elapsed = (5000 - elapsed + 999) / 1000 := by
  refine eq_of_forall_ge_iff fun n => ?_
  have hthousand : (0 : Rat) < 1000 := by norm_num
  rw [recoveryS, Nat.ceil_le, div_le_iff₀ hthousand]
  norm_cast
  omega

theorem capSeconds_toNat (seconds : UInt32) : (capSeconds seconds).toNat = min 99 seconds.toNat := by
  have hover : 99 < seconds ↔ 99 < seconds.toNat := UInt32.lt_iff_toNat_lt
  rw [capSeconds]
  by_cases hcap : 99 < seconds
  · rw [if_pos hcap, min_eq_left (Nat.le_of_lt (hover.1 hcap))]
    rfl
  · rw [if_neg hcap, min_eq_right (Nat.le_of_not_lt (mt hover.2 hcap))]

theorem suspectSeconds_toNat (elapsedMs : UInt32) :
    (suspectSeconds elapsedMs).toNat = suspectS elapsedMs.toNat := by
  rw [suspectSeconds, capSeconds_toNat, UInt32.toNat_div, suspectS_eq]
  rfl

theorem recoverySeconds_toNat (elapsedMs : UInt32) :
    (recoverySeconds elapsedMs).toNat = recoveryS elapsedMs.toNat := by
  rw [recoveryS_eq, recoverySeconds]
  generalize hremaining : (if appRecoveryWaitMs ≤ elapsedMs then 0 else appRecoveryWaitMs - elapsedMs) =
    remaining
  have hlimit : appRecoveryWaitMs.toNat = 5000 := rfl
  have hleft : remaining.toNat = 5000 - elapsedMs.toNat := by
    split_ifs at hremaining with hover
    · rw [UInt32.le_iff_toNat_le, hlimit] at hover
      rw [← hremaining]
      exact (Nat.sub_eq_zero_of_le hover).symm
    · rw [← hremaining, UInt32.toNat_sub_of_le _ _ (UInt32.le_of_lt (UInt32.not_le.1 hover)), hlimit]
  have hseconds : ((remaining + 999) / 1000).toNat = (remaining.toNat + 999) / 1000 := by
    rw [UInt32.toNat_div, UInt32.toNat_add, show (999 : UInt32).toNat = 999 from rfl,
      show (1000 : UInt32).toNat = 1000 from rfl, Nat.mod_eq_of_lt (by omega)]
  -- five seconds at most: the cap at 99 is never reached
  rw [capSeconds_toNat, hseconds, hleft, min_eq_right (by omega)]

theorem suspectS_le (elapsed : Nat) : suspectS elapsed ≤ 99 := Nat.min_le_left ..

theorem suspectS_mono {e e' : Nat} (h : e ≤ e') : suspectS e ≤ suspectS e' := by
  rw [suspectS_eq, suspectS_eq]
  omega

theorem recoveryS_anti {e e' : Nat} (h : e ≤ e') : recoveryS e' ≤ recoveryS e := by
  rw [recoveryS_eq, recoveryS_eq]
  omega

theorem recoveryS_le (elapsed : Nat) : recoveryS elapsed ≤ 5 := by
  rw [recoveryS_eq]
  omega

theorem recoveryS_eq_zero_iff (elapsed : Nat) : recoveryS elapsed = 0 ↔ 5000 ≤ elapsed := by
  rw [recoveryS_eq]
  omega

/-! ## The layout -/

/-- A code and a number of two digits, zero padded. -/
def codeAndNumber (c0 c1 : Char) (n : Nat) : Segments :=
  ⟨tm1637CharSegment c0, tm1637CharSegment c1, tm1637DigitSegment (n / 10), tm1637DigitSegment (n % 10)⟩

/-- The number on the right half of the display. -/
def secondsShown (segments : Segments) : Option Int := readTwoDigits (segments.s2, segments.s3)

/-- Two digits survive the cast to `uint8_t`. -/
theorem renderCodeAndSeconds_eq (c0 c1 : Char) {seconds : UInt32} {n : Nat} (h : seconds.toNat = n)
    (hn : n ≤ 99) : tm1637RenderCodeAndSeconds c0 c1 seconds.toUInt8 = codeAndNumber c0 c1 n := by
  have hall : ∀ n < 100, tm1637PutTwoDigits ((n : Nat) : Int) true =
      (tm1637DigitSegment (n / 10), tm1637DigitSegment (n % 10)) := by decide +kernel
  have hcast : seconds.toUInt8.toNat = n := by
    rw [UInt32.toNat_toUInt8, h]
    exact Nat.mod_eq_of_lt (by omega)
  rw [tm1637RenderCodeAndSeconds, hcast, hall n (by omega)]
  rfl

theorem secondsShown_codeAndNumber (c0 c1 : Char) {n : Nat} (h : n ≤ 99) :
    secondsShown (codeAndNumber c0 c1 n) = some (n : Int) := by
  have hall : ∀ n < 100, readTwoDigits (tm1637DigitSegment (n / 10), tm1637DigitSegment (n % 10)) =
      some ((n : Nat) : Int) := by decide +kernel
  exact hall n (by omega)

/-! ## Whole stays -/

section stay
variable {before later : List TimedCall} {entry : TimedCall} (h : Stay before entry later)
include h

theorem shownAt_suspect (hstate : entry.message.state = .windowSuspect) (earlier : List TimedCall)
    (x : TimedCall) (rest : List TimedCall) (hsplit : entry :: later = earlier ++ x :: rest) :
    shownAt (before ++ earlier) x = codeAndNumber 'O' 'P' (suspectS (x.time - entry.time)) := by
  have hoff : entry.message.state ≠ .off := by rw [hstate]; decide
  obtain ⟨elapsedMs, helapsed, hshown⟩ := shownAt_stay h hoff hsplit
  have hx : x.message.state = .windowSuspect := (h.at hsplit).1.trans hstate
  rw [hshown, renderState, hx, ← helapsed]
  exact renderCodeAndSeconds_eq 'O' 'P' (suspectSeconds_toNat elapsedMs) (suspectS_le _)

theorem shownAt_recovery (hstate : entry.message.state = .recoveryWait) (earlier : List TimedCall)
    (x : TimedCall) (rest : List TimedCall) (hsplit : entry :: later = earlier ++ x :: rest) :
    shownAt (before ++ earlier) x = codeAndNumber 'E' 'S' (recoveryS (x.time - entry.time)) := by
  have hoff : entry.message.state ≠ .off := by rw [hstate]; decide
  obtain ⟨elapsedMs, helapsed, hshown⟩ := shownAt_stay h hoff hsplit
  have hx : x.message.state = .recoveryWait := (h.at hsplit).1.trans hstate
  rw [hshown, renderState, hx, ← helapsed]
  exact renderCodeAndSeconds_eq 'E' 'S' (recoverySeconds_toNat elapsedMs)
    ((recoveryS_le _).trans (by decide))

/-- Later calls of a stay are no earlier in time. -/
theorem Stay.elapsed_le {earlier mid rest : List TimedCall} {x y : TimedCall}
    (hsplit : entry :: later = earlier ++ x :: (mid ++ y :: rest)) :
    x.time - entry.time ≤ y.time - entry.time := by
  have hforward := h.forward
  rw [hsplit] at hforward
  have hxy := (List.pairwise_cons.1 (List.pairwise_append.1 hforward).2.1).1 y (by simp)
  omega

/-- A stay that shows `f` of the elapsed time: at its entry, and at two of its calls. -/
theorem Stay.numbers {c0 c1 : Char} {f : Nat → Nat} (hcap : ∀ elapsed, f elapsed ≤ 99)
    (hshown : ∀ earlier x rest, entry :: later = earlier ++ x :: rest →
      shownAt (before ++ earlier) x = codeAndNumber c0 c1 (f (x.time - entry.time))) :
    secondsShown (shownAt before entry) = some (f 0 : Int) ∧
      ∀ earlier x mid y rest, entry :: later = earlier ++ x :: (mid ++ y :: rest) →
        ∃ e e', e ≤ e' ∧ secondsShown (shownAt (before ++ earlier) x) = some (f e : Int) ∧
          secondsShown (shownAt (before ++ (earlier ++ x :: mid)) y) = some (f e' : Int) := by
  constructor
  · have hentry := hshown [] entry later rfl
    rw [List.append_nil, Nat.sub_self] at hentry
    rw [hentry]
    exact secondsShown_codeAndNumber c0 c1 (hcap 0)
  · intro earlier x mid y rest hsplit
    have hsplit' : entry :: later = (earlier ++ x :: mid) ++ y :: rest := by simpa using hsplit
    refine ⟨_, _, h.elapsed_le hsplit, ?_, ?_⟩
    · rw [hshown earlier x _ hsplit]
      exact secondsShown_codeAndNumber c0 c1 (hcap _)
    · rw [hshown (earlier ++ x :: mid) y rest hsplit']
      exact secondsShown_codeAndNumber c0 c1 (hcap _)

end stay

/-- **The seconds on the display**: within a stay of less than one wrap, whatever calls came before, the
window display counts the seconds since the entry up to 99, and the recovery display counts down from 5
to 0, which it shows once the wait is over. -/
theorem display_timers (before : List TimedCall) (entry : TimedCall) (later : List TimedCall)
    (h : Stay before entry later) :
    (entry.message.state = .windowSuspect →
      (∀ earlier x rest, entry :: later = earlier ++ x :: rest →
        shownAt (before ++ earlier) x = codeAndNumber 'O' 'P' (suspectS (x.time - entry.time))) ∧
      secondsShown (shownAt before entry) = some 0 ∧
      ∀ earlier x mid y rest, entry :: later = earlier ++ x :: (mid ++ y :: rest) →
        ∃ m n, secondsShown (shownAt (before ++ earlier) x) = some m ∧
          secondsShown (shownAt (before ++ (earlier ++ x :: mid)) y) = some n ∧ m ≤ n) ∧
    (entry.message.state = .recoveryWait →
      (∀ earlier x rest, entry :: later = earlier ++ x :: rest →
        shownAt (before ++ earlier) x = codeAndNumber 'E' 'S' (recoveryS (x.time - entry.time)) ∧
        (secondsShown (shownAt (before ++ earlier) x) = some 0 ↔ 5000 ≤ x.time - entry.time)) ∧
      secondsShown (shownAt before entry) = some 5 ∧
      ∀ earlier x mid y rest, entry :: later = earlier ++ x :: (mid ++ y :: rest) →
        ∃ m n, secondsShown (shownAt (before ++ earlier) x) = some m ∧
          secondsShown (shownAt (before ++ (earlier ++ x :: mid)) y) = some n ∧ n ≤ m ∧ m ≤ 5) := by
  constructor
  · intro hstate
    have hshown := shownAt_suspect h hstate
    obtain ⟨hentry, htwo⟩ := h.numbers suspectS_le hshown
    refine ⟨hshown, hentry.trans (by decide +kernel), ?_⟩
    intro earlier x mid y rest hsplit
    obtain ⟨e, e', hle, hx, hy⟩ := htwo earlier x mid y rest hsplit
    exact ⟨_, _, hx, hy, Int.ofNat_le.2 (suspectS_mono hle)⟩
  · intro hstate
    have hcap : ∀ elapsed, recoveryS elapsed ≤ 99 := fun elapsed => (recoveryS_le elapsed).trans (by decide)
    have hshown := shownAt_recovery h hstate
    obtain ⟨hentry, htwo⟩ := h.numbers hcap hshown
    refine ⟨fun earlier x rest hsplit => ⟨hshown earlier x rest hsplit, ?_⟩, hentry.trans (by decide +kernel), ?_⟩
    · rw [hshown earlier x rest hsplit, secondsShown_codeAndNumber 'E' 'S' (hcap _), ← recoveryS_eq_zero_iff,
        Option.some_inj, Int.natCast_eq_zero]
    · intro earlier x mid y rest hsplit
      obtain ⟨e, e', hle, hx, hy⟩ := htwo earlier x mid y rest hsplit
      exact ⟨_, _, hx, hy, Int.ofNat_le.2 (recoveryS_anti hle), Int.ofNat_le.2 (recoveryS_le e)⟩

/-- A message of the recovery wait at a real time. -/
def waitingAt (time : Nat) : TimedCall := ⟨⟨.recoveryWait, 0, 26, 24, true⟩, time⟩

/-- A wait that begins 2 s before the wrap of the clock, after one that was broken off, and ends 3 s
after it. -/
theorem display_timers_wrap :
    let before := [waitingAt 500, ⟨⟨.acPaused, 0, 26, 24, true⟩, 900⟩]
    secondsShown (shownAt before (waitingAt (2 ^ 32 - 2000))) = some 5 ∧
      shownAt (before ++ [waitingAt (2 ^ 32 - 2000)]) (waitingAt (2 ^ 32 + 1500)) =
        codeAndNumber 'E' 'S' (recoveryS (2 ^ 32 + 1500 - (2 ^ 32 - 2000))) ∧
      recoveryS (2 ^ 32 + 1500 - (2 ^ 32 - 2000)) = 2 := by
  have hstay : Stay [waitingAt 500, ⟨⟨.acPaused, 0, 26, 24, true⟩, 900⟩] (waitingAt (2 ^ 32 - 2000))
      [waitingAt (2 ^ 32 + 1500), waitingAt (2 ^ 32 + 3000)] :=
    ⟨by decide, by decide, by decide, by decide⟩
  obtain ⟨hshown, hentry, -⟩ := (display_timers _ _ _ hstay).2 rfl
  exact ⟨hentry, (hshown [waitingAt (2 ^ 32 - 2000)] _ _ rfl).1, by decide +kernel⟩

end SmartAc
