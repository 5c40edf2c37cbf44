import Mathlib.Data.List.Induction
import SmartAc.ControlInv
import SmartAc.Lib.Clock

/-!
# The window/recovery behaviour as a function of the history

`Control_Step` keeps an edge flag, a latch, a humidity baseline and two wrapped timestamps.
`historyState` is the state it is to select, said over everything received so far (`Sample`s, the
most recent first, with real times): the episode the window has been open for, the last valid
reading before it, the latest closing. `Tracks` is the simulation invariant between the two, and
`step_tracks` its step lemma, by whether the window is open now and was open before.
-/

namespace SmartAc

open Machine WrapClock

/-- One `Control_Step` call with a sensor message at real time `time`. -/
structure Sample where
  msg : SensorMsg
  userEvents : UInt32
  time : Nat
deriving DecidableEq, Repr

def Sample.input (x : Sample) : ControlInput := ⟨some x.msg, x.userEvents, reading x.time⟩

/-! ## The history function -/

/-- The latest valid sample; the most recent message comes first. -/
def lastValid (ms : List SensorMsg) : Option SensorMsg := ms.find? (·.valid)

/-- The humidity of the latest valid sample of the segment `h`, or of `pre` before it. -/
def humidityOf (pre : List SensorMsg) (h : List Sample) : Rat :=
  ((lastValid (h.map (·.msg) ++ pre)).map (·.humidityPct)).getD 0

def temperatureOf (pre : List SensorMsg) (h : List Sample) : Rat :=
  ((lastValid (h.map (·.msg) ++ pre)).map (·.temperatureC)).getD 0

/-- The steps of the current episode: the window has been open at each of them. -/
def episode (h : List Sample) : List Sample := h.takeWhile (·.msg.windowOpen)

/-- What was received before the current episode. -/
def beforeEpisode (h : List Sample) : List Sample := h.dropWhile (·.msg.windowOpen)

/-- Step `k` pauses an episode opened at `t0` with humidity `h0` before it. -/
def pauses (t0 : Nat) (h0 : Rat) (k : Sample) : Bool :=
  decide (5000 ≤ k.time - t0) || (k.msg.valid && decide (10 ≤ k.msg.humidityPct - h0))

/-- Some step of the current episode so far paused it. -/
def pausedSoFar (pre : List SensorMsg) (h : List Sample) : Bool :=
  match (episode h).getLast? with
  | none => false
  | some o => (episode h).any (pauses o.time (humidityOf pre (beforeEpisode h)))

/-- The time of the latest closing step: the first of the closed steps since the window was open. -/
def closingTime (h : List Sample) : Option Nat :=
  match h.dropWhile (fun x => !x.msg.windowOpen) with
  | [] => none
  | _ :: _ => (h.takeWhile (fun x => !x.msg.windowOpen)).getLast?.map (·.time)

/-- The latest closing is less than 5 s ago. -/
def recovering (x : Sample) (past : List Sample) : Bool :=
  match closingTime (x :: past) with
  | none => false
  | some c => decide (x.time - c < 5000)

/-- The state at step `x` after the steps `past`, with the setpoint `setpointC`. -/
def historyState (pre : List SensorMsg) (setpointC : Int) (x : Sample) (past : List Sample) : AcState :=
  if x.msg.windowOpen then
    if pausedSoFar pre (x :: past) then .acPaused else .windowSuspect
  else if recovering x past then .recoveryWait
  else if 1 < temperatureOf pre (x :: past) - setpointC then .cooling
  else .idle

/-- The setpoint after all events so far, from 24. -/
def historySetpoint (events : List UInt32) : Int := events.foldl setpointBump 24

/-! ## Readings and setpoint of a run -/

theorem run_setpoint (ins : List ControlInput) :
    (final step controlInit ins).setpointC = historySetpoint (ins.map (·.userEvents)) := by
  induction ins using List.reverseRecOn with
  | nil => rfl
  | append_singleton ins i ih =>
    have hs : (step (final step controlInit ins) i).1.setpointC = _ := (step_frame _ i).2.2.1
    rw [final_snoc, hs, setpointAfter_eq_bump _ (run_inv ins).setpoint_range, ih]
    simp [historySetpoint]

/-- The messages of a run, the most recent first. -/
def messages (ins : List ControlInput) : List SensorMsg := (ins.filterMap (·.sensor)).reverse

/-- The context holds the latest valid sample of its run. -/
theorem run_reading (ins : List ControlInput) :
    ∀ m, lastValid (messages ins) = some m → (final step controlInit ins).temperatureC = m.temperatureC ∧
      (final step controlInit ins).humidityPct = m.humidityPct := by
  induction ins using List.reverseRecOn with
  | nil => intro m hm; cases hm
  | append_singleton ins i ih =>
    intro m hm
    obtain ⟨-, -, -, -, ht, hu⟩ := step_frame (final step controlInit ins) i
    rw [final_snoc, step_fst, ht, hu]
    cases hs : i.sensor with
    | none =>
      have hm' : lastValid (messages ins) = some m := by simpa [messages, hs] using hm
      simpa using ih m hm'
    | some s =>
      cases hv : s.valid with
      | false =>
        have hm' : lastValid (messages ins) = some m := by
          simpa [messages, hs, lastValid, List.find?_cons, hv] using hm
        simpa [validSample_invalid hv] using ih m hm'
      | true =>
        have hm' : s = m := by simpa [messages, hs, lastValid, List.find?_cons, hv] using hm
        rw [validSample_valid hv, hm']
        exact ⟨rfl, rfl⟩

theorem run_lastValid (ins : List ControlInput)
    (h : (final step controlInit ins).haveSensor = true) : ∃ m, lastValid (messages ins) = some m := by
  rw [run_haveSensor] at h
  simp only [controlInit, Bool.false_or, List.any_eq_true, validSample_isSome_iff] at h
  obtain ⟨i, hi, s, hs, hv⟩ := h
  refine Option.isSome_iff_exists.1 (List.find?_isSome.2 ⟨s, ?_, hv⟩)
  simp only [messages, List.mem_reverse, List.mem_filterMap]
  exact ⟨i, hi, hs⟩

/-! ## The history of one more step -/

section history
variable (pre : List SensorMsg) {x : Sample} {past : List Sample}

/-- The window is open after the steps `past`. -/
def openAfter (past : List Sample) : Bool := (past.head?.map (·.msg.windowOpen)).getD false

theorem pausedSoFar_stay (hx : x.msg.windowOpen = true) (hp : openAfter past = true) :
    ∃ o, (episode past).getLast? = some o ∧ (episode (x :: past)).getLast? = some o ∧
      beforeEpisode (x :: past) = beforeEpisode past ∧
      pausedSoFar pre (x :: past) =
        (pauses o.time (humidityOf pre (beforeEpisode past)) x || pausedSoFar pre past) := by
  cases past with
  | nil => cases hp
  | cons y ys =>
    have hy : y.msg.windowOpen = true := by simpa [openAfter] using hp
    have hne : episode (y :: ys) ≠ [] := by simp [episode, hy]
    obtain ⟨o, ho⟩ : ∃ o, (episode (y :: ys)).getLast? = some o :=
      ⟨_, List.getLast?_eq_some_getLast hne⟩
    have he : episode (x :: y :: ys) = x :: episode (y :: ys) := by simp [episode, hx]
    have hb : beforeEpisode (x :: y :: ys) = beforeEpisode (y :: ys) := by simp [beforeEpisode, hx]
    have hl : (episode (x :: y :: ys)).getLast? = some o := by
      rw [he, List.getLast?_cons, ho]; rfl
    refine ⟨o, ho, hl, hb, ?_⟩
    simp only [pausedSoFar, hl, ho, hb]
    rw [he, List.any_cons]

theorem pausedSoFar_open (hx : x.msg.windowOpen = true) (hp : openAfter past = false) :
    (episode (x :: past)).getLast? = some x ∧ beforeEpisode (x :: past) = past ∧
      pausedSoFar pre (x :: past) = pauses x.time (humidityOf pre past) x := by
  have hpast : episode past = [] ∧ beforeEpisode past = past := by
    cases past with
    | nil => exact ⟨rfl, rfl⟩
    | cons y ys =>
      have hy : y.msg.windowOpen = false := by simpa [openAfter] using hp
      simp [episode, beforeEpisode, hy]
  have he : episode (x :: past) = [x] := by
    have : episode (x :: past) = x :: episode past := by simp [episode, hx]
    rw [this, hpast.1]
  have hb : beforeEpisode (x :: past) = past := by
    have : beforeEpisode (x :: past) = beforeEpisode past := by simp [beforeEpisode, hx]
    rw [this, hpast.2]
  refine ⟨by rw [he]; rfl, hb, ?_⟩
  simp only [pausedSoFar, hb]
  rw [he]
  simp

theorem closingTime_close (hx : x.msg.windowOpen = false) (hp : openAfter past = true) :
    closingTime (x :: past) = some x.time := by
  cases past with
  | nil => cases hp
  | cons y ys =>
    have hy : y.msg.windowOpen = true := by simpa [openAfter] using hp
    simp [closingTime, hx, hy]

theorem closingTime_stay (hx : x.msg.windowOpen = false) (hp : openAfter past = false) :
    closingTime (x :: past) = closingTime past := by
  cases past with
  | nil => simp [closingTime, hx]
  | cons y ys =>
    have hy : y.msg.windowOpen = false := by simpa [openAfter] using hp
    simp only [closingTime, hx, hy, List.dropWhile_cons, List.takeWhile_cons, Bool.not_false,
      ↓reduceIte, List.getLast?_cons]
    rfl

/-- A closing step of the history is one of its steps. -/
theorem episode_mem {o : Sample} {h : List Sample} (ho : (episode h).getLast? = some o) : o ∈ h :=
  (List.takeWhile_sublist _).subset (List.mem_of_getLast? ho)

end history

/-! ## Automatic mode, one step -/

/-- The window flag is the window of the last message, in every mode. -/
theorem step_window (ctx : ControlContext) (x : Sample) :
    (stepCtx ctx x.input).windowWasOpen = x.msg.windowOpen := by
  obtain ⟨c, -, he⟩ := step_selects ctx x.input
  rw [he]
  rfl

/-- What a closed step in automatic mode does: the wait starts, goes on, or the temperature
decides. -/
def ClosedStep (ctx : ControlContext) (x : Sample) : Prop :=
  if ctx.windowWasOpen then
    (stepCtx ctx x.input).state = .recoveryWait ∧ (stepCtx ctx x.input).pauseLatched = false ∧
      (stepCtx ctx x.input).recoverySinceMs = reading x.time
  else
    (stepCtx ctx x.input).pauseLatched = ctx.pauseLatched ∧
      (stepCtx ctx x.input).recoverySinceMs = ctx.recoverySinceMs ∧
      (stepCtx ctx x.input).state =
        if ctx.state = .recoveryWait ∧ reading x.time - ctx.recoverySinceMs < appRecoveryWaitMs then
          .recoveryWait
        else if wantsCooling (stepCtx ctx x.input) then .cooling else .idle

theorem step_closed {ctx : ControlContext} {x : Sample} (hon : poweredAfter ctx x.userEvents = true)
    (hauto : manualAfter ctx x.userEvents = false) (hoff : powersOff ctx x.userEvents = false)
    (ho : x.msg.windowOpen = false) : ClosedStep ctx x := by
  obtain ⟨c, hc, he⟩ := step_selects ctx x.input
  unfold ClosedStep
  rw [he]
  have hp' := prepare_powered ctx (some x.msg) x.userEvents (reading x.time)
  have hm' := prepare_manual ctx (some x.msg) x.userEvents (reading x.time)
  have hw' := prepare_windowWasOpen ctx (some x.msg) x.userEvents (reading x.time)
  have hl' := prepare_pauseLatched ctx (some x.msg) x.userEvents (reading x.time)
  have hrec := prepare_recoverySinceMs ctx (some x.msg) x.userEvents (reading x.time)
  have hst := prepare_state ctx (some x.msg) x.userEvents (reading x.time)
  rw [hon] at hp'
  rw [hauto] at hm' hl'
  simp only [hoff, Bool.not_false, Bool.and_true, Bool.and_false] at hw' hl'
  dsimp only [Sample.input] at hc ⊢
  generalize prepare ctx (some x.msg) x.userEvents (reading x.time) = p at *
  rw [← hw', ← hst, ← hrec, ← hl']
  cases hc with
  | off hp => rw [hp'] at hp; cases hp
  | manual hp hm => rw [hm'] at hm; cases hm
  | pause hp hm ho' why => simp [ho] at ho'
  | suspect hp hm ho' hage hrise hl => simp [ho] at ho'
  | startWait hp hm ho' hw =>
    rw [if_pos hw]
    exact ⟨rfl, rfl, rfl⟩
  | keepWait hp hm ho' hw hs hage =>
    rw [if_neg (by simp [hw]), if_pos ⟨hs, hage⟩]
    exact ⟨rfl, rfl, rfl⟩
  | cool hp hm ho' hw hdone hc =>
    rw [if_neg (by simp [hw]), if_neg hdone]
    exact ⟨rfl, rfl, (if_pos hc).symm⟩
  | idle hp hm ho' hw hdone hc =>
    rw [if_neg (by simp [hw]), if_neg hdone]
    refine ⟨rfl, rfl, (if_neg ?_).symm⟩
    exact fun h => by rw [show wantsCooling p = true from h] at hc; cases hc

/-- Neither POWER nor MANUAL is pressed. -/
def NoModeEvent (userEvents : UInt32) : Prop :=
  hasEvent userEvents userEvtPower = false ∧ hasEvent userEvents userEvtManual = false

section auto
variable {ctx : ControlContext} (hp : ctx.powered = true) (hm : ctx.manual = false) {x : Sample}
  (hev : NoModeEvent x.userEvents)
include hp hm hev

/-- Without POWER and MANUAL the event block leaves mode, window flag and latch alone. -/
theorem prepare_auto (sensor : Option SensorMsg) (nowMs : UInt32) :
    (prepare ctx sensor x.userEvents nowMs).powered = true ∧
    (prepare ctx sensor x.userEvents nowMs).manual = false ∧
    (prepare ctx sensor x.userEvents nowMs).windowWasOpen = ctx.windowWasOpen ∧
    (prepare ctx sensor x.userEvents nowMs).pauseLatched = ctx.pauseLatched := by
  obtain ⟨hpow, hman⟩ := hev
  have hoff : powersOff ctx x.userEvents = false := by simp [powersOff, hpow]
  have htog : togglesManual ctx x.userEvents = false := by simp [togglesManual, hman]
  refine ⟨by simp [poweredAfter, hpow, hp], by simp [manualAfter, hm, htog], by simp [hoff], ?_⟩
  rw [prepare_pauseLatched, hoff, htog]
  simp

theorem auto_frame : (stepCtx ctx x.input).powered = true ∧ (stepCtx ctx x.input).manual = false ∧
    (stepCtx ctx x.input).windowWasOpen = x.msg.windowOpen := by
  obtain ⟨h1, h2, -⟩ := step_frame ctx x.input
  obtain ⟨hp', hm', -⟩ := prepare_auto hp hm hev (some x.msg) (reading x.time)
  rw [prepare_powered] at hp'
  rw [prepare_manual] at hm'
  exact ⟨h1.trans hp', h2.trans hm', step_window ctx x⟩

/-- The window is open: the edge fixes time and baseline, the pause latches. -/
theorem auto_open (hs : ctx.haveSensor = true) (ho : x.msg.windowOpen = true) :
    let since := if ctx.windowWasOpen then ctx.windowOpenSinceMs else reading x.time
    let base := if ctx.windowWasOpen then ctx.humidityBeforeWindowPct else ctx.humidityPct
    let pause := decide (appWindowPauseMs ≤ reading x.time - since) ||
      (x.msg.valid && decide (appHumidityRisePct ≤ x.msg.humidityPct - base)) || ctx.pauseLatched
    (stepCtx ctx x.input).windowOpenSinceMs = since ∧
      (stepCtx ctx x.input).humidityBeforeWindowPct = base ∧
      (stepCtx ctx x.input).pauseLatched = pause ∧
      (stepCtx ctx x.input).state = if pause then .acPaused else .windowSuspect := by
  intro since base pause
  obtain ⟨hp', hm', -, hl'⟩ := prepare_auto hp hm hev (some x.msg) (reading x.time)
  obtain ⟨c, hc, he⟩ := step_selects ctx x.input
  have hopens : opens ctx (some x.msg) x.userEvents = !ctx.windowWasOpen := by
    simp [opens, ho, powersOff, hev.1]
  have hsince : (prepare ctx (some x.msg) x.userEvents (reading x.time)).windowOpenSinceMs = since := by
    rw [prepare_windowOpenSinceMs, hopens]
    cases hw : ctx.windowWasOpen <;> simp [since, hw]
  have hbase : (prepare ctx (some x.msg) x.userEvents (reading x.time)).humidityBeforeWindowPct = base := by
    rw [prepare_humidityBeforeWindowPct, hopens]
    cases hw : ctx.windowWasOpen <;> simp [base, baseline, hw, hs]
  rw [he]
  dsimp only [Sample.input] at hc ⊢
  generalize prepare ctx (some x.msg) x.userEvents (reading x.time) = p at *
  have hpause : pause = (decide (appWindowPauseMs ≤ reading x.time - p.windowOpenSinceMs) ||
      humidityRise p (some x.msg) || p.pauseLatched) := by
    simp only [pause, humidityRise, Option.any_some, hsince, hbase, hl']
  cases hc with
  | off hp => rw [hp'] at hp; cases hp
  | manual hp hm => rw [hm'] at hm; cases hm
  | pause hp hm ho' why =>
    have : pause = true := by
      rw [hpause]; simpa [or_assoc] using why
    rw [this]
    exact ⟨hsince, hbase, rfl, rfl⟩
  | suspect hp hm ho' hage hrise hl =>
    have : pause = false := by
      rw [hpause]; simp [hage, hrise, hl]
    rw [this]
    exact ⟨hsince, hbase, hl, rfl⟩
  | startWait hp hm ho' hw => simp [ho] at ho'
  | keepWait hp hm ho' hw hs' hage => simp [ho] at ho'
  | cool hp hm ho' hw hdone hc => simp [ho] at ho'
  | idle hp hm ho' hw hdone hc => simp [ho] at ho'

theorem auto_closed (ho : x.msg.windowOpen = false) : ClosedStep ctx x := by
  obtain ⟨hp', hm', -, -⟩ := prepare_auto hp hm hev none 0
  rw [prepare_powered] at hp'
  rw [prepare_manual] at hm'
  exact step_closed hp' hm' (by simp [powersOff, hev.1]) ho

end auto

/-! ## The simulation -/

/-- The context after the steps `past` of the segment, in terms of the history. -/
structure Tracks (pre : List SensorMsg) (ctx : ControlContext) (past : List Sample) : Prop where
  powered : ctx.powered = true
  auto : ctx.manual = false
  sensor : ctx.haveSensor = true
  temperature : ctx.temperatureC = temperatureOf pre past
  humidity : ctx.humidityPct = humidityOf pre past
  window : ctx.windowWasOpen = openAfter past
  latch : ctx.pauseLatched = (openAfter past && pausedSoFar pre past)
  opened : ∀ o, openAfter past = true → (episode past).getLast? = some o →
    ctx.windowOpenSinceMs = reading o.time ∧
      ctx.humidityBeforeWindowPct = humidityOf pre (beforeEpisode past)
  /-- At every later time the code's test for the wait is the history's. -/
  waiting : openAfter past = false → ∀ t, (∀ y ∈ past, y.time ≤ t ∧ t - y.time < 2 ^ 32) →
    (ctx.state = .recoveryWait ∧ reading t - ctx.recoverySinceMs < appRecoveryWaitMs ↔
      ∃ c, closingTime past = some c ∧ t - c < 5000)

theorem readings_snoc (pre : List SensorMsg) (ctx : ControlContext) (past : List Sample) (x : Sample)
    (ht : ctx.temperatureC = temperatureOf pre past) (hu : ctx.humidityPct = humidityOf pre past) :
    (stepCtx ctx x.input).temperatureC = temperatureOf pre (x :: past) ∧
      (stepCtx ctx x.input).humidityPct = humidityOf pre (x :: past) := by
  obtain ⟨-, -, -, -, h5, h6⟩ := step_frame ctx x.input
  rw [h5, h6, ht, hu]
  cases hv : x.msg.valid with
  | true =>
    simp [Sample.input, validSample_valid hv, temperatureOf, humidityOf, lastValid, hv]
  | false =>
    simp [Sample.input, validSample_invalid hv, temperatureOf, humidityOf, lastValid, hv]

section step
variable {pre : List SensorMsg} {ctx : ControlContext} {past : List Sample} (h : Tracks pre ctx past)
  {x : Sample} (hev : NoModeEvent x.userEvents)
  (htime : ∀ y ∈ past, y.time ≤ x.time ∧ x.time - y.time < 2 ^ 32)
include h htime

/-- The episode of an open step: where it began, what the code has stored for it, when it pauses. -/
theorem Tracks.episode_open (ho : x.msg.windowOpen = true) :
    ∃ o, (episode (x :: past)).getLast? = some o ∧ o.time ≤ x.time ∧ x.time - o.time < 2 ^ 32 ∧
      (if ctx.windowWasOpen then ctx.windowOpenSinceMs else reading x.time) = reading o.time ∧
      (if ctx.windowWasOpen then ctx.humidityBeforeWindowPct else ctx.humidityPct) =
        humidityOf pre (beforeEpisode (x :: past)) ∧
      pausedSoFar pre (x :: past) =
        (pauses o.time (humidityOf pre (beforeEpisode (x :: past))) x || ctx.pauseLatched) := by
  rw [h.window, h.latch]
  cases hopened : openAfter past with
  | false =>
    obtain ⟨h1, h2, h3⟩ := pausedSoFar_open pre ho hopened
    refine ⟨x, h1, le_refl _, by omega, rfl, ?_, ?_⟩
    · rw [h2, ← h.humidity]
      rfl
    · rw [h3, h2, Bool.false_and, Bool.or_false]
  | true =>
    obtain ⟨o, h0, h1, h2, h3⟩ := pausedSoFar_stay pre ho hopened
    obtain ⟨h4, h5⟩ := h.opened o hopened h0
    obtain ⟨hle, hlt⟩ := htime o (episode_mem h0)
    refine ⟨o, h1, hle, hlt, h4, ?_, ?_⟩
    · rw [h2]
      exact h5
    · rw [h3, h2, Bool.true_and]

include hev

omit htime in
/-- The modes, the window flag and the readings after the step, whatever the window does. -/
theorem Tracks.readings : (stepCtx ctx x.input).powered = true ∧ (stepCtx ctx x.input).manual = false ∧
    (stepCtx ctx x.input).windowWasOpen = openAfter (x :: past) ∧ (stepCtx ctx x.input).haveSensor = true ∧
    (stepCtx ctx x.input).temperatureC = temperatureOf pre (x :: past) ∧
    (stepCtx ctx x.input).humidityPct = humidityOf pre (x :: past) := by
  obtain ⟨hp', hm', hw'⟩ := auto_frame h.powered h.auto hev
  obtain ⟨ht', hu'⟩ := readings_snoc pre ctx past x h.temperature h.humidity
  have hs' : (stepCtx ctx x.input).haveSensor = true := by
    rw [(step_frame ctx x.input).2.2.2.1, h.sensor, Bool.true_or]
  exact ⟨hp', hm', hw', hs', ht', hu'⟩

/-- **Step lemma**, window open: the pause latches as the history says. -/
theorem step_tracks_open (ho : x.msg.windowOpen = true) :
    Tracks pre (stepCtx ctx x.input) (x :: past) ∧
      (stepCtx ctx x.input).state = historyState pre (stepCtx ctx x.input).setpointC x past := by
  obtain ⟨hp', hm', hw', hs', ht', hu'⟩ := h.readings hev
  have hnow : openAfter (x :: past) = true := ho
  obtain ⟨hsince, hbase, hlatch, hstate⟩ := auto_open h.powered h.auto hev h.sensor ho
  obtain ⟨o, hlast, hle, hlt, hsince', hbase', hpaused⟩ := h.episode_open htime ho
  have hage : decide (appWindowPauseMs ≤ reading x.time - reading o.time) =
      decide (5000 ≤ x.time - o.time) := decide_eq_decide.2 (le_sub_reading_iff hle hlt _)
  have hpause : (decide (appWindowPauseMs ≤ reading x.time - reading o.time) ||
      (x.msg.valid && decide (appHumidityRisePct ≤
        x.msg.humidityPct - humidityOf pre (beforeEpisode (x :: past)))) || ctx.pauseLatched) =
      pausedSoFar pre (x :: past) := by
    rw [hpaused, hage]
    rfl
  rw [hsince'] at hsince
  rw [hbase'] at hbase
  rw [hsince', hbase', hpause] at hlatch hstate
  constructor
  · refine ⟨hp', hm', hs', ht', hu', hw', ?_, ?_, ?_⟩
    · rw [hlatch, hnow, Bool.true_and]
    · intro o' _ ho'
      rw [hlast] at ho'
      cases ho'
      exact ⟨hsince, hbase⟩
    · intro hclosed
      rw [hnow] at hclosed
      cases hclosed
  · rw [hstate, historyState, if_pos ho]

/-- The wait after a closed step, by the code's flags and by the history. -/
theorem Tracks.waiting_closed (ho : x.msg.windowOpen = false) {t : Nat}
    (ht : ∀ y ∈ x :: past, y.time ≤ t ∧ t - y.time < 2 ^ 32) :
    (stepCtx ctx x.input).state = .recoveryWait ∧
        reading t - (stepCtx ctx x.input).recoverySinceMs < appRecoveryWaitMs ↔
      ∃ c, closingTime (x :: past) = some c ∧ t - c < 5000 := by
  obtain ⟨hxt, hxlt⟩ := ht x List.mem_cons_self
  have hc := auto_closed h.powered h.auto hev ho
  unfold ClosedStep at hc
  rw [h.window] at hc
  cases hopened : openAfter past with
  | true =>
    -- this step closes the window: the wait starts now
    rw [if_pos hopened] at hc
    obtain ⟨hstate, -, hsince⟩ := hc
    rw [closingTime_close ho hopened, hstate, hsince, sub_reading_lt_iff hxt hxlt]
    simp [appRecoveryWaitMs]
  | false =>
    rw [if_neg (by simp [hopened])] at hc
    obtain ⟨-, hsince, hstate⟩ := hc
    rw [closingTime_stay ho hopened, hsince]
    have hnow := h.waiting hopened x.time htime
    have hthen := h.waiting hopened t fun y hy => ht y (List.mem_cons_of_mem _ hy)
    constructor
    · rintro ⟨hs, hage⟩
      by_cases hw : ctx.state = .recoveryWait ∧
          reading x.time - ctx.recoverySinceMs < appRecoveryWaitMs
      · exact hthen.1 ⟨hw.1, hage⟩
      · rw [if_neg hw] at hstate
        rw [hstate] at hs
        split at hs <;> cases hs
    · rintro ⟨c, hclose, hlt⟩
      have hw := hnow.2 ⟨c, hclose, by omega⟩
      rw [if_pos hw] at hstate
      exact ⟨hstate, (hthen.2 ⟨c, hclose, hlt⟩).2⟩

/-- **Step lemma**, window closed: the wait starts, goes on, or the temperature decides. -/
theorem step_tracks_closed (ho : x.msg.windowOpen = false) :
    Tracks pre (stepCtx ctx x.input) (x :: past) ∧
      (stepCtx ctx x.input).state = historyState pre (stepCtx ctx x.input).setpointC x past := by
  obtain ⟨hp', hm', hw', hs', ht', hu'⟩ := h.readings hev
  have hnow : openAfter (x :: past) = false := ho
  have hc := auto_closed h.powered h.auto hev ho
  unfold ClosedStep at hc
  rw [h.window] at hc
  have hwarm : wantsCooling (stepCtx ctx x.input) = true ↔
      1 < temperatureOf pre (x :: past) - (stepCtx ctx x.input).setpointC := by
    rw [wantsCooling, hs', Bool.true_and, decide_eq_true_eq, coolingLevel_auto_pos, ht']
  constructor
  · refine ⟨hp', hm', hs', ht', hu', hw', ?_, ?_, ?_⟩
    · rw [hnow, Bool.false_and]
      cases hopened : openAfter past with
      | true =>
        rw [if_pos hopened] at hc
        exact hc.2.1
      | false =>
        rw [if_neg (by simp [hopened])] at hc
        rw [hc.1, h.latch, hopened, Bool.false_and]
    · intro o hopen
      rw [hnow] at hopen
      cases hopen
    · intro _ t ht
      exact h.waiting_closed hev htime ho ht
  · rw [historyState, if_neg (by simp [ho])]
    unfold recovering
    cases hopened : openAfter past with
    | true =>
      rw [if_pos hopened] at hc
      rw [hc.1, closingTime_close ho hopened]
      simp
    | false =>
      rw [if_neg (by simp [hopened])] at hc
      have hwait := h.waiting hopened x.time htime
      rw [hc.2.2, closingTime_stay ho hopened]
      cases hclose : closingTime past with
      | none =>
        have hno : ¬ (ctx.state = .recoveryWait ∧
            reading x.time - ctx.recoverySinceMs < appRecoveryWaitMs) := by
          intro hw
          obtain ⟨c, hc', -⟩ := hwait.1 hw
          rw [hclose] at hc'
          cases hc'
        rw [if_neg hno]
        simp [hwarm]
      | some c =>
        have hiff : ctx.state = .recoveryWait ∧
            reading x.time - ctx.recoverySinceMs < appRecoveryWaitMs ↔ x.time - c < 5000 := by
          rw [hwait, hclose]
          simp
        simp [hiff, hwarm]

/-- **Step lemma** of the simulation: one `Control_Step` call selects the history's state and keeps
`Tracks`. -/
theorem step_tracks :
    Tracks pre (stepCtx ctx x.input) (x :: past) ∧
      (stepCtx ctx x.input).state = historyState pre (stepCtx ctx x.input).setpointC x past := by
  cases ho : x.msg.windowOpen with
  | true => exact step_tracks_open h hev htime ho
  | false => exact step_tracks_closed h hev htime ho

end step

/-! ## Whole segments -/

/-- A closed automatic context outside the wait starts a segment. -/
theorem start_tracks {before : List ControlInput} (hp : (final step controlInit before).powered = true)
    (hm : (final step controlInit before).manual = false)
    (hw : (final step controlInit before).windowWasOpen = false)
    (hr : (final step controlInit before).state ≠ .recoveryWait)
    (hs : (final step controlInit before).haveSensor = true) :
    Tracks (messages before) (final step controlInit before) [] := by
  have hi := run_inv before
  obtain ⟨m, hlast⟩ := run_lastValid before hs
  obtain ⟨ht, hu⟩ := run_reading before m hlast
  refine ⟨hp, hm, hs, ?_, ?_, hw, ?_, ?_, ?_⟩
  · rw [ht, temperatureOf, List.map_nil, List.nil_append, hlast]
    rfl
  · rw [hu, humidityOf, List.map_nil, List.nil_append, hlast]
    rfl
  · -- a latched pause would count the window as open
    refine Bool.eq_false_iff.2 fun hl => ?_
    have := (hi.open_branch (.inl (hi.latched_iff.1 hl))).2.2
    rw [hw] at this
    cases this
  · intro o ho
    cases ho
  · intro _ t _
    constructor
    · rintro ⟨hs', -⟩
      exact absurd hs' hr
    · rintro ⟨c, hc, -⟩
      cases hc

/-- **Run lemma**: `Tracks` holds after every segment. -/
theorem run_tracks {pre : List SensorMsg} {ctx : ControlContext} (h : Tracks pre ctx [])
    (seg : List Sample) (hev : ∀ x ∈ seg, NoModeEvent x.userEvents)
    (htime : seg.Pairwise (·.time ≤ ·.time))
    (hspan : ∀ x ∈ seg, ∀ y ∈ seg, y.time - x.time < 2 ^ 32) :
    Tracks pre (final step ctx (seg.map Sample.input)) seg.reverse := by
  induction seg using List.reverseRecOn with
  | nil => exact h
  | append_singleton seg x ih =>
    obtain ⟨hseg, -, hlast⟩ := List.pairwise_append.1 htime
    have hx : x ∈ seg ++ [x] := List.mem_append_right _ List.mem_cons_self
    have ih' := ih (fun y hy => hev y (List.mem_append_left _ hy)) hseg fun y hy z hz =>
      hspan y (List.mem_append_left _ hy) z (List.mem_append_left _ hz)
    rw [List.map_append, List.map_singleton, final_snoc, List.reverse_append]
    refine (step_tracks ih' (hev x hx) fun y hy => ?_).1
    rw [List.mem_reverse] at hy
    exact ⟨hlast y hy x List.mem_cons_self, hspan y (List.mem_append_left _ hy) x hx⟩

/-- **Window and recovery in automatic mode**: at every step of a segment that starts closed,
automatic and outside the wait, without POWER and MANUAL, the state is the history's. -/
theorem window_history (before : List ControlInput) (seg : List Sample)
    (hp : (final step controlInit before).powered = true)
    (hm : (final step controlInit before).manual = false)
    (hw : (final step controlInit before).windowWasOpen = false)
    (hr : (final step controlInit before).state ≠ .recoveryWait)
    (hs : (final step controlInit before).haveSensor = true)
    (hev : ∀ x ∈ seg, NoModeEvent x.userEvents)
    (htime : seg.Pairwise (·.time ≤ ·.time))
    (hspan : ∀ x ∈ seg, ∀ y ∈ seg, y.time - x.time < 2 ^ 32)
    (past : List Sample) (x : Sample) (rest : List Sample) (hseg : seg = past ++ x :: rest) :
    (step (final step controlInit (before ++ past.map Sample.input)) x.input).2.state =
      historyState (messages before)
        (historySetpoint (before.map (·.userEvents) ++ past.map (·.userEvents) ++ [x.userEvents]))
        x past.reverse := by
  subst hseg
  obtain ⟨hpast, -, hlast⟩ := List.pairwise_append.1 htime
  have hl (y : Sample) (hy : y ∈ past) : y ∈ past ++ x :: rest := List.mem_append_left _ hy
  have hx : x ∈ past ++ x :: rest := List.mem_append_right _ List.mem_cons_self
  have hpre := run_tracks (start_tracks hp hm hw hr hs) past (fun y hy => hev y (hl y hy)) hpast
    fun y hy z hz => hspan y (hl y hy) z (hl z hz)
  rw [← final_append] at hpre
  have hstep := (step_tracks hpre (hev x hx) fun y hy => by
    rw [List.mem_reverse] at hy
    exact ⟨hlast y hy x List.mem_cons_self, hspan y (hl y hy) x hx⟩).2
  -- the setpoint in the context is the one of the events alone
  have hset := run_setpoint (before ++ past.map Sample.input ++ [x.input])
  rw [final_snoc, step_fst] at hset
  rw [hset] at hstep
  simpa [step_snd, controlOutput, Sample.input, Function.comp_def] using hstep

/-- A humidity rise pauses, falls back while the window stays open, and the wait of the closing
runs across the wrap of the clock. -/
theorem window_history_wrap :
    let dry : SensorMsg := ⟨27, 40, false, true⟩
    let before : List ControlInput := [⟨some dry, userEvtPower, reading (2 ^ 32 - 9000)⟩]
    let past : List Sample :=
      [⟨⟨27, 55, true, true⟩, 0, 2 ^ 32 - 4000⟩, ⟨⟨27, 41, true, true⟩, 0, 2 ^ 32 - 3500⟩,
        ⟨dry, userEvtSetpointUp, 2 ^ 32 - 3000⟩]
    let x : Sample := ⟨⟨27, 0, false, false⟩, 0, 2 ^ 32 + 2500⟩
    (step (final step controlInit (before ++ past.map Sample.input)) x.input).2.state =
      historyState (messages before)
        (historySetpoint (before.map (·.userEvents) ++ past.map (·.userEvents) ++ [x.userEvents]))
        x past.reverse := by
  intro dry before past x
  exact window_history before (past ++ [x]) (by decide +kernel) (by decide +kernel)
    (by decide +kernel) (by decide +kernel) (by decide +kernel) (by unfold NoModeEvent; decide +kernel)
    (by decide +kernel) (by decide +kernel) past x [] rfl

end SmartAc
