import SmartAc.ControlInv
import SmartAc.ControlTask

/-!
# Redundant polls of the controller are not observable

Between two messages `ControlTask` re-runs `Control_Step` on the stale latest message every 10
ticks. `polled` is the exact effect of such a poll on a context that has just been stepped with the
same message: it can only latch the pause of a window open for 5 s or let an expired recovery wait
go. Both are decisions the next step takes by itself, as long as the ages it compares have not
wrapped in between (`step_polled`).
-/

namespace SmartAc

open Machine

/-- The wrapped ages of the two timestamps do not decrease from `t` to `t'`. -/
def AgesGrow (ctx : ControlContext) (t t' : UInt32) : Prop :=
  t - ctx.windowOpenSinceMs ≤ t' - ctx.windowOpenSinceMs ∧
    t - ctx.recoverySinceMs ≤ t' - ctx.recoverySinceMs

instance (ctx : ControlContext) (t t' : UInt32) : Decidable (AgesGrow ctx t t') :=
  inferInstanceAs (Decidable (_ ∧ _))

/-- The state of a powered automatic controller with the window closed and no wait. -/
def coolOrIdle (ctx : ControlContext) : AcState := if wantsCooling ctx then .cooling else .idle

/-- What is left by a step on message `s`, as far as the next poll on `s` depends on it. -/
structure Settled (ctx : ControlContext) (s : SensorMsg) : Prop where
  window : ctx.windowWasOpen = s.windowOpen
  reading : s.valid = true →
    ctx.haveSensor = true ∧ ctx.temperatureC = s.temperatureC ∧ ctx.humidityPct = s.humidityPct
  off : ctx.powered = false → ctx.state = .off
  manual : ctx.powered = true → ctx.manual = true → ctx.state = .manualOverride
  opened : ctx.powered = true → ctx.manual = false → s.windowOpen = true →
    ctx.state = .acPaused ∧ ctx.pauseLatched = true ∨
      ctx.state = .windowSuspect ∧ ctx.pauseLatched = false ∧ humidityRise ctx (some s) = false
  closed : ctx.powered = true → ctx.manual = false → s.windowOpen = false →
    ctx.state = .recoveryWait ∨ ctx.state = coolOrIdle ctx

/-- A poll at `t`: the pause latch of a window open for long enough, or the end of the wait. -/
def polled (ctx : ControlContext) (t : UInt32) : ControlContext :=
  if ctx.state = .windowSuspect ∧ appWindowPauseMs ≤ t - ctx.windowOpenSinceMs then
    { ctx with pauseLatched := true, state := .acPaused }
  else if ctx.state = .recoveryWait ∧ ¬ t - ctx.recoverySinceMs < appRecoveryWaitMs then
    { ctx with state := coolOrIdle ctx }
  else ctx

theorem step_settled (ctx : ControlContext) (s : SensorMsg) (userEvents nowMs : UInt32) :
    Settled (stepCtx ctx ⟨some s, userEvents, nowMs⟩) s := by
  obtain ⟨-, -, -, hh, ht, hu⟩ := step_frame ctx ⟨some s, userEvents, nowMs⟩
  have hread (hv : s.valid = true) : (stepCtx ctx ⟨some s, userEvents, nowMs⟩).haveSensor = true ∧
      (stepCtx ctx ⟨some s, userEvents, nowMs⟩).temperatureC = s.temperatureC ∧
      (stepCtx ctx ⟨some s, userEvents, nowMs⟩).humidityPct = s.humidityPct := by
    rw [hh, ht, hu]
    simp [validSample_valid hv]
  obtain ⟨c, hc, he⟩ := step_selects ctx ⟨some s, userEvents, nowMs⟩
  rw [he] at hread ⊢
  generalize prepare ctx _ _ _ = p at hc
  dsimp only [Option.map_some, Option.getD_some] at hread ⊢
  cases hc with
  | off hp => constructor <;> simp_all
  | manual hp hm => constructor <;> simp_all
  | pause hp hm ho why => constructor <;> simp_all
  | suspect hp hm ho hage hrise hl => constructor <;> simp_all [humidityRise]
  | startWait hp hm ho hw => constructor <;> simp_all
  | keepWait hp hm ho hw hs hage => constructor <;> simp_all
  | cool hp hm ho hw hdone hcool => constructor <;> simp_all [coolOrIdle, wantsCooling]
  | idle hp hm ho hw hdone hcool => constructor <;> simp_all [coolOrIdle, wantsCooling]

/-! ## A poll is `polled` -/

/-- Without events and on the message it has already seen, a context is prepared to itself. -/
theorem prepare_poll {ctx : ControlContext} {s : SensorMsg} (h : Settled ctx s) (t : UInt32) :
    prepare ctx (some s) 0 t = ctx := by
  have hopens : opens ctx (some s) 0 = false := by
    simp [opens, powersOff, h.window]
  have hread := h.reading
  rw [prepare_eq, handleEvents_eq, hopens]
  obtain ⟨p, m, hv, w, l, sp, tc, hm, hb, so, sr, st⟩ := ctx
  simp only [powersOff, poweredAfter, manualAfter, togglesManual, setpointAfter, hasEvent_zero,
    Bool.false_and, Bool.not_false, Bool.and_true, Bool.false_bne, Bool.false_eq_true, ↓reduceIte,
    ControlContext.mk.injEq, true_and, and_true]
  cases hval : s.valid with
  | false => simp [validSample_invalid hval]
  | true =>
    obtain ⟨h1, h2, h3⟩ := hread hval
    dsimp only at h1 h2 h3
    simp [validSample_valid hval, h1, h2, h3]

theorem polled_of_ne {ctx : ControlContext} (h1 : ctx.state ≠ .windowSuspect)
    (h2 : ctx.state ≠ .recoveryWait) (t : UInt32) : polled ctx t = ctx := by
  simp [polled, h1, h2]

theorem coolOrIdle_ne (ctx : ControlContext) :
    coolOrIdle ctx ≠ .windowSuspect ∧ coolOrIdle ctx ≠ .recoveryWait := by
  unfold coolOrIdle
  split <;> simp

/-- **A poll is `polled`.** -/
theorem step_poll {ctx : ControlContext} {s : SensorMsg} (h : Settled ctx s) (t : UInt32) :
    stepCtx ctx ⟨some s, 0, t⟩ = polled ctx t := by
  obtain ⟨c, hc, he⟩ := step_selects ctx ⟨some s, 0, t⟩
  rw [prepare_poll h] at hc
  obtain ⟨hw, -, hoff, hman, hopened, hclosed⟩ := h
  rw [he]
  dsimp only [Option.map_some, Option.getD_some, Option.any_some] at hc ⊢
  have hself (st : AcState) (hst : ctx.state = st) :
      { ctx with windowWasOpen := s.windowOpen, state := st } = ctx := by rw [← hst, ← hw]
  -- the window is closed and no wait goes on: the temperature has decided already, or does now
  have hdecided (hp : ctx.powered = true) (hm : ctx.manual = false) (ho : s.windowOpen = false)
      (hdone : ¬ (ctx.state = .recoveryWait ∧ t - ctx.recoverySinceMs < appRecoveryWaitMs)) :
      { ctx with windowWasOpen := s.windowOpen, state := coolOrIdle ctx } = polled ctx t := by
    obtain ⟨hne1, hne2⟩ := coolOrIdle_ne ctx
    rcases hclosed hp hm ho with hs | hs
    · have hover : ¬ t - ctx.recoverySinceMs < appRecoveryWaitMs := fun hage => hdone ⟨hs, hage⟩
      simp [polled, hs, hover, ← hw]
    · rw [hself _ hs, polled_of_ne (hs.trans_ne hne1) (hs.trans_ne hne2)]
  cases hc with
  | off hp =>
    rw [hself _ (hoff hp), polled_of_ne] <;> simp [hoff hp]
  | manual hp hm =>
    rw [hself _ (hman hp hm), polled_of_ne] <;> simp [hman hp hm]
  | pause hp hm ho why =>
    rcases hopened hp hm ho with ⟨hs, hl⟩ | ⟨hs, hl, hr⟩
    · rw [polled_of_ne (by simp [hs]) (by simp [hs]), ← hw, ← hl, ← hs]
    · have hage : appWindowPauseMs ≤ t - ctx.windowOpenSinceMs := by simpa [hr, hl] using why
      simp [polled, hs, hage, ← hw]
  | suspect hp hm ho hage hrise hl =>
    have hs : ctx.state = .windowSuspect := by
      rcases hopened hp hm ho with ⟨-, hl'⟩ | ⟨hs, -⟩
      · rw [hl] at hl'; cases hl'
      · exact hs
    rw [hself _ hs]
    simp [polled, hs, hage]
  | startWait hp hm ho hwas =>
    simp only [Option.any_some] at ho
    rw [hw, ho] at hwas
    cases hwas
  | keepWait hp hm ho hwas hs hage =>
    rw [hself _ hs]
    simp [polled, hs, hage]
  | cool hp hm ho hwas hdone hcool =>
    have hci : coolOrIdle ctx = .cooling := by simp [coolOrIdle, hcool]
    rw [← hdecided hp hm ho hdone, hci]
  | idle hp hm ho hwas hdone hcool =>
    have hci : coolOrIdle ctx = .idle := by simp [coolOrIdle, hcool]
    rw [← hdecided hp hm ho hdone, hci]

theorem polled_settled {ctx : ControlContext} {s : SensorMsg} (h : Settled ctx s) (t : UInt32) :
    Settled (polled ctx t) s := by
  rw [← step_poll h t]
  exact step_settled ctx s 0 t

/-- Two polls in a row are the later one. -/
theorem polled_polled {ctx : ControlContext} {t t' : UInt32} (h : AgesGrow ctx t t') :
    polled (polled ctx t) t' = polled ctx t' := by
  obtain ⟨hopen, hrec⟩ := h
  obtain ⟨hne1, hne2⟩ := coolOrIdle_ne ctx
  by_cases h1 : ctx.state = .windowSuspect ∧ appWindowPauseMs ≤ t - ctx.windowOpenSinceMs
  · have h1' : ctx.state = .windowSuspect ∧ appWindowPauseMs ≤ t' - ctx.windowOpenSinceMs :=
      ⟨h1.1, UInt32.le_trans h1.2 hopen⟩
    have e : polled ctx t = polled ctx t' := by simp only [polled, if_pos h1, if_pos h1']
    rw [e, polled_of_ne] <;> simp [polled, if_pos h1']
  · by_cases h2 : ctx.state = .recoveryWait ∧ ¬ t - ctx.recoverySinceMs < appRecoveryWaitMs
    · have h2' : ctx.state = .recoveryWait ∧ ¬ t' - ctx.recoverySinceMs < appRecoveryWaitMs :=
        ⟨h2.1, fun hlt => h2.2 (UInt32.lt_of_le_of_lt hrec hlt)⟩
      have hns (x : UInt32) : ¬ (ctx.state = .windowSuspect ∧ appWindowPauseMs ≤ x) := by
        simp [h2.1]
      have e : polled ctx t = polled ctx t' := by
        simp only [polled, if_neg (hns _), if_pos h2, if_pos h2']
      rw [e, polled_of_ne] <;> simp only [polled, if_neg (hns _), if_pos h2', ne_eq, hne1, hne2,
        not_false_eq_true]
    · have e : polled ctx t = ctx := by simp only [polled, if_neg h1, if_neg h2]
      rw [e]

/-! ## The next step absorbs a poll -/

/-- The state is read only for the recovery wait. -/
theorem selectState_state (p : ControlContext) (sensor : Option SensorMsg) (nowMs : UInt32)
    (st : AcState) (h : ¬ (st = .recoveryWait ∧ nowMs - p.recoverySinceMs < appRecoveryWaitMs))
    (h' : ¬ (p.state = .recoveryWait ∧ nowMs - p.recoverySinceMs < appRecoveryWaitMs)) :
    selectState { p with state := st } sensor nowMs = selectState p sensor nowMs := by
  have hrise : humidityRise { p with state := st } sensor = humidityRise p sensor := rfl
  have hwant : wantsCooling { p with state := st } = wantsCooling p := rfl
  unfold selectState
  simp only [if_neg h, if_neg h', hrise, hwant]

/-- The latch is read only when the window stays open for less than 5 s. -/
theorem selectState_latch (p : ControlContext) (sensor : Option SensorMsg) (nowMs : UInt32)
    (hp : p.powered = true) (hm : p.manual = false) (hw : p.windowWasOpen = true)
    (hage : appWindowPauseMs ≤ nowMs - p.windowOpenSinceMs) (latch : Bool) (st : AcState) :
    selectState { p with pauseLatched := latch, state := st } sensor nowMs =
      selectState p sensor nowMs := by
  unfold selectState
  simp only [hp, hm, hw, hage, decide_true, Bool.true_or, Bool.not_true, Bool.false_eq_true,
    ↓reduceIte]

theorem Settled.suspect {ctx : ControlContext} {s : SensorMsg} (h : Settled ctx s)
    (hs : ctx.state = .windowSuspect) :
    ctx.powered = true ∧ ctx.manual = false ∧ ctx.windowWasOpen = true := by
  obtain ⟨hw, -, hoff, hman, -, hclosed⟩ := h
  have hp : ctx.powered = true := by
    cases hp : ctx.powered
    · rw [hoff hp] at hs; cases hs
    · rfl
  have hm : ctx.manual = false := by
    cases hm : ctx.manual
    · rfl
    · rw [hman hp hm] at hs; cases hs
  refine ⟨hp, hm, ?_⟩
  rw [hw]
  cases ho : s.windowOpen
  · rcases hclosed hp hm ho with hs' | hs'
    · rw [hs'] at hs; cases hs
    · exact absurd (hs'.symm.trans hs) (coolOrIdle_ne ctx).1
  · rfl

/-- **The next step absorbs a poll**: after a poll at `t` every step at a time `t'` until which the
ages have not wrapped gives the same context and the same output as without the poll. -/
theorem step_polled {ctx : ControlContext} {s : SensorMsg} (h : Settled ctx s) {t : UInt32}
    {i : ControlInput} (hage : AgesGrow ctx t i.nowMs) : step (polled ctx t) i = step ctx i := by
  have hsel : selectState (prepare (polled ctx t) i.sensor i.userEvents i.nowMs) i.sensor i.nowMs =
      selectState (prepare ctx i.sensor i.userEvents i.nowMs) i.sensor i.nowMs := by
    obtain ⟨hopen, hrec⟩ := hage
    unfold polled
    split_ifs with h1 h2
    · obtain ⟨hp, hm, hw⟩ := h.suspect h1.1
      -- the poll latched the pause; the event block keeps the latch only in automatic mode
      have hprep : prepare { ctx with pauseLatched := true, state := .acPaused }
          i.sensor i.userEvents i.nowMs =
          { prepare ctx i.sensor i.userEvents i.nowMs with
            pauseLatched := !powersOff ctx i.userEvents &&
              !(togglesManual ctx i.userEvents && manualAfter ctx i.userEvents)
            state := .acPaused } := by
        rw [prepare_eq, prepare_eq, handleEvents_eq, handleEvents_eq]
        rfl
      rw [hprep]
      cases hkeep : !powersOff ctx i.userEvents &&
          !(togglesManual ctx i.userEvents && manualAfter ctx i.userEvents) with
      | false =>
        have hl : (prepare ctx i.sensor i.userEvents i.nowMs).pauseLatched = false := by
          rw [prepare_pauseLatched, Bool.and_assoc, hkeep, Bool.and_false]
        rw [← hl]
        exact selectState_state _ _ _ _ (by simp) (by simp [h1.1])
      | true =>
        simp only [Bool.and_eq_true, Bool.not_eq_true'] at hkeep
        have hpow : hasEvent i.userEvents userEvtPower = false := by
          simpa [powersOff, hp] using hkeep.1
        have hman : manualAfter ctx i.userEvents = false := by
          have := hkeep.2
          revert this
          simp [manualAfter, hm]
        refine selectState_latch _ _ _ (by simp [poweredAfter, hp, hpow]) (by simpa using hman)
          (by simp [hw, hkeep.1]) ?_ _ _
        have hopens : opens ctx i.sensor i.userEvents = false := by simp [opens, hw, hkeep.1]
        simp only [prepare_windowOpenSinceMs, hopens, Bool.false_eq_true, ↓reduceIte]
        exact UInt32.le_trans h1.2 hopen
    · -- the poll ended the wait; the next step finds it just as expired
      have hprep : prepare { ctx with state := coolOrIdle ctx } i.sensor i.userEvents i.nowMs =
          { prepare ctx i.sensor i.userEvents i.nowMs with state := coolOrIdle ctx } := by
        rw [prepare_eq, prepare_eq, handleEvents_eq, handleEvents_eq]
        rfl
      rw [hprep]
      refine selectState_state _ _ _ _ (fun hc => (coolOrIdle_ne ctx).2 hc.1) (fun hc => h2.2 ?_)
      rw [prepare_recoverySinceMs] at hc
      exact UInt32.lt_of_le_of_lt hrec hc.2
    · rfl
  simp only [step, controlStep, hsel]

/-! ## Runs of `ControlTask` -/

/-- The pass brings something new: a message or a user event. -/
def brings (w : ControlWake) : Bool := w.received.isSome || w.events != 0

/-- The outputs of the passes that bring something new. -/
def broughtOutputs : ControlTask → List ControlWake → List ControlOutput
  | _, [] => []
  | task, w :: ws =>
    (if brings w then [(controlTaskIter task w).2.output] else []) ++
      broughtOutputs (controlTaskIter task w).1 ws

/-- From pass to pass, starting at time `t`, the ages of the context's timestamps do not wrap. -/
def AgesDoNotWrap : ControlTask → UInt32 → List ControlWake → Prop
  | _, _, [] => True
  | task, t, w :: ws =>
    AgesGrow task.context t w.nowMs ∧ AgesDoNotWrap (controlTaskIter task w).1 w.nowMs ws

theorem polled_since (ctx : ControlContext) (t : UInt32) :
    (polled ctx t).windowOpenSinceMs = ctx.windowOpenSinceMs ∧
      (polled ctx t).recoverySinceMs = ctx.recoverySinceMs := by
  unfold polled
  split_ifs <;> exact ⟨rfl, rfl⟩

theorem agesGrow_polled {ctx : ControlContext} {t u u' : UInt32} :
    AgesGrow (polled ctx t) u u' ↔ AgesGrow ctx u u' := by
  obtain ⟨h1, h2⟩ := polled_since ctx t
  simp only [AgesGrow, h1, h2]

/-- Dropping the passes that bring nothing changes no output of the others. `task` is the run with
polls, whose context is at most one poll ahead of `task'`, the run without. -/
theorem broughtOutputs_filter (ws : List ControlWake) :
    ∀ (s : SensorMsg) (task task' : ControlTask) (t : UInt32), task.latest = some s →
      task'.latest = some s → Settled task'.context s →
      (task.context = task'.context ∨ task.context = polled task'.context t) →
      AgesDoNotWrap task t ws →
      broughtOutputs task ws = broughtOutputs task' (ws.filter brings) := by
  induction ws with
  | nil => intros; rfl
  | cons w ws ih =>
    intro s task task' t hl hl' hset hctx hages
    obtain ⟨hage, hages⟩ := hages
    by_cases hb : brings w = true
    · have hin : task.input w = task'.input w := by
        simp only [ControlTask.input, latestAfter, hl, hl']
      have hstep : step task.context (task.input w) = step task'.context (task'.input w) := by
        rcases hctx with hc | hc
        · rw [hc, hin]
        · rw [hc] at hage
          rw [hc, hin]
          exact step_polled hset (agesGrow_polled.1 hage)
      obtain ⟨s', hs'⟩ : ∃ s', latestAfter task' w = some s' := by
        cases hr : w.received <;> simp [latestAfter, hr, hl']
      have hlat : latestAfter task w = some s' := by
        rw [← hs']; simp only [latestAfter, hl, hl']
      have hctx' : (controlTaskIter task w).1.context = (controlTaskIter task' w).1.context := by
        rw [controlTaskIter_context, controlTaskIter_context]
        exact congrArg Prod.fst hstep
      rw [List.filter_cons_of_pos hb]
      simp only [broughtOutputs, if_pos hb, controlTaskIter_output, hstep]
      rw [ih s' _ _ w.nowMs (by rw [controlTaskIter_latest, hlat])
        (by rw [controlTaskIter_latest, hs']) ?_ (.inl hctx') hages]
      rw [controlTaskIter_context, ControlTask.input, hs']
      exact step_settled _ _ _ _
    · have hnone : w.received = none ∧ w.events = 0 := by
        simpa [brings] using hb
      have hin : task.input w = ⟨some s, 0, w.nowMs⟩ := by
        simp [ControlTask.input, latestAfter, hnone, hl]
      have hctx' : (controlTaskIter task w).1.context = polled task'.context w.nowMs := by
        rw [controlTaskIter_context, hin]
        rcases hctx with hc | hc
        · rw [hc]; exact step_poll hset _
        · rw [hc] at hage
          rw [hc, step_poll (polled_settled hset t), polled_polled (agesGrow_polled.1 hage)]
      rw [List.filter_cons_of_neg hb]
      simp only [broughtOutputs, if_neg hb, List.nil_append]
      refine ih s _ _ w.nowMs ?_ hl' hset (.inr hctx') hages
      rw [controlTaskIter_latest]
      simp [latestAfter, hnone, hl]

/-- **Polling insensitivity.** (1) From every context, a poll on the message of the step before it
changes neither the context nor the output of the step after it, if the ages of the two timestamps
do not decrease in between. (2) In every run of `ControlTask` after a pass that received a message,
the outputs of the passes that bring a message or an event are the same whichever polls, and
whenever, ran in between, as long as the ages do not wrap. -/
theorem poll_insensitive :
    (∀ (ctx : ControlContext) (s s' : SensorMsg) (e1 e3 t1 t2 t3 : UInt32),
      AgesGrow (controlStep ctx (some s) e1 t1).1 t2 t3 →
      controlStep (controlStep (controlStep ctx (some s) e1 t1).1 (some s) 0 t2).1 (some s') e3 t3 =
        controlStep (controlStep ctx (some s) e1 t1).1 (some s') e3 t3) ∧
    (∀ (task : ControlTask) (w : ControlWake) (m : SensorMsg) (ws ws' : List ControlWake),
      w.received = some m → ws.filter brings = ws'.filter brings →
      AgesDoNotWrap (controlTaskIter task w).1 w.nowMs ws →
      AgesDoNotWrap (controlTaskIter task w).1 w.nowMs ws' →
      broughtOutputs task (w :: ws) = broughtOutputs task (w :: ws')) := by
  constructor
  · intro ctx s s' e1 e3 t1 t2 t3 hage
    have hset := step_settled ctx s e1 t1
    have habs : step (polled (stepCtx ctx ⟨some s, e1, t1⟩) t2) ⟨some s', e3, t3⟩ =
        step (stepCtx ctx ⟨some s, e1, t1⟩) ⟨some s', e3, t3⟩ := step_polled hset hage
    rw [← step_poll hset t2] at habs
    exact habs
  · intro task w m ws ws' hm hfilter hages hages'
    have hlat : (controlTaskIter task w).1.latest = some m := by
      rw [controlTaskIter_latest]; simp [latestAfter, hm]
    have hset : Settled (controlTaskIter task w).1.context m := by
      rw [controlTaskIter_context]
      simp only [ControlTask.input, latestAfter, hm]
      exact step_settled _ _ _ _
    simp only [broughtOutputs]
    rw [broughtOutputs_filter ws m _ _ w.nowMs hlat hlat hset (.inl rfl) hages,
      broughtOutputs_filter ws' m _ _ w.nowMs hlat hlat hset (.inl rfl) hages', hfilter]

/-- A window open since power-on is polled after 6 s and closed one tick later. -/
theorem poll_insensitive_open_window :
    let isOpen : SensorMsg := ⟨26, 40, true, true⟩
    let shut : SensorMsg := ⟨26, 40, false, true⟩
    let opened := (controlStep controlInit (some isOpen) userEvtPower 0).1
    controlStep (controlStep opened (some isOpen) 0 6000).1 (some shut) 0 6010 =
        controlStep opened (some shut) 0 6010 ∧
      broughtOutputs controlTaskInit
          [⟨some isOpen, userEvtPower, 0⟩, ⟨none, 0, 6000⟩, ⟨some shut, 0, 6010⟩] =
        broughtOutputs controlTaskInit [⟨some isOpen, userEvtPower, 0⟩, ⟨some shut, 0, 6010⟩] :=
  ⟨poll_insensitive.1 _ _ _ _ _ _ _ _ (by decide +kernel),
    poll_insensitive.2 _ ⟨some ⟨26, 40, true, true⟩, userEvtPower, 0⟩ _ _ _ rfl rfl
      ⟨by decide +kernel, by decide +kernel, trivial⟩ ⟨by decide +kernel, trivial⟩⟩

end SmartAc
