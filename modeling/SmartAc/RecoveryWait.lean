import Mathlib.Data.List.Infix
import SmartAc.WindowHistory

/-!
# The recovery wait against manual mode

The wait is kept only in `state == AC_STATE_RECOVERY_WAIT` and, until the closing is noticed, in
`window_was_open`; a step in manual mode overwrites both. A step that leaves manual mode with
the window closed now and at the step before (`LosesWait`) finds neither, and cools at once if
the room is warm. `Guarded` is the invariant of the runs without such a step.
-/

namespace SmartAc

open Machine WrapClock

/-- The context after the steps `past`, oldest first, from `Control_Init`. -/
def ctxAfter (past : List Sample) : ControlContext := final step controlInit (past.map Sample.input)

@[simp] theorem ctxAfter_snoc (past : List Sample) (x : Sample) :
    ctxAfter (past ++ [x]) = stepCtx (ctxAfter past) x.input := by
  simp [ctxAfter, stepCtx]

theorem ctxAfter_inv (past : List Sample) : ControlInv (ctxAfter past) := run_inv _

/-- Step `o` of `past` saw the window open, and the controller was powered after it and after every
step since. -/
def OpenSince (past : List Sample) (o : Sample) : Prop :=
  o.msg.windowOpen = true ∧ ∃ earlier later, past = earlier ++ o :: later ∧
    ∀ mid, mid <+: later → (ctxAfter (earlier ++ o :: mid)).powered = true

/-- Less than 5 s before `time` the window was seen open, with power ever since. -/
def OpenWithin (past : List Sample) (time : Nat) : Prop :=
  ∃ o, OpenSince past o ∧ time - o.time < appRecoveryWaitMs.toNat

theorem OpenSince.powered {past : List Sample} {o : Sample} (h : OpenSince past o) :
    (ctxAfter past).powered = true := by
  obtain ⟨-, earlier, later, rfl, hp⟩ := h
  exact hp later (List.prefix_refl _)

theorem OpenSince.mem {past : List Sample} {o : Sample} (h : OpenSince past o) : o ∈ past := by
  obtain ⟨-, earlier, later, rfl, -⟩ := h
  simp

/-- One more step: it is the open one itself, or the open one came before and the power stays. -/
theorem OpenSince.snoc {past : List Sample} {x o : Sample} (h : OpenSince (past ++ [x]) o) :
    o = x ∨ OpenSince past o := by
  obtain ⟨hopen, earlier, later, hsplit, hp⟩ := h
  rcases List.eq_nil_or_concat later with rfl | ⟨later, z, rfl⟩
  · exact .inl (by simpa using (List.append_inj_right' hsplit rfl).symm)
  · refine .inr ⟨hopen, earlier, later, ?_, fun mid hmid => hp mid (hmid.trans ?_)⟩
    · have hassoc : past ++ [x] = earlier ++ o :: later ++ [z] := by simpa using hsplit
      exact (List.append_inj' hassoc rfl).1
    · simp

/-- The step that loses the wait: MANUAL without POWER leaves manual mode with the window closed now
and at the step before, less than 5 s after it was seen open. -/
def LosesWait (past : List Sample) (x : Sample) : Prop :=
  (ctxAfter past).manual = true ∧ (ctxAfter past).windowWasOpen = false ∧
    hasEvent x.userEvents userEvtManual = true ∧ hasEvent x.userEvents userEvtPower = false ∧
    x.msg.windowOpen = false ∧ OpenWithin past x.time

/-- No step of the run so far loses the wait. -/
def KeepsWait (run : List Sample) : Prop :=
  ∀ past x rest, run = past ++ x :: rest → ¬ LosesWait past x

/-- COOLING is never put out less than 5 s after the window was last seen open. -/
def NeverCoolsEarly (run : List Sample) : Prop :=
  ∀ past x rest, run = past ++ x :: rest →
    (step (ctxAfter past) x.input).2.state = .cooling → ¬ OpenWithin (past ++ [x]) x.time

/-- In automatic mode an open window of the last 5 s is still in the flag or in the wait. -/
def Guarded (past : List Sample) : Prop :=
  ∀ o, OpenSince past o → (ctxAfter past).manual = false →
    ∀ t, (∀ y ∈ past, y.time ≤ t) → t - o.time < appRecoveryWaitMs.toNat →
      (ctxAfter past).windowWasOpen = true ∨
        (ctxAfter past).state = .recoveryWait ∧
          reading t - (ctxAfter past).recoverySinceMs < appRecoveryWaitMs

/-- What a closed step does with a wait that is due: it starts it or goes on with it. -/
theorem step_keeps {past : List Sample} {x o : Sample} (hs : OpenSince past o)
    (hpow : (stepCtx (ctxAfter past) x.input).powered = true)
    (hman : (stepCtx (ctxAfter past) x.input).manual = false) (ho : x.msg.windowOpen = false)
    (hdue : (ctxAfter past).windowWasOpen = true ∨ (ctxAfter past).state = .recoveryWait ∧
      reading x.time - (ctxAfter past).recoverySinceMs < appRecoveryWaitMs) :
    (stepCtx (ctxAfter past) x.input).state = .recoveryWait ∧
      (stepCtx (ctxAfter past) x.input).recoverySinceMs =
        if (ctxAfter past).windowWasOpen then reading x.time else (ctxAfter past).recoverySinceMs := by
  have hbefore := hs.powered
  obtain ⟨hpow', hman', -⟩ := step_frame (ctxAfter past) x.input
  rw [hpow] at hpow'
  rw [hman] at hman'
  -- powered before and after: POWER was not pressed, so the window flag survives the events
  have hoff : powersOff (ctxAfter past) x.userEvents = false := by
    simpa [poweredAfter, powersOff, hbefore, Sample.input] using hpow'
  have hc := step_closed hpow'.symm hman'.symm hoff ho
  unfold ClosedStep at hc
  cases hw : (ctxAfter past).windowWasOpen with
  | true =>
    rw [if_pos hw] at hc
    exact ⟨hc.1, hc.2.2⟩
  | false =>
    rw [if_neg (by simp [hw])] at hc
    have hwait := hdue.resolve_left (by simp [hw])
    exact ⟨hc.2.2.trans (if_pos hwait), hc.2.1⟩

/-- Powered before and after a step that leaves manual mode: MANUAL was pressed, POWER was not. -/
theorem leaves_manual {ctx : ControlContext} {userEvents : UInt32} (hbefore : ctx.powered = true)
    (hpow : poweredAfter ctx userEvents = true) (hm : ctx.manual = true)
    (hman : manualAfter ctx userEvents = false) :
    hasEvent userEvents userEvtManual = true ∧ hasEvent userEvents userEvtPower = false := by
  have hp : hasEvent userEvents userEvtPower = false := by simpa [poweredAfter, hbefore] using hpow
  have hoff : powersOff ctx userEvents = false := by simp [powersOff, hp]
  refine ⟨?_, hp⟩
  simpa [manualAfter, togglesManual, hpow, hm, hoff] using hman

/-- **Step lemma**: a step that does not lose the wait keeps it guarded. -/
theorem guarded_snoc {past : List Sample} {x : Sample} (h : Guarded past)
    (htime : ∀ y ∈ past, y.time ≤ x.time) (hkeep : ¬ LosesWait past x) : Guarded (past ++ [x]) := by
  intro o ho hman t ht hlt
  have hpow := ho.powered
  rw [ctxAfter_snoc] at hman hpow ⊢
  have hxt : x.time ≤ t := ht x (by simp)
  have hpast (y : Sample) (hy : y ∈ past) : y.time ≤ t := ht y (List.mem_append_left _ hy)
  rcases ho.snoc with rfl | hs
  · exact .inl ((step_window _ _).trans ho.1)
  cases hw : x.msg.windowOpen with
  | true => exact .inl ((step_window _ _).trans hw)
  | false =>
    have hox : o.time ≤ x.time := htime o hs.mem
    have hkept : (ctxAfter past).windowWasOpen = true ∨ (ctxAfter past).manual = false := by
      by_contra hcon
      simp only [not_or, Bool.not_eq_true, Bool.not_eq_false] at hcon
      obtain ⟨hpow', hman', -⟩ := step_frame (ctxAfter past) x.input
      obtain ⟨hev, hev'⟩ := leaves_manual hs.powered (hpow'.symm.trans hpow) hcon.2
        (hman'.symm.trans hman)
      exact hkeep ⟨hcon.2, hcon.1, hev, hev', hw, o, hs, by omega⟩
    have hdue : (ctxAfter past).windowWasOpen = true ∨ (ctxAfter past).state = .recoveryWait ∧
        reading x.time - (ctxAfter past).recoverySinceMs < appRecoveryWaitMs := by
      rcases hkept with hopen | hauto
      · exact .inl hopen
      · exact h o hs hauto x.time htime (by omega)
    obtain ⟨hstate, hsince⟩ := step_keeps hs hpow hman hw hdue
    refine .inr ⟨hstate, ?_⟩
    rw [hsince]
    cases hopen : (ctxAfter past).windowWasOpen with
    | true =>
      -- the wait starts here, and `t` is even closer to this step than to `o`
      have hwait : appRecoveryWaitMs.toNat = 5000 := rfl
      exact (sub_reading_lt_iff hxt (by omega) _).2 (by omega)
    | false =>
      rw [hopen] at hkept
      have hauto : (ctxAfter past).manual = false := hkept.resolve_left (by simp)
      have := h o hs hauto t hpast hlt
      rw [hopen] at this
      exact (this.resolve_left (by simp)).2

/-- **Run lemma**: a run that never loses the wait is guarded at its end. -/
theorem run_guarded (run : List Sample) (htime : run.Pairwise (·.time ≤ ·.time))
    (hkeep : KeepsWait run) : Guarded run := by
  induction run using List.reverseRecOn with
  | nil =>
    rintro o ⟨-, earlier, later, hsplit, -⟩
    simp at hsplit
  | append_singleton past x ih =>
    obtain ⟨hpast, -, hlast⟩ := List.pairwise_append.1 htime
    have hkeep' : KeepsWait past := fun p y q hsplit => hkeep p y (q ++ [x]) (by simp [hsplit])
    exact guarded_snoc (ih hpast hkeep') (fun y hy => hlast y hy x List.mem_cons_self)
      (hkeep past x [] rfl)

/-- **No early cooling, as long as no step loses the wait.** -/
theorem never_cools_early (run : List Sample) (htime : run.Pairwise (·.time ≤ ·.time))
    (hkeep : KeepsWait run) : NeverCoolsEarly run := by
  rintro past x rest rfl hcool ⟨o, ho, hlt⟩
  have hsplit : past ++ x :: rest = (past ++ [x]) ++ rest := by simp
  rw [hsplit] at htime hkeep
  obtain ⟨hpre, -, -⟩ := List.pairwise_append.1 htime
  have hguard := run_guarded (past ++ [x]) hpre fun p y q hs => hkeep p y (q ++ rest) (by simp [hs])
  have hi := ctxAfter_inv (past ++ [x])
  have hstate : (ctxAfter (past ++ [x])).state = .cooling := by
    rw [ctxAfter_snoc]
    exact hcool
  obtain ⟨-, -, hlast⟩ := List.pairwise_append.1 hpre
  have hman : (ctxAfter (past ++ [x])).manual = false := by
    have := hi.state_ok
    unfold StateOk at this
    rw [hstate] at this
    exact this.2.1
  have htimes (y : Sample) (hy : y ∈ past ++ [x]) : y.time ≤ x.time := by
    rcases List.mem_append.1 hy with hy | hy
    · exact hlast y hy x List.mem_cons_self
    · rw [List.mem_singleton.1 hy]
  rcases hguard o ho hman x.time htimes hlt with hopen | ⟨hwait, -⟩
  · rw [hi.closed_branch (.inl hstate)] at hopen
    cases hopen
  · rw [hstate] at hwait
    cases hwait

/-- A step that loses the wait decides by the temperature at once. -/
theorem losesWait_skips {past : List Sample} {x : Sample} (h : LosesWait past x) :
    (stepCtx (ctxAfter past) x.input).state =
      if wantsCooling (stepCtx (ctxAfter past) x.input) then .cooling else .idle := by
  obtain ⟨hm, hw, hev, hpow, ho, o, hs, -⟩ := h
  have hbefore := hs.powered
  have hoff : powersOff (ctxAfter past) x.userEvents = false := by simp [powersOff, hpow]
  have hon : poweredAfter (ctxAfter past) x.userEvents = true := by simp [poweredAfter, hpow, hbefore]
  have hauto : manualAfter (ctxAfter past) x.userEvents = false := by
    simp [manualAfter, togglesManual, hev, hon, hm, hoff]
  have hstate : (ctxAfter past).state = .manualOverride :=
    (ctxAfter_inv past).manual_iff.2 ⟨hbefore, hm⟩
  have hc := step_closed hon hauto hoff ho
  unfold ClosedStep at hc
  rw [if_neg (by simp [hw])] at hc
  exact hc.2.2.trans (if_neg (by simp [hstate]))

/-- The window is opened in automatic mode and closed after a short time: the wait of 5 s is kept. -/
def closedInAuto : List Sample :=
  [⟨⟨30, 40, false, true⟩, userEvtPower, 1000⟩, ⟨⟨30, 40, true, true⟩, 0, 2000⟩,
    ⟨⟨30, 40, false, true⟩, 0, 3000⟩, ⟨⟨30, 40, false, true⟩, 0, 8000⟩]

/-- The window is closed in manual mode, and manual mode is left one second later. -/
def closedInManual : List Sample :=
  [⟨⟨30, 40, false, true⟩, userEvtPower, 1000⟩, ⟨⟨30, 40, true, true⟩, userEvtManual, 2000⟩,
    ⟨⟨30, 40, false, true⟩, 0, 3000⟩, ⟨⟨30, 40, false, true⟩, userEvtManual, 4000⟩]

theorem closedInAuto_keeps : KeepsWait closedInAuto := by
  rintro past x rest hsplit ⟨-, -, hev, -⟩
  have hx : x ∈ closedInAuto := by rw [hsplit]; simp
  have hno : ∀ y ∈ closedInAuto, hasEvent y.userEvents userEvtManual = false := by decide +kernel
  rw [hno x hx] at hev
  cases hev

theorem never_cools_early_closedInAuto : NeverCoolsEarly closedInAuto :=
  never_cools_early closedInAuto (by decide +kernel) closedInAuto_keeps

/-- COOLING 2 s after the window was last seen open. -/
theorem cools_early_in_manual : ¬ ∀ run : List Sample, run.Pairwise (·.time ≤ ·.time) →
    (∀ x ∈ run, ∀ y ∈ run, y.time - x.time < 2 ^ 32) → NeverCoolsEarly run := by
  intro h
  refine h closedInManual (by decide +kernel) (by decide +kernel) (closedInManual.take 3)
    ⟨⟨30, 40, false, true⟩, userEvtManual, 4000⟩ [] rfl (by decide +kernel) ?_
  refine ⟨⟨⟨30, 40, true, true⟩, userEvtManual, 2000⟩, ⟨rfl, closedInManual.take 1,
    closedInManual.drop 2, rfl, fun mid hmid => ?_⟩, by decide⟩
  have hall : ∀ m ∈ (closedInManual.drop 2).inits, (ctxAfter (closedInManual.take 1 ++
      ⟨⟨30, 40, true, true⟩, userEvtManual, 2000⟩ :: m)).powered = true := by decide +kernel
  exact hall mid ((List.mem_inits _ _).2 hmid)

end SmartAc
