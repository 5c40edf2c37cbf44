import SmartAc.RecoveryWait

/-!
# The transitions of the controller: `app_control.c`

`canMove` says from which state `Control_Step` can come to which. Seven of the 49 pairs are missing: a closed
window counts as closing only after an open one, an open one is left through RECOVERY_WAIT, and a pause
does not become a suspicion again. `transitions_exact` says that the other pairs all occur, with a sensor
message at every step as `ControlTask` has it and a clock that does not go back.
-/

namespace SmartAc

open Machine

def canMove : AcState → AcState → Bool
  | .idle, .recoveryWait | .cooling, .recoveryWait => false
  | .windowSuspect, .idle | .windowSuspect, .cooling => false
  | .acPaused, .idle | .acPaused, .cooling | .acPaused, .windowSuspect => false
  | _, _ => true

/-! ## No other transition occurs -/

section
variable {ctx : ControlContext} (hi : ControlInv ctx)
include hi

/-- The window counts as open after the events only if it did before. -/
theorem ControlInv.recovery_from {i : ControlInput}
    (hw : (prepare ctx i.sensor i.userEvents i.nowMs).windowWasOpen = true) :
    canMove ctx.state .recoveryWait = true := by
  rw [prepare_windowWasOpen, Bool.and_eq_true] at hw
  have hclosed := hi.closed_branch
  cases hs : ctx.state with
  | idle => rw [hclosed (.inr hs)] at hw; cases hw.1
  | cooling => rw [hclosed (.inl hs)] at hw; cases hw.1
  | _ => rfl

/-- An open window is not forgotten while the controller stays on. -/
theorem ControlInv.idle_from {i : ControlInput}
    (hp : (prepare ctx i.sensor i.userEvents i.nowMs).powered = true)
    (hw : (prepare ctx i.sensor i.userEvents i.nowMs).windowWasOpen = false) :
    canMove ctx.state .idle = true ∧ canMove ctx.state .cooling = true := by
  rw [prepare_powered] at hp
  rw [prepare_windowWasOpen] at hw
  have hopen (hs : ctx.state = .acPaused ∨ ctx.state = .windowSuspect) : False := by
    obtain ⟨hpowered, -, hwindow⟩ := hi.open_branch hs
    rw [hwindow, Bool.true_and, Bool.not_eq_false'] at hw
    simp only [powersOff, Bool.and_eq_true] at hw
    simp [poweredAfter, hw.1, hpowered] at hp
  cases hs : ctx.state with
  | windowSuspect => exact (hopen (.inr hs)).elim
  | acPaused => exact (hopen (.inl hs)).elim
  | _ => exact ⟨rfl, rfl⟩

/-- A latch is not cleared while the controller stays on and automatic. -/
theorem ControlInv.suspect_from {i : ControlInput}
    (hp : (prepare ctx i.sensor i.userEvents i.nowMs).powered = true)
    (hm : (prepare ctx i.sensor i.userEvents i.nowMs).manual = false)
    (hl : (prepare ctx i.sensor i.userEvents i.nowMs).pauseLatched = false) :
    canMove ctx.state .windowSuspect = true := by
  cases hs : ctx.state with
  | acPaused =>
    exfalso
    obtain ⟨hpowered, -, -⟩ := hi.open_branch (.inl hs)
    have hlatched := hi.latched_iff.2 hs
    rw [prepare_powered] at hp
    rw [prepare_manual] at hm
    have hon : hasEvent i.userEvents userEvtPower = false := by
      simpa [poweredAfter, hpowered] using hp
    simp [prepare_pauseLatched, hlatched, hm, powersOff, hon] at hl
  | _ => rfl

/-- **Step lemma**: a step moves as the table says. -/
theorem step_moves (i : ControlInput) : canMove ctx.state (stepCtx ctx i).state = true := by
  obtain ⟨c, hc, he⟩ := step_selects ctx i
  rw [he]
  cases hc with
  | off hp => cases ctx.state <;> rfl
  | manual hp hm => cases ctx.state <;> rfl
  | pause hp hm ho why => cases ctx.state <;> rfl
  | suspect hp hm ho hage hrise hl => exact hi.suspect_from hp hm hl
  | startWait hp hm ho hw => exact hi.recovery_from hw
  | keepWait hp hm ho hw hs hage =>
    rw [prepare_state] at hs
    rw [hs]
    rfl
  | cool hp hm ho hw hdone hwants => exact (hi.idle_from hp hw).2
  | idle hp hm ho hw hdone hwants => exact (hi.idle_from hp hw).1

end

/-! ## Each of them occurs -/

def closedMsg : SensorMsg := ⟨20, 40, false, true⟩
def openMsg : SensorMsg := ⟨20, 40, true, true⟩
def humidMsg : SensorMsg := ⟨20, 60, true, true⟩
def warmMsg : SensorMsg := ⟨30, 40, false, true⟩

def powerAndManual : UInt32 := userEvtPower ||| userEvtManual

/-- A run to the first state that can go on to the second: what has to be open is left open. -/
def leadTo : AcState → AcState → List Sample
  | .off, .recoveryWait => [⟨openMsg, 0, 0⟩]
  | .off, _ => [⟨closedMsg, 0, 0⟩]
  | .manualOverride, .recoveryWait => [⟨openMsg, powerAndManual, 0⟩]
  | .manualOverride, _ => [⟨closedMsg, powerAndManual, 0⟩]
  | .idle, _ => [⟨closedMsg, userEvtPower, 0⟩]
  | .cooling, _ => [⟨warmMsg, userEvtPower, 0⟩]
  | .windowSuspect, _ => [⟨openMsg, userEvtPower, 0⟩]
  | .acPaused, _ => [⟨closedMsg, userEvtPower, 0⟩, ⟨humidMsg, 0, 100⟩]
  | .recoveryWait, _ => [⟨openMsg, userEvtPower, 0⟩, ⟨closedMsg, 0, 100⟩]

/-- The events that lead from the mode of the one state to that of the other. -/
def eventsTo : AcState → AcState → UInt32
  | .off, .off => 0
  | .off, .manualOverride => powerAndManual
  | .off, _ => userEvtPower
  | _, .off => userEvtPower
  | .manualOverride, .manualOverride => 0
  | .manualOverride, _ => userEvtManual
  | _, .manualOverride => userEvtManual
  | _, _ => 0

/-- The sample that leads on; the recovery wait is over at 10 s. -/
def moveTo (s s' : AcState) : Sample where
  msg := match s' with
    | .windowSuspect => openMsg
    | .acPaused => humidMsg
    | .cooling => warmMsg
    | _ => closedMsg
  userEvents := eventsTo s s'
  time := if s' = .idle ∨ s' = .cooling then 10000 else 200

theorem leadTo_moves {s s' : AcState} (h : canMove s s' = true) :
    (leadTo s s' ++ [moveTo s s']).Pairwise (·.time ≤ ·.time) ∧ (ctxAfter (leadTo s s')).state = s ∧
      (ctxAfter (leadTo s s' ++ [moveTo s s'])).state = s' := by
  revert h
  cases s <;> cases s' <;> decide +kernel

/-- **The table is exact**: whatever the sensor messages, events and times were, missing messages included, a step
makes no other transition, and each transition of the table is made in some run that has a message at
every step and a clock that does not go back. -/
theorem transitions_exact :
    (∀ (ins : List ControlInput) (i : ControlInput),
      canMove (final step controlInit ins).state (stepCtx (final step controlInit ins) i).state = true) ∧
    ∀ s s', canMove s s' = true → ∃ past x, (past ++ [x]).Pairwise (·.time ≤ ·.time) ∧
      (ctxAfter past).state = s ∧ (ctxAfter (past ++ [x])).state = s' :=
  ⟨fun ins i => step_moves (run_inv ins) i, fun _ _ h => ⟨_, _, leadTo_moves h⟩⟩

end SmartAc
