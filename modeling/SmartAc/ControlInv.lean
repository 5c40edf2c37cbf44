import SmartAc.Control

/-!
# The controller's invariant over whole runs

`StateOk` says, state by state, which flags go with it; `ControlInv` adds what does not depend on
the state. `step_inv` is the step lemma, by cases on the branch of the state chain (`Selects`), and
`run_inv` lifts it to every run from `Control_Init`.

The cooling level of a run without a reading is 0 although no line checks for it: `temperature_c`
keeps its initial 0 until the first valid sample and the setpoint never falls below 16.
-/

namespace SmartAc

open Machine

/-- The flags that go with each state. -/
def StateOk (ctx : ControlContext) : Prop :=
  match ctx.state with
  | .off => ctx.powered = false ∧ ctx.pauseLatched = false
  | .manualOverride => ctx.powered = true ∧ ctx.manual = true ∧ ctx.pauseLatched = false
  | .acPaused => ctx.powered = true ∧ ctx.manual = false ∧ ctx.windowWasOpen = true ∧
      ctx.pauseLatched = true
  | .windowSuspect => ctx.powered = true ∧ ctx.manual = false ∧ ctx.windowWasOpen = true ∧
      ctx.pauseLatched = false
  | .recoveryWait => ctx.powered = true ∧ ctx.manual = false ∧ ctx.pauseLatched = false
  | .cooling => ctx.powered = true ∧ ctx.manual = false ∧ ctx.windowWasOpen = false ∧
      ctx.pauseLatched = false ∧ wantsCooling ctx = true
  | .idle => ctx.powered = true ∧ ctx.manual = false ∧ ctx.windowWasOpen = false ∧
      ctx.pauseLatched = false

/-- What holds between two `Control_Step` calls. -/
structure ControlInv (ctx : ControlContext) : Prop where
  state_ok : StateOk ctx
  manual_powered : ctx.manual = true → ctx.powered = true
  setpoint_range : appSetpointMinC ≤ ctx.setpointC ∧ ctx.setpointC ≤ appSetpointMaxC
  no_reading : ctx.haveSensor = false → ctx.temperatureC = 0

theorem controlInit_inv : ControlInv controlInit := by
  constructor <;> simp [StateOk, controlInit, appSetpointMinC, appSetpointMaxC, appSetpointDefaultC]

section
variable {ctx : ControlContext} (hi : ControlInv ctx)
include hi

theorem ControlInv.off_iff : ctx.state = .off ↔ ctx.powered = false := by
  have h := hi.state_ok
  unfold StateOk at h
  cases hs : ctx.state <;> simp_all

theorem ControlInv.manual_iff :
    ctx.state = .manualOverride ↔ ctx.powered = true ∧ ctx.manual = true := by
  have h := hi.state_ok
  unfold StateOk at h
  cases hs : ctx.state <;> simp_all

theorem ControlInv.latched_iff : ctx.pauseLatched = true ↔ ctx.state = .acPaused := by
  have h := hi.state_ok
  unfold StateOk at h
  cases hs : ctx.state <;> simp_all

theorem ControlInv.open_branch (hs : ctx.state = .acPaused ∨ ctx.state = .windowSuspect) :
    ctx.powered = true ∧ ctx.manual = false ∧ ctx.windowWasOpen = true := by
  have h := hi.state_ok
  unfold StateOk at h
  rcases hs with hs | hs <;> rw [hs] at h <;> exact ⟨h.1, h.2.1, h.2.2.1⟩

theorem ControlInv.closed_branch (hs : ctx.state = .cooling ∨ ctx.state = .idle) :
    ctx.windowWasOpen = false := by
  have h := hi.state_ok
  unfold StateOk at h
  rcases hs with hs | hs <;> rw [hs] at h <;> exact h.2.2.1

theorem ControlInv.cooling_wanted (hs : ctx.state = .cooling) : wantsCooling ctx = true := by
  have h := hi.state_ok
  unfold StateOk at h
  rw [hs] at h
  exact h.2.2.2.2

/-! ## The event block under the invariant -/

theorem manualAfter_powered {userEvents : UInt32} (h : manualAfter ctx userEvents = true) :
    poweredAfter ctx userEvents = true := by
  have hmp := hi.manual_powered
  revert h hmp
  unfold manualAfter togglesManual powersOff poweredAfter
  cases hasEvent userEvents userEvtPower <;> cases hasEvent userEvents userEvtManual <;>
    cases ctx.powered <;> cases ctx.manual <;> simp

/-- A latch that survives the event block leaves the controller in automatic mode with the window
still counted as open. -/
theorem prepare_latched (sensor : Option SensorMsg) (userEvents nowMs : UInt32)
    (h : (prepare ctx sensor userEvents nowMs).pauseLatched = true) :
    (prepare ctx sensor userEvents nowMs).powered = true ∧
      (prepare ctx sensor userEvents nowMs).manual = false ∧
      (prepare ctx sensor userEvents nowMs).windowWasOpen = true := by
  simp only [prepare_pauseLatched, Bool.and_eq_true, Bool.not_eq_true'] at h
  obtain ⟨⟨hl, hoff⟩, hman⟩ := h
  obtain ⟨hp, hm, hw⟩ := hi.open_branch (.inl (hi.latched_iff.1 hl))
  have hpow : hasEvent userEvents userEvtPower = false := by simpa [powersOff, hp] using hoff
  have hmode : poweredAfter ctx userEvents = true := by simp [poweredAfter, hpow, hp]
  refine ⟨by simpa using hmode, ?_, by simp [hw, hoff]⟩
  revert hman
  simp only [prepare_manual, manualAfter]
  simp [hm]

/-! ## Step and run -/

/-- Each branch of the state chain leaves the flags that go with the state it selects. -/
theorem step_stateOk (i : ControlInput) : StateOk (stepCtx ctx i) := by
  have hl := prepare_latched hi i.sensor i.userEvents i.nowMs
  obtain ⟨c, hc, he⟩ := step_selects ctx i
  rw [he]
  generalize prepare ctx i.sensor i.userEvents i.nowMs = p at hl hc
  have hclear (h : ¬ (p.powered = true ∧ p.manual = false ∧ p.windowWasOpen = true)) :
      p.pauseLatched = false := Bool.eq_false_iff.2 fun hp => h (hl hp)
  have hopen (h : i.sensor.any (·.windowOpen) = true) (w : Bool) :
      (i.sensor.map (·.windowOpen)).getD w = true := by
    cases hs : i.sensor <;> simp_all
  have hshut (h : i.sensor.any (·.windowOpen) = false) (w : Bool) (hw : w = false) :
      (i.sensor.map (·.windowOpen)).getD w = false := by
    cases hs : i.sensor <;> simp_all
  cases hc with
  | off hp => exact ⟨hp, hclear (by simp [hp])⟩
  | manual hp hm => exact ⟨hp, hm, hclear (by simp [hm])⟩
  | pause hp hm ho why => exact ⟨hp, hm, hopen ho _, rfl⟩
  | suspect hp hm ho hage hrise hlat => exact ⟨hp, hm, hopen ho _, hlat⟩
  | startWait hp hm ho hw => exact ⟨hp, hm, rfl⟩
  | keepWait hp hm ho hw hs hage => exact ⟨hp, hm, hclear (by simp [hw])⟩
  | cool hp hm ho hw hdone hcool => exact ⟨hp, hm, hshut ho _ hw, hclear (by simp [hw]), hcool⟩
  | idle hp hm ho hw hdone hcool => exact ⟨hp, hm, hshut ho _ hw, hclear (by simp [hw])⟩

end

theorem setpointAfter_range {setpointC : Int} (userEvents : UInt32)
    (h : appSetpointMinC ≤ setpointC ∧ setpointC ≤ appSetpointMaxC) :
    appSetpointMinC ≤ setpointAfter setpointC userEvents ∧
      setpointAfter setpointC userEvents ≤ appSetpointMaxC := by
  unfold appSetpointMinC appSetpointMaxC at h
  unfold setpointAfter appSetpointMinC appSetpointMaxC
  simp only [Bool.and_eq_true, decide_eq_true_eq]
  split_ifs <;> omega

/-- The setpoint buttons: UP up to 30, then DOWN down to 16. -/
def setpointBump (setpointC : Int) (userEvents : UInt32) : Int :=
  let up := if hasEvent userEvents userEvtSetpointUp then min (setpointC + 1) 30 else setpointC
  if hasEvent userEvents userEvtSetpointDown then max (up - 1) 16 else up

theorem setpointAfter_eq_bump {setpointC : Int} (userEvents : UInt32)
    (h : appSetpointMinC ≤ setpointC ∧ setpointC ≤ appSetpointMaxC) :
    setpointAfter setpointC userEvents = setpointBump setpointC userEvents := by
  unfold appSetpointMinC appSetpointMaxC at h
  unfold setpointAfter setpointBump appSetpointMinC appSetpointMaxC
  have hup : (if setpointC < 30 then setpointC + 1 else setpointC) = min (setpointC + 1) 30 := by
    split_ifs <;> omega
  have hdown (u : Int) (hu : 16 ≤ u) : (if 16 < u then u - 1 else u) = max (u - 1) 16 := by
    split_ifs <;> omega
  cases hasEvent userEvents userEvtSetpointUp <;> cases hasEvent userEvents userEvtSetpointDown <;>
    simp only [Bool.false_and, Bool.true_and, decide_eq_true_eq, Bool.false_eq_true, ↓reduceIte, hup]
  · exact hdown _ h.1
  · exact hdown _ (by omega)

/-- **Step lemma**: one `Control_Step` call keeps the invariant. -/
theorem step_inv {ctx : ControlContext} (hi : ControlInv ctx) (i : ControlInput) :
    ControlInv (stepCtx ctx i) := by
  obtain ⟨hp, hm, hs, hh, ht, -⟩ := step_frame ctx i
  refine ⟨step_stateOk hi i, ?_, ?_, ?_⟩
  · rw [hp, hm]; exact manualAfter_powered hi
  · rw [hs]; exact setpointAfter_range _ hi.setpoint_range
  · rw [hh, ht]
    cases hv : validSample i.sensor with
    | none => simpa using hi.no_reading
    | some s => simp

/-- **Run lemma**: the invariant holds in every context reachable from `Control_Init`. -/
theorem run_inv (ins : List ControlInput) : ControlInv (final step controlInit ins) :=
  final_inv ControlInv (fun _ i _ h => step_inv h i) controlInit_inv

/-- `have_sensor` remembers whether any valid sample was received. -/
theorem run_haveSensor (ctx : ControlContext) (ins : List ControlInput) :
    (final step ctx ins).haveSensor =
      (ctx.haveSensor || ins.any fun i => (validSample i.sensor).isSome) := by
  induction ins generalizing ctx with
  | nil => simp
  | cons i ins ih =>
    have hh : (step ctx i).1.haveSensor = _ := (step_frame ctx i).2.2.2.1
    rw [final_cons, ih, hh, List.any_cons, Bool.or_assoc]

theorem validSample_isSome_iff (sensor : Option SensorMsg) :
    (validSample sensor).isSome = true ↔ ∃ s, sensor = some s ∧ s.valid = true := by
  cases sensor <;> simp [validSample, Option.filter]

/-! ## The output under the invariant -/

section output
variable {ctx : ControlContext} (hi : ControlInv ctx)
include hi

theorem output_level_cooling (hs : ctx.state = .cooling) :
    1 ≤ (controlOutput ctx).coolingLevel ∧ (controlOutput ctx).coolingLevel ≤ 3 := by
  have hw := hi.cooling_wanted hs
  simp only [wantsCooling, Bool.and_eq_true, decide_eq_true_eq] at hw
  simp only [controlOutput, hs, ↓reduceIte]
  exact ⟨hw.2, coolingLevel_le_three _ _ _⟩

theorem output_level_no_reading (hh : ctx.haveSensor = false) :
    (controlOutput ctx).coolingLevel = 0 := by
  have hset : 0 ≤ ctx.setpointC := by
    have := hi.setpoint_range.1
    unfold appSetpointMinC at this
    omega
  simp only [controlOutput, hi.no_reading hh, coolingLevel_zero hset, ite_self]

end output

theorem output_level_other {ctx : ControlContext} (hc : ctx.state ≠ .cooling)
    (hm : ctx.state ≠ .manualOverride) : (controlOutput ctx).coolingLevel = 0 := by
  simp [controlOutput, hc, hm]

/-- **The controller's invariant**, after every call of every run from `Control_Init`. -/
theorem controller_invariant (ins : List ControlInput) (i : ControlInput) :
    let ctx := (step (final step controlInit ins) i).1
    let out := (step (final step controlInit ins) i).2
    out.state = ctx.state ∧
    ((ctx.state = .off ↔ ctx.powered = false) ∧
      (ctx.state = .manualOverride ↔ ctx.powered = true ∧ ctx.manual = true) ∧
      (ctx.manual = true → ctx.powered = true)) ∧
    ((ctx.pauseLatched = true ↔ ctx.state = .acPaused) ∧
      (ctx.state = .acPaused ∨ ctx.state = .windowSuspect →
        ctx.powered = true ∧ ctx.manual = false ∧ ctx.windowWasOpen = true)) ∧
    ((ctx.state = .cooling ∨ ctx.state = .idle → ctx.windowWasOpen = false) ∧
      (∀ s, i.sensor = some s → s.windowOpen = true → ctx.state ≠ .manualOverride →
        out.coolingLevel = 0)) ∧
    (16 ≤ ctx.setpointC ∧ ctx.setpointC ≤ 30) ∧
    ((out.state = .cooling → 1 ≤ out.coolingLevel ∧ out.coolingLevel ≤ 3) ∧
      (out.state ≠ .cooling → out.state ≠ .manualOverride → out.coolingLevel = 0) ∧
      (out.temperatureValid = true ↔
        ∃ j ∈ ins ++ [i], ∃ s, j.sensor = some s ∧ s.valid = true) ∧
      (out.temperatureValid = false → out.coolingLevel = 0)) := by
  intro ctx out
  have hi : ControlInv ctx := step_inv (run_inv ins) i
  have hout : out = controlOutput ctx := rfl
  have hlvl : ctx.state ≠ .cooling → ctx.state ≠ .manualOverride → out.coolingLevel = 0 :=
    output_level_other
  refine ⟨rfl, ⟨hi.off_iff, hi.manual_iff, hi.manual_powered⟩, ⟨hi.latched_iff, hi.open_branch⟩,
    ⟨hi.closed_branch, ?_⟩, hi.setpoint_range, output_level_cooling hi, hlvl, ?_,
    output_level_no_reading hi⟩
  · intro s hs hopen hman
    refine hlvl (fun hcool => ?_) hman
    -- a message that says open leaves `window_was_open` set, which COOLING excludes
    have hwin : ctx.windowWasOpen = true := by
      obtain ⟨c, -, he⟩ := step_selects (final step controlInit ins) i
      have : ctx = _ := he
      rw [this, hs]
      exact hopen
    rw [hi.closed_branch (.inl hcool)] at hwin
    cases hwin
  · have hrun := run_haveSensor controlInit (ins ++ [i])
    rw [final_snoc] at hrun
    have hv : out.temperatureValid = ctx.haveSensor := rfl
    rw [hv, show ctx.haveSensor = _ from hrun]
    simp only [controlInit, Bool.false_or, List.any_eq_true, validSample_isSome_iff]

end SmartAc
