import Mathlib.Algebra.Order.Ring.Rat
import Mathlib.Tactic.Linarith
import SmartAc.Lib.Machine
import SmartAc.Messages

/-!
# The controller: `app_control.c`

`Control_Step` is one function in the source; here each of its blocks is a definition of its own,
composed in source order by `controlStep`.

| here | there |
| --- | --- |
| `roundTemperature` | `RoundTemperature` (`app_control.c:7-10`) |
| `coolingLevel`     | `CoolingLevel` (`app_control.c:12-26`) |
| `controlInit`      | `Control_Init` (`app_control.c:28-33`) |
| `handleEvents`     | the four event tests (`app_control.c:43-64`) |
| `senseWindow`      | the opening edge (`app_control.c:66-73`) |
| `takeReading`      | a valid sample (`app_control.c:74-78`) |
| `selectState`      | the state chain (`app_control.c:80-109`) |
| `controlOutput`    | the returned `ControlOutput` (`app_control.c:115-126`) |
| `controlStep`      | `Control_Step` (`app_control.c:35-127`) |

`Selects` says once what the state chain can do; every invariant is a case split on it.
-/

namespace SmartAc

/-- `ControlContext` (`app_control.h:6-19`). -/
structure ControlContext where
  powered : Bool
  manual : Bool
  haveSensor : Bool
  windowWasOpen : Bool
  pauseLatched : Bool
  setpointC : Int
  temperatureC : Rat
  humidityPct : Rat
  humidityBeforeWindowPct : Rat
  windowOpenSinceMs : UInt32
  recoverySinceMs : UInt32
  state : AcState
deriving DecidableEq, Repr

/-- The C conversion of a `float` to an integer type: truncation toward zero. -/
def truncToInt (q : Rat) : Int := q.num.tdiv q.den

/-- `RoundTemperature` (`app_control.c:7`). The cast to `int8_t` is taken to wrap; C leaves it
undefined when the truncated value is out of range. -/
def roundTemperature (value : Rat) : Int :=
  (truncToInt (if 0 ≤ value then value + 1 / 2 else value - 1 / 2)).bmod 256

/-- `CoolingLevel` (`app_control.c:12`). -/
def coolingLevel (temperatureC : Rat) (setpointC : Int) (manual : Bool) : Nat :=
  let delta := temperatureC - setpointC
  if (!manual && decide (delta ≤ 1)) || (manual && decide (delta ≤ 0)) then 0
  else if delta ≤ 2 then 1
  else if delta ≤ 4 then 2
  else 3

theorem coolingLevel_le_three (t : Rat) (sp : Int) (manual : Bool) : coolingLevel t sp manual ≤ 3 := by
  unfold coolingLevel
  dsimp only
  split_ifs <;> omega

/-- In automatic mode there is a cooling level iff the room is more than 1 degree too warm. -/
theorem coolingLevel_auto_pos (t : Rat) (sp : Int) : 0 < coolingLevel t sp false ↔ 1 < t - sp := by
  unfold coolingLevel
  dsimp only
  generalize t - (sp : Rat) = delta
  by_cases h : delta ≤ 1
  · simp [h]
  · simp only [Bool.not_false, Bool.true_and, h, decide_false, Bool.false_and, Bool.or_self,
      Bool.false_eq_true, ↓reduceIte]
    split_ifs <;> simp_all

theorem coolingLevel_mono {t t' : Rat} (h : t ≤ t') (sp : Int) (manual : Bool) :
    coolingLevel t sp manual ≤ coolingLevel t' sp manual := by
  unfold coolingLevel
  dsimp only
  have hd : t - sp ≤ t' - sp := by linarith
  generalize t - (sp : Rat) = a at hd
  generalize t' - (sp : Rat) = b at hd
  -- a threshold passed by the larger delta is passed by the smaller one
  have keep (c : Rat) (hb : b ≤ c) : a ≤ c := hd.trans hb
  cases manual <;> simp only [Bool.not_false, Bool.not_true, Bool.true_and, Bool.false_and,
    Bool.or_false, Bool.false_or, decide_eq_true_eq] <;> split_ifs <;> simp_all

/-- A temperature of 0 asks for no cooling at any setpoint the controller can hold. -/
theorem coolingLevel_zero {sp : Int} (h : 0 ≤ sp) (manual : Bool) : coolingLevel 0 sp manual = 0 := by
  have hsp : (0 : Rat) ≤ sp := by exact_mod_cast h
  have h1 : (0 : Rat) - sp ≤ 1 := by linarith
  have h0 : (0 : Rat) - sp ≤ 0 := by linarith
  unfold coolingLevel
  cases manual <;> simp_all

/-- `Control_Init` (`app_control.c:28`). -/
def controlInit : ControlContext where
  powered := false
  manual := false
  haveSensor := false
  windowWasOpen := false
  pauseLatched := false
  setpointC := appSetpointDefaultC
  temperatureC := 0
  humidityPct := 0
  humidityBeforeWindowPct := 0
  windowOpenSinceMs := 0
  recoverySinceMs := 0
  state := .off

/-! ## The blocks of `Control_Step` -/

/-- `USER_EVT_POWER` (`app_control.c:43-50`). -/
def togglePower (ctx : ControlContext) : ControlContext :=
  let ctx := { ctx with powered := !ctx.powered }
  if !ctx.powered then { ctx with manual := false, pauseLatched := false, windowWasOpen := false }
  else ctx

/-- `USER_EVT_MANUAL` while powered (`app_control.c:59-64`). -/
def toggleManual (ctx : ControlContext) : ControlContext :=
  let ctx := { ctx with manual := !ctx.manual }
  if ctx.manual then { ctx with pauseLatched := false } else ctx

def onPower (ctx : ControlContext) (userEvents : UInt32) : ControlContext :=
  if hasEvent userEvents userEvtPower then togglePower ctx else ctx

def onSetpointUp (ctx : ControlContext) (userEvents : UInt32) : ControlContext :=
  if hasEvent userEvents userEvtSetpointUp && decide (ctx.setpointC < appSetpointMaxC) then
    { ctx with setpointC := ctx.setpointC + 1 }
  else ctx

def onSetpointDown (ctx : ControlContext) (userEvents : UInt32) : ControlContext :=
  if hasEvent userEvents userEvtSetpointDown && decide (appSetpointMinC < ctx.setpointC) then
    { ctx with setpointC := ctx.setpointC - 1 }
  else ctx

def onManual (ctx : ControlContext) (userEvents : UInt32) : ControlContext :=
  if hasEvent userEvents userEvtManual && ctx.powered then toggleManual ctx else ctx

/-- The event block, in source order: POWER, UP, DOWN, MANUAL (`app_control.c:43-64`). -/
def handleEvents (ctx : ControlContext) (userEvents : UInt32) : ControlContext :=
  let ctx := onPower ctx userEvents
  let ctx := onSetpointUp ctx userEvents
  let ctx := onSetpointDown ctx userEvents
  onManual ctx userEvents

/-- The opening edge and the humidity baseline (`app_control.c:66-73`). -/
def senseWindow (ctx : ControlContext) (sensor : Option SensorMsg) (nowMs : UInt32) : ControlContext :=
  match sensor with
  | none => ctx
  | some s =>
    if s.windowOpen && !ctx.windowWasOpen then
      { ctx with
        windowOpenSinceMs := nowMs
        humidityBeforeWindowPct := if ctx.haveSensor then ctx.humidityPct else s.humidityPct }
    else ctx

/-- A valid sample is taken over (`app_control.c:74-78`). -/
def takeReading (ctx : ControlContext) (sensor : Option SensorMsg) : ControlContext :=
  match sensor with
  | none => ctx
  | some s =>
    if s.valid then
      { ctx with temperatureC := s.temperatureC, humidityPct := s.humidityPct, haveSensor := true }
    else ctx

/-- `humidity_rise` (`app_control.c:86-88`). -/
def humidityRise (ctx : ControlContext) (sensor : Option SensorMsg) : Bool :=
  sensor.any fun s => s.valid && decide (appHumidityRisePct ≤ s.humidityPct - ctx.humidityBeforeWindowPct)

/-- `CoolingLevel(..., false) > 0` for a context that has a reading (`app_control.c:105-106`). -/
def wantsCooling (ctx : ControlContext) : Bool :=
  ctx.haveSensor && decide (0 < coolingLevel ctx.temperatureC ctx.setpointC false)

/-- The state chain (`app_control.c:80-109`). -/
def selectState (ctx : ControlContext) (sensor : Option SensorMsg) (nowMs : UInt32) : ControlContext :=
  if !ctx.powered then { ctx with state := .off }
  else if ctx.manual then { ctx with state := .manualOverride }
  else if sensor.any (·.windowOpen) then
    if decide (appWindowPauseMs ≤ nowMs - ctx.windowOpenSinceMs) || humidityRise ctx sensor ||
        ctx.pauseLatched then
      { ctx with pauseLatched := true, state := .acPaused }
    else { ctx with state := .windowSuspect }
  else if ctx.windowWasOpen then
    { ctx with recoverySinceMs := nowMs, pauseLatched := false, state := .recoveryWait }
  else if ctx.state = .recoveryWait ∧ nowMs - ctx.recoverySinceMs < appRecoveryWaitMs then
    { ctx with state := .recoveryWait }
  else if wantsCooling ctx then { ctx with state := .cooling }
  else { ctx with state := .idle }

/-- `ctx->window_was_open = sensor->window_open` (`app_control.c:111-113`). -/
def noteWindow (ctx : ControlContext) (sensor : Option SensorMsg) : ControlContext :=
  match sensor with
  | none => ctx
  | some s => { ctx with windowWasOpen := s.windowOpen }

/-- The output block (`app_control.c:115-126`). -/
def controlOutput (ctx : ControlContext) : ControlOutput where
  state := ctx.state
  coolingLevel :=
    if ctx.state = .cooling then coolingLevel ctx.temperatureC ctx.setpointC false
    else if ctx.state = .manualOverride then coolingLevel ctx.temperatureC ctx.setpointC true
    else 0
  currentTemperatureC := if ctx.haveSensor then roundTemperature ctx.temperatureC else 0
  setpointC := ctx.setpointC
  temperatureValid := ctx.haveSensor

/-- What the state chain is given: the context after the events, the edge and the reading. -/
def prepare (ctx : ControlContext) (sensor : Option SensorMsg) (userEvents nowMs : UInt32) :
    ControlContext :=
  takeReading (senseWindow (handleEvents ctx userEvents) sensor nowMs) sensor

/-- `Control_Step` (`app_control.c:35`). -/
def controlStep (ctx : ControlContext) (sensor : Option SensorMsg) (userEvents nowMs : UInt32) :
    ControlContext × ControlOutput :=
  let ctx := prepare ctx sensor userEvents nowMs
  let ctx := selectState ctx sensor nowMs
  let ctx := noteWindow ctx sensor
  (ctx, controlOutput ctx)

/-- The arguments of one `Control_Step` call besides the context. -/
structure ControlInput where
  sensor : Option SensorMsg
  userEvents : UInt32
  nowMs : UInt32
deriving DecidableEq, Repr

/-- `Control_Step` as a machine; its runs from `controlInit` are the runs of the controller. -/
def step (ctx : ControlContext) (i : ControlInput) : ControlContext × ControlOutput :=
  controlStep ctx i.sensor i.userEvents i.nowMs

/-! ## What each block changes -/

/-- POWER is pressed while the controller is on. -/
def powersOff (ctx : ControlContext) (userEvents : UInt32) : Bool :=
  hasEvent userEvents userEvtPower && ctx.powered

/-- `powered` after the event block. -/
def poweredAfter (ctx : ControlContext) (userEvents : UInt32) : Bool :=
  hasEvent userEvents userEvtPower ^^ ctx.powered

/-- MANUAL takes effect: it is pressed and the controller is on after POWER. -/
def togglesManual (ctx : ControlContext) (userEvents : UInt32) : Bool :=
  hasEvent userEvents userEvtManual && poweredAfter ctx userEvents

/-- `manual` after the event block. -/
def manualAfter (ctx : ControlContext) (userEvents : UInt32) : Bool :=
  togglesManual ctx userEvents ^^ (ctx.manual && !powersOff ctx userEvents)

/-- `setpoint_c` after the event block. -/
def setpointAfter (setpointC : Int) (userEvents : UInt32) : Int :=
  let up := if hasEvent userEvents userEvtSetpointUp && decide (setpointC < appSetpointMaxC) then
    setpointC + 1 else setpointC
  if hasEvent userEvents userEvtSetpointDown && decide (appSetpointMinC < up) then up - 1 else up

theorem handleEvents_eq (ctx : ControlContext) (userEvents : UInt32) :
    handleEvents ctx userEvents = { ctx with
      powered := poweredAfter ctx userEvents
      manual := manualAfter ctx userEvents
      windowWasOpen := ctx.windowWasOpen && !powersOff ctx userEvents
      pauseLatched := ctx.pauseLatched && !powersOff ctx userEvents &&
        !(togglesManual ctx userEvents && manualAfter ctx userEvents)
      setpointC := setpointAfter ctx.setpointC userEvents } := by
  obtain ⟨powered, manual, _, window, latch, _⟩ := ctx
  have hset : ∀ c : ControlContext, onSetpointDown (onSetpointUp c userEvents) userEvents =
      { c with setpointC := setpointAfter c.setpointC userEvents } := by
    intro c
    unfold onSetpointDown onSetpointUp setpointAfter
    cases hasEvent userEvents userEvtSetpointUp <;> cases hasEvent userEvents userEvtSetpointDown <;>
      simp only [Bool.false_and, Bool.true_and, decide_eq_true_eq, Bool.false_eq_true, ↓reduceIte] <;>
      split_ifs <;> simp_all
  simp only [handleEvents, hset]
  unfold onPower onManual togglePower toggleManual manualAfter togglesManual powersOff poweredAfter
  cases hasEvent userEvents userEvtPower <;> cases hasEvent userEvents userEvtManual <;>
    cases powered <;> cases manual <;> simp

/-- The sample as far as it is valid. -/
def validSample (sensor : Option SensorMsg) : Option SensorMsg := sensor.filter (·.valid)

@[simp] theorem validSample_none : validSample none = none := rfl

theorem validSample_valid {s : SensorMsg} (h : s.valid = true) : validSample (some s) = some s := by
  simp [validSample, Option.filter, h]

theorem validSample_invalid {s : SensorMsg} (h : s.valid = false) : validSample (some s) = none := by
  simp [validSample, Option.filter, h]

theorem takeReading_eq (ctx : ControlContext) (sensor : Option SensorMsg) :
    takeReading ctx sensor = { ctx with
      temperatureC := ((validSample sensor).map (·.temperatureC)).getD ctx.temperatureC
      humidityPct := ((validSample sensor).map (·.humidityPct)).getD ctx.humidityPct
      haveSensor := ctx.haveSensor || (validSample sensor).isSome } := by
  cases sensor with
  | none => simp [takeReading, validSample]
  | some s =>
    obtain ⟨_, _, _, valid⟩ := s
    cases valid <;> simp [takeReading, validSample, Option.filter]

/-- The sensor message opens the window: it says open and `window_was_open` is clear after the
event block. -/
def opens (ctx : ControlContext) (sensor : Option SensorMsg) (userEvents : UInt32) : Bool :=
  sensor.any (·.windowOpen) && !(ctx.windowWasOpen && !powersOff ctx userEvents)

section prepare
variable (ctx : ControlContext) (sensor : Option SensorMsg) (userEvents nowMs : UInt32)

/-- The humidity an opening edge takes as its baseline. -/
def baseline : Rat :=
  if ctx.haveSensor then ctx.humidityPct else (sensor.map (·.humidityPct)).getD 0

theorem prepare_eq : prepare ctx sensor userEvents nowMs = { handleEvents ctx userEvents with
    windowOpenSinceMs := if opens ctx sensor userEvents then nowMs else ctx.windowOpenSinceMs
    humidityBeforeWindowPct :=
      if opens ctx sensor userEvents then baseline ctx sensor else ctx.humidityBeforeWindowPct
    temperatureC := ((validSample sensor).map (·.temperatureC)).getD ctx.temperatureC
    humidityPct := ((validSample sensor).map (·.humidityPct)).getD ctx.humidityPct
    haveSensor := ctx.haveSensor || (validSample sensor).isSome } := by
  rw [prepare, takeReading_eq, handleEvents_eq]
  cases sensor with
  | none => simp [senseWindow, opens]
  | some s =>
    by_cases h : s.windowOpen && !(ctx.windowWasOpen && !powersOff ctx userEvents)
    · simp only [senseWindow, h, opens, baseline, Option.any_some, Option.map_some, Option.getD_some,
        if_true]
    · simp only [senseWindow, h, opens, Option.any_some, Bool.false_eq_true, if_false]

@[simp] theorem prepare_powered :
    (prepare ctx sensor userEvents nowMs).powered = poweredAfter ctx userEvents := by
  rw [prepare_eq, handleEvents_eq]

@[simp] theorem prepare_manual :
    (prepare ctx sensor userEvents nowMs).manual = manualAfter ctx userEvents := by
  rw [prepare_eq, handleEvents_eq]

@[simp] theorem prepare_haveSensor : (prepare ctx sensor userEvents nowMs).haveSensor =
    (ctx.haveSensor || (validSample sensor).isSome) := by
  rw [prepare_eq]

@[simp] theorem prepare_windowWasOpen : (prepare ctx sensor userEvents nowMs).windowWasOpen =
    (ctx.windowWasOpen && !powersOff ctx userEvents) := by
  rw [prepare_eq, handleEvents_eq]

@[simp] theorem prepare_pauseLatched : (prepare ctx sensor userEvents nowMs).pauseLatched =
    (ctx.pauseLatched && !powersOff ctx userEvents &&
      !(togglesManual ctx userEvents && manualAfter ctx userEvents)) := by
  rw [prepare_eq, handleEvents_eq]

@[simp] theorem prepare_setpointC : (prepare ctx sensor userEvents nowMs).setpointC =
    setpointAfter ctx.setpointC userEvents := by
  rw [prepare_eq, handleEvents_eq]

@[simp] theorem prepare_temperatureC : (prepare ctx sensor userEvents nowMs).temperatureC =
    ((validSample sensor).map (·.temperatureC)).getD ctx.temperatureC := by
  rw [prepare_eq]

@[simp] theorem prepare_humidityPct : (prepare ctx sensor userEvents nowMs).humidityPct =
    ((validSample sensor).map (·.humidityPct)).getD ctx.humidityPct := by
  rw [prepare_eq]

@[simp] theorem prepare_humidityBeforeWindowPct :
    (prepare ctx sensor userEvents nowMs).humidityBeforeWindowPct =
      if opens ctx sensor userEvents then baseline ctx sensor else ctx.humidityBeforeWindowPct := by
  rw [prepare_eq]

@[simp] theorem prepare_windowOpenSinceMs :
    (prepare ctx sensor userEvents nowMs).windowOpenSinceMs =
      if opens ctx sensor userEvents then nowMs else ctx.windowOpenSinceMs := by
  rw [prepare_eq]

@[simp] theorem prepare_recoverySinceMs :
    (prepare ctx sensor userEvents nowMs).recoverySinceMs = ctx.recoverySinceMs := by
  rw [prepare_eq, handleEvents_eq]

@[simp] theorem prepare_state : (prepare ctx sensor userEvents nowMs).state = ctx.state := by
  rw [prepare_eq, handleEvents_eq]

end prepare

/-! ## The state chain, said once -/

/-- What `selectState` can do to a prepared context, with the guards of each branch. -/
inductive Selects (ctx : ControlContext) (sensor : Option SensorMsg) (nowMs : UInt32) :
    ControlContext → Prop where
  | off (hp : ctx.powered = false) : Selects ctx sensor nowMs { ctx with state := .off }
  | manual (hp : ctx.powered = true) (hm : ctx.manual = true) :
      Selects ctx sensor nowMs { ctx with state := .manualOverride }
  | pause (hp : ctx.powered = true) (hm : ctx.manual = false) (ho : sensor.any (·.windowOpen) = true)
      (why : appWindowPauseMs ≤ nowMs - ctx.windowOpenSinceMs ∨ humidityRise ctx sensor = true ∨
        ctx.pauseLatched = true) :
      Selects ctx sensor nowMs { ctx with pauseLatched := true, state := .acPaused }
  | suspect (hp : ctx.powered = true) (hm : ctx.manual = false)
      (ho : sensor.any (·.windowOpen) = true)
      (hage : ¬ appWindowPauseMs ≤ nowMs - ctx.windowOpenSinceMs)
      (hrise : humidityRise ctx sensor = false) (hl : ctx.pauseLatched = false) :
      Selects ctx sensor nowMs { ctx with state := .windowSuspect }
  | startWait (hp : ctx.powered = true) (hm : ctx.manual = false)
      (ho : sensor.any (·.windowOpen) = false) (hw : ctx.windowWasOpen = true) :
      Selects ctx sensor nowMs
        { ctx with recoverySinceMs := nowMs, pauseLatched := false, state := .recoveryWait }
  | keepWait (hp : ctx.powered = true) (hm : ctx.manual = false)
      (ho : sensor.any (·.windowOpen) = false) (hw : ctx.windowWasOpen = false)
      (hs : ctx.state = .recoveryWait) (hage : nowMs - ctx.recoverySinceMs < appRecoveryWaitMs) :
      Selects ctx sensor nowMs { ctx with state := .recoveryWait }
  | cool (hp : ctx.powered = true) (hm : ctx.manual = false)
      (ho : sensor.any (·.windowOpen) = false) (hw : ctx.windowWasOpen = false)
      (hdone : ¬ (ctx.state = .recoveryWait ∧ nowMs - ctx.recoverySinceMs < appRecoveryWaitMs))
      (hc : wantsCooling ctx = true) :
      Selects ctx sensor nowMs { ctx with state := .cooling }
  | idle (hp : ctx.powered = true) (hm : ctx.manual = false)
      (ho : sensor.any (·.windowOpen) = false) (hw : ctx.windowWasOpen = false)
      (hdone : ¬ (ctx.state = .recoveryWait ∧ nowMs - ctx.recoverySinceMs < appRecoveryWaitMs))
      (hc : wantsCooling ctx = false) :
      Selects ctx sensor nowMs { ctx with state := .idle }

theorem selectState_selects (ctx : ControlContext) (sensor : Option SensorMsg) (nowMs : UInt32) :
    Selects ctx sensor nowMs (selectState ctx sensor nowMs) := by
  unfold selectState
  by_cases hp : ctx.powered = true
  case neg =>
    rw [if_pos (by simpa using hp)]
    exact .off (by simpa using hp)
  rw [if_neg (by simpa using hp)]
  by_cases hm : ctx.manual = true
  case pos =>
    rw [if_pos hm]
    exact .manual hp hm
  rw [if_neg hm]
  replace hm : ctx.manual = false := by simpa using hm
  by_cases ho : sensor.any (·.windowOpen) = true
  case pos =>
    rw [if_pos ho]
    split
    · rename_i why
      exact .pause hp hm ho (by simpa [or_assoc] using why)
    · rename_i hnot
      simp only [Bool.or_eq_true, decide_eq_true_eq, not_or, Bool.not_eq_true] at hnot
      exact .suspect hp hm ho hnot.1.1 hnot.1.2 hnot.2
  rw [if_neg ho]
  replace ho : sensor.any (·.windowOpen) = false := by simpa using ho
  by_cases hw : ctx.windowWasOpen = true
  case pos =>
    rw [if_pos hw]
    exact .startWait hp hm ho hw
  rw [if_neg hw]
  replace hw : ctx.windowWasOpen = false := by simpa using hw
  by_cases hr : ctx.state = .recoveryWait ∧ nowMs - ctx.recoverySinceMs < appRecoveryWaitMs
  case pos =>
    rw [if_pos hr]
    exact .keepWait hp hm ho hw hr.1 hr.2
  rw [if_neg hr]
  by_cases hc : wantsCooling ctx = true
  · rw [if_pos hc]
    exact .cool hp hm ho hw hr hc
  · rw [if_neg hc]
    exact .idle hp hm ho hw hr (by simpa using hc)

/-! ## One step -/

/-- The context after a step. -/
def stepCtx (ctx : ControlContext) (i : ControlInput) : ControlContext := (step ctx i).1

theorem step_fst (ctx : ControlContext) (i : ControlInput) : (step ctx i).1 = stepCtx ctx i := rfl

theorem step_snd (ctx : ControlContext) (i : ControlInput) :
    (step ctx i).2 = controlOutput (stepCtx ctx i) := rfl

theorem noteWindow_eq (ctx : ControlContext) (sensor : Option SensorMsg) :
    noteWindow ctx sensor =
      { ctx with windowWasOpen := (sensor.map (·.windowOpen)).getD ctx.windowWasOpen } := by
  cases sensor <;> rfl

/-- **Step inversion**: a step is one of the branches of `Selects` on the prepared context, with the
window flag taken over from the sensor message. -/
theorem step_selects (ctx : ControlContext) (i : ControlInput) :
    ∃ c, Selects (prepare ctx i.sensor i.userEvents i.nowMs) i.sensor i.nowMs c ∧
      stepCtx ctx i =
        { c with windowWasOpen := (i.sensor.map (·.windowOpen)).getD c.windowWasOpen } :=
  ⟨_, selectState_selects _ _ _, noteWindow_eq _ _⟩

/-- The fields the state chain does not touch. -/
theorem step_frame (ctx : ControlContext) (i : ControlInput) :
    (stepCtx ctx i).powered = poweredAfter ctx i.userEvents ∧
    (stepCtx ctx i).manual = manualAfter ctx i.userEvents ∧
    (stepCtx ctx i).setpointC = setpointAfter ctx.setpointC i.userEvents ∧
    (stepCtx ctx i).haveSensor = (ctx.haveSensor || (validSample i.sensor).isSome) ∧
    (stepCtx ctx i).temperatureC =
      ((validSample i.sensor).map (·.temperatureC)).getD ctx.temperatureC ∧
    (stepCtx ctx i).humidityPct =
      ((validSample i.sensor).map (·.humidityPct)).getD ctx.humidityPct := by
  obtain ⟨c, hc, he⟩ := step_selects ctx i
  rw [he]
  cases hc <;> simp

end SmartAc
