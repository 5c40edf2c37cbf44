import SmartAc.Control
import SmartAc.Lib.Clock

/-!
# What the controller remembers

Two of the fields of `ControlContext` are timestamps and one is a humidity that belongs to a timestamp;
each is read only while a flag or the state says so. `SameLive` is equality of contexts up to what is
not read, and up to an offset between their clocks. `step_sameLive` is its step lemma: two contexts
that are the same in this sense give the same outputs for ever.

Two things follow over whole runs. The controller does not depend on where its clock starts; and a
power-off leaves nothing behind but the setpoint and the latest reading.
-/

namespace SmartAc

open Machine WrapClock

/-- Equal in every field that is read, with clocks that are `offset` apart. -/
structure SameLive (offset : UInt32) (a b : ControlContext) : Prop where
  fields : b = { a with
    humidityBeforeWindowPct := b.humidityBeforeWindowPct
    windowOpenSinceMs := b.windowOpenSinceMs
    recoverySinceMs := b.recoverySinceMs }
  opened : a.windowWasOpen = true → b.windowOpenSinceMs = a.windowOpenSinceMs + offset ∧
    b.humidityBeforeWindowPct = a.humidityBeforeWindowPct
  waiting : a.state = .recoveryWait → b.recoverySinceMs = a.recoverySinceMs + offset

/-- Where no window is open and no wait goes on, only the other fields count. -/
theorem SameLive.of_fields {a b : ControlContext} (offset : UInt32) (hwindow : a.windowWasOpen = false)
    (hstate : a.state ≠ .recoveryWait)
    (hfields : b = { a with
      humidityBeforeWindowPct := b.humidityBeforeWindowPct
      windowOpenSinceMs := b.windowOpenSinceMs
      recoverySinceMs := b.recoverySinceMs }) : SameLive offset a b := by
  refine ⟨hfields, fun hopen => ?_, fun hwait => absurd hwait hstate⟩
  rw [hwindow] at hopen
  cases hopen

/-- The same call on a clock that is `offset` ahead. -/
def ControlInput.ahead (offset : UInt32) (i : ControlInput) : ControlInput :=
  { i with nowMs := i.nowMs + offset }

/-! ## One step -/

/-- What the state chain reads of two contexts, once the window is sensed. -/
structure SamePrepared (offset : UInt32) (sensor : Option SensorMsg) (a b : ControlContext) : Prop where
  fields : b = { a with
    humidityBeforeWindowPct := b.humidityBeforeWindowPct
    windowOpenSinceMs := b.windowOpenSinceMs
    recoverySinceMs := b.recoverySinceMs }
  opened : sensor.any (·.windowOpen) = true ∨ a.windowWasOpen = true →
    b.windowOpenSinceMs = a.windowOpenSinceMs + offset ∧
      b.humidityBeforeWindowPct = a.humidityBeforeWindowPct
  waiting : a.state = .recoveryWait → b.recoverySinceMs = a.recoverySinceMs + offset

theorem prepare_sameLive {offset : UInt32} {a b : ControlContext} (h : SameLive offset a b)
    (sensor : Option SensorMsg) (userEvents nowMs : UInt32) :
    SamePrepared offset sensor (prepare a sensor userEvents nowMs)
      (prepare b sensor userEvents (nowMs + offset)) := by
  obtain ⟨hfields, hopened, hwaiting⟩ := h
  have hopens : opens b sensor userEvents = opens a sensor userEvents := by
    rw [hfields]
    rfl
  have hbase : baseline b sensor = baseline a sensor := by
    rw [hfields]
    rfl
  refine ⟨?_, fun hread => ?_, ?_⟩
  · rw [prepare_eq, prepare_eq, handleEvents_eq, handleEvents_eq, hfields]
    rfl
  · rw [prepare_windowOpenSinceMs, prepare_windowOpenSinceMs, prepare_humidityBeforeWindowPct,
      prepare_humidityBeforeWindowPct, hopens, hbase]
    by_cases hedge : opens a sensor userEvents = true
    · rw [if_pos hedge, if_pos hedge, if_pos hedge, if_pos hedge]
      exact ⟨rfl, rfl⟩
    · rw [if_neg hedge, if_neg hedge, if_neg hedge, if_neg hedge]
      -- no edge: the window has been open since before
      rw [prepare_windowWasOpen] at hread
      have hstill : (a.windowWasOpen && !powersOff a userEvents) = true := by
        rcases hread with hopen | hstill
        · simpa [opens, hopen] using hedge
        · exact hstill
      exact hopened (Bool.and_eq_true_iff.1 hstill).1
  · rw [prepare_state, prepare_recoverySinceMs, prepare_recoverySinceMs]
    exact hwaiting

theorem selectState_sameLive {offset : UInt32} {sensor : Option SensorMsg} {a b : ControlContext}
    (h : SamePrepared offset sensor a b) (nowMs : UInt32) :
    SamePrepared offset sensor (selectState a sensor nowMs) (selectState b sensor (nowMs + offset)) := by
  obtain ⟨hfields, hopened, hwaiting⟩ := h
  have hpause : sensor.any (·.windowOpen) = true →
      nowMs + offset - b.windowOpenSinceMs = nowMs - a.windowOpenSinceMs ∧
        humidityRise b sensor = humidityRise a sensor := by
    intro hopen
    obtain ⟨hsince, hbase⟩ := hopened (.inl hopen)
    rw [hsince, add_sub_add, humidityRise, humidityRise, hbase]
    exact ⟨rfl, rfl⟩
  have hwait : a.state = .recoveryWait → nowMs + offset - b.recoverySinceMs = nowMs - a.recoverySinceMs := by
    intro hstate
    rw [hwaiting hstate, add_sub_add]
  have hwants : wantsCooling b = wantsCooling a := by
    rw [hfields]
    rfl
  have hpowered : b.powered = a.powered := by rw [hfields]
  have hmanual : b.manual = a.manual := by rw [hfields]
  have hlatch : b.pauseLatched = a.pauseLatched := by rw [hfields]
  have hwindow : b.windowWasOpen = a.windowWasOpen := by rw [hfields]
  have hstate : b.state = a.state := by rw [hfields]
  have hwaits : b.state = .recoveryWait ∧ nowMs + offset - b.recoverySinceMs < appRecoveryWaitMs ↔
      a.state = .recoveryWait ∧ nowMs - a.recoverySinceMs < appRecoveryWaitMs := by
    rw [hstate]
    exact and_congr_right fun hs => by rw [hwait hs]
  unfold selectState
  rw [hpowered, hmanual, hlatch, hwindow, hwants, if_congr hwaits rfl rfl]
  cases a.powered with
  | false => exact ⟨by rw [hfields]; rfl, hopened, nofun⟩
  | true =>
    cases a.manual with
    | true => exact ⟨by rw [hfields]; rfl, hopened, nofun⟩
    | false =>
      by_cases hopen : sensor.any (·.windowOpen) = true
      · obtain ⟨hage, hrise⟩ := hpause hopen
        rw [hage, hrise]
        simp only [hopen, Bool.not_true, Bool.false_eq_true, if_false, if_true]
        split_ifs
        · exact ⟨by rw [hfields], hopened, nofun⟩
        · exact ⟨by rw [hfields], hopened, nofun⟩
      · simp only [hopen, Bool.not_true, Bool.false_eq_true, if_false]
        split_ifs with hwas hstill hwarm
        · exact ⟨by rw [hfields], hopened, fun _ => rfl⟩
        · exact ⟨by rw [hfields], hopened, fun _ => hwaiting hstill.1⟩
        · exact ⟨by rw [hfields], hopened, nofun⟩
        · exact ⟨by rw [hfields], hopened, nofun⟩

/-- **Step lemma**: contexts that are the same put out the same and stay so. -/
theorem step_sameLive {offset : UInt32} {a b : ControlContext} (h : SameLive offset a b) (i : ControlInput) :
    SameLive offset (stepCtx a i) (stepCtx b (i.ahead offset)) ∧
      (step b (i.ahead offset)).2 = (step a i).2 := by
  obtain ⟨hfields, hopened, hwaiting⟩ :=
    selectState_sameLive (prepare_sameLive h i.sensor i.userEvents i.nowMs) i.nowMs
  have hsame : SameLive offset (stepCtx a i) (stepCtx b (i.ahead offset)) := by
    unfold stepCtx step controlStep ControlInput.ahead
    dsimp only
    rw [noteWindow_eq, noteWindow_eq]
    refine ⟨by rw [hfields], fun hopen => hopened ?_, hwaiting⟩
    cases hs : i.sensor with
    | none =>
      rw [hs] at hopen
      exact .inr hopen
    | some s =>
      rw [hs] at hopen
      exact .inl hopen
  refine ⟨hsame, ?_⟩
  rw [step_snd, step_snd, hsame.fields]
  rfl

/-! ## Runs -/

/-- **Run lemma**: from contexts that are the same, runs on clocks `offset` apart put out the same. -/
theorem run_sameLive {offset : UInt32} {a b : ControlContext} (h : SameLive offset a b)
    (ins : List ControlInput) : outputs step b (ins.map (·.ahead offset)) = outputs step a ins := by
  induction ins generalizing a b with
  | nil => rfl
  | cons i ins ih =>
    obtain ⟨hsame, hout⟩ := step_sameLive h i
    rw [List.map_cons, outputs_cons, outputs_cons, hout, step_fst, step_fst, ih hsame]

/-- **Only the passing of time counts**: a run on a clock that starts `offset` later, wrapping where it may,
puts out the same at every step. -/
theorem clock_start_irrelevant (offset : UInt32) (ins : List ControlInput) :
    outputs step controlInit (ins.map (·.ahead offset)) = outputs step controlInit ins :=
  run_sameLive (SameLive.of_fields offset rfl (by decide) rfl) ins

/-! ## Power off -/

/-- A powered context on which POWER is pressed. -/
structure PowersOff (ctx : ControlContext) (i : ControlInput) : Prop where
  powered : ctx.powered = true
  pressed : hasEvent i.userEvents userEvtPower = true

/-- What a call that powers off leaves. -/
theorem PowersOff.stepCtx {ctx : ControlContext} {i : ControlInput} (h : PowersOff ctx i) :
    stepCtx ctx i =
      { powered := false
        manual := false
        haveSensor := ctx.haveSensor || (validSample i.sensor).isSome
        windowWasOpen := i.sensor.any (·.windowOpen)
        pauseLatched := false
        setpointC := setpointAfter ctx.setpointC i.userEvents
        temperatureC := ((validSample i.sensor).map (·.temperatureC)).getD ctx.temperatureC
        humidityPct := ((validSample i.sensor).map (·.humidityPct)).getD ctx.humidityPct
        humidityBeforeWindowPct :=
          if i.sensor.any (·.windowOpen) then baseline ctx i.sensor else ctx.humidityBeforeWindowPct
        windowOpenSinceMs := if i.sensor.any (·.windowOpen) then i.nowMs else ctx.windowOpenSinceMs
        recoverySinceMs := ctx.recoverySinceMs
        state := .off } := by
  obtain ⟨hpowered, hpressed⟩ := h
  have hoff : powersOff ctx i.userEvents = true := by rw [powersOff, hpressed, hpowered, Bool.and_self]
  have hafter : poweredAfter ctx i.userEvents = false := by rw [poweredAfter, hpressed, hpowered, Bool.xor_self]
  have hmanual : manualAfter ctx i.userEvents = false := by
    rw [manualAfter, togglesManual, hafter, hoff, Bool.and_false, Bool.not_true, Bool.and_false, Bool.xor_self]
  have hedge : opens ctx i.sensor i.userEvents = i.sensor.any (·.windowOpen) := by
    rw [opens, hoff, Bool.not_true, Bool.and_false, Bool.not_false, Bool.and_true]
  have hselect (c : ControlContext) (hc : c.powered = false) :
      selectState c i.sensor i.nowMs = { c with state := .off } := by rw [selectState, hc]; rfl
  unfold SmartAc.stepCtx step controlStep
  dsimp only
  rw [hselect _ (by rw [prepare_powered, hafter]), noteWindow_eq, prepare_eq, handleEvents_eq, hedge, hafter,
    hmanual, hoff]
  cases i.sensor <;> simp

/-- **A power-off forgets**: two runs with equal setpoints and equal latest readings are told apart by no
later call, from the one that powers off on. -/
theorem power_off_forgets (past past' : List ControlInput) (i : ControlInput) (later : List ControlInput)
    (offset : UInt32) (h : PowersOff (final step controlInit past) i)
    (h' : PowersOff (final step controlInit past') i)
    (hsetpoint : (final step controlInit past').setpointC = (final step controlInit past).setpointC)
    (hsensor : (final step controlInit past').haveSensor = (final step controlInit past).haveSensor)
    (htemperature : (final step controlInit past').temperatureC = (final step controlInit past).temperatureC)
    (hhumidity : (final step controlInit past').humidityPct = (final step controlInit past).humidityPct) :
    outputs step (final step controlInit past') ((i :: later).map (·.ahead offset)) =
      outputs step (final step controlInit past) (i :: later) := by
  generalize final step controlInit past = a at *
  generalize final step controlInit past' = b at *
  have hahead : PowersOff b (i.ahead offset) := ⟨h'.powered, h'.pressed⟩
  have hsame : SameLive offset (stepCtx a i) (stepCtx b (i.ahead offset)) := by
    rw [h.stepCtx, hahead.stepCtx, hsetpoint, hsensor, htemperature, hhumidity]
    refine ⟨rfl, fun hopen => ?_, nofun⟩
    have hbase : baseline b i.sensor = baseline a i.sensor := by
      rw [baseline, baseline, hsensor, hhumidity]
    dsimp only [ControlInput.ahead] at hopen ⊢
    rw [if_pos hopen, if_pos hopen]
    exact ⟨if_pos hopen, (if_pos hopen).trans hbase⟩
  have hout : (step b (i.ahead offset)).2 = (step a i).2 := by
    rw [step_snd, step_snd, hsame.fields]
    rfl
  rw [List.map_cons, outputs_cons, outputs_cons, hout, step_fst, step_fst, run_sameLive hsame]

/-- A run in manual mode that met an open window, and one that only saw the same reading. -/
def eventful : List ControlInput :=
  [⟨some ⟨30, 40, true, true⟩, userEvtPower, 0⟩, ⟨some ⟨30, 40, true, true⟩, 0, 6000⟩,
    ⟨some ⟨26, 45, true, true⟩, userEvtManual ||| userEvtSetpointUp, 7000⟩]

def uneventful : List ControlInput := [⟨some ⟨26, 45, false, true⟩, userEvtPower ||| userEvtSetpointUp, 7000⟩]

def offAtOpenWindow : ControlInput := ⟨some ⟨26, 45, true, false⟩, userEvtPower, 8000⟩

/-- Off and on again with the window open: the manual mode of the first run is gone. -/
theorem power_off_forgets_eventful :
    outputs step (final step controlInit uneventful)
        ((offAtOpenWindow :: [⟨none, userEvtPower, 9000⟩]).map (·.ahead 0)) =
      outputs step (final step controlInit eventful) (offAtOpenWindow :: [⟨none, userEvtPower, 9000⟩]) :=
  power_off_forgets eventful uneventful offAtOpenWindow [⟨none, userEvtPower, 9000⟩] 0
    ⟨by decide +kernel, by decide⟩ ⟨by decide +kernel, by decide⟩
    (by decide +kernel) (by decide +kernel) (by decide +kernel) (by decide +kernel)

end SmartAc
