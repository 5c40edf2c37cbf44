import SmartAc.DisplayGlass

/-!
# From the buttons to the lights: `app_actuator.c`, `app_board.c`

| here | there |
| --- | --- |
| `boardWriteActive`, `inactiveLevel` | `Board_WriteActive`, `InactiveLevel` (`app_board.c:41-50`) |
| `outputPins`                        | the four writes at the end of `Actuator_SetOutputs` (`app_actuator.c:33-37`) |

The lights and the glass are driven by two tasks from two queues. In a quiet system they agree, and the lights
tell what the buttons, the sensor and the reed said: `lamps_tell_the_world`.
-/

namespace SmartAc

open Machine

/-! ## The pins -/

/-- `GPIO_PIN_SET` is `true`. -/
def inactiveLevel (active : Bool) : Bool := if active == true then false else true

def boardWriteActive (active activeLevel : Bool) : Bool :=
  if active then activeLevel else inactiveLevel activeLevel

def appBuzzerOnLevel : Bool := false

/-- The levels of PB0, PB7, PB14 and PD15. -/
structure OutputPins where
  ld1 : Bool
  ld2 : Bool
  ld3 : Bool
  buzzer : Bool
deriving DecidableEq

def outputPins (o : Outputs) : OutputPins where
  ld1 := boardWriteActive o.ld1 true
  ld2 := boardWriteActive o.ld2 true
  ld3 := boardWriteActive o.ld3 true
  buzzer := boardWriteActive o.buzzer appBuzzerOnLevel

@[simp] theorem boardWriteActive_high (active : Bool) : boardWriteActive active true = active := by
  cases active <;> rfl

@[simp] theorem boardWriteActive_low (active : Bool) : boardWriteActive active false = !active := by
  cases active <;> rfl

/-! ## What they tell -/

/-- The lights of a state at a time; the buzzer is low while it sounds. -/
structure LightsOf (state : AcState) (nowMs : UInt32) (pins : OutputPins) : Prop where
  ld1 : pins.ld1 = true ↔ state = .cooling
  ld2 : pins.ld2 = true ↔ state = .manualOverride
  ld3 : pins.ld3 = true ↔
    state = .windowSuspect ∧ nowMs % 1000 < 500 ∨ state = .acPaused ∧ nowMs % 250 < 125

theorem outputPins_lights (message : ActuatorMsg) (nowMs : UInt32) (click : Bool) :
    LightsOf message.state nowMs (outputPins (actuatorSetOutputs message nowMs click)) := by
  refine ⟨?_, ?_, ?_⟩
  · simp [outputPins, actuatorSetOutputs]
  · simp [outputPins, actuatorSetOutputs]
  · cases hstate : message.state <;> simp [outputPins, actuatorSetOutputs, hstate]

/-- What the lights say of a world. -/
structure LampsTell (w : World) (pins : OutputPins) : Prop where
  cooling : pins.ld1 = true → w.panel.powered = true ∧ w.panel.manual = false ∧ w.windowOpen = false ∧
    ∃ t, w.temperatureC = some t ∧ 1 < t - w.panel.setpointC
  manual : pins.ld2 = true ↔ w.panel.powered = true ∧ w.panel.manual = true
  window : pins.ld3 = true → w.panel.powered = true ∧ w.panel.manual = false ∧ w.windowOpen = true

theorem LightsOf.tell {w : World} {m : DisplayMsg} {nowMs : UInt32} {pins : OutputPins}
    (h : LightsOf m.state nowMs pins) (hshows : Shows w m) : LampsTell w pins := by
  obtain ⟨hoff, hmanual, hwindow, hcooling, -⟩ := hshows
  refine ⟨fun hlit => ?_, h.ld2.trans hmanual, fun hlit => ?_⟩
  · have hstate := h.ld1.1 hlit
    have hpowered : w.panel.powered = true := by
      by_contra hno
      rw [hoff.2 (by simpa using hno)] at hstate
      cases hstate
    have hauto : w.panel.manual = false := by
      by_contra hyes
      rw [hmanual.2 ⟨hpowered, by simpa using hyes⟩] at hstate
      cases hstate
    have hclosed : w.windowOpen = false := by
      by_contra hopen
      rcases hwindow.2 ⟨hpowered, hauto, by simpa using hopen⟩ with hsuspect | hpaused
      · rw [hsuspect] at hstate
        cases hstate
      · rw [hpaused] at hstate
        cases hstate
    exact ⟨hpowered, hauto, hclosed, hcooling hstate⟩
  · rcases h.ld3.1 hlit with ⟨hsuspect, -⟩ | ⟨hpaused, -⟩
    · exact hwindow.1 (.inl hsuspect)
    · exact hwindow.1 (.inr hpaused)

/-- **The lights tell the world and agree with the glass**: in every interleaving that has lost no post and kept
the presses (`PressesKept`), once nothing is under way the next pass of `ActuatorTask` drives pins that tell what
the buttons, the sensor and the reed said, and they are the lights of the state that is read off the glass. -/
theorem lamps_tell_the_world (acts : List SystemAction) (s : System)
    (h : exec systemNext systemInit acts = some s) (hkept : PressesKept (buttonActs acts)) (hlost : s.lost = [])
    (hq : Quiet s) (nowMs : UInt32) :
    let pins := outputPins (actuatorTaskIter s.actuator s.actuatorQ.head? nowMs).2.outputs
    LampsTell (worldOf acts s) pins ∧
      ∀ level displayMs, ∃ segments, glassAfter level (displayActs acts ++ [⟨none, displayMs⟩]) = some segments ∧
        (segments ≠ .clear → LightsOf (readState segments) nowMs pins) := by
  intro pins
  obtain ⟨-, hshows, hstate, -⟩ := quiet_shows h hkept hlost hq
  have hlights : LightsOf s.display.state nowMs pins := by
    rw [← hstate]
    have hcurrent : (actuatorTaskIter s.actuator s.actuatorQ.head? nowMs).2.message = s.actuator.current := by
      rw [hq.actuatorQ]
      rfl
    rw [← hcurrent]
    exact outputPins_lights _ _ _
  refine ⟨hlights.tell hshows, fun level displayMs => ?_⟩
  obtain ⟨elapsedMs, hglass⟩ := glass_shows_current h level displayMs
  refine ⟨_, hglass, fun hlit => ?_⟩
  rw [readState_renderState _ _ _ hlit]
  exact hlights

/-- The window is open: LD3 blinks, and it is on at 4100 ms. -/
theorem lamps_tell_the_world_open : ∃ s, exec systemNext systemInit switchedOnOpen = some s ∧
    let pins := outputPins (actuatorTaskIter s.actuator s.actuatorQ.head? 4100).2.outputs
    LampsTell (worldOf switchedOnOpen s) pins ∧ pins = ⟨false, false, true, true⟩ := by
  have hexec : exec systemNext systemInit switchedOnOpen = some _ := rfl
  refine ⟨_, hexec, (lamps_tell_the_world switchedOnOpen _ hexec onePress_kept rfl ?_ 4100).1, rfl⟩
  exact ⟨rfl, rfl, rfl, rfl, rfl, rfl⟩

end SmartAc
