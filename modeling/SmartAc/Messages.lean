import Mathlib.Data.Rat.Defs
import Mathlib.Tactic.Common

/-!
# Shared constants and messages: `app_config.h`, `app_messages.h`

| here | there |
| --- | --- |
| `app…` constants                | the `APP_…` macros the modelled functions read (`app_config.h:4-76`) |
| `userEvt…`, `hasEvent`          | `USER_EVT_…` bits and the test `(events & bit) != 0` (`app_messages.h:7-11`) |
| `AcState`                       | `AcState` (`app_messages.h:13-21`) |
| `SensorMsg`, `ControlOutput`, `DisplayMsg`, `ActuatorMsg` | the structs of the same names (`app_messages.h:23-50`) |

`float` fields are exact rationals. An `int8_t` or `uint8_t` field is an `Int` or a `Nat` where the
code keeps it in range by a guard; a `uint32_t` is a `UInt32`, with its wrap.
-/

namespace SmartAc

def appSetpointDefaultC : Int := 24
def appSetpointMinC : Int := 16
def appSetpointMaxC : Int := 30
def appWindowPauseMs : UInt32 := 5000
def appRecoveryWaitMs : UInt32 := 5000
def appHumidityRisePct : Rat := 10
def appDebounceSamples : Nat := 5
def appLongPressMs : UInt32 := 1500
def appBuzzerClickMs : UInt32 := 120
def appQueueDepth : Nat := 8
def appQueueSlotCount : Nat := appQueueDepth + 2

/-! ## User event bits -/

def userEvtSetpointUp : UInt32 := 1
def userEvtSetpointDown : UInt32 := 2
def userEvtManual : UInt32 := 4
def userEvtPower : UInt32 := 8
def userEvtBuzzerClick : UInt32 := 16

/-- `(user_events & bit) != 0U`. -/
def hasEvent (userEvents bit : UInt32) : Bool := userEvents &&& bit != 0

@[simp] theorem hasEvent_zero (bit : UInt32) : hasEvent 0 bit = false := by
  simp [hasEvent]

theorem or_and_distrib (events more mask : UInt32) :
    (events ||| more) &&& mask = (events &&& mask) ||| (more &&& mask) := by
  apply UInt32.toBitVec_inj.1
  ext i
  simp [Bool.and_or_distrib_right]

theorem hasEvent_or (events more bit : UInt32) :
    hasEvent (events ||| more) bit = (hasEvent events bit || hasEvent more bit) := by
  unfold hasEvent
  rw [or_and_distrib, Bool.eq_iff_iff]
  simp only [bne_iff_ne, ne_eq, Bool.or_eq_true, UInt32.or_eq_zero_iff]
  tauto

/-! ## Messages -/

inductive AcState where
  | off | idle | cooling | windowSuspect | acPaused | recoveryWait | manualOverride
deriving DecidableEq, Repr

structure SensorMsg where
  temperatureC : Rat
  humidityPct : Rat
  windowOpen : Bool
  valid : Bool
deriving DecidableEq, Repr

structure ControlOutput where
  state : AcState
  coolingLevel : Nat
  currentTemperatureC : Int
  setpointC : Int
  temperatureValid : Bool
deriving DecidableEq, Repr

/-- The same five fields as `ControlOutput`, as a queue message. -/
structure DisplayMsg where
  state : AcState
  coolingLevel : Nat
  currentTemperatureC : Int
  setpointC : Int
  temperatureValid : Bool
deriving DecidableEq, Repr

structure ActuatorMsg where
  state : AcState
  coolingLevel : Nat
  buzzerClick : Bool
deriving DecidableEq, Repr

end SmartAc
