import Mathlib.Data.Rat.Floor
import Mathlib.Tactic.Linarith
import SmartAc.ControlInv
import SmartAc.Dht22Read

/-!
# From the decoded temperature to `int8_t`

| here | there |
| --- | --- |
| `AcceptedFrame` | five bytes that pass the checksum test of `DhtRead` (`app_dht22.c:190-198`) |
| `roundOperand`  | what `RoundTemperature` casts to `int8_t` (`app_control.c:7-10`) |

The decoder hands on 15 bits of tenths with a sign, the controller rounds to 8 bits. `FitsInt8` is
what lies between the two: the frames whose temperature survives the cast.
-/

namespace SmartAc

open Machine

/-! ## Frames -/

/-- Five bytes whose checksum is right. -/
structure AcceptedFrame where
  b0 : UInt8
  b1 : UInt8
  b2 : UInt8
  b3 : UInt8
  b4 : UInt8
  checksum : b4.toNat = (b0.toNat + b1.toNat + b2.toNat + b3.toNat) % 256
deriving DecidableEq, Repr

namespace AcceptedFrame

def data (f : AcceptedFrame) : List UInt8 := [f.b0, f.b1, f.b2, f.b3, f.b4]

/-- What `DhtRead` writes for the frame. -/
def reading (f : AcceptedFrame) : DhtReading := decode f.data

/-- The sign bit of the temperature word. -/
def negative (f : AcceptedFrame) : Bool := (256 * f.b2.toNat + f.b3.toNat).testBit 15

/-- The magnitude of the temperature, in tenths of a degree. -/
def tenths (f : AcceptedFrame) : Nat := (256 * f.b2.toNat + f.b3.toNat) % 2 ^ 15

theorem temperature_eq (f : AcceptedFrame) : f.reading.temperatureC =
    if f.negative then -(f.tenths : Rat) / 10 else (f.tenths : Rat) / 10 := by
  unfold reading data
  rw [decode_eq]
  rfl

/-- At most 127.4 degrees, or at least -128.4. -/
def FitsInt8 (f : AcceptedFrame) : Prop := if f.negative then f.tenths ≤ 1284 else f.tenths ≤ 1274

end AcceptedFrame

/-- `DhtRead` returns nothing but the readings of accepted frames. -/
theorem dhtReading_accepted {env : DhtEnv} {r : DhtReading} (h : dhtReading env = some r) :
    ∃ f : AcceptedFrame, f.data = dhtData env ∧ f.reading = r := by
  unfold dhtReading at h
  split at h
  case isFalse => cases h
  case isTrue hok =>
    obtain ⟨-, -, hsum⟩ := (dhtFailure_none_iff env).1 hok
    obtain ⟨b0, b1, b2, b3, b4, hdata⟩ : ∃ b0 b1 b2 b3 b4, dhtData env = [b0, b1, b2, b3, b4] :=
      ⟨_, _, _, _, _, rfl⟩
    rw [hdata] at hsum h
    rw [hdata]
    exact ⟨⟨b0, b1, b2, b3, b4, (checksumOk_iff b0 b1 b2 b3 b4).1 hsum⟩, rfl, Option.some.inj h⟩

/-! ## Rounding -/

/-- What `RoundTemperature` converts: `value + 0.5f` or `value - 0.5f`. -/
def roundOperand (value : Rat) : Rat := if 0 ≤ value then value + 1 / 2 else value - 1 / 2

theorem roundTemperature_eq (value : Rat) :
    roundTemperature value = (truncToInt (roundOperand value)).bmod 256 := rfl

theorem truncToInt_of_nonneg {q : Rat} (h : 0 ≤ q) : truncToInt q = ⌊q⌋ := by
  rw [truncToInt, Rat.floor_def', Int.tdiv_eq_ediv_of_nonneg (Rat.num_nonneg.2 h)]

theorem truncToInt_neg (q : Rat) : truncToInt (-q) = -truncToInt q := by
  rw [truncToInt, truncToInt, Rat.neg_num, Rat.neg_den, Int.neg_tdiv]

/-- Rounding is odd: below 0 it mirrors what it does above. -/
theorem trunc_roundOperand_neg {value : Rat} (h : value < 0) :
    truncToInt (roundOperand value) = -⌊-value + 1 / 2⌋ := by
  have hflip : value - 1 / 2 = -(-value + 1 / 2) := by ring
  rw [roundOperand, if_neg (not_le.2 h), hflip, truncToInt_neg, truncToInt_of_nonneg (by linarith)]

theorem trunc_roundOperand_nonneg {value : Rat} (h : 0 ≤ value) :
    truncToInt (roundOperand value) = ⌊value + 1 / 2⌋ := by
  rw [roundOperand, if_pos h, truncToInt_of_nonneg (by linarith)]

/-- The rounded value is the nearest integer, up to one half. -/
theorem trunc_roundOperand_near (value : Rat) :
    |(truncToInt (roundOperand value) : Rat) - value| ≤ 1 / 2 := by
  rw [abs_le]
  by_cases h : 0 ≤ value
  · rw [trunc_roundOperand_nonneg h]
    have hle := Int.floor_le (value + 1 / 2)
    have hlt := Int.lt_floor_add_one (value + 1 / 2)
    constructor <;> linarith
  · rw [trunc_roundOperand_neg (not_le.1 h)]
    have hle := Int.floor_le (-value + 1 / 2)
    have hlt := Int.lt_floor_add_one (-value + 1 / 2)
    push_cast
    constructor <;> linarith

/-- The rounded value is an `int8_t` exactly between -128.5 and 127.5. -/
theorem trunc_roundOperand_range (value : Rat) :
    (-128 ≤ truncToInt (roundOperand value) ∧ truncToInt (roundOperand value) ≤ 127) ↔
      -257 / 2 < value ∧ value < 255 / 2 := by
  by_cases h : 0 ≤ value
  · rw [trunc_roundOperand_nonneg h]
    have hfloor : 0 ≤ ⌊value + 1 / 2⌋ := Int.floor_nonneg.2 (by linarith)
    have hupper : ⌊value + 1 / 2⌋ ≤ 127 ↔ value < 255 / 2 := by
      rw [← Int.lt_add_one_iff, Int.floor_lt]
      push_cast
      constructor <;> intro <;> linarith
    rw [hupper]
    constructor
    · rintro ⟨-, hlt⟩
      exact ⟨by linarith, hlt⟩
    · rintro ⟨-, hlt⟩
      exact ⟨by omega, hlt⟩
  · rw [not_le] at h
    rw [trunc_roundOperand_neg h]
    have hfloor : 0 ≤ ⌊-value + 1 / 2⌋ := Int.floor_nonneg.2 (by linarith)
    have hlower : ⌊-value + 1 / 2⌋ ≤ 128 ↔ -257 / 2 < value := by
      rw [← Int.lt_add_one_iff, Int.floor_lt]
      push_cast
      constructor <;> intro <;> linarith
    rw [← hlower]
    constructor
    · rintro ⟨hge, -⟩
      exact ⟨by omega, by linarith⟩
    · rintro ⟨hle, -⟩
      exact ⟨by omega, by omega⟩

/-- A value that fits is not changed by the cast. -/
theorem roundTemperature_of_fits {value : Rat} (hlow : -128 ≤ truncToInt (roundOperand value))
    (hhigh : truncToInt (roundOperand value) ≤ 127) :
    roundTemperature value = truncToInt (roundOperand value) := by
  rw [roundTemperature_eq, Int.bmod_eq_of_le (by omega) (by omega)]

/-- In tenths of a degree. -/
theorem AcceptedFrame.fits_iff (f : AcceptedFrame) : f.FitsInt8 ↔
    -257 / 2 < f.reading.temperatureC ∧ f.reading.temperatureC < 255 / 2 := by
  have hnonneg : (0 : Rat) ≤ f.tenths := Nat.cast_nonneg _
  rw [f.temperature_eq, AcceptedFrame.FitsInt8]
  cases f.negative with
  | true =>
    simp only [if_true]
    constructor
    · intro h
      have h' : (f.tenths : Rat) ≤ 1284 := by exact_mod_cast h
      constructor <;> linarith
    · rintro ⟨hlow, -⟩
      have h' : (f.tenths : Rat) < 1285 := by linarith
      exact Nat.lt_succ_iff.1 (by exact_mod_cast h')
  | false =>
    simp only [Bool.false_eq_true, if_false]
    constructor
    · intro h
      have h' : (f.tenths : Rat) ≤ 1274 := by exact_mod_cast h
      constructor <;> linarith
    · rintro ⟨-, hhigh⟩
      have h' : (f.tenths : Rat) < 1275 := by linarith
      exact Nat.lt_succ_iff.1 (by exact_mod_cast h')

/-! ## Runs of the controller on decoded frames -/

/-- A message of `SensorTask`: the latest frame if the latest read succeeded, stale values otherwise. -/
structure FrameMsg where
  frame : Option AcceptedFrame
  stale : DhtReading
  windowOpen : Bool
deriving DecidableEq, Repr

def FrameMsg.sensorMsg (m : FrameMsg) : SensorMsg where
  temperatureC := ((m.frame.map (·.reading)).getD m.stale).temperatureC
  humidityPct := ((m.frame.map (·.reading)).getD m.stale).humidityPct
  windowOpen := m.windowOpen
  valid := m.frame.isSome

/-- One `Control_Step` call, with or without a message. -/
structure FrameStep where
  message : Option FrameMsg
  userEvents : UInt32
  nowMs : UInt32
deriving DecidableEq, Repr

def FrameStep.input (x : FrameStep) : ControlInput :=
  ⟨x.message.map FrameMsg.sensorMsg, x.userEvents, x.nowMs⟩

def FrameStep.frame (x : FrameStep) : Option AcceptedFrame := x.message.bind (·.frame)

/-- The latest frame of the steps, oldest first. -/
def lastFrame (steps : List FrameStep) : Option AcceptedFrame := steps.reverse.findSome? (·.frame)

def frameCtx (steps : List FrameStep) : ControlContext := final step controlInit (steps.map FrameStep.input)

theorem validSample_frame (x : FrameStep) :
    (validSample x.input.sensor).map (·.temperatureC) = x.frame.map (·.reading.temperatureC) := by
  obtain ⟨message, userEvents, nowMs⟩ := x
  rcases message with _ | ⟨_ | f, stale, windowOpen⟩ <;> rfl

/-- The context holds the temperature of the latest frame. -/
theorem frameCtx_temperature (steps : List FrameStep) :
    (frameCtx steps).haveSensor = (lastFrame steps).isSome ∧
      (frameCtx steps).temperatureC = ((lastFrame steps).map (·.reading.temperatureC)).getD 0 := by
  induction steps using List.reverseRecOn with
  | nil => exact ⟨rfl, rfl⟩
  | append_singleton steps x ih =>
    obtain ⟨hsensor, htemperature⟩ := ih
    obtain ⟨-, -, -, hs, ht, -⟩ := step_frame (frameCtx steps) x.input
    have hstep : frameCtx (steps ++ [x]) = stepCtx (frameCtx steps) x.input := by
      simp [frameCtx, stepCtx]
    have hlast : lastFrame (steps ++ [x]) = x.frame.or (lastFrame steps) := by
      rw [lastFrame, List.reverse_append, List.reverse_singleton, List.singleton_append,
        List.findSome?_cons]
      cases x.frame <;> rfl
    have hvalid := validSample_frame x
    have hsome : (validSample x.input.sensor).isSome = x.frame.isSome := by
      have h := congrArg Option.isSome hvalid
      rwa [Option.isSome_map, Option.isSome_map] at h
    rw [hstep, hs, ht, hlast, hvalid, hsome, hsensor, htemperature]
    cases x.frame with
    | none => exact ⟨Bool.or_false _, rfl⟩
    | some f => exact ⟨Bool.or_true _, rfl⟩

/-- The conversion to `int8_t` is in range, and what is put out is within half a degree. -/
def ConvertsInRange (ctx : ControlContext) (output : ControlOutput) : Prop :=
  (ctx.haveSensor = true → -128 ≤ truncToInt (roundOperand ctx.temperatureC) ∧
    truncToInt (roundOperand ctx.temperatureC) ≤ 127) ∧
  |(output.currentTemperatureC : Rat) - ctx.temperatureC| ≤ 1 / 2

/-- **When the conversion is in range**: at every step of every run on accepted frames, if and only if the
latest frame fits. -/
theorem converts_in_range_iff (past : List FrameStep) (x : FrameStep) :
    ConvertsInRange (step (frameCtx past) x.input).1 (step (frameCtx past) x.input).2 ↔
      ∀ f, lastFrame (past ++ [x]) = some f → f.FitsInt8 := by
  have hctx : (step (frameCtx past) x.input).1 = frameCtx (past ++ [x]) := by simp [frameCtx]
  have hout : (step (frameCtx past) x.input).2 = controlOutput (frameCtx (past ++ [x])) := by
    rw [← hctx]
    rfl
  obtain ⟨hsensor, htemperature⟩ := frameCtx_temperature (past ++ [x])
  rw [hctx, hout]
  unfold ConvertsInRange controlOutput
  dsimp only
  rw [hsensor, htemperature]
  cases lastFrame (past ++ [x]) with
  | none =>
    constructor
    · intro _ f hf
      cases hf
    · intro _
      exact ⟨nofun, by decide +kernel⟩
  | some f =>
    have hfits := f.fits_iff
    rw [← trunc_roundOperand_range] at hfits
    simp only [Option.isSome_some, Option.map_some, Option.getD_some, if_true, true_implies,
      Option.some.injEq, forall_eq']
    rw [hfits]
    refine ⟨fun h => h.1, fun h => ⟨h, ?_⟩⟩
    rw [roundTemperature_of_fits h.1 h.2]
    exact trunc_roundOperand_near _

/-- Bytes 00 00 05 00 05: 128.0 degrees with the right checksum. -/
def tooWarm : AcceptedFrame := ⟨0x00, 0x00, 0x05, 0x00, 0x05, rfl⟩

theorem converts_out_of_range : ¬ ∀ (past : List FrameStep) (x : FrameStep),
    ConvertsInRange (step (frameCtx past) x.input).1 (step (frameCtx past) x.input).2 := by
  intro h
  have hrange := (h [] ⟨some ⟨some tooWarm, ⟨0, 0⟩, false⟩, userEvtPower, 1000⟩).1 (by decide +kernel)
  exact absurd hrange.2 (by decide +kernel)

end SmartAc
