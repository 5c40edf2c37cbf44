import Mathlib.Tactic.IntervalCases
import SmartAc.Lib.Machine
import SmartAc.Messages
import SmartAc.Tm1637Bus

/-!
# What the display shows: `app_tm1637.c`

| here | there |
| --- | --- |
| `tm1637DigitSegment`, `tm1637CharSegment` | `Tm1637DigitSegment`, `Tm1637CharSegment` (`app_tm1637.c:96-133`) |
| `tm1637PutTwoDigits`, `tm1637PutTemperature` | `Tm1637PutTwoDigits`, `Tm1637PutTemperature` (`app_tm1637.c:135-168`) |
| `tm1637RenderChars` … `tm1637RenderCodeAndSeconds` | the render helpers (`app_tm1637.c:170-204`) |
| `tm1637BuildSegments` | `Tm1637_BuildSegments` (`app_tm1637.c:206-269`) |

`DisplayTimer` is the two static variables. Helpers that write two positions return the pair. The
numbers shown are `int8_t` or `uint8_t` in the source, so its casts to `int16_t` change nothing. The
layouts share glyphs (`O` is `0`, `S` is `5`), so what identifies a rendering is where a glyph stands:
`readState` finds the state from three positions, `readTwoDigits` the number from two.
-/

namespace SmartAc

open Machine

/-! ## Glyphs -/

def tm1637DigitSegment (digit : Nat) : UInt8 :=
  [0x3F, 0x06, 0x5B, 0x4F, 0x66, 0x6D, 0x7D, 0x07, 0x7F, 0x6F].getD digit 0x00

def tm1637CharSegment (value : Char) : UInt8 :=
  match value with
  | '0' | 'O' => 0x3F
  | 'E' => 0x79
  | 'F' => 0x71
  | 'L' => 0x38
  | 'P' => 0x73
  | 'S' => 0x6D
  | 'A' => 0x77
  | 'U' => 0x3E
  | '-' => 0x40
  | ' ' => 0x00
  | _ => 0x00

/-- `Tm1637PutTwoDigits` (`app_tm1637.c:135`): `*hi` and `*lo`. -/
def tm1637PutTwoDigits (value : Int) (zeroPad : Bool) : UInt8 × UInt8 :=
  if value < 0 then
    let value := -value
    let value := if 9 < value then 9 else value
    (tm1637CharSegment '-', tm1637DigitSegment value.toNat)
  else
    let value := if 99 < value then 99 else value
    let hi :=
      if 10 ≤ value then tm1637DigitSegment (value / 10).toNat
      else if zeroPad then tm1637DigitSegment 0 else tm1637CharSegment ' '
    (hi, tm1637DigitSegment (value % 10).toNat)

/-- `Tm1637PutTemperature` (`app_tm1637.c:158`). -/
def tm1637PutTemperature (message : DisplayMsg) : UInt8 × UInt8 :=
  if !message.temperatureValid then (tm1637CharSegment '-', tm1637CharSegment '-')
  else tm1637PutTwoDigits message.currentTemperatureC false

/-! ## Layouts -/

def tm1637RenderChars (c0 c1 c2 c3 : Char) : Segments :=
  ⟨tm1637CharSegment c0, tm1637CharSegment c1, tm1637CharSegment c2, tm1637CharSegment c3⟩

def tm1637RenderTwoTwoNumbers (leftValue rightValue : Int) (separatorDp : Bool) : Segments :=
  let (s0, s1) := tm1637PutTwoDigits leftValue false
  let (s2, s3) := tm1637PutTwoDigits rightValue true
  ⟨s0, if separatorDp then s1 ||| 0x80 else s1, s2, s3⟩

def tm1637RenderTempAndLevel (message : DisplayMsg) (levelPrefix : Char) (level : Nat) : Segments :=
  let (s0, s1) := tm1637PutTemperature message
  ⟨s0, s1, tm1637CharSegment levelPrefix, tm1637DigitSegment (level % 10)⟩

def tm1637RenderCodeAndSeconds (c0 c1 : Char) (seconds : UInt8) : Segments :=
  let (s2, s3) := tm1637PutTwoDigits seconds.toNat true
  ⟨tm1637CharSegment c0, tm1637CharSegment c1, s2, s3⟩

/-! ## `Tm1637_BuildSegments` -/

/-- `last_display_state` and `display_state_since_ms`. -/
structure DisplayTimer where
  lastDisplayState : AcState
  displayStateSinceMs : UInt32
deriving DecidableEq, Repr

def displayTimerInit : DisplayTimer := ⟨.off, 0⟩

/-- The static variables after a call. -/
def displayTimerNext (timer : DisplayTimer) (message : DisplayMsg) (nowMs : UInt32) : DisplayTimer :=
  if message.state ≠ timer.lastDisplayState then ⟨message.state, nowMs⟩ else timer

/-- `if (seconds > 99U) { seconds = 99U; }`. -/
def capSeconds (seconds : UInt32) : UInt32 := if 99 < seconds then 99 else seconds

/-- The seconds shown in `AC_STATE_WINDOW_SUSPECT`. -/
def suspectSeconds (elapsedMs : UInt32) : UInt32 := capSeconds (elapsedMs / 1000)

/-- The seconds shown in `AC_STATE_RECOVERY_WAIT`. -/
def recoverySeconds (elapsedMs : UInt32) : UInt32 :=
  let remainingMs := if appRecoveryWaitMs ≤ elapsedMs then 0 else appRecoveryWaitMs - elapsedMs
  capSeconds ((remainingMs + 999) / 1000)

/-- The `switch` of `Tm1637_BuildSegments` (`app_tm1637.c:222-268`). -/
def renderState (message : DisplayMsg) (nowMs elapsedMs : UInt32) : Segments :=
  match message.state with
  | .off => if nowMs % 1000 < 500 then tm1637RenderChars 'O' 'F' 'F' ' ' else .clear
  | .idle =>
    if message.temperatureValid then
      tm1637RenderTwoTwoNumbers message.currentTemperatureC message.setpointC true
    else tm1637RenderChars '-' '-' '-' '-'
  | .cooling => tm1637RenderTempAndLevel message 'L' message.coolingLevel
  | .windowSuspect => tm1637RenderCodeAndSeconds 'O' 'P' (suspectSeconds elapsedMs).toUInt8
  | .acPaused => tm1637RenderChars 'P' 'A' 'U' 'S'
  | .recoveryWait => tm1637RenderCodeAndSeconds 'E' 'S' (recoverySeconds elapsedMs).toUInt8
  | .manualOverride => tm1637RenderTempAndLevel message 'A' message.coolingLevel

/-- `Tm1637_BuildSegments` (`app_tm1637.c:206`). -/
def tm1637BuildSegments (timer : DisplayTimer) (message : DisplayMsg) (nowMs : UInt32) :
    DisplayTimer × Segments :=
  let timer := displayTimerNext timer message nowMs
  let elapsedMs := nowMs - timer.displayStateSinceMs
  (timer, renderState message nowMs elapsedMs)

/-- One call: the message and `now_ms`. -/
structure DisplayCall where
  message : DisplayMsg
  nowMs : UInt32
deriving DecidableEq, Repr

def displayStep (timer : DisplayTimer) (call : DisplayCall) : DisplayTimer × Segments :=
  tm1637BuildSegments timer call.message call.nowMs

/-- What `call` shows after the calls `past`. -/
def shown (past : List DisplayCall) (call : DisplayCall) : Segments :=
  (displayStep (final displayStep displayTimerInit past) call).2

/-! ## Reading it back -/

/-- What two positions can hold of a value: `-9` to `99`. -/
def saturate (value : Int) : Int := max (-9) (min value 99)

def readDigit (glyph : UInt8) : Option Nat := (List.range 10).find? (tm1637DigitSegment · == glyph)

/-- The number that two glyphs stand for, blank or zero padded or with a minus sign. -/
def readTwoDigits (glyphs : UInt8 × UInt8) : Option Int :=
  if glyphs.1 = 0x40 then (readDigit glyphs.2).map fun d => -(d : Int)
  else if glyphs.1 = 0x00 then (readDigit glyphs.2).map fun d => (d : Int)
  else (readDigit glyphs.1).bind fun t => (readDigit glyphs.2).map fun d => 10 * (t : Int) + d

/-- The state that a rendering stands for. -/
def readState (segments : Segments) : AcState :=
  if segments.s1 &&& 0x80 ≠ 0 ∨ segments.s2 = tm1637CharSegment '-' then .idle
  else if segments.s2 = tm1637CharSegment 'L' then .cooling
  else if segments.s2 = tm1637CharSegment 'A' then .manualOverride
  else if segments.s2 = tm1637CharSegment 'F' then .off
  else if segments.s2 = tm1637CharSegment 'U' then .acPaused
  else if segments.s0 = tm1637CharSegment 'E' then .recoveryWait
  else .windowSuspect

theorem saturate_bounds (value : Int) : -9 ≤ saturate value ∧ saturate value ≤ 99 := by
  unfold saturate
  omega

/-- Only the saturated value is shown. -/
theorem putTwoDigits_saturate (value : Int) (zeroPad : Bool) :
    tm1637PutTwoDigits value zeroPad = tm1637PutTwoDigits (saturate value) zeroPad := by
  unfold tm1637PutTwoDigits
  by_cases hneg : value < 0
  · have hneg' : saturate value < 0 := by unfold saturate; omega
    have hcap : (if 9 < -value then (9 : Int) else -value) =
        if 9 < -saturate value then 9 else -saturate value := by
      unfold saturate
      split_ifs <;> omega
    rw [if_pos hneg, if_pos hneg']
    dsimp only
    rw [hcap]
  · have hneg' : ¬ saturate value < 0 := by unfold saturate; omega
    have hcap : (if 99 < value then (99 : Int) else value) =
        if 99 < saturate value then 99 else saturate value := by
      unfold saturate
      split_ifs <;> omega
    rw [if_neg hneg, if_neg hneg']
    dsimp only
    rw [hcap]

/-- The dot segment is free in `glyph`: it can be added and taken off. -/
structure DotFree (glyph : UInt8) : Prop where
  free : glyph &&& 0x80 = 0
  added : (glyph ||| 0x80) &&& 0x80 ≠ 0
  removed : (glyph ||| 0x80) &&& 0x7F = glyph

instance (glyph : UInt8) : Decidable (DotFree glyph) :=
  decidable_of_iff (glyph &&& 0x80 = 0 ∧ (glyph ||| 0x80) &&& 0x80 ≠ 0 ∧ (glyph ||| 0x80) &&& 0x7F = glyph)
    ⟨fun h => ⟨h.1, h.2.1, h.2.2⟩, fun h => ⟨h.free, h.added, h.removed⟩⟩

/-- What two positions show can be read back, and the dot is free in the right one. -/
theorem putTwoDigits_spec (value : Int) (zeroPad : Bool) :
    readTwoDigits (tm1637PutTwoDigits value zeroPad) = some (saturate value) ∧
      DotFree (tm1637PutTwoDigits value zeroPad).2 := by
  have hall : ∀ n < 109, ∀ pad,
      readTwoDigits (tm1637PutTwoDigits ((n : Nat) - 9 : Int) pad) = some ((n : Nat) - 9 : Int) ∧
        DotFree (tm1637PutTwoDigits ((n : Nat) - 9 : Int) pad).2 := by decide +kernel
  obtain ⟨hlo, hhi⟩ := saturate_bounds value
  obtain ⟨n, hn⟩ := Int.eq_ofNat_of_zero_le (show 0 ≤ saturate value + 9 by omega)
  have hvalue : saturate value = (n : Int) - 9 := by omega
  rw [putTwoDigits_saturate, hvalue]
  exact hall n (by omega) zeroPad

/-- A zero padded count of seconds begins with a digit. -/
theorem putTwoDigits_seconds (seconds : UInt8) :
    ∃ digit < 10, (tm1637PutTwoDigits seconds.toNat true).1 = tm1637DigitSegment digit := by
  have hpos : ¬ ((seconds.toNat : Int) < 0) := by omega
  unfold tm1637PutTwoDigits
  rw [if_neg hpos]
  dsimp only
  generalize hcap : (if 99 < (seconds.toNat : Int) then (99 : Int) else seconds.toNat) = value
  have hle : value ≤ 99 := by split_ifs at hcap <;> omega
  by_cases hten : 10 ≤ value
  · rw [if_pos hten]
    exact ⟨_, by omega, rfl⟩
  · rw [if_neg hten, if_pos rfl]
    exact ⟨0, by omega, rfl⟩

/-- A temperature reads back as itself, or as no number at all when there was none. -/
theorem putTemperature_spec (message : DisplayMsg) :
    readTwoDigits (tm1637PutTemperature message) =
        (if message.temperatureValid then some (saturate message.currentTemperatureC) else none) ∧
      DotFree (tm1637PutTemperature message).2 := by
  unfold tm1637PutTemperature
  by_cases hvalid : message.temperatureValid = true
  · rw [hvalid]
    exact putTwoDigits_spec _ _
  · rw [Bool.not_eq_true] at hvalid
    rw [hvalid]
    exact (by decide : readTwoDigits (tm1637CharSegment '-', tm1637CharSegment '-') = none ∧
      DotFree (tm1637CharSegment '-'))

/-- The temperature positions show dashes exactly when there is no temperature. -/
theorem putTemperature_dashes_iff (message : DisplayMsg) :
    tm1637PutTemperature message = (tm1637CharSegment '-', tm1637CharSegment '-') ↔
      message.temperatureValid = false := by
  constructor
  · intro h
    have hread := (putTemperature_spec message).1
    have hdashes : readTwoDigits (tm1637CharSegment '-', tm1637CharSegment '-') = none := by decide
    by_contra hvalid
    rw [Bool.not_eq_false] at hvalid
    rw [h, hdashes, if_pos hvalid] at hread
    cases hread
  · intro h
    rw [tm1637PutTemperature, h]
    rfl

theorem readDigit_digitSegment : ∀ digit < 10, readDigit (tm1637DigitSegment digit) = some digit := by
  decide

/-! ## The state -/

/-- A digit is none of the letters that stand in the third position. -/
theorem digit_not_letter : ∀ digit < 10, tm1637DigitSegment digit ≠ tm1637CharSegment '-' ∧
    tm1637DigitSegment digit ≠ tm1637CharSegment 'L' ∧
    tm1637DigitSegment digit ≠ tm1637CharSegment 'A' ∧
    tm1637DigitSegment digit ≠ tm1637CharSegment 'F' ∧
    tm1637DigitSegment digit ≠ tm1637CharSegment 'U' := by
  decide

theorem readState_tempAndLevel (message : DisplayMsg) (level : Nat) :
    readState (tm1637RenderTempAndLevel message 'L' level) = .cooling ∧
      readState (tm1637RenderTempAndLevel message 'A' level) = .manualOverride := by
  have hdot := (putTemperature_spec message).2.free
  have hs2 : ∀ c, (tm1637RenderTempAndLevel message c level).s2 = tm1637CharSegment c := fun _ => rfl
  unfold readState
  rw [hs2, hs2]
  constructor
  · rw [if_neg, if_pos rfl]
    rintro (h | h)
    · exact h hdot
    · exact absurd h (by decide)
  · rw [if_neg, if_neg (by decide), if_pos rfl]
    rintro (h | h)
    · exact h hdot
    · exact absurd h (by decide)

theorem readState_codeAndSeconds (seconds : UInt8) :
    readState (tm1637RenderCodeAndSeconds 'O' 'P' seconds) = .windowSuspect ∧
      readState (tm1637RenderCodeAndSeconds 'E' 'S' seconds) = .recoveryWait := by
  obtain ⟨digit, hlt, hdigit⟩ := putTwoDigits_seconds seconds
  obtain ⟨hdash, hl, ha, hf, hu⟩ := digit_not_letter digit hlt
  have hs2 : ∀ c0 c1, (tm1637RenderCodeAndSeconds c0 c1 seconds).s2 = tm1637DigitSegment digit :=
    fun _ _ => hdigit
  have hs1 : ∀ c0 c1, (tm1637RenderCodeAndSeconds c0 c1 seconds).s1 = tm1637CharSegment c1 :=
    fun _ _ => rfl
  have hs0 : ∀ c0 c1, (tm1637RenderCodeAndSeconds c0 c1 seconds).s0 = tm1637CharSegment c0 :=
    fun _ _ => rfl
  have hnum : ∀ c, c = 'P' ∨ c = 'S' → ¬ (tm1637CharSegment c &&& 0x80 ≠ 0 ∨
      tm1637DigitSegment digit = tm1637CharSegment '-') := by
    rintro c (rfl | rfl) (h | h)
    · exact h (by decide)
    · exact hdash h
    · exact h (by decide)
    · exact hdash h
  constructor
  · rw [readState, hs2, hs1, hs0, if_neg (hnum _ (.inl rfl)), if_neg hl, if_neg ha, if_neg hf, if_neg hu,
      if_neg (by decide)]
  · rw [readState, hs2, hs1, hs0, if_neg (hnum _ (.inr rfl)), if_neg hl, if_neg ha, if_neg hf, if_neg hu,
      if_pos rfl]

/-- Every rendering but the blank one tells its state. -/
theorem readState_renderState (message : DisplayMsg) (nowMs elapsedMs : UInt32)
    (hlit : renderState message nowMs elapsedMs ≠ .clear) :
    readState (renderState message nowMs elapsedMs) = message.state := by
  unfold renderState at hlit ⊢
  cases hstate : message.state <;> rw [hstate] at hlit <;> dsimp only at hlit ⊢
  case off =>
    by_cases hfirst : nowMs % 1000 < 500
    · rw [if_pos hfirst]; decide
    · exact absurd (if_neg hfirst) hlit
  case idle =>
    by_cases hvalid : message.temperatureValid = true
    · rw [if_pos hvalid]
      exact if_pos (.inl (putTwoDigits_spec message.currentTemperatureC false).2.added)
    · rw [if_neg hvalid]; decide
  case cooling => exact (readState_tempAndLevel message _).1
  case windowSuspect => exact (readState_codeAndSeconds _).1
  case acPaused => decide
  case recoveryWait => exact (readState_codeAndSeconds _).2
  case manualOverride => exact (readState_tempAndLevel message _).2

/-- The display is blank only in the second half of a second of `AC_STATE_OFF`. -/
theorem renderState_clear_iff (message : DisplayMsg) (nowMs elapsedMs : UInt32) :
    renderState message nowMs elapsedMs = .clear ↔ message.state = .off ∧ 500 ≤ nowMs % 1000 := by
  unfold renderState
  cases hstate : message.state <;> dsimp only
  case off =>
    by_cases hfirst : nowMs % 1000 < 500
    · rw [if_pos hfirst]
      exact ⟨fun h => absurd h (by decide), fun h => absurd hfirst (UInt32.not_lt.2 h.2)⟩
    · rw [if_neg hfirst]
      exact ⟨fun _ => ⟨rfl, UInt32.not_lt.1 hfirst⟩, fun _ => rfl⟩
  case idle =>
    refine ⟨fun h => ?_, fun h => absurd h.1 (by decide)⟩
    by_cases hvalid : message.temperatureValid = true
    · rw [if_pos hvalid] at h
      have hs1 := congrArg (·.s1 &&& 0x80) h
      exact absurd hs1 (putTwoDigits_spec message.currentTemperatureC false).2.added
    · rw [if_neg hvalid] at h
      exact absurd h (by decide)
  -- in the other layouts one of the outer positions is a letter
  case cooling =>
    exact ⟨fun h => absurd (congrArg (·.s2) h) (by decide : tm1637CharSegment 'L' ≠ 0),
      fun h => absurd h.1 (by decide)⟩
  case windowSuspect =>
    exact ⟨fun h => absurd (congrArg (·.s0) h) (by decide : tm1637CharSegment 'O' ≠ 0),
      fun h => absurd h.1 (by decide)⟩
  case acPaused => exact ⟨fun h => absurd h (by decide), fun h => absurd h.1 (by decide)⟩
  case recoveryWait =>
    exact ⟨fun h => absurd (congrArg (·.s0) h) (by decide : tm1637CharSegment 'E' ≠ 0),
      fun h => absurd h.1 (by decide)⟩
  case manualOverride =>
    exact ⟨fun h => absurd (congrArg (·.s2) h) (by decide : tm1637CharSegment 'A' ≠ 0),
      fun h => absurd h.1 (by decide)⟩

/-! ## The values -/

/-- The dot stands for a valid temperature in `AC_STATE_IDLE`. -/
theorem renderState_idle_valid {message : DisplayMsg} (hidle : message.state = .idle)
    (nowMs elapsedMs : UInt32) : message.temperatureValid = true ↔
      (renderState message nowMs elapsedMs).s1 &&& 0x80 ≠ 0 := by
  unfold renderState
  rw [hidle]
  dsimp only
  by_cases hvalid : message.temperatureValid = true
  · rw [if_pos hvalid]
    exact ⟨fun _ => (putTwoDigits_spec message.currentTemperatureC false).2.added, fun _ => hvalid⟩
  · rw [if_neg hvalid]
    exact ⟨fun h => absurd h hvalid, fun h => absurd h (by decide)⟩

theorem renderState_idle_numbers {message : DisplayMsg} (hidle : message.state = .idle)
    (hvalid : message.temperatureValid = true) (nowMs elapsedMs : UInt32) :
    readTwoDigits ((renderState message nowMs elapsedMs).s0,
        (renderState message nowMs elapsedMs).s1 &&& 0x7F) =
        some (saturate message.currentTemperatureC) ∧
      readTwoDigits ((renderState message nowMs elapsedMs).s2,
        (renderState message nowMs elapsedMs).s3) = some (saturate message.setpointC) := by
  have hrender : renderState message nowMs elapsedMs =
      tm1637RenderTwoTwoNumbers message.currentTemperatureC message.setpointC true := by
    unfold renderState
    rw [hidle]
    exact if_pos hvalid
  obtain ⟨hleft, hdot⟩ := putTwoDigits_spec message.currentTemperatureC false
  rw [hrender]
  constructor
  · have hs1 : (tm1637RenderTwoTwoNumbers message.currentTemperatureC message.setpointC true).s1 =
        (tm1637PutTwoDigits message.currentTemperatureC false).2 ||| 0x80 := rfl
    rw [hs1, hdot.removed]
    exact hleft
  · exact (putTwoDigits_spec message.setpointC true).1

theorem renderState_level {message : DisplayMsg}
    (hstate : message.state = .cooling ∨ message.state = .manualOverride)
    (hlevel : message.coolingLevel ≤ 9) (nowMs elapsedMs : UInt32) :
    readTwoDigits ((renderState message nowMs elapsedMs).s0, (renderState message nowMs elapsedMs).s1) =
        (if message.temperatureValid then some (saturate message.currentTemperatureC) else none) ∧
      readDigit (renderState message nowMs elapsedMs).s3 = some message.coolingLevel := by
  obtain ⟨c, hrender⟩ : ∃ c, renderState message nowMs elapsedMs =
      tm1637RenderTempAndLevel message c message.coolingLevel := by
    unfold renderState
    rcases hstate with h | h
    · exact ⟨'L', by rw [h]⟩
    · exact ⟨'A', by rw [h]⟩
  have hmod : message.coolingLevel % 10 = message.coolingLevel := Nat.mod_eq_of_lt (by omega)
  rw [hrender]
  refine ⟨(putTemperature_spec message).1, ?_⟩
  unfold tm1637RenderTempAndLevel
  rw [hmod]
  exact readDigit_digitSegment _ (by omega)

/-- What the same lit display says about two messages. -/
structure SameReading (m m' : DisplayMsg) : Prop where
  state : m.state = m'.state
  idle : m.state = .idle → m.temperatureValid = m'.temperatureValid ∧
    (m.temperatureValid = true → saturate m.currentTemperatureC = saturate m'.currentTemperatureC ∧
      saturate m.setpointC = saturate m'.setpointC)
  level : m.state = .cooling ∨ m.state = .manualOverride →
    m.temperatureValid = m'.temperatureValid ∧ m.coolingLevel = m'.coolingLevel ∧
      (m.temperatureValid = true → saturate m.currentTemperatureC = saturate m'.currentTemperatureC)

theorem renderState_sameReading {m m' : DisplayMsg} {nowMs nowMs' elapsedMs elapsedMs' : UInt32}
    (hlevel : m.coolingLevel ≤ 9) (hlevel' : m'.coolingLevel ≤ 9)
    (hsame : renderState m nowMs elapsedMs = renderState m' nowMs' elapsedMs')
    (hlit : renderState m nowMs elapsedMs ≠ .clear) : SameReading m m' := by
  have hstate : m.state = m'.state := by
    rw [← readState_renderState m nowMs elapsedMs hlit, hsame]
    exact readState_renderState m' nowMs' elapsedMs' (hsame ▸ hlit)
  refine ⟨hstate, fun hidle => ?_, fun hcool => ?_⟩
  · have hidle' : m'.state = .idle := hstate ▸ hidle
    have hvalid : m.temperatureValid = true ↔ m'.temperatureValid = true := by
      rw [renderState_idle_valid hidle nowMs elapsedMs, hsame,
        ← renderState_idle_valid hidle' nowMs' elapsedMs']
    refine ⟨Bool.eq_iff_iff.2 hvalid, fun hv => ?_⟩
    obtain ⟨htemp, hset⟩ := renderState_idle_numbers hidle hv nowMs elapsedMs
    obtain ⟨htemp', hset'⟩ := renderState_idle_numbers hidle' (hvalid.1 hv) nowMs' elapsedMs'
    rw [hsame] at htemp hset
    exact ⟨Option.some.inj (htemp.symm.trans htemp'), Option.some.inj (hset.symm.trans hset')⟩
  · obtain ⟨htemp, hdigit⟩ := renderState_level hcool hlevel nowMs elapsedMs
    obtain ⟨htemp', hdigit'⟩ := renderState_level (hstate ▸ hcool) hlevel' nowMs' elapsedMs'
    rw [hsame] at htemp hdigit
    have hread := htemp.symm.trans htemp'
    refine ⟨?_, Option.some.inj (hdigit.symm.trans hdigit'), fun hv => ?_⟩
    · cases hv : m.temperatureValid <;> cases hv' : m'.temperatureValid <;> simp_all
    · cases hv' : m'.temperatureValid <;> simp_all

/-- **The display identifies the state and its values**: two calls, each after any calls before it,
that show the same lit segments agree on the state and, up to saturation at two positions, on the
numbers of that state. Only `AC_STATE_OFF` is ever blank. -/
theorem display_identifies (past past' : List DisplayCall) (call call' : DisplayCall)
    (hlevel : call.message.coolingLevel ≤ 9) (hlevel' : call'.message.coolingLevel ≤ 9) :
    (shown past call = shown past' call' → shown past call ≠ .clear →
      SameReading call.message call'.message) ∧
    (shown past call = .clear ↔ call.message.state = .off ∧ 500 ≤ call.nowMs % 1000) :=
  ⟨renderState_sameReading hlevel hlevel', renderState_clear_iff call.message call.nowMs _⟩

/-- `99` and `127` degrees show the same. -/
theorem display_identifies_saturated :
    (shown [] ⟨⟨.cooling, 3, 127, 24, true⟩, 0⟩ =
        shown [⟨⟨.idle, 0, 20, 24, true⟩, 5⟩] ⟨⟨.cooling, 3, 99, 30, true⟩, 7⟩ →
      shown [] ⟨⟨.cooling, 3, 127, 24, true⟩, 0⟩ ≠ .clear →
      SameReading ⟨.cooling, 3, 127, 24, true⟩ ⟨.cooling, 3, 99, 30, true⟩) ∧
    (shown [] ⟨⟨.cooling, 3, 127, 24, true⟩, 0⟩ = .clear ↔
      (AcState.cooling = .off ∧ (500 : UInt32) ≤ 0 % 1000)) :=
  display_identifies [] [⟨⟨.idle, 0, 20, 24, true⟩, 5⟩] ⟨⟨.cooling, 3, 127, 24, true⟩, 0⟩
    ⟨⟨.cooling, 3, 99, 30, true⟩, 7⟩ (by decide) (by decide)

end SmartAc
