import Mathlib.Data.Rat.Defs
import Mathlib.Tactic.Common

/-!
# The DHT22 driver: `app_dht22.c`, timer helpers of `app_board.c`

| here | there |
| --- | --- |
| `app…` constants | the macros of the driver (`app_config.h:77-92`) |
| `boardDhtRead`, `boardUsTimerCounter`, `boardTimerElapsedUs`, `boardDelayUs` | the helpers of the same names (`app_board.c:96-116,167-170`) |
| `waitFor`, `waitWhile` | the two polling loops of `DhtMeasurePulse` (`app_dht22.c:73-87`) |
| `dhtMeasurePulse`      | `DhtMeasurePulse` (`app_dht22.c:66-90`) |
| `readBits`, `readBytes` | the bit and the byte loop (`app_dht22.c:151-175`) |
| `readFrame`            | the `do { … } while (false)` block (`app_dht22.c:136-179`) |
| `dhtRead`              | `DhtRead` (`app_dht22.c:92-226`) |

`DhtEnv` is the hardware as the driver sees it: whether the timer was marked ready, what the line
shows at its `k`-th poll, and what the timer shows at its `j`-th reading, made after `k` polls. The
loops recurse on what is left of their guard. The decoded values are exact rationals, and the results
written through the two pointers are an `Option`.
-/

namespace SmartAc

def appDht22StartUs : UInt32 := 1200
def appDht22PullUs : UInt32 := 30
def appDhtBitOneThresholdUs : UInt16 := 50
def appDhtPulseTimeoutUs : UInt32 := 2000
def appDhtReadTimeoutUs : UInt32 := 20000
@[irreducible] def appDhtLoopGuard : Nat := 20000
def appBusyWaitGuard : Nat := 1000000

theorem appDhtLoopGuard_pos : 0 < appDhtLoopGuard := by
  unfold appDhtLoopGuard
  decide

/-- `DhtStage` (`app_dht22.c:10-20`). -/
inductive DhtStage where
  | idle | enter | startPulse | criticalEnter | respLow | respHigh | dataDone | criticalExit | done
deriving DecidableEq, Repr

/-- `DhtErrorCode` (`app_dht22.c:22-30`). -/
inductive DhtErrorCode where
  | none | timerNotReady | responseLowTimeout | responseHighTimeout | dataLowTimeout | dataHighTimeout
  | checksum
deriving DecidableEq, Repr

/-- The hardware; a level is `true` when the line is high. -/
structure DhtEnv where
  timerReady : Bool
  line : Nat → Bool
  timer : Nat → Nat → UInt32

/-- How many polls and timer readings were made. -/
structure Counts where
  polls : Nat
  reads : Nat
deriving DecidableEq, Repr

section
variable (env : DhtEnv)

def boardDhtRead (c : Counts) : Bool × Counts := (env.line c.polls, { c with polls := c.polls + 1 })

def boardUsTimerCounter (c : Counts) : UInt32 × Counts :=
  (env.timer c.polls c.reads, { c with reads := c.reads + 1 })

def boardTimerElapsedUs (startUs : UInt32) (c : Counts) : UInt32 × Counts :=
  let (now, c) := boardUsTimerCounter env c
  (now - startUs, c)

/-- The loop of `Board_DelayUs`, with `guard` turns left. -/
def delayLoop (startUs microseconds : UInt32) : Nat → Counts → Counts
  | 0, c => c
  | guard + 1, c =>
    let (elapsed, c) := boardTimerElapsedUs env startUs c
    if elapsed < microseconds then delayLoop startUs microseconds guard c else c

theorem delayLoop_succ (startUs microseconds : UInt32) (guard : Nat) (c : Counts) :
    delayLoop env startUs microseconds (guard + 1) c =
      if env.timer c.polls c.reads - startUs < microseconds then
        delayLoop env startUs microseconds guard ⟨c.polls, c.reads + 1⟩
      else ⟨c.polls, c.reads + 1⟩ := rfl

/-- `Board_DelayUs` (`app_board.c:106`). -/
def boardDelayUs (microseconds : UInt32) (c : Counts) : Counts :=
  let (startUs, c) := boardUsTimerCounter env c
  delayLoop env startUs microseconds appBusyWaitGuard c

/-! ## One pulse -/

/-- `while (Board_DhtRead() != level)`, with `guard` turns left. -/
def waitFor (level : Bool) (deadlineStartUs : UInt32) : Nat → Counts → Bool × Counts
  | 0, c => (false, c)
  | guard + 1, c =>
    let (seen, c) := boardDhtRead env c
    if seen = level then (true, c)
    else
      let (sinceStart, c) := boardTimerElapsedUs env deadlineStartUs c
      if appDhtReadTimeoutUs ≤ sinceStart then (false, c)
      else waitFor level deadlineStartUs guard c

/-- `while (Board_DhtRead() == level)`, with `guard` turns left. -/
def waitWhile (level : Bool) (deadlineStartUs pulseStartUs : UInt32) : Nat → Counts → Bool × Counts
  | 0, c => (false, c)
  | guard + 1, c =>
    let (seen, c) := boardDhtRead env c
    if seen ≠ level then (true, c)
    else
      let (sinceStart, c) := boardTimerElapsedUs env deadlineStartUs c
      if appDhtReadTimeoutUs ≤ sinceStart then (false, c)
      else
        let (sincePulse, c) := boardTimerElapsedUs env pulseStartUs c
        if appDhtPulseTimeoutUs ≤ sincePulse then (false, c)
        else waitWhile level deadlineStartUs pulseStartUs guard c

theorem waitFor_succ (level : Bool) (deadlineStartUs : UInt32) (guard : Nat) (c : Counts) :
    waitFor env level deadlineStartUs (guard + 1) c =
      if env.line c.polls = level then (true, ⟨c.polls + 1, c.reads⟩)
      else if appDhtReadTimeoutUs ≤ env.timer (c.polls + 1) c.reads - deadlineStartUs then
        (false, ⟨c.polls + 1, c.reads + 1⟩)
      else waitFor env level deadlineStartUs guard ⟨c.polls + 1, c.reads + 1⟩ := rfl

theorem waitWhile_succ (level : Bool) (deadlineStartUs pulseStartUs : UInt32) (guard : Nat) (c : Counts) :
    waitWhile env level deadlineStartUs pulseStartUs (guard + 1) c =
      if env.line c.polls ≠ level then (true, ⟨c.polls + 1, c.reads⟩)
      else if appDhtReadTimeoutUs ≤ env.timer (c.polls + 1) c.reads - deadlineStartUs then
        (false, ⟨c.polls + 1, c.reads + 1⟩)
      else if appDhtPulseTimeoutUs ≤ env.timer (c.polls + 1) (c.reads + 1) - pulseStartUs then
        (false, ⟨c.polls + 1, c.reads + 2⟩)
      else waitWhile env level deadlineStartUs pulseStartUs guard ⟨c.polls + 1, c.reads + 2⟩ := rfl

/-- The body of `DhtMeasurePulse`, each loop with `guard` turns. -/
def measurePulse (guard : Nat) (level : Bool) (deadlineStartUs : UInt32) (c : Counts) :
    Option UInt16 × Counts :=
  match waitFor env level deadlineStartUs guard c with
  | (false, c) => (none, c)
  | (true, c) =>
    let (pulseStartUs, c) := boardUsTimerCounter env c
    match waitWhile env level deadlineStartUs pulseStartUs guard c with
    | (false, c) => (none, c)
    | (true, c) =>
      let (elapsed, c) := boardTimerElapsedUs env pulseStartUs c
      (some elapsed.toUInt16, c)

/-- `DhtMeasurePulse` (`app_dht22.c:66`): the measured width, `none` for a timeout. -/
def dhtMeasurePulse (level : Bool) (deadlineStartUs : UInt32) (c : Counts) : Option UInt16 × Counts :=
  measurePulse env appDhtLoopGuard level deadlineStartUs c

/-- A measurement whose two loops succeed. -/
theorem measurePulse_ok {guard : Nat} {level : Bool} {deadlineStartUs : UInt32} {c : Counts}
    {p₁ r₁ p₂ r₂ : Nat} (hfor : waitFor env level deadlineStartUs guard c = (true, ⟨p₁, r₁⟩))
    (hwhile : waitWhile env level deadlineStartUs (env.timer p₁ r₁) guard ⟨p₁, r₁ + 1⟩ =
      (true, ⟨p₂, r₂⟩)) :
    measurePulse env guard level deadlineStartUs c =
      (some (env.timer p₂ r₂ - env.timer p₁ r₁).toUInt16, ⟨p₂, r₂ + 1⟩) := by
  simp only [measurePulse, hfor, boardUsTimerCounter, hwhile, boardTimerElapsedUs]

/-! ## The frame -/

/-- `data[byte_index] <<= 1U`, then `|= 1U` for a long high pulse (`app_dht22.c:167-170`). -/
def pushBit (byte : UInt8) (highUs : UInt16) : UInt8 :=
  let byte := byte <<< 1
  if appDhtBitOneThresholdUs < highUs then byte ||| 1 else byte

/-- The byte being read, with `bit_low_us` and `bit_high_us`. -/
structure BitAcc where
  byte : UInt8
  bitLowUs : UInt16
  bitHighUs : UInt16
deriving DecidableEq, Repr

/-- The bit loop, `bits` bits to go. -/
def readBits (deadlineStartUs : UInt32) : Nat → BitAcc → Counts → Option DhtErrorCode × BitAcc × Counts
  | 0, acc, c => (none, acc, c)
  | bits + 1, acc, c =>
    match dhtMeasurePulse env false deadlineStartUs c with
    | (none, c) => (some .dataLowTimeout, acc, c)
    | (some lowUs, c) =>
      match dhtMeasurePulse env true deadlineStartUs c with
      | (none, c) => (some .dataHighTimeout, acc, c)
      | (some highUs, c) =>
        readBits deadlineStartUs bits
          { byte := pushBit acc.byte highUs, bitLowUs := lowUs, bitHighUs := highUs } c

/-- The five bytes of `data`, with `bit_low_us` and `bit_high_us`. -/
structure DataAcc where
  data : List UInt8
  bitLowUs : UInt16
  bitHighUs : UInt16
deriving DecidableEq, Repr

/-- The byte loop over the indices left. -/
def readBytes (deadlineStartUs : UInt32) :
    List Nat → DataAcc → Counts → Option DhtErrorCode × DataAcc × Counts
  | [], acc, c => (none, acc, c)
  | byteIndex :: rest, acc, c =>
    match readBits env deadlineStartUs 8 ⟨acc.data.getD byteIndex 0, acc.bitLowUs, acc.bitHighUs⟩ c with
    | (error, bits, c) =>
      let acc : DataAcc :=
        { data := acc.data.set byteIndex bits.byte
          bitLowUs := bits.bitLowUs
          bitHighUs := bits.bitHighUs }
      match error with
      | some error => (some error, acc, c)
      | none => readBytes deadlineStartUs rest acc c

/-- What the block leaves: `read_ok` is `error = none`. Its values of `DhtStageValue` are overwritten
right after it. -/
structure DhtFrame where
  error : Option DhtErrorCode
  respLowUs : UInt16
  respHighUs : UInt16
  acc : DataAcc
deriving DecidableEq, Repr

def emptyData : DataAcc := ⟨List.replicate 5 0, 0, 0⟩

/-- The response and the forty bits (`app_dht22.c:136-179`). -/
def readFrame (deadlineStartUs : UInt32) (c : Counts) : DhtFrame × Counts :=
  match dhtMeasurePulse env false deadlineStartUs c with
  | (none, c) => (⟨some .responseLowTimeout, 0, 0, emptyData⟩, c)
  | (some respLowUs, c) =>
    match dhtMeasurePulse env true deadlineStartUs c with
    | (none, c) => (⟨some .responseHighTimeout, respLowUs, 0, emptyData⟩, c)
    | (some respHighUs, c) =>
      match readBytes env deadlineStartUs (List.range 5) emptyData c with
      | (some error, acc, c) => (⟨some error, respLowUs, respHighUs, acc⟩, c)
      | (none, acc, c) => (⟨none, respLowUs, respHighUs, acc⟩, c)

/-- A frame none of whose measurements fails. -/
theorem readFrame_ok {deadlineStartUs : UInt32} {c c₁ c₂ c₃ : Counts} {respLowUs respHighUs : UInt16}
    {acc : DataAcc} (hlow : dhtMeasurePulse env false deadlineStartUs c = (some respLowUs, c₁))
    (hhigh : dhtMeasurePulse env true deadlineStartUs c₁ = (some respHighUs, c₂))
    (hbytes : readBytes env deadlineStartUs (List.range 5) emptyData c₂ = (none, acc, c₃)) :
    readFrame env deadlineStartUs c = (⟨none, respLowUs, respHighUs, acc⟩, c₃) := by
  simp only [readFrame, hlow, hhigh, hbytes]

end

/-! ## `DhtRead` -/

/-- `(uint8_t)(data[0] + data[1] + data[2] + data[3]) == data[4]`. -/
def checksumOk (data : List UInt8) : Bool :=
  data.getD 0 0 + data.getD 1 0 + data.getD 2 0 + data.getD 3 0 == data.getD 4 0

def rawWord (high low : UInt8) : UInt16 := (high.toUInt16 <<< 8) ||| low.toUInt16

/-- The values written through `temperature_c` and `humidity_pct`. -/
structure DhtReading where
  temperatureC : Rat
  humidityPct : Rat
deriving DecidableEq, Repr

/-- The conversion of the raw words (`app_dht22.c:200-209`). -/
def decode (data : List UInt8) : DhtReading :=
  let rawHumidity := rawWord (data.getD 0 0) (data.getD 1 0)
  let rawTemperature := rawWord (data.getD 2 0) (data.getD 3 0)
  { temperatureC :=
      if rawTemperature &&& 0x8000 != 0 then -(((rawTemperature &&& 0x7FFF).toNat : Rat) / 10)
      else (rawTemperature.toNat : Rat) / 10
    humidityPct := (rawHumidity.toNat : Rat) / 10 }

/-- The `DhtLast…` variables and `DhtStageValue`. -/
structure DhtDiag where
  lastError : DhtErrorCode
  respLowUs : UInt16
  respHighUs : UInt16
  bitLowUs : UInt16
  bitHighUs : UInt16
  bytes : List UInt8
  stage : DhtStage
deriving DecidableEq, Repr

/-- The processor and the pin: `irqMasked` is PRIMASK, `pinOutput` the direction of the DHT pin and
`pinLevel` its output register. -/
structure DhtState where
  irqMasked : Bool
  pinOutput : Bool
  pinLevel : Bool
  diag : DhtDiag
deriving DecidableEq, Repr

/-- The static variables before the first reading. -/
def dhtInit : DhtState where
  irqMasked := false
  pinOutput := false
  pinLevel := false
  diag :=
    { lastError := .none
      respLowUs := 0
      respHighUs := 0
      bitLowUs := 0
      bitHighUs := 0
      bytes := List.replicate 5 0
      stage := .idle }

/-- After the start pulse; polls and readings are counted from the call of `DhtRead`. -/
def startCounts (env : DhtEnv) : Counts := boardDelayUs env appDht22StartUs ⟨0, 0⟩

/-- From the reading of `deadline_start_us` to the end of the frame (`app_dht22.c:133-179`). -/
def timedFrame (env : DhtEnv) (c : Counts) : DhtFrame × Counts :=
  let (deadlineStartUs, c) := boardUsTimerCounter env c
  readFrame env deadlineStartUs (boardDelayUs env appDht22PullUs c)

theorem timedFrame_eq (env : DhtEnv) (c : Counts) :
    timedFrame env c =
      readFrame env (env.timer c.polls c.reads) (boardDelayUs env appDht22PullUs ⟨c.polls, c.reads + 1⟩) :=
  rfl

/-- The error code at the end: of the frame, of the checksum, or none. -/
def finalError (frame : DhtFrame) : DhtErrorCode :=
  match frame.error with
  | some error => error
  | none => if checksumOk frame.acc.data then .none else .checksum

/-- `DhtRead` (`app_dht22.c:92`), with the polls and readings it made; the reading is `none` when it
returns `false`. -/
def dhtRead (env : DhtEnv) (s : DhtState) : Option DhtReading × DhtState × Counts :=
  if !env.timerReady then
    (none, { s with diag := { s.diag with lastError := .timerNotReady } }, ⟨0, 0⟩)
  else
    let s := { s with pinOutput := true, pinLevel := false, diag := { s.diag with stage := .startPulse } }
    let primask := s.irqMasked
    let s := { s with irqMasked := true, pinOutput := false, pinLevel := true }
    let (frame, c) := timedFrame env (startCounts env)
    let s := { s with irqMasked := if primask then s.irqMasked else false }
    let ok := frame.error.isNone && checksumOk frame.acc.data
    (if ok then some (decode frame.acc.data) else none,
      { s with
        diag :=
          { lastError := finalError frame
            respLowUs := frame.respLowUs
            respHighUs := frame.respHighUs
            bitLowUs := frame.acc.bitLowUs
            bitHighUs := frame.acc.bitHighUs
            bytes := frame.acc.data
            stage := if ok then .done else .criticalExit } },
      c)

end SmartAc
