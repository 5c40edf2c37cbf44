import SmartAc.Lib.LogLock
import SmartAc.Lib.TextLines
import SmartAc.Monitor

/-!
# The lines on the UART: `app_monitor.c`, `app_fault.c`

| here | there |
| --- | --- |
| `monitorWriteStringUnlocked` | `Monitor_WriteStringUnlocked` with `AppStrLen` (`app_monitor.c:16-34`) |
| `dhtGetDiagnostics`          | `Dht_GetDiagnostics` (`app_dht22.c:239-257`) |
| `monitorLogInputs`, `monitorLogTimerProbe`, `monitorLogTaskCreateFailed`, `monitorLog` | what the functions of these names write while they hold the mutex (`app_monitor.c:85-198`) |
| `appFaultIsr`                | `App_Fault_ISR` (`app_fault.c:16-36`), which does not take the mutex and does not return |

`readInputs` and `readFault` read a line back by the names of its fields. The tasks write byte by byte
(`LogLock`), each message under `UartMutex`; a pend that fails writes nothing. The transmitter takes every byte
in time here; what goes out when it does not is `transmitted_sublist`.
-/

namespace SmartAc

open Machine TextLines

/-! ## The writers -/

def monitorWriteStringUnlocked (text : List Char) (calls : UartCalls) : UartCalls :=
  monitorWriteBytesUnlocked text text.length calls

/-- `Monitor_WriteBytesUnlocked(flag ? "1" : "0", 1U)`. -/
def writeFlag (flag : Bool) (calls : UartCalls) : UartCalls :=
  monitorWriteBytesUnlocked (if flag then ['1'] else ['0']) 1 calls

/-- `UartWriteTenthsUnlocked` of a valid reading, `--.-` of another. -/
def writeMeasured (valid : Bool) (tenths : Int16) (calls : UartCalls) : UartCalls :=
  if valid then uartWriteTenthsUnlocked tenths calls else monitorWriteStringUnlocked "--.-".toList calls

def DhtStage.value : DhtStage → UInt8
  | .idle => 0
  | .enter => 1
  | .startPulse => 2
  | .criticalEnter => 3
  | .respLow => 4
  | .respHigh => 5
  | .dataDone => 6
  | .criticalExit => 7
  | .done => 8

structure DhtDiagnostics where
  valid : Bool
  temperatureTenths : Int16
  humidityTenths : Int16
  failCount : UInt32
  lastError : UInt32
  respLowUs : UInt16
  respHighUs : UInt16
  bitLowUs : UInt16
  bitHighUs : UInt16
  raw : List UInt8
  stage : UInt8
deriving DecidableEq, Repr

def dhtGetDiagnostics (sample : DhtSample) (diag : DhtDiag) : DhtDiagnostics where
  valid := sample.valid
  temperatureTenths := sample.temperatureTenths
  humidityTenths := sample.humidityTenths
  failCount := sample.failCount
  lastError := diag.lastError.value
  respLowUs := diag.respLowUs
  respHighUs := diag.respHighUs
  bitLowUs := diag.bitLowUs
  bitHighUs := diag.bitHighUs
  raw := diag.bytes
  stage := diag.stage.value

structure AppRuntimeDiagnostics where
  usTicksPerProbe : UInt32
  sensorStkFree : UInt32
deriving DecidableEq, Repr

/-- What `Monitor_LogInputs` reads before it takes the mutex. -/
structure MonitorInputs where
  upPressed : Bool
  downPressed : Bool
  b1Pressed : Bool
  reedOpen : Bool
  usTimerReady : Bool
  tm1637Ack : UInt8
  dht : DhtDiagnostics
  runtime : AppRuntimeDiagnostics
deriving DecidableEq, Repr

def monitorLogInputs (i : MonitorInputs) (calls : UartCalls) : UartCalls :=
  let calls := monitorWriteStringUnlocked "INPUT button_up=".toList calls
  let calls := writeFlag i.upPressed calls
  let calls := monitorWriteStringUnlocked " button_down=".toList calls
  let calls := writeFlag i.downPressed calls
  let calls := monitorWriteStringUnlocked " button_b1=".toList calls
  let calls := writeFlag i.b1Pressed calls
  let calls := monitorWriteStringUnlocked " reed_open=".toList calls
  let calls := writeFlag i.reedOpen calls
  let calls := monitorWriteStringUnlocked " dht22=".toList calls
  let calls := writeFlag i.dht.valid calls
  let calls := monitorWriteStringUnlocked " temp_c=".toList calls
  let calls := writeMeasured i.dht.valid i.dht.temperatureTenths calls
  let calls := monitorWriteStringUnlocked " humidity_pct=".toList calls
  let calls := writeMeasured i.dht.valid i.dht.humidityTenths calls
  let calls := monitorWriteStringUnlocked " dht_fail_count=".toList calls
  let calls := monitorWriteUIntUnlocked i.dht.failCount calls
  let calls := monitorWriteStringUnlocked " dht_err=".toList calls
  let calls := monitorWriteUIntUnlocked i.dht.lastError calls
  let calls := monitorWriteStringUnlocked " dht_stage=".toList calls
  let calls := monitorWriteUIntUnlocked i.dht.stage.toUInt32 calls
  let calls := monitorWriteStringUnlocked " resp_low_us=".toList calls
  let calls := monitorWriteUIntUnlocked i.dht.respLowUs.toUInt32 calls
  let calls := monitorWriteStringUnlocked " resp_high_us=".toList calls
  let calls := monitorWriteUIntUnlocked i.dht.respHighUs.toUInt32 calls
  let calls := monitorWriteStringUnlocked " bit_low_us=".toList calls
  let calls := monitorWriteUIntUnlocked i.dht.bitLowUs.toUInt32 calls
  let calls := monitorWriteStringUnlocked " bit_high_us=".toList calls
  let calls := monitorWriteUIntUnlocked i.dht.bitHighUs.toUInt32 calls
  let calls := monitorWriteStringUnlocked " us_timer_ready=".toList calls
  let calls := writeFlag i.usTimerReady calls
  let calls := monitorWriteStringUnlocked " us_ticks_100ms=".toList calls
  let calls := monitorWriteUIntUnlocked i.runtime.usTicksPerProbe calls
  let calls := monitorWriteStringUnlocked " sensor_stk_free=".toList calls
  let calls := monitorWriteUIntUnlocked i.runtime.sensorStkFree calls
  let calls := monitorWriteStringUnlocked " tm1637_ack=".toList calls
  let calls := monitorWriteUIntUnlocked i.tm1637Ack.toUInt32 calls
  let calls := monitorWriteStringUnlocked " raw=".toList calls
  let calls := monitorWriteUIntUnlocked (i.dht.raw.getD 0 0).toUInt32 calls
  let calls := monitorWriteBytesUnlocked [','] 1 calls
  let calls := monitorWriteUIntUnlocked (i.dht.raw.getD 1 0).toUInt32 calls
  let calls := monitorWriteBytesUnlocked [','] 1 calls
  let calls := monitorWriteUIntUnlocked (i.dht.raw.getD 2 0).toUInt32 calls
  let calls := monitorWriteBytesUnlocked [','] 1 calls
  let calls := monitorWriteUIntUnlocked (i.dht.raw.getD 3 0).toUInt32 calls
  let calls := monitorWriteBytesUnlocked [','] 1 calls
  let calls := monitorWriteUIntUnlocked (i.dht.raw.getD 4 0).toUInt32 calls
  monitorWriteStringUnlocked "\r\n".toList calls

def appUsTimerProbeMs : UInt32 := 100

def monitorLogTimerProbe (ticks : UInt32) (calls : UartCalls) : UartCalls :=
  let calls := monitorWriteStringUnlocked "TIM2 ticks/probe=".toList calls
  let calls := monitorWriteUIntUnlocked ticks calls
  let calls := monitorWriteStringUnlocked " (expect ~".toList calls
  let calls := monitorWriteUIntUnlocked (appUsTimerProbeMs * 1000) calls
  monitorWriteStringUnlocked " for 1MHz)\r\n".toList calls

/-- The tasks of `AppTasks_CreateAll` (`app_tasks.c:398-409`). -/
inductive TaskName where
  | sensor | user | control | display | actuator | monitor
deriving DecidableEq, Repr

def TaskName.text : TaskName → List Char
  | .sensor => "Sensor Task".toList
  | .user => "User Input Task".toList
  | .control => "Control Task".toList
  | .display => "Display Task".toList
  | .actuator => "Actuator Task".toList
  | .monitor => "Monitor Task".toList

def monitorLogTaskCreateFailed (name : TaskName) (taskErr : UInt32) (calls : UartCalls) : UartCalls :=
  let calls := monitorWriteStringUnlocked "Task create failed: ".toList calls
  let calls := monitorWriteStringUnlocked name.text calls
  let calls := monitorWriteStringUnlocked " err=".toList calls
  let calls := monitorWriteUIntUnlocked taskErr calls
  monitorWriteStringUnlocked "\r\n".toList calls

/-- The texts that are passed to `Monitor_Log` (`app_tasks.c:125-157`, `app_tasks.c:422`). -/
inductive LogText where
  | timerNotRunning | dhtBefore | dhtOk | dhtFail | started
deriving DecidableEq, Repr

def LogText.text : LogText → List Char
  | .timerNotRunning => "Microsecond timer not running\r\n".toList
  | .dhtBefore => "DHT before\r\n".toList
  | .dhtOk => "DHT ok\r\n".toList
  | .dhtFail => "DHT fail\r\n".toList
  | .started => "\r\nSmartAC started\r\n".toList

def monitorLog (text : LogText) (calls : UartCalls) : UartCalls := monitorWriteStringUnlocked text.text calls

structure FaultRegisters where
  stage : UInt8
  cfsr : UInt32
  hfsr : UInt32
  bfar : UInt32
  mmfar : UInt32
deriving DecidableEq, Repr

def appFaultIsr (f : FaultRegisters) (calls : UartCalls) : UartCalls :=
  let calls := monitorWriteStringUnlocked "\r\n*** HARD FAULT *** dht_stage=".toList calls
  let calls := monitorWriteUIntUnlocked f.stage.toUInt32 calls
  let calls := monitorWriteStringUnlocked " cfsr=".toList calls
  let calls := monitorWriteHexUnlocked f.cfsr calls
  let calls := monitorWriteStringUnlocked " hfsr=".toList calls
  let calls := monitorWriteHexUnlocked f.hfsr calls
  let calls := monitorWriteStringUnlocked " bfar=".toList calls
  let calls := monitorWriteHexUnlocked f.bfar calls
  let calls := monitorWriteStringUnlocked " mmfar=".toList calls
  let calls := monitorWriteHexUnlocked f.mmfar calls
  monitorWriteStringUnlocked "\r\n".toList calls

/-! ## Their texts -/

def flagText (flag : Bool) : List Char := if flag then ['1'] else ['0']

def numberText (n : UInt32) : List Char := Nat.toDigits 10 n.toNat

def tenthsText (tenths : Int16) : List Char := emitted (uartWriteTenthsUnlocked tenths)

def measuredText (valid : Bool) (tenths : Int16) : List Char := if valid then tenthsText tenths else "--.-".toList

def bytesText (raw : List UInt8) : List Char :=
  [','].intercalate ((List.range 5).map fun k => numberText (raw.getD k 0).toUInt32)

def hexText (n : UInt32) : List Char := '0' :: 'x' :: Numeral.fixedWidth 16 8 n.toNat

section texts
variable (calls : UartCalls)

theorem writeString_flatten (text : List Char) :
    (monitorWriteStringUnlocked text calls).flatten = calls.flatten ++ text := by
  simp [monitorWriteStringUnlocked, monitorWriteBytesUnlocked]

theorem writeFlag_flatten (flag : Bool) : (writeFlag flag calls).flatten = calls.flatten ++ flagText flag := by
  cases flag <;> simp [writeFlag, flagText, monitorWriteBytesUnlocked]

theorem writeComma_flatten : (monitorWriteBytesUnlocked [','] 1 calls).flatten = calls.flatten ++ [','] := by
  simp [monitorWriteBytesUnlocked]

/-- `UartWriteTenthsUnlocked` as one text: a sign if it is negative, the whole part, a point, a digit. -/
theorem writeTenths_text (tenths : Int16) : ∃ sign, (sign = [] ∨ sign = ['-']) ∧ ∀ calls,
    (uartWriteTenthsUnlocked tenths calls).flatten = calls.flatten ++ (sign ++
      (Nat.toDigits 10 (tenths.toInt.natAbs / 10) ++ '.' :: Nat.toDigits 10 (tenths.toInt.natAbs % 10))) := by
  have hlow := tenths.le_toInt
  have hhigh := tenths.toInt_lt
  generalize hn : tenths.toInt.natAbs = n
  by_cases hneg : tenths.toInt < 0
  · refine ⟨['-'], .inr rfl, fun calls => ?_⟩
    have habs : -tenths.toInt = (n : Int) := by omega
    unfold uartWriteTenthsUnlocked
    dsimp only
    rw [if_pos hneg]
    dsimp only
    rw [habs, writeTenths_unsigned (by omega)]
    simp [monitorWriteBytesUnlocked]
  · refine ⟨[], .inl rfl, fun calls => ?_⟩
    have habs : tenths.toInt = (n : Int) := by omega
    unfold uartWriteTenthsUnlocked
    dsimp only
    rw [if_neg hneg]
    dsimp only
    rw [habs, writeTenths_unsigned (by omega)]
    simp

theorem writeTenths_flatten (tenths : Int16) :
    (uartWriteTenthsUnlocked tenths calls).flatten = calls.flatten ++ tenthsText tenths := by
  obtain ⟨sign, -, htext⟩ := writeTenths_text tenths
  rw [tenthsText, emitted, htext, htext]
  simp

theorem writeMeasured_flatten (valid : Bool) (tenths : Int16) :
    (writeMeasured valid tenths calls).flatten = calls.flatten ++ measuredText valid tenths := by
  cases valid with
  | true => exact writeTenths_flatten calls tenths
  | false => exact writeString_flatten calls _

end texts

/-- The fields of the line of `Monitor_LogInputs`. -/
def inputFields (i : MonitorInputs) : List (List Char × List Char) :=
  [("button_up".toList, flagText i.upPressed),
    ("button_down".toList, flagText i.downPressed),
    ("button_b1".toList, flagText i.b1Pressed),
    ("reed_open".toList, flagText i.reedOpen),
    ("dht22".toList, flagText i.dht.valid),
    ("temp_c".toList, measuredText i.dht.valid i.dht.temperatureTenths),
    ("humidity_pct".toList, measuredText i.dht.valid i.dht.humidityTenths),
    ("dht_fail_count".toList, numberText i.dht.failCount),
    ("dht_err".toList, numberText i.dht.lastError),
    ("dht_stage".toList, numberText i.dht.stage.toUInt32),
    ("resp_low_us".toList, numberText i.dht.respLowUs.toUInt32),
    ("resp_high_us".toList, numberText i.dht.respHighUs.toUInt32),
    ("bit_low_us".toList, numberText i.dht.bitLowUs.toUInt32),
    ("bit_high_us".toList, numberText i.dht.bitHighUs.toUInt32),
    ("us_timer_ready".toList, flagText i.usTimerReady),
    ("us_ticks_100ms".toList, numberText i.runtime.usTicksPerProbe),
    ("sensor_stk_free".toList, numberText i.runtime.sensorStkFree),
    ("tm1637_ack".toList, numberText i.tm1637Ack.toUInt32),
    ("raw".toList, bytesText i.dht.raw)]

def inputLine (i : MonitorInputs) : List Char := lineOf ("INPUT".toList :: (inputFields i).map fieldText)

-- the two texts have some 250 characters besides the values
set_option maxRecDepth 4000 in
/-- The calls of `Monitor_LogInputs` make one line of fields. -/
theorem logInputs_text (i : MonitorInputs) : emitted (monitorLogInputs i) = inputLine i ++ ['\r', '\n'] := by
  unfold emitted monitorLogInputs
  simp only [writeString_flatten, writeFlag_flatten, writeMeasured_flatten, writeUInt_flatten, writeComma_flatten]
  simp only [inputLine, lineOf, inputFields, List.map_cons, List.map_nil, List.intercalate_cons_cons, fieldText,
    List.intercalate_singleton, bytesText, numberText, List.flatten_nil]
  simp only [List.range, List.range.loop, List.map_cons, List.map_nil, List.intercalate_cons_cons,
    List.intercalate_singleton, List.append_assoc, List.cons_append, List.nil_append]
  rfl

/-! ## Reading them back -/

def readFlag (text : List Char) : Option Bool :=
  if text = ['1'] then some true else if text = ['0'] then some false else none

/-- A reading, or the dashes. -/
def readMeasured (text : List Char) : Option (Option Rat) :=
  if text = "--.-".toList then some none else (Numeral.parseDecimal text).map some

def readBytesList (text : List Char) : Option (List Nat) := (text.splitOn ',').mapM (Numeral.parse 10)

/-- What the line of `Monitor_LogInputs` tells. -/
structure InputReport where
  buttonUp : Bool
  buttonDown : Bool
  buttonB1 : Bool
  reedOpen : Bool
  dht22 : Bool
  tempC : Option Rat
  humidityPct : Option Rat
  dhtFailCount : Nat
  dhtErr : Nat
  dhtStage : Nat
  respLowUs : Nat
  respHighUs : Nat
  bitLowUs : Nat
  bitHighUs : Nat
  usTimerReady : Bool
  usTicks : Nat
  sensorStkFree : Nat
  tm1637Ack : Nat
  raw : List Nat
deriving DecidableEq

section fields
variable (fs : List (List Char × List Char))

def flagField (key : List Char) : Option Bool := (fs.lookup key).bind readFlag

def numberField (key : List Char) : Option Nat := (fs.lookup key).bind (Numeral.parse 10)

def measuredField (key : List Char) : Option (Option Rat) := (fs.lookup key).bind readMeasured

end fields

def readInputFields (fs : List (List Char × List Char)) : Option InputReport := do
  return {
    buttonUp := ← flagField fs "button_up".toList
    buttonDown := ← flagField fs "button_down".toList
    buttonB1 := ← flagField fs "button_b1".toList
    reedOpen := ← flagField fs "reed_open".toList
    dht22 := ← flagField fs "dht22".toList
    tempC := ← measuredField fs "temp_c".toList
    humidityPct := ← measuredField fs "humidity_pct".toList
    dhtFailCount := ← numberField fs "dht_fail_count".toList
    dhtErr := ← numberField fs "dht_err".toList
    dhtStage := ← numberField fs "dht_stage".toList
    respLowUs := ← numberField fs "resp_low_us".toList
    respHighUs := ← numberField fs "resp_high_us".toList
    bitLowUs := ← numberField fs "bit_low_us".toList
    bitHighUs := ← numberField fs "bit_high_us".toList
    usTimerReady := ← flagField fs "us_timer_ready".toList
    usTicks := ← numberField fs "us_ticks_100ms".toList
    sensorStkFree := ← numberField fs "sensor_stk_free".toList
    tm1637Ack := ← numberField fs "tm1637_ack".toList
    raw := ← (fs.lookup "raw".toList).bind readBytesList }

/-- The report of an `INPUT` line; the other lines have none. -/
def readInputs (line : List Char) : Option InputReport :=
  if "INPUT ".toList.isPrefixOf line then readInputFields (fields line) else none

/-- The report that the inputs make. -/
def reportOf (i : MonitorInputs) : InputReport where
  buttonUp := i.upPressed
  buttonDown := i.downPressed
  buttonB1 := i.b1Pressed
  reedOpen := i.reedOpen
  dht22 := i.dht.valid
  tempC := if i.dht.valid then some ((i.dht.temperatureTenths.toInt : Rat) / 10) else none
  humidityPct := if i.dht.valid then some ((i.dht.humidityTenths.toInt : Rat) / 10) else none
  dhtFailCount := i.dht.failCount.toNat
  dhtErr := i.dht.lastError.toNat
  dhtStage := i.dht.stage.toNat
  respLowUs := i.dht.respLowUs.toNat
  respHighUs := i.dht.respHighUs.toNat
  bitLowUs := i.dht.bitLowUs.toNat
  bitHighUs := i.dht.bitHighUs.toNat
  usTimerReady := i.usTimerReady
  usTicks := i.runtime.usTicksPerProbe.toNat
  sensorStkFree := i.runtime.sensorStkFree.toNat
  tm1637Ack := i.tm1637Ack.toNat
  raw := (List.range 5).map fun k => (i.dht.raw.getD k 0).toNat

theorem readFlag_text (flag : Bool) : readFlag (flagText flag) = some flag := by
  cases flag <;> rfl

theorem parse_numberText (n : UInt32) : Numeral.parse 10 (numberText n) = some n.toNat :=
  Numeral.parse_toDigits _

theorem readMeasured_text (valid : Bool) (tenths : Int16) :
    readMeasured (measuredText valid tenths) = some (if valid then some ((tenths.toInt : Rat) / 10) else none) := by
  cases valid with
  | false => rfl
  | true =>
    have hparse : Numeral.parseDecimal (tenthsText tenths) = some ((tenths.toInt : Rat) / 10) :=
      parse_writeTenths tenths
    -- the dashes are no number
    have hne : tenthsText tenths ≠ "--.-".toList := by
      intro heq
      rw [heq] at hparse
      cases hparse
    rw [measuredText, if_pos rfl, readMeasured, if_neg hne, hparse]
    rfl

theorem readBytesList_text (raw : List UInt8) :
    readBytesList (bytesText raw) = some ((List.range 5).map fun k => (raw.getD k 0).toNat) := by
  have hcomma : ∀ text ∈ (List.range 5).map fun k => numberText (raw.getD k 0).toUInt32, ',' ∉ text := by
    intro text htext hmem
    obtain ⟨k, -, rfl⟩ := List.mem_map.1 htext
    exact Numeral.ne_of_mem_parse (parse_numberText _) hmem (by decide) rfl
  rw [readBytesList, bytesText, List.splitOn_intercalate ',' hcomma (by simp)]
  simp [List.range, List.range.loop, parse_numberText]

/-! ### Values are words -/

theorem plain_flagText (flag : Bool) : Plain (flagText flag) := by
  cases flag <;> simp [Plain, flagText]

theorem plain_toDigits (n : Nat) : Plain (Nat.toDigits 10 n) := by
  intro c hc
  exact ⟨Numeral.ne_of_mem_parse (Numeral.parse_toDigits n) hc (by decide),
    Numeral.ne_of_mem_parse (Numeral.parse_toDigits n) hc (by decide)⟩

theorem plain_measuredText (valid : Bool) (tenths : Int16) : Plain (measuredText valid tenths) := by
  cases valid with
  | false => simp [Plain, measuredText]
  | true =>
    obtain ⟨sign, hsign, htext⟩ := writeTenths_text tenths
    have hplain : Plain sign := by
      rcases hsign with rfl | rfl <;> simp [Plain]
    rw [measuredText, if_pos rfl, tenthsText, emitted, htext, List.flatten_nil, List.nil_append]
    exact hplain.append ((plain_toDigits _).append ((plain_toDigits _).cons (by decide)))

theorem plain_bytesText (raw : List UInt8) : Plain (bytesText raw) := by
  have hone (k : Nat) : Plain (numberText (raw.getD k 0).toUInt32) := plain_toDigits _
  have hcomma : Plain [','] := by simp [Plain]
  simp only [bytesText, List.range, List.range.loop, List.map_cons, List.map_nil, List.intercalate_cons_cons,
    List.intercalate_singleton]
  exact ((hone 0).append hcomma).append (((hone 1).append hcomma).append (((hone 2).append hcomma).append
    (((hone 3).append hcomma).append (hone 4))))

theorem plain_hexText (n : UInt32) : Plain (hexText n) := by
  have hdigits := @Numeral.digits_fixedWidth 16 (by decide) (by decide) 8 n.toNat
  refine Plain.cons (by decide) (Plain.cons (by decide) fun c hc => ?_)
  have hsome := Numeral.digit_of_mem hdigits c hc
  constructor
  · rintro rfl
    cases hsome
  · rintro rfl
    cases hsome

/-- The keys are words without an equals sign, and the values are words. -/
theorem inputFields_plain (i : MonitorInputs) :
    ∀ f ∈ inputFields i, (Plain f.1 ∧ '=' ∉ f.1) ∧ Plain f.2 := by
  have hkeys : ∀ f ∈ inputFields i, Plain f.1 ∧ '=' ∉ f.1 := by
    simp [inputFields, Plain]
  have hvalues : ∀ f ∈ inputFields i, Plain f.2 := by
    simp [inputFields, plain_flagText, plain_measuredText, plain_bytesText, numberText, plain_toDigits]
  exact fun f hf => ⟨hkeys f hf, hvalues f hf⟩

/-- A line of a tag and fields reads back as the fields. -/
theorem fields_tagged {tags : List (List Char)} {fs : List (List Char × List Char)} (hne : tags ≠ [])
    (htags : ∀ w ∈ tags, Plain w ∧ '=' ∉ w) (hfs : ∀ f ∈ fs, (Plain f.1 ∧ '=' ∉ f.1) ∧ Plain f.2) :
    fields (lineOf (tags ++ fs.map fieldText)) = fs ∧ '\n' ∉ lineOf (tags ++ fs.map fieldText) := by
  have hplain : ∀ w ∈ tags ++ fs.map fieldText, Plain w := by
    intro w hw
    rcases List.mem_append.1 hw with hw | hw
    · exact (htags w hw).1
    · obtain ⟨f, hf, rfl⟩ := List.mem_map.1 hw
      exact (hfs f hf).1.1.fieldText (hfs f hf).2
  refine ⟨?_, lineOf_no_feed hplain⟩
  have htag : tags.filterMap fieldOf = [] :=
    List.filterMap_eq_nil_iff.2 fun w hw => fieldOf_none (htags w hw).2
  have hread : (fs.map fieldText).filterMap fieldOf = fs := by
    rw [List.filterMap_map]
    refine (List.filterMap_congr fun f hf => ?_).trans List.filterMap_some
    exact fieldOf_fieldText (hfs f hf).1.2 f.2
  rw [fields_lineOf (by simp [hne]) hplain, List.filterMap_append, htag, hread, List.nil_append]

theorem readInputFields_inputFields (i : MonitorInputs) : readInputFields (inputFields i) = some (reportOf i) := by
  have hflag (key : List Char) (flag : Bool) (h : (inputFields i).lookup key = some (flagText flag)) :
      flagField (inputFields i) key = some flag := by
    rw [flagField, h, Option.bind_some, readFlag_text]
  have hnumber (key : List Char) (n : UInt32) (h : (inputFields i).lookup key = some (numberText n)) :
      numberField (inputFields i) key = some n.toNat := by
    rw [numberField, h, Option.bind_some, parse_numberText]
  have hmeasured (key : List Char) (tenths : Int16)
      (h : (inputFields i).lookup key = some (measuredText i.dht.valid tenths)) :
      measuredField (inputFields i) key =
        some (if i.dht.valid then some ((tenths.toInt : Rat) / 10) else none) := by
    rw [measuredField, h, Option.bind_some, readMeasured_text]
  have hraw : ((inputFields i).lookup "raw".toList).bind readBytesList =
      some ((List.range 5).map fun k => (i.dht.raw.getD k 0).toNat) := readBytesList_text i.dht.raw
  unfold readInputFields
  rw [hflag "button_up".toList i.upPressed rfl, hflag "button_down".toList i.downPressed rfl,
    hflag "button_b1".toList i.b1Pressed rfl, hflag "reed_open".toList i.reedOpen rfl,
    hflag "dht22".toList i.dht.valid rfl, hmeasured "temp_c".toList i.dht.temperatureTenths rfl,
    hmeasured "humidity_pct".toList i.dht.humidityTenths rfl, hnumber "dht_fail_count".toList i.dht.failCount rfl,
    hnumber "dht_err".toList i.dht.lastError rfl, hnumber "dht_stage".toList i.dht.stage.toUInt32 rfl,
    hnumber "resp_low_us".toList i.dht.respLowUs.toUInt32 rfl,
    hnumber "resp_high_us".toList i.dht.respHighUs.toUInt32 rfl,
    hnumber "bit_low_us".toList i.dht.bitLowUs.toUInt32 rfl,
    hnumber "bit_high_us".toList i.dht.bitHighUs.toUInt32 rfl, hflag "us_timer_ready".toList i.usTimerReady rfl,
    hnumber "us_ticks_100ms".toList i.runtime.usTicksPerProbe rfl,
    hnumber "sensor_stk_free".toList i.runtime.sensorStkFree rfl,
    hnumber "tm1637_ack".toList i.tm1637Ack.toUInt32 rfl, hraw]
  rfl

theorem inputLine_reads_back (i : MonitorInputs) :
    (readLines (emitted (monitorLogInputs i))).map readInputs = [some (reportOf i)] := by
  obtain ⟨hfields, hfeed⟩ := @fields_tagged ["INPUT".toList] (inputFields i) (by simp) (by simp [Plain])
    (inputFields_plain i)
  have hline : inputLine i = lineOf (["INPUT".toList] ++ (inputFields i).map fieldText) := rfl
  have htag : "INPUT ".toList.isPrefixOf (lineOf (["INPUT".toList] ++ (inputFields i).map fieldText)) = true := rfl
  rw [logInputs_text, hline, readLines_line hfeed, List.map_singleton, readInputs, hfields, if_pos htag,
    readInputFields_inputFields]

/-- The tenths of an accepted frame are its reading, up to the saturation of the humidity. -/
theorem tenths_of_frame (f : AcceptedFrame) :
    ((appFloatToTenths f.reading.temperatureC).toInt : Rat) / 10 = f.reading.temperatureC ∧
      ((appFloatToTenths f.reading.humidityPct).toInt : Rat) / 10 = min f.reading.humidityPct (32767 / 10) := by
  obtain ⟨htemperature, hhumidity⟩ := recordSample_frame f ⟨false, 0, 0, 0⟩
  have htenths : (appFloatToTenths f.reading.temperatureC).toInt = f.signedTenths := htemperature
  have hpercent : (appFloatToTenths f.reading.humidityPct).toInt = min (f.humidityTenths : Int) 32767 := hhumidity
  rw [htenths, hpercent, f.temperature_tenths, f.humidity_tenths, min_div_div_right (by norm_num), Int.cast_min]
  exact ⟨rfl, by norm_cast⟩

/-- **The diagnostic line reads back**: it is one line and tells what `Monitor_LogInputs` read. Of a recorded
frame that is the reading exactly, up to the saturation of the humidity; of a failed read it is no reading. -/
theorem input_line_reads_back :
    (∀ i : MonitorInputs, (readLines (emitted (monitorLogInputs i))).map readInputs = [some (reportOf i)]) ∧
    (∀ (i : MonitorInputs) (f : AcceptedFrame) (sample : DhtSample) (diag : DhtDiag),
      let recorded := dhtRecordSample true f.reading.temperatureC f.reading.humidityPct sample
      let shown := reportOf { i with dht := dhtGetDiagnostics recorded diag }
      shown.tempC = some f.reading.temperatureC ∧
        shown.humidityPct = some (min f.reading.humidityPct (32767 / 10))) ∧
    (∀ (i : MonitorInputs) (temperatureC humidityPct : Rat) (sample : DhtSample) (diag : DhtDiag),
      let recorded := dhtRecordSample false temperatureC humidityPct sample
      let shown := reportOf { i with dht := dhtGetDiagnostics recorded diag }
      shown.tempC = none ∧ shown.humidityPct = none) := by
  refine ⟨inputLine_reads_back, fun i f sample diag => ?_, fun i temperatureC humidityPct sample diag => ⟨rfl, rfl⟩⟩
  obtain ⟨htemperature, hhumidity⟩ := tenths_of_frame f
  exact ⟨congrArg some htemperature, congrArg some hhumidity⟩

/-! ## The stream -/

/-- What is written under the mutex. -/
inductive MonitorMsg where
  | log (text : LogText)
  | timerProbe (ticks : UInt32)
  | taskCreateFailed (name : TaskName) (taskErr : UInt32)
  | inputs (i : MonitorInputs)

def MonitorMsg.calls : MonitorMsg → UartCalls → UartCalls
  | .log text => monitorLog text
  | .timerProbe ticks => monitorLogTimerProbe ticks
  | .taskCreateFailed name taskErr => monitorLogTaskCreateFailed name taskErr
  | .inputs i => monitorLogInputs i

def MonitorMsg.text (m : MonitorMsg) : List Char := emitted m.calls

def MonitorMsg.report : MonitorMsg → Option InputReport
  | .inputs i => some (reportOf i)
  | _ => none

/-- The reports that a host reads out of a text. -/
def hostReports (text : List Char) : List InputReport := (readLines text).filterMap readInputs

/-- A line that does not begin like a diagnostic line has no report. -/
theorem hostReports_other {line : List Char} (hfeed : '\n' ∉ line)
    (htag : "INPUT ".toList.isPrefixOf line = false) : hostReports (line ++ ['\r', '\n']) = [] := by
  have hnone : readInputs line = none := by
    rw [readInputs, htag]
    rfl
  rw [hostReports, readLines_line hfeed]
  simp [hnone]

/-- Every message is finished, and its report is all that is read out of it. -/
theorem MonitorMsg.reports (m : MonitorMsg) : Finished m.text ∧ hostReports m.text = m.report.toList := by
  have hdigits (n : Nat) : '\n' ∉ Nat.toDigits 10 n := fun hmem => (plain_toDigits n '\n' hmem).2 rfl
  cases m with
  | log text =>
    have htext : MonitorMsg.text (.log text) = text.text := writeString_flatten [] text.text
    rw [htext]
    cases text <;> exact ⟨.inr rfl, rfl⟩
  | timerProbe ticks =>
    have htext : MonitorMsg.text (.timerProbe ticks) =
        ("TIM2 ticks/probe=".toList ++ (Nat.toDigits 10 ticks.toNat ++ " (expect ~100000 for 1MHz)".toList)) ++
          ['\r', '\n'] := by
      have hprobe : Nat.toDigits 10 (appUsTimerProbeMs * 1000).toNat = "100000".toList := by decide
      unfold MonitorMsg.text MonitorMsg.calls emitted monitorLogTimerProbe
      simp only [writeString_flatten, writeUInt_flatten, hprobe]
      simp
    rw [htext]
    exact ⟨finished_line _, hostReports_other (by simp [hdigits]) rfl⟩
  | taskCreateFailed name taskErr =>
    have htext : MonitorMsg.text (.taskCreateFailed name taskErr) =
        ("Task create failed: ".toList ++ (name.text ++ (" err=".toList ++ Nat.toDigits 10 taskErr.toNat))) ++
          ['\r', '\n'] := by
      unfold MonitorMsg.text MonitorMsg.calls emitted monitorLogTaskCreateFailed
      simp only [writeString_flatten, writeUInt_flatten]
      simp
    have hname : '\n' ∉ name.text := by
      cases name <;> decide
    rw [htext]
    exact ⟨finished_line _, hostReports_other (by simp [hdigits, hname]) rfl⟩
  | inputs i =>
    have htext : MonitorMsg.text (.inputs i) = inputLine i ++ ['\r', '\n'] := logInputs_text i
    have hmap (lines : List (List Char)) : lines.filterMap readInputs = (lines.map readInputs).filterMap id := by
      rw [List.filterMap_map]
      rfl
    refine ⟨by rw [htext]; exact finished_line _, ?_⟩
    rw [hostReports, hmap]
    change ((readLines (emitted (monitorLogInputs i))).map readInputs).filterMap id = _
    rw [inputLine_reads_back i]
    rfl

/-- The tasks that write. -/
inductive LogTask where
  | start | sensor | monitor
deriving DecidableEq, Repr

/-- A task gets the mutex for a message, writes a byte, or gives the mutex back. -/
inductive MonitorAction where
  | pend (t : LogTask) (m : MonitorMsg)
  | write (t : LogTask)
  | post (t : LogTask)

def MonitorAction.logged : MonitorAction → LogLock.Action LogTask Char
  | .pend t m => .take t m.text
  | .write t => .write t
  | .post t => .release t

def MonitorAction.msg : MonitorAction → Option MonitorMsg
  | .pend _ m => some m
  | _ => none

/-- The UART after an interleaving. -/
def uartAfter (acts : List MonitorAction) : Option (LogLock.Log LogTask Char) :=
  exec LogLock.next LogLock.start (acts.map (·.logged))

/-- The reports of the calls of `Monitor_LogInputs`, in the order in which they got the mutex. -/
def reportsOf (acts : List MonitorAction) : List InputReport := (acts.filterMap (·.msg)).filterMap (·.report)

theorem messages_logged (acts : List MonitorAction) :
    LogLock.messages (acts.map (·.logged)) = (acts.filterMap (·.msg)).map (·.text) := by
  rw [LogLock.messages, List.filterMap_map, List.map_filterMap]
  refine List.filterMap_congr fun a _ => ?_
  cases a <;> rfl

theorem hostReports_messages (ms : List MonitorMsg) :
    hostReports (ms.map (·.text)).flatten = ms.filterMap (·.report) := by
  have hfinished : ∀ t ∈ ms.map (·.text), Finished t := by
    intro t ht
    obtain ⟨m, -, rfl⟩ := List.mem_map.1 ht
    exact m.reports.1
  rw [hostReports, readLines_flatten hfinished]
  induction ms with
  | nil => rfl
  | cons m ms ih =>
    have hread := m.reports.2
    rw [hostReports] at hread
    rw [List.map_cons, List.flatMap_cons, List.filterMap_append, hread,
      ih fun t ht => hfinished t (List.mem_cons_of_mem _ ht), List.filterMap_cons]
    cases m.report <;> rfl

/-- **No report is torn**: in every interleaving of the writing tasks, byte by byte, a host reads the reports
of `Monitor_LogInputs` in the order in which the mutex was taken for them, and all of them whenever the mutex
is free. -/
theorem reports_not_torn (acts : List MonitorAction) (s : LogLock.Log LogTask Char)
    (h : uartAfter acts = some s) :
    hostReports s.written <+: reportsOf acts ∧ (s.owner = none → hostReports s.written = reportsOf acts) := by
  have hwritten := LogLock.written_eq h
  rw [messages_logged] at hwritten
  have hall : hostReports (s.written ++ s.unwritten) = reportsOf acts := by
    rw [hwritten, hostReports_messages]
    rfl
  refine ⟨?_, fun howner => ?_⟩
  · rw [← hall]
    exact (readLines_initial s.written s.unwritten).filterMap _
  · have hnone : s.unwritten = [] := by rw [LogLock.Log.unwritten, howner]; rfl
    rw [hnone, List.append_nil] at hall
    exact hall

/-- A call that gets the mutex, writes its bytes and gives the mutex back. -/
def wholeCall (t : LogTask) (m : MonitorMsg) : List MonitorAction :=
  .pend t m :: (List.replicate m.text.length (.write t) ++ [.post t])

theorem wholeCall_logged (t : LogTask) (m : MonitorMsg) :
    (wholeCall t m).map (·.logged) = LogLock.whole t m.text := by
  simp [wholeCall, LogLock.whole, MonitorAction.logged]

theorem reportsOf_append (acts acts' : List MonitorAction) :
    reportsOf (acts ++ acts') = reportsOf acts ++ reportsOf acts' := by
  simp [reportsOf]

theorem reportsOf_wholeCall (t : LogTask) (m : MonitorMsg) : reportsOf (wholeCall t m) = m.report.toList := by
  cases h : m.report <;> simp [reportsOf, wholeCall, MonitorAction.msg, h]

def someInputs : MonitorInputs :=
  ⟨false, true, false, true, true, 6, ⟨true, 245, 501, 0, 0, 80, 81, 50, 27, [1, 245, 0, 245, 235], 8⟩, ⟨100000, 700⟩⟩

/-- The sensor task writes `DHT ok`, then the monitor task its report. -/
def okThenReport : List MonitorAction :=
  wholeCall .sensor (.log .dhtOk) ++ wholeCall .monitor (.inputs someInputs)

theorem okThenReport_reports : reportsOf okThenReport = [reportOf someInputs] := by
  rw [okThenReport, reportsOf_append, reportsOf_wholeCall, reportsOf_wholeCall]
  rfl

/-- The report is read when the mutex is free again, and still when the sensor task has begun with its next line. -/
theorem reports_not_torn_okThenReport :
    (∃ s, uartAfter okThenReport = some s ∧ s.owner = none ∧ hostReports s.written = [reportOf someInputs]) ∧
    ∃ s, uartAfter (okThenReport ++ [.pend .sensor (.log .dhtBefore), .write .sensor]) = some s ∧
      hostReports s.written <+: [reportOf someInputs] := by
  have hfree : uartAfter okThenReport =
      some ⟨none, [] ++ MonitorMsg.text (.log .dhtOk) ++ MonitorMsg.text (.inputs someInputs)⟩ := by
    rw [uartAfter, okThenReport, List.map_append, wholeCall_logged, wholeCall_logged]
    exact exec_trans (LogLock.exec_whole _ _ _) (LogLock.exec_whole _ _ _)
  obtain ⟨s, hnext⟩ : ∃ s, uartAfter (okThenReport ++ [.pend .sensor (.log .dhtBefore), .write .sensor]) = some s := by
    rw [uartAfter, List.map_append]
    exact ⟨_, exec_trans hfree rfl⟩
  have hreports : reportsOf (okThenReport ++ [.pend .sensor (.log .dhtBefore), .write .sensor]) =
      [reportOf someInputs] := by
    rw [reportsOf_append, okThenReport_reports]
    rfl
  refine ⟨⟨_, hfree, rfl, ?_⟩, s, hnext, ?_⟩
  · rw [(reports_not_torn _ _ hfree).2 rfl, okThenReport_reports]
  · rw [← hreports]
    exact (reports_not_torn _ _ hnext).1

/-! ## The fault line -/

/-- The registers that a fault line tells. -/
structure FaultReport where
  stage : Nat
  cfsr : Nat
  hfsr : Nat
  bfar : Nat
  mmfar : Nat
deriving DecidableEq, Repr

def hexField (fs : List (List Char × List Char)) (key : List Char) : Option Nat :=
  (fs.lookup key).bind fun text => if text.take 2 = ['0', 'x'] then Numeral.parse 16 (text.drop 2) else none

def readFaultFields (fs : List (List Char × List Char)) : Option FaultReport := do
  return {
    stage := ← numberField fs "dht_stage".toList
    cfsr := ← hexField fs "cfsr".toList
    hfsr := ← hexField fs "hfsr".toList
    bfar := ← hexField fs "bfar".toList
    mmfar := ← hexField fs "mmfar".toList }

def readFault (line : List Char) : Option FaultReport :=
  if "*** HARD FAULT *** ".toList.isPrefixOf line then readFaultFields (fields line) else none

def faultTags : List (List Char) := ["***".toList, "HARD".toList, "FAULT".toList, "***".toList]

def faultFields (f : FaultRegisters) : List (List Char × List Char) :=
  [("dht_stage".toList, numberText f.stage.toUInt32), ("cfsr".toList, hexText f.cfsr),
    ("hfsr".toList, hexText f.hfsr), ("bfar".toList, hexText f.bfar), ("mmfar".toList, hexText f.mmfar)]

def faultLine (f : FaultRegisters) : List Char := lineOf (faultTags ++ (faultFields f).map fieldText)

set_option maxRecDepth 2000 in
theorem fault_text (f : FaultRegisters) :
    emitted (appFaultIsr f) = ['\r', '\n'] ++ (faultLine f ++ ['\r', '\n']) := by
  unfold emitted appFaultIsr
  simp only [writeString_flatten, writeUInt_flatten, writeHex_flatten]
  simp only [faultLine, lineOf, faultTags, faultFields, List.map_cons, List.map_nil, List.intercalate_cons_cons,
    fieldText, List.intercalate_singleton, List.flatten_nil, List.append_assoc, List.cons_append, List.nil_append]
  rfl

theorem readFaultFields_faultFields (f : FaultRegisters) : readFaultFields (faultFields f) =
    some ⟨f.stage.toNat, f.cfsr.toNat, f.hfsr.toNat, f.bfar.toNat, f.mmfar.toNat⟩ := by
  have hstage : numberField (faultFields f) "dht_stage".toList = some f.stage.toUInt32.toNat :=
    parse_numberText _
  have hhex (key : List Char) (n : UInt32) (h : (faultFields f).lookup key = some (hexText n)) :
      hexField (faultFields f) key = some n.toNat := by
    have hdigits := @Numeral.digits_fixedWidth 16 (by decide) (by decide) 8 n.toNat
    have hlt : n.toNat < 16 ^ 8 := n.toNat_lt
    rw [Nat.mod_eq_of_lt hlt] at hdigits
    rw [hexField, h, Option.bind_some, hexText]
    simp only [List.take_succ_cons, List.take_zero, if_true, List.drop_succ_cons, List.drop_zero]
    rw [Numeral.parse, if_neg ?_, hdigits]
    exact List.ne_nil_of_length_pos (by simp)
  unfold readFaultFields
  rw [hstage, hhex "cfsr".toList f.cfsr rfl, hhex "hfsr".toList f.hfsr rfl, hhex "bfar".toList f.bfar rfl,
    hhex "mmfar".toList f.mmfar rfl]
  simp

/-- **The fault line reads back**: whatever was being written when the fault came, the last line of the text
tells the registers, and the lines before it are those that the rest would have had, ended there. -/
theorem fault_line_reads_back (before : List Char) (f : FaultRegisters) :
    readLines (before ++ emitted (appFaultIsr f)) = readLines (before ++ ['\r', '\n']) ++ [faultLine f] ∧
      readFault (faultLine f) = some ⟨f.stage.toNat, f.cfsr.toNat, f.hfsr.toNat, f.bfar.toNat, f.mmfar.toNat⟩ := by
  have hplain : ∀ field ∈ faultFields f, (Plain field.1 ∧ '=' ∉ field.1) ∧ Plain field.2 := by
    have hkeys : ∀ field ∈ faultFields f, Plain field.1 ∧ '=' ∉ field.1 := by
      simp [faultFields, Plain]
    have hvalues : ∀ field ∈ faultFields f, Plain field.2 := by
      simp [faultFields, numberText, plain_toDigits, plain_hexText]
    exact fun field hfield => ⟨hkeys field hfield, hvalues field hfield⟩
  obtain ⟨hfields, hfeed⟩ := @fields_tagged faultTags (faultFields f) (by simp [faultTags])
    (by simp [faultTags, Plain]) hplain
  have htag : "*** HARD FAULT *** ".toList.isPrefixOf (faultLine f) = true := rfl
  constructor
  · have hsplit := (finished_line before).readLines_append (faultLine f ++ ['\r', '\n'])
    rw [fault_text, ← List.append_assoc, hsplit, faultLine, readLines_line hfeed]
  · rw [readFault, if_pos htag, faultLine, hfields, readFaultFields_faultFields]

end SmartAc
