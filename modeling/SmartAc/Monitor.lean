import SmartAc.Lib.Numeral
import SmartAc.TemperatureRange

/-!
# Numbers on the diagnostic line: `app_monitor.c`, `app_dht22.c`

| here | there |
| --- | --- |
| `monitorWriteUIntUnlocked`, `digitLoop`, `emitLoop` | `Monitor_WriteUIntUnlocked` and its two loops (`app_monitor.c:36-54`) |
| `uartWriteTenthsUnlocked`  | `UartWriteTenthsUnlocked` (`app_monitor.c:56-71`) |
| `monitorWriteHexUnlocked`  | `Monitor_WriteHexUnlocked` (`app_monitor.c:73-83`) |
| `boardUartWriteBytes`      | `Board_UartWriteBytes` (`app_board.c:194-208`) |
| `appFloatToTenths`         | `AppFloatToTenths` (`app_dht22.c:48-64`) |
| `dhtRecordSample`          | `Dht_RecordSample` (`app_dht22.c:228-237`) |

A writer appends to the list of calls of `Board_UartWriteBytes`, each with its bytes; `emitted` puts
them together. What of it goes out depends on the flag `TXE`, a parameter: everything as long as the
flag comes in time (`transmitted_eq`), never more. `char` is `Char`: all that is written is ASCII. What
the writers emit is read back by `Numeral.parse` and `Numeral.parseDecimal`, which accept digits only.
-/

namespace SmartAc

/-! ## The writers -/

/-- The calls of `Board_UartWriteBytes` so far, oldest first. -/
abbrev UartCalls := List (List Char)

def monitorWriteBytesUnlocked (buffer : List Char) (length : Nat) (calls : UartCalls) : UartCalls :=
  calls ++ [buffer.take length]

/-- The bytes that a writer emits. -/
def emitted (writer : UartCalls → UartCalls) : List Char := (writer []).flatten

/-- `while (value != 0U && count < sizeof(digits))`, with `room` bytes left in `digits`. -/
def digitLoop : Nat → UInt32 → List Char → List Char
  | 0, _, digits => digits
  | room + 1, value, digits =>
    if value != 0 then digitLoop room (value / 10) (digits ++ [Char.ofNat ('0'.toNat + (value % 10).toNat)])
    else digits

/-- `while (count > 0U)`: the bytes of `digits` from the last one on. -/
def emitLoop (digits : List Char) : Nat → UartCalls → UartCalls
  | 0, calls => calls
  | count + 1, calls => emitLoop digits count (monitorWriteBytesUnlocked (digits.drop count) 1 calls)

/-- `Monitor_WriteUIntUnlocked` (`app_monitor.c:36`). -/
def monitorWriteUIntUnlocked (value : UInt32) (calls : UartCalls) : UartCalls :=
  if value == 0 then monitorWriteBytesUnlocked ['0'] 1 calls
  else
    let digits := digitLoop 10 value []
    emitLoop digits digits.length calls

/-- `UartWriteTenthsUnlocked` (`app_monitor.c:56`). -/
def uartWriteTenthsUnlocked (value : Int16) (calls : UartCalls) : UartCalls :=
  let signedValue : Int := value.toInt
  let (signedValue, calls) :=
    if signedValue < 0 then (-signedValue, monitorWriteBytesUnlocked ['-'] 1 calls) else (signedValue, calls)
  let whole := UInt32.ofInt (signedValue.tdiv 10)
  let fraction := UInt32.ofInt (signedValue.tmod 10)
  monitorWriteUIntUnlocked fraction (monitorWriteBytesUnlocked ['.'] 1 (monitorWriteUIntUnlocked whole calls))

def hexDigits : List Char := "0123456789ABCDEF".toList

/-- The values of `shift` in the loop. -/
def hexShifts : List UInt32 := [28, 24, 20, 16, 12, 8, 4, 0]

/-- `Monitor_WriteHexUnlocked` (`app_monitor.c:73`). -/
def monitorWriteHexUnlocked (value : UInt32) (calls : UartCalls) : UartCalls :=
  hexShifts.foldl
    (fun calls shift => monitorWriteBytesUnlocked [hexDigits.getD (value >>> shift &&& 0xF).toNat '0'] 1 calls)
    (monitorWriteBytesUnlocked ['0', 'x'] 2 calls)

/-! ## The transmitter -/

def appUartTxTimeoutGuard : Nat := 1000000

/-- What went out, and how often `TXE` was polled. -/
structure Uart where
  sent : List Char
  polls : Nat
deriving DecidableEq, Repr

section transmitter
variable (txe : Nat → Bool)

/-- `while (USART_GetFlagStatus(…) == RESET)`, with `guard` turns left: whether the flag came. -/
def waitTxe : Nat → Nat → Bool × Nat
  | 0, polls => (false, polls)
  | guard + 1, polls => if txe polls then (true, polls + 1) else waitTxe guard (polls + 1)

/-- `Board_UartWriteBytes` (`app_board.c:194`): a timeout drops the rest of the buffer. -/
def boardUartWriteBytes : List Char → Uart → Uart
  | [], uart => uart
  | byte :: rest, uart =>
    let (ready, polls) := waitTxe txe appUartTxTimeoutGuard uart.polls
    if ready then boardUartWriteBytes rest ⟨uart.sent ++ [byte], polls⟩ else { uart with polls }

/-- What the calls of a writer send. -/
def transmitted (calls : UartCalls) (uart : Uart) : Uart :=
  calls.foldl (fun uart buffer => boardUartWriteBytes txe buffer uart) uart

/-- A flag that comes within the guard is seen. -/
theorem waitTxe_ready {guard polls : Nat} (h : ∃ k < guard, txe (polls + k) = true) :
    (waitTxe txe guard polls).1 = true := by
  induction guard generalizing polls with
  | zero =>
    obtain ⟨k, hk, -⟩ := h
    omega
  | succ guard ih =>
    rw [waitTxe]
    split
    case isTrue => rfl
    case isFalse hnot =>
      obtain ⟨k, hk, htxe⟩ := h
      cases k with
      | zero => exact absurd htxe hnot
      | succ k => exact ih ⟨k, by omega, by rwa [Nat.add_right_comm]⟩

/-- A call sends the beginning of its buffer, and all of it if the flag always comes in time. -/
theorem boardUartWriteBytes_sent (buffer : List Char) (uart : Uart) :
    ∃ out, out <+: buffer ∧ (boardUartWriteBytes txe buffer uart).sent = uart.sent ++ out ∧
      ((∀ n, ∃ k < appUartTxTimeoutGuard, txe (n + k) = true) → out = buffer) := by
  induction buffer generalizing uart with
  | nil => exact ⟨[], List.nil_prefix, (List.append_nil _).symm, fun _ => rfl⟩
  | cons byte rest ih =>
    rw [boardUartWriteBytes]
    dsimp only
    split
    case isTrue =>
      obtain ⟨out, hpre, hsent, hall⟩ := ih ⟨uart.sent ++ [byte], (waitTxe txe appUartTxTimeoutGuard uart.polls).2⟩
      refine ⟨byte :: out, List.cons_prefix_cons.2 ⟨rfl, hpre⟩, ?_, fun hready => by rw [hall hready]⟩
      rw [hsent, List.append_assoc]
      rfl
    case isFalse hnot =>
      exact ⟨[], List.nil_prefix, (List.append_nil _).symm,
        fun hready => absurd (waitTxe_ready txe (hready uart.polls)) hnot⟩

/-- What goes out is part of what the calls hold, in order. -/
theorem transmitted_sublist (calls : UartCalls) (uart : Uart) :
    ∃ out, out.Sublist calls.flatten ∧ (transmitted txe calls uart).sent = uart.sent ++ out := by
  induction calls generalizing uart with
  | nil => exact ⟨[], List.nil_sublist _, (List.append_nil _).symm⟩
  | cons buffer calls ih =>
    obtain ⟨out, hpre, hsent, -⟩ := boardUartWriteBytes_sent txe buffer uart
    obtain ⟨more, hsub, hmore⟩ := ih (boardUartWriteBytes txe buffer uart)
    refine ⟨out ++ more, hpre.sublist.append hsub, ?_⟩
    rw [← List.append_assoc, ← hsent, ← hmore]
    rfl

/-- Everything goes out if the flag always comes in time. -/
theorem transmitted_eq (hready : ∀ n, ∃ k < appUartTxTimeoutGuard, txe (n + k) = true) (calls : UartCalls)
    (uart : Uart) : (transmitted txe calls uart).sent = uart.sent ++ calls.flatten := by
  induction calls generalizing uart with
  | nil => exact (List.append_nil _).symm
  | cons buffer calls ih =>
    obtain ⟨out, -, hsent, hall⟩ := boardUartWriteBytes_sent txe buffer uart
    have hnext := ih (boardUartWriteBytes txe buffer uart)
    rw [hsent, hall hready, List.append_assoc] at hnext
    exact hnext

end transmitter

/-! ## Decimal numbers -/

/-- The digits that the loop collects are those of the numeral, the last one first. -/
theorem digitLoop_reverse (room : Nat) (value : UInt32) (collected : List Char)
    (hroom : value.toNat < 10 ^ room) :
    (digitLoop room value collected).reverse =
      (if value.toNat = 0 then [] else Nat.toDigits 10 value.toNat) ++ collected.reverse := by
  have hdigit : ∀ d < 10, Char.ofNat ('0'.toNat + d) = d.digitChar := by decide
  induction room generalizing value collected with
  | zero =>
    rw [if_pos (by simpa using hroom)]
    rfl
  | succ room ih =>
    have hdiv : (value / 10).toNat = value.toNat / 10 := UInt32.toNat_div ..
    have hmod : (value % 10).toNat = value.toNat % 10 := UInt32.toNat_mod ..
    rw [digitLoop]
    by_cases hzero : value.toNat = 0
    · have hvalue : value = 0 := UInt32.toNat_inj.1 hzero
      rw [if_neg (by simp [hvalue]), if_pos hzero, List.nil_append]
    · have hvalue : value ≠ 0 := fun h => hzero (by rw [h]; rfl)
      have hnext := ih (value / 10) (collected ++ [(value.toNat % 10).digitChar])
        (by rw [hdiv]; rw [Nat.pow_succ] at hroom; omega)
      rw [if_pos (by simpa using hvalue), if_neg hzero, hmod, hdigit _ (Nat.mod_lt _ (by decide)), hnext, hdiv,
        Nat.toDigits_eq_if (n := value.toNat) (by decide)]
      by_cases hlast : value.toNat < 10
      · rw [if_pos hlast, if_pos (Nat.div_eq_of_lt hlast), Nat.mod_eq_of_lt hlast]
        simp
      · rw [if_neg hlast, if_neg (by omega)]
        simp

/-- The loop emits the collected digits from the last one to the first. -/
theorem emitLoop_flatten (digits : List Char) {count : Nat} (hcount : count ≤ digits.length)
    (calls : UartCalls) :
    (emitLoop digits count calls).flatten = calls.flatten ++ (digits.take count).reverse := by
  induction count generalizing calls with
  | zero => simp [emitLoop]
  | succ count ih =>
    have hlt : count < digits.length := hcount
    have hone : (digits.drop count).take 1 = [digits[count]] := by
      rw [List.drop_eq_getElem_cons hlt]
      rfl
    rw [emitLoop, ih (Nat.le_of_lt hlt), monitorWriteBytesUnlocked, hone, List.take_succ_eq_append_getElem hlt,
      List.flatten_append, List.reverse_append, List.append_assoc]
    rfl

/-- **`Monitor_WriteUIntUnlocked` emits the numeral**: ten digits are room for every value. -/
theorem writeUInt_flatten (value : UInt32) (calls : UartCalls) :
    (monitorWriteUIntUnlocked value calls).flatten = calls.flatten ++ Nat.toDigits 10 value.toNat := by
  rw [monitorWriteUIntUnlocked]
  by_cases hzero : value = 0
  · rw [if_pos (by simpa using hzero), hzero, monitorWriteBytesUnlocked]
    simp
  · have hvalue : value.toNat ≠ 0 := fun h => hzero (UInt32.toNat_inj.1 h)
    have hlt := value.toNat_lt
    have hdigits := digitLoop_reverse 10 value [] (by omega)
    rw [if_neg hvalue, List.reverse_nil, List.append_nil] at hdigits
    rw [if_neg (by simpa using hzero)]
    dsimp only
    rw [emitLoop_flatten _ (Nat.le_refl _), List.take_length, hdigits]

/-! ## Hexadecimal numbers -/

/-- One byte a turn. -/
theorem foldl_writeByte {α : Type} (byte : α → Char) (turns : List α) (calls : UartCalls) :
    (turns.foldl (fun calls turn => monitorWriteBytesUnlocked [byte turn] 1 calls) calls).flatten =
      calls.flatten ++ turns.map byte := by
  induction turns generalizing calls with
  | nil => simp
  | cons turn turns ih =>
    rw [List.foldl_cons, ih, monitorWriteBytesUnlocked, List.flatten_append, List.append_assoc]
    rfl

theorem hexDigit_eq (value : UInt32) {shift : UInt32} (hshift : shift.toNat < 32) :
    hexDigits.getD (value >>> shift &&& 0xF).toNat '0' =
      Numeral.digit (value.toNat / 2 ^ shift.toNat % 16) := by
  have hnibble : (value >>> shift &&& 0xF).toNat = value.toNat / 2 ^ shift.toNat % 16 := by
    rw [UInt32.toNat_and, UInt32.toNat_shiftRight, Nat.mod_eq_of_lt hshift, Nat.shiftRight_eq_div_pow]
    exact Nat.and_two_pow_sub_one_eq_mod _ 4
  rw [hnibble]
  rfl

/-- **`Monitor_WriteHexUnlocked` emits all eight digits**. -/
theorem writeHex_flatten (value : UInt32) (calls : UartCalls) :
    (monitorWriteHexUnlocked value calls).flatten =
      calls.flatten ++ '0' :: 'x' :: Numeral.fixedWidth 16 8 value.toNat := by
  have hshifts : ∀ shift ∈ hexShifts, shift.toNat < 32 := by simp [hexShifts]
  have hdigits : (hexShifts.map fun shift => hexDigits.getD (value >>> shift &&& 0xF).toNat '0') =
      Numeral.fixedWidth 16 8 value.toNat := by
    rw [List.map_congr_left fun shift hmem => hexDigit_eq value (hshifts shift hmem)]
    simp only [Numeral.fixedWidth, Nat.div_div_eq_div_mul]
    simp [hexShifts]
  rw [monitorWriteHexUnlocked, foldl_writeByte, hdigits, monitorWriteBytesUnlocked, List.flatten_append,
    List.append_assoc]
  rfl

/-! ## Tenths -/

/-- `AppFloatToTenths` (`app_dht22.c:48`): rounded half away from zero, saturated at 16 bits. -/
def appFloatToTenths (value : Rat) : Int16 :=
  let scaled := value * 10
  let scaled := if 0 ≤ scaled then scaled + 1 / 2 else scaled - 1 / 2
  if 32767 < scaled then 32767
  else if scaled < -32768 then -32768
  else Int16.ofInt (truncToInt scaled)

/-- `DhtValid`, `DhtTemperatureTenths`, `DhtHumidityTenths` and `DhtFailCount`. -/
structure DhtSample where
  valid : Bool
  temperatureTenths : Int16
  humidityTenths : Int16
  failCount : UInt32
deriving DecidableEq, Repr

/-- `Dht_RecordSample` (`app_dht22.c:228`). -/
def dhtRecordSample (valid : Bool) (temperatureC humidityPct : Rat) (sample : DhtSample) : DhtSample :=
  if valid then
    { sample with
      valid
      temperatureTenths := appFloatToTenths temperatureC
      humidityTenths := appFloatToTenths humidityPct }
  else { sample with valid, failCount := sample.failCount + 1 }

theorem trunc_roundOperand_int (n : Int) : truncToInt (roundOperand n) = n := by
  obtain ⟨hlow, hhigh⟩ := abs_le.1 (trunc_roundOperand_near n)
  have hlow' : (2 * n - 1 : Rat) ≤ 2 * truncToInt (roundOperand n) := by linarith
  have hhigh' : (2 * truncToInt (roundOperand n) : Rat) ≤ 2 * n + 1 := by linarith
  have hlowInt : 2 * n - 1 ≤ 2 * truncToInt (roundOperand n) := by exact_mod_cast hlow'
  have hhighInt : 2 * truncToInt (roundOperand n) ≤ 2 * n + 1 := by exact_mod_cast hhigh'
  omega

theorem lt_add_half_iff (a b : Int) : (a : Rat) < b + 1 / 2 ↔ a ≤ b := by
  constructor
  · intro h
    have hdouble : (2 * a : Rat) < 2 * b + 1 := by linarith
    have hint : 2 * a < 2 * b + 1 := by exact_mod_cast hdouble
    omega
  · intro h
    have hrat : (a : Rat) ≤ b := by exact_mod_cast h
    linarith

/-- A limit that is not negative is passed by the whole numbers that reach it. -/
theorem lt_roundOperand_iff {limit : Int} (h : 0 ≤ limit) (n : Int) :
    (limit : Rat) < roundOperand n ↔ limit ≤ n := by
  by_cases hsign : 0 ≤ n
  · have hoperand : roundOperand n = n + 1 / 2 := if_pos (by exact_mod_cast hsign)
    rw [hoperand]
    exact lt_add_half_iff limit n
  · have hoperand : roundOperand n = n - 1 / 2 := if_neg (by exact_mod_cast hsign)
    have hneg : (n : Rat) < 0 := by exact_mod_cast not_le.1 hsign
    have hlimit : (0 : Rat) ≤ limit := by exact_mod_cast h
    rw [hoperand]
    constructor <;> intro
    · linarith
    · omega

/-- A negative one likewise. -/
theorem roundOperand_lt_iff {limit : Int} (h : limit < 0) (n : Int) :
    roundOperand n < limit ↔ n ≤ limit := by
  by_cases hsign : 0 ≤ n
  · have hoperand : roundOperand n = n + 1 / 2 := if_pos (by exact_mod_cast hsign)
    have hnonneg : (0 : Rat) ≤ n := by exact_mod_cast hsign
    have hlimit : (limit : Rat) < 0 := by exact_mod_cast h
    rw [hoperand]
    constructor <;> intro
    · linarith
    · omega
  · have hoperand : roundOperand n = n - 1 / 2 := if_neg (by exact_mod_cast hsign)
    rw [hoperand, sub_lt_iff_lt_add]
    exact lt_add_half_iff n limit

/-- A whole number of tenths is kept, up to saturation. -/
theorem appFloatToTenths_tenths {n : Int} (hlow : -32768 ≤ n) :
    (appFloatToTenths ((n : Rat) / 10)).toInt = min n 32767 := by
  have hscaled : (n : Rat) / 10 * 10 = n := by
    rw [div_mul_cancel₀]
    norm_num
  have hupper : 32767 < roundOperand n ↔ 32767 ≤ n := by
    exact_mod_cast lt_roundOperand_iff (show (0 : Int) ≤ 32767 by decide) n
  have hlower : roundOperand n < -32768 ↔ n ≤ -32768 := by
    exact_mod_cast roundOperand_lt_iff (show (-32768 : Int) < 0 by decide) n
  rw [appFloatToTenths, hscaled]
  change (if 32767 < roundOperand n then (32767 : Int16) else if roundOperand n < -32768 then -32768
    else Int16.ofInt (truncToInt (roundOperand n))).toInt = _
  rw [trunc_roundOperand_int]
  by_cases hover : 32767 ≤ n
  · rw [if_pos (hupper.2 hover), min_eq_right hover]
    rfl
  · rw [if_neg (mt hupper.1 hover), min_eq_left (by omega)]
    by_cases hunder : n ≤ -32768
    · rw [if_pos (hlower.2 hunder), le_antisymm hunder hlow]
      rfl
    · rw [if_neg (mt hlower.1 hunder)]
      exact Int16.toInt_ofInt_of_le (by omega) (by omega)

theorem toNat_ofInt32 {n : Nat} (h : n < 2 ^ 32) : (UInt32.ofInt n).toNat = n := by
  have hmod : ((n : Int) % 2 ^ 32).toNat = n := by omega
  rw [UInt32.ofInt, hmod, UInt32.toNat_ofNat', Nat.mod_eq_of_lt h]

/-- `UartWriteTenthsUnlocked` without the sign. -/
theorem writeTenths_unsigned {n : Nat} (h : n < 2 ^ 32) (calls : UartCalls) :
    (monitorWriteUIntUnlocked (UInt32.ofInt ((n : Int).tmod 10)) (monitorWriteBytesUnlocked ['.'] 1
      (monitorWriteUIntUnlocked (UInt32.ofInt ((n : Int).tdiv 10)) calls))).flatten =
      calls.flatten ++ (Nat.toDigits 10 (n / 10) ++ '.' :: Nat.toDigits 10 (n % 10)) := by
  have hwhole : (UInt32.ofInt ((n : Int).tdiv 10)).toNat = n / 10 :=
    toNat_ofInt32 (n := n / 10) (by omega)
  have hfraction : (UInt32.ofInt ((n : Int).tmod 10)).toNat = n % 10 :=
    toNat_ofInt32 (n := n % 10) (by omega)
  rw [writeUInt_flatten, monitorWriteBytesUnlocked, List.flatten_append, writeUInt_flatten, hwhole, hfraction]
  simp

/-- **Tenths read back**: every 16-bit value, those between -1 and 0 included. -/
theorem parse_writeTenths (value : Int16) :
    Numeral.parseDecimal (emitted (uartWriteTenthsUnlocked value)) = some ((value.toInt : Rat) / 10) := by
  have hlow := value.le_toInt
  have hhigh := value.toInt_lt
  have hdigit (n : Nat) : (Nat.toDigits 10 (n % 10)).length = 1 := by
    rw [Nat.toDigits_of_lt_base (Nat.mod_lt n (by decide))]
    rfl
  have hvalue (n : Nat) : ((n / 10 : Nat) : Rat) + ((n % 10 : Nat) : Rat) / 10 = n / 10 := by
    have hsplit : ((10 * (n / 10) + n % 10 : Nat) : Rat) = n := by rw [Nat.div_add_mod]
    push_cast at hsplit
    linarith
  have hparse (n : Nat) := Numeral.parseDecimal_point (Numeral.parse_toDigits (n / 10))
    (Numeral.parse_toDigits (n % 10))
  unfold emitted uartWriteTenthsUnlocked
  dsimp only
  by_cases hneg : value.toInt < 0
  · obtain ⟨n, hn⟩ := Int.eq_ofNat_of_zero_le (show 0 ≤ -value.toInt by omega)
    have hrat : (value.toInt : Rat) / 10 = -((n : Rat) / 10) := by
      rw [show value.toInt = -(n : Int) by omega, Int.cast_neg, Int.cast_natCast, neg_div]
    have hread := (hparse n).2
    rw [hdigit, pow_one, hvalue] at hread
    rw [if_pos hneg]
    dsimp only
    rw [hn, writeTenths_unsigned (by omega), hrat]
    exact hread
  · obtain ⟨n, hn⟩ := Int.eq_ofNat_of_zero_le (not_lt.1 hneg)
    have hread := (hparse n).1
    rw [hdigit, pow_one, hvalue] at hread
    rw [if_neg hneg]
    dsimp only
    rw [hn, writeTenths_unsigned (by omega), Int.cast_natCast]
    exact hread

example : emitted (uartWriteTenthsUnlocked (-5)) = ['-', '0', '.', '5'] := by decide

/-! ## Readings -/

namespace AcceptedFrame

/-- The temperature in tenths of a degree, with its sign. -/
def signedTenths (f : AcceptedFrame) : Int := if f.negative then -f.tenths else f.tenths

/-- The humidity in tenths of a percent. -/
def humidityTenths (f : AcceptedFrame) : Nat := 256 * f.b0.toNat + f.b1.toNat

theorem temperature_tenths (f : AcceptedFrame) : f.reading.temperatureC = (f.signedTenths : Rat) / 10 := by
  rw [f.temperature_eq, signedTenths]
  cases f.negative with
  | true => simp only [if_true, Int.cast_neg, Int.cast_natCast]
  | false => simp only [Bool.false_eq_true, if_false, Int.cast_natCast]

theorem humidity_tenths (f : AcceptedFrame) : f.reading.humidityPct = ((f.humidityTenths : Int) : Rat) / 10 := by
  rw [reading, data, decode_eq, Int.cast_natCast]
  rfl

theorem signedTenths_bounds (f : AcceptedFrame) : -32767 ≤ f.signedTenths ∧ f.signedTenths ≤ 32767 := by
  have hlt : f.tenths < 2 ^ 15 := Nat.mod_lt _ (by decide)
  unfold signedTenths
  split_ifs <;> omega

end AcceptedFrame

/-- What `Dht_RecordSample` stores of an accepted frame. -/
theorem recordSample_frame (f : AcceptedFrame) (sample : DhtSample) :
    let recorded := dhtRecordSample true f.reading.temperatureC f.reading.humidityPct sample
    recorded.temperatureTenths.toInt = f.signedTenths ∧
      recorded.humidityTenths.toInt = min (f.humidityTenths : Int) 32767 := by
  intro recorded
  have hbounds := f.signedTenths_bounds
  have htemperature : recorded.temperatureTenths = appFloatToTenths ((f.signedTenths : Rat) / 10) := by
    rw [← f.temperature_tenths]
    rfl
  have hhumidity : recorded.humidityTenths = appFloatToTenths (((f.humidityTenths : Int) : Rat) / 10) := by
    rw [← f.humidity_tenths]
    rfl
  rw [htemperature, hhumidity, appFloatToTenths_tenths (by omega), appFloatToTenths_tenths (by omega)]
  exact ⟨min_eq_left hbounds.2, rfl⟩

/-- **Numbers round-trip**: what the writers emit reads back as what they were given. A decimal number is
its canonical numeral, a hexadecimal one has all its digits, and the readings of an accepted frame are
exact, up to saturation of the humidity at 3276.7. -/
theorem numbers_round_trip :
    (∀ value : UInt32, emitted (monitorWriteUIntUnlocked value) = Nat.toDigits 10 value.toNat ∧
      Numeral.parse 10 (emitted (monitorWriteUIntUnlocked value)) = some value.toNat ∧
      (0 < value → (emitted (monitorWriteUIntUnlocked value)).head? ≠ some '0') ∧
      (emitted (monitorWriteUIntUnlocked value)).length ≤ 10) ∧
    (∀ value : UInt32, ∃ digits, emitted (monitorWriteHexUnlocked value) = '0' :: 'x' :: digits ∧
      digits.length = 8 ∧ Numeral.parse 16 digits = some value.toNat) ∧
    (∀ (f : AcceptedFrame) (sample : DhtSample),
      let recorded := dhtRecordSample true f.reading.temperatureC f.reading.humidityPct sample
      Numeral.parseDecimal (emitted (uartWriteTenthsUnlocked recorded.temperatureTenths)) =
          some f.reading.temperatureC ∧
        Numeral.parseDecimal (emitted (uartWriteTenthsUnlocked recorded.humidityTenths)) =
          some (min f.reading.humidityPct (32767 / 10))) := by
  refine ⟨fun value => ?_, fun value => ?_, fun f sample => ?_⟩
  · have htext : emitted (monitorWriteUIntUnlocked value) = Nat.toDigits 10 value.toNat :=
      writeUInt_flatten value []
    have hlt := value.toNat_lt
    rw [htext]
    refine ⟨rfl, Numeral.parse_toDigits _, fun hpos => Numeral.head_toDigits hpos, ?_⟩
    exact (Nat.length_toDigits_le_iff (by decide) (by decide)).2 (by omega)
  · have hdigits := @Numeral.digits_fixedWidth 16 (by decide) (by decide) 8 value.toNat
    refine ⟨Numeral.fixedWidth 16 8 value.toNat, writeHex_flatten value [], by simp, ?_⟩
    have hlt : value.toNat < 16 ^ 8 := value.toNat_lt
    rw [Nat.mod_eq_of_lt hlt] at hdigits
    rw [Numeral.parse, if_neg ?_, hdigits]
    exact List.ne_nil_of_length_pos (by simp)
  · obtain ⟨htemperature, hhumidity⟩ := recordSample_frame f sample
    intro recorded
    rw [parse_writeTenths, parse_writeTenths, htemperature, hhumidity, ← f.temperature_tenths]
    refine ⟨rfl, ?_⟩
    rw [f.humidity_tenths, min_div_div_right (by norm_num), Int.cast_min]
    norm_cast

end SmartAc
