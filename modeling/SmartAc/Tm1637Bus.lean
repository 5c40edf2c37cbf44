import Mathlib.Data.List.Induction
import SmartAc.Lib.TwoWire

/-!
# The display bus: `app_tm1637.c`

| here | there |
| --- | --- |
| `boardTm1637WriteClk`, `boardTm1637WriteDio`, `boardTm1637ReadDio` | the pin helpers of the same names (`app_board.c:177-192`) |
| `tm1637Start`, `tm1637Stop` | `Tm1637Start`, `Tm1637Stop` (`app_tm1637.c:17-36`) |
| `tm1637WriteByte`           | `Tm1637WriteByte` (`app_tm1637.c:38-60`) |
| `tm1637SetSegments`         | `Tm1637_SetSegments` (`app_tm1637.c:62-85`) |
| `tm1637Init`                | `Tm1637_Init` (`app_tm1637.c:271-279`) |

`Bus` collects the writes and the readings in the order of the program; what the DIO pin shows at its `n`-th
reading is a parameter, since the display pulls the line low to acknowledge. The delays only space the
writes out. Each driver function appends to the trace a piece that `TwoWire` knows (`..._ops`), and an
analyser on the wires tells at which acknowledgement clock each reading is made.
-/

namespace SmartAc

open TwoWire

def appTm1637Brightness : UInt8 := 4

/-- `uint8_t segments[4]`. -/
structure Segments where
  s0 : UInt8
  s1 : UInt8
  s2 : UInt8
  s3 : UInt8
deriving DecidableEq, Repr

def Segments.toList (segments : Segments) : List UInt8 :=
  [segments.s0, segments.s1, segments.s2, segments.s3]

/-- `Tm1637ClearSegments`. -/
def Segments.clear : Segments := ⟨0, 0, 0, 0⟩

/-- The writes and readings so far, the number of readings, and `Tm1637AckCount`. -/
structure Bus where
  trace : List Op
  reads : Nat
  ackCount : UInt8
deriving DecidableEq, Repr

def busStart : Bus := ⟨[], 0, 0⟩

def boardTm1637WriteClk (high : Bool) (bus : Bus) : Bus := { bus with trace := bus.trace ++ [.write (.clk high)] }

def boardTm1637WriteDio (high : Bool) (bus : Bus) : Bus := { bus with trace := bus.trace ++ [.write (.dio high)] }

def tm1637Start (bus : Bus) : Bus :=
  let bus := boardTm1637WriteDio true bus
  let bus := boardTm1637WriteClk true bus
  let bus := boardTm1637WriteDio false bus
  boardTm1637WriteClk false bus

def tm1637Stop (bus : Bus) : Bus :=
  let bus := boardTm1637WriteClk false bus
  let bus := boardTm1637WriteDio false bus
  let bus := boardTm1637WriteClk true bus
  boardTm1637WriteDio true bus

/-- The bit loop, `bits` bits to go. -/
def tm1637WriteBits : Nat → UInt8 → Bus → Bus
  | 0, _, bus => bus
  | bits + 1, value, bus =>
    let bus := boardTm1637WriteClk false bus
    let bus := boardTm1637WriteDio (value &&& 1 != 0) bus
    let bus := boardTm1637WriteClk true bus
    tm1637WriteBits bits (value >>> 1) bus

section
variable (level : Nat → Bool)

def boardTm1637ReadDio (bus : Bus) : Bool × Bus :=
  let dio := level bus.reads
  (dio, { bus with trace := bus.trace ++ [.read dio], reads := bus.reads + 1 })

/-- `Tm1637WriteByte` (`app_tm1637.c:38`), with the `ack` it returns. -/
def tm1637WriteByte (value : UInt8) (bus : Bus) : Bool × Bus :=
  let bus := tm1637WriteBits 8 value bus
  let bus := boardTm1637WriteClk false bus
  let bus := boardTm1637WriteDio true bus
  let bus := boardTm1637WriteClk true bus
  let (dio, bus) := boardTm1637ReadDio level bus
  let ack := dio == false
  (ack, boardTm1637WriteClk false bus)

/-- `if (Tm1637WriteByte(value)) { ++ack_count; }`. -/
def tm1637CountByte (value : UInt8) (s : UInt8 × Bus) : UInt8 × Bus :=
  let (ack, bus) := tm1637WriteByte level value s.2
  (if ack then s.1 + 1 else s.1, bus)

/-- `Tm1637_SetSegments` (`app_tm1637.c:62`). -/
def tm1637SetSegments (segments : Segments) (bus : Bus) : Bus :=
  let displayCmd := 0x88 ||| (appTm1637Brightness &&& 0x07)
  let (ackCount, bus) := tm1637CountByte level 0x40 (0, tm1637Start bus)
  let (ackCount, bus) := tm1637CountByte level 0xC0 (ackCount, tm1637Start (tm1637Stop bus))
  let (ackCount, bus) := segments.toList.foldl (fun s value => tm1637CountByte level value s) (ackCount, bus)
  let (ackCount, bus) := tm1637CountByte level displayCmd (ackCount, tm1637Start (tm1637Stop bus))
  { tm1637Stop bus with ackCount := ackCount }

/-- `Tm1637_Init` (`app_tm1637.c:271`). -/
def tm1637Init (bus : Bus) : Bus :=
  tm1637SetSegments level .clear (boardTm1637WriteDio true (boardTm1637WriteClk true bus))

/-- The bus after `Tm1637_Init` and the calls of `Tm1637_SetSegments` that follow. -/
def busAfter (calls : List Segments) : Bus :=
  calls.foldl (fun bus segments => tm1637SetSegments level segments bus) (tm1637Init level busStart)

end

/-! ## What each function appends -/

/-- The acknowledgements among `n` readings from the `first`-th on: those at which DIO was low. -/
def acksFrom (level : Nat → Bool) (first n : Nat) : Nat := (List.range' first n).countP fun i => !level i

theorem tm1637Start_ops (bus : Bus) :
    tm1637Start bus = { bus with trace := bus.trace ++ opsOf startWrites } := by
  simp [tm1637Start, boardTm1637WriteClk, boardTm1637WriteDio, startWrites, opsOf]

theorem tm1637Stop_ops (bus : Bus) :
    tm1637Stop bus = { bus with trace := bus.trace ++ opsOf stopWrites } := by
  simp [tm1637Stop, boardTm1637WriteClk, boardTm1637WriteDio, stopWrites, opsOf]

/-- The loop shows the low bit of what is left of the value. -/
theorem tm1637WriteBits_ops (bits : Nat) (value : UInt8) (bus : Bus) :
    tm1637WriteBits bits value bus =
      { bus with
        trace := bus.trace ++ opsOf (((List.range bits).map value.toNat.testBit).flatMap bitWrites) } := by
  induction bits generalizing value bus with
  | zero => simp [tm1637WriteBits, opsOf]
  | succ bits ih =>
    have hlow : (value &&& 1 != 0) = value.toNat.testBit 0 := by
      have hand : (value &&& 1).toNat = value.toNat % 2 := by
        rw [UInt8.toNat_and]
        exact Nat.and_one_is_mod _
      rw [Nat.testBit_zero, Bool.eq_iff_iff, bne_iff_ne, ne_eq, ← UInt8.toNat_inj, hand, decide_eq_true_iff]
      exact Nat.mod_two_ne_zero
    have hshift (i : Nat) : (value >>> 1).toNat.testBit i = value.toNat.testBit (i + 1) := by
      rw [UInt8.toNat_shiftRight, Nat.testBit_shiftRight, Nat.add_comm]
      rfl
    have hrest : (List.range bits).map (value >>> 1).toNat.testBit =
        (List.range bits).map fun i => value.toNat.testBit (i + 1) :=
      List.map_congr_left fun i _ => hshift i
    rw [tm1637WriteBits, ih, hrest, hlow, List.range_succ_eq_map, List.map_cons, List.map_map,
      List.flatMap_cons]
    simp [boardTm1637WriteClk, boardTm1637WriteDio, bitWrites, opsOf, Function.comp_def]

section
variable (level : Nat → Bool)

/-- The answer is read while the clock of the ninth bit is high. -/
theorem tm1637WriteByte_ops (value : UInt8) (bus : Bus) :
    tm1637WriteByte level value bus =
      (!level bus.reads,
        { bus with trace := bus.trace ++ byteOps value (level bus.reads), reads := bus.reads + 1 }) := by
  have hack : (level bus.reads == false) = !level bus.reads := by cases level bus.reads <;> rfl
  simp [tm1637WriteByte, tm1637WriteBits_ops, boardTm1637ReadDio, boardTm1637WriteClk,
    boardTm1637WriteDio, byteOps, opsOf, bitWrites, bitsOf, hack]

theorem acksFrom_succ (first n : Nat) :
    acksFrom level first (n + 1) = acksFrom level first n + if level (first + n) then 0 else 1 := by
  rw [acksFrom, List.range'_concat, List.countP_append, List.countP_singleton, Nat.one_mul]
  cases level (first + n) <;> rfl

theorem acksFrom_le (first n : Nat) : acksFrom level first n ≤ n := by
  have h := List.countP_le_length (p := fun i => !level i) (l := List.range' first n)
  rwa [List.length_range'] at h

/-- The `n`-th byte of a call: one more reading, counted if it is low. -/
theorem tm1637CountByte_ops (value : UInt8) (first n : Nat) (bus : Bus) (hreads : bus.reads = first + n) :
    tm1637CountByte level value (UInt8.ofNat (acksFrom level first n), bus) =
      (UInt8.ofNat (acksFrom level first (n + 1)),
        { bus with
          trace := bus.trace ++ byteOps value (level (first + n))
          reads := first + (n + 1) }) := by
  rw [tm1637CountByte, tm1637WriteByte_ops, acksFrom_succ, hreads]
  cases level (first + n) with
  | true => rfl
  | false => simp [UInt8.ofNat_add, Nat.add_assoc]

/-- What a call of `Tm1637_SetSegments` writes and reads, its first answer the `first`-th level. -/
def setSegmentsOps (first : Nat) (segments : Segments) : List Op :=
  transmissionOps level first [0x40] ++ transmissionOps level (first + 1) (0xC0 :: segments.toList) ++
    transmissionOps level (first + 6) [0x88 ||| (appTm1637Brightness &&& 0x07)]

/-- **One call**: three transmissions, and its seven answers counted. -/
theorem tm1637SetSegments_ops (segments : Segments) (bus : Bus) :
    tm1637SetSegments level segments bus =
      { trace := bus.trace ++ setSegmentsOps level bus.reads segments
        reads := bus.reads + 7
        ackCount := UInt8.ofNat (acksFrom level bus.reads 7) } := by
  have hcount (value : UInt8) (n : Nat) (trace : List Op) (ackCount : UInt8) :=
    tm1637CountByte_ops level value bus.reads n ⟨trace, bus.reads + n, ackCount⟩ rfl
  show tm1637SetSegments level segments ⟨bus.trace, bus.reads + 0, bus.ackCount⟩ = _
  have h0 : (0 : UInt8) = UInt8.ofNat (acksFrom level bus.reads 0) := rfl
  simp only [tm1637SetSegments, h0, Segments.toList, List.foldl_cons, List.foldl_nil, tm1637Start_ops,
    tm1637Stop_ops, hcount]
  simp [setSegmentsOps, transmissionOps, bytesOps, Segments.toList]

end

/-! ## Whole runs -/

/-- What a receiver is to see of a call. -/
def transmissions (segments : Segments) : List Event :=
  [.start, .stop [0x40],
    .start, .stop [0xC0, segments.s0, segments.s1, segments.s2, segments.s3],
    .start, .stop [0x88 ||| (appTm1637Brightness &&& 7)]]

/-- The writes of a call. -/
def setSegmentsWrites (segments : Segments) : List Write :=
  transmission [0x40] ++ transmission (0xC0 :: segments.toList) ++
    transmission [0x88 ||| (appTm1637Brightness &&& 0x07)]

/-- What `Tm1637_Init` and the calls after it write. -/
def callsWrites (calls : List Segments) : List Write :=
  [.clk true, .dio true] ++ (Segments.clear :: calls).flatMap setSegmentsWrites

section
variable (level : Nat → Bool)

theorem writesOf_setSegmentsOps (first : Nat) (segments : Segments) :
    writesOf (setSegmentsOps level first segments) = setSegmentsWrites segments := by
  rw [setSegmentsOps, writesOf_append, writesOf_append, writesOf_transmissionOps, writesOf_transmissionOps,
    writesOf_transmissionOps, setSegmentsWrites]

/-- A call from high lines, seven acknowledgement clocks after the one before. -/
theorem analyse_setSegmentsOps (a : Analyser) (hclk : a.receiver.clk = true) (hdio : a.receiver.dio = true)
    (segments : Segments) :
    analyse a (setSegmentsOps level a.ackClocks segments) =
      { receiver :=
          { clk := true, dio := true, bits := none, events := a.receiver.events ++ transmissions segments }
        ackClocks := a.ackClocks + 7
        readings := a.readings ++ answers level a.ackClocks 7 } := by
  rw [setSegmentsOps, analyse_append, analyse_append, analyse_transmission level a hclk hdio _ rfl,
    analyse_transmission level _ rfl rfl (a.ackClocks + 1) rfl,
    analyse_transmission level _ rfl rfl (a.ackClocks + 6) rfl]
  have hanswers : answers level a.ackClocks 7 =
      answers level a.ackClocks 1 ++ (answers level (a.ackClocks + 1) 5 ++ answers level (a.ackClocks + 6) 1) := by
    rw [answers_append level (a.ackClocks + 1) 5 1, answers_append level a.ackClocks 1 6]
  simp [transmissions, Segments.toList, hanswers]

/-- **Run lemma**: the trace after `Tm1637_Init` and the calls, as a receiver sees its writes and as an
analyser sees its readings. -/
theorem busAfter_trace (calls : List Segments) :
    (busAfter level calls).reads = 7 * (calls.length + 1) ∧
      writesOf (busAfter level calls).trace = callsWrites calls ∧
      analyse .idle (busAfter level calls).trace =
        { receiver :=
            { clk := true
              dio := true
              bits := none
              events := (Segments.clear :: calls).flatMap transmissions }
          ackClocks := 7 * (calls.length + 1)
          readings := answers level 0 (7 * (calls.length + 1)) } := by
  induction calls using List.reverseRecOn with
  | nil =>
    -- the lines are high already: the first two writes change nothing
    have hhigh : analyse .idle [.write (.clk true), .write (.dio true)] = .idle := rfl
    have htrace : (busAfter level []).trace =
        [.write (.clk true), .write (.dio true)] ++ setSegmentsOps level 0 .clear := by
      rw [busAfter, List.foldl_nil, tm1637Init, tm1637SetSegments_ops]
      rfl
    refine ⟨by rw [busAfter, List.foldl_nil, tm1637Init, tm1637SetSegments_ops]; rfl, ?_, ?_⟩
    · rw [htrace, writesOf_append, writesOf_setSegmentsOps]
      rfl
    · rw [htrace, analyse_append, hhigh]
      exact analyse_setSegmentsOps level .idle rfl rfl .clear
  | append_singleton calls segments ih =>
    obtain ⟨hreads, hwrites, hanalyse⟩ := ih
    have hcall : busAfter level (calls ++ [segments]) = tm1637SetSegments level segments (busAfter level calls) := by
      rw [busAfter, List.foldl_append]
      rfl
    rw [hcall, tm1637SetSegments_ops, hreads]
    refine ⟨by rw [List.length_append, List.length_singleton]; rfl, ?_, ?_⟩
    · rw [writesOf_append, hwrites, writesOf_setSegmentsOps]
      simp [callsWrites]
    · rw [analyse_append, hanalyse]
      have hnext := analyse_setSegmentsOps level (analyse .idle (busAfter level calls).trace)
        (by rw [hanalyse]) (by rw [hanalyse]) segments
      rw [hanalyse] at hnext
      refine hnext.trans ?_
      have hanswers := answers_append level 0 (7 * (calls.length + 1)) 7
      rw [Nat.zero_add] at hanswers
      dsimp only
      rw [hanswers]
      simp [Nat.mul_add]

theorem busAfter_ackCount (calls : List Segments) :
    (busAfter level calls).ackCount = UInt8.ofNat (acksFrom level (7 * calls.length) 7) := by
  rcases List.eq_nil_or_concat calls with rfl | ⟨calls, segments, rfl⟩
  · rw [busAfter, List.foldl_nil, tm1637Init, tm1637SetSegments_ops]
    rfl
  · have hcall : busAfter level (calls.concat segments) = tm1637SetSegments level segments (busAfter level calls) := by
      rw [busAfter, List.concat_eq_append, List.foldl_append]
      rfl
    rw [hcall, tm1637SetSegments_ops, (busAfter_trace level calls).1, List.length_concat]

end

/-- What a receiver makes of the writes of a run. -/
theorem receive_callsWrites (calls : List Segments) :
    receive .idle (callsWrites calls) =
      { clk := true
        dio := true
        bits := none
        events := (Segments.clear :: calls).flatMap transmissions } := by
  obtain ⟨-, hwrites, hanalyse⟩ := busAfter_trace (fun _ => true) calls
  rw [← hwrites]
  exact (analyse_receiver .idle _).symm.trans (congrArg Analyser.receiver hanalyse)

/-- The display answered at the acknowledgement clock: DIO was read low there. -/
def Acked (readings : List (Option Nat × Bool)) (clock : Nat) : Bool := readings.contains (some clock, false)

theorem acked_answers (level : Nat → Bool) {clock n : Nat} (h : clock < n) :
    Acked (answers level 0 n) clock = !level clock := by
  rw [Acked, answers, Bool.eq_iff_iff, List.contains_iff_mem, List.mem_map]
  constructor
  · rintro ⟨i, -, heq⟩
    simp only [Prod.mk.injEq, Option.some.injEq] at heq
    obtain ⟨rfl, hlow⟩ := heq
    simp [hlow]
  · intro hlow
    exact ⟨clock, List.mem_range'_1.2 ⟨Nat.zero_le _, by omega⟩, by simpa using hlow⟩

/-- **The bus is decodable**: after `Tm1637_Init` and any calls, a receiver that started with both lines
high has seen the three transmissions of each call and no other start or stop, and both lines are
high again; what was written does not depend on the answers of the display. Each call has seven
acknowledgement clocks, at each of them DIO is read once and at no other time, and the last call has
counted those of its seven at which DIO was read low. -/
theorem bus_decodable (calls : List Segments) :
    (∀ level, receive .idle (writesOf (busAfter level calls).trace) =
      { clk := true
        dio := true
        bits := none
        events := (Segments.clear :: calls).flatMap transmissions }) ∧
    (∀ level level', writesOf (busAfter level calls).trace = writesOf (busAfter level' calls).trace) ∧
    (∀ level, let analysed := analyse .idle (busAfter level calls).trace
      analysed.ackClocks = 7 * (calls.length + 1) ∧
      analysed.readings = (List.range (7 * (calls.length + 1))).map (fun i => (some i, level i)) ∧
      (busAfter level calls).ackCount.toNat =
        (List.range' (7 * calls.length) 7).countP (Acked analysed.readings)) := by
  refine ⟨fun level => ?_, fun level level' => ?_, fun level => ?_⟩
  · rw [(busAfter_trace level calls).2.1]
    exact receive_callsWrites calls
  · rw [(busAfter_trace level calls).2.1, (busAfter_trace level' calls).2.1]
  · dsimp only
    rw [(busAfter_trace level calls).2.2]
    refine ⟨rfl, by rw [List.range_eq_range']; rfl, ?_⟩
    have hle := acksFrom_le level (7 * calls.length) 7
    rw [busAfter_ackCount, UInt8.toNat_ofNat', Nat.mod_eq_of_lt (by omega), acksFrom]
    refine List.countP_congr fun clock hclock => ?_
    rw [List.mem_range'_1] at hclock
    rw [acked_answers level (by omega)]

end SmartAc
