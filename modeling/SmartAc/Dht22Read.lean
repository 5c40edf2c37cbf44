import SmartAc.Dht22Decode

/-!
# How `DhtRead` fails

| here | there |
| --- | --- |
| `bitLoop`, `byteLoop` | the two `for` loops with their `break`s (`app_dht22.c:151-175`) |
| `frameBlock`          | the `do { … } while (false)` block (`app_dht22.c:136-179`) |
| `dhtReadInto`         | `DhtRead` with its two pointers (`app_dht22.c:92-226`) |

`dhtReadInto` follows the source statement by statement, with `read_ok`, `last_error` and the stage as
variables of their own and the two floats as cells that count their stores. It agrees with `dhtRead`,
where an error ends the frame at once.

What it comes to is said over `pulseAt`: the 82 calls of `DhtMeasurePulse`, each from where the one
before it ended. The frame is complete iff all of them succeed, and its error names the first that
does not.
-/

namespace SmartAc

/-! ## `DhtRead`, statement by statement -/

/-- A `float` behind a pointer, and how often it was stored to. -/
structure FloatCell where
  value : Rat
  stores : Nat
deriving DecidableEq, Repr

def FloatCell.store (cell : FloatCell) (value : Rat) : FloatCell := ⟨value, cell.stores + 1⟩

/-- What a call can change: processor, pin and static variables, `*temperature_c` and `*humidity_pct`. -/
structure DhtMemory where
  state : DhtState
  temperatureC : FloatCell
  humidityPct : FloatCell
deriving DecidableEq, Repr

def DhtState.setStage (s : DhtState) (stage : DhtStage) : DhtState :=
  { s with diag := { s.diag with stage } }

def boardDhtSetInput (s : DhtState) : DhtState := { s with pinOutput := false }
def boardDhtSetOutput (s : DhtState) : DhtState := { s with pinOutput := true }
def boardDhtWrite (s : DhtState) (level : Bool) : DhtState := { s with pinLevel := level }
def disableIrq (s : DhtState) : DhtState := { s with irqMasked := true }
def enableIrq (s : DhtState) : DhtState := { s with irqMasked := false }

/-- The locals that the block leaves, and `DhtStageValue`. -/
structure FrameVars where
  data : List UInt8
  respLowUs : UInt16
  respHighUs : UInt16
  bitLowUs : UInt16
  bitHighUs : UInt16
  readOk : Bool
  lastError : DhtErrorCode
  stage : DhtStage
deriving DecidableEq, Repr

def frameVarsInit : FrameVars where
  data := List.replicate 5 0
  respLowUs := 0
  respHighUs := 0
  bitLowUs := 0
  bitHighUs := 0
  readOk := true
  lastError := .none
  stage := .criticalEnter

/-- `last_error = error; read_ok = false;`. -/
def FrameVars.fail (v : FrameVars) (error : DhtErrorCode) : FrameVars :=
  { v with lastError := error, readOk := false }

section
variable (env : DhtEnv) (deadlineStartUs : UInt32)

/-- The bit loop of byte `byteIndex`, `bits` turns to go. -/
def bitLoop (byteIndex : Nat) : Nat → FrameVars → Counts → FrameVars × Counts
  | 0, v, c => (v, c)
  | bits + 1, v, c =>
    match dhtMeasurePulse env false deadlineStartUs c with
    | (none, c) => (v.fail .dataLowTimeout, c)
    | (some lowUs, c) =>
      match dhtMeasurePulse env true deadlineStartUs c with
      | (none, c) => (v.fail .dataHighTimeout, c)
      | (some highUs, c) =>
        let v := { v with
          bitLowUs := lowUs
          bitHighUs := highUs
          data := v.data.set byteIndex (pushBit (v.data.getD byteIndex 0) highUs) }
        bitLoop byteIndex bits v c

/-- The byte loop; its `if (!read_ok) { break; }` comes after each bit loop. -/
def byteLoop : List Nat → FrameVars → Counts → FrameVars × Counts
  | [], v, c => (v, c)
  | byteIndex :: rest, v, c =>
    let (v, c) := bitLoop env deadlineStartUs byteIndex 8 v c
    if !v.readOk then (v, c) else byteLoop rest v c

def frameBlock (v : FrameVars) (c : Counts) : FrameVars × Counts :=
  match dhtMeasurePulse env false deadlineStartUs c with
  | (none, c) => (v.fail .responseLowTimeout, c)
  | (some respLowUs, c) =>
    let v := { v with respLowUs, stage := .respLow }
    match dhtMeasurePulse env true deadlineStartUs c with
    | (none, c) => (v.fail .responseHighTimeout, c)
    | (some respHighUs, c) =>
      let v := { v with respHighUs, stage := .respHigh }
      let (v, c) := byteLoop env deadlineStartUs (List.range 5) v c
      (if v.readOk then { v with stage := .dataDone } else v, c)

/-- From the reading of `deadline_start_us` to the end of the block (`app_dht22.c:133-179`). -/
def timedBlock (c : Counts) : FrameVars × Counts :=
  let (deadlineStartUs, c) := boardUsTimerCounter env c
  frameBlock env deadlineStartUs frameVarsInit (boardDelayUs env appDht22PullUs c)

theorem timedBlock_eq (c : Counts) :
    timedBlock env c = frameBlock env (env.timer c.polls c.reads) frameVarsInit
      (boardDelayUs env appDht22PullUs ⟨c.polls, c.reads + 1⟩) :=
  rfl

end

/-- The assignments to the `DhtLast…` variables (`app_dht22.c:212-221`). -/
def DhtState.record (s : DhtState) (v : FrameVars) (lastError : DhtErrorCode) : DhtState :=
  { s with
    diag := { s.diag with
      respLowUs := v.respLowUs
      respHighUs := v.respHighUs
      bitLowUs := v.bitLowUs
      bitHighUs := v.bitHighUs
      bytes := v.data
      lastError } }

/-- From `if (read_ok)` to `return dht_result` (`app_dht22.c:190-225`). -/
def finishRead (m : DhtMemory) (v : FrameVars) : Bool × DhtMemory :=
  let checksum := v.readOk && checksumOk v.data
  let lastError := if v.readOk && !checksum then .checksum else v.lastError
  let dhtResult := v.readOk && checksum
  let m :=
    if dhtResult then
      { m with
        humidityPct := m.humidityPct.store (decode v.data).humidityPct
        temperatureC := m.temperatureC.store (decode v.data).temperatureC }
    else m
  let lastError := if dhtResult then .none else lastError
  let state := m.state.record v lastError
  (dhtResult, { m with state := if dhtResult then state.setStage .done else state })

/-- `DhtRead` (`app_dht22.c:92`): what it returns, what it leaves, and the polls and readings it made. -/
def dhtReadInto (env : DhtEnv) (m : DhtMemory) : Bool × DhtMemory × Counts :=
  if !env.timerReady then
    (false, { m with state := { m.state with
      diag := { m.state.diag with lastError := .timerNotReady } } }, ⟨0, 0⟩)
  else
    let s := m.state.setStage .enter
    let s := boardDhtSetInput s
    let s := boardDhtWrite (boardDhtSetOutput s) false
    let s := s.setStage .startPulse
    let primask := s.irqMasked
    let s := disableIrq (s.setStage .criticalEnter)
    let s := boardDhtSetInput (boardDhtWrite s true)
    let (v, c) := timedBlock env (startCounts env)
    let s := s.setStage v.stage
    let s := if primask then s else enableIrq s
    let s := s.setStage .criticalExit
    let (dhtResult, m) := finishRead { m with state := s } v
    (dhtResult, m, c)

/-! ## Agreement with `dhtRead` -/

/-- The locals say what the frame says; `read_ok` is that there was no error. -/
structure FrameVars.Agrees (v : FrameVars) (frame : DhtFrame) : Prop where
  data : v.data = frame.acc.data
  respLowUs : v.respLowUs = frame.respLowUs
  respHighUs : v.respHighUs = frame.respHighUs
  bitLowUs : v.bitLowUs = frame.acc.bitLowUs
  bitHighUs : v.bitHighUs = frame.acc.bitHighUs
  readOk : v.readOk = frame.error.isNone
  lastError : v.lastError = frame.error.getD .none

theorem set_getD_self {data : List UInt8} {i : Nat} (h : i < data.length) :
    data.set i (data.getD i 0) = data := by
  rw [List.getD_eq_getElem _ _ h, List.set_getElem_self]

section
variable (env : DhtEnv) (deadlineStartUs : UInt32)

/-- The bit loop changes one byte of `data`, as `readBits` does. -/
theorem bitLoop_agrees {byteIndex : Nat} (n : Nat) {v : FrameVars} (hlen : byteIndex < v.data.length)
    (c : Counts) : ∃ error acc c',
      readBits env deadlineStartUs n ⟨v.data.getD byteIndex 0, v.bitLowUs, v.bitHighUs⟩ c = (error, acc, c') ∧
      bitLoop env deadlineStartUs byteIndex n v c =
        ({ v with
            data := v.data.set byteIndex acc.byte
            bitLowUs := acc.bitLowUs
            bitHighUs := acc.bitHighUs
            readOk := v.readOk && error.isNone
            lastError := error.getD v.lastError }, c') := by
  induction n generalizing v c with
  | zero =>
    refine ⟨none, _, c, rfl, ?_⟩
    rw [set_getD_self hlen, Option.isNone_none, Bool.and_true]
    rfl
  | succ n ih =>
    rw [readBits, bitLoop]
    rcases dhtMeasurePulse env false deadlineStartUs c with ⟨_ | lowUs, c₁⟩ <;> dsimp only
    · refine ⟨_, _, _, rfl, ?_⟩
      rw [set_getD_self hlen]
      simp [FrameVars.fail]
    · rcases dhtMeasurePulse env true deadlineStartUs c₁ with ⟨_ | highUs, c₂⟩ <;> dsimp only
      · refine ⟨_, _, _, rfl, ?_⟩
        rw [set_getD_self hlen]
        simp [FrameVars.fail]
      · let v' : FrameVars := { v with
          bitLowUs := lowUs
          bitHighUs := highUs
          data := v.data.set byteIndex (pushBit (v.data.getD byteIndex 0) highUs) }
        have hlen' : byteIndex < v'.data.length := by simpa [v'] using hlen
        have hget : v'.data.getD byteIndex 0 = pushBit (v.data.getD byteIndex 0) highUs := by
          rw [List.getD_eq_getElem _ _ hlen', List.getElem_set_self]
        obtain ⟨error, acc, c', hbits, hloop⟩ := ih hlen' c₂
        rw [hget] at hbits
        refine ⟨error, acc, c', hbits, hloop.trans ?_⟩
        simp [v']

/-- The byte loop goes on as long as `readBytes` does. -/
theorem byteLoop_agrees (indices : List Nat) {v : FrameVars} {respLowUs respHighUs : UInt16} {acc : DataAcc}
    (hv : v.Agrees ⟨none, respLowUs, respHighUs, acc⟩) (hlen : ∀ i ∈ indices, i < v.data.length)
    (c : Counts) : ∃ error acc' v' c', readBytes env deadlineStartUs indices acc c = (error, acc', c') ∧
      byteLoop env deadlineStartUs indices v c = (v', c') ∧
      v'.Agrees ⟨error, respLowUs, respHighUs, acc'⟩ := by
  induction indices generalizing v acc c with
  | nil => exact ⟨none, acc, v, c, rfl, rfl, hv⟩
  | cons byteIndex rest ih =>
    have hindex := hlen byteIndex List.mem_cons_self
    obtain ⟨error, bits, c₁, hbits, hloop⟩ := bitLoop_agrees env deadlineStartUs 8 hindex c
    rw [hv.data, hv.bitLowUs, hv.bitHighUs] at hbits
    dsimp only at hbits
    have hok : v.readOk = true := hv.readOk
    have hnone : v.lastError = .none := hv.lastError
    rw [readBytes, byteLoop, hbits, hloop]
    cases error with
    | some error =>
      rw [hok]
      exact ⟨some error, _, _, c₁, rfl, rfl,
        ⟨by rw [hv.data], hv.respLowUs, hv.respHighUs, rfl, rfl, rfl, rfl⟩⟩
    | none =>
      dsimp only
      rw [hok, hnone]
      have hnext : ({ v with
          data := v.data.set byteIndex bits.byte, bitLowUs := bits.bitLowUs, bitHighUs := bits.bitHighUs,
          readOk := true, lastError := .none } : FrameVars).Agrees ⟨none, respLowUs, respHighUs,
            ⟨acc.data.set byteIndex bits.byte, bits.bitLowUs, bits.bitHighUs⟩⟩ :=
        ⟨by rw [hv.data], hv.respLowUs, hv.respHighUs, rfl, rfl, rfl, rfl⟩
      refine ih hnext (fun i hi => ?_) c₁
      rw [List.length_set]
      exact hlen i (List.mem_cons_of_mem _ hi)

theorem frameBlock_agrees (c : Counts) : ∃ v, frameBlock env deadlineStartUs frameVarsInit c =
      (v, (readFrame env deadlineStartUs c).2) ∧ v.Agrees (readFrame env deadlineStartUs c).1 := by
  rw [frameBlock, readFrame]
  rcases dhtMeasurePulse env false deadlineStartUs c with ⟨_ | respLowUs, c₁⟩ <;> dsimp only
  · exact ⟨_, rfl, ⟨rfl, rfl, rfl, rfl, rfl, rfl, rfl⟩⟩
  · rcases dhtMeasurePulse env true deadlineStartUs c₁ with ⟨_ | respHighUs, c₂⟩ <;> dsimp only
    · exact ⟨_, rfl, ⟨rfl, rfl, rfl, rfl, rfl, rfl, rfl⟩⟩
    · have hinit : ({ frameVarsInit with respLowUs, respHighUs, stage := .respHigh } : FrameVars).Agrees
          ⟨none, respLowUs, respHighUs, emptyData⟩ := ⟨rfl, rfl, rfl, rfl, rfl, rfl, rfl⟩
      obtain ⟨error, acc, v, c₃, hbytes, hloop, hv⟩ :=
        byteLoop_agrees env deadlineStartUs (List.range 5) hinit (fun i hi => List.mem_range.1 hi) c₂
      rw [hbytes, hloop]
      cases error with
      | some error =>
        have hok : v.readOk = false := hv.readOk
        refine ⟨v, ?_, hv⟩
        dsimp only
        rw [hok]
        rfl
      | none =>
        have hok : v.readOk = true := hv.readOk
        refine ⟨{ v with stage := .dataDone }, ?_,
          ⟨hv.data, hv.respLowUs, hv.respHighUs, hv.bitLowUs, hv.bitHighUs, hv.readOk, hv.lastError⟩⟩
        dsimp only
        rw [hok]
        rfl

end

/-- The cell after a call that returned `reading`. -/
def FloatCell.after (cell : FloatCell) (reading : Option Rat) : FloatCell :=
  match reading with
  | none => cell
  | some value => cell.store value

theorem timedBlock_agrees (env : DhtEnv) (c : Counts) :
    ∃ v, timedBlock env c = (v, (timedFrame env c).2) ∧ v.Agrees (timedFrame env c).1 := by
  rw [timedBlock_eq, timedFrame_eq]
  exact frameBlock_agrees env _ _

/-- The checksum decides about a complete frame; a frame that is not complete keeps its error. -/
theorem finishRead_eq {v : FrameVars} {frame : DhtFrame} (hv : v.Agrees frame) (m : DhtMemory) :
    finishRead m v =
      let reading :=
        if frame.error.isNone && checksumOk frame.acc.data then some (decode frame.acc.data) else none
      (reading.isSome,
        { state :=
            { m.state with
              diag :=
                { lastError := finalError frame
                  respLowUs := frame.respLowUs
                  respHighUs := frame.respHighUs
                  bitLowUs := frame.acc.bitLowUs
                  bitHighUs := frame.acc.bitHighUs
                  bytes := frame.acc.data
                  stage := if reading.isSome then .done else m.state.diag.stage } }
          temperatureC := m.temperatureC.after (reading.map (·.temperatureC))
          humidityPct := m.humidityPct.after (reading.map (·.humidityPct)) }) := by
  obtain ⟨hdata, hlow, hhigh, hbitLow, hbitHigh, hok, herror⟩ := hv
  unfold finishRead DhtState.record finalError
  rw [hdata, hlow, hhigh, hbitLow, hbitHigh, hok, herror]
  cases frame.error with
  | some error => rfl
  | none => cases checksumOk frame.acc.data <;> rfl

/-- **Refinement**: `DhtRead` statement by statement is `dhtRead`, its reading stored through the two
pointers. -/
theorem dhtReadInto_eq (env : DhtEnv) (m : DhtMemory) :
    dhtReadInto env m = ((dhtRead env m.state).1.isSome,
      { state := (dhtRead env m.state).2.1
        temperatureC := m.temperatureC.after ((dhtRead env m.state).1.map (·.temperatureC))
        humidityPct := m.humidityPct.after ((dhtRead env m.state).1.map (·.humidityPct)) },
      (dhtRead env m.state).2.2) := by
  unfold dhtReadInto dhtRead
  obtain ⟨v, hblock, hv⟩ := timedBlock_agrees env (startCounts env)
  rw [hblock]
  generalize timedFrame env (startCounts env) = p at hv
  obtain ⟨frame, c⟩ := p
  cases hready : env.timerReady with
  | false => rfl
  | true =>
    simp only [Bool.not_true, Bool.false_eq_true, if_false, finishRead_eq hv]
    obtain ⟨⟨irqMasked, pinOutput, pinLevel, diag⟩, temperatureC, humidityPct⟩ := m
    cases irqMasked <;> cases frame.error.isNone && checksumOk frame.acc.data <;> rfl

/-! ## The polls and readings of a call -/

section
variable (env : DhtEnv)

theorem waitFor_counts (level : Bool) (deadlineStartUs : UInt32) (guard : Nat) (c : Counts) :
    (waitFor env level deadlineStartUs guard c).2.polls ≤ c.polls + guard ∧
      (waitFor env level deadlineStartUs guard c).2.reads ≤ c.reads + guard := by
  induction guard generalizing c with
  | zero => exact ⟨Nat.le_refl _, Nat.le_refl _⟩
  | succ guard ih =>
    obtain ⟨hpolls, hreads⟩ := ih ⟨c.polls + 1, c.reads + 1⟩
    dsimp only at hpolls hreads
    rw [waitFor_succ]
    split_ifs
    · dsimp only; omega
    · dsimp only; omega
    · omega

theorem waitWhile_counts (level : Bool) (deadlineStartUs pulseStartUs : UInt32) (guard : Nat) (c : Counts) :
    (waitWhile env level deadlineStartUs pulseStartUs guard c).2.polls ≤ c.polls + guard ∧
      (waitWhile env level deadlineStartUs pulseStartUs guard c).2.reads ≤ c.reads + 2 * guard := by
  induction guard generalizing c with
  | zero => exact ⟨Nat.le_refl _, Nat.le_refl _⟩
  | succ guard ih =>
    obtain ⟨hpolls, hreads⟩ := ih ⟨c.polls + 1, c.reads + 2⟩
    dsimp only at hpolls hreads
    rw [waitWhile_succ]
    split_ifs
    · dsimp only; omega
    · dsimp only; omega
    · dsimp only; omega
    · omega

/-- One measurement polls at most twice its guard, whatever line and timer do. -/
theorem measurePulse_counts (guard : Nat) (level : Bool) (deadlineStartUs : UInt32) (c : Counts) :
    (measurePulse env guard level deadlineStartUs c).2.polls ≤ c.polls + 2 * guard ∧
      (measurePulse env guard level deadlineStartUs c).2.reads ≤ c.reads + 3 * guard + 2 := by
  obtain ⟨hpolls, hreads⟩ := waitFor_counts env level deadlineStartUs guard c
  unfold measurePulse
  generalize waitFor env level deadlineStartUs guard c = r at hpolls hreads
  obtain ⟨ok, c₁⟩ := r
  cases ok with
  | false => dsimp only at hpolls hreads ⊢; omega
  | true =>
    dsimp only at hpolls hreads ⊢
    rw [boardUsTimerCounter]
    dsimp only
    have hwhile := waitWhile_counts env level deadlineStartUs (env.timer c₁.polls c₁.reads) guard
      { c₁ with reads := c₁.reads + 1 }
    generalize waitWhile env level deadlineStartUs (env.timer c₁.polls c₁.reads) guard
      { c₁ with reads := c₁.reads + 1 } = r at hwhile
    obtain ⟨ok, c₂⟩ := r
    dsimp only at hwhile
    cases ok with
    | false => dsimp only; omega
    | true =>
      simp only [boardTimerElapsedUs, boardUsTimerCounter]
      omega

theorem delayLoop_reads (startUs microseconds : UInt32) (guard : Nat) (c : Counts) :
    (delayLoop env startUs microseconds guard c).reads ≤ c.reads + guard := by
  induction guard generalizing c with
  | zero => exact Nat.le_refl _
  | succ guard ih =>
    have hreads := ih ⟨c.polls, c.reads + 1⟩
    dsimp only at hreads
    rw [delayLoop_succ]
    split_ifs
    · omega
    · dsimp only; omega

theorem boardDelayUs_reads (microseconds : UInt32) (c : Counts) :
    (boardDelayUs env microseconds c).reads ≤ c.reads + 1 + appBusyWaitGuard := by
  unfold boardDelayUs
  exact delayLoop_reads env _ microseconds appBusyWaitGuard _

end

/-! ## The 82 measurements -/

section pulses
variable (env : DhtEnv) (deadlineStartUs : UInt32) (start : Counts)

/-- The counts before measurement `k`. -/
def countsAt : Nat → Counts
  | 0 => start
  | k + 1 => (dhtMeasurePulse env (segmentLevel k) deadlineStartUs (countsAt k)).2

/-- The width that measurement `k` finds, `none` for a timeout. -/
def pulseAt (k : Nat) : Option UInt16 :=
  (dhtMeasurePulse env (segmentLevel k) deadlineStartUs (countsAt env deadlineStartUs start k)).1

/-- The error code of a failure of measurement `k`. -/
def failureCode (k : Nat) : DhtErrorCode :=
  if k = 0 then .responseLowTimeout
  else if k = 1 then .responseHighTimeout
  else if segmentLevel k then .dataHighTimeout else .dataLowTimeout

theorem failureCode_low (b : Nat) : failureCode (2 + 2 * b) = .dataLowTimeout := by
  rw [failureCode, if_neg (by omega), if_neg (by omega), segmentLevel_low]
  rfl

theorem failureCode_high (b : Nat) : failureCode (2 + 2 * b + 1) = .dataHighTimeout := by
  rw [failureCode, if_neg (by omega), if_neg (by omega), segmentLevel_high]
  rfl

theorem failureCode_ne_none (k : Nat) : failureCode k ≠ .none := by
  unfold failureCode
  split_ifs <;> decide

/-- The first of the `n` measurements from `k` on that fails. -/
def firstFailure (k n : Nat) : Option Nat :=
  (List.range' k n).find? fun i => (pulseAt env deadlineStartUs start i).isNone

/-- The bits of byte `byteIndex`, from the widths of their high pulses. -/
def receivedByte (byteIndex : Nat) : UInt8 :=
  (List.range' (8 * byteIndex) 8).foldl
    (fun byte b => pushBit byte ((pulseAt env deadlineStartUs start (3 + 2 * b)).getD 0)) 0

def receivedData : List UInt8 := (List.range 5).map (receivedByte env deadlineStartUs start)

theorem dhtMeasurePulse_eq (k : Nat) :
    dhtMeasurePulse env (segmentLevel k) deadlineStartUs (countsAt env deadlineStartUs start k) =
      (pulseAt env deadlineStartUs start k, countsAt env deadlineStartUs start (k + 1)) := by
  rw [pulseAt, countsAt, Prod.mk.eta]

theorem firstFailure_succ (k n : Nat) : firstFailure env deadlineStartUs start k (n + 1) =
    if (pulseAt env deadlineStartUs start k).isNone then some k
    else firstFailure env deadlineStartUs start (k + 1) n := by
  rw [firstFailure, List.range'_succ, List.find?_cons]
  cases (pulseAt env deadlineStartUs start k).isNone <;> rfl

theorem firstFailure_add (k m n : Nat) : firstFailure env deadlineStartUs start k (m + n) =
    (firstFailure env deadlineStartUs start k m).or (firstFailure env deadlineStartUs start (k + m) n) := by
  rw [firstFailure, ← List.range'_append_1, List.find?_append]
  rfl

theorem countsAt_bound (k : Nat) :
    (countsAt env deadlineStartUs start k).polls ≤ start.polls + k * (2 * appDhtLoopGuard) ∧
      (countsAt env deadlineStartUs start k).reads ≤ start.reads + k * (3 * appDhtLoopGuard + 2) := by
  induction k with
  | zero => exact ⟨by simp [countsAt], by simp [countsAt]⟩
  | succ k ih =>
    have hpulse := measurePulse_counts env appDhtLoopGuard (segmentLevel k) deadlineStartUs
      (countsAt env deadlineStartUs start k)
    rw [countsAt, Nat.add_mul, Nat.add_mul, Nat.one_mul, Nat.one_mul]
    unfold dhtMeasurePulse
    omega

/-- **The bit loop** is the measurements of its bits: it ends with the first that fails. -/
theorem readBits_pulses (n b : Nat) (acc : BitAcc) : ∃ acc', ∃ j ≤ 2 + 2 * (b + n),
    readBits env deadlineStartUs n acc (countsAt env deadlineStartUs start (2 + 2 * b)) =
      ((firstFailure env deadlineStartUs start (2 + 2 * b) (2 * n)).map failureCode, acc',
        countsAt env deadlineStartUs start j) ∧
    (firstFailure env deadlineStartUs start (2 + 2 * b) (2 * n) = none → j = 2 + 2 * (b + n) ∧
      acc'.byte = (List.range' b n).foldl
        (fun byte b => pushBit byte ((pulseAt env deadlineStartUs start (3 + 2 * b)).getD 0)) acc.byte) := by
  induction n generalizing b acc with
  | zero => exact ⟨acc, 2 + 2 * b, Nat.le_refl _, rfl, fun _ => ⟨rfl, rfl⟩⟩
  | succ n ih =>
    have hmeasureLow := dhtMeasurePulse_eq env deadlineStartUs start (2 + 2 * b)
    have hmeasureHigh := dhtMeasurePulse_eq env deadlineStartUs start (2 + 2 * b + 1)
    rw [segmentLevel_low] at hmeasureLow
    rw [segmentLevel_high] at hmeasureHigh
    rw [show 2 * (n + 1) = 2 * n + 1 + 1 by omega, firstFailure_succ, firstFailure_succ]
    cases hp : pulseAt env deadlineStartUs start (2 + 2 * b) with
    | none =>
      refine ⟨acc, 2 + 2 * b + 1, by omega, ?_, fun h => by cases h⟩
      rw [readBits, hmeasureLow, hp, Option.isNone_none, if_pos rfl, Option.map_some, failureCode_low]
    | some lowUs =>
      cases hp' : pulseAt env deadlineStartUs start (2 + 2 * b + 1) with
      | none =>
        refine ⟨acc, 2 + 2 * b + 1 + 1, by omega, ?_, fun h => by cases h⟩
        rw [readBits, hmeasureLow, hp]
        dsimp only
        rw [hmeasureHigh, hp']
        simp [failureCode_high]
      | some highUs =>
        obtain ⟨acc', j, hj, hread, hall⟩ := ih (b + 1) ⟨pushBit acc.byte highUs, lowUs, highUs⟩
        have hnext : 2 + 2 * b + 1 + 1 = 2 + 2 * (b + 1) := by omega
        rw [hnext] at hmeasureHigh ⊢
        refine ⟨acc', j, by omega, ?_, fun h => ?_⟩
        · rw [readBits, hmeasureLow, hp]
          dsimp only
          rw [hmeasureHigh, hp']
          exact hread
        · obtain ⟨hend, hbyte⟩ := hall h
          refine ⟨by omega, ?_⟩
          rw [hbyte, List.range'_succ, List.foldl_cons, show 3 + 2 * b = 2 + 2 * b + 1 by omega, hp']
          rfl

theorem receivedData_getD (k : Nat) (hk : k < 5) :
    (receivedData env deadlineStartUs start).getD k 0 = receivedByte env deadlineStartUs start k := by
  have hlen : k < (receivedData env deadlineStartUs start).length := by
    rw [receivedData, List.length_map, List.length_range]
    exact hk
  rw [List.getD_eq_getElem _ _ hlen]
  simp [receivedData]

/-- **The byte loop** is the measurements of its bytes, and fills in the bytes received. -/
theorem readBytes_pulses (n : Nat) {k : Nat} (hk : k + n = 5) (acc : DataAcc)
    (hdata : acc.data = (receivedData env deadlineStartUs start).take k ++ List.replicate n 0) :
    ∃ acc', ∃ j ≤ 82,
      readBytes env deadlineStartUs (List.range' k n) acc (countsAt env deadlineStartUs start (2 + 16 * k)) =
        ((firstFailure env deadlineStartUs start (2 + 16 * k) (16 * n)).map failureCode, acc',
          countsAt env deadlineStartUs start j) ∧
      (firstFailure env deadlineStartUs start (2 + 16 * k) (16 * n) = none →
        acc'.data = receivedData env deadlineStartUs start) := by
  have hlength : (receivedData env deadlineStartUs start).length = 5 := by
    rw [receivedData, List.length_map, List.length_range]
  induction n generalizing k acc with
  | zero =>
    refine ⟨acc, 2 + 16 * k, by omega, rfl, fun _ => ?_⟩
    rw [hdata, List.replicate_zero, List.append_nil, List.take_of_length_le (by omega)]
  | succ n ih =>
    obtain ⟨hget, hset⟩ := filled_next (by omega) hdata
    obtain ⟨bits, j, hj, hread, hall⟩ :=
      readBits_pulses env deadlineStartUs start 8 (8 * k) ⟨0, acc.bitLowUs, acc.bitHighUs⟩
    rw [show 2 + 2 * (8 * k) = 2 + 16 * k by omega, show 2 * 8 = 16 from rfl] at hread hall
    rw [show 16 * (n + 1) = 16 + 16 * n by omega, firstFailure_add, List.range'_succ, readBytes, hget, hread]
    cases hfirst : firstFailure env deadlineStartUs start (2 + 16 * k) 16 with
    | some i =>
      refine ⟨_, j, by omega, rfl, fun h => by cases h⟩
    | none =>
      obtain ⟨hend, hbyte⟩ := hall hfirst
      have hreceived : receivedByte env deadlineStartUs start k = bits.byte := hbyte.symm
      rw [receivedData_getD _ _ _ k (by omega), hreceived] at hset
      obtain ⟨acc', j', hj', hrest, hdone⟩ := ih (k := k + 1) (by omega)
        ⟨acc.data.set k bits.byte, bits.bitLowUs, bits.bitHighUs⟩ hset
      rw [show 2 + 16 * (k + 1) = 2 + 16 * k + 16 by omega] at hrest hdone
      rw [hend, show 2 + 2 * (8 * k + 8) = 2 + 16 * k + 16 by omega]
      exact ⟨acc', j', hj', hrest, hdone⟩

/-- **The frame** is the 82 measurements: its error is that of the first one that fails. -/
theorem readFrame_pulses : ∃ j ≤ 82,
    (readFrame env deadlineStartUs start).2 = countsAt env deadlineStartUs start j ∧
    (readFrame env deadlineStartUs start).1.error =
      (firstFailure env deadlineStartUs start 0 82).map failureCode ∧
    (firstFailure env deadlineStartUs start 0 82 = none →
      (readFrame env deadlineStartUs start).1.acc.data = receivedData env deadlineStartUs start) := by
  have hmeasureLow := dhtMeasurePulse_eq env deadlineStartUs start 0
  have hmeasureHigh := dhtMeasurePulse_eq env deadlineStartUs start 1
  rw [firstFailure_succ, firstFailure_succ, readFrame]
  rw [show segmentLevel 0 = false from rfl, countsAt] at hmeasureLow
  rw [show segmentLevel 1 = true from rfl] at hmeasureHigh
  rw [hmeasureLow]
  cases hp : pulseAt env deadlineStartUs start 0 with
  | none => exact ⟨1, by omega, rfl, rfl, fun h => by cases h⟩
  | some respLowUs =>
    dsimp only
    rw [hmeasureHigh]
    cases hp' : pulseAt env deadlineStartUs start 1 with
    | none => exact ⟨2, by omega, rfl, rfl, fun h => by cases h⟩
    | some respHighUs =>
      dsimp only
      obtain ⟨acc, j, hj, hread, hall⟩ :=
        readBytes_pulses env deadlineStartUs start 5 (k := 0) rfl emptyData rfl
      rw [show 2 + 16 * 0 = 2 from rfl, show 16 * 5 = 80 from rfl] at hread hall
      rw [show List.range 5 = List.range' 0 5 from rfl, hread]
      cases hfirst : firstFailure env deadlineStartUs start 2 80 with
      | some i => exact ⟨j, hj, rfl, rfl, fun h => by cases h⟩
      | none => exact ⟨j, hj, rfl, rfl, fun _ => hall hfirst⟩

end pulses

/-! ## The call -/

/-- The first poll of a call, its deadline and the counts before it. -/
def frameStart (env : DhtEnv) : Counts :=
  boardDelayUs env appDht22PullUs ⟨(startCounts env).polls, (startCounts env).reads + 1⟩

def frameDeadline (env : DhtEnv) : UInt32 := env.timer (startCounts env).polls (startCounts env).reads

/-- The width that the `k`-th call of `DhtMeasurePulse` in `DhtRead` finds. -/
def dhtPulse (env : DhtEnv) (k : Nat) : Option UInt16 := pulseAt env (frameDeadline env) (frameStart env) k

def dhtFirstFailure (env : DhtEnv) : Option Nat := firstFailure env (frameDeadline env) (frameStart env) 0 82

def dhtData (env : DhtEnv) : List UInt8 := receivedData env (frameDeadline env) (frameStart env)

/-- The value of `DhtLastError`. -/
def DhtErrorCode.value : DhtErrorCode → UInt32
  | .none => 0
  | .timerNotReady => 1
  | .responseLowTimeout => 2
  | .responseHighTimeout => 3
  | .dataLowTimeout => 4
  | .dataHighTimeout => 5
  | .checksum => 6

/-- The first failure of a call in program order. -/
def dhtFailure (env : DhtEnv) : DhtErrorCode :=
  if !env.timerReady then .timerNotReady
  else
    match dhtFirstFailure env with
    | some k => failureCode k
    | none => if checksumOk (dhtData env) then .none else .checksum

theorem dhtFailure_not_ready {env : DhtEnv} (hready : env.timerReady = false) :
    dhtFailure env = .timerNotReady := by
  rw [dhtFailure, hready]
  rfl

/-- All 82 measurements succeed iff none of them is the first to fail. -/
theorem dhtFirstFailure_none_iff (env : DhtEnv) :
    dhtFirstFailure env = none ↔ ∀ k < 82, (dhtPulse env k).isSome = true := by
  unfold dhtFirstFailure firstFailure
  rw [List.find?_eq_none]
  constructor
  · intro h k hk
    have hmem : k ∈ List.range' 0 82 := List.mem_range'_1.2 ⟨Nat.zero_le k, by omega⟩
    have hsome := h k hmem
    rwa [Bool.not_eq_true, Option.isNone_eq_false_iff] at hsome
  · intro h k hk
    have hlt := (List.mem_range'_1.1 hk).2
    rw [Bool.not_eq_true, Option.isNone_eq_false_iff]
    exact h k (by omega)

/-- The frame of a call, in terms of its measurements. -/
theorem timedFrame_pulses (env : DhtEnv) :
    (timedFrame env (startCounts env)).2.polls ≤ 82 * (2 * appDhtLoopGuard) ∧
    (timedFrame env (startCounts env)).2.reads ≤
      2 * (1 + appBusyWaitGuard) + 1 + 82 * (3 * appDhtLoopGuard + 2) ∧
    (timedFrame env (startCounts env)).1.error = (dhtFirstFailure env).map failureCode ∧
    (dhtFirstFailure env = none → (timedFrame env (startCounts env)).1.acc.data = dhtData env) := by
  obtain ⟨j, hj, hcounts, herror, hdata⟩ := readFrame_pulses env (frameDeadline env) (frameStart env)
  obtain ⟨hpolls, hreads⟩ := countsAt_bound env (frameDeadline env) (frameStart env) j
  have hstartPolls : (frameStart env).polls = 0 := by
    rw [frameStart, boardDelayUs_polls]
    exact startCounts_polls env
  have hstartReads : (frameStart env).reads ≤ 2 * (1 + appBusyWaitGuard) + 1 := by
    have hstart := boardDelayUs_reads env appDht22StartUs ⟨0, 0⟩
    have hpull := boardDelayUs_reads env appDht22PullUs ⟨(startCounts env).polls, (startCounts env).reads + 1⟩
    dsimp only at hstart hpull
    have hstart' : (startCounts env).reads ≤ 0 + 1 + appBusyWaitGuard := hstart
    have hpull' : (frameStart env).reads ≤ (startCounts env).reads + 1 + 1 + appBusyWaitGuard := hpull
    omega
  rw [timedFrame_eq]
  change (readFrame env (frameDeadline env) (frameStart env)).2.polls ≤ _ ∧
    (readFrame env (frameDeadline env) (frameStart env)).2.reads ≤ _ ∧
    (readFrame env (frameDeadline env) (frameStart env)).1.error = _ ∧ _
  rw [hcounts]
  refine ⟨hpolls.trans ?_, hreads.trans ?_, herror, hdata⟩
  · rw [hstartPolls, Nat.zero_add]
    exact Nat.mul_le_mul_right _ hj
  · exact Nat.add_le_add hstartReads (Nat.mul_le_mul_right _ hj)

/-- `dhtRead` in terms of the measurements. -/
theorem dhtRead_pulses {env : DhtEnv} (hready : env.timerReady = true) (s : DhtState) :
    (dhtRead env s).1 = (if dhtFailure env = .none then some (decode (dhtData env)) else none) ∧
      (dhtRead env s).2.1.diag.lastError = dhtFailure env ∧
      (dhtRead env s).2.1.irqMasked = s.irqMasked ∧ (dhtRead env s).2.1.pinOutput = false ∧
      (dhtRead env s).2.2 = (timedFrame env (startCounts env)).2 := by
  obtain ⟨-, -, herror, hdata⟩ := timedFrame_pulses env
  unfold dhtRead dhtFailure
  generalize timedFrame env (startCounts env) = p at herror hdata ⊢
  obtain ⟨frame, c⟩ := p
  dsimp only at herror hdata
  simp only [hready, Bool.not_true, Bool.false_eq_true, if_false]
  unfold finalError
  rw [herror]
  refine ⟨?_, ?_, ?_, trivial, trivial⟩
  · cases hfirst : dhtFirstFailure env with
    | some k => exact (if_neg (failureCode_ne_none k)).symm
    | none =>
      rw [hdata hfirst]
      cases checksumOk (dhtData env) <;> rfl
  · cases hfirst : dhtFirstFailure env with
    | some k => rfl
    | none => rw [hdata hfirst]; rfl
  · cases s.irqMasked <;> rfl

theorem dhtFailure_none_iff (env : DhtEnv) : dhtFailure env = .none ↔
    env.timerReady = true ∧ (∀ k < 82, (dhtPulse env k).isSome = true) ∧
      checksumOk (dhtData env) = true := by
  rw [← dhtFirstFailure_none_iff, dhtFailure]
  cases env.timerReady with
  | false => simp
  | true =>
    cases dhtFirstFailure env with
    | some k => simp [failureCode_ne_none]
    | none => cases checksumOk (dhtData env) <;> simp

/-- The reading that a call comes to: that of a frame without failure. -/
def dhtReading (env : DhtEnv) : Option DhtReading :=
  if dhtFailure env = .none then some (decode (dhtData env)) else none

theorem dhtRead_reading (env : DhtEnv) (s : DhtState) : (dhtRead env s).1 = dhtReading env := by
  cases hready : env.timerReady with
  | true => exact (dhtRead_pulses hready s).1
  | false =>
    unfold dhtRead dhtReading
    rw [hready, dhtFailure_not_ready hready]
    rfl

theorem DhtErrorCode.value_eq_zero_iff (e : DhtErrorCode) : e.value = 0 ↔ e = .none := by
  cases e <;> decide

/-- Without a timer only `DhtLastError` changes. -/
theorem dhtReadInto_not_ready {env : DhtEnv} (hready : env.timerReady = false) (m : DhtMemory) :
    dhtReadInto env m = (false, { m with state := { m.state with
      diag := { m.state.diag with lastError := .timerNotReady } } }, ⟨0, 0⟩) := by
  unfold dhtReadInto
  rw [hready]
  rfl

/-- **`DhtRead` fails cleanly**, whatever line, timer and PRIMASK are: it ends after a bounded number of
polls and readings, gives back interrupts and pin, writes the two floats iff it returns `true`, which
is when timer, measurements and checksum are right, and leaves the code of the first failure. -/
theorem dhtRead_fails_cleanly (env : DhtEnv) (m : DhtMemory) :
    let result := (dhtReadInto env m).1
    let after := (dhtReadInto env m).2.1
    let counts := (dhtReadInto env m).2.2
    (counts.polls ≤ 82 * (2 * appDhtLoopGuard) ∧
      counts.reads ≤ 2 * (1 + appBusyWaitGuard) + 1 + 82 * (3 * appDhtLoopGuard + 2)) ∧
    after.state.irqMasked = m.state.irqMasked ∧
    (env.timerReady = true → after.state.pinOutput = false) ∧
    (result = true → after.temperatureC = m.temperatureC.store (decode (dhtData env)).temperatureC ∧
      after.humidityPct = m.humidityPct.store (decode (dhtData env)).humidityPct) ∧
    (result = false → after.temperatureC = m.temperatureC ∧ after.humidityPct = m.humidityPct) ∧
    (result = true ↔ env.timerReady = true ∧ (∀ k < 82, (dhtPulse env k).isSome = true) ∧
      checksumOk (dhtData env) = true) ∧
    after.state.diag.lastError = dhtFailure env ∧
    (after.state.diag.lastError.value = 0 ↔ result = true) ∧
    (env.timerReady = false → counts = ⟨0, 0⟩ ∧ after = { m with state := { m.state with
      diag := { m.state.diag with lastError := .timerNotReady } } }) := by
  intro result after counts
  cases hready : env.timerReady with
  | false =>
    have hcall := dhtReadInto_not_ready hready m
    have hresult : result = false := congrArg Prod.fst hcall
    have hafter : after = _ := congrArg (·.2.1) hcall
    have hcounts : counts = ⟨0, 0⟩ := congrArg (·.2.2) hcall
    rw [hresult, hafter, hcounts, dhtFailure_not_ready hready]
    simp [DhtErrorCode.value]
  | true =>
    have hcall := dhtReadInto_eq env m
    obtain ⟨hreading, herror, hirq, hpin, hpolls⟩ := dhtRead_pulses hready m.state
    obtain ⟨hboundPolls, hboundReads, -, -⟩ := timedFrame_pulses env
    have hresult : result = decide (dhtFailure env = .none) := by
      have h : result = (dhtRead env m.state).1.isSome := congrArg Prod.fst hcall
      rw [h, hreading]
      split_ifs with hnone <;> simp [hnone]
    have hafter : after = _ := congrArg (·.2.1) hcall
    have hcounts : counts = (dhtRead env m.state).2.2 := congrArg (·.2.2) hcall
    have hiff := dhtFailure_none_iff env
    rw [hready] at hiff
    rw [hresult, hafter, hcounts, hpolls]
    dsimp only
    rw [hirq, hpin, herror, hreading, DhtErrorCode.value_eq_zero_iff, decide_eq_true_iff,
      decide_eq_false_iff_not]
    refine ⟨⟨hboundPolls, hboundReads⟩, rfl, fun _ => rfl, fun h => ?_, fun h => ?_, hiff, rfl, Iff.rfl,
      fun h => by cases h⟩
    · rw [if_pos h]
      exact ⟨rfl, rfl⟩
    · rw [if_neg h]
      exact ⟨rfl, rfl⟩

end SmartAc
