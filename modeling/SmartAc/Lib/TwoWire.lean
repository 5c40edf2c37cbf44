import Mathlib.Tactic.Common

/-!
# A receiver on two wires

A master writes a clock line and a data line, one at a time. The receiver sees a start when the data
line falls while the clock is high and a stop when it rises while the clock is high; in between it
samples the data line at each rising edge of the clock, eight bits to a byte, the least significant
first, and one more clock for the acknowledgement. What is left over at a stop is discarded.

Whatever the receiver's state, a bit is sampled and nothing else happens if the data line moves while
the clock is low (`receive_bit`); bytes, starts and stops are runs of these.

The master also reads the data line. An analyser on the wires notes at which acknowledgement clock it does
(`Analyser`): there the slave answers, and a reading at any other time is not an answer.
-/

namespace TwoWire

/-- A write to one of the lines, `true` for high. -/
inductive Write where
  | clk (high : Bool)
  | dio (high : Bool)
deriving DecidableEq, Repr

/-- What the receiver sees; a stop carries the bytes since the start. -/
inductive Event where
  | start
  | stop (bytes : List UInt8)
deriving DecidableEq, Repr

/-- The lines as last written, the bits since the start (`none` outside a transmission) and what was
seen so far. -/
structure Receiver where
  clk : Bool
  dio : Bool
  bits : Option (List Bool)
  events : List Event
deriving DecidableEq, Repr

/-- Both lines high, nothing seen. -/
def Receiver.idle : Receiver := ⟨true, true, none, []⟩

/-- The byte of eight bits, the least significant first. -/
def byteOf (bits : List Bool) : UInt8 := bits.foldr (fun bit byte => byte <<< 1 ||| bit.toUInt8) 0

/-- Groups of eight data bits and an acknowledgement; an incomplete group is discarded. -/
def bytesOf : List Bool → List UInt8
  | b0 :: b1 :: b2 :: b3 :: b4 :: b5 :: b6 :: b7 :: _ :: rest =>
    byteOf [b0, b1, b2, b3, b4, b5, b6, b7] :: bytesOf rest
  | _ => []

/-- The receiver after one write. -/
def Receiver.next (r : Receiver) : Write → Receiver
  | .clk high =>
    { r with
      clk := high
      bits := if high && !r.clk then r.bits.map (· ++ [r.dio]) else r.bits }
  | .dio high =>
    if r.clk && r.dio && !high then
      { r with dio := high, bits := some [], events := r.events ++ [.start] }
    else if r.clk && !r.dio && high then
      { r with dio := high, bits := none, events := r.events ++ [.stop (bytesOf (r.bits.getD []))] }
    else { r with dio := high }

def receive (r : Receiver) (writes : List Write) : Receiver := writes.foldl Receiver.next r

theorem receive_append (r : Receiver) (ws ws' : List Write) :
    receive r (ws ++ ws') = receive (receive r ws) ws' := List.foldl_append

/-! ## Readings -/

/-- A step of the master: a write, or a reading of the data line with the level it showed. -/
inductive Op where
  | write (w : Write)
  | read (level : Bool)
deriving DecidableEq, Repr

def Op.write? : Op → Option Write
  | .write w => some w
  | .read _ => none

def writesOf (ops : List Op) : List Write := ops.filterMap Op.write?

def opsOf (writes : List Write) : List Op := writes.map .write

/-- The clock is high, and its rising edge has sampled the ninth bit of a group. -/
def Receiver.atAck (r : Receiver) : Bool := r.clk && r.bits.any fun bits => bits != [] && bits.length % 9 == 0

/-- The number of acknowledgement clocks so far, and the levels read, each with the acknowledgement clock
at which it was read (`none` for any other time). -/
@[ext] structure Analyser where
  receiver : Receiver
  ackClocks : Nat
  readings : List (Option Nat × Bool)
deriving DecidableEq, Repr

def Analyser.idle : Analyser := ⟨.idle, 0, []⟩

def Analyser.next (a : Analyser) : Op → Analyser
  | .write w =>
    let receiver := a.receiver.next w
    { a with receiver, ackClocks := if !a.receiver.clk && receiver.atAck then a.ackClocks + 1 else a.ackClocks }
  | .read level =>
    { a with readings := a.readings ++ [(if a.receiver.atAck then some (a.ackClocks - 1) else none, level)] }

def analyse (a : Analyser) (ops : List Op) : Analyser := ops.foldl Analyser.next a

theorem analyse_append (a : Analyser) (ops ops' : List Op) :
    analyse a (ops ++ ops') = analyse (analyse a ops) ops' := List.foldl_append

@[simp] theorem writesOf_append (ops ops' : List Op) : writesOf (ops ++ ops') = writesOf ops ++ writesOf ops' :=
  List.filterMap_append

@[simp] theorem writesOf_opsOf (writes : List Write) : writesOf (opsOf writes) = writes := by
  simp [writesOf, opsOf, List.filterMap_map, Op.write?, Function.comp_def]

/-- The receiver sees the writes only. -/
theorem analyse_receiver (a : Analyser) (ops : List Op) :
    (analyse a ops).receiver = receive a.receiver (writesOf ops) := by
  induction ops generalizing a with
  | nil => rfl
  | cons op ops ih =>
    change (analyse (a.next op) ops).receiver = _
    rw [ih]
    cases op <;> rfl

/-! ## What a master writes -/

def startWrites : List Write := [.dio true, .clk true, .dio false, .clk false]

def stopWrites : List Write := [.clk false, .dio false, .clk true, .dio true]

def bitWrites (bit : Bool) : List Write := [.clk false, .dio bit, .clk true]

/-- The bits of a byte, the least significant first. -/
def bitsOf (byte : UInt8) : List Bool := (List.range 8).map byte.toNat.testBit

/-- The eight bits, then a clock with the data line released, left with the clock low. -/
def byteWrites (byte : UInt8) : List Write :=
  (bitsOf byte).flatMap bitWrites ++ bitWrites true ++ [.clk false]

/-- A whole transmission. -/
def transmission (bytes : List UInt8) : List Write :=
  startWrites ++ bytes.flatMap byteWrites ++ stopWrites

/-- A byte whose acknowledgement clock is read. -/
def byteOps (byte : UInt8) (level : Bool) : List Op :=
  opsOf ((bitsOf byte).flatMap bitWrites ++ bitWrites true) ++ [.read level, .write (.clk false)]

section
variable (level : Nat → Bool)

/-- Bytes of which the first is answered with the `n`-th level. -/
def bytesOps : Nat → List UInt8 → List Op
  | _, [] => []
  | n, byte :: bytes => byteOps byte (level n) ++ bytesOps (n + 1) bytes

def transmissionOps (n : Nat) (bytes : List UInt8) : List Op :=
  opsOf startWrites ++ bytesOps level n bytes ++ opsOf stopWrites

theorem writesOf_byteOps (byte : UInt8) (answer : Bool) : writesOf (byteOps byte answer) = byteWrites byte := by
  rw [byteOps, writesOf_append, writesOf_opsOf]
  rfl

theorem writesOf_bytesOps (n : Nat) (bytes : List UInt8) :
    writesOf (bytesOps level n bytes) = bytes.flatMap byteWrites := by
  induction bytes generalizing n with
  | nil => rfl
  | cons byte bytes ih => rw [bytesOps, writesOf_append, writesOf_byteOps, ih, List.flatMap_cons]

theorem writesOf_transmissionOps (n : Nat) (bytes : List UInt8) :
    writesOf (transmissionOps level n bytes) = transmission bytes := by
  rw [transmissionOps, writesOf_append, writesOf_append, writesOf_opsOf, writesOf_opsOf, writesOf_bytesOps,
    transmission]

end

/-! ## Grouping -/

/-- What the receiver samples of a byte. -/
def sampled (byte : UInt8) : List Bool := bitsOf byte ++ [true]

theorem byteOf_bitsOf (byte : UInt8) : byteOf (bitsOf byte) = byte := by
  have hall : ∀ n < 256, byteOf (bitsOf (UInt8.ofNat n)) = UInt8.ofNat n := by decide +kernel
  have h := hall byte.toNat byte.toNat_lt
  rwa [UInt8.ofNat_toNat] at h

theorem bytesOf_sampled (byte : UInt8) (rest : List Bool) :
    bytesOf (sampled byte ++ rest) = byte :: bytesOf rest := by
  have hbyte := byteOf_bitsOf byte
  show byteOf (bitsOf byte) :: bytesOf rest = byte :: bytesOf rest
  rw [hbyte]

/-- The bytes of complete groups; one more bit is an incomplete group. -/
theorem bytesOf_groups (bytes : List UInt8) (bit : Bool) :
    bytesOf (bytes.flatMap sampled ++ [bit]) = bytes := by
  induction bytes with
  | nil => rfl
  | cons byte bytes ih => rw [List.flatMap_cons, List.append_assoc, bytesOf_sampled, ih]

/-! ## What the receiver makes of it -/

/-- The data line moves only while the clock is low: one bit is sampled. -/
theorem receive_bit (r : Receiver) (bit : Bool) :
    receive r (bitWrites bit) =
      { r with clk := true, dio := bit, bits := r.bits.map (· ++ [bit]) } := by
  simp [receive, bitWrites, Receiver.next]

theorem receive_bits (r : Receiver) (bs bits : List Bool) (hr : r.bits = some bs) (hne : bits ≠ []) :
    receive r (bits.flatMap bitWrites) =
      { r with clk := true, dio := bits.getLast hne, bits := some (bs ++ bits) } := by
  induction bits generalizing r bs with
  | nil => exact absurd rfl hne
  | cons bit bits ih =>
    rw [List.flatMap_cons, receive_append, receive_bit, hr]
    cases bits with
    | nil => rfl
    | cons next bits =>
      rw [ih _ (bs ++ [bit]) rfl (List.cons_ne_nil _ _)]
      simp

/-- A byte: its eight bits and the acknowledgement, and no start or stop. -/
theorem receive_byte (r : Receiver) (bs : List Bool) (hr : r.bits = some bs) (byte : UInt8) :
    receive r (byteWrites byte) =
      { r with clk := false, dio := true, bits := some (bs ++ sampled byte) } := by
  rw [byteWrites, receive_append, receive_append,
    receive_bits r bs _ hr (show bitsOf byte ≠ [] from List.cons_ne_nil _ _), receive_bit]
  simp [receive, Receiver.next, sampled]

theorem receive_bytes (r : Receiver) (bs : List Bool) (hr : r.bits = some bs) (bytes : List UInt8) :
    (receive r (bytes.flatMap byteWrites)).bits = some (bs ++ bytes.flatMap sampled) ∧
      (receive r (bytes.flatMap byteWrites)).events = r.events := by
  induction bytes generalizing r bs with
  | nil => exact ⟨by simpa [receive] using hr, rfl⟩
  | cons byte bytes ih =>
    rw [List.flatMap_cons, receive_append, receive_byte r bs hr]
    obtain ⟨hbits, hevents⟩ := ih { r with clk := false, dio := true, bits := some (bs ++ sampled byte) }
      (bs ++ sampled byte) rfl
    exact ⟨by rw [hbits, List.flatMap_cons, List.append_assoc], hevents⟩

/-- A start from high lines. -/
theorem receive_start (r : Receiver) (hclk : r.clk = true) (hdio : r.dio = true) :
    receive r startWrites =
      { clk := false, dio := false, bits := some [], events := r.events ++ [.start] } := by
  simp [receive, startWrites, Receiver.next, hclk, hdio]

/-- A stop: its clock edge samples one more bit, which is discarded. -/
theorem receive_stop (r : Receiver) (bytes : List UInt8) (hr : r.bits = some (bytes.flatMap sampled)) :
    receive r stopWrites =
      { clk := true, dio := true, bits := none, events := r.events ++ [.stop bytes] } := by
  have hbytes := bytesOf_groups bytes false
  simp [receive, stopWrites, Receiver.next, hr, hbytes]

/-- **A transmission** from high lines is seen as a start and a stop with its bytes, and leaves the
lines high. -/
theorem receive_transmission (r : Receiver) (hclk : r.clk = true) (hdio : r.dio = true)
    (bytes : List UInt8) :
    receive r (transmission bytes) =
      { clk := true, dio := true, bits := none, events := r.events ++ [.start, .stop bytes] } := by
  rw [transmission, receive_append, receive_append, receive_start r hclk hdio]
  obtain ⟨hbits, hevents⟩ := receive_bytes
    { clk := false, dio := false, bits := some [], events := r.events ++ [.start] } [] rfl bytes
  rw [receive_stop _ bytes hbits, hevents, List.append_assoc]
  rfl

/-! ## What the analyser makes of it -/

/-- A bit makes an acknowledgement clock if it completes a group of nine. -/
theorem analyse_bit (a : Analyser) (bs : List Bool) (ha : a.receiver.bits = some bs) (bit : Bool) :
    analyse a (opsOf (bitWrites bit)) =
      { a with
        receiver := receive a.receiver (bitWrites bit)
        ackClocks := if (bs.length + 1) % 9 = 0 then a.ackClocks + 1 else a.ackClocks } := by
  simp [analyse, opsOf, bitWrites, receive, Analyser.next, Receiver.next, Receiver.atAck, ha]

/-- Bits that complete no group. -/
theorem analyse_bits (a : Analyser) (bs bits : List Bool) (ha : a.receiver.bits = some bs)
    (hfew : bs.length % 9 + bits.length < 9) :
    analyse a (opsOf (bits.flatMap bitWrites)) =
      { a with receiver := receive a.receiver (bits.flatMap bitWrites) } := by
  induction bits generalizing a bs with
  | nil => rfl
  | cons bit bits ih =>
    rw [List.length_cons] at hfew
    have hopen : ¬ (bs.length + 1) % 9 = 0 := by omega
    have hlen : (bs ++ [bit]).length % 9 + bits.length < 9 := by
      rw [List.length_append, List.length_singleton]
      omega
    have hbits : (receive a.receiver (bitWrites bit)).bits = some (bs ++ [bit]) := by
      rw [receive_bit, ha]
      rfl
    rw [List.flatMap_cons, opsOf, List.map_append, analyse_append]
    change analyse (analyse a (opsOf (bitWrites bit))) (opsOf (bits.flatMap bitWrites)) = _
    rw [analyse_bit a bs ha, if_neg hopen, ih _ (bs ++ [bit]) hbits hlen, receive_append]

/-- A byte: its answer is read at the one acknowledgement clock it has. -/
theorem analyse_byte (a : Analyser) (bs : List Bool) (ha : a.receiver.bits = some bs)
    (hgroups : bs.length % 9 = 0) (byte : UInt8) (level : Bool) :
    analyse a (byteOps byte level) =
      { receiver := { a.receiver with clk := false, dio := true, bits := some (bs ++ sampled byte) }
        ackClocks := a.ackClocks + 1
        readings := a.readings ++ [(some a.ackClocks, level)] } := by
  have hlen : (bitsOf byte).length = 8 := rfl
  have hbits := receive_bits a.receiver bs _ ha (show bitsOf byte ≠ [] from List.cons_ne_nil _ _)
  have hnine : (bs ++ bitsOf byte).length + 1 = 9 * (bs.length / 9 + 1) := by
    rw [List.length_append, hlen]
    omega
  have hdata := analyse_bits a bs (bitsOf byte) ha (by omega)
  rw [hbits] at hdata
  have hack : (bs.length + 9) % 9 = 0 := by omega
  rw [byteOps, opsOf, List.map_append, analyse_append, analyse_append]
  change analyse (analyse (analyse a (opsOf ((bitsOf byte).flatMap bitWrites))) (opsOf (bitWrites true))) _ = _
  rw [hdata, analyse_bit _ (bs ++ bitsOf byte) rfl, hnine, if_pos (Nat.mul_mod_right 9 _), receive_bit]
  simp [analyse, Analyser.next, Receiver.next, Receiver.atAck, sampled, hlen, hack]

/-- Groups of nine. -/
theorem length_sampled (bytes : List UInt8) : (bytes.flatMap sampled).length = 9 * bytes.length := by
  induction bytes with
  | nil => rfl
  | cons byte bytes ih =>
    have hbyte : (sampled byte).length = 9 := rfl
    rw [List.flatMap_cons, List.length_append, ih, hbyte, List.length_cons]
    omega

section
variable (level : Nat → Bool)

/-- What is read of answers that begin with the `n`-th level at acknowledgement clock `n`. -/
def answers (n count : Nat) : List (Option Nat × Bool) := (List.range' n count).map fun i => (some i, level i)

theorem answers_append (n k k' : Nat) : answers level n k ++ answers level (n + k) k' = answers level n (k + k') := by
  rw [answers, answers, answers, ← List.map_append, List.range'_append_1]

theorem analyse_bytes (a : Analyser) (bs : List Bool) (ha : a.receiver.bits = some bs)
    (hgroups : bs.length % 9 = 0) (n : Nat) (hn : a.ackClocks = n) (bytes : List UInt8) :
    (analyse a (bytesOps level n bytes)).ackClocks = n + bytes.length ∧
      (analyse a (bytesOps level n bytes)).readings = a.readings ++ answers level n bytes.length := by
  induction bytes generalizing a bs n with
  | nil => exact ⟨hn, (List.append_nil _).symm⟩
  | cons byte bytes ih =>
    rw [bytesOps, analyse_append, analyse_byte a bs ha hgroups, hn]
    have hlen : (sampled byte).length = 9 := rfl
    obtain ⟨hclocks, hreadings⟩ := ih
      { receiver := { a.receiver with clk := false, dio := true, bits := some (bs ++ sampled byte) }
        ackClocks := n + 1
        readings := a.readings ++ [(some n, level n)] }
      (bs ++ sampled byte) rfl (by rw [List.length_append, hlen]; omega) (n + 1) rfl
    refine ⟨by rw [hclocks, List.length_cons]; omega, ?_⟩
    rw [hreadings, List.length_cons, List.append_assoc]
    rfl

theorem analyse_start (a : Analyser) (hclk : a.receiver.clk = true) (hdio : a.receiver.dio = true) :
    analyse a (opsOf startWrites) =
      { a with receiver :=
          { clk := false, dio := false, bits := some [], events := a.receiver.events ++ [.start] } } := by
  simp [analyse, opsOf, startWrites, Analyser.next, Receiver.next, Receiver.atAck, hclk, hdio]

/-- The clock edge of a stop begins a group and completes none. -/
theorem analyse_stop (a : Analyser) (bs : List Bool) (ha : a.receiver.bits = some bs) (hgroups : bs.length % 9 = 0) :
    (analyse a (opsOf stopWrites)).ackClocks = a.ackClocks ∧
      (analyse a (opsOf stopWrites)).readings = a.readings := by
  have hopen : ¬ (bs.length + 1) % 9 = 0 := by omega
  simp [analyse, opsOf, stopWrites, Analyser.next, Receiver.next, Receiver.atAck, ha, hopen]

/-- **A transmission** has one acknowledgement clock for each byte, and there and nowhere else the data
line is read. -/
theorem analyse_transmission (a : Analyser) (hclk : a.receiver.clk = true) (hdio : a.receiver.dio = true)
    (n : Nat) (hn : a.ackClocks = n) (bytes : List UInt8) :
    analyse a (transmissionOps level n bytes) =
      { receiver :=
          { clk := true, dio := true, bits := none, events := a.receiver.events ++ [.start, .stop bytes] }
        ackClocks := n + bytes.length
        readings := a.readings ++ answers level n bytes.length } := by
  have hstart := analyse_start a hclk hdio
  have hbits : (analyse a (opsOf startWrites)).receiver.bits = some [] := by rw [hstart]
  have hbytes := analyse_bytes level _ [] hbits rfl n (by rw [hstart]; exact hn) bytes
  have hsampled : (analyse (analyse a (opsOf startWrites)) (bytesOps level n bytes)).receiver.bits =
      some (bytes.flatMap sampled) := by
    rw [analyse_receiver, writesOf_bytesOps]
    exact (receive_bytes _ [] hbits bytes).1
  have hstop := analyse_stop _ _ hsampled (by rw [length_sampled]; exact Nat.mul_mod_right 9 _)
  have hsplit : analyse a (transmissionOps level n bytes) =
      analyse (analyse (analyse a (opsOf startWrites)) (bytesOps level n bytes)) (opsOf stopWrites) := by
    rw [transmissionOps, analyse_append, analyse_append]
  refine Analyser.ext ?_ ?_ ?_
  · rw [analyse_receiver, writesOf_transmissionOps]
    exact receive_transmission _ hclk hdio bytes
  · rw [hsplit, hstop.1, hbytes.1]
  · rw [hsplit, hstop.2, hbytes.2, hstart]

end

end TwoWire
