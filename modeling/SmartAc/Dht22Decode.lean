import Mathlib.Data.List.GetD
import Mathlib.Data.Nat.Bitwise
import Mathlib.Tactic.NormNum
import SmartAc.Dht22Sensor

/-!
# Decoding a timed waveform

The bit loop reads one low and one high pulse for each bit and keeps `AtPulse`; the byte loop fills
`data` from index 0 on. What the bytes mean follows: a 16-bit humidity, a temperature in sign and
magnitude, and a checksum modulo 256.
-/

namespace SmartAc

open WrapClock

/-! ## The bits and the bytes -/

/-- A byte with one more bit. -/
def pushBool (byte : UInt8) (bit : Bool) : UInt8 := byte <<< 1 ||| (if bit then 1 else 0)

theorem pushBit_eq (byte : UInt8) {highUs : UInt16} {bit : Bool}
    (h : appDhtBitOneThresholdUs < highUs ↔ bit = true) : pushBit byte highUs = pushBool byte bit := by
  unfold pushBit pushBool
  cases bit with
  | true => rw [if_pos (h.2 rfl)]; rfl
  | false =>
    rw [if_neg (by simp [h])]
    simp

section timed
variable {K : Type*} [Field K] [LinearOrder K] [IsStrictOrderedRing K] [FloorSemiring K] {env : DhtEnv}
  {signal : K → Bool} {edge pollTime : Nat → K} {readTime : Nat → Nat → K} {d : K} {bytes : List UInt8}
  (hw : Waveform signal edge (pollTime 0) d bytes) (hp : Polls env signal pollTime readTime d)
  (ht : InTime env pollTime readTime edge d) (hr : TickMargin env readTime edge d bytes)

include hw hp hr in
/-- The measured high pulse of bit `b` is above the threshold iff the bit is 1. -/
theorem threshold_iff {b : Nat} (hb : b < 40) {highUs : UInt16}
    (hwide : edge (3 + 2 * b + 1) - edge (3 + 2 * b) - 3 * d - 1 < (highUs.toNat : K))
    (hnarrow : (highUs.toNat : K) < edge (3 + 2 * b + 1) - edge (3 + 2 * b) + 2 * d + 1) :
    appDhtBitOneThresholdUs < highUs ↔ frameBit bytes b = true := by
  have hlimit : appDhtBitOneThresholdUs.toNat = 50 := rfl
  have hnext : 3 + 2 * b + 1 = 4 + 2 * b := by omega
  have hd := interval_nonneg hp
  rw [UInt16.lt_iff_toNat_lt, hlimit]
  rw [hnext] at hwide hnarrow
  cases hbit : frameBit bytes b with
  | true =>
    have hlong := hr.one b hb hbit
    have habove : ((50 : Nat) : K) < (highUs.toNat : K) := by
      push_cast
      linarith
    exact ⟨fun _ => rfl, fun _ => by exact_mod_cast habove⟩
  | false =>
    have hshort := hw.zero b hb hbit
    have hbelow : (highUs.toNat : K) < ((51 : Nat) : K) := by
      push_cast
      linarith
    have hnat : highUs.toNat < 51 := by exact_mod_cast hbelow
    exact ⟨fun h => by omega, fun h => by cases h⟩

include hw hp ht hr in
/-- **The bit loop** reads the next `n` bits of the frame. -/
theorem readBits_decodes (n : Nat) {b : Nat} (hn : b + n ≤ 40) (acc : BitAcc) {c : Counts}
    (hc : AtPulse edge pollTime d (2 + 2 * b) c) :
    ∃ acc' c', readBits env (deadlineStart env) n acc c = (none, acc', c') ∧
      AtPulse edge pollTime d (2 + 2 * (b + n)) c' ∧
      acc'.byte = ((List.range' b n).map (frameBit bytes)).foldl pushBool acc.byte := by
  induction n generalizing b acc c with
  | zero => exact ⟨acc, c, rfl, hc, rfl⟩
  | succ n ih =>
    obtain ⟨lowUs, c₁, hm₁, hat₁, -, -⟩ := measure_next hw hp ht hr (by omega) hc
    obtain ⟨highUs, c₂, hm₂, hat₂, hwide, hnarrow⟩ := measure_next hw hp ht hr (by omega) hat₁
    rw [segmentLevel_low] at hm₁
    rw [segmentLevel_high] at hm₂
    have hnext : 2 + 2 * b + 1 + 1 = 2 + 2 * (b + 1) := by omega
    have hpulse : 2 + 2 * b + 1 = 3 + 2 * b := by omega
    rw [hpulse] at hwide hnarrow
    rw [hnext] at hat₂
    have hbit := pushBit_eq acc.byte (threshold_iff hw hp hr (by omega) hwide hnarrow)
    obtain ⟨acc', c', hread, hat', hbyte⟩ :=
      ih (b := b + 1) (by omega) ⟨pushBit acc.byte highUs, lowUs, highUs⟩ hat₂
    refine ⟨acc', c', ?_, ?_, ?_⟩
    · rw [readBits, hm₁]
      dsimp only
      rw [hm₂]
      exact hread
    · rwa [show b + (n + 1) = b + 1 + n by omega]
    · rw [hbyte, List.range'_succ, List.map_cons, List.foldl_cons, hbit]

/-- The bits of a byte, the most significant first, give the byte. -/
theorem foldl_bits (byte : UInt8) :
    ((List.range 8).map fun j => byte.toNat.testBit (7 - j)).foldl pushBool 0 = byte := by
  have hall : ∀ n < 256, ((List.range 8).map fun j =>
      (UInt8.ofNat n).toNat.testBit (7 - j)).foldl pushBool 0 = UInt8.ofNat n := by decide +kernel
  have h := hall byte.toNat byte.toNat_lt
  rwa [UInt8.ofNat_toNat] at h

theorem foldl_frameBits (bytes : List UInt8) (k : Nat) :
    ((List.range' (8 * k) 8).map (frameBit bytes)).foldl pushBool 0 = bytes.getD k 0 := by
  rw [← foldl_bits (bytes.getD k 0), List.range'_eq_map_range, List.map_map]
  congr 1
  refine List.map_congr_left fun j hj => ?_
  have hj' := List.mem_range.1 hj
  have hbyte : (8 * k + j) / 8 = k := by omega
  have hbit : (8 * k + j) % 8 = j := by omega
  simp only [Function.comp_apply, frameBit, hbyte, hbit]

/-- A buffer that is filled up to byte `k`: the byte is still 0, and storing it fills one more. -/
theorem filled_next {bytes data : List UInt8} {n k : Nat} (hk : k < bytes.length)
    (hdata : data = bytes.take k ++ List.replicate (n + 1) 0) :
    data.getD k 0 = 0 ∧ data.set k (bytes.getD k 0) = bytes.take (k + 1) ++ List.replicate n 0 := by
  have htake : (bytes.take k).length = k := by
    rw [List.length_take]
    omega
  constructor
  · rw [hdata, List.getD_append_right _ _ _ _ (by omega), htake]
    simp
  · rw [hdata, List.set_append_right _ _ (by omega), htake, Nat.sub_self, List.replicate_succ,
      List.set_cons_zero, List.take_succ_eq_append_getElem hk, List.append_assoc, List.getD_eq_getElem _ _ hk]
    rfl

include hw hp ht hr in
/-- **The byte loop** completes the frame from byte `k` on. -/
theorem readBytes_decodes (hlen : bytes.length = 5) (n : Nat) {k : Nat} (hk : k + n = 5) {acc : DataAcc}
    {c : Counts}
    (hdata : acc.data = bytes.take k ++ List.replicate n 0)
    (hc : AtPulse edge pollTime d (2 + 16 * k) c) :
    ∃ acc' c', readBytes env (deadlineStart env) (List.range' k n) acc c = (none, acc', c') ∧
      acc'.data = bytes := by
  induction n generalizing k acc c with
  | zero =>
    refine ⟨acc, c, rfl, ?_⟩
    rw [hdata, List.replicate_zero, List.append_nil, List.take_of_length_le (by omega)]
  | succ n ih =>
    obtain ⟨hget, hset⟩ := filled_next (by omega) hdata
    rw [show 2 + 16 * k = 2 + 2 * (8 * k) by omega] at hc
    obtain ⟨bits, c₁, hread, hat, hbyte⟩ :=
      readBits_decodes hw hp ht hr 8 (by omega) ⟨0, acc.bitLowUs, acc.bitHighUs⟩ hc
    rw [foldl_frameBits] at hbyte
    rw [← hbyte] at hset
    rw [show 2 + 2 * (8 * k + 8) = 2 + 16 * (k + 1) by omega] at hat
    obtain ⟨acc', c', hrest, hall⟩ := @ih (k + 1) (by omega)
      ⟨acc.data.set k bits.byte, bits.bitLowUs, bits.bitHighUs⟩ c₁ hset hat
    refine ⟨acc', c', ?_, hall⟩
    rw [List.range'_succ, readBytes, hget, hread]
    exact hrest

include hw hp ht hr in
/-- The whole frame: no error, and the bytes that were sent. -/
theorem timedFrame_decodes (hlen : bytes.length = 5) :
    (timedFrame env (startCounts env)).1.error = none ∧
      (timedFrame env (startCounts env)).1.acc.data = bytes := by
  have hpolls : (boardDelayUs env appDht22PullUs
      ⟨(startCounts env).polls, (startCounts env).reads + 1⟩).polls = 0 := by
    rw [boardDelayUs_polls]
    exact startCounts_polls env
  obtain ⟨r, hdelay⟩ : ∃ r, boardDelayUs env appDht22PullUs
      ⟨(startCounts env).polls, (startCounts env).reads + 1⟩ = ⟨0, r⟩ := ⟨_, by rw [← hpolls]⟩
  obtain ⟨respLowUs, c₁, hm₁, hat₁⟩ := measure_first hw hp ht hr r
  obtain ⟨respHighUs, c₂, hm₂, hat₂, -, -⟩ := measure_next hw hp ht hr (by omega) hat₁
  obtain ⟨acc, c₃, hread, hdata⟩ := readBytes_decodes hw hp ht hr hlen 5 (k := 0) rfl
    (show emptyData.data = bytes.take 0 ++ List.replicate 5 0 from rfl) hat₂
  have hframe : timedFrame env (startCounts env) = (⟨none, respLowUs, respHighUs, acc⟩, c₃) := by
    rw [timedFrame_eq, hdelay]
    exact readFrame_ok env hm₁ hm₂ hread
  rw [hframe]
  exact ⟨rfl, hdata⟩

end timed

/-! ## What the bytes mean -/

theorem rawWord_toNat (high low : UInt8) : (rawWord high low).toNat = 256 * high.toNat + low.toNat := by
  have hlow := low.toNat_lt
  have hhigh := high.toNat_lt
  have hshift : high.toNat <<< 8 = 256 * high.toNat := by
    rw [Nat.shiftLeft_eq, Nat.mul_comm]
  have hword : (rawWord high low).toNat = (high.toNat <<< 8) % 2 ^ 16 ||| low.toNat := by
    simp [rawWord]
  rw [hword, Nat.mod_eq_of_lt (by omega), ← Nat.shiftLeft_add_eq_or_of_lt hlow, hshift]

theorem signBit_iff (word : UInt16) : word &&& 0x8000 != 0 ↔ word.toNat.testBit 15 = true := by
  have hand : (word &&& 0x8000).toNat = (word.toNat.testBit 15).toNat * 2 ^ 15 := by
    rw [UInt16.toNat_and]
    exact Nat.and_two_pow word.toNat 15
  rw [bne_iff_ne, ne_eq, ← UInt16.toNat_inj, hand]
  cases word.toNat.testBit 15 <;> simp

theorem magnitude_eq (word : UInt16) : (word &&& 0x7FFF).toNat = word.toNat % 2 ^ 15 := by
  rw [UInt16.toNat_and]
  exact Nat.and_two_pow_sub_one_eq_mod _ 15

/-- Without the sign bit the word is its magnitude. -/
theorem mod_of_signBit_false (word : UInt16) (h : ¬word.toNat.testBit 15 = true) :
    word.toNat % 2 ^ 15 = word.toNat := by
  have hsmall := word.toNat_lt
  have hbit : word.toNat.testBit 15 = decide (word.toNat / 2 ^ 15 % 2 = 1) := Nat.testBit_eq_decide_div_mod_eq
  rw [hbit, decide_eq_true_iff] at h
  omega

/-- The conversion is the one of the data sheet: humidity, then temperature in sign and magnitude. -/
theorem decode_eq (b0 b1 b2 b3 b4 : UInt8) :
    decode [b0, b1, b2, b3, b4] =
      { humidityPct := ((256 * b0.toNat + b1.toNat : Nat) : Rat) / 10
        temperatureC :=
          if (256 * b2.toNat + b3.toNat).testBit 15 then
            -(((256 * b2.toNat + b3.toNat) % 2 ^ 15 : Nat) : Rat) / 10
          else (((256 * b2.toNat + b3.toNat) % 2 ^ 15 : Nat) : Rat) / 10 } := by
  have hsign := signBit_iff (rawWord b2 b3)
  have hmagnitude := magnitude_eq (rawWord b2 b3)
  have hplain := mod_of_signBit_false (rawWord b2 b3)
  show DhtReading.mk (if rawWord b2 b3 &&& 0x8000 != 0 then
      -(((rawWord b2 b3 &&& 0x7FFF).toNat : Rat) / 10) else ((rawWord b2 b3).toNat : Rat) / 10)
      (((rawWord b0 b1).toNat : Rat) / 10) = _
  rw [hmagnitude, rawWord_toNat b0 b1]
  rw [rawWord_toNat b2 b3] at hsign hplain ⊢
  by_cases hbit : (256 * b2.toNat + b3.toNat).testBit 15 = true
  · rw [if_pos (hsign.2 hbit), if_pos hbit, neg_div]
  · rw [if_neg (mt hsign.1 hbit), if_neg hbit, hplain hbit]

theorem checksumOk_iff (b0 b1 b2 b3 b4 : UInt8) :
    checksumOk [b0, b1, b2, b3, b4] = true ↔
      b4.toNat = (b0.toNat + b1.toNat + b2.toNat + b3.toNat) % 256 := by
  show (b0 + b1 + b2 + b3 == b4) = true ↔ _
  have hsum : (b0 + b1 + b2 + b3).toNat = (b0.toNat + b1.toNat + b2.toNat + b3.toNat) % 256 := by
    rw [UInt8.toNat_add, UInt8.toNat_add, UInt8.toNat_add]
    omega
  rw [beq_iff_eq, ← UInt8.toNat_inj, hsum]
  exact eq_comm

/-! ## `DhtRead` -/

/-- A ready timer: the bytes are those of the frame, and the checksum decides about the reading. -/
theorem dhtRead_of_frame {env : DhtEnv} (s : DhtState) (hready : env.timerReady = true)
    (herror : (timedFrame env (startCounts env)).1.error = none) :
    (dhtRead env s).2.1.diag.bytes = (timedFrame env (startCounts env)).1.acc.data ∧
      (dhtRead env s).1 =
        if checksumOk (timedFrame env (startCounts env)).1.acc.data then
          some (decode (timedFrame env (startCounts env)).1.acc.data)
        else none := by
  unfold dhtRead
  generalize timedFrame env (startCounts env) = p at herror ⊢
  obtain ⟨frame, c⟩ := p
  change frame.error = none at herror
  rw [hready]
  simp [herror]

/-- **A timed waveform is decoded**: from every signal that shows a frame, polled as often as its
pulses need and with room for the rounding of the timer, `DhtRead` recovers the five bytes; it delivers
a reading iff the checksum is right, and then the one that the bytes stand for. -/
theorem dht_decodes {K : Type*} [Field K] [LinearOrder K] [IsStrictOrderedRing K] [FloorSemiring K]
    {env : DhtEnv} {signal : K → Bool} {edge pollTime : Nat → K} {readTime : Nat → Nat → K} {d : K}
    {b0 b1 b2 b3 b4 : UInt8} (s : DhtState) (hready : env.timerReady = true)
    (hw : Waveform signal edge (pollTime 0) d [b0, b1, b2, b3, b4])
    (hp : Polls env signal pollTime readTime d) (ht : InTime env pollTime readTime edge d)
    (hr : TickMargin env readTime edge d [b0, b1, b2, b3, b4]) :
    (dhtRead env s).2.1.diag.bytes = [b0, b1, b2, b3, b4] ∧
      (dhtRead env s).1 =
        if b4.toNat = (b0.toNat + b1.toNat + b2.toNat + b3.toNat) % 256 then
          some
            { humidityPct := ((256 * b0.toNat + b1.toNat : Nat) : Rat) / 10
              temperatureC :=
                if (256 * b2.toNat + b3.toNat).testBit 15 then
                  -(((256 * b2.toNat + b3.toNat) % 2 ^ 15 : Nat) : Rat) / 10
                else (((256 * b2.toNat + b3.toNat) % 2 ^ 15 : Nat) : Rat) / 10 }
        else none := by
  obtain ⟨herror, hdata⟩ := timedFrame_decodes hw hp ht hr rfl
  obtain ⟨hbytes, hreading⟩ := dhtRead_of_frame s hready herror
  rw [hdata] at hbytes hreading
  refine ⟨hbytes, ?_⟩
  rw [hreading, decode_eq]
  by_cases hsum : b4.toNat = (b0.toNat + b1.toNat + b2.toNat + b3.toNat) % 256
  · rw [if_pos hsum, if_pos ((checksumOk_iff b0 b1 b2 b3 b4).2 hsum)]
  · rw [if_neg hsum, if_neg (mt (checksumOk_iff b0 b1 b2 b3 b4).1 hsum)]

/-- 65.2 % and −10.1 °C, sent about 30 µs after the first poll and polled every 1.95 µs. -/
theorem dht_decodes_below_zero :
    (dhtRead (evenlyPolled (13003 / 10) (39 / 20) (sensorSignal 1330 [0x02, 0x8C, 0x80, 0x65, 0x73])) dhtInit).1 =
      some { temperatureC := -101 / 10, humidityPct := 652 / 10 } := by
  obtain ⟨hw, hp, ht, hr⟩ := evenlyPolled_shows (13003 / 10) (39 / 20) 1330 [0x02, 0x8C, 0x80, 0x65, 0x73]
    (by norm_num) (by norm_num) (by norm_num) (by norm_num) (by norm_num) (by norm_num)
  rw [(dht_decodes dhtInit rfl hw hp ht hr).2]
  decide +kernel

/-! ## A frame that the rounding spoils -/

/-- The edges in twentieths of a microsecond: the pulses are 8 µs long, but the high of bit 0 is 56.1 µs. -/
def spoiltEdge (i : Nat) : Nat := 26192 + 160 * i + if i ≤ 3 then 0 else 962

def spoiltLevel (t : Nat) : Bool :=
  if t < 26192 then true
  else if t < 26672 then (t - 26192) / 160 % 2 == 1
  else if t < 27794 then true
  else (t - 27154) / 160 % 2 == 1

/-- A poll every 1.95 µs. -/
def spoiltPoll (k : Nat) : Nat := 26000 + 39 * k

/-- A reading directly after each poll, but the one that begins the measurement of bit 0 directly before the
next poll. -/
def spoiltRead : Nat → Nat → Nat
  | 0, j => if j = 0 then 0 else min (23400 + 600 * j) 26000
  | k + 1, _ => spoiltPoll (if k = 19 then k + 1 else k)

/-- The hardware as the driver sees it. -/
def spoiltEnv : DhtEnv where
  timerReady := true
  line k := spoiltLevel (spoiltPoll k)
  timer k j := reading (spoiltRead k j / 20)

/-- Twentieths as microseconds. -/
def ticksUs (n : Nat) : Rat := n / 20

def spoiltSignal (t : Rat) : Bool := spoiltLevel ⌊20 * t⌋₊

theorem spoiltLevel_segment {i n : Nat} (hlo : spoiltEdge i ≤ n) (hhi : n < spoiltEdge (i + 1)) :
    spoiltLevel n = segmentLevel i := by
  unfold spoiltEdge at hlo hhi
  unfold spoiltLevel segmentLevel
  rcases Nat.lt_trichotomy i 3 with h | rfl | h
  · rw [if_pos (by omega)] at hlo hhi
    have hsegment : (n - 26192) / 160 = i := by omega
    rw [if_neg (by omega), if_pos (by omega), hsegment]
  · rw [if_pos (by omega)] at hlo
    rw [if_neg (by omega)] at hhi
    rw [if_neg (by omega), if_neg (by omega), if_pos (by omega)]
    rfl
  · rw [if_neg (by omega)] at hlo hhi
    have hsegment : (n - 27154) / 160 = i := by omega
    rw [if_neg (by omega), if_neg (by omega), if_neg (by omega), hsegment]

theorem spoiltEdge_succ (i : Nat) : spoiltEdge (i + 1) = spoiltEdge i + if i = 3 then 1122 else 160 := by
  unfold spoiltEdge
  split_ifs <;> omega

theorem ticksUs_succ (i : Nat) :
    ticksUs (spoiltEdge (i + 1)) = ticksUs (spoiltEdge i) + if i = 3 then 561 / 10 else 8 := by
  rw [spoiltEdge_succ, ticksUs, ticksUs]
  split_ifs
  · push_cast
    ring
  · push_cast
    ring

theorem ticksUs_mono {m n : Nat} (h : m ≤ n) : ticksUs m ≤ ticksUs n := by
  have hcast : (m : Rat) ≤ n := Nat.cast_le.2 h
  unfold ticksUs
  linarith

theorem floor_ticks (n : Nat) : ⌊20 * ticksUs n⌋₊ = n ∧ ⌊ticksUs n⌋₊ = n / 20 := by
  constructor
  · have hexact : 20 * ticksUs n = (n : Rat) := by
      unfold ticksUs
      ring
    rw [hexact, Nat.floor_natCast]
  · exact Nat.floor_div_eq_div n 20

/-- The frame is one that the polls, up to 2 µs apart, can tell: each margin is met. -/
theorem spoilt_waveform : Waveform spoiltSignal (fun i => ticksUs (spoiltEdge i)) (ticksUs (spoiltPoll 0)) 2
    [0x80, 0, 0, 0, 0] := by
  have hbits : ∀ b < 40, frameBit [0x80, 0, 0, 0, 0] b = decide (b = 0) := by decide
  have hwidth (b : Nat) := ticksUs_succ (3 + 2 * b)
  have hnext (b : Nat) : 3 + 2 * b + 1 = 4 + 2 * b := by omega
  have hscale {n : Nat} {t : Rat} (h : ticksUs n ≤ t) : (n : Rat) ≤ 20 * t := by
    unfold ticksUs at h
    linarith
  have hscale' {n : Nat} {t : Rat} (h0 : 0 ≤ t) (h : t < ticksUs n) : ⌊20 * t⌋₊ < n := by
    refine (Nat.floor_lt (by linarith)).2 ?_
    unfold ticksUs at h
    linarith
  have hzero (n : Nat) : 0 ≤ ticksUs n := ticksUs_mono (Nat.zero_le n) |>.trans' (by simp [ticksUs])
  refine ⟨fun t ht hlt => ?_, fun i hi t hlo hhi => ?_, fun i hi => ?_, fun i hi => ?_, fun b hb hbit => ?_,
    fun b hb hbit => ?_⟩
  · have hbefore := hscale' ((hzero _).trans ht) hlt
    exact if_pos hbefore
  · exact spoiltLevel_segment (Nat.le_floor (hscale hlo)) (hscale' ((hzero _).trans hlo) hhi)
  · rw [ticksUs_succ]
    split_ifs <;> linarith
  · rw [ticksUs_succ]
    split_ifs <;> linarith
  · rw [hbits b hb, decide_eq_false_iff_not] at hbit
    rw [← hnext, hwidth, if_neg (by omega)]
    linarith
  · rw [hbits b hb, decide_eq_true_iff] at hbit
    subst hbit
    have hfirst := ticksUs_succ 3
    rw [if_pos rfl] at hfirst
    show ticksUs (spoiltEdge 3) + 50 + 3 * 2 < ticksUs (spoiltEdge 4)
    linarith

theorem spoilt_polls : Polls spoiltEnv spoiltSignal (fun k => ticksUs (spoiltPoll k))
    (fun k j => ticksUs (spoiltRead k j)) 2 where
  line k := by
    rw [spoiltSignal, (floor_ticks _).1]
    rfl
  timer k j := by
    rw [(floor_ticks _).2]
    rfl
  forward k := ticksUs_mono (by unfold spoiltPoll; omega)
  apart k := by
    unfold ticksUs spoiltPoll
    push_cast
    linarith
  origin j := by
    have hzero : ticksUs 0 ≤ ticksUs (spoiltRead 0 j) := ticksUs_mono (Nat.zero_le _)
    simpa [ticksUs] using hzero
  before j := by
    refine ticksUs_mono ?_
    show (if j = 0 then 0 else min (23400 + 600 * j) 26000) ≤ 26000 + 39 * 0
    split_ifs <;> omega
  between k j := by
    have hread : spoiltRead (k + 1) j = spoiltPoll (if k = 19 then k + 1 else k) := rfl
    constructor
    · refine ticksUs_mono ?_
      rw [hread]
      unfold spoiltPoll
      split_ifs <;> omega
    · refine ticksUs_mono ?_
      rw [hread]
      unfold spoiltPoll
      split_ifs <;> omega

theorem spoilt_inTime : InTime spoiltEnv (fun k => ticksUs (spoiltPoll k)) (fun k j => ticksUs (spoiltRead k j))
    (fun i => ticksUs (spoiltEdge i)) 2 where
  start := by norm_num [ticksUs, spoiltPoll, spoiltEdge]
  deadline := by
    have hread : 0 ≤ deadlineTime spoiltEnv fun k j => ticksUs (spoiltRead k j) :=
      deadlineTime_nonneg spoilt_polls
    have hend : ticksUs (spoiltEdge 82) + 3 * 2 ≤ 20000 := by norm_num [ticksUs, spoiltEdge]
    linarith
  firstWait := by
    have hfirst : spoiltEdge 0 = 26192 := rfl
    refine ticksUs_mono ?_
    rw [hfirst]
    unfold spoiltPoll appDhtLoopGuard
    omega
  waits i _ k hk := by
    have hk' : spoiltEdge i ≤ spoiltPoll k := by
      have hcast : ticksUs (spoiltEdge i) ≤ ticksUs (spoiltPoll k) := hk
      unfold ticksUs at hcast
      exact_mod_cast (div_le_div_iff_of_pos_right (by norm_num : (0 : Rat) < 20)).1 hcast
    refine ticksUs_mono ?_
    rw [spoiltEdge_succ]
    unfold spoiltPoll appDhtLoopGuard at *
    split_ifs <;> omega

/-- **The rounding spoils a bit**: a frame that meets every margin, but not by the rounding of the timer, whose
first bit, a one of 56.1 µs, is measured as 50 µs and read as a zero. Its checksum is wrong, and
`DhtRead` delivers a reading. -/
theorem dht_misreads_rounded :
    spoiltEnv.timerReady = true ∧
      Waveform spoiltSignal (fun i => ticksUs (spoiltEdge i)) (ticksUs (spoiltPoll 0)) 2 [0x80, 0, 0, 0, 0] ∧
      Polls spoiltEnv spoiltSignal (fun k => ticksUs (spoiltPoll k)) (fun k j => ticksUs (spoiltRead k j)) 2 ∧
      InTime spoiltEnv (fun k => ticksUs (spoiltPoll k)) (fun k j => ticksUs (spoiltRead k j))
        (fun i => ticksUs (spoiltEdge i)) 2 ∧
      (0 : UInt8).toNat ≠ ((0x80 : UInt8).toNat + 0 + 0 + 0) % 256 ∧
      (dhtRead spoiltEnv dhtInit).2.1.diag.bytes = [0, 0, 0, 0, 0] ∧
      (dhtRead spoiltEnv dhtInit).1 = some { temperatureC := 0, humidityPct := 0 } := by
  refine ⟨rfl, spoilt_waveform, spoilt_polls, spoilt_inTime, by decide, ?_, ?_⟩
  · decide +kernel
  · decide +kernel

end SmartAc
