import SmartAc.Lib.SlotRing

/-!
# How many slots a ring needs

`SlotRing` shows that `depth + 2` slots are enough. Here: with fewer a run overwrites a message in flight. A
consumer, which need not wait for it, takes the first message and holds its slot; `S - 1` more posts fit the
queue and take the index once around, so that the next fill hits the slot that is held (`overwritten`).
-/

namespace SlotRing

open Machine

variable {α β : Type} {S : Nat} [NeZero S] {fill : β → Fill α} {depth : Nat}

/-- The stores of a fill leave what they make of the slot at the index, which stays. -/
theorem exec_stores_slot (fill : β → Fill α) (depth : Nat) {value : α} {stores : List (α → α)}
    {r : Ring α S} (hp : r.producer = .filling value stores) :
    exec (next fill depth) r (List.replicate stores.length .store) = some { r with
      slots := Function.update r.slots r.index (stores.foldl (fun a f => f a) (r.slots r.index))
      producer := .filling value [] } := by
  induction stores generalizing r with
  | nil =>
    rw [List.foldl_nil, Function.update_eq_self, ← hp]
    rfl
  | cons f rest ih =>
    rw [List.length_cons, List.replicate_succ, exec]
    simp only [next, hp, Option.bind_some]
    rw [ih rfl]
    simp

/-- Fill the slot at the index: the message is there, and the producer about to post it. -/
theorem exec_fill (fill : β → Fill α) (depth : Nat) {r : Ring α S} (hp : r.producer = .idle) (request : β) :
    exec (next fill depth) r (.begin request :: List.replicate (fill request).stores.length .store) =
      some { r with
        slots := Function.update r.slots r.index (fill request).value
        producer := .filling (fill request).value [] } := by
  rw [exec]
  simp only [next, hp, Option.bind_some]
  rw [exec_stores_slot fill depth rfl]
  simp [(fill request).complete]

/-- The ring with the slot at its index filled and not yet posted. -/
def filled (r : Ring α S) (value : α) : Ring α S := { r with
  slots := Function.update r.slots r.index value
  producer := .filling value [] }

/-- A whole post that succeeds, its `OSQPost` given. -/
theorem exec_post (fill : β → Fill α) (depth : Nat) {r r' : Ring α S} (hp : r.producer = .idle) (request : β)
    (hpost : SlotRing.post depth (filled r (fill request).value) (fill request).value true = some r')
    (hadv : r'.producer = .advancing) :
    exec (next fill depth) r (postActions fill request true) =
      some { r' with index := r'.index + 1, producer := .idle } := by
  rw [postActions, ← List.cons_append, if_pos rfl]
  refine exec_trans (exec_fill fill depth hp request) ?_
  have hnext : next fill depth (filled r (fill request).value) (.post true) = some r' := hpost
  rw [exec, ← filled, hnext]
  simp only [exec, next, hadv, Option.bind_some]

/-- The consumer holds the first slot, and `n` messages have been posted. -/
structure Filled (r : Ring α S) (value : α) (n : Nat) : Prop where
  producer : r.producer = .idle
  consumer : r.consumer = .holding (slotOf S 0)
  index : r.index = slotOf S n
  queue : r.queue.length + 1 = n
  posted : r.posted = List.replicate n value
  copied : r.copied = []

/-- The first message is posted, and the consumer takes it without waiting. -/
theorem exec_first (fill : β → Fill α) (hdepth : 0 < depth) (initial : α) (request : β) :
    ∃ r, exec (next fill depth) (start initial : Ring α S)
        (postActions fill request true ++ [.pend false]) = some r ∧
      Filled r (fill request).value 1 := by
  have hpost : SlotRing.post depth (filled (start initial : Ring α S) (fill request).value) (fill request).value true =
      some { filled (start initial : Ring α S) (fill request).value with
        queue := [(start initial : Ring α S).index], producer := .advancing
        posted := [(fill request).value] } := by
    simp [SlotRing.post, filled, start, hdepth]
  have hexec := exec_post fill depth (r := (start initial : Ring α S)) rfl request hpost rfl
  exact ⟨_, exec_trans hexec (exec_cons rfl rfl), rfl, rfl, slotOf_succ 0, rfl, rfl, rfl⟩

/-- **Step lemma**: while the queue has room the next message goes to the next slot. -/
theorem Filled.post {r : Ring α S} {value : α} {n : Nat} (h : Filled r value n) (hn : n ≤ depth)
    {request : β} (hvalue : (fill request).value = value) :
    ∃ r', exec (next fill depth) r (postActions fill request true) = some r' ∧
      Filled r' value (n + 1) := by
  have hroom : r.queue.length < depth := by
    have := h.queue
    omega
  have hwait : r.consumer ≠ .waiting := by simp [h.consumer]
  have hpost : SlotRing.post depth (filled r (fill request).value) (fill request).value true =
      some { filled r (fill request).value with
        queue := r.queue ++ [r.index], producer := .advancing
        posted := r.posted ++ [(fill request).value] } := by
    simp [SlotRing.post, filled, hwait, hroom]
  refine ⟨_, exec_post fill depth h.producer request hpost rfl, ?_⟩
  refine ⟨rfl, h.consumer, ?_, ?_, ?_, h.copied⟩
  · rw [← slotOf_succ, ← h.index]
    rfl
  · rw [List.length_append, List.length_singleton, h.queue]
  · rw [h.posted, hvalue, List.replicate_succ']

/-- **Run lemma**: up to `depth + 1` posts of one message while the consumer does not move. -/
theorem exec_fills (fill : β → Fill α) (hdepth : 0 < depth) (initial : α) (request : β) {n : Nat}
    (hn : n ≤ depth) :
    ∃ acts r, exec (next fill depth) (start initial : Ring α S) acts = some r ∧
      Filled r (fill request).value (n + 1) := by
  induction n with
  | zero => exact ⟨_, exec_first fill hdepth initial request⟩
  | succ n ih =>
    obtain ⟨acts, r, hexec, hfilled⟩ := ih (Nat.le_of_succ_le hn)
    obtain ⟨r', hexec', hfilled'⟩ := hfilled.post hn rfl
    exact ⟨acts ++ postActions fill request true, r', exec_trans hexec hexec', hfilled'⟩

/-- **With fewer than `depth + 2` slots a message in flight is overwritten**: the index comes around to
the slot the consumer holds, and the consumer copies a message that was not posted. -/
theorem overwritten (hdepth : 0 < depth) (hS : S ≤ depth + 1) (fill : β → Fill α) (initial : α) {a b : β}
    (hab : (fill a).value ≠ (fill b).value) :
    ∃ acts r, exec (next fill depth) (start initial : Ring α S) acts = some r ∧
      ¬ r.copied <+: r.posted := by
  have hpos : 0 < S := Nat.pos_of_ne_zero (NeZero.ne S)
  have hroom : S - 1 ≤ depth := by omega
  obtain ⟨acts, r, hexec, hfilled⟩ := exec_fills (S := S) fill hdepth initial a hroom
  rw [Nat.sub_add_cancel hpos] at hfilled
  have hindex : r.index = slotOf S 0 := by
    rw [hfilled.index]
    apply Fin.ext
    simp [slotOf]
  have hcopy : next fill depth (filled r (fill b).value) .copy = some
      { filled r (fill b).value with consumer := .idle, copied := [(fill b).value] } := by
    simp [next, filled, hfilled.consumer, hfilled.copied, hindex]
  have hlast : exec (next fill depth) (filled r (fill b).value) [.copy] = some _ := exec_cons hcopy rfl
  have hrun := exec_trans hexec (exec_trans (exec_fill fill depth hfilled.producer b) hlast)
  refine ⟨_, _, hrun, ?_⟩
  -- the copy is the half-posted message `b`, every posted one is `a`
  intro hpre
  have hmem : (fill b).value ∈ List.replicate S (fill a).value := by
    rw [← hfilled.posted]
    exact hpre.subset (List.mem_singleton_self _)
  exact hab (List.eq_of_mem_replicate hmem).symm

/-- **The bound is exact**: the copied messages are the first of the posted ones in every run if and only if
there are two slots more than the queue is deep. -/
theorem slots_needed (fill : β → Fill α) (hdepth : 0 < depth) (initial : α) {a b : β}
    (hab : (fill a).value ≠ (fill b).value) :
    (∀ acts r, exec (next fill depth) (start initial : Ring α S) acts = some r → r.copied <+: r.posted) ↔
      depth + 2 ≤ S := by
  constructor
  · intro hall
    by_contra hlt
    have hfew : S ≤ depth + 1 := by omega
    obtain ⟨acts, r, hexec, hnot⟩ := overwritten hdepth hfew fill initial hab
    exact hnot (hall acts r hexec)
  · intro hS acts r hexec
    exact ⟨r.outstanding, (exec_start_inv hS initial hexec).history.symm⟩

end SlotRing
