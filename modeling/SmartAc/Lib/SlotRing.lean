import Mathlib.Algebra.Order.Ring.Nat
import Mathlib.Data.List.Nodup
import Mathlib.Logic.Function.Basic
import SmartAc.Lib.Machine

/-!
# A ring of slots behind a queue of pointers

One producer fills a slot, posts a pointer to it and moves its index on only if the post succeeded;
one consumer takes a pointer off the queue and copies the slot in a later step. The queue carries at
most `depth` pointers, a post may fail at any time, and a post to a waiting consumer hands the
pointer over directly. `next` is one step of either party, so a list of actions is an interleaving.

With two slots more than the queue is deep the slot at the producer's index is neither queued nor
held (`Inv.index_fresh`), and the ring is a FIFO channel of messages (`next_refines`).
-/

namespace SlotRing

open Machine

variable {α β : Type} {S : Nat}

/-- Stores that fill a slot: whatever the slot held, it holds `value` after them. -/
structure Fill (α : Type) where
  value : α
  stores : List (α → α)
  complete : ∀ a, stores.foldl (fun a f => f a) a = value

inductive Producer (α : Type) where
  | idle
  | filling (value : α) (rest : List (α → α))
  | advancing

inductive Consumer (S : Nat) where
  | idle
  | waiting
  | holding (slot : Fin S)
deriving DecidableEq

/-- `posted` and `copied` are history: what was posted with success and what was copied out. -/
structure Ring (α : Type) (S : Nat) where
  slots : Fin S → α
  index : Fin S
  queue : List (Fin S)
  producer : Producer α
  consumer : Consumer S
  posted : List α
  copied : List α

def start [NeZero S] (initial : α) : Ring α S where
  slots := fun _ => initial
  index := 0
  queue := []
  producer := .idle
  consumer := .idle
  posted := []
  copied := []

/-- The steps of the two parties; `β` is what the producer is asked to post. -/
inductive Action (β : Type) where
  | begin (request : β)
  | store
  | post (ok : Bool)
  | advance
  | pend (blocking : Bool)
  | timeout
  | copy

/-- The post of the message `value`: a waiting consumer gets the pointer, else the queue if it is not
full. A failed post changes nothing and sends the producer back. -/
def post (depth : Nat) (r : Ring α S) (value : α) (ok : Bool) : Option (Ring α S) :=
  if !ok then some { r with producer := .idle }
  else if r.consumer = .waiting then
    some { r with consumer := .holding r.index, producer := .advancing, posted := r.posted ++ [value] }
  else if r.queue.length < depth then
    some { r with
      queue := r.queue ++ [r.index], producer := .advancing, posted := r.posted ++ [value] }
  else none

/-- The pend: the oldest pointer, or with an empty queue a wait (blocking) or nothing. -/
def pend (r : Ring α S) (blocking : Bool) : Ring α S :=
  match r.queue with
  | slot :: rest => { r with consumer := .holding slot, queue := rest }
  | [] => if blocking then { r with consumer := .waiting } else r

/-- One step of the producer or the consumer; `none` when it is not enabled. -/
def next [NeZero S] (fill : β → Fill α) (depth : Nat) (r : Ring α S) : Action β → Option (Ring α S)
  | .begin request =>
    match r.producer with
    | .idle => some { r with producer := .filling (fill request).value (fill request).stores }
    | _ => none
  | .store =>
    match r.producer with
    | .filling value (f :: rest) =>
      some { r with
        slots := Function.update r.slots r.index (f (r.slots r.index))
        producer := .filling value rest }
    | _ => none
  | .post ok =>
    match r.producer with
    | .filling value [] => post depth r value ok
    | _ => none
  | .advance =>
    match r.producer with
    | .advancing => some { r with index := r.index + 1, producer := .idle }
    | _ => none
  | .pend blocking =>
    match r.consumer with
    | .idle => some (pend r blocking)
    | _ => none
  | .timeout =>
    match r.consumer with
    | .waiting => some { r with consumer := .idle }
    | _ => none
  | .copy =>
    match r.consumer with
    | .holding slot => some { r with consumer := .idle, copied := r.copied ++ [r.slots slot] }
    | _ => none

/-! ## Step inversion -/

/-- What one step can do, guards included. -/
inductive Step [NeZero S] (fill : β → Fill α) (depth : Nat) (r : Ring α S) :
    Action β → Ring α S → Prop
  | begin (request : β) (hp : r.producer = .idle) :
      Step fill depth r (.begin request)
        { r with producer := .filling (fill request).value (fill request).stores }
  | store {value : α} {f : α → α} {rest : List (α → α)} (hp : r.producer = .filling value (f :: rest)) :
      Step fill depth r .store { r with
        slots := Function.update r.slots r.index (f (r.slots r.index))
        producer := .filling value rest }
  | fail {value : α} (hp : r.producer = .filling value []) :
      Step fill depth r (.post false) { r with producer := .idle }
  | hand {value : α} (hp : r.producer = .filling value []) (hc : r.consumer = .waiting) :
      Step fill depth r (.post true) { r with
        consumer := .holding r.index, producer := .advancing, posted := r.posted ++ [value] }
  | enqueue {value : α} (hp : r.producer = .filling value []) (hc : r.consumer ≠ .waiting)
      (hroom : r.queue.length < depth) :
      Step fill depth r (.post true) { r with
        queue := r.queue ++ [r.index], producer := .advancing, posted := r.posted ++ [value] }
  | advance (hp : r.producer = .advancing) :
      Step fill depth r .advance { r with index := r.index + 1, producer := .idle }
  | take {slot : Fin S} {rest : List (Fin S)} (blocking : Bool) (hc : r.consumer = .idle)
      (hq : r.queue = slot :: rest) :
      Step fill depth r (.pend blocking) { r with consumer := .holding slot, queue := rest }
  | wait (hc : r.consumer = .idle) (hq : r.queue = []) :
      Step fill depth r (.pend true) { r with consumer := .waiting }
  | empty (hc : r.consumer = .idle) (hq : r.queue = []) : Step fill depth r (.pend false) r
  | timeout (hc : r.consumer = .waiting) : Step fill depth r .timeout { r with consumer := .idle }
  | copy {slot : Fin S} (hc : r.consumer = .holding slot) :
      Step fill depth r .copy { r with consumer := .idle, copied := r.copied ++ [r.slots slot] }

theorem post_step [NeZero S] {fill : β → Fill α} {depth : Nat} {r r' : Ring α S} {value : α} {ok : Bool}
    (hp : r.producer = .filling value []) (h : post depth r value ok = some r') :
    Step fill depth r (.post ok) r' := by
  unfold post at h
  cases ok with
  | false => cases h; exact .fail hp
  | true =>
    rw [if_neg (by simp)] at h
    by_cases hc : r.consumer = .waiting
    · rw [if_pos hc] at h
      cases h
      exact .hand hp hc
    · rw [if_neg hc] at h
      by_cases hroom : r.queue.length < depth
      · rw [if_pos hroom] at h
        cases h
        exact .enqueue hp hc hroom
      · rw [if_neg hroom] at h
        cases h

theorem pend_step [NeZero S] {fill : β → Fill α} {depth : Nat} {r : Ring α S}
    (hc : r.consumer = .idle) (blocking : Bool) :
    Step fill depth r (.pend blocking) (pend r blocking) := by
  unfold pend
  split
  · rename_i slot rest hq
    exact .take blocking hc hq
  · rename_i hq
    cases blocking with
    | true => exact .wait hc hq
    | false => exact .empty hc hq

theorem next_step [NeZero S] {fill : β → Fill α} {depth : Nat} {r r' : Ring α S} {a : Action β}
    (h : next fill depth r a = some r') : Step fill depth r a r' := by
  cases a with
  | begin request =>
    simp only [next] at h
    split at h <;> cases h
    exact .begin request ‹_›
  | store =>
    simp only [next] at h
    split at h <;> cases h
    exact .store ‹_›
  | post ok =>
    simp only [next] at h
    split at h
    · exact post_step ‹_› h
    · cases h
  | advance =>
    simp only [next] at h
    split at h <;> cases h
    exact .advance ‹_›
  | pend blocking =>
    simp only [next] at h
    split at h <;> cases h
    exact pend_step ‹_› blocking
  | timeout =>
    simp only [next] at h
    split at h <;> cases h
    exact .timeout ‹_›
  | copy =>
    simp only [next] at h
    split at h <;> cases h
    exact .copy ‹_›

/-! ## The invariant -/

section slotOf
variable [NeZero S]

/-- The slot of the `j`-th message. -/
def slotOf (S : Nat) [NeZero S] (j : Nat) : Fin S := Fin.ofNat S j

theorem slotOf_succ (j : Nat) : slotOf S j + 1 = slotOf S (j + 1) := by
  apply Fin.ext
  show (j % S + 1 % S) % S = (j + 1) % S
  exact (Nat.add_mod j 1 S).symm

theorem slotOf_inj {i j : Nat} (hle : i ≤ j) (hlt : j < i + S) (h : slotOf S i = slotOf S j) : i = j := by
  have hmod : j % S = i % S := by
    simpa [slotOf, Fin.ext_iff] using h.symm
  have hdvd : S ∣ j - i := Nat.dvd_of_mod_eq_zero (Nat.sub_mod_eq_zero_of_mod_eq hmod)
  have := Nat.eq_zero_of_dvd_of_lt hdvd (by omega)
  omega

/-- Up to `S` consecutive messages lie in different slots. -/
theorem nodup_slots {c n : Nat} (hn : n ≤ S) : ((List.range' c n).map (slotOf S)).Nodup := by
  refine List.Nodup.map_on ?_ List.nodup_range'
  intro i hi j hj h
  simp only [List.mem_range'_1] at hi hj
  rcases Nat.le_total i j with hij | hij
  · exact slotOf_inj hij (by omega) h
  · exact (slotOf_inj hij (by omega) h.symm).symm

end slotOf

def held : Consumer S → List (Fin S)
  | .holding slot => [slot]
  | _ => []

/-- The slots in flight, oldest first: held by the consumer, then queued. -/
def Ring.pointers (r : Ring α S) : List (Fin S) := held r.consumer ++ r.queue

/-- The messages in flight. -/
def Ring.outstanding (r : Ring α S) : List α := r.pointers.map r.slots

/-- The index of the next fill, also while the producer is about to move it on. -/
def Ring.nextIndex [NeZero S] (r : Ring α S) : Fin S :=
  match r.producer with
  | .advancing => r.index + 1
  | _ => r.index

/-- The pointers in flight are consecutive slots that end at the producer's index, they carry the
posted messages that were not copied yet, and a slot half filled turns into its message. -/
structure Inv [NeZero S] (depth : Nat) (r : Ring α S) : Prop where
  history : r.posted = r.copied ++ r.outstanding
  chain : r.pointers ++ [r.nextIndex] =
    (List.range' r.copied.length (r.pointers.length + 1)).map (slotOf S)
  queue_le : r.queue.length ≤ depth
  waiting : r.consumer = .waiting → r.queue = []
  filling : ∀ value rest, r.producer = .filling value rest →
    rest.foldl (fun a f => f a) (r.slots r.index) = value

section invariant
variable [NeZero S] {fill : β → Fill α} {depth : Nat} {r r' : Ring α S}

theorem start_inv (initial : α) : Inv depth (start initial : Ring α S) := by
  refine ⟨rfl, rfl, Nat.zero_le _, fun _ => rfl, fun value rest h => ?_⟩
  cases h

theorem Inv.pointers_le (hi : Inv depth r) : r.pointers.length ≤ depth + 1 := by
  have hq := hi.queue_le
  unfold Ring.pointers held
  cases r.consumer <;> simp <;> omega

/-- The next fill goes to a slot that is neither queued nor held. -/
theorem Inv.nextIndex_fresh (hS : depth + 2 ≤ S) (hi : Inv depth r) : r.nextIndex ∉ r.pointers := by
  have hle := hi.pointers_le
  have hnodup : (r.pointers ++ [r.nextIndex]).Nodup := by
    rw [hi.chain]
    exact nodup_slots (by omega)
  rw [List.nodup_append] at hnodup
  intro hmem
  exact hnodup.2.2 _ hmem _ List.mem_cons_self rfl

/-- A fill in progress writes a slot that is neither queued nor held. -/
theorem Inv.index_fresh (hS : depth + 2 ≤ S) (hi : Inv depth r) {value : α} {rest : List (α → α)}
    (hp : r.producer = .filling value rest) : r.index ∉ r.pointers := by
  have h := hi.nextIndex_fresh hS
  rwa [Ring.nextIndex, hp] at h

/-- Where the next index stands: as many slots on as there are messages. -/
theorem Inv.nextIndex_eq (hi : Inv depth r) :
    r.nextIndex = slotOf S (r.copied.length + r.pointers.length) := by
  have h := hi.chain
  rw [List.range'_concat, List.map_append] at h
  simpa using (List.append_inj' h rfl).2

/-- A post that succeeds puts the filled slot at the end of the pointers. -/
theorem Inv.after_post (hi : Inv depth r) {value : α} (hp : r.producer = .filling value [])
    (hslots : r'.slots = r.slots) (hindex : r'.index = r.index)
    (hptr : r'.pointers = r.pointers ++ [r.index]) (hprod : r'.producer = .advancing)
    (hposted : r'.posted = r.posted ++ [value]) (hcopied : r'.copied = r.copied)
    (hqueue : r'.queue.length ≤ depth) (hwait : r'.consumer ≠ .waiting) : Inv depth r' := by
  have hvalue : r.slots r.index = value := hi.filling value [] hp
  have hnext : r.nextIndex = r.index := by rw [Ring.nextIndex, hp]
  have hnext' : r'.nextIndex = r.index + 1 := by rw [Ring.nextIndex, hprod, hindex]
  refine ⟨?_, ?_, hqueue, fun hw => absurd hw hwait, fun v rest hp' => ?_⟩
  · rw [Ring.outstanding, hposted, hcopied, hptr, hslots, hi.history, List.map_append,
      List.append_assoc, List.map_singleton, hvalue]
    rfl
  · have hchain := hi.chain
    have hlast := hi.nextIndex_eq
    rw [hnext] at hchain hlast
    rw [hptr, hnext', hcopied, List.length_append, List.length_singleton, List.range'_concat,
      List.map_append, ← hchain, hlast, slotOf_succ]
    simp [Nat.add_assoc]
  · rw [hprod] at hp'
    cases hp'

/-- A consumer that holds no slot before and after leaves the messages in flight as they are. -/
theorem Inv.with_consumer (hi : Inv depth r) {consumer : Consumer S} (hc : held r.consumer = [])
    (hc' : held consumer = []) (hw : consumer = .waiting → r.queue = []) :
    Inv depth { r with consumer } := by
  have hptr : Ring.pointers { r with consumer } = r.pointers := by
    rw [Ring.pointers, Ring.pointers, hc, hc']
  refine ⟨?_, ?_, hi.queue_le, hw, hi.filling⟩
  · rw [Ring.outstanding, hptr]
    exact hi.history
  · rw [hptr]
    exact hi.chain

/-- **Step lemma**: every step of either party keeps the invariant. -/
theorem step_inv (hS : depth + 2 ≤ S) (hi : Inv depth r) {a : Action β} (h : Step fill depth r a r') :
    Inv depth r' := by
  have hchain := hi.chain
  cases h with
  | begin request hp =>
    refine ⟨hi.history, ?_, hi.queue_le, hi.waiting, fun value rest hp' => ?_⟩
    · rwa [Ring.nextIndex, hp] at hchain
    · cases hp'
      exact (fill request).complete _
  | @store value f rest hp =>
    have hfresh := hi.index_fresh hS hp
    refine ⟨?_, ?_, hi.queue_le, hi.waiting, fun value' rest' hp' => ?_⟩
    · -- the slots in flight are not the one that is written
      have hsame : (r.pointers.map fun slot =>
          Function.update r.slots r.index (f (r.slots r.index)) slot) = r.outstanding := by
        refine List.map_congr_left fun slot hslot => Function.update_of_ne ?_ _ _
        rintro rfl
        exact hfresh hslot
      exact hi.history.trans (congrArg (r.copied ++ ·) hsame.symm)
    · rwa [Ring.nextIndex, hp] at hchain
    · cases hp'
      have hleft := hi.filling value (f :: rest) hp
      simpa only [Function.update_self, List.foldl_cons] using hleft
  | fail hp =>
    refine ⟨hi.history, ?_, hi.queue_le, hi.waiting, fun value' rest' hp' => ?_⟩
    · rwa [Ring.nextIndex, hp] at hchain
    · cases hp'
  | hand hp hc =>
    have hq := hi.waiting hc
    have hptr : r.pointers = [] := by rw [Ring.pointers, hc, hq]; rfl
    refine hi.after_post hp rfl rfl ?_ rfl rfl rfl hi.queue_le (by simp)
    rw [hptr]
    simp [Ring.pointers, held, hq]
  | enqueue hp hc hroom =>
    refine hi.after_post hp rfl rfl ?_ rfl rfl rfl ?_ hc
    · simp [Ring.pointers]
    · rw [List.length_append, List.length_singleton]
      omega
  | advance hp =>
    refine ⟨hi.history, ?_, hi.queue_le, hi.waiting, fun value rest hp' => ?_⟩
    · rwa [Ring.nextIndex, hp] at hchain
    · cases hp'
  | @take slot rest blocking hc hq =>
    have hptr : r.pointers = slot :: rest := by rw [Ring.pointers, hc, hq]; rfl
    have hle := hi.queue_le
    have hist := hi.history
    rw [Ring.outstanding, hptr] at hist
    rw [hptr] at hchain
    refine ⟨hist, hchain, ?_, fun hw => ?_, hi.filling⟩
    · rw [hq, List.length_cons] at hle
      exact Nat.le_of_succ_le hle
    · cases hw
  | wait hc hq => exact hi.with_consumer (by rw [hc]; rfl) rfl fun _ => hq
  | empty hc hq => exact hi
  | timeout hc => exact hi.with_consumer (by rw [hc]; rfl) rfl fun _ => hi.waiting hc
  | @copy slot hc =>
    have hptr : r.pointers = slot :: r.queue := by rw [Ring.pointers, hc]; rfl
    have hist := hi.history
    rw [Ring.outstanding, hptr] at hist
    rw [hptr] at hchain
    refine ⟨?_, ?_, hi.queue_le, fun hw => ?_, hi.filling⟩
    · simpa [Ring.outstanding, Ring.pointers, held] using hist
    · have htail := congrArg List.tail hchain
      rw [List.length_cons, List.range'_succ, List.map_cons, List.tail_cons] at htail
      simpa [Ring.pointers, held, Ring.nextIndex] using htail
    · cases hw

/-- **Run lemma**: the invariant holds after every interleaving. -/
theorem exec_start_inv (hS : depth + 2 ≤ S) (initial : α) {acts : List (Action β)}
    (h : exec (next fill depth) (start initial) acts = some r) : Inv depth r :=
  exec_inv (Inv depth) (fun _ _ _ hi hn => step_inv hS hi (next_step hn)) (start_inv initial) h

/-- No step changes a slot in flight. -/
theorem step_keeps_slots (hS : depth + 2 ≤ S) (hi : Inv depth r) {a : Action β}
    (h : Step fill depth r a r') {slot : Fin S} (hslot : slot ∈ r.pointers) :
    r'.slots slot = r.slots slot := by
  cases h with
  | store hp =>
    refine Function.update_of_ne ?_ _ _
    rintro rfl
    exact hi.index_fresh hS hp hslot
  | begin | fail | hand | enqueue | advance | take | wait | empty | timeout | copy => rfl

end invariant

/-! ## The channel -/

/-- What a step of the ring is to the outside. -/
inductive Label (α : Type) where
  | quiet
  | put (value : α)
  | take (value : α)

/-- The steps of a FIFO channel. -/
inductive Fifo : List α → Label α → List α → Prop
  | quiet (q : List α) : Fifo q .quiet q
  | put (q : List α) (value : α) : Fifo q (.put value) (q ++ [value])
  | take (value : α) (q : List α) : Fifo (value :: q) (.take value) q

def label (r : Ring α S) : Action β → Label α
  | .post true =>
    match r.producer with
    | .filling value _ => .put value
    | _ => .quiet
  | .copy =>
    match r.consumer with
    | .holding slot => .take (r.slots slot)
    | _ => .quiet
  | _ => .quiet

section channel
variable [NeZero S] {fill : β → Fill α} {depth : Nat} {r r' : Ring α S}

/-- **Refinement**: on the messages in flight every step of the ring is a step of a FIFO channel. -/
theorem next_refines (hS : depth + 2 ≤ S) (hi : Inv depth r) {a : Action β}
    (h : next fill depth r a = some r') : Fifo r.outstanding (label r a) r'.outstanding := by
  have hstep := next_step h
  have hhist := hi.history
  have hhist' := (step_inv hS hi hstep).history
  -- both histories split at the copied messages, so the steps can be read off them
  have hquiet (hp : r'.posted = r.posted) (hc : r'.copied = r.copied) :
      Fifo r.outstanding .quiet r'.outstanding := by
    rw [hp, hc, hhist] at hhist'
    rw [← List.append_cancel_left hhist']
    exact .quiet _
  have hput {value : α} (hp : r'.posted = r.posted ++ [value]) (hc : r'.copied = r.copied) :
      Fifo r.outstanding (.put value) r'.outstanding := by
    rw [hp, hc, hhist, List.append_assoc] at hhist'
    rw [← List.append_cancel_left hhist']
    exact .put _ _
  cases hstep with
  | begin request hp => exact hquiet rfl rfl
  | store hp => exact hquiet rfl rfl
  | fail hp => exact hquiet rfl rfl
  | @hand value hp hc =>
    have hl : label r (.post true : Action β) = .put value := by simp only [label, hp]
    rw [hl]
    exact hput rfl rfl
  | @enqueue value hp hc hroom =>
    have hl : label r (.post true : Action β) = .put value := by simp only [label, hp]
    rw [hl]
    exact hput rfl rfl
  | advance hp => exact hquiet rfl rfl
  | take blocking hc hq => exact hquiet rfl rfl
  | wait hc hq => exact hquiet rfl rfl
  | empty hc hq => exact hquiet rfl rfl
  | timeout hc => exact hquiet rfl rfl
  | @copy slot hc =>
    have hl : label r (.copy : Action β) = .take (r.slots slot) := by simp only [label, hc]
    have hout : r.outstanding = r.slots slot :: r.queue.map r.slots := by
      simp [Ring.outstanding, Ring.pointers, held, hc]
    rw [hl, hout]
    exact .take _ _

end channel

/-! ## Uninterrupted posts and takes -/

section whole
variable [NeZero S] {fill : β → Fill α} {depth : Nat} {r : Ring α S}

/-- A post to a FIFO of at most `depth` messages; a full one is left unchanged. -/
def fifoPost (depth : Nat) (q : List α) (value : α) : List α :=
  if q.length < depth then q ++ [value] else q

/-- Both parties are between two calls and the messages `q` are in flight. -/
structure Holds (depth : Nat) (r : Ring α S) (q : List α) : Prop where
  inv : Inv depth r
  producer : r.producer = .idle
  consumer : r.consumer = .idle
  outstanding : r.outstanding = q

theorem start_holds (initial : α) : Holds depth (start initial : Ring α S) [] :=
  ⟨start_inv initial, rfl, rfl, rfl⟩

/-- The whole post function, its `OSQPost` succeeding or not. -/
def postActions (fill : β → Fill α) (request : β) (ok : Bool) : List (Action β) :=
  .begin request :: (List.replicate (fill request).stores.length .store ++
    if ok then [.post true, .advance] else [.post false])

/-- The pend, and the copy when there was something to take. -/
def takeActions (empty : Bool) : List (Action β) :=
  .pend false :: if empty then [] else [.copy]

/-- The stores of a fill, one after the other: they touch the slot and nothing else. -/
theorem exec_stores (fill : β → Fill α) (depth : Nat) {value : α} {stores : List (α → α)}
    {r : Ring α S} (hp : r.producer = .filling value stores) :
    ∃ r', exec (next fill depth) r (List.replicate stores.length .store) = some r' ∧
      r'.producer = .filling value [] ∧ r'.consumer = r.consumer ∧ r'.queue = r.queue ∧
      r'.posted = r.posted ∧ r'.copied = r.copied := by
  induction stores generalizing r with
  | nil => exact ⟨r, rfl, hp, rfl, rfl, rfl, rfl⟩
  | cons f rest ih =>
    have hstore : next fill depth r .store = some { r with
        slots := Function.update r.slots r.index (f (r.slots r.index))
        producer := .filling value rest } := by
      simp only [next, hp]
    obtain ⟨r', hexec, h⟩ := ih (r := { r with
      slots := Function.update r.slots r.index (f (r.slots r.index)), producer := .filling value rest }) rfl
    refine ⟨r', ?_, h⟩
    rw [List.length_cons, List.replicate_succ, exec, hstore]
    exact hexec

/-- Between two calls of the consumer the messages in flight are the queued ones. -/
theorem Holds.length {q : List α} (h : Holds depth r q) : r.queue.length = q.length := by
  rw [← h.outstanding]
  simp [Ring.outstanding, Ring.pointers, held, h.consumer]

/-- What was posted in a run of actions and not copied is in flight behind what was there before. -/
theorem Holds.after_posts {q news : List α} (hS : depth + 2 ≤ S) (h : Holds depth r q)
    {acts : List (Action β)} {r' : Ring α S} (hexec : exec (next fill depth) r acts = some r')
    (hp : r'.producer = .idle) (hc : r'.consumer = .idle) (hposted : r'.posted = r.posted ++ news)
    (hcopied : r'.copied = r.copied) : Holds depth r' (q ++ news) := by
  have hi : Inv depth r' :=
    exec_inv (Inv depth) (fun _ _ _ hi hn => step_inv hS hi (next_step hn)) h.inv hexec
  refine ⟨hi, hp, hc, ?_⟩
  have hhist := hi.history
  rw [hposted, hcopied, h.inv.history, h.outstanding, List.append_assoc] at hhist
  exact (List.append_cancel_left hhist).symm

/-- **A post that is not interrupted** is a post to the FIFO. -/
theorem Holds.post (hS : depth + 2 ≤ S) {q : List α} (h : Holds depth r q) (fill : β → Fill α)
    (request : β) : ∃ r',
    exec (next fill depth) r (postActions fill request (decide (q.length < depth))) = some r' ∧
      Holds depth r' (fifoPost depth q (fill request).value) := by
  obtain ⟨r₁, hstores, hp₁, hc₁, hq₁, hposted₁, hcopied₁⟩ := exec_stores fill depth
    (r := { r with producer := .filling (fill request).value (fill request).stores }) rfl
  have hbegin : next fill depth r (.begin request) = some
      { r with producer := .filling (fill request).value (fill request).stores } := by
    simp only [next, h.producer]
  have hexec (tail : List (Action β)) : exec (next fill depth) r (.begin request ::
      (List.replicate (fill request).stores.length .store ++ tail)) = exec (next fill depth) r₁ tail := by
    rw [exec, hbegin, Option.bind_some, exec_append, hstores, Option.bind_some]
  by_cases hroom : q.length < depth
  · have hwait : r₁.consumer ≠ .waiting := by simp [hc₁, h.consumer]
    have hroom₁ : r₁.queue.length < depth := by rw [hq₁, h.length]; exact hroom
    have hpost : next fill depth r₁ (.post true) = some { r₁ with
        queue := r₁.queue ++ [r₁.index], producer := .advancing
        posted := r₁.posted ++ [(fill request).value] } := by
      simp [next, hp₁, SlotRing.post, hwait, hroom₁]
    have hall : exec (next fill depth) r (postActions fill request (decide (q.length < depth))) =
        some { r₁ with
          index := r₁.index + 1, queue := r₁.queue ++ [r₁.index], producer := .idle
          posted := r₁.posted ++ [(fill request).value] } := by
      rw [postActions, decide_eq_true hroom, hexec, if_pos rfl, exec, hpost]
      rfl
    refine ⟨_, hall, ?_⟩
    rw [fifoPost, if_pos hroom]
    exact h.after_posts hS hall rfl (hc₁.trans h.consumer) (congrArg (· ++ _) hposted₁) hcopied₁
  · have hall : exec (next fill depth) r (postActions fill request (decide (q.length < depth))) =
        some { r₁ with producer := .idle } := by
      rw [postActions, decide_eq_false hroom, hexec]
      simp [exec, next, hp₁, SlotRing.post]
    refine ⟨_, hall, ?_⟩
    rw [fifoPost, if_neg hroom, ← List.append_nil q]
    exact h.after_posts hS hall rfl (hc₁.trans h.consumer) (hposted₁.trans (List.append_nil _).symm) hcopied₁

/-- **A pend with its copy** takes the oldest message of the FIFO, if there is one. -/
theorem Holds.take (hS : depth + 2 ≤ S) {q : List α} (h : Holds depth r q) (fill : β → Fill α) :
    ∃ r', exec (next fill depth) r (takeActions q.isEmpty) = some r' ∧ Holds depth r' q.tail ∧
      r'.copied = r.copied ++ q.head?.toList := by
  have hptr : r.pointers = r.queue := by simp [Ring.pointers, held, h.consumer]
  have hout := h.outstanding
  rw [Ring.outstanding, hptr] at hout
  cases hq : r.queue with
  | nil =>
    rw [hq, List.map_nil] at hout
    subst hout
    have hall : exec (next fill depth) r (takeActions true) = some r := by
      simp [takeActions, exec, next, h.consumer, pend, hq]
    exact ⟨r, hall, h, by simp⟩
  | cons slot rest =>
    rw [hq, List.map_cons] at hout
    subst hout
    have hall : exec (next fill depth) r (takeActions false) =
        some { r with consumer := .idle, queue := rest, copied := r.copied ++ [r.slots slot] } := by
      simp [takeActions, exec, next, h.consumer, pend, hq]
    have hi := exec_inv (Inv depth) (fun _ _ _ hi hn => step_inv hS hi (next_step hn)) h.inv hall
    refine ⟨_, hall, ⟨hi, h.producer, rfl, ?_⟩, rfl⟩
    simp [Ring.outstanding, Ring.pointers, held]

end whole

end SlotRing
