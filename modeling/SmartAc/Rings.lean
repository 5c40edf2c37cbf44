import SmartAc.Lib.SlotBound
import SmartAc.Lib.SlotRing
import SmartAc.Messages

/-!
# The slot rings of the three queues: `app_tasks.c`

| here | there |
| --- | --- |
| `postSensor`   | the stores of `PostSensor` (`app_tasks.c:61-75`) |
| `postDisplay`  | the stores of `PostDisplay` (`app_tasks.c:77-92`) |
| `postActuator` | the stores of `PostActuator` (`app_tasks.c:94-110`) |
| `Queue`        | `SensorQ`, `DisplayQ`, `ActuatorQ` with their slots and indices (`app_tasks.c:31-42`) |

Each queue instantiates `SlotRing` with its messages and its stores. `OSQPend` and `OSQPost` are the
library's steps: a FIFO of at most `APP_QUEUE_DEPTH` pointers, where a post may fail for any reason
without an effect and goes straight to a consumer that waits.
-/

namespace SmartAc

open Machine SlotRing

def postSensor (message : SensorMsg) : Fill SensorMsg where
  value := message
  stores := [fun _ => message]
  complete := fun _ => rfl

def postDisplay (output : ControlOutput) : Fill DisplayMsg where
  value :=
    { state := output.state
      coolingLevel := output.coolingLevel
      currentTemperatureC := output.currentTemperatureC
      setpointC := output.setpointC
      temperatureValid := output.temperatureValid }
  stores :=
    [fun slot => { slot with state := output.state },
      fun slot => { slot with coolingLevel := output.coolingLevel },
      fun slot => { slot with currentTemperatureC := output.currentTemperatureC },
      fun slot => { slot with setpointC := output.setpointC },
      fun slot => { slot with temperatureValid := output.temperatureValid }]
  complete := fun _ => rfl

def postActuator (request : ControlOutput × Bool) : Fill ActuatorMsg where
  value :=
    { state := request.1.state, coolingLevel := request.1.coolingLevel, buzzerClick := request.2 }
  stores :=
    [fun slot => { slot with state := request.1.state },
      fun slot => { slot with coolingLevel := request.1.coolingLevel },
      fun slot => { slot with buzzerClick := request.2 }]
  complete := fun _ => rfl

/-- The three queues. -/
inductive Queue where
  | sensor | display | actuator
deriving DecidableEq, Repr

/-- What a slot of the queue holds. -/
abbrev Queue.Msg : Queue → Type
  | .sensor => SensorMsg
  | .display => DisplayMsg
  | .actuator => ActuatorMsg

/-- What the post function of the queue is given. -/
abbrev Queue.Request : Queue → Type
  | .sensor => SensorMsg
  | .display => ControlOutput
  | .actuator => ControlOutput × Bool

def Queue.fill : (k : Queue) → k.Request → Fill k.Msg
  | .sensor => postSensor
  | .display => postDisplay
  | .actuator => postActuator

/-- A slot before its first message: static storage is zero. -/
def Queue.zero : (k : Queue) → k.Msg
  | .sensor => { temperatureC := 0, humidityPct := 0, windowOpen := false, valid := false }
  | .display =>
    { state := .off, coolingLevel := 0, currentTemperatureC := 0, setpointC := 0
      temperatureValid := false }
  | .actuator => { state := .off, coolingLevel := 0, buzzerClick := false }

instance : NeZero appQueueSlotCount := ⟨by decide⟩

/-- One step of the task that posts to the queue or of the task that pends on it. -/
def queueNext (k : Queue) : Ring k.Msg appQueueSlotCount → Action k.Request →
    Option (Ring k.Msg appQueueSlotCount) :=
  next k.fill appQueueDepth

def queueStart (k : Queue) : Ring k.Msg appQueueSlotCount := start k.zero

theorem slots_suffice : appQueueDepth + 2 ≤ appQueueSlotCount := le_refl _

/-- **Slot-ring integrity**: after every interleaving of a queue's producer and consumer, failed posts
included, the messages copied out are the first of those posted, the rest is in flight, and no
further step of either party changes a slot that is queued or held. -/
theorem slot_ring_integrity (k : Queue) (acts : List (Action k.Request))
    (r : Ring k.Msg appQueueSlotCount) (h : exec (queueNext k) (queueStart k) acts = some r) :
    r.copied <+: r.posted ∧ r.posted = r.copied ++ r.pointers.map r.slots ∧
      ∀ a r', queueNext k r a = some r' → ∀ slot ∈ r.pointers, r'.slots slot = r.slots slot := by
  have hi : Inv appQueueDepth r := exec_start_inv slots_suffice k.zero h
  refine ⟨⟨r.outstanding, hi.history.symm⟩, hi.history, fun a r' hstep slot hslot => ?_⟩
  exact step_keeps_slots slots_suffice hi (next_step hstep) hslot

/-- A post to a waiting consumer, a failed post while the slot is held, then the copy. -/
theorem slot_ring_integrity_failed_post :
    let acts : List (Action Queue.sensor.Request) :=
      [.pend true, .begin ⟨25, 40, false, true⟩, .store, .post true, .advance,
        .begin ⟨26, 41, true, true⟩, .store, .post false, .begin ⟨27, 42, true, true⟩, .store, .copy]
    ∃ r, exec (queueNext .sensor) (queueStart .sensor) acts = some r ∧
      r.copied <+: r.posted ∧ r.copied = [⟨25, 40, false, true⟩] := by
  intro acts
  have hexec : exec (queueNext .sensor) (queueStart .sensor) acts = some _ := rfl
  exact ⟨_, hexec, (slot_ring_integrity .sensor acts _ hexec).1, rfl⟩

/-! ## The slot count -/

/-- Every queue carries two messages that differ. -/
theorem Queue.exists_distinct (k : Queue) : ∃ a b : k.Request, (k.fill a).value ≠ (k.fill b).value := by
  let output : ControlOutput := ⟨.off, 0, 0, 0, false⟩
  cases k with
  | sensor =>
    refine ⟨⟨0, 0, false, false⟩, ⟨0, 0, true, false⟩, fun h => ?_⟩
    exact Bool.false_ne_true (congrArg SensorMsg.windowOpen h)
  | display =>
    refine ⟨output, { output with temperatureValid := true }, fun h => ?_⟩
    exact Bool.false_ne_true (congrArg DisplayMsg.temperatureValid h)
  | actuator =>
    refine ⟨(output, false), (output, true), fun h => ?_⟩
    exact Bool.false_ne_true (congrArg ActuatorMsg.buzzerClick h)

/-- **`APP_QUEUE_SLOT_COUNT` is the least slot count that works**: with `S` slots behind a queue of
`APP_QUEUE_DEPTH` pointers no interleaving copies out a message that was overwritten if and only if `S` is at
least that. One slot fewer, and the fill hits the message that is held, also where the task never waits. -/
theorem slot_count_least (k : Queue) (S : Nat) [NeZero S] :
    (∀ acts r, exec (next k.fill appQueueDepth) (start k.zero : Ring k.Msg S) acts = some r →
      r.copied <+: r.posted) ↔ appQueueSlotCount ≤ S := by
  obtain ⟨a, b, hab⟩ := k.exists_distinct
  exact slots_needed k.fill (by decide) k.zero hab

/-- A slot for each queued pointer and one for the held message is one too few. -/
theorem slot_count_least_nine :
    ¬ ∀ acts r, exec (next Queue.display.fill appQueueDepth) (start Queue.display.zero : Ring DisplayMsg 9)
      acts = some r → r.copied <+: r.posted := by
  rw [slot_count_least .display 9]
  decide

end SmartAc
