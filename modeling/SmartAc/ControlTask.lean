import SmartAc.Control

/-!
# `ControlTask` (`app_tasks.c:237-286`)

| here | there |
| --- | --- |
| `ControlTask`          | the locals of the task; `latest`, `lastOutput` hold a value once `have_latest`, `have_last_output` are set |
| `ControlWake`          | what one pass of the loop gets from the kernel: the message of `OSQPend` (`none` after the 10-tick timeout), the flags of `OSFlagPend`, `App_Millis()` |
| `outputChanged`        | the comparison with `last_output` (`app_tasks.c:272-277`) |
| `controlTaskIter`      | one pass of the loop |

The size check of `received` (`app_tasks.c:266`) always passes: every post to the queue sends
`sizeof(*slot)`.
-/

namespace SmartAc

structure ControlTask where
  context : ControlContext
  latest : Option SensorMsg
  lastOutput : Option ControlOutput
deriving DecidableEq

/-- The locals before the loop. -/
def controlTaskInit : ControlTask := ⟨controlInit, none, none⟩

structure ControlWake where
  received : Option SensorMsg
  events : UInt32
  nowMs : UInt32
deriving DecidableEq

/-- `output.x != last_output.x` for one of the five fields (`app_tasks.c:273-277`). -/
def outputChanged (output last : ControlOutput) : Bool :=
  output.state != last.state || output.coolingLevel != last.coolingLevel ||
    output.currentTemperatureC != last.currentTemperatureC || output.setpointC != last.setpointC ||
    output.temperatureValid != last.temperatureValid

theorem outputChanged_eq (output last : ControlOutput) : outputChanged output last = (output != last) := by
  obtain ⟨s, l, t, sp, v⟩ := output
  obtain ⟨s', l', t', sp', v'⟩ := last
  rw [Bool.eq_iff_iff]
  simp only [outputChanged, Bool.or_eq_true, bne_iff_ne, ne_eq, ControlOutput.mk.injEq]
  tauto

/-- The change detector: a click, no output posted yet, or a changed field. -/
def needsPost (task : ControlTask) (output : ControlOutput) (buzzerClick : Bool) : Bool :=
  buzzerClick || match task.lastOutput with
    | none => true
    | some last => outputChanged output last

/-- What one pass computed, and the arguments of `PostDisplay` and `PostActuator` if it calls them. -/
structure ControlPass where
  output : ControlOutput
  post : Option (ControlOutput × Bool)
deriving DecidableEq

/-- `received`, else what was received before (`app_tasks.c:266-269`). -/
def latestAfter (task : ControlTask) (w : ControlWake) : Option SensorMsg := w.received <|> task.latest

/-- One pass of the loop (`app_tasks.c:249-285`). -/
def controlTaskIter (task : ControlTask) (w : ControlWake) : ControlTask × ControlPass :=
  let latest := latestAfter task w
  let buzzerClick := hasEvent w.events userEvtBuzzerClick
  let (context, output) := controlStep task.context latest w.events w.nowMs
  if needsPost task output buzzerClick then
    (⟨context, latest, some output⟩, ⟨output, some (output, buzzerClick)⟩)
  else (⟨context, latest, task.lastOutput⟩, ⟨output, none⟩)

/-- The `Control_Step` call of a pass. -/
def ControlTask.input (task : ControlTask) (w : ControlWake) : ControlInput :=
  ⟨latestAfter task w, w.events, w.nowMs⟩

theorem controlTaskIter_context (task : ControlTask) (w : ControlWake) :
    (controlTaskIter task w).1.context = stepCtx task.context (task.input w) := by
  unfold controlTaskIter
  dsimp only
  split <;> rfl

theorem controlTaskIter_latest (task : ControlTask) (w : ControlWake) :
    (controlTaskIter task w).1.latest = latestAfter task w := by
  unfold controlTaskIter
  dsimp only
  split <;> rfl

theorem controlTaskIter_output (task : ControlTask) (w : ControlWake) :
    (controlTaskIter task w).2.output = (step task.context (task.input w)).2 := by
  unfold controlTaskIter
  dsimp only
  split <;> rfl

end SmartAc
