import SmartAc.EventBatches
import SmartAc.Pipeline
import SmartAc.SensorTask

/-!
# The tasks together: `app_tasks.c`

| here | there |
| --- | --- |
| `osqPost`    | `OSQPost` on one of the three queues |
| `ControlPc`  | where `ControlTask` is in its pass (`app_tasks.c:249-285`) |
| `System`     | the locals of the five tasks, the flag group and the three queues |
| `systemNext` | one step of one task, or of the reed interrupt |

`SensorTask` runs statement by statement (`sensorNext`). A pass of `ControlTask` is cut at its kernel calls:
`OSQPend`, `OSFlagPend`, `Control_Step` with `PostDisplay`, `PostActuator`. A pass of a consumer or a poll of the
buttons is one step. `lost` is history: the queues whose posts were refused, most recent first.

Each task on its own is a projection of the system: `exec_sensor`, `exec_buttons`.
-/

namespace SmartAc

open Machine SlotRing

/-- A post and the account of lost ones; the kernel may refuse, and a full queue always refuses. -/
def osqPost (k : Queue) (accepted : Bool) (q : List k.Msg) (value : k.Msg) (lost : List Queue) :
    List k.Msg × List Queue :=
  if accepted && decide (q.length < appQueueDepth) then (q ++ [value], lost) else (q, k :: lost)

theorem osqPost_cases (k : Queue) (accepted : Bool) (q : List k.Msg) (value : k.Msg) (lost : List Queue) :
    osqPost k accepted q value lost = (q ++ [value], lost) ∨ osqPost k accepted q value lost = (q, k :: lost) := by
  unfold osqPost
  split_ifs <;> simp

inductive ControlPc where
  | waiting
  | received (message : Option SensorMsg)
  | woken (message : Option SensorMsg) (events : UInt32)
  | posting (output : ControlOutput) (buzzerClick : Bool)
deriving DecidableEq

structure System where
  sensor : SensorSystem
  sensorQ : List SensorMsg
  user : UserInput
  flags : UInt32
  control : ControlTask
  pc : ControlPc
  displayQ : List DisplayMsg
  actuatorQ : List ActuatorMsg
  display : DisplayMsg
  actuator : ActuatorTask
  lost : List Queue

def systemInit : System where
  sensor := sensorInit
  sensorQ := []
  user := userInputInit
  flags := 0
  control := controlTaskInit
  pc := .waiting
  displayQ := []
  actuatorQ := []
  display := displayTaskInit
  actuator := actuatorTaskInit
  lost := []

/-- `accepted` is what the kernel says to the post of the step, if it makes one. -/
inductive SystemAction where
  | sensor (a : SensorAction) (accepted : Bool)
  | poll (p : ButtonPoll)
  | pendSensor
  | pendFlags
  | step (nowMs : UInt32) (accepted : Bool)
  | postActuator (accepted : Bool)
  | display (nowMs : UInt32)
  | actuator (nowMs : UInt32)

/-- The message that `SensorTask` hands to `PostSensor` in this step. -/
def sensorPosts (s : SensorSystem) : SensorAction → Option SensorMsg
  | .post =>
    match s.pc with
    | .filled _ true => some s.task.message
    | _ => none
  | _ => none

def systemNext (s : System) : SystemAction → Option System
  | .sensor a accepted => (sensorNext s.sensor a).map fun sensor =>
    match sensorPosts s.sensor a with
    | none => { s with sensor }
    | some message =>
      let (sensorQ, lost) := osqPost .sensor accepted s.sensorQ (postSensor message).value s.lost
      { s with sensor, sensorQ, lost }
  | .poll p =>
    let (user, events) := userPoll s.user p
    some { s with user, flags := if events != 0 then s.flags ||| events else s.flags }
  | .pendSensor =>
    match s.pc with
    | .waiting => some { s with sensorQ := s.sensorQ.tail, pc := .received s.sensorQ.head? }
    | _ => none
  | .pendFlags =>
    match s.pc with
    | .received message =>
      some { s with flags := s.flags &&& ~~~userEvtAll, pc := .woken message (s.flags &&& userEvtAll) }
    | _ => none
  | .step nowMs accepted =>
    match s.pc with
    | .woken message events =>
      let (control, pass) := controlTaskIter s.control ⟨message, events, nowMs⟩
      match pass.post with
      | none => some { s with control, pc := .waiting }
      | some (output, buzzerClick) =>
        let (displayQ, lost) := osqPost .display accepted s.displayQ (postDisplay output).value s.lost
        some { s with control, pc := .posting output buzzerClick, displayQ, lost }
    | _ => none
  | .postActuator accepted =>
    match s.pc with
    | .posting output buzzerClick =>
      let (actuatorQ, lost) :=
        osqPost .actuator accepted s.actuatorQ (postActuator (output, buzzerClick)).value s.lost
      some { s with pc := .waiting, actuatorQ, lost }
    | _ => none
  | .display _ =>
    some { s with displayQ := s.displayQ.tail, display := displayTaskIter s.display s.displayQ.head? }
  | .actuator nowMs =>
    some { s with
      actuatorQ := s.actuatorQ.tail
      actuator := (actuatorTaskIter s.actuator s.actuatorQ.head? nowMs).1 }

/-- What the actuator is on after a pass. -/
theorem actuatorTaskIter_current (task : ActuatorTask) (received : Option ActuatorMsg) (nowMs : UInt32) :
    (actuatorTaskIter task received nowMs).1.current = received.getD task.current := by
  cases received <;> rfl

/-! ## One step -/

/-- What a step can do, with the guards of each branch. -/
inductive SystemStep (s : System) : SystemAction → System → Prop where
  | sensor (a : SensorAction) (accepted : Bool) (sensor : SensorSystem)
      (hnext : sensorNext s.sensor a = some sensor) (hquiet : sensorPosts s.sensor a = none) :
      SystemStep s (.sensor a accepted) { s with sensor }
  | publish (accepted : Bool) (sensor : SensorSystem) (message : SensorMsg)
      (hnext : sensorNext s.sensor .post = some sensor) (hpost : sensorPosts s.sensor .post = some message) :
      SystemStep s (.sensor .post accepted) { s with
        sensor
        sensorQ := (osqPost .sensor accepted s.sensorQ message s.lost).1
        lost := (osqPost .sensor accepted s.sensorQ message s.lost).2 }
  | poll (p : ButtonPoll) : SystemStep s (.poll p) { s with
      user := (userPoll s.user p).1
      flags := if (userPoll s.user p).2 != 0 then s.flags ||| (userPoll s.user p).2 else s.flags }
  | pendSensor (hpc : s.pc = .waiting) :
      SystemStep s .pendSensor { s with sensorQ := s.sensorQ.tail, pc := .received s.sensorQ.head? }
  | pendFlags (message : Option SensorMsg) (hpc : s.pc = .received message) :
      SystemStep s .pendFlags { s with
        flags := s.flags &&& ~~~userEvtAll, pc := .woken message (s.flags &&& userEvtAll) }
  | same (w : ControlWake) (accepted : Bool) (hpc : s.pc = .woken w.received w.events)
      (hpost : (controlTaskIter s.control w).2.post = none) :
      SystemStep s (.step w.nowMs accepted) { s with
        control := (controlTaskIter s.control w).1, pc := .waiting }
  | changed (w : ControlWake) (accepted : Bool) (output : ControlOutput) (buzzerClick : Bool)
      (hpc : s.pc = .woken w.received w.events)
      (hpost : (controlTaskIter s.control w).2.post = some (output, buzzerClick)) :
      SystemStep s (.step w.nowMs accepted) { s with
        control := (controlTaskIter s.control w).1
        pc := .posting output buzzerClick
        displayQ := (osqPost .display accepted s.displayQ (postDisplay output).value s.lost).1
        lost := (osqPost .display accepted s.displayQ (postDisplay output).value s.lost).2 }
  | postActuator (accepted : Bool) (output : ControlOutput) (buzzerClick : Bool)
      (hpc : s.pc = .posting output buzzerClick) :
      SystemStep s (.postActuator accepted) { s with
        pc := .waiting
        actuatorQ := (osqPost .actuator accepted s.actuatorQ (postActuator (output, buzzerClick)).value s.lost).1
        lost := (osqPost .actuator accepted s.actuatorQ (postActuator (output, buzzerClick)).value s.lost).2 }
  | display (nowMs : UInt32) : SystemStep s (.display nowMs) { s with
      displayQ := s.displayQ.tail, display := s.displayQ.head?.getD s.display }
  | actuator (nowMs : UInt32) : SystemStep s (.actuator nowMs) { s with
      actuatorQ := s.actuatorQ.tail
      actuator := (actuatorTaskIter s.actuator s.actuatorQ.head? nowMs).1 }

theorem sensorPosts_some {s : SensorSystem} {a : SensorAction} {message : SensorMsg}
    (h : sensorPosts s a = some message) : a = .post ∧ ∃ windowOpen, s.pc = .filled windowOpen true := by
  cases a <;> simp only [sensorPosts, reduceCtorEq] at h
  cases hpc : s.pc <;> simp only [hpc, reduceCtorEq] at h
  rename_i windowOpen publish
  cases publish
  · cases h
  · exact ⟨rfl, windowOpen, rfl⟩

/-- **Step inversion**. -/
theorem systemNext_step {s s' : System} {a : SystemAction} (h : systemNext s a = some s') :
    SystemStep s a s' := by
  unfold systemNext at h
  cases a with
  | sensor a accepted =>
    obtain ⟨sensor, hnext, rfl⟩ := Option.map_eq_some_iff.1 h
    cases hpost : sensorPosts s.sensor a with
    | none => exact .sensor a accepted sensor hnext hpost
    | some message =>
      obtain ⟨rfl, -⟩ := sensorPosts_some hpost
      exact .publish accepted sensor message hnext hpost
  | poll p =>
    cases h
    exact .poll p
  | pendSensor =>
    cases hpc : s.pc <;> rw [hpc] at h <;> cases h
    exact .pendSensor hpc
  | pendFlags =>
    cases hpc : s.pc <;> rw [hpc] at h <;> cases h
    exact .pendFlags _ hpc
  | step nowMs accepted =>
    cases hpc : s.pc with
    | woken message events =>
      rw [hpc] at h
      dsimp only at h
      cases hpost : (controlTaskIter s.control ⟨message, events, nowMs⟩).2.post with
      | none =>
        rw [hpost] at h
        cases h
        exact .same ⟨message, events, nowMs⟩ accepted hpc hpost
      | some request =>
        rw [hpost] at h
        cases h
        exact .changed ⟨message, events, nowMs⟩ accepted request.1 request.2 hpc hpost
    | _ => rw [hpc] at h; cases h
  | postActuator accepted =>
    cases hpc : s.pc <;> rw [hpc] at h <;> cases h
    exact .postActuator accepted _ _ hpc
  | display nowMs =>
    cases h
    exact .display nowMs
  | actuator nowMs =>
    cases h
    exact .actuator nowMs

theorem SystemStep.next {s s' : System} {a : SystemAction} (h : SystemStep s a s') : systemNext s a = some s' := by
  cases h with
  | sensor a accepted sensor hnext hquiet => simp [systemNext, hnext, hquiet]
  | publish accepted sensor message hnext hpost =>
    simp only [systemNext, hnext, hpost, Option.map_some]
    rfl
  | poll p => rfl
  | pendSensor hpc => simp [systemNext, hpc]
  | pendFlags message hpc => simp [systemNext, hpc]
  | same w accepted hpc hpost => simp [systemNext, hpc, hpost]
  | changed w accepted output buzzerClick hpc hpost => simp [systemNext, hpc, hpost]
  | postActuator accepted output buzzerClick hpc => simp [systemNext, hpc]
  | display nowMs => rfl
  | actuator nowMs => rfl

/-! ## Each task on its own -/

def sensorLabel (_ : System) : SystemAction → Option SensorAction
  | .sensor a _ => some a
  | _ => none

/-- What `UserInputTask` and `ControlTask` do to the flags, and the passes of `ControlTask`. -/
def buttonLabel (s : System) : SystemAction → Option ButtonAction
  | .poll p => some (.poll p)
  | .pendFlags =>
    match s.pc with
    | .received message => some (.pend message)
    | _ => none
  | .step nowMs _ => some (.step nowMs)
  | _ => none

/-- What `ControlTask` has pended for a `Control_Step` still to come. -/
def ControlPc.pended : ControlPc → Option (Option SensorMsg × UInt32)
  | .woken message events => some (message, events)
  | _ => none

def System.buttons (s : System) : ButtonSystem := ⟨s.user, s.flags, s.control, s.pc.pended⟩

/-- The actions of `SensorTask` and of the reed interrupt. -/
def sensorActs (acts : List SystemAction) : List SensorAction := labels systemNext sensorLabel systemInit acts

/-- The actions on the flag group, and the passes of `ControlTask`. -/
def buttonActs (acts : List SystemAction) : List ButtonAction := labels systemNext buttonLabel systemInit acts

theorem exec_sensor {acts : List SystemAction} {s : System} (h : exec systemNext systemInit acts = some s) :
    exec sensorNext sensorInit (sensorActs acts) = some s.sensor := by
  refine exec_project System.sensor sensorLabel (fun s a s' hstep => ?_) h
  cases systemNext_step hstep with
  | sensor a accepted sensor hnext hquiet => simp [exec, sensorLabel, hnext]
  | publish accepted sensor message hnext hpost => simp [exec, sensorLabel, hnext]
  | _ => rfl

theorem exec_buttons {acts : List SystemAction} {s : System} (h : exec systemNext systemInit acts = some s) :
    exec buttonNext buttonInit (buttonActs acts) = some s.buttons := by
  refine exec_project System.buttons buttonLabel (fun s a s' hstep => ?_) h
  cases systemNext_step hstep with
  | poll p => rfl
  | pendFlags message hpc => simp [exec, buttonLabel, hpc, buttonNext, System.buttons, ControlPc.pended]
  | pendSensor hpc => simp [exec, buttonLabel, hpc, System.buttons, ControlPc.pended]
  | same w accepted hpc hpost => simp [exec, buttonLabel, buttonNext, hpc, System.buttons, ControlPc.pended]
  | changed w accepted output buzzerClick hpc hpost =>
    simp [exec, buttonLabel, buttonNext, hpc, System.buttons, ControlPc.pended]
  | postActuator accepted output buzzerClick hpc => simp [exec, buttonLabel, hpc, System.buttons, ControlPc.pended]
  | sensor a accepted sensor hnext hquiet => rfl
  | publish accepted sensor message hnext hpost => rfl
  | display nowMs => rfl
  | actuator nowMs => rfl

end SmartAc
