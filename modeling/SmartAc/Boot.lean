import SmartAc.Lib.Startup
import SmartAc.MonitorLines
import SmartAc.System

/-!
# Starting up: `app_tasks.c`, `app_board.c`

| here | there |
| --- | --- |
| `boardInit`             | `Board_Init` (`app_board.c:386-392`) |
| `boardUsTimerIsRunning` | `Board_UsTimerIsRunning` (`app_board.c:118-129`) |
| `createTask`            | `CreateTask` (`app_tasks.c:373-384`) |
| `appTasksCreateAll`     | `AppTasks_CreateAll` (`app_tasks.c:386-410`), which `App_Start` calls (`app.c:17-20`) |
| `appTaskStart`          | `AppTaskStart` up to its loop (`app_tasks.c:412-423`) |
| `BootWork.objects`      | what the statements of a step touch, in the functions they call too (`app_tasks.c:112-371`) |
| `BootWork.blocks`       | `OSTaskStkChk(&SensorTaskTCB, …)` (`app_tasks.c:354`) |

The tasks run as soon as they are created, and `CreateTask` writes a line when it fails: `Startup` with
these calls and the steps of `System`. The calls that create the queues, the flag group and the mutex are taken
to succeed; their results are not looked at. For the queues and the flags `systemNext_mix` and `systemStep_frame`
check what a step is said to touch; the clock, the pins and the timer are inputs of the steps.
-/

namespace SmartAc

open Machine Startup

inductive Resource where
  | pins | uart | usTimer | tick | usTimerReady
  | sensorQ | displayQ | actuatorQ | userEventFlags | uartMutex | monitorUartMutex
deriving DecidableEq

/-! ## What the tasks touch -/

/-- A step of `System`, what two of the tasks do before their loops, and a turn of `MonitorTask`. -/
inductive BootWork where
  | system (a : SystemAction)
  | sensorProbe
  | tm1637Init
  | monitorTurn

/-- What `Monitor_Log` and its siblings touch. -/
def monitorUses : List Resource := [.monitorUartMutex, .uartMutex, .uart]

def SystemAction.owner : SystemAction → Option TaskName
  | .sensor .reedEdge _ => none
  | .sensor _ _ => some .sensor
  | .poll _ => some .user
  | .pendSensor | .pendFlags | .step _ _ | .postActuator _ => some .control
  | .display _ => some .display
  | .actuator _ => some .actuator

def SystemAction.objects : SystemAction → List Resource
  | .sensor .reedEdge _ => []
  | .sensor (.millis _) _ => [.tick]
  | .sensor (.reed _) _ => [.pins]
  | .sensor .publish _ => []
  | .sensor (.dht _) _ => [.usTimerReady, .pins, .tick, .usTimer] ++ monitorUses
  | .sensor .post _ => [.sensorQ, .tick]
  | .poll _ => [.pins, .tick, .userEventFlags]
  | .pendSensor => [.sensorQ, .tick]
  | .pendFlags => [.userEventFlags]
  | .step _ _ => [.tick, .displayQ]
  | .postActuator _ => [.actuatorQ]
  | .display _ => [.displayQ, .tick, .pins, .usTimer]
  | .actuator _ => [.actuatorQ, .tick, .pins]

def BootWork.owner : BootWork → Option TaskName
  | .system a => a.owner
  | .sensorProbe => some .sensor
  | .tm1637Init => some .display
  | .monitorTurn => some .monitor

def BootWork.objects : BootWork → List Resource
  | .system a => a.objects
  | .sensorProbe => [.tick, .usTimerReady, .usTimer] ++ monitorUses
  | .tm1637Init => [.pins, .usTimer]
  | .monitorTurn => [.tick, .pins, .usTimerReady] ++ monitorUses

def BootWork.blocks : BootWork → List TaskName
  | .monitorTurn => [.sensor]
  | _ => []

/-- What the steps of a task touch together. -/
def TaskName.uses : TaskName → List Resource
  | .sensor => [.tick, .usTimerReady, .usTimer, .pins, .sensorQ] ++ monitorUses
  | .user => [.pins, .tick, .userEventFlags]
  | .control => [.sensorQ, .userEventFlags, .tick, .displayQ, .actuatorQ]
  | .display => [.pins, .usTimer, .displayQ, .tick]
  | .actuator => [.actuatorQ, .tick, .pins]
  | .monitor => [.tick, .pins, .usTimerReady] ++ monitorUses

def TaskName.refers : TaskName → List TaskName
  | .monitor => [.sensor]
  | _ => []

theorem SystemAction.objects_owned (a : SystemAction) (t : TaskName) (h : a.owner = some t) :
    a.objects ⊆ t.uses := by
  cases a with
  | sensor a accepted => cases a <;> cases h <;> simp [SystemAction.objects, TaskName.uses, monitorUses]
  | _ => cases h; simp [SystemAction.objects, TaskName.uses]

/-- What making an object does to it. -/
def makeObject (r : Resource) (s : System) : System :=
  match r with
  | .sensorQ => { s with sensorQ := [] }
  | .displayQ => { s with displayQ := [] }
  | .actuatorQ => { s with actuatorQ := [] }
  | .userEventFlags => { s with flags := 0 }
  | _ => s

def bootTasks : Tasks Resource TaskName System BootWork where
  next s
    | .system a => systemNext s a
    | _ => some s
  owner := BootWork.owner
  objects := BootWork.objects
  blocks := BootWork.blocks
  make := makeObject
  uses := TaskName.uses
  refers := TaskName.refers
  owned a t h := by
    cases a with
    | system a => exact ⟨a.objects_owned t h, by simp [BootWork.blocks]⟩
    | _ => cases h; decide
  interrupt a h := by
    cases a with
    | system a =>
      cases a with
      | sensor a accepted => cases a <;> cases h; exact ⟨rfl, rfl⟩
      | _ => cases h
    | _ => cases h

/-- The system with the queues and the flags as in `junk` where they are not made. -/
def System.mix (made : List Resource) (s junk : System) : System :=
  { s with
    sensorQ := if .sensorQ ∈ made then s.sensorQ else junk.sensorQ
    displayQ := if .displayQ ∈ made then s.displayQ else junk.displayQ
    actuatorQ := if .actuatorQ ∈ made then s.actuatorQ else junk.actuatorQ
    flags := if .userEventFlags ∈ made then s.flags else junk.flags }

/-- A step does not read or change a queue, or the flags, unless it names it. -/
theorem systemNext_mix {a : SystemAction} {made : List Resource} (h : a.objects ⊆ made) (s junk : System) :
    systemNext (s.mix made junk) a = (systemNext s a).map (·.mix made junk) := by
  cases a with
  | sensor a accepted =>
    change (sensorNext s.sensor a).map _ = ((sensorNext s.sensor a).map _).map _
    cases hnext : sensorNext s.sensor a with
    | none => rfl
    | some sensor =>
      cases hpost : sensorPosts s.sensor a with
      | none => simp [System.mix, hpost]
      | some message =>
        obtain ⟨rfl, -⟩ := sensorPosts_some hpost
        have hmade : .sensorQ ∈ made := h (by simp [SystemAction.objects])
        simp [System.mix, hpost, hmade]
  | poll p =>
    have hmade : .userEventFlags ∈ made := h (by simp [SystemAction.objects])
    simp [systemNext, System.mix, hmade]
  | pendSensor =>
    have hmade : .sensorQ ∈ made := h (by simp [SystemAction.objects])
    cases hpc : s.pc <;> simp [systemNext, System.mix, hmade, hpc]
  | pendFlags =>
    have hmade : .userEventFlags ∈ made := h (by simp [SystemAction.objects])
    cases hpc : s.pc <;> simp [systemNext, System.mix, hmade, hpc]
  | step nowMs accepted =>
    have hmade : .displayQ ∈ made := h (by simp [SystemAction.objects])
    cases hpc : s.pc with
    | woken message events =>
      cases hpost : (controlTaskIter s.control ⟨message, events, nowMs⟩).2.post <;>
        simp [systemNext, System.mix, hmade, hpc, hpost]
    | _ => simp [systemNext, System.mix, hpc]
  | postActuator accepted =>
    have hmade : .actuatorQ ∈ made := h (by simp [SystemAction.objects])
    cases hpc : s.pc <;> simp [systemNext, System.mix, hmade, hpc]
  | display nowMs =>
    have hmade : .displayQ ∈ made := h (by simp [SystemAction.objects])
    simp [systemNext, System.mix, hmade]
  | actuator nowMs =>
    have hmade : .actuatorQ ∈ made := h (by simp [SystemAction.objects])
    simp [systemNext, System.mix, hmade]

/-- A queue that a step does not name stays as it is, and so do the flags. -/
theorem systemStep_frame {s s' : System} {a : SystemAction} (h : SystemStep s a s') :
    (.sensorQ ∉ a.objects → s'.sensorQ = s.sensorQ) ∧ (.displayQ ∉ a.objects → s'.displayQ = s.displayQ) ∧
      (.actuatorQ ∉ a.objects → s'.actuatorQ = s.actuatorQ) ∧
      (.userEventFlags ∉ a.objects → s'.flags = s.flags) := by
  cases h with
  | sensor a accepted sensor hnext hquiet => simp
  | _ => simp [SystemAction.objects]

/-- What is as if it were new stays so until a step names it. -/
theorem makeObject_fresh {s s' : System} {a : SystemAction} (h : SystemStep s a s') {r : Resource}
    (hr : r ∉ a.objects) (hfresh : makeObject r s = s) : makeObject r s' = s' := by
  obtain ⟨hsensorQ, hdisplayQ, hactuatorQ, hflags⟩ := systemStep_frame h
  cases r with
  | sensorQ =>
    have hempty : s'.sensorQ = [] := (hsensorQ hr).trans (congrArg System.sensorQ hfresh).symm
    rw [makeObject, ← hempty]
  | displayQ =>
    have hempty : s'.displayQ = [] := (hdisplayQ hr).trans (congrArg System.displayQ hfresh).symm
    rw [makeObject, ← hempty]
  | actuatorQ =>
    have hempty : s'.actuatorQ = [] := (hactuatorQ hr).trans (congrArg System.actuatorQ hfresh).symm
    rw [makeObject, ← hempty]
  | userEventFlags =>
    have hzero : s'.flags = 0 := (hflags hr).trans (congrArg System.flags hfresh).symm
    rw [makeObject, ← hzero]
  | _ => rfl

theorem bootTasks_frames : Frames bootTasks System.mix := by
  refine ⟨fun r made s junk => ?_, fun a made s junk hobjects => ?_, fun a r s s' hr hfresh hnext => ?_⟩
  · cases r <;> simp [bootTasks, makeObject, System.mix]
  · cases a with
    | system a => exact systemNext_mix hobjects s junk
    | _ => rfl
  · cases a with
    | system a => exact makeObject_fresh (systemNext_step hnext) hr hfresh
    | _ =>
      cases hnext
      exact hfresh

/-! ## The calls of `AppTaskStart` -/

abbrev StartCall := Call Resource TaskName
abbrev BootState := State Resource TaskName System
abbrev BootAction := Action BootWork

def boardInit : List StartCall := [.make .pins, .make .uart, .make .usTimer]

/-- `OSTaskCreate`, and `Monitor_LogTaskCreateFailed` where it fails. -/
def createTask (t : TaskName) : List StartCall := [.start t monitorUses]

def appTasksCreateAll : List StartCall :=
  -- `Board_SetUsTimerReady(Board_UsTimerIsRunning())`
  [.use [.usTimer], .make .usTimerReady,
    .make .sensorQ, .make .displayQ, .make .actuatorQ, .make .userEventFlags, .make .uartMutex,
    .make .monitorUartMutex] ++
  createTask .sensor ++ createTask .user ++ createTask .control ++ createTask .display ++
  createTask .actuator ++ createTask .monitor

def appTaskStart : List StartCall := boardInit ++ [.make .tick] ++ appTasksCreateAll ++ [.use monitorUses]

/-- `AppTaskStart` before its first call, whatever the queues and the flags hold. -/
def bootInit (junk : System) : BootState := start appTaskStart (systemInit.mix [] junk)

def bootNext (s : BootState) (a : BootAction) : Option BootState := next bootTasks s a

def systemLabel (_ : System) : BootWork → Option SystemAction
  | .system a => some a
  | _ => none

/-- The steps of `System` in a run. -/
def systemActs (acts : List BootAction) : List SystemAction :=
  labels bootTasks.next systemLabel systemInit (works acts)

theorem exec_systemActs {acts : List BootAction} {t : System}
    (h : exec bootTasks.next systemInit (works acts) = some t) :
    exec systemNext systemInit (systemActs acts) = some t := by
  refine exec_project id systemLabel (fun s a s' hnext => ?_) h
  cases a with
  | system a =>
    have hsystem : systemNext s a = some s' := hnext
    simp [exec, systemLabel, hsystem]
  | _ => exact hnext

/-- **Nothing is used before it is made, and nothing is made twice**: in every order in which the tasks run while
`AppTaskStart` still creates the rest, and whichever of its `OSTaskCreate` fail. There is one exception:
`MonitorTask` looks at the stack of `SensorTask` also when that task could not be created. Whatever the queues
and the flags hold before they are created, the tasks do what `System` does. -/
theorem start_order_safe (junk : System) (acts : List BootAction) (s : BootState)
    (h : exec bootNext (bootInit junk) acts = some s) :
    s.made.Nodup ∧ s.tried.Nodup ∧
      (∀ a s', bootNext s a = some s' → objectsOf bootTasks s a ⊆ s.made ∧
        ∀ t ∈ blocksOf bootTasks a, t ∉ s.running ↔ a = .work .monitorTurn ∧ t = .sensor ∧ s.Failed .sensor) ∧
      ∃ t, exec systemNext systemInit (systemActs acts) = some t ∧ s.tasks = t.mix s.made junk := by
  have hsafe : safe bootTasks [] [] appTaskStart = true := by decide
  have hmakes : (makes appTaskStart).Nodup := by decide
  have hstarts : (starts appTaskStart).Nodup := by decide
  refine ⟨exec_made_nodup hmakes h, exec_tried_nodup hstarts h, fun a s' hnext => ?_, ?_⟩
  · have hi := exec_startup hsafe h
    have hstep := next_step hnext
    refine ⟨hi.objects hstep, fun t ht => ?_⟩
    have htried := hi.blocks hstep ht
    cases a with
    | call ok => cases ht
    | work b =>
      cases b with
      | monitorTurn =>
        obtain rfl := List.mem_singleton.1 ht
        simp [State.Failed, htried]
      | _ => cases ht
  · have hfresh (r : Resource) : bootTasks.make r systemInit = systemInit := by
      cases r <;> rfl
    obtain ⟨t, ht, htasks⟩ := exec_refines bootTasks_frames hfresh hsafe hmakes h
    exact ⟨t, exec_systemActs ht, htasks⟩

/-- `SensorTask` cannot be created, `ControlTask` runs before the others are, and the flags hold something before
they are created. -/
def sensorFails : List BootAction :=
  List.replicate 12 (.call true) ++
    [.call false, .call true, .call true, .work (.system .pendSensor), .work (.system .pendFlags),
      .call true, .call true, .call true]

theorem start_order_safe_sensorFails : ∃ s,
    exec bootNext (bootInit { systemInit with flags := 1 }) sensorFails = some s ∧
      bootNext s (.work .monitorTurn) = some s ∧ s.Failed .sensor ∧ s.made.Nodup ∧
      ∃ t, exec systemNext systemInit (systemActs sensorFails) = some t ∧ t.pc = .woken none 0 ∧
        s.tasks.pc = t.pc := by
  have hexec : exec bootNext (bootInit { systemInit with flags := 1 }) sensorFails = some _ := rfl
  obtain ⟨hmade, -, htouch, t, ht, htasks⟩ := start_order_safe _ _ _ hexec
  have hmonitor := (htouch (.work .monitorTurn) _ rfl).2 .sensor List.mem_cons_self
  refine ⟨_, hexec, rfl, (hmonitor.1 (by decide)).2.2, hmade, t, ht, ?_, congrArg System.pc htasks⟩
  cases ht
  rfl

/-! ## The probe of the microsecond timer -/

/-- The loop of `Board_UsTimerIsRunning`, with `guard` turns left; `counter k` is what its `k`-th
`TIM_GetCounter` returns. -/
def usTimerLoop (counter : Nat → UInt32) (k : Nat) : Nat → Bool
  | 0 => false
  | guard + 1 => if counter k == 0 then usTimerLoop counter (k + 1) guard else true

def boardUsTimerIsRunning (counter : Nat → UInt32) : Bool := usTimerLoop counter 0 appBusyWaitGuard

theorem usTimerLoop_iff (counter : Nat → UInt32) (k guard : Nat) :
    usTimerLoop counter k guard = true ↔ ∃ j < guard, counter (k + j) ≠ 0 := by
  induction guard generalizing k with
  | zero => simp [usTimerLoop]
  | succ guard ih =>
    rw [usTimerLoop]
    by_cases hzero : counter k = 0
    · rw [if_pos (by simpa using hzero), ih]
      constructor
      · rintro ⟨j, hj, hne⟩
        exact ⟨j + 1, by omega, by rwa [← Nat.add_assoc, Nat.add_right_comm]⟩
      · rintro ⟨j, hj, hne⟩
        cases j with
        | zero => exact absurd hzero hne
        | succ j => exact ⟨j, by omega, by rwa [Nat.add_right_comm, Nat.add_assoc]⟩
    · rw [if_neg (by simpa using hzero)]
      exact ⟨fun _ => ⟨0, by omega, hzero⟩, fun _ => rfl⟩

/-- The timer counts as running iff a poll within the guard saw it move. -/
theorem boardUsTimerIsRunning_iff (counter : Nat → UInt32) :
    boardUsTimerIsRunning counter = true ↔ ∃ k < appBusyWaitGuard, counter k ≠ 0 := by
  rw [boardUsTimerIsRunning, usTimerLoop_iff]
  simp

end SmartAc
