import Mathlib.Data.List.Chain
import SmartAc.Lib.Clock
import SmartAc.Lib.Machine
import SmartAc.Messages
import SmartAc.Dht22Read

/-!
# The sensor task: `app_tasks.c`

| here | there |
| --- | --- |
| `sensorTaskInit`    | the locals before the loop (`app_tasks.c:114-120`) |
| `startsRead`        | the test of the read period (`app_tasks.c:144-145`) |
| `boardTakeReedEdge` | `Board_TakeReedEdge` (`app_board.c:82-94`) |
| `readSensor`        | `message.valid = DhtRead(…)` and the level (`app_tasks.c:150-161`) |
| `sensorNext`        | the steps of the loop (`app_tasks.c:139-172`), and the reed interrupt (`app_board.c:394-415`) |

An iteration samples the clock, samples the level, decides whether to publish, reads the sensor when it
is due, and posts; the interrupt may come between any two of these. `time` is the real time that
`App_Millis` shows the reading of. The log, the most recent event first, is what the claims of the
loop are about: `lastPost`, `lastLevel`, `lastAttempt` and `lastReading` look things up in it.
-/

namespace SmartAc

open Machine WrapClock

def appDhtReadPeriodMs : UInt32 := 2500

/-! ## The loop -/

/-- The locals that live from one iteration to the next. -/
structure SensorTask where
  message : SensorMsg
  lastWindow : Bool
  lastDhtValid : Bool
  lastDhtMs : UInt32
deriving DecidableEq, Repr

def sensorTaskInit : SensorTask where
  message := ⟨0, 0, false, false⟩
  lastWindow := false
  lastDhtValid := false
  lastDhtMs := 0

/-- `(now - last_dht_ms) >= APP_DHT_READ_PERIOD_MS || last_dht_ms == 0U`. -/
def startsRead (lastDhtMs now : UInt32) : Bool :=
  decide (appDhtReadPeriodMs ≤ now - lastDhtMs) || lastDhtMs == 0

/-- What it returns, and `ReedEdgePending` after it. -/
def boardTakeReedEdge (reedEdgePending : Bool) : Bool × Bool := (reedEdgePending, false)

/-- The message after the read, which goes through pointers into it. -/
def readSensor (env : DhtEnv) (dht : DhtState) (message : SensorMsg) (windowOpen : Bool) :
    SensorMsg × DhtState :=
  let (valid, memory, _) := dhtReadInto env ⟨dht, ⟨message.temperatureC, 0⟩, ⟨message.humidityPct, 0⟩⟩
  (⟨memory.temperatureC.value, memory.humidityPct.value, windowOpen, valid⟩, memory.state)

/-- Where the task is in its loop, with `now`, `window_open` and `publish` as far as they are set. -/
inductive SensorPc where
  | top
  | sampled (time : Nat)
  | looked (time : Nat) (windowOpen : Bool)
  | decided (time : Nat) (windowOpen publish : Bool)
  | filled (windowOpen publish : Bool)
deriving DecidableEq, Repr

/-- What is logged: an interrupt, the start of an iteration and its level, whether it read the sensor
and what came of it, and the message handed to `PostSensor`. -/
inductive SensorEvent where
  | reedEdge
  | start (time : Nat)
  | level (windowOpen : Bool)
  | skip (time : Nat)
  | read (time : Nat) (reading : Option DhtReading)
  | post (message : SensorMsg)
deriving DecidableEq, Repr

structure SensorSystem where
  task : SensorTask
  pc : SensorPc
  reedEdgePending : Bool
  dht : DhtState
  log : List SensorEvent
deriving DecidableEq, Repr

def sensorInit : SensorSystem := ⟨sensorTaskInit, .top, false, dhtInit, []⟩

inductive SensorAction where
  | reedEdge
  | millis (time : Nat)
  | reed (windowOpen : Bool)
  | publish
  | dht (env : DhtEnv)
  | post

/-- One step of the task, or the interrupt, which only sets the flag. -/
def sensorNext (s : SensorSystem) : SensorAction → Option SensorSystem
  | .reedEdge => some { s with reedEdgePending := true, log := .reedEdge :: s.log }
  | .millis time =>
    match s.pc with
    | .top => some { s with pc := .sampled time, log := .start time :: s.log }
    | _ => none
  | .reed windowOpen =>
    match s.pc with
    | .sampled time => some { s with pc := .looked time windowOpen, log := .level windowOpen :: s.log }
    | _ => none
  | .publish =>
    match s.pc with
    | .looked time windowOpen =>
      -- `||` takes the flag only if the level has not changed
      if windowOpen != s.task.lastWindow then some { s with pc := .decided time windowOpen true }
      else
        let (pending, flag) := boardTakeReedEdge s.reedEdgePending
        some { s with pc := .decided time windowOpen pending, reedEdgePending := flag }
    | _ => none
  | .dht env =>
    match s.pc with
    | .decided time windowOpen publish =>
      if startsRead s.task.lastDhtMs (reading time) then
        let (message, dht) := readSensor env s.dht s.task.message windowOpen
        let task :=
          { s.task with message, lastDhtValid := message.valid, lastDhtMs := reading time }
        some { s with
          task, dht, pc := .filled windowOpen true, log := .read time (dhtReading env) :: s.log }
      else
        let message :=
          if publish then { s.task.message with windowOpen, valid := s.task.lastDhtValid }
          else s.task.message
        some { s with
          task := { s.task with message }, pc := .filled windowOpen publish, log := .skip time :: s.log }
    | _ => none
  | .post =>
    match s.pc with
    | .filled windowOpen publish =>
      if publish then
        some { s with
          task := { s.task with lastWindow := windowOpen }
          pc := .top
          log := .post s.task.message :: s.log }
      else some { s with pc := .top }
    | _ => none

/-! ## The log -/

def SensorEvent.postOf : SensorEvent → Option SensorMsg
  | .post message => some message
  | _ => none

def SensorEvent.levelOf : SensorEvent → Option Bool
  | .level windowOpen => some windowOpen
  | _ => none

def SensorEvent.attemptOf : SensorEvent → Option (Option DhtReading)
  | .read _ reading => some reading
  | _ => none

/-- An iteration that got to the period test: its time, and whether it read the sensor. -/
def SensorEvent.iterationOf : SensorEvent → Option (Nat × Bool)
  | .read time _ => some (time, true)
  | .skip time => some (time, false)
  | _ => none

def lastPost (log : List SensorEvent) : Option SensorMsg := log.findSome? (·.postOf)
def lastLevel (log : List SensorEvent) : Option Bool := log.findSome? (·.levelOf)

/-- What the latest attempt to read the sensor came to. -/
def lastAttempt (log : List SensorEvent) : Option (Option DhtReading) := log.findSome? (·.attemptOf)

/-- What the latest successful attempt read. -/
def lastReading (log : List SensorEvent) : Option DhtReading := log.findSome? fun e => e.attemptOf.join

def iterations (log : List SensorEvent) : List (Nat × Bool) := log.filterMap (·.iterationOf)

/-- The latest attempt succeeded. -/
def attemptOk (log : List SensorEvent) : Bool := ((lastAttempt log).map Option.isSome).getD false

/-- An interrupt since the latest post. -/
def Unposted : List SensorEvent → Prop
  | [] => False
  | .post _ :: _ => False
  | .reedEdge :: _ => True
  | _ :: log => Unposted log

/-- An interrupt since the latest post that came before the latest start of an iteration. -/
def Overdue : List SensorEvent → Prop
  | [] => False
  | .post _ :: _ => False
  | .start _ :: log => Unposted log
  | _ :: log => Overdue log

theorem Overdue.unposted {log : List SensorEvent} (h : Overdue log) : Unposted log := by
  induction log with
  | nil => exact h
  | cons e log ih =>
    cases e with
    | post message => exact h
    | start time => exact h
    | reedEdge => exact trivial
    | level windowOpen => exact ih h
    | skip time => exact ih h
    | read time reading => exact ih h

theorem unposted_of_mem {newer older : List SensorEvent} (h : ∀ m, .post m ∉ newer) :
    Unposted (newer ++ .reedEdge :: older) := by
  induction newer with
  | nil => exact trivial
  | cons e newer ih =>
    have hrest := ih fun m hm => h m (List.mem_cons_of_mem _ hm)
    cases e with
    | post m => exact absurd List.mem_cons_self (h m)
    | reedEdge => exact trivial
    | start time => exact hrest
    | level windowOpen => exact hrest
    | skip time => exact hrest
    | read time reading => exact hrest

/-- An interrupt that nothing was posted after, though an iteration started since. -/
theorem overdue_of_mem {newer older : List SensorEvent} {time : Nat} (h : ∀ m, .post m ∉ newer)
    (hstart : .start time ∈ newer) : Overdue (newer ++ .reedEdge :: older) := by
  induction newer with
  | nil => cases hstart
  | cons e newer ih =>
    have hpost : ∀ m, .post m ∉ newer := fun m hm => h m (List.mem_cons_of_mem _ hm)
    cases e with
    | post m => exact absurd List.mem_cons_self (h m)
    | start t => exact unposted_of_mem hpost
    | reedEdge => exact ih hpost (by simpa using hstart)
    | level windowOpen => exact ih hpost (by simpa using hstart)
    | skip t => exact ih hpost (by simpa using hstart)
    | read t reading => exact ih hpost (by simpa using hstart)

/-! ## One step -/

/-- What a step can do, with the guards of each branch. -/
inductive SensorStep (s : SensorSystem) : SensorSystem → Prop where
  | reedEdge : SensorStep s { s with reedEdgePending := true, log := .reedEdge :: s.log }
  | millis (time : Nat) (hpc : s.pc = .top) :
      SensorStep s { s with pc := .sampled time, log := .start time :: s.log }
  | reed (time : Nat) (windowOpen : Bool) (hpc : s.pc = .sampled time) :
      SensorStep s { s with pc := .looked time windowOpen, log := .level windowOpen :: s.log }
  | changed (time : Nat) (windowOpen : Bool) (hpc : s.pc = .looked time windowOpen)
      (hnew : windowOpen ≠ s.task.lastWindow) :
      SensorStep s { s with pc := .decided time windowOpen true }
  | take (time : Nat) (windowOpen : Bool) (hpc : s.pc = .looked time windowOpen)
      (hsame : windowOpen = s.task.lastWindow) :
      SensorStep s { s with pc := .decided time windowOpen s.reedEdgePending, reedEdgePending := false }
  | read (time : Nat) (windowOpen publish : Bool) (env : DhtEnv) (dht : DhtState)
      (hpc : s.pc = .decided time windowOpen publish)
      (hdue : startsRead s.task.lastDhtMs (reading time) = true) :
      SensorStep s { s with
        task :=
          { s.task with
            message :=
              { temperatureC := ((dhtReading env).map (·.temperatureC)).getD s.task.message.temperatureC
                humidityPct := ((dhtReading env).map (·.humidityPct)).getD s.task.message.humidityPct
                windowOpen
                valid := (dhtReading env).isSome }
            lastDhtValid := (dhtReading env).isSome
            lastDhtMs := reading time }
        dht
        pc := .filled windowOpen true
        log := .read time (dhtReading env) :: s.log }
  | skip (time : Nat) (windowOpen publish : Bool) (hpc : s.pc = .decided time windowOpen publish)
      (hdue : startsRead s.task.lastDhtMs (reading time) = false) :
      SensorStep s { s with
        task := { s.task with
          message :=
            if publish then { s.task.message with windowOpen, valid := s.task.lastDhtValid }
            else s.task.message }
        pc := .filled windowOpen publish
        log := .skip time :: s.log }
  | post (windowOpen : Bool) (hpc : s.pc = .filled windowOpen true) :
      SensorStep s { s with
        task := { s.task with lastWindow := windowOpen }
        pc := .top
        log := .post s.task.message :: s.log }
  | quiet (windowOpen : Bool) (hpc : s.pc = .filled windowOpen false) :
      SensorStep s { s with pc := .top }

/-- The read writes the message only when it succeeds. -/
theorem readSensor_eq (env : DhtEnv) (dht : DhtState) (message : SensorMsg) (windowOpen : Bool) :
    (readSensor env dht message windowOpen).1 =
      { temperatureC := ((dhtReading env).map (·.temperatureC)).getD message.temperatureC
        humidityPct := ((dhtReading env).map (·.humidityPct)).getD message.humidityPct
        windowOpen
        valid := (dhtReading env).isSome } := by
  unfold readSensor
  rw [dhtReadInto_eq, dhtRead_reading]
  cases dhtReading env <;> rfl

/-- **Step inversion**. -/
theorem sensorNext_step {s s' : SensorSystem} {a : SensorAction} (h : sensorNext s a = some s') :
    SensorStep s s' := by
  unfold sensorNext at h
  cases a with
  | reedEdge => cases h; exact .reedEdge
  | millis time =>
    cases hpc : s.pc <;> rw [hpc] at h <;> cases h
    exact .millis time hpc
  | reed windowOpen =>
    cases hpc : s.pc <;> rw [hpc] at h <;> cases h
    exact .reed _ windowOpen hpc
  | publish =>
    cases hpc : s.pc with
    | looked time windowOpen =>
      rw [hpc] at h
      dsimp only at h
      by_cases hnew : windowOpen = s.task.lastWindow
      · rw [if_neg (by simp [hnew])] at h
        cases h
        exact .take time windowOpen hpc hnew
      · rw [if_pos (by simp [hnew])] at h
        cases h
        exact .changed time windowOpen hpc hnew
    | _ => rw [hpc] at h; cases h
  | dht env =>
    cases hpc : s.pc with
    | decided time windowOpen publish =>
      rw [hpc] at h
      dsimp only at h
      cases hdue : startsRead s.task.lastDhtMs (reading time) with
      | true =>
        rw [hdue, if_pos rfl] at h
        have hread := readSensor_eq env s.dht s.task.message windowOpen
        generalize readSensor env s.dht s.task.message windowOpen = r at h hread
        obtain ⟨message, dht⟩ := r
        cases hread
        cases h
        exact .read time windowOpen publish env dht hpc hdue
      | false =>
        rw [hdue, if_neg Bool.false_ne_true] at h
        cases h
        exact .skip time windowOpen publish hpc hdue
    | _ => rw [hpc] at h; cases h
  | post =>
    cases hpc : s.pc with
    | filled windowOpen publish =>
      rw [hpc] at h
      dsimp only at h
      cases publish with
      | true => cases h; exact .post windowOpen hpc
      | false => cases h; exact .quiet windowOpen hpc
    | _ => rw [hpc] at h; cases h

/-! ## What is published -/

/-- The latest message posted is the buffer's, with the window and the validity last noted. -/
def Published (s : SensorSystem) : Prop :=
  lastPost s.log =
    some { s.task.message with windowOpen := s.task.lastWindow, valid := s.task.lastDhtValid }

/-- Before the first post `last_dht_ms` is 0, so that the first iteration reads and posts. -/
def PublishOk (s : SensorSystem) : Prop :=
  match s.pc with
  | .top => (s.task.lastDhtMs = 0 ∧ ∀ time, .start time ∉ s.log) ∨
      (Published s ∧ lastLevel s.log = some s.task.lastWindow)
  | .sampled _ => s.task.lastDhtMs = 0 ∨ Published s
  | .looked _ windowOpen =>
    (s.task.lastDhtMs = 0 ∨ Published s) ∧ lastLevel s.log = some windowOpen
  | .decided _ windowOpen publish =>
    (s.task.lastDhtMs = 0 ∨ Published s) ∧ lastLevel s.log = some windowOpen ∧
      (publish = false → windowOpen = s.task.lastWindow)
  | .filled windowOpen publish =>
    lastLevel s.log = some windowOpen ∧
      if publish then s.task.message.windowOpen = windowOpen ∧ s.task.message.valid = s.task.lastDhtValid
      else Published s ∧ windowOpen = s.task.lastWindow

/-- An interrupt that is not followed by a post is in the flag, unless this iteration will post; and
an iteration that will not post owes none. -/
def EdgesOk (s : SensorSystem) : Prop :=
  match s.pc with
  | .top => ¬ Overdue s.log ∧ (Unposted s.log → s.reedEdgePending = true)
  | .sampled _ => Unposted s.log → s.reedEdgePending = true
  | .looked _ _ => Unposted s.log → s.reedEdgePending = true
  | .decided _ _ publish =>
    publish = false → ¬ Overdue s.log ∧ (Unposted s.log → s.reedEdgePending = true)
  | .filled _ publish =>
    publish = false → ¬ Overdue s.log ∧ (Unposted s.log → s.reedEdgePending = true)

/-- The buffer holds the latest successful reading, and `last_dht_valid` the latest outcome. -/
structure ReadingOk (s : SensorSystem) : Prop where
  temperature : s.task.message.temperatureC = ((lastReading s.log).map (·.temperatureC)).getD 0
  humidity : s.task.message.humidityPct = ((lastReading s.log).map (·.humidityPct)).getD 0
  valid : s.task.lastDhtValid = attemptOk s.log

section step
variable {s s' : SensorSystem} (h : SensorStep s s')
include h

theorem step_publishOk (hi : PublishOk s) : PublishOk s' := by
  unfold PublishOk at hi
  cases h with
  | reedEdge =>
    unfold PublishOk
    cases hpc : s.pc <;> rw [hpc] at hi <;> dsimp only at hi ⊢
    · exact hi.imp_left fun hfirst => ⟨hfirst.1, fun time hmem => hfirst.2 time (by simpa using hmem)⟩
    all_goals exact hi
  | millis time hpc =>
    rw [hpc] at hi
    exact hi.imp (fun hfirst => hfirst.1) fun hdone => hdone.1
  | reed time windowOpen hpc =>
    rw [hpc] at hi
    exact ⟨hi, rfl⟩
  | changed time windowOpen hpc hnew =>
    rw [hpc] at hi
    exact ⟨hi.1, hi.2, fun h => by cases h⟩
  | take time windowOpen hpc hsame =>
    rw [hpc] at hi
    exact ⟨hi.1, hi.2, fun _ => hsame⟩
  | read time windowOpen publish env dht hpc hdue =>
    rw [hpc] at hi
    exact ⟨hi.2.1, rfl, rfl⟩
  | skip time windowOpen publish hpc hdue =>
    rw [hpc] at hi
    obtain ⟨hposted, hlevel, hsame⟩ := hi
    -- not due, so there was a read before, and its message was posted
    have hms : s.task.lastDhtMs ≠ 0 := by
      intro hzero
      rw [startsRead, hzero] at hdue
      simp at hdue
    have hpublished := hposted.resolve_left hms
    cases publish with
    | true => exact ⟨hlevel, rfl, rfl⟩
    | false => exact ⟨hlevel, hpublished, hsame rfl⟩
  | post windowOpen hpc =>
    rw [hpc] at hi
    obtain ⟨hlevel, hopen, hvalid⟩ := hi
    refine .inr ⟨?_, hlevel⟩
    change some s.task.message = some _
    rw [← hopen, ← hvalid]
  | quiet windowOpen hpc =>
    rw [hpc] at hi
    obtain ⟨hlevel, hposted, hsame⟩ := hi
    exact .inr ⟨hposted, hsame ▸ hlevel⟩

theorem step_edgesOk (hi : EdgesOk s) : EdgesOk s' := by
  unfold EdgesOk at hi
  cases h with
  | reedEdge =>
    unfold EdgesOk
    cases hpc : s.pc <;> rw [hpc] at hi <;> dsimp only at hi ⊢
    · exact ⟨hi.1, fun _ => rfl⟩
    · exact fun _ => rfl
    · exact fun _ => rfl
    · exact fun hquiet => ⟨(hi hquiet).1, fun _ => rfl⟩
    · exact fun hquiet => ⟨(hi hquiet).1, fun _ => rfl⟩
  | millis time hpc =>
    rw [hpc] at hi
    exact hi.2
  | reed time windowOpen hpc =>
    rw [hpc] at hi
    exact hi
  | changed time windowOpen hpc hnew => exact fun hquiet => by cases hquiet
  | take time windowOpen hpc hsame =>
    rw [hpc] at hi
    intro hquiet
    -- the flag was clear: no interrupt is waiting for a post
    have hnone : ¬ Unposted s.log := fun hun => by
      rw [hi hun] at hquiet
      cases hquiet
    exact ⟨fun hover => hnone hover.unposted, fun hun => absurd hun hnone⟩
  | read time windowOpen publish env dht hpc hdue => exact fun hquiet => by cases hquiet
  | skip time windowOpen publish hpc hdue =>
    rw [hpc] at hi
    exact hi
  | post windowOpen hpc => exact ⟨fun hover => hover, fun hun => hun.elim⟩
  | quiet windowOpen hpc =>
    rw [hpc] at hi
    exact hi rfl

theorem step_readingOk (hi : ReadingOk s) : ReadingOk s' := by
  obtain ⟨htemperature, hhumidity, hvalid⟩ := hi
  cases h with
  | read time windowOpen publish env dht hpc hdue =>
    cases hreading : dhtReading env with
    | none => exact ⟨htemperature, hhumidity, rfl⟩
    | some reading => exact ⟨rfl, rfl, rfl⟩
  | skip time windowOpen publish hpc hdue =>
    cases publish with
    | true => exact ⟨htemperature, hhumidity, hvalid⟩
    | false => exact ⟨htemperature, hhumidity, hvalid⟩
  | reedEdge => exact ⟨htemperature, hhumidity, hvalid⟩
  | millis time hpc => exact ⟨htemperature, hhumidity, hvalid⟩
  | reed time windowOpen hpc => exact ⟨htemperature, hhumidity, hvalid⟩
  | changed time windowOpen hpc hnew => exact ⟨htemperature, hhumidity, hvalid⟩
  | take time windowOpen hpc hsame => exact ⟨htemperature, hhumidity, hvalid⟩
  | post windowOpen hpc => exact ⟨htemperature, hhumidity, hvalid⟩
  | quiet windowOpen hpc => exact ⟨htemperature, hhumidity, hvalid⟩

end step

/-- **Run lemma**: all three hold in every state of every interleaving. -/
theorem run_sensorOk {acts : List SensorAction} {s : SensorSystem}
    (h : exec sensorNext sensorInit acts = some s) : PublishOk s ∧ EdgesOk s ∧ ReadingOk s := by
  refine exec_inv (fun s => PublishOk s ∧ EdgesOk s ∧ ReadingOk s) ?_ ?_ h
  · rintro s a s' ⟨hpublish, hedges, hreading⟩ hstep
    have hs := sensorNext_step hstep
    exact ⟨step_publishOk hs hpublish, step_edgesOk hs hedges, step_readingOk hs hreading⟩
  · exact ⟨.inl ⟨rfl, fun time hmem => by cases hmem⟩, ⟨fun hover => hover, fun hun => hun.elim⟩,
      ⟨rfl, rfl, rfl⟩⟩

theorem lastReading_of_attempt {log : List SensorEvent} {r : DhtReading}
    (h : lastAttempt log = some (some r)) : lastReading log = some r := by
  induction log with
  | nil => cases h
  | cons e log ih =>
    cases e with
    | read time reading =>
      obtain rfl : reading = some r := Option.some.inj h
      rfl
    | reedEdge => exact ih h
    | start time => exact ih h
    | level windowOpen => exact ih h
    | skip time => exact ih h
    | post message => exact ih h

/-- **`SensorTask` publishes every observation**: after each iteration, wherever the interrupts came, the
latest message has the level of the iteration and the outcome of the latest read, with the values of
the latest successful one, and no interrupt from before the iteration is left without a post. -/
theorem sensor_publishes (acts : List SensorAction) (s : SensorSystem)
    (h : exec sensorNext sensorInit acts = some s) (htop : s.pc = .top) (time : Nat)
    (hstart : .start time ∈ s.log) :
    (∃ m, lastPost s.log = some m ∧ lastLevel s.log = some m.windowOpen ∧
      (m.valid = true ↔ ∃ r, lastAttempt s.log = some (some r)) ∧
      (∀ r, lastAttempt s.log = some (some r) →
        m.temperatureC = r.temperatureC ∧ m.humidityPct = r.humidityPct) ∧
      m.temperatureC = ((lastReading s.log).map (·.temperatureC)).getD 0 ∧
      m.humidityPct = ((lastReading s.log).map (·.humidityPct)).getD 0) ∧
    (∀ newer older, s.log = newer ++ .reedEdge :: older → (∃ t, .start t ∈ newer) →
      ∃ m, .post m ∈ newer) := by
  obtain ⟨hpublish, hedges, htemperature, hhumidity, hvalid⟩ := run_sensorOk h
  unfold PublishOk at hpublish
  unfold EdgesOk at hedges
  rw [htop] at hpublish hedges
  obtain ⟨hposted, hlevel⟩ := hpublish.resolve_left fun hfirst => hfirst.2 time hstart
  constructor
  · refine ⟨_, hposted, hlevel, ?_, fun r hr => ?_, htemperature, hhumidity⟩
    · change s.task.lastDhtValid = true ↔ _
      rw [hvalid, attemptOk]
      rcases lastAttempt s.log with _ | _ | r <;> simp
    · have hlast := lastReading_of_attempt hr
      rw [hlast] at htemperature hhumidity
      exact ⟨htemperature, hhumidity⟩
  · rintro newer older hsplit ⟨t, ht⟩
    by_contra hnone
    have hpost : ∀ m, .post m ∉ newer := fun m hm => hnone ⟨m, hm⟩
    exact hedges.1 (hsplit ▸ overdue_of_mem hpost ht)

/-- The hardware of a board whose timer never came up. -/
def noTimer : DhtEnv := ⟨false, fun _ => false, fun _ _ => 0⟩

/-- A sensor that answers with 25.6 degrees and 51.2 %: one poll for each level, and four long pulses. -/
def answering : DhtEnv :=
  ⟨true, fun poll => poll % 4 == 1 || poll % 4 == 2, fun polls reads =>
    .ofNat (1200 * min reads 4 + 60 * [6, 23, 38, 39].countP fun bit => 4 * bit + 8 ≤ polls)⟩

/-- The window opens between sampling the level and taking the flag; a second edge comes after the flag is taken,
and the next read fails. -/
def edgeBetween : List SensorAction :=
  [.millis 1300, .reed true, .reedEdge, .publish, .dht answering, .post,
    .millis 1400, .reed true, .publish, .reedEdge, .dht answering, .post,
    .millis 3900, .reed false, .publish, .dht noTimer, .post]

def sensorAfter (acts : List SensorAction) : SensorSystem := (exec sensorNext sensorInit acts).getD sensorInit

/-- After the first read and after the failed one. -/
theorem sensor_publishes_edgeBetween :
    (∃ m, lastPost (sensorAfter (edgeBetween.take 6)).log = some m ∧ m.valid = true ∧
      m.temperatureC = 256 / 10 ∧ m.humidityPct = 512 / 10) ∧
    (∃ m, lastPost (sensorAfter edgeBetween).log = some m ∧
      lastLevel (sensorAfter edgeBetween).log = some m.windowOpen ∧ m.valid = false ∧ m.temperatureC = 256 / 10) ∧
    ∀ newer older, (sensorAfter edgeBetween).log = newer ++ .reedEdge :: older → (∃ t, .start t ∈ newer) →
      ∃ m, .post m ∈ newer := by
  have hread : lastAttempt (sensorAfter (edgeBetween.take 6)).log = some (some ⟨256 / 10, 512 / 10⟩) := by
    decide +kernel
  have hfail : lastAttempt (sensorAfter edgeBetween).log = some none := by decide +kernel
  have hlast : lastReading (sensorAfter edgeBetween).log = some ⟨256 / 10, 512 / 10⟩ := by decide +kernel
  obtain ⟨⟨m, hm, -, hvalid, hvalues, -⟩, -⟩ :=
    sensor_publishes (edgeBetween.take 6) (sensorAfter (edgeBetween.take 6)) rfl rfl 1300 (by decide +kernel)
  obtain ⟨⟨m', hm', hlevel, hvalid', -, htemperature, -⟩, hedges⟩ :=
    sensor_publishes edgeBetween (sensorAfter edgeBetween) rfl rfl 1300 (by decide +kernel)
  refine ⟨⟨m, hm, hvalid.2 ⟨_, hread⟩, hvalues _ hread⟩, ⟨m', hm', hlevel, ?_, ?_⟩, hedges⟩
  · by_contra htrue
    obtain ⟨r, hr⟩ := hvalid'.1 (by simpa using htrue)
    rw [hfail] at hr
    cases hr
  · rw [htemperature, hlast]
    rfl

/-! ## The read period -/

/-- The times of the iterations that read the sensor, the most recent first. -/
def reads (its : List (Nat × Bool)) : List Nat := (its.filter (·.2)).map (·.1)

/-- `last_dht_ms` after the iterations. -/
def lastReadMs (its : List (Nat × Bool)) : UInt32 := ((reads its).head?.map reading).getD 0

/-- Each iteration reads when the test says so. -/
def FollowsTest : List (Nat × Bool) → Prop
  | [] => True
  | (time, started) :: older =>
    FollowsTest older ∧ started = startsRead (lastReadMs older) (reading time)

structure PeriodOk (s : SensorSystem) : Prop where
  last : s.task.lastDhtMs = lastReadMs (iterations s.log)
  test : FollowsTest (iterations s.log)

theorem step_periodOk {s s' : SensorSystem} (h : SensorStep s s') (hi : PeriodOk s) : PeriodOk s' := by
  obtain ⟨hlast, htest⟩ := hi
  cases h with
  | read time windowOpen publish env dht hpc hdue =>
    rw [hlast] at hdue
    exact ⟨rfl, htest, hdue.symm⟩
  | skip time windowOpen publish hpc hdue =>
    rw [hlast] at hdue
    exact ⟨hlast, htest, hdue.symm⟩
  | reedEdge => exact ⟨hlast, htest⟩
  | millis time hpc => exact ⟨hlast, htest⟩
  | reed time windowOpen hpc => exact ⟨hlast, htest⟩
  | changed time windowOpen hpc hnew => exact ⟨hlast, htest⟩
  | take time windowOpen hpc hsame => exact ⟨hlast, htest⟩
  | post windowOpen hpc => exact ⟨hlast, htest⟩
  | quiet windowOpen hpc => exact ⟨hlast, htest⟩

theorem run_periodOk {acts : List SensorAction} {s : SensorSystem}
    (h : exec sensorNext sensorInit acts = some s) : PeriodOk s := by
  have hinit : PeriodOk sensorInit := ⟨rfl, trivial⟩
  exact exec_inv PeriodOk (fun _ _ _ hi hstep => step_periodOk (sensorNext_step hstep) hi) hinit h

/-- Two reads in a row are 2500 ms apart, and an iteration 2500 ms after the last read (less than one wrap
of the clock) reads. -/
structure PeriodRespected (its : List (Nat × Bool)) : Prop where
  apart : (reads its).IsChain fun later earlier => 2500 ≤ later - earlier
  starts : ∀ newer time started older, its = newer ++ (time, started) :: older →
    ∀ last, (reads older).head? = some last → 2500 ≤ time - last → time - last < 2 ^ 32 → started = true

/-- No iteration comes less than 2500 ms after a read at which the clock showed exactly 0. -/
def NoZeroReread (its : List (Nat × Bool)) : Prop :=
  ∀ newer time started older, its = newer ++ (time, started) :: older →
    ∀ last, (reads older).head? = some last → reading last = 0 → 2500 ≤ time - last

theorem FollowsTest.split {newer older : List (Nat × Bool)} {time : Nat} {started : Bool}
    (h : FollowsTest (newer ++ (time, started) :: older)) :
    started = startsRead (lastReadMs older) (reading time) := by
  induction newer with
  | nil => exact h.2
  | cons it newer ih => exact ih h.1

/-- The test compares the true elapsed time, below one wrap. -/
theorem startsRead_of_elapsed {last time : Nat} (h : 2500 ≤ time - last) (hwrap : time - last < 2 ^ 32) :
    startsRead (reading last) (reading time) = true := by
  have hdue : appDhtReadPeriodMs ≤ reading time - reading last :=
    (le_sub_reading_iff (by omega) hwrap _).2 h
  rw [startsRead, decide_eq_true hdue, Bool.true_or]

/-- A read is due by the elapsed time, or by the sentinel. -/
theorem elapsed_of_startsRead {last time : Nat} (hle : last ≤ time)
    (h : startsRead (reading last) (reading time) = true) : 2500 ≤ time - last ∨ reading last = 0 := by
  rw [startsRead, Bool.or_eq_true, decide_eq_true_iff, beq_iff_eq] at h
  refine h.imp_left fun hdue => ?_
  rw [UInt32.le_iff_toNat_le, toNat_sub_reading hle] at hdue
  exact Nat.le_trans hdue (Nat.mod_le _ _)

theorem reads_cons (time : Nat) (started : Bool) (older : List (Nat × Bool)) :
    reads ((time, started) :: older) = if started then time :: reads older else reads older := by
  cases started <;> rfl

theorem reads_mem {its : List (Nat × Bool)} {time : Nat} (h : time ∈ reads its) : (time, true) ∈ its := by
  simpa [reads] using h

theorem reads_apart {its : List (Nat × Bool)} (htest : FollowsTest its)
    (hclock : its.Pairwise fun later earlier => earlier.1 ≤ later.1) (hzero : NoZeroReread its) :
    (reads its).IsChain fun later earlier => 2500 ≤ later - earlier := by
  induction its with
  | nil => exact .nil
  | cons it older ih =>
    obtain ⟨time, started⟩ := it
    obtain ⟨hfirst, hrest⟩ := List.pairwise_cons.1 hclock
    have hchain := ih htest.1 hrest fun newer t b o hsplit last hlast =>
      hzero ((time, started) :: newer) t b o (by rw [hsplit]; rfl) last hlast
    rw [reads_cons]
    cases started with
    | false => exact hchain
    | true =>
      cases hreads : reads older with
      | nil => exact .singleton _
      | cons last rest =>
        rw [hreads] at hchain
        have hhead : (reads older).head? = some last := by rw [hreads]; rfl
        have hmem : last ∈ reads older := by rw [hreads]; exact List.mem_cons_self
        have hle : last ≤ time := hfirst _ (reads_mem hmem)
        have hdue : startsRead (reading last) (reading time) = true := by
          have h := htest.2
          rw [lastReadMs, hhead] at h
          exact h.symm
        refine List.isChain_cons_cons.2 ⟨?_, hchain⟩
        rcases elapsed_of_startsRead hle hdue with hlong | hwrapped
        · exact hlong
        · exact hzero [] time true older rfl last hhead hwrapped

/-- **When the read period is respected**: in every run with a clock that does not go back, if and only if
no iteration meets the sentinel of a read at reading 0 too early. -/
theorem read_period_iff (acts : List SensorAction) (s : SensorSystem)
    (h : exec sensorNext sensorInit acts = some s)
    (hclock : (iterations s.log).Pairwise fun later earlier => earlier.1 ≤ later.1) :
    PeriodRespected (iterations s.log) ↔ NoZeroReread (iterations s.log) := by
  obtain ⟨-, htest⟩ := run_periodOk h
  generalize iterations s.log = its at hclock htest
  constructor
  · rintro ⟨hapart, -⟩ newer time started older rfl last hlast hzero
    have hstarted : started = true := by
      rw [htest.split, lastReadMs, hlast, startsRead]
      simp [hzero]
    subst hstarted
    obtain ⟨rest, hrest⟩ := List.head?_eq_some_iff.1 hlast
    have hreads : reads (newer ++ (time, true) :: older) = reads newer ++ time :: last :: rest := by
      rw [← hrest]
      simp [reads]
    rw [hreads] at hapart
    exact (List.isChain_cons_cons.1 hapart.right_of_append).1
  · intro hzero
    constructor
    · exact reads_apart htest hclock hzero
    · rintro newer time started older rfl last hlast hlong hwrap
      rw [htest.split, lastReadMs, hlast]
      exact startsRead_of_elapsed hlong hwrap

/-- Whole iterations at the times given, window closed and no interrupts. -/
def quietPasses (times : List Nat) : List SensorAction :=
  times.flatMap fun time => [.millis time, .reed false, .publish, .dht noTimer, .post]

def afterPasses (times : List Nat) : SensorSystem :=
  (exec sensorNext sensorInit (quietPasses times)).getD sensorInit

theorem read_period_iff_quiet : PeriodRespected (iterations (afterPasses [1300, 1400, 3800]).log) ↔
    NoZeroReread (iterations (afterPasses [1300, 1400, 3800]).log) :=
  read_period_iff (quietPasses [1300, 1400, 3800]) (afterPasses [1300, 1400, 3800]) rfl (by decide +kernel)

/-- A read when the clock has wrapped to exactly 0, and the next one 100 ms later. -/
theorem rereads_at_zero : ¬ ∀ (acts : List SensorAction) (s : SensorSystem),
    exec sensorNext sensorInit acts = some s →
    ((iterations s.log).Pairwise fun later earlier => earlier.1 ≤ later.1) →
    ((iterations s.log).IsChain fun later earlier => later.1 - earlier.1 < 2 ^ 32) →
    PeriodRespected (iterations s.log) := by
  intro h
  have hperiod := h (quietPasses [1300, 2 ^ 32, 2 ^ 32 + 100]) (afterPasses [1300, 2 ^ 32, 2 ^ 32 + 100]) rfl
    (by decide +kernel) (by decide +kernel)
  have hreads : reads (iterations (afterPasses [1300, 2 ^ 32, 2 ^ 32 + 100]).log) =
      [2 ^ 32 + 100, 2 ^ 32, 1300] := by decide +kernel
  have hapart := hperiod.apart
  rw [hreads] at hapart
  exact absurd (List.isChain_cons_cons.1 hapart).1 (by decide)

end SmartAc
