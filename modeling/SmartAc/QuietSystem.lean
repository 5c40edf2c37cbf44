import SmartAc.System

/-!
# What the display and the lights say

`World` is what there is to show: the panel of all button polls, the temperature of the latest successful
DHT22 read and the window level sampled last. `Shows` says which display messages are true of a world.

While the tasks work, messages are under way and an output may be of an earlier world. The three invariants
follow the two ways through the system: `ReportOk` from the sensor to its queue, `TaskOk` through
`ControlTask`, `PathOk` from the queue through `ControlTask` to the consumers, for runs that lose no post.
In a quiet system nothing is under way, so that what is shown is true (`quiet_system_shows_the_world`).
-/

namespace SmartAc

open Machine

/-! ## The abstract machine -/

structure World where
  panel : Panel
  temperatureC : Option Rat
  windowOpen : Bool

/-- The cooling level that goes with a state. -/
def World.level (w : World) (state : AcState) : Nat :=
  match state with
  | .cooling => SmartAc.coolingLevel (w.temperatureC.getD 0) w.panel.setpointC false
  | .manualOverride => SmartAc.coolingLevel (w.temperatureC.getD 0) w.panel.setpointC true
  | _ => 0

structure Shows (w : World) (m : DisplayMsg) : Prop where
  off : m.state = .off ↔ w.panel.powered = false
  manual : m.state = .manualOverride ↔ w.panel.powered = true ∧ w.panel.manual = true
  window : (m.state = .windowSuspect ∨ m.state = .acPaused) ↔
    w.panel.powered = true ∧ w.panel.manual = false ∧ w.windowOpen = true
  cooling : m.state = .cooling → ∃ t, w.temperatureC = some t ∧ 1 < t - w.panel.setpointC
  level : m.coolingLevel = w.level m.state
  setpoint : m.setpointC = w.panel.setpointC
  temperature : m.currentTemperatureC = (w.temperatureC.map roundTemperature).getD 0
  valid : m.temperatureValid = w.temperatureC.isSome

/-- What the buttons, the sensor and the reed have said up to now. -/
def worldOf (acts : List SystemAction) (s : System) : World where
  panel := panelOf (pollsOf (buttonActs acts)).reverse
  temperatureC := (lastReading s.sensor.log).map (·.temperatureC)
  windowOpen := (lastLevel s.sensor.log).getD false

/-! ## From the sensor to its queue -/

/-- What the messages so far come to: the latest one, and the temperature of the latest valid one. -/
structure Record where
  latest : Option SensorMsg
  temperatureC : Option Rat

def Record.note (r : Record) (m : SensorMsg) : Record where
  latest := some m
  temperatureC := if m.valid then some m.temperatureC else r.temperatureC

@[simp] theorem Record.note_idem (r : Record) (m : SensorMsg) : (r.note m).note m = r.note m := by
  unfold note
  split_ifs <;> rfl

/-- The record of the posts in a log. -/
def recordOf : List SensorEvent → Record
  | [] => ⟨none, none⟩
  | .post m :: log => (recordOf log).note m
  | _ :: log => recordOf log

theorem recordOf_latest (log : List SensorEvent) : (recordOf log).latest = lastPost log := by
  induction log with
  | nil => rfl
  | cons e log ih =>
    cases e with
    | post m => rfl
    | _ => exact ih

/-- The posts have told the latest successful reading, or the one that comes next will. -/
def ReportOk (s : SensorSystem) : Prop :=
  ((sensorPosts s .post).toList.foldl Record.note (recordOf s.log)).temperatureC =
    (lastReading s.log).map (·.temperatureC)

theorem sensorPosts_filled {s : SensorSystem} {windowOpen publish : Bool}
    (hpc : s.pc = .filled windowOpen publish) :
    sensorPosts s .post = if publish then some s.task.message else none := by
  unfold sensorPosts
  rw [hpc]
  cases publish <;> rfl

theorem sensorPosts_none {s : SensorSystem} (hpc : ∀ windowOpen, s.pc ≠ .filled windowOpen true) :
    sensorPosts s .post = none := by
  cases hpost : sensorPosts s .post with
  | none => rfl
  | some message =>
    obtain ⟨-, windowOpen, hfilled⟩ := sensorPosts_some hpost
    exact absurd hfilled (hpc windowOpen)

theorem lastReading_of_attemptOk {log : List SensorEvent} (h : attemptOk log = true) :
    ∃ r, lastReading log = some r := by
  unfold attemptOk at h
  rcases hlast : lastAttempt log with _ | _ | r
  · simp [hlast] at h
  · simp [hlast] at h
  · exact ⟨r, lastReading_of_attempt hlast⟩

theorem step_reportOk {s s' : SensorSystem} (h : SensorStep s s') (hr : ReadingOk s) (hi : ReportOk s) :
    ReportOk s' := by
  obtain ⟨htemperature, -, hvalid⟩ := hr
  -- wherever nothing is about to be posted, the posts have told it all
  have hquiet (hpc : ∀ windowOpen, s.pc ≠ .filled windowOpen true) :
      (recordOf s.log).temperatureC = (lastReading s.log).map (·.temperatureC) := by
    unfold ReportOk at hi
    rwa [sensorPosts_none hpc] at hi
  cases h with
  | reedEdge => exact hi
  | millis time hpc => exact hquiet (by simp [hpc])
  | reed time windowOpen hpc => exact hquiet (by simp [hpc])
  | changed time windowOpen hpc hnew => exact hquiet (by simp [hpc])
  | take time windowOpen hpc hsame => exact hquiet (by simp [hpc])
  | read time windowOpen publish env dht hpc hdue =>
    have hold := hquiet (by simp [hpc])
    cases hreading : dhtReading env with
    | none => exact hold
    | some r => rfl
  | skip time windowOpen publish hpc hdue =>
    have hold := hquiet (by simp [hpc])
    cases publish with
    | false => exact hold
    | true =>
      change ((recordOf s.log).note _).temperatureC = (lastReading s.log).map _
      unfold Record.note
      cases hlast : s.task.lastDhtValid with
      | false => exact hold
      | true =>
        obtain ⟨r, hreading⟩ := lastReading_of_attemptOk (hvalid.symm.trans hlast)
        rw [hreading] at htemperature ⊢
        exact congrArg some htemperature
  | post windowOpen hpc =>
    unfold ReportOk at hi
    rwa [sensorPosts_filled hpc] at hi
  | quiet windowOpen hpc => exact hquiet (by simp [hpc])

theorem run_reportOk {acts : List SensorAction} {s : SensorSystem}
    (h : exec sensorNext sensorInit acts = some s) : ReportOk s := by
  have hinit : ReadingOk sensorInit ∧ ReportOk sensorInit := ⟨⟨rfl, rfl, rfl⟩, rfl⟩
  refine (exec_inv (fun s => ReadingOk s ∧ ReportOk s) ?_ hinit h).2
  rintro t a u ⟨hreading, hreport⟩ hnext
  have hs := sensorNext_step hnext
  exact ⟨step_readingOk hs hreading, step_reportOk hs hreading hreport⟩

/-- Before its first iteration the task has sampled and posted nothing. -/
def BegunOk (s : SensorSystem) : Prop :=
  (∃ time, .start time ∈ s.log) ∨ s.pc = .top ∧ lastLevel s.log = none ∧ lastPost s.log = none

theorem step_begunOk {s s' : SensorSystem} (h : SensorStep s s') (hi : BegunOk s) : BegunOk s' := by
  have hbegun (hpc : s.pc ≠ .top) (e : SensorEvent) : ∃ time, .start time ∈ e :: s.log := by
    obtain ⟨time, hstart⟩ := hi.resolve_right fun hnew => hpc hnew.1
    exact ⟨time, List.mem_cons_of_mem _ hstart⟩
  have hstay (hpc : s.pc ≠ .top) : ∃ time, .start time ∈ s.log := hi.resolve_right fun hnew => hpc hnew.1
  cases h with
  | reedEdge =>
    rcases hi with ⟨time, hstart⟩ | ⟨hpc, hlevel, hpost⟩
    · exact .inl ⟨time, List.mem_cons_of_mem _ hstart⟩
    · exact .inr ⟨hpc, hlevel, hpost⟩
  | millis time hpc => exact .inl ⟨time, List.mem_cons_self⟩
  | reed time windowOpen hpc => exact .inl (hbegun (by simp [hpc]) _)
  | changed time windowOpen hpc hnew => exact .inl (hstay (by simp [hpc]))
  | take time windowOpen hpc hsame => exact .inl (hstay (by simp [hpc]))
  | read time windowOpen publish env dht hpc hdue => exact .inl (hbegun (by simp [hpc]) _)
  | skip time windowOpen publish hpc hdue => exact .inl (hbegun (by simp [hpc]) _)
  | post windowOpen hpc => exact .inl (hbegun (by simp [hpc]) _)
  | quiet windowOpen hpc => exact .inl (hstay (by simp [hpc]))

theorem run_begunOk {acts : List SensorAction} {s : SensorSystem}
    (h : exec sensorNext sensorInit acts = some s) : BegunOk s :=
  exec_inv BegunOk (fun _ _ _ hi hnext => step_begunOk (sensorNext_step hnext) hi) (.inr ⟨rfl, rfl, rfl⟩) h

/-- Between two iterations the record is that of the latest reading and of the level sampled last. -/
theorem record_between {acts : List SensorAction} {s : SensorSystem}
    (h : exec sensorNext sensorInit acts = some s) (htop : s.pc = .top) :
    (recordOf s.log).temperatureC = (lastReading s.log).map (·.temperatureC) ∧
      (recordOf s.log).latest.any (·.windowOpen) = (lastLevel s.log).getD false := by
  constructor
  · have hreport := run_reportOk h
    unfold ReportOk at hreport
    rwa [sensorPosts_none (by simp [htop])] at hreport
  · rw [recordOf_latest]
    have hpublish := (run_sensorOk h).1
    unfold PublishOk at hpublish
    rw [htop] at hpublish
    rcases hpublish with ⟨-, hnone⟩ | ⟨hposted, hlevel⟩
    · obtain ⟨-, hlevel, hpost⟩ := (run_begunOk h).resolve_left fun ⟨time, hstart⟩ => hnone time hstart
      rw [hlevel, hpost]
      rfl
    · unfold Published at hposted
      rw [hposted, hlevel]
      rfl

/-! ## Through a pass of `ControlTask` -/

/-- The record of what `ControlTask` has taken in. -/
def ControlTask.record (task : ControlTask) : Record where
  latest := task.latest
  temperatureC := if task.context.haveSensor then some task.context.temperatureC else none

/-- What holds between two passes. -/
structure TaskOk (task : ControlTask) : Prop where
  context : ControlInv task.context
  window : (task.context.state = .windowSuspect ∨ task.context.state = .acPaused) ↔
    task.context.powered = true ∧ task.context.manual = false ∧ task.record.latest.any (·.windowOpen) = true
  /-- The latest message is handed to `Control_Step` again and again. -/
  again : task.record.latest.toList.foldl Record.note task.record = task.record
  output : ∀ output, task.lastOutput = some output → output = controlOutput task.context

theorem controlTaskInit_ok : TaskOk controlTaskInit :=
  ⟨controlInit_inv, by simp [controlTaskInit, controlInit, ControlTask.record], rfl, nofun⟩

theorem stepCtx_open_iff (ctx : ControlContext) (i : ControlInput) :
    ((stepCtx ctx i).state = .windowSuspect ∨ (stepCtx ctx i).state = .acPaused) ↔
      (stepCtx ctx i).powered = true ∧ (stepCtx ctx i).manual = false ∧
        i.sensor.any (·.windowOpen) = true := by
  obtain ⟨c, hc, he⟩ := step_selects ctx i
  rw [he]
  cases hc <;> simp_all

theorem stepCtx_record (task : ControlTask) (w : ControlWake) :
    (controlTaskIter task w).1.record =
      (latestAfter task w).toList.foldl Record.note task.record := by
  unfold ControlTask.record
  rw [controlTaskIter_latest, controlTaskIter_context]
  obtain ⟨-, -, -, hh, ht, -⟩ := step_frame task.context (task.input w)
  rw [hh, ht]
  change Record.mk (latestAfter task w) (if (_ || (validSample (latestAfter task w)).isSome) = true then
    some (((validSample (latestAfter task w)).map (·.temperatureC)).getD _) else none) = _
  cases hlatest : latestAfter task w with
  | none =>
    obtain ⟨-, hnone⟩ : w.received = none ∧ task.latest = none := by simpa [latestAfter] using hlatest
    simp [hnone]
  | some m =>
    cases hv : m.valid with
    | true => simp [validSample_valid hv, Record.note, hv]
    | false => simp [validSample_invalid hv, Record.note, hv]

/-- What the pass makes of its output: a post, or the output is the one posted last. -/
theorem controlTaskIter_cases (task : ControlTask) (w : ControlWake) :
    (controlTaskIter task w).1.lastOutput = some (controlOutput (controlTaskIter task w).1.context) ∧
      ((∃ buzzerClick, (controlTaskIter task w).2.post =
          some (controlOutput (controlTaskIter task w).1.context, buzzerClick)) ∨
        ((controlTaskIter task w).2.post = none ∧
          task.lastOutput = some (controlOutput (controlTaskIter task w).1.context))) := by
  obtain ⟨output, hc, hl, -, -, hcases⟩ := controlTurn_cases { pipelineInit with control := task } w
  have hcontrol : (controlTurn { pipelineInit with control := task } w).control = (controlTaskIter task w).1 := by
    unfold controlTurn
    dsimp only
    cases (controlTaskIter task w).2.post <;> rfl
  have hcomputed : (controlTurn { pipelineInit with control := task } w).computed =
      some (controlTaskIter task w).2.output := by
    unfold controlTurn
    dsimp only
    cases (controlTaskIter task w).2.post <;> rfl
  have houtput : output = controlOutput (controlTaskIter task w).1.context := by
    rw [hcomputed, controlTaskIter_output, step_snd, ← controlTaskIter_context] at hc
    exact (Option.some.inj hc).symm
  rw [hcontrol] at hl
  rw [← houtput]
  refine ⟨hl, hcases.imp ?_ ?_⟩
  · rintro ⟨buzzerClick, hpost, -⟩
    exact ⟨buzzerClick, hpost⟩
  · rintro ⟨hpost, hlast, -⟩
    exact ⟨hpost, hlast⟩

section pass
variable {task : ControlTask} (hi : TaskOk task) (w : ControlWake)
include hi

theorem pass_record : (controlTaskIter task w).1.record = w.received.toList.foldl Record.note task.record := by
  rw [stepCtx_record]
  cases hreceived : w.received with
  | none =>
    rw [latestAfter, hreceived]
    exact hi.again
  | some m =>
    rw [latestAfter, hreceived]
    rfl

/-- **Step lemma**: a pass keeps what holds between passes. -/
theorem pass_taskOk : TaskOk (controlTaskIter task w).1 := by
  refine ⟨?_, ?_, ?_, fun output hlast => ?_⟩
  · rw [controlTaskIter_context]
    exact step_inv hi.context _
  · rw [controlTaskIter_context, stepCtx_open_iff, ControlTask.record, controlTaskIter_latest]
    rfl
  · rw [stepCtx_record]
    cases latestAfter task w with
    | none => exact hi.again
    | some m => exact Record.note_idem _ m
  · rw [(controlTaskIter_cases task w).1] at hlast
    exact (Option.some.inj hlast).symm

end pass

/-! ## From the queue to the consumers -/

/-- The message that `ControlTask` has pended for a `Control_Step` still to come. -/
def ControlPc.taken : ControlPc → Option SensorMsg
  | .received message => message
  | .woken message _ => message
  | _ => none

/-- What holds as long as no post is lost: the messages under way are all that the controller has still to
learn, and the newest messages of the consumers are its output. -/
structure PathOk (s : System) : Prop where
  messages : (s.pc.taken.toList ++ s.sensorQ).foldl Record.note s.control.record = recordOf s.sensor.log
  display : (newest s.displayQ s.display).agrees (controlOutput s.control.context)
  actuator : (∀ output buzzerClick, s.pc ≠ .posting output buzzerClick) →
    (newest s.actuatorQ s.actuator.current).agrees (controlOutput s.control.context)
  posting : ∀ output buzzerClick, s.pc = .posting output buzzerClick → output = controlOutput s.control.context

theorem systemInit_path : PathOk systemInit :=
  ⟨rfl, ⟨rfl, rfl, rfl, rfl, rfl⟩, fun _ => ⟨rfl, rfl⟩, nofun⟩

@[simp] theorem newest_snoc {α : Type} (q : List α) (value current : α) :
    newest (q ++ [value]) current = value := by
  simp [newest]

/-- Losing a post is on record for good. -/
theorem step_lost {s s' : System} {a : SystemAction} (h : SystemStep s a s') (hl : s'.lost = []) :
    s.lost = [] := by
  cases h with
  | publish accepted sensor message hnext hpost =>
    rcases osqPost_cases .sensor accepted s.sensorQ message s.lost with heq | heq <;> simp_all
  | changed w accepted output buzzerClick hpc hpost =>
    rcases osqPost_cases .display accepted s.displayQ (postDisplay output).value s.lost with heq | heq <;>
      simp_all
  | postActuator accepted output buzzerClick hpc =>
    rcases osqPost_cases .actuator accepted s.actuatorQ (postActuator (output, buzzerClick)).value s.lost with
      heq | heq <;> simp_all
  | _ => exact hl

/-- **Step lemma** of the sensor: the record follows the posts. -/
theorem step_record {s s' : SensorSystem} {a : SensorAction} (h : sensorNext s a = some s') :
    recordOf s'.log = (sensorPosts s a).toList.foldl Record.note (recordOf s.log) := by
  unfold sensorNext at h
  cases a with
  | reedEdge =>
    cases h
    rfl
  | millis time =>
    cases hpc : s.pc <;> rw [hpc] at h <;> cases h
    rfl
  | reed windowOpen =>
    cases hpc : s.pc <;> rw [hpc] at h <;> cases h
    rfl
  | publish =>
    cases hpc : s.pc <;> rw [hpc] at h <;> dsimp only at h
    case looked time windowOpen => split_ifs at h <;> cases h <;> rfl
    all_goals cases h
  | dht env =>
    cases hpc : s.pc <;> rw [hpc] at h <;> dsimp only at h
    case decided time windowOpen publish => split_ifs at h <;> cases h <;> rfl
    all_goals cases h
  | post =>
    cases hpc : s.pc <;> rw [hpc] at h <;> dsimp only at h
    case filled windowOpen publish =>
      rw [sensorPosts_filled hpc]
      split_ifs at h with hpublish <;> cases h
      · rw [if_pos hpublish]
        rfl
      · rw [if_neg hpublish]
        rfl
    all_goals cases h

/-- **Step lemma**: a step that loses no post keeps the paths. -/
theorem step_path {s s' : System} {a : SystemAction} (h : SystemStep s a s') (hl : s'.lost = [])
    (ht : TaskOk s.control) (hi : PathOk s) : PathOk s' := by
  obtain ⟨hmessages, hdisplay, hactuator, hposting⟩ := hi
  have hlearnt (w : ControlWake) (hpc : s.pc = .woken w.received w.events) :
      s.sensorQ.foldl Record.note (controlTaskIter s.control w).1.record = recordOf s.sensor.log := by
    rw [pass_record ht w, ← hmessages, hpc, List.foldl_append]
    rfl
  cases h with
  | sensor a accepted sensor hnext hquiet =>
    have hrecord := step_record hnext
    rw [hquiet] at hrecord
    exact ⟨hmessages.trans hrecord.symm, hdisplay, hactuator, hposting⟩
  | publish accepted sensor message hnext hpost =>
    have hrecord := step_record hnext
    rw [hpost] at hrecord
    rcases osqPost_cases .sensor accepted s.sensorQ message s.lost with heq | heq
    · rw [heq]
      refine ⟨?_, hdisplay, hactuator, hposting⟩
      rw [← List.append_assoc, List.foldl_append, hmessages]
      exact hrecord.symm
    · rw [heq] at hl
      cases hl
  | poll p => exact ⟨hmessages, hdisplay, hactuator, hposting⟩
  | pendSensor hpc =>
    rw [hpc] at hmessages hactuator
    refine ⟨?_, hdisplay, fun _ => hactuator nofun, nofun⟩
    rw [← hmessages]
    cases s.sensorQ <;> rfl
  | pendFlags message hpc =>
    rw [hpc] at hmessages hactuator
    exact ⟨hmessages, hdisplay, fun _ => hactuator nofun, nofun⟩
  | same w accepted hpc hpost =>
    rw [hpc] at hactuator
    -- the output is the one posted last, which is that of the context before
    have hkept : controlOutput (controlTaskIter s.control w).1.context = controlOutput s.control.context := by
      rcases (controlTaskIter_cases s.control w).2 with ⟨buzzerClick, hsome⟩ | ⟨-, hlast⟩
      · rw [hpost] at hsome
        cases hsome
      · exact ht.output _ hlast
    exact ⟨hlearnt w hpc, hkept ▸ hdisplay, fun _ => hkept ▸ hactuator nofun, nofun⟩
  | changed w accepted output buzzerClick hpc hpost =>
    have houtput : output = controlOutput (controlTaskIter s.control w).1.context := by
      rcases (controlTaskIter_cases s.control w).2 with ⟨click, hsome⟩ | ⟨hnone, -⟩
      · rw [hpost] at hsome
        cases hsome
        rfl
      · rw [hpost] at hnone
        cases hnone
    rcases osqPost_cases .display accepted s.displayQ (postDisplay output).value s.lost with heq | heq
    · rw [heq]
      refine ⟨hlearnt w hpc, ?_, fun hno => absurd rfl (hno output buzzerClick), ?_⟩
      · rw [newest_snoc, ← houtput]
        exact postDisplay_agrees output
      · rintro output' buzzerClick' hposting'
        cases hposting'
        exact houtput
    · rw [heq] at hl
      cases hl
  | postActuator accepted output buzzerClick hpc =>
    rw [hpc] at hmessages
    have houtput := hposting output buzzerClick hpc
    rcases osqPost_cases .actuator accepted s.actuatorQ (postActuator (output, buzzerClick)).value s.lost with
      heq | heq
    · rw [heq]
      refine ⟨hmessages, hdisplay, fun _ => ?_, nofun⟩
      rw [newest_snoc, ← houtput]
      exact postActuator_agrees (output, buzzerClick)
    · rw [heq] at hl
      cases hl
  | display nowMs =>
    refine ⟨hmessages, ?_, hactuator, hposting⟩
    rwa [newest_take]
  | actuator nowMs =>
    refine ⟨hmessages, hdisplay, fun hno => ?_, hposting⟩
    rw [actuatorTaskIter_current, newest_take]
    exact hactuator hno

/-- **Run lemma**: `ControlTask` is right in every run, the paths in every run that lost no post. -/
theorem run_path {acts : List SystemAction} {s : System} (h : exec systemNext systemInit acts = some s) :
    TaskOk s.control ∧ (s.lost = [] → PathOk s) := by
  refine exec_inv (fun s => TaskOk s.control ∧ (s.lost = [] → PathOk s)) ?_
    ⟨controlTaskInit_ok, fun _ => systemInit_path⟩ h
  rintro s a s' ⟨htask, hpath⟩ hnext
  have hs := systemNext_step hnext
  refine ⟨?_, fun hl => step_path hs hl htask (hpath (step_lost hs hl))⟩
  cases hs with
  | same w accepted hpc hpost => exact pass_taskOk htask w
  | changed w accepted output buzzerClick hpc hpost => exact pass_taskOk htask w
  | _ => exact htask

/-! ## The quiet system -/

/-- The output of a controller that has learnt all of the world is true of it. -/
theorem TaskOk.shows {task : ControlTask} (ht : TaskOk task) {w : World} (hpanel : task.context.panel = w.panel)
    (htemperature : task.record.temperatureC = w.temperatureC)
    (hwindow : task.record.latest.any (·.windowOpen) = w.windowOpen) {m : DisplayMsg}
    (hm : m.agrees (controlOutput task.context)) : Shows w m := by
  obtain ⟨hstate, hlevel, hcurrent, hsetpoint, hvalid⟩ := hm
  obtain ⟨hi, hopen, -, -⟩ := ht
  obtain ⟨panel, temperatureC, windowOpen⟩ := w
  subst hpanel htemperature hwindow
  have hshown : (controlOutput task.context).state = task.context.state := rfl
  rw [hshown] at hstate
  have hknown : task.record.temperatureC.getD 0 = task.context.temperatureC := by
    unfold ControlTask.record
    cases hhave : task.context.haveSensor with
    | true => rfl
    | false => exact (hi.no_reading hhave).symm
  refine ⟨?_, ?_, ?_, fun hcool => ?_, ?_, hsetpoint, ?_, ?_⟩
  · rw [hstate]
    exact hi.off_iff
  · rw [hstate]
    exact hi.manual_iff
  · rw [hstate]
    exact hopen
  · have hwants := hi.cooling_wanted (hstate ▸ hcool)
    simp only [wantsCooling, Bool.and_eq_true, decide_eq_true_eq, coolingLevel_auto_pos] at hwants
    exact ⟨_, if_pos hwants.1, hwants.2⟩
  · rw [hlevel, hstate]
    unfold World.level controlOutput
    dsimp only
    rw [hknown]
    cases task.context.state <;> rfl
  · rw [hcurrent]
    unfold ControlTask.record controlOutput
    cases task.context.haveSensor <;> rfl
  · rw [hvalid]
    unfold ControlTask.record controlOutput
    cases task.context.haveSensor <;> rfl

/-- Nothing is under way. -/
structure Quiet (s : System) : Prop where
  sensor : s.sensor.pc = .top
  control : s.pc = .waiting
  sensorQ : s.sensorQ = []
  flags : s.flags &&& userEvtAll = 0
  displayQ : s.displayQ = []
  actuatorQ : s.actuatorQ = []

/-- Time does not go back between polls, no hold is as long as a wrap of the clock, and presses meet in the
flags only where they are mergeable. -/
structure PressesKept (acts : List ButtonAction) : Prop where
  time : (pollsOf acts).Pairwise (·.time ≤ ·.time)
  hold : HoldsShort (pollsOf acts)
  merge : AllMergeable acts

theorem quiet_panel {acts : List SystemAction} {s : System} (h : exec systemNext systemInit acts = some s)
    (hkept : PressesKept (buttonActs acts)) (hq : Quiet s) :
    s.control.context.panel = panelOf (pollsOf (buttonActs acts)).reverse := by
  have hi := batches_inv (exec_buttons h) hkept.time hkept.hold
  have hflags := hi.flags.gesture
  have hnone : s.buttons.flags = 0 := hi.mask.symm.trans hq.flags
  have hpended : s.buttons.pended = none := by
    unfold System.buttons
    rw [hq.control]
    rfl
  rw [hnone, gestureOf_zero] at hflags
  have hpanel := (batches_panel hkept.merge).2
  rw [← hflags, Panel.apply_none, batchesOf_past] at hpanel
  exact (hi.handled hpended).trans hpanel

/-- Where nothing is under way, a world that the posts and the panel tell is shown. -/
theorem Quiet.shows {s : System} (hq : Quiet s) (htask : TaskOk s.control) (hpath : PathOk s) {w : World}
    (hpanel : s.control.context.panel = w.panel)
    (htemperature : (recordOf s.sensor.log).temperatureC = w.temperatureC)
    (hwindow : (recordOf s.sensor.log).latest.any (·.windowOpen) = w.windowOpen) :
    Shows w s.display ∧ s.actuator.current.state = s.display.state ∧
      s.actuator.current.coolingLevel = s.display.coolingLevel := by
  obtain ⟨hmessages, hdisplay, hactuator, -⟩ := hpath
  rw [hq.control, hq.sensorQ] at hmessages
  rw [hq.displayQ] at hdisplay
  rw [hq.control, hq.actuatorQ] at hactuator
  have hlearnt : s.control.record = recordOf s.sensor.log := hmessages
  obtain ⟨hstate, hlevel⟩ := hactuator nofun
  rw [← hlearnt] at htemperature hwindow
  exact ⟨htask.shows hpanel htemperature hwindow hdisplay, hstate.trans hdisplay.1.symm,
    hlevel.trans hdisplay.2.1.symm⟩

/-- In a quiet system that has lost no post and no press the display is true of the world and the actuator agrees. -/
theorem quiet_shows {acts : List SystemAction} {s : System} (h : exec systemNext systemInit acts = some s)
    (hkept : PressesKept (buttonActs acts)) (hlost : s.lost = []) (hq : Quiet s) :
    (worldOf acts s).panel.InRange ∧ Shows (worldOf acts s) s.display ∧
      s.actuator.current.state = s.display.state ∧
      s.actuator.current.coolingLevel = s.display.coolingLevel := by
  obtain ⟨htask, hpath⟩ := run_path h
  obtain ⟨htemperature, hwindow⟩ := record_between (exec_sensor h) hq.sensor
  have hpanel := quiet_panel h hkept hq
  refine ⟨?_, hq.shows htask (hpath hlost) hpanel htemperature hwindow⟩
  have hrange := htask.context.setpoint_range
  change Panel.InRange (panelOf _)
  rw [← hpanel]
  exact hrange

/-- A long press with the window open and no timer: one iteration of the sensor, one pass of each other task. -/
def switchedOnOpen : List SystemAction :=
  [.sensor (.millis 1300) true, .sensor (.reed true) true, .sensor .publish true, .sensor (.dht noTimer) true,
    .sensor .post true, .poll ⟨false, false, true, 1310⟩, .poll ⟨false, false, false, 3000⟩, .pendSensor,
    .pendFlags, .step 3010 true, .postActuator true, .display 3015, .actuator 3020]

/-- The two polls of a long press, and one pass. -/
def onePress : List ButtonAction :=
  [.poll ⟨false, false, true, 1310⟩, .poll ⟨false, false, false, 3000⟩, .pend (some ⟨0, 0, true, false⟩), .step 3010]

theorem onePress_kept : PressesKept onePress := by
  refine ⟨by decide, holdsShort_of_within 0 (by simp [onePress, pollsOf]), ?_⟩
  intro pre p post hsplit
  rcases pre with _ | ⟨_, _ | ⟨_, pre⟩⟩ <;>
    simp only [onePress, List.nil_append, List.cons_append, List.cons.injEq] at hsplit
  · obtain ⟨⟨⟩, -⟩ := hsplit
    decide +kernel
  · obtain ⟨rfl, ⟨⟩, -⟩ := hsplit
    decide +kernel
  · obtain ⟨-, -, hrest⟩ := hsplit
    rcases pre with _ | ⟨_, _ | ⟨_, pre⟩⟩ <;> simp at hrest

end SmartAc
