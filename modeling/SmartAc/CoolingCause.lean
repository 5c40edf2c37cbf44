import SmartAc.Dht22Decode
import SmartAc.QuietSystem

/-!
# Why it cools

LD1 is lit and the display shows COOLING only for a reason, whatever the order of the tasks and whatever
posts are lost: `cooling_has_cause`. A state that a consumer shows is that of an earlier pass of
`ControlTask` (`states_from_passes`), and a pass that cools rests on a press of POWER, on a message that was
posted with the window closed, and on a successful reading that was too warm (`Sources`).
-/

namespace SmartAc

open Machine

/-! ## Messages have readings behind them -/

/-- A reading of that temperature is in the log. -/
def WasRead (log : List SensorEvent) (temperatureC : Rat) : Prop :=
  ∃ time r, .read time (some r) ∈ log ∧ r.temperatureC = temperatureC

theorem WasRead.mono {log log' : List SensorEvent} {t : Rat} (h : WasRead log t) (hsub : log ⊆ log') :
    WasRead log' t := by
  obtain ⟨time, r, hmem, ht⟩ := h
  exact ⟨time, r, hsub hmem, ht⟩

theorem mem_of_lastReading {log : List SensorEvent} {r : DhtReading} (h : lastReading log = some r) :
    ∃ time, .read time (some r) ∈ log := by
  obtain ⟨e, he, hjoin⟩ := List.exists_of_findSome?_eq_some h
  cases e with
  | read time reading =>
    obtain rfl : reading = some r := hjoin
    exact ⟨time, he⟩
  | _ => cases hjoin

/-- A valid message carries a temperature that was read. -/
def PostsRead (log : List SensorEvent) : Prop :=
  ∀ m, .post m ∈ log → m.valid = true → WasRead log m.temperatureC

theorem PostsRead.cons {log : List SensorEvent} (h : PostsRead log) {e : SensorEvent}
    (hpost : ∀ m, e = .post m → m.valid = true → WasRead log m.temperatureC) : PostsRead (e :: log) := by
  intro m hm hvalid
  rcases List.mem_cons.1 hm with heq | hm
  · exact (hpost m heq.symm hvalid).mono (List.subset_cons_self e log)
  · exact (h m hm hvalid).mono (List.subset_cons_self e log)

theorem step_postsRead {s s' : SensorSystem} (h : SensorStep s s') (hp : PublishOk s) (hr : ReadingOk s)
    (hi : PostsRead s.log) : PostsRead s'.log := by
  cases h with
  | reedEdge => exact hi.cons nofun
  | millis time hpc => exact hi.cons nofun
  | reed time windowOpen hpc => exact hi.cons nofun
  | changed time windowOpen hpc hnew => exact hi
  | take time windowOpen hpc hsame => exact hi
  | read time windowOpen publish env dht hpc hdue => exact hi.cons nofun
  | skip time windowOpen publish hpc hdue => exact hi.cons nofun
  | quiet windowOpen hpc => exact hi
  | post windowOpen hpc =>
    unfold PublishOk at hp
    rw [hpc] at hp
    obtain ⟨-, -, hvalid⟩ := hp
    refine hi.cons fun m hm hmvalid => ?_
    cases hm
    rw [hvalid, hr.valid] at hmvalid
    obtain ⟨r, hlast⟩ := lastReading_of_attemptOk hmvalid
    obtain ⟨time, hmem⟩ := mem_of_lastReading hlast
    rw [hr.temperature, hlast]
    exact ⟨time, r, hmem, rfl⟩

theorem run_postsRead {acts : List SensorAction} {s : SensorSystem}
    (h : exec sensorNext sensorInit acts = some s) : PostsRead s.log := by
  refine exec_history (fun _ s => PostsRead s.log) (fun m hm => by cases hm) ?_ h
  rintro acts t a u ht hi hnext
  obtain ⟨hpublish, -, hreading⟩ := run_sensorOk ht
  exact step_postsRead (sensorNext_step hnext) hpublish hreading hi

/-! ## Power has a press behind it -/

/-- A poll posted POWER. -/
def PowerPressed (polls : List ButtonPoll) : Prop :=
  ∃ past p rest, polls = past ++ p :: rest ∧ hasEvent (eventsAt past p) userEvtPower = true

theorem PowerPressed.append {polls : List ButtonPoll} (h : PowerPressed polls) (more : List ButtonPoll) :
    PowerPressed (polls ++ more) := by
  obtain ⟨past, p, rest, rfl, hpower⟩ := h
  exact ⟨past, p, rest ++ more, by simp, hpower⟩

/-- POWER is set in the flags, or pended, or the controller is on, only after a press. -/
structure PressOk (polls : List ButtonPoll) (s : ButtonSystem) : Prop where
  user : s.user = userAfter polls
  flags : hasEvent s.flags userEvtPower = true → PowerPressed polls
  pended : ∀ received events, s.pended = some (received, events) → hasEvent events userEvtPower = true →
    PowerPressed polls
  powered : s.control.context.powered = true → PowerPressed polls

theorem hasEvent_and {events mask bit : UInt32} (h : hasEvent (events &&& mask) bit = true) :
    hasEvent events bit = true := by
  simp only [hasEvent, bne_iff_ne, ne_eq] at h ⊢
  intro hzero
  refine h ?_
  rw [UInt32.and_assoc, UInt32.and_comm mask, ← UInt32.and_assoc, hzero, UInt32.zero_and]

/-- A pass that leaves the controller on has a press behind it. -/
theorem PressOk.pass {polls : List ButtonPoll} {s : ButtonSystem} (hi : PressOk polls s)
    {w : ControlWake} (hp : s.pended = some (w.received, w.events))
    (hon : (controlTaskIter s.control w).1.context.powered = true) : PowerPressed polls := by
  rw [controlTaskIter_context, (step_frame _ _).1] at hon
  by_cases hpress : hasEvent w.events userEvtPower = true
  · exact hi.pended _ _ hp hpress
  · have hoff : hasEvent w.events userEvtPower = false := by simpa using hpress
    exact hi.powered (by simpa [poweredAfter, ControlTask.input, hoff] using hon)

theorem step_pressOk {acts : List ButtonAction} {s s' : ButtonSystem} {a : ButtonAction}
    (hi : PressOk (pollsOf acts) s) (h : buttonNext s a = some s') : PressOk (pollsOf (acts ++ [a])) s' := by
  obtain ⟨huser, hflags, hpended, hpowered⟩ := id hi
  cases a with
  | poll p =>
    rw [buttonNext_poll] at h
    obtain rfl := Option.some.inj h
    have hevents : (userPoll s.user p).2 = eventsAt (pollsOf acts) p := by
      rw [huser]
      rfl
    rw [pollsOf_append, pollsOf_poll]
    refine ⟨?_, fun hpower => ?_, fun received events heq hpower => ?_, fun hon => ?_⟩
    · rw [userAfter, final_snoc, huser]
      rfl
    · by_cases hpress : hasEvent (userPoll s.user p).2 userEvtPower = true
      · exact ⟨pollsOf acts, p, [], rfl, hevents ▸ hpress⟩
      · -- the bit was set before
        refine (hflags ?_).append _
        dsimp only at hpower
        split_ifs at hpower
        · rw [hasEvent_or, Bool.or_eq_true] at hpower
          exact hpower.resolve_right hpress
        · exact hpower
    · exact (hpended received events heq hpower).append _
    · exact (hpowered hon).append _
  | pend received =>
    rw [pollsOf_append, pollsOf_pend, List.append_nil]
    unfold buttonNext at h
    cases hp : s.pended with
    | some pended =>
      rw [hp] at h
      cases h
    | none =>
      rw [hp] at h
      cases h
      refine ⟨huser, fun hpower => hflags (hasEvent_and hpower), fun received events heq hpower => ?_, hpowered⟩
      cases heq
      exact hflags (hasEvent_and hpower)
  | step nowMs =>
    rw [pollsOf_append, pollsOf_step, List.append_nil]
    unfold buttonNext at h
    cases hp : s.pended with
    | none =>
      rw [hp] at h
      cases h
    | some pended =>
      obtain ⟨received, events⟩ := pended
      rw [hp] at h
      cases h
      refine ⟨huser, hflags, fun _ _ heq => ?_, hi.pass hp⟩
      cases heq

theorem run_pressOk {acts : List ButtonAction} {s : ButtonSystem}
    (h : exec buttonNext buttonInit acts = some s) : PressOk (pollsOf acts) s := by
  refine exec_history (fun acts s => PressOk (pollsOf acts) s) ⟨rfl, ?_, ?_, ?_⟩
    (fun _ _ _ _ _ hi hnext => step_pressOk hi hnext) h
  · intro hpower
    rw [show buttonInit.flags = 0 from rfl, hasEvent_zero] at hpower
    cases hpower
  · intro received events hpended
    cases hpended
  · intro hon
    cases hon

/-! ## What a pass rests on -/

/-- Whatever was lost on the way, `ControlTask` knows only what was posted and read. -/
structure Sources (s : System) : Prop where
  messages : ∀ m ∈ s.pc.taken.toList ++ s.sensorQ ++ s.control.latest.toList, .post m ∈ s.sensor.log
  known : s.control.context.haveSensor = true → s.control.latest.isSome = true
  reading : s.control.context.haveSensor = true → WasRead s.sensor.log s.control.context.temperatureC

theorem latestAfter_mem {task : ControlTask} {w : ControlWake} {m : SensorMsg} (h : latestAfter task w = some m) :
    m ∈ w.received.toList ++ task.latest.toList := by
  unfold latestAfter at h
  cases hreceived : w.received with
  | none => simpa [hreceived] using h
  | some m' => simp_all

/-- What a pass goes by was posted. -/
theorem Sources.latest_posted {s : System} (hi : Sources s) {w : ControlWake}
    (hpc : s.pc = .woken w.received w.events) {m : SensorMsg} (h : latestAfter s.control w = some m) :
    .post m ∈ s.sensor.log := by
  refine hi.messages m ?_
  have hmem := latestAfter_mem h
  simp only [List.mem_append, hpc, ControlPc.taken] at hmem ⊢
  tauto

/-- The reading that a pass goes by. -/
theorem pass_reading {s : System} (hi : Sources s) (hposts : PostsRead s.sensor.log) {w : ControlWake}
    (hpc : s.pc = .woken w.received w.events)
    (hhave : (controlTaskIter s.control w).1.context.haveSensor = true) :
    (latestAfter s.control w).isSome = true ∧
      WasRead s.sensor.log (controlTaskIter s.control w).1.context.temperatureC := by
  obtain ⟨-, hknown, hreading⟩ := id hi
  rw [controlTaskIter_context] at hhave ⊢
  obtain ⟨-, -, -, hh, ht, -⟩ := step_frame s.control.context (s.control.input w)
  rw [hh] at hhave
  rw [ht]
  change (_ || (validSample (latestAfter s.control w)).isSome) = true at hhave
  change _ ∧ WasRead _ (((validSample (latestAfter s.control w)).map (·.temperatureC)).getD _)
  cases hlatest : latestAfter s.control w with
  | none =>
    obtain ⟨-, hnone⟩ : w.received = none ∧ s.control.latest = none := by simpa [latestAfter] using hlatest
    rw [hlatest] at hhave
    have hold := hknown (by simpa using hhave)
    rw [hnone] at hold
    cases hold
  | some m =>
    refine ⟨rfl, ?_⟩
    cases hvalid : m.valid with
    | true =>
      rw [validSample_valid hvalid]
      exact hposts m (hi.latest_posted hpc hlatest) hvalid
    | false =>
      rw [hlatest, validSample_invalid hvalid] at hhave
      rw [validSample_invalid hvalid]
      exact hreading (by simpa using hhave)

theorem step_log {s s' : SensorSystem} (h : SensorStep s s') : s.log ⊆ s'.log := by
  cases h with
  | changed time windowOpen hpc hnew => exact List.Subset.refl _
  | take time windowOpen hpc hsame => exact List.Subset.refl _
  | quiet windowOpen hpc => exact List.Subset.refl _
  | _ => exact List.subset_cons_self _ _

/-- What is posted is logged. -/
theorem post_logged {s s' : SensorSystem} {message : SensorMsg} (h : sensorNext s .post = some s')
    (hpost : sensorPosts s .post = some message) : .post message ∈ s'.log := by
  obtain ⟨-, windowOpen, hpc⟩ := sensorPosts_some hpost
  rw [sensorPosts_filled hpc, if_pos rfl] at hpost
  simp only [sensorNext, hpc, if_true, Option.some.injEq] at h hpost
  rw [← h, ← hpost]
  exact List.mem_cons_self

theorem Sources.grow {s : System} (hi : Sources s) {sensor : SensorSystem} (hsub : s.sensor.log ⊆ sensor.log) :
    Sources { s with sensor } :=
  ⟨fun m hm => hsub (hi.messages m hm), hi.known, fun hhave => (hi.reading hhave).mono hsub⟩

theorem step_sources {s s' : System} {a : SystemAction} (h : SystemStep s a s')
    (hposts : PostsRead s.sensor.log) (hi : Sources s) : Sources s' := by
  have hpass {w : ControlWake} (hpc : s.pc = .woken w.received w.events) :
      ∀ m ∈ s.sensorQ ++ (latestAfter s.control w).toList, .post m ∈ s.sensor.log := by
    intro m hm
    rcases List.mem_append.1 hm with hm | hm
    · exact hi.messages m (by simp [hm])
    · exact hi.latest_posted hpc (Option.mem_toList.1 hm)
  cases h with
  | sensor a accepted sensor hnext hquiet => exact hi.grow (step_log (sensorNext_step hnext))
  | publish accepted sensor message hnext hpost =>
    obtain ⟨hmessages, hknown, hreading⟩ := hi.grow (step_log (sensorNext_step hnext))
    refine ⟨fun m hm => ?_, hknown, hreading⟩
    rcases osqPost_cases .sensor accepted s.sensorQ message s.lost with heq | heq
    · rw [heq] at hm
      by_cases hnew : m = message
      · rw [hnew]
        exact post_logged hnext hpost
      · exact hmessages m (by simpa [hnew] using hm)
    · rw [heq] at hm
      exact hmessages m hm
  | poll p => exact ⟨hi.messages, hi.known, hi.reading⟩
  | pendSensor hpc =>
    refine ⟨fun m hm => hi.messages m ?_, hi.known, hi.reading⟩
    cases hq : s.sensorQ <;> simp_all [ControlPc.taken]
  | pendFlags message hpc =>
    refine ⟨fun m hm => hi.messages m ?_, hi.known, hi.reading⟩
    rw [hpc]
    exact hm
  | same w accepted hpc hpost =>
    have hread := pass_reading hi hposts hpc
    refine ⟨fun m hm => hpass hpc m ?_, fun hhave => ?_, fun hhave => (hread hhave).2⟩
    · simpa [ControlPc.taken, controlTaskIter_latest] using hm
    · rw [controlTaskIter_latest]
      exact (hread hhave).1
  | changed w accepted output buzzerClick hpc hpost =>
    have hread := pass_reading hi hposts hpc
    refine ⟨fun m hm => hpass hpc m ?_, fun hhave => ?_, fun hhave => (hread hhave).2⟩
    · simpa [ControlPc.taken, controlTaskIter_latest] using hm
    · rw [controlTaskIter_latest]
      exact (hread hhave).1
  | postActuator accepted output buzzerClick hpc =>
    refine ⟨fun m hm => hi.messages m ?_, hi.known, hi.reading⟩
    rw [hpc]
    exact hm
  | display nowMs => exact ⟨hi.messages, hi.known, hi.reading⟩
  | actuator nowMs => exact ⟨hi.messages, hi.known, hi.reading⟩

theorem run_sources {acts : List SystemAction} {s : System} (h : exec systemNext systemInit acts = some s) :
    Sources s := by
  have hinit : Sources systemInit := by
    constructor <;> simp [systemInit, controlTaskInit, controlInit, ControlPc.taken]
  refine exec_history (fun _ s => Sources s) hinit ?_ h
  rintro acts t a u ht hi hnext
  exact step_sources (systemNext_step hnext) (run_postsRead (exec_sensor ht)) hi

/-! ## States come from passes -/

/-- A pass of the run came to the state. -/
def FromPass (acts : List SystemAction) (state : AcState) : Prop :=
  ∃ before w accepted rest t, acts = before ++ .step w.nowMs accepted :: rest ∧
    exec systemNext systemInit before = some t ∧ t.pc = .woken w.received w.events ∧
    (controlTaskIter t.control w).1.context.state = state

theorem FromPass.snoc {acts : List SystemAction} {state : AcState} (h : FromPass acts state)
    (a : SystemAction) : FromPass (acts ++ [a]) state := by
  obtain ⟨before, w, accepted, rest, t, rfl, hrest⟩ := h
  exact ⟨before, w, accepted, rest ++ [a], t, by simp, hrest⟩

/-- A state on display, driven, or on its way there. -/
inductive IsShown (s : System) : AcState → Prop where
  | display : IsShown s s.display.state
  | actuator : IsShown s s.actuator.current.state
  | displayQ (m : DisplayMsg) (hm : m ∈ s.displayQ) : IsShown s m.state
  | actuatorQ (m : ActuatorMsg) (hm : m ∈ s.actuatorQ) : IsShown s m.state
  | posting (output : ControlOutput) (buzzerClick : Bool) (hpc : s.pc = .posting output buzzerClick) :
      IsShown s output.state

theorem pass_output {task : ControlTask} {w : ControlWake} {output : ControlOutput} {buzzerClick : Bool}
    (h : (controlTaskIter task w).2.post = some (output, buzzerClick)) :
    controlOutput (controlTaskIter task w).1.context = output := by
  rcases (controlTaskIter_cases task w).2 with ⟨click, hpost⟩ | ⟨hnone, -⟩
  · rw [h] at hpost
    exact (congrArg Prod.fst (Option.some.inj hpost)).symm
  · rw [h] at hnone
    cases hnone

theorem mem_osqPost {k : Queue} {accepted : Bool} {q : List k.Msg} {value m : k.Msg} {lost : List Queue}
    (h : m ∈ (osqPost k accepted q value lost).1) : m ∈ q ∨ m = value := by
  rcases osqPost_cases k accepted q value lost with heq | heq
  · rw [heq] at h
    simpa using h
  · rw [heq] at h
    exact .inl h

theorem head_or_current {α : Type} (q : List α) (current : α) :
    q.head?.getD current = current ∨ q.head?.getD current ∈ q := by
  cases q <;> simp

/-- A step that leaves the consumers, their queues and the output to post leaves what is shown. -/
theorem IsShown.frame {s s' : System} {state : AcState} (hs : IsShown s' state) (hd : s'.display = s.display)
    (ha : s'.actuator = s.actuator) (hdq : s'.displayQ = s.displayQ) (haq : s'.actuatorQ = s.actuatorQ)
    (hpc : ∀ output buzzerClick, s'.pc ≠ .posting output buzzerClick ∨ s'.pc = s.pc) : IsShown s state := by
  cases hs with
  | display => exact hd ▸ .display
  | actuator => exact ha ▸ .actuator
  | displayQ m hm => exact .displayQ m (hdq ▸ hm)
  | actuatorQ m hm => exact .actuatorQ m (haq ▸ hm)
  | posting output buzzerClick hpc' =>
    rcases hpc output buzzerClick with hno | hsame
    · exact absurd hpc' hno
    · exact .posting output buzzerClick (hsame ▸ hpc')

/-- **Step lemma**: a state is shown anew only by the pass that came to it. -/
theorem step_isShown {s s' : System} {a : SystemAction} (h : SystemStep s a s') {state : AcState}
    (hs : IsShown s' state) : IsShown s state ∨ ∃ w accepted, a = .step w.nowMs accepted ∧
      s.pc = .woken w.received w.events ∧ (controlTaskIter s.control w).1.context.state = state := by
  cases h with
  | changed w accepted output buzzerClick hpc hpost =>
    have hnew : (controlTaskIter s.control w).1.context.state = output.state :=
      congrArg ControlOutput.state (pass_output hpost)
    cases hs with
    | display => exact .inl .display
    | actuator => exact .inl .actuator
    | displayQ m hm =>
      rcases mem_osqPost hm with hm | rfl
      · exact .inl (.displayQ m hm)
      · exact .inr ⟨w, accepted, rfl, hpc, hnew⟩
    | actuatorQ m hm => exact .inl (.actuatorQ m hm)
    | posting output' click hpc' =>
      cases hpc'
      exact .inr ⟨w, accepted, rfl, hpc, hnew⟩
  | postActuator accepted output buzzerClick hpc =>
    refine .inl ?_
    cases hs with
    | display => exact .display
    | actuator => exact .actuator
    | displayQ m hm => exact .displayQ m hm
    | actuatorQ m hm =>
      rcases mem_osqPost hm with hm | rfl
      · exact .actuatorQ m hm
      · exact .posting output buzzerClick hpc
    | posting output' click hpc' => cases hpc'
  | display nowMs =>
    refine .inl ?_
    cases hs with
    | display =>
      rcases head_or_current s.displayQ s.display with hcurrent | hqueued
      · dsimp only
        rw [hcurrent]
        exact .display
      · exact .displayQ _ hqueued
    | actuator => exact .actuator
    | displayQ m hm => exact .displayQ m (List.mem_of_mem_tail hm)
    | actuatorQ m hm => exact .actuatorQ m hm
    | posting output' click hpc' => exact .posting output' click hpc'
  | actuator nowMs =>
    refine .inl ?_
    cases hs with
    | display => exact .display
    | actuator =>
      dsimp only
      rw [actuatorTaskIter_current]
      rcases head_or_current s.actuatorQ s.actuator.current with hcurrent | hqueued
      · rw [hcurrent]
        exact .actuator
      · exact .actuatorQ _ hqueued
    | displayQ m hm => exact .displayQ m hm
    | actuatorQ m hm => exact .actuatorQ m (List.mem_of_mem_tail hm)
    | posting output' click hpc' => exact .posting output' click hpc'
  | same w accepted hpc hpost => exact .inl (hs.frame rfl rfl rfl rfl fun _ _ => .inl nofun)
  | pendSensor hpc => exact .inl (hs.frame rfl rfl rfl rfl fun _ _ => .inl nofun)
  | pendFlags message hpc => exact .inl (hs.frame rfl rfl rfl rfl fun _ _ => .inl nofun)
  | _ => exact .inl (hs.frame rfl rfl rfl rfl fun _ _ => .inr rfl)

theorem states_from_passes {acts : List SystemAction} {s : System}
    (h : exec systemNext systemInit acts = some s) {state : AcState} (hs : IsShown s state) :
    state = .off ∨ FromPass acts state := by
  refine exec_history (fun acts s => ∀ state, IsShown s state → state = .off ∨ FromPass acts state) ?_ ?_ h
    state hs
  · rintro state (_ | _ | ⟨m, hm⟩ | ⟨m, hm⟩ | ⟨output, buzzerClick, hpc⟩)
    · exact .inl rfl
    · exact .inl rfl
    · cases hm
    · cases hm
    · cases hpc
  · intro acts t a u ht hi hnext state hs
    rcases step_isShown (systemNext_step hnext) hs with hold | ⟨w, accepted, rfl, hpc, hstate⟩
    · exact (hi state hold).imp_right fun hpass => hpass.snoc a
    · exact .inr ⟨acts, w, accepted, [], t, rfl, ht, hpc, hstate⟩

/-! ## The cause -/

/-- What a cooling pass rests on: `t` is the state before its `Control_Step`, `w` what it was woken with. -/
structure CoolingCause (before : List SystemAction) (t : System) (w : ControlWake) : Prop where
  run : exec systemNext systemInit before = some t
  woken : t.pc = .woken w.received w.events
  cools : (controlTaskIter t.control w).2.output.state = .cooling
  press : PowerPressed (pollsOf (buttonActs before))
  closed : ∃ m, latestAfter t.control w = some m ∧ .post m ∈ t.sensor.log ∧ m.windowOpen = false
  warm : ∃ temperatureC, WasRead t.sensor.log temperatureC ∧
    (controlTaskIter t.control w).2.output.setpointC + 1 < temperatureC
  setpoint : 16 ≤ (controlTaskIter t.control w).2.output.setpointC ∧
    (controlTaskIter t.control w).2.output.setpointC ≤ 30

theorem pass_cause {before : List SystemAction} {t : System} {w : ControlWake}
    (h : exec systemNext systemInit before = some t) (hpc : t.pc = .woken w.received w.events)
    (hcool : (controlTaskIter t.control w).1.context.state = .cooling) : CoolingCause before t w := by
  have hsources := run_sources h
  have hposts := run_postsRead (exec_sensor h)
  obtain ⟨hinv, hopen, -, -⟩ := pass_taskOk (run_path h).1 w
  have hout : (controlTaskIter t.control w).2.output = controlOutput (controlTaskIter t.control w).1.context := by
    rw [controlTaskIter_output, controlTaskIter_context]
    rfl
  have hwants := hinv.cooling_wanted hcool
  simp only [wantsCooling, Bool.and_eq_true, decide_eq_true_eq, coolingLevel_auto_pos] at hwants
  obtain ⟨hhave, hwarm⟩ := hwants
  obtain ⟨hknown, hread⟩ := pass_reading hsources hposts hpc hhave
  have hok := hinv.state_ok
  unfold StateOk at hok
  rw [hcool] at hok
  obtain ⟨hpowered, hmanual, -⟩ := hok
  refine ⟨h, hpc, ?_, ?_, ?_, ⟨_, hread, ?_⟩, ?_⟩
  · rw [hout]
    exact hcool
  · refine (run_pressOk (exec_buttons h)).pass (w := w) ?_ hpowered
    unfold System.buttons
    rw [hpc]
    rfl
  · obtain ⟨m, hm⟩ := Option.isSome_iff_exists.1 hknown
    refine ⟨m, hm, hsources.latest_posted hpc hm, ?_⟩
    -- an open window would have the state of an open window
    by_contra hclosed
    have hshown := hopen.2 ⟨hpowered, hmanual, ?_⟩
    · rw [hcool] at hshown
      rcases hshown with hshown | hshown <;> cases hshown
    · rw [ControlTask.record, controlTaskIter_latest, hm]
      simpa using hclosed
  · rw [hout]
    change ((controlTaskIter t.control w).1.context.setpointC : Rat) + 1 < _
    linarith
  · rw [hout]
    exact hinv.setpoint_range

/-- LD1 and the display show a state of the system. -/
theorem isShown_cooling {s : System} {nowMs : UInt32}
    (h : (actuatorTaskIter s.actuator s.actuatorQ.head? nowMs).2.outputs.ld1 = true ∨
      (displayTaskIter s.display s.displayQ.head?).state = .cooling) : IsShown s .cooling := by
  rcases h with hlit | hdisplayed
  · have hstate : (actuatorTaskIter s.actuator s.actuatorQ.head? nowMs).1.current.state = .cooling :=
      of_decide_eq_true hlit
    rw [actuatorTaskIter_current] at hstate
    rw [← hstate]
    rcases head_or_current s.actuatorQ s.actuator.current with hcurrent | hqueued
    · rw [hcurrent]
      exact .actuator
    · exact .actuatorQ _ hqueued
  · rw [← hdisplayed]
    unfold displayTaskIter
    rcases head_or_current s.displayQ s.display with hcurrent | hqueued
    · rw [hcurrent]
      exact .display
    · exact .displayQ _ hqueued

/-- **No cooling without a cause**: wherever LD1 is driven or COOLING is displayed, in any order of the tasks and
with any posts lost, an earlier pass of `ControlTask` cooled, after a press of POWER, on a posted message
with the window closed, and on a successful reading more than 1 degree above the setpoint. -/
theorem cooling_has_cause (acts : List SystemAction) (s : System)
    (h : exec systemNext systemInit acts = some s) (nowMs : UInt32)
    (hcool : (actuatorTaskIter s.actuator s.actuatorQ.head? nowMs).2.outputs.ld1 = true ∨
      (displayTaskIter s.display s.displayQ.head?).state = .cooling) :
    ∃ before w accepted rest t, acts = before ++ .step w.nowMs accepted :: rest ∧ CoolingCause before t w := by
  rcases states_from_passes h (isShown_cooling hcool) with
    hoff | ⟨before, w, accepted, rest, t, hsplit, ht, hpc, hstate⟩
  · cases hoff
  · exact ⟨before, w, accepted, rest, t, hsplit, pass_cause ht hpc hstate⟩

/-! ## A warm room -/

/-- 30.0 °C and 50.0 %, sent 30 µs after the first poll and polled every 1.5 µs. -/
def warmRoom : DhtEnv := evenlyPolled 1300 (3 / 2) (sensorSignal 1330 [0x01, 0xF4, 0x01, 0x2C, 0x22])

theorem warmRoom_reading : dhtReading warmRoom = some ⟨30, 50⟩ := by
  obtain ⟨hw, hp, ht, hr⟩ := evenlyPolled_shows 1300 (3 / 2) 1330 [0x01, 0xF4, 0x01, 0x2C, 0x22]
    (by norm_num) (by norm_num) (by norm_num) (by norm_num) (by norm_num) (by norm_num)
  obtain ⟨herror, hdata⟩ := timedFrame_decodes hw hp ht hr rfl
  have hread := (dhtRead_of_frame dhtInit rfl herror).2
  rw [dhtRead_reading, hdata] at hread
  refine hread.trans ?_
  decide +kernel

/-- The sensor has sampled a closed window for the first time. -/
def firstLook : SensorSystem where
  task := sensorTaskInit
  pc := .decided 1300 false false
  reedEdgePending := false
  dht := dhtInit
  log := [.level false, .start 1300]

/-- It has read `r`. -/
def firstRead (r : DhtReading) (dht : DhtState) : SensorSystem where
  task := ⟨⟨r.temperatureC, r.humidityPct, false, true⟩, false, true, 1300⟩
  pc := .filled false true
  reedEdgePending := false
  dht
  log := [.read 1300 (some r), .level false, .start 1300]

theorem firstLook_reads {env : DhtEnv} {r : DhtReading} (h : dhtReading env = some r) :
    ∃ dht, sensorNext firstLook (.dht env) = some (firstRead r dht) := by
  have hmessage := readSensor_eq env dhtInit sensorTaskInit.message false
  have hdue : startsRead sensorTaskInit.lastDhtMs (WrapClock.reading 1300) = true := by decide
  refine ⟨(readSensor env dhtInit sensorTaskInit.message false).2, ?_⟩
  simp only [sensorNext, firstLook, hdue, if_true, hmessage, h]
  rfl

/-- What `ControlTask` is woken with; the events are POWER and the click. -/
def warmWake : ControlWake := ⟨some ⟨30, 50, false, true⟩, 24, 3010⟩

theorem warmWake_posts :
    (controlTaskIter controlTaskInit warmWake).2.post = some (⟨.cooling, 3, 30, 24, true⟩, true) := by
  decide +kernel

/-- The first pass of `ControlTask`, once the reading and the events are there. -/
def firstPass : List SystemAction := [.pendSensor, .pendFlags, .step 3010 true, .postActuator true]

theorem firstPass_cools {s : System} (hpc : s.pc = .waiting) (hq : s.sensorQ.head? = warmWake.received)
    (hflags : s.flags = 24) (hcontrol : s.control = controlTaskInit)
    (hempty : s.actuatorQ = []) : ∃ s', exec systemNext s firstPass = some s' ∧
      (actuatorTaskIter s'.actuator s'.actuatorQ.head? 3020).2.outputs.ld1 = true := by
  have hpost : (controlTaskIter controlTaskInit ⟨warmWake.received, warmWake.events, 3010⟩).2.post =
      some (⟨.cooling, 3, 30, 24, true⟩, true) := warmWake_posts
  have hevents : (24 : UInt32) &&& userEvtAll = warmWake.events := by decide
  obtain ⟨sensor, sensorQ, user, flags, control, pc, displayQ, actuatorQ, display, actuator, lost⟩ := s
  dsimp only at hpc hq hflags hcontrol hempty
  subst hpc hflags hcontrol hempty
  simp only [firstPass, exec, systemNext, Option.bind_some, hq, hevents, hpost]
  exact ⟨_, rfl, rfl⟩

/-- A long press, then the first iteration of the sensor, in a warm room with the window closed. -/
def switchedOnWarm : List SystemAction :=
  [.poll ⟨false, false, true, 0⟩, .poll ⟨false, false, false, 2000⟩, .sensor (.millis 1300) true,
    .sensor (.reed false) true, .sensor .publish true, .sensor (.dht warmRoom) true, .sensor .post true] ++ firstPass

/-- The press is in the flags, and no task but the sensor's has run. -/
def pressed (sensor : SensorSystem) : System :=
  { systemInit with
    sensor
    user := userAfter [⟨false, false, true, 0⟩, ⟨false, false, false, 2000⟩]
    flags := 24 }

theorem cooling_has_cause_warm : ∃ before w accepted rest t,
    switchedOnWarm = before ++ .step w.nowMs accepted :: rest ∧ CoolingCause before t w := by
  obtain ⟨dht, hread⟩ := firstLook_reads warmRoom_reading
  have hlooked : exec systemNext systemInit (switchedOnWarm.take 5) = some (pressed firstLook) := rfl
  have hstep : systemNext (pressed firstLook) (.sensor (.dht warmRoom) true) =
      some (pressed (firstRead ⟨30, 50⟩ dht)) := (SystemStep.sensor _ true _ hread rfl).next
  obtain ⟨t, hposted, hpc, hq, hflags, hcontrol, hempty⟩ : ∃ t,
      systemNext (pressed (firstRead ⟨30, 50⟩ dht)) (.sensor .post true) = some t ∧ t.pc = .waiting ∧
        t.sensorQ.head? = warmWake.received ∧ t.flags = 24 ∧
        t.control = controlTaskInit ∧ t.actuatorQ = [] :=
    ⟨_, (SystemStep.publish true _ _ rfl rfl).next, rfl, rfl, rfl, rfl, rfl⟩
  have hsensed : exec systemNext (pressed firstLook) [.sensor (.dht warmRoom) true, .sensor .post true] = some t := by
    simp only [exec, hstep, hposted, Option.bind_some]
  obtain ⟨s, hpass, hlit⟩ := firstPass_cools hpc hq hflags hcontrol hempty
  exact cooling_has_cause switchedOnWarm s (exec_trans (exec_trans hlooked hsensed) hpass) 3020 (.inl hlit)

end SmartAc
