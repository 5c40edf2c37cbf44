import SmartAc.Boot
import SmartAc.CoolingCause

/-!
# A system that cannot measure

Without a running microsecond timer no DHT22 read succeeds. The probe of the start notices (`boardUsTimerIsRunning`),
and from then on nothing that could be taken for a temperature goes through the system: the messages are
invalid, the display shows dashes and LD1 stays dark (`dead_timer_fails_safe`). The first two lemmas hold of any cause
for which all reads fail.
-/

namespace SmartAc

open Machine

/-- No read has succeeded. -/
def NoReads (log : List SensorEvent) : Prop := ∀ time r, .read time (some r) ∉ log

theorem NoReads.mono {log log' : List SensorEvent} (h : NoReads log') (hsub : log ⊆ log') : NoReads log :=
  fun time r hmem => h time r (hsub hmem)

theorem NoReads.cons {log : List SensorEvent} (h : NoReads log) {e : SensorEvent}
    (he : ∀ time r, e ≠ .read time (some r)) : NoReads (e :: log) := by
  intro time r hmem
  rcases List.mem_cons.1 hmem with heq | hmem
  · exact he time r heq.symm
  · exact h time r hmem

theorem NoReads.not_wasRead {log : List SensorEvent} (h : NoReads log) (t : Rat) : ¬ WasRead log t := by
  rintro ⟨time, r, hmem, -⟩
  exact h time r hmem

/-! ## The display -/

/-- Every display message, shown or on its way, has dashes for the temperature. -/
structure Dashes (s : System) : Prop where
  display : s.display.temperatureValid = false
  displayQ : ∀ m ∈ s.displayQ, m.temperatureValid = false

/-- **Step lemma**: only a pass of `ControlTask` makes a display message, of what it has. -/
theorem step_dashes {s s' : System} {a : SystemAction} (h : SystemStep s a s') (hi : Dashes s)
    (hpass : ∀ w : ControlWake, s.pc = .woken w.received w.events →
      (controlTaskIter s.control w).1.context.haveSensor = false) : Dashes s' := by
  obtain ⟨hdisplay, hqueue⟩ := id hi
  cases h with
  | changed w accepted output buzzerClick hpc hpost =>
    refine ⟨hdisplay, fun m hm => ?_⟩
    rcases mem_osqPost hm with hm | rfl
    · exact hqueue m hm
    · have hvalid := congrArg ControlOutput.temperatureValid (pass_output hpost)
      exact hvalid.symm.trans (hpass w hpc)
  | display nowMs =>
    refine ⟨?_, fun m hm => hqueue m (List.mem_of_mem_tail hm)⟩
    rcases head_or_current s.displayQ s.display with hcurrent | hqueued
    · exact (congrArg DisplayMsg.temperatureValid hcurrent).trans hdisplay
    · exact hqueue _ hqueued
  | _ => exact ⟨hdisplay, hqueue⟩

theorem systemStep_log {s s' : System} {a : SystemAction} (h : SystemStep s a s') : s.sensor.log ⊆ s'.sensor.log := by
  cases h with
  | sensor a accepted sensor hnext hquiet => exact step_log (sensorNext_step hnext)
  | publish accepted sensor message hnext hpost => exact step_log (sensorNext_step hnext)
  | _ => exact List.Subset.refl _

/-- **Run lemma**: while no read has succeeded the display has dashes. -/
theorem run_dashes {acts : List SystemAction} {s : System} (h : exec systemNext systemInit acts = some s)
    (hnone : NoReads s.sensor.log) : Dashes s := by
  refine exec_history (fun _ s => NoReads s.sensor.log → Dashes s) ?_ ?_ h hnone
  · intro _
    exact ⟨rfl, fun m hm => by cases hm⟩
  · intro acts t a u ht hi hnext hnone
    have hstep := systemNext_step hnext
    have hnone := hnone.mono (systemStep_log hstep)
    refine step_dashes hstep (hi hnone) fun w hpc => ?_
    by_contra hhave
    have hread := pass_reading (run_sources ht) (run_postsRead (exec_sensor ht)) hpc (by simpa using hhave)
    exact hnone.not_wasRead _ hread.2

/-! ## The reads -/

/-- **Step lemma**: a reading is logged only when `DhtRead` comes to one. -/
theorem step_noReads {s s' : SensorSystem} {a : SensorAction} (h : sensorNext s a = some s')
    (hfail : ∀ env, a = .dht env → dhtReading env = none) (hi : NoReads s.log) : NoReads s'.log := by
  unfold sensorNext at h
  cases a with
  | reedEdge =>
    cases h
    exact hi.cons (by simp)
  | millis time =>
    cases hpc : s.pc <;> rw [hpc] at h <;> cases h
    exact hi.cons (by simp)
  | reed windowOpen =>
    cases hpc : s.pc <;> rw [hpc] at h <;> cases h
    exact hi.cons (by simp)
  | publish =>
    cases hpc : s.pc with
    | looked time windowOpen =>
      rw [hpc] at h
      dsimp only at h
      split_ifs at h <;> cases h <;> exact hi
    | _ => rw [hpc] at h; cases h
  | dht env =>
    cases hpc : s.pc with
    | decided time windowOpen publish =>
      rw [hpc] at h
      dsimp only at h
      by_cases hdue : startsRead s.task.lastDhtMs (WrapClock.reading time) = true
      · rw [if_pos hdue] at h
        cases h
        exact hi.cons (by simp [hfail env rfl])
      · rw [if_neg hdue] at h
        cases h
        exact hi.cons (by simp)
    | _ => rw [hpc] at h; cases h
  | post =>
    cases hpc : s.pc with
    | filled windowOpen publish =>
      rw [hpc] at h
      dsimp only at h
      split_ifs at h <;> cases h
      · exact hi.cons (by simp)
      · exact hi
    | _ => rw [hpc] at h; cases h

/-- **Run lemma**: if all reads of a run fail none has succeeded after it. -/
theorem run_noReads {acts : List SystemAction} {s : System} (h : exec systemNext systemInit acts = some s)
    (hfail : ∀ env accepted, .sensor (.dht env) accepted ∈ acts → dhtReading env = none) :
    NoReads s.sensor.log := by
  refine exec_history (fun acts s => (∀ env accepted, .sensor (.dht env) accepted ∈ acts → dhtReading env = none) →
    NoReads s.sensor.log) ?_ ?_ h hfail
  · intro _ time r hmem
    cases hmem
  · intro acts t a u ht hi hnext hfail
    have hold := hi fun env accepted hmem => hfail env accepted (List.mem_append_left _ hmem)
    cases systemNext_step hnext with
    | sensor a accepted sensor hsensor hquiet =>
      refine step_noReads hsensor (fun env heq => hfail env accepted ?_) hold
      rw [heq]
      exact List.mem_append_right _ List.mem_cons_self
    | publish accepted sensor message hsensor hpost => exact step_noReads hsensor (by simp) hold
    | _ => exact hold

theorem dhtReading_not_ready {env : DhtEnv} (hready : env.timerReady = false) : dhtReading env = none := by
  rw [dhtReading, dhtFailure_not_ready hready]
  rfl

/-- **A dead timer fails safe**: if the microsecond timer stands still while the start probes it, then in no order of
the tasks, whatever is pressed and whatever posts are lost, is LD1 driven, COOLING displayed, a
temperature displayed or a valid message posted. -/
theorem dead_timer_fails_safe (counter : Nat → UInt32) (hdead : ∀ k < appBusyWaitGuard, counter k = 0)
    (acts : List SystemAction) (s : System) (h : exec systemNext systemInit acts = some s)
    (hprobe : ∀ env accepted, .sensor (.dht env) accepted ∈ acts →
      env.timerReady = boardUsTimerIsRunning counter) (nowMs : UInt32) :
    (actuatorTaskIter s.actuator s.actuatorQ.head? nowMs).2.outputs.ld1 = false ∧
      (displayTaskIter s.display s.displayQ.head?).state ≠ .cooling ∧
      (displayTaskIter s.display s.displayQ.head?).temperatureValid = false ∧
      ∀ m, .post m ∈ s.sensor.log → m.valid = false := by
  have hstopped : boardUsTimerIsRunning counter = false := by
    by_contra hruns
    obtain ⟨k, hk, hne⟩ := (boardUsTimerIsRunning_iff counter).1 (by simpa using hruns)
    exact hne (hdead k hk)
  have hfail : ∀ env accepted, .sensor (.dht env) accepted ∈ acts → dhtReading env = none :=
    fun env accepted hmem => dhtReading_not_ready ((hprobe env accepted hmem).trans hstopped)
  have hnone := run_noReads h hfail
  have hcold : ¬ IsShown s .cooling := by
    intro hshown
    rcases states_from_passes h hshown with hoff | ⟨before, w, accepted, rest, t, hsplit, ht, hpc, hstate⟩
    · cases hoff
    · obtain ⟨temperatureC, hread, -⟩ := (pass_cause ht hpc hstate).warm
      have hbefore := run_noReads ht fun env accepted hmem =>
        hfail env accepted (hsplit ▸ List.mem_append_left _ hmem)
      exact hbefore.not_wasRead temperatureC hread
  have hdashes := run_dashes h hnone
  refine ⟨?_, fun hcool => hcold (@isShown_cooling s nowMs (.inr hcool)), ?_, fun m hm => ?_⟩
  · by_contra hlit
    exact hcold (isShown_cooling (.inl (by simpa using hlit)))
  · rcases head_or_current s.displayQ s.display with hcurrent | hqueued
    · exact (congrArg DisplayMsg.temperatureValid hcurrent).trans hdashes.display
    · exact hdashes.displayQ _ hqueued
  · by_contra hvalid
    exact hnone.not_wasRead _ (run_postsRead (exec_sensor h) m hm (by simpa using hvalid))

/-- A long press with the window open, and a timer that never counts. -/
theorem dead_timer_fails_safe_open : ∃ s, exec systemNext systemInit switchedOnOpen = some s ∧
    s.display.state = .windowSuspect ∧ (displayTaskIter s.display s.displayQ.head?).temperatureValid = false := by
  have hexec : exec systemNext systemInit switchedOnOpen = some _ := rfl
  have hdead : ∀ k < appBusyWaitGuard, (fun _ : Nat => (0 : UInt32)) k = 0 := fun _ _ => rfl
  have hprobe : ∀ env accepted, .sensor (.dht env) accepted ∈ switchedOnOpen →
      env.timerReady = boardUsTimerIsRunning fun _ => 0 := by
    intro env accepted hmem
    have hstopped : boardUsTimerIsRunning (fun _ => 0) = false := by
      by_contra hruns
      obtain ⟨k, -, hne⟩ := (boardUsTimerIsRunning_iff _).1 (by simpa using hruns)
      exact hne rfl
    obtain ⟨rfl, -⟩ : env = noTimer ∧ accepted = true := by simpa [switchedOnOpen] using hmem
    rw [hstopped]
    rfl
  exact ⟨_, hexec, rfl, (dead_timer_fails_safe _ hdead switchedOnOpen _ hexec hprobe 3020).2.2.1⟩

end SmartAc
