import SmartAc.ActuatorTask
import SmartAc.ControlTask
import SmartAc.Rings

/-!
# From `ControlTask` to the display and the actuator: `app_tasks.c`

| here | there |
| --- | --- |
| `displayTaskInit`, `displayTaskIter` | the message `DisplayTask` shows (`app_tasks.c:290-311`) |
| `Pipeline`                           | `ControlTask`, `DisplayQ`, `ActuatorQ` and the two consumers |
| `pipelineStep`                       | one pass of one of the three loops |

`last_output` is set whether or not the posts succeeded, so a change posted to a full queue is never
posted again: the consumer stays on an older message. `Fits` is the condition on a pass under which
nothing is lost, `newest` what a consumer will show once its queue is empty.

The queues are lists of messages here; `pipeline_rings` says that the slot rings carry them.
-/

namespace SmartAc

open Machine SlotRing

/-- The locals of `DisplayTask` before its loop. -/
def displayTaskInit : DisplayMsg where
  state := .off
  coolingLevel := 0
  currentTemperatureC := 0
  setpointC := appSetpointDefaultC
  temperatureValid := false

/-- One pass of the loop: the message it shows. -/
def displayTaskIter (current : DisplayMsg) (received : Option DisplayMsg) : DisplayMsg :=
  received.getD current

/-- `computed` is history: the last output of `Control_Step`. -/
structure Pipeline where
  control : ControlTask
  computed : Option ControlOutput
  displayQ : List DisplayMsg
  actuatorQ : List ActuatorMsg
  display : DisplayMsg
  actuator : ActuatorTask
deriving DecidableEq

def pipelineInit : Pipeline where
  control := controlTaskInit
  computed := none
  displayQ := []
  actuatorQ := []
  display := displayTaskInit
  actuator := actuatorTaskInit

/-- Whose loop makes the next pass. -/
inductive Turn where
  | control (w : ControlWake)
  | display
  | actuator (nowMs : UInt32)
deriving DecidableEq

/-- `ControlTask`'s pass: both posts, or none (`app_tasks.c:272-282`). -/
def controlTurn (p : Pipeline) (w : ControlWake) : Pipeline :=
  let (control, pass) := controlTaskIter p.control w
  match pass.post with
  | none => { p with control, computed := some pass.output }
  | some (output, buzzerClick) =>
    { p with
      control
      computed := some pass.output
      displayQ := fifoPost appQueueDepth p.displayQ (postDisplay output).value
      actuatorQ := fifoPost appQueueDepth p.actuatorQ (postActuator (output, buzzerClick)).value }

/-- One pass, with the `Actuator_SetOutputs` call it makes. -/
def pipelineStep (p : Pipeline) : Turn → Pipeline × Option SetOutputsCall
  | .control w => (controlTurn p w, none)
  | .display =>
    ({ p with displayQ := p.displayQ.tail, display := displayTaskIter p.display p.displayQ.head? }, none)
  | .actuator nowMs =>
    let (actuator, call) := actuatorTaskIter p.actuator p.actuatorQ.head? nowMs
    ({ p with actuatorQ := p.actuatorQ.tail, actuator }, some call)

/-- The pipeline after the passes `turns`, from the start of the tasks. -/
def pipelineAfter (turns : List Turn) : Pipeline := final pipelineStep pipelineInit turns

/-! ## What a pass posts -/

/-- A pass either posts its output to both queues, or its output is the one posted last. -/
theorem controlTurn_cases (p : Pipeline) (w : ControlWake) :
    ∃ output, (controlTurn p w).computed = some output ∧
      (controlTurn p w).control.lastOutput = some output ∧
      (controlTurn p w).display = p.display ∧ (controlTurn p w).actuator = p.actuator ∧
      ((∃ buzzerClick, (controlTaskIter p.control w).2.post = some (output, buzzerClick) ∧
          (controlTurn p w).displayQ = fifoPost appQueueDepth p.displayQ (postDisplay output).value ∧
          (controlTurn p w).actuatorQ =
            fifoPost appQueueDepth p.actuatorQ (postActuator (output, buzzerClick)).value) ∨
        ((controlTaskIter p.control w).2.post = none ∧ p.control.lastOutput = some output ∧
          (controlTurn p w).displayQ = p.displayQ ∧ (controlTurn p w).actuatorQ = p.actuatorQ)) := by
  unfold controlTurn controlTaskIter
  dsimp only
  generalize controlStep p.control.context (latestAfter p.control w) w.events w.nowMs = result
  obtain ⟨context, output⟩ := result
  refine ⟨output, ?_⟩
  cases hpost : needsPost p.control output (hasEvent w.events userEvtBuzzerClick) with
  | true => exact ⟨rfl, rfl, rfl, rfl, .inl ⟨_, rfl, rfl, rfl⟩⟩
  | false =>
    -- nothing was posted: no field differs from the last output
    have hlast : p.control.lastOutput = some output := by
      unfold needsPost at hpost
      cases hl : p.control.lastOutput with
      | none => simp [hl] at hpost
      | some last =>
        simp only [hl, outputChanged_eq, Bool.or_eq_false_iff, bne_eq_false_iff_eq] at hpost
        rw [hpost.2]
    exact ⟨rfl, hlast, rfl, rfl, .inr ⟨rfl, hlast, rfl, rfl⟩⟩

/-- `last_output` is the output computed last, posted or not. -/
theorem run_lastOutput (turns : List Turn) :
    (pipelineAfter turns).control.lastOutput = (pipelineAfter turns).computed := by
  refine final_inv (fun p : Pipeline => p.control.lastOutput = p.computed) (fun p turn _ h => ?_) rfl
  cases turn with
  | control w =>
    obtain ⟨output, hc, hl, -⟩ := controlTurn_cases p w
    exact hl.trans hc.symm
  | display => exact h
  | actuator nowMs => exact h

/-! ## The newest message -/

/-- The newest message on its way to a consumer: the last queued one, else the current one. -/
def newest {α : Type} (q : List α) (current : α) : α := q.getLast?.getD current

theorem newest_take {α : Type} (q : List α) (current : α) :
    newest q.tail (q.head?.getD current) = newest q current := by
  cases q with
  | nil => rfl
  | cons m q =>
    simp only [newest, List.tail_cons, List.head?_cons, Option.getD_some, List.getLast?_cons]

/-- A post that fits becomes the newest message, another one leaves it. -/
theorem newest_fifoPost {α : Type} (depth : Nat) (q : List α) (value current : α) :
    newest (fifoPost depth q value) current = if q.length < depth then value else newest q current := by
  unfold fifoPost
  split_ifs
  · simp [newest]
  · rfl

def DisplayMsg.agrees (m : DisplayMsg) (output : ControlOutput) : Prop :=
  m.state = output.state ∧ m.coolingLevel = output.coolingLevel ∧
    m.currentTemperatureC = output.currentTemperatureC ∧ m.setpointC = output.setpointC ∧
    m.temperatureValid = output.temperatureValid

def ActuatorMsg.agrees (m : ActuatorMsg) (output : ControlOutput) : Prop :=
  m.state = output.state ∧ m.coolingLevel = output.coolingLevel

theorem postDisplay_agrees (output : ControlOutput) : (postDisplay output).value.agrees output :=
  ⟨rfl, rfl, rfl, rfl, rfl⟩

theorem postActuator_agrees (request : ControlOutput × Bool) :
    (postActuator request).value.agrees request.1 :=
  ⟨rfl, rfl⟩

/-! ## No stale output -/

/-- Between two passes of `ControlTask`, a consumer with an empty queue is on the last output. -/
def NotStale (p : Pipeline) : Prop :=
  ∀ output, p.computed = some output →
    (p.displayQ = [] → p.display.agrees output) ∧
      (p.actuatorQ = [] → p.actuator.current.agrees output)

/-- The posts of a pass are not lost: each finds room, or a newest message that agrees with it. -/
def Fits (p : Pipeline) : Turn → Prop
  | .control w => ∀ output buzzerClick, (controlTaskIter p.control w).2.post = some (output, buzzerClick) →
    (p.displayQ.length < appQueueDepth ∨ (newest p.displayQ p.display).agrees output) ∧
      (p.actuatorQ.length < appQueueDepth ∨ (newest p.actuatorQ p.actuator.current).agrees output)
  | _ => True

/-- Every pass of the run fits. -/
def AllFit (turns : List Turn) : Prop :=
  ∀ before turn rest, turns = before ++ turn :: rest → Fits (pipelineAfter before) turn

/-- The newest messages agree with the last output. -/
def Current (p : Pipeline) : Prop :=
  ∀ output, p.computed = some output →
    (newest p.displayQ p.display).agrees output ∧
      (newest p.actuatorQ p.actuator.current).agrees output

theorem Current.notStale {p : Pipeline} (h : Current p) : NotStale p := by
  intro output hc
  obtain ⟨hd, ha⟩ := h output hc
  constructor
  · intro hq
    rwa [hq] at hd
  · intro hq
    rwa [hq] at ha

/-- **Step lemma**: a pass that fits keeps the newest messages current. -/
theorem step_current {p : Pipeline} (hlast : p.control.lastOutput = p.computed) (h : Current p)
    {turn : Turn} (hfit : Fits p turn) : Current (pipelineStep p turn).1 := by
  cases turn with
  | control w =>
    intro output hc
    change (controlTurn p w).computed = some output at hc
    change (newest (controlTurn p w).displayQ (controlTurn p w).display).agrees output ∧
      (newest (controlTurn p w).actuatorQ (controlTurn p w).actuator.current).agrees output
    obtain ⟨output', hc', -, hd, ha, hcases⟩ := controlTurn_cases p w
    rw [hc'] at hc
    cases hc
    rw [hd, ha]
    rcases hcases with ⟨buzzerClick, hpost, hdq, haq⟩ | ⟨-, hkept, hdq, haq⟩
    · obtain ⟨hfitd, hfita⟩ := hfit output buzzerClick hpost
      rw [hdq, haq, newest_fifoPost, newest_fifoPost]
      constructor
      · split_ifs with hroom
        · exact postDisplay_agrees output
        · exact hfitd.resolve_left hroom
      · split_ifs with hroom
        · exact postActuator_agrees (output, buzzerClick)
        · exact hfita.resolve_left hroom
    · rw [hdq, haq]
      exact h output (hlast.symm.trans hkept)
  | display =>
    intro output hc
    obtain ⟨hd, ha⟩ := h output hc
    refine ⟨?_, ha⟩
    change (newest p.displayQ.tail (p.displayQ.head?.getD p.display)).agrees output
    rwa [newest_take]
  | actuator nowMs =>
    intro output hc
    obtain ⟨hd, ha⟩ := h output hc
    refine ⟨hd, ?_⟩
    have hcur : (actuatorTaskIter p.actuator p.actuatorQ.head? nowMs).1.current =
        p.actuatorQ.head?.getD p.actuator.current := by
      cases p.actuatorQ.head? <;> rfl
    change (newest p.actuatorQ.tail
      (actuatorTaskIter p.actuator p.actuatorQ.head? nowMs).1.current).agrees output
    rwa [hcur, newest_take]

/-- **Run lemma**: in a run whose passes all fit the newest messages are current. -/
theorem run_current (turns : List Turn) (hfit : AllFit turns) : Current (pipelineAfter turns) := by
  induction turns using List.reverseRecOn with
  | nil =>
    intro output hc
    cases hc
  | append_singleton turns turn ih =>
    have hbefore : AllFit turns := fun before t rest hsplit =>
      hfit before t (rest ++ [turn]) (by simp [hsplit])
    rw [pipelineAfter, final_snoc]
    exact step_current (run_lastOutput turns) (ih hbefore) (hfit turns turn [] rfl)

/-- **No stale output, as long as no post is lost**: in every state of such a run. -/
theorem not_stale_of_fits (turns : List Turn) (hfit : AllFit turns) (reached : List Turn)
    (hreached : reached <+: turns) : NotStale (pipelineAfter reached) := by
  obtain ⟨later, rfl⟩ := hreached
  refine (run_current reached fun before turn rest hsplit => ?_).notStale
  exact hfit before turn (rest ++ later) (by simp [hsplit])

/-- A pass that powers the controller on, and one that moves the setpoint, both taken in. -/
theorem not_stale_of_fits_two_posts :
    NotStale (pipelineAfter [.control ⟨none, userEvtPower, 0⟩, .display,
      .control ⟨none, userEvtSetpointUp, 10⟩, .display, .actuator 20, .actuator 45]) := by
  refine not_stale_of_fits _ (fun before turn rest hsplit => ?_) _ (List.prefix_refl _)
  -- both queues are short at the two control passes
  rcases before with _ | ⟨_, _ | ⟨_, _ | ⟨_, before⟩⟩⟩ <;>
    simp only [List.nil_append, List.cons_append, List.cons.injEq] at hsplit
  · obtain ⟨rfl, -⟩ := hsplit
    exact fun _ _ _ => ⟨.inl (by decide +kernel), .inl (by decide +kernel)⟩
  · obtain ⟨-, rfl, -⟩ := hsplit
    exact trivial
  · obtain ⟨rfl, rfl, rfl, -⟩ := hsplit
    exact fun _ _ _ => ⟨.inl (by decide +kernel), .inl (by decide +kernel)⟩
  · obtain ⟨-, -, -, hsplit⟩ := hsplit
    have hmem : turn ∈ before ++ turn :: rest := by simp
    rw [← hsplit] at hmem
    simp only [List.mem_cons, List.not_mem_nil, or_false] at hmem
    rcases hmem with rfl | rfl | rfl <;> exact trivial

/-- Nine changes of the setpoint before the display's next pass: the last one is never shown. -/
def ninePosts : List Turn :=
  [.control ⟨none, 0, 0⟩, .control ⟨none, userEvtSetpointUp, 10⟩, .control ⟨none, userEvtSetpointUp, 20⟩,
    .control ⟨none, userEvtSetpointUp, 30⟩, .control ⟨none, userEvtSetpointUp, 40⟩,
    .control ⟨none, userEvtSetpointUp, 50⟩, .control ⟨none, userEvtSetpointUp, 60⟩,
    .control ⟨none, userEvtSetpointDown, 70⟩, .control ⟨none, userEvtSetpointDown, 80⟩]

theorem ninth_post_lost : ¬ ∀ turns : List Turn, NotStale (pipelineAfter turns) := by
  intro h
  have hstale := h (ninePosts ++ List.replicate 8 .display) ⟨.off, 0, 0, 28, false⟩ (by decide +kernel)
  have hset := (hstale.1 (by decide +kernel)).2.2.2.1
  revert hset
  decide +kernel

/-! ## A lost post stays lost -/

/-- The display takes in everything that is queued. -/
theorem drain_display (p : Pipeline) : ∃ turns, final pipelineStep p turns =
    { p with displayQ := [], display := newest p.displayQ p.display } := by
  obtain ⟨control, computed, displayQ, actuatorQ, display, actuator⟩ := p
  induction displayQ generalizing display with
  | nil => exact ⟨[], rfl⟩
  | cons m q ih =>
    obtain ⟨turns, hturns⟩ := ih m
    refine ⟨.display :: turns, ?_⟩
    rw [final_cons]
    refine hturns.trans ?_
    rw [← newest_take (m :: q) display]
    rfl

/-- The actuator takes in everything that is queued; the buzzer deadline may move on the way. -/
theorem drain_actuator (p : Pipeline) : ∃ turns, (final pipelineStep p turns).computed = p.computed ∧
    (final pipelineStep p turns).actuatorQ = [] ∧
    (final pipelineStep p turns).actuator.current = newest p.actuatorQ p.actuator.current := by
  obtain ⟨control, computed, displayQ, actuatorQ, display, actuator⟩ := p
  induction actuatorQ generalizing actuator with
  | nil => exact ⟨[], rfl, rfl, rfl⟩
  | cons m q ih =>
    obtain ⟨turns, hc, hq, hcur⟩ := ih (actuatorTaskIter actuator (some m) 0).1
    refine ⟨.actuator 0 :: turns, hc, hq, hcur.trans ?_⟩
    exact newest_take (m :: q) actuator.current

/-- A pass that does not fit leaves a consumer stale once that consumer has caught up. -/
theorem stale_of_not_fits {turns : List Turn} {turn : Turn} (h : ¬ Fits (pipelineAfter turns) turn) :
    ∃ later, ¬ NotStale (pipelineAfter (turns ++ turn :: later)) := by
  cases turn with
  | display => exact absurd trivial h
  | actuator nowMs => exact absurd trivial h
  | control w =>
    simp only [Fits, not_forall, not_and_or, not_or, Nat.not_lt] at h
    obtain ⟨output, buzzerClick, hpost, hlost⟩ := h
    obtain ⟨output', hc, -, hd, ha, hcases⟩ := controlTurn_cases (pipelineAfter turns) w
    rcases hcases with ⟨click, hpost', hdq, haq⟩ | ⟨hnone, -⟩
    case inr =>
      rw [hpost] at hnone
      cases hnone
    rw [hpost] at hpost'
    cases hpost'
    have hrun (later : List Turn) : pipelineAfter (turns ++ .control w :: later) =
        final pipelineStep (controlTurn (pipelineAfter turns) w) later := by
      rw [pipelineAfter, final_append, final_cons]
      rfl
    rcases hlost with ⟨hfull, hdiff⟩ | ⟨hfull, hdiff⟩
    · obtain ⟨later, hlater⟩ := drain_display (controlTurn (pipelineAfter turns) w)
      refine ⟨later, fun hok => hdiff ?_⟩
      rw [hrun, hlater] at hok
      have hshown := (hok output hc).1 rfl
      rwa [hdq, hd, newest_fifoPost, if_neg (by omega)] at hshown
    · obtain ⟨later, hlater, hq, hcur⟩ := drain_actuator (controlTurn (pipelineAfter turns) w)
      refine ⟨later, fun hok => hdiff ?_⟩
      rw [hrun] at hok
      have hshown := (hok output (hlater.trans hc)).2 hq
      rwa [hcur, haq, ha, newest_fifoPost, if_neg (by omega)] at hshown

/-! ## The queues are slot rings -/

/-- **Refinement**: for every run of the pipeline there are steps of the display's and the actuator's
slot rings that leave the same messages in flight. -/
theorem pipeline_rings (turns : List Turn) : ∃ displayActs actuatorActs displayRing actuatorRing,
    exec (queueNext .display) (queueStart .display) displayActs = some displayRing ∧
    exec (queueNext .actuator) (queueStart .actuator) actuatorActs = some actuatorRing ∧
    Holds appQueueDepth displayRing (pipelineAfter turns).displayQ ∧
    Holds appQueueDepth actuatorRing (pipelineAfter turns).actuatorQ := by
  induction turns using List.reverseRecOn with
  | nil => exact ⟨[], [], _, _, rfl, rfl, start_holds _, start_holds _⟩
  | append_singleton turns turn ih =>
    obtain ⟨da, aa, dr, ar, hd, ha, hdq, haq⟩ := ih
    rw [pipelineAfter, final_snoc]
    generalize hp : final pipelineStep pipelineInit turns = p
    rw [pipelineAfter, hp] at hdq haq
    cases turn with
    | control w =>
      obtain ⟨output, -, -, -, -, hcases⟩ := controlTurn_cases p w
      rcases hcases with ⟨click, -, hdq', haq'⟩ | ⟨-, -, hdq', haq'⟩
      · obtain ⟨dr', hd', hdr⟩ := hdq.post slots_suffice Queue.display.fill output
        obtain ⟨ar', ha', har⟩ := haq.post slots_suffice Queue.actuator.fill (output, click)
        refine ⟨_, _, dr', ar', exec_trans hd hd', exec_trans ha ha', ?_, ?_⟩
        · exact hdq' ▸ hdr
        · exact haq' ▸ har
      · exact ⟨da, aa, dr, ar, hd, ha, hdq' ▸ hdq, haq' ▸ haq⟩
    | display =>
      obtain ⟨dr', hd', hdr, -⟩ := hdq.take slots_suffice Queue.display.fill
      exact ⟨_, aa, dr', ar, exec_trans hd hd', ha, hdr, haq⟩
    | actuator nowMs =>
      obtain ⟨ar', ha', har, -⟩ := haq.take slots_suffice Queue.actuator.fill
      exact ⟨da, _, dr, ar', hd, exec_trans ha ha', hdq, har⟩

end SmartAc
