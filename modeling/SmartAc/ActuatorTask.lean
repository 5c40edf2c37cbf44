import Mathlib.Data.List.Induction
import SmartAc.Lib.Clock
import SmartAc.Lib.Machine
import SmartAc.Messages

/-!
# The actuator task and the buzzer: `app_tasks.c`, `app_actuator.c`

| here | there |
| --- | --- |
| `actuatorSetOutputs` | `Actuator_SetOutputs` (`app_actuator.c:8-38`), the levels it drives |
| `actuatorTaskInit`   | the locals of `ActuatorTask` (`app_tasks.c:319-324`) |
| `actuatorTaskIter`   | one pass of its loop (`app_tasks.c:326-344`) |

`buzzer_until_ms` is 0 at boot, is never cleared, and is compared by the sign of a 32-bit difference:
the buzzer sounds again in the second half of every wrap after the deadline. `deadline` is the real
time the variable stands for, `DeadlineFresh` the condition under which the comparison is right.
-/

namespace SmartAc

open Machine WrapClock

/-- The four outputs, `true` for active. -/
structure Outputs where
  ld1 : Bool
  ld2 : Bool
  ld3 : Bool
  buzzer : Bool
deriving DecidableEq, Repr

/-- `Actuator_SetOutputs` (`app_actuator.c:8`). -/
def actuatorSetOutputs (message : ActuatorMsg) (nowMs : UInt32) (buzzerClickActive : Bool) : Outputs where
  ld1 := message.state = .cooling
  ld2 := message.state = .manualOverride
  ld3 := match message.state with
    | .windowSuspect => nowMs % 1000 < 500
    | .acPaused => nowMs % 250 < 125
    | _ => false
  buzzer := buzzerClickActive

structure ActuatorTask where
  current : ActuatorMsg
  buzzerUntilMs : UInt32
deriving DecidableEq, Repr

def actuatorTaskInit : ActuatorTask where
  current := { state := .off, coolingLevel := 0, buzzerClick := false }
  buzzerUntilMs := 0

/-- The arguments of one `Actuator_SetOutputs` call. -/
structure SetOutputsCall where
  message : ActuatorMsg
  nowMs : UInt32
  buzzerClickActive : Bool
deriving DecidableEq, Repr

def SetOutputsCall.outputs (call : SetOutputsCall) : Outputs :=
  actuatorSetOutputs call.message call.nowMs call.buzzerClickActive

/-- One pass of the loop: what `OSQPend` returned and what `App_Millis` read. -/
def actuatorTaskIter (task : ActuatorTask) (received : Option ActuatorMsg) (now : UInt32) :
    ActuatorTask × SetOutputsCall :=
  let task : ActuatorTask := match received with
    | none => task
    | some m =>
      { current := m
        buzzerUntilMs := if m.buzzerClick then now + appBuzzerClickMs else task.buzzerUntilMs }
  (task, ⟨task.current, now, decide ((now - task.buzzerUntilMs).toInt32 < 0)⟩)

/-- One pass at real time `time`. -/
structure ActuatorWake where
  received : Option ActuatorMsg
  time : Nat
deriving DecidableEq, Repr

def actuatorTaskStep (task : ActuatorTask) (w : ActuatorWake) : ActuatorTask × SetOutputsCall :=
  actuatorTaskIter task w.received (reading w.time)

/-- The `Actuator_SetOutputs` call of pass `w` after the passes `past`, from the start of the task. -/
def callAfter (past : List ActuatorWake) (w : ActuatorWake) : SetOutputsCall :=
  (actuatorTaskStep (final actuatorTaskStep actuatorTaskInit past) w).2

/-! ## The deadline in real time -/

def ActuatorWake.clicks (w : ActuatorWake) : Bool := w.received.any (·.buzzerClick)

/-- 120 ms after the latest click, and 0 when there was none; the most recent pass comes first. -/
def deadline (passes : List ActuatorWake) : Nat :=
  ((passes.find? (·.clicks)).map (·.time + appBuzzerClickMs.toNat)).getD 0

theorem deadline_cons_click {w : ActuatorWake} (h : w.clicks = true) (passes : List ActuatorWake) :
    deadline (w :: passes) = w.time + appBuzzerClickMs.toNat := by
  simp [deadline, h]

theorem deadline_cons_none {w : ActuatorWake} (h : w.clicks = false) (passes : List ActuatorWake) :
    deadline (w :: passes) = deadline passes := by
  simp [deadline, h]

/-- **Step lemma**: a pass moves `buzzer_until_ms` with the deadline. -/
theorem step_deadline {task : ActuatorTask} {past : List ActuatorWake}
    (h : task.buzzerUntilMs = reading (deadline past)) (w : ActuatorWake) :
    (actuatorTaskStep task w).1.buzzerUntilMs = reading (deadline (w :: past)) := by
  cases hc : w.clicks with
  | true =>
    rw [deadline_cons_click hc, ← reading_add]
    unfold ActuatorWake.clicks at hc
    cases hr : w.received with
    | none => simp [hr] at hc
    | some m =>
      have hm : m.buzzerClick = true := by simpa [hr] using hc
      simp [actuatorTaskStep, actuatorTaskIter, hr, hm]
  | false =>
    rw [deadline_cons_none hc, ← h]
    unfold ActuatorWake.clicks at hc
    cases hr : w.received with
    | none => simp [actuatorTaskStep, actuatorTaskIter, hr]
    | some m =>
      have hm : m.buzzerClick = false := by simpa [hr] using hc
      simp [actuatorTaskStep, actuatorTaskIter, hr, hm]

/-- **Run lemma**: after every run `buzzer_until_ms` is the reading of the deadline. -/
theorem run_deadline (run : List ActuatorWake) :
    (final actuatorTaskStep actuatorTaskInit run).buzzerUntilMs = reading (deadline run.reverse) := by
  induction run using List.reverseRecOn with
  | nil => rfl
  | append_singleton run w ih =>
    rw [final_snoc, List.reverse_append]
    exact step_deadline ih w

theorem callAfter_active (past : List ActuatorWake) (w : ActuatorWake) :
    (callAfter past w).buzzerClickActive =
      decide ((reading w.time - reading (deadline (w :: past.reverse))).toInt32 < 0) := by
  rw [← step_deadline (run_deadline past) w]
  rfl

/-! ## The law of the buzzer -/

/-- A click was received less than 120 ms before `w`, at `w` or in an earlier pass. -/
def ClickedWithin (past : List ActuatorWake) (w : ActuatorWake) : Prop :=
  ∃ y ∈ past ++ [w], y.clicks = true ∧ w.time - y.time < appBuzzerClickMs.toNat

/-- The buzzer is active at pass `w` iff a click was received less than 120 ms before. -/
def BuzzerOnTime (past : List ActuatorWake) (w : ActuatorWake) : Prop :=
  (callAfter past w).buzzerClickActive = true ↔ ClickedWithin past w

/-- The deadline is ahead, or it has passed by less than half a wrap, up to whole wraps. -/
def DeadlineFresh (past : List ActuatorWake) (w : ActuatorWake) : Prop :=
  w.time < deadline (w :: past.reverse) ∨ (w.time - deadline (w :: past.reverse)) % 2 ^ 32 < 2 ^ 31

/-- In a run whose clock does not go back, only the latest click counts. -/
theorem clicked_iff_deadline {passes : List ActuatorWake} {t : Nat}
    (hback : passes.Pairwise fun w y => y.time ≤ w.time) (ht : ∀ w ∈ passes, w.time ≤ t) :
    (∃ y ∈ passes, y.clicks = true ∧ t - y.time < appBuzzerClickMs.toNat) ↔ t < deadline passes := by
  induction passes with
  | nil => simp [deadline]
  | cons w passes ih =>
    obtain ⟨hw, hback⟩ := List.pairwise_cons.1 hback
    have hwt : w.time ≤ t := ht w List.mem_cons_self
    cases hc : w.clicks with
    | true =>
      rw [deadline_cons_click hc]
      constructor
      · rintro ⟨y, hy, -, hlt⟩
        have hyw : y.time ≤ w.time := by
          rcases List.mem_cons.1 hy with rfl | hy
          · exact le_refl _
          · exact hw y hy
        have hyt : y.time ≤ t := ht y hy
        omega
      · intro hlt
        exact ⟨w, List.mem_cons_self, hc, by omega⟩
    | false =>
      rw [deadline_cons_none hc, ← ih hback fun y hy => ht y (List.mem_cons_of_mem _ hy)]
      constructor
      · rintro ⟨y, hy, hyc, hlt⟩
        rcases List.mem_cons.1 hy with rfl | hy
        · rw [hc] at hyc
          cases hyc
        · exact ⟨y, hy, hyc, hlt⟩
      · rintro ⟨y, hy, hyc, hlt⟩
        exact ⟨y, List.mem_cons_of_mem _ hy, hyc, hlt⟩

/-- A deadline ahead is at most 120 ms ahead. -/
theorem deadline_le {passes : List ActuatorWake} {t : Nat} (ht : ∀ w ∈ passes, w.time ≤ t) :
    deadline passes ≤ t + appBuzzerClickMs.toNat := by
  unfold deadline
  cases hf : passes.find? (·.clicks) with
  | none => simp
  | some y =>
    have := ht y (List.mem_of_find?_eq_some hf)
    simp only [Option.map_some, Option.getD_some]
    omega

/-- **The buzzer deadline**: at every pass of every run the law of the buzzer holds exactly when the
deadline is fresh. -/
theorem buzzer_on_time_iff (run : List ActuatorWake) (htime : run.Pairwise (·.time ≤ ·.time))
    (past : List ActuatorWake) (w : ActuatorWake) (rest : List ActuatorWake)
    (hrun : run = past ++ w :: rest) : BuzzerOnTime past w ↔ DeadlineFresh past w := by
  subst hrun
  have hsplit : past ++ w :: rest = (past ++ [w]) ++ rest := by simp
  rw [hsplit] at htime
  obtain ⟨hpre, -, -⟩ := List.pairwise_append.1 htime
  have hrev : w :: past.reverse = (past ++ [w]).reverse := by simp
  have hback : (w :: past.reverse).Pairwise fun w y => y.time ≤ w.time := by
    rw [hrev]
    exact List.pairwise_reverse.2 hpre
  have htimes (y : ActuatorWake) (hy : y ∈ w :: past.reverse) : y.time ≤ w.time := by
    rcases List.mem_cons.1 hy with rfl | hy
    · exact le_refl _
    · exact (List.pairwise_cons.1 hback).1 y hy
  have hclick : ClickedWithin past w ↔ w.time < deadline (w :: past.reverse) := by
    rw [← clicked_iff_deadline hback htimes]
    unfold ClickedWithin
    rw [hrev]
    simp only [List.mem_reverse]
  unfold BuzzerOnTime DeadlineFresh
  rw [hclick, callAfter_active, decide_eq_true_eq]
  by_cases hahead : w.time < deadline (w :: past.reverse)
  · have hle := deadline_le htimes
    have hshort : appBuzzerClickMs.toNat = 120 := rfl
    have hneg := sub_reading_neg_of_lt hahead (by omega)
    exact ⟨fun _ => .inl hahead, fun _ => ⟨fun _ => hahead, fun _ => hneg⟩⟩
  · rw [sub_reading_neg_iff (by omega)]
    omega

/-- One click: the pass 100 ms later is on time. -/
theorem buzzer_on_time_one_click : BuzzerOnTime [⟨some ⟨.idle, 0, true⟩, 1000⟩] ⟨none, 1100⟩ :=
  (buzzer_on_time_iff [⟨some ⟨.idle, 0, true⟩, 1000⟩, ⟨none, 1100⟩] (by decide) _ _ [] rfl).2
    (.inl (by decide))

/-- The first pass after half a wrap without a click sounds the buzzer. -/
theorem buzzer_sounds_unasked : ¬ ∀ run : List ActuatorWake, run.Pairwise (·.time ≤ ·.time) →
    ∀ past w rest, run = past ++ w :: rest → BuzzerOnTime past w := by
  intro h
  have hlaw := h [⟨none, 2 ^ 31⟩] (by decide) [] ⟨none, 2 ^ 31⟩ [] rfl
  have hactive : (callAfter [] ⟨none, 2 ^ 31⟩).buzzerClickActive = true := by decide +kernel
  obtain ⟨y, hy, hclick, -⟩ := hlaw.1 hactive
  rw [List.mem_singleton.1 hy] at hclick
  cases hclick

end SmartAc
