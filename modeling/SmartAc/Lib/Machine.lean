import Mathlib.Data.List.Forall2
import Mathlib.Data.List.Induction

/-!
# Deterministic machines and their runs

A machine is a function `step : σ → ι → σ × ο`: a state, an input, the next state and an output.
`final` is the state after a list of inputs and `outputs` what it put out on the way. The rules
below lift a property of one step to every run: `final_inv` for an invariant, `run_rel` for
two runs side by side. `exec` is the same for a partial step (an interleaving
where an action may not be enabled).
-/

namespace Machine

variable {σ ι ο : Type*}

section total
variable (step : σ → ι → σ × ο)

/-- The state after the inputs `ins`. -/
def final (s : σ) (ins : List ι) : σ := ins.foldl (fun s i => (step s i).1) s

/-- What the machine puts out, one output for each input. -/
def outputs : σ → List ι → List ο
  | _, [] => []
  | s, i :: is => (step s i).2 :: outputs (step s i).1 is

@[simp] theorem final_nil (s : σ) : final step s [] = s := rfl

@[simp] theorem final_cons (s : σ) (i : ι) (is : List ι) :
    final step s (i :: is) = final step (step s i).1 is := rfl

theorem final_append (s : σ) (is js : List ι) :
    final step s (is ++ js) = final step (final step s is) js := by
  simp [final]

@[simp] theorem final_snoc (s : σ) (is : List ι) (i : ι) :
    final step s (is ++ [i]) = (step (final step s is) i).1 := by
  simp [final_append]

@[simp] theorem outputs_nil (s : σ) : outputs step s [] = [] := rfl

@[simp] theorem outputs_cons (s : σ) (i : ι) (is : List ι) :
    outputs step s (i :: is) = (step s i).2 :: outputs step (step s i).1 is := rfl

theorem outputs_append (s : σ) (is js : List ι) :
    outputs step s (is ++ js) = outputs step s is ++ outputs step (final step s is) js := by
  induction is generalizing s with
  | nil => rfl
  | cons i is ih => simp [ih]

variable {step}

/-- **Invariant rule**: what one step on an input of the run preserves holds after the run. -/
theorem final_inv (P : σ → Prop) {ins : List ι} (hstep : ∀ s, ∀ i ∈ ins, P s → P (step s i).1)
    {s : σ} (h0 : P s) : P (final step s ins) :=
  List.foldlRecOn ins _ h0 fun b hb a ha => hstep b a ha hb

variable {σ' ι' ο' : Type*} {step' : σ' → ι' → σ' × ο'}

/-- **Two-run rule**: inputs related by `E` keep the states related by `R` and the outputs of
every step by `Q`. -/
theorem run_rel (R : σ → σ' → Prop) (E : ι → ι' → Prop) (Q : ο → ο' → Prop)
    (hstep : ∀ s s' i i', R s s' → E i i' →
      R (step s i).1 (step' s' i').1 ∧ Q (step s i).2 (step' s' i').2)
    {ins : List ι} {ins' : List ι'} (hins : List.Forall₂ E ins ins') :
    ∀ {s : σ} {s' : σ'}, R s s' →
      R (final step s ins) (final step' s' ins') ∧
        List.Forall₂ Q (outputs step s ins) (outputs step' s' ins') := by
  induction hins with
  | nil => intro _ _ h; exact ⟨h, .nil⟩
  | cons hi _ ih =>
    intro s s' h
    obtain ⟨hR, hQ⟩ := hstep s s' _ _ h hi
    obtain ⟨hfin, hout⟩ := ih hR
    exact ⟨hfin, .cons hQ hout⟩

end total

section partialStep
variable {α : Type*} (next : σ → α → Option σ)

/-- Run a partial step over a list of actions; `none` when one of them is not enabled. -/
def exec : σ → List α → Option σ
  | s, [] => some s
  | s, a :: as => (next s a).bind fun s' => exec s' as

/-- What a run does, seen through `label`, a step after the other; it ends where an action is not enabled. -/
def labels {β : Type*} (label : σ → α → Option β) : σ → List α → List β
  | _, [] => []
  | s, a :: as => (label s a).toList ++ ((next s a).map fun s' => labels label s' as).getD []

theorem exec_append (s : σ) (as bs : List α) :
    exec next s (as ++ bs) = (exec next s as).bind fun s' => exec next s' bs := by
  induction as generalizing s with
  | nil => rfl
  | cons a as ih =>
    cases h : next s a with
    | none => simp [exec, h]
    | some s' => simp [exec, h, ih]

variable {next}

theorem exec_cons {s t u : σ} {a : α} {as : List α} (h : next s a = some t)
    (h' : exec next t as = some u) : exec next s (a :: as) = some u := by
  rw [exec, h, Option.bind_some, h']

theorem exec_trans {s t u : σ} {as bs : List α} (h : exec next s as = some t)
    (h' : exec next t bs = some u) : exec next s (as ++ bs) = some u := by
  rw [exec_append, h, Option.bind_some, h']

/-- **Invariant rule** for interleavings. -/
theorem exec_inv (P : σ → Prop) (hstep : ∀ s a s', P s → next s a = some s' → P s') :
    ∀ {as : List α} {s t : σ}, P s → exec next s as = some t → P t
  | [], _, _, h0, h => by cases h; exact h0
  | a :: as, s, t, h0, h => by
    obtain ⟨s', hs, ht⟩ := Option.bind_eq_some_iff.1 h
    exact exec_inv P hstep (hstep s a s' h0 hs) ht

theorem labels_append {β : Type*} (label : σ → α → Option β) {s t : σ} {as : List α} (bs : List α)
    (h : exec next s as = some t) :
    labels next label s (as ++ bs) = labels next label s as ++ labels next label t bs := by
  induction as generalizing s with
  | nil =>
    cases h
    rfl
  | cons a as ih =>
    obtain ⟨s', hs, ht⟩ := Option.bind_eq_some_iff.1 h
    simp [labels, hs, ih ht]

theorem labels_snoc {β : Type*} (label : σ → α → Option β) {s t : σ} {as : List α} (a : α)
    (h : exec next s as = some t) :
    labels next label s (as ++ [a]) = labels next label s as ++ (label t a).toList := by
  rw [labels_append label [a] h]
  cases hnext : next t a <;> simp [labels, hnext]

/-- **Projection rule**: where every step is, seen through `proj`, the step that `label` names or none at
all, a run is seen as the run of its labels. -/
theorem exec_project {τ β : Type*} {next' : τ → β → Option τ} (proj : σ → τ) (label : σ → α → Option β)
    (hstep : ∀ s a s', next s a = some s' → exec next' (proj s) (label s a).toList = some (proj s')) :
    ∀ {as : List α} {s t : σ}, exec next s as = some t →
      exec next' (proj s) (labels next label s as) = some (proj t)
  | [], _, _, h => by cases h; rfl
  | a :: as, s, t, h => by
    obtain ⟨s', hs, ht⟩ := Option.bind_eq_some_iff.1 h
    have hrest := exec_project proj label hstep ht
    rw [labels, hs]
    exact exec_trans (hstep s a s' hs) hrest

/-- A run ends with a step from where the rest of it led. -/
theorem exec_snoc {s u : σ} {as : List α} {a : α} (h : exec next s (as ++ [a]) = some u) :
    ∃ t, exec next s as = some t ∧ next t a = some u := by
  rw [exec_append] at h
  obtain ⟨t, ht, hlast⟩ := Option.bind_eq_some_iff.1 h
  exact ⟨t, ht, by simpa [exec] using hlast⟩

/-- **Invariant rule** for a run and the actions it took, the last one last. -/
theorem exec_history (P : List α → σ → Prop) {s : σ} (h0 : P [] s)
    (hstep : ∀ as t a u, exec next s as = some t → P as t → next t a = some u → P (as ++ [a]) u)
    {as : List α} {t : σ} (h : exec next s as = some t) : P as t := by
  induction as using List.reverseRecOn generalizing t with
  | nil =>
    cases h
    exact h0
  | append_singleton as a ih =>
    obtain ⟨u, hu, ht⟩ := exec_snoc h
    exact hstep as u a t hu (ih hu) ht

end partialStep

end Machine
