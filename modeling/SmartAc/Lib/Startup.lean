import Mathlib.Data.List.Nodup
import SmartAc.Lib.Machine

/-!
# Tasks that run while the rest is being set up

A starter makes objects and starts tasks, one call after the other. A task runs from its start on, so that
it may come between any two of the calls that follow; one whose start fails never runs. `safe` reads the calls
once, without a run, and checks that whatever is used is made by then: `Inv.objects`, `Inv.blocks`.

An object has some content before it is made. What a task does depends on that content only for the objects
it uses (`Frames`), so that nothing of it can be seen in a run: `exec_refines`.
-/

namespace Startup

open Machine

variable {ρ τ σ α : Type}

/-- What the tasks do: their steps on a common state, and what a step needs. -/
structure Tasks (ρ τ σ α : Type) where
  next : σ → α → Option σ
  /-- `none` for an interrupt, which may come at any time. -/
  owner : α → Option τ
  objects : α → List ρ
  /-- The tasks to whose control blocks a step refers. -/
  blocks : α → List τ
  /-- What making an object does to it. -/
  make : ρ → σ → σ
  /-- All objects that a task needs, and all tasks to which it refers. -/
  uses : τ → List ρ
  refers : τ → List τ
  owned : ∀ a t, owner a = some t → objects a ⊆ uses t ∧ blocks a ⊆ refers t
  interrupt : ∀ a, owner a = none → objects a = [] ∧ blocks a = []

/-- A call of the starter. A start makes the control block of the task; it may fail, which uses `onFail`. -/
inductive Call (ρ τ : Type) where
  | make (r : ρ)
  | use (rs : List ρ)
  | start (t : τ) (onFail : List ρ)

/-- `tried` are the tasks whose start was called, and `running` those whose start succeeded: they have a
control block. -/
structure State (ρ τ σ : Type) where
  rest : List (Call ρ τ)
  made : List ρ
  tried : List τ
  running : List τ
  tasks : σ

def start (calls : List (Call ρ τ)) (tasks : σ) : State ρ τ σ := ⟨calls, [], [], [], tasks⟩

/-- The start of the task failed. -/
def State.Failed (s : State ρ τ σ) (t : τ) : Prop := t ∈ s.tried ∧ t ∉ s.running

/-- The next call of the starter, which says whether a start succeeds, or a step of a task. -/
inductive Action (α : Type) where
  | call (ok : Bool)
  | work (a : α)

section
variable [DecidableEq τ] (p : Tasks ρ τ σ α)

def next (s : State ρ τ σ) : Action α → Option (State ρ τ σ)
  | .call ok =>
    match s.rest with
    | [] => none
    | .make r :: rest => some { s with rest, made := r :: s.made, tasks := p.make r s.tasks }
    | .use _ :: rest => some { s with rest }
    | .start t _ :: rest =>
      some { s with rest, tried := t :: s.tried, running := if ok then t :: s.running else s.running }
  | .work a =>
    if (p.owner a).all (· ∈ s.running) then (p.next s.tasks a).map fun tasks => { s with tasks } else none

/-- The objects that a step uses. -/
def objectsOf (s : State ρ τ σ) : Action α → List ρ
  | .call ok =>
    match s.rest with
    | .use rs :: _ => rs
    | .start _ onFail :: _ => if ok then [] else onFail
    | _ => []
  | .work a => p.objects a

/-- The tasks to whose control blocks a step refers. -/
def blocksOf : Action α → List τ
  | .call _ => []
  | .work a => p.blocks a

variable {p}

/-- What one step can do. -/
inductive Step (p : Tasks ρ τ σ α) (s : State ρ τ σ) : Action α → State ρ τ σ → Prop
  | make {r : ρ} {rest : List (Call ρ τ)} (ok : Bool) (hrest : s.rest = .make r :: rest) :
      Step p s (.call ok) { s with rest, made := r :: s.made, tasks := p.make r s.tasks }
  | use {rs : List ρ} {rest : List (Call ρ τ)} (ok : Bool) (hrest : s.rest = .use rs :: rest) :
      Step p s (.call ok) { s with rest }
  | started {t : τ} {onFail : List ρ} {rest : List (Call ρ τ)} (hrest : s.rest = .start t onFail :: rest) :
      Step p s (.call true) { s with rest, tried := t :: s.tried, running := t :: s.running }
  | failed {t : τ} {onFail : List ρ} {rest : List (Call ρ τ)} (hrest : s.rest = .start t onFail :: rest) :
      Step p s (.call false) { s with rest, tried := t :: s.tried }
  | work {a : α} {tasks : σ} (howner : ∀ t, p.owner a = some t → t ∈ s.running)
      (hnext : p.next s.tasks a = some tasks) : Step p s (.work a) { s with tasks }

theorem next_step {s s' : State ρ τ σ} {a : Action α} (h : next p s a = some s') : Step p s a s' := by
  cases a with
  | call ok =>
    simp only [next] at h
    split at h <;> cases h
    · exact .make ok ‹_›
    · exact .use ok ‹_›
    · cases ok with
      | true => exact .started ‹_›
      | false => exact .failed ‹_›
  | work a =>
    simp only [next] at h
    split_ifs at h with howner
    obtain ⟨tasks, hnext, rfl⟩ := Option.map_eq_some_iff.1 h
    exact .work (fun t ht => by simpa [ht] using howner) hnext

/-! ## Each object is made once -/

def makes (calls : List (Call ρ τ)) : List ρ :=
  calls.filterMap fun
    | .make r => some r
    | _ => none

def starts (calls : List (Call ρ τ)) : List τ :=
  calls.filterMap fun
    | .start t _ => some t
    | _ => none

theorem exec_makes {calls : List (Call ρ τ)} {tasks : σ} {acts : List (Action α)} {s : State ρ τ σ}
    (h : exec (next p) (start calls tasks) acts = some s) : s.made.reverse ++ makes s.rest = makes calls := by
  refine exec_inv (fun s => s.made.reverse ++ makes s.rest = makes calls) ?_ rfl h
  intro s a s' hi hnext
  rw [← hi]
  cases next_step hnext with
  | make ok hrest => simp [makes, hrest]
  | use ok hrest => simp [makes, hrest]
  | started hrest => simp [makes, hrest]
  | failed hrest => simp [makes, hrest]
  | work howner hnext => rfl

theorem exec_starts {calls : List (Call ρ τ)} {tasks : σ} {acts : List (Action α)} {s : State ρ τ σ}
    (h : exec (next p) (start calls tasks) acts = some s) : s.tried.reverse ++ starts s.rest = starts calls := by
  refine exec_inv (fun s => s.tried.reverse ++ starts s.rest = starts calls) ?_ rfl h
  intro s a s' hi hnext
  rw [← hi]
  cases next_step hnext with
  | make ok hrest => simp [starts, hrest]
  | use ok hrest => simp [starts, hrest]
  | started hrest => simp [starts, hrest]
  | failed hrest => simp [starts, hrest]
  | work howner hnext => rfl

theorem exec_made_nodup {calls : List (Call ρ τ)} (hnodup : (makes calls).Nodup) {tasks : σ}
    {acts : List (Action α)} {s : State ρ τ σ} (h : exec (next p) (start calls tasks) acts = some s) :
    s.made.Nodup := by
  rw [← exec_makes h, List.nodup_append] at hnodup
  exact List.nodup_reverse.1 hnodup.1

theorem exec_tried_nodup {calls : List (Call ρ τ)} (hnodup : (starts calls).Nodup) {tasks : σ}
    {acts : List (Action α)} {s : State ρ τ σ} (h : exec (next p) (start calls tasks) acts = some s) :
    s.tried.Nodup := by
  rw [← exec_starts h, List.nodup_append] at hnodup
  exact List.nodup_reverse.1 hnodup.1

/-! ## The check -/

variable [DecidableEq ρ]

/-- The check: a task may use all its objects from its start on, and refers to tasks whose start was tried. -/
def safe (p : Tasks ρ τ σ α) : List ρ → List τ → List (Call ρ τ) → Bool
  | _, _, [] => true
  | made, tried, .make r :: rest => safe p (r :: made) tried rest
  | made, tried, .use rs :: rest => rs.all (· ∈ made) && safe p made tried rest
  | made, tried, .start t onFail :: rest =>
    onFail.all (· ∈ made) && (p.uses t).all (· ∈ made) && (p.refers t).all (· ∈ t :: tried) &&
      safe p made (t :: tried) rest

/-- The calls to come pass the check, and the tasks that run find what they use. -/
structure Inv (p : Tasks ρ τ σ α) (s : State ρ τ σ) : Prop where
  rest : safe p s.made s.tried s.rest = true
  uses : ∀ t ∈ s.running, p.uses t ⊆ s.made
  refers : ∀ t ∈ s.running, p.refers t ⊆ s.tried

omit [DecidableEq τ] in
theorem all_made {rs made : List ρ} (h : (rs.all (· ∈ made)) = true) : rs ⊆ made :=
  fun r hr => of_decide_eq_true (List.all_eq_true.1 h r hr)

/-- **Step lemma**. -/
theorem step_inv {s s' : State ρ τ σ} {a : Action α} (hi : Inv p s) (h : Step p s a s') : Inv p s' := by
  obtain ⟨hrest, huses, hrefers⟩ := hi
  cases h with
  | make ok heq =>
    rw [heq] at hrest
    exact ⟨hrest, fun t ht r hr => List.mem_cons_of_mem _ (huses t ht hr), hrefers⟩
  | use ok heq =>
    rw [heq, safe, Bool.and_eq_true] at hrest
    exact ⟨hrest.2, huses, hrefers⟩
  | @started t onFail rest heq =>
    simp only [heq, safe, Bool.and_eq_true] at hrest
    obtain ⟨⟨⟨-, hobjects⟩, hblocks⟩, hsafe⟩ := hrest
    refine ⟨hsafe, fun t' ht' => ?_, fun t' ht' => ?_⟩
    · rcases List.mem_cons.1 ht' with rfl | ht'
      · exact all_made hobjects
      · exact huses t' ht'
    · rcases List.mem_cons.1 ht' with rfl | ht'
      · exact all_made hblocks
      · exact fun u hu => List.mem_cons_of_mem _ (hrefers t' ht' hu)
  | @failed t onFail rest heq =>
    simp only [heq, safe, Bool.and_eq_true] at hrest
    exact ⟨hrest.2, huses, fun t' ht' u hu => List.mem_cons_of_mem _ (hrefers t' ht' hu)⟩
  | work howner hnext => exact ⟨hrest, huses, hrefers⟩

theorem exec_startup {calls : List (Call ρ τ)} {tasks : σ} (hsafe : safe p [] [] calls = true)
    {acts : List (Action α)} {s : State ρ τ σ} (h : exec (next p) (start calls tasks) acts = some s) : Inv p s :=
  exec_inv (Inv p) (fun _ _ _ hi hnext => step_inv hi (next_step hnext))
    ⟨hsafe, by simp [start], by simp [start]⟩ h

/-- What a step uses is made. -/
theorem Inv.objects {s s' : State ρ τ σ} (hi : Inv p s) {a : Action α} (h : Step p s a s') :
    objectsOf p s a ⊆ s.made := by
  have hrest := hi.rest
  cases h with
  | make ok heq => simp [objectsOf, heq]
  | use ok heq =>
    rw [heq, safe, Bool.and_eq_true] at hrest
    simpa only [objectsOf, heq] using all_made hrest.1
  | started heq => simp [objectsOf, heq]
  | failed heq =>
    simp only [heq, safe, Bool.and_eq_true] at hrest
    simpa only [objectsOf, heq, Bool.false_eq_true, if_false] using all_made hrest.1.1.1
  | @work a tasks howner hnext =>
    cases ht : p.owner a with
    | none => simp [objectsOf, (p.interrupt a ht).1]
    | some t => exact fun r hr => hi.uses t (howner t ht) ((p.owned a t ht).1 hr)

/-- The start of a task to which a step refers was tried. -/
theorem Inv.blocks {s s' : State ρ τ σ} (hi : Inv p s) {a : Action α} (h : Step p s a s') :
    blocksOf p a ⊆ s.tried := by
  cases h with
  | @work a tasks howner hnext =>
    cases ht : p.owner a with
    | none => simp [blocksOf, (p.interrupt a ht).2]
    | some t => exact fun u hu => hi.refers t (howner t ht) ((p.owned a t ht).2 hu)
  | _ => simp [blocksOf]

/-! ## What is there before an object is made -/

/-- `mix made s junk` is `s` but for the objects not made, which are as in `junk`: a step neither reads nor
changes an object that it does not use. -/
structure Frames (p : Tasks ρ τ σ α) (mix : List ρ → σ → σ → σ) : Prop where
  make : ∀ r made s junk, p.make r (mix made s junk) = mix (r :: made) (p.make r s) junk
  next : ∀ a made s junk, p.objects a ⊆ made →
    p.next (mix made s junk) a = (p.next s a).map fun s' => mix made s' junk
  fresh : ∀ a r s s', r ∉ p.objects a → p.make r s = s → p.next s a = some s' → p.make r s' = s'

/-- The steps of the tasks in a run. -/
def works (acts : List (Action α)) : List α :=
  acts.filterMap fun
    | .work a => some a
    | .call _ => none

theorem works_snoc (acts : List (Action α)) (a : Action α) :
    works (acts ++ [a]) = works acts ++ works [a] := by
  rw [works, List.filterMap_append]
  rfl

/-- **Refinement**: whatever the objects hold before they are made, the tasks do what they would do if all had
been made before the first of them started. -/
theorem exec_refines {mix : List ρ → σ → σ → σ} (hf : Frames p mix) {init junk : σ}
    (hinit : ∀ r, p.make r init = init) {calls : List (Call ρ τ)} (hsafe : safe p [] [] calls = true)
    (hnodup : (makes calls).Nodup) {acts : List (Action α)} {s : State ρ τ σ}
    (h : exec (next p) (start calls (mix [] init junk)) acts = some s) :
    ∃ t, exec p.next init (works acts) = some t ∧ s.tasks = mix s.made t junk := by
  suffices hrun : ∃ t, exec p.next init (works acts) = some t ∧ s.tasks = mix s.made t junk ∧
      ∀ r, r ∉ s.made → p.make r t = t by
    obtain ⟨t, ht, htasks, -⟩ := hrun
    exact ⟨t, ht, htasks⟩
  refine exec_history (fun acts s => ∃ t, exec p.next init (works acts) = some t ∧ s.tasks = mix s.made t junk ∧
    ∀ r, r ∉ s.made → p.make r t = t) ⟨init, rfl, rfl, fun r _ => hinit r⟩ ?_ h
  rintro acts s a s' hexec ⟨t, ht, htasks, hfresh⟩ hnext
  have hsnoc : exec (Startup.next p) (start calls (mix [] init junk)) (acts ++ [a]) = some s' := by
    simp [exec_append, hexec, exec, hnext]
  have hmade := exec_made_nodup hnodup hsnoc
  have hobjects := (exec_startup hsafe hexec).objects (next_step hnext)
  rw [works_snoc]
  cases next_step hnext with
  | @make r rest ok hrest =>
    -- nobody has used it yet
    have hr : p.make r t = t := hfresh r (List.nodup_cons.1 hmade).1
    refine ⟨t, by simpa [works] using ht, ?_, fun r' hr' => hfresh r' fun hmem => hr' (List.mem_cons_of_mem _ hmem)⟩
    change p.make r s.tasks = mix (r :: s.made) t junk
    rw [htasks, hf.make, hr]
  | use ok hrest => exact ⟨t, by simpa [works] using ht, htasks, hfresh⟩
  | started hrest => exact ⟨t, by simpa [works] using ht, htasks, hfresh⟩
  | failed hrest => exact ⟨t, by simpa [works] using ht, htasks, hfresh⟩
  | @work a tasks howner hwork =>
    rw [htasks, hf.next a _ _ _ hobjects] at hwork
    obtain ⟨t', ht', rfl⟩ := Option.map_eq_some_iff.1 hwork
    refine ⟨t', exec_trans ht (by simp [works, exec, ht']), rfl, fun r hr => ?_⟩
    exact hf.fresh a r t t' (fun hmem => hr (hobjects hmem)) (hfresh r hr) ht'

end

end Startup
