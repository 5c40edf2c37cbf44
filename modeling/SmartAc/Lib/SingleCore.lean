import Mathlib.Data.List.Induction
import Mathlib.Logic.Function.Basic
import SmartAc.Lib.Machine

/-!
# One core, many tasks, one level of interrupts

Tasks and interrupt handlers share a memory on one core. A handler starts only while interrupts are not
masked, runs to its end before any task does, and no task is switched to while they are masked; the
hardware changes the memory at any time. Everything happens statement by statement.

`SavesMask` is the shape of a critical section: save the mask, set it, work, put the saved one back.
`Guarded` is what it keeps over every interleaving: a task inside runs alone (`Guarded.exclusive`), and a
task outside finds the mask as the tasks themselves have set it (`Guarded.free`).
-/

namespace SingleCore

open Machine

variable {τ σ μ κ ν ε : Type*}

/-- The code: `τ` are the tasks, `σ` where one is in it with its locals, `μ` the memory, `κ` the statements of
the handlers, `ν` the interrupts, `ε` what the hardware does. -/
structure Program (τ σ μ κ ν ε : Type*) where
  handler : ν → List κ
  /-- A statement of a handler: what is left to run, of what follows it, and the memory. -/
  handle : κ → List κ → μ → List κ × μ
  hardware : ε → μ → μ
  /-- A statement of a task, on its locals, the mask and the memory. -/
  run : τ → σ → Bool → μ → σ × Bool × μ
  /-- Outside of this code, where the task may set the mask as it likes. -/
  free : σ → Bool

structure Core (τ σ μ κ : Type*) where
  masked : Bool
  running : τ
  locals : τ → σ
  handling : List κ
  memory : μ

inductive Action (τ ν ε : Type*) where
  | hardware (e : ε)
  | interrupt (v : ν)
  | handle
  | switch (t : τ)
  | mask (on : Bool)
  | run

def maskAfter (own : Bool) : Action τ ν ε → Bool
  | .mask on => on
  | _ => own

/-- The mask that the tasks themselves have set last. -/
def ownMask (acts : List (Action τ ν ε)) : Bool := acts.foldl maskAfter false

theorem ownMask_snoc (acts : List (Action τ ν ε)) (a : Action τ ν ε) :
    ownMask (acts ++ [a]) = maskAfter (ownMask acts) a := by
  simp only [ownMask, List.foldl_append, List.foldl_cons, List.foldl_nil]

section next
variable [DecidableEq τ] (p : Program τ σ μ κ ν ε)

def next (s : Core τ σ μ κ) : Action τ ν ε → Option (Core τ σ μ κ)
  | .hardware e => some { s with memory := p.hardware e s.memory }
  | .interrupt v => if !s.masked && s.handling.isEmpty then some { s with handling := p.handler v } else none
  | .handle =>
    match s.handling with
    | [] => none
    | k :: ks => some { s with handling := (p.handle k ks s.memory).1, memory := (p.handle k ks s.memory).2 }
  | .switch t => if !s.masked && s.handling.isEmpty then some { s with running := t } else none
  | .mask on =>
    if s.handling.isEmpty && p.free (s.locals s.running) then some { s with masked := on } else none
  | .run =>
    if s.handling.isEmpty then
      let (l, masked, memory) := p.run s.running (s.locals s.running) s.masked s.memory
      some { s with locals := Function.update s.locals s.running l, masked, memory }
    else none

variable {p} {s s' : Core τ σ μ κ}

theorem next_interrupt {v : ν} (h : next p s (.interrupt v) = some s') :
    s.masked = false ∧ s.handling = [] ∧ s' = { s with handling := p.handler v } := by
  simp only [next, Option.ite_none_right_eq_some, Bool.and_eq_true, Bool.not_eq_true', List.isEmpty_iff,
    Option.some.injEq] at h
  exact ⟨h.1.1, h.1.2, h.2.symm⟩

theorem next_handle (h : next p s .handle = some s') : ∃ k ks, s.handling = k :: ks ∧
    s' = { s with handling := (p.handle k ks s.memory).1, memory := (p.handle k ks s.memory).2 } := by
  simp only [next] at h
  cases hks : s.handling with
  | nil =>
    rw [hks] at h
    cases h
  | cons k ks =>
    rw [hks] at h
    exact ⟨k, ks, rfl, (Option.some.inj h).symm⟩

theorem next_switch {t : τ} (h : next p s (.switch t) = some s') :
    s.masked = false ∧ s.handling = [] ∧ s' = { s with running := t } := by
  simp only [next, Option.ite_none_right_eq_some, Bool.and_eq_true, Bool.not_eq_true', List.isEmpty_iff,
    Option.some.injEq] at h
  exact ⟨h.1.1, h.1.2, h.2.symm⟩

theorem next_mask {on : Bool} (h : next p s (.mask on) = some s') :
    s.handling = [] ∧ p.free (s.locals s.running) = true ∧ s' = { s with masked := on } := by
  simp only [next, Option.ite_none_right_eq_some, Bool.and_eq_true, List.isEmpty_iff, Option.some.injEq] at h
  exact ⟨h.1.1, h.1.2, h.2.symm⟩

theorem next_run (h : next p s .run = some s') : s.handling = [] ∧
    s' = { s with
      locals := Function.update s.locals s.running (p.run s.running (s.locals s.running) s.masked s.memory).1
      masked := (p.run s.running (s.locals s.running) s.masked s.memory).2.1
      memory := (p.run s.running (s.locals s.running) s.masked s.memory).2.2 } := by
  simp only [next, Option.ite_none_right_eq_some, List.isEmpty_iff, Option.some.injEq] at h
  exact ⟨h.1, h.2.symm⟩

end next

/-! ## The critical section -/

/-- Where a task is in it, with the mask it has saved. -/
inductive Phase where
  | free
  | saved (mask : Bool)
  | inside (mask : Bool)
deriving DecidableEq

/-- One statement of it, with the mask before and after. -/
inductive PhaseStep : Phase → Bool → Phase → Bool → Prop where
  | save (m : Bool) : PhaseStep .free m (.saved m) m
  | enter (mask m : Bool) : PhaseStep (.saved mask) m (.inside mask) true
  | stay (mask m : Bool) : PhaseStep (.inside mask) m (.inside mask) m
  | restore (mask m : Bool) : PhaseStep (.inside mask) m .free (if mask then m else false)

/-- The code saves the mask, sets it and puts it back. -/
structure SavesMask (p : Program τ σ μ κ ν ε) (phase : σ → Phase) : Prop where
  run : ∀ t l m mem, PhaseStep (phase l) m (phase (p.run t l m mem).1) (p.run t l m mem).2.1
  free : ∀ l, p.free l = true → phase l = .free

/-- The invariant of a critical section: what the running task has saved is what the tasks have set, and
another task can only have saved that interrupts were not masked. -/
structure Guarded (phase : σ → Phase) (own : Bool) (s : Core τ σ μ κ) : Prop where
  free : phase (s.locals s.running) = .free → s.masked = own
  saved : ∀ mask, phase (s.locals s.running) = .saved mask → s.masked = own ∧ mask = own
  inside : ∀ mask, phase (s.locals s.running) = .inside mask → s.masked = true ∧ mask = own ∧ s.handling = []
  others : ∀ t, t ≠ s.running → phase (s.locals t) = .free ∨ phase (s.locals t) = .saved false

section rules
variable {p : Program τ σ μ κ ν ε} {phase : σ → Phase}

/-- Not masked, the running task is outside of the section, and what it may have saved says so. -/
theorem Guarded.unmasked {own : Bool} {s : Core τ σ μ κ} (h : Guarded phase own s) (hm : s.masked = false) :
    own = false ∧ (phase (s.locals s.running) = .free ∨ phase (s.locals s.running) = .saved false) := by
  cases hphase : phase (s.locals s.running) with
  | free => exact ⟨(h.free hphase).symm.trans hm, .inl rfl⟩
  | saved mask =>
    obtain ⟨hmasked, rfl⟩ := h.saved mask hphase
    rw [hm] at hmasked
    rw [← hmasked]
    exact ⟨rfl, .inr rfl⟩
  | inside mask =>
    obtain ⟨hmasked, -⟩ := h.inside mask hphase
    rw [hm] at hmasked
    cases hmasked

/-- A statement of the section keeps mask and saved mask in line with what the tasks have set. -/
theorem PhaseStep.keeps {before after : Phase} {m m' own : Bool} (hstep : PhaseStep before m after m')
    (hfree : before = .free → m = own) (hsaved : ∀ mask, before = .saved mask → m = own ∧ mask = own)
    (hinside : ∀ mask, before = .inside mask → m = true ∧ mask = own) :
    (after = .free → m' = own) ∧ (∀ mask, after = .saved mask → m' = own ∧ mask = own) ∧
      ∀ mask, after = .inside mask → m' = true ∧ mask = own := by
  cases hstep with
  | save =>
    have hown := hfree rfl
    refine ⟨nofun, fun mask heq => ?_, nofun⟩
    cases heq
    exact ⟨hown, hown⟩
  | enter mask =>
    obtain ⟨-, hmask⟩ := hsaved mask rfl
    refine ⟨nofun, nofun, fun mask' heq => ?_⟩
    cases heq
    exact ⟨rfl, hmask⟩
  | stay mask =>
    refine ⟨nofun, nofun, fun mask' heq => ?_⟩
    cases heq
    exact hinside mask rfl
  | restore mask =>
    obtain ⟨rfl, rfl⟩ := hinside mask rfl
    refine ⟨fun _ => ?_, nofun, nofun⟩
    cases mask <;> rfl

/-- A task inside runs, alone, with interrupts masked and no handler about. -/
theorem Guarded.exclusive {own : Bool} {s : Core τ σ μ κ} (h : Guarded phase own s) {t : τ} {mask : Bool}
    (ht : phase (s.locals t) = .inside mask) : s.running = t ∧ s.masked = true ∧ s.handling = [] := by
  have hrun : s.running = t := by
    by_contra hne
    rcases h.others t (fun heq => hne heq.symm) with hfree | hsaved
    · cases hfree.symm.trans ht
    · cases hsaved.symm.trans ht
  subst hrun
  obtain ⟨hm, -, hidle⟩ := h.inside mask ht
  exact ⟨rfl, hm, hidle⟩

variable [DecidableEq τ]

/-- **Step lemma** of the section. -/
theorem Guarded.next (hp : SavesMask p phase) {acts : List (Action τ ν ε)} {a : Action τ ν ε}
    {s s' : Core τ σ μ κ} (h : Guarded phase (ownMask acts) s) (hnext : SingleCore.next p s a = some s') :
    Guarded phase (ownMask (acts ++ [a])) s' := by
  cases a with
  | hardware e =>
    cases hnext
    rw [ownMask_snoc]
    exact ⟨h.free, h.saved, h.inside, h.others⟩
  | interrupt v =>
    obtain ⟨hm, -, rfl⟩ := next_interrupt hnext
    rw [ownMask_snoc]
    refine ⟨h.free, h.saved, fun mask hphase => ?_, h.others⟩
    have hin := (h.inside mask hphase).1
    rw [hm] at hin
    cases hin
  | handle =>
    obtain ⟨k, ks, hks, rfl⟩ := next_handle hnext
    rw [ownMask_snoc]
    refine ⟨h.free, h.saved, fun mask hphase => ?_, h.others⟩
    have hin := (h.inside mask hphase).2.2
    rw [hks] at hin
    cases hin
  | switch t =>
    obtain ⟨hm, -, rfl⟩ := next_switch hnext
    rw [ownMask_snoc]
    obtain ⟨hfalse, hout⟩ := h.unmasked hm
    have hall (t' : τ) : phase (s.locals t') = .free ∨ phase (s.locals t') = .saved false := by
      by_cases ht : t' = s.running
      · rw [ht]
        exact hout
      · exact h.others t' ht
    refine ⟨fun _ => hm.trans hfalse.symm, fun mask hphase => ?_, fun mask hphase => ?_, fun t' _ => hall t'⟩
    · rcases hall t with hfree | hsaved
      · cases hfree.symm.trans hphase
      · cases hsaved.symm.trans hphase
        exact ⟨hm.trans hfalse.symm, hfalse.symm⟩
    · rcases hall t with hfree | hsaved
      · cases hfree.symm.trans hphase
      · cases hsaved.symm.trans hphase
  | mask on =>
    obtain ⟨-, hfree, rfl⟩ := next_mask hnext
    rw [ownMask_snoc]
    have hphase := hp.free _ hfree
    refine ⟨fun _ => rfl, fun mask hm => ?_, fun mask hm => ?_, h.others⟩
    · cases hphase.symm.trans hm
    · cases hphase.symm.trans hm
  | run =>
    obtain ⟨hidle, rfl⟩ := next_run hnext
    rw [ownMask_snoc]
    obtain ⟨hfree, hsaved, hinside⟩ := (hp.run s.running (s.locals s.running) s.masked s.memory).keeps h.free
      h.saved fun mask hphase => ⟨(h.inside mask hphase).1, (h.inside mask hphase).2.1⟩
    refine ⟨fun hphase => ?_, fun mask hphase => ?_, fun mask hphase => ?_, fun t ht => ?_⟩
    · simp only [Function.update_self] at hphase
      exact hfree hphase
    · simp only [Function.update_self] at hphase
      exact hsaved mask hphase
    · simp only [Function.update_self] at hphase
      obtain ⟨hmasked, hmask⟩ := hinside mask hphase
      exact ⟨hmasked, hmask, hidle⟩
    · simp only [Function.update_of_ne ht]
      exact h.others t ht

/-- **Run rule**: the section is guarded after every interleaving. -/
theorem guarded_exec (hp : SavesMask p phase) {start : Core τ σ μ κ} (hstart : Guarded phase false start)
    {acts : List (Action τ ν ε)} {s : Core τ σ μ κ} (h : exec (SingleCore.next p) start acts = some s) :
    Guarded phase (ownMask acts) s := by
  refine exec_history (fun acts s => Guarded phase (ownMask acts) s) hstart ?_ h
  intro acts t a u ht hi hnext
  exact hi.next hp hnext

end rules

end SingleCore
