import Mathlib.Data.List.Induction
import SmartAc.Lib.Machine

/-!
# A log behind a lock

Tasks `τ` write messages to one log, item by item; a task takes the lock for a whole message and gives it
back after its last item. Whatever the interleaving, the log holds the messages one after the other, in the
order in which the lock was taken, and of the last one what has been written so far (`written_eq`).
-/

namespace LogLock

open Machine

variable {τ α : Type*}

/-- The log, and the owner of the lock with what is left of its message. -/
structure Log (τ α : Type*) where
  owner : Option (τ × List α)
  written : List α

inductive Action (τ α : Type*) where
  | take (t : τ) (message : List α)
  | write (t : τ)
  | release (t : τ)

def start : Log τ α := ⟨none, []⟩

def next [DecidableEq τ] (s : Log τ α) : Action τ α → Option (Log τ α)
  | .take t message => if s.owner.isNone then some { s with owner := some (t, message) } else none
  | .write t =>
    match s.owner with
    | some (t', x :: rest) => if t' = t then some ⟨some (t', rest), s.written ++ [x]⟩ else none
    | _ => none
  | .release t =>
    match s.owner with
    | some (t', []) => if t' = t then some { s with owner := none } else none
    | _ => none

def Action.message : Action τ α → Option (List α)
  | .take _ message => some message
  | _ => none

/-- The messages, in the order in which the lock was taken for them. -/
def messages (acts : List (Action τ α)) : List (List α) := acts.filterMap Action.message

/-- What the owner has still to write. -/
def Log.unwritten (s : Log τ α) : List α := (s.owner.map Prod.snd).getD []

/-- **Step lemma**: a step moves an item into the log, or takes up a message when nothing was left. -/
theorem step_written [DecidableEq τ] {s s' : Log τ α} {a : Action τ α} (h : next s a = some s') :
    s'.written ++ s'.unwritten = s.written ++ s.unwritten ++ a.message.getD [] := by
  obtain ⟨owner, written⟩ := s
  cases a with
  | take t message =>
    cases owner with
    | none =>
      cases h
      simp [Log.unwritten, Action.message]
    | some o => cases h
  | write t =>
    rcases owner with _ | ⟨t', _ | ⟨x, rest⟩⟩
    · cases h
    · cases h
    · simp only [next, Option.ite_none_right_eq_some, Option.some.injEq] at h
      obtain ⟨-, rfl⟩ := h
      simp [Log.unwritten, Action.message]
  | release t =>
    rcases owner with _ | ⟨t', _ | ⟨x, rest⟩⟩
    · cases h
    · simp only [next, Option.ite_none_right_eq_some, Option.some.injEq] at h
      obtain ⟨-, rfl⟩ := h
      simp [Log.unwritten, Action.message]
    · cases h

/-- **Run lemma**: log and unwritten rest are the messages, one after the other. -/
theorem written_eq [DecidableEq τ] {acts : List (Action τ α)} {s : Log τ α}
    (h : exec next start acts = some s) : s.written ++ s.unwritten = (messages acts).flatten := by
  refine exec_history (fun acts s => s.written ++ s.unwritten = (messages acts).flatten) rfl ?_ h
  intro acts t a u ht hi hnext
  rw [step_written hnext, hi, messages, messages, List.filterMap_append, List.flatten_append]
  cases a <;> simp [Action.message]

/-- A task that takes the lock, writes a message and gives the lock back. -/
def whole (t : τ) (message : List α) : List (Action τ α) :=
  .take t message :: (List.replicate message.length (.write t) ++ [.release t])

theorem exec_writes [DecidableEq τ] (t : τ) (message written : List α) :
    exec next ⟨some (t, message), written⟩ (List.replicate message.length (.write t)) =
      some ⟨some (t, []), written ++ message⟩ := by
  induction message generalizing written with
  | nil => rw [List.append_nil]; rfl
  | cons x rest ih =>
    have hwrite : next ⟨some (t, x :: rest), written⟩ (.write t) = some ⟨some (t, rest), written ++ [x]⟩ := by
      simp [next]
    rw [List.length_cons, List.replicate_succ, exec_cons hwrite (ih (written ++ [x])), List.append_assoc]
    rfl

/-- While the lock is free any task can write a whole message. -/
theorem exec_whole [DecidableEq τ] (t : τ) (message written : List α) :
    exec next ⟨none, written⟩ (whole t message) = some ⟨none, written ++ message⟩ := by
  have hrelease : next ⟨some (t, []), written ++ message⟩ (.release t) = some ⟨none, written ++ message⟩ := by
    simp [next]
  exact exec_cons rfl (exec_trans (exec_writes t message written) (exec_cons hrelease rfl))

end LogLock
