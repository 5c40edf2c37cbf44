import SmartAc.Polling
import SmartAc.WindowHistory

/-!
# Five seconds settle the controller

`WINDOW_SUSPECT` and `RECOVERY_WAIT` are the two states `Control_Step` passes through on its own. From
whatever it holds, timestamps included, a controller in automatic mode leaves them within five seconds,
as long as the window stays as it is and no button changes the mode. `Settling` is the invariant: the
age that keeps a transient state alive is under its limit, and has grown with the time since the first step.
-/

namespace SmartAc

open Machine WrapClock

/-- `since` is less than 5 s old at `t`, and has aged at least as long as `t` is past `start`. -/
def Young (since : UInt32) (start t : Nat) : Prop :=
  (reading t - since).toNat < 5000 ∧ t - start ≤ (reading t - since).toNat

/-- The transient state of the window flag `isOpen`, or the one it ends in. -/
structure Settling (isOpen : Bool) (start t : Nat) (ctx : ControlContext) : Prop where
  powered : ctx.powered = true
  auto : ctx.manual = false
  window : ctx.windowWasOpen = isOpen
  opened : isOpen = true → ctx.state = .acPaused ∧ ctx.pauseLatched = true ∨
    ctx.state = .windowSuspect ∧ Young ctx.windowOpenSinceMs start t
  closed : isOpen = false → ctx.state = coolOrIdle ctx ∨
    ctx.state = .recoveryWait ∧ Young ctx.recoverySinceMs start t

/-- An age that was below the limit has grown, or has reached the limit. -/
theorem Young.later {since : UInt32} {start s t : Nat} (h : Young since start s) (hs : start ≤ s)
    (hle : s ≤ t) (hspan : t - start + 5000 ≤ 2 ^ 32) (hage : (reading t - since).toNat < 5000) :
    Young since start t := by
  obtain ⟨hyoung, hgrown⟩ := h
  refine ⟨hage, ?_⟩
  have hlater := toNat_sub_later since hle (by omega)
  omega

theorem Young.start {since : UInt32} {t : Nat} (hage : (reading t - since).toNat < 5000) :
    Young since t t :=
  ⟨hage, by omega⟩

/-! ## One step -/

/-- An open step in automatic mode pauses, or keeps a suspicion that is under 5 s old. -/
theorem step_open {ctx : ControlContext} {x : Sample} (hon : (stepCtx ctx x.input).powered = true)
    (hauto : (stepCtx ctx x.input).manual = false) (ho : x.msg.windowOpen = true) :
    (stepCtx ctx x.input).state = .acPaused ∧ (stepCtx ctx x.input).pauseLatched = true ∨
      (stepCtx ctx x.input).state = .windowSuspect ∧
        (reading x.time - (stepCtx ctx x.input).windowOpenSinceMs).toNat < 5000 ∧
        (prepare ctx (some x.msg) x.userEvents (reading x.time)).pauseLatched = false := by
  obtain ⟨c, hc, he⟩ := step_selects ctx x.input
  rw [he] at hon hauto ⊢
  dsimp only [Sample.input] at hc hon hauto ⊢
  generalize prepare ctx (some x.msg) x.userEvents (reading x.time) = p at *
  cases hc with
  | off hp => rw [hp] at hon; cases hon
  | manual hp hm => rw [hm] at hauto; cases hauto
  | pause hp hm ho' why => exact .inl ⟨rfl, rfl⟩
  | suspect hp hm ho' hage hrise hl =>
    refine .inr ⟨rfl, ?_, hl⟩
    rw [UInt32.not_le, UInt32.lt_iff_toNat_lt] at hage
    exact hage
  | startWait hp hm ho' hw => simp [ho] at ho'
  | keepWait hp hm ho' hw hs hage => simp [ho] at ho'
  | cool hp hm ho' hw hdone hc => simp [ho] at ho'
  | idle hp hm ho' hw hdone hc => simp [ho] at ho'

theorem step_windowOpenSinceMs (ctx : ControlContext) (x : Sample) :
    (stepCtx ctx x.input).windowOpenSinceMs =
      if opens ctx (some x.msg) x.userEvents then reading x.time else ctx.windowOpenSinceMs := by
  obtain ⟨c, hc, he⟩ := step_selects ctx x.input
  rw [he]
  cases hc <;> simp [Sample.input]

/-- A closed step in automatic mode waits on a wait under 5 s old, or lets the temperature decide. -/
theorem ClosedStep.state {ctx : ControlContext} {x : Sample} (h : ClosedStep ctx x) :
    (stepCtx ctx x.input).state = coolOrIdle (stepCtx ctx x.input) ∨
      (stepCtx ctx x.input).state = .recoveryWait ∧
        (reading x.time - (stepCtx ctx x.input).recoverySinceMs).toNat < 5000 := by
  unfold ClosedStep at h
  split at h
  · obtain ⟨hs, -, hsince⟩ := h
    refine .inr ⟨hs, ?_⟩
    rw [hsince, UInt32.sub_self]
    decide
  · obtain ⟨-, hsince, hs⟩ := h
    split at hs
    · rename_i hwait
      refine .inr ⟨hs, ?_⟩
      rw [hsince]
      exact UInt32.lt_iff_toNat_lt.1 hwait.2
    · exact .inl hs

/-- The window stays as it is, POWER and MANUAL are not pressed, time does not run backwards from `s` on, and
the run is shorter than a wrap of the clock less the limit. -/
structure Undisturbed (isOpen : Bool) (start s : Nat) (xs : List Sample) : Prop where
  window : ∀ x ∈ xs, x.msg.windowOpen = isOpen
  noMode : ∀ x ∈ xs, NoModeEvent x.userEvents
  ordered : (s :: xs.map (·.time)).Pairwise (· ≤ ·)
  span : ∀ x ∈ xs, x.time - start + 5000 ≤ 2 ^ 32

section run
variable {isOpen : Bool} {start s : Nat} {ctx : ControlContext} (h : Settling isOpen start s ctx)
  (hs : start ≤ s)
include h hs

/-- **Step lemma**: every further step keeps settling it. -/
theorem Settling.next {x : Sample} {xs : List Sample} (hrun : Undisturbed isOpen start s (x :: xs)) :
    s ≤ x.time ∧ Settling isOpen start x.time (stepCtx ctx x.input) ∧ Undisturbed isOpen start x.time xs := by
  obtain ⟨hwindow, hmode, hordered, hlength⟩ := hrun
  simp only [List.map_cons, List.pairwise_cons, List.mem_cons, forall_eq_or_imp] at hwindow hmode hordered hlength
  obtain ⟨ho, hwindow⟩ := hwindow
  obtain ⟨hev, hmode⟩ := hmode
  obtain ⟨hspan, hlength⟩ := hlength
  obtain ⟨⟨hle, -⟩, hordered⟩ := hordered
  refine ⟨hle, ?_, hwindow, hmode, List.pairwise_cons.2 hordered, hlength⟩
  obtain ⟨hon, hauto, hsame⟩ := auto_frame h.powered h.auto hev
  refine ⟨hon, hauto, hsame.trans ho, fun hopen => ?_, fun hshut => ?_⟩
  · rcases step_open hon hauto (ho.trans hopen) with hpaused | ⟨hstate, hage, hlatch⟩
    · exact .inl hpaused
    · rw [(prepare_auto h.powered h.auto hev (some x.msg) (reading x.time)).2.2.2] at hlatch
      have hsince : (stepCtx ctx x.input).windowOpenSinceMs = ctx.windowOpenSinceMs := by
        rw [step_windowOpenSinceMs, if_neg]
        simp [opens, powersOff, hev.1, h.window, hopen]
      rw [hsince] at hage ⊢
      rcases h.opened hopen with ⟨-, hlatched⟩ | ⟨-, hyoung⟩
      · rw [hlatched] at hlatch
        cases hlatch
      · exact .inr ⟨hstate, hyoung.later hs hle hspan hage⟩
  · have hclosed := auto_closed h.powered h.auto hev (ho.trans hshut)
    rcases hclosed.state with hdone | ⟨hstate, hage⟩
    · exact .inl hdone
    · unfold ClosedStep at hclosed
      rw [if_neg (by simp [h.window, hshut])] at hclosed
      obtain ⟨-, hsince, hnext⟩ := hclosed
      rw [hsince] at hage ⊢
      rcases h.closed hshut with hdone | ⟨-, hyoung⟩
      · -- a wait is only kept, and there was none
        have hnone : ctx.state ≠ .recoveryWait := hdone.trans_ne (coolOrIdle_ne ctx).2
        rw [if_neg fun hwait => hnone hwait.1] at hnext
        exact .inl hnext
      · exact .inr ⟨hstate, hyoung.later hs hle hspan hage⟩

/-- **Run lemma**: an undisturbed run is still settling after its last step. -/
theorem Settling.run {xs : List Sample} {last : Sample} (hrun : Undisturbed isOpen start s (xs ++ [last])) :
    Settling isOpen start last.time (final step ctx ((xs ++ [last]).map (·.input))) := by
  induction xs generalizing ctx s with
  | nil =>
    obtain ⟨-, hlast, -⟩ := h.next hs hrun
    exact hlast
  | cons x xs ih =>
    obtain ⟨hle, hnext, hrest⟩ := h.next hs hrun
    exact ih hnext (hs.trans hle) hrest

end run

/-- A controller that cools finds the window open, and still open five seconds later. -/
def cooling : ControlContext := stepCtx controlInit ⟨some ⟨30, 40, false, true⟩, userEvtPower, 0⟩

end SmartAc
