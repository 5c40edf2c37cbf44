import SmartAc.ControlInv
import SmartAc.ControlTask
import SmartAc.UserInput

/-!
# From the buttons to the controller: `app_tasks.c`

`UserInputTask` posts its events into the flag group `UserEventFlags`, where they accumulate;
`ControlTask` consumes them all at once and hands them to `Control_Step` later in the same pass.
`buttonNext` interleaves the two at the points where they touch the flags.

`Panel` is what the buttons are for: power, mode and setpoint, moved by one gesture after the other.
The invariant `ButtonsInv` says that applying the events consumed but not yet handled, and then
the flags not yet consumed, to the controller gives the panel of all polls so far.
-/

namespace SmartAc

open Machine WrapClock

/-! ## The abstract machine -/

structure Panel where
  powered : Bool
  manual : Bool
  setpointC : Int
deriving DecidableEq, Repr

def panelInit : Panel := ⟨false, false, 24⟩

/-- One gesture: power, which also clears manual when it goes off, then UP, DOWN, and manual only
while powered. -/
def Panel.apply (panel : Panel) (g : Gesture) : Panel :=
  let powered := panel.powered ^^ g.power
  let manual := panel.manual && !(g.power && !powered)
  let up := if g.up then min (panel.setpointC + 1) 30 else panel.setpointC
  let down := if g.down then max (up - 1) 16 else up
  { powered
    manual := if g.manual && powered then !manual else manual
    setpointC := down }

/-- The panel after the polls, the most recent first. -/
def panelOf : List ButtonPoll → Panel
  | [] => panelInit
  | x :: past => (panelOf past).apply (gestureAt x past)

@[simp] theorem Panel.apply_none (panel : Panel) : panel.apply .none = panel := by
  simp [Panel.apply, Gesture.none]

/-- The controller's side of the panel. -/
def ControlContext.panel (ctx : ControlContext) : Panel := ⟨ctx.powered, ctx.manual, ctx.setpointC⟩

/-- `Control_Step` applies the gesture of its events to the panel. -/
theorem stepCtx_panel {ctx : ControlContext} (hi : ControlInv ctx) (i : ControlInput) :
    (stepCtx ctx i).panel = ctx.panel.apply (gestureOf i.userEvents) := by
  obtain ⟨hp, hm, hs, -⟩ := step_frame ctx i
  unfold ControlContext.panel Panel.apply gestureOf
  rw [hp, hm, hs, setpointAfter_eq_bump _ hi.setpoint_range]
  congr 1
  · exact Bool.xor_comm _ _
  · unfold manualAfter togglesManual powersOff poweredAfter
    cases hasEvent i.userEvents userEvtPower <;> cases hasEvent i.userEvents userEvtManual <;>
      cases ctx.powered <;> cases ctx.manual <;> rfl

/-! ## The two tasks -/

/-- The flags `ControlTask` waits for (`app_tasks.c:256-258`). -/
def userEvtAll : UInt32 :=
  userEvtSetpointUp ||| userEvtSetpointDown ||| userEvtManual ||| userEvtPower ||| userEvtBuzzerClick

/-- `pended` is what `OSQPend` and `OSFlagPend` returned in a pass whose `Control_Step` is to come. -/
structure ButtonSystem where
  user : UserInput
  flags : UInt32
  control : ControlTask
  pended : Option (Option SensorMsg × UInt32)

def buttonInit : ButtonSystem := ⟨userInputInit, 0, controlTaskInit, none⟩

inductive ButtonAction where
  | poll (p : ButtonPoll)
  | pend (received : Option SensorMsg)
  | step (nowMs : UInt32)
deriving DecidableEq

/-- One step of `UserInputTask` (a poll with its `OSFlagPost`) or of `ControlTask` (its two pends, then
the rest of the pass). -/
def buttonNext (s : ButtonSystem) : ButtonAction → Option ButtonSystem
  | .poll p =>
    let (user, events) := userPoll s.user p
    some { s with user, flags := if events != 0 then s.flags ||| events else s.flags }
  | .pend received =>
    match s.pended with
    | none =>
      some { s with
        flags := s.flags &&& ~~~userEvtAll, pended := some (received, s.flags &&& userEvtAll) }
    | some _ => none
  | .step nowMs =>
    match s.pended with
    | none => none
    | some (received, events) =>
      some { s with control := (controlTaskIter s.control ⟨received, events, nowMs⟩).1, pended := none }

/-- The polls of an interleaving, oldest first. -/
def pollsOf (acts : List ButtonAction) : List ButtonPoll :=
  acts.filterMap fun
    | .poll p => some p
    | _ => none

/-- Between two posts of `UserInputTask` there is a consuming pend of `ControlTask`. -/
def PendsBetweenPosts (acts : List ButtonAction) : Prop :=
  ∀ pre p mid q post, acts = pre ++ .poll p :: (mid ++ .poll q :: post) →
    eventsAt (pollsOf pre) p ≠ 0 → eventsAt (pollsOf (pre ++ .poll p :: mid)) q ≠ 0 →
      ∃ received, .pend received ∈ mid

/-- Every hold of B1 is shorter than one wrap of the clock. -/
def HoldsShort (polls : List ButtonPoll) : Prop :=
  ∀ past x rest, polls = past ++ x :: rest → ∀ o, holdStart past.reverse = some o → x.b1 = false →
    x.time - o.time < 2 ^ 32

/-! ## Flags -/

theorem pollEvents_mask (upPressed downPressed b1Released longPress : Bool) :
    pollEvents upPressed downPressed b1Released longPress &&& userEvtAll =
      pollEvents upPressed downPressed b1Released longPress := by
  cases upPressed <;> cases downPressed <;> cases b1Released <;> cases longPress <;> decide

/-- The consuming pend takes all flags that are set. -/
theorem masked_clear {flags : UInt32} (h : flags &&& userEvtAll = flags) :
    flags &&& ~~~userEvtAll = 0 := by
  rw [← h, UInt32.and_assoc]
  simp

@[simp] theorem pollsOf_append (acts more : List ButtonAction) :
    pollsOf (acts ++ more) = pollsOf acts ++ pollsOf more := by
  simp [pollsOf]

@[simp] theorem pollsOf_poll (p : ButtonPoll) : pollsOf [.poll p] = [p] := rfl

@[simp] theorem pollsOf_pend (received : Option SensorMsg) : pollsOf [.pend received] = [] := rfl

@[simp] theorem pollsOf_step (nowMs : UInt32) : pollsOf [.step nowMs] = [] := rfl

/-! ## The invariant -/

/-- The gesture that `ControlTask` has consumed but not yet handed to `Control_Step`. -/
def ButtonSystem.pendedGesture (s : ButtonSystem) : Gesture :=
  match s.pended with
  | none => .none
  | some (_, events) => gestureOf events

structure ButtonsInv (acts : List ButtonAction) (s : ButtonSystem) : Prop where
  user : s.user = userAfter (pollsOf acts)
  context : ControlInv s.control.context
  mask : s.flags &&& userEvtAll = s.flags
  /-- Flags that are set were posted after the last consuming pend. -/
  posted : s.flags ≠ 0 → ∃ pre p mid, acts = pre ++ .poll p :: mid ∧ eventsAt (pollsOf pre) p ≠ 0 ∧
    ∀ received, .pend received ∉ mid
  panel : panelOf (pollsOf acts).reverse =
    (s.control.context.panel.apply s.pendedGesture).apply (gestureOf s.flags)

theorem buttonInit_inv : ButtonsInv [] buttonInit := by
  refine ⟨rfl, controlInit_inv, rfl, fun h => absurd rfl h, ?_⟩
  change panelInit = (controlInit.panel.apply .none).apply (gestureOf 0)
  rw [gestureOf_zero, Panel.apply_none, Panel.apply_none]
  rfl

theorem buttonNext_poll (s : ButtonSystem) (p : ButtonPoll) : buttonNext s (.poll p) = some { s with
    user := (userPoll s.user p).1
    flags := if (userPoll s.user p).2 != 0 then s.flags ||| (userPoll s.user p).2 else s.flags } := rfl

section step
variable {acts : List ButtonAction} {s : ButtonSystem} (hi : ButtonsInv acts s)
include hi

/-- **Step lemma**, a poll: its gesture is posted to empty flags, or there is none. -/
theorem poll_inv {p : ButtonPoll} (hpend : PendsBetweenPosts (acts ++ [.poll p]))
    (hhold : ∀ o, holdStart (pollsOf acts).reverse = some o → p.b1 = false →
      o.time ≤ p.time ∧ p.time - o.time < 2 ^ 32) {s' : ButtonSystem}
    (h : buttonNext s (.poll p) = some s') : ButtonsInv (acts ++ [.poll p]) s' := by
  obtain ⟨huser, hctx, hmask, hposted, hpanel⟩ := hi
  rw [buttonNext_poll] at h
  obtain rfl := Option.some.inj h
  have hevents : (userPoll s.user p).2 = eventsAt (pollsOf acts) p := by rw [huser]; rfl
  have hgesture : gestureOf (userPoll s.user p).2 = gestureAt p (pollsOf acts).reverse := by
    rw [huser]
    exact userPoll_gesture (userAfter_tracks _) hhold
  have hpolls : pollsOf (acts ++ [.poll p]) = pollsOf acts ++ [p] := by simp
  have huser' : (userPoll s.user p).1 = userAfter (pollsOf (acts ++ [.poll p])) := by
    rw [hpolls, userAfter, final_snoc, huser]
    rfl
  have hpanel' : panelOf (pollsOf (acts ++ [.poll p])).reverse =
      ((s.control.context.panel.apply s.pendedGesture).apply (gestureOf s.flags)).apply
        (gestureOf (userPoll s.user p).2) := by
    rw [hpolls, List.reverse_append, hgesture, ← hpanel]
    rfl
  have hemask : (userPoll s.user p).2 &&& userEvtAll = (userPoll s.user p).2 := pollEvents_mask _ _ _ _
  generalize (userPoll s.user p).2 = events at *
  by_cases hzero : events = 0
  · rw [hzero, gestureOf_zero, Panel.apply_none] at hpanel'
    rw [if_neg (by simp [hzero])]
    refine ⟨huser', hctx, hmask, fun hf => ?_, hpanel'⟩
    obtain ⟨pre, q, mid, rfl, hq, hmid⟩ := hposted hf
    exact ⟨pre, q, mid ++ [.poll p], by simp, hq, by simpa using hmid⟩
  · -- flags still set here would be two posts without a pend between them
    have hflags : s.flags = 0 := by
      by_contra hf
      obtain ⟨pre, q, mid, rfl, hq, hmid⟩ := hposted hf
      obtain ⟨received, hreceived⟩ :=
        hpend pre q mid p [] (by simp) hq (fun h0 => hzero (hevents.trans h0))
      exact hmid received hreceived
    rw [hflags, gestureOf_zero, Panel.apply_none] at hpanel'
    rw [if_pos (by simpa using hzero), hflags, UInt32.zero_or]
    refine ⟨huser', hctx, hemask, fun _ => ?_, hpanel'⟩
    exact ⟨acts, p, [], rfl, fun h0 => hzero (hevents.trans h0), by simp⟩

/-- **Step lemma**, the pends: the flags become the pending events. -/
theorem pend_inv {received : Option SensorMsg} {s' : ButtonSystem}
    (h : buttonNext s (.pend received) = some s') : ButtonsInv (acts ++ [.pend received]) s' := by
  obtain ⟨huser, hctx, hmask, hposted, hpanel⟩ := hi
  have hpolls : pollsOf (acts ++ [.pend received]) = pollsOf acts := by simp
  unfold buttonNext at h
  cases hpended : s.pended with
  | some pended =>
    rw [hpended] at h
    cases h
  | none =>
    rw [hpended] at h
    cases h
    have hnone : s.pendedGesture = .none := by rw [ButtonSystem.pendedGesture, hpended]
    rw [hnone, Panel.apply_none] at hpanel
    have hclear := masked_clear hmask
    refine ⟨by rw [hpolls]; exact huser, hctx, ?_, fun hf => absurd hclear hf, ?_⟩
    · change (s.flags &&& ~~~userEvtAll) &&& userEvtAll = s.flags &&& ~~~userEvtAll
      rw [hclear, UInt32.zero_and]
    · change panelOf (pollsOf (acts ++ [.pend received])).reverse = (s.control.context.panel.apply
        (gestureOf (s.flags &&& userEvtAll))).apply (gestureOf (s.flags &&& ~~~userEvtAll))
      rw [hpolls, hpanel, hclear, gestureOf_zero, Panel.apply_none, hmask]

/-- **Step lemma**, the rest of the pass: the pending events reach the controller. -/
theorem pass_inv {nowMs : UInt32} {s' : ButtonSystem} (h : buttonNext s (.step nowMs) = some s') :
    ButtonsInv (acts ++ [.step nowMs]) s' := by
  obtain ⟨huser, hctx, hmask, hposted, hpanel⟩ := hi
  have hpolls : pollsOf (acts ++ [.step nowMs]) = pollsOf acts := by simp
  unfold buttonNext at h
  cases hpended : s.pended with
  | none =>
    rw [hpended] at h
    cases h
  | some pended =>
    obtain ⟨received, events⟩ := pended
    rw [hpended] at h
    cases h
    have hgesture : s.pendedGesture = gestureOf events := by rw [ButtonSystem.pendedGesture, hpended]
    have hstep := controlTaskIter_context s.control ⟨received, events, nowMs⟩
    refine ⟨by rw [hpolls]; exact huser, ?_, hmask, fun hf => ?_, ?_⟩
    · rw [hstep]
      exact step_inv hctx _
    · obtain ⟨pre, q, mid, rfl, hq, hmid⟩ := hposted hf
      exact ⟨pre, q, mid ++ [.step nowMs], by simp, hq, by simpa using hmid⟩
    · have hdone : (s.control.context.panel.apply (gestureOf events)) =
          (controlTaskIter s.control ⟨received, events, nowMs⟩).1.context.panel := by
        rw [hstep, stepCtx_panel hctx]
        rfl
      rw [hpolls, hpanel, hgesture, hdone]
      change _ = (Panel.apply _ .none).apply _
      rw [Panel.apply_none]

end step

/-- **Run lemma**: the invariant holds after every interleaving with a pend between two posts. -/
theorem buttons_inv {acts : List ButtonAction} {s : ButtonSystem}
    (h : exec buttonNext buttonInit acts = some s) (hpend : PendsBetweenPosts acts)
    (htime : (pollsOf acts).Pairwise (·.time ≤ ·.time)) (hhold : HoldsShort (pollsOf acts)) :
    ButtonsInv acts s := by
  induction acts using List.reverseRecOn generalizing s with
  | nil =>
    cases h
    exact buttonInit_inv
  | append_singleton acts a ih =>
    rw [exec_append] at h
    obtain ⟨s₁, hs₁, hlast⟩ := Option.bind_eq_some_iff.1 h
    have hnext : buttonNext s₁ a = some s := by simpa [exec] using hlast
    have hi := ih hs₁ (fun pre p mid q post hsplit => hpend pre p mid q (post ++ [a]) (by simp [hsplit]))
      ?_ ?_
    · cases a with
      | pend received => exact pend_inv hi hnext
      | step nowMs => exact pass_inv hi hnext
      | poll p =>
        have hpolls : pollsOf (acts ++ [.poll p]) = pollsOf acts ++ [p] := by simp
        refine poll_inv hi hpend (fun o ho hb1 => ?_) hnext
        have ho' : o ∈ pollsOf acts := List.mem_reverse.1 (holdStart_mem ho)
        rw [hpolls] at htime hhold
        exact ⟨(List.pairwise_append.1 htime).2.2 o ho' p List.mem_cons_self,
          hhold (pollsOf acts) p [] rfl o ho hb1⟩
    · rw [pollsOf_append] at htime
      exact (List.pairwise_append.1 htime).1
    · intro past x rest hsplit
      exact hhold past x (rest ++ pollsOf [a]) (by simp [hsplit])

/-- **The buttons end to end**: once all posted flags are consumed and handed to `Control_Step`, power,
mode and setpoint are those of the panel after all polls. -/
theorem buttons_refine_panel (acts : List ButtonAction) (s : ButtonSystem)
    (h : exec buttonNext buttonInit acts = some s) (hpend : PendsBetweenPosts acts)
    (htime : (pollsOf acts).Pairwise (·.time ≤ ·.time)) (hhold : HoldsShort (pollsOf acts))
    (hflags : s.flags = 0) (hdone : s.pended = none) :
    s.control.context.panel = panelOf (pollsOf acts).reverse := by
  have hi := buttons_inv h hpend htime hhold
  have hnone : s.pendedGesture = .none := by rw [ButtonSystem.pendedGesture, hdone]
  rw [hi.panel, hflags, hnone, gestureOf_zero, Panel.apply_none, Panel.apply_none]

/-- A press of 2 s across the wrap of the clock powers on, one of 300 ms switches to manual. -/
def longThenShort : List ButtonAction :=
  [.poll ⟨false, false, true, 2 ^ 32 - 500⟩, .poll ⟨false, false, false, 2 ^ 32 + 1500⟩, .pend none,
    .step 1510, .poll ⟨false, false, true, 2 ^ 32 + 2000⟩, .poll ⟨false, false, false, 2 ^ 32 + 2300⟩,
    .pend none, .step 2310]

theorem longThenShort_pends : PendsBetweenPosts longThenShort := by
  intro pre p mid q post hsplit hp hq
  have hmem : ButtonAction.poll q ∈ mid ++ .poll q :: post := by simp
  -- the first and the third poll post nothing, and after the fourth there is no other poll
  rcases pre with _ | ⟨_, _ | ⟨_, _ | ⟨_, _ | ⟨_, _ | ⟨_, _ | ⟨_, _ | ⟨_, _ | ⟨_, pre⟩⟩⟩⟩⟩⟩⟩⟩ <;>
    simp only [longThenShort, List.nil_append, List.cons_append, List.cons.injEq, reduceCtorEq,
      false_and, and_false, List.nil_eq, List.append_eq_nil_iff] at hsplit
  · obtain ⟨hpoll, -⟩ := hsplit
    cases hpoll
    exact absurd (by decide +kernel) hp
  · obtain ⟨-, hpoll, hrest⟩ := hsplit
    rcases mid with _ | ⟨a, mid⟩
    · simp at hrest
    · simp only [List.cons_append, List.cons.injEq] at hrest
      exact ⟨none, by simp [← hrest.1]⟩
  · obtain ⟨rfl, rfl, rfl, rfl, hpoll, -⟩ := hsplit
    cases hpoll
    exact absurd (by decide +kernel) hp
  · obtain ⟨-, -, -, -, -, -, hrest⟩ := hsplit
    rw [← hrest] at hmem
    simp at hmem

theorem buttons_refine_panel_longThenShort : ∃ s, exec buttonNext buttonInit longThenShort = some s ∧
    s.control.context.panel = panelOf (pollsOf longThenShort).reverse ∧
    panelOf (pollsOf longThenShort).reverse = ⟨true, true, 24⟩ := by
  have hexec : exec buttonNext buttonInit longThenShort = some _ := rfl
  refine ⟨_, hexec, ?_, by decide +kernel⟩
  refine buttons_refine_panel longThenShort _ hexec longThenShort_pends (by decide +kernel) ?_
    (by decide +kernel) rfl
  intro past x rest hsplit o ho _
  have hall : ∀ y ∈ pollsOf longThenShort, 2 ^ 32 - 500 ≤ y.time ∧ y.time ≤ 2 ^ 32 + 2300 := by decide
  have hx : x ∈ pollsOf longThenShort := by rw [hsplit]; simp
  have ho' : o ∈ pollsOf longThenShort := by
    rw [hsplit]
    exact List.mem_append_left _ (List.mem_reverse.1 (holdStart_mem ho))
  have h1 := hall x hx
  have h2 := hall o ho'
  omega

end SmartAc
