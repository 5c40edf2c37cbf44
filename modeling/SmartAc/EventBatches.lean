import SmartAc.Buttons

/-!
# Presses that meet in the flag group: `app_tasks.c`

Where a second post finds the flags of the first still set, `UserEventFlags` merges the two and
`Control_Step` handles them as one gesture. `Batches` is that account without the tasks: the polls cut at
the pends of `ControlTask`, each cut merged into one gesture. `batched_step` is the simulation, with no
assumption on when the two tasks run; `Mergeable` says which gestures may meet without loss.
-/

namespace SmartAc

open Machine WrapClock

/-- What the flag group makes of two gestures. -/
def Gesture.merge (g h : Gesture) : Gesture where
  power := g.power || h.power
  up := g.up || h.up
  down := g.down || h.down
  manual := g.manual || h.manual

/-- B1 was released: the gesture clicks. -/
def Gesture.clicks (g : Gesture) : Bool := g.power || g.manual

@[simp] theorem Gesture.none_merge (g : Gesture) : Gesture.none.merge g = g := by
  simp [merge, none]

@[simp] theorem Gesture.merge_none (g : Gesture) : g.merge .none = g := by
  simp [merge, none]

theorem gestureOf_or (events more : UInt32) :
    gestureOf (events ||| more) = (gestureOf events).merge (gestureOf more) := by
  simp only [gestureOf, Gesture.merge, hasEvent_or]

/-! ## Merging without loss -/

/-- POWER once, MANUAL once or again after a POWER. -/
def Gesture.modesMerge (g h : Gesture) : Bool :=
  !(g.power && h.power) && if h.power then !g.manual || h.manual else !(g.manual && h.manual)

/-- The arrows of one of the two only, or UP before DOWN, or both in both. -/
def Gesture.arrowsMerge (g h : Gesture) : Bool :=
  (!g.up && !g.down) || (!h.up && !h.down) || (g.up && !g.down && !h.up && h.down) ||
    (g.up && g.down && h.up && h.down)

/-- `h` may follow `g` in one batch. -/
def Gesture.Mergeable (g h : Gesture) : Prop := g.modesMerge h = true ∧ g.arrowsMerge h = true

instance (g h : Gesture) : Decidable (g.Mergeable h) := inferInstanceAs (Decidable (_ ∧ _))

/-- The setpoint is one the controller can hold. -/
def Panel.InRange (panel : Panel) : Prop := 16 ≤ panel.setpointC ∧ panel.setpointC ≤ 30

theorem Panel.inRange_apply {panel : Panel} (h : panel.InRange) (g : Gesture) : (panel.apply g).InRange := by
  obtain ⟨hlow, hhigh⟩ := h
  unfold InRange Panel.apply
  dsimp only
  cases g.up <;> cases g.down <;> simp only [Bool.false_eq_true, ↓reduceIte] <;> omega

/-- Power and manual of a panel; they do not depend on the setpoint. -/
theorem Panel.apply_modes (powered manual : Bool) (setpointC : Int) (g h : Gesture)
    (hm : g.modesMerge h = true) : let panel : Panel := ⟨powered, manual, setpointC⟩
    (panel.apply (g.merge h)).powered = ((panel.apply g).apply h).powered ∧
      (panel.apply (g.merge h)).manual = ((panel.apply g).apply h).manual := by
  obtain ⟨gp, gu, gd, gm⟩ := g
  obtain ⟨hp, hu, hd, hm'⟩ := h
  revert hm
  simp only [Panel.apply, Gesture.merge, Gesture.modesMerge]
  cases gp <;> cases hp <;> cases gm <;> cases hm' <;> cases powered <;> cases manual <;> simp

theorem Panel.apply_setpoint {panel : Panel} (hr : panel.InRange) (g h : Gesture)
    (ha : g.arrowsMerge h = true) :
    (panel.apply (g.merge h)).setpointC = ((panel.apply g).apply h).setpointC := by
  obtain ⟨hlow, hhigh⟩ := hr
  obtain ⟨gp, gu, gd, gm⟩ := g
  obtain ⟨hp, hu, hd, hm⟩ := h
  revert ha
  simp only [Panel.apply, Gesture.merge, Gesture.arrowsMerge]
  cases gu <;> cases gd <;> cases hu <;> cases hd <;> (simp; try omega)

/-- Mergeable gestures in one batch act as one after the other. -/
theorem Panel.apply_mergeable {panel : Panel} (hr : panel.InRange) {g h : Gesture} (hgh : g.Mergeable h) :
    panel.apply (g.merge h) = (panel.apply g).apply h := by
  obtain ⟨powered, manual, setpointC⟩ := panel
  obtain ⟨hm, ha⟩ := hgh
  obtain ⟨hpowered, hmanual⟩ := Panel.apply_modes powered manual setpointC g h hm
  have hsetpoint := Panel.apply_setpoint hr g h ha
  revert hpowered hmanual hsetpoint
  generalize Panel.apply _ _ = merged
  generalize Panel.apply _ _ = chained
  obtain ⟨_, _, _⟩ := merged
  obtain ⟨_, _, _⟩ := chained
  simp +contextual

/-- **Merging is exact**: two gestures in one batch act as one after the other, on every panel the controller
can show, exactly if they are mergeable. -/
theorem merge_exact_iff (g h : Gesture) :
    (∀ panel : Panel, panel.InRange → panel.apply (g.merge h) = (panel.apply g).apply h) ↔ g.Mergeable h := by
  constructor
  · intro hall
    -- power and mode are told apart at any setpoint; the arrows at the ends of the range and between
    have hmodes (powered manual : Bool) := hall ⟨powered, manual, 20⟩ (by simp [Panel.InRange])
    have hlow := congrArg Panel.setpointC (hall ⟨false, false, 16⟩ (by simp [Panel.InRange]))
    have hmid := congrArg Panel.setpointC (hall ⟨false, false, 20⟩ (by simp [Panel.InRange]))
    have hoff := hmodes false false
    have hon := hmodes true false
    obtain ⟨gp, gu, gd, gm⟩ := g
    obtain ⟨hp, hu, hd, hm⟩ := h
    simp only [Panel.apply, Gesture.merge, Panel.mk.injEq] at hoff hon hlow hmid
    obtain ⟨hoffp, hoffm, -⟩ := hoff
    obtain ⟨honp, honm, -⟩ := hon
    refine ⟨?_, ?_⟩
    · clear hlow hmid hmodes hall
      revert hoffp hoffm honp honm
      simp only [Gesture.modesMerge]
      cases gp <;> cases hp <;> cases gm <;> cases hm <;> simp
    · clear hoffp hoffm honp honm hmodes hall
      revert hlow hmid
      simp only [Gesture.arrowsMerge]
      cases gu <;> cases gd <;> cases hu <;> cases hd <;> simp
  · intro hgh panel hr
    exact Panel.apply_mergeable hr hgh

/-! ## The account of an interleaving -/

/-- The polls of an interleaving, cut at the pends: the merged gestures of the batches pended so far, oldest
first, those since the last pend, and the polls themselves, the most recent first. -/
structure Batches where
  done : List Gesture
  waiting : Gesture
  past : List ButtonPoll

def batchesInit : Batches := ⟨[], .none, []⟩

def Batches.note (b : Batches) : ButtonAction → Batches
  | .poll p => { b with waiting := b.waiting.merge (gestureAt p b.past), past := p :: b.past }
  | .pend _ => { b with done := b.done ++ [b.waiting], waiting := .none }
  | .step _ => b

def batchesOf (acts : List ButtonAction) : Batches := acts.foldl Batches.note batchesInit

@[simp] theorem batchesOf_snoc (acts : List ButtonAction) (a : ButtonAction) :
    batchesOf (acts ++ [a]) = (batchesOf acts).note a := by
  simp [batchesOf]

theorem batchesOf_past (acts : List ButtonAction) : (batchesOf acts).past = (pollsOf acts).reverse := by
  induction acts using List.reverseRecOn with
  | nil => rfl
  | append_singleton acts a ih =>
    rw [batchesOf_snoc]
    cases a <;> simp [Batches.note, ih]

/-- The events stand for the gesture `g`, its click included. -/
structure StandsFor (events : UInt32) (g : Gesture) : Prop where
  gesture : gestureOf events = g
  click : hasEvent events userEvtBuzzerClick = g.clicks

theorem standsFor_zero : StandsFor 0 .none :=
  ⟨gestureOf_zero, hasEvent_zero _⟩

theorem standsFor_pollEvents (upPressed downPressed b1Released longPress : Bool) :
    StandsFor (pollEvents upPressed downPressed b1Released longPress)
      ⟨b1Released && longPress, upPressed, downPressed, b1Released && !longPress⟩ := by
  refine ⟨gestureOf_pollEvents _ _ _ _, ?_⟩
  cases upPressed <;> cases downPressed <;> cases b1Released <;> cases longPress <;> decide

theorem StandsFor.or {events more : UInt32} {g h : Gesture} (he : StandsFor events g)
    (hm : StandsFor more h) : StandsFor (events ||| more) (g.merge h) := by
  obtain ⟨rfl, hclick⟩ := he
  obtain ⟨rfl, hclick'⟩ := hm
  refine ⟨gestureOf_or _ _, ?_⟩
  rw [hasEvent_or, hclick, hclick']
  simp only [Gesture.clicks, Gesture.merge]
  ac_rfl

/-- Simulation invariant: what the tasks hold, said by the batches. The last batch that is done may be one
whose `Control_Step` is still to come. -/
structure BatchesInv (acts : List ButtonAction) (s : ButtonSystem) : Prop where
  user : UserTracks s.user (batchesOf acts).past
  context : ControlInv s.control.context
  mask : s.flags &&& userEvtAll = s.flags
  flags : StandsFor s.flags (batchesOf acts).waiting
  handled : s.pended = none → s.control.context.panel = (batchesOf acts).done.foldl Panel.apply panelInit
  pended : ∀ received events, s.pended = some (received, events) →
    ∃ done g, (batchesOf acts).done = done ++ [g] ∧ StandsFor events g ∧
      s.control.context.panel = done.foldl Panel.apply panelInit

theorem buttonInit_batches : BatchesInv [] buttonInit :=
  ⟨⟨debounceInit_debounced, debounceInit_debounced, rfl, nofun⟩, controlInit_inv, rfl, standsFor_zero,
    fun _ => rfl, nofun⟩

section step
variable {acts : List ButtonAction} {s s' : ButtonSystem} (hi : BatchesInv acts s)
include hi

/-- **Step lemma**, a poll: its gesture joins what is waiting. -/
theorem poll_batched {p : ButtonPoll}
    (hhold : ∀ o, holdStart (pollsOf acts).reverse = some o → p.b1 = false →
      o.time ≤ p.time ∧ p.time - o.time < 2 ^ 32)
    (h : buttonNext s (.poll p) = some s') : BatchesInv (acts ++ [.poll p]) s' := by
  obtain ⟨huser, hctx, hmask, hflags, hhandled, hpended⟩ := hi
  rw [← batchesOf_past] at hhold
  rw [buttonNext_poll] at h
  obtain rfl := Option.some.inj h
  have hevents : StandsFor (userPoll s.user p).2 (gestureAt p (batchesOf acts).past) := by
    have hgesture := userPoll_gesture huser hhold
    obtain ⟨hstands, hclick⟩ := standsFor_pollEvents (debounceButton s.user.upDb p.up).2
      (debounceButton s.user.downDb p.down).2 (!p.b1 && s.user.b1WasPressed)
      (decide (appLongPressMs ≤ reading p.time - s.user.b1PressedSince))
    rw [← hgesture]
    exact ⟨rfl, hclick.trans (congrArg Gesture.clicks hstands.symm)⟩
  have hemask : (userPoll s.user p).2 &&& userEvtAll = (userPoll s.user p).2 := pollEvents_mask _ _ _ _
  have hposted : (if (userPoll s.user p).2 != 0 then s.flags ||| (userPoll s.user p).2 else s.flags) =
      s.flags ||| (userPoll s.user p).2 := by
    by_cases hzero : (userPoll s.user p).2 = 0
    · simp [hzero]
    · simp [hzero]
  rw [hposted]
  refine ⟨?_, hctx, ?_, ?_, ?_, ?_⟩
  · rw [batchesOf_snoc]
    exact userPoll_tracks huser p
  · have hmasked : (s.flags ||| (userPoll s.user p).2) &&& userEvtAll =
        (s.flags &&& userEvtAll) ||| ((userPoll s.user p).2 &&& userEvtAll) := or_and_distrib _ _ _
    rw [hmasked, hmask, hemask]
  · rw [batchesOf_snoc]
    exact hflags.or hevents
  · rw [batchesOf_snoc]
    exact hhandled
  · rw [batchesOf_snoc]
    exact hpended

/-- **Step lemma**, the pends: what was waiting is the next batch. -/
theorem pend_batched {received : Option SensorMsg} (h : buttonNext s (.pend received) = some s') :
    BatchesInv (acts ++ [.pend received]) s' := by
  obtain ⟨huser, hctx, hmask, hflags, hhandled, -⟩ := hi
  unfold buttonNext at h
  cases hpended : s.pended with
  | some pended =>
    rw [hpended] at h
    cases h
  | none =>
    rw [hpended] at h
    cases h
    have hclear := masked_clear hmask
    refine ⟨?_, hctx, ?_, ?_, nofun, fun received' events heq => ?_⟩
    · rw [batchesOf_snoc]
      exact huser
    · simp only [hclear, UInt32.zero_and]
    · rw [batchesOf_snoc, hclear]
      exact standsFor_zero
    · rw [hmask] at heq
      cases heq
      rw [batchesOf_snoc]
      exact ⟨(batchesOf acts).done, (batchesOf acts).waiting, rfl, hflags, hhandled hpended⟩

/-- **Step lemma**, the rest of the pass: the batch reaches the panel. -/
theorem pass_batched {nowMs : UInt32} (h : buttonNext s (.step nowMs) = some s') :
    BatchesInv (acts ++ [.step nowMs]) s' := by
  obtain ⟨huser, hctx, hmask, hflags, -, hpended⟩ := hi
  unfold buttonNext at h
  cases hp : s.pended with
  | none =>
    rw [hp] at h
    cases h
  | some pended =>
    obtain ⟨received, events⟩ := pended
    rw [hp] at h
    cases h
    obtain ⟨done, g, hdone, hevents, hpanel⟩ := hpended received events hp
    have hstep := controlTaskIter_context s.control ⟨received, events, nowMs⟩
    refine ⟨?_, ?_, hmask, ?_, fun _ => ?_, nofun⟩
    · rw [batchesOf_snoc]
      exact huser
    · rw [hstep]
      exact step_inv hctx _
    · rw [batchesOf_snoc]
      exact hflags
    · rw [batchesOf_snoc]
      change _ = (batchesOf acts).done.foldl Panel.apply panelInit
      rw [hdone, List.foldl_append, ← hpanel, hstep, stepCtx_panel hctx, ← hevents.gesture]
      rfl

end step

/-- **Run lemma**: the invariant holds after every interleaving. -/
theorem batches_inv {acts : List ButtonAction} {s : ButtonSystem}
    (h : exec buttonNext buttonInit acts = some s) (htime : (pollsOf acts).Pairwise (·.time ≤ ·.time))
    (hhold : HoldsShort (pollsOf acts)) : BatchesInv acts s := by
  refine exec_history (fun acts s => (pollsOf acts).Pairwise (·.time ≤ ·.time) → HoldsShort (pollsOf acts) →
    BatchesInv acts s) (fun _ _ => buttonInit_batches) ?_ h htime hhold
  intro acts t a u ht hi hnext htime hhold
  rw [pollsOf_append] at htime hhold
  have hi := hi (List.pairwise_append.1 htime).1 fun past x rest hsplit =>
    hhold past x (rest ++ pollsOf [a]) (by simp [hsplit])
  cases a with
  | pend received => exact pend_batched hi hnext
  | step nowMs => exact pass_batched hi hnext
  | poll p =>
    refine poll_batched hi (fun o ho hb1 => ?_) hnext
    have ho' : o ∈ pollsOf acts := List.mem_reverse.1 (holdStart_mem ho)
    exact ⟨(List.pairwise_append.1 htime).2.2 o ho' p List.mem_cons_self, hhold (pollsOf acts) p [] rfl o ho hb1⟩

theorem BatchesInv.applied {acts : List ButtonAction} {s : ButtonSystem} (hi : BatchesInv acts s) :
    s.control.context.panel.apply s.pendedGesture = (batchesOf acts).done.foldl Panel.apply panelInit := by
  unfold ButtonSystem.pendedGesture
  cases hp : s.pended with
  | none => exact (Panel.apply_none _).trans (hi.handled hp)
  | some pended =>
    obtain ⟨received, events⟩ := pended
    obtain ⟨done, g, hdone, hevents, hpanel⟩ := hi.pended received events hp
    rw [hdone, List.foldl_append, hpanel, ← hevents.gesture]
    rfl

/-- **The flag group merges, and nothing else**: in every interleaving the flags are the gestures since the
last pend, merged, and the panel is the one that the batches before it lead to. -/
theorem buttons_batched (acts : List ButtonAction) (s : ButtonSystem)
    (h : exec buttonNext buttonInit acts = some s) (htime : (pollsOf acts).Pairwise (·.time ≤ ·.time))
    (hhold : HoldsShort (pollsOf acts)) :
    gestureOf s.flags = (batchesOf acts).waiting ∧
      hasEvent s.flags userEvtBuzzerClick = (batchesOf acts).waiting.clicks ∧
      s.control.context.panel.apply s.pendedGesture = (batchesOf acts).done.foldl Panel.apply panelInit := by
  have hi := batches_inv h htime hhold
  exact ⟨hi.flags.gesture, hi.flags.click, hi.applied⟩

/-! ## Presses that are kept -/

/-- Every poll's gesture is mergeable with what it finds waiting. -/
def AllMergeable (acts : List ButtonAction) : Prop :=
  ∀ pre p post, acts = pre ++ .poll p :: post →
    (batchesOf pre).waiting.Mergeable (gestureAt p (batchesOf pre).past)

/-- The batches lead to the panel of all polls, and to one in range. -/
theorem batches_panel {acts : List ButtonAction} (h : AllMergeable acts) :
    ((batchesOf acts).done.foldl Panel.apply panelInit).InRange ∧
      ((batchesOf acts).done.foldl Panel.apply panelInit).apply (batchesOf acts).waiting =
        panelOf (batchesOf acts).past := by
  induction acts using List.reverseRecOn with
  | nil => exact ⟨by simp [batchesOf, batchesInit, panelInit, Panel.InRange], Panel.apply_none _⟩
  | append_singleton acts a ih =>
    obtain ⟨hrange, hpanel⟩ := ih fun pre p post hsplit => h pre p (post ++ [a]) (by simp [hsplit])
    rw [batchesOf_snoc]
    cases a with
    | poll p =>
      have hmerge := Panel.apply_mergeable hrange (h acts p [] rfl)
      exact ⟨hrange, hmerge.trans (congrArg (Panel.apply · _) hpanel)⟩
    | pend received =>
      simp only [Batches.note, List.foldl_append, List.foldl_cons, List.foldl_nil, Panel.apply_none]
      exact ⟨Panel.inRange_apply hrange _, hpanel⟩
    | step nowMs => exact ⟨hrange, hpanel⟩

/-- **Mergeable presses are kept**: in every interleaving where presses only meet in the flags when they are
mergeable, what the controller shows and what it has still to handle is the panel after all polls. -/
theorem mergeable_presses_kept (acts : List ButtonAction) (s : ButtonSystem)
    (h : exec buttonNext buttonInit acts = some s) (htime : (pollsOf acts).Pairwise (·.time ≤ ·.time))
    (hhold : HoldsShort (pollsOf acts)) (hmerge : AllMergeable acts) :
    (s.control.context.panel.apply s.pendedGesture).apply (gestureOf s.flags) =
      panelOf (pollsOf acts).reverse := by
  have hi := batches_inv h htime hhold
  rw [hi.flags.gesture, hi.applied, (batches_panel hmerge).2, batchesOf_past]

/-- Polls that lie in one wrap of the clock hold no button for longer than that. -/
theorem holdsShort_of_within {polls : List ButtonPoll} (start : Nat)
    (hall : ∀ p ∈ polls, start ≤ p.time ∧ p.time < start + 2 ^ 32) : HoldsShort polls := by
  intro past x rest hsplit o ho _
  have hx : x ∈ polls := by simp [hsplit]
  have ho' : o ∈ polls := by
    rw [hsplit]
    exact List.mem_append_left _ (List.mem_reverse.1 (holdStart_mem ho))
  have hx' := hall x hx
  have ho'' := hall o ho'
  omega

/-- A long press and a short one before `ControlTask` runs once. -/
def longAndShort : List ButtonAction :=
  [.poll ⟨false, false, true, 0⟩, .poll ⟨false, false, false, 2000⟩, .poll ⟨false, false, true, 2010⟩,
    .poll ⟨false, false, false, 2050⟩, .pend none, .step 2060]

theorem longAndShort_within : HoldsShort (pollsOf longAndShort) :=
  holdsShort_of_within 0 (by simp [longAndShort, pollsOf])

theorem buttons_batched_longAndShort : ∃ s, exec buttonNext buttonInit longAndShort = some s ∧
    s.control.context.panel.apply s.pendedGesture = (batchesOf longAndShort).done.foldl Panel.apply panelInit ∧
    (batchesOf longAndShort).done = [⟨true, false, false, true⟩] := by
  have hexec : exec buttonNext buttonInit longAndShort = some _ := rfl
  exact ⟨_, hexec, (buttons_batched longAndShort _ hexec (by decide +kernel) longAndShort_within).2.2,
    by decide +kernel⟩

theorem mergeable_presses_kept_longAndShort : ∃ s, exec buttonNext buttonInit longAndShort = some s ∧
    (s.control.context.panel.apply s.pendedGesture).apply (gestureOf s.flags) =
      panelOf (pollsOf longAndShort).reverse ∧
    panelOf (pollsOf longAndShort).reverse = ⟨true, true, 24⟩ := by
  have hexec : exec buttonNext buttonInit longAndShort = some _ := rfl
  refine ⟨_, hexec, mergeable_presses_kept longAndShort _ hexec (by decide +kernel) longAndShort_within ?_,
    by decide +kernel⟩
  intro pre p post hsplit
  rcases pre with _ | ⟨_, _ | ⟨_, _ | ⟨_, _ | ⟨_, pre⟩⟩⟩⟩ <;>
    simp only [longAndShort, List.nil_append, List.cons_append, List.cons.injEq] at hsplit
  · obtain ⟨⟨⟩, -⟩ := hsplit
    decide +kernel
  · obtain ⟨rfl, ⟨⟩, -⟩ := hsplit
    decide +kernel
  · obtain ⟨rfl, rfl, ⟨⟩, -⟩ := hsplit
    decide +kernel
  · obtain ⟨rfl, rfl, rfl, ⟨⟩, -⟩ := hsplit
    decide +kernel
  · obtain ⟨-, -, -, -, hrest⟩ := hsplit
    rcases pre with _ | ⟨_, _ | ⟨_, pre⟩⟩ <;> simp at hrest

end SmartAc
