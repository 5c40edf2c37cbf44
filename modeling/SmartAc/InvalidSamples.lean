import SmartAc.RecoveryWait
import SmartAc.Tm1637Display

/-!
# What the controller does with invalid samples

`SensorTask` publishes the window also when the sensor fails, in a message with `valid = false`. Two
things in `Control_Step` come from such a message all the same. An opening edge takes its humidity as
the baseline when there is no reading yet (`BlindOpening`); as long as no step does, a pause before
the 5 s are over is a rise between two valid samples (`Measured` is the invariant). And `have_sensor`
is never cleared, so a message of a sensor that has failed leaves the last reading on display.
-/

namespace SmartAc

open Machine WrapClock

/-! ## The humidity baseline -/

/-- `o` is the step at which the window was last seen to open: open ever since, and closed or not yet
seen just before. -/
structure OpenedAt (run before : List Sample) (o : Sample) (later : List Sample) : Prop where
  split : run = before ++ o :: later
  opened : ∀ y ∈ o :: later, y.msg.windowOpen = true
  closedBefore : ∀ y ∈ before.getLast?, y.msg.windowOpen = false

/-- Two valid samples with a rise of 10 between them, the second at step `opening` or later. -/
def MeasuredRise (run : List Sample) (opening : Nat) : Prop :=
  ∃ a b i j, run[a]? = some i ∧ run[b]? = some j ∧ a < b ∧ opening ≤ b ∧ i.msg.valid = true ∧
    j.msg.valid = true ∧ 10 ≤ j.msg.humidityPct - i.msg.humidityPct

/-- An opening edge before the first reading, seen in an invalid sample. -/
def BlindOpening (past : List Sample) (x : Sample) : Prop :=
  opens (ctxAfter past) (some x.msg) x.userEvents = true ∧ (ctxAfter past).haveSensor = false ∧
    x.msg.valid = false

/-- No step of the run is a blind opening. -/
def NoBlindOpening (run : List Sample) : Prop :=
  ∀ past x rest, run = past ++ x :: rest → ¬ BlindOpening past x

/-- While the window counts as open, baseline and opening time come from steps of the run, and a latched
pause is 5 s old or rests on a measured rise. -/
structure Measured (past : List Sample) : Prop where
  baseline : (ctxAfter past).windowWasOpen = true → ∃ s ∈ past, s.msg.valid = true ∧
    s.msg.humidityPct = (ctxAfter past).humidityBeforeWindowPct
  since : (ctxAfter past).windowWasOpen = true → ∃ e ∈ past,
    (ctxAfter past).windowOpenSinceMs = reading e.time ∧
      ∀ before o later, OpenedAt past before o later → o.time ≤ e.time
  latched : (ctxAfter past).pauseLatched = true → ∀ before o later, OpenedAt past before o later →
    (∃ y ∈ past, 5000 ≤ y.time - o.time) ∨ MeasuredRise past before.length

theorem MeasuredRise.mono {run : List Sample} {opening : Nat} (h : MeasuredRise run opening)
    (more : List Sample) : MeasuredRise (run ++ more) opening := by
  obtain ⟨a, b, i, j, ha, hb, hrest⟩ := h
  have hkeep : ∀ {k : Nat} {y : Sample}, run[k]? = some y → (run ++ more)[k]? = some y := by
    intro k y hk
    rw [List.getElem?_append_left (List.getElem?_eq_some_iff.1 hk).1]
    exact hk
  exact ⟨a, b, i, j, hkeep ha, hkeep hb, hrest⟩

theorem ctxAfter_window (past : List Sample) :
    (ctxAfter past).windowWasOpen = (past.getLast?.map (·.msg.windowOpen)).getD false := by
  rcases List.eq_nil_or_concat past with rfl | ⟨past, x, rfl⟩
  · rfl
  · rw [List.concat_eq_append, ctxAfter_snoc, step_window, List.getLast?_append]
    rfl

/-- One more step: it opens the window itself, or the opening came before. -/
theorem OpenedAt.snoc {past before later : List Sample} {x o : Sample}
    (h : OpenedAt (past ++ [x]) before o later) :
    (o = x ∧ before = past) ∨ ∃ later', OpenedAt past before o later' := by
  obtain ⟨hsplit, hopen, hbefore⟩ := h
  rcases List.eq_nil_or_concat later with rfl | ⟨later, z, rfl⟩
  · obtain ⟨rfl, hx⟩ := List.append_inj' hsplit rfl
    exact .inl ⟨(List.cons.inj hx).1.symm, rfl⟩
  · have hassoc : past ++ [x] = (before ++ o :: later) ++ [z] := by simpa using hsplit
    refine .inr ⟨later, (List.append_inj' hassoc rfl).1, fun y hy => hopen y ?_, hbefore⟩
    rcases List.mem_cons.1 hy with rfl | hy <;> simp [*]

/-- A window that counts as open was opened before. -/
theorem OpenedAt.of_open {past before later : List Sample} {x o : Sample}
    (h : OpenedAt (past ++ [x]) before o later) (hw : (ctxAfter past).windowWasOpen = true) :
    ∃ later', OpenedAt past before o later' := by
  refine h.snoc.resolve_left ?_
  rintro ⟨rfl, rfl⟩
  rw [ctxAfter_window] at hw
  cases hlast : before.getLast? with
  | none => rw [hlast] at hw; cases hw
  | some y =>
    rw [hlast] at hw
    have hclosed := h.closedBefore y hlast
    rw [show y.msg.windowOpen = true from hw] at hclosed
    cases hclosed

/-- `have_sensor` is clear as long as no valid sample has come. -/
theorem haveSensor_eq_false_iff (past : List ControlInput) :
    (final step controlInit past).haveSensor = false ↔
      ∀ i ∈ past, ∀ s, i.sensor = some s → s.valid = false := by
  rw [run_haveSensor, show controlInit.haveSensor = false from rfl, Bool.false_or, List.any_eq_false]
  refine forall₂_congr fun i _ => ?_
  rw [validSample_isSome_iff]
  simp

/-- The humidity of the context is that of a valid sample of the run. -/
theorem ctxAfter_humidity {past : List Sample} (h : (ctxAfter past).haveSensor = true) :
    ∃ s ∈ past, s.msg.valid = true ∧ s.msg.humidityPct = (ctxAfter past).humidityPct := by
  obtain ⟨m, hm⟩ := run_lastValid _ h
  have hmem := List.mem_of_find?_eq_some hm
  simp only [messages, List.mem_reverse, List.mem_filterMap, List.mem_map] at hmem
  obtain ⟨_, ⟨s, hs, rfl⟩, hsm⟩ := hmem
  have hmsg : s.msg = m := Option.some.inj hsm
  refine ⟨s, hs, ?_, ?_⟩
  · rw [hmsg]; exact List.find?_some hm
  · rw [hmsg]; exact (run_reading _ m hm).2.symm

/-- What an open step does to baseline and opening time. -/
theorem step_edge (ctx : ControlContext) (x : Sample) :
    (stepCtx ctx x.input).humidityBeforeWindowPct =
        (if opens ctx (some x.msg) x.userEvents then baseline ctx (some x.msg)
          else ctx.humidityBeforeWindowPct) ∧
      (stepCtx ctx x.input).windowOpenSinceMs =
        (if opens ctx (some x.msg) x.userEvents then reading x.time else ctx.windowOpenSinceMs) := by
  obtain ⟨c, hc, he⟩ := step_selects ctx x.input
  rw [he]
  dsimp only [Sample.input] at hc ⊢
  cases hc <;> exact ⟨prepare_humidityBeforeWindowPct .., prepare_windowOpenSinceMs ..⟩

/-- An open step that is no edge finds the window open. -/
theorem open_of_not_opens {ctx : ControlContext} {x : Sample} (hx : x.msg.windowOpen = true)
    (h : opens ctx (some x.msg) x.userEvents = false) : ctx.windowWasOpen = true := by
  unfold opens at h
  rw [Option.any_some, hx, Bool.true_and, Bool.not_eq_false', Bool.and_eq_true] at h
  exact h.1

section stepLemmas
variable {past : List Sample} {x : Sample} (h : Measured past)
include h

/-- The baseline after an open step is the humidity of a valid sample. -/
theorem step_baseline (hx : x.msg.windowOpen = true) (hsound : ¬ BlindOpening past x) :
    ∃ s ∈ past ++ [x], s.msg.valid = true ∧
      s.msg.humidityPct = (stepCtx (ctxAfter past) x.input).humidityBeforeWindowPct := by
  rw [(step_edge (ctxAfter past) x).1]
  by_cases hedge : opens (ctxAfter past) (some x.msg) x.userEvents = true
  · rw [if_pos hedge, baseline]
    by_cases hs : (ctxAfter past).haveSensor = true
    · obtain ⟨s, hs', hv, hum⟩ := ctxAfter_humidity hs
      exact ⟨s, List.mem_append_left _ hs', hv, by rw [if_pos hs, hum]⟩
    · have hv : x.msg.valid = true := by
        by_contra hv
        exact hsound ⟨hedge, by simpa using hs, by simpa using hv⟩
      exact ⟨x, by simp, hv, by rw [if_neg hs]; rfl⟩
  · rw [if_neg hedge]
    obtain ⟨s, hs, hv, hum⟩ := h.baseline (open_of_not_opens hx (Bool.eq_false_iff.2 hedge))
    exact ⟨s, List.mem_append_left _ hs, hv, hum⟩

/-- The opening time after an open step is not before the step that opened the window. -/
theorem step_since (htime : ∀ y ∈ past, y.time ≤ x.time) (hx : x.msg.windowOpen = true) :
    ∃ e ∈ past ++ [x], (stepCtx (ctxAfter past) x.input).windowOpenSinceMs = reading e.time ∧
      ∀ before o later, OpenedAt (past ++ [x]) before o later → o.time ≤ e.time := by
  rw [(step_edge (ctxAfter past) x).2]
  by_cases hedge : opens (ctxAfter past) (some x.msg) x.userEvents = true
  · refine ⟨x, by simp, if_pos hedge, fun before o later ho => ?_⟩
    have hmem : o ∈ past ++ [x] := by rw [ho.split]; simp
    rcases List.mem_append.1 hmem with hmem | hmem
    · exact htime o hmem
    · rw [List.mem_singleton.1 hmem]
  · have hw := open_of_not_opens hx (Bool.eq_false_iff.2 hedge)
    obtain ⟨e, he, hsince, hall⟩ := h.since hw
    refine ⟨e, List.mem_append_left _ he, by rw [if_neg hedge, hsince], fun before o later ho => ?_⟩
    obtain ⟨later', ho'⟩ := ho.of_open hw
    exact hall before o later' ho'

/-- **Why a step pauses**: 5 s since the window opened, or a measured rise in the same episode. -/
theorem step_paused (hsound : ¬ BlindOpening past x) (htime : ∀ y ∈ past, y.time ≤ x.time)
    (hspan : ∀ y ∈ past, x.time - y.time < 2 ^ 32)
    (hpaused : (stepCtx (ctxAfter past) x.input).state = .acPaused) {before later : List Sample}
    {o : Sample} (ho : OpenedAt (past ++ [x]) before o later) :
    (∃ y ∈ past ++ [x], 5000 ≤ y.time - o.time) ∨ MeasuredRise (past ++ [x]) before.length := by
  have hx : x.msg.windowOpen = true := by
    have hw := ((step_inv (ctxAfter_inv past) x.input).open_branch (.inl hpaused)).2.2
    rwa [step_window] at hw
  have hlen : before.length ≤ past.length := by
    have := congrArg List.length ho.split
    simp at this
    omega
  obtain ⟨s, hs, hsv, hsbase⟩ := step_baseline h hx hsound
  obtain ⟨e, he, hesince, hefirst⟩ := step_since h htime hx
  obtain ⟨hbase, hsince⟩ := step_edge (ctxAfter past) x
  have hlatched := prepare_latched (ctxAfter_inv past) (some x.msg) x.userEvents (reading x.time)
  have hlatch := prepare_pauseLatched (ctxAfter past) (some x.msg) x.userEvents (reading x.time)
  have hwindow := prepare_windowWasOpen (ctxAfter past) (some x.msg) x.userEvents (reading x.time)
  rw [← prepare_humidityBeforeWindowPct _ _ _ (reading x.time)] at hbase
  rw [← prepare_windowOpenSinceMs _ _ _ (reading x.time)] at hsince
  obtain ⟨c, hc, heq⟩ := step_selects (ctxAfter past) x.input
  rw [heq] at hpaused
  dsimp only [Sample.input] at hc hpaused
  generalize prepare (ctxAfter past) (some x.msg) x.userEvents (reading x.time) = p at *
  cases hc with
  | pause hp hm hopen why =>
    rcases why with hage | hrise | hlat
    · -- the opening time is that of the step `e`, at or after `o`
      refine .inl ⟨x, by simp, ?_⟩
      rw [← hsince, hesince] at hage
      have hex : e.time ≤ x.time ∧ x.time - e.time < 2 ^ 32 := by
        rcases List.mem_append.1 he with he | he
        · exact ⟨htime e he, hspan e he⟩
        · rw [List.mem_singleton.1 he]; omega
      have hlong := (le_sub_reading_iff hex.1 hex.2 _).1 hage
      have hoe := hefirst before o later ho
      have hlimit : appWindowPauseMs.toNat = 5000 := rfl
      omega
    · rw [humidityRise, Option.any_some, Bool.and_eq_true, decide_eq_true_eq, ← hbase, ← hsbase] at hrise
      obtain ⟨hv, hten⟩ := hrise
      rcases List.mem_append.1 hs with hs | hs
      · obtain ⟨a, ha⟩ := List.mem_iff_getElem?.1 hs
        have halt : a < past.length := (List.getElem?_eq_some_iff.1 ha).1
        exact .inr ⟨a, past.length, s, x, by rw [List.getElem?_append_left halt, ha], by simp, halt,
          hlen, hsv, hv, hten⟩
      · -- a sample is no rise over itself
        rw [List.mem_singleton.1 hs, sub_self] at hten
        exact absurd hten (by decide +kernel)
    · obtain ⟨-, -, hw⟩ := hlatched hlat
      rw [hlatch, Bool.and_assoc, Bool.and_eq_true] at hlat
      rw [hwindow, Bool.and_eq_true] at hw
      obtain ⟨later', ho'⟩ := ho.of_open hw.1
      rcases h.latched hlat.1 before o later' ho' with ⟨y, hy, hlong⟩ | hrise
      · exact .inl ⟨y, List.mem_append_left _ hy, hlong⟩
      · exact .inr (hrise.mono [x])
  | off hp => cases hpaused
  | manual hp hm => cases hpaused
  | suspect hp hm hopen hage hrise hl => cases hpaused
  | startWait hp hm hopen hw => cases hpaused
  | keepWait hp hm hopen hw hs hage => cases hpaused
  | cool hp hm hopen hw hdone hc => cases hpaused
  | idle hp hm hopen hw hdone hc => cases hpaused

/-- **Step lemma**: a step that is no blind opening keeps baseline, opening time and latch measured. -/
theorem measured_snoc (hsound : ¬ BlindOpening past x) (htime : ∀ y ∈ past, y.time ≤ x.time)
    (hspan : ∀ y ∈ past, x.time - y.time < 2 ^ 32) : Measured (past ++ [x]) := by
  have hwindow : (ctxAfter (past ++ [x])).windowWasOpen = x.msg.windowOpen := by
    rw [ctxAfter_snoc, step_window]
  refine ⟨fun hw => ?_, fun hw => ?_, fun hl before o later ho => ?_⟩
  · rw [ctxAfter_snoc]
    exact step_baseline h (hwindow ▸ hw) hsound
  · rw [ctxAfter_snoc]
    exact step_since h htime (hwindow ▸ hw)
  · rw [(ctxAfter_inv _).latched_iff, ctxAfter_snoc] at hl
    exact step_paused h hsound htime hspan hl ho

end stepLemmas

/-- **Run lemma**. -/
theorem run_measured (run : List Sample) (htime : run.Pairwise (·.time ≤ ·.time))
    (hspan : ∀ x ∈ run, ∀ y ∈ run, y.time - x.time < 2 ^ 32) (hsound : NoBlindOpening run) :
    Measured run := by
  induction run using List.reverseRecOn with
  | nil => exact ⟨nofun, nofun, nofun⟩
  | append_singleton past x ih =>
    obtain ⟨hpast, -, hlast⟩ := List.pairwise_append.1 htime
    have hspan' : ∀ y ∈ past, ∀ z ∈ past, z.time - y.time < 2 ^ 32 := fun y hy z hz =>
      hspan y (List.mem_append_left _ hy) z (List.mem_append_left _ hz)
    have hsound' : NoBlindOpening past := fun p y q hsplit => hsound p y (q ++ [x]) (by simp [hsplit])
    exact measured_snoc (ih hpast hspan' hsound') (hsound past x [] rfl)
      (fun y hy => hlast y hy x List.mem_cons_self)
      (fun y hy => hspan y (List.mem_append_left _ hy) x (by simp))

/-- A pause less than 5 s after the window was last seen to open comes from a measured rise, and the
baseline of an open window is the humidity of a valid sample. -/
def PausesOnRise (run : List Sample) : Prop :=
  ∀ past x rest, run = past ++ x :: rest →
    ((step (ctxAfter past) x.input).2.state = .acPaused → ∀ before o later,
      OpenedAt (past ++ [x]) before o later → x.time - o.time < appWindowPauseMs.toNat →
        MeasuredRise (past ++ [x]) before.length) ∧
    (x.msg.windowOpen = true → ∃ s ∈ past ++ [x], s.msg.valid = true ∧
      s.msg.humidityPct = (step (ctxAfter past) x.input).1.humidityBeforeWindowPct)

/-- **No early pause without a measured rise, as long as no step is a blind opening.** -/
theorem pauses_on_rise (run : List Sample) (htime : run.Pairwise (·.time ≤ ·.time))
    (hspan : ∀ x ∈ run, ∀ y ∈ run, y.time - x.time < 2 ^ 32) (hsound : NoBlindOpening run) :
    PausesOnRise run := by
  rintro past x rest rfl
  have hsplit : past ++ x :: rest = (past ++ [x]) ++ rest := by simp
  rw [hsplit] at htime hspan hsound
  obtain ⟨hpre, -, -⟩ := List.pairwise_append.1 htime
  obtain ⟨hpast, -, hlast⟩ := List.pairwise_append.1 hpre
  have hspan' : ∀ y ∈ past ++ [x], ∀ z ∈ past ++ [x], z.time - y.time < 2 ^ 32 := fun y hy z hz =>
    hspan y (List.mem_append_left _ hy) z (List.mem_append_left _ hz)
  have hsound' : NoBlindOpening (past ++ [x]) := fun p y q hs => hsound p y (q ++ rest) (by simp [hs])
  have hmeasured : Measured past := run_measured past hpast
    (fun y hy z hz => hspan' y (List.mem_append_left _ hy) z (List.mem_append_left _ hz))
    fun p y q hs => hsound' p y (q ++ [x]) (by simp [hs])
  have htimes : ∀ y ∈ past, y.time ≤ x.time := fun y hy => hlast y hy x List.mem_cons_self
  constructor
  · intro hpaused before o later ho hshort
    have hcases := step_paused hmeasured (hsound' past x [] rfl) htimes
      (fun y hy => hspan' y (List.mem_append_left _ hy) x (by simp)) hpaused ho
    refine hcases.resolve_left ?_
    rintro ⟨y, hy, hlong⟩
    have hyx : y.time ≤ x.time := by
      rcases List.mem_append.1 hy with hy | hy
      · exact htimes y hy
      · rw [List.mem_singleton.1 hy]
    have hlimit : appWindowPauseMs.toNat = 5000 := rfl
    omega
  · intro hx
    exact step_baseline hmeasured hx (hsound' past x [] rfl)

/-- The window opens between two readings, and the humidity rises by 15 within a second. -/
def measuredPause : List Sample :=
  [⟨⟨25, 40, false, true⟩, userEvtPower, 1000⟩, ⟨⟨25, 40, true, true⟩, 0, 2000⟩,
    ⟨⟨25, 55, true, true⟩, 0, 3000⟩]

theorem pauses_on_rise_measuredPause : PausesOnRise measuredPause := by
  refine pauses_on_rise measuredPause (by decide +kernel) (by decide +kernel) ?_
  rintro past x rest hsplit ⟨-, -, hv⟩
  have hx : x ∈ measuredPause := by rw [hsplit]; simp
  have hall : ∀ y ∈ measuredPause, y.msg.valid = true := by decide +kernel
  rw [hall x hx] at hv
  cases hv

/-- The first message has the window open and no reading, the second brings the only reading there is:
40 percent humidity, 40 above the 0 of the failed read. -/
def blindPause : List Sample :=
  [⟨⟨0, 0, true, false⟩, userEvtPower, 1000⟩, ⟨⟨25, 40, true, true⟩, 0, 3500⟩]

/-- AC_PAUSED 2.5 s after the window opened, on a single reading. -/
theorem pauses_on_one_reading : ¬ ∀ run : List Sample, run.Pairwise (·.time ≤ ·.time) →
    (∀ x ∈ run, ∀ y ∈ run, y.time - x.time < 2 ^ 32) → PausesOnRise run := by
  intro h
  have hstep := (h blindPause (by decide +kernel) (by decide +kernel) (blindPause.take 1)
    ⟨⟨25, 40, true, true⟩, 0, 3500⟩ [] rfl).1 (by decide +kernel)
  obtain ⟨a, b, i, j, ha, hb, hlt, -, hi, -, -⟩ := hstep [] ⟨⟨0, 0, true, false⟩, userEvtPower, 1000⟩
    [⟨⟨25, 40, true, true⟩, 0, 3500⟩] ⟨rfl, by decide +kernel, nofun⟩ (by decide)
  have hb' : b < 2 := (List.getElem?_eq_some_iff.1 hb).1
  obtain rfl : a = 0 := by omega
  cases ha
  cases hi

/-- From every context events can be pressed that lead to automatic mode. -/
theorem exists_auto {ctx : ControlContext} (hi : ControlInv ctx) : ∃ userEvents,
    poweredAfter ctx userEvents = true ∧ manualAfter ctx userEvents = false ∧
      powersOff ctx userEvents = false := by
  have hmp := hi.manual_powered
  cases hp : ctx.powered with
  | false =>
    have hm : ctx.manual = false := by
      rw [hp] at hmp
      simpa using hmp
    refine ⟨userEvtPower, ?_⟩
    rw [manualAfter, togglesManual, poweredAfter, powersOff, hp, hm]
    decide
  | true =>
    cases hm : ctx.manual with
    | false =>
      refine ⟨0, ?_⟩
      rw [manualAfter, togglesManual, poweredAfter, powersOff, hp, hm]
      decide
    | true =>
      refine ⟨userEvtManual, ?_⟩
      rw [manualAfter, togglesManual, poweredAfter, powersOff, hp, hm]
      decide

/-- **A blind opening can always go wrong**: the next message, if it brings the first reading, 10 above
the invalid humidity, pauses without any rise measured. -/
theorem blindOpening_pauses {past : List Sample} {x : Sample} (h : BlindOpening past x) :
    ∃ y : Sample, y.time = x.time ∧
      (step (ctxAfter (past ++ [x])) y.input).2.state = .acPaused ∧
      ∀ opening, ¬ MeasuredRise (past ++ [x] ++ [y]) opening := by
  obtain ⟨hopens, hsensor, hinvalid⟩ := h
  have hx : x.msg.windowOpen = true := by
    unfold opens at hopens
    rw [Bool.and_eq_true] at hopens
    exact hopens.1
  have hw : (ctxAfter (past ++ [x])).windowWasOpen = true := by rw [ctxAfter_snoc, step_window, hx]
  obtain ⟨userEvents, hon, hauto, hoff⟩ := exists_auto (ctxAfter_inv (past ++ [x]))
  generalize hctx : ctxAfter (past ++ [x]) = ctx at *
  let msg : SensorMsg := ⟨0, ctx.humidityBeforeWindowPct + 10, true, true⟩
  refine ⟨⟨msg, userEvents, x.time⟩, rfl, ?_, ?_⟩
  · have hp' := prepare_powered ctx (some msg) userEvents (reading x.time)
    have hm' := prepare_manual ctx (some msg) userEvents (reading x.time)
    have hbase := prepare_humidityBeforeWindowPct ctx (some msg) userEvents (reading x.time)
    have hedge : opens ctx (some msg) userEvents = false := by
      rw [opens, hw, hoff]
      rfl
    rw [hedge] at hbase
    have hrise : humidityRise (prepare ctx (some msg) userEvents (reading x.time)) (some msg) = true := by
      rw [humidityRise, hbase]
      simp [msg, appHumidityRisePct]
    obtain ⟨c, hc, heq⟩ := step_selects ctx ⟨some msg, userEvents, reading x.time⟩
    change (stepCtx ctx _).state = _
    rw [show (Sample.input ⟨msg, userEvents, x.time⟩) = ⟨some msg, userEvents, reading x.time⟩ from rfl,
      heq]
    dsimp only at hc ⊢
    generalize prepare ctx (some msg) userEvents (reading x.time) = p at *
    cases hc with
    | pause hp hm hopen why => rfl
    | off hp => rw [hp'.trans hon] at hp; cases hp
    | manual hp hm => rw [hm'.trans hauto] at hm; cases hm
    | suspect hp hm hopen hage hrise' hl => rw [hrise] at hrise'; cases hrise'
    | startWait hp hm hopen hw => cases hopen
    | keepWait hp hm hopen hw hs hage => cases hopen
    | cool hp hm hopen hw hdone hc => cases hopen
    | idle hp hm hopen hw hdone hc => cases hopen
  · -- before `y` there is no valid sample at all
    have hnone : ∀ s ∈ past ++ [x], s.msg.valid = false := by
      intro s hs
      rcases List.mem_append.1 hs with hs | hs
      · exact (haveSensor_eq_false_iff (past.map Sample.input)).1 hsensor s.input (List.mem_map_of_mem hs)
          s.msg rfl
      · rw [List.mem_singleton.1 hs]
        exact hinvalid
    rintro opening ⟨a, b, i, j, ha, hb, hlt, -, hi, -, -⟩
    have hb' := (List.getElem?_eq_some_iff.1 hb).1
    rw [List.length_append, List.length_singleton] at hb'
    rw [List.getElem?_append_left (by omega)] at ha
    rw [hnone i (List.mem_of_getElem? ha)] at hi
    cases hi

/-! ## Failed reads -/

/-- **When a failed read is not shown**: the step of an invalid sample puts out no temperature, dashes on
the display and no COOLING if and only if there has been no valid sample yet. -/
theorem failed_read_hidden_iff (past : List ControlInput) (msg : SensorMsg) (userEvents nowMs : UInt32)
    (hmsg : msg.valid = false) :
    let output := (step (final step controlInit past) ⟨some msg, userEvents, nowMs⟩).2
    (output.temperatureValid = false ∧
      (∀ m : DisplayMsg, m.temperatureValid = output.temperatureValid →
        tm1637PutTemperature m = (tm1637CharSegment '-', tm1637CharSegment '-')) ∧
      output.state ≠ .cooling) ↔
    ∀ i ∈ past, ∀ s, i.sensor = some s → s.valid = false := by
  intro output
  have hctx : output = controlOutput (stepCtx (final step controlInit past) ⟨some msg, userEvents, nowMs⟩) :=
    rfl
  have hsensor := (step_frame (final step controlInit past) ⟨some msg, userEvents, nowMs⟩).2.2.2.1
  have hinv := step_inv (run_inv past) ⟨some msg, userEvents, nowMs⟩
  generalize stepCtx (final step controlInit past) ⟨some msg, userEvents, nowMs⟩ = ctx at hctx hsensor hinv
  rw [validSample_invalid hmsg, Option.isSome_none, Bool.or_false] at hsensor
  have hvalid : output.temperatureValid = ctx.haveSensor := by rw [hctx]; rfl
  rw [← haveSensor_eq_false_iff, ← hsensor, hvalid]
  refine ⟨fun h => h.1, fun h => ⟨h, fun m hm => ?_, fun hcool => ?_⟩⟩
  · exact (putTemperature_dashes_iff m).2 (hm.trans h)
  · -- COOLING asks for a reading
    rw [hctx] at hcool
    have hwants := hinv.cooling_wanted hcool
    rw [wantsCooling, h] at hwants
    cases hwants

/-- Failed reads only, while the button is pressed and the window opens and closes. -/
def failing : List ControlInput :=
  [⟨some ⟨0, 0, false, false⟩, userEvtPower, 1000⟩, ⟨some ⟨0, 0, true, false⟩, userEvtSetpointUp, 3500⟩,
    ⟨none, userEvtManual, 4000⟩, ⟨none, userEvtManual, 4500⟩, ⟨some ⟨0, 0, false, false⟩, 0, 6000⟩]

theorem failed_read_hidden_iff_failing :
    let output := (step (final step controlInit failing) ⟨some ⟨0, 0, false, false⟩, userEvtSetpointDown, 12000⟩).2
    output.temperatureValid = false ∧
      (∀ m : DisplayMsg, m.temperatureValid = output.temperatureValid →
        tm1637PutTemperature m = (tm1637CharSegment '-', tm1637CharSegment '-')) ∧
      output.state ≠ .cooling :=
  (failed_read_hidden_iff failing ⟨0, 0, false, false⟩ userEvtSetpointDown 12000 rfl).2 (by simp [failing])

/-- The sensor dies while the room is cooled at 30 degrees: the last reading stays, and so does COOLING. -/
theorem failed_read_shown : ¬ ∀ (past : List Sample) (x : Sample), x.msg.valid = false →
    (step (ctxAfter past) x.input).2.temperatureValid = false ∧
      (step (ctxAfter past) x.input).2.state ≠ .cooling := by
  intro h
  have hstep := h [⟨⟨30, 40, false, true⟩, userEvtPower, 1000⟩] ⟨⟨30, 40, false, false⟩, 0, 3500⟩ rfl
  exact absurd hstep.1 (by decide +kernel)

end SmartAc
