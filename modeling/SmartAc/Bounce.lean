import Mathlib.Data.List.SplitBy
import SmartAc.UserInput

/-!
# Contact bounce: `DebounceButton` and `UserInputTask`

| here | there |
| --- | --- |
| `debounced`, `pressAt` | `*db` after the samples, and what the next call returns (`app_tasks.c:181-193`) |
| `settledPolls`         | the polls with every run of levels below `APP_DEBOUNCE_SAMPLES` (`app_config.h:14`) taken out |
| `upEvents`, `downEvents`, `b1Events` | how many `USER_EVT_…` bits of a button are posted (`app_tasks.c:211-232`) |

UP and DOWN go through the debouncer, B1 does not: its two edges are read off single polls. The first
half says what the debouncer does in terms of all samples so far. The second compares the task on a
sequence of polls and on the same polls without their short runs, run by run.
-/

namespace SmartAc

open Machine WrapClock

/-! ## The debouncer's history -/

/-- `*db` after the samples, oldest first. -/
def debounced (samples : List Bool) : ButtonDebounce := final debounceButton debounceInit samples

/-- What `DebounceButton` returns for `raw` after the samples `past`, oldest first. -/
def pressAt (past : List Bool) (raw : Bool) : Bool := (debounceButton (debounced past) raw).2

theorem debounced_spec (samples : List Bool) : Debounced (debounced samples) samples.reverse := by
  induction samples using List.reverseRecOn with
  | nil => exact debounceInit_debounced
  | append_singleton samples s ih =>
    rw [debounced, final_snoc, List.reverse_append]
    exact (debounceButton_debounced ih s).1

theorem pressAt_eq (past : List Bool) (raw : Bool) :
    pressAt past raw = (stableLevel (raw :: past.reverse) && !stableLevel past.reverse) :=
  (debounceButton_debounced (debounced_spec past) raw).2

theorem le_trailing_iff (level : Bool) (n : Nat) (samples : List Bool) :
    n ≤ trailing level samples ↔ List.replicate n level <+: samples := by
  induction n generalizing samples with
  | zero => simp
  | succ n ih =>
    cases samples with
    | nil => simp [trailing]
    | cons s past =>
      rw [List.replicate_succ, List.cons_prefix_cons, ← ih]
      by_cases hs : level = s
      · rw [hs, trailing_self]
        simp
      · have hs' : s = !level := by cases level <;> cases s <;> simp_all
        rw [hs', show trailing level ((!level) :: past) = 0 by cases level <;> simp [trailing]]
        simp

/-- `stableLevel` finds the latest five pressed samples in a row, and no five released ones since. -/
theorem stableLevel_eq_true_iff (samples : List Bool) : stableLevel samples = true ↔
    ∃ newer older, samples = newer ++ List.replicate appDebounceSamples true ++ older ∧
      ¬ List.replicate appDebounceSamples false <:+: newer := by
  induction samples with
  | nil =>
    refine ⟨fun h => absurd h (by decide), ?_⟩
    rintro ⟨newer, older, hsplit, -⟩
    have hlen := congrArg List.length hsplit
    simp [appDebounceSamples] at hlen
  | cons s past ih =>
    rw [stableLevel]
    by_cases hrun : appDebounceSamples ≤ trailing s (s :: past)
    · rw [if_pos hrun]
      obtain ⟨older, holder⟩ := (le_trailing_iff s _ _).1 hrun
      constructor
      · rintro rfl
        exact ⟨[], older, holder.symm, by simp [appDebounceSamples]⟩
      · rintro ⟨newer, older', hsplit, hnone⟩
        by_contra hs
        rw [Bool.not_eq_true] at hs
        subst hs
        -- the five latest samples are released, so they are all newer than the pressed ones
        rw [← holder, List.append_assoc] at hsplit
        rcases List.append_eq_append_iff.1 hsplit with ⟨mid, hmid, -⟩ | ⟨mid, hmid, hrest⟩
        · exact hnone ⟨[], mid, by rw [hmid]; rfl⟩
        · cases mid with
          | nil => exact hnone ⟨[], [], by simpa using hmid⟩
          | cons b mid =>
            have hb : b ∈ List.replicate appDebounceSamples false := by rw [hmid]; simp
            have hb' : true = b := (List.cons.inj hrest).1
            rw [List.eq_of_mem_replicate hb] at hb'
            exact absurd hb' (by decide)
    · rw [if_neg hrun, ih]
      rw [le_trailing_iff] at hrun
      constructor
      · rintro ⟨newer, older, rfl, hnone⟩
        refine ⟨s :: newer, older, rfl, fun hin => ?_⟩
        rcases List.infix_cons_iff.1 hin with hpre | hin
        · have hs : s = false := (List.cons.inj hpre.choose_spec).1.symm
          rw [hs, List.append_assoc, ← List.cons_append] at hrun
          rw [hs] at hpre
          exact hrun (hpre.trans (List.prefix_append _ _))
        · exact hnone hin
      · rintro ⟨newer, older, hsplit, hnone⟩
        cases newer with
        | nil =>
          have hs : s = true := (List.cons.inj hsplit).1
          rw [hsplit, hs] at hrun
          exact absurd (List.prefix_append _ _) hrun
        | cons b newer =>
          obtain ⟨-, hpast⟩ := List.cons.inj hsplit
          exact ⟨newer, older, hpast, fun hin => hnone (hin.trans (List.suffix_cons _ _).isInfix)⟩

/-- A press is accepted at the fifth sample of a pressed run. Samples are the most recent first. -/
theorem press_fifth {raw : Bool} {past : List Bool} (hafter : stableLevel (raw :: past) = true)
    (hbefore : stableLevel past = false) :
    ∃ older, raw :: past = List.replicate appDebounceSamples true ++ older ∧
      older.head? ≠ some true := by
  rw [stableLevel] at hafter
  split at hafter
  case isFalse => rw [hbefore] at hafter; cases hafter
  case isTrue hrun =>
    subst hafter
    obtain ⟨older, holder⟩ := (le_trailing_iff true _ _).1 hrun
    refine ⟨older, holder.symm, fun hhead => ?_⟩
    -- a sixth pressed sample would have been a stable level before
    obtain ⟨rest, rfl⟩ : ∃ rest, older = true :: rest := List.head?_eq_some_iff.1 hhead
    have hpast : past = List.replicate appDebounceSamples true ++ rest :=
      (List.cons.inj holder).2.symm
    have hstable : stableLevel past = true :=
      (stableLevel_eq_true_iff past).2 ⟨[], rest, hpast, by simp [appDebounceSamples]⟩
    rw [hbefore] at hstable
    cases hstable

theorem false_run_infix_cons_true {n : Nat} {samples : List Bool} :
    List.replicate (n + 1) false <:+: true :: samples ↔ List.replicate (n + 1) false <:+: samples := by
  refine ⟨fun h => ?_, fun h => h.trans (List.suffix_cons _ _).isInfix⟩
  rcases List.infix_cons_iff.1 h with hpre | h
  · rw [List.replicate_succ, List.cons_prefix_cons] at hpre
    exact absurd hpre.1 (by decide)
  · exact h

/-- Between two accepted presses there are five released samples in a row and then four pressed ones. -/
theorem press_gap {a b : Bool} {mid past : List Bool} (ha : stableLevel (a :: past) = true)
    (ha' : stableLevel past = false) (hb : stableLevel (b :: (mid ++ a :: past)) = true)
    (hb' : stableLevel (mid ++ a :: past) = false) :
    ∃ newer older, mid = List.replicate 4 true ++ newer ++
      List.replicate appDebounceSamples false ++ older := by
  obtain ⟨before, hbefore, -⟩ := press_fifth ha ha'
  obtain ⟨before', hbefore', -⟩ := press_fifth hb hb'
  have hreleased : List.replicate appDebounceSamples false <:+: mid := by
    by_contra hnone
    have hstable := (stableLevel_eq_true_iff (mid ++ a :: past)).2
      ⟨mid, before, by rw [hbefore, List.append_assoc], hnone⟩
    rw [hb'] at hstable
    cases hstable
  have hfour : List.replicate 4 true <+: mid := by
    have hlen := hreleased.length_le
    rw [List.length_replicate] at hlen
    have hpre : List.replicate 4 true <+: mid ++ a :: past :=
      ⟨before', (List.cons.inj hbefore').2.symm⟩
    exact List.prefix_of_prefix_length_le hpre (List.prefix_append _ _)
      (by rw [List.length_replicate]; exact Nat.le_trans (by decide) hlen)
  obtain ⟨rest, hrest⟩ := hfour
  have hin : List.replicate appDebounceSamples false <:+: rest := by
    rw [← hrest] at hreleased
    exact false_run_infix_cons_true.1 (false_run_infix_cons_true.1
      (false_run_infix_cons_true.1 (false_run_infix_cons_true.1 hreleased)))
  obtain ⟨newer, older, hsplit⟩ := hin
  exact ⟨newer, older, by rw [← hrest, ← hsplit]; simp⟩

/-- **The debouncer is its history**: the level of the latest run of five, the samples that differ from
it since, and a press at every change from released to pressed, which is the fifth sample of a pressed
run. Between two presses lie at least nine samples, five released ones in a row among them. -/
theorem debounce_history :
    (∀ samples, Debounced (debounced samples) samples.reverse) ∧
    (∀ past raw, pressAt past raw = true ↔
      (debounced past).pressed = false ∧ (debounced (past ++ [raw])).pressed = true) ∧
    (∀ past raw, pressAt past raw = true → ∃ older,
      past ++ [raw] = older ++ List.replicate appDebounceSamples true ∧
        older.getLast? ≠ some true) ∧
    (∀ past a mid b, pressAt past a = true → pressAt (past ++ a :: mid) b = true →
      10 ≤ (a :: mid).length ∧ List.replicate appDebounceSamples false <:+: mid) := by
  refine ⟨debounced_spec, fun past raw => ?_, fun past raw h => ?_, fun past a mid b ha hb => ?_⟩
  · rw [pressAt_eq, (debounced_spec past).pressed, (debounced_spec (past ++ [raw])).pressed,
      List.reverse_append, Bool.and_eq_true, Bool.not_eq_true', and_comm]
    rfl
  · rw [pressAt_eq, Bool.and_eq_true, Bool.not_eq_true'] at h
    obtain ⟨older, hsplit, hhead⟩ := press_fifth h.1 h.2
    refine ⟨older.reverse, ?_, by rwa [List.getLast?_reverse]⟩
    have hrev := congrArg List.reverse hsplit
    rwa [List.reverse_cons, List.reverse_reverse, List.reverse_append, List.reverse_replicate] at hrev
  · rw [pressAt_eq, Bool.and_eq_true, Bool.not_eq_true'] at ha hb
    rw [show (past ++ a :: mid).reverse = mid.reverse ++ a :: past.reverse by simp] at hb
    obtain ⟨newer, older, hsplit⟩ := press_gap ha.1 ha.2 hb.1 hb.2
    have hmid : mid = older.reverse ++ List.replicate appDebounceSamples false ++
        (newer.reverse ++ List.replicate 4 true) := by
      have hrev := congrArg List.reverse hsplit
      simpa using hrev
    refine ⟨?_, ⟨older.reverse, newer.reverse ++ List.replicate 4 true, hmid.symm⟩⟩
    have hlen := congrArg List.length hmid
    simp [appDebounceSamples] at hlen
    simp
    omega

/-! ## Runs of a level -/

/-- The maximal runs of equal levels, oldest first. -/
def runsOf (levels : List Bool) : List (List Bool) := levels.splitBy (· == ·)

/-- Runs of fewer than five polls take the level of the latest longer one, `level` at first. -/
def settleRuns (level : Bool) : List (List Bool) → List Bool
  | [] => []
  | run :: runs =>
    if appDebounceSamples ≤ run.length then run ++ settleRuns (run.headD level) runs
    else List.replicate run.length level ++ settleRuns level runs

def settled (levels : List Bool) : List Bool := settleRuns false (runsOf levels)

/-- The same polls with the short runs of each button taken out. -/
def settledPolls (polls : List ButtonPoll) : List ButtonPoll :=
  List.zipWith (fun p levels => ⟨levels.1, levels.2.1, levels.2.2, p.time⟩) polls
    ((settled (polls.map (·.up))).zip
      ((settled (polls.map (·.down))).zip (settled (polls.map (·.b1)))))

/-- Runs that alternate, the first of them at `level`. -/
def AltRuns : Bool → List (List Bool) → Prop
  | _, [] => True
  | level, run :: runs => (∃ n, run = List.replicate (n + 1) level) ∧ AltRuns (!level) runs

theorem run_eq_replicate {level : Bool} {rest : List Bool}
    (h : (level :: rest).IsChain fun x y => (x == y) = true) :
    level :: rest = List.replicate (rest.length + 1) level := by
  induction rest generalizing level with
  | nil => rfl
  | cons s rest ih =>
    obtain ⟨hs, hrest⟩ := List.isChain_cons_cons.1 h
    obtain rfl := eq_of_beq hs
    rw [List.length_cons, List.replicate_succ, ← ih hrest]

/-- What `List.splitBy` promises: equal inside a run, different from one run to the next. -/
theorem altRuns_of_chain {level : Bool} {runs : List (List Bool)} (hnil : [] ∉ runs)
    (hin : ∀ run ∈ runs, run.IsChain fun x y => (x == y) = true)
    (hnext : runs.IsChain fun a b => ∃ ha hb, (a.getLast ha == b.head hb) = false)
    (hhead : ∀ run ∈ runs.head?, run.head? = some level) : AltRuns level runs := by
  induction runs generalizing level with
  | nil => exact trivial
  | cons run runs ih =>
    obtain ⟨rest, rfl⟩ := List.head?_eq_some_iff.1 (hhead run rfl)
    have hrun := run_eq_replicate (hin _ List.mem_cons_self)
    refine ⟨⟨rest.length, hrun⟩, ih (fun h => hnil (List.mem_cons_of_mem _ h))
      (fun r hr => hin r (List.mem_cons_of_mem _ hr)) hnext.tail fun r hr => ?_⟩
    obtain ⟨more, rfl⟩ := List.head?_eq_some_iff.1 hr
    obtain ⟨ha, hb, hne⟩ := (List.isChain_cons_cons.1 hnext).1
    have hall : ∀ x ∈ level :: rest, x = level := by
      rw [hrun]
      exact fun x hx => List.eq_of_mem_replicate hx
    rw [hall _ (List.getLast_mem ha)] at hne
    rw [List.head?_eq_some_head hb, Bool.eq_not.2 (ne_of_beq_false hne).symm]

theorem runsOf_alt (levels : List Bool) : AltRuns (levels.headD false) (runsOf levels) := by
  refine altRuns_of_chain (List.nil_notMem_splitBy _ _) (fun _ => List.isChain_of_mem_splitBy)
    (List.isChain_getLast_head_splitBy _ _) fun run hrun => ?_
  cases levels with
  | nil => cases hrun
  | cons s rest =>
    have hhead := List.head_head_splitBy (· == ·) (List.cons_ne_nil s rest)
    have hne : (s :: rest).splitBy (· == ·) ≠ [] := List.splitBy_ne_nil.2 (List.cons_ne_nil s rest)
    have hfirst := Option.some.inj ((List.head?_eq_some_head hne).symm.trans hrun)
    subst hfirst
    rw [List.head?_eq_some_head (List.ne_nil_of_mem_splitBy (List.head_mem hne)), hhead]
    rfl

theorem runsOf_flatten (levels : List Bool) : (runsOf levels).flatten = levels :=
  List.flatten_splitBy _ _

theorem settleRuns_length (level : Bool) (runs : List (List Bool)) :
    (settleRuns level runs).length = runs.flatten.length := by
  induction runs generalizing level with
  | nil => rfl
  | cons run runs ih =>
    rw [settleRuns]
    split <;> simp [ih]

/-- A run settles to its own level, or to that of the latest long one. -/
theorem settleRuns_cons (level first : Bool) (n : Nat) (runs : List (List Bool)) :
    settleRuns level (List.replicate (n + 1) first :: runs) =
      if appDebounceSamples ≤ n + 1 then List.replicate (n + 1) first ++ settleRuns first runs
      else List.replicate (n + 1) level ++ settleRuns level runs := by
  rw [settleRuns, List.length_replicate]
  rfl

/-! ## Counting events -/

/-- How many presses the debouncer accepts among the samples. -/
def presses (db : ButtonDebounce) (samples : List Bool) : Nat :=
  (outputs debounceButton db samples).count true

/-- A released poll after a pressed one: the new `b1_was_pressed`, and whether B1 was released. -/
def b1Edge (wasPressed pressed : Bool) : Bool × Bool := (pressed, !pressed && wasPressed)

/-- How many releases of B1 there are among the levels. -/
def releases (wasPressed : Bool) (levels : List Bool) : Nat :=
  (outputs b1Edge wasPressed levels).count true

theorem presses_append (db : ButtonDebounce) (samples more : List Bool) :
    presses db (samples ++ more) = presses db samples + presses (final debounceButton db samples) more := by
  simp [presses, outputs_append]

theorem releases_append (wasPressed : Bool) (levels more : List Bool) :
    releases wasPressed (levels ++ more) =
      releases wasPressed levels + releases (final b1Edge wasPressed levels) more := by
  simp [releases, outputs_append]

/-- Samples at the accepted level: nothing happens, and the count is back to 0. -/
theorem debounce_same (level : Bool) (count n : Nat) :
    final debounceButton ⟨level, count⟩ (List.replicate (n + 1) level) = ⟨level, 0⟩ ∧
      presses ⟨level, count⟩ (List.replicate (n + 1) level) = 0 := by
  have hstep : ∀ c, debounceButton ⟨level, c⟩ level = (⟨level, 0⟩, false) := fun _ => if_pos rfl
  induction n generalizing count with
  | zero => simp [presses, hstep]
  | succ n ih =>
    obtain ⟨hfinal, hpresses⟩ := ih 0
    rw [List.replicate_succ]
    refine ⟨by rw [final_cons, hstep, hfinal], ?_⟩
    rw [presses, outputs_cons, hstep, List.count_cons_of_ne Bool.false_ne_true]
    exact hpresses

/-- Samples at the other level, too few to be accepted. -/
theorem debounce_short (level : Bool) {n : Nat} (hshort : n < appDebounceSamples) :
    final debounceButton ⟨!level, 0⟩ (List.replicate n level) = ⟨!level, n⟩ ∧
      presses ⟨!level, 0⟩ (List.replicate n level) = 0 := by
  revert level n
  decide

/-- Samples at the other level, enough to be accepted. -/
theorem debounce_long (level : Bool) {n : Nat} (hlong : appDebounceSamples ≤ n) :
    final debounceButton ⟨!level, 0⟩ (List.replicate n level) = ⟨level, 0⟩ ∧
      presses ⟨!level, 0⟩ (List.replicate n level) = level.toNat := by
  obtain ⟨m, rfl⟩ := Nat.exists_eq_add_of_le hlong
  have hfive : final debounceButton ⟨!level, 0⟩ (List.replicate appDebounceSamples level) = ⟨level, 0⟩ ∧
      presses ⟨!level, 0⟩ (List.replicate appDebounceSamples level) = level.toNat := by
    revert level
    decide
  rw [List.replicate_add, final_append, presses_append, hfive.1, hfive.2]
  cases m with
  | zero => exact ⟨rfl, rfl⟩
  | succ m =>
    obtain ⟨hfinal, hpresses⟩ := debounce_same level 0 m
    exact ⟨hfinal, by rw [hpresses, Nat.add_zero]⟩

/-- **Run lemma** for UP and DOWN: the debouncer accepts the same presses when short runs are taken
out. Between two runs it holds the level of the latest long one. -/
theorem presses_settleRuns {level first : Bool} {runs : List (List Bool)} (halt : AltRuns first runs)
    {count : Nat} (hcount : first ≠ level → count = 0) :
    presses ⟨level, count⟩ runs.flatten = presses ⟨level, 0⟩ (settleRuns level runs) := by
  induction runs generalizing level first count with
  | nil => rfl
  | cons run runs ih =>
    obtain ⟨⟨n, rfl⟩, hrest⟩ := halt
    rw [List.flatten_cons, settleRuns_cons, presses_append]
    by_cases hlevel : first = level
    · -- short or long, the run is at the accepted level
      subst hlevel
      obtain ⟨hfinal, hpresses⟩ := debounce_same first count n
      obtain ⟨hfinal', hpresses'⟩ := debounce_same first 0 n
      rw [ite_self, presses_append, hfinal, hpresses, hfinal', hpresses', ih hrest fun _ => rfl]
    · have hother : level = !first := by cases first <;> cases level <;> simp_all
      subst hother
      obtain rfl := hcount hlevel
      by_cases hlong : appDebounceSamples ≤ n + 1
      · obtain ⟨hfinal, hpresses⟩ := debounce_long first hlong
        rw [if_pos hlong, presses_append, hfinal, hpresses, ih hrest fun _ => rfl]
      · obtain ⟨hfinal, hpresses⟩ := debounce_short first (Nat.lt_of_not_le hlong)
        obtain ⟨hfinal', hpresses'⟩ := debounce_same (!first) 0 n
        rw [if_neg hlong, presses_append, hfinal, hpresses, hfinal', hpresses',
          ih hrest fun h => absurd rfl h]

theorem final_b1Edge (wasPressed level : Bool) (n : Nat) :
    final b1Edge wasPressed (List.replicate (n + 1) level) = level := by
  induction n generalizing wasPressed with
  | zero => rfl
  | succ n ih => exact ih level

/-- Polls at the level already seen release nothing. -/
theorem releases_same (level : Bool) (n : Nat) : releases level (List.replicate n level) = 0 := by
  induction n with
  | zero => rfl
  | succ n ih =>
    rw [releases, List.replicate_succ, outputs_cons]
    cases level <;> exact ih

/-- One run of B1: a release if it is released after a pressed poll. -/
theorem releases_run (wasPressed level : Bool) (n : Nat) (more : List Bool) :
    releases wasPressed (List.replicate (n + 1) level ++ more) =
      (!level && wasPressed).toNat + releases level more := by
  have hsame := releases_same level n
  unfold releases at hsame
  rw [releases_append, final_b1Edge]
  congr 1
  rw [releases, List.replicate_succ, outputs_cons, List.count_cons]
  cases level <;> cases wasPressed <;> simpa [b1Edge] using hsame

/-- Taking short runs out adds no release, up to one of a press that is only accepted without them. -/
theorem releases_settleRuns_le {first : Bool} {runs : List (List Bool)} (halt : AltRuns first runs)
    (level wasPressed : Bool) : releases level (settleRuns level runs) ≤
      releases wasPressed runs.flatten + (level && !wasPressed).toNat := by
  induction runs generalizing level wasPressed first with
  | nil => exact Nat.zero_le _
  | cons run runs ih =>
    obtain ⟨⟨n, rfl⟩, hrest⟩ := halt
    rw [List.flatten_cons, settleRuns_cons, releases_run]
    by_cases hlong : appDebounceSamples ≤ n + 1
    · have hle := ih hrest first first
      rw [if_pos hlong, releases_run]
      cases first <;> cases level <;> cases wasPressed <;> simp at hle ⊢ <;> omega
    · have hle := ih hrest level first
      rw [if_neg hlong, releases_run]
      cases first <;> cases level <;> cases wasPressed <;> simp at hle ⊢ <;> omega

/-- Every run lasts five polls, except that the last one may be a shorter press. -/
def OnlyLastShort (runs : List (List Bool)) : Prop :=
  ∀ pre run post, runs = pre ++ run :: post → run.length < appDebounceSamples → post = [] ∧ true ∈ run

theorem onlyLastShort_nil : OnlyLastShort [] := by
  intro pre run post h
  simp at h

theorem onlyLastShort_cons (run : List Bool) (runs : List (List Bool)) :
    OnlyLastShort (run :: runs) ↔
      (appDebounceSamples ≤ run.length ∨ runs = [] ∧ true ∈ run) ∧ OnlyLastShort runs := by
  constructor
  · intro h
    refine ⟨?_, fun pre r post hsplit => h (run :: pre) r post (by rw [hsplit]; rfl)⟩
    by_cases hlong : appDebounceSamples ≤ run.length
    · exact .inl hlong
    · exact .inr (h [] run runs rfl (Nat.lt_of_not_le hlong))
  · rintro ⟨hrun, hruns⟩ pre r post hsplit hshort
    rcases List.cons_eq_append_iff.1 hsplit with ⟨rfl, h⟩ | ⟨pre, rfl, h⟩
    · obtain ⟨rfl, rfl⟩ := List.cons.inj h
      exact hrun.resolve_left (Nat.not_le_of_lt hshort)
    · exact hruns pre r post h hshort

/-- **Run lemma** for B1: from a level both agree on, the releases are the same if and only if only the
last run is short, and then a press. -/
theorem releases_settleRuns_iff {level : Bool} {runs : List (List Bool)} (halt : AltRuns (!level) runs) :
    releases level (settleRuns level runs) = releases level runs.flatten ↔ OnlyLastShort runs := by
  induction runs generalizing level with
  | nil => exact ⟨fun _ => onlyLastShort_nil, fun _ => rfl⟩
  | cons run runs ih =>
    obtain ⟨⟨n, rfl⟩, hrest⟩ := halt
    rw [onlyLastShort_cons, List.flatten_cons, settleRuns_cons, List.length_replicate, releases_run]
    by_cases hlong : appDebounceSamples ≤ n + 1
    · rw [if_pos hlong, releases_run, Nat.add_left_cancel_iff, ih hrest]
      exact ⟨fun h => ⟨.inl hlong, h⟩, fun h => h.2⟩
    · rw [if_neg hlong, releases_run]
      cases runs with
      | nil =>
        -- a short last run loses its release
        cases level
        · simp [onlyLastShort_nil, settleRuns, releases]
        · simp [hlong, settleRuns, releases]
      | cons next runs =>
        obtain ⟨⟨m, rfl⟩, hrest'⟩ := hrest
        have hle := releases_settleRuns_le hrest' level level
        rw [Bool.not_not, List.flatten_cons, settleRuns_cons, ite_self, releases_run, releases_run]
        refine ⟨fun h => ?_, fun h => ?_⟩
        · cases level <;> simp at h hle <;> omega
        · exact absurd h.1 (by simp [hlong])

/-! ## The task -/

/-- How many `USER_EVT_SETPOINT_UP` the task posts over the polls. -/
def upEvents (polls : List ButtonPoll) : Nat :=
  (outputs userPoll userInputInit polls).countP (hasEvent · userEvtSetpointUp)

/-- How many `USER_EVT_SETPOINT_DOWN` the task posts over the polls. -/
def downEvents (polls : List ButtonPoll) : Nat :=
  (outputs userPoll userInputInit polls).countP (hasEvent · userEvtSetpointDown)

/-- How many `USER_EVT_MANUAL` and `USER_EVT_POWER` the task posts over the polls. -/
def b1Events (polls : List ButtonPoll) : Nat :=
  (outputs userPoll userInputInit polls).countP fun events =>
    hasEvent events userEvtManual || hasEvent events userEvtPower

/-- Every run of B1 lasts five polls, except a released one at the start and a press at the end. -/
def CleanB1 (levels : List Bool) : Prop :=
  ∀ pre run post, runsOf levels = pre ++ run :: post → run.length < appDebounceSamples →
    (pre = [] ∧ false ∈ run) ∨ (post = [] ∧ true ∈ run)

/-- The bits that one poll posts. -/
theorem userPoll_bits (u : UserInput) (p : ButtonPoll) :
    hasEvent (userPoll u p).2 userEvtSetpointUp = (debounceButton u.upDb p.up).2 ∧
      hasEvent (userPoll u p).2 userEvtSetpointDown = (debounceButton u.downDb p.down).2 ∧
      (hasEvent (userPoll u p).2 userEvtManual || hasEvent (userPoll u p).2 userEvtPower) =
        (b1Edge u.b1WasPressed p.b1).2 := by
  have hbits := gestureOf_pollEvents (debounceButton u.upDb p.up).2 (debounceButton u.downDb p.down).2
    (!p.b1 && u.b1WasPressed) (decide (appLongPressMs ≤ reading p.time - u.b1PressedSince))
  refine ⟨congrArg Gesture.up hbits, congrArg Gesture.down hbits, ?_⟩
  have hmanual := congrArg Gesture.manual hbits
  have hpower := congrArg Gesture.power hbits
  change (gestureOf (userPoll u p).2).manual = _ at hmanual
  change (gestureOf (userPoll u p).2).power = _ at hpower
  change ((gestureOf (userPoll u p).2).manual || (gestureOf (userPoll u p).2).power) = _
  rw [hmanual, hpower, ← Bool.and_or_distrib_left, Bool.not_or_self, Bool.and_true]
  rfl

/-- The events of the task, counted by the mechanism of each button. -/
theorem events_count (u : UserInput) (polls : List ButtonPoll) :
    (outputs userPoll u polls).countP (hasEvent · userEvtSetpointUp) =
        presses u.upDb (polls.map (·.up)) ∧
      (outputs userPoll u polls).countP (hasEvent · userEvtSetpointDown) =
        presses u.downDb (polls.map (·.down)) ∧
      (outputs userPoll u polls).countP
          (fun events => hasEvent events userEvtManual || hasEvent events userEvtPower) =
        releases u.b1WasPressed (polls.map (·.b1)) := by
  induction polls generalizing u with
  | nil => exact ⟨rfl, rfl, rfl⟩
  | cons p polls ih =>
    obtain ⟨hup, hdown, hb1⟩ := ih (userPoll u p).1
    obtain ⟨hbitUp, hbitDown, hbitB1⟩ := userPoll_bits u p
    unfold presses releases
    simp only [outputs_cons, List.map_cons, List.countP_cons, List.count_cons, hup, hdown, hb1, hbitUp,
      hbitDown, hbitB1, beq_iff_eq]
    exact ⟨rfl, rfl, rfl⟩

theorem settled_length (levels : List Bool) : (settled levels).length = levels.length := by
  rw [settled, settleRuns_length, runsOf_flatten]

/-- Each button sees its own settled levels. -/
theorem settledPolls_levels (polls : List ButtonPoll) :
    (settledPolls polls).map (·.up) = settled (polls.map (·.up)) ∧
      (settledPolls polls).map (·.down) = settled (polls.map (·.down)) ∧
      (settledPolls polls).map (·.b1) = settled (polls.map (·.b1)) := by
  refine ⟨List.ext_getElem ?_ ?_, List.ext_getElem ?_ ?_, List.ext_getElem ?_ ?_⟩ <;>
    simp [settledPolls, settled_length]

/-- A debounced button posts the same presses with and without its short runs. -/
theorem presses_settled (levels : List Bool) :
    presses debounceInit (settled levels) = presses debounceInit levels := by
  have h : presses debounceInit (runsOf levels).flatten = presses debounceInit (settled levels) :=
    presses_settleRuns (runsOf_alt levels) fun _ => rfl
  rw [runsOf_flatten] at h
  exact h.symm

/-- The first run may be short when it is a released one. -/
theorem onlyLastShort_iff_clean {first : Bool} {runs : List (List Bool)} (halt : AltRuns first runs) :
    OnlyLastShort (if first then runs else runs.tail) ↔
      ∀ pre run post, runs = pre ++ run :: post → run.length < appDebounceSamples →
        (pre = [] ∧ false ∈ run) ∨ (post = [] ∧ true ∈ run) := by
  cases runs with
  | nil =>
    rw [List.tail_nil, ite_self]
    exact ⟨fun _ pre run post h => by simp at h, fun _ => onlyLastShort_nil⟩
  | cons head runs =>
    obtain ⟨⟨n, rfl⟩, -⟩ := halt
    cases first with
    | true =>
      refine ⟨fun h pre run post hsplit hshort => .inr (h pre run post hsplit hshort),
        fun h pre run post hsplit hshort => (h pre run post hsplit hshort).resolve_left ?_⟩
      rintro ⟨rfl, hmem⟩
      obtain ⟨rfl, -⟩ := List.cons.inj hsplit
      exact absurd (List.eq_of_mem_replicate hmem) (by decide)
    | false =>
      change OnlyLastShort runs ↔ _
      constructor
      · intro h pre run post hsplit hshort
        rcases List.cons_eq_append_iff.1 hsplit with ⟨rfl, hhead⟩ | ⟨pre, rfl, hrest⟩
        · obtain ⟨rfl, -⟩ := List.cons.inj hhead
          exact .inl ⟨rfl, by simp⟩
        · exact .inr (h pre run post hrest hshort)
      · intro h pre run post hsplit hshort
        have hlater := h (List.replicate (n + 1) false :: pre) run post (by rw [hsplit]; rfl) hshort
        exact hlater.resolve_left fun hpre => List.cons_ne_nil _ _ hpre.1

/-- B1 posts the same releases if and only if it is clean. -/
theorem releases_settled_iff (levels : List Bool) :
    releases false (settled levels) = releases false levels ↔ CleanB1 levels := by
  have halt := runsOf_alt levels
  have hflat := runsOf_flatten levels
  unfold settled CleanB1
  rw [← congrArg (releases false) hflat, ← onlyLastShort_iff_clean halt]
  generalize levels.headD false = first at halt
  cases first with
  | true => exact releases_settleRuns_iff halt
  | false =>
    cases hruns : runsOf levels with
    | nil => exact ⟨fun _ => onlyLastShort_nil, fun _ => rfl⟩
    | cons run runs =>
      rw [hruns] at halt
      obtain ⟨⟨n, rfl⟩, hrest⟩ := halt
      rw [List.flatten_cons, settleRuns_cons, ite_self, releases_run, releases_run,
        Nat.add_left_cancel_iff]
      exact releases_settleRuns_iff hrest

/-- **Contact bounce**: taking the short runs of all three buttons out of the polls leaves the UP, the
DOWN and the B1 events as many as they were if and only if B1 is clean. -/
theorem bounce_ignored_iff (polls : List ButtonPoll) :
    (upEvents polls = upEvents (settledPolls polls) ∧
      downEvents polls = downEvents (settledPolls polls) ∧
      b1Events polls = b1Events (settledPolls polls)) ↔ CleanB1 (polls.map (·.b1)) := by
  obtain ⟨hup, hdown, hb1⟩ := events_count userInputInit polls
  obtain ⟨hup', hdown', hb1'⟩ := events_count userInputInit (settledPolls polls)
  obtain ⟨hlevelsUp, hlevelsDown, hlevelsB1⟩ := settledPolls_levels polls
  rw [hlevelsUp] at hup'
  rw [hlevelsDown] at hdown'
  rw [hlevelsB1] at hb1'
  rw [← releases_settled_iff]
  constructor
  · rintro ⟨-, -, h⟩
    exact hb1'.symm.trans (h.symm.trans hb1)
  · intro h
    exact ⟨hup.trans ((presses_settled _).symm.trans hup'.symm),
      hdown.trans ((presses_settled _).symm.trans hdown'.symm), hb1.trans (h.symm.trans hb1'.symm)⟩

/-- One pressed poll of B1 is a MANUAL event, though it lasts 10 ms. -/
theorem b1_bounce_counts : ¬ ∀ polls : List ButtonPoll,
    upEvents polls = upEvents (settledPolls polls) ∧
      downEvents polls = downEvents (settledPolls polls) ∧
      b1Events polls = b1Events (settledPolls polls) := by
  intro h
  have hb1 := (h [⟨false, false, true, 1000⟩, ⟨false, false, false, 1010⟩]).2.2
  exact absurd hb1 (by decide)

end SmartAc
