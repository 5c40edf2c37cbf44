import Mathlib.Data.List.ReduceOption
import SmartAc.Lib.SingleCore
import SmartAc.SensorTask

/-!
# The edge flags and their interrupts: `app_board.c`

| here | there |
| --- | --- |
| `appHandleGpioExti`   | `App_HandleGpioExti` (`app_board.c:394-405`) |
| `isr`                 | `App_EXTI0_ISR`, `App_EXTI3_ISR`, `App_EXTI15_10_ISR` (`app_board.c:407-433`), on the vectors of `Board_InitExti` (`app_board.c:373-375`) |
| `edgeProgram`         | the statements of `Board_TakeRawEdges` and `Board_TakeReedEdge` (`app_board.c:68-94`) |

The three handlers have one priority, so that none interrupts another. `exti` is the pending register of
the four lines: an edge sets its bit, `EXTI_ClearITPendingBit` clears it, and a second edge before that is not
seen as one. `Board_TakeRawEdges` is called by `UserInputTask` only, and `Board_TakeReedEdge` by `SensorTask`.

`ledgerOf` keeps accounts of an interleaving, step by step: how many edges of a line wait in the register, in the
flag and in the hand of a task, and how many the values returned have reported. The bits stand for these
numbers (`Accounts`), so that no edge is dropped or reported twice.
-/

namespace SmartAc

open Machine SingleCore

/-! ## Lines and flags -/

/-- The lines of `Board_InitExti`. -/
inductive Line where
  | up | down | b1 | reed
deriving DecidableEq, Repr

def appUpPin : UInt16 := 0x0001
def appReedPin : UInt16 := 0x0008
def appDownPin : UInt16 := 0x1000
def appB1Pin : UInt16 := 0x2000

/-- The pin that the handler of a line passes on. -/
def Line.pin : Line → UInt16
  | .up => appUpPin
  | .down => appDownPin
  | .b1 => appB1Pin
  | .reed => appReedPin

def rawEdgeUp : UInt32 := 1
def rawEdgeDown : UInt32 := 2
def rawEdgeB1 : UInt32 := 4

structure EdgeFlags where
  rawEdgeBits : UInt32
  reedEdgePending : Bool
deriving DecidableEq, Repr

def noEdges : EdgeFlags := ⟨0, false⟩

def appHandleGpioExti (flags : EdgeFlags) (gpioPin : UInt16) : EdgeFlags :=
  if gpioPin = appUpPin then { flags with rawEdgeBits := flags.rawEdgeBits ||| rawEdgeUp }
  else if gpioPin = appDownPin then { flags with rawEdgeBits := flags.rawEdgeBits ||| rawEdgeDown }
  else if gpioPin = appB1Pin then { flags with rawEdgeBits := flags.rawEdgeBits ||| rawEdgeB1 }
  else if gpioPin = appReedPin then { flags with reedEdgePending := true }
  else flags

/-- The flag of a line. -/
def EdgeFlags.has (flags : EdgeFlags) : Line → Bool
  | .up => hasEvent flags.rawEdgeBits rawEdgeUp
  | .down => hasEvent flags.rawEdgeBits rawEdgeDown
  | .b1 => hasEvent flags.rawEdgeBits rawEdgeB1
  | .reed => flags.reedEdgePending

theorem has_noEdges (ℓ : Line) : noEdges.has ℓ = false := by
  cases ℓ <;> rfl

/-- A handler sets the flag of its line and no other. -/
theorem has_handle (flags : EdgeFlags) (ℓ ℓ' : Line) :
    (appHandleGpioExti flags ℓ.pin).has ℓ' = (flags.has ℓ' || ℓ' == ℓ) := by
  have hbits (bit bit' : UInt32) (hdiff : hasEvent bit' bit = false) :
      hasEvent (flags.rawEdgeBits ||| bit') bit = hasEvent flags.rawEdgeBits bit := by
    rw [hasEvent_or, hdiff, Bool.or_false]
  have hbit (bit : UInt32) (hset : hasEvent bit bit = true) :
      hasEvent (flags.rawEdgeBits ||| bit) bit = true := by
    rw [hasEvent_or, hset, Bool.or_true]
  cases ℓ <;> cases ℓ' <;>
    simp [EdgeFlags.has, appHandleGpioExti, Line.pin, appUpPin, appDownPin, appB1Pin, appReedPin,
      hbits rawEdgeUp rawEdgeDown (by decide), hbits rawEdgeUp rawEdgeB1 (by decide),
      hbits rawEdgeDown rawEdgeUp (by decide), hbits rawEdgeDown rawEdgeB1 (by decide),
      hbits rawEdgeB1 rawEdgeUp (by decide), hbits rawEdgeB1 rawEdgeDown (by decide),
      hbit rawEdgeUp (by decide), hbit rawEdgeDown (by decide), hbit rawEdgeB1 (by decide)]

/-- The tasks that take edges. -/
inductive EdgeTask where
  | user | sensor
deriving DecidableEq, Repr

/-- The task whose function takes the flag of a line. -/
def Line.reader : Line → EdgeTask
  | .up | .down | .b1 => .user
  | .reed => .sensor

/-- What the function of a task reads and returns of the flags. -/
def EdgeTask.part (t : EdgeTask) (flags : EdgeFlags) : EdgeFlags :=
  match t with
  | .user => { noEdges with rawEdgeBits := flags.rawEdgeBits }
  | .sensor => { noEdges with reedEdgePending := flags.reedEdgePending }

/-- The flags after it has cleared its own. -/
def EdgeTask.clear (t : EdgeTask) (flags : EdgeFlags) : EdgeFlags :=
  match t with
  | .user => { flags with rawEdgeBits := 0 }
  | .sensor => { flags with reedEdgePending := false }

theorem has_part (t : EdgeTask) (flags : EdgeFlags) (ℓ : Line) :
    (t.part flags).has ℓ = (flags.has ℓ && ℓ.reader == t) := by
  cases t <;> cases ℓ <;> simp [EdgeTask.part, EdgeFlags.has, noEdges, Line.reader]

theorem has_clear (t : EdgeTask) (flags : EdgeFlags) (ℓ : Line) :
    (t.clear flags).has ℓ = (flags.has ℓ && ℓ.reader != t) := by
  cases t <;> cases ℓ <;> simp [EdgeTask.clear, EdgeFlags.has, Line.reader]

/-! ## The handlers -/

/-- `check` is the `if` on `EXTI_GetITStatus`, the others are the two statements in it. -/
inductive IsrStmt where
  | check (ℓ : Line)
  | handle (ℓ : Line)
  | clear (ℓ : Line)
deriving DecidableEq, Repr

inductive ExtiVector where
  | exti0 | exti3 | exti15_10
deriving DecidableEq, Repr

def isr : ExtiVector → List IsrStmt
  | .exti0 => [.check .up]
  | .exti3 => [.check .reed]
  | .exti15_10 => [.check .down, .check .b1]

structure EdgeMemory where
  exti : Line → Bool
  flags : EdgeFlags
  /-- What the two functions have returned, the most recent first. -/
  returned : List (EdgeTask × EdgeFlags)

def isrStmt : IsrStmt → List IsrStmt → EdgeMemory → List IsrStmt × EdgeMemory
  | .check ℓ, rest, m => (if m.exti ℓ then .handle ℓ :: .clear ℓ :: rest else rest, m)
  | .handle ℓ, rest, m => (rest, { m with flags := appHandleGpioExti m.flags ℓ.pin })
  | .clear ℓ, rest, m => (rest, { m with exti := Function.update m.exti ℓ false })

/-! ## Taking the edges -/

/-- Where a task is in its function, with `primask` and `edges` as far as they are set. -/
inductive TakeStage where
  | free
  | saved (primask : Bool)
  | masked (primask : Bool)
  | taken (primask : Bool) (edges : EdgeFlags)
  | cleared (primask : Bool) (edges : EdgeFlags)
deriving DecidableEq, Repr

/-- One statement of `Board_TakeRawEdges` or `Board_TakeReedEdge`: save PRIMASK, set it, read the flags, clear
them, restore PRIMASK and return. -/
def takeStmt (t : EdgeTask) (stage : TakeStage) (primask : Bool) (m : EdgeMemory) :
    TakeStage × Bool × EdgeMemory :=
  match stage with
  | .free => (.saved primask, primask, m)
  | .saved old => (.masked old, true, m)
  | .masked old => (.taken old (t.part m.flags), primask, m)
  | .taken old edges => (.cleared old edges, primask, { m with flags := t.clear m.flags })
  | .cleared old edges => (.free, if old then primask else false, { m with returned := (t, edges) :: m.returned })

def edgeProgram : Program EdgeTask TakeStage EdgeMemory IsrStmt ExtiVector Line where
  handler := isr
  handle := isrStmt
  hardware ℓ m := { m with exti := Function.update m.exti ℓ true }
  run := takeStmt
  free stage := stage == .free

abbrev EdgeCore := Core EdgeTask TakeStage EdgeMemory IsrStmt
abbrev EdgeAction := Action EdgeTask ExtiVector Line

def edgeStart (running : EdgeTask) : EdgeCore where
  masked := false
  running
  locals _ := .free
  handling := []
  memory := ⟨fun _ => false, noEdges, []⟩

def edgeNext (s : EdgeCore) (a : EdgeAction) : Option EdgeCore := SingleCore.next edgeProgram s a

/-! ## The critical section -/

def TakeStage.phase : TakeStage → Phase
  | .free => .free
  | .saved old => .saved old
  | .masked old | .taken old _ | .cleared old _ => .inside old

theorem edgeProgram_savesMask : SavesMask edgeProgram TakeStage.phase := by
  refine ⟨fun t stage primask m => ?_, fun stage hfree => ?_⟩
  · cases stage with
    | free => exact .save primask
    | saved old => exact .enter old primask
    | masked old => exact .stay old primask
    | taken old edges => exact .stay old primask
    | cleared old edges => exact .restore old primask
  · rw [beq_iff_eq.1 hfree]
    rfl

theorem edges_guarded {running : EdgeTask} {acts : List EdgeAction} {s : EdgeCore}
    (h : exec edgeNext (edgeStart running) acts = some s) : Guarded TakeStage.phase (ownMask acts) s := by
  refine guarded_exec edgeProgram_savesMask ⟨fun _ => rfl, fun mask hphase => ?_, fun mask hphase => ?_, ?_⟩ h
  · cases hphase
  · cases hphase
  · exact fun t _ => .inl rfl

/-! ## Accounts -/

/-- What a task holds in hand. -/
def TakeStage.hand : TakeStage → Option EdgeFlags
  | .taken _ edges | .cleared _ edges => some edges
  | _ => none

/-- The task has read its flags and not yet cleared them. -/
def TakeStage.stale : TakeStage → Bool
  | .taken _ _ => true
  | _ => false

/-- While a handler runs no task holds edges. -/
theorem no_hand {own : Bool} {s : EdgeCore} (hg : Guarded TakeStage.phase own s) (hbusy : s.handling ≠ [])
    (t : EdgeTask) : (s.locals t).hand = none ∧ (s.locals t).stale = false := by
  have hout (mask : Bool) : (s.locals t).phase ≠ .inside mask := fun hin => hbusy (hg.exclusive hin).2.2
  cases hl : s.locals t with
  | free => exact ⟨rfl, rfl⟩
  | saved old => exact ⟨rfl, rfl⟩
  | masked old => exact ⟨rfl, rfl⟩
  | taken old edges => exact absurd (by rw [hl]; rfl) (hout old)
  | cleared old edges => exact absurd (by rw [hl]; rfl) (hout old)

/-- Numbers of edges of each line: in the register, in the flag, in hand, and reported. -/
structure Ledger where
  latched : Line → Nat
  flagged : Line → Nat
  inHand : Line → Nat
  reported : Line → Nat

def Ledger.empty : Ledger := ⟨fun _ => 0, fun _ => 0, fun _ => 0, fun _ => 0⟩

/-- The latched edges of a line go with its flag. -/
def Ledger.raise (l : Ledger) (ℓ : Line) : Ledger :=
  { l with
    flagged := Function.update l.flagged ℓ (l.flagged ℓ + l.latched ℓ)
    latched := Function.update l.latched ℓ 0 }

/-- A statement of a handler: between raising the flag and clearing the bit, a further edge goes with the flag. -/
def Ledger.handled (l : Ledger) : Option IsrStmt → Ledger
  | some (.handle ℓ) | some (.clear ℓ) => l.raise ℓ
  | _ => l

/-- A statement of a task: the edges go from the flags into its hand, and from there into the value returned. -/
def Ledger.ran (l : Ledger) (t : EdgeTask) : TakeStage → Ledger
  | .masked _ =>
    { l with
      flagged := fun ℓ => if ℓ.reader = t then 0 else l.flagged ℓ
      inHand := fun ℓ => if ℓ.reader = t then l.flagged ℓ else l.inHand ℓ }
  | .cleared _ _ =>
    { l with
      inHand := fun ℓ => if ℓ.reader = t then 0 else l.inHand ℓ
      reported := fun ℓ => if ℓ.reader = t then l.reported ℓ + l.inHand ℓ else l.reported ℓ }
  | _ => l

def Ledger.next (l : Ledger) (s : EdgeCore) : EdgeAction → Ledger
  | .hardware ℓ => { l with latched := Function.update l.latched ℓ (l.latched ℓ + 1) }
  | .handle => l.handled s.handling.head?
  | .run => l.ran s.running (s.locals s.running)
  | _ => l

/-- The accounts of an interleaving, from its first step on. -/
def ledgerOf (running : EdgeTask) (acts : List EdgeAction) : Ledger :=
  (labels edgeNext (fun s a => some (s, a)) (edgeStart running) acts).foldl (fun l p => l.next p.1 p.2) .empty

theorem ledgerOf_snoc {running : EdgeTask} {acts : List EdgeAction} {s : EdgeCore} (a : EdgeAction)
    (h : exec edgeNext (edgeStart running) acts = some s) :
    ledgerOf running (acts ++ [a]) = (ledgerOf running acts).next s a := by
  rw [ledgerOf, labels_snoc _ a h, List.foldl_append]
  rfl

def isEdge (ℓ : Line) : EdgeAction → Bool
  | .hardware ℓ' => ℓ' == ℓ
  | _ => false

/-- The edges of a line in an interleaving. -/
def edgesOf (acts : List EdgeAction) (ℓ : Line) : Nat := acts.countP (isEdge ℓ)

def AllChecks (stmts : List IsrStmt) : Prop := ∀ k ∈ stmts, ∃ ℓ, k = .check ℓ

/-- Where a handler is: before a check, or in the `if` of a line. -/
inductive HandlerAt (exti : Line → Bool) : List IsrStmt → Prop where
  | checks (ks : List IsrStmt) (hks : AllChecks ks) : HandlerAt exti ks
  | handle (ℓ : Line) (ks : List IsrStmt) (hks : AllChecks ks) (hset : exti ℓ = true) :
      HandlerAt exti (.handle ℓ :: .clear ℓ :: ks)
  | clear (ℓ : Line) (ks : List IsrStmt) (hks : AllChecks ks) : HandlerAt exti (.clear ℓ :: ks)

theorem AllChecks.head_ne {ks : List IsrStmt} (h : AllChecks ks) (ℓ : Line) : ks.head? ≠ some (.clear ℓ) := by
  intro heq
  obtain ⟨ℓ', hk⟩ := h _ (List.mem_of_head? heq)
  cases hk

theorem isr_checks (v : ExtiVector) : AllChecks (isr v) := by
  cases v <;> simp [isr, AllChecks]

theorem HandlerAt.edge {exti : Line → Bool} {stmts : List IsrStmt} (h : HandlerAt exti stmts) (ℓ : Line) :
    HandlerAt (Function.update exti ℓ true) stmts := by
  cases h with
  | checks ks hks => exact .checks _ hks
  | handle ℓ' ks hks hset =>
    refine .handle ℓ' ks hks ?_
    by_cases hℓ : ℓ' = ℓ
    · rw [hℓ, Function.update_self]
    · rw [Function.update_of_ne hℓ, hset]
  | clear ℓ' ks hks => exact .clear ℓ' ks hks

/-- **The accounts**: the bits say where the counts of the ledger are not zero. -/
structure Accounts (acts : List EdgeAction) (s : EdgeCore) (l : Ledger) : Prop where
  total : ∀ ℓ, edgesOf acts ℓ = l.latched ℓ + l.flagged ℓ + l.inHand ℓ + l.reported ℓ
  handler : HandlerAt s.memory.exti s.handling
  latched : ∀ ℓ, s.handling.head? ≠ some (.clear ℓ) → s.memory.exti ℓ = decide (0 < l.latched ℓ)
  raised : ∀ ℓ, s.handling.head? = some (.clear ℓ) → 0 < l.flagged ℓ
  flagged : ∀ ℓ, (s.locals ℓ.reader).stale = false → s.memory.flags.has ℓ = decide (0 < l.flagged ℓ)
  stale : ∀ ℓ, (s.locals ℓ.reader).stale = true →
    l.flagged ℓ = 0 ∧ s.memory.flags.has ℓ = decide (0 < l.inHand ℓ)
  held : ∀ ℓ, (s.locals ℓ.reader).hand.any (·.has ℓ) = decide (0 < l.inHand ℓ)
  own : ∀ t edges, (s.locals t).hand = some edges → ∀ ℓ, ℓ.reader ≠ t → edges.has ℓ = false

theorem edgeStart_accounts (running : EdgeTask) :
    Accounts [] (edgeStart running) .empty := by
  refine ⟨fun ℓ => rfl, .checks [] (by simp [AllChecks]), fun ℓ _ => rfl, nofun, fun ℓ _ => ?_, nofun,
    fun ℓ => rfl, nofun⟩
  exact has_noEdges ℓ

theorem edgesOf_snoc (acts : List EdgeAction) (a : EdgeAction) (ℓ : Line) :
    edgesOf (acts ++ [a]) ℓ = edgesOf acts ℓ + if isEdge ℓ a then 1 else 0 := by
  simp [edgesOf, List.countP_append, List.countP_singleton]

theorem Ledger.raise_sum (l : Ledger) (ℓ ℓ' : Line) :
    (l.raise ℓ).latched ℓ' + (l.raise ℓ).flagged ℓ' = l.latched ℓ' + l.flagged ℓ' := by
  by_cases hℓ : ℓ' = ℓ
  · subst hℓ
    simp [Ledger.raise, Nat.add_comm]
  · simp [Ledger.raise, Function.update_of_ne hℓ]

/-- Where there are edges to raise the flag is up afterwards; the other flags stay. -/
theorem Ledger.raise_flagged {l : Ledger} {ℓ : Line} (hpos : 0 < l.latched ℓ + l.flagged ℓ) (ℓ' : Line) :
    decide (0 < (l.raise ℓ).flagged ℓ') = (decide (0 < l.flagged ℓ') || ℓ' == ℓ) := by
  by_cases hℓ : ℓ' = ℓ
  · subst hℓ
    simp [Ledger.raise]
    omega
  · simp [Ledger.raise, hℓ]

section step
variable {acts : List EdgeAction} {s s' : EdgeCore} {l : Ledger} (h : Accounts acts s l)
include h

/-- **Step lemma**, an edge: it is latched. -/
theorem hardware_accounts {ℓ : Line} (hnext : edgeNext s (.hardware ℓ) = some s') :
    Accounts (acts ++ [.hardware ℓ]) s' (l.next s (.hardware ℓ)) := by
  cases hnext
  obtain ⟨htotal, hhandler, hlatched, hraised, hflagged, hstale, hheld, hown⟩ := h
  refine ⟨fun ℓ' => ?_, hhandler.edge ℓ, fun ℓ' hclear => ?_, hraised, hflagged, hstale, hheld, hown⟩
  · rw [edgesOf_snoc, htotal]
    by_cases hℓ : ℓ' = ℓ
    · subst hℓ
      simp [isEdge, Ledger.next]
      omega
    · simp [isEdge, Ledger.next, Function.update_of_ne hℓ, Ne.symm hℓ]
  · change Function.update s.memory.exti ℓ true ℓ' = _
    by_cases hℓ : ℓ' = ℓ
    · subst hℓ
      simp [Ledger.next]
    · rw [Function.update_of_ne hℓ, hlatched ℓ' hclear]
      simp only [Ledger.next, Function.update_of_ne hℓ]

/-- **Step lemma**, a statement of a handler: raising the flag takes the latched edges along, and so does
clearing the bit. -/
theorem handle_accounts (hg : Guarded TakeStage.phase (ownMask acts) s)
    (hnext : edgeNext s .handle = some s') : Accounts (acts ++ [.handle]) s' (l.next s .handle) := by
  obtain ⟨k, ks, hks, rfl⟩ := next_handle hnext
  have hbusy : s.handling ≠ [] := by simp [hks]
  have hledger : l.next s .handle = l.handled (some k) := by rw [Ledger.next, hks, List.head?_cons]
  rw [hledger]
  obtain ⟨htotal, hhandler, hlatched, hraised, hflagged, hstale, hheld, hown⟩ := h
  rw [hks] at hhandler hlatched hraised
  have hflag (ℓ : Line) : s.memory.flags.has ℓ = decide (0 < l.flagged ℓ) := hflagged ℓ (no_hand hg hbusy _).2
  have hstale' (ℓ : Line) (hs : (s.locals ℓ.reader).stale = true) : False := by
    rw [(no_hand hg hbusy _).2] at hs
    cases hs
  have hsum (ℓ ℓ' : Line) : edgesOf (acts ++ [.handle]) ℓ' =
      (l.raise ℓ).latched ℓ' + (l.raise ℓ).flagged ℓ' + l.inHand ℓ' + l.reported ℓ' := by
    rw [edgesOf_snoc, htotal, l.raise_sum]
    rfl
  have htotal' (ℓ : Line) : edgesOf (acts ++ [.handle]) ℓ =
      l.latched ℓ + l.flagged ℓ + l.inHand ℓ + l.reported ℓ := by
    rw [edgesOf_snoc, htotal]
    rfl
  cases hhandler with
  | checks ks hchecks =>
    obtain ⟨ℓ, rfl⟩ := hchecks k List.mem_cons_self
    have hrest : AllChecks ks := fun k' hk' => hchecks k' (List.mem_cons_of_mem _ hk')
    have hlatched' (ℓ' : Line) : s.memory.exti ℓ' = decide (0 < l.latched ℓ') := hlatched ℓ' (by simp)
    by_cases hset : s.memory.exti ℓ = true
    · refine ⟨htotal', ?_, fun ℓ' _ => hlatched' ℓ', fun ℓ' heq => ?_, fun ℓ' _ => hflag ℓ',
        fun ℓ' hs => (hstale' ℓ' hs).elim, hheld, hown⟩
      · simpa [edgeProgram, isrStmt, hset] using HandlerAt.handle ℓ ks hrest hset
      · simp [edgeProgram, isrStmt, hset] at heq
    · refine ⟨htotal', ?_, fun ℓ' _ => hlatched' ℓ', fun ℓ' heq => ?_, fun ℓ' _ => hflag ℓ',
        fun ℓ' hs => (hstale' ℓ' hs).elim, hheld, hown⟩
      · simpa [edgeProgram, isrStmt, hset] using HandlerAt.checks ks hrest
      · simp only [edgeProgram, isrStmt, if_neg hset] at heq
        exact absurd heq (hrest.head_ne ℓ')
  | handle ℓ ks hrest hset =>
    have hlatched' (ℓ' : Line) : s.memory.exti ℓ' = decide (0 < l.latched ℓ') := hlatched ℓ' (by simp)
    have hpos : 0 < l.latched ℓ := by simpa [hset] using hlatched' ℓ
    change Accounts _ _ (l.raise ℓ)
    refine ⟨hsum ℓ, .clear ℓ ks hrest, fun ℓ' hne => ?_, fun ℓ' heq => ?_, fun ℓ' _ => ?_,
      fun ℓ' hs => (hstale' ℓ' hs).elim, hheld, hown⟩
    · have hℓ : ℓ' ≠ ℓ := fun hℓ => hne (by rw [hℓ]; rfl)
      simp only [Ledger.raise, Function.update_of_ne hℓ]
      exact hlatched' ℓ'
    · obtain rfl : ℓ = ℓ' := by simpa [edgeProgram, isrStmt] using heq
      simp only [Ledger.raise, Function.update_self]
      omega
    · change (appHandleGpioExti s.memory.flags ℓ.pin).has ℓ' = _
      rw [has_handle, hflag, Ledger.raise_flagged (by omega)]
  | clear ℓ ks hrest =>
    have hpos := hraised ℓ rfl
    change Accounts _ _ (l.raise ℓ)
    refine ⟨hsum ℓ, .checks ks hrest, fun ℓ' _ => ?_,
      fun ℓ' heq => absurd heq (hrest.head_ne ℓ'), fun ℓ' _ => ?_, fun ℓ' hs => (hstale' ℓ' hs).elim, hheld,
      hown⟩
    · change Function.update s.memory.exti ℓ false ℓ' = _
      by_cases hℓ : ℓ' = ℓ
      · subst hℓ
        simp [Ledger.raise]
      · rw [Function.update_of_ne hℓ, hlatched ℓ' (by simp [Ne.symm hℓ])]
        simp only [Ledger.raise, Function.update_of_ne hℓ]
    · change s.memory.flags.has ℓ' = _
      rw [hflag, Ledger.raise_flagged (by omega)]
      -- it is up already
      by_cases hℓ : ℓ' = ℓ
      · subst hℓ
        simp [hpos]
      · simp [hℓ]

/-- A step between two handlers' statements that moves no edge. -/
theorem Accounts.of_same {a : EdgeAction} (ha : ∀ ℓ, isEdge ℓ a = false) (hmemory : s'.memory = s.memory)
    (hhand : ∀ t, (s'.locals t).hand = (s.locals t).hand)
    (hsame : ∀ t, (s'.locals t).stale = (s.locals t).stale) (hidle : s.handling = [])
    (hchecks : AllChecks s'.handling) : Accounts (acts ++ [a]) s' l := by
  obtain ⟨htotal, -, hlatched, -, hflagged, hstale, hheld, hown⟩ := h
  have hlatched' (ℓ : Line) : s.memory.exti ℓ = decide (0 < l.latched ℓ) := hlatched ℓ (by simp [hidle])
  constructor
  · intro ℓ
    rw [edgesOf_snoc, ha, htotal]
    rfl
  · exact .checks _ hchecks
  · intro ℓ _
    rw [hmemory]
    exact hlatched' ℓ
  · exact fun ℓ heq => absurd heq (hchecks.head_ne ℓ)
  · intro ℓ
    rw [hmemory, hsame]
    exact hflagged ℓ
  · intro ℓ
    rw [hmemory, hsame]
    exact hstale ℓ
  · intro ℓ
    rw [hhand]
    exact hheld ℓ
  · intro t
    rw [hhand]
    exact hown t

/-- The edges go from the flags into the hand of the task. -/
theorem take_accounts {old : Bool} (hidle : s.handling = []) (hstage : s.locals s.running = .masked old)
    (hs' : s' = { s with locals := Function.update s.locals s.running (.taken old (s.running.part s.memory.flags)) }) :
    Accounts (acts ++ [.run]) s' (l.ran s.running (.masked old)) := by
  subst hs'
  obtain ⟨htotal, hhandler, hlatched, hraised, hflagged, hstale, hheld, hown⟩ := h
  refine ⟨fun ℓ => ?_, hhandler, hlatched, fun ℓ heq => ?_, fun ℓ hs => ?_, fun ℓ hs => ?_, fun ℓ => ?_,
    fun t edges hedges ℓ hℓ => ?_⟩
  · rw [edgesOf_snoc, htotal]
    by_cases hℓ : ℓ.reader = s.running
    · have hnone : l.inHand ℓ = 0 := by
        have hheld' := hheld ℓ
        rw [hℓ, hstage] at hheld'
        simpa [TakeStage.hand] using hheld'
      simp [isEdge, Ledger.ran, hℓ, hnone]
    · simp [isEdge, Ledger.ran, hℓ]
  · simp [hidle] at heq
  · by_cases hℓ : ℓ.reader = s.running
    · simp [hℓ, TakeStage.stale] at hs
    · simp only [Function.update_of_ne hℓ] at hs
      simp only [Ledger.ran, if_neg hℓ]
      exact hflagged ℓ hs
  · by_cases hℓ : ℓ.reader = s.running
    · simp only [Ledger.ran, if_pos hℓ]
      refine ⟨trivial, hflagged ℓ ?_⟩
      rw [hℓ, hstage]
      rfl
    · simp only [Function.update_of_ne hℓ] at hs
      simp only [Ledger.ran, if_neg hℓ]
      exact hstale ℓ hs
  · by_cases hℓ : ℓ.reader = s.running
    · have hflag : s.memory.flags.has ℓ = decide (0 < l.flagged ℓ) := by
        apply hflagged
        rw [hℓ, hstage]
        rfl
      simp [hℓ, TakeStage.hand, Ledger.ran, has_part, hflag]
    · simp only [Ledger.ran, Function.update_of_ne hℓ, if_neg hℓ]
      exact hheld ℓ
  · by_cases ht : t = s.running
    · subst ht
      simp only [Function.update_self, TakeStage.hand, Option.some.injEq] at hedges
      rw [← hedges, has_part]
      simp [hℓ]
    · simp only [Function.update_of_ne ht] at hedges
      exact hown t edges hedges ℓ hℓ

/-- The flags that were read are cleared. -/
theorem clear_accounts {old : Bool} {edges : EdgeFlags} (hstage : s.locals s.running = .taken old edges)
    (hs' : s' = { s with
      locals := Function.update s.locals s.running (.cleared old edges)
      memory := { s.memory with flags := s.running.clear s.memory.flags } }) :
    Accounts (acts ++ [.run]) s' l := by
  subst hs'
  obtain ⟨htotal, hhandler, hlatched, hraised, hflagged, hstale, hheld, hown⟩ := h
  refine ⟨fun ℓ => ?_, hhandler, hlatched, hraised, fun ℓ hs => ?_, fun ℓ hs => ?_, fun ℓ => ?_,
    fun t edges' hedges ℓ hℓ => ?_⟩
  · rw [edgesOf_snoc, htotal]
    rfl
  · by_cases hℓ : ℓ.reader = s.running
    · have hzero := (hstale ℓ (by rw [hℓ, hstage]; rfl)).1
      simp [has_clear, hℓ, hzero]
    · simp only [Function.update_of_ne hℓ] at hs
      simp [has_clear, hℓ, hflagged ℓ hs]
  · by_cases hℓ : ℓ.reader = s.running
    · simp [hℓ, TakeStage.stale] at hs
    · simp only [Function.update_of_ne hℓ] at hs
      simp [has_clear, hℓ, hstale ℓ hs]
  · have hheld' := hheld ℓ
    by_cases hℓ : ℓ.reader = s.running
    · rw [hℓ, hstage] at hheld'
      simpa [hℓ, TakeStage.hand] using hheld'
    · simpa only [Function.update_of_ne hℓ] using hheld'
  · by_cases ht : t = s.running
    · subst ht
      simp only [Function.update_self, TakeStage.hand, Option.some.injEq] at hedges
      subst hedges
      exact hown _ _ (by rw [hstage]; rfl) ℓ hℓ
    · simp only [Function.update_of_ne ht] at hedges
      exact hown t edges' hedges ℓ hℓ

/-- The edges in hand are those of the value returned. -/
theorem return_accounts {old masked : Bool} {edges : EdgeFlags}
    (hstage : s.locals s.running = .cleared old edges)
    (hs' : s' = { s with
      masked
      locals := Function.update s.locals s.running .free
      memory := { s.memory with returned := (s.running, edges) :: s.memory.returned } }) :
    Accounts (acts ++ [.run]) s' (l.ran s.running (.cleared old edges)) := by
  subst hs'
  obtain ⟨htotal, hhandler, hlatched, hraised, hflagged, hstale, hheld, hown⟩ := h
  refine ⟨fun ℓ => ?_, hhandler, hlatched, hraised, fun ℓ hs => ?_, fun ℓ hs => ?_, fun ℓ => ?_,
    fun t edges' hedges ℓ hℓ => ?_⟩
  · rw [edgesOf_snoc, htotal]
    by_cases hℓ : ℓ.reader = s.running
    · simp [isEdge, Ledger.ran, hℓ]
      omega
    · simp [isEdge, Ledger.ran, hℓ]
  · refine hflagged ℓ ?_
    by_cases hℓ : ℓ.reader = s.running
    · rw [hℓ, hstage]
      rfl
    · simpa only [Function.update_of_ne hℓ] using hs
  · by_cases hℓ : ℓ.reader = s.running
    · simp [hℓ, TakeStage.stale] at hs
    · simp only [Function.update_of_ne hℓ] at hs
      simp only [Ledger.ran, if_neg hℓ]
      exact hstale ℓ hs
  · by_cases hℓ : ℓ.reader = s.running
    · simp [hℓ, Ledger.ran, TakeStage.hand]
    · simp only [Ledger.ran, Function.update_of_ne hℓ, if_neg hℓ]
      exact hheld ℓ
  · by_cases ht : t = s.running
    · subst ht
      simp [TakeStage.hand] at hedges
    · simp only [Function.update_of_ne ht] at hedges
      exact hown t edges' hedges ℓ hℓ

/-- **Step lemma**, a statement of a task. -/
theorem run_accounts (hnext : edgeNext s .run = some s') : Accounts (acts ++ [.run]) s' (l.next s .run) := by
  obtain ⟨hidle, hs'⟩ := next_run hnext
  have hquiet (stage : TakeStage) (hhand : (s.locals s.running).hand = none ∧ stage.hand = none)
      (hsame : (s.locals s.running).stale = false ∧ stage.stale = false) (masked : Bool)
      (hs'' : s' = { s with locals := Function.update s.locals s.running stage, masked }) :
      Accounts (acts ++ [.run]) s' l := by
    subst hs''
    refine h.of_same (fun _ => rfl) rfl (fun t => ?_) (fun t => ?_) hidle (by simp [hidle, AllChecks])
    · by_cases ht : t = s.running
      · subst ht
        simp [hhand]
      · simp only [Function.update_of_ne ht]
    · by_cases ht : t = s.running
      · subst ht
        simp [hsame]
      · simp only [Function.update_of_ne ht]
  rw [Ledger.next]
  cases hstage : s.locals s.running with
  | free =>
    rw [hstage] at hs' hquiet
    exact hquiet _ ⟨rfl, rfl⟩ ⟨rfl, rfl⟩ _ hs'
  | saved old =>
    rw [hstage] at hs' hquiet
    exact hquiet _ ⟨rfl, rfl⟩ ⟨rfl, rfl⟩ _ hs'
  | masked old =>
    rw [hstage] at hs'
    exact take_accounts h hidle hstage hs'
  | taken old edges =>
    rw [hstage] at hs'
    exact clear_accounts h hstage hs'
  | cleared old edges =>
    rw [hstage] at hs'
    exact return_accounts h hstage hs'

end step

/-- **Run lemma**: the accounts of every interleaving are right. -/
theorem edges_accounts {running : EdgeTask} {acts : List EdgeAction} {s : EdgeCore}
    (h : exec edgeNext (edgeStart running) acts = some s) : Accounts acts s (ledgerOf running acts) := by
  refine exec_history (fun acts s => Accounts acts s (ledgerOf running acts)) (edgeStart_accounts running) ?_ h
  intro acts t a u ht hl hnext
  rw [ledgerOf_snoc a ht]
  cases a with
  | hardware ℓ => exact hardware_accounts hl hnext
  | handle => exact handle_accounts hl (edges_guarded ht) hnext
  | run => exact run_accounts hl hnext
  | interrupt v =>
    obtain ⟨-, hidle, rfl⟩ := next_interrupt hnext
    exact hl.of_same (fun _ => rfl) rfl (fun _ => rfl) (fun _ => rfl) hidle (isr_checks v)
  | switch t' =>
    obtain ⟨-, hidle, rfl⟩ := next_switch hnext
    exact hl.of_same (fun _ => rfl) rfl (fun _ => rfl) (fun _ => rfl) hidle (by simp [hidle, AllChecks])
  | mask on =>
    obtain ⟨hidle, -, rfl⟩ := next_mask hnext
    exact hl.of_same (fun _ => rfl) rfl (fun _ => rfl) (fun _ => rfl) hidle (by simp [hidle, AllChecks])

/-- An edge of the line is in the register, in its flag or in the hand of a task. -/
def edgeWaits (s : EdgeCore) (ℓ : Line) : Bool :=
  s.memory.exti ℓ || s.memory.flags.has ℓ || (s.locals ℓ.reader).hand.any (·.has ℓ)

theorem Accounts.waits_iff {acts : List EdgeAction} {s : EdgeCore} {l : Ledger} (h : Accounts acts s l)
    (ℓ : Line) : 0 < l.latched ℓ + l.flagged ℓ + l.inHand ℓ ↔ edgeWaits s ℓ = true := by
  have hlatched := h.latched ℓ
  have hraised := h.raised ℓ
  have hflagged := h.flagged ℓ
  have hstale := h.stale ℓ
  have hheld := h.held ℓ
  unfold edgeWaits
  rw [hheld]
  by_cases hclear : s.handling.head? = some (.clear ℓ)
  · -- the flag is raised, and no task has read it since
    have hpos := hraised hclear
    cases hs : (s.locals ℓ.reader).stale with
    | true => exact absurd (hstale hs).1 (by omega)
    | false =>
      rw [hflagged hs]
      simp [hpos]
  · rw [hlatched hclear]
    cases hs : (s.locals ℓ.reader).stale with
    | true =>
      obtain ⟨hzero, hflag⟩ := hstale hs
      rw [hflag]
      simp [hzero]
    | false =>
      rw [hflagged hs]
      simp

/-- What a step reports, given the numbers of edges reported before it and after: nothing if it returns no
value, and otherwise at least one edge of each line whose bit is set and none of the others. -/
def Reports (s s' : EdgeCore) (before after : Line → Nat) : Prop :=
  s'.memory.returned = s.memory.returned ∧ after = before ∨
    ∃ t value, s'.memory.returned = (t, value) :: s.memory.returned ∧
      ∀ ℓ, before ℓ ≤ after ℓ ∧ (value.has ℓ = true ↔ before ℓ < after ℓ) ∧ (value.has ℓ = true → ℓ.reader = t)

/-- **Step lemma**: edges are reported where a value is returned. -/
theorem step_reports {acts : List EdgeAction} {s s' : EdgeCore} {l : Ledger} (h : Accounts acts s l) {a : EdgeAction}
    (hnext : edgeNext s a = some s') : Reports s s' l.reported (l.next s a).reported := by
  cases a with
  | hardware ℓ =>
    cases hnext
    exact .inl ⟨rfl, rfl⟩
  | interrupt v =>
    obtain ⟨-, -, rfl⟩ := next_interrupt hnext
    exact .inl ⟨rfl, rfl⟩
  | switch t =>
    obtain ⟨-, -, rfl⟩ := next_switch hnext
    exact .inl ⟨rfl, rfl⟩
  | mask on =>
    obtain ⟨-, -, rfl⟩ := next_mask hnext
    exact .inl ⟨rfl, rfl⟩
  | handle =>
    obtain ⟨k, ks, hks, rfl⟩ := next_handle hnext
    rw [Ledger.next, hks]
    cases k with
    | check ℓ => exact .inl ⟨rfl, rfl⟩
    | handle ℓ => exact .inl ⟨rfl, rfl⟩
    | clear ℓ => exact .inl ⟨rfl, rfl⟩
  | run =>
    obtain ⟨-, rfl⟩ := next_run hnext
    rw [Ledger.next]
    cases hstage : s.locals s.running with
    | free => exact .inl ⟨rfl, rfl⟩
    | saved old => exact .inl ⟨rfl, rfl⟩
    | masked old => exact .inl ⟨rfl, rfl⟩
    | taken old edges => exact .inl ⟨rfl, rfl⟩
    | cleared old edges =>
      refine .inr ⟨s.running, edges, rfl, fun ℓ => ?_⟩
      by_cases hℓ : ℓ.reader = s.running
      · have hheld := h.held ℓ
        rw [hℓ, hstage] at hheld
        have hbit : edges.has ℓ = decide (0 < l.inHand ℓ) := hheld
        simp [Ledger.ran, hℓ, hbit]
      · have hbit := h.own _ _ (by rw [hstage]; rfl) ℓ hℓ
        simp [Ledger.ran, hℓ, hbit]

/-- **Every edge is reported once**: there is one number of reported edges for each line, kept through every
interleaving. It grows when a value with the bit of the line is returned, and only then; it never passes
the edges there were; and it is behind them exactly while an edge of the line waits. -/
theorem edges_reported_once (running : EdgeTask) :
    ∃ reported : List EdgeAction → Line → Nat, (∀ ℓ, reported [] ℓ = 0) ∧
      ∀ acts s, exec edgeNext (edgeStart running) acts = some s →
        (∀ ℓ, reported acts ℓ ≤ edgesOf acts ℓ ∧ (edgeWaits s ℓ = true ↔ reported acts ℓ < edgesOf acts ℓ)) ∧
        ∀ a s', edgeNext s a = some s' → Reports s s' (reported acts) (reported (acts ++ [a])) := by
  refine ⟨fun acts => (ledgerOf running acts).reported, fun ℓ => rfl, fun acts s h => ?_⟩
  have hl := edges_accounts h
  refine ⟨fun ℓ => ?_, fun a s' hnext => ?_⟩
  · have htotal := hl.total ℓ
    rw [← hl.waits_iff ℓ]
    constructor
    · change (ledgerOf running acts).reported ℓ ≤ _
      omega
    · change _ ↔ (ledgerOf running acts).reported ℓ < _
      omega
  · change Reports s s' _ (ledgerOf running (acts ++ [a])).reported
    rw [ledgerOf_snoc a h]
    exact step_reports hl hnext

/-- The window moves three times: before the interrupt, in its handler, and while the function is inside. -/
def edgeInside : List EdgeAction :=
  [.hardware .reed, .interrupt .exti3, .handle, .handle, .hardware .reed, .handle, .run, .run, .hardware .reed,
    .run, .run, .run, .interrupt .exti3, .handle, .handle, .handle]

/-- The first two edges are one for the handler, and the third waits. -/
theorem edges_reported_once_edgeInside :
    ∃ (reported : List EdgeAction → Line → Nat) (s : EdgeCore),
      exec edgeNext (edgeStart .sensor) edgeInside = some s ∧
      s.memory.returned.map (·.2.has .reed) = [true] ∧ edgeWaits s .reed = true ∧
      edgesOf edgeInside .reed = 3 ∧ reported [] .reed = 0 ∧ reported edgeInside .reed < 3 := by
  obtain ⟨reported, hzero, hrun⟩ := edges_reported_once .sensor
  exact ⟨reported, _, rfl, rfl, rfl, rfl, hzero .reed, ((hrun edgeInside _ rfl).1 .reed).2.1 rfl⟩

/-- **PRIMASK is restored**: outside of the two functions a task finds it as the tasks have set it, and inside
of one it runs alone. -/
theorem primask_restored (running : EdgeTask) (acts : List EdgeAction) (s : EdgeCore)
    (h : exec edgeNext (edgeStart running) acts = some s) :
    (s.locals s.running = .free → s.masked = ownMask acts) ∧
      ∀ t mask, (s.locals t).phase = .inside mask → s.running = t ∧ s.masked = true ∧ s.handling = [] := by
  have hg := edges_guarded h
  refine ⟨fun hfree => hg.free ?_, fun t mask hin => hg.exclusive hin⟩
  rw [hfree]
  rfl

/-- A call while the task itself has the interrupts masked. -/
def takeMasked : List EdgeAction :=
  [.hardware .reed, .mask true, .run, .run, .run, .run, .run]

theorem primask_restored_takeMasked :
    (∃ s, exec edgeNext (edgeStart .sensor) (takeMasked.take 5) = some s ∧
      (s.locals .sensor).phase = .inside true ∧ s.masked = true ∧ s.handling = []) ∧
    ∃ s, exec edgeNext (edgeStart .sensor) takeMasked = some s ∧
      s.locals s.running = .free ∧ s.masked = true :=
  ⟨⟨_, rfl, rfl, ((primask_restored .sensor (takeMasked.take 5) _ rfl).2 .sensor true rfl).2⟩,
    ⟨_, rfl, rfl, (primask_restored .sensor takeMasked _ rfl).1 rfl⟩⟩

/-! ## `Board_TakeReedEdge` is atomic -/

/-- What the loop of the sensor task sees: an interrupt, or the whole function. -/
inductive ReedOp where
  | edge | take
deriving DecidableEq, Repr

/-- `ReedEdgePending`, and what the function returns. -/
def reedStep (pending : Bool) : ReedOp → Bool × Option Bool
  | .edge => (true, none)
  | .take => ((boardTakeReedEdge pending).2, some (boardTakeReedEdge pending).1)

def TakeStage.reads : TakeStage → Bool
  | .masked _ => true
  | _ => false

/-- The statement at which the interrupt or the function happens at once. -/
def reedOp (s : EdgeCore) : EdgeAction → Option ReedOp
  | .handle => if s.handling.head? = some (.handle .reed) then some .edge else none
  | .run => if s.running = .sensor ∧ (s.locals .sensor).reads = true then some .take else none
  | _ => none

/-- `ReedEdgePending` as it would be if the function cleared it as it reads it. -/
def reedFlag (s : EdgeCore) : Bool := !(s.locals .sensor).stale && s.memory.flags.reedEdgePending

def reedReturn (r : EdgeTask × EdgeFlags) : Option Bool :=
  if r.1 = .sensor then some r.2.reedEdgePending else none

/-- What the calls so far have read, the most recent first. -/
def reedTaken (s : EdgeCore) : List Bool :=
  ((s.locals .sensor).hand.map (·.reedEdgePending)).toList ++ s.memory.returned.filterMap reedReturn

/-- The atomic calls of an interleaving, in order. -/
def reedOps (running : EdgeTask) (acts : List EdgeAction) : List ReedOp :=
  labels edgeNext reedOp (edgeStart running) acts

/-- `s'` is `s` after the atomic calls `ops`. -/
def ReedSteps (s s' : EdgeCore) (ops : List ReedOp) : Prop :=
  reedFlag s' = final reedStep (reedFlag s) ops ∧
    reedTaken s' = (outputs reedStep (reedFlag s) ops).reduceOption.reverse ++ reedTaken s

theorem reedSteps_none {s s' : EdgeCore} (hflag : reedFlag s' = reedFlag s) (htaken : reedTaken s' = reedTaken s) :
    ReedSteps s s' [] :=
  ⟨hflag, htaken⟩

/-- **Step lemma**, a statement of a handler: the interrupt happens where it sets the flag. -/
theorem reed_handle {own : Bool} {s s' : EdgeCore} (hg : Guarded TakeStage.phase own s)
    (hnext : edgeNext s .handle = some s') : ReedSteps s s' (reedOp s .handle).toList := by
  obtain ⟨k, ks, hks, rfl⟩ := next_handle hnext
  have hstale := (no_hand hg (by simp [hks]) .sensor).2
  simp only [reedOp, hks, List.head?_cons, Option.some.injEq]
  cases k with
  | check ℓ => exact reedSteps_none rfl rfl
  | clear ℓ => exact reedSteps_none rfl rfl
  | handle ℓ =>
    have hflag := has_handle s.memory.flags ℓ .reed
    by_cases hℓ : ℓ = .reed
    · subst hℓ
      refine ⟨?_, rfl⟩
      change (!(s.locals .sensor).stale && (appHandleGpioExti s.memory.flags Line.reed.pin).has .reed) = true
      rw [hflag, hstale]
      simp
    · rw [if_neg (by simp [hℓ])]
      refine reedSteps_none ?_ rfl
      change (!(s.locals .sensor).stale && (appHandleGpioExti s.memory.flags ℓ.pin).has .reed) = _
      rw [hflag, beq_false_of_ne (Ne.symm hℓ), Bool.or_false]
      rfl

/-- **Step lemma**, a statement of a task: the function happens where it reads the flag. -/
theorem reed_run {s s' : EdgeCore} (hnext : edgeNext s .run = some s') :
    ReedSteps s s' (reedOp s .run).toList := by
  obtain ⟨-, rfl⟩ := next_run hnext
  simp only [reedOp]
  by_cases hrun : s.running = .sensor
  · cases hstage : s.locals .sensor with
    | free =>
      rw [if_neg (by simp [TakeStage.reads])]
      refine reedSteps_none ?_ ?_ <;>
        simp [reedFlag, reedTaken, edgeProgram, takeStmt, hrun, hstage, TakeStage.stale, TakeStage.hand]
    | saved old =>
      rw [if_neg (by simp [TakeStage.reads])]
      refine reedSteps_none ?_ ?_ <;>
        simp [reedFlag, reedTaken, edgeProgram, takeStmt, hrun, hstage, TakeStage.stale, TakeStage.hand]
    | masked old =>
      rw [if_pos ⟨hrun, rfl⟩]
      constructor <;>
        simp [reedFlag, reedTaken, reedStep, boardTakeReedEdge, edgeProgram, takeStmt, hrun, hstage,
          TakeStage.stale, TakeStage.hand, EdgeTask.part, List.reduceOption]
    | taken old edges =>
      rw [if_neg (by simp [TakeStage.reads])]
      refine reedSteps_none ?_ ?_ <;>
        simp [reedFlag, reedTaken, edgeProgram, takeStmt, hrun, hstage, TakeStage.stale, TakeStage.hand,
          EdgeTask.clear]
    | cleared old edges =>
      rw [if_neg (by simp [TakeStage.reads])]
      refine reedSteps_none ?_ ?_ <;>
        simp [reedFlag, reedTaken, reedReturn, edgeProgram, takeStmt, hrun, hstage, TakeStage.stale,
          TakeStage.hand]
  · -- the other task reads, clears and returns other flags
    have huser : s.running = .user := by
      cases hr : s.running
      · rfl
      · exact absurd hr hrun
    rw [if_neg (fun hc => hrun hc.1)]
    refine reedSteps_none ?_ ?_ <;> rw [huser] <;> cases s.locals .user <;>
      simp [reedFlag, reedTaken, reedReturn, edgeProgram, takeStmt, EdgeTask.clear]

/-- **Step lemma**: every step makes the call that it is labelled with. -/
theorem step_reed {acts : List EdgeAction} {s s' : EdgeCore} {a : EdgeAction}
    (hg : Guarded TakeStage.phase (ownMask acts) s) (hnext : edgeNext s a = some s') :
    ReedSteps s s' (reedOp s a).toList := by
  cases a with
  | hardware ℓ =>
    cases hnext
    exact reedSteps_none rfl rfl
  | handle => exact reed_handle hg hnext
  | run => exact reed_run hnext
  | interrupt v =>
    obtain ⟨-, -, rfl⟩ := next_interrupt hnext
    exact reedSteps_none rfl rfl
  | switch t =>
    obtain ⟨-, -, rfl⟩ := next_switch hnext
    exact reedSteps_none rfl rfl
  | mask on =>
    obtain ⟨-, -, rfl⟩ := next_mask hnext
    exact reedSteps_none rfl rfl

/-- **`Board_TakeReedEdge` is atomic**: in every interleaving of its statements with the handlers and the other
task the flag and the values read are those of calls that happen at once, where they read the flag. -/
theorem take_reed_edge_atomic (running : EdgeTask) (acts : List EdgeAction) (s : EdgeCore)
    (h : exec edgeNext (edgeStart running) acts = some s) :
    reedFlag s = final reedStep false (reedOps running acts) ∧
      reedTaken s = (outputs reedStep false (reedOps running acts)).reduceOption.reverse := by
  refine exec_history (fun acts s => reedFlag s = final reedStep false (reedOps running acts) ∧
    reedTaken s = (outputs reedStep false (reedOps running acts)).reduceOption.reverse) ⟨rfl, rfl⟩ ?_ h
  rintro acts t a u ht ⟨hflag, htaken⟩ hnext
  have hstep := step_reed (edges_guarded ht) hnext
  rw [reedOps, labels_snoc _ a ht, final_append, outputs_append, List.reduceOption_append, List.reverse_append]
  rw [ReedSteps, hflag, htaken] at hstep
  exact hstep

/-- One call read the flag that stood for the first two edges; the third raises it again. -/
theorem take_reed_edge_atomic_edgeInside : ∃ s, exec edgeNext (edgeStart .sensor) edgeInside = some s ∧
    reedFlag s = final reedStep false (reedOps .sensor edgeInside) ∧
    reedTaken s = (outputs reedStep false (reedOps .sensor edgeInside)).reduceOption.reverse ∧
    reedOps .sensor edgeInside = [.edge, .take, .edge] :=
  have h := take_reed_edge_atomic .sensor edgeInside _ rfl
  ⟨_, rfl, h.1, h.2, rfl⟩

end SmartAc
