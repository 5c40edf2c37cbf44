import Mathlib.Data.List.Induction
import SmartAc.Lib.Clock
import SmartAc.Lib.Machine
import SmartAc.Messages

/-!
# The buttons: `app_tasks.c`

| here | there |
| --- | --- |
| `debounceButton` | `DebounceButton` (`app_tasks.c:176-193`) |
| `pollEvents`     | the event bits of one poll (`app_tasks.c:211-228`) |
| `userPoll`       | one pass of `UserInputTask` up to its `OSFlagPost` (`app_tasks.c:205-232`) |

A poll carries the three levels, `true` for pressed, and its real time; the task reads `App_Millis` at
most once in it. `stableLevel`, `hold` and `gestureAt` say what a poll means in terms of the polls
before it, the most recent first; `UserTracks` ties the locals of the task to that history.
-/

namespace SmartAc

open Machine WrapClock

/-! ## The debouncer -/

structure ButtonDebounce where
  pressed : Bool
  count : Nat
deriving DecidableEq, Repr

def debounceInit : ButtonDebounce := ⟨false, 0⟩

/-- `DebounceButton` (`app_tasks.c:181`): the new state, and whether a press was accepted. -/
def debounceButton (db : ButtonDebounce) (rawPressed : Bool) : ButtonDebounce × Bool :=
  if rawPressed = db.pressed then ({ db with count := 0 }, false)
  else if db.count + 1 < appDebounceSamples then ({ db with count := db.count + 1 }, false)
  else ({ pressed := rawPressed, count := 0 }, rawPressed)

/-- How many of the latest samples are at `level`. -/
def trailing (level : Bool) (samples : List Bool) : Nat := (samples.takeWhile (· == level)).length

/-- The level of the latest run of at least five equal samples; released when there was none. -/
def stableLevel : List Bool → Bool
  | [] => false
  | s :: past => if appDebounceSamples ≤ trailing s (s :: past) then s else stableLevel past

@[simp] theorem trailing_self (s : Bool) (past : List Bool) :
    trailing s (s :: past) = trailing s past + 1 := by
  simp [trailing]

@[simp] theorem trailing_not (s : Bool) (past : List Bool) : trailing (!s) (s :: past) = 0 := by
  cases s <;> simp [trailing]

/-- The state of the debouncer after the samples. -/
structure Debounced (db : ButtonDebounce) (samples : List Bool) : Prop where
  pressed : db.pressed = stableLevel samples
  count : db.count = trailing (!db.pressed) samples
  below : db.count < appDebounceSamples

theorem debounceInit_debounced : Debounced debounceInit [] :=
  ⟨rfl, rfl, by decide⟩

/-- **Step lemma**: the debouncer follows the stable level and reports when it goes from released to
pressed. -/
theorem debounceButton_debounced {db : ButtonDebounce} {past : List Bool} (h : Debounced db past)
    (s : Bool) : Debounced (debounceButton db s).1 (s :: past) ∧
      (debounceButton db s).2 = (stableLevel (s :: past) && !stableLevel past) := by
  obtain ⟨hp, hc, hb⟩ := h
  unfold debounceButton
  by_cases hs : s = db.pressed
  · have hlevel : stableLevel (s :: past) = s := by
      rw [stableLevel, ← hp, ← hs, ite_self]
    rw [if_pos hs, hlevel, ← hp, ← hs]
    refine ⟨⟨?_, ?_, Nat.zero_lt_of_lt hb⟩, by simp⟩
    · rw [hlevel]
    · exact (trailing_not s past).symm
  · have hs' : db.pressed = !s := by
      cases s <;> cases hd : db.pressed <;> simp_all
    have hc' : db.count = trailing s past := by rw [hc, hs', Bool.not_not]
    rw [if_neg hs]
    by_cases hfew : db.count + 1 < appDebounceSamples
    · -- the run of `s` is still too short
      have hlevel : stableLevel (s :: past) = db.pressed := by
        rw [stableLevel, trailing_self, ← hc', if_neg (by omega), hp]
      rw [if_pos hfew]
      refine ⟨⟨hlevel.symm, ?_, hfew⟩, ?_⟩
      · rw [hs', Bool.not_not, trailing_self, ← hc']
      · rw [hlevel, ← hp, Bool.and_not_self]
    · have hlevel : stableLevel (s :: past) = s := by
        rw [stableLevel, trailing_self, ← hc', if_pos (by omega)]
      rw [if_neg hfew]
      refine ⟨⟨hlevel.symm, (trailing_not s past).symm, Nat.zero_lt_of_lt hb⟩, ?_⟩
      rw [hlevel, ← hp, hs', Bool.not_not, Bool.and_self]

/-! ## One poll -/

structure ButtonPoll where
  up : Bool
  down : Bool
  b1 : Bool
  time : Nat
deriving DecidableEq, Repr

/-- The locals of `UserInputTask`. -/
structure UserInput where
  b1WasPressed : Bool
  b1PressedSince : UInt32
  upDb : ButtonDebounce
  downDb : ButtonDebounce
deriving DecidableEq, Repr

def userInputInit : UserInput where
  b1WasPressed := false
  b1PressedSince := 0
  upDb := debounceInit
  downDb := debounceInit

/-- The bits of `events`: an accepted UP, an accepted DOWN, and a release of B1 after a short or a long
press. -/
def pollEvents (upPressed downPressed b1Released longPress : Bool) : UInt32 :=
  let events := 0
  let events := if upPressed then events ||| userEvtSetpointUp else events
  let events := if downPressed then events ||| userEvtSetpointDown else events
  if b1Released then
    events ||| userEvtBuzzerClick ||| (if longPress then userEvtPower else userEvtManual)
  else events

/-- One poll: the new locals, and the `events` it posts unless they are 0. -/
def userPoll (u : UserInput) (p : ButtonPoll) : UserInput × UInt32 :=
  let (upDb, upPressed) := debounceButton u.upDb p.up
  let (downDb, downPressed) := debounceButton u.downDb p.down
  let nowMs := reading p.time
  ({ b1WasPressed := p.b1
     b1PressedSince := if p.b1 && !u.b1WasPressed then nowMs else u.b1PressedSince
     upDb, downDb },
    pollEvents upPressed downPressed (!p.b1 && u.b1WasPressed)
      (decide (appLongPressMs ≤ nowMs - u.b1PressedSince)))

/-- The locals after the polls, oldest first. -/
def userAfter (polls : List ButtonPoll) : UserInput := final userPoll userInputInit polls

/-- The events of poll `p` after the polls `past`, oldest first. -/
def eventsAt (past : List ButtonPoll) (p : ButtonPoll) : UInt32 := (userPoll (userAfter past) p).2

/-! ## Gestures -/

/-- What the user did, seen at one poll. -/
structure Gesture where
  power : Bool
  up : Bool
  down : Bool
  manual : Bool
deriving DecidableEq, Repr

def Gesture.none : Gesture := ⟨false, false, false, false⟩

/-- The gesture that the event bits stand for. -/
def gestureOf (events : UInt32) : Gesture where
  power := hasEvent events userEvtPower
  up := hasEvent events userEvtSetpointUp
  down := hasEvent events userEvtSetpointDown
  manual := hasEvent events userEvtManual

theorem gestureOf_zero : gestureOf 0 = .none := by
  simp [gestureOf, Gesture.none]

theorem gestureOf_pollEvents (upPressed downPressed b1Released longPress : Bool) :
    gestureOf (pollEvents upPressed downPressed b1Released longPress) =
      ⟨b1Released && longPress, upPressed, downPressed, b1Released && !longPress⟩ := by
  cases upPressed <;> cases downPressed <;> cases b1Released <;> cases longPress <;> decide

/-- The poll that began the hold B1 is in. -/
def holdStart (past : List ButtonPoll) : Option ButtonPoll := (past.takeWhile (·.b1)).getLast?

/-- The length of the hold that ended at poll `x`. -/
def hold (x : ButtonPoll) (past : List ButtonPoll) : Option Nat :=
  if x.b1 then none else (holdStart past).map (x.time - ·.time)

/-- The gesture at poll `x` after the polls `past`, the most recent first. -/
def gestureAt (x : ButtonPoll) (past : List ButtonPoll) : Gesture where
  power := (hold x past).any (1500 ≤ ·)
  up := stableLevel (x.up :: past.map (·.up)) && !stableLevel (past.map (·.up))
  down := stableLevel (x.down :: past.map (·.down)) && !stableLevel (past.map (·.down))
  manual := (hold x past).any (· < 1500)

/-- The locals of the task in terms of the polls so far. -/
structure UserTracks (u : UserInput) (past : List ButtonPoll) : Prop where
  up : Debounced u.upDb (past.map (·.up))
  down : Debounced u.downDb (past.map (·.down))
  b1 : u.b1WasPressed = (holdStart past).isSome
  since : ∀ o, holdStart past = some o → u.b1PressedSince = reading o.time

theorem holdStart_cons_released {x : ButtonPoll} (h : x.b1 = false) (past : List ButtonPoll) :
    holdStart (x :: past) = none := by
  simp [holdStart, h]

theorem holdStart_cons_pressed {x : ButtonPoll} (h : x.b1 = true) (past : List ButtonPoll) :
    holdStart (x :: past) = some ((holdStart past).getD x) := by
  simp [holdStart, h, List.getLast?_cons]

theorem holdStart_mem {past : List ButtonPoll} {o : ButtonPoll} (h : holdStart past = some o) : o ∈ past :=
  (List.takeWhile_sublist _).subset (List.mem_of_getLast? h)

/-- **Step lemma**: a poll keeps the locals in step with the history. -/
theorem userPoll_tracks {u : UserInput} {past : List ButtonPoll} (h : UserTracks u past)
    (x : ButtonPoll) : UserTracks (userPoll u x).1 (x :: past) := by
  obtain ⟨hup, hdown, hb1, hsince⟩ := h
  refine ⟨(debounceButton_debounced hup x.up).1, (debounceButton_debounced hdown x.down).1, ?_, ?_⟩
  · change x.b1 = _
    cases hx : x.b1 with
    | true => rw [holdStart_cons_pressed hx]; rfl
    | false => rw [holdStart_cons_released hx]; rfl
  · intro o ho
    change (if x.b1 && !u.b1WasPressed then reading x.time else u.b1PressedSince) = reading o.time
    cases hx : x.b1 with
    | false =>
      rw [holdStart_cons_released hx] at ho
      cases ho
    | true =>
      rw [holdStart_cons_pressed hx] at ho
      rw [hb1]
      cases hs : holdStart past with
      | none =>
        rw [hs] at ho
        cases ho
        rfl
      | some o' =>
        rw [hs] at ho
        cases ho
        exact hsince o' hs

theorem userAfter_tracks (polls : List ButtonPoll) : UserTracks (userAfter polls) polls.reverse := by
  induction polls using List.reverseRecOn with
  | nil => exact ⟨debounceInit_debounced, debounceInit_debounced, rfl, fun o ho => by cases ho⟩
  | append_singleton polls x ih =>
    rw [userAfter, final_snoc, List.reverse_append]
    exact userPoll_tracks ih x

/-- The events of a poll are its gesture, for a hold that is shorter than one wrap of the clock. -/
theorem userPoll_gesture {u : UserInput} {past : List ButtonPoll} (h : UserTracks u past)
    {x : ButtonPoll} (hhold : ∀ o, holdStart past = some o → x.b1 = false →
      o.time ≤ x.time ∧ x.time - o.time < 2 ^ 32) :
    gestureOf (userPoll u x).2 = gestureAt x past := by
  obtain ⟨hup, hdown, hb1, hsince⟩ := h
  unfold userPoll gestureAt hold
  dsimp only
  rw [gestureOf_pollEvents, (debounceButton_debounced hup x.up).2,
    (debounceButton_debounced hdown x.down).2, hb1]
  cases hx : x.b1 with
  | true => simp
  | false =>
    cases hs : holdStart past with
    | none => simp
    | some o =>
      obtain ⟨hle, hlt⟩ := hhold o hs hx
      have hlong : decide (appLongPressMs ≤ reading x.time - u.b1PressedSince) =
          decide (1500 ≤ x.time - o.time) := by
        rw [hsince o hs]
        exact decide_eq_decide.2 (le_sub_reading_iff hle hlt _)
      have hshort : (!decide (1500 ≤ x.time - o.time)) = decide (x.time - o.time < 1500) := by
        rw [Bool.eq_iff_iff]
        simp
      simp [hlong, hshort]

end SmartAc
