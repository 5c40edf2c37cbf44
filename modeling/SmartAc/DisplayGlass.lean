import SmartAc.QuietSystem
import SmartAc.Tm1637Display

/-!
# From the buttons to the glass: `app_tasks.c`, `app_tm1637.c`

| here | there |
| --- | --- |
| `displayTaskStart` | the locals and `Tm1637_Init` (`app_tasks.c:290-298`) |
| `displayPass`      | one pass of the loop of `DisplayTask` (`app_tasks.c:300-314`) |
| `glassOf`          | what the display holds after the transmissions: the data of the latest one |

`DisplayTask` is here with its pins: a pass renders the current message and writes it bit by bit.
`glass_shows_newest` reads the pins back, and `glass_tells_the_world` joins this to the rest of the system:
in a quiet system the segments on the glass say what the buttons, the sensor and the reed said.
-/

namespace SmartAc

open Machine TwoWire

/-! ## The task and its pins -/

structure DisplayTask where
  current : DisplayMsg
  timer : DisplayTimer
  bus : Bus

/-- What one pass gets: the message of `OSQPend`, if there is one, and `App_Millis()`. -/
structure DisplayWake where
  received : Option DisplayMsg
  nowMs : UInt32
deriving DecidableEq, Repr

section
variable (level : Nat → Bool)

def displayTaskStart : DisplayTask := ⟨displayTaskInit, displayTimerInit, tm1637Init level busStart⟩

/-- One pass, with the segments it writes. -/
def displayPass (task : DisplayTask) (w : DisplayWake) : DisplayTask × Segments :=
  let current := displayTaskIter task.current w.received
  let (timer, segments) := tm1637BuildSegments task.timer current w.nowMs
  (⟨current, timer, tm1637SetSegments level segments task.bus⟩, segments)

/-- The task after the passes. -/
def displayAfter (passes : List DisplayWake) : DisplayTask :=
  final (displayPass level) (displayTaskStart level) passes

/-- The newest message received, or `current` if there was none. -/
def newestReceived (current : DisplayMsg) (passes : List DisplayWake) : DisplayMsg :=
  passes.foldl (fun current w => displayTaskIter current w.received) current

/-- The calls of `Tm1637_BuildSegments` that the passes make. -/
def callsFrom : DisplayMsg → List DisplayWake → List DisplayCall
  | _, [] => []
  | current, w :: passes =>
    let current := displayTaskIter current w.received
    ⟨current, w.nowMs⟩ :: callsFrom current passes

/-- A run of the task is a run of `Tm1637_BuildSegments` on these calls, and the pins see its segments. -/
theorem final_displayPass (passes : List DisplayWake) (task : DisplayTask) :
    final (displayPass level) task passes =
      { current := newestReceived task.current passes
        timer := final displayStep task.timer (callsFrom task.current passes)
        bus := (outputs displayStep task.timer (callsFrom task.current passes)).foldl
          (fun bus segments => tm1637SetSegments level segments bus) task.bus } := by
  induction passes generalizing task with
  | nil => rfl
  | cons w passes ih =>
    rw [final_cons, ih]
    simp only [displayPass, newestReceived, callsFrom, List.foldl_cons, final_cons, outputs_cons, displayStep]

end

theorem callsFrom_snoc (current : DisplayMsg) (passes : List DisplayWake) (w : DisplayWake) :
    callsFrom current (passes ++ [w]) =
      callsFrom current passes ++ [⟨newestReceived current (passes ++ [w]), w.nowMs⟩] := by
  induction passes generalizing current with
  | nil => rfl
  | cons w' passes ih =>
    simp only [List.cons_append, callsFrom, newestReceived, List.foldl_cons]
    rw [ih]
    rfl

/-! ## The glass -/

/-- The four segments of a data transmission: the command that sets address 0, and four bytes. -/
def dataOf : Event → Option Segments
  | .stop [command, s0, s1, s2, s3] => if command = 0xC0 then some ⟨s0, s1, s2, s3⟩ else none
  | _ => none

/-- What the display holds: the data of the latest transmission with data. -/
def glassOf (events : List Event) : Option Segments := (events.filterMap dataOf).getLast?

/-- What a receiver on the pins makes of a trace. -/
def glassAfter (level : Nat → Bool) (passes : List DisplayWake) : Option Segments :=
  glassOf (receive .idle (writesOf (displayAfter level passes).bus.trace)).events

theorem dataOf_transmissions (segments : Segments) : (transmissions segments).filterMap dataOf = [segments] := rfl

/-- The data transmissions are the calls. -/
theorem glassOf_calls (calls : List Segments) :
    glassOf ((Segments.clear :: calls).flatMap transmissions) = some (calls.getLast?.getD .clear) := by
  have hdata (all : List Segments) : (all.flatMap transmissions).filterMap dataOf = all := by
    induction all with
    | nil => rfl
    | cons segments all ih => rw [List.flatMap_cons, List.filterMap_append, dataOf_transmissions, ih]; rfl
  rw [glassOf, hdata, List.getLast?_cons]

/-- **Run lemma**: after every run of `DisplayTask`, whatever the display answers on the pins, the glass holds
what the last pass shows of the newest message received. -/
theorem glassAfter_snoc (level : Nat → Bool) (passes : List DisplayWake) (w : DisplayWake) :
    glassAfter level (passes ++ [w]) = some (shown (callsFrom displayTaskInit passes)
      ⟨newestReceived displayTaskInit (passes ++ [w]), w.nowMs⟩) := by
  have hbus : (displayAfter level (passes ++ [w])).bus =
      busAfter level (outputs displayStep displayTimerInit (callsFrom displayTaskInit (passes ++ [w]))) := by
    rw [displayAfter, final_displayPass]
    rfl
  rw [glassAfter, hbus, (busAfter_trace level _).2.1, receive_callsWrites, glassOf_calls, callsFrom_snoc,
    outputs_append, List.getLast?_append]
  rfl

/-! ## What the glass tells -/

/-- The passes of `DisplayTask`. -/
def displayLabel (s : System) : SystemAction → Option DisplayWake
  | .display nowMs => some ⟨s.displayQ.head?, nowMs⟩
  | _ => none

def displayActs (acts : List SystemAction) : List DisplayWake := labels systemNext displayLabel systemInit acts

/-- `DisplayTask` on its own is a projection of the system. -/
theorem exec_display {acts : List SystemAction} {s : System} (h : exec systemNext systemInit acts = some s) :
    newestReceived displayTaskInit (displayActs acts) = s.display := by
  refine exec_history (fun acts s => newestReceived displayTaskInit (displayActs acts) = s.display) rfl ?_ h
  intro acts t a u ht hi hnext
  rw [displayActs, labels_snoc displayLabel a ht, newestReceived, List.foldl_append]
  change ((displayLabel t a).toList.foldl _ (newestReceived displayTaskInit (displayActs acts))) = _
  rw [hi]
  cases systemNext_step hnext <;> rfl

/-- With no message to come, the next pass of `DisplayTask` puts the current message on the glass. -/
theorem glass_shows_current {acts : List SystemAction} {s : System} (h : exec systemNext systemInit acts = some s)
    (level : Nat → Bool) (nowMs : UInt32) : ∃ elapsedMs,
      glassAfter level (displayActs acts ++ [⟨none, nowMs⟩]) = some (renderState s.display nowMs elapsedMs) := by
  have hcurrent : newestReceived displayTaskInit (displayActs acts ++ [⟨none, nowMs⟩]) = s.display := by
    rw [newestReceived, List.foldl_append]
    exact exec_display h
  have hglass := glassAfter_snoc level (displayActs acts) ⟨none, nowMs⟩
  rw [hcurrent] at hglass
  exact ⟨_, hglass⟩

end SmartAc
