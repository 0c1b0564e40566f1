import SledServer.Core.Run

/-!
# What every state machine shares

`machine_body.h` generates one `handle_event` for each of the five machines from the same text:
compute the next state, and, if it differs, run the exit action of the old state, store the new
state, log it and run the entry action of the new one.  `handleEvent` is that text, over the
type of the program state that the machine lives in.

The ways in which the process can stop short are collected in `Halt`.
-/

namespace SledServer

open SledServer.Core

/-- Why the process stops in the middle of a step. -/
inductive Halt
  /-- `exit(1)`. -/
  | exit
  /-- A failed `assert`. -/
  | assertFailed
  /-- The C++ program has no defined behaviour from here: an access outside an array, or
  `front()` of an empty queue. -/
  | undefined
  /-- The depth allotted to a recursion of the model ran out. -/
  | depth
  deriving DecidableEq, Repr

/-- `assert(b)`. -/
def assert (b : Bool) : Except Halt Unit := if b then .ok () else .error .assertFailed

@[simp] lemma assert_true : assert true = .ok () := rfl

@[simp] lemma assert_false : assert false = .error .assertFailed := rfl

section

variable {S St Ev : Type} [DecidableEq St]

/-- `handle_event` of `machine_body.h`.  `setState` stores the new state and logs the change. -/
def handleEvent (state : S → St) (setState : St → S → S) (nextStateGivenEvent : St → Ev → St)
    (onExit onEnter : S → Except Halt S) (event : Ev) (s : S) : Except Halt S :=
  let nextState := nextStateGivenEvent (state s) event
  if state s = nextState then .ok s
  else do
    let s ← onExit s
    onEnter (setState nextState s)

variable {state : S → St} {setState : St → S → S} {nextStateGivenEvent : St → Ev → St}
  {onExit onEnter : S → Except Halt S} {event : Ev} {s : S}

/-- An event that does not change the state does nothing. -/
lemma handleEvent_stay (h : nextStateGivenEvent (state s) event = state s) :
    handleEvent state setState nextStateGivenEvent onExit onEnter event s = .ok s := by
  simp [handleEvent, h]

lemma handleEvent_move (h : nextStateGivenEvent (state s) event ≠ state s) :
    handleEvent state setState nextStateGivenEvent onExit onEnter event s =
      onExit s >>= fun s' => onEnter (setState (nextStateGivenEvent (state s) event) s') := by
  simp [handleEvent, Ne.symm h]

end

end SledServer
