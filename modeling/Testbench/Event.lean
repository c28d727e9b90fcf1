import Testbench.Disposition

/-!
# Events

What test code tells the observer of a run: that an assertion failed, that a routine unwound for no
reported reason, that it cannot decide, or just a message. An event may carry the stack of the
thread that reported it.
-/

namespace Testbench

/-- The frames of a thread's stack, innermost first. -/
structure StackTrace where
  /-- One line per frame. -/
  frames : List String
deriving DecidableEq, Repr

namespace StackTrace

/-- The greatest number of frames an event is given. -/
def maxFrames : Nat := 64

/-- The innermost `limit` frames of a stack. -/
def capture (stack : List String) (limit : Nat) : StackTrace := ⟨stack.take limit⟩

/-- Whether no frame is held. -/
def isEmpty (t : StackTrace) : Bool := t.frames.isEmpty

end StackTrace

/-- What an event says, apart from the stack. -/
inductive Event.Detail
  /-- The assertion `expression`, in line `line` of `file` within `routine`, did not hold. -/
  | failedAssertion (file routine : String) (line : UInt32) (expression : String)
  /-- A routine unwound with this message. -/
  | uncaughtException (message : String)
  /-- A routine could not decide, for this reason. -/
  | inconclusiveness (message : String)
  /-- A message. -/
  | log (message : String)
deriving DecidableEq, Repr

/-- An event that a thread reports. -/
structure Event where
  /-- What it says. -/
  detail : Event.Detail
  /-- The stack of the reporting thread, where one was asked for. -/
  stack : Option StackTrace := none
deriving DecidableEq, Repr

namespace Event

/-- A message without a stack. -/
def note (message : String) : Event := ⟨.log message, none⟩

/-- The sort of an event. -/
def kind (e : Event) : EventKind :=
  match e.detail with
  | .failedAssertion .. => .failedAssertion
  | .uncaughtException _ => .uncaughtException
  | .inconclusiveness _ => .inconclusiveness
  | .log _ => .log

/-- The event as a line for a reader. -/
def text (e : Event) : String :=
  match e.detail with
  | .failedAssertion file routine line expression =>
    "assertion failed at " ++ file ++ ":" ++ toString line.toNat ++ " in " ++ routine ++ ": "
      ++ expression
  | .uncaughtException message => "uncaught exception: " ++ message
  | .inconclusiveness message => "inconclusive: " ++ message
  | .log message => message

/-- The text that stands for the event in a history: the expression of an assertion, and the
message of anything else. -/
def subject (e : Event) : String :=
  match e.detail with
  | .failedAssertion _ _ _ expression => expression
  | .uncaughtException message | .inconclusiveness message | .log message => message

end Event

end Testbench
