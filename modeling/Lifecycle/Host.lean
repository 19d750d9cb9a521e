/-
The host of a run: calls of methods, of classes and of machines, answered by
the scripts of the classes and by engines of their own.

`Host.serve` answers a request and leaves what that asks for in turn to the
host it is given. `Setting.answer` ties the two together, up to a depth of
nested requests, beyond which a run is exhausted.
-/
import Lifecycle.Class.Call

namespace Lifecycle

namespace Host

/-- Calls a value: a method on what it is bound to, a class to make a record, a record by the method
that its class has for that. -/
def call (h : Host) (target : Value) (args : List Value) : Run Value := do
  match target with
  | .method of owner name layers =>
    match (← get).function? owner name layers with
    | .some m => Run.as of (h.callMember owner name { positional := args } m)
    | .none => Run.fail (.misuse (.notCallable target))
  | .routine owner name layers =>
    match (← get).function? owner name layers with
    | .some m => h.callFree owner name { positional := args } m
    | .none => Run.fail (.misuse (.notCallable target))
  | .cls cls => h.callClass cls { positional := args }
  | target =>
    match ← h.ask "__call__" target args with
    | .some answer => return answer
    | .none => Run.fail (.misuse (.notCallable target))

def serve (h : Host) : Request → Run Value
  | .call target args => h.working (target :: args) (h.call target args)
  | .fire id event => h.working [event] do
    let e ← h.engine id
    return .bool (← e.fire event)
  | .errors id event => h.working [event] do
    let e ← h.engine id
    return .list (← e.errors event)

end Host

namespace Setting

/-- Answers a request, with at most `depth` requests waiting for one another. -/
def answer (s : Setting) : Nat → Request → Run Value
  | 0, _ => throw .exhausted
  | depth + 1, r => Host.serve { toSetting := s, answer := answer s depth } r

/-- How many requests may wait for one another before a run counts as endless. -/
def depth : Nat := 1000

/-- The host of runs in a setting. -/
def host (s : Setting) : Host := { toSetting := s, answer := s.answer depth }

end Setting

end Lifecycle
