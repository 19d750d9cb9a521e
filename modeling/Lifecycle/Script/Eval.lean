/-
Running scripts on a record.

What a script cannot do by itself, calling a method or a machine, it asks of
its host; everything else is plain recursion on the script. `Script.run` ends
with the value that the script gave, if it gave one.
-/
import Lifecycle.Run.Signature

namespace Lifecycle

namespace Host

/-- The machine bound to an id. -/
def machineNamed (h : Host) (id : String) : Run MachineId :=
  match h.named? id with
  | .some m => return m
  | .none => Run.fail (.unbound id)

end Host

namespace Expr

mutual

def eval (h : Host) (args : List Value) : Expr → Run Value
  | lit v => return v
  | attr name => h.working [] (h.attr name)
  | arg i => return (args[i]?).getD .null
  | argc => return .int args.length
  | eq a b => h.working [] do
    let x ← eval h args a
    let y ← eval h args b
    h.compare .equal x y
  | not a => h.working [] do
    let x ← eval h args a
    return .bool !(← h.truth x)
  | inc name => h.working [] do
    let v ← h.attr name
    h.working [v] (h.successor v)
  | call name es => do
    let target ← h.require name
    h.working [target] do
      let vs ← evalAll h args es
      h.answer (.call target vs)
  | fire machine event => do
    let id ← h.machineNamed machine
    h.answer (.fire id event)
  | errors machine event => do
    let id ← h.machineNamed machine
    let v ← eval h args event
    h.answer (.errors id v)

def evalAll (h : Host) (args : List Value) : List Expr → Run (List Value)
  | [] => return []
  | e :: es => do
    let v ← eval h args e
    let vs ← evalAll h args es
    return v :: vs

end

end Expr

def Step.run (h : Host) (args : List Value) : Step → Run Unit
  | log e => h.passing do
    let v ← e.eval h args
    Run.note (.note v)
  | set name e => h.passing do
    let v ← e.eval h args
    h.setAttr name v
  | del name => h.passing (h.delAttr name)
  | eval e => h.passing do
    let _ ← e.eval h args
  | raise kind reason => Run.fail (.raised kind reason)

def Script.run (h : Host) (args : List Value) : Script → Run (Option Value)
  | done => return .none
  | give e => do
    let v ← e.eval h args
    return .some v
  | step s rest => do
    s.run h args
    rest.run h args
  | branch test yes no rest => do
    let holds ← h.passing do
      let v ← test.eval h args
      h.truth v
    let given ← if holds then yes.run h args else no.run h args
    match given with
    | .some v => return .some v
    | .none => rest.run h args

/-- A script that gives no value answers with null. -/
def Script.call (h : Host) (args : List Value) (s : Script) : Run Value :=
  return (← s.run h args).getD .null

/-- Calls a callback as a function; only a script is one. -/
def Callback.call (h : Host) (args : List Value) : Callback → Run Value
  | script body => h.working args (body.call h args)
  | c => Run.fail (.misuse (.notCallable c.toValue))

end Lifecycle
