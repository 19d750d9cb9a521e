/-
Scripts: the programs that a machine calls as actions, guards, conditions,
validators and observers, and that a class has as methods.

A script works on one record and may take further arguments. Of machines it can
ask two things, to fire an event on the record and to list the rules that fail.
There is no expression to initialize the record, to query its state or to perform a
single transition, so no script does these other than through a method of the record.
It ends with `give`, which answers with a value, or without an answer. This module
is syntax only.
-/
import Lifecycle.Fault

namespace Lifecycle

/-- What is computed of the record and of the arguments. Beside `fire` and `errors` nothing is asked
of a machine. -/
inductive Expr where
  | lit (v : Value)
  /-- An attribute of the record, null if there is none. -/
  | attr (name : Value)
  /-- A further argument of the script, null if there are not so many. -/
  | arg (index : Nat)
  | argc
  | eq (a b : Expr)
  | not (a : Expr)
  /-- One more than an attribute; an attribute that counts as false counts as zero. -/
  | inc (name : Value)
  /-- The answer of a method of the record. -/
  | call (name : Value) (args : List Expr)
  /-- Whether firing an event of the machine bound to an id moved the record. -/
  | fire (machine : String) (event : Value)
  /-- The messages of the rules that fail, of the machine bound to an id. -/
  | errors (machine : String) (event : Expr)
  deriving Repr, Inhabited

inductive Step where
  | log (e : Expr)
  | set (name : Value) (e : Expr)
  | del (name : Value)
  | eval (e : Expr)
  | raise (kind : Raised) (reason : Value)
  deriving Repr, Inhabited

inductive Script where
  | done
  | give (e : Expr)
  | step (s : Step) (rest : Script)
  | branch (test : Expr) (yes no rest : Script)
  deriving Repr, Inhabited

/-- What may stand where a function is expected: a script, a plain value such as the name of a
method, or a list of such things. -/
inductive Callback where
  | script (body : Script)
  | value (v : Value)
  | items (cs : List Callback)
  deriving Repr, Inhabited

namespace Callback

mutual

/-- The value that is seen where a callback is shown. -/
def toValue : Callback → Value
  | script _ => .function
  | value v => v
  | items cs => .list (toValues cs)

def toValues : List Callback → List Value
  | [] => []
  | c :: cs => toValue c :: toValues cs

end

/-- The value of a callback that may be missing. -/
def optionValue : Option Callback → Value
  | .some c => c.toValue
  | .none => .null

end Callback

/-- What a method takes beside its record. -/
inductive Params where
  | none
  /-- One argument, null if it is left out. -/
  | optional
  | required
  /-- Any number of arguments. -/
  | star
  /-- A parameter that cannot be given by position. -/
  | keyword
  deriving Repr, DecidableEq, Inhabited

/-- What a call hands over: values by position, and values by name. -/
structure Arguments where
  positional : List Value := []
  named : Table Value := ∅
  deriving Repr, Inhabited

namespace Arguments

def isEmpty (args : Arguments) : Bool := args.positional.isEmpty && args.named.entries.isEmpty

/-- The only value, whether it is given by position or under a name. -/
def only? (args : Arguments) (name : String) : Option Value :=
  match args.positional, args.named.entries with
  | [v], [] => .some v
  | [], [(key, v)] => if key = name then .some v else .none
  | _, _ => .none

end Arguments

namespace Params

/-- The name of the one parameter that a method can declare by name. -/
def eventName : String := "event"

/-- The arguments that a script sees, if a call with `args` is allowed. Parameters that cannot be
given by position take any name, and the script sees none of them. -/
def bind? (params : Params) (args : Arguments) : Option (List Value) :=
  match params with
  | none => if args.isEmpty then .some [] else .none
  | keyword => if args.positional.isEmpty then .some [] else .none
  | optional => if args.isEmpty then .some [.null] else (args.only? eventName).map ([·])
  | required => (args.only? eventName).map ([·])
  | star => if args.named.entries.isEmpty then .some args.positional else .none

/-- Where the functions of scripts are written. -/
def place : String := "Session.method.<locals>.<lambda>"

/-- How many arguments can be given by position at least and at most, with the record. -/
def arity : Params → Nat × Nat
  | none | keyword | star => (1, 1)
  | optional => (1, 2)
  | required => (2, 2)

/-- What is wrong with a call that is not allowed. -/
def misuse (params : Params) (args : Arguments) : Misuse :=
  let (least, most) := params.arity
  let given := args.positional.length + 1
  if !args.named.entries.isEmpty then .arguments place
  else if given < least then .tooFew place eventName
  else .tooMany place least most given

/-- A method that declares a parameter of any kind is given the event that is being fired. -/
def takesEvent : Params → Bool
  | none => false
  | _ => true

end Params

end Lifecycle
