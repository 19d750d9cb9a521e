/-
Validation rules, the registry that holds them, and the scopes that confine
them to a state or an event.

A condition is data: always, a callback, or a condition inside a scope.
`RuleOptions.within` puts a rule's condition inside a scope; how conditions and
rules are evaluated on a record is said where the engine is defined.
-/
import Lifecycle.Script

namespace Lifecycle

/-- A state of a record and, unless it is null, an event; `column` is the attribute with the
state. -/
structure Scope where
  state : Value
  event : Value := .null
  column : Value := .str "state"
  deriving Repr, Inhabited

/-- Whether a scope covers a record whose column shows `current`, its event aside. -/
def Scope.isAt (s : Scope) (current : Value) : Bool :=
  !current.isNull && current.asText.same s.state

inductive Condition where
  | always
  | callback (c : Callback)
  | scoped (scope : Scope) (inner : Condition)
  deriving Repr, Inhabited

def Condition.isGiven : Condition → Bool
  | always => false
  | _ => true

/-- The options of a rule; `others` holds everything but the condition. -/
structure RuleOptions where
  condition : Condition := .always
  others : Table Value := ∅
  deriving Repr, Inhabited

namespace RuleOptions

def message (o : RuleOptions) : Value := (o.others.get? "message").getD .null

/-- The options of the same rule confined to a scope. -/
def within (o : RuleOptions) (scope : Scope) : RuleOptions :=
  { o with condition := .scoped scope o.condition }

@[simp] theorem within_others (o : RuleOptions) (s : Scope) : (o.within s).others = o.others := rfl

@[simp] theorem within_condition (o : RuleOptions) (s : Scope) :
    (o.within s).condition = .scoped s o.condition := rfl

end RuleOptions

inductive Validator where
  /-- Every named attribute holds something. -/
  | presence
  /-- No named attribute holds anything. -/
  | absence
  | custom (c : Callback)
  deriving Repr, Inhabited

/-- A request to add a rule. -/
structure RuleCall where
  validator : Value
  args : List Value := []
  options : RuleOptions := {}
  deriving Repr, Inhabited

structure Rule where
  validator : Value
  args : List Value
  condition : Condition
  message : Value
  deriving Repr, Inhabited

/-- Validators by name and the rules that use them, both in the order in which they came in. -/
structure Registry where
  validators : List (Value × Validator)
  rules : List Rule := []
  deriving Repr, Inhabited

namespace Registry

/-- The registry without rules, with the two validators that every machine has. -/
def standard : Registry where
  validators := [(.str "presence", .presence), (.str "absence", .absence)]

/-- The validator in force under a name. -/
def validator? (r : Registry) (name : Value) : Option Validator :=
  (r.validators.find? (·.1.same name)).map (·.2)

/-- A name already in the list keeps its place and takes the new validator. -/
def setValidator (name : Value) (v : Validator) :
    List (Value × Validator) → List (Value × Validator)
  | [] => [(name, v)]
  | (n, w) :: rest => if n.same name then (n, v) :: rest else (n, w) :: setValidator name v rest

def checkName (name : Value) : Except Fault Unit :=
  match name.unhashable? with
  | .some v => .error (.misuse (.unhashable v))
  | .none => .ok ()

def define (r : Registry) (name : Value) (v : Validator) : Except Fault Registry := do
  checkName name
  return { r with validators := setValidator name v r.validators }

def has (r : Registry) (name : Value) : Except Fault Bool := do
  checkName name
  return (r.validator? name).isSome

/-- The rule that a call asks for; its validator has to be there. -/
def rule (r : Registry) (call : RuleCall) : Except Fault Rule := do
  if let .some name := call.options.others.keys.find? (· ≠ "message") then
    throw (.misuse (.unknownOption name))
  unless ← r.has call.validator do
    throw (.unknownKey call.validator)
  return ⟨call.validator, call.args, call.options.condition, call.options.message⟩

/-- The registry with the rule that a call asks for at its end. -/
def add (r : Registry) (call : RuleCall) : Except Fault (Rule × Registry) := do
  let rule ← r.rule call
  return (rule, { r with rules := r.rules ++ [rule] })

/-- The same for a rule that is confined to a scope. -/
def addWithin (r : Registry) (scope : Scope) (call : RuleCall) : Except Fault (Rule × Registry) :=
  r.add { call with options := call.options.within scope }

end Registry

end Lifecycle
