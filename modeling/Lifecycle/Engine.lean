/-
The engine: what a machine does with one record.

`Engine.fire` chooses among an event's transitions, `Engine.perform` carries
one out, `Engine.start` gives a record its first state. The state lives
in the machine's column; `Engine.commit` is the only place where the engine
writes it, and keeps the value beside it, so that `Engine.rollback` can put it
back over whatever was assigned by others.

An engine may be watched: then each use it makes of the record is logged.
-/
import Lifecycle.Script.Eval

namespace Lifecycle

/-- The attribute that remembers the last committed state of a record. -/
def committedAttribute : String := "_record_fsm_committed"

structure Engine where
  host : Host
  machine : Machine
  watched : Bool := false
  /-- The clock that the adapter was given, if any. -/
  timer : Option ClockId := .none

namespace Engine

def watch (e : Engine) (entry : Entry) : Run Unit :=
  if e.watched then Run.note entry else pure ()

/-! ## The state of the record -/

/-- The state that the column shows, whether or not it is declared. -/
def currentState (e : Engine) : Run Value := do
  let v ← e.host.attr e.machine.config.column
  e.host.asState v

/-- The record's state, which the machine has to know. -/
def declaredState (e : Engine) : Run Value := do
  let current ← e.currentState
  Run.lift (e.machine.checkCurrent current)

def isInState (e : Engine) (name : Value) : Run Bool := do
  let _ ← Run.lift (e.machine.checkStates [name])
  let current ← e.declaredState
  return current.same name.asText

/-- What was committed last, null before that. -/
def committed (e : Engine) : Run Value :=
  e.host.attr (.str committedAttribute)

def commit (e : Engine) (state : Value) : Run Unit := do
  e.watch (.commit state)
  e.host.setAttr e.machine.config.column state
  e.host.setAttr (.str committedAttribute) state

/-- Puts the committed state back if the column has another text; a record that was never
committed is left alone. -/
def rollback (e : Engine) : Run Unit := do
  e.watch .rollback
  if ← e.host.hasAttr (.str committedAttribute) then
    let committed ← e.committed
    let current ← e.currentState
    if ← e.host.differ current committed then
      e.host.setAttr e.machine.config.column committed
    else pure ()
  else pure ()

/-! ## Actions -/

/-- A text names a method of the record; anything else is called with the record. -/
def runAction (e : Engine) (event : Value) (action : Callback) : Run Value := do
  e.watch (.action action.toValue event)
  match action with
  | .value (.str name) => do
    let target ← e.host.require (.str name)
    e.host.answer (.call target [])
  | _ => action.call e.host []

def runActions (e : Engine) (event : Value) : List Callback → Run Unit
  | [] => pure ()
  | action :: rest => do
    let _ ← e.runAction event action
    e.runActions event rest

/-- What runs before a state becomes current. -/
def entering (e : Engine) (event : Value) (s : State) : Run Unit :=
  e.runActions event s.enter.toList

/-- What runs once a state is current. -/
def entered (e : Engine) (event : Value) (s : State) : Run Unit :=
  e.runActions event s.after

/-- What runs when a state was left. -/
def exited (e : Engine) (event : Value) (s : State) : Run Unit :=
  e.runActions event s.exit.toList

/-! ## Validity -/

/-- Whether a record is in the state and the event of a scope. -/
def covered (e : Engine) (event : Value) (scope : Scope) : Run Bool := do
  let current ← e.host.asState (← e.host.attr scope.column)
  if !scope.isAt current then return false
  else if scope.event.isNull then return true
  else return !(← e.host.differ event scope.event)

/-- A condition inside a scope is not asked for outside it. -/
def holds (e : Engine) (event : Value) : Condition → Run Bool
  | .always => return true
  | .callback c => do
    let v ← c.call e.host [event]
    e.host.truth v
  | .scoped scope inner => do
    if ← e.covered event scope then e.holds event inner else return false

/-- The names of the attributes that are blank, or of those that are not. -/
def attrsWith (e : Engine) (blank : Bool) : List Value → Run (List String)
  | [] => return []
  | name :: names => do
    let isBlank ← e.host.isBlank (← e.host.attr name)
    let rest ← e.attrsWith blank names
    return if isBlank == blank then name.text :: rest else rest

/-- The message of a validator that is not satisfied, null otherwise. -/
def validate (e : Engine) (args : List Value) : Validator → Run Value
  | .presence => do
    let names ← e.attrsWith true args
    return if names.isEmpty then .null else .str (", ".intercalate names ++ " can't be blank")
  | .absence => do
    let names ← e.attrsWith false args
    return if names.isEmpty then .null else .str (", ".intercalate names ++ " must be blank")
  | .custom c => c.call e.host args

/-- The messages of one rule: none if it does not apply or is satisfied. A rule's own message goes
before its validator's, unless it counts as false. -/
def ruleErrors (e : Engine) (event : Value) (rule : Rule) : Run (List Value) := do
  if ← e.holds event rule.condition then
    match e.machine.registry.validator? rule.validator with
    | .none => Run.fail (.unknownKey rule.validator)
    | .some validator => do
      let error ← e.validate rule.args validator
      return if error.isNull then [] else [if rule.message.truthy then rule.message else error]
  else return []

def errorsOf (e : Engine) (event : Value) : List Rule → Run (List Value)
  | [] => return []
  | rule :: rules => do
    let first ← e.ruleErrors event rule
    let rest ← e.errorsOf event rules
    return first ++ rest

/-- The messages of all rules that apply and fail, in order. -/
def errors (e : Engine) (event : Value) : Run (List Value) :=
  e.errorsOf event e.machine.registry.rules

/-- The record's own check if it has one, and the machine's rules if not. -/
def check (e : Engine) (event : Value) : Run Bool := do
  let own ← e.host.attr (.str "is_valid")
  if own.isNull then
    return (← e.errors event).isEmpty
  else
    let takesEvent ← e.host.takesEvent own
    let v ← e.host.answer (.call own (if takesEvent then [event] else []))
    e.host.truth v

def isValid (e : Engine) (event : Value) : Run Bool := do
  let result ← e.check event
  e.watch (.valid event result)
  return result

/-! ## Timestamps -/

/-- What the adapter asks for the time. -/
def clock (e : Engine) : Clock := e.host.clockOf e.timer

/-- The engine with another clock. -/
def timed (e : Engine) (clock : Option ClockId) : Engine := { e with timer := clock }

/-- Reads the clock; a field whose name ends in `_on` takes the day alone. -/
def stamp (e : Engine) (field : Value) : Run Value := do
  let l ← get
  match e.clock.reading? e.machine.config.utc.truthy l.reads with
  | .none => Run.fail .positionMissing
  | .some reading => do
    set { l with reads := l.reads + 1 }
    return if "_on".toList.isSuffixOf field.text.toList then .day reading else .moment reading

/-- Stamps a field that is there and null. -/
def stampAbsent (e : Engine) (field : Value) : Run Unit := do
  e.watch (.stampAbsent field)
  if ← e.host.hasAttr field then
    let held ← e.host.require field
    if held.isNull then
      let v ← e.stamp field
      e.host.setAttr field v
    else pure ()
  else pure ()

/-- Stamps a field that is there. -/
def stampAlways (e : Engine) (field : Value) : Run Unit := do
  e.watch (.stampAlways field)
  if ← e.host.hasAttr field then
    let v ← e.stamp field
    e.host.setAttr field v
  else pure ()

/-- Stamps the fields of the state that is being left, if the machine keeps them. -/
def stampExit (e : Engine) (state : String) : Run Unit :=
  if e.machine.config.timestamps.truthy then do
    e.stampAbsent (.str (state ++ "_created_at"))
    e.stampAbsent (.str (state ++ "_created_on"))
    e.stampAlways (.str (state ++ "_updated_at"))
    e.stampAlways (.str (state ++ "_updated_on"))
  else pure ()

/-! ## Transitions -/

/-- The record is valid, and the guard passes if there is one. -/
def allows (e : Engine) (event : Value) (t : Transition) : Run Bool := do
  if ← e.isValid event then
    match t.guard with
    | .none => return true
    | .some guard => do
      let v ← e.runAction event guard
      e.host.truth v
  else return false

/-- Moves the record along a transition that is allowed. The exit action runs last and sees the new
state; a loop stamps and commits, but runs no action. -/
def perform (e : Engine) (event : Value) (t : Transition) : Run Bool := do
  if ← e.allows event t then
    let current ← e.currentState
    let next ← Run.lift (e.machine.stateAt t.target)
    let old ← Run.lift (e.machine.stateAt current)
    e.stampExit old.name
    if current.same t.target then
      e.commit t.target
    else
      e.entering event next
      e.commit t.target
      e.entered event next
      e.exited event old
    return true
  else return false

/-- Performs the first transition that is allowed. -/
def performFirst (e : Engine) (event : Value) : List Transition → Run Bool
  | [] => return false
  | t :: ts => do
    if ← e.perform event t then return true else e.performFirst event ts

/-! ## Events -/

/-- The event whose name is the text of a value by now. -/
def eventNamed (e : Engine) (name : Value) : Run Event := do
  let name ← e.host.asText name
  Run.lift (e.machine.eventNamed name)

/-- The transitions of an event that leave the record's state, in order. -/
def nextTransitions (e : Engine) (event : Event) : Run (List Transition) := do
  return event.leaving (← e.currentState)

def fireEvent (e : Engine) (event : Event) : Run Bool := do
  let candidates ← e.nextTransitions event
  e.performFirst (.str event.name) candidates

/-- Puts what stopped an observer on the error output. What it says has to be asked for first, and
that may stop in turn. -/
def report (e : Engine) (stop : Stop) : Run Unit := do
  let text ← e.host.message stop
  Run.note (.report ("record-fsm: on_transition callback error: " ++ text))

/-- What stops an observer in an ordinary way is reported, and ends there if that can be done. -/
def notifyOne (e : Engine) (args : List Value) (observer : Callback) : Run Unit :=
  e.host.passing <| tryCatch (do let _ ← observer.call e.host args) fun stop =>
    if stop.isOrdinary then e.report stop else throw stop

def notify (e : Engine) (args : List Value) : List Callback → Run Unit
  | [] => pure ()
  | observer :: rest => do
    e.notifyOne args observer
    e.notify args rest

/-- Fires an event by name. A record that does not move is rolled back; of one that does, the
observers learn the state before and after. -/
def fire (e : Engine) (name : Value) : Run Bool := do
  let event ← e.eventNamed name
  let old ← e.currentState
  if ← e.fireEvent event then
    let new ← e.currentState
    e.notify [.str event.name, old, new] e.machine.observers
    return true
  else
    e.rollback
    return false

/-- Gives a record without a state the initial one; answers whether it did. -/
def start (e : Engine) : Run Bool := do
  match ← e.declaredState with
  | .null => do
    let initial ← Run.lift (e.machine.stateAt (.str e.machine.config.initial))
    e.commit (.str initial.name)
    e.entering .null initial
    e.entered .null initial
    return true
  | _ => return false

/-! ## Queries by name -/

def nextTransitionsFor (e : Engine) (name : Value) : Run (List Transition) := do
  let event ← e.eventNamed name
  e.nextTransitions event

/-- The target of the first transition that leaves the record's state, guards aside. -/
def nextTargetFor (e : Engine) (name : Value) : Run Value := do
  match ← e.nextTransitionsFor name with
  | [] => return .null
  | t :: _ => return t.target

end Engine

namespace Definition

/-- Those of some things whose state is one of those `wanted`, or those whose state is none of them;
each is given with its state. -/
def select {α : Type} (wanted : List Value) (among : Bool) (held : List (α × Value)) : List α :=
  (held.filter fun (_, state) => wanted.any (state.same ·) == among).map (·.1)

end Definition

end Lifecycle
