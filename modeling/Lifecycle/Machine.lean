/-
Machines: configuration, states, transitions, events, and the finished
definition that puts them together.

A definition is found through `state?`, `event?` and, for keys that need not be
text, `stateAt` and `eventNamed`, which say why nothing was found.
-/
import Lifecycle.Validation

namespace Lifecycle

structure MachineConfig where
  /-- The state of records that have none. -/
  initial : String
  /-- The attribute that holds the state. -/
  column : Value := .str "state"
  /-- Whether leaving a state is stamped on the record. -/
  timestamps : Value := .bool true
  /-- Whether stamps are in universal time. -/
  utc : Value := .bool true
  deriving Repr, Inhabited

namespace MachineConfig

def optionNames : List String := ["initial", "column", "record_state_timestamps", "utc"]

/-- An unknown option is refused first, then a missing initial state, then an empty column, and last
an initial state that has no text. -/
def ofOptions (options : Table Value) : Except Fault MachineConfig :=
  match options.keys.find? (· ∉ optionNames) with
  | .some name => .error (.misuse (.unknownOption name))
  | .none =>
    let initial := (options.get? "initial").getD .null
    let column := (options.get? "column").getD (.str "state")
    if !initial.truthy then .error .initialMissing
    else if !column.truthy then .error .columnEmpty
    else do
      let initial ← initial.wording
      return {
        initial
        column
        timestamps := (options.get? "record_state_timestamps").getD (.bool true)
        utc := (options.get? "utc").getD (.bool true) }

end MachineConfig

/-- A state with what runs before it becomes current, once it is, and when it is left. -/
structure State where
  name : String
  enter : Option Callback := .none
  after : List Callback := []
  exit : Option Callback := .none
  deriving Repr, Inhabited

structure Transition where
  source : Value
  target : Value
  guard : Option Callback := .none
  deriving Repr, Inhabited

namespace Transition

/-- Transitions are the same if their ends are; guards do not count. -/
def same (a b : Transition) : Bool := a.source.same b.source && a.target.same b.target

def isLoop (t : Transition) : Bool := t.source.same t.target

def toValue (t : Transition) : Value := .transition t.source t.target (Callback.optionValue t.guard)

/-- How many members the set of two transitions has. -/
def distinct (a b : Transition) : Except Fault Nat :=
  match a.toValue.unhashable? <|> b.toValue.unhashable? with
  | .some v => .error (.misuse (.unhashable v))
  | .none => .ok (if a.same b then 1 else 2)

end Transition

/-- A named list of transitions, of which the first that is allowed is taken. -/
structure Event where
  name : String
  transitions : List Transition := []
  options : Table Value := ∅
  deriving Repr, Inhabited

/-- The transitions that leave a state, in order. -/
def Event.leaving (e : Event) (current : Value) : List Transition :=
  e.transitions.filter (·.source.same current)

structure Definition where
  config : MachineConfig
  states : List State := []
  events : List Event := []
  observers : List Callback := []
  deriving Repr, Inhabited

namespace Definition

def state? (d : Definition) (name : String) : Option State := d.states.find? (·.name == name)

def event? (d : Definition) (name : String) : Option Event := d.events.find? (·.name == name)

def declares (d : Definition) (name : String) : Bool := (d.state? name).isSome

/-- The state under a key as it is given, without reading it as text. -/
def stateAt (d : Definition) (key : Value) : Except Fault State :=
  match key.unhashable? with
  | .some v => .error (.misuse (.unhashable v))
  | .none =>
    match key with
    | .str name => match d.state? name with | .some s => .ok s | .none => .error (.unknownKey key)
    | _ => .error (.unknownKey key)

/-- The event whose name is the text of a value. -/
def eventNamed (d : Definition) (name : Value) : Except Fault Event := do
  name.checkText
  match name.asText with
  | .str s => match d.event? s with | .some e => .ok e | .none => .error (.unknownKey (.str s))
  | v => .error (.unknownKey v)

/-- Whether a text is the name of a declared state. -/
def knows (d : Definition) : Value → Bool
  | .str s => d.declares s
  | _ => false

/-- The texts of some names, if the definition declares them all. -/
def checkStates (d : Definition) (names : List Value) : Except Fault (List Value) := do
  (Value.list names).checkText
  match (names.map Value.asText).filter (!d.knows ·) with
  | [] => .ok (names.map Value.asText)
  | unknown => .error (.unknownStates unknown)

/-- The current state of a record: null or declared. -/
def checkCurrent (d : Definition) (current : Value) : Except Fault Value :=
  if current.isNull || d.knows current then .ok current else .error (.unknownStates [current])

end Definition

/-- A finished definition together with its validation rules. -/
structure Machine extends Definition where
  registry : Registry
  deriving Repr, Inhabited

end Lifecycle
