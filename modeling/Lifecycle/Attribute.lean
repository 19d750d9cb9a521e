/-
Attributes of values that are neither records nor classes: the parts of
numbers, of times and of transitions, what a machine is made of, and what
functions say about themselves.

`Value.attr?` knows those attributes whose text is fixed. All others count as
missing, which makes no difference where only their text is asked for.
-/
import Lifecycle.Class
import Lifecycle.Summary

namespace Lifecycle

/-- A text that is known only where it is fixed. -/
def Value.fixedText? (isFixed : Bool) (text : String) : Option Value :=
  if isFixed then .some (.str text) else .none

/-! ## Numbers and times -/

/-- The parts of a whole number, which is a fraction over one and has no imaginary part. -/
def integerAttr? (n : Int) : String → Option Value
  | "real" | "numerator" => .some (.int n)
  | "denominator" => .some (.int 1)
  | "imag" => .some (.int 0)
  | _ => .none

namespace Moment

/-- The first moment that can be written. -/
def earliest : Moment where
  year := 1
  month := 1
  day := 1

/-- The last moment that can be written. -/
def latest : Moment where
  year := 9999
  month := 12
  day := 31
  hour := 23
  minute := 59
  second := 59
  micros := 999999

/-- How far moments lie within one another, and how fine they are. -/
def rangeAttr? : String → Option Value
  | "min" => .some (.str earliest.text)
  | "max" => .some (.str latest.text)
  | "resolution" => .some (.str "0:00:00.000001")
  | _ => .none

/-- How far days lie within one another, and how fine they are. -/
def dayRangeAttr? : String → Option Value
  | "min" => .some (.str earliest.dayText)
  | "max" => .some (.str latest.dayText)
  | "resolution" => .some (.str "1 day, 0:00:00")
  | _ => .none

def dayAttr? (m : Moment) : String → Option Value
  | "year" => .some (.int m.year)
  | "month" => .some (.int m.month)
  | "day" => .some (.int m.day)
  | _ => .none

/-- The name of a zone. -/
def zoneText (span : Int) : String := if span = 0 then "UTC" else "UTC" ++ offsetText span

def attr? (m : Moment) : String → Option Value
  | "hour" => .some (.int m.hour)
  | "minute" => .some (.int m.minute)
  | "second" => .some (.int m.second)
  | "microsecond" => .some (.int m.micros)
  | "tzinfo" => m.offset.map fun span => .str (zoneText span)
  | name => m.dayAttr? name

end Moment

namespace Reading

def attr? (r : Reading) (name : String) : Option Value :=
  if name = "fold" then .some (.int 0)
  else r.moment.attr? name <|> Moment.rangeAttr? name

def dayAttr? (r : Reading) (name : String) : Option Value :=
  r.moment.dayAttr? name <|> Moment.dayRangeAttr? name

end Reading

/-! ## Machines -/

/-- A configuration spelled out. -/
def MachineConfig.text (c : MachineConfig) : String :=
  Text.enclose "MachineConfig(" ")"
    ["initial=" ++ Text.quote c.initial, "column=" ++ c.column.quoted,
      "record_state_timestamps=" ++ c.timestamps.quoted, "utc=" ++ c.utc.quoted]

namespace State

/-- What a state runs, as values. -/
def actions (s : State) : List Value :=
  Callback.optionValue s.enter :: Callback.optionValue s.exit :: s.after.map Callback.toValue

/-- A state spelled out. -/
def quoted (s : State) : String :=
  Text.enclose "State(" ")"
    ["name=" ++ Text.quote s.name, "enter=" ++ (Callback.optionValue s.enter).quoted,
      "after=" ++ Text.encloseFixed (s.after.map (·.toValue.quoted)),
      "exit=" ++ (Callback.optionValue s.exit).quoted]

end State

namespace Event

/-- The transitions of an event spelled out. -/
def transitionsText (e : Event) : String :=
  Text.encloseFixed (e.transitions.map (·.toValue.quoted))

/-- An event spelled out. -/
def quoted (e : Event) : String :=
  Text.enclose "Event(" ")"
    ["name=" ++ Text.quote e.name, "transitions=" ++ e.transitionsText,
      Text.enclose "options=mappingproxy(" ")" [(Value.obj e.options.entries).quoted]]

def hasFixedTransitions (e : Event) : Bool := e.transitions.all (·.toValue.isFixed)

def isFixed (e : Event) : Bool := e.hasFixedTransitions && (Value.obj e.options.entries).isFixed

end Event

namespace Definition

/-- Entries under their names, between braces. -/
def named (entries : List (String × String)) : String :=
  Text.enclose "\x7b" "\x7d" (entries.map fun (name, text) => Text.quote name ++ ": " ++ text)

def statesText? (d : Definition) : Option Value :=
  Value.fixedText? (d.states.all (·.actions.all (·.isFixed)))
    (named (d.states.map fun s => (s.name, s.quoted)))

def eventsText? (d : Definition) : Option Value :=
  Value.fixedText? (d.events.all (·.isFixed)) (named (d.events.map fun e => (e.name, e.quoted)))

def tableText? (d : Definition) : Option Value :=
  Value.fixedText? (d.events.all (·.hasFixedTransitions))
    (named (d.events.map fun e => (e.name, e.transitionsText)))

def observersText? (d : Definition) : Option Value :=
  let observers := d.observers.map Callback.toValue
  Value.fixedText? (observers.all (·.isFixed)) (Text.encloseFixed (observers.map Value.quoted))

/-- What a machine shows of its definition. -/
def attr? (d : Definition) : String → Option Value
  | "initial_state" => .some (.str d.config.initial)
  | "column" => .some d.config.column
  | "record_state_timestamps" => .some d.config.timestamps
  | "utc" => .some d.config.utc
  | "config" | "_config" => .some (.str d.config.text)
  | "states" | "_states" => d.statesText?
  | "events" | "_events" => d.eventsText?
  | "transition_table" => d.tableText?
  | "_observers" => d.observersText?
  | "__module__" => .some (.str "record_fsm.machine")
  | "__doc__" => .some (.str "A built state machine. Read-only; safe to share between threads.")
  | "__class__" => .some (.verbatim (Value.classText "record_fsm.machine.Machine"))
  | _ => .none

end Definition

/-- What a transition shows. -/
def transitionAttr? (source target guard : Value) : String → Option Value
  | "source" => .some source
  | "target" => .some target
  | "guard" => .some guard
  | "loopback" => .some (.bool (source.same target))
  | "__dict__" => .some (.obj [("source", source), ("target", target), ("guard", guard)])
  | "__module__" => .some (.str "record_fsm.transitions")
  | "__doc__" => .some (.str ("One directed edge ``source -> target``, optionally guarded.\n\n"
      ++ "    Identity is ``(source, target)``; the guard is not part of it.\n    "))
  | "__class__" => .some (.verbatim (Value.classText "record_fsm.transitions.Transition"))
  | "__match_args__" => .some (.tuple [.str "source", .str "target", .str "guard"])
  | "__annotations__" => .some (.obj
      [("source", .str "StateId"), ("target", .str "StateId"), ("guard", .str "Guard | None")])
  | "__dataclass_params__" => .some (.str ("_DataclassParams(init=True,repr=True,eq=False,"
      ++ "order=False,unsafe_hash=False,frozen=True)"))
  | _ => .none

/-! ## Functions -/

namespace Generated

/-- Where it is written. -/
def place (g : Generated) : String :=
  match g with
  | isState _ => "_predicate.<locals>.predicate"
  | fire _ => "_firing_method.<locals>.fire"
  | g => "acts_as_state_machine.<locals>.decorate.<locals>." ++ g.name

/-- Its parameters and its answer, each with what it is meant to be. -/
def signature : Generated → List (String × String)
  | currentState => []
  | isState _ | fire _ => [("self", "Any"), ("return", "bool")]
  | nextTransitions =>
    [("self", "Any"), ("event", "EventId"), ("return", "list[Transition]")]
  | nextTarget => [("self", "Any"), ("event", "EventId"), ("return", "StateId | None")]
  | errors => [("self", "Any"), ("event", "EventId | None"), ("return", "list[str]")]
  | valid => [("self", "Any"), ("event", "EventId | None"), ("return", "bool")]
  | inState | notInState =>
    [("klass", "type"), ("records", "Iterable[Any]"), ("names", "StateId"),
      ("return", "list[Any]")]

/-- What is put for the event where it is left out. -/
def hasDefault : Generated → Bool
  | errors | valid => true
  | _ => false

/-- How many arguments it takes at least and at most, with the record. -/
def arity : Generated → Nat × Nat
  | currentState | isState _ | fire _ => (1, 1)
  | nextTransitions | nextTarget => (2, 2)
  | errors | valid => (1, 2)
  | inState | notInState => (2, 2)

/-- What a call with `given` arguments beside the record does wrong, if it does. -/
def misuse (g : Generated) (given : Nat) : Misuse :=
  let (least, most) := g.arity
  if given + 1 < least then
    .tooFew g.place (match g with | inState | notInState => "records" | _ => "event")
  else .tooMany g.place least most (given + 1)

def attr? (g : Generated) : String → Option Value
  | "__name__" => .some (.str g.name)
  | "__qualname__" => .some (.str g.place)
  | "__module__" => .some (.str "record_fsm.record")
  | "__doc__" => g.summary?.map .str
  | "__defaults__" => if g.hasDefault then .some (.tuple [.null]) else .none
  | "__annotations__" => .some (.obj (g.signature.map fun (name, kind) => (name, .str kind)))
  | "__dict__" => .some (.obj [])
  | _ => .none

end Generated

namespace Innate

/-- Where an innate method of records is written. -/
def place (called : String) : String :=
  (if called = makerName ∨ Value.isWrapped called then "object"
    else Value.recordKind) ++ "." ++ called

/-- What an innate method of records says about itself. -/
def attr? (called : String) : String → Option Value
  | "__name__" => .some (.str called)
  | "__qualname__" => .some (.str (place called))
  | "__doc__" => (summary? called).map .str
  | "__text_signature__" => (signature? called).map .str
  | "__objclass__" => if Value.isWrapped called then .some (.cls Class.root.owner) else .none
  | _ => .none

end Innate

namespace Params

/-- What the function of a script says about itself. -/
def attr? (p : Params) : String → Option Value
  | "__name__" => .some (.str "<lambda>")
  | "__qualname__" => .some (.str place)
  | "__module__" => .some (.str "__main__")
  | "__defaults__" => if p = .optional then .some (.tuple [.null]) else .none
  | "__annotations__" | "__dict__" => .some (.obj [])
  | _ => .none

end Params

namespace Member

/-- What the function of a member says about itself. A constructor passes for the one that it wraps,
but for what that one does not say. -/
def functionAttr? (called name : String) : Member → Option Value
  | generated what _ _ => what.attr? name
  | method params _ => params.attr? name
  | keywords _ _ | around _ _ =>
    match name with
    | "__name__" => .some (.str constructorName)
    | "__module__" => .some (.str "__main__")
    | "__annotations__" | "__dict__" => .some (.obj [])
    | _ => .none
  | governed inner source _ =>
    let wrapped := Value.routine source constructorName (inner.layers source)
    match name with
    | "__wrapped__" => .some wrapped
    | "__dict__" => .some (.obj [("__wrapped__", wrapped)])
    | "__defaults__" => .none
    | name =>
      match inner with
      | innate _ =>
        match name with
        | "__name__" => .some (.str constructorName)
        | "__qualname__" => .some (.str (Innate.place constructorName))
        | "__module__" => .some (.str "record_fsm.record")
        | "__doc__" => (Innate.summary? constructorName).map .str
        | "__annotations__" => .some (.obj
            [("self", .str "Any"), ("args", .str "Any"), ("kwargs", .str "Any"),
              ("return", .str "None")])
        | _ => .none
      | inner => inner.functionAttr? called name
  | innate (.list _) => .none
  | innate _ => Innate.attr? called name
  | _ => .none

end Member

/-! ## Values -/

namespace Value

/-- What a function is shown as that no script wrote: one that every record has is the same for
all. -/
def innateText? (owner : ClassId) (called : String) : Option String :=
  if !isFirstClass owner || called = makerName then .none
  else
    let sort := if isWrapped called then "slot wrapper" else "method"
    .some ("<" ++ sort ++ " '" ++ called ++ "' of '" ++ className owner ++ "' objects>")

/-- An attribute of a value that is neither a record nor a class, given the machines and the
functions that there are. -/
def attr? (machine? : MachineId → Option Definition)
    (function? : ClassId → String → Nat → Option Member) (v : Value) (name : String) :
    Option Value :=
  let common? :=
    if name = classAttribute then .some (.verbatim (classText v.kind))
    else if name = "__doc__" then v.summary?.map .str
    else .none
  match v with
  | .bool b => integerAttr? (if b then 1 else 0) name <|> common?
  | .int n => integerAttr? n name <|> common?
  | .decimal m p =>
    match name with
    | "real" => .some (.decimal m p)
    | "imag" => .some (.decimal 0 1)
    | _ => common?
  | .moment r => r.attr? name <|> common?
  | .day r => r.dayAttr? name <|> common?
  | .transition source target guard => transitionAttr? source target guard name
  | .machine id => (machine? id).bind (·.attr? name)
  | .routine owner called layers =>
    if isFirstClass owner && called = makerName && name = "__self__" then .some (.cls owner)
    else common? <|> (function? owner called layers).bind (·.functionAttr? called name)
  | .method of owner called layers =>
    match name with
    | "__self__" => .some of
    | "__func__" =>
      if isFirstClass owner then .none else .some (.routine owner called layers)
    | name => common? <|> (function? owner called layers).bind (·.functionAttr? called name)
  | .record _ | .cls _ | .function | .sealed _ => .none
  | _ => common?

end Value

end Lifecycle
