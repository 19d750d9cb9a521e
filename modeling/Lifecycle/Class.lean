/-
Classes: tables of members, in a line of inheritance, and what it means that
a machine governs a class.

A member that is read is bound to what it is read from (`Member.seen`): a
function to a record, but not to a class, and one that is meant for classes to
the class.

`Class.govern` gives a class the members by which its records reach a machine,
through adapters of a clock that is given along with it.
A name that the class itself has is left alone, an inherited one is covered.
The constructor is the exception: it is always wrapped, so that a new record
ends up in a state. A method that was read before stays what it was; that is
why a method is known by its name and by how often it was wrapped by then
(`Member.layers`, `Lineage.function?`). Every line of inheritance ends in
`Class.root`.

Some members are hooks: they are asked whenever an attribute is used
(`Hook.name`). A class of which none is defined uses the innate ones.
-/
import Lifecycle.Machine
import Lifecycle.Innate
import Lifecycle.Text.Identifier

namespace Lifecycle

/-- What a member that a machine gave to a class does. -/
inductive Generated where
  /-- The record's state, read like an attribute. -/
  | currentState
  | isState (state : String)
  | fire (event : String)
  | nextTransitions
  | nextTarget
  | errors
  | valid
  | inState
  | notInState
  deriving Repr, DecidableEq, Inhabited

/-- The name of what is called. -/
def Generated.name : Generated → String
  | currentState => "current_state"
  | isState state => "is_" ++ state
  | fire event => event
  | nextTransitions => "next_states_for_event"
  | nextTarget => "next_state_for_event"
  | errors => "validation_errors"
  | valid => "is_valid"
  | inState => "in_state"
  | notInState => "not_in_state"

/-- What it says about itself. -/
def Generated.summary? : Generated → Option String
  | isState state => .some ("True if the record is in state " ++ Text.quote state ++ ".")
  | fire event =>
    .some ("Fire " ++ Text.quote event ++ ". Returns True if a transition was performed.")
  | _ => .none

/-- An attribute that every record has and that does not stand among its own. -/
inductive View where
  /-- All attributes that the record has of its own. -/
  | attributes
  | cls
  /-- What holds the record without keeping it: nothing. -/
  | references
  deriving Repr, DecidableEq, Inhabited

inductive Member where
  | value (v : Value)
  | method (params : Params) (body : Script)
  /-- What asks a machine; its adapters have the clock that the class was given with the machine. -/
  | generated (what : Generated) (machine : MachineId) (clock : Option ClockId)
  | innate (what : Innate)
  | view (what : View)
  /-- A place that every record has for one attribute, apart from all others. -/
  | slot
  /-- A constructor that sets attributes: after calling the base with its keywords, or by itself,
  where the keywords win. -/
  | keywords (callsBase : Bool) (sets : Table Value)
  /-- A constructor that takes anything: it runs a script, calls the base with what it was given, and
  runs another script. -/
  | around (before after : Script)
  /-- A constructor that first runs another one, found on the class `owner`; what it does after that
  takes no time. -/
  | governed (inner : Member) (owner : ClassId) (machine : MachineId)
  deriving Inhabited

/-- What a class defines itself. -/
structure ClassBody where
  members : Table Member := ∅
  /-- Whether it makes room on its records for attributes of any name. -/
  isRoomy : Bool := true
  /-- Whether it lets its records be referred to without being kept. -/
  isReferable : Bool := true
  /-- The name by which it is shown. -/
  writtenName : String := Value.recordKind
  /-- Whether it was said not to have all its members, so that it has no records. -/
  isUnfinished : Bool := false
  deriving Inhabited

structure Class extends ClassBody where
  /-- The classes above this one, nearest first. -/
  bases : List ClassId := [0]
  deriving Inhabited

/-- One class of a line of inheritance. -/
structure Layer extends ClassBody where
  owner : ClassId

/-- A class and its bases, nearest first. -/
abbrev Lineage := List Layer

/-- The attribute of a class that names the machine governing it. -/
def machineAttribute : String := "_record_fsm_machine"

/-- The name under which a class keeps its constructor. -/
def constructorName : String := "__init__"

/-- The name under which a class keeps what its subclasses begin with. -/
def subclassName : String := "__init_subclass__"

/-- The name under which a class keeps what it is asked for by an index. -/
def indexedName : String := "__class_getitem__"

/-- The name under which a class keeps what decides on what is below it. -/
def belowName : String := "__subclasshook__"

/-- The attribute by which a class says that some of its members are not defined yet. -/
def unfinishedAttribute : String := "__abstractmethods__"

/-- The names to which a class may confine the attributes of its records. -/
def slotsName : String := "__slots__"

/-- The attribute that shows the class of a record. -/
def classAttribute : String := "__class__"

/-- The attribute that shows all attributes of a record. -/
def attributesAttribute : String := "__dict__"

/-- The attribute that shows what refers to a record. -/
def referencesAttribute : String := "__weakref__"

/-- The uses of an attribute that a class can take over. -/
inductive Hook where
  | read
  /-- A read that found nothing. -/
  | missing
  | write
  | erase
  deriving Repr, DecidableEq, Inhabited

/-- The name of the member that takes over. -/
def Hook.name : Hook → String
  | read => "__getattribute__"
  | missing => "__getattr__"
  | write => "__setattr__"
  | erase => "__delattr__"

namespace Member

def isInnate : Member → Bool
  | innate _ => true
  | _ => false

/-- How often a constructor of the class `owner` was wrapped. -/
def layers (owner : ClassId) : Member → Nat
  | governed inner source _ => if source == owner then inner.layers owner + 1 else 1
  | _ => 0

/-- A constructor of the class `owner` as it was when it had been wrapped `n` times. -/
def within (owner : ClassId) (n : Nat) : Member → Member
  | governed inner source id =>
    if n < (governed inner source id).layers owner then inner.within owner n
    else governed inner source id
  | m => m

@[simp] theorem within_layers (owner : ClassId) (m : Member) :
    m.within owner (m.layers owner) = m := by
  cases m <;> simp [within]

/-- Whether a member is a function that is meant for classes. -/
def isForClasses (name : String) : Member → Bool
  | generated .inState _ _ | generated .notInState _ _ => true
  | method _ _ => name = subclassName || name = indexedName
  | innate _ => name = subclassName || name = indexedName || name = belowName
  | _ => false

/-- Whether a member is a function that is never bound. -/
def isFree (name : String) : Member → Bool
  | method _ _ | innate _ => name = makerName
  | _ => false

end Member

/-- A function bound to a value, unless that is a class. -/
def Value.boundTo (v of : Value) : Value :=
  match v, of with
  | v, .cls _ => v
  | .routine owner name layers, of =>
    if isFirstClass owner && name = makerName then .routine owner name layers
    else .method of owner name layers
  | v, _ => v

namespace Member

/-- The value of a member that is read from a value of the class `cls`, or from that class. -/
def seen (of : Value) (cls owner : ClassId) (name : String) : Member → Value
  | value v => v.boundTo of
  | slot => .sealed "member_descriptor"
  | view _ => .sealed "getset_descriptor"
  | generated .currentState _ _ => .sealed "property"
  | m =>
    if m.isForClasses name then .method (.cls cls) owner name 0
    else if m.isFree name then .routine owner name 0
    else (Value.routine owner name (m.layers owner)).boundTo of

/-- Whether a member declares a parameter for the event that is being fired. Where that cannot be
seen, it counts as declared. -/
def takesEvent : Member → Bool
  | method params _ => params.takesEvent
  | generated (.isState _) _ _ => false
  | generated (.fire _) _ _ => false
  | governed inner _ _ => inner.takesEvent
  | innate .ownAttrs | innate .shown | innate .parts | innate .size | innate .names => false
  | innate (.unseen arity _) => arity ≠ 0
  | _ => true

end Member

namespace Lineage

/-- The nearest member of a name, with the class that defines it. -/
def member? (l : Lineage) (name : String) : Option (ClassId × Member) :=
  l.findSome? fun layer => (layer.members.get? name).map (layer.owner, ·)

/-- The member that a given class of the line defines. -/
def memberOf? (l : Lineage) (owner : ClassId) (name : String) : Option Member :=
  (l.find? (·.owner == owner)).bind (·.members.get? name)

/-- The function behind a method that was read when it had been wrapped `layers` times. -/
def function? (l : Lineage) (owner : ClassId) (name : String) (layers : Nat) : Option Member :=
  (l.memberOf? owner name).map (·.within owner layers)

/-- The machine that governs the classes of a line. -/
def machine? (l : Lineage) : Option MachineId :=
  match l.member? machineAttribute with
  | .some (_, .value (.machine id)) => .some id
  | _ => .none

/-- Whether the records of a line have room for attributes of any name. -/
def isRoomy (l : Lineage) : Bool := l.any (·.isRoomy)

/-- Whether the records of a line can be referred to without being kept. -/
def isReferable (l : Lineage) : Bool := l.any (·.isReferable)

/-- The names of the places that the classes of a line make for single attributes. -/
def slotNames (l : Lineage) : List String :=
  l.flatMap fun layer => layer.members.entries.filterMap fun (name, m) =>
    match m with
    | .slot => .some name
    | _ => .none

/-- How much room a record takes: what every record takes, its places, and what lets it be referred
to. -/
def size (l : Lineage) : Nat := 16 + 8 * l.slotNames.length + if l.isReferable then 8 else 0

/-- Where a record has its attributes, counted from its end as it was when they were given room. -/
def attributesPlace (l : Lineage) : Int :=
  let giver := l.dropWhile (!·.isRoomy)
  if giver.isEmpty then 0 else -24 - (size giver : Int)

/-- Where a record has what lets it be referred to. -/
def referencesPlace (l : Lineage) : Int :=
  let giver := l.dropWhile (!·.isReferable)
  if giver.isEmpty then 0 else (size giver : Int) - 8

/-- The nearest member of a name, unless it is the innate one. -/
def defined? (l : Lineage) (name : String) : Option (ClassId × Member) :=
  match l.member? name with
  | .some (_, .innate _) => .none
  | found => found

/-- A member of a name that is neither innate nor null. -/
def telling? (l : Lineage) (name : String) : Option Member :=
  match l.defined? name with
  | .some (_, .value .null) | .none => .none
  | .some (_, m) => .some m

/-- Whether making a record declares a parameter for an event. The nearest class decides that has
either way to make one, and making a record before its constructor. What has been erased cannot be
looked into. -/
def makingTakesEvent (l : Lineage) : Bool :=
  let decisive? := l.findSome? fun layer =>
    let own (name : String) := if layer.members.contains name then l.telling? name else .none
    own makerName <|> own constructorName
  match decisive? with
  | .some m => m.takesEvent
  | .none =>
    [makerName, constructorName].any fun name => (l.defined? name).isSome
      || (l.head?.map fun layer => isFirstClass layer.owner && layer.owner ≠ 0).getD false

/-- What the nearest class of a line names as not defined yet, if a machine or the class itself said
that not all its members are. -/
def unfinished? (l : Lineage) : Option Value :=
  match l with
  | [] => .none
  | layer :: _ =>
    match layer.members.get? unfinishedAttribute with
    | .none => .none
    | .some m =>
      let isSaid := match m with
        | .generated _ _ _ => true
        | _ => layer.isUnfinished
      if isSaid then .some (m.seen (.cls layer.owner) layer.owner layer.owner unfinishedAttribute)
      else .none

/-- Whether a class adds nothing to the layout of the records of those above it. -/
def addsNothing (layer : Layer) : Bool :=
  !layer.isRoomy && !layer.isReferable && (slotNames [layer]).isEmpty

/-- Whether the records of two lines have the same layout, so that a record can change its class. -/
def sameLayout (a b : Lineage) : Bool :=
  match a.dropWhile addsNothing, b.dropWhile addsNothing with
  | x :: xs, y :: ys =>
    x.owner == y.owner
      || ((xs.head?.map (·.owner)) == (ys.head?.map (·.owner)) && x.isRoomy == y.isRoomy
        && x.isReferable == y.isReferable && slotNames [x] == slotNames [y])
  | [], [] => true
  | _, _ => false

/-- Whether a class is the nearest one of a line or above it. -/
def has (l : Lineage) (cls : ClassId) : Bool := l.any (·.owner == cls)

/-- The line of a class among others. -/
def ofClass (classes : List Class) (id : ClassId) : Lineage :=
  match classes[id]? with
  | .none => []
  | .some c => (id :: c.bases).filterMap fun owner =>
      classes[owner]?.map fun c => { toClassBody := c.toClassBody, owner }

end Lineage

namespace Class

/-- What the class above all others says about itself. -/
def rootSummary : String :=
  "The base class of the class hierarchy.\n\n"
    ++ "When called, it accepts no arguments and returns a new featureless\n"
    ++ "instance that has no instance attributes and cannot be given any.\n"

/-- The class above all others. -/
def root : Layer where
  owner := 0
  members := ⟨
    [(makerName, .innate .make), ("__repr__", .innate .shown),
      ("__hash__", .innate (.unseen 0 "int")), ("__str__", .innate .shown),
      (Hook.name .read, .innate .readAttr), (Hook.name .write, .innate .writeAttr),
      (Hook.name .erase, .innate .eraseAttr)]
      ++ [Relation.less, .atMost, .equal, .different, .more, .atLeast].map
        (fun r => (r.method, .innate (.compare r)))
      ++ [(constructorName, .innate .construct), ("__reduce_ex__", .innate .partsBy),
        ("__reduce__", .innate .parts), ("__getstate__", .innate .ownAttrs),
        (belowName, .innate .undecided), (subclassName, .innate .idle),
        ("__format__", .innate .format), ("__sizeof__", .innate .size),
        ("__dir__", .innate .names), (classAttribute, .view .cls),
        ("__doc__", .value (.str rootSummary))]⟩
  isRoomy := false
  isReferable := false
  writtenName := "object"

/-- What a list says about itself. -/
def listSummary : String :=
  "Built-in mutable sequence.\n\n"
    ++ "If no argument is given, the constructor creates a new empty list.\n"
    ++ "The argument must be an iterable if specified."

/-- The class of lists. -/
def lists : Layer where
  owner := 1
  members := ⟨
    [(makerName, .innate .make), ("__repr__", .innate (.list .shown)), ("__hash__", .value .null),
      (Hook.name .read, .innate .readAttr)]
      ++ [Relation.less, .atMost, .equal, .different, .more, .atLeast].map
        (fun r => (r.method, .innate (.list (.compare r))))
      ++ [("__iter__", ListMethod.through false), (constructorName, .refill),
        ("__len__", .length), ("__getitem__", .item), ("__setitem__", .replace),
        ("__delitem__", .erase), ("__add__", .plus), ("__mul__", .times), ("__rmul__", .times),
        ("__contains__", .contains), ("__iadd__", .grow), ("__imul__", .repeated),
        ("__reversed__", .through true), ("__sizeof__", .size), ("clear", .clear),
        ("copy", .copy), ("append", .append), ("insert", .insert), ("extend", .extend),
        ("pop", .pop), ("remove", .remove), ("index", .index), ("count", .count),
        ("reverse", .reverse), ("sort", .sort)].map (fun (name, m) => (name, .innate (.list m)))
      ++ [(indexedName, .innate (.unseen 1 Value.indexedKind)),
        ("__doc__", .value (.str listSummary)), ("__format__", .innate (.list .format)),
        ("__str__", .innate (.list .shown))]⟩
  isRoomy := false
  isReferable := false
  writtenName := "list"

/-- The class of classes. -/
def classes : Layer where
  owner := 2
  members := ⟨[("__call__", .innate .callClass), ("mro", .innate .line),
    ("__subclasses__", .innate .below), ("__or__", .innate (.unseen 1 "types.UnionType")),
    ("__ror__", .innate (.unseen 1 "types.UnionType")), ("__prepare__", .innate .body),
    ("__instancecheck__", .innate .covers), ("__subclasscheck__", .innate .isAbove)]⟩
  isRoomy := false
  isReferable := false
  writtenName := "type"

/-- The classes that are there before all others. -/
def first : List Class :=
  [{ toClassBody := root.toClassBody, bases := [] }, { toClassBody := lists.toClassBody },
    { toClassBody := classes.toClassBody }]

example : Lineage.ofClass first root.owner = [root] := rfl

example : Lineage.ofClass first lists.owner = [lists, root] := rfl

def install (t : Table Member) (name : String) (m : Member) : Table Member :=
  if t.contains name then t else t.set name m

/-! ## Bodies -/

/-- The name of an attribute that is private to a class, which is part of it. -/
def privateName (name : String) : String :=
  let cs := name.toList
  if "__".toList.isPrefixOf cs && !"__".toList.isSuffixOf cs then "_" ++ Value.recordKind ++ name
  else name

def slotName : Value → Except Fault String
  | .str s => if Text.isIdentifier s then .ok s else .error (.misuse (.slot (.str s)))
  | v => .error (.misuse (.slot v))

/-- The names to which a body confines attributes, if it does. -/
def slotNames (members : Table Member) : Except Fault (Option (List String)) :=
  match members.get? slotsName with
  | .none => .ok .none
  | .some (.value (.str s)) => return .some [← slotName (.str s)]
  | .some (.value v) =>
    match v.elements? with
    | .some vs => return .some (← vs.mapM slotName)
    | .none => .error (.misuse (.notIterable v))
  | .some _ => .error (.misuse (.notIterable .function))

/-- Whether a body makes room of some kind, which the classes above may have made already. -/
def makesRoom (name : String) (isThere : Bool) : Option (List String) → Except Fault Bool
  | .none => .ok !isThere
  | .some slots =>
    if slots.count name = 0 then .ok false
    else if isThere || slots.count name ≠ 1 then .error (.misuse (.slotTwice name))
    else .ok true

/-- What a body cannot give to its class, if it does: attributes that are confined and members at
once, a written name that is no text, a cell. -/
def bodyFault? (members : Table Member) (slots : List String) : Option Fault :=
  match slots.find? fun name => name ≠ "__qualname__" && members.contains name with
  | .some name => .some (.slotTaken name)
  | .none =>
    match members.get? "__qualname__" with
    | .some (.value (.str _)) | .none =>
      if members.contains "__classcell__" then .some (.misuse (.classBody "__classcell__"))
      else .none
    | .some (.value v) => .some (.misuse (.className v))
    | .some _ => .some (.misuse (.className .function))

/-- A class with equality of its own has no hash unless it defines one. -/
def hashOf (members : Table Member) : List (String × Member) :=
  if members.contains "__eq__" then [("__hash__", .value .null)] else []

/-- The name by which a body wants its class to be shown. -/
def writtenNameOf (members : Table Member) : String :=
  match members.get? "__qualname__" with
  | .some (.value (.str s)) => s
  | _ => Value.recordKind

/-- What a class defines under some classes whose body has the given members. Some names every class
has of its own. A body that confines the attributes of its records makes a place for each of them;
any other makes room for all, unless there is room by then. -/
def ofBody (bases : Lineage) (members : Table Member) : Except Fault ClassBody := do
  let names ← slotNames members
  let isRoomy ← makesRoom attributesAttribute bases.isRoomy names
  let isReferable ← makesRoom referencesAttribute bases.isReferable names
  let places := (names.getD []).filter fun name =>
    name ≠ attributesAttribute && name ≠ referencesAttribute
  let slots := places.map privateName
  if let .some f := bodyFault? members slots then throw f
  let common := [("__module__", Member.value (.str "__main__"))]
    ++ slots.mergeSort.map (·, .slot)
    ++ (if isRoomy then [(attributesAttribute, .view .attributes)] else [])
    ++ (if isReferable then [(referencesAttribute, .view .references)] else [])
    ++ [("__doc__", .value .null)] ++ hashOf members
  return {
    members := common.foldl (fun t (name, m) => install t name m) (members.erase "__qualname__")
    isRoomy
    isReferable
    writtenName := writtenNameOf members }

/-! ## Governing -/

/-- What a machine offers to a class, in the order in which names are taken. -/
def offers (id : MachineId) (d : Definition) (clock : Option ClockId) : List (String × Member) :=
  let generated := [Generated.currentState]
    ++ d.states.map (.isState ·.name)
    ++ d.events.map (.fire ·.name)
    ++ [.nextTransitions, .nextTarget, .errors, .valid, .inState, .notInState]
  ("state_machine", .value (.machine id)) :: generated.map fun what =>
    (what.name, .generated what id clock)

/-- Whether every class has something under a name that it keeps for itself. -/
def isKept (name : String) : Bool :=
  ["__base__", "__basicsize__", "__dict__", "__dictoffset__", "__flags__", "__itemsize__",
    "__mro__", "__text_signature__", "__weakrefoffset__"].contains name

/-- What stands against giving a class that exists a member of a name: of some a class wants a
value of a certain kind, others it keeps for itself. -/
def refusal? (name : String) (v : Value) : Option Fault :=
  if isKept name then .some (.attributeReadOnly "type" name)
  else match name, v with
    | "__class__", .cls _ => .some (.misuse .classFixed)
    | "__class__", v => .some (.misuse (.notClass v))
    | "__name__", .str _ | "__qualname__", .str _ | "__bases__", .tuple _ => .none
    | "__name__", v | "__qualname__", v =>
      .some (.misuse (.notMember "string" name ("'" ++ v.kind ++ "'")))
    | "__bases__", v => .some (.misuse (.notMember "tuple" name v.kind))
    | _, _ => .none

/-- The members after some are offered, up to the first that is refused. -/
def installAll : List (String × Member) → Table Member → Table Member × Option Fault
  | [], t => (t, .none)
  | (name, m) :: rest, t =>
    if t.contains name then installAll rest t
    else match refusal? name .function with
      | .some f => (t, .some f)
      | .none => installAll rest (t.set name m)

/-- The members of a class once a machine governs it, where none is refused; `bases` are the classes
above it. -/
def withConstructor (id : MachineId) (owner : ClassId) (members : Table Member) (bases : Lineage) :
    Table Member :=
  let line : Lineage := { owner, members } :: bases
  let (source, inner) := (line.member? constructorName).getD (owner, .innate .construct)
  members.set constructorName (.governed inner source id)

/-- The members of a class once a machine governs it. A class that refuses one of them keeps those
it was given before, and its constructor. -/
def govern (id : MachineId) (d : Definition) (clock : Option ClockId) (owner : ClassId)
    (members : Table Member) (bases : Lineage) : Table Member × Option Fault :=
  match installAll (offers id d clock) (members.set machineAttribute (.value (.machine id))) with
  | (named, .some f) => (named, .some f)
  | (named, .none) => (withConstructor id owner named bases, .none)

/-- The names that a class defines itself, but for those between double underscores. -/
def names (body : ClassBody) : List String :=
  (body.members.keys.filter fun name =>
    !("__".toList.isPrefixOf name.toList && "__".toList.isSuffixOf name.toList)).mergeSort

end Class

end Lifecycle
