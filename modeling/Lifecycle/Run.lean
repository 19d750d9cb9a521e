/-
Runs on a record: the state that actions change, the ways in which a run
stops, and what stays the same while it goes on.

A run is on one value at a time (`Live.self`), which is a record but where a
filter works on a list or a class gets its subclass ready; it can go over to
another (`Run.as`). The attributes of a record are an object that others may
hold as well: it has an identity (`Live.sheetOf`), and stands on a shelf with
all other objects that are held so. `Live.settle` is what a value stands for at
a given time; what is logged is settled then. `Live.held` is what only scripts
under way have.
-/
import Lifecycle.Attribute
import Lifecycle.Shelf

namespace Lifecycle

/-- What a run leaves in the log. -/
inductive Entry where
  | note (v : Value)
  /-- A block of validation rules was handed this scope. -/
  | scope (s : Scope)
  /-- A line on the error output. -/
  | report (line : String)
  | commit (state : Value)
  | rollback
  | valid (event : Value) (result : Bool)
  | action (action event : Value)
  | stampAbsent (field : Value)
  | stampAlways (field : Value)
  deriving Repr, Inhabited

/-- An entry whose values are replaced. -/
def Entry.map (f : Value → Value) : Entry → Entry
  | .note v => .note (f v)
  | .scope s => .scope { state := f s.state, event := f s.event, column := f s.column }
  | .report line => .report line
  | .commit state => .commit (f state)
  | .rollback => .rollback
  | .valid event result => .valid (f event) result
  | .action what event => .action (f what) (f event)
  | .stampAbsent field => .stampAbsent (f field)
  | .stampAlways field => .stampAlways (f field)

structure Record where
  cls : ClassId
  /-- The object that its attributes are. -/
  sheet : Identity
  /-- What stands in the places that its classes made for single attributes. -/
  slots : Table Value := ∅
  /-- Whether nobody has it any longer. -/
  isGone : Bool := false
  deriving Repr, Inhabited

/-- What changes while a run goes on. -/
structure Live where
  /-- What the run is on. -/
  self : Value := .null
  /-- The first classes are those that are there before all others. -/
  classes : List Class := Class.first
  records : List Record := []
  /-- The attributes of records, and other objects that several may hold. -/
  shelf : Shelf := {}
  /-- What scripts under way have in hand. -/
  held : List Value := []
  /-- How often clocks were read. -/
  reads : Nat := 0
  log : List Entry := []
  deriving Inhabited

namespace Live

/-- What a value stands for by now. -/
def settle (l : Live) (v : Value) : Value := l.shelf.settle v

@[simp] theorem settle_str (l : Live) (s : String) : l.settle (.str s) = .str s := by
  simp [settle]

@[simp] theorem settle_null (l : Live) : l.settle .null = .null := by simp [settle]

@[simp] theorem settle_textOf (l : Live) (v : Value) : l.settle (.textOf v) = .textOf v := by
  simp [settle]

/-! ## Records -/

/-- Which object the attributes of a record are. -/
def sheetOf (l : Live) (id : RecordId) : Identity :=
  (l.records[id]?.map (·.sheet)).getD (.attributes 0)

/-- The attributes that a record has of its own. -/
def attrsOf (l : Live) (id : RecordId) : Table Value := (l.shelf.get? (l.sheetOf id)).getD ∅

/-- With other attributes of a record. -/
def withAttrs (l : Live) (id : RecordId) (t : Table Value) : Live :=
  { l with shelf := l.shelf.put (l.sheetOf id) t }

@[simp] theorem attrsOf_withAttrs_self (l : Live) (id : RecordId) (t : Table Value) :
    (l.withAttrs id t).attrsOf id = t := by
  simp [attrsOf, withAttrs, sheetOf]

/-- Takes another object for the attributes of a record, which is `t` if it was never seen. -/
def turnTo (l : Live) (id : RecordId) (sheet : Identity) (t : Table Value) : Live :=
  { l with
    records := l.records.modify id ({ · with sheet })
    shelf := if (l.shelf.get? sheet).isSome then l.shelf else l.shelf.put sheet t }

/-- Takes a new object for the attributes of a record. -/
def renew (l : Live) (id : RecordId) (t : Table Value) : Live :=
  { l with
    records := l.records.modify id ({ · with sheet := l.shelf.fresh })
    shelf := (l.shelf.put l.shelf.fresh t).take }

/-- What stands in the places of a record for single attributes. -/
def slotsOf (l : Live) (id : RecordId) : Table Value := (l.records[id]?.map (·.slots)).getD ∅

def withSlots (l : Live) (id : RecordId) (slots : Table Value) : Live :=
  { l with records := l.records.modify id ({ · with slots }) }

/-- With a new record, which has no attributes yet. -/
def withNew (l : Live) (cls : ClassId) : Live :=
  { l with
    records := l.records ++ [{ cls, sheet := l.shelf.fresh }]
    shelf := l.shelf.take }

/-! ## Classes -/

def lineageOf (l : Live) (id : ClassId) : Lineage := Lineage.ofClass l.classes id

/-- The class of a value, if its kind has any members of its own here. -/
def classOf? (l : Live) : Value → Option ClassId
  | .record id => l.records[id]?.map (·.cls)
  | .listAt _ | .list _ => .some Class.lists.owner
  | .cls _ => .some Class.classes.owner
  | _ => .none

/-- The classes of a value. -/
def lineage (l : Live) (v : Value) : Lineage :=
  match l.classOf? v with
  | .some id => l.lineageOf id
  | .none => []

/-- The class of a value. -/
def owner (l : Live) (v : Value) : ClassId := (l.classOf? v).getD Class.root.owner

/-- The function of a class that was wrapped `layers` times. -/
def function? (l : Live) (owner : ClassId) (name : String) (layers : Nat) : Option Member :=
  (l.lineageOf owner).function? owner name layers

def withMember (l : Live) (cls : ClassId) (name : String) (m : Member) : Live :=
  { l with classes := l.classes.modify cls fun c => { c with members := c.members.set name m } }

def withoutMember (l : Live) (cls : ClassId) (name : String) : Live :=
  { l with classes := l.classes.modify cls fun c => { c with members := c.members.erase name } }

/-- Whether reading an attribute of a record may run a script. -/
def hooksReads (l : Live) (id : RecordId) : Bool :=
  let line := l.lineage (.record id)
  (line.defined? Hook.read.name).isSome || (line.defined? Hook.missing.name).isSome

end Live

/-- Why a run stopped: a fault, or too deep a nest of calls. -/
inductive Stop where
  | fault (f : Fault)
  | exhausted
  deriving Repr, Inhabited

/-- Whether a run stopped because there is no such attribute. -/
def Stop.isMissing : Stop → Bool
  | fault f => f.isMissing
  | exhausted => false

/-- Whether a run stopped because a value is of the wrong kind. -/
def Stop.isMistyped : Stop → Bool
  | fault f => f.isMistyped
  | exhausted => false

/-- Whether a run stopped because a value is of the wrong kind or not fit. -/
def Stop.isUnfit : Stop → Bool
  | fault f => f.isUnfit
  | exhausted => false

/-- Whether a run stopped because a list has nothing at some position. -/
def Stop.isBeyond : Stop → Bool
  | fault .positionMissing => true
  | _ => false

/-- Whether a run stopped in a way that an observer may stop in without ending the run. A nest of
calls that is too deep is one of them. -/
def Stop.isOrdinary : Stop → Bool
  | fault f => f.isOrdinary
  | exhausted => true

abbrev Run := EStateM Stop Live

namespace Run

def liftStop {α : Type} : Except Stop α → Run α
  | .ok a => pure a
  | .error s => throw s

def lift {α : Type} : Except Fault α → Run α
  | .ok a => pure a
  | .error f => throw (.fault f)

def fail {α : Type} (f : Fault) : Run α := throw (.fault f)

/-- Logs an entry as it stands by now. -/
def note (e : Entry) : Run Unit := modify fun l => { l with log := l.log ++ [e.map l.settle] }

def settle (v : Value) : Run Value := return (← get).settle v

/-- Runs on another value. -/
def as {α : Type} (v : Value) (run : Run α) : Run α := fun l =>
  match run { l with self := v } with
  | .ok a l' => .ok a { l' with self := l.self }
  | .error s l' => .error s { l' with self := l.self }

/-- A new record of a class. -/
def newRecord (cls : ClassId) : Run Value := fun l =>
  .ok (.record l.records.length) (l.withNew cls)

/-- A new list that others may change. -/
def newList (items : List Value) : Run Value := fun l =>
  .ok (.listAt l.shelf.lists.length) { l with shelf := l.shelf.withList items }

/-- Something that goes through a list. -/
def newWalker (n : Nat) (falls : Bool) : Run Value := fun l =>
  .ok (.walker l.shelf.walkers.length falls) { l with shelf := l.shelf.withWalker n falls }

end Run

/-- What stays the same while a run goes on. -/
structure Setting where
  machine? : MachineId → Option Machine := fun _ => .none
  /-- The machines that scripts can name. -/
  named? : String → Option MachineId := fun _ => .none
  /-- Whether a record is known by an id. -/
  isNamed : RecordId → Bool := fun _ => false
  /-- What adapters ask for the time; those that were given no clock ask the one for `none`. -/
  clockOf : Option ClockId → Clock := fun _ => .system

/-- What is asked of a host. -/
inductive Request where
  /-- Call a value with some arguments. -/
  | call (target : Value) (args : List Value)
  /-- Fire an event of a machine on the record. -/
  | fire (machine : MachineId) (event : Value)
  /-- The messages of the rules of a machine that fail. -/
  | errors (machine : MachineId) (event : Value)
  deriving Repr, Inhabited

/-- The surroundings of a run: what it can look up and whom it can ask. -/
structure Host extends Setting where
  answer : Request → Run Value

namespace Setting

def machineAt (s : Setting) (id : MachineId) : Except Stop Machine :=
  match s.machine? id with
  | .some m => .ok m
  | .none => .error (.fault (.unbound (toString id)))

/-- An attribute of a value that is neither a record nor a class. -/
def attrOf? (s : Setting) (l : Live) (v : Value) (name : String) : Option Value :=
  v.attr? (fun id => (s.machine? id).map (·.toDefinition)) l.function? name

end Setting

namespace Live

/-- Whether a function declares a parameter for an event; what is no function counts as if it
did. -/
def takesEvent (l : Live) : Value → Bool
  | .method _ owner name layers =>
    match l.function? owner name layers with
    | .some m => m.takesEvent
    | .none => true
  | _ => true

end Live

end Lifecycle
