/-
Access to the attributes of what a run is on.

An attribute is read from the record first and from its class after that,
except that a class's `current_state` answers for itself and cannot be
written, and that the views of a record come before its attributes. A class
may take all this over by its hooks; a hook is called, so what becomes of an
attribute then is up to a script. Every other operation of the library reaches
a record through `Host.attr?`, `Host.require`, `Host.setAttr` and
`Host.delAttr`.

Where a class has no hooks, an attribute that nobody else answers for is read
without a change: `Host.attr?_run`.

A class has its members for attributes, and what every class says about itself
comes before them (`Live.classView?`).
-/
import Lifecycle.Run.Farewell

namespace Lifecycle

namespace View

def read (l : Live) (id : RecordId) : View → Value
  | attributes => .shared (l.sheetOf id) (l.attrsOf id).entries
  | cls => .cls (l.owner (.record id))
  | references => .null

/-- A record can change its class for one whose records have the same layout. -/
def writeClass (id : RecordId) (v : Value) : Run Unit := do
  match v with
  | .cls new =>
    let l ← get
    let old := l.owner (.record id)
    if isFirstClass old || isFirstClass new then Run.fail (.misuse .classFixed)
    else if Lineage.sameLayout (l.lineageOf old) (l.lineageOf new) then
      set { l with records := l.records.modify id ({ · with cls := new }) }
    else Run.fail (.misuse .otherLayout)
  | v => Run.fail (.misuse (.notClass v))

/-- All attributes of a record can be replaced at once. -/
def write (id : RecordId) (v : Value) : View → Run Unit
  | attributes =>
    match v with
    | .obj entries => modify (·.renew id ⟨entries⟩)
    | .shared sheet entries => modify (·.turnTo id sheet ⟨entries⟩)
    | _ => Run.fail (.misuse (.notAttributes v))
  | cls => writeClass id v
  | references => Run.fail (.attributeReadOnly Value.recordKind referencesAttribute)

def erase (id : RecordId) : View → Run Unit
  | attributes => modify (·.renew id ∅)
  | cls => Run.fail (.misuse .classErased)
  | references => Run.fail (.attributeReadOnly Value.recordKind referencesAttribute)

end View

/-- Who answers for an attribute in place of the record. -/
inductive Reserved where
  /-- The record's class, with the current state in the view of a machine. It cannot be written. -/
  | state (machine : MachineId)
  | view (what : View)
  /-- A place for this attribute alone. -/
  | slot
  deriving Repr, DecidableEq

namespace Live

/-- Who answers for an attribute whatever the record holds, if anyone does. -/
def reserved? (l : Live) (id : RecordId) (name : String) : Option Reserved :=
  match (l.lineage (.record id)).member? name with
  | .some (_, .generated .currentState id _) => .some (.state id)
  | .some (_, .view what) => .some (.view what)
  | .some (_, .slot) => .some .slot
  | _ => .none

/-- What a class asks when its records' attributes are used, if it does not leave that to the innate
methods. -/
def hook? (l : Live) (id : RecordId) (use : Hook) : Option Value :=
  ((l.lineage (.record id)).defined? use.name).map fun (owner, m) =>
    m.seen (.record id) (l.owner (.record id)) owner use.name

/-- What the classes of a value hold under a name, bound to it. -/
def inherited? (l : Live) (v : Value) (name : String) : Option Value :=
  ((l.lineage v).member? name).map fun (owner, m) => m.seen v (l.owner v) owner name

/-- What a record or its classes hold under a name. -/
def stored? (l : Live) (id : RecordId) (name : String) : Option Value :=
  match (l.attrsOf id).get? name with
  | .some v => .some v
  | .none => l.inherited? (.record id) name

/-- Why an attribute of a record cannot be written that nobody answers for. -/
def refusal? (l : Live) (id : RecordId) (name : String) : Option Fault :=
  if (l.lineage (.record id)).isRoomy then .none
  else if ((l.lineage (.record id)).member? name).isSome then
    .some (.attributeFixed (.record id) name)
  else .some (.attributeMissing (.record id) name)

/-- What a class says about itself under a name that every class keeps, if it has anything to say
there. -/
def classView? (l : Live) (id : ClassId) (name : String) : Option (Option Value) :=
  let line := l.lineageOf id
  let own := (line.head?.bind (·.members.get? name)).map (·.seen (.cls id) id id name)
  let above := line.drop 1 |>.map fun layer => Value.cls layer.owner
  match name with
  | "__class__" => .some (.some (.cls Class.classes.owner))
  | "__name__" => .some (.some (.str (Value.className id)))
  | "__qualname__" => .some (line.head?.map (.str ·.writtenName))
  | "__module__" => .some (if isFirstClass id then .some (.str "builtins") else own)
  | "__bases__" => .some (.some (.tuple (above.take 1)))
  | "__base__" => .some (.some (above.head?.getD .null))
  | "__mro__" => .some (.some (.tuple (.cls id :: above)))
  | "__annotations__" => .some (.some (own.getD (.obj [])))
  | "__abstractmethods__" | "__doc__" => .some own
  | "__text_signature__" => .some (.some .null)
  | "__dict__" => .some (.some (.sealed "mappingproxy"))
  | "__basicsize__" => .some (.some (.int line.size))
  | "__itemsize__" => .some (.some (.int 0))
  | "__dictoffset__" => .some (.some (.int line.attributesPlace))
  | "__weakrefoffset__" => .some (.some (.int line.referencesPlace))
  | "__flags__" => .some (.some (.sealed "int"))
  | _ => .none

/-- An attribute of a class: what every class keeps, what its line holds, and what it has as a value
by itself. -/
def classAttr? (l : Live) (id : ClassId) (name : String) : Option Value :=
  match l.classView? id name with
  | .some found => found
  | .none =>
    match (l.lineageOf id).member? name with
    | .some (owner, m) => .some (m.seen (.cls id) id owner name)
    | .none =>
      if Class.classes.members.contains name then
        .some (.method (.cls id) Class.classes.owner name 0)
      else .none

end Live

namespace Host

/-! ## Reading -/

/-- An attribute by what the class asks for one, or by `own` where it asks nothing. -/
def readBy (h : Host) (id : RecordId) (own : Run (Option Value)) (name : String) : Run Value := do
  let l ← get
  let first : Run Value := match l.hook? id .read with
    | .some hook => h.answer (.call hook [.str name])
    | .none => do
      match ← own with
      | .some v => return v
      | .none => Run.fail (.attributeMissing (.record id) name)
  match l.hook? id .missing with
  | .none => first
  | .some hook => tryCatch first fun stop =>
    if stop.isMissing then h.answer (.call hook [.str name]) else throw stop

/-- The same, none where there is no such attribute. -/
def look? (h : Host) (id : RecordId) (own : Run (Option Value)) (name : String) :
    Run (Option Value) := do
  if (← get).hooksReads id then
    tryCatch (do return .some (← h.readBy id own name)) fun stop =>
      if stop.isMissing then return .none else throw stop
  else own

theorem look?_run {h : Host} {id : RecordId} {l : Live} (hp : l.hooksReads id = false)
    (own : Run (Option Value)) (name : String) : (h.look? id own name).run l = own.run l := by
  change (if l.hooksReads id = true then _ else own : Run (Option Value)) l = own l
  rw [hp]
  rfl

/-- An attribute that no machine answers for. A machine whose column is itself such a state never
finds one. -/
def plain? (_ : Host) (id : RecordId) (name : String) : Run (Option Value) := do
  let l ← get
  match l.reserved? id name with
  | .none => return l.stored? id name
  | .some (.view what) => return .some (what.read l id)
  | .some .slot => return (l.slotsOf id).get? name
  | .some (.state _) => throw .exhausted

/-- The state of a record in the view of a machine. -/
def stateFor (h : Host) (id : RecordId) (m : Machine) : Run Value :=
  match m.config.column with
  | .str column => do
    let v := (← h.look? id (h.plain? id column) column).getD .null
    Run.lift (m.checkCurrent (← h.asState v))
  | v => Run.fail (.misuse (.nameNotText v))

/-- An attribute of a record without asking any hook. -/
def recordOwn? (h : Host) (id : RecordId) (name : String) : Run (Option Value) := do
  match (← get).reserved? id name with
  | .some (.state machine) =>
    let m ← Run.liftStop (h.machineAt machine)
    return .some (← h.stateFor id m)
  | _ => h.plain? id name

/-- An attribute of what the run is on, without asking any hook. -/
def own? (h : Host) (name : String) : Run (Option Value) := do
  let l ← get
  match l.self with
  | .record id => h.recordOwn? id name
  | .cls id => return l.classAttr? id name
  | .listAt n =>
    if name = classAttribute then return .some (.cls Class.lists.owner)
    else return l.inherited? (.listAt n) name
  | v => return h.attrOf? l v name

/-- An attribute of what the run is on, if there is one. -/
def attr? (h : Host) : Value → Run (Option Value)
  | .str name => do
    match (← get).self with
    | .record id => h.look? id (h.recordOwn? id name) name
    | _ => h.own? name
  | v => Run.fail (.misuse (.nameNotText v))

/-- An attribute of what the run is on, null if there is none. -/
def attr (h : Host) (name : Value) : Run Value := return (← h.attr? name).getD .null

/-- An attribute of any value, null if there is none. -/
def attrOf (h : Host) (v name : Value) : Run Value := Run.as v (h.attr name)

theorem attr?_run {h : Host} {id : RecordId} {name : String} {l : Live}
    (hs : l.self = .record id) (hp : l.hooksReads id = false)
    (hr : l.reserved? id name = .none) :
    (h.attr? (.str name)).run l = .ok (l.stored? id name) l := by
  have own : (h.recordOwn? id name).run l = .ok (l.stored? id name) l := by
    change (match l.reserved? id name with
      | .some (.state machine) => _
      | _ => h.plain? id name : Run (Option Value)) l = _
    rw [hr]
    change (match l.reserved? id name with
      | .none => _
      | .some (.view what) => _
      | .some .slot => _
      | .some (.state _) => _ : Run (Option Value)) l = _
    rw [hr]
    rfl
  change (match l.self with
    | .record id => h.look? id (h.recordOwn? id name) name
    | _ => h.own? name : Run (Option Value)) l = _
  rw [hs]
  exact (look?_run hp _ _).trans own

/-- What an attribute stands for by now. -/
def shown (h : Host) (name : Value) : Run Value := do
  let v ← h.attr name
  Run.settle v

def hasAttr (h : Host) (name : Value) : Run Bool := return (← h.attr? name).isSome

/-- An attribute that has to be there, without asking any hook. -/
def requireOwn (h : Host) : Value → Run Value
  | .str name => do
    match ← h.own? name with
    | .some v => return v
    | .none => Run.fail (.attributeMissing (← get).self name)
  | v => Run.fail (.misuse (.nameNotText v))

/-- An attribute that has to be there. -/
def require (h : Host) : Value → Run Value
  | .str name => do
    match (← get).self with
    | .record id => h.readBy id (h.recordOwn? id name) name
    | _ => h.requireOwn (.str name)
  | v => Run.fail (.misuse (.nameNotText v))

/-! ## Writing -/

/-- Sets an attribute of a record without asking any hook. -/
def storeOn (_ : Host) (id : RecordId) (name : String) (v : Value) : Run Unit := do
  let l ← get
  match l.reserved? id name with
  | .some (.state _) => Run.fail (.stateAssigned false)
  | .some (.view what) => what.write id v
  | .some .slot => set (l.withSlots id ((l.slotsOf id).set name v))
  | .none =>
    match l.refusal? id name with
    | .some f => Run.fail f
    | .none => set (l.withAttrs id ((l.attrsOf id).set name v))

/-- Gives a class that exists a member. One that is there already is not changed by being given the
value that is seen of it. -/
def storeIn (h : Host) (cls : ClassId) (name : String) (v : Value) : Run Unit := do
  let l ← get
  if isFirstClass cls then Run.fail (.misuse (.memberFixed cls name))
  match Class.refusal? name v with
  | .some f => Run.fail f
  | .none =>
    match name, v with
    | "__name__", _ | "__bases__", _ => pure ()
    | "__qualname__", .str s =>
      set { l with classes := l.classes.modify cls ({ · with writtenName := s }) }
    | name, v =>
      let isUnfinished ← if name = unfinishedAttribute then h.truth v else pure false
      modify fun l =>
        let isKept := match (l.lineageOf cls).memberOf? cls name with
          | .some m => (m.seen (.cls cls) cls cls name).same v
          | .none => false
        let l := if isKept then l else l.withMember cls name (.value v)
        if name = unfinishedAttribute then
          { l with classes := l.classes.modify cls ({ · with isUnfinished }) }
        else l

/-- Why an attribute of a value cannot be written that is neither a record nor a class. -/
def refusalOf (h : Host) (l : Live) (v : Value) (name : String) : Fault :=
  if (l.inherited? v name).isSome || (h.attrOf? l v name).isSome then .attributeFixed v name
  else .attributeMissing v name

/-- Sets an attribute without asking any hook. -/
def store (h : Host) (name : String) (v : Value) : Run Unit := do
  let l ← get
  match l.self with
  | .record id => h.storeOn id name v
  | .cls id => h.storeIn id name v
  | self =>
    if name = classAttribute then
      match v with
      | .cls _ => Run.fail (.misuse .classFixed)
      | v => Run.fail (.misuse (.notClass v))
    else Run.fail (h.refusalOf l self name)

/-- Deletes an attribute of a record without asking any hook. Only what the record itself holds can
go. -/
def discardOn (_ : Host) (id : RecordId) (name : String) : Run Unit := do
  let l ← get
  match l.reserved? id name with
  | .some (.state _) => Run.fail (.stateAssigned true)
  | .some (.view what) => what.erase id
  | .some .slot =>
    if (l.slotsOf id).contains name then set (l.withSlots id ((l.slotsOf id).erase name))
    else Run.fail (.slotEmpty name)
  | .none =>
    if (l.attrsOf id).contains name then set (l.withAttrs id ((l.attrsOf id).erase name))
    else Run.fail ((l.refusal? id name).getD (.attributeMissing (.record id) name))

/-- Takes a member from a class. -/
def discardFrom (_ : Host) (cls : ClassId) (name : String) : Run Unit := do
  let l ← get
  if isFirstClass cls then Run.fail (.misuse (.memberFixed cls name))
  else if Class.isKept name then Run.fail (.attributeReadOnly "type" name)
  else if name = classAttribute then Run.fail (.misuse .classErased)
  else if ["__bases__", "__doc__", "__module__", "__name__", "__qualname__"].contains name then
    Run.fail (.misuse (.memberKept name))
  else if ((l.lineageOf cls).memberOf? cls name).isSome then
    let l := l.withoutMember cls name
    if name = unfinishedAttribute then
      set { l with classes := l.classes.modify cls ({ · with isUnfinished := false }) }
    else set l
  else if name = unfinishedAttribute ∨ name = "__annotations__" then Run.fail (.slotEmpty name)
  else Run.fail (.attributeMissing (.cls cls) name)

/-- Deletes an attribute without asking any hook. -/
def discard (h : Host) (name : String) : Run Unit := do
  let l ← get
  match l.self with
  | .record id => h.discardOn id name
  | .cls id => h.discardFrom id name
  | self =>
    if name = classAttribute then Run.fail (.misuse .classErased)
    else Run.fail (h.refusalOf l self name)

/-- What a class asks when an attribute of what the run is on is used in some way. -/
def hookNow? (_ : Host) (use : Hook) : Run (Option Value) := do
  let l ← get
  match l.self with
  | .record id => return l.hook? id use
  | _ => return .none

def setAttr (h : Host) (name v : Value) : Run Unit :=
  match name with
  | .str n => do
    match ← h.hookNow? .write with
    | .none => h.store n v
    | .some hook => do
      let _ ← h.answer (.call hook [.str n, v])
  | _ => Run.fail (.misuse (.nameNotText name))

def delAttr (h : Host) : Value → Run Unit
  | .str n => do
    match ← h.hookNow? .erase with
    | .none => h.discard n
    | .some hook => do
      let _ ← h.answer (.call hook [.str n])
  | name => Run.fail (.misuse (.nameNotText name))

def setAttrs (h : Host) : List (String × Value) → Run Unit
  | [] => pure ()
  | (name, v) :: rest => do
    h.setAttr (.str name) v
    h.setAttrs rest

/-! ## Blanks -/

/-- Asks for the class of a record, which tells nothing new but may run a script. -/
def askClass (h : Host) : Value → Run Unit
  | .record id => do
    let _ ← Run.as (.record id) (h.attr? (.str classAttribute))
  | _ => pure ()

/-- Whether a value is blank by now. A record that cannot tell how much it holds is not. -/
def isBlank (h : Host) (v : Value) : Run Bool := do
  h.askClass v
  match ← h.special? "__len__" v with
  | .some _ =>
    tryCatch (do return (← h.length? v) = .some 0) fun stop =>
      if stop.isMistyped then return false else throw stop
  | .none => return (← Run.settle v).isBlank

end Host

end Lifecycle
