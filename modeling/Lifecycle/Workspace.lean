/-
Workspaces: drafts, machines, scopes, classes and records that are known by
ids, and a clock that all adapters share.

Machines are known inside by the place of the draft they were built from, and
the attributes of records by the object that they are. `Act` is what a command
does to a workspace: declarations act on one draft (`Workspace.onDraft`), runs
on one value (`Workspace.onValue`), and both keep what they had done when they
fail. After each command nothing is in hand any longer (`Workspace.letGo`).
-/
import Lifecycle.Draft
import Lifecycle.Host

namespace Lifecycle

structure Workspace where
  clock : Clock := .system
  /-- The classes and the records that there are, with what was logged since the current command
  began. -/
  live : Live := {}
  drafts : List Draft := []
  draftIds : Table MachineId := ∅
  machineIds : Table MachineId := ∅
  /-- Open blocks, by their draft and their place in it. -/
  blockIds : Table (MachineId × Nat) := ∅
  scopeIds : Table (MachineId × Scope) := ∅
  classIds : Table ClassId := ∅
  recordIds : Table RecordId := ∅
  deriving Inhabited

/-- What a command does. -/
abbrev Act := EStateM Stop Workspace

namespace Workspace

/-- A draft or the machine that it was built into. -/
inductive Source where
  | draft (id : String)
  | machine (id : String)
  deriving Repr, Inhabited

def lookUp {α : Type} (t : Table α) (id : String) : Act α :=
  match t.get? id with
  | .some a => return a
  | .none => throw (.fault (.unbound id))

/-- What a bound id stands for, which is always there. -/
def found {α : Type} : Option α → Act α
  | .some a => return a
  | .none => throw (.fault (.unbound ""))

def lift {α : Type} : Except Fault α → Act α
  | .ok a => return a
  | .error f => throw (.fault f)

def liftStop {α : Type} : Except Stop α → Act α
  | .ok a => return a
  | .error s => throw s

/-! ## Looking up -/

/-- The first id under which something is known. -/
def idOf? (t : Table Nat) (n : Nat) : Option String :=
  (t.entries.find? (·.2 == n)).map (·.1)

/-- All ids under which something is known, in ascending order. -/
def idsOf (t : Table Nat) (n : Nat) : List String :=
  ((t.entries.filter (·.2 == n)).map (·.1)).mergeSort

def machine? (w : Workspace) (id : MachineId) : Option Machine :=
  (w.drafts[id]?).bind Draft.machine?

/-- The setting of runs. -/
def setting (w : Workspace) : Setting where
  machine? := w.machine?
  named? := w.machineIds.get?
  isNamed id := w.recordIds.entries.any (·.2 == id)
  clockOf _ := w.clock

/-- The attributes that a record shows: its own, unless its class puts an object in their place. A
record that has but places for single attributes has none to show. -/
def attrsShown (w : Workspace) (id : RecordId) : Except Fault (Table Value) :=
  let line := w.live.lineage (.record id)
  match line.member? attributesAttribute with
  | .some (_, .value v) =>
    match w.live.settle v with
    | .obj entries => .ok ⟨entries⟩
    | _ => .ok (w.live.attrsOf id)
  | _ =>
    if line.isRoomy then .ok (w.live.attrsOf id)
    else .error (.misuse (.noAttributes (.record id)))

/-- Whether a record can be called. -/
def isCallable (w : Workspace) (id : RecordId) : Bool :=
  ((w.live.lineage (.record id)).member? "__call__").isSome

/-! ## Acting on a draft -/

def setDraft (w : Workspace) (id : MachineId) (d : Draft) : Workspace :=
  { w with drafts := w.drafts.set id d }

/-- The scopes that a declaration handed out are logged. -/
def afterDeclaring (w : Workspace) (id : MachineId) (before after : Draft) : Workspace :=
  let scopes := (after.scopes.drop before.scopes.length).map Entry.scope
  { w.setDraft id after with live := { w.live with log := w.live.log ++ scopes } }

def onDraft {α : Type} (id : MachineId) (declaration : Declare α) : Act α := fun w =>
  match w.drafts[id]? with
  | .none => .error (.fault (.unbound (toString id))) w
  | .some d =>
    match declaration.run d with
    | .ok a d' => .ok a (w.afterDeclaring id d d')
    | .error f d' => .error (.fault f) (w.afterDeclaring id d d')

def onDraftNamed {α : Type} (id : String) (declaration : Declare α) : Act α := do
  onDraft (← lookUp (← get).draftIds id) declaration

def idOfSource : Source → Act MachineId
  | .draft id => do lookUp (← get).draftIds id
  | .machine id => do lookUp (← get).machineIds id

/-- The machine behind a source, built now if it was a draft until then. -/
def built (s : Source) : Act (MachineId × Definition) := do
  let id ← idOfSource s
  return (id, ← onDraft id Draft.build)

/-- A draft as far as it goes, with its rules. -/
def provisional (id : MachineId) : Act Machine := do
  let d ← found (← get).drafts[id]?
  return { toDefinition := d.toDefinition, registry := d.registry }

/-! ## Acting on a record -/

/-- Runs on a value. -/
def onValue {α : Type} (v : Value) (run : Host → Run α) : Act α := fun w =>
  match (run w.setting.host).run { w.live with self := v } with
  | .ok a l => .ok a { w with live := l }
  | .error stop l => .error stop { w with live := l }

def onRecord {α : Type} (id : RecordId) (run : Host → Run α) : Act α := onValue (.record id) run

def onRecordNamed {α : Type} (id : String) (run : Host → Run α) : Act α := do
  onRecord (← lookUp (← get).recordIds id) run

/-- Runs an engine on a record. -/
def onEngine {α : Type} (m : Machine) (record : String) (watched : Bool) (run : Engine → Run α) :
    Act α :=
  onRecordNamed record fun host => run { host, machine := m, watched }

/-! ## Adding -/

def addDraft (id : String) (d : Draft) : Act Unit :=
  modify fun w => { w with
    drafts := w.drafts ++ [d]
    draftIds := w.draftIds.set id w.drafts.length }

def nameRecord (id : String) (r : RecordId) : Act Unit :=
  modify fun w => { w with recordIds := w.recordIds.set id r }

/-- A new class begins with what the classes above it have for their subclasses. -/
def beginClass (cls : ClassId) : Act Unit :=
  onValue (.cls cls) fun host => do
    let above : Lineage := ((← get).lineageOf cls).drop 1
    match above.defined? subclassName with
    | .none => pure ()
    | .some (owner, m) => do
      let _ ← host.answer (.call (m.seen (.cls cls) cls owner subclassName) [])

/-- Adds a class that has no id yet, given the members of its body. -/
def addClass (bases : List ClassId) (members : Table Member) : Act ClassId := do
  let l := (← get).live
  let cls := l.classes.length
  let above := match bases with
    | [] => []
    | base :: _ => l.lineageOf base
  let body ← lift (Class.ofBody above members)
  modify fun w => { w with
    live := { w.live with classes := w.live.classes ++ [{ toClassBody := body, bases }] } }
  beginClass cls
  return cls

/-- Lets the machine of a source govern a class. -/
def govern (cls : ClassId) (s : Source) : Act Unit := do
  let (id, definition) ← built s
  let w ← get
  let c ← found w.live.classes[cls]?
  let (members, refused) :=
    Class.govern id definition .none cls c.members ((w.live.lineageOf cls).drop 1)
  let classes := w.live.classes.set cls { c with members }
  set { w with live := { w.live with classes } }
  if let .some f := refused then throw (.fault f)

/-! ## Leaving -/

/-- Has nothing in hand any longer. -/
def letGo : Act Unit := do
  modify fun w => { w with live := { w.live with held := [] } }
  onValue .null (·.letGo)

end Workspace

end Lifecycle
