/-
Commands: everything that can be asked of a workspace, and the answers.

`Command.run` is the one entry point. Of a command that names several ids, the
machine, scope or class is looked up before the record.
-/
import Lifecycle.Workspace

namespace Lifecycle

open Workspace (Source lookUp found lift liftStop onDraft onDraftNamed onRecordNamed onEngine
  idOfSource provisional)

/-- What an engine can be asked to do with a record. -/
inductive EngineCommand where
  | fire (event : Value)
  /-- Fires an event without rolling back or notifying. -/
  | fireEvent (event : Value)
  | start
  | declaredState
  | isInState (name : Value)
  | nextTransitions (event : Value)
  | nextTarget (event : Value)
  | allows (t : Transition) (event : Value)
  | perform (t : Transition) (event : Value)
  | entering (state event : Value)
  | entered (state event : Value)
  | exited (state event : Value)
  | commit (state : Value)
  | rollback
  | committed
  | currentState
  | isValid (event : Value)
  | stampAbsent (field : Value)
  | stampAlways (field : Value)
  | runAction (action : Callback) (event : Value)
  deriving Repr, Inhabited

inductive Command where
  /-- A new draft, with a configuration, with options for one, or wrongly with both. -/
  | draft (id : String) (config : Option (Table Value)) (options : Table Value)
  | state (draft : String) (name : Wording) (enter after exit : Option Callback)
      (validate : Option (List RuleCall))
  /-- A whole event block, which may be made to fail at its end. -/
  | event (draft : String) (name : Wording) (options : Table Value) (edges : List Edges)
      (failure : Option Fault)
  | openEvent (draft block : String) (name : Wording) (options : Table Value)
  | enterBlock (block : String)
  | addEdges (block : String) (edges : Edges)
  | leaveBlock (block : String) (failed : Bool)
  | frozenEvent (block : String)
  | observe (draft : String) (observer : Callback)
  | build (draft machine : String)
  | define (of : Source) (name : Value) (validator : Validator)
  | hasValidator (of : Source) (name : Value)
  | addRule (of : Source) (call : RuleCall)
  | rules (of : Source)
  | errors (of : Source) (record : String) (event : Value)
  | isValid (of : Source) (record : String) (event : Value)
  | scope (id : String) (of : Source) (scope : Scope)
  | addScopedRule (scope : String) (call : RuleCall)
  | scopeActive (scope record : String) (event : Value)
  /-- What becomes of some rule options inside a scope. -/
  | scopeOptions (scope record : String) (event : Value) (options : RuleOptions)
  | makeClass (id : String) (base : Option String) (members : Table Member)
      (governor : Option Source)
  | govern (cls : String) (governor : Source)
  | classMachine (cls : String)
  | classSelect (cls : String) (filter : String) (records : List String) (names : List Value)
  | construct (cls record : String) (keywords : Table Value)
  /-- A record of a class of its own that no machine governs. -/
  | plain (record : String) (attrs : Table Value) (methods : Table Member)
  | setAttr (record : String) (name v : Value)
  | delAttr (record : String) (name : Value)
  | getAttr (record : String) (name : Value)
  | call (record : String) (name : Value) (args : List Value)
  | select (machine : String) (among : Bool) (records : List String) (names : List Value)
  | lookUpEvent (machine : String) (name : Value)
  | engine (machine record : String) (watched : Bool) (c : EngineCommand)
  deriving Inhabited

/-- What a command answers. -/
inductive Reply where
  | value (v : Value)
  | config (c : MachineConfig)
  | state (s : State)
  | event (e : Event)
  | rule (r : Rule)
  | rules (rs : List Rule)
  /-- A built machine, and the ids it was already known by. -/
  | machine (ids : List String) (d : Definition) (rules : List Rule)
  | options (o : RuleOptions) (holds : Bool)
  deriving Inhabited

namespace Reply

def unit : Reply := value .null

def ofBool (b : Bool) : Reply := value (.bool b)

def ofStrings (ss : List String) : Reply := value (.list (ss.map .str))

def ofTransitions (ts : List Transition) : Reply := value (.list (ts.map Transition.toValue))

end Reply

namespace EngineCommand

/-- Runs something on a declared state. -/
def onState (e : Engine) (state : Value) (act : State → Run Unit) : Run Reply := do
  act (← Run.lift (e.machine.stateAt state))
  return .unit

def run (e : Engine) : EngineCommand → Run Reply
  | fire event => return .ofBool (← e.fire event)
  | fireEvent event => do
    let event ← Run.lift (e.machine.eventNamed event)
    return .ofBool (← e.fireEvent event)
  | start => return .ofBool (← e.start)
  | declaredState => return .value (← e.declaredState)
  | isInState name => return .ofBool (← e.isInState name)
  | nextTransitions event => return .ofTransitions (← e.nextTransitionsFor event)
  | nextTarget event => return .value (← e.nextTargetFor event)
  | allows t event => return .ofBool (← e.allows event t)
  | perform t event => return .ofBool (← e.perform event t)
  | entering state event => onState e state (e.entering event)
  | entered state event => onState e state (e.entered event)
  | exited state event => onState e state (e.exited event)
  | commit state => do
    e.commit state
    return .unit
  | rollback => do
    e.rollback
    return .unit
  | committed => return .value (← e.committed)
  | currentState => return .value (← e.currentState)
  | isValid event => return .ofBool (← e.isValid event)
  | stampAbsent field => do
    e.stampAbsent field
    return .unit
  | stampAlways field => do
    e.stampAlways field
    return .unit
  | runAction action event => return .value (← e.runAction event action)

end EngineCommand

namespace Command

/-- The records known by some ids. -/
def recordsOf : List String → Act (List RecordId)
  | [] => return []
  | id :: ids => do
    let r ← lookUp (← get).recordIds id
    let rest ← recordsOf ids
    return r :: rest

/-- The definition of a machine known by an id. -/
def machineOf (id : String) : Act Machine := do
  let w ← get
  found (w.machine? (← lookUp w.machineIds id))

def classNames (cls : ClassId) : Act Reply := do
  let c ← found (← get).live.classes[cls]?
  return .ofStrings (Class.names c.toClassBody)

/-- Some records as a list. -/
def listOf (records : List RecordId) : Value := .list (records.map .record)

def run : Command → Act Reply
  | draft id config options => do
    let d ← lift (Draft.start config options)
    Workspace.addDraft id d
    return .config d.config
  | state id name enter after exit validate =>
    return .state (← onDraftNamed id (Draft.declareState name enter after exit validate))
  | event id name options edges failure =>
    return .event (← onDraftNamed id (Draft.declareEvent name options edges failure))
  | openEvent id block name options => do
    let d ← lookUp (← get).draftIds id
    let i ← onDraft d (Draft.openEvent name options)
    modify fun w => { w with blockIds := w.blockIds.set block (d, i) }
    return .value (.str (← lift name))
  | enterBlock block => do
    let (d, i) ← lookUp (← get).blockIds block
    onDraft d (Draft.enterBlock i)
    return .ofBool true
  | addEdges block edges => do
    let (d, i) ← lookUp (← get).blockIds block
    onDraft d (Draft.addEdges i edges)
    return .unit
  | leaveBlock block failed => do
    let (d, i) ← lookUp (← get).blockIds block
    onDraft d (Draft.leaveBlock i failed)
    return .unit
  | frozenEvent block => do
    let (d, i) ← lookUp (← get).blockIds block
    match (← onDraft d (Draft.block i)).event with
    | .some e => return .event e
    | .none => return .unit
  | observe id observer => do
    onDraftNamed id (Draft.observe observer)
    return .unit
  | build id machine => do
    let d ← lookUp (← get).draftIds id
    let definition ← onDraft d Draft.build
    let ids := Workspace.idsOf (← get).machineIds d
    modify fun w => { w with machineIds := w.machineIds.set machine d }
    return .machine ids definition (← provisional d).registry.rules
  | define of name validator => do
    onDraft (← idOfSource of) (Draft.define name validator)
    return .unit
  | hasValidator of name => do
    let m ← provisional (← idOfSource of)
    return .ofBool (← lift (m.registry.has name))
  | addRule of wanted => return .rule (← onDraft (← idOfSource of) (Draft.addRule wanted))
  | rules of => return .rules (← provisional (← idOfSource of)).registry.rules
  | errors of record e => do
    let m ← provisional (← idOfSource of)
    return .value (.list (← onEngine m record false (·.errors e)))
  | isValid of record e => do
    let m ← provisional (← idOfSource of)
    return .ofBool (← onEngine m record false (·.errors e)).isEmpty
  | scope id of s => do
    let d ← idOfSource of
    modify fun w => { w with scopeIds := w.scopeIds.set id (d, s) }
    return .unit
  | addScopedRule id wanted => do
    let (d, s) ← lookUp (← get).scopeIds id
    return .rule (← onDraft d (Draft.addRuleWithin s wanted))
  | scopeActive id record e => do
    let (d, s) ← lookUp (← get).scopeIds id
    return .ofBool (← onEngine (← provisional d) record false (·.covered e s))
  | scopeOptions id record e options => do
    let (d, s) ← lookUp (← get).scopeIds id
    let inner := options.within s
    let holds ← onEngine (← provisional d) record false (·.holds e inner.condition)
    return .options inner holds
  | makeClass id base members governor => do
    let above ← match base with
      | .none => pure Class.root.owner
      | .some b => lookUp (← get).classIds b
    let bases := above :: (← found (← get).live.classes[above]?).bases
    let cls ← Workspace.addClass bases members
    modify fun w => { w with classIds := w.classIds.set id cls }
    if let .some s := governor then Workspace.govern cls s
    classNames cls
  | govern id governor => do
    let cls ← lookUp (← get).classIds id
    Workspace.govern cls governor
    classNames cls
  | classMachine id => do
    let cls ← lookUp (← get).classIds id
    match ← Workspace.onValue (.cls cls) (·.require (.str "state_machine")) with
    | .machine m => do
      let w ← get
      let d ← found (w.machine? m)
      return .value (.list ((Workspace.idsOf w.machineIds m).map .str
        ++ [.list (d.states.map (.str ·.name))]))
    | v => throw (.fault (.attributeMissing v "state_names"))
  | classSelect id filter records names => do
    let cls ← lookUp (← get).classIds id
    let records ← recordsOf records
    return .value (← Workspace.onValue (.cls cls) fun host => do
      let target ← host.require (.str filter)
      host.answer (.call target (listOf records :: names)))
  | construct id record keywords => do
    let cls ← lookUp (← get).classIds id
    match ← Workspace.onValue .null (·.callClass cls { named := keywords }) with
    | .record r => do
      Workspace.nameRecord record r
      return .unit
    | v => throw (.fault (.misuse (.notMade v)))
  | plain record attrs methods => do
    let cls ← Workspace.addClass [Class.root.owner] methods
    let made ← Workspace.onValue .null fun host => do
      let made ← host.callClass cls {}
      Run.as made (host.setAttrs attrs.entries)
      return made
    match made with
    | .record r => do
      Workspace.nameRecord record r
      return .unit
    | v => throw (.fault (.misuse (.notMade v)))
  | setAttr record name v => do
    onRecordNamed record (·.setAttr name v)
    return .unit
  | delAttr record name => do
    onRecordNamed record (·.delAttr name)
    return .unit
  | getAttr record name => return .value (← onRecordNamed record (·.require name))
  | call record name args =>
    return .value (← onRecordNamed record fun host => do
      let target ← host.require name
      host.answer (.call target args))
  | select machine among records names => do
    let m ← machineOf machine
    let records ← recordsOf records
    return .value (← Workspace.onValue .null fun host =>
      let e : Engine := { host, machine := m }
      e.selectValues among (listOf records) names)
  | lookUpEvent machine name => do
    let m ← machineOf machine
    return .event (← lift (m.eventNamed name))
  | engine machine record watched c => do
    let m ← machineOf machine
    onEngine m record watched fun e => c.run e

/-- The record that a command is about, if it is about one. -/
def record? : Command → Option String
  | errors _ r _ | isValid _ r _ | scopeActive _ r _ | scopeOptions _ r _ _ | construct _ r _
  | plain r _ _ | setAttr r _ _ | delAttr r _ | getAttr r _ | call r _ _ | engine _ r _ _ => .some r
  | _ => .none

end Command

/-- How a command ended: its answer or why it stopped, what was logged, and the attributes that its
record has by then, if it has any to show. -/
structure Outcome where
  reply : Except Stop Reply
  log : List Entry
  attrs : Except Fault (Option (Table Value))

namespace Workspace

/-- What is shown of the record of a command, if it is about one that is known. -/
def attrsNamed (w : Workspace) (record? : Option String) : Except Fault (Option (Table Value)) :=
  (record?.bind w.recordIds.get?).mapM w.attrsShown

/-- Runs one command and begins a new log for it. -/
def step (w : Workspace) (c : Command) : Outcome × Workspace :=
  let (reply, w) := match (c.run).run { w with live := { w.live with log := [] } } with
    | .ok a w => (Except.ok a, w)
    | .error s w => (Except.error s, w)
  let w' := match letGo.run w with
    | .ok _ w => w
    | .error _ w => w
  ({ reply, log := w'.live.log, attrs := w'.attrsNamed c.record? }, w')

end Workspace

namespace Validator

/-- What a validator says about bare attributes, outside of any machine. -/
def checkAttrs (v : Validator) (attrs : Table Value) (args : List Value) : Except Stop Value :=
  let body := (Class.ofBody [Class.root] ∅).toOption.getD {}
  let l : Live := {
    self := .record 0
    classes := Class.first ++ [{ toClassBody := body }]
    records := [{ cls := Class.first.length, sheet := .attributes 0 }] }
  let machine : Machine := { config := { initial := "" }, registry := .standard }
  match (Engine.validate { host := Setting.host {}, machine } args v).run (l.withAttrs 0 attrs) with
  | .ok message _ => .ok message
  | .error s _ => .error s

end Validator

end Lifecycle
