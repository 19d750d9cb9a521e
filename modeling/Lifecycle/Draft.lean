/-
Drafts: definitions that are still being declared.

States and observers are declared by one call each. An event is declared by
opening a block, naming its transitions and leaving the block; several blocks
may be open at once, and each is known by its place in `Draft.blocks`. `build`
checks every reference once and closes the draft. An operation that fails
keeps what it had done before it failed.

Names are whatever has a text, so a draft asks for the text where it needs it
(`Wording`), and for that of each source when it is the source's turn.
-/
import Lifecycle.Machine

namespace Lifecycle

/-- An event that is being declared; `event` is what it became when its block was left. -/
structure EventBlock where
  name : String
  options : Table Value := ∅
  transitions : List Transition := []
  event : Option Event := .none
  deriving Repr, Inhabited

structure Draft extends Definition where
  registry : Registry := .standard
  blocks : List EventBlock := []
  /-- The definition as it was when the draft was built. -/
  built : Option Definition := .none
  /-- The scopes that were handed out for adding rules, in order. -/
  scopes : List Scope := []
  deriving Repr, Inhabited

/-- The machine that a draft was built into, with the rules it has by now. -/
def Draft.machine? (d : Draft) : Option Machine :=
  d.built.map fun definition => { toDefinition := definition, registry := d.registry }

/-- A declaration: it changes a draft, and may fail on the way. -/
abbrev Declare := EStateM Fault Draft

/-- One call that names transitions: from each source to one target. To go through what is given for
the sources may fail. -/
structure Edges where
  target : Wording
  sources : Except Fault (List Wording)
  guard : Option Callback := .none
  /-- Rules to be added within the scope of each source, if there is a validation block. -/
  validate : Option (List RuleCall) := .none
  deriving Repr, Inhabited

/-- A text is one source; a collection is a list of them. -/
def Value.sources : Value → Except Fault (List Wording)
  | .str s => .ok [s]
  | v =>
    match v.elements? with
    | .some vs => .ok (vs.map wording)
    | .none => .error (.misuse (.notIterable v))

/-- The transitions that are named by some values. -/
def Edges.ofValues (target source : Value) (guard : Option Callback)
    (validate : Option (List RuleCall)) : Edges :=
  { target := target.wording, sources := source.sources, guard, validate }

namespace Draft

/-- Options whose names a call has already taken are refused. -/
def checkOptions (taken : List String) (options : Table Value) : Except Fault Unit :=
  match options.keys.find? (· ∈ taken) with
  | .some name => .error (.misuse (.repeatedOption name))
  | .none => .ok ()

/-- A draft with a configuration of its own, or with one made from options, but not both. -/
def start (config : Option (Table Value)) (options : Table Value) : Except Fault Draft := do
  let config ← config.mapM MachineConfig.ofOptions
  checkOptions ["self", "config"] options
  match config with
  | .none => return { config := ← MachineConfig.ofOptions options }
  | .some config =>
    unless options.entries.isEmpty do throw (.misuse .configAndOptions)
    return { config }

def liftFault {α : Type} : Except Fault α → Declare α
  | .ok a => pure a
  | .error f => throw f

def checkOpen : Declare Unit := do
  if (← get).built.isSome then throw .alreadyBuilt

/-! ## Rules -/

def addRule (call : RuleCall) : Declare Rule := do
  let (rule, registry) ← liftFault ((← get).registry.add call)
  modify ({ · with registry })
  return rule

def addRuleWithin (scope : Scope) (call : RuleCall) : Declare Rule := do
  let (rule, registry) ← liftFault ((← get).registry.addWithin scope call)
  modify ({ · with registry })
  return rule

def addRulesWithin (scope : Scope) : List RuleCall → Declare Unit
  | [] => pure ()
  | call :: calls => do
    let _ ← addRuleWithin scope call
    addRulesWithin scope calls

/-- A validation block is handed its scope and then adds its rules. -/
def validateWithin (scope : Scope) : Option (List RuleCall) → Declare Unit
  | .none => pure ()
  | .some calls => do
    modify fun d => { d with scopes := d.scopes ++ [scope] }
    addRulesWithin scope calls

def define (name : Value) (v : Validator) : Declare Unit := do
  let registry ← liftFault ((← get).registry.define name v)
  modify ({ · with registry })

/-! ## States and observers -/

/-- A text or what can be called is one action; a collection is a list of them. A record that is no
collection is taken for one that can be called. -/
def actions : Option Callback → Except Fault (List Callback)
  | .none => .ok []
  | .some (.script body) => .ok [.script body]
  | .some (.items cs) => .ok cs
  | .some (.value .null) => .ok []
  | .some (.value v) =>
    if v.isText || v.isCallable then .ok [.value v]
    else match v.elements? with
      | .some vs => .ok (vs.map .value)
      | .none => .error (.misuse (.notIterable v))

/-- The state is declared before its validation block runs. -/
def declareState (name : Wording) (enter after exit : Option Callback)
    (validate : Option (List RuleCall)) : Declare State := do
  checkOpen
  let name ← liftFault name
  if (← get).declares name then throw (.stateRedeclared name)
  let after ← liftFault (actions after)
  let state : State := { name, enter, after, exit }
  modify fun d => { d with states := d.states ++ [state] }
  validateWithin { state := .str name, column := (← get).config.column } validate
  return state

def observe (c : Callback) : Declare Unit := do
  checkOpen
  modify fun d => { d with observers := d.observers ++ [c] }

/-! ## Event blocks -/

def block (i : Nat) : Declare EventBlock := do
  match (← get).blocks[i]? with
  | .some b => return b
  | .none => throw (.unbound (toString i))

def setBlock (i : Nat) (b : EventBlock) : Declare Unit :=
  modify fun d => { d with blocks := d.blocks.set i b }

/-- Opens a block for an event whose name is not taken yet, and answers with its place. -/
def openEvent (name : Wording) (options : Table Value) : Declare Nat := do
  liftFault (checkOptions ["self", "name"] options)
  checkOpen
  let name ← liftFault name
  if ((← get).event? name).isSome then throw (.eventRedeclared name)
  let i := (← get).blocks.length
  modify fun d => { d with blocks := d.blocks ++ [{ name, options }] }
  return i

/-- A block that became an event can be neither entered nor added to. -/
def checkUnfrozen (b : EventBlock) : Declare Unit := do
  if b.event.isSome then throw (.eventFrozen b.name)

def enterBlock (i : Nat) : Declare Unit := do
  checkUnfrozen (← block i)

/-- The transition from one source, and the rules within its scope. -/
def addEdge (i : Nat) (source : Wording) (edges : Edges) : Declare Unit := do
  let b ← block i
  let source ← liftFault source
  let target ← liftFault edges.target
  let t : Transition := ⟨.str source, .str target, edges.guard⟩
  setBlock i { b with transitions := b.transitions ++ [t] }
  validateWithin ⟨.str source, .str b.name, (← get).config.column⟩ edges.validate

/-- The transitions from some sources, up to the first that has no text. -/
def addEdgesFrom (i : Nat) (edges : Edges) : List Wording → Declare Unit
  | [] => pure ()
  | source :: rest => do
    addEdge i source edges
    addEdgesFrom i edges rest

def addEdges (i : Nat) (edges : Edges) : Declare Unit := do
  checkUnfrozen (← block i)
  addEdgesFrom i edges (← liftFault edges.sources)

/-- A block that failed leaves no event. Any other is frozen first and then registered, unless the
draft was built or the name was taken in the meantime. -/
def leaveBlock (i : Nat) (failed : Bool) : Declare Unit := do
  let b ← block i
  unless failed do
    let event : Event := ⟨b.name, b.transitions, b.options⟩
    setBlock i { b with event := .some event }
    checkOpen
    if ((← get).event? event.name).isSome then throw (.eventRedeclared event.name)
    modify fun d => { d with events := d.events ++ [event] }

def addAllEdges (i : Nat) : List Edges → Declare Unit
  | [] => pure ()
  | edges :: rest => do
    addEdges i edges
    addAllEdges i rest

/-- A whole event block, which fails at its end if a fault is given. -/
def declareEvent (name : Wording) (options : Table Value) (edges : List Edges)
    (failure : Option Fault) : Declare Event := do
  let i ← openEvent name options
  enterBlock i
  addAllEdges i edges
  if let .some f := failure then throw f
  leaveBlock i false
  let b ← block i
  return b.event.getD ⟨b.name, b.transitions, b.options⟩

/-! ## Building -/

/-- The first end of a transition that is not declared, the source before the target. -/
def undeclaredEnd? (d : Definition) (t : Transition) : Option Value :=
  [t.source, t.target].find? fun v => match v with
    | .str s => !d.declares s
    | _ => true

/-- The first undeclared reference, in the order of events and of their transitions. -/
def undeclared? (d : Definition) : Option Fault :=
  d.events.findSome? fun e =>
    e.transitions.findSome? fun t =>
      (undeclaredEnd? d t).map (.undeclaredReference (.str e.name))

/-- What is wrong with a definition: the initial state before any reference. -/
def firstFault? (d : Definition) : Option Fault :=
  if d.declares d.config.initial then undeclared? d
  else .some (.initialUndeclared d.config.initial)

/-- A draft is built once; building it again gives the same definition. -/
def build : Declare Definition := do
  let d ← get
  match d.built with
  | .some definition => return definition
  | .none =>
    match firstFault? d.toDefinition with
    | .some f => throw f
    | .none => do
      set { d with built := .some d.toDefinition }
      return d.toDefinition

end Draft

end Lifecycle
