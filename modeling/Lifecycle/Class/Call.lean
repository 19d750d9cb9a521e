/-
Calling the members of a class on a record, and calling a class.

A script binds its arguments, a generated member goes to an engine of its
machine and with its clock. A constructor that a machine governs runs the constructor it wraps
and then, if that machine is the one that governs the record's class, settles
the record: a record without a state gets the initial one, and one that has a
state has it committed. Constructors alone are called with values by name.

Innate methods use the attributes of a record without asking its hooks.
-/
import Lifecycle.Engine
import Lifecycle.Run.Items

namespace Lifecycle

namespace Engine

/-- Leaves the record in a committed state. -/
def settle (e : Engine) : Run Unit := do
  if ← e.start then pure ()
  else e.commit (← e.declaredState)

/-- Whether the record's own errors are empty, in the words of its class. -/
def validByErrors (e : Engine) (event : Value) : Run Value := do
  let target ← e.host.require (.str "validation_errors")
  let errors ← e.host.answer (.call target [event])
  return .bool !(← e.host.truth errors)

/-- The state that a value has in the machine's column, null if it has none. -/
def stateOf (e : Engine) (v : Value) : Run Value := do
  let held ← e.host.attrOf v e.machine.config.column
  e.host.asState held

/-- A filter called with some values. -/
def selectValues (e : Engine) (among : Bool) (values : Value) (names : List Value) : Run Value := do
  let wanted ← Run.lift (e.machine.checkStates (← e.host.asTexts names))
  let held ← e.host.walk values (pure ()) fun v => do
    let state ← e.stateOf v
    return (v, state)
  return .list (Definition.select wanted among held)

/-- Calls a member that the engine's machine gave to a class. -/
def callGenerated (e : Engine) (what : Generated) (args : List Value) : Run Value :=
  match what, args with
  | .isState state, [] => return .bool (← e.isInState (.str state))
  | .fire event, [] => return .bool (← e.fire (.str event))
  | .nextTransitions, [event] => do
    return .list ((← e.nextTransitionsFor event).map Transition.toValue)
  | .nextTarget, [event] => e.nextTargetFor event
  | .errors, [] => return .list (← e.errors .null)
  | .errors, [event] => return .list (← e.errors event)
  | .valid, [] => e.validByErrors .null
  | .valid, [event] => e.validByErrors event
  | .inState, records :: names => e.selectValues true records names
  | .notInState, records :: names => e.selectValues false records names
  | _, _ => Run.fail (.misuse (what.misuse args.length))

end Engine

/-- The classes of what a run is on. -/
def Live.line (l : Live) : Lineage := l.lineage l.self

namespace Host

/-- An engine of the machine with a given id, which nobody watches. -/
def engine (h : Host) (id : MachineId) : Run Engine := do
  return { host := h, machine := ← Run.liftStop (h.machineAt id) }

/-- Settles the record for a machine, unless another one governs its class. -/
def settle (h : Host) (id : MachineId) : Run Unit := do
  if (← get).line.machine? == .some id then
    let e ← h.engine id
    e.settle
  else pure ()

end Host

/-- The name of the method that answers with what a record holds. -/
def stateName : String := "__getstate__"

/-- The name of the method that answers with what a copy of a record is made from. -/
def partsName : String := "__reduce__"

/-- Versions of the rules for copies are smaller than this. -/
def versionBound : Int := 2147483648

/-- The name that a governed constructor keeps for the record itself. -/
def selfName : String := "self"

namespace Host

/-! ## Innate methods -/

/-- Calls a method of what the run is on. -/
def callNamed (h : Host) (name : String) (args : List Value) : Run Value := do
  let target ← h.require (.str name)
  h.answer (.call target args)

/-- What a copy of the record is made from: how it is made, out of what, and its attributes. Lists
are not copied in this way, and neither are records that have places for single attributes, unless
their class says how. -/
def parts (h : Host) : Run Value := do
  let l ← get
  let cls := Value.cls (l.owner l.self)
  if isFirstClass (l.owner l.self) && l.owner l.self ≠ Class.root.owner then
    Run.fail (.misuse (.notCopied l.self))
  let state ← h.require (.str stateName)
  let isOwn := (l.line.defined? stateName).isSome
  if !isOwn && (← h.truth (← h.attr (.str slotsName))) then Run.fail (.misuse .slotsNotCopied)
  let state ← h.answer (.call state [])
  let maker := [.function, .tuple [cls, .cls Class.root.owner, .null]]
  return .tuple (if ← h.truth state then maker ++ [state] else maker)

/-- The same by later rules. -/
def laterParts (h : Host) : Run Value := do
  let state ← h.callNamed stateName []
  let l ← get
  return .tuple [.function, .tuple [.cls (l.owner l.self)], state, .null, .null]

/-- The same by the rules of a version, or as the class itself wants it. -/
def partsBy (h : Host) (version : Int) : Run Value := do
  if version < -versionBound ∨ versionBound ≤ version then Run.fail .numberTooLarge
  else if ((← get).line.defined? partsName).isSome then h.callNamed partsName []
  else if 2 ≤ version then h.laterParts
  else h.parts

/-- Those of some attributes that the record has. -/
def present (h : Host) : List String → Run (List (String × Value))
  | [] => return []
  | name :: rest => do
    match ← h.attr? (.str name) with
    | .none => h.present rest
    | .some v => return (name, v) :: (← h.present rest)

/-- The record's own attributes, null if there are none; beside them, if there is anything, what
stands in the places for single attributes. -/
def ownState (h : Host) : Run Value := do
  let l ← get
  match l.self with
  | .record id =>
    let state := if (l.attrsOf id).entries.isEmpty then .null else View.attributes.read l id
    let slots ← h.present l.line.slotNames
    return if slots.isEmpty then state else .tuple [state, .obj slots]
  | _ => return .null

/-- How the record is written, in the words of its class if it has some; they are not looked at. -/
def written (h : Host) : Run Value := do
  let self := (← get).self
  match ← h.ask "__repr__" self [] with
  | .some answer => return answer
  | .none => return (← h.spelled self).asText

/-- All names of attributes that are found on the record: its own, and those of its classes. -/
def names (h : Host) : Run Value := do
  let own ← h.shown (.str attributesAttribute)
  let l ← get
  let found := (match own with
    | .obj entries => entries.map (·.1)
    | _ => []) ++ l.line.flatMap (·.members.keys)
  return .list (found.eraseDups.map .str)

/-- A new record of a class, if all members of the class are defined. -/
def newRecord (h : Host) (cls : ClassId) : Run Value := do
  match ((← get).lineageOf cls).unfinished? with
  | .none => Run.newRecord cls
  | .some v =>
    let names ← ListMethod.sorted h (← h.elements v)
    match names.zipIdx.find? (!·.1.isText) with
    | .some (v, i) => Run.fail (.misuse (.notJoined i v))
    | .none => Run.fail (.misuse (.unfinished names))

/-- Makes a record of a class, or a list, without constructing it. -/
def make (h : Host) (owner : ClassId) (args : List Value) : Run Value := do
  match args with
  | [] => Run.fail (.misuse (.innateArguments makerName 0))
  | .cls cls :: rest =>
    let l ← get
    let line := l.lineageOf cls
    if owner = Class.lists.owner then
      if cls = Class.lists.owner then return .list [] else Run.fail (.misuse (.notMade (.cls cls)))
    else if isFirstClass cls && cls ≠ Class.root.owner then Run.fail (.misuse (.notMade (.cls cls)))
    else if !rest.isEmpty && (line.defined? makerName).isSome then
      Run.fail (.misuse (.arguments makerName))
    else if !rest.isEmpty && (line.defined? constructorName).isNone then
      Run.fail (.misuse .noArguments)
    else h.newRecord cls
  | v :: _ => Run.fail (.misuse (.notMade v))

/-- The constructor that every class inherits in the end. It takes no arguments, but where the class
makes its records by itself and has no other constructor, as those of plain values do. -/
def constructPlainly (_ : Host) (args : Arguments) : Run Value := do
  let l ← get
  let line := l.line
  if args.isEmpty || l.self.isPlain then return .null
  else if (line.defined? constructorName).isSome then Run.fail (.misuse .constructArguments)
  else if (line.defined? makerName).isSome then return .null
  else Run.fail (.misuse (.innateArguments constructorName args.positional.length))

/-- The classes right under the class that the run is on. -/
def below (_ : Host) : Run Value := do
  let l ← get
  match l.self with
  | .cls id =>
    let found := (List.range l.classes.length).filter fun other =>
      match l.classes[other]? with
      | .some c => c.bases.head? == .some id
      | .none => false
    return .list (found.map .cls)
  | _ => return .list []

/-- Whether a value is of the class that the run is on, or says so of itself. -/
def isOfClass (h : Host) (v : Value) : Run Bool := do
  let l ← get
  match l.self with
  | .cls id =>
    if l.owner v == id then return true
    else if (l.lineage v).has id then return true
    else
      match ← h.attrOf v (.str classAttribute) with
      | .cls other => return ((← get).lineageOf other).has id
      | _ => return id == Class.root.owner
  | _ => return false

end Host

namespace Innate

/-- Calls an innate method of the class `owner`. -/
def call (h : Host) (owner : ClassId) (name : String) (what : Innate) (args : List Value) :
    Run Value :=
  match what, args with
  | construct, args => h.constructPlainly { positional := args }
  | idle, [] => return .null
  | undecided, _ => return .undecided
  | make, args => h.make owner args
  | readAttr, [attr] => h.requireOwn attr
  | writeAttr, [.str attr, v] => do
    h.store attr v
    return .null
  | eraseAttr, [.str attr] => do
    h.discard attr
    return .null
  | writeAttr, [v, _] | eraseAttr, [v] => Run.fail (.misuse (.nameNotText v))
  | ownAttrs, [] => h.ownState
  | shown, [] => do
    let l ← get
    if name = "__str__" then h.written else return .textOf l.self
  | format, [.str ""] => do
    let l ← get
    h.asText l.self
  | format, [.str _] | format, [.textOf _] => do
    let l ← get
    Run.fail (.misuse (.format l.self))
  | format, [v] => Run.fail (.misuse (.notFormat v))
  | parts, [] => h.parts
  | partsBy, [v] => do
    let version ← h.integer v
    h.partsBy version
  | compare r, [v] => do
    let l ← get
    h.innateVerdict r l.self v
  | size, [] => do
    let l ← get
    return .int l.line.size
  | names, [] => h.names
  | unseen arity kind, args =>
    if arity = args.length then return .sealed kind
    else Run.fail (.misuse (.innateArguments name args.length))
  | list method, args => do
    let l ← get
    match l.self with
    | .listAt n => method.run h n args
    | v => Run.fail (.misuse (.notList v))
  | line, [] => do
    let l ← get
    match l.self with
    | .cls id => return .list ((l.lineageOf id).map (.cls ·.owner))
    | _ => return .list []
  | below, [] => h.below
  | covers, [v] => return .bool (← h.isOfClass v)
  | isAbove, [v] => do
    let l ← get
    match v, l.self with
    | .cls other, .cls id => return .bool ((l.lineageOf other).has id)
    | v, _ => Run.fail (.misuse (.notBelow v))
  | body, _ => return .obj []
  | callClass, args => do
    let l ← get
    h.answer (.call l.self args)
  | _, _ => Run.fail (.misuse (.innateArguments name args.length))

end Innate

/-! ## Members -/

/-- Calls a member that the class `owner` defines under a name; `base` runs the constructor of the
class above a given one. -/
def Member.call (h : Host) (name : String) (args : Arguments) (base : ClassId → Run Value)
    (owner : ClassId) : Member → Run Value
  | .value v => do
    let l ← get
    h.answer (.call (v.boundTo l.self) args.positional)
  | .method params body =>
    match params.bind? args with
    | .some vs => body.call h vs
    | .none => Run.fail (.misuse (params.misuse args))
  | .generated what id clock =>
    if args.named.entries.isEmpty then do
      let e ← h.engine id
      (e.timed clock).callGenerated what args.positional
    else Run.fail (.misuse (.arguments name))
  | .innate .construct => h.constructPlainly args
  | .innate what =>
    if args.named.entries.isEmpty then what.call h owner name args.positional
    else Run.fail (.misuse (.arguments name))
  | .view _ | .slot => Run.fail (.misuse (.notCallable .function))
  | .keywords callsBase sets =>
    if !args.positional.isEmpty then Run.fail (.misuse (.arguments name))
    else if callsBase then do
      let _ ← base owner
      h.setAttrs sets.entries
      return .null
    else do
      h.setAttrs (sets.merge args.named).entries
      return .null
  | .around before after => do
    let _ ← before.call h args.positional
    let _ ← base owner
    let _ ← after.call h args.positional
    return .null
  | .governed inner source id =>
    if args.named.contains selfName then Run.fail (.misuse (.repeatedOption selfName))
    else do
      let _ ← inner.call h name args base source
      h.settle id
      return .null

/-- Calls the nearest constructor of a line, or that of the class above `above`. -/
def Lineage.construct (h : Host) (args : Arguments) : Lineage → Option ClassId → Run Value
  | [], _ =>
    (Member.innate .construct).call h constructorName args (fun _ => return .null) Class.root.owner
  | layer :: rest, .some above =>
    Lineage.construct h args rest (if layer.owner == above then .none else .some above)
  | layer :: rest, .none =>
    match layer.members.get? constructorName with
    | .none => Lineage.construct h args rest .none
    | .some m =>
      let base (owner : ClassId) :=
        Lineage.construct h args rest (if layer.owner == owner then .none else .some owner)
      m.call h constructorName args base layer.owner

namespace Host

/-- Calls a member that one of the classes of what the run is on defines. -/
def callMember (h : Host) (owner : ClassId) (name : String) (args : Arguments) (m : Member) :
    Run Value := do
  let line := (← get).line
  m.call h name args (fun above => line.construct h args (.some above)) owner

/-- Calls a member that is bound to nothing: its first argument is what it runs on. What makes
records is given their class instead. -/
def callFree (h : Host) (owner : ClassId) (name : String) (args : Arguments) (m : Member) :
    Run Value :=
  match m, args.positional with
  | .innate .make, given => h.make owner given
  | m, self :: rest => do
    let self ← match self with
      | .list items => Run.newList items
      | v => pure v
    Run.as self (h.callMember owner name { args with positional := rest } m)
  | .method _ _, [] => Run.fail (.misuse (.tooFew Params.place selfName))
  | .generated what _ _, [] => Run.fail (.misuse (.tooFew what.place selfName))
  | _, [] => Run.fail (.misuse (.arguments name))

/-! ## Classes -/

/-- Constructs the record. A constructor is not to answer with a value; one that a machine governs
never does. -/
def construct (h : Host) (args : Arguments) : Run Unit := do
  let v ← (← get).line.construct h args .none
  if v.isNull then pure () else Run.fail (.misuse (.constructorAnswer v))

/-- Makes a record of a class, in the class's own way if it has one. -/
def create (h : Host) (cls : ClassId) (args : Arguments) : Run Value := do
  let line := (← get).lineageOf cls
  match line.defined? makerName with
  | .some (owner, m) =>
    h.callFree owner makerName { args with positional := .cls cls :: args.positional } m
  | .none =>
    if !args.isEmpty && (line.defined? constructorName).isNone then Run.fail (.misuse .noArguments)
    else h.newRecord cls

/-- A new list of what can be gone through, or an empty one. -/
def listOf (h : Host) : List Value → Run Value
  | [] => return .list []
  | [v] => return .list (← h.elements v)
  | _ => Run.fail (.misuse (.arguments "list"))

/-- The class of a value. -/
def classOf (_ : Host) : List Value → Run Value
  | [v] => do
    match (← get).classOf? v with
    | .some cls => return .cls cls
    | .none => return .verbatim (Value.classText v.kind)
  | _ => Run.fail (.misuse (.arguments "type"))

/-- Calls a class. What it makes is constructed if it is a record of that class. -/
def callClass (h : Host) (cls : ClassId) (args : Arguments) : Run Value := do
  if cls = Class.lists.owner then h.listOf args.positional
  else if cls = Class.classes.owner then h.classOf args.positional
  else
    let made ← h.create cls args
    h.working [made] do
      if made.isRecord && ((← get).lineage made).has cls then Run.as made (h.construct args)
      return made

end Host

end Lifecycle
