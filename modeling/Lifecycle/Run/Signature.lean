/-
What a value declares to take when it is called, as far as a validity check has
to know it: whether there is anything besides what it is called on.

A function tells this by itself (`Live.takesEvent`). A record does not, so it is
looked into: what it wraps counts in its place (`Host.unwrapped?`), a signature
that it claims to have cannot be read, and otherwise the method decides that
its class has for calls. Whatever is looked at may run scripts of the record's
class; where they, or the value, leave the question open, it is taken for one
that takes the event (`Host.takesEvent`).
-/
import Lifecycle.Run.Access

namespace Lifecycle

/-- The name under which a value claims to have a signature. -/
def signatureName : String := "__signature__"

/-- The name of what a value wraps. -/
def wrappedName : String := "__wrapped__"

namespace Host

/-- Asks for the class of a value some times over. -/
def askClasses (h : Host) (v : Value) : Nat → Run Unit
  | 0 => pure ()
  | n + 1 => do
    h.askClass v
    h.askClasses v n

/-- Reads some attributes of a value, whatever they are. -/
def readAll (h : Host) (v : Value) : List String → Run Unit
  | [] => pure ()
  | name :: rest => do
    let _ ← h.attrOf v (.str name)
    h.readAll v rest

/-- What a record wraps in the end, where one may wrap another; none if one of them wraps itself.
One that claims to have a signature is not unwrapped. -/
def unwrapped? (h : Host) (id : RecordId) : Nat → List RecordId → Run (Option Value)
  | 0, _ => return .none
  | n + 1, seen => do
    let v := Value.record id
    h.askClass v
    if !(← Run.as v (h.hasAttr (.str wrappedName))) then return .some v
    else if ← Run.as v (h.hasAttr (.str signatureName)) then return .some v
    else
      h.askClass v
      match ← Run.as v (h.require (.str wrappedName)) with
      | .record inner =>
        if seen.contains inner then return .none else h.unwrapped? inner n (inner :: seen)
      | w => return .some w

/-- Whether a record passes for a function that no script wrote: it can be bound but not written
through, or it is equal to the class of classes or to that of all records. -/
def passesForInnate (h : Host) (v : Value) : Run Bool := do
  h.askClasses v 4
  let line := (← get).lineage v
  if (line.member? "__get__").isSome && (line.member? "__set__").isNone then return true
  else
    h.askClasses v 4
    if ← h.agree (.cls Class.classes.owner) v then return true
    else h.agree (.cls Class.root.owner) v

/-- Whether a class declares for the making of its records that there is an event. -/
def makingTakesEvent (_ : Host) (id : ClassId) : Run Bool := do
  let l ← get
  let isClaimed := match l.classAttr? id signatureName with
    | .none | .some .null => false
    | .some _ => true
  return isClaimed || (l.lineageOf id).makingTakesEvent

mutual

/-- Looks into a value, up to a depth. -/
def lookForEvent (h : Host) : Nat → Value → Run Bool
  | 0, _ => return true
  | n + 1, v => do
    match v with
    | .record id =>
      if ((← get).lineage v).member? "__call__" |>.isNone then return true
      else
        h.askClass v
        match ← h.unwrapped? id ((← get).records.length + 1) [id] with
        | .none => return true
        | .some inner =>
          h.askClass inner
          lookInside h n inner
    | .cls id => h.makingTakesEvent id
    | v => return (← get).takesEvent v

/-- Looks into what a value wraps in the end. -/
def lookInside (h : Host) : Nat → Value → Run Bool
  | 0, _ => return true
  | n + 1, v => do
    match v with
    | .record _ =>
      let claimed ← h.attrOf v (.str signatureName)
      if !claimed.isNull then
        h.askClass claimed
        let _ ← h.spelled claimed
        return true
      else
        h.askClass (← h.attrOf v (.str "_partialmethod"))
        h.askClass v
        let callee := ((← get).lineage v).member? "__call__"
        if callee.isSome then
          h.askClass v
          h.readAll v ["__name__", "__code__", "__defaults__", "__kwdefaults__", "__annotations__"]
        if ← h.passesForInnate v then
          let _ ← h.passesForInnate v
          h.readAll v ["__text_signature__"]
          return true
        else
          h.askClasses v 2
          match ← h.special? "__call__" v with
          | .none | .some .null => return true
          | .some w => lookForEvent h n w
    | v => lookForEvent h n v

end

/-- Whether a validity check is to be given the event. -/
def takesEvent (h : Host) (v : Value) : Run Bool := do
  let depth := 2 * (← get).records.length + 4
  tryCatch (h.lookForEvent depth v) fun stop => if stop.isUnfit then return true else throw stop

end Host

end Lifecycle
