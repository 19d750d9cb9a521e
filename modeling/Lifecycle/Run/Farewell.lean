/-
The end of records: a record that nobody has any longer may do one last thing.

A record is had by whoever knows it by an id, by other records, classes and
written objects that hold it, and by the scripts under way, which have in hand
what they work with (`Live.held`). `Host.working` takes some values in hand
while something runs and keeps its answer; `Host.passing` keeps nothing. What
nobody has after that bids farewell at once (`Host.letGo`), and then what only
it had.

Where no class has anything for the end of its records, nobody is missed:
`working_run`, `passing_run`.
-/
import Lifecycle.Run.Special

namespace Lifecycle

/-- The name of the method that a record runs when nobody has it any longer. -/
def farewellName : String := "__del__"

namespace Live

/-- Whether any class has something for the end of its records. -/
def hasFarewells (l : Live) : Bool := l.classes.any (·.members.contains farewellName)

/-- All values that something has which is still there: scripts under way, the attributes of
records, the members of classes, and the objects that are written in programs. -/
def heldValues (l : Live) : List Value :=
  let isThere (id : RecordId) := (l.records[id]?.map (!·.isGone)).getD false
  l.held
    ++ (((List.range l.records.length).filter isThere).flatMap fun id =>
      [.obj (l.attrsOf id).entries, .obj (l.slotsOf id).entries])
    ++ (l.classes.flatMap fun c => c.members.entries.filterMap fun (_, m) =>
      match m with
      | .value v => .some v
      | _ => .none)
    ++ l.shelf.objects.filterMap fun (id, t) =>
      match id with
      | .literal _ => .some (.obj t.entries)
      | _ => .none

/-- The records that nobody has any longer and that were not told so. -/
def forsaken (l : Live) (isNamed : RecordId → Bool) : List RecordId :=
  let held := l.heldValues.map l.settle
  (List.range l.records.length).filter fun id =>
    match l.records[id]? with
    | .some r => !r.isGone && !isNamed id && !held.any (·.mentions id)
    | .none => false

end Live

namespace Host

/-- Lets a record run what its class has for the end. What goes wrong there troubles nobody. -/
def bidFarewell (h : Host) (id : RecordId) : Run Unit := do
  tryCatch (do let _ ← h.ask farewellName (.record id) []) fun _ => pure ()
  modify fun l => { l with records := l.records.modify id ({ · with isGone := true }) }

/-- Lets go of some records and of those that nobody has, at most `n` of them. One goes after the
other, each followed by what only it had. -/
def letGoOf (h : Host) : Nat → List RecordId → Run Unit
  | 0, _ => pure ()
  | n + 1, waiting => do
    let l ← get
    let held := l.held
    let l := { l with held := waiting.map Value.record ++ held }
    match l.forsaken h.isNamed ++ waiting with
    | [] => pure ()
    | id :: rest => do
      set { l with held := (id :: rest).map Value.record ++ held }
      h.bidFarewell id
      modify ({ · with held })
      h.letGoOf n rest

/-- Lets go of all records that nobody has. -/
def letGo (h : Host) : Run Unit := do
  let l ← get
  if l.hasFarewells then h.letGoOf l.records.length [] else pure ()

/-- Runs something with some values in hand, and keeps of all that it had in hand only what is
`kept`. -/
def inHand {α : Type} (h : Host) (vs : List Value) (kept : α → List Value) (act : Run α) :
    Run α := do
  let l ← get
  if l.hasFarewells then
    set { l with held := vs ++ l.held }
    let a ← act
    modify ({ · with held := kept a ++ l.held })
    h.letGo
    return a
  else act

/-- Runs something with some values in hand, and keeps the answer. -/
def working (h : Host) (vs : List Value) (act : Run Value) : Run Value := h.inHand vs ([·]) act

/-- Runs something that has no answer to be kept. -/
def passing {α : Type} (h : Host) (act : Run α) : Run α := h.inHand [] (fun _ => []) act

theorem inHand_run {α : Type} {h : Host} {l : Live} (hf : l.hasFarewells = false)
    (vs : List Value) (kept : α → List Value) (act : Run α) :
    (h.inHand vs kept act).run l = act.run l := by
  change (if l.hasFarewells = true then _ else act : Run α) l = act l
  rw [hf]
  rfl

theorem working_run {h : Host} {l : Live} (hf : l.hasFarewells = false) (vs : List Value)
    (act : Run Value) : (h.working vs act).run l = act.run l := inHand_run hf _ _ _

theorem passing_run {α : Type} {h : Host} {l : Live} (hf : l.hasFarewells = false)
    (act : Run α) : (h.passing act).run l = act.run l := inHand_run hf _ _ _

end Host

end Lifecycle
