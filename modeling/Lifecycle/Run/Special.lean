/-
What records say about themselves: whether they count as true, how they are
written, how many things they hold, what they are equal to, what comes before
what, and what they hold one after the other.

A class may define a method for each of these; `Host.ask` calls it. Of two
values that are compared, the first is asked and then the second, which goes
first if its class is below that of the first one (`Host.compareRecords`).
Lists and objects are compared by what they hold (`Host.compareIn`). Where no
record has a say, a comparison is that of values: `Host.compare_of_inert`.
-/
import Lifecycle.Run

namespace Lifecycle

/-- How a class is shown: under the name of its module, if that is a text. -/
def Live.classText (l : Live) (id : ClassId) : String :=
  match (l.lineageOf id).head? with
  | .none => Value.classText (Value.className id)
  | .some layer =>
    match layer.members.get? "__module__" with
    | .some (.value (.str m)) =>
      if m = "builtins" then Value.classText (Value.className id)
      else Value.classText (m ++ "." ++ layer.writtenName)
    | _ => Value.classText (Value.className id)

/-- Whether the class of a value is below that of another. -/
def Live.isBelow (l : Live) (a b : Value) : Bool :=
  l.owner a != l.owner b && (l.lineage a).has (l.owner b)

/-- Whether two values are the same record. -/
def Value.isSelfsame : Value → Value → Bool
  | .record i, .record j => i == j
  | _, _ => false

/-- One more than a number. -/
def Value.succ : Value → Except Fault Value
  | .bool b => .ok (.int (if b then 2 else 1))
  | .int n => .ok (.int (n + 1))
  | .decimal m p => .ok (.decimal (m + powerOfTen p) p)
  | v => .error (.misuse (.notNumber v))

namespace Host

/-- A method of a value, if that is a record and its class defines one. -/
def special? (_ : Host) (name : String) (v : Value) : Run (Option Value) := do
  match v with
  | .record id =>
    let l ← get
    match (l.lineage v).defined? name with
    | .none => return .none
    | .some (_, .slot) =>
      match (l.slotsOf id).get? name with
      | .some w => return .some w
      | .none => Run.fail (.slotEmpty name)
    | .some (owner, m) => return .some (m.seen v (l.owner v) owner name)
  | _ => return .none

/-- What a method of a value answers, if that is a record and its class defines one. -/
def ask (h : Host) (name : String) (v : Value) (args : List Value) : Run (Option Value) := do
  match ← h.special? name v with
  | .none => return .none
  | .some method => return .some (← h.answer (.call method args))

/-! ## Numbers -/

/-- The whole number that a value stands for. -/
def integer (h : Host) : Value → Run Int
  | .int n => return n
  | .bool b => return if b then 1 else 0
  | v => do
    match ← h.ask "__index__" v [] with
    | .some (.int n) => return n
    | .some (.bool b) => return if b then 1 else 0
    | .some w => Run.fail (.misuse (.notIndex w))
    | .none => Run.fail (.misuse (.notInteger v))

/-- A number that is within the bounds of counts and positions. -/
def word (h : Host) (v : Value) : Run Int := do
  let n ← h.integer v
  Run.lift (checkWord n)

/-- How much a record tells that it holds, if it tells. -/
def length? (h : Host) (v : Value) : Run (Option Int) := do
  match ← h.ask "__len__" v [] with
  | .none => return .none
  | .some answer =>
    let n ← h.integer answer
    if n < 0 then Run.fail .lengthNegative
    else return .some (← Run.lift (checkWord n))

/-! ## Truth -/

/-- Whether a value counts as true by now. -/
def truth (h : Host) (v : Value) : Run Bool := do
  match ← h.ask "__bool__" v [] with
  | .some (.bool b) => return b
  | .some w => Run.fail (.misuse (.notTruth w))
  | .none =>
    match ← h.length? v with
    | .some n => return n ≠ 0
    | .none => return (← Run.settle v).truthy

/-- One more than a value; what counts as false counts as zero. -/
def successor (h : Host) (v : Value) : Run Value := do
  if ← h.truth v then
    match ← h.ask "__add__" v [.int 1] with
    | .none | .some .undecided => Run.lift (← Run.settle v).succ
    | .some w => return w
  else return .int 1

/-! ## Text -/

/-- A text that a method of a record answered with, or that text where nothing more is known of
it. -/
def textFrom (name : String) : Value → Run Value
  | .str s => return .str s
  | .textOf w => return .textOf w
  | w => Run.fail (.misuse (.notText name w))

mutual

/-- A value in which all that others have a say in is replaced by how it is written, as far as that
is fixed. -/
def spell (h : Host) : Value → Run Value
  | .int n => if (Value.int n).isLong then Run.fail .digitsExceeded else return .int n
  | .record id => do
    match ← h.ask "__repr__" (.record id) [] with
    | .none => return .record id
    | .some answer =>
      match ← textFrom "__repr__" answer with
      | .str s => return .verbatim s
      | _ => return .record id
  | .cls id => return .verbatim ((← get).classText id)
  | .routine owner name layers =>
    match Value.innateText? owner name with
    | .some text => return .verbatim text
    | .none => return .routine owner name layers
  | .method of owner name layers =>
    if isFirstClass owner then return .method of owner name layers
    else do
      let shown ← spell h of
      let place := ((← get).function? owner name layers).bind (·.functionAttr? name "__qualname__")
      match place, shown.isFixed with
      | .some (.str place), true =>
        return .verbatim ("<bound method " ++ place ++ " of " ++ shown.quoted ++ ">")
      | _, _ => return .method of owner name layers
  | .transition source target guard => do
    let source ← spell h source
    let target ← spell h target
    let guard ← spell h guard
    return .transition source target guard
  | .list items => do
    let items ← spellAll h items
    return .list items
  | .tuple items => do
    let items ← spellAll h items
    return .tuple items
  | .obj entries => do
    let entries ← spellEntries h entries
    return .obj entries
  | v => return v

def spellAll (h : Host) : List Value → Run (List Value)
  | [] => return []
  | v :: vs => do
    let v ← spell h v
    let vs ← spellAll h vs
    return v :: vs

def spellEntries (h : Host) : List (String × Value) → Run (List (String × Value))
  | [] => return []
  | (name, v) :: es => do
    let v ← spell h v
    let es ← spellEntries h es
    return (name, v) :: es

end

/-- How a value is written inside another one by now. -/
def spelled (h : Host) (v : Value) : Run Value := do
  let v ← Run.settle v
  h.spell v

/-- The text of a value by now. The class of a record may have a text for it, or else a way to write
it that is taken for one. -/
def asText (h : Host) (v : Value) : Run Value := do
  match ← h.ask "__str__" v [] with
  | .some answer => textFrom "__str__" answer
  | .none =>
    match ← h.ask "__repr__" v [] with
    | .some answer => textFrom "__str__" answer
    | .none => return (← h.spelled v).asText

/-- The texts of some values. -/
def asTexts (h : Host) : List Value → Run (List Value)
  | [] => return []
  | v :: vs => do
    let v ← h.asText v
    let vs ← h.asTexts vs
    return v :: vs

/-- What a run says of itself that stopped. The class of a record has a say in it that something was
raised with. -/
def message (h : Host) : Stop → Run String
  | .exhausted => return "maximum recursion depth exceeded"
  | .fault f =>
    match f.saying with
    | .words text => return text
    | .value v => return (← h.asText v).text
    | .key v => return (← h.spelled v).quoted

/-- The state that a column shows by now which holds `v`. -/
def asState (h : Host) (v : Value) : Run Value :=
  if v.isNull then return .null else h.asText v

theorem spell_str (h : Host) (s : String) : h.spell (.str s) = pure (.str s) := by
  simp only [spell]

theorem spelled_str (h : Host) (s : String) : h.spelled (.str s) = pure (.str s) := by
  funext l
  change h.spell (l.settle (.str s)) l = _
  rw [Live.settle_str, spell_str]

theorem asText_str (h : Host) (s : String) : h.asText (.str s) = pure (.str s) := by
  rw [asText, spelled_str]
  change (pure (Value.str s).asText : Run Value) = _
  rw [Value.asText_str]

@[simp] theorem asState_null (h : Host) : h.asState .null = pure .null := rfl

@[simp] theorem asState_str (h : Host) (s : String) : h.asState (.str s) = pure (.str s) :=
  h.asText_str s

/-! ## Comparison -/

/-- What every record says about a relation to another value unless its class has something else to
say: it is equal to itself, and what it is equal to is not different. -/
def innateVerdict (h : Host) (r : Relation) (a b : Value) : Run Value := do
  match r with
  | .equal => return if a.isSelfsame b then .bool true else .undecided
  | .different =>
    match ← h.ask Relation.equal.method a [b] with
    | .none => return if a.isSelfsame b then .bool false else .undecided
    | .some .undecided => return .undecided
    | .some answer => return .bool !(← h.truth answer)
  | _ => return .undecided

/-- What the first of two values says about a relation to the second. -/
def verdict (h : Host) (r : Relation) (a b : Value) : Run Value := do
  match ← h.ask r.method a [b] with
  | .some answer => return answer
  | .none => h.innateVerdict r a b

/-- Compares two values of which one is a record. -/
def compareRecords (h : Host) (r : Relation) (a b : Value) : Run Value := do
  let direct := h.verdict r a b
  let reverse := h.verdict r.swapped b a
  let isReversed := (← get).isBelow b a
  match ← if isReversed then reverse else direct with
  | .undecided =>
    match ← if isReversed then direct else reverse with
    | .undecided =>
      match r with
      | .equal => return .bool (a.isSelfsame b)
      | .different => return .bool !(a.isSelfsame b)
      | r => Run.fail (.misuse (.unordered r.symbol a b))
    | answer => return answer
  | answer => return answer

/-- Compares two values neither of which holds others, or which are of different kinds. -/
def compareAlone (h : Host) (r : Relation) (a b : Value) : Run Value :=
  if a.isRecord || b.isRecord then h.compareRecords r a b
  else return .bool (← Run.lift (r.check a b))

mutual

/-- Compares two values as they are by now: lists by the first items that differ, objects by their
entries. -/
def compareIn (h : Host) (r : Relation) : Value → Value → Run Value
  | .list xs, b =>
    match b with
    | .list ys =>
      match r.bySize? xs.length ys.length with
      | .some answer => return .bool answer
      | .none => compareItems h r xs ys
    | b => h.compareAlone r (.list xs) b
  | .tuple xs, b =>
    match b with
    | .tuple ys =>
      match r.bySize? xs.length ys.length with
      | .some answer => return .bool answer
      | .none => compareItems h r xs ys
    | b => h.compareAlone r (.tuple xs) b
  | .obj xs, b =>
    match r, b with
    | .equal, .obj ys =>
      if xs.length = ys.length then return .bool (← compareEntries h xs ys)
      else return .bool false
    | .different, .obj ys =>
      if xs.length = ys.length then return .bool !(← compareEntries h xs ys)
      else return .bool true
    | r, b => h.compareAlone r (.obj xs) b
  | a, b => h.compareAlone r a b

def compareItems (h : Host) (r : Relation) : List Value → List Value → Run Value
  | [], ys => return .bool (r.holds (if ys.isEmpty then .eq else .lt))
  | x :: xs, ys =>
    match ys with
    | [] => return .bool (r.holds .gt)
    | y :: ys => do
      let agree ← if x.isSelfsame y then pure true else h.truth (← compareIn h .equal x y)
      if agree then compareItems h r xs ys
      else match r with
        | .equal => return .bool false
        | .different => return .bool true
        | r => compareIn h r x y

/-- Whether every entry of the first list has its like in the second. -/
def compareEntries (h : Host) : List (String × Value) → List (String × Value) → Run Bool
  | [], _ => return true
  | (name, x) :: xs, ys =>
    match ys.lookup name with
    | .none => return false
    | .some y => do
      let agree ← if x.isSelfsame y then pure true else h.truth (← compareIn h .equal x y)
      if agree then compareEntries h xs ys else return false

end

/-- Compares two values by now. What a record says about that itself is passed on. -/
def compare (h : Host) (r : Relation) (a b : Value) : Run Value := do
  let l ← get
  let a := l.settle a
  let b := l.settle b
  if a.isInert && b.isInert then return .bool (← Run.lift (r.check a b))
  else h.compareIn r a b

theorem compare_of_inert (h : Host) (r : Relation) {a b : Value} {l : Live}
    (ha : (l.settle a).isInert = true) (hb : (l.settle b).isInert = true) :
    (h.compare r a b).run l
      = (do return .bool (← Run.lift (r.check (l.settle a) (l.settle b))) : Run Value).run l := by
  change (if (l.settle a).isInert && (l.settle b).isInert then _ else _ : Run Value) l = _
  rw [ha, hb]
  rfl

/-- Whether two values differ by now. -/
def differ (h : Host) (a b : Value) : Run Bool := do
  let answer ← h.compare .different a b
  h.truth answer

/-- Whether two values are one, or equal by now. -/
def agree (h : Host) (a b : Value) : Run Bool := do
  if a.isSelfsame b then return true
  else
    let answer ← h.compare .equal a b
    h.truth answer

/-! ## Going through a value -/

/-- At most how many things a record can hold one after the other. -/
def walkBound : Nat := 1000

/-- Goes through what `next` answers with, from position `i` on, up to the end that it tells. -/
def walkBy {α : Type} (next : Nat → Run (Option Value)) (visit : Value → Run α) :
    Nat → Nat → Run (List α)
  | 0, _ => throw .exhausted
  | n + 1, i => do
    match ← next i with
    | .none => return []
    | .some v =>
      let first ← visit v
      let rest ← walkBy next visit n (i + 1)
      return first :: rest

def walkItems {α : Type} (visit : Value → Run α) : List Value → Run (List α)
  | [] => return []
  | v :: vs => do
    let first ← visit v
    let rest ← walkItems visit vs
    return first :: rest

/-- The next thing that a record goes through for another one. -/
def nextOf (h : Host) (walker : Value) (_ : Nat) : Run (Option Value) := do
  match ← h.special? "__next__" walker with
  | .none => Run.fail (.misuse (.notIterator walker))
  | .some method => return .some (← h.answer (.call method []))

/-- The thing that a record holds at a position, up to the first where it has none. -/
def itemOf (h : Host) (method : Value) (i : Nat) : Run (Option Value) :=
  tryCatch (do return .some (← h.answer (.call method [.int i]))) fun stop =>
    if stop.isBeyond then return .none else throw stop

/-- The next item of a list that something goes through. -/
def stepOf (k : Nat) (_ : Nat) : Run (Option Value) := fun l =>
  let (item?, shelf) := l.shelf.advance k
  .ok item? { l with shelf }

/-- Goes through what a value holds by now; `prepare` runs once it is clear that this can be done. A
record either names another one that goes through it or answers by position. -/
def walk {α : Type} (h : Host) (v : Value) (prepare : Run Unit) (visit : Value → Run α) :
    Run (List α) := do
  match ← h.special? "__iter__" v with
  | .some .null => Run.fail (.misuse (.notIterable v))
  | .some method =>
    let walker ← h.answer (.call method [])
    match ← h.special? "__next__" walker with
    | .none => Run.fail (.misuse (.notIterator walker))
    | .some _ =>
      prepare
      walkBy (h.nextOf walker) visit walkBound 0
  | .none =>
    match ← h.special? "__getitem__" v with
    | .some method =>
      prepare
      walkBy (h.itemOf method) visit walkBound 0
    | .none =>
      match ← Run.settle v with
      | .walker k _ => walkBy (stepOf k) visit walkBound 0
      | w =>
        match w.elements? with
        | .some vs => walkItems visit vs
        | .none => Run.fail (.misuse (.notIterable v))

/-- Asks a record how much it holds, or about how much. What it answers only has to make sense. -/
def askSize (h : Host) (v : Value) : Run Unit := do
  let told ← tryCatch (h.length? v) fun stop =>
    if stop.isMistyped then return .none else throw stop
  if told.isSome then pure ()
  else
    let hint ← tryCatch (h.ask "__length_hint__" v []) fun stop =>
      if stop.isMistyped then return .none else throw stop
    match hint with
    | .none | .some .undecided | .some (.bool _) => pure ()
    | .some (.int n) => if n < 0 then Run.fail .hintNegative else pure ()
    | .some w => Run.fail (.misuse (.notHint w))

/-- What a value holds by now, one after the other, for a list that takes it over. -/
def elements (h : Host) (v : Value) : Run (List Value) := h.walk v (h.askSize v) pure

end Host

end Lifecycle
