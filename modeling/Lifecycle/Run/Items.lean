/-
The methods of a list on which a run works.

`ListMethod.run` says what each method answers and what it leaves in the list.
An answer may be the list itself, whatever it holds by the time it is looked
at. Items that are looked for are asked whether they are equal to what is
sought, in the order of the list; items that are sorted are asked which of two
is the lesser (`ListMethod.sorted`).
-/
import Lifecycle.Run.Special

namespace Lifecycle

namespace ListMethod

/-- The items of a list that others may change. -/
def itemsAt (n : Nat) : Run (List Value) := return (← get).shelf.itemsAt n

def put (n : Nat) (items : List Value) : Run Unit :=
  modify fun l => { l with shelf := l.shelf.putItems n items }

def clearAll (n : Nat) : Run Unit := modify fun l => { l with shelf := l.shelf.cleared n }

/-- Puts more items at the end of a list. -/
def more (n : Nat) (items : List Value) : Run Unit := modify fun l =>
  let p := l.shelf.pileAt n
  let room := if p.room = 0 then Pile.firstRoom items.length else p.room
  let lists := l.shelf.lists.set n ({ p with room }.put (p.items ++ items))
  { l with shelf := { l.shelf with lists } }

/-- The whole number that a value stands for, if it is to stand for one. -/
def number? (h : Host) (v : Value) : Run (Option Int) := do
  match v with
  | .int n => return .some n
  | .bool b => return .some (if b then 1 else 0)
  | v =>
    match ← h.special? "__index__" v with
    | .some _ => return .some (← h.integer v)
    | .none => return .none

/-- The place that a value names. -/
def placeAt (h : Host) (n : Nat) (v : Value) : Run Nat := do
  match ← number? h v with
  | .some i => Run.lift (placeOf (← itemsAt n) i)
  | .none => Run.fail (.misuse (.notPosition v))

/-- A bound of a stretch of the list. -/
def bound (h : Host) (n : Nat) (v : Value) : Run Nat := do
  match ← number? h v with
  | .some i => return gap (← itemsAt n) i
  | .none => Run.fail (.misuse (.notBound v))

/-! ## Searching -/

/-- Where the first item is that agrees with a value. -/
def find? (h : Host) (v : Value) : List Value → Run (Option Nat)
  | [] => return .none
  | w :: ws => do
    if ← h.agree w v then return .some 0
    else return (← find? h v ws).map (· + 1)

/-- How many items agree with a value. -/
def countOf (h : Host) (v : Value) : List Value → Run Nat
  | [] => return 0
  | w :: ws => do
    let agrees ← h.agree w v
    let n ← countOf h v ws
    return if agrees then n + 1 else n

/-- Where a value comes first from `start` on and before `stop`. -/
def search (h : Host) (n : Nat) (v : Value) (start stop : Nat) : Run Value := do
  match ← find? h v (((← itemsAt n).take stop).drop start) with
  | .some i => return .int (start + i)
  | .none => Run.fail (.itemMissing (← h.spelled v))

/-! ## Sorting -/

/-- Whether the first of two items is to come before the second. -/
def isLess (h : Host) (a b : Value) : Run Bool := do
  let answer ← h.compare .less a b
  h.truth answer

/-- How far a list goes on falling, or not falling, after an item, and the rest of it. -/
def stretch (h : Host) (falls : Bool) (last : Value) :
    List Value → Run (List Value × List Value)
  | [] => return ([], [])
  | v :: vs => do
    if (← isLess h v last) == falls then
      let (more, rest) ← stretch h falls v vs
      return (v :: more, rest)
    else return ([], v :: vs)

/-- Where a value goes in the part of a sorted list from `low` on and before `high`: behind all
items that it is not less than, found by halving. -/
def placeFor (h : Host) (sorted : List Value) (v : Value) (low high : Nat) : Run Nat :=
  if low < high then do
    let middle := low + (high - low) / 2
    if ← isLess h v (sorted.getD middle .null) then placeFor h sorted v low middle
    else placeFor h sorted v (middle + 1) high
  else return low
  termination_by high - low

/-- Puts the items of a list into a sorted one, each behind those that it is not less than. -/
def insertAll (h : Host) (sorted : List Value) : List Value → Run (List Value)
  | [] => return sorted
  | v :: vs => do
    let i ← placeFor h sorted v 0 sorted.length
    insertAll h (sorted.insertIdx i v) vs

/-- The items in ascending order. What is sorted or reversed at the beginning is left together, and
all others are put in one by one. -/
def sorted (h : Host) : List Value → Run (List Value)
  | [] => return []
  | [v] => return [v]
  | v :: w :: rest => do
    let falls ← isLess h w v
    let (more, rest) ← stretch h falls w rest
    let start := v :: w :: more
    insertAll h (if falls then start.reverse else start) rest

/-! ## Methods -/

/-- The text of a list. -/
def text (h : Host) (n : Nat) : Run Value := return (← h.spelled (.listAt n)).asText

/-- What a method answers when it is called on a list. -/
def run (h : Host) (n : Nat) (m : ListMethod) (args : List Value) : Run Value := do
  let items ← itemsAt n
  let itself := Value.listAt n
  match m, args with
  | append, [v] => put n (items ++ [v]); return .null
  | clear, [] => clearAll n; return .null
  | compare r, [v] =>
    match ← Run.settle v with
    | .list _ => h.compare r itself v
    | _ => return .undecided
  | contains, [v] => return .bool (← find? h v items).isSome
  | copy, [] => return .list items
  | count, [v] => return .int (← countOf h v items)
  | erase, [i] => put n (items.eraseIdx (← placeAt h n i)); return .null
  | extend, [v] => more n (← h.elements v); return .null
  | format, [.str ""] => text h n
  | format, [.str _] | format, [.textOf _] => Run.fail (.misuse (.format (.list items)))
  | format, [v] => Run.fail (.misuse (.notFormat v))
  | grow, [v] => more n (← h.elements v); return itself
  | index, [v] => search h n v 0 items.length
  | index, [v, i] =>
    let start ← bound h n i
    search h n v start items.length
  | index, [v, i, j] =>
    let start ← bound h n i
    let stop ← bound h n j
    search h n v start stop
  | insert, [i, v] => put n (items.insertIdx (gap items (← h.word i)) v); return .null
  | item, [i] => return items.getD (← placeAt h n i) .null
  | length, [] => return .int items.length
  | plus, [v] =>
    match ← Run.settle v with
    | .list more => return .list (items ++ more)
    | w => Run.fail (.misuse (.notList w))
  | pop, [] =>
    let j ← Run.lift (placeOf items (-1))
    put n (items.eraseIdx j)
    return items.getD j .null
  | pop, [i] =>
    let j ← Run.lift (placeOf items (← h.word i))
    put n (items.eraseIdx j)
    return items.getD j .null
  | refill, [] => clearAll n; return .null
  | refill, [v] =>
    clearAll n
    more n (← h.elements v)
    return .null
  | remove, [v] =>
    match ← find? h v items with
    | .some i => put n (items.eraseIdx i); return .null
    | .none => Run.fail .removalMissing
  | repeated, [i] => put n (← Run.lift (repeatedBy items (← h.word i))); return itself
  | replace, [i, v] => put n (items.set (← placeAt h n i) v); return .null
  | reverse, [] => put n items.reverse; return .null
  | shown, [] => text h n
  | size, [] => return .int ((← get).shelf.pileAt n).size
  | sort, [] => put n (← sorted h items); return .null
  | through falls, [] => Run.newWalker n falls
  | times, [i] => return .list (← Run.lift (repeatedBy items (← h.word i)))
  | _, _ => Run.fail (.misuse (.arguments "list"))

end ListMethod

end Lifecycle
