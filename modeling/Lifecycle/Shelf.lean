/-
Shelves: the objects and the lists that several may hold, each under its
identity and as it is by now, and what goes through such a list.

A list takes room for more items than it has, so that it need not do so for
every one that is put in (`Pile`).

`get?_put_self` says that what is written is what is found then.
`Shelf.settle` is what a value stands for by now: each object and each list in
it, however deep it lies, is replaced by what it holds. One that is found
inside itself is left there.
-/
import Lifecycle.Value

namespace Lifecycle

/-- A list and for how many items it has taken room. -/
structure Pile where
  items : List Value := []
  room : Nat := 0
  deriving Repr, Inhabited

namespace Pile

/-- How much room is taken at once for `n` items where there was none. -/
def firstRoom (n : Nat) : Nat := (n + 1) / 2 * 2

/-- How much room `old` items have once they are `new` ones: as much as before if that is enough and
not more than twice as much as needed, and else somewhat more than needed. -/
def roomFor (room old new : Nat) : Nat :=
  if new ≤ room ∧ room / 2 ≤ new then room
  else if new = 0 then 0
  else
    let more := (new + new / 8 + 6) / 4 * 4
    if more < 2 * new - old then (new + 3) / 4 * 4 else more

/-- With other items. -/
def put (p : Pile) (items : List Value) : Pile :=
  { items, room := roomFor p.room p.items.length items.length }

/-- A list that got its items one after the other. -/
def ofItems (items : List Value) : Pile :=
  { items, room := (List.range items.length).foldl (fun room n => roomFor room n (n + 1)) 0 }

/-- How many bytes it takes. -/
def size (p : Pile) : Nat := 40 + 8 * p.room

example : [0, 1, 4, 5, 9, 17].map (fun n => (ofItems (List.replicate n .null)).size)
    = [40, 72, 72, 104, 168, 232] := by decide

end Pile

/-- Something that goes through a list: where it is by now, if it has not come to the end. -/
structure Walker where
  list : Nat
  falls : Bool
  place : Option Nat
  deriving Repr, Inhabited

structure Shelf where
  objects : List (Identity × Table Value) := []
  /-- The lists, by their numbers. -/
  lists : List Pile := []
  walkers : List Walker := []
  /-- How many identities were given to the attributes of records. -/
  taken : Nat := 0
  deriving Repr, Inhabited

namespace Shelf

def get? (s : Shelf) (id : Identity) : Option (Table Value) := s.objects.lookup id

/-- The objects after `id` is given `t`: in its own place, or at the end. -/
def putIn (id : Identity) (t : Table Value) :
    List (Identity × Table Value) → List (Identity × Table Value)
  | [] => [(id, t)]
  | (i, u) :: rest => if id = i then (i, t) :: rest else (i, u) :: putIn id t rest

def put (s : Shelf) (id : Identity) (t : Table Value) : Shelf :=
  { s with objects := putIn id t s.objects }

/-- An identity that was not given before. -/
def fresh (s : Shelf) : Identity := .attributes s.taken

/-- The shelf once its fresh identity is given away. -/
def take (s : Shelf) : Shelf := { s with taken := s.taken + 1 }

def pileAt (s : Shelf) (n : Nat) : Pile := (s.lists[n]?).getD {}

/-- The items of a list. -/
def itemsAt (s : Shelf) (n : Nat) : List Value := (s.pileAt n).items

def putItems (s : Shelf) (n : Nat) (items : List Value) : Shelf :=
  { s with lists := s.lists.modify n (·.put items) }

/-- The shelf with a list that has neither items nor room. -/
def cleared (s : Shelf) (n : Nat) : Shelf := { s with lists := s.lists.set n {} }

/-- The shelf with another list at its end. -/
def withList (s : Shelf) (items : List Value) : Shelf :=
  { s with lists := s.lists ++ [.ofItems items] }

/-- The shelf with something that goes through a list from its first item on, or from its last one
back. -/
def withWalker (s : Shelf) (n : Nat) (falls : Bool) : Shelf :=
  let place := if falls then (s.itemsAt n).length - 1 else 0
  { s with walkers := s.walkers ++ [{ list := n, falls, place := .some place }] }

/-- The item that is reached next, and the shelf after that. What has come to the end once stays
there. -/
def advance (s : Shelf) (k : Nat) : Option Value × Shelf :=
  match s.walkers[k]? with
  | .none => (.none, s)
  | .some w =>
    let item? := w.place.bind fun i => (s.itemsAt w.list)[i]?
    let place := match item?, w.place with
      | .none, _ | _, .none => .none
      | .some _, .some 0 => if w.falls then .none else .some 1
      | .some _, .some (i + 1) => .some (if w.falls then i else i + 2)
    (item?, { s with walkers := s.walkers.set k { w with place } })

/-! ## Settling -/

mutual

/-- What a value stands for inside some objects, where at most `room` others can be looked up. -/
def settleIn (s : Shelf) (room : Nat) (around : List Identity) : Value → Value
  | .shared id entries =>
    if around.contains id then .shared id []
    else
      match s.get? id, room with
      | .none, room => .obj (settleEntries s room (id :: around) entries)
      | .some t, room + 1 => .obj (settleEntries s room (id :: around) t.entries)
      | .some _, 0 => .shared id []
  | .listAt n =>
    if around.contains (.list n) then .listAt n
    else
      match room with
      | room + 1 => .list (settleItems s room (.list n :: around) (s.itemsAt n))
      | 0 => .listAt n
  | .obj entries => .obj (settleEntries s room around entries)
  | .list items => .list (settleItems s room around items)
  | .tuple items => .tuple (settleItems s room around items)
  | v => v
  termination_by v => (room, sizeOf v)

def settleItems (s : Shelf) (room : Nat) (around : List Identity) : List Value → List Value
  | [] => []
  | v :: vs => settleIn s room around v :: settleItems s room around vs
  termination_by vs => (room, sizeOf vs)

def settleEntries (s : Shelf) (room : Nat) (around : List Identity) :
    List (String × Value) → List (String × Value)
  | [] => []
  | (name, v) :: es => (name, settleIn s room around v) :: settleEntries s room around es
  termination_by es => (room, sizeOf es)

end

/-- How many objects and lists can lie inside one another. -/
def room (s : Shelf) : Nat := s.objects.length + s.lists.length

/-- What a value stands for by now. -/
def settle (s : Shelf) (v : Value) : Value := s.settleIn s.room [] v

@[simp] theorem settle_str (s : Shelf) (text : String) : s.settle (.str text) = .str text := by
  simp [settle, settleIn]

@[simp] theorem settle_null (s : Shelf) : s.settle .null = .null := by simp [settle, settleIn]

@[simp] theorem settle_textOf (s : Shelf) (v : Value) : s.settle (.textOf v) = .textOf v := by
  simp [settle, settleIn]

/-! ## Laws of look-up -/

@[simp] theorem get?_put_self (s : Shelf) (id : Identity) (t : Table Value) :
    (s.put id t).get? id = .some t := by
  obtain ⟨objects, lists, walkers, taken⟩ := s
  simp only [get?, put]
  induction objects with
  | nil => simp [putIn]
  | cons e es ih =>
    obtain ⟨i, u⟩ := e
    by_cases h : id = i
    · simp [putIn, h]
    · have hb : (id == i) = false := by simpa using h
      simp [putIn, h, hb, List.lookup_cons, ih]

end Shelf

end Lifecycle
