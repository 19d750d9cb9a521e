/-
Innate methods: those that every record has without its class defining them,
those of a list, and those of a class.

A list plays the part of a record where a filter that a class defines by
itself is called on the class: there the script works on the list of records.
What the methods of a list need to know about its places is here, as far as
the items themselves have no say in it.

`Relation` is what two values can be compared by. `Relation.check` compares
values in which there is no record.
-/
import Lifecycle.Fault

namespace Lifecycle

/-- A relation by which two values are compared. -/
inductive Relation where
  | equal
  | different
  | less
  | atMost
  | more
  | atLeast
  deriving Repr, DecidableEq, Inhabited

namespace Relation

def symbol : Relation → String
  | equal => "=="
  | different => "!="
  | less => "<"
  | atMost => "<="
  | more => ">"
  | atLeast => ">="

/-- The name of the method by which a record decides on a relation to another value. -/
def method : Relation → String
  | equal => "__eq__"
  | different => "__ne__"
  | less => "__lt__"
  | atMost => "__le__"
  | more => "__gt__"
  | atLeast => "__ge__"

/-- The relation of the second value to the first. -/
def swapped : Relation → Relation
  | equal => equal
  | different => different
  | less => more
  | atMost => atLeast
  | more => less
  | atLeast => atMost

def holds : Relation → Ordering → Bool
  | equal, o => o.isEq
  | different, o => o.isNe
  | less, o => o.isLT
  | atMost, o => o.isLE
  | more, o => o.isGT
  | atLeast, o => o.isGE

/-- What the numbers of items decide already: collections of unequal size are not equal. -/
def bySize? (r : Relation) (m n : Nat) : Option Bool :=
  match r with
  | equal => if m = n then .none else .some false
  | different => if m = n then .none else .some true
  | _ => .none

/-- Whether a relation holds between two values, if they have an order; any two are equal or not. -/
def check (r : Relation) (a b : Value) : Except Fault Bool :=
  match r with
  | equal => .ok (a.same b)
  | different => .ok !(a.same b)
  | r =>
    match a.order b with
    | .ok o => .ok (r.holds o)
    | .error (v, w) => .error (.misuse (.unordered r.symbol v w))

end Relation

/-- The methods of a list that scripts can make use of. -/
inductive ListMethod where
  | append
  | clear
  | compare (r : Relation)
  | contains
  | copy
  | count
  | erase
  | extend
  | format
  /-- Extends the list and answers with it. -/
  | grow
  | index
  | insert
  | item
  | length
  | plus
  | pop
  /-- Forgets all items and takes others. -/
  | refill
  | remove
  /-- Repeats the list in its place and answers with it. -/
  | repeated
  | replace
  | reverse
  /-- The text of the list. -/
  | shown
  | size
  | sort
  /-- Something that goes through the list. -/
  | through (falls : Bool)
  | times
  deriving Repr, DecidableEq, Inhabited

inductive Innate where
  /-- The constructor that every class inherits in the end; it takes no arguments. -/
  | construct
  /-- What a record is made by, before its constructor runs. -/
  | make
  | readAttr
  | writeAttr
  | eraseAttr
  /-- The record's own attributes, null if there are none. -/
  | ownAttrs
  /-- The text of the record, which is not fixed. -/
  | shown
  /-- The text of the record in a format; it has only the plain one. -/
  | format
  /-- What a copy of the record is made from. -/
  | parts
  /-- The same by the rules of a certain version. -/
  | partsBy
  /-- A comparison that leaves all but identity to others. -/
  | compare (r : Relation)
  /-- One that does nothing. -/
  | idle
  /-- One that decides nothing. -/
  | undecided
  /-- How much room the record takes. -/
  | size
  /-- All names of attributes that are found on the record. -/
  | names
  /-- One of whose answer nothing is known but the kind. -/
  | unseen (arity : Nat) (kind : String)
  | list (method : ListMethod)
  /-- A class and those above it. -/
  | line
  /-- The classes right under one. -/
  | below
  /-- Whether a value is of a class. -/
  | covers
  /-- Whether a class is below one. -/
  | isAbove
  /-- What a class is filled from. -/
  | body
  /-- Makes a record. -/
  | callClass
  deriving Repr, DecidableEq, Inhabited

/-- Counts and positions have to be smaller than this. -/
def wordBound : Nat := 9223372036854775808

/-- A number that is within the bounds of counts and positions. -/
def checkWord (n : Int) : Except Fault Int :=
  if n < -wordBound ∨ wordBound ≤ n then .error .numberTooLarge else .ok n

/-- A list cannot have more items than this. -/
def lengthBound : Nat := 134217728

namespace ListMethod

/-- The place of a position that may be counted from the end, if the list has it. -/
def place? (items : List Value) (i : Int) : Option Nat :=
  let j := if i < 0 then i + items.length else i
  if 0 ≤ j ∧ j < items.length then .some j.toNat else .none

/-- The place before which an item goes; it is never outside the list. -/
def gap (items : List Value) (i : Int) : Nat :=
  min (if i < 0 then i + items.length else i).toNat items.length

/-- The place of an item that has to be there. -/
def placeOf (items : List Value) (i : Int) : Except Fault Nat :=
  match place? items i with
  | .some j => .ok j
  | .none => .error .positionMissing

/-- The items `n` times over. -/
def repeatedBy (items : List Value) (n : Int) : Except Fault (List Value) := do
  let n := (← checkWord n).toNat
  if lengthBound < items.length * n then throw .listTooLong
  return (List.replicate (if items.isEmpty then 0 else n) items).flatten

example : (repeatedBy [.int 1, .int 2] 2).toOption.map (·.length) = .some 4 := by decide

end ListMethod

end Lifecycle
