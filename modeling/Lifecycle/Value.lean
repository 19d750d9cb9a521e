/-
Values: what attributes hold, what scripts compute with, and what names of
states, events and attributes are given as before they are read as text.

`Value.text` is the plain text of a value and `Value.quoted` its text inside
another one. A function or the running time has no text that could be written
down beforehand: what these show then is one text of many, in which a value
stands by its number. `Value.asText` keeps such a text apart from every string,
and `Value.wording` refuses numbers that are too long for a text.
`Value.same` is equality of values, where numbers and booleans are compared as
numbers, entries without regard to order, and times as points in time;
`Value.order` is an order of numbers, of texts and of lists. `Value.truthy` and
`Value.isBlank` are the two notions of emptiness.

`Value.any` looks for a value of some sort wherever it lies inside another.

Two values stand for what others may change: an object and a list that are
shared. What they hold by then, a run knows (`Live.settle`); one that is found
inside itself stays as it is.
-/
import Lifecycle.Text.Blank
import Lifecycle.Text.Quoted
import Lifecycle.Clock
import Lifecycle.Table

namespace Lifecycle

abbrev RecordId := Nat

abbrev MachineId := Nat

abbrev ClassId := Nat

/-- Three classes are there before all others: that of all records, that of lists, and that of
classes. -/
def isFirstClass (id : ClassId) : Bool := id < 3

/-- The name under which a class keeps what makes its records. -/
def makerName : String := "__new__"

/-- Which object or list it is, of those that several may hold. -/
inductive Identity where
  /-- The attributes of a record. -/
  | attributes (n : Nat)
  /-- An object written in a script or in a constructor. -/
  | literal (n : Nat)
  /-- A list that stands for the record of a run. -/
  | list (n : Nat)
  deriving Repr, DecidableEq, Inhabited

inductive Value where
  | null
  | bool (b : Bool)
  | int (n : Int)
  /-- The number `mantissa / 10 ^ places`. -/
  | decimal (mantissa : Int) (places : Nat)
  | str (s : String)
  | list (items : List Value)
  /-- A list that nobody can change. -/
  | tuple (items : List Value)
  | obj (entries : List (String × Value))
  /-- An object that others may hold and change; it began with these entries. -/
  | shared (id : Identity) (entries : List (String × Value))
  /-- A list that others may hold and change. -/
  | listAt (n : Nat)
  /-- Something that goes through such a list, forwards or backwards. -/
  | walker (n : Nat) (falls : Bool)
  | moment (r : Reading)
  | day (r : Reading)
  | record (id : RecordId)
  | machine (id : MachineId)
  | transition (source target guard : Value)
  | cls (id : ClassId)
  /-- A function that the class `owner` defines; `layers` tells how often the function was wrapped
  in another one by then. -/
  | routine (owner : ClassId) (name : String) (layers : Nat)
  /-- The same bound to the value that it was read from. -/
  | method (of : Value) (owner : ClassId) (name : String) (layers : Nat)
  /-- A function of which nothing is seen but that it can be called. -/
  | function
  /-- A value of which nothing is seen but its kind. -/
  | sealed (kind : String)
  /-- The answer of a comparison that leaves it to others. -/
  | undecided
  /-- The text of a value that has no fixed one: a string of which nothing more is known. -/
  | textOf (v : Value)
  /-- A value of which nothing is seen but how it is written inside another one. -/
  | verbatim (text : String)
  deriving Repr, Inhabited

namespace Value

instance : Coe String Value := ⟨.str⟩

def isNull : Value → Bool
  | .null => true
  | _ => false

/-- Zero, the empty text and the empty collections count as false. -/
def truthy : Value → Bool
  | .null => false
  | .bool b => b
  | .int n => n ≠ 0
  | .decimal m _ => m ≠ 0
  | .str s => s ≠ ""
  | .list items | .tuple items => !items.isEmpty
  | .obj entries | .shared _ entries => !entries.isEmpty
  | _ => true

/-- Null, white space and the empty collections are blank; a number never is. -/
def isBlank : Value → Bool
  | .null => true
  | .str s => Text.isBlank s
  | .list items | .tuple items => items.isEmpty
  | .obj entries | .shared _ entries => entries.isEmpty
  | _ => false

/-- The word for the kind of a record. -/
def recordKind : String := "Rec"

/-- The word for the kind of a class with something between brackets. It can be called like the
class. -/
def indexedKind : String := "types.GenericAlias"

/-- Whether a class has its own way to ask for an innate method. -/
def isWrapped (name : String) : Bool :=
  ["__add__", "__call__", "__contains__", "__delattr__", "__delitem__", "__eq__", "__ge__",
    "__getattribute__", "__gt__", "__hash__", "__iadd__", "__imul__", "__init__", "__iter__",
    "__le__", "__len__", "__lt__", "__mul__", "__ne__", "__repr__", "__rmul__", "__setattr__",
    "__setitem__", "__str__"].contains name

/-- The word for the kind of an innate method. -/
def innateKind (name : String) : String :=
  if isWrapped name then "method-wrapper" else "builtin_function_or_method"

/-- The word for the kind of an innate method that is bound to nothing. -/
def innateRoutineKind (name : String) : String :=
  if name = makerName then "builtin_function_or_method"
  else if isWrapped name then "wrapper_descriptor"
  else "method_descriptor"

/-- The word for the kind of a value in messages. -/
def kind : Value → String
  | .null => "NoneType"
  | .bool _ => "bool"
  | .int _ => "int"
  | .decimal _ _ => "float"
  | .str _ | .textOf _ => "str"
  | .list _ | .listAt _ => "list"
  | .walker _ falls => if falls then "list_reverseiterator" else "list_iterator"
  | .tuple _ => "tuple"
  | .obj _ | .shared _ _ => "dict"
  | .moment _ => "datetime.datetime"
  | .day _ => "datetime.date"
  | .record _ => recordKind
  | .machine _ => "Machine"
  | .transition _ _ _ => "Transition"
  | .cls _ | .verbatim _ => "type"
  | .routine owner name _ => if isFirstClass owner then innateRoutineKind name else "function"
  | .method _ owner name _ => if isFirstClass owner then innateKind name else "method"
  | .function => "function"
  | .sealed kind => kind
  | .undecided => "NotImplementedType"

/-- The name of a class. -/
def className : ClassId → String
  | 0 => "object"
  | 1 => "list"
  | 2 => "type"
  | _ => recordKind

/-- What a value is called whose attributes are asked for. -/
def phrase : Value → String
  | .cls id => "type object '" ++ className id ++ "'"
  | v => "'" ++ v.kind ++ "' object"

/-- The value that stands in the way of using this one as a key of a map, if one does. -/
def unhashable? : Value → Option Value
  | .list items => .some (.list items)
  | .obj entries => .some (.obj entries)
  | .shared id entries => .some (.shared id entries)
  | .listAt n => .some (.listAt n)
  | .transition source target _ => source.unhashable? <|> target.unhashable?
  | _ => .none

/-- The elements of a value that can be gone through: a text's characters, an object's keys. -/
def elements? : Value → Option (List Value)
  | .str s => .some (s.toList.map fun c => .str (String.singleton c))
  | .list items | .tuple items => .some items
  | .obj entries | .shared _ entries => .some (entries.map fun (k, _) => .str k)
  | _ => .none

/-! ## Inside a value -/

mutual

/-- Whether a value is of some sort, or another one that lies in it. -/
def any (p : Value → Bool) : Value → Bool
  | .list items => p (.list items) || anyItem p items
  | .tuple items => p (.tuple items) || anyItem p items
  | .obj entries => p (.obj entries) || anyEntry p entries
  | .shared id entries => p (.shared id entries) || anyEntry p entries
  | .transition s t g => p (.transition s t g) || any p s || any p t || any p g
  | .method of owner name layers => p (.method of owner name layers) || any p of
  | v => p v

def anyItem (p : Value → Bool) : List Value → Bool
  | [] => false
  | v :: vs => any p v || anyItem p vs

def anyEntry (p : Value → Bool) : List (String × Value) → Bool
  | [] => false
  | (_, v) :: es => any p v || anyEntry p es

end

/-- Whether a value is nothing, a number or a text. -/
def isPlain : Value → Bool
  | .null | .bool _ | .int _ | .decimal _ _ | .str _ | .textOf _ => true
  | _ => false

def isText : Value → Bool
  | .str _ | .textOf _ => true
  | _ => false

/-- Whether a value can be called, a record aside of which only its class knows. -/
def isCallable : Value → Bool
  | .record _ | .cls _ | .routine _ _ _ | .method _ _ _ _ | .function => true
  | .sealed kind => kind == indexedKind
  | _ => false

def isRecord : Value → Bool
  | .record _ => true
  | _ => false

/-- Whether there is no record in a value, so that nobody has a say in what it is. -/
def isInert (v : Value) : Bool := !v.any isRecord

/-- Whether a record is found in a value. -/
def mentions (id : RecordId) (v : Value) : Bool :=
  v.any fun w => match w with
    | .record i => i == id
    | _ => false

/-! ## Equality -/

/-- The denominator of a number with `places` decimal places. -/
def powerOfTen (places : Nat) : Nat := Nat.pow 10 places

/-- Whether a value is the number with mantissa `m` and `p` decimal places. -/
def numberIs (m : Int) (p : Nat) : Value → Bool
  | .bool b => m = (if b then 1 else 0) * powerOfTen p
  | .int n => m = n * powerOfTen p
  | .decimal m' p' => m * powerOfTen p' = m' * powerOfTen p
  | _ => false

mutual

def same : Value → Value → Bool
  | .null, b => b.isNull
  | .bool p, b => b.numberIs (if p then 1 else 0) 0
  | .int n, b => b.numberIs n 0
  | .decimal m p, b => b.numberIs m p
  | .str s, b => match b with | .str t => s == t | _ => false
  | .list xs, b => match b with | .list ys => sameItems xs ys | _ => false
  | .tuple xs, b => match b with | .tuple ys => sameItems xs ys | _ => false
  | .obj xs, b => match b with
    | .obj ys | .shared _ ys => xs.length == ys.length && sameEntries xs ys
    | _ => false
  | .shared i xs, b => match b with
    | .obj ys => xs.length == ys.length && sameEntries xs ys
    | .shared j ys => i == j || (xs.length == ys.length && sameEntries xs ys)
    | _ => false
  | .listAt n, b => match b with | .listAt m => n == m | _ => false
  | .walker n _, b => match b with | .walker m _ => n == m | _ => false
  | .moment r, b => match b with | .moment r' => r.same r' | _ => false
  | .day r, b => match b with | .day r' => r.sameDay r' | _ => false
  | .record i, b => match b with | .record j => i == j | _ => false
  | .machine i, b => match b with | .machine j => i == j | _ => false
  | .transition s t _, b => match b with
    | .transition s' t' _ => same s s' && same t t'
    | _ => false
  | .cls i, b => match b with | .cls j => i == j | _ => false
  | .routine o n l, b => match b with
    | .routine o' n' l' => o == o' && n == n' && l == l'
    | _ => false
  | .method v o n l, b => match b with
    | .method v' o' n' l' => same v v' && o == o' && n == n' && l == l'
    | _ => false
  | .function, b => match b with | .function => true | _ => false
  | .sealed k, b => match b with | .sealed k' => k == k' | _ => false
  | .undecided, b => match b with | .undecided => true | _ => false
  | .textOf v, b => match b with | .textOf w => same v w | _ => false
  | .verbatim s, b => match b with | .verbatim t => s == t | _ => false

def sameItems : List Value → List Value → Bool
  | [], ys => ys.isEmpty
  | x :: xs, ys => match ys with | y :: ys => same x y && sameItems xs ys | [] => false

/-- Every entry of the first list has its like in the second. -/
def sameEntries : List (String × Value) → List (String × Value) → Bool
  | [], _ => true
  | (k, x) :: xs, ys =>
    (match ys.lookup k with | .some y => same x y | .none => false) && sameEntries xs ys

end

@[simp] theorem same_str (s t : String) : same (.str s) (.str t) = (s == t) := by simp [same]

@[simp] theorem same_null_left (v : Value) : same .null v = v.isNull := by simp [same]

/-! ## Order -/

/-- The mantissa and the decimal places of a number. -/
def number? : Value → Option (Int × Nat)
  | .bool b => .some (if b then 1 else 0, 0)
  | .int n => .some (n, 0)
  | .decimal m p => .some (m, p)
  | _ => .none

mutual

/-- How two values are ordered, or two values within them that have no order. Lists are ordered by
their first items that differ. -/
def order : Value → Value → Except (Value × Value) Ordering
  | .str s, b => match b with
    | .str t => .ok (compare s t)
    | _ => .error (.str s, b)
  | .list xs, b => match b with
    | .list ys => orderItems xs ys
    | _ => .error (.list xs, b)
  | .tuple xs, b => match b with
    | .tuple ys => orderItems xs ys
    | _ => .error (.tuple xs, b)
  | a, b => match a.number?, b.number? with
    | .some (m, p), .some (n, q) => .ok (compare (m * powerOfTen q) (n * powerOfTen p))
    | _, _ => .error (a, b)

def orderItems : List Value → List Value → Except (Value × Value) Ordering
  | [], ys => .ok (if ys.isEmpty then .eq else .lt)
  | x :: xs, ys => match ys with
    | [] => .ok .gt
    | y :: ys => if same x y then orderItems xs ys else order x y

end

/-! ## Text -/

/-- Some digits without idle zeros behind them. -/
def trimmedDigits (digits : List Char) : List Char := (digits.reverse.dropWhile (· == '0')).reverse

/-- A decimal in full, with at least one digit after the point. -/
def plainDecimalText (m p : Nat) : String :=
  let digits := Nat.toDigits 10 (m % powerOfTen p)
  let places := trimmedDigits (List.replicate (p - digits.length) '0' ++ digits)
  toString (m / powerOfTen p) ++ "." ++ String.ofList (if places.isEmpty then ['0'] else places)

/-- Some digits, the first before the point, and the power of ten that they are multiplied by. -/
def scientificText (digits : List Char) (exponent : Int) : String :=
  let front := String.ofList (digits.take 1)
  let places := digits.drop 1
  let size := toString exponent.natAbs
  front ++ (if places.isEmpty then "" else "." ++ String.ofList places)
    ++ "e" ++ (if exponent < 0 then "-" else "+") ++ (if size.length < 2 then "0" else "") ++ size

/-- A decimal without idle zeros. One that is very small or very large shows its power of ten. -/
def decimalText (m : Int) (p : Nat) : String :=
  let digits := Nat.toDigits 10 m.natAbs
  let exponent : Int := digits.length - 1 - p
  (if m < 0 then "-" else "")
    ++ if m = 0 ∨ -4 ≤ exponent ∧ exponent < 16 then plainDecimalText m.natAbs p
      else scientificText (trimmedDigits digits) exponent

example : decimalText (-50) 3 = "-0.05" := by cbv

example : decimalText 10 6 = "1e-05" := by cbv

/-- What a class says when it is asked for its text. -/
def classText (name : String) : String := "<class '" ++ name ++ "'>"

/-- What a thing without a text of its own shows: its kind and which one it is. -/
def placeText (kind : String) (n : Nat) : String := "<" ++ kind ++ " object at " ++ toString n ++ ">"

mutual

/-- The text of a value as it stands inside a list. -/
def quoted : Value → String
  | .null => "None"
  | .bool b => if b then "True" else "False"
  | .int n => toString n
  | .decimal m p => decimalText m p
  | .str s => Text.quote s
  | .list items => Text.enclose "[" "]" (quotedItems items)
  | .tuple items => Text.encloseFixed (quotedItems items)
  | .obj entries => Text.enclose "\x7b" "\x7d" (quotedEntries entries)
  | .shared _ _ => "\x7b...\x7d"
  | .listAt _ => "[...]"
  | .moment r => r.quoted
  | .day r => r.quotedDay
  | .transition s t g =>
    Text.enclose "Transition(" ")"
      ["source=" ++ quoted s, "target=" ++ quoted t, "guard=" ++ quoted g]
  | .undecided => "NotImplemented"
  | .textOf v => Text.quote (quoted v)
  | .verbatim s => s
  | .walker n falls => placeText (Value.walker n falls).kind n
  | .record id => placeText recordKind id
  | .machine id => placeText (Value.machine id).kind id
  | .cls id => classText (className id)
  | .routine owner name layers =>
    "<function " ++ name ++ " at " ++ toString owner ++ "." ++ toString layers ++ ">"
  | .method of _ name _ => "<bound method " ++ name ++ " of " ++ quoted of ++ ">"
  | .function => "<function>"
  | .sealed kind => "<" ++ kind ++ ">"

def quotedItems : List Value → List String
  | [] => []
  | v :: vs => quoted v :: quotedItems vs

def quotedEntries : List (String × Value) → List String
  | [] => []
  | (k, v) :: es => (Text.quote k ++ ": " ++ quoted v) :: quotedEntries es

end

/-- The text of a value on its own: a string is its own text, and so are a time and a day. -/
def text : Value → String
  | .str s => s
  | .moment r => r.text
  | .day r => r.dayText
  | .textOf v => v.quoted
  | v => v.quoted

@[simp] theorem text_str (s : String) : (Value.str s).text = s := rfl

/-- Whether a value alone has no text that is the same in every run. -/
def lacksText : Value → Bool
  | .moment r | .day r => !r.isWritten
  | .listAt _ | .walker _ _ | .record _ | .machine _ | .cls _ | .routine _ _ _
  | .method _ _ _ _ | .function | .sealed _ | .textOf _ => true
  | _ => false

/-- Whether the text of a value is the same in every run. -/
def isFixed (v : Value) : Bool := !v.any lacksText

/-- Whole numbers have no text if they have more digits than this. -/
def digitsBound : Nat := 4300

/-- Whether a value is a number that is too long for a text. -/
def isLong : Value → Bool
  | .int n => Nat.pow 10 digitsBound ≤ n.natAbs
  | _ => false

/-- Whether there is a number in a value that is too long for a text. -/
def isTooLong (v : Value) : Bool := v.any isLong

@[simp] theorem isTooLong_str (s : String) : isTooLong (.str s) = false := by
  simp [isTooLong, any, isLong]

@[simp] theorem isTooLong_null : isTooLong .null = false := by simp [isTooLong, any, isLong]

@[simp] theorem isInert_str (s : String) : isInert (.str s) = true := by
  simp [isInert, any, isRecord]

@[simp] theorem isInert_null : isInert .null = true := by simp [isInert, any, isRecord]

/-- The text of a value as a value. No string is the same as a text that is not fixed. -/
def asText : Value → Value
  | .textOf v => .textOf v
  | v => if v.isFixed then .str v.text else .textOf v

@[simp] theorem asText_str (s : String) : (Value.str s).asText = .str s := by
  simp [asText, isFixed, any, lacksText]

theorem asText_cases (v : Value) : (∃ s, v.asText = .str s) ∨ ∃ w, v.asText = .textOf w := by
  unfold asText
  split
  · exact .inr ⟨_, rfl⟩
  · split
    · exact .inl ⟨_, rfl⟩
    · exact .inr ⟨_, rfl⟩

/-- A text is its own text. -/
@[simp] theorem asText_asText (v : Value) : v.asText.asText = v.asText := by
  rcases asText_cases v with ⟨s, h⟩ | ⟨w, h⟩
  · rw [h, asText_str]
  · rw [h, asText]

/-- The state that a column shows: none if it holds null, and otherwise the text of what it
holds. -/
def asState (v : Value) : Value := if v.isNull then .null else v.asText

@[simp] theorem asState_null : Value.null.asState = .null := rfl

@[simp] theorem asState_str (s : String) : (Value.str s).asState = .str s := by
  simp [asState, isNull]

example :
    text (.list [.str "it's", .str "q\"", .null, .bool true])
      = "[\"it's\", 'q\"', None, True]" := by
  cbv

example : text (.obj [("k", .int 1)]) = "\x7b'k': 1\x7d" := by cbv

end Value

end Lifecycle
