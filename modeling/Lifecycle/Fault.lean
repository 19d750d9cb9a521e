/-
Faults: the causes for which an operation fails, and their texts.

A fault names its cause, and `Fault.saying` is the one place where it is put into
words. Some say what they were raised with, and that may have no text: so to ask
for a text can fail as well (`Wording`). `Fault.isOrdinary` tells the faults that
an observer may raise without ending the run from those that end it.
-/
import Lifecycle.Value

namespace Lifecycle

/-- The kinds of fault that a script can raise by itself. -/
inductive Raised where
  | value
  | runtime
  | key
  | type
  | attribute
  | definition
  | boom
  /-- An error that no one is supposed to intercept. -/
  | fatal
  deriving Repr, DecidableEq

/-- Uses of a value that its kind does not allow. -/
inductive Misuse where
  | notCallable (v : Value)
  | nameNotText (v : Value)
  | unhashable (v : Value)
  | notIterable (v : Value)
  /-- A record is to be gone through by this. -/
  | notIterator (v : Value)
  | notNumber (v : Value)
  | notInteger (v : Value)
  /-- A method that tells which number a record stands for answered with this. -/
  | notIndex (v : Value)
  /-- A method that tells about how much a record holds answered with this. -/
  | notHint (v : Value)
  /-- The position of an item is no number. -/
  | notPosition (v : Value)
  /-- Where a search in a list begins or ends is no number. -/
  | notBound (v : Value)
  | notList (v : Value)
  /-- Two values were compared that have no order. -/
  | unordered (symbol : String) (a b : Value)
  /-- A list or a record is written in one way only. -/
  | format (v : Value)
  /-- A format was given as this. -/
  | notFormat (v : Value)
  /-- The attributes of a record were to be replaced by this. -/
  | notAttributes (v : Value)
  /-- This has no attributes that could be shown. -/
  | noAttributes (v : Value)
  /-- The class of a record was to be replaced by this. -/
  | notClass (v : Value)
  /-- The class of a record was to be replaced by one of another layout. -/
  | otherLayout
  /-- The class of a record was to be replaced where either class is fixed. -/
  | classFixed
  | classErased
  /-- An attribute of a class that cannot be changed was to be set. -/
  | memberFixed (cls : ClassId) (name : String)
  /-- An attribute of a class was to be deleted that every class has. -/
  | memberKept (name : String)
  /-- An attribute that every class has was to be replaced by this. -/
  | notMember (sort name given : String)
  /-- Only a class can be below another one. -/
  | notBelow (v : Value)
  /-- A record was to be made of this. -/
  | notMade (v : Value)
  /-- A class has no records while these members of it are not defined. -/
  | unfinished (names : List Value)
  /-- Among some texts stands this at a position. -/
  | notJoined (position : Nat) (v : Value)
  /-- A copy cannot be made of this. -/
  | notCopied (v : Value)
  /-- A copy cannot be made of a record that has places for single attributes. -/
  | slotsNotCopied
  /-- The written name of a class was given as this. -/
  | className (v : Value)
  /-- This name cannot stand in the body of a class. -/
  | classBody (name : String)
  /-- The names to which a class confines the attributes of its records hold this. -/
  | slot (v : Value)
  /-- A class makes room for something that its records have already. -/
  | slotTwice (name : String)
  | arguments (function : String)
  /-- A class that takes no arguments was given some. -/
  | noArguments
  /-- The constructor that every class inherits in the end was given arguments by another one. -/
  | constructArguments
  /-- An innate method of a record was called with a wrong number of arguments. -/
  | innateArguments (method : String) (given : Nat)
  /-- The place says where the function is written. -/
  | tooMany (place : String) (least most given : Nat)
  | tooFew (place parameter : String)
  /-- A method that gives the text of a record answered with this. -/
  | notText (method : String) (v : Value)
  /-- A method that tells whether a record counts as true answered with this. -/
  | notTruth (v : Value)
  /-- A constructor answered with a value. -/
  | constructorAnswer (v : Value)
  | unknownOption (name : String)
  | repeatedOption (name : String)
  | configAndOptions
  deriving Repr, Inhabited

namespace Misuse

/-- What adding one to a value that is no number says. -/
def notNumberText : Value → String
  | .str _ | .textOf _ => "can only concatenate str (not \"int\") to str"
  | .list _ | .listAt _ => "can only concatenate list (not \"int\") to list"
  | .tuple _ => "can only concatenate tuple (not \"int\") to tuple"
  | v => "unsupported operand type(s) for +: '" ++ v.kind ++ "' and 'int'"

/-- What a call with too many arguments says. -/
def tooManyText (place : String) (least most given : Nat) : String :=
  let allowed := if least = most then toString most
    else "from " ++ toString least ++ " to " ++ toString most
  place ++ "() takes " ++ allowed ++ " positional argument" ++ (if most = 1 then "" else "s")
    ++ " but " ++ toString given ++ (if given = 1 then " was given" else " were given")

/-- How many arguments some innate methods take that are no functions of their own. -/
def wrapped : String → Nat
  | "__hash__" | "__repr__" | "__str__" => 0
  | "__setattr__" => 2
  | _ => 1

/-- What a call of an innate method with a wrong number of arguments says. -/
def innateArgumentsText (method : String) (given : Nat) : String :=
  let place := Value.recordKind ++ "." ++ method ++ "()"
  if method = "__init__" then place ++ " takes exactly one argument (the instance to initialize)"
  else if method = "__new__" then "object.__new__(): not enough arguments"
  else if Value.innateKind method = "method-wrapper" then
    (if wrapped method = 2 then " " else "") ++ "expected " ++ toString (wrapped method)
      ++ (if wrapped method = 1 then " argument" else " arguments") ++ ", got " ++ toString given
  else
    place ++ " takes " ++ (if method = "__format__" ∨ method = "__reduce_ex__" then
      "exactly one argument" else "no arguments") ++ " (" ++ toString given ++ " given)"

def message : Misuse → String
  | notCallable v => "'" ++ v.kind ++ "' object is not callable"
  | nameNotText v => "attribute name must be string, not '" ++ v.kind ++ "'"
  | unhashable v => "unhashable type: '" ++ v.kind ++ "'"
  | notIterable v => "'" ++ v.kind ++ "' object is not iterable"
  | notIterator v => "iter() returned non-iterator of type '" ++ v.kind ++ "'"
  | notNumber v => notNumberText v
  | notInteger v => "'" ++ v.kind ++ "' object cannot be interpreted as an integer"
  | notIndex v => "__index__ returned non-int (type " ++ v.kind ++ ")"
  | notHint v => "__length_hint__ must be an integer, not " ++ v.kind
  | notPosition v => "list indices must be integers or slices, not " ++ v.kind
  | notBound _ => "slice indices must be integers or have an __index__ method"
  | notList v => "can only concatenate list (not \"" ++ v.kind ++ "\") to list"
  | unordered symbol a b =>
    "'" ++ symbol ++ "' not supported between instances of '" ++ a.kind ++ "' and '" ++ b.kind
      ++ "'"
  | format v => "unsupported format string passed to " ++ v.kind ++ ".__format__"
  | notFormat v => "__format__() argument must be str, not " ++ v.kind
  | notAttributes v => "__dict__ must be set to a dictionary, not a '" ++ v.kind ++ "'"
  | noAttributes _ => "vars() argument must have __dict__ attribute"
  | notClass v => "__class__ must be set to a class, not '" ++ v.kind ++ "' object"
  | otherLayout =>
    "__class__ assignment: '" ++ Value.recordKind ++ "' object layout differs from '"
      ++ Value.recordKind ++ "'"
  | classFixed => "__class__ assignment only supported for mutable types or ModuleType subclasses"
  | classErased => "can't delete __class__ attribute"
  | memberFixed cls name =>
    "cannot set '" ++ name ++ "' attribute of immutable type '" ++ Value.className cls ++ "'"
  | memberKept name =>
    "cannot delete '" ++ name ++ "' attribute of immutable type '" ++ Value.recordKind ++ "'"
  | notMember sort name given =>
    "can only assign " ++ sort ++ " to " ++ Value.recordKind ++ "." ++ name ++ ", not " ++ given
  | notBelow _ => "issubclass() arg 1 must be a class"
  | notMade v => "object.__new__(X): X is not a type object (" ++ v.kind ++ ")"
  | unfinished names =>
    "Can't instantiate abstract class " ++ Value.recordKind ++ " with abstract method"
      ++ (if names.length > 1 then "s " else " ") ++ ", ".intercalate (names.map Value.text)
  | notJoined position v =>
    "sequence item " ++ toString position ++ ": expected str instance, " ++ v.kind ++ " found"
  | notCopied v => "cannot pickle '" ++ v.kind ++ "' object"
  | slotsNotCopied =>
    "a class that defines __slots__ without defining __getstate__ cannot be pickled"
  | className v => "type __qualname__ must be a str, not " ++ v.kind
  | classBody name => "a class body cannot give " ++ name
  | slot v =>
    match v with
    | .str _ => "__slots__ must be identifiers"
    | v => "__slots__ items must be strings, not '" ++ v.kind ++ "'"
  | slotTwice name => name ++ " slot disallowed: we already got one"
  | noArguments => Value.recordKind ++ "() takes no arguments"
  | constructArguments =>
    "object.__init__() takes exactly one argument (the instance to initialize)"
  | arguments function => "wrong number of arguments to " ++ function ++ "()"
  | innateArguments method given => innateArgumentsText method given
  | tooMany place least most given => tooManyText place least most given
  | tooFew place parameter =>
    place ++ "() missing 1 required positional argument: '" ++ parameter ++ "'"
  | notText method v => method ++ " returned non-string (type " ++ v.kind ++ ")"
  | notTruth v => "__bool__ should return bool, returned " ++ v.kind
  | constructorAnswer v => "__init__() should return None, not '" ++ v.kind ++ "'"
  | unknownOption name => "got an unexpected keyword argument '" ++ name ++ "'"
  | repeatedOption name => "got multiple values for argument '" ++ name ++ "'"
  | configAndOptions => "Pass either a MachineConfig or keyword options, not both"

end Misuse

inductive Fault where
  /-- A machine was configured without an initial state. -/
  | initialMissing
  /-- The initial state of a finished definition was never declared. -/
  | initialUndeclared (state : String)
  | columnEmpty
  | stateRedeclared (state : String)
  | eventRedeclared (event : String)
  /-- A transition of `event` leaves or enters a state that was never declared. -/
  | undeclaredReference (event state : Value)
  /-- A query or a record names states that its machine does not know. -/
  | unknownStates (states : List Value)
  /-- Nothing stands under this key: an event, a state or a validator. -/
  | unknownKey (key : Value)
  | alreadyBuilt
  | eventFrozen (event : String)
  | misuse (m : Misuse)
  | attributeMissing (of : Value) (name : String)
  /-- The current state was to be set or deleted like an attribute. -/
  | stateAssigned (isErased : Bool)
  /-- A value has no room for an attribute of its own that its class has. -/
  | attributeFixed (of : Value) (name : String)
  | attributeReadOnly (kind name : String)
  /-- A place for an attribute was to be emptied that is empty. -/
  | slotEmpty (name : String)
  /-- A text is no time. -/
  | noTime (flaw : Moment.Flaw)
  /-- A whole number has too many digits for a text. -/
  | digitsExceeded
  /-- An item was looked for that is not in a list. -/
  | itemMissing (item : Value)
  /-- An item was to be removed that is not in a list. -/
  | removalMissing
  /-- A list has no item at a position, or a clock no reading. -/
  | positionMissing
  /-- A record told that it has less than nothing. -/
  | lengthNegative
  /-- A record told that it has about less than nothing. -/
  | hintNegative
  /-- A number is too large for a position or for a count. -/
  | numberTooLarge
  | listTooLong
  /-- A class confines the attributes of its records to one that is a member of its own. -/
  | slotTaken (name : String)
  /-- A command or a script names an id to which nothing is bound. -/
  | unbound (id : String)
  | raised (kind : Raised) (reason : Value)
  deriving Repr, Inhabited

/-- What a fault says of itself. -/
inductive Saying where
  | words (text : String)
  /-- The text of this value. -/
  | value (v : Value)
  /-- How this value is written inside another one. -/
  | key (v : Value)
  deriving Repr

namespace Fault

/-- A fault that names a key shows the key's quoted text, and one that a script raised the reason
that was given. -/
def saying : Fault → Saying
  | initialMissing => .words "A state machine requires an 'initial' state"
  | initialUndeclared s => .words ("Initial state " ++ Text.quote s ++ " is not a declared state")
  | columnEmpty => .words "column must be non-empty"
  | stateRedeclared s => .words ("State " ++ Text.quote s ++ " is already declared")
  | eventRedeclared e => .words ("Event " ++ Text.quote e ++ " is already declared")
  | undeclaredReference e s =>
    .words ("Event " ++ e.quoted ++ " references undeclared state " ++ s.quoted)
  | unknownStates ss =>
    .words (Text.quote ("Unknown state(s): " ++ ", ".intercalate (ss.map Value.quoted)))
  | unknownKey k => .key k
  | alreadyBuilt => .words "Machine is already built"
  | eventFrozen e => .words ("Event " ++ Text.quote e ++ " is frozen")
  | misuse m => .words m.message
  | attributeMissing of name => .words (of.phrase ++ " has no attribute '" ++ name ++ "'")
  | stateAssigned isErased =>
    .words ("property of '" ++ Value.recordKind ++ "' object has no "
      ++ if isErased then "deleter" else "setter")
  | attributeFixed of name => .words (of.phrase ++ " attribute '" ++ name ++ "' is read-only")
  | attributeReadOnly kind name =>
    .words ("attribute '" ++ name ++ "' of '" ++ kind ++ "' objects is not writable")
  | slotEmpty name => .words name
  | noTime flaw => .words flaw.message
  | digitsExceeded =>
    .words ("Exceeds the limit (" ++ toString Value.digitsBound ++ " digits) for integer "
      ++ "string conversion; use sys.set_int_max_str_digits() to increase the limit")
  | itemMissing v => .words (v.quoted ++ " is not in list")
  | removalMissing => .words "list.remove(x): x not in list"
  | positionMissing => .words "list index out of range"
  | lengthNegative => .words "__len__() should return >= 0"
  | hintNegative => .words "__length_hint__() should return >= 0"
  | numberTooLarge => .words "cannot fit 'int' into an index-sized integer"
  | listTooLong => .words ""
  | slotTaken name => .words (Text.quote name ++ " in __slots__ conflicts with class variable")
  | unbound id => .words id
  | raised .key reason => .key reason
  | raised _ reason => .value reason

/-- Whether a fault says that there is no such attribute, in earnest or on purpose. -/
def isMissing : Fault → Bool
  | attributeMissing _ _ | stateAssigned _ | attributeFixed _ _ | attributeReadOnly _ _
  | slotEmpty _
  | raised .attribute _ => true
  | _ => false

/-- Whether a fault says that a value is of the wrong kind, in earnest or on purpose. -/
def isMistyped : Fault → Bool
  | misuse _ | raised .type _ => true
  | _ => false

/-- Whether a fault says that a value is of the wrong kind or not fit, in earnest or on purpose. -/
def isUnfit : Fault → Bool
  | misuse _ | raised .type _ | raised .value _ | columnEmpty | itemMissing _ | removalMissing
  | noTime _ | digitsExceeded | lengthNegative | hintNegative | slotTaken _ => true
  | _ => false

def isOrdinary : Fault → Bool
  | raised .fatal _ => false
  | _ => true

end Fault

/-- What asking something for its text comes to: the text, or a fault. -/
abbrev Wording := Except Fault String

instance : Coe String Wording := ⟨.ok⟩

namespace Value

/-- A value whose text is asked for must have one. -/
def checkText (v : Value) : Except Fault Unit :=
  if v.isTooLong then .error .digitsExceeded else .ok ()

@[simp] theorem checkText_str (s : String) : (Value.str s).checkText = .ok () := by
  simp [checkText]

/-- What asking a value for its text comes to where no class has a say in it. -/
def wording (v : Value) : Wording := do
  v.checkText
  return v.text

/-- The same of the text that it has inside another one. -/
def quotedWording (v : Value) : Wording := do
  v.checkText
  return v.quoted

@[simp] theorem wording_str (s : String) : (Value.str s).wording = .ok s := by
  simp [wording, pure, Except.pure, bind, Except.bind]

end Value

/-- What a fault shows where no class has a say in it. -/
def Fault.message (f : Fault) : Wording :=
  match f.saying with
  | .words text => .ok text
  | .value v => v.wording
  | .key v => v.quotedWording

end Lifecycle
