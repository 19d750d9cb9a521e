/-
Summaries: what kinds of values and innate methods say about themselves when
they are asked for it.

`Value.summary?` is the text for a kind of value, `Innate.summary?` that for an
innate method of records and `Innate.signature?` the arguments it takes.
-/
import Lifecycle.Value

namespace Lifecycle

namespace Value

def truthSummary : String :=
  "bool(x) -> bool\n\nReturns True when the argument x is true, False otherwise.\n"
    ++ "The builtins True and False are the only two instances of the class bool.\n"
    ++ "The class bool is a subclass of the class int, and cannot be subclassed."

def wholeSummary : String :=
  "int([x]) -> integer\nint(x, base=10) -> integer\n\n"
    ++ "Convert a number or string to an integer, or return 0 if no arguments\n"
    ++ "are given.  If x is a number, return x.__int__().  For floating point\n"
    ++ "numbers, this truncates towards zero.\n\n"
    ++ "If x is not a number or if base is given, then x must be a string,\n"
    ++ "bytes, or bytearray instance representing an integer literal in the\n"
    ++ "given base.  The literal can be preceded by '+' or '-' and be surrounded\n"
    ++ "by whitespace.  The base defaults to 10.  Valid bases are 0 and 2-36.\n"
    ++ "Base 0 means to interpret the base from the string as an integer literal.\n"
    ++ ">>> int('0b100', base=0)\n4"

def fractionSummary : String :=
  "Convert a string or number to a floating point number, if possible."

def textSummary : String :=
  "str(object='') -> str\nstr(bytes_or_buffer[, encoding[, errors]]) -> str\n\n"
    ++ "Create a new string object from the given object. If encoding or\n"
    ++ "errors is specified, then the object must expose a data buffer\n"
    ++ "that will be decoded using the given encoding and error handler.\n"
    ++ "Otherwise, returns the result of object.__str__() (if defined)\nor repr(object).\n"
    ++ "encoding defaults to sys.getdefaultencoding().\nerrors defaults to 'strict'."

def listSummary : String :=
  "Built-in mutable sequence.\n\n"
    ++ "If no argument is given, the constructor creates a new empty list.\n"
    ++ "The argument must be an iterable if specified."

def tupleSummary : String :=
  "Built-in immutable sequence.\n\n"
    ++ "If no argument is given, the constructor returns an empty tuple.\n"
    ++ "If iterable is specified the tuple is initialized from iterable's items.\n\n"
    ++ "If the argument is a tuple, the return value is the same object."

def objectSummary : String :=
  "dict() -> new empty dictionary\n"
    ++ "dict(mapping) -> new dictionary initialized from a mapping object's\n"
    ++ "    (key, value) pairs\ndict(iterable) -> new dictionary initialized as if via:\n"
    ++ "    d = \x7b\x7d\n    for k, v in iterable:\n        d[k] = v\n"
    ++ "dict(**kwargs) -> new dictionary initialized with the name=value pairs\n"
    ++ "    in the keyword argument list.  For example:  dict(one=1, two=2)"

def momentSummary : String :=
  "datetime(year, month, day[, hour[, minute[, second[, microsecond[,tzinfo]]]]])\n\n"
    ++ "The year, month and day arguments are required. tzinfo may be None, or an\n"
    ++ "instance of a tzinfo subclass. The remaining arguments may be ints.\n"

def daySummary : String := "date(year, month, day) --> date object"

/-- What the kind of a value says about itself. -/
def summary? : Value → Option String
  | .bool _ => .some truthSummary
  | .int _ => .some wholeSummary
  | .decimal _ _ => .some fractionSummary
  | .str _ | .textOf _ => .some textSummary
  | .list _ | .listAt _ => .some listSummary
  | .tuple _ => .some tupleSummary
  | .obj _ | .shared _ _ => .some objectSummary
  | .moment _ => .some momentSummary
  | .day _ => .some daySummary
  | _ => .none

end Value

namespace Innate

/-- What an innate method of records says about itself. -/
def summary? : String → Option String
  | "__delattr__" => .some "Implement delattr(self, name)."
  | "__dir__" => .some "Default dir() implementation."
  | "__eq__" => .some "Return self==value."
  | "__format__" => .some "Default object formatter."
  | "__ge__" => .some "Return self>=value."
  | "__getattribute__" => .some "Return getattr(self, name)."
  | "__getstate__" => .some "Helper for pickle."
  | "__gt__" => .some "Return self>value."
  | "__hash__" => .some "Return hash(self)."
  | "__init__" => .some "Initialize self.  See help(type(self)) for accurate signature."
  | "__init_subclass__" => .some ("This method is called when a class is subclassed.\n\n"
      ++ "The default implementation does nothing. It may be\n"
      ++ "overridden to extend subclasses.\n")
  | "__le__" => .some "Return self<=value."
  | "__lt__" => .some "Return self<value."
  | "__ne__" => .some "Return self!=value."
  | "__new__" => .some ("Create and return a new object.  See help(type) for accurate "
      ++ "signature.")
  | "__reduce__" => .some "Helper for pickle."
  | "__reduce_ex__" => .some "Helper for pickle."
  | "__repr__" => .some "Return repr(self)."
  | "__setattr__" => .some "Implement setattr(self, name, value)."
  | "__sizeof__" => .some "Size of object in memory, in bytes."
  | "__str__" => .some "Return str(self)."
  | "__subclasshook__" => .some ("Abstract classes can override this to customize issubclass().\n\n"
      ++ "This is invoked early on by abc.ABCMeta.__subclasscheck__().\n"
      ++ "It should return True, False or NotImplemented.  If it returns\n"
      ++ "NotImplemented, the normal algorithm is used.  Otherwise, it\n"
      ++ "overrides the normal algorithm (and the outcome is cached).\n")
  | _ => .none

/-- The arguments of an innate method of records. -/
def signature? : String → Option String
  | "__delattr__" | "__getattribute__" => .some "($self, name, /)"
  | "__dir__" | "__getstate__" | "__hash__" | "__reduce__" | "__repr__" | "__sizeof__" |
   "__str__" => .some "($self, /)"
  | "__eq__" | "__ge__" | "__gt__" | "__le__" | "__lt__" | "__ne__" => .some "($self, value, /)"
  | "__format__" => .some "($self, format_spec, /)"
  | "__init__" => .some "($self, /, *args, **kwargs)"
  | "__new__" => .some "($type, *args, **kwargs)"
  | "__reduce_ex__" => .some "($self, protocol, /)"
  | "__setattr__" => .some "($self, name, value, /)"
  | _ => .none

end Innate

end Lifecycle
