/-
Quoted text: a string between quotes, on one line, readable back.

`escape` writes one character, `quote` a whole string, `enclose` and
`encloseFixed` a bracketed list. A string is put in single quotes unless it
holds a single quote and no double one.
-/
import Lifecycle.Text.Printable

namespace Lifecycle.Text

/-- The low `width` hexadecimal digits of a number, in lower case. -/
def hexDigits : Nat → Nat → List Char
  | 0, _ => []
  | width + 1, n => hexDigits width (n / 16) ++ [Nat.digitChar (n % 16)]

/-- An unprintable character is written by its code point, as short as its size allows. -/
def escapeCode (n : Nat) : List Char :=
  if n < 0x100 then '\\' :: 'x' :: hexDigits 2 n
  else if n < 0x10000 then '\\' :: 'u' :: hexDigits 4 n
  else '\\' :: 'U' :: hexDigits 8 n

/-- One character inside quotes of the kind `mark`. -/
def escape (mark c : Char) : List Char :=
  if c = mark ∨ c = '\\' then ['\\', c]
  else if c = '\n' then ['\\', 'n']
  else if c = '\r' then ['\\', 'r']
  else if c = '\t' then ['\\', 't']
  else if isPrintable c then [c]
  else escapeCode c.toNat

/-- Double quotes are used only where they spare escaping a single one. -/
def quoteMark (cs : List Char) : Char :=
  if '\'' ∈ cs ∧ '"' ∉ cs then '"' else '\''

/-- The quoted form of a string. -/
def quote (s : String) : String :=
  let cs := s.toList
  let mark := quoteMark cs
  String.ofList (mark :: cs.flatMap (escape mark) ++ [mark])

/-- Parts between brackets, separated by commas. -/
def enclose (left right : String) (parts : List String) : String :=
  left ++ ", ".intercalate parts ++ right

/-- Parts of a sequence that cannot be changed; a single one is followed by a comma. -/
def encloseFixed : List String → String
  | [part] => "(" ++ part ++ ",)"
  | parts => enclose "(" ")" parts

example : quote "it's" = "\"it's\"" := by cbv

example : quote "a\tb\\" = "'a\\tb\\\\'" := by cbv

end Lifecycle.Text
