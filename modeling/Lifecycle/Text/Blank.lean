/-
Blank text: a string with nothing in it but white space.

`spaceRanges` lists the white-space characters of Unicode; a text is blank
when all of its characters are among them.
-/

namespace Lifecycle.Text

/-- Inclusive ranges of the white-space code points. -/
def spaceRanges : List (Nat × Nat) := [
    (0x9, 0xd), (0x1c, 0x20), (0x85, 0x85), (0xa0, 0xa0), (0x1680, 0x1680), (0x2000, 0x200a),
    (0x2028, 0x2029), (0x202f, 0x202f), (0x205f, 0x205f), (0x3000, 0x3000)]

def isSpace (c : Char) : Bool :=
  spaceRanges.any fun (lo, hi) => lo ≤ c.toNat && c.toNat ≤ hi

/-- The empty text is blank. -/
def isBlank (s : String) : Bool :=
  s.toList.all isSpace

end Lifecycle.Text
