import Stencil.Text.Basic

/-!
# Blank characters

A character is blank when it has the Unicode property `White_Space`. Payloads are trimmed of
blank characters at both ends, and cut into words at them.
-/

set_option autoImplicit false

namespace Stencil.Text

/-- Whether the character has the property `White_Space`. -/
def isBlank (c : Char) : Bool :=
  let n := c.toNat
  (0x9 ≤ n && n ≤ 0xD) || n == 0x20 || n == 0x85 || n == 0xA0 || n == 0x1680 ||
    (0x2000 ≤ n && n ≤ 0x200A) || n == 0x2028 || n == 0x2029 || n == 0x202F || n == 0x205F ||
    n == 0x3000

/-- The text without the blank characters at its start. -/
def trimStart (t : Text) : Text :=
  t.dropWhile isBlank

/-- The text without the blank characters at its end. -/
def trimEnd (t : Text) : Text :=
  (t.reverse.dropWhile isBlank).reverse

/-- The text without the blank characters at its ends. -/
def trim (t : Text) : Text :=
  trimEnd (trimStart t)

/-- Whether all characters of the text are blank. -/
def allBlank (t : Text) : Bool :=
  t.all isBlank

/-- The longest runs of characters that are not blank. -/
def words (t : Text) : List Text :=
  (splitWhere isBlank t).filter (!·.isEmpty)

/-- The text before the first blank character and the trimmed text after it; none if nothing is
left after it. -/
def splitWord? (t : Text) : Option (Text × Text) :=
  match t.dropWhile (!isBlank ·) with
  | [] => none
  | _ :: rest => if (trim rest).isEmpty then none else some (t.takeWhile (!isBlank ·), trim rest)

end Stencil.Text
