import Stencil.Text.Basic
import Stencil.Text.Table.Alphanumeric
import Stencil.Text.Table.Lowercase
import Stencil.Text.Table.LowercaseRun
import Stencil.Text.Table.Uppercase

/-!
# Letters and their case

Case follows the derived Unicode properties `Uppercase` and `Lowercase`, under which some
numbers and symbols have a case and the title-case letters have none. Lowering a character
does not depend on its neighbours and may give two characters.
-/

set_option autoImplicit false

namespace Stencil.Text

/-- Whether the character has the property `Uppercase`. -/
def isUpper (c : Char) : Bool :=
  if c.toNat < 0x80 then c.isUpper else inRanges Table.uppercase c

/-- Whether the character has the property `Lowercase`. -/
def isLower (c : Char) : Bool :=
  if c.toNat < 0x80 then c.isLower else inRanges Table.lowercase c

/-- Whether the character is a letter or a number. -/
def isAlphanumeric (c : Char) : Bool :=
  if c.toNat < 0x80 then c.isAlphanum else inRanges Table.alphanumeric c

/-- Whether the run lowers the code point `n`. -/
def Table.LowercaseRun.holds (r : Table.LowercaseRun) (n : Nat) : Bool :=
  r.first ≤ n && n ≤ r.last && (n - r.first) % r.stride == 0

/-- The lower-case form of a character. -/
def lower (c : Char) : Text :=
  if c.toNat < 0x80 then [c.toLower]
  else if c.toNat = 0x130 then [Char.ofNat 0x69, Char.ofNat 0x307]
  else
    match Table.lowercaseRuns.find? (·.holds c.toNat) with
    | some run => [Char.ofNat (c.toNat + run.distance).toNat]
    | none => [c]

end Stencil.Text
