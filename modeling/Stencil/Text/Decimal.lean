import Stencil.Text.Basic

/-!
# Decimal integers

Integers are written without leading zeros and with a minus sign where they are negative. They
are read with any number of leading zeros and with either sign, and only if they fit into the
given number of bits.
-/

set_option autoImplicit false

namespace Stencil.Text

/-- An integer in decimal digits. -/
def ofInt : Int → Text
  | .ofNat n => ofNat n
  | .negSucc n => '-' :: ofNat (n + 1)

/-- The sign of an integer, if it is negative, and then its digits. -/
def intPieces : Int → List Text
  | .ofNat n => [ofNat n]
  | .negSucc n => [['-'], ofNat (n + 1)]

/-- The number that decimal digits stand for; none unless there are digits and nothing else. -/
def readNat? (t : Text) : Option Nat :=
  if !t.isEmpty && t.all Char.isDigit then
    some (t.foldl (fun n c => 10 * n + (c.toNat - '0'.toNat)) 0)
  else none

/-- The integer that decimal digits with or without a sign stand for. -/
def readInt? : Text → Option Int
  | '-' :: t => (readNat? t).map fun n => -n
  | '+' :: t => (readNat? t).map fun n => n
  | t => (readNat? t).map fun n => n

/-- Whether an integer fits into a signed word of the given number of bits. -/
def fitsWord (bits : Nat) (n : Int) : Bool :=
  -Int.pow 2 (bits - 1) ≤ n && n < Int.pow 2 (bits - 1)

/-- The integer, if it fits into 32 bits. -/
def readInt32? (t : Text) : Option Int32 :=
  ((readInt? t).filter (fitsWord 32)).map Int32.ofInt

/-- The integer, if it fits into 64 bits. -/
def readInt64? (t : Text) : Option Int64 :=
  ((readInt? t).filter (fitsWord 64)).map Int64.ofInt

end Stencil.Text
