import Stencil.Text.Table.JoiningBreak
import Stencil.Text.Table.ZeroWidth

/-!
# Ligatures

In some scripts certain characters are written as one, and then take fewer columns together than
apart. A text is measured from its end, so a ligature is known by its end first: a
`LigatureTail` is what stands behind, and `LigatureTail.before?` tells whether the character in
front of it belongs to the same ligature.

Marks that are never shown may stand inside a ligature. Arabic letters join across every
transparent mark; the other scripts join across variation selectors and their like.
-/

set_option autoImplicit false

namespace Stencil.Text

/-- Whether the character is the zero-width joiner. -/
def isJoiner (c : Char) : Bool :=
  c.toNat = 0x200D

/-- The end of what may be a ligature. Where a script asks for a joiner between the characters,
`joined` tells whether it has been read. -/
inductive LigatureTail
  /-- An Arabic alef, which joins a lam. -/
  | alef
  /-- A Hebrew lamed, which a joiner ties to an alef. -/
  | lamed (joined : Bool)
  /-- A Khmer letter that is written below another one when a coeng stands in front of it. -/
  | coengLetter
  /-- A Buginese ya, which a joiner ties to a vowel sign. -/
  | ya (joined : Bool)
  /-- A Buginese ya tied to a vowel sign, which is the sign of a letter a. -/
  | vowelSignYa
  /-- A Tifinagh consonant, which a joiner ties to a consonant. -/
  | consonant (joined : Bool)
  /-- A Tifinagh consonant behind the consonant joiner of its script. -/
  | joinedConsonant
  /-- A Lisu tone letter that is written into another one. -/
  | toneLetter
  /-- An Old Turkic i, which a joiner ties to a letter ch. -/
  | orkhonI (joined : Bool)
  deriving DecidableEq, Repr

/-- Whether the character is an Arabic letter of the joining group of alef. -/
def isAlef : Char → Bool :=
  inRanges [(0x622, 0x623), (0x625, 0x625), (0x627, 0x627), (0x671, 0x673), (0x675, 0x675),
    (0x773, 0x774), (0x870, 0x882)]

/-- Whether the character is an Arabic letter of the joining group of lam. -/
def isLam : Char → Bool :=
  inRanges [(0x644, 0x644), (0x6B5, 0x6B8), (0x76A, 0x76A), (0x8A6, 0x8A6), (0x8C7, 0x8C7)]

/-- Whether the character is a Khmer letter whose subscript form takes no column. -/
def isCoengLetter : Char → Bool :=
  inRanges [(0x1780, 0x1782), (0x1784, 0x1787), (0x1789, 0x178C), (0x178E, 0x1793),
    (0x1795, 0x1798), (0x179B, 0x179D), (0x17A0, 0x17A0), (0x17A2, 0x17A2), (0x17A7, 0x17A7),
    (0x17AB, 0x17AC), (0x17AF, 0x17AF)]

/-- Whether the character is a Tifinagh consonant. -/
def isTifinaghConsonant : Char → Bool :=
  inRanges [(0x2D31, 0x2D65), (0x2D6F, 0x2D6F)]

/-- Whether the character is a Lisu tone letter that another one is written into. -/
def isLisuToneBase : Char → Bool :=
  inRanges [(0xA4F8, 0xA4FB)]

/-- Whether the character is a mark that Arabic letters join across. -/
def isTransparentMark (c : Char) : Bool :=
  inRanges Table.zeroWidth c && !inRanges Table.joiningBreak c

/-- Whether the character is a combining mark that is never shown. -/
def isHiddenMark : Char → Bool :=
  inRanges [(0x34F, 0x34F), (0x17B4, 0x17B5), (0x180B, 0x180D), (0x180F, 0x180F),
    (0xFE00, 0xFE0F), (0xE0100, 0xE01EF)]

namespace LigatureTail

/-- The tail that the character is on its own. -/
def ofChar? (c : Char) : Option LigatureTail :=
  if isAlef c then some .alef
  else if c.toNat = 0x5DC then some (.lamed false)
  else if isCoengLetter c then some .coengLetter
  else if c.toNat = 0x1A10 then some (.ya false)
  else if isTifinaghConsonant c then some (.consonant false)
  else if 0xA4FC ≤ c.toNat && c.toNat ≤ 0xA4FD then some .toneLetter
  else if c.toNat = 0x10C03 then some (.orkhonI false)
  else none

/-- The tail with a joiner in front of it. -/
def join : LigatureTail → LigatureTail
  | lamed _ => lamed true
  | ya _ => ya true
  | consonant _ => consonant true
  | orkhonI _ => orkhonI true
  | tail => tail

/-- The tail with a mark in front of it, unless the mark ends the ligature. -/
def across? (tail : LigatureTail) (c : Char) : Option LigatureTail :=
  if tail = alef then if isTransparentMark c then some alef else none
  else if isJoiner c then some tail.join
  else if isHiddenMark c then some tail
  else none

/-- The columns that a character changes the tail by, and the tail that it is then part of, if it
goes on. It is `none` for a character that makes no ligature with the tail.

A character may take columns back: a Khmer letter is measured in full before it is known to stand
below another one, and so is a consonant joiner before the consonant in front of it is read. -/
def ligate? (tail : LigatureTail) (c : Char) : Option (Int × Option LigatureTail) :=
  match tail with
  | alef => if isLam c then some (0, none) else none
  | lamed joined => if joined && c.toNat = 0x5D0 then some (0, none) else none
  | coengLetter => if c.toNat = 0x17D2 then some (-1, none) else none
  | ya joined => if joined && c.toNat = 0x1A17 then some (0, some vowelSignYa) else none
  | vowelSignYa => if c.toNat = 0x1A15 then some (0, none) else none
  | consonant joined =>
    if c.toNat = 0x2D7F then some (1, some joinedConsonant)
    else if joined && isTifinaghConsonant c then some (0, none)
    else none
  | joinedConsonant => if isTifinaghConsonant c then some (-1, none) else none
  | toneLetter => if isLisuToneBase c then some (0, none) else none
  | orkhonI joined => if joined && c.toNat = 0x10C32 then some (0, none) else none

/-- What a character in front of the tail adds to it: either it is a mark inside a ligature, which
adds no column, or it makes a ligature with the tail. -/
def before? (tail : LigatureTail) (c : Char) : Option (Int × Option LigatureTail) :=
  match tail.across? c with
  | some tail => some (0, some tail)
  | none => tail.ligate? c

end LigatureTail

end Stencil.Text
