import Stencil.Text.Columns.Ligature
import Stencil.Text.Table.EmojiModifierBase
import Stencil.Text.Table.EmojiPresentation
import Stencil.Text.Table.EmojiVariation

/-!
# Emoji sequences

An emoji may be spelled by several characters: a skin tone behind a person, two regional
indicators for a flag, a keycap mark behind a digit, tags behind a black flag, and further emoji
behind joiners. Such a sequence takes the two columns of one emoji.

A text is measured from its end, so a sequence is known by its end first: an `EmojiTail` is what
stands behind, and `EmojiTail.before?` tells whether the character in front of it belongs to the
same sequence.
-/

set_option autoImplicit false

namespace Stencil.Text

/-- The end of what may be a sequence of characters for one emoji. The last five are followed by
a joiner and an emoji, whose columns have been counted. -/
inductive EmojiTail
  /-- An emoji. -/
  | emoji
  /-- A skin tone. -/
  | skinTone
  /-- A single regional indicator. -/
  | indicator
  /-- Several regional indicators. -/
  | indicators
  /-- Nothing else. -/
  | joiner
  /-- A keycap mark. -/
  | keycap
  /-- So many regional indicators. -/
  | joinedIndicators (count : Nat)
  /-- An end tag and so many letter tags in front of it. -/
  | letterTags (count : Nat)
  /-- An end tag, some letter tags, and so many digit tags in front of them. -/
  | digitTags (count : Nat)
  deriving DecidableEq, Repr

/-- Whether the character has a text and an emoji form. -/
def takesSelector (c : Char) : Bool :=
  if c.toNat < 0x80 then c.isDigit || c == '#' || c == '*'
  else inRanges Table.emojiVariation c

/-- Whether the character is shown as an emoji by default. -/
def isEmoji (c : Char) : Bool :=
  inRanges Table.emojiPresentation c

/-- Whether the text form of the character is narrower than the form that it has by default.
Enclosed ideographs are as wide in either form. -/
def hasNarrowText (c : Char) : Bool :=
  takesSelector c && isEmoji c && !inRanges [(0x1F200, 0x1F2FF)] c

/-- Whether the character is one half of a flag. -/
def isIndicator : Char → Bool :=
  inRanges [(0x1F1E6, 0x1F1FF)]

/-- Whether the character is a skin tone. -/
def isSkinTone : Char → Bool :=
  inRanges [(0x1F3FB, 0x1F3FF)]

/-- Whether the character is the tag of a letter. -/
def isLetterTag : Char → Bool :=
  inRanges [(0xE0061, 0xE007A)]

/-- Whether the character is the tag of a digit. -/
def isDigitTag : Char → Bool :=
  inRanges [(0xE0030, 0xE0039)]

namespace EmojiTail

/-- The tail that the character is on its own. -/
def ofChar? (c : Char) : Option EmojiTail :=
  if isIndicator c then some .indicator
  else if isSkinTone c then some .skinTone
  else if isEmoji c then some .emoji
  else none

/-- Whether a joiner ties the tail to the emoji in front of the joiner. -/
def joins : EmojiTail → Bool
  | emoji | skinTone | indicators => true
  | joinedIndicators count => 2 ≤ count
  | _ => false

/-- The columns that a character adds in front of a joiner and an emoji, and the tail that it is
then part of. -/
def beforeJoiner? (c : Char) : Option (Int × EmojiTail) :=
  if c.toNat = 0x20E3 then some (0, keycap)
  else if isIndicator c then some (1, joinedIndicators 1)
  else if isSkinTone c then some (0, skinTone)
  else if c.toNat = 0xE007F then some (0, letterTags 0)
  else if isEmoji c then some (0, emoji)
  else none

/-- The columns that a character adds in front of the tail, and the tail that it is then part of.
It is `none` for a character that belongs to no sequence with the tail.

Regional indicators are paired from the first one on. In front of a joiner an even number of them
ends in a flag that is part of the joined emoji, and an odd number in an indicator of one column.
So each further indicator takes one column back or adds three.

The tags behind a black flag name a region: three to six letters, or three digits and up to four
letters. -/
def before? (tail : EmojiTail) (c : Char) : Option (Int × EmojiTail) :=
  if tail.joins && isJoiner c then some (0, joiner)
  else
    match tail with
    | skinTone => if inRanges Table.emojiModifierBase c then some (0, emoji) else none
    | indicator | indicators => if isIndicator c then some (1, indicators) else none
    | joiner => beforeJoiner? c
    | joinedIndicators count =>
      if isIndicator c then some (if count % 2 = 0 then 3 else -1, joinedIndicators (count + 1))
      else none
    | letterTags count =>
      if isLetterTag c && count < 6 then some (0, letterTags (count + 1))
      else if isDigitTag c && count ≤ 4 then some (0, digitTags 1)
      else if c.toNat = 0x1F3F4 && 3 ≤ count then some (0, emoji)
      else none
    | digitTags count =>
      if isDigitTag c && count < 3 then some (0, digitTags (count + 1))
      else if c.toNat = 0x1F3F4 && count = 3 then some (0, emoji)
      else none
    | emoji | keycap => none

end EmojiTail

end Stencil.Text
