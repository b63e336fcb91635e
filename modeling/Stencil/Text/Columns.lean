import Stencil.Text.Basic
import Stencil.Text.Columns.Emoji
import Stencil.Text.Table.DoubleWidth

/-!
# Columns

How many columns of a terminal a text takes. Most characters take one column, combining and
ignorable characters none, and wide characters two; control characters count as one. Where the
characters stand on their own, a text takes the sum of their columns. Characters that are written as
one, in a ligature or as one emoji, take the columns of what is shown.

Whether characters make up one sign depends on what stands behind them. The text is therefore read
from its end, and each character is measured knowing what stands right behind it.
-/

set_option autoImplicit false

namespace Stencil.Text

/-- The columns of a character on its own. Two Khmer characters stand for several letters each,
and are as wide as these. -/
def columnsOfChar (c : Char) : Nat :=
  if c.toNat ≤ 0xA0 then 1
  else if c.toNat = 0x17A4 then 2
  else if c.toNat = 0x17D8 then 3
  else if inRanges Table.zeroWidth c then 0
  else if inRanges Table.doubleWidth c then 2
  else 1

/-- What stands behind a character, as far as it may be part of the same sign. -/
inductive Ahead
  /-- Nothing that belongs to a larger sign. -/
  | plain
  /-- The end of a ligature, and which presentation selectors stand in front of it. -/
  | ligature (tail : LigatureTail) (asEmoji asText : Bool)
  /-- The end of an emoji sequence. -/
  | sequence (tail : EmojiTail)
  /-- The selector that asks for an emoji; `joined` tells whether a joiner and a further emoji
  are behind it. -/
  | emojiSelector (joined : Bool)
  /-- The selector that asks for plain text. -/
  | textSelector
  deriving DecidableEq, Repr

namespace Ahead

/-- What is ahead of the character in front of the given one, if that one is measured on its
own. -/
def ofChar (c : Char) : Ahead :=
  match LigatureTail.ofChar? c, EmojiTail.ofChar? c with
  | some tail, _ => .ligature tail false false
  | none, some tail => .sequence tail
  | none, none => .plain

/-- The columns that are left for a character whose emoji form is asked for right behind it. -/
def emojiColumns? : Ahead → Option Int
  | .ligature _ true _ => some 2
  | .emojiSelector joined => some (if joined then 0 else 2)
  | _ => none

/-- Whether the text form of the character in front is asked for. -/
def asksForText : Ahead → Bool
  | .ligature _ _ asText => asText
  | .textSelector => true
  | _ => false

/-- What is ahead of a character that has no emoji form. -/
def ignoreEmoji : Ahead → Ahead
  | .ligature tail _ asText => .ligature tail false asText
  | .emojiSelector _ => .plain
  | ahead => ahead

/-- What is ahead of a character that has no text form. -/
def ignoreText : Ahead → Ahead
  | .ligature tail asEmoji _ => .ligature tail asEmoji false
  | .textSelector => .plain
  | ahead => ahead

/-- What is ahead in front of the selector for emoji. -/
def selectEmoji : Ahead → Ahead
  | .ligature tail _ asText => .ligature tail true asText
  | .sequence .joiner | .sequence .keycap => .emojiSelector true
  | _ => .emojiSelector false

/-- What is ahead in front of the selector for text. -/
def selectText : Ahead → Ahead
  | .ligature tail asEmoji _ => .ligature tail asEmoji true
  | _ => .textSelector

/-- The columns that a character changes the text behind it by, if it is part of the same sign,
and what is then ahead of the character before it. -/
def within? (ahead : Ahead) (c : Char) : Option (Int × Ahead) :=
  match ahead with
  | .ligature tail _ _ =>
    (tail.before? c).map fun (columns, rest) =>
      (columns, (rest.map (Ahead.ligature · false false)).getD .plain)
  | .sequence tail => (tail.before? c).map fun (columns, rest) => (columns, .sequence rest)
  | _ => none

/-- The columns that a character adds in front of what is ahead, other than by its emoji form, and
what is then ahead of the character before it. -/
def columnsAsText (ahead : Ahead) (c : Char) : Int × Ahead :=
  if c.toNat ≤ 0xA0 then (1, .plain)
  else if c.toNat = 0xFE0F then (0, ahead.selectEmoji)
  else if c.toNat = 0xFE0E then (0, ahead.selectText)
  else if ahead.asksForText && hasNarrowText c then (1, .plain)
  else (ahead.ignoreText.within? c).getD (columnsOfChar c, ofChar c)

/-- The columns that a character adds in front of what is ahead, and what is then ahead of the
character before it. -/
def columnsBefore (ahead : Ahead) (c : Char) : Int × Ahead :=
  match ahead.emojiColumns? with
  | some columns =>
    if takesSelector c then (columns, .sequence .emoji) else ahead.ignoreEmoji.columnsAsText c
  | none => ahead.columnsAsText c

end Ahead

/-- The columns that the text takes. -/
def columns (t : Text) : Nat :=
  (t.foldr
    (fun c behind =>
      let here := behind.2.columnsBefore c
      (here.1 + behind.1, here.2))
    ((0 : Int), Ahead.plain)).1.toNat

end Stencil.Text
