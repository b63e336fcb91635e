import Stencil.Text.Basic
import Stencil.Text.Table.Unprintable

/-!
# Quoted text

Two ways to write a text between double quotes.

`quoted` is for readers: outlines and descriptions of contexts show a text on one line, and a
character that would not be seen, or that would join its neighbour, is written by its code
point.

`escaped` is for generated code: it is what stands between the quotes of a string literal. Only
the characters that such a literal cannot hold as they are, and the other control characters,
are escaped.
-/

set_option autoImplicit false

namespace Stencil.Text

/-- A character written by its code point, in hexadecimal digits. -/
def codePoint (c : Char) : Text :=
  "\\u\x7b" ++ Nat.toDigits 16 c.toNat ++ "\x7d"

/-- Whether the character is a control character. -/
def isControl (c : Char) : Bool :=
  c.toNat < 0x20 || (0x7F ≤ c.toNat && c.toNat < 0xA0)

/-- Whether a quotation shows the character by its code point. -/
def isUnprintable (c : Char) : Bool :=
  if c.toNat < 0x80 then isControl c else inRanges Table.unprintable c

/-- A character inside a quotation. -/
def quotedChar (c : Char) : Text :=
  if c = '\x00' then "\\0"
  else if c = '\t' then "\\t"
  else if c = '\r' then "\\r"
  else if c = '\n' then "\\n"
  else if c = '"' then "\\\""
  else if c = '\\' then "\\\\"
  else if isUnprintable c then codePoint c
  else [c]

/-- The text as a quotation on one line. -/
def quoted (t : Text) : Text :=
  "\"" ++ t.flatMap quotedChar ++ "\""

/-- A character inside a string literal. -/
def escapedChar (c : Char) : Text :=
  if c = '\\' then "\\\\"
  else if c = '"' then "\\\""
  else if c = '\n' then "\\n"
  else if c = '\r' then "\\r"
  else if c = '\t' then "\\t"
  else if isControl c then codePoint c
  else [c]

/-- The contents of a string literal that denotes the text. -/
def escaped (t : Text) : Text :=
  t.flatMap escapedChar

/-- The text as a string literal. -/
def literal (t : Text) : Text :=
  "\"" ++ escaped t ++ "\""

/-- Texts are escaped one after the other. -/
@[simp] theorem escaped_append (s t : Text) : escaped (s ++ t) = escaped s ++ escaped t := by
  simp [escaped]

end Stencil.Text
