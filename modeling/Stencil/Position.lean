import Stencil.Text.Basic

/-!
# Places in a source

A place is given in two ways: as a position, which is a line and a column for people to read,
and as a span of bytes, which marks off a piece of the source. Only a line feed ends a line, and
columns count characters.

The position after a text is found by walking over its characters, so the walk over a text put
together from two pieces is the walk over the first and then over the second
(`Position.advance_append`).
-/

set_option autoImplicit false

namespace Stencil

/-- A line and a column, both counted from one. -/
structure Position where
  /-- The line. -/
  line : Nat
  /-- The column, in characters. -/
  column : Nat
  deriving DecidableEq, Repr

namespace Position

/-- The position of the first character of a source. -/
def start : Position := ⟨1, 1⟩

/-- The position behind a character. -/
def step (p : Position) (c : Char) : Position :=
  if c = '\n' then ⟨p.line + 1, 1⟩ else ⟨p.line, p.column + 1⟩

/-- The position behind a text. -/
def advance (p : Position) (t : Text) : Position :=
  t.foldl step p

/-- Nothing read, nothing moved. -/
@[simp] theorem advance_nil (p : Position) : p.advance [] = p := rfl

/-- A text is passed character by character. -/
@[simp] theorem advance_cons (p : Position) (c : Char) (t : Text) :
    p.advance (c :: t) = (p.step c).advance t := rfl

/-- Passing two texts in turn is passing what they spell together. -/
@[simp] theorem advance_append (p : Position) (s t : Text) :
    p.advance (s ++ t) = (p.advance s).advance t := by
  simp [advance]

/-- Positions are ordered by line and then by column. -/
instance : LT Position :=
  ⟨fun p q => p.line < q.line ∨ (p.line = q.line ∧ p.column < q.column)⟩

instance (p q : Position) : Decidable (p < q) :=
  inferInstanceAs (Decidable (_ ∨ _))

/-- The position as `line:column`. -/
def display (p : Position) : Text :=
  Text.ofNat p.line ++ ":" ++ Text.ofNat p.column

end Position

/-- The bytes from `start` up to `stop`, which is not included. -/
structure Span where
  /-- The first byte. -/
  start : Nat
  /-- The byte behind the last. -/
  stop : Nat
  deriving DecidableEq, Repr

/-- The piece of the text that the span marks off; none if an end of the span is not at a
character of the text. -/
def Text.within? (t : Text) (span : Span) : Option Text :=
  t.slice? span.start span.stop

end Stencil
