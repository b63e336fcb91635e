import Stencil.Render.Sink

/-!
# Escapers

An escaper makes a displayed value safe for a type of file. It says in which pieces the value is
written, since a sink may fail behind any of them.

A registry holds the escapers that were registered for types of files; it is asked first, and the
types of files that are always known come after it.
-/

set_option autoImplicit false

namespace Stencil.Render

/-- A text in the pieces in which it is written, one after another. -/
structure Pieces where
  /-- The pieces. -/
  toList : List Text

/-- A text can be written in one piece. -/
instance : Coe Text Pieces := ⟨fun t => ⟨[t]⟩⟩

/-- The text, whatever its pieces are. -/
def Pieces.text (p : Pieces) : Text :=
  p.toList.flatten

/-- How a displayed value is written. -/
abbrev Escaper := Text → Pieces

/-- The entity for a character that has a meaning in HTML. -/
def entity? (c : Char) : Option Text :=
  match c with
  | '>' => some "&gt;"
  | '<' => some "&lt;"
  | '&' => some "&amp;"
  | '\'' => some "&#39;"
  | '"' => some "&quot;"
  | _ => none

/-- What a character is written as in HTML. -/
def entity (c : Char) : Text :=
  (entity? c).getD [c]

/-- The pieces of a text in HTML, of which the last characters without an entity, the latest
first, are not written yet. What stands before an entity is a piece even if it is empty. -/
def htmlPieces (unwritten : Text) : Text → List Text
  | [] => if unwritten.isEmpty then [] else [unwritten.reverse]
  | c :: t =>
    match entity? c with
    | some e => unwritten.reverse :: e :: htmlPieces [] t
    | none => htmlPieces (c :: unwritten) t

/-- The pieces spell what was not yet written, and then the text with its entities. -/
theorem flatten_htmlPieces (unwritten t : Text) :
    (htmlPieces unwritten t).flatten = unwritten.reverse ++ t.flatMap entity := by
  induction t generalizing unwritten with
  | nil => cases unwritten <;> simp [htmlPieces]
  | cons c t ih =>
    rw [htmlPieces]
    cases he : entity? c with
    | some e => simp [ih, entity, he]
    | none => simp [ih, entity, he]

/-- Writes the characters that have a meaning in HTML as entities. -/
def Escaper.html : Escaper :=
  fun t => ⟨htmlPieces [] t⟩

/-- Escaping works character by character. -/
theorem Escaper.text_html (t : Text) : (html t).text = t.flatMap entity := by
  simp [Pieces.text, html, flatten_htmlPieces]

/-- Writes every text as it is. -/
def Escaper.text : Escaper :=
  fun t => t

/-- The escapers registered for types of files, the latest first. -/
structure Registry where
  /-- The types of files and their escapers. -/
  entries : List (Text × Escaper) := []

namespace Registry

/-- Registers an escaper, in place of an earlier one for the same type of file. -/
def register (r : Registry) (fileType : Text) (escaper : Escaper) : Registry :=
  ⟨(fileType, escaper) :: r.entries⟩

/-- The escaper of a type of file that needs no registration. -/
def builtin? (fileType : Text) : Option Escaper :=
  if fileType ∈ ["html".toList, "htm".toList, "xml".toList, "svg".toList] then some .html
  else if fileType ∈ ["".toList, "text".toList, "txt".toList] then some .text
  else none

/-- The escaper of a type of file. -/
def escaperFor (r : Registry) (fileType : Text) : Except RenderError Escaper :=
  match (r.entries.lookup fileType).or (builtin? fileType) with
  | some escaper => .ok escaper
  | none => .error (.unknownEscaper fileType)

end Registry

end Stencil.Render
