import Stencil.Code.Statement

/-!
# Writers of code

Code can be written from its front to its end by a writer that keeps in mind how many blocks are
open and whether it stands at the start of a line. `Prints n d f t` says that the operation `f`,
begun at the start of a line inside of `n` blocks and `d` extensions, does nothing but append the
text `t`: the writer then stands at the start of a line again, inside of the same blocks, and no
block was closed that had not been opened. Every operation has one lemma of this form, and they
compose as the texts are put together.
-/

set_option autoImplicit false

namespace Stencil.Code

/-- The text is made of whole lines: it is empty or ends with a line end. -/
def WholeLines (t : Text) : Prop :=
  t = [] ∨ t.getLast? = some '\n'

/-- Whole lines behind whole lines are whole lines. -/
theorem WholeLines.append {t u : Text} (ht : WholeLines t) (hu : WholeLines u) :
    WholeLines (t ++ u) := by
  rcases hu with rfl | hu
  · rwa [List.append_nil]
  · right
    rw [List.getLast?_append, hu]
    rfl

/-- Any number of texts of whole lines are whole lines together. -/
theorem WholeLines.flatMap {α : Type} {f : α → Text} (h : ∀ x, WholeLines (f x)) (xs : List α) :
    WholeLines (xs.flatMap f) := by
  induction xs with
  | nil => exact .inl rfl
  | cons x xs ih =>
    rw [List.flatMap_cons]
    exact (h x).append ih

/-- A line is a whole line. -/
theorem wholeLines_line (n : Nat) (content : Text) : WholeLines (line n content) := by
  right
  simp [line]

/-- Code of the template is put on whole lines. -/
theorem wholeLines_handwritten (code : Text) : WholeLines (handwritten code) := by
  unfold handwritten
  split
  · next h => simpa [WholeLines] using h
  · right
    simp

/-- A line is not empty if the string at its end is not. -/
theorem append_ne_nil (t : Text) {s : String} (hs : s ≠ "") : t ++ s.toList ≠ [] := by
  simp [hs]

/-- Code that is being written. -/
structure Writer where
  /-- What has been written. -/
  output : Text := []
  /-- How many blocks are open. -/
  level : Nat := 0
  /-- Whether a line is about to start. -/
  atLineStart : Bool := true
  /-- How many extensions lie around what is written next. -/
  depth : Nat := 0
  /-- Whether a block has ever been left where none was open. -/
  saturated : Bool := false
  deriving DecidableEq, Repr

namespace Writer

/-- The writer with more text, and otherwise unchanged. -/
def append (w : Writer) (t : Text) : Writer :=
  { w with output := w.output ++ t }

/-- Enters a block. -/
def indent (w : Writer) : Writer :=
  { w with level := w.level + 1 }

/-- Leaves a block. Where none is open, the level stays at zero. -/
def dedent (w : Writer) : Writer :=
  { w with level := w.level - 1, saturated := w.saturated || w.level == 0 }

/-- Indents the line that is about to start, if one is. -/
def startLine (w : Writer) : Writer :=
  if w.atLineStart then
    { w with output := w.output ++ indentation w.level, atLineStart := false }
  else w

/-- Writes a text, indented if it starts a line. -/
def write (w : Writer) (t : Text) : Writer :=
  if t.isEmpty then w else w.startLine.append t

/-- Ends the line. -/
def newline (w : Writer) : Writer :=
  { w with output := w.output ++ ['\n'], atLineStart := true }

/-- Writes a text and ends the line. -/
def writeLine (w : Writer) (t : Text) : Writer :=
  (w.write t).newline

/-- Writes a line and enters the block that it opens. -/
def openBlock (w : Writer) (t : Text) : Writer :=
  (w.writeLine t).indent

/-- Leaves a block and writes the line that closes it. -/
def closeBlock (w : Writer) (t : Text) : Writer :=
  w.dedent.writeLine t

/-- Writes a text as it is and ends the line if the text did not. -/
def writeRaw (w : Writer) (t : Text) : Writer :=
  if t.isEmpty then w
  else
    let w := w.append t
    let w := if t.getLast? = some '\n' then w else w.append ['\n']
    { w with atLineStart := true }

/-- Runs an operation inside of one more extension, by the number of that extension. -/
def inExtension (w : Writer) (f : Nat → Writer → Writer) : Writer :=
  let w := { w with depth := w.depth + 1 }
  let w := f w.depth w
  { w with depth := w.depth - 1 }

/-- Appending nothing changes nothing. -/
theorem append_nil (w : Writer) : w.append [] = w := by
  simp [append]

/-- Texts are appended one after another. -/
theorem append_append (w : Writer) (t u : Text) : (w.append t).append u = w.append (t ++ u) := by
  simp [append]

/-- A block that has just been opened is left again without a trace. -/
theorem dedent_indent (w : Writer) : w.indent.dedent = w := by
  simp [dedent, indent]

/-- At the start of a line, writing a line appends it with its indentation. -/
theorem writeLine_eq {w : Writer} (hw : w.atLineStart = true) {t : Text} (ht : t ≠ []) :
    w.writeLine t = w.append (line w.level t) := by
  have hempty : t.isEmpty = false := List.isEmpty_eq_false_iff.2 ht
  simp [writeLine, write, startLine, newline, append, line, hw, hempty]

/-- At the start of a line, writing code of the template appends it as it is laid out. -/
theorem writeRaw_eq {w : Writer} (hw : w.atLineStart = true) (t : Text) :
    w.writeRaw t = w.append (handwritten t) := by
  unfold writeRaw handwritten
  cases t with
  | nil => simp [append_nil]
  | cons c t =>
    by_cases hend : (c :: t).getLast? = some '\n'
    · simp [append, hend, hw]
    · simp [append, hend, hw]

end Writer

/-- Begun at the start of a line inside of `n` blocks and `d` extensions, the operation appends the
text, which is made of whole lines, and leaves the rest of the writer as it was. -/
structure Prints (n d : Nat) (f : Writer → Writer) (t : Text) : Prop where
  wholeLines : WholeLines t
  appends (w : Writer) : w.atLineStart = true → w.level = n → w.depth = d → f w = w.append t

namespace Prints

variable {n d : Nat} {f g : Writer → Writer} {t u : Text}

/-- What prints a text prints any text that is equal to it. -/
theorem of_eq (h : Prints n d f t) (htu : t = u) : Prints n d f u :=
  htu ▸ h

/-- Doing nothing prints nothing. -/
theorem nothing : Prints n d (fun w => w) [] where
  wholeLines := .inl rfl
  appends w _ _ _ := w.append_nil.symm

/-- Operations print one after another. -/
theorem andThen (hf : Prints n d f t) (hg : Prints n d g u) :
    Prints n d (fun w => g (f w)) (t ++ u) where
  wholeLines := hf.wholeLines.append hg.wholeLines
  appends w hw hn hd := by
    have hbehind : g (w.append t) = (w.append t).append u := hg.appends (w.append t) hw hn hd
    rw [hf.appends w hw hn hd, hbehind, Writer.append_append]

/-- Writing a text that is not empty prints a line. -/
theorem writeLine (ht : t ≠ []) : Prints n d (·.writeLine t) (line n t) where
  wholeLines := wholeLines_line n t
  appends w hw hn _ := by rw [Writer.writeLine_eq hw ht, hn]

/-- Writing a text that ends with something printed prints a line. -/
theorem writeCode (front : Text) {s : String} (hs : s ≠ "") :
    Prints n d (·.writeLine (front ++ s.toList)) (line n (front ++ s.toList)) :=
  writeLine (append_ne_nil front hs)

/-- Ending a line prints an empty line. -/
theorem newline : Prints n d Writer.newline ['\n'] where
  wholeLines := .inr rfl
  appends w hw _ _ := by simp [Writer.newline, Writer.append, hw]

/-- Writing code of the template prints it as it is laid out. -/
theorem writeRaw (t : Text) : Prints n d (·.writeRaw t) (handwritten t) where
  wholeLines := wholeLines_handwritten t
  appends _ hw _ _ := Writer.writeRaw_eq hw t

/-- What is written between the lines that open and close a block is one block deeper. -/
theorem block (h : Prints (n + 1) d f t) (first last : Text) (hfirst : first ≠ [])
    (hlast : last ≠ []) :
    Prints n d (fun w => (f (w.openBlock first)).closeBlock last)
      (line n first ++ t ++ line n last) where
  wholeLines := ((wholeLines_line n first).append h.wholeLines).append (wholeLines_line n last)
  appends w hw hn hd := by
    have hopen : w.openBlock first = (w.append (line n first)).indent := by
      rw [Writer.openBlock, Writer.writeLine_eq hw hfirst, hn]
    have hlevel : (w.append (line n first)).indent.level = n + 1 := congrArg (· + 1) hn
    have hinner : f (w.append (line n first)).indent =
        (w.append (line n first ++ t)).indent := by
      rw [h.appends (w.append (line n first)).indent hw hlevel hd]
      simp [Writer.append, Writer.indent]
    rw [hopen, hinner, Writer.closeBlock, Writer.dedent_indent]
    have hclose := Writer.writeLine_eq (w := w.append (line n first ++ t)) hw hlast
    rw [hclose, Writer.append_append]
    exact congrArg (fun m => w.append (line n first ++ t ++ line m last)) hn

/-- A line that closes a block and opens another one. -/
theorem turn (ht : t ≠ []) : Prints (n + 1) d (fun w => w.dedent.openBlock t) (line n t) where
  wholeLines := wholeLines_line n t
  appends w hw hn _ := by
    have hlevel : w.dedent.level = n := by simp [Writer.dedent, hn]
    rw [Writer.openBlock, Writer.writeLine_eq (w := w.dedent) hw ht, hlevel]
    simp [Writer.dedent, Writer.append, Writer.indent, hn]

/-- What is printed inside of an extension is printed with one more around it. -/
theorem inExtension {f : Nat → Writer → Writer} (h : Prints n (d + 1) (f (d + 1)) t) :
    Prints n d (·.inExtension f) t where
  wholeLines := h.wholeLines
  appends w hw hn hd := by
    have hdepth : w.depth + 1 = d + 1 := congrArg (· + 1) hd
    simp only [Writer.inExtension, hdepth, h.appends { w with depth := d + 1 } hw hn rfl]
    simp [Writer.append, hd]

/-- What is done under a condition prints under that condition. -/
theorem onlyIf (c : Prop) [Decidable c] (h : Prints n d f t) :
    Prints n d (fun w => if c then f w else w) (if c then t else []) := by
  by_cases hc : c
  · simpa only [if_pos hc] using h
  · simpa only [if_neg hc] using nothing

/-- A loop prints what its steps print. -/
theorem foldl {α : Type} {f : Writer → α → Writer} {text : α → Text} {xs : List α}
    (h : ∀ x ∈ xs, Prints n d (fun w => f w x) (text x)) :
    Prints n d (fun w => xs.foldl f w) (xs.flatMap text) := by
  induction xs with
  | nil => exact nothing
  | cons x xs ih =>
    obtain ⟨hx, hxs⟩ := List.forall_mem_cons.1 h
    exact hx.andThen (ih hxs)

end Prints

end Stencil.Code
