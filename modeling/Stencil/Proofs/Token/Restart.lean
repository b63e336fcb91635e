import Stencil.Proofs.Token.Place

/-!
# Reading starts again at every token

A cursor remembers nothing of what it has read but how far it has come and whether a verbatim body
comes next. Wherever no body comes next, one may as well cut the source there and read what is left
as a source of its own: the same tokens come, and only the places that they are given are counted
from the cut (`reading_restarts`). In particular an illegal token does no harm to those behind it.

How a place that is counted from the cut is found in the whole source is said by `rebase`. Lines and
bytes are added up; columns are added up only on the line that the cut divides. Each call of a
cursor commutes with it (`Cursor.next_rebase`), and so do all calls together.
-/

set_option autoImplicit false

namespace Stencil

namespace Position

/-- The position in a whole source of what stands at `p` behind a cut at `base`. -/
def rebase (base p : Position) : Position :=
  { line := p.line + (base.line - 1)
    column := if p.line = 1 then p.column + (base.column - 1) else p.column }

/-- Lines are counted from one on. -/
theorem one_le_line_advance {p : Position} (h : 1 ≤ p.line) (t : Text) :
    1 ≤ (p.advance t).line := by
  rw [line_advance]
  omega

/-- A line end leaves the line of the cut, so that the columns behind it are those of the whole
source. -/
theorem rebase_step (base : Position) {p : Position} (h : 1 ≤ p.line) (c : Char) :
    base.rebase (p.step c) = (base.rebase p).step c := by
  unfold step
  split
  · have hline : p.line + 1 ≠ 1 := by omega
    simp only [rebase, hline, if_false, mk.injEq, and_true]
    omega
  · simp only [rebase, mk.injEq, true_and]
    split <;> omega

/-- Passing a text behind a cut and before it lead to the same position. -/
theorem rebase_advance (base : Position) {p : Position} (h : 1 ≤ p.line) (t : Text) :
    base.rebase (p.advance t) = (base.rebase p).advance t := by
  induction t generalizing p with
  | nil => rfl
  | cons c t ih =>
    have hstep : 1 ≤ (p.step c).line := one_le_line_advance h [c]
    rw [advance_cons, ih hstep, rebase_step base h, advance_cons]

/-- The cut itself is the start of what follows it. -/
theorem rebase_start (before : Text) :
    (start.advance before).rebase start = start.advance before := by
  have hline : 1 ≤ (start.advance before).line := one_le_line_advance (Nat.le_refl 1) before
  have hcolumn := column_advance before
  generalize start.advance before = base at hline hcolumn
  obtain ⟨line, column⟩ := base
  simp only [rebase, start, if_true, mk.injEq]
  simp only at hline hcolumn
  omega

end Position

/-- The bytes in a whole source of a span behind a cut at byte `n`. -/
def Span.rebase (n : Nat) (s : Span) : Span :=
  ⟨s.start + n, s.stop + n⟩

/-- The token in a whole source of a token that was read behind a cut at the cursor. -/
def Token.rebase (c : Cursor) (t : Token) : Token :=
  { t with position := c.position.rebase t.position, span := t.span.rebase c.offset }

namespace Cursor

/-- The cursor in a whole source for a cursor `d` behind a cut at `c`. -/
def rebase (c d : Cursor) : Cursor :=
  { d with offset := d.offset + c.offset, position := c.position.rebase d.position }

/-- The tokens that are answered to several calls. -/
def answers (c : Cursor) : Nat → List Token
  | 0 => []
  | n + 1 => c.next.1 :: c.next.2.answers n

/-- Later calls are answered from where the earlier ones end. -/
theorem answers_add (c : Cursor) (m n : Nat) :
    c.answers (m + n) = c.answers m ++ (c.after m).answers n := by
  induction m generalizing c with
  | zero => rw [Nat.zero_add]; rfl
  | succ m ih =>
    rw [Nat.succ_add, answers, ih]
    rfl

/-- A verbatim body comes next where the last token has opened one. -/
theorem inVerbatim_after {c : Cursor} (h : c.inVerbatim = false) (n : Nat) :
    (c.after n).inVerbatim = followsOpener (c.answers n) := by
  cases n with
  | zero => exact h
  | succ n =>
    have hlast : c.answers (n + 1) = c.answers n ++ [(c.after n).next.1] := answers_add c n 1
    rw [after_succ, hlast, followsOpener, List.getLast?_concat]
    rfl

/-- A call behind the cut gives what it gives in the whole source. -/
theorem next_rebase (c : Cursor) {d : Cursor} (h : 1 ≤ d.position.line) :
    (c.rebase d).next = (d.next.1.rebase c, c.rebase d.next.2) := by
  have hlexeme : (c.rebase d).lexeme = d.lexeme := rfl
  have hcomments := Position.one_le_line_advance h d.lexeme.comments
  have hspelling := Position.one_le_line_advance hcomments d.lexeme.spelling
  have hposition : (c.rebase d).position = c.position.rebase d.position := rfl
  have hoffset : (c.rebase d).offset = d.offset + c.offset := rfl
  rw [next, hlexeme, hposition, hoffset]
  simp only [next, rebase, Token.rebase, Span.rebase, Position.rebase_advance _ h,
    Position.rebase_advance _ hcomments, Position.rebase_advance _ hspelling, Nat.add_right_comm]

/-- A token does not lead back before the first line. -/
theorem one_le_line_next {d : Cursor} (h : 1 ≤ d.position.line) : 1 ≤ d.next.2.position.line := by
  have hpieces : d.next.2.position = d.position.advance
      (d.lexeme.comments ++ d.lexeme.spelling ++ d.lexeme.residue) := by
    simp [next]
  rw [hpieces]
  exact Position.one_le_line_advance h _

/-- Any number of calls behind the cut give what they give in the whole source. -/
theorem answers_rebase (c : Cursor) {d : Cursor} (h : 1 ≤ d.position.line) (n : Nat) :
    (c.rebase d).answers n = (d.answers n).map (Token.rebase c) := by
  induction n generalizing d with
  | zero => rfl
  | succ n ih => rw [answers, next_rebase c h, ih (one_le_line_next h), answers, List.map_cons]

/-- The tokens behind a cut are those of the whole source, but for their places. -/
theorem toList_stream_rebase (c : Cursor) {d : Cursor} (h : 1 ≤ d.position.line) :
    (c.rebase d).stream.toList = d.stream.toList.map (Token.rebase c) := by
  induction hn : d.rest.length using Nat.strong_induction_on generalizing d with
  | h n ih =>
  -- The sort of a token does not depend on where it stands, so both streams end at the same call.
  have hnext := next_rebase c h
  have hkind : (c.rebase d).next.1.kind = d.next.1.kind := by rw [hnext]; rfl
  by_cases hk : d.next.1.kind = .endOfInput
  · rw [stream_of_end hk, stream_of_end (hkind.trans hk), hnext]
    rfl
  · have hlt : d.next.2.rest.length < n := hn ▸ next_rest_lt hk
    have htail := ih _ hlt (one_le_line_next h) rfl
    rw [stream_of_next hk, stream_of_next (hkind ▸ hk), hnext]
    exact congrArg (d.next.1.rebase c :: ·) htail

/-- Where no verbatim body comes next, what is left to read is a source behind a cut. -/
theorem rebase_start {c : Cursor} {before : Text} (hb : c.Behind before)
    (hv : c.inVerbatim = false) : c.rebase (start c.rest) = c := by
  have hposition : c.position.rebase Position.start = c.position := by
    rw [hb.position, Position.rebase_start]
  obtain ⟨rest, offset, position, inVerbatim⟩ := c
  simp only [rebase, start, mk.injEq, true_and, Nat.zero_add]
  exact ⟨hposition, hv.symm⟩

end Cursor

/-- Behind any number of calls whose last token, if there is one, does not open a verbatim block,
the source can be cut: with `rest` for what follows the byte that the cursor has come to, all
further calls give the tokens that reading `rest` alone gives, at the places that these have in the
whole source. What stands before the cut, illegal tokens included, counts for the places only. -/
theorem reading_restarts (source : Text) (n : Nat)
    (h : followsOpener ((Cursor.start source).answers n) = false) :
    let c := (Cursor.start source).after n
    ∃ before rest, source.splitBytes? c.offset = some (before, rest) ∧
      c.position = Position.start.advance before ∧
      (∀ k, (Cursor.start source).answers (n + k) =
        (Cursor.start source).answers n ++ ((Cursor.start rest).answers k).map (Token.rebase c)) ∧
      c.stream.toList = (tokenize rest).toList.map (Token.rebase c) := by
  intro c
  have hbegin : (Cursor.start source).Behind [] := ⟨rfl, rfl⟩
  obtain ⟨before, hsource, hbehind⟩ := Cursor.behind_after hbegin n
  rw [List.nil_append] at hbehind
  have hverbatim : c.inVerbatim = false := (Cursor.inVerbatim_after rfl n).trans h
  have hcut : c.rebase (Cursor.start c.rest) = c := Cursor.rebase_start hbehind hverbatim
  have hline : 1 ≤ (Cursor.start c.rest).position.line := Nat.le_refl 1
  refine ⟨before, c.rest, ?_, hbehind.position, ?_, ?_⟩
  · have hsplit := Text.splitBytes?_append before c.rest
    rwa [← hbehind.offset, ← hsource] at hsplit
  · intro k
    rw [Cursor.answers_add, ← Cursor.answers_rebase c hline, hcut]
  · rw [tokenize, ← Cursor.toList_stream_rebase c hline, hcut]

/-- An illegal token on the line that the cut divides, with a comment that goes over a line end
before it. -/
theorem reading_restarts_behind_illegal :
    let page : Text := "é@*\n*@@bogus é\n@= a @"
    let c := (Cursor.start page).after 2
    followsOpener ((Cursor.start page).answers 2) = false ∧
      ((Cursor.start page).answers 2).map Token.kind = [.literal, .illegal] ∧
      c.position = ⟨2, 9⟩ ∧
      c.stream.toList = (tokenize " é\n@= a @").toList.map (Token.rebase c) := by
  intro page c
  have hopener : followsOpener ((Cursor.start page).answers 2) = false := by decide +kernel
  have hoffset : c.offset = 13 := by decide +kernel
  have hsplit : page.splitBytes? 13 = some ("é@*\n*@@bogus".toList, " é\n@= a @".toList) := by
    decide +kernel
  obtain ⟨before, rest, hcut, hposition, -, hstream⟩ := reading_restarts page 2 hopener
  rw [show ((Cursor.start page).after 2).offset = 13 from hoffset, hsplit] at hcut
  obtain ⟨rfl, rfl⟩ := Prod.mk.inj (Option.some.inj hcut)
  exact ⟨hopener, by decide +kernel, hposition, hstream⟩

end Stencil
