import Mathlib.Data.List.DropRight
import Mathlib.Data.List.Induction
import Stencil.Proofs.Token.Progress

/-!
# The positions of tokens

A position is never looked up in the source. The cursor carries it along and moves it over each
piece that it reads: comments, the spelling of a token, and what is left behind it. It is still the
position that one finds by counting, because a cursor behind `before` has moved over exactly the
characters of `before` (`Cursor.Behind`), whichever way it came there.

Every character moves a position forward, and every token but the end of the input is spelled by at
least one. So the positions of tokens increase until the input ends.
-/

set_option autoImplicit false

namespace Stencil

namespace Position

/-- A character leads to a later position. -/
theorem lt_step (p : Position) (c : Char) : p < p.step c := by
  unfold step
  split
  · left
    exact Nat.lt_succ_self p.line
  · right
    exact ⟨rfl, Nat.lt_succ_self p.column⟩

/-- What is later than a later position is later. -/
theorem lt_trans {p q r : Position} (hpq : p < q) (hqr : q < r) : p < r := by
  show p.line < r.line ∨ p.line = r.line ∧ p.column < r.column
  rcases hpq with hpq | ⟨hpq, hcolumn⟩
  · rcases hqr with hqr | ⟨hqr, -⟩ <;> omega
  · rcases hqr with hqr | ⟨hqr, hcolumn'⟩ <;> omega

/-- A text moves the position forward. -/
theorem lt_advance (p : Position) {t : Text} (h : t ≠ []) : p < p.advance t := by
  induction t generalizing p with
  | nil => exact absurd rfl h
  | cons c t ih =>
    rw [advance_cons]
    by_cases ht : t = []
    · rw [ht]
      exact p.lt_step c
    · exact lt_trans (p.lt_step c) (ih (p.step c) ht)

/-- The line grows by the line ends that are passed. -/
theorem line_advance (p : Position) (t : Text) :
    (p.advance t).line = p.line + t.count '\n' := by
  induction t generalizing p with
  | nil => rfl
  | cons c t ih =>
    rw [advance_cons, ih, List.count_cons]
    by_cases hc : c = '\n'
    · simp only [step, hc, if_true, beq_self_eq_true]
      omega
    · simp [step, hc]

/-- The column counts the characters behind the last line end. -/
theorem column_advance (t : Text) :
    (start.advance t).column = 1 + (t.rtakeWhile (· != '\n')).length := by
  -- The last character decides, so the text is taken apart from its end.
  induction t using List.reverseRecOn with
  | nil => rfl
  | append_singleton t c ih =>
    rw [advance_append, advance_cons, advance_nil, step]
    by_cases hc : c = '\n'
    · rw [if_pos hc, List.rtakeWhile_concat_neg _ _ _ (by simp [hc])]
      rfl
    · rw [if_neg hc, List.rtakeWhile_concat_pos _ _ _ (by simp [hc])]
      simp only [ih, List.length_append, List.length_singleton]
      omega

end Position

namespace Cursor

/-- The next token starts behind the comments that are skipped. -/
theorem place_next {c : Cursor} {before : Text} (h : c.Behind before) :
    c.next.1.span.start = (before ++ c.lexeme.comments).byteLength ∧
      c.next.1.position = Position.start.advance (before ++ c.lexeme.comments) := by
  constructor
  · simp [next, h.offset]
  · simp [next, h.position]

/-- The token that is answered to any call starts behind a piece of the source and has the position
behind that piece. -/
theorem place_after (source : Text) (n : Nat) :
    ∃ before rest, source = before ++ rest ∧
      ((start source).after n).next.1.span.start = before.byteLength ∧
      ((start source).after n).next.1.position = Position.start.advance before := by
  have hstart : (start source).Behind [] := ⟨rfl, rfl⟩
  obtain ⟨read, hrest, hread⟩ := behind_after hstart n
  rw [List.nil_append] at hread
  generalize (start source).after n = c at hrest hread ⊢
  have hpieces := c.pieces_lexeme
  refine ⟨read ++ c.lexeme.comments, c.lexeme.spelling ++ c.lexeme.residue ++ c.lexeme.rest, ?_,
    place_next hread⟩
  calc source = read ++ c.rest := hrest
    _ = _ := by rw [← hpieces]; simp

/-- Unless it is the end of the input, the next token stands before the one behind it. -/
theorem position_lt_next {c : Cursor} (h : c.next.1.kind ≠ .endOfInput) :
    c.next.1.position < c.next.2.next.1.position := by
  have hspelling : c.lexeme.spelling ≠ [] := fun hnil =>
    h ((Lexeme.read_spelling_eq_nil_iff c.inVerbatim c.rest).1 hnil)
  have hbetween : c.next.2.next.1.position = c.next.1.position.advance
      (c.lexeme.spelling ++ c.lexeme.residue ++ c.next.2.lexeme.comments) := by
    simp [next]
  rw [hbetween]
  apply Position.lt_advance
  simp [hspelling]

end Cursor

/-- The token that is answered to any call has the position that counting gives: with `before` for
the source up to the token's first byte, its line is one more than the line ends in `before`, and
its column one more than the characters behind the last of them. Until the input ends, the token of
the next call has a later position. -/
theorem token_positions_counted (source : Text) (n : Nat) :
    let token (calls : Nat) : Token := ((Cursor.start source).after calls).next.1
    (∃ before rest, source.splitBytes? (token n).span.start = some (before, rest) ∧
        (token n).position = Position.start.advance before ∧
        (token n).position.line = 1 + before.count '\n' ∧
        (token n).position.column = 1 + (before.rtakeWhile (· != '\n')).length) ∧
      ((token n).kind ≠ .endOfInput → (token n).position < (token (n + 1)).position) := by
  intro token
  constructor
  · obtain ⟨before, rest, hsource, hspan, hposition⟩ := Cursor.place_after source n
    refine ⟨before, rest, ?_, hposition, ?_, ?_⟩
    · show source.splitBytes? ((Cursor.start source).after n).next.1.span.start = _
      rw [hspan, hsource]
      exact Text.splitBytes?_append before rest
    · show ((Cursor.start source).after n).next.1.position.line = _
      rw [hposition, Position.line_advance]
      rfl
    · show ((Cursor.start source).after n).next.1.position.column = _
      rw [hposition, Position.column_advance]
  · intro hk
    show _ < ((Cursor.start source).after (n + 1)).next.1.position
    rw [Cursor.after_succ]
    exact Cursor.position_lt_next hk

/-- A token behind a comment that goes over a line end, with characters of two bytes around it. -/
theorem position_behind_comment :
    let page : Text := "a\né@*\n*@é@end"
    let token (calls : Nat) : Token := ((Cursor.start page).after calls).next.1
    (token 1).kind ≠ .endOfInput ∧ (token 1).span.start = 9 ∧ (token 1).position = ⟨3, 3⟩ ∧
      (token 1).position < (token 2).position := by
  intro page token
  have hkind : (token 1).kind ≠ .endOfInput := by decide +kernel
  have hspan : (token 1).span.start = 9 := by decide +kernel
  have hcut : page.splitBytes? 9 = some ("a\né@*\n*@".toList, "é@end".toList) := by
    decide +kernel
  obtain ⟨⟨before, rest, hsplit, hposition, -, -⟩, hlt⟩ := token_positions_counted page 1
  have hbefore : before = "a\né@*\n*@" := by
    rw [show ((Cursor.start page).after 1).next.1.span.start = 9 from hspan, hcut] at hsplit
    exact (Prod.mk.inj (Option.some.inj hsplit)).1.symm
  refine ⟨hkind, hspan, ?_, hlt hkind⟩
  rw [hbefore] at hposition
  exact hposition

end Stencil
