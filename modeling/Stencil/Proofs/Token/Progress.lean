import Stencil.Proofs.Token.Coverage

/-!
# Reading tokens ends

A cursor can be asked for the next token as often as one likes. Each call moves it forward over
whole characters until one call answers with the end of the input, and from then on every call
answers the same (`next_of_end`). The tokens of a stream are the answers to the calls in order
(`next_after`), and since each of them takes at least one byte, there are no more of them than
bytes.
-/

set_option autoImplicit false

namespace Stencil

/-- A text has at least as many bytes as characters. -/
theorem Text.length_le_byteLength (t : Text) : t.length ≤ t.byteLength := by
  induction t with
  | nil => exact Nat.le_refl 0
  | cons c t ih =>
    have hc : 0 < c.utf8Size := c.utf8Size_pos
    rw [List.length_cons, Text.byteLength_cons]
    omega

namespace Cursor

/-- The cursor behind several calls. -/
def after (c : Cursor) : Nat → Cursor
  | 0 => c
  | n + 1 => c.next.2.after n

/-- The last of several calls is made behind the others. -/
theorem after_succ (c : Cursor) (n : Nat) : c.after (n + 1) = (c.after n).next.2 := by
  induction n generalizing c with
  | zero => rfl
  | succ n ih => exact ih c.next.2

/-- Calls are made one after another. -/
theorem after_add (c : Cursor) (m n : Nat) : c.after (m + n) = (c.after m).after n := by
  induction m generalizing c with
  | zero => rw [Nat.zero_add]; rfl
  | succ m ih =>
    rw [Nat.succ_add]
    exact ih c.next.2

/-- Every cursor is somewhere. -/
theorem exists_meets (c : Cursor) : ∃ phase, c.Meets phase := by
  cases hv : c.inVerbatim with
  | false => exact ⟨.template, hv⟩
  | true => exact ⟨.opened, hv⟩

/-- At the end of the input nothing is spelled, left behind or left to read. -/
theorem lexeme_of_end {c : Cursor} (h : c.next.1.kind = .endOfInput) :
    c.lexeme.spelling = [] ∧ c.lexeme.residue = [] ∧ c.lexeme.rest = [] ∧ c.lexeme.text = [] := by
  have hkind : c.lexeme.kind = .endOfInput := h
  obtain ⟨phase, hphase⟩ := c.exists_meets
  obtain ⟨hreads, -⟩ := reads_lexeme hphase
  have hspells := hreads.spells
  rw [hkind] at hspells
  exact ⟨hspells.1, hreads.residue.eq_nil (by simp [hkind]) (by simp [hkind]), hreads.rest hkind,
    hspells.2⟩

/-- Where nothing is left to read, the end of the input comes next. -/
theorem lexeme_of_nil {c : Cursor} (h : c.rest = []) :
    c.lexeme = { kind := .endOfInput, text := [], spelling := [], rest := [] } := by
  have hpieces : c.lexeme.pieces = [] := (Lexeme.read_pieces c.inVerbatim c.rest).trans h
  simp only [Lexeme.pieces, List.append_eq_nil_iff] at hpieces
  obtain ⟨⟨⟨hcomments, hspelling⟩, hresidue⟩, hrest⟩ := hpieces
  have hkind : c.lexeme.kind = .endOfInput :=
    (Lexeme.read_spelling_eq_nil_iff c.inVerbatim c.rest).1 hspelling
  obtain ⟨-, -, -, htext⟩ := lexeme_of_end (c := c) hkind
  generalize c.lexeme = l at *
  obtain ⟨kind, text, comments, spelling, residue, rest⟩ := l
  simp only at hkind htext hcomments hspelling hresidue hrest
  rw [hkind, htext, hcomments, hspelling, hresidue, hrest]

/-- Behind the end of the input comes the end of the input. -/
theorem next_of_end {c : Cursor} (h : c.next.1.kind = .endOfInput) :
    c.next.2.next = (c.next.1, c.next.2) := by
  have hkind : c.lexeme.kind = .endOfInput := h
  obtain ⟨hspelling, hresidue, hrest, htext⟩ := lexeme_of_end h
  have hbehind := lexeme_of_nil (c := c.next.2) hrest
  rw [next, hbehind]
  simp [next, hkind, hspelling, hresidue, hrest, htext, TokenKind.opensVerbatim]

/-- All calls behind the end of the input give the same. -/
theorem next_after_of_end {c : Cursor} (h : c.next.1.kind = .endOfInput) (n : Nat) :
    (c.after n).next.1 = c.next.1 := by
  induction n generalizing c with
  | zero => rfl
  | succ n ih =>
    have hnext : c.next.2.next.1 = c.next.1 := by rw [next_of_end h]
    rw [after, ih (by rw [hnext]; exact h), hnext]

/-- The tokens of the stream are the answers to the calls, and then comes the end of the input. -/
theorem next_after (c : Cursor) (n : Nat) :
    (c.after n).next.1 = c.stream.tokens[n]?.getD c.stream.last := by
  induction n generalizing c with
  | zero =>
    by_cases hk : c.next.1.kind = .endOfInput
    · rw [stream_of_end hk]
      rfl
    · rw [stream_of_next hk]
      rfl
  | succ n ih =>
    by_cases hk : c.next.1.kind = .endOfInput
    · rw [next_after_of_end hk, stream_of_end hk]
      rfl
    · rw [after, ih, stream_of_next hk]
      rfl

/-- Behind some of the tokens the stream goes on with the others. -/
theorem toList_stream_after {c : Cursor} {n : Nat} (h : n ≤ c.stream.tokens.length) :
    (c.after n).stream.toList = c.stream.toList.drop n := by
  induction n generalizing c with
  | zero => rfl
  | succ n ih =>
    have hk : c.next.1.kind ≠ .endOfInput := by
      intro hk
      rw [stream_of_end hk] at h
      exact absurd h (Nat.not_succ_le_zero n)
    rw [stream_of_next hk] at h ⊢
    rw [after, ih (Nat.le_of_succ_le_succ h)]
    rfl

/-- A token of the stream is answered to the call behind the tokens in front of it, and the stream
goes on with the tokens behind it. -/
theorem stream_split {c : Cursor} {front back : List Token} {t : Token}
    (h : c.stream.toList = front ++ t :: back) (hk : t.kind ≠ .endOfInput) :
    (c.after front.length).next.1 = t ∧
      (c.after front.length).next.2.stream.toList = back := by
  have hlength : front.length ≤ c.stream.tokens.length := by
    have hcount := congrArg List.length h
    simp only [TokenStream.toList, List.length_append, List.length_cons, List.length_nil] at hcount
    omega
  have hdrop : (c.after front.length).stream.toList = t :: back := by
    rw [toList_stream_after hlength, h, List.drop_left]
  by_cases hend : (c.after front.length).next.1.kind = .endOfInput
  · rw [stream_of_end hend] at hdrop
    obtain ⟨ht, -⟩ := List.cons.inj hdrop
    rw [← ht] at hk
    exact absurd hend hk
  · rw [stream_of_next hend] at hdrop
    exact List.cons.inj hdrop

/-- Any other token takes at least one byte. -/
theorem offset_lt_next {c : Cursor} (h : c.next.1.kind ≠ .endOfInput) :
    c.offset < c.next.2.offset := by
  have hspelling : c.lexeme.spelling ≠ [] := fun hnil =>
    h ((Lexeme.read_spelling_eq_nil_iff c.inVerbatim c.rest).1 hnil)
  have hpos := Text.byteLength_pos hspelling
  simp only [next]
  omega

/-- Calls move the cursor over whole characters. -/
theorem behind_after {c : Cursor} {before : Text} (h : c.Behind before) (n : Nat) :
    ∃ read, c.rest = read ++ (c.after n).rest ∧ (c.after n).Behind (before ++ read) := by
  induction n generalizing c before with
  | zero => exact ⟨[], rfl, by rw [List.append_nil]; exact h⟩
  | succ n ih =>
    have hpieces := c.pieces_lexeme
    obtain ⟨read, hrest, hbehind⟩ := ih (behind_next h)
    refine ⟨c.lexeme.comments ++ c.lexeme.spelling ++ c.lexeme.residue ++ read, ?_, ?_⟩
    · rw [← hpieces, List.append_assoc _ read]
      exact congrArg _ hrest
    · simpa only [after, List.append_assoc] using hbehind

/-- There are no more tokens than characters left. -/
theorem length_stream_le (c : Cursor) : c.stream.tokens.length ≤ c.rest.length := by
  induction hn : c.rest.length using Nat.strong_induction_on generalizing c with
  | h n ih =>
  by_cases hk : c.next.1.kind = .endOfInput
  · rw [stream_of_end hk]
    exact Nat.zero_le n
  · have hlt : c.next.2.rest.length < n := hn ▸ next_rest_lt hk
    have hle := ih _ hlt c.next.2 rfl
    rw [stream_of_next hk, List.length_cons]
    omega

end Cursor

end Stencil
