import Mathlib.Order.Bounds.Defs
import Stencil.Proofs.Token.Progress

/-!
# Verbatim bodies

Behind the opener of a verbatim block everything up to the first `@end` that is not the start of a
longer word is a single literal, whatever it looks like. Then comes that `@end`, or the end of the
input if there is none.

The cursor behind the opener looks for the place once. It goes on as the cursor at that place does
in template text (`stream_opened`), with the body in front unless the body is empty, and there the
only token that can come next is the `@end` (`stream_closing`). What is left is to say that the
place is the least offset of its sort, which `endsBlockAt_iff` carries over from the text behind the
opener to the bytes of the source.
-/

set_option autoImplicit false

namespace Stencil

/-- A digit, a letter of ASCII, or `_`. -/
def IsWordLetter (c : Char) : Prop :=
  '0' ≤ c ∧ c ≤ '9' ∨ 'A' ≤ c ∧ c ≤ 'Z' ∨ 'a' ≤ c ∧ c ≤ 'z' ∨ c = '_'

/-- The characters of a word are the digits, the letters of ASCII and the underscore. -/
theorem isWordChar_iff {c : Char} : isWordChar c = true ↔ IsWordLetter c := by
  have hword : isWordChar c =
      ((decide ('A' ≤ c ∧ c ≤ 'Z') || decide ('a' ≤ c) && decide (c ≤ 'z') ||
        decide ('0' ≤ c) && decide (c ≤ '9')) || c == '_') := rfl
  rw [hword]
  simp only [Bool.or_eq_true, Bool.and_eq_true, decide_eq_true_eq, beq_iff_eq]
  constructor
  · rintro (((h | h) | h) | h)
    · exact Or.inr (Or.inl h)
    · exact Or.inr (Or.inr (Or.inl h))
    · exact Or.inl h
    · exact Or.inr (Or.inr (Or.inr h))
  · rintro (h | h | h | h)
    · exact Or.inl (Or.inr h)
    · exact Or.inl (Or.inl (Or.inl h))
    · exact Or.inl (Or.inl (Or.inr h))
    · exact Or.inr h

/-- An `@end` that is not the start of a longer word stands at byte `n` of the source. -/
def EndsBlockAt (source : Text) (n : Nat) : Prop :=
  ∃ before after, source = before ++ "@end" ++ after ∧ before.byteLength = n ∧
    ∀ c, after.head? = some c → ¬ IsWordLetter c

/-- The sort, the text and the span of a token. -/
def Token.cut (t : Token) : TokenKind × Text × Span :=
  (t.kind, t.text, t.span)

/-- The literal of a verbatim body, which is left out if the body is empty. -/
def bodyCut (start stop : Nat) (body : Text) : List (TokenKind × Text × Span) :=
  if start = stop then [] else [(.literal, body, ⟨start, stop⟩)]

/-- Of two pieces at the start of a text the one with fewer bytes comes first. -/
theorem Text.append_of_byteLength_le {s t u v : Text} (h : s ++ t = u ++ v)
    (hle : s.byteLength ≤ u.byteLength) : ∃ w, u = s ++ w ∧ t = w ++ v := by
  rcases List.append_eq_append_iff.1 h with ⟨w, hu, ht⟩ | ⟨w, hs, hv⟩
  · exact ⟨w, hu, ht⟩
  · have hnil : w = [] := by
      by_contra hne
      have hpos := Text.byteLength_pos hne
      rw [hs, Text.byteLength_append] at hle
      omega
    subst hnil
    refine ⟨[], ?_, ?_⟩
    · simpa using hs.symm
    · simpa using hv.symm

/-- A block is closed where `@end` stands and no word goes on behind it. -/
theorem closesVerbatim_iff_end {t : Text} :
    closesVerbatim t = true ↔
      ∃ after, t = "@end" ++ after ∧ ∀ c, after.head? = some c → ¬ IsWordLetter c := by
  constructor
  · intro h
    simp only [closesVerbatim, Bool.and_eq_true, Bool.not_eq_true'] at h
    obtain ⟨hstart, hnext⟩ := h
    refine ⟨t.drop 4, (Text.startsWith_iff.1 hstart).symm, ?_⟩
    intro c hc hword
    rw [hc, Option.any_some, isWordChar_iff.2 hword] at hnext
    cases hnext
  · rintro ⟨after, rfl, hafter⟩
    have hstart : Text.startsWith ("@end" ++ after) "@end" = true := Text.startsWith_append _ _
    have hnext : after.head?.any isWordChar = false := by
      cases hc : after.head? with
      | none => rfl
      | some c =>
        rw [Option.any_some, Bool.eq_false_iff]
        intro hword
        exact hafter c hc (isWordChar_iff.1 hword)
    have hdrop : ("@end".toList ++ after).drop 4 = after := rfl
    rw [closesVerbatim, hstart, hdrop, hnext]
    rfl

/-- The places where a block can end, seen from a place in front of them. -/
theorem endsBlockAt_iff {before rest : Text} {n : Nat} (hn : before.byteLength ≤ n) :
    EndsBlockAt (before ++ rest) n ↔
      ∃ body tail, rest = body ++ tail ∧ (before ++ body).byteLength = n ∧
        closesVerbatim tail = true := by
  constructor
  · rintro ⟨front, after, hsource, hfront, hafter⟩
    rw [List.append_assoc] at hsource
    obtain ⟨body, rfl, hrest⟩ := Text.append_of_byteLength_le hsource (by omega)
    exact ⟨body, _, hrest, hfront, closesVerbatim_iff_end.2 ⟨after, rfl, hafter⟩⟩
  · rintro ⟨body, tail, rfl, hbody, hcloses⟩
    obtain ⟨after, rfl, hafter⟩ := closesVerbatim_iff_end.1 hcloses
    exact ⟨before ++ body, after, by simp, hbody, hafter⟩

/-- A block ends before the end of the source. -/
theorem EndsBlockAt.lt {source : Text} {n : Nat} (h : EndsBlockAt source n) :
    n < source.byteLength := by
  obtain ⟨before, after, rfl, rfl, -⟩ := h
  have hpos : 0 < Text.byteLength "@end" := by decide
  rw [Text.byteLength_append, Text.byteLength_append]
  omega

section Search

variable {before rest body tail : Text} (h : Text.breakAt closesVerbatim rest = (body, tail))

include h

/-- The body and what follows it make up the rest of the source. -/
theorem append_of_search : body ++ tail = rest := by
  have hpieces := Text.breakAt_append closesVerbatim rest
  rwa [h] at hpieces

/-- What follows the body closes the block, or nothing follows it. -/
theorem closes_of_search : tail = [] ∨ closesVerbatim tail = true := by
  by_cases htail : tail = []
  · exact Or.inl htail
  · have hholds := @Text.breakAt_holds closesVerbatim rest
    rw [h] at hholds
    exact Or.inr (hholds htail)

/-- No block can end before the place that is found. -/
theorem not_endsBlockAt {n : Nat} (hn : before.byteLength ≤ n)
    (hlt : n < (before ++ body).byteLength) : ¬ EndsBlockAt (before ++ rest) n := by
  rw [endsBlockAt_iff hn]
  rintro ⟨skipped, found, hrest, hskipped, hcloses⟩
  rw [← hskipped, Text.byteLength_append, Text.byteLength_append] at hlt
  obtain ⟨missed, hbody, hfound⟩ := Text.append_of_byteLength_le
    (hrest.symm.trans (append_of_search h).symm) (by omega)
  have hmissed : missed ≠ [] := by
    rintro rfl
    rw [hbody, List.append_nil] at hlt
    omega
  have hfirst := Text.breakAt_first closesVerbatim (t := rest) (x := skipped) (y := missed)
    (by rw [h, hbody]) hmissed
  rw [h, ← hfound, hcloses] at hfirst
  cases hfirst

/-- The place that is found is the first one at which a block can end. -/
theorem isLeast_of_search (htail : tail ≠ []) :
    IsLeast {n | before.byteLength ≤ n ∧ EndsBlockAt (before ++ rest) n}
      (before ++ body).byteLength := by
  have hle : before.byteLength ≤ (before ++ body).byteLength := by
    rw [Text.byteLength_append]
    omega
  constructor
  · refine ⟨hle, (endsBlockAt_iff hle).2 ⟨body, tail, (append_of_search h).symm, rfl, ?_⟩⟩
    exact (closes_of_search h).resolve_left htail
  · rintro n ⟨hn, hends⟩
    by_contra hlt
    exact not_endsBlockAt h hn (by omega) hends

end Search

namespace Cursor

/-- The cursor behind the body of a verbatim block. -/
def leave (c : Cursor) (body tail : Text) : Cursor :=
  { rest := tail
    offset := c.offset + body.byteLength
    position := c.position.advance body }

/-- Behind an opener the body comes first, if there is one, and then what comes behind it. -/
theorem stream_opened {c : Cursor} (hv : c.inVerbatim = true) {body tail : Text}
    (h : Text.breakAt closesVerbatim c.rest = (body, tail)) :
    c.stream.toList.map Token.cut =
      bodyCut c.offset (c.offset + body.byteLength) body ++
        (c.leave body tail).stream.toList.map Token.cut := by
  have hlexeme : c.lexeme = Lexeme.ofVerbatim c.rest := by
    rw [lexeme, Lexeme.read, hv]
    rfl
  rw [Lexeme.ofVerbatim, h] at hlexeme
  cases body with
  | nil =>
    -- Without a body the next token is read as in template text.
    have hrest : tail = c.rest := append_of_search h
    have hnext : c.next = (c.leave [] tail).next := by
      have hleave : (c.leave [] tail).lexeme = Lexeme.ofTemplate c.rest := by
        rw [lexeme, ← hrest]
        rfl
      simp only [next, hleave, hlexeme]
      rfl
    rw [stream_congr hnext, Text.byteLength_nil, Nat.add_zero, bodyCut, if_pos rfl, List.nil_append]
  | cons a body =>
    have hpos := Text.byteLength_pos (List.cons_ne_nil a body)
    have hkind : c.next.1.kind ≠ .endOfInput := by
      simp [next, hlexeme]
    have hbehind : c.next.2 = c.leave (a :: body) tail := by
      simp [next, hlexeme, leave, TokenKind.opensVerbatim]
    have htoken : c.next.1.cut =
        (.literal, a :: body, ⟨c.offset, c.offset + Text.byteLength (a :: body)⟩) := by
      simp [next, hlexeme, Token.cut]
    rw [stream_of_next hkind, hbehind, bodyCut, if_neg (by omega), ← htoken]
    rfl

/-- At the end of the source the end of the input comes next. -/
theorem stream_ended {c : Cursor} (h : c.rest = []) :
    c.stream.toList.map Token.cut = [(.endOfInput, [], ⟨c.offset, c.offset⟩)] := by
  have hlexeme := lexeme_of_nil h
  have hkind : c.next.1.kind = .endOfInput := by
    simp [next, hlexeme]
  rw [stream_of_end hkind]
  simp [TokenStream.toList, Token.cut, next, hlexeme]

/-- Where a block can end, its `@end` comes next. -/
theorem stream_closing {c : Cursor} (hv : c.inVerbatim = false)
    (h : closesVerbatim c.rest = true) :
    [(.close, [], ⟨c.offset, c.offset + 4⟩)] <+: c.stream.toList.map Token.cut := by
  obtain ⟨rest, -, hread⟩ := Lexeme.ofTemplate_of_closes h
  have hlexeme : c.lexeme = { kind := .close, text := [], spelling := "@end", rest } := by
    rw [lexeme, Lexeme.read, hv]
    exact hread
  have hkind : c.next.1.kind ≠ .endOfInput := by
    simp [next, hlexeme]
  have htoken : c.next.1.cut = (.close, [], ⟨c.offset, c.offset + 4⟩) := by
    rw [Token.cut, next, hlexeme]
    rfl
  rw [stream_of_next hkind, ← htoken]
  exact ⟨c.next.2.stream.toList.map Token.cut, rfl⟩

/-- Nothing is left behind an opener. -/
theorem offset_of_opener {c : Cursor} {block : Verbatim} (h : c.next.1.kind = .verbatim block) :
    c.next.2.offset = c.next.1.span.stop := by
  have hkind : c.lexeme.kind = .verbatim block := h
  obtain ⟨phase, hphase⟩ := c.exists_meets
  have hresidue : c.lexeme.residue = [] :=
    (reads_lexeme hphase).1.residue.eq_nil (by simp [hkind]) (by simp [hkind])
  simp [next, hresidue]

/-- What comes behind an opener, told by the offsets of the source. -/
theorem stream_of_opener {c : Cursor} {before : Text} (hb : c.Behind before)
    (hv : c.inVerbatim = true) :
    ∃ j body, (before ++ c.rest).slice? c.offset j = some body ∧
      (IsLeast {i | c.offset ≤ i ∧ EndsBlockAt (before ++ c.rest) i} j ∧
          bodyCut c.offset j body ++ [(.close, [], ⟨j, j + 4⟩)] <+:
            c.stream.toList.map Token.cut ∨
        (∀ i, c.offset ≤ i → ¬ EndsBlockAt (before ++ c.rest) i) ∧
          j = (before ++ c.rest).byteLength ∧
          c.stream.toList.map Token.cut =
            bodyCut c.offset j body ++ [(.endOfInput, [], ⟨j, j⟩)]) := by
  obtain ⟨body, tail, hsearch⟩ : ∃ body tail, Text.breakAt closesVerbatim c.rest = (body, tail) :=
    ⟨_, _, rfl⟩
  have hrest : body ++ tail = c.rest := append_of_search hsearch
  have hj : c.offset + body.byteLength = (before ++ body).byteLength := by
    rw [hb.offset, Text.byteLength_append]
  refine ⟨c.offset + body.byteLength, body, ?_, ?_⟩
  · rw [hb.offset, ← hrest, ← List.append_assoc]
    exact Text.slice?_append before body tail
  rw [stream_opened hv hsearch]
  by_cases htail : tail = []
  · -- Every `@end` of the source would stand before its end, and so before `j`.
    subst htail
    rw [List.append_nil] at hrest
    refine Or.inr ⟨?_, by rw [hj, hrest], ?_⟩
    · intro i hi hends
      have hlt := hends.lt
      rw [hb.offset] at hi
      exact not_endsBlockAt hsearch hi (by rwa [hrest]) hends
    · exact congrArg _ (stream_ended rfl)
  · have hcloses := (closes_of_search hsearch).resolve_left htail
    refine Or.inl ⟨?_, ?_⟩
    · rw [hj, hb.offset]
      exact isLeast_of_search hsearch htail
    · exact (List.prefix_append_right_inj _).2 (stream_closing (c := c.leave body tail) rfl hcloses)

end Cursor

/-- The body of a verbatim block is not interpreted. Behind the opener, which ends at byte `e`, the
source up to byte `j` comes as a single literal, unless that is empty. Here `j` is the first place
from `e` on where an `@end` stands that is not the start of a longer word, and that `@end` comes
next; or there is no such place, and the source and the input end at `j`. -/
theorem verbatim_body_uninterpreted {source : Text} {front back : List Token} {opener : Token}
    {block : Verbatim} (hs : (tokenize source).toList = front ++ opener :: back)
    (hk : opener.kind = .verbatim block) :
    let e := opener.span.stop
    ∃ j body, source.slice? e j = some body ∧
      (IsLeast {i | e ≤ i ∧ EndsBlockAt source i} j ∧
          bodyCut e j body ++ [(.close, [], ⟨j, j + 4⟩)] <+: back.map Token.cut ∨
        (∀ i, e ≤ i → ¬ EndsBlockAt source i) ∧ j = source.byteLength ∧
          back.map Token.cut = bodyCut e j body ++ [(.endOfInput, [], ⟨j, j⟩)]) := by
  obtain ⟨hopener, hback⟩ := Cursor.stream_split (c := Cursor.start source) hs (by simp [hk])
  have hopens : ((Cursor.start source).after front.length).next.1.kind = .verbatim block := by
    rw [hopener, hk]
  have hv : ((Cursor.start source).after front.length).next.2.inVerbatim = true :=
    congrArg TokenKind.opensVerbatim hopens
  have hstart : (Cursor.start source).Behind [] := ⟨rfl, rfl⟩
  obtain ⟨before, hsource, hbehind⟩ := Cursor.behind_after hstart (front.length + 1)
  rw [Cursor.after_succ] at hsource hbehind
  have hread := Cursor.stream_of_opener hbehind hv
  have hwhole : [] ++ before ++ ((Cursor.start source).after front.length).next.2.rest = source :=
    hsource.symm
  rwa [hwhole, hback, Cursor.offset_of_opener hopens, hopener] at hread

/-- A body with a comment that is not closed, marks, and an `@end` that starts a longer word. -/
theorem body_with_marks :
    let page : Text := "@text é@* @@ @\x7d@endpoint@end"
    let opener : Token := ⟨.verbatim .text, [], ⟨1, 1⟩, ⟨0, 5⟩⟩
    ∃ back, (tokenize page).toList = [] ++ opener :: back ∧ opener.kind = .verbatim .text ∧
      IsLeast {i | 5 ≤ i ∧ EndsBlockAt page i} 25 ∧
      [(.literal, " é@* @@ @\x7d@endpoint".toList, ⟨5, 25⟩), (.close, [], ⟨25, 29⟩)] <+:
        back.map Token.cut := by
  intro page opener
  have hs : (tokenize page).toList = [] ++ opener :: (tokenize page).toList.tail := by
    decide +kernel
  have hcuts : (tokenize page).toList.tail.map Token.cut =
      [(.literal, " é@* @@ @\x7d@endpoint".toList, ⟨5, 25⟩), (.close, [], ⟨25, 29⟩),
        (.endOfInput, [], ⟨29, 29⟩)] := by decide +kernel
  have hends : EndsBlockAt page 25 :=
    ⟨"@text é@* @@ @\x7d@endpoint", [], by decide +kernel, by decide +kernel, by simp⟩
  refine ⟨(tokenize page).toList.tail, hs, rfl, ?_⟩
  obtain ⟨j, body, -, ⟨hleast, hfollow⟩ | ⟨hnone, -, -⟩⟩ := verbatim_body_uninterpreted hs rfl
  · obtain rfl : j = 25 := by
      rw [hcuts, bodyCut] at hfollow
      split at hfollow
      · have hclose := (List.cons_prefix_cons.1 hfollow).1
        cases congrArg Prod.fst hclose
      · have hliteral := (List.cons_prefix_cons.1 hfollow).1
        exact congrArg (fun cut => cut.2.2.stop) hliteral
    rw [hcuts]
    exact ⟨hleast, _, rfl⟩
  · exact absurd hends (hnone 25 (by decide))

end Stencil
