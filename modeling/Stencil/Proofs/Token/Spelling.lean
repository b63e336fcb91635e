import Mathlib.Data.List.Infix
import Stencil.Proofs.Document.Terminal

/-!
# Reading undoes spelling

`Piece` lists what a source can be spelled from: literal text, displays, line directives, blocks
and comments, each in its plainest spelling. A row of pieces is well spelled if no piece runs into
the next one (`WellSpelled`). Then the reader gives back the tokens of the pieces, one after
another, and nothing else.

For each sort of piece one lemma says which lexeme is read where the piece stands
(`Lexeme.ofTemplate_text` and those behind it). A comment gives no lexeme: the cursor in front of it
goes on as the cursor behind it does (`Cursor.next_of_comment`).
-/

set_option autoImplicit false

namespace Stencil

/-- Whether the text would go on with a word that stands in front of it. -/
def continuesWord (t : Text) : Bool :=
  t.head?.any isWordChar

/-- The text can be the body of a verbatim block: it does not go on with the word of the opener,
and the first `@end` that could close the block is the one behind the body. -/
structure FitsVerbatim (body : Text) : Prop where
  apart : continuesWord body = false
  unclosed : ∀ (x : Text) (c : Char) (y : Text),
    body ++ "@end" = x ++ "@end" ++ c :: y → isWordChar c = true

/-- What a source can be spelled from. -/
inductive Piece
  /-- Literal text without `@`. -/
  | text (t : Text)
  /-- A literal `@`. -/
  | mark
  | display (how : Display) (payload : Text)
  | line (directive : LineDirective) (payload : Text)
  | otherwise
  /-- `@end` -/
  | close
  /-- The other spelling of `@end`. -/
  | brace
  /-- A verbatim block with its `@end`. -/
  | block (block : Verbatim) (body : Text)
  | comment (body : Text)
  deriving DecidableEq, Repr

namespace Piece

/-- How the piece is spelled. -/
def spelling : Piece → Text
  | text t => t
  | mark => "@@"
  | display how payload => '@' :: (how.marker ++ ' ' :: (payload ++ " @"))
  | line directive payload => '@' :: (directive.word ++ ' ' :: (payload ++ "\n"))
  | otherwise => "@else"
  | close => "@end"
  | brace => "@\x7d"
  | block b body => '@' :: (b.word ++ (body ++ "@end"))
  | comment body => "@*" ++ body ++ "*@"

/-- The sorts and texts of the tokens that the piece stands for. -/
def tokens : Piece → List (TokenKind × Text)
  | text t => [(.literal, t)]
  | mark => [(.literal, "@")]
  | display how payload => [(.display how, payload)]
  | line directive payload => [(.line directive, payload)]
  | otherwise => [(.otherwise, [])]
  | close | brace => [(.close, [])]
  | block b body =>
    (.verbatim b, []) :: ((if body = [] then [] else [(.literal, body)]) ++ [(.close, [])])
  | comment _ => []

end Piece

/-- The spelling of several pieces. -/
def spell (ps : List Piece) : Text :=
  ps.flatMap Piece.spelling

/-- Whether literal text comes first, which would run into literal text in front of it. -/
def startsWithText : List Piece → Bool
  | .text _ :: _ => true
  | _ => false

/-- The piece can be spelled in front of others. -/
def Piece.Fits (behind : List Piece) : Piece → Prop
  | text t => t ≠ [] ∧ '@' ∉ t ∧ startsWithText behind = false
  | mark | brace => True
  | display _ payload => payload.Trimmed ∧ '@' ∉ payload ∧ '\n' ∉ payload
  | line _ payload => payload.Trimmed ∧ '\n' ∉ payload
  | otherwise | close => continuesWord (spell behind) = false
  | block _ body => FitsVerbatim body ∧ continuesWord (spell behind) = false
  | comment body => ¬ "*@".toList <:+: body

/-- Each of the pieces can be spelled in front of those behind it. -/
def WellSpelled : List Piece → Prop
  | [] => True
  | p :: ps => p.Fits ps ∧ WellSpelled ps

/-- Whether a text fits a verbatim block can be told from its tails. -/
theorem fitsVerbatim_iff {body : Text} :
    FitsVerbatim body ↔ continuesWord body = false ∧ ∀ t ∈ (body ++ "@end").tails,
      "@end".toList <+: t → (t.drop 4).head?.all isWordChar = true := by
  constructor
  · rintro ⟨hapart, hunclosed⟩
    refine ⟨hapart, ?_⟩
    intro t ht hstart
    obtain ⟨x, hx⟩ := (List.mem_tails _ _).1 ht
    obtain ⟨r, rfl⟩ := hstart
    cases r with
    | nil => rfl
    | cons c y => exact hunclosed x c y (by rw [← hx, List.append_assoc])
  · rintro ⟨hapart, htails⟩
    refine ⟨hapart, ?_⟩
    intro x c y h
    rw [List.append_assoc] at h
    exact htails _ ((List.mem_tails _ _).2 ⟨x, h.symm⟩) (List.prefix_append _ _)

instance (body : Text) : Decidable (FitsVerbatim body) :=
  decidable_of_iff _ fitsVerbatim_iff.symm

instance (t : Text) : Decidable t.Trimmed :=
  inferInstanceAs (Decidable (t.trim = t))

instance Piece.decidableFits (behind : List Piece) : (p : Piece) → Decidable (p.Fits behind)
  | text t => inferInstanceAs (Decidable (t ≠ [] ∧ '@' ∉ t ∧ startsWithText behind = false))
  | mark | brace => .isTrue trivial
  | display _ payload =>
    inferInstanceAs (Decidable (payload.Trimmed ∧ '@' ∉ payload ∧ '\n' ∉ payload))
  | line _ payload => inferInstanceAs (Decidable (payload.Trimmed ∧ '\n' ∉ payload))
  | otherwise | close => inferInstanceAs (Decidable (continuesWord (spell behind) = false))
  | block _ body =>
    inferInstanceAs (Decidable (FitsVerbatim body ∧ continuesWord (spell behind) = false))
  | comment body => inferInstanceAs (Decidable (¬ "*@".toList <:+: body))

instance decidableWellSpelled : (ps : List Piece) → Decidable (WellSpelled ps)
  | [] => .isTrue trivial
  | p :: ps =>
    have := decidableWellSpelled ps
    inferInstanceAs (Decidable (p.Fits ps ∧ WellSpelled ps))

namespace Text

/-- The place that is found is the first one at which the condition holds. -/
theorem breakAt_eq {here : Text → Bool} {x y : Text}
    (hfirst : ∀ a b, x = a ++ b → b ≠ [] → here (b ++ y) = false) (hy : here y = true) :
    breakAt here (x ++ y) = (x, y) := by
  induction x with
  | nil =>
    cases y with
    | nil => rfl
    | cons c y => simp [breakAt, hy]
  | cons c x ih =>
    have hc : here (c :: (x ++ y)) = false := hfirst [] (c :: x) rfl (by simp)
    have hx : breakAt here (x ++ y) = (x, y) := by
      refine ih fun a b hab hb => hfirst (c :: a) b ?_ hb
      rw [hab, List.cons_append]
    simp [breakAt, hc, hx]

/-- A mark whose first character it does not repeat is found where it is put, unless it stands in
front already. -/
theorem cut?_eq_some_iff {c : Char} {mark : Text} (hc : c ∉ mark) (before after : Text) :
    cut? (c :: mark) (before ++ (c :: mark) ++ after) = some (before, after) ↔
      ¬ (c :: mark) <:+: before := by
  refine ⟨not_infix_of_cut? (by simp), fun h => ?_⟩
  have hbreak : breakAt (startsWith · (c :: mark)) (before ++ ((c :: mark) ++ after)) =
      (before, (c :: mark) ++ after) := by
    refine breakAt_eq (fun a b hab hb => ?_) (startsWith_append _ _)
    rw [Bool.eq_false_iff, startsWith, ne_eq, List.isPrefixOf_iff_prefix]
    rintro ⟨z, hz⟩
    rcases List.append_eq_append_iff.1 hz with ⟨rest, hrest, -⟩ | ⟨rest, hrest, hafter⟩
    · exact h ⟨a, rest, by rw [hab, hrest, List.append_assoc]⟩
    · -- An occurrence that runs into the mark would repeat its first character.
      cases rest with
      | nil => exact h ⟨a, [], by rw [hab, hrest]; simp⟩
      | cons x rest =>
        obtain ⟨y, b, rfl⟩ := List.exists_cons_of_ne_nil hb
        simp only [List.cons_append, List.cons.injEq] at hrest hafter
        exact hc (by rw [hrest.2, hafter.1]; simp)
  rw [cut?, List.append_assoc, hbreak]
  simp

/-- A comment is cut at the mark that closes it if its body has none. -/
theorem cut?_comment {body : Text} (h : ¬ ['*', '@'] <:+: body) (rest : Text) :
    cut? ['*', '@'] (body ++ '*' :: '@' :: rest) = some (body, rest) := by
  have hcut := (cut?_eq_some_iff (by decide) body rest).2 h
  rwa [List.append_assoc] at hcut

/-- The blank before a payload is trimmed. -/
theorem trim_blank_cons {t : Text} (h : t.Trimmed) : trim (' ' :: t) = t := by
  have hblank : isBlank ' ' = true := by decide
  calc trim (' ' :: t) = trim t := by simp [trim, trimStart, hblank]
    _ = t := h

/-- The blanks around an expression are trimmed. -/
theorem trim_between_blanks {t : Text} (h : t.Trimmed) : trim (' ' :: (t ++ [' '])) = t := by
  have hblank : isBlank ' ' = true := by decide
  have hstart : t.dropWhile isBlank = t := (trimmed_iff.1 h).1
  have hend : t.rdropWhile isBlank = t := (trimmed_iff.1 h).2
  rw [trim_eq, List.dropWhile_cons_of_pos hblank]
  cases t with
  | nil => simp [hblank]
  | cons c t =>
    have hc : ¬ isBlank c = true := by
      intro hc
      rw [List.dropWhile_cons_of_pos hc] at hstart
      have hlength := (List.dropWhile_suffix (l := t) isBlank).length_le
      rw [hstart, List.length_cons] at hlength
      omega
    rw [List.cons_append, List.dropWhile_cons_of_neg hc, ← List.cons_append,
      List.rdropWhile_concat_pos _ _ _ hblank, hend]

end Text

namespace Lexeme

/-! ## The lexeme of a piece -/

/-- Where no comment starts, the lexeme is that of the text. -/
theorem ofTemplate_of_uncommented {t : Text} (h : comment? t = none) :
    ofTemplate t = ofUncommented t := by
  have hcomments : (ofUncommented t).comments = [] := comments_ofUncommented t
  rw [ofTemplate, skipComments_of_none h]
  change { ofUncommented t with comments := [] } = ofUncommented t
  rw [← hcomments]

/-- At the end of the text there is the end of the input. -/
theorem ofTemplate_nil :
    ofTemplate [] = { kind := .endOfInput, text := [], spelling := [], rest := [] } :=
  ofTemplate_of_uncommented rfl

/-- Text without marks is one literal, up to the next mark. -/
theorem ofTemplate_text {t rest : Text} (hne : t ≠ []) (hm : '@' ∉ t)
    (hrest : ∀ c ∈ rest.head?, c = '@') :
    ofTemplate (t ++ rest) = { kind := .literal, text := t, spelling := t, rest } := by
  have hpos : ∀ c ∈ t, (c != '@') = true := by
    intro c hc
    exact bne_iff_ne.2 fun he => hm (he ▸ hc)
  have hstop : rest.head?.any (· != '@') = false := by
    cases rest with
    | nil => rfl
    | cons c rest => simp [hrest c rfl]
  obtain ⟨htake, hdrop⟩ := Text.span_append hpos hstop
  obtain ⟨c, u, rfl⟩ := List.exists_cons_of_ne_nil hne
  have hc : c ≠ '@' := fun he => hm (by simp [he])
  have hplain : ofTemplate (c :: u ++ rest) = plain (c :: u ++ rest) := by
    rw [ofTemplate_of_uncommented]
    · unfold ofUncommented
      split <;> simp_all
    · unfold comment?
      split <;> simp_all
  rw [hplain, plain, htake, hdrop]

/-- A doubled mark is a literal mark. -/
theorem ofTemplate_mark (rest : Text) :
    ofTemplate ('@' :: '@' :: rest) =
      { kind := .literal, text := ['@'], spelling := ['@', '@'], rest } :=
  ofTemplate_of_uncommented rfl

/-- A mark and a brace close a block. -/
theorem ofTemplate_brace (rest : Text) :
    ofTemplate ('@' :: '}' :: rest) =
      { kind := .close, text := [], spelling := ['@', '}'], rest } :=
  ofTemplate_of_uncommented rfl

/-- A marker with a blank behind it starts a display. -/
theorem ofTemplate_marker (how : Display) (t : Text) :
    ofTemplate ('@' :: (how.marker ++ ' ' :: t)) = ofDisplay how (' ' :: t) := by
  cases how with
  | escaped | raw | bool | int | int64 => exact ofTemplate_of_uncommented rfl

/-- A word that ends is read as a directive. -/
theorem ofTemplate_word {word rest : Text} (hne : word ≠ [])
    (hword : ∀ c ∈ word, isWordChar c = true) (hrest : continuesWord rest = false)
    (hdisplay : display? (word ++ rest) = none) :
    ofTemplate ('@' :: (word ++ rest)) = ofWord word rest := by
  obtain ⟨c, w, rfl⟩ := List.exists_cons_of_ne_nil hne
  have hc : isWordChar c = true := hword c (by simp)
  obtain ⟨htake, hdrop⟩ := Text.span_append hword hrest
  have hnot (d : Char) (hd : isWordChar d = false) : c ≠ d := by
    rintro rfl
    rw [hc] at hd
    exact Bool.noConfusion hd
  have hslash := hnot '/' (by decide)
  have hstar := hnot '*' (by decide)
  have hmark := hnot '@' (by decide)
  have hbrace := hnot '}' (by decide)
  have hdirective : ofTemplate ('@' :: (c :: w ++ rest)) = ofDirective (c :: w ++ rest) := by
    rw [ofTemplate_of_uncommented]
    · unfold ofUncommented
      split <;> simp_all
    · unfold comment?
      split <;> simp_all
  rw [hdirective]
  unfold ofDirective
  split
  · next h => exact absurd (List.head_eq_of_cons_eq h) hbrace
  · rw [hdisplay, htake, hdrop]

/-- No word of a directive is taken for a marker. -/
theorem display?_of_mem_words {entry : Text × TokenKind} (h : entry ∈ TokenKind.words)
    (rest : Text) : display? (entry.1 ++ rest) = none := by
  simp only [TokenKind.words, LineDirective.all, Verbatim.all, List.map_cons, List.map_nil,
    List.cons_append, List.nil_append, List.mem_cons, List.not_mem_nil, or_false] at h
  rcases h with rfl | rfl | rfl | rfl | rfl | rfl | rfl | rfl | rfl | rfl | rfl | rfl | rfl | rfl
  all_goals rfl

/-- A directive that is written as a word is read as such if nothing goes on with its word. -/
theorem ofTemplate_of_mem_words {word : Text} {kind : TokenKind}
    (h : (word, kind) ∈ TokenKind.words) {rest : Text} (hrest : continuesWord rest = false) :
    ofTemplate ('@' :: (word ++ rest)) = ofWord word rest ∧
      TokenKind.ofWord? word = some kind := by
  have hwords : ∀ entry ∈ TokenKind.words, entry.1 ≠ [] ∧
      entry.1.all isWordChar = true ∧ TokenKind.ofWord? entry.1 = some entry.2 := by
    decide
  obtain ⟨hne, hall, hkind⟩ := hwords _ h
  have hword : ∀ c ∈ word, isWordChar c = true := List.all_eq_true.1 hall
  exact ⟨ofTemplate_word hne hword hrest (display?_of_mem_words h rest), hkind⟩

/-- The word of a verbatim block opens it. -/
theorem ofTemplate_verbatim (b : Verbatim) {rest : Text} (hrest : continuesWord rest = false) :
    ofTemplate ('@' :: (b.word ++ rest)) =
      { kind := .verbatim b, text := [], spelling := '@' :: b.word, rest } := by
  have hmem : (b.word, TokenKind.verbatim b) ∈ TokenKind.words := by
    cases b <;> decide
  obtain ⟨hread, hkind⟩ := ofTemplate_of_mem_words hmem hrest
  rw [hread, ofWord, hkind]

/-- The word of an alternative is read as one. -/
theorem ofTemplate_otherwise {rest : Text} (hrest : continuesWord rest = false) :
    ofTemplate ("@else" ++ rest) =
      { kind := .otherwise, text := [], spelling := "@else", rest } := by
  have hmem : ("else".toList, TokenKind.otherwise) ∈ TokenKind.words := by decide
  obtain ⟨hread, hkind⟩ := ofTemplate_of_mem_words hmem hrest
  change ofTemplate ('@' :: ("else".toList ++ rest)) = _
  rw [hread, ofWord, hkind]
  rfl

/-- The word of an end is read as one. -/
theorem ofTemplate_close {rest : Text} (hrest : continuesWord rest = false) :
    ofTemplate ("@end" ++ rest) = { kind := .close, text := [], spelling := "@end", rest } := by
  have hmem : ("end".toList, TokenKind.close) ∈ TokenKind.words := by decide
  obtain ⟨hread, hkind⟩ := ofTemplate_of_mem_words hmem hrest
  change ofTemplate ('@' :: ("end".toList ++ rest)) = _
  rw [hread, ofWord, hkind]
  rfl

/-- A line directive is read up to the end of its line or of the source. -/
theorem ofTemplate_line (directive : LineDirective) {payload tail : Text}
    (ht : payload.Trimmed) (hp : '\n' ∉ payload) (htail : ∀ c ∈ tail.head?, c = '\n') :
    ofTemplate ('@' :: (directive.word ++ ' ' :: (payload ++ tail))) =
      { kind := .line directive, text := payload
        spelling := '@' :: (directive.word ++ ' ' :: payload)
        residue := tail.take 1, rest := tail.drop 1 } := by
  have hmem : (directive.word, TokenKind.line directive) ∈ TokenKind.words := by
    cases directive <;> decide
  have hword : continuesWord (' ' :: (payload ++ tail)) = false := rfl
  obtain ⟨hread, hkind⟩ := ofTemplate_of_mem_words hmem hword
  have hpos : ∀ c ∈ ' ' :: payload, (c != '\n') = true := by
    intro c hc
    rcases List.mem_cons.1 hc with rfl | hc
    · decide
    · exact bne_iff_ne.2 fun he => hp (he ▸ hc)
  have hstop : tail.head?.any (· != '\n') = false := by
    cases tail with
    | nil => rfl
    | cons c tail => simp [htail c rfl]
  obtain ⟨htake, hdrop⟩ := Text.span_append hpos hstop
  rw [List.cons_append] at htake hdrop
  rw [hread, ofWord, hkind]
  simp only [ofLine, htake, hdrop, Text.trim_blank_cons ht]

/-- A display is read as its trimmed expression. -/
theorem ofTemplate_display (how : Display) {payload : Text} (ht : payload.Trimmed)
    (hm : '@' ∉ payload) (hp : '\n' ∉ payload) (rest : Text) :
    ofTemplate ('@' :: (how.marker ++ ' ' :: (payload ++ ' ' :: '@' :: rest))) =
      { kind := .display how, text := payload,
        spelling := '@' :: (how.marker ++ ' ' :: (payload ++ [' ']) ++ "@"), rest } := by
  have hpos : ∀ c ∈ ' ' :: (payload ++ [' ']), (c != '@' && c != '\n') = true := by
    intro c hc
    rcases List.mem_cons.1 hc with rfl | hc
    · decide
    rcases List.mem_append.1 hc with hc | hc
    · have hmark : c ≠ '@' := fun he => hm (he ▸ hc)
      have hend : c ≠ '\n' := fun he => hp (he ▸ hc)
      simp [hmark, hend]
    · rw [List.mem_singleton.1 hc]
      decide
  have hsplit : ' ' :: (payload ++ ' ' :: '@' :: rest) =
      ' ' :: (payload ++ [' ']) ++ '@' :: rest := by
    simp
  obtain ⟨htake, hdrop⟩ := Text.span_append (y := '@' :: rest) hpos rfl
  rw [← hsplit] at htake hdrop
  rw [ofTemplate_marker]
  simp only [ofDisplay, htake, hdrop, Text.trim_between_blanks ht]

/-- A verbatim block is closed by an `@end` whose word ends there. -/
theorem closesVerbatim_iff {t : Text} :
    closesVerbatim t = true ↔ ∃ rest, t = "@end" ++ rest ∧ continuesWord rest = false := by
  constructor
  · intro h
    simp only [closesVerbatim, Bool.and_eq_true, Bool.not_eq_true'] at h
    exact ⟨t.drop 4, (Text.startsWith_iff.1 h.1).symm, h.2⟩
  · rintro ⟨rest, rfl, hrest⟩
    have hstart : Text.startsWith ("@end" ++ rest) "@end" = true := Text.startsWith_append _ _
    have hnext : (("@end".toList ++ rest).drop 4).head?.any isWordChar = false := hrest
    simp only [closesVerbatim, hstart, hnext]
    rfl

/-- An `@end` that starts inside of the body does not close the block. -/
theorem not_closes_of_body {body rest a b : Text} (hbody : FitsVerbatim body) (hab : body = a ++ b)
    (hb : b ≠ []) : closesVerbatim (b ++ ("@end" ++ rest)) = false := by
  rw [Bool.eq_false_iff]
  intro h
  obtain ⟨r, hr, hnext⟩ := closesVerbatim_iff.1 h
  -- It lies in the body as a whole, since no `@` stands inside of an `@end`.
  obtain ⟨w, hw, hrest⟩ : ∃ w, b = "@end" ++ w ∧ r = w ++ ("@end" ++ rest) := by
    rcases List.append_eq_append_iff.1 hr with ⟨w, hw, hrest⟩ | h
    · obtain ⟨c, b, rfl⟩ := List.exists_cons_of_ne_nil hb
      have htail : ['e', 'n', 'd'] = b ++ w := List.tail_eq_of_cons_eq hw
      cases w with
      | nil => exact ⟨[], by simpa using hw.symm, by simpa using hrest.symm⟩
      | cons d w =>
        have hd : d = '@' := (List.head_eq_of_cons_eq hrest).symm
        have hmem : '@' ∈ ['e', 'n', 'd'] := by
          rw [htail, hd]
          simp
        exact absurd hmem (by decide)
    · exact h
  obtain ⟨d, y, hy⟩ : ∃ d y, w ++ "@end".toList = d :: y :=
    List.exists_cons_of_ne_nil (by simp)
  have hd : isWordChar d = true := by
    refine hbody.unclosed a d y ?_
    rw [hab, hw, ← hy]
    simp
  rw [hrest, ← List.append_assoc, hy] at hnext
  simp [continuesWord, hd] at hnext

/-- A body that fits is read as a whole, up to the `@end` behind it. -/
theorem ofVerbatim_body {body rest : Text} (hne : body ≠ []) (hbody : FitsVerbatim body)
    (hrest : continuesWord rest = false) :
    ofVerbatim (body ++ ("@end" ++ rest)) =
      { kind := .literal, text := body, spelling := body, rest := "@end" ++ rest } := by
  have hcloses : closesVerbatim ("@end" ++ rest) = true := closesVerbatim_iff.2 ⟨rest, rfl, hrest⟩
  have hbreak : Text.breakAt closesVerbatim (body ++ ("@end" ++ rest)) =
      (body, "@end" ++ rest) :=
    Text.breakAt_eq (fun _ _ hab hb => not_closes_of_body hbody hab hb) hcloses
  rw [ofVerbatim, hbreak]
  obtain ⟨c, body, rfl⟩ := List.exists_cons_of_ne_nil hne
  rfl

/-- In a verbatim block without a body the `@end` comes at once. -/
theorem ofVerbatim_close {rest : Text} (hrest : continuesWord rest = false) :
    ofVerbatim ("@end" ++ rest) = { kind := .close, text := [], spelling := "@end", rest } := by
  have hcloses : closesVerbatim ("@end" ++ rest) = true := closesVerbatim_iff.2 ⟨rest, rfl, hrest⟩
  have hbreak : Text.breakAt closesVerbatim ([] ++ ("@end".toList ++ rest)) =
      ([], "@end" ++ rest) :=
    Text.breakAt_eq (fun a b hab hb => absurd (List.append_eq_nil_iff.1 hab.symm).2 hb) hcloses
  rw [List.nil_append] at hbreak
  rw [ofVerbatim, hbreak]
  exact ofTemplate_close hrest

/-- A comment is taken as a whole if its body does not close it. -/
theorem comment?_comment {body : Text} (h : ¬ "*@".toList <:+: body) (rest : Text) :
    comment? ("@*" ++ body ++ "*@" ++ rest) = some ("@*" ++ body ++ "*@", rest) := by
  have hcut : Text.cut? "*@" (body ++ ("*@" ++ rest)) = some (body, rest) :=
    Text.cut?_comment h rest
  have hspelled : "@*".toList ++ body ++ "*@" ++ rest =
      '@' :: '*' :: (body ++ ("*@" ++ rest)) := by
    simp
  rw [hspelled]
  simp only [comment?, hcut]
  rfl

/-- A comment is put before the lexeme that follows it. -/
theorem ofTemplate_of_comment {t comment rest : Text} (h : comment? t = some (comment, rest)) :
    ofTemplate t = { ofTemplate rest with comments := comment ++ (ofTemplate rest).comments } := by
  rw [ofTemplate, skipComments_of_comment h]
  rfl

end Lexeme

namespace Cursor

/-- The sorts and texts of the tokens from the cursor on. -/
def contents (c : Cursor) : List (TokenKind × Text) :=
  c.stream.toList.map fun t => (t.kind, t.text)

/-- At the end of the input there is one token. -/
theorem contents_of_end {c : Cursor} (h : c.lexeme.kind = .endOfInput) :
    c.contents = [(.endOfInput, c.lexeme.text)] := by
  have hend : c.next.1.kind = .endOfInput := h
  rw [contents, stream_of_end hend]
  simp [TokenStream.toList, next, h]

/-- Before the end of the input, the next token comes first and then those behind it. -/
theorem contents_of_next {c : Cursor} (h : c.lexeme.kind ≠ .endOfInput) :
    c.contents = (c.lexeme.kind, c.lexeme.text) :: c.next.2.contents := by
  have hnext : c.next.1.kind ≠ .endOfInput := h
  rw [contents, stream_of_next hnext]
  rfl

/-- The cursor behind a comment. -/
def past (c : Cursor) (comment rest : Text) : Cursor :=
  { c with
    rest
    offset := c.offset + comment.byteLength
    position := c.position.advance comment }

/-- In front of a comment the cursor goes on as behind it. -/
theorem next_of_comment {c : Cursor} (hv : c.inVerbatim = false) {comment rest : Text}
    (h : Lexeme.comment? c.rest = some (comment, rest)) : c.next = (c.past comment rest).next := by
  have hlexeme : c.lexeme = { (c.past comment rest).lexeme with
      comments := comment ++ (c.past comment rest).lexeme.comments } := by
    simp only [lexeme, past, Lexeme.read, hv]
    exact Lexeme.ofTemplate_of_comment h
  simp [next, hlexeme, past, Nat.add_assoc]

/-- Outside of verbatim blocks the cursor reads a lexeme of the template. -/
theorem lexeme_of_template {c : Cursor} (h : c.inVerbatim = false) :
    c.lexeme = Lexeme.ofTemplate c.rest := by
  simp [lexeme, Lexeme.read, h]

/-- A token that is read where it stands is the next one, and the cursor goes on behind it. -/
theorem contents_of_lexeme {c : Cursor} {l : Lexeme} (hl : c.lexeme = l)
    (hk : l.kind ≠ .endOfInput) :
    ∃ d : Cursor, d.rest = l.rest ∧ d.inVerbatim = l.kind.opensVerbatim ∧
      c.contents = (l.kind, l.text) :: d.contents := by
  subst hl
  exact ⟨c.next.2, rfl, rfl, contents_of_next hk⟩

end Cursor

/-- Every piece but literal text starts with `@`. -/
theorem head_of_text {t : Text} {ps : List Piece} (h : (Piece.text t).Fits ps) :
    ∀ c ∈ (spell ps).head?, c = '@' := by
  obtain ⟨-, -, hnext⟩ := h
  cases ps with
  | nil => simp [spell]
  | cons p ps =>
    cases p with
    | text u => exact Bool.noConfusion hnext
    | _ =>
      intro c hc
      exact (Option.some.inj hc).symm

namespace Cursor

/-- A verbatim block is read as its opener, its body and its `@end`. -/
theorem contents_of_block {c : Cursor} (hv : c.inVerbatim = false) {b : Verbatim}
    {body rest : Text} (hbody : FitsVerbatim body) (hrest : continuesWord rest = false)
    (hr : c.rest = '@' :: (b.word ++ (body ++ ("@end" ++ rest)))) :
    ∃ d : Cursor, d.rest = rest ∧ d.inVerbatim = false ∧
      c.contents = (Piece.block b body).tokens ++ d.contents := by
  have hapart : continuesWord (body ++ ("@end" ++ rest)) = false := by
    cases body with
    | nil => rfl
    | cons a body => exact hbody.apart
  have hopener : c.lexeme = _ :=
    (lexeme_of_template hv).trans (hr ▸ Lexeme.ofTemplate_verbatim b hapart)
  obtain ⟨d, (hd : d.rest = body ++ ("@end" ++ rest)), (hdv : d.inVerbatim = true), hcontents⟩ :=
    contents_of_lexeme hopener (by simp)
  have hverbatim : d.lexeme = Lexeme.ofVerbatim (body ++ ("@end" ++ rest)) := by
    rw [lexeme, Lexeme.read, hdv, hd]
    rfl
  rcases eq_or_ne body [] with rfl | hne
  · have hclose : d.lexeme = _ := hverbatim.trans (Lexeme.ofVerbatim_close hrest)
    obtain ⟨e, he, hev, hend⟩ := contents_of_lexeme hclose (by simp)
    exact ⟨e, he, hev, by rw [hcontents, hend]; rfl⟩
  · have hfilled : d.lexeme = _ := hverbatim.trans (Lexeme.ofVerbatim_body hne hbody hrest)
    obtain ⟨e, (he : e.rest = "@end" ++ rest), hev, hbodied⟩ :=
      contents_of_lexeme hfilled (by simp)
    have hclose : e.lexeme = _ :=
      (lexeme_of_template hev).trans (he ▸ Lexeme.ofTemplate_close hrest)
    obtain ⟨f, hf, hfv, hend⟩ := contents_of_lexeme hclose (by simp)
    exact ⟨f, hf, hfv, by rw [hcontents, hbodied, hend]; simp [Piece.tokens, hne]⟩

/-- What is read from a spelling on is what was spelled. -/
theorem contents_spell {ps : List Piece} (h : WellSpelled ps) {c : Cursor}
    (hv : c.inVerbatim = false) (hr : c.rest = spell ps) :
    c.contents = ps.flatMap Piece.tokens ++ [(.endOfInput, [])] := by
  induction ps generalizing c with
  | nil =>
    have hend : c.lexeme = Lexeme.ofTemplate [] := by rw [lexeme_of_template hv, hr]; rfl
    rw [contents_of_end] <;> simp [hend, Lexeme.ofTemplate_nil]
  | cons p ps ih =>
    obtain ⟨hp, hps⟩ := h
    have hspelled : c.rest = p.spelling ++ spell ps := hr
    -- Behind a token that is no opener the induction goes on.
    have hstep {l : Lexeme} (hl : Lexeme.ofTemplate (p.spelling ++ spell ps) = l)
        (hk : l.kind ≠ .endOfInput) (ho : l.kind.opensVerbatim = false)
        (hrest : l.rest = spell ps) (ht : p.tokens = [(l.kind, l.text)]) :
        c.contents = (p :: ps).flatMap Piece.tokens ++ [(.endOfInput, [])] := by
      have hread : c.lexeme = l := by rw [lexeme_of_template hv, hspelled, hl]
      obtain ⟨d, hd, hdv, hcontents⟩ := contents_of_lexeme hread hk
      rw [hcontents, ih hps (hdv.trans ho) (hd.trans hrest), List.flatMap_cons, ht]
      rfl
    cases p with
    | text t =>
      have hnext : ∀ c ∈ (spell ps).head?, c = '@' := head_of_text hp
      exact hstep (Lexeme.ofTemplate_text hp.1 hp.2.1 hnext) (by simp) rfl rfl rfl
    | mark => exact hstep (Lexeme.ofTemplate_mark (spell ps)) (by simp) rfl rfl rfl
    | display how payload =>
      obtain ⟨htrim, hmark, hend⟩ := hp
      have hread := Lexeme.ofTemplate_display how htrim hmark hend (spell ps)
      have hform : (Piece.display how payload).spelling ++ spell ps =
          '@' :: (how.marker ++ ' ' :: (payload ++ ' ' :: '@' :: spell ps)) := by
        change '@' :: (how.marker ++ ' ' :: (payload ++ " @".toList)) ++ spell ps = _
        simp
      exact hstep (hform ▸ hread) (by simp) rfl rfl rfl
    | line directive payload =>
      have hend : ∀ c ∈ ('\n' :: spell ps).head?, c = '\n' := by simp
      have hread := Lexeme.ofTemplate_line directive hp.1 hp.2 hend
      have hform : (Piece.line directive payload).spelling ++ spell ps =
          '@' :: (directive.word ++ ' ' :: (payload ++ '\n' :: spell ps)) := by
        change '@' :: (directive.word ++ ' ' :: (payload ++ "\n".toList)) ++ spell ps = _
        simp
      exact hstep (hform ▸ hread) (by simp) rfl rfl rfl
    | otherwise => exact hstep (Lexeme.ofTemplate_otherwise hp) (by simp) rfl rfl rfl
    | close => exact hstep (Lexeme.ofTemplate_close hp) (by simp) rfl rfl rfl
    | brace => exact hstep (Lexeme.ofTemplate_brace (spell ps)) (by simp) rfl rfl rfl
    | block b body =>
      have hform : c.rest = '@' :: (b.word ++ (body ++ ("@end" ++ spell ps))) := by
        rw [hspelled]
        change '@' :: (b.word ++ (body ++ "@end".toList)) ++ spell ps = _
        simp
      obtain ⟨d, hd, hdv, hcontents⟩ := contents_of_block hv hp.1 hp.2 hform
      rw [hcontents, ih hps hdv hd, List.flatMap_cons, List.append_assoc]
    | comment body =>
      have hcomment : Lexeme.comment? c.rest = some ("@*" ++ body ++ "*@", spell ps) := by
        rw [hspelled]
        exact Lexeme.comment?_comment hp (spell ps)
      rw [contents, stream_congr (next_of_comment hv hcomment)]
      exact ih hps hv rfl

end Cursor

/-- Reading undoes spelling: the tokens that were spelled come back, and then the input ends. -/
theorem tokenize_spell (ps : List Piece) (h : WellSpelled ps) :
    (tokenize (spell ps)).toList.map (fun t => (t.kind, t.text)) =
      ps.flatMap Piece.tokens ++ [(.endOfInput, [])] :=
  Cursor.contents_spell h rfl rfl

/-- Literal text goes on behind a comment, a payload keeps its `@`, and `@ending` in a body is no
`@end`. -/
theorem tokenize_spell_page :
    ∃ ps : List Piece, WellSpelled ps ∧
      spell ps = "a@***@b@@@if x @ 1\n@== y @@else @text @ending@end@code@end@\x7d@end".toList ∧
      (tokenize (spell ps)).toList.map (fun t => (t.kind, t.text)) =
        [(.literal, "a".toList), (.literal, "b".toList), (.literal, "@".toList),
          (.line .condition, "x @ 1".toList), (.display .raw, "y".toList), (.otherwise, []),
          (.literal, " ".toList), (.verbatim .text, []), (.literal, " @ending".toList),
          (.close, []), (.verbatim .code, []), (.close, []), (.close, []), (.close, []),
          (.endOfInput, [])] :=
  ⟨[.text "a".toList, .comment "*".toList, .text "b".toList, .mark,
    .line .condition "x @ 1".toList, .display .raw "y".toList, .otherwise, .text " ".toList,
    .block .text " @ending".toList, .block .code [], .brace, .close],
    by decide, by decide, tokenize_spell _ (by decide)⟩

end Stencil
