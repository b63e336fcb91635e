import Stencil.Token.Stream
import Mathlib.Data.List.TakeWhile

/-!
# The forms of a lexeme

`Lexeme.Form` lists the ways in which a text that no complete comment starts falls into a lexeme:
one constructor for every branch of the reader, with what the branch has checked. What is proved
about tokens elsewhere goes through `form_ofUncommented`, `comments_skipComments` and
`ofVerbatim_cases`, and never opens the reader again.

`Comments` says what stands in front of a token: complete comments, one after another. A line
comment runs through its line end or to the end of the source, and a block comment through the
first `*@` behind its opening.
-/

set_option autoImplicit false

namespace Stencil

namespace Text

/-- No earlier place than the one that was found satisfies the condition. -/
theorem breakAt_first (here : Text → Bool) {t x y : Text} (h : (breakAt here t).1 = x ++ y)
    (hy : y ≠ []) : here (y ++ (breakAt here t).2) = false := by
  induction t generalizing x with
  | nil =>
    simp only [breakAt, List.nil_eq, List.append_eq_nil_iff] at h
    exact absurd h.2 hy
  | cons c t ih =>
    have happend := breakAt_append here (c :: t)
    simp only [breakAt] at h happend ⊢
    split at h
    · simp only [List.nil_eq, List.append_eq_nil_iff] at h
      exact absurd h.2 hy
    · next hc =>
      rw [if_neg hc] at happend ⊢
      cases x with
      | nil =>
        rw [List.nil_append] at h
        rw [← h, happend]
        simpa using hc
      | cons d x =>
        simp only [List.cons_append, List.cons.injEq] at h
        exact ih h.2

/-- A text starts with what it was put behind. -/
theorem startsWith_append (start t : Text) : startsWith (start ++ t) start = true := by
  rw [startsWith, List.isPrefixOf_iff_prefix]
  exact List.prefix_append start t

/-- The first occurrence of a mark has none in front of it. -/
theorem not_infix_of_cut? {mark t before after : Text} (hm : mark ≠ [])
    (h : cut? mark t = some (before, after)) : ¬ mark <:+: before := by
  unfold cut? at h
  split at h
  · simp at h
  · next b rest hne hb =>
    simp only [Option.some.injEq, Prod.mk.injEq] at h
    obtain ⟨rfl, rfl⟩ := h
    rintro ⟨x, y, hxy⟩
    have hfirst := breakAt_first (startsWith · mark) (t := t) (x := x) (y := mark ++ y)
      (by rw [hb, ← hxy, List.append_assoc]) (by simp [hm])
    rw [hb, List.append_assoc, startsWith_append] at hfirst
    exact Bool.noConfusion hfirst

/-- A text in which a mark is not found does not hold it. -/
theorem not_infix_of_cut?_eq_none {mark t : Text} (hm : mark ≠ []) (h : cut? mark t = none) :
    ¬ mark <:+: t := by
  unfold cut? at h
  split at h
  · next before hb =>
    have hbefore : before = t := by
      have happend := breakAt_append (startsWith · mark) t
      rwa [hb, List.append_nil] at happend
    rintro ⟨x, y, hxy⟩
    have hfirst := breakAt_first (startsWith · mark) (t := t) (x := x) (y := mark ++ y)
      (by rw [hb, hbefore, ← hxy, List.append_assoc]) (by simp [hm])
    rw [hb, List.append_assoc, startsWith_append] at hfirst
    exact Bool.noConfusion hfirst
  · simp at h

/-- What is left behind the longest run of characters is empty or starts with another one. -/
theorem dropWhile_stops (p : Char → Bool) (t : Text) :
    t.dropWhile p = [] ∨ ∃ c rest, t.dropWhile p = c :: rest ∧ p c = false := by
  have hhead := List.head?_dropWhile_not p t
  cases hd : t.dropWhile p with
  | nil => exact Or.inl rfl
  | cons c rest =>
    rw [hd] at hhead
    exact Or.inr ⟨c, rest, rfl, hhead⟩

/-- A run of characters ends where one follows that is not of its class. -/
theorem span_append {f : Char → Bool} {x y : Text} (hx : ∀ c ∈ x, f c = true)
    (hy : y.head?.any f = false) : (x ++ y).takeWhile f = x ∧ (x ++ y).dropWhile f = y := by
  have hstop : y.takeWhile f = [] ∧ y.dropWhile f = y := by
    cases y with
    | nil => simp
    | cons c y =>
      have hc : f c = false := by simpa using hy
      simp [hc]
  rw [List.takeWhile_append_of_pos hx, List.dropWhile_append_of_pos hx, hstop.1, hstop.2,
    List.append_nil]
  exact ⟨rfl, rfl⟩

end Text

/-- A comment that is complete in front of `rest`. -/
inductive Comment (rest : Text) : Text → Prop
  /-- A line comment through its line end. -/
  | line {body : Text} (h : '\n' ∉ body) : Comment rest ("@//" ++ body ++ "\n")
  /-- A line comment at the end of the source. -/
  | lastLine {body : Text} (h : '\n' ∉ body) (hr : rest = []) : Comment rest ("@//" ++ body)
  /-- A block comment through the first `*@`. -/
  | block {body : Text} (h : ¬ "*@".toList <:+: body) : Comment rest ("@*" ++ body ++ "*@")

/-- Complete comments in front of `rest`, one after another. -/
inductive Comments (rest : Text) : Text → Prop
  /-- No comment. -/
  | none : Comments rest []
  /-- A comment and the comments behind it. -/
  | cons {comment behind : Text} (h : Comment (behind ++ rest) comment)
      (hs : Comments rest behind) : Comments rest (comment ++ behind)

namespace Lexeme

/-- What is skipped as a comment is one. -/
theorem comment_of_comment? {t comment rest : Text} (h : comment? t = some (comment, rest)) :
    Comment rest comment := by
  unfold comment? at h
  split at h
  · next t =>
    have hbody : '\n' ∉ t.takeWhile (· != '\n') := by
      intro hmem
      simpa using List.mem_takeWhile_imp hmem
    split at h
    · next hd =>
      simp only [Option.some.injEq, Prod.mk.injEq] at h
      obtain ⟨rfl, rfl⟩ := h
      have ht : t.takeWhile (· != '\n') = t := by
        have happend := List.takeWhile_append_dropWhile (p := (· != '\n')) (l := t)
        rwa [hd, List.append_nil] at happend
      rw [ht] at hbody
      exact Comment.lastLine hbody rfl
    · next lineEnd behind hd =>
      simp only [Option.some.injEq, Prod.mk.injEq] at h
      obtain ⟨rfl, rfl⟩ := h
      have hend : lineEnd = '\n' := by
        rcases Text.dropWhile_stops (· != '\n') t with hn | ⟨c, r, hc, hp⟩
        · rw [hn] at hd
          cases hd
        · rw [hc] at hd
          cases hd
          simpa using hp
      subst hend
      exact Comment.line hbody
  · next t =>
    split at h
    · next body behind hc =>
      simp only [Option.some.injEq, Prod.mk.injEq] at h
      obtain ⟨rfl, rfl⟩ := h
      exact Comment.block (Text.not_infix_of_cut? (by simp) hc)
    · simp at h
  · simp at h

/-- A comment is skipped with the comments behind it. -/
theorem skipComments_of_comment {t comment rest : Text} (h : comment? t = some (comment, rest)) :
    skipComments t = (comment ++ (skipComments rest).1, (skipComments rest).2) := by
  rw [skipComments]
  split
  · next c r hc =>
    rw [h] at hc
    cases hc
    rfl
  · next hc =>
    rw [h] at hc
    cases hc

/-- Where no comment starts, none is skipped. -/
theorem skipComments_of_none {t : Text} (h : comment? t = none) : skipComments t = ([], t) := by
  rw [skipComments]
  split
  · next hc =>
    rw [h] at hc
    cases hc
  · rfl

/-- What is skipped in front of a token is a row of complete comments. -/
theorem comments_skipComments (t : Text) : Comments (skipComments t).2 (skipComments t).1 := by
  fun_induction skipComments t with
  | case1 t comment rest h behind ih =>
    refine Comments.cons ?_ ih
    rw [skipComments_append]
    exact comment_of_comment? h
  | case2 t h => exact Comments.none

/-- No complete comment starts behind the comments that are skipped. -/
theorem comment?_skipComments (t : Text) : comment? (skipComments t).2 = none := by
  fun_induction skipComments t with
  | case1 t comment rest h behind ih => exact ih
  | case2 t h => exact h

/-- The ways in which a text that no complete comment starts falls into a lexeme. -/
inductive Form : Lexeme → Prop
  /-- The end of the input. -/
  | endOfInput : Form { kind := .endOfInput, text := [], spelling := [], rest := [] }
  /-- Literal text up to the next `@`. -/
  | plain {t rest : Text} (ht : t ≠ []) (hm : '@' ∉ t) :
      Form { kind := .literal, text := t, spelling := t, rest }
  /-- A literal `@`. -/
  | doubled {rest : Text} :
      Form { kind := .literal, text := ['@'], spelling := ['@', '@'], rest }
  /-- A block comment without an end. -/
  | unclosedComment {t : Text} (h : ¬ "*@".toList <:+: t) :
      Form (faulty .unclosedComment ['@', '*'] t [])
  /-- A display with its closing `@`. -/
  | display (how : Display) {e rest : Text} (he : ∀ c ∈ e, c ≠ '@' ∧ c ≠ '\n') :
      Form { kind := .display how, text := Text.trim e,
             spelling := '@' :: (how.marker ++ e ++ "@"), rest }
  /-- A display without its closing `@`. -/
  | unclosedDisplay (how : Display) {e rest : Text} (he : ∀ c ∈ e, c ≠ '@' ∧ c ≠ '\n')
      (hr : rest = [] ∨ rest.head? = some '\n') :
      Form (faulty (.unclosedDisplay how) ('@' :: how.marker) e rest)
  /-- A line directive and its line end, which only the last line may lack. -/
  | line (directive : LineDirective) {payload residue rest : Text} (hp : '\n' ∉ payload)
      (hr : residue = ['\n'] ∨ residue = [] ∧ rest = []) :
      Form { kind := .line directive, text := Text.trim payload,
             spelling := '@' :: (directive.word ++ payload), residue, rest }
  /-- The opener of a verbatim block. -/
  | verbatim (block : Verbatim) {rest : Text} :
      Form { kind := .verbatim block, text := [], spelling := '@' :: block.word, rest }
  /-- The alternative of a condition. -/
  | otherwise {rest : Text} :
      Form { kind := .otherwise, text := [], spelling := "@else", rest }
  /-- The end of a block, in its two spellings. -/
  | close {spelling rest : Text} (hs : spelling = "@end" ∨ spelling = "@\x7d") :
      Form { kind := .close, text := [], spelling, rest }
  /-- An `@` with no directive behind it. -/
  | strayMark {t : Text}
      (ht : ∀ c ∈ t.head?, isWordChar c = false ∧ c ≠ '=' ∧ c ≠ '*') :
      Form (faulty .noDirective ('@' :: t.take 1) [] (t.drop 1))
  /-- A word that is no directive. -/
  | unknown {word rest : Text} (hn : word ≠ []) (hw : ∀ c ∈ word, isWordChar c = true) :
      Form (faulty (.unknownDirective word) ('@' :: word) [] rest)

/-- A display that ends on its line has an expression without `@` and line end, and one that does
not is followed by the end of its line. -/
theorem form_ofDisplay (how : Display) (t : Text) : Form (ofDisplay how t) := by
  have hinside : ∀ c ∈ t.takeWhile (fun c => c != '@' && c != '\n'), c ≠ '@' ∧ c ≠ '\n' := by
    intro c hc
    simpa using List.mem_takeWhile_imp hc
  simp only [ofDisplay]
  split
  · exact Form.display how hinside
  · next rest hne =>
    refine Form.unclosedDisplay how hinside ?_
    rcases Text.dropWhile_stops (fun c => c != '@' && c != '\n') t with hn | ⟨c, r, hc, hp⟩
    · exact Or.inl hn
    · right
      have hmark : c ≠ '@' := fun he => hne r (by rw [hc, he])
      have hend : c = '\n' := by simpa [hmark] using hp
      rw [hc, hend]
      rfl

/-- A line directive takes its line end, unless the source ends first. -/
theorem form_ofLine (directive : LineDirective) (t : Text) : Form (ofLine directive t) := by
  have hpayload : '\n' ∉ t.takeWhile (· != '\n') := by
    intro hmem
    simpa using List.mem_takeWhile_imp hmem
  refine Form.line directive hpayload ?_
  rcases Text.dropWhile_stops (· != '\n') t with hn | ⟨c, r, hc, hp⟩
  · rw [hn]
    exact Or.inr ⟨rfl, rfl⟩
  · have hend : c = '\n' := by simpa using hp
    rw [hc, hend]
    exact Or.inl rfl

/-- The words that name a directive are those of the directive. -/
theorem ofWord?_cases {word : Text} {kind : TokenKind} (h : TokenKind.ofWord? word = some kind) :
    (∃ directive, kind = .line directive ∧ word = directive.word) ∨
      (∃ block, kind = .verbatim block ∧ word = block.word) ∨
      (kind = .otherwise ∧ word = "else") ∨ (kind = .close ∧ word = "end") := by
  have hmem : (word, kind) ∈ TokenKind.words := by
    obtain ⟨before, after, hw, -⟩ := List.lookup_eq_some_iff.1 h
    simp [hw]
  simp only [TokenKind.words, List.mem_append, List.mem_map, List.mem_cons, Prod.mk.injEq,
    List.not_mem_nil, or_false] at hmem
  rcases hmem with (⟨directive, -, hw, hk⟩ | ⟨block, -, hw, hk⟩) | ⟨hw, hk⟩ | ⟨hw, hk⟩
  · exact Or.inl ⟨directive, hk.symm, hw.symm⟩
  · exact Or.inr (Or.inl ⟨block, hk.symm, hw.symm⟩)
  · exact Or.inr (Or.inr (Or.inl ⟨hk, hw⟩))
  · exact Or.inr (Or.inr (Or.inr ⟨hk, hw⟩))

/-- A word of word characters names a directive or is unknown. -/
theorem form_ofWord {word : Text} (hn : word ≠ []) (hw : ∀ c ∈ word, isWordChar c = true)
    (t : Text) : Form (ofWord word t) := by
  unfold ofWord
  split
  · exact form_ofLine _ t
  · next kind hline hkind =>
    rcases ofWord?_cases hkind with ⟨directive, rfl, -⟩ | ⟨block, rfl, rfl⟩ | ⟨rfl, rfl⟩ |
      ⟨rfl, rfl⟩
    · exact absurd rfl (hline directive)
    · exact Form.verbatim block
    · exact Form.otherwise
    · exact Form.close (Or.inl rfl)
  · exact Form.unknown hn hw

/-- What follows an `@` that starts neither a comment nor another `@` is a directive or a fault. -/
theorem form_ofDirective {t : Text} (hstar : t.head? ≠ some '*') : Form (ofDirective t) := by
  unfold ofDirective
  split
  · exact Form.close (Or.inr rfl)
  · next hbrace =>
    split
    · exact form_ofDisplay _ _
    · next hdisplay =>
      split
      · next hword =>
        refine Form.strayMark ?_
        intro c hc
        obtain ⟨rest, rfl⟩ : ∃ rest, t = c :: rest := by
          cases t with
          | nil => simp at hc
          | cons d rest => exact ⟨rest, by simpa using hc⟩
        refine ⟨?_, ?_, ?_⟩
        · cases hwc : isWordChar c with
          | false => rfl
          | true => simp [hwc] at hword
        · rintro rfl
          have hnone := List.find?_eq_none.1 (Option.map_eq_none_iff.1 hdisplay)
          exact hnone .escaped (by decide) (Text.startsWith_append "=" rest)
        · rintro rfl
          exact hstar rfl
      · next hword =>
        refine form_ofWord ?_ ?_ _
        · exact hword
        · intro c hc
          exact List.mem_takeWhile_imp hc

/-- Every text that no complete comment starts falls into a lexeme of one of the forms. -/
theorem form_ofUncommented {t : Text} (h : comment? t = none) : Form (ofUncommented t) := by
  unfold ofUncommented
  split
  · exact Form.endOfInput
  · exact Form.doubled
  · next t =>
    refine Form.unclosedComment (Text.not_infix_of_cut?_eq_none (by simp) ?_)
    simp only [comment?] at h
    split at h
    · simp at h
    · assumption
  · next t hmark hstar =>
    refine form_ofDirective ?_
    intro he
    cases t with
    | nil => simp at he
    | cons c t =>
      simp only [List.head?_cons, Option.some.injEq] at he
      exact hstar t (by rw [he])
  · next hnil hdoubled hcomment hmark =>
    cases t with
    | nil => exact absurd rfl hnil
    | cons c t =>
      have hc : c ≠ '@' := fun he => hmark t (by rw [he])
      refine Form.plain (by simp [hc]) ?_
      intro hmem
      simpa using List.mem_takeWhile_imp hmem

/-- Where a verbatim block is closed, `@end` is read. -/
theorem ofTemplate_of_closes {t : Text} (h : closesVerbatim t = true) :
    ∃ rest, t = "@end" ++ rest ∧
      ofTemplate t = { kind := .close, text := [], spelling := "@end", rest } := by
  simp only [closesVerbatim, Bool.and_eq_true, Bool.not_eq_true'] at h
  obtain ⟨hstart, hnext⟩ := h
  obtain ⟨rest, rfl⟩ : ∃ rest, t = '@' :: 'e' :: 'n' :: 'd' :: rest :=
    ⟨_, (Text.startsWith_iff.1 hstart).symm⟩
  refine ⟨rest, rfl, ?_⟩
  have hword : ('e' :: 'n' :: 'd' :: rest).takeWhile isWordChar = ['e', 'n', 'd'] ∧
      ('e' :: 'n' :: 'd' :: rest).dropWhile isWordChar = rest := by
    have he : isWordChar 'e' = true := by decide
    have hn : isWordChar 'n' = true := by decide
    have hd : isWordChar 'd' = true := by decide
    cases rest with
    | nil => simp [he, hn, hd]
    | cons c rest =>
      have hc : isWordChar c = false := by simpa using hnext
      simp [he, hn, hd, hc]
  -- Neither a comment nor a display starts like this, so that the word decides.
  have hdisplay : display? ('e' :: 'n' :: 'd' :: rest) = none := rfl
  have hskip : skipComments ('@' :: 'e' :: 'n' :: 'd' :: rest) =
      ([], '@' :: 'e' :: 'n' :: 'd' :: rest) := by
    rw [skipComments]
    split
    · next h => simp [comment?] at h
    · rfl
  have hread : ofUncommented ('@' :: 'e' :: 'n' :: 'd' :: rest) =
      { kind := .close, text := [], spelling := "@end", rest } := by
    change ofDirective ('e' :: 'n' :: 'd' :: rest) = _
    simp only [ofDirective, hdisplay, hword.1, hword.2]
    rfl
  simp only [ofTemplate, hskip, hread]

/-- The body of a verbatim block is literal text up to where the block is closed. Where there is
no body, the block is closed at once or the source ends. -/
theorem ofVerbatim_cases (t : Text) :
    (t = [] ∧ ofVerbatim t = ofTemplate t) ∨
      (closesVerbatim t = true ∧ ofVerbatim t = ofTemplate t) ∨
      ∃ body rest, body ≠ [] ∧ (rest = [] ∨ closesVerbatim rest = true) ∧ t = body ++ rest ∧
        ofVerbatim t = { kind := .literal, text := body, spelling := body, rest } := by
  have happend := Text.breakAt_append closesVerbatim t
  have hholds := @Text.breakAt_holds closesVerbatim t
  unfold ofVerbatim
  split
  · next rest hb =>
    rw [hb] at happend hholds
    simp only [List.nil_append] at happend
    subst happend
    by_cases hrest : rest = []
    · exact Or.inl ⟨hrest, rfl⟩
    · exact Or.inr (Or.inl ⟨hholds hrest, rfl⟩)
  · next body rest hbody hb =>
    rw [hb] at happend hholds
    refine Or.inr (Or.inr ⟨body, rest, hbody, ?_, happend.symm, rfl⟩)
    by_cases hrest : rest = []
    · exact Or.inl hrest
    · exact Or.inr (hholds hrest)

end Lexeme

end Stencil
