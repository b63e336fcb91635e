import Stencil.Proofs.Text.LineEnd
import Stencil.Proofs.Token.Progress

/-!
# Tokens of a source with other line ends

If every line of a source ends with a carriage return and a line feed instead of a line feed alone,
the same tokens are read, as long as none of them is illegal. The texts of literals have the returns
in them, and everything stands further to the right. A line directive covers the return before its
line end, which its payload then loses again.

There is one lemma for each function that reads a part of a lexeme (`Lexeme.read_withReturns` puts
them together), a step lemma for two cursors side by side (`Cursor.Twin.next`) and a run lemma for
their streams (`Cursor.Twin.stream`).

Illegal tokens have to be left out: an `@` at the end of a line takes the next character with it,
which is the return, so that the line feed is left for the next token.
-/

set_option autoImplicit false

namespace Stencil

namespace Text

variable {line : Text} (h : '\n' ∉ line)

include h

/-- No character of a line is a line end. -/
theorem bne_lineEnd_of_mem : ∀ c ∈ line, (c != '\n') = true := by
  intro c hc
  exact bne_iff_ne.2 fun he => h (he ▸ hc)

/-- The rest of a line ends at the line feed. -/
theorem span_line (rest : Text) :
    (line ++ '\n' :: rest).takeWhile (· != '\n') = line ∧
      (line ++ '\n' :: rest).dropWhile (· != '\n') = '\n' :: rest :=
  span_append (bne_lineEnd_of_mem h) rfl

/-- The rest of the last line is all that is left. -/
theorem span_lastLine :
    line.takeWhile (· != '\n') = line ∧ line.dropWhile (· != '\n') = [] := by
  have hspan := span_append (y := []) (bne_lineEnd_of_mem h) rfl
  rwa [List.append_nil] at hspan

end Text

/-- The return is in no word, like the line feed. -/
theorem isWordChar_return : isWordChar '\r' = isWordChar '\n' := by decide

/-- The marker of a display is on one line, without a return. -/
theorem not_mem_marker (how : Display) : '\n' ∉ how.marker ∧ '\r' ∉ how.marker := by
  cases how <;> decide

/-- The word of a directive is on one line. -/
theorem not_mem_word (directive : LineDirective) : '\n' ∉ directive.word := by
  cases directive <;> decide

/-- A verbatim block is closed at the same places. -/
theorem closesVerbatim_withReturns (t : Text) :
    closesVerbatim t.withReturns = closesVerbatim t := by
  have hn : '\n' ∉ "@end".toList := by decide
  have hr : '\r' ∉ "@end".toList := by decide
  rw [closesVerbatim, closesVerbatim, Text.startsWith_withReturns hn hr]
  cases h : t.startsWith "@end" with
  | false => rfl
  | true =>
    have hdrop : t.withReturns.drop 4 = Text.withReturns (t.drop 4) := Text.drop_withReturns hn h
    rw [hdrop, Text.any_head?_withReturns isWordChar isWordChar_return]

namespace Lexeme

/-- The lexeme that is read if returns are put in. -/
def withReturns (l : Lexeme) : Lexeme :=
  { kind := l.kind
    text := if l.kind = .literal then l.text.withReturns else l.text
    comments := l.comments.withReturns
    spelling := l.spelling.withReturns ++ (if l.residue = [] then [] else ['\r'])
    residue := l.residue
    rest := l.rest.withReturns }

/-- Plain text is read with the returns in it. -/
theorem plain_withReturns (t : Text) : plain t.withReturns = (plain t).withReturns := by
  have htake := Text.takeWhile_withReturns (· != '@') (by decide) t
  have hdrop := Text.dropWhile_withReturns (· != '@') (by decide) t
  simp [plain, withReturns, htake, hdrop]

/-- A display that is closed on its line ends there. -/
theorem ofDisplay_closed (how : Display) {expression : Text}
    (h : ∀ c ∈ expression, (c != '@' && c != '\n') = true) (rest : Text) :
    ofDisplay how (expression ++ '@' :: rest) =
      { kind := .display how, text := Text.trim expression
        spelling := '@' :: (how.marker ++ expression ++ "@"), rest } := by
  obtain ⟨htake, hdrop⟩ := Text.span_append (y := '@' :: rest) h rfl
  simp only [ofDisplay, htake, hdrop]

/-- A display stands on one line, so that it is not changed. -/
theorem ofDisplay_withReturns {how : Display} {t : Text} (h : (ofDisplay how t).kind ≠ .illegal) :
    ofDisplay how t.withReturns = (ofDisplay how t).withReturns := by
  obtain ⟨expression, rest, rfl, hinside⟩ : ∃ expression rest, t = expression ++ '@' :: rest ∧
      ∀ c ∈ expression, (c != '@' && c != '\n') = true := by
    simp only [ofDisplay] at h
    split at h
    · next rest hdrop =>
      refine ⟨t.takeWhile (fun c => c != '@' && c != '\n'), rest, ?_, ?_⟩
      · rw [← hdrop, List.takeWhile_append_dropWhile]
      · intro c hc
        exact List.mem_takeWhile_imp (p := fun c => c != '@' && c != '\n') hc
    · exact absurd rfl h
  have hline : '\n' ∉ expression := by
    intro hmem
    simpa using hinside _ hmem
  have hspelling : '\n' ∉ '@' :: (how.marker ++ expression ++ "@") := by
    simp [(not_mem_marker how).1, hline]
  have hmark : Text.withReturns ('@' :: rest) = '@' :: Text.withReturns rest := rfl
  rw [Text.withReturns_append, Text.withReturns_of_not_mem hline, hmark,
    ofDisplay_closed how hinside, ofDisplay_closed how hinside, withReturns,
    Text.withReturns_of_not_mem hspelling]
  simp

/-- A line directive takes its line and the line end. -/
theorem ofLine_line (directive : LineDirective) {line : Text} (h : '\n' ∉ line) (rest : Text) :
    ofLine directive (line ++ '\n' :: rest) =
      { kind := .line directive, text := Text.trim line, spelling := '@' :: (directive.word ++ line)
        residue := ['\n'], rest } := by
  obtain ⟨htake, hdrop⟩ := Text.span_line h rest
  simp [ofLine, htake, hdrop]

/-- On the last line a line directive takes the line, and there is no line end. -/
theorem ofLine_lastLine (directive : LineDirective) {line : Text} (h : '\n' ∉ line) :
    ofLine directive line =
      { kind := .line directive, text := Text.trim line, spelling := '@' :: (directive.word ++ line)
        rest := [] } := by
  obtain ⟨htake, hdrop⟩ := Text.span_lastLine h
  simp [ofLine, htake, hdrop]

/-- A line directive takes the return with its payload and trims it away. -/
theorem ofLine_withReturns (directive : LineDirective) (t : Text) :
    ofLine directive t.withReturns = (ofLine directive t).withReturns := by
  have hspelling {line : Text} (h : '\n' ∉ line) : '\n' ∉ '@' :: (directive.word ++ line) := by
    simp [not_mem_word directive, h]
  rcases t.eq_line_or_append with hline | ⟨line, rest, rfl, hline⟩
  · rw [Text.withReturns_of_not_mem hline, ofLine_lastLine directive hline, withReturns,
      Text.withReturns_of_not_mem (hspelling hline)]
    simp
  · have hreturn : '\n' ∉ line ++ ['\r'] := by simp [hline]
    rw [Text.withReturns_line hline, ofLine_line directive hreturn, ofLine_line directive hline,
      withReturns, Text.withReturns_of_not_mem (hspelling hline), Text.trim_append_return]
    simp

/-- A directive that is a word is read alike with returns. -/
theorem ofWord_withReturns {word t : Text} (hword : '\n' ∉ word)
    (h : (ofWord word t).kind ≠ .illegal) :
    ofWord word t.withReturns = (ofWord word t).withReturns := by
  have hspelling : '\n' ∉ '@' :: word := by simp [hword]
  unfold ofWord at h ⊢
  split
  · exact ofLine_withReturns _ t
  · next kind hline hkind =>
    have hliteral : kind ≠ .literal := by
      rcases ofWord?_cases hkind with ⟨_, rfl, -⟩ | ⟨_, rfl, -⟩ | ⟨rfl, -⟩ | ⟨rfl, -⟩ <;> simp
    simp [withReturns, Text.withReturns_of_not_mem hspelling, hliteral]
  · next hnone =>
    rw [hnone] at h
    exact absurd rfl h

/-- The marker of a display stands on one line. -/
theorem display?_withReturns (t : Text) :
    display? t.withReturns = (display? t).map (Prod.map id Text.withReturns) := by
  have hmarker : (fun d : Display => t.withReturns.startsWith d.marker) =
      fun d => t.startsWith d.marker := by
    funext d
    exact Text.startsWith_withReturns (not_mem_marker d).1 (not_mem_marker d).2 t
  rw [display?, display?, hmarker]
  cases hfound : Display.all.find? fun d => t.startsWith d.marker with
  | none => rfl
  | some d =>
    have hstarts : t.startsWith d.marker = true := by simpa using List.find?_some hfound
    simp [Text.drop_withReturns (not_mem_marker d).1 hstarts]

/-- A marker that is no brace starts a display. -/
theorem ofDirective_of_display {t rest : Text} {how : Display} (hbrace : t.head? ≠ some '\x7d')
    (h : display? t = some (how, rest)) : ofDirective t = ofDisplay how rest := by
  unfold ofDirective
  split
  · exact absurd rfl hbrace
  · rw [h]

/-- Behind a mark a word that is no marker starts a directive. -/
theorem ofDirective_of_word {t : Text} (hbrace : t.head? ≠ some '\x7d') (h : display? t = none)
    (hword : t.takeWhile isWordChar ≠ []) :
    ofDirective t = ofWord (t.takeWhile isWordChar) (t.dropWhile isWordChar) := by
  unfold ofDirective
  split
  · exact absurd rfl hbrace
  · simp only [h]

/-- A mark without a marker or a word behind it is illegal. -/
theorem ofDirective_of_stray {t : Text} (hbrace : t.head? ≠ some '\x7d') (h : display? t = none)
    (hword : t.takeWhile isWordChar = []) : (ofDirective t).kind = .illegal := by
  unfold ofDirective
  split
  · exact absurd rfl hbrace
  · rw [h, hword]
    rfl

/-- What follows a mark is read alike with returns, unless it is illegal. -/
theorem ofDirective_withReturns {t : Text} (h : (ofDirective t).kind ≠ .illegal) :
    ofDirective t.withReturns = (ofDirective t).withReturns := by
  by_cases hbrace : t.head? = some '\x7d'
  · obtain ⟨rest, rfl⟩ := List.head?_eq_some_iff.1 hbrace
    rfl
  have hbrace' : t.withReturns.head? ≠ some '\x7d' :=
    mt (Text.head?_withReturns_eq_iff (by decide) (by decide)).1 hbrace
  cases hdisplay : display? t with
  | some found =>
    obtain ⟨how, rest⟩ := found
    have hdisplay' : display? t.withReturns = some (how, Text.withReturns rest) := by
      rw [display?_withReturns, hdisplay]
      rfl
    rw [ofDirective_of_display hbrace hdisplay] at h ⊢
    rw [ofDirective_of_display hbrace' hdisplay', ofDisplay_withReturns h]
  | none =>
    have hdisplay' : display? t.withReturns = none := by
      rw [display?_withReturns, hdisplay]
      rfl
    have hword : t.takeWhile isWordChar ≠ [] := fun hnil =>
      h (ofDirective_of_stray hbrace hdisplay hnil)
    have hline : '\n' ∉ t.takeWhile isWordChar := by
      intro hmem
      exact absurd (List.mem_takeWhile_imp hmem) (by decide)
    have htake := Text.takeWhile_withReturns isWordChar isWordChar_return t
    rw [Text.withReturns_of_not_mem hline] at htake
    have hdrop := Text.dropWhile_withReturns isWordChar isWordChar_return t
    rw [ofDirective_of_word hbrace hdisplay hword] at h ⊢
    rw [ofDirective_of_word hbrace' hdisplay' (by rwa [htake]), htake, hdrop,
      ofWord_withReturns hline h]

/-- Without a mark in front, a text starts with plain text. -/
theorem ofUncommented_of_plain {t : Text} (hne : t ≠ []) (hmark : t.head? ≠ some '@') :
    ofUncommented t = plain t := by
  unfold ofUncommented
  split
  · exact absurd rfl hne
  · exact absurd rfl hmark
  · exact absurd rfl hmark
  · exact absurd rfl hmark
  · rfl

/-- A mark that neither doubles nor starts a comment starts a directive. -/
theorem ofUncommented_of_directive {t : Text} (hmark : t.head? ≠ some '@')
    (hstar : t.head? ≠ some '*') : ofUncommented ('@' :: t) = ofDirective t := by
  unfold ofUncommented
  split
  · next heq => cases heq
  · next heq =>
    cases heq
    exact absurd rfl hmark
  · next heq =>
    cases heq
    exact absurd rfl hstar
  · next heq =>
    cases heq
    rfl
  · next hne => exact absurd rfl (hne t)

/-- Behind the comments a lexeme is read alike with returns, unless it is illegal. -/
theorem ofUncommented_withReturns {t : Text} (h : (ofUncommented t).kind ≠ .illegal) :
    ofUncommented t.withReturns = (ofUncommented t).withReturns := by
  have hhead (c : Char) (hr : c ≠ '\r') (hn : c ≠ '\n') {u : Text} (hu : u.head? ≠ some c) :
      u.withReturns.head? ≠ some c := mt (Text.head?_withReturns_eq_iff hr hn).1 hu
  by_cases hnil : t = []
  · subst hnil
    rfl
  by_cases hplain : t.head? = some '@'
  · obtain ⟨t, rfl⟩ := List.head?_eq_some_iff.1 hplain
    by_cases hmark : t.head? = some '@'
    · obtain ⟨rest, rfl⟩ := List.head?_eq_some_iff.1 hmark
      rfl
    by_cases hstar : t.head? = some '*'
    · obtain ⟨rest, rfl⟩ := List.head?_eq_some_iff.1 hstar
      exact absurd rfl h
    have hcons : Text.withReturns ('@' :: t) = '@' :: Text.withReturns t := rfl
    rw [ofUncommented_of_directive hmark hstar] at h ⊢
    rw [hcons, ofUncommented_of_directive (hhead '@' (by decide) (by decide) hmark)
      (hhead '*' (by decide) (by decide) hstar), ofDirective_withReturns h]
  · rw [ofUncommented_of_plain hnil hplain, ofUncommented_of_plain
      (mt Text.withReturns_eq_nil_iff.1 hnil) (hhead '@' (by decide) (by decide) hplain),
      plain_withReturns]

/-! ## Comments -/

/-- A line comment takes its line and the line end. -/
theorem comment?_line {line : Text} (h : '\n' ∉ line) (rest : Text) :
    comment? ('@' :: '/' :: '/' :: (line ++ '\n' :: rest)) =
      some ('@' :: '/' :: '/' :: (line ++ ['\n']), rest) := by
  obtain ⟨htake, hdrop⟩ := Text.span_line h rest
  simp only [comment?, htake, hdrop]

/-- On the last line a line comment takes the line. -/
theorem comment?_lastLine {line : Text} (h : '\n' ∉ line) :
    comment? ('@' :: '/' :: '/' :: line) = some ('@' :: '/' :: '/' :: line, []) := by
  obtain ⟨-, hdrop⟩ := Text.span_lastLine h
  simp only [comment?, hdrop]

/-- A block comment goes up to the first mark that closes it. -/
theorem comment?_block (t : Text) :
    comment? ('@' :: '*' :: t) =
      (Text.cut? "*@" t).map fun pieces => ('@' :: '*' :: (pieces.1 ++ ['*', '@']), pieces.2) := by
  simp only [comment?]
  cases Text.cut? "*@" t with
  | none => rfl
  | some pieces => rfl

/-- A text that starts with neither mark of a comment starts with no comment. -/
theorem comment?_other {t : Text} (hline : t.startsWith "@//" = false)
    (hblock : t.startsWith "@*" = false) : comment? t = none := by
  unfold comment?
  split
  · cases hline
  · cases hblock
  · rfl

/-- The comment at the start is found again. -/
theorem comment?_withReturns (t : Text) :
    comment? t.withReturns = (comment? t).map (Prod.map Text.withReturns Text.withReturns) := by
  cases hline : t.startsWith "@//" with
  | true =>
    obtain ⟨u, rfl⟩ : ∃ u, t = '@' :: '/' :: '/' :: u :=
      ⟨t.drop 3, (Text.startsWith_iff.1 hline).symm⟩
    have hstart (v : Text) : Text.withReturns ('@' :: '/' :: '/' :: v) =
        '@' :: '/' :: '/' :: Text.withReturns v := rfl
    rw [hstart]
    rcases Text.eq_line_or_append u with h | ⟨line, rest, rfl, h⟩
    · rw [Text.withReturns_of_not_mem h, comment?_lastLine h]
      simp [hstart, Text.withReturns_of_not_mem h]
    · have hreturn : '\n' ∉ line ++ ['\r'] := by simp [h]
      rw [Text.withReturns_line h, comment?_line hreturn, comment?_line h]
      simp [hstart, Text.withReturns_of_not_mem h]
  | false =>
    cases hblock : t.startsWith "@*" with
    | true =>
      obtain ⟨u, rfl⟩ : ∃ u, t = '@' :: '*' :: u :=
        ⟨t.drop 2, (Text.startsWith_iff.1 hblock).symm⟩
      have hstart (v : Text) : Text.withReturns ('@' :: '*' :: v) =
          '@' :: '*' :: Text.withReturns v := rfl
      have hend : Text.withReturns ['*', '@'] = ['*', '@'] := rfl
      rw [hstart, comment?_block, comment?_block,
        Text.cut?_withReturns (by simp) (by simp) (by simp)]
      cases Text.cut? "*@" u with
      | none => rfl
      | some pieces => simp [hstart, hend]
    | false =>
      rw [comment?_other hline hblock, comment?_other]
      · rfl
      · rw [Text.startsWith_withReturns (by decide) (by decide), hline]
      · rw [Text.startsWith_withReturns (by decide) (by decide), hblock]

/-- All comments at the start are found again. -/
theorem skipComments_withReturns (t : Text) :
    skipComments t.withReturns =
      (Text.withReturns (skipComments t).1, Text.withReturns (skipComments t).2) := by
  fun_induction skipComments t with
  | case1 t comment rest h behind ih =>
    have hcomment : comment? t.withReturns =
        some (Text.withReturns comment, Text.withReturns rest) := by
      rw [comment?_withReturns, h]
      rfl
    rw [skipComments_of_comment hcomment, ih, Text.withReturns_append]
  | case2 t h =>
    have hnone : comment? t.withReturns = none := by
      rw [comment?_withReturns, h]
      rfl
    rw [skipComments_of_none hnone]
    rfl

/-- A lexeme with its comments is read alike with returns, unless it is illegal. -/
theorem ofTemplate_withReturns {t : Text} (h : (ofTemplate t).kind ≠ .illegal) :
    ofTemplate t.withReturns = (ofTemplate t).withReturns := by
  have hlegal : (ofUncommented (skipComments t).2).kind ≠ .illegal := h
  rw [ofTemplate, skipComments_withReturns]
  simp only [ofUncommented_withReturns hlegal]
  rfl

/-- The body of a verbatim block ends at the same place. -/
theorem ofVerbatim_withReturns {t : Text} (h : (ofVerbatim t).kind ≠ .illegal) :
    ofVerbatim t.withReturns = (ofVerbatim t).withReturns := by
  have hfeed (u : Text) : closesVerbatim ('\n' :: u) = false := rfl
  have hbreak := Text.breakAt_withReturns closesVerbatim_withReturns hfeed t
  unfold ofVerbatim at h ⊢
  rw [hbreak]
  generalize Text.breakAt closesVerbatim t = pieces at *
  obtain ⟨body, rest⟩ := pieces
  cases body with
  | nil => exact ofTemplate_withReturns h
  | cons c body =>
    obtain ⟨d, tail, hd⟩ := List.exists_cons_of_ne_nil
      (mt Text.withReturns_eq_nil_iff.1 (List.cons_ne_nil c body))
    simp [withReturns, hd]

/-- The same lexeme is read if returns are put in. -/
theorem read_withReturns {inVerbatim : Bool} {t : Text}
    (h : (read inVerbatim t).kind ≠ .illegal) :
    read inVerbatim t.withReturns = (read inVerbatim t).withReturns := by
  cases inVerbatim with
  | false => exact ofTemplate_withReturns h
  | true => exact ofVerbatim_withReturns h

/-- The return before the line end of a directive belongs to its spelling. -/
theorem residue_withReturns {l : Lexeme} (h : l.residue = [] ∨ l.residue = ['\n']) :
    l.withReturns.spelling ++ l.withReturns.residue =
      Text.withReturns (l.spelling ++ l.residue) := by
  rcases h with h | h
  · simp [withReturns, h]
  · simp [withReturns, h]

end Lexeme

/-! ## Cursors side by side -/

/-- Where byte `n` of the source stands if returns are put in. -/
def Text.shift (source : Text) (n : Nat) : Nat :=
  match source.splitBytes? n with
  | some (before, _) => n + before.count '\n'
  | none => n

/-- Whether a token of this sort takes the rest of its line. -/
def TokenKind.takesLine : TokenKind → Bool
  | .line _ => true
  | _ => false

/-- The token that is read instead if returns are put into the source. Its text changes if it is
text of the page, and it covers the return at its end if it takes a line that is not the last. -/
def Token.withReturns (source : Text) (isText : Bool) (t : Token) : Token :=
  { kind := t.kind
    text := if isText then t.text.withReturns else t.text
    position := t.position
    span :=
      { start := source.shift t.span.start
        stop := source.shift t.span.stop +
          (if t.kind.takesLine ∧ t.span.stop < source.byteLength then 1 else 0) } }

/-- A legal token leaves a line feed behind it if it takes a line that is not the last, and nothing
otherwise. -/
theorem Residue.of_legal {rest : Text} {kind : TokenKind} {spelling residue : Text}
    (h : Residue rest kind spelling residue) (hlegal : kind ≠ .illegal) :
    residue = ['\n'] ∧ kind.takesLine = true ∨
      residue = [] ∧ (kind.takesLine = true → rest = []) := by
  cases h with
  | lineEnd directive => exact Or.inl ⟨rfl, rfl⟩
  | lastLine directive hr => exact Or.inr ⟨rfl, fun _ => hr⟩
  | unclosedComment hr => exact absurd rfl hlegal
  | unclosedDisplay how h hr => exact absurd rfl hlegal
  | none hline hfault =>
    refine Or.inr ⟨rfl, fun htakes => ?_⟩
    cases kind with
    | line directive => exact absurd rfl (hline directive)
    | _ => cases htakes

/-- A byte is moved by as many returns as are put in before it. -/
theorem Text.shift_append (before after : Text) :
    (before ++ after).shift before.byteLength = before.withReturns.byteLength := by
  rw [Text.shift, Text.splitBytes?_append, Text.byteLength_withReturns]

namespace Cursor

/-- Two cursors behind the same tokens, the second one in the source with returns. -/
structure Twin (before : Text) (c d : Cursor) : Prop where
  /-- The first cursor has read `before`. -/
  behind : c.Behind before
  /-- The second one has read the returns as well. -/
  behind_returns : d.Behind before.withReturns
  /-- The second one has the returns left to read as well. -/
  rest : d.rest = c.rest.withReturns
  /-- Both are in a verbatim block or both are not. -/
  inVerbatim : d.inVerbatim = c.inVerbatim

variable {c d : Cursor} {before : Text}

/-- The cursor in the source with returns reads the lexeme with returns. -/
theorem Twin.lexeme (h : Twin before c d) (hlegal : c.lexeme.kind ≠ .illegal) :
    d.lexeme = c.lexeme.withReturns := by
  rw [Cursor.lexeme, h.rest, h.inVerbatim]
  exact Lexeme.read_withReturns hlegal

/-- A line feed is left behind a token exactly if it takes a line that is not the last. -/
theorem residue_ne_nil_iff (hb : c.Behind before) (hlegal : c.next.1.kind ≠ .illegal) :
    (c.next.1.kind.takesLine = true ∧ c.next.1.span.stop < (before ++ c.rest).byteLength) ↔
      c.lexeme.residue ≠ [] := by
  obtain ⟨phase, hphase⟩ := c.exists_meets
  have hresidue : c.lexeme.residue = ['\n'] ∧ c.next.1.kind.takesLine = true ∨
      c.lexeme.residue = [] ∧ (c.next.1.kind.takesLine = true → c.lexeme.rest = []) :=
    (reads_lexeme hphase).1.residue.of_legal hlegal
  have hlength : (before ++ c.rest).byteLength =
      c.next.1.span.stop + c.lexeme.residue.byteLength + c.lexeme.rest.byteLength := by
    have hpieces := c.pieces_lexeme
    rw [← hpieces]
    simp [Cursor.next, hb.offset, Nat.add_assoc]
  rw [hlength]
  rcases hresidue with ⟨hfeed, htakes⟩ | ⟨hnil, hlast⟩
  · have hpos : 0 < Text.byteLength ['\n'] := by decide
    rw [hfeed]
    refine iff_of_true ⟨htakes, ?_⟩ (by simp)
    omega
  · rw [hnil]
    refine iff_of_false ?_ (by simp)
    rintro ⟨htakes, hlt⟩
    rw [hlast htakes, Text.byteLength_nil] at hlt
    omega

/-- The token stands further to the right by the returns in front of it and in it, and by the one
behind its payload. -/
theorem Twin.span (h : Twin before c d) (hlegal : c.next.1.kind ≠ .illegal) :
    d.next.1.span = (c.next.1.withReturns (before ++ c.rest) (c.next.1.kind = .literal)).span := by
  have hpieces := c.pieces_lexeme
  have hstart := Text.shift_append (before ++ c.lexeme.comments)
    (c.lexeme.spelling ++ c.lexeme.residue ++ c.lexeme.rest)
  have hstop := Text.shift_append (before ++ c.lexeme.comments ++ c.lexeme.spelling)
    (c.lexeme.residue ++ c.lexeme.rest)
  simp only [List.append_assoc] at hpieces hstart hstop
  rw [hpieces] at hstart hstop
  have hcovered : Text.byteLength (if c.lexeme.residue = [] then [] else ['\r']) =
      if c.next.1.kind.takesLine ∧ c.next.1.span.stop < (before ++ c.rest).byteLength then 1
      else 0 := by
    by_cases hnil : c.lexeme.residue = []
    · rw [if_pos hnil, if_neg (mt (residue_ne_nil_iff h.behind hlegal).1 (not_not.2 hnil))]
      rfl
    · rw [if_neg hnil, if_pos ((residue_ne_nil_iff h.behind hlegal).2 hnil)]
      rfl
  rw [Token.withReturns, ← hcovered]
  simp only [Text.withReturns_append, Text.byteLength_append] at hstart hstop
  simp only [Cursor.next, h.lexeme hlegal, Lexeme.withReturns, h.behind.offset,
    h.behind_returns.offset, Text.byteLength_append, Nat.add_assoc, hstart, hstop]

/-- The two cursors give the same token up to returns. -/
theorem Twin.token (h : Twin before c d) (hlegal : c.next.1.kind ≠ .illegal) :
    d.next.1 = c.next.1.withReturns (before ++ c.rest) (c.next.1.kind = .literal) := by
  have hlexeme := h.lexeme hlegal
  have hkind : d.next.1.kind = c.next.1.kind := by
    simp [Cursor.next, hlexeme, Lexeme.withReturns]
  have htext : d.next.1.text =
      if c.next.1.kind = .literal then c.next.1.text.withReturns else c.next.1.text := by
    show d.lexeme.text = _
    rw [hlexeme]
    rfl
  have hposition : d.next.1.position = c.next.1.position := by
    simp [Cursor.next, hlexeme, Lexeme.withReturns, Position.advance_withReturns,
      h.behind_returns.position, h.behind.position]
  calc d.next.1 = ⟨d.next.1.kind, d.next.1.text, d.next.1.position, d.next.1.span⟩ := rfl
    _ = c.next.1.withReturns (before ++ c.rest) (c.next.1.kind = .literal) := by
      rw [hkind, htext, hposition, h.span hlegal]
      simp [Token.withReturns]

/-- Behind that token the two cursors stand side by side again. -/
theorem Twin.next (h : Twin before c d) (hlegal : c.next.1.kind ≠ .illegal) :
    Twin (before ++ c.lexeme.comments ++ c.lexeme.spelling ++ c.lexeme.residue) c.next.2
      d.next.2 := by
  obtain ⟨phase, hphase⟩ := c.exists_meets
  have hresidue := (reads_lexeme hphase).1.residue.of_legal hlegal
  have hlexeme := h.lexeme hlegal
  refine ⟨behind_next h.behind, ?_, ?_, ?_⟩
  · have hbehind := behind_next h.behind_returns
    have hread : Text.withReturns
        (before ++ c.lexeme.comments ++ c.lexeme.spelling ++ c.lexeme.residue) =
        before.withReturns ++ d.lexeme.comments ++ d.lexeme.spelling ++ d.lexeme.residue := by
      rw [hlexeme, List.append_assoc, List.append_assoc _ c.lexeme.withReturns.spelling,
        Lexeme.residue_withReturns (hresidue.symm.imp And.left And.left)]
      simp [Lexeme.withReturns]
    rwa [hread]
  · simp [Cursor.next, hlexeme, Lexeme.withReturns]
  · simp [Cursor.next, hlexeme, Lexeme.withReturns]

end Cursor

/-- The token that a token becomes if returns are put into its source. -/
def Token.retold (source : Text) (t : Token) : Token :=
  t.withReturns source (t.kind = .literal)

namespace Token

variable (source : Text) (t : Token)

/-- Returns change no sort of a token. -/
@[simp] theorem kind_retold : (t.retold source).kind = t.kind := rfl

/-- Returns change no line and no column. -/
@[simp] theorem position_retold : (t.retold source).position = t.position := rfl

/-- A token is blank with returns if it is without. -/
theorem allBlank_retold : (t.retold source).text.allBlank = t.text.allBlank := by
  simp only [retold, withReturns]
  split
  · exact Text.allBlank_withReturns t.text
  · rfl

variable {t} (h : t.kind ≠ .literal)

include h

/-- A token that is no literal is read with returns as one that is no text. -/
theorem retold_of_ne : t.retold source = t.withReturns source false := by
  rw [retold, decide_eq_false h]

/-- The text of a token that is no literal stays as it is with returns. -/
theorem text_retold : (t.retold source).text = t.text := by
  rw [retold_of_ne source h]
  rfl

end Token

namespace Cursor

/-- The run lemma: a cursor and its twin give the same tokens up to returns. -/
theorem Twin.stream {c d : Cursor} {before : Text} (h : Twin before c d)
    (hlegal : ∀ t ∈ c.stream.tokens, t.kind ≠ .illegal) :
    d.stream = ⟨c.stream.tokens.map (Token.retold (before ++ c.rest)),
      c.stream.last.retold (before ++ c.rest)⟩ := by
  induction hn : c.rest.length using Nat.strong_induction_on generalizing c d before with
  | h n ih =>
  by_cases hk : c.next.1.kind = .endOfInput
  · have htoken := h.token (by simp [hk])
    have hend : d.next.1.kind = .endOfInput := by
      rw [htoken]
      exact hk
    rw [stream_of_end hk, stream_of_end hend, htoken]
    rfl
  · rw [stream_of_next hk] at hlegal ⊢
    have hfirst : c.next.1.kind ≠ .illegal := hlegal _ (by simp)
    have htoken := h.token hfirst
    have hnext : d.next.1.kind ≠ .endOfInput := by
      rw [htoken]
      exact hk
    have hsource : before ++ c.lexeme.comments ++ c.lexeme.spelling ++ c.lexeme.residue ++
        c.next.2.rest = before ++ c.rest := by
      have hpieces := c.pieces_lexeme
      rw [← hpieces]
      simp [Cursor.next]
    have hlt : c.next.2.rest.length < n := hn ▸ next_rest_lt hk
    have htail := ih _ hlt (h.next hfirst) (fun t ht => hlegal t (List.mem_cons_of_mem _ ht)) rfl
    rw [hsource] at htail
    rw [stream_of_next hnext, htail, htoken]
    rfl

end Cursor

/-- The tokens of a source with returns, if the source has no illegal ones. -/
theorem tokenize_withReturns {source : Text}
    (h : ∀ t ∈ (tokenize source).tokens, t.kind ≠ .illegal) :
    tokenize source.withReturns =
      ⟨(tokenize source).tokens.map (Token.retold source),
        (tokenize source).last.retold source⟩ := by
  have htwin : Cursor.Twin [] (Cursor.start source) (Cursor.start source.withReturns) :=
    ⟨⟨rfl, rfl⟩, ⟨rfl, rfl⟩, rfl, rfl⟩
  exact htwin.stream h

end Stencil
