import Stencil.Proofs.Token.Form

/-!
# Tokens tile their source

A source falls into tiles, one for each token: the comments in front of the token, the token's
spelling, and a residue that is read with it. `Tiles` says so of the tokens behind a place of the
source, and with it everything about a single token that does not depend on where it stands: how
it is spelled (`Spells`), what it leaves behind (`Residue`), and which token may come next
(`Phase.Admits`).

The one run lemma is `tiles_tokenize`. It follows from a step lemma, `reads_lexeme`, by induction
on what is left to read.
-/

set_option autoImplicit false

namespace Stencil

/-- Where the next token stands. -/
inductive Phase
  /-- In template text. -/
  | template
  /-- Behind the opener of a verbatim block. -/
  | opened
  /-- Behind the body of a verbatim block. -/
  | filled
  deriving DecidableEq, Repr

namespace Phase

/-- Where the token behind the next one stands, by the sort of the next one. -/
def after (phase : Phase) (kind : TokenKind) : Phase :=
  if kind.opensVerbatim then .opened
  else if phase = .opened ∧ kind = .literal then .filled
  else .template

/-- Whether a token of this sort may come next, before the end of the input. -/
def Admits : Phase → TokenKind → Prop
  | .template, _ => True
  | .opened, kind => kind = .literal ∨ kind = .close
  | .filled, kind => kind = .close

/-- A verbatim block has been opened exactly behind a token that opens one. -/
theorem after_eq_opened_iff {phase : Phase} {kind : TokenKind} :
    phase.after kind = .opened ↔ kind.opensVerbatim = true := by
  unfold after
  split
  · next h => simp [h]
  · next h =>
    split <;> simp [h]

end Phase

/-- The spelling of a fault. -/
def Fault.SpelledAs : Fault → Text → Prop
  | .unclosedComment, spelling => spelling = "@*"
  | .unclosedDisplay how, spelling => spelling = '@' :: how.marker
  | .noDirective, spelling => spelling = "@" ∨
      ∃ c, spelling = ['@', c] ∧ isWordChar c = false ∧ c ≠ '=' ∧ c ≠ '*'
  | .unknownDirective word, spelling =>
      spelling = '@' :: word ∧ word ≠ [] ∧ ∀ c ∈ word, isWordChar c = true

/-- The text of a token by its sort and spelling; `inBody` says whether it is the body of a
verbatim block. -/
def Spells (inBody : Bool) (kind : TokenKind) (text spelling : Text) : Prop :=
  match kind with
  | .literal => text = if spelling = ['@', '@'] ∧ inBody = false then ['@'] else spelling
  | .endOfInput => spelling = [] ∧ text = []
  | .illegal => ∃ fault : Fault, fault.SpelledAs spelling ∧ text = fault.message
  | .display how =>
      ∃ expression : Text, spelling = '@' :: (how.marker ++ expression ++ "@") ∧
        text = expression.trim
  | .line directive =>
      ∃ payload : Text, spelling = '@' :: (directive.word ++ payload) ∧ text = payload.trim
  | .verbatim block => spelling = '@' :: block.word ∧ text = []
  | .otherwise => spelling = "@else" ∧ text = []
  | .close => (spelling = "@end" ∨ spelling = "@\x7d") ∧ text = []

/-- What is read with a token but not covered by it, where `rest` is left to read. -/
inductive Residue (rest : Text) : TokenKind → Text → Text → Prop
  /-- The line end of a line directive. -/
  | lineEnd (directive : LineDirective) {spelling : Text} :
      Residue rest (.line directive) spelling "\n"
  /-- No line end, at the end of the source. -/
  | lastLine (directive : LineDirective) {spelling : Text} (hr : rest = []) :
      Residue rest (.line directive) spelling []
  /-- All that follows an unclosed block comment. -/
  | unclosedComment {residue : Text} (hr : rest = []) : Residue rest .illegal "@*" residue
  /-- The rest of the line behind the marker of an unclosed display. -/
  | unclosedDisplay (how : Display) {residue : Text} (h : ∀ c ∈ residue, c ≠ '@' ∧ c ≠ '\n')
      (hr : rest = [] ∨ rest.head? = some '\n') :
      Residue rest .illegal ('@' :: how.marker) residue
  /-- Nothing behind any other token. -/
  | none {kind : TokenKind} {spelling : Text} (hline : ∀ directive, kind ≠ .line directive)
      (hfault : kind = .illegal → spelling ≠ "@*" ∧ ∀ how : Display, spelling ≠ '@' :: how.marker) :
      Residue rest kind spelling []

/-- Only line directives and faults leave something behind. -/
theorem Residue.eq_nil {rest : Text} {kind : TokenKind} {spelling residue : Text}
    (h : Residue rest kind spelling residue) (hline : ∀ directive, kind ≠ .line directive)
    (hfault : kind ≠ .illegal) : residue = [] := by
  cases h with
  | lineEnd directive => exact absurd rfl (hline directive)
  | lastLine directive hr => rfl
  | unclosedComment hr => exact absurd rfl hfault
  | unclosedDisplay how h hr => exact absurd rfl hfault
  | none hline hfault => rfl

/-- `Tiles phase before source tokens`: the tokens, of which the last is the end of the input,
tile `source`, which stands behind `before`. -/
inductive Tiles : Phase → Text → Text → List Token → Prop
  /-- The end of the input behind the last comments. -/
  | last {phase : Phase} {before comments : Text} {t : Token} (hcomments : Comments [] comments)
      (hkind : t.kind = .endOfInput) (htext : t.text = [])
      (hspan : t.span = ⟨(before ++ comments).byteLength, (before ++ comments).byteLength⟩)
      (hposition : t.position = Position.start.advance (before ++ comments)) :
      Tiles phase before comments [t]
  /-- A token and the tokens behind it. -/
  | cons {phase : Phase} {before comments spelling residue rest : Text} {t : Token}
      {ts : List Token} (hcomments : Comments (spelling ++ residue ++ rest) comments)
      (hkind : t.kind ≠ .endOfInput) (hadmits : phase.Admits t.kind) (hspelling : spelling ≠ [])
      (hspells : Spells (phase = .opened) t.kind t.text spelling)
      (hresidue : Residue rest t.kind spelling residue)
      (hspan : t.span =
        ⟨(before ++ comments).byteLength, (before ++ comments ++ spelling).byteLength⟩)
      (hposition : t.position = Position.start.advance (before ++ comments))
      (htail : Tiles (phase.after t.kind) (before ++ comments ++ spelling ++ residue) rest ts) :
      Tiles phase before (comments ++ spelling ++ residue ++ rest) (t :: ts)

namespace Lexeme

/-- What is known of the next lexeme by where it stands. -/
structure Reads (phase : Phase) (l : Lexeme) : Prop where
  /-- Only complete comments are skipped. -/
  comments : Comments (l.spelling ++ l.residue ++ l.rest) l.comments
  /-- The text is what the spelling says. -/
  spells : Spells (phase = .opened) l.kind l.text l.spelling
  /-- What is left behind. -/
  residue : Residue l.rest l.kind l.spelling l.residue
  /-- The sort of the token is one that may come next. -/
  admits : l.kind ≠ .endOfInput → phase.Admits l.kind
  /-- Nothing is left at the end of the input. -/
  rest : l.kind = .endOfInput → l.rest = []

/-- The marker of a display is not made of word characters. -/
theorem marker_not_word (how : Display) : ∃ c ∈ how.marker, isWordChar c = false := by
  refine ⟨'=', ?_, by decide⟩
  cases how <;> decide

/-- The only marker of one character is `=`. -/
theorem eq_of_marker {how : Display} {c : Char} (h : how.marker = [c]) : c = '=' := by
  have hlength : how.marker.length = 1 := by
    rw [h]
    rfl
  cases how with
  | escaped => exact (List.head_eq_of_cons_eq h).symm
  | raw | bool | int | int64 => exact absurd hlength (by decide)

/-- A form spells its text. -/
theorem Form.spells {l : Lexeme} (h : Form l) : Spells false l.kind l.text l.spelling := by
  cases h with
  | endOfInput => exact ⟨rfl, rfl⟩
  | @plain t rest ht hm =>
    have hne : t ≠ ['@', '@'] := by
      rintro rfl
      simp at hm
    simp [Spells, hne]
  | doubled => simp [Spells]
  | unclosedComment h => exact ⟨.unclosedComment, rfl, rfl⟩
  | display how he => exact ⟨_, rfl, rfl⟩
  | unclosedDisplay how he hr => exact ⟨.unclosedDisplay how, rfl, rfl⟩
  | line directive hp hr => exact ⟨_, rfl, rfl⟩
  | verbatim block => exact ⟨rfl, rfl⟩
  | otherwise => exact ⟨rfl, rfl⟩
  | close hs => exact ⟨hs, rfl⟩
  | @strayMark t ht =>
    refine ⟨.noDirective, ?_, rfl⟩
    cases t with
    | nil => exact Or.inl rfl
    | cons c t =>
      obtain ⟨hword, heq, hstar⟩ := ht c rfl
      exact Or.inr ⟨c, rfl, hword, heq, hstar⟩
  | unknown hn hw => exact ⟨.unknownDirective _, ⟨rfl, hn, hw⟩, rfl⟩

/-- A fault without a residue is neither an unclosed comment nor an unclosed display. -/
theorem not_unclosed_of_word {tail : Text} (hw : ∀ c ∈ tail, isWordChar c = true) :
    '@' :: tail ≠ "@*".toList ∧ ∀ how : Display, '@' :: tail ≠ '@' :: how.marker := by
  constructor
  · intro he
    have htail : tail = ['*'] := List.tail_eq_of_cons_eq he
    exact absurd (hw '*' (by simp [htail])) (by decide)
  · intro how he
    have htail : tail = how.marker := List.tail_eq_of_cons_eq he
    obtain ⟨c, hc, hn⟩ := marker_not_word how
    rw [hw c (htail ▸ hc)] at hn
    exact Bool.noConfusion hn

/-- A form leaves a residue of the listed sorts. -/
theorem Form.residue {l : Lexeme} (h : Form l) : Residue l.rest l.kind l.spelling l.residue := by
  cases h with
  | endOfInput => exact Residue.none (by simp) (by simp)
  | plain ht hm => exact Residue.none (by simp) (by simp)
  | doubled => exact Residue.none (by simp) (by simp)
  | unclosedComment h => exact Residue.unclosedComment rfl
  | display how he => exact Residue.none (by simp) (by simp)
  | unclosedDisplay how he hr => exact Residue.unclosedDisplay how he hr
  | line directive hp hr =>
    rcases hr with rfl | ⟨rfl, hrest⟩
    · exact Residue.lineEnd directive
    · exact Residue.lastLine directive hrest
  | verbatim block => exact Residue.none (by simp) (by simp)
  | otherwise => exact Residue.none (by simp) (by simp)
  | close hs => exact Residue.none (by simp) (by simp)
  | @strayMark t ht =>
    refine Residue.none (fun directive hk => by cases hk) fun _ => ?_
    cases t with
    | nil => exact @not_unclosed_of_word [] (by simp)
    | cons c t =>
      obtain ⟨hword, heq, hstar⟩ := ht c rfl
      refine ⟨?_, ?_⟩
      · intro he
        have hc : c = '*' := by simpa [faulty] using he
        exact hstar hc
      · intro how he
        exact heq (eq_of_marker (List.tail_eq_of_cons_eq he).symm)
  | unknown hn hw =>
    exact Residue.none (fun directive hk => by cases hk) fun _ => not_unclosed_of_word hw

/-- At the end of the input nothing is left. -/
theorem Form.rest_eq_nil {l : Lexeme} (h : Form l) (hk : l.kind = .endOfInput) : l.rest = [] := by
  cases h with
  | endOfInput => rfl
  | _ => cases hk

/-- Behind the comments at its start a template text falls into one of the forms. -/
theorem reads_ofTemplate (t : Text) : Reads .template (ofTemplate t) := by
  have hform := form_ofUncommented (comment?_skipComments t)
  have hpieces : (ofUncommented (skipComments t).2).spelling ++
      (ofUncommented (skipComments t).2).residue ++ (ofUncommented (skipComments t).2).rest =
        (skipComments t).2 := by
    have hu := pieces_ofUncommented (skipComments t).2
    rwa [pieces, comments_ofUncommented, List.nil_append] at hu
  refine ⟨?_, hform.spells, hform.residue, fun _ => trivial, hform.rest_eq_nil⟩
  simp only [ofTemplate, hpieces]
  exact comments_skipComments t

/-- Where a verbatim block is closed or the source ends, nothing but this is read. -/
theorem reads_of_closes {phase : Phase} (hphase : phase ≠ .template) {t : Text}
    (h : t = [] ∨ closesVerbatim t = true) : Reads phase (ofTemplate t) := by
  rcases h with rfl | h
  · have hread : ofTemplate [] =
        { kind := .endOfInput, text := [], spelling := [], rest := [] } := by
      rw [ofTemplate, skipComments]
      split
      · next hc => simp [comment?] at hc
      · rfl
    rw [hread]
    exact ⟨Comments.none, ⟨rfl, rfl⟩, Residue.none (by simp) (by simp), by simp, by simp⟩
  · obtain ⟨rest, rfl, hread⟩ := ofTemplate_of_closes h
    rw [hread]
    refine ⟨Comments.none, ⟨Or.inl rfl, rfl⟩, Residue.none (by simp) (by simp), ?_, by simp⟩
    cases phase with
    | template => exact absurd rfl hphase
    | opened => exact fun _ => Or.inr rfl
    | filled => exact fun _ => rfl

end Lexeme

namespace Cursor

/-- Whether the cursor is where the next token stands as the phase says. -/
def Meets (c : Cursor) : Phase → Prop
  | .template => c.inVerbatim = false
  | .opened => c.inVerbatim = true
  | .filled => c.inVerbatim = false ∧ (c.rest = [] ∨ closesVerbatim c.rest = true)

/-- Behind anything but a body the cursor is in template text or behind an opener. -/
theorem meets_next {c : Cursor} {phase : Phase}
    (h : phase = .opened → c.lexeme.kind ≠ .literal) :
    c.next.2.Meets (phase.after c.lexeme.kind) := by
  have hnot : ¬ (phase = .opened ∧ c.lexeme.kind = .literal) := fun ⟨hp, hk⟩ => h hp hk
  unfold Phase.after
  rw [if_neg hnot]
  cases hv : c.lexeme.kind.opensVerbatim with
  | true => exact hv
  | false => exact hv

/-- The step lemma: what is read next is what may stand there, and the cursor behind it is where
the token behind it stands. -/
theorem reads_lexeme {c : Cursor} {phase : Phase} (h : c.Meets phase) :
    c.lexeme.Reads phase ∧ c.next.2.Meets (phase.after c.lexeme.kind) := by
  cases phase with
  | template =>
    have hlexeme : c.lexeme = Lexeme.ofTemplate c.rest := by
      have hv : c.inVerbatim = false := h
      simp [lexeme, Lexeme.read, hv]
    exact ⟨hlexeme ▸ Lexeme.reads_ofTemplate c.rest, meets_next (by simp)⟩
  | opened =>
    have hlexeme : c.lexeme = Lexeme.ofVerbatim c.rest := by
      have hv : c.inVerbatim = true := h
      simp [lexeme, Lexeme.read, hv]
    have hclosed (hc : c.rest = [] ∨ closesVerbatim c.rest = true)
        (he : Lexeme.ofVerbatim c.rest = Lexeme.ofTemplate c.rest) :
        c.lexeme.Reads .opened ∧ c.next.2.Meets (Phase.opened.after c.lexeme.kind) := by
      have hread : (Lexeme.ofTemplate c.rest).Reads .filled := Lexeme.reads_of_closes (by simp) hc
      rw [hlexeme, he]
      refine ⟨Lexeme.reads_of_closes (by simp) hc, ?_⟩
      rw [← he, ← hlexeme]
      refine meets_next fun _ hk => ?_
      rw [← he, ← hlexeme] at hread
      have hadmits := hread.admits (by simp [hk])
      rw [hk] at hadmits
      cases hadmits
    rcases Lexeme.ofVerbatim_cases c.rest with ⟨hr, he⟩ | ⟨hr, he⟩ | ⟨body, rest, hb, hr, ht, he⟩
    · exact hclosed (Or.inl hr) he
    · exact hclosed (Or.inr hr) he
    · rw [he] at hlexeme
      have hnext : c.next.2.inVerbatim = false ∧ c.next.2.rest = rest := by
        simp [next, hlexeme, TokenKind.opensVerbatim]
      rw [hlexeme]
      refine ⟨⟨Comments.none, ?_, Residue.none (by simp) (by simp), fun _ => Or.inl rfl, by simp⟩,
        hnext.1, ?_⟩
      · simp [Spells]
      · rwa [hnext.2]
  | filled =>
    obtain ⟨hv, hc⟩ := h
    have hlexeme : c.lexeme = Lexeme.ofTemplate c.rest := by
      simp [lexeme, Lexeme.read, hv]
    exact ⟨hlexeme ▸ Lexeme.reads_of_closes (by simp) hc, meets_next (by simp)⟩

/-- A cursor that has read `before`. -/
structure Behind (c : Cursor) (before : Text) : Prop where
  /-- The offset counts the bytes that have been read. -/
  offset : c.offset = before.byteLength
  /-- The position is the one behind them. -/
  position : c.position = Position.start.advance before

/-- The cursor behind the next token has read the token's pieces as well. -/
theorem behind_next {c : Cursor} {before : Text} (h : c.Behind before) :
    c.next.2.Behind (before ++ c.lexeme.comments ++ c.lexeme.spelling ++ c.lexeme.residue) := by
  constructor
  · simp [next, h.offset, Nat.add_assoc]
  · simp [next, h.position]

/-- The run lemma: the tokens from a cursor on tile what is left to read. -/
theorem tiles_stream (c : Cursor) {phase : Phase} {before : Text} (hphase : c.Meets phase)
    (hbehind : c.Behind before) : Tiles phase before c.rest c.stream.toList := by
  induction hn : c.rest.length using Nat.strong_induction_on generalizing c phase before with
  | h n ih =>
  obtain ⟨hreads, hmeets⟩ := reads_lexeme hphase
  have hpieces := c.pieces_lexeme
  have hposition : c.next.1.position = Position.start.advance (before ++ c.lexeme.comments) := by
    simp [next, hbehind.position]
  -- The end of the input ends the stream; any other token is spelled, so that less is left to read.
  by_cases hk : c.next.1.kind = .endOfInput
  · have hkind : c.lexeme.kind = .endOfInput := hk
    have hspells := hreads.spells
    rw [hkind] at hspells
    have hresidue : c.lexeme.residue = [] :=
      hreads.residue.eq_nil (by simp [hkind]) (by simp [hkind])
    have hcomments := hreads.comments
    rw [hspells.1, hresidue, hreads.rest hkind] at hpieces hcomments
    have hrest : c.rest = c.lexeme.comments := by simpa using hpieces.symm
    rw [stream_of_end hk, hrest]
    refine Tiles.last (by simpa using hcomments) hk hspells.2 ?_ hposition
    simp [next, hbehind.offset, hspells.1]
  · have hlt : c.next.2.rest.length < n := hn ▸ next_rest_lt hk
    have hspelling : c.lexeme.spelling ≠ [] :=
      fun h => hk ((Lexeme.read_spelling_eq_nil_iff c.inVerbatim c.rest).1 h)
    have htail := ih _ hlt c.next.2 hmeets (behind_next hbehind) rfl
    rw [stream_of_next hk, ← hpieces]
    refine Tiles.cons hreads.comments hk (hreads.admits hk) hspelling hreads.spells hreads.residue
      ?_ hposition htail
    simp [next, hbehind.offset, Nat.add_assoc]

end Cursor

/-- The tokens of a source tile it. -/
theorem tiles_tokenize (source : Text) : Tiles .template [] source (tokenize source).toList :=
  (Cursor.start source).tiles_stream rfl ⟨rfl, rfl⟩

end Stencil
