import Stencil.Text.Blank
import Stencil.Token.Basic

/-!
# Lexemes

How the next token is cut off the front of a text. A lexeme is the token's sort and text
together with the four pieces that the text falls into: the comments in front of the token, the
spelling that the token covers, a residue that is read with the token but not covered by it, and
the rest.

Nothing fails here. Text that is no token becomes an illegal lexeme that says what is wrong, and
reading goes on behind it.

Two facts carry everything that follows. The four pieces put together are the text
(`Lexeme.read_pieces`), and only the end of the input has no spelling
(`Lexeme.read_spelling_eq_nil_iff`), so that reading always comes to an end.
-/

set_option autoImplicit false

namespace Stencil

/-- What can be wrong with the text of a token. -/
inductive Fault
  /-- A block comment without an end. -/
  | unclosedComment
  /-- A display without its closing `@`. -/
  | unclosedDisplay (how : Display)
  /-- An `@` with no directive behind it. -/
  | noDirective
  /-- A word that is no directive. -/
  | unknownDirective (word : Text)
  deriving DecidableEq, Repr

/-- The fault in words. -/
def Fault.message : Fault → Text
  | unclosedComment => "unclosed block comment, expected `*@`"
  | unclosedDisplay d =>
    "unclosed " ++ (TokenKind.display d).describe ++ " expression, expected `@` on the same line"
  | noDirective => "expected a directive after `@`, use `@@` for a literal `@`"
  | unknownDirective word => "unknown directive `@" ++ word ++ "`"

/-- A token cut off the front of a text. -/
structure Lexeme where
  /-- The sort of the token. -/
  kind : TokenKind
  /-- The text of the token. -/
  text : Text
  /-- The comments in front of the token. -/
  comments : Text := []
  /-- What the token covers. -/
  spelling : Text
  /-- What is read with the token but not covered by it. -/
  residue : Text := []
  /-- What is left to read. -/
  rest : Text
  deriving DecidableEq, Repr

/-- Whether the character may be part of a directive's word. -/
def isWordChar (c : Char) : Bool :=
  c.isAlphanum || c == '_'

/-- Whether the text starts with an `@end` that closes a verbatim block: one that is not the
start of a longer word. -/
def closesVerbatim (t : Text) : Bool :=
  t.startsWith "@end" && !(t.drop 4).head?.any isWordChar

namespace Lexeme

/-- The four pieces, put together. -/
def pieces (l : Lexeme) : Text :=
  l.comments ++ l.spelling ++ l.residue ++ l.rest

/-- An illegal lexeme. -/
def faulty (fault : Fault) (spelling residue rest : Text) : Lexeme :=
  { kind := .illegal, text := fault.message, spelling, residue, rest }

/-- The comment at the start of the text, if it is complete, and what follows it. -/
def comment? : Text → Option (Text × Text)
  | '@' :: '/' :: '/' :: t =>
    match t.dropWhile (· != '\n') with
    | [] => some ('@' :: '/' :: '/' :: t, [])
    | lineEnd :: rest =>
      some ('@' :: '/' :: '/' :: (t.takeWhile (· != '\n') ++ [lineEnd]), rest)
  | '@' :: '*' :: t =>
    match Text.cut? "*@" t with
    | some (body, rest) => some ('@' :: '*' :: (body ++ "*@"), rest)
    | none => none
  | _ => none

/-- A comment and what follows it make up the text. -/
theorem comment?_pieces {t comment rest : Text} (h : comment? t = some (comment, rest)) :
    comment ++ rest = t ∧ rest.length < t.length := by
  have pieces : comment ++ rest = t ∧ comment ≠ [] := by
    unfold comment? at h
    split at h
    · next t =>
      have ht := List.takeWhile_append_dropWhile (p := (· != '\n')) (l := t)
      split at h
      · simp only [Option.some.injEq, Prod.mk.injEq] at h
        obtain ⟨rfl, rfl⟩ := h
        simp
      · next lineEnd rest' he =>
        rw [he] at ht
        simp only [Option.some.injEq, Prod.mk.injEq] at h
        obtain ⟨rfl, rfl⟩ := h
        simp [ht]
    · next t =>
      split at h
      · next body rest' hc =>
        simp only [Option.some.injEq, Prod.mk.injEq] at h
        obtain ⟨rfl, rfl⟩ := h
        simpa using Text.append_of_cut? hc
      · simp at h
    · simp at h
  refine ⟨pieces.1, ?_⟩
  have hpos := List.length_pos_iff.2 pieces.2
  have hlen := congrArg List.length pieces.1
  rw [List.length_append] at hlen
  omega

/-- The complete comments at the start of the text, and what follows them. -/
def skipComments (t : Text) : Text × Text :=
  match _h : comment? t with
  | some (comment, rest) =>
    let behind := skipComments rest
    (comment ++ behind.1, behind.2)
  | none => ([], t)
termination_by t.length
decreasing_by exact (comment?_pieces _h).2

/-- Literal text up to the next `@`. -/
def plain (t : Text) : Lexeme :=
  let spelling := t.takeWhile (· != '@')
  { kind := .literal, text := spelling, spelling, rest := t.dropWhile (· != '@') }

/-- A display whose marker has been read: the expression ends at the next `@` of the line. -/
def ofDisplay (how : Display) (t : Text) : Lexeme :=
  let inside (c : Char) := c != '@' && c != '\n'
  let expression := t.takeWhile inside
  match t.dropWhile inside with
  | '@' :: rest =>
    { kind := .display how, text := Text.trim expression
      spelling := '@' :: (how.marker ++ expression ++ "@"), rest }
  | rest => faulty (.unclosedDisplay how) ('@' :: how.marker) expression rest

/-- A line directive whose word has been read: it takes the rest of the line and the line end. -/
def ofLine (directive : LineDirective) (t : Text) : Lexeme :=
  let payload := t.takeWhile (· != '\n')
  let lineEnd := t.dropWhile (· != '\n')
  { kind := .line directive, text := Text.trim payload
    spelling := '@' :: (directive.word ++ payload)
    residue := lineEnd.take 1, rest := lineEnd.drop 1 }

/-- An `@` that no directive follows: it takes the next character with it. -/
def ofStrayMark (t : Text) : Lexeme :=
  faulty .noDirective ('@' :: t.take 1) [] (t.drop 1)

/-- A directive written as a word, by its word and what follows. -/
def ofWord (word t : Text) : Lexeme :=
  match TokenKind.ofWord? word with
  | some (.line directive) => ofLine directive t
  | some kind => { kind, text := [], spelling := '@' :: word, rest := t }
  | none => faulty (.unknownDirective word) ('@' :: word) [] t

/-- The display whose marker stands at the start of the text, and what follows the marker. -/
def display? (t : Text) : Option (Display × Text) :=
  (Display.all.find? fun d => t.startsWith d.marker).map fun d => (d, t.drop d.marker.length)

/-- What follows an `@` that starts neither a comment nor another `@`. -/
def ofDirective (t : Text) : Lexeme :=
  match t with
  | '}' :: rest => { kind := .close, text := [], spelling := ['@', '}'], rest }
  | _ =>
    match display? t with
    | some (how, rest) => ofDisplay how rest
    | none =>
      match t.takeWhile isWordChar with
      | [] => ofStrayMark t
      | word => ofWord word (t.dropWhile isWordChar)

/-- The lexeme at the start of a text that no complete comment starts. -/
def ofUncommented : Text → Lexeme
  | [] => { kind := .endOfInput, text := [], spelling := [], rest := [] }
  | '@' :: '@' :: rest => { kind := .literal, text := ['@'], spelling := ['@', '@'], rest }
  | '@' :: '*' :: t => faulty .unclosedComment ['@', '*'] t []
  | '@' :: t => ofDirective t
  | t => plain t

/-- The lexeme behind the comments at the start of the text. -/
def ofTemplate (t : Text) : Lexeme :=
  let skipped := skipComments t
  { ofUncommented skipped.2 with comments := skipped.1 }

/-- The body of a verbatim block; where it is empty, what follows it. -/
def ofVerbatim (t : Text) : Lexeme :=
  match Text.breakAt closesVerbatim t with
  | ([], _) => ofTemplate t
  | (body, rest) => { kind := .literal, text := body, spelling := body, rest }

/-- The lexeme at the start of the text, inside of a verbatim block or outside. -/
def read (inVerbatim : Bool) (t : Text) : Lexeme :=
  if inVerbatim then ofVerbatim t else ofTemplate t

/-- The comments and what follows them make up the text. -/
theorem skipComments_append (t : Text) : (skipComments t).1 ++ (skipComments t).2 = t := by
  fun_induction skipComments t with
  | case1 t comment rest h behind ih =>
    rw [List.append_assoc, ih, (comment?_pieces h).1]
  | case2 t h => rfl

/-- A lexeme that is read behind the comments has none of its own. -/
theorem comments_ofUncommented (t : Text) : (ofUncommented t).comments = [] := by
  unfold ofUncommented ofDirective ofDisplay ofStrayMark ofWord ofLine faulty plain
  grind

/-- Plain text is cut into pieces that make it up. -/
theorem pieces_plain (t : Text) : (plain t).pieces = t := by
  simp [plain, pieces]

/-- The pieces of a displayed expression are its mark, its marker and the text behind them. -/
theorem pieces_ofDisplay (how : Display) (t : Text) :
    (ofDisplay how t).pieces = '@' :: (how.marker ++ t) := by
  simp only [ofDisplay]
  have ht := List.takeWhile_append_dropWhile (p := fun c => c != '@' && c != '\n') (l := t)
  split
  · next rest hd =>
    rw [hd] at ht
    simp [pieces, ht]
  · simp [pieces, faulty, ht]

/-- The pieces of a directive that takes its line are its mark, its word and the text behind. -/
theorem pieces_ofLine (directive : LineDirective) (t : Text) :
    (ofLine directive t).pieces = '@' :: (directive.word ++ t) := by
  have ht := List.takeWhile_append_dropWhile (p := (· != '\n')) (l := t)
  simp only [ofLine, pieces, List.nil_append, List.append_assoc, List.cons_append,
    List.take_append_drop, ht]

/-- A mark that starts no directive is a piece in front of the text behind it. -/
theorem pieces_ofStrayMark (t : Text) : (ofStrayMark t).pieces = '@' :: t := by
  simp only [ofStrayMark, pieces, faulty, List.nil_append, List.append_nil, List.cons_append,
    List.take_append_drop]

/-- The word of a line directive names it. -/
theorem word_of_ofWord? {word : Text} {directive : LineDirective}
    (h : TokenKind.ofWord? word = some (.line directive)) : directive.word = word := by
  have hmem : (word, TokenKind.line directive) ∈ TokenKind.words := by
    obtain ⟨before, after, hw, -⟩ := List.lookup_eq_some_iff.1 h
    simp [hw]
  simp only [TokenKind.words, LineDirective.all, Verbatim.all, List.map_cons, List.map_nil,
    List.cons_append, List.nil_append, List.mem_cons, Prod.mk.injEq, TokenKind.line.injEq,
    reduceCtorEq, and_false, List.not_mem_nil, or_false] at hmem
  rcases hmem with ⟨rfl, rfl⟩ | ⟨rfl, rfl⟩ | ⟨rfl, rfl⟩ | ⟨rfl, rfl⟩ | ⟨rfl, rfl⟩ | ⟨rfl, rfl⟩ |
    ⟨rfl, rfl⟩ | ⟨rfl, rfl⟩ | ⟨rfl, rfl⟩ <;> rfl

/-- The pieces of a directive that is one word are its mark, the word and the text behind them. -/
theorem pieces_ofWord (word t : Text) : (ofWord word t).pieces = '@' :: (word ++ t) := by
  unfold ofWord
  split
  · next directive h => rw [pieces_ofLine, word_of_ofWord? h]
  · simp [pieces]
  · simp [pieces, faulty]

/-- Whatever a mark starts, the pieces are the mark and the text behind it. -/
theorem pieces_ofDirective (t : Text) : (ofDirective t).pieces = '@' :: t := by
  unfold ofDirective
  split
  · simp [pieces]
  · split
    · next how rest h =>
      rw [pieces_ofDisplay]
      simp only [display?, Option.map_eq_some_iff, Prod.mk.injEq] at h
      obtain ⟨d, hd, rfl, rfl⟩ := h
      have hs : t.startsWith d.marker = true := by simpa using List.find?_some hd
      rw [Text.startsWith_iff.1 hs]
    · split
      · exact pieces_ofStrayMark t
      · rw [pieces_ofWord, List.takeWhile_append_dropWhile]

/-- No character is lost between the pieces of a lexeme behind the comments. -/
theorem pieces_ofUncommented (t : Text) : (ofUncommented t).pieces = t := by
  unfold ofUncommented
  split
  · rfl
  · simp [pieces]
  · simp [pieces, faulty]
  · exact pieces_ofDirective _
  · exact pieces_plain t

/-- No character is lost between the pieces of a lexeme and its comments. -/
theorem pieces_ofTemplate (t : Text) : (ofTemplate t).pieces = t := by
  have hu := pieces_ofUncommented (skipComments t).2
  have hc : (ofUncommented (skipComments t).2).comments = [] := comments_ofUncommented _
  simp only [pieces, hc, List.nil_append] at hu
  simp only [ofTemplate, pieces, List.append_assoc]
  rw [← List.append_assoc (ofUncommented _).spelling, hu, skipComments_append]

/-- The pieces of a lexeme make up the text that it was read from. -/
theorem read_pieces (inVerbatim : Bool) (t : Text) : (read inVerbatim t).pieces = t := by
  unfold read
  split
  · unfold ofVerbatim
    split
    · exact pieces_ofTemplate t
    · next body rest _ h =>
      have := Text.breakAt_append closesVerbatim t
      rw [h] at this
      simpa [pieces] using this
  · exact pieces_ofTemplate t

/-- No word names the end of the input. -/
theorem ofWord?_ne_endOfInput (word : Text) : TokenKind.ofWord? word ≠ some .endOfInput := by
  intro h
  obtain ⟨before, after, hw, -⟩ := List.lookup_eq_some_iff.1 h
  have hmem : (word, TokenKind.endOfInput) ∈ TokenKind.words := by simp [hw]
  simp [TokenKind.words] at hmem

/-- What a mark starts is never the end of the input. -/
theorem kind_ofDirective_ne (t : Text) : (ofDirective t).kind ≠ .endOfInput := by
  unfold ofDirective ofDisplay ofStrayMark ofWord ofLine faulty
  have := ofWord?_ne_endOfInput
  grind

/-- What a mark starts is never spelled by nothing. -/
theorem spelling_ofDirective_ne (t : Text) : (ofDirective t).spelling ≠ [] := by
  unfold ofDirective ofDisplay ofStrayMark ofWord ofLine faulty
  grind

/-- The end of the input is found exactly where no text is left. -/
theorem kind_ofUncommented_iff (t : Text) : (ofUncommented t).kind = .endOfInput ↔ t = [] := by
  unfold ofUncommented
  split
  · simp
  · simp
  · simp [faulty]
  · simp [kind_ofDirective_ne]
  · next h _ _ _ => simpa [plain] using h

/-- A lexeme is spelled by nothing exactly where no text is left. -/
theorem spelling_ofUncommented_iff (t : Text) : (ofUncommented t).spelling = [] ↔ t = [] := by
  unfold ofUncommented
  split
  · simp
  · simp
  · simp [faulty]
  · simp [spelling_ofDirective_ne]
  · next h _ _ hd =>
    cases t with
    | nil => simp at h
    | cons c t =>
      have hc : c ≠ '@' := fun he => hd t (by rw [he])
      simp [plain, hc]

/-- Only the end of the input has no spelling. -/
theorem read_spelling_eq_nil_iff (inVerbatim : Bool) (t : Text) :
    (read inVerbatim t).spelling = [] ↔ (read inVerbatim t).kind = .endOfInput := by
  have template : (ofTemplate t).spelling = [] ↔ (ofTemplate t).kind = .endOfInput := by
    simp only [ofTemplate, spelling_ofUncommented_iff, kind_ofUncommented_iff]
  unfold read
  split
  · unfold ofVerbatim
    split
    · exact template
    · next body rest hne h => simpa using hne
  · exact template

/-- Unless the input is at its end, reading a lexeme leaves less to read. -/
theorem read_rest_lt {inVerbatim : Bool} {t : Text}
    (h : (read inVerbatim t).kind ≠ .endOfInput) :
    (read inVerbatim t).rest.length < t.length := by
  have hs : (read inVerbatim t).spelling ≠ [] := by
    rwa [ne_eq, read_spelling_eq_nil_iff]
  have hpos := List.length_pos_iff.2 hs
  have hlen := congrArg List.length (read_pieces inVerbatim t)
  simp only [pieces, List.length_append] at hlen
  omega

end Lexeme

end Stencil
