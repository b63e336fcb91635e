import Stencil.Token.Lexeme

/-!
# Token streams

A cursor walks through a source and gives one token after another, each with its position and
span. Positions and spans are measured over the pieces that the lexemes cut the source into, so
they never need to be searched for.

A stream is all that a cursor gives: the tokens before the end of the input, and the token that
marks the end.
-/

set_option autoImplicit false

namespace Stencil

/-- A place between two tokens of a source. -/
structure Cursor where
  /-- What is left to read. -/
  rest : Text
  /-- The number of bytes already read. -/
  offset : Nat := 0
  /-- The position of the next character. -/
  position : Position := .start
  /-- Whether the body of a verbatim block comes next. -/
  inVerbatim : Bool := false
  deriving DecidableEq, Repr

/-- The tokens of a source. -/
structure TokenStream where
  /-- The tokens before the end of the input. -/
  tokens : List Token
  /-- The end of the input. -/
  last : Token
  deriving DecidableEq, Repr

namespace Cursor

/-- The cursor at the start of a source. -/
def start (source : Text) : Cursor :=
  { rest := source }

/-- The lexeme that comes next. -/
def lexeme (c : Cursor) : Lexeme :=
  .read c.inVerbatim c.rest

/-- The next token and the cursor behind it. At the end of the input the cursor stays there. -/
def next (c : Cursor) : Token × Cursor :=
  let l := c.lexeme
  let position := c.position.advance l.comments
  let first := c.offset + l.comments.byteLength
  let behind := first + l.spelling.byteLength
  ({ kind := l.kind, text := l.text, position, span := ⟨first, behind⟩ },
    { rest := l.rest
      offset := behind + l.residue.byteLength
      position := (position.advance l.spelling).advance l.residue
      inVerbatim := l.kind.opensVerbatim })

/-- The pieces of the next lexeme make up what is left to read. -/
theorem pieces_lexeme (c : Cursor) :
    c.lexeme.comments ++ c.lexeme.spelling ++ c.lexeme.residue ++ c.lexeme.rest = c.rest :=
  Lexeme.read_pieces c.inVerbatim c.rest

/-- A token other than the end of the input shortens the text that is left. -/
theorem next_rest_lt {c : Cursor} (h : c.next.1.kind ≠ .endOfInput) :
    c.next.2.rest.length < c.rest.length :=
  Lexeme.read_rest_lt h

/-- All tokens from the cursor on. -/
def stream (c : Cursor) : TokenStream :=
  match _h : c.next with
  | (token, behind) =>
    if _hk : token.kind = .endOfInput then ⟨[], token⟩
    else
      let s := behind.stream
      ⟨token :: s.tokens, s.last⟩
termination_by c.rest.length
decreasing_by
  have hlt : c.next.2.rest.length < c.rest.length := next_rest_lt (by rw [_h]; exact _hk)
  rwa [_h] at hlt

/-- At the end of the input the stream has no further tokens. -/
theorem stream_of_end {c : Cursor} (h : c.next.1.kind = .endOfInput) :
    c.stream = ⟨[], c.next.1⟩ := by
  rw [stream]
  simp [h]

/-- Elsewhere the stream is the next token and the stream behind it. -/
theorem stream_of_next {c : Cursor} (h : c.next.1.kind ≠ .endOfInput) :
    c.stream = ⟨c.next.1 :: c.next.2.stream.tokens, c.next.2.stream.last⟩ := by
  rw [stream]
  simp [h]

/-- The stream depends on what comes next and on nothing else. -/
theorem stream_congr {c d : Cursor} (h : c.next = d.next) : c.stream = d.stream := by
  by_cases hk : c.next.1.kind = .endOfInput
  · have hd : d.next.1.kind = .endOfInput := h ▸ hk
    rw [stream_of_end hk, stream_of_end hd, h]
  · have hd : d.next.1.kind ≠ .endOfInput := h ▸ hk
    calc c.stream = ⟨c.next.1 :: c.next.2.stream.tokens, c.next.2.stream.last⟩ := stream_of_next hk
      _ = ⟨d.next.1 :: d.next.2.stream.tokens, d.next.2.stream.last⟩ := by rw [h]
      _ = d.stream := (stream_of_next hd).symm

end Cursor

/-- The tokens of a source. -/
def tokenize (source : Text) : TokenStream :=
  (Cursor.start source).stream

/-- The tokens in order, the end of the input included. -/
def TokenStream.toList (s : TokenStream) : List Token :=
  s.tokens ++ [s.last]

end Stencil
