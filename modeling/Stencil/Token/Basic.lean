import Stencil.Position

/-!
# Tokens

A source is literal text with directives in it. Every directive starts with `@`. There are four
sorts of them: displays, which hold an expression between a marker and a closing `@`; line
directives, which hold the rest of their line; openers of verbatim blocks; and the two words
`@else` and `@end`.
-/

set_option autoImplicit false

namespace Stencil

/-- How the value of an expression is written. -/
inductive Display
  /-- Escaped for the type of the file. -/
  | escaped
  /-- As it is. -/
  | raw
  /-- As a truth value. -/
  | bool
  /-- As an integer. -/
  | int
  /-- As an integer of 64 bits. -/
  | int64
  deriving DecidableEq, Repr

/-- The directives that hold the rest of their line. -/
inductive LineDirective
  /-- `@arg` -/
  | argument
  /-- `@context` -/
  | context
  /-- `@import` -/
  | importing
  /-- `@include` -/
  | inclusion
  /-- `@extend` -/
  | extension
  /-- `@content` -/
  | content
  /-- `@yield` -/
  | yield
  /-- `@if` -/
  | condition
  /-- `@for` -/
  | loop
  deriving DecidableEq, Repr

/-- The blocks whose body is not interpreted. -/
inductive Verbatim
  /-- `@code` -/
  | code
  /-- `@text` -/
  | text
  /-- `@func` -/
  | function
  deriving DecidableEq, Repr

/-- The sorts of tokens. -/
inductive TokenKind
  /-- Text that is written as it is. -/
  | literal
  /-- The end of the source. -/
  | endOfInput
  /-- Text that is no token; the token's text is the reason. -/
  | illegal
  /-- An expression to display. -/
  | display (how : Display)
  /-- A line directive. -/
  | line (directive : LineDirective)
  /-- The opener of a verbatim block. -/
  | verbatim (block : Verbatim)
  /-- `@else` -/
  | otherwise
  /-- `@end` or `@}` -/
  | close
  deriving DecidableEq, Repr

/-- A token and where it stands. -/
structure Token where
  /-- The sort of the token. -/
  kind : TokenKind
  /-- The literal text, the payload of a directive, or why the token is illegal. -/
  text : Text
  /-- The position of the first character. -/
  position : Position
  /-- The bytes that the token covers. -/
  span : Span
  deriving DecidableEq, Repr

/-- What stands between `@` and the expression. -/
def Display.marker : Display → Text
  | .escaped => "="
  | .raw => "=="
  | .bool => "bool="
  | .int => "int="
  | .int64 => "int64="

/-- The word after `@`. -/
def LineDirective.word : LineDirective → Text
  | .argument => "arg"
  | .context => "context"
  | .importing => "import"
  | .inclusion => "include"
  | .extension => "extend"
  | .content => "content"
  | .yield => "yield"
  | .condition => "if"
  | .loop => "for"

/-- The word after `@`. -/
def Verbatim.word : Verbatim → Text
  | .code => "code"
  | .text => "text"
  | .function => "func"

/-- The line directives. -/
def LineDirective.all : List LineDirective :=
  [.argument, .context, .importing, .inclusion, .extension, .content, .yield, .condition, .loop]

/-- The verbatim blocks. -/
def Verbatim.all : List Verbatim :=
  [.code, .text, .function]

/-- The displays, a marker before those that it starts with. -/
def Display.all : List Display :=
  [.raw, .escaped, .bool, .int64, .int]

namespace TokenKind

/-- The directives that are written as a word, with their words. -/
def words : List (Text × TokenKind) :=
  LineDirective.all.map (fun d => (d.word, line d)) ++
    Verbatim.all.map (fun b => (b.word, verbatim b)) ++
    [("else".toList, otherwise), ("end".toList, close)]

/-- The directive that the word after `@` names. -/
def ofWord? (word : Text) : Option TokenKind :=
  words.lookup word

/-- Whether the body that follows is not interpreted. -/
def opensVerbatim : TokenKind → Bool
  | verbatim _ => true
  | _ => false

/-- The spelling of a directive, in the quotes of a message. -/
private def shown (spelling : Text) : Text :=
  "`@" ++ spelling ++ "`"

/-- The sort of token as messages name it. -/
def describe : TokenKind → Text
  | literal => "literal text"
  | endOfInput => "end of input"
  | illegal => "illegal input"
  | display d => shown d.marker
  | line d => shown d.word
  | verbatim b => shown b.word
  | otherwise => shown "else"
  | close => shown "end"

end TokenKind

end Stencil
