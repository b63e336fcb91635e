import Stencil.Token.Basic

/-!
# Diagnostics

A diagnostic is a problem of a template and where it was found. Problems are told apart by their
cause, and all wording is in `Problem.message`.
-/

set_option autoImplicit false

namespace Stencil

/-- What can be wrong with a template. -/
inductive Problem
  /-- A remark that does not come from reading a template. -/
  | remark (message : Text)
  /-- An illegal token, with its reason. -/
  | illegal (reason : Text)
  /-- A display without an expression. -/
  | missingExpression (how : Display)
  /-- A declaration inside of a block. -/
  | nestedDeclaration (directive : LineDirective)
  /-- A function block inside of another block. -/
  | nestedFunction
  /-- A condition that is empty. -/
  | missingCondition
  /-- A loop whose second word is not `in`. -/
  | loopSeparator (found : Text)
  /-- A loop that does not have three words. -/
  | loopParts (count : Nat)
  /-- A call that names no template. -/
  | missingTemplate (directive : LineDirective)
  /-- A call whose template is not named by identifiers with points between them. -/
  | invalidTemplate (name : Text)
  /-- A content block outside of `@extend`. -/
  | strayContent
  /-- A content block or a yield without a name. -/
  | missingContentName (directive : LineDirective)
  /-- A content name that is no identifier. -/
  | invalidContentName (name : Text)
  /-- A second content block of the same name. -/
  | duplicateContent (name : Text)
  /-- An `@else` or `@end` that belongs to no block. -/
  | unexpected (kind : TokenKind)
  /-- Text in `@extend` that is in no content block. -/
  | textInExtend
  /-- Something other than a content block in `@extend`. -/
  | unexpectedInExtend (kind : TokenKind)
  /-- A directive in the body of a verbatim block. -/
  | unexpectedInVerbatim (kind : TokenKind)
  /-- A block that is never closed, with its opener's line. -/
  | missingEnd (opener : TokenKind) (line : Nat)
  /-- A block that is never closed and that no token opened. -/
  | missingEndOfUnopened
  /-- An argument without a name or a type. -/
  | incompleteArgument
  /-- A context variable without a name or a type. -/
  | incompleteContext
  /-- A declared name that is no identifier. -/
  | invalidName (name : Text) (directive : LineDirective)
  /-- A context variable whose default has no type before it. -/
  | missingType
  /-- A context variable with nothing after its `=`. -/
  | missingDefault
  /-- An import without a path. -/
  | missingPath
  deriving DecidableEq, Repr

/-- The problem of a block that is never closed, by the token that opened it. -/
def Problem.unclosed : Option Token → Problem
  | some opener => missingEnd opener.kind opener.position.line
  | none => missingEndOfUnopened

/-- The problem in words. -/
def Problem.message : Problem → Text
  | remark message => message
  | illegal reason => reason
  | missingExpression d => "expected an expression after " ++ (TokenKind.display d).describe
  | nestedDeclaration d => (TokenKind.line d).describe ++ " declaration only allowed at root"
  | nestedFunction => "`@func` block only allowed at root"
  | missingCondition => "expected a condition after `@if`"
  | loopSeparator found => "invalid `@for` header, expected `in` but found `" ++ found ++ "`"
  | loopParts count =>
    "invalid `@for` header, expected 3 components `var in collection` but found " ++
      Text.ofNat count
  | missingTemplate d => "expected a template name after " ++ (TokenKind.line d).describe
  | invalidTemplate name => "invalid template name `" ++ name ++ "`"
  | strayContent => "`@content` is only allowed directly inside `@extend`"
  | missingContentName d => "expected a content name after " ++ (TokenKind.line d).describe
  | invalidContentName name => "invalid content name `" ++ name ++ "`"
  | duplicateContent name => "duplicate content block `" ++ name ++ "`"
  | unexpected kind => "unexpected " ++ kind.describe
  | textInExtend => "literal text in `@extend` must be embedded in a content block (`@content`)"
  | unexpectedInExtend kind =>
    "unexpected " ++ kind.describe ++ " in `@extend`, expected `@content` or `@end`"
  | unexpectedInVerbatim kind => "unexpected " ++ kind.describe ++ " in verbatim block"
  | missingEnd opener line =>
    "missing `@end` for " ++ opener.describe ++ " on line " ++ Text.ofNat line ++
      ", unexpected end of input"
  | missingEndOfUnopened => "missing `@end`, unexpected end of input"
  | incompleteArgument => "`@arg` expects a name and a type, e.g. `@arg name String`"
  | incompleteContext => "`@context` expects a name and a type, e.g. `@context user User`"
  | invalidName name d =>
    "invalid identifier `" ++ name ++ "` in " ++ (TokenKind.line d).describe ++ " declaration"
  | missingType => "`@context` declaration is missing a type"
  | missingDefault => "`@context` declaration is missing a default value after `=`"
  | missingPath => "expected a path after `@import`"

/-- A problem and where it was found. -/
structure Diagnostic where
  /-- The position that the problem is reported at. -/
  position : Position
  /-- The bytes of the source that it is about. -/
  span : Span
  /-- What is wrong. -/
  problem : Problem
  deriving DecidableEq, Repr

namespace Diagnostic

/-- The problem found at a token. -/
def ofToken (token : Token) (problem : Problem) : Diagnostic :=
  ⟨token.position, token.span, problem⟩

/-- The problem in words. -/
def message (d : Diagnostic) : Text :=
  d.problem.message

/-- The position and the problem in words. -/
def display (d : Diagnostic) : Text :=
  d.position.display ++ ": " ++ d.message

end Diagnostic

end Stencil
