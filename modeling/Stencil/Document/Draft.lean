import Stencil.Document.Basic
import Stencil.Token.Stream

/-!
# Drafts

A draft is a document of which the first tokens have been read. It holds the blocks that are
still open, the innermost first, and takes one token after another. A block that is closed
becomes a node of the block around it.

Nothing fails here either: a token that does not fit is reported, and a block that is wrong in
itself is still read to its end, so that its `@end` closes no other block. When the input ends,
each block that is still open takes the end of the input, the innermost first, and is reported
and closed by it.
-/

set_option autoImplicit false

namespace Stencil

/-- What an open block will become. -/
inductive Frame
  /-- A condition. -/
  | condition
  /-- The alternative of a condition, with the condition's token and its body so far. -/
  | otherwise (condition? : Option Token) (chosen : List Node)
  /-- A loop; without a head it will be dropped. -/
  | loop (head? : Option LoopHead)
  /-- A call with content blocks; without a call it will be dropped. -/
  | extension (call? : Option Call)
  /-- A content block. -/
  | slot (name : Text)
  /-- A content block in the wrong place, which will be dropped. -/
  | strayContent
  /-- A verbatim block. -/
  | verbatim (block : Verbatim)
  deriving Repr

/-- A block that is not closed yet. -/
structure OpenBlock where
  /-- The token that opened it, if one did. -/
  opener? : Option Token
  /-- What it will become. -/
  frame : Frame
  /-- Its children so far. -/
  body : List Node := []
  deriving Repr

namespace OpenBlock

/-- Adds a child. The body of an `@extend` takes nothing but content blocks. -/
def add (b : OpenBlock) (node : Node) : OpenBlock :=
  match b.frame, node.kind with
  | .extension _, .slot _ => { b with body := b.body ++ [node] }
  | .extension _, _ => b
  | _, _ => { b with body := b.body ++ [node] }

/-- The node that the block becomes, if it is not dropped. -/
def node? (b : OpenBlock) : Option Node :=
  match b.frame with
  | .condition => some ⟨.condition, b.opener?, b.body⟩
  | .otherwise condition? chosen =>
    some ⟨.condition, condition?, chosen ++ [⟨.otherwise, b.opener?, b.body⟩]⟩
  | .loop head? => head?.map fun head => ⟨.loop head, b.opener?, b.body⟩
  | .extension call? => call?.map fun call => ⟨.extension call, b.opener?, b.body⟩
  | .slot name => some ⟨.slot name, b.opener?, b.body⟩
  | .strayContent => none
  | .verbatim block => some ⟨.verbatim block, b.opener?, b.body⟩

end OpenBlock

/-- A document that is being read. -/
structure Draft where
  /-- The children of the root so far. -/
  body : List Node := []
  /-- The blocks that are open, the innermost first. -/
  blocks : List OpenBlock := []
  /-- The declarations so far. -/
  declarations : Declarations := {}
  /-- The problems so far. -/
  diagnostics : List Diagnostic := []
  deriving Repr

variable [Alphabet]

namespace Draft

/-- Reports a problem at a token. -/
def report (d : Draft) (token : Token) (problem : Problem) : Draft :=
  { d with diagnostics := d.diagnostics ++ [.ofToken token problem] }

/-- Reports the problem, if there is one. -/
def reportAny {α : Type} (d : Draft) (token : Token) : Except Problem α → Draft
  | .ok _ => d
  | .error problem => d.report token problem

/-- Adds a node to the innermost block. -/
def add (d : Draft) (node : Node) : Draft :=
  match d.blocks with
  | [] => { d with body := d.body ++ [node] }
  | block :: outer => { d with blocks := block.add node :: outer }

/-- Opens a block. -/
def begin (d : Draft) (opener : Token) (frame : Frame) : Draft :=
  { d with blocks := { opener? := some opener, frame } :: d.blocks }

/-- Adds a function block to the declarations. -/
def declareFunction (d : Draft) (node : Node) : Draft :=
  { d with declarations.functions := d.declarations.functions ++ [node] }

/-- Closes the innermost block. A function block becomes a declaration at the root and is an
error elsewhere, which is reported at its opener; without one it is declared all the same. Any
other block becomes a node of the block around it. -/
def close (d : Draft) : Draft :=
  match d.blocks with
  | [] => d
  | block :: outer =>
    let d := { d with blocks := outer }
    match block.frame, block.node? with
    | _, none => d
    | .verbatim .function, some node =>
      match block.opener?, outer with
      | some opener, _ :: _ => d.report opener .nestedFunction
      | _, _ => d.declareFunction node
    | _, some node => d.add node

/-- Takes a declaration at the root. -/
def declare (d : Draft) (directive : LineDirective) (token : Token) : Draft :=
  let line := token.position.line
  match directive with
  | .argument =>
    match Argument.read line token.text with
    | .ok a => { d with declarations.arguments := d.declarations.arguments ++ [a] }
    | .error problem => d.report token problem
  | .context =>
    match ContextVariable.read line token.text with
    | .ok c => { d with declarations.contexts := d.declarations.contexts ++ [c] }
    | .error problem => d.report token problem
  | .importing =>
    match Import.read line token.text with
    | .ok i => { d with declarations.imports := d.declarations.imports ++ [i] }
    | .error problem => d.report token problem
  | _ => d

/-- Takes a line directive as a statement. -/
def takeLine (d : Draft) (directive : LineDirective) (token : Token) : Draft :=
  match directive with
  | .argument | .context | .importing =>
    if d.blocks.isEmpty then d.declare directive token
    else d.report token (.nestedDeclaration directive)
  | .inclusion =>
    match Call.read .inclusion token.text with
    | .ok call => d.add (.leaf (.inclusion call) token)
    | .error problem => d.report token problem
  | .extension =>
    let call := Call.read .extension token.text
    (d.reportAny token call).begin token (.extension call.toOption)
  | .content => (d.report token .strayContent).begin token .strayContent
  | .yield =>
    match readContentName .yield token.text with
    | .ok name => d.add (.leaf (.yield name) token)
    | .error problem => d.report token problem
  | .condition =>
    (if token.text.isEmpty then d.report token .missingCondition else d).begin token .condition
  | .loop =>
    let head := LoopHead.read token.text
    (d.reportAny token head).begin token (.loop head.toOption)

/-- Takes a token as a statement of the innermost block. -/
def statement (d : Draft) (token : Token) : Draft :=
  match token.kind with
  | .literal => d.add (.leaf .literal token)
  | .endOfInput => d
  | .illegal => d.report token (.illegal token.text)
  | .display how =>
    if token.text.isEmpty then d.report token (.missingExpression how)
    else d.add (.leaf (.display how) token)
  | .line directive => d.takeLine directive token
  | .verbatim block => d.begin token (.verbatim block)
  | .otherwise => d.report token (.unexpected .otherwise)
  | .close => d.report token (.unexpected .close)

/-- Reads the name of a content block that comes behind the given others of its `@extend`. -/
def slotName (slots : List Node) (name : Text) : Except Problem Text :=
  match readContentName .content name with
  | .error problem => .error problem
  | .ok name =>
    if slots.any (·.kind = .slot name) then .error (.duplicateContent name) else .ok name

/-- Takes a token directly inside of an `@extend`, whose content blocks so far are given.
A statement that is out of place is read to its end all the same. -/
def stepExtension (d : Draft) (slots : List Node) (token : Token) : Draft :=
  match token.kind with
  | .close => d.close
  | .literal => if token.text.allBlank then d else d.report token .textInExtend
  | .illegal => d.report token (.illegal token.text)
  | .otherwise => d.report token (.unexpectedInExtend .otherwise)
  | .line .content =>
    (d.reportAny token (slotName slots token.text)).begin token (.slot token.text)
  | kind => (d.report token (.unexpectedInExtend kind)).statement token

/-- Takes a token inside of a verbatim block. -/
def stepVerbatim (d : Draft) (token : Token) : Draft :=
  match token.kind with
  | .literal => d.add (.leaf .verbatimText token)
  | .close => d.close
  | kind => d.report token (.unexpectedInVerbatim kind)

/-- Takes the end of the input inside of a block, which is reported and closed. -/
def stepEnd (d : Draft) (opener? : Option Token) (last : Token) : Draft :=
  (d.report last (.unclosed opener?)).close

/-- Takes the `@else` of a condition: the block goes on with the alternative. -/
def turn (d : Draft) (block : OpenBlock) (outer : List OpenBlock) (token : Token) : Draft :=
  { d with
    blocks := { opener? := some token, frame := .otherwise block.opener? block.body } :: outer }

/-- Takes a token. -/
def step (d : Draft) (token : Token) : Draft :=
  match d.blocks with
  | [] => d.statement token
  | block :: outer =>
    match token.kind, block.frame with
    | .endOfInput, _ => d.stepEnd block.opener? token
    | _, .verbatim _ => d.stepVerbatim token
    | _, .extension _ => d.stepExtension block.body token
    | .otherwise, .condition => d.turn block outer token
    | .close, _ => d.close
    | _, _ => d.statement token

/-- Takes several tokens. -/
def run (d : Draft) (tokens : List Token) : Draft :=
  tokens.foldl step d

/-- No tokens leave the draft as it is. -/
@[simp] theorem run_nil (d : Draft) : d.run [] = d := rfl

/-- A run takes the first token and goes on with the others. -/
@[simp] theorem run_cons (d : Draft) (token : Token) (tokens : List Token) :
    d.run (token :: tokens) = (d.step token).run tokens := rfl

/-- Tokens are taken one after another. -/
theorem run_append (d : Draft) (ss ts : List Token) : d.run (ss ++ ts) = (d.run ss).run ts := by
  simp [run]

/-- Takes the end of the input once for every open block. -/
def finish (d : Draft) (last : Token) : Draft :=
  d.run (List.replicate d.blocks.length last)

/-- The draft as a document. -/
def toDocument (d : Draft) : Document :=
  { root := ⟨.root, none, d.body⟩, declarations := d.declarations, diagnostics := d.diagnostics }

end Draft

namespace Document

/-- The document that the tokens make up. -/
def ofStream (s : TokenStream) : Document :=
  ((Draft.run {} s.tokens).finish s.last).toDocument

/-- The document that a source says. -/
def parse (source : Text) : Document :=
  ofStream (tokenize source)

end Document

end Stencil
