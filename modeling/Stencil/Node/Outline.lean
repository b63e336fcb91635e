import Stencil.Node.Basic
import Stencil.Text.Quoted

/-!
# Outlines

The outline of a tree has one line for every node, indented by the node's depth. Literal text is
quoted, so that it does not run over the end of its line.
-/

set_option autoImplicit false

namespace Stencil

/-- The call as outlines show it. -/
def Call.describe (call : Call) : Text :=
  "`" ++ call.template ++ "`" ++
    match call.arguments? with
    | some arguments => " (" ++ arguments ++ ")"
    | none => []

/-- The text between the quotes of an outline. -/
private def ticked (t : Text) : Text :=
  "`" ++ t ++ "`"

namespace Node

/-- The node without its children, as outlines show it. -/
def describe (n : Node) : Text :=
  match n.kind with
  | .root => "Root"
  | .literal => "LiteralText " ++ Text.quoted n.text
  | .verbatimText => "VerbatimText " ++ Text.quoted n.text
  | .display .escaped => "DisplayEscaped " ++ ticked n.text
  | .display .raw => "DisplayRaw " ++ ticked n.text
  | .display .bool => "DisplayTyped(Bool) " ++ ticked n.text
  | .display .int => "DisplayTyped(Int) " ++ ticked n.text
  | .display .int64 => "DisplayTyped(Int64) " ++ ticked n.text
  | .verbatim .code => "CodeBlock"
  | .verbatim .text => "TextBlock"
  | .verbatim .function => "FunctionBlock"
  | .inclusion call => "Include " ++ call.describe
  | .extension call => "IncludeWithContent " ++ call.describe
  | .slot name => "ContentSlot " ++ ticked name
  | .yield name => "Yield " ++ ticked name
  | .condition => "If " ++ ticked n.text
  | .otherwise => "Else"
  | .loop head => "For " ++ ticked head.item ++ " in " ++ ticked head.collection

/-- The line of a node at some depth. -/
def outlineLine (depth : Nat) (n : Node) : Text :=
  List.replicate (2 * depth) ' ' ++ n.describe ++ ['\n']

/-- The lines of the node and all nodes below it. -/
def outline (n : Node) : Text :=
  (n.preorder 0).flatMap fun row => outlineLine row.1 row.2

end Node

end Stencil
