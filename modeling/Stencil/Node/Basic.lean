import Stencil.Payload

/-!
# Nodes

The body of a template as a tree. A node knows the token that it comes from, except for the root,
and its children in the order in which they are written.
-/

set_option autoImplicit false

namespace Stencil

/-- What a node stands for. -/
inductive NodeKind
  /-- The whole body. -/
  | root
  /-- Text that is written as it is. -/
  | literal
  /-- The body of a verbatim block. -/
  | verbatimText
  /-- An expression that is displayed. -/
  | display (how : Display)
  /-- A verbatim block. -/
  | verbatim (block : Verbatim)
  /-- A call of another template. -/
  | inclusion (call : Call)
  /-- A call of another template with content blocks. -/
  | extension (call : Call)
  /-- A content block. -/
  | slot (name : Text)
  /-- The place of a content block. -/
  | yield (name : Text)
  /-- A condition; its alternative, if it has one, is its last child. -/
  | condition
  /-- The alternative of a condition. -/
  | otherwise
  /-- A loop. -/
  | loop (head : LoopHead)
  deriving DecidableEq, Repr

/-- A node of a template's tree. -/
structure Node where
  /-- What the node stands for. -/
  kind : NodeKind
  /-- The token that the node comes from. -/
  token? : Option Token
  /-- The nodes inside of the node. -/
  children : List Node
  deriving Repr

namespace Node

/-- A node without children. -/
def leaf (kind : NodeKind) (token : Token) : Node :=
  ⟨kind, some token, []⟩

/-- The text of the node's token. -/
def text (n : Node) : Text :=
  match n.token? with
  | some token => token.text
  | none => []

/-- The line of the node's token, zero if it has none. -/
def line (n : Node) : Nat :=
  match n.token? with
  | some token => token.position.line
  | none => 0

/-- The texts of the children, put together. -/
def bodyText (n : Node) : Text :=
  n.children.flatMap text

mutual

/-- The node and all nodes below it with their depths, every node before its children. -/
def preorder (depth : Nat) : Node → List (Nat × Node)
  | ⟨kind, token?, children⟩ =>
    (depth, ⟨kind, token?, children⟩) :: preorderAll (depth + 1) children

/-- The nodes and all nodes below them with their depths. -/
def preorderAll (depth : Nat) : List Node → List (Nat × Node)
  | [] => []
  | n :: ns => preorder depth n ++ preorderAll depth ns

end

end Node

end Stencil
