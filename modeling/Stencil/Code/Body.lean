import Stencil.Code.Statement
import Stencil.Node.Basic
import Stencil.Options

/-!
# Bodies of render functions

The statements that render a node. Besides the node they depend on the options, which ask for
notes of the template's lines, and on the number of extensions around the node, from which the
layers are numbered.
-/

set_option autoImplicit false

namespace Stencil.Code

/-- The statements that write a text: none if there is nothing to write. -/
def writeStatements (t : Text) : List Statement :=
  if t.isEmpty then [] else [.write t]

/-- The note in front of a node, where notes are asked for and the node has a line. -/
def noteStatements (o : Options) (line : Nat) : List Statement :=
  if o.lineNumbers && 0 < line then [.note line] else []

mutual

/-- The statements that render a node inside of `d` extensions. -/
def ofNode (o : Options) (d : Nat) : Node → List Statement
  | ⟨kind, token?, children⟩ =>
    let node : Node := ⟨kind, token?, children⟩
    noteStatements o node.line ++
      match kind with
      | .root | .slot _ | .otherwise => ofNodes o d children
      | .literal => writeStatements node.text
      | .verbatimText | .verbatim .function => []
      | .display how => [.display how node.text]
      | .verbatim .code => [.handwritten node.bodyText]
      | .verbatim .text => writeStatements node.bodyText
      | .condition =>
        let branches := ofBranches o d children
        [.condition node.text branches.1 branches.2]
      | .loop head => [.loop head (ofNodes o d children)]
      | .inclusion callee => [.call callee]
      | .extension callee => [.layer (d + 1) (ofSlots o (d + 1) children) callee]
      | .yield name => [.yield name]

/-- The statements that render several nodes. -/
def ofNodes (o : Options) (d : Nat) : List Node → List Statement
  | [] => []
  | node :: nodes => ofNode o d node ++ ofNodes o d nodes

/-- The body of a condition and its alternatives. Each `@else` among the children starts a new
alternative. -/
def ofBranches (o : Options) (d : Nat) : List Node → List Statement × List (List Statement)
  | [] => ([], [])
  | node :: nodes =>
    let branches := ofBranches o d nodes
    let body := ofNode o d node ++ branches.1
    if node.kind = .otherwise then ([], body :: branches.2) else (body, branches.2)

/-- The content blocks among the nodes; other nodes are passed over. -/
def ofSlots (o : Options) (d : Nat) : List Node → List SlotBinding
  | [] => []
  | node :: nodes => ofSlot o d node ++ ofSlots o d nodes

/-- The node as a content block, if it is one. -/
def ofSlot (o : Options) (d : Nat) : Node → List SlotBinding
  | ⟨.slot name, token?, children⟩ =>
    let node : Node := ⟨.slot name, token?, children⟩
    [.mk (if o.lineNumbers then some node.line else none) name (ofNodes o d children)]
  | _ => []

end

/-- Nodes are rendered one after another. -/
theorem ofNodes_append (o : Options) (d : Nat) (ns ms : List Node) :
    ofNodes o d (ns ++ ms) = ofNodes o d ns ++ ofNodes o d ms := by
  induction ns with
  | nil => rfl
  | cons n ns ih => simp [ofNodes, ih]

end Stencil.Code

namespace Stencil.Node

mutual

/-- Whether an escaped expression is displayed in the node. -/
def usesEscaper : Node → Bool
  | ⟨kind, _, children⟩ => decide (kind = .display .escaped) || anyUsesEscaper children

/-- Whether an escaped expression is displayed in one of the nodes. -/
def anyUsesEscaper : List Node → Bool
  | [] => false
  | node :: nodes => node.usesEscaper || anyUsesEscaper nodes

end

end Stencil.Node
