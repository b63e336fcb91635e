import Stencil.Node.Basic

/-!
# Documents

A document is what a source says: the tree of its body, the declarations made at its root, and
the problems found in it. A document with problems still has a tree, in which the parts that
could not be read are missing.
-/

set_option autoImplicit false

namespace Stencil

/-- What a template declares, each list in the order of the source. -/
structure Declarations where
  /-- The parameters of the render function. -/
  arguments : List Argument := []
  /-- The variables taken from the context. -/
  contexts : List ContextVariable := []
  /-- The imports of the generated code. -/
  imports : List Import := []
  /-- The function blocks. -/
  functions : List Node := []
  deriving Repr

/-- A template that has been read. -/
structure Document where
  /-- The body. -/
  root : Node
  /-- The declarations. -/
  declarations : Declarations := {}
  /-- The problems, in the order in which they were found. -/
  diagnostics : List Diagnostic := []
  deriving Repr

/-- Whether problems were found. -/
def Document.hasErrors (d : Document) : Bool :=
  !d.diagnostics.isEmpty

end Stencil
