import Stencil.Text.Basic

/-!
# Options

How templates are compiled. The path of the support library is never empty when it is set
through `withRuntimePath?`.
-/

set_option autoImplicit false

namespace Stencil

/-- How templates are compiled. -/
structure Options where
  /-- The package that the header of the generated code names. -/
  package? : Option Text := none
  /-- The path of the support library in the generated code. -/
  runtimePath : Text := "blip::runtime"
  /-- Whether the generated code notes the lines of the template. -/
  lineNumbers : Bool := false
  deriving DecidableEq, Repr

namespace Options

/-- Sets the package. -/
def withPackage (o : Options) (package : Text) : Options :=
  { o with package? := some package }

/-- Sets the path of the support library; none if it is empty. -/
def withRuntimePath? (o : Options) (path : Text) : Option Options :=
  if path.isEmpty then none else some { o with runtimePath := path }

/-- Sets whether the generated code notes the lines of the template. -/
def withLineNumbers (o : Options) (lineNumbers : Bool) : Options :=
  { o with lineNumbers }

end Options

end Stencil
