import Stencil.Code.Module
import Stencil.Document.Draft
import Stencil.Excerpt

/-!
# Compiling templates

A template is compiled by reading its source and generating the code of its render function.
This fails only if the template's name cannot name a function. Problems of the source are part
of the output, whose code is then a stub; `Output.result` turns them into an error.
-/

set_option autoImplicit false

namespace Stencil

/-- Why there is no code to use. -/
inductive CompileError
  /-- The name of the template is not made of identifiers with points between them. -/
  | invalidName (name : Text)
  /-- The source has problems: the first of them, and how many more there are. -/
  | problems (path source : Text) (first : Diagnostic) (more : Nat)
  deriving DecidableEq, Repr

namespace CompileError

/-- The error in words, without its place. -/
def message : CompileError → Text
  | invalidName name =>
    "invalid template name `" ++ name ++ "`, expected identifiers separated by `.`"
  | problems _ _ first 0 => first.message
  | problems _ _ first 1 => first.message ++ " (and 1 more error)"
  | problems _ _ first more => first.message ++ " (and " ++ Text.ofNat more ++ " more errors)"

/-- The error in words, behind its place. -/
def display : CompileError → Text
  | invalidName name => (invalidName name).message
  | problems path source first more =>
    path ++ ":" ++ first.position.display ++ ": " ++ (problems path source first more).message

end CompileError

/-- A compiled template. -/
structure Output where
  /-- The path of the template. -/
  path : Text
  /-- The source of the template. -/
  source : Text
  /-- The generated code, or the stub of a source with problems. -/
  code : Text
  /-- The problems of the source. -/
  diagnostics : List Diagnostic
  deriving DecidableEq, Repr

namespace Output

/-- Whether the source has problems. -/
def hasErrors (o : Output) : Bool :=
  !o.diagnostics.isEmpty

/-- The code, or the first problem of the source. -/
def result (o : Output) : Except CompileError Text :=
  match o.diagnostics with
  | [] => .ok o.code
  | first :: more => .error (.problems o.path o.source first more.length)

end Output

/-- Compiles a template. -/
def compile [Alphabet] (options : Options) (t : Template) : Except CompileError Output :=
  if t.hasValidName then
    let d := Document.parse t.source
    .ok
      { path := t.path, source := t.source
        code := Code.ofDocument t options d, diagnostics := d.diagnostics }
  else .error (.invalidName t.name)

end Stencil
