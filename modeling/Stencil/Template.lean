import Stencil.Text.Identifier

/-!
# Templates

A template is a source with a name and a type of file. Both may be taken from the name of the
file that the template is kept in, which is the template's name, the mark `.blip` and, behind a
further point, the type of the rendered file.
-/

set_option autoImplicit false

namespace Stencil

/-- A template to be compiled. -/
structure Template where
  /-- The name, one or more identifiers with points between them. -/
  name : Text
  /-- The path that diagnostics and the generated code name. -/
  path : Text
  /-- The type of the rendered file. -/
  fileType : Text := "text"
  /-- The source. -/
  source : Text
  deriving DecidableEq, Repr

/-- The last component of a path. A path that ends in `..`, or that has no component, has none.
Empty components and `.` do not count. -/
def baseName? (path : Text) : Option Text :=
  match ((path.splitOn '/').filter fun p => !p.isEmpty && p != ['.']).getLast? with
  | some base => if base = ['.', '.'] then none else some base
  | none => none

namespace Template

/-- The mark between a template's name and its type of file. -/
def fileMark : Text := ".blip"

/-- A template that is only known by its name. -/
def named (name source : Text) : Template :=
  { name, path := name, source }

/-- The name and the type of file that the name of a file without its directories tells. -/
def splitFileName (base : Text) : Text × Text :=
  match Text.cut? fileMark base with
  | some (name, '.' :: fileType) => (name, if fileType.isEmpty then "text" else fileType)
  | some (name, _) => (name, "text")
  | none => (base.takeWhile (· != '.'), "text")

/-- A template that is kept in a file. -/
def ofFile (path source : Text) : Template :=
  match splitFileName ((baseName? path).getD []) with
  | (name, fileType) => { name, path, fileType, source }

/-- Whether the name is one or more identifiers with points between them. -/
def hasValidName [Alphabet] (t : Template) : Bool :=
  t.name.isDottedName

end Template

end Stencil
