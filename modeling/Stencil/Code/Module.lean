import Stencil.Code.Body
import Stencil.Document.Basic
import Stencil.Template

/-!
# Generated modules

The code generated for a template: a header, the imports, the function blocks, and the render
function. For a document with problems the render function is a stub that reports each of them
when it is compiled, and nothing else of the document is used: each part of the code that takes
something from the document asks by itself whether there are problems (`ofDocument_of_errors`).
-/

set_option autoImplicit false

namespace Stencil.Code

/-- The comments at the start of the code, and an empty line. -/
def header (t : Template) (o : Options) : Text :=
  line 0 "// Code generated by blip 0.1.0. DO NOT EDIT." ++
    line 0 ("// Source: " ++ t.path) ++
    (match o.package? with
    | some package => line 0 ("// Package: " ++ package)
    | none => []) ++ ['\n']

/-- Puts an entry into its place among sorted entries, unless it is there already. -/
def insertSorted (entry : Text) : List Text → List Text
  | [] => [entry]
  | e :: es =>
    if entry < e then entry :: e :: es
    else if entry = e then e :: es
    else e :: insertSorted entry es

/-- The entries in the order of their code points, each of them once. -/
def sorted (entries : List Text) : List Text :=
  entries.foldr insertSorted []

/-- Inserting an entry adds it and keeps the entries that were there. -/
theorem mem_insertSorted {x entry : Text} {entries : List Text} :
    x ∈ insertSorted entry entries ↔ x = entry ∨ x ∈ entries := by
  induction entries with
  | nil => simp [insertSorted]
  | cons e es ih =>
    unfold insertSorted
    split
    · simp
    · split
      · next heq => simp [heq]
      · simp only [List.mem_cons, ih]
        exact or_left_comm

/-- Sorting neither loses nor invents an entry. -/
theorem mem_sorted {x : Text} {entries : List Text} : x ∈ sorted entries ↔ x ∈ entries := by
  induction entries with
  | nil => rfl
  | cons e es ih => rw [sorted, List.foldr_cons, mem_insertSorted, List.mem_cons, ← ih, sorted]

/-- The imports of the generated code, for the given paths. -/
def importEntries (o : Options) (paths : List Text) : List Text :=
  sorted <|
    ("use " ++ o.runtimePath ++ "::\x7bself as runtime, Context\x7d;") ::
      "use std::io::Write;".toList :: paths.map fun p => "use " ++ p ++ ";"

/-- The imports and an empty line. -/
def importSection (o : Options) (paths : List Text) : Text :=
  (importEntries o paths).flatMap (line 0) ++ ['\n']

/-- The paths that a document imports: none if it has problems. -/
def importPaths (d : Document) : List Text :=
  if d.hasErrors then [] else d.declarations.imports.map Import.path

/-- A function block, as it was written, and an empty line. -/
def functionBlock (block : Node) : Text :=
  line 0 ("// Function block from line: " ++ Text.ofNat block.line) ++
    handwritten block.bodyText ++ ['\n']

/-- A parameter of the render function. -/
def parameter (a : Argument) : Text :=
  a.name ++ ": " ++ a.type

/-- The parameters that a document declares: none if it has problems. -/
def parameters (d : Document) : List Text :=
  if d.hasErrors then [] else d.declarations.arguments.map parameter

/-- The first lines of the render function, with the given parameters before its own. -/
def signature (name : Text) (declared : List Text) : Text :=
  line 0 "#[allow(unused_variables, unused_mut)]" ++
    line 0 ("pub fn " ++ functionName name ++ "(" ++
      List.intercalate (", " : Text)
        (declared ++ ["ctx: &Context<'_>".toList, "out: &mut dyn Write".toList]) ++
      ") -> runtime::Result<()> \x7b")

/-- The line that makes the compilation fail with a problem. -/
def failure (path : Text) (d : Diagnostic) : Text :=
  line 1 ("compile_error!(" ++ Text.literal (path ++ ":" ++ d.display) ++ ");")

/-- What is behind the signature for a document with problems. -/
def stub (path : Text) (diagnostics : List Diagnostic) : Text :=
  diagnostics.flatMap (failure path) ++ line 1 "unreachable!()" ++ line 0 "\x7d"

/-- The line that opens the guard around all statements. -/
def guardLine (t : Template) : Text :=
  line 1
    ("runtime::guard(" ++ Text.literal t.name ++ ", " ++ Text.literal t.fileType ++ ", || \x7b")

/-- The statement that looks up the escaper, where one is used. -/
def escaperBinding (fileType : Text) (root : Node) : Text :=
  if root.usesEscaper then
    line 2 ("let escaper = runtime::escaper_for(" ++ Text.literal fileType ++ ")?;")
  else []

/-- The statements that give a context variable its value. -/
def contextVariable (v : ContextVariable) : Text :=
  match v.default? with
  | none =>
    line 2 ("let " ++ v.name ++ " = ctx.value::<" ++ v.type ++ ">(\"" ++ v.name ++ "\")?;")
  | some value =>
    line 2 ("let mut " ++ v.name ++ ": &" ++ v.type ++ " = &(" ++ value ++ ");") ++
      line 2 ("if let Some(value) = ctx.get::<" ++ v.type ++ ">(\"" ++ v.name ++ "\") \x7b") ++
      line 3 (v.name ++ " = value;") ++ line 2 "\x7d"

/-- What is behind the statements of a document. -/
def codeEnd : Text :=
  line 2 "Ok(())" ++ line 1 "\x7d)" ++ line 0 "\x7d"

/-- What is behind the signature for a document without problems. -/
def guarded (t : Template) (o : Options) (d : Document) : Text :=
  guardLine t ++ escaperBinding t.fileType d.root ++
    d.declarations.contexts.flatMap contextVariable ++
    layOutAll 2 (ofNodes o 0 d.root.children) ++ codeEnd

/-- The render function of a document. -/
def renderFunction (t : Template) (o : Options) (d : Document) : Text :=
  signature t.name (parameters d) ++
    if d.hasErrors then stub t.path d.diagnostics else guarded t o d

/-- The code generated for a document. -/
def ofDocument (t : Template) (o : Options) (d : Document) : Text :=
  header t o ++ importSection o (importPaths d) ++
    (if d.hasErrors then [] else d.declarations.functions.flatMap functionBlock) ++
    renderFunction t o d

/-- The code up to the signature of the render function, with the given declarations. -/
def front (t : Template) (o : Options) (d : Declarations) : Text :=
  header t o ++ importSection o (d.imports.map Import.path) ++ d.functions.flatMap functionBlock ++
    signature t.name (d.arguments.map parameter)

/-- A document with problems is compiled as if it declared nothing. -/
theorem ofDocument_of_errors (t : Template) (o : Options) {d : Document}
    (h : d.hasErrors = true) : ofDocument t o d = front t o {} ++ stub t.path d.diagnostics := by
  simp [ofDocument, importPaths, renderFunction, parameters, front, h]

/-- A document without problems is compiled with all its declarations. -/
theorem ofDocument_of_silent (t : Template) (o : Options) {d : Document}
    (h : d.hasErrors = false) : ofDocument t o d = front t o d.declarations ++ guarded t o d := by
  simp [ofDocument, importPaths, renderFunction, parameters, front, h]

end Stencil.Code
