import Stencil.Diagnostic
import Stencil.Text.Blank
import Stencil.Text.Identifier

/-!
# Payloads

What the line directives say. Each `read` takes the payload of a directive and gives what it
declares or calls, or the problem with it.

The types, defaults, arguments and paths in a payload are not looked into: they are copied into
the generated code. Only the `=` before a default has to be told from an `=` inside of a type,
which `cutDefault?` does by counting angle brackets.
-/

set_option autoImplicit false

namespace Stencil

/-- A parameter of the render function. -/
structure Argument where
  /-- The name of the parameter. -/
  name : Text
  /-- The type of the parameter. -/
  type : Text
  /-- The line of the declaration. -/
  line : Nat
  deriving DecidableEq, Repr

/-- A variable whose value is taken from the context. -/
structure ContextVariable where
  /-- The name of the variable, which is also its key in the context. -/
  name : Text
  /-- The type of the variable. -/
  type : Text
  /-- The value where the context has none. -/
  default? : Option Text
  /-- The line of the declaration. -/
  line : Nat
  deriving DecidableEq, Repr

/-- A path that the generated code imports. -/
structure Import where
  /-- The path. -/
  path : Text
  /-- The line of the declaration. -/
  line : Nat
  deriving DecidableEq, Repr

/-- A call of another template. -/
structure Call where
  /-- The name of the template. -/
  template : Text
  /-- The arguments, as they are handed on. -/
  arguments? : Option Text
  deriving DecidableEq, Repr

/-- The head of a loop. -/
structure LoopHead where
  /-- The name of the current item. -/
  item : Text
  /-- The collection that the loop runs over. -/
  collection : Text
  deriving DecidableEq, Repr

variable [Alphabet]

/-- The name and the rest of a declaration; `incomplete` is the problem if one is missing. -/
def readDeclaration (directive : LineDirective) (incomplete : Problem) (payload : Text) :
    Except Problem (Text × Text) :=
  match payload.splitWord? with
  | none => .error incomplete
  | some (name, rest) =>
    if name.isIdentifier then .ok (name, rest) else .error (.invalidName name directive)

/-- Reads `name type`. -/
def Argument.read (line : Nat) (payload : Text) : Except Problem Argument :=
  match readDeclaration .argument .incompleteArgument payload with
  | .error problem => .error problem
  | .ok (name, type) => .ok { name, type, line }

/-- How many angle brackets are open behind a character. The `>` of an arrow closes none. -/
def angleDepth (depth : Nat) (previous c : Char) : Nat :=
  if c = '<' then depth + 1
  else if c = '>' ∧ previous ≠ '-' then depth - 1
  else depth

/-- The pieces around the first `=` outside of angle brackets, of which `depth` are open. -/
def cutDefault? (depth : Nat) (previous : Char) : Text → Option (Text × Text)
  | [] => none
  | c :: t =>
    if c = '=' ∧ depth = 0 then some ([], t)
    else
      match cutDefault? (angleDepth depth previous c) c t with
      | some (before, after) => some (c :: before, after)
      | none => none

/-- The type and the default, if there is one. -/
def splitDefault (t : Text) : Text × Option Text :=
  match cutDefault? 0 ' ' t with
  | some (type, value) => (type.trim, some value.trim)
  | none => (t.trim, none)

/-- Reads `name type` or `name type = default`. -/
def ContextVariable.read (line : Nat) (payload : Text) : Except Problem ContextVariable :=
  match readDeclaration .context .incompleteContext payload with
  | .error problem => .error problem
  | .ok (name, rest) =>
    match splitDefault rest with
    | (type, default?) =>
      if type.isEmpty then .error .missingType
      else if default? = some [] then .error .missingDefault
      else .ok { name, type, default?, line }

/-- The path of an import that may be written with `use` before it and `;` behind it. -/
def importPath (payload : Text) : Text :=
  let whole := payload.trim
  let path := Text.trim (if whole.startsWith "use " then whole.drop 4 else whole)
  Text.trim (if path.getLast? = some ';' then path.dropLast else path)

/-- Reads the path of an import. -/
def Import.read (line : Nat) (payload : Text) : Except Problem Import :=
  let path := importPath payload
  if path.isEmpty then .error .missingPath else .ok { path, line }

/-- Reads `name` or `name arguments`. -/
def Call.read (directive : LineDirective) (payload : Text) : Except Problem Call :=
  let call : Call :=
    match payload.splitWord? with
    | some (template, arguments) => ⟨template, some arguments⟩
    | none => ⟨payload, none⟩
  if call.template.isEmpty then .error (.missingTemplate directive)
  else if call.template.isDottedName then .ok call
  else .error (.invalidTemplate call.template)

/-- Reads `item in collection`. -/
def LoopHead.read (payload : Text) : Except Problem LoopHead :=
  match payload.words with
  | [item, separator, collection] =>
    if separator = "in" then .ok { item, collection } else .error (.loopSeparator separator)
  | words => .error (.loopParts words.length)

/-- Reads the name of a content block. -/
def readContentName (directive : LineDirective) (payload : Text) : Except Problem Text :=
  if payload.isEmpty then .error (.missingContentName directive)
  else if payload.isIdentifier then .ok payload
  else .error (.invalidContentName payload)

end Stencil
