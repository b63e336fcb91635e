import Stencil.Render.Action
import Stencil.Text.Quoted

/-!
# Contexts

A context binds keys to values and to content blocks. It is made of layers: a binding in an inner
layer hides those of the outer ones, whatever they hold, and a later binding hides an earlier one
of its own layer.
-/

set_option autoImplicit false

namespace Stencil.Render

variable [Types]

/-- What a key is bound to. -/
inductive Binding
  /-- A value. -/
  | value (v : Value)
  /-- A content block. -/
  | content (body : Action Unit)

/-- Layers of bindings, each layer with its earliest binding first. -/
inductive Context
  /-- The outermost layer. -/
  | root (bindings : List (Text × Binding))
  /-- A layer over another context. -/
  | layer (parent : Context) (bindings : List (Text × Binding))

namespace Context

/-- The context that binds nothing. -/
def empty : Context := .root []

/-- A layer over the context that binds nothing yet. -/
def child (c : Context) : Context := .layer c []

/-- The context that the innermost layer lies over. -/
def parent? : Context → Option Context
  | root _ => none
  | layer parent _ => some parent

/-- Binds a key in the innermost layer. -/
def bind (c : Context) (key : Text) (binding : Binding) : Context :=
  match c with
  | root bindings => .root (bindings ++ [(key, binding)])
  | layer parent bindings => .layer parent (bindings ++ [(key, binding)])

/-- Binds a key to a value. -/
def withValue (c : Context) (key : Text) (v : Value) : Context :=
  c.bind key (.value v)

/-- Binds a key to a content block. -/
def withContent (c : Context) (key : Text) (body : Action Unit) : Context :=
  c.bind key (.content body)

/-- What the key is bound to last in a layer. -/
def lastBinding? (bindings : List (Text × Binding)) (key : Text) : Option Binding :=
  bindings.reverse.lookup key

/-- What the key is bound to. -/
def lookup? (key : Text) : Context → Option Binding
  | root bindings => lastBinding? bindings key
  | layer parent bindings => (lastBinding? bindings key).or (lookup? key parent)

/-- Whether the key is bound to anything. -/
def contains (c : Context) (key : Text) : Bool :=
  (c.lookup? key).isSome

/-- The value that the key is bound to, if it is of the type. -/
def get? (c : Context) (type : ValueType) (key : Text) : Option Value :=
  match c.lookup? key with
  | some (.value v) => if v.type = type then some v else none
  | _ => none

/-- The value that the key is bound to, which has to be of the type. -/
def value (c : Context) (type : ValueType) (key : Text) : Except RenderError Value :=
  match c.get? type key with
  | some v => .ok v
  | none => .error (.missingContext key type.name)

/-- The text that the key is bound to, empty if it is bound to no text. -/
def getText (c : Context) (key : Text) : Text :=
  match c.lookup? key with
  | some (.value (.string t)) => t
  | some (.value (.str t)) => t
  | _ => []

/-- Takes the content block that the key is bound to; tells whether there is one. -/
def call (c : Context) (key : Text) : Action Bool :=
  match c.lookup? key with
  | some (.content body) => do
    body
    return true
  | _ => return false

/-- Takes the content block that the key is bound to, if there is one. -/
def yield (c : Context) (key : Text) : Action Unit := do
  let _ ← c.call key

/-- The key of the error list. -/
def errorsKey : Text := "errors"

/-- The error list. -/
def errors (c : Context) : List Text :=
  match c.lookup? errorsKey with
  | some (.value (.strings messages)) => messages
  | _ => []

/-- Adds a message to the error list. -/
def addError (c : Context) (message : Text) : Context :=
  c.withValue errorsKey (.strings (c.errors ++ [message]))

/-- Whether the error list has messages. -/
def hasErrors (c : Context) : Bool :=
  !c.errors.isEmpty

/-- The keys of a layer, as they were bound. -/
def keys (bindings : List (Text × Binding)) : List Text :=
  bindings.map Prod.fst

/-- The keys of a layer in one line. -/
def describeKeys (keys : List Text) : Text :=
  "[" ++ List.intercalate (", " : Text) (keys.map Text.quoted) ++ "]"

/-- The keys of all layers in one line. -/
def describe : Context → Text
  | root bindings => "Context \x7b keys: " ++ describeKeys (keys bindings) ++ ", parent: None \x7d"
  | layer parent bindings =>
    "Context \x7b keys: " ++ describeKeys (keys bindings) ++ ", parent: Some(" ++
      describe parent ++ ") \x7d"

/-- The start of a line at some depth of a description. -/
def margin (n : Nat) : Text :=
  List.replicate (4 * n) ' '

/-- The keys of a layer at some depth, a line for each. -/
def layOutKeys (n : Nat) (keys : List Text) : Text :=
  if keys.isEmpty then "[]"
  else
    "[\n" ++ keys.flatMap (fun key => margin (n + 1) ++ Text.quoted key ++ [',', '\n']) ++
      margin n ++ "]"

/-- A layer at some depth, with the description of what it lies over. -/
def layOutLayer (n : Nat) (keys : List Text) (parent : Text) : Text :=
  "Context \x7b\n" ++ margin (n + 1) ++ "keys: " ++ layOutKeys (n + 1) keys ++ ",\n" ++
    margin (n + 1) ++ "parent: " ++ parent ++ ",\n" ++ margin n ++ "\x7d"

/-- The keys of all layers, a line for each, at some depth. -/
def layOut (n : Nat) : Context → Text
  | root bindings => layOutLayer n (keys bindings) "None"
  | layer parent bindings =>
    layOutLayer n (keys bindings) <|
      "Some(\n" ++ margin (n + 2) ++ layOut (n + 2) parent ++ ",\n" ++ margin (n + 1) ++ ")"

end Context

end Stencil.Render
