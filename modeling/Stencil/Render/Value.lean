import Stencil.Text.Decimal

/-!
# Values

The values that a context can hold. A value is only found by the type that it was stored with,
so two types of text are told apart although both hold a text.

A few types are known here, because something is done with their values. Besides them a program
has types of its own, of which nothing is known but how they are told apart and named.
-/

set_option autoImplicit false

namespace Stencil.Render

/-- The types that a program has of its own. -/
class Types where
  /-- What tells the types apart. -/
  Id : Type
  /-- The values of a type. -/
  Of : Id → Type
  /-- The name of a type in messages, which need not be different for different types. -/
  name : Id → Text
  /-- Types can be told apart. -/
  decEq : DecidableEq Id

instance [Types] : DecidableEq Types.Id :=
  Types.decEq

/-- A program without types of its own. -/
instance : Types where
  Id := Empty
  Of := Empty.elim
  name := Empty.elim
  decEq := inferInstance

section

variable [Types]

/-- The types of values. -/
inductive ValueType
  /-- A text of its own. -/
  | string
  /-- A text that is part of the program. -/
  | str
  /-- An integer of 32 bits. -/
  | int32
  /-- An integer of 64 bits. -/
  | int64
  /-- A truth value. -/
  | bool
  /-- A list of texts. -/
  | strings
  /-- A type of the program. -/
  | own (id : Types.Id)
  deriving DecidableEq

/-- A value in a context. -/
inductive Value
  /-- A text of its own. -/
  | string (text : Text)
  /-- A text that is part of the program. -/
  | str (text : Text)
  /-- An integer of 32 bits. -/
  | int32 (n : Int32)
  /-- An integer of 64 bits. -/
  | int64 (n : Int64)
  /-- A truth value. -/
  | bool (b : Bool)
  /-- A list of texts. -/
  | strings (texts : List Text)
  /-- A value of a type of the program. -/
  | own (id : Types.Id) (v : Types.Of id)

/-- The type of a value. -/
def Value.type : Value → ValueType
  | string _ => .string
  | str _ => .str
  | int32 _ => .int32
  | int64 _ => .int64
  | bool _ => .bool
  | strings _ => .strings
  | own id _ => .own id

/-- The name of the type in messages. -/
def ValueType.name : ValueType → Text
  | string => "alloc::string::String"
  | str => "&str"
  | int32 => "i32"
  | int64 => "i64"
  | bool => "bool"
  | strings => "alloc::vec::Vec<alloc::string::String>"
  | own id => Types.name id

end

/-- A truth value as it is displayed. -/
def displayBool (b : Bool) : Text :=
  if b then "true" else "false"

end Stencil.Render
