import Stencil.Diagnostic
import Stencil.Options

/-!
# Data for interchange

Options, tokens and diagnostics can be written down as plain data and read again. A record is
read by the names of its fields: the order does not matter, further fields are passed over, and
a field that is missing or of the wrong sort makes the whole record unreadable. Only options
may leave fields out, which then have their defaults.
-/

set_option autoImplicit false

namespace Stencil

/-- Plain data. -/
inductive Datum
  /-- Nothing. -/
  | null
  /-- A truth value. -/
  | bool (b : Bool)
  /-- An integer. -/
  | integer (n : Int)
  /-- A number that is not an integer. -/
  | fraction
  /-- A text. -/
  | text (t : Text)
  /-- A list. -/
  | list (items : List Datum)
  /-- Fields with names. -/
  | record (fields : List (Text × Datum))

namespace Datum

/-- The field of a record; none if there is no such field, or no record. -/
def field? (d : Datum) (name : Text) : Option Datum :=
  match d with
  | record fields => fields.lookup name
  | _ => none

/-- Whether the datum is a record. -/
def isRecord : Datum → Bool
  | record _ => true
  | _ => false

/-- A count, which has to fit into 64 bits. -/
def count? : Datum → Option Nat
  | integer (.ofNat n) => if n < 0x10000000000000000 then some n else none
  | _ => none

/-- A text. -/
def text? : Datum → Option Text
  | text t => some t
  | _ => none

/-- A truth value. -/
def bool? : Datum → Option Bool
  | bool b => some b
  | _ => none

/-- A text or nothing. -/
def optionalText? : Datum → Option (Option Text)
  | null => some none
  | text t => some (some t)
  | _ => none

/-- A field that has to be there, read by `read?`. -/
def required? {α : Type} (d : Datum) (name : Text) (read? : Datum → Option α) : Option α :=
  (d.field? name).bind read?

/-- A field that may be left out, read by `read?` where it is there. -/
def optional? {α : Type} (d : Datum) (name : Text) (missing : α) (read? : Datum → Option α) :
    Option α :=
  match d.field? name with
  | none => some missing
  | some field => read? field

/-- A count as a datum. -/
def ofCount (n : Nat) : Datum := .integer n

end Datum

namespace TokenKind

/-- All sorts of tokens. -/
def all : List TokenKind :=
  [.literal, .endOfInput, .illegal, .otherwise, .close] ++ Display.all.map .display ++
    LineDirective.all.map .line ++ Verbatim.all.map .verbatim

/-- The name of the sort. -/
def name : TokenKind → Text
  | literal => "Literal"
  | endOfInput => "Eof"
  | illegal => "Illegal"
  | display .escaped => "Display"
  | display .raw => "DisplayRaw"
  | display .bool => "DisplayBool"
  | display .int => "DisplayInt"
  | display .int64 => "DisplayInt64"
  | line .argument => "Arg"
  | line .context => "Context"
  | line .importing => "Import"
  | line .inclusion => "Include"
  | line .extension => "Extend"
  | line .content => "Content"
  | line .yield => "Yield"
  | line .condition => "If"
  | line .loop => "For"
  | verbatim .code => "Code"
  | verbatim .text => "Text"
  | verbatim .function => "Func"
  | otherwise => "Else"
  | close => "End"

/-- The sort of a name. -/
def ofName? (t : Text) : Option TokenKind :=
  all.find? (·.name = t)

/-- The sort as a datum. -/
def toDatum (kind : TokenKind) : Datum := .text kind.name

/-- Reads a sort of token. -/
def ofDatum? (d : Datum) : Option TokenKind :=
  d.text?.bind ofName?

end TokenKind

namespace Position

/-- The position as a record. -/
def toDatum (p : Position) : Datum :=
  .record [("line", .ofCount p.line), ("column", .ofCount p.column)]

/-- Reads a position. -/
def ofDatum? (d : Datum) : Option Position := do
  let line ← d.required? "line" Datum.count?
  let column ← d.required? "column" Datum.count?
  return ⟨line, column⟩

end Position

namespace Span

/-- The span as a record. -/
def toDatum (s : Span) : Datum :=
  .record [("m", .ofCount s.start), ("n", .ofCount s.stop)]

/-- Reads a span. -/
def ofDatum? (d : Datum) : Option Span := do
  let start ← d.required? "m" Datum.count?
  let stop ← d.required? "n" Datum.count?
  return ⟨start, stop⟩

end Span

namespace Token

/-- The token as a record. -/
def toDatum (t : Token) : Datum :=
  .record
    [("kind", t.kind.toDatum), ("text", .text t.text), ("line", .ofCount t.position.line),
      ("column", .ofCount t.position.column), ("span", t.span.toDatum)]

/-- Reads a token. -/
def ofDatum? (d : Datum) : Option Token := do
  let kind ← d.required? "kind" TokenKind.ofDatum?
  let text ← d.required? "text" Datum.text?
  let position ← Position.ofDatum? d
  let span ← d.required? "span" Span.ofDatum?
  return { kind, text, position, span }

end Token

namespace Diagnostic

/-- The diagnostic as a record. -/
def toDatum (d : Diagnostic) : Datum :=
  .record
    [("line", .ofCount d.position.line), ("column", .ofCount d.position.column),
      ("message", .text d.message), ("span", d.span.toDatum)]

/-- Reads a diagnostic. Its problem is only known by its message. -/
def ofDatum? (d : Datum) : Option Diagnostic := do
  let position ← Position.ofDatum? d
  let message ← d.required? "message" Datum.text?
  let span ← d.required? "span" Span.ofDatum?
  return { position, span, problem := .remark message }

end Diagnostic

namespace Options

/-- The options as a record. -/
def toDatum (o : Options) : Datum :=
  .record
    [("package", match o.package? with | some package => .text package | none => .null),
      ("runtime-path", .text o.runtimePath), ("line-numbers", .bool o.lineNumbers)]

/-- Reads options. -/
def ofDatum? (d : Datum) : Option Options := do
  let defaults : Options := {}
  guard d.isRecord
  let package? ← d.optional? "package" defaults.package? Datum.optionalText?
  let runtimePath ← d.optional? "runtime-path" defaults.runtimePath Datum.text?
  let lineNumbers ← d.optional? "line-numbers" defaults.lineNumbers Datum.bool?
  return { package?, runtimePath, lineNumbers }

end Options

end Stencil
