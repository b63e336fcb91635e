import Stencil.Render.Value

/-!
# Sinks

A sink takes the bytes that are rendered. It may have a limit, and then keeps the bytes that fit
and fails on any further byte. Writing nothing never fails.
-/

set_option autoImplicit false

namespace Stencil.Render

/-- How a full sink fails. -/
inductive SinkFailure
  /-- It refuses further bytes. -/
  | brokenPipe
  /-- It takes no further bytes. -/
  | wroteNothing
  deriving DecidableEq, Repr

/-- The failure in words. -/
def SinkFailure.message : SinkFailure → Text
  | brokenPipe => "broken pipe"
  | wroteNothing => "failed to write whole buffer"

/-- Why rendering failed. -/
inductive RenderError
  /-- The sink failed. -/
  | output (cause : SinkFailure)
  /-- The context has no value of the type with this name for the key. -/
  | missingContext (key expected : Text)
  /-- There is no escaper for the type of file. -/
  | unknownEscaper (fileType : Text)
  /-- The rendering of a template panicked. -/
  | recovered (template message : Text)
  deriving DecidableEq, Repr

/-- The error in words. -/
def RenderError.message : RenderError → Text
  | output cause => "failed to write output: " ++ cause.message
  | missingContext key expected =>
    "context value `" ++ key ++ "` is missing or is not a `" ++ expected ++ "`"
  | unknownEscaper fileType => "no escaper for file type `" ++ fileType ++ "`"
  | recovered template message =>
    "recovered from panic while rendering `" ++ template ++ "`: " ++ message

/-- How a step of rendering ends. -/
inductive Outcome (α : Type)
  /-- With a result. -/
  | done (result : α)
  /-- With an error. -/
  | failed (error : RenderError)
  /-- With a panic, and its message if it has one. -/
  | panicked (message? : Option Text)
  deriving DecidableEq, Repr

/-- What takes the rendered bytes. -/
structure Sink where
  /-- How many bytes it takes; without a limit, all. -/
  limit? : Option Nat := none
  /-- How it fails when it is full. -/
  whenFull : SinkFailure := .brokenPipe
  /-- The bytes that it has taken. -/
  taken : List UInt8 := []
  deriving DecidableEq, Repr

namespace Sink

/-- How many of the given number of bytes the sink still takes. -/
def room (s : Sink) (wanted : Nat) : Nat :=
  match s.limit? with
  | none => wanted
  | some limit => min wanted (limit - s.taken.length)

/-- Writes a text. The bytes that fit are kept even if not all of them do. -/
def write (s : Sink) (t : Text) : Outcome Unit × Sink :=
  let bytes := t.bytes
  let fitting := s.room bytes.length
  (if fitting = bytes.length then .done () else .failed (.output s.whenFull),
    { s with taken := s.taken ++ bytes.take fitting })

end Sink

end Stencil.Render
