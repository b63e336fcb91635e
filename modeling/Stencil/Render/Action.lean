import Stencil.Render.Escaper

/-!
# Actions

An action is a step of rendering: it may look up escapers, writes to the sink, and ends with a
result, an error or a panic. Of two actions in a row the second is only taken if the first ends
with a result.
-/

set_option autoImplicit false

namespace Stencil.Render

/-- A step of rendering. -/
def Action (α : Type) : Type :=
  Registry → Sink → Outcome α × Sink

namespace Action

/-- Ends with a result. -/
def done {α : Type} (a : α) : Action α :=
  fun _ s => (.done a, s)

/-- Ends with an error. -/
def fail {α : Type} (error : RenderError) : Action α :=
  fun _ s => (.failed error, s)

/-- Ends with a panic. -/
def panic {α : Type} (message? : Option Text) : Action α :=
  fun _ s => (.panicked message?, s)

/-- Takes an action and then the one that its result leads to. -/
def andThen {α β : Type} (a : Action α) (next : α → Action β) : Action β :=
  fun r s =>
    match a r s with
    | (.done result, s) => next result r s
    | (.failed error, s) => (.failed error, s)
    | (.panicked message?, s) => (.panicked message?, s)

instance : Monad Action where
  pure := done
  bind := andThen

/-- Ends with the result or the error that is given. -/
def ofExcept {α : Type} : Except RenderError α → Action α
  | .ok a => done a
  | .error error => fail error

/-- Writes a text. -/
def write (t : Text) : Action Unit :=
  fun _ s => s.write t

/-- Writes texts, one after another. -/
def writeAll : List Text → Action Unit
  | [] => done ()
  | t :: ts => andThen (write t) fun _ => writeAll ts

/-- The escaper of a type of file. -/
def escaperFor (fileType : Text) : Action Escaper :=
  fun r => ofExcept (r.escaperFor fileType) r

/-- Writes a displayed value by means of an escaper. -/
def writeEscaped (escaper : Escaper) (t : Text) : Action Unit :=
  writeAll (escaper t).toList

/-- Takes an action and turns a panic into an error that names the template. -/
def guarded (template : Text) (body : Action Unit) : Action Unit :=
  fun r s =>
    match body r s with
    | (.panicked message?, s) =>
      (.failed (.recovered template (message?.getD "unknown panic")), s)
    | ended => ended

end Action

end Stencil.Render
