import Stencil.Render.Context

/-!
# Scripts

A script is the body of a render function: the steps that generated code takes, one after
another, on a context. The first step that does not end well ends the script.

A script runs by recursion on itself. A content block is bound as the action that it stands for,
so that a yield takes an action and never has to look at a script again.
-/

set_option autoImplicit false

namespace Stencil.Render

mutual

/-- A step of a script. -/
inductive Instruction
  /-- Writes a text. -/
  | write (text : Text)
  /-- Writes a displayed value, escaped for a type of file. -/
  | escaped (fileType shown : Text)
  /-- Writes a displayed value as it is. -/
  | raw (shown : Text)
  /-- Writes a truth value. -/
  | bool (b : Bool)
  /-- Writes an integer. -/
  | int (n : Int64)
  /-- Writes the text that a key is bound to, escaped for HTML. -/
  | value (key : Text)
  /-- Takes the content block that a key is bound to. -/
  | yield (key : Text)
  /-- Runs the body of another template. -/
  | guarded (template : Text) (body : List Instruction)
  /-- Runs a body on a layer that binds content blocks. -/
  | extend (slots : List Slot) (body : List Instruction)
  /-- Fails for want of an escaper. -/
  | fail (fileType : Text)
  /-- Panics. -/
  | panic (message? : Option Text)

/-- A content block of a script. -/
inductive Slot
  /-- The key and the body of the block. -/
  | mk (key : Text) (body : List Instruction)

end

/-- The steps of a render function. -/
abbrev Script := List Instruction

variable [Types]

/-- Writes the text that a key is bound to, escaped for HTML. -/
def writeBound (c : Context) (key : Text) : Action Unit := do
  match ← Action.ofExcept (c.value .string key) with
  | .string t => Action.writeEscaped .html t
  | _ => return

mutual

/-- Takes a step. -/
def Instruction.run (c : Context) : Instruction → Action Unit
  | .write t => Action.write t
  | .escaped fileType shown => do
    let escaper ← Action.escaperFor fileType
    Action.writeEscaped escaper shown
  | .raw shown => Action.write shown
  | .bool b => Action.write (displayBool b)
  | .int n => Action.writeAll (Text.intPieces n.toInt)
  | .value key => writeBound c key
  | .yield key => c.yield key
  | .guarded template body => Action.guarded template (runScript c body)
  | .extend slots body => runScript (bindSlots c c.child slots) body
  | .fail fileType => Action.fail (.unknownEscaper fileType)
  | .panic message? => Action.panic message?

/-- Takes the steps of a script. -/
def runScript (c : Context) : List Instruction → Action Unit
  | [] => return
  | instruction :: script => do
    instruction.run c
    runScript c script

/-- Binds content blocks in a layer. Their bodies run on the context `c`. -/
def bindSlots (c layer : Context) : List Slot → Context
  | [] => layer
  | slot :: slots => bindSlots c (slot.bindTo c layer) slots

/-- Binds a content block in a layer. Its body runs on the context `c`. -/
def Slot.bindTo (c layer : Context) : Slot → Context
  | .mk key body => layer.withContent key (runScript c body)

end

end Stencil.Render
