import Stencil.Naming
import Stencil.Payload
import Stencil.Text.Quoted

/-!
# Statements

The statements of generated code and how they are laid out. Code is laid out in lines. A line is
indented by four spaces for every block around it, except for code that was written by hand, which
is kept as it is. How a statement is laid out depends only on the statement and on the number of
blocks around it, and several statements are laid out one after another.
-/

set_option autoImplicit false

namespace Stencil.Code

/-- The spaces in front of a line inside of `n` blocks. -/
def indentation (n : Nat) : Text :=
  List.replicate (4 * n) ' '

/-- A line inside of `n` blocks. -/
def line (n : Nat) (content : Text) : Text :=
  indentation n ++ content ++ ['\n']

/-- The line and its indentation, by what stands before and behind a part of its contents. -/
theorem line_between {n : Nat} {before behind before' behind' : Text}
    (hbefore : indentation n ++ before = before') (hbehind : behind ++ ['\n'] = behind')
    (content : Text) : line n (before ++ content ++ behind) = before' ++ content ++ behind' := by
  simp only [line, ← hbefore, ← hbehind, List.append_assoc]

/-- Code that was written by hand, with a line end at its end if it is not empty. -/
def handwritten (code : Text) : Text :=
  if code.isEmpty || code.getLast? = some '\n' then code else code ++ ['\n']

mutual

/-- A statement of generated code. -/
inductive Statement
  /-- The note of a line of the template. -/
  | note (line : Nat)
  /-- Writes a text. -/
  | write (text : Text)
  /-- Displays an expression. -/
  | display (how : Display) (expression : Text)
  /-- Code that was written by hand. -/
  | handwritten (code : Text)
  /-- A condition with its body and its alternatives. -/
  | condition (test : Text) (body : List Statement) (alternatives : List (List Statement))
  /-- A loop. -/
  | loop (head : LoopHead) (body : List Statement)
  /-- A call of another template on the current context. -/
  | call (callee : Call)
  /-- The place of a content block. -/
  | yield (name : Text)
  /-- A call of another template on a layer over the current context that binds content blocks.
  The number of the layer makes its name. -/
  | layer (number : Nat) (slots : List SlotBinding) (callee : Call)

/-- A content block that is bound to a layer. -/
inductive SlotBinding
  /-- The note of its line, its name and its body. -/
  | mk (note? : Option Nat) (name : Text) (body : List Statement)

end

/-- The code that calls a template on the given context. -/
def callCode (callee : Call) (context : Text) : Text :=
  functionPath callee.template ++ "(" ++
    (match callee.arguments? with
    | some arguments => arguments ++ ", "
    | none => []) ++ context ++ ", out)"

/-- The code that displays an expression. -/
def displayCode (how : Display) (expression : Text) : Text :=
  match how with
  | .escaped => "runtime::write_escaped(out, &(" ++ expression ++ "), escaper)?;"
  | .raw => "runtime::write_raw(out, &(" ++ expression ++ "))?;"
  | .bool => "runtime::write_bool(out, " ++ expression ++ ")?;"
  | .int => "runtime::write_int(out, " ++ expression ++ ")?;"
  | .int64 => "runtime::write_int64(out, " ++ expression ++ ")?;"

/-- The name of a layer. -/
def layerName (number : Nat) : Text :=
  "ctx_l" ++ Text.ofNat number

/-- The code that binds a content block to a layer and opens its body. -/
def slotCode (layer name : Text) : Text :=
  "let " ++ layer ++ " = " ++ layer ++ ".with_callback(" ++ Text.literal name ++
    ", |out: &mut dyn Write| -> runtime::Result<()> \x7b"

/-- The note of a line of the template. -/
def noteLine (n number : Nat) : Text :=
  line n ("// Line: " ++ Text.ofNat number)

mutual

/-- A statement inside of `n` blocks. -/
def Statement.layOut (n : Nat) : Statement → Text
  | .note number => noteLine n number
  | .write text => line n ("runtime::write(out, " ++ Text.literal text ++ ")?;")
  | .display how expression => line n (displayCode how expression)
  | .handwritten code => handwritten code
  | .condition test body alternatives =>
    line n ("if " ++ test ++ " \x7b") ++ layOutAll (n + 1) body ++
      layOutAlternatives n alternatives ++ line n "\x7d"
  | .loop head body =>
    line n ("for " ++ head.item ++ " in " ++ head.collection ++ " \x7b") ++
      layOutAll (n + 1) body ++ line n "\x7d"
  | .call callee => line n (callCode callee "ctx" ++ "?;")
  | .yield name =>
    line n ("runtime::call_context_callback(ctx, " ++ Text.literal name ++ ", out)?;")
  | .layer number slots callee =>
    line n "\x7b" ++ line (n + 1) ("let " ++ layerName number ++ " = ctx.child();") ++
      layOutSlots (n + 1) (layerName number) slots ++
      line (n + 1) (callCode callee ("&" ++ layerName number) ++ "?;") ++ line n "\x7d"

/-- Statements inside of `n` blocks. -/
def layOutAll (n : Nat) : List Statement → Text
  | [] => []
  | s :: ss => s.layOut n ++ layOutAll n ss

/-- The alternatives of a condition inside of `n` blocks. -/
def layOutAlternatives (n : Nat) : List (List Statement) → Text
  | [] => []
  | body :: bodies =>
    line n "\x7d else \x7b" ++ layOutAll (n + 1) body ++ layOutAlternatives n bodies

/-- A content block of a layer, inside of `n` blocks. -/
def SlotBinding.layOut (n : Nat) (layer : Text) : SlotBinding → Text
  | .mk note? name body =>
    (match note? with
    | some number => noteLine n number
    | none => []) ++ line n (slotCode layer name) ++ layOutAll (n + 1) body ++
      line (n + 1) "Ok(())" ++ line n "\x7d);"

/-- The content blocks of a layer, inside of `n` blocks. -/
def layOutSlots (n : Nat) (layer : Text) : List SlotBinding → Text
  | [] => []
  | slot :: slots => slot.layOut n layer ++ layOutSlots n layer slots

end

/-- Statements are laid out one after another. -/
theorem layOutAll_append (n : Nat) (ss ts : List Statement) :
    layOutAll n (ss ++ ts) = layOutAll n ss ++ layOutAll n ts := by
  induction ss with
  | nil => rfl
  | cons s ss ih => simp [layOutAll, ih]

/-- One statement is laid out alike alone and as the only one of a list. -/
theorem layOutAll_single (n : Nat) (s : Statement) : layOutAll n [s] = s.layOut n := by
  simp [layOutAll]

/-- The bindings of slots are laid out one after the other. -/
theorem layOutSlots_append (n : Nat) (layer : Text) (ss ts : List SlotBinding) :
    layOutSlots n layer (ss ++ ts) = layOutSlots n layer ss ++ layOutSlots n layer ts := by
  induction ss with
  | nil => rfl
  | cons s ss ih => simp [layOutSlots, ih]

end Stencil.Code
