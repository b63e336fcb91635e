import Stencil.Code.Module
import Stencil.Proofs.Code.Writer

/-!
# Generating code in one walk

The code of a document can be generated in one walk over its tree, by a writer that is handed from
node to node. The walk opens and closes blocks as it meets nodes: an `@else` closes the block of
its condition and opens it again, and an extension counts its depth while its content blocks are
visited.

Each part of the walk prints the layout of the statements for its part of the tree
(`prints_visit` and the lemmas beside it, in the sense of `Prints`). So nothing of the writer's
state shows in the code but the numbers of blocks and of extensions around a node, and the walk
over a document ends as it began, with the code of the document written.
-/

set_option autoImplicit false

namespace Stencil.Code

/-! ## The walk -/

namespace Writer

/-- Writes the note of a line. -/
def note (w : Writer) (number : Nat) : Writer :=
  w.writeLine ("// Line: " ++ Text.ofNat number)

/-- Writes the statement that writes a text, if there is something to write. -/
def writeText (w : Writer) (t : Text) : Writer :=
  if t.isEmpty then w else w.writeLine ("runtime::write(out, " ++ Text.literal t ++ ")?;")

mutual

/-- Visits a node. -/
def visit (o : Options) : Node → Writer → Writer
  | ⟨kind, token?, children⟩ => fun w =>
    let node : Node := ⟨kind, token?, children⟩
    let w := if o.lineNumbers && 0 < node.line then w.note node.line else w
    match kind with
    | .root | .slot _ | .otherwise => visitAll o children w
    | .literal => w.writeText node.text
    | .verbatimText | .verbatim .function => w
    | .display how => w.writeLine (displayCode how node.text)
    | .verbatim .code => w.writeRaw node.bodyText
    | .verbatim .text => w.writeText node.bodyText
    | .condition =>
      (visitBranches o children (w.openBlock ("if " ++ node.text ++ " \x7b"))).closeBlock "\x7d"
    | .loop head =>
      let w := w.openBlock ("for " ++ head.item ++ " in " ++ head.collection ++ " \x7b")
      (visitAll o children w).closeBlock "\x7d"
    | .inclusion callee => w.writeLine (callCode callee "ctx" ++ "?;")
    | .extension callee => w.inExtension fun number w =>
      let w := w.openBlock "\x7b"
      let w := w.writeLine ("let " ++ layerName number ++ " = ctx.child();")
      let w := visitSlots o (layerName number) children w
      let w := w.writeLine (callCode callee ("&" ++ layerName number) ++ "?;")
      w.closeBlock "\x7d"
    | .yield name =>
      w.writeLine ("runtime::call_context_callback(ctx, " ++ Text.literal name ++ ", out)?;")

/-- Visits nodes, one after another. -/
def visitAll (o : Options) : List Node → Writer → Writer
  | [] => fun w => w
  | node :: nodes => fun w => visitAll o nodes (visit o node w)

/-- Visits the children of a condition, inside of its block. -/
def visitBranches (o : Options) : List Node → Writer → Writer
  | [] => fun w => w
  | node :: nodes => fun w =>
    let w := if node.kind = .otherwise then w.dedent.openBlock "\x7d else \x7b" else w
    visitBranches o nodes (visit o node w)

/-- Visits the content blocks among the children of an extension, inside of its block. -/
def visitSlots (o : Options) (layer : Text) : List Node → Writer → Writer
  | [] => fun w => w
  | node :: nodes => fun w => visitSlots o layer nodes (visitSlot o layer node w)

/-- Visits a child of an extension. -/
def visitSlot (o : Options) (layer : Text) : Node → Writer → Writer
  | ⟨.slot name, token?, children⟩ => fun w =>
    let node : Node := ⟨.slot name, token?, children⟩
    let w := if o.lineNumbers then w.note node.line else w
    let w := visitAll o children (w.openBlock (slotCode layer name))
    (w.writeLine "Ok(())").closeBlock "\x7d);"
  | _ => fun w => w

end

/-- Writes the comments at the start of the code. -/
def writeHeader (w : Writer) (t : Template) (o : Options) : Writer :=
  let w := w.writeLine "// Code generated by blip 0.1.0. DO NOT EDIT."
  let w := w.writeLine ("// Source: " ++ t.path)
  let w :=
    match o.package? with
    | some package => w.writeLine ("// Package: " ++ package)
    | none => w
  w.newline

/-- Writes the imports. -/
def writeImports (w : Writer) (o : Options) (paths : List Text) : Writer :=
  ((importEntries o paths).foldl writeLine w).newline

/-- Writes a function block. -/
def writeFunction (w : Writer) (block : Node) : Writer :=
  let w := w.writeLine ("// Function block from line: " ++ Text.ofNat block.line)
  (w.writeRaw block.bodyText).newline

/-- Writes the statements that give a context variable its value. -/
def writeContextVariable (w : Writer) (v : ContextVariable) : Writer :=
  match v.default? with
  | none =>
    w.writeLine ("let " ++ v.name ++ " = ctx.value::<" ++ v.type ++ ">(\"" ++ v.name ++ "\")?;")
  | some value =>
    let w := w.writeLine ("let mut " ++ v.name ++ ": &" ++ v.type ++ " = &(" ++ value ++ ");")
    let w := w.openBlock
      ("if let Some(value) = ctx.get::<" ++ v.type ++ ">(\"" ++ v.name ++ "\") \x7b")
    (w.writeLine (v.name ++ " = value;")).closeBlock "\x7d"

/-- Writes the first lines of the render function and enters it. -/
def openFunction (w : Writer) (name : Text) (declared : List Text) : Writer :=
  let w := w.writeLine "#[allow(unused_variables, unused_mut)]"
  w.openBlock ("pub fn " ++ functionName name ++ "(" ++
    List.intercalate (", " : Text)
      (declared ++ ["ctx: &Context<'_>".toList, "out: &mut dyn Write".toList]) ++
    ") -> runtime::Result<()> \x7b")

/-- Writes the body of the stub of a document with problems. -/
def writeFailures (w : Writer) (path : Text) (diagnostics : List Diagnostic) : Writer :=
  let w := diagnostics.foldl (fun w d =>
    w.writeLine ("compile_error!(" ++ Text.literal (path ++ ":" ++ d.display) ++ ");")) w
  w.writeLine "unreachable!()"

/-- Writes the guard of a document without problems, with all statements in it. -/
def writeGuard (w : Writer) (t : Template) (o : Options) (d : Document) : Writer :=
  let w := w.openBlock ("runtime::guard(" ++ Text.literal t.name ++ ", " ++
    Text.literal t.fileType ++ ", || \x7b")
  let w :=
    if d.root.usesEscaper then
      w.writeLine ("let escaper = runtime::escaper_for(" ++ Text.literal t.fileType ++ ")?;")
    else w
  let w := d.declarations.contexts.foldl writeContextVariable w
  let w := visitAll o d.root.children w
  (w.writeLine "Ok(())").closeBlock "\x7d)"

/-- Writes the render function of a document. -/
def writeRenderFunction (w : Writer) (t : Template) (o : Options) (d : Document) : Writer :=
  let w := w.openFunction t.name (parameters d)
  if d.hasErrors then (w.writeFailures t.path d.diagnostics).closeBlock "\x7d"
  else (w.writeGuard t o d).closeBlock "\x7d"

/-- The writer behind the whole walk over a document. -/
def walk (t : Template) (o : Options) (d : Document) : Writer :=
  let w := writeHeader {} t o
  let w := w.writeImports o (importPaths d)
  let w := if d.hasErrors then w else d.declarations.functions.foldl writeFunction w
  w.writeRenderFunction t o d

end Writer

/-! ## What the walk prints -/

open Writer

variable {n d : Nat}

/-- The note of a line prints as a line. -/
theorem prints_note (number : Nat) : Prints n d (·.note number) (noteLine n number) :=
  Prints.writeLine (by simp)

/-- The result of a function prints as a line. -/
theorem prints_result : Prints n d (·.writeLine "Ok(())") (line n "Ok(())") :=
  Prints.writeLine (by decide)

/-- No operation prints no statements. -/
theorem prints_none : Prints n d (fun w => w) (layOutAll n []) :=
  Prints.nothing

/-- What prints a statement prints the list of it alone. -/
theorem prints_single {f : Writer → Writer} (s : Statement) (h : Prints n d f (s.layOut n)) :
    Prints n d f (layOutAll n [s]) :=
  h.of_eq (layOutAll_single n s).symm

/-- A node is noted, where this is asked for, before its statements. -/
theorem prints_noted {f : Writer → Writer} {ss : List Statement} (o : Options) (number : Nat)
    (h : Prints n d f (layOutAll n ss)) :
    Prints n d (fun w => f (if o.lineNumbers && 0 < number then w.note number else w))
      (layOutAll n (noteStatements o number ++ ss)) := by
  refine (((prints_note number).onlyIf _).andThen h).of_eq ?_
  rw [layOutAll_append, noteStatements]
  split
  · rw [layOutAll_single, Statement.layOut]
  · rfl

/-- Writing a text prints its statement, or nothing for the empty text. -/
theorem prints_writeText (t : Text) :
    Prints n d (·.writeText t) (layOutAll n (writeStatements t)) := by
  unfold Writer.writeText writeStatements
  cases t.isEmpty with
  | true => exact prints_none
  | false => exact prints_single (.write t) (Prints.writeCode _ (by decide))

/-- A display prints as a line, since its code is not empty. -/
theorem prints_displayCode (how : Display) (expression : Text) :
    Prints n d (·.writeLine (displayCode how expression))
      (line n (displayCode how expression)) := by
  cases how <;> exact Prints.writeCode _ (by decide)

/-- The body of a condition and its alternatives inside of `n` blocks. -/
def layOutBranches (n : Nat) (branches : List Statement × List (List Statement)) : Text :=
  layOutAll (n + 1) branches.1 ++ layOutAlternatives n branches.2

/-- An `@else` stands for the line that closes one block of a condition and opens the next one, and
all children of the condition are laid out one after another. -/
theorem layOutBranches_cons (o : Options) (n d : Nat) (node : Node) (nodes : List Node) :
    layOutBranches n (ofBranches o d (node :: nodes)) =
      (if node.kind = .otherwise then line n "\x7d else \x7b" else []) ++
        (layOutAll (n + 1) (ofNode o d node) ++ layOutBranches n (ofBranches o d nodes)) := by
  rw [ofBranches, layOutBranches, layOutBranches]
  split
  · simp [layOutAll, layOutAll_append, layOutAlternatives]
  · simp [layOutAll_append]

mutual

/-- Visiting a node prints its statements. -/
theorem prints_visit (o : Options) (n d : Nat) (node : Node) :
    Prints n d (visit o node) (layOutAll n (ofNode o d node)) := by
  match node with
  | ⟨kind, token?, children⟩ =>
    cases kind with
    | root | slot name | otherwise =>
      rw [visit, ofNode]
      exact prints_noted o _ (prints_visitAll o n d children)
    | literal =>
      rw [visit, ofNode]
      exact prints_noted o _ (prints_writeText _)
    | verbatimText =>
      rw [visit, ofNode]
      exact prints_noted o _ prints_none
    | display how =>
      rw [visit, ofNode]
      exact prints_noted o _ (prints_single (.display how _) (prints_displayCode how _))
    | verbatim block =>
      cases block with
      | function =>
        rw [visit, ofNode]
        exact prints_noted o _ prints_none
      | text =>
        rw [visit, ofNode]
        exact prints_noted o _ (prints_writeText _)
      | code =>
        rw [visit, ofNode]
        exact prints_noted o _ (prints_single (.handwritten _) (Prints.writeRaw _))
    | condition =>
      have hblock := (prints_visitBranches o n d children).block
        ("if " ++ Node.text ⟨.condition, token?, children⟩ ++ " \x7b") "\x7d"
        (append_ne_nil _ (by decide)) (by decide)
      rw [visit, ofNode]
      refine prints_noted o _ (prints_single _ (hblock.of_eq ?_))
      simp only [layOutBranches, Statement.layOut, List.append_assoc]
    | loop head =>
      have hblock := (prints_visitAll o (n + 1) d children).block
        ("for " ++ head.item ++ " in " ++ head.collection ++ " \x7b") "\x7d"
        (append_ne_nil _ (by decide)) (by decide)
      rw [visit, ofNode]
      exact prints_noted o _ (prints_single (.loop head _) hblock)
    | inclusion callee =>
      rw [visit, ofNode]
      exact prints_noted o _ (prints_single (.call callee) (Prints.writeCode _ (by decide)))
    | extension callee =>
      have hchild := @Prints.writeCode (n + 1) (d + 1) ("let " ++ layerName (d + 1))
        " = ctx.child();" (by decide)
      have hslots := prints_visitSlots o (n + 1) (d + 1) (layerName (d + 1)) children
      have hcall := @Prints.writeCode (n + 1) (d + 1)
        (callCode callee ("&" ++ layerName (d + 1))) "?;" (by decide)
      have hblock := ((hchild.andThen hslots).andThen hcall).block "\x7b" "\x7d" (by decide)
        (by decide)
      rw [visit, ofNode]
      refine prints_noted o _ (prints_single _ (Prints.inExtension (hblock.of_eq ?_)))
      simp only [Statement.layOut, List.append_assoc]
    | yield name =>
      rw [visit, ofNode]
      exact prints_noted o _ (prints_single (.yield name) (Prints.writeCode _ (by decide)))

/-- Visiting several nodes prints their statements. -/
theorem prints_visitAll (o : Options) (n d : Nat) (nodes : List Node) :
    Prints n d (visitAll o nodes) (layOutAll n (ofNodes o d nodes)) := by
  match nodes with
  | [] =>
    rw [visitAll]
    exact Prints.nothing
  | node :: nodes =>
    rw [visitAll, ofNodes, layOutAll_append]
    exact (prints_visit o n d node).andThen (prints_visitAll o n d nodes)

/-- Visiting the children of a condition prints its branches. -/
theorem prints_visitBranches (o : Options) (n d : Nat) (nodes : List Node) :
    Prints (n + 1) d (visitBranches o nodes) (layOutBranches n (ofBranches o d nodes)) := by
  match nodes with
  | [] =>
    rw [visitBranches]
    exact Prints.nothing
  | node :: nodes =>
    have hturn : Prints (n + 1) d (fun w => w.dedent.openBlock "\x7d else \x7b")
        (line n "\x7d else \x7b") :=
      Prints.turn (by decide)
    rw [visitBranches, layOutBranches_cons]
    exact (hturn.onlyIf (node.kind = .otherwise)).andThen
      ((prints_visit o (n + 1) d node).andThen (prints_visitBranches o n d nodes))

/-- Visiting the children of an extension prints its content blocks. -/
theorem prints_visitSlots (o : Options) (n d : Nat) (layer : Text) (nodes : List Node) :
    Prints n d (visitSlots o layer nodes) (layOutSlots n layer (ofSlots o d nodes)) := by
  match nodes with
  | [] =>
    rw [visitSlots]
    exact Prints.nothing
  | node :: nodes =>
    rw [visitSlots, ofSlots, layOutSlots_append]
    exact (prints_visitSlot o n d layer node).andThen (prints_visitSlots o n d layer nodes)

/-- Visiting one child of an extension prints it if it is a content block. -/
theorem prints_visitSlot (o : Options) (n d : Nat) (layer : Text) (node : Node) :
    Prints n d (visitSlot o layer node) (layOutSlots n layer (ofSlot o d node)) := by
  match node with
  | ⟨kind, token?, children⟩ =>
    cases kind with
    | slot name =>
      have hnote := (@prints_note n d (Node.line ⟨.slot name, token?, children⟩)).onlyIf
        (o.lineNumbers = true)
      have hblock := ((prints_visitAll o (n + 1) d children).andThen prints_result).block
        (slotCode layer name) "\x7d);" (append_ne_nil _ (by decide)) (by decide)
      rw [visitSlot, ofSlot]
      refine (hnote.andThen hblock).of_eq ?_
      cases o.lineNumbers with
      | true => simp [layOutSlots, SlotBinding.layOut]
      | false => simp [layOutSlots, SlotBinding.layOut]
    | _ => exact Prints.nothing

end

/-! ## Documents -/

/-- The header prints as it is laid out. -/
theorem prints_writeHeader (t : Template) (o : Options) :
    Prints 0 d (·.writeHeader t o) (header t o) := by
  have hversion : Prints 0 d (·.writeLine "// Code generated by blip 0.1.0. DO NOT EDIT.")
      (line 0 "// Code generated by blip 0.1.0. DO NOT EDIT.") :=
    Prints.writeLine (by decide)
  have hsource : Prints 0 d (·.writeLine ("// Source: " ++ t.path))
      (line 0 ("// Source: " ++ t.path)) :=
    Prints.writeLine (by simp)
  unfold Writer.writeHeader header
  cases o.package? with
  | none => exact ((hversion.andThen hsource).andThen Prints.nothing).andThen Prints.newline
  | some package =>
    have hpackage : Prints 0 d (·.writeLine ("// Package: " ++ package))
        (line 0 ("// Package: " ++ package)) :=
      Prints.writeLine (by simp)
    exact ((hversion.andThen hsource).andThen hpackage).andThen Prints.newline

/-- No import is an empty line. -/
theorem importEntries_ne_nil {o : Options} {paths : List Text} :
    ∀ entry ∈ importEntries o paths, entry ≠ [] := by
  intro entry hentry
  rw [importEntries, mem_sorted] at hentry
  simp only [List.mem_cons, List.mem_map] at hentry
  rcases hentry with rfl | rfl | ⟨path, -, rfl⟩
  · exact append_ne_nil _ (by decide)
  · decide
  · exact append_ne_nil _ (by decide)

/-- The imports print as they are laid out. -/
theorem prints_writeImports (o : Options) (paths : List Text) :
    Prints 0 d (·.writeImports o paths) (importSection o paths) := by
  have hentries : Prints 0 d (fun w => (importEntries o paths).foldl Writer.writeLine w)
      ((importEntries o paths).flatMap (line 0)) :=
    Prints.foldl fun entry hentry => Prints.writeLine (importEntries_ne_nil entry hentry)
  exact hentries.andThen Prints.newline

/-- A function block prints as it is laid out. -/
theorem prints_writeFunction (block : Node) :
    Prints 0 d (·.writeFunction block) (functionBlock block) := by
  have hfront : Prints 0 d (·.writeLine ("// Function block from line: " ++ Text.ofNat block.line))
      (line 0 ("// Function block from line: " ++ Text.ofNat block.line)) :=
    Prints.writeLine (by simp)
  exact (hfront.andThen (Prints.writeRaw block.bodyText)).andThen Prints.newline

/-- A context variable prints as it is laid out. -/
theorem prints_writeContextVariable (v : ContextVariable) :
    Prints 2 d (·.writeContextVariable v) (contextVariable v) := by
  unfold Writer.writeContextVariable contextVariable
  cases v.default? with
  | none => exact Prints.writeCode _ (by decide)
  | some value =>
    have hlet := @Prints.writeCode 2 d
      ("let mut " ++ v.name ++ ": &" ++ v.type ++ " = &(" ++ value) ");" (by decide)
    have hassign := @Prints.writeCode 3 d v.name " = value;" (by decide)
    have hblock := hassign.block
      ("if let Some(value) = ctx.get::<" ++ v.type ++ ">(\"" ++ v.name ++ "\") \x7b") "\x7d"
      (append_ne_nil _ (by decide)) (by decide)
    refine (hlet.andThen hblock).of_eq ?_
    simp only [List.append_assoc]

/-- The lines around the body of a render function. -/
theorem prints_function (name : Text) (declared : List Text) {f : Writer → Writer} {t : Text}
    (h : Prints 1 d f t) :
    Prints 0 d (fun w => (f (w.openFunction name declared)).closeBlock "\x7d")
      (signature name declared ++ (t ++ line 0 "\x7d")) := by
  have hattribute : Prints 0 d (·.writeLine "#[allow(unused_variables, unused_mut)]")
      (line 0 "#[allow(unused_variables, unused_mut)]") :=
    Prints.writeLine (by decide)
  have hblock := h.block ("pub fn " ++ functionName name ++ "(" ++
    List.intercalate (", " : Text)
      (declared ++ ["ctx: &Context<'_>".toList, "out: &mut dyn Write".toList]) ++
    ") -> runtime::Result<()> \x7b") "\x7d" (append_ne_nil _ (by decide)) (by decide)
  refine (hattribute.andThen hblock).of_eq ?_
  simp only [signature, List.append_assoc]

/-- The body of a stub prints its failures and that it is not reached. -/
theorem prints_writeFailures (path : Text) (diagnostics : List Diagnostic) :
    Prints 1 d (·.writeFailures path diagnostics)
      (diagnostics.flatMap (failure path) ++ line 1 "unreachable!()") := by
  have hfailures : Prints 1 d (fun w => diagnostics.foldl (fun w x =>
      w.writeLine ("compile_error!(" ++ Text.literal (path ++ ":" ++ x.display) ++ ");")) w)
      (diagnostics.flatMap (failure path)) :=
    Prints.foldl fun x _ => Prints.writeCode _ (by decide)
  have hend : Prints 1 d (·.writeLine "unreachable!()") (line 1 "unreachable!()") :=
    Prints.writeLine (by decide)
  exact hfailures.andThen hend

/-- The guard prints its first line, all statements and its end. -/
theorem prints_writeGuard (t : Template) (o : Options) (doc : Document) :
    Prints 1 0 (·.writeGuard t o doc)
      (guardLine t ++ (escaperBinding t.fileType doc.root ++
        doc.declarations.contexts.flatMap contextVariable ++
        layOutAll 2 (ofNodes o 0 doc.root.children) ++ line 2 "Ok(())") ++ line 1 "\x7d)") := by
  have hescaper : Prints 2 0
      (fun w => if doc.root.usesEscaper then
        w.writeLine ("let escaper = runtime::escaper_for(" ++ Text.literal t.fileType ++ ")?;")
      else w) (escaperBinding t.fileType doc.root) :=
    Prints.onlyIf _ (Prints.writeCode _ (by decide))
  have hcontexts : Prints 2 0 (fun w => doc.declarations.contexts.foldl writeContextVariable w)
      (doc.declarations.contexts.flatMap contextVariable) :=
    Prints.foldl fun v _ => prints_writeContextVariable v
  have hbody := prints_visitAll o 2 0 doc.root.children
  exact (((hescaper.andThen hcontexts).andThen hbody).andThen prints_result).block
    ("runtime::guard(" ++ Text.literal t.name ++ ", " ++ Text.literal t.fileType ++ ", || \x7b")
    "\x7d)" (append_ne_nil _ (by decide)) (by decide)

/-- The render function prints as it is laid out, with problems or without. -/
theorem prints_writeRenderFunction (t : Template) (o : Options) (doc : Document) :
    Prints 0 0 (·.writeRenderFunction t o doc) (renderFunction t o doc) := by
  have hstub := prints_function t.name (parameters doc)
    (@prints_writeFailures 0 t.path doc.diagnostics)
  have hguard := prints_function t.name (parameters doc) (prints_writeGuard t o doc)
  unfold Writer.writeRenderFunction renderFunction
  cases doc.hasErrors with
  | true => exact hstub
  | false =>
    refine hguard.of_eq ?_
    simp only [Bool.false_eq_true, ↓reduceIte, guarded, codeEnd, List.append_assoc]

/-- The walk over a document writes its code and ends where it began. -/
theorem walk_eq (t : Template) (o : Options) (doc : Document) :
    walk t o doc = { output := ofDocument t o doc } ∧ WholeLines (ofDocument t o doc) := by
  have hfunctions : Prints 0 0
      (fun w => if doc.hasErrors then w else doc.declarations.functions.foldl writeFunction w)
      (if doc.hasErrors then [] else doc.declarations.functions.flatMap functionBlock) := by
    cases doc.hasErrors with
    | true => exact Prints.nothing
    | false => exact Prints.foldl fun block _ => prints_writeFunction block
  have hfront := (@prints_writeHeader 0 t o).andThen (prints_writeImports o (importPaths doc))
  have hwalk := (hfront.andThen hfunctions).andThen (prints_writeRenderFunction t o doc)
  exact ⟨hwalk.appends {} rfl rfl rfl, hwalk.wholeLines⟩

/-- There is always some code. -/
theorem ofDocument_ne_nil (t : Template) (o : Options) (doc : Document) :
    ofDocument t o doc ≠ [] := by
  simp [ofDocument, header, line]

/-- The code for nodes is the code for each of them, one after another. -/
theorem layOutAll_ofNodes (o : Options) (n d : Nat) (nodes : List Node) :
    layOutAll n (ofNodes o d nodes) = nodes.flatMap fun node => layOutAll n (ofNode o d node) := by
  induction nodes with
  | nil => rfl
  | cons node nodes ih => rw [ofNodes, layOutAll_append, ih, List.flatMap_cons]

/-- From the start of a line, visiting a node appends the layout of its statements, which depends on
the node, the options and the numbers of blocks and extensions around it, and leaves the rest of
the writer as it was; it is made of whole lines. For several nodes it is put together from those of
each of them. So the walk over a document never leaves a block that is not open, ends outside of all
blocks, and its code ends with a line end. -/
theorem walk_prints_layout (o : Options) :
    (∀ (node : Node) (w : Writer), w.atLineStart = true →
      visit o node w = w.append (layOutAll w.level (ofNode o w.depth node))) ∧
    (∀ (nodes : List Node) (w : Writer), w.atLineStart = true →
      visitAll o nodes w =
        w.append (nodes.flatMap fun node => layOutAll w.level (ofNode o w.depth node))) ∧
    (∀ (n d : Nat) (node : Node), WholeLines (layOutAll n (ofNode o d node))) ∧
    (∀ (t : Template) (doc : Document),
      (walk t o doc).output = ofDocument t o doc ∧ (walk t o doc).level = 0 ∧
        (walk t o doc).saturated = false ∧ (ofDocument t o doc).getLast? = some '\n') := by
  refine ⟨?_, ?_, ?_, ?_⟩
  · intro node w hw
    exact (prints_visit o w.level w.depth node).appends w hw rfl rfl
  · intro nodes w hw
    rw [← layOutAll_ofNodes]
    exact (prints_visitAll o w.level w.depth nodes).appends w hw rfl rfl
  · intro n d node
    exact (prints_visit o n d node).wholeLines
  · intro t doc
    obtain ⟨hwalk, hlines⟩ := walk_eq t o doc
    rw [hwalk]
    exact ⟨rfl, rfl, rfl, hlines.resolve_left (ofDocument_ne_nil t o doc)⟩

/-- A condition with two alternatives, inside of one block. -/
theorem walk_prints_two_alternatives :
    let token (text : Text) : Option Token := some ⟨.literal, text, ⟨1, 1⟩, ⟨0, 0⟩⟩
    let node : Node := ⟨.condition, token "a",
      [⟨.literal, token "x", []⟩, ⟨.otherwise, none, []⟩, ⟨.otherwise, none, []⟩]⟩
    let w : Writer := { output := "f()\n", level := 1, depth := 2 }
    w.atLineStart = true ∧ visit {} node w = w.append
      ("    if a \x7b\n        runtime::write(out, \"x\")?;\n" ++
        "    \x7d else \x7b\n    \x7d else \x7b\n    \x7d\n") := by
  intro token node w
  have hlayout := (walk_prints_layout {}).1 node w rfl
  exact ⟨rfl, hlayout.trans (congrArg w.append (by decide +kernel))⟩

end Stencil.Code
