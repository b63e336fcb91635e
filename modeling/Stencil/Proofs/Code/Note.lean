import Stencil.Proofs.Code.Walk

/-!
# Notes of lines

On request the generated code notes from which line of the template a statement comes. The notes
are lines of their own between the lines of the code, which are otherwise the same with and without
them (`NotesAdded`). Since every statement is laid out in whole lines, a note never cuts one of them
in two: this is followed through the tree, and at each node the code around its children is the
same in both cases (`NotesAdded.between`).

The numbers that are noted are the lines of the nodes that are visited, each before those of its
children. A content block is noted by the extension around it, whatever its line is, and all other
nodes only if they have a line.
-/

set_option autoImplicit false

namespace Stencil

namespace Node

mutual

/-- The lines that are noted for the node and the nodes below it. -/
def noted : Node → List Nat
  | ⟨kind, token?, children⟩ =>
    let node : Node := ⟨kind, token?, children⟩
    (if 0 < node.line then [node.line] else []) ++
      match kind with
      | .root | .slot _ | .otherwise | .condition | .loop _ => notedAll children
      | .extension _ => notedSlots children
      | .literal | .verbatimText | .display _ | .verbatim _ | .inclusion _ | .yield _ => []

/-- The lines that are noted for the nodes and the nodes below them. -/
def notedAll : List Node → List Nat
  | [] => []
  | node :: nodes => node.noted ++ notedAll nodes

/-- The lines that are noted for the content blocks among the nodes. -/
def notedSlots : List Node → List Nat
  | [] => []
  | node :: nodes => node.notedSlot ++ notedSlots nodes

/-- The lines that are noted for the node if it is a content block. -/
def notedSlot : Node → List Nat
  | ⟨.slot name, token?, children⟩ =>
    Node.line ⟨.slot name, token?, children⟩ :: notedAll children
  | _ => []

end

end Node

namespace Code

/-- Two texts of whole lines, of which the second has the first one's lines and between them notes
of the given numbers. Each note is a line of its own, indented by a multiple of four. -/
inductive NotesAdded : List Nat → Text → Text → Prop
  | nil : NotesAdded [] [] []
  | kept {ns : List Nat} {t u : Text} (content : Text) (h : NotesAdded ns t u) :
      NotesAdded ns (content ++ '\n' :: t) (content ++ '\n' :: u)
  | note {ns : List Nat} {t u : Text} (indent number : Nat) (h : NotesAdded ns t u) :
      NotesAdded (number :: ns) t
        (List.replicate (4 * indent) ' ' ++ "// Line: " ++ Text.ofNat number ++ '\n' :: u)

namespace NotesAdded

variable {ns ms : List Nat} {t u t' u' : Text}

/-- Texts of whole lines are put behind each other, and so are the notes in them. -/
theorem append (h : NotesAdded ns t u) (h' : NotesAdded ms t' u') :
    NotesAdded (ns ++ ms) (t ++ t') (u ++ u') := by
  induction h with
  | nil => exact h'
  | kept content _ ih => simpa using ih.kept content
  | note indent number _ ih => simpa using ih.note indent number

/-- Whole lines have no notes added if they stay as they are. -/
theorem refl (h : WholeLines t) : NotesAdded [] t t := by
  rcases h with rfl | hend
  · exact .nil
  · obtain ⟨content, rfl⟩ := List.getLast?_eq_some_iff.1 hend
    exact .kept content .nil

/-- Code before and behind that is the same in both texts. -/
theorem between {first last : Text} (hfirst : WholeLines first) (h : NotesAdded ns t u)
    (hlast : WholeLines last) : NotesAdded ns (first ++ t ++ last) (first ++ u ++ last) := by
  simpa using ((refl hfirst).append h).append (refl hlast)

/-- A note is a note added to nothing. -/
theorem noteLine (n number : Nat) : NotesAdded [number] [] (Code.noteLine n number) := by
  simpa [Code.noteLine, line, indentation] using NotesAdded.nil.note n number

end NotesAdded

/-! ## Trees -/

section

variable {p q : Options} {n : Nat} {ns : List Nat}

/-- Notes in a statement are notes in the list of it alone. -/
theorem notesAdded_single {r s : Statement} (h : NotesAdded ns (r.layOut n) (s.layOut n)) :
    NotesAdded ns (layOutAll n [r]) (layOutAll n [s]) := by
  rwa [layOutAll_single, layOutAll_single]

/-- A node is noted before its statements. -/
theorem notesAdded_noted (hp : p.lineNumbers = false) (hq : q.lineNumbers = true) (number : Nat)
    {rs ss : List Statement} (h : NotesAdded ns (layOutAll n rs) (layOutAll n ss)) :
    NotesAdded ((if 0 < number then [number] else []) ++ ns)
      (layOutAll n (noteStatements p number ++ rs))
      (layOutAll n (noteStatements q number ++ ss)) := by
  rw [layOutAll_append, layOutAll_append]
  refine NotesAdded.append ?_ h
  by_cases hnumber : 0 < number
  · simpa [noteStatements, hp, hq, hnumber, layOutAll, Statement.layOut] using
      NotesAdded.noteLine n number
  · simpa [noteStatements, hp, hq, hnumber, layOutAll] using NotesAdded.nil

mutual

/-- With line numbers the code for a node has its lines noted and is otherwise the same. -/
theorem notesAdded_ofNode (hp : p.lineNumbers = false) (hq : q.lineNumbers = true) (n d : Nat)
    (node : Node) :
    NotesAdded node.noted (layOutAll n (ofNode p d node)) (layOutAll n (ofNode q d node)) := by
  match node with
  | ⟨kind, token?, children⟩ =>
    cases kind with
    | root | slot name | otherwise =>
      rw [ofNode, ofNode, Node.noted]
      exact notesAdded_noted hp hq _ (notesAdded_ofNodes hp hq n d children)
    | literal =>
      rw [ofNode, ofNode, Node.noted]
      exact notesAdded_noted hp hq _ (.refl (@prints_writeText n d _).wholeLines)
    | verbatimText =>
      rw [ofNode, ofNode, Node.noted]
      exact notesAdded_noted hp hq _ .nil
    | verbatim block =>
      cases block with
      | function =>
        rw [ofNode, ofNode, Node.noted]
        exact notesAdded_noted hp hq _ .nil
      | text =>
        rw [ofNode, ofNode, Node.noted]
        exact notesAdded_noted hp hq _ (.refl (@prints_writeText n d _).wholeLines)
      | code =>
        rw [ofNode, ofNode, Node.noted]
        exact notesAdded_noted hp hq _ (notesAdded_single (.refl (wholeLines_handwritten _)))
    | display _ | inclusion _ | yield _ =>
      rw [ofNode, ofNode, Node.noted]
      exact notesAdded_noted hp hq _ (notesAdded_single (.refl (wholeLines_line n _)))
    | condition =>
      have hblock := (notesAdded_ofBranches hp hq n d children).between
        (wholeLines_line n ("if " ++ Node.text ⟨.condition, token?, children⟩ ++ " \x7b"))
        (wholeLines_line n "\x7d")
      rw [ofNode, ofNode, Node.noted]
      refine notesAdded_noted hp hq _ (notesAdded_single ?_)
      simpa only [layOutBranches, Statement.layOut, List.append_assoc] using hblock
    | loop head =>
      rw [ofNode, ofNode, Node.noted]
      exact notesAdded_noted hp hq _ (notesAdded_single
        ((notesAdded_ofNodes hp hq (n + 1) d children).between (wholeLines_line n _)
          (wholeLines_line n _)))
    | extension callee =>
      have hfirst := (wholeLines_line n "\x7b").append
        (wholeLines_line (n + 1) ("let " ++ layerName (d + 1) ++ " = ctx.child();"))
      have hlast := (wholeLines_line (n + 1)
        (callCode callee ("&" ++ layerName (d + 1)) ++ "?;")).append (wholeLines_line n "\x7d")
      have hblock := (notesAdded_ofSlots hp hq (n + 1) (d + 1) (layerName (d + 1))
        children).between hfirst hlast
      rw [ofNode, ofNode, Node.noted]
      refine notesAdded_noted hp hq _ (notesAdded_single ?_)
      simpa only [Statement.layOut, List.append_assoc] using hblock

/-- With line numbers the code for several nodes has their lines noted and is otherwise the same. -/
theorem notesAdded_ofNodes (hp : p.lineNumbers = false) (hq : q.lineNumbers = true) (n d : Nat)
    (nodes : List Node) :
    NotesAdded (Node.notedAll nodes) (layOutAll n (ofNodes p d nodes))
      (layOutAll n (ofNodes q d nodes)) := by
  match nodes with
  | [] => exact .nil
  | node :: nodes =>
    rw [ofNodes, ofNodes, layOutAll_append, layOutAll_append, Node.notedAll]
    exact (notesAdded_ofNode hp hq n d node).append (notesAdded_ofNodes hp hq n d nodes)

/-- With line numbers the branches of a condition have their lines noted. -/
theorem notesAdded_ofBranches (hp : p.lineNumbers = false) (hq : q.lineNumbers = true)
    (n d : Nat) (nodes : List Node) :
    NotesAdded (Node.notedAll nodes) (layOutBranches n (ofBranches p d nodes))
      (layOutBranches n (ofBranches q d nodes)) := by
  match nodes with
  | [] => exact .nil
  | node :: nodes =>
    have hturn : WholeLines (if node.kind = .otherwise then line n "\x7d else \x7b" else []) := by
      split
      · exact wholeLines_line n _
      · exact .inl rfl
    rw [layOutBranches_cons, layOutBranches_cons, Node.notedAll]
    exact (NotesAdded.refl hturn).append
      ((notesAdded_ofNode hp hq (n + 1) d node).append (notesAdded_ofBranches hp hq n d nodes))

/-- With line numbers the content blocks of an extension have their lines noted. -/
theorem notesAdded_ofSlots (hp : p.lineNumbers = false) (hq : q.lineNumbers = true) (n d : Nat)
    (layer : Text) (nodes : List Node) :
    NotesAdded (Node.notedSlots nodes) (layOutSlots n layer (ofSlots p d nodes))
      (layOutSlots n layer (ofSlots q d nodes)) := by
  match nodes with
  | [] => exact .nil
  | node :: nodes =>
    rw [ofSlots, ofSlots, layOutSlots_append, layOutSlots_append, Node.notedSlots]
    exact (notesAdded_ofSlot hp hq n d layer node).append
      (notesAdded_ofSlots hp hq n d layer nodes)

/-- With line numbers a content block has its lines noted, its own even if that is zero. -/
theorem notesAdded_ofSlot (hp : p.lineNumbers = false) (hq : q.lineNumbers = true) (n d : Nat)
    (layer : Text) (node : Node) :
    NotesAdded node.notedSlot (layOutSlots n layer (ofSlot p d node))
      (layOutSlots n layer (ofSlot q d node)) := by
  match node with
  | ⟨kind, token?, children⟩ =>
    cases kind with
    | slot name =>
      have hlast := (wholeLines_line (n + 1) "Ok(())").append (wholeLines_line n "\x7d);")
      have hblock := (notesAdded_ofNodes hp hq (n + 1) d children).between
        (wholeLines_line n (slotCode layer name)) hlast
      have hslot := (NotesAdded.noteLine n (Node.line ⟨.slot name, token?, children⟩)).append hblock
      rw [ofSlot, ofSlot, Node.notedSlot, hp, hq]
      simpa [layOutSlots, SlotBinding.layOut] using hslot
    | _ => exact .nil

end

end

/-! ## Documents -/

/-- The code of a document without problems, around the statements of its tree. -/
theorem ofDocument_eq (t : Template) (o : Options) {doc : Document} (h : doc.hasErrors = false) :
    ofDocument t o doc =
      front t o doc.declarations ++ guardLine t ++ escaperBinding t.fileType doc.root ++
        doc.declarations.contexts.flatMap contextVariable ++
        layOutAll 2 (ofNodes o 0 doc.root.children) ++ codeEnd := by
  simp only [ofDocument_of_silent t o h, guarded, List.append_assoc]

/-- Looking up the escaper takes whole lines. -/
theorem wholeLines_escaperBinding (fileType : Text) (root : Node) :
    WholeLines (escaperBinding fileType root) := by
  unfold escaperBinding
  split
  · exact wholeLines_line 2 _
  · exact .inl rfl

/-- What stands before the body of the function takes whole lines. -/
theorem wholeLines_front (t : Template) (o : Options) (d : Declarations) :
    WholeLines (front t o d) := by
  have hheader : WholeLines (header t o) := (@prints_writeHeader 0 t o).wholeLines
  have himports : WholeLines (importSection o (d.imports.map Import.path)) :=
    (@prints_writeImports 0 o _).wholeLines
  have hfunctions : WholeLines (d.functions.flatMap functionBlock) :=
    .flatMap (fun block => (@prints_writeFunction 0 block).wholeLines) _
  have hsignature : WholeLines (signature t.name (d.arguments.map parameter)) :=
    (wholeLines_line 0 _).append (wholeLines_line 0 _)
  exact ((hheader.append himports).append hfunctions).append hsignature

/-- The end of the code takes whole lines. -/
theorem wholeLines_codeEnd : WholeLines codeEnd :=
  ((wholeLines_line 2 _).append (wholeLines_line 1 _)).append (wholeLines_line 0 _)

end Code

/-- The code with notes is the code without them, with whole lines added between its lines. Each of
them is indented by a multiple of four and notes a number, and the numbers are those of the tree.
The stub of a document with problems is the same in both cases. -/
theorem notes_change_nothing_else (t : Template) (o : Options) (doc : Document) :
    let plain := Code.ofDocument t (o.withLineNumbers false) doc
    let noted := Code.ofDocument t (o.withLineNumbers true) doc
    Code.NotesAdded (if doc.hasErrors then [] else Node.notedAll doc.root.children) plain noted ∧
      (doc.hasErrors = true → noted = plain) := by
  intro plain noted
  cases h : doc.hasErrors with
  | true =>
    have heq : noted = plain := by
      simp only [noted, plain, Code.ofDocument_of_errors t _ h]
      rfl
    refine ⟨?_, fun _ => heq⟩
    rw [heq]
    exact .refl (Code.walk_eq t (o.withLineNumbers false) doc).2
  | false =>
    refine ⟨?_, nofun⟩
    have hbody := Code.notesAdded_ofNodes (p := o.withLineNumbers false)
      (q := o.withLineNumbers true) rfl rfl 2 0 doc.root.children
    have hcontexts : Code.WholeLines (doc.declarations.contexts.flatMap Code.contextVariable) :=
      .flatMap (fun v => (@Code.prints_writeContextVariable 0 v).wholeLines) _
    have hguard : Code.WholeLines (Code.guardLine t) := Code.wholeLines_line 1 _
    have hbefore := (((Code.wholeLines_front t o doc.declarations).append hguard).append
      (Code.wholeLines_escaperBinding t.fileType doc.root)).append hcontexts
    have hcode := hbody.between hbefore Code.wholeLines_codeEnd
    rw [show plain = _ from Code.ofDocument_eq t _ h, show noted = _ from Code.ofDocument_eq t _ h]
    exact hcode

/-- A template with a content block is noted at two lines, and not at all once it has a problem. -/
theorem notes_of_slot_until_problem :
    let t : Template := .named "index" []
    let token (line : Nat) : Option Token := some ⟨.literal, "x", ⟨line, 1⟩, ⟨0, 0⟩⟩
    let root : Node := ⟨.root, none, [⟨.extension ⟨"page", none⟩, token 3,
      [⟨.slot "main", token 4, []⟩, ⟨.literal, token 5, []⟩]⟩]⟩
    let d : Document := { root }
    let e : Document := { root, diagnostics := [⟨⟨2, 7⟩, ⟨8, 9⟩, .remark "wrong"⟩] }
    let code (lineNumbers : Bool) (doc : Document) : Text := Code.ofDocument t { lineNumbers } doc
    Code.NotesAdded [3, 4] (code false d) (code true d) ∧ code true d ≠ code false d ∧
      e.hasErrors = true ∧ code true e = code false e := by
  intro t token root d e code
  refine ⟨(notes_change_nothing_else t {} d).1, by decide +kernel, rfl, ?_⟩
  exact (notes_change_nothing_else t {} e).2 rfl

end Stencil
