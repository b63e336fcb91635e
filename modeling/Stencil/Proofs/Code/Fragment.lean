import Stencil.Proofs.Code.Note
import Stencil.Proofs.Document.Shape

/-!
# The fragments of generated code

Generated code is one text, in which a line that binds a context looks like any other. Here it is
taken apart into fragments that say what they do with contexts and with the escaper (`Fragment`).
Printed one after another they are the code of the document (`printed_documentFragments`).

A fragment stems from one node of the tree, and what it says depends only on that node and on the
number of extensions around it (`Stems`). Generating code neither invents fragments
(`stems_ofNode`) nor, for a tree in shape, passes over a node that stands for a statement: its
fragments are in the code without anything between them (`infix_of_occurs`). Without the shape it
would, since below an extension only content blocks are looked at.
-/

set_option autoImplicit false

namespace Stencil

/-! ## Places in a tree -/

namespace Node

/-- The number of extensions around the children of a node that has `d` extensions around it. -/
def inside (n : Node) (d : Nat) : Nat :=
  match n.kind with
  | .extension _ => d + 1
  | _ => d

/-- A place in a tree: if `d` extensions are around the first node, then the second one is found in
it with `k` extensions around. -/
inductive Occurs : Nat → Node → Nat → Node → Prop
  | here (d : Nat) (n : Node) : Occurs d n d n
  | inner {d k : Nat} {n c m : Node} (hc : c ∈ n.children) (h : Occurs (n.inside d) c k m) :
      Occurs d n k m

/-- The children of an extension have one more extension around them. -/
theorem inside_of_extension {n : Node} {call : Call} (h : n.kind = .extension call) (d : Nat) :
    n.inside d = d + 1 := by
  rw [inside, h]

/-- The children of a node that is no extension have as many around them as the node. -/
theorem inside_of_other {n : Node} (h : ∀ call, n.kind ≠ .extension call) (d : Nat) :
    n.inside d = d := by
  unfold inside
  split
  · next call hcall => exact absurd hcall (h call)
  · rfl

/-- Going inwards never leaves an extension. -/
theorem le_inside (n : Node) (d : Nat) : d ≤ n.inside d := by
  unfold inside
  split
  · omega
  · omega

/-- A node in a tree has at least the extensions of the tree around it. -/
theorem Occurs.le {d k : Nat} {n m : Node} (h : Occurs d n k m) : d ≤ k := by
  induction h with
  | here => exact Nat.le_refl _
  | @inner d k n c m hc h ih => exact Nat.le_trans (n.le_inside d) ih

/-- The nodes of a child are nodes of its parent. -/
theorem nodes_of_mem {n c m : Node} (hc : c ∈ n.children) (hm : m ∈ c.nodes) : m ∈ n.nodes := by
  obtain ⟨kind, token?, children⟩ := n
  rw [nodes_mk]
  exact List.mem_cons_of_mem _ (List.mem_flatMap.2 ⟨c, hc, hm⟩)

/-- A node is among its own nodes. -/
theorem self_mem_nodes (n : Node) : n ∈ n.nodes := by
  rw [nodes_eq_cons]
  exact List.mem_cons_self

/-- A place in a tree is one of its nodes. -/
theorem Occurs.mem_nodes {d k : Nat} {n m : Node} (h : Occurs d n k m) : m ∈ n.nodes := by
  induction h with
  | here d n => exact n.self_mem_nodes
  | inner hc h ih => exact nodes_of_mem hc ih

/-- A tree without children has one place. -/
theorem Occurs.eq_of_childless {d k : Nat} {n m : Node} (h : Occurs d n k m)
    (hn : n.children = []) : m = n := by
  cases h with
  | here => rfl
  | inner hc h =>
    rw [hn] at hc
    cases hc

end Node

namespace Code

/-! ## Fragments -/

/-- A fragment of generated code, by what it does with contexts and the escaper. -/
inductive Fragment
  /-- Binds a variable to a layer over a context. -/
  | child (layer base : Text)
  /-- Binds a variable to a layer with one more content block and opens its body. -/
  | callback (layer base name : Text)
  /-- Calls the template of an extension on a context. -/
  | extended (callee : Call) (context : Text)
  /-- Calls an included template on a context. -/
  | included (callee : Call) (context : Text)
  /-- Takes a content block of a context. -/
  | yielded (context name : Text)
  /-- Displays an expression. -/
  | displayed (how : Display) (expression : Text)
  /-- Looks up the escaper. -/
  | escaper (fileType : Text)
  /-- Declares a context variable. -/
  | declared (v : ContextVariable)
  /-- Code that has nothing to do with them. -/
  | other (text : Text)

namespace Fragment

/-- The code of a fragment inside of `n` blocks. It is spelled out here, so that what a fragment
does can be read off without looking at how the code is generated. -/
def text (n : Nat) (f : Fragment) : Text :=
  let onLine (statement : Text) : Text := List.replicate (4 * n) ' ' ++ statement ++ ['\n']
  match f with
  | child layer base => onLine ("let " ++ layer ++ " = " ++ base ++ ".child();")
  | callback layer base name =>
    onLine ("let " ++ layer ++ " = " ++ base ++ ".with_callback(" ++ Text.literal name ++
      ", |out: &mut dyn Write| -> runtime::Result<()> \x7b")
  | extended callee context | included callee context =>
    onLine (functionPath callee.template ++ "(" ++ callee.arguments?.elim [] (· ++ ", ".toList) ++
      context ++ ", out)?;")
  | yielded context name =>
    onLine ("runtime::call_context_callback(" ++ context ++ ", " ++ Text.literal name ++ ", out)?;")
  | displayed .escaped expression =>
    onLine ("runtime::write_escaped(out, &(" ++ expression ++ "), escaper)?;")
  | displayed .raw expression => onLine ("runtime::write_raw(out, &(" ++ expression ++ "))?;")
  | displayed .bool expression => onLine ("runtime::write_bool(out, " ++ expression ++ ")?;")
  | displayed .int expression => onLine ("runtime::write_int(out, " ++ expression ++ ")?;")
  | displayed .int64 expression => onLine ("runtime::write_int64(out, " ++ expression ++ ")?;")
  | escaper fileType =>
    onLine ("let escaper = runtime::escaper_for(" ++ Text.literal fileType ++ ")?;")
  | declared v => contextVariable v
  | other text => text

/-- The layer of an extension is made from the context at hand. -/
theorem text_child (n : Nat) (layer : Text) :
    (child layer "ctx").text n = line n ("let " ++ layer ++ " = ctx.child();") := by
  have hclosed : (" = " : Text) ++ ("ctx" ++ ".child();") = " = ctx.child();" := by simp
  rw [← hclosed, ← List.append_assoc, ← List.append_assoc]
  rfl

/-- Binding a content block is the code of a slot on its line. -/
theorem text_callback (n : Nat) (layer name : Text) :
    (callback layer layer name).text n = line n (slotCode layer name) := rfl

/-- An extension calls its template like an inclusion does. -/
theorem text_extended (n : Nat) (callee : Call) (context : Text) :
    (extended callee context).text n = line n (callCode callee context ++ "?;") := by
  have hclosed : (", out)?;" : Text) = ", out)" ++ "?;" := by decide
  have hcall : functionPath callee.template ++ "(" ++
      callee.arguments?.elim [] (· ++ ", ".toList) ++ context ++ ", out)?;" =
        callCode callee context ++ "?;" := by
    rw [hclosed, callCode]
    cases callee.arguments? with
    | none => simp only [Option.elim, List.append_assoc]
    | some arguments => simp only [Option.elim, List.append_assoc]
  exact congrArg (line n) hcall

/-- An inclusion is the code of its call, which may fail, on its line. -/
theorem text_included (n : Nat) (callee : Call) (context : Text) :
    (included callee context).text n = line n (callCode callee context ++ "?;") :=
  text_extended n callee context

/-- A content block is taken from the context at hand. -/
theorem text_yielded (n : Nat) (name : Text) :
    (yielded "ctx" name).text n =
      line n ("runtime::call_context_callback(ctx, " ++ Text.literal name ++ ", out)?;") := by
  have hclosed : ("runtime::call_context_callback(" : Text) ++ "ctx" ++ ", " =
      "runtime::call_context_callback(ctx, " := by simp
  rw [← hclosed]
  rfl

/-- A display is its code on its line. -/
theorem text_displayed (n : Nat) (how : Display) (expression : Text) :
    (displayed how expression).text n = line n (displayCode how expression) := by
  cases how <;> rfl

/-- Other code is printed as it is. -/
theorem text_other (n : Nat) (text : Text) : (other text).text n = text := rfl

end Fragment

/-- Fragments, each with the number of blocks around it. -/
abbrev Fragments := List (Nat × Fragment)

/-- The code of several fragments. -/
def Fragments.printed (fs : Fragments) : Text :=
  fs.flatMap fun f => f.2.text f.1

/-- No fragments print nothing. -/
@[simp] theorem printed_nil : Fragments.printed [] = [] := rfl

/-- The first fragment is printed in front of the others. -/
@[simp] theorem printed_cons (n : Nat) (f : Fragment) (fs : Fragments) :
    Fragments.printed ((n, f) :: fs) = f.text n ++ Fragments.printed fs := rfl

/-- Fragments are printed one after the other. -/
@[simp] theorem printed_append (fs gs : Fragments) :
    Fragments.printed (fs ++ gs) = Fragments.printed fs ++ Fragments.printed gs :=
  List.flatMap_append

/-- The note in front of a content block. -/
def noteFragments (n : Nat) : Option Nat → Fragments
  | some number => [(n, .other (noteLine n number))]
  | none => []

mutual

/-- The fragments of a statement inside of `n` blocks. -/
def fragments (n : Nat) : Statement → Fragments
  | .note number => [(n, .other (noteLine n number))]
  | .write text => [(n, .other (line n ("runtime::write(out, " ++ Text.literal text ++ ")?;")))]
  | .display how expression => [(n, .displayed how expression)]
  | .handwritten code => [(n, .other (handwritten code))]
  | .condition test body alternatives =>
    (n, .other (line n ("if " ++ test ++ " \x7b"))) ::
      (fragmentsAll (n + 1) body ++ fragmentsAlternatives n alternatives ++
        [(n, .other (line n "\x7d"))])
  | .loop head body =>
    (n, .other (line n ("for " ++ head.item ++ " in " ++ head.collection ++ " \x7b"))) ::
      (fragmentsAll (n + 1) body ++ [(n, .other (line n "\x7d"))])
  | .call callee => [(n, .included callee "ctx")]
  | .yield name => [(n, .yielded "ctx" name)]
  | .layer number slots callee =>
    (n, .other (line n "\x7b")) :: (n + 1, .child (layerName number) "ctx") ::
      (fragmentsSlots (n + 1) (layerName number) slots ++
        [(n + 1, .extended callee ("&" ++ layerName number)), (n, .other (line n "\x7d"))])

/-- The fragments of several statements. -/
def fragmentsAll (n : Nat) : List Statement → Fragments
  | [] => []
  | s :: ss => fragments n s ++ fragmentsAll n ss

/-- The fragments of the alternatives of a condition. -/
def fragmentsAlternatives (n : Nat) : List (List Statement) → Fragments
  | [] => []
  | body :: bodies =>
    (n, .other (line n "\x7d else \x7b")) ::
      (fragmentsAll (n + 1) body ++ fragmentsAlternatives n bodies)

/-- The fragments of a content block of a layer. -/
def fragmentsSlot (n : Nat) (layer : Text) : SlotBinding → Fragments
  | .mk note? name body =>
    noteFragments n note? ++ (n, .callback layer layer name) ::
      (fragmentsAll (n + 1) body ++
        [(n + 1, .other (line (n + 1) "Ok(())")), (n, .other (line n "\x7d);"))])

/-- The fragments of the content blocks of a layer. -/
def fragmentsSlots (n : Nat) (layer : Text) : List SlotBinding → Fragments
  | [] => []
  | slot :: slots => fragmentsSlot n layer slot ++ fragmentsSlots n layer slots

end

mutual

/-- The fragments of a statement print its lines. -/
theorem printed_fragments (n : Nat) (s : Statement) : (fragments n s).printed = s.layOut n := by
  match s with
  | .note _ | .write _ | .display _ _ | .handwritten _ | .call _ | .yield _ =>
    simp only [fragments, Statement.layOut, printed_cons, printed_nil, Fragment.text_other,
      Fragment.text_displayed, Fragment.text_included, Fragment.text_yielded, List.append_nil]
  | .condition test body alternatives =>
    have hbody := printed_fragmentsAll (n + 1) body
    have halternatives := printed_fragmentsAlternatives n alternatives
    simp only [fragments, Statement.layOut, printed_cons, printed_append, printed_nil,
      Fragment.text_other, hbody, halternatives, List.append_assoc, List.append_nil]
  | .loop head body =>
    have hbody := printed_fragmentsAll (n + 1) body
    simp only [fragments, Statement.layOut, printed_cons, printed_append, printed_nil,
      Fragment.text_other, hbody, List.append_assoc, List.append_nil]
  | .layer number slots callee =>
    have hslots := printed_fragmentsSlots (n + 1) (layerName number) slots
    simp only [fragments, Statement.layOut, printed_cons, printed_append, printed_nil,
      Fragment.text_other, Fragment.text_child, Fragment.text_extended, hslots, List.append_assoc,
      List.append_nil]

/-- The fragments of several statements print their lines. -/
theorem printed_fragmentsAll (n : Nat) (ss : List Statement) :
    (fragmentsAll n ss).printed = layOutAll n ss := by
  match ss with
  | [] => rfl
  | s :: ss => rw [fragmentsAll, printed_append, printed_fragments, printed_fragmentsAll, layOutAll]

/-- The fragments of the alternatives print their lines. -/
theorem printed_fragmentsAlternatives (n : Nat) (bodies : List (List Statement)) :
    (fragmentsAlternatives n bodies).printed = layOutAlternatives n bodies := by
  match bodies with
  | [] => rfl
  | body :: bodies =>
    have hbody := printed_fragmentsAll (n + 1) body
    have hbodies := printed_fragmentsAlternatives n bodies
    simp only [fragmentsAlternatives, layOutAlternatives, printed_cons, printed_append,
      Fragment.text_other, hbody, hbodies, List.append_assoc]

/-- The fragments of a content block print its lines. -/
theorem printed_fragmentsSlot (n : Nat) (layer : Text) (slot : SlotBinding) :
    (fragmentsSlot n layer slot).printed = slot.layOut n layer := by
  match slot with
  | .mk note? name body =>
    have hbody := printed_fragmentsAll (n + 1) body
    cases note? with
    | none | some number =>
      simp [fragmentsSlot, noteFragments, SlotBinding.layOut, Fragment.text_callback,
        Fragment.text_other, hbody]

/-- The fragments of the content blocks print their lines. -/
theorem printed_fragmentsSlots (n : Nat) (layer : Text) (slots : List SlotBinding) :
    (fragmentsSlots n layer slots).printed = layOutSlots n layer slots := by
  match slots with
  | [] => rfl
  | slot :: slots =>
    rw [fragmentsSlots, printed_append, printed_fragmentsSlot, printed_fragmentsSlots, layOutSlots]

end

/-- The statement that looks up the escaper, where one is used. -/
def escaperFragments (fileType : Text) (root : Node) : Fragments :=
  if root.usesEscaper then [(2, .escaper fileType)] else []

/-- The fragments of the statements of a document. -/
def bodyFragments (o : Options) (doc : Document) : Fragments :=
  fragmentsAll 2 (ofNodes o 0 doc.root.children)

/-- The fragments of the code of a document without problems. -/
def documentFragments (t : Template) (o : Options) (doc : Document) : Fragments :=
  (0, .other (front t o doc.declarations ++ guardLine t)) ::
    (escaperFragments t.fileType doc.root ++
      (doc.declarations.contexts.map fun v => (2, .declared v)) ++ bodyFragments o doc ++
      [(0, .other codeEnd)])

/-- The fragments of a document without problems print its code. -/
theorem printed_documentFragments (t : Template) (o : Options) {doc : Document}
    (h : doc.hasErrors = false) : (documentFragments t o doc).printed = ofDocument t o doc := by
  have hescaper : (escaperFragments t.fileType doc.root).printed =
      escaperBinding t.fileType doc.root := by
    unfold escaperFragments escaperBinding
    split
    · exact List.append_nil _
    · rfl
  have hcontexts : Fragments.printed (doc.declarations.contexts.map fun v => (2, .declared v)) =
      doc.declarations.contexts.flatMap contextVariable :=
    List.flatMap_map _ _ _
  rw [ofDocument_eq t o h, documentFragments, bodyFragments]
  simp only [printed_cons, printed_append, hescaper, hcontexts, printed_fragmentsAll, printed_nil,
    Fragment.text_other, List.append_assoc, List.append_nil]

/-! ## Fragments of nodes -/

/-- The fragments of statements follow each other as the statements do. -/
theorem fragmentsAll_append (n : Nat) (ss ts : List Statement) :
    fragmentsAll n (ss ++ ts) = fragmentsAll n ss ++ fragmentsAll n ts := by
  induction ss with
  | nil => rfl
  | cons s ss ih => simp [fragmentsAll, ih]

/-- The fragments of one statement alone are its own. -/
theorem fragmentsAll_single (n : Nat) (s : Statement) : fragmentsAll n [s] = fragments n s := by
  simp [fragmentsAll]

/-- The fragments of content blocks follow each other as the blocks do. -/
theorem fragmentsSlots_append (n : Nat) (layer : Text) (ss ts : List SlotBinding) :
    fragmentsSlots n layer (ss ++ ts) = fragmentsSlots n layer ss ++ fragmentsSlots n layer ts := by
  induction ss with
  | nil => rfl
  | cons s ss ih => simp [fragmentsSlots, ih]

/-- The fragments of the body of a condition and its alternatives. -/
def branchFragments (n : Nat) (branches : List Statement × List (List Statement)) : Fragments :=
  fragmentsAll (n + 1) branches.1 ++ fragmentsAlternatives n branches.2

/-- The branches of a condition are the nodes in their order, where one that is an alternative
starts a branch of its own. -/
theorem branchFragments_cons (o : Options) (n d : Nat) (node : Node) (nodes : List Node) :
    branchFragments n (ofBranches o d (node :: nodes)) =
      (if node.kind = .otherwise then [(n, .other (line n "\x7d else \x7b"))] else []) ++
        (fragmentsAll (n + 1) (ofNode o d node) ++ branchFragments n (ofBranches o d nodes)) := by
  rw [ofBranches, branchFragments, branchFragments]
  split
  · simp [fragmentsAll, fragmentsAll_append, fragmentsAlternatives]
  · simp [fragmentsAll_append]

/-- The fragments that can stem from a node with `d` extensions around it. -/
inductive Stems (d : Nat) (m : Node) : Fragment → Prop
  | displayed (how : Display) (hm : m.kind = .display how) : Stems d m (.displayed how m.text)
  | included (callee : Call) (hm : m.kind = .inclusion callee) : Stems d m (.included callee "ctx")
  | yielded (name : Text) (hm : m.kind = .yield name) : Stems d m (.yielded "ctx" name)
  | child (callee : Call) (hm : m.kind = .extension callee) :
      Stems d m (.child (layerName (d + 1)) "ctx")
  | callback (callee : Call) (hm : m.kind = .extension callee) (name : Text) :
      Stems d m (.callback (layerName (d + 1)) (layerName (d + 1)) name)
  | extended (callee : Call) (hm : m.kind = .extension callee) :
      Stems d m (.extended callee ("&" ++ layerName (d + 1)))
  | other (text : Text) : Stems d m (.other text)

/-- The fragment stems from a node in the tree, which has `d` extensions around it. -/
def StemsIn (d : Nat) (node : Node) (f : Fragment) : Prop :=
  ∃ k m, Node.Occurs d node k m ∧ Stems k m f

/-- The fragment stems from a node in one of the trees. -/
def StemsBelow (d : Nat) (nodes : List Node) (f : Fragment) : Prop :=
  ∃ c ∈ nodes, StemsIn d c f

/-- Whether the fragment is code that has nothing to do with contexts or the escaper. -/
def Fragment.Plain (f : Fragment) : Prop :=
  ∃ text, f = .other text

section

variable {n d : Nat} {node : Node} {nodes : List Node} {f : Fragment}

/-- What stems from a node stems from the tree below it. -/
theorem Stems.stemsIn (h : Stems d node f) : StemsIn d node f :=
  ⟨d, node, .here d node, h⟩

/-- Plain code can stem from any tree. -/
theorem Fragment.Plain.stemsIn (h : f.Plain) : StemsIn d node f := by
  obtain ⟨text, rfl⟩ := h
  exact (Stems.other text).stemsIn

/-- What stems from the children, one level in, stems from the tree. -/
theorem StemsBelow.stemsIn (h : StemsBelow (node.inside d) node.children f) :
    StemsIn d node f := by
  obtain ⟨c, hc, k, m, hoccurs, hstems⟩ := h
  exact ⟨k, m, .inner hc hoccurs, hstems⟩

/-- What stems from some trees stems from them and one more. -/
theorem StemsBelow.cons (h : StemsBelow d nodes f) : StemsBelow d (node :: nodes) f := by
  obtain ⟨c, hc, hstems⟩ := h
  exact ⟨c, List.mem_cons_of_mem _ hc, hstems⟩

/-- What stems from a tree stems from a list that starts with it. -/
theorem StemsIn.stemsBelow (h : StemsIn d node f) : StemsBelow d (node :: nodes) f :=
  ⟨node, List.mem_cons_self, h⟩

/-- Code that has nothing to do with contexts is plain. -/
theorem plain_other {text : Text} : ∀ f ∈ [(n, Fragment.other text)], f.2.Plain := by
  intro f hf
  rw [List.mem_singleton.1 hf]
  exact ⟨text, rfl⟩

/-- The note of a content block is plain. -/
theorem plain_noteFragments (note? : Option Nat) : ∀ f ∈ noteFragments n note?, f.2.Plain := by
  cases note? with
  | none => exact List.forall_mem_nil _
  | some number => exact plain_other

/-- The note of a node is plain. -/
theorem plain_noteStatements (o : Options) (number : Nat) :
    ∀ f ∈ fragmentsAll n (noteStatements o number), f.2.Plain := by
  unfold noteStatements
  split
  · exact plain_other
  · exact List.forall_mem_nil _

/-- Writing a text is plain. -/
theorem plain_writeStatements (t : Text) :
    ∀ f ∈ fragmentsAll n (writeStatements t), f.2.Plain := by
  unfold writeStatements
  split
  · exact List.forall_mem_nil _
  · exact plain_other

/-- A node is noted before its statements, and the note is of no matter. -/
theorem stemsIn_noted (o : Options) (number : Nat) {ss : List Statement}
    (h : ∀ f ∈ fragmentsAll n ss, StemsIn d node f.2) :
    ∀ f ∈ fragmentsAll n (noteStatements o number ++ ss), StemsIn d node f.2 := by
  intro f hf
  rw [fragmentsAll_append] at hf
  rcases List.mem_append.1 hf with hf | hf
  · exact (plain_noteStatements o number f hf).stemsIn
  · exact h f hf

/-- What a statement's fragments stem from, they stem from in a list of one too. -/
theorem stemsIn_single {s : Statement} (h : ∀ f ∈ fragments n s, StemsIn d node f.2) :
    ∀ f ∈ fragmentsAll n [s], StemsIn d node f.2 := by
  rwa [fragmentsAll_single]

/-- A statement that opens and closes a block adds two plain lines to what stands in the block. -/
theorem stemsIn_enclosed {fs : Fragments} (opening closing : Text)
    (h : ∀ f ∈ fs, StemsIn d node f.2) :
    ∀ f ∈ (n, .other opening) :: (fs ++ [(n, .other closing)]), StemsIn d node f.2 := by
  intro f hf
  rw [List.mem_cons, List.mem_append, List.mem_singleton] at hf
  rcases hf with rfl | hf | rfl
  · exact (Stems.other opening).stemsIn
  · exact h f hf
  · exact (Stems.other closing).stemsIn

end

mutual

/-- Every fragment of the code for a node stems from a node in its tree. -/
theorem stems_ofNode (o : Options) (n d : Nat) (node : Node) :
    ∀ f ∈ fragmentsAll n (ofNode o d node), StemsIn d node f.2 := by
  match node with
  | ⟨kind, token?, children⟩ =>
    cases kind with
    | root | slot name | otherwise =>
      rw [ofNode]
      refine stemsIn_noted o _ fun f hf => ?_
      exact StemsBelow.stemsIn (stems_ofNodes o n d children f hf)
    | literal =>
      rw [ofNode]
      exact stemsIn_noted o _ fun f hf => (plain_writeStatements _ f hf).stemsIn
    | verbatimText =>
      rw [ofNode]
      exact stemsIn_noted o _ (List.forall_mem_nil _)
    | verbatim block =>
      cases block with
      | function =>
        rw [ofNode]
        exact stemsIn_noted o _ (List.forall_mem_nil _)
      | text =>
        rw [ofNode]
        exact stemsIn_noted o _ fun f hf => (plain_writeStatements _ f hf).stemsIn
      | code =>
        rw [ofNode]
        exact stemsIn_noted o _ (stemsIn_single fun f hf => (plain_other f hf).stemsIn)
    | display how =>
      rw [ofNode]
      refine stemsIn_noted o _ (stemsIn_single fun f hf => ?_)
      rw [List.mem_singleton.1 hf]
      exact (Stems.displayed how rfl).stemsIn
    | inclusion callee =>
      rw [ofNode]
      refine stemsIn_noted o _ (stemsIn_single fun f hf => ?_)
      rw [List.mem_singleton.1 hf]
      exact (Stems.included callee rfl).stemsIn
    | yield name =>
      rw [ofNode]
      refine stemsIn_noted o _ (stemsIn_single fun f hf => ?_)
      rw [List.mem_singleton.1 hf]
      exact (Stems.yielded name rfl).stemsIn
    | condition =>
      rw [ofNode]
      refine stemsIn_noted o _ (stemsIn_single (stemsIn_enclosed _ _ fun f hf => ?_))
      rcases stems_ofBranches o n d children f hf with hplain | hstems
      · exact hplain.stemsIn
      · exact StemsBelow.stemsIn hstems
    | loop head =>
      rw [ofNode]
      refine stemsIn_noted o _ (stemsIn_single (stemsIn_enclosed _ _ fun f hf => ?_))
      exact StemsBelow.stemsIn (stems_ofNodes o (n + 1) d children f hf)
    | extension callee =>
      rw [ofNode]
      refine stemsIn_noted o _ (stemsIn_single fun f hf => ?_)
      rw [fragments, List.mem_cons, List.mem_cons, List.mem_append, List.mem_pair] at hf
      rcases hf with rfl | rfl | hf | rfl | rfl
      · exact (Stems.other _).stemsIn
      · exact (Stems.child callee rfl).stemsIn
      · rcases stems_ofSlots o (n + 1) (d + 1) children f hf with hplain | ⟨name, hname⟩ | hstems
        · exact hplain.stemsIn
        · rw [hname]
          exact (Stems.callback callee rfl name).stemsIn
        · exact StemsBelow.stemsIn hstems
      · exact (Stems.extended callee rfl).stemsIn
      · exact (Stems.other _).stemsIn

/-- Every fragment of the code for several nodes stems from one of their trees. -/
theorem stems_ofNodes (o : Options) (n d : Nat) (nodes : List Node) :
    ∀ f ∈ fragmentsAll n (ofNodes o d nodes), StemsBelow d nodes f.2 := by
  match nodes with
  | [] => exact List.forall_mem_nil _
  | node :: nodes =>
    intro f hf
    rw [ofNodes, fragmentsAll_append] at hf
    rcases List.mem_append.1 hf with hf | hf
    · exact (stems_ofNode o n d node f hf).stemsBelow
    · exact (stems_ofNodes o n d nodes f hf).cons

/-- Every fragment of the branches of a condition stems from one of their trees, but for the lines
between them. -/
theorem stems_ofBranches (o : Options) (n d : Nat) (nodes : List Node) :
    ∀ f ∈ branchFragments n (ofBranches o d nodes), f.2.Plain ∨ StemsBelow d nodes f.2 := by
  match nodes with
  | [] => exact List.forall_mem_nil _
  | node :: nodes =>
    intro f hf
    rw [branchFragments_cons, List.mem_append, List.mem_append] at hf
    rcases hf with hf | hf | hf
    · split at hf
      · exact .inl (plain_other f hf)
      · cases hf
    · exact .inr (stems_ofNode o (n + 1) d node f hf).stemsBelow
    · rcases stems_ofBranches o n d nodes f hf with hplain | hstems
      · exact .inl hplain
      · exact .inr hstems.cons

/-- Every fragment of the content blocks of a layer stems from one of their trees, or binds a block
to the layer, or is plain. -/
theorem stems_ofSlots (o : Options) (n d : Nat) (nodes : List Node) :
    ∀ f ∈ fragmentsSlots n (layerName d) (ofSlots o d nodes),
      f.2.Plain ∨ (∃ name, f.2 = .callback (layerName d) (layerName d) name) ∨
        StemsBelow d nodes f.2 := by
  match nodes with
  | [] => exact List.forall_mem_nil _
  | node :: nodes =>
    intro f hf
    rw [ofSlots, fragmentsSlots_append] at hf
    rcases List.mem_append.1 hf with hf | hf
    · rcases stems_ofSlot o n d node f hf with hplain | hname | hstems
      · exact .inl hplain
      · exact .inr (.inl hname)
      · exact .inr (.inr hstems.stemsBelow)
    · rcases stems_ofSlots o n d nodes f hf with hplain | hname | hstems
      · exact .inl hplain
      · exact .inr (.inl hname)
      · exact .inr (.inr hstems.cons)

/-- Every fragment of one content block stems from its tree, or binds it to the layer, or is
plain. -/
theorem stems_ofSlot (o : Options) (n d : Nat) (node : Node) :
    ∀ f ∈ fragmentsSlots n (layerName d) (ofSlot o d node),
      f.2.Plain ∨ (∃ name, f.2 = .callback (layerName d) (layerName d) name) ∨
        StemsIn d node f.2 := by
  match node with
  | ⟨kind, token?, children⟩ =>
    cases kind with
    | slot name =>
      intro f hf
      rw [ofSlot, fragmentsSlots, fragmentsSlots, List.append_nil, fragmentsSlot, List.mem_append,
        List.mem_cons, List.mem_append, List.mem_pair] at hf
      rcases hf with hf | rfl | hf | rfl | rfl
      · exact .inl (plain_noteFragments _ f hf)
      · exact .inr (.inl ⟨name, rfl⟩)
      · exact .inr (.inr (StemsBelow.stemsIn (stems_ofNodes o (n + 1) d children f hf)))
      · exact .inl ⟨_, rfl⟩
      · exact .inl ⟨_, rfl⟩
    | _ => exact List.forall_mem_nil _

end

/-! ## Nothing is passed over -/

section

variable {fs : Fragments}

/-- A part of the code for some statements is a part of it behind a note. -/
theorem infix_noted (o : Options) (n number : Nat) {ss : List Statement}
    (h : fs <:+: fragmentsAll n ss) :
    fs <:+: fragmentsAll n (noteStatements o number ++ ss) := by
  rw [fragmentsAll_append]
  exact List.infix_append_of_infix_right h

/-- A part of the code for a statement is a part of the code for it alone. -/
theorem infix_single {n : Nat} {s : Statement} (h : fs <:+: fragments n s) :
    fs <:+: fragmentsAll n [s] := by
  rwa [fragmentsAll_single]

/-- The code for a node is a part of the code for a list that has it. -/
theorem infix_ofNodes (o : Options) (n d : Nat) {c : Node} {nodes : List Node} (hc : c ∈ nodes) :
    fragmentsAll n (ofNode o d c) <:+: fragmentsAll n (ofNodes o d nodes) := by
  induction nodes with
  | nil => cases hc
  | cons node nodes ih =>
    rw [ofNodes, fragmentsAll_append]
    rcases List.mem_cons.1 hc with rfl | hc
    · exact List.infix_append_left
    · exact List.infix_append_of_infix_right (ih hc)

/-- The code for a node is a part of the branches that it stands in. -/
theorem infix_ofBranches (o : Options) (n d : Nat) {c : Node} {nodes : List Node} (hc : c ∈ nodes) :
    fragmentsAll (n + 1) (ofNode o d c) <:+: branchFragments n (ofBranches o d nodes) := by
  induction nodes with
  | nil => cases hc
  | cons node nodes ih =>
    rw [branchFragments_cons]
    apply List.infix_append_of_infix_right
    rcases List.mem_cons.1 hc with rfl | hc
    · exact List.infix_append_left
    · exact List.infix_append_of_infix_right (ih hc)

/-- The code in a content block is a part of the code for the blocks. -/
theorem infix_ofSlots (o : Options) (n d : Nat) (layer : Text) {c : Node} {nodes : List Node}
    {name : Text} (hc : c ∈ nodes) (hslot : c.kind = .slot name) :
    fragmentsAll (n + 1) (ofNodes o d c.children) <:+:
      fragmentsSlots n layer (ofSlots o d nodes) := by
  induction nodes with
  | nil => cases hc
  | cons node nodes ih =>
    rw [ofSlots, fragmentsSlots_append]
    rcases List.mem_cons.1 hc with rfl | hc
    · obtain ⟨kind, token?, children⟩ := c
      cases hslot
      apply List.infix_append_of_infix_left
      rw [ofSlot, fragmentsSlots, fragmentsSlots, List.append_nil, fragmentsSlot]
      exact List.infix_append_of_infix_right (List.infix_cons List.infix_append_left)
    · exact List.infix_append_of_infix_right (ih hc)

end

/-- In a tree in shape, the code for a node that stands for a statement is a part of the code for
the whole tree. The root and content blocks are entered without any code of their own. -/
theorem infix_of_occurs (o : Options) {d k : Nat} {node m : Node} (h : Node.Occurs d node k m)
    (hshaped : ∀ x ∈ node.nodes, x.Shaped) (hm : m.kind.isStatement = true) :
    (∀ n, ∃ n', fragmentsAll n' (ofNode o k m) <:+: fragmentsAll n (ofNode o d node)) ∧
      (node.kind = .root ∨ (∃ name, node.kind = .slot name) → ∀ n, ∃ n',
        fragmentsAll n' (ofNode o k m) <:+: fragmentsAll n (ofNodes o d node.children)) := by
  induction h with
  | here d node =>
    refine ⟨fun n => ⟨n, List.infix_rfl⟩, ?_⟩
    rintro (hroot | ⟨name, hslot⟩)
    · rw [hroot] at hm
      cases hm
    · rw [hslot] at hm
      cases hm
  | @inner d k node c m hc h ih =>
    have hnode := hshaped node node.self_mem_nodes
    have hholds := hnode.holds c hc
    have hshapedc : ∀ x ∈ c.nodes, x.Shaped := fun x hx => hshaped x (Node.nodes_of_mem hc hx)
    obtain ⟨hnodec, hinnerc⟩ := ih hshapedc hm
    obtain ⟨kind, token?, children⟩ := node
    -- What is in the code of a child is in the code of all children.
    have hall (hd : Node.inside ⟨kind, token?, children⟩ d = d) (n : Nat) :
        ∃ n', fragmentsAll n' (ofNode o k m) <:+: fragmentsAll n (ofNodes o d children) := by
      rw [hd] at hnodec
      obtain ⟨n', hpart⟩ := hnodec n
      exact ⟨n', hpart.trans (infix_ofNodes o n d hc)⟩
    cases kind with
    | root | slot name | otherwise =>
      refine ⟨fun n => ?_, fun _ => hall rfl⟩
      obtain ⟨n', hpart⟩ := hall rfl n
      rw [ofNode]
      exact ⟨n', infix_noted o n _ hpart⟩
    | loop head =>
      refine ⟨fun n => ?_, by simp⟩
      obtain ⟨n', hpart⟩ := hall rfl (n + 1)
      rw [ofNode]
      refine ⟨n', infix_noted o n _ (infix_single ?_)⟩
      exact List.infix_cons (List.infix_append_of_infix_left hpart)
    | condition =>
      refine ⟨fun n => ?_, by simp⟩
      obtain ⟨n', hpart⟩ := hnodec (n + 1)
      rw [ofNode]
      have hbranches := hpart.trans (infix_ofBranches o n d hc)
      refine ⟨n', infix_noted o n _ (infix_single ?_)⟩
      exact List.infix_cons (List.infix_append_of_infix_left hbranches)
    | extension callee =>
      obtain ⟨name, hslot⟩ := hholds
      refine ⟨fun n => ?_, by simp⟩
      obtain ⟨n', hpart⟩ := hinnerc (.inr ⟨name, hslot⟩) (n + 2)
      have hslots := infix_ofSlots o (n + 1) (d + 1) (layerName (d + 1)) hc hslot
      rw [ofNode]
      refine ⟨n', infix_noted o n _ (infix_single (List.infix_cons (List.infix_cons ?_)))⟩
      exact List.infix_append_of_infix_left (hpart.trans hslots)
    | verbatim block =>
      -- The text of a verbatim block has no children and is no statement.
      have hkind : c.kind = .verbatimText := hholds
      have hchildless : c.children = [] := by
        refine List.eq_nil_iff_forall_not_mem.2 fun x hx => ?_
        have hx := (hshapedc c c.self_mem_nodes).holds x hx
        rw [hkind] at hx
        exact hx
      rw [h.eq_of_childless hchildless, hkind] at hm
      cases hm
    | literal | verbatimText | display _ | inclusion _ | yield _ => exact hholds.elim

end Code

end Stencil
