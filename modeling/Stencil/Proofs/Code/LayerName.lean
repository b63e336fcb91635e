import Stencil.Proofs.Code.Fragment
import Stencil.Proofs.Text.Line

/-!
# The names of layers

Each extension binds a variable of its own to the layer that it calls its template on, and the
bodies of its content blocks stand inside of that binding. A body that meant another layer by the
same name would be bound to the wrong template, and the code would still compile. The number in the
name is that of the extensions around, so inside of a body all names have greater numbers
(`Fragment.Above`), and what is not a layer of its own is done on the context of the function. -/

set_option autoImplicit false

namespace Stencil

namespace Code

/-- Layers of different numbers have different names. -/
theorem layerName_injective {i j : Nat} (h : layerName i = layerName j) : i = j :=
  Text.ofNat_injective (List.append_cancel_left h)

/-- No layer has the name of the context of the function. -/
theorem layerName_ne_ctx (i : Nat) : layerName i ≠ "ctx" := by
  intro h
  have hmark : (layerName i)[3]? = some '_' := rfl
  rw [h] at hmark
  cases hmark

/-- Whether a fragment uses no layers but those that are numbered above `d`: it makes a layer from
the context of the function, adds content blocks to a layer and passes it on under one and the same
name, and includes and yields on the context of the function. -/
def Fragment.Above (d : Nat) : Fragment → Prop
  | child layer base => base = "ctx" ∧ ∃ j, d < j ∧ layer = layerName j
  | callback layer base _ => base = layer ∧ ∃ j, d < j ∧ layer = layerName j
  | extended _ context => ∃ j, d < j ∧ context = "&" ++ layerName j
  | included _ context => context = "ctx"
  | yielded context _ => context = "ctx"
  | displayed _ _ | escaper _ | declared _ | other _ => True

/-- What stems from a node uses the layers above those around it alone. -/
theorem Stems.above {d k : Nat} {m : Node} {f : Fragment} (h : Stems k m f) (hle : d ≤ k) :
    f.Above d := by
  have hlt : d < k + 1 := by omega
  cases h with
  | displayed _ _ | other _ => trivial
  | included _ _ | yielded _ _ => rfl
  | child _ _ => exact ⟨rfl, k + 1, hlt, rfl⟩
  | callback _ _ _ => exact ⟨rfl, k + 1, hlt, rfl⟩
  | extended _ _ => exact ⟨k + 1, hlt, rfl⟩

/-- The code for nodes with `d` extensions around them uses the layers above `d` alone. -/
theorem above_ofNodes (o : Options) (n d : Nat) (nodes : List Node) :
    ∀ f ∈ fragmentsAll n (ofNodes o d nodes), f.2.Above d := by
  intro f hf
  obtain ⟨c, hc, k, m, hoccurs, hstems⟩ := stems_ofNodes o n d nodes f hf
  exact hstems.above hoccurs.le

/-! ## The block of an extension -/

/-- The fragments that bind a content block to the layer with the number `d`. -/
def slotBlock (o : Options) (n d : Nat) : Node → Fragments
  | ⟨.slot name, token?, children⟩ =>
    let node : Node := ⟨.slot name, token?, children⟩
    noteFragments n (if o.lineNumbers then some node.line else none) ++
      (n, .callback (layerName d) (layerName d) name) ::
        (fragmentsAll (n + 1) (ofNodes o d children) ++
          [(n + 1, .other (line (n + 1) "Ok(())")), (n, .other (line n "\x7d);"))])
  | _ => []

/-- The fragments of an extension with `k` extensions around it: it makes a layer, binds its content
blocks to it one after another, and calls the template on it. -/
def layerBlock (o : Options) (n k : Nat) (callee : Call) (slots : List Node) : Fragments :=
  (n, .other (line n "\x7b")) :: (n + 1, .child (layerName (k + 1)) "ctx") ::
    (slots.flatMap (slotBlock o (n + 1) (k + 1)) ++
      [(n + 1, .extended callee ("&" ++ layerName (k + 1))), (n, .other (line n "\x7d"))])

/-- The content blocks of an extension are bound one after another. -/
theorem fragmentsSlots_ofSlots (o : Options) (n d : Nat) (nodes : List Node) :
    fragmentsSlots n (layerName d) (ofSlots o d nodes) = nodes.flatMap (slotBlock o n d) := by
  have hslot (node : Node) :
      fragmentsSlots n (layerName d) (ofSlot o d node) = slotBlock o n d node := by
    obtain ⟨kind, token?, children⟩ := node
    cases kind with
    | slot name =>
      rw [ofSlot, fragmentsSlots, fragmentsSlots, List.append_nil, fragmentsSlot]
      rfl
    | _ => rfl
  induction nodes with
  | nil => rfl
  | cons node nodes ih => rw [ofSlots, fragmentsSlots_append, hslot, ih, List.flatMap_cons]

/-- The code for an extension ends with its block; only a note can stand before it. -/
theorem layerBlock_suffix (o : Options) (n k : Nat) {node : Node} {callee : Call}
    (h : node.kind = .extension callee) :
    layerBlock o n k callee node.children <:+ fragmentsAll n (ofNode o k node) := by
  obtain ⟨kind, token?, children⟩ := node
  cases h
  rw [ofNode, fragmentsAll_append, fragmentsAll_single, fragments, fragmentsSlots_ofSlots]
  exact List.suffix_append _ _

/-- The statements of a document are a part of its code. -/
theorem infix_bodyFragments (t : Template) (o : Options) (doc : Document) :
    bodyFragments o doc <:+: documentFragments t o doc :=
  List.infix_cons (List.infix_append_of_infix_left List.infix_append_right)

end Code

/-- In the code of a source without problems, an extension with `k` others around it makes the layer
`k + 1` from the context of the function, binds each of its content blocks to this layer, in order,
and calls its template on it. Inside of the content blocks all layers have greater numbers, and
includes, yields and new layers refer to the context of the function. A layer is named `ctx_l` and
its number; layers with different numbers have different names, and none of them is the name of that
context. What a fragment does is spelled out by `Code.Fragment.text`. -/
theorem layer_names_never_alias [Alphabet] (t : Template) (o : Options) (source : Text)
    (h : (Document.parse source).hasErrors = false) :
    let doc := Document.parse source
    let code := Code.documentFragments t o doc
    (code.printed = Code.ofDocument t o doc ∧ code.printed = (Code.Writer.walk t o doc).output) ∧
      (∀ i, Code.layerName i = "ctx_l" ++ Nat.toDigits 10 i) ∧
      (∀ i j, Code.layerName i = Code.layerName j → i = j) ∧ (∀ i, Code.layerName i ≠ "ctx") ∧
      ∀ k node callee, Node.Occurs 0 doc.root k node → node.kind = .extension callee →
        (∀ slot ∈ node.children, ∃ name, slot.kind = .slot name) ∧
          (∃ n, Code.layerBlock o n k callee node.children <:+: code) ∧
          ∀ slot ∈ node.children, ∀ n,
            ∀ f ∈ Code.fragmentsAll n (Code.ofNodes o (k + 1) slot.children),
              f.2.Above (k + 1) := by
  intro doc code
  have hprinted : code.printed = Code.ofDocument t o doc := Code.printed_documentFragments t o h
  have hwalk : (Code.Writer.walk t o doc).output = Code.ofDocument t o doc := by
    rw [(Code.walk_eq t o doc).1]
  obtain ⟨hroot, -, hshaped, -⟩ := Draft.sound_parse source
  refine ⟨⟨hprinted, hprinted.trans hwalk.symm⟩, fun _ => rfl, ?_, Code.layerName_ne_ctx, ?_⟩
  · intro i j hname
    exact Code.layerName_injective hname
  · intro k node callee hoccurs hkind
    have hstatement : node.kind.isStatement = true := by
      rw [hkind]
      rfl
    refine ⟨?_, ?_, ?_⟩
    · intro slot hslot
      have hholds := (hshaped node hoccurs.mem_nodes).holds slot hslot
      rw [hkind] at hholds
      exact hholds
    · obtain ⟨n, hpart⟩ :=
        (Code.infix_of_occurs o hoccurs hshaped hstatement).2 (.inl hroot) 2
      refine ⟨n, (Code.layerBlock_suffix o n k hkind).isInfix.trans ?_⟩
      exact hpart.trans (Code.infix_bodyFragments t o doc)
    · intro slot hslot n
      exact Code.above_ofNodes o n (k + 1) slot.children

/-- An extension under a condition in a content block of another extension, with an inclusion and a
place of its own in its content block. -/
theorem layer_of_inner_extension :
    let source : Text := "@extend outer\n@content a\n@if x\n@extend inner\n@content b\n" ++
      "@include c x, 1\n@yield d\n@end\n@end\n@end\n@end\n@end"
    let t : Template := .named "page" []
    let doc := Document.parse source
    doc.hasErrors = false ∧
      ∃ node, Node.Occurs 0 doc.root 1 node ∧ node.kind = .extension ⟨"inner", none⟩ ∧
        (∃ n, Code.layerBlock {} n 1 ⟨"inner", none⟩ node.children <:+:
          Code.documentFragments t {} doc) ∧
        ("                    \x7b\n                        let ctx_l2 = ctx.child();\n" ++
          "                        let ctx_l2 = ctx_l2.with_callback(\"b\", " ++
          "|out: &mut dyn Write| -> runtime::Result<()> \x7b\n" ++
          "                            render_c(x, 1, ctx, out)?;\n" ++
          "                            runtime::call_context_callback(ctx, \"d\", out)?;\n" ++
          "                            Ok(())\n                        \x7d);\n" ++
          "                        render_inner(&ctx_l2, out)?;\n" ++
          "                    \x7d\n" : Text) <:+: Code.ofDocument t {} doc := by
  intro source t doc
  have hfine : doc.hasErrors = false := by decide +kernel
  have hpath : (doc.root.children.any fun outer =>
      outer.kind = .extension ⟨"outer", none⟩ && outer.children.any fun slot =>
        slot.kind = .slot "a" && slot.children.any fun test =>
          test.kind = .condition && test.children.any fun inner =>
            inner.kind = .extension ⟨"inner", none⟩) = true := by
    decide +kernel
  simp only [List.any_eq_true, Bool.and_eq_true, decide_eq_true_eq] at hpath
  obtain ⟨outer, houter, hkind, slot, hslot, hskind, test, htest, htkind, node, hnode, hnkind⟩ :=
    hpath
  obtain ⟨hroot, -⟩ := Draft.sound_parse source
  have hoccurs : Node.Occurs 0 doc.root 1 node := by
    refine .inner houter ?_
    rw [Node.inside_of_other (by simp [doc, hroot])]
    refine .inner hslot ?_
    rw [Node.inside_of_extension hkind]
    refine .inner htest ?_
    rw [Node.inside_of_other (by simp [hskind])]
    refine .inner hnode ?_
    rw [Node.inside_of_other (by simp [htkind])]
    exact .here 1 node
  obtain ⟨-, -, -, -, hblocks⟩ := layer_names_never_alias t {} source hfine
  exact ⟨hfine, node, hoccurs, hnkind, (hblocks 1 node _ hoccurs hnkind).2.1, by decide +kernel⟩

end Stencil
