import Stencil.Proofs.Code.Fragment

/-!
# Where the escaper is bound

Whether the escaper is looked up is decided by a search of the whole tree, before any statement is
generated (`Node.usesEscaper`). The statements come from another walk, which passes over some nodes:
those below an extension that are no content blocks, and those below nodes that are written without
their children. So an escaper that is used is always bound, and the other way round only if the tree
is in shape, as that of every source is.
-/

set_option autoImplicit false

namespace Stencil

namespace Node

/-- Some of the nodes use the escaper exactly when one of them does. -/
theorem anyUsesEscaper_iff (nodes : List Node) :
    anyUsesEscaper nodes = true ↔ ∃ c ∈ nodes, c.usesEscaper = true := by
  induction nodes with
  | nil => simp [anyUsesEscaper]
  | cons node nodes ih => simp [anyUsesEscaper, ih]

/-- A node uses the escaper if it displays with it or if a child uses it. -/
theorem usesEscaper_iff (n : Node) :
    n.usesEscaper = true ↔
      n.kind = .display .escaped ∨ ∃ c ∈ n.children, c.usesEscaper = true := by
  obtain ⟨kind, token?, children⟩ := n
  rw [usesEscaper, Bool.or_eq_true, decide_eq_true_eq, anyUsesEscaper_iff]

/-- An escaped display anywhere in the tree makes the tree use the escaper. -/
theorem Occurs.usesEscaper {d k : Nat} {n m : Node} (h : Occurs d n k m)
    (hm : m.kind = .display .escaped) : n.usesEscaper = true := by
  induction h with
  | here d n => exact n.usesEscaper_iff.2 (.inl hm)
  | @inner d k n c m hc h ih => exact n.usesEscaper_iff.2 (.inr ⟨c, hc, ih hm⟩)

/-- The search finds a node. -/
theorem exists_of_usesEscaper (d : Nat) (n : Node) (h : n.usesEscaper = true) :
    ∃ k m, Occurs d n k m ∧ m.kind = .display .escaped := by
  rcases n.usesEscaper_iff.1 h with hkind | ⟨c, hc, huses⟩
  · exact ⟨d, n, .here d n, hkind⟩
  · obtain ⟨k, m, hoccurs, hkind⟩ := exists_of_usesEscaper (n.inside d) c huses
    exact ⟨k, m, .inner hc hoccurs, hkind⟩
termination_by sizeOf n
decreasing_by
  have hlt := List.sizeOf_lt_of_mem hc
  obtain ⟨kind, token?, children⟩ := n
  simp only [mk.sizeOf_spec]
  simp only at hlt
  omega

end Node

namespace Code

/-- Whether one of the fragments displays an expression by means of the escaper: it is a statement
that calls `runtime::write_escaped` on the escaper. -/
def Fragments.Escape (fs : Fragments) : Prop :=
  ∃ n how expression, (n, .displayed how expression) ∈ fs ∧
    (Fragment.displayed how expression).text n = List.replicate (4 * n) ' ' ++
      ("runtime::write_escaped(out, &(" ++ expression ++ "), escaper)?;") ++ ['\n']

/-- Only what is to be escaped is displayed by means of the escaper: the statements differ in the
sixteenth character. -/
theorem escaped_of_text {n : Nat} {how : Display} {expression : Text}
    (h : (Fragment.displayed how expression).text n = List.replicate (4 * n) ' ' ++
      ("runtime::write_escaped(out, &(" ++ expression ++ "), escaper)?;") ++ ['\n']) :
    how = .escaped := by
  rw [Fragment.text_displayed, line, indentation] at h
  have hcode := List.append_cancel_left (List.append_cancel_right h)
  have hmark : (displayCode how expression)[15]? = some 'e' := by
    rw [hcode]
    rfl
  cases how with
  | escaped => rfl
  | raw | bool | int | int64 => cases hmark

/-- Where a statement escapes, the tree that it was made from uses the escaper. -/
theorem usesEscaper_of_escape (o : Options) (n d : Nat) (root : Node)
    (h : (fragmentsAll n (ofNodes o d root.children)).Escape) : root.usesEscaper = true := by
  obtain ⟨l, how, expression, hf, htext⟩ := h
  obtain ⟨c, hc, k, m, hoccurs, hstems⟩ := stems_ofNodes o n d root.children _ hf
  have hkind : m.kind = .display .escaped := by
    cases hstems with
    | displayed _ hm => rw [hm, escaped_of_text htext]
  exact root.usesEscaper_iff.2 (.inr ⟨c, hc, hoccurs.usesEscaper hkind⟩)

/-- A tree in shape that uses the escaper has a statement that escapes. -/
theorem escape_of_usesEscaper (o : Options) (n d : Nat) {root : Node} (hroot : root.kind = .root)
    (hshaped : ∀ m ∈ root.nodes, m.Shaped) (h : root.usesEscaper = true) :
    (fragmentsAll n (ofNodes o d root.children)).Escape := by
  obtain ⟨k, m, hoccurs, hkind⟩ := Node.exists_of_usesEscaper d root h
  have hstatement : m.kind.isStatement = true := by
    rw [hkind]
    rfl
  obtain ⟨l, hpart⟩ := (infix_of_occurs o hoccurs hshaped hstatement).2 (.inl hroot) n
  refine ⟨l, .escaped, m.text, hpart.subset ?_, rfl⟩
  obtain ⟨kind, token?, children⟩ := m
  cases hkind
  rw [ofNode, fragmentsAll_append, fragmentsAll_single]
  exact List.mem_append_right _ List.mem_cons_self

/-- What stands below an extension and is no content block is searched but not generated. -/
example :
    let stray : Node := ⟨.display .escaped, none, []⟩
    let root : Node := ⟨.root, none, [⟨.extension ⟨"page", none⟩, none, [stray]⟩]⟩
    root.usesEscaper = true ∧ ofNodes {} 0 root.children = [.layer 1 [] ⟨"page", none⟩] :=
  ⟨by decide, rfl⟩

/-- No statement binds the escaper. -/
theorem escaper_not_mem_ofNodes (o : Options) (n d : Nat) (nodes : List Node) (l : Nat)
    (fileType : Text) : (l, .escaper fileType) ∉ fragmentsAll n (ofNodes o d nodes) := by
  intro hf
  obtain ⟨c, hc, k, m, hoccurs, hstems⟩ := stems_ofNodes o n d nodes _ hf
  cases hstems

/-- The escaper is only looked up for a tree that uses it. -/
theorem usesEscaper_of_mem {t : Template} {o : Options} {doc : Document} {n : Nat}
    {fileType : Text} (h : (n, .escaper fileType) ∈ documentFragments t o doc) :
    doc.root.usesEscaper = true := by
  by_contra huses
  have hnone : escaperFragments t.fileType doc.root = [] := if_neg huses
  simp [documentFragments, hnone, bodyFragments, escaper_not_mem_ofNodes] at h

/-- For a tree that uses it, the escaper is looked up before anything else is done. -/
theorem documentFragments_of_usesEscaper (t : Template) (o : Options) {doc : Document}
    (h : doc.root.usesEscaper = true) :
    documentFragments t o doc =
      (0, .other (front t o doc.declarations ++ guardLine t)) :: (2, .escaper t.fileType) ::
        ((doc.declarations.contexts.map fun v => (2, .declared v)) ++ bodyFragments o doc ++
          [(0, .other codeEnd)]) := by
  rw [documentFragments, escaperFragments, if_pos h]
  rfl

end Code

/-- If a statement of the code of a document without problems escapes what it displays, then the
escaper is bound, before all declarations of context variables and all statements. For the document
of a source the escaper is bound only then. -/
theorem escaper_bound_iff_used [Alphabet] (t : Template) (o : Options) (doc : Document)
    (h : doc.hasErrors = false) :
    let code := Code.documentFragments t o doc
    let declarations : Code.Fragments := doc.declarations.contexts.map fun v => (2, .declared v)
    let statements := Code.fragmentsAll 2 (Code.ofNodes o 0 doc.root.children)
    code.printed = Code.ofDocument t o doc ∧
      (statements.Escape →
        code = (0, .other (Code.front t o doc.declarations ++ Code.guardLine t)) ::
          (2, .escaper t.fileType) :: (declarations ++ statements ++ [(0, .other Code.codeEnd)])) ∧
      ∀ source, doc = Document.parse source →
        ∀ n fileType, (n, .escaper fileType) ∈ code → statements.Escape := by
  intro code declarations statements
  refine ⟨Code.printed_documentFragments t o h, ?_, ?_⟩
  · intro hescape
    have huses := Code.usesEscaper_of_escape o 2 0 doc.root hescape
    exact Code.documentFragments_of_usesEscaper t o huses
  · rintro source rfl n fileType hmem
    obtain ⟨hroot, -, hshaped, -⟩ := Draft.sound_parse source
    have huses := Code.usesEscaper_of_mem hmem
    exact Code.escape_of_usesEscaper o 2 0 hroot hshaped huses

/-- A page with a context variable that displays an expression in a content block. -/
theorem escaper_bound_for_content_block :
    let source : Text := "@context n u32\n@extend page\n@content a\n@= n @\n@end\n@end"
    let t : Template := .named "index" []
    let doc := Document.parse source
    let statements := Code.fragmentsAll 2 (Code.ofNodes {} 0 doc.root.children)
    doc.hasErrors = false ∧ statements.Escape ∧
      Code.documentFragments t {} doc =
        (0, .other (Code.front t {} doc.declarations ++ Code.guardLine t)) ::
          (2, .escaper t.fileType) :: ((doc.declarations.contexts.map fun v => (2, .declared v)) ++
            statements ++ [(0, .other Code.codeEnd)]) ∧
      ("        let escaper = runtime::escaper_for(\"text\")?;\n" ++
        "        let n = ctx.value::<u32>(\"n\")?;\n        \x7b\n" ++
        "            let ctx_l1 = ctx.child();\n" ++
        "            let ctx_l1 = ctx_l1.with_callback(\"a\", " ++
        "|out: &mut dyn Write| -> runtime::Result<()> \x7b\n" ++
        "                runtime::write_escaped(out, &(n), escaper)?;\n" : Text) <:+:
        Code.ofDocument t {} doc := by
  intro source t doc statements
  have hfine : doc.hasErrors = false := by decide +kernel
  have huses : doc.root.usesEscaper = true := by decide +kernel
  obtain ⟨-, hbound, hused⟩ := escaper_bound_iff_used t {} doc hfine
  have hmem : (2, .escaper t.fileType) ∈ Code.documentFragments t {} doc := by
    rw [Code.documentFragments_of_usesEscaper t {} huses]
    exact List.mem_cons_of_mem _ List.mem_cons_self
  have hescape := hused source rfl 2 t.fileType hmem
  exact ⟨hfine, hescape, hbound hescape, by decide +kernel⟩

end Stencil
