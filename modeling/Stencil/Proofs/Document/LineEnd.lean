import Stencil.Proofs.Document.Report
import Stencil.Proofs.Token.LineEnd

/-!
# Documents of a source with other line ends

A source without problems says the same if its lines end with a carriage return and a line feed.
Only the text of the page changes, which has the returns in it, and the spans of the tokens.

A draft looks at the sort, the payload and the line of a token, and of text that stands directly
inside of an `@extend` at whether it is blank. The returns change none of these, so that a token and
the one in its place make the same move (`Draft.move_retold`), and the two drafts stay alike
(`Draft.step_retold`).
-/

set_option autoImplicit false

namespace Stencil

/-- Whether a node of this kind stands for text of the page. -/
def NodeKind.isText : NodeKind → Bool
  | .literal | .verbatimText => true
  | _ => false

namespace Node

mutual

/-- The node that is read instead if returns are put into the source. -/
def withReturns (source : Text) : Node → Node
  | ⟨kind, token?, children⟩ =>
    ⟨kind, token?.map (Token.withReturns source kind.isText), withReturnsAll source children⟩

/-- The nodes that are read instead if returns are put into the source. -/
def withReturnsAll (source : Text) : List Node → List Node
  | [] => []
  | n :: ns => withReturns source n :: withReturnsAll source ns

end

/-- Returns are put into each node of a list. -/
theorem withReturnsAll_eq (source : Text) (ns : List Node) :
    withReturnsAll source ns = ns.map (withReturns source) := by
  induction ns with
  | nil => rfl
  | cons n ns ih => rw [withReturnsAll, ih, List.map_cons]

/-- Returns are put into the token of a node, if it is text, and into its children. -/
theorem withReturns_mk (source : Text) (kind : NodeKind) (token? : Option Token)
    (children : List Node) :
    withReturns source ⟨kind, token?, children⟩ =
      ⟨kind, token?.map (Token.withReturns source kind.isText),
        children.map (withReturns source)⟩ := by
  rw [withReturns, withReturnsAll_eq]

/-- Returns do not change the kind of a node. -/
@[simp] theorem kind_withReturns (source : Text) (n : Node) :
    (n.withReturns source).kind = n.kind := by
  obtain ⟨kind, token?, children⟩ := n
  rfl

/-- A leaf with returns is a leaf of the token that is read with returns. -/
theorem withReturns_leaf (source : Text) {kind : NodeKind} {t : Token}
    (h : kind.isText = decide (t.kind = .literal)) :
    (leaf kind t).withReturns source = leaf kind (t.retold source) := by
  rw [leaf, withReturns_mk, h]
  rfl

end Node

section Retelling

variable (source : Text)

/-- What the declarations are if returns are put into the source. -/
def Declarations.withReturns (d : Declarations) : Declarations :=
  { d with functions := d.functions.map (Node.withReturns source) }

/-- What a block is of, if returns are put into the source. -/
def Frame.withReturns : Frame → Frame
  | .otherwise condition? chosen =>
    .otherwise (condition?.map (Token.withReturns source false))
      (chosen.map (Node.withReturns source))
  | frame => frame

/-- The open block that the tokens in place of others lead to. -/
def OpenBlock.withReturns (b : OpenBlock) : OpenBlock :=
  { opener? := b.opener?.map (Token.withReturns source false)
    frame := b.frame.withReturns source
    body := b.body.map (Node.withReturns source) }

/-- The draft that the tokens in place of others lead to. -/
def Draft.withReturns (d : Draft) : Draft :=
  { body := d.body.map (Node.withReturns source)
    blocks := d.blocks.map (OpenBlock.withReturns source)
    declarations := d.declarations.withReturns source
    diagnostics := d.diagnostics }

/-- What a document without problems is if returns are put into its source. -/
def Document.withReturns (doc : Document) : Document :=
  { root := doc.root.withReturns source
    declarations := doc.declarations.withReturns source
    diagnostics := doc.diagnostics }

/-- A draft with returns is a document with returns. -/
theorem Draft.toDocument_withReturns (d : Draft) :
    (d.withReturns source).toDocument = d.toDocument.withReturns source := by
  simp [toDocument, withReturns, Document.withReturns, Node.withReturns_mk]

/-! ## Nodes and blocks -/

/-- Returns make no block verbatim that was not. -/
theorem Frame.withReturns_eq_verbatim_iff {frame : Frame} {v : Verbatim} :
    frame.withReturns source = .verbatim v ↔ frame = .verbatim v := by
  cases frame with
  | otherwise condition? chosen => simp [withReturns]
  | _ => rfl

namespace OpenBlock

/-- A node is added to a block with returns as it is to the block without. -/
theorem withReturns_add (b : OpenBlock) (n : Node) :
    (b.add n).withReturns source = (b.withReturns source).add (n.withReturns source) := by
  obtain ⟨opener, frame, body⟩ := b
  cases frame with
  | extension call? =>
    cases hk : n.kind with
    | slot name => simp [add, withReturns, Frame.withReturns, hk]
    | _ => simp [add, withReturns, Frame.withReturns, hk]
  | _ => simp [add, withReturns, Frame.withReturns]

/-- A block with returns becomes the node with returns. -/
theorem node?_withReturns (b : OpenBlock) :
    (b.withReturns source).node? = b.node?.map (Node.withReturns source) := by
  obtain ⟨opener, frame, body⟩ := b
  simp only [node?, withReturns]
  cases frame with
  | loop head? =>
    cases head? with
    | none => rfl
    | some head => simp [Frame.withReturns, Node.withReturns_mk, NodeKind.isText]
  | extension call? =>
    cases call? with
    | none => rfl
    | some call => simp [Frame.withReturns, Node.withReturns_mk, NodeKind.isText]
  | _ => simp [Frame.withReturns, Node.withReturns_mk, NodeKind.isText]

end OpenBlock

namespace Draft

/-- A node is added to a draft with returns as it is to the draft without. -/
theorem withReturns_add (d : Draft) (n : Node) :
    (d.add n).withReturns source = (d.withReturns source).add (n.withReturns source) := by
  cases hb : d.blocks with
  | nil => simp [add, withReturns, hb]
  | cons b outer => simp [add, withReturns, hb, OpenBlock.withReturns_add]

/-- Where nothing is reported, a draft with returns is closed as the draft without. -/
theorem close_withReturns {d : Draft} (h : closingReports d.blocks = []) :
    (d.withReturns source).close = d.close.withReturns source := by
  cases hb : d.blocks with
  | nil => simp [close, withReturns, hb]
  | cons b outer =>
    have hblocks : (d.withReturns source).blocks =
        b.withReturns source :: outer.map (OpenBlock.withReturns source) := by
      simp [withReturns, hb]
    rcases close_cases hb with
      ⟨hn, hc⟩ | ⟨hf, hroot, hc⟩ | ⟨hf, hout, opener, ho, hc⟩ | ⟨n, hn, hf, hc⟩
    · rw [hc, close_of_none hblocks (by rw [OpenBlock.node?_withReturns, hn]; rfl)]
      rfl
    · have hfunction : (b.withReturns source).frame = .verbatim .function := by
        simp [OpenBlock.withReturns, hf, Frame.withReturns]
      have hroot' : outer.map (OpenBlock.withReturns source) = [] ∨
          (b.withReturns source).opener? = none := by
        simpa [OpenBlock.withReturns] using hroot
      rw [hc, close_of_function hblocks hfunction hroot']
      simp [withReturns, Declarations.withReturns, Node.withReturns_mk, OpenBlock.withReturns,
        NodeKind.isText]
    · -- A function block in another block is reported at its opener, whose span moves.
      rw [hb] at h
      exact absurd (eq_nil_of_closingReports h hf ho) hout
    · have hfunction : (b.withReturns source).frame ≠ .verbatim .function :=
        mt (Frame.withReturns_eq_verbatim_iff source).1 hf
      rw [hc, withReturns_add, close_of_node hblocks (by rw [OpenBlock.node?_withReturns, hn]; rfl)
        hfunction]
      rfl

/-! ## Moves -/

/-- Among statements a token with returns makes the same move. -/
theorem statementMove_retold [Alphabet] (atRoot : Bool) (t : Token) :
    statementMove atRoot (t.retold source) = statementMove atRoot t := by
  by_cases hliteral : t.kind = .literal
  · simp only [statementMove, Token.kind_retold, hliteral]
  · simp only [statementMove, Token.kind_retold, Token.position_retold,
      Token.text_retold source hliteral]

/-- Returns change no name of a content block. -/
theorem slotName_withReturns [Alphabet] (slots : List Node) (name : Text) :
    slotName (slots.map (Node.withReturns source)) name = slotName slots name := by
  simp [slotName, Function.comp_def]

/-- In an `@extend` a token with returns makes the same move. -/
theorem extensionMove_retold [Alphabet] (slots : List Node) (t : Token) :
    extensionMove (slots.map (Node.withReturns source)) (t.retold source) =
      extensionMove slots t := by
  by_cases hliteral : t.kind = .literal
  · simp only [extensionMove, Token.kind_retold, hliteral, Token.allBlank_retold]
  · simp only [extensionMove, Token.kind_retold, Token.text_retold source hliteral,
      slotName_withReturns, statementMove_retold]

/-- In a verbatim block a token with returns makes the same move. -/
theorem verbatimMove_retold (t : Token) : verbatimMove (t.retold source) = verbatimMove t := by
  simp only [verbatimMove, Token.kind_retold]

/-- The token in place of another makes the same move. -/
theorem move_retold [Alphabet] (top? : Option OpenBlock) (t : Token) :
    move (top?.map (OpenBlock.withReturns source)) (t.retold source) = move top? t := by
  cases top? with
  | none => exact statementMove_retold source true t
  | some b =>
    obtain ⟨opener?, frame, body⟩ := b
    have hunclosed : Problem.unclosed (opener?.map (Token.withReturns source false)) =
        .unclosed opener? := by
      cases opener? <;> rfl
    simp only [Option.map_some, OpenBlock.withReturns, move, Token.kind_retold, hunclosed,
      verbatimMove_retold, extensionMove_retold, statementMove_retold]
    cases frame with
    | otherwise choice chosen =>
      cases t.kind with
      | _ => rfl
    | _ => rfl

end Draft

end Retelling

namespace Draft

/-! ## Leaves -/

/-- A leaf that comes of a reading is one of those that the reading can give. -/
theorem leaf_of_reading {α : Type} {reading : Except Problem α} {act : α → Action}
    {kind : NodeKind} (h : (Move.ofReading reading act).action = .leaf kind) :
    ∃ a, act a = .leaf kind := by
  cases reading with
  | ok a => exact ⟨a, h⟩
  | error problem => cases h

/-- A leaf that comes of a declaration is one of those that its reading can give. -/
theorem leaf_of_declaration {α : Type} {atRoot : Bool} {directive : LineDirective}
    {reading : Except Problem α} {act : α → Action} {kind : NodeKind}
    (h : (declarationMove atRoot directive reading act).action = .leaf kind) :
    ∃ a, act a = .leaf kind := by
  unfold declarationMove at h
  split at h
  · exact leaf_of_reading h
  · cases h

/-- A statement adds text to the page exactly if its token is a literal. -/
theorem isText_of_statement [Alphabet] {atRoot : Bool} {t : Token} {kind : NodeKind}
    (h : (statementMove atRoot t).action = .leaf kind) :
    kind.isText = decide (t.kind = .literal) := by
  cases hk : t.kind with
  | literal =>
    simp only [statementMove, hk] at h
    cases h
    rfl
  | display how =>
    simp only [statementMove, hk] at h
    split at h
    · cases h
    · cases h
      rfl
  | line directive =>
    cases directive with
    | argument | context | importing =>
      simp only [statementMove, hk] at h
      obtain ⟨a, ha⟩ := leaf_of_declaration h
      cases ha
    | inclusion | yield =>
      simp only [statementMove, hk] at h
      obtain ⟨a, ha⟩ := leaf_of_reading h
      cases ha
      rfl
    | extension | content | condition | loop =>
      simp only [statementMove, hk] at h
      cases h
  | endOfInput | illegal | verbatim block | otherwise | close =>
    simp only [statementMove, hk] at h
    cases h

/-- A token adds text to the page exactly if it is a literal. -/
theorem isText_of_leaf [Alphabet] {top? : Option OpenBlock} {t : Token} {kind : NodeKind}
    (h : (move top? t).action = .leaf kind) : kind.isText = decide (t.kind = .literal) := by
  cases top? with
  | none => exact isText_of_statement h
  | some b =>
    simp only [move] at h
    split at h
    · cases h
    · simp only [verbatimMove] at h
      split at h
      · next hk =>
        cases h
        rw [hk]
        rfl
      · cases h
      · cases h
    · unfold extensionMove at h
      split at h
      · cases h
      · cases h
      · cases h
      · cases h
      · cases h
      · exact isText_of_statement h
    · cases h
    · cases h
    · exact isText_of_statement h

/-! ## Reading a source -/

/-- What a token does to a draft, the token in its place does to the draft with returns. -/
theorem step_retold [Alphabet] (source : Text) {d : Draft} {t : Token} (h : d.Passes t) :
    (d.withReturns source).step (t.retold source) = (d.step t).withReturns source := by
  have hhead : (d.withReturns source).blocks.head? =
      d.blocks.head?.map (OpenBlock.withReturns source) := List.head?_map
  have hsuits := h.suits
  rw [step_eq, step_eq, hhead, move_retold, apply, apply, h.problems, reportAll_nil, reportAll_nil]
  cases ha : (move d.blocks.head? t).action with
  | leaf kind =>
    rw [perform, perform, withReturns_add, Node.withReturns_leaf source (isText_of_leaf ha)]
  | begin frame =>
    rw [ha] at hsuits
    obtain ⟨hopens, hkind⟩ := hsuits
    have hliteral : t.kind ≠ .literal := by
      intro hk
      rw [hk] at hopens
      cases hopens
    have hframe : frame.withReturns source = frame := by
      cases frame with
      | otherwise opener chosen =>
        rw [← hkind] at hopens
        cases hopens
      | _ => rfl
    rw [perform, perform, Token.retold_of_ne source hliteral]
    simp [begin, withReturns, OpenBlock.withReturns, hframe]
  | close =>
    have hreports := h.reports
    rw [ha] at hreports
    exact close_withReturns source hreports
  | turn =>
    rw [ha] at hsuits
    obtain ⟨hk, b, hb, hf⟩ := hsuits
    obtain ⟨outer, hb⟩ := List.head?_eq_some_iff.1 hb
    rw [Token.retold_of_ne source (by simp [hk])]
    simp [perform, turn, withReturns, hb, OpenBlock.withReturns, Frame.withReturns]
  | skip | argument a | context c | importing i => rfl

/-- The run lemma: the tokens in place of others lead to the document with returns. -/
theorem parse_withReturns [Alphabet] {source : Text}
    (h : (Document.parse source).diagnostics = []) :
    Document.parse source.withReturns = (Document.parse source).withReturns source := by
  have hlegal : ∀ t ∈ (tokenize source).tokens, t.kind ≠ .illegal := by
    have hfaults := (exposes_parse source).1
    rw [h] at hfaults
    have hnone := List.map_eq_nil_iff.1 hfaults.symm
    intro t ht hk
    exact List.filter_eq_nil_iff.1 hnone t ht (decide_eq_true hk)
  obtain ⟨hread, hblocks, hparse⟩ := silent_induction
    (P := fun d read => run {} (read.map (Token.retold source)) = d.withReturns source) h rfl
    (by
      intro d read t hpasses _ hd
      rw [List.map_append, run_append, hd]
      exact step_retold source hpasses)
  have hclosed : ((run {} (tokenize source).tokens).withReturns source).blocks = [] := by
    simp [withReturns, hblocks]
  rw [hparse, ← toDocument_withReturns, Document.parse, tokenize_withReturns hlegal,
    Document.ofStream, hread, finish, hclosed]
  rfl

end Draft

/-- A source without problems says the same with other line ends. With a carriage return before
every line feed it has no problems and declares the same arguments, context variables and imports on
the same lines. It has the same tree and function blocks, in which the text of literals and of
verbatim blocks has the returns in it and the spans move. -/
theorem line_ends_immaterial [Alphabet] {source : Text}
    (h : (Document.parse source).diagnostics = []) :
    let doc := Document.parse source
    let doc' := Document.parse source.withReturns
    doc'.diagnostics = [] ∧
      doc'.declarations.arguments = doc.declarations.arguments ∧
      doc'.declarations.contexts = doc.declarations.contexts ∧
      doc'.declarations.imports = doc.declarations.imports ∧
      doc'.declarations.functions = doc.declarations.functions.map (Node.withReturns source) ∧
      doc'.root = doc.root.withReturns source := by
  intro doc doc'
  have hdoc : doc' = doc.withReturns source := Draft.parse_withReturns h
  rw [hdoc]
  exact ⟨h, rfl, rfl, rfl, rfl, rfl⟩

/-- A page with a declaration, a function block, an `@extend` with blanks around its content block,
a comment, and a line directive without a line end. -/
theorem page_with_other_line_ends :
    let page : Text :=
      "@arg x T \n@func\n@end@extend b\n\n@content m\n@// @@\n@=x@\n@end\n@end@text\n@end@yield a"
    let doc' := Document.parse page.withReturns
    (Document.parse page).diagnostics = [] ∧ doc'.diagnostics = [] ∧
      doc'.declarations.arguments = [⟨"x", "T", 1⟩] ∧
      doc'.root = (Document.parse page).root.withReturns page ∧
      (doc'.root.preorder 0).map (fun n => n.2.text) =
        [[], ['b'], ['m'], ['x'], ['\r', '\n'], [], ['\r', '\n'], ['a']] := by
  intro page doc'
  obtain ⟨hsilent, harguments⟩ : (Document.parse page).diagnostics = [] ∧
      (Document.parse page).declarations.arguments = [⟨"x", "T", 1⟩] := by decide +kernel
  obtain ⟨hnone, hsame, -, -, -, hroot⟩ := line_ends_immaterial hsilent
  exact ⟨hsilent, hnone, hsame.trans harguments, hroot, by decide +kernel⟩

end Stencil
