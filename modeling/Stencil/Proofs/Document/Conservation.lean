import Mathlib.Data.List.Chain
import Stencil.Proofs.Document.Declaration

/-!
# The tree holds the tokens of its source

The nodes of a document, every node before its children, hold tokens of the source, none of them
twice and all in the order of the source. `Draft.held` lists what a draft holds in the same order,
the blocks that are still open included, and a token that is read adds itself at the end or
nothing (`held_step`). So what a draft holds is always part of what has been read.

Where nothing is reported, nothing is dropped either. Then it is known which tokens no node holds
(`setAside`): those that only declare or close something and the blanks between content blocks.
Function blocks are not in the tree but among the declarations (`functionBlocks`).
-/

set_option autoImplicit false

namespace Stencil

namespace Node

/-- The node and all nodes below it, every node before its children. -/
def nodes (n : Node) : List Node :=
  (n.preorder 0).map Prod.snd

/-- The tokens of the node and of all nodes below it, every node before its children. -/
def tokens (n : Node) : List Token :=
  (n.preorder 0).filterMap fun x => x.2.token?

/-- The tokens of several nodes and of all nodes below them. -/
def tokensAll (ns : List Node) : List Token :=
  (preorderAll 0 ns).filterMap fun x => x.2.token?

mutual

/-- The depth at which a node stands does not matter. -/
theorem map_preorder (depth : Nat) (n : Node) : (n.preorder depth).map Prod.snd = n.nodes := by
  match n with
  | ⟨kind, token?, children⟩ =>
    simp only [nodes, preorder, List.map_cons]
    rw [map_preorderAll (depth + 1) children, map_preorderAll (0 + 1) children]

/-- Without their depths, the nodes below a list are those of its trees in turn. -/
theorem map_preorderAll (depth : Nat) (ns : List Node) :
    (preorderAll depth ns).map Prod.snd = ns.flatMap nodes := by
  match ns with
  | [] => rfl
  | n :: ns =>
    rw [preorderAll, List.map_append, map_preorder depth n, map_preorderAll depth ns,
      List.flatMap_cons]

end

/-- A node stands before the nodes of its children. -/
theorem nodes_mk (kind : NodeKind) (token? : Option Token) (children : List Node) :
    nodes ⟨kind, token?, children⟩ = ⟨kind, token?, children⟩ :: children.flatMap nodes := by
  rw [nodes, preorder, List.map_cons, map_preorderAll]

/-- The tokens of several nodes are those of all nodes in their trees. -/
theorem tokensAll_eq (ns : List Node) :
    tokensAll ns = (ns.flatMap nodes).filterMap Node.token? := by
  rw [← map_preorderAll 0 ns, List.filterMap_map]
  rfl

/-- The token of a node stands before those of its children. -/
@[simp] theorem tokens_mk (kind : NodeKind) (token? : Option Token) (children : List Node) :
    tokens ⟨kind, token?, children⟩ = token?.toList ++ tokensAll children := by
  have htokens : tokens ⟨kind, token?, children⟩ =
      (nodes ⟨kind, token?, children⟩).filterMap Node.token? := by
    rw [nodes, List.filterMap_map]
    rfl
  rw [htokens, nodes_mk, tokensAll_eq]
  cases token? <;> rfl

/-- A leaf has the token that it was made from. -/
@[simp] theorem tokens_leaf (kind : NodeKind) (t : Token) : (leaf kind t).tokens = [t] := rfl

/-- No nodes have no tokens. -/
@[simp] theorem tokensAll_nil : tokensAll [] = [] := rfl

/-- The tokens of the first node stand before those of the others. -/
@[simp] theorem tokensAll_cons (n : Node) (ns : List Node) :
    tokensAll (n :: ns) = n.tokens ++ tokensAll ns := by
  simp [tokensAll, tokens, preorderAll]

/-- The tokens of nodes follow each other as the nodes do. -/
@[simp] theorem tokensAll_append (ms ns : List Node) :
    tokensAll (ms ++ ns) = tokensAll ms ++ tokensAll ns := by
  induction ms with
  | nil => rfl
  | cons n ms ih => simp [ih]

end Node

/-- The tokens that an open block holds. A function block is no part of the tree. -/
def OpenBlock.held (b : OpenBlock) : List Token :=
  match b.frame with
  | .verbatim .function => []
  | .otherwise condition? chosen =>
    condition?.toList ++ Node.tokensAll chosen ++ (b.opener?.toList ++ Node.tokensAll b.body)
  | _ => b.opener?.toList ++ Node.tokensAll b.body

namespace OpenBlock

/-- Whether a node is added to the tree when it is added to the block. -/
def Takes (b : OpenBlock) (kind : NodeKind) : Prop :=
  match b.frame with
  | .verbatim .function => False
  | .extension _ => ∃ name, kind = .slot name
  | _ => True

/-- A block of statements takes nodes of every kind. -/
theorem takes_of_takesStatements {b : OpenBlock} {kind : NodeKind}
    (h : b.frame.takesStatements = true) : b.Takes kind := by
  unfold Takes
  split
  · next hf => simp [hf, Frame.takesStatements] at h
  · next hf => simp [hf, Frame.takesStatements] at h
  · trivial

/-- A node that the block takes adds its tokens to those held. -/
theorem held_add {b : OpenBlock} {n : Node} (h : b.Takes n.kind) :
    (b.add n).held = b.held ++ n.tokens := by
  obtain ⟨opener, frame, body⟩ := b
  cases frame with
  | extension call? =>
    obtain ⟨name, hn⟩ := h
    simp [add, held, hn]
  | verbatim v =>
    cases v with
    | function => exact h.elim
    | code | text => simp [add, held]
  | _ => simp [add, held]

/-- A node that the block does not take leaves the tokens held as they are. -/
theorem held_add_of_not {b : OpenBlock} {n : Node} (h : ¬ b.Takes n.kind) :
    (b.add n).held = b.held := by
  obtain ⟨opener, frame, body⟩ := b
  cases frame with
  | extension call? =>
    cases hk : n.kind with
    | slot name => exact absurd ⟨name, hk⟩ h
    | _ => simp [add, held, hk]
  | verbatim v =>
    cases v with
    | function => rfl
    | code | text => exact absurd trivial h
  | _ => exact absurd trivial h

/-- The node that a block becomes holds the same tokens. -/
theorem tokens_of_node? {b : OpenBlock} {n : Node} (h : b.node? = some n)
    (hf : b.frame ≠ .verbatim .function) : n.tokens = b.held := by
  obtain ⟨opener, frame, body⟩ := b
  cases frame with
  | verbatim v =>
    cases v with
    | function => exact absurd rfl hf
    | code | text =>
      cases h
      simp [held]
  | loop head? =>
    obtain ⟨head, rfl, rfl⟩ := Option.map_eq_some_iff.1 h
    simp [held]
  | extension call? =>
    obtain ⟨call, rfl, rfl⟩ := Option.map_eq_some_iff.1 h
    simp [held]
  | strayContent => cases h
  | condition | otherwise _ _ | slot _ =>
    cases h
    simp [held]

end OpenBlock

namespace Draft

/-- The tokens that the draft holds, in the order of the source. -/
def held (d : Draft) : List Token :=
  Node.tokensAll d.body ++ d.blocks.reverse.flatMap OpenBlock.held

/-- Reporting changes nothing that is held. -/
@[simp] theorem held_reportAll (d : Draft) (t : Token) (ps : List Problem) :
    (d.reportAll t ps).held = d.held := rfl

/-- The innermost block holds its tokens behind those of the others. -/
theorem held_of_cons {d : Draft} {b : OpenBlock} {outer : List OpenBlock}
    (hb : d.blocks = b :: outer) :
    d.held = ({ d with blocks := outer } : Draft).held ++ b.held := by
  simp [held, hb]

/-- Whether a node is added to the tree when it is added to the draft. -/
def Takes (d : Draft) (kind : NodeKind) : Prop :=
  ∀ b, d.blocks.head? = some b → b.Takes kind

/-- A node that the draft takes adds its tokens to those held. -/
theorem held_add {d : Draft} {n : Node} (h : d.Takes n.kind) :
    (d.add n).held = d.held ++ n.tokens := by
  cases hb : d.blocks with
  | nil => simp [add_of_nil hb, held, hb]
  | cons b outer =>
    have hadd : (b.add n).held = b.held ++ n.tokens := OpenBlock.held_add (h b (by simp [hb]))
    simp [add_of_cons hb, held, hb, hadd]

/-- A node that the draft does not take leaves the tokens held as they are. -/
theorem held_add_of_not {d : Draft} {n : Node} (h : ¬ d.Takes n.kind) :
    (d.add n).held = d.held := by
  cases hb : d.blocks with
  | nil => exact absurd (by simp [Takes, hb]) h
  | cons b outer =>
    have hadd : (b.add n).held = b.held :=
      OpenBlock.held_add_of_not fun hb' => h fun c hc => by
        rw [hb, List.head?_cons, Option.some.injEq] at hc
        exact hc ▸ hb'
    simp [add_of_cons hb, held, hb, hadd]

/-- A node that is added adds its tokens or nothing. -/
theorem held_add_sublist (d : Draft) (n : Node) :
    (d.add n).held.Sublist (d.held ++ n.tokens) := by
  by_cases h : d.Takes n.kind
  · rw [held_add h]
  · rw [held_add_of_not h]
    exact List.sublist_append_left _ _

/-- Closing a block adds nothing. -/
theorem held_close_sublist (d : Draft) : d.close.held.Sublist d.held := by
  cases hb : d.blocks with
  | nil => simp [close, hb]
  | cons b outer =>
    rw [held_of_cons hb]
    rcases close_cases hb with
      ⟨-, hc⟩ | ⟨-, -, hc⟩ | ⟨-, -, opener, -, hc⟩ | ⟨n, hn, hf, hc⟩
    · rw [hc]
      exact List.sublist_append_left _ _
    · rw [hc]
      exact List.sublist_append_left _ _
    · rw [hc]
      exact List.sublist_append_left _ _
    · rw [hc, ← OpenBlock.tokens_of_node? hn hf]
      exact held_add_sublist _ n

/-- A function block that is opened holds nothing, and any other block its opener. -/
theorem held_begin (d : Draft) {t : Token} {frame : Frame} (hk : frame.kind = t.kind)
    (ho : t.kind.opensBlock = true) :
    (d.begin t frame).held = d.held ++ if t.kind = .verbatim .function then [] else [t] := by
  rw [← hk] at ho ⊢
  cases frame with
  | otherwise _ _ => simp [Frame.kind, TokenKind.opensBlock] at ho
  | verbatim v =>
    cases v <;> simp [begin, held, OpenBlock.held, Frame.kind]
  | _ => simp [begin, held, OpenBlock.held, Frame.kind]

/-- An `@else` is held by the condition that it turns. -/
theorem held_turn {d : Draft} {t : Token} {b : OpenBlock} (hb : d.blocks.head? = some b)
    (hf : b.frame = .condition) : (d.perform t .turn).held = d.held ++ [t] := by
  obtain ⟨outer, hb⟩ := List.head?_eq_some_iff.1 hb
  simp [perform, hb, Draft.turn, held, OpenBlock.held, hf]

/-- A token adds itself or nothing. -/
theorem held_step_sublist [Alphabet] {d : Draft} {t : Token} (h : d.Follows t) :
    (d.step t).held.Sublist (d.held ++ [t]) := by
  have hsuits := h.suits
  rw [step_eq, apply]
  cases ha : (move d.blocks.head? t).action with
  | skip | argument _ | context _ | importing _ => exact List.sublist_append_left _ _
  | leaf kind => exact held_add_sublist (d.reportAll t _) (.leaf kind t)
  | close =>
    exact (held_close_sublist (d.reportAll t _)).trans (List.sublist_append_left _ _)
  | begin frame =>
    rw [ha] at hsuits
    rw [perform, held_begin _ hsuits.2 hsuits.1, held_reportAll]
    split
    · simp
    · exact List.Sublist.refl _
  | turn =>
    rw [ha] at hsuits
    obtain ⟨-, b, hb, hf⟩ := hsuits
    rw [held_turn (d := d.reportAll t _) hb hf]
    exact List.Sublist.refl _

/-- The end of the input adds nothing. -/
theorem held_step_end_sublist [Alphabet] {d : Draft} {b : OpenBlock} {outer : List OpenBlock}
    (hb : d.blocks = b :: outer) {last : Token} (hk : last.kind = .endOfInput) :
    (d.step last).held.Sublist d.held := by
  rw [step_end hb hk]
  exact held_close_sublist _

/-- The tree of a document holds part of the tokens, in their order. -/
theorem tokens_root_sublist [Alphabet] (source : Text) :
    (Document.parse source).root.tokens.Sublist (tokenize source).tokens := by
  obtain ⟨hread, hwf⟩ := read_induction (P := fun d read => d.held.Sublist read) source
    (List.Sublist.refl _)
    (fun d read t h hd => (held_step_sublist h).trans (hd.append_right [t]))
  have hkind : (tokenize source).last.kind = .endOfInput :=
    (tiles_tokenize source).last_of_append.1
  obtain ⟨hheld, hblocks⟩ := finish_induction
    (P := fun d => d.held.Sublist (tokenize source).tokens) hkind
    (fun d b outer _ hb hd => (held_step_end_sublist hb hkind).trans hd) hwf hread
  simp only [held, hblocks, List.reverse_nil, List.flatMap_nil, List.append_nil] at hheld
  simpa [Document.parse, Document.ofStream, toDocument] using hheld

/-! ## Without problems nothing is dropped -/

/-- Every block will become a node, which the block around it takes. -/
structure Settled (hs : List (Option Token × Frame)) : Prop where
  /-- The blocks become nodes. -/
  lasting : ∀ x ∈ hs, x.2.Lasting
  /-- Directly inside of an `@extend` there are only content blocks. -/
  slots : hs.IsChain fun x y => ∀ call?, y.2 = .extension call? → ∃ name, x.2 = .slot name

/-- A block that becomes a node, where one may stand, can be opened inside of settled ones. -/
theorem Settled.cons {hs : List (Option Token × Frame)} (h : Settled hs) {x : Option Token × Frame}
    (hl : x.2.Lasting)
    (hslot : ∀ y ∈ hs.head?, ∀ call?, y.2 = .extension call? → ∃ name, x.2 = .slot name) :
    Settled (x :: hs) :=
  ⟨List.forall_mem_cons.2 ⟨hl, h.lasting⟩, List.isChain_cons.2 ⟨hslot, h.slots⟩⟩

/-- The blocks around the innermost of settled ones are settled. -/
theorem Settled.tail {hs : List (Option Token × Frame)} (h : Settled hs) : Settled hs.tail :=
  ⟨fun x hx => h.lasting x (List.mem_of_mem_tail hx), h.slots.tail⟩

/-- The innermost block, with and without its body. -/
theorem mem_head?_heads {d : Draft} {x : Option Token × Frame} (hx : x ∈ d.heads.head?) :
    ∃ b, d.blocks.head? = some b ∧ x = (b.opener?, b.frame) := by
  rw [heads, List.head?_map, Option.mem_def, Option.map_eq_some_iff] at hx
  obtain ⟨b, hb, rfl⟩ := hx
  exact ⟨b, hb, rfl⟩

/-- A token that reports nothing keeps the blocks in order. -/
theorem settled_step [Alphabet] {d : Draft} {t : Token} (hd : Settled d.heads) (h : d.Passes t) :
    Settled (d.step t).heads := by
  have hadvance := h.advance
  rw [heads_step]
  cases ha : (move d.blocks.head? t).action with
  | skip | leaf _ | argument _ | context _ | importing _ => exact hd
  | close => exact hd.tail
  | begin frame =>
    rw [ha] at hadvance
    cases hadvance with
    | declaration htop ht ha => exact ha.elim
    | opener htop ht hl hk =>
      refine hd.cons hl fun y hy call? hf => ?_
      obtain ⟨b, hb, rfl⟩ := mem_head?_heads hy
      have htakes := htop b hb
      rw [show b.frame = _ from hf] at htakes
      cases htakes
    | slot htop hf hk ht hnew => exact hd.cons trivial fun y hy call? hf => ⟨_, rfl⟩
  | turn =>
    rw [ha] at hadvance
    cases hadvance with
    | declaration htop ht ha => exact ha.elim
    | @turn b htop hf hk =>
      obtain ⟨outer, hb⟩ := List.head?_eq_some_iff.1 htop
      simp only [hb]
      refine hd.tail.cons trivial fun y hy call? hyf => ?_
      -- The condition itself would stand directly inside of the `@extend`.
      have hslots := hd.slots
      rw [heads_of_cons hb] at hslots hy
      obtain ⟨name, hname⟩ := (List.isChain_cons.1 hslots).1 y hy call? hyf
      rw [show b.frame = _ from hname] at hf
      cases hf

/-- Closing a block that becomes a node keeps what is held. -/
theorem held_close {d : Draft} (hwf : d.WellFormed) (hd : Settled d.heads)
    (hreports : closingReports d.blocks = []) : d.close.held = d.held := by
  cases hb : d.blocks with
  | nil => simp [close, hb]
  | cons b outer =>
    have hlasting : b.frame.Lasting :=
      hd.lasting (b.opener?, b.frame) (by simp [heads_of_cons hb])
    rw [held_of_cons hb]
    rcases close_cases hb with
      ⟨hn, hc⟩ | ⟨hf, -, hc⟩ | ⟨hf, hout, opener, ho, hc⟩ | ⟨n, hn, hf, hc⟩
    · exact absurd hn (OpenBlock.node?_ne_none hlasting)
    · simp [hc, held, OpenBlock.held, hf]
    · rw [hb] at hreports
      exact absurd (eq_nil_of_closingReports hreports hf ho) hout
    · -- The block around it takes the node, an `@extend` because the node is a content block.
      rw [hc, ← OpenBlock.tokens_of_node? hn hf]
      refine held_add fun c hc => ?_
      have hmem : (c.opener?, c.frame) ∈ (outer.map fun b => (b.opener?, b.frame)).head? := by
        rw [List.head?_map, show outer.head? = some c from hc]
        rfl
      have hplain := hwf.innermost (c.opener?, c.frame)
        (by rw [heads_of_cons hb]; exact List.mem_of_mem_head? hmem)
      unfold OpenBlock.Takes
      split
      · next hv => exact hplain _ hv
      · next call? hext =>
        have hslots := hd.slots
        rw [heads_of_cons hb] at hslots
        obtain ⟨name, hname⟩ := (List.isChain_cons.1 hslots).1 _ hmem call? hext
        rw [OpenBlock.node?, show b.frame = _ from hname] at hn
        cases hn
        exact ⟨name, rfl⟩
      · trivial

end Draft

/-! ## What no node holds -/

/-- Whether no node of the tree holds the token, by the stack that it meets. -/
def setAside (m : List Token × Token) : Bool :=
  match m.2.kind with
  | .endOfInput | .close | .line .argument | .line .context | .line .importing
  | .verbatim .function => true
  | .literal =>
    Nesting.Inside (.verbatim .function) m.1 ||
      m.2.text.allBlank && Nesting.Inside (.line .extension) m.1
  | _ => false

/-- The tokens without those that are set aside. -/
def kept (tokens : List Token) : List Token :=
  ((Nesting.meetings [] tokens).filter fun m => !setAside m).map Prod.snd

/-- The next token is kept unless it is set aside at the stack it meets. -/
theorem kept_snoc (ts : List Token) (t : Token) :
    kept (ts ++ [t]) = kept ts ++ if setAside (Nesting.remaining ts, t) then [] else [t] := by
  rw [kept, Nesting.meetings_append, List.filter_append, List.map_append, ← kept,
    ← Nesting.remaining]
  cases hs : setAside (Nesting.remaining ts, t) <;> simp [Nesting.meetings, hs]

namespace Draft

/-- A declaration is held by no node. -/
theorem setAside_of_declaration [Alphabet] {m : List Token × Token} (h : m.2.IsDeclaration) :
    setAside m = true := by
  unfold Token.IsDeclaration at h
  split at h
  · next hk => simp [setAside, hk]
  · next hk => simp [setAside, hk]
  · next hk => simp [setAside, hk]
  · exact h.elim

/-- Of the tokens that open a block, only that of a function block is held by no node. -/
theorem setAside_of_opener [Alphabet] {m : List Token × Token} (h : m.2.IsOpener) :
    setAside m = decide (m.2.kind = .verbatim .function) := by
  unfold Token.IsOpener at h
  split at h
  · next hk => simp [setAside, hk]
  · next hk => simp [setAside, hk]
  · next hk => simp [setAside, hk]
  · next v hk => cases v <;> simp [setAside, hk]
  · exact h.elim

/-- A statement is held by a node, unless it stands in a function block or directly in an
`@extend`. -/
theorem setAside_of_statement [Alphabet] {m : List Token × Token} (h : m.2.IsStatement)
    (hfunction : ¬ Nesting.Inside (.verbatim .function) m.1)
    (hextension : ¬ Nesting.Inside (.line .extension) m.1) : setAside m = false := by
  unfold Token.IsStatement at h
  split at h
  · next hk => simp [setAside, hk, hfunction, hextension]
  · next how hk => simp [setAside, hk]
  · next hk => simp [setAside, hk]
  · next hk => simp [setAside, hk]
  · exact h.elim

/-- Where statements may stand there is neither a function nor an `@extend` around them. -/
theorem not_inside_of_takesStatements {d : Draft} (hd : d.WellFormed)
    (h : TakesStatements d.blocks.head?) :
    ¬ Nesting.Inside (.verbatim .function) d.openers ∧
      ¬ Nesting.Inside (.line .extension) d.openers := by
  cases hb : d.blocks with
  | nil =>
    rw [hd.openers_eq_nil_iff.2 hb]
    simp [Nesting.Inside]
  | cons b outer =>
    rw [hd.inside_iff hb, hd.inside_iff hb]
    have htakes := h b (by simp [hb])
    cases hf : b.frame <;> simp [Frame.kind, hf, Frame.takesStatements] at htakes ⊢

/-- A token that reports nothing is held unless it is one of those that are set aside. -/
theorem held_step [Alphabet] {d : Draft} {t : Token} (hd : Settled d.heads) (h : d.Passes t) :
    (d.step t).held = d.held ++ if setAside (d.openers, t) then [] else [t] := by
  have hadvance := h.advance
  have hsuits := h.suits
  have hreports := h.reports
  rw [step_eq, apply, h.problems, reportAll_nil]
  generalize (move d.blocks.head? t).action = a at hadvance hsuits hreports ⊢
  cases hadvance with
  | statement htop ht kind =>
    obtain ⟨hfunction, hextension⟩ := not_inside_of_takesStatements h.wellFormed htop
    rw [setAside_of_statement ht hfunction hextension]
    exact held_add (n := .leaf kind t) fun b hb => OpenBlock.takes_of_takesStatements (htop b hb)
  | declaration htop ht ha =>
    rw [setAside_of_declaration ht]
    cases a with
    | argument _ | context _ | importing _ => simp [perform, held]
    | _ => exact ha.elim
  | opener htop ht hl hk =>
    rw [setAside_of_opener ht, perform, held_begin d hk hsuits.1]
    simp
  | turn htop hf hk =>
    rw [held_turn htop hf]
    simp [setAside, hk]
  | close htop hk =>
    rw [perform, held_close h.wellFormed hd hreports]
    simp [setAside, hk]
  | @blank b call? htop hf hk ht =>
    obtain ⟨outer, hb⟩ := List.head?_eq_some_iff.1 htop
    have hinside : Nesting.Inside (.line .extension) d.openers :=
      (h.wellFormed.inside_iff hb _).2 (by rw [hf]; rfl)
    simp [perform, setAside, hk, ht, hinside]
  | slot htop hf hk ht hnew =>
    rw [perform, held_begin d hsuits.2 hsuits.1]
    simp [setAside, hk]
  | @body b v htop hf hempty hk =>
    obtain ⟨outer, hb⟩ := List.head?_eq_some_iff.1 htop
    have hfunction : Nesting.Inside (.verbatim .function) d.openers ↔ v = .function := by
      rw [h.wellFormed.inside_iff hb, hf]
      simp [Frame.kind]
    have hextension : ¬ Nesting.Inside (.line .extension) d.openers := by
      rw [h.wellFormed.inside_iff hb, hf]
      simp [Frame.kind]
    rw [perform]
    by_cases hv : v = .function
    · rw [held_add_of_not fun htakes => by simpa [OpenBlock.Takes, hf, hv] using htakes b htop]
      simp [setAside, hk, hfunction, hv]
    · have htakes : b.Takes .verbatimText := by
        cases v with
        | function => exact absurd rfl hv
        | code | text => simp [OpenBlock.Takes, hf]
      rw [held_add (n := .leaf .verbatimText t) fun c hc =>
        Option.some.inj (htop.symm.trans hc) ▸ htakes]
      simp [setAside, hk, hfunction, hv, hextension]

end Draft

/-- The spans of the tokens are strictly increasing. -/
theorem increasing_spans (source : Text) : (tokenize source).tokens.Pairwise fun a b =>
    a.span.start < b.span.start ∧ a.span.stop ≤ b.span.start ∧ a.span.stop < b.span.stop := by
  have hpairs := (tiles_tokenize source).pairwise_spans
  rw [TokenStream.toList, List.pairwise_append] at hpairs
  obtain ⟨htokens, -, hlast⟩ := hpairs
  have hspan (t : Token) (ht : t ∈ (tokenize source).tokens) : t.span.start < t.span.stop :=
    (hlast t ht _ (List.mem_singleton.2 rfl)).1
  refine htokens.imp_of_mem fun ha hb h => ?_
  have hb := hspan _ hb
  omega

/-- The tree of a document holds tokens of the source in their order. If there are no problems, it
holds all of them but those that are set aside, and the function blocks are declared in their
order, each with its body. -/
theorem tree_holds_tokens [Alphabet] (source : Text) :
    let doc := Document.parse source
    let s := tokenize source
    doc.root.tokens.Sublist s.tokens ∧
      (doc.root.tokens.Pairwise fun a b => a.span.start < b.span.start ∧
        a.span.stop ≤ b.span.start ∧ a.span.stop < b.span.stop) ∧
      (doc.diagnostics = [] →
        doc.root.tokens = kept s.toList ∧
          doc.declarations.functions = (functionBlocks 0 s.tokens).map Prod.snd) := by
  have hsublist := Draft.tokens_root_sublist source
  refine ⟨hsublist, (increasing_spans source).sublist hsublist, fun hsilent => ?_⟩
  constructor
  · obtain ⟨⟨-, hheld⟩, hblocks, hparse⟩ := Draft.silent_induction
      (P := fun d read => Draft.Settled d.heads ∧ d.held = kept read)
      hsilent ⟨⟨by simp [Draft.heads], by simp [Draft.heads]⟩, rfl⟩ (by
        rintro d read t h hopeners ⟨hsettled, hheld⟩
        refine ⟨Draft.settled_step hsettled h, ?_⟩
        rw [Draft.held_step hsettled h, hheld, hopeners, kept_snoc])
    have hlast : setAside (Nesting.remaining (tokenize source).tokens, (tokenize source).last) =
        true := by
      simp [setAside, (tiles_tokenize source).last_of_append.1]
    rw [hparse, TokenStream.toList, kept_snoc, hlast, ← hheld]
    simp [Draft.toDocument, Draft.held, hblocks]
  · -- A function block that is not at the root would be reported.
    obtain ⟨-, -, -, hfunctions, hmisplaced⟩ := Draft.gathers_parse source
    rw [hfunctions, rootFunctions, List.filter_eq_self.2]
    intro f hf
    obtain ⟨t, ht, hk⟩ := mem_functionBlocks hf
    refine decide_eq_true (Nat.eq_zero_of_not_pos fun hdepth => ?_)
    have hreported := hmisplaced (f.1, t) ht hdepth .nestedFunction
      (by simp [hk, TokenKind.misplaced?])
    rw [hsilent] at hreported
    cases hreported

/-- A page with a declaration, a function, an `@extend` with blanks around its content block and a
condition. Its tree holds five tokens. -/
theorem page_tree_holds_tokens :
    let page : Text :=
      "@arg x T\n@func f @end@extend base\n @content main\n@=x@@end @end@if x\na@end"
    (Document.parse page).diagnostics = [] ∧
      (Document.parse page).root.tokens = kept (tokenize page).toList ∧
      (Document.parse page).declarations.functions =
        (functionBlocks 0 (tokenize page).tokens).map Prod.snd ∧
      (kept (tokenize page).toList).map Token.text =
        ["base".toList, "main".toList, "x".toList, "x".toList, "a".toList] := by
  intro page
  have hsilent : (Document.parse page).diagnostics = [] := by decide +kernel
  obtain ⟨htokens, hfunctions⟩ := (tree_holds_tokens page).2.2 hsilent
  exact ⟨hsilent, htokens, hfunctions, by decide +kernel⟩

end Stencil
