import Stencil.Proofs.Document.Conservation
import Stencil.Proofs.Document.Descent
import Stencil.Proofs.Document.Report

/-!
# The shape of the tree

Code is generated from a tree without looking at whether it makes sense: whatever alternative is
among the children of a node switches the branch, and whatever is below an `@extend` and no content
block is passed over. This is right because of what may be a child of what (`NodeKind.Holds`), and
the tree of every document keeps to it, with or without problems in the source.

The invariant is about drafts (`Draft.Sound`). The nodes that are finished are in shape as a whole,
and the bodies of open blocks hold what the blocks may. A node is added where it may stand
(`Belongs`), which for a content block depends on the block around it: it is opened directly inside
of an `@extend` only, so that it is closed there as well.
-/

set_option autoImplicit false

namespace Stencil

/-! ## Which nodes stand below which -/

namespace NodeKind

/-- Whether nodes of this sort may stand wherever statements may. -/
def isStatement : NodeKind → Bool
  | root | verbatimText | verbatim .function | slot _ | otherwise => false
  | _ => true

/-- Whether nodes of this sort have no children. -/
def isLeaf : NodeKind → Bool
  | literal | verbatimText | display _ | inclusion _ | yield _ => true
  | _ => false

/-- Whether a node of the second sort may be a child of one of the first. -/
def Holds : NodeKind → NodeKind → Prop
  | extension _, child => ∃ name, child = slot name
  | verbatim _, child => child = verbatimText
  | condition, child => child.isStatement = true ∨ child = otherwise
  | root, child | otherwise, child | loop _, child | slot _, child => child.isStatement = true
  | _, _ => False

variable {parent child : NodeKind}

/-- A statement is no alternative. -/
theorem ne_otherwise_of_isStatement (h : child.isStatement = true) : child ≠ otherwise := by
  rintro rfl
  cases h

/-- The root is no child. -/
theorem Holds.ne_root (h : parent.Holds child) : child ≠ root := by
  rintro rfl
  cases parent <;> simp [Holds, isStatement] at h

/-- A function block is no child. -/
theorem Holds.ne_function (h : parent.Holds child) : child ≠ verbatim .function := by
  rintro rfl
  cases parent <;> simp [Holds, isStatement] at h

/-- An alternative is a child of a condition. -/
theorem Holds.condition_of_otherwise (h : parent.Holds otherwise) : parent = condition := by
  cases parent <;> simp [Holds, isStatement] at h ⊢

/-- The content blocks are the children of an `@extend`, and all of them. -/
theorem Holds.slot_iff (h : parent.Holds child) :
    (∃ name, child = slot name) ↔ ∃ call, parent = extension call := by
  constructor
  · rintro ⟨name, rfl⟩
    cases parent <;> simp [Holds, isStatement] at h ⊢
  · rintro ⟨call, rfl⟩
    exact h

/-- The verbatim texts are the children of verbatim blocks, and all of them. -/
theorem Holds.verbatimText_iff (h : parent.Holds child) :
    child = verbatimText ↔ ∃ block, parent = verbatim block := by
  constructor
  · rintro rfl
    cases parent <;> simp [Holds, isStatement] at h ⊢
  · rintro ⟨block, rfl⟩
    exact h

/-- A node with a child is no leaf. -/
theorem Holds.not_leaf (h : parent.Holds child) : parent.isLeaf = false := by
  cases parent <;> first | rfl | exact h.elim

end NodeKind

namespace Node

/-- The children of the node are of the right sorts and come from tokens. An alternative is the
last child, and a verbatim block has at most one. -/
structure Shaped (n : Node) : Prop where
  holds : ∀ c ∈ n.children, n.kind.Holds c.kind
  tokens : ∀ c ∈ n.children, c.token? ≠ none
  turned : ∀ c ∈ n.children.dropLast, c.kind ≠ .otherwise
  single : ∀ block, n.kind = .verbatim block → n.children.length ≤ 1

/-- The node comes from a token, and the whole tree below it is in shape. -/
structure Sound (n : Node) : Prop where
  token : n.token? ≠ none
  shaped : ∀ m ∈ n.nodes, m.Shaped

/-- A node in shape above sound ones makes a tree in shape. -/
theorem forall_nodes {kind : NodeKind} {token? : Option Token} {children : List Node}
    (hshaped : Shaped ⟨kind, token?, children⟩) (h : ∀ c ∈ children, c.Sound) :
    ∀ m ∈ nodes ⟨kind, token?, children⟩, m.Shaped := by
  rw [nodes_mk]
  refine List.forall_mem_cons.2 ⟨hshaped, fun m hm => ?_⟩
  obtain ⟨c, hc, hm⟩ := List.mem_flatMap.1 hm
  exact (h c hc).shaped m hm

/-- A node is the first of its nodes. -/
theorem nodes_eq_cons (n : Node) : n.nodes = n :: n.nodes.tail := by
  obtain ⟨kind, token?, children⟩ := n
  rw [nodes_mk, List.tail_cons]

/-- Every node but the first is a child of another one. -/
theorem exists_parent (n : Node) : ∀ m ∈ n.nodes.tail, ∃ p ∈ n.nodes, m ∈ p.children := by
  obtain ⟨kind, token?, children⟩ := n
  rw [nodes_mk, List.tail_cons]
  intro m hm
  obtain ⟨c, hc, hm⟩ := List.mem_flatMap.1 hm
  rw [nodes_eq_cons] at hm
  rcases List.mem_cons.1 hm with rfl | hm
  · exact ⟨_, List.mem_cons_self, hc⟩
  · obtain ⟨p, hp, hmp⟩ := exists_parent c m hm
    exact ⟨p, List.mem_cons_of_mem _ (List.mem_flatMap.2 ⟨c, hc, hp⟩), hmp⟩
termination_by sizeOf n
decreasing_by
  have hlt := List.sizeOf_lt_of_mem hc
  simp only [mk.sizeOf_spec]
  omega

/-- What cannot stand below a node. -/
theorem below_of_shaped {n : Node} (h : ∀ m ∈ n.nodes, m.Shaped) :
    ∀ m ∈ n.nodes.tail, m.kind ≠ .root ∧ m.kind ≠ .verbatim .function ∧ m.token? ≠ none := by
  intro m hm
  obtain ⟨p, hp, hm⟩ := n.exists_parent m hm
  have hholds := (h p hp).holds m hm
  exact ⟨hholds.ne_root, hholds.ne_function, (h p hp).tokens m hm⟩

/-- A leaf is sound, since it has a token and no children. -/
theorem sound_leaf (kind : NodeKind) (t : Token) : (leaf kind t).Sound :=
  ⟨by simp [leaf], forall_nodes ⟨by simp, by simp, by simp, by simp⟩ (by simp)⟩

/-- Statements are in shape below any node that holds them. -/
theorem shaped_of_statements {kind : NodeKind} {token? : Option Token} {children : List Node}
    (hkind : ∀ child, child.isStatement = true → kind.Holds child)
    (h : ∀ c ∈ children, c.Sound ∧ c.kind.isStatement = true) :
    Shaped ⟨kind, token?, children⟩ where
  holds c hc := hkind _ (h c hc).2
  tokens c hc := (h c hc).1.token
  turned c hc := NodeKind.ne_otherwise_of_isStatement (h c (List.dropLast_subset _ hc)).2
  single block hk := by
    subst hk
    exact absurd (hkind .literal rfl) (by simp [NodeKind.Holds])

/-- A block of sound statements is sound if it may hold statements. -/
theorem sound_of_statements {kind : NodeKind} {token? : Option Token} {children : List Node}
    (htoken : token? ≠ none) (hkind : ∀ child, child.isStatement = true → kind.Holds child)
    (h : ∀ c ∈ children, c.Sound ∧ c.kind.isStatement = true) : Sound ⟨kind, token?, children⟩ :=
  ⟨htoken, forall_nodes (shaped_of_statements hkind h) fun c hc => (h c hc).1⟩

end Node

/-! ## Open blocks -/

/-- Whether the body of a block takes nodes of this sort. -/
def Frame.Holds : Frame → NodeKind → Prop
  | verbatim _, child => child = .verbatimText
  | extension _, child => ∃ name, child = .slot name
  | _, child => child.isStatement = true

namespace OpenBlock

/-- A token opened the block, and what stands in it so far is in shape. -/
structure Sound (b : OpenBlock) : Prop where
  opener : b.opener? ≠ none
  body : ∀ n ∈ b.body, n.Sound ∧ b.frame.Holds n.kind
  chosen : ∀ condition? chosen, b.frame = .otherwise condition? chosen →
    condition? ≠ none ∧ ∀ n ∈ chosen, n.Sound ∧ n.kind.isStatement = true
  single : ∀ block, b.frame = .verbatim block → b.body.length ≤ 1

variable {b : OpenBlock} {n : Node}

/-- The node that a block becomes is in shape. -/
theorem Sound.node (hb : b.Sound) (h : b.node? = some n) : n.Sound := by
  have hsound : ∀ c ∈ b.body, c.Sound := fun c hc => (hb.body c hc).1
  have hopener := hb.opener
  obtain ⟨opener?, frame, body⟩ := b
  cases frame with
  | condition =>
    cases h
    exact Node.sound_of_statements hopener (fun child hc => Or.inl hc) hb.body
  | otherwise condition? chosen =>
    cases h
    obtain ⟨hcondition, hchosen⟩ := hb.chosen condition? chosen rfl
    have halternative : Node.Sound ⟨.otherwise, opener?, body⟩ :=
      Node.sound_of_statements hopener (fun child hc => hc) hb.body
    have hchildren : ∀ c ∈ chosen ++ [⟨.otherwise, opener?, body⟩], c.Sound :=
      List.forall_mem_append.2 ⟨fun c hc => (hchosen c hc).1, by simpa using halternative⟩
    refine ⟨hcondition, Node.forall_nodes ⟨?_, fun c hc => (hchildren c hc).token, ?_, by simp⟩
      hchildren⟩
    · refine List.forall_mem_append.2 ⟨fun c hc => Or.inl (hchosen c hc).2, ?_⟩
      simp [NodeKind.Holds]
    · intro c hc
      rw [List.dropLast_concat] at hc
      exact NodeKind.ne_otherwise_of_isStatement (hchosen c hc).2
  | loop head? =>
    obtain ⟨head, -, rfl⟩ := Option.map_eq_some_iff.1 h
    exact Node.sound_of_statements hopener (fun child hc => hc) hb.body
  | slot name =>
    cases h
    exact Node.sound_of_statements hopener (fun child hc => hc) hb.body
  | extension call? =>
    obtain ⟨call, -, rfl⟩ := Option.map_eq_some_iff.1 h
    refine ⟨hopener, Node.forall_nodes ⟨fun c hc => (hb.body c hc).2,
      fun c hc => (hsound c hc).token, fun c hc hk => ?_, by simp⟩ hsound⟩
    obtain ⟨name, hname⟩ := (hb.body c (List.dropLast_subset _ hc)).2
    rw [hname] at hk
    cases hk
  | verbatim block =>
    cases h
    refine ⟨hopener, Node.forall_nodes ⟨fun c hc => (hb.body c hc).2,
      fun c hc => (hsound c hc).token, fun c hc hk => ?_, fun v _ => hb.single block rfl⟩ hsound⟩
    have htext : c.kind = .verbatimText := (hb.body c (List.dropLast_subset _ hc)).2
    rw [htext] at hk
    cases hk
  | strayContent => cases h

/-- A block becomes a statement or, if it is one, a content block. -/
theorem kind_of_node? (h : b.node? = some n) (hf : b.frame ≠ .verbatim .function) :
    n.kind.isStatement = true ∨ ∃ name, b.frame = .slot name ∧ n.kind = .slot name := by
  obtain ⟨opener, frame, body⟩ := b
  cases frame with
  | verbatim block =>
    cases block with
    | function => exact absurd rfl hf
    | code | text =>
      cases h
      exact Or.inl rfl
  | loop head? =>
    obtain ⟨head, -, rfl⟩ := Option.map_eq_some_iff.1 h
    exact Or.inl rfl
  | extension call? =>
    obtain ⟨call, -, rfl⟩ := Option.map_eq_some_iff.1 h
    exact Or.inl rfl
  | slot name =>
    cases h
    exact Or.inr ⟨name, rfl, rfl⟩
  | condition | otherwise _ _ =>
    cases h
    exact Or.inl rfl
  | strayContent => cases h

end OpenBlock

/-- Where a node that is added to a draft may stand, by the innermost block: statements anywhere
but in a verbatim block, content blocks in an `@extend`, and text in a verbatim block without
any. -/
inductive Belongs (top? : Option OpenBlock) : NodeKind → Prop
  | statement {kind : NodeKind} (hkind : kind.isStatement = true)
      (htop : ∀ b, top? = some b → ∀ block, b.frame ≠ .verbatim block) : Belongs top? kind
  | slot {b : OpenBlock} {call? : Option Call} (name : Text) (htop : top? = some b)
      (hf : b.frame = .extension call?) : Belongs top? (.slot name)
  | text {b : OpenBlock} {block : Verbatim} (htop : top? = some b)
      (hf : b.frame = .verbatim block) (hbody : b.body = []) : Belongs top? .verbatimText

namespace OpenBlock

variable {b : OpenBlock} {n : Node}

/-- A node that may stand in the block is added to its body. -/
theorem add_of_holds (h : b.frame.Holds n.kind) : b.add n = { b with body := b.body ++ [n] } := by
  obtain ⟨opener, frame, body⟩ := b
  cases frame with
  | extension call? =>
    obtain ⟨name, hname⟩ := h
    simp [add, hname]
  | _ => rfl

/-- A statement is dropped directly inside of an `@extend`. -/
theorem add_of_statement {call? : Option Call} (hf : b.frame = .extension call?)
    (h : n.kind.isStatement = true) : b.add n = b := by
  obtain ⟨opener, frame, body⟩ := b
  cases hf
  cases hk : n.kind with
  | slot name =>
    rw [hk] at h
    cases h
  | _ => simp [add, hk]

/-- A sound node that the body takes keeps the block sound. -/
theorem Sound.append (hb : b.Sound) (hn : n.Sound) (h : b.frame.Holds n.kind)
    (hfill : ∀ block, b.frame = .verbatim block → b.body = []) : (b.add n).Sound := by
  rw [add_of_holds h]
  refine ⟨hb.opener, List.forall_mem_append.2 ⟨hb.body, by simpa using ⟨hn, h⟩⟩, hb.chosen, ?_⟩
  intro block hf
  simp [hfill block hf]

/-- A sound node keeps the block sound wherever it belongs. -/
theorem Sound.add (hb : b.Sound) (hn : n.Sound) (hp : Belongs (some b) n.kind) :
    (b.add n).Sound := by
  generalize hk : n.kind = kind at hp
  cases hp with
  | statement hkind htop =>
    have hplain := htop b rfl
    cases hf : b.frame with
    | extension call? =>
      rw [add_of_statement hf (hk ▸ hkind)]
      exact hb
    | verbatim block => exact absurd hf (hplain block)
    | _ => exact hb.append hn (by rw [hf, hk]; exact hkind) (by simp [hf])
  | @slot c call? name htop hf =>
    obtain rfl := Option.some.inj htop
    exact hb.append hn (by rw [hf, hk]; exact ⟨name, rfl⟩) (by simp [hf])
  | @text c block htop hf hbody =>
    obtain rfl := Option.some.inj htop
    exact hb.append hn (by rw [hf, hk]; rfl) fun _ _ => hbody

end OpenBlock

/-! ## Drafts -/

namespace Draft

/-- The action adds nothing but a statement and opens no content block. -/
def Action.IsPlain : Action → Prop
  | .leaf kind => kind.isStatement = true
  | .begin frame => ∀ name, frame ≠ .slot name
  | _ => True

/-- The action adds a node where it may stand and opens content blocks in an `@extend` only. -/
def Action.Fits (top? : Option OpenBlock) : Action → Prop
  | .leaf kind => Belongs top? kind
  | .begin frame => ∀ name, frame = .slot name →
      ∃ b call?, top? = some b ∧ b.frame = .extension call?
  | _ => True

/-- An action that adds a statement fits anywhere but in a verbatim block. -/
theorem Action.IsPlain.fits {a : Action} (h : a.IsPlain) {top? : Option OpenBlock}
    (htop : ∀ b, top? = some b → ∀ block, b.frame ≠ .verbatim block) : a.Fits top? := by
  cases a with
  | leaf kind => exact .statement h htop
  | begin frame => exact fun name hf => absurd hf (h name)
  | _ => trivial

/-- Among statements a token adds nothing but statements. -/
theorem isPlain_statementMove [Alphabet] (atRoot : Bool) (t : Token) :
    (statementMove atRoot t).action.IsPlain := by
  have hreading {α : Type} (reading : Except Problem α) {act : α → Action}
      (hact : ∀ a, (act a).IsPlain) : (Move.ofReading reading act).action.IsPlain := by
    cases reading with
    | ok a => exact hact a
    | error problem => trivial
  have hdeclaration {α : Type} (directive : LineDirective) (reading : Except Problem α)
      {act : α → Action} (hact : ∀ a, (act a).IsPlain) :
      (declarationMove atRoot directive reading act).action.IsPlain := by
    unfold declarationMove
    split
    · exact hreading reading hact
    · trivial
  cases hk : t.kind with
  | line directive =>
    cases directive with
    | argument | context | importing =>
      simp only [statementMove, hk]
      exact hdeclaration _ _ fun _ => trivial
    | inclusion | yield =>
      simp only [statementMove, hk]
      exact hreading _ fun _ => rfl
    | extension | content | condition | loop =>
      simp only [statementMove, hk]
      exact fun name => by simp
  | display how =>
    simp only [statementMove, hk]
    split
    · trivial
    · exact rfl
  | verbatim block =>
    simp only [statementMove, hk]
    exact fun name => by simp
  | literal =>
    simp only [statementMove, hk]
    exact rfl
  | endOfInput | illegal | otherwise | close =>
    simp only [statementMove, hk]
    trivial

/-- Directly inside of an `@extend` a token does what fits there. -/
theorem fits_extensionMove [Alphabet] {b : OpenBlock} {call? : Option Call}
    (hf : b.frame = .extension call?)
    (t : Token) : (extensionMove b.body t).action.Fits (some b) := by
  have hstatement : (statementMove false t).action.Fits (some b) := by
    refine (isPlain_statementMove false t).fits fun c hc block hv => ?_
    obtain rfl := Option.some.inj hc
    rw [hf] at hv
    cases hv
  cases hk : t.kind with
  | line directive =>
    cases directive with
    | content =>
      simp only [extensionMove, hk]
      exact fun _ _ => ⟨b, call?, rfl, hf⟩
    | _ =>
      simp only [extensionMove, hk]
      exact hstatement
  | literal | illegal | otherwise | close =>
    simp only [extensionMove, hk]
    trivial
  | endOfInput | display _ | verbatim _ =>
    simp only [extensionMove, hk]
    exact hstatement

/-- A token does what fits to a draft that it may follow. -/
theorem Follows.fits [Alphabet] {d : Draft} {t : Token} (h : d.Follows t) :
    (move d.blocks.head? t).action.Fits d.blocks.head? := by
  cases hb : d.blocks with
  | nil => exact (isPlain_statementMove true t).fits (by simp)
  | cons b outer =>
    rw [List.head?_cons]
    cases hf : b.frame with
    | verbatim block =>
      rw [move_verbatim hf h.notEnd]
      rcases h.kind_of_verbatim hb hf with ⟨hk, hbody⟩ | hk
      · simp only [verbatimMove, hk]
        exact .text rfl hf hbody
      · simp only [verbatimMove, hk]
        trivial
    | extension call? =>
      rw [move_extension hf h.notEnd]
      exact fits_extensionMove hf t
    | condition | otherwise _ _ | loop _ | slot _ | strayContent =>
      have htakes : b.frame.takesStatements = true := by rw [hf]; rfl
      rcases move_cases htakes h.notEnd with ⟨-, hmove⟩ | ⟨-, -, hmove⟩ | ⟨-, -, hmove⟩
      · simp [hmove, Action.Fits]
      · simp [hmove, Action.Fits]
      · rw [hmove]
        refine (isPlain_statementMove false t).fits fun c hc block hv => ?_
        obtain rfl := Option.some.inj hc
        rw [hf] at hv
        cases hv

/-- What has been read so far is in shape: the nodes of the root and of all open blocks, and the
function blocks. A content block is open only directly inside of an `@extend`. -/
structure Sound (d : Draft) : Prop where
  body : ∀ n ∈ d.body, n.Sound ∧ n.kind.isStatement = true
  blocks : ∀ b ∈ d.blocks, b.Sound
  slots : ∀ x outer, x :: outer <:+ d.heads → ∀ name, x.2 = .slot name →
    ∃ y ∈ outer.head?, ∃ call?, y.2 = .extension call?
  functions : ∀ n ∈ d.declarations.functions, n.Sound ∧ n.kind = .verbatim .function

variable {d : Draft} {t : Token}

/-- Reporting keeps the draft sound. -/
theorem Sound.reportAll (hd : d.Sound) (ps : List Problem) : (d.reportAll t ps).Sound :=
  ⟨hd.body, hd.blocks, hd.slots, hd.functions⟩

/-- Without the innermost block the others are still in shape. -/
theorem Sound.of_cons (hd : d.Sound) {b : OpenBlock} {outer : List OpenBlock}
    (hb : d.blocks = b :: outer) : ({ d with blocks := outer } : Draft).Sound := by
  refine ⟨hd.body, fun c hc => hd.blocks c (by simp [hb, hc]), fun x rest hx => ?_, hd.functions⟩
  refine hd.slots x rest (hx.trans ?_)
  rw [heads_of_cons hb]
  exact List.suffix_cons _ _

/-- A sound node keeps the draft sound wherever it belongs. -/
theorem Sound.add (hd : d.Sound) {n : Node} (hn : n.Sound) (hp : Belongs d.blocks.head? n.kind) :
    (d.add n).Sound := by
  have hslots := hd.slots
  rw [← heads_add d n] at hslots
  have hfunctions := hd.functions
  rw [← add_declarations d n] at hfunctions
  refine ⟨?_, ?_, hslots, hfunctions⟩
  · cases hb : d.blocks with
    | nil =>
      rw [add_of_nil hb]
      rw [hb] at hp
      have hkind : n.kind.isStatement = true := by
        generalize n.kind = kind at hp
        cases hp with
        | statement hkind => exact hkind
        | slot name htop => cases htop
        | text htop => cases htop
      exact List.forall_mem_append.2 ⟨hd.body, by simpa using ⟨hn, hkind⟩⟩
    | cons b outer =>
      rw [add_of_cons hb]
      exact hd.body
  · cases hb : d.blocks with
    | nil => simp [add_of_nil hb, hb]
    | cons b outer =>
      rw [add_of_cons hb]
      rw [hb] at hp
      have hblocks := hd.blocks
      rw [hb] at hblocks
      obtain ⟨hsound, houter⟩ := List.forall_mem_cons.1 hblocks
      exact List.forall_mem_cons.2 ⟨hsound.add hn hp, houter⟩

/-- The node of a block that is closed stands where it may in the block around it. -/
theorem Sound.belongs_of_node? (hd : d.Sound) (hwf : d.WellFormed) {b : OpenBlock}
    {outer : List OpenBlock} (hb : d.blocks = b :: outer) {n : Node} (hn : b.node? = some n)
    (hf : b.frame ≠ .verbatim .function) : Belongs outer.head? n.kind := by
  have hheads := heads_of_cons hb
  rcases OpenBlock.kind_of_node? hn hf with hkind | ⟨name, hslot, hkind⟩
  · refine .statement hkind fun c hc block hv => ?_
    refine hwf.innermost (c.opener?, c.frame) ?_ block hv
    rw [hheads]
    exact List.mem_map_of_mem (List.mem_of_mem_head? hc)
  · have hself : (b.opener?, b.frame) :: outer.map (fun b => (b.opener?, b.frame)) <:+ d.heads :=
      ⟨[], hheads.symm⟩
    obtain ⟨y, hy, call?, hcall⟩ := hd.slots _ _ hself name hslot
    rw [Option.mem_def, List.head?_map, Option.map_eq_some_iff] at hy
    obtain ⟨c, hc, rfl⟩ := hy
    rw [hkind]
    exact .slot name hc hcall

/-- Closing a block keeps the draft sound. -/
theorem Sound.close (hd : d.Sound) (hwf : d.WellFormed) : d.close.Sound := by
  cases hb : d.blocks with
  | nil => simpa [Draft.close, hb] using hd
  | cons b outer =>
    have hrest := hd.of_cons hb
    have hblock : b.Sound := hd.blocks b (by simp [hb])
    rcases close_cases hb with
      ⟨-, hc⟩ | ⟨hf, -, hc⟩ | ⟨-, -, opener, -, hc⟩ | ⟨n, hn, hf, hc⟩
    · rw [hc]
      exact hrest
    · rw [hc]
      have hnode : b.node? = some ⟨.verbatim .function, b.opener?, b.body⟩ := by
        simp [OpenBlock.node?, hf]
      refine ⟨hrest.body, hrest.blocks, hrest.slots, ?_⟩
      refine List.forall_mem_append.2 ⟨hrest.functions, ?_⟩
      simpa using hblock.node hnode
    · rw [hc]
      exact ⟨hrest.body, hrest.blocks, hrest.slots, hrest.functions⟩
    · rw [hc]
      exact hrest.add (hblock.node hn) (hd.belongs_of_node? hwf hb hn hf)

/-- Opening a block keeps the draft sound, if a content block is opened in an `@extend`. -/
theorem Sound.begin (hd : d.Sound) {frame : Frame} (hturn : ∀ u ns, frame ≠ .otherwise u ns)
    (hslot : ∀ name, frame = .slot name →
      ∃ b call?, d.blocks.head? = some b ∧ b.frame = .extension call?) :
    (d.begin t frame).Sound := by
  refine ⟨hd.body, ?_, ?_, hd.functions⟩
  · refine List.forall_mem_cons.2
      ⟨⟨by simp, by simp, fun u ns hf => absurd hf (hturn u ns), by simp⟩, ?_⟩
    exact hd.blocks
  · intro x outer hx name hf
    have hx : x :: outer <:+ (some t, frame) :: d.heads := hx
    rcases List.suffix_cons_iff.1 hx with heq | hx
    · obtain ⟨rfl, rfl⟩ := List.cons.inj heq
      obtain ⟨b, call?, hb, hcall⟩ := hslot name hf
      exact ⟨(b.opener?, b.frame), by simp [heads, hb], call?, hcall⟩
    · exact hd.slots x outer hx name hf

/-- Turning to the alternative keeps the draft sound. -/
theorem Sound.turn (hd : d.Sound) {b : OpenBlock} {outer : List OpenBlock}
    (hb : d.blocks = b :: outer) (hf : b.frame = .condition) : (d.turn b outer t).Sound := by
  have hrest := hd.of_cons hb
  have hblock := hd.blocks b (by simp [hb])
  have hbody := hblock.body
  rw [hf] at hbody
  refine ⟨hd.body, ?_, ?_, hd.functions⟩
  · refine List.forall_mem_cons.2 ⟨⟨by simp, by simp, fun u ns heq => ?_, by simp⟩, hrest.blocks⟩
    cases heq
    exact ⟨hblock.opener, hbody⟩
  · intro x rest hx name hname
    have hx : x :: rest <:+
        (some t, .otherwise b.opener? b.body) :: outer.map fun b => (b.opener?, b.frame) := hx
    rcases List.suffix_cons_iff.1 hx with heq | hx
    · obtain ⟨rfl, rfl⟩ := List.cons.inj heq
      cases hname
    · exact hrest.slots x rest hx name hname

/-- A token keeps the draft sound. -/
theorem Sound.step [Alphabet] (hd : d.Sound) (h : d.Follows t) : (d.step t).Sound := by
  have hfits := h.fits
  have hsuits := h.suits
  have hreported := hd.reportAll (t := t) (move d.blocks.head? t).problems
  rw [step_eq, apply]
  cases ha : (move d.blocks.head? t).action with
  | skip => exact hreported
  | argument _ | context _ | importing _ =>
    exact ⟨hreported.body, hreported.blocks, hreported.slots, hreported.functions⟩
  | leaf kind =>
    rw [ha] at hfits
    exact hreported.add (Node.sound_leaf kind t) hfits
  | begin frame =>
    rw [ha] at hfits hsuits
    refine hreported.begin (fun u ns hf => ?_) hfits
    obtain ⟨hopens, hkind⟩ := hsuits
    rw [← hkind, hf] at hopens
    cases hopens
  | close => exact hreported.close ⟨h.wellFormed.fits, h.wellFormed.innermost⟩
  | turn =>
    rw [ha] at hsuits
    obtain ⟨-, b, hb, hf⟩ := hsuits
    obtain ⟨outer, hb⟩ := List.head?_eq_some_iff.1 hb
    rw [perform_turn (d := d.reportAll t _) hb]
    exact hreported.turn hb hf

/-- The tree and the function blocks of a document are in shape. -/
theorem sound_parse [Alphabet] (source : Text) :
    let doc := Document.parse source
    doc.root.kind = .root ∧ doc.root.token? = none ∧ (∀ n ∈ doc.root.nodes, n.Shaped) ∧
      ∀ n ∈ doc.declarations.functions, n.Sound ∧ n.kind = .verbatim .function := by
  have hstart : ({} : Draft).Sound := ⟨by simp, by simp, by simp [heads], by simp⟩
  obtain ⟨hread, hwf⟩ := read_induction (P := fun d _ => d.Sound) source hstart
    fun d read t h hd => hd.step h
  have hkind : (tokenize source).last.kind = .endOfInput :=
    (tiles_tokenize source).last_of_append.1
  obtain ⟨hsound, -⟩ := finish_induction (P := Sound) hkind
    (by
      intro d b outer hwf hb hd
      rw [step_end hb hkind]
      exact (hd.reportAll _).close ⟨hwf.fits, hwf.innermost⟩)
    hwf hread
  refine ⟨rfl, rfl, ?_, hsound.functions⟩
  exact Node.forall_nodes (Node.shaped_of_statements (fun child hc => hc) hsound.body)
    fun c hc => (hsound.body c hc).1

end Draft

/-! ## Reports that are never made -/

namespace Problem

/-- Of the tokens that are out of place, only those in a verbatim block are worded like that. -/
theorem not_suffix_of_unexpected : ∀ kind ∈ TokenKind.all,
    ¬ " in verbatim block".toList <:+ (unexpected kind).message ∧
      ¬ " in verbatim block".toList <:+ (unexpectedInExtend kind).message := by
  decide +kernel

/-- Only a token in a verbatim block is reported with this start and this end. -/
theorem eq_unexpectedInVerbatim {p : Problem} (h : p.Arises)
    (hstart : "unexpected ".toList <+: p.message)
    (hstop : " in verbatim block".toList <:+ p.message) :
    ∃ kind, p = unexpectedInVerbatim kind := by
  have htake : p.message.take 3 = "une" := by
    obtain ⟨rest, hrest⟩ := hstart
    rw [← hrest]
    rfl
  obtain ⟨kind, hp⟩ := eq_unexpected_of_take h htake
  obtain ⟨hunexpected, hextend⟩ := not_suffix_of_unexpected kind kind.mem_all
  rcases hp with rfl | rfl | rfl
  · exact absurd hstop hunexpected
  · exact absurd hstop hextend
  · exact ⟨kind, rfl⟩

/-- A block that is not closed is always named. -/
theorem message_ne_missing {p : Problem} (h : p.Arises) :
    p.message ≠ "missing `@end`, unexpected end of input" := by
  intro hm
  obtain ⟨kind, line, rfl⟩ := eq_missingEnd_of_head h (by rw [hm]; rfl)
  have hnext : (missingEnd kind line).message[14]? = some ' ' := rfl
  rw [hm] at hnext
  exact absurd hnext (by decide)

end Problem

/-- The shape of the tree and of the function blocks of any source. Only the root is of its kind and
has no token. An alternative is the last child of a condition, and there is at most one. Content
blocks are the children of `@extend`, and text of verbatim blocks is their only child. Function
blocks are declared and never part of the tree, and other nodes without a body are leaves. Two
reports are never made, neither by the stack of open blocks nor by descent: that a token is out of
place in a verbatim block, and that a block which no token opened is not closed. -/
theorem tree_shape [Alphabet] (source : Text) :
    let doc := Document.parse source
    let functions := doc.declarations.functions
    let nodes := doc.root.nodes ++ functions.flatMap Node.nodes
    (doc.root.kind = .root ∧ doc.root.token? = none ∧
        ∀ n ∈ nodes.tail, n.kind ≠ .root ∧ n.token? ≠ none) ∧
      (∀ n ∈ nodes, (∀ c ∈ n.children, c.kind = .otherwise → n.kind = .condition) ∧
        ∀ c ∈ n.children.dropLast, c.kind ≠ .otherwise) ∧
      (∀ n ∈ nodes, ∀ c ∈ n.children,
        (∃ name, c.kind = .slot name) ↔ ∃ call, n.kind = .extension call) ∧
      (∀ n ∈ nodes,
        (∀ c ∈ n.children, c.kind = .verbatimText ↔ ∃ block, n.kind = .verbatim block) ∧
          ∀ block, n.kind = .verbatim block → n.children.length ≤ 1) ∧
      ((∀ n ∈ doc.root.nodes, n.kind ≠ .verbatim .function) ∧
        ∀ n ∈ functions, n.kind = .verbatim .function) ∧
      (∀ n ∈ nodes, n.kind.isLeaf = true → n.children = []) ∧
      ∀ x, x ∈ doc.diagnostics ∨ x ∈ (Document.descend source).1.diagnostics →
        ¬ ("unexpected ".toList <+: x.message ∧ " in verbatim block".toList <:+ x.message) ∧
          x.message ≠ "missing `@end`, unexpected end of input" ∧
          (∀ kind, x.problem ≠ .unexpectedInVerbatim kind) ∧
          x.problem ≠ .missingEndOfUnopened := by
  intro doc functions nodes
  obtain ⟨hkind, htoken, htree, hfunctions⟩ := Draft.sound_parse source
  have hshaped : ∀ n ∈ nodes, n.Shaped := by
    refine List.forall_mem_append.2 ⟨htree, fun n hn => ?_⟩
    obtain ⟨f, hf, hn⟩ := List.mem_flatMap.1 hn
    exact (hfunctions f hf).1.shaped n hn
  have hholds : ∀ n ∈ nodes, ∀ c ∈ n.children, n.kind.Holds c.kind := fun n hn =>
    (hshaped n hn).holds
  have hbelow := Node.below_of_shaped htree
  refine ⟨⟨hkind, htoken, fun n hn => ?_⟩, fun n hn => ⟨fun c hc hk => ?_, ?_⟩,
    fun n hn c hc => ?_, fun n hn => ⟨fun c hc => ?_, ?_⟩, ⟨fun n hn hk => ?_, ?_⟩,
    fun n hn hleaf => ?_, fun x hx => ?_⟩
  · have hne : doc.root.nodes ≠ [] := by
      rw [Node.nodes_eq_cons]
      simp
    rw [List.tail_append_of_ne_nil hne, List.mem_append, List.mem_flatMap] at hn
    rcases hn with hn | ⟨f, hf, hn⟩
    · exact ⟨(hbelow n hn).1, (hbelow n hn).2.2⟩
    · obtain ⟨hsound, hfunction⟩ := hfunctions f hf
      rw [Node.nodes_eq_cons] at hn
      rcases List.mem_cons.1 hn with rfl | hn
      · exact ⟨by simp [hfunction], hsound.token⟩
      · have hinner := Node.below_of_shaped hsound.shaped n hn
        exact ⟨hinner.1, hinner.2.2⟩
  · exact (hk ▸ hholds n hn c hc).condition_of_otherwise
  · exact (hshaped n hn).turned
  · exact (hholds n hn c hc).slot_iff
  · exact (hholds n hn c hc).verbatimText_iff
  · exact (hshaped n hn).single
  · rw [Node.nodes_eq_cons] at hn
    rcases List.mem_cons.1 hn with rfl | hn
    · rw [show doc.root.kind = _ from hkind] at hk
      cases hk
    · exact (hbelow n hn).2.1 hk
  · exact fun n hn => (hfunctions n hn).2
  · refine List.eq_nil_iff_forall_not_mem.2 fun c hc => ?_
    have hinner := (hholds n hn c hc).not_leaf
    rw [hleaf] at hinner
    cases hinner
  · rw [descend_eq, or_self] at hx
    have harises : x.problem.Arises := (Draft.reports_parse source).2 x hx
    have hverbatim : ∀ kind, x.problem ≠ .unexpectedInVerbatim kind := by
      intro kind hk
      obtain ⟨t, -, p, rfl, hp⟩ := Draft.attributed_parse source x hx
      obtain rfl : p = _ := hk
      exact hp
    refine ⟨?_, Problem.message_ne_missing harises, hverbatim, fun hk => ?_⟩
    · rintro ⟨hstart, hstop⟩
      obtain ⟨kind, hk⟩ := Problem.eq_unexpectedInVerbatim harises hstart hstop
      exact hverbatim kind hk
    · rw [hk] at harises
      exact harises

/-- A page that is cut off in a function block inside of an alternative. A draft with a block that
no token opened would be reported by the end of the input, but no page leads to one. -/
theorem tree_shape_of_cut_page :
    let page : Text := "@extend x\n@content c\n@if a\n@code b @end@else@func f"
    let doc := Document.parse page
    (∃ n ∈ doc.root.nodes, ∃ c ∈ n.children, c.kind = .otherwise ∧ n.kind = .condition ∧
        ∀ c ∈ n.children.dropLast, c.kind ≠ .otherwise) ∧
      (∃ n ∈ doc.root.nodes, ∃ c ∈ n.children, c.kind = .slot "c" ∧
        ∃ call, n.kind = .extension call) ∧
      (∃ n ∈ doc.root.nodes, n.kind = .verbatim .code ∧ n.children.length ≤ 1) ∧
      (∃ n ∈ doc.root.nodes, n.kind = .verbatimText ∧ n.children = []) ∧
      (∃ x ∈ doc.diagnostics, x.problem = .nestedFunction ∧
        x.message ≠ "missing `@end`, unexpected end of input") ∧
      (Problem.unclosed none).message = "missing `@end`, unexpected end of input" ∧
      (({ blocks := [{ opener? := none, frame := .condition }] } : Draft).finish
        (tokenize page).last).diagnostics.map Diagnostic.problem = [.missingEndOfUnopened] := by
  intro page doc
  have hturn : (doc.root.nodes.any fun n => n.children.any fun c => c.kind = .otherwise) := by
    decide +kernel
  have hslot : (doc.root.nodes.any fun n => n.children.any fun c => c.kind = .slot "c") := by
    decide +kernel
  have hcode : (doc.root.nodes.any fun n => n.kind = .verbatim .code) := by decide +kernel
  have htext : (doc.root.nodes.any fun n => n.kind = .verbatimText) := by decide +kernel
  have hreport : (doc.diagnostics.any fun x => x.problem = .nestedFunction) := by decide +kernel
  simp only [List.any_eq_true, decide_eq_true_eq] at hturn hslot hcode htext hreport
  obtain ⟨-, hturned, hslots, hverbatim, -, hleaves, hreports⟩ := tree_shape page
  refine ⟨?_, ?_, ?_, ?_, ?_, by decide, by decide +kernel⟩
  · obtain ⟨n, hn, c, hc, hk⟩ := hturn
    obtain ⟨hcondition, hlast⟩ := hturned n (List.mem_append_left _ hn)
    exact ⟨n, hn, c, hc, hk, hcondition c hc hk, hlast⟩
  · obtain ⟨n, hn, c, hc, hk⟩ := hslot
    exact ⟨n, hn, c, hc, hk, (hslots n (List.mem_append_left _ hn) c hc).1 ⟨_, hk⟩⟩
  · obtain ⟨n, hn, hk⟩ := hcode
    exact ⟨n, hn, hk, (hverbatim n (List.mem_append_left _ hn)).2 .code hk⟩
  · obtain ⟨n, hn, hk⟩ := htext
    exact ⟨n, hn, hk, hleaves n (List.mem_append_left _ hn) (by rw [hk]; rfl)⟩
  · obtain ⟨x, hx, hp⟩ := hreport
    exact ⟨x, hx, hp, (hreports x (Or.inl hx)).2.1⟩

end Stencil
