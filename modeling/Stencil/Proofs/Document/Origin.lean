import Stencil.Proofs.Document.Conservation

/-!
# Where nodes come from

A node is made from a token: its sort is the sort of the token, and what it says is what the payload
of the token was read as (`NodeKind.MadeFrom`). This holds of every node below the root of a
document, whatever problems the source has (`made_parse`). A block that is open keeps what it was
made from in its frame until it is closed.

The payload of a directive ends with its line and an expression that is displayed ends on its line,
so that no payload goes over the end of a line (`lineEnd_not_mem_text`).
-/

set_option autoImplicit false

namespace Stencil

/-! ## Payloads stay on their line -/

namespace Text

/-- Trimming adds no characters. -/
theorem trim_subset (t : Text) : t.trim ⊆ t := by
  intro c hc
  rw [trim, trimEnd, List.mem_reverse] at hc
  have hc := (List.dropWhile_sublist _).subset hc
  rw [List.mem_reverse, trimStart] at hc
  exact (List.dropWhile_sublist _).subset hc

end Text

/-- The text of a lexeme is on one line, unless it is literal or illegal. -/
theorem Lexeme.Form.lineEnd_not_mem {l : Lexeme} (h : Form l) (hliteral : l.kind ≠ .literal)
    (hlegal : l.kind ≠ .illegal) : '\n' ∉ l.text := by
  cases h with
  | plain | doubled => exact absurd rfl hliteral
  | unclosedComment | unclosedDisplay | strayMark | unknown => exact absurd rfl hlegal
  | endOfInput | verbatim | otherwise | close => exact List.not_mem_nil
  | display how he => exact fun hmem => (he _ (Text.trim_subset _ hmem)).2 rfl
  | line directive hp => exact fun hmem => hp (Text.trim_subset _ hmem)

namespace Cursor

/-- The text of the lexeme that a cursor reads is on one line, unless it is literal or illegal. -/
theorem lineEnd_not_mem_lexeme (c : Cursor) (hliteral : c.lexeme.kind ≠ .literal)
    (hlegal : c.lexeme.kind ≠ .illegal) : '\n' ∉ c.lexeme.text := by
  have htemplate : ∀ t, (Lexeme.ofTemplate t).kind ≠ .literal →
      (Lexeme.ofTemplate t).kind ≠ .illegal → '\n' ∉ (Lexeme.ofTemplate t).text := by
    intro t
    exact (Lexeme.form_ofUncommented (Lexeme.comment?_skipComments t)).lineEnd_not_mem
  revert hliteral hlegal
  unfold lexeme Lexeme.read
  split
  · rcases Lexeme.ofVerbatim_cases c.rest with ⟨-, hread⟩ | ⟨-, hread⟩ | ⟨_, _, -, -, -, hread⟩
    · rw [hread]
      exact htemplate c.rest
    · rw [hread]
      exact htemplate c.rest
    · rw [hread]
      exact fun hliteral => absurd rfl hliteral
  · exact htemplate c.rest

/-- The texts of all tokens that a cursor reads are on one line, unless literal or illegal. -/
theorem lineEnd_not_mem_stream (c : Cursor) : ∀ t ∈ c.stream.tokens, t.kind ≠ .literal →
    t.kind ≠ .illegal → '\n' ∉ t.text := by
  induction hn : c.rest.length using Nat.strong_induction_on generalizing c with
  | h n ih =>
  by_cases hk : c.next.1.kind = .endOfInput
  · rw [stream_of_end hk]
    exact List.forall_mem_nil _
  · rw [stream_of_next hk]
    have hlt : c.next.2.rest.length < n := hn ▸ next_rest_lt hk
    exact List.forall_mem_cons.2 ⟨c.lineEnd_not_mem_lexeme, ih _ hlt c.next.2 rfl⟩

end Cursor

/-- No token but literal text and illegal text goes over the end of a line. -/
theorem lineEnd_not_mem_text (source : Text) : ∀ t ∈ (tokenize source).tokens,
    t.kind ≠ .literal → t.kind ≠ .illegal → '\n' ∉ t.text :=
  (Cursor.start source).lineEnd_not_mem_stream

/-! ## What a node is made from -/

variable [Alphabet]

/-- The token is of the right sort for such a node, and its payload was read as what the node
says. -/
def NodeKind.MadeFrom (t : Token) : NodeKind → Prop
  | root => False
  | literal | verbatimText => t.kind = .literal
  | display how => t.kind = .display how
  | verbatim block => t.kind = .verbatim block
  | inclusion call => t.kind = .line .inclusion ∧ Call.read .inclusion t.text = .ok call
  | extension call => t.kind = .line .extension ∧ Call.read .extension t.text = .ok call
  | slot name => t.kind = .line .content ∧ name = t.text
  | yield name => t.kind = .line .yield ∧ readContentName .yield t.text = .ok name
  | condition => t.kind = .line .condition
  | otherwise => t.kind = .otherwise
  | loop head => t.kind = .line .loop ∧ LoopHead.read t.text = .ok head

/-- The node and all nodes below it are made from their tokens. -/
def Node.Made (n : Node) : Prop :=
  ∀ m ∈ n.nodes, ∃ t, m.token? = some t ∧ m.kind.MadeFrom t

/-- A node is made from its token if it fits it and its children are made from theirs. -/
theorem Node.made_mk {kind : NodeKind} {t : Token} {children : List Node} (hkind : kind.MadeFrom t)
    (h : ∀ c ∈ children, c.Made) : Made ⟨kind, some t, children⟩ := by
  rw [Made, nodes_mk]
  refine List.forall_mem_cons.2 ⟨⟨t, rfl, hkind⟩, ?_⟩
  intro m hm
  obtain ⟨c, hc, hm⟩ := List.mem_flatMap.1 hm
  exact h c hc m hm

/-- The node that such a block becomes will be made from the token. -/
def Frame.MadeFrom (t : Token) : Frame → Prop
  | .condition => NodeKind.condition.MadeFrom t
  | .otherwise first? chosen =>
    NodeKind.otherwise.MadeFrom t ∧
      (∃ first, first? = some first ∧ NodeKind.condition.MadeFrom first) ∧ ∀ n ∈ chosen, n.Made
  | .loop head? => ∀ head ∈ head?, (NodeKind.loop head).MadeFrom t
  | .extension call? => ∀ call ∈ call?, (NodeKind.extension call).MadeFrom t
  | .slot name => (NodeKind.slot name).MadeFrom t
  | .strayContent => True
  | .verbatim block => (NodeKind.verbatim block).MadeFrom t

namespace OpenBlock

/-- The block and what stands in it are made from their tokens. -/
structure Made (b : OpenBlock) : Prop where
  frame : ∃ opener, b.opener? = some opener ∧ b.frame.MadeFrom opener
  body : ∀ n ∈ b.body, n.Made

variable {b : OpenBlock} {n : Node}

/-- A block stays made from its tokens when such a node is added. -/
theorem Made.add (hb : b.Made) (hn : n.Made) : (b.add n).Made := by
  have happend : ∀ m ∈ b.body ++ [n], m.Made :=
    List.forall_mem_append.2 ⟨hb.body, List.forall_mem_singleton.2 hn⟩
  unfold OpenBlock.add
  split
  · exact ⟨hb.frame, happend⟩
  · exact hb
  · exact ⟨hb.frame, happend⟩

/-- The node that a block made from its tokens becomes is made from its tokens. -/
theorem Made.node (hb : b.Made) (h : b.node? = some n) : n.Made := by
  obtain ⟨opener?, frame, body⟩ := b
  obtain ⟨⟨opener, rfl, hframe⟩, hbody⟩ := hb
  cases frame with
  | condition | slot _ | verbatim _ =>
    cases h
    exact Node.made_mk hframe hbody
  | otherwise condition? chosen =>
    cases h
    obtain ⟨hotherwise, ⟨condition, rfl, hcondition⟩, hchosen⟩ := hframe
    refine Node.made_mk hcondition (List.forall_mem_append.2 ⟨hchosen, ?_⟩)
    exact List.forall_mem_singleton.2 (Node.made_mk hotherwise hbody)
  | loop head? =>
    obtain ⟨head, hhead, rfl⟩ := Option.map_eq_some_iff.1 h
    exact Node.made_mk (hframe head hhead) hbody
  | extension call? =>
    obtain ⟨call, hcall, rfl⟩ := Option.map_eq_some_iff.1 h
    exact Node.made_mk (hframe call hcall) hbody
  | strayContent => cases h

end OpenBlock

namespace Draft

/-- The nodes and blocks that the action adds are made from the token. -/
def Action.MadeFrom (t : Token) : Action → Prop
  | .leaf kind => kind.MadeFrom t
  | .begin frame => frame.MadeFrom t
  | _ => True

omit [Alphabet] in
/-- What a reading gives is what it succeeds with. -/
theorem eq_ok_of_mem_toOption {α : Type} {reading : Except Problem α} {a : α}
    (h : a ∈ reading.toOption) : reading = .ok a := by
  cases reading with
  | ok b => exact congrArg Except.ok (Option.some.inj h)
  | error problem => cases h

/-- What a token adds among statements is made from it. -/
theorem madeFrom_statementMove (atRoot : Bool) (t : Token) :
    (statementMove atRoot t).action.MadeFrom t := by
  have hreading {α : Type} (reading : Except Problem α) {act : α → Action}
      (hact : ∀ a, reading = .ok a → (act a).MadeFrom t) :
      (Move.ofReading reading act).action.MadeFrom t := by
    cases reading with
    | ok a => exact hact a rfl
    | error problem => trivial
  have hdeclaration {α : Type} (directive : LineDirective) (reading : Except Problem α)
      {act : α → Action} (hact : ∀ a, (act a).MadeFrom t) :
      (declarationMove atRoot directive reading act).action.MadeFrom t := by
    unfold declarationMove
    split
    · exact hreading reading fun a _ => hact a
    · trivial
  cases hk : t.kind with
  | line directive =>
    cases directive with
    | argument | context | importing =>
      simp only [statementMove, hk]
      exact hdeclaration _ _ fun _ => trivial
    | inclusion | yield =>
      simp only [statementMove, hk]
      exact hreading _ fun a hread => ⟨hk, hread⟩
    | extension | loop =>
      simp only [statementMove, hk]
      exact fun a ha => ⟨hk, eq_ok_of_mem_toOption ha⟩
    | content =>
      simp only [statementMove, hk]
      trivial
    | condition =>
      simp only [statementMove, hk]
      exact hk
  | display how =>
    simp only [statementMove, hk]
    split
    · trivial
    · exact hk
  | verbatim _ | literal =>
    simp only [statementMove, hk]
    exact hk
  | endOfInput | illegal | otherwise | close =>
    simp only [statementMove, hk]
    trivial

/-- What a token adds directly inside of an `@extend` is made from it. -/
theorem madeFrom_extensionMove (slots : List Node) (t : Token) :
    (extensionMove slots t).action.MadeFrom t := by
  have hstatement := madeFrom_statementMove false t
  cases hk : t.kind with
  | line directive =>
    cases directive with
    | content =>
      simp only [extensionMove, hk]
      exact ⟨hk, rfl⟩
    | _ =>
      simp only [extensionMove, hk]
      exact hstatement
  | literal | illegal | otherwise | close =>
    simp only [extensionMove, hk]
    trivial
  | endOfInput | display _ | verbatim _ =>
    simp only [extensionMove, hk]
    exact hstatement

/-- What a token adds to a draft that it may follow is made from it. -/
theorem Follows.madeFrom {d : Draft} {t : Token} (h : d.Follows t) :
    (move d.blocks.head? t).action.MadeFrom t := by
  cases hb : d.blocks with
  | nil => exact madeFrom_statementMove true t
  | cons b outer =>
    rw [List.head?_cons]
    cases hf : b.frame with
    | verbatim block =>
      rw [move_verbatim hf h.notEnd]
      rcases h.kind_of_verbatim hb hf with ⟨hk, -⟩ | hk
      · simp only [verbatimMove, hk]
        exact hk
      · simp only [verbatimMove, hk]
        trivial
    | extension call? =>
      rw [move_extension hf h.notEnd]
      exact madeFrom_extensionMove b.body t
    | condition | otherwise _ _ | loop _ | slot _ | strayContent =>
      have htakes : b.frame.takesStatements = true := by rw [hf]; rfl
      rcases move_cases htakes h.notEnd with ⟨-, hmove⟩ | ⟨-, -, hmove⟩ | ⟨-, -, hmove⟩
      · rw [hmove]
        trivial
      · rw [hmove]
        trivial
      · rw [hmove]
        exact madeFrom_statementMove false t

/-- All that has been read so far is made from its tokens. -/
structure Made (d : Draft) : Prop where
  body : ∀ n ∈ d.body, n.Made
  blocks : ∀ b ∈ d.blocks, b.Made

variable {d : Draft} {t : Token}

/-- A draft stays made from its tokens when such a node is added. -/
theorem Made.add (hd : d.Made) {n : Node} (hn : n.Made) : (d.add n).Made := by
  cases hb : d.blocks with
  | nil =>
    rw [add_of_nil hb]
    exact ⟨List.forall_mem_append.2 ⟨hd.body, List.forall_mem_singleton.2 hn⟩, hd.blocks⟩
  | cons b outer =>
    rw [add_of_cons hb]
    have hblocks := hd.blocks
    rw [hb] at hblocks
    obtain ⟨hinner, houter⟩ := List.forall_mem_cons.1 hblocks
    exact ⟨hd.body, List.forall_mem_cons.2 ⟨hinner.add hn, houter⟩⟩

/-- Closing a block makes a node from what the block was made from. -/
theorem Made.close (hd : d.Made) : d.close.Made := by
  cases hb : d.blocks with
  | nil => simpa [Draft.close, hb] using hd
  | cons b outer =>
    have hblocks := hd.blocks
    rw [hb] at hblocks
    obtain ⟨hinner, houter⟩ := List.forall_mem_cons.1 hblocks
    have hrest : ({ d with blocks := outer } : Draft).Made := ⟨hd.body, houter⟩
    rcases close_cases hb with
      ⟨-, hc⟩ | ⟨-, -, hc⟩ | ⟨-, -, opener, -, hc⟩ | ⟨n, hn, -, hc⟩
    · rw [hc]
      exact hrest
    · rw [hc]
      exact ⟨hrest.body, hrest.blocks⟩
    · rw [hc]
      exact ⟨hrest.body, hrest.blocks⟩
    · rw [hc]
      exact hrest.add (hinner.node hn)

/-- Turning to the alternative makes a block from the `@else`. -/
theorem Made.turn (hd : d.Made) {b : OpenBlock} {outer : List OpenBlock}
    (hb : d.blocks = b :: outer) (hf : b.frame = .condition) (hk : t.kind = .otherwise) :
    (d.turn b outer t).Made := by
  have hblocks := hd.blocks
  rw [hb] at hblocks
  obtain ⟨hinner, houter⟩ := List.forall_mem_cons.1 hblocks
  have hcondition := hinner.frame
  rw [hf] at hcondition
  exact ⟨hd.body, List.forall_mem_cons.2
    ⟨⟨⟨t, rfl, hk, hcondition, hinner.body⟩, List.forall_mem_nil _⟩, houter⟩⟩

/-- A token keeps the draft made from its tokens. -/
theorem Made.step (hd : d.Made) (h : d.Follows t) : (d.step t).Made := by
  have hmade := h.madeFrom
  have hsuits := h.suits
  have hreported : (d.reportAll t (move d.blocks.head? t).problems).Made := ⟨hd.body, hd.blocks⟩
  rw [step_eq, apply]
  cases ha : (move d.blocks.head? t).action with
  | skip => exact hreported
  | argument _ | context _ | importing _ => exact ⟨hreported.body, hreported.blocks⟩
  | leaf kind =>
    rw [ha] at hmade
    exact hreported.add (Node.made_mk hmade (List.forall_mem_nil _))
  | begin frame =>
    rw [ha] at hmade
    exact ⟨hd.body, List.forall_mem_cons.2 ⟨⟨⟨t, rfl, hmade⟩, List.forall_mem_nil _⟩, hd.blocks⟩⟩
  | close => exact hreported.close
  | turn =>
    rw [ha] at hsuits
    obtain ⟨hk, b, hb, hf⟩ := hsuits
    obtain ⟨outer, hb⟩ := List.head?_eq_some_iff.1 hb
    rw [perform_turn (d := d.reportAll t _) hb]
    exact hreported.turn hb hf hk

/-- Every node below the root of a document is made from a token of the source. -/
theorem made_parse (source : Text) : ∀ c ∈ (Document.parse source).root.children, ∀ n ∈ c.nodes,
    ∃ t ∈ (tokenize source).tokens, n.token? = some t ∧ n.kind.MadeFrom t := by
  have hstart : ({} : Draft).Made := ⟨List.forall_mem_nil _, List.forall_mem_nil _⟩
  obtain ⟨hread, hwf⟩ := read_induction (P := fun d _ => d.Made) source hstart
    fun d read t h hd => hd.step h
  have hkind : (tokenize source).last.kind = .endOfInput :=
    (tiles_tokenize source).last_of_append.1
  obtain ⟨hmade, -⟩ := finish_induction (P := Made) hkind
    (by
      intro d b outer _ hb hd
      rw [step_end hb hkind]
      exact Made.close ⟨hd.body, hd.blocks⟩)
    hwf hread
  intro c hc n hn
  obtain ⟨t, ht, hfrom⟩ := hmade.body c hc n hn
  refine ⟨t, (tokens_root_sublist source).subset ?_, ht, hfrom⟩
  -- The tokens of the tree are the tokens of its nodes.
  have htokens : (Document.parse source).root.tokens =
      Node.tokensAll (Document.parse source).root.children := Node.tokens_mk _ _ _
  rw [htokens, Node.tokensAll_eq]
  exact List.mem_filterMap.2 ⟨n, List.mem_flatMap.2 ⟨c, hc, hn⟩, ht⟩

end Draft

end Stencil
