import Stencil.Proofs.Document.Grammar

/-!
# The reader accepts the grammar

A source has no problems exactly if the grammar derives its tokens.

From the grammar to the reader, a derivation says what reading its tokens does to any draft in
which the construct may stand (`Reads`): a statement adds one node to the innermost block, and
nothing else changes.

From the reader to the grammar, the blocks that are open are derivations that have been begun
(`Begun`), each inside of the next (`Nested`). A token that reports nothing goes on with the
innermost one, begins another, or ends it and hands it to the one around it.
-/

set_option autoImplicit false

namespace Stencil

namespace Draft

/-! ## From the grammar to the reader -/

/-- Adds nodes to the innermost block as they are. -/
def grow (d : Draft) (ns : List Node) : Draft :=
  match d.blocks with
  | [] => { d with body := d.body ++ ns }
  | b :: outer => { d with blocks := { b with body := b.body ++ ns } :: outer }

/-- Outside of blocks the nodes are added to the body of the document. -/
theorem grow_of_nil {d : Draft} (h : d.blocks = []) (ns : List Node) :
    d.grow ns = { d with body := d.body ++ ns } := by
  simp [grow, h]

/-- Inside of a block the nodes are added to the body of the innermost one. -/
theorem grow_of_cons {d : Draft} {b : OpenBlock} {outer : List OpenBlock}
    (h : d.blocks = b :: outer) (ns : List Node) :
    d.grow ns = { d with blocks := { b with body := b.body ++ ns } :: outer } := by
  simp [grow, h]

/-- Adding no nodes changes nothing. -/
@[simp] theorem grow_nil (d : Draft) : d.grow [] = d := by
  cases hb : d.blocks with
  | nil => simp [grow_of_nil hb]
  | cons b outer => simp [grow_of_cons hb, ← hb]

/-- Nodes are added one after another. -/
theorem grow_grow (d : Draft) (ns ms : List Node) : (d.grow ns).grow ms = d.grow (ns ++ ms) := by
  cases hb : d.blocks with
  | nil => simp [grow, hb]
  | cons b outer => simp [grow, hb]

/-- Adding nodes reports nothing. -/
@[simp] theorem grow_diagnostics (d : Draft) (ns : List Node) :
    (d.grow ns).diagnostics = d.diagnostics := by
  unfold grow
  split <;> rfl

/-- The first nodes behind an opener are the body of the block so far. -/
theorem grow_begin (d : Draft) (o : Token) (frame : Frame) (ns : List Node) :
    (d.begin o frame).grow ns = { d with blocks := ⟨some o, frame, ns⟩ :: d.blocks } := rfl

/-- The sort of the innermost block stays the same. -/
theorem head?_grow {d : Draft} {ns : List Node} {b : OpenBlock}
    (h : (d.grow ns).blocks.head? = some b) : ∃ c, d.blocks.head? = some c ∧ b.frame = c.frame := by
  cases hb : d.blocks with
  | nil => simp [grow_of_nil hb, hb] at h
  | cons c outer =>
    rw [grow_of_cons hb, List.head?_cons, Option.some.injEq] at h
    exact ⟨c, rfl, by rw [← h]⟩

/-- Adding nodes does not change whether statements may follow. -/
theorem takesStatements_grow {d : Draft} (h : TakesStatements d.blocks.head?) (ns : List Node) :
    TakesStatements (d.grow ns).blocks.head? := by
  intro b hb
  obtain ⟨c, hc, hframe⟩ := head?_grow hb
  rw [hframe]
  exact h c hc

/-- Where statements may stand, a node is added as it is. -/
theorem add_eq_grow {d : Draft} (h : TakesStatements d.blocks.head?) (n : Node) :
    d.add n = d.grow [n] := by
  cases hb : d.blocks with
  | nil => rw [add_of_nil hb, grow_of_nil hb]
  | cons b outer =>
    have htakes : b.frame.takesStatements = true := h b (by simp [hb])
    rw [add_of_cons hb, grow_of_cons hb, OpenBlock.add]
    split
    · next hf hn => simp [hf, Frame.takesStatements] at htakes
    · next hf hn => simp [hf, Frame.takesStatements] at htakes
    · rfl

/-- An `@extend` takes content blocks. -/
theorem add_slot_eq_grow {d : Draft} {b : OpenBlock} {outer : List OpenBlock} {call? : Option Call}
    (hb : d.blocks = b :: outer) (hf : b.frame = .extension call?) {n : Node} {name : Text}
    (hn : n.kind = .slot name) : d.add n = d.grow [n] := by
  rw [add_of_cons hb, grow_of_cons hb, OpenBlock.add]
  simp [hf, hn]

variable [Alphabet]

/-- A token that reports nothing only acts. -/
theorem step_of_move {d : Draft} {t : Token} {a : Action}
    (h : move d.blocks.head? t = ⟨[], a⟩) : d.step t = d.perform t a := by
  rw [step_eq, h, apply, reportAll_nil]

/-- Where statements may stand, a statement or the start of one is taken as such. -/
theorem move_of_takesStatements {top? : Option OpenBlock} (h : TakesStatements top?) {t : Token}
    (ht : t.IsStatement ∨ t.IsOpener) : move top? t = statementMove top?.isNone t := by
  cases top? with
  | none => rfl
  | some b =>
    refine move_statement (h b rfl) ?_ ?_ fun _ => ?_
    all_goals
      intro hk
      simp [Token.IsStatement, Token.IsOpener, hk] at ht

/-- A statement of a single token adds its node. -/
theorem step_of_isStatement {d : Draft} (h : TakesStatements d.blocks.head?) {t : Token}
    (htrim : t.Trimmed) (ht : t.IsStatement) : ∃ n, d.step t = d.grow [n] := by
  obtain ⟨kind, hmove⟩ := statementMove_of_isStatement htrim ht d.blocks.head?.isNone
  rw [← move_of_takesStatements h (Or.inl ht)] at hmove
  exact ⟨.leaf kind t, (step_of_move hmove).trans (add_eq_grow h _)⟩

/-- The opener of a statement opens its block. -/
theorem step_of_isOpener {d : Draft} (h : TakesStatements d.blocks.head?) {t : Token}
    (htrim : t.Trimmed) (ht : t.IsOpener) :
    ∃ frame, Frame.Lasting frame ∧ frame.kind = t.kind ∧ d.step t = d.begin t frame := by
  obtain ⟨frame, hl, hk, hmove⟩ := statementMove_of_isOpener htrim ht d.blocks.head?.isNone
  rw [← move_of_takesStatements h (Or.inr ht)] at hmove
  exact ⟨frame, hl, hk, step_of_move hmove⟩

/-- Inside of a block, an `@end` closes it. -/
theorem step_of_close {d : Draft} {b : OpenBlock} {outer : List OpenBlock}
    (hb : d.blocks = b :: outer) {e : Token} (he : e.kind = .close) : d.step e = d.close :=
  step_of_move (by rw [hb]; exact move_close b he)

/-- A block whose body is read becomes a node of the block around it. -/
theorem run_block {d : Draft} {o e : Token} {frame : Frame} {ss : List Token} {ns : List Node}
    {n : Node} (ho : d.step o = d.begin o frame)
    (hs : (d.begin o frame).run ss = (d.begin o frame).grow ns) (he : e.kind = .close)
    (hn : (⟨some o, frame, ns⟩ : OpenBlock).node? = some n) (hf : frame ≠ .verbatim .function) :
    d.run (o :: ss ++ [e]) = d.add n := by
  have hblocks : ((d.begin o frame).grow ns).blocks = ⟨some o, frame, ns⟩ :: d.blocks := rfl
  rw [List.cons_append, run_cons, ho, run_append, hs, run_cons, run_nil, step_of_close hblocks he,
    close_of_node hblocks hn hf]
  rfl

/-- A block of a statement adds its node. -/
theorem run_statement {d : Draft} (h : TakesStatements d.blocks.head?) {o e : Token}
    {frame : Frame} {ss : List Token} {ns : List Node} (hl : frame.Lasting)
    (hf : frame ≠ .verbatim .function) (ho : d.step o = d.begin o frame)
    (hs : (d.begin o frame).run ss = (d.begin o frame).grow ns) (he : e.kind = .close) :
    ∃ n, d.run (o :: ss ++ [e]) = d.grow [n] := by
  have hne : (⟨some o, frame, ns⟩ : OpenBlock).node? ≠ none := OpenBlock.node?_ne_none hl
  obtain ⟨n, hn⟩ := Option.ne_none_iff_exists'.1 hne
  exact ⟨n, (run_block ho hs he hn hf).trans (add_eq_grow h n)⟩

/-- The body of a verbatim block is added to it. -/
theorem run_verbatimBody {d : Draft} {o : Token} (v : Verbatim) {ts : List Token}
    (h : VerbatimBody ts) :
    ∃ ns, (d.begin o (.verbatim v)).run ts = (d.begin o (.verbatim v)).grow ns := by
  rcases h with rfl | ⟨t, hk, rfl⟩
  · exact ⟨[], (grow_nil _).symm⟩
  · refine ⟨[.leaf .verbatimText t], ?_⟩
    have hmove : move (d.begin o (.verbatim v)).blocks.head? t = ⟨[], .leaf .verbatimText⟩ := by
      simp [begin, move, hk, verbatimMove]
    rw [run_cons, run_nil, step_of_move hmove]
    rfl

/-- What reading the tokens of a construct does where the construct may stand. -/
def Reads (ts : List Token) : Nonterminal → Prop
  | .template | .item => ∀ d : Draft, d.blocks = [] →
      (d.run ts).blocks = [] ∧ (d.run ts).diagnostics = d.diagnostics
  | .statements => ∀ d : Draft, TakesStatements d.blocks.head? → ∃ ns, d.run ts = d.grow ns
  | .statement => ∀ d : Draft, TakesStatements d.blocks.head? → ∃ n, d.run ts = d.grow [n]
  | .slots names => ∀ (d : Draft) b outer call?, d.blocks = b :: outer →
      b.frame = .extension call? → b.body = [] →
        ∃ ns, d.run ts = d.grow ns ∧ ∀ n ∈ ns, ∃ name ∈ names, n.kind = .slot name

/-- A condition with an alternative adds its node. -/
theorem run_alternative {d : Draft} (h : TakesStatements d.blocks.head?) {o a e : Token}
    {ss us : List Token} {ns ms : List Node} (ho : d.step o = d.begin o .condition)
    (hs : (d.begin o .condition).run ss = (d.begin o .condition).grow ns)
    (ha : a.kind = .otherwise)
    (hu : (d.begin a (.otherwise (some o) ns)).run us =
      (d.begin a (.otherwise (some o) ns)).grow ms)
    (he : e.kind = .close) : ∃ n, d.run (o :: ss ++ a :: us ++ [e]) = d.grow [n] := by
  have hmove : move ((d.begin o .condition).grow ns).blocks.head? a = ⟨[], .turn⟩ := by
    rw [grow_begin, List.head?_cons]
    exact move_turn rfl ha
  have hturn : ((d.begin o .condition).grow ns).step a = d.begin a (.otherwise (some o) ns) :=
    step_of_move hmove
  have hblocks : ((d.begin a (.otherwise (some o) ns)).grow ms).blocks =
      ⟨some a, .otherwise (some o) ns, ms⟩ :: d.blocks := rfl
  refine ⟨⟨.condition, some o, ns ++ [⟨.otherwise, some a, ms⟩]⟩, ?_⟩
  rw [List.append_assoc, List.cons_append, run_cons, ho, run_append, hs, List.cons_append, run_cons,
    hturn, run_append, hu, run_cons, run_nil, step_of_close hblocks he,
    close_of_node hblocks rfl (by simp), ← add_eq_grow h]
  rfl

/-- A function block at the root reports nothing. -/
theorem run_function {d : Draft} (hd : d.blocks = []) {o e : Token} {body : List Token}
    (ho : o.kind = .verbatim .function) (hb : VerbatimBody body) (he : e.kind = .close) :
    (d.run (o :: body ++ [e])).blocks = [] ∧
      (d.run (o :: body ++ [e])).diagnostics = d.diagnostics := by
  have hmove : move d.blocks.head? o = ⟨[], .begin (.verbatim .function)⟩ := by
    simp [hd, move, statementMove, ho]
  have hopen : d.step o = d.begin o (.verbatim .function) := step_of_move hmove
  obtain ⟨ns, hns⟩ := run_verbatimBody (d := d) (o := o) .function hb
  have hblocks : ((d.begin o (.verbatim .function)).grow ns).blocks =
      [⟨some o, .verbatim .function, ns⟩] := by
    rw [grow_begin, hd]
  rw [List.cons_append, run_cons, hopen, run_append, hns, run_cons, run_nil,
    step_of_close hblocks he, close_of_function hblocks rfl (Or.inl rfl)]
  exact ⟨rfl, by simp [begin]⟩

/-- A content block of a new name is added to its `@extend`. -/
theorem run_slot {d : Draft} {b : OpenBlock} {outer : List OpenBlock} {call? : Option Call}
    (hb : d.blocks = b :: outer) (hf : b.frame = .extension call?) {o e : Token}
    {ss : List Token} {ns : List Node} (ho : o.kind = .line .content)
    (hp : o.text.isIdentifier = true) (hnew : ∀ n ∈ b.body, n.kind ≠ .slot o.text)
    (hs : (d.begin o (.slot o.text)).run ss = (d.begin o (.slot o.text)).grow ns)
    (he : e.kind = .close) :
    ∃ n : Node, n.kind = .slot o.text ∧ d.run (o :: ss ++ [e]) = d.grow [n] := by
  have hmove : move d.blocks.head? o = ⟨[], .begin (.slot o.text)⟩ := by
    rw [hb, List.head?_cons, move_extension hf (by simp [ho])]
    simp [extensionMove, ho, problems_slotName.2 ⟨hp, hnew⟩]
  refine ⟨⟨.slot o.text, some o, ns⟩, rfl, ?_⟩
  rw [run_block (step_of_move hmove) hs he rfl (by simp)]
  exact add_slot_eq_grow hb hf rfl

/-- A block of statements is read as a statement. -/
theorem reads_block {o e : Token} {ss : List Token} (ho : o.IsOpener)
    (hk : ∀ f : Frame, f.kind = o.kind → f.takesStatements = true)
    (htrim : o.Trimmed) (hs : Reads ss .statements) (he : e.kind = .close) :
    Reads (o :: ss ++ [e]) .statement := by
  intro d hd
  obtain ⟨frame, hl, hframe, hopen⟩ := step_of_isOpener hd htrim ho
  have htakes := hk frame hframe
  obtain ⟨ns, hns⟩ := hs (d.begin o frame) (by simpa [begin, TakesStatements] using htakes)
  refine run_statement hd hl ?_ hopen hns he
  rintro rfl
  cases htakes

/-- A condition with an alternative is read as a statement. -/
theorem reads_alternative {o a e : Token} {ss us : List Token} (ho : o.kind = .line .condition)
    (hp : o.text ≠ []) (htrim : o.Trimmed) (hs : Reads ss .statements) (ha : a.kind = .otherwise)
    (hu : Reads us .statements) (he : e.kind = .close) :
    Reads (o :: ss ++ a :: us ++ [e]) .statement := by
  intro d hd
  obtain ⟨frame, -, hframe, hopen⟩ :=
    step_of_isOpener hd htrim (by simpa [Token.IsOpener, ho] using hp)
  obtain rfl := Frame.kind_eq_condition.1 (hframe.trans ho)
  obtain ⟨ns, hns⟩ := hs (d.begin o .condition)
    (by simp [begin, TakesStatements, Frame.takesStatements])
  obtain ⟨ms, hms⟩ := hu (d.begin a (.otherwise (some o) ns))
    (by simp [begin, TakesStatements, Frame.takesStatements])
  exact run_alternative hd hopen hns ha hms he

/-- A call with content blocks is read as a statement. -/
theorem reads_extension {o e : Token} {names : List Text} {ss : List Token}
    (ho : o.kind = .line .extension) (hp : Payload.IsCall o.text) (htrim : o.Trimmed)
    (hs : Reads ss (.slots names)) (he : e.kind = .close) : Reads (o :: ss ++ [e]) .statement := by
  intro d hd
  obtain ⟨frame, hl, hframe, hopen⟩ :=
    step_of_isOpener hd htrim (by simpa [Token.IsOpener, ho] using hp)
  obtain ⟨call?, rfl⟩ := Frame.kind_eq_extension.1 (hframe.trans ho)
  obtain ⟨ns, hns, -⟩ := hs (d.begin o (.extension call?)) _ _ call? rfl rfl rfl
  exact run_statement hd hl (by simp) hopen hns he

/-- Blanks behind content blocks change nothing. -/
theorem reads_blank {names : List Text} {ts : List Token} {t : Token}
    (ht : Reads ts (.slots names)) (hk : t.kind = .literal) (hp : t.text.allBlank = true) :
    Reads (ts ++ [t]) (.slots names) := by
  intro d b outer call? hb hf hempty
  obtain ⟨ns, hns, hnames⟩ := ht d b outer call? hb hf hempty
  have hgrown : ({ b with body := b.body ++ ns } : OpenBlock).frame = .extension call? := hf
  have hmove : move (d.grow ns).blocks.head? t = ⟨[], .skip⟩ := by
    rw [grow_of_cons hb, List.head?_cons, move_extension hgrown (by simp [hk])]
    simp [extensionMove, hk, hp]
  refine ⟨ns, ?_, hnames⟩
  rw [run_append, hns, run_cons, run_nil, step_of_move hmove]
  rfl

/-- Another content block is added to those before it. -/
theorem reads_slot {names : List Text} {ts ss : List Token} {o e : Token}
    (ht : Reads ts (.slots names)) (ho : o.kind = .line .content)
    (hp : o.text.isIdentifier = true) (hn : o.text ∉ names) (hs : Reads ss .statements)
    (he : e.kind = .close) :
    Reads (ts ++ (o :: ss ++ [e])) (.slots (names ++ [o.text])) := by
  intro d b outer call? hb hf hempty
  obtain ⟨ns, hns, hnames⟩ := ht d b outer call? hb hf hempty
  have hgrown := congrArg blocks (grow_of_cons hb ns)
  have hnew : ∀ n ∈ b.body ++ ns, n.kind ≠ .slot o.text := by
    intro n hmem hkind
    rw [hempty, List.nil_append] at hmem
    obtain ⟨name, hname, hslot⟩ := hnames n hmem
    rw [hslot, NodeKind.slot.injEq] at hkind
    exact hn (hkind ▸ hname)
  obtain ⟨ms, hms⟩ := hs ((d.grow ns).begin o (.slot o.text))
    (by simp [begin, TakesStatements, Frame.takesStatements])
  obtain ⟨n, hkind, hrun⟩ := run_slot hgrown hf ho hp hnew hms he
  refine ⟨ns ++ [n], by rw [run_append, hns, hrun, grow_grow], ?_⟩
  intro m hm
  rcases List.mem_append.1 hm with hm | hm
  · obtain ⟨name, hname, hslot⟩ := hnames m hm
    exact ⟨name, List.mem_append_left _ hname, hslot⟩
  · rw [List.mem_singleton.1 hm]
    exact ⟨o.text, by simp, hkind⟩

end Draft

variable [Alphabet]

open Draft in
/-- What the grammar derives is read as the construct that it is. -/
theorem Derives.reads {construct : Nonterminal} {ts : List Token} (h : Derives construct ts) :
    (∀ t ∈ ts, t.Trimmed) → Reads ts construct := by
  induction h with
  | empty =>
    intro _ d hd
    exact ⟨hd, rfl⟩
  | snocItem _ _ iht ihu =>
    intro htrim d hd
    obtain ⟨hblocks, hdiagnostics⟩ := iht (fun t ht => htrim t (List.mem_append_left _ ht)) d hd
    obtain ⟨hblocks', hdiagnostics'⟩ :=
      ihu (fun t ht => htrim t (List.mem_append_right _ ht)) _ hblocks
    rw [run_append]
    exact ⟨hblocks', hdiagnostics'.trans hdiagnostics⟩
  | @declaration t ht =>
    intro htrim d hd
    obtain ⟨a, ha, hmove⟩ := statementMove_of_isDeclaration (htrim t (by simp)) ht
    have hstep : d.step t = d.perform t a := step_of_move (by rw [hd]; exact hmove)
    rw [run_cons, run_nil, hstep]
    cases a with
    | argument _ | context _ | importing _ => exact ⟨hd, rfl⟩
    | _ => exact ha.elim
  | function ho hb he =>
    intro _ d hd
    exact run_function hd ho hb he
  | item _ ih =>
    intro htrim d hd
    obtain ⟨n, hn⟩ := ih htrim d (by simp [hd, TakesStatements])
    rw [hn, grow_of_nil hd]
    exact ⟨hd, rfl⟩
  | none =>
    intro _ d _
    exact ⟨[], (grow_nil d).symm⟩
  | snoc _ _ iht ihu =>
    intro htrim d hd
    obtain ⟨ns, hns⟩ := iht (fun t ht => htrim t (List.mem_append_left _ ht)) d hd
    obtain ⟨n, hn⟩ := ihu (fun t ht => htrim t (List.mem_append_right _ ht)) (d.grow ns)
      (takesStatements_grow hd ns)
    exact ⟨ns ++ [n], by rw [run_append, hns, hn, grow_grow]⟩
  | @single t ht =>
    intro htrim d hd
    exact step_of_isStatement hd (htrim t (by simp)) ht
  | @verbatim o e v body ho hv hb he =>
    intro htrim d hd
    obtain ⟨frame, hl, hk, hopen⟩ :=
      step_of_isOpener hd (htrim o (by simp)) (by simp [Token.IsOpener, ho])
    rw [ho] at hk
    obtain rfl : frame = .verbatim v := by cases frame <;> simp_all [Frame.kind]
    obtain ⟨ns, hns⟩ := run_verbatimBody (d := d) (o := o) v hb
    exact run_statement hd hl (by simpa using hv) hopen hns he
  | @condition o e ss ho hp _ he ih =>
    intro htrim
    exact reads_block (by simpa [Token.IsOpener, ho] using hp)
      (fun f hf => Frame.takesStatements_of_kind (by simp [hf, ho]) (by simp [hf, ho]))
      (htrim o (by simp)) (ih fun t ht => htrim t (by simp [ht])) he
  | @alternative o a e ss us ho hp _ ha _ he ihs ihu =>
    intro htrim
    exact reads_alternative ho hp (htrim o (by simp)) (ihs fun t ht => htrim t (by simp [ht])) ha
      (ihu fun t ht => htrim t (by simp [ht])) he
  | @loop o e ss ho hp _ he ih =>
    intro htrim
    exact reads_block (by simpa [Token.IsOpener, ho] using hp)
      (fun f hf => Frame.takesStatements_of_kind (by simp [hf, ho]) (by simp [hf, ho]))
      (htrim o (by simp)) (ih fun t ht => htrim t (by simp [ht])) he
  | @extension o e names ss ho hp _ he ih =>
    intro htrim
    exact reads_extension ho hp (htrim o (by simp)) (ih fun t ht => htrim t (by simp [ht])) he
  | noSlots =>
    intro _ d b outer call? _ _ _
    exact ⟨[], (grow_nil d).symm, by simp⟩
  | blank _ hk hp ih =>
    intro htrim
    exact reads_blank (ih fun t ht => htrim t (by simp [ht])) hk hp
  | slot _ ho hp hn _ he iht ihs =>
    intro htrim
    exact reads_slot (iht fun t ht => htrim t (by simp [ht])) ho hp hn
      (ihs fun t ht => htrim t (by simp [ht])) he

/-! ## From the reader to the grammar -/

/-- `Begun b tokens`: the tokens are the start of what the open block is written as. -/
inductive Begun : OpenBlock → List Token → Prop
  | condition {o : Token} {body : List Node} {ss : List Token} (ho : o.kind = .line .condition)
      (hp : o.text ≠ []) (hs : Derives .statements ss) : Begun ⟨some o, .condition, body⟩ (o :: ss)
  | alternative {o a : Token} {chosen body : List Node} {ss us : List Token}
      (ho : o.kind = .line .condition) (hp : o.text ≠ []) (hs : Derives .statements ss)
      (ha : a.kind = .otherwise) (hu : Derives .statements us) :
      Begun ⟨a, .otherwise o chosen, body⟩ (o :: ss ++ a :: us)
  | loop {o : Token} {head : LoopHead} {body : List Node} {ss : List Token}
      (ho : o.kind = .line .loop) (hp : Payload.IsLoopHead o.text) (hs : Derives .statements ss) :
      Begun ⟨some o, .loop (some head), body⟩ (o :: ss)
  /-- A call with content blocks, whose names are among those of its children. -/
  | extension {o : Token} {call : Call} {body : List Node} {names : List Text} {ss : List Token}
      (ho : o.kind = .line .extension) (hp : Payload.IsCall o.text)
      (hs : Derives (.slots names) ss) (hn : ∀ name ∈ names, ∃ n ∈ body, n.kind = .slot name) :
      Begun ⟨some o, .extension (some call), body⟩ (o :: ss)
  | slot {o : Token} {body : List Node} {ss : List Token} (ho : o.kind = .line .content)
      (hp : o.text.isIdentifier = true) (hs : Derives .statements ss) :
      Begun ⟨some o, .slot o.text, body⟩ (o :: ss)
  | verbatim {o : Token} {v : Verbatim} {body : List Node} {ss : List Token}
      (ho : o.kind = .verbatim v) (hs : VerbatimBody ss) (hempty : body = [] → ss = []) :
      Begun ⟨some o, .verbatim v, body⟩ (o :: ss)

namespace Begun

/-- A block begins with its opener. -/
theorem opener {t : Token} {frame : Frame} (ht : t.IsOpener) (hl : frame.Lasting)
    (hk : frame.kind = t.kind) : Begun ⟨some t, frame, []⟩ [t] := by
  unfold Token.IsOpener at ht
  rw [← hk] at ht
  cases frame with
  | condition => exact .condition hk.symm ht .none
  | otherwise _ _ => exact ht.elim
  | loop head? =>
    obtain ⟨head, rfl⟩ := Option.ne_none_iff_exists'.1 hl
    exact .loop hk.symm ht .none
  | extension call? =>
    obtain ⟨call, rfl⟩ := Option.ne_none_iff_exists'.1 hl
    exact .extension hk.symm ht .noSlots (by simp)
  | slot _ => exact ht.elim
  | strayContent => exact ht.elim
  | verbatim v => exact .verbatim hk.symm (Or.inl rfl) fun _ => rfl

/-- A block of statements goes on with a statement. -/
theorem snoc {b : OpenBlock} {ts us : List Token} (h : Begun b ts)
    (htakes : b.frame.takesStatements = true) (hu : Derives .statement us) (body : List Node) :
    Begun { b with body := body } (ts ++ us) := by
  cases h with
  | condition ho hp hs => exact .condition ho hp (hs.snoc hu)
  | @alternative o a chosen _ ss vs ho hp hs ha hv =>
    have hlist : o :: ss ++ a :: vs ++ us = o :: ss ++ a :: (vs ++ us) := by simp
    rw [hlist]
    exact .alternative ho hp hs ha (hv.snoc hu)
  | loop ho hp hs => exact .loop ho hp (hs.snoc hu)
  | extension ho hp hs hn => cases htakes
  | slot ho hp hs => exact .slot ho hp (hs.snoc hu)
  | verbatim ho hs hempty => cases htakes

/-- A block other than a content block or a function ends as a statement. -/
theorem close {b : OpenBlock} {ts : List Token} {e : Token} (h : Begun b ts)
    (hslot : ∀ name, b.frame ≠ .slot name) (hf : b.frame ≠ .verbatim .function)
    (he : e.kind = .close) : Derives .statement (ts ++ [e]) ∧ b.node? ≠ none := by
  cases h with
  | condition ho hp hs => exact ⟨.condition ho hp hs he, by simp [OpenBlock.node?]⟩
  | alternative ho hp hs ha hu =>
    exact ⟨.alternative ho hp hs ha hu he, by simp [OpenBlock.node?]⟩
  | loop ho hp hs => exact ⟨.loop ho hp hs he, by simp [OpenBlock.node?]⟩
  | extension ho hp hs hn => exact ⟨.extension ho hp hs he, by simp [OpenBlock.node?]⟩
  | slot ho hp hs => exact absurd rfl (hslot _)
  | @verbatim o v body ss ho hs hempty =>
    exact ⟨.verbatim ho (fun hv => hf (by rw [hv])) hs he, by simp [OpenBlock.node?]⟩

end Begun

/-- Whether a block of this sort may stand directly inside of another, or at the root: a content
block of a new name in an `@extend`, and any other block where statements may stand. -/
def Placed (frame : Frame) (around : Option OpenBlock) : Prop :=
  match frame with
  | .slot name => ∃ c call?, around = some c ∧ c.frame = .extension call? ∧
      ∀ n ∈ c.body, n.kind ≠ .slot name
  | _ => Draft.TakesStatements around

/-- `Nested blocks tokens`: the tokens are a template up to the innermost of the open blocks. -/
inductive Nested : List OpenBlock → List Token → Prop
  | root {ts : List Token} (h : Derives .template ts) : Nested [] ts
  /-- A block that has been begun inside of the others. -/
  | inner {b : OpenBlock} {outer : List OpenBlock} {ts us : List Token} (ho : Nested outer ts)
      (hb : Begun b us) (hp : Placed b.frame outer.head?) : Nested (b :: outer) (ts ++ us)

namespace Draft

/-- A statement goes on with the innermost block. -/
theorem nested_add {d : Draft} {ts us : List Token} (h : Nested d.blocks ts)
    (htop : TakesStatements d.blocks.head?) (hu : Derives .statement us) (n : Node) :
    Nested (d.add n).blocks (ts ++ us) := by
  rw [add_eq_grow htop]
  cases hb : d.blocks with
  | nil =>
    rw [hb] at h
    rw [grow_of_nil hb, hb]
    cases h with
    | root h => exact .root (h.snocItem (.item hu))
  | cons b outer =>
    rw [hb] at h
    rw [grow_of_cons hb]
    cases h with
    | inner ho hbegun hp =>
      rw [List.append_assoc]
      exact .inner ho (hbegun.snoc (htop b (by simp [hb])) hu _) hp

/-- A content block that ends goes on with its `@extend`. -/
theorem nested_close_slot {d : Draft} {b : OpenBlock} {outer : List OpenBlock} {ts : List Token}
    {name : Text} {e : Token} (hb : d.blocks = b :: outer) (hf : b.frame = .slot name)
    (h : Nested d.blocks ts) (he : e.kind = .close) : Nested d.close.blocks (ts ++ [e]) := by
  rw [hb] at h
  cases h with
  | @inner _ _ ts us ho hbegun hp =>
    cases hbegun with
    | condition | alternative | loop | extension | verbatim => cases hf
    | @slot o body ss hk hid hs =>
      -- The block around it is an `@extend` that has been begun as well. The content block becomes
      -- the last of its slots, under a name that none of the others has.
      obtain ⟨c, call?, hc, hcf, hnew⟩ := hp
      obtain ⟨rest, rfl⟩ := List.head?_eq_some_iff.1 hc
      cases ho with
      | @inner _ _ ts vs ho hcbegun hcp =>
        cases hcbegun with
        | condition | alternative | loop | slot | verbatim => cases hcf
        | @extension o' call cbody names ss' hck hcall hcs hcn =>
          have hfresh : o.text ∉ names := fun hmem => by
            obtain ⟨n, hn, hkind⟩ := hcn _ hmem
            exact hnew n hn hkind
          have hlist : ts ++ o' :: ss' ++ o :: ss ++ [e] =
              ts ++ o' :: (ss' ++ (o :: ss ++ [e])) := by simp
          rw [hlist, close_of_node hb rfl (by simp), add_of_cons rfl]
          refine .inner ho (.extension hck hcall (hcs.slot hk hid hfresh hs he) ?_) hcp
          intro name hname
          rcases List.mem_append.1 hname with hname | hname
          · obtain ⟨n, hn, hkind⟩ := hcn name hname
            exact ⟨n, List.mem_append_left _ hn, hkind⟩
          · rw [List.mem_singleton.1 hname]
            exact ⟨_, List.mem_append_right _ (List.mem_singleton.2 rfl), rfl⟩

/-- A function block that ends without a report is an item. -/
theorem nested_close_function {d : Draft} (hd : d.WellFormed) {b : OpenBlock}
    {outer : List OpenBlock} {ts : List Token} {e : Token} (hb : d.blocks = b :: outer)
    (hf : b.frame = .verbatim .function) (hreports : closingReports d.blocks = [])
    (h : Nested d.blocks ts) (he : e.kind = .close) : Nested d.close.blocks (ts ++ [e]) := by
  rw [hb] at h hreports
  obtain ⟨opener, hopener, -⟩ := hd.opener hb
  obtain rfl := eq_nil_of_closingReports hreports hf hopener
  rw [close_of_function hb hf (Or.inl rfl)]
  cases h with
  | inner ho hbegun hp =>
    cases ho with
    | root ho =>
      cases hbegun with
      | condition | alternative | loop | extension | slot => cases hf
      | verbatim hk hs hempty =>
        cases hf
        rw [List.append_assoc]
        exact .root (ho.snocItem (.function hk hs he))

/-- A block that ends goes on with the block around it. -/
theorem nested_close {d : Draft} (hd : d.WellFormed) {b : OpenBlock} {outer : List OpenBlock}
    {ts : List Token} {e : Token} (hb : d.blocks = b :: outer)
    (hreports : closingReports d.blocks = []) (h : Nested d.blocks ts) (he : e.kind = .close) :
    Nested d.close.blocks (ts ++ [e]) := by
  by_cases hslot : ∃ name, b.frame = .slot name
  · obtain ⟨name, hf⟩ := hslot
    exact nested_close_slot hb hf h he
  by_cases hf : b.frame = .verbatim .function
  · exact nested_close_function hd hb hf hreports h he
  · rw [hb] at h
    cases h with
    | inner ho hbegun hp =>
      obtain ⟨hstatement, hne⟩ := hbegun.close (fun name hname => hslot ⟨name, hname⟩) hf he
      obtain ⟨n, hn⟩ := Option.ne_none_iff_exists'.1 hne
      have htop : TakesStatements outer.head? := by
        unfold Placed at hp
        split at hp
        · next name hname => exact absurd ⟨name, hname⟩ hslot
        · exact hp
      rw [close_of_node hb hn hf, List.append_assoc]
      exact nested_add (d := { d with blocks := outer }) ho htop hstatement n

/-- A token that reports nothing goes on with what has been read. -/
theorem nested_step {d : Draft} {ts : List Token} {t : Token} (hd : Nested d.blocks ts)
    (h : d.Passes t) : Nested (d.step t).blocks (ts ++ [t]) := by
  have hadvance := h.advance
  have hreports := h.reports
  rw [step_eq, apply, h.problems, reportAll_nil]
  generalize (move d.blocks.head? t).action = a at hadvance hreports ⊢
  cases hadvance with
  | statement htop ht kind => exact nested_add hd htop (.single ht) _
  | declaration htop ht ha =>
    have hblocks : (d.perform t a).blocks = d.blocks := by
      cases a with
      | argument _ | context _ | importing _ => rfl
      | _ => exact ha.elim
    rw [hblocks]
    rw [List.head?_eq_none_iff.1 htop] at hd ⊢
    cases hd with
    | root hd => exact .root (hd.snocItem (.declaration ht))
  | @opener htop ht frame hl hk =>
    refine .inner hd (.opener ht hl hk) ?_
    unfold Placed
    split
    · next name hname =>
      obtain rfl : frame = .slot name := hname
      simp [Token.IsOpener, ← hk, Frame.kind] at ht
    · exact htop
  | @turn b htop hf hk =>
    obtain ⟨outer, hb⟩ := List.head?_eq_some_iff.1 htop
    have hblocks : (d.perform t .turn).blocks =
        ⟨some t, .otherwise b.opener? b.body, []⟩ :: outer := by
      rw [perform_turn hb]
      rfl
    rw [hblocks]
    rw [hb] at hd
    cases hd with
    | inner ho hbegun hp =>
      cases hbegun with
      | alternative | loop | extension | slot | verbatim => cases hf
      | condition hc hpayload hs =>
        rw [List.append_assoc]
        exact .inner ho (.alternative hc hpayload hs hk .none) hp
  | @close b htop hk =>
    obtain ⟨outer, hb⟩ := List.head?_eq_some_iff.1 htop
    exact nested_close h.wellFormed hb hreports hd hk
  | @blank b call? htop hf hk ht =>
    obtain ⟨outer, hb⟩ := List.head?_eq_some_iff.1 htop
    rw [perform]
    rw [hb] at hd ⊢
    cases hd with
    | inner ho hbegun hp =>
      cases hbegun with
      | condition | alternative | loop | slot | verbatim => cases hf
      | extension hc hpayload hs hn =>
        rw [List.append_assoc]
        exact .inner ho (.extension hc hpayload (hs.blank hk ht) hn) hp
  | @slot b call? htop hf hk ht hnew =>
    exact .inner hd (.slot hk ht .none) ⟨b, call?, htop, hf, hnew⟩
  | @body b v htop hf hempty hk =>
    obtain ⟨outer, hb⟩ := List.head?_eq_some_iff.1 htop
    rw [perform, add_of_cons hb]
    rw [hb] at hd
    cases hd with
    | inner ho hbegun hp =>
      cases hbegun with
      | condition | alternative | loop | extension | slot => cases hf
      | verbatim hc hs hnone =>
        rw [List.append_assoc, hnone hempty]
        exact .inner ho (.verbatim hc (Or.inr ⟨t, hk, rfl⟩) (by simp)) hp

end Draft

/-- A source is read without problems exactly if the grammar derives its tokens. Then every token
is in place, and all blocks are closed at the end. -/
theorem accepts_iff_derives (source : Text) :
    ((Document.parse source).diagnostics = [] ↔ Derives .template (tokenize source).tokens) ∧
      (Derives .template (tokenize source).tokens →
        (∀ m ∈ Nesting.meetings [] (tokenize source).tokens, InPlace m) ∧
          Nesting.remaining (tokenize source).tokens = []) := by
  refine ⟨⟨fun hsilent => ?_, fun hderives => ?_⟩, fun hderives => ?_⟩
  · obtain ⟨hnested, hblocks, -⟩ := Draft.silent_induction
      (P := fun d read => Nested d.blocks read) hsilent (.root .empty)
      fun d read t h _ hd => Draft.nested_step hd h
    rw [hblocks] at hnested
    cases hnested with
    | root h => exact h
  · obtain ⟨hblocks, hdiagnostics⟩ := hderives.reads (trimmed_tokenize source) {} rfl
    rw [Document.parse, Document.ofStream, Draft.finish, hblocks]
    exact hdiagnostics
  · have horderly : Nesting.Orderly [] (tokenize source).tokens := hderives.orderly rfl
    exact ⟨horderly.inPlace, horderly.balanced⟩

end Stencil
