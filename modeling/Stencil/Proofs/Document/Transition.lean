import Stencil.Document.Draft
import Stencil.Proofs.Token.Coverage

/-!
# What a token does to a draft

A token that is read reports problems and then acts on the draft. Both depend on the innermost
block and on the token alone: `Draft.move` is the table of them, and `step_eq` says that a step is
nothing but looking up the table. All that is proved about drafts elsewhere reads the table.

The second half of the module is about drafts that tokens of a source lead to. In such a draft
every block stands under the token that opens blocks of its sort, and nothing is open inside of a
verbatim block (`WellFormed`). `read_induction` and `finish_induction` are the two inductions
along the reading of a source: over its tokens and over the blocks that are open at its end.
-/

set_option autoImplicit false

namespace Stencil

/-- The problem of a reading, if it has one. -/
def problems {α : Type} : Except Problem α → List Problem
  | .ok _ => []
  | .error problem => [problem]

/-- Whether a token of this sort opens a block. -/
def TokenKind.opensBlock : TokenKind → Bool
  | .line .condition | .line .loop | .line .extension | .line .content | .verbatim _ => true
  | _ => false

/-- What opens no block opens no verbatim block. -/
theorem TokenKind.opensVerbatim_of_opensBlock {kind : TokenKind} (h : kind.opensBlock = false) :
    kind.opensVerbatim = false := by
  cases kind with
  | verbatim block => exact absurd h (by simp [opensBlock])
  | _ => rfl

/-- The sort of token that opens such a block. -/
def Frame.kind : Frame → TokenKind
  | .condition => .line .condition
  | .otherwise _ _ => .otherwise
  | .loop _ => .line .loop
  | .extension _ => .line .extension
  | .slot _ | .strayContent => .line .content
  | .verbatim block => .verbatim block

/-- Whether a block takes statements. -/
def Frame.takesStatements : Frame → Bool
  | .verbatim _ | .extension _ => false
  | _ => true

/-- Every block takes statements but a verbatim one and an `@extend`. -/
theorem Frame.takesStatements_iff (f : Frame) :
    f.takesStatements = true ↔ (∀ block, f ≠ .verbatim block) ∧ ∀ call?, f ≠ .extension call? := by
  cases f <;> simp [takesStatements]

/-- A block takes statements if neither a verbatim word nor an `@extend` opened it. -/
theorem Frame.takesStatements_of_kind {f : Frame} (hv : ∀ v, f.kind ≠ .verbatim v)
    (he : f.kind ≠ .line .extension) : f.takesStatements = true := by
  cases f with
  | verbatim v => exact absurd rfl (hv v)
  | extension call? => exact absurd rfl he
  | _ => rfl

namespace Draft

/-- What a token does to a draft, once its problems are reported: nothing, add a node without
children, open or close a block, go on with the alternative of a condition, or declare
something. -/
inductive Action
  | skip
  | leaf (kind : NodeKind)
  | begin (frame : Frame)
  | close
  | turn
  | argument (a : Argument)
  | context (c : ContextVariable)
  | importing (i : Import)

/-- The problems that a token reports and what it does then. -/
structure Move where
  /-- The problems, in the order in which they are reported. -/
  problems : List Problem
  /-- What is done. -/
  action : Action

/-- Acts on the value that was read, or reports why there is none. -/
def Move.ofReading {α : Type} (reading : Except Problem α) (act : α → Action) : Move :=
  match reading with
  | .ok a => ⟨[], act a⟩
  | .error problem => ⟨[problem], .skip⟩

/-- What a declaration does at the root and elsewhere. -/
def declarationMove {α : Type} (atRoot : Bool) (directive : LineDirective)
    (reading : Except Problem α) (act : α → Action) : Move :=
  if atRoot then Move.ofReading reading act else ⟨[.nestedDeclaration directive], .skip⟩

/-- What a token does as a statement. -/
def statementMove [Alphabet] (atRoot : Bool) (t : Token) : Move :=
  match t.kind with
  | .literal => ⟨[], .leaf .literal⟩
  | .endOfInput => ⟨[], .skip⟩
  | .illegal => ⟨[.illegal t.text], .skip⟩
  | .display how =>
    if t.text.isEmpty then ⟨[.missingExpression how], .skip⟩ else ⟨[], .leaf (.display how)⟩
  | .line .argument =>
    declarationMove atRoot .argument (Argument.read t.position.line t.text) .argument
  | .line .context =>
    declarationMove atRoot .context (ContextVariable.read t.position.line t.text) .context
  | .line .importing =>
    declarationMove atRoot .importing (Import.read t.position.line t.text) .importing
  | .line .inclusion =>
    .ofReading (Call.read .inclusion t.text) fun call => .leaf (.inclusion call)
  | .line .extension =>
    ⟨problems (Call.read .extension t.text),
      .begin (.extension (Call.read .extension t.text).toOption)⟩
  | .line .content => ⟨[.strayContent], .begin .strayContent⟩
  | .line .yield => .ofReading (readContentName .yield t.text) fun name => .leaf (.yield name)
  | .line .condition =>
    ⟨if t.text.isEmpty then [.missingCondition] else [], .begin .condition⟩
  | .line .loop =>
    ⟨problems (LoopHead.read t.text), .begin (.loop (LoopHead.read t.text).toOption)⟩
  | .verbatim block => ⟨[], .begin (.verbatim block)⟩
  | .otherwise => ⟨[.unexpected .otherwise], .skip⟩
  | .close => ⟨[.unexpected .close], .skip⟩

/-- What a token does directly inside of an `@extend` with the given content blocks. -/
def extensionMove [Alphabet] (slots : List Node) (t : Token) : Move :=
  match t.kind with
  | .close => ⟨[], .close⟩
  | .literal => ⟨if t.text.allBlank then [] else [.textInExtend], .skip⟩
  | .illegal => ⟨[.illegal t.text], .skip⟩
  | .otherwise => ⟨[.unexpectedInExtend .otherwise], .skip⟩
  | .line .content => ⟨problems (slotName slots t.text), .begin (.slot t.text)⟩
  | kind =>
    ⟨.unexpectedInExtend kind :: (statementMove false t).problems, (statementMove false t).action⟩

/-- What a token does inside of a verbatim block. -/
def verbatimMove (t : Token) : Move :=
  match t.kind with
  | .literal => ⟨[], .leaf .verbatimText⟩
  | .close => ⟨[], .close⟩
  | kind => ⟨[.unexpectedInVerbatim kind], .skip⟩

/-- What a token does, by the innermost block. -/
def move [Alphabet] (top? : Option OpenBlock) (t : Token) : Move :=
  match top? with
  | none => statementMove true t
  | some block =>
    match t.kind, block.frame with
    | .endOfInput, _ => ⟨[.unclosed block.opener?], .close⟩
    | _, .verbatim _ => verbatimMove t
    | _, .extension _ => extensionMove block.body t
    | .otherwise, .condition => ⟨[], .turn⟩
    | .close, _ => ⟨[], .close⟩
    | _, _ => statementMove false t

/-- Reports several problems at a token. -/
def reportAll (d : Draft) (t : Token) (ps : List Problem) : Draft :=
  { d with diagnostics := d.diagnostics ++ ps.map (.ofToken t) }

/-- Carries out what a token does. -/
def perform (d : Draft) (t : Token) : Action → Draft
  | .skip => d
  | .leaf kind => d.add (.leaf kind t)
  | .begin frame => d.begin t frame
  | .close => d.close
  | .turn =>
    match d.blocks with
    | [] => d
    | block :: outer => d.turn block outer t
  | .argument a => { d with declarations.arguments := d.declarations.arguments ++ [a] }
  | .context c => { d with declarations.contexts := d.declarations.contexts ++ [c] }
  | .importing i => { d with declarations.imports := d.declarations.imports ++ [i] }

/-- Reports the problems of a move and carries out its action. -/
def apply (d : Draft) (t : Token) (m : Move) : Draft :=
  (d.reportAll t m.problems).perform t m.action

/-- Inside of a block, turning goes on with the alternative of the innermost one. -/
theorem perform_turn {d : Draft} {b : OpenBlock} {outer : List OpenBlock}
    (hb : d.blocks = b :: outer) (t : Token) : d.perform t .turn = d.turn b outer t := by
  simp only [perform, hb]

/-- Reporting no problems changes nothing. -/
@[simp] theorem reportAll_nil (d : Draft) (t : Token) : d.reportAll t [] = d := by
  simp [reportAll]

/-- One problem is reported like a list of one. -/
theorem report_eq (d : Draft) (t : Token) (problem : Problem) :
    d.report t problem = d.reportAll t [problem] := rfl

/-- Problems at a token are reported one after another. -/
theorem reportAll_reportAll (d : Draft) (t : Token) (ps qs : List Problem) :
    (d.reportAll t ps).reportAll t qs = d.reportAll t (ps ++ qs) := by
  simp [reportAll]

/-- The problem of a reading is reported, if it has one. -/
theorem reportAny_eq {α : Type} (d : Draft) (t : Token) (reading : Except Problem α) :
    d.reportAny t reading = d.reportAll t (problems reading) := by
  cases reading with
  | ok a => exact (reportAll_nil d t).symm
  | error problem => rfl

/-- A reading that succeeds leads to the action on its value. -/
@[simp] theorem apply_ofReading_ok {α : Type} (d : Draft) (t : Token) (a : α) (act : α → Action) :
    d.apply t (.ofReading (.ok a) act) = d.perform t (act a) := by
  simp [apply, Move.ofReading]

/-- A reading that fails leads to a report and nothing else. -/
@[simp] theorem apply_ofReading_error {α : Type} (d : Draft) (t : Token) (problem : Problem)
    (act : α → Action) :
    d.apply t (.ofReading (.error problem) act) = d.report t problem := rfl

/-- The problems of a move that comes of a reading are those of the reading. -/
@[simp] theorem problems_ofReading {α : Type} (reading : Except Problem α) (act : α → Action) :
    (Move.ofReading reading act).problems = problems reading := by
  cases reading with
  | ok a => rfl
  | error problem => rfl

/-- A line directive that is taken as a statement is a move of the table. -/
theorem takeLine_eq [Alphabet] (d : Draft) (t : Token) {directive : LineDirective}
    (h : t.kind = .line directive) :
    d.takeLine directive t = d.apply t (statementMove d.blocks.isEmpty t) := by
  cases directive with
  | argument =>
    simp only [takeLine, declare, statementMove, h, declarationMove]
    split
    · cases Argument.read t.position.line t.text <;> simp [perform]
    · rfl
  | context =>
    simp only [takeLine, declare, statementMove, h, declarationMove]
    split
    · cases ContextVariable.read t.position.line t.text <;> simp [perform]
    · rfl
  | importing =>
    simp only [takeLine, declare, statementMove, h, declarationMove]
    split
    · cases Import.read t.position.line t.text <;> simp [perform]
    · rfl
  | inclusion =>
    simp only [takeLine, statementMove, h]
    cases Call.read .inclusion t.text <;> simp [perform]
  | extension => simp only [statementMove, h, apply, takeLine, reportAny_eq, perform]
  | content => simp only [statementMove, h, apply, takeLine, report_eq, perform]
  | yield =>
    simp only [takeLine, statementMove, h]
    cases readContentName .yield t.text <;> simp [perform]
  | condition =>
    simp only [statementMove, h, apply, takeLine, report_eq, perform]
    split <;> simp
  | loop => simp only [statementMove, h, apply, takeLine, reportAny_eq, perform]

/-- A statement is a move of the table. -/
theorem statement_eq [Alphabet] (d : Draft) (t : Token) :
    d.statement t = d.apply t (statementMove d.blocks.isEmpty t) := by
  cases h : t.kind with
  | line directive =>
    rw [← takeLine_eq d t h]
    simp only [statement, h]
  | literal => simp [statement, statementMove, apply, perform, h]
  | endOfInput => simp [statement, statementMove, apply, perform, h]
  | illegal => simp [statement, statementMove, apply, perform, h, report_eq]
  | display how =>
    simp only [statement, statementMove, h]
    split <;> simp [apply, perform, report_eq]
  | verbatim block => simp [statement, statementMove, apply, perform, h]
  | otherwise => simp [statement, statementMove, apply, perform, h, report_eq]
  | close => simp [statement, statementMove, apply, perform, h, report_eq]

/-- A token directly inside of an `@extend` makes a move of the table. -/
theorem stepExtension_eq [Alphabet] {d : Draft} (hd : d.blocks.isEmpty = false) (slots : List Node)
    (t : Token) : d.stepExtension slots t = d.apply t (extensionMove slots t) := by
  -- Any other token is reported and then taken as a statement all the same.
  have hstray (kind : TokenKind) :
      (d.report t (.unexpectedInExtend kind)).statement t =
        d.apply t ⟨.unexpectedInExtend kind :: (statementMove false t).problems,
          (statementMove false t).action⟩ := by
    have hblocks : (d.report t (.unexpectedInExtend kind)).blocks.isEmpty = false := hd
    rw [statement_eq, hblocks]
    simp only [apply, report_eq, reportAll_reportAll, List.singleton_append]
  cases h : t.kind with
  | line directive =>
    cases directive with
    | content => simp only [stepExtension, extensionMove, h, apply, reportAny_eq, perform]
    | _ => simp only [stepExtension, extensionMove, h, hstray]
  | literal =>
    simp only [stepExtension, extensionMove, h]
    split <;> simp [apply, perform, report_eq]
  | illegal => simp [stepExtension, extensionMove, apply, perform, h, report_eq]
  | otherwise => simp [stepExtension, extensionMove, apply, perform, h, report_eq]
  | close => simp [stepExtension, extensionMove, apply, perform, h]
  | _ => simp only [stepExtension, extensionMove, h, hstray]

/-- A token inside of a verbatim block makes a move of the table. -/
theorem stepVerbatim_eq (d : Draft) (t : Token) :
    d.stepVerbatim t = d.apply t (verbatimMove t) := by
  cases h : t.kind with
  | literal => simp [stepVerbatim, verbatimMove, apply, perform, h]
  | close => simp [stepVerbatim, verbatimMove, apply, perform, h]
  | _ => simp [stepVerbatim, verbatimMove, apply, perform, h, report_eq]

/-- The end of the input is reported for the block that it closes. -/
theorem move_end [Alphabet] (block : OpenBlock) {t : Token} (hk : t.kind = .endOfInput) :
    move (some block) t = ⟨[.unclosed block.opener?], .close⟩ := by
  simp [move, hk]

/-- In a verbatim block every token but the end of the input makes a verbatim move. -/
theorem move_verbatim [Alphabet] {block : OpenBlock} {v : Verbatim} (hf : block.frame = .verbatim v)
    {t : Token} (hk : t.kind ≠ .endOfInput) : move (some block) t = verbatimMove t := by
  cases h : t.kind <;> simp_all [move]

/-- Directly inside of an `@extend` every token but the end of the input makes the move of an
extension. -/
theorem move_extension [Alphabet] {block : OpenBlock} {call? : Option Call}
    (hf : block.frame = .extension call?) {t : Token} (hk : t.kind ≠ .endOfInput) :
    move (some block) t = extensionMove block.body t := by
  cases h : t.kind <;> simp_all [move]

/-- In a condition an `@else` turns to the alternative. -/
theorem move_turn [Alphabet] {block : OpenBlock} (hf : block.frame = .condition) {t : Token}
    (hk : t.kind = .otherwise) : move (some block) t = ⟨[], .turn⟩ := by
  simp [move, hk, hf]

/-- An `@end` closes whatever block is open. -/
theorem move_close [Alphabet] (block : OpenBlock) {t : Token} (hk : t.kind = .close) :
    move (some block) t = ⟨[], .close⟩ := by
  cases hf : block.frame <;> simp [move, hk, hf, verbatimMove, extensionMove]

/-- In a block of statements a token that neither closes nor turns it makes the move of a
statement. -/
theorem move_statement [Alphabet] {block : OpenBlock} (hf : block.frame.takesStatements = true)
    {t : Token} (hend : t.kind ≠ .endOfInput) (hclose : t.kind ≠ .close)
    (hturn : block.frame = .condition → t.kind ≠ .otherwise) :
    move (some block) t = statementMove false t := by
  cases h : block.frame <;> cases hk : t.kind <;> simp_all [move, Frame.takesStatements]

/-- What a token does in a block of statements. -/
theorem move_cases [Alphabet] {block : OpenBlock} (hf : block.frame.takesStatements = true)
    {t : Token} (hend : t.kind ≠ .endOfInput) :
    (t.kind = .close ∧ move (some block) t = ⟨[], .close⟩) ∨
      (block.frame = .condition ∧ t.kind = .otherwise ∧ move (some block) t = ⟨[], .turn⟩) ∨
      (t.kind ≠ .close ∧ (block.frame = .condition → t.kind ≠ .otherwise) ∧
        move (some block) t = statementMove false t) := by
  by_cases hclose : t.kind = .close
  · exact Or.inl ⟨hclose, move_close block hclose⟩
  by_cases hturn : block.frame = .condition ∧ t.kind = .otherwise
  · exact Or.inr (Or.inl ⟨hturn.1, hturn.2, move_turn hturn.1 hturn.2⟩)
  · have hne : block.frame = .condition → t.kind ≠ .otherwise := fun hc hk => hturn ⟨hc, hk⟩
    exact Or.inr (Or.inr ⟨hclose, hne, move_statement hf hend hclose hne⟩)

/-- A step looks up what the token does and does it. -/
theorem step_eq [Alphabet] (d : Draft) (t : Token) :
    d.step t = d.apply t (move d.blocks.head? t) := by
  cases hb : d.blocks with
  | nil =>
    simp only [step, hb, move, List.head?_nil]
    rw [statement_eq, hb]
    rfl
  | cons block outer =>
    have hne : d.blocks.isEmpty = false := by rw [hb]; rfl
    rw [List.head?_cons]
    simp only [step, hb]
    split
    · next hk =>
      rw [move_end block hk]
      rfl
    · next v hf hk =>
      rw [move_verbatim hf hk]
      exact stepVerbatim_eq d t
    · next call? hf hk =>
      rw [move_extension hf hk]
      exact stepExtension_eq hne block.body t
    · next hk hf =>
      rw [move_turn hf hk]
      simp [apply, perform, hb]
    · next hk hv he =>
      rw [move_close block hk]
      simp [apply, perform]
    · next hend hclose hv he hturn =>
      rw [move_statement (block.frame.takesStatements_iff.2 ⟨hv, he⟩) hend hclose
        (fun hf hk => hturn hk hf), statement_eq, hne]

/-! ## What the operations leave alone -/

/-- The blocks that are open without their bodies, the innermost first. -/
def heads (d : Draft) : List (Option Token × Frame) :=
  d.blocks.map fun b => (b.opener?, b.frame)

/-- The innermost block has the first head. -/
theorem heads_of_cons {d : Draft} {b : OpenBlock} {outer : List OpenBlock}
    (h : d.blocks = b :: outer) :
    d.heads = (b.opener?, b.frame) :: outer.map fun b => (b.opener?, b.frame) := by
  simp [heads, h]

/-- Reporting leaves the open blocks as they are. -/
@[simp] theorem reportAll_blocks (d : Draft) (t : Token) (ps : List Problem) :
    (d.reportAll t ps).blocks = d.blocks := rfl

/-- Reporting leaves the declarations as they are. -/
@[simp] theorem reportAll_declarations (d : Draft) (t : Token) (ps : List Problem) :
    (d.reportAll t ps).declarations = d.declarations := rfl

/-- Reporting puts the problems behind the diagnostics, each at the token. -/
@[simp] theorem reportAll_diagnostics (d : Draft) (t : Token) (ps : List Problem) :
    (d.reportAll t ps).diagnostics = d.diagnostics ++ ps.map (.ofToken t) := rfl

/-- A node that is added does not change the opener of a block. -/
@[simp] theorem opener?_add (b : OpenBlock) (n : Node) : (b.add n).opener? = b.opener? := by
  unfold OpenBlock.add
  split <;> rfl

/-- A node that is added does not change the sort of a block. -/
@[simp] theorem frame_add (b : OpenBlock) (n : Node) : (b.add n).frame = b.frame := by
  unfold OpenBlock.add
  split <;> rfl

/-- Adding a node reports nothing. -/
@[simp] theorem add_diagnostics (d : Draft) (n : Node) : (d.add n).diagnostics = d.diagnostics := by
  unfold add
  split <;> rfl

/-- Adding a node declares nothing. -/
@[simp] theorem add_declarations (d : Draft) (n : Node) :
    (d.add n).declarations = d.declarations := by
  unfold add
  split <;> rfl

/-- Outside of blocks a node is added to the body of the document. -/
theorem add_of_nil {d : Draft} (h : d.blocks = []) (n : Node) :
    d.add n = { d with body := d.body ++ [n] } := by
  simp [add, h]

/-- Inside of a block a node is added to the innermost one. -/
theorem add_of_cons {d : Draft} {b : OpenBlock} {outer : List OpenBlock}
    (h : d.blocks = b :: outer) (n : Node) : d.add n = { d with blocks := b.add n :: outer } := by
  simp [add, h]

/-! ## Closing a block -/

/-- A block that becomes no node is closed without a trace. -/
theorem close_of_none {d : Draft} {b : OpenBlock} {outer : List OpenBlock}
    (h : d.blocks = b :: outer) (hn : b.node? = none) : d.close = { d with blocks := outer } := by
  simp [close, h, hn]

/-- A function block at the root becomes a declaration, and so does one without an opener. -/
theorem close_of_function {d : Draft} {b : OpenBlock} {outer : List OpenBlock}
    (h : d.blocks = b :: outer) (hf : b.frame = .verbatim .function)
    (hroot : outer = [] ∨ b.opener? = none) :
    d.close = { d with
      blocks := outer
      declarations.functions :=
        d.declarations.functions ++ [⟨.verbatim .function, b.opener?, b.body⟩] } := by
  rcases hroot with rfl | ho
  · simp [close, h, hf, OpenBlock.node?, declareFunction]
  · simp [close, h, hf, ho, OpenBlock.node?, declareFunction]

/-- A function block elsewhere is reported. -/
theorem close_of_nestedFunction {d : Draft} {b c : OpenBlock} {outer : List OpenBlock}
    (h : d.blocks = b :: c :: outer) (hf : b.frame = .verbatim .function) {opener : Token}
    (ho : b.opener? = some opener) :
    d.close = { d with
      blocks := c :: outer
      diagnostics := d.diagnostics ++ [.ofToken opener .nestedFunction] } := by
  simp [close, h, hf, ho, OpenBlock.node?, report]

/-- Any other block becomes a node of the block around it. -/
theorem close_of_node {d : Draft} {b : OpenBlock} {outer : List OpenBlock} {n : Node}
    (h : d.blocks = b :: outer) (hn : b.node? = some n) (hf : b.frame ≠ .verbatim .function) :
    d.close = ({ d with blocks := outer } : Draft).add n := by
  simp [close, h, hn]

/-- The ways in which a block is closed. -/
theorem close_cases {d : Draft} {b : OpenBlock} {outer : List OpenBlock}
    (h : d.blocks = b :: outer) :
    (b.node? = none ∧ d.close = { d with blocks := outer }) ∨
      (b.frame = .verbatim .function ∧ (outer = [] ∨ b.opener? = none) ∧ d.close = { d with
        blocks := outer
        declarations.functions :=
          d.declarations.functions ++ [⟨.verbatim .function, b.opener?, b.body⟩] }) ∨
      (b.frame = .verbatim .function ∧ outer ≠ [] ∧ ∃ opener, b.opener? = some opener ∧
        d.close = { d with
          blocks := outer
          diagnostics := d.diagnostics ++ [.ofToken opener .nestedFunction] }) ∨
      ∃ n, b.node? = some n ∧ b.frame ≠ .verbatim .function ∧
        d.close = ({ d with blocks := outer } : Draft).add n := by
  by_cases hf : b.frame = .verbatim .function
  · by_cases hroot : outer = [] ∨ b.opener? = none
    · exact Or.inr (Or.inl ⟨hf, hroot, close_of_function h hf hroot⟩)
    · obtain ⟨hout, hopener⟩ := not_or.1 hroot
      obtain ⟨opener, ho⟩ := Option.ne_none_iff_exists'.1 hopener
      obtain ⟨c, outer, rfl⟩ := List.exists_cons_of_ne_nil hout
      exact Or.inr (Or.inr (Or.inl ⟨hf, hout, opener, ho, close_of_nestedFunction h hf ho⟩))
  · cases hn : b.node? with
    | none => exact Or.inl ⟨rfl, close_of_none h hn⟩
    | some n => exact Or.inr (Or.inr (Or.inr ⟨n, rfl, hf, close_of_node h hn hf⟩))

/-- What closing the innermost block reports: a function block inside of another block. -/
def closingReports : List OpenBlock → List Diagnostic
  | b :: _ :: _ =>
    match b.frame with
    | .verbatim .function => b.opener?.toList.map (.ofToken · .nestedFunction)
    | _ => []
  | _ => []

/-- Closing a block reports at most that it is a function block inside of another. -/
theorem mem_closingReports {blocks : List OpenBlock} {x : Diagnostic}
    (h : x ∈ closingReports blocks) :
    ∃ b c outer opener, blocks = b :: c :: outer ∧ b.frame = .verbatim .function ∧
      b.opener? = some opener ∧ x = .ofToken opener .nestedFunction := by
  unfold closingReports at h
  split at h
  · next b c outer =>
    split at h
    · next hf =>
      obtain ⟨opener, ho, rfl⟩ := List.mem_map.1 h
      exact ⟨b, c, outer, opener, rfl, hf, Option.mem_toList.1 ho, rfl⟩
    · cases h
  · cases h

/-- A function block that is closed without a report stands at the root. -/
theorem eq_nil_of_closingReports {b : OpenBlock} {outer : List OpenBlock}
    (h : closingReports (b :: outer) = []) (hf : b.frame = .verbatim .function) {opener : Token}
    (ho : b.opener? = some opener) : outer = [] := by
  cases outer with
  | nil => rfl
  | cons c outer => simp [closingReports, hf, ho] at h

/-- What closing a block reports is put behind the diagnostics. -/
theorem close_diagnostics (d : Draft) :
    d.close.diagnostics = d.diagnostics ++ closingReports d.blocks := by
  cases hb : d.blocks with
  | nil => simp [close, hb, closingReports]
  | cons b outer =>
    rcases close_cases hb with
      ⟨hn, hc⟩ | ⟨hf, hroot, hc⟩ | ⟨hf, hout, opener, ho, hc⟩ | ⟨n, hn, hf, hc⟩
    · have hf : b.frame ≠ .verbatim .function := fun hf => by simp [OpenBlock.node?, hf] at hn
      cases outer with
      | nil => simp [hc, closingReports]
      | cons c outer => simp [hc, closingReports]
    · rcases hroot with rfl | ho
      · simp [hc, closingReports]
      · cases outer with
        | nil => simp [hc, closingReports]
        | cons c outer => simp [hc, closingReports, hf, ho]
    · obtain ⟨c, outer, rfl⟩ := List.exists_cons_of_ne_nil hout
      simp [hc, closingReports, hf, ho]
    · cases outer with
      | nil => simp [hc, closingReports]
      | cons c outer => simp [hc, closingReports]

/-- Reporting leaves the heads of the blocks as they are. -/
@[simp] theorem heads_reportAll (d : Draft) (t : Token) (ps : List Problem) :
    (d.reportAll t ps).heads = d.heads := rfl

/-- Adding a node leaves the heads of the blocks as they are. -/
@[simp] theorem heads_add (d : Draft) (n : Node) : (d.add n).heads = d.heads := by
  cases hb : d.blocks with
  | nil => simp [add, heads, hb]
  | cons b outer => simp [add, heads, hb]

/-- Closing takes the innermost block away. -/
@[simp] theorem heads_close (d : Draft) : d.close.heads = d.heads.tail := by
  cases hb : d.blocks with
  | nil => simp [close, heads, hb]
  | cons b outer =>
    rcases close_cases hb with
      ⟨hn, hc⟩ | ⟨hf, -, hc⟩ | ⟨hf, hout, opener, ho, hc⟩ | ⟨n, hn, hf, hc⟩
    · simp [hc, heads, hb]
    · simp [hc, heads, hb]
    · simp [hc, heads, hb]
    · rw [hc, heads_add]
      simp [heads, hb]

/-! ## Drafts that tokens of a source lead to -/

/-- Where the token behind the innermost block's body so far stands. -/
def phaseOf : Option OpenBlock → Phase
  | some ⟨_, .verbatim _, []⟩ => .opened
  | some ⟨_, .verbatim _, _ :: _⟩ => .filled
  | _ => .template

/-- Inside of a verbatim block only its body and its `@end` may come next. -/
theorem kind_of_verbatim {b : OpenBlock} {v : Verbatim} (hf : b.frame = .verbatim v)
    {kind : TokenKind} (hadmits : (phaseOf (some b)).Admits kind) :
    kind = .literal ∧ b.body = [] ∨ kind = .close := by
  obtain ⟨opener, frame, body⟩ := b
  cases hf
  cases body with
  | nil => exact hadmits.imp (fun h => ⟨h, rfl⟩) id
  | cons n body => exact Or.inr hadmits

/-- What a token does fits its sort: blocks are opened by openers, closed by `@end`, and an
`@else` turns a condition. -/
def Action.Suits (top? : Option OpenBlock) (kind : TokenKind) : Action → Prop
  | .begin frame => kind.opensBlock = true ∧ frame.kind = kind
  | .close => kind = .close ∧ top? ≠ none
  | .turn => kind = .otherwise ∧ ∃ b, top? = some b ∧ b.frame = .condition
  | _ => kind.opensBlock = false ∧ (kind = .close → top? = none) ∧
      (kind = .otherwise → ∀ b, top? = some b → b.frame ≠ .condition)

/-- A statement opens a block if its token is an opener, and never closes or turns one. -/
theorem statementMove_suits [Alphabet] {top? : Option OpenBlock} (atRoot : Bool) {t : Token}
    (hclose : t.kind = .close → top? = none)
    (hturn : t.kind = .otherwise → ∀ b, top? = some b → b.frame ≠ .condition) :
    (statementMove atRoot t).action.Suits top? t.kind := by
  have hreading {α : Type} (reading : Except Problem α) {act : α → Action}
      (hok : ∀ a, (act a).Suits top? t.kind) (hskip : Action.skip.Suits top? t.kind) :
      (Move.ofReading reading act).action.Suits top? t.kind := by
    cases reading with
    | ok a => exact hok a
    | error problem => exact hskip
  have hdeclaration {α : Type} (directive : LineDirective) (reading : Except Problem α)
      {act : α → Action} (hok : ∀ a, (act a).Suits top? t.kind)
      (hskip : Action.skip.Suits top? t.kind) :
      (declarationMove atRoot directive reading act).action.Suits top? t.kind := by
    unfold declarationMove
    split
    · exact hreading reading hok hskip
    · exact hskip
  have hquiet (h : t.kind.opensBlock = false) : Action.skip.Suits top? t.kind :=
    ⟨h, hclose, hturn⟩
  cases hk : t.kind with
  | line directive =>
    rw [hk] at hreading hdeclaration hquiet
    cases directive with
    | argument | context | importing =>
      simp only [statementMove, hk]
      exact hdeclaration _ _ (fun _ => hquiet rfl) (hquiet rfl)
    | inclusion | yield =>
      simp only [statementMove, hk]
      exact hreading _ (fun _ => hquiet rfl) (hquiet rfl)
    | extension | content | condition | loop =>
      simp only [statementMove, hk]
      exact ⟨rfl, rfl⟩
  | display how =>
    rw [hk] at hquiet
    simp only [statementMove, hk]
    split
    · exact hquiet rfl
    · exact hquiet rfl
  | verbatim block =>
    simp only [statementMove, hk]
    exact ⟨rfl, rfl⟩
  | literal | endOfInput | illegal | otherwise | close =>
    rw [hk] at hquiet
    simp only [statementMove, hk]
    exact hquiet rfl

/-- Directly inside of an `@extend`, what a token does fits its sort as well. -/
theorem extensionMove_suits [Alphabet] {b : OpenBlock} {call? : Option Call}
    (hf : b.frame = .extension call?) (t : Token) :
    (extensionMove b.body t).action.Suits (some b) t.kind := by
  have hcondition : b.frame ≠ .condition := by simp [hf]
  have hturn : t.kind = .otherwise → ∀ c, some b = some c → c.frame ≠ .condition := by
    rintro - c hc
    rwa [← Option.some.inj hc]
  have hstatement (hclose : t.kind ≠ .close) :=
    statementMove_suits false (fun h => absurd h hclose) hturn
  cases hk : t.kind with
  | close =>
    simp only [extensionMove, hk]
    exact ⟨rfl, by simp⟩
  | literal | illegal | otherwise =>
    rw [hk] at hturn
    simp only [extensionMove, hk]
    exact ⟨rfl, by simp, hturn⟩
  | line directive =>
    have h := hstatement (by simp [hk])
    rw [hk] at h
    cases directive with
    | content =>
      simp only [extensionMove, hk]
      exact ⟨rfl, rfl⟩
    | _ =>
      simp only [extensionMove, hk]
      exact h
  | endOfInput | display how | verbatim block =>
    have h := hstatement (by simp [hk])
    rw [hk] at h
    simp only [extensionMove, hk]
    exact h

/-- Where the token may come next, what it does fits its sort. -/
theorem move_suits [Alphabet] {top? : Option OpenBlock} {t : Token} (hend : t.kind ≠ .endOfInput)
    (hadmits : (phaseOf top?).Admits t.kind) : (move top? t).action.Suits top? t.kind := by
  cases top? with
  | none => exact statementMove_suits true (fun _ => rfl) (by simp)
  | some b =>
    cases hf : b.frame with
    | verbatim v =>
      rw [move_verbatim hf hend]
      rcases kind_of_verbatim hf hadmits with ⟨hk, -⟩ | hk
      · simp [verbatimMove, hk, Action.Suits, TokenKind.opensBlock]
      · simp [verbatimMove, hk, Action.Suits]
    | extension call? =>
      rw [move_extension hf hend]
      exact extensionMove_suits hf t
    | condition | otherwise _ _ | loop _ | slot _ | strayContent =>
      have htakes : b.frame.takesStatements = true := by rw [hf]; rfl
      rcases move_cases htakes hend with ⟨hk, hmove⟩ | ⟨hc, hk, hmove⟩ | ⟨hclose, hne, hmove⟩
      · rw [hmove]
        exact ⟨hk, by simp⟩
      · rw [hmove]
        exact ⟨hk, b, rfl, hc⟩
      · rw [hmove]
        refine statementMove_suits false (fun h => absurd h hclose) ?_
        intro hk c hc hcond
        rw [← Option.some.inj hc] at hcond
        exact hne hcond hk

/-- Every block stands under a token that opens such a block, and only the innermost one may be
verbatim. -/
structure WellFormed (d : Draft) : Prop where
  /-- Every block has an opener, and of the right sort. -/
  fits : ∀ h ∈ d.heads, ∃ opener, h.1 = some opener ∧ opener.kind = h.2.kind
  /-- No block is open inside of a verbatim block. -/
  innermost : ∀ h ∈ d.heads.tail, ∀ v, h.2 ≠ .verbatim v

/-- The innermost block has an opener. -/
theorem WellFormed.opener {d : Draft} (h : d.WellFormed) {b : OpenBlock} {outer : List OpenBlock}
    (hb : d.blocks = b :: outer) : ∃ opener, b.opener? = some opener ∧ opener.kind = b.frame.kind :=
  h.fits (b.opener?, b.frame) (by simp [heads, hb])

/-- Without the innermost block the others are still in order. -/
theorem WellFormed.of_tail {d e : Draft} (h : d.WellFormed) (he : e.heads = d.heads.tail) :
    e.WellFormed := by
  refine ⟨?_, ?_⟩
  · rw [he]
    exact fun x hx => h.fits x (List.mem_of_mem_tail hx)
  · rw [he]
    exact fun x hx => h.innermost x (List.mem_of_mem_tail hx)

/-- Outside of verbatim blocks the next token stands in template text. -/
theorem phaseOf_eq_template {d : Draft} (h : ∀ x ∈ d.heads.head?, ∀ v, x.2 ≠ .verbatim v) :
    phaseOf d.blocks.head? = .template := by
  cases hb : d.blocks with
  | nil => rfl
  | cons b outer =>
    have hf := h (b.opener?, b.frame) (by simp [heads, hb])
    rw [List.head?_cons]
    unfold phaseOf
    split
    · next heq => exact absurd (by rw [Option.some.inj heq]) (hf _)
    · next heq => exact absurd (by rw [Option.some.inj heq]) (hf _)
    · rfl

/-- What the blocks without their bodies become when an action is carried out. -/
theorem heads_perform (d : Draft) (t : Token) (a : Action) :
    (d.perform t a).heads =
      match a, d.blocks with
      | .begin frame, _ => (some t, frame) :: d.heads
      | .close, _ => d.heads.tail
      | .turn, b :: _ => (some t, .otherwise b.opener? b.body) :: d.heads.tail
      | _, _ => d.heads := by
  cases a with
  | leaf kind => simp [perform]
  | close => simp [perform]
  | turn =>
    cases hb : d.blocks with
    | nil => simp [perform, hb]
    | cons b outer => simp [perform, hb, Draft.turn, heads]
  | begin frame => simp [perform, begin, heads]
  | skip | argument _ | context _ | importing _ => simp [perform, heads]

/-- The table decides what the blocks without their bodies become. -/
theorem heads_step [Alphabet] (d : Draft) (t : Token) :
    (d.step t).heads =
      match (move d.blocks.head? t).action, d.blocks with
      | .begin frame, _ => (some t, frame) :: d.heads
      | .close, _ => d.heads.tail
      | .turn, b :: _ => (some t, .otherwise b.opener? b.body) :: d.heads.tail
      | _, _ => d.heads := by
  rw [step_eq, apply, heads_perform]
  rfl

/-- What carrying out an action reports. -/
def Action.reports (blocks : List OpenBlock) : Action → List Diagnostic
  | .close => closingReports blocks
  | _ => []

/-- A token reports the problems of its move, and a function block that it closes in the wrong
place. -/
theorem diagnostics_step [Alphabet] (d : Draft) (t : Token) :
    (d.step t).diagnostics =
      d.diagnostics ++ (move d.blocks.head? t).problems.map (.ofToken t) ++
        (move d.blocks.head? t).action.reports d.blocks := by
  rw [step_eq, apply]
  cases (move d.blocks.head? t).action with
  | leaf kind => simp [perform, Action.reports]
  | close => simp [perform, Action.reports, close_diagnostics]
  | turn =>
    cases hb : d.blocks with
    | nil => simp [perform, Action.reports, hb]
    | cons b outer => simp [perform, Action.reports, hb, Draft.turn]
  | begin frame => simp [perform, Action.reports, begin]
  | skip | argument _ | context _ | importing _ => simp [perform, Action.reports]

/-- The token may come next behind a draft when a source is read. -/
structure Follows (d : Draft) (t : Token) : Prop where
  /-- The blocks of the draft are in order. -/
  wellFormed : d.WellFormed
  /-- The input goes on. -/
  notEnd : t.kind ≠ .endOfInput
  /-- A verbatim block goes on with its body or its `@end`. -/
  admits : (phaseOf d.blocks.head?).Admits t.kind
  /-- The token is spelled somehow. -/
  spelled : ∃ inBody spelling, Spells inBody t.kind t.text spelling

namespace Follows

variable {d : Draft} {t : Token}

/-- What a token does to a draft that it may follow suits its sort. -/
theorem suits [Alphabet] (h : d.Follows t) :
    (move d.blocks.head? t).action.Suits d.blocks.head? t.kind :=
  move_suits h.notEnd h.admits

/-- In a verbatim block the token is its body or its `@end`. -/
theorem kind_of_verbatim (h : d.Follows t) {b : OpenBlock} {outer : List OpenBlock}
    (hb : d.blocks = b :: outer) {v : Verbatim} (hf : b.frame = .verbatim v) :
    t.kind = .literal ∧ b.body = [] ∨ t.kind = .close := by
  have hadmits := h.admits
  rw [hb] at hadmits
  exact Draft.kind_of_verbatim hf hadmits

/-- No other token comes while a verbatim block is open. -/
theorem not_verbatim (h : d.Follows t) (hliteral : t.kind ≠ .literal) (hclose : t.kind ≠ .close) :
    ∀ x ∈ d.heads, ∀ v, x.2 ≠ .verbatim v := by
  cases hb : d.blocks with
  | nil => simp [heads, hb]
  | cons b outer =>
    intro x hx v hv
    rw [heads_of_cons hb] at hx
    rcases List.mem_cons.1 hx with rfl | hx
    · rcases h.kind_of_verbatim hb hv with ⟨hk, -⟩ | hk
      · exact hliteral hk
      · exact hclose hk
    · exact h.wellFormed.innermost x (by rw [heads_of_cons hb]; exact hx) v hv

/-- A token keeps the draft well formed. -/
theorem wellFormed_step [Alphabet] (h : d.Follows t) : (d.step t).WellFormed := by
  have hsuits := h.suits
  have hheads := heads_step d t
  cases ha : (move d.blocks.head? t).action with
  | begin frame =>
    rw [ha] at hsuits hheads
    refine ⟨?_, ?_⟩
    · rw [hheads]
      exact List.forall_mem_cons.2 ⟨⟨t, rfl, hsuits.2.symm⟩, h.wellFormed.fits⟩
    · rw [hheads]
      have hopens := hsuits.1
      refine h.not_verbatim (fun hk => ?_) (fun hk => ?_)
      · simp [hk, TokenKind.opensBlock] at hopens
      · simp [hk, TokenKind.opensBlock] at hopens
  | close =>
    rw [ha] at hheads
    exact h.wellFormed.of_tail hheads
  | turn =>
    rw [ha] at hsuits hheads
    obtain ⟨hk, b, hb, hf⟩ := hsuits
    obtain ⟨outer, hb⟩ := List.head?_eq_some_iff.1 hb
    simp only [hb] at hheads
    refine ⟨?_, ?_⟩
    · rw [hheads]
      exact List.forall_mem_cons.2
        ⟨⟨t, rfl, hk⟩, fun x hx => h.wellFormed.fits x (List.mem_of_mem_tail hx)⟩
    · rw [hheads]
      exact h.wellFormed.innermost
  | skip | leaf _ | argument _ | context _ | importing _ =>
    rw [ha] at hheads
    exact ⟨hheads ▸ h.wellFormed.fits, hheads ▸ h.wellFormed.innermost⟩

/-- The phase goes on as it does when the source is cut into tokens. -/
theorem phaseOf_step [Alphabet] (h : d.Follows t) :
    phaseOf (d.step t).blocks.head? = (phaseOf d.blocks.head?).after t.kind := by
  have hsuits := h.suits
  have hheads := heads_step d t
  -- A verbatim block is filled or closed; elsewhere the action says what becomes of the blocks.
  by_cases hv : ∃ b outer v, d.blocks = b :: outer ∧ b.frame = .verbatim v
  · obtain ⟨b, outer, v, hb, hf⟩ := hv
    have hmove : move d.blocks.head? t = verbatimMove t := by
      rw [hb]
      exact move_verbatim hf h.notEnd
    rcases h.kind_of_verbatim hb hf with ⟨hk, hbody⟩ | hk
    · obtain ⟨opener, frame, body⟩ := b
      cases hf
      cases hbody
      rw [step_eq, hmove]
      simp [verbatimMove, hk, apply, perform, hb, add, OpenBlock.add, phaseOf, Phase.after,
        TokenKind.opensVerbatim]
    · simp only [hmove, verbatimMove, hk] at hheads
      rw [phaseOf_eq_template, hk]
      · simp [Phase.after, TokenKind.opensVerbatim]
      · rw [hheads]
        exact fun x hx => h.wellFormed.innermost x (List.mem_of_mem_head? hx)
  · have htop : ∀ x ∈ d.heads.head?, ∀ v, x.2 ≠ .verbatim v := by
      intro x hx v hxv
      cases hb : d.blocks with
      | nil => simp [heads, hb] at hx
      | cons b outer =>
        simp only [heads, hb, List.map_cons, List.head?_cons, Option.mem_some] at hx
        exact hv ⟨b, outer, v, hb, by rw [← hxv, ← hx]⟩
    -- In template text the phase moves only where a verbatim block is opened.
    have hquiet (hk : t.kind.opensVerbatim = false)
        (hhead : ∀ x ∈ (d.step t).heads.head?, ∀ v, x.2 ≠ .verbatim v) :
        phaseOf (d.step t).blocks.head? = (phaseOf d.blocks.head?).after t.kind := by
      rw [phaseOf_eq_template hhead, phaseOf_eq_template htop]
      simp [Phase.after, hk]
    cases ha : (move d.blocks.head? t).action with
    | begin frame =>
      rw [ha] at hsuits
      rw [phaseOf_eq_template htop, step_eq, apply, ha, ← hsuits.2]
      cases frame <;>
        simp [perform, begin, phaseOf, Phase.after, Frame.kind, TokenKind.opensVerbatim]
    | close =>
      rw [ha] at hsuits hheads
      refine hquiet (by simp [hsuits.1, TokenKind.opensVerbatim]) ?_
      rw [hheads]
      exact fun x hx => h.wellFormed.innermost x (List.mem_of_mem_head? hx)
    | turn =>
      rw [ha] at hsuits hheads
      obtain ⟨hk, b, hb, hf⟩ := hsuits
      obtain ⟨outer, hb⟩ := List.head?_eq_some_iff.1 hb
      simp only [hb] at hheads
      refine hquiet (by simp [hk, TokenKind.opensVerbatim]) ?_
      simp [hheads]
    | skip | leaf _ | argument _ | context _ | importing _ =>
      rw [ha] at hsuits hheads
      refine hquiet (TokenKind.opensVerbatim_of_opensBlock hsuits.1) ?_
      rw [hheads]
      exact htop

end Follows

/-- The induction along the tokens of a source. -/
theorem read_induction [Alphabet] {P : Draft → List Token → Prop} (source : Text) (hstart : P {} [])
    (hstep : ∀ d read t, d.Follows t → P d read → P (d.step t) (read ++ [t])) :
    P (run {} (tokenize source).tokens) (tokenize source).tokens ∧
      (run {} (tokenize source).tokens).WellFormed := by
  -- The draft, what has been read and what is left to read all vary in the induction.
  have hrun (ts : List Token) (phase : Phase) (before rest : Text) (last : Token) (d : Draft)
      (read : List Token) (htiles : Tiles phase before rest (ts ++ [last]))
      (hphase : phaseOf d.blocks.head? = phase) (hd : d.WellFormed) (hP : P d read) :
      P (d.run ts) (read ++ ts) ∧ (d.run ts).WellFormed := by
    induction ts generalizing phase before rest d read with
    | nil =>
      rw [List.append_nil]
      exact ⟨hP, hd⟩
    | cons t ts ih =>
      rw [List.cons_append] at htiles
      generalize hback : ts ++ [last] = back at htiles
      cases htiles with
      | last => simp at hback
      | cons hcomments hkind hadmits hspelling hspells hresidue hspan hposition htail =>
        have hfollows : d.Follows t :=
          ⟨hd, hkind, by rw [hphase]; exact hadmits, _, _, hspells⟩
        subst hback
        have hnext := ih _ _ _ (d.step t) (read ++ [t]) htail
          (by rw [hfollows.phaseOf_step, hphase]) hfollows.wellFormed_step
          (hstep d read t hfollows hP)
        rw [List.append_assoc] at hnext
        exact hnext
  have hwf : ({} : Draft).WellFormed := ⟨by simp [heads], by simp [heads]⟩
  exact hrun _ _ _ _ _ {} [] (tiles_tokenize source) rfl hwf hstart

/-- The end of the input closes the innermost block. -/
theorem step_end [Alphabet] {d : Draft} {b : OpenBlock} {outer : List OpenBlock}
    (hb : d.blocks = b :: outer) {last : Token} (hk : last.kind = .endOfInput) :
    d.step last = (d.reportAll last [.unclosed b.opener?]).close := by
  rw [step_eq, hb, List.head?_cons, move_end b hk]
  rfl

/-- The induction along the blocks that are open at the end of the input. -/
theorem finish_induction [Alphabet] {P : Draft → Prop} {last : Token} (hk : last.kind = .endOfInput)
    (hstep : ∀ (d : Draft) b outer, d.WellFormed → d.blocks = b :: outer → P d → P (d.step last))
    {d : Draft} (hd : d.WellFormed) (hP : P d) :
    P (d.finish last) ∧ (d.finish last).blocks = [] := by
  -- The end of the input is read once for each open block, and every time it closes one.
  unfold finish
  induction hn : d.blocks.length generalizing d with
  | zero => exact ⟨hP, List.eq_nil_of_length_eq_zero hn⟩
  | succ n ih =>
    obtain ⟨b, outer, hb⟩ := List.exists_cons_of_length_eq_add_one hn
    have hheads : (d.step last).heads = d.heads.tail := by
      rw [step_end hb hk, heads_close, heads_reportAll]
    have hlength : (d.step last).blocks.length = n := by
      have hcount := congrArg List.length hheads
      simp only [heads, List.length_map, List.length_tail, hn] at hcount
      omega
    rw [List.replicate_succ, run_cons]
    exact ih (hd.of_tail hheads) (hstep d b outer hd hb hP) hlength

/-! ## Drafts without problems -/

/-- Diagnostics are never taken back. -/
theorem diagnostics_run_eq_nil [Alphabet] {d : Draft} {ts : List Token}
    (h : (d.run ts).diagnostics = []) :
    d.diagnostics = [] := by
  induction ts generalizing d with
  | nil => exact h
  | cons t ts ih =>
    have hstep : (d.step t).diagnostics = [] := ih h
    rw [diagnostics_step] at hstep
    simp only [List.append_eq_nil_iff] at hstep
    exact hstep.1.1

/-- The token reports nothing. -/
structure Passes [Alphabet] (d : Draft) (t : Token) : Prop extends d.Follows t where
  /-- Nothing is reported before it acts. -/
  problems : (move d.blocks.head? t).problems = []
  /-- Nothing is reported by what it does. -/
  reports : (move d.blocks.head? t).action.reports d.blocks = []

/-- If a document has no problems, then all blocks are closed in the source. -/
theorem finish_of_silent [Alphabet] {d : Draft} {last : Token} (hk : last.kind = .endOfInput)
    (h : (d.finish last).diagnostics = []) : d.blocks = [] ∧ d.finish last = d := by
  cases hb : d.blocks with
  | nil => exact ⟨rfl, by simp [finish, hb]⟩
  | cons b outer =>
    rw [finish, hb, List.length_cons, List.replicate_succ, run_cons] at h
    have hstep := diagnostics_run_eq_nil h
    rw [diagnostics_step, hb, List.head?_cons, move_end b hk] at hstep
    simp at hstep

end Draft

end Stencil
