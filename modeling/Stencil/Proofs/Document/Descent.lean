import Stencil.Proofs.Document.Nesting
import Stencil.Proofs.Token.Progress

/-!
# Reading by descent

A document can also be read without a stack of open blocks, by functions that call each other:
`scope` reads statements up to the token that ends its block, and a statement that opens a block
reads the block to its end. Each of them pulls its tokens from the cursor itself, also the end of
the input, which is pulled again by every block around one that is never closed. Whether a scope is
the root and which token opened it are told apart, and a block that no token opened would be
reported without a name.

That the functions return is no matter of course, since nothing bounds how deep they call each
other. What bounds them is what is left to read (`Reader.left`): a loop goes on only behind a token
that was not the end of the input. Each function returns a reader together with the proof that it
has no more left than before (`Reading`).

A reader that pulls a token and a draft that takes it do the same (`Reaches`), so that descent
gives the document of the source, and the tokens that it pulls are those that the draft takes. So
what is known of drafts holds of descent, too (`block_reports_eq_stack`).
-/

set_option autoImplicit false

namespace Stencil

open Draft (Action Move)

/-- A cursor, the tokens that have been pulled from it, and what has been declared and reported. -/
structure Reader where
  /-- Where the next token is pulled from. -/
  cursor : Cursor
  /-- The tokens that have been pulled, in order. -/
  pulled : List Token := []
  /-- The declarations so far. -/
  declarations : Declarations := {}
  /-- The problems so far. -/
  diagnostics : List Diagnostic := []

namespace Reader

/-- How much is left to read. -/
def left (r : Reader) : Nat :=
  r.cursor.rest.length

/-- The token that comes next. -/
def next (r : Reader) : Token :=
  r.cursor.next.1

/-- The reader behind the next token. -/
def pull (r : Reader) : Reader :=
  { r with cursor := r.cursor.next.2, pulled := r.pulled ++ [r.next] }

/-- Reports problems at a token. -/
def reportAll (r : Reader) (t : Token) (problems : List Problem) : Reader :=
  { r with diagnostics := r.diagnostics ++ problems.map (.ofToken t) }

/-- Reports a block that the end of the input leaves open. -/
def missingEnd (r : Reader) (opener? : Option Token) (last : Token) : Reader :=
  r.reportAll last [.unclosed opener?]

/-- Reporting leaves as much to read as before. -/
@[simp] theorem left_reportAll (r : Reader) (t : Token) (problems : List Problem) :
    (r.reportAll t problems).left = r.left := rfl

/-- A token other than the end of the input leaves less to read. -/
theorem left_pull {r : Reader} (h : r.next.kind ≠ .endOfInput) : r.pull.left < r.left :=
  Cursor.next_rest_lt h

/-- Pulling a token never leaves more to read. -/
theorem left_pull_le (r : Reader) : r.pull.left ≤ r.left := by
  have hpieces : r.cursor.lexeme.pieces = r.cursor.rest :=
    Lexeme.read_pieces r.cursor.inVerbatim r.cursor.rest
  have hlength := congrArg List.length hpieces
  simp only [Lexeme.pieces, List.length_append] at hlength
  show r.cursor.lexeme.rest.length ≤ r.cursor.rest.length
  omega

end Reader

/-- What was read, and the reader behind it. -/
structure Reading (r : Reader) (α : Type) where
  value : α
  reader : Reader
  /-- No more is left than before. -/
  le : reader.left ≤ r.left

namespace Reading

variable {α β : Type} {r r' : Reader}

/-- The same reading, begun earlier. -/
def since (x : Reading r' α) (h : r'.left ≤ r.left) : Reading r α :=
  ⟨x.value, x.reader, Nat.le_trans x.le h⟩

/-- Something made of what was read. -/
def map (f : α → β) (x : Reading r α) : Reading r β :=
  ⟨f x.value, x.reader, x.le⟩

end Reading

/-- The tokens that end a block of statements. -/
def Frame.terminators : Frame → List TokenKind
  | .condition => [.otherwise, .close]
  | _ => [.close]

/-- An `@end` ends every block of statements. -/
theorem Frame.close_mem_terminators (frame : Frame) : TokenKind.close ∈ frame.terminators := by
  cases frame <;> simp [terminators]

/-- Whether the node is a content block. -/
def Node.isSlot (n : Node) : Bool :=
  match n.kind with
  | .slot _ => true
  | _ => false

variable [Alphabet]

namespace Reader

/-- The node that a block becomes when it has been read. A function block becomes a declaration at
the root and is reported elsewhere, if it has an opener. -/
def settle {r : Reader} (x : Reading r OpenBlock) (atRoot : Bool) : Reading r (Option Node) :=
  match x.value.frame with
  | .verbatim .function =>
    match x.value.opener?, atRoot with
    | some opener, false => ⟨none, x.reader.reportAll opener [.nestedFunction], x.le⟩
    | opener?, _ =>
      ⟨none, { x.reader with
        declarations.functions := x.reader.declarations.functions ++
          [⟨.verbatim .function, opener?, x.value.body⟩] }, x.le⟩
  | _ => ⟨x.value.node?, x.reader, x.le⟩

/-- Reads the body of a verbatim block. -/
def verbatim (r : Reader) (opener? : Option Token) (body : List Node) : Reading r (List Node) :=
  if r.next.kind = .close then ⟨body, r.pull, r.left_pull_le⟩
  else if h : r.next.kind = .endOfInput then
    ⟨body, r.pull.missingEnd opener? r.next, r.left_pull_le⟩
  else
    have hlt : r.pull.left < r.left := left_pull h
    if r.next.kind = .literal then
      (r.pull.verbatim opener? (body ++ [.leaf .verbatimText r.next])).since r.left_pull_le
    else
      ((r.pull.reportAll r.next [.unexpectedInVerbatim r.next.kind]).verbatim opener? body).since
        r.left_pull_le
termination_by r.left

mutual

/-- Reads statements of the root, or of a block with the given opener, up to one of the terminators
or the end of the input, and returns that token. At the root the end of the input is no problem. -/
def scope (r : Reader) (atRoot : Bool) (opener? : Option Token) (terminators : List TokenKind)
    (body : List Node) : Reading r (List Node × Token) :=
  if r.next.kind ∈ terminators then ⟨(body, r.next), r.pull, r.left_pull_le⟩
  else if h : r.next.kind = .endOfInput then
    if atRoot then ⟨(body, r.next), r.pull, r.left_pull_le⟩
    else ⟨(body, r.next), r.pull.missingEnd opener? r.next, r.left_pull_le⟩
  else
    have hlt : r.pull.left < r.left := left_pull h
    match r.pull.statement atRoot r.next (Draft.statementMove atRoot r.next) with
    | ⟨node?, behind, hle⟩ =>
      (behind.scope atRoot opener? terminators (body ++ node?.toList)).since (by omega)
termination_by 3 * r.left

/-- Takes a token that makes the given move, and reads the block that it opens to its end. -/
def statement (r : Reader) (atRoot : Bool) (t : Token) (m : Move) : Reading r (Option Node) :=
  let r' := r.reportAll t m.problems
  match m.action with
  | .begin frame => settle ((r'.block t frame).since (Nat.le_refl r.left)) atRoot
  | .leaf kind => ⟨some (.leaf kind t), r', Nat.le_refl r.left⟩
  | .argument a =>
    ⟨none, { r' with declarations.arguments := r.declarations.arguments ++ [a] },
      Nat.le_refl r.left⟩
  | .context c =>
    ⟨none, { r' with declarations.contexts := r.declarations.contexts ++ [c] },
      Nat.le_refl r.left⟩
  | .importing i =>
    ⟨none, { r' with declarations.imports := r.declarations.imports ++ [i] }, Nat.le_refl r.left⟩
  | .skip | .close | .turn => ⟨none, r', Nat.le_refl r.left⟩
termination_by 3 * r.left + 2

/-- Reads the block that a token opens. A condition goes on behind its `@else`. -/
def block (r : Reader) (t : Token) (frame : Frame) : Reading r OpenBlock :=
  match frame with
  | .verbatim v => (r.verbatim (some t) []).map fun body => ⟨some t, .verbatim v, body⟩
  | .extension call? =>
    (r.extension (some t) []).map fun slots => ⟨some t, .extension call?, slots⟩
  | frame =>
    match r.scope false (some t) frame.terminators [] with
    | ⟨(body, last), behind, hle⟩ =>
      if last.kind = .otherwise then
        ((behind.scope false (some last) [.close] []).map fun x =>
          ⟨some last, .otherwise (some t) body, x.1⟩).since hle
      else ⟨⟨some t, frame, body⟩, behind, hle⟩
termination_by 3 * r.left + 1

/-- Reads the content blocks of an `@extend`. Any other statement is read to its end and
dropped. -/
def extension (r : Reader) (opener? : Option Token) (slots : List Node) : Reading r (List Node) :=
  if r.next.kind = .close then ⟨slots, r.pull, r.left_pull_le⟩
  else if h : r.next.kind = .endOfInput then
    ⟨slots, r.pull.missingEnd opener? r.next, r.left_pull_le⟩
  else
    have hlt : r.pull.left < r.left := left_pull h
    match r.pull.statement false r.next (Draft.extensionMove slots r.next) with
    | ⟨node?, behind, hle⟩ =>
      (behind.extension opener? (slots ++ node?.toList.filter Node.isSlot)).since (by omega)
termination_by 3 * r.left

end

end Reader

/-! ## Pulling and taking tokens -/

/-- `Pulls c d ts c' d'`: the calls of a cursor answer with the tokens, which are taken by the
draft. The end of the input is taken inside of a block only. -/
inductive Pulls : Cursor → Draft → List Token → Cursor → Draft → Prop
  | nil {c : Cursor} {d : Draft} : Pulls c d [] c d
  | cons {c c' : Cursor} {d d' : Draft} {ts : List Token}
      (hopen : c.next.1.kind = .endOfInput → d.blocks ≠ [])
      (htail : Pulls c.next.2 (d.step c.next.1) ts c' d') : Pulls c d (c.next.1 :: ts) c' d'

/-- Pulls go on where others have stopped. -/
theorem Pulls.trans {c c' c'' : Cursor} {d d' d'' : Draft} {ts us : List Token}
    (h : Pulls c d ts c' d') (h' : Pulls c' d' us c'' d'') : Pulls c d (ts ++ us) c'' d'' := by
  induction h with
  | nil => exact h'
  | cons hopen _ ih => exact Pulls.cons hopen (ih h')

/-- Adds the node that a statement became, if it became one. -/
def Draft.addAny (d : Draft) : Option Node → Draft
  | none => d
  | some n => d.add n

namespace Reader

/-- The draft with the given bodies that has declared and reported what the reader has. -/
def draft (r : Reader) (body : List Node) (blocks : List OpenBlock) : Draft :=
  { body, blocks, declarations := r.declarations, diagnostics := r.diagnostics }

/-- On its way from one reader to another, descent pulls the tokens that take one draft to the
other. -/
def Reaches (r : Reader) (d : Draft) (r' : Reader) (d' : Draft) : Prop :=
  ∃ ts, r'.pulled = r.pulled ++ ts ∧ Pulls r.cursor d ts r'.cursor d'

/-- Without a pull, descent stays where it is. -/
theorem Reaches.refl (r : Reader) (d : Draft) : r.Reaches d r d :=
  ⟨[], (List.append_nil _).symm, Pulls.nil⟩

/-- What descent reaches from what it has reached, it reaches. -/
theorem Reaches.trans {r r' r'' : Reader} {d d' d'' : Draft} (h : r.Reaches d r' d')
    (h' : r'.Reaches d' r'' d'') : r.Reaches d r'' d'' := by
  obtain ⟨ts, hpulled, hpulls⟩ := h
  obtain ⟨us, hpulled', hpulls'⟩ := h'
  exact ⟨ts ++ us, by rw [hpulled', hpulled, List.append_assoc], hpulls.trans hpulls'⟩

/-- Inside of a block, descent reaches the draft behind the next token, whatever it is. -/
theorem Reaches.pull (r : Reader) {d : Draft} (h : d.blocks ≠ []) :
    r.Reaches d r.pull (d.step r.next) :=
  ⟨[r.next], rfl, Pulls.cons (fun _ => h) Pulls.nil⟩

/-- Anywhere, descent reaches the draft behind the next token if it is not the end of the input. -/
theorem Reaches.pull_of_ne (r : Reader) (d : Draft) (h : r.next.kind ≠ .endOfInput) :
    r.Reaches d r.pull (d.step r.next) :=
  ⟨[r.next], rfl, Pulls.cons (fun hk => absurd hk h) Pulls.nil⟩

section Blocks

variable (r : Reader) (base : List Node) (outer : List OpenBlock) (o : Option Token)

omit [Alphabet] in
/-- At the root a node that was read goes into the body of the document. -/
theorem addAny_root (body : List Node) (node? : Option Node) :
    (r.draft body []).addAny node? = r.draft (body ++ node?.toList) [] := by
  cases node? with
  | none => simp [Draft.addAny]
  | some n => rfl

omit [Alphabet] in
/-- Inside of a block a node that was read goes into the body of the block. -/
theorem addAny_block {frame : Frame} (hf : ∀ call?, frame ≠ .extension call?) (body : List Node)
    (node? : Option Node) :
    (r.draft base (⟨o, frame, body⟩ :: outer)).addAny node? =
      r.draft base (⟨o, frame, body ++ node?.toList⟩ :: outer) := by
  cases node? with
  | none => simp [Draft.addAny]
  | some n =>
    cases frame with
    | extension call? => exact absurd rfl (hf call?)
    | _ => rfl

omit [Alphabet] in
/-- An `@extend` takes content blocks only. -/
theorem addAny_extension (call? : Option Call) (slots : List Node) (node? : Option Node) :
    (r.draft base (⟨o, .extension call?, slots⟩ :: outer)).addAny node? =
      r.draft base
        (⟨o, .extension call?, slots ++ node?.toList.filter Node.isSlot⟩ :: outer) := by
  cases node? with
  | none => simp [Draft.addAny]
  | some n =>
    obtain ⟨kind, token?, children⟩ := n
    cases kind with
    | slot name => rfl
    | _ => simp [Draft.addAny, Draft.add, draft, OpenBlock.add, Node.isSlot]

/-- Inside of a block the end of the input is reported and closes the block. -/
theorem step_end_draft (b : OpenBlock) {t : Token} (hk : t.kind = .endOfInput) :
    (r.draft base (b :: outer)).step t =
      ((r.missingEnd b.opener? t).draft base (b :: outer)).close :=
  Draft.step_end rfl hk

/-- Inside of a block an `@end` closes the block. -/
theorem step_close_draft (b : OpenBlock) {t : Token} (hk : t.kind = .close) :
    (r.draft base (b :: outer)).step t = (r.draft base (b :: outer)).close := by
  rw [Draft.step_eq, show (r.draft base (b :: outer)).blocks.head? = some b from rfl,
    Draft.move_close b hk]
  simp [Draft.apply, Draft.perform]

/-- Inside of a condition an `@else` turns to the alternative. -/
theorem step_turn_draft (body : List Node) {t : Token} (hk : t.kind = .otherwise) :
    (r.draft base (⟨o, .condition, body⟩ :: outer)).step t =
      r.draft base (⟨some t, .otherwise o body, []⟩ :: outer) := by
  rw [Draft.step_eq]
  have hmove := @Draft.move_turn _ ⟨o, .condition, body⟩ rfl t hk
  rw [show (r.draft base (⟨o, .condition, body⟩ :: outer)).blocks.head? =
    some ⟨o, .condition, body⟩ from rfl, hmove]
  simp [Draft.apply, Draft.perform, draft, Draft.turn]

end Blocks

omit [Alphabet] in
/-- A block that has been read is closed. -/
theorem close_eq_settle {r : Reader} (x : Reading r OpenBlock) (base : List Node)
    (outer : List OpenBlock) :
    (x.reader.draft base (x.value :: outer)).close =
      ((settle x outer.isEmpty).reader.draft base outer).addAny
        (settle x outer.isEmpty).value := by
  obtain ⟨b, behind, hle⟩ := x
  by_cases hf : b.frame = .verbatim .function
  · cases outer with
    | nil =>
      rw [Draft.close_of_function (b := b) rfl hf (Or.inl rfl)]
      simp [settle, hf, Draft.addAny, draft]
    | cons c outer =>
      cases ho : b.opener? with
      | none =>
        rw [Draft.close_of_function (b := b) rfl hf (Or.inr ho)]
        simp [settle, hf, ho, Draft.addAny, draft]
      | some opener =>
        rw [Draft.close_of_nestedFunction (b := b) rfl hf ho]
        simp [settle, hf, ho, Draft.addAny, draft, reportAll]
  · have hsettle : settle ⟨b, behind, hle⟩ outer.isEmpty = ⟨b.node?, behind, hle⟩ := by
      unfold settle
      split
      · next hfunction => exact absurd hfunction hf
      · rfl
    rw [hsettle]
    cases hn : b.node? with
    | none => exact Draft.close_of_none (b := b) rfl hn
    | some n => exact Draft.close_of_node (b := b) rfl hn hf

/-- A block that descent has read to its end is settled as the draft closes it. -/
theorem Reaches.of_close {r r' : Reader} {d : Draft} {x : Reading r' OpenBlock} {base : List Node}
    {outer : List OpenBlock}
    (h : r.Reaches d x.reader (x.reader.draft base (x.value :: outer)).close) :
    r.Reaches d (settle x outer.isEmpty).reader
      (((settle x outer.isEmpty).reader.draft base outer).addAny
        (settle x outer.isEmpty).value) := by
  have hsame : (settle x outer.isEmpty).reader.pulled = x.reader.pulled ∧
      (settle x outer.isEmpty).reader.cursor = x.reader.cursor := by
    unfold settle
    split
    · split
      · exact ⟨rfl, rfl⟩
      · exact ⟨rfl, rfl⟩
    · exact ⟨rfl, rfl⟩
  rw [← close_eq_settle]
  unfold Reaches
  rw [hsame.1, hsame.2]
  exact h

/-! ## Descent follows the draft -/

/-- Reading the body of a verbatim block reaches the draft with the block closed. -/
theorem verbatim_reaches (r : Reader) (base : List Node) (outer : List OpenBlock)
    (o : Option Token) (v : Verbatim) (body : List Node) :
    r.Reaches (r.draft base (⟨o, .verbatim v, body⟩ :: outer)) (r.verbatim o body).reader
      (((r.verbatim o body).reader.draft base
        (⟨o, .verbatim v, (r.verbatim o body).value⟩ :: outer)).close) := by
  have hpull := Reaches.pull r (d := r.draft base (⟨o, .verbatim v, body⟩ :: outer))
    (by simp [draft])
  rw [verbatim]
  split
  · next hk =>
    rw [step_close_draft r base outer _ hk] at hpull
    exact hpull
  · next hclose =>
    split
    · next hk =>
      rw [step_end_draft r base outer _ hk] at hpull
      exact hpull
    · next hend =>
      have hlt : r.pull.left < r.left := left_pull hend
      have hmove : (r.draft base (⟨o, .verbatim v, body⟩ :: outer)).step r.next =
          (r.draft base (⟨o, .verbatim v, body⟩ :: outer)).apply r.next
            (Draft.verbatimMove r.next) := by
        rw [Draft.step_eq]
        exact congrArg _ (@Draft.move_verbatim _ ⟨o, .verbatim v, body⟩ v rfl r.next hend)
      rw [hmove] at hpull
      split
      · next hk =>
        have hdraft : (r.draft base (⟨o, .verbatim v, body⟩ :: outer)).apply r.next
            (Draft.verbatimMove r.next) = r.pull.draft base
              (⟨o, .verbatim v, body ++ [.leaf .verbatimText r.next]⟩ :: outer) := by
          simp [Draft.verbatimMove, hk, Draft.apply, Draft.perform, Draft.add, OpenBlock.add,
            draft, pull]
        rw [hdraft] at hpull
        exact hpull.trans (verbatim_reaches r.pull base outer o v _)
      · next hliteral =>
        have hmisfit : Draft.verbatimMove r.next =
            ⟨[.unexpectedInVerbatim r.next.kind], .skip⟩ := by
          unfold Draft.verbatimMove
          split
          · next hk => exact absurd hk hliteral
          · next hk => exact absurd hk hclose
          · rfl
        rw [hmisfit] at hpull
        exact hpull.trans (verbatim_reaches
          (r.pull.reportAll r.next [.unexpectedInVerbatim r.next.kind]) base outer o v body)
termination_by r.left

/-- A move that leaves the blocks around the token as they are. -/
def Inward (m : Move) : Prop :=
  m.action ≠ .close ∧ m.action ≠ .turn

/-- A token that is met among statements closes no block. -/
theorem inward_statementMove (atRoot : Bool) (t : Token) :
    Inward (Draft.statementMove atRoot t) := by
  have hsuits := @Draft.statementMove_suits _ none atRoot t (fun _ => rfl) (by simp)
  constructor
  · intro ha
    rw [ha] at hsuits
    exact hsuits.2 rfl
  · intro ha
    rw [ha] at hsuits
    obtain ⟨-, b, hb, -⟩ := hsuits
    cases hb

/-- A token other than an `@end` that is met in an `@extend` closes no block. -/
theorem inward_extensionMove (slots : List Node) {t : Token} (hk : t.kind ≠ .close) :
    Inward (Draft.extensionMove slots t) := by
  have hsuits := Draft.extensionMove_suits (b := ⟨some t, .extension none, slots⟩) rfl t
  constructor
  · intro ha
    rw [ha] at hsuits
    exact hk hsuits.1
  · intro ha
    rw [ha] at hsuits
    obtain ⟨-, b, hb, hf⟩ := hsuits
    cases hb
    cases hf

mutual

/-- Reading the statements of a block reaches the draft with the block closed, or turned to its
alternative. -/
theorem scope_reaches (r : Reader) (base : List Node) (outer : List OpenBlock) (o : Option Token)
    {frame : Frame} (hf : frame.takesStatements = true) (body : List Node)
    {x : Reading r (List Node × Token)} (hx : r.scope false o frame.terminators body = x) :
    (x.value.2.kind = .otherwise → frame = .condition) ∧
      r.Reaches (r.draft base (⟨o, frame, body⟩ :: outer)) x.reader
        (if x.value.2.kind = .otherwise then
          x.reader.draft base (⟨some x.value.2, .otherwise o x.value.1, []⟩ :: outer)
        else (x.reader.draft base (⟨o, frame, x.value.1⟩ :: outer)).close) := by
  have hpull := Reaches.pull r (d := r.draft base (⟨o, frame, body⟩ :: outer)) (by simp [draft])
  have hplain := (frame.takesStatements_iff.1 hf).2
  rw [scope] at hx
  split at hx
  · next hmem =>
    subst hx
    by_cases hk : r.next.kind = .close
    · rw [step_close_draft r base outer _ hk] at hpull
      simp only [hk]
      exact ⟨by simp, hpull⟩
    · -- Only a condition has another terminator than `@end`.
      obtain ⟨hframe, hturn⟩ : frame = .condition ∧ r.next.kind = .otherwise := by
        cases frame <;> simp_all [Frame.terminators]
      subst hframe
      rw [step_turn_draft r base outer o body hturn] at hpull
      exact ⟨fun _ => rfl, by rwa [if_pos hturn]⟩
  · next hmem =>
    split at hx
    · next hk =>
      rw [if_neg Bool.false_ne_true] at hx
      subst hx
      rw [step_end_draft r base outer _ hk] at hpull
      exact ⟨by simp [hk], by rwa [if_neg (by simp [hk])]⟩
    · next hk =>
      have hlt : r.pull.left < r.left := left_pull hk
      have hmove : (r.draft base (⟨o, frame, body⟩ :: outer)).step r.next =
          (r.draft base (⟨o, frame, body⟩ :: outer)).apply r.next
            (Draft.statementMove false r.next) := by
        rw [Draft.step_eq]
        refine congrArg _ (@Draft.move_statement _ ⟨o, frame, body⟩ hf r.next hk ?_ ?_)
        · intro hclose
          exact hmem (by rw [hclose]; exact frame.close_mem_terminators)
        · rintro rfl hturn
          exact hmem (by rw [hturn]; exact List.mem_cons_self)
      rw [hmove] at hpull
      generalize hs : r.pull.statement false r.next (Draft.statementMove false r.next) = s at hx
      obtain ⟨node?, behind, hle⟩ := s
      have hstatement := statement_reaches r.pull base (⟨o, frame, body⟩ :: outer) r.next
        (inward_statementMove false r.next) hs
      rw [addAny_block behind base outer o hplain] at hstatement
      subst hx
      obtain ⟨hturn, hscope⟩ := scope_reaches behind base outer o hf (body ++ node?.toList) rfl
      exact ⟨hturn, hpull.trans (hstatement.trans hscope)⟩
termination_by 3 * r.left

/-- Reading a statement reaches the draft that has taken its token and whatever block it opens. -/
theorem statement_reaches (r : Reader) (base : List Node) (blocks : List OpenBlock) (t : Token)
    {m : Move} (hm : Inward m) {x : Reading r (Option Node)}
    (hx : r.statement blocks.isEmpty t m = x) :
    r.Reaches ((r.draft base blocks).apply t m) x.reader
      ((x.reader.draft base blocks).addAny x.value) := by
  -- Nothing is pulled unless a block is opened.
  have hstay := Reaches.refl r ((r.draft base blocks).apply t m)
  rw [statement] at hx
  cases ha : m.action with
  | begin frame =>
    simp only [ha] at hx
    subst hx
    have hblock := block_reaches (r.reportAll t m.problems) base blocks t frame rfl
    rw [Draft.apply, ha]
    exact Reaches.of_close (x := ((r.reportAll t m.problems).block t frame).since
      (Nat.le_refl r.left)) hblock
  | leaf kind | argument a | context c | importing i | skip =>
    simp only [ha] at hx
    subst hx
    rw [Draft.apply, ha] at hstay ⊢
    exact hstay
  | close => exact absurd ha hm.1
  | turn => exact absurd ha hm.2
termination_by 3 * r.left + 2

/-- Reading a block reaches the draft with the block closed. -/
theorem block_reaches (r : Reader) (base : List Node) (outer : List OpenBlock) (t : Token)
    (frame : Frame) {x : Reading r OpenBlock} (hx : r.block t frame = x) :
    r.Reaches (r.draft base (⟨some t, frame, []⟩ :: outer)) x.reader
      (x.reader.draft base (x.value :: outer)).close := by
  by_cases hf : frame.takesStatements = true
  · obtain ⟨hverbatim, hextension⟩ := frame.takesStatements_iff.1 hf
    rw [block.eq_3 r t frame hverbatim hextension] at hx
    generalize hs : r.scope false (some t) frame.terminators [] = s at hx
    obtain ⟨⟨body, last⟩, behind, hle⟩ := s
    obtain ⟨-, hscope⟩ := scope_reaches r base outer (some t) hf [] hs
    simp only at hscope hx
    split at hx
    · next hturn =>
      -- Behind its `@else` a condition goes on with the alternative, which has no other one.
      rw [if_pos hturn] at hscope
      subst hx
      obtain ⟨halone, halternative⟩ :=
        @scope_reaches behind base outer (some last) (.otherwise (some t) body) rfl [] _ rfl
      rw [if_neg fun hk => by cases halone hk] at halternative
      exact hscope.trans halternative
    · next hturn =>
      rw [if_neg hturn] at hscope
      subst hx
      exact hscope
  · cases frame with
    | verbatim v =>
      rw [block] at hx
      subst hx
      exact verbatim_reaches r base outer (some t) v []
    | extension call? =>
      rw [block] at hx
      subst hx
      exact extension_reaches r base outer (some t) call? [] rfl
    | _ => exact absurd rfl hf
termination_by 3 * r.left + 1

/-- Reading the body of an `@extend` reaches the draft with it closed. -/
theorem extension_reaches (r : Reader) (base : List Node) (outer : List OpenBlock)
    (o : Option Token) (call? : Option Call) (slots : List Node) {x : Reading r (List Node)}
    (hx : r.extension o slots = x) :
    r.Reaches (r.draft base (⟨o, .extension call?, slots⟩ :: outer)) x.reader
      (x.reader.draft base (⟨o, .extension call?, x.value⟩ :: outer)).close := by
  have hpull := Reaches.pull r (d := r.draft base (⟨o, .extension call?, slots⟩ :: outer))
    (by simp [draft])
  rw [extension] at hx
  split at hx
  · next hk =>
    subst hx
    rw [step_close_draft r base outer _ hk] at hpull
    exact hpull
  · next hclose =>
    split at hx
    · next hk =>
      subst hx
      rw [step_end_draft r base outer _ hk] at hpull
      exact hpull
    · next hk =>
      have hlt : r.pull.left < r.left := left_pull hk
      have hmove : (r.draft base (⟨o, .extension call?, slots⟩ :: outer)).step r.next =
          (r.draft base (⟨o, .extension call?, slots⟩ :: outer)).apply r.next
            (Draft.extensionMove slots r.next) := by
        rw [Draft.step_eq]
        exact congrArg _ (@Draft.move_extension _ ⟨o, .extension call?, slots⟩ call? rfl r.next hk)
      rw [hmove] at hpull
      generalize hs : r.pull.statement false r.next (Draft.extensionMove slots r.next) = s at hx
      obtain ⟨node?, behind, hle⟩ := s
      have hstatement := statement_reaches r.pull base (⟨o, .extension call?, slots⟩ :: outer)
        r.next (inward_extensionMove slots hclose) hs
      rw [addAny_extension behind base outer o] at hstatement
      subst hx
      exact hpull.trans (hstatement.trans (extension_reaches behind base outer o call? _ rfl))
termination_by 3 * r.left

end

/-- The root is read up to the end of the input, which is pulled last. -/
theorem scope_root_reaches (r : Reader) (body : List Node) {x : Reading r (List Node × Token)}
    (hx : r.scope true none [] body = x) :
    ∃ r' : Reader, r.Reaches (r.draft body []) r' (r'.draft x.value.1 []) ∧
      r'.next.kind = .endOfInput ∧ x.reader = r'.pull := by
  rw [scope] at hx
  split at hx
  · next hmem => cases hmem
  · split at hx
    · next hk =>
      subst hx
      exact ⟨r, Reaches.refl r _, hk, rfl⟩
    · next hk =>
      have hlt : r.pull.left < r.left := left_pull hk
      have hpull := Reaches.pull_of_ne r (r.draft body []) hk
      rw [Draft.step_eq] at hpull
      generalize hs : r.pull.statement true r.next (Draft.statementMove true r.next) = s at hx
      obtain ⟨node?, behind, hle⟩ := s
      have hstatement := statement_reaches r.pull body [] r.next
        (inward_statementMove true r.next) hs
      rw [addAny_root] at hstatement
      subst hx
      obtain ⟨r', hroot, hend, hlast⟩ := scope_root_reaches behind (body ++ node?.toList) rfl
      exact ⟨r', hpull.trans (hstatement.trans hroot), hend, hlast⟩
termination_by r.left

end Reader

/-- The document that a source says and the tokens that are pulled, by descent. -/
def Document.descend (source : Text) : Document × List Token :=
  let x := ({ cursor := .start source } : Reader).scope true none [] []
  ({ root := ⟨.root, none, x.value.1⟩
     declarations := x.reader.declarations
     diagnostics := x.reader.diagnostics }, x.reader.pulled)

namespace Draft

/-- The end of the input closes one block. -/
theorem length_blocks_step_end {d : Draft} (hd : d.blocks ≠ []) {last : Token}
    (hk : last.kind = .endOfInput) : (d.step last).blocks.length + 1 = d.blocks.length := by
  obtain ⟨b, outer, hb⟩ := List.exists_cons_of_ne_nil hd
  have hheads := congrArg List.length (heads_close (d.reportAll last [.unclosed b.opener?]))
  rw [← step_end hb hk] at hheads
  simp only [heads, List.length_map, List.length_tail, reportAll_blocks, hb,
    List.length_cons] at hheads
  rw [hb, List.length_cons]
  omega

/-- There is one open block for each token that is left on the stack. -/
theorem length_blocks_run (source : Text) :
    (run {} (tokenize source).tokens).blocks.length =
      (Nesting.remaining (tokenize source).tokens).length := by
  obtain ⟨hopeners, hwf⟩ := openers_run (List.append_nil (tokenize source).tokens).symm
  rw [← hopeners, hwf.length_openers]

end Draft

/-- Up to the end of the input, and until all blocks are closed, the tokens of the stream are
pulled and then its last one for each open block. -/
theorem Pulls.eq_stream {c c' : Cursor} {d d' : Draft} {ts : List Token} (h : Pulls c d ts c' d')
    (hblocks : d'.blocks = []) (hend : c'.next.1.kind = .endOfInput) :
    ts = c.stream.tokens ++
        List.replicate (d.run c.stream.tokens).blocks.length c.stream.last ∧
      d' = (d.run c.stream.tokens).finish c.stream.last ∧ c'.next.1 = c.stream.last := by
  induction h with
  | @nil c d =>
    rw [Cursor.stream_of_end hend]
    simp [Draft.finish, hblocks]
  | @cons c c' d d' ts hopen htail ih =>
    obtain ⟨hts, hd', hlast⟩ := ih hblocks hend
    by_cases hk : c.next.1.kind = .endOfInput
    · have hagain : c.next.2.next.1 = c.next.1 := by rw [Cursor.next_of_end hk]
      have hlength := Draft.length_blocks_step_end (hopen hk) hk
      rw [Cursor.stream_of_end (by rw [hagain]; exact hk), hagain] at hts hd' hlast
      rw [Cursor.stream_of_end hk]
      simp only [Draft.run_nil, List.nil_append] at hts hd' ⊢
      refine ⟨?_, ?_, hlast⟩
      · rw [← hlength, List.replicate_succ, hts]
      · rw [hd', Draft.finish, Draft.finish, ← hlength, List.replicate_succ, Draft.run_cons]
    · rw [Cursor.stream_of_next hk]
      refine ⟨?_, hd', hlast⟩
      rw [hts]
      rfl

/-- Descent reads the document of the source, and it pulls every token once, in order, and then
the end of the input once for the root and once for each block that is still open. -/
theorem descend_eq (source : Text) :
    Document.descend source = (Document.parse source, (tokenize source).tokens ++
      List.replicate (1 + (Nesting.remaining (tokenize source).tokens).length)
        (tokenize source).last) := by
  obtain ⟨r, ⟨ts, hpulled, hpulls⟩, hend, hx⟩ :=
    Reader.scope_root_reaches { cursor := .start source } [] rfl
  obtain ⟨hts, hd, hlast⟩ := hpulls.eq_stream rfl hend
  have hparse : Document.parse source = (r.draft _ []).toDocument :=
    congrArg Draft.toDocument hd.symm
  have hall : r.pulled ++ [r.next] = (tokenize source).tokens ++
      List.replicate (1 + (Nesting.remaining (tokenize source).tokens).length)
        (tokenize source).last := by
    rw [Nat.add_comm, List.replicate_succ', ← Draft.length_blocks_run, ← List.append_assoc,
      hpulled, hts, show r.next = (tokenize source).last from hlast]
    rfl
  rw [hparse, ← hall, Document.descend]
  simp only [hx]
  rfl

/-- Reading a source comes to an end. A call of the cursor that is not answered with the end of the
input moves the cursor forward, always to a place between characters; behind the end of the input
every call is answered the same. So there are at most as many tokens as bytes. Descent returns with
the document of the source and has pulled each token once, in order, and then the end of the input
once for the root and once for each block that is still open. -/
theorem reading_comes_to_end (source : Text) :
    let s := tokenize source
    let behind (calls : Nat) : Cursor := (Cursor.start source).after calls
    (∀ n, (behind n).next.1.kind ≠ .endOfInput → (behind n).offset < (behind (n + 1)).offset) ∧
      (∀ n, ∃ before, source = before ++ (behind n).rest ∧
        (behind n).offset = before.byteLength) ∧
      (∀ n, (behind n).next.1.kind = .endOfInput →
        ∀ m, (behind (n + m)).next.1 = (behind n).next.1) ∧
      (∀ n, (behind n).next.1 = s.tokens[n]?.getD s.last) ∧
      s.last.kind = .endOfInput ∧ (∀ t ∈ s.tokens, t.kind ≠ .endOfInput) ∧
      s.tokens.length ≤ source.byteLength ∧
      Document.descend source = (Document.parse source,
        s.tokens ++ List.replicate (1 + (Nesting.remaining s.tokens).length) s.last) := by
  intro s behind
  obtain ⟨hlast, -, htokens⟩ := (tiles_tokenize source).last_of_append
  refine ⟨?_, ?_, ?_, fun n => Cursor.next_after _ n, hlast, htokens, ?_, descend_eq source⟩
  · intro n hk
    show (behind n).offset < ((Cursor.start source).after (n + 1)).offset
    rw [Cursor.after_succ]
    exact Cursor.offset_lt_next hk
  · intro n
    have hstart : (Cursor.start source).Behind [] := ⟨rfl, rfl⟩
    obtain ⟨read, hrest, hread⟩ := Cursor.behind_after hstart n
    exact ⟨read, hrest, hread.offset⟩
  · intro n hk m
    show ((Cursor.start source).after (n + m)).next.1 = (behind n).next.1
    rw [Cursor.after_add]
    exact Cursor.next_after_of_end hk m
  · exact Nat.le_trans (Cursor.length_stream_le _) (Text.length_le_byteLength source)

/-- The problems with blocks that a document reports are those of the stack: every `@end` that
meets an empty stack, every `@else` that meets no `@if` on top, and at the end of the input, from
the innermost on, every block that is left. Descent, which has no stack, reports the same. -/
theorem block_reports_eq_stack (source : Text) :
    let s := tokenize source
    let met := Nesting.meetings [] s.tokens
    let reported (p : Text → Bool) :=
      ((Document.parse source).diagnostics.filter fun x => p x.message).map Diagnostic.shown
    reported (fun m => m = "unexpected `@end`") =
        ((met.filter fun (stack, t) => t.kind = .close ∧ stack = []).map
          fun (_, t) => (t.position, t.span, "unexpected `@end`".toList)) ∧
      reported (fun m => m = "unexpected `@else`" ∨
          m = "unexpected `@else` in `@extend`, expected `@content` or `@end`") =
        ((met.filter fun (stack, t) =>
            t.kind = .otherwise ∧ ¬ Nesting.Inside (.line .condition) stack).map
          fun (stack, t) => (t.position, t.span,
            if Nesting.Inside (.line .extension) stack then
              "unexpected `@else` in `@extend`, expected `@content` or `@end`".toList
            else "unexpected `@else`".toList)) ∧
      reported (fun m => m.startsWith "missing `@end` for ") =
        ((Nesting.remaining s.tokens).map fun opener => (s.last.position, s.last.span,
          "missing `@end` for ".toList ++ opener.kind.describe ++ " on line ".toList ++
            Text.ofNat opener.position.line ++ ", unexpected end of input".toList)) ∧
      s.last.kind = .endOfInput ∧ (Document.descend source).1 = Document.parse source := by
  have hclose : ("unexpected `@end`" : Text) = (Problem.unexpected .close).message := by decide
  have hturn : ("unexpected `@else`" : Text) = (Problem.unexpected .otherwise).message := by decide
  have hextend : ("unexpected `@else` in `@extend`, expected `@content` or `@end`" : Text) =
      (Problem.unexpectedInExtend .otherwise).message := by decide
  refine ⟨?_, ?_, Draft.shown_missing source, (tiles_tokenize source).last_of_append.1,
    congrArg Prod.fst (descend_eq source)⟩
  · refine Draft.shown_strays source (fun q => q = .unexpected .close)
      (p := fun m => m = "unexpected `@end`") ?_ ?_ Nesting.filter_stray?_close fun m => hclose.symm
    · simp [Problem.strays]
    · intro q hq
      rw [decide_eq_decide, hclose, Problem.message_eq_iff hq (by simp [Problem.strays])]
  · refine Draft.shown_strays source
      (fun q => q = .unexpected .otherwise ∨ q = .unexpectedInExtend .otherwise)
      (p := fun m => m = "unexpected `@else`" ∨
        m = "unexpected `@else` in `@extend`, expected `@content` or `@end`")
      ?_ ?_ Nesting.filter_stray?_otherwise ?_
    · simp [Problem.strays]
    · intro q hq
      rw [decide_eq_decide, hturn, hextend, Problem.message_eq_iff hq (by simp [Problem.strays]),
        Problem.message_eq_iff hq (by simp [Problem.strays])]
    · rintro ⟨stack, t⟩
      rw [apply_ite Problem.message, ← hturn, ← hextend]

end Stencil
