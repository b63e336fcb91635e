import Stencil.Proofs.Document.Nesting
import Stencil.Proofs.Document.Terminal

/-!
# Declarations come from the root

How deep a token stands is a matter of counting: an opener goes one block deeper and an `@end` one
block back (`Nesting.deepen`). The count is the number of blocks that are open when the token is
read, in broken templates as well, so it decides which tokens declare something. At the root these
are the declarations whose payload is valid and the function blocks, whether they are closed or
not; inside of a block every one of them is reported.

A function block becomes a declaration, or is reported, only where it is closed. Until then the
invariant `Draft.Gathers` counts it as owed, and the end of the input pays what is left.
-/

set_option autoImplicit false

namespace Stencil

namespace Nesting

/-- How many blocks are open behind a token, by how many are open before it. An `@end` that closes
nothing changes nothing. -/
def deepen (depth : Nat) (t : Token) : Nat :=
  if t.kind.opensBlock then depth + 1 else if t.kind = .close then depth - 1 else depth

/-- The tokens, each with its depth. -/
def placed (depth : Nat) : List Token → List (Nat × Token)
  | [] => []
  | t :: ts => (depth, t) :: placed (deepen depth t) ts

/-- The depth of a token follows from the tokens before it. -/
theorem placed_append (depth : Nat) (ts us : List Token) :
    placed depth (ts ++ us) = placed depth ts ++ placed (ts.foldl deepen depth) us := by
  induction ts generalizing depth with
  | nil => rfl
  | cons t ts ih => simp [placed, ih]

/-- An `@else` changes what is on the stack but not how much. -/
theorem length_step (stack : List Token) (t : Token) :
    (step stack t).length = deepen stack.length t := by
  unfold step deepen
  split
  · rfl
  · split
    · exact List.length_tail
    · split
      · next h =>
        cases stack with
        | nil => simp [Inside] at h
        | cons u stack => simp
      · rfl

/-- The depth counts the blocks that are open. -/
theorem length_remaining (ts : List Token) : (remaining ts).length = ts.foldl deepen 0 := by
  have hrun (stack : List Token) :
      (ts.foldl step stack).length = ts.foldl deepen stack.length := by
    induction ts generalizing stack with
    | nil => rfl
    | cons t ts ih => rw [List.foldl_cons, List.foldl_cons, ih, length_step]
  exact hrun []

/-- The last token stands at the depth of the blocks that are still open. -/
theorem placed_snoc (ts : List Token) (t : Token) :
    placed 0 (ts ++ [t]) = placed 0 ts ++ [((remaining ts).length, t)] := by
  rw [placed_append, length_remaining]
  rfl

end Nesting

/-! ## What tokens declare -/

/-- The body of a function block, by the tokens behind its opener. -/
def functionBody : List Token → List Node
  | [] => []
  | t :: _ => if t.kind = .literal then [.leaf .verbatimText t] else []

/-- The function blocks among the tokens, each with its depth and its body. The first token stands
at the given depth. -/
def functionBlocks (depth : Nat) : List Token → List (Nat × Node)
  | [] => []
  | t :: ts =>
    (if t.kind = .verbatim .function then
      [(depth, ⟨.verbatim .function, some t, functionBody ts⟩)] else []) ++
      functionBlocks (Nesting.deepen depth t) ts

/-- The function blocks at the root. -/
def rootFunctions (tokens : List Token) : List Node :=
  ((functionBlocks 0 tokens).filter fun f => f.1 = 0).map Prod.snd

/-- What a token declares, if it stands at the root. -/
def Token.declared [Alphabet] (t : Token) : Declarations :=
  match t.kind with
  | .line .argument => { arguments := (Argument.read t.position.line t.text).toOption.toList }
  | .line .context => { contexts := (ContextVariable.read t.position.line t.text).toOption.toList }
  | .line .importing => { imports := (Import.read t.position.line t.text).toOption.toList }
  | _ => {}

/-- What a token declares at its depth. -/
def declaredAt [Alphabet] (p : Nat × Token) : Declarations :=
  if p.1 = 0 then p.2.declared else {}

/-- The problem of a token that may stand at the root only. -/
def TokenKind.misplaced? : TokenKind → Option Problem
  | .line .argument => some (.nestedDeclaration .argument)
  | .line .context => some (.nestedDeclaration .context)
  | .line .importing => some (.nestedDeclaration .importing)
  | .verbatim .function => some .nestedFunction
  | _ => none

/-- A context variable is read exactly from a pair of an identifier and a type, with a default that
is not empty or with none. -/
theorem read_context_iff [Alphabet] {line : Nat} {payload : Text} (ht : payload.Trimmed)
    {c : ContextVariable} :
    ContextVariable.read line payload = .ok c ↔
      (∃ rest, payload.Pairs c.name rest ∧ splitDefault rest = (c.type, c.default?)) ∧
        c.name.isIdentifier = true ∧ c.type ≠ [] ∧ c.default? ≠ some [] ∧ c.line = line := by
  have hread (rest : Text) :
      readDeclaration .context .incompleteContext payload = .ok (c.name, rest) ↔
        payload.Pairs c.name rest ∧ c.name.isIdentifier = true :=
    Payload.readDeclaration_eq_ok_iff .context .incompleteContext ht
  constructor
  · intro h
    unfold ContextVariable.read at h
    split at h
    · cases h
    · next name rest hpair =>
      simp only at h
      split at h
      · cases h
      · next htype =>
        split at h
        · cases h
        · next hdefault =>
          cases h
          obtain ⟨hpairs, hname⟩ := (hread rest).1 hpair
          exact ⟨⟨rest, hpairs, rfl⟩, hname, by simpa using htype, hdefault, rfl⟩
  · rintro ⟨⟨rest, hpairs, hsplit⟩, hname, htype, hdefault, hline⟩
    have hpair := (hread rest).2 ⟨hpairs, hname⟩
    rw [ContextVariable.read, hpair]
    simp [hsplit, htype, hdefault, ← hline]

namespace Draft

/-! ## What a token adds to the declarations -/

/-- What carrying out an action declares, function blocks apart. -/
def Action.declared : Action → Declarations
  | .argument a => { arguments := [a] }
  | .context c => { contexts := [c] }
  | .importing i => { imports := [i] }
  | _ => {}

/-- A token that is met among statements declares something at the root alone. -/
theorem declared_statementMove [Alphabet] (atRoot : Bool) (t : Token) :
    (statementMove atRoot t).action.declared = if atRoot then t.declared else {} := by
  -- A declaration that is read is declared at the root; nothing else declares anything.
  have hreading {α : Type} (directive : LineDirective) (reading : Except Problem α)
      (act : α → Action) (declare : List α → Declarations) (hnil : declare [] = {})
      (hact : ∀ a, (act a).declared = declare [a]) :
      (declarationMove atRoot directive reading act).action.declared =
        if atRoot then declare reading.toOption.toList else {} := by
    unfold declarationMove
    split
    · cases reading with
      | ok a => exact hact a
      | error q => exact hnil.symm
    · rfl
  have hquiet {α : Type} (reading : Except Problem α) (act : α → Action)
      (hact : ∀ a, (act a).declared = {}) : (Move.ofReading reading act).action.declared = {} := by
    cases reading with
    | ok a => exact hact a
    | error q => rfl
  cases hk : t.kind with
  | line directive =>
    cases directive with
    | argument =>
      simp only [statementMove, Token.declared, hk]
      exact hreading _ _ _ (fun as => { arguments := as }) rfl fun _ => rfl
    | context =>
      simp only [statementMove, Token.declared, hk]
      exact hreading _ _ _ (fun cs => { contexts := cs }) rfl fun _ => rfl
    | importing =>
      simp only [statementMove, Token.declared, hk]
      exact hreading _ _ _ (fun is => { imports := is }) rfl fun _ => rfl
    | inclusion | yield =>
      simp only [statementMove, Token.declared, hk, ite_self]
      exact hquiet _ _ fun _ => rfl
    | extension | content | condition | loop =>
      simp [statementMove, Token.declared, hk, Action.declared]
  | display how =>
    simp only [statementMove, Token.declared, hk, ite_self]
    split
    · rfl
    · rfl
  | literal | endOfInput | illegal | verbatim block | otherwise | close =>
    simp [statementMove, Token.declared, hk, Action.declared]

/-- Directly inside of an `@extend` nothing is declared. -/
theorem declared_extensionMove [Alphabet] (slots : List Node) (t : Token) :
    (extensionMove slots t).action.declared = {} := by
  have hstatement := declared_statementMove false t
  unfold extensionMove
  split
  · rfl
  · rfl
  · rfl
  · rfl
  · rfl
  · exact hstatement

/-- A token declares something at the root only. -/
theorem declared_move [Alphabet] (top? : Option OpenBlock) (t : Token) :
    (move top? t).action.declared = if top?.isNone then t.declared else {} := by
  cases top? with
  | none => exact declared_statementMove true t
  | some b =>
    simp only [Option.isNone_some, Bool.false_eq_true, if_false]
    unfold move
    split
    · next hnone => cases hnone
    · next c hsome =>
      split
      · rfl
      · unfold verbatimMove
        split <;> rfl
      · exact declared_extensionMove c.body t
      · rfl
      · rfl
      · exact declared_statementMove false t

/-- Closing a block declares nothing but a function. -/
theorem close_declarations (d : Draft) :
    d.close.declarations.arguments = d.declarations.arguments ∧
      d.close.declarations.contexts = d.declarations.contexts ∧
      d.close.declarations.imports = d.declarations.imports := by
  cases hb : d.blocks with
  | nil => simp [close, hb]
  | cons b outer =>
    rcases close_cases hb with
      ⟨-, hc⟩ | ⟨-, -, hc⟩ | ⟨-, -, opener, -, hc⟩ | ⟨n, -, -, hc⟩ <;> simp [hc]

/-- A step declares what its token declares at the depth of the open blocks, functions apart. -/
theorem declarations_step [Alphabet] (d : Draft) (t : Token) :
    let new := declaredAt (d.blocks.length, t)
    (d.step t).declarations.arguments = d.declarations.arguments ++ new.arguments ∧
      (d.step t).declarations.contexts = d.declarations.contexts ++ new.contexts ∧
      (d.step t).declarations.imports = d.declarations.imports ++ new.imports := by
  have hnew : declaredAt (d.blocks.length, t) = (move d.blocks.head? t).action.declared := by
    rw [declared_move, declaredAt]
    cases d.blocks <;> simp
  rw [hnew, step_eq, apply]
  cases (move d.blocks.head? t).action with
  | close => simpa [perform, Action.declared] using close_declarations (d.reportAll t _)
  | turn =>
    cases hb : d.blocks with
    | nil => simp [perform, Action.declared, hb]
    | cons b outer => simp [perform, Action.declared, hb, Draft.turn]
  | leaf kind => simp [perform, Action.declared]
  | begin frame => simp [perform, Action.declared, begin]
  | skip | argument _ | context _ | importing _ => simp [perform, Action.declared]

/-! ## Function blocks -/

/-- The function block that is open at the root, if there is one. -/
def owed : List OpenBlock → List Node
  | [⟨opener?, .verbatim .function, body⟩] => [⟨.verbatim .function, opener?, body⟩]
  | _ => []

/-- A function block that is open at the root is owed. -/
theorem owed_of_function {b : OpenBlock} (hf : b.frame = .verbatim .function) :
    owed [b] = [⟨.verbatim .function, b.opener?, b.body⟩] := by
  obtain ⟨opener?, frame, body⟩ := b
  cases hf
  rfl

/-- Where no function block is open, none is owed. -/
theorem owed_eq_nil {d : Draft} (h : ∀ x ∈ d.heads, x.2 ≠ .verbatim .function) :
    owed d.blocks = [] := by
  unfold owed
  split
  · next opener? body hb => exact absurd rfl (h (opener?, _) (by simp [heads, hb]))
  · rfl

/-- Only closing a block declares functions. -/
theorem declared_perform {d : Draft} {t : Token} {a : Action} (h : a ≠ .close) :
    (d.perform t a).declarations.functions = d.declarations.functions := by
  cases a with
  | close => exact absurd rfl h
  | leaf kind => simp [perform]
  | turn =>
    cases hb : d.blocks with
    | nil => simp [perform, hb]
    | cons b outer => simp [perform, hb, Draft.turn]
  | _ => rfl

/-- Closing any other block declares nothing. -/
theorem declared_close {d : Draft} {b : OpenBlock} {outer : List OpenBlock}
    (hb : d.blocks = b :: outer) (hf : b.frame ≠ .verbatim .function) :
    d.close.declarations.functions = d.declarations.functions := by
  rcases close_cases hb with ⟨hn, hc⟩ | ⟨hf', -, hc⟩ | ⟨hf', -, -⟩ | ⟨n, hn, hf', hc⟩
  · rw [hc]
  · exact absurd hf' hf
  · exact absurd hf' hf
  · rw [hc, add_declarations]

/-- Closing a block declares the function block that is owed, and owes no other one. -/
theorem functions_close {d : Draft} (hd : d.WellFormed) :
    d.close.declarations.functions ++ owed d.close.blocks =
      d.declarations.functions ++ owed d.blocks := by
  cases hb : d.blocks with
  | nil => simp [close, hb]
  | cons b outer =>
    have hafter : owed d.close.blocks = [] := by
      refine owed_eq_nil fun x hx => ?_
      rw [heads_close] at hx
      exact hd.innermost x hx .function
    rw [hafter, List.append_nil]
    by_cases hf : b.frame = .verbatim .function
    · cases outer with
      | nil => rw [close_of_function hb hf (Or.inl rfl), owed_of_function hf]
      | cons c outer =>
        obtain ⟨opener, ho, -⟩ := hd.opener hb
        rw [close_of_nestedFunction hb hf ho, owed]
        · simp
        · simp
    · have hbefore : owed (b :: outer) = [] := by
        unfold owed
        split
        · next hcons =>
          cases hcons
          exact absurd rfl hf
        · rfl
      rw [declared_close hb hf, hbefore, List.append_nil]

/-- A verbatim block without a body has just been opened. -/
theorem opener?_of_opened [Alphabet] {d : Draft} {t : Token} (h : d.Follows t) {b : OpenBlock}
    {v : Verbatim}
    (hb : (d.step t).blocks.head? = some b) (hf : b.frame = .verbatim v) (hempty : b.body = []) :
    b.opener? = some t := by
  have hphase := h.phaseOf_step
  have hopened : phaseOf (some b) = .opened := by
    obtain ⟨opener?, frame, body⟩ := b
    cases hf
    cases hempty
    rfl
  rw [hb, hopened, eq_comm, Phase.after_eq_opened_iff] at hphase
  have hopens : t.kind.opensBlock = true := by
    cases hk : t.kind with
    | verbatim v => rfl
    | _ => simp [hk, TokenKind.opensVerbatim] at hphase
  obtain ⟨outer, hb⟩ := List.head?_eq_some_iff.1 hb
  obtain ⟨opener, ho, -⟩ := h.wellFormed_step.opener hb
  have hopeners := congrArg List.head? (openers_step h)
  rw [Nesting.step, if_pos hopens, openers_of_cons hb ho] at hopeners
  rw [ho]
  exact hopeners

/-- Inside of a function block, the innermost block is one. -/
theorem exists_of_inside {d : Draft} (hd : d.WellFormed)
    (h : Nesting.Inside (.verbatim .function) d.openers) :
    ∃ b outer, d.blocks = b :: outer ∧ b.frame = .verbatim .function := by
  cases hb : d.blocks with
  | nil =>
    rw [hd.openers_eq_nil_iff.2 hb] at h
    simp [Nesting.Inside] at h
  | cons b outer =>
    rw [hd.inside_iff hb] at h
    refine ⟨b, outer, rfl, ?_⟩
    cases hf : b.frame <;> simp_all [Frame.kind]

end Draft

/-- Tokens that are not the body of the last of the others can be looked at on their own. -/
theorem functionBlocks_append {ts us : List Token} (depth : Nat)
    (h : functionBody us = [] ∨ ∀ front t, ts = front ++ [t] → t.kind ≠ .verbatim .function) :
    functionBlocks depth (ts ++ us) =
      functionBlocks depth ts ++ functionBlocks (ts.foldl Nesting.deepen depth) us := by
  -- Only the last of the tokens looks beyond them for its body.
  induction ts generalizing depth with
  | nil => rfl
  | cons t ts ih =>
    have hrest := ih (Nesting.deepen depth t)
      (h.imp_right fun h front u hu => h (t :: front) u (by rw [hu]; rfl))
    rw [List.cons_append, functionBlocks, functionBlocks, hrest, List.append_assoc,
      List.foldl_cons]
    congr 1
    by_cases hk : t.kind = .verbatim .function
    · have hbody : functionBody (ts ++ us) = functionBody ts := by
        cases ts with
        | nil =>
          rcases h with h | h
          · exact h
          · exact absurd hk (h [] t rfl)
        | cons u ts => rfl
      rw [hbody]
    · simp [hk]

/-- A function block stands where its opener does. -/
theorem mem_functionBlocks {depth : Nat} {ts : List Token} {f : Nat × Node}
    (h : f ∈ functionBlocks depth ts) :
    ∃ t, (f.1, t) ∈ Nesting.placed depth ts ∧ t.kind = .verbatim .function := by
  induction ts generalizing depth with
  | nil => cases h
  | cons t ts ih =>
    rcases List.mem_append.1 h with h | h
    · split at h
      · next hk =>
        cases List.mem_singleton.1 h
        exact ⟨t, List.mem_cons_self, hk⟩
      · cases h
    · obtain ⟨u, hu, hk⟩ := ih h
      exact ⟨u, List.mem_cons_of_mem _ hu, hk⟩

/-- A function block that has just been opened, by what comes next. -/
theorem rootFunctions_opened (front : List Token) {opener : Token}
    (ho : opener.kind = .verbatim .function) (ts : List Token)
    (hts : functionBlocks ((Nesting.remaining front).length + 1) ts = []) :
    rootFunctions (front ++ opener :: ts) = rootFunctions front ++
      if (Nesting.remaining front).length = 0 then
        [⟨.verbatim .function, some opener, functionBody ts⟩] else [] := by
  have hopened : functionBlocks (Nesting.remaining front).length (opener :: ts) =
      [((Nesting.remaining front).length,
        ⟨.verbatim .function, some opener, functionBody ts⟩)] := by
    rw [functionBlocks, if_pos ho, Nesting.deepen, ho, TokenKind.opensBlock, if_pos rfl, hts,
      List.append_nil]
  rw [rootFunctions, functionBlocks_append 0 (Or.inl (by simp [functionBody, ho])),
    ← Nesting.length_remaining, hopened, List.filter_append, List.map_append]
  congr 1
  split
  · next h => simp [h]
  · next h => simp [h]

namespace Draft

/-! ## The run -/

/-- The draft behind the tokens has what they declare at the root. -/
structure Gathers [Alphabet] (d : Draft) (read : List Token) : Prop where
  /-- The declarations are those of the tokens. -/
  arguments : d.declarations.arguments =
    (Nesting.placed 0 read).flatMap fun p => (declaredAt p).arguments
  contexts : d.declarations.contexts =
    (Nesting.placed 0 read).flatMap fun p => (declaredAt p).contexts
  imports : d.declarations.imports =
    (Nesting.placed 0 read).flatMap fun p => (declaredAt p).imports
  /-- With the one that is owed, the function blocks are those of the tokens. -/
  functions : d.declarations.functions ++ owed d.blocks = rootFunctions read
  /-- A function block without a body has been opened by the last token. -/
  fresh : ∀ b, d.blocks.head? = some b → b.frame = .verbatim .function → b.body = [] →
    ∃ front opener, b.opener? = some opener ∧ read = front ++ [opener]
  /-- What may stand at the root only is reported elsewhere, or will be when it is closed. -/
  misplaced : ∀ p ∈ Nesting.placed 0 read, 0 < p.1 → ∀ q, p.2.kind.misplaced? = some q →
    .ofToken p.2 q ∈ d.diagnostics ++ closingReports d.blocks

namespace Gathers

variable {d : Draft} {read : List Token} {t : Token}

/-- Behind a token that is not the body of a function block nothing changes before it. -/
theorem rootFunctions_snoc (hd : d.WellFormed) (hopeners : d.openers = Nesting.remaining read)
    (h : t.kind = .literal → ¬ Nesting.Inside (.verbatim .function) d.openers) :
    rootFunctions (read ++ [t]) = rootFunctions read ++
      if d.blocks = [] ∧ t.kind = .verbatim .function then [⟨.verbatim .function, some t, []⟩]
      else [] := by
  rw [rootFunctions, functionBlocks_append, ← Nesting.length_remaining, ← hopeners,
    hd.length_openers, List.filter_append, List.map_append]
  · congr 1
    by_cases hk : t.kind = .verbatim .function
    · cases d.blocks <;> simp [functionBlocks, functionBody, hk]
    · simp [functionBlocks, hk]
  · by_cases hk : t.kind = .literal
    · refine Or.inr fun front u hu hfunction => h hk ?_
      rw [hopeners, hu, Nesting.remaining_snoc]
      simp [Nesting.step, Nesting.Inside, hfunction, TokenKind.opensBlock]
    · exact Or.inl (by simp [functionBody, hk])

/-- Outside of function blocks a token opens one or does not touch any. -/
theorem functions_step_outside [Alphabet] (hd : d.Gathers read) (h : d.Follows t)
    (hopeners : d.openers = Nesting.remaining read)
    (hin : ¬ Nesting.Inside (.verbatim .function) d.openers) :
    (d.step t).declarations.functions ++ owed (d.step t).blocks =
      rootFunctions (read ++ [t]) := by
  have hsuits := h.suits
  have hheads := heads_step d t
  have hplain : ∀ x ∈ d.heads, x.2 ≠ .verbatim .function := by
    intro x hx hf
    refine hin ?_
    cases hb : d.blocks with
    | nil => simp [heads, hb] at hx
    | cons b outer =>
      rw [heads_of_cons hb] at hx
      rcases List.mem_cons.1 hx with rfl | hx
      · exact (h.wellFormed.inside_iff hb _).2 (congrArg Frame.kind hf)
      · exact absurd hf (h.wellFormed.innermost x (by rw [heads_of_cons hb]; exact hx) _)
  have hbefore : d.declarations.functions = rootFunctions read := by
    rw [← hd.functions, owed_eq_nil hplain, List.append_nil]
  rw [rootFunctions_snoc h.wellFormed hopeners fun _ => hin, ← hbefore]
  cases ha : (move d.blocks.head? t).action with
  | skip | leaf _ | argument _ | context _ | importing _ =>
    rw [ha] at hsuits hheads
    have hk : t.kind ≠ .verbatim .function := by
      intro hk
      have hopens := hsuits.1
      rw [hk] at hopens
      cases hopens
    rw [owed_eq_nil (by rw [hheads]; exact hplain), if_neg (by simp [hk]), step_eq, apply, ha,
      declared_perform (by simp), reportAll_declarations]
  | close =>
    rw [ha] at hsuits
    rw [if_neg (by simp [hsuits.1]), step_eq, apply, ha, perform,
      functions_close (d := d.reportAll t _) ⟨h.wellFormed.fits, h.wellFormed.innermost⟩]
    simp [owed_eq_nil hplain]
  | turn =>
    rw [ha] at hsuits hheads
    obtain ⟨hk, b, hb, hf⟩ := hsuits
    obtain ⟨outer, hb⟩ := List.head?_eq_some_iff.1 hb
    simp only [hb] at hheads
    rw [owed_eq_nil, if_neg (by simp [hk]), step_eq, apply, ha, declared_perform (by simp),
      reportAll_declarations]
    rw [hheads]
    exact List.forall_mem_cons.2 ⟨by simp, fun x hx => hplain x (List.mem_of_mem_tail hx)⟩
  | begin frame =>
    rw [ha] at hsuits hheads
    rw [step_eq, apply, ha, declared_perform (by simp), reportAll_declarations]
    congr 1
    by_cases hroot : d.blocks = []
    · obtain ⟨-, hk⟩ := hsuits
      rw [← hk]
      cases frame with
      | verbatim v => cases v <;> simp [perform, begin, owed, hroot, Frame.kind]
      | _ => simp [perform, begin, owed, hroot, Frame.kind]
    · obtain ⟨b, outer, hb⟩ := List.exists_cons_of_ne_nil hroot
      simp [perform, begin, owed, hb]

/-- Inside of a function block comes its body or its end. -/
theorem functions_step_inside [Alphabet] (hd : d.Gathers read) (h : d.Follows t)
    (hopeners : d.openers = Nesting.remaining read)
    (hin : Nesting.Inside (.verbatim .function) d.openers) :
    (d.step t).declarations.functions ++ owed (d.step t).blocks =
      rootFunctions (read ++ [t]) := by
  obtain ⟨b, outer, hb, hf⟩ := exists_of_inside h.wellFormed hin
  have hhead : d.blocks.head? = some b := by rw [hb]; rfl
  have hmove : move d.blocks.head? t = verbatimMove t := by
    rw [hhead, move_verbatim hf h.notEnd]
  rcases h.kind_of_verbatim hb hf with ⟨hk, hempty⟩ | hk
  · -- The opener is the last token before the body.
    obtain ⟨front, opener, ho, hfront⟩ := hd.fresh b hhead hf hempty
    have hopener : opener.kind = .verbatim .function := by
      obtain ⟨opener', ho', hkind⟩ := h.wellFormed.opener hb
      rw [Option.some.inj (ho.symm.trans ho'), hkind, hf]
      rfl
    have hdepth : (Nesting.remaining front).length = outer.length := by
      have hlength := h.wellFormed.length_openers
      rw [hopeners, hfront, Nesting.remaining_snoc, Nesting.length_step, hb] at hlength
      simpa [Nesting.deepen, hopener, TokenKind.opensBlock] using hlength
    have hopened := rootFunctions_opened front hopener [] rfl
    have hfilled := rootFunctions_opened front hopener [t] (by simp [functionBlocks, hk])
    have hfunctions := hd.functions
    rw [hfront, hopened, hdepth, hb] at hfunctions
    rw [hfront, List.append_assoc, List.singleton_append, hfilled, hdepth, step_eq, hmove]
    simp only [verbatimMove, hk, apply, reportAll_nil, perform, add_declarations]
    rw [add_of_cons hb]
    cases outer with
    | nil =>
      simp only [owed_of_function hf, ho, hempty, functionBody, List.length_nil,
        if_true] at hfunctions
      rw [List.append_cancel_right hfunctions, owed_of_function (by rw [frame_add, hf]),
        opener?_add, ho]
      simp [OpenBlock.add, hf, hempty, functionBody, hk]
    | cons c outer => simpa [owed] using hfunctions
  · rw [rootFunctions_snoc h.wellFormed hopeners (by simp [hk]), if_neg (by simp [hk]),
      List.append_nil, ← hd.functions, step_eq, hmove]
    simp only [verbatimMove, hk, apply, reportAll_nil, perform]
    exact functions_close h.wellFormed

end Gathers

/-! ## What stands in the wrong place -/

/-- A function block inside of another block is reported when it is closed. -/
theorem closingReports_of_cons {b c : OpenBlock} {outer : List OpenBlock}
    (hf : b.frame = .verbatim .function) {opener : Token} (ho : b.opener? = some opener) :
    closingReports (b :: c :: outer) = [.ofToken opener .nestedFunction] := by
  simp [closingReports, hf, ho]

/-- A report that is owed when a token is read is made by it or still owed behind it. -/
theorem closingReports_step [Alphabet] {d : Draft} {t : Token} (h : d.Follows t) {x : Diagnostic}
    (hx : x ∈ closingReports d.blocks) :
    x ∈ (d.step t).diagnostics ++ closingReports (d.step t).blocks := by
  -- The innermost block is a function block, so the token is its body or its end.
  obtain ⟨b, c, outer, opener, hb, hf, ho, -⟩ := mem_closingReports hx
  have hmove : move d.blocks.head? t = verbatimMove t := by
    rw [hb, List.head?_cons, move_verbatim hf h.notEnd]
  rw [List.mem_append]
  rcases h.kind_of_verbatim hb hf with ⟨hk, -⟩ | hk
  · right
    rw [step_eq, hmove]
    simp only [verbatimMove, hk, apply, reportAll_nil, perform]
    rw [add_of_cons hb]
    rw [hb, closingReports_of_cons hf ho] at hx
    rwa [closingReports_of_cons (by rw [frame_add, hf]) (by rw [opener?_add, ho])]
  · left
    rw [diagnostics_step, hmove, List.mem_append]
    right
    simpa only [verbatimMove, hk, Action.reports] using hx

/-- Inside of a block, what may stand at the root only is a problem. -/
theorem misplaced_statementMove [Alphabet] {t : Token} {q : Problem}
    (hq : t.kind.misplaced? = some q)
    (hk : t.kind ≠ .verbatim .function) : q ∈ (statementMove false t).problems := by
  unfold TokenKind.misplaced? at hq
  split at hq
  · next hk =>
    cases hq
    simp [statementMove, hk, declarationMove]
  · next hk =>
    cases hq
    simp [statementMove, hk, declarationMove]
  · next hk =>
    cases hq
    simp [statementMove, hk, declarationMove]
  · next hfunction => exact absurd hfunction hk
  · cases hq

/-- The tokens that may be misplaced are the declarations and the function block. -/
theorem kind_of_misplaced? {kind : TokenKind} {q : Problem} (hq : kind.misplaced? = some q) :
    kind = .line .argument ∨ kind = .line .context ∨ kind = .line .importing ∨
      kind = .verbatim .function := by
  unfold TokenKind.misplaced? at hq
  split at hq <;> simp_all

/-- Inside of a block such a token is taken as a statement, also where it is reported already for
standing in an `@extend`. -/
theorem move_of_misplaced [Alphabet] {d : Draft} {t : Token} (h : d.Follows t) {b : OpenBlock}
    {outer : List OpenBlock} (hb : d.blocks = b :: outer) {q : Problem}
    (hq : t.kind.misplaced? = some q) :
    (∀ p ∈ (statementMove false t).problems, p ∈ (move d.blocks.head? t).problems) ∧
      (move d.blocks.head? t).action = (statementMove false t).action := by
  have hkind := kind_of_misplaced? hq
  rw [hb, List.head?_cons]
  cases hf : b.frame with
  | verbatim v =>
    rcases h.kind_of_verbatim hb hf with ⟨hk, -⟩ | hk
    · simp [hk] at hkind
    · simp [hk] at hkind
  | extension call? =>
    have hstray : extensionMove b.body t = ⟨.unexpectedInExtend t.kind ::
        (statementMove false t).problems, (statementMove false t).action⟩ := by
      rcases hkind with hk | hk | hk | hk <;> simp [extensionMove, hk]
    rw [move_extension hf h.notEnd, hstray]
    exact ⟨fun p hp => List.mem_cons_of_mem _ hp, rfl⟩
  | condition | otherwise _ _ | loop _ | slot _ | strayContent =>
    have htakes : b.frame.takesStatements = true := by rw [hf]; rfl
    rw [move_statement htakes h.notEnd]
    · exact ⟨fun p hp => hp, rfl⟩
    · intro hk
      simp [hk] at hkind
    · intro _ hk
      simp [hk] at hkind

/-- Such a token is reported at once, or when the function block that it opens is closed. -/
theorem misplaced_step [Alphabet] {d : Draft} {t : Token} (h : d.Follows t) (hd : d.blocks ≠ [])
    {q : Problem} (hq : t.kind.misplaced? = some q) :
    .ofToken t q ∈ (d.step t).diagnostics ++ closingReports (d.step t).blocks := by
  obtain ⟨b, outer, hb⟩ := List.exists_cons_of_ne_nil hd
  obtain ⟨hproblems, haction⟩ := move_of_misplaced h hb hq
  rw [List.mem_append]
  by_cases hk : t.kind = .verbatim .function
  · right
    have hq' : q = .nestedFunction := by simpa [hk, TokenKind.misplaced?, eq_comm] using hq
    rw [step_eq, apply, haction]
    simp [statementMove, hk, perform, begin, hb, closingReports, hq']
  · left
    rw [diagnostics_step, List.mem_append, List.mem_append]
    exact Or.inl (Or.inr (List.mem_map_of_mem (hproblems q (misplaced_statementMove hq hk))))

/-- A token keeps the declarations together. -/
theorem Gathers.step [Alphabet] {d : Draft} {read : List Token} {t : Token} (hd : d.Gathers read)
    (h : d.Follows t) (hopeners : d.openers = Nesting.remaining read) :
    (d.step t).Gathers (read ++ [t]) := by
  obtain ⟨harguments, hcontexts, himports⟩ := declarations_step d t
  have hplaced : Nesting.placed 0 (read ++ [t]) =
      Nesting.placed 0 read ++ [(d.blocks.length, t)] := by
    rw [Nesting.placed_snoc, ← hopeners, h.wellFormed.length_openers]
  refine ⟨?_, ?_, ?_, ?_, ?_, ?_⟩
  · rw [harguments, hd.arguments, hplaced]
    simp
  · rw [hcontexts, hd.contexts, hplaced]
    simp
  · rw [himports, hd.imports, hplaced]
    simp
  · by_cases hin : Nesting.Inside (.verbatim .function) d.openers
    · exact hd.functions_step_inside h hopeners hin
    · exact hd.functions_step_outside h hopeners hin
  · intro b hb hf hempty
    exact ⟨read, t, opener?_of_opened h hb hf hempty, rfl⟩
  · intro p hp hdepth q hq
    rw [hplaced, List.mem_append, List.mem_singleton] at hp
    rcases hp with hp | rfl
    · rcases List.mem_append.1 (hd.misplaced p hp hdepth q hq) with hold | howed
      · rw [diagnostics_step, List.append_assoc, List.append_assoc]
        exact List.mem_append_left _ hold
      · exact closingReports_step h howed
    · exact misplaced_step h (List.ne_nil_of_length_pos hdepth) hq

/-- What the tokens of a source declare is declared in its document, and what is misplaced is
reported. -/
theorem gathers_parse [Alphabet] (source : Text) :
    let placed := Nesting.placed 0 (tokenize source).tokens
    let doc := Document.parse source
    doc.declarations.arguments = (placed.flatMap fun p => (declaredAt p).arguments) ∧
      doc.declarations.contexts = (placed.flatMap fun p => (declaredAt p).contexts) ∧
      doc.declarations.imports = (placed.flatMap fun p => (declaredAt p).imports) ∧
      doc.declarations.functions = rootFunctions (tokenize source).tokens ∧
      ∀ p ∈ placed, 0 < p.1 → ∀ q, p.2.kind.misplaced? = some q →
        .ofToken p.2 q ∈ doc.diagnostics := by
  intro placed doc
  obtain ⟨hread, -, hwf⟩ := stack_induction source
    ⟨rfl, rfl, rfl, rfl, by simp, by simp [Nesting.placed]⟩
    fun d read t h hopeners hd => Gathers.step hd h hopeners
  have hkind : (tokenize source).last.kind = .endOfInput :=
    (tiles_tokenize source).last_of_append.1
  -- The end of the input declares or reports the function block that is still open.
  obtain ⟨⟨harguments, hcontexts, himports, hfunctions, hmisplaced⟩, hblocks⟩ := finish_induction
    (P := fun d =>
      d.declarations.arguments = (placed.flatMap fun p => (declaredAt p).arguments) ∧
      d.declarations.contexts = (placed.flatMap fun p => (declaredAt p).contexts) ∧
      d.declarations.imports = (placed.flatMap fun p => (declaredAt p).imports) ∧
      d.declarations.functions ++ owed d.blocks = rootFunctions (tokenize source).tokens ∧
      ∀ p ∈ placed, 0 < p.1 → ∀ q, p.2.kind.misplaced? = some q →
        .ofToken p.2 q ∈ d.diagnostics ++ closingReports d.blocks) hkind
    (by
      rintro d b outer hd hb ⟨harguments, hcontexts, himports, hfunctions, hmisplaced⟩
      obtain ⟨opener, ho, -⟩ := hd.opener hb
      obtain ⟨ha, hc, hi⟩ := close_declarations
        (d.reportAll (tokenize source).last [.unclosed b.opener?])
      have hclosed := functions_close (d := d.reportAll (tokenize source).last
        [.unclosed b.opener?]) ⟨hd.fits, hd.innermost⟩
      rw [← step_end hb hkind] at ha hc hi hclosed
      refine ⟨ha.trans harguments, hc.trans hcontexts, hi.trans himports,
        hclosed.trans hfunctions, fun p hp hdepth q hq => ?_⟩
      rw [diagnostics_step_end hb ho hkind]
      simp only [List.mem_append]
      rcases List.mem_append.1 (hmisplaced p hp hdepth q hq) with hold | howed
      · exact Or.inl (Or.inl (Or.inl hold))
      · exact Or.inl (Or.inr howed))
    hwf ⟨hread.arguments, hread.contexts, hread.imports, hread.functions, hread.misplaced⟩
  simp only [hblocks, owed, closingReports, List.append_nil] at hfunctions hmisplaced
  exact ⟨harguments, hcontexts, himports, hfunctions, hmisplaced⟩

end Draft

/-! ## Declarations and their tokens -/

section Images

variable {p : Nat × Token}

end Images

end Stencil
