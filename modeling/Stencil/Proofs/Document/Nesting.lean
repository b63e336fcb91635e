import Stencil.Proofs.Document.Wording

/-!
# Blocks match as on a stack

Which `@end` closes which block does not depend on what the blocks are or whether they make sense.
A machine that knows nothing but the sorts of tokens decides it (`Nesting.step`): an opener is
pushed, an `@end` pops, and an `@else` takes the place of the `@if` on top. A block that is
reported, a loop without a head or a content block in the wrong place, is still a block.

The openers of a draft are the stack of that machine, at every step of a run (`stack_induction`),
so that the problems with blocks that a document reports can be read off the machine
(`reports_parse`). What the end of the input reports is known from the openers, too
(`diagnostics_parse`). The last part of the module finds the problems with blocks again among all
diagnostics, by nothing but their messages.
-/

set_option autoImplicit false

namespace Stencil

namespace Nesting

/-- Whether the innermost block was opened by a token of this sort. -/
def Inside (kind : TokenKind) (stack : List Token) : Prop :=
  stack.head?.map Token.kind = some kind

instance (kind : TokenKind) (stack : List Token) : Decidable (Inside kind stack) :=
  inferInstanceAs (Decidable (_ = _))

/-- What a token does to the stack of the tokens whose blocks are open. -/
def step (stack : List Token) (t : Token) : List Token :=
  if t.kind.opensBlock then t :: stack
  else if t.kind = .close then stack.tail
  else if t.kind = .otherwise ∧ Inside (.line .condition) stack then t :: stack.tail
  else stack

/-- What is left on the stack behind the tokens. -/
def remaining (tokens : List Token) : List Token :=
  tokens.foldl step []

/-- The tokens, each with the stack that it meets. -/
def meetings (stack : List Token) : List Token → List (List Token × Token)
  | [] => []
  | t :: ts => (stack, t) :: meetings (step stack t) ts

/-- Behind some tokens, the others meet the stack that those leave. -/
theorem meetings_append (stack ts us : List Token) :
    meetings stack (ts ++ us) = meetings stack ts ++ meetings (ts.foldl step stack) us := by
  induction ts generalizing stack with
  | nil => rfl
  | cons t ts ih => simp [meetings, ih]

/-- What is left on the stack is made step by step. -/
theorem remaining_snoc (ts : List Token) (t : Token) :
    remaining (ts ++ [t]) = step (remaining ts) t := by
  simp [remaining]

/-- The problem that a token makes by the stack that it meets: an `@end` that closes nothing, or
an `@else` that belongs to no condition. -/
def stray? (stack : List Token) (t : Token) : Option Problem :=
  if t.kind = .close ∧ stack = [] then some (.unexpected .close)
  else if t.kind = .otherwise ∧ ¬ Inside (.line .condition) stack then
    some (if Inside (.line .extension) stack then .unexpectedInExtend .otherwise
      else .unexpected .otherwise)
  else none

/-- An `@end` is a problem exactly on an empty stack. -/
theorem filter_stray?_close (m : List Token × Token) :
    (stray? m.1 m.2).filter (fun q => q = .unexpected .close) =
      if m.2.kind = .close ∧ m.1 = [] then some (.unexpected .close) else none := by
  unfold stray?
  split_ifs with hclose hturn hextend
  · rfl
  · rfl
  · rfl
  · rfl

/-- An `@else` is a problem exactly outside of a condition. -/
theorem filter_stray?_otherwise (m : List Token × Token) :
    (stray? m.1 m.2).filter
        (fun q => q = .unexpected .otherwise ∨ q = .unexpectedInExtend .otherwise) =
      if m.2.kind = .otherwise ∧ ¬ Inside (.line .condition) m.1 then
        some (if Inside (.line .extension) m.1 then .unexpectedInExtend .otherwise
          else .unexpected .otherwise)
      else none := by
  unfold stray?
  split_ifs with hclose hturn hextend hturn hextend
  · simp [hclose.1] at hturn
  · simp [hclose.1] at hturn
  · rfl
  · rfl
  · rfl
  · rfl

end Nesting

/-- A block that a condition opens is one. -/
theorem Frame.kind_eq_condition {f : Frame} : f.kind = .line .condition ↔ f = .condition := by
  cases f <;> simp [Frame.kind]

/-- A block that an `@extend` opens is one, with a call or without. -/
theorem Frame.kind_eq_extension {f : Frame} :
    f.kind = .line .extension ↔ ∃ call?, f = .extension call? := by
  cases f <;> simp [Frame.kind]

/-! ## The problems of a move -/

namespace Draft

/-- What a token reports has a wording of its own: the text of an illegal token is the wording of a
fault. -/
theorem Follows.arises [Alphabet] {d : Draft} {t : Token} (h : d.Follows t) :
    ∀ p ∈ (move d.blocks.head? t).problems, p.Arises := by
  intro p hp
  have hreported := h.reportedAt p hp
  cases p with
  | illegal reason =>
    obtain ⟨hk, rfl⟩ := hreported
    obtain ⟨inBody, spelling, hspells⟩ := h.spelled
    rw [hk] at hspells
    obtain ⟨fault, -, htext⟩ := hspells
    exact ⟨fault, htext⟩
  | remark _ | missingEndOfUnopened => exact hreported.elim
  | _ => trivial

/-- A token that is neither an `@else` nor an `@end` reports no problems with blocks. -/
theorem Follows.not_aboutBlocks [Alphabet] {d : Draft} {t : Token} (h : d.Follows t)
    (hturn : t.kind ≠ .otherwise) (hclose : t.kind ≠ .close) :
    ∀ p ∈ (move d.blocks.head? t).problems, p.aboutBlocks = false := by
  intro p hp
  have hreported := h.reportedAt p hp
  cases p with
  | unexpected kind =>
    obtain ⟨rfl, hk | hk⟩ := hreported
    · exact absurd hk hturn
    · exact absurd hk hclose
  | unexpectedInExtend kind =>
    cases kind with
    | otherwise => exact absurd hreported.1 hturn
    | _ => rfl
  | missingEnd _ _ => exact absurd hreported h.notEnd
  | missingEndOfUnopened => exact hreported.elim
  | _ => rfl

/-! ## The stack of a draft -/

/-- The openers of the blocks that are open, the innermost first. -/
def openers (d : Draft) : List Token :=
  d.heads.filterMap Prod.fst

/-- The opener of the innermost block comes first. -/
theorem openers_of_cons {d : Draft} {b : OpenBlock} {outer : List OpenBlock}
    (hb : d.blocks = b :: outer) {opener : Token} (ho : b.opener? = some opener) :
    d.openers = opener :: d.heads.tail.filterMap Prod.fst := by
  simp [openers, heads_of_cons hb, ho]

/-- There is one opener for each block. -/
theorem WellFormed.length_openers {d : Draft} (hd : d.WellFormed) :
    d.openers.length = d.blocks.length := by
  have hall : ∀ hs : List (Option Token × Frame), (∀ h ∈ hs, ∃ opener, h.1 = some opener ∧
      opener.kind = h.2.kind) → (hs.filterMap Prod.fst).length = hs.length := by
    intro hs hfits
    induction hs with
    | nil => rfl
    | cons h hs ih =>
      obtain ⟨opener, ho, -⟩ := hfits h List.mem_cons_self
      rw [List.filterMap_cons_some ho, List.length_cons, List.length_cons,
        ih fun h hh => hfits h (List.mem_cons_of_mem _ hh)]
  rw [openers, hall d.heads hd.fits, heads, List.length_map]

/-- Every block has an opener, so that without openers no block is open. -/
theorem WellFormed.openers_eq_nil_iff {d : Draft} (hd : d.WellFormed) :
    d.openers = [] ↔ d.blocks = [] := by
  rw [← List.length_eq_zero_iff, hd.length_openers, List.length_eq_zero_iff]

/-- The end of a block takes its opener from the stack. -/
theorem WellFormed.openers_of_tail {d e : Draft} (hd : d.WellFormed)
    (he : e.heads = d.heads.tail) : e.openers = d.openers.tail := by
  rw [openers, he]
  cases hb : d.blocks with
  | nil => simp [openers, heads, hb]
  | cons b outer =>
    obtain ⟨opener, ho, -⟩ := hd.opener hb
    rw [openers_of_cons hb ho, List.tail_cons]

/-- What the innermost block is can be told from its opener. -/
theorem WellFormed.inside_iff {d : Draft} (hd : d.WellFormed) {b : OpenBlock}
    {outer : List OpenBlock} (hb : d.blocks = b :: outer) (kind : TokenKind) :
    Nesting.Inside kind d.openers ↔ b.frame.kind = kind := by
  obtain ⟨opener, ho, hfits⟩ := hd.opener hb
  simp [Nesting.Inside, openers_of_cons hb ho, hfits]

/-- The openers of a draft change as the stack does. -/
theorem openers_step [Alphabet] {d : Draft} {t : Token} (h : d.Follows t) :
    (d.step t).openers = Nesting.step d.openers t := by
  have hsuits := h.suits
  have hheads := heads_step d t
  cases ha : (move d.blocks.head? t).action with
  | begin frame =>
    rw [ha] at hsuits hheads
    simp [openers, hheads, Nesting.step, hsuits.1]
  | close =>
    rw [ha] at hsuits hheads
    rw [h.wellFormed.openers_of_tail hheads]
    simp [Nesting.step, hsuits.1, TokenKind.opensBlock]
  | turn =>
    rw [ha] at hsuits hheads
    obtain ⟨hk, b, hb, hf⟩ := hsuits
    obtain ⟨outer, hb⟩ := List.head?_eq_some_iff.1 hb
    simp only [hb] at hheads
    have hinside : Nesting.Inside (.line .condition) d.openers :=
      (h.wellFormed.inside_iff hb _).2 (by rw [hf]; rfl)
    rw [Nesting.step, hk, if_neg (by simp [TokenKind.opensBlock]), if_neg (by simp),
      if_pos ⟨rfl, hinside⟩]
    obtain ⟨opener, ho, -⟩ := h.wellFormed.opener hb
    simp [openers, hheads, heads_of_cons hb, ho]
  | skip | leaf _ | argument _ | context _ | importing _ =>
    rw [ha] at hsuits hheads
    -- Such a token opens nothing, and if it is an `@end` or an `@else`, then a stray one.
    obtain ⟨hopens, hclose, hturn⟩ := hsuits
    have hsame : (d.step t).openers = d.openers := by simp only [openers, hheads]
    rw [hsame, Nesting.step, if_neg (by simp [hopens])]
    by_cases hk : t.kind = .close
    · have hnil : d.openers = [] :=
        h.wellFormed.openers_eq_nil_iff.2 (List.head?_eq_none_iff.1 (hclose hk))
      rw [if_pos hk, hnil, List.tail_nil]
    · rw [if_neg hk, if_neg]
      rintro ⟨hk, hinside⟩
      cases hb : d.blocks with
      | nil =>
        rw [h.wellFormed.openers_eq_nil_iff.2 hb] at hinside
        simp [Nesting.Inside] at hinside
      | cons b outer =>
        rw [h.wellFormed.inside_iff hb] at hinside
        exact hturn hk b (by rw [hb]; rfl) (Frame.kind_eq_condition.1 hinside)

/-- The induction along the tokens of a source. The openers of the draft are what is left on the
stack, at every step and at the end. -/
theorem stack_induction [Alphabet] {P : Draft → List Token → Prop} (source : Text)
    (hstart : P {} [])
    (hstep : ∀ d read t, d.Follows t → d.openers = Nesting.remaining read → P d read →
      P (d.step t) (read ++ [t])) :
    P (run {} (tokenize source).tokens) (tokenize source).tokens ∧
      (run {} (tokenize source).tokens).openers = Nesting.remaining (tokenize source).tokens ∧
      (run {} (tokenize source).tokens).WellFormed := by
  obtain ⟨⟨hopeners, hP⟩, hwf⟩ := read_induction
    (P := fun d read => d.openers = Nesting.remaining read ∧ P d read) source ⟨rfl, hstart⟩ (by
      rintro d read t hfollows ⟨hopeners, hP⟩
      refine ⟨?_, hstep d read t hfollows hopeners hP⟩
      rw [openers_step hfollows, hopeners, Nesting.remaining_snoc])
  exact ⟨hP, hopeners, hwf⟩

/-- Behind the first tokens of a source the openers are what is left on the stack, too. -/
theorem openers_run [Alphabet] {source : Text} {front back : List Token}
    (h : (tokenize source).tokens = front ++ back) :
    (run {} front).openers = Nesting.remaining front ∧ (run {} front).WellFormed := by
  have hall := (stack_induction (P := fun d read => d = run {} read ∧ ∀ front, front <+: read →
      (run {} front).openers = Nesting.remaining front ∧ (run {} front).WellFormed) source
    ⟨rfl, fun front hfront => by
      rw [List.prefix_nil.1 hfront]
      exact ⟨rfl, by simp [heads], by simp [heads]⟩⟩ (by
      rintro d read t hfollows - ⟨rfl, hread⟩
      refine ⟨by rw [run_append]; rfl, fun front hfront => ?_⟩
      rcases List.prefix_concat_iff.1 hfront with rfl | hfront
      · rw [run_append, Nesting.remaining_snoc, ← (hread read (List.prefix_refl read)).1]
        exact ⟨openers_step hfollows, hfollows.wellFormed_step⟩
      · exact hread front hfront)).1.2
  exact hall front ⟨back, h.symm⟩

/-- The induction along the tokens of a source without problems. -/
theorem silent_induction [Alphabet] {P : Draft → List Token → Prop} {source : Text}
    (hsilent : (Document.parse source).diagnostics = []) (hstart : P {} [])
    (hstep : ∀ d read t, d.Passes t → d.openers = Nesting.remaining read → P d read →
      P (d.step t) (read ++ [t])) :
    P (run {} (tokenize source).tokens) (tokenize source).tokens ∧
      (run {} (tokenize source).tokens).blocks = [] ∧
      Document.parse source = (run {} (tokenize source).tokens).toDocument := by
  have hkind : (tokenize source).last.kind = .endOfInput :=
    (tiles_tokenize source).last_of_append.1
  obtain ⟨hblocks, hfinish⟩ := finish_of_silent hkind hsilent
  have hparse : Document.parse source = (run {} (tokenize source).tokens).toDocument := by
    rw [Document.parse, Document.ofStream, hfinish]
  refine ⟨?_, hblocks, hparse⟩
  rw [hparse] at hsilent
  refine (stack_induction (P := fun d read => d.diagnostics = [] → P d read) source
    (fun _ => hstart) ?_).1 hsilent
  intro d read t hfollows hopeners ih hnil
  rw [diagnostics_step] at hnil
  simp only [List.append_eq_nil_iff, List.map_eq_nil_iff] at hnil
  obtain ⟨⟨hd, hproblems⟩, hreports⟩ := hnil
  exact hstep d read t ⟨hfollows, hproblems, hreports⟩ hopeners (ih hd)

/-- What an `@else` reports: nothing inside of a condition, and one problem elsewhere. -/
theorem problems_move_otherwise [Alphabet] {d : Draft} {t : Token} (h : d.Follows t)
    (hk : t.kind = .otherwise) :
    (move d.blocks.head? t).problems = (Nesting.stray? d.openers t).toList := by
  have hstray : Nesting.stray? d.openers t =
      if Nesting.Inside (.line .condition) d.openers then none
      else some (if Nesting.Inside (.line .extension) d.openers then .unexpectedInExtend .otherwise
        else .unexpected .otherwise) := by
    rw [Nesting.stray?, if_neg (by simp [hk])]
    simp [hk]
  rw [hstray]
  cases hb : d.blocks with
  | nil =>
    simp [h.wellFormed.openers_eq_nil_iff.2 hb, Nesting.Inside, move, statementMove, hk]
  | cons b outer =>
    simp only [h.wellFormed.inside_iff hb, List.head?_cons]
    cases hf : b.frame with
    | verbatim v =>
      rcases h.kind_of_verbatim hb hf with ⟨hl, -⟩ | hl <;> simp [hk] at hl
    | extension call? =>
      rw [move_extension hf h.notEnd]
      simp [extensionMove, hk, Frame.kind]
    | condition =>
      rw [move_turn hf hk]
      simp [Frame.kind]
    | otherwise _ _ | loop _ | slot _ | strayContent =>
      rw [move_statement (by rw [hf]; rfl) h.notEnd (by simp [hk]) (by simp [hf])]
      simp [statementMove, hk, Frame.kind]

/-- What an `@end` reports: nothing inside of a block, and one problem elsewhere. -/
theorem problems_move_close [Alphabet] {d : Draft} {t : Token} (h : d.Follows t)
    (hk : t.kind = .close) :
    (move d.blocks.head? t).problems = (Nesting.stray? d.openers t).toList := by
  cases hb : d.blocks with
  | nil => simp [h.wellFormed.openers_eq_nil_iff.2 hb, move, statementMove, Nesting.stray?, hk]
  | cons b outer =>
    have hne : d.openers ≠ [] := fun hnil => by
      simp [h.wellFormed.openers_eq_nil_iff.1 hnil] at hb
    rw [Nesting.stray?, if_neg (fun hc => hne hc.2), if_neg (by simp [hk]), List.head?_cons,
      move_close b hk]
    rfl

/-- The problems with blocks that a token reports are those of the stack that it meets. -/
theorem problems_move [Alphabet] {d : Draft} {t : Token} (h : d.Follows t) :
    (move d.blocks.head? t).problems.filter Problem.aboutBlocks =
      (Nesting.stray? d.openers t).toList := by
  by_cases hk : t.kind = .otherwise ∨ t.kind = .close
  · have hproblems : (move d.blocks.head? t).problems = (Nesting.stray? d.openers t).toList :=
      hk.elim (problems_move_otherwise h) (problems_move_close h)
    rw [hproblems]
    refine List.filter_eq_self.2 fun p hp => ?_
    rw [Option.mem_toList, Nesting.stray?] at hp
    split_ifs at hp <;> cases hp <;> rfl
  · rw [not_or] at hk
    have hnone : (move d.blocks.head? t).problems.filter Problem.aboutBlocks = [] :=
      List.filter_eq_nil_iff.2 fun p hp => by simp [h.not_aboutBlocks hk.1 hk.2 p hp]
    rw [hnone, Nesting.stray?, if_neg (fun hc => hk.2 hc.1), if_neg (fun hc => hk.1 hc.1)]
    rfl

/-- The diagnostics about where blocks begin and end. -/
def blockReports (ds : List Diagnostic) : List Diagnostic :=
  ds.filter fun x => x.problem.aboutBlocks

/-- The diagnostics about blocks are picked from each part. -/
@[simp] theorem blockReports_append (xs ys : List Diagnostic) :
    blockReports (xs ++ ys) = blockReports xs ++ blockReports ys :=
  List.filter_append ..

/-- Of the problems at a token, those about blocks are picked. -/
@[simp] theorem blockReports_map (t : Token) (ps : List Problem) :
    blockReports (ps.map (.ofToken t)) = (ps.filter Problem.aboutBlocks).map (.ofToken t) :=
  List.filter_map ..

/-- What an action reports is not about blocks. -/
theorem mem_reports {a : Action} {bs : List OpenBlock} {x : Diagnostic} (h : x ∈ a.reports bs) :
    x.problem = .nestedFunction := by
  unfold Action.reports at h
  split at h
  · obtain ⟨b, c, outer, opener, -, -, -, rfl⟩ := mem_closingReports h
    rfl
  · cases h

/-- What an action reports by itself is not about where blocks begin and end. -/
@[simp] theorem blockReports_reports (a : Action) (bs : List OpenBlock) :
    blockReports (a.reports bs) = [] :=
  List.filter_eq_nil_iff.2 fun x hx => by simp [mem_reports hx, Problem.aboutBlocks]

/-- The diagnostic for a token by the stack that it meets. -/
def strayReport? (m : List Token × Token) : Option Diagnostic :=
  (Nesting.stray? m.1 m.2).map (.ofToken m.2)

/-- The diagnostic for a block that is open at the end of the input. -/
def missingReport (last opener : Token) : Diagnostic :=
  .ofToken last (.missingEnd opener.kind opener.position.line)

/-- The draft behind the tokens has the reports of the stack. -/
structure Tracks (d : Draft) (read : List Token) : Prop where
  /-- The problems with blocks are those of the stack. -/
  reports : blockReports d.diagnostics = (Nesting.meetings [] read).filterMap strayReport?
  /-- All problems have wordings of their own. -/
  arises : ∀ x ∈ d.diagnostics, x.problem.Arises

/-- A token keeps draft and stack together. -/
theorem Tracks.step [Alphabet] {d : Draft} {read : List Token} {t : Token} (hd : d.Tracks read)
    (h : d.Follows t) (hopeners : d.openers = Nesting.remaining read) :
    (d.step t).Tracks (read ++ [t]) := by
  have hdiagnostics := diagnostics_step d t
  refine ⟨?_, ?_⟩
  · rw [hdiagnostics, blockReports_append, blockReports_append, blockReports_map, problems_move h,
      blockReports_reports, List.append_nil, hd.reports, hopeners, Nesting.meetings_append,
      List.filterMap_append]
    congr 1
    simp only [Nesting.meetings, Nesting.remaining]
    cases hs : Nesting.stray? (List.foldl Nesting.step [] read) t with
    | none => simp [strayReport?, hs]
    | some p => simp [strayReport?, hs]
  · intro x hx
    rw [hdiagnostics, List.mem_append, List.mem_append, List.mem_map] at hx
    rcases hx with (hx | ⟨p, hp, rfl⟩) | hx
    · exact hd.arises x hx
    · exact h.arises p hp
    · rw [mem_reports hx]
      trivial

/-! ## The end of the input -/

/-- The end of the input reports the innermost block. -/
theorem diagnostics_step_end [Alphabet] {d : Draft} {b : OpenBlock} {outer : List OpenBlock}
    (hb : d.blocks = b :: outer) {opener : Token} (ho : b.opener? = some opener) {last : Token}
    (hk : last.kind = .endOfInput) :
    (d.step last).diagnostics =
      d.diagnostics ++ [missingReport last opener] ++ Action.close.reports d.blocks := by
  rw [diagnostics_step, hb, List.head?_cons, move_end b hk, ho]
  rfl

/-- What the end of the input will report. A function block that it closes inside of another block
is reported behind its missing `@end`. -/
def dueReports (last : Token) (d : Draft) : List Diagnostic :=
  match d.openers with
  | [] => []
  | opener :: outer =>
    missingReport last opener :: (closingReports d.blocks ++ outer.map (missingReport last))

/-- Unless a function block is to be reported, each open block is missing its `@end`. -/
theorem dueReports_of_plain {last : Token} {d : Draft} (h : closingReports d.blocks = []) :
    dueReports last d = d.openers.map (missingReport last) := by
  unfold dueReports
  split
  · next hnil => rw [hnil]; rfl
  · next opener outer hcons => rw [hcons, h]; rfl

/-- Where the innermost block is not verbatim, closing it reports nothing. -/
theorem closingReports_eq_nil {d : Draft} (h : ∀ x ∈ d.heads.head?, ∀ v, x.2 ≠ .verbatim v) :
    closingReports d.blocks = [] := by
  refine List.eq_nil_iff_forall_not_mem.2 fun x hx => ?_
  obtain ⟨b, c, outer, opener, hb, hf, -⟩ := mem_closingReports hx
  exact h (b.opener?, b.frame) (by simp [heads, hb]) .function hf

/-- The end of the input reports what is due. -/
theorem diagnostics_finish [Alphabet] {last : Token} (hk : last.kind = .endOfInput) {d : Draft}
    (hd : d.WellFormed) : (d.finish last).diagnostics = d.diagnostics ++ dueReports last d := by
  obtain ⟨hpaid, hblocks⟩ := finish_induction
    (P := fun e => e.diagnostics ++ dueReports last e = d.diagnostics ++ dueReports last d) hk
    (by
      intro e b outer he hb hdue
      have hheads : (e.step last).heads = e.heads.tail := by
        rw [step_end hb hk, heads_close, heads_reportAll]
      have hplain : closingReports (e.step last).blocks = [] := by
        refine closingReports_eq_nil fun x hx => ?_
        rw [hheads] at hx
        exact he.innermost x (List.mem_of_mem_head? hx)
      obtain ⟨opener, ho, -⟩ := he.opener hb
      have hopeners : e.openers = opener :: (e.step last).openers := by
        rw [he.openers_of_tail hheads, openers_of_cons hb ho, List.tail_cons]
      rw [← hdue, diagnostics_step_end hb ho hk, dueReports_of_plain hplain, dueReports, hopeners]
      simp [Action.reports])
    hd rfl
  have hopeners : (d.finish last).openers = [] := by simp [openers, heads, hblocks]
  rw [← hpaid, dueReports_of_plain (by rw [hblocks]; rfl), hopeners]
  simp

/-- What is due is the report of a closed function block or a missing `@end`. -/
theorem mem_dueReports {last : Token} {d : Draft} {x : Diagnostic} (h : x ∈ dueReports last d) :
    x ∈ closingReports d.blocks ∨ ∃ opener, x = missingReport last opener := by
  unfold dueReports at h
  split at h
  · cases h
  · next opener outer hcons =>
    rw [List.mem_cons, List.mem_append, List.mem_map] at h
    rcases h with rfl | h | ⟨u, -, rfl⟩
    · exact Or.inr ⟨opener, rfl⟩
    · exact Or.inl h
    · exact Or.inr ⟨u, rfl⟩

/-- Of what is due, the missing `@end`s are about blocks. -/
theorem blockReports_dueReports (last : Token) (d : Draft) :
    blockReports (dueReports last d) = d.openers.map (missingReport last) := by
  have hmissing (openers : List Token) :
      blockReports (openers.map (missingReport last)) = openers.map (missingReport last) := by
    refine List.filter_eq_self.2 fun x hx => ?_
    obtain ⟨opener, -, rfl⟩ := List.mem_map.1 hx
    rfl
  unfold dueReports
  split
  · next hnil => rw [hnil]; rfl
  · next opener outer hcons =>
    have hclosing : blockReports (closingReports d.blocks) = [] :=
      blockReports_reports .close d.blocks
    have hsplit : missingReport last opener ::
        (closingReports d.blocks ++ outer.map (missingReport last)) =
          [opener].map (missingReport last) ++
            (closingReports d.blocks ++ outer.map (missingReport last)) := rfl
    rw [hsplit, blockReports_append, blockReports_append, hclosing, hmissing, hmissing, hcons]
    rfl

/-- What a document reports: what its tokens do, and then what the end of the input does. -/
theorem diagnostics_parse [Alphabet] (source : Text) :
    (Document.parse source).diagnostics =
      (run {} (tokenize source).tokens).diagnostics ++
        dueReports (tokenize source).last (run {} (tokenize source).tokens) := by
  obtain ⟨-, hwf⟩ := read_induction (P := fun _ _ => True) source trivial fun _ _ _ _ _ => trivial
  exact diagnostics_finish (tiles_tokenize source).last_of_append.1 hwf

/-- The problems with blocks that a document reports: those of the tokens, in order, and then one
for each block that is left on the stack. -/
theorem reports_parse [Alphabet] (source : Text) :
    blockReports (Document.parse source).diagnostics =
        (Nesting.meetings [] (tokenize source).tokens).filterMap strayReport? ++
          (Nesting.remaining (tokenize source).tokens).map (missingReport (tokenize source).last) ∧
      ∀ x ∈ (Document.parse source).diagnostics, x.problem.Arises := by
  have hstart : ({} : Draft).Tracks [] := ⟨rfl, by simp⟩
  obtain ⟨hread, hopeners, -⟩ := stack_induction source hstart
    fun d read t h hopeners hd => hd.step h hopeners
  rw [diagnostics_parse]
  constructor
  · rw [blockReports_append, hread.reports, blockReports_dueReports, hopeners]
  · intro x hx
    rcases List.mem_append.1 hx with hx | hx
    · exact hread.arises x hx
    · rcases mem_dueReports hx with hx | ⟨opener, rfl⟩
      · rw [mem_reports (a := .close) hx]
        trivial
      · trivial

end Draft

/-! ## Reports by their messages -/

/-- A diagnostic as it is shown. -/
def Diagnostic.shown (x : Diagnostic) : Position × Span × Text :=
  (x.position, x.span, x.message)

namespace Draft

/-- Diagnostics that are picked by their messages are among those about blocks, if no other
problem is worded like that. -/
theorem filter_message [Alphabet] {source : Text} {p : Text → Bool} {r : Problem → Bool}
    (hr : ∀ q, r q = true → q.aboutBlocks = true)
    (h : ∀ q : Problem, q.Arises → p q.message = r q) :
    (Document.parse source).diagnostics.filter (fun x => p x.message) =
      ((Nesting.meetings [] (tokenize source).tokens).filterMap strayReport? ++
        (Nesting.remaining (tokenize source).tokens).map
          (missingReport (tokenize source).last)).filter (fun x => r x.problem) := by
  obtain ⟨hreports, harises⟩ := reports_parse source
  rw [← hreports, blockReports, List.filter_filter]
  refine List.filter_congr fun x hx => ?_
  rw [Diagnostic.message, h x.problem (harises x hx), Bool.eq_iff_iff, Bool.and_eq_true]
  exact ⟨fun hx => ⟨hx, hr _ hx⟩, fun hx => hx.1⟩

/-- Diagnostics for stray tokens, picked by their messages and shown. -/
theorem shown_strays [Alphabet] (source : Text) {p : Text → Bool} (r : Problem → Bool)
    {c : List Token × Token → Prop} [DecidablePred c] {f : List Token × Token → Text}
    {g : List Token × Token → Problem} (hr : ∀ q, r q = true → q ∈ Problem.strays)
    (hp : ∀ q : Problem, q.Arises → p q.message = r q)
    (h : ∀ m, (Nesting.stray? m.1 m.2).filter r = if c m then some (g m) else none)
    (hf : ∀ m, (g m).message = f m) :
    ((Document.parse source).diagnostics.filter fun x => p x.message).map Diagnostic.shown =
      ((Nesting.meetings [] (tokenize source).tokens).filter fun m => c m).map
        fun m => (m.2.position, m.2.span, f m) := by
  have hblocks : ∀ q ∈ Problem.strays, q.aboutBlocks = true := by decide
  have hmissing : ((Nesting.remaining (tokenize source).tokens).map
      (missingReport (tokenize source).last)).filter (fun x => r x.problem) = [] := by
    refine List.filter_eq_nil_iff.2 fun x hx hrx => ?_
    obtain ⟨opener, -, rfl⟩ := List.mem_map.1 hx
    have hstray : Problem.missingEnd opener.kind opener.position.line ∈ Problem.strays := hr _ hrx
    simp [Problem.strays] at hstray
  rw [filter_message (fun q hq => hblocks q (hr q hq)) hp, List.filter_append, hmissing,
    List.append_nil, List.filter_filterMap, List.map_filterMap, ← List.filterMap_eq_map',
    List.filterMap_filter]
  -- Both sides go through the tokens and take what each of them reports, if anything.
  congr 1
  funext m
  calc Option.map Diagnostic.shown ((strayReport? m).filter fun x => r x.problem)
      = ((Nesting.stray? m.1 m.2).filter r).map fun q => (m.2.position, m.2.span, q.message) := by
        cases hs : Nesting.stray? m.1 m.2 with
        | none => simp [strayReport?, hs]
        | some q =>
          by_cases hq : r q = true <;>
            simp [strayReport?, hs, hq, Option.filter, Diagnostic.shown, Diagnostic.ofToken,
              Diagnostic.message]
    _ = if decide (c m) = true then some (m.2.position, m.2.span, f m) else none := by
        rw [h m]
        by_cases hc : c m <;> simp [hc, hf]

/-- Diagnostics for blocks that are not closed, picked by their messages and shown. -/
theorem shown_missing [Alphabet] (source : Text) :
    ((Document.parse source).diagnostics.filter fun x =>
        x.message.startsWith "missing `@end` for ").map Diagnostic.shown =
      (Nesting.remaining (tokenize source).tokens).map fun opener =>
        (missingReport (tokenize source).last opener).shown := by
  let r : Problem → Bool
    | .missingEnd _ _ => true
    | _ => false
  have hr : ∀ q, r q = true ↔ ∃ kind line, q = .missingEnd kind line := by
    intro q
    cases q <;> simp [r]
  have hstrays : ((Nesting.meetings [] (tokenize source).tokens).filterMap strayReport?).filter
      (fun x => r x.problem) = [] := by
    refine List.filter_eq_nil_iff.2 fun x hx hrx => ?_
    obtain ⟨m, -, hm⟩ := List.mem_filterMap.1 hx
    obtain ⟨q, hq, rfl⟩ := Option.map_eq_some_iff.1 hm
    obtain ⟨kind, line, rfl⟩ := (hr q).1 hrx
    unfold Nesting.stray? at hq
    split at hq
    · simp at hq
    · split at hq
      · split at hq <;> simp at hq
      · simp at hq
  rw [filter_message (p := fun m => m.startsWith "missing `@end` for ") (r := r),
    List.filter_append, hstrays, List.nil_append]
  · rw [List.filter_eq_self.2, List.map_map]
    · rfl
    · intro x hx
      obtain ⟨opener, -, rfl⟩ := List.mem_map.1 hx
      rfl
  · intro q hq
    obtain ⟨kind, line, rfl⟩ := (hr q).1 hq
    rfl
  · intro q hq
    rw [Bool.eq_iff_iff, Problem.startsWith_missing_iff hq, hr]

end Draft

end Stencil
