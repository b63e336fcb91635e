import Mathlib.Data.List.Pairwise
import Stencil.Proofs.Document.Nesting

/-!
# Where problems are reported

A diagnostic has the place of some token, and what it says fits the sort of that token
(`Problem.ReportedAt`, `attributed_parse`). Tokens have different places, so that the diagnostics
at a token can be told from all others by where they are.

Illegal tokens show what this is good for. Three loops of the reader take tokens, and only two of
them report an illegal one: a verbatim block would report it as out of place. It never comes to
that, since no illegal token is read while a verbatim block is open
(`Follows.not_verbatim_of_illegal`). So every illegal token is reported, once and in its own words,
however deep it stands and whether or not the blocks around it are dropped (`faults_reported`).
-/

set_option autoImplicit false

namespace Stencil

/-- Whether the problem is that of an illegal token. -/
def Problem.isIllegal : Problem → Bool
  | illegal _ => true
  | _ => false

/-- What is reported of an illegal token. -/
def faultReport (t : Token) : Diagnostic :=
  .ofToken t (.illegal t.text)

namespace Problem

variable {t : Token} {p : Problem}

/-- A problem is that of an illegal token exactly when it is reported at one. -/
theorem ReportedAt.isIllegal_iff (h : p.ReportedAt t) : p.isIllegal = true ↔ t.kind = .illegal := by
  cases p with
  | illegal reason => simp [isIllegal, h.1]
  | unexpected kind =>
    obtain ⟨hk, hkind⟩ := h
    rcases hkind with rfl | rfl <;> simp [isIllegal, hk]
  | unexpectedInExtend kind => simp [isIllegal, h.1, h.2]
  | unexpectedInVerbatim _ | missingEndOfUnopened | remark _ => exact h.elim
  | missingExpression _ | nestedDeclaration _ | nestedFunction | missingCondition | strayContent
  | textInExtend | missingEnd _ _ =>
    have hk : t.kind = _ := h
    simp [isIllegal, hk]
  | _ =>
    obtain ⟨directive, hk⟩ := h
    simp [isIllegal, hk]

end Problem

namespace Draft

/-- Each diagnostic is a problem of one of the tokens, and each block was opened by one. -/
structure Attributed (d : Draft) (tokens : List Token) : Prop where
  diagnostics : ∀ x ∈ d.diagnostics, ∃ t ∈ tokens, ∃ p, x = .ofToken t p ∧ p.ReportedAt t
  openers : ∀ t ∈ d.openers, t ∈ tokens

/-- A function block in the wrong place is reported at its opener. -/
theorem Attributed.closing {d : Draft} {tokens : List Token} (hd : d.Attributed tokens)
    (hwf : d.WellFormed) {x : Diagnostic} (hx : x ∈ closingReports d.blocks) :
    ∃ t ∈ tokens, ∃ p, x = .ofToken t p ∧ p.ReportedAt t := by
  obtain ⟨b, c, outer, opener, hb, hf, ho, rfl⟩ := mem_closingReports hx
  refine ⟨opener, hd.openers _ (by simp [openers_of_cons hb ho]), _, rfl, ?_⟩
  obtain ⟨opener', ho', hkind⟩ := hwf.opener hb
  obtain rfl : opener = opener' := Option.some.inj (ho.symm.trans ho')
  exact hkind.trans (congrArg Frame.kind hf)

/-- A token reports nothing but at itself or at an opener before it. -/
theorem Attributed.step [Alphabet] {d : Draft} {read : List Token} {t : Token}
    (hd : d.Attributed read) (h : d.Follows t) : (d.step t).Attributed (read ++ [t]) := by
  constructor
  · intro x hx
    rw [diagnostics_step, List.mem_append, List.mem_append, List.mem_map] at hx
    rcases hx with (hx | ⟨p, hp, rfl⟩) | hx
    · obtain ⟨u, hu, hsource⟩ := hd.diagnostics x hx
      exact ⟨u, List.mem_append_left _ hu, hsource⟩
    · exact ⟨t, by simp, p, rfl, h.reportedAt p hp⟩
    · unfold Action.reports at hx
      split at hx
      · obtain ⟨u, hu, hsource⟩ := hd.closing h.wellFormed hx
        exact ⟨u, List.mem_append_left _ hu, hsource⟩
      · cases hx
  · intro u hu
    rw [openers_step h] at hu
    have hmem : u = t ∨ u ∈ d.openers := by
      unfold Nesting.step at hu
      split_ifs at hu
      · exact List.mem_cons.1 hu
      · exact Or.inr (List.mem_of_mem_tail hu)
      · exact (List.mem_cons.1 hu).imp_right List.mem_of_mem_tail
      · exact Or.inr hu
    rcases hmem with rfl | hu
    · simp
    · exact List.mem_append_left _ (hd.openers u hu)

/-- The empty draft has nothing to attribute. -/
theorem attributed_nil : ({} : Draft).Attributed [] :=
  ⟨by simp, by simp [openers, heads]⟩

/-- Each diagnostic of a document is a problem of a token of its source. -/
theorem attributed_parse [Alphabet] (source : Text) :
    ∀ x ∈ (Document.parse source).diagnostics, ∃ t ∈ (tokenize source).toList, ∃ p,
      x = .ofToken t p ∧ p.ReportedAt t := by
  obtain ⟨hread, hwf⟩ := read_induction (P := Attributed) source attributed_nil
    fun d read t h hd => hd.step h
  intro x hx
  rw [diagnostics_parse, List.mem_append] at hx
  rcases hx with hx | hx
  · obtain ⟨t, ht, hsource⟩ := hread.diagnostics x hx
    exact ⟨t, List.mem_append_left _ ht, hsource⟩
  · rcases mem_dueReports hx with hx | ⟨opener, rfl⟩
    · obtain ⟨t, ht, hsource⟩ := hread.closing hwf hx
      exact ⟨t, List.mem_append_left _ ht, hsource⟩
    · exact ⟨_, List.mem_append_right _ (List.mem_singleton_self _), _, rfl,
        (tiles_tokenize source).last_of_append.1⟩

/-! ## Illegal tokens -/

/-- No illegal token comes while a verbatim block is open. -/
theorem Follows.not_verbatim_of_illegal {d : Draft} {t : Token} (h : d.Follows t)
    (hk : t.kind = .illegal) : ∀ b ∈ d.blocks, ∀ v, b.frame ≠ .verbatim v := by
  intro b hb
  refine h.not_verbatim (by simp [hk]) (by simp [hk]) (b.opener?, b.frame) ?_
  exact List.mem_map_of_mem (f := fun b : OpenBlock => (b.opener?, b.frame)) hb

/-- Outside of verbatim blocks an illegal token is reported, and nothing else is. -/
theorem problems_move_illegal [Alphabet] {top? : Option OpenBlock} {t : Token}
    (hk : t.kind = .illegal) (htop : ∀ b, top? = some b → ∀ v, b.frame ≠ .verbatim v) :
    (move top? t).problems = [.illegal t.text] := by
  cases top? with
  | none => simp [move, statementMove, hk]
  | some b =>
    cases hf : b.frame with
    | verbatim v => exact absurd hf (htop b rfl v)
    | extension call? => simp [move, extensionMove, hk, hf]
    | _ => simp [move, statementMove, hk, hf]

/-- The diagnostics of illegal tokens. -/
def faultReports (ds : List Diagnostic) : List Diagnostic :=
  ds.filter fun x => x.problem.isIllegal

/-- The diagnostics of illegal tokens are picked from each part. -/
@[simp] theorem faultReports_append (xs ys : List Diagnostic) :
    faultReports (xs ++ ys) = faultReports xs ++ faultReports ys :=
  List.filter_append ..

/-- Closing a block reports no illegal token. -/
theorem faultReports_closing (blocks : List OpenBlock) :
    faultReports (closingReports blocks) = [] := by
  refine List.filter_eq_nil_iff.2 fun x hx => ?_
  obtain ⟨b, c, outer, opener, -, -, -, rfl⟩ := mem_closingReports hx
  simp [Diagnostic.ofToken, Problem.isIllegal]

/-- A token is reported as illegal exactly when it is. -/
theorem faultReports_step [Alphabet] {d : Draft} {t : Token} (h : d.Follows t) :
    faultReports (d.step t).diagnostics =
      faultReports d.diagnostics ++ ([t].filter fun t => t.kind = .illegal).map faultReport := by
  have hreports : faultReports ((move d.blocks.head? t).action.reports d.blocks) = [] := by
    unfold Action.reports
    split
    · exact faultReports_closing d.blocks
    · rfl
  rw [diagnostics_step, faultReports_append, faultReports_append, hreports, List.append_nil]
  congr 1
  by_cases hk : t.kind = .illegal
  · have hproblems : (move d.blocks.head? t).problems = [.illegal t.text] :=
      problems_move_illegal hk fun b hb =>
        h.not_verbatim_of_illegal hk b (List.mem_of_mem_head? hb)
    simp [hproblems, hk, faultReports, Diagnostic.ofToken, Problem.isIllegal, faultReport]
  · have hnone : faultReports ((move d.blocks.head? t).problems.map (.ofToken t)) = [] := by
      refine List.filter_eq_nil_iff.2 fun x hx => ?_
      obtain ⟨p, hp, rfl⟩ := List.mem_map.1 hx
      exact fun hillegal => hk ((h.reportedAt p hp).isIllegal_iff.1 hillegal)
    simp [hnone, hk]

/-- The illegal tokens among those that have been read are reported in their order, and none of
them was read inside of a verbatim block. -/
structure Exposes [Alphabet] (d : Draft) (read : List Token) : Prop where
  run : d = Draft.run {} read
  faults : faultReports d.diagnostics = (read.filter fun t => t.kind = .illegal).map faultReport
  outside : ∀ front t back, read = front ++ t :: back → t.kind = .illegal →
    ∀ b ∈ (Draft.run {} front).blocks, ∀ v, b.frame ≠ .verbatim v

/-- Each token that is read keeps the illegal ones exposed. -/
theorem Exposes.step [Alphabet] {d : Draft} {read : List Token} {t : Token} (hd : d.Exposes read)
    (h : d.Follows t) : (d.step t).Exposes (read ++ [t]) := by
  refine ⟨?_, ?_, ?_⟩
  · rw [run_append, ← hd.run]
    rfl
  · rw [faultReports_step h, hd.faults, List.filter_append, List.map_append]
  · intro front u back hsplit hk
    rcases List.eq_nil_or_concat back with rfl | ⟨back, last, rfl⟩
    · obtain ⟨rfl, hlast⟩ := List.append_inj' hsplit rfl
      cases hlast
      rw [← hd.run]
      exact h.not_verbatim_of_illegal hk
    · rw [List.concat_eq_append, ← List.cons_append, ← List.append_assoc] at hsplit
      exact hd.outside front u back (List.append_inj' hsplit rfl).1 hk

/-- The illegal tokens of a source are reported in their order, and none of them is in a verbatim
block. -/
theorem exposes_parse [Alphabet] (source : Text) :
    faultReports (Document.parse source).diagnostics =
        ((tokenize source).tokens.filter fun t => t.kind = .illegal).map faultReport ∧
      ∀ front t back, (tokenize source).tokens = front ++ t :: back → t.kind = .illegal →
        ∀ b ∈ (run {} front).blocks, ∀ v, b.frame ≠ .verbatim v := by
  obtain ⟨hread, -⟩ := read_induction (P := Exposes) source ⟨rfl, rfl, by simp⟩
    fun d read t h hd => hd.step h
  refine ⟨?_, hread.outside⟩
  have hdue : faultReports (dueReports (tokenize source).last
      (run {} (tokenize source).tokens)) = [] := by
    refine List.filter_eq_nil_iff.2 fun x hx => ?_
    rcases mem_dueReports hx with hx | ⟨opener, rfl⟩
    · exact List.filter_eq_nil_iff.1 (faultReports_closing _) x hx
    · simp [missingReport, Diagnostic.ofToken, Problem.isIllegal]
  rw [diagnostics_parse, faultReports_append, hread.faults, hdue, List.append_nil]

end Draft

/-- Tokens of a source are told apart by their spans. -/
theorem eq_of_span_eq {source : Text} {t u : Token} (ht : t ∈ (tokenize source).toList)
    (hu : u ∈ (tokenize source).toList) (h : t.span = u.span) : t = u := by
  have hpairs : (tokenize source).toList.Pairwise fun a b => a.span ≠ b.span := by
    refine (tiles_tokenize source).pairwise_spans.imp fun {a b} hab heq => ?_
    rw [heq] at hab
    omega
  have hsymm : Std.Symm fun a b : Token => a.span ≠ b.span := ⟨fun a b hab => hab.symm⟩
  by_contra hne
  exact hpairs.forall ht hu hne h

/-- The diagnostics at the places of illegal tokens are these tokens, in order and with their texts
as messages, and they are the only ones that say so. A source with an illegal token has errors, and
none of its illegal tokens is read inside of a verbatim block. -/
theorem faults_reported [Alphabet] (source : Text) :
    let s := tokenize source
    let doc := Document.parse source
    let faults := s.tokens.filter fun t => t.kind = .illegal
    ((doc.diagnostics.filter fun x => faults.any fun t => t.span = x.span).map Diagnostic.shown =
        faults.map fun t => (t.position, t.span, t.text)) ∧
      doc.diagnostics.filter (fun x => x.problem.isIllegal) =
        faults.map (fun t => .ofToken t (.illegal t.text)) ∧
      (faults ≠ [] → doc.hasErrors = true) ∧
      ∀ read t rest, s.tokens = read ++ t :: rest → t.kind = .illegal →
        ∀ b ∈ (Draft.run {} read).blocks, ∀ v, b.frame ≠ .verbatim v := by
  intro s doc faults
  obtain ⟨hfaults, houtside⟩ := Draft.exposes_parse source
  have hplace : (doc.diagnostics.filter fun x => faults.any fun t => t.span = x.span) =
      Draft.faultReports doc.diagnostics := by
    refine List.filter_congr fun x hx => ?_
    obtain ⟨t, ht, p, rfl, hp⟩ := Draft.attributed_parse source x hx
    rw [Bool.eq_iff_iff, List.any_eq_true]
    constructor
    · rintro ⟨u, hu, hspan⟩
      obtain ⟨humem, hukind⟩ := List.mem_filter.1 hu
      have heq : u = t := eq_of_span_eq (List.mem_append_left _ humem) ht (of_decide_eq_true hspan)
      exact hp.isIllegal_iff.2 (heq ▸ of_decide_eq_true hukind)
    · intro hillegal
      have hk : t.kind = .illegal := hp.isIllegal_iff.1 hillegal
      refine ⟨t, List.mem_filter.2 ⟨?_, by simp [hk]⟩, by simp [Diagnostic.ofToken]⟩
      rcases List.mem_append.1 ht with ht | ht
      · exact ht
      · rw [List.mem_singleton.1 ht, (tiles_tokenize source).last_of_append.1] at hk
        cases hk
  refine ⟨?_, hfaults, fun hne => ?_, houtside⟩
  · rw [hplace, hfaults, List.map_map]
    rfl
  · have hdiagnostics : doc.diagnostics ≠ [] := by
      intro hnil
      have hempty := hfaults
      rw [show (Document.parse source).diagnostics = [] from hnil] at hempty
      exact hne (List.map_eq_nil_iff.1 hempty.symm)
    simp [Document.hasErrors, hdiagnostics]

/-- An illegal token in a content block, behind one between the content blocks. -/
theorem faults_reported_in_slot :
    let page : Text := "@extend x\n@bogus@content c\n@nope @end@end"
    let tokens := (tokenize page).tokens
    let fault : Token := ⟨.illegal, "unknown directive `@nope`", ⟨3, 1⟩, ⟨27, 32⟩⟩
    let before := Draft.run {} (tokens.take 3)
    tokens = tokens.take 3 ++ fault :: tokens.drop 4 ∧ before.blocks.length = 2 ∧
      (Document.parse page).hasErrors = true ∧
      ∀ b ∈ before.blocks, ∀ v, b.frame ≠ .verbatim v := by
  intro page tokens fault before
  have hsplit : tokens = tokens.take 3 ++ fault :: tokens.drop 4 := by decide +kernel
  have hne : (tokens.filter fun t => t.kind = .illegal) ≠ [] := by decide +kernel
  obtain ⟨-, -, herrors, houtside⟩ := faults_reported page
  exact ⟨hsplit, by decide +kernel, herrors hne, houtside _ fault _ hsplit rfl⟩

end Stencil
