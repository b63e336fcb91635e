import Stencil.Datum
import Stencil.Proofs.Document.Transition

/-!
# How problems are worded

Reading a source leads to problems of three sorts: problems with the payload of a directive, those
about where blocks begin and end, and a few others. The problems about blocks are known by their
messages: no other problem that arises is worded like an `@end` or `@else` that belongs to no block
(`message_eq_iff`) or like a block that is never closed (`startsWith_missing_iff`).

What a token reports fits the sort of the token (`Follows.reportedAt`). This is read off the table
of moves once, and what else is said of the problems of a token follows from it. The message of an
illegal token is the token's text. So that it cannot be just any text, `Problem.Arises` asks for
the wording of a fault.
-/

set_option autoImplicit false

namespace Stencil

namespace Problem

/-- Whether the problem is about where blocks begin and end. -/
def aboutBlocks : Problem → Bool
  | unexpected _ | unexpectedInExtend .otherwise | missingEnd _ _ | missingEndOfUnopened => true
  | _ => false

/-- Whether the problem is about the payload of a line directive. -/
def aboutPayload : Problem → Bool
  | loopSeparator _ | loopParts _ | missingTemplate _ | invalidTemplate _ | missingContentName _
  | invalidContentName _ | duplicateContent _ | incompleteArgument | incompleteContext
  | invalidName _ _ | missingType | missingDefault | missingPath => true
  | _ => false

/-- Problems that reading a source can lead to, as far as their wording goes: the reason of an
illegal token is one of the known faults, and every block has an opener. -/
def Arises : Problem → Prop
  | remark _ | missingEndOfUnopened => False
  | illegal reason => ∃ fault : Fault, reason = fault.message
  | _ => True

end Problem

/-! ## Problems with payloads -/

/-- The problem of a reading is what it fails with. -/
theorem mem_problems {α : Type} {reading : Except Problem α} {p : Problem} :
    p ∈ problems reading ↔ reading = .error p := by
  cases reading with
  | ok a => simp [problems]
  | error q => simp [problems, eq_comm]

/-- Reading a name and a rest fails because of the payload alone. -/
theorem aboutPayload_readDeclaration [Alphabet] {directive : LineDirective} {incomplete : Problem}
    {payload : Text} (hi : incomplete.aboutPayload = true) :
    ∀ p ∈ problems (readDeclaration directive incomplete payload), p.aboutPayload = true := by
  intro p hp
  rw [mem_problems, readDeclaration] at hp
  split at hp
  · cases hp
    exact hi
  · split at hp
    · cases hp
    · cases hp
      rfl

/-- Reading an argument fails because of the payload alone. -/
theorem aboutPayload_argument [Alphabet] (line : Nat) (payload : Text) :
    ∀ p ∈ problems (Argument.read line payload), p.aboutPayload = true := by
  intro p hp
  rw [mem_problems, Argument.read] at hp
  split at hp
  · next q hq =>
    cases hp
    exact aboutPayload_readDeclaration rfl p (mem_problems.2 hq)
  · cases hp

/-- Reading a context variable fails because of the payload alone. -/
theorem aboutPayload_context [Alphabet] (line : Nat) (payload : Text) :
    ∀ p ∈ problems (ContextVariable.read line payload), p.aboutPayload = true := by
  intro p hp
  rw [mem_problems, ContextVariable.read] at hp
  split at hp
  · next q hq =>
    cases hp
    exact aboutPayload_readDeclaration rfl p (mem_problems.2 hq)
  · simp only at hp
    split at hp
    · cases hp
      rfl
    · split at hp
      · cases hp
        rfl
      · cases hp

/-- Reading an import fails because of the payload alone. -/
theorem aboutPayload_import (line : Nat) (payload : Text) :
    ∀ p ∈ problems (Import.read line payload), p.aboutPayload = true := by
  intro p hp
  rw [mem_problems, Import.read] at hp
  split at hp
  · cases hp
    rfl
  · cases hp

/-- Reading a call fails because of the payload alone. -/
theorem aboutPayload_call [Alphabet] (directive : LineDirective) (payload : Text) :
    ∀ p ∈ problems (Call.read directive payload), p.aboutPayload = true := by
  intro p hp
  -- Whether the call is wrong does not depend on how it was split off.
  have hcall (call : Call) (h : (if call.template.isEmpty then .error (.missingTemplate directive)
      else if call.template.isDottedName then .ok call
      else .error (.invalidTemplate call.template) : Except Problem Call) = .error p) :
      p.aboutPayload = true := by
    split at h
    · cases h
      rfl
    · split at h
      · cases h
      · cases h
        rfl
  exact hcall _ (mem_problems.1 hp)

/-- Reading the head of a loop fails because of the payload alone. -/
theorem aboutPayload_loop (payload : Text) :
    ∀ p ∈ problems (LoopHead.read payload), p.aboutPayload = true := by
  intro p hp
  rw [mem_problems, LoopHead.read] at hp
  split at hp
  · split at hp
    · cases hp
    · cases hp
      rfl
  · cases hp
    rfl

/-- Reading the name of a content block fails because of the payload alone. -/
theorem aboutPayload_contentName [Alphabet] (directive : LineDirective) (payload : Text) :
    ∀ p ∈ problems (readContentName directive payload), p.aboutPayload = true := by
  intro p hp
  rw [mem_problems, readContentName] at hp
  split at hp
  · cases hp
    rfl
  · split at hp
    · cases hp
    · cases hp
      rfl

/-- Reading a name that must be new among the content blocks fails because of the payload alone. -/
theorem aboutPayload_slotName [Alphabet] (slots : List Node) (payload : Text) :
    ∀ p ∈ problems (Draft.slotName slots payload), p.aboutPayload = true := by
  intro p hp
  rw [mem_problems, Draft.slotName] at hp
  split at hp
  · next q hq =>
    cases hp
    exact aboutPayload_contentName .content payload p (mem_problems.2 hq)
  · split at hp
    · cases hp
      rfl
    · cases hp

/-! ## Problems by their tokens -/

/-- Whether the problem may be reported at the token. What a directive says is wrong at the token
of some line directive, and a few problems never arise. -/
def Problem.ReportedAt (t : Token) : Problem → Prop
  | illegal reason => t.kind = .illegal ∧ reason = t.text
  | missingExpression how => t.kind = .display how
  | nestedDeclaration directive => t.kind = .line directive
  | nestedFunction => t.kind = .verbatim .function
  | missingCondition => t.kind = .line .condition
  | strayContent => t.kind = .line .content
  | textInExtend => t.kind = .literal
  | unexpected kind => t.kind = kind ∧ (kind = .otherwise ∨ kind = .close)
  | unexpectedInExtend kind => t.kind = kind ∧ kind ≠ .illegal
  | missingEnd _ _ => t.kind = .endOfInput
  | unexpectedInVerbatim _ | missingEndOfUnopened | remark _ => False
  | _ => ∃ directive, t.kind = .line directive

namespace Problem

variable {t : Token} {p : Problem}

/-- A problem of a payload may be reported at any line directive. -/
theorem reportedAt_of_aboutPayload {directive : LineDirective} (hk : t.kind = .line directive)
    (h : p.aboutPayload = true) : p.ReportedAt t := by
  cases p with
  | loopSeparator _ | loopParts _ | missingTemplate _ | invalidTemplate _ | missingContentName _
  | invalidContentName _ | duplicateContent _ | incompleteArgument | incompleteContext
  | invalidName _ _ | missingType | missingDefault | missingPath => exact ⟨directive, hk⟩
  | _ => simp [aboutPayload] at h

end Problem

namespace Draft

/-- A declaration reports its payload or its place, both at its token. -/
theorem reportedAt_declarationMove {α : Type} (atRoot : Bool) {directive : LineDirective}
    {t : Token} (hk : t.kind = .line directive) {reading : Except Problem α} (act : α → Action)
    (h : ∀ p ∈ problems reading, p.aboutPayload = true) :
    ∀ p ∈ (declarationMove atRoot directive reading act).problems, p.ReportedAt t := by
  unfold declarationMove
  split
  · rw [problems_ofReading]
    intro p hp
    exact Problem.reportedAt_of_aboutPayload hk (h p hp)
  · simpa [Problem.ReportedAt] using hk

/-- What a token reports among statements may be reported at it. -/
theorem reportedAt_statementMove [Alphabet] (atRoot : Bool) (t : Token) :
    ∀ p ∈ (statementMove atRoot t).problems, p.ReportedAt t := by
  cases hk : t.kind with
  | line directive =>
    have hpayload {ps : List Problem} (h : ∀ p ∈ ps, p.aboutPayload = true) :
        ∀ p ∈ ps, p.ReportedAt t :=
      fun p hp => Problem.reportedAt_of_aboutPayload hk (h p hp)
    cases directive with
    | argument =>
      simp only [statementMove, hk]
      exact reportedAt_declarationMove _ hk _ (aboutPayload_argument _ _)
    | context =>
      simp only [statementMove, hk]
      exact reportedAt_declarationMove _ hk _ (aboutPayload_context _ _)
    | importing =>
      simp only [statementMove, hk]
      exact reportedAt_declarationMove _ hk _ (aboutPayload_import _ _)
    | inclusion | extension =>
      simp only [statementMove, hk, problems_ofReading]
      exact hpayload (aboutPayload_call _ _)
    | yield =>
      simp only [statementMove, hk, problems_ofReading]
      exact hpayload (aboutPayload_contentName _ _)
    | loop =>
      simp only [statementMove, hk]
      exact hpayload (aboutPayload_loop _)
    | content => simp [statementMove, hk, Problem.ReportedAt]
    | condition =>
      simp only [statementMove, hk]
      split <;> simp [Problem.ReportedAt, hk]
  | display how =>
    simp only [statementMove, hk]
    split <;> simp [Problem.ReportedAt, hk]
  | illegal | literal | endOfInput | verbatim _ | otherwise | close =>
    simp [statementMove, hk, Problem.ReportedAt]

/-- What a token reports directly inside of an `@extend` may be reported at it. -/
theorem reportedAt_extensionMove [Alphabet] (slots : List Node) (t : Token) :
    ∀ p ∈ (extensionMove slots t).problems, p.ReportedAt t := by
  have hstray (kind : TokenKind) (hk : t.kind = kind) (hne : kind ≠ .illegal) :
      ∀ p ∈ .unexpectedInExtend kind :: (statementMove false t).problems, p.ReportedAt t :=
    List.forall_mem_cons.2 ⟨⟨hk, hne⟩, reportedAt_statementMove false t⟩
  cases hk : t.kind with
  | line directive =>
    cases directive with
    | content =>
      simp only [extensionMove, hk]
      intro p hp
      exact Problem.reportedAt_of_aboutPayload hk (aboutPayload_slotName _ _ p hp)
    | _ =>
      simp only [extensionMove, hk]
      exact hstray _ hk (by simp)
  | literal =>
    simp only [extensionMove, hk]
    split <;> simp [Problem.ReportedAt, hk]
  | illegal | otherwise | close => simp [extensionMove, hk, Problem.ReportedAt]
  | endOfInput | display _ | verbatim _ =>
    simp only [extensionMove, hk]
    exact hstray _ hk (by simp)

/-- What a token of a source reports is a problem of its sort of token. -/
theorem Follows.reportedAt [Alphabet] {d : Draft} {t : Token} (h : d.Follows t) :
    ∀ p ∈ (move d.blocks.head? t).problems, p.ReportedAt t := by
  cases hb : d.blocks with
  | nil => exact reportedAt_statementMove true t
  | cons b outer =>
    rw [List.head?_cons]
    cases hf : b.frame with
    | verbatim v =>
      rw [move_verbatim hf h.notEnd]
      rcases h.kind_of_verbatim hb hf with ⟨hk, -⟩ | hk <;> simp [verbatimMove, hk]
    | extension call? =>
      rw [move_extension hf h.notEnd]
      exact reportedAt_extensionMove b.body t
    | condition | otherwise _ _ | loop _ | slot _ | strayContent =>
      have htakes : b.frame.takesStatements = true := by rw [hf]; rfl
      rcases move_cases htakes h.notEnd with ⟨-, hmove⟩ | ⟨-, -, hmove⟩ | ⟨-, -, hmove⟩
      · simp [hmove]
      · simp [hmove]
      · rw [hmove]
        exact reportedAt_statementMove false t

end Draft

/-! ## Problems by their messages -/

/-- No sort of token is missing from the list of all. -/
theorem TokenKind.mem_all (kind : TokenKind) : kind ∈ all := by
  cases kind with
  | display how => cases how <;> decide
  | line directive => cases directive <;> decide
  | verbatim block => cases block <;> decide
  | _ => decide

namespace Problem

/-- The problems of an `@end` or `@else` that belongs to no block. -/
def strays : List Problem :=
  [unexpected .close, unexpected .otherwise, unexpectedInExtend .otherwise]

/-- Of the problems that arise, few are worded like those about blocks. -/
theorem wording {p : Problem} (h : p.Arises) :
    (∃ kind, p = unexpected kind ∨ p = unexpectedInExtend kind ∨ p = unexpectedInVerbatim kind) ∨
      (∃ kind line, p = missingEnd kind line) ∨
      (∃ fault : Fault, p = illegal fault.message) ∨
      ∃ c, p.message.head? = some c ∧ c ≠ 'u' ∧ c ≠ 'm' := by
  cases p with
  | remark _ | missingEndOfUnopened => exact h.elim
  | illegal reason =>
    obtain ⟨fault, hf⟩ := h
    exact Or.inr (Or.inr (Or.inl ⟨fault, by rw [hf]⟩))
  | unexpected kind => exact Or.inl ⟨kind, Or.inl rfl⟩
  | unexpectedInExtend kind => exact Or.inl ⟨kind, Or.inr (Or.inl rfl)⟩
  | unexpectedInVerbatim kind => exact Or.inl ⟨kind, Or.inr (Or.inr rfl)⟩
  | missingEnd kind line => exact Or.inr (Or.inl ⟨kind, line, rfl⟩)
  | missingExpression _ | missingCondition | missingTemplate _ | missingContentName _
  | missingPath => exact Or.inr (Or.inr (Or.inr ⟨'e', rfl, by decide⟩))
  | nestedDeclaration _ | nestedFunction | strayContent | incompleteArgument | incompleteContext
  | missingType | missingDefault => exact Or.inr (Or.inr (Or.inr ⟨'`', rfl, by decide⟩))
  | loopSeparator _ | loopParts _ | invalidTemplate _ | invalidContentName _ | invalidName _ _ =>
    exact Or.inr (Or.inr (Or.inr ⟨'i', rfl, by decide⟩))
  | duplicateContent _ => exact Or.inr (Or.inr (Or.inr ⟨'d', rfl, by decide⟩))
  | textInExtend => exact Or.inr (Or.inr (Or.inr ⟨'l', rfl, by decide⟩))

/-- The wordings that begin like those of the stray tokens are all different. -/
theorem eq_of_unexpected : ∀ kind ∈ TokenKind.all, ∀ q ∈ strays,
    ((unexpected kind).message = q.message → unexpected kind = q) ∧
      ((unexpectedInExtend kind).message = q.message → unexpectedInExtend kind = q) ∧
      (unexpectedInVerbatim kind).message ≠ q.message := by
  decide +kernel

/-- The messages about stray tokens start alike. -/
theorem take_of_strays : ∀ q ∈ strays, q.message.take 3 = "une" := by
  decide +kernel

/-- No fault is worded like a stray token. -/
theorem take_fault_ne (fault : Fault) : fault.message.take 3 ≠ "une" := by
  cases fault with
  | unclosedComment => decide
  | unclosedDisplay how =>
    have htake : (Fault.unclosedDisplay how).message.take 3 = "unc" := rfl
    rw [htake]
    decide
  | noDirective => decide
  | unknownDirective word =>
    have htake : (Fault.unknownDirective word).message.take 3 = "unk" := rfl
    rw [htake]
    decide

/-- Three characters set tokens that are out of place apart: blocks are worded "mis", and no fault
is worded like them. -/
theorem eq_unexpected_of_take {p : Problem} (h : p.Arises) (htake : p.message.take 3 = "une") :
    ∃ kind, p = unexpected kind ∨ p = unexpectedInExtend kind ∨ p = unexpectedInVerbatim kind := by
  rcases wording h with hp | ⟨kind, line, rfl⟩ | ⟨fault, rfl⟩ | ⟨c, hc, hu, -⟩
  · exact hp
  · have hmissing : (missingEnd kind line).message.take 3 = "mis" := rfl
    rw [hmissing] at htake
    exact absurd htake (by decide)
  · exact absurd htake (take_fault_ne fault)
  · have hhead := congrArg List.head? htake
    rw [List.head?_take, if_neg (by decide), hc] at hhead
    exact absurd (Option.some.inj hhead) hu

/-- A stray token is told by its message. -/
theorem message_eq_iff {p q : Problem} (h : p.Arises) (hq : q ∈ strays) :
    p.message = q.message ↔ p = q := by
  refine ⟨fun hm => ?_, fun he => by rw [he]⟩
  obtain ⟨kind, hp⟩ := eq_unexpected_of_take h (by rw [hm, take_of_strays q hq])
  obtain ⟨hstray, hextend, hverbatim⟩ := eq_of_unexpected kind kind.mem_all q hq
  rcases hp with rfl | rfl | rfl
  · exact hstray hm
  · exact hextend hm
  · exact absurd hm hverbatim

/-- A block that is not closed is told by the first character of its message. -/
theorem eq_missingEnd_of_head {p : Problem} (h : p.Arises) (hhead : p.message.head? = some 'm') :
    ∃ kind line, p = missingEnd kind line := by
  rcases wording h with ⟨kind, hp⟩ | hp | ⟨fault, rfl⟩ | ⟨c, hc, -, hm⟩
  · have hu : p.message.head? = some 'u' := by rcases hp with rfl | rfl | rfl <;> rfl
    rw [hu] at hhead
    exact absurd hhead (by decide)
  · exact hp
  · have hf : fault.message.head? = some 'u' ∨ fault.message.head? = some 'e' := by
      cases fault with
      | noDirective => exact Or.inr rfl
      | unclosedComment | unclosedDisplay _ | unknownDirective _ => exact Or.inl rfl
    rcases hf with hf | hf <;> exact absurd (hf.symm.trans hhead) (by decide)
  · rw [hc] at hhead
    exact absurd (Option.some.inj hhead) hm

/-- Of the problems that arise, only a missing `@end` is worded as one. -/
theorem startsWith_missing_iff {p : Problem} (h : p.Arises) :
    p.message.startsWith "missing `@end` for " = true ↔ ∃ kind line, p = missingEnd kind line := by
  rw [Text.startsWith, List.isPrefixOf_iff_prefix]
  constructor
  · rintro ⟨rest, hrest⟩
    refine eq_missingEnd_of_head h ?_
    rw [← hrest]
    rfl
  · rintro ⟨kind, line, rfl⟩
    have hmessage : (missingEnd kind line).message =
        "missing `@end` for ".toList ++ kind.describe ++ " on line ".toList ++ Text.ofNat line ++
          ", unexpected end of input".toList := rfl
    rw [hmessage]
    simp only [List.append_assoc]
    exact List.prefix_append _ _

end Problem

end Stencil
