import Mathlib.Data.List.DropRight
import Stencil.Proofs.Document.Transition

/-!
# What single tokens may say

Which payloads the directives accept, said without the functions that read them: a declaration is
a name and something behind a gap, a call starts with a dotted name, a loop has three words. The
payloads of a source are trimmed, which is why a name and its rest can be told apart this way.

`Token.IsStatement`, `IsDeclaration` and `IsOpener` are the tokens that a statement may consist of
or begin with. With them `Draft.Passes.advance` says what a token that reports nothing does: it is
the table of moves with all that is reported left out.
-/

set_option autoImplicit false

namespace Stencil

namespace Text

/-- Whether the text neither starts nor ends with a blank character. -/
def Trimmed (t : Text) : Prop :=
  t.trim = t

/-- The text before the first blank character. -/
def firstWord (t : Text) : Text :=
  t.takeWhile (!isBlank ·)

/-- The text is a name, a gap of blank characters and a rest. -/
def Pairs (t name rest : Text) : Prop :=
  ∃ gap, t = name ++ gap ++ rest ∧ (∀ c ∈ name, isBlank c = false) ∧ gap ≠ [] ∧
    (∀ c ∈ gap, isBlank c = true) ∧ rest ≠ [] ∧ rest.Trimmed

/-- Trimming drops the blanks at the start and then those at the end. -/
theorem trim_eq (t : Text) : t.trim = (t.dropWhile isBlank).rdropWhile isBlank := rfl

/-- A trimmed text does not start with a blank character, and it does not end with one. -/
theorem trimmed_iff {t : Text} :
    t.Trimmed ↔ t.dropWhile isBlank = t ∧ t.rdropWhile isBlank = t := by
  constructor
  · intro h
    rw [Trimmed, trim_eq] at h
    have hstart : t.dropWhile isBlank = t := by
      have hend := (List.rdropWhile_prefix isBlank (t.dropWhile isBlank)).length_le
      rw [h] at hend
      exact (List.dropWhile_suffix isBlank).eq_of_length_le hend
    rw [hstart] at h
    exact ⟨hstart, h⟩
  · rintro ⟨hstart, hend⟩
    rw [Trimmed, trim_eq, hstart, hend]

/-- A trimmed text is trimmed. -/
theorem trimmed_trim (t : Text) : t.trim.Trimmed := by
  rw [trimmed_iff, trim_eq, List.rdropWhile_idempotent]
  refine ⟨?_, rfl⟩
  obtain ⟨blanks, hblanks⟩ := List.rdropWhile_prefix isBlank (t.dropWhile isBlank)
  cases hc : (t.dropWhile isBlank).rdropWhile isBlank with
  | nil => rfl
  | cons c rest =>
    have hhead := List.head?_dropWhile_not isBlank t
    rw [← hblanks, hc, List.cons_append, List.head?_cons] at hhead
    exact List.dropWhile_cons_of_neg (by simp [hhead])

/-- The end of a trimmed text has no blank character at its end. -/
theorem Trimmed.rdropWhile_of_suffix {t rest : Text} (h : t.Trimmed) (hr : rest <:+ t) :
    rest.rdropWhile isBlank = rest := by
  have hend := List.rdropWhile_eq_self_iff.1 (trimmed_iff.1 h).2
  refine List.rdropWhile_eq_self_iff.2 fun hne => ?_
  obtain ⟨front, rfl⟩ := hr
  have hlast := hend (by simp [hne])
  rwa [List.getLast_append_of_ne_nil _ hne] at hlast

/-- The pieces of a trimmed text around its first gap. -/
theorem splitWord?_eq_some_iff {t name rest : Text} (ht : t.Trimmed) :
    t.splitWord? = some (name, rest) ↔ t.Pairs name rest := by
  constructor
  · intro h
    unfold splitWord? at h
    split at h
    · cases h
    · next c tail hdrop =>
      split at h
      · cases h
      · next hne =>
        cases h
        have hsplit : t = t.takeWhile (!isBlank ·) ++ c :: tail := by
          rw [← hdrop, List.takeWhile_append_dropWhile]
        have hblank : isBlank c = true := by
          have hhead := List.head?_dropWhile_not (!isBlank ·) t
          rw [hdrop, List.head?_cons] at hhead
          simpa using hhead
        -- Behind the gap nothing is left to trim, since the whole text ends the same way.
        have htail : Text.trim tail = tail.dropWhile isBlank := by
          rw [trim_eq]
          refine ht.rdropWhile_of_suffix ((List.dropWhile_suffix isBlank).trans ?_)
          exact ⟨t.takeWhile (!isBlank ·) ++ [c], by simpa using hsplit.symm⟩
        refine ⟨c :: tail.takeWhile isBlank, ?_, ?_, by simp, ?_, ?_, trimmed_trim tail⟩
        · calc t = t.takeWhile (!isBlank ·) ++ c :: tail := hsplit
            _ = t.takeWhile (!isBlank ·) ++
                c :: (tail.takeWhile isBlank ++ tail.dropWhile isBlank) := by
              rw [List.takeWhile_append_dropWhile]
            _ = t.takeWhile (!isBlank ·) ++ (c :: tail.takeWhile isBlank) ++ Text.trim tail := by
              rw [htail]
              simp
        · intro a ha
          simpa using List.mem_takeWhile_imp ha
        · intro a ha
          rcases List.mem_cons.1 ha with rfl | ha
          · exact hblank
          · exact List.mem_takeWhile_imp ha
        · simpa using hne
  · rintro ⟨gap, rfl, hname, hgap, hblank, hne, hrest⟩
    obtain ⟨c, gap, rfl⟩ := List.exists_cons_of_ne_nil hgap
    have hc : isBlank c = true := hblank c (by simp)
    have hpos : ∀ a ∈ name, (!isBlank a) = true := fun a ha => by simp [hname a ha]
    have hdrop : (name ++ (c :: gap) ++ rest).dropWhile (!isBlank ·) = c :: (gap ++ rest) := by
      rw [List.append_assoc, List.dropWhile_append_of_pos hpos]
      simp [hc]
    have htake : (name ++ (c :: gap) ++ rest).takeWhile (!isBlank ·) = name := by
      rw [List.append_assoc, List.takeWhile_append_of_pos hpos]
      simp [hc]
    have htrim : Text.trim (gap ++ rest) = rest := by
      rw [trim_eq, List.dropWhile_append_of_pos fun a ha => hblank a (by simp [ha]),
        (trimmed_iff.1 hrest).1, (trimmed_iff.1 hrest).2]
    rw [splitWord?, hdrop]
    simp only [htake, htrim]
    rw [if_neg (by simpa using hne)]

/-- Only blank characters are trimmed away as a whole. -/
theorem isBlank_of_trim_eq_nil {t : Text} (h : t.trim = []) : ∀ c ∈ t, isBlank c = true := by
  rw [trim_eq, List.rdropWhile_eq_nil_iff] at h
  have hnil : t.dropWhile isBlank = [] := by
    by_contra hne
    have hhead := List.head_dropWhile_not isBlank hne
    rw [h _ (List.head_mem hne)] at hhead
    exact absurd hhead (by decide)
  exact List.dropWhile_eq_nil_iff.1 hnil

/-- What stands before a gap is the first word. -/
theorem firstWord_of_splitWord?_eq_some {t name rest : Text}
    (h : t.splitWord? = some (name, rest)) : t.firstWord = name := by
  unfold splitWord? at h
  split at h
  · cases h
  · split at h <;> cases h
    rfl

/-- A trimmed text without a gap is a single word. -/
theorem firstWord_of_splitWord? {t : Text} (ht : t.Trimmed) (h : t.splitWord? = none) :
    t.firstWord = t := by
  unfold splitWord? at h
  split at h
  · next hdrop => exact List.takeWhile_eq_self_iff.2 (List.dropWhile_eq_nil_iff.1 hdrop)
  · next c tail hdrop =>
    split at h
    · next hnil =>
      -- The text would end with the gap, but it is trimmed.
      have hsuffix : c :: tail <:+ t := hdrop ▸ List.dropWhile_suffix _
      have hblank : isBlank c = true := by
        have hhead := List.head?_dropWhile_not (!isBlank ·) t
        rw [hdrop, List.head?_cons] at hhead
        simpa using hhead
      have hend := ht.rdropWhile_of_suffix hsuffix
      rw [List.rdropWhile_eq_nil_iff.2 (List.forall_mem_cons.2
        ⟨hblank, isBlank_of_trim_eq_nil (by simpa using hnil)⟩)] at hend
      cases hend
    · cases h

end Text

/-! ## Payloads -/

namespace Payload

/-- A name and a type. -/
def IsArgument [Alphabet] (payload : Text) : Prop :=
  ∃ name type, payload.Pairs name type ∧ name.isIdentifier = true

/-- A name and a type, with or without a default. -/
def IsContext [Alphabet] (payload : Text) : Prop :=
  ∃ name rest, payload.Pairs name rest ∧ name.isIdentifier = true ∧ (splitDefault rest).1 ≠ [] ∧
    (splitDefault rest).2 ≠ some []

/-- A path. -/
def IsImport (payload : Text) : Prop :=
  importPath payload ≠ []

/-- The name of a template, with or without arguments. -/
def IsCall [Alphabet] (payload : Text) : Prop :=
  payload.firstWord.isDottedName = true

/-- Three words, the second of which is `in`. -/
def IsLoopHead (payload : Text) : Prop :=
  ∃ item collection : Text, payload.words = [item, "in".toList, collection]

/-- A reading without problems has succeeded. -/
theorem problems_eq_nil_iff {α : Type} {reading : Except Problem α} :
    problems reading = [] ↔ ∃ a, reading = .ok a := by
  cases reading with
  | ok a => simp [problems]
  | error q => simp [problems]

/-- A declaration is read exactly from an identifier, a gap and a rest. -/
theorem readDeclaration_eq_ok_iff [Alphabet] (directive : LineDirective) (incomplete : Problem)
    {payload name rest : Text} (ht : payload.Trimmed) :
    readDeclaration directive incomplete payload = .ok (name, rest) ↔
      payload.Pairs name rest ∧ name.isIdentifier = true := by
  rw [← Text.splitWord?_eq_some_iff ht, readDeclaration]
  split
  · next hnone => simp [hnone]
  · next n r hsome =>
    rw [hsome]
    split
    · next hid =>
      simp only [Except.ok.injEq, Option.some.injEq, Prod.mk.injEq]
      exact ⟨fun h => ⟨h, h.1 ▸ hid⟩, fun h => h.1⟩
    · next hid =>
      simp only [Option.some.injEq, Prod.mk.injEq, reduceCtorEq, false_iff]
      rintro ⟨⟨rfl, -⟩, hid'⟩
      exact hid hid'

/-- The payload of an argument has no problems exactly when it is a name and a type. -/
theorem problems_argument [Alphabet] (line : Nat) {payload : Text} (ht : payload.Trimmed) :
    problems (Argument.read line payload) = [] ↔ IsArgument payload := by
  simp only [IsArgument, ← readDeclaration_eq_ok_iff .argument .incompleteArgument ht,
    problems_eq_nil_iff, Argument.read]
  cases readDeclaration .argument .incompleteArgument payload with
  | error q => simp
  | ok pair => exact iff_of_true ⟨_, rfl⟩ ⟨pair.1, pair.2, rfl⟩

/-- The payload of a context variable has no problems exactly when it is a name and a type, with or
without a default. -/
theorem problems_context [Alphabet] (line : Nat) {payload : Text} (ht : payload.Trimmed) :
    problems (ContextVariable.read line payload) = [] ↔ IsContext payload := by
  simp only [IsContext, ← and_assoc, ← readDeclaration_eq_ok_iff .context .incompleteContext ht,
    problems_eq_nil_iff, ContextVariable.read]
  cases readDeclaration .context .incompleteContext payload with
  | error q => simp
  | ok pair =>
    obtain ⟨name, rest⟩ := pair
    by_cases htype : (splitDefault rest).1 = []
    · simp [htype]
    · by_cases hdefault : (splitDefault rest).2 = some []
      · simp [htype, hdefault]
      · simp [htype, hdefault]

/-- The payload of an import has no problems exactly when it is a path. -/
theorem problems_import (line : Nat) {payload : Text} :
    problems (Import.read line payload) = [] ↔ IsImport payload := by
  rw [problems_eq_nil_iff, Import.read, IsImport]
  by_cases h : importPath payload = []
  · simp [h]
  · simp [h]

/-- The payload of a call has no problems exactly when it starts with the name of a template. -/
theorem problems_call [Alphabet] (directive : LineDirective) {payload : Text}
    (ht : payload.Trimmed) :
    problems (Call.read directive payload) = [] ↔ IsCall payload := by
  have hread (call : Call) : (∃ a,
      (if call.template.isEmpty then .error (.missingTemplate directive)
      else if call.template.isDottedName then .ok call
      else .error (.invalidTemplate call.template) : Except Problem Call) = .ok a) ↔
      call.template.isDottedName = true := by
    split
    · next hnil =>
      rw [List.isEmpty_iff.1 hnil]
      simp [Text.isDottedName, Text.splitOn, Text.splitWhere, Text.isIdentifier]
    · split
      · next hdotted => exact iff_of_true ⟨call, rfl⟩ hdotted
      · next hdotted => exact iff_of_false (by simp) hdotted
  rw [problems_eq_nil_iff, IsCall, Call.read]
  cases hsplit : payload.splitWord? with
  | none =>
    rw [Text.firstWord_of_splitWord? ht hsplit]
    exact hread ⟨payload, none⟩
  | some pair =>
    obtain ⟨template, arguments⟩ := pair
    rw [Text.firstWord_of_splitWord?_eq_some hsplit]
    exact hread ⟨template, some arguments⟩

/-- The payload of a loop has no problems exactly when it is three words, the second of them
`in`. -/
theorem problems_loop {payload : Text} :
    problems (LoopHead.read payload) = [] ↔ IsLoopHead payload := by
  rw [problems_eq_nil_iff, LoopHead.read, IsLoopHead]
  split
  · next item separator collection hw =>
    rw [hw]
    by_cases h : separator = "in"
    · rw [if_pos h]
      exact iff_of_true ⟨_, rfl⟩ ⟨item, collection, by rw [h]⟩
    · rw [if_neg h]
      refine iff_of_false (by simp) ?_
      rintro ⟨i, c, hic⟩
      simp only [List.cons.injEq] at hic
      exact h hic.2.1
  · next hw =>
    simp only [reduceCtorEq, exists_false, false_iff]
    rintro ⟨item, collection, h⟩
    exact hw _ _ _ h

/-- The name of a content block has no problems exactly when it is an identifier. -/
theorem problems_contentName [Alphabet] (directive : LineDirective) {payload : Text} :
    problems (readContentName directive payload) = [] ↔ payload.isIdentifier = true := by
  rw [problems_eq_nil_iff, readContentName]
  cases payload with
  | nil => simp [Text.isIdentifier]
  | cons c payload =>
    rw [if_neg (by simp)]
    split
    · next hid => exact iff_of_true ⟨_, rfl⟩ hid
    · next hid => exact iff_of_false (by simp) hid

end Payload

/-! ## Tokens -/

namespace Token

/-- A statement of a single token. -/
def IsStatement [Alphabet] (t : Token) : Prop :=
  match t.kind with
  | .literal => True
  | .display _ => t.text ≠ []
  | .line .inclusion => Payload.IsCall t.text
  | .line .yield => t.text.isIdentifier = true
  | _ => False

/-- A token that declares something. -/
def IsDeclaration [Alphabet] (t : Token) : Prop :=
  match t.kind with
  | .line .argument => Payload.IsArgument t.text
  | .line .context => Payload.IsContext t.text
  | .line .importing => Payload.IsImport t.text
  | _ => False

/-- A token that a longer statement begins with. -/
def IsOpener [Alphabet] (t : Token) : Prop :=
  match t.kind with
  | .line .condition => t.text ≠ []
  | .line .loop => Payload.IsLoopHead t.text
  | .line .extension => Payload.IsCall t.text
  | .verbatim _ => True
  | _ => False

/-- The payload of a line directive is trimmed. -/
def Trimmed (t : Token) : Prop :=
  ∀ directive, t.kind = .line directive → t.text.Trimmed

end Token

/-- Whether a block of this sort becomes a node when it is closed. -/
def Frame.Lasting : Frame → Prop
  | .loop head? => head? ≠ none
  | .extension call? => call? ≠ none
  | .strayContent => False
  | _ => True

/-- A block that lasts becomes a node. -/
theorem OpenBlock.node?_ne_none {b : OpenBlock} (h : b.frame.Lasting) : b.node? ≠ none := by
  unfold node?
  cases hf : b.frame with
  | strayContent => exact absurd h (by simp [hf, Frame.Lasting])
  | loop head? => simpa [hf, Frame.Lasting] using h
  | extension call? => simpa [hf, Frame.Lasting] using h
  | _ => simp

namespace Draft

/-- The payload of a token that may come next is trimmed. -/
theorem Follows.trimmed {d : Draft} {t : Token} (h : d.Follows t) : t.Trimmed := by
  intro directive hk
  obtain ⟨inBody, spelling, hspells⟩ := h.spelled
  rw [hk] at hspells
  obtain ⟨payload, -, htext⟩ := hspells
  rw [htext]
  exact Text.trimmed_trim payload

end Draft

/-- The tokens of a source are trimmed. -/
theorem trimmed_tokenize [Alphabet] (source : Text) : ∀ t ∈ (tokenize source).tokens, t.Trimmed :=
  (Draft.read_induction (P := fun _ read => ∀ t ∈ read, t.Trimmed) source (by simp)
    fun _ _ _ h ih => List.forall_mem_append.2 ⟨ih, by simpa using h.trimmed⟩).1

namespace Draft

/-- Whether the action declares something. -/
def Action.Declares : Action → Prop
  | .argument _ | .context _ | .importing _ => True
  | _ => False

/-- A reading without problems leads to an action on what was read. -/
theorem ofReading_of_problems {α : Type} {reading : Except Problem α} (act : α → Action)
    (h : problems reading = []) : ∃ a, Move.ofReading reading act = ⟨[], act a⟩ := by
  obtain ⟨a, rfl⟩ := Payload.problems_eq_nil_iff.1 h
  exact ⟨a, rfl⟩

/-- A statement of a single token adds a node. -/
theorem statementMove_of_isStatement [Alphabet] {t : Token} (ht : t.Trimmed) (h : t.IsStatement)
    (atRoot : Bool) : ∃ kind, statementMove atRoot t = ⟨[], .leaf kind⟩ := by
  unfold Token.IsStatement at h
  split at h
  · next hk => exact ⟨.literal, by simp [statementMove, hk]⟩
  · next how hk => exact ⟨.display how, by simp [statementMove, hk, h]⟩
  · next hk =>
    simp only [statementMove, hk]
    obtain ⟨call, hcall⟩ :=
      ofReading_of_problems _ ((Payload.problems_call .inclusion (ht _ hk)).2 h)
    exact ⟨_, hcall⟩
  · next hk =>
    simp only [statementMove, hk]
    obtain ⟨name, hname⟩ := ofReading_of_problems _ ((Payload.problems_contentName .yield).2 h)
    exact ⟨_, hname⟩
  · exact h.elim

/-- At the root a declaration declares something. -/
theorem statementMove_of_isDeclaration [Alphabet] {t : Token} (ht : t.Trimmed)
    (h : t.IsDeclaration) :
    ∃ a, Action.Declares a ∧ statementMove true t = ⟨[], a⟩ := by
  unfold Token.IsDeclaration at h
  split at h
  · next hk =>
    obtain ⟨a, ha⟩ := ofReading_of_problems .argument
      ((Payload.problems_argument t.position.line (ht _ hk)).2 h)
    exact ⟨.argument a, trivial, by simpa [statementMove, hk, declarationMove] using ha⟩
  · next hk =>
    obtain ⟨c, hc⟩ := ofReading_of_problems .context
      ((Payload.problems_context t.position.line (ht _ hk)).2 h)
    exact ⟨.context c, trivial, by simpa [statementMove, hk, declarationMove] using hc⟩
  · next hk =>
    obtain ⟨i, hi⟩ := ofReading_of_problems .importing
      ((Payload.problems_import t.position.line).2 h)
    exact ⟨.importing i, trivial, by simpa [statementMove, hk, declarationMove] using hi⟩
  · exact h.elim

/-- An opener opens a block that will become a node. -/
theorem statementMove_of_isOpener [Alphabet] {t : Token} (ht : t.Trimmed) (h : t.IsOpener)
    (atRoot : Bool) :
    ∃ frame, Frame.Lasting frame ∧ frame.kind = t.kind ∧
      statementMove atRoot t = ⟨[], .begin frame⟩ := by
  unfold Token.IsOpener at h
  split at h
  · next hk => exact ⟨.condition, trivial, hk.symm, by simp [statementMove, hk, h]⟩
  · next hk =>
    obtain ⟨head, hhead⟩ := Payload.problems_eq_nil_iff.1 (Payload.problems_loop.2 h)
    exact ⟨.loop (some head), by simp [Frame.Lasting], hk.symm,
      by simp [statementMove, hk, hhead, problems, Except.toOption]⟩
  · next hk =>
    obtain ⟨call, hcall⟩ :=
      Payload.problems_eq_nil_iff.1 ((Payload.problems_call .extension (ht _ hk)).2 h)
    exact ⟨.extension (some call), by simp [Frame.Lasting], hk.symm,
      by simp [statementMove, hk, hcall, problems, Except.toOption]⟩
  · next v hk => exact ⟨.verbatim v, trivial, hk.symm, by simp [statementMove, hk]⟩
  · exact h.elim

/-- A statement that reports nothing is one of those tokens. -/
theorem statementMove_silent [Alphabet] {t : Token} {atRoot : Bool} (ht : t.Trimmed)
    (hend : t.kind ≠ .endOfInput) (h : (statementMove atRoot t).problems = []) :
    t.IsStatement ∨ atRoot = true ∧ t.IsDeclaration ∨ t.IsOpener := by
  have hdeclaration {α : Type} {directive : LineDirective} {reading : Except Problem α}
      {act : α → Action} (hd : (declarationMove atRoot directive reading act).problems = []) :
      atRoot = true ∧ problems reading = [] := by
    unfold declarationMove at hd
    split at hd
    · next hroot => exact ⟨hroot, by rwa [problems_ofReading] at hd⟩
    · simp at hd
  cases hk : t.kind with
  | line directive =>
    cases directive with
    | argument =>
      simp only [statementMove, hk] at h
      obtain ⟨hroot, hreading⟩ := hdeclaration h
      refine Or.inr (Or.inl ⟨hroot, ?_⟩)
      simp only [Token.IsDeclaration, hk]
      exact (Payload.problems_argument _ (ht _ hk)).1 hreading
    | context =>
      simp only [statementMove, hk] at h
      obtain ⟨hroot, hreading⟩ := hdeclaration h
      refine Or.inr (Or.inl ⟨hroot, ?_⟩)
      simp only [Token.IsDeclaration, hk]
      exact (Payload.problems_context _ (ht _ hk)).1 hreading
    | importing =>
      simp only [statementMove, hk] at h
      obtain ⟨hroot, hreading⟩ := hdeclaration h
      refine Or.inr (Or.inl ⟨hroot, ?_⟩)
      simp only [Token.IsDeclaration, hk]
      exact (Payload.problems_import _).1 hreading
    | inclusion =>
      simp only [statementMove, hk, problems_ofReading] at h
      refine Or.inl ?_
      simp only [Token.IsStatement, hk]
      exact (Payload.problems_call _ (ht _ hk)).1 h
    | yield =>
      simp only [statementMove, hk, problems_ofReading] at h
      refine Or.inl ?_
      simp only [Token.IsStatement, hk]
      exact (Payload.problems_contentName _).1 h
    | extension =>
      simp only [statementMove, hk] at h
      refine Or.inr (Or.inr ?_)
      simp only [Token.IsOpener, hk]
      exact (Payload.problems_call _ (ht _ hk)).1 h
    | loop =>
      simp only [statementMove, hk] at h
      refine Or.inr (Or.inr ?_)
      simp only [Token.IsOpener, hk]
      exact Payload.problems_loop.1 h
    | condition =>
      refine Or.inr (Or.inr ?_)
      simp only [Token.IsOpener, hk]
      rintro hnil
      simp [statementMove, hk, hnil] at h
    | content => simp [statementMove, hk] at h
  | literal => exact Or.inl (by simp [Token.IsStatement, hk])
  | display how =>
    refine Or.inl ?_
    simp only [Token.IsStatement, hk]
    rintro hnil
    simp [statementMove, hk, hnil] at h
  | verbatim v => exact Or.inr (Or.inr (by simp [Token.IsOpener, hk]))
  | endOfInput => exact absurd hk hend
  | illegal | otherwise | close => simp [statementMove, hk] at h

/-- A content block has a name that no other one has. -/
theorem problems_slotName [Alphabet] {slots : List Node} {name : Text} :
    problems (slotName slots name) = [] ↔
      name.isIdentifier = true ∧ ∀ n ∈ slots, n.kind ≠ .slot name := by
  rw [← Payload.problems_contentName .content, Payload.problems_eq_nil_iff,
    Payload.problems_eq_nil_iff, slotName]
  cases hread : readContentName .content name with
  | error problem => simp
  | ok read =>
    have hname : read = name := by
      unfold readContentName at hread
      split at hread
      · cases hread
      · split at hread <;> cases hread
        rfl
    subst hname
    simp only
    split
    · next hany =>
      refine iff_of_false (by simp) fun h => ?_
      obtain ⟨n, hn, hkind⟩ := List.any_eq_true.1 hany
      exact h.2 n hn (of_decide_eq_true hkind)
    · next hany =>
      refine iff_of_true ⟨_, rfl⟩ ⟨⟨_, rfl⟩, fun n hn hkind => hany ?_⟩
      exact List.any_eq_true.2 ⟨n, hn, decide_eq_true hkind⟩

/-! ## Tokens that report nothing -/

/-- Whether statements may stand directly inside of the innermost block, or at the root. -/
def TakesStatements (top? : Option OpenBlock) : Prop :=
  ∀ b, top? = some b → b.frame.takesStatements = true

/-- What a token that reports nothing does, by the innermost block. -/
inductive Advance [Alphabet] (top? : Option OpenBlock) (t : Token) : Action → Prop
  | statement (htop : TakesStatements top?) (ht : t.IsStatement) (kind : NodeKind) :
      Advance top? t (.leaf kind)
  | declaration (htop : top? = none) (ht : t.IsDeclaration) {a : Action} (ha : a.Declares) :
      Advance top? t a
  /-- The start of a longer statement. -/
  | opener (htop : TakesStatements top?) (ht : t.IsOpener) {frame : Frame} (hl : frame.Lasting)
      (hk : frame.kind = t.kind) : Advance top? t (.begin frame)
  | turn {b : OpenBlock} (htop : top? = some b) (hf : b.frame = .condition)
      (hk : t.kind = .otherwise) : Advance top? t .turn
  | close {b : OpenBlock} (htop : top? = some b) (hk : t.kind = .close) : Advance top? t .close
  /-- Blanks between content blocks. -/
  | blank {b : OpenBlock} {call? : Option Call} (htop : top? = some b)
      (hf : b.frame = .extension call?) (hk : t.kind = .literal) (ht : t.text.allBlank = true) :
      Advance top? t .skip
  | slot {b : OpenBlock} {call? : Option Call} (htop : top? = some b)
      (hf : b.frame = .extension call?) (hk : t.kind = .line .content)
      (ht : t.text.isIdentifier = true) (hnew : ∀ n ∈ b.body, n.kind ≠ .slot t.text) :
      Advance top? t (.begin (.slot t.text))
  /-- The body of a verbatim block. -/
  | body {b : OpenBlock} {v : Verbatim} (htop : top? = some b) (hf : b.frame = .verbatim v)
      (hempty : b.body = []) (hk : t.kind = .literal) : Advance top? t (.leaf .verbatimText)

/-- A statement that reports nothing. -/
theorem advance_statementMove [Alphabet] {top? : Option OpenBlock} {t : Token} {atRoot : Bool}
    (htop : TakesStatements top?) (hroot : atRoot = true → top? = none) (ht : t.Trimmed)
    (hend : t.kind ≠ .endOfInput) (h : (statementMove atRoot t).problems = []) :
    Advance top? t (statementMove atRoot t).action := by
  rcases statementMove_silent ht hend h with hs | ⟨rfl, hd⟩ | ho
  · obtain ⟨kind, hmove⟩ := statementMove_of_isStatement ht hs atRoot
    rw [hmove]
    exact .statement htop hs kind
  · obtain ⟨a, ha, hmove⟩ := statementMove_of_isDeclaration ht hd
    rw [hmove]
    exact .declaration (hroot rfl) hd ha
  · obtain ⟨frame, hl, hk, hmove⟩ := statementMove_of_isOpener ht ho atRoot
    rw [hmove]
    exact .opener htop ho hl hk

/-- A token directly inside of an `@extend` that reports nothing. -/
theorem advance_extensionMove [Alphabet] {b : OpenBlock} {call? : Option Call}
    (hf : b.frame = .extension call?) {t : Token} (h : (extensionMove b.body t).problems = []) :
    Advance (some b) t (extensionMove b.body t).action := by
  cases hk : t.kind with
  | close =>
    simp only [extensionMove, hk]
    exact .close rfl hk
  | literal =>
    simp only [extensionMove, hk] at h ⊢
    split at h
    · next hblank => exact .blank rfl hf hk hblank
    · cases h
  | line directive =>
    cases directive with
    | content =>
      simp only [extensionMove, hk] at h ⊢
      obtain ⟨hid, hnew⟩ := problems_slotName.1 h
      exact .slot rfl hf hk hid hnew
    | _ => simp [extensionMove, hk] at h
  | _ => simp [extensionMove, hk] at h

/-- What a token that reports nothing does. -/
theorem Passes.advance [Alphabet] {d : Draft} {t : Token} (h : d.Passes t) :
    Advance d.blocks.head? t (move d.blocks.head? t).action := by
  have hproblems := h.problems
  cases hb : d.blocks with
  | nil =>
    rw [hb] at hproblems
    exact advance_statementMove (fun b hb => by cases hb) (fun _ => rfl) h.trimmed h.notEnd
      hproblems
  | cons b outer =>
    rw [hb] at hproblems
    rw [List.head?_cons] at hproblems ⊢
    cases hf : b.frame with
    | verbatim v =>
      rw [move_verbatim hf h.notEnd]
      rcases h.kind_of_verbatim hb hf with ⟨hk, hempty⟩ | hk
      · simp only [verbatimMove, hk]
        exact .body rfl hf hempty hk
      · simp only [verbatimMove, hk]
        exact .close rfl hk
    | extension call? =>
      rw [move_extension hf h.notEnd] at hproblems ⊢
      exact advance_extensionMove hf hproblems
    | condition | otherwise _ _ | loop _ | slot _ | strayContent =>
      have htakes : b.frame.takesStatements = true := by rw [hf]; rfl
      rcases move_cases htakes h.notEnd with ⟨hk, hmove⟩ | ⟨hc, hk, hmove⟩ | ⟨-, -, hmove⟩
      · rw [hmove]
        exact .close rfl hk
      · rw [hmove]
        exact .turn rfl hc hk
      · rw [hmove] at hproblems ⊢
        refine advance_statementMove (fun c hc => ?_) (by simp) h.trimmed h.notEnd hproblems
        rwa [← Option.some.inj hc]

end Draft

end Stencil
