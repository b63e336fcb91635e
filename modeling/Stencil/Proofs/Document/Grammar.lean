import Stencil.Proofs.Document.Nesting
import Stencil.Proofs.Document.Terminal

/-!
# The grammar of templates

The grammar is over tokens, since which text is which token does not depend on what the tokens
mean. `Derives` has one rule for each way in which a construct is written; what a single token
must say is left to the predicates on tokens. The names of the content blocks of an `@extend` are
kept with its body, so that a name can be required to be new.

By induction on derivations, tokens that the grammar derives are in place, each in a block that it
may stand in, and all blocks that they open are closed again (`Derives.orderly`).
-/

set_option autoImplicit false

namespace Stencil

/-- The constructs of a template. An item is what may stand at the root: a declaration, a function
block or a statement. The slots are the body of an `@extend` whose content blocks have these
names. -/
inductive Nonterminal
  | template
  | item
  | statements
  | statement
  | slots (names : List Text)

/-- The tokens may stand between the opener of a verbatim block and its `@end`. -/
def VerbatimBody (ts : List Token) : Prop :=
  ts = [] ∨ ∃ t, t.kind = .literal ∧ ts = [t]

/-- `Derives construct tokens`: the tokens are written as the construct. -/
inductive Derives [Alphabet] : Nonterminal → List Token → Prop
  | empty : Derives .template []
  /-- Another item at the end of a template. -/
  | snocItem {ts us : List Token} (ht : Derives .template ts) (hu : Derives .item us) :
      Derives .template (ts ++ us)
  /-- `@arg`, `@context` or `@import` -/
  | declaration {t : Token} (ht : t.IsDeclaration) : Derives .item [t]
  /-- `@func` … `@end` -/
  | function {o e : Token} {body : List Token} (ho : o.kind = .verbatim .function)
      (hb : VerbatimBody body) (he : e.kind = .close) : Derives .item (o :: body ++ [e])
  | item {ts : List Token} (ht : Derives .statement ts) : Derives .item ts
  | none : Derives .statements []
  /-- Another statement at the end of a body. -/
  | snoc {ts us : List Token} (ht : Derives .statements ts) (hu : Derives .statement us) :
      Derives .statements (ts ++ us)
  /-- Text, a display, `@include` or `@yield` -/
  | single {t : Token} (ht : t.IsStatement) : Derives .statement [t]
  /-- `@code` … `@end` or `@text` … `@end` -/
  | verbatim {o e : Token} {v : Verbatim} {body : List Token} (ho : o.kind = .verbatim v)
      (hv : v ≠ .function) (hb : VerbatimBody body) (he : e.kind = .close) :
      Derives .statement (o :: body ++ [e])
  /-- `@if` … `@end` -/
  | condition {o e : Token} {ss : List Token} (ho : o.kind = .line .condition) (hp : o.text ≠ [])
      (hs : Derives .statements ss) (he : e.kind = .close) : Derives .statement (o :: ss ++ [e])
  /-- `@if` … `@else` … `@end` -/
  | alternative {o a e : Token} {ss us : List Token} (ho : o.kind = .line .condition)
      (hp : o.text ≠ []) (hs : Derives .statements ss) (ha : a.kind = .otherwise)
      (hu : Derives .statements us) (he : e.kind = .close) :
      Derives .statement (o :: ss ++ a :: us ++ [e])
  /-- `@for` … `@end` -/
  | loop {o e : Token} {ss : List Token} (ho : o.kind = .line .loop)
      (hp : Payload.IsLoopHead o.text) (hs : Derives .statements ss) (he : e.kind = .close) :
      Derives .statement (o :: ss ++ [e])
  /-- `@extend` … `@end` -/
  | extension {o e : Token} {names : List Text} {ss : List Token} (ho : o.kind = .line .extension)
      (hp : Payload.IsCall o.text) (hs : Derives (.slots names) ss) (he : e.kind = .close) :
      Derives .statement (o :: ss ++ [e])
  | noSlots : Derives (.slots []) []
  /-- Blanks behind content blocks. -/
  | blank {names : List Text} {ts : List Token} {t : Token} (ht : Derives (.slots names) ts)
      (hk : t.kind = .literal) (hp : t.text.allBlank = true) : Derives (.slots names) (ts ++ [t])
  /-- Another content block: `@content` … `@end` -/
  | slot {names : List Text} {ts ss : List Token} {o e : Token} (ht : Derives (.slots names) ts)
      (ho : o.kind = .line .content) (hp : o.text.isIdentifier = true) (hn : o.text ∉ names)
      (hs : Derives .statements ss) (he : e.kind = .close) :
      Derives (.slots (names ++ [o.text])) (ts ++ (o :: ss ++ [e]))

/-! ## Derived tokens are in place -/

/-- Whether the token may meet the stack: nothing illegal, no `@end` or `@else` of no block,
content blocks in `@extend`, declarations and functions at the root. -/
def InPlace (m : List Token × Token) : Prop :=
  match m.2.kind with
  | .illegal | .endOfInput => False
  | .otherwise => Nesting.Inside (.line .condition) m.1
  | .close => m.1 ≠ []
  | .line .content => Nesting.Inside (.line .extension) m.1
  | .line .argument | .line .context | .line .importing | .verbatim .function => m.1 = []
  | _ => True

namespace Nesting

/-- Whether the construct may stand where the stack is open. -/
def Allows (stack : List Token) : Nonterminal → Prop
  | .template | .item => stack = []
  | .statements | .statement => True
  | .slots _ => Inside (.line .extension) stack

/-- The tokens are in place and leave the stack as it is. -/
structure Orderly (stack ts : List Token) : Prop where
  /-- Every token is in place. -/
  inPlace : ∀ m ∈ meetings stack ts, InPlace m
  /-- All blocks are closed again. -/
  balanced : ts.foldl step stack = stack

/-- No tokens are orderly. -/
theorem Orderly.nil (stack : List Token) : Orderly stack [] :=
  ⟨by simp [meetings], rfl⟩

/-- Orderly tokens behind orderly tokens are orderly. -/
theorem Orderly.append {stack ts us : List Token} (ht : Orderly stack ts) (hu : Orderly stack us) :
    Orderly stack (ts ++ us) := by
  refine ⟨?_, ?_⟩
  · rw [meetings_append, ht.balanced]
    exact List.forall_mem_append.2 ⟨ht.inPlace, hu.inPlace⟩
  · rw [List.foldl_append, ht.balanced, hu.balanced]

/-- A token that opens and closes nothing. -/
theorem Orderly.single {stack : List Token} {t : Token}
    (h : InPlace (stack, t) ∧ t.kind.opensBlock = false ∧ t.kind ≠ .close ∧ t.kind ≠ .otherwise) :
    Orderly stack [t] := by
  obtain ⟨hp, ho, hc, he⟩ := h
  exact ⟨by simpa [meetings] using hp, by simp [step, ho, hc, he]⟩

/-- An opener is pushed on the stack. -/
theorem step_opener {stack : List Token} {o : Token} (ho : o.kind.opensBlock = true) :
    step stack o = o :: stack := by
  simp [step, ho]

/-- An `@end` takes the innermost opener from the stack. -/
theorem step_close {stack : List Token} {e : Token} (he : e.kind = .close) :
    step stack e = stack.tail := by
  simp [step, he, TokenKind.opensBlock]

/-- A block is in place if its opener and its body are. -/
theorem Orderly.block {stack ss : List Token} {o e : Token} (hp : InPlace (stack, o))
    (ho : o.kind.opensBlock = true) (hs : Orderly (o :: stack) ss) (he : e.kind = .close) :
    Orderly stack (o :: ss ++ [e]) := by
  refine ⟨?_, ?_⟩
  · rw [List.cons_append, meetings, step_opener ho, meetings_append, hs.balanced]
    refine List.forall_mem_cons.2 ⟨hp, List.forall_mem_append.2 ⟨hs.inPlace, ?_⟩⟩
    simp [meetings, InPlace, he]
  · rw [List.cons_append, List.foldl_cons, step_opener ho, List.foldl_append, hs.balanced]
    exact step_close he

/-- So is a condition with an alternative, whose `@else` stands in for the `@if`. -/
theorem Orderly.alternative {stack ss us : List Token} {o a e : Token}
    (ho : o.kind = .line .condition) (hs : Orderly (o :: stack) ss) (ha : a.kind = .otherwise)
    (hu : Orderly (a :: stack) us) (he : e.kind = .close) :
    Orderly stack (o :: ss ++ a :: us ++ [e]) := by
  have hopens : o.kind.opensBlock = true := by rw [ho]; rfl
  have hinside : Inside (.line .condition) (o :: stack) := by simp [Inside, ho]
  have hturn : step (o :: stack) a = a :: stack := by
    simp [step, ha, TokenKind.opensBlock, hinside]
  have hlist : o :: ss ++ a :: us ++ [e] = o :: (ss ++ a :: (us ++ [e])) := by simp
  rw [hlist]
  refine ⟨?_, ?_⟩
  · rw [meetings, step_opener hopens, meetings_append, hs.balanced, meetings, hturn,
      meetings_append, hu.balanced]
    refine List.forall_mem_cons.2 ⟨by simp [InPlace, ho], List.forall_mem_append.2
      ⟨hs.inPlace, List.forall_mem_cons.2 ⟨by simpa [InPlace, ha] using hinside,
        List.forall_mem_append.2 ⟨hu.inPlace, ?_⟩⟩⟩⟩
    simp [meetings, InPlace, he]
  · rw [List.foldl_cons, step_opener hopens, List.foldl_append, hs.balanced, List.foldl_cons,
      hturn, List.foldl_append, hu.balanced]
    exact step_close he

/-- The body of a verbatim block is orderly anywhere. -/
theorem Orderly.verbatimBody {stack ts : List Token} (h : VerbatimBody ts) : Orderly stack ts := by
  rcases h with rfl | ⟨t, hk, rfl⟩
  · exact .nil stack
  · exact .single (by simp [InPlace, hk, TokenKind.opensBlock])

/-- A statement of one token is orderly anywhere. -/
theorem Orderly.statement [Alphabet] {stack : List Token} {t : Token} (h : t.IsStatement) :
    Orderly stack [t] := by
  unfold Token.IsStatement at h
  split at h
  · next hk => exact .verbatimBody (Or.inr ⟨t, hk, rfl⟩)
  · next how hk => exact .single (by simp [InPlace, hk, TokenKind.opensBlock])
  · next hk => exact .single (by simp [InPlace, hk, TokenKind.opensBlock])
  · next hk => exact .single (by simp [InPlace, hk, TokenKind.opensBlock])
  · exact h.elim

/-- A declaration is orderly at the root. -/
theorem Orderly.declaration [Alphabet] {t : Token} (h : t.IsDeclaration) : Orderly [] [t] := by
  unfold Token.IsDeclaration at h
  split at h
  · next hk => exact .single (by simp [InPlace, hk, TokenKind.opensBlock])
  · next hk => exact .single (by simp [InPlace, hk, TokenKind.opensBlock])
  · next hk => exact .single (by simp [InPlace, hk, TokenKind.opensBlock])
  · exact h.elim

end Nesting

/-- Whatever the grammar derives is in place. -/
theorem Derives.orderly [Alphabet] {construct : Nonterminal} {ts : List Token}
    (h : Derives construct ts) {stack : List Token} (hstack : Nesting.Allows stack construct) :
    Nesting.Orderly stack ts := by
  induction h generalizing stack with
  | empty | none | noSlots => exact .nil stack
  | snocItem _ _ iht ihu => exact (iht hstack).append (ihu hstack)
  | declaration ht =>
    cases hstack
    exact .declaration ht
  | function ho hb he =>
    cases hstack
    exact .block (by simp [InPlace, ho]) (by rw [ho]; rfl) (.verbatimBody hb) he
  | item _ ih => exact ih trivial
  | snoc _ _ iht ihu => exact (iht trivial).append (ihu trivial)
  | single ht => exact .statement ht
  | @verbatim o e v body ho hv hb he =>
    refine .block ?_ (by rw [ho]; rfl) (.verbatimBody hb) he
    cases v with
    | function => exact absurd rfl hv
    | code | text => simp [InPlace, ho]
  | condition ho hp _ he ih =>
    exact .block (by simp [InPlace, ho]) (by rw [ho]; rfl) (ih trivial) he
  | alternative ho hp _ ha _ he ihs ihu => exact .alternative ho (ihs trivial) ha (ihu trivial) he
  | loop ho hp _ he ih =>
    exact .block (by simp [InPlace, ho]) (by rw [ho]; rfl) (ih trivial) he
  | extension ho hp _ he ih =>
    exact .block (by simp [InPlace, ho]) (by rw [ho]; rfl)
      (ih (by simp [Nesting.Allows, Nesting.Inside, ho])) he
  | blank _ hk hp ih =>
    exact (ih hstack).append (.verbatimBody (Or.inr ⟨_, hk, rfl⟩))
  | slot _ ho hp hn _ he iht ihs =>
    refine (iht hstack).append (.block ?_ (by rw [ho]; rfl) (ihs trivial) he)
    simpa [InPlace, ho, Nesting.Allows] using hstack

end Stencil
