import Stencil.Proofs.Token.Tiling

/-!
# The tokens account for the source

What the tiling of a source says about the spans of its tokens. Every span marks off a piece of
the source, which is the token's spelling; the pieces come in order and do not overlap; and
between two of them stands what the first token leaves behind and then complete comments
(`Accounts`). The end of the input is the only token without a spelling, and it stands behind the
last byte.

The text of a token follows from its sort and its spelling, with one distinction. In template
text `@@` spells a single `@`, but a verbatim body is never interpreted, so that a body `@@`
stands for itself.
-/

set_option autoImplicit false

namespace Stencil

/-- Whether the token behind the given ones follows the opener of a verbatim block. -/
def followsOpener (front : List Token) : Bool :=
  front.getLast?.any fun t => t.kind.opensVerbatim

/-- The tokens of a stream account for every byte of the source. -/
structure Accounts (source : Text) (s : TokenStream) : Prop where
  /-- A span is in bounds and marks off a piece of the source, which says what the token's text
  is and is empty for the end of the input only. -/
  spelled : ∀ front t back, s.toList = front ++ t :: back →
    t.span.start ≤ t.span.stop ∧ t.span.stop ≤ source.byteLength ∧
      ∃ spelling, source.within? t.span = some spelling ∧
        (spelling = [] ↔ t.kind = .endOfInput) ∧
        Spells (followsOpener front) t.kind t.text spelling
  /-- The spans are ordered and disjoint. -/
  ordered : s.toList.Pairwise fun a b => a.span.stop ≤ b.span.start
  /-- The end of the input comes last, and only there, behind the last byte. -/
  last : s.last.kind = .endOfInput ∧ s.last.span = ⟨source.byteLength, source.byteLength⟩ ∧
    ∀ t ∈ s.tokens, t.kind ≠ .endOfInput
  /-- In front of the first token stand complete comments. -/
  first : ∀ t back, s.toList = t :: back → ∃ comments rest,
    source.slice? 0 t.span.start = some comments ∧
      source.slice? t.span.start source.byteLength = some rest ∧ Comments rest comments
  /-- Between two tokens stand the residue of the first and complete comments. -/
  between : ∀ front a b back, s.toList = front ++ a :: b :: back →
    ∃ spelling residue comments rest, source.within? a.span = some spelling ∧
      source.slice? a.span.stop b.span.start = some (residue ++ comments) ∧
      source.slice? b.span.start source.byteLength = some rest ∧
      Residue (comments ++ rest) a.kind spelling residue ∧ Comments rest comments

namespace Tiles

variable {phase : Phase} {before source : Text} {tokens : List Token}

/-- The first token stands behind complete comments. -/
theorem head {t : Token} {back : List Token} (h : Tiles phase before source (t :: back)) :
    ∃ comments rest, source = comments ++ rest ∧ Comments rest comments ∧
      t.span.start = (before ++ comments).byteLength := by
  cases h with
  | last hcomments hkind htext hspan hposition =>
    exact ⟨source, [], by simp, hcomments, by rw [hspan]⟩
  | @cons _ _ comments spelling residue rest _ _ hcomments _ _ _ _ _ hspan _ _ =>
    exact ⟨comments, spelling ++ residue ++ rest, by simp, hcomments, by rw [hspan]⟩

/-- The tokens behind some of them tile the rest of the source. -/
theorem split {front back : List Token} {t : Token} (h : Tiles phase before source tokens)
    (ht : tokens = front ++ t :: back) :
    ∃ phase' before' source', before' ++ source' = before ++ source ∧
      Tiles phase' before' source' (t :: back) ∧
      (phase' = .opened ↔
        if front = [] then phase = .opened else followsOpener front = true) := by
  induction h generalizing front with
  | @last phase before comments u hcomments hkind htext hspan hposition =>
    cases front with
    | nil =>
      rw [List.nil_append] at ht
      rw [← ht]
      exact ⟨phase, before, comments, rfl, Tiles.last hcomments hkind htext hspan hposition,
        by simp⟩
    | cons v front => simp at ht
  | @cons phase before comments spelling residue rest u us hcomments hkind hadmits hspelling
      hspells hresidue hspan hposition htail ih =>
    cases front with
    | nil =>
      rw [List.nil_append] at ht
      rw [← ht]
      exact ⟨phase, before, _, rfl, Tiles.cons hcomments hkind hadmits hspelling hspells hresidue
        hspan hposition htail, by simp⟩
    | cons v front =>
      simp only [List.cons_append, List.cons.injEq] at ht
      obtain ⟨rfl, hback⟩ := ht
      obtain ⟨phase', before', source', happend, htiles, hphase⟩ := ih hback
      refine ⟨phase', before', source', by rw [happend]; simp, htiles, hphase.trans ?_⟩
      cases front with
      | nil => simp [followsOpener, Phase.after_eq_opened_iff]
      | cons w front => simp [followsOpener]

/-- No token starts before the source does. -/
theorem le_start (h : Tiles phase before source tokens) :
    ∀ t ∈ tokens, before.byteLength ≤ t.span.start := by
  induction h with
  | last hcomments hkind htext hspan hposition =>
    intro t ht
    rw [List.mem_singleton] at ht
    subst ht
    simp [hspan]
  | cons hcomments hkind hadmits hspelling hspells hresidue hspan hposition htail ih =>
    intro t ht
    rcases List.mem_cons.1 ht with rfl | ht
    · simp [hspan]
    · have hle := ih t ht
      simp only [Text.byteLength_append] at hle
      omega

/-- A token that others follow has a spelling, and they start behind it. -/
theorem pairwise_spans (h : Tiles phase before source tokens) :
    tokens.Pairwise fun a b => a.span.start < a.span.stop ∧ a.span.stop ≤ b.span.start := by
  induction h with
  | last hcomments hkind htext hspan hposition => exact List.pairwise_singleton _ _
  | @cons phase before comments spelling residue rest u us hcomments hkind hadmits hspelling
      hspells hresidue hspan hposition htail ih =>
    refine List.Pairwise.cons ?_ ih
    intro t ht
    have hpos : 0 < spelling.byteLength := Text.byteLength_pos hspelling
    have hle := htail.le_start t ht
    simp only [Text.byteLength_append] at hle
    simp only [hspan, Text.byteLength_append]
    omega

/-- The end of the input stands behind the source, and no other token is one. -/
theorem last_of_append {front : List Token} {t : Token}
    (h : Tiles phase before source (front ++ [t])) :
    t.kind = .endOfInput ∧
      t.span = ⟨(before ++ source).byteLength, (before ++ source).byteLength⟩ ∧
      ∀ u ∈ front, u.kind ≠ .endOfInput := by
  induction front generalizing phase before source with
  | nil =>
    cases h with
    | last hcomments hkind htext hspan hposition => exact ⟨hkind, hspan, by simp⟩
    | cons hcomments hkind hadmits hspelling hspells hresidue hspan hposition htail => cases htail
  | cons u front ih =>
    generalize hts : front ++ [t] = ts at h
    rw [List.cons_append, hts] at h
    cases h with
    | last hcomments hkind htext hspan hposition => simp at hts
    | cons hcomments hkind hadmits hspelling hspells hresidue hspan hposition htail =>
      subst hts
      obtain ⟨hlast, hspanLast, hfront⟩ := ih htail
      refine ⟨hlast, ?_, ?_⟩
      · rw [hspanLast]
        simp
      · intro v hv
        rcases List.mem_cons.1 hv with rfl | hv
        · exact hkind
        · exact hfront v hv

/-- The first token covers a piece of the source that spells it. -/
theorem spelled_head {t : Token} {back : List Token} (h : Tiles phase before source (t :: back)) :
    t.span.start ≤ t.span.stop ∧ t.span.stop ≤ (before ++ source).byteLength ∧
      ∃ spelling, (before ++ source).within? t.span = some spelling ∧
        (spelling = [] ↔ t.kind = .endOfInput) ∧
        Spells (phase = .opened) t.kind t.text spelling := by
  cases h with
  | last hcomments hkind htext hspan hposition =>
    refine ⟨by simp [hspan], by simp [hspan], [], ?_, by simp [hkind], ?_⟩
    · have hslice := Text.slice?_append (before ++ source) [] []
      simpa [Text.within?, hspan] using hslice
    · rw [hkind]
      exact ⟨rfl, htext⟩
  | @cons _ _ comments spelling residue rest _ _ hcomments hkind hadmits hspelling hspells hresidue
      hspan hposition htail =>
    refine ⟨by simp [hspan], by simp [hspan], spelling, ?_, by simp [hspelling, hkind], hspells⟩
    have hslice := Text.slice?_append (before ++ comments) spelling (residue ++ rest)
    simpa [Text.within?, hspan, Nat.add_assoc] using hslice

/-- Between the first two tokens stand the residue of the first and complete comments. -/
theorem between_heads {a b : Token} {back : List Token}
    (h : Tiles phase before source (a :: b :: back)) :
    ∃ spelling residue comments rest, (before ++ source).within? a.span = some spelling ∧
      (before ++ source).slice? a.span.stop b.span.start = some (residue ++ comments) ∧
      (before ++ source).slice? b.span.start (before ++ source).byteLength = some rest ∧
      Residue (comments ++ rest) a.kind spelling residue ∧ Comments rest comments := by
  cases h with
  | @cons _ _ comments spelling residue rest _ _ hcomments hkind hadmits hspelling hspells hresidue
      hspan hposition htail =>
    obtain ⟨comments', rest', rfl, hcomments', hstart⟩ := htail.head
    refine ⟨spelling, residue, comments', rest', ?_, ?_, ?_, hresidue, hcomments'⟩
    · have hslice := Text.slice?_append (before ++ comments) spelling
        (residue ++ comments' ++ rest')
      simpa [Text.within?, hspan, Nat.add_assoc] using hslice
    · have hslice := Text.slice?_append (before ++ comments ++ spelling) (residue ++ comments')
        rest'
      simpa [hspan, hstart, Nat.add_assoc] using hslice
    · have hslice := Text.slice?_append
        (before ++ comments ++ spelling ++ residue ++ comments') rest' []
      simpa [hstart, Nat.add_assoc] using hslice

end Tiles

/-- The tokens of a source account for every byte of it. -/
theorem tokenize_accounts (source : Text) : Accounts source (tokenize source) := by
  have htiles := tiles_tokenize source
  constructor
  case spelled =>
    intro front t back ht
    obtain ⟨phase, before, source', happend, htail, hphase⟩ := htiles.split ht
    have hopener : decide (phase = .opened) = followsOpener front := by
      cases front with
      | nil => simpa [followsOpener] using hphase
      | cons u front =>
        rw [if_neg (by simp)] at hphase
        rw [Bool.eq_iff_iff, decide_eq_true_iff, hphase]
    have hspelled := htail.spelled_head
    rwa [happend, List.nil_append, hopener] at hspelled
  case ordered => exact htiles.pairwise_spans.imp fun h => h.2
  case last => exact htiles.last_of_append
  case first =>
    intro t back ht
    rw [ht] at htiles
    obtain ⟨comments, rest, rfl, hcomments, hstart⟩ := htiles.head
    refine ⟨comments, rest, ?_, ?_, hcomments⟩
    · have hslice := Text.slice?_append [] comments rest
      simpa [hstart] using hslice
    · have hslice := Text.slice?_append comments rest []
      simpa [hstart] using hslice
  case between =>
    intro front a b back hab
    obtain ⟨phase, before, source', happend, htail, -⟩ := htiles.split hab
    have hbetween := htail.between_heads
    rwa [happend, List.nil_append] at hbetween

/-- The spelling alone does not say what a literal is: of these two tokens that are spelled `@@`,
the body of a verbatim block stands for itself and the other one for a single `@`. -/
theorem doubled_mark_read_two_ways :
    ∃ a ∈ (tokenize "@code@@@end@@").tokens, ∃ b ∈ (tokenize "@code@@@end@@").tokens,
      (a.kind = .literal ∧ Text.within? "@code@@@end@@" a.span = some "@@".toList ∧
        a.text = "@@") ∧
      (b.kind = .literal ∧ Text.within? "@code@@@end@@" b.span = some "@@".toList ∧
        b.text = "@") := by
  refine ⟨⟨.literal, "@@", ⟨1, 6⟩, ⟨5, 7⟩⟩, by decide +kernel,
    ⟨.literal, "@", ⟨1, 12⟩, ⟨11, 13⟩⟩, by decide +kernel, ?_, ?_⟩
  · decide +kernel
  · decide +kernel

end Stencil
