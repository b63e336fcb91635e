import Stencil.Compile
import Stencil.Proofs.Document.Report

/-!
# The order of reports

Most problems are reported at the token that has just been read, and tokens are read in the order
of the source. There is one exception. Whether a function block stands at the root is looked at
when the block is closed, and then its opener is reported. Inside of a verbatim block nothing else
is reported, so that an `@end` still comes in time (`Ordered.step`). The end of the input does not:
it reports the missing `@end` first and the opener behind it.

So the diagnostics of a document stand in the order of the source unless the input ends in a
function block inside of another block, and there the two reports of that block have to change
places (`reports_in_source_order`).
-/

set_option autoImplicit false

namespace Stencil

/-- The diagnostics stand in the order of their places in the source. -/
def InSourceOrder (ds : List Diagnostic) : Prop :=
  ds.Pairwise fun x y => x.span.start ≤ y.span.start

instance (ds : List Diagnostic) : Decidable (InSourceOrder ds) :=
  inferInstanceAs (Decidable (List.Pairwise _ _))

/-- Diagnostics at a later place can be put behind those in order. -/
theorem InSourceOrder.append {xs ys : List Diagnostic} {n : Nat} (h : InSourceOrder xs)
    (hxs : ∀ x ∈ xs, x.span.start ≤ n) (hys : ∀ y ∈ ys, y.span.start = n) :
    InSourceOrder (xs ++ ys) := by
  refine List.pairwise_append.2 ⟨h, ?_, ?_⟩
  · apply List.pairwise_of_forall_mem_list
    intro x hx y hy
    rw [hys x hx, hys y hy]
  · intro x hx y hy
    rw [hys y hy]
    exact hxs x hx

/-- The innermost of the open blocks, if it is a function block inside of another block. -/
def Nesting.innerFunction? : List Token → Option Token
  | opener :: _ :: _ => if opener.kind = .verbatim .function then some opener else none
  | _ => none

/-- A function block is the innermost inside of another exactly when its opener is on top of the
stack and not alone. -/
theorem Nesting.innerFunction?_eq_some_iff {stack : List Token} {opener : Token} :
    innerFunction? stack = some opener ↔
      ∃ next outer, stack = opener :: next :: outer ∧ opener.kind = .verbatim .function := by
  unfold innerFunction?
  split
  · next t next outer =>
    simp only [Option.ite_none_right_eq_some, Option.some.injEq, List.cons.injEq]
    constructor
    · rintro ⟨hk, rfl⟩
      exact ⟨next, outer, ⟨rfl, rfl, rfl⟩, hk⟩
    · rintro ⟨_, _, ⟨rfl, -⟩, hk⟩
      exact ⟨hk, rfl⟩
  · next hshort =>
    simp only [reduceCtorEq, false_iff]
    rintro ⟨next, outer, rfl, -⟩
    exact hshort _ _ _ rfl

namespace Draft

/-- The reports stand in order, and none of them is behind the opener of a verbatim block that is
open: when the block is closed, its opener may still be reported. -/
structure Ordered (d : Draft) : Prop where
  reports : InSourceOrder d.diagnostics
  waiting : ∀ h ∈ d.heads.head?, ∀ v, h.2 = .verbatim v → ∀ opener, h.1 = some opener →
    ∀ x ∈ d.diagnostics, x.span.start ≤ opener.span.start

/-- A verbatim block that is open behind a token of the template was opened by that token. -/
theorem Follows.opener_of_verbatim [Alphabet] {d : Draft} {t : Token} (h : d.Follows t)
    (htop : ∀ x ∈ d.heads.head?, ∀ v, x.2 ≠ .verbatim v) {x : Option Token × Frame}
    (hx : x ∈ (d.step t).heads.head?) {v : Verbatim} (hv : x.2 = .verbatim v) : x.1 = some t := by
  have hsuits := h.suits
  have hheads := heads_step d t
  cases ha : (move d.blocks.head? t).action with
  | begin frame =>
    rw [ha] at hheads
    rw [hheads] at hx
    obtain rfl : (some t, frame) = x := Option.some.inj hx
    rfl
  | close =>
    rw [ha] at hheads
    rw [hheads] at hx
    exact absurd hv (h.wellFormed.innermost x (List.mem_of_mem_head? hx) v)
  | turn =>
    rw [ha] at hsuits hheads
    obtain ⟨-, b, hb, -⟩ := hsuits
    obtain ⟨outer, hb⟩ := List.head?_eq_some_iff.1 hb
    simp only [hb] at hheads
    rw [hheads] at hx
    obtain rfl : (some t, _) = x := Option.some.inj hx
    rfl
  | skip | leaf _ | argument _ | context _ | importing _ =>
    rw [ha] at hheads
    rw [hheads] at hx
    exact absurd hv (htop x hx v)

/-- Outside of verbatim blocks a token reports at its own place. -/
theorem Ordered.step_template [Alphabet] {d : Draft} {t : Token} (hd : d.Ordered) (h : d.Follows t)
    (htop : ∀ x ∈ d.heads.head?, ∀ v, x.2 ≠ .verbatim v)
    (hbefore : ∀ x ∈ d.diagnostics, x.span.start ≤ t.span.start) : (d.step t).Ordered := by
  have hreports : (move d.blocks.head? t).action.reports d.blocks = [] := by
    unfold Action.reports
    split
    · exact closingReports_eq_nil htop
    · rfl
  have hdiagnostics : (d.step t).diagnostics =
      d.diagnostics ++ (move d.blocks.head? t).problems.map (.ofToken t) := by
    rw [diagnostics_step, hreports, List.append_nil]
  have hplace : ∀ x ∈ (move d.blocks.head? t).problems.map (Diagnostic.ofToken t),
      x.span.start = t.span.start := by
    intro x hx
    obtain ⟨p, -, rfl⟩ := List.mem_map.1 hx
    rfl
  constructor
  · rw [hdiagnostics]
    exact hd.reports.append hbefore hplace
  · intro x hx v hv opener ho y hy
    obtain rfl : opener = t :=
      Option.some.inj (ho.symm.trans (h.opener_of_verbatim htop hx hv))
    rw [hdiagnostics, List.mem_append] at hy
    rcases hy with hy | hy
    · exact hbefore y hy
    · exact (hplace y hy).le

/-- The `@end` of a verbatim block may report the opener of the block, and its body reports
nothing. -/
theorem Ordered.step_verbatim [Alphabet] {d : Draft} {t : Token} (hd : d.Ordered) (h : d.Follows t)
    {b : OpenBlock} {outer : List OpenBlock} (hb : d.blocks = b :: outer) {v : Verbatim}
    (hf : b.frame = .verbatim v) : (d.step t).Ordered := by
  have hmove : move d.blocks.head? t = verbatimMove t := by
    rw [hb]
    exact move_verbatim hf h.notEnd
  have hdiagnostics := diagnostics_step d t
  have hheads := heads_step d t
  rcases h.kind_of_verbatim hb hf with ⟨hk, -⟩ | hk
  · simp only [hmove, verbatimMove, hk, List.map_nil, Action.reports, List.append_nil]
      at hdiagnostics hheads
    exact ⟨hdiagnostics ▸ hd.reports, hdiagnostics ▸ hheads ▸ hd.waiting⟩
  · simp only [hmove, verbatimMove, hk, List.map_nil, Action.reports, List.append_nil]
      at hdiagnostics hheads
    constructor
    · rw [hdiagnostics]
      obtain ⟨opener, ho, -⟩ := h.wellFormed.opener hb
      refine hd.reports.append
        (hd.waiting (b.opener?, b.frame) (by simp [heads, hb]) v hf opener ho) ?_
      intro x hx
      obtain ⟨c, e, rest, opener', hc, -, ho', rfl⟩ := mem_closingReports hx
      obtain ⟨rfl, -⟩ := List.cons.inj (hb.symm.trans hc)
      obtain rfl : opener = opener' := Option.some.inj (ho.symm.trans ho')
      rfl
    · intro x hx v hv
      rw [hheads] at hx
      exact absurd hv (h.wellFormed.innermost x (List.mem_of_mem_head? hx) v)

/-- A token behind all that was reported keeps the reports in order. -/
theorem Ordered.step [Alphabet] {d : Draft} {t : Token} (hd : d.Ordered) (h : d.Follows t)
    (hbefore : ∀ x ∈ d.diagnostics, x.span.start ≤ t.span.start) : (d.step t).Ordered := by
  by_cases hv : ∃ b outer v, d.blocks = b :: outer ∧ b.frame = .verbatim v
  · obtain ⟨b, outer, v, hb, hf⟩ := hv
    exact hd.step_verbatim h hb hf
  · refine hd.step_template h (fun x hx v hxv => hv ?_) hbefore
    cases hb : d.blocks with
    | nil => simp [heads, hb] at hx
    | cons b outer =>
      rw [heads_of_cons hb] at hx
      obtain rfl : (b.opener?, b.frame) = x := Option.some.inj hx
      exact ⟨b, outer, v, rfl, hxv⟩

/-- What closing the innermost block reports can be told from the openers. -/
theorem closingReports_eq {d : Draft} (hd : d.WellFormed) :
    closingReports d.blocks =
      ((Nesting.innerFunction? d.openers).map fun t => .ofToken t .nestedFunction).toList := by
  cases hb : d.blocks with
  | nil => simp [hd.openers_eq_nil_iff.2 hb, Nesting.innerFunction?, closingReports]
  | cons b outer =>
    obtain ⟨opener, ho, hfits⟩ := hd.opener hb
    cases outer with
    | nil => simp [openers, heads, hb, ho, Nesting.innerFunction?, closingReports]
    | cons c outer =>
      obtain ⟨next, hnext, -⟩ := hd.fits (c.opener?, c.frame) (by simp [heads, hb])
      have hopeners : Nesting.innerFunction? d.openers =
          if b.frame.kind = .verbatim .function then some opener else none := by
        simp [openers, heads, hb, ho, show c.opener? = some next from hnext,
          Nesting.innerFunction?, hfits]
      rw [hopeners]
      cases hf : b.frame with
      | verbatim v => cases v <;> simp [closingReports, hf, ho, Frame.kind]
      | _ => simp [closingReports, hf, Frame.kind]

/-- Where the innermost block is no function block inside of another one, the end of the input
reports all open blocks at its own place. -/
theorem Ordered.finish_of_none {last : Token} {d : Draft} (hd : d.Ordered) (hwf : d.WellFormed)
    (hbefore : ∀ x ∈ d.diagnostics, x.span.start ≤ last.span.start)
    (hnone : Nesting.innerFunction? d.openers = none) :
    InSourceOrder (d.diagnostics ++ dueReports last d) := by
  have hplain : closingReports d.blocks = [] := by
    rw [closingReports_eq hwf, hnone]
    rfl
  rw [dueReports_of_plain hplain]
  refine hd.reports.append hbefore fun x hx => ?_
  obtain ⟨opener, -, rfl⟩ := List.mem_map.1 hx
  rfl

/-- A function block inside of another one is reported too late: its opener comes behind the end of
the input. -/
theorem Ordered.finish_of_some {last : Token} {d : Draft} (hd : d.Ordered) (hwf : d.WellFormed)
    {opener : Token} (hsome : Nesting.innerFunction? d.openers = some opener)
    (hlt : opener.span.start < last.span.start) :
    ∃ behind,
      dueReports last d =
        missingReport last opener :: .ofToken opener .nestedFunction :: behind ∧
      InSourceOrder (d.diagnostics ++
        .ofToken opener .nestedFunction :: missingReport last opener :: behind) := by
  obtain ⟨next, outer, hopeners, hkind⟩ := Nesting.innerFunction?_eq_some_iff.1 hsome
  have hclosing : closingReports d.blocks = [.ofToken opener .nestedFunction] := by
    rw [closingReports_eq hwf, hsome]
    rfl
  have hwaiting : ∀ x ∈ d.diagnostics, x.span.start ≤ opener.span.start := by
    have hmem : .ofToken opener .nestedFunction ∈ closingReports d.blocks := by simp [hclosing]
    obtain ⟨b, c, rest, opener', hb, hf, ho, heq⟩ := mem_closingReports hmem
    have hspan : opener.span = opener'.span := congrArg Diagnostic.span heq
    rw [hspan]
    exact hd.waiting (b.opener?, b.frame) (by simp [heads, hb]) .function hf opener' ho
  refine ⟨(next :: outer).map (missingReport last), ?_, ?_⟩
  · rw [dueReports, hopeners, hclosing]
    rfl
  · have hnested : InSourceOrder (d.diagnostics ++ [.ofToken opener .nestedFunction]) :=
      hd.reports.append hwaiting (by simp [Diagnostic.ofToken])
    have hsorted : InSourceOrder (d.diagnostics ++ [.ofToken opener .nestedFunction] ++
        (opener :: next :: outer).map (missingReport last)) := by
      refine hnested.append (n := last.span.start) ?_ ?_
      · intro x hx
        rcases List.mem_append.1 hx with hx | hx
        · exact (hwaiting x hx).trans hlt.le
        · rw [List.mem_singleton.1 hx]
          exact hlt.le
      · intro x hx
        obtain ⟨opener, -, rfl⟩ := List.mem_map.1 hx
        rfl
    rwa [List.append_assoc] at hsorted

/-- The order of all reports of a document. -/
theorem order_parse [Alphabet] (source : Text) :
    let s := tokenize source
    let ds := (Document.parse source).diagnostics
    let inner? := Nesting.innerFunction? (Nesting.remaining s.tokens)
    (inner? = none → InSourceOrder ds) ∧
      ∀ opener, inner? = some opener → opener.span.start < s.last.span.start ∧
        ∃ before behind,
          ds = before ++
            missingReport s.last opener :: .ofToken opener .nestedFunction :: behind ∧
          InSourceOrder (before ++
            .ofToken opener .nestedFunction :: missingReport s.last opener :: behind) := by
  intro s ds inner?
  have hpairs : (s.tokens ++ [s.last]).Pairwise fun a b => a.span.start < b.span.start :=
    (tiles_tokenize source).pairwise_spans.imp fun {a b} hab => by omega
  obtain ⟨hincreasing, -, hlast⟩ := List.pairwise_append.1 hpairs
  -- A token that is read stands behind all that has been read, and so behind all reports.
  obtain ⟨⟨hattributed, hordered⟩, hstack, hwf⟩ := stack_induction
    (P := fun d read => d.Attributed read ∧
      (read.Pairwise (fun a b => a.span.start < b.span.start) → d.Ordered)) source
    ⟨attributed_nil, fun _ => ⟨List.Pairwise.nil, by simp [heads]⟩⟩
    (by
      rintro d read t h - ⟨hattributed, hordered⟩
      refine ⟨hattributed.step h, fun hread => ?_⟩
      obtain ⟨hread, -, ht⟩ := List.pairwise_append.1 hread
      refine (hordered hread).step h fun x hx => ?_
      obtain ⟨u, hu, p, rfl, -⟩ := hattributed.diagnostics x hx
      exact (ht u hu t (List.mem_singleton_self t)).le)
  have hordered := hordered hincreasing
  have hdiagnostics : ds = _ := diagnostics_parse source
  have hbehind : ∀ t ∈ s.tokens, t.span.start < s.last.span.start := fun t ht =>
    hlast t ht s.last (List.mem_singleton_self _)
  have hinner : inner? = Nesting.innerFunction? (run {} s.tokens).openers := by
    rw [hstack]
  rw [hdiagnostics, hinner]
  constructor
  · intro hnone
    refine hordered.finish_of_none hwf (fun x hx => ?_) hnone
    obtain ⟨t, ht, p, rfl, -⟩ := hattributed.diagnostics x hx
    exact (hbehind t ht).le
  · intro opener hsome
    obtain ⟨next, outer, hopeners, -⟩ := Nesting.innerFunction?_eq_some_iff.1 hsome
    have hlt := hbehind opener (hattributed.openers opener (by rw [hopeners]; simp))
    obtain ⟨behind, hdue, hsorted⟩ := hordered.finish_of_some hwf hsome hlt
    exact ⟨hlt, _, behind, by rw [hdue], hsorted⟩

end Draft

/-- Of diagnostics in order, none is before the first. -/
theorem InSourceOrder.head_le {ds : List Diagnostic} (h : InSourceOrder ds) {x : Diagnostic}
    (hx : ds.head? = some x) : ∀ y ∈ ds, x.span.start ≤ y.span.start := by
  obtain ⟨ds, rfl⟩ := List.head?_eq_some_iff.1 hx
  exact List.forall_mem_cons.2 ⟨le_rfl, (List.pairwise_cons.1 h).1⟩

/-- If two neighbours have to change places for the order, then the first diagnostic is the earliest
unless it is the late one of the two. -/
theorem InSourceOrder.earliest_iff {before behind : List Diagnostic} {late early x : Diagnostic}
    (h : InSourceOrder (before ++ early :: late :: behind))
    (hlt : early.span.start < late.span.start)
    (hx : (before ++ late :: early :: behind).head? = some x) :
    (∀ y ∈ before ++ late :: early :: behind, x.span.start ≤ y.span.start) ↔ late ≠ x := by
  cases before with
  | nil =>
    obtain rfl : late = x := Option.some.inj hx
    refine iff_of_false (fun hle => ?_) (fun hne => hne rfl)
    have hearly := hle early (by simp)
    omega
  | cons z before =>
    obtain rfl : z = x := Option.some.inj hx
    have hle := h.head_le rfl
    have hearly := hle early (by simp)
    refine iff_of_true (fun y hy => hle y ?_) ?_
    · exact ((List.Perm.swap early late behind).append_left (z :: before)).mem_iff.1 hy
    · rintro rfl
      omega

/-- The problem that a compiled template is rejected for is the first of its diagnostics. -/
theorem head?_of_result [Alphabet] {options : Options} {t : Template} {output : Output}
    {path source : Text} {first : Diagnostic} {more : Nat} (h : compile options t = .ok output)
    (hresult : output.result = .error (.problems path source first more)) :
    (Document.parse t.source).diagnostics.head? = some first := by
  have hdiagnostics : output.diagnostics = (Document.parse t.source).diagnostics := by
    unfold compile at h
    split at h
    · rw [← Except.ok.inj h]
    · cases h
  rw [← hdiagnostics]
  unfold Output.result at hresult
  split at hresult
  · cases hresult
  · next hcons =>
    rw [hcons]
    cases hresult
    rfl

/-- The diagnostics of a template stand in the order of the source exactly if the innermost of the
blocks that are left open is no function block inside of another block. In such a block the missing
`@end` and the report of the opener are in each other's place, and the first problem, for which the
template is rejected, is the earliest one unless it is that missing `@end`. -/
theorem reports_in_source_order [Alphabet] (options : Options) (t : Template) :
    let s := tokenize t.source
    let ds := (Document.parse t.source).diagnostics
    let inner? := Nesting.innerFunction? (Nesting.remaining s.tokens)
    (InSourceOrder ds ↔ inner? = none) ∧
      (∀ opener, inner? = some opener → ∃ before behind,
        ds = before ++
          Draft.missingReport s.last opener :: .ofToken opener .nestedFunction :: behind ∧
        InSourceOrder (before ++
          .ofToken opener .nestedFunction :: Draft.missingReport s.last opener :: behind)) ∧
      ∀ output path source first more, compile options t = .ok output →
        output.result = .error (.problems path source first more) →
        ((∀ y ∈ ds, first.span.start ≤ y.span.start) ↔
          inner?.map (Draft.missingReport s.last) ≠ some first) := by
  intro s ds inner?
  obtain ⟨hordered, hlate⟩ := Draft.order_parse t.source
  refine ⟨⟨fun hds => ?_, hordered⟩, fun opener hsome => (hlate opener hsome).2, ?_⟩
  · refine Option.eq_none_iff_forall_not_mem.2 fun opener hsome => ?_
    obtain ⟨hlt, before, behind, hsplit, -⟩ := hlate opener hsome
    rw [show ds = _ from hsplit] at hds
    have hle := (List.pairwise_cons.1 (List.pairwise_append.1 hds).2.1).1 _ List.mem_cons_self
    simp only [Draft.missingReport, Diagnostic.ofToken] at hle
    omega
  · intro output path source first more hcompile hresult
    have hfirst : ds.head? = some first := head?_of_result hcompile hresult
    cases hinner : inner? with
    | none => simpa using (hordered hinner).head_le hfirst
    | some opener =>
      obtain ⟨hlt, before, behind, hsplit, hsorted⟩ := hlate opener hinner
      rw [show ds = _ from hsplit] at hfirst ⊢
      rw [Option.map_some, ne_eq, Option.some.injEq]
      exact hsorted.earliest_iff hlt hfirst

/-- A stray `@end` comes first and is the earliest problem, although the two reports of the function
block behind it are out of order. -/
theorem first_report_before_late_one :
    let page : Text := "@end@if a\n@func x"
    let opener : Token := ⟨.verbatim .function, [], ⟨2, 1⟩, ⟨10, 15⟩⟩
    let first : Diagnostic := ⟨⟨1, 1⟩, ⟨0, 4⟩, .unexpected .close⟩
    let ds := (Document.parse page).diagnostics
    Nesting.innerFunction? (Nesting.remaining (tokenize page).tokens) = some opener ∧
      (∃ before behind,
        ds = before ++ Draft.missingReport (tokenize page).last opener ::
          .ofToken opener .nestedFunction :: behind ∧
        InSourceOrder (before ++ .ofToken opener .nestedFunction ::
          Draft.missingReport (tokenize page).last opener :: behind)) ∧
      ∃ output, compile {} (.named "page" page) = .ok output ∧
        output.result = .error (.problems "page" page first 3) ∧
        ∀ y ∈ ds, first.span.start ≤ y.span.start := by
  intro page opener first ds
  have hinner : Nesting.innerFunction? (Nesting.remaining (tokenize page).tokens) =
      some opener := by decide +kernel
  have hds : ds = first :: ds.tail := by decide +kernel
  have hmore : ds.tail.length = 3 := by decide +kernel
  have hne : (some opener).map (Draft.missingReport (tokenize page).last) ≠ some first := by
    decide +kernel
  let output : Output :=
    { path := "page", source := page
      code := Code.ofDocument (.named "page" page) {} (Document.parse page), diagnostics := ds }
  have hcompile : compile {} (.named "page" page) = .ok output := rfl
  have hresult : output.result = .error (.problems "page" page first 3) := by
    rw [← hmore, Output.result, show output.diagnostics = _ from hds]
  obtain ⟨-, hlate, hearliest⟩ := reports_in_source_order {} (.named "page" page)
  refine ⟨hinner, hlate opener hinner, output, hcompile, hresult, ?_⟩
  refine (hearliest output _ _ first _ hcompile hresult).2 ?_
  rwa [show Nesting.innerFunction? (Nesting.remaining
    (tokenize (Template.named "page" page).source).tokens) = _ from hinner]

/-- The first report is not the earliest. -/
theorem late_report_of_open_function :
    let ds := (Document.parse "@if a\n@func x").diagnostics
    (ds.map fun x => x.span.start) = [13, 6, 13] ∧ ¬ InSourceOrder ds ∧
      ¬ ∀ first ∈ ds.head?, ∀ y ∈ ds, first.span.start ≤ y.span.start := by
  decide +kernel

end Stencil
