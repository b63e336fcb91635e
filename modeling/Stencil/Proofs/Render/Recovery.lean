import Stencil.Proofs.Render.Machine

/-!
# Recovering from panics

A guard ends well if its body does, passes a failure of its body on, and turns a panic into a
failure that names its template. Guards and content blocks can be nested in any way, so that a panic
may be raised under guards of several templates. The one that is named is the innermost of those
that are entered when the panic is raised; all others pass the failure on as it is. In the terms of
the machine it is the topmost guard on the stack (`Ending.outcome`). -/

set_option autoImplicit false

namespace Stencil.Render

namespace Action

/-- Nothing panics out of a guard. -/
theorem guarded_ne_panicked (template : Text) (body : Action Unit) (r : Registry) (s : Sink)
    (message? : Option Text) : (guarded template body r s).1 ≠ .panicked message? := by
  unfold guarded
  split
  · simp
  · next hother =>
    intro hended
    exact hother message? (body r s).2 (Prod.ext hended rfl)

/-- Where nothing panics, a guard changes nothing. -/
theorem guarded_of_not_panicked {body : Action Unit} {r : Registry} {s : Sink}
    (h : ∀ message?, (body r s).1 ≠ .panicked message?) (template : Text) :
    guarded template body r s = body r s := by
  unfold guarded
  split
  · next message? s' hended => exact absurd (congrArg Prod.fst hended) (h message?)
  · rfl

/-- A guard does nothing to the sink. -/
theorem guarded_sink (template : Text) (body : Action Unit) (r : Registry) (s : Sink) :
    (guarded template body r s).2 = (body r s).2 := by
  unfold guarded
  split
  · next message? s' hended => rw [hended]
  · rfl

end Action

/-- A run under a guard tells how the guard ends. -/
theorem guarded_of_runs [Types] {r : Registry} {c : Context} {template : Text} {body : Script}
    {s : Sink} {log : List UInt8} {ending : Ending}
    (h : Machine.Runs r ⟨[.script c body, .guard template], s⟩ log ending) :
    Action.guarded template (runScript c body) r s = (ending.outcome, s.after log) :=
  h.meaning_eq

/-- A block that is yielded by a layout inside of the guard of a page, which binds the block. -/
theorem guarded_layout_yield [Types] {c : Context} {slots : List Slot} {key : Text} {block : Script}
    (h : LastBound (slots.map Slot.entry) key fun c => runScript c block) (page layout : Text) :
    Action.guarded page (runScript c [.extend slots [.guarded layout [.yield key]]]) =
      Action.guarded page (Action.guarded layout (runScript c block)) := by
  rw [runScript_single, Instruction.run, runScript_single, Instruction.run, runScript_single,
    Instruction.run, bindSlots_eq, Context.yield_extend_of_last h]

/-- A guard never ends with a panic, and a body that does not panic ends as it would without the
guard. The body always comes to a stop. The sink then holds exactly what was written until there. If
the body stops at a panic, then the failure has the message of the panic and names the innermost of
the templates whose guards are entered at that moment; otherwise the guard ends as the body stops.
So for a panic in a content block it names the template that yields the block, not the one that
binds it. -/
theorem guard_recovers_innermost [Types] (r : Registry) {c : Context} (hc : c.Scripted)
    (template : Text) (body : Script) (s : Sink) :
    let own := runScript c body r s
    let whole := Action.guarded template (runScript c body) r s
    (∀ message?, whole.1 ≠ .panicked message?) ∧
      ((∀ message?, own.1 ≠ .panicked message?) → whole = own) ∧
      (∃ log ending, Machine.Runs r ⟨[.script c body, .guard template], s⟩ log ending) ∧
      (∀ log ending, Machine.Runs r ⟨[.script c body, .guard template], s⟩ log ending →
        own.2 = s.after log ∧ whole.2 = s.after log ∧
          (ending = .finished → whole.1 = .done ()) ∧
          (∀ e, ending = .failed e → whole.1 = .failed e) ∧
          ∀ templates message?, ending = .raised templates message? →
            ∃ innermost outer, templates = innermost :: outer ∧
              whole.1 = .failed (.recovered innermost (message?.getD "unknown panic"))) ∧
      ∀ (slots : List Slot) (key layout : Text) (block : Script) (message? : Option Text)
        (s' : Sink),
        LastBound (slots.map Slot.entry) key (fun c => runScript c block) →
        runScript c block r s = (.panicked message?, s') →
        Action.guarded template (runScript c [.extend slots [.guarded layout [.yield key]]]) r s =
          (.failed (.recovered layout (message?.getD "unknown panic")), s') := by
  intro own whole
  have hnever : ∀ message?, whole.1 ≠ .panicked message? :=
    Action.guarded_ne_panicked template _ r s
  refine ⟨hnever, ?_, ?_, ?_, ?_⟩
  · intro hown
    exact Action.guarded_of_not_panicked hown template
  · have hend : Machine.Halts r [] := fun s => ⟨_, _, .stop .finished⟩
    have hguard : Machine.Halts r [.guard template] := hend.of_step fun s => .leave
    exact Machine.halts_script (Machine.safe_of_scripted hc) body hguard s
  · intro log ending hrun
    have hwhole : whole = (ending.outcome, s.after log) := guarded_of_runs hrun
    have hsink : own.2 = whole.2 := (Action.guarded_sink template _ r s).symm
    rw [hsink, hwhole]
    refine ⟨rfl, rfl, ?_, ?_, ?_⟩
    · rintro rfl
      rfl
    · rintro e rfl
      rfl
    · rintro templates message? rfl
      cases templates with
      | nil => exact absurd (congrArg Prod.fst hwhole) (hnever message?)
      | cons innermost outer => exact ⟨innermost, outer, rfl, rfl⟩
  · intro slots key layout block message? s' hlast hblock
    rw [guarded_layout_yield hlast]
    exact Action.guarded_of_failed (Action.guarded_of_panicked hblock layout) template

/-- A panic in a content block of the context that is yielded by a content block of the page, which
in turn is yielded by the layout: the layout is named, and what was written before is kept. -/
theorem panic_in_block_names_layout :
    let c := Context.empty.withContent "note" (runScript .empty [.panic none])
    let body : Script :=
      [.write "a", .extend [.mk "main" [.raw "b", .yield "note"]]
        [.guarded "base" [.yield "main", .write "z"]]]
    c.Scripted ∧
      Machine.Runs {} ⟨[.script c body, .guard "page"], {}⟩ (Text.bytes "ab")
        (.raised ["base", "page"] none) ∧
      Action.guarded "page" (runScript c body) {} {} =
        (.failed (.recovered "base" "unknown panic"), { taken := Text.bytes "ab" }) := by
  intro c body
  have hc : c.Scripted := .withContent .empty "note" .empty [.panic none]
  have hrun : Machine.Runs {} ⟨[.script c body, .guard "page"], {}⟩
      (Text.bytes "a" ++ (Text.bytes "b" ++ [])) (.raised ["base", "page"] none) := by
    refine .step (.write rfl) (.silent .extend (.silent .enter (.silent (.yield rfl) ?_)))
    refine .silent (.display rfl) (.step (.write rfl) ?_)
    exact .silent (.yield rfl) (.stop .raised)
  rw [show Text.bytes "a" ++ (Text.bytes "b" ++ []) = Text.bytes "ab" by decide] at hrun
  refine ⟨hc, hrun, ?_⟩
  obtain ⟨-, -, -, hruns, -⟩ := guard_recovers_innermost {} hc "page" body {}
  obtain ⟨-, hsink, -, -, hraised⟩ := hruns _ _ hrun
  obtain ⟨innermost, outer, htemplates, hfailed⟩ := hraised _ _ rfl
  cases htemplates
  exact Prod.ext hfailed hsink

end Stencil.Render
