import Stencil.Proofs.Render.Delivery
import Stencil.Proofs.Render.Scope

/-!
# Rendering step by step

A script is run by recursion on itself, and a content block is bound as a finished action, so that
nothing in this says which templates are running at some moment. Here is a machine that does. It
keeps a stack of the scripts that have begun and are not at their end, with the guards that were
entered between them (`Machine`). A yield puts the script of the content block on top of that stack,
wherever the block was written, so the guards around it are those of the templates that run.

The machine only goes forward: it stops at the first failure and at a panic, and says of a panic
which guards are on the stack (`Machine.Stops`). What becomes of that is not its concern. A stack
stands for what is left to do (`resume`); each step keeps this (`Machine.Step.meaning_eq`), so it
can be told from where the machine stops how the whole of it ends (`Machine.Runs.meaning_eq`). And
it always stops, where all content blocks are scripts (`Machine.halts_script`). -/

set_option autoImplicit false

namespace Stencil.Render

/-! ## The machine -/

/-- The sink once it has taken further bytes. -/
def Sink.after (s : Sink) (bytes : List UInt8) : Sink :=
  { s with taken := s.taken ++ bytes }

/-- A sink that has taken nothing is the same sink. -/
@[simp] theorem Sink.after_nil (s : Sink) : s.after [] = s := by
  simp [after]

/-- Bytes are taken one part after the other. -/
theorem Sink.after_append (s : Sink) (xs ys : List UInt8) :
    s.after (xs ++ ys) = (s.after xs).after ys := by
  simp [after]

section

variable [Types]

/-- The pieces in which an instruction writes something other than a given text, or why it fails;
none if it does neither. -/
def Instruction.output? (r : Registry) (c : Context) :
    Instruction → Option (Except RenderError (List Text))
  | .escaped fileType shown => some ((r.escaperFor fileType).map fun e => (e shown).toList)
  | .raw shown => some (.ok [shown])
  | .bool b => some (.ok [displayBool b])
  | .int n => some (.ok (Text.intPieces n.toInt))
  | .value key =>
    match c.get? .string key with
    | some (.string t) => some (.ok (Escaper.html t).toList)
    | _ => some (.error (.missingContext key (ValueType.name .string)))
  | .fail fileType => some (.error (.unknownEscaper fileType))
  | .write _ | .yield _ | .guarded _ _ | .extend _ _ | .panic _ => none

/-- What is on the stack of a machine. -/
inductive Activation
  /-- What is left of a script, and the context that it runs on. -/
  | script (c : Context) (rest : Script)
  /-- The guard of a template around all that is above it. -/
  | guard (template : Text)

/-- The templates whose guards are on a stack, the innermost first. -/
def guards : List Activation → List Text
  | [] => []
  | .script _ _ :: below => guards below
  | .guard template :: below => template :: guards below

/-- How a machine stops. -/
inductive Ending
  /-- With nothing left to do. -/
  | finished
  /-- At a failure. -/
  | failed (error : RenderError)
  /-- At a panic, inside of the guards of these templates, the innermost first. -/
  | raised (templates : List Text) (message? : Option Text)

/-- Scripts that are running, the innermost first, and the sink that they write to. -/
structure Machine where
  /-- The scripts and the guards between them. -/
  stack : List Activation
  /-- What takes the bytes. -/
  sink : Sink

namespace Machine

/-- One step of a machine, with the bytes that the sink takes in it. -/
inductive Step (r : Registry) : Machine → List UInt8 → Machine → Prop
  | write {c : Context} {t : Text} {rest : Script} {below : List Activation} {s : Sink}
      (hfits : s.room t.bytes.length = t.bytes.length) :
      Step r ⟨.script c (.write t :: rest) :: below, s⟩ t.bytes
        ⟨.script c rest :: below, s.after t.bytes⟩
  | display {c : Context} {i : Instruction} {pieces : List Text} {rest : Script}
      {below : List Activation} {s : Sink} (hi : i.output? r c = some (.ok pieces)) :
      Step r ⟨.script c (i :: rest) :: below, s⟩ []
        ⟨.script c (pieces.map .write ++ rest) :: below, s⟩
  | yield {c c' : Context} {key : Text} {block rest : Script} {below : List Activation} {s : Sink}
      (hkey : c.lookup? key = some (.content (runScript c' block))) :
      Step r ⟨.script c (.yield key :: rest) :: below, s⟩ []
        ⟨.script c' block :: .script c rest :: below, s⟩
  | pass {c : Context} {key : Text} {rest : Script} {below : List Activation} {s : Sink}
      (hkey : ∀ body, c.lookup? key ≠ some (.content body)) :
      Step r ⟨.script c (.yield key :: rest) :: below, s⟩ [] ⟨.script c rest :: below, s⟩
  | enter {c : Context} {template : Text} {body rest : Script} {below : List Activation}
      {s : Sink} :
      Step r ⟨.script c (.guarded template body :: rest) :: below, s⟩ []
        ⟨.script c body :: .guard template :: .script c rest :: below, s⟩
  | extend {c : Context} {slots : List Slot} {body rest : Script} {below : List Activation}
      {s : Sink} :
      Step r ⟨.script c (.extend slots body :: rest) :: below, s⟩ []
        ⟨.script (bindSlots c c.child slots) body :: .script c rest :: below, s⟩
  | return {c : Context} {below : List Activation} {s : Sink} :
      Step r ⟨.script c [] :: below, s⟩ [] ⟨below, s⟩
  | leave {template : Text} {below : List Activation} {s : Sink} :
      Step r ⟨.guard template :: below, s⟩ [] ⟨below, s⟩

/-- Where a machine stops, with the bytes that the sink takes there. -/
inductive Stops (r : Registry) : Machine → List UInt8 → Ending → Prop
  | finished {s : Sink} : Stops r ⟨[], s⟩ [] .finished
  | full {c : Context} {t : Text} {rest : Script} {below : List Activation} {s : Sink}
      (hfull : s.room t.bytes.length ≠ t.bytes.length) :
      Stops r ⟨.script c (.write t :: rest) :: below, s⟩
        (t.bytes.take (s.room t.bytes.length)) (.failed (.output s.whenFull))
  | failed {c : Context} {i : Instruction} {e : RenderError} {rest : Script}
      {below : List Activation} {s : Sink} (hi : i.output? r c = some (.error e)) :
      Stops r ⟨.script c (i :: rest) :: below, s⟩ [] (.failed e)
  | raised {c : Context} {message? : Option Text} {rest : Script} {below : List Activation}
      {s : Sink} :
      Stops r ⟨.script c (.panic message? :: rest) :: below, s⟩ []
        (.raised (guards below) message?)

/-- A run of a machine until it stops, with all bytes that the sink takes meanwhile. -/
inductive Runs (r : Registry) : Machine → List UInt8 → Ending → Prop
  | stop {m : Machine} {log : List UInt8} {ending : Ending} (hstop : Stops r m log ending) :
      Runs r m log ending
  | step {m m' : Machine} {log rest : List UInt8} {ending : Ending} (hstep : Step r m log m')
      (hrest : Runs r m' rest ending) : Runs r m (log ++ rest) ending

end Machine

end

/-! ## Actions in a row -/

namespace Action

variable {α β : Type} {r : Registry} {s s' : Sink}

/-- Behind a result, what follows is done. -/
theorem andThen_of_done {a : Action α} {x : α} (h : a r s = (.done x, s')) (next : α → Action β) :
    andThen a next r s = next x r s' := by
  unfold andThen
  rw [h]

/-- Behind a failure, nothing is done. -/
theorem andThen_of_failed {a : Action α} {e : RenderError} (h : a r s = (.failed e, s'))
    (next : α → Action β) : andThen a next r s = (.failed e, s') := by
  unfold andThen
  rw [h]

/-- Behind a panic, nothing is done. -/
theorem andThen_of_panicked {a : Action α} {message? : Option Text}
    (h : a r s = (.panicked message?, s')) (next : α → Action β) :
    andThen a next r s = (.panicked message?, s') := by
  unfold andThen
  rw [h]

/-- What follows depends only on how the first action ended. -/
theorem andThen_congr {a b : Action α} (h : a r s = b r s') (next : α → Action β) :
    andThen a next r s = andThen b next r s' := by
  unfold andThen
  rw [h]

/-- A guard depends only on how its action ended. -/
theorem guarded_congr {a b : Action Unit} (h : a r s = b r s') (template : Text) :
    guarded template a r s = guarded template b r s' := by
  unfold guarded
  rw [h]

/-- A guard lets a failure through. -/
theorem guarded_of_failed {a : Action Unit} {e : RenderError} (h : a r s = (.failed e, s'))
    (template : Text) : guarded template a r s = (.failed e, s') := by
  unfold guarded
  rw [h]

/-- A guard makes a panic a failure of its template. -/
theorem guarded_of_panicked {a : Action Unit} {message? : Option Text}
    (h : a r s = (.panicked message?, s')) (template : Text) :
    guarded template a r s =
      (.failed (.recovered template (message?.getD "unknown panic")), s') := by
  unfold guarded
  rw [h]

/-- Writes in front of a script are part of it. -/
theorem writeAll_andThen [Types] (pieces : List Text) (c : Context) (rest : Script) :
    andThen (writeAll pieces) (fun _ => runScript c rest) =
      runScript c (pieces.map .write ++ rest) := by
  induction pieces with
  | nil => rfl
  | cons t pieces ih =>
    funext r s
    change _ = andThen (write t) (fun _ => runScript c (pieces.map .write ++ rest)) r s
    rw [writeAll, ← ih]
    rcases hended : write t r s with ⟨⟨⟩ | e | message?, s'⟩
    · rw [andThen_of_done hended]
      exact andThen_congr (andThen_of_done hended _) _
    · rw [andThen_of_failed hended]
      exact andThen_of_failed (andThen_of_failed hended _) _
    · rw [andThen_of_panicked hended]
      exact andThen_of_panicked (andThen_of_panicked hended _) _

end Action

section

variable [Types]

/-! ## What a stack stands for -/

/-- An action, and behind it what is left to do on a stack. -/
def resume (a : Action Unit) : List Activation → Action Unit
  | [] => a
  | .script c rest :: below => resume (Action.andThen a fun _ => runScript c rest) below
  | .guard template :: below => resume (Action.guarded template a) below

/-- How the machine's scripts end if they are run to their ends, and what the sink then holds. -/
def Machine.meaning (m : Machine) (r : Registry) : Outcome Unit × Sink :=
  resume (Action.done ()) m.stack r m.sink

section

variable {r : Registry} {s s' : Sink} {a b : Action Unit}

/-- What is left to do on a stack depends only on how the action on top ended. -/
theorem resume_congr (h : a r s = b r s') (stack : List Activation) :
    resume a stack r s = resume b stack r s' := by
  induction stack generalizing a b with
  | nil => exact h
  | cons activation below ih =>
    cases activation with
    | script c rest => exact ih (Action.andThen_congr h _)
    | guard template => exact ih (Action.guarded_congr h template)

/-- A failure is passed on by every script and every guard. -/
theorem resume_of_failed {e : RenderError} (h : a r s = (.failed e, s')) (stack : List Activation) :
    resume a stack r s = (.failed e, s') := by
  induction stack generalizing a with
  | nil => exact h
  | cons activation below ih =>
    cases activation with
    | script c rest => exact ih (Action.andThen_of_failed h _)
    | guard template => exact ih (Action.guarded_of_failed h template)

/-- The outcome of the scripts that a machine runs, from how it stops. -/
def Ending.outcome : Ending → Outcome Unit
  | finished => .done ()
  | failed e => .failed e
  | raised [] message? => .panicked message?
  | raised (template :: _) message? =>
    .failed (.recovered template (message?.getD "unknown panic"))

/-- A panic is passed on by scripts up to the first guard, and from there on it is a failure. -/
theorem resume_of_panicked {message? : Option Text} (h : a r s = (.panicked message?, s'))
    (stack : List Activation) :
    resume a stack r s = ((Ending.raised (guards stack) message?).outcome, s') := by
  induction stack generalizing a with
  | nil => exact h
  | cons activation below ih =>
    cases activation with
    | script c rest => exact ih (Action.andThen_of_panicked h _)
    | guard template => exact resume_of_failed (Action.guarded_of_panicked h template) below

end

end

/-! ## Steps -/

/-- A text that fits is taken. -/
theorem Sink.write_of_fits {s : Sink} {t : Text} (h : s.room t.bytes.length = t.bytes.length) :
    s.write t = (.done (), s.after t.bytes) := by
  simp [write, after, h]

/-- Of a text that does not fit, the part that does is taken, and writing fails. -/
theorem Sink.write_of_full {s : Sink} {t : Text} (h : s.room t.bytes.length ≠ t.bytes.length) :
    s.write t =
      (.failed (.output s.whenFull), s.after (t.bytes.take (s.room t.bytes.length))) := by
  simp [write, after, h]

section

variable [Types]

/-- A text that is found is its value. -/
theorem Context.value_of_get? {c : Context} {key t : Text}
    (h : c.get? .string key = some (.string t)) : c.value .string key = .ok (.string t) := by
  rw [Context.value, h]

/-- What is found as a text is a text, or nothing is found. -/
theorem Context.get?_string_cases (c : Context) (key : Text) :
    c.get? .string key = none ∨ ∃ t, c.get? .string key = some (.string t) := by
  cases hget : c.get? .string key with
  | none => exact .inl rfl
  | some v =>
    obtain ⟨-, htype⟩ := Context.get?_eq_some_iff.1 hget
    cases v with
    | string t => exact .inr ⟨t, rfl⟩
    | _ => cases htype

/-- An instruction that displays something writes its pieces. -/
theorem run_of_output {r : Registry} {c : Context} {i : Instruction} {pieces : List Text}
    (h : i.output? r c = some (.ok pieces)) (s : Sink) :
    i.run c r s = Action.writeAll pieces r s := by
  have hsingle (t : Text) : Action.write t r s = Action.writeAll [t] r s :=
    (congrFun (congrFun (Action.bind_done (Action.write t)) r) s).symm
  cases i with
  | escaped fileType shown =>
    rw [Instruction.output?] at h
    cases he : r.escaperFor fileType with
    | error e => simp [he, Except.map] at h
    | ok escaper =>
      simp only [he, Except.map, Option.some.injEq, Except.ok.injEq] at h
      subst h
      have hescaper : Action.escaperFor fileType r s = (.done escaper, s) := by
        rw [Action.escaperFor, he]
        rfl
      exact Action.andThen_of_done hescaper _
  | raw shown =>
    cases h
    exact hsingle shown
  | bool b =>
    cases h
    exact hsingle _
  | int n =>
    cases h
    rfl
  | value key =>
    rw [Instruction.output?] at h
    rcases c.get?_string_cases key with hnone | ⟨t, ht⟩
    · simp [hnone] at h
    · simp only [ht, Option.some.injEq, Except.ok.injEq] at h
      subst h
      rw [Instruction.run, writeBound, Context.value_of_get? ht]
      rfl
  | _ => cases h

/-- An instruction that fails leaves the sink as it is. -/
theorem run_of_output_error {r : Registry} {c : Context} {i : Instruction} {e : RenderError}
    (h : i.output? r c = some (.error e)) (s : Sink) : i.run c r s = (.failed e, s) := by
  cases i with
  | escaped fileType shown =>
    rw [Instruction.output?] at h
    cases he : r.escaperFor fileType with
    | ok escaper => simp [he, Except.map] at h
    | error e' =>
      simp only [he, Except.map, Option.some.injEq, Except.error.injEq] at h
      subst h
      have hescaper : Action.escaperFor fileType r s = (.failed e', s) := by
        rw [Action.escaperFor, he]
        rfl
      exact Action.andThen_of_failed hescaper _
  | value key =>
    rw [Instruction.output?] at h
    rcases c.get?_string_cases key with hnone | ⟨t, ht⟩
    · simp only [hnone, Option.some.injEq, Except.error.injEq] at h
      subst h
      rw [Instruction.run, writeBound, Context.value, hnone]
      rfl
    · simp [ht] at h
  | fail fileType =>
    cases h
    rfl
  | _ => cases h

namespace Machine

variable {r : Registry} {m m' : Machine} {log : List UInt8} {ending : Ending}

/-- A step keeps what the machine stands for. -/
theorem Step.meaning_eq (h : Step r m log m') : m.meaning r = m'.meaning r := by
  cases h with
  | @write c t rest below s hfits =>
    have hwrite : Action.write t r s = (.done (), s.after t.bytes) := Sink.write_of_fits hfits
    exact resume_congr (Action.andThen_of_done hwrite fun _ => runScript c rest) below
  | @display c i pieces rest below s hi =>
    refine @resume_congr _ r s s _ _ ?_ below
    change Action.andThen (i.run c) (fun _ => runScript c rest) r s = runScript c _ r s
    rw [← Action.writeAll_andThen]
    exact Action.andThen_congr (run_of_output hi s) _
  | @yield c c' key block rest below s hkey =>
    refine @resume_congr _ r s s _ _ ?_ below
    change Action.andThen (c.yield key) (fun _ => runScript c rest) r s = _
    rw [Context.yield_of_content hkey]
    exact Action.andThen_congr rfl _
  | @pass c key rest below s hkey =>
    refine @resume_congr _ r s s _ _ ?_ below
    change Action.andThen (c.yield key) (fun _ => runScript c rest) r s = _
    exact Action.andThen_congr (by rw [Context.yield_of_other hkey]) _
  | enter => exact resume_congr (Action.andThen_congr rfl _) _
  | extend => exact resume_congr (Action.andThen_congr rfl _) _
  | «return» => exact resume_congr rfl _
  | leave => exact resume_congr rfl _

/-- The sink takes exactly the bytes of the step. -/
theorem Step.sink_eq (h : Step r m log m') : m'.sink = m.sink.after log := by
  cases h with
  | write hfits => rfl
  | _ => exact (Sink.after_nil _).symm

/-- Where the machine stops, the rest of the stack is passed over, but for the innermost guard. -/
theorem Stops.meaning_eq (h : Stops r m log ending) :
    m.meaning r = (ending.outcome, m.sink.after log) := by
  cases h with
  | @finished s =>
    rw [Sink.after_nil]
    rfl
  | @full c t rest below s hfull =>
    have hwrite : Action.write t r s = _ := Sink.write_of_full hfull
    exact resume_of_failed (Action.andThen_of_failed hwrite _) below
  | @failed c i e rest below s hi =>
    have hrun := run_of_output_error hi s
    rw [Sink.after_nil]
    exact resume_of_failed (Action.andThen_of_failed hrun _) below
  | @raised c message? rest below s =>
    have hpanic : (Action.panic message? : Action Unit) r s = (.panicked message?, s) := rfl
    rw [Sink.after_nil]
    exact resume_of_panicked (Action.andThen_of_panicked hpanic fun _ => runScript c rest) below

/-- A step in which nothing is written adds nothing to a run. -/
theorem Runs.silent (hstep : Step r m [] m') (hrest : Runs r m' log ending) :
    Runs r m log ending :=
  .step hstep hrest

/-- A run ends as the scripts of the machine do, and writes what they write. -/
theorem Runs.meaning_eq (h : Runs r m log ending) :
    m.meaning r = (ending.outcome, m.sink.after log) := by
  induction h with
  | stop hstop => exact hstop.meaning_eq
  | step hstep hrest ih => rw [hstep.meaning_eq, ih, hstep.sink_eq, Sink.after_append]

end Machine

/-! ## The machine stops -/

/-- Contexts whose content blocks are scripts on such contexts. -/
inductive Context.Scripted : Context → Prop
  | empty : Scripted .empty
  | child {c : Context} (hc : Scripted c) : Scripted c.child
  | withValue {c : Context} (hc : Scripted c) (key : Text) (v : Value) :
      Scripted (c.withValue key v)
  | withContent {c c' : Context} (hc : Scripted c) (key : Text) (hc' : Scripted c')
      (block : Script) : Scripted (c.withContent key (runScript c' block))

namespace Machine

/-- Whatever the sink is, a machine with this stack comes to a stop. -/
def Halts (r : Registry) (stack : List Activation) : Prop :=
  ∀ s, ∃ log ending, Runs r ⟨stack, s⟩ log ending

/-- Content blocks of the context are scripts that come to a stop if what is below them does. -/
def Safe (r : Registry) (c : Context) : Prop :=
  ∀ key body, c.lookup? key = some (.content body) →
    ∃ c' block, body = runScript c' block ∧
      ∀ below, Halts r below → Halts r (.script c' block :: below)

variable {r : Registry} {stack stack' below : List Activation} {c : Context}

/-- A step that does not touch the sink leads to a stop if the machine stops behind it. -/
theorem Halts.of_step (h : Halts r stack')
    (hstep : ∀ s, Step r ⟨stack, s⟩ [] ⟨stack', s⟩) : Halts r stack := by
  intro s
  obtain ⟨log, ending, hrun⟩ := h s
  exact ⟨_, _, .silent (hstep s) hrun⟩

/-- A write halts if what follows it does. -/
theorem halts_write {t : Text} {rest : Script} (h : Halts r (.script c rest :: below)) :
    Halts r (.script c (.write t :: rest) :: below) := by
  intro s
  by_cases hfits : s.room t.bytes.length = t.bytes.length
  · obtain ⟨log, ending, hrun⟩ := h (s.after t.bytes)
    exact ⟨_, _, .step (.write hfits) hrun⟩
  · exact ⟨_, _, .stop (.full hfits)⟩

/-- Several writes halt if what follows them does. -/
theorem halts_writes {pieces : List Text} {rest : Script}
    (h : Halts r (.script c rest :: below)) :
    Halts r (.script c (pieces.map .write ++ rest) :: below) := by
  induction pieces with
  | nil => exact h
  | cons t pieces ih => exact halts_write ih

/-- An instruction that writes or fails halts if what follows it does. -/
theorem halts_output {i : Instruction} {outcome : Except RenderError (List Text)} {rest : Script}
    (hi : i.output? r c = some outcome) (h : Halts r (.script c rest :: below)) :
    Halts r (.script c (i :: rest) :: below) := by
  cases outcome with
  | ok pieces => exact (halts_writes h).of_step fun s => .display hi
  | error e =>
    intro s
    exact ⟨_, _, .stop (.failed hi)⟩

/-- The empty context has no content blocks that could run on. -/
theorem safe_empty : Safe r .empty := by
  intro key body h
  simp [Context.empty, Context.lookup?, Context.lastBinding?] at h

/-- A layer over a safe context is safe. -/
theorem Safe.child (hc : Safe r c) : Safe r c.child := by
  intro key body h
  rw [Context.lookup?_child] at h
  exact hc key body h

/-- Binding a value keeps a context safe. -/
theorem Safe.withValue (hc : Safe r c) (key : Text) (v : Value) : Safe r (c.withValue key v) := by
  intro key' body h
  rw [Context.withValue, Context.lookup?_bind] at h
  split at h
  · simp at h
  · exact hc key' body h

/-- Binding a script that halts keeps a context safe. -/
theorem Safe.withContent (hc : Safe r c) (key : Text) {c' : Context} {block : Script}
    (hblock : ∀ below, Halts r below → Halts r (.script c' block :: below)) :
    Safe r (c.withContent key (runScript c' block)) := by
  intro key' body h
  rw [Context.withContent, Context.lookup?_bind] at h
  split at h
  · simp only [Option.some.injEq, Binding.content.injEq] at h
    exact ⟨c', block, h.symm, hblock⟩
  · exact hc key' body h

mutual

/-- On a safe context an instruction halts if what follows it does. -/
theorem halts_instruction {c : Context} {below : List Activation} (hc : Safe r c)
    (i : Instruction) {rest : Script}
    (h : Halts r (.script c rest :: below)) : Halts r (.script c (i :: rest) :: below) := by
  match i with
  | .write t => exact halts_write h
  | .escaped _ _ | .raw _ | .bool _ | .int _ | .fail _ => exact halts_output rfl h
  | .value key =>
    rcases c.get?_string_cases key with hnone | ⟨t, ht⟩
    · exact halts_output (by rw [Instruction.output?, hnone]) h
    · exact halts_output (by rw [Instruction.output?, ht]) h
  | .yield key =>
    by_cases hkey : ∃ body, c.lookup? key = some (.content body)
    · obtain ⟨body, hbody⟩ := hkey
      obtain ⟨c', block, rfl, hblock⟩ := hc key body hbody
      exact (hblock _ h).of_step fun s => .yield hbody
    · exact h.of_step fun s => .pass fun body hbody => hkey ⟨body, hbody⟩
  | .guarded template body =>
    have hguard : Halts r (.guard template :: .script c rest :: below) :=
      h.of_step fun s => .leave
    exact (halts_script hc body hguard).of_step fun s => .enter
  | .extend slots body =>
    have hlayer := safe_bindSlots hc hc.child slots
    exact (halts_script hlayer body h).of_step fun s => .extend
  | .panic message? =>
    intro s
    exact ⟨_, _, .stop .raised⟩

/-- On a safe context a script halts if what is below it does. -/
theorem halts_script {c : Context} {below : List Activation} (hc : Safe r c)
    (script : List Instruction) (h : Halts r below) : Halts r (.script c script :: below) := by
  match script with
  | [] => exact h.of_step fun s => .return
  | i :: script => exact halts_instruction hc i (halts_script hc script h)

/-- Binding the content blocks of a script keeps a context safe. -/
theorem safe_bindSlots {c layer : Context} (hc : Safe r c) (hl : Safe r layer)
    (slots : List Slot) : Safe r (bindSlots c layer slots) := by
  match slots with
  | [] => exact hl
  | slot :: slots => exact safe_bindSlots hc (safe_bindTo hc hl slot) slots

/-- Binding one content block of a script keeps a context safe. -/
theorem safe_bindTo {c layer : Context} (hc : Safe r c) (hl : Safe r layer) (slot : Slot) :
    Safe r (slot.bindTo c layer) := by
  match slot with
  | .mk key body => exact hl.withContent key fun below h => halts_script hc body h

end

/-- A context whose content blocks are scripts is safe. -/
theorem safe_of_scripted (hc : c.Scripted) : Safe r c := by
  induction hc with
  | empty => exact safe_empty
  | child hc ih => exact ih.child
  | withValue hc key v ih => exact ih.withValue key v
  | withContent hc key hc' block ih ih' =>
    exact ih.withContent key fun below h => halts_script ih' block h

end Machine

end

end Stencil.Render
