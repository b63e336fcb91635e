import Stencil.Render.Script

/-!
# What a sink with a limit takes

A step of rendering that is put together from writes, in any way in which a failure ends what
follows, is known by two things: the bytes that it writes to a sink that takes everything, and how
it ends there. On any other sink it hands over these bytes as if they were written at once
(`Sink.deliver`), and if they do not all fit, then the failure of the sink is how it ends, whatever
would have come later.

`Action.Built` lists the ways to put steps together, `Built.delivers` proves this for each of them,
and `built_run` and `built_runScript` say that scripts are put together like that. A content block
may be any such action, so that contexts are only asked to bind no others (`Context.Built`).
-/

set_option autoImplicit false

namespace Stencil.Render

namespace Sink

/-- Hands bytes over to a sink: those that fit are taken, and if some do not, then this is how it
ends. -/
def deliver {α : Type} (s : Sink) (bytes : List UInt8) (ending : Outcome α) : Outcome α × Sink :=
  (if s.room bytes.length = bytes.length then ending else .failed (.output s.whenFull),
    { s with taken := s.taken ++ bytes.take (s.room bytes.length) })

/-- No sink takes more than it is given. -/
theorem room_le (s : Sink) (n : Nat) : s.room n ≤ n := by
  unfold room
  split
  · exact Nat.le_refl n
  · exact Nat.min_le_left _ _

/-- Handing over nothing changes nothing. -/
@[simp] theorem deliver_nil {α : Type} (s : Sink) (ending : Outcome α) :
    s.deliver [] ending = (ending, s) := by
  have hroom : s.room 0 = 0 := Nat.le_zero.1 (s.room_le 0)
  simp [deliver, hroom]

/-- A text is written by handing its bytes over. -/
theorem write_eq_deliver (s : Sink) (t : Text) : s.write t = s.deliver t.bytes (.done ()) := rfl

/-- Behind bytes that fit, the room for more is what is left of the room for all. -/
theorem room_add_of_fits {s : Sink} {xs : List UInt8} (h : s.room xs.length = xs.length)
    (n : Nat) :
    s.room (xs.length + n) = xs.length + ({ s with taken := s.taken ++ xs } : Sink).room n := by
  cases hl : s.limit? with
  | none => simp [room, hl]
  | some limit =>
    simp only [room, hl, List.length_append] at h ⊢
    omega

/-- Behind bytes that do not fit there is no room for more. -/
theorem room_add_of_not_fits {s : Sink} {m : Nat} (h : s.room m ≠ m) (n : Nat) :
    s.room (m + n) = s.room m := by
  cases hl : s.limit? with
  | none => simp [room, hl] at h
  | some limit =>
    simp only [room, hl] at h ⊢
    omega

/-- Bytes that fit are handed over before others, or together with them. -/
theorem deliver_append_of_fits {α : Type} {s : Sink} {xs : List UInt8}
    (h : s.room xs.length = xs.length) (ys : List UInt8) (ending : Outcome α) :
    s.deliver (xs ++ ys) ending =
      ({ s with taken := s.taken ++ xs } : Sink).deliver ys ending := by
  simp only [deliver, List.length_append, room_add_of_fits h, Nat.add_left_cancel_iff,
    List.take_length_add_append, List.append_assoc]

/-- Behind bytes that do not fit, others make no difference. -/
theorem deliver_append_of_not_fits {α β : Type} {s : Sink} {xs : List UInt8}
    (h : s.room xs.length ≠ xs.length) (ys : List UInt8) (ending : Outcome α)
    (ending' : Outcome β) :
    s.deliver (xs ++ ys) ending =
      (.failed (.output s.whenFull), (s.deliver xs ending').2) := by
  have hroom := room_add_of_not_fits h ys.length
  have hle := s.room_le xs.length
  have hne : s.room xs.length ≠ xs.length + ys.length := by omega
  simp only [deliver, List.length_append, hroom, if_neg hne, List.take_append_of_le_length hle]

end Sink

namespace Action

/-- The action hands the bytes over to every sink and ends as said where they fit. -/
def Delivers {α : Type} (a : Action α) (r : Registry) (bytes : List UInt8)
    (ending : Outcome α) : Prop :=
  ∀ s, a r s = s.deliver bytes ending

/-- What comes behind a result is handed over behind what led to it. -/
theorem Delivers.andThen_done {α β : Type} {a : Action α} {next : α → Action β} {r : Registry}
    {xs ys : List UInt8} {x : α} {ending : Outcome β} (ha : a.Delivers r xs (.done x))
    (hnext : (next x).Delivers r ys ending) : (andThen a next).Delivers r (xs ++ ys) ending := by
  intro s
  by_cases hfits : s.room xs.length = xs.length
  · rw [Sink.deliver_append_of_fits hfits, ← hnext]
    simp [andThen, ha s, Sink.deliver, hfits]
  · rw [Sink.deliver_append_of_not_fits hfits ys ending (.done x)]
    simp [andThen, ha s, Sink.deliver, hfits]

/-- Nothing comes behind an error or a panic. -/
theorem Delivers.andThen_stop {α β : Type} {a : Action α} (next : α → Action β) {r : Registry}
    {xs : List UInt8} {stop : Outcome α} {stop' : Outcome β} (ha : a.Delivers r xs stop)
    (hstop : (∃ e, stop = .failed e ∧ stop' = .failed e) ∨
      ∃ m, stop = .panicked m ∧ stop' = .panicked m) :
    (andThen a next).Delivers r xs stop' := by
  intro s
  by_cases hfits : s.room xs.length = xs.length
  · rcases hstop with ⟨e, rfl, rfl⟩ | ⟨m, rfl, rfl⟩
    · simp [andThen, ha s, Sink.deliver, hfits]
    · simp [andThen, ha s, Sink.deliver, hfits]
  · simp [andThen, ha s, Sink.deliver, hfits]

/-- A guard changes how a panic ends and nothing else. -/
theorem Delivers.guarded {body : Action Unit} {r : Registry} {xs : List UInt8}
    {ending : Outcome Unit} (h : body.Delivers r xs ending) (template : Text) :
    ∃ ending', (guarded template body).Delivers r xs ending' := by
  cases ending with
  | done x =>
    refine ⟨.done x, fun s => ?_⟩
    by_cases hfits : s.room xs.length = xs.length <;>
      simp [Action.guarded, h s, Sink.deliver, hfits]
  | failed e =>
    refine ⟨.failed e, fun s => ?_⟩
    by_cases hfits : s.room xs.length = xs.length <;>
      simp [Action.guarded, h s, Sink.deliver, hfits]
  | panicked message? =>
    -- The sink fails before the panic can be recovered from, if it fails at all.
    refine ⟨.failed (.recovered template (message?.getD "unknown panic")), fun s => ?_⟩
    by_cases hfits : s.room xs.length = xs.length <;>
      simp [Action.guarded, h s, Sink.deliver, hfits]

/-- Actions that are put together from writes so that a failure ends what follows. -/
inductive Built : {α : Type} → Action α → Prop
  | done {α : Type} (a : α) : Built (done a)
  | fail {α : Type} (error : RenderError) : Built (fail error : Action α)
  | panic {α : Type} (message? : Option Text) : Built (panic message? : Action α)
  | write (t : Text) : Built (write t)
  | escaperFor (fileType : Text) : Built (escaperFor fileType)
  | andThen {α β : Type} {a : Action α} {next : α → Action β} (ha : Built a)
      (hnext : ∀ x, Built (next x)) : Built (andThen a next)
  | guarded (template : Text) {body : Action Unit} (hbody : Built body) :
      Built (guarded template body)

/-- A result or a failure that is at hand is put together from no writes. -/
theorem Built.ofExcept {α : Type} (x : Except RenderError α) : (ofExcept x).Built := by
  cases x with
  | ok a => exact Built.done a
  | error e => exact Built.fail e

/-- Several writes are put together one after another. -/
theorem Built.writeAll (ts : List Text) : (writeAll ts).Built := by
  induction ts with
  | nil => exact Built.done ()
  | cons t ts ih => exact Built.andThen (Built.write t) fun _ => ih

/-- An action that is put together from writes is known by what it writes and how it ends. -/
theorem Built.delivers {α : Type} {a : Action α} (h : a.Built) (r : Registry) :
    ∃ bytes ending, a.Delivers r bytes ending := by
  induction h with
  | done x => exact ⟨[], .done x, fun s => (s.deliver_nil _).symm⟩
  | fail error => exact ⟨[], .failed error, fun s => (s.deliver_nil _).symm⟩
  | panic message? => exact ⟨[], .panicked message?, fun s => (s.deliver_nil _).symm⟩
  | write t => exact ⟨t.bytes, .done (), fun s => s.write_eq_deliver t⟩
  | escaperFor fileType =>
    cases he : r.escaperFor fileType with
    | ok escaper =>
      refine ⟨[], .done escaper, fun s => ?_⟩
      rw [Sink.deliver_nil, Action.escaperFor, he]
      rfl
    | error e =>
      refine ⟨[], .failed e, fun s => ?_⟩
      rw [Sink.deliver_nil, Action.escaperFor, he]
      rfl
  | @andThen α β a next ha hnext iha ihnext =>
    obtain ⟨xs, ending, hxs⟩ := iha
    cases ending with
    | done x =>
      obtain ⟨ys, ending, hys⟩ := ihnext x
      exact ⟨xs ++ ys, ending, hxs.andThen_done hys⟩
    | failed e => exact ⟨xs, .failed e, hxs.andThen_stop next (.inl ⟨e, rfl, rfl⟩)⟩
    | panicked m => exact ⟨xs, .panicked m, hxs.andThen_stop next (.inr ⟨m, rfl, rfl⟩)⟩
  | guarded template hbody ih =>
    obtain ⟨xs, ending, hxs⟩ := ih
    obtain ⟨ending', hguarded⟩ := hxs.guarded template
    exact ⟨xs, ending', hguarded⟩

end Action

section

variable [Types]

/-- Contexts whose content blocks are put together from writes. -/
inductive Context.Built : Context → Prop
  | empty : Built .empty
  | child {c : Context} (hc : Built c) : Built c.child
  | withValue {c : Context} (hc : Built c) (key : Text) (v : Value) : Built (c.withValue key v)
  | withContent {c : Context} (hc : Built c) (key : Text) {body : Action Unit}
      (hbody : body.Built) : Built (c.withContent key body)

namespace Context

/-- A binding that is added is the one that its key is bound to. -/
theorem lookup?_bind (c : Context) (key key' : Text) (binding : Binding) :
    (c.bind key binding).lookup? key' =
      if key' = key then some binding else c.lookup? key' := by
  have hlast (bindings : List (Text × Binding)) :
      lastBinding? (bindings ++ [(key, binding)]) key' =
        if key' = key then some binding else lastBinding? bindings key' := by
    rw [lastBinding?, List.reverse_append, List.reverse_singleton, List.singleton_append,
      List.lookup_cons]
    by_cases hk : key' = key
    · simp [hk]
    · rw [beq_eq_false_iff_ne.2 hk, if_neg hk, lastBinding?]
  cases c with
  | root bindings => exact hlast bindings
  | layer parent bindings =>
    simp only [bind, lookup?, hlast]
    split
    · rfl
    · rfl

/-- The content blocks of a built context are put together from writes. -/
theorem Built.content {c : Context} (hc : c.Built) {key : Text} {body : Action Unit}
    (h : c.lookup? key = some (.content body)) : body.Built := by
  induction hc with
  | empty => simp [Context.empty, lookup?, lastBinding?] at h
  | child hc ih => exact ih (by simpa [Context.child, lookup?, lastBinding?] using h)
  | withValue hc key' v ih =>
    rw [Context.withValue, lookup?_bind] at h
    split at h
    · simp at h
    · exact ih h
  | withContent hc key' hbody ih =>
    rw [Context.withContent, lookup?_bind] at h
    split at h
    · rw [Option.some.injEq, Binding.content.injEq] at h
      exact h ▸ hbody
    · exact ih h

/-- Yielding on a built context is put together from writes. -/
theorem Built.yield {c : Context} (hc : c.Built) (key : Text) : (c.yield key).Built := by
  refine Action.Built.andThen ?_ fun _ => Action.Built.done ()
  unfold call
  split
  · next body hlookup => exact Action.Built.andThen (hc.content hlookup) fun _ => .done true
  · exact Action.Built.done false

end Context

/-- Writing what a key is bound to is put together from writes. -/
theorem built_writeBound (c : Context) (key : Text) : (writeBound c key).Built := by
  refine Action.Built.andThen (Action.Built.ofExcept _) fun v => ?_
  cases v with
  | string t => exact Action.Built.writeAll _
  | _ => exact Action.Built.done ()

mutual

/-- A step of a script is put together from writes. -/
theorem built_run {c : Context} (hc : c.Built) (i : Instruction) : (i.run c).Built := by
  match i with
  | .write t => exact .write t
  | .escaped fileType shown =>
    exact .andThen (.escaperFor fileType) fun escaper => .writeAll _
  | .raw shown => exact .write shown
  | .bool b => exact .write _
  | .int n => exact .writeAll _
  | .value key => exact built_writeBound c key
  | .yield key => exact hc.yield key
  | .guarded template body => exact .guarded template (built_runScript hc body)
  | .extend slots body => exact built_runScript (built_bindSlots hc hc.child slots) body
  | .fail fileType => exact .fail _
  | .panic message? => exact .panic message?

/-- Running a script on a built context is put together from writes. -/
theorem built_runScript {c : Context} (hc : c.Built) (script : List Instruction) :
    (runScript c script).Built := by
  match script with
  | [] => exact .done ()
  | i :: script => exact .andThen (built_run hc i) fun _ => built_runScript hc script

/-- Binding the content blocks of a script keeps a context built. -/
theorem built_bindSlots {c layer : Context} (hc : c.Built) (hl : layer.Built)
    (slots : List Slot) : (bindSlots c layer slots).Built := by
  match slots with
  | [] => exact hl
  | slot :: slots => exact built_bindSlots hc (built_bindTo hc hl slot) slots

/-- Binding one content block of a script keeps a context built. -/
theorem built_bindTo {c layer : Context} (hc : c.Built) (hl : layer.Built) (slot : Slot) :
    (slot.bindTo c layer).Built := by
  match slot with
  | .mk key body => exact hl.withContent key (built_runScript hc body)

end

end

/-- A sink without a limit takes all bytes, and the end is the one that was meant. -/
theorem deliver_unlimited (bytes : List UInt8) (ending : Outcome Unit) :
    ({} : Sink).deliver bytes ending = (ending, { taken := bytes }) := by
  simp [Sink.deliver, Sink.room]

/-- A script writes the same to a sink with a limit as to one without, up to the limit. If
everything fits, then it ends in the same way; if not, then with the failure of the sink, and the
sink has taken exactly the bytes up to the limit. -/
theorem limited_sink_takes_first_bytes [Types] (r : Registry) {c : Context} (hc : c.Built)
    (script : Script) (limit : Nat) (whenFull : SinkFailure) :
    let free := runScript c script r {}
    let limited := runScript c script r { limit? := some limit, whenFull }
    (free.2.taken.length ≤ limit →
        limited.1 = free.1 ∧ limited.2.taken = free.2.taken) ∧
      (limit < free.2.taken.length →
        limited.1 = .failed (.output whenFull) ∧ limited.2.taken = free.2.taken.take limit) := by
  intro free limited
  obtain ⟨bytes, ending, h⟩ := (built_runScript hc script).delivers r
  have hfree : free = (ending, { taken := bytes }) := (h {}).trans (deliver_unlimited bytes ending)
  have hlimited : limited = Sink.deliver { limit? := some limit, whenFull } bytes ending := h _
  rw [hfree, hlimited]
  constructor
  · intro hle
    have hroom : min bytes.length limit = bytes.length := Nat.min_eq_left hle
    simp [Sink.deliver, Sink.room, hroom]
  · intro hlt
    have hroom : min bytes.length limit = limit := Nat.min_eq_right (Nat.le_of_lt hlt)
    have hne : limit ≠ bytes.length := Nat.ne_of_lt hlt
    simp [Sink.deliver, Sink.room, hroom, hne]

/-- The sink fails inside of an entity, in a content block that is taken under two guards. Without
a limit the panic behind it would have been recovered from. -/
theorem limited_sink_fails_in_entity :
    let c := (Context.empty.withValue "name" (.string "<a>")).withContent "note"
      (runScript .empty [.escaped "html" "1 < 2", .int (-12)])
    let script : Script :=
      [.guarded "page" [.extend [.mk "main" [.value "name", .yield "note"]]
        [.write "ab", .guarded "base" [.yield "main", .panic (some "boom")]]]]
    c.Built ∧
      (runScript c script {} {}).1 = .failed (.recovered "base" "boom") ∧
      (runScript c script {} {}).2.taken = Text.bytes "ab&lt;a&gt;1 &lt; 2-12" ∧
      (runScript c script {} { limit? := some 15 }).1 = .failed (.output .brokenPipe) ∧
      (runScript c script {} { limit? := some 15 }).2.taken = Text.bytes "ab&lt;a&gt;1 &l" := by
  intro c script
  have hc : c.Built :=
    (Context.Built.empty.withValue _ _).withContent _ (built_runScript .empty _)
  have hfree : (runScript c script {} {}).2.taken = Text.bytes "ab&lt;a&gt;1 &lt; 2-12" := by
    decide +kernel
  obtain ⟨hfailed, htaken⟩ := (limited_sink_takes_first_bytes {} hc script 15 .brokenPipe).2
    (by rw [hfree]; decide)
  refine ⟨hc, by decide +kernel, hfree, hfailed, ?_⟩
  rw [htaken, hfree]
  decide

end Stencil.Render
