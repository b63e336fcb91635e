import Stencil.Proofs.Render.Delivery
import Stencil.Proofs.Render.Shadowing

/-!
# The error list

Adding a message copies the error list of the nearest layer and binds the longer list in the
innermost one. So the list of the innermost layer hides all earlier ones, and whatever else the
reserved key was bound to, but it starts with what it hides: along any steps that leave the reserved
key alone, the list only grows at its end (`Context.errors_build`).

No other key is touched (`Context.lookup?_addErrors`), and neither is any layer below
(`Context.ancestor?_build`).
-/

set_option autoImplicit false

namespace Stencil.Render

namespace Context

variable [Types]

/-! ## Reading the list -/

/-- A list of texts under its key is the error list. -/
theorem errors_of_strings {c : Context} {messages : List Text}
    (h : c.lookup? errorsKey = some (.value (.strings messages))) : c.errors = messages := by
  rw [errors, h]

/-- If its key is bound to anything else, or to nothing, the error list is empty. -/
theorem errors_of_other {c : Context}
    (h : ∀ messages, c.lookup? errorsKey ≠ some (.value (.strings messages))) : c.errors = [] := by
  unfold errors
  split
  · next messages hm => exact absurd hm (h messages)
  · rfl

/-- The error list depends on what its key is bound to alone. -/
theorem errors_congr {c c' : Context} (h : c.lookup? errorsKey = c'.lookup? errorsKey) :
    c.errors = c'.errors := by
  rw [errors, errors, h]

/-- There are errors when the error list is not empty. -/
theorem hasErrors_iff (c : Context) : c.hasErrors = true ↔ c.errors ≠ [] := by
  simp [hasErrors]

/-! ## One step -/

/-- A message is added at the end of the error list. -/
theorem errors_addError (c : Context) (message : Text) :
    (c.addError message).errors = c.errors ++ [message] := by
  apply errors_of_strings
  rw [addError, withValue, lookup?_bind, if_pos rfl]

/-- Binding another key leaves the error list as it is. -/
theorem errors_bind {c : Context} {key : Text} {binding : Binding} (h : key ≠ errorsKey) :
    (c.bind key binding).errors = c.errors := by
  apply errors_congr
  rw [lookup?_bind, if_neg h.symm]

/-- Whether a step binds the key of the error list to something else. -/
def Step.Overwrites : Step → Prop
  | value key _ => key = errorsKey
  | content key _ => key = errorsKey
  | child | error _ => False

/-- The message that a step adds, if it adds one. -/
def Step.messages : Step → List Text
  | error message => [message]
  | child | value _ _ | content _ _ => []

/-- A step that does not overwrite the error list adds its messages to it. -/
theorem errors_apply (c : Context) {step : Step} (h : ¬ step.Overwrites) :
    (c.apply step).errors = c.errors ++ step.messages := by
  cases step with
  | child =>
    rw [apply, errors_congr (c.lookup?_child errorsKey), Step.messages, List.append_nil]
  | value key v =>
    rw [apply, withValue, errors_bind h, Step.messages, List.append_nil]
  | content key body =>
    rw [apply, withContent, errors_bind h, Step.messages, List.append_nil]
  | error message => exact c.errors_addError message

/-! ## Many steps -/

/-- Steps that do not overwrite the error list add their messages to it, in their order. -/
theorem errors_build (c : Context) {steps : List Step} (h : ∀ step ∈ steps, ¬ step.Overwrites) :
    (c.build steps).errors = c.errors ++ steps.flatMap Step.messages := by
  induction steps generalizing c with
  | nil => simp [build]
  | cons step steps ih =>
    obtain ⟨hstep, hsteps⟩ := List.forall_mem_cons.1 h
    calc (c.build (step :: steps)).errors
        = ((c.apply step).build steps).errors := rfl
      _ = (c.apply step).errors ++ steps.flatMap Step.messages := ih (c.apply step) hsteps
      _ = c.errors ++ (step :: steps).flatMap Step.messages := by
        rw [errors_apply c hstep, List.append_assoc, List.flatMap_cons]

/-- Adds messages to the error list, one after another. -/
def addErrors (c : Context) (messages : List Text) : Context :=
  messages.foldl addError c

/-- Messages are added by one step for each. -/
theorem addErrors_eq_build (c : Context) (messages : List Text) :
    c.addErrors messages = c.build (messages.map .error) := by
  rw [addErrors, build, List.foldl_map]
  rfl

/-- Messages that are added stand behind those that were there, in their order. -/
theorem errors_addErrors (c : Context) (messages : List Text) :
    (c.addErrors messages).errors = c.errors ++ messages := by
  rw [addErrors_eq_build, errors_build]
  · simp [List.flatMap_map, Step.messages]
  · intro step hstep
    obtain ⟨message, -, rfl⟩ := List.mem_map.1 hstep
    exact id

/-- Adding messages changes no other key. -/
theorem lookup?_addErrors (c : Context) (messages : List Text) {key : Text}
    (h : key ≠ errorsKey) : (c.addErrors messages).lookup? key = c.lookup? key := by
  induction messages generalizing c with
  | nil => rfl
  | cons message messages ih =>
    have hone : (c.addError message).lookup? key = c.lookup? key := by
      rw [addError, withValue, lookup?_bind, if_neg h]
    exact (ih (c.addError message)).trans hone

/-- Adding messages leaves the layers below as they are. -/
theorem ancestor?_addErrors (c : Context) (messages : List Text) (n : Nat) :
    (c.addErrors messages).ancestor? (n + 1) = c.ancestor? (n + 1) := by
  have hopened : opened (messages.map .error) = 0 := by
    induction messages with
    | nil => rfl
    | cons message messages ih => simpa [opened, Step.opens] using ih
  have hbelow := ancestor?_build n c (messages.map .error)
  rwa [hopened, Nat.add_zero, ← addErrors_eq_build] at hbelow

/-! ## Other keys -/

/-- Every question about the key has the same answer in both contexts. -/
structure SameAt (c c' : Context) (key : Text) : Prop where
  contains : c'.contains key = c.contains key
  get? (type : ValueType) : c'.get? type key = c.get? type key
  value (type : ValueType) : c'.value type key = c.value type key
  getText : c'.getText key = c.getText key
  call : c'.call key = c.call key
  yield : c'.yield key = c.yield key

/-- If a key is bound alike, every question about it has the same answer. -/
theorem sameAt_of_lookup? {c c' : Context} {key : Text} (h : c'.lookup? key = c.lookup? key) :
    c.SameAt c' key := by
  have hget (type : ValueType) : c'.get? type key = c.get? type key := by
    rw [get?, get?, h]
  have hcall : c'.call key = c.call key := by
    rw [call, call, h]
  constructor
  · rw [contains, contains, h]
  · exact hget
  · intro type
    rw [value, value, hget]
  · rw [getText, getText, h]
  · exact hcall
  · rw [yield, yield, hcall]

end Context

/-- Adding messages to any context puts them at the end of its error list, in order, and there are
errors afterwards unless this list is empty. If the key of the list was bound to something else,
then the list starts with the first message. No other key has another answer than before. The layers
below stay as they are, and a layer that is opened later starts with the list and adds to it. -/
theorem error_list_grows [Types] (c : Context) (messages : List Text) :
    let grown := c.addErrors messages
    grown.errors = c.errors ++ messages ∧
      (grown.hasErrors = true ↔ c.errors ++ messages ≠ []) ∧
      (∀ b, LastBound c.flat Context.errorsKey b → (∀ texts, b ≠ .value (.strings texts)) →
        grown.errors = messages) ∧
      (∀ key, key ≠ Context.errorsKey → c.SameAt grown key) ∧
      (∀ n, grown.ancestor? (n + 1) = c.ancestor? (n + 1)) ∧
      ∀ later : List Context.Step, (∀ step ∈ later, ¬ step.Overwrites) →
        (grown.child.build later).errors =
          c.errors ++ messages ++ later.flatMap Context.Step.messages := by
  intro grown
  have hgrown : grown.errors = c.errors ++ messages := c.errors_addErrors messages
  refine ⟨hgrown, ?_, ?_, ?_, c.ancestor?_addErrors messages, ?_⟩
  · rw [grown.hasErrors_iff, hgrown]
  · intro b hb hother
    have hnone : c.errors = [] := by
      apply Context.errors_of_other
      intro texts htexts
      rw [Context.lookup?_eq_some_iff] at htexts
      exact hother texts (hb.unique htexts)
    rw [hgrown, hnone, List.nil_append]
  · intro key hkey
    exact Context.sameAt_of_lookup? (c.lookup?_addErrors messages hkey)
  · intro later hlater
    rw [Context.errors_build _ hlater, Context.errors_congr (grown.lookup?_child _), hgrown]

/-- A layer binds the key of the error list to a truth value and hides the list below, which stays
as it is while messages are added to the layer and to a further one. -/
theorem errors_of_layer_with_other_value :
    let parent := Context.empty.addError "old"
    let c := (parent.child.withValue "n" (.int32 5)).withValue "errors" (.bool true)
    let grown := c.addErrors ["a", "b"]
    grown.errors = ["a".toList, "b".toList] ∧ grown.hasErrors = true ∧
      grown.get? .int32 "n" = some (.int32 5) ∧ grown.ancestor? 1 = some parent ∧
      parent.errors = ["old".toList] ∧
      (grown.child.build [.value "x" (.bool true), .error "c"]).errors =
        ["a".toList, "b".toList, "c".toList] := by
  intro parent c grown
  obtain ⟨-, hany, hother, hsame, hbelow, hlater⟩ := error_list_grows c ["a", "b"]
  have hlast : LastBound c.flat Context.errorsKey (.value (.bool true)) :=
    ⟨[_, _], [], rfl, by simp⟩
  refine ⟨hother _ hlast (by simp), hany.2 (by decide), ?_, hbelow 0, rfl, ?_⟩
  · rw [(hsame "n" (by decide)).get? .int32]
    rfl
  · apply hlater
    intro step hstep
    rcases List.mem_cons.1 hstep with rfl | hstep
    · exact (by decide : "x".toList ≠ Context.errorsKey)
    · rw [List.mem_singleton.1 hstep]
      exact id

end Stencil.Render
