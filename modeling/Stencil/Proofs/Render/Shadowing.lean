import Stencil.Render.Context

/-!
# Bindings that hide others

The layers of a context stand for one list of bindings, those of the outermost layer first
(`Context.flat`). A key is bound to what the last entry of that list binds it to, whatever the
entries before it hold, and every question that can be asked of a context is answered by that
entry alone (`Context.Answers`).

A step of building a context either opens a layer, which adds nothing to the list, or adds one
entry at its end (`Context.flat_apply`). It never reaches beyond the innermost layer
(`Context.ancestor?_apply`), so what is done to a layer is not seen from the context below it.
-/

set_option autoImplicit false

namespace Stencil.Render

/-! ## The last entry of a key -/

/-- The last entry of the key in the list. -/
def LastBound {β : Type} (entries : List (Text × β)) (key : Text) (b : β) : Prop :=
  ∃ before after, entries = before ++ (key, b) :: after ∧ ∀ e ∈ after, e.1 ≠ key

/-- Looking up from the back finds the last entry of the key. -/
theorem lookup_reverse_eq_some_iff {β : Type} {entries : List (Text × β)} {key : Text} {b : β} :
    entries.reverse.lookup key = some b ↔ LastBound entries key b := by
  rw [List.lookup_eq_some_iff]
  constructor
  · rintro ⟨l, m, hsplit, hl⟩
    refine ⟨m.reverse, l.reverse, ?_, ?_⟩
    · rw [← List.reverse_reverse entries, hsplit]
      simp
    · intro e he
      have hne := hl e (List.mem_reverse.1 he)
      exact (bne_iff_ne.1 hne).symm
  · rintro ⟨before, after, rfl, hafter⟩
    refine ⟨after.reverse, before.reverse, by simp, ?_⟩
    intro e he
    exact bne_iff_ne.2 (hafter e (List.mem_reverse.1 he)).symm

/-- A key has at most one last entry. -/
theorem LastBound.unique {β : Type} {entries : List (Text × β)} {key : Text} {b b' : β}
    (h : LastBound entries key b) (h' : LastBound entries key b') : b = b' := by
  rw [← lookup_reverse_eq_some_iff] at h h'
  exact Option.some.inj (h.symm.trans h')

/-- Looking up from the back finds nothing if the key has no entry. -/
theorem lookup_reverse_eq_none_iff {β : Type} {entries : List (Text × β)} {key : Text} :
    entries.reverse.lookup key = none ↔ ∀ b, ¬ LastBound entries key b := by
  rw [Option.eq_none_iff_forall_ne_some]
  simp only [ne_eq, lookup_reverse_eq_some_iff]

namespace Context

variable [Types]

/-! ## One list of bindings -/

/-- The bindings of all layers, from the outermost to the innermost. -/
def flat : Context → List (Text × Binding)
  | root bindings => bindings
  | layer parent bindings => parent.flat ++ bindings

/-- A binding comes last among those of all layers. -/
theorem flat_bind (c : Context) (key : Text) (binding : Binding) :
    (c.bind key binding).flat = c.flat ++ [(key, binding)] := by
  cases c with
  | root bindings => rfl
  | layer parent bindings => simp [bind, flat]

/-- A new layer binds nothing. -/
theorem flat_child (c : Context) : c.child.flat = c.flat := by
  simp [child, flat]

/-- Looking through the layers from the innermost to the outermost finds the last entry of the
list. -/
theorem lookup?_eq (c : Context) (key : Text) : c.lookup? key = c.flat.reverse.lookup key := by
  induction c with
  | root bindings => rfl
  | layer parent bindings ih =>
    rw [lookup?, ih, flat, List.reverse_append, List.lookup_append]
    rfl

/-- A key is bound in a new layer as in the context below. -/
theorem lookup?_child (c : Context) (key : Text) : c.child.lookup? key = c.lookup? key := by
  rw [lookup?_eq, lookup?_eq, flat_child]

/-- A key is bound to its last entry among those of all layers. -/
theorem lookup?_eq_some_iff {c : Context} {key : Text} {b : Binding} :
    c.lookup? key = some b ↔ LastBound c.flat key b := by
  rw [lookup?_eq, lookup_reverse_eq_some_iff]

/-! ## Building a context -/

/-- A step of building a context. -/
inductive Step
  /-- Opens a layer. -/
  | child
  /-- Binds a key to a value. -/
  | value (key : Text) (v : Value)
  /-- Binds a key to a content block. -/
  | content (key : Text) (body : Action Unit)
  /-- Adds a message to the error list. -/
  | error (message : Text)

/-- The context behind a step. -/
def apply (c : Context) : Step → Context
  | .child => c.child
  | .value key v => c.withValue key v
  | .content key body => c.withContent key body
  | .error message => c.addError message

/-- The context behind several steps. -/
def build (c : Context) (steps : List Step) : Context :=
  steps.foldl apply c

/-- The error list that a list of bindings holds. -/
def errorsOf (entries : List (Text × Binding)) : List Text :=
  match entries.reverse.lookup errorsKey with
  | some (.value (.strings messages)) => messages
  | _ => []

/-- What a step adds to a list of bindings. -/
def Step.entries (before : List (Text × Binding)) : Step → List (Text × Binding)
  | child => []
  | value key v => [(key, .value v)]
  | content key body => [(key, .content body)]
  | error message => [(errorsKey, .value (.strings (errorsOf before ++ [message])))]

/-- The list of bindings that steps make, without any layers. -/
def listed (steps : List Step) : List (Text × Binding) :=
  steps.foldl (fun entries step => entries ++ step.entries entries) []

/-- The error list is that of the bindings of all layers. -/
theorem errors_eq (c : Context) : c.errors = errorsOf c.flat := by
  have hlookup := lookup?_eq c errorsKey
  unfold errors errorsOf
  generalize c.lookup? errorsKey = found at hlookup ⊢
  subst hlookup
  rfl

/-- A step adds its entries behind those of all layers. -/
theorem flat_apply (c : Context) (step : Step) :
    (c.apply step).flat = c.flat ++ step.entries c.flat := by
  cases step with
  | child => simp [apply, flat_child, Step.entries]
  | value key v => exact c.flat_bind key _
  | content key body => exact c.flat_bind key _
  | error message =>
    rw [apply, addError, withValue, flat_bind, errors_eq]
    rfl

/-- Several steps add their entries, each by what is bound before it. -/
theorem flat_build (c : Context) (steps : List Step) :
    (c.build steps).flat =
      steps.foldl (fun entries step => entries ++ step.entries entries) c.flat := by
  induction steps generalizing c with
  | nil => rfl
  | cons step steps ih =>
    rw [build, List.foldl_cons, List.foldl_cons, ← flat_apply]
    exact ih (c.apply step)

/-! ## The layers below -/

/-- The context that lies the given number of layers below. -/
def ancestor? : Nat → Context → Option Context
  | 0, c => some c
  | _ + 1, root _ => none
  | n + 1, layer parent _ => parent.ancestor? n

/-- How many layers a step opens. -/
def Step.opens : Step → Nat
  | child => 1
  | _ => 0

/-- How many layers the steps open. -/
def opened (steps : List Step) : Nat :=
  steps.foldr (fun step count => step.opens + count) 0

/-- Binding a key changes no layer below. -/
theorem ancestor?_bind (n : Nat) (c : Context) (key : Text) (binding : Binding) :
    (c.bind key binding).ancestor? (n + 1) = c.ancestor? (n + 1) := by
  cases c with
  | root bindings => rfl
  | layer parent bindings => rfl

/-- A step leaves everything below the innermost layer as it is. -/
theorem ancestor?_apply (n : Nat) (c : Context) (step : Step) :
    (c.apply step).ancestor? (n + 1 + step.opens) = c.ancestor? (n + 1) := by
  cases step with
  | child => rfl
  | value key v => exact c.ancestor?_bind n key _
  | content key body => exact c.ancestor?_bind n key _
  | error message => exact c.ancestor?_bind n errorsKey _

/-- Steps change no layer that lies below those they open. -/
theorem ancestor?_build (n : Nat) (c : Context) (steps : List Step) :
    (c.build steps).ancestor? (n + 1 + opened steps) = c.ancestor? (n + 1) := by
  induction steps generalizing n c with
  | nil => rfl
  | cons step steps ih =>
    have hcount : n + 1 + opened (step :: steps) = n + step.opens + 1 + opened steps := by
      simp only [opened, List.foldr_cons]
      omega
    have hstep : n + step.opens + 1 = n + 1 + step.opens := by omega
    rw [hcount, ← ancestor?_apply n c step, ← hstep]
    exact ih (n + step.opens) (c.apply step)

/-! ## Answers -/

/-- Every question asked of the context is answered by the last entry of the key in the list. -/
structure Answers (c : Context) (entries : List (Text × Binding)) : Prop where
  contains_iff (key : Text) : c.contains key = true ↔ ∃ b, LastBound entries key b
  get?_eq_some_iff (key : Text) (type : ValueType) (v : Value) :
    c.get? type key = some v ↔ LastBound entries key (.value v) ∧ v.type = type
  value_eq_ok_iff (key : Text) (type : ValueType) (v : Value) :
    c.value type key = .ok v ↔ c.get? type key = some v
  value_eq_error_iff (key : Text) (type : ValueType) (e : RenderError) :
    c.value type key = .error e ↔ c.get? type key = none ∧ e = .missingContext key type.name
  getText_of_string (key t : Text) : LastBound entries key (.value (.string t)) → c.getText key = t
  getText_of_str (key t : Text) : LastBound entries key (.value (.str t)) → c.getText key = t
  getText_of_other (key : Text) :
    (∀ t, ¬ LastBound entries key (.value (.string t)) ∧
      ¬ LastBound entries key (.value (.str t))) → c.getText key = []
  call_of_content (key : Text) (body : Action Unit) :
    LastBound entries key (.content body) →
      c.call key = do
        body
        return true
  call_of_other (key : Text) :
    (∀ body, ¬ LastBound entries key (.content body)) → c.call key = return false

/-- A value is found if its key is bound to it and the type is the one it was stored with. -/
theorem get?_eq_some_iff {c : Context} {key : Text} {type : ValueType} {v : Value} :
    c.get? type key = some v ↔ c.lookup? key = some (.value v) ∧ v.type = type := by
  unfold get?
  split
  · next w hw =>
    rw [hw]
    split
    · next htype =>
      constructor
      · rintro ⟨⟩
        exact ⟨rfl, htype⟩
      · rintro ⟨⟨⟩, -⟩
        rfl
    · next htype =>
      refine ⟨nofun, ?_⟩
      rintro ⟨⟨⟩, hv⟩
      exact absurd hv htype
  · next hother =>
    refine ⟨nofun, ?_⟩
    rintro ⟨hv, -⟩
    exact absurd hv (hother v)

/-- What is bound to no text is found as the empty text. -/
theorem getText_of_other {c : Context} {key : Text}
    (h : ∀ t, c.lookup? key ≠ some (.value (.string t)) ∧ c.lookup? key ≠ some (.value (.str t))) :
    c.getText key = [] := by
  unfold getText
  split
  · next t ht => exact absurd ht (h t).1
  · next t ht => exact absurd ht (h t).2
  · rfl

/-- What is bound to no content block is not called. -/
theorem call_of_other {c : Context} {key : Text}
    (h : ∀ body, c.lookup? key ≠ some (.content body)) : c.call key = return false := by
  unfold call
  split
  · next body hbody => exact absurd hbody (h body)
  · rfl

/-- A context answers by the bindings of all its layers. -/
theorem answers_flat (c : Context) : c.Answers c.flat where
  contains_iff key := by
    simp only [contains, Option.isSome_iff_exists, lookup?_eq_some_iff]
  get?_eq_some_iff key type v := by
    rw [Context.get?_eq_some_iff, lookup?_eq_some_iff]
  value_eq_ok_iff key type v := by
    unfold value
    cases c.get? type key with
    | none => simp
    | some w => simp
  value_eq_error_iff key type e := by
    unfold value
    cases c.get? type key with
    | none => simp [eq_comm]
    | some w => simp
  getText_of_string key t h := by
    rw [getText, lookup?_eq_some_iff.2 h]
  getText_of_str key t h := by
    rw [getText, lookup?_eq_some_iff.2 h]
  getText_of_other key h := by
    refine Context.getText_of_other fun t => ?_
    simpa only [ne_eq, lookup?_eq_some_iff] using h t
  call_of_content key body h := by
    rw [call, lookup?_eq_some_iff.2 h]
  call_of_other key h := by
    refine Context.call_of_other fun body => ?_
    simpa only [ne_eq, lookup?_eq_some_iff] using h body

end Context

/-- A context that is built in any way answers every question as the list of all bindings does,
the outermost first, in which the last entry of a key counts. What is done to a layer over it, or
to further layers over that one, leaves it as it is. -/
theorem layers_refine_list [Types] (steps more : List Context.Step) :
    let c := Context.empty.build steps
    c.flat = Context.listed steps ∧ c.Answers c.flat ∧
      (c.child.build more).ancestor? (Context.opened more + 1) = some c := by
  intro c
  refine ⟨Context.flat_build .empty steps, c.answers_flat, ?_⟩
  have hbelow := c.child.ancestor?_build 0 more
  rw [Nat.zero_add, Nat.add_comm] at hbelow
  exact hbelow

/-- A content block hides the text that an outer layer binds to its key, and the outer layer still
has its text. Of two types of a program that have the same name, a value is found by its own. -/
theorem content_hides_outer_text :
    let _ : Types := ⟨Bool, fun _ => Nat, fun _ => "User", inferInstance⟩
    let body := Action.write "inner"
    let c := Context.empty.build [.value "n" (.str "outer")]
    let layered := Context.empty.build [.value "n" (.str "outer"), .child, .content "n" body]
    let typed := Context.empty.build [.value "user" (.own true (7 : Nat))]
    (layered.getText "n" = [] ∧ layered.call "n" = (do body; return true) ∧
        (c.child.build [.content "n" body]).ancestor? 1 = some c ∧
        c.getText "n" = "outer".toList) ∧
      typed.get? (.own true) "user" = some (.own true (7 : Nat)) ∧
      typed.value (.own false) "user" = .error (.missingContext "user" "User") := by
  intro _ body c layered typed
  obtain ⟨-, hlayered, -⟩ := layers_refine_list
    [.value "n" (.str "outer"), .child, .content "n" body] []
  obtain ⟨-, hc, hbelow⟩ := layers_refine_list [.value "n" (.str "outer")] [.content "n" body]
  obtain ⟨-, htyped, -⟩ := layers_refine_list [.value "user" (.own true (7 : Nat))] []
  have hlast : LastBound layered.flat "n".toList (.content body) :=
    ⟨[_], [], rfl, by simp⟩
  have huser : LastBound typed.flat "user".toList (.value (.own true (7 : Nat))) :=
    ⟨[], [], rfl, by simp⟩
  refine ⟨⟨hlayered.getText_of_other _ ?_, hlayered.call_of_content _ _ hlast, hbelow,
    hc.getText_of_str _ _ ⟨[], [], rfl, by simp⟩⟩,
    (htyped.get?_eq_some_iff _ _ _).2 ⟨huser, rfl⟩, (htyped.value_eq_error_iff _ _ _).2 ⟨?_, rfl⟩⟩
  · intro t
    constructor
    · intro h
      cases h.unique hlast
    · intro h
      cases h.unique hlast
  · refine Option.eq_none_iff_forall_ne_some.2 fun v hv => ?_
    obtain ⟨hbound, htype⟩ := (htyped.get?_eq_some_iff _ _ _).1 hv
    cases hbound.unique huser
    cases htype

end Stencil.Render
