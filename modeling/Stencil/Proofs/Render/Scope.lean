import Mathlib.Data.List.Forall2
import Stencil.Proofs.Render.Shadowing
import Stencil.Render.Script

/-!
# The scope of content blocks

A content block runs on the context that it is written in, not on the layer that it is bound in
(`Context.extend`). So a yield on a layer takes the last block of that name on the context below,
or is passed on to that context if the layer has no such block (`Context.yield_extend_of_last`,
`Context.yield_extend_of_none`). Along layers over layers, each of which passes a name on by a
block that yields it, the yield reaches the outermost context, and on its way it takes the block
of every layer exactly once (`Context.yield_extendAll`).

Scripts extend contexts in the same way (`bindSlots_eq`, `runScript_nest`).
-/

set_option autoImplicit false

namespace Stencil.Render

namespace Action

/-- Nothing is done behind the last step. -/
theorem bind_done (a : Action Unit) : (a >>= fun _ => done ()) = a := by
  funext r s
  change andThen a (fun _ => done ()) r s = a r s
  unfold andThen
  split
  · next hended => exact hended.symm
  · next hended => exact hended.symm
  · next hended => exact hended.symm

/-- Takes an action between two others. -/
def between (ends : Action Unit × Action Unit) (inner : Action Unit) : Action Unit := do
  ends.1
  inner
  ends.2

end Action

section

variable [Types]

/-- A content block as a function of the context that it runs on. -/
abbrev ContentBody := Context → Action Unit

namespace Context

/-! ## Taking a content block -/

/-- Yielding a key that is bound to a content block runs the block. -/
theorem yield_of_content {c : Context} {key : Text} {body : Action Unit}
    (h : c.lookup? key = some (.content body)) : c.yield key = body := by
  have hcall : c.call key = do
      body
      return true := by
    rw [call, h]
  rw [yield, hcall]
  funext r s
  change Action.andThen (Action.andThen body fun _ => .done true) (fun _ => .done ()) r s = body r s
  rw [Action.andThen, Action.andThen]
  rcases hended : body r s with ⟨result | error | message?, s'⟩
  · rfl
  · rfl
  · rfl

/-- Yielding any other key does nothing. -/
theorem yield_of_other {c : Context} {key : Text}
    (h : ∀ body, c.lookup? key ≠ some (.content body)) : c.yield key = Action.done () := by
  rw [yield, call_of_other h]
  rfl

/-- Yielding depends only on what the key is bound to. -/
theorem yield_congr {c c' : Context} {key : Text} (h : c.lookup? key = c'.lookup? key) :
    c.yield key = c'.yield key := by
  rw [yield, yield, call, call, h]

/-! ## One layer -/

/-- A layer over the context that binds content blocks, one after another. Their bodies run on the
context below the layer. -/
def extend (c : Context) (slots : List (Text × ContentBody)) : Context :=
  slots.foldl (fun layer slot => layer.withContent slot.1 (slot.2 c)) c.child

/-- The content blocks of a layer are bound behind all that was bound before. -/
theorem flat_extend (c : Context) (slots : List (Text × ContentBody)) :
    (c.extend slots).flat = c.flat ++ slots.map fun slot => (slot.1, .content (slot.2 c)) := by
  have hfold (layer : Context) :
      (slots.foldl (fun layer slot => layer.withContent slot.1 (slot.2 c)) layer).flat =
        layer.flat ++ slots.map fun slot => (slot.1, .content (slot.2 c)) := by
    induction slots generalizing layer with
    | nil => simp
    | cons slot slots ih =>
      rw [List.foldl_cons, ih, withContent, flat_bind, List.append_assoc]
      rfl
  rw [extend, hfold, flat_child]

omit [Types] in
/-- Looking a key up commutes with a change of what keys are bound to. -/
theorem lookup_map {β γ : Type} (f : β → γ) (entries : List (Text × β)) (key : Text) :
    (entries.map fun e => (e.1, f e.2)).lookup key = (entries.lookup key).map f := by
  induction entries with
  | nil => rfl
  | cons e entries ih =>
    rw [List.map_cons, List.lookup_cons, List.lookup_cons, ih]
    cases key == e.1 with
    | true => rfl
    | false => rfl

/-- A key is looked up in the layer first, the last binding before the others. -/
theorem lookup?_extend (c : Context) (slots : List (Text × ContentBody)) (key : Text) :
    (c.extend slots).lookup? key =
      ((slots.reverse.lookup key).map fun body => Binding.content (body c)).or (c.lookup? key) := by
  rw [lookup?_eq, lookup?_eq, flat_extend, List.reverse_append, List.lookup_append,
    ← List.map_reverse, lookup_map fun body : ContentBody => Binding.content (body c)]

/-- Yielding a key of the layer runs the last block under it, on the context below. -/
theorem yield_extend_of_last {slots : List (Text × ContentBody)} {key : Text} {body : ContentBody}
    (h : LastBound slots key body) (c : Context) : (c.extend slots).yield key = body c := by
  refine yield_of_content ?_
  rw [lookup?_extend, lookup_reverse_eq_some_iff.2 h]
  rfl

/-- Yielding a key that the layer does not bind is yielding it below. -/
theorem yield_extend_of_none {slots : List (Text × ContentBody)} {key : Text}
    (h : ∀ body, ¬ LastBound slots key body) (c : Context) :
    (c.extend slots).yield key = c.yield key := by
  refine yield_congr ?_
  rw [lookup?_extend, lookup_reverse_eq_none_iff.2 h]
  rfl

/-! ## Layers over layers -/

/-- Layers over the context, the first of them lying on the context itself. -/
def extendAll (c : Context) (layers : List (List (Text × ContentBody))) : Context :=
  layers.foldl extend c

/-- Where every layer only adds something around a yield on the context below it, the yield on the
innermost layer adds all of this around the yield on the outermost context. -/
theorem yield_extendAll {key : Text} {layers : List (List (Text × ContentBody))}
    {around : List (Action Unit → Action Unit)}
    (h : List.Forall₂ (fun slots add => ∀ c : Context,
      (c.extend slots).yield key = add (c.yield key)) layers around) (c : Context) :
    (c.extendAll layers).yield key =
      around.foldl (fun inner add => add inner) (c.yield key) := by
  induction h generalizing c with
  | nil => rfl
  | @cons slots add layers around hslots hlayers ih =>
    rw [extendAll, List.foldl_cons, List.foldl_cons, ← hslots c]
    exact ih (c.extend slots)

/-- Where every layer passes a key on, yielding it is yielding it on the outermost context. -/
theorem yield_extendAll_of_passed {key : Text} {layers : List (List (Text × ContentBody))}
    (h : ∀ slots ∈ layers, LastBound slots key fun c => c.yield key) (c : Context) :
    (c.extendAll layers).yield key = c.yield key := by
  have hadd : List.Forall₂ (fun slots add => ∀ c : Context,
      (c.extend slots).yield key = add (c.yield key)) layers (layers.map fun _ => id) := by
    rw [List.forall₂_map_right_iff, List.forall₂_same]
    exact fun slots hslots => yield_extend_of_last (h slots hslots)
  rw [yield_extendAll hadd, List.foldl_map]
  exact List.foldl_fixed layers

end Context

/-! ## Scripts -/

/-- A content block of a script, under its key. -/
def Slot.entry : Slot → Text × ContentBody
  | .mk key body => (key, fun c => runScript c body)

/-- The content blocks of a script make a layer over its context. -/
theorem bindSlots_eq (c : Context) (slots : List Slot) :
    bindSlots c c.child slots = c.extend (slots.map Slot.entry) := by
  have hfold (layer : Context) : bindSlots c layer slots =
      (slots.map Slot.entry).foldl (fun layer slot => layer.withContent slot.1 (slot.2 c))
        layer := by
    induction slots generalizing layer with
    | nil => rfl
    | cons slot slots ih =>
      obtain ⟨key, body⟩ := slot
      exact ih (layer.withContent key (runScript c body))
  exact hfold c.child

/-- A script of one instruction is the instruction. -/
theorem runScript_single (c : Context) (i : Instruction) : runScript c [i] = i.run c :=
  Action.bind_done (i.run c)

/-- A script inside of extensions, the first of them around all others. -/
def nest : List (List Slot) → Script → Script
  | [], script => script
  | slots :: layers, script => [.extend slots (nest layers script)]

/-- A script inside of extensions runs on all their layers. -/
theorem runScript_nest (c : Context) (layers : List (List Slot)) (script : Script) :
    runScript c (nest layers script) =
      runScript (c.extendAll (layers.map (List.map Slot.entry))) script := by
  induction layers generalizing c with
  | nil => rfl
  | cons slots layers ih =>
    rw [nest, runScript_single, Instruction.run, bindSlots_eq, ih]
    rfl

/-- Where every extension passes a key on, yielding it in the innermost is yielding it on the
outermost context. -/
theorem runScript_nest_of_passed {key : Text} {layers : List (List Slot)}
    (h : ∀ slots ∈ layers, LastBound (slots.map Slot.entry) key fun c => runScript c [.yield key])
    (c : Context) : runScript c (nest layers [.yield key]) = c.yield key := by
  have hyield (c : Context) : runScript c [.yield key] = c.yield key := runScript_single c _
  rw [runScript_nest, hyield]
  refine Context.yield_extendAll_of_passed ?_ c
  intro entries hentries
  obtain ⟨slots, hslots, rfl⟩ := List.mem_map.1 hentries
  rw [← funext hyield]
  exact h slots hslots

/-- On a layer that binds content blocks, a yield takes the last block of the name, on the context
below the layer, and without such a block it is a yield on that context. On a context that binds
the name to no content block it does nothing. Scripts bind their blocks in this way.

Through layers over layers whose blocks of the name only yield it, a yield is a yield on the
outermost context. What such blocks do before and behind their yields is done once for every layer,
from the innermost to the outermost and back: no block comes to be taken by itself. -/
theorem content_scoped_lexically (c : Context) (key : Text) :
    (∀ (slots : List (Text × ContentBody)) (body : ContentBody), LastBound slots key body →
      (c.extend slots).yield key = body c) ∧
    (∀ slots : List (Text × ContentBody), (∀ body, ¬ LastBound slots key body) →
      (c.extend slots).yield key = c.yield key) ∧
    (c.lookup? key = none ∨ (∃ v, c.lookup? key = some (.value v)) →
      c.yield key = Action.done ()) ∧
    (∀ slots : List Slot, bindSlots c c.child slots = c.extend (slots.map Slot.entry)) ∧
    (∀ layers : List (List (Text × ContentBody)),
      (∀ slots ∈ layers, LastBound slots key fun c => c.yield key) →
      (c.extendAll layers).yield key = c.yield key) ∧
    (∀ (layers : List (List (Text × ContentBody))) (ends : List (Action Unit × Action Unit)),
      List.Forall₂ (fun slots e => LastBound slots key fun c => Action.between e (c.yield key))
        layers ends →
      (c.extendAll layers).yield key =
        ends.foldl (fun inner e => Action.between e inner) (c.yield key)) ∧
    (∀ layers : List (List Slot),
      (∀ slots ∈ layers,
        LastBound (slots.map Slot.entry) key fun c => runScript c [.yield key]) →
      runScript c (nest layers [.yield key]) = c.yield key) := by
  refine ⟨?_, ?_, ?_, bindSlots_eq c, ?_, ?_, ?_⟩
  · intro slots body h
    exact Context.yield_extend_of_last h c
  · intro slots h
    exact Context.yield_extend_of_none h c
  · intro h
    refine Context.yield_of_other fun body hbody => ?_
    rcases h with hnone | ⟨v, hv⟩
    · simp [hbody] at hnone
    · simp [hbody] at hv
  · intro layers h
    exact Context.yield_extendAll_of_passed h c
  · intro layers ends h
    have hadd : List.Forall₂ (fun slots add => ∀ c : Context,
        (c.extend slots).yield key = add (c.yield key)) layers (ends.map Action.between) := by
      rw [List.forall₂_map_right_iff]
      exact h.imp fun slots e hlast => Context.yield_extend_of_last hlast
    rw [Context.yield_extendAll hadd, List.foldl_map]
  · intro layers h
    exact runScript_nest_of_passed h c

end

/-- The content of a page reaches the innermost of two layouts, although each layout also has an
earlier block of that name. -/
theorem content_reaches_inner_layout :
    let c := Context.empty.withContent "content" (Action.write "page")
    let slots : List Slot :=
      [.mk "content" [.write "draft"], .mk "content" [.yield "content"], .mk "title" []]
    LastBound (slots.map Slot.entry) "content".toList (fun c => runScript c [.yield "content"]) ∧
      runScript c (nest [slots, slots] [.yield "content"]) {} {} =
        (.done (), { taken := Text.bytes "page" }) := by
  intro c slots
  have hlast : LastBound (slots.map Slot.entry) "content".toList
      fun c => runScript c [.yield "content"] :=
    ⟨[_], [_], rfl, by decide⟩
  refine ⟨hlast, ?_⟩
  have hpassed := (content_scoped_lexically c "content").2.2.2.2.2.2 [slots, slots]
    (by simpa using hlast)
  rw [hpassed]
  decide +kernel

end Stencil.Render
