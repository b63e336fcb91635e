import Stencil.Code.Module
import Stencil.Proofs.Naming.SnakeCase
import Stencil.Proofs.Text.Bracket

/-!
# Brackets of render functions

A render function is well bracketed whatever text its template holds. Texts and names that the
template is free in stand in string literals or are spelled as identifiers. What the template gives
as code (`Document.payloads`) is copied as it is, so it has to be well bracketed by itself.

One lemma says for each sort of statement that it is balanced if its parts are. The tree is then
followed as the statements are made from it (`balanced_ofNode` and the lemmas beside it).
-/

set_option autoImplicit false

namespace Stencil

open Text

/-! ## What is copied into the code -/

namespace Node

mutual

/-- What the node gives to the render function as code. -/
def payloads : Node → List Text
  | ⟨kind, token?, children⟩ =>
    let node : Node := ⟨kind, token?, children⟩
    match kind with
    | .root | .slot _ | .otherwise => payloadsAll children
    | .literal | .verbatimText | .verbatim .text | .verbatim .function | .yield _ => []
    | .display _ => [node.text]
    | .verbatim .code => [node.bodyText]
    | .condition => node.text :: payloadsAll children
    | .loop head => head.item :: head.collection :: payloadsAll children
    | .inclusion callee => callee.arguments?.toList
    | .extension callee => callee.arguments?.toList ++ slotPayloadsAll children

/-- What the nodes give to the render function as code. -/
def payloadsAll : List Node → List Text
  | [] => []
  | n :: ns => payloads n ++ payloadsAll ns

/-- What the content blocks among the nodes give to the render function as code. -/
def slotPayloadsAll : List Node → List Text
  | [] => []
  | n :: ns => slotPayloads n ++ slotPayloadsAll ns

/-- What the node gives to the render function as code if it is a content block. -/
def slotPayloads : Node → List Text
  | ⟨.slot _, _, children⟩ => payloadsAll children
  | _ => []

end

end Node

/-- What the document gives to the render function as code. -/
def Document.payloads (d : Document) : List Text :=
  d.declarations.arguments.flatMap (fun a => [a.name, a.type]) ++
    d.declarations.contexts.flatMap (fun v => v.name :: v.type :: v.default?.toList) ++
    Node.payloadsAll d.root.children

/-- The text can be copied into code: it is well bracketed, and it neither starts a string literal
nor escapes what stands behind it. -/
structure SelfContained (t : Text) : Prop where
  bracketed : WellBracketed t
  unquoted : '"' ∉ t
  unescaped : '\\' ∉ t

instance (t : Text) : Decidable (SelfContained t) :=
  decidable_of_iff (WellBracketed t ∧ '"' ∉ t ∧ '\\' ∉ t)
    ⟨fun h => ⟨h.1, h.2.1, h.2.2⟩, fun h => ⟨h.1, h.2, h.3⟩⟩

/-- A text that can be copied into code is balanced there. -/
theorem SelfContained.balanced {t : Text} (h : SelfContained t) : Balanced t :=
  balanced_of_not_mem h.unquoted h.bracketed

/-- In a string literal such a text changes nothing: the literal is not left. -/
theorem SelfContained.quoted {t : Text} (h : SelfContained t) (a : List Char) :
    Runs .literal a t .literal a :=
  runs_of_isEnclosed (isEnclosed_of_not_mem h.unquoted h.unescaped) a

/-! ## Names -/

/-- A name in snake case holds no bracket and no quote. -/
theorem not_mem_marks_of_snakeFrom {previous? last? : Option Char} {t : Text} :
    ∀ c ∈ snakeFrom previous? last? t, c ∉ marks := by
  intro c hc
  apply not_mem_marks (f := fun d => d.isAlphanum || d == '_' || 0x80 ≤ d.toNat) (by decide)
  rcases word_of_mem_snakeFrom c hc with hword | hfar
  · rw [hword, Bool.true_or]
  · rw [decide_eq_true hfar, Bool.or_true]

/-- A name in snake case is balanced, whatever it is made from. -/
theorem balanced_snakeCase (t : Text) : Balanced (snakeCase t) :=
  balanced_of_plain not_mem_marks_of_snakeFrom

/-- The name of a render function is balanced. -/
theorem balanced_functionName (template : Text) : Balanced (functionName template) :=
  Balanced.append (by decide) (balanced_snakeCase _)

/-- The path to a render function is balanced. -/
theorem balanced_functionPath (template : Text) : Balanced (functionPath template) := by
  have hmodules (m : Text) : Balanced (snakeCase m ++ "::".toList) :=
    (balanced_snakeCase m).append (by decide)
  unfold functionPath
  split
  · next modules name _ =>
    exact (Runs.flatMap fun m _ => hmodules m).append (balanced_functionName name)
  · exact balanced_functionName template

namespace Code

/-! ## Statements -/

/-- A line does to the brackets what its content does. -/
theorem runs_line {a b : List Char} {content : Text} (n : Nat) (h : Runs .code a content .code b) :
    Runs .code a (line n content) .code b := by
  have hindent : Balanced (indentation n) := by
    refine balanced_of_plain fun c hc => ?_
    rw [List.eq_of_mem_replicate hc]
    decide
  have hend : Balanced ['\n'] := by decide
  exact ((hindent.runs a).append h).append (hend.runs b)

/-- The line that ends a block closes its brace. -/
theorem runs_closeLine (n : Nat) : Runs .code ['}'] (line n "\x7d") .code [] :=
  runs_line n (by decide)

/-- The line with the result of a function is balanced. -/
theorem balanced_resultLine (n : Nat) : Balanced (line n "Ok(())") :=
  runs_line n (by decide)

/-- Code of the template is balanced on its own lines too. -/
theorem balanced_handwritten {code : Text} (h : Balanced code) : Balanced (handwritten code) := by
  unfold handwritten
  split
  · exact h
  · exact h.append (by decide)

/-- A note is balanced. -/
theorem balanced_noteLine (n number : Nat) : Balanced (noteLine n number) :=
  runs_line n (Balanced.append (by decide) (balanced_ofNat number))

/-- Displaying a balanced expression is balanced. -/
theorem balanced_displayCode (how : Display) {expression : Text} (h : Balanced expression) :
    Balanced (displayCode how expression) := by
  cases how with
  | escaped | raw => exact h.between (a := [')', ')']) (by decide) (by decide)
  | bool | int | int64 => exact h.between (a := [')']) (by decide) (by decide)

/-- A call is balanced if its arguments and its context are. -/
theorem balanced_callCode {callee : Call} {context : Text}
    (h : ∀ arguments ∈ callee.arguments?, Balanced arguments) (hcontext : Balanced context) :
    Balanced (callCode callee context) := by
  have hopen : Runs .code [] (functionPath callee.template ++ "(".toList) .code [')'] :=
    Runs.append (balanced_functionPath callee.template) (by decide)
  have hcall {arguments : Text} (harguments : Balanced arguments) :
      Balanced (functionPath callee.template ++ "(" ++ arguments ++ context ++ ", out)") :=
    ((hopen.keep harguments).keep hcontext).append (by decide)
  unfold callCode
  cases hc : callee.arguments? with
  | none => exact hcall Runs.nil
  | some arguments => exact hcall ((h arguments hc).append (by decide))

/-- The name of a layer is balanced. -/
theorem balanced_layerName (number : Nat) : Balanced (layerName number) :=
  Balanced.append (by decide) (balanced_ofNat number)

/-- Binding a content block leaves a brace and a parenthesis to be closed. -/
theorem runs_slotCode {layer : Text} (h : Balanced layer) (name : Text) :
    Runs .code [] (slotCode layer name) .code ['}', ')'] := by
  have hbinding : Balanced ("let " ++ layer ++ " = " ++ layer) :=
    (h.between (a := []) (by decide) (by decide)).append h
  have hcall : Runs .code [] ("let " ++ layer ++ " = " ++ layer ++ ".with_callback(") .code [')'] :=
    Runs.append hbinding (by decide)
  exact (hcall.keep (balanced_literal name)).append (by decide)

/-- Statements are balanced together if each of them is. -/
theorem balanced_layOutAll {n : Nat} {ss : List Statement} (h : ∀ s ∈ ss, Balanced (s.layOut n)) :
    Balanced (layOutAll n ss) := by
  induction ss with
  | nil => exact Runs.nil
  | cons s ss ih =>
    have hs : Balanced (s.layOut n) := h s (by simp)
    exact hs.append (ih fun t ht => h t (by simp [ht]))

/-- The note of a node is balanced, whether there is one or not. -/
theorem balanced_noteStatements (o : Options) (n number : Nat) :
    Balanced (layOutAll n (noteStatements o number)) := by
  refine balanced_layOutAll fun s hs => ?_
  unfold noteStatements at hs
  split at hs
  · rw [List.mem_singleton.1 hs]
    exact balanced_noteLine n number
  · cases hs

/-- Writing a text is balanced, whatever the text. -/
theorem balanced_writeStatements (n : Nat) (t : Text) :
    Balanced (layOutAll n (writeStatements t)) := by
  refine balanced_layOutAll fun s hs => ?_
  unfold writeStatements at hs
  split at hs
  · cases hs
  · rw [List.mem_singleton.1 hs]
    exact runs_line n ((balanced_literal t).between (a := [')']) (by decide) (by decide))

/-- A condition is balanced if its test and its branches are. -/
theorem balanced_condition {n : Nat} {test : Text} {body : List Statement}
    {alternatives : List (List Statement)} (htest : Balanced test)
    (hbody : Balanced (layOutAll (n + 1) body))
    (halternatives : Runs .code ['}'] (layOutAlternatives n alternatives) .code ['}']) :
    Balanced ((Statement.condition test body alternatives).layOut n) := by
  have hhead : Runs .code [] ("if " ++ test ++ " \x7b") .code ['}'] :=
    Runs.append (Balanced.append (by decide) htest) (by decide)
  exact (((runs_line n hhead).keep hbody).append halternatives).append (runs_closeLine n)

/-- A loop is balanced if its head and its body are. -/
theorem balanced_loop {n : Nat} {head : LoopHead} {body : List Statement}
    (hitem : Balanced head.item) (hcollection : Balanced head.collection)
    (hbody : Balanced (layOutAll (n + 1) body)) :
    Balanced ((Statement.loop head body).layOut n) := by
  have hitems : Balanced ("for " ++ head.item ++ " in " ++ head.collection) :=
    (hitem.between (a := []) (by decide) (by decide)).append hcollection
  have hhead : Runs .code [] ("for " ++ head.item ++ " in " ++ head.collection ++ " \x7b") .code
      ['}'] :=
    Runs.append hitems (by decide)
  exact hbody.between (runs_line n hhead) (runs_closeLine n)

/-- Taking a content block is balanced. -/
theorem balanced_yield (n : Nat) (name : Text) : Balanced ((Statement.yield name).layOut n) :=
  runs_line n ((balanced_literal name).between (a := [')']) (by decide) (by decide))

/-- Calling a template is balanced if the arguments are. -/
theorem balanced_call {n : Nat} {callee : Call}
    (h : ∀ arguments ∈ callee.arguments?, Balanced arguments) :
    Balanced ((Statement.call callee).layOut n) :=
  runs_line n ((balanced_callCode h (by decide)).append (by decide))

/-- A layer is balanced if its content blocks and the arguments of its call are. -/
theorem balanced_layer {n number : Nat} {slots : List SlotBinding} {callee : Call}
    (hslots : Balanced (layOutSlots (n + 1) (layerName number) slots))
    (hcallee : ∀ arguments ∈ callee.arguments?, Balanced arguments) :
    Balanced ((Statement.layer number slots callee).layOut n) := by
  have hname : Balanced (layerName number) := balanced_layerName number
  have hopen : Runs .code [] "\x7b".toList .code ['}'] := by decide
  have hchild : Balanced (line (n + 1) ("let " ++ layerName number ++ " = ctx.child();")) :=
    runs_line (n + 1) (hname.between (a := []) (by decide) (by decide))
  have hcall : Balanced (line (n + 1) (callCode callee ("&" ++ layerName number) ++ "?;")) :=
    runs_line (n + 1)
      ((balanced_callCode hcallee (Balanced.append (by decide) hname)).append (by decide))
  exact ((((runs_line n hopen).keep hchild).keep hslots).keep hcall).append (runs_closeLine n)

/-- Binding a content block is balanced if its body is. -/
theorem balanced_slot {n : Nat} {layer name : Text} (note? : Option Nat) {body : List Statement}
    (hlayer : Balanced layer) (hbody : Balanced (layOutAll (n + 1) body)) :
    Balanced ((SlotBinding.mk note? name body).layOut n layer) := by
  have hend : Runs .code ['}', ')'] "\x7d);".toList .code [] := by decide
  have hopen : Runs .code [] (line n (slotCode layer name)) .code ['}', ')'] :=
    runs_line n (runs_slotCode hlayer name)
  have hslot {note : Text} (hnote : Balanced note) :
      Balanced (note ++ line n (slotCode layer name) ++ layOutAll (n + 1) body ++
        line (n + 1) "Ok(())" ++ line n "\x7d);") :=
    (((Runs.append hnote hopen).keep hbody).keep (balanced_resultLine (n + 1))).append
      (runs_line n hend)
  cases note? with
  | none => exact hslot Runs.nil
  | some number => exact hslot (balanced_noteLine n number)

/-! ## Trees -/

/-- One statement is balanced as a list of statements too. -/
theorem balanced_single {n : Nat} {s : Statement} (h : Balanced (s.layOut n)) :
    Balanced (layOutAll n [s]) :=
  h.append Runs.nil

mutual

/-- The code for a node is balanced if what it copies can be copied. -/
theorem balanced_ofNode (o : Options) (d n : Nat) (node : Node)
    (h : ∀ p ∈ node.payloads, SelfContained p) : Balanced (layOutAll n (ofNode o d node)) := by
  match node with
  | ⟨kind, token?, children⟩ =>
    have hnote := balanced_noteStatements o n (Node.line ⟨kind, token?, children⟩)
    cases kind with
    | root | slot name | otherwise =>
      simp only [Node.payloads] at h
      rw [ofNode, layOutAll_append]
      exact hnote.append (balanced_ofNodes o d n children h)
    | literal =>
      rw [ofNode, layOutAll_append]
      exact hnote.append (balanced_writeStatements n _)
    | verbatimText =>
      rw [ofNode, layOutAll_append]
      exact hnote.append Runs.nil
    | verbatim block =>
      cases block with
      | function =>
        rw [ofNode, layOutAll_append]
        exact hnote.append Runs.nil
      | text =>
        rw [ofNode, layOutAll_append]
        exact hnote.append (balanced_writeStatements n _)
      | code =>
        simp only [Node.payloads, List.forall_mem_singleton] at h
        rw [ofNode, layOutAll_append]
        exact hnote.append (balanced_single (balanced_handwritten h.balanced))
    | display how =>
      simp only [Node.payloads, List.forall_mem_singleton] at h
      rw [ofNode, layOutAll_append]
      exact hnote.append (balanced_single (runs_line n (balanced_displayCode how h.balanced)))
    | condition =>
      simp only [Node.payloads, List.forall_mem_cons] at h
      rw [ofNode, layOutAll_append]
      have hbranches := balanced_ofBranches o d n children h.2
      exact hnote.append
        (balanced_single (balanced_condition h.1.balanced hbranches.1 hbranches.2))
    | loop head =>
      simp only [Node.payloads, List.forall_mem_cons] at h
      obtain ⟨hitem, hcollection, hchildren⟩ := h
      rw [ofNode, layOutAll_append]
      have hbody := balanced_ofNodes o d (n + 1) children hchildren
      exact hnote.append (balanced_single (balanced_loop hitem.balanced hcollection.balanced hbody))
    | inclusion callee =>
      simp only [Node.payloads, Option.mem_toList] at h
      rw [ofNode, layOutAll_append]
      exact hnote.append (balanced_single (balanced_call fun a ha => (h a ha).balanced))
    | extension callee =>
      simp only [Node.payloads, List.forall_mem_append, Option.mem_toList] at h
      rw [ofNode, layOutAll_append]
      have hslots := balanced_ofSlots o (d + 1) (n + 1) (d + 1) children h.2
      exact hnote.append (balanced_single (balanced_layer hslots fun a ha => (h.1 a ha).balanced))
    | yield name =>
      rw [ofNode, layOutAll_append]
      exact hnote.append (balanced_single (balanced_yield n name))

/-- The code for several nodes is balanced if what they copy can be copied. -/
theorem balanced_ofNodes (o : Options) (d n : Nat) (nodes : List Node)
    (h : ∀ p ∈ Node.payloadsAll nodes, SelfContained p) :
    Balanced (layOutAll n (ofNodes o d nodes)) := by
  match nodes with
  | [] => exact Runs.nil
  | node :: nodes =>
    simp only [Node.payloadsAll, List.forall_mem_append] at h
    rw [ofNodes, layOutAll_append]
    exact (balanced_ofNode o d n node h.1).append (balanced_ofNodes o d n nodes h.2)

/-- The body of a condition is balanced, and its alternatives leave the condition open. -/
theorem balanced_ofBranches (o : Options) (d n : Nat) (nodes : List Node)
    (h : ∀ p ∈ Node.payloadsAll nodes, SelfContained p) :
    Balanced (layOutAll (n + 1) (ofBranches o d nodes).1) ∧
      Runs .code ['}'] (layOutAlternatives n (ofBranches o d nodes).2) .code ['}'] := by
  match nodes with
  | [] => exact ⟨Runs.nil, Runs.nil⟩
  | node :: nodes =>
    simp only [Node.payloadsAll, List.forall_mem_append] at h
    obtain ⟨hbody, halternatives⟩ := balanced_ofBranches o d n nodes h.2
    have hfirst : Balanced (layOutAll (n + 1) (ofNode o d node ++ (ofBranches o d nodes).1)) := by
      rw [layOutAll_append]
      exact (balanced_ofNode o d (n + 1) node h.1).append hbody
    have hturn : Runs .code ['}'] "\x7d else \x7b".toList .code ['}'] := by decide
    -- An `@else` takes what has been collected behind it as its own alternative.
    rw [ofBranches]
    split
    · exact ⟨Runs.nil, ((runs_line n hturn).keep hfirst).append halternatives⟩
    · exact ⟨hfirst, halternatives⟩

/-- The code for the content blocks of an extension is balanced if what they copy can be copied. -/
theorem balanced_ofSlots (o : Options) (d n number : Nat) (nodes : List Node)
    (h : ∀ p ∈ Node.slotPayloadsAll nodes, SelfContained p) :
    Balanced (layOutSlots n (layerName number) (ofSlots o d nodes)) := by
  match nodes with
  | [] => exact Runs.nil
  | node :: nodes =>
    simp only [Node.slotPayloadsAll, List.forall_mem_append] at h
    rw [ofSlots, layOutSlots_append]
    exact (balanced_ofSlot o d n number node h.1).append (balanced_ofSlots o d n number nodes h.2)

/-- The code for one content block is balanced if what it copies can be copied. -/
theorem balanced_ofSlot (o : Options) (d n number : Nat) (node : Node)
    (h : ∀ p ∈ node.slotPayloads, SelfContained p) :
    Balanced (layOutSlots n (layerName number) (ofSlot o d node)) := by
  match node with
  | ⟨kind, token?, children⟩ =>
    cases kind with
    | slot name =>
      simp only [Node.slotPayloads] at h
      rw [ofSlot]
      have hbody := balanced_ofNodes o d (n + 1) children h
      exact (balanced_slot _ (balanced_layerName number) hbody).append Runs.nil
    | _ => exact Runs.nil

end

/-! ## The render function -/

/-- A balanced text between balanced texts leaves them balanced. -/
theorem balanced_intercalate {separator : Text} {ts : List Text} (hseparator : Balanced separator)
    (h : ∀ t ∈ ts, Balanced t) : Balanced (List.intercalate separator ts) := by
  induction ts with
  | nil => exact Runs.nil
  | cons t ts ih =>
    have ht : Balanced t := h t (by simp)
    have hts : Balanced (List.intercalate separator ts) := ih fun u hu => h u (by simp [hu])
    cases ts with
    | nil => simpa using ht
    | cons u us =>
      rw [List.intercalate_cons_cons]
      exact (ht.append hseparator).append hts

/-- The head of a function leaves the brace of its body to be closed. -/
theorem runs_signature (name : Text) {declared : List Text} (h : ∀ p ∈ declared, Balanced p) :
    Runs .code [] (signature name declared) .code ['}'] := by
  have hattribute : Balanced (line 0 "#[allow(unused_variables, unused_mut)]") :=
    runs_line 0 (by decide)
  have hown : ∀ p ∈ ["ctx: &Context<'_>".toList, "out: &mut dyn Write".toList], Balanced p := by
    decide
  have hparameters := balanced_intercalate (by decide : Balanced ", ".toList)
    (List.forall_mem_append.2 ⟨h, hown⟩)
  have hname : Balanced ("pub fn " ++ functionName name) :=
    Balanced.append (by decide) (balanced_functionName name)
  have hopen : Runs .code [] ("pub fn " ++ functionName name ++ "(") .code [')'] :=
    Runs.append hname (by decide)
  have hhead := hopen.keep hparameters
  exact Runs.append hattribute (runs_line 0 (hhead.append (by decide)))

/-- The line that starts the body leaves its own brace and parenthesis to be closed. -/
theorem runs_guardLine (t : Template) : Runs .code [] (guardLine t) .code ['}', ')'] := by
  have hcall : Runs .code [] "runtime::guard(".toList .code [')'] := by decide
  have hcomma : Balanced ", ".toList := by decide
  have hnames :=
    ((hcall.keep (balanced_literal t.name)).keep hcomma).keep (balanced_literal t.fileType)
  exact runs_line 1 (hnames.append (by decide))

/-- Looking up the escaper is balanced, whether it is done or not. -/
theorem balanced_escaperBinding (fileType : Text) (root : Node) :
    Balanced (escaperBinding fileType root) := by
  unfold escaperBinding
  split
  · exact runs_line 2 ((balanced_literal fileType).between (a := [')']) (by decide) (by decide))
  · exact Runs.nil

/-- Up to the name in it, the look-up of a variable leaves a parenthesis and a literal open. -/
theorem runs_lookup {front name : Text} (hfront : Balanced front) (hname : SelfContained name) :
    Runs .code [] (front ++ ">(\"" ++ name) .literal [')'] :=
  (Runs.append hfront (by decide)).append (hname.quoted [')'])

/-- The declaration of a context variable is balanced if what it copies can be copied. -/
theorem balanced_contextVariable {v : ContextVariable}
    (h : ∀ p ∈ v.name :: v.type :: v.default?.toList, SelfContained p) :
    Balanced (contextVariable v) := by
  simp only [List.forall_mem_cons, Option.mem_toList] at h
  obtain ⟨hname, htype, hdefault⟩ := h
  unfold contextVariable
  split
  · -- The name stands twice in the line, once as code and once in quotes.
    have hbinding : Balanced ("let " ++ v.name ++ " = ctx.value::<") :=
      hname.balanced.between (a := []) (by decide) (by decide)
    exact runs_line 2 ((runs_lookup (hbinding.append htype.balanced) hname).append (by decide))
  · next value hvalue =>
    have hbinding : Balanced ("let mut " ++ v.name ++ ": &" ++ v.type) :=
      (hname.balanced.between (a := []) (by decide) (by decide)).append htype.balanced
    have hinitial :
        Runs .code [] ("let mut " ++ v.name ++ ": &" ++ v.type ++ " = &(") .code [')'] :=
      Runs.append hbinding (by decide)
    have hvalue : Balanced value := (hdefault value hvalue).balanced
    have hget : Balanced ("if let Some(value) = ctx.get::<" ++ v.type) :=
      Balanced.append (by decide) htype.balanced
    have hassign : Balanced (v.name ++ " = value;".toList) := hname.balanced.append (by decide)
    have hif := runs_line 2 ((runs_lookup hget hname).append
      (by decide : Runs .literal [')'] "\") \x7b".toList .code ['}']))
    have hlet : Balanced (line 2 ("let mut " ++ v.name ++ ": &" ++ v.type ++ " = &(" ++ value ++
        ");")) :=
      runs_line 2 (hvalue.between hinitial (by decide))
    have hbody : Balanced (line 3 (v.name ++ " = value;".toList)) := runs_line 3 hassign
    exact ((Runs.append hlet hif).keep hbody).append (runs_closeLine 2)

/-- The render function is balanced if what the document copies can be copied. -/
theorem balanced_renderFunction (t : Template) (o : Options) {d : Document}
    (hsilent : d.hasErrors = false) (h : ∀ p ∈ d.payloads, SelfContained p) :
    Balanced (renderFunction t o d) := by
  simp only [Document.payloads, List.forall_mem_append] at h
  obtain ⟨⟨harguments, hcontexts⟩, hroot⟩ := h
  have hparameters : ∀ p ∈ parameters d, Balanced p := by
    intro p hp
    rw [parameters, hsilent] at hp
    obtain ⟨a, ha, rfl⟩ := List.mem_map.1 hp
    have hname : SelfContained a.name := harguments _ (List.mem_flatMap.2 ⟨a, ha, by simp⟩)
    have htype : SelfContained a.type := harguments _ (List.mem_flatMap.2 ⟨a, ha, by simp⟩)
    exact (hname.balanced.append (by decide)).append htype.balanced
  have hvariables : Balanced (d.declarations.contexts.flatMap contextVariable) := by
    refine Runs.flatMap fun v hv => balanced_contextVariable fun p hp => ?_
    exact hcontexts p (List.mem_flatMap.2 ⟨v, hv, hp⟩)
  have hbody : Balanced (layOutAll 2 (ofNodes o 0 d.root.children)) :=
    balanced_ofNodes o 0 2 d.root.children hroot
  have hend : Runs .code ['}', ')', '}'] codeEnd .code [] := by decide
  have hopen : Runs .code ['}'] (guardLine t) .code ['}', ')', '}'] :=
    (runs_guardLine t).inside ['}']
  have hguarded : Runs .code ['}'] (guarded t o d) .code [] :=
    (((hopen.keep (balanced_escaperBinding t.fileType d.root)).keep hvariables).keep hbody).append
      hend
  rw [renderFunction, if_neg (by simp [hsilent])]
  exact (runs_signature t.name hparameters).append hguarded

end Code

/-- The render function is well bracketed outside of its string literals, whatever texts and names
stand in the template. -/
theorem renderFunction_wellBracketed (t : Template) (o : Options) (d : Document)
    (h : d.hasErrors = false) (hp : ∀ p ∈ d.payloads, SelfContained p) :
    Code.renderFunction t o d <:+ Code.ofDocument t o d ∧
      "#[allow(unused_variables, unused_mut)]\n".toList <+: Code.renderFunction t o d ∧
      ∃ code, Text.withoutLiterals? (Code.renderFunction t o d) = some code ∧
        WellBracketed code := by
  refine ⟨?_, ?_, (Code.balanced_renderFunction t o h hp).wellBracketed⟩
  · rw [Code.ofDocument]
    exact List.suffix_append _ _
  · simp only [Code.renderFunction, Code.signature, List.append_assoc]
    exact List.prefix_append _ _

/-- Brackets and quotes in literal text, in the names of content blocks and in the name of the
template do no harm. -/
theorem renderFunction_wellBracketed_page :
    let token (text : Text) : Option Token := some ⟨.literal, text, ⟨1, 1⟩, ⟨0, 0⟩⟩
    let content : List Node :=
      [⟨.literal, token "\x7d\")\\", []⟩, ⟨.yield "(", token [], []⟩,
        ⟨.display .escaped, token "f(x[0])", []⟩]
    let t : Template := { name := "a(.b\x7b", path := "p", fileType := "\"[", source := [] }
    let d : Document :=
      { root := ⟨.root, none, [⟨.condition, token "a[1]", content ++ [⟨.otherwise, none, content⟩]⟩,
          ⟨.extension ⟨"c)", some "(1, 2)"⟩, none, [⟨.slot "\"]", token [], content⟩]⟩]⟩
        declarations :=
          { arguments := [⟨"x", "[u8; 4]", 1⟩]
            contexts := [⟨"y", "u8", none, 2⟩, ⟨"z", "Vec<u8>", some "vec![1]", 3⟩] } }
    d.hasErrors = false ∧ (∀ p ∈ d.payloads, SelfContained p) ∧
      ∃ code, Text.withoutLiterals? (Code.renderFunction t { lineNumbers := true } d) = some code ∧
        WellBracketed code := by
  intro token content t d
  have hpayloads : ∀ p ∈ d.payloads, SelfContained p := by decide +kernel
  exact ⟨rfl, hpayloads,
    (renderFunction_wellBracketed t { lineNumbers := true } d rfl hpayloads).2.2⟩

end Stencil
