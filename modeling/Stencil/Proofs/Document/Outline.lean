import Stencil.Node.Outline
import Stencil.Proofs.Document.Origin
import Stencil.Proofs.Template.FileName
import Stencil.Proofs.Text.StringLiteral

/-!
# Reading outlines back

An outline shows a tree faithfully. Each node has a line of its own, because what is shown of a node
holds no line end (`lineEnd_not_mem_describe`): texts are quoted, and no other payload goes over the
end of a line. A line starts with two blanks for each level and goes on with a letter, so that the
depth of the node can be counted.

`Outline.read` is the way back. What is shown of a node starts with a word for its sort, and what
follows tells the rest of its kind. The tree is put together from the last line to the first one: a
node takes the trees behind it that stand deeper than itself.
-/

set_option autoImplicit false

namespace Stencil

/-- A tree of which nothing is known but the kinds of its nodes. -/
inductive KindTree
  | mk (kind : NodeKind) (children : List KindTree)

namespace Node

mutual

/-- The kinds of the nodes of a tree. -/
def kinds : Node → KindTree
  | ⟨kind, _, children⟩ => ⟨kind, kindsAll children⟩

/-- The kinds of the nodes of several trees. -/
def kindsAll : List Node → List KindTree
  | [] => []
  | n :: ns => n.kinds :: kindsAll ns

end

end Node

namespace Outline

/-- The text without its first and its last character. -/
def inner (t : Text) : Text :=
  t.tail.dropLast

/-- Reads what is shown of a call. -/
def readCall (t : Text) : Call :=
  let template := t.tail.takeWhile (· != '\x60')
  match t.drop (template.length + 2) with
  | [] => ⟨template, none⟩
  | arguments => ⟨template, some (inner arguments.tail)⟩

/-- Reads what is shown of the head of a loop. -/
def readLoop (t : Text) : LoopHead :=
  match t.splitOn ' ' with
  | [item, _, collection] => ⟨inner item, inner collection⟩
  | _ => ⟨[], []⟩

/-- The words for the sorts of nodes, and how to read what is shown behind them. -/
def sorts : List (Text × (Text → NodeKind)) :=
  [("Root", fun _ => .root), ("LiteralText", fun _ => .literal),
    ("VerbatimText", fun _ => .verbatimText), ("DisplayEscaped", fun _ => .display .escaped),
    ("DisplayRaw", fun _ => .display .raw), ("DisplayTyped(Bool)", fun _ => .display .bool),
    ("DisplayTyped(Int)", fun _ => .display .int),
    ("DisplayTyped(Int64)", fun _ => .display .int64), ("CodeBlock", fun _ => .verbatim .code),
    ("TextBlock", fun _ => .verbatim .text), ("FunctionBlock", fun _ => .verbatim .function),
    ("Include", fun t => .inclusion (readCall t)),
    ("IncludeWithContent", fun t => .extension (readCall t)),
    ("ContentSlot", fun t => .slot (inner t)), ("Yield", fun t => .yield (inner t)),
    ("If", fun _ => .condition), ("Else", fun _ => .otherwise),
    ("For", fun t => .loop (readLoop t))]

/-- Reads the kind of a node. -/
def readKind? (t : Text) : Option NodeKind :=
  (sorts.lookup (t.takeWhile (· != ' '))).map fun read => read (t.dropWhile (· != ' ')).tail

/-- Reads the depth and the kind of a node. -/
def readLine? (line : Text) : Option (Nat × NodeKind) :=
  (readKind? (line.dropWhile (· == ' '))).map fun kind =>
    ((line.takeWhile (· == ' ')).length / 2, kind)

/-- Puts trees together: the children of a node are the trees behind it that stand deeper. -/
def nest : List (Nat × NodeKind) → List (Nat × KindTree)
  | [] => []
  | (depth, kind) :: rows =>
    (depth, ⟨kind, ((nest rows).takeWhile (depth < ·.1)).map Prod.snd⟩) ::
      (nest rows).dropWhile (depth < ·.1)

/-- Reads the trees of an outline, of which every line is closed by a line end. -/
def read (t : Text) : List KindTree :=
  (nest ((t.splitOn '\n').dropLast.filterMap readLine?)).map Prod.snd

end Outline

/-! ## What is shown of a node -/

/-- The word for a sort of nodes. -/
def NodeKind.tag : NodeKind → Text
  | root => "Root"
  | literal => "LiteralText"
  | verbatimText => "VerbatimText"
  | display .escaped => "DisplayEscaped"
  | display .raw => "DisplayRaw"
  | display .bool => "DisplayTyped(Bool)"
  | display .int => "DisplayTyped(Int)"
  | display .int64 => "DisplayTyped(Int64)"
  | verbatim .code => "CodeBlock"
  | verbatim .text => "TextBlock"
  | verbatim .function => "FunctionBlock"
  | inclusion _ => "Include"
  | extension _ => "IncludeWithContent"
  | slot _ => "ContentSlot"
  | yield _ => "Yield"
  | condition => "If"
  | otherwise => "Else"
  | loop _ => "For"

/-- The word holds no blank and no line end, and it starts with a letter. -/
theorem NodeKind.tag_plain (kind : NodeKind) :
    ' ' ∉ kind.tag ∧ '\n' ∉ kind.tag ∧ ∃ c rest, kind.tag = c :: rest ∧ c.isAlpha = true := by
  -- The checks are written so that they can be carried out without knowing what the node says.
  have hchecks : (!kind.tag.contains ' ' && !kind.tag.contains '\n') = true ∧
      kind.tag.head?.any Char.isAlpha = true := by
    cases kind with
    | display how => cases how <;> exact ⟨rfl, rfl⟩
    | verbatim block => cases block <;> exact ⟨rfl, rfl⟩
    | _ => exact ⟨rfl, rfl⟩
  obtain ⟨hfree, hletter⟩ := hchecks
  simp only [Bool.and_eq_true, Bool.not_eq_true', List.contains_iff_mem, ← Bool.not_eq_true]
    at hfree
  cases htag : kind.tag with
  | nil =>
    rw [htag] at hletter
    cases hletter
  | cons c rest =>
    rw [htag] at hfree hletter
    exact ⟨hfree.1, hfree.2, c, rest, rfl, hletter⟩

namespace Node

/-- The text between the marks of a payload. -/
def marked (t : Text) : Text :=
  '\x60' :: (t ++ ['\x60'])

/-- What is shown behind the word. -/
def shown (n : Node) : Text :=
  match n.kind with
  | .literal | .verbatimText => ' ' :: n.text.quoted
  | .display _ | .condition => ' ' :: marked n.text
  | .inclusion call | .extension call => ' ' :: call.describe
  | .slot name | .yield name => ' ' :: marked name
  | .loop head => ' ' :: marked head.item ++ " in ".toList ++ marked head.collection
  | _ => []

/-- A node is described by the word for its sort and what is shown behind it. -/
theorem describe_eq (n : Node) : n.describe = n.kind.tag ++ n.shown := by
  have hword : ∀ long word : Text, long = word ++ [' '] → ∀ t, long ++ t = word ++ ' ' :: t := by
    rintro long word rfl t
    exact List.append_assoc word [' '] t
  obtain ⟨kind, token?, children⟩ := n
  cases kind with
  | root | otherwise => exact (List.append_nil _).symm
  | verbatim block =>
    cases block with
    | code | text | function => exact (List.append_nil _).symm
  | literal => exact hword "LiteralText " "LiteralText" (by decide +kernel) _
  | verbatimText => exact hword "VerbatimText " "VerbatimText" (by decide +kernel) _
  | display how =>
    cases how with
    | escaped => exact hword "DisplayEscaped " "DisplayEscaped" (by decide +kernel) _
    | raw => exact hword "DisplayRaw " "DisplayRaw" (by decide +kernel) _
    | bool => exact hword "DisplayTyped(Bool) " "DisplayTyped(Bool)" (by decide +kernel) _
    | int => exact hword "DisplayTyped(Int) " "DisplayTyped(Int)" (by decide +kernel) _
    | int64 => exact hword "DisplayTyped(Int64) " "DisplayTyped(Int64)" (by decide +kernel) _
  | inclusion call => exact hword "Include " "Include" (by decide +kernel) _
  | extension call => exact hword "IncludeWithContent " "IncludeWithContent" (by decide +kernel) _
  | slot name => exact hword "ContentSlot " "ContentSlot" (by decide +kernel) _
  | yield name => exact hword "Yield " "Yield" (by decide +kernel) _
  | condition => exact hword "If " "If" (by decide +kernel) _
  | loop head => rfl

/-- What is shown of the node fits on a line and can be told apart. -/
def Legible [Alphabet] (n : Node) : Prop :=
  match n.kind with
  | .display _ | .condition => '\n' ∉ n.text
  | .inclusion call | .extension call =>
    call.template.isDottedName = true ∧ ∀ arguments ∈ call.arguments?, '\n' ∉ arguments
  | .slot name | .yield name => '\n' ∉ name
  | .loop head =>
    (∀ c ∈ head.item, Text.isBlank c = false) ∧ ∀ c ∈ head.collection, Text.isBlank c = false
  | _ => True

end Node

/-! ## Payloads -/

/-- No piece of a split text holds a character that it was split at. -/
theorem Text.splitWhere_stops {p : Char → Bool} {t : Text} :
    ∀ piece ∈ splitWhere p t, ∀ c ∈ piece, p c = false := by
  induction t with
  | nil => exact List.forall_mem_singleton.2 (List.forall_mem_nil _)
  | cons c t ih =>
    rw [splitWhere]
    split
    · exact List.forall_mem_cons.2 ⟨List.forall_mem_nil _, ih⟩
    · next hc =>
      have hc : p c = false := Bool.eq_false_iff.2 hc
      split
      · exact List.forall_mem_singleton.2 (List.forall_mem_singleton.2 hc)
      · next piece pieces hpieces =>
        rw [hpieces] at ih
        obtain ⟨hpiece, hrest⟩ := List.forall_mem_cons.1 ih
        exact List.forall_mem_cons.2 ⟨List.forall_mem_cons.2 ⟨hc, hpiece⟩, hrest⟩

/-- A call holds nothing but what its payload holds. -/
theorem Call.of_read [Alphabet] {directive : LineDirective} {payload : Text} {call : Call}
    (h : Call.read directive payload = .ok call) : call.template.isDottedName = true ∧
      ∀ arguments ∈ call.arguments?, arguments ⊆ payload := by
  have hread : ∀ found : Call, (∀ arguments ∈ found.arguments?, arguments ⊆ payload) →
      (if found.template.isEmpty then .error (.missingTemplate directive)
      else if found.template.isDottedName then .ok found
      else .error (.invalidTemplate found.template) : Except Problem Call) = .ok call →
      call.template.isDottedName = true ∧ ∀ arguments ∈ call.arguments?, arguments ⊆ payload := by
    intro found harguments hok
    split at hok
    · cases hok
    · split at hok
      · next hdotted =>
        cases hok
        exact ⟨hdotted, harguments⟩
      · cases hok
  rw [Call.read] at h
  refine hread _ ?_ h
  intro arguments hmem
  cases hsplit : payload.splitWord? with
  | none =>
    rw [hsplit] at hmem
    cases hmem
  | some pair =>
    rw [hsplit] at hmem
    obtain ⟨template, rest⟩ := pair
    obtain rfl : rest = arguments := Option.some.inj hmem
    unfold Text.splitWord? at hsplit
    split at hsplit
    · cases hsplit
    · next c behind hdrop =>
      split at hsplit
      · cases hsplit
      · cases hsplit
        intro c hc
        have hbehind : c ∈ payload.dropWhile (!Text.isBlank ·) := by
          rw [hdrop]
          exact List.mem_cons_of_mem _ (Text.trim_subset _ hc)
        exact (List.dropWhile_sublist _).subset hbehind

/-- The item and the collection of a loop hold no blanks. -/
theorem LoopHead.of_read {payload : Text} {head : LoopHead} (h : LoopHead.read payload = .ok head) :
    (∀ c ∈ head.item, Text.isBlank c = false) ∧ ∀ c ∈ head.collection, Text.isBlank c = false := by
  have hwords : ∀ word ∈ payload.words, ∀ c ∈ word, Text.isBlank c = false :=
    fun word hword => Text.splitWhere_stops word (List.mem_filter.1 hword).1
  unfold LoopHead.read at h
  split at h
  · next item separator collection hsplit =>
    rw [hsplit] at hwords
    split at h
    · cases h
      exact ⟨hwords item (by simp), hwords collection (by simp)⟩
    · cases h
  · cases h

/-- The name of a content block is the payload that it was read from. -/
theorem eq_of_readContentName [Alphabet] {directive : LineDirective} {payload name : Text}
    (h : readContentName directive payload = .ok name) : name = payload := by
  unfold readContentName at h
  split at h
  · cases h
  · split at h
    · cases h
      rfl
    · cases h

/-- A node that is made from a token on one line is legible. -/
theorem Node.legible_of_madeFrom [Alphabet] {n : Node} {t : Token} (htoken : n.token? = some t)
    (h : n.kind.MadeFrom t) (hline : t.kind ≠ .literal → t.kind ≠ .illegal → '\n' ∉ t.text) :
    n.Legible := by
  have hpayload : ∀ kind, t.kind = kind → kind ≠ .literal → kind ≠ .illegal → '\n' ∉ t.text := by
    rintro kind rfl
    exact hline
  obtain ⟨kind, token?, children⟩ := n
  cases htoken
  cases kind with
  | root | literal | verbatimText | verbatim _ | otherwise => trivial
  | display _ | condition => exact hpayload _ h (by simp) (by simp)
  | slot name =>
    obtain ⟨hk, rfl⟩ := h
    exact hpayload _ hk (by simp) (by simp)
  | yield name =>
    obtain ⟨hk, hread⟩ := h
    obtain rfl := eq_of_readContentName hread
    exact hpayload _ hk (by simp) (by simp)
  | inclusion call | extension call =>
    obtain ⟨hk, hread⟩ := h
    obtain ⟨hdotted, harguments⟩ := Call.of_read hread
    have hend := hpayload _ hk (by simp) (by simp)
    exact ⟨hdotted, fun arguments hmem hc => hend (harguments arguments hmem hc)⟩
  | loop head => exact LoopHead.of_read h.2

/-! ## Lines -/

/-- A quoted text is on one line. -/
theorem Text.lineEnd_not_mem_quoted (t : Text) : '\n' ∉ t.quoted := by
  have hchar : ∀ c, '\n' ∉ quotedChar c := by
    intro c
    have hcode : '\n' ∉ codePoint c := by
      have hdigits : '\n' ∉ Nat.toDigits 16 c.toNat := not_mem_toDigits (by decide) c.toNat
      rw [codePoint_eq]
      simp [hdigits]
    by_cases hend : c = '\n'
    · rw [hend]
      decide
    · have hself : '\n' ∉ [c] := fun hmem => hend (List.mem_singleton.1 hmem).symm
      unfold quotedChar
      repeat' split
      all_goals first | exact hcode | exact hself | decide
  have hbody : '\n' ∉ t.flatMap quotedChar := by
    intro hmem
    obtain ⟨c, -, hc⟩ := List.mem_flatMap.1 hmem
    exact hchar c hc
  simp [quoted, hbody]

/-- A call without arguments is shown by its template. -/
theorem Call.describe_none (template : Text) :
    Call.describe ⟨template, none⟩ = Node.marked template ++ [] := rfl

/-- A call with arguments is shown by its template and the arguments in parentheses. -/
theorem Call.describe_some (template arguments : Text) :
    Call.describe ⟨template, some arguments⟩ =
      Node.marked template ++ ' ' :: '(' :: (arguments ++ [')']) := rfl

namespace Node

variable {n : Node}

/-- The marks add no character but themselves. -/
theorem not_mem_marked {c : Char} (hc : c ≠ '\x60') {t : Text} (h : c ∉ t) : c ∉ marked t := by
  simp [marked, hc, h]

/-- What is shown of a legible node is on one line. -/
theorem Legible.lineEnd_not_mem_shown [Alphabet] (h : n.Legible) : '\n' ∉ n.shown := by
  have hblank : ∀ t : Text, (∀ c ∈ t, Text.isBlank c = false) → '\n' ∉ t := by
    intro t ht hmem
    exact absurd (ht _ hmem) (by decide)
  obtain ⟨kind, token?, children⟩ := n
  cases kind with
  | root | verbatim _ | otherwise => exact List.not_mem_nil
  | literal | verbatimText =>
    exact List.not_mem_cons_of_ne_of_not_mem (by decide) (Text.lineEnd_not_mem_quoted _)
  | display _ | condition | slot _ | yield _ =>
    exact List.not_mem_cons_of_ne_of_not_mem (by decide) (not_mem_marked (by decide) h)
  | inclusion call | extension call =>
    apply List.not_mem_cons_of_ne_of_not_mem (by decide)
    obtain ⟨hdotted, harguments⟩ := h
    have htemplate := not_mem_marked (c := '\n') (by decide)
      (Text.not_mem_of_isDottedName hdotted (by decide) (by decide) (by decide))
    obtain ⟨template, arguments?⟩ := call
    cases arguments? with
    | none =>
      rw [Call.describe_none]
      exact List.not_mem_append htemplate List.not_mem_nil
    | some arguments =>
      have hone := harguments arguments rfl
      rw [Call.describe_some]
      exact List.not_mem_append htemplate (by simp [hone])
  | loop head =>
    have hitem := not_mem_marked (c := '\n') (by decide) (hblank _ h.1)
    have hcollection := not_mem_marked (c := '\n') (by decide) (hblank _ h.2)
    refine List.not_mem_append (List.not_mem_append ?_ (by decide)) hcollection
    exact List.not_mem_cons_of_ne_of_not_mem (by decide) hitem

/-- The whole description of a legible node is on one line. -/
theorem Legible.lineEnd_not_mem_describe [Alphabet] (h : n.Legible) : '\n' ∉ n.describe := by
  rw [describe_eq]
  exact List.not_mem_append n.kind.tag_plain.2.1 h.lineEnd_not_mem_shown

/-- A description starts with a letter, so it can be told from the indentation. -/
theorem exists_head_describe (n : Node) :
    ∃ c rest, n.describe = c :: rest ∧ c.isAlpha = true := by
  obtain ⟨-, -, c, rest, htag, hc⟩ := n.kind.tag_plain
  rw [describe_eq, htag]
  exact ⟨c, rest ++ n.shown, rfl, hc⟩

end Node

/-! ## Reading what is shown -/

namespace Outline

variable {n : Node}

/-- The text between the marks is found again. -/
theorem inner_marked (t : Text) : inner (Node.marked t) = t :=
  List.dropLast_concat

/-- A call of a proper name is read back from what is shown of it. -/
theorem readCall_describe [Alphabet] {call : Call} (h : call.template.isDottedName = true) :
    readCall call.describe = call := by
  obtain ⟨template, arguments?⟩ := call
  have hmark : '\x60' ∉ template :=
    Text.not_mem_of_isDottedName h (by decide) (by decide) (by decide)
  have htake : ∀ rest, (Node.marked template ++ rest).tail.takeWhile (· != '\x60') = template := by
    intro rest
    have htail : (Node.marked template ++ rest).tail = template ++ '\x60' :: rest := by
      simp [Node.marked]
    rw [htail]
    refine (Text.span_append (fun c hc => ?_) rfl).1
    exact bne_iff_ne.2 fun heq => hmark (heq ▸ hc)
  have hdrop : ∀ rest, (Node.marked template ++ rest).drop (template.length + 2) = rest := by
    intro rest
    have hlength : template.length + 2 = (Node.marked template).length := by simp [Node.marked]
    rw [hlength, List.drop_left]
  cases arguments? with
  | none =>
    rw [Call.describe_none]
    simp only [readCall, htake, hdrop]
  | some arguments =>
    rw [Call.describe_some]
    simp only [readCall, htake, hdrop, List.tail_cons, inner, List.dropLast_concat]

/-- The head of a loop is read back from what is shown of it. -/
theorem readLoop_marked {item collection : Text} (hitem : ∀ c ∈ item, Text.isBlank c = false)
    (hcollection : ∀ c ∈ collection, Text.isBlank c = false) :
    readLoop (Node.marked item ++ " in ".toList ++ Node.marked collection) =
      ⟨item, collection⟩ := by
  have hblank : ∀ t : Text, (∀ c ∈ t, Text.isBlank c = false) → ' ' ∉ Node.marked t := by
    intro t ht
    apply Node.not_mem_marked (by decide)
    intro hmem
    exact absurd (ht _ hmem) (by decide)
  have hin : ' ' ∉ "in".toList := by decide
  have hsplit : (Node.marked item ++ " in ".toList ++ Node.marked collection).splitOn ' ' =
      [Node.marked item, "in".toList, Node.marked collection] := by
    rw [List.append_assoc]
    refine (Text.splitOn_append_cons (hblank item hitem) _).trans (congrArg _ ?_)
    refine (Text.splitOn_append_cons hin _).trans (congrArg _ ?_)
    exact Text.splitOn_of_not_mem (hblank collection hcollection)
  rw [readLoop, hsplit]
  simp only [inner_marked]

/-- What is shown behind the word is nothing or starts with a blank. -/
theorem head?_shown (n : Node) : n.shown.head?.any (· != ' ') = false := by
  obtain ⟨kind, token?, children⟩ := n
  cases kind <;> rfl

/-- The kind of a legible node is read back from its description. -/
theorem readKind?_describe [Alphabet] (h : n.Legible) : readKind? n.describe = some n.kind := by
  have hword : ∀ c ∈ n.kind.tag, (c != ' ') = true := by
    intro c hc
    exact bne_iff_ne.2 fun heq => n.kind.tag_plain.1 (heq ▸ hc)
  obtain ⟨htake, hdrop⟩ := Text.span_append hword (head?_shown n)
  rw [n.describe_eq, readKind?, htake, hdrop]
  obtain ⟨kind, token?, children⟩ := n
  cases kind with
  | root | literal | verbatimText | condition | otherwise => rfl
  | display how => cases how <;> rfl
  | verbatim block => cases block <;> rfl
  | slot name => exact congrArg (fun t => some (NodeKind.slot t)) (inner_marked name)
  | yield name => exact congrArg (fun t => some (NodeKind.yield t)) (inner_marked name)
  | inclusion call => exact congrArg (fun c => some (NodeKind.inclusion c)) (readCall_describe h.1)
  | extension call => exact congrArg (fun c => some (NodeKind.extension c)) (readCall_describe h.1)
  | loop head => exact congrArg (fun l => some (NodeKind.loop l)) (readLoop_marked h.1 h.2)

/-- The depth and the kind of a legible node are read back from its line. -/
theorem readLine?_line [Alphabet] (h : n.Legible) (depth : Nat) :
    readLine? (List.replicate (2 * depth) ' ' ++ n.describe) = some (depth, n.kind) := by
  have hblanks : ∀ c ∈ List.replicate (2 * depth) ' ', (c == ' ') = true := by
    intro c hc
    exact beq_iff_eq.2 (List.eq_of_mem_replicate hc)
  have hletter : n.describe.head?.any (· == ' ') = false := by
    obtain ⟨c, rest, hdescribe, hc⟩ := n.exists_head_describe
    rw [hdescribe]
    refine beq_eq_false_iff_ne.2 fun heq => ?_
    rw [heq] at hc
    exact absurd hc (by decide)
  obtain ⟨htake, hdrop⟩ := Text.span_append hblanks hletter
  rw [readLine?, htake, hdrop, readKind?_describe h, List.length_replicate,
    Nat.mul_div_cancel_left depth Nat.zero_lt_two]
  rfl

/-- The depths and kinds of legible nodes are read back from their lines. -/
theorem filterMap_readLine? [Alphabet] {rows : List (Nat × Node)}
    (h : ∀ row ∈ rows, row.2.Legible) :
    (rows.map fun row => List.replicate (2 * row.1) ' ' ++ row.2.describe).filterMap readLine? =
      rows.map fun row => (row.1, row.2.kind) := by
  induction rows with
  | nil => rfl
  | cons row rows ih =>
    obtain ⟨hrow, hrows⟩ := List.forall_mem_cons.1 h
    rw [List.map_cons, List.map_cons, List.filterMap_cons_some (readLine?_line hrow row.1),
      ih hrows]

/-! ## Putting the tree together -/

/-- Trees that stand no deeper are left alone. -/
theorem span_of_head {depth : Nat} {trees : List (Nat × KindTree)}
    (h : trees.head?.all (·.1 ≤ depth) = true) :
    trees.takeWhile (depth < ·.1) = [] ∧ trees.dropWhile (depth < ·.1) = trees := by
  cases trees with
  | nil => exact ⟨rfl, rfl⟩
  | cons row trees =>
    have hrow : ¬ depth < row.1 := Nat.not_lt.2 (of_decide_eq_true h)
    exact ⟨List.takeWhile_cons_of_neg (by simpa using hrow),
      List.dropWhile_cons_of_neg (by simpa using hrow)⟩

mutual

/-- Before rows that stand no deeper, the rows of a tree become the tree. -/
theorem nest_preorder (depth : Nat) (n : Node) (rest : List (Nat × NodeKind))
    (h : (nest rest).head?.all (·.1 ≤ depth) = true) :
    nest ((n.preorder depth).map (fun row => (row.1, row.2.kind)) ++ rest) =
      (depth, n.kinds) :: nest rest := by
  match n with
  | ⟨kind, token?, children⟩ =>
    have hdeeper : (nest rest).head?.all (·.1 ≤ depth + 1) = true := by
      cases hhead : (nest rest).head? with
      | none => rfl
      | some row =>
        rw [hhead] at h
        exact decide_eq_true (Nat.le_succ_of_le (of_decide_eq_true h))
    have hbelow : ∀ row ∈ (Node.kindsAll children).map (depth + 1, ·),
        decide (depth < row.1) = true :=
      List.forall_mem_map.2 fun _ _ => decide_eq_true (Nat.lt_succ_self depth)
    obtain ⟨htake, hdrop⟩ := span_of_head h
    rw [Node.preorder, List.map_cons, List.cons_append, nest,
      nest_preorderAll (depth + 1) children rest hdeeper, List.takeWhile_append_of_pos hbelow,
      List.dropWhile_append_of_pos hbelow, htake, hdrop, List.append_nil, List.map_map]
    simp [Node.kinds, Function.comp_def]

/-- Trees are put together again from the depths and kinds of their nodes. -/
theorem nest_preorderAll (depth : Nat) (ns : List Node) (rest : List (Nat × NodeKind))
    (h : (nest rest).head?.all (·.1 ≤ depth) = true) :
    nest ((Node.preorderAll depth ns).map (fun row => (row.1, row.2.kind)) ++ rest) =
      (Node.kindsAll ns).map (depth, ·) ++ nest rest := by
  match ns with
  | [] => rfl
  | n :: ns =>
    have hrest := nest_preorderAll depth ns rest h
    rw [Node.preorderAll, List.map_append, List.append_assoc, nest_preorder depth n _ ?_, hrest]
    · rfl
    · rw [hrest]
      cases ns with
      | nil => exact h
      | cons m ns => simp [Node.kindsAll]

end

/-- A tree is put together again from the depths and kinds of its nodes. -/
theorem nest_root (n : Node) :
    nest ((n.preorder 0).map fun row => (row.1, row.2.kind)) = [(0, n.kinds)] := by
  have hroot := nest_preorder 0 n [] rfl
  rwa [List.append_nil] at hroot

end Outline

/-- Every node of a document is legible. -/
theorem legible_parse [Alphabet] (source : Text) :
    ∀ n ∈ (Document.parse source).root.nodes, n.Legible := by
  have hnodes : (Document.parse source).root.nodes =
      (Document.parse source).root :: (Document.parse source).root.children.flatMap Node.nodes :=
    Node.nodes_mk _ _ _
  rw [hnodes]
  refine List.forall_mem_cons.2 ⟨trivial, ?_⟩
  intro n hn
  obtain ⟨c, hc, hn⟩ := List.mem_flatMap.1 hn
  obtain ⟨t, ht, htoken, hmade⟩ := Draft.made_parse source c hc n hn
  exact Node.legible_of_madeFrom htoken hmade (lineEnd_not_mem_text source t ht)

/-- The outline of any source, with or without problems, shows its tree. It has one line for every
node, in the order in which every node comes before its children, and nothing behind the last line
end. A line is two blanks for each level and what is shown of the node, which starts with a letter
and holds no line end. The kinds of all nodes and which of them stands below which are read back
from the outline. -/
theorem outline_shows_tree [Alphabet] (source : Text) :
    let root := (Document.parse source).root
    root.outline.splitOn '\n' = (root.preorder 0).map
        (fun row => List.replicate (2 * row.1) ' ' ++ row.2.describe) ++ [[]] ∧
      (∀ row ∈ root.preorder 0,
        (∃ c rest, row.2.describe = c :: rest ∧ c.isAlpha = true) ∧ '\n' ∉ row.2.describe) ∧
      Outline.read root.outline = [root.kinds] := by
  intro root
  have hlegible : ∀ row ∈ root.preorder 0, row.2.Legible := by
    intro row hrow
    exact legible_parse source row.2 (List.mem_map_of_mem hrow)
  have hlines : ∀ line ∈ (root.preorder 0).map
      (fun row => List.replicate (2 * row.1) ' ' ++ row.2.describe), '\n' ∉ line := by
    refine List.forall_mem_map.2 fun row hrow => ?_
    refine List.not_mem_append ?_ (hlegible row hrow).lineEnd_not_mem_describe
    exact fun hmem => absurd (List.eq_of_mem_replicate hmem) (by decide)
  have hsplit := Text.splitOn_lines hlines
  rw [List.flatMap_map] at hsplit
  refine ⟨hsplit, ?_, ?_⟩
  · intro row hrow
    exact ⟨row.2.exists_head_describe, (hlegible row hrow).lineEnd_not_mem_describe⟩
  · have hread : (root.outline.splitOn '\n').dropLast.filterMap Outline.readLine? =
        (root.preorder 0).map fun row => (row.1, row.2.kind) := by
      rw [← Outline.filterMap_readLine? hlegible]
      exact congrArg _ ((congrArg _ hsplit).trans List.dropLast_concat)
    rw [Outline.read, hread, Outline.nest_root]
    rfl

end Stencil
