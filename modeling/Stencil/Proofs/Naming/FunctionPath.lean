import Stencil.Compile
import Stencil.Proofs.Naming.SnakeCase
import Stencil.Proofs.Text.Line

/-!
# Paths of render functions

A template is called by the path of its render function and defined by the function's name. The two
agree: between its double colons a path holds the modules of the template, one for each point of its
name, and at last the name of the function (`function_path_names`). No segment holds a colon of its
own, whatever the name of the template.

The two are not cut from the name in the same way. The function's name is made from what a split at
all points gives last, the path from the two sides of the last point. Both find the modules and the
base of the name (`functionName_eq`, `functionPath_eq`).
-/

set_option autoImplicit false

namespace Stencil

open Text

/-- A name in snake case holds no colon. -/
theorem colon_not_mem_snakeCase (t : Text) : ':' ∉ snakeCase t := by
  intro hmem
  rcases word_of_mem_snakeFrom ':' hmem with hword | hfar
  · exact absurd hword (by decide)
  · exact absurd hfar (by decide)

/-- The name of a function holds no colon. -/
theorem colon_not_mem_functionName (t : Text) : ':' ∉ functionName t := by
  intro hmem
  rcases List.mem_append.1 hmem with hmark | hbase
  · exact absurd hmark (by decide)
  · exact colon_not_mem_snakeCase _ hbase

/-- Pieces that are joined by a doubled character, which they do not hold, are split apart there. -/
theorem splitDouble_flatMap {d : Char} {pieces : List Text} (h : ∀ piece ∈ pieces, d ∉ piece)
    {last : Text} (hlast : d ∉ last) :
    splitDouble d (pieces.flatMap (· ++ [d, d]) ++ last) = pieces ++ [last] := by
  induction pieces with
  | nil => exact splitDouble_of_not_mem hlast
  | cons piece pieces ih =>
    obtain ⟨hpiece, hpieces⟩ := List.forall_mem_cons.1 h
    rw [List.flatMap_cons, List.append_assoc, List.append_assoc]
    exact (splitDouble_append hpiece _).trans (congrArg (piece :: ·) (ih hpieces))

/-! ## The components of a name -/

/-- The components of a template's name but the last. -/
def templateModules (template : Text) : List Text :=
  (template.splitOn '.').dropLast

/-- The last component of a template's name. -/
def templateBase (template : Text) : Text :=
  (template.splitOn '.').getLast?.getD []

/-- A name is split at its points into the modules and the base. -/
theorem splitOn_eq_modules (t : Text) : t.splitOn '.' = templateModules t ++ [templateBase t] := by
  have hne := splitOn_ne_nil '.' t
  rw [templateModules, templateBase, List.getLast?_eq_some_getLast hne, Option.getD_some]
  exact (List.dropLast_concat_getLast hne).symm

/-- The components of a name with a point in it, by the last of its points. -/
theorem components_append_last (modules : Text) {name : Text} (h : '.' ∉ name) :
    templateModules (modules ++ '.' :: name) = modules.splitOn '.' ∧
      templateBase (modules ++ '.' :: name) = name := by
  have hsplit : (modules ++ '.' :: name).splitOn '.' = modules.splitOn '.' ++ [name] := by
    rw [splitOn_append, splitOn_of_not_mem h]
  constructor
  · rw [templateModules, hsplit, List.dropLast_concat]
  · rw [templateBase, hsplit, List.getLast?_concat, Option.getD_some]

/-- A name without points has no modules and is its own base. -/
theorem components_of_not_mem {name : Text} (h : '.' ∉ name) :
    templateModules name = [] ∧ templateBase name = name := by
  rw [templateModules, templateBase, splitOn_of_not_mem h]
  exact ⟨rfl, rfl⟩

/-- Read from the back, the first piece is the last component. -/
theorem splitBack_head (t : Text) : (t.splitBack '.').head?.getD t = templateBase t := by
  cases hcut : cutLast? '.' t with
  | none =>
    have hfree := not_mem_of_cutLast?_eq_none hcut
    have hback : '.' ∉ t.reverse := by rwa [List.mem_reverse]
    rw [splitBack, splitOn_of_not_mem hback, (components_of_not_mem hfree).2]
    exact List.reverse_reverse t
  | some pieces =>
    obtain ⟨modules, name⟩ := pieces
    obtain ⟨rfl, hfree⟩ := eq_of_cutLast? hcut
    have hback : '.' ∉ name.reverse := by rwa [List.mem_reverse]
    rw [splitBack, List.reverse_append, List.reverse_cons, List.append_assoc,
      List.singleton_append, splitOn_append_cons hback, (components_append_last modules hfree).2]
    exact List.reverse_reverse name

/-- A function is named for the base of its template. -/
theorem functionName_eq (t : Text) : functionName t = "render_" ++ snakeCase (templateBase t) :=
  congrArg (fun base => "render_".toList ++ snakeCase base) (splitBack_head t)

/-- The path of a function is made of all components but the last and of the function's name. -/
theorem functionPath_eq (t : Text) : functionPath t =
    (templateModules t).flatMap (fun m => snakeCase m ++ "::".toList) ++ functionName t := by
  unfold functionPath
  split
  · next modules name hcut =>
    obtain ⟨rfl, hfree⟩ := eq_of_cutLast? hcut
    obtain ⟨hmodules, hbase⟩ := components_append_last modules hfree
    rw [functionName_eq, functionName_eq, hmodules, hbase, (components_of_not_mem hfree).2]
  · next hcut =>
    rw [(components_of_not_mem (not_mem_of_cutLast?_eq_none hcut)).1]
    rfl

/-- The path of a function has one step for each module and one for its name. -/
theorem splitDouble_functionPath (t : Text) :
    splitDouble ':' (functionPath t) = (templateModules t).map snakeCase ++ [functionName t] := by
  have hmodules : ∀ m ∈ (templateModules t).map snakeCase, ':' ∉ m :=
    List.forall_mem_map.2 fun m _ => colon_not_mem_snakeCase m
  have hpath : functionPath t =
      ((templateModules t).map snakeCase).flatMap (· ++ [':', ':']) ++ functionName t := by
    rw [functionPath_eq, List.flatMap_map]
    rfl
  rw [hpath, splitDouble_flatMap hmodules (colon_not_mem_functionName t)]

/-- A first component is one more module before the others. -/
theorem components_append_cons {piece : Text} (h : '.' ∉ piece) (t : Text) :
    templateModules (piece ++ '.' :: t) = piece :: templateModules t ∧
      templateBase (piece ++ '.' :: t) = templateBase t := by
  have hsplit : (piece ++ '.' :: t).splitOn '.' =
      (piece :: templateModules t) ++ [templateBase t] := by
    rw [splitOn_append_cons h, splitOn_eq_modules t, List.cons_append]
  constructor
  · rw [templateModules, hsplit, List.dropLast_concat]
  · rw [templateBase, hsplit, List.getLast?_concat, Option.getD_some]

/-- The components of a name hold no points, and with the points they make up the name. -/
theorem components_join (t : Text) :
    t = (templateModules t).flatMap (· ++ ['.']) ++ templateBase t ∧
      (∀ m ∈ templateModules t, '.' ∉ m) ∧ '.' ∉ templateBase t ∧
      (templateModules t).length = t.count '.' := by
  induction t using splitOn_induction '.' with
  | hlast t hfree =>
    have hcount : 0 = t.count '.' := (List.count_eq_zero.2 hfree).symm
    obtain ⟨hmodules, hbase⟩ := components_of_not_mem hfree
    rw [hmodules, hbase]
    exact ⟨rfl, List.forall_mem_nil _, hfree, hcount⟩
  | hpiece piece t hfree ih =>
    obtain ⟨hjoin, hmodules, hbase, hcount⟩ := ih
    obtain ⟨hpieces, hlast⟩ := components_append_cons hfree t
    rw [hpieces, hlast]
    refine ⟨?_, List.forall_mem_cons.2 ⟨hfree, hmodules⟩, hbase, ?_⟩
    · rw [List.flatMap_cons, List.append_assoc, List.append_assoc, ← hjoin]
      rfl
    · rw [List.count_append, List.count_cons_self, List.count_eq_zero.2 hfree, List.length_cons,
        hcount, Nat.zero_add]

/-- Every segment of the path of a dotted name is an identifier. -/
theorem isIdentifier_segment {t : Text} (h : t.isDottedName = true) :
    ∀ segment ∈ splitDouble ':' (functionPath t), segment.isIdentifier = true := by
  have hcomponents :
      ∀ piece ∈ templateModules t ++ [templateBase t], piece.isIdentifier = true := by
    rw [← splitOn_eq_modules]
    exact List.all_eq_true.1 h
  obtain ⟨hmodules, hbase⟩ := List.forall_mem_append.1 hcomponents
  rw [splitDouble_functionPath, functionName_eq]
  refine List.forall_mem_append.2 ⟨?_, ?_⟩
  · exact List.forall_mem_map.2 fun m hm => isIdentifier_snakeCase (hmodules m hm)
  · rw [List.forall_mem_singleton] at hbase ⊢
    apply isIdentifier_append (by decide)
    exact isContinue_of_mem_snakeFrom (isContinue_of_mem hbase) none none

/-- A template that is compiled has a proper name. -/
theorem hasValidName_of_compile [Alphabet] {options : Options} {template : Template}
    {output : Output}
    (h : compile options template = .ok output) : template.name.isDottedName = true := by
  unfold compile at h
  split at h
  · next hvalid => exact hvalid
  · cases h

/-- An identifier in ASCII is respelled. -/
theorem respelled_snakeCase {t : Text} (h : t.isIdentifier = true)
    (hascii : ∀ c ∈ t, c.toNat < 0x80) : Respelled none t (snakeCase t) := by
  have hwords : ∀ c ∈ t, IsWord c := by
    intro c hc
    exact ⟨hascii c hc, isContinue_of_mem h c hc⟩
  exact respelled_snakeFrom hwords none

/-- The name of a template gives the path and the name of its render function. Between double
colons the path has one segment more than the name has points: the leading components in snake case,
and at last the name of the function. If the template is compiled, every segment is an identifier.
Snake case leaves no upper-case letter in an identifier in ASCII and changes nothing further when it
is applied again. But for underscores it only lowers the letters, and it makes no pair of
underscores, whether or not pairs may overlap. -/
theorem function_path_names (t : Text) :
    (∃ (modules : List Text) (base : Text), t = modules.flatMap (· ++ ['.']) ++ base ∧
      (∀ m ∈ modules, '.' ∉ m) ∧ '.' ∉ base ∧ functionName t = "render_" ++ snakeCase base ∧
      splitDouble ':' (functionPath t) = modules.map snakeCase ++ [functionName t] ∧
      (splitDouble ':' (functionPath t)).length = t.count '.' + 1) ∧
    (∀ options template output, template.name = t → compile options template = .ok output →
      ∀ segment ∈ splitDouble ':' (functionPath t), segment.isIdentifier = true) ∧
    (t.isIdentifier = true → (∀ c ∈ t, c.toNat < 0x80) →
      (∀ c ∈ snakeCase t, Text.isUpper c = false) ∧
      snakeCase (snakeCase t) = snakeCase t ∧
      (snakeCase t).filter (· != '_') = (t.map Char.toLower).filter (· != '_') ∧
      doubles '_' (snakeCase t) ≤ doubles '_' t ∧
      (splitDouble '_' (snakeCase t)).length ≤ (splitDouble '_' t).length) := by
  refine ⟨?_, ?_, ?_⟩
  · obtain ⟨hjoin, hmodules, hbase, hcount⟩ := components_join t
    have hsegments := splitDouble_functionPath t
    refine ⟨templateModules t, templateBase t, hjoin, hmodules, hbase, functionName_eq t, hsegments,
      ?_⟩
    rw [hsegments, List.length_append, List.length_map, hcount, List.length_singleton]
  · intro options template output hname hcompile
    have hdotted := hasValidName_of_compile hcompile
    rw [hname] at hdotted
    exact isIdentifier_segment hdotted
  · intro hidentifier hascii
    have hrespelled := respelled_snakeCase hidentifier hascii
    exact ⟨fun c hc => (hrespelled.mem c hc).2, snakeFrom_eq_self hrespelled.mem none none,
      hrespelled.filter, Nat.le_of_eq hrespelled.doubles_eq,
      Nat.le_of_eq hrespelled.length_splitDouble_eq⟩

/-- A name with two components is compiled and cut at its point, and an identifier keeps its pair of
underscores. -/
theorem function_path_of_mixed_case :
    (∃ output, compile {} (Template.named "shopFront.userDetail" "x") = .ok output) ∧
    functionPath "shopFront.userDetail" = "shop_front::render_user_detail".toList ∧
    (∀ segment ∈ splitDouble ':' (functionPath "shopFront.userDetail"),
      segment.isIdentifier = true) ∧
    (splitDouble ':' (functionPath "shopFront.userDetail")).length = 2 ∧
    isIdentifier "HTMLPage__V2".toList = true ∧
    snakeCase "HTMLPage__V2" = "html_page__v2".toList ∧
    snakeCase (snakeCase "HTMLPage__V2") = snakeCase "HTMLPage__V2" ∧
    doubles '_' (snakeCase "HTMLPage__V2") ≤ 1 := by
  have hcompile : ∃ output, compile {} (Template.named "shopFront.userDetail" "x") = .ok output :=
    ⟨_, if_pos (by decide)⟩
  obtain ⟨output, houtput⟩ := hcompile
  obtain ⟨⟨_, _, -, -, -, -, -, hlength⟩, hsegments, -⟩ :=
    function_path_names "shopFront.userDetail"
  have hascii : "HTMLPage__V2".toList.all (fun c => decide (c.toNat < 0x80)) = true := by decide
  have hword := (function_path_names "HTMLPage__V2").2.2 (by decide) fun c hc =>
    of_decide_eq_true (List.all_eq_true.1 hascii c hc)
  exact ⟨⟨output, houtput⟩, by decide, hsegments _ _ _ rfl houtput, hlength, by decide, by decide,
    hword.2.1, hword.2.2.2.1⟩

end Stencil
