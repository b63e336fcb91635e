import Stencil.Compile
import Stencil.Proofs.Text.Line
import Stencil.Proofs.Token.Spelling

/-!
# Templates by the names of their files

A file is named after its template: the template's name, the mark `.blip` and, behind a further
point, the type of the rendered file. Reading the name of a file looks for the first place where
the mark stands, whatever follows it there. So a name is read back exactly if it does not hold the
mark itself.

Names may have points in them, and a component may start with `blip`. A file of such a template is
cut too early, which loses the type of the file along with the end of the name.
-/

set_option autoImplicit false

namespace Stencil

/-- The marks of ASCII are in no dotted name, but for the point and the underscore. -/
theorem Text.not_mem_of_isDottedName [Alphabet] {t : Text}
    (h : t.isDottedName = true) {c : Char} (hpoint : c ≠ '.') (hascii : c.toNat < 0x80)
    (hmark : (c.isAlphanum || c == '_') = false) : c ∉ t := by
  intro hmem
  obtain ⟨piece, hpiece, hc⟩ := mem_splitOn hpoint hmem
  have hidentifier : piece.isIdentifier = true := List.all_eq_true.1 h piece hpiece
  have hcontinue := isContinue_of_mem hidentifier c hc
  rw [Alphabet.isContinue_of_ascii hascii, hmark] at hcontinue
  exact Bool.noConfusion hcontinue

/-- The last component of a path is what stands behind its directories. -/
theorem baseName?_append {directory base : Text}
    (hdirectory : directory = [] ∨ directory.getLast? = some '/') (hbase : '/' ∉ base)
    (hlength : 2 < base.length) : baseName? (directory ++ base) = some base := by
  have hcomponents : ∃ outer, (directory ++ base).splitOn '/' = outer ++ [base] := by
    rcases hdirectory with rfl | hlast
    · exact ⟨[], Text.splitOn_of_not_mem hbase⟩
    · obtain ⟨front, rfl⟩ := List.getLast?_eq_some_iff.1 hlast
      refine ⟨Text.splitOn '/' front, ?_⟩
      rw [List.append_assoc, List.singleton_append, Text.splitOn_append,
        Text.splitOn_of_not_mem hbase]
  obtain ⟨outer, houter⟩ := hcomponents
  -- The components that do not count have at most two characters.
  have hnil : base ≠ [] := fun h => by simp [h] at hlength
  have hhere : base ≠ ['.'] := fun h => by simp [h] at hlength
  have hup : base ≠ ['.', '.'] := fun h => by simp [h] at hlength
  simp [baseName?, houter, hnil, hhere, hup]

namespace Template

variable {name rest : Text}

/-- Behind a name that does not hold the mark, the mark is found where it is put. -/
theorem cut?_fileMark (h : ¬ fileMark <:+: name) :
    Text.cut? fileMark (name ++ fileMark ++ rest) = some (name, rest) := by
  have hmark : fileMark = '.' :: "blip".toList := by decide
  rw [hmark] at h ⊢
  exact (Text.cut?_eq_some_iff (by decide) name rest).2 h

/-- A name that is read back does not hold the mark. -/
theorem not_infix_of_splitFileName (h : (splitFileName (name ++ fileMark ++ rest)).1 = name) :
    ¬ fileMark <:+: name := by
  have hmark : fileMark ≠ [] := by decide
  cases hcut : Text.cut? fileMark (name ++ fileMark ++ rest) with
  | none => exact absurd ⟨name, rest, rfl⟩ (Text.not_infix_of_cut?_eq_none hmark hcut)
  | some pieces =>
    obtain ⟨before, after⟩ := pieces
    have hbefore : before = name := by
      rw [← h, splitFileName, hcut]
      split <;> simp_all
    rw [← hbefore]
    exact Text.not_infix_of_cut? hmark hcut

/-- A name and a file type are told apart unless the mark is in the name. -/
theorem splitFileName_typed_iff {fileType : Text} (hne : fileType ≠ []) :
    splitFileName (name ++ fileMark ++ '.' :: fileType) = (name, fileType) ↔
      ¬ fileMark <:+: name := by
  refine ⟨fun h => not_infix_of_splitFileName (congrArg Prod.fst h), fun h => ?_⟩
  rw [splitFileName, cut?_fileMark h]
  simp [hne]

/-- A name without a file type stands for text, unless the mark is in it. -/
theorem splitFileName_untyped_iff :
    splitFileName (name ++ fileMark) = (name, "text".toList) ↔ ¬ fileMark <:+: name := by
  rw [← List.append_nil (name ++ fileMark)]
  refine ⟨fun h => not_infix_of_splitFileName (congrArg Prod.fst h), fun h => ?_⟩
  rw [splitFileName, cut?_fileMark h]

/-- What a file tells about its template is told by its base name. -/
theorem ofFile_eq_iff {path base : Text} (h : baseName? path = some base)
    (name fileType source : Text) :
    ofFile path source = ⟨name, path, fileType, source⟩ ↔
      splitFileName base = (name, fileType) := by
  simp [ofFile, h, Prod.ext_iff]

end Template

/-- A template's name and file type can be put into the name of its file, in any directory, and
read back from there, with or without a file type, exactly if the name does not hold the mark. -/
theorem file_name_tells_template [Alphabet] (options : Options)
    {name directory fileType source : Text}
    (hname : (compile options (.named name source)).isOk = true)
    (hdirectory : directory = [] ∨ directory.getLast? = some '/') (htype : fileType ≠ [])
    (hslash : '/' ∉ fileType) :
    let typed : Text := directory ++ name ++ ".blip." ++ fileType
    let untyped : Text := directory ++ name ++ ".blip"
    (Template.ofFile typed source = ⟨name, typed, fileType, source⟩ ↔
        ¬ Template.fileMark <:+: name) ∧
      (Template.ofFile untyped source = ⟨name, untyped, "text", source⟩ ↔
        ¬ Template.fileMark <:+: name) := by
  intro typed untyped
  have hdotted : name.isDottedName = true := by
    unfold compile at hname
    split at hname
    · assumption
    · cases hname
  have hplain : '/' ∉ name :=
    Text.not_mem_of_isDottedName hdotted (by decide) (by decide) (by decide)
  have hmark : '/' ∉ Template.fileMark := by decide
  have hlength : Template.fileMark.length = 5 := by decide
  have htyped : baseName? typed = some (name ++ Template.fileMark ++ '.' :: fileType) := by
    have hpath : typed = directory ++ (name ++ Template.fileMark ++ '.' :: fileType) := by
      simp [typed, Template.fileMark]
    rw [hpath]
    refine baseName?_append hdirectory ?_ ?_
    · simp [hplain, hmark, hslash]
    · simp only [List.length_append, List.length_cons, hlength]
      omega
  have huntyped : baseName? untyped = some (name ++ Template.fileMark) := by
    have hpath : untyped = directory ++ (name ++ Template.fileMark) := by
      simp [untyped, Template.fileMark]
    rw [hpath]
    refine baseName?_append hdirectory ?_ ?_
    · simp [hplain, hmark]
    · simp only [List.length_append, hlength]
      omega
  exact ⟨(Template.ofFile_eq_iff htyped ..).trans (Template.splitFileName_typed_iff htype),
    (Template.ofFile_eq_iff huntyped ..).trans Template.splitFileName_untyped_iff⟩

/-- A template with a dotted name, and a file type with a point in it that looks like the mark. -/
theorem file_name_tells_dotted_template :
    let name : Text := "html.userBlip"
    let path : Text := "views/html.userBlip.blip.blip.html"
    (compile {} (.named name [])).isOk = true ∧
      Template.ofFile path [] = ⟨name, path, "blip.html", []⟩ := by
  intro name path
  have hname : (compile {} (.named name [])).isOk = true := by decide +kernel
  have htells := @file_name_tells_template _ {} name "views/".toList "blip.html".toList [] hname
    (Or.inr (by decide)) (by decide) (by decide)
  exact ⟨hname, htells.1.2 (by decide)⟩

/-- A component that only starts like the mark is taken for it: the rest of the name is lost, and
the file type with it. -/
theorem longer_component_taken_for_mark :
    let name : Text := "a.blipper"
    let path : Text := "a.blipper.blip.html"
    (compile {} (.named name [])).isOk = true ∧ path = name ++ ".blip." ++ "html" ∧
      Template.ofFile path [] = ⟨"a", path, "text", []⟩ ∧
      Template.ofFile path [] ≠ ⟨name, path, "html", []⟩ := by
  decide +kernel

end Stencil
