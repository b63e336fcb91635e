import Mathlib.Data.List.Sort
import Stencil.Code.Module

/-!
# The import section

The entries of the import section are kept in a sorted list without repetitions. Two such lists with
the same members are the same list, so the section tells which paths are imported and nothing about
the order in which they were declared, or how often. This holds as well for a path whose entry is
one of the two that every module has.

The order of texts is that of their code points at the first place where they differ
(`lt_iff_codePoints`).
-/

set_option autoImplicit false

namespace Stencil.Code

/-- Texts are ordered by the code points of their characters. -/
theorem lt_iff_codePoints {s t : Text} :
    s < t ↔ List.Lex (fun a b => a.toNat < b.toNat) s t := Iff.rfl

/-- One entry is put in front of all that are larger, and behind all that are smaller. -/
theorem pairwise_insertSorted {entry : Text} {entries : List Text}
    (h : entries.Pairwise (· < ·)) : (insertSorted entry entries).Pairwise (· < ·) := by
  induction entries with
  | nil => simp [insertSorted]
  | cons e es ih =>
    obtain ⟨hfirst, hes⟩ := List.pairwise_cons.1 h
    unfold insertSorted
    split
    · next hlt =>
      refine List.pairwise_cons.2 ⟨?_, h⟩
      intro x hx
      rcases List.mem_cons.1 hx with rfl | hx
      · exact hlt
      · exact List.lt_trans hlt (hfirst x hx)
    · next hlt =>
      split
      · exact h
      · next hne =>
        have hbehind : e < entry := by
          rcases Std.lt_trichotomy entry e with hless | heq | hmore
          · exact absurd hless hlt
          · exact absurd heq hne
          · exact hmore
        refine List.pairwise_cons.2 ⟨?_, ih hes⟩
        intro x hx
        rcases mem_insertSorted.1 hx with rfl | hx
        · exact hbehind
        · exact hfirst x hx

/-- Sorted entries ascend strictly, so none is repeated. -/
theorem pairwise_sorted (entries : List Text) : (sorted entries).Pairwise (· < ·) := by
  induction entries with
  | nil => exact List.Pairwise.nil
  | cons e es ih => exact pairwise_insertSorted ih

/-- Sorting forgets everything about a list but its members. -/
theorem sorted_congr {as bs : List Text} (h : ∀ x, x ∈ as ↔ x ∈ bs) : sorted as = sorted bs := by
  have hmem (x : Text) : x ∈ sorted as ↔ x ∈ sorted bs := by
    rw [mem_sorted, mem_sorted, h x]
  exact List.Pairwise.eq_of_mem_iff (pairwise_sorted as) (pairwise_sorted bs) hmem

/-- What is imported: the runtime, the trait to write with, and the paths of the template. -/
theorem mem_importEntries {o : Options} {paths : List Text} {entry : Text} :
    entry ∈ importEntries o paths ↔
      entry = "use " ++ o.runtimePath ++ "::\x7bself as runtime, Context\x7d;" ∨
        entry = "use std::io::Write;" ∨ ∃ p ∈ paths, entry = "use " ++ p ++ ";" := by
  rw [importEntries, mem_sorted, List.mem_cons, List.mem_cons, List.mem_map]
  simp only [eq_comm (a := entry)]

/-- The imports depend only on which paths there are, not on their order or number. -/
theorem importEntries_congr (o : Options) {ps qs : List Text} (h : ∀ p, p ∈ ps ↔ p ∈ qs) :
    importEntries o ps = importEntries o qs := by
  refine sorted_congr fun entry => ?_
  rw [List.mem_cons, List.mem_cons, List.mem_cons, List.mem_cons, List.mem_map, List.mem_map]
  simp only [h]

/-- The code of a document without problems has one line for every import, in the order of code
points and each of them once: the support library, `Write` and what the document declares. Documents
that declare the same paths otherwise often, or in another order, have the same code. -/
theorem import_section_canonical (t : Template) (o : Options) {doc : Document}
    (h : doc.diagnostics = []) :
    let entries := importEntries o (doc.declarations.imports.map Import.path)
    ofDocument t o doc = header t o ++ entries.flatMap (fun entry => entry ++ ['\n']) ++ ['\n'] ++
        (doc.declarations.functions.flatMap functionBlock ++ renderFunction t o doc) ∧
      entries.Pairwise (List.Lex fun a b => a.toNat < b.toNat) ∧
      (∀ entry, entry ∈ entries ↔
        entry = "use " ++ o.runtimePath ++ "::\x7bself as runtime, Context\x7d;" ∨
          entry = "use std::io::Write;" ∨
          ∃ i ∈ doc.declarations.imports, entry = "use " ++ i.path ++ ";") ∧
      ∀ imports : List Import,
        (∀ p, p ∈ imports.map Import.path ↔ p ∈ doc.declarations.imports.map Import.path) →
          ofDocument t o { doc with declarations.imports := imports } = ofDocument t o doc := by
  intro entries
  have hsilent (imports : List Import) :
      Document.hasErrors { doc with declarations.imports := imports } = false := by
    rw [Document.hasErrors, h]
    rfl
  have hcode (imports : List Import) :
      ofDocument t o { doc with declarations.imports := imports } =
        header t o ++ importSection o (imports.map Import.path) ++
          doc.declarations.functions.flatMap functionBlock ++ renderFunction t o doc := by
    rw [ofDocument, importPaths, hsilent]
    rfl
  refine ⟨?_, ?_, ?_, ?_⟩
  · rw [← List.append_assoc, List.append_assoc (header t o)]
    exact hcode doc.declarations.imports
  · exact (pairwise_sorted _).imp lt_iff_codePoints.1
  · intro entry
    rw [mem_importEntries]
    simp only [List.mem_map, exists_exists_and_eq_and]
  · intro imports hpaths
    have hsection : importSection o (imports.map Import.path) =
        importSection o (doc.declarations.imports.map Import.path) := by
      rw [importSection, importSection, importEntries_congr o hpaths]
    calc ofDocument t o { doc with declarations.imports := imports }
        = header t o ++ importSection o (imports.map Import.path) ++
            doc.declarations.functions.flatMap functionBlock ++ renderFunction t o doc :=
          hcode imports
      _ = header t o ++ importSection o (doc.declarations.imports.map Import.path) ++
            doc.declarations.functions.flatMap functionBlock ++ renderFunction t o doc := by
          rw [hsection]
      _ = ofDocument t o doc := (hcode doc.declarations.imports).symm

/-- Paths before, between and behind the two entries that every module has, and one that coincides
with an entry of these. -/
theorem import_section_of_shuffled_paths :
    let imports : List Import :=
      [⟨"zip", 1⟩, ⟨"std::io::Write", 2⟩, ⟨"alloc", 3⟩, ⟨"zip", 4⟩, ⟨"crate::a", 5⟩]
    let doc : Document := { root := ⟨.root, none, []⟩, declarations := { imports } }
    let page := Template.named "p" ""
    importEntries {} (imports.map Import.path) =
        ["use alloc;".toList, "use blip::runtime::\x7bself as runtime, Context\x7d;".toList,
          "use crate::a;".toList, "use std::io::Write;".toList, "use zip;".toList] ∧
      ("\n\nuse alloc;\nuse blip::runtime::\x7bself as runtime, Context\x7d;\nuse crate::a;\n" ++
        "use std::io::Write;\nuse zip;\n\n" : Text) <:+: ofDocument page {} doc ∧
      ofDocument page {} { doc with declarations.imports := imports.reverse } =
        ofDocument page {} doc := by
  intro imports doc page
  refine ⟨by decide +kernel, by decide +kernel, ?_⟩
  have hsilent : doc.diagnostics = [] := rfl
  refine (import_section_canonical page {} hsilent).2.2.2 imports.reverse fun p => ?_
  rw [List.map_reverse, List.mem_reverse]

end Stencil.Code
