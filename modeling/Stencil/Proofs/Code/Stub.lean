import Mathlib.Data.List.Forall2
import Stencil.Code.Module
import Stencil.Proofs.Text.Line
import Stencil.Proofs.Text.StringLiteral

/-!
# Error stubs

The stub that is generated for a document with problems shows each problem, with its place and in
words, and nothing else of the document. It is made of lines, and the only parts of a line that
vary are numbers and a literal. So the lines can be told apart (`Text.splitOn_lines`), a literal
can be read back, and the numbers in front of a message end at a colon (`shown_injective`).
-/

set_option autoImplicit false

namespace Stencil

/-- What a stub tells of a problem: its line, its column and what is wrong. -/
structure Report where
  line : Nat
  column : Nat
  message : Text
  deriving DecidableEq, Repr

/-- The report of a problem at a place. -/
def Diagnostic.report (d : Diagnostic) : Report :=
  ⟨d.position.line, d.position.column, d.message⟩

/-- The report as it is shown for a template of the given path. -/
def Report.shown (path : Text) (r : Report) : Text :=
  path ++ ":" ++ Text.ofNat r.line ++ ":" ++ Text.ofNat r.column ++ ": " ++ r.message

/-- For one path, a report can be told from how it is shown. -/
theorem Report.shown_injective {path : Text} {r s : Report} (h : r.shown path = s.shown path) :
    r = s := by
  have hcolon (n : Nat) : ':' ∉ Text.ofNat n := Text.not_mem_ofNat (by decide) n
  have hpath : Text.ofNat r.line ++ ':' :: (Text.ofNat r.column ++ ':' :: ' ' :: r.message) =
      Text.ofNat s.line ++ ':' :: (Text.ofNat s.column ++ ':' :: ' ' :: s.message) := by
    simpa [shown] using h
  obtain ⟨hline, hbehind⟩ := Text.append_cons_injective (hcolon _) (hcolon _) hpath
  obtain ⟨hcolumn, hmessage⟩ := Text.append_cons_injective (hcolon _) (hcolon _) hbehind
  obtain ⟨l, c, m⟩ := r
  obtain ⟨l', c', m'⟩ := s
  have hl : l = l' := Text.ofNat_injective hline
  have hc : c = c' := Text.ofNat_injective hcolumn
  have hm : m = m' := List.tail_eq_of_cons_eq hmessage
  rw [hl, hc, hm]

namespace Code

/-- The line that makes the compilation fail, by the contents of its literal. -/
def failureLine (contents : Text) : Text :=
  "    compile_error!(\"" ++ contents ++ "\");" ++ ['\n']

/-- A problem fails the compilation with its report as the message. -/
theorem failure_eq (path : Text) (d : Diagnostic) :
    failure path d = failureLine (Text.escaped (d.report.shown path)) := by
  have hshown : path ++ ":" ++ d.display = d.report.shown path := by
    simp [Report.shown, Diagnostic.report, Diagnostic.display, Position.display]
  have hliteral : "compile_error!(" ++ Text.literal (d.report.shown path) ++ ");" =
      "compile_error!(\"" ++ Text.escaped (d.report.shown path) ++ "\");" := by
    simp [Text.literal]
  rw [failure, hshown, hliteral]
  exact (line_between (by decide) rfl _).trans (List.append_assoc _ _ _).symm

/-- The literals of a stub. -/
def stubLiterals (path : Text) (rs : List Report) : List Text :=
  rs.map fun r => Text.escaped (r.shown path)

/-- The code for a document with problems is made of its reports alone. -/
theorem ofDocument_eq_stub (t : Template) (o : Options) {d : Document} (h : d.hasErrors = true) :
    ofDocument t o d = front t o {} ++
      (stubLiterals t.path (d.diagnostics.map Diagnostic.report)).flatMap failureLine ++
        "    unreachable!()\n\x7d\n" := by
  have hlines : d.diagnostics.flatMap (failure t.path) =
      (stubLiterals t.path (d.diagnostics.map Diagnostic.report)).flatMap failureLine := by
    rw [stubLiterals, List.map_map, List.flatMap_map]
    exact List.flatMap_congr fun x _ => failure_eq t.path x
  have hend : line 1 "unreachable!()" ++ line 0 "\x7d" = "    unreachable!()\n\x7d\n" := by
    decide
  rw [ofDocument_of_errors t o h, stub, hlines, ← hend]
  simp only [List.append_assoc]

/-- The literals of a stub stay on their lines. -/
theorem lineEnd_not_mem_stubLiterals (path : Text) (rs : List Report) :
    ∀ l ∈ stubLiterals path rs, '\n' ∉ l := by
  intro l hl
  obtain ⟨r, -, rfl⟩ := List.mem_map.1 hl
  exact Text.lineEnd_not_mem_escaped _

/-- The reports can be told from the literals of a stub. -/
theorem stubLiterals_injective {path : Text} {rs ss : List Report}
    (h : stubLiterals path rs = stubLiterals path ss) : rs = ss := by
  refine List.map_injective_iff.2 ?_ h
  intro r s hrs
  exact Report.shown_injective (Text.escaped_injective hrs)

/-- Failures that are put together can be told apart again. -/
theorem failureLines_injective {ls ms : List Text} (hl : ∀ l ∈ ls, '\n' ∉ l)
    (hm : ∀ m ∈ ms, '\n' ∉ m) (h : ls.flatMap failureLine = ms.flatMap failureLine) : ls = ms := by
  refine Text.lines_injective (f := fun l => "    compile_error!(\"" ++ l ++ "\");") ?_ ?_ ?_ h
  · intro l m hlm
    simpa using hlm
  · intro l hmem
    simp [hl l hmem]
  · intro m hmem
    simp [hm m hmem]

end Code

/-- The stub for a document with problems holds every report, as a literal of its own line and in
order, and nothing else that depends on the document: two documents with problems have the same
code exactly if they have the same reports. -/
theorem stub_reveals_reports (t : Template) (o : Options) (d e : Document)
    (hd : d.hasErrors = true) (he : e.hasErrors = true) :
    (∃ literals : List Text,
      Code.ofDocument t o d = Code.front t o {} ++ literals.flatMap Code.failureLine ++
        "    unreachable!()\n\x7d\n" ∧
      List.Forall₂ (fun contents x => Text.Denotes contents (x.report.shown t.path)) literals
        d.diagnostics) ∧
    (Code.ofDocument t o d = Code.ofDocument t o e ↔
      d.diagnostics.map Diagnostic.report = e.diagnostics.map Diagnostic.report) := by
  refine ⟨⟨_, Code.ofDocument_eq_stub t o hd, ?_⟩, ?_, ?_⟩
  · rw [Code.stubLiterals, List.map_map, List.forall₂_map_left_iff]
    exact List.forall₂_same.2 fun x _ => Text.denotes_escaped _
  · intro h
    rw [Code.ofDocument_eq_stub t o hd, Code.ofDocument_eq_stub t o he] at h
    have hlines := List.append_cancel_left (List.append_cancel_right h)
    refine Code.stubLiterals_injective (Code.failureLines_injective ?_ ?_ hlines)
    · exact Code.lineEnd_not_mem_stubLiterals _ _
    · exact Code.lineEnd_not_mem_stubLiterals _ _
  · intro h
    rw [Code.ofDocument_eq_stub t o hd, Code.ofDocument_eq_stub t o he, h]

/-- Documents that differ in their trees and spans have the same stub; one with another message has
another stub. -/
theorem stub_hides_tree_shows_message :
    let problem (span : Span) (message : Text) : Diagnostic := ⟨⟨2, 7⟩, span, .remark message⟩
    let t : Template := .named "index" []
    let d : Document := { root := ⟨.root, none, []⟩, diagnostics := [problem ⟨8, 9⟩ "a \"b\"\n"] }
    let e : Document :=
      { root := ⟨.root, none, [⟨.yield "secret", none, []⟩]⟩
        declarations := { imports := [⟨"p", 1⟩] }
        diagnostics := [problem ⟨0, 4⟩ "a \"b\"\n"] }
    let f : Document := { root := d.root, diagnostics := [problem ⟨8, 9⟩ "a \"b\"\\n"] }
    d.hasErrors = true ∧ e.hasErrors = true ∧ f.hasErrors = true ∧
      Code.ofDocument t {} d = Code.ofDocument t {} e ∧
      Code.ofDocument t {} d ≠ Code.ofDocument t {} f := by
  intro problem t d e f
  refine ⟨rfl, rfl, rfl, ?_, ?_⟩
  · exact (stub_reveals_reports t {} d e rfl rfl).2.2 rfl
  · intro h
    exact absurd ((stub_reveals_reports t {} d f rfl rfl).2.1 h) (by decide)

end Stencil
