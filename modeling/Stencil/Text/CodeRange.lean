/-!
# Ranges of code points

A class of characters given by a standard is a list of ranges of code points. A range holds
both of its ends, and a character belongs to the class when one of the ranges holds it.

That one class is part of another is seen by walking through both tables once (`within`), and that
two classes have nothing in common by comparing their ranges (`apart`).
-/

set_option autoImplicit false

namespace Stencil.Text

/-- The code points from the first to the second, both included. -/
abbrev CodeRange := Nat × Nat

/-- Whether the range holds the character. -/
def CodeRange.holds (r : CodeRange) (c : Char) : Bool :=
  r.1 ≤ c.toNat && c.toNat ≤ r.2

/-- Whether one of the ranges holds the character. -/
def inRanges (rs : List CodeRange) (c : Char) : Bool :=
  rs.any (·.holds c)

/-- A character is in the ranges when one of them holds its code. -/
theorem inRanges_iff {rs : List CodeRange} {c : Char} :
    inRanges rs c = true ↔ ∃ r ∈ rs, r.1 ≤ c.toNat ∧ c.toNat ≤ r.2 := by
  simp [inRanges, CodeRange.holds]

/-- Whether every range of the first table lies in a range of the second one. Ranges of the second
table that end too early are left behind. -/
def within : List CodeRange → List CodeRange → Bool
  | [], _ => true
  | r :: rs, ss =>
    match ss.dropWhile fun s => Nat.blt s.2 r.2 with
    | [] => false
    | s :: later => Nat.ble s.1 r.1 && within rs (s :: later)

/-- Ranges that lie within others have their characters there. -/
theorem inRanges_of_within {rs ss : List CodeRange} (h : within rs ss = true) {c : Char}
    (hc : inRanges rs c = true) : inRanges ss c = true := by
  induction rs generalizing ss with
  | nil => cases hc
  | cons r rs ih =>
    rw [within] at h
    split at h
    · cases h
    · next s later hdrop =>
      have hsuffix : s :: later <:+ ss := hdrop ▸ List.dropWhile_suffix _
      have hlast : r.2 ≤ s.2 := by
        have hhead := List.head?_dropWhile_not (fun s : CodeRange => Nat.blt s.2 r.2) ss
        rw [hdrop, List.head?_cons] at hhead
        have hlt : ¬ s.2 < r.2 := by
          rw [← Nat.blt_eq, hhead]
          exact Bool.false_ne_true
        omega
      rw [Bool.and_eq_true, Nat.ble_eq] at h
      obtain ⟨r', hr', hfirst, hend⟩ := inRanges_iff.1 hc
      rcases List.mem_cons.1 hr' with rfl | hr'
      · refine inRanges_iff.2 ⟨s, hsuffix.subset List.mem_cons_self, ?_⟩
        omega
      · have hlater : inRanges rs c = true := inRanges_iff.2 ⟨r', hr', hfirst, hend⟩
        obtain ⟨s', hs', hbetween⟩ := inRanges_iff.1 (ih h.2 hlater)
        exact inRanges_iff.2 ⟨s', hsuffix.subset hs', hbetween⟩

/-- Whether no range of the first table meets one of the second. -/
def apart (rs ss : List CodeRange) : Bool :=
  rs.all fun r => ss.all fun s => Nat.blt r.2 s.1 || Nat.blt s.2 r.1

/-- Ranges that lie apart have no character in common. -/
theorem not_inRanges_of_apart {rs ss : List CodeRange} (h : apart rs ss = true) {c : Char}
    (hc : inRanges rs c = true) : inRanges ss c = false := by
  obtain ⟨r, hr, hfirst, hlast⟩ := inRanges_iff.1 hc
  rw [Bool.eq_false_iff]
  intro hmeet
  obtain ⟨s, hs, hfirst', hlast'⟩ := inRanges_iff.1 hmeet
  have hdisjoint := List.all_eq_true.1 (List.all_eq_true.1 h r hr) s hs
  rw [Bool.or_eq_true, Nat.blt_eq, Nat.blt_eq] at hdisjoint
  omega

end Stencil.Text
