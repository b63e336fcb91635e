import Stencil.Text.Basic

/-!
# Lines and numbers

A text that is put together from pieces can be taken apart again where the pieces do not hold what
stands between them. Lines end at a line end, and the digits of a number end at any other
character.
-/

set_option autoImplicit false

namespace Stencil.Text

/-- A character other than the separator is added to the first piece. -/
theorem splitOn_cons_of_ne {separator c : Char} (h : c ≠ separator) {t piece : Text}
    {pieces : List Text} (ht : splitOn separator t = piece :: pieces) :
    splitOn separator (c :: t) = (c :: piece) :: pieces := by
  rw [splitOn] at ht ⊢
  simp [splitWhere, h, ht]

/-- A text that cannot be cut has no separator. -/
theorem not_mem_of_cutLast?_eq_none {separator : Char} {t : Text}
    (h : cutLast? separator t = none) : separator ∉ t := by
  induction t with
  | nil => exact List.not_mem_nil
  | cons c t ih =>
    rw [cutLast?] at h
    split at h
    · cases h
    · next hcut =>
      split at h
      · cases h
      · next hc => exact List.not_mem_cons_of_ne_of_not_mem (Ne.symm hc) (ih hcut)

/-- The pieces around the last separator: none is left in the second one. -/
theorem eq_of_cutLast? {separator : Char} {t before after : Text}
    (h : cutLast? separator t = some (before, after)) :
    t = before ++ separator :: after ∧ separator ∉ after := by
  induction t generalizing before with
  | nil => cases h
  | cons c t ih =>
    rw [cutLast?] at h
    split at h
    · next hcut =>
      cases h
      obtain ⟨ht, hfree⟩ := ih hcut
      exact ⟨congrArg (c :: ·) ht, hfree⟩
    · next hcut =>
      split at h
      · next hc =>
        cases h
        exact ⟨by rw [hc]; rfl, not_mem_of_cutLast?_eq_none hcut⟩
      · cases h

/-- A piece without the separator ends at the first one. -/
theorem splitOn_append_cons {separator : Char} {piece : Text} (h : separator ∉ piece) (t : Text) :
    splitOn separator (piece ++ separator :: t) = piece :: splitOn separator t := by
  induction piece with
  | nil => simp [splitOn, splitWhere]
  | cons c piece ih =>
    simp only [List.mem_cons, not_or] at h
    exact splitOn_cons_of_ne (Ne.symm h.1) (ih h.2)

/-- A text without the separator is one piece. -/
theorem splitOn_of_not_mem {separator : Char} {t : Text} (h : separator ∉ t) :
    splitOn separator t = [t] := by
  induction t with
  | nil => rfl
  | cons c t ih =>
    simp only [List.mem_cons, not_or] at h
    exact splitOn_cons_of_ne (Ne.symm h.1) (ih h.2)

/-- There is always a piece, if only an empty one. -/
theorem splitOn_ne_nil (separator : Char) (t : Text) : splitOn separator t ≠ [] := by
  by_cases h : separator ∈ t
  · obtain ⟨piece, rest, rfl, hpiece⟩ := List.eq_append_cons_of_mem h
    rw [splitOn_append_cons hpiece]
    simp
  · rw [splitOn_of_not_mem h]
    simp

/-- The induction along the pieces between separators. -/
theorem splitOn_induction (separator : Char) {P : Text → Prop}
    (hlast : ∀ t, separator ∉ t → P t)
    (hpiece : ∀ piece t, separator ∉ piece → P t → P (piece ++ separator :: t)) (t : Text) :
    P t := by
  by_cases h : separator ∈ t
  · obtain ⟨piece, rest, ht, hfree⟩ := List.eq_append_cons_of_mem h
    have hlt : rest.length < t.length := by
      rw [ht, List.length_append, List.length_cons]
      omega
    rw [ht]
    exact hpiece piece rest hfree (splitOn_induction separator hlast hpiece rest)
  · exact hlast t h
termination_by t.length

/-- The pieces of two texts with a separator between them. -/
theorem splitOn_append (separator : Char) (t u : Text) :
    splitOn separator (t ++ separator :: u) = splitOn separator t ++ splitOn separator u := by
  induction t using splitOn_induction separator with
  | hlast t hfree =>
    rw [splitOn_append_cons hfree, splitOn_of_not_mem hfree, List.singleton_append]
  | hpiece piece t hfree ih =>
    rw [List.append_assoc, List.cons_append, splitOn_append_cons hfree, splitOn_append_cons hfree,
      ih, List.cons_append]

/-- A character other than the separator stands in one of the pieces. -/
theorem mem_splitOn {separator c : Char} (hc : c ≠ separator) {t : Text} (h : c ∈ t) :
    ∃ piece ∈ splitOn separator t, c ∈ piece := by
  induction t using splitOn_induction separator with
  | hlast t hfree =>
    rw [splitOn_of_not_mem hfree]
    exact ⟨t, List.mem_singleton_self t, h⟩
  | hpiece piece t hfree ih =>
    rw [splitOn_append_cons hfree]
    rcases List.mem_append.1 h with h | h
    · exact ⟨piece, List.mem_cons_self, h⟩
    · obtain ⟨found, hfound, hmem⟩ := ih ((List.mem_cons.1 h).resolve_left hc)
      exact ⟨found, List.mem_cons_of_mem _ hfound, hmem⟩

/-- Lines that are put together can be told apart again. -/
theorem splitOn_lines {ls : List Text} (h : ∀ l ∈ ls, '\n' ∉ l) :
    splitOn '\n' (ls.flatMap (· ++ ['\n'])) = ls ++ [[]] := by
  induction ls with
  | nil => rfl
  | cons l ls ih =>
    have hl : '\n' ∉ l := h l (by simp)
    have hls : ∀ m ∈ ls, '\n' ∉ m := fun m hm => h m (by simp [hm])
    rw [List.flatMap_cons, List.append_assoc, List.singleton_append, splitOn_append_cons hl,
      ih hls, List.cons_append]

/-- Lines that are told apart by what they are made from. -/
theorem lines_injective {f : Text → Text} (hf : ∀ l m, f l = f m → l = m) {ls ms : List Text}
    (hl : ∀ l ∈ ls, '\n' ∉ f l) (hm : ∀ m ∈ ms, '\n' ∉ f m)
    (h : ls.flatMap (fun l => f l ++ ['\n']) = ms.flatMap fun m => f m ++ ['\n']) : ls = ms := by
  have hsplit {ns : List Text} (hn : ∀ n ∈ ns, '\n' ∉ f n) :
      splitOn '\n' (ns.flatMap fun n => f n ++ ['\n']) = ns.map f ++ [[]] := by
    have hlines := @splitOn_lines (ns.map f) (List.forall_mem_map.2 hn)
    rwa [List.flatMap_map] at hlines
  have hmaps : ls.map f = ms.map f := by
    have heq := congrArg (splitOn '\n') h
    rw [hsplit hl, hsplit hm] at heq
    exact List.append_cancel_right heq
  exact List.map_inj_right hf |>.1 hmaps

/-- Different numbers are written differently. -/
theorem ofNat_injective {m n : Nat} (h : ofNat m = ofNat n) : m = n := by
  have hm : Nat.ofDigitChars 10 (ofNat m) 0 = m := Nat.ofDigitChars_ten_toDigits
  have hn : Nat.ofDigitChars 10 (ofNat n) 0 = n := Nat.ofDigitChars_ten_toDigits
  rw [← hm, ← hn, h]

/-- A number is written in digits. -/
theorem isDigit_of_mem_ofNat {n : Nat} {c : Char} (h : c ∈ ofNat n) : c.isDigit = true :=
  Nat.isDigit_of_mem_toDigits (by decide) (by decide) h

/-- A character that is no digit is in no number. -/
theorem not_mem_ofNat {c : Char} (h : c.isDigit = false) (n : Nat) : c ∉ ofNat n := by
  intro hmem
  rw [isDigit_of_mem_ofNat hmem] at h
  exact Bool.noConfusion h

/-- What stands before the first separator can be told from what stands behind it. -/
theorem append_cons_injective {c : Char} {x y s t : Text} (hx : c ∉ x) (hy : c ∉ y)
    (h : x ++ c :: s = y ++ c :: t) : x = y ∧ s = t := by
  have hpieces : x :: splitOn c s = y :: splitOn c t := by
    rw [← splitOn_append_cons hx, ← splitOn_append_cons hy, h]
  have hxy : x = y := List.head_eq_of_cons_eq hpieces
  subst hxy
  have hrest : c :: s = c :: t := List.append_cancel_left h
  exact ⟨rfl, List.tail_eq_of_cons_eq hrest⟩

end Stencil.Text
