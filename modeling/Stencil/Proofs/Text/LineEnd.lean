import Stencil.Position
import Stencil.Text.Blank

/-!
# Line ends of two characters

Some files end their lines with a carriage return and a line feed. `Text.withReturns` puts the
return before every line feed of a text. What a scanner finds in the longer text is what it finds in
the text itself, with returns put in, as long as it does not tell the two characters apart: this is
shown here once for every way of scanning that lexemes are read with. A scanner that stops at the
line feed finds one return more, which is blank.

The places that a scanner stops at move to the right (`byteLength_withReturns`), but the lines and
columns of all other characters stay as they are (`advance_withReturns`).
-/

set_option autoImplicit false

namespace Stencil

namespace Text

/-- The text with a carriage return before every line feed. -/
def withReturns (t : Text) : Text :=
  t.flatMap fun c => if c = '\n' then ['\r', '\n'] else [c]

/-- The empty text has no line end. -/
@[simp] theorem withReturns_nil : withReturns [] = [] := rfl

/-- A line end has a return put before it. -/
@[simp] theorem withReturns_lineEnd (t : Text) :
    withReturns ('\n' :: t) = '\r' :: '\n' :: withReturns t := rfl

/-- A character other than the line feed stays as it is. -/
theorem withReturns_cons {c : Char} (h : c ≠ '\n') (t : Text) :
    withReturns (c :: t) = c :: withReturns t := by
  simp [withReturns, h]

/-- Returns are put into each part of a text. -/
@[simp] theorem withReturns_append (s t : Text) :
    withReturns (s ++ t) = withReturns s ++ withReturns t :=
  List.flatMap_append

/-- A text of one line stays as it is. -/
theorem withReturns_of_not_mem {t : Text} (h : '\n' ∉ t) : withReturns t = t := by
  induction t with
  | nil => rfl
  | cons c t ih =>
    rw [List.mem_cons, not_or] at h
    rw [withReturns_cons (Ne.symm h.1), ih h.2]

/-- A text is a single line, or it has a first line and a line feed behind it. -/
theorem eq_line_or_append (t : Text) :
    '\n' ∉ t ∨ ∃ line rest, t = line ++ '\n' :: rest ∧ '\n' ∉ line := by
  by_cases h : '\n' ∈ t
  · exact Or.inr (List.eq_append_cons_of_mem h)
  · exact Or.inl h

/-- The return ends the first line. -/
theorem withReturns_line {line : Text} (h : '\n' ∉ line) (rest : Text) :
    withReturns (line ++ '\n' :: rest) = (line ++ ['\r']) ++ '\n' :: withReturns rest := by
  rw [withReturns_append, withReturns_of_not_mem h, withReturns_lineEnd, List.append_assoc]
  rfl

/-- Returns make no text of nothing. -/
theorem withReturns_eq_nil_iff {t : Text} : withReturns t = [] ↔ t = [] := by
  cases t with
  | nil => simp
  | cons c t =>
    by_cases hc : c = '\n'
    · subst hc
      simp
    · simp [withReturns_cons hc]

/-- Whether a text starts with a character of a line does not depend on the returns. -/
theorem head?_withReturns_eq_iff {c : Char} (hr : c ≠ '\r') (hn : c ≠ '\n') {t : Text} :
    (withReturns t).head? = some c ↔ t.head? = some c := by
  cases t with
  | nil => simp
  | cons d t =>
    by_cases hd : d = '\n'
    · subst hd
      simp [Ne.symm hr, Ne.symm hn]
    · simp [withReturns_cons hd]

/-- Every line takes one byte more. -/
theorem byteLength_withReturns (t : Text) :
    (withReturns t).byteLength = t.byteLength + t.count '\n' := by
  induction t with
  | nil => rfl
  | cons c t ih =>
    by_cases hc : c = '\n'
    · subst hc
      have hreturn : '\r'.utf8Size = 1 := rfl
      rw [withReturns_lineEnd, List.count_cons_self, byteLength_cons, byteLength_cons,
        byteLength_cons, ih, hreturn]
      omega
    · rw [withReturns_cons hc, List.count_cons_of_ne hc, byteLength_cons, byteLength_cons, ih]
      omega

/-! ## Scanning characters -/

section Scanning

variable (p : Char → Bool) (h : p '\r' = p '\n')

include h

/-- A run of characters is found again. -/
theorem takeWhile_withReturns (t : Text) :
    (withReturns t).takeWhile p = withReturns (t.takeWhile p) := by
  induction t with
  | nil => rfl
  | cons c t ih =>
    by_cases hc : c = '\n'
    · subst hc
      cases hp : p '\n' with
      | false => simp [h, hp]
      | true => simp [h, hp, ih]
    · rw [withReturns_cons hc]
      cases hp : p c with
      | false => simp [hp]
      | true => simp [hp, ih, withReturns_cons hc]

/-- What follows a run of characters is found again. -/
theorem dropWhile_withReturns (t : Text) :
    (withReturns t).dropWhile p = withReturns (t.dropWhile p) := by
  induction t with
  | nil => rfl
  | cons c t ih =>
    by_cases hc : c = '\n'
    · subst hc
      cases hp : p '\n' with
      | false => simp [h, hp]
      | true => simp [h, hp, ih]
    · rw [withReturns_cons hc]
      cases hp : p c with
      | false => simp [hp, withReturns_cons hc]
      | true => simp [hp, ih]

/-- A class that does not tell the return from the line feed holds for the first character alike. -/
theorem any_head?_withReturns (t : Text) : (withReturns t).head?.any p = t.head?.any p := by
  cases t with
  | nil => rfl
  | cons c t =>
    by_cases hc : c = '\n'
    · subst hc
      simpa using h
    · simp [withReturns_cons hc]

/-- A class that does not tell the return from the line feed holds for all characters alike. -/
theorem all_withReturns (t : Text) : (withReturns t).all p = t.all p := by
  induction t with
  | nil => rfl
  | cons c t ih =>
    by_cases hc : c = '\n'
    · subst hc
      simp [h, ih]
    · simp [withReturns_cons hc, ih]

end Scanning

/-- The return is a blank like the line feed. -/
theorem isBlank_return : isBlank '\r' = isBlank '\n' := by decide

/-- Returns make no blank text and no other text of it. -/
theorem allBlank_withReturns (t : Text) : (withReturns t).allBlank = t.allBlank :=
  all_withReturns isBlank isBlank_return t

/-- A return at the end of a payload is trimmed away. -/
theorem trim_append_return (t : Text) : trim (t ++ ['\r']) = trim t := by
  have hblank : isBlank '\r' = true := by decide
  have hend (s : Text) : trimEnd (s ++ ['\r']) = trimEnd s := by
    simp [trimEnd, hblank]
  rw [trim, trim, trimStart, trimStart, List.dropWhile_append]
  split
  · next hnil =>
    rw [List.isEmpty_iff.1 hnil]
    simp [hblank]
  · exact hend _

/-! ## Looking for a place -/

section Marks

variable {mark : Text}

/-- A mark on one line stands at the start of the longer text if it stands at the start of the
text. -/
theorem startsWith_withReturns (hn : '\n' ∉ mark) (hr : '\r' ∉ mark) (t : Text) :
    startsWith (withReturns t) mark = startsWith t mark := by
  induction mark generalizing t with
  | nil => simp [startsWith]
  | cons m mark ih =>
    rw [List.mem_cons, not_or] at hn hr
    cases t with
    | nil => rfl
    | cons c t =>
      by_cases hc : c = '\n'
      · subst hc
        have hreturn : (m == '\r') = false := beq_false_of_ne (Ne.symm hr.1)
        have hfeed : (m == '\n') = false := beq_false_of_ne (Ne.symm hn.1)
        simp [startsWith, List.isPrefixOf, hreturn, hfeed]
      · have htail := ih hn.2 hr.2 t
        rw [startsWith, startsWith] at htail
        rw [withReturns_cons hc, startsWith, startsWith, List.isPrefixOf, List.isPrefixOf, htail]

/-- What follows the mark is found again. -/
theorem drop_withReturns (hn : '\n' ∉ mark) {t : Text} (h : t.startsWith mark = true) :
    (withReturns t).drop mark.length = withReturns (t.drop mark.length) := by
  have ht := congrArg withReturns (startsWith_iff.1 h)
  rw [withReturns_append, withReturns_of_not_mem hn] at ht
  rw [← ht, List.drop_left]

/-- A place that no line feed starts is found again. -/
theorem breakAt_withReturns {here : Text → Bool} (h : ∀ t, here (withReturns t) = here t)
    (hfeed : ∀ t, here ('\n' :: t) = false) (t : Text) :
    breakAt here (withReturns t) =
      (withReturns (breakAt here t).1, withReturns (breakAt here t).2) := by
  induction t with
  | nil => rfl
  | cons c t ih =>
    by_cases hc : c = '\n'
    · subst hc
      have hreturn : here ('\r' :: '\n' :: withReturns t) = false := by
        rw [← withReturns_lineEnd, h, hfeed]
      simp [breakAt, hreturn, hfeed, ih]
    · have hhere := h (c :: t)
      rw [withReturns_cons hc] at hhere
      cases hp : here (c :: t) with
      | false => simp [withReturns_cons hc, breakAt, hhere, hp, ih]
      | true => simp [withReturns_cons hc, breakAt, hhere, hp]

/-- The pieces around a mark on one line are found again. -/
theorem cut?_withReturns (hne : mark ≠ []) (hn : '\n' ∉ mark) (hr : '\r' ∉ mark) (t : Text) :
    cut? mark (withReturns t) = (cut? mark t).map (Prod.map withReturns withReturns) := by
  have hfeed (u : Text) : startsWith ('\n' :: u) mark = false := by
    obtain ⟨m, mark, rfl⟩ := List.exists_cons_of_ne_nil hne
    have hm : (m == '\n') = false := beq_false_of_ne fun he => hn (by simp [he])
    simp [startsWith, List.isPrefixOf, hm]
  have hbreak := @breakAt_withReturns (startsWith · mark) (startsWith_withReturns hn hr) hfeed t
  have hholds := @breakAt_holds (startsWith · mark) t
  rw [cut?, cut?, hbreak]
  generalize breakAt (startsWith · mark) t = pieces at *
  obtain ⟨before, rest⟩ := pieces
  cases rest with
  | nil => rfl
  | cons c rest =>
    have hdrop := drop_withReturns hn (hholds (by simp))
    obtain ⟨d, tail, hd⟩ := List.exists_cons_of_ne_nil
      (mt withReturns_eq_nil_iff.1 (List.cons_ne_nil c rest))
    simp only [hd] at hdrop
    simp only [hd, hdrop, Option.map_some, Prod.map_apply]

end Marks

end Text

/-- The return before a line feed leaves no trace behind it. -/
theorem Position.advance_withReturns (p : Position) (t : Text) :
    p.advance t.withReturns = p.advance t := by
  induction t generalizing p with
  | nil => rfl
  | cons c t ih =>
    by_cases hc : c = '\n'
    · subst hc
      rw [Text.withReturns_lineEnd, advance_cons, advance_cons, advance_cons, ih]
      rfl
    · rw [Text.withReturns_cons hc, advance_cons, advance_cons, ih]

end Stencil
