import Stencil.Proofs.Text.Line
import Stencil.Proofs.Text.StringLiteral

/-!
# Brackets outside of literals

Code is well bracketed if each bracket outside of its string literals is closed by its own kind,
the innermost first. `outside` takes the literals out, and `brackets?` runs over what is left with
the brackets that are still to be closed.

Code is put together from pieces that are not well bracketed by themselves, such as a line that
opens a block, or a piece that ends inside of a literal. `Runs p a t q b` says what such a piece
does: it is read from the phase `p` with the brackets `a` to be closed, and it ends in the phase `q`
with the brackets `b`. It does the same inside of other brackets (`Runs.inside`), so pieces can be
put together (`Runs.append`). For a piece that is written out it can be decided.
-/

set_option autoImplicit false

namespace Stencil.Text

/-- The opening brackets and what closes them. -/
def bracketPairs : List (Char × Char) :=
  [('(', ')'), ('[', ']'), ('{', '}')]

/-- The bracket that closes the given one. -/
def closer? (c : Char) : Option Char :=
  bracketPairs.lookup c

/-- Whether the character closes a bracket. -/
def isCloser (c : Char) : Bool :=
  bracketPairs.any fun pair => c == pair.2

/-- The brackets to be closed behind a character, the innermost first. None if the character
closes another one than the innermost. -/
def bracket? (due : List Char) (c : Char) : Option (List Char) :=
  match closer? c with
  | some d => some (d :: due)
  | none =>
    if isCloser c then
      match due with
      | [] => none
      | d :: due => if d = c then some due else none
    else some due

/-- The brackets to be closed behind a text. -/
def brackets? (due : List Char) (t : Text) : Option (List Char) :=
  t.foldlM bracket? due

/-- Every bracket in the text is closed by its own kind, the innermost first. -/
def WellBracketed (t : Text) : Prop :=
  brackets? [] t = some []

instance (t : Text) : Decidable (WellBracketed t) :=
  inferInstanceAs (Decidable (brackets? [] t = some []))

/-- Where a reader of code stands. -/
inductive QuotePhase
  /-- Outside of string literals. -/
  | code
  /-- In a string literal. -/
  | literal
  /-- In a string literal behind a backslash. -/
  | escape
  deriving DecidableEq, Repr

/-- The phase behind a character. -/
def QuotePhase.next : QuotePhase → Char → QuotePhase
  | code, c => if c = '"' then literal else code
  | literal, c => if c = '"' then code else if c = '\\' then escape else literal
  | escape, _ => literal

/-- What stands outside of string literals, and the phase at the end. -/
def outside : QuotePhase → Text → Text × QuotePhase
  | p, [] => ([], p)
  | p, c :: t =>
    let r := outside (p.next c) t
    if p = .code ∧ c ≠ '"' then (c :: r.1, r.2) else r

/-- The code without its string literals; none if the last of them is not closed. -/
def withoutLiterals? (t : Text) : Option Text :=
  let r := outside .code t
  if r.2 = .code then some r.1 else none

/-! ## Pieces of code -/

/-- Reading the text from the phase `p` on, with the brackets `a` to be closed, leads to the phase
`q` with the brackets `b` to be closed. -/
def Runs (p : QuotePhase) (a : List Char) (t : Text) (q : QuotePhase) (b : List Char) : Prop :=
  (outside p t).2 = q ∧ brackets? a (outside p t).1 = some b

instance (p : QuotePhase) (a : List Char) (t : Text) (q : QuotePhase) (b : List Char) :
    Decidable (Runs p a t q b) :=
  inferInstanceAs (Decidable (_ ∧ _))

/-- The text closes each literal and each bracket that it opens, and no others. -/
def Balanced (t : Text) : Prop :=
  Runs .code [] t .code []

instance (t : Text) : Decidable (Balanced t) :=
  inferInstanceAs (Decidable (Runs _ _ _ _ _))

/-- What is outside of literals in two texts: the second one is read from where the first one
ended. -/
theorem outside_append (p : QuotePhase) (s t : Text) :
    outside p (s ++ t) =
      ((outside p s).1 ++ (outside (outside p s).2 t).1, (outside (outside p s).2 t).2) := by
  induction s generalizing p with
  | nil => rfl
  | cons c s ih =>
    rw [List.cons_append, outside, outside, ih]
    split
    · rfl
    · rfl

/-- A character does the same to the innermost brackets with others around them. -/
theorem bracket?_append {a b : List Char} {c : Char} (h : bracket? a c = some b)
    (due : List Char) : bracket? (a ++ due) c = some (b ++ due) := by
  -- Only the innermost bracket is looked at, so what is due below it stays as it is.
  unfold bracket? at h ⊢
  cases hopener : closer? c with
  | some d =>
    rw [hopener] at h
    cases h
    rfl
  | none =>
    rw [hopener] at h
    by_cases hcloser : isCloser c = true
    · cases a with
      | nil => simp [hcloser] at h
      | cons d a =>
        by_cases hd : d = c
        · simp_all
        · simp [hcloser, hd] at h
    · simp_all

/-- A text does the same to the innermost brackets with others around them. -/
theorem brackets?_append {a b : List Char} {t : Text} (h : brackets? a t = some b)
    (due : List Char) : brackets? (a ++ due) t = some (b ++ due) := by
  induction t generalizing a with
  | nil =>
    cases h
    rfl
  | cons c t ih =>
    rw [brackets?, List.foldlM_cons, Option.bind_eq_bind, Option.bind_eq_some_iff] at h
    obtain ⟨d, hd, ht⟩ := h
    rw [brackets?, List.foldlM_cons, bracket?_append hd due]
    exact ih ht

namespace Runs

variable {p q r : QuotePhase} {a b c : List Char} {s t : Text}

/-- Nothing read, nothing changed. -/
theorem nil : Runs p a [] p a :=
  ⟨rfl, rfl⟩

/-- Pieces that fit together run one after the other. -/
theorem append (hs : Runs p a s q b) (ht : Runs q b t r c) : Runs p a (s ++ t) r c := by
  obtain ⟨rfl, hb⟩ := hs
  obtain ⟨hr, hc⟩ := ht
  refine ⟨by rw [outside_append]; exact hr, ?_⟩
  rw [outside_append, brackets?, List.foldlM_append]
  change (brackets? a _).bind (fun b => brackets? b _) = some c
  rw [hb]
  exact hc

/-- A piece does the same with more brackets around it. -/
theorem inside (h : Runs p a t q b) (due : List Char) : Runs p (a ++ due) t q (b ++ due) :=
  ⟨h.1, brackets?_append h.2 due⟩

/-- Pieces that change nothing change nothing together. -/
theorem flatMap {ι : Type} {l : List ι} {f : ι → Text} (h : ∀ x ∈ l, Runs p a (f x) p a) :
    Runs p a (l.flatMap f) p a := by
  induction l with
  | nil => exact nil
  | cons x l ih =>
    have hx : Runs p a (f x) p a := h x (by simp)
    have hl : Runs p a (l.flatMap f) p a := ih fun y hy => h y (by simp [hy])
    rw [List.flatMap_cons]
    exact hx.append hl

end Runs

/-- Balanced code changes nothing inside of brackets. -/
theorem Balanced.runs {t : Text} (h : Balanced t) (a : List Char) : Runs .code a t .code a :=
  h.inside a

/-- What is to be closed stays the same over a balanced text. -/
theorem Runs.keep {p : QuotePhase} {a b : List Char} {s t : Text} (hs : Runs p a s .code b)
    (ht : Balanced t) : Runs p a (s ++ t) .code b :=
  hs.append (ht.runs b)

/-- Balanced code between a piece that opens and one that closes makes balanced code. -/
theorem Balanced.between {s t u : Text} {a : List Char} (ht : Balanced t)
    (hs : Runs .code [] s .code a) (hu : Runs .code a u .code []) : Balanced (s ++ t ++ u) :=
  (hs.keep ht).append hu

/-- Balanced code behind balanced code is balanced. -/
theorem Balanced.append {s t : Text} (hs : Balanced s) (ht : Balanced t) : Balanced (s ++ t) :=
  Runs.append hs ht

/-- Balanced code closes its literals, and without them it is well bracketed. -/
theorem Balanced.wellBracketed {t : Text} (h : Balanced t) :
    ∃ code, withoutLiterals? t = some code ∧ WellBracketed code :=
  ⟨(outside .code t).1, by rw [withoutLiterals?, h.1]; rfl, h.2⟩

/-! ## Balanced texts -/

/-- Without quotes, nothing is in a literal. -/
theorem outside_of_not_mem {t : Text} (h : '"' ∉ t) : outside .code t = (t, .code) := by
  induction t with
  | nil => rfl
  | cons c t ih =>
    have hc : c ≠ '"' := fun he => h (by simp [he])
    have ht : '"' ∉ t := fun hm => h (by simp [hm])
    simp [outside, QuotePhase.next, hc, ih ht]

/-- Without quotes, what is well bracketed is balanced. -/
theorem balanced_of_not_mem {t : Text} (h : '"' ∉ t) (ht : WellBracketed t) : Balanced t := by
  rw [Balanced, Runs, outside_of_not_mem h]
  exact ⟨rfl, ht⟩

/-- The characters that count: brackets and the quote. -/
def marks : List Char :=
  ['(', ')', '[', ']', '{', '}', '"']

/-- A text without brackets and quotes is balanced. -/
theorem balanced_of_plain {t : Text} (h : ∀ c ∈ t, c ∉ marks) : Balanced t := by
  have hquote : '"' ∉ t := fun hm => h _ hm (by decide)
  refine balanced_of_not_mem hquote ?_
  induction t with
  | nil => rfl
  | cons c t ih =>
    have hc : c ∉ marks := h c (by simp)
    have hstep : bracket? [] c = some [] := by
      simp only [marks, List.mem_cons, List.not_mem_nil, or_false, not_or] at hc
      have hcloser : isCloser c = false := by
        simp [isCloser, bracketPairs, hc]
      have hopener : closer? c = none := by
        simp [closer?, bracketPairs, List.lookup_cons, beq_false_of_ne, hc]
      rw [bracket?, hopener, hcloser]
      rfl
    have ht : WellBracketed t :=
      ih (fun d hd => h d (by simp [hd])) (fun hm => hquote (by simp [hm]))
    rw [WellBracketed, brackets?, List.foldlM_cons, hstep]
    exact ht

/-- A class of characters that none of the marks is in has no marks. -/
theorem not_mem_marks {f : Char → Bool} (hf : marks.any f = false) {c : Char}
    (h : f c = true) : c ∉ marks := by
  intro hc
  rw [List.any_eq_true.2 ⟨c, hc, h⟩] at hf
  exact Bool.noConfusion hf

/-- A number is balanced. -/
theorem balanced_ofNat (n : Nat) : Balanced (ofNat n) :=
  balanced_of_plain fun _ hc => not_mem_marks (by decide) (isDigit_of_mem_ofNat hc)

/-- The contents of a literal stay in the literal. -/
theorem runs_of_isEnclosed {t : Text} (h : isEnclosed t = true) (a : List Char) :
    Runs .literal a t .literal a := by
  -- A backslash and the character behind it are passed over together, as in `isEnclosed`.
  suffices houtside : outside .literal t = ([], .literal) by
    rw [Runs, houtside]
    exact ⟨rfl, rfl⟩
  fun_induction isEnclosed t with
  | case1 => rfl
  | case2 c t ih => simpa [outside, QuotePhase.next] using ih h
  | case3 c t hne ih =>
    simp only [Bool.and_eq_true, bne_iff_ne] at h
    simpa [outside, QuotePhase.next, h.1.1, h.1.2] using ih h.2

/-- A string literal is balanced, whatever it holds. -/
theorem balanced_literal (t : Text) : Balanced (literal t) :=
  ((by decide : Runs .code [] "\"".toList .literal []).append
    (runs_of_isEnclosed (isEnclosed_escaped t) [])).append (by decide)

end Stencil.Text
