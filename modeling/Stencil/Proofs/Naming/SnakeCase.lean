import Stencil.Naming
import Stencil.Text.Identifier

/-!
# Snake case

Snake case lowers the upper-case letters of a name, puts underscores between its words and replaces
what no identifier of generated code should hold. Two things are shown about it.

Whatever the name, the result holds word characters and characters beyond ASCII only
(`word_of_mem_snakeFrom`), and the result of an identifier is an identifier
(`isIdentifier_snakeCase`). The second rests on the tables: lowering leads from identifiers to
identifiers, run by run (`lowercaseRuns_keep`).

For names in ASCII all that happens is told by `Respelled`: every character is lowered, and in front
of some upper-case letters an underscore is put, but never next to another one.
-/

set_option autoImplicit false

namespace Stencil

namespace Text

/-! ## Lowering -/

/-- The code points that a run leads to. -/
def Table.LowercaseRun.target (r : Table.LowercaseRun) : CodeRange :=
  ((r.first + r.distance).toNat, (r.last + r.distance).toNat)

/-- Whether the run leads to a `k`, or beyond ASCII to characters that identifiers may start with. A
run that holds no character of an identifier may lead elsewhere beyond ASCII. -/
def Table.LowercaseRun.keeps (r : Table.LowercaseRun) : Bool :=
  (Nat.blt r.target.2 0xD800 || Nat.blt 0xDFFF r.target.1 && Nat.blt r.target.2 0x110000) &&
    (r.first == r.last && r.target.1 == 'k'.toNat ||
      Nat.ble 0x80 r.target.1 &&
        (Table.identifierStart.any (fun s => Nat.ble s.1 r.target.1 && Nat.ble r.target.2 s.2) ||
          apart [(r.first, r.last)] Table.identifierContinue))

/-- Every run of the table leads from identifiers to identifiers. -/
theorem lowercaseRuns_keep : Table.lowercaseRuns.all (·.keeps) = true := by
  decide +kernel

/-- No run of the table leads below zero. -/
theorem lowercaseRuns_forward : ∀ r ∈ Table.lowercaseRuns, 0 ≤ r.first + r.distance := by
  decide +kernel

/-- What a run makes of one of its characters. -/
theorem lower_of_run {c : Char} {r : Table.LowercaseRun} (hr : r ∈ Table.lowercaseRuns)
    (hfirst : r.first ≤ c.toNat) (hlast : c.toNat ≤ r.last) :
    let d := Char.ofNat (c.toNat + r.distance).toNat
    d = 'k' ∨ 0x80 ≤ d.toNat ∧
      (inRanges Table.identifierStart d = true ∨ inRanges Table.identifierContinue c = false) := by
  intro d
  have hkeeps := List.all_eq_true.1 lowercaseRuns_keep r hr
  have hforward := lowercaseRuns_forward r hr
  simp only [Table.LowercaseRun.keeps, Table.LowercaseRun.target, Bool.and_eq_true,
    Bool.or_eq_true, Nat.blt_eq, Nat.ble_eq, beq_iff_eq] at hkeeps
  obtain ⟨hscalar, hwhere⟩ := hkeeps
  have hvalid : (c.toNat + r.distance).toNat.isValidChar := by
    unfold Nat.isValidChar
    omega
  have hd : d.toNat = (c.toNat + r.distance).toNat := by
    change (Char.ofNat _).toNat = _
    rw [Char.ofNat, dif_pos hvalid]
    rfl
  rcases hwhere with ⟨hone, hk⟩ | ⟨hfar, hstart | hnone⟩
  · left
    have hdk : d.toNat = 'k'.toNat := by omega
    exact Char.toNat_inj.1 hdk
  · right
    obtain ⟨s, hs, hbetween⟩ := List.any_eq_true.1 hstart
    rw [Bool.and_eq_true, Nat.ble_eq, Nat.ble_eq] at hbetween
    refine ⟨by omega, Or.inl (inRanges_iff.2 ⟨s, hs, ?_, ?_⟩)⟩
    · omega
    · omega
  · right
    have hrun : inRanges [(r.first, r.last)] c = true :=
      inRanges_iff.2 ⟨(r.first, r.last), List.mem_singleton_self _, hfirst, hlast⟩
    exact ⟨by omega, Or.inr (not_inRanges_of_apart hnone hrun)⟩

/-- The ways in which a character is lowered. -/
theorem lower_cases (c : Char) :
    c.toNat < 0x80 ∧ lower c = [c.toLower] ∨
      ¬ c.toNat < 0x80 ∧
        (lower c = ['i', Char.ofNat 0x307] ∨ lower c = [c] ∨
          ∃ d, lower c = [d] ∧ (d = 'k' ∨ 0x80 ≤ d.toNat ∧
            (inRanges Table.identifierStart d = true ∨
              inRanges Table.identifierContinue c = false))) := by
  unfold lower
  split
  · next hascii => exact Or.inl ⟨hascii, rfl⟩
  · next hascii =>
    refine Or.inr ⟨hascii, ?_⟩
    split
    · exact Or.inl rfl
    · split
      · next run hrun =>
        have hholds : run.holds c.toNat = true :=
          List.find?_some (p := fun r : Table.LowercaseRun => r.holds c.toNat) hrun
        simp only [Table.LowercaseRun.holds, Bool.and_eq_true, decide_eq_true_eq] at hholds
        have hmem := List.mem_of_find?_eq_some hrun
        exact Or.inr (Or.inr ⟨_, rfl, lower_of_run hmem hholds.1.1 hholds.1.2⟩)
      · exact Or.inr (Or.inl rfl)

/-- An upper-case letter is lowered to letters of ASCII and characters beyond it. -/
theorem word_of_mem_lower {c : Char} (h : isUpper c = true) :
    ∀ d ∈ lower c, (d.isAlphanum || d == '_') = true ∨ 0x80 ≤ d.toNat := by
  intro d hd
  rcases lower_cases c with ⟨hascii, hlower⟩ | ⟨hascii, hlower | hlower | ⟨e, hlower, he⟩⟩
  · have hletter : ∀ n < 0x80, (Char.ofNat n).isUpper = true →
        ((Char.ofNat n).toLower.isAlphanum || (Char.ofNat n).toLower == '_') = true := by
      decide +kernel
    rw [isUpper, if_pos hascii] at h
    rw [hlower, List.mem_singleton] at hd
    rw [hd]
    exact Or.inl (ascii_induction
      (p := fun c => c.isUpper = true → (c.toLower.isAlphanum || c.toLower == '_') = true)
      hletter hascii h)
  · rw [hlower, List.mem_cons, List.mem_singleton] at hd
    rcases hd with rfl | rfl
    · exact Or.inl (by decide)
    · exact Or.inr (by decide)
  · rw [hlower, List.mem_singleton] at hd
    rw [hd]
    exact Or.inr (by omega)
  · rw [hlower, List.mem_singleton] at hd
    rw [hd]
    rcases he with rfl | ⟨hfar, -⟩
    · exact Or.inl (by decide)
    · exact Or.inr hfar

/-- Beyond ASCII, a character of the table may start an identifier. -/
theorem isStart_of_inRanges {d : Char} (hfar : 0x80 ≤ d.toNat)
    (h : inRanges Table.identifierStart d = true) : Alphabet.isStart d = true := by
  rwa [Alphabet.isStart_unicode, if_neg (by omega)]

/-- What may go on with an identifier may do so when it is lowered. -/
theorem isContinue_of_lower {c : Char} (h : Alphabet.isContinue c = true) :
    ∀ d ∈ lower c, Alphabet.isContinue d = true := by
  intro d hd
  rcases lower_cases c with ⟨hascii, hlower⟩ | ⟨hascii, hlower | hlower | ⟨e, hlower, he⟩⟩
  · have hlowered : ∀ n < 0x80, Alphabet.isContinue (Char.ofNat n) = true →
        Alphabet.isContinue (Char.ofNat n).toLower = true := by decide +kernel
    rw [hlower, List.mem_singleton] at hd
    rw [hd]
    exact ascii_induction
      (p := fun c => Alphabet.isContinue c = true → Alphabet.isContinue c.toLower = true)
      hlowered hascii h
  · rw [hlower, List.mem_cons, List.mem_singleton] at hd
    rcases hd with rfl | rfl
    · decide
    · decide +kernel
  · rw [hlower, List.mem_singleton] at hd
    rwa [hd]
  · rw [hlower, List.mem_singleton] at hd
    rw [hd]
    rcases he with rfl | ⟨hfar, hstart | hnone⟩
    · decide
    · exact Alphabet.isContinue_of_isStart (isStart_of_inRanges hfar hstart)
    · rw [Alphabet.isContinue_unicode, if_neg hascii, hnone] at h
      cases h

/-- What may start an identifier is lowered to an identifier. -/
theorem isIdentifier_lower {c : Char} (h : Alphabet.isStart c = true) :
    (lower c).isIdentifier = true := by
  rcases lower_cases c with ⟨hascii, hlower⟩ | ⟨hascii, hlower | hlower | ⟨e, hlower, he⟩⟩
  · have hlowered : ∀ n < 0x80, Alphabet.isStart (Char.ofNat n) = true →
        isIdentifier [(Char.ofNat n).toLower] = true := by decide +kernel
    rw [hlower]
    exact ascii_induction
      (p := fun c => Alphabet.isStart c = true → isIdentifier [c.toLower] = true)
      hlowered hascii h
  · rw [hlower]
    decide +kernel
  · rw [hlower, isIdentifier, h]
    rfl
  · rw [hlower]
    rcases he with rfl | ⟨hfar, hstart | hnone⟩
    · decide
    · rw [isIdentifier, isStart_of_inRanges hfar hstart]
      rfl
    · have hcontinue := Alphabet.isContinue_of_isStart h
      rw [Alphabet.isContinue_unicode, if_neg hascii, hnone] at hcontinue
      cases hcontinue

/-! ## Doubled characters -/

/-- The pieces between pairs of the same character. -/
def splitDouble (d : Char) : Text → List Text
  | a :: b :: t =>
    if a = d ∧ b = d then [] :: splitDouble d t
    else (splitDouble d (b :: t)).modifyHead (a :: ·)
  | t => [t]

/-- At how many places the character stands twice in a row. -/
def doubles (d : Char) (t : Text) : Nat :=
  (t.zip t.tail).count (d, d)

/-- A character that is not the doubled one is added to the first piece. -/
theorem splitDouble_cons_of_ne {d a : Char} (h : a ≠ d) (t : Text) :
    splitDouble d (a :: t) = (splitDouble d t).modifyHead (a :: ·) := by
  cases t with
  | nil => rfl
  | cons b t => rw [splitDouble, if_neg (fun hpair => h hpair.1)]

/-- A piece without the character ends at the first pair. -/
theorem splitDouble_append {d : Char} {piece : Text} (h : d ∉ piece) (t : Text) :
    splitDouble d (piece ++ d :: d :: t) = piece :: splitDouble d t := by
  induction piece with
  | nil => rw [List.nil_append, splitDouble, if_pos ⟨rfl, rfl⟩]
  | cons a piece ih =>
    rw [List.mem_cons, not_or] at h
    rw [List.cons_append, splitDouble_cons_of_ne (Ne.symm h.1), ih h.2]
    rfl

/-- A text without the character is one piece. -/
theorem splitDouble_of_not_mem {d : Char} {t : Text} (h : d ∉ t) : splitDouble d t = [t] := by
  induction t with
  | nil => rfl
  | cons a t ih =>
    rw [List.mem_cons, not_or] at h
    rw [splitDouble_cons_of_ne (Ne.symm h.1), ih h.2]
    rfl

/-- A character that is not the doubled one makes no further piece. -/
theorem length_splitDouble_cons {d a : Char} (h : a ≠ d) (t : Text) :
    (splitDouble d (a :: t)).length = (splitDouble d t).length := by
  rw [splitDouble_cons_of_ne h, List.length_modifyHead]

/-- A character before one that does not double it makes no further piece. -/
theorem length_splitDouble_cons_cons {d b : Char} (h : b ≠ d) (a : Char) (t : Text) :
    (splitDouble d (a :: b :: t)).length = (splitDouble d (b :: t)).length := by
  rw [splitDouble, if_neg (fun hpair => h hpair.2), List.length_modifyHead]

/-- A character adds a place if it is followed by itself. -/
theorem doubles_cons (d a : Char) (t : Text) :
    doubles d (a :: t) = doubles d t + if a = d ∧ t.head? = some d then 1 else 0 := by
  cases t with
  | nil => simp [doubles]
  | cons b t => simp [doubles, List.count_cons]

end Text

/-! ## Names of any characters -/

open Text

/-- Whatever is put in snake case, the result holds letters, digits and underscores, and
characters beyond ASCII. -/
theorem word_of_mem_snakeFrom {previous? last? : Option Char} {t : Text} :
    ∀ d ∈ snakeFrom previous? last? t, (d.isAlphanum || d == '_') = true ∨ 0x80 ≤ d.toNat := by
  induction t generalizing previous? last? with
  | nil => exact fun d hd => nomatch hd
  | cons c t ih =>
    intro d hd
    unfold snakeFrom at hd
    split at hd
    · next hupper =>
      simp only [List.mem_append] at hd
      rcases hd with (hgap | hlower) | hrest
      · split at hgap
        · rw [List.mem_singleton.1 hgap]
          exact Or.inl rfl
        · cases hgap
      · exact word_of_mem_lower hupper d hlower
      · exact ih d hrest
    · split at hd
      · next hword =>
        rcases List.mem_cons.1 hd with rfl | hrest
        · by_cases hascii : d.toNat < 0x80
          · rw [isAlphanumeric, if_pos hascii] at hword
            exact Or.inl hword
          · exact Or.inr (by omega)
        · exact ih d hrest
      · rcases List.mem_cons.1 hd with rfl | hrest
        · exact Or.inl rfl
        · exact ih d hrest

/-- What goes on with an identifier does so in snake case. -/
theorem isContinue_of_mem_snakeFrom {t : Text}
    (h : ∀ c ∈ t, Alphabet.isContinue c = true) (previous? last? : Option Char) :
    ∀ d ∈ snakeFrom previous? last? t, Alphabet.isContinue d = true := by
  induction t generalizing previous? last? with
  | nil => exact fun d hd => nomatch hd
  | cons c t ih =>
    obtain ⟨hc, ht⟩ := List.forall_mem_cons.1 h
    intro d hd
    unfold snakeFrom at hd
    split at hd
    · simp only [List.mem_append] at hd
      rcases hd with (hgap | hlower) | hrest
      · split at hgap
        · exact List.mem_singleton.1 hgap ▸ rfl
        · cases hgap
      · exact isContinue_of_lower hc d hlower
      · exact ih ht _ _ d hrest
    · split at hd
      · rcases List.mem_cons.1 hd with rfl | hrest
        · exact hc
        · exact ih ht _ _ d hrest
      · rcases List.mem_cons.1 hd with rfl | hrest
        · rfl
        · exact ih ht _ _ d hrest

/-- An identifier may go on with any characters that may stand in one. -/
theorem isIdentifier_append [Alphabet] {s t : Text} (hs : s.isIdentifier = true)
    (ht : ∀ c ∈ t, Alphabet.isContinue c = true) : (s ++ t).isIdentifier = true := by
  cases s with
  | nil => cases hs
  | cons c s =>
    rw [isIdentifier, Bool.and_eq_true] at hs
    rw [List.cons_append, isIdentifier, List.all_append, hs.1, hs.2, List.all_eq_true.2 ht]
    rfl

/-- An identifier in snake case is an identifier. -/
theorem isIdentifier_snakeCase {t : Text} (h : t.isIdentifier = true) :
    (snakeCase t).isIdentifier = true := by
  cases t with
  | nil => cases h
  | cons c t =>
    rw [isIdentifier, Bool.and_eq_true, List.all_eq_true] at h
    have hrest := isContinue_of_mem_snakeFrom h.2
    unfold snakeCase snakeFrom
    split
    · -- Nothing stands before the first character, so no word ends there.
      exact isIdentifier_append (isIdentifier_lower h.1) (hrest _ _)
    · split
      · exact isIdentifier_append (s := [c]) (by rw [isIdentifier, h.1]; rfl) (hrest _ _)
      · exact isIdentifier_append (s := ['_']) rfl (hrest _ _)

/-! ## Names in ASCII -/

/-- A letter, a digit or an underscore of ASCII. -/
def IsWord (c : Char) : Prop :=
  c.toNat < 0x80 ∧ Alphabet.isContinue c = true

/-- Lowering a word character gives one that is not upper case, and an underscore only of one. -/
theorem IsWord.toLower {c : Char} (h : IsWord c) :
    IsWord c.toLower ∧ Text.isUpper c.toLower = false ∧ (c.toLower = '_' ↔ c = '_') := by
  have hword : ∀ n < 0x80, Alphabet.isContinue (Char.ofNat n) = true →
      ((Char.ofNat n).toLower.toNat < 0x80 ∧ Alphabet.isContinue (Char.ofNat n).toLower = true) ∧
        Text.isUpper (Char.ofNat n).toLower = false ∧
        ((Char.ofNat n).toLower = '_' ↔ Char.ofNat n = '_') := by
    decide +kernel
  exact ascii_induction (p := fun c => Alphabet.isContinue c = true →
    IsWord c.toLower ∧ Text.isUpper c.toLower = false ∧ (c.toLower = '_' ↔ c = '_')) hword h.1 h.2

/-- A word character is an upper-case letter, or it is its own lower case. -/
theorem IsWord.cases {c : Char} (h : IsWord c) :
    Text.isUpper c = true ∧ Text.lower c = [c.toLower] ∧ c ≠ '_' ∨
      Text.isUpper c = false ∧ c.toLower = c ∧ (isAlphanumeric c || c == '_') = true := by
  have hword : ∀ n < 0x80, Alphabet.isContinue (Char.ofNat n) = true →
      Text.isUpper (Char.ofNat n) = true ∧ Text.lower (Char.ofNat n) = [(Char.ofNat n).toLower] ∧
        Char.ofNat n ≠ '_' ∨
      Text.isUpper (Char.ofNat n) = false ∧ (Char.ofNat n).toLower = Char.ofNat n ∧
        (isAlphanumeric (Char.ofNat n) || Char.ofNat n == '_') = true := by
    decide +kernel
  exact ascii_induction (p := fun c => Alphabet.isContinue c = true →
    Text.isUpper c = true ∧ Text.lower c = [c.toLower] ∧ c ≠ '_' ∨
      Text.isUpper c = false ∧ c.toLower = c ∧ (isAlphanumeric c || c == '_') = true) hword h.1 h.2

/-- The second text is the first one with its letters lowered and with underscores put in, none of
them at the start or next to another one. What stands before the second text is told as well. -/
inductive Respelled : Option Char → Text → Text → Prop
  | nil (last? : Option Char) : Respelled last? [] []
  | keep {last? : Option Char} {c : Char} {t u : Text} (hc : IsWord c) :
    Respelled (some c.toLower) t u → Respelled last? (c :: t) (c.toLower :: u)
  | gap {last c : Char} {t u : Text} (hc : IsWord c) (hlast : last ≠ '_') (hne : c ≠ '_') :
    Respelled (some c.toLower) t u → Respelled (some last) (c :: t) ('_' :: c.toLower :: u)

/-- What snake case makes of a name in ASCII is a respelling of it. -/
theorem respelled_snakeFrom {t : Text} (h : ∀ c ∈ t, IsWord c) (previous? : Option Char) :
    Respelled (previous?.map Char.toLower) t
      (snakeFrom previous? (previous?.map Char.toLower) t) := by
  induction t generalizing previous? with
  | nil => exact .nil _
  | cons c t ih =>
    obtain ⟨hc, ht⟩ := List.forall_mem_cons.1 h
    have hrest := ih ht (some c)
    rcases hc.cases with ⟨hupper, hlower, hne⟩ | ⟨hupper, hsame, hword⟩
    · rw [snakeFrom, if_pos hupper, hlower]
      split
      · next hgap =>
        rw [Bool.and_eq_true, bne_iff_ne] at hgap
        obtain ⟨hstarts, hlast⟩ := hgap
        cases previous? with
        | none => cases hstarts
        | some p => exact .gap hc (fun hunderscore => hlast (congrArg some hunderscore)) hne hrest
      · exact .keep hc hrest
    · rw [snakeFrom, if_neg (by rw [hupper]; exact Bool.false_ne_true), if_pos hword]
      rw [Option.map_some, hsame] at hrest
      have hkeep : Respelled (previous?.map Char.toLower) (c :: t) (c.toLower :: _) :=
        .keep hc (hsame.symm ▸ hrest)
      rwa [hsame] at hkeep

namespace Respelled

/-- A respelling holds word characters alone, none of them upper case. -/
theorem mem {last? : Option Char} {t u : Text} (h : Respelled last? t u) :
    ∀ d ∈ u, IsWord d ∧ Text.isUpper d = false := by
  induction h with
  | nil => exact fun d hd => nomatch hd
  | keep hc _ ih => exact List.forall_mem_cons.2 ⟨⟨hc.toLower.1, hc.toLower.2.1⟩, ih⟩
  | gap hc _ _ _ ih =>
    have hunderscore : IsWord '_' ∧ Text.isUpper '_' = false := ⟨⟨by decide, by decide⟩, by decide⟩
    exact List.forall_mem_cons.2 ⟨hunderscore,
      List.forall_mem_cons.2 ⟨⟨hc.toLower.1, hc.toLower.2.1⟩, ih⟩⟩

/-- Without the underscores a respelling is the lowered text. -/
theorem filter {last? : Option Char} {t u : Text} (h : Respelled last? t u) :
    u.filter (· != '_') = (t.map Char.toLower).filter (· != '_') := by
  induction h with
  | nil => rfl
  | keep _ _ ih => rw [List.map_cons, List.filter_cons, List.filter_cons, ih]
  | gap _ _ _ _ ih =>
    rw [List.filter_cons_of_neg (by simp), List.map_cons, List.filter_cons, List.filter_cons, ih]

/-- Nothing is put in behind an underscore. -/
theorem head?_of_underscore {t u : Text} (h : Respelled (some '_') t u) :
    u.head? = some '_' ↔ t.head? = some '_' := by
  cases h with
  | nil => rfl
  | keep hc _ => simpa using hc.toLower.2.2
  | gap _ hlast _ _ => exact absurd rfl hlast

/-- Underscores that are put in stand alone, so there are as many pairs of them as before. -/
theorem doubles_eq {last? : Option Char} {t u : Text} (h : Respelled last? t u) :
    doubles '_' u = doubles '_' t := by
  induction h with
  | nil => rfl
  | @keep _ c t u hc hrest ih =>
    rw [doubles_cons, doubles_cons, ih]
    congr 1
    by_cases hunderscore : c = '_'
    · subst hunderscore
      have hhead := head?_of_underscore hrest
      simp only [hhead, show '_'.toLower = '_' from rfl]
    · rw [if_neg (fun hpair => hunderscore (hc.toLower.2.2.1 hpair.1)),
        if_neg (fun hpair => hunderscore hpair.1)]
  | @gap _ c t u hc _ hne _ ih =>
    have hne' : c.toLower ≠ '_' := fun heq => hne (hc.toLower.2.2.1 heq)
    rw [doubles_cons, doubles_cons, doubles_cons, ih, List.head?_cons, if_neg (by simp [hne']),
      if_neg (by simp [hne']), if_neg (by simp [hne])]

/-- The same for pairs that have no underscore in common. -/
theorem length_splitDouble_eq {last? : Option Char} {t u : Text} (h : Respelled last? t u) :
    (splitDouble '_' u).length = (splitDouble '_' t).length := by
  -- The induction is along the pairs of the first text: behind a pair it goes on with the rest.
  fun_induction splitDouble '_' t generalizing last? u with
  | case1 a b t hpair ih =>
    obtain ⟨rfl, rfl⟩ := hpair
    cases h with
    | gap _ _ hne _ => exact absurd rfl hne
    | keep _ hrest =>
      cases hrest with
      | gap _ hlast _ _ => exact absurd rfl hlast
      | keep _ hrest =>
        have hpieces := ih hrest
        exact congrArg Nat.succ hpieces
  | case2 a b t hpair ih =>
    rw [List.length_modifyHead]
    cases h with
    | gap hc _ hne hrest =>
      have hne' := mt hc.toLower.2.2.1 hne
      rw [length_splitDouble_cons_cons hne', length_splitDouble_cons hne', ih hrest]
    | keep hc hrest =>
      by_cases hunderscore : a = '_'
      · subst hunderscore
        have hpieces := ih hrest
        cases hrest with
        | gap _ hlast _ _ => exact absurd rfl hlast
        | keep hb _ =>
          have hne : b.toLower ≠ '_' := mt hb.toLower.2.2.1 fun hb' => hpair ⟨rfl, hb'⟩
          rw [length_splitDouble_cons_cons hne, hpieces]
      · rw [length_splitDouble_cons (mt hc.toLower.2.2.1 hunderscore), ih hrest]
  | case3 t hshort =>
    cases h with
    | nil => rfl
    | keep _ hrest =>
      cases hrest with
      | nil => rfl
      | keep => exact (hshort _ _ _ rfl).elim
      | gap => exact (hshort _ _ _ rfl).elim
    | gap hc _ hne hrest =>
      cases hrest with
      | nil => rw [length_splitDouble_cons_cons (mt hc.toLower.2.2.1 hne)]; rfl
      | keep => exact (hshort _ _ _ rfl).elim
      | gap => exact (hshort _ _ _ rfl).elim

end Respelled

/-- What has no upper case stays as it is. -/
theorem snakeFrom_eq_self {t : Text} (h : ∀ c ∈ t, IsWord c ∧ Text.isUpper c = false)
    (previous? last? : Option Char) : snakeFrom previous? last? t = t := by
  induction t generalizing previous? last? with
  | nil => rfl
  | cons c t ih =>
    obtain ⟨⟨hc, hlow⟩, ht⟩ := List.forall_mem_cons.1 h
    rcases hc.cases with ⟨hupper, -⟩ | ⟨-, -, hword⟩
    · rw [hlow] at hupper
      cases hupper
    · rw [snakeFrom, if_neg (by rw [hlow]; exact Bool.false_ne_true), if_pos hword, ih ht]

end Stencil
