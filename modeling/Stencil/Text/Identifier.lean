import Stencil.Text.Blank
import Stencil.Text.Table.IdentifierContinue
import Stencil.Text.Table.IdentifierStart

/-!
# Identifiers

An identifier starts with one of some characters and goes on with others, and template names are
identifiers with points between them. Which characters these are is told by an alphabet. By
default they are those of Unicode: an identifier starts with an underscore or a character of the
property `XID_Start` and goes on with characters of `XID_Continue`. The other alphabet is the part
of it that lies in ASCII.

An alphabet may have any characters beyond ASCII that are not blank. So every character of an
identifier may go on with one (`isContinue_of_mem`), and none of them is blank
(`not_isBlank_of_mem`), whatever the alphabet.
-/

set_option autoImplicit false

namespace Stencil

/-- The characters that identifiers are made of. -/
class Alphabet where
  /-- Whether an identifier may start with the character. -/
  isStart : Char → Bool
  /-- Whether an identifier may go on with the character. -/
  isContinue : Char → Bool
  /-- An identifier may go on with what it may start with. -/
  isContinue_of_isStart {c : Char} : isStart c = true → isContinue c = true
  /-- In ASCII an identifier goes on with letters, digits and underscores. -/
  isContinue_of_ascii {c : Char} : c.toNat < 0x80 → isContinue c = (c.isAlphanum || c == '_')
  /-- No identifier goes on with a blank. -/
  not_isBlank {c : Char} : isContinue c = true → Text.isBlank c = false

namespace Text

/-- What holds of the first code points holds of every character of ASCII. -/
theorem ascii_induction {p : Char → Prop} (h : ∀ n < 0x80, p (Char.ofNat n)) {c : Char}
    (hc : c.toNat < 0x80) : p c := by
  have hascii := h c.toNat hc
  rwa [Char.ofNat_toNat] at hascii

/-- What starts an identifier in the tables may go on with it. -/
theorem identifierStart_within : within Table.identifierStart Table.identifierContinue = true := by
  decide +kernel

/-- The blank characters beyond ASCII. -/
def blankRanges : List CodeRange :=
  [(0x85, 0x85), (0xA0, 0xA0), (0x1680, 0x1680), (0x2000, 0x200A), (0x2028, 0x2029),
    (0x202F, 0x202F), (0x205F, 0x205F), (0x3000, 0x3000)]

/-- Beyond ASCII the blanks are those of the table. -/
theorem inRanges_of_isBlank {c : Char} (h : isBlank c = true) (hc : ¬ c.toNat < 0x80) :
    inRanges blankRanges c = true := by
  rw [inRanges_iff]
  simp only [isBlank, Bool.or_eq_true, Bool.and_eq_true, decide_eq_true_eq, beq_iff_eq] at h
  simp only [blankRanges, List.mem_cons, List.not_mem_nil, or_false, exists_eq_or_imp,
    exists_eq_left]
  omega

/-- No blank of the table is in an identifier. -/
theorem blankRanges_apart : apart blankRanges Table.identifierContinue = true := by
  decide +kernel

end Text

namespace Alphabet

open Text

/-- A letter or underscore is a letter, a digit or an underscore. -/
theorem alphanum_of_alpha {c : Char} (h : (c.isAlpha || c == '_') = true) :
    (c.isAlphanum || c == '_') = true := by
  rw [Char.isAlphanum]
  rw [Bool.or_eq_true] at h ⊢
  exact h.imp (fun ha => by rw [ha, Bool.true_or]) id

/-- No letter, digit or underscore of ASCII is a blank. -/
theorem not_isBlank_of_alphanum {c : Char} (hc : c.toNat < 0x80)
    (h : (c.isAlphanum || c == '_') = true) : isBlank c = false := by
  have hascii : ∀ n < 0x80, ((Char.ofNat n).isAlphanum || Char.ofNat n == '_') = true →
      isBlank (Char.ofNat n) = false := by decide +kernel
  exact ascii_induction (p := fun c => (c.isAlphanum || c == '_') = true → isBlank c = false)
    hascii hc h

/-- The letters, digits and the underscore that are tested for are in ASCII. -/
theorem toNat_of_alphanum {c : Char} (h : (c.isAlphanum || c == '_') = true) : c.toNat < 0x80 := by
  have hclasses : (c.isAlphanum || c == '_') = (decide (c.val ≥ 'A'.val ∧ c.val ≤ 'Z'.val) ||
      (decide (c.val ≥ 'a'.val) && decide (c.val ≤ 'z'.val)) ||
      (decide (c.val ≥ '0'.val) && decide (c.val ≤ '9'.val)) || c == '_') := rfl
  rw [hclasses] at h
  simp only [Bool.or_eq_true, Bool.and_eq_true, decide_eq_true_eq, beq_iff_eq,
    UInt32.le_iff_toNat_le] at h
  rcases h with ((⟨-, h⟩ | ⟨-, h⟩) | ⟨-, h⟩) | rfl
  · exact Nat.lt_of_le_of_lt h (by decide)
  · exact Nat.lt_of_le_of_lt h (by decide)
  · exact Nat.lt_of_le_of_lt h (by decide)
  · decide

/-- The characters of Unicode. -/
instance unicode : Alphabet where
  isStart c := if c.toNat < 0x80 then c.isAlpha || c == '_' else inRanges Table.identifierStart c
  isContinue c :=
    if c.toNat < 0x80 then c.isAlphanum || c == '_' else inRanges Table.identifierContinue c
  isContinue_of_isStart {c} h := by
    by_cases hascii : c.toNat < 0x80
    · rw [if_pos hascii] at h ⊢
      exact alphanum_of_alpha h
    · rw [if_neg hascii] at h ⊢
      exact inRanges_of_within identifierStart_within h
  isContinue_of_ascii hascii := if_pos hascii
  not_isBlank {c} h := by
    by_cases hc : c.toNat < 0x80
    · rw [if_pos hc] at h
      exact not_isBlank_of_alphanum hc h
    · rw [Bool.eq_false_iff]
      intro hblank
      have hnot := not_inRanges_of_apart blankRanges_apart (inRanges_of_isBlank hblank hc)
      rw [if_neg hc, hnot] at h
      cases h

/-- What starts an identifier in the Unicode alphabet: by rule in ASCII, by table beyond. -/
theorem isStart_unicode (c : Char) : isStart c =
    if c.toNat < 0x80 then c.isAlpha || c == '_' else inRanges Table.identifierStart c :=
  rfl

/-- What goes on with one in the Unicode alphabet: by rule in ASCII, by table beyond. -/
theorem isContinue_unicode (c : Char) : isContinue c =
    if c.toNat < 0x80 then c.isAlphanum || c == '_' else inRanges Table.identifierContinue c :=
  rfl

/-- The characters of ASCII. -/
@[reducible] def ascii : Alphabet where
  isStart c := c.isAlpha || c == '_'
  isContinue c := c.isAlphanum || c == '_'
  isContinue_of_isStart := alphanum_of_alpha
  isContinue_of_ascii _ := rfl
  not_isBlank h := not_isBlank_of_alphanum (toNat_of_alphanum h) h

end Alphabet

namespace Text

variable [Alphabet]

/-- Whether the text is an identifier. -/
def isIdentifier : Text → Bool
  | [] => false
  | c :: t => Alphabet.isStart c && t.all Alphabet.isContinue

/-- Whether the text is one or more identifiers with points between them. -/
def isDottedName (t : Text) : Bool :=
  (splitOn '.' t).all isIdentifier

/-- Every character of an identifier may go on with one. -/
theorem isContinue_of_mem {t : Text} (h : t.isIdentifier = true) :
    ∀ c ∈ t, Alphabet.isContinue c = true := by
  cases t with
  | nil => cases h
  | cons c t =>
    rw [isIdentifier, Bool.and_eq_true] at h
    exact List.forall_mem_cons.2 ⟨Alphabet.isContinue_of_isStart h.1, List.all_eq_true.1 h.2⟩

/-- No character of an identifier is blank. -/
theorem not_isBlank_of_mem {t : Text} (h : t.isIdentifier = true) : ∀ c ∈ t, isBlank c = false :=
  fun c hc => Alphabet.not_isBlank (isContinue_of_mem h c hc)

end Text

end Stencil
