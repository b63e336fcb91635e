import Stencil.Text.Quoted

/-!
# Reading string literals

What stands between the quotes of a string literal, and what it denotes in the generated code.
`readLiteral?` reads on from behind the opening quote. It knows the escapes of a single character
and those of a code point; a literal that uses another one is not read at all. `ReadsLiteral` says
the same as a grammar, with no more escapes than generated code needs: whatever the grammar reads,
`readLiteral?` reads alike, so the grammar reads a literal in one way only.

The contents that `Text.escaped` writes denote the text, and they have neither a control character
nor a quote of their own in them (`denotes_escaped`, `any_isControl_escaped`). So a literal that is
written this way can be told from what follows it (`escaped_reads_back`), and different texts are
written differently (`escaped_injective`).
-/

set_option autoImplicit false

namespace Stencil.Text

/-- The escapes of a single character: what stands behind the backslash and what it denotes. -/
def escapes : List (Char × Char) :=
  [('n', '\n'), ('r', '\r'), ('t', '\t'), ('0', '\x00'), ('\\', '\\'), ('"', '"'), ('\'', '\'')]

/-- The value of a hexadecimal digit. -/
def hexValue? (c : Char) : Option Nat :=
  if '0' ≤ c ∧ c ≤ '9' then some (c.toNat - '0'.toNat)
  else if 'a' ≤ c ∧ c ≤ 'f' then some (c.toNat - 'a'.toNat + 10)
  else if 'A' ≤ c ∧ c ≤ 'F' then some (c.toNat - 'A'.toNat + 10)
  else none

/-- The number that hexadecimal digits stand for, behind those of the given number. -/
def readHex? (n : Nat) : Text → Option Nat
  | [] => some n
  | c :: t =>
    match hexValue? c with
    | some digit => readHex? (16 * n + digit) t
    | none => none

/-- The character of a code point in one to six hexadecimal digits. -/
def readCodePoint? (digits : Text) : Option Char :=
  if digits.isEmpty || 6 < digits.length then none
  else (readHex? 0 digits).bind fun n => if n.isValidChar then some (Char.ofNat n) else none

/-- Where the reader of a string literal stands. -/
inductive LiteralPhase
  /-- Between two characters. -/
  | plain
  /-- Behind a backslash. -/
  | escape
  /-- Behind the `u` of a code point. -/
  | brace
  /-- Behind the opening brace of a code point and the given digits. -/
  | code (digits : Text)
  deriving DecidableEq, Repr

/-- What a literal denotes from the given place on, and what follows its closing quote. None if
the literal is not closed, uses an unknown escape or holds a carriage return as it is. -/
def readFrom? : LiteralPhase → Text → Option (Text × Text)
  | _, [] => none
  | .plain, c :: t =>
    if c = '"' then some ([], t)
    else if c = '\\' then readFrom? .escape t
    else if c = '\r' then none
    else (readFrom? .plain t).map fun r => (c :: r.1, r.2)
  | .escape, c :: t =>
    if c = 'u' then readFrom? .brace t
    else (escapes.lookup c).bind fun d => (readFrom? .plain t).map fun r => (d :: r.1, r.2)
  | .brace, c :: t => if c = '{' then readFrom? (.code []) t else none
  | .code digits, c :: t =>
    if c = '}' then
      (readCodePoint? digits).bind fun d => (readFrom? .plain t).map fun r => (d :: r.1, r.2)
    else readFrom? (.code (digits ++ [c])) t

/-- What a literal denotes whose opening quote has been read, and what follows it. -/
def readLiteral? (t : Text) : Option (Text × Text) :=
  readFrom? .plain t

/-- The spellings of a character inside of a literal. -/
inductive LiteralChar : Text → Char → Prop
  /-- The character itself. -/
  | plain {c : Char} (hquote : c ≠ '"') (hslash : c ≠ '\\') (hreturn : c ≠ '\r') : LiteralChar [c] c
  | backslash : LiteralChar ['\\', '\\'] '\\'
  | quote : LiteralChar ['\\', '"'] '"'
  | lineEnd : LiteralChar ['\\', 'n'] '\n'
  | carriageReturn : LiteralChar ['\\', 'r'] '\r'
  | tab : LiteralChar ['\\', 't'] '\t'
  /-- A code point in hexadecimal digits. -/
  | codePoint {digits : Text} {c : Char} (hdigits : readCodePoint? digits = some c) :
      LiteralChar ('\\' :: 'u' :: '{' :: (digits ++ ['}'])) c

/-- Reading the first text from behind an opening quote gives the second one, and stops behind the
closing quote, right before the third. -/
inductive ReadsLiteral : Text → Text → Text → Prop
  /-- A quote that is not part of a spelling closes the literal. -/
  | close {rest : Text} : ReadsLiteral ('"' :: rest) [] rest
  /-- Before it, spellings follow one another. -/
  | char {spelling s t rest : Text} {c : Char} (hc : LiteralChar spelling c)
      (hs : ReadsLiteral s t rest) : ReadsLiteral (spelling ++ s) (c :: t) rest

/-- Whether the text has no quote in it that would close a literal: each backslash takes the
character behind it with it. -/
def isEnclosed : Text → Bool
  | [] => true
  | '\\' :: _ :: t => isEnclosed t
  | c :: t => c != '"' && c != '\\' && isEnclosed t

/-- The contents of a literal, on one line, that denote a text. -/
structure Denotes (contents text : Text) : Prop where
  /-- The literal is closed by the first quote behind the contents. -/
  reads : ∀ rest, readLiteral? (contents ++ '"' :: rest) = some (text, rest)
  /-- There is no line end in the contents. -/
  oneLine : '\n' ∉ contents
  /-- There is no quote in the contents but behind a backslash. -/
  enclosed : isEnclosed contents = true

/-! ## Code points -/

/-- Digits are read one after another, each behind the number so far. -/
theorem readHex?_append (n : Nat) (s t : Text) :
    readHex? n (s ++ t) = (readHex? n s).bind fun m => readHex? m t := by
  induction s generalizing n with
  | nil => rfl
  | cons c s ih =>
    simp only [List.cons_append, readHex?]
    cases hexValue? c with
    | none => rfl
    | some digit => exact ih _

/-- The character of a digit has the value of the digit. -/
theorem hexValue?_digitChar : ∀ d < 16, hexValue? (Nat.digitChar d) = some d := by
  decide

/-- A number is read back from its digits. -/
theorem readHex?_toDigits (n : Nat) : readHex? 0 (Nat.toDigits 16 n) = some n := by
  induction n using Nat.base_induction 16 (by decide) with
  | single m hm =>
    rw [Nat.toDigits_of_lt_base hm]
    simp [readHex?, hexValue?_digitChar m hm]
  | digit m k hk hm ih =>
    rw [← Nat.toDigits_append_toDigits (by decide) hm hk, readHex?_append, ih,
      Nat.toDigits_of_lt_base hk]
    simp [readHex?, hexValue?_digitChar k hk]

/-- What is read as a number is digits alone. -/
theorem hexValue?_ne_none_of_mem {n m : Nat} {t : Text} (h : readHex? n t = some m) :
    ∀ c ∈ t, hexValue? c ≠ none := by
  induction t generalizing n with
  | nil => simp
  | cons d t ih =>
    intro c hc
    simp only [readHex?] at h
    cases hd : hexValue? d with
    | none => simp [hd] at h
    | some digit =>
      rw [hd] at h
      rcases List.mem_cons.1 hc with rfl | hc
      · simp [hd]
      · exact ih h c hc

/-- A character is read back from the digits of its code point. -/
theorem readCodePoint?_toDigits (c : Char) : readCodePoint? (Nat.toDigits 16 c.toNat) = some c := by
  have hvalid : c.toNat.isValidChar := c.valid
  have hlength : (Nat.toDigits 16 c.toNat).length ≤ 6 := by
    have hlt : c.toNat < 16 ^ 6 := by
      rcases hvalid with h | ⟨-, h⟩ <;> omega
    exact (Nat.length_toDigits_le_iff (by decide) (by decide)).2 hlt
  have hshort : ¬ 6 < (Nat.toDigits 16 c.toNat).length := by omega
  simp [readCodePoint?, Nat.toDigits_ne_nil, hshort, readHex?_toDigits, hvalid]

/-- In an escape of a code point everything up to the brace is its digits. -/
theorem readFrom?_code {digits more : Text} (h : '}' ∉ more) (rest : Text) :
    readFrom? (.code digits) (more ++ '}' :: rest) =
      (readCodePoint? (digits ++ more)).bind fun d =>
        (readFrom? .plain rest).map fun r => (d :: r.1, r.2) := by
  induction more generalizing digits with
  | nil => simp [readFrom?]
  | cons c more ih =>
    have hc : c ≠ '}' := fun he => h (by simp [he])
    have hmore : '}' ∉ more := fun hm => h (by simp [hm])
    rw [List.cons_append, readFrom?, if_neg hc, ih hmore, List.append_assoc,
      List.singleton_append]

/-! ## Spellings -/

/-- The digits of a code point close neither the code point nor the literal. -/
theorem not_mem_of_readCodePoint? {digits : Text} {c d : Char} (h : readCodePoint? digits = some c)
    (hd : hexValue? d = none) : d ∉ digits := by
  unfold readCodePoint? at h
  split at h
  · simp at h
  · obtain ⟨n, hn, -⟩ := Option.bind_eq_some_iff.1 h
    intro hmem
    exact hexValue?_ne_none_of_mem hn d hmem hd

/-- No other character is among the digits of a number. -/
theorem not_mem_toDigits {c : Char} (h : hexValue? c = none) (n : Nat) :
    c ∉ Nat.toDigits 16 n := by
  intro hmem
  exact hexValue?_ne_none_of_mem (readHex?_toDigits n) c hmem h

/-- A character that escapes nothing only must not be the quote. -/
theorem isEnclosed_cons {c : Char} (hslash : c ≠ '\\') (t : Text) :
    isEnclosed (c :: t) = (c != '"' && isEnclosed t) := by
  have hne : (c != '\\') = true := bne_iff_ne.2 hslash
  rw [isEnclosed.eq_3 c t fun _ _ hc _ => hslash hc, hne, Bool.and_true]

/-- What is enclosed ends outside of an escape, so that what follows it can be looked at alone. -/
theorem isEnclosed_append {s : Text} (hs : isEnclosed s = true) (t : Text) :
    isEnclosed (s ++ t) = isEnclosed t := by
  fun_induction isEnclosed s with
  | case1 => rfl
  | case2 c s ih => exact ih hs
  | case3 c s hescape ih =>
    simp only [Bool.and_eq_true, bne_iff_ne] at hs
    obtain ⟨⟨hquote, hslash⟩, hs⟩ := hs
    rw [List.cons_append, isEnclosed_cons hslash, ih hs]
    simp [hquote]

/-- A text without quotes and backslashes closes no literal. -/
theorem isEnclosed_of_not_mem {t : Text} (hquote : '"' ∉ t) (hslash : '\\' ∉ t) :
    isEnclosed t = true := by
  induction t with
  | nil => rfl
  | cons c t ih =>
    simp only [List.mem_cons, not_or] at hquote hslash
    rw [isEnclosed_cons (Ne.symm hslash.1), ih hquote.2 hslash.2]
    simpa using Ne.symm hquote.1

/-- No spelling of a character closes the literal. -/
theorem LiteralChar.enclosed {spelling : Text} {c : Char} (h : LiteralChar spelling c) :
    isEnclosed spelling = true := by
  cases h with
  | plain hquote hslash hreturn =>
    rw [isEnclosed_cons hslash]
    simpa [isEnclosed] using hquote
  | codePoint hdigits =>
    have hquote := not_mem_of_readCodePoint? (d := '"') hdigits (by decide)
    have hslash := not_mem_of_readCodePoint? (d := '\\') hdigits (by decide)
    rw [isEnclosed]
    exact isEnclosed_of_not_mem (by simp [hquote]) (by simp [hslash])
  | backslash | quote | lineEnd | carriageReturn | tab => rfl

/-- Every spelling of a character is read as the character. -/
theorem LiteralChar.read {spelling : Text} {c : Char} (h : LiteralChar spelling c) (t : Text) :
    readFrom? .plain (spelling ++ t) = (readFrom? .plain t).map fun r => (c :: r.1, r.2) := by
  cases h with
  | plain hquote hslash hreturn => simp [readFrom?, hquote, hslash, hreturn]
  | @codePoint digits _ hdigits =>
    have hbrace : '}' ∉ digits := not_mem_of_readCodePoint? hdigits (by decide)
    have hread := @readFrom?_code [] _ hbrace t
    rw [List.nil_append, hdigits, Option.bind_some] at hread
    simpa [readFrom?] using hread
  | backslash | quote | lineEnd | carriageReturn | tab => rfl

/-- What the grammar reads, the reader reads alike. -/
theorem ReadsLiteral.readLiteral? {s t rest : Text} (h : ReadsLiteral s t rest) :
    Text.readLiteral? s = some (t, rest) := by
  induction h with
  | close => rfl
  | char hc _ ih =>
    rw [Text.readLiteral?, hc.read]
    rw [Text.readLiteral?] at ih
    rw [ih]
    rfl

/-! ## Escaped texts -/

/-- The escape of a code point is its digits in braces. -/
theorem codePoint_eq (c : Char) :
    codePoint c = '\\' :: 'u' :: '{' :: (Nat.toDigits 16 c.toNat ++ ['}']) := by
  simp [codePoint]

/-- A character is escaped by one of its spellings. -/
theorem literalChar_escapedChar (c : Char) : LiteralChar (escapedChar c) c := by
  unfold escapedChar
  split
  · next h => exact h ▸ .backslash
  split
  · next h => exact h ▸ .quote
  split
  · next h => exact h ▸ .lineEnd
  split
  · next h => exact h ▸ .carriageReturn
  split
  · next h => exact h ▸ .tab
  split
  · exact codePoint_eq c ▸ .codePoint (readCodePoint?_toDigits c)
  · next hslash hquote _ hreturn _ _ => exact .plain hquote hslash hreturn

/-- An escaped text is read back from behind an opening quote, up to the closing one. -/
theorem readsLiteral_escaped (t rest : Text) :
    ReadsLiteral (escaped t ++ '"' :: rest) t rest := by
  induction t with
  | nil => exact .close
  | cons c t ih =>
    have hspelled : escaped (c :: t) ++ '"' :: rest =
        escapedChar c ++ (escaped t ++ '"' :: rest) := by
      simp [escaped]
    rw [hspelled]
    exact .char (literalChar_escapedChar c) ih

/-- An escaped text closes no literal. -/
theorem isEnclosed_escaped (t : Text) : isEnclosed (escaped t) = true := by
  induction t with
  | nil => rfl
  | cons c t ih =>
    rw [escaped, List.flatMap_cons, isEnclosed_append (literalChar_escapedChar c).enclosed]
    exact ih

/-- Control characters are no digits. -/
theorem hexValue?_of_isControl {c : Char} (h : isControl c = true) : hexValue? c = none := by
  have outside (a b : Char) (ha : 0x20 ≤ a.toNat) (hb : b.toNat < 0x7F) : ¬ (a ≤ c ∧ c ≤ b) := by
    rintro ⟨hac, hcb⟩
    have hac : a.toNat ≤ c.toNat := hac
    have hcb : c.toNat ≤ b.toNat := hcb
    simp only [isControl, Bool.or_eq_true, Bool.and_eq_true, decide_eq_true_eq] at h
    omega
  rw [hexValue?, if_neg (outside _ _ (by decide) (by decide)),
    if_neg (outside _ _ (by decide) (by decide)), if_neg (outside _ _ (by decide) (by decide))]

/-- An escaped character holds no control character. -/
theorem any_isControl_escapedChar (c : Char) : (escapedChar c).any isControl = false := by
  unfold escapedChar
  split
  · rfl
  split
  · rfl
  split
  · rfl
  split
  · rfl
  split
  · rfl
  split
  · have hdigits : (Nat.toDigits 16 c.toNat).any isControl = false := by
      rw [List.any_eq_false]
      intro d hd hcontrol
      exact not_mem_toDigits (hexValue?_of_isControl hcontrol) c.toNat hd
    rw [codePoint_eq]
    simp only [List.any_cons, List.any_append, hdigits, List.any_nil]
    decide
  · next hcontrol => simpa using hcontrol

/-- An escaped text holds no control character. -/
theorem any_isControl_escaped (t : Text) : (escaped t).any isControl = false := by
  rw [escaped, List.any_flatMap, List.any_eq_false]
  intro c _
  simp [any_isControl_escapedChar]

/-- An escaped text is on one line. -/
theorem lineEnd_not_mem_escaped (t : Text) : '\n' ∉ escaped t := by
  intro hmem
  have hany := any_isControl_escaped t
  rw [List.any_eq_false] at hany
  exact hany _ hmem (by decide)

/-- The contents that are written for a text denote it. -/
theorem denotes_escaped (t : Text) : Denotes (escaped t) t where
  reads rest := (readsLiteral_escaped t rest).readLiteral?
  oneLine := lineEnd_not_mem_escaped t
  enclosed := isEnclosed_escaped t

/-- Contents denote one text only. -/
theorem Denotes.unique {contents s t : Text} (hs : Denotes contents s) (ht : Denotes contents t) :
    s = t := by
  have h := (hs.reads []).symm.trans (ht.reads [])
  simpa using h

/-- Different texts are escaped differently. -/
theorem escaped_injective {s t : Text} (h : escaped s = escaped t) : s = t :=
  (denotes_escaped s).unique (h ▸ denotes_escaped t)

/-- The contents that are written for a text, with a closing quote and any text behind them, are
read back in one way: they give the text, and reading stops right before what follows the quote.
There is no control character in them, and no quote but behind a backslash. -/
theorem escaped_reads_back (t rest : Text) :
    (∀ u tail, ReadsLiteral (escaped t ++ '"' :: rest) u tail ↔ u = t ∧ tail = rest) ∧
      readLiteral? (escaped t ++ '"' :: rest) = some (t, rest) ∧
      (escaped t).any isControl = false ∧ isEnclosed (escaped t) = true := by
  have hreads := readsLiteral_escaped t rest
  refine ⟨?_, hreads.readLiteral?, any_isControl_escaped t, isEnclosed_escaped t⟩
  intro u tail
  constructor
  · intro hu
    have hsame := hu.readLiteral?.symm.trans hreads.readLiteral?
    simpa using hsame
  · rintro ⟨rfl, rfl⟩
    exact hreads

-- A code point in front of digits and a brace, and a text that looks like an escape itself.
example : escaped "\x01f\x7d\\n" = "\\u\x7b1\x7df\x7d\\\\n".toList := by decide

end Stencil.Text
