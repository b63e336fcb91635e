/-!
# Text

A text is the list of its characters. Sources, generated code and messages are all texts, so
that a statement about one of them is a statement about a list.

The operations here cut a text without looking at what its characters mean: at a byte offset of
its UTF-8 form, at a separator, or before the first place where something stands. Each of them
gives its pieces in order, and the pieces put together again are the text.
-/

set_option autoImplicit false

namespace Stencil

/-- A text, as its characters in order. -/
abbrev Text := List Char

/-- A quoted string stands for its characters. -/
instance : Coe String Text := ⟨String.toList⟩

namespace Text

/-- A number in decimal digits. -/
def ofNat (n : Nat) : Text :=
  Nat.toDigits 10 n

/-- The number of bytes of the text in UTF-8. -/
def byteLength (t : Text) : Nat :=
  t.foldr (fun c n => c.utf8Size + n) 0

/-- The text in UTF-8. -/
def bytes (t : Text) : List UInt8 :=
  t.flatMap String.utf8EncodeChar

/-- The empty text takes no bytes. -/
@[simp] theorem byteLength_nil : byteLength [] = 0 := rfl

/-- A character adds the bytes of its encoding. -/
@[simp] theorem byteLength_cons (c : Char) (t : Text) :
    byteLength (c :: t) = c.utf8Size + byteLength t := rfl

/-- The bytes of two texts add up. -/
@[simp] theorem byteLength_append (s t : Text) :
    byteLength (s ++ t) = byteLength s + byteLength t := by
  induction s with
  | nil => simp
  | cons c s ih => rw [List.cons_append, byteLength_cons, byteLength_cons, ih, Nat.add_assoc]

/-- Every character has bytes. -/
theorem byteLength_pos {t : Text} (h : t ≠ []) : 0 < t.byteLength := by
  cases t with
  | nil => exact absurd rfl h
  | cons c t =>
    have hc : 0 < c.utf8Size := c.utf8Size_pos
    rw [byteLength_cons]
    omega

/-- A character stands in front with its own encoding. -/
theorem bytes_cons (c : Char) (t : Text) : bytes (c :: t) = String.utf8EncodeChar c ++ bytes t :=
  List.flatMap_cons

/-- The encoding of two texts is that of the one followed by that of the other. -/
theorem bytes_append (s t : Text) : bytes (s ++ t) = bytes s ++ bytes t :=
  List.flatMap_append

/-- The pieces of the text before and after byte `n`; none if the text is shorter or byte `n`
lies inside a character. -/
def splitBytes? (n : Nat) : Text → Option (Text × Text)
  | [] => if n = 0 then some ([], []) else none
  | c :: t =>
    if n = 0 then some ([], c :: t)
    else if c.utf8Size ≤ n then
      match splitBytes? (n - c.utf8Size) t with
      | some (before, after) => some (c :: before, after)
      | none => none
    else none

/-- A text is cut again at the seam of two pieces. -/
theorem splitBytes?_append (before after : Text) :
    splitBytes? before.byteLength (before ++ after) = some (before, after) := by
  induction before with
  | nil => cases after <;> simp [splitBytes?]
  | cons c t ih =>
    have hc : 0 < c.utf8Size := c.utf8Size_pos
    have h0 : c.utf8Size ≠ 0 := by omega
    simp [splitBytes?, h0, ih]

/-- The text from byte `start` up to byte `stop`; none if the two are not offsets of characters
of the text, in this order. -/
def slice? (t : Text) (start stop : Nat) : Option Text :=
  if start ≤ stop then
    match splitBytes? start t with
    | some (_, after) => (splitBytes? (stop - start) after).map Prod.fst
    | none => none
  else none

/-- The middle one of three pieces is the slice between its ends. -/
theorem slice?_append (before piece after : Text) :
    slice? (before ++ piece ++ after) before.byteLength
      (before.byteLength + piece.byteLength) = some piece := by
  have hle : before.byteLength ≤ before.byteLength + piece.byteLength := Nat.le_add_right _ _
  have hlen : before.byteLength + piece.byteLength - before.byteLength = piece.byteLength := by
    omega
  rw [slice?, if_pos hle, List.append_assoc, splitBytes?_append]
  simp only [hlen, splitBytes?_append, Option.map_some]

/-- The pieces between the characters that satisfy `p`. -/
def splitWhere (p : Char → Bool) : Text → List Text
  | [] => [[]]
  | c :: t =>
    if p c then [] :: splitWhere p t
    else
      match splitWhere p t with
      | [] => [[c]]
      | piece :: pieces => (c :: piece) :: pieces

/-- The pieces between the separators. -/
def splitOn (separator : Char) (t : Text) : List Text :=
  splitWhere (· == separator) t

/-- The pieces between the separators, from the last one to the first. -/
def splitBack (separator : Char) (t : Text) : List Text :=
  (splitOn separator t.reverse).map List.reverse

/-- The pieces around the last separator, if there is one. -/
def cutLast? (separator : Char) : Text → Option (Text × Text)
  | [] => none
  | c :: t =>
    match cutLast? separator t with
    | some (before, after) => some (c :: before, after)
    | none => if c = separator then some ([], t) else none

/-- The pieces before and from the first place at which `here` holds of what follows; the second
piece is empty if there is no such place. -/
def breakAt (here : Text → Bool) : Text → Text × Text
  | [] => ([], [])
  | c :: t =>
    if here (c :: t) then ([], c :: t)
    else
      let pieces := breakAt here t
      (c :: pieces.1, pieces.2)

/-- Looking for a place loses nothing. -/
theorem breakAt_append (here : Text → Bool) (t : Text) :
    (breakAt here t).1 ++ (breakAt here t).2 = t := by
  induction t with
  | nil => rfl
  | cons c t ih =>
    simp only [breakAt]
    split
    · rfl
    · simp [ih]

/-- What follows the place that was found satisfies the condition. -/
theorem breakAt_holds {here : Text → Bool} {t : Text} (h : (breakAt here t).2 ≠ []) :
    here (breakAt here t).2 = true := by
  induction t with
  | nil => simp [breakAt] at h
  | cons c t ih =>
    simp only [breakAt] at h ⊢
    split
    · assumption
    · next hc =>
      rw [if_neg hc] at h
      exact ih h

/-- Whether the text starts with another. -/
def startsWith (t start : Text) : Bool :=
  start.isPrefixOf t

/-- A text starts with another exactly when that one and the rest make it up. -/
theorem startsWith_iff {t start : Text} :
    t.startsWith start = true ↔ start ++ t.drop start.length = t := by
  rw [startsWith, List.isPrefixOf_iff_prefix, List.prefix_iff_eq_append]

/-- The pieces around the first occurrence of `mark`, if there is one. -/
def cut? (mark t : Text) : Option (Text × Text) :=
  match breakAt (startsWith · mark) t with
  | (_, []) => none
  | (before, rest) => some (before, rest.drop mark.length)

/-- The mark and the pieces around it make up the text. -/
theorem append_of_cut? {mark t before after : Text} (h : cut? mark t = some (before, after)) :
    before ++ mark ++ after = t := by
  unfold cut? at h
  split at h
  · simp at h
  · next b r hne hb =>
    have hs : startsWith r mark = true := by
      have := @breakAt_holds (startsWith · mark) t (by rw [hb]; exact hne)
      rwa [hb] at this
    have ht : b ++ r = t := by
      have := breakAt_append (startsWith · mark) t
      rwa [hb] at this
    simp only [Option.some.injEq, Prod.mk.injEq] at h
    obtain ⟨rfl, rfl⟩ := h
    rw [List.append_assoc, startsWith_iff.1 hs, ht]

end Text

end Stencil
