import Stencil.Proofs.Render.Delivery

/-!
# Escaping for HTML

What is written for a displayed value in HTML is the value with an entity for each of five
characters. Nothing of what a browser would take for markup is left, the value can be read back,
and each part of the value is written on its own, whatever stands around it.

The pieces that are written are those of a walk over the bytes of the value (`walkBytes`), which
cuts the value at byte offsets. It cannot cut through a character: all bytes of a character
of more than one byte are beyond the bytes that have entities (`entity?_ofUInt8_of_mem`).
-/

set_option autoImplicit false

namespace Stencil.Render

/-- The characters that are not written as they are, with their entities. -/
def entities : List (Char × Text) :=
  [('>', "&gt;".toList), ('<', "&lt;".toList), ('&', "&amp;".toList), ('\'', "&#39;".toList),
    ('"', "&quot;".toList)]

/-- The characters with an entity are those of the table. -/
theorem entity?_eq_some_iff {c : Char} {e : Text} : entity? c = some e ↔ (c, e) ∈ entities := by
  constructor
  · intro h
    unfold entity? at h
    split at h
    all_goals cases h
    all_goals decide
  · intro h
    have hall : ∀ entry ∈ entities, entity? entry.1 = some entry.2 := by decide
    exact hall (c, e) h

/-- A character with an entity is written as the entity. -/
theorem entity_of_some {c : Char} {e : Text} (h : entity? c = some e) : entity c = e := by
  rw [entity, h, Option.getD_some]

/-- A character without one is written as it is. -/
theorem entity_of_none {c : Char} (h : entity? c = none) : entity c = [c] := by
  rw [entity, h, Option.getD_none]

/-- Replaces the entities of a text, from left to right, by what they stand for. -/
def decodeEntities : Text → Text
  | '&' :: 'g' :: 't' :: ';' :: t => '>' :: decodeEntities t
  | '&' :: 'l' :: 't' :: ';' :: t => '<' :: decodeEntities t
  | '&' :: 'a' :: 'm' :: 'p' :: ';' :: t => '&' :: decodeEntities t
  | '&' :: '#' :: '3' :: '9' :: ';' :: t => '\'' :: decodeEntities t
  | '&' :: 'q' :: 'u' :: 'o' :: 't' :: ';' :: t => '"' :: decodeEntities t
  | c :: t => c :: decodeEntities t
  | [] => []

/-- An entity is decoded to its character. -/
theorem decodeEntities_entity {c : Char} {e : Text} (h : (c, e) ∈ entities) (t : Text) :
    decodeEntities (e ++ t) = c :: decodeEntities t := by
  simp only [entities, List.mem_cons, Prod.mk.injEq, List.not_mem_nil, or_false] at h
  rcases h with ⟨rfl, rfl⟩ | ⟨rfl, rfl⟩ | ⟨rfl, rfl⟩ | ⟨rfl, rfl⟩ | ⟨rfl, rfl⟩
  all_goals rfl

/-- A character that starts no entity is decoded to itself. -/
theorem decodeEntities_cons {c : Char} (h : c ≠ '&') (t : Text) :
    decodeEntities (c :: t) = c :: decodeEntities t := by
  rw [decodeEntities]
  all_goals
    intro rest hc
    exact absurd hc h

/-- A character that is written as it is starts no entity. -/
theorem ne_ampersand {c : Char} (h : entity? c = none) : c ≠ '&' := by
  rintro rfl
  cases h

/-- Decoding gives back what was escaped. -/
theorem decodeEntities_escaped (s : Text) : decodeEntities (s.flatMap entity) = s := by
  induction s with
  | nil => rfl
  | cons c s ih =>
    rw [List.flatMap_cons]
    cases he : entity? c with
    | some e => rw [entity_of_some he, decodeEntities_entity (entity?_eq_some_iff.1 he), ih]
    | none =>
      rw [entity_of_none he, List.singleton_append, decodeEntities_cons (ne_ampersand he), ih]

/-- Nothing is left that could open or close a tag or the value of an attribute. -/
theorem not_markup_of_mem {s : Text} {c : Char} (h : c ∈ s.flatMap entity) :
    c ≠ '<' ∧ c ≠ '>' ∧ c ≠ '\'' ∧ c ≠ '"' := by
  obtain ⟨d, -, hc⟩ := List.mem_flatMap.1 h
  cases he : entity? d with
  | some e =>
    rw [entity_of_some he] at hc
    have hall : ∀ entry ∈ entities,
        entry.2.all fun c => c ≠ '<' ∧ c ≠ '>' ∧ c ≠ '\'' ∧ c ≠ '"' := by
      decide
    have hfree := List.all_eq_true.1 (hall (d, e) (entity?_eq_some_iff.1 he)) c hc
    simpa using hfree
  | none =>
    rw [entity_of_none he, List.mem_singleton] at hc
    subst hc
    refine ⟨?_, ?_, ?_, ?_⟩
    all_goals
      rintro rfl
      cases he

/-- An `&` in an entity is its first character. -/
theorem eq_nil_of_entity {c : Char} {x w : Text} (h : (c, x ++ '&' :: w) ∈ entities) : x = [] := by
  have hall : ∀ entry ∈ entities, entry.2.tail.all (· ≠ '&') := by decide
  have hfree := hall _ h
  cases x with
  | nil => rfl
  | cons d x =>
    rw [List.cons_append, List.tail_cons, List.all_append, List.all_cons] at hfree
    simp at hfree

/-- Every `&` in what is written starts an entity. -/
theorem entity_of_ampersand {s x y : Text} (h : s.flatMap entity = x ++ '&' :: y) :
    ∃ entry ∈ entities, entry.2 <+: '&' :: y := by
  induction s generalizing x with
  | nil => simp at h
  | cons c s ih =>
    rw [List.flatMap_cons] at h
    rcases List.append_eq_append_iff.1 h with ⟨w, -, hrest⟩ | ⟨w, hc, hrest⟩
    · exact ih hrest
    · cases w with
      | nil => exact @ih [] hrest.symm
      | cons d w =>
        obtain ⟨rfl, -⟩ := List.cons.inj hrest
        cases he : entity? c with
        | some e =>
          rw [entity_of_some he] at hc
          subst hc
          have hmem := entity?_eq_some_iff.1 he
          obtain rfl := eq_nil_of_entity hmem
          exact ⟨_, hmem, by rw [hrest]; exact List.prefix_append _ _⟩
        | none =>
          have hamp : '&' ∈ entity c := by
            rw [hc]
            simp
          rw [entity_of_none he, List.mem_singleton] at hamp
          exact absurd hamp.symm (ne_ampersand he)

/-! ## The walk over the bytes -/

/-- Walks over the bytes of the text `s`, of which byte `i` comes next. What stands between the
byte `last` and a byte that has an entity is cut out of `s` and written in front of the entity.
There is no result if a cut is not between two characters. -/
def walkBytes (s : Text) (last i : Nat) : List UInt8 → Option (List Text)
  | [] => if last < s.byteLength then (s.slice? last s.byteLength).map ([·]) else some []
  | b :: bs =>
    match entity? (.ofUInt8 b) with
    | none => walkBytes s last (i + 1) bs
    | some e =>
      match s.slice? last i, walkBytes s (i + 1) (i + 1) bs with
      | some piece, some pieces => some (piece :: e :: pieces)
      | _, _ => none

/-- A character that has an entity is a single byte, which tells it. -/
theorem utf8EncodeChar_of_entity {c : Char} {e : Text} (h : entity? c = some e) :
    ∃ b, String.utf8EncodeChar c = [b] ∧ Char.ofUInt8 b = c := by
  have hall : ∀ entry ∈ entities, String.utf8EncodeChar entry.1 = [entry.1.toUInt8] ∧
      Char.ofUInt8 entry.1.toUInt8 = entry.1 := by
    decide
  exact ⟨c.toUInt8, hall (c, e) (entity?_eq_some_iff.1 h)⟩

/-- No character beyond ASCII has an entity. -/
theorem entity?_of_large {c : Char} (h : 128 ≤ c.toNat) : entity? c = none := by
  cases he : entity? c with
  | none => rfl
  | some e =>
    have hall : ∀ entry ∈ entities, entry.1.toNat < 128 := by decide
    have hlt := hall (c, e) (entity?_eq_some_iff.1 he)
    exact absurd h (by simpa using hlt)

/-- The character of a byte has the code of the byte. -/
theorem toNat_ofUInt8 (b : UInt8) : (Char.ofUInt8 b).toNat = b.toNat :=
  UInt8.toNat_toUInt32 b

/-- Beyond ASCII all bytes of a character are large. -/
theorem le_of_mem_utf8EncodeChar {c : Char} (hc : 128 ≤ c.toNat) {b : UInt8}
    (hb : b ∈ String.utf8EncodeChar c) : 128 ≤ b.toNat := by
  have hlarge : ¬ c.val.toNat ≤ 127 := by
    show ¬ c.toNat ≤ 127
    omega
  have hbyte {n : Nat} (hlow : 128 ≤ n) (hhigh : n < 256) : 128 ≤ (UInt8.ofNat n).toNat := by
    rw [UInt8.toNat_ofNat']
    omega
  simp only [String.utf8EncodeChar, if_neg hlarge] at hb
  split at hb
  · simp only [List.mem_cons, List.not_mem_nil, or_false] at hb
    rcases hb with rfl | rfl
    all_goals apply hbyte <;> omega
  · split at hb
    · simp only [List.mem_cons, List.not_mem_nil, or_false] at hb
      rcases hb with rfl | rfl | rfl
      all_goals apply hbyte <;> omega
    · simp only [List.mem_cons, List.not_mem_nil, or_false] at hb
      rcases hb with rfl | rfl | rfl | rfl
      all_goals apply hbyte <;> omega

/-- No byte of a character without an entity is taken for a character that has one. -/
theorem entity?_ofUInt8_of_mem {c : Char} (h : entity? c = none) {b : UInt8}
    (hb : b ∈ String.utf8EncodeChar c) : entity? (.ofUInt8 b) = none := by
  by_cases hc : c.toNat < 128
  · have hsmall : c.val.toNat ≤ 127 := by
      show c.toNat ≤ 127
      omega
    simp only [String.utf8EncodeChar, if_pos hsmall, List.mem_singleton] at hb
    have hbc : Char.ofUInt8 b = c := by
      apply Char.toNat_inj.1
      rw [toNat_ofUInt8, hb, UInt8.toNat_ofNat']
      show c.toNat % 256 = c.toNat
      omega
    rw [hbc]
    exact h
  · apply entity?_of_large
    rw [toNat_ofUInt8]
    exact le_of_mem_utf8EncodeChar (by omega) hb

/-- Bytes without an entity are passed over. -/
theorem walkBytes_append (s : Text) (last i : Nat) {bs : List UInt8}
    (h : ∀ b ∈ bs, entity? (.ofUInt8 b) = none) (bs' : List UInt8) :
    walkBytes s last i (bs ++ bs') = walkBytes s last (i + bs.length) bs' := by
  induction bs generalizing i with
  | nil => rfl
  | cons b bs ih =>
    obtain ⟨hb, hbs⟩ := List.forall_mem_cons.1 h
    have hlength : i + (b :: bs).length = i + 1 + bs.length := by
      rw [List.length_cons]
      omega
    rw [hlength, ← ih (i + 1) hbs, List.cons_append, walkBytes, hb]

/-- The walk gives the pieces in which the text is written. -/
theorem walkBytes_eq (before unwritten t : Text) :
    walkBytes (before ++ unwritten.reverse ++ t) before.byteLength
        (before ++ unwritten.reverse).byteLength t.bytes =
      some (htmlPieces unwritten t) := by
  -- `before` is what has been written, and the walk stands behind `unwritten`.
  induction t generalizing before unwritten with
  | nil =>
    have hslice := Text.slice?_append before unwritten.reverse []
    rw [List.append_nil, ← Text.byteLength_append] at hslice
    rw [List.append_nil, Text.bytes, List.flatMap_nil, walkBytes, htmlPieces]
    by_cases hnil : unwritten = []
    · simp [hnil]
    · have hpos : 0 < Text.byteLength unwritten.reverse := Text.byteLength_pos (by simp [hnil])
      have hlt : before.byteLength < (before ++ unwritten.reverse).byteLength := by
        rw [Text.byteLength_append]
        omega
      rw [if_pos hlt, hslice]
      simp [hnil]
  | cons c t ih =>
    rw [Text.bytes_cons, htmlPieces]
    cases he : entity? c with
    | some e =>
      obtain ⟨b, hb, hc⟩ := utf8EncodeChar_of_entity he
      have hsize : c.utf8Size = 1 := by
        rw [← String.length_utf8EncodeChar, hb]
        rfl
      have hslice := Text.slice?_append before unwritten.reverse (c :: t)
      rw [← Text.byteLength_append] at hslice
      have hrest := ih (before ++ unwritten.reverse ++ [c]) []
      rw [List.reverse_nil, List.append_nil, List.append_assoc _ [c], List.singleton_append,
        Text.byteLength_append _ [c], Text.byteLength_cons, Text.byteLength_nil, hsize] at hrest
      rw [hb, List.singleton_append, walkBytes, hc, he]
      simp only [hslice, hrest]
    | none =>
      have hskip := walkBytes_append (before ++ unwritten.reverse ++ c :: t) before.byteLength
        (before ++ unwritten.reverse).byteLength (fun b hb => entity?_ofUInt8_of_mem he hb)
        (Text.bytes t)
      have hrest := ih before (c :: unwritten)
      rw [List.reverse_cons, ← List.append_assoc before, List.append_assoc _ [c],
        List.singleton_append, Text.byteLength_append _ [c], Text.byteLength_cons,
        Text.byteLength_nil, Nat.add_zero] at hrest
      rw [hskip, String.length_utf8EncodeChar, hrest]

/-! ## What is written -/

/-- Texts that are written one after another are handed over together. -/
theorem Action.delivers_writeAll (ts : List Text) (r : Registry) :
    (writeAll ts).Delivers r (Text.bytes ts.flatten) (.done ()) := by
  induction ts with
  | nil =>
    intro s
    exact (s.deliver_nil _).symm
  | cons t ts ih =>
    rw [List.flatten_cons, Text.bytes_append]
    exact Action.Delivers.andThen_done (fun s => s.write_eq_deliver t) ih

/-- Escaping for HTML is safe, loses nothing and works part by part. A sink without a limit takes
the text with every character that has an entity replaced by it, in the pieces of a walk over the
bytes that always cuts between characters. What is written holds no character that could be taken
for markup, every `&` in it starts an entity, decoding it gives back the text, and the text of two
parts is written as the one and then the other. -/
theorem html_escaping_decodes (s : Text) :
    let out := (Escaper.html s).text
    (∀ (r : Registry) (whenFull : SinkFailure) (taken : List UInt8),
        Action.writeEscaped .html s r { whenFull, taken } =
          (.done (), { whenFull, taken := taken ++ out.bytes })) ∧
      out = s.flatMap entity ∧
      walkBytes s 0 0 s.bytes = some (Escaper.html s).toList ∧
      (∀ c ∈ out, c ≠ '<' ∧ c ≠ '>' ∧ c ≠ '\'' ∧ c ≠ '"') ∧
      (∀ x y, out = x ++ '&' :: y → ∃ entry ∈ entities, entry.2 <+: '&' :: y) ∧
      decodeEntities out = s ∧
      ∀ behind, (Escaper.html (s ++ behind)).text = out ++ (Escaper.html behind).text := by
  intro out
  have hout : out = s.flatMap entity := Escaper.text_html s
  refine ⟨?_, hout, walkBytes_eq [] [] s, ?_, ?_, ?_, ?_⟩
  · intro r whenFull taken
    have hdelivers : Action.writeEscaped .html s r { whenFull, taken } =
        Sink.deliver { whenFull, taken } out.bytes (.done ()) :=
      Action.delivers_writeAll (Escaper.html s).toList r { whenFull, taken }
    rw [hdelivers]
    simp [Sink.deliver, Sink.room]
  · intro c hc
    rw [hout] at hc
    exact not_markup_of_mem hc
  · intro x y hxy
    rw [hout] at hxy
    exact entity_of_ampersand hxy
  · rw [hout]
    exact decodeEntities_escaped s
  · intro behind
    rw [hout, Escaper.text_html, Escaper.text_html, List.flatMap_append]

/-- An entity that stands in the text already, behind a character of two bytes, and a quote. -/
theorem escaped_entity_decodes :
    let s : Text := "é&lt;'"
    let out := (Escaper.html s).text
    out = "é&amp;lt;&#39;" ∧ (';' ∈ out ∧ ';' ≠ '"') ∧
      (out = "é&amp;lt;".toList ++ '&' :: "#39;".toList ∧
        ∃ entry ∈ entities, entry.2 <+: '&' :: "#39;".toList) ∧
      decodeEntities out = s := by
  intro s out
  have hout : out = "é&amp;lt;&#39;" := by decide +kernel
  have hlast : out = "é&amp;lt;".toList ++ '&' :: "#39;".toList := hout
  have hmem : ';' ∈ out := by simp [hout]
  obtain ⟨-, -, -, hmarkup, hamps, hdecode, -⟩ := html_escaping_decodes s
  exact ⟨hout, ⟨hmem, (hmarkup _ hmem).2.2.2⟩, ⟨hlast, hamps _ _ hlast⟩, hdecode⟩

end Stencil.Render
