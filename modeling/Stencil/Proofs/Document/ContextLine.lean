import Stencil.Proofs.Document.Declaration
import Stencil.Proofs.Token.Progress
import Stencil.Proofs.Token.Spelling
import Stencil.Proofs.Token.Verbatim

/-!
# Context variables and their defaults

A context variable is declared by its name, its type and, behind `=`, its default. Both the type and
the default are code that is not looked into, and a type may hold `=` as well. It does so between
angle brackets, so the first `=` outside of these is the one that ends the type.

`Text.openAngles` counts the angle brackets that are open behind a piece of a type, by the last
character of the piece. The search for the default carries this count along (`cutDefault?_append`).
That a line of a source is read as such a declaration is a matter of where it stands: a token has to
start there, and no block may be open.
-/

set_option autoImplicit false

namespace Stencil

/-! ## The end of a type -/

namespace Text

/-- How many angle brackets are open behind a text, which is given in reverse. A `>` directly behind
`-` closes none, and nothing is closed that is not open. -/
def openAnglesBack : Text → Nat
  | [] => 0
  | c :: before =>
    if c = '<' then openAnglesBack before + 1
    else if c = '>' ∧ before.head? ≠ some '-' then openAnglesBack before - 1
    else openAnglesBack before

/-- How many angle brackets are open behind a text. -/
def openAngles (t : Text) : Nat :=
  openAnglesBack t.reverse

/-- A type as it may be declared: a text on one line without blanks around it, that closes its angle
brackets and has every `=` inside of them. -/
structure IsType (t : Text) : Prop where
  nonempty : t ≠ []
  trimmed : t.Trimmed
  oneLine : '\n' ∉ t
  closed : t.openAngles = 0
  enclosed : ∀ n < t.length, t[n]? = some '=' → openAngles (t.take n) ≠ 0

/-- A default as it may be declared: any text on one line without blanks around it. -/
structure IsDefault (t : Text) : Prop where
  nonempty : t ≠ []
  trimmed : t.Trimmed
  oneLine : '\n' ∉ t

/-- The angles that are open behind a character follow from those before it. -/
theorem openAngles_snoc (t : Text) (c : Char) :
    openAngles (t ++ [c]) = angleDepth t.openAngles (t.getLast?.getD ' ') c := by
  have harrow : t.reverse.head? ≠ some '-' ↔ t.getLast?.getD ' ' ≠ '-' := by
    rw [List.head?_reverse]
    cases t.getLast? with
    | none => decide
    | some p => simp
  rw [openAngles, List.reverse_append, List.reverse_singleton, List.singleton_append,
    openAnglesBack, angleDepth]
  simp only [harrow, openAngles]

/-- The search passes over a piece in which every `=` is between angle brackets, where the brackets
that were opened in front of the piece count as well. -/
theorem cutDefault?_append {before piece : Text}
    (h : ∀ n < piece.length, piece[n]? = some '=' → openAngles (before ++ piece.take n) ≠ 0)
    (rest : Text) :
    cutDefault? before.openAngles (before.getLast?.getD ' ') (piece ++ rest) =
      (cutDefault? (openAngles (before ++ piece)) ((before ++ piece).getLast?.getD ' ') rest).map
        fun cut => (piece ++ cut.1, cut.2) := by
  induction piece generalizing before with
  | nil => simp
  | cons c piece ih =>
    have hstay : ¬ (c = '=' ∧ before.openAngles = 0) := by
      rintro ⟨rfl, hzero⟩
      refine h 0 (by simp) rfl ?_
      simpa using hzero
    have hpiece : ∀ n < piece.length, piece[n]? = some '=' →
        openAngles (before ++ [c] ++ piece.take n) ≠ 0 := by
      intro n hn hc
      have hlater := h (n + 1) (by simpa using hn) (by simpa using hc)
      simpa using hlater
    have hlast : (before ++ [c]).getLast?.getD ' ' = c := by simp
    have hstep := ih hpiece
    rw [openAngles_snoc, hlast, List.append_assoc, List.singleton_append] at hstep
    rw [List.cons_append, cutDefault?, if_neg hstay, hstep]
    cases cutDefault? (openAngles (before ++ c :: piece))
      ((before ++ c :: piece).getLast?.getD ' ') rest with
    | none => rfl
    | some cut => rfl

/-- A text without blanks around it stays so whatever is put between it and another one. -/
theorem Trimmed.between {s t : Text} (hs : s.Trimmed) (hsne : s ≠ []) (ht : t.Trimmed)
    (htne : t ≠ []) (gap : Text) : Trimmed (s ++ gap ++ t) := by
  rw [trimmed_iff]
  constructor
  · obtain ⟨c, s, rfl⟩ := List.exists_cons_of_ne_nil hsne
    have hfirst := List.dropWhile_eq_self_iff.1 (trimmed_iff.1 hs).1 (by simp)
    exact List.dropWhile_eq_self_iff.2 fun _ => hfirst
  · have hlast := List.rdropWhile_eq_self_iff.1 (trimmed_iff.1 ht).2 htne
    refine List.rdropWhile_eq_self_iff.2 fun hne => ?_
    rwa [List.getLast_append_of_ne_nil hne htne]

/-- The type and the default behind a name. -/
def typeAndDefault (type : Text) (default? : Option Text) : Text :=
  type ++ default?.elim [] fun value => " = ".toList ++ value

variable {type : Text} {default? : Option Text}

/-- A type and its default are told apart again. -/
theorem splitDefault_typeAndDefault (htype : type.IsType)
    (hdefault : ∀ value ∈ default?, value.IsDefault) :
    splitDefault (typeAndDefault type default?) = (type, default?) := by
  have hcut (rest : Text) : cutDefault? 0 ' ' (type ++ rest) =
      (cutDefault? 0 (type.getLast?.getD ' ') rest).map fun cut => (type ++ cut.1, cut.2) := by
    have happend := @cutDefault?_append [] type htype.enclosed rest
    rwa [List.nil_append, htype.closed] at happend
  have htrim : trim (type ++ [' ']) = type := by
    have hblank : isBlank ' ' = true := by decide
    have hbetween := trim_between_blanks htype.trimmed
    rwa [trim, trimStart, List.dropWhile_cons_of_pos hblank] at hbetween
  cases default? with
  | none =>
    have hnone : cutDefault? 0 ' ' (typeAndDefault type none) = none := hcut []
    rw [splitDefault, hnone, typeAndDefault, Option.elim_none, List.append_nil, htype.trimmed]
  | some value =>
    have hsome : cutDefault? 0 ' ' (typeAndDefault type (some value)) =
        some (type ++ [' '], ' ' :: value) := hcut (" = " ++ value)
    rw [splitDefault, hsome]
    simp only [htrim, trim_blank_cons (hdefault value rfl).trimmed]

/-- A type and its default have no blanks around them. -/
theorem trimmed_typeAndDefault (htype : type.IsType)
    (hdefault : ∀ value ∈ default?, value.IsDefault) : (typeAndDefault type default?).Trimmed := by
  cases default? with
  | none =>
    rw [typeAndDefault, Option.elim_none, List.append_nil]
    exact htype.trimmed
  | some value =>
    have hvalue := hdefault value rfl
    rw [typeAndDefault, Option.elim_some, ← List.append_assoc]
    exact htype.trimmed.between htype.nonempty hvalue.trimmed hvalue.nonempty " = "

/-- A type and its default are on one line. -/
theorem lineEnd_not_mem_typeAndDefault (htype : type.IsType)
    (hdefault : ∀ value ∈ default?, value.IsDefault) : '\n' ∉ typeAndDefault type default? := by
  cases default? with
  | none => simpa [typeAndDefault] using htype.oneLine
  | some value => simpa [typeAndDefault] using ⟨htype.oneLine, (hdefault value rfl).oneLine⟩

end Text

/-! ## The line of a declaration -/

/-- The payload of a declaration. -/
def contextPayload (name type : Text) (default? : Option Text) : Text :=
  name ++ " ".toList ++ Text.typeAndDefault type default?

/-- The line of a declaration. -/
def contextLine (name type : Text) (default? : Option Text) : Text :=
  "@context " ++ contextPayload name type default?

section Line

variable {name type : Text} {default? : Option Text}

/-- The payload of a context line has no blanks around it. -/
theorem trimmed_contextPayload [Alphabet] (hname : name.isIdentifier = true) (htype : type.IsType)
    (hdefault : ∀ value ∈ default?, value.IsDefault) :
    (contextPayload name type default?).Trimmed := by
  have hblank := Text.not_isBlank_of_mem hname
  have hne : name ≠ [] := by
    rintro rfl
    cases hname
  have htrimmed : name.Trimmed := by
    rw [Text.trimmed_iff]
    refine ⟨List.dropWhile_eq_self_iff.2 fun hl => ?_, List.rdropWhile_eq_self_iff.2 fun hl => ?_⟩
    · rw [hblank _ (List.getElem_mem hl)]
      exact Bool.false_ne_true
    · rw [hblank _ (List.getLast_mem hl)]
      exact Bool.false_ne_true
  refine htrimmed.between hne (Text.trimmed_typeAndDefault htype hdefault) ?_ " "
  intro hnil
  exact htype.nonempty (List.append_eq_nil_iff.1 hnil).1

/-- The payload of a context line is read as the variable that it was written for. -/
theorem read_contextPayload [Alphabet] (hname : name.isIdentifier = true) (htype : type.IsType)
    (hdefault : ∀ value ∈ default?, value.IsDefault) (line : Nat) :
    ContextVariable.read line (contextPayload name type default?) =
      .ok ⟨name, type, default?, line⟩ := by
  rw [read_context_iff (trimmed_contextPayload hname htype hdefault)]
  refine ⟨⟨Text.typeAndDefault type default?, ⟨" ".toList, rfl, Text.not_isBlank_of_mem hname, ?_,
    ?_, ?_, Text.trimmed_typeAndDefault htype hdefault⟩,
    Text.splitDefault_typeAndDefault htype hdefault⟩, hname, htype.nonempty, ?_, rfl⟩
  · decide
  · exact List.forall_mem_singleton.2 rfl
  · intro hnil
    exact htype.nonempty (List.append_eq_nil_iff.1 hnil).1
  · intro hsome
    exact (hdefault [] hsome).nonempty rfl

/-- The payload of a context line is on one line. -/
theorem lineEnd_not_mem_contextPayload [Alphabet] (hname : name.isIdentifier = true)
    (htype : type.IsType) (hdefault : ∀ value ∈ default?, value.IsDefault) :
    '\n' ∉ contextPayload name type default? := by
  have hblank : Text.isBlank '\n' = true := by decide
  have hnot : '\n' ∉ name := by
    intro hmem
    rw [Text.not_isBlank_of_mem hname _ hmem] at hblank
    cases hblank
  simp [contextPayload, hnot, Text.lineEnd_not_mem_typeAndDefault htype hdefault]

end Line

/-! ## Where the line stands -/

/-- Where the counted depth is zero no block is open. -/
theorem Draft.blocks_of_depth [Alphabet] {source : Text} {front back : List Token}
    (h : (tokenize source).tokens = front ++ back) (hroot : front.foldl Nesting.deepen 0 = 0) :
    (run {} front).blocks = [] := by
  obtain ⟨hopeners, hwf⟩ := openers_run h
  rw [← Nesting.length_remaining] at hroot
  rw [← hwf.openers_eq_nil_iff, hopeners]
  exact List.eq_nil_of_length_eq_zero hroot

/-- Behind tokens that leave no block open the source goes on in template text. -/
theorem Cursor.inVerbatim_of_depth {source : Text} {front back : List Token}
    (h : (tokenize source).tokens = front ++ back) (hroot : front.foldl Nesting.deepen 0 = 0) :
    ((Cursor.start source).after front.length).inVerbatim = false := by
  rcases List.eq_nil_or_concat front with rfl | ⟨front, u, rfl⟩
  · rfl
  · have hu : ((Cursor.start source).after front.length).next.1 = u := by
      have hnext := (Cursor.start source).next_after front.length
      have hget : (Cursor.start source).stream.tokens[front.length]? = some u := by
        rw [show (Cursor.start source).stream.tokens = _ from h]
        simp
      rw [hnext, hget]
      rfl
    rw [List.concat_eq_append, List.length_append, List.length_singleton, after_succ]
    change ((Cursor.start source).after front.length).next.1.kind.opensVerbatim = false
    rw [hu]
    refine TokenKind.opensVerbatim_of_opensBlock ?_
    rw [List.concat_eq_append, List.foldl_append] at hroot
    cases hopens : u.kind.opensBlock with
    | false => rfl
    | true => simp [Nesting.deepen, hopens] at hroot

/-- A token outside of all blocks is what the template reads where the token starts. -/
theorem token_of_root {source before rest : Text} {front back : List Token} {t : Token}
    (hsource : source = before ++ rest) (htokens : (tokenize source).tokens = front ++ t :: back)
    (hstart : t.span.start = before.byteLength) (hroot : front.foldl Nesting.deepen 0 = 0) :
    t.kind = (Lexeme.ofTemplate rest).kind ∧ t.text = (Lexeme.ofTemplate rest).text ∧
      t.span.stop = (before ++ (Lexeme.ofTemplate rest).spelling).byteLength := by
  have hkind : t.kind ≠ .endOfInput :=
    (tiles_tokenize source).last_of_append.2.2 t (by rw [htokens]; simp)
  have hstream : (Cursor.start source).stream.toList =
      front ++ t :: (back ++ [(tokenize source).last]) := by
    rw [TokenStream.toList, show (Cursor.start source).stream.tokens = _ from htokens]
    simp [tokenize]
  have hverbatim := Cursor.inVerbatim_of_depth htokens hroot
  obtain ⟨hnext, -⟩ := Cursor.stream_split hstream hkind
  have hfirst : (Cursor.start source).Behind [] := ⟨rfl, rfl⟩
  obtain ⟨read, hread, hbehind⟩ := Cursor.behind_after hfirst front.length
  generalize (Cursor.start source).after front.length = c at *
  have hlexeme := Cursor.lexeme_of_template hverbatim
  -- The comments in front of the token end where it starts.
  have hsplit : before ++ rest = (read ++ (Lexeme.skipComments c.rest).1) ++
      (Lexeme.skipComments c.rest).2 := by
    rw [← hsource, List.append_assoc, Lexeme.skipComments_append]
    exact hread
  have hlength : before.byteLength = (read ++ (Lexeme.skipComments c.rest).1).byteLength := by
    rw [← hstart, ← hnext, Text.byteLength_append]
    simp only [Cursor.next, hlexeme, hbehind.offset]
    rfl
  have hrest : rest = (Lexeme.skipComments c.rest).2 := by
    have hcut := Text.splitBytes?_append before rest
    rw [hsplit, hlength, Text.splitBytes?_append] at hcut
    simp only [Option.some.injEq, Prod.mk.injEq] at hcut
    exact hcut.2.symm
  have huncommented : Lexeme.ofTemplate rest = Lexeme.ofUncommented rest :=
    Lexeme.ofTemplate_of_uncommented (by rw [hrest]; exact Lexeme.comment?_skipComments c.rest)
  rw [huncommented, hrest, Text.byteLength_append, hlength, ← hnext]
  simp [Cursor.next, hlexeme, Lexeme.ofTemplate, hbehind.offset]

section Declares

variable {name type : Text} {default? : Option Text}

/-- A context line is one lexeme, at the end of the source or with its line end behind it. -/
theorem ofTemplate_contextLine [Alphabet] (hname : name.isIdentifier = true) (htype : type.IsType)
    (hdefault : ∀ value ∈ default?, value.IsDefault) {tail : Text}
    (htail : ∀ c ∈ tail.head?, c = '\n') :
    Lexeme.ofTemplate (contextLine name type default? ++ tail) =
      { kind := .line .context, text := contextPayload name type default?
        spelling := contextLine name type default?
        residue := tail.take 1, rest := tail.drop 1 } :=
  Lexeme.ofTemplate_line .context (trimmed_contextPayload hname htype hdefault)
    (lineEnd_not_mem_contextPayload hname htype hdefault) htail

/-- At the root a declaration adds its variable and changes nothing else. -/
theorem Draft.step_context [Alphabet] (hname : name.isIdentifier = true) (htype : type.IsType)
    (hdefault : ∀ value ∈ default?, value.IsDefault) {d : Draft} (hroot : d.blocks = [])
    {t : Token} (hkind : t.kind = .line .context)
    (htext : t.text = contextPayload name type default?) :
    d.step t = { d with
      declarations.contexts :=
        d.declarations.contexts ++ [⟨name, type, default?, t.position.line⟩] } := by
  have hread := read_contextPayload hname htype hdefault t.position.line
  have hmove : move d.blocks.head? t = ⟨[], .context ⟨name, type, default?, t.position.line⟩⟩ := by
    rw [hroot, List.head?_nil]
    simp only [move, statementMove, hkind, htext, declarationMove, hread, if_true, Move.ofReading]
  rw [step_eq, hmove, apply, reportAll_nil]
  rfl

/-- A source of one context line has one token, with the payload of the line. -/
theorem tokenize_contextLine [Alphabet] (hname : name.isIdentifier = true) (htype : type.IsType)
    (hdefault : ∀ value ∈ default?, value.IsDefault) :
    ∃ t, (tokenize (contextLine name type default?)).tokens = [t] ∧ t.kind = .line .context ∧
      t.text = contextPayload name type default? ∧ t.position = .start := by
  have hend : ∀ c ∈ ([] : Text).head?, c = '\n' := by simp
  have hlexeme := ofTemplate_contextLine hname htype hdefault hend
  rw [List.append_nil, List.take_nil, List.drop_nil] at hlexeme
  have hfirst : (Cursor.start (contextLine name type default?)).lexeme = _ := hlexeme
  have hgoes : (Cursor.start (contextLine name type default?)).next.1.kind ≠ .endOfInput := by
    simp [Cursor.next, hfirst]
  have hends :
      (Cursor.start (contextLine name type default?)).next.2.next.1.kind = .endOfInput := by
    have hnil : (Cursor.start (contextLine name type default?)).next.2.rest = [] := by
      simp [Cursor.next, hfirst]
    exact congrArg Lexeme.kind (Cursor.lexeme_of_nil hnil)
  refine ⟨(Cursor.start (contextLine name type default?)).next.1, ?_, congrArg Lexeme.kind hfirst,
    congrArg Lexeme.text hfirst, ?_⟩
  · rw [tokenize, Cursor.stream_of_next hgoes, Cursor.stream_of_end hends]
  · change Position.start.advance
      (Cursor.start (contextLine name type default?)).lexeme.comments = _
    rw [hfirst]
    rfl

/-- A line with a name, a type and perhaps a default declares just this variable, without problems.
The type is any text that has `=` between angle brackets only, and the default is any text. The line
may be a whole source, or stand in any other one where a token starts and no block is open. There it
is read as a whole, and all it does is that the variable is declared. -/
theorem context_line_declares [Alphabet] (hname : name.isIdentifier = true) (htype : type.IsType)
    (hdefault : ∀ value ∈ default?, value.IsDefault) :
    let line := contextLine name type default?
    Document.parse line =
        { root := ⟨.root, none, []⟩
          declarations := { contexts := [⟨name, type, default?, 1⟩] }
          diagnostics := [] } ∧
      ∀ (before tail : Text) (front back : List Token) (t : Token),
        (∀ c ∈ tail.head?, c = '\n') →
        (tokenize (before ++ line ++ tail)).tokens = front ++ t :: back →
        t.span.start = before.byteLength →
        front.foldl Nesting.deepen 0 = 0 →
          let d := Draft.run {} front
          let e : Draft := { d with
            declarations.contexts :=
              d.declarations.contexts ++ [⟨name, type, default?, t.position.line⟩] }
          t.span.stop = (before ++ line).byteLength ∧ d.step t = e ∧
            Document.parse (before ++ line ++ tail) =
              ((e.run back).finish (tokenize (before ++ line ++ tail)).last).toDocument := by
  intro line
  refine ⟨?_, ?_⟩
  · obtain ⟨t, htokens, hkind, htext, hposition⟩ := tokenize_contextLine hname htype hdefault
    have hstep := Draft.step_context hname htype hdefault (d := {}) rfl hkind htext
    rw [Document.parse, Document.ofStream, htokens, Draft.run_cons, Draft.run_nil, hstep, hposition]
    rfl
  · intro before tail front back t htail htokens hstart hroot d e
    have hlexeme := ofTemplate_contextLine hname htype hdefault htail
    obtain ⟨hkind, htext, hstop⟩ :=
      token_of_root (List.append_assoc before line tail) htokens hstart hroot
    rw [hlexeme] at hkind htext hstop
    have hstep : d.step t = e :=
      Draft.step_context hname htype hdefault (Draft.blocks_of_depth htokens hroot) hkind htext
    refine ⟨hstop, hstep, ?_⟩
    rw [Document.parse, Document.ofStream, htokens, Draft.run_append, Draft.run_cons]
    rw [show (Draft.run {} front).step t = e from hstep]

end Declares

/-- The type has `=`, an arrow and blanks between its brackets, and the default has what could be
taken for another type, default or directive. In front of the line stand a block and a comment. -/
theorem context_line_with_binding :
    let type : Text := "Map<K = fn(u8) -> V, L>"
    let value : Text := "a == b < @end"
    let line := contextLine "m" type (some value)
    let page := "@if c\n@end@* @context *@".toList ++ line ++ "\n!".toList
    let front : List Token :=
      [⟨.line .condition, "c", ⟨1, 1⟩, ⟨0, 5⟩⟩, ⟨.close, "", ⟨2, 1⟩, ⟨6, 10⟩⟩]
    let t : Token := ⟨.line .context, contextPayload "m" type (some value), ⟨2, 19⟩, ⟨24, 74⟩⟩
    Text.IsType type ∧ Text.IsDefault value ∧
      Document.parse line =
        { root := ⟨.root, none, []⟩
          declarations := { contexts := [⟨"m", type, some value, 1⟩] } } ∧
      (tokenize page).tokens = front ++ t :: [⟨.literal, "!", ⟨3, 1⟩, ⟨75, 76⟩⟩] ∧
      ((Draft.run {} front).step t).declarations.contexts = [⟨"m", type, some value, 2⟩] ∧
      ((Draft.run {} front).step t).diagnostics = [] := by
  intro type value line page front t
  have htype : Text.IsType type :=
    ⟨by decide, by decide +kernel, by decide, by decide +kernel, by decide +kernel⟩
  have hvalue : Text.IsDefault value := ⟨by decide, by decide +kernel, by decide⟩
  have htokens : (tokenize page).tokens = front ++ t :: [⟨.literal, "!", ⟨3, 1⟩, ⟨75, 76⟩⟩] := by
    decide +kernel
  have hname : Text.isIdentifier "m".toList = true := by decide
  have hdefault : ∀ v ∈ some value, Text.IsDefault v := by
    rintro v ⟨⟩
    exact hvalue
  obtain ⟨halone, hplace⟩ := context_line_declares hname htype hdefault
  obtain ⟨-, hstep, -⟩ := hplace _ _ front _ t (by simp) htokens (by decide +kernel) (by decide)
  refine ⟨htype, hvalue, halone, htokens, ?_, ?_⟩
  · rw [hstep]
    rfl
  · rw [hstep]
    rfl

end Stencil
