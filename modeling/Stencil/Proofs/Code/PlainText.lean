import Mathlib.Data.List.Forall2
import Stencil.Compile
import Stencil.Proofs.Document.Acceptance
import Stencil.Proofs.Text.StringLiteral
import Stencil.Proofs.Token.Spelling

/-!
# Plain text survives

A source can stand for nothing but text: text in which every `@` is doubled, comments, and text
blocks. Such a source is compiled without problems, and the render function does nothing but write
literals, which denote the text, one behind another.

The source is first seen as a row of pieces, so that its tokens are known
(`Segment.exists_cover`). Each piece then adds nodes that write its text (`Draft.run_piece`), and
the code follows the nodes.
-/

set_option autoImplicit false

namespace Stencil

/-- A part of a source that stands for text. -/
inductive Segment
  /-- Text in which every `@` is doubled. -/
  | plain (t : Text)
  /-- A comment, which stands for no text. -/
  | comment (body : Text)
  /-- A text block. -/
  | block (body : Text)
  deriving DecidableEq, Repr

namespace Segment

/-- A character of plain text as it is spelled. -/
def doubled (c : Char) : Text :=
  if c = '@' then ['@', '@'] else [c]

/-- How the segment is spelled. -/
def spelling : Segment → Text
  | plain t => t.flatMap doubled
  | comment body => "@*" ++ body ++ "*@"
  | block body => "@text" ++ body ++ "@end"

/-- The text that the segment stands for. -/
def text : Segment → Text
  | plain t => t
  | comment _ => []
  | block body => body

/-- The segment can be spelled in front of others. -/
def Fits (behind : List Segment) : Segment → Prop
  | plain _ => True
  | comment body => ¬ "*@".toList <:+: body
  | block body => FitsVerbatim body ∧ continuesWord (behind.flatMap spelling) = false

/-- Each of the segments can be spelled in front of those behind it. -/
def AllFit : List Segment → Prop
  | [] => True
  | s :: ss => s.Fits ss ∧ AllFit ss

instance decidableFits (behind : List Segment) : (s : Segment) → Decidable (s.Fits behind)
  | plain _ => .isTrue trivial
  | comment body => inferInstanceAs (Decidable (¬ "*@".toList <:+: body))
  | block body => inferInstanceAs
      (Decidable (FitsVerbatim body ∧ continuesWord (behind.flatMap spelling) = false))

instance decidableAllFit : (ss : List Segment) → Decidable (AllFit ss)
  | [] => .isTrue trivial
  | s :: ss =>
    have := decidableAllFit ss
    inferInstanceAs (Decidable (s.Fits ss ∧ AllFit ss))

end Segment

/-! ## Segments as pieces -/

namespace Piece

/-- Whether the piece stands for text alone. -/
def isPlain : Piece → Bool
  | text _ | mark | comment _ | block .text _ => true
  | _ => false

/-- The text that a plain piece stands for. -/
def written : Piece → Text
  | text t => t
  | mark => ['@']
  | block _ body => body
  | _ => []

/-- The pieces spell the source and stand for the text. -/
structure Cover (ps : List Piece) (source text : Text) : Prop where
  fits : WellSpelled ps
  spelled : spell ps = source
  plain : ∀ p ∈ ps, p.isPlain = true
  writes : ps.flatMap written = text

namespace Cover

variable {ps : List Piece} {source text : Text}

/-- A plain piece that fits can be put in front of others. -/
theorem cons (h : Cover ps source text) {p : Piece} (hp : p.Fits ps) (hplain : p.isPlain = true) :
    Cover (p :: ps) (p.spelling ++ source) (p.written ++ text) where
  fits := ⟨hp, h.fits⟩
  spelled := by rw [← h.spelled]; rfl
  plain := List.forall_mem_cons.2 ⟨hplain, h.plain⟩
  writes := by rw [List.flatMap_cons, h.writes]

/-- A character of plain text can be put in front of others, an `@` by its doubled spelling. -/
theorem char (h : Cover ps source text) (c : Char) :
    ∃ qs, Cover qs (Segment.doubled c ++ source) (c :: text) := by
  by_cases hc : c = '@'
  · subst hc
    exact ⟨.mark :: ps, h.cons (p := .mark) trivial rfl⟩
  · rw [Segment.doubled, if_neg hc]
    have hmark : '@' ∉ [c] := by simpa using Ne.symm hc
    by_cases htext : startsWithText ps = true
    · -- Two literals must not meet, so the character joins the one behind it.
      match ps, htext with
      | .text t :: ps, _ =>
        obtain ⟨⟨hne, hm, hnext⟩, hps⟩ := h.fits
        refine ⟨.text (c :: t) :: ps, ⟨⟨⟨by simp, ?_, hnext⟩, hps⟩, ?_, ?_, ?_⟩⟩
        · simp [hm, Ne.symm hc]
        · rw [← h.spelled]
          rfl
        · exact List.forall_mem_cons.2 ⟨rfl, (List.forall_mem_cons.1 h.plain).2⟩
        · rw [← h.writes]
          rfl
    · exact ⟨.text [c] :: ps, h.cons (p := .text [c]) ⟨by simp, hmark, by simpa using htext⟩ rfl⟩

/-- Any plain text can be put in front of others, with each `@` doubled. -/
theorem plainText (h : Cover ps source text) (t : Text) :
    ∃ qs, Cover qs (t.flatMap Segment.doubled ++ source) (t ++ text) := by
  induction t with
  | nil => exact ⟨ps, h⟩
  | cons c t ih =>
    obtain ⟨qs, hqs⟩ := ih
    obtain ⟨rs, hrs⟩ := hqs.char c
    exact ⟨rs, by rwa [List.flatMap_cons, List.append_assoc]⟩

end Cover

end Piece

/-- Segments that fit can be cut into plain pieces. -/
theorem Segment.exists_cover {ss : List Segment} (h : AllFit ss) :
    ∃ ps, Piece.Cover ps (ss.flatMap spelling) (ss.flatMap text) := by
  induction ss with
  | nil => exact ⟨[], trivial, rfl, by simp, rfl⟩
  | cons s ss ih =>
    obtain ⟨hs, hss⟩ := h
    obtain ⟨ps, hps⟩ := ih hss
    rw [List.flatMap_cons, List.flatMap_cons]
    cases s with
    | plain t => exact hps.plainText t
    | comment body => exact ⟨.comment body :: ps, hps.cons (p := .comment body) hs rfl⟩
    | block body =>
      have hp : (Piece.block .text body).Fits ps := ⟨hs.1, by rw [hps.spelled]; exact hs.2⟩
      exact ⟨.block .text body :: ps, hps.cons hp rfl⟩

/-! ## Pieces as nodes -/

/-- The nodes write the texts and do nothing else, as long as no lines are noted. -/
structure Node.Write (ns : List Node) (ts : List Text) : Prop where
  statements : ∀ (o : Options) (n : Nat), o.lineNumbers = false →
    Code.ofNodes o n ns = ts.flatMap Code.writeStatements
  unescaped : Node.anyUsesEscaper ns = false

/-- Two lists of nodes use the escaper if one of them does. -/
theorem Node.anyUsesEscaper_append (ns ms : List Node) :
    anyUsesEscaper (ns ++ ms) = (anyUsesEscaper ns || anyUsesEscaper ms) := by
  induction ns with
  | nil => rfl
  | cons n ns ih => simp [anyUsesEscaper, ih, Bool.or_assoc]

/-- Nodes behind nodes write their texts one after another. -/
theorem Node.Write.append {ns ms : List Node} {ts us : List Text} (hn : Node.Write ns ts)
    (hm : Node.Write ms us) : Node.Write (ns ++ ms) (ts ++ us) where
  statements o n ho := by
    rw [Code.ofNodes_append, hn.statements o n ho, hm.statements o n ho, List.flatMap_append]
  unescaped := by rw [anyUsesEscaper_append, hn.unescaped, hm.unescaped]; rfl

namespace Draft

/-- Outside of blocks a literal becomes a leaf. -/
theorem step_of_literal [Alphabet] {d : Draft} (hd : d.blocks = []) {t : Token}
    (ht : t.kind = .literal) :
    d.step t = d.grow [.leaf .literal t] := by
  have hmove : move d.blocks.head? t = ⟨[], .leaf .literal⟩ := by
    simp [hd, move, statementMove, ht]
  rw [step_of_move hmove, grow_of_nil hd]
  exact add_of_nil hd _

/-- A literal writes its text. -/
theorem write_literal (t : Token) : Node.Write [.leaf .literal t] [t.text] where
  statements o n ho := by
    simp [Node.leaf, Code.ofNodes, Code.ofNode, Code.noteStatements, ho, Node.text]
  unescaped := rfl

/-- In a verbatim block every literal becomes a part of the body. -/
theorem run_verbatimTexts [Alphabet] (d : Draft) (o : Token) (v : Verbatim) (ns : List Node)
    {ts : List Token} (h : ∀ t ∈ ts, t.kind = .literal) :
    ((d.begin o (.verbatim v)).grow ns).run ts =
      (d.begin o (.verbatim v)).grow (ns ++ ts.map (.leaf .verbatimText)) := by
  induction ts generalizing ns with
  | nil => simp
  | cons t ts ih =>
    obtain ⟨ht, hts⟩ := List.forall_mem_cons.1 h
    have hmove : move ((d.begin o (.verbatim v)).grow ns).blocks.head? t =
        ⟨[], .leaf .verbatimText⟩ := by
      simp [grow_begin, move, ht, verbatimMove]
    have hstep : ((d.begin o (.verbatim v)).grow ns).step t =
        (d.begin o (.verbatim v)).grow (ns ++ [.leaf .verbatimText t]) := by
      rw [step_of_move hmove]
      rfl
    rw [run_cons, hstep, ih _ hts, List.append_assoc]
    rfl

/-- Outside of other blocks, the tokens of a text block become its node. -/
theorem run_textBlock [Alphabet] {d : Draft} (hd : d.blocks = []) {o e : Token} {body : List Token}
    (ho : o.kind = .verbatim .text) (hbody : ∀ t ∈ body, t.kind = .literal)
    (he : e.kind = .close) :
    d.run (o :: body ++ [e]) =
      d.grow [⟨.verbatim .text, some o, body.map (.leaf .verbatimText)⟩] := by
  have hmove : move d.blocks.head? o = ⟨[], .begin (.verbatim .text)⟩ := by
    simp [hd, move, statementMove, ho]
  have hread : (d.begin o (.verbatim .text)).run body =
      (d.begin o (.verbatim .text)).grow (body.map (.leaf .verbatimText)) := by
    simpa using run_verbatimTexts d o .text [] hbody
  rw [run_block (step_of_move hmove) hread he rfl (by simp), grow_of_nil hd]
  exact add_of_nil hd _

/-- A text block writes its body at once. -/
theorem write_textBlock (o : Token) (body : List Token) :
    Node.Write [⟨.verbatim .text, some o, body.map (.leaf .verbatimText)⟩]
      [body.flatMap Token.text] where
  statements o n ho := by
    have htext : (body.map (Node.leaf .verbatimText)).flatMap Node.text = body.flatMap Token.text :=
      List.flatMap_map ..
    simp [Code.ofNodes, Code.ofNode, Code.noteStatements, ho, Node.bodyText, htext]
  unescaped := by
    have hbody : Node.anyUsesEscaper (body.map (.leaf .verbatimText)) = false := by
      induction body with
      | nil => rfl
      | cons t body ih => exact ih
    simp [Node.anyUsesEscaper, Node.usesEscaper, hbody]

/-- Reading a plain piece adds nodes that write its text. -/
theorem run_piece [Alphabet] {p : Piece} (hp : p.isPlain = true) {d : Draft} (hd : d.blocks = [])
    {ts : List Token} (hts : ts.map (fun t => (t.kind, t.text)) = p.tokens) :
    ∃ ns, d.run ts = d.grow ns ∧ Node.Write ns [p.written] := by
  have hliteral {u : Text} (hu : ts.map (fun t => (t.kind, t.text)) = [(.literal, u)]) :
      ∃ ns, d.run ts = d.grow ns ∧ Node.Write ns [u] := by
    obtain ⟨t, rfl, ht⟩ := List.map_eq_singleton_iff.1 hu
    obtain ⟨hkind, rfl⟩ := Prod.mk.inj ht
    exact ⟨_, step_of_literal hd hkind, write_literal t⟩
  cases p with
  | text u => exact hliteral hts
  | mark => exact hliteral hts
  | comment body =>
    have hnil : ts = [] := List.map_eq_nil_iff.1 hts
    exact ⟨[], by simp [hnil], ⟨fun _ _ _ => rfl, rfl⟩⟩
  | block v u =>
    cases v with
    | text =>
      obtain ⟨o, rest, rfl, ho, hrest⟩ := List.map_eq_cons_iff.1 hts
      obtain ⟨body, es, rfl, hbody, hes⟩ := List.map_eq_append_iff.1 hrest
      obtain ⟨e, rfl, he⟩ := List.map_eq_singleton_iff.1 hes
      have hkinds : ∀ t ∈ body, t.kind = .literal := by
        intro t ht
        have hmem : (t.kind, t.text) ∈ (if u = [] then [] else [(TokenKind.literal, u)]) :=
          hbody ▸ List.mem_map_of_mem ht
        split at hmem
        · cases hmem
        · exact (Prod.mk.inj (List.mem_singleton.1 hmem)).1
      have htext : body.flatMap Token.text = u := by
        have hmap : body.flatMap Token.text =
            (body.map fun t => (t.kind, t.text)).flatMap Prod.snd := by
          rw [List.flatMap_map]
        rw [hmap, hbody]
        split
        · next hu => rw [hu]; rfl
        · simp
      refine ⟨_, run_textBlock hd (Prod.mk.inj ho).1 hkinds (Prod.mk.inj he).1, ?_⟩
      rw [← htext]
      exact write_textBlock o body
    | code | function => cases hp
  | display | line | otherwise | close | brace => cases hp

/-- The tokens of plain pieces become nodes that write what the pieces stand for. -/
theorem run_pieces [Alphabet] {ps : List Piece} (hps : ∀ p ∈ ps, p.isPlain = true) {d : Draft}
    (hd : d.blocks = []) {ts : List Token}
    (hts : ts.map (fun t => (t.kind, t.text)) = ps.flatMap Piece.tokens) :
    ∃ ns, d.run ts = d.grow ns ∧ Node.Write ns (ps.map Piece.written) := by
  induction ps generalizing d ts with
  | nil =>
    have hnil : ts = [] := by simpa using hts
    exact ⟨[], by simp [hnil], ⟨fun _ _ _ => rfl, rfl⟩⟩
  | cons p ps ih =>
    rw [List.flatMap_cons, List.map_eq_append_iff] at hts
    obtain ⟨us, vs, rfl, hus, hvs⟩ := hts
    obtain ⟨hp, hps⟩ := List.forall_mem_cons.1 hps
    obtain ⟨ns, hrun, hns⟩ := run_piece hp hd hus
    have hblocks : (d.grow ns).blocks = [] := by rw [grow_of_nil hd]; exact hd
    obtain ⟨ms, hrest, hms⟩ := ih hps hblocks hvs
    refine ⟨ns ++ ms, ?_, hns.append hms⟩
    rw [run_append, hrun, hrest, grow_grow]

end Draft

/-- A source that stands for text is read as nodes that write it, without any problem. -/
theorem Document.parse_of_cover [Alphabet] {ps : List Piece} {source text : Text}
    (h : Piece.Cover ps source text) :
    ∃ ns, Document.parse source = { root := ⟨.root, none, ns⟩ } ∧
      Node.Write ns (ps.map Piece.written) := by
  have hcontents : (tokenize source).toList.map (fun t => (t.kind, t.text)) =
      ps.flatMap Piece.tokens ++ [(.endOfInput, [])] :=
    Cursor.contents_spell h.fits rfl h.spelled.symm
  have htokens : (tokenize source).tokens.map (fun t => (t.kind, t.text)) =
      ps.flatMap Piece.tokens := by
    rw [TokenStream.toList, List.map_append] at hcontents
    exact (List.append_inj' hcontents rfl).1
  obtain ⟨ns, hrun, hns⟩ := Draft.run_pieces h.plain (d := {}) rfl htokens
  refine ⟨ns, ?_, hns⟩
  rw [parse, ofStream, hrun]
  rfl

namespace Code

/-- The line that writes a literal, by the contents of the literal. -/
def writeLine (contents : Text) : Text :=
  "        runtime::write(out, \"" ++ contents ++ "\")?;\n"

/-- Texts are written by a line for each of them that is not empty. -/
theorem layOutAll_writeStatements (ts : List Text) :
    ∃ literals us : List Text,
      layOutAll 2 (ts.flatMap writeStatements) = literals.flatMap writeLine ∧
        List.Forall₂ Text.Denotes literals us ∧ us.flatten = ts.flatten := by
  induction ts with
  | nil => exact ⟨[], [], rfl, .nil, rfl⟩
  | cons t ts ih =>
    obtain ⟨literals, us, hlines, hdenote, htext⟩ := ih
    rw [List.flatMap_cons, layOutAll_append, hlines]
    by_cases ht : t = []
    · exact ⟨literals, us, by rw [ht]; rfl, hdenote, by rw [htext, ht]; rfl⟩
    · refine ⟨Text.escaped t :: literals, t :: us, ?_, .cons (Text.denotes_escaped t) hdenote, ?_⟩
      · have hwrite : writeStatements t = [.write t] := by simp [writeStatements, ht]
        have hliteral : "runtime::write(out, " ++ Text.literal t ++ ")?;" =
            "runtime::write(out, \"" ++ Text.escaped t ++ "\")?;" := by
          simp [Text.literal]
        rw [hwrite, layOutAll_single, Statement.layOut, hliteral, List.flatMap_cons]
        exact congrArg (· ++ _) (line_between (by decide) (by decide) _)
      · rw [List.flatten_cons, List.flatten_cons, htext]

end Code

/-- The text of a source that stands for nothing else is written by the render function, as
literals and in order, and there are no problems. -/
theorem plain_text_survives [Alphabet] (o : Options) (t : Template) (ss : List Segment)
    (hname : t.hasValidName = true) (hlines : o.lineNumbers = false) (hfit : Segment.AllFit ss)
    (hsource : t.source = ss.flatMap Segment.spelling) :
    ∃ (output : Output) (literals texts : List Text),
      compile o t = .ok output ∧ output.diagnostics = [] ∧
      output.code = Code.header t o ++ Code.importSection o [] ++ Code.signature t.name [] ++
        ("    runtime::guard(" ++ Text.literal t.name ++ ", " ++ Text.literal t.fileType ++
          ", || \x7b\n") ++ literals.flatMap Code.writeLine ++
        "        Ok(())\n    \x7d)\n\x7d\n" ∧
      List.Forall₂ Text.Denotes literals texts ∧ texts.flatten = ss.flatMap Segment.text := by
  obtain ⟨ps, hps⟩ := Segment.exists_cover hfit
  rw [← hsource] at hps
  obtain ⟨ns, hparse, hns⟩ := Document.parse_of_cover hps
  obtain ⟨literals, texts, hwrites, hdenote, htexts⟩ :=
    Code.layOutAll_writeStatements (ps.map Piece.written)
  have htext : texts.flatten = ss.flatMap Segment.text := by
    rw [htexts, ← hps.writes, List.flatMap_def]
  refine ⟨_, literals, texts, by rw [compile, if_pos hname], by rw [hparse], ?_, hdenote, htext⟩
  have hescaper : Node.usesEscaper ⟨.root, none, ns⟩ = false := by
    simp [Node.usesEscaper, hns.unescaped]
  have hbody : Code.layOutAll 2 (Code.ofNodes o 0 ns) = literals.flatMap Code.writeLine := by
    rw [hns.statements o 0 hlines, hwrites]
  have hguard : Code.guardLine t = "    runtime::guard(" ++ Text.literal t.name ++ ", " ++
      Text.literal t.fileType ++ ", || \x7b\n" := by
    have hbefore : Code.indentation 1 ++ "runtime::guard(" = "    runtime::guard(" := by decide
    have hbehind : (", || \x7b" : Text) ++ ['\n'] = ", || \x7b\n" := by decide
    have hline := Code.line_between hbefore hbehind
      (Text.literal t.name ++ ", " ++ Text.literal t.fileType)
    simpa only [Code.guardLine, List.append_assoc] using hline
  have hend : Code.codeEnd = "        Ok(())\n    \x7d)\n\x7d\n" := by decide
  rw [hparse, Code.ofDocument_of_silent t o rfl, Code.guarded, Code.escaperBinding, hescaper, hbody,
    hguard, hend]
  simp [Code.front]

/-- A doubled `@` next to a comment, and a body with a quote and an `@ending` in it. -/
theorem plain_text_survives_page :
    let t : Template :=
      { name := "a.b", path := "p", source := "x@@@*\"*@y\n@text \"@ending\\@end@@" }
    let ss : List Segment :=
      [.plain "x@", .comment "\"", .plain "y\n", .block " \"@ending\\", .plain "@"]
    t.hasValidName = true ∧ Segment.AllFit ss ∧ t.source = ss.flatMap Segment.spelling ∧
      ∃ (output : Output) (literals texts : List Text),
        compile {} t = .ok output ∧ output.diagnostics = [] ∧
        output.code = Code.header t {} ++ Code.importSection {} [] ++ Code.signature t.name [] ++
          "    runtime::guard(\"a.b\", \"text\", || \x7b\n" ++ literals.flatMap Code.writeLine ++
          "        Ok(())\n    \x7d)\n\x7d\n" ∧
        List.Forall₂ Text.Denotes literals texts ∧
        texts.flatten = "x@y\n \"@ending\\@".toList := by
  intro t ss
  have hname : t.hasValidName = true := by decide
  have hfit : Segment.AllFit ss := by decide
  have hsource : t.source = ss.flatMap Segment.spelling := by decide
  exact ⟨hname, hfit, hsource, plain_text_survives {} t ss hname rfl hfit hsource⟩

end Stencil
