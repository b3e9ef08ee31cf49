/-
  ConsoleLab.Proofs.Program.Written — programs as they are written.

  A tree is written as a main function, with any spacing (`Spacing.program`). The text is
  read as the lexemes of the tree (`closed_written_program`), the lexemes are cut into
  the chunks of the tree (`exists_chunked`), and so parsing gives back the code of the
  tree, with no remark (`parse_written`). Of the tree only its places are not in the text.
-/

import ConsoleLab.Program.Basic
import ConsoleLab.Proofs.Loop.Written
import ConsoleLab.Proofs.Program.Chunked
import ConsoleLab.Proofs.Statement.Written

namespace ConsoleLab

open Source (Location)

/-! ## Written forms -/

/-- What a written program leaves open: the white space between its pieces, and what stands
    between the conversions of a format. -/
structure Spacing where
  /-- What stands before a statement or a closing brace inside so many blocks. -/
  margin : Nat → String
  gap : String
  blank_margin : ∀ depth, ∀ c ∈ (margin depth).toList, Text.isBlank c = true
  percent_notMem_gap : '%' ∉ gap.toList

def Block.written (s : Spacing) (depth : Nat) : Block → String
  | empty => ""
  | statement before _ what => before.written s depth ++ s.margin depth ++ what.written s.gap
  | loop before _ header body _ =>
    before.written s depth ++ s.margin depth ++ header.written ++ body.written s (depth + 1) ++
      s.margin depth ++ "\x7d"

def Spacing.program (s : Spacing) (b : Block) : String :=
  "int main() \x7b" ++ b.written s 1 ++ s.margin 0 ++ "\x7d"

def Block.Writable : Block → Prop
  | empty => True
  | statement before _ what => before.Writable ∧ what.Writable
  | loop before _ header body _ => before.Writable ∧ header.Writable ∧ body.Writable

/-! ## The lexemes of a written form -/

def Block.kinds (gap : String) : Block → List LexemeKind
  | empty => []
  | statement before _ what => before.kinds gap ++ (what.kinds gap ++ [.symbol .semicolon])
  | loop before _ header body _ =>
    before.kinds gap ++ ((header.kinds ++ [.symbol .openBrace]) ++
      (body.kinds gap ++ [.symbol .closeBrace]))

def entryKinds : List LexemeKind :=
  [.ident "int", .ident "main", .symbol .openParen, .symbol .closeParen]

theorem closed_margin (s : Spacing) (depth : Nat) : Closed (s.margin depth) [] :=
  closed_blank (s.blank_margin depth)

theorem closed_closeBrace : Closed "\x7d" [.symbol .closeBrace] :=
  closed_of_kindsBy 1 fun _ => rfl

theorem closed_written_block (s : Spacing) {b : Block} (h : b.Writable) (depth : Nat) :
    Closed (b.written s depth) (b.kinds s.gap) := by
  induction b generalizing depth with
  | empty => exact closed_empty
  | statement before place what ih =>
    have hfront := (ih h.1 depth).append (closed_margin s depth)
    have hall := hfront.append (closed_written_statement s.gap h.2)
    rwa [List.append_nil] at hall
  | loop before place header body close ihBefore ihBody =>
    have hfront := (ihBefore h.1 depth).append (closed_margin s depth)
    have hheader := hfront.append (Loop.closed_written_header h.2.1)
    have hbody := (hheader.append (ihBody h.2.2 (depth + 1))).append (closed_margin s depth)
    have hall := hbody.append closed_closeBrace
    simpa only [Block.written, Block.kinds, List.append_nil, List.append_assoc] using hall

theorem closed_written_program (s : Spacing) {b : Block} (h : b.Writable) :
    Closed (s.program b)
      ((entryKinds ++ [.symbol .openBrace]) ++ (b.kinds s.gap ++ [.symbol .closeBrace])) := by
  have hentry : Closed "int main() \x7b" (entryKinds ++ [.symbol .openBrace]) :=
    closed_of_kindsBy 7 fun _ => rfl
  have hbody := (hentry.append (closed_written_block s h 1)).append (closed_margin s 0)
  have hall := hbody.append closed_closeBrace
  simpa only [Spacing.program, List.append_nil, List.append_assoc] using hall

/-! ## No part of a written form cuts before its end -/

theorem heldDepth_statement (gap : String) (what : Statement) :
    heldDepth 0 (what.kinds gap) = some 0 := by
  cases what with
  | print parts =>
    refine heldDepth_flat (fun kind hk => ?_) 0
    have hpart : ∀ part : PrintPart, part.kind.isFlat = true := by
      intro part
      cases part <;> rfl
    simp only [Statement.kinds, List.mem_cons, List.mem_flatMap, List.not_mem_nil, or_false] at hk
    rcases hk with rfl | ⟨part, -, rfl | rfl⟩
    · rfl
    · rfl
    · exact hpart part
  | read name mode => cases mode <;> rfl
  | scan names hints =>
    have harguments : ∀ kind ∈ argumentKinds names, kind.isFlat = true := by
      intro kind hk
      simp only [argumentKinds, List.mem_cons, List.mem_flatMap, List.not_mem_nil, or_false] at hk
      obtain ⟨name, -, rfl | rfl | rfl⟩ := hk <;> rfl
    have hcall : heldDepth 1 (argumentKinds names ++ [.symbol .closeParen]) = some 0 := by
      rw [heldDepth_append, heldDepth_flat harguments]
      rfl
    exact hcall

theorem isFlat_intKinds (n : Int64) : ∀ kind ∈ intKinds n, kind.isFlat = true := by
  intro kind hk
  unfold intKinds at hk
  split at hk
  · rcases List.mem_cons.mp hk with rfl | hk
    · rfl
    · obtain rfl := List.mem_singleton.mp hk
      rfl
  · obtain rfl := List.mem_singleton.mp hk
    rfl

theorem isFlat_operand (operand : Loop.Operand) : ∀ kind ∈ operand.kinds, kind.isFlat = true := by
  cases operand with
  | var name =>
    intro kind hk
    obtain rfl := List.mem_singleton.mp hk
    rfl
  | lit value => exact isFlat_intKinds value

theorem isFlat_condition (c : Loop.Condition) : ∀ kind ∈ c.kinds, kind.isFlat = true := by
  intro kind hk
  rcases List.mem_append.mp hk with hk | hk
  · exact isFlat_operand _ kind hk
  · rcases List.mem_cons.mp hk with rfl | hk
    · cases c.comparison <;> rfl
    · exact isFlat_operand _ kind hk

/-- The semicolons of a header stand inside its parentheses. -/
theorem heldDepth_header (header : Loop.Header) : heldDepth 0 header.kinds = some 0 := by
  have hstart : heldDepth 1 (.ident "int" :: .ident header.initName :: .symbol .assign ::
      intKinds header.initValue) = some 1 := heldDepth_flat (isFlat_intKinds _) 1
  have hcondition : heldDepth 1 header.condition.kinds = some 1 :=
    heldDepth_flat (isFlat_condition _) 1
  have hstep : heldDepth 1 [.ident header.stepName, .symbol .increment] = some 1 := rfl
  have hinner : heldDepth 1 ((.ident "int" :: .ident header.initName :: .symbol .assign ::
      intKinds header.initValue) ++ .symbol .semicolon :: (header.condition.kinds ++
        .symbol .semicolon :: [.ident header.stepName, .symbol .increment]) ++
          [.symbol .closeParen]) = some 0 := by
    rw [heldDepth_append, heldDepth_append, hstart, Option.bind_some, heldDepth_semicolon,
      heldDepth_append, hcondition, Option.bind_some, heldDepth_semicolon, hstep]
    rfl
  exact hinner

/-! ## The chunks of a written form -/

def Block.unplaced : Block → Block
  | empty => empty
  | statement before _ what => statement before.unplaced Location.start what
  | loop before _ header body _ =>
    loop before.unplaced Location.start header body.unplaced Location.start

theorem Block.size_unplaced (b : Block) : b.unplaced.size = b.size := by
  induction b with
  | empty => rfl
  | statement before place what ih => simp [unplaced, size, ih]
  | loop before place header body close ihBefore ihBody =>
    simp [unplaced, size, ihBefore, ihBody]

/-- The actions of a tree do not depend on its places. -/
theorem Block.map_action_unplaced (b : Block) (start : Nat) :
    (b.unplaced.code start).map Instruction.action = (b.code start).map Instruction.action := by
  induction b generalizing start with
  | empty => rfl
  | statement before place what ih => simp [unplaced, code, ih]
  | loop before place header body close ihBefore ihBody =>
    simp [unplaced, code, ihBefore, ihBody, size_unplaced]

theorem startsLoop_statement (gap : String) (what : Statement) :
    Chunk.startsLoop (what.kinds gap) = false := by
  cases what with
  | print | scan => rfl
  | read name mode => cases mode <;> rfl

theorem kinds_ne_nil (gap : String) (what : Statement) : what.kinds gap ≠ [] := by
  cases what with
  | print | scan => exact List.cons_ne_nil _ _
  | read name mode => cases mode <;> exact List.cons_ne_nil _ _

theorem exists_concat {lexemes : List Lexeme} {kinds : List LexemeKind} {mark : Symbol}
    (h : lexemes.map Lexeme.kind = kinds ++ [.symbol mark]) :
    ∃ held p, lexemes = held ++ [⟨.symbol mark, p⟩] ∧ held.map Lexeme.kind = kinds := by
  obtain ⟨held, last, rfl, hheld, hlast⟩ := List.map_eq_append_iff.mp h
  obtain ⟨⟨_, p⟩, rfl, rfl⟩ := List.map_eq_singleton_iff.mp hlast
  exact ⟨held, p, rfl, hheld⟩

theorem exists_cons {held : List Lexeme} {kinds : List LexemeKind}
    (h : held.map Lexeme.kind = kinds) (hne : kinds ≠ []) : ∃ first more, held = first :: more :=
  List.exists_cons_of_ne_nil fun hnil => hne (by rw [← h, hnil, List.map_nil])

/-- The lexemes of a tree are cut into the chunks of the same tree, placed where the lexemes
    stand. -/
theorem exists_chunked {gap : String} (hgap : '%' ∉ gap.toList) {b : Block} (h : b.Writable)
    {lexemes : List Lexeme} (hkinds : lexemes.map Lexeme.kind = b.kinds gap) :
    ∃ (b' : Block) (cs : List Chunk), b'.unplaced = b.unplaced ∧ b'.Chunked cs ∧
      ∀ rest ds, CutsInto rest ds → CutsInto (lexemes ++ rest) (cs ++ ds) := by
  -- Every part of a tree ends with a cut, so how the rest is cut does not depend on it.
  induction b generalizing lexemes with
  | empty =>
    rw [List.map_eq_nil_iff.mp hkinds]
    exact ⟨.empty, [], rfl, .empty, fun _ _ => id⟩
  | statement before place what ih =>
    obtain ⟨front, back, rfl, hfront, hback⟩ := List.map_eq_append_iff.mp hkinds
    obtain ⟨before', cs, hsame, hchunked, hcuts⟩ := ih h.1 hfront
    obtain ⟨held, p, rfl, hheld⟩ := exists_concat hback
    obtain ⟨hu, hzero⟩ :=
      uncut_of_heldDepth ((congrArg _ hheld).trans (heldDepth_statement gap what))
    obtain ⟨first, more, rfl⟩ := exists_cons hheld (kinds_ne_nil gap what)
    refine ⟨.statement before' first.place what, cs ++ [⟨first :: more, .semicolon⟩], ?_,
      .statement hchunked ?_ ?_, fun rest ds hrest => ?_⟩
    · rw [Block.unplaced, Block.unplaced, hsame]
    · rw [hheld, startsLoop_statement]
    · rw [hheld, recognize_kinds hgap h.2]
    · have hcut : CutsInto (first :: more ++ ⟨.symbol .semicolon, p⟩ :: rest)
          (⟨first :: more, .semicolon⟩ :: ds) := .semicolon hu hzero hrest
      simpa using hcuts _ _ hcut
  | loop before place header body close ihBefore ihBody =>
    obtain ⟨front, back, rfl, hfront, hback⟩ := List.map_eq_append_iff.mp hkinds
    obtain ⟨before', cs, hsame, hchunked, hcuts⟩ := ihBefore h.1 hfront
    obtain ⟨opening, closing, rfl, hopening, hclosing⟩ := List.map_eq_append_iff.mp hback
    obtain ⟨held, p, rfl, hheld⟩ := exists_concat hopening
    obtain ⟨hu, -⟩ := uncut_of_heldDepth ((congrArg _ hheld).trans (heldDepth_header header))
    obtain ⟨first, more, rfl⟩ := exists_cons hheld (List.cons_ne_nil _ _)
    obtain ⟨inner, q, rfl, hinner⟩ := exists_concat hclosing
    obtain ⟨body', ds, hsameBody, hchunkedBody, hcutsBody⟩ := ihBody h.2.2 hinner
    refine ⟨.loop before' first.place header body' q,
      cs ++ ⟨first :: more, .openBrace p⟩ :: (ds ++ [⟨[], .closeBrace q⟩]), ?_,
      .loop hchunked ?_ hchunkedBody, fun rest es hrest => ?_⟩
    · rw [Block.unplaced, Block.unplaced, hsame, hsameBody]
    · rw [hheld, Loop.parse_kinds]
    · have hcut : CutsInto (first :: more ++ ⟨.symbol .openBrace, p⟩ ::
            (inner ++ ⟨.symbol .closeBrace, q⟩ :: rest))
          (⟨first :: more, .openBrace p⟩ :: (ds ++ ⟨[], .closeBrace q⟩ :: es)) :=
        .openBrace hu (hcutsBody _ _ (hrest.bareClose q))
      simpa using hcuts _ _ hcut

/-- Parsing a written tree gives back its code, and nothing is left out. -/
theorem parse_written (s : Spacing) {b : Block} (h : b.Writable) :
    ∃ p, Program.parse .source (s.program b) = .ok p ∧
      p.code.map Instruction.action = b.flatten.map Instruction.action ∧ p.skipped = [] := by
  have hkinds : (lex (s.program b)).map Lexeme.kind =
      (entryKinds ++ [.symbol .openBrace]) ++ (b.kinds s.gap ++ [.symbol .closeBrace]) := by
    have hclosed := closed_written_program s h []
    rw [List.append_nil, kindsOf_nil, List.append_nil] at hclosed
    rw [map_kind_lex, hclosed]
  obtain ⟨opening, closing, hlex, hopening, hclosing⟩ := List.map_eq_append_iff.mp hkinds
  obtain ⟨head, p, rfl, hhead⟩ := exists_concat hopening
  obtain ⟨hu, -⟩ := uncut_of_heldDepth ((congrArg _ hhead).trans (show _ = some 0 from rfl))
  obtain ⟨inner, q, rfl, hinner⟩ := exists_concat hclosing
  obtain ⟨b', cs, hsame, hchunked, hcuts⟩ := exists_chunked s.percent_notMem_gap h hinner
  have hcut : CutsInto (lex (s.program b)) (entryChunks head p cs q) := by
    have hend : CutsInto [] [⟨[], .textEnd⟩] := .textEnd .nil
    have hall : CutsInto (head ++ ⟨.symbol .openBrace, p⟩ :: (inner ++ [⟨.symbol .closeBrace, q⟩]))
        (entryChunks head p cs q) := .openBrace hu (hcuts _ _ (hend.bareClose q))
    rw [hlex]
    simpa using hall
  obtain ⟨o, ho, hcode, hremarks⟩ := hchunked.ofLexemes (by rw [hhead]; rfl) hcut
  refine ⟨Program.ofOutline (s.program b) o, ?_, ?_, ?_⟩
  · rw [Program.parse, ho]
    rfl
  · have hactions := b'.map_action_unplaced 0
    rw [hsame, b.map_action_unplaced] at hactions
    rw [Program.ofOutline, hcode, Block.flatten, Block.flatten, List.map_toArray, List.map_toArray,
      hactions]
  · rw [Program.ofOutline, hremarks]
    rfl

def Spacing.indented : Spacing where
  margin depth := String.ofList ('\n' :: List.replicate (2 * depth) ' ')
  gap := " "
  blank_margin depth := by
    simp only [String.toList_ofList, List.forall_mem_cons, List.mem_replicate]
    exact ⟨rfl, fun c hc => by rw [hc.2]; rfl⟩
  percent_notMem_gap := by decide

/-- A count from a negative number in which two variables and a character are read, behind a
    print of a text that needs escapes. -/
def countedReads : Block :=
  .loop (.statement .empty Location.start (.print [.literal "n\\\"\n", .var "n", .newline]))
    Location.start ⟨"i", -3, ⟨.var "i", .le, .lit (-1)⟩, "i"⟩
    (.statement (.statement .empty Location.start (.scan ["x", "y"] [.float, .char]))
      Location.start (.read "c" .character))
    Location.start

theorem parse_written_countedReads :
    Spacing.indented.program countedReads =
        "int main() \x7b\n" ++
        "  cout << \"n\\\\\\\"\\n\" << n << endl;\n" ++
        "  for (int i = -3; i <= -1; i++) \x7b\n" ++
        "    scanf(\"%f %c\", &x, &y);\n" ++
        "    char c = getchar();\n" ++
        "  \x7d\n\x7d" ∧
      countedReads.Writable ∧
      ∃ p, Program.parse .source (Spacing.indented.program countedReads) = .ok p ∧
        p.code.map Instruction.action =
          #[.perform (.print [.literal "n\\\"\n", .var "n", .newline]),
            .loopStart ⟨"i", -3, ⟨.var "i", .le, .lit (-1)⟩, "i"⟩ 4,
            .perform (.scan ["x", "y"] [.float, .char]), .perform (.read "c" .character),
            .loopEnd 1] ∧ p.skipped = [] := by
  have hprint : (Statement.print [.literal "n\\\"\n", .var "n", .newline]).Writable := by
    simp [Statement.Writable, PrintPart.Writable, show isName "n" = true from rfl]
  have hheader : (Loop.Header.mk "i" (-3) ⟨.var "i", .le, .lit (-1)⟩ "i").Writable :=
    ⟨rfl, by decide, rfl, show Int64.minValue < -1 by decide, rfl⟩
  have hscan : (Statement.scan ["x", "y"] [.float, .char]).Writable := by
    simp [Statement.Writable, show isName "x" = true from rfl, show isName "y" = true from rfl]
  have hread : (Statement.read "c" .character).Writable := ⟨rfl, by decide⟩
  have hw : countedReads.Writable := ⟨⟨trivial, hprint⟩, hheader, ⟨⟨trivial, hscan⟩, hread⟩⟩
  obtain ⟨p, hparse, hactions, hskipped⟩ := parse_written .indented hw
  refine ⟨by decide +kernel, hw, p, hparse, hactions.trans ?_, hskipped⟩
  decide +kernel

end ConsoleLab
