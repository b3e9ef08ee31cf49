/-
  ConsoleLab.Proofs.Program.PrintOrder — the order of printing.

  Literals first, the parts of a print are its literals, its variables and at most one newline
  (`arrange_literalsFirst`), and to arrange them again changes nothing (`arrange_twice`). Prints
  apart, both orders recognise the same (`between_literalsFirst`), so the reading for one
  order is that for the other with the prints arranged. Main fact: the two programs of a text
  differ in the parts of their prints only (`parse_literalsFirst`).
-/

import ConsoleLab.Program.Basic
import ConsoleLab.Proofs.Program.Translation
import ConsoleLab.Proofs.Statement.WellFormed

namespace ConsoleLab

open Source (Location)

/-! ## The parts of a print -/

namespace PrintPart

def literal? : PrintPart → Option String
  | literal text => some text
  | _ => none

def var? : PrintPart → Option String
  | var name => some name
  | _ => none

end PrintPart

/-- `parts'` are the literals of `parts` in their order, then the variables in theirs, then one
    newline if there was any. -/
def LiteralsFirst (parts parts' : List PrintPart) : Prop :=
  parts' = (parts.filterMap PrintPart.literal?).map PrintPart.literal ++
    (parts.filterMap PrintPart.var?).map PrintPart.var ++
      if PrintPart.newline ∈ parts then [.newline] else []

theorem filter_eq_map {p : PrintPart → Bool} {f : PrintPart → Option String}
    {g : String → PrintPart} (hp : ∀ part, p part = true → ∃ text, f part = some text ∧ g text = part)
    (hn : ∀ part, p part = false → f part = none) (parts : List PrintPart) :
    parts.filter p = (parts.filterMap f).map g := by
  induction parts with
  | nil => rfl
  | cons part parts ih =>
    cases hpart : p part with
    | true =>
      obtain ⟨text, htext, hback⟩ := hp part hpart
      rw [List.filter_cons_of_pos hpart, List.filterMap_cons_some htext, List.map_cons, hback, ih]
    | false =>
      rw [List.filter_cons_of_neg (by simp [hpart]), List.filterMap_cons_none (hn part hpart), ih]

theorem filter_isLiteral (parts : List PrintPart) :
    parts.filter PrintPart.isLiteral =
      (parts.filterMap PrintPart.literal?).map PrintPart.literal := by
  refine filter_eq_map (fun part h => ?_) (fun part h => ?_) parts
  · cases part with
    | literal text => exact ⟨text, rfl, rfl⟩
    | var | newline => cases h
  · cases part with
    | literal text => cases h
    | var | newline => rfl

theorem filter_isVar (parts : List PrintPart) :
    parts.filter PrintPart.isVar = (parts.filterMap PrintPart.var?).map PrintPart.var := by
  refine filter_eq_map (fun part h => ?_) (fun part h => ?_) parts
  · cases part with
    | var name => exact ⟨name, rfl, rfl⟩
    | literal | newline => cases h
  · cases part with
    | var name => cases h
    | literal | newline => rfl

theorem any_isNewline (parts : List PrintPart) :
    parts.any PrintPart.isNewline = true ↔ PrintPart.newline ∈ parts := by
  induction parts with
  | nil => simp
  | cons part parts ih =>
    cases part <;> simp [PrintPart.isNewline, ih]

theorem arrange_literalsFirst (parts : List PrintPart) :
    LiteralsFirst parts (PrintOrder.literalsFirst.arrange parts) := by
  simp only [LiteralsFirst, PrintOrder.arrange, filter_isLiteral, filter_isVar, any_isNewline]

/-- Of two newlines one is left, behind the variables. -/
example : PrintOrder.literalsFirst.arrange
    [.var "a", .newline, .literal "x", .newline, .var "b", .literal "y"] =
      [.literal "x", .literal "y", .var "a", .var "b", .newline] := by
  decide

theorem arrange_twice (parts : List PrintPart) :
    PrintOrder.literalsFirst.arrange (PrintOrder.literalsFirst.arrange parts) =
      PrintOrder.literalsFirst.arrange parts := by
  have hliterals : (PrintOrder.literalsFirst.arrange parts).filterMap PrintPart.literal? =
      parts.filterMap PrintPart.literal? := by
    have hvars : ∀ names : List String,
        (names.map PrintPart.var).filterMap PrintPart.literal? = [] := by
      intro names
      simp [List.filterMap_eq_nil_iff, PrintPart.literal?]
    rw [arrange_literalsFirst parts, List.filterMap_append, List.filterMap_append, hvars,
      List.filterMap_map, List.append_nil]
    split
    · simp [Function.comp_def, PrintPart.literal?]
    · simp [Function.comp_def, PrintPart.literal?]
  have hvars : (PrintOrder.literalsFirst.arrange parts).filterMap PrintPart.var? =
      parts.filterMap PrintPart.var? := by
    have hliterals : ∀ texts : List String,
        (texts.map PrintPart.literal).filterMap PrintPart.var? = [] := by
      intro texts
      simp [List.filterMap_eq_nil_iff, PrintPart.var?]
    rw [arrange_literalsFirst parts, List.filterMap_append, List.filterMap_append, hliterals,
      List.filterMap_map, List.nil_append]
    split
    · simp [Function.comp_def, PrintPart.var?]
    · simp [Function.comp_def, PrintPart.var?]
  have hnewline : PrintPart.newline ∈ PrintOrder.literalsFirst.arrange parts ↔
      PrintPart.newline ∈ parts := by
    rw [arrange_literalsFirst parts]
    simp
  have hagain := arrange_literalsFirst (PrintOrder.literalsFirst.arrange parts)
  rw [LiteralsFirst, hliterals, hvars] at hagain
  simp only [hnewline] at hagain
  rw [hagain, ← arrange_literalsFirst parts]

/-! ## One statement -/

def Statement.arranged : Statement → Statement
  | .print parts => .print (PrintOrder.literalsFirst.arrange parts)
  | .read name mode => .read name mode
  | .scan names hints => .scan names hints

namespace Recognize

/-- Nothing of what was recognised prints, so nothing of it is arranged. -/
theorem mapStatements_arranged {P : Statement → Prop} {r : Recognized} (h : Makes P r)
    (hP : ∀ what, P what → what.arranged = what) : r.mapStatements Statement.arranged = r := by
  cases r with
  | statements all =>
    obtain ⟨what, rfl, hwhat⟩ := h all rfl
    rw [Recognized.mapStatements, List.map_singleton, hP what hwhat]
  | silent => rfl
  | skipped reason => rfl

theorem IsRead.arranged (what : Statement) (h : IsRead what) : what.arranged = what := by
  obtain ⟨name, mode, rfl⟩ := h
  rfl

theorem IsScan.arranged (what : Statement) (h : IsScan what) : what.arranged = what := by
  obtain ⟨names, hints, rfl, -, -⟩ := h
  rfl

theorem read_arranged (rest : List LexemeKind) :
    (Recognize.read rest).mapStatements Statement.arranged = Recognize.read rest := by
  cases hread : Recognize.read rest with
  | statements all =>
    obtain ⟨names, rfl⟩ := names_of_read hread
    simp [Recognized.mapStatements, Statement.arranged]
  | silent => rfl
  | skipped reason => rfl

/-- A print is recognised in both orders, with the same parts. -/
theorem print_literalsFirst (rest : List LexemeKind) :
    print .literalsFirst rest = (print .source rest).mapStatements Statement.arranged := by
  unfold print
  split
  · rfl
  · split <;> rfl

end Recognize

def Translation.literalsFirst : Translation where
  place := id
  line := id
  line_place _ := rfl
  what := Statement.arranged

open Recognize in
theorem between_literalsFirst :
    Translation.literalsFirst.Between .source .literalsFirst := by
  intro kinds
  unfold recognize
  split
  · rfl
  · rename_i word rest _
    cases Opening.ofWord word with
    | print => exact print_literalsFirst rest
    | read => exact (read_arranged rest).symm
    | scan => exact (mapStatements_arranged (makes_scan rest) IsScan.arranged).symm
    | line => exact (mapStatements_arranged (makes_line rest) IsRead.arranged).symm
    | streamLine => exact (mapStatements_arranged (makes_streamLine rest) IsRead.arranged).symm
    | character =>
      dsimp only
      split
      · rfl
      · exact (mapStatements_arranged (makes_named word rest) IsRead.arranged).symm
    | typeName => exact (mapStatements_arranged (makes_declaration rest) IsRead.arranged).symm
    | other => exact (mapStatements_arranged (makes_named word rest) IsRead.arranged).symm
    | silent => rfl
    | formattedPrint | jump | control => rfl
  · rfl

/-! ## Whole programs -/

def Action.Arranged : Action → Action → Prop
  | .perform (.print parts), a' => ∃ parts', a' = .perform (.print parts') ∧
      LiteralsFirst parts parts'
  | a, a' => a' = a

structure Program.Arranged (p p' : Program) : Prop where
  skipped_eq : p'.skipped = p.skipped
  size_eq : p'.code.size = p.code.size
  place_eq : ∀ (k : Nat) (i i' : Instruction), p.code[k]? = some i → p'.code[k]? = some i' →
    i'.place = i.place
  arranged : ∀ (k : Nat) (i i' : Instruction), p.code[k]? = some i → p'.code[k]? = some i' →
    i.action.Arranged i'.action

theorem arranged_action (a : Action) : a.Arranged (Translation.literalsFirst.action a) := by
  cases a with
  | perform what =>
    cases what with
    | print parts => exact ⟨_, rfl, arrange_literalsFirst parts⟩
    | read name mode => rfl
    | scan names hints => rfl
  | loopStart header stop => rfl
  | loopEnd start => rfl

theorem ofLexemes_literalsFirst (lexemes : List Lexeme) :
    Outline.ofLexemes .literalsFirst lexemes =
      Translation.literalsFirst.result (Outline.ofLexemes .source lexemes) := by
  have hsame : lexemes.map Translation.literalsFirst.lexeme = lexemes := List.map_id lexemes
  rw [← Translation.ofLexemes_translate between_literalsFirst, hsame]

theorem mapLines_id (e : StructuralError) : e.mapLines id = e := by
  cases e <;> rfl

theorem arranged_ofOutline (source : String) (o : Outline) :
    (Program.ofOutline source o).Arranged
      (Program.ofOutline source (Translation.literalsFirst.outline o)) := by
  have hcode : ∀ (k : Nat) (i i' : Instruction), o.code[k]? = some i →
      (o.code.map Translation.literalsFirst.instruction)[k]? = some i' →
      i' = Translation.literalsFirst.instruction i := by
    intro k i i' hi hi'
    rw [Array.getElem?_map, hi] at hi'
    exact (Option.some.inj hi').symm
  constructor
  case skipped_eq =>
    have hremarks : o.remarks.map Translation.literalsFirst.remark = o.remarks :=
      List.map_id o.remarks
    simp only [Program.ofOutline, Translation.outline, hremarks]
  case size_eq => exact Array.size_map
  case place_eq =>
    intro k i i' hi hi'
    rw [hcode k i i' hi hi']
    rfl
  case arranged =>
    intro k i i' hi hi'
    rw [hcode k i i' hi hi']
    exact arranged_action i.action

/-- Whatever the text, both orders give the same error or programs that differ in the order of the
    parts of their prints only; and an arranged print is arranged for good. -/
theorem parse_literalsFirst (source : String) :
    (match Program.parse .source source, Program.parse .literalsFirst source with
      | .ok p, .ok p' => p.Arranged p'
      | .error e, .error e' => e' = e
      | _, _ => False) ∧
    ∀ parts, PrintOrder.literalsFirst.arrange (PrintOrder.literalsFirst.arrange parts) =
      PrintOrder.literalsFirst.arrange parts := by
  refine ⟨?_, arrange_twice⟩
  unfold Program.parse
  rw [ofLexemes_literalsFirst]
  cases Outline.ofLexemes .source (lex source) with
  | error e => exact mapLines_id e
  | ok o => exact arranged_ofOutline source o

end ConsoleLab
