/-
  ConsoleLab.Proofs.Loop.Written — loop headers as they are written.

  The written form of a header (`Header.written`) is read as its lexemes
  (`closed_written_header`), and these spell the header again (`parse_kinds`). The smallest
  64-bit integer has no written form: its digits are out of range before the minus sign
  is seen.
-/

import ConsoleLab.Proofs.Lexeme.Words
import ConsoleLab.Proofs.Loop.Grammar

namespace ConsoleLab.Loop

/-! ## Written forms -/

/-- A header as it is written, with the brace of its body. -/
def Header.written (h : Header) : String :=
  "for (int " ++ h.initName ++ " = " ++ Text.int64Text h.initValue ++ "; " ++
    h.condition.text ++ "; " ++ h.stepName ++ "++) \x7b"

def Operand.Writable : Operand → Prop
  | var name => isName name = true
  | lit value => Int64.minValue < value

/-- A header that can be written: its names are names and its numbers have a decimal form. -/
structure Header.Writable (h : Header) : Prop where
  init_name : isName h.initName = true
  init_value : Int64.minValue < h.initValue
  left : h.condition.left.Writable
  right : h.condition.right.Writable
  step_name : isName h.stepName = true

/-! ## The lexemes of a written form -/

def Operand.kinds : Operand → List LexemeKind
  | var name => [.ident name]
  | lit value => intKinds value

def Condition.kinds (c : Condition) : List LexemeKind :=
  c.left.kinds ++ .symbol c.comparison.symbol :: c.right.kinds

def Header.kinds (h : Header) : List LexemeKind :=
  .ident "for" :: .symbol .openParen ::
    ((.ident "int" :: .ident h.initName :: .symbol .assign :: intKinds h.initValue) ++
      .symbol .semicolon :: (h.condition.kinds ++
        .symbol .semicolon :: [.ident h.stepName, .symbol .increment]) ++ [.symbol .closeParen])

theorem word_operand {operand : Operand} (h : operand.Writable) :
    Word operand.text operand.kinds := by
  cases operand with
  | var name => exact word_name h
  | lit value => exact word_int64Text h

theorem word_condition {c : Condition} (hleft : c.left.Writable) (hright : c.right.Writable) :
    Word c.text c.kinds := by
  have hspace : Closed " " [] := closed_of_kindsBy 1 fun _ => rfl
  have hmark : Closed (c.comparison.text ++ " ") [.symbol c.comparison.symbol] := by
    cases c.comparison <;> exact closed_of_kindsBy 2 fun _ => rfl
  have hfront := ((word_operand hleft).close rfl rfl hspace).append hmark
  have hall := hfront.before (word_operand hright)
  simpa [Condition.text, Condition.kinds, String.append_assoc] using hall

/-- A written header is read as its lexemes and the brace of the body. -/
theorem closed_written_header {h : Header} (hw : h.Writable) :
    Closed h.written (h.kinds ++ [.symbol .openBrace]) := by
  have hfor : Closed "for (int " [.ident "for", .symbol .openParen, .ident "int"] :=
    closed_of_kindsBy 5 fun _ => rfl
  have hassign : Closed " = " [.symbol .assign] := closed_of_kindsBy 3 fun _ => rfl
  have hsemicolon : Closed "; " [.symbol .semicolon] := closed_of_kindsBy 2 fun _ => rfl
  have hstep : Closed "++) \x7b" [.symbol .increment, .symbol .closeParen, .symbol .openBrace] :=
    closed_of_kindsBy 4 fun _ => rfl
  have hstart := (hfor.before (word_name hw.init_name)).close rfl rfl hassign
  have hvalue := (hstart.before (word_int64Text hw.init_value)).close rfl rfl hsemicolon
  have hcondition := (hvalue.before (word_condition hw.left hw.right)).close rfl rfl hsemicolon
  have hkinds : h.kinds ++ [.symbol .openBrace] =
      [.ident "for", .symbol .openParen, .ident "int"] ++ [.ident h.initName] ++
        [.symbol .assign] ++ intKinds h.initValue ++ [.symbol .semicolon] ++ h.condition.kinds ++
        [.symbol .semicolon] ++ [.ident h.stepName] ++
        [.symbol .increment, .symbol .closeParen, .symbol .openBrace] := by
    simp [Header.kinds]
  rw [hkinds]
  exact (hcondition.before (word_name hw.step_name)).close rfl rfl hstep

/-! ## Reading the lexemes back -/

theorem spellsInt_intKinds (n : Int64) : SpellsInt (intKinds n) n := by
  unfold intKinds
  split
  · have hminus := SpellsInt.minus (-n)
    rwa [Int64.neg_neg] at hminus
  · exact .plain n

theorem spellsOperand_kinds (operand : Operand) : SpellsOperand operand.kinds operand := by
  cases operand with
  | var name => exact .var name
  | lit value => exact .lit (spellsInt_intKinds value)

theorem parse_kinds (h : Header) : Header.parse h.kinds = .ok h :=
  Header.parse_eq_ok_iff.mpr <| .loop (.typed "int" _ (spellsInt_intKinds _))
    (.compare (spellsOperand_kinds _) (spellsOperand_kinds _)) (.after _)

end ConsoleLab.Loop
