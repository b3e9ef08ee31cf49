/-
  ConsoleLab.Proofs.Loop.Derivation — how the grammar derives a header.

  A header can be written in several forms: with or without a type, with `++` on either side of
  the variable, and each number behind a minus sign or not (`Header.Form`). The lexemes of a form
  are a header of the grammar (`spells_kinds`), every header of the grammar has a form
  (`exists_form_of_spells`), and a list of lexemes has one form at most (`kinds_injective`).
  Where no number is negative by itself, putting a minus sign in front of it stays in range
  (`Numeral.toInt_value`). Main fact: `parse_iff_form`, a header is read if its lexemes have a
  form, and it is read as what that form denotes.
-/

import ConsoleLab.Proofs.Loop.Grammar
import Mathlib.Data.List.Basic
import Mathlib.Logic.ExistsUnique

namespace ConsoleLab.Loop

/-! ## Forms -/

/-- A number as it is written, behind a minus sign or not. -/
structure Numeral where
  negated : Bool
  magnitude : Int64
  deriving DecidableEq

namespace Numeral

def kinds (n : Numeral) : List LexemeKind :=
  if n.negated then [.symbol .minus, .int n.magnitude] else [.int n.magnitude]

def toInt (n : Numeral) : Int :=
  if n.negated then -n.magnitude.toInt else n.magnitude.toInt

def value (n : Numeral) : Int64 :=
  if n.negated then -n.magnitude else n.magnitude

end Numeral

inductive OperandForm
  | var (name : String)
  | lit (numeral : Numeral)
  deriving DecidableEq

namespace OperandForm

def kinds : OperandForm → List LexemeKind
  | var name => [.ident name]
  | lit numeral => numeral.kinds

def operand : OperandForm → Operand
  | var name => .var name
  | lit numeral => .lit numeral.value

inductive Denotes : OperandForm → Operand → Prop
  | var (name : String) : Denotes (.var name) (.var name)
  | lit {numeral : Numeral} {value : Int64} : value.toInt = numeral.toInt →
      Denotes (.lit numeral) (.lit value)

end OperandForm

namespace Header

structure Form where
  /-- The name in front of the first variable, if there is one. -/
  type? : Option String
  initName : String
  initValue : Numeral
  left : OperandForm
  comparison : Comparison
  right : OperandForm
  prefixed : Bool
  stepName : String
  deriving DecidableEq

namespace Form

def startKinds (f : Form) : List LexemeKind :=
  (f.type?.map LexemeKind.ident).toList ++
    .ident f.initName :: .symbol .assign :: f.initValue.kinds

def conditionKinds (f : Form) : List LexemeKind :=
  f.left.kinds ++ .symbol f.comparison.symbol :: f.right.kinds

def stepKinds (f : Form) : List LexemeKind :=
  if f.prefixed then [.symbol .increment, .ident f.stepName]
  else [.ident f.stepName, .symbol .increment]

def kinds (f : Form) : List LexemeKind :=
  .ident "for" :: .symbol .openParen ::
    (f.startKinds ++ .symbol .semicolon :: (f.conditionKinds ++ .symbol .semicolon :: f.stepKinds) ++
      [.symbol .closeParen])

def header (f : Form) : Header :=
  ⟨f.initName, f.initValue.value, ⟨f.left.operand, f.comparison, f.right.operand⟩, f.stepName⟩

/-- The header has the names, the comparison and the numbers of the form. -/
structure Denotes (f : Form) (h : Header) : Prop where
  initName : h.initName = f.initName
  initValue : h.initValue.toInt = f.initValue.toInt
  left : f.left.Denotes h.condition.left
  comparison : h.condition.comparison = f.comparison
  right : f.right.Denotes h.condition.right
  stepName : h.stepName = f.stepName

end Form

end Header

/-! ## Forms and the grammar -/

theorem Numeral.spells_kinds (n : Numeral) : SpellsInt n.kinds n.value := by
  unfold Numeral.kinds Numeral.value
  split
  · exact .minus _
  · exact .plain _

theorem OperandForm.spells_kinds (f : OperandForm) : SpellsOperand f.kinds f.operand := by
  cases f with
  | var name => exact .var name
  | lit numeral => exact .lit numeral.spells_kinds

theorem exists_numeral_of_spells {kinds : List LexemeKind} {value : Int64}
    (h : SpellsInt kinds value) : ∃ n : Numeral, n.kinds = kinds := by
  cases h with
  | plain value => exact ⟨⟨false, value⟩, rfl⟩
  | minus value => exact ⟨⟨true, value⟩, rfl⟩

theorem exists_operandForm_of_spells {kinds : List LexemeKind} {operand : Operand}
    (h : SpellsOperand kinds operand) : ∃ f : OperandForm, f.kinds = kinds := by
  cases h with
  | var name => exact ⟨.var name, rfl⟩
  | lit hv =>
    obtain ⟨n, hn⟩ := exists_numeral_of_spells hv
    exact ⟨.lit n, hn⟩

namespace Header

theorem Form.spells_startKinds (f : Form) :
    SpellsStart f.startKinds f.initName f.initValue.value := by
  unfold Form.startKinds
  cases f.type? with
  | none => exact .bare _ f.initValue.spells_kinds
  | some type => exact .typed type _ f.initValue.spells_kinds

theorem Form.spells_stepKinds (f : Form) : SpellsStep f.stepKinds f.stepName := by
  unfold Form.stepKinds
  split
  · exact .before _
  · exact .after _

theorem Form.spells_conditionKinds (f : Form) :
    SpellsCondition f.conditionKinds f.header.condition :=
  .compare (c := f.header.condition) f.left.spells_kinds f.right.spells_kinds

theorem Form.spells_kinds (f : Form) : Spells f.kinds f.header :=
  .loop f.spells_startKinds f.spells_conditionKinds f.spells_stepKinds

theorem exists_form_of_spells {kinds : List LexemeKind} {header : Header}
    (h : Spells kinds header) : ∃ f : Form, f.kinds = kinds := by
  cases h with
  | @loop start condition step header hstart hcondition hstep =>
    obtain ⟨type?, initName, initValue, hs⟩ : ∃ (type? : Option String) (initName : String)
        (initValue : Numeral), start = (type?.map LexemeKind.ident).toList ++
          .ident initName :: .symbol .assign :: initValue.kinds := by
      cases hstart with
      | typed type name hv =>
        obtain ⟨n, rfl⟩ := exists_numeral_of_spells hv
        exact ⟨some type, _, n, rfl⟩
      | bare name hv =>
        obtain ⟨n, rfl⟩ := exists_numeral_of_spells hv
        exact ⟨none, _, n, rfl⟩
    obtain ⟨left, comparison, right, hc⟩ : ∃ (left : OperandForm) (comparison : Comparison)
        (right : OperandForm), condition =
          left.kinds ++ .symbol comparison.symbol :: right.kinds := by
      cases hcondition with
      | compare hl hr =>
        obtain ⟨left, rfl⟩ := exists_operandForm_of_spells hl
        obtain ⟨right, rfl⟩ := exists_operandForm_of_spells hr
        exact ⟨left, _, right, rfl⟩
    obtain ⟨prefixed, stepName, ht⟩ : ∃ (prefixed : Bool) (stepName : String), step =
        if prefixed then [.symbol .increment, .ident stepName]
        else [.ident stepName, .symbol .increment] := by
      cases hstep with
      | after name => exact ⟨false, _, rfl⟩
      | before name => exact ⟨true, _, rfl⟩
    subst hs hc ht
    exact ⟨⟨type?, initName, initValue, left, comparison, right, prefixed, stepName⟩, rfl⟩

end Header

/-! ## A list of lexemes has one form at most -/

theorem Numeral.kinds_injective {n n' : Numeral} (h : n.kinds = n'.kinds) : n = n' := by
  obtain ⟨negated, magnitude⟩ := n
  obtain ⟨negated', magnitude'⟩ := n'
  cases negated <;> cases negated' <;> simp_all [kinds]

theorem Comparison.symbol_injective {c c' : Comparison} (h : c.symbol = c'.symbol) : c = c' := by
  have hc := ofLexeme?_symbol c
  rw [h, ofLexeme?_symbol] at hc
  exact (Option.some.inj hc).symm

theorem OperandForm.kinds_injective {f f' : OperandForm} (h : f.kinds = f'.kinds) : f = f' := by
  have hvar : ∀ (name : String) (n : Numeral), n.kinds ≠ [.ident name] := by
    intro name n
    unfold Numeral.kinds
    split <;> simp
  cases f with
  | var name =>
    cases f' with
    | var name' => simpa [kinds] using h
    | lit n' => exact absurd h.symm (hvar name n')
  | lit n =>
    cases f' with
    | var name' => exact absurd h (hvar name' n)
    | lit n' => exact congrArg _ (Numeral.kinds_injective h)

namespace Header.Form

theorem startKinds_injective {f f' : Form} (h : f.startKinds = f'.startKinds) :
    f.type? = f'.type? ∧ f.initName = f'.initName ∧ f.initValue = f'.initValue := by
  unfold startKinds at h
  cases ht : f.type? <;> cases ht' : f'.type? <;> simp [ht, ht'] at h
  · exact ⟨rfl, h.1, Numeral.kinds_injective h.2⟩
  · exact ⟨by rw [h.1], h.2.1, Numeral.kinds_injective h.2.2⟩

/-- The comparison is found in the condition, since no operand holds one. -/
theorem conditionKinds_injective {f f' : Form} (h : f.conditionKinds = f'.conditionKinds) :
    f.left = f'.left ∧ f.comparison = f'.comparison ∧ f.right = f'.right := by
  have hplain : ∀ (operand : OperandForm) (c : Comparison),
      LexemeKind.symbol c.symbol ∉ operand.kinds := by
    intro operand c hmem
    have hnone := not_comparison_of_operand operand.spells_kinds _ hmem
    rw [Comparison.ofLexeme?_symbol] at hnone
    cases hnone
  obtain ⟨hleft, hmark, hright⟩ :=
    (List.append_cons_inj_of_notMem (hplain _ _) (hplain _ _)).mp h
  exact ⟨OperandForm.kinds_injective hleft,
    Comparison.symbol_injective (LexemeKind.symbol.inj hmark), OperandForm.kinds_injective hright⟩

theorem stepKinds_injective {f f' : Form} (h : f.stepKinds = f'.stepKinds) :
    f.prefixed = f'.prefixed ∧ f.stepName = f'.stepName := by
  unfold stepKinds at h
  cases hp : f.prefixed <;> cases hp' : f'.prefixed <;> simp_all

theorem sections_plain (f : Form) :
    ∀ part ∈ [f.startKinds, f.conditionKinds, f.stepKinds], LexemeKind.symbol .semicolon ∉ part := by
  simp [semicolon_notMem_start f.spells_startKinds,
    semicolon_notMem_condition f.spells_conditionKinds, semicolon_notMem_step f.spells_stepKinds]

/-- A list of lexemes is derived in one way at most. -/
theorem kinds_injective {f f' : Form} (h : f.kinds = f'.kinds) : f = f' := by
  unfold kinds at h
  have hinner := List.append_cancel_right (List.cons.inj (List.cons.inj h).2).2
  have hsections := splitOn_sections f.sections_plain
  rw [hinner, splitOn_sections f'.sections_plain] at hsections
  injection hsections with hstart hsections
  injection hsections with hcondition hsections
  injection hsections with hstep _
  obtain ⟨htype, hname, hvalue⟩ := startKinds_injective hstart.symm
  obtain ⟨hleft, hcomparison, hright⟩ := conditionKinds_injective hcondition.symm
  obtain ⟨hprefixed, hstepName⟩ := stepKinds_injective hstep.symm
  cases f
  cases f'
  simp_all

end Header.Form

/-! ## Numbers stay in range -/

/-- A number that is not negative can be negated in 64 bits. -/
theorem Numeral.toInt_value {n : Numeral} (h : 0 ≤ n.magnitude) : n.value.toInt = n.toInt := by
  have hlow : (0 : Int) ≤ n.magnitude.toInt := Int64.le_iff_toInt_le.mp h
  have hhigh := n.magnitude.toInt_le
  unfold Numeral.value Numeral.toInt
  split
  · rw [Int64.toInt_neg]
    rw [show Int64.maxValue.toInt = 2 ^ 63 - 1 from rfl] at hhigh
    exact Int.bmod_eq_of_le (by omega) (by omega)
  · rfl

theorem Numeral.magnitude_mem_kinds (n : Numeral) : LexemeKind.int n.magnitude ∈ n.kinds := by
  unfold Numeral.kinds
  split <;> simp

theorem OperandForm.denotes_iff {f : OperandForm} {operand : Operand}
    (h : ∀ value, LexemeKind.int value ∈ f.kinds → 0 ≤ value) :
    f.Denotes operand ↔ operand = f.operand := by
  constructor
  · intro hd
    cases hd with
    | var name => rfl
    | @lit numeral value hv =>
      rw [← Numeral.toInt_value (h _ numeral.magnitude_mem_kinds), Int64.toInt_inj] at hv
      rw [hv]
      rfl
  · rintro rfl
    cases f with
    | var name => exact .var name
    | lit numeral => exact .lit (Numeral.toInt_value (h _ numeral.magnitude_mem_kinds))

/-- Where no number is negative by itself, a form denotes the header it stands for and no
    other. -/
theorem Header.Form.denotes_iff {f : Form} {header : Header}
    (h : ∀ value, LexemeKind.int value ∈ f.kinds → 0 ≤ value) :
    f.Denotes header ↔ header = f.header := by
  have hinit : 0 ≤ f.initValue.magnitude :=
    h _ (by simp [kinds, startKinds, f.initValue.magnitude_mem_kinds])
  have hleft : ∀ value, LexemeKind.int value ∈ f.left.kinds → 0 ≤ value :=
    fun value hv => h value (by simp [kinds, conditionKinds, hv])
  have hright : ∀ value, LexemeKind.int value ∈ f.right.kinds → 0 ≤ value :=
    fun value hv => h value (by simp [kinds, conditionKinds, hv])
  constructor
  · intro hd
    have hvalue : header.initValue = f.initValue.value := by
      rw [← Int64.toInt_inj, Numeral.toInt_value hinit, hd.initValue]
    obtain ⟨initName, initValue, ⟨left, comparison, right⟩, stepName⟩ := header
    rw [Form.header, ← (OperandForm.denotes_iff hleft).mp hd.left,
      ← (OperandForm.denotes_iff hright).mp hd.right, ← hvalue, ← hd.initName, ← hd.comparison,
      ← hd.stepName]
  · rintro rfl
    exact {
      initName := rfl
      initValue := Numeral.toInt_value hinit
      left := (OperandForm.denotes_iff hleft).mpr rfl
      comparison := rfl
      right := (OperandForm.denotes_iff hright).mpr rfl
      stepName := rfl }

/-! ## Reading a header -/

namespace Header

/-- Where no number is negative by itself: a header is read exactly if its lexemes are derived in
    one way by the grammar, it is read as what they denote there, and any other lexemes are
    refused. -/
theorem parse_iff_form {kinds : List LexemeKind}
    (h : ∀ value, LexemeKind.int value ∈ kinds → 0 ≤ value) :
    ((∃ header, parse kinds = .ok header) ↔ ∃! f : Form, f.kinds = kinds) ∧
      (∀ f : Form, f.kinds = kinds → ∀ header, parse kinds = .ok header ↔ f.Denotes header) ∧
      ((∀ f : Form, f.kinds ≠ kinds) → ∃ fault, parse kinds = .error fault) := by
  refine ⟨⟨?_, ?_⟩, ?_, ?_⟩
  · intro hok
    obtain ⟨header, hok⟩ := hok
    obtain ⟨f, hf⟩ := exists_form_of_spells (parse_eq_ok_iff.mp hok)
    exact ⟨f, hf, fun f' hf' => Form.kinds_injective (hf'.trans hf.symm)⟩
  · intro hform
    obtain ⟨f, rfl, -⟩ := hform
    exact ⟨f.header, parse_eq_ok_iff.mpr f.spells_kinds⟩
  · rintro f rfl header
    have hparse : parse f.kinds = .ok f.header := parse_eq_ok_iff.mpr f.spells_kinds
    rw [hparse, Form.denotes_iff h, Except.ok.injEq, eq_comm]
  · intro hnone
    cases hparse : parse kinds with
    | error fault => exact ⟨fault, rfl⟩
    | ok header =>
      obtain ⟨f, hf⟩ := exists_form_of_spells (parse_eq_ok_iff.mp hparse)
      exact absurd hf (hnone f)

/-- `for (int k = -3; -9 != n; ++k)`. -/
def fromMinusThree : Form :=
  ⟨some "int", "k", ⟨true, 3⟩, .lit ⟨true, 9⟩, .ne, .var "n", true, "k"⟩

theorem parse_iff_form_fromMinusThree :
    (∀ value, LexemeKind.int value ∈ fromMinusThree.kinds → 0 ≤ value) ∧
      (∃! f : Form, f.kinds = fromMinusThree.kinds) ∧
      parse fromMinusThree.kinds = .ok ⟨"k", -3, ⟨.lit (-9), .ne, .var "n"⟩, "k"⟩ ∧
      fromMinusThree.Denotes ⟨"k", -3, ⟨.lit (-9), .ne, .var "n"⟩, "k"⟩ := by
  have hnumbers : ∀ value, LexemeKind.int value ∈ fromMinusThree.kinds → 0 ≤ value := by
    intro value hv
    have hcases : value = 3 ∨ value = 9 := by
      simpa [fromMinusThree, Form.kinds, Form.startKinds, Form.conditionKinds, Form.stepKinds,
        Numeral.kinds, OperandForm.kinds] using hv
    rcases hcases with rfl | rfl <;> decide
  have hparse : parse fromMinusThree.kinds = .ok ⟨"k", -3, ⟨.lit (-9), .ne, .var "n"⟩, "k"⟩ := by
    decide +kernel
  obtain ⟨hok, hdenotes, -⟩ := parse_iff_form hnumbers
  exact ⟨hnumbers, hok.mp ⟨_, hparse⟩, hparse, (hdenotes _ rfl _).mp hparse⟩

end Header

end ConsoleLab.Loop
