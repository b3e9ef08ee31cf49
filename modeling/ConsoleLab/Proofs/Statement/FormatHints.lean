/-
  ConsoleLab.Proofs.Statement.FormatHints — the hints of a format, item by item.

  Which hints a format gives is said by rules that go through its items (`HintsOf`): a
  conversion gives the hint that has its letter (`ScanHint.letters`), and no other item gives
  any. The rules leave no choice (`hintsOf_iff`), and reading the text of the format follows
  them, wherever one item ends and the next begins. Main fact: `hints_formatText_iff`.
-/

import ConsoleLab.Proofs.Statement.Scan

namespace ConsoleLab

/-! ## Letters and modifiers -/

def ScanHint.letters : ScanHint → List Char
  | integer => ['d', 'i', 'u']
  | float => ['f']
  | string => ['s']
  | char => ['c']

theorem ScanHint.ofConversion?_eq_some_iff {letter : Char} {hint : ScanHint} :
    ofConversion? letter = some hint ↔ letter ∈ hint.letters := by
  constructor
  · intro h
    unfold ofConversion? at h
    split at h <;> cases h <;> decide
  · intro h
    cases hint <;> simp only [letters, List.mem_cons, List.not_mem_nil, or_false] at h
    · rcases h with rfl | rfl | rfl <;> rfl
    all_goals
      subst h
      rfl

def ScanFormat.modifiers : List Char :=
  ['0', '1', '2', '3', '4', '5', '6', '7', '8', '9', 'l', 'h']

theorem ScanFormat.isModifier_iff {c : Char} : isModifier c = true ↔ c ∈ modifiers := by
  simp only [isModifier, modifiers, Bool.or_eq_true, Bool.and_eq_true, decide_eq_true_eq,
    beq_iff_eq, char_le_iff, List.mem_cons, List.not_mem_nil, or_false, ← Char.toNat_inj,
    Char.reduceToNat]
  omega

namespace FormatItem

/-- The item as it is spelled in a format: a text without percent sign, or a conversion with any
    modifiers and one letter that is none of them and no percent sign. -/
def Spelled : FormatItem → Prop
  | text characters => '%' ∉ characters
  | percent => True
  | conversion modifiers letter =>
    (∀ c ∈ modifiers, c ∈ ScanFormat.modifiers) ∧ letter ∉ ScanFormat.modifiers ∧ letter ≠ '%'

instance : (item : FormatItem) → Decidable item.Spelled
  | text characters => inferInstanceAs (Decidable ('%' ∉ characters))
  | percent => .isTrue trivial
  | conversion modifiers _ =>
    have : Decidable (∀ c ∈ modifiers, c ∈ ScanFormat.modifiers) := List.decidableBAll _ modifiers
    inferInstanceAs (Decidable (_ ∧ _ ∧ _))

theorem hint?_eq_some_iff {modifiers : List Char} {letter : Char} {hint : ScanHint} :
    (conversion modifiers letter).hint? = some hint ↔ letter ∈ hint.letters :=
  ScanHint.ofConversion?_eq_some_iff

theorem hint?_eq_none_iff {modifiers : List Char} {letter : Char} :
    (conversion modifiers letter).hint? = none ↔ ∀ hint : ScanHint, letter ∉ hint.letters := by
  simp only [Option.eq_none_iff_forall_ne_some, ne_eq, hint?_eq_some_iff]

theorem Spelled.valid {item : FormatItem} (h : item.Spelled) : item.Valid := by
  cases item with
  | text characters => exact h
  | percent => trivial
  | conversion modifiers letter =>
    obtain ⟨hmodifiers, hletter, hpercent⟩ := h
    refine ⟨List.all_eq_true.mpr fun c hc => ?_, ?_, hpercent⟩
    · exact ScanFormat.isModifier_iff.mpr (hmodifiers c hc)
    · exact Bool.eq_false_iff.mpr (mt ScanFormat.isModifier_iff.mp hletter)

end FormatItem

/-! ## Item by item -/

inductive HintsOf : List FormatItem → List ScanHint → Prop
  | nil : HintsOf [] []
  | text {characters items hints} : HintsOf items hints → HintsOf (.text characters :: items) hints
  | percent {items hints} : HintsOf items hints → HintsOf (.percent :: items) hints
  | known {modifiers letter hint items hints} : letter ∈ ScanHint.letters hint →
      HintsOf items hints → HintsOf (.conversion modifiers letter :: items) (hint :: hints)
  | unknown {modifiers letter items hints} : (∀ hint : ScanHint, letter ∉ hint.letters) →
      HintsOf items hints → HintsOf (.conversion modifiers letter :: items) hints

theorem hintsOf_iff {items : List FormatItem} {hints : List ScanHint} :
    HintsOf items hints ↔ items.filterMap FormatItem.hint? = hints := by
  constructor
  · intro h
    induction h with
    | nil => rfl
    | text _ ih => exact ih
    | percent _ ih => exact ih
    | known hletter _ ih =>
      rw [List.filterMap_cons_some (FormatItem.hint?_eq_some_iff.mpr hletter), ih]
    | unknown hletter _ ih =>
      rw [List.filterMap_cons_none (FormatItem.hint?_eq_none_iff.mpr hletter), ih]
  · rintro rfl
    induction items with
    | nil => exact .nil
    | cons item items ih =>
      cases item with
      | text characters => exact .text ih
      | percent => exact .percent ih
      | conversion modifiers letter =>
        cases hhint : (FormatItem.conversion modifiers letter).hint? with
        | none =>
          rw [List.filterMap_cons_none hhint]
          exact .unknown (FormatItem.hint?_eq_none_iff.mp hhint) ih
        | some hint =>
          rw [List.filterMap_cons_some hhint]
          exact .known (FormatItem.hint?_eq_some_iff.mp hhint) ih

/-- A format made of any items gives the hints of its items, and no others. -/
theorem hints_formatText_iff {items : List FormatItem} (h : ∀ item ∈ items, item.Spelled)
    {hints : List ScanHint} :
    ScanFormat.hints (formatText items) = hints ↔ HintsOf items hints := by
  have hvalid : ∀ item ∈ items, item.Valid := fun item hitem => (h item hitem).valid
  rw [ScanFormat.hints, formatText, String.toList_ofList, hintsFrom_items hvalid, hintsOf_iff]

/-- A format in which letters of conversions and modifiers also stand as text, and one conversion
    is of no known kind. -/
def crowdedFormat : List FormatItem :=
  [.text ['l'], .percent, .text ['d'], .conversion ['5', 'l'] 'f', .conversion ['h', 'h'] 'x',
    .conversion [] 's', .percent, .percent, .text ['c']]

theorem hints_formatText_iff_crowded :
    formatText crowdedFormat = "l%%d%5lf%hhx%s%%%%c" ∧
      (∀ item ∈ crowdedFormat, item.Spelled) ∧
      ScanFormat.hints (formatText crowdedFormat) = [.float, .string] := by
  have hspelled : ∀ item ∈ crowdedFormat, item.Spelled := by decide
  have hunknown : ∀ hint : ScanHint, 'x' ∉ hint.letters := by
    intro hint
    cases hint <;> decide
  refine ⟨by decide, hspelled, (hints_formatText_iff hspelled).mpr ?_⟩
  exact .text <| .percent <| .text <| .known (by decide) <| .unknown hunknown <|
    .known (by decide) <| .percent <| .percent <| .text .nil

end ConsoleLab
