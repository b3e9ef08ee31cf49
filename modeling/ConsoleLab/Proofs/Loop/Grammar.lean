/-
  ConsoleLab.Proofs.Loop.Grammar — the form of a counting-loop header.

  The grammar of a header is given by rules (`Header.Spells`), each with what its part
  stands for. Reading a header accepts what the rules spell and nothing else, and reads it
  as they do (`parse_eq_ok_iff`).
-/

import ConsoleLab.Loop.Header

namespace ConsoleLab.Loop

/-! ## The rules -/

inductive SpellsInt : List LexemeKind → Int64 → Prop
  | plain (value : Int64) : SpellsInt [.int value] value
  | minus (value : Int64) : SpellsInt [.symbol .minus, .int value] (-value)

inductive SpellsOperand : List LexemeKind → Operand → Prop
  | var (name : String) : SpellsOperand [.ident name] (.var name)
  | lit {kinds : List LexemeKind} {value : Int64} : SpellsInt kinds value →
      SpellsOperand kinds (.lit value)

inductive SpellsStart : List LexemeKind → String → Int64 → Prop
  | typed (type name : String) {kinds : List LexemeKind} {value : Int64} : SpellsInt kinds value →
      SpellsStart (.ident type :: .ident name :: .symbol .assign :: kinds) name value
  | bare (name : String) {kinds : List LexemeKind} {value : Int64} : SpellsInt kinds value →
      SpellsStart (.ident name :: .symbol .assign :: kinds) name value

inductive SpellsCondition : List LexemeKind → Condition → Prop
  | compare {left right : List LexemeKind} {c : Condition} : SpellsOperand left c.left →
      SpellsOperand right c.right →
      SpellsCondition (left ++ .symbol c.comparison.symbol :: right) c

inductive SpellsStep : List LexemeKind → String → Prop
  | after (name : String) : SpellsStep [.ident name, .symbol .increment] name
  | before (name : String) : SpellsStep [.symbol .increment, .ident name] name

inductive Header.Spells : List LexemeKind → Header → Prop
  | loop {start condition step : List LexemeKind} {header : Header} :
      SpellsStart start header.initName header.initValue →
      SpellsCondition condition header.condition → SpellsStep step header.stepName →
      Spells (.ident "for" :: .symbol .openParen ::
        (start ++ .symbol .semicolon :: (condition ++ .symbol .semicolon :: step) ++
          [.symbol .closeParen])) header

/-! ## Reading the parts -/

namespace Header

theorem readInt?_eq_some_iff {kinds : List LexemeKind} {value : Int64} :
    readInt? kinds = some value ↔ SpellsInt kinds value := by
  constructor
  · intro h
    unfold readInt? at h
    split at h
    · cases h; exact .plain _
    · cases h; exact .minus _
    · cases h
  · intro h
    cases h with
    | plain | minus => rfl

theorem readOperand?_eq_some_iff {kinds : List LexemeKind} {operand : Operand} :
    readOperand? kinds = some operand ↔ SpellsOperand kinds operand := by
  constructor
  · intro h
    unfold readOperand? at h
    split at h
    · cases h; exact .var _
    · obtain ⟨value, hv, rfl⟩ := Option.map_eq_some_iff.mp h
      exact .lit (readInt?_eq_some_iff.mp hv)
  · intro h
    cases h with
    | var name => rfl
    | lit hv =>
      cases hv with
      | plain | minus => rfl

theorem readStart?_eq_some_iff {kinds : List LexemeKind} {name : String} {value : Int64} :
    readStart? kinds = some (name, value) ↔ SpellsStart kinds name value := by
  constructor
  · intro h
    unfold readStart? at h
    split at h
    · obtain ⟨v, hv, heq⟩ := Option.map_eq_some_iff.mp h
      cases heq
      exact .typed _ _ (readInt?_eq_some_iff.mp hv)
    · obtain ⟨v, hv, heq⟩ := Option.map_eq_some_iff.mp h
      cases heq
      exact .bare _ (readInt?_eq_some_iff.mp hv)
    · cases h
  · intro h
    cases h with
    | typed type name hv | bare name hv =>
      simp only [readStart?, readInt?_eq_some_iff.mpr hv, Option.map_some]

theorem readStep?_eq_some_iff {kinds : List LexemeKind} {name : String} :
    readStep? kinds = some name ↔ SpellsStep kinds name := by
  constructor
  · intro h
    unfold readStep? at h
    split at h
    · cases h; exact .after _
    · cases h; exact .before _
    · cases h
  · intro h
    cases h with
    | after | before => rfl

theorem eq_symbol_of_ofLexeme? {kind : LexemeKind} {c : Comparison}
    (h : Comparison.ofLexeme? kind = some c) : kind = .symbol c.symbol := by
  unfold Comparison.ofLexeme? at h
  split at h <;> cases h <;> rfl

theorem not_comparison_of_operand {kinds : List LexemeKind} {operand : Operand}
    (h : SpellsOperand kinds operand) : ∀ kind ∈ kinds, Comparison.ofLexeme? kind = none := by
  intro kind hk
  cases h with
  | var name =>
    obtain rfl := List.mem_singleton.mp hk
    rfl
  | lit hv =>
    cases hv with
    | plain value =>
      obtain rfl := List.mem_singleton.mp hk
      rfl
    | minus value =>
      rcases List.mem_cons.mp hk with rfl | hk
      · rfl
      · obtain rfl := List.mem_singleton.mp hk
        rfl

theorem readCondition?_eq_some_iff {kinds : List LexemeKind} {c : Condition} :
    readCondition? kinds = some c ↔ SpellsCondition kinds c := by
  let isOperandPart : LexemeKind → Bool := fun kind => (Comparison.ofLexeme? kind).isNone
  constructor
  · intro h
    have hwhole := List.takeWhile_append_dropWhile (p := isOperandPart) (l := kinds)
    unfold readCondition? at h
    dsimp only at h
    split at h
    · cases h
    · rename_i mark right hdrop
      simp only [Option.bind_eq_bind, Option.bind_eq_some_iff, Option.pure_def,
        Option.some.injEq] at h
      obtain ⟨comparison, hmark, left, hleft, right, hright, rfl⟩ := h
      rw [eq_symbol_of_ofLexeme? hmark] at hdrop
      rw [← hwhole, hdrop]
      exact SpellsCondition.compare (c := ⟨left, comparison, right⟩)
        (readOperand?_eq_some_iff.mp hleft) (readOperand?_eq_some_iff.mp hright)
  · intro h
    cases h with
    | @compare left right c hleft hright =>
      have hpart : ∀ kind ∈ left, isOperandPart kind = true := fun kind hk => by
        simp only [isOperandPart, not_comparison_of_operand hleft kind hk, Option.isNone_none]
      have hmark : ¬ isOperandPart (.symbol c.comparison.symbol) = true := by
        simp only [isOperandPart, Comparison.ofLexeme?_symbol, Option.isNone_some,
          Bool.false_eq_true, not_false_eq_true]
      have hdrop : (left ++ .symbol c.comparison.symbol :: right).dropWhile isOperandPart =
          .symbol c.comparison.symbol :: right := by
        rw [List.dropWhile_append_of_pos hpart, List.dropWhile_cons_of_neg hmark]
      have htake : (left ++ .symbol c.comparison.symbol :: right).takeWhile isOperandPart =
          left := by
        rw [List.takeWhile_append_of_pos hpart, List.takeWhile_cons_of_neg hmark,
          List.append_nil]
      simp only [readCondition?]
      rw [hdrop, htake]
      simp [Comparison.ofLexeme?_symbol, readOperand?_eq_some_iff.mpr hleft,
        readOperand?_eq_some_iff.mpr hright]

theorem ofSections_eq_ok_iff {start condition step : List LexemeKind} {header : Header} :
    ofSections start condition step = .ok header ↔
      SpellsStart start header.initName header.initValue ∧
        SpellsCondition condition header.condition ∧ SpellsStep step header.stepName := by
  rw [← readStart?_eq_some_iff, ← readCondition?_eq_some_iff, ← readStep?_eq_some_iff]
  unfold ofSections
  constructor
  · intro h
    split at h
    · cases h
    · split at h
      · cases h
      · split at h
        · cases h
        · cases h
          exact ⟨‹_›, ‹_›, ‹_›⟩
  · intro h
    obtain ⟨hstart, hcondition, hstep⟩ := h
    simp only [hstart, hcondition, hstep]

/-! ## No section holds a semicolon -/

theorem semicolon_notMem_int {kinds : List LexemeKind} {value : Int64} (h : SpellsInt kinds value) :
    .symbol .semicolon ∉ kinds := by
  cases h with
  | plain | minus => simp

theorem semicolon_notMem_operand {kinds : List LexemeKind} {operand : Operand}
    (h : SpellsOperand kinds operand) : .symbol .semicolon ∉ kinds := by
  cases h with
  | var => simp
  | lit hv => exact semicolon_notMem_int hv

theorem semicolon_notMem_start {kinds : List LexemeKind} {name : String} {value : Int64}
    (h : SpellsStart kinds name value) : .symbol .semicolon ∉ kinds := by
  cases h with
  | typed type name hv | bare name hv => simp [semicolon_notMem_int hv]

theorem semicolon_notMem_condition {kinds : List LexemeKind} {c : Condition}
    (h : SpellsCondition kinds c) : .symbol .semicolon ∉ kinds := by
  cases h with
  | compare hleft hright =>
    have hmark : Symbol.semicolon ≠ c.comparison.symbol := by
      cases c.comparison <;> decide
    simp [semicolon_notMem_operand hleft, semicolon_notMem_operand hright, hmark]

theorem semicolon_notMem_step {kinds : List LexemeKind} {name : String}
    (h : SpellsStep kinds name) : .symbol .semicolon ∉ kinds := by
  cases h with
  | after | before => simp

/-! ## Whole headers -/

/-- Three sections without a semicolon can be told apart when they are joined by semicolons. -/
theorem splitOn_sections {start condition step : List LexemeKind}
    (h : ∀ part ∈ [start, condition, step], LexemeKind.symbol .semicolon ∉ part) :
    (start ++ .symbol .semicolon :: (condition ++ .symbol .semicolon :: step)).splitOn
      (LexemeKind.symbol .semicolon) = [start, condition, step] := by
  have hjoined : [LexemeKind.symbol .semicolon].intercalate [start, condition, step] =
      start ++ .symbol .semicolon :: (condition ++ .symbol .semicolon :: step) := by
    simp [List.intercalate]
  rw [← hjoined]
  exact List.splitOn_intercalate _ h (List.cons_ne_nil _ _)

/-- Reading a header accepts exactly what the grammar spells. -/
theorem parse_eq_ok_iff {kinds : List LexemeKind} {header : Header} :
    parse kinds = .ok header ↔ Spells kinds header := by
  constructor
  · intro h
    unfold parse at h
    split at h
    · rename_i word rest
      split at h
      · rename_i hform
        obtain ⟨rfl, hlast⟩ := hform
        split at h
        · rename_i start condition step hsplit
          obtain ⟨hstart, hcondition, hstep⟩ := ofSections_eq_ok_iff.mp h
          obtain ⟨inner, rfl⟩ := List.getLast?_eq_some_iff.mp hlast
          rw [List.dropLast_concat] at hsplit
          have hinner : [LexemeKind.symbol .semicolon].intercalate
              (inner.splitOn (LexemeKind.symbol .semicolon)) = inner :=
            List.intercalate_splitOn _
          rw [hsplit] at hinner
          have hsections : inner = start ++ .symbol .semicolon :: (condition ++
              .symbol .semicolon :: step) := by
            rw [← hinner]
            simp [List.intercalate]
          rw [hsections]
          exact .loop hstart hcondition hstep
        · cases h
      · cases h
    · cases h
  · intro h
    cases h with
    | @loop start condition step header hstart hcondition hstep =>
      let inner := start ++ .symbol .semicolon :: (condition ++ .symbol .semicolon :: step)
      have hplain : ∀ part ∈ [start, condition, step], LexemeKind.symbol .semicolon ∉ part := by
        simp [semicolon_notMem_start hstart, semicolon_notMem_condition hcondition,
          semicolon_notMem_step hstep]
      have hsplit : inner.splitOn (LexemeKind.symbol .semicolon) = [start, condition, step] :=
        splitOn_sections hplain
      have hlast :
          (inner ++ [LexemeKind.symbol .closeParen]).getLast? = some (.symbol .closeParen) :=
        List.getLast?_concat
      change parse (.ident "for" :: .symbol .openParen :: (inner ++ [.symbol .closeParen])) = _
      simp only [parse, hlast, and_self, if_true, List.dropLast_concat, hsplit]
      exact ofSections_eq_ok_iff.mpr ⟨hstart, hcondition, hstep⟩

end Header

end ConsoleLab.Loop
