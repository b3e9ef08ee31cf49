/-
  ConsoleLab.Proofs.Program.Layout — programs do not depend on their layout.

  Read without any places (`Translation.unplaced`), a program has the outcome that it has with
  them, so lexemes of the same kinds have the same outcome wherever they stand
  (`ofLexemes_sameOutcome`). Main fact: white space in front of a lexeme changes nothing but
  places (`parse_insert`).
-/

import ConsoleLab.Program.Basic
import ConsoleLab.Proofs.Lexeme.Layout
import ConsoleLab.Proofs.Program.Translation

namespace ConsoleLab

open Source (Location)
open Text (isBlank)

/-! ## Without places -/

namespace Translation

def unplaced : Translation where
  place _ := .nowhere
  line _ := 0
  line_place _ := rfl
  what := id

theorem between_unplaced (order : PrintOrder) : unplaced.Between order order := by
  intro kinds
  cases recognize order kinds with
  | statements all => simp [Recognized.mapStatements, unplaced]
  | silent => rfl
  | skipped reason => rfl

theorem map_unplaced (lexemes : List Lexeme) :
    lexemes.map unplaced.lexeme =
      (lexemes.map Lexeme.kind).map fun kind => ⟨kind, .nowhere⟩ := by
  rw [List.map_map]
  rfl

/-- Lexemes of the same kinds are read alike, but for places. -/
theorem result_unplaced_congr {lexemes lexemes' : List Lexeme}
    (h : lexemes.map Lexeme.kind = lexemes'.map Lexeme.kind) (order : PrintOrder) :
    unplaced.result (Outline.ofLexemes order lexemes) =
      unplaced.result (Outline.ofLexemes order lexemes') := by
  rw [← ofLexemes_translate (between_unplaced order), map_unplaced, h, ← map_unplaced,
    ofLexemes_translate (between_unplaced order)]

end Translation

/-! ## The outcome of a reading -/

/-- Two readings end alike: in results that agree, or in the same error on whatever lines. -/
def SameOutcome {α : Type} (agree : α → α → Prop) :
    Except StructuralError α → Except StructuralError α → Prop
  | .ok a, .ok b => agree a b
  | .error e, .error e' => (e.mapLines fun _ => 0) = e'.mapLines fun _ => 0
  | _, _ => False

/-- The same instructions with the same loop ends, and pieces left out for the same reasons. -/
def Outline.Agree (o o' : Outline) : Prop :=
  o.code.map Instruction.action = o'.code.map Instruction.action ∧
    o.remarks.map Remark.reason = o'.remarks.map Remark.reason

@[inherit_doc Outline.Agree]
def Program.Agree (p p' : Program) : Prop :=
  p.code.map Instruction.action = p'.code.map Instruction.action ∧
    p.skipped.map Skipped.reason = p'.skipped.map Skipped.reason

theorem Outline.agree_of_unplaced {o o' : Outline}
    (h : Translation.unplaced.outline o = Translation.unplaced.outline o') : o.Agree o' := by
  have haction : ∀ i : Instruction,
      (Translation.unplaced.instruction i).action = i.action := by
    intro i
    obtain ⟨action, place⟩ := i
    cases action with
    | perform what => rfl
    | loopStart header stop => rfl
    | loopEnd start => rfl
  have hcode := congrArg (fun o => o.code.map Instruction.action) h
  have hremarks := congrArg (fun o => o.remarks.map Remark.reason) h
  simp only [Translation.outline, Array.map_map, List.map_map, Function.comp_def,
    haction] at hcode hremarks
  exact ⟨hcode, hremarks⟩

theorem ofLexemes_sameOutcome {lexemes lexemes' : List Lexeme}
    (h : lexemes.map Lexeme.kind = lexemes'.map Lexeme.kind) (order : PrintOrder) :
    SameOutcome Outline.Agree (Outline.ofLexemes order lexemes)
      (Outline.ofLexemes order lexemes') := by
  have hread := Translation.result_unplaced_congr h order
  cases hx : Outline.ofLexemes order lexemes with
  | error e =>
    rw [hx] at hread
    cases hy : Outline.ofLexemes order lexemes' with
    | error e' =>
      rw [hy] at hread
      exact Except.error.inj hread
    | ok o' =>
      rw [hy] at hread
      cases hread
  | ok o =>
    rw [hx] at hread
    cases hy : Outline.ofLexemes order lexemes' with
    | error e' =>
      rw [hy] at hread
      cases hread
    | ok o' =>
      rw [hy] at hread
      exact Outline.agree_of_unplaced (Except.ok.inj hread)

theorem SameOutcome.map {α β : Type} {agree : α → α → Prop} {agree' : β → β → Prop}
    {f f' : α → β} (hf : ∀ a b, agree a b → agree' (f a) (f' b))
    {x y : Except StructuralError α} (h : SameOutcome agree x y) :
    SameOutcome agree' (x.map f) (y.map f') := by
  cases x with
  | error e =>
    cases y with
    | error e' => exact h
    | ok b => cases h
  | ok a =>
    cases y with
    | error e' => cases h
    | ok b => exact hf a b h

theorem SameOutcome.map_map {α β : Type} {agree : β → β → Prop} {f f' : α → β}
    (hf : ∀ a, agree (f a) (f' a)) (x : Except StructuralError α) :
    SameOutcome agree (x.map f) (x.map f') := by
  cases x with
  | error e => rfl
  | ok a => exact hf a

/-- Outcomes that are alike stay so if each side is replaced by one that is like it. -/
theorem SameOutcome.congr {α : Type} {agree agree' : α → α → Prop}
    {x x' y y' : Except StructuralError α} (h : SameOutcome agree x y)
    (hx : SameOutcome agree' x x') (hy : SameOutcome agree' y y')
    (hagree : ∀ {a a' b b'}, agree a b → agree' a a' → agree' b b' → agree a' b') :
    SameOutcome agree x' y' := by
  cases x with
  | error e =>
    cases y with
    | ok b => cases h
    | error e₁ =>
      cases x' with
      | ok a' => cases hx
      | error e' =>
        cases y' with
        | ok b' => cases hy
        | error e₁' => exact hx.symm.trans (h.trans hy)
  | ok a =>
    cases y with
    | error e => cases h
    | ok b =>
      cases x' with
      | error e' => cases hx
      | ok a' =>
        cases y' with
        | error e' => cases hy
        | ok b' => exact hagree h hx hy

theorem parse_eq_map (order : PrintOrder) (source : String) :
    Program.parse order source =
      (Outline.ofLexemes order (lex source)).map (Program.ofOutline source) := by
  unfold Program.parse
  cases Outline.ofLexemes order (lex source) with
  | error e => rfl
  | ok o => rfl

theorem agree_ofOutline (source source' : String) {o o' : Outline} (h : o.Agree o') :
    (Program.ofOutline source o).Agree (Program.ofOutline source' o') := by
  have hreasons : ∀ (lines : Array String) (o : Outline),
      (o.remarks.reverse.map (Program.quote lines)).map Skipped.reason =
        (o.remarks.map Remark.reason).reverse := by
    intro lines o
    rw [List.map_map, List.map_reverse]
    rfl
  refine ⟨h.1, ?_⟩
  calc (Program.ofOutline source o).skipped.map Skipped.reason
      = (o.remarks.map Remark.reason).reverse := hreasons _ o
    _ = (o'.remarks.map Remark.reason).reverse := congrArg List.reverse h.2
    _ = (Program.ofOutline source' o').skipped.map Skipped.reason := (hreasons _ o').symm

theorem parse_sameOutcome {source source' : String}
    (h : (lex source).map Lexeme.kind = (lex source').map Lexeme.kind) (order : PrintOrder) :
    SameOutcome Program.Agree (Program.parse order source) (Program.parse order source') := by
  rw [parse_eq_map, parse_eq_map]
  exact (ofLexemes_sameOutcome h order).map fun _ _ hagree => agree_ofOutline source source' hagree

/-- White space in front of a lexeme changes neither the lexemes of a text nor what they are read
    as, but for places. -/
theorem parse_insert (order : PrintOrder) {before after blanks : String} {lexeme : Lexeme}
    (hblanks : ∀ c ∈ blanks.toList, isBlank c = true) (hmem : lexeme ∈ lex (before ++ after))
    (hplace : lexeme.place = Location.start.after before.toList) :
    (lex (before ++ blanks ++ after)).map Lexeme.kind = (lex (before ++ after)).map Lexeme.kind ∧
      SameOutcome Program.Agree (Program.parse order (before ++ blanks ++ after))
        (Program.parse order (before ++ after)) := by
  have hkinds := map_kind_lex_insert hblanks hmem hplace
  exact ⟨hkinds, parse_sameOutcome hkinds order⟩

def upToComparison : String :=
  "#define N 2\nint main() \x7b // go\n  for(i = 0; i"

def fromComparison : String :=
  "<2; i++) \x7b cout<<i<<\"a\"; x = 1; \x7d \x7d"

theorem parse_insert_lineBreak :
    ∃ p p', Program.parse .source (upToComparison ++ fromComparison) = .ok p ∧
      Program.parse .source (upToComparison ++ "\n\t" ++ fromComparison) = .ok p' ∧
      p'.Agree p ∧ p.code.size = 3 ∧ p.skipped.map Skipped.reason = [.assignment] := by
  have hmem : (⟨.symbol .less, ⟨3, 15⟩⟩ : Lexeme) ∈ lex (upToComparison ++ fromComparison) := by
    decide +kernel
  have hread : (match Program.parse .source (upToComparison ++ fromComparison) with
      | .ok p => (p.code.size, p.skipped.map Skipped.reason)
      | .error _ => (0, [])) = (3, [.assignment]) := by decide +kernel
  have hblanks : ∀ c ∈ "\n\t".toList, isBlank c = true :=
    List.all_eq_true.mp (by decide)
  have hsame := (parse_insert .source hblanks hmem (by decide)).2
  cases hp : Program.parse .source (upToComparison ++ fromComparison) with
  | error e => simp [hp] at hread
  | ok p =>
    cases hp' : Program.parse .source (upToComparison ++ "\n\t" ++ fromComparison) with
    | error e =>
      rw [hp, hp'] at hsame
      cases hsame
    | ok p' =>
      rw [hp, hp'] at hsame
      rw [hp] at hread
      obtain ⟨hsize, hreasons⟩ := Prod.mk.inj hread
      exact ⟨p, p', rfl, rfl, hsame, hsize, hreasons⟩

end ConsoleLab
