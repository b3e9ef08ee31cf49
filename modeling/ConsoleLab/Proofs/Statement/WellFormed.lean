/-
  ConsoleLab.Proofs.Statement.WellFormed — the statements that recognition makes.

  A print shows something, and a formatted read has variables, each with its own hint
  (`Statement.WellFormed`). What each recogniser makes is said once (`Makes`): one print, one
  read or one formatted read, if anything. So a source statement turns into one statement,
  except for a chain of reads (`recognize_single_or_chain`), and whatever it turns into is
  well formed (`recognize_wellFormed`).
-/

import ConsoleLab.Statement.Recognize

namespace ConsoleLab

/-- A print with parts, or a read of at least one variable with one hint for each. -/
def Statement.WellFormed : Statement → Prop
  | .print parts => parts ≠ []
  | .read _ _ => True
  | .scan names hints => names ≠ [] ∧ hints.length = names.length

/-- The order of the parts loses none of them altogether. -/
theorem arrange_ne_nil (order : PrintOrder) {parts : List PrintPart} (h : parts ≠ []) :
    order.arrange parts ≠ [] := by
  cases order with
  | source => exact h
  | literalsFirst =>
    obtain ⟨part, rest, rfl⟩ := List.exists_cons_of_ne_nil h
    cases part <;>
      simp [PrintOrder.arrange, PrintPart.isLiteral, PrintPart.isVar, PrintPart.isNewline]

namespace Recognize

theorem length_padHints (n : Nat) (hints : List ScanHint) : (padHints n hints).length = n := by
  simp only [padHints, List.length_append, List.length_take, List.length_replicate]
  omega

/-- Where statements were recognised, there is one, and `P` holds of it. -/
def Makes (P : Statement → Prop) (r : Recognized) : Prop :=
  ∀ all, r = .statements all → ∃ what, all = [what] ∧ P what

section

variable {P Q : Statement → Prop}

theorem makes_silent : Makes P .silent := fun _ h => by cases h

theorem makes_skipped (reason : SkipReason) : Makes P (.skipped reason) := fun _ h => by cases h

theorem makes_one {what : Statement} (h : P what) : Makes P (.statements [what]) := by
  rintro _ ⟨⟩
  exact ⟨what, rfl, h⟩

theorem Makes.mono {r : Recognized} (h : Makes P r) (hPQ : ∀ what, P what → Q what) :
    Makes Q r := by
  intro all hall
  obtain ⟨what, rfl, hwhat⟩ := h all hall
  exact ⟨what, rfl, hPQ what hwhat⟩

end

def IsPrint (what : Statement) : Prop :=
  ∃ parts, what = .print parts ∧ parts ≠ []

def IsRead (what : Statement) : Prop :=
  ∃ name mode, what = .read name mode

def IsScan (what : Statement) : Prop :=
  ∃ names hints, what = .scan names hints ∧ names ≠ [] ∧ hints.length = names.length

theorem makes_print (order : PrintOrder) (rest : List LexemeKind) :
    Makes IsPrint (print order rest) := by
  unfold print
  split
  · exact makes_skipped _
  · split
    · exact makes_skipped _
    · rename_i parts hne
      exact makes_one ⟨_, rfl, arrange_ne_nil order hne⟩

theorem makes_scan (rest : List LexemeKind) : Makes IsScan (scan rest) := by
  unfold scan
  split
  · split
    · exact makes_skipped _
    · rename_i names hne
      exact makes_one ⟨_, _, rfl, hne, length_padHints _ _⟩
  · exact makes_skipped _

theorem makes_line (rest : List LexemeKind) : Makes IsRead (line rest) := by
  unfold line
  split
  · exact makes_one ⟨_, _, rfl⟩
  · exact makes_skipped _

theorem makes_streamLine (rest : List LexemeKind) : Makes IsRead (streamLine rest) := by
  unfold streamLine
  split
  · split
    · exact makes_one ⟨_, _, rfl⟩
    · exact makes_skipped _
  · exact makes_skipped _

theorem makes_named (name : String) (rest : List LexemeKind) :
    Makes IsRead (named name rest) := by
  unfold named
  split
  · split
    · exact makes_one ⟨_, _, rfl⟩
    · exact makes_skipped _
  · exact makes_skipped _
  · exact makes_skipped _
  · exact makes_skipped _

theorem makes_declaration (rest : List LexemeKind) : Makes IsRead (declaration rest) := by
  unfold declaration
  dsimp only
  split
  · split
    · split
      · exact makes_one ⟨_, _, rfl⟩
      · exact makes_skipped _
    · exact makes_skipped _
  · exact makes_silent

theorem names_of_read {rest : List LexemeKind} {all : List Statement}
    (h : Recognize.read rest = .statements all) :
    ∃ names : List String, all = names.map fun name => .read name .value := by
  unfold Recognize.read at h
  split at h
  · cases h
  · split at h
    · cases h
    · cases h
      exact ⟨_, rfl⟩

theorem IsPrint.wellFormed {what : Statement} (h : IsPrint what) : what.WellFormed := by
  obtain ⟨parts, rfl, hne⟩ := h
  exact hne

theorem IsRead.wellFormed {what : Statement} (h : IsRead what) : what.WellFormed := by
  obtain ⟨name, mode, rfl⟩ := h
  trivial

theorem IsScan.wellFormed {what : Statement} (h : IsScan what) : what.WellFormed := by
  obtain ⟨names, hints, rfl, hne, hlength⟩ := h
  exact ⟨hne, hlength⟩

end Recognize

/-! ## All forms -/

theorem eq_of_ite {p : Prop} [Decidable p] {first rest opening : Opening}
    (h : (if p then first else rest) = opening) (hne : first ≠ opening) : rest = opening := by
  by_cases hp : p
  · rw [if_pos hp] at h
    exact absurd h hne
  · rwa [if_neg hp] at h

theorem ofWord_eq_read {word : String} (h : Opening.ofWord word = .read) : word = "cin" := by
  by_cases hcin : word = "cin"
  · exact hcin
  · unfold Opening.ofWord at h
    rw [if_neg hcin] at h
    iterate 10 replace h := eq_of_ite h nofun
    cases h

def IsChain (kinds : List LexemeKind) (names : List String) : Prop :=
  ∃ rest, Recognize.withoutStd kinds = .ident "cin" :: rest ∧
    Recognize.read rest = .statements (names.map fun name => .read name .value)

open Recognize in
/-- Only a chain of reads turns into more than one statement. -/
theorem recognize_single_or_chain {order : PrintOrder} {kinds : List LexemeKind}
    {all : List Statement} (h : recognize order kinds = .statements all) :
    (∃ what, all = [what] ∧ what.WellFormed) ∨
      ∃ names : List String, IsChain kinds names ∧ all = names.map fun name => .read name .value := by
  unfold recognize at h
  split at h
  · cases h
  · rename_i word rest heq
    cases hword : Opening.ofWord word with
    | read =>
      obtain rfl := ofWord_eq_read hword
      rw [hword] at h
      have hread : Recognize.read rest = .statements all := h
      obtain ⟨names, rfl⟩ := names_of_read hread
      exact Or.inr ⟨names, ⟨rest, heq, hread⟩, rfl⟩
    | print =>
      rw [hword] at h
      exact Or.inl ((makes_print order rest).mono (fun _ => IsPrint.wellFormed) all h)
    | scan =>
      rw [hword] at h
      exact Or.inl ((makes_scan rest).mono (fun _ => IsScan.wellFormed) all h)
    | line =>
      rw [hword] at h
      exact Or.inl ((makes_line rest).mono (fun _ => IsRead.wellFormed) all h)
    | streamLine =>
      rw [hword] at h
      exact Or.inl ((makes_streamLine rest).mono (fun _ => IsRead.wellFormed) all h)
    | character =>
      rw [hword] at h
      dsimp only at h
      split at h
      · cases h
        exact Or.inl ⟨_, rfl, trivial⟩
      · exact Or.inl ((makes_named word rest).mono (fun _ => IsRead.wellFormed) all h)
    | typeName =>
      rw [hword] at h
      exact Or.inl ((makes_declaration rest).mono (fun _ => IsRead.wellFormed) all h)
    | other =>
      rw [hword] at h
      exact Or.inl ((makes_named word rest).mono (fun _ => IsRead.wellFormed) all h)
    | formattedPrint | silent | jump | control =>
      rw [hword] at h
      cases h
  · cases h

/-- Every statement that a piece of the source turns into is well formed. -/
theorem recognize_wellFormed {order : PrintOrder} {chunk : List LexemeKind}
    {all : List Statement} (h : recognize order chunk = .statements all) :
    ∀ what ∈ all, what.WellFormed := by
  intro what hw
  rcases recognize_single_or_chain h with ⟨only, rfl, honly⟩ | ⟨names, -, rfl⟩
  · obtain rfl := List.mem_singleton.mp hw
    exact honly
  · obtain ⟨name, -, rfl⟩ := List.mem_map.mp hw
    trivial

end ConsoleLab
