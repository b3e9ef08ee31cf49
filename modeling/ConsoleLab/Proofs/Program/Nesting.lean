/-
  ConsoleLab.Proofs.Program.Nesting — the shape of every program.

  Whatever the source text, if it is read as a program then the program is the flattening
  of a tree: the ends of each loop name each other, loops are apart or one inside the
  other, and every statement is well formed (`parse_nested`).
-/

import ConsoleLab.Program.Basic
import ConsoleLab.Proofs.Program.Draft
import ConsoleLab.Proofs.Program.Pairing
import ConsoleLab.Proofs.Statement.WellFormed

namespace ConsoleLab

open Source (Location)

/-! ## The statements of a program -/

def StatementsWellFormed (code : Array Instruction) : Prop :=
  ∀ {what place}, Instruction.mk (.perform what) place ∈ code → what.WellFormed

theorem eq_of_endAt {stop : Nat} {i : Instruction} {what : Statement} {place : Location}
    (h : i.endAt stop = ⟨.perform what, place⟩) : i = ⟨.perform what, place⟩ := by
  unfold Instruction.endAt at h
  split at h
  · cases h
  · exact h

theorem mem_of_mem_endLoop {o : Outline} {start : Nat} {brace place : Location} {what : Statement}
    (h : Instruction.mk (.perform what) place ∈ (o.endLoop start brace).code) :
    Instruction.mk (.perform what) place ∈ o.code := by
  simp only [Outline.endLoop, Array.mem_push] at h
  rcases h with h | h
  · obtain ⟨k, hk⟩ := Array.mem_iff_getElem?.mp h
    rw [Array.getElem?_modify] at hk
    split at hk
    · obtain ⟨i, hi, hw⟩ := Option.map_eq_some_iff.mp hk
      rw [← eq_of_endAt hw]
      exact Array.mem_of_getElem? hi
    · exact Array.mem_of_getElem? hk
  · cases h

theorem kept_wellFormed (order : PrintOrder) :
    Outline.Kept order fun o => StatementsWellFormed o.code where
  openPlain _ h := h
  openEntry _ _ h _ := h
  openLoop place header brace h what place' hw := by
    simp only [Outline.openLoop, Array.mem_push] at hw
    rcases hw with hw | hw
    · exact h hw
    · cases hw
  closeLoop brace h hf what place hw := h (mem_of_mem_endLoop hw)
  closeOther h _ _ := h
  skip _ _ h := h
  add place kinds all h hr what place' hw := by
    rw [Outline.add, ← Array.mem_toList_iff, Array.toList_appendList, List.mem_append,
      Array.mem_toList_iff, List.mem_map] at hw
    rcases hw with hw | ⟨what', hmem, heq⟩
    · exact h hw
    · cases heq
      exact recognize_wellFormed hr _ hmem

/-! ## Every program -/

theorem outline_of_parse {order : PrintOrder} {source : String} {p : Program}
    (h : Program.parse order source = .ok p) :
    ∃ o, Outline.ofLexemes order (lex source) = .ok o ∧ p.code = o.code := by
  obtain ⟨o, ho, hp⟩ := ok_of_bind h
  cases hp
  exact ⟨o, ho, rfl⟩

theorem exists_flatten_of_parse {order : PrintOrder} {source : String} {p : Program}
    (h : Program.parse order source = .ok p) : ∃ b : Block, p.code = b.flatten := by
  obtain ⟨o, ho, hc⟩ := outline_of_parse h
  rw [hc]
  exact exists_flatten_of_ofLexemes ho

theorem wellPaired_of_parse {order : PrintOrder} {source : String} {p : Program}
    (h : Program.parse order source = .ok p) : WellPaired p.code := by
  obtain ⟨b, hb⟩ := exists_flatten_of_parse h
  rw [hb]
  exact b.wellPaired_flatten

/-- Every statement of a program is well formed. -/
theorem statementsWellFormed_of_parse {order : PrintOrder} {source : String} {p : Program}
    (h : Program.parse order source = .ok p) : StatementsWellFormed p.code := by
  obtain ⟨o, ho, hc⟩ := outline_of_parse h
  rw [hc]
  exact ((kept_wellFormed order).ofLexemes nofun ho).1

structure NestedCode (code : Array Instruction) : Prop where
  tree : ∃ b : Block, code = b.flatten
  /-- The start of a loop names an end behind it, which names the start. -/
  end_of_start : ∀ (i j : Nat) header place, code[i]? = some ⟨.loopStart header j, place⟩ →
    i < j ∧ j < code.size ∧ ∃ close, code[j]? = some ⟨.loopEnd i, close⟩
  /-- The end of a loop names a start, which names the end. -/
  start_of_end : ∀ (i j : Nat) close, code[j]? = some ⟨.loopEnd i, close⟩ →
    ∃ header place, code[i]? = some ⟨.loopStart header j, place⟩
  /-- Of two loops one ends before the other starts, or lies strictly inside it. -/
  apart_or_inside : ∀ (i j i' j' : Nat) header place header' place', i ≠ i' →
    code[i]? = some ⟨.loopStart header j, place⟩ →
    code[i']? = some ⟨.loopStart header' j', place'⟩ →
    j < i' ∨ j' < i ∨ (i < i' ∧ j' < j) ∨ (i' < i ∧ j < j')
  print_parts : ∀ (k : Nat) parts place,
    code[k]? = some ⟨.perform (.print parts), place⟩ → parts ≠ []
  scan_hints : ∀ (k : Nat) names hints place,
    code[k]? = some ⟨.perform (.scan names hints), place⟩ →
    names ≠ [] ∧ hints.length = names.length

/-- Whatever the source text and the order of printing, what is read as a program has nested
    code. -/
theorem parse_nested {order : PrintOrder} {source : String} {p : Program}
    (h : Program.parse order source = .ok p) : NestedCode p.code := by
  have hpair := wellPaired_of_parse h
  obtain ⟨o, ho, hc⟩ := outline_of_parse h
  have hwell : StatementsWellFormed p.code := by
    rw [hc]
    exact ((kept_wellFormed order).ofLexemes nofun ho).1
  constructor
  case tree =>
    rw [hc]
    exact exists_flatten_of_ofLexemes ho
  case end_of_start =>
    intro i j header place hi
    obtain ⟨hlt, close, hj⟩ := hpair.end_of_start hi
    exact ⟨hlt, lt_size hj, close, hj⟩
  case start_of_end =>
    intro i j close hj
    exact hpair.start_of_end hj
  case apart_or_inside =>
    intro i j i' j' header place header' place' hne hi hi'
    rcases Nat.lt_or_gt_of_ne hne with hlt | hgt
    · rcases hpair.nested hi hi' hlt with hapart | hinside
      · exact Or.inl hapart
      · exact Or.inr (Or.inr (Or.inl ⟨hlt, hinside⟩))
    · rcases hpair.nested hi' hi hgt with hapart | hinside
      · exact Or.inr (Or.inl hapart)
      · exact Or.inr (Or.inr (Or.inr ⟨hgt, hinside⟩))
  case print_parts =>
    intro k parts place hk
    exact hwell (Array.mem_of_getElem? hk)
  case scan_hints =>
    intro k names hints place hk
    exact hwell (Array.mem_of_getElem? hk)

def loopInLoop : String :=
  "int main() \x7b for (int i = 0; i < 2; i++) \x7b scanf(\"%d\", &n, &m); if (n) \x7b " ++
    "for (int j = 0; j < n; j++) \x7b cout << j << endl; \x7d \x7d \x7d \x7d"

theorem parse_nested_loopInLoop :
    ∃ p, Program.parse .source loopInLoop = .ok p ∧ p.code.size = 6 ∧ NestedCode p.code := by
  have hsize : (match Program.parse .source loopInLoop with
      | .ok p => p.code.size
      | .error _ => 0) = 6 := by decide +kernel
  cases hp : Program.parse .source loopInLoop with
  | error e => simp [hp] at hsize
  | ok p => exact ⟨p, rfl, by simpa [hp] using hsize, parse_nested hp⟩

end ConsoleLab
