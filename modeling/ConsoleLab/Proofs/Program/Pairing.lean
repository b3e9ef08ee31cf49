/-
  ConsoleLab.Proofs.Program.Pairing — which instruction belongs to which.

  In the code of a tree the two ends of a loop name each other, and two loops are apart
  or one inside the other (`WellPaired`). Where a tree stands in some code is said
  instruction by instruction (`Block.StandsIn`), so that proofs about runs need no list
  of the code. Main facts: a tree stands in its own flattening
  (`standsIn_flatten`), and that code is well paired (`wellPaired_flatten`).
-/

import ConsoleLab.Program.Block

namespace ConsoleLab

open Source (Location)

structure WellPaired (code : Array Instruction) : Prop where
  /-- The start of a loop names an end behind it, which names the start. -/
  end_of_start : ∀ {i j : Nat} {header place}, code[i]? = some ⟨.loopStart header j, place⟩ →
    i < j ∧ ∃ close, code[j]? = some ⟨.loopEnd i, close⟩
  /-- The end of a loop names a start, which names the end. -/
  start_of_end : ∀ {j i : Nat} {close}, code[j]? = some ⟨.loopEnd i, close⟩ →
    ∃ header place, code[i]? = some ⟨.loopStart header j, place⟩
  /-- A loop ends before a later one starts, or after that one ends. -/
  nested : ∀ {i j i' j' : Nat} {header place header' place'},
    code[i]? = some ⟨.loopStart header j, place⟩ →
    code[i']? = some ⟨.loopStart header' j', place'⟩ → i < i' → j < i' ∨ j' < j

/-- The loops between two indices are properly nested, and none leads out. -/
structure PairedWithin (code : Array Instruction) (low high : Nat) : Prop where
  end_of_start : ∀ {i header j place}, low ≤ i → i < high →
    code[i]? = some ⟨.loopStart header j, place⟩ →
    i < j ∧ j < high ∧ ∃ close, code[j]? = some ⟨.loopEnd i, close⟩
  start_of_end : ∀ {j i close}, low ≤ j → j < high → code[j]? = some ⟨.loopEnd i, close⟩ →
    low ≤ i ∧ i < j ∧ ∃ header place, code[i]? = some ⟨.loopStart header j, place⟩
  nested : ∀ {i header j place i' header' j' place'}, low ≤ i → i' < high →
    code[i]? = some ⟨.loopStart header j, place⟩ →
    code[i']? = some ⟨.loopStart header' j', place'⟩ → i < i' → j < i' ∨ j' < j

namespace PairedWithin

variable {code : Array Instruction} {low middle high : Nat}

theorem refl (code : Array Instruction) (k : Nat) : PairedWithin code k k where
  end_of_start hl hh := by omega
  start_of_end hl hh := by omega
  nested hl hh _ _ h := by omega

theorem trans (h₁ : PairedWithin code low middle) (h₂ : PairedWithin code middle high)
    (hl : low ≤ middle) (hh : middle ≤ high) : PairedWithin code low high where
  end_of_start {i header j place} h h' hi := by
    rcases Nat.lt_or_ge i middle with hm | hm
    · obtain ⟨h1, h2, h3⟩ := h₁.end_of_start h hm hi
      exact ⟨h1, by omega, h3⟩
    · exact h₂.end_of_start hm h' hi
  start_of_end {j i close} h h' hj := by
    rcases Nat.lt_or_ge j middle with hm | hm
    · exact h₁.start_of_end h hm hj
    · obtain ⟨h1, h2, h3⟩ := h₂.start_of_end hm h' hj
      exact ⟨by omega, h2, h3⟩
  nested {i header j place i' header' j' place'} h h' hi hi' hlt := by
    rcases Nat.lt_or_ge i' middle with hm | hm
    · exact h₁.nested h hm hi hi' hlt
    · rcases Nat.lt_or_ge i middle with hn | hn
      · -- the first loop ends before `middle`, the second starts behind it
        have := (h₁.end_of_start h hn hi).2.1
        exact Or.inl (by omega)
      · exact h₂.nested hn h' hi hi' hlt

theorem statement {what : Statement} {place : Location}
    (h : code[low]? = some ⟨.perform what, place⟩) : PairedWithin code low (low + 1) where
  end_of_start {i header j place'} hl hh hi := by
    obtain rfl : i = low := by omega
    rw [h] at hi; cases hi
  start_of_end {j i close} hl hh hj := by
    obtain rfl : j = low := by omega
    rw [h] at hj; cases hj
  nested hl hh _ _ hlt := by omega

/-- A loop around a body is a pair of its own. -/
theorem wrap {header : Loop.Header} {place close : Location}
    (h : PairedWithin code (low + 1) high) (hle : low + 1 ≤ high)
    (hs : code[low]? = some ⟨.loopStart header high, place⟩)
    (he : code[high]? = some ⟨.loopEnd low, close⟩) : PairedWithin code low (high + 1) where
  end_of_start {i header' j place'} hl hh hi := by
    rcases Nat.lt_trichotomy i high with hlt | rfl | hgt
    · rcases Nat.eq_or_lt_of_le hl with rfl | hl'
      · rw [hs] at hi; cases hi
        exact ⟨by omega, by omega, close, he⟩
      · obtain ⟨h1, h2, h3⟩ := h.end_of_start hl' hlt hi
        exact ⟨h1, by omega, h3⟩
    · rw [he] at hi; cases hi
    · omega
  start_of_end {j i close'} hl hh hj := by
    rcases Nat.lt_trichotomy j high with hlt | rfl | hgt
    · rcases Nat.eq_or_lt_of_le hl with rfl | hl'
      · rw [hs] at hj; cases hj
      · obtain ⟨h1, h2, h3⟩ := h.start_of_end hl' hlt hj
        exact ⟨by omega, h2, h3⟩
    · rw [he] at hj; cases hj
      exact ⟨Nat.le_refl _, by omega, header, place, hs⟩
    · omega
  nested {i header₁ j place₁ i' header₂ j' place₂} hl hh hi hi' hlt := by
    rcases Nat.lt_or_ge i' high with hi'' | hi''
    · have hj' := (h.end_of_start (by omega) hi'' hi').2.1
      rcases Nat.eq_or_lt_of_le hl with rfl | hl'
      · rw [hs] at hi; cases hi
        exact Or.inr hj'
      · exact h.nested hl' hi'' hi hi' hlt
    · obtain rfl : i' = high := by omega
      rw [he] at hi'; cases hi'

end PairedWithin

theorem lt_size {code : Array Instruction} {k : Nat} {i : Instruction} (h : code[k]? = some i) :
    k < code.size :=
  (Array.getElem?_eq_some_iff.mp h).1

theorem PairedWithin.wellPaired {code : Array Instruction} (h : PairedWithin code 0 code.size) :
    WellPaired code where
  end_of_start {i header j place} hi := by
    obtain ⟨h1, -, h3⟩ := h.end_of_start (Nat.zero_le _) (lt_size hi) hi
    exact ⟨h1, h3⟩
  start_of_end {j i close} hj :=
    (h.start_of_end (Nat.zero_le _) (lt_size hj) hj).2.2
  nested hi hi' hlt := h.nested (Nat.zero_le _) (lt_size hi') hi hi' hlt

/-! ## Where a tree stands in some code -/

namespace Block

/-- The instructions of a block are those of `whole` from the index `start` on. -/
def StandsIn (whole : Array Instruction) : Block → Nat → Prop
  | empty, _ => True
  | statement before place what, start =>
    before.StandsIn whole start ∧ whole[start + before.size]? = some ⟨.perform what, place⟩
  | loop before place header body close, start =>
    before.StandsIn whole start ∧
      whole[start + before.size]? =
        some ⟨.loopStart header (start + before.size + body.size + 1), place⟩ ∧
      body.StandsIn whole (start + before.size + 1) ∧
      whole[start + before.size + body.size + 1]? = some ⟨.loopEnd (start + before.size), close⟩

variable {whole : Array Instruction}

theorem getElem?_of_toList (front : List Instruction) {back : List Instruction} {i : Instruction}
    (h : whole.toList = front ++ i :: back) : whole[front.length]? = some i := by
  rw [← Array.getElem?_toList, h]
  simp

theorem standsIn_of_toList (b : Block) (front back : List Instruction)
    (h : whole.toList = front ++ (b.code front.length ++ back)) :
    b.StandsIn whole front.length := by
  induction b generalizing front back with
  | empty => trivial
  | statement before place what ih =>
    have hb : whole.toList =
        front ++ (before.code front.length ++ ⟨.perform what, place⟩ :: back) := by
      simpa [Block.code] using h
    refine ⟨ih _ _ hb, ?_⟩
    simpa [length_code] using
      getElem?_of_toList (front ++ before.code front.length) (by simpa using hb)
  | loop before place header body close ihBefore ihBody =>
    have hb : whole.toList = front ++ (before.code front.length ++
        ⟨.loopStart header (front.length + before.size + body.size + 1), place⟩ ::
          (body.code (front.length + before.size + 1) ++
            ⟨.loopEnd (front.length + before.size), close⟩ :: back)) := by
      simpa [Block.code] using h
    let front₁ := front ++ before.code front.length
    let front₂ := front₁ ++
      [⟨.loopStart header (front.length + before.size + body.size + 1), place⟩]
    have h₁ : front₁.length = front.length + before.size := by simp [front₁, length_code]
    have h₂ : front₂.length = front.length + before.size + 1 := by simp [front₂, h₁]
    refine ⟨ihBefore _ _ hb, ?_, ?_, ?_⟩
    · rw [← h₁]
      exact getElem?_of_toList front₁ (by simpa [front₁, length_code] using hb)
    · rw [← h₂]
      exact ihBody front₂ _ (by rw [h₂]; simpa [front₁, front₂] using hb)
    · have h₃ : (front₂ ++ body.code (front.length + before.size + 1)).length =
          front.length + before.size + body.size + 1 := by
        rw [List.length_append, h₂, length_code]; omega
      rw [← h₃]
      exact getElem?_of_toList _ (by simpa [front₁, front₂] using hb)

theorem standsIn_flatten (b : Block) : b.StandsIn b.flatten 0 :=
  b.standsIn_of_toList [] [] (by simp [flatten])

theorem StandsIn.pairedWithin {b : Block} {start : Nat} (h : b.StandsIn whole start) :
    PairedWithin whole start (start + b.size) := by
  induction b generalizing start with
  | empty => exact .refl whole start
  | statement before place what ih =>
    exact (ih h.1).trans (.statement h.2) (by omega) (by simp only [size]; omega)
  | loop before place header body close ihBefore ihBody =>
    obtain ⟨hb, hs, hbody, he⟩ := h
    have inner := ihBody hbody
    rw [Nat.add_right_comm (start + before.size)] at inner
    have outer := (ihBefore hb).trans (inner.wrap (by omega) hs he) (by omega) (by omega)
    have hsize : start + (before.loop place header body close).size =
        start + before.size + body.size + 1 + 1 := by simp only [size]; omega
    rwa [hsize]

/-- The code of a tree is well paired. -/
theorem wellPaired_flatten (b : Block) : WellPaired b.flatten := by
  have := b.standsIn_flatten.pairedWithin
  rw [Nat.zero_add, ← size_flatten] at this
  exact this.wellPaired

end Block

end ConsoleLab
