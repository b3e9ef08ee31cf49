/-
  ConsoleLab.Proofs.Program.Rules — the rules that the blocks of a program obey.

  The rules are about the chunks of a program and the braces they end with, not about how a
  program is read. A chunk is inside the main function if the main function was opened
  before it and has not been closed (`InsideMain`). `Violation` lists what a chunk can do
  against the rules, each with the error for it; `Acceptable` are the programs without a
  violation that are complete, and `Blames` says which error any other program gets: that
  of its first violation, and only without one that of its innermost open block or of its
  missing main function. Main facts: a program without a violation is acceptable if its
  blocks are closed and it has a main function (`acceptable_iff`), and then nothing is to
  blame (`Blames.not_acceptable`).
-/

import ConsoleLab.Program.Outline
import ConsoleLab.Proofs.Loop.Grammar
import ConsoleLab.Proofs.Program.Cutting

namespace ConsoleLab

open Source (Location)

namespace Chunk

def isEntry (c : Chunk) : Bool :=
  c.cut.brace? == some .opening && isEntryHead c.kinds

/-- The line of the first lexeme of a chunk, zero if there is none. -/
def line (c : Chunk) : Nat :=
  (c.lexemes.head?.map fun lexeme => lexeme.place.line).getD 0

end Chunk

def InsideMain (front : List Chunk) : Prop :=
  ∃ before entry after, front = before ++ entry :: after ∧ entry.isEntry = true ∧
    ClosesOpened (braces after)

/-- What the chunk `c`, behind the chunks `front`, does against the rules. -/
inductive Violation (front : List Chunk) (c : Chunk) : StructuralError → Prop
  /-- It closes more blocks than were opened. -/
  | unmatchedClose {brace : Location} : c.cut = .closeBrace brace →
      (braces (front ++ [c])).count .opening < (braces (front ++ [c])).count .closing →
      Violation front c (.unmatchedClose brace.line)
  /-- It opens the main function once more. -/
  | duplicateEntry {first : Chunk} : c.isEntry = true → front.find? Chunk.isEntry = some first →
      Violation front c (.duplicateEntry c.line first.line)
  /-- It opens a block behind a loop header of the wrong form. -/
  | malformedLoop {brace : Location} {fault : Loop.HeaderFault} : c.cut = .openBrace brace →
      InsideMain front → Chunk.startsLoop c.kinds = true →
      Loop.Header.parse c.kinds = .error fault →
      Violation front c (.malformedLoop c.line fault.message)
  /-- It starts a loop and opens no block. -/
  | loopWithoutBody : (∀ brace, c.cut ≠ .openBrace brace) → InsideMain front →
      Chunk.startsLoop c.kinds = true → Violation front c (.loopWithoutBody c.line)

def Sound (cs : List Chunk) : Prop :=
  ∀ front c back e, cs = front ++ c :: back → ¬ Violation front c e

/-- The lexemes, cut into the chunks `cs`, are a program. -/
structure Acceptable (lexemes : List Lexeme) (cs : List Chunk) : Prop where
  braces_match : BracesMatch (lexemes.map Lexeme.kind)
  one_entry : cs.countP Chunk.isEntry = 1
  /-- Inside the main function, a block whose header starts with `for` has a loop header. -/
  loop_headers : ∀ front c back brace, cs = front ++ c :: back → InsideMain front →
    c.cut = .openBrace brace → Chunk.startsLoop c.kinds = true →
    ∃ header, Loop.Header.Spells c.kinds header
  /-- Inside the main function, no other chunk starts with `for`. -/
  loop_bodies : ∀ front c back, cs = front ++ c :: back → InsideMain front →
    c.cut = .semicolon ∨ (∃ brace, c.cut = .closeBrace brace) ∨ c.cut = .textEnd →
    Chunk.startsLoop c.kinds = false

/-- The error that is to be reported for the chunks of a whole text. -/
inductive Blames (cs : List Chunk) : StructuralError → Prop
  /-- That of the first violation. -/
  | violation {front : List Chunk} {c : Chunk} {back : List Chunk} {e : StructuralError} :
      cs = front ++ c :: back → Sound front → Violation front c e → Blames cs e
  /-- Without a violation, that of the innermost block left open. -/
  | unclosed {front : List Chunk} {c : Chunk} {back : List Chunk} {brace : Location} :
      Sound cs → cs = front ++ c :: back → c.cut = .openBrace brace → Balanced (braces back) →
      Blames cs (.unclosedBlock brace.line)
  /-- With every block closed, that of the missing main function. -/
  | missingEntry : Sound cs → Balanced (braces cs) → (∀ c ∈ cs, c.isEntry = false) →
      Blames cs .missingEntry

/-! ## Chunks and their braces -/

theorem braces_append (cs cs' : List Chunk) : braces (cs ++ cs') = braces cs ++ braces cs' :=
  List.filterMap_append

theorem braces_openBrace {c : Chunk} {brace : Location} (h : c.cut = .openBrace brace)
    (cs : List Chunk) : braces (c :: cs) = .opening :: braces cs := by
  simp [braces, h, Cut.brace?]

theorem braces_closeBrace {c : Chunk} {brace : Location} (h : c.cut = .closeBrace brace)
    (cs : List Chunk) : braces (c :: cs) = .closing :: braces cs := by
  simp [braces, h, Cut.brace?]

theorem braces_none {c : Chunk} (h : c.cut.brace? = none) (cs : List Chunk) :
    braces (c :: cs) = braces cs := by
  simp [braces, h]

theorem Chunk.isEntry_iff {c : Chunk} :
    c.isEntry = true ↔ (∃ brace, c.cut = .openBrace brace) ∧ Chunk.isEntryHead c.kinds = true := by
  unfold Chunk.isEntry Cut.brace?
  cases c.cut with
  | openBrace brace => simp
  | closeBrace | semicolon | textEnd => simp

theorem isEntryHead_of_startsLoop {kinds : List LexemeKind} (h : Chunk.startsLoop kinds = true) :
    Chunk.isEntryHead kinds = false := by
  cases kinds with
  | nil => cases h
  | cons kind rest =>
    simp only [Chunk.startsLoop, List.head?_cons, beq_iff_eq, Option.some.injEq] at h
    subst h
    simp [Chunk.isEntryHead]

/-- Two ways to split a list are the same, or one is in the front or the back of the other. -/
theorem split_cases {α : Type} {front front' back back' : List α} {x x' : α}
    (h : front ++ x :: back = front' ++ x' :: back') :
    (front = front' ∧ x = x' ∧ back = back') ∨
      (∃ middle, front' = front ++ x :: middle ∧ back = middle ++ x' :: back') ∨
      ∃ middle, front = front' ++ x' :: middle ∧ back' = middle ++ x :: back := by
  rcases List.append_eq_append_iff.mp h with ⟨middle, rfl, hx⟩ | ⟨middle, rfl, hx⟩
  · cases middle with
    | nil =>
      cases hx
      exact Or.inl ⟨(List.append_nil _).symm, rfl, rfl⟩
    | cons y middle =>
      cases hx
      exact Or.inr (Or.inl ⟨middle, rfl, rfl⟩)
  · cases middle with
    | nil =>
      cases hx
      exact Or.inl ⟨List.append_nil _, rfl, rfl⟩
    | cons y middle =>
      cases hx
      exact Or.inr (Or.inr ⟨middle, rfl, rfl⟩)

theorem Sound.nil : Sound [] := by
  intro front c back e h
  simp at h

/-- Without a violation so far, one more chunk may be the first. -/
theorem Sound.concat {front : List Chunk} {c : Chunk} (h : Sound front)
    (hc : ∀ e, ¬ Violation front c e) : Sound (front ++ [c]) := by
  intro before other after e heq
  rcases split_cases heq with ⟨rfl, rfl, -⟩ | ⟨middle, -, hnil⟩ | ⟨middle, rfl, -⟩
  · exact hc e
  · simp at hnil
  · exact h before other middle e rfl

/-- Of balanced braces none is that of a block left open. -/
theorem not_balanced_of_open {front back : List Chunk} {c : Chunk} {brace : Location}
    (hc : c.cut = .openBrace brace) (h : ClosesOpened (braces back)) :
    ¬ Balanced (braces (front ++ c :: back)) := by
  rw [braces_append, braces_openBrace hc]
  exact fun hb => hb.not_closesOpened h

/-! ## Acceptable programs -/

section

variable {lexemes : List Lexeme} {cs : List Chunk}

theorem Acceptable.sound (hcut : CutsInto lexemes cs) (h : Acceptable lexemes cs) : Sound cs := by
  intro front c back e heq hv
  cases hv with
  | unmatchedClose _ hlt =>
    have hbalanced := (bracesMatch_iff _).mp h.braces_match
    rw [← braces_eq hcut, heq, ← List.singleton_append, ← List.append_assoc,
      braces_append] at hbalanced
    have hle := hbalanced.closesOpened.of_append.count_le
    omega
  | @duplicateEntry first hentry hfirst =>
    have hone := h.one_entry
    have hpos : 0 < front.countP Chunk.isEntry :=
      List.countP_pos_iff.mpr ⟨first, List.mem_of_find?_eq_some hfirst, List.find?_some hfirst⟩
    rw [heq, List.countP_append, List.countP_cons_of_pos hentry] at hone
    omega
  | malformedLoop hc hinside hfor hparse =>
    obtain ⟨header, hspells⟩ := h.loop_headers front c back _ heq hinside hc hfor
    rw [Loop.Header.parse_eq_ok_iff.mpr hspells] at hparse
    cases hparse
  | loopWithoutBody hc hinside hfor =>
    have hcut : c.cut = .semicolon ∨ (∃ brace, c.cut = .closeBrace brace) ∨ c.cut = .textEnd := by
      cases hk : c.cut with
      | openBrace brace => exact absurd hk (hc brace)
      | closeBrace brace => exact Or.inr (Or.inl ⟨brace, rfl⟩)
      | semicolon => exact Or.inl rfl
      | textEnd => exact Or.inr (Or.inr rfl)
    rw [h.loop_bodies front c back heq hinside hcut] at hfor
    cases hfor

/-- Without a violation the main function is not opened twice. -/
theorem Sound.countP_isEntry (h : Sound cs) (hex : ∃ c ∈ cs, c.isEntry = true) :
    cs.countP Chunk.isEntry = 1 := by
  obtain ⟨first, hfirst⟩ := Option.isSome_iff_exists.mp (List.find?_isSome.mpr hex)
  obtain ⟨hentry, front, back, rfl, hfront⟩ := List.find?_eq_some_iff_append.mp hfirst
  have hzero : front.countP Chunk.isEntry = 0 := by
    rw [List.countP_eq_zero]
    intro c hc
    simpa using hfront c hc
  have hback : back.countP Chunk.isEntry = 0 := by
    rw [List.countP_eq_zero]
    intro c hc hagain
    obtain ⟨middle, rest, rfl⟩ := List.append_of_mem hc
    have hfind : (front ++ first :: middle).find? Chunk.isEntry = some first := by
      rw [List.find?_append, List.find?_eq_none.mpr fun c hc => by simpa using hfront c hc]
      simp [hentry]
    exact h (front ++ first :: middle) c rest _ (by simp) (.duplicateEntry hagain hfind)
  rw [List.countP_append, List.countP_cons_of_pos hentry, hzero, hback]

theorem acceptable_iff (hcut : CutsInto lexemes cs) :
    Acceptable lexemes cs ↔ Sound cs ∧ Balanced (braces cs) ∧ ∃ c ∈ cs, c.isEntry = true := by
  constructor
  · intro h
    refine ⟨h.sound hcut, ?_, ?_⟩
    · rw [braces_eq hcut]
      exact (bracesMatch_iff _).mp h.braces_match
    · exact List.countP_pos_iff.mp (by rw [h.one_entry]; exact Nat.one_pos)
  · intro hcomplete
    obtain ⟨hsound, hbalanced, hentry⟩ := hcomplete
    constructor
    case braces_match =>
      rw [bracesMatch_iff, ← braces_eq hcut]
      exact hbalanced
    case one_entry => exact hsound.countP_isEntry hentry
    case loop_headers =>
      intro front c back brace heq hinside hc hfor
      cases hparse : Loop.Header.parse c.kinds with
      | ok header => exact ⟨header, Loop.Header.parse_eq_ok_iff.mp hparse⟩
      | error fault =>
        exact absurd (.malformedLoop hc hinside hfor hparse) (hsound front c back _ heq)
    case loop_bodies =>
      intro front c back heq hinside hc
      cases hfor : Chunk.startsLoop c.kinds with
      | false => rfl
      | true =>
        have hopen : ∀ brace, c.cut ≠ .openBrace brace := by
          rcases hc with hc | ⟨other, hc⟩ | hc
          · rw [hc]; nofun
          · rw [hc]; nofun
          · rw [hc]; nofun
        exact absurd (.loopWithoutBody hopen hinside hfor) (hsound front c back _ heq)

theorem Blames.not_acceptable (hcut : CutsInto lexemes cs) {e : StructuralError}
    (h : Blames cs e) : ¬ Acceptable lexemes cs := by
  rw [acceptable_iff hcut]
  intro hcomplete
  obtain ⟨hsound, hbalanced, entry, hmem, hentry⟩ := hcomplete
  cases h with
  | violation heq _ hv => exact hsound _ _ _ _ heq hv
  | unclosed _ heq hc hback =>
    subst heq
    exact not_balanced_of_open hc hback.closesOpened hbalanced
  | missingEntry _ _ hnone =>
    rw [hnone entry hmem] at hentry
    cases hentry

end

end ConsoleLab
