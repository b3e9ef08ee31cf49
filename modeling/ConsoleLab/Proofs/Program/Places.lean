/-
  ConsoleLab.Proofs.Program.Places — what a program says about places.

  Every instruction of a program `StandsFor` one lexeme of its source: the first of its
  statement or header, or the closing brace of its loop. Reading goes through the lexemes
  once from left to right, so each operation adds instructions and remarks for later
  lexemes than those before (`Adds`, `Grows`). Main fact: all places of a program are those
  of lexemes shown in the lines of the source, they come in the order of the source, and
  an error names a line that exists (`parse_located`).
-/

import ConsoleLab.Proofs.Lexeme.Places
import ConsoleLab.Proofs.Program.Acceptance
import ConsoleLab.Proofs.Program.Nesting
import ConsoleLab.Session.Screen

namespace ConsoleLab

open Source (Location)
open Text (isBlank)

/-! ## The lexemes of chunks -/

def Cut.lexeme? : Cut → Option Lexeme
  | .openBrace place => some ⟨.symbol .openBrace, place⟩
  | .closeBrace place => some ⟨.symbol .closeBrace, place⟩
  | .semicolon => none
  | .textEnd => none

def Chunk.parts (c : Chunk) : List Lexeme :=
  c.lexemes ++ c.cut.lexeme?.toList

/-- The chunks hold the lexemes in their order; only semicolons are left out. -/
theorem CutsInto.sublist {lexemes : List Lexeme} {cs : List Chunk} (h : CutsInto lexemes cs) :
    (cs.flatMap Chunk.parts).Sublist lexemes := by
  induction h with
  | textEnd _ => simp [Chunk.parts, Cut.lexeme?]
  | openBrace _ _ ih | closeBrace _ _ ih =>
    rw [List.flatMap_cons, Chunk.parts, List.append_assoc]
    exact (List.Sublist.refl _).append (ih.cons_cons _)
  | semicolon _ _ _ ih =>
    rw [List.flatMap_cons, Chunk.parts, List.append_assoc]
    exact (List.Sublist.refl _).append (ih.cons _)

/-! ## What an instruction stands for -/

/-- The instruction comes from the chunk `c` and stands for one of its lexemes. -/
inductive StandsFor (order : PrintOrder) (c : Chunk) : Instruction → Lexeme → Prop
  /-- A statement stands for its first lexeme. -/
  | statement {first : Lexeme} {more : List Lexeme} {all : List Statement} {what : Statement} :
      (∀ brace, c.cut ≠ .openBrace brace) → c.lexemes = first :: more →
      recognize order c.kinds = .statements all → what ∈ all →
      StandsFor order c ⟨.perform what, first.place⟩ first
  /-- The start of a loop stands for the first lexeme of its header. -/
  | header {first : Lexeme} {more : List Lexeme} {brace : Location} {header : Loop.Header}
      {stop : Nat} : c.cut = .openBrace brace → c.lexemes = first :: more →
      Loop.Header.parse c.kinds = .ok header →
      StandsFor order c ⟨.loopStart header stop, first.place⟩ first
  /-- The end of a loop stands for its closing brace. -/
  | closing {brace : Location} {start : Nat} : c.cut = .closeBrace brace →
      StandsFor order c ⟨.loopEnd start, brace⟩ ⟨.symbol .closeBrace, brace⟩

theorem StandsFor.place_eq {order : PrintOrder} {c : Chunk} {i : Instruction} {lexeme : Lexeme}
    (h : StandsFor order c i lexeme) : i.place = lexeme.place := by
  cases h <;> rfl

/-- Two reads of one chain, which is the chunk `c`. -/
def Chunk.Chains (c : Chunk) (i j : Instruction) : Prop :=
  ∃ first more names name name', c.lexemes = first :: more ∧ IsChain c.kinds names ∧
    name ∈ names ∧ name' ∈ names ∧ i = ⟨.perform (.read name .value), first.place⟩ ∧
    j = ⟨.perform (.read name' .value), first.place⟩

def InOrder (cs : List Chunk) (i j : Instruction) : Prop :=
  i.place < j.place ∨ i.place = j.place ∧ ∃ c ∈ cs, c.Chains i j

/-! ## Instructions whose loops are still open -/

namespace Instruction

def unpaired (i : Instruction) : Instruction :=
  i.endAt 0

theorem unpaired_endAt (stop : Nat) (i : Instruction) : (i.endAt stop).unpaired = i.unpaired := by
  obtain ⟨action, place⟩ := i
  cases action <;> rfl

theorem place_unpaired (i : Instruction) : i.unpaired.place = i.place := by
  obtain ⟨action, place⟩ := i
  cases action <;> rfl

end Instruction

theorem StandsFor.of_unpaired {order : PrintOrder} {c : Chunk} {i : Instruction} {lexeme : Lexeme}
    (h : StandsFor order c i.unpaired lexeme) : StandsFor order c i lexeme := by
  obtain ⟨action, place⟩ := i
  cases action with
  | perform | loopEnd => exact h
  | loopStart header stop =>
    cases h with
    | header hc hl hh => exact .header hc hl hh

theorem InOrder.of_unpaired {cs : List Chunk} {i j : Instruction}
    (h : InOrder cs i.unpaired j.unpaired) : InOrder cs i j := by
  unfold InOrder at h
  rw [i.place_unpaired, j.place_unpaired] at h
  rcases h with hlt | ⟨heq, c, hc, first, more, names, name, name', hl, hchain, hn, hn', hi, hj⟩
  · exact Or.inl hlt
  · exact Or.inr ⟨heq, c, hc, first, more, names, name, name', hl, hchain, hn, hn',
      eq_of_endAt hi, eq_of_endAt hj⟩

/-- The instructions of an outline, none of which names the end of its loop. -/
def Outline.listing (o : Outline) : List Instruction :=
  o.code.toList.map Instruction.unpaired

/-! ## What the reading adds -/

/-- Instructions and remarks (the newest first) that come from some of the chunks `cs` and stand
    for lexemes of `ls`, in the order of the source. -/
structure Adds (order : PrintOrder) (cs : List Chunk) (ls : List Lexeme)
    (is : List Instruction) (rs : List Remark) : Prop where
  stands : ∀ i ∈ is, ∃ c ∈ cs, ∃ lexeme ∈ ls, StandsFor order c i lexeme
  ordered : is.Pairwise (InOrder cs)
  remarks : ∀ r ∈ rs, ∃ c ∈ cs, ∃ lexeme ∈ ls, c.lexemes.head? = some lexeme ∧
    r.place = lexeme.place
  remarks_ordered : rs.Pairwise fun r r' => r'.place < r.place

def Ascending (ls : List Lexeme) : Prop :=
  ls.Pairwise fun a b => a.place < b.place

namespace Adds

variable {order : PrintOrder} {cs : List Chunk} {ls ls' : List Lexeme}
  {is is' : List Instruction} {rs rs' : List Remark}

theorem nil : Adds order cs ls [] [] :=
  ⟨nofun, .nil, nofun, .nil⟩

theorem mono (h : Adds order cs ls is rs) (hsub : ls ⊆ ls') : Adds order cs ls' is rs where
  stands i hi := by
    obtain ⟨c, hc, lexeme, hl, hs⟩ := h.stands i hi
    exact ⟨c, hc, lexeme, hsub hl, hs⟩
  ordered := h.ordered
  remarks r hr := by
    obtain ⟨c, hc, lexeme, hl, hs⟩ := h.remarks r hr
    exact ⟨c, hc, lexeme, hsub hl, hs⟩
  remarks_ordered := h.remarks_ordered

theorem append (h : Adds order cs ls is rs) (h' : Adds order cs ls' is' rs')
    (hls : Ascending (ls ++ ls')) : Adds order cs (ls ++ ls') (is ++ is') (rs' ++ rs) := by
  obtain ⟨-, -, hlater⟩ := List.pairwise_append.mp hls
  constructor
  case stands =>
    intro i hi
    rcases List.mem_append.mp hi with hi | hi
    · exact (h.mono (List.subset_append_left ls ls')).stands i hi
    · exact (h'.mono (List.subset_append_right ls ls')).stands i hi
  case ordered =>
    refine List.pairwise_append.mpr ⟨h.ordered, h'.ordered, fun i hi j hj => ?_⟩
    obtain ⟨_, _, lexeme, hl, hs⟩ := h.stands i hi
    obtain ⟨_, _, lexeme', hl', hs'⟩ := h'.stands j hj
    left
    rw [hs.place_eq, hs'.place_eq]
    exact hlater lexeme hl lexeme' hl'
  case remarks =>
    intro r hr
    rcases List.mem_append.mp hr with hr | hr
    · exact (h'.mono (List.subset_append_right ls ls')).remarks r hr
    · exact (h.mono (List.subset_append_left ls ls')).remarks r hr
  case remarks_ordered =>
    refine List.pairwise_append.mpr ⟨h'.remarks_ordered, h.remarks_ordered, fun r' hr' r hr => ?_⟩
    obtain ⟨-, -, lexeme, hl, -, hs⟩ := h.remarks r hr
    obtain ⟨-, -, lexeme', hl', -, hs'⟩ := h'.remarks r' hr'
    rw [hs, hs']
    exact hlater lexeme hl lexeme' hl'

end Adds

def Grows (order : PrintOrder) (cs : List Chunk) (ls : List Lexeme) (o o' : Outline) : Prop :=
  ∃ is rs, Adds order cs ls is rs ∧ o'.listing = o.listing ++ is ∧ o'.remarks = rs ++ o.remarks

section

variable {order : PrintOrder} {cs : List Chunk} {ls ls' : List Lexeme} {o o' o'' : Outline}

theorem Grows.refl (h : o'.code = o.code) (hr : o'.remarks = o.remarks) :
    Grows order cs ls o o' :=
  ⟨[], [], .nil, by rw [Outline.listing, h, List.append_nil, Outline.listing], hr⟩

theorem Grows.mono (h : Grows order cs ls o o') (hsub : ls ⊆ ls') : Grows order cs ls' o o' := by
  obtain ⟨is, rs, hadds, hcode, hremarks⟩ := h
  exact ⟨is, rs, hadds.mono hsub, hcode, hremarks⟩

theorem Grows.trans (h : Grows order cs ls o o') (h' : Grows order cs ls' o' o'')
    (hls : Ascending (ls ++ ls')) : Grows order cs (ls ++ ls') o o'' := by
  obtain ⟨is, rs, hadds, hcode, hremarks⟩ := h
  obtain ⟨is', rs', hadds', hcode', hremarks'⟩ := h'
  refine ⟨is ++ is', rs' ++ rs, hadds.append hadds' hls, ?_, ?_⟩
  · rw [hcode', hcode, List.append_assoc]
  · rw [hremarks', hremarks, List.append_assoc]

/-- One remark at the first lexeme of a chunk. -/
theorem Grows.remark {c : Chunk} (hc : c ∈ cs) {first : Lexeme} {more : List Lexeme}
    (hl : c.lexemes = first :: more) {reason : SkipReason} (hcode : o'.code = o.code)
    (hr : o'.remarks = ⟨first.place, reason⟩ :: o.remarks) :
    Grows order cs c.lexemes o o' := by
  have hremarks : ∀ r ∈ [Remark.mk first.place reason], ∃ c' ∈ cs, ∃ lexeme ∈ c.lexemes,
      c'.lexemes.head? = some lexeme ∧ r.place = lexeme.place := by
    intro r hmem
    obtain rfl := List.mem_singleton.mp hmem
    exact ⟨c, hc, first, by rw [hl]; exact List.mem_cons_self, by rw [hl]; rfl, rfl⟩
  refine ⟨[], [⟨first.place, reason⟩], ⟨nofun, .nil, hremarks, List.pairwise_singleton _ _⟩, ?_, hr⟩
  rw [Outline.listing, hcode, List.append_nil, Outline.listing]

theorem listing_add (place : Location) (all : List Statement) :
    (o.add place all).listing =
      o.listing ++ all.map fun what => ⟨.perform what, place⟩ := by
  simp [Outline.listing, Outline.add, Instruction.unpaired, Instruction.endAt]

/-- What is recognised in one statement stands for its first lexeme; only the reads of a chain
    share it. -/
theorem adds_statements {c : Chunk} (hc : c ∈ cs) (hopen : ∀ brace, c.cut ≠ .openBrace brace)
    {first : Lexeme} {more : List Lexeme} (hl : c.lexemes = first :: more)
    {all : List Statement} (hr : recognize order c.kinds = .statements all) :
    Adds order cs c.lexemes (all.map fun what => ⟨.perform what, first.place⟩) [] := by
  refine ⟨?_, ?_, nofun, .nil⟩
  · intro i hi
    obtain ⟨what, hw, rfl⟩ := List.mem_map.mp hi
    exact ⟨c, hc, first, by rw [hl]; exact List.mem_cons_self, .statement hopen hl hr hw⟩
  · rcases recognize_single_or_chain hr with ⟨what, rfl, -⟩ | ⟨names, hchain, rfl⟩
    · exact List.pairwise_singleton _ _
    · rw [List.map_map]
      refine List.pairwise_map.mpr (List.pairwise_iff_forall_sublist.mpr fun {name name'} hsub => ?_)
      have hmem := hsub.subset
      exact Or.inr ⟨rfl, c, hc, first, more, names, name, name', hl, hchain,
        hmem List.mem_cons_self, hmem (by simp), rfl, rfl⟩

theorem readStatement_grows {c : Chunk} (hc : c ∈ cs) (hopen : ∀ brace, c.cut ≠ .openBrace brace)
    (h : o.readStatement order c.lexemes = .ok o') : Grows order cs c.lexemes o o' := by
  rcases Outline.readStatement_cases h with rfl | ⟨first, more, hl, ⟨all, hr, rfl⟩ | ⟨reason, rfl⟩⟩
  · exact .refl rfl rfl
  · exact ⟨_, [], adds_statements hc hopen hl hr, listing_add first.place all, rfl⟩
  · exact .remark hc hl rfl rfl

theorem openBlock_grows {c : Chunk} (hc : c ∈ cs) {brace : Location}
    (hcut : c.cut = .openBrace brace) (h : o.openBlock c.lexemes brace = .ok o') :
    Grows order cs c.lexemes o o' := by
  rcases Outline.openBlock_cases h with ⟨-, -, rfl⟩ | ⟨-, hcases⟩
  · exact .refl rfl rfl
  rcases hcases with ⟨first, more, header, hl, hparse, rfl⟩ | rfl | ⟨first, more, reason, hl, rfl⟩
  · refine ⟨[⟨.loopStart header 0, first.place⟩], [], ⟨?_, ?_, nofun, .nil⟩, ?_, rfl⟩
    · intro i hi
      obtain rfl := List.mem_singleton.mp hi
      exact ⟨c, hc, first, by rw [hl]; exact List.mem_cons_self, .header hcut hl hparse⟩
    · exact List.pairwise_singleton _ _
    · simp [Outline.listing, Outline.openLoop, Outline.push, Instruction.unpaired,
        Instruction.endAt]
  · exact .refl rfl rfl
  · exact .remark hc hl rfl rfl

/-- Filling in the end of a loop does not show in the listing. -/
theorem map_unpaired_modify (code : List Instruction) (start stop : Nat) :
    (code.modify start (.endAt stop)).map Instruction.unpaired =
      code.map Instruction.unpaired := by
  induction code generalizing start with
  | nil => simp
  | cons i code ih =>
    cases start with
    | zero => simp [Instruction.unpaired_endAt]
    | succ start => simp [ih start]

theorem closeBlock_grows {c : Chunk} (hc : c ∈ cs) {brace : Location}
    (hcut : c.cut = .closeBrace brace) (h : o.closeBlock brace = .ok o') :
    Grows order cs [⟨.symbol .closeBrace, brace⟩] o o' := by
  obtain ⟨frame, frames, -, ⟨start, -, rfl⟩ | ⟨-, rfl⟩⟩ := Outline.closeBlock_cases h
  · refine ⟨[⟨.loopEnd start, brace⟩], [], ⟨?_, ?_, nofun, .nil⟩, ?_, rfl⟩
    · intro i hi
      obtain rfl := List.mem_singleton.mp hi
      exact ⟨c, hc, _, List.mem_singleton.mpr rfl, .closing hcut⟩
    · exact List.pairwise_singleton _ _
    · simp [Outline.listing, Outline.endLoop, map_unpaired_modify, Instruction.unpaired,
        Instruction.endAt]
  · exact .refl rfl rfl

theorem readChunk_grows {c : Chunk} (hc : c ∈ cs) (hls : Ascending c.parts)
    (h : o.readChunk order c = .ok o') : Grows order cs c.parts o o' := by
  have hsub : c.lexemes ⊆ c.parts := List.subset_append_left _ _
  unfold Outline.readChunk at h
  cases hcut : c.cut with
  | openBrace brace =>
    rw [hcut] at h
    exact (openBlock_grows hc hcut h).mono hsub
  | closeBrace brace =>
    rw [hcut] at h
    obtain ⟨middle, hs, hclose⟩ := ok_of_bind h
    have hparts : c.parts = c.lexemes ++ [⟨.symbol .closeBrace, brace⟩] := by
      rw [Chunk.parts, hcut]
      rfl
    rw [hparts] at hls ⊢
    exact (readStatement_grows hc (by rw [hcut]; nofun) hs).trans (closeBlock_grows hc hcut hclose) hls
  | semicolon | textEnd =>
    rw [hcut] at h
    exact (readStatement_grows hc (by rw [hcut]; nofun) h).mono hsub

theorem readChunks_grows {ds : List Chunk} (hds : ds ⊆ cs) (hls : Ascending (ds.flatMap Chunk.parts))
    (h : o.readChunks order ds = .ok o') : Grows order cs (ds.flatMap Chunk.parts) o o' := by
  induction ds generalizing o with
  | nil =>
    cases h
    exact .refl rfl rfl
  | cons c ds ih =>
    obtain ⟨middle, hc, hrest⟩ := ok_of_bind h
    rw [List.flatMap_cons] at hls ⊢
    obtain ⟨hlc, hlds, -⟩ := List.pairwise_append.mp hls
    have hfirst := readChunk_grows (hds List.mem_cons_self) hlc hc
    exact hfirst.trans (ih (List.subset_of_cons_subset hds) hlds hrest) hls

end

/-! ## The lines of skipped pieces -/

theorem trim_ne_empty {line : String} {c : Char} (h : c ∈ line.toList) (hc : isBlank c = false) :
    Text.trim line ≠ "" := by
  have hmem : ∀ {cs : List Char}, c ∈ cs → c ∈ cs.dropWhile isBlank := by
    intro cs hcs
    rw [← List.takeWhile_append_dropWhile (p := isBlank) (l := cs)] at hcs
    rcases List.mem_append.mp hcs with htake | hdrop
    · rw [List.all_eq_true.mp List.all_takeWhile c htake] at hc
      cases hc
    · exact hdrop
  have htrim : c ∈ (Text.trim line).toList := by
    rw [Text.trim, String.toList_ofList, Text.trimRight, List.mem_reverse]
    exact hmem (List.mem_reverse.mpr (hmem h))
  intro hempty
  rw [hempty] at htrim
  cases htrim

theorem mem_of_mem_dropRepeats {n : Nat} {ns : List Nat} (h : n ∈ dropRepeats ns) : n ∈ ns := by
  fun_induction dropRepeats ns with
  | case1 => exact h
  | case2 => exact h
  | case3 a rest ih => exact List.mem_cons_of_mem _ (ih h)
  | case4 a b rest hne ih =>
    rcases List.mem_cons.mp h with rfl | h
    · exact List.mem_cons_self
    · exact List.mem_cons_of_mem _ (ih h)

/-- Of numbers that never fall, each is left once. -/
theorem nodup_dropRepeats {ns : List Nat} (h : ns.Pairwise (· ≤ ·)) : (dropRepeats ns).Nodup := by
  fun_induction dropRepeats ns with
  | case1 => exact .nil
  | case2 a => exact List.pairwise_singleton _ a
  | case3 a rest ih => exact ih (List.pairwise_cons.mp h).2
  | case4 a b rest hne ih =>
    obtain ⟨hfirst, hrest⟩ := List.pairwise_cons.mp h
    refine List.nodup_cons.mpr ⟨fun hmem => ?_, ih hrest⟩
    have hab := hfirst b List.mem_cons_self
    rcases List.mem_cons.mp (mem_of_mem_dropRepeats hmem) with rfl | hmem
    · exact hne rfl
    · have hba := (List.pairwise_cons.mp hrest).1 a hmem
      omega

/-! ## Whole programs -/

/-- The places of a program that was read from the chunks `cs` of its source. -/
structure Located (order : PrintOrder) (source : String) (cs : List Chunk) (p : Program) :
    Prop where
  /-- Every instruction has the place of the lexeme it stands for, which the source shows there. -/
  instructions : ∀ i ∈ p.code, ∃ c ∈ cs, ∃ lexeme, StandsFor order c i lexeme ∧
    i.place = lexeme.place ∧ lexeme.ShownIn source
  instructions_in_order : p.code.toList.Pairwise (InOrder cs)
  /-- Every skipped piece has the place of the first lexeme of its chunk. -/
  skipped : ∀ s ∈ p.skipped, ∃ c ∈ cs, ∃ lexeme, c.lexemes.head? = some lexeme ∧
    s.place = lexeme.place ∧ lexeme.ShownIn source
  skipped_in_order : p.skipped.Pairwise fun s s' => s.place < s'.place
  /-- The text of a skipped piece is that of its line. -/
  skipped_text : ∀ s ∈ p.skipped, ∃ line, (Text.lines source)[s.place.line - 1]? = some line ∧
    s.text = Text.trim line ∧ s.text ≠ ""
  /-- No line is marked as skipped twice. -/
  marked_once : ∀ session : Session, session.program = p → session.sourceView.skipped.Nodup

section

variable {order : PrintOrder} {source : String} {cs : List Chunk}

theorem ascending_parts (h : CutsInto (lex source) cs) : Ascending (cs.flatMap Chunk.parts) :=
  (pairwise_lex source).sublist h.sublist

theorem shownIn_of_mem_parts (h : CutsInto (lex source) cs) {lexeme : Lexeme}
    (hl : lexeme ∈ cs.flatMap Chunk.parts) : lexeme.ShownIn source :=
  shownIn_of_mem_lex (h.sublist.subset hl)

theorem grows_of_ofLexemes {lexemes : List Lexeme} {o : Outline} (hcut : CutsInto lexemes cs)
    (hls : Ascending (cs.flatMap Chunk.parts)) (h : Outline.ofLexemes order lexemes = .ok o) :
    ∃ is rs, Adds order cs (cs.flatMap Chunk.parts) is rs ∧ o.listing = is ∧ o.remarks = rs := by
  obtain ⟨last, hl, hc⟩ := ok_of_bind h
  rw [← cutsInto_iff.mp hcut] at hl
  obtain ⟨is, rs, hadds, hcode, hremarks⟩ := readChunks_grows (List.Subset.refl cs) hls hl
  unfold Outline.complete at hc
  split at hc
  · cases hc
  · cases hc
  · cases hc
    exact ⟨is, rs, hadds, by rw [hcode]; rfl, by rw [hremarks]; exact List.append_nil rs⟩

theorem located_of_parse (hcut : CutsInto (lex source) cs) {p : Program}
    (h : Program.parse order source = .ok p) : Located order source cs p := by
  obtain ⟨o, ho, hp⟩ := ok_of_bind h
  cases hp
  have hls := ascending_parts hcut
  obtain ⟨is, rs, hadds, rfl, rfl⟩ := grows_of_ofLexemes hcut hls ho
  -- a skipped piece quotes a remark, and keeps its place
  have hremark : ∀ s ∈ (Program.ofOutline source o).skipped, ∃ r ∈ o.remarks,
      s = Program.quote (Text.lines source).toArray r := by
    intro s hs
    obtain ⟨r, hr, rfl⟩ := List.mem_map.mp hs
    exact ⟨r, List.mem_reverse.mp hr, rfl⟩
  have hordered : (Program.ofOutline source o).skipped.Pairwise fun s s' => s.place < s'.place :=
    List.pairwise_map.mpr (List.pairwise_reverse.mpr hadds.remarks_ordered)
  constructor
  case instructions =>
    intro i hi
    obtain ⟨c, hc, lexeme, hl, hs⟩ := hadds.stands i.unpaired
      (List.mem_map.mpr ⟨i, Array.mem_toList_iff.mpr hi, rfl⟩)
    exact ⟨c, hc, lexeme, hs.of_unpaired, hs.of_unpaired.place_eq, shownIn_of_mem_parts hcut hl⟩
  case instructions_in_order =>
    exact (List.pairwise_map.mp hadds.ordered).imp InOrder.of_unpaired
  case skipped =>
    intro s hs
    obtain ⟨r, hr, rfl⟩ := hremark s hs
    obtain ⟨c, hc, lexeme, hl, hhead, hplace⟩ := hadds.remarks r hr
    exact ⟨c, hc, lexeme, hhead, hplace, shownIn_of_mem_parts hcut hl⟩
  case skipped_in_order => exact hordered
  case skipped_text =>
    intro s hs
    obtain ⟨r, hr, rfl⟩ := hremark s hs
    obtain ⟨_, _, lexeme, hl, -, hplace⟩ := hadds.remarks r hr
    obtain ⟨-, c, -, -, hchar, hvisible⟩ := (shownIn_of_mem_parts hcut hl).first_char
    rw [← hplace] at hchar
    obtain ⟨line, hline, hmem⟩ := line_of_charAt? hchar
    have htext : (Program.quote (Text.lines source).toArray r).text = Text.trim line := by
      simp [Program.quote, hline]
    exact ⟨line, hline, htext, by rw [htext]; exact trim_ne_empty hmem hvisible⟩
  case marked_once =>
    intro session hsession
    have hlines : ((Program.ofOutline source o).skipped.map fun s => s.place.line).Pairwise
        (· ≤ ·) :=
      List.pairwise_map.mpr (hordered.imp Location.line_le_of_lt)
    rw [Session.sourceView, hsession]
    exact nodup_dropRepeats hlines

theorem Chunk.exists_line {c : Chunk} (h : c.kinds ≠ []) :
    ∃ lexeme ∈ c.parts, lexeme.place.line = c.line := by
  obtain ⟨lexemes, cut⟩ := c
  cases lexemes with
  | nil => exact absurd rfl h
  | cons first more => exact ⟨first, by simp [Chunk.parts], rfl⟩

theorem Blames.exists_line {e : StructuralError} (h : Blames cs e) {line : Nat}
    (hline : e.line? = some line) :
    ∃ lexeme ∈ cs.flatMap Chunk.parts, lexeme.place.line = line := by
  have hmem : ∀ {front c back}, cs = front ++ c :: back → ∀ {lexeme}, lexeme ∈ c.parts →
      lexeme ∈ cs.flatMap Chunk.parts := by
    intro front c back heq lexeme hl
    exact List.mem_flatMap.mpr ⟨c, by rw [heq]; simp, hl⟩
  cases h with
  | @violation front c back _ heq _ hv =>
    have hfirst : c.kinds ≠ [] → some c.line = some line →
        ∃ lexeme ∈ cs.flatMap Chunk.parts, lexeme.place.line = line := by
      intro hne hsome
      obtain ⟨lexeme, hl, hplace⟩ := Chunk.exists_line hne
      exact ⟨lexeme, hmem heq hl, hplace.trans (Option.some.inj hsome)⟩
    cases hv with
    | @unmatchedClose brace hcut =>
      refine ⟨⟨.symbol .closeBrace, brace⟩, hmem heq ?_, Option.some.inj hline⟩
      simp [Chunk.parts, hcut, Cut.lexeme?]
    | duplicateEntry hentry =>
      exact hfirst (Chunk.kinds_ne_nil_of_entryHead (Chunk.isEntry_iff.mp hentry).2) hline
    | malformedLoop _ _ hfor | loopWithoutBody _ _ hfor =>
      exact hfirst (Chunk.kinds_ne_nil_of_startsLoop hfor) hline
  | @unclosed front c back brace _ heq hcut =>
    refine ⟨⟨.symbol .openBrace, brace⟩, hmem heq ?_, Option.some.inj hline⟩
    simp [Chunk.parts, hcut, Cut.lexeme?]
  | missingEntry => cases hline

/-- The line that an error names is that of a lexeme of the text. -/
theorem exists_shownIn_of_error {order : PrintOrder} {source : String} {e : StructuralError}
    {line : Nat} (he : Program.parse order source = .error e) (hline : e.line? = some line) :
    ∃ lexeme : Lexeme, lexeme.ShownIn source ∧ lexeme.place.line = line := by
  have hcut : CutsInto (lex source) (chunks (lex source)) := cutsInto_iff.mpr rfl
  have hread := ofLexemes_accepts order (lex source)
  unfold Program.parse at he
  cases ho : Outline.ofLexemes order (lex source) with
  | ok o =>
    rw [ho] at he
    cases he
  | error e' =>
    rw [ho] at he hread
    cases he
    obtain ⟨lexeme, hl, hplace⟩ := Blames.exists_line hread hline
    exact ⟨lexeme, shownIn_of_mem_parts hcut hl, hplace⟩

/-- Whatever the source text and the order of printing, the places of a program are those of its
    lexemes, shown in the lines of the source and in their order, and an error with a line
    names a line of the source. -/
theorem parse_located (order : PrintOrder) (source : String) :
    ∃ cs, CutsInto (lex source) cs ∧
      (∀ p, Program.parse order source = .ok p → Located order source cs p) ∧
      ∀ e line, Program.parse order source = .error e → e.line? = some line →
        1 ≤ line ∧ line ≤ (Text.lines source).length := by
  have hcut : CutsInto (lex source) (chunks (lex source)) := cutsInto_iff.mpr rfl
  refine ⟨chunks (lex source), hcut, fun p hp => located_of_parse hcut hp, ?_⟩
  intro e line he hline
  obtain ⟨lexeme, hshown, rfl⟩ := exists_shownIn_of_error he hline
  exact ⟨hshown.one_le_line, hshown.line_le⟩

end

/-- Lines that end with a carriage return, a chain of reads behind a scope, two skipped statements
    on one line, and a loop. -/
def chainAndLoop : String :=
  "#include <iostream>\r\nint main() \x7b // start\r\n  std::cin >> a >> b; x = 1; y++;\r\n" ++
    "  for (i = 0; i < 2; i++) \x7b\r\n    cout << a;\r\n  \x7d\r\n\x7d"

theorem parse_located_chainAndLoop :
    (∃ p, Program.parse .source chainAndLoop = .ok p ∧
      p.code.toList.map Instruction.place = [⟨3, 3⟩, ⟨3, 3⟩, ⟨4, 3⟩, ⟨5, 5⟩, ⟨6, 3⟩] ∧
      p.skipped.map Skipped.place = [⟨3, 23⟩, ⟨3, 30⟩] ∧
      ∃ cs, CutsInto (lex chainAndLoop) cs ∧ Located .source chainAndLoop cs p) ∧
    Program.parse .source (chainAndLoop ++ "\n\x7d") = .error (.unmatchedClose 8) ∧
      1 ≤ 8 ∧ 8 ≤ (Text.lines (chainAndLoop ++ "\n\x7d")).length := by
  have hplaces : (match Program.parse .source chainAndLoop with
      | .ok p => (p.code.toList.map Instruction.place, p.skipped.map Skipped.place)
      | .error _ => ([], [])) =
        ([⟨3, 3⟩, ⟨3, 3⟩, ⟨4, 3⟩, ⟨5, 5⟩, ⟨6, 3⟩], [⟨3, 23⟩, ⟨3, 30⟩]) := by decide +kernel
  have hfault : (match Program.parse .source (chainAndLoop ++ "\n\x7d") with
      | .ok _ => none
      | .error e => some e) = some (.unmatchedClose 8) := by decide +kernel
  constructor
  · cases hp : Program.parse .source chainAndLoop with
    | error e => simp [hp] at hplaces
    | ok p =>
      rw [hp] at hplaces
      obtain ⟨hcode, hskipped⟩ := Prod.mk.inj hplaces
      obtain ⟨cs, hcut, hlocated, -⟩ := parse_located .source chainAndLoop
      exact ⟨p, rfl, hcode, hskipped, cs, hcut, hlocated p hp⟩
  · cases hp : Program.parse .source (chainAndLoop ++ "\n\x7d") with
    | ok p => simp [hp] at hfault
    | error e =>
      rw [hp] at hfault
      obtain rfl := Option.some.inj hfault
      obtain ⟨-, -, -, herror⟩ := parse_located .source (chainAndLoop ++ "\n\x7d")
      exact ⟨rfl, herror _ 8 hp rfl⟩

end ConsoleLab
