/-
  ConsoleLab.Proofs.Program.Acceptance — reading accepts the acceptable programs.

  An outline `Follows` the chunks that were read: its frames are the blocks that the
  braces left open, innermost first (`Opened`), and it knows the line of the main function.
  Then the next chunk is refused exactly for what it does against the rules, with the error
  for it (`Follows.readChunk_eq_error_iff`), and else the outline follows one chunk more
  (`Follows.readChunk`). Main fact: `parse_accepts`, over every source text.
-/

import ConsoleLab.Program.Basic
import ConsoleLab.Proofs.Program.Reading
import ConsoleLab.Proofs.Program.Rules

namespace ConsoleLab

open Source (Location)

/-! ## The blocks left open -/

def Opened : List Chunk → List Frame → Prop
  | cs, [] => Balanced (braces cs)
  | cs, frame :: frames => ∃ front c back, cs = front ++ c :: back ∧
      c.cut = .openBrace frame.brace ∧ (frame.kind = .entry ↔ c.isEntry = true) ∧
      Balanced (braces back) ∧ Opened front frames

namespace Opened

variable {cs more : List Chunk} {frame : Frame} {frames : List Frame} {c : Chunk}

/-- Blocks opened and closed again leave no trace. -/
theorem append (h : Opened cs frames) (hmore : Balanced (braces more)) :
    Opened (cs ++ more) frames := by
  cases frames with
  | nil =>
    change Balanced (braces (cs ++ more))
    rw [braces_append]
    exact Balanced.append h hmore
  | cons frame frames =>
    obtain ⟨front, c, back, rfl, hc, hkind, hback, hfront⟩ := h
    refine ⟨front, c, back ++ more, by simp, hc, hkind, ?_, hfront⟩
    rw [braces_append]
    exact hback.append hmore

theorem push (h : Opened cs frames) (hc : c.cut = .openBrace frame.brace)
    (hkind : frame.kind = .entry ↔ c.isEntry = true) : Opened (cs ++ [c]) (frame :: frames) :=
  ⟨cs, c, [], rfl, hc, hkind, .nil, h⟩

theorem close (h : Opened cs (frame :: frames)) {brace : Location}
    (hc : c.cut = .closeBrace brace) : Opened (cs ++ [c]) frames := by
  obtain ⟨front, first, back, rfl, hfirst, -, hback, hfront⟩ := h
  have hpair : Balanced (braces (first :: back ++ [c])) := by
    rw [braces_append, braces_openBrace hfirst, braces_closeBrace hc]
    exact hback.wrap
  have happend := hfront.append hpair
  rwa [← List.append_assoc] at happend

/-- As many blocks are open as there are opening braces more than closing ones. -/
theorem count_eq (h : Opened cs frames) :
    (braces cs).count .opening = (braces cs).count .closing + frames.length := by
  induction frames generalizing cs with
  | nil => exact (Balanced.count_eq h).symm
  | cons frame frames ih =>
    obtain ⟨front, c, back, rfl, hc, -, hback, hfront⟩ := h
    have hleft := ih hfront
    have hright := hback.count_eq
    rw [braces_append, braces_openBrace hc, List.length_cons]
    simp only [List.count_append, List.count_cons_self, List.count_cons_of_ne (by decide :
      Brace.opening ≠ Brace.closing)]
    omega

/-- The main function is among the open blocks exactly inside the main function. -/
theorem any_entry_iff (h : Opened cs frames) :
    (frames.any fun frame => frame.kind == .entry) = true ↔ InsideMain cs := by
  induction frames generalizing cs with
  | nil =>
    refine iff_of_false nofun fun hinside => ?_
    obtain ⟨before, entry, after, rfl, hentry, hafter⟩ := hinside
    obtain ⟨⟨brace, hcut⟩, -⟩ := Chunk.isEntry_iff.mp hentry
    exact not_balanced_of_open hcut hafter h
  | cons frame frames ih =>
    obtain ⟨front, c, back, rfl, hc, hkind, hback, hfront⟩ := h
    rw [List.any_cons, Bool.or_eq_true, beq_iff_eq, hkind, ih hfront]
    constructor
    · intro hor
      rcases hor with hentry | ⟨before, entry, after, rfl, hentry, hafter⟩
      · exact ⟨front, c, back, rfl, hentry, hback.closesOpened⟩
      · refine ⟨before, entry, after ++ c :: back, by simp, hentry, ?_⟩
        rw [braces_append, braces_openBrace hc]
        exact hafter.append hback.closesOpened.opening_cons
    · intro hinside
      obtain ⟨before, entry, after, heq, hentry, hafter⟩ := hinside
      obtain ⟨⟨brace, hcut⟩, -⟩ := Chunk.isEntry_iff.mp hentry
      rcases split_cases heq with ⟨-, rfl, -⟩ | ⟨middle, -, rfl⟩ | ⟨middle, rfl, rfl⟩
      · exact Or.inl hentry
      · exact absurd hback (not_balanced_of_open hcut hafter)
      · rw [braces_append] at hafter
        exact Or.inr ⟨before, entry, middle, rfl, hentry, hafter.of_append⟩

end Opened

/-- An outline that has read these chunks. -/
structure Follows (cs : List Chunk) (o : Outline) : Prop where
  opened : Opened cs o.frames
  entryLine_eq : o.entryLine = (cs.find? Chunk.isEntry).map Chunk.line

theorem Follows.inEntry_iff {cs : List Chunk} {o : Outline} (h : Follows cs o) :
    o.inEntry = true ↔ InsideMain cs :=
  h.opened.any_entry_iff

/-! ## The parts of a chunk -/

namespace Chunk

theorem kinds_ne_nil_of_entryHead {c : Chunk} (h : isEntryHead c.kinds = true) :
    c.kinds ≠ [] := by
  intro hnil
  rw [hnil] at h
  cases h

theorem kinds_ne_nil_of_startsLoop {c : Chunk} (h : startsLoop c.kinds = true) : c.kinds ≠ [] := by
  intro hnil
  rw [hnil] at h
  cases h

theorem place_line {c : Chunk} (h : c.kinds ≠ []) (brace : Location) :
    ((c.lexemes.head?.map Lexeme.place).getD brace).line = c.line := by
  obtain ⟨lexemes, cut⟩ := c
  cases lexemes with
  | nil => exact absurd rfl h
  | cons first rest => rfl

end Chunk

namespace Outline

variable (order : PrintOrder) {o o' : Outline} {c : Chunk} {brace : Location}
  {e : StructuralError}

theorem readStatement_eq_error_iff :
    o.readStatement order c.lexemes = .error e ↔
      o.inEntry = true ∧ Chunk.startsLoop c.kinds = true ∧ e = .loopWithoutBody c.line := by
  obtain ⟨lexemes, cut⟩ := c
  cases lexemes with
  | nil => simp [readStatement, Chunk.kinds, Chunk.startsLoop]
  | cons first rest =>
    cases hin : o.inEntry with
    | false => simp [readStatement, hin]
    | true =>
      cases hfor : Chunk.startsLoop ((first :: rest).map Lexeme.kind) with
      | true =>
        simp only [readStatement, hin, hfor, if_true, Chunk.kinds, true_and, Except.error.injEq]
        exact eq_comm
      | false =>
        simp only [readStatement, hin, hfor, Chunk.kinds, if_true, Bool.false_eq_true, if_false]
        split <;> simp

theorem readStatement_kept {order : PrintOrder} (h : o.readStatement order c.lexemes = .ok o') :
    o'.frames = o.frames ∧ o'.entryLine = o.entryLine := by
  rcases readStatement_cases h with rfl | ⟨first, more, -, ⟨all, -, rfl⟩ | ⟨reason, rfl⟩⟩
  · exact ⟨rfl, rfl⟩
  · exact ⟨rfl, rfl⟩
  · exact ⟨rfl, rfl⟩

theorem closeBlock_eq_error_iff :
    o.closeBlock brace = .error e ↔ o.frames = [] ∧ e = .unmatchedClose brace.line := by
  unfold closeBlock
  split
  · rename_i hf
    simp [hf, eq_comm]
  · rename_i hf
    simp [hf]
  · rename_i hf
    simp [hf]

theorem closeBlock_kept (h : o.closeBlock brace = .ok o') :
    ∃ frame, o.frames = frame :: o'.frames ∧ o'.entryLine = o.entryLine := by
  obtain ⟨frame, frames, hf, ⟨start, -, rfl⟩ | ⟨-, rfl⟩⟩ := closeBlock_cases h
  · exact ⟨frame, hf, rfl⟩
  · exact ⟨frame, hf, rfl⟩

theorem openBlock_eq_error_iff :
    o.openBlock c.lexemes brace = .error e ↔
      (Chunk.isEntryHead c.kinds = true ∧
        ∃ firstLine, o.entryLine = some firstLine ∧ e = .duplicateEntry c.line firstLine) ∨
      (o.inEntry = true ∧ Chunk.startsLoop c.kinds = true ∧
        ∃ fault, Loop.Header.parse c.kinds = .error fault ∧
          e = .malformedLoop c.line fault.message) := by
  have hkinds : c.lexemes.map Lexeme.kind = c.kinds := rfl
  constructor
  · intro h
    unfold openBlock at h
    dsimp only at h
    split at h
    · rename_i hentry
      split at h
      · rename_i firstLine hline
        cases h
        rw [Chunk.place_line (Chunk.kinds_ne_nil_of_entryHead hentry)]
        exact Or.inl ⟨hentry, firstLine, hline, rfl⟩
      · cases h
    · split at h
      · rename_i hin
        split at h
        · rename_i hfor
          split at h
          · rename_i fault hparse
            cases h
            rw [Chunk.place_line (Chunk.kinds_ne_nil_of_startsLoop hfor)]
            exact Or.inr ⟨hin, hfor, fault, hparse, rfl⟩
          · cases h
        · split at h <;> cases h
      · cases h
  · rintro (⟨hentry, firstLine, hline, rfl⟩ | ⟨hin, hfor, fault, hparse, rfl⟩)
    · rw [← Chunk.place_line (Chunk.kinds_ne_nil_of_entryHead hentry) brace]
      simp only [openBlock, hkinds, hentry, hline, if_true]
    · rw [← Chunk.place_line (Chunk.kinds_ne_nil_of_startsLoop hfor) brace]
      simp only [openBlock, hkinds, isEntryHead_of_startsLoop hfor, hin, hfor, hparse, if_true,
        Bool.false_eq_true, if_false]

theorem openBlock_kept (h : o.openBlock c.lexemes brace = .ok o') :
    ∃ kind, o'.frames = ⟨kind, brace⟩ :: o.frames ∧
      (kind = .entry ↔ Chunk.isEntryHead c.kinds = true) ∧
      o'.entryLine = if Chunk.isEntryHead c.kinds then some c.line else o.entryLine := by
  have hkinds : c.lexemes.map Lexeme.kind = c.kinds := rfl
  rcases openBlock_cases h with ⟨hentry, -, rfl⟩ | ⟨hentry, hcases⟩
  · rw [hkinds] at hentry
    refine ⟨.entry, rfl, iff_of_true rfl hentry, ?_⟩
    rw [if_pos hentry, ← Chunk.place_line (Chunk.kinds_ne_nil_of_entryHead hentry) brace]
  · rw [hkinds] at hentry
    rw [hentry, if_neg Bool.false_ne_true]
    rcases hcases with ⟨first, more, header, -, -, rfl⟩ | rfl | ⟨first, more, reason, -, rfl⟩
    · exact ⟨_, rfl, iff_of_false (by simp) Bool.false_ne_true, rfl⟩
    · exact ⟨_, rfl, iff_of_false (by simp) Bool.false_ne_true, rfl⟩
    · exact ⟨_, rfl, iff_of_false (by simp) Bool.false_ne_true, rfl⟩

end Outline

/-! ## One chunk -/

section

variable (order : PrintOrder) {front : List Chunk} {c : Chunk} {o o' : Outline}
  {e : StructuralError}

/-- A closing brace has no block to close exactly where none is open. -/
theorem Opened.unmatched_iff {frames : List Frame} (h : Opened front frames) {brace : Location}
    (hc : c.cut = .closeBrace brace) :
    (braces (front ++ [c])).count .opening < (braces (front ++ [c])).count .closing ↔
      frames = [] := by
  have hcount := h.count_eq
  rw [braces_append, braces_closeBrace hc, List.count_append, List.count_append]
  rw [← List.length_eq_zero_iff]
  change _ + 0 < _ + 1 ↔ _
  omega

/-- Where no brace cuts, only a loop without a body is against the rules. -/
theorem violation_iff_of_none (hc : c.cut.brace? = none) :
    Violation front c e ↔ InsideMain front ∧ Chunk.startsLoop c.kinds = true ∧
      e = .loopWithoutBody c.line := by
  constructor
  · intro hv
    cases hv with
    | unmatchedClose hcut | malformedLoop hcut => rw [hcut] at hc; cases hc
    | duplicateEntry hentry =>
      obtain ⟨⟨brace, hcut⟩, -⟩ := Chunk.isEntry_iff.mp hentry
      rw [hcut] at hc
      cases hc
    | loopWithoutBody _ hin hfor => exact ⟨hin, hfor, rfl⟩
  · intro hfor
    obtain ⟨hin, hfor, rfl⟩ := hfor
    exact .loopWithoutBody (fun brace hcut => by rw [hcut] at hc; cases hc) hin hfor

theorem violation_iff_of_closeBrace {brace : Location} (hc : c.cut = .closeBrace brace)
    {frames : List Frame} (h : Opened front frames) :
    Violation front c e ↔
      (InsideMain front ∧ Chunk.startsLoop c.kinds = true ∧ e = .loopWithoutBody c.line) ∨
        (frames = [] ∧ e = .unmatchedClose brace.line) := by
  constructor
  · intro hv
    cases hv with
    | unmatchedClose hcut hlt =>
      rw [hc] at hcut
      cases hcut
      exact Or.inr ⟨(h.unmatched_iff hc).mp hlt, rfl⟩
    | malformedLoop hcut => rw [hc] at hcut; cases hcut
    | duplicateEntry hentry =>
      obtain ⟨⟨other, hcut⟩, -⟩ := Chunk.isEntry_iff.mp hentry
      rw [hc] at hcut
      cases hcut
    | loopWithoutBody _ hin hfor => exact Or.inl ⟨hin, hfor, rfl⟩
  · intro hcases
    rcases hcases with ⟨hin, hfor, rfl⟩ | ⟨hnil, rfl⟩
    · exact .loopWithoutBody (fun other hcut => by rw [hc] at hcut; cases hcut) hin hfor
    · exact .unmatchedClose hc ((h.unmatched_iff hc).mpr hnil)

theorem violation_iff_of_openBrace {brace : Location} (hc : c.cut = .openBrace brace) :
    Violation front c e ↔
      (Chunk.isEntryHead c.kinds = true ∧ ∃ first, front.find? Chunk.isEntry = some first ∧
        e = .duplicateEntry c.line first.line) ∨
      (InsideMain front ∧ Chunk.startsLoop c.kinds = true ∧
        ∃ fault, Loop.Header.parse c.kinds = .error fault ∧
          e = .malformedLoop c.line fault.message) := by
  constructor
  · intro hv
    cases hv with
    | unmatchedClose hcut => rw [hc] at hcut; cases hcut
    | duplicateEntry hentry hfirst =>
      exact Or.inl ⟨(Chunk.isEntry_iff.mp hentry).2, _, hfirst, rfl⟩
    | malformedLoop _ hin hfor hparse => exact Or.inr ⟨hin, hfor, _, hparse, rfl⟩
    | loopWithoutBody hcut => exact absurd hc (hcut brace)
  · intro hcases
    rcases hcases with ⟨hentry, first, hfirst, rfl⟩ | ⟨hin, hfor, fault, hparse, rfl⟩
    · exact .duplicateEntry (Chunk.isEntry_iff.mpr ⟨⟨brace, hc⟩, hentry⟩) hfirst
    · exact .malformedLoop hc hin hfor hparse

/-- A chunk is refused for what it does against the rules, and for nothing else. -/
theorem Follows.readChunk_eq_error_iff (h : Follows front o) :
    o.readChunk order c = .error e ↔ Violation front c e := by
  unfold Outline.readChunk
  cases hc : c.cut with
  | openBrace brace =>
    dsimp only
    rw [Outline.openBlock_eq_error_iff, violation_iff_of_openBrace hc, h.inEntry_iff,
      h.entryLine_eq]
    simp only [Option.map_eq_some_iff, exists_exists_and_eq_and]
  | closeBrace brace =>
    dsimp only
    rw [violation_iff_of_closeBrace hc h.opened, ← h.inEntry_iff,
      ← Outline.readStatement_eq_error_iff order]
    cases hs : o.readStatement order c.lexemes with
    | error fault =>
      have hframes : o.frames ≠ [] := by
        intro hnil
        have hin := ((Outline.readStatement_eq_error_iff order).mp hs).1
        rw [Outline.inEntry, hnil] at hin
        cases hin
      simp only [hframes, false_and, or_false]
      rfl
    | ok middle =>
      have hkept := Outline.readStatement_kept hs
      change middle.closeBlock brace = .error e ↔ _
      rw [Outline.closeBlock_eq_error_iff, hkept.1]
      simp
  | semicolon | textEnd =>
    dsimp only
    rw [violation_iff_of_none (by rw [hc]; rfl), Outline.readStatement_eq_error_iff, h.inEntry_iff]

theorem find?_isEntry_concat (hc : c.isEntry = false) :
    (front ++ [c]).find? Chunk.isEntry = front.find? Chunk.isEntry := by
  rw [List.find?_append, List.find?_singleton, hc]
  exact Option.or_none

/-- A chunk that opens no block leaves the main function where it is. -/
theorem isEntry_eq_false (hc : ∀ brace, c.cut ≠ .openBrace brace) : c.isEntry = false := by
  cases hentry : c.isEntry with
  | false => rfl
  | true =>
    obtain ⟨⟨brace, hcut⟩, -⟩ := Chunk.isEntry_iff.mp hentry
    exact absurd hcut (hc brace)

theorem Follows.readChunk {order : PrintOrder} (h : Follows front o)
    (hok : o.readChunk order c = .ok o') :
    Follows (front ++ [c]) o' := by
  have hnone : ∀ e, ¬ Violation front c e := fun e hv => by
    rw [(h.readChunk_eq_error_iff order).mpr hv] at hok
    cases hok
  unfold Outline.readChunk at hok
  cases hc : c.cut with
  | openBrace brace =>
    rw [hc] at hok
    obtain ⟨kind, hframes, hkind, hline⟩ := Outline.openBlock_kept hok
    have hentry : c.isEntry = true ↔ Chunk.isEntryHead c.kinds = true := by
      rw [Chunk.isEntry_iff]
      exact and_iff_right ⟨brace, hc⟩
    constructor
    case opened =>
      rw [hframes]
      exact h.opened.push hc (hkind.trans hentry.symm)
    case entryLine_eq =>
      rw [hline]
      cases hhead : Chunk.isEntryHead c.kinds with
      | false =>
        have hno : c.isEntry = false := by
          rw [← Bool.not_eq_true, hentry, hhead]
          nofun
        rw [find?_isEntry_concat hno, ← h.entryLine_eq]
        rfl
      | true =>
        have hyes : c.isEntry = true := hentry.mpr hhead
        have hfirst : front.find? Chunk.isEntry = none := by
          cases hfind : front.find? Chunk.isEntry with
          | none => rfl
          | some first => exact absurd (.duplicateEntry hyes hfind) (hnone _)
        rw [List.find?_append, hfirst, List.find?_singleton, hyes]
        rfl
  | closeBrace brace =>
    rw [hc] at hok
    obtain ⟨middle, hs, hclose⟩ := ok_of_bind hok
    obtain ⟨hframes, hline⟩ := Outline.readStatement_kept hs
    obtain ⟨frame, hf, hline'⟩ := Outline.closeBlock_kept hclose
    constructor
    case opened =>
      have hopened := h.opened
      rw [← hframes, hf] at hopened
      exact hopened.close hc
    case entryLine_eq =>
      rw [hline', hline, find?_isEntry_concat (isEntry_eq_false (by rw [hc]; nofun)),
        h.entryLine_eq]
  | semicolon | textEnd =>
    rw [hc] at hok
    obtain ⟨hframes, hline⟩ := Outline.readStatement_kept hok
    constructor
    case opened =>
      rw [hframes]
      refine h.opened.append ?_
      rw [braces_none (by rw [hc]; rfl)]
      exact .nil
    case entryLine_eq =>
      rw [hline, find?_isEntry_concat (isEntry_eq_false (by rw [hc]; nofun)), h.entryLine_eq]

end

/-! ## Whole programs -/

theorem Follows.readChunks (order : PrintOrder) {front : List Chunk} {o : Outline}
    (h : Follows front o) (hs : Sound front) (cs : List Chunk) :
    match o.readChunks order cs with
    | .ok o' => Sound (front ++ cs) ∧ Follows (front ++ cs) o'
    | .error e => ∃ before c after, front ++ cs = before ++ c :: after ∧ Sound before ∧
        Violation before c e := by
  induction cs generalizing front o with
  | nil =>
    rw [List.append_nil]
    exact ⟨hs, h⟩
  | cons c rest ih =>
    unfold Outline.readChunks
    cases hc : o.readChunk order c with
    | error e => exact ⟨front, c, rest, rfl, hs, (h.readChunk_eq_error_iff order).mp hc⟩
    | ok o' =>
      have hnone : ∀ e, ¬ Violation front c e := fun e hv => by
        rw [(h.readChunk_eq_error_iff order).mpr hv] at hc
        cases hc
      have hrest := ih (h.readChunk hc) (hs.concat hnone)
      rwa [List.append_assoc] at hrest

theorem follows_blank : Follows [] .blank where
  opened := Balanced.nil
  entryLine_eq := rfl

theorem Sound.exists_follows {cs : List Chunk} (h : Sound cs) : ∃ o, Follows cs o := by
  have hread := follows_blank.readChunks .source .nil cs
  split at hread
  · exact ⟨_, hread.2⟩
  · obtain ⟨before, c, after, heq, -, hv⟩ := hread
    exact absurd hv (h before c after _ heq)

theorem Violation.unique {front : List Chunk} {c : Chunk} {e e' : StructuralError}
    (hs : Sound front) (h : Violation front c e) (h' : Violation front c e') : e = e' := by
  obtain ⟨o, hf⟩ := hs.exists_follows
  have hread := (hf.readChunk_eq_error_iff .source).mpr h
  rw [(hf.readChunk_eq_error_iff .source).mpr h'] at hread
  cases hread
  rfl

theorem Blames.unique {cs : List Chunk} {e e' : StructuralError} (h : Blames cs e)
    (h' : Blames cs e') : e = e' := by
  cases h with
  | violation heq hs hv =>
    cases h' with
    | violation heq' hs' hv' =>
      rcases split_cases (heq.symm.trans heq') with ⟨rfl, rfl, -⟩ | ⟨_, rfl, -⟩ | ⟨_, rfl, -⟩
      · exact hv.unique hs hv'
      · exact absurd hv (hs' _ _ _ _ rfl)
      · exact absurd hv' (hs _ _ _ _ rfl)
    | unclosed hs' | missingEntry hs' => exact absurd hv (hs' _ _ _ _ heq)
  | unclosed hs heq hc hback =>
    subst heq
    cases h' with
    | violation heq' _ hv' => exact absurd hv' (hs _ _ _ _ heq')
    | unclosed _ heq' hc' hback' =>
      rcases split_cases heq' with ⟨-, rfl, -⟩ | ⟨_, -, rfl⟩ | ⟨_, -, rfl⟩
      · rw [hc] at hc'
        cases hc'
        rfl
      · exact absurd hback (not_balanced_of_open hc' hback'.closesOpened)
      · exact absurd hback' (not_balanced_of_open hc hback.closesOpened)
    | missingEntry _ hb => exact absurd hb (not_balanced_of_open hc hback.closesOpened)
  | missingEntry hs hb =>
    cases h' with
    | violation heq' _ hv' => exact absurd hv' (hs _ _ _ _ heq')
    | unclosed _ heq' hc' hback' =>
      subst heq'
      exact absurd hb (not_balanced_of_open hc' hback'.closesOpened)
    | missingEntry => rfl

/-- At the end, either nothing is missing or there is something to blame. -/
theorem Follows.complete {cs : List Chunk} {o : Outline} (h : Follows cs o) (hs : Sound cs) :
    match o.complete with
    | .ok _ => Balanced (braces cs) ∧ ∃ c ∈ cs, c.isEntry = true
    | .error e => Blames cs e := by
  have hopened := h.opened
  have hline := h.entryLine_eq
  unfold Outline.complete
  cases hf : o.frames with
  | cons frame frames =>
    rw [hf] at hopened
    obtain ⟨front, c, back, heq, hc, -, hback, -⟩ := hopened
    exact .unclosed hs heq hc hback
  | nil =>
    rw [hf] at hopened
    have hbalanced : Balanced (braces cs) := hopened
    cases hfind : cs.find? Chunk.isEntry with
    | none =>
      rw [hfind] at hline
      rw [hline]
      refine .missingEntry hs hbalanced fun c hc => ?_
      simpa using List.find?_eq_none.mp hfind c hc
    | some entry =>
      rw [hfind] at hline
      rw [hline]
      exact ⟨hbalanced, entry, List.mem_of_find?_eq_some hfind, List.find?_some hfind⟩

/-- Reading all chunks accepts an acceptable program and else reports what is to blame. -/
theorem ofLexemes_accepts (order : PrintOrder) (lexemes : List Lexeme) :
    match Outline.ofLexemes order lexemes with
    | .ok _ => Acceptable lexemes (chunks lexemes)
    | .error e => Blames (chunks lexemes) e := by
  have hcut : CutsInto lexemes (chunks lexemes) := cutsInto_iff.mpr rfl
  have hread := follows_blank.readChunks order .nil (chunks lexemes)
  unfold Outline.ofLexemes
  cases hr : Outline.blank.readChunks order (chunks lexemes) with
  | error e =>
    rw [hr] at hread
    obtain ⟨before, c, after, heq, hs, hv⟩ := hread
    exact .violation heq hs hv
  | ok o =>
    rw [hr] at hread
    obtain ⟨hs, hf⟩ := hread
    have hcomplete := hf.complete hs
    change match o.complete with
      | .ok _ => Acceptable lexemes (chunks lexemes)
      | .error e => Blames (chunks lexemes) e
    cases hc : o.complete with
    | error e =>
      rw [hc] at hcomplete
      exact hcomplete
    | ok o' =>
      rw [hc] at hcomplete
      exact (acceptable_iff hcut).mpr ⟨hs, hcomplete⟩

/-- A text is read as a program if and only if its chunks are acceptable, and else the error is
    that of the first violation, or without one that of the innermost block left open, or
    with every block closed that of the missing main function. -/
theorem parse_accepts (order : PrintOrder) (source : String) :
    ∃ cs, CutsInto (lex source) cs ∧
      ((∃ p, Program.parse order source = .ok p) ↔ Acceptable (lex source) cs) ∧
      ∀ e, Program.parse order source = .error e ↔ Blames cs e := by
  have hcut : CutsInto (lex source) (chunks (lex source)) := cutsInto_iff.mpr rfl
  have hread := ofLexemes_accepts order (lex source)
  refine ⟨chunks (lex source), hcut, ?_⟩
  unfold Program.parse
  cases ho : Outline.ofLexemes order (lex source) with
  | ok o =>
    rw [ho] at hread
    refine ⟨iff_of_true ⟨_, rfl⟩ hread, fun e => iff_of_false nofun fun hb => ?_⟩
    exact hb.not_acceptable hcut hread
  | error e =>
    rw [ho] at hread
    refine ⟨iff_of_false nofun (hread.not_acceptable hcut), fun e' => ⟨fun he => ?_, fun hb => ?_⟩⟩
    · cases he
      exact hread
    · rw [hread.unique hb]
      rfl

/-- The loop without a body comes first, so neither the closing brace to spare nor the second main
    function is reported. -/
example :
    (match Program.parse .source
        "int main() \x7b for (;;) x; \x7d \x7d int main() \x7b" with
      | .ok _ => false
      | .error e => decide (e = .loopWithoutBody 1)) = true := by
  decide +kernel

end ConsoleLab
