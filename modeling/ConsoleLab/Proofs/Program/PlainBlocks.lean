/-
  ConsoleLab.Proofs.Program.PlainBlocks — blocks that only group.

  A block without a header, or behind a header that is no loop's, leaves no trace in the code.
  The reading does not look at the remarks that it has made (`readChunks_behind`), and a plain
  block that is open further out changes nothing of what is read inside it, as long as it is
  not closed (`readChunks_wrapped`). So braces may be put around any code that closes what it
  opens, with loops open around it and loops in it. Main fact: `plain_block_transparent`.
-/

import ConsoleLab.Proofs.Program.Surroundings

namespace ConsoleLab

open Source (Location)

namespace Outline

/-- What is done to both sides of a computation in two parts is done to all of it. -/
theorem map_bind_map {ε α : Type} {f : α → α} {k k' : α → Except ε α}
    (h : ∀ a, k (f a) = (k' a).map f) (x : Except ε α) :
    (x.map f >>= k) = (x >>= k').map f := by
  cases x with
  | error e => rfl
  | ok a => exact h a

/-- A change that neither adds nor hides the main function, and that adding to the code and to the
    remarks does not undo, may be made before a statement is read or after. -/
theorem readStatement_map (order : PrintOrder) {f : Outline → Outline} {o : Outline}
    (hin : (f o).inEntry = o.inEntry)
    (hadd : ∀ place all, (f o).add place all = f (o.add place all))
    (hskip : ∀ place reason, (f o).skip place reason = f (o.skip place reason))
    (lexemes : List Lexeme) :
    (f o).readStatement order lexemes = (o.readStatement order lexemes).map f := by
  cases lexemes with
  | nil => rfl
  | cons first more =>
    simp only [readStatement, hin]
    cases o.inEntry with
    | false => rfl
    | true =>
      cases Chunk.startsLoop ((first :: more).map Lexeme.kind) with
      | true => rfl
      | false =>
        cases recognize order ((first :: more).map Lexeme.kind) with
        | statements all => exact congrArg Except.ok (hadd first.place all)
        | silent => rfl
        | skipped reason => exact congrArg Except.ok (hskip first.place reason)

/-! ## Older remarks -/

def behind (remarks : List Remark) (o : Outline) : Outline :=
  { o with remarks := o.remarks ++ remarks }

section

variable (order : PrintOrder) (remarks : List Remark)

theorem openBlock_behind (o : Outline) (header : List Lexeme) (brace : Location) :
    (o.behind remarks).openBlock header brace =
      (o.openBlock header brace).map (behind remarks) := by
  have hin : (o.behind remarks).inEntry = o.inEntry := rfl
  have hline : (o.behind remarks).entryLine = o.entryLine := rfl
  simp only [openBlock, hin, hline]
  split
  · cases o.entryLine <;> rfl
  · split
    · split
      · cases Loop.Header.parse (header.map Lexeme.kind) <;> rfl
      · split <;> rfl
    · rfl

theorem closeBlock_behind (o : Outline) (brace : Location) :
    (o.behind remarks).closeBlock brace = (o.closeBlock brace).map (behind remarks) := by
  obtain ⟨frames, code, own, entryLine⟩ := o
  cases frames with
  | nil => rfl
  | cons frame frames =>
    obtain ⟨kind, opened⟩ := frame
    cases kind <;> rfl

theorem readChunk_behind (o : Outline) (c : Chunk) :
    (o.behind remarks).readChunk order c = (o.readChunk order c).map (behind remarks) := by
  have hstatement : ∀ lexemes, (o.behind remarks).readStatement order lexemes =
      (o.readStatement order lexemes).map (behind remarks) :=
    readStatement_map order rfl (fun _ _ => rfl) (fun _ _ => rfl)
  obtain ⟨lexemes, cut⟩ := c
  cases cut with
  | openBrace brace => exact openBlock_behind remarks o lexemes brace
  | closeBrace brace =>
    simp only [readChunk, hstatement]
    exact map_bind_map (fun middle => closeBlock_behind remarks middle brace) _
  | semicolon | textEnd => exact hstatement lexemes

/-- Older remarks stay as they are, and nothing depends on them. -/
theorem readChunks_behind (o : Outline) (cs : List Chunk) :
    (o.behind remarks).readChunks order cs = (o.readChunks order cs).map (behind remarks) := by
  induction cs generalizing o with
  | nil => rfl
  | cons c cs ih =>
    rw [readChunks, readChunk_behind, readChunks]
    exact map_bind_map ih _

theorem complete_behind (o : Outline) :
    (o.behind remarks).complete = o.complete.map (behind remarks) := by
  obtain ⟨frames, code, own, entryLine⟩ := o
  cases frames with
  | nil => cases entryLine <;> rfl
  | cons frame frames => rfl

end

/-! ## A plain block further out -/

section

variable {order : PrintOrder} {o o' : Outline} {frames : List Frame}

/-- A block opens on top of whatever blocks are open, if only the main function is seen or not seen
    as before. -/
theorem openBlock_withFrames (hin : (o.withFrames frames).inEntry = o.inEntry)
    {header : List Lexeme} {brace : Location} (h : o.openBlock header brace = .ok o') :
    ∃ kind, o'.frames = ⟨kind, brace⟩ :: o.frames ∧
      (o.withFrames frames).openBlock header brace =
        .ok (o'.withFrames (⟨kind, brace⟩ :: frames)) := by
  have hline : (o.withFrames frames).entryLine = o.entryLine := rfl
  simp only [openBlock, hin, hline] at h ⊢
  split at h
  · rename_i hhead
    rw [if_pos hhead]
    split at h
    · cases h
    · cases h
      exact ⟨.entry, rfl, rfl⟩
  · rename_i hhead
    rw [if_neg hhead]
    split at h
    · rename_i hentry
      rw [if_pos hentry]
      split at h
      · rename_i hfor
        rw [if_pos hfor]
        split at h
        · cases h
        · cases h
          exact ⟨.loop o.code.size, rfl, rfl⟩
      · rename_i hfor
        rw [if_neg hfor]
        split at h
        · rename_i hnone
          cases h
          exact ⟨.plain, rfl, if_pos hnone⟩
        · rename_i hsome
          cases h
          exact ⟨.plain, rfl, if_neg hsome⟩
    · rename_i hentry
      cases h
      exact ⟨.plain, rfl, if_neg hentry⟩

/-- A closing brace looks at the innermost block only. -/
theorem closeBlock_withFrames {top : Frame} {rest : List Frame} (hframes : o.frames = top :: rest)
    (frames : List Frame) (brace : Location) :
    ∃ o', o.closeBlock brace = .ok o' ∧ o'.frames = rest ∧
      (o.withFrames (top :: frames)).closeBlock brace = .ok (o'.withFrames frames) := by
  obtain ⟨opened, code, remarks, entryLine⟩ := o
  obtain rfl : opened = top :: rest := hframes
  obtain ⟨kind, place⟩ := top
  cases kind <;> exact ⟨_, rfl, rfl, rfl⟩

variable {frame : Frame} {inner below : List Frame}

theorem inEntry_wrapped (hplain : frame.kind = .plain) (hframes : o.frames = inner ++ below) :
    (o.withFrames (inner ++ frame :: below)).inEntry = o.inEntry := by
  have hframe : (frame.kind == FrameKind.entry) = false := by
    rw [hplain]
    rfl
  simp [inEntry, withFrames, hframes, hframe]

theorem readStatement_wrapped (hplain : frame.kind = .plain) (hframes : o.frames = inner ++ below)
    {lexemes : List Lexeme} (h : o.readStatement order lexemes = .ok o') :
    o'.frames = inner ++ below ∧
      (o.withFrames (inner ++ frame :: below)).readStatement order lexemes =
        .ok (o'.withFrames (inner ++ frame :: below)) := by
  have hkept : o'.frames = o.frames ∧ o'.entryLine = o.entryLine :=
    readStatement_kept (c := ⟨lexemes, .semicolon⟩) h
  have hmap := readStatement_map order (f := fun o => o.withFrames (inner ++ frame :: below))
    (inEntry_wrapped hplain hframes) (fun _ _ => rfl) (fun _ _ => rfl) lexemes
  rw [h] at hmap
  exact ⟨hkept.1.trans hframes, hmap⟩

/-- A plain block below the blocks `inner` changes nothing of how a chunk is read that does not
    close it. -/
theorem readChunk_wrapped (hplain : frame.kind = .plain) (hframes : o.frames = inner ++ below)
    {c : Chunk}
    (hclose : (braces [c]).count .closing ≤ (braces [c]).count .opening + inner.length)
    (h : o.readChunk order c = .ok o') :
    ∃ inner', o'.frames = inner' ++ below ∧
      inner'.length + (braces [c]).count .closing =
        inner.length + (braces [c]).count .opening ∧
      (o.withFrames (inner ++ frame :: below)).readChunk order c =
        .ok (o'.withFrames (inner' ++ frame :: below)) := by
  unfold readChunk at h ⊢
  cases hcut : c.cut with
  | openBrace brace =>
    rw [hcut] at h
    obtain ⟨kind, hopened, hread⟩ := openBlock_withFrames (inEntry_wrapped hplain hframes) h
    rw [braces_openBrace hcut]
    exact ⟨⟨kind, brace⟩ :: inner, by rw [hopened, hframes]; rfl, rfl, hread⟩
  | closeBrace brace =>
    rw [hcut] at h
    rw [braces_closeBrace hcut] at hclose ⊢
    obtain ⟨middle, hmiddle, hlast⟩ := ok_of_bind h
    obtain ⟨hkept, hread⟩ := readStatement_wrapped hplain hframes hmiddle
    cases inner with
    | nil => cases hclose
    | cons top inner =>
      obtain ⟨closed, hclosed, hrest, hwrapped⟩ :=
        closeBlock_withFrames hkept (inner ++ frame :: below) brace
      rw [hclosed] at hlast
      cases hlast
      dsimp only
      rw [hread]
      exact ⟨inner, hrest, rfl, hwrapped⟩
  | semicolon | textEnd =>
    rw [hcut] at h
    rw [braces_none (by rw [hcut]; rfl)]
    obtain ⟨hkept, hread⟩ := readStatement_wrapped hplain hframes h
    exact ⟨inner, hkept, rfl, hread⟩

/-- Chunks that close what they open, and maybe the blocks `inner`, are read as if the plain block
    below these were not there. -/
theorem readChunks_wrapped (hplain : frame.kind = .plain) (hframes : o.frames = inner ++ below)
    {cs : List Chunk}
    (hclose : ∀ front, front <+: braces cs →
      front.count .closing ≤ front.count .opening + inner.length)
    (h : o.readChunks order cs = .ok o') :
    ∃ inner', o'.frames = inner' ++ below ∧
      inner'.length + (braces cs).count .closing =
        inner.length + (braces cs).count .opening ∧
      (o.withFrames (inner ++ frame :: below)).readChunks order cs =
        .ok (o'.withFrames (inner' ++ frame :: below)) := by
  induction cs generalizing o inner with
  | nil =>
    cases h
    exact ⟨inner, hframes, rfl, rfl⟩
  | cons c cs ih =>
    have hsplit : braces (c :: cs) = braces [c] ++ braces cs := braces_append [c] cs
    rw [hsplit] at hclose ⊢
    obtain ⟨next, hnext, hrest⟩ := ok_of_bind h
    obtain ⟨middle, hmiddle, hlength, hread⟩ := readChunk_wrapped hplain hframes
      (hclose _ (List.prefix_append _ _)) hnext
    have hmore : ∀ front, front <+: braces cs →
        front.count .closing ≤ front.count .opening + middle.length := by
      intro front hf
      have hle := hclose (braces [c] ++ front) ((List.prefix_append_right_inj _).mpr hf)
      rw [List.count_append, List.count_append] at hle
      omega
    obtain ⟨inner', hframes', hlength', hread'⟩ := ih hmiddle hmore hrest
    refine ⟨inner', hframes', ?_, ?_⟩
    · rw [List.count_append, List.count_append]
      omega
    · rw [readChunks, hread]
      exact hread'

/-- A plain block around balanced chunks: they are read as without it, and what is open behind
    them is what was open in front. -/
theorem readChunks_inPlain (brace : Location) {cs : List Chunk} (hbraces : Balanced (braces cs))
    (h : o.readChunks order cs = .ok o') :
    o'.frames = o.frames ∧
      (o.push .plain brace).readChunks order cs = .ok (o'.push .plain brace) := by
  have hplain : (⟨.plain, brace⟩ : Frame).kind = .plain := rfl
  obtain ⟨inner, hframes, hlength, hread⟩ :=
    readChunks_wrapped hplain (List.nil_append o.frames).symm hbraces.closesOpened h
  have hcount := hbraces.count_eq
  obtain rfl : inner = [] := by
    rw [← List.length_eq_zero_iff]
    simp at hlength
    omega
  have hkept : o'.frames = o.frames := hframes
  refine ⟨hkept, ?_⟩
  unfold push
  rw [hkept]
  exact hread

end

/-! ## Lexemes that end with a chunk -/

/-- The lexemes are read without an error, from the outline `o` to the outline `o'`, and none is
    held behind them. A cut ends all parentheses, so none of these is open there either. -/
def ReadsTo (order : PrintOrder) (lexemes : List Lexeme) (o o' : Outline) : Prop :=
  ∃ front, chunks lexemes = front ++ [⟨[], .textEnd⟩] ∧ o.readChunks order front = .ok o'

theorem ReadsTo.readChunks_append {order : PrintOrder} {lexemes : List Lexeme} {o o' : Outline}
    (h : ReadsTo order lexemes o o') (more : List Lexeme) :
    o.readChunks order (chunks (lexemes ++ more)) = o'.readChunks order (chunks more) := by
  obtain ⟨front, hfront, hread⟩ := h
  rw [chunks_append hfront, Outline.readChunks_append, hread]
  rfl

def headerRemarks (header : List Lexeme) : List Remark :=
  header.head?.toList.map fun first => ⟨first.place, .blockRunsOnce⟩

/-- A block in the main function whose header is neither a loop's nor that of the main function
    is plain, and has a remark if it has a header. -/
theorem openBlock_plain {o : Outline} (hin : o.inEntry = true) {header : List Lexeme}
    (hentry : Chunk.isEntryHead (header.map Lexeme.kind) = false)
    (hloop : Chunk.startsLoop (header.map Lexeme.kind) = false) (brace : Location) :
    o.openBlock header brace =
      .ok ({ o with remarks := headerRemarks header ++ o.remarks }.push .plain brace) := by
  simp only [openBlock, hin, hentry, hloop, if_true, Bool.false_eq_true, if_false]
  cases header <;> rfl

/-- The two outlines have the same actions, and the second one has additional remarks for the
    given reasons, in one place. -/
def AgreeWith (reasons : List SkipReason) (o o' : Outline) : Prop :=
  o.code.map Instruction.action = o'.code.map Instruction.action ∧
    ∃ later earlier, o.remarks.map Remark.reason = later ++ earlier ∧
      o'.remarks.map Remark.reason = later ++ reasons ++ earlier

theorem AgreeWith.congr {reasons : List SkipReason} {o₁ o₁' o₂ o₂' : Outline}
    (h : AgreeWith reasons o₁ o₂) (h₁ : o₁.Agree o₁') (h₂ : o₂.Agree o₂') :
    AgreeWith reasons o₁' o₂' := by
  obtain ⟨hcode, later, earlier, hless, hmore⟩ := h
  exact ⟨h₁.1.symm.trans (hcode.trans h₂.1), later, earlier, h₁.2.symm.trans hless,
    h₂.2.symm.trans hmore⟩

theorem agreeWith_behind (older more : List Remark) (o : Outline) :
    AgreeWith (more.map Remark.reason) (o.behind older) (o.behind (more ++ older)) := by
  refine ⟨rfl, o.remarks.map Remark.reason, older.map Remark.reason, ?_, ?_⟩
  · exact List.map_append
  · simp [behind]

end Outline

/-! ## Plain blocks in a program -/

section

variable {o o' : Outline} {front header body back : List Lexeme} {opened closed : Location}

open Outline in
/-- From the same outline on, a plain block is read like its body, with the remark on its header
    in front of what is noted in it. -/
theorem readChunks_plainBlock {order : PrintOrder} (opened closed : Location) (back : List Lexeme)
    (hin : o.inEntry = true) (hheader : Uncut header)
    (hentry : Chunk.isEntryHead (header.map Lexeme.kind) = false)
    (hloop : Chunk.startsLoop (header.map Lexeme.kind) = false)
    (hbraces : BracesMatch (body.map Lexeme.kind)) (hbody : ReadsTo order body o o') :
    ∃ bare : Outline, o' = bare.behind o.remarks ∧
      o.readChunks order (chunks (header ++ ⟨.symbol .openBrace, opened⟩ ::
          (body ++ ⟨.symbol .closeBrace, closed⟩ :: back))) =
        (bare.behind (headerRemarks header ++ o.remarks)).readChunks order (chunks back) := by
  obtain ⟨cs, hcs, hread⟩ := hbody
  have hcut : chunks (header ++ ⟨.symbol .openBrace, opened⟩ ::
      (body ++ ⟨.symbol .closeBrace, closed⟩ :: back)) =
        ⟨header, .openBrace opened⟩ :: (cs ++ ⟨[], .closeBrace closed⟩ :: chunks back) := by
    rw [← cutsInto_iff.mp (.openBrace hheader (cutsInto_iff.mpr rfl)), chunks_append hcs]
    rfl
  have hbalanced : Balanced (braces cs) := by
    rw [← braces_textEnd, ← hcs]
    exact balanced_chunks hbraces
  -- with the block the remarks in front are others, so both sides are read without any: from `own`
  let own : Outline := { o with remarks := [] }
  let remarks := headerRemarks header ++ o.remarks
  have hbehind : o.readChunks order cs = (own.readChunks order cs).map (behind o.remarks) :=
    readChunks_behind order o.remarks own cs
  rw [hread] at hbehind
  obtain ⟨bare, hbare, rfl⟩ : ∃ bare, own.readChunks order cs = .ok bare ∧
      o' = bare.behind o.remarks := by
    cases hown : own.readChunks order cs with
    | error e =>
      rw [hown] at hbehind
      cases hbehind
    | ok bare =>
      rw [hown] at hbehind
      exact ⟨bare, rfl, Except.ok.inj hbehind⟩
  have hinside := (readChunks_inPlain opened hbalanced hbare).2
  refine ⟨bare, rfl, ?_⟩
  rw [hcut]
  calc o.readChunks order
        (⟨header, .openBrace opened⟩ :: (cs ++ ⟨[], .closeBrace closed⟩ :: chunks back))
      = ((own.push .plain opened).behind remarks).readChunks order
          (cs ++ ⟨[], .closeBrace closed⟩ :: chunks back) := by
        rw [readChunks]
        change (o.openBlock header opened >>= _) = _
        rw [openBlock_plain hin hentry hloop]
        rfl
    _ = ((bare.push .plain opened).behind remarks).readChunks order
          (⟨[], .closeBrace closed⟩ :: chunks back) := by
        rw [Outline.readChunks_append, readChunks_behind, hinside]
        rfl
    _ = (bare.behind remarks).readChunks order (chunks back) := rfl

open Outline in
/-- A plain block in the main function may as well not be there, whatever loops are open around it
    or stand in it: whatever comes before and after it, a program ends in the same way with the
    block and with nothing but its body, and differs by the remark on the header only, which
    stands between the remarks before the block and those that follow. Without a header the two are
    the same, and at other places they have the same outcome. -/
theorem plain_block_transparent (order : PrintOrder)
    (hfront : ReadsTo order front .blank o) (hin : o.inEntry = true) (hheader : Uncut header)
    (hentry : Chunk.isEntryHead (header.map Lexeme.kind) = false)
    (hloop : Chunk.startsLoop (header.map Lexeme.kind) = false)
    (hbraces : BracesMatch (body.map Lexeme.kind)) (hbody : ReadsTo order body o o') :
    let unwrapped := front ++ body ++ back
    let wrapped := front ++ (header ++ ⟨.symbol .openBrace, opened⟩ ::
      (body ++ ⟨.symbol .closeBrace, closed⟩ :: back))
    (∃ rest : Except StructuralError Outline,
        ofLexemes order unwrapped = rest.map (behind o.remarks) ∧
        ofLexemes order wrapped = rest.map (behind (headerRemarks header ++ o.remarks))) ∧
      (header = [] → ofLexemes order wrapped = ofLexemes order unwrapped) ∧
      ∀ unwrapped' wrapped' : List Lexeme,
        unwrapped'.map Lexeme.kind = unwrapped.map Lexeme.kind →
        wrapped'.map Lexeme.kind = wrapped.map Lexeme.kind →
        SameOutcome (AgreeWith ((headerRemarks header).map Remark.reason))
          (ofLexemes order unwrapped') (ofLexemes order wrapped') := by
  intro unwrapped wrapped
  obtain ⟨bare, rfl, hblock⟩ :=
    readChunks_plainBlock opened closed back hin hheader hentry hloop hbraces hbody
  let rest := bare.readChunks order (chunks back) >>= complete
  have hunwrapped : ofLexemes order unwrapped = rest.map (behind o.remarks) := by
    have hread : blank.readChunks order (chunks unwrapped) =
        (bare.readChunks order (chunks back)).map (behind o.remarks) := by
      have hassoc : unwrapped = front ++ (body ++ back) := List.append_assoc front body back
      rw [hassoc, hfront.readChunks_append, hbody.readChunks_append, readChunks_behind]
    unfold ofLexemes
    rw [hread]
    exact map_bind_map (complete_behind o.remarks) _
  have hwrapped : ofLexemes order wrapped =
      rest.map (behind (headerRemarks header ++ o.remarks)) := by
    have hread : blank.readChunks order (chunks wrapped) =
        (bare.readChunks order (chunks back)).map (behind (headerRemarks header ++ o.remarks)) := by
      rw [hfront.readChunks_append, hblock, readChunks_behind]
    unfold ofLexemes
    rw [hread]
    exact map_bind_map (complete_behind _) _
  refine ⟨⟨rest, hunwrapped, hwrapped⟩, ?_, fun unwrapped' wrapped' hplain hbraced => ?_⟩
  · rintro rfl
    rw [hunwrapped, hwrapped]
    rfl
  · have hsame : SameOutcome (AgreeWith ((headerRemarks header).map Remark.reason))
        (ofLexemes order unwrapped) (ofLexemes order wrapped) := by
      rw [hunwrapped, hwrapped]
      exact .map_map (agreeWith_behind o.remarks (headerRemarks header)) rest
    exact hsame.congr (ofLexemes_sameOutcome hplain.symm order)
      (ofLexemes_sameOutcome hbraced.symm order) AgreeWith.congr

end

def frontOfBlock : List Lexeme :=
  lex "int main() \x7b for (i = 0; i < 2; i++) \x7b"

def bodyOfBlock : List Lexeme :=
  lex "n = 1; for (j = 0; j < 2; j++) \x7b cout << j; \x7d"

def backOfBlock : List Lexeme :=
  lex "\x7d \x7d"

open Outline in
theorem plain_block_transparent_nested :
    let unwrapped := frontOfBlock ++ bodyOfBlock ++ backOfBlock
    let wrapped := frontOfBlock ++ (lex "if (i)" ++ ⟨.symbol .openBrace, .start⟩ ::
      (bodyOfBlock ++ ⟨.symbol .closeBrace, .start⟩ :: backOfBlock))
    ∃ o o', ofLexemes .source unwrapped = .ok o ∧ ofLexemes .source wrapped = .ok o' ∧
      AgreeWith [.blockRunsOnce] o o' ∧ o.code.size = 5 ∧
      o.remarks.map Remark.reason = [.assignment] := by
  intro unwrapped wrapped
  have hread : (blank.readChunks .source (chunks frontOfBlock).dropLast).toOption.map
      (fun o => (o.inEntry, (o.readChunks .source (chunks bodyOfBlock).dropLast).toBool)) =
        some (true, true) := by decide +kernel
  have hunwrapped : (ofLexemes .source unwrapped).toOption.map
      (fun o => (o.code.size, o.remarks.map Remark.reason)) = some (5, [.assignment]) := by
    decide +kernel
  cases hfront : blank.readChunks .source (chunks frontOfBlock).dropLast with
  | error e =>
    rw [hfront] at hread
    cases hread
  | ok o =>
    rw [hfront] at hread
    obtain ⟨hin, hok⟩ := Prod.mk.inj (Option.some.inj hread)
    cases hbody : o.readChunks .source (chunks bodyOfBlock).dropLast with
    | error e =>
      rw [hbody] at hok
      cases hok
    | ok o' =>
      have hfront : ReadsTo .source frontOfBlock .blank o :=
        ⟨(chunks frontOfBlock).dropLast, by decide +kernel, hfront⟩
      have hbody : ReadsTo .source bodyOfBlock o o' :=
        ⟨(chunks bodyOfBlock).dropLast, by decide +kernel, hbody⟩
      have hdepth : heldDepth 0 ((lex "if (i)").map Lexeme.kind) = some 0 := by decide +kernel
      have hheader : Uncut (lex "if (i)") := (uncut_of_heldDepth hdepth).1
      have hsame : SameOutcome (AgreeWith ((headerRemarks (lex "if (i)")).map Remark.reason))
          (ofLexemes .source unwrapped) (ofLexemes .source wrapped) :=
        (plain_block_transparent .source hfront hin hheader (by decide +kernel) (by decide +kernel)
          (by decide +kernel) hbody).2.2 unwrapped wrapped rfl rfl
      cases hu : ofLexemes .source unwrapped with
      | error e =>
        rw [hu] at hunwrapped
        cases hunwrapped
      | ok plain =>
        rw [hu] at hunwrapped
        obtain ⟨hsize, hreasons⟩ := Prod.mk.inj (Option.some.inj hunwrapped)
        cases hw : ofLexemes .source wrapped with
        | error e =>
          rw [hu, hw] at hsame
          cases hsame
        | ok braced =>
          rw [hu, hw] at hsame
          have hreason : (headerRemarks (lex "if (i)")).map Remark.reason = [.blockRunsOnce] := by
            decide +kernel
          rw [hreason] at hsame
          exact ⟨plain, braced, rfl, rfl, hsame, hsize, hreasons⟩

end ConsoleLab
