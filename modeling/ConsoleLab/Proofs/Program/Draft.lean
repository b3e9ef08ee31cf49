/-
  ConsoleLab.Proofs.Program.Draft — code that is still being read.

  While a program is read, the code so far is that of a tree whose innermost loops are
  still open: the first instruction of an open loop names itself as its end. `draft`
  is this code as a function of the open loops and of what stands in the innermost one.
  An outline `Tracks` a draft, and every operation of the reading keeps that
  (`kept_tracks`); at the end no loop is open, so the code is that of a whole tree
  (`exists_flatten_of_ofLexemes`).
-/

import ConsoleLab.Program.Block
import ConsoleLab.Proofs.Program.Reading

namespace ConsoleLab

open Source (Location)

structure OpenLoop where
  before : Block
  place : Location
  header : Loop.Header

/-- The code of some open loops, the innermost first, with `b` in the innermost one. -/
def draft : List OpenLoop → Block → List Instruction
  | [], b => b.code 0
  | l :: outer, b =>
    draft outer l.before ++ ⟨.loopStart l.header (draft outer l.before).length, l.place⟩ ::
      b.code ((draft outer l.before).length + 1)

def draftStarts : List OpenLoop → List Nat
  | [] => []
  | l :: outer => (draft outer l.before).length :: draftStarts outer

theorem draft_statement (loops : List OpenLoop) (b : Block) (place : Location) (what : Statement) :
    draft loops (.statement b place what) = draft loops b ++ [⟨.perform what, place⟩] := by
  cases loops <;> simp [draft, Block.code]

theorem length_draft_cons (l : OpenLoop) (outer : List OpenLoop) (b : Block) :
    (draft (l :: outer) b).length = (draft outer l.before).length + b.size + 1 := by
  simp only [draft, List.length_append, List.length_cons, Block.length_code]
  omega

theorem draft_loop (outer : List OpenLoop) (before : Block) (place : Location)
    (header : Loop.Header) (body : Block) (close : Location) :
    draft outer (.loop before place header body close) =
      draft outer before ++
        ⟨.loopStart header ((draft outer before).length + body.size + 1), place⟩ ::
          (body.code ((draft outer before).length + 1) ++
            [⟨.loopEnd (draft outer before).length, close⟩]) := by
  cases outer with
  | nil => simp [draft, Block.code, Block.length_code]
  | cons l outer =>
    have h := length_draft_cons l outer before
    rw [show (draft outer l.before).length + before.size + 1 =
      (draft outer l.before).length + 1 + before.size by omega] at h
    rw [h]
    simp [draft, Block.code]

theorem modify_append_length (front : List Instruction) (i : Instruction) (back : List Instruction)
    (f : Instruction → Instruction) :
    (front ++ i :: back).modify front.length f = front ++ f i :: back := by
  induction front with
  | nil => rfl
  | cons a front ih => simpa using ih

/-- Closing the innermost loop fills in its end and makes one node of it. -/
theorem draft_close (l : OpenLoop) (outer : List OpenLoop) (body : Block) (close : Location) :
    (draft (l :: outer) body).modify (draft outer l.before).length
        (.endAt (draft (l :: outer) body).length) ++
          [⟨.loopEnd (draft outer l.before).length, close⟩] =
      draft outer (.loop l.before l.place l.header body close) := by
  rw [draft_loop, length_draft_cons, draft, modify_append_length]
  simp [Instruction.endAt]

/-! ## What an outline keeps -/

/-- The code of an outline is the draft of some tree, and the frames of its loops name the
    loops of the draft. -/
structure Tracks (o : Outline) (loops : List OpenLoop) (b : Block) : Prop where
  code_eq : o.code.toList = draft loops b
  starts_eq : o.frames.filterMap Frame.loop? = draftStarts loops

theorem Tracks.push {o : Outline} {loops : List OpenLoop} {b : Block} (h : Tracks o loops b)
    (kind : FrameKind) (brace : Location) (hk : Frame.loop? ⟨kind, brace⟩ = none) :
    Tracks (o.push kind brace) loops b :=
  ⟨h.code_eq, by simpa [Outline.push, List.filterMap_cons, hk] using h.starts_eq⟩

theorem Tracks.add {o : Outline} {loops : List OpenLoop} {b : Block} (h : Tracks o loops b)
    (place : Location) (all : List Statement) :
    Tracks (o.add place all) loops (all.foldl (fun b what => .statement b place what) b) := by
  refine ⟨?_, h.starts_eq⟩
  have hcode : ∀ (all : List Statement) (b : Block),
      draft loops b ++ all.map (fun what => Instruction.mk (.perform what) place) =
        draft loops (all.foldl (fun b what => .statement b place what) b) := by
    intro all
    induction all with
    | nil => intro b; simp
    | cons what rest ih =>
      intro b
      rw [List.foldl_cons, ← ih, draft_statement]
      simp
  simp [Outline.add, h.code_eq, hcode]

theorem Tracks.openLoop {o : Outline} {loops : List OpenLoop} {b : Block} (h : Tracks o loops b)
    (place : Location) (header : Loop.Header) (brace : Location) :
    Tracks (o.openLoop place header brace) (⟨b, place, header⟩ :: loops) .empty := by
  have hsize : o.code.size = (draft loops b).length := by rw [← h.code_eq, Array.length_toList]
  refine ⟨?_, ?_⟩
  · simp [Outline.openLoop, h.code_eq, hsize, draft, Block.code]
  · simpa [Outline.openLoop, Outline.push, Frame.loop?, draftStarts, hsize] using h.starts_eq

theorem Tracks.closeLoop {o : Outline} {loops : List OpenLoop} {b : Block} (h : Tracks o loops b)
    {start : Nat} {opened brace : Location} {frames : List Frame}
    (hf : o.frames = ⟨.loop start, opened⟩ :: frames) :
    ∃ l outer, loops = l :: outer ∧ Tracks ({ o with frames := frames }.endLoop start brace) outer
      (.loop l.before l.place l.header b brace) := by
  have hs := h.starts_eq
  rw [hf] at hs
  cases loops with
  | nil => simp [Frame.loop?, draftStarts] at hs
  | cons l outer =>
    simp only [Frame.loop?, List.filterMap_cons, draftStarts, List.cons.injEq] at hs
    obtain ⟨rfl, hs⟩ := hs
    have hsize : o.code.size = (draft (l :: outer) b).length := by
      rw [← h.code_eq, Array.length_toList]
    refine ⟨l, outer, rfl, ?_, hs⟩
    rw [← draft_close]
    simp [Outline.endLoop, h.code_eq, hsize]

/-- Every operation of the reading keeps the code a draft of some tree. -/
theorem kept_tracks (order : PrintOrder) :
    Outline.Kept order fun o => ∃ loops b, Tracks o loops b where
  openPlain := by
    intro o brace htracks
    obtain ⟨loops, b, h⟩ := htracks
    exact ⟨loops, b, h.push .plain brace rfl⟩
  openEntry := by
    intro o brace line htracks _
    obtain ⟨loops, b, h⟩ := htracks
    have hp := h.push .entry brace rfl
    exact ⟨loops, b, hp.code_eq, hp.starts_eq⟩
  openLoop := by
    intro o place header brace htracks
    obtain ⟨loops, b, h⟩ := htracks
    exact ⟨_, _, h.openLoop place header brace⟩
  closeLoop := by
    intro o start opened frames brace htracks hf
    obtain ⟨loops, b, h⟩ := htracks
    obtain ⟨l, outer, -, h'⟩ := h.closeLoop hf
    exact ⟨_, _, h'⟩
  closeOther := by
    intro o frame frames htracks hf hl
    obtain ⟨loops, b, h⟩ := htracks
    refine ⟨loops, b, h.code_eq, ?_⟩
    rw [← h.starts_eq, hf, List.filterMap_cons, hl]
  skip := by
    intro o place reason htracks
    obtain ⟨loops, b, h⟩ := htracks
    exact ⟨loops, b, h.code_eq, h.starts_eq⟩
  add := by
    intro o place kinds all htracks _
    obtain ⟨loops, b, h⟩ := htracks
    exact ⟨_, _, h.add place all⟩

/-- The code of a whole program is that of a tree. -/
theorem exists_flatten_of_ofLexemes {order : PrintOrder} {lexemes : List Lexeme} {o : Outline}
    (h : Outline.ofLexemes order lexemes = .ok o) : ∃ b : Block, o.code = b.flatten := by
  obtain ⟨⟨loops, b, ht⟩, hf⟩ :=
    (kept_tracks order).ofLexemes ⟨[], .empty, rfl, rfl⟩ h
  have hs := ht.starts_eq
  rw [hf] at hs
  cases loops with
  | nil => exact ⟨b, Array.toList_inj.mp ht.code_eq⟩
  | cons l outer => cases hs

end ConsoleLab
