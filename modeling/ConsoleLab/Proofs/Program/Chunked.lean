/-
  ConsoleLab.Proofs.Program.Chunked — the chunks of a tree.

  `Block.Chunked` gives by rules which chunks a tree is made of: one for each statement,
  and a header, the chunks of the body and a bare closing brace for each loop. Inside the
  main function such chunks are read as the code of the tree, and nothing else of the
  outline changes (`Chunked.readChunks`). A whole program of such chunks is accepted, has
  the code of its tree and no remarks (`Chunked.ofLexemes`).
-/

import ConsoleLab.Proofs.Program.Draft
import ConsoleLab.Proofs.Program.Rules

namespace ConsoleLab

open Source (Location)

inductive Block.Chunked : Block → List Chunk → Prop
  | empty : Chunked .empty []
  | statement {before : Block} {cs : List Chunk} {first : Lexeme} {more : List Lexeme}
      {what : Statement} : Chunked before cs →
      Chunk.startsLoop ((first :: more).map Lexeme.kind) = false →
      recognize .source ((first :: more).map Lexeme.kind) = .statements [what] →
      Chunked (.statement before first.place what) (cs ++ [⟨first :: more, .semicolon⟩])
  | loop {before body : Block} {cs ds : List Chunk} {first : Lexeme} {more : List Lexeme}
      {header : Loop.Header} {brace close : Location} : Chunked before cs →
      Loop.Header.parse ((first :: more).map Lexeme.kind) = .ok header → Chunked body ds →
      Chunked (.loop before first.place header body close)
        (cs ++ ⟨first :: more, .openBrace brace⟩ :: (ds ++ [⟨[], .closeBrace close⟩]))

theorem startsLoop_of_parse {kinds : List LexemeKind} {header : Loop.Header}
    (h : Loop.Header.parse kinds = .ok header) : Chunk.startsLoop kinds = true := by
  cases Loop.Header.parse_eq_ok_iff.mp h
  rfl

namespace Outline

theorem readChunks_cons_ok {order : PrintOrder} {o o' : Outline} {c : Chunk} (cs : List Chunk)
    (h : o.readChunk order c = .ok o') :
    o.readChunks order (c :: cs) = o'.readChunks order cs := by
  rw [Outline.readChunks, h]
  rfl

theorem readChunks_append_ok {order : PrintOrder} {o o' : Outline} {cs : List Chunk}
    (ds : List Chunk) (h : o.readChunks order cs = .ok o') :
    o.readChunks order (cs ++ ds) = o'.readChunks order ds := by
  rw [readChunks_append, h]
  rfl

def withCode (o : Outline) (code : Array Instruction) : Outline :=
  { o with code := code }

theorem readStatement_statements {o : Outline} {first : Lexeme} {more : List Lexeme}
    {what : Statement} (ho : o.inEntry = true)
    (hs : Chunk.startsLoop ((first :: more).map Lexeme.kind) = false)
    (hr : recognize .source ((first :: more).map Lexeme.kind) = .statements [what]) :
    o.readStatement .source (first :: more) = .ok (o.add first.place [what]) := by
  simp only [readStatement, ho, hs, hr, if_true, Bool.false_eq_true, if_false]

theorem openBlock_loop {o : Outline} {first : Lexeme} {more : List Lexeme}
    {header : Loop.Header} (brace : Location) (ho : o.inEntry = true)
    (hh : Loop.Header.parse ((first :: more).map Lexeme.kind) = .ok header) :
    o.openBlock (first :: more) brace = .ok (o.openLoop first.place header brace) := by
  have hs := startsLoop_of_parse hh
  simp only [openBlock, isEntryHead_of_startsLoop hs, ho, hs, hh, if_true, Bool.false_eq_true,
    if_false]
  rfl

end Outline

open Outline

/-- Inside the main function the chunks of a tree add its code and do nothing else. -/
theorem Block.Chunked.readChunks {b : Block} {cs : List Chunk} (h : b.Chunked cs) {o : Outline}
    {loops : List OpenLoop} (ho : o.inEntry = true) (ht : Tracks o loops .empty) :
    ∃ code, o.readChunks .source cs = .ok (o.withCode code) ∧ Tracks (o.withCode code) loops b := by
  induction h generalizing o loops with
  | empty => exact ⟨o.code, rfl, ht⟩
  | @statement before cs first more what _ hs hr ih =>
    obtain ⟨code, hread, htracks⟩ := ih ho ht
    have hadd : (o.withCode code).readChunk .source ⟨first :: more, .semicolon⟩ =
        .ok ((o.withCode code).add first.place [what]) :=
      readStatement_statements ho hs hr
    refine ⟨_, ?_, htracks.add first.place [what]⟩
    rw [readChunks_append_ok _ hread, readChunks_cons_ok _ hadd]
    rfl
  | @loop before body cs ds first more header brace close _ hh _ ihBefore ihBody =>
    obtain ⟨code, hread, htracks⟩ := ihBefore ho ht
    let opened := (o.withCode code).openLoop first.place header brace
    have hopen : (o.withCode code).readChunk .source ⟨first :: more, .openBrace brace⟩ =
        .ok opened :=
      openBlock_loop brace ho hh
    have hin : opened.inEntry = true := by
      simpa [opened, inEntry, Outline.openLoop, push, withCode] using ho
    obtain ⟨code', hbody, htracks'⟩ := ihBody hin (htracks.openLoop first.place header brace)
    let closed := Outline.endLoop { opened.withCode code' with frames := o.frames } code.size close
    obtain ⟨l, outer, heq, hclosed⟩ :
        ∃ l outer, ⟨before, first.place, header⟩ :: loops = l :: outer ∧
          Tracks closed outer (.loop l.before l.place l.header body close) :=
      htracks'.closeLoop rfl
    cases heq
    refine ⟨closed.code, ?_, hclosed⟩
    rw [readChunks_append_ok _ hread, readChunks_cons_ok _ hopen, readChunks_append_ok _ hbody]
    rfl

/-- The chunks of a whole program: the head of the main function, those of a tree, the closing
    brace and the end of the text. -/
def entryChunks (head : List Lexeme) (brace : Location) (cs : List Chunk) (close : Location) :
    List Chunk :=
  ⟨head, .openBrace brace⟩ :: (cs ++ [⟨[], .closeBrace close⟩, ⟨[], .textEnd⟩])

/-- A program whose main function is made of the chunks of a tree has the code of the tree, and
    there is nothing to remark. -/
theorem Block.Chunked.ofLexemes {b : Block} {cs : List Chunk} (h : b.Chunked cs)
    {head : List Lexeme} (hhead : Chunk.isEntryHead (head.map Lexeme.kind) = true)
    {brace close : Location} {lexemes : List Lexeme}
    (hcut : CutsInto lexemes (entryChunks head brace cs close)) :
    ∃ o, Outline.ofLexemes .source lexemes = .ok o ∧ o.code = b.flatten ∧ o.remarks = [] := by
  let line := ((head.head?.map Lexeme.place).getD brace).line
  let opened : Outline := { blank.push .entry brace with entryLine := some line }
  have hopen : blank.readChunk .source ⟨head, .openBrace brace⟩ = .ok opened := by
    simp only [readChunk, openBlock, hhead, if_true]
    rfl
  have hopened : Tracks opened [] .empty := ⟨rfl, rfl⟩
  obtain ⟨code, hread, htracks⟩ := h.readChunks rfl hopened
  have hbody : opened.readChunks .source (cs ++ [⟨[], .closeBrace close⟩, ⟨[], .textEnd⟩]) =
      .ok { opened.withCode code with frames := [] } := by
    rw [readChunks_append_ok _ hread]
    rfl
  have hall : blank.readChunks .source (chunks lexemes) =
      .ok { opened.withCode code with frames := [] } := by
    rw [← cutsInto_iff.mp hcut, entryChunks, readChunks_cons_ok _ hopen, hbody]
  refine ⟨{ opened.withCode code with frames := [] }, ?_, Array.toList_inj.mp htracks.code_eq, rfl⟩
  rw [Outline.ofLexemes, hall]
  rfl

end ConsoleLab
