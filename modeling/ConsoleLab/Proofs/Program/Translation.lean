/-
  ConsoleLab.Proofs.Program.Translation — two readings kept in step.

  A `Translation` renames the places of lexemes and rewrites the statements of a program. The
  reading takes no decision on a place and none on a statement it has recognised, so it may
  be done before or after the translation: of chunks (`chunks_translate`), of one chunk
  (`readChunk_translate`) and of a whole program (`ofLexemes_translate`). The two readings may
  print in different orders, if the translation turns what is recognised in one order into
  what is recognised in the other (`Between`).
-/

import ConsoleLab.Proofs.Program.Reading

namespace ConsoleLab

open Source (Location)

/-! ## Translations -/

/-- New places, and new statements. The line of a new place is known from the old line. -/
structure Translation where
  place : Location → Location
  line : Nat → Nat
  line_place : ∀ p, (place p).line = line p.line
  what : Statement → Statement

def StructuralError.mapLines (line : Nat → Nat) : StructuralError → StructuralError
  | .missingEntry => .missingEntry
  | .duplicateEntry l first => .duplicateEntry (line l) (line first)
  | .unmatchedClose l => .unmatchedClose (line l)
  | .unclosedBlock l => .unclosedBlock (line l)
  | .malformedLoop l reason => .malformedLoop (line l) reason
  | .loopWithoutBody l => .loopWithoutBody (line l)

def Recognized.mapStatements (f : Statement → Statement) : Recognized → Recognized
  | .statements all => .statements (all.map f)
  | .silent => .silent
  | .skipped reason => .skipped reason

/-- Other code in each place of an array, where the code there is changed first. -/
theorem map_modify {α β : Type} {f : α → α} {f' : β → β} {g : α → β}
    (h : ∀ a, g (f a) = f' (g a)) (xs : Array α) (k : Nat) :
    (xs.modify k f).map g = (xs.map g).modify k f' := by
  apply Array.ext
  · simp
  · intro n hn hn'
    simp only [Array.getElem_map, Array.getElem_modify]
    split
    · exact h _
    · rfl

namespace Translation

variable (t : Translation)

def lexeme (l : Lexeme) : Lexeme := ⟨l.kind, t.place l.place⟩

def cut : Cut → Cut
  | .openBrace brace => .openBrace (t.place brace)
  | .closeBrace brace => .closeBrace (t.place brace)
  | .semicolon => .semicolon
  | .textEnd => .textEnd

def chunk (c : Chunk) : Chunk := ⟨c.lexemes.map t.lexeme, t.cut c.cut⟩

def action : Action → Action
  | .perform what => .perform (t.what what)
  | .loopStart header stop => .loopStart header stop
  | .loopEnd start => .loopEnd start

def instruction (i : Instruction) : Instruction := ⟨t.action i.action, t.place i.place⟩

def frame (f : Frame) : Frame := ⟨f.kind, t.place f.brace⟩

def remark (r : Remark) : Remark := ⟨t.place r.place, r.reason⟩

def outline (o : Outline) : Outline :=
  ⟨o.frames.map t.frame, o.code.map t.instruction, o.remarks.map t.remark, o.entryLine.map t.line⟩

def result : Except StructuralError Outline → Except StructuralError Outline
  | .ok o => .ok (t.outline o)
  | .error e => .error (e.mapLines t.line)

/-- The translation leads from statements read in one order to those read in another. -/
def Between (order order' : PrintOrder) : Prop :=
  ∀ kinds, recognize order' kinds = (recognize order kinds).mapStatements t.what

theorem result_bind {x y : Except StructuralError Outline}
    {f g : Outline → Except StructuralError Outline} (hx : y = t.result x)
    (hf : ∀ o, g (t.outline o) = t.result (f o)) : (y >>= g) = t.result (x >>= f) := by
  subst hx
  cases x with
  | error e => rfl
  | ok o => exact hf o

theorem map_kind_lexeme (lexemes : List Lexeme) :
    (lexemes.map t.lexeme).map Lexeme.kind = lexemes.map Lexeme.kind := by
  rw [List.map_map]
  rfl

/-! ## The cutting -/

theorem chunksFrom_translate (depth : Nat) (held lexemes : List Lexeme) :
    chunksFrom depth (held.map t.lexeme) (lexemes.map t.lexeme) =
      (chunksFrom depth held lexemes).map t.chunk := by
  induction lexemes generalizing depth held with
  | nil => simp [chunksFrom, chunk, cut]
  | cons lexeme rest ih =>
    have hheld := fun n => ih n (lexeme :: held)
    have hcut := ih 0 []
    obtain ⟨kind, place⟩ := lexeme
    simp only [List.map_cons, List.map_nil, Translation.lexeme] at hheld hcut
    simp only [List.map_cons, chunksFrom, Translation.lexeme]
    split
    · exact hheld _
    · exact hheld _
    · simp [hcut, chunk, cut]
    · simp [hcut, chunk, cut]
    · split
      · simp [hcut, chunk, cut]
      · exact hheld _
    · exact hheld _

theorem chunks_translate (lexemes : List Lexeme) :
    chunks (lexemes.map t.lexeme) = (chunks lexemes).map t.chunk :=
  t.chunksFrom_translate 0 [] lexemes

/-! ## The reading -/

open Outline

@[simp] theorem inEntry_outline (o : Outline) : (t.outline o).inEntry = o.inEntry := by
  simp only [inEntry, outline, List.any_map]
  rfl

theorem outline_blank : t.outline blank = blank := by
  simp [outline, blank]

theorem outline_add (o : Outline) (place : Location) (statements : List Statement) :
    t.outline (o.add place statements) =
      (t.outline o).add (t.place place) (statements.map t.what) := by
  have hcode : (o.code ++ statements.map fun what => Instruction.mk (.perform what) place).map
      t.instruction = o.code.map t.instruction ++
        (statements.map t.what).map fun what => Instruction.mk (.perform what) (t.place place) := by
    apply Array.toList_inj.mp
    simp [instruction, action, Function.comp_def]
  simp [outline, add, hcode]

theorem outline_openLoop (o : Outline) (place : Location) (header : Loop.Header)
    (brace : Location) :
    t.outline (o.openLoop place header brace) =
      (t.outline o).openLoop (t.place place) header (t.place brace) := by
  simp [outline, openLoop, push, instruction, action, frame]

theorem outline_endLoop (o : Outline) (start : Nat) (brace : Location) :
    t.outline (o.endLoop start brace) = (t.outline o).endLoop start (t.place brace) := by
  have hend : ∀ i : Instruction,
      t.instruction (i.endAt o.code.size) = (t.instruction i).endAt o.code.size := by
    intro i
    obtain ⟨action, place⟩ := i
    cases action with
    | perform what => rfl
    | loopStart header stop => rfl
    | loopEnd start => rfl
  simp [outline, endLoop, map_modify hend, instruction, action]

section

variable {t} {order order' : PrintOrder} (h : t.Between order order')
include h

theorem readStatement_translate (o : Outline) (lexemes : List Lexeme) :
    (t.outline o).readStatement order' (lexemes.map t.lexeme) =
      t.result (o.readStatement order lexemes) := by
  cases lexemes with
  | nil => rfl
  | cons first more =>
    have hkinds := t.map_kind_lexeme (first :: more)
    rw [List.map_cons] at hkinds ⊢
    simp only [readStatement, inEntry_outline, hkinds, h _]
    cases o.inEntry with
    | false => rfl
    | true =>
      cases Chunk.startsLoop ((first :: more).map Lexeme.kind) with
      | true => exact congrArg Except.error (congrArg StructuralError.loopWithoutBody
          (t.line_place first.place))
      | false =>
        cases recognize order ((first :: more).map Lexeme.kind) with
        | statements all => exact congrArg Except.ok (t.outline_add o first.place all).symm
        | silent => rfl
        | skipped reason => rfl

omit h in
theorem openBlock_translate (o : Outline) (header : List Lexeme) (brace : Location) :
    (t.outline o).openBlock (header.map t.lexeme) (t.place brace) =
      t.result (o.openBlock header brace) := by
  have hplace : ((header.map t.lexeme).head?.map Lexeme.place).getD (t.place brace) =
      t.place ((header.head?.map Lexeme.place).getD brace) := by
    cases header with
    | nil => rfl
    | cons first more => rfl
  have hentryLine : (t.outline o).entryLine = o.entryLine.map t.line := rfl
  simp only [openBlock, inEntry_outline, map_kind_lexeme, hplace, hentryLine, List.isEmpty_map,
    t.line_place]
  split
  · cases o.entryLine with
    | none => simp [result, outline, push, frame]
    | some line => rfl
  · split
    · split
      · split
        · rfl
        · exact congrArg Except.ok (t.outline_openLoop o _ _ brace).symm
      · split
        · rfl
        · rfl
    · rfl

omit h in
theorem closeBlock_translate (o : Outline) (brace : Location) :
    (t.outline o).closeBlock (t.place brace) = t.result (o.closeBlock brace) := by
  obtain ⟨frames, code, remarks, entryLine⟩ := o
  cases frames with
  | nil => exact congrArg Except.error (congrArg StructuralError.unmatchedClose
      (t.line_place brace))
  | cons frame frames =>
    obtain ⟨kind, opened⟩ := frame
    cases kind with
    | loop start =>
      have hend := t.outline_endLoop ⟨frames, code, remarks, entryLine⟩ start brace
      exact congrArg Except.ok hend.symm
    | entry => rfl
    | plain => rfl

theorem readChunk_translate (o : Outline) (c : Chunk) :
    (t.outline o).readChunk order' (t.chunk c) = t.result (o.readChunk order c) := by
  obtain ⟨lexemes, cut⟩ := c
  cases cut with
  | openBrace brace => exact openBlock_translate o lexemes brace
  | closeBrace brace =>
    exact t.result_bind (readStatement_translate h o lexemes)
      fun middle => closeBlock_translate middle brace
  | semicolon => exact readStatement_translate h o lexemes
  | textEnd => exact readStatement_translate h o lexemes

theorem readChunks_translate (o : Outline) (cs : List Chunk) :
    (t.outline o).readChunks order' (cs.map t.chunk) = t.result (o.readChunks order cs) := by
  induction cs generalizing o with
  | nil => rfl
  | cons c cs ih => exact t.result_bind (readChunk_translate h o c) ih

omit h in
theorem complete_translate (o : Outline) : (t.outline o).complete = t.result o.complete := by
  obtain ⟨frames, code, remarks, entryLine⟩ := o
  cases frames with
  | nil =>
    cases entryLine with
    | none => rfl
    | some line => rfl
  | cons frame frames => exact congrArg Except.error (congrArg StructuralError.unclosedBlock
      (t.line_place frame.brace))

/-- A program is translated and then read, or read and then translated. -/
theorem ofLexemes_translate (lexemes : List Lexeme) :
    ofLexemes order' (lexemes.map t.lexeme) = t.result (ofLexemes order lexemes) := by
  have hread := readChunks_translate h blank (chunks lexemes)
  rw [outline_blank, ← chunks_translate] at hread
  exact t.result_bind hread complete_translate

end

end Translation

end ConsoleLab
