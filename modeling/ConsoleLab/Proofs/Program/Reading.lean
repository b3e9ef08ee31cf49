/-
  ConsoleLab.Proofs.Program.Reading — what holds of every outline on the way.

  What the reading of a statement or of a brace does to an outline is listed by cases
  (`readStatement_cases`, `openBlock_cases`, `closeBlock_cases`). An outline is changed by seven
  operations only (`Outline.Kept`). A property that each of them keeps holds after any chunks
  (`Kept.readChunks`), and so of the outline of a whole program (`Kept.ofLexemes`).
-/

import ConsoleLab.Program.Outline

namespace ConsoleLab

open Source (Location)

def Frame.loop? (frame : Frame) : Option Nat :=
  match frame.kind with
  | .loop start => some start
  | _ => none

theorem ok_of_bind {ε α β : Type} {x : Except ε α} {f : α → Except ε β} {b : β}
    (h : x >>= f = .ok b) : ∃ a, x = .ok a ∧ f a = .ok b := by
  cases x with
  | error e => cases h
  | ok a => exact ⟨a, rfl, h⟩

namespace Outline

/-- Chunks are read in two goes as in one. -/
theorem readChunks_append (order : PrintOrder) (o : Outline) (cs ds : List Chunk) :
    o.readChunks order (cs ++ ds) =
      o.readChunks order cs >>= fun middle => middle.readChunks order ds := by
  induction cs generalizing o with
  | nil => rfl
  | cons c cs ih =>
    rw [List.cons_append, readChunks, readChunks]
    cases o.readChunk order c with
    | error e => rfl
    | ok middle => exact ih middle

section

variable {order : PrintOrder} {o o' : Outline} {lexemes : List Lexeme} {brace : Location}

theorem readStatement_cases (h : o.readStatement order lexemes = .ok o') :
    o' = o ∨ ∃ first more, lexemes = first :: more ∧
      ((∃ all, recognize order (lexemes.map Lexeme.kind) = .statements all ∧
          o' = o.add first.place all) ∨
        ∃ reason, o' = o.skip first.place reason) := by
  unfold readStatement at h
  split at h
  · cases h
    exact Or.inl rfl
  · rename_i first more
    split at h
    · dsimp only at h
      split at h
      · cases h
      · split at h
        · rename_i all hr
          cases h
          exact Or.inr ⟨first, more, rfl, Or.inl ⟨all, hr, rfl⟩⟩
        · cases h
          exact Or.inl rfl
        · rename_i reason hr
          cases h
          exact Or.inr ⟨first, more, rfl, Or.inr ⟨reason, rfl⟩⟩
    · cases h
      exact Or.inl rfl

theorem openBlock_cases (h : o.openBlock lexemes brace = .ok o') :
    (Chunk.isEntryHead (lexemes.map Lexeme.kind) = true ∧ o.entryLine = none ∧
        o' = { o.push .entry brace with
          entryLine := some ((lexemes.head?.map Lexeme.place).getD brace).line }) ∨
      Chunk.isEntryHead (lexemes.map Lexeme.kind) = false ∧
        ((∃ first more header, lexemes = first :: more ∧
            Loop.Header.parse (lexemes.map Lexeme.kind) = .ok header ∧
            o' = o.openLoop first.place header brace) ∨
          o' = o.push .plain brace ∨
          ∃ first more reason, lexemes = first :: more ∧
            o' = (o.skip first.place reason).push .plain brace) := by
  simp only [openBlock] at h
  split at h
  · rename_i hentry
    split at h
    · cases h
    · rename_i hline
      cases h
      exact Or.inl ⟨hentry, hline, rfl⟩
  · rename_i hentry
    refine Or.inr ⟨Bool.eq_false_iff.mpr hentry, ?_⟩
    split at h
    · split at h
      · split at h
        · cases h
        · rename_i header hparse
          cases h
          cases lexemes with
          | nil => cases hparse
          | cons first more => exact Or.inl ⟨first, more, header, rfl, hparse, rfl⟩
      · split at h
        · cases h
          exact Or.inr (Or.inl rfl)
        · rename_i hne
          cases h
          cases lexemes with
          | nil => exact absurd rfl hne
          | cons first more => exact Or.inr (Or.inr ⟨first, more, _, rfl, rfl⟩)
    · cases h
      exact Or.inr (Or.inl rfl)

theorem closeBlock_cases (h : o.closeBlock brace = .ok o') :
    ∃ frame frames, o.frames = frame :: frames ∧
      ((∃ start, frame.kind = .loop start ∧
          o' = { o with frames := frames }.endLoop start brace) ∨
        frame.loop? = none ∧ o' = { o with frames := frames }) := by
  unfold closeBlock at h
  split at h
  · cases h
  · rename_i start opened frames hf
    cases h
    exact ⟨_, frames, hf, Or.inl ⟨start, rfl, rfl⟩⟩
  · rename_i frame frames hne hf
    cases h
    refine ⟨frame, frames, hf, Or.inr ⟨?_, rfl⟩⟩
    obtain ⟨kind, opened⟩ := frame
    cases kind with
    | loop start => exact absurd rfl (hne start opened)
    | entry | plain => rfl

end

/-- A property of outlines that every operation of the reading keeps. -/
structure Kept (order : PrintOrder) (P : Outline → Prop) : Prop where
  openPlain : ∀ {o} (brace : Location), P o → P (o.push .plain brace)
  openEntry : ∀ {o} (brace : Location) (line : Nat), P o → o.entryLine = none →
    P { o.push .entry brace with entryLine := some line }
  openLoop : ∀ {o} (place : Location) (header : Loop.Header) (brace : Location), P o →
    P (o.openLoop place header brace)
  closeLoop : ∀ {o} {start : Nat} {opened : Location} {frames} (brace : Location), P o →
    o.frames = ⟨.loop start, opened⟩ :: frames → P ({ o with frames := frames }.endLoop start brace)
  closeOther : ∀ {o} {frame : Frame} {frames}, P o → o.frames = frame :: frames →
    frame.loop? = none → P { o with frames := frames }
  skip : ∀ {o} (place : Location) (reason : SkipReason), P o → P (o.skip place reason)
  add : ∀ {o} (place : Location) {kinds all}, P o → recognize order kinds = .statements all →
    P (o.add place all)

namespace Kept

variable {order : PrintOrder} {P : Outline → Prop} {o o' : Outline}

theorem openBlock (k : Kept order P) {header : List Lexeme} {brace : Location} (h : P o)
    (ho : o.openBlock header brace = .ok o') : P o' := by
  rcases openBlock_cases ho with
    ⟨-, hline, rfl⟩ | ⟨-, ⟨first, more, loop, -, -, rfl⟩ | rfl | ⟨first, more, reason, -, rfl⟩⟩
  · exact k.openEntry _ _ h hline
  · exact k.openLoop _ _ _ h
  · exact k.openPlain _ h
  · exact k.openPlain _ (k.skip _ _ h)

theorem readStatement (k : Kept order P) {lexemes : List Lexeme} (h : P o)
    (ho : o.readStatement order lexemes = .ok o') : P o' := by
  rcases readStatement_cases ho with rfl | ⟨first, more, -, ⟨all, hr, rfl⟩ | ⟨reason, rfl⟩⟩
  · exact h
  · exact k.add _ h hr
  · exact k.skip _ _ h

theorem closeBlock (k : Kept order P) {brace : Location} (h : P o)
    (ho : o.closeBlock brace = .ok o') : P o' := by
  obtain ⟨⟨kind, opened⟩, frames, hf, ⟨start, rfl, rfl⟩ | ⟨hloop, rfl⟩⟩ := closeBlock_cases ho
  · exact k.closeLoop _ h hf
  · exact k.closeOther h hf hloop

theorem readChunk (k : Kept order P) {chunk : Chunk} (h : P o)
    (ho : o.readChunk order chunk = .ok o') : P o' := by
  unfold Outline.readChunk at ho
  split at ho
  · exact k.openBlock h ho
  · obtain ⟨middle, hm, hc⟩ := ok_of_bind ho
    exact k.closeBlock (k.readStatement h hm) hc
  · exact k.readStatement h ho
  · exact k.readStatement h ho

theorem readChunks (k : Kept order P) {chunks : List Chunk} (h : P o)
    (ho : o.readChunks order chunks = .ok o') : P o' := by
  induction chunks generalizing o with
  | nil =>
    cases ho
    exact h
  | cons chunk rest ih =>
    obtain ⟨middle, hm, hr⟩ := ok_of_bind ho
    exact ih (k.readChunk h hm) hr

/-- What every operation keeps holds of the outline of a whole program, and no block is open
    there. -/
theorem ofLexemes (k : Kept order P) {lexemes : List Lexeme} (h : P blank)
    (ho : Outline.ofLexemes order lexemes = .ok o) : P o ∧ o.frames = [] := by
  obtain ⟨last, hl, hc⟩ := ok_of_bind ho
  unfold complete at hc
  split at hc
  · cases hc
  · cases hc
  · rename_i hf _
    cases hc
    exact ⟨k.readChunks h hl, hf⟩

end Kept

end Outline

end ConsoleLab
