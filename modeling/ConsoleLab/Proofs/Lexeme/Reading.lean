/-
  ConsoleLab.Proofs.Lexeme.Reading — what is read from a text.

  A reading of a text (`Reading`) is made of its segments, one after the other, each spelled by
  the rules, and of the lexemes among them, each at the place that the newlines and characters
  in front of it count up to. Main facts: every text has a reading, and it ends with the lexemes
  of the text (`lex_reads`); there is no other one (`reading_iff`).
-/

import ConsoleLab.Proofs.Lexeme.Scanning

namespace ConsoleLab

open Source (Location)
open Text (isDigit)

/-- The lexemes among the segments behind `front`, each at the place behind what is in front
    of it. -/
inductive LexemesBehind : List Char → List Segment → List Lexeme → Prop
  | nil {front : List Char} : LexemesBehind front [] []
  | skip {front : List Char} {s : Segment} {ss : List Segment} {lexemes : List Lexeme} :
      s.kind.lexeme? = none → LexemesBehind (front ++ s.text) ss lexemes →
      LexemesBehind front (s :: ss) lexemes
  | lexeme {front : List Char} {s : Segment} {ss : List Segment} {lexemes : List Lexeme}
      {kind : LexemeKind} : s.kind.lexeme? = some kind → LexemesBehind (front ++ s.text) ss lexemes →
      LexemesBehind front (s :: ss) (⟨kind, Location.behind front⟩ :: lexemes)

structure Reading (source : List Char) (ss : List Segment) (lexemes : List Lexeme) : Prop where
  text : ss.flatMap Segment.text = source
  spelled : AllSpelled ss []
  /-- A row of digits goes on as far as it can to the left as well. -/
  digits_apart : ∀ front back, ss = front ++ back →
    ∀ c ∈ (front.flatMap Segment.text).getLast?, isDigit c = true →
      ∀ d ∈ (back.flatMap Segment.text).head?, isDigit d = false
  displayed : ∀ s ∈ ss, ∀ kind, s.kind = .lexeme kind → kind.isVerbatim = true →
    kind.display.toList = s.text
  lexemes_behind : LexemesBehind [] ss lexemes

theorem lexemesBehind_iff {front : List Char} {ss : List Segment} {lexemes : List Lexeme} :
    LexemesBehind front ss lexemes ↔ lexemes = lexemesFrom (Location.start.after front) ss := by
  constructor
  · intro h
    induction h with
    | nil => rfl
    | @skip _ s _ _ hkind _ ih =>
      obtain ⟨kind, text⟩ := s
      rw [Location.after_append] at ih
      cases kind with
      | lexeme => cases hkind
      | blank | lineComment | blockComment | directive => exact ih
    | @lexeme _ s _ _ _ hkind _ ih =>
      obtain ⟨kind, text⟩ := s
      rw [Location.after_append] at ih
      cases kind with
      | lexeme => rw [lexemesFrom, ih, Location.after_start, Option.some.inj hkind]
      | blank | lineComment | blockComment | directive => cases hkind
  · rintro rfl
    induction ss generalizing front with
    | nil => exact .nil
    | cons s ss ih =>
      obtain ⟨kind, text⟩ := s
      have hrest := @ih (front ++ text)
      rw [Location.after_append] at hrest
      cases kind with
      | lexeme kind =>
        rw [lexemesFrom]
        nth_rewrite 1 [Location.after_start]
        exact .lexeme rfl hrest
      | blank | lineComment | blockComment | directive => exact .skip rfl hrest

/-! ## From the rules -/

section

variable {ss : List Segment}

/-- No row of digits is cut. -/
theorem AllSpelled.digits_apart (h : AllSpelled ss []) {front back : List Segment}
    (hss : ss = front ++ back) {c : Char} (hc : (front.flatMap Segment.text).getLast? = some c)
    (hdigit : isDigit c = true) : ∀ d ∈ (back.flatMap Segment.text).head?, isDigit d = false := by
  rcases List.eq_nil_or_concat front with rfl | ⟨front, s, rfl⟩
  · cases hc
  · rw [List.concat_eq_append, List.append_assoc] at hss
    have hspells := h front s back hss
    obtain ⟨_, _, htext, -⟩ := hspells.segmentAt_eq
    have hne : s.text ≠ [] := htext ▸ List.cons_ne_nil _ _
    rw [List.concat_eq_append, List.flatMap_append, List.flatMap_singleton,
      List.getLast?_append, List.getLast?_eq_some_getLast hne, Option.some_or] at hc
    rw [List.append_nil] at hspells
    exact hspells.digits_apart (by rwa [List.getLast?_eq_some_getLast hne]) hdigit

theorem AllSpelled.displayed (h : AllSpelled ss []) {s : Segment} (hs : s ∈ ss)
    {kind : LexemeKind} (hkind : s.kind = .lexeme kind) (hverbatim : kind.isVerbatim = true) :
    kind.display.toList = s.text := by
  obtain ⟨front, back, hss⟩ := List.append_of_mem hs
  have hspells := h front s back hss
  rw [hkind] at hspells
  cases hspells with
  | lexeme hspells => exact hspells.toList_display hverbatim

end

/-! ## The reading of a text -/

/-- A text is read as its segments and its lexemes, and as nothing else. -/
theorem reading_iff {source : String} {ss : List Segment} {lexemes : List Lexeme} :
    Reading source.toList ss lexemes ↔ ss = segments source.toList ∧ lexemes = lex source := by
  constructor
  · intro h
    have hss := segments_eq_iff.mpr ⟨h.text, h.spelled⟩
    refine ⟨hss.symm, ?_⟩
    rw [lex, hss]
    exact lexemesBehind_iff.mp h.lexemes_behind
  · rintro ⟨rfl, rfl⟩
    obtain ⟨htext, hspelled⟩ := segments_eq_iff.mp (rfl : segments source.toList = _)
    exact ⟨htext, hspelled, fun front back hss c hc => hspelled.digits_apart hss hc,
      fun s hs kind => hspelled.displayed hs, lexemesBehind_iff.mpr rfl⟩

/-- Every text is its segments one after the other, each spelled by the rules, and what is
    read are the lexemes among them at their places. -/
theorem lex_reads (source : String) :
    ∃ ss : List Segment, Reading source.toList ss (lex source) :=
  ⟨segments source.toList, reading_iff.mpr ⟨rfl, rfl⟩⟩

end ConsoleLab
