/-
  ConsoleLab.Proofs.Lexeme.Places — where the lexemes of a text stand.

  A lexeme is `WrittenIn` a text where one of its segments is that lexeme, and its place is
  the one behind the segments before. Main facts: later lexemes have later places
  (`pairwise_lex`), and every lexeme can be seen at its place in the lines of the text
  (`shownIn_of_mem_lex`).
-/

import ConsoleLab.Lexeme.Lexer
import ConsoleLab.Proofs.Source.Places

namespace ConsoleLab

open Source (Location)
open Text (isBlank)

/-! ## Segments -/

theorem segments_cons (c : Char) (rest : List Char) :
    segments (c :: rest) =
      ⟨(Lexer.segmentAt c rest).1, c :: rest.take (Lexer.segmentAt c rest).2⟩ ::
        segments (rest.drop (Lexer.segmentAt c rest).2) := by
  rw [segments]

theorem segments_flatMap_of_append {cs : List Char} {ss ss' : List Segment}
    (h : segments cs = ss ++ ss') : segments (ss'.flatMap Segment.text) = ss' := by
  induction ss generalizing cs with
  | nil =>
    have hcs := flatMap_text_segments cs
    rw [h, List.nil_append] at hcs
    rw [hcs, h, List.nil_append]
  | cons s ss ih =>
    cases cs with
    | nil =>
      rw [segments] at h
      cases h
    | cons c rest =>
      rw [segments_cons, List.cons_append] at h
      exact ih (List.cons.inj h).2

/-- A text is its segments written one after the other, cut at any place. -/
theorem eq_append_of_segments {cs : List Char} {ss ss' : List Segment}
    (h : segments cs = ss ++ ss') :
    cs = ss.flatMap Segment.text ++ ss'.flatMap Segment.text := by
  rw [← List.flatMap_append, ← h, flatMap_text_segments]

theorem isBlank_of_segmentAt {c : Char} {rest : List Char} {kind : LexemeKind}
    (h : (Lexer.segmentAt c rest).1 = .lexeme kind) : isBlank c = false := by
  cases hb : isBlank c with
  | false => rfl
  | true => simp [Lexer.segmentAt, hb] at h

/-- A segment that is a lexeme starts with a visible character. -/
theorem visible_of_mem_segments {cs : List Char} {s : Segment} {kind : LexemeKind}
    (h : s ∈ segments cs) (hs : s.kind = .lexeme kind) :
    ∃ c text, s.text = c :: text ∧ isBlank c = false := by
  fun_induction segments cs with
  | case1 => cases h
  | case2 c rest found length heq ih =>
    rcases List.mem_cons.mp h with rfl | h
    · have hkind : (Lexer.segmentAt c rest).1 = .lexeme kind := by
        rw [heq]
        exact hs
      exact ⟨c, rest.take length, rfl, isBlank_of_segmentAt hkind⟩
    · exact ih h

/-! ## Lexemes -/

/-- The lexeme stands in the text behind `front`, and its characters are `text`. -/
structure Lexeme.WrittenIn (source : String) (lexeme : Lexeme) (front text : List Char) : Prop where
  segment : ∃ ss ss', segments source.toList = ss ++ ⟨.lexeme lexeme.kind, text⟩ :: ss' ∧
    front = ss.flatMap Segment.text
  place_eq : lexeme.place = Location.start.after front

theorem exists_of_mem_lexemesFrom {p : Location} {ss : List Segment} {lexeme : Lexeme}
    (h : lexeme ∈ lexemesFrom p ss) :
    ∃ before text after, ss = before ++ ⟨.lexeme lexeme.kind, text⟩ :: after ∧
      lexeme.place = p.after (before.flatMap Segment.text) := by
  induction ss generalizing p with
  | nil => cases h
  | cons s ss ih =>
    have hlater : lexeme ∈ lexemesFrom (p.after s.text) ss →
        ∃ before text after, s :: ss = before ++ ⟨.lexeme lexeme.kind, text⟩ :: after ∧
          lexeme.place = p.after (before.flatMap Segment.text) := by
      intro hmem
      obtain ⟨before, text, after, rfl, hplace⟩ := ih hmem
      refine ⟨s :: before, text, after, rfl, ?_⟩
      rw [hplace, List.flatMap_cons, Location.after_append]
    obtain ⟨kind, text⟩ := s
    cases kind with
    | lexeme kind =>
      rcases List.mem_cons.mp h with rfl | h
      · exact ⟨[], text, ss, rfl, rfl⟩
      · exact hlater h
    | blank | lineComment | blockComment | directive => exact hlater h

theorem exists_writtenIn {source : String} {lexeme : Lexeme} (h : lexeme ∈ lex source) :
    ∃ front text, lexeme.WrittenIn source front text := by
  obtain ⟨before, text, after, hss, hplace⟩ := exists_of_mem_lexemesFrom h
  exact ⟨before.flatMap Segment.text, text, ⟨before, after, hss, rfl⟩, hplace⟩

theorem not_lt_of_mem_lexemesFrom {p : Location} {ss : List Segment} {lexeme : Lexeme}
    (h : lexeme ∈ lexemesFrom p ss) : p < lexeme.place ∨ p = lexeme.place := by
  obtain ⟨before, -, -, -, hplace⟩ := exists_of_mem_lexemesFrom h
  rw [hplace]
  by_cases hfront : before.flatMap Segment.text = []
  · rw [hfront]
    exact Or.inr rfl
  · exact Or.inl (Location.lt_after hfront p)

theorem pairwise_lexemesFrom (p : Location) {ss : List Segment} (h : ∀ s ∈ ss, s.text ≠ []) :
    (lexemesFrom p ss).Pairwise fun a b => a.place < b.place := by
  induction ss generalizing p with
  | nil => exact .nil
  | cons s ss ih =>
    obtain ⟨hs, hss⟩ := List.forall_mem_cons.mp h
    have hrest := ih (p.after s.text) hss
    obtain ⟨kind, text⟩ := s
    cases kind with
    | lexeme kind =>
      refine List.pairwise_cons.mpr ⟨fun b hb => ?_, hrest⟩
      have hstep : p < p.after text := Location.lt_after hs p
      rcases not_lt_of_mem_lexemesFrom hb with hlt | heq
      · exact Location.lt_trans hstep hlt
      · rwa [heq] at hstep
    | blank | lineComment | blockComment | directive => exact hrest

/-- Later lexemes have later places. -/
theorem pairwise_lex (source : String) :
    (lex source).Pairwise fun a b => a.place < b.place :=
  pairwise_lexemesFrom _ fun _ hs => text_ne_nil_of_mem_segments hs

/-- A lexeme of a text whose place is one of the lines of the text, with the first character of
    the lexeme at it. -/
structure Lexeme.ShownIn (source : String) (lexeme : Lexeme) : Prop where
  mem_lex : lexeme ∈ lex source
  one_le_line : 1 ≤ lexeme.place.line
  line_le : lexeme.place.line ≤ (Text.lines source).length
  one_le_column : 1 ≤ lexeme.place.column
  first_char : ∃ front c text, lexeme.WrittenIn source front (c :: text) ∧
    Location.charAt? source lexeme.place = some c ∧ isBlank c = false

theorem line_of_charAt? {source : String} {p : Location} {c : Char}
    (h : Location.charAt? source p = some c) :
    ∃ line, (Text.lines source)[p.line - 1]? = some line ∧ c ∈ line.toList := by
  obtain ⟨line, hline, hc⟩ := Option.bind_eq_some_iff.mp h
  exact ⟨line, hline, List.mem_of_getElem? hc⟩

/-- Every lexeme of a text is shown in it. -/
theorem shownIn_of_mem_lex {source : String} {lexeme : Lexeme} (h : lexeme ∈ lex source) :
    lexeme.ShownIn source := by
  obtain ⟨front, text, hw⟩ := exists_writtenIn h
  obtain ⟨ss, ss', hss, hfront⟩ := hw.segment
  have hsegment : ⟨.lexeme lexeme.kind, text⟩ ∈ segments source.toList := by
    rw [hss]
    exact List.mem_append_right ss List.mem_cons_self
  obtain ⟨c, more, htext, hc⟩ := visible_of_mem_segments hsegment rfl
  obtain rfl : text = c :: more := htext
  have hsource : source.toList = front ++ c :: (more ++ ss'.flatMap Segment.text) := by
    rw [eq_append_of_segments hss, ← hfront]
    rfl
  have hchar : Location.charAt? source lexeme.place = some c := by
    rw [hw.place_eq]
    exact Location.charAt?_after hsource hc
  have hone := Location.one_le_after front
  rw [← hw.place_eq] at hone
  obtain ⟨line, hline, -⟩ := line_of_charAt? hchar
  have hlt := (List.getElem?_eq_some_iff.mp hline).1
  exact ⟨h, hone.1, by omega, hone.2, front, c, more, hw, hchar, hc⟩

end ConsoleLab
