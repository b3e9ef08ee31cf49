/-
  ConsoleLab.Proofs.Lexeme.Layout — white space between lexemes.

  White space in front of a lexeme ends whatever stands before it, and what stands before
  ends there anyway: every segment that lies in `front` is read the same whether the text goes
  on with a lexeme or with white space (`segments_congr`). A segment that runs to the end of
  its line is no exception, since a lexeme behind it stands on a later line. Main fact: white
  space put in front of a lexeme changes the kind of no lexeme (`map_kind_lex_insert`).
-/

import ConsoleLab.Proofs.Lexeme.Scanning

namespace ConsoleLab

open Source (Location)
open Text (isBlank)

/-! ## White space instead of a lexeme

  Below, `d` is the first character of what follows `front` in one text and `b` in the other. -/

theorem endsAsWell_blank {b d : Char} (hb : isBlank b = true) (hd : d ≠ '\n')
    (front more tail : List Char) : EndsAsWell (front ++ d :: more) (front ++ b :: tail) := by
  constructor
  case visible =>
    intro word hword hstart
    exact (prefix_of_prefix_append_blank hb hword hstart).trans (List.prefix_append front _)
  case line =>
    intro hline c hc
    cases front with
    | nil => exact absurd (hline d rfl) hd
    | cons x front => exact hline c hc

/-- The segments that lie in `front` stay the same. -/
theorem segments_congr {front more tail : List Char} {d b : Char} {ss ss' : List Segment}
    (hb : isBlank b = true) (hd : d ≠ '\n') (h : segments (front ++ d :: more) = ss ++ ss')
    (hfront : front = ss.flatMap Segment.text) :
    segments (front ++ b :: tail) = ss ++ segments (b :: tail) := by
  have hrest : ss'.flatMap Segment.text = d :: more := by
    have htext := eq_append_of_segments h
    rw [← hfront] at htext
    exact (List.append_cancel_left htext).symm
  have hspelled : AllSpelled ss (b :: tail) := by
    intro before s back hss
    have hs := allSpelled_segments (front ++ d :: more) before s (back ++ ss') (by rw [h, hss]; simp)
    rw [List.append_nil, List.flatMap_append, hrest] at hs
    exact hs.congr (endsAsWell_blank hb hd _ more tail) (by simp)
  rw [hfront]
  exact hspelled.segments_append

/-- White space in front of a lexeme holds no lexeme and changes none. -/
theorem kindsOf_insert {front blanks rest : List Char} {ss ss' : List Segment}
    (hblanks : ∀ c ∈ blanks, isBlank c = true) (h : segments (front ++ rest) = ss ++ ss')
    (hfront : front = ss.flatMap Segment.text) (hrest : ∃ d more, rest = d :: more ∧ d ≠ '\n') :
    kindsOf (front ++ (blanks ++ rest)) = kindsOf (front ++ rest) := by
  obtain ⟨d, more, rfl, hd⟩ := hrest
  have hback : segments (d :: more) = ss' := by
    have hall := eq_append_of_segments h
    rw [← hfront, List.append_cancel_left_eq] at hall
    rw [hall]
    exact segments_flatMap_of_append h
  cases blanks with
  | nil => rfl
  | cons b blanks =>
    have hb := hblanks b List.mem_cons_self
    have hclosed : Closed (String.ofList (b :: blanks)) [] :=
      closed_blank (by rw [String.toList_ofList]; exact hblanks)
    replace hclosed := hclosed (d :: more)
    rw [String.toList_ofList, List.nil_append] at hclosed
    have hkinds : (segments (b :: (blanks ++ d :: more))).filterMap (fun s => s.kind.lexeme?) =
        ss'.filterMap fun s => s.kind.lexeme? := by
      rw [← hback]
      exact hclosed
    rw [kindsOf, kindsOf, List.cons_append, segments_congr hb hd h hfront, h,
      List.filterMap_append, List.filterMap_append, hkinds]

/-- Whatever white space is put in front of a lexeme of a text, the lexemes stay the same; only
    their places change. -/
theorem map_kind_lex_insert {before after blanks : String} {lexeme : Lexeme}
    (hblanks : ∀ c ∈ blanks.toList, isBlank c = true) (hmem : lexeme ∈ lex (before ++ after))
    (hplace : lexeme.place = Location.start.after before.toList) :
    (lex (before ++ blanks ++ after)).map Lexeme.kind =
      (lex (before ++ after)).map Lexeme.kind := by
  obtain ⟨front, text, hw⟩ := exists_writtenIn hmem
  obtain ⟨ss, ss', hss, hfront⟩ := hw.segment
  have hsegment : ⟨.lexeme lexeme.kind, text⟩ ∈ segments (before ++ after).toList := by
    rw [hss]
    exact List.mem_append_right ss List.mem_cons_self
  obtain ⟨c, more, htext, hc⟩ := visible_of_mem_segments hsegment rfl
  obtain rfl : text = c :: more := htext
  have hsource := eq_append_of_segments hss
  rw [← hfront, String.toList_append] at hsource
  -- the place of the lexeme says where the text is cut
  have hcut : before.toList = front := by
    rw [hw.place_eq] at hplace
    rcases List.prefix_or_prefix_of_prefix (List.prefix_append before.toList after.toList)
      (hsource ▸ List.prefix_append front _) with hp | hp
    · exact Location.eq_of_after_eq hp hplace.symm
    · exact (Location.eq_of_after_eq hp hplace).symm
  subst hcut
  rw [List.append_cancel_left_eq] at hsource
  have hnewline : c ≠ '\n' := by
    rintro rfl
    cases hc
  rw [map_kind_lex, map_kind_lex, String.append_assoc, String.toList_append, String.toList_append,
    String.toList_append]
  rw [String.toList_append] at hss
  exact kindsOf_insert hblanks hss hfront ⟨c, _, hsource, hnewline⟩

end ConsoleLab
