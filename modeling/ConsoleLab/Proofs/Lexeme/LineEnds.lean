/-
  ConsoleLab.Proofs.Lexeme.LineEnds — a text is read line by line.

  The end of a line ends what the end of the text ends; only a comment that is still open goes
  on. So the segments of a text that leaves no comment open stay what they are if more lines
  follow (`segments_append_newline`). Main fact: `lex_append_newline`, the lexemes of such a text
  followed by other lines are its own and those of the other lines, further down by the lines
  in front of them.
-/

import ConsoleLab.Proofs.Lexeme.Reading

namespace ConsoleLab

open Source (Location)

/-- The text ends within a block comment that is not closed. -/
def EndsInComment (cs : List Char) : Prop :=
  ∃ s ∈ (segments cs).getLast?, s.kind = .blockComment ∧ ¬ ['*', '/'] <:+: s.text.drop 2

instance (cs : List Char) : Decidable (EndsInComment cs) :=
  inferInstanceAs (Decidable (∃ s ∈ (segments cs).getLast?,
    s.kind = .blockComment ∧ ¬ ['*', '/'] <:+: s.text.drop 2))

def Lexeme.below (k : Nat) (lexeme : Lexeme) : Lexeme :=
  { lexeme with place := ⟨lexeme.place.line + k, lexeme.place.column⟩ }

/-! ## Segments -/

theorem endsAsWell_newline (after tail : List Char) : EndsAsWell after (after ++ '\n' :: tail) := by
  constructor
  case visible => exact fun word hword hstart => prefix_of_prefix_append_blank rfl hword hstart
  case line =>
    intro hline c hc
    cases after with
    | nil => exact (Option.some.inj hc).symm
    | cons d after => exact hline c hc

theorem segments_newline (tail : List Char) :
    segments ('\n' :: tail) = ⟨.blank, ['\n']⟩ :: segments tail := by
  have hread : Lexer.segmentAt '\n' tail = (.blank, 0) := if_pos rfl
  rw [segments_cons, hread]
  rfl

theorem segments_append_newline {cs : List Char} (h : ¬ EndsInComment cs) (tail : List Char) :
    segments (cs ++ '\n' :: tail) = segments cs ++ ⟨.blank, ['\n']⟩ :: segments tail := by
  have hspelled : AllSpelled (segments cs) ('\n' :: tail) := by
    intro front s back hss
    have hs := allSpelled_segments cs front s back hss
    rw [List.append_nil] at hs
    apply hs.congr (endsAsWell_newline _ tail)
    intro hkind hback
    -- nothing but the last segment stands at the end of the text
    have hlast : back = [] := by
      cases back with
      | nil => rfl
      | cons t back =>
        have hne : t.text ≠ [] := text_ne_nil_of_mem_segments (by rw [hss]; simp)
        exact absurd (List.append_eq_nil_iff.mp hback).1 hne
    by_contra hopen
    refine h ⟨s, ?_, hkind, hopen⟩
    rw [hss, hlast, List.getLast?_concat]
    rfl
  have hread := hspelled.segments_append
  rwa [flatMap_text_segments, segments_newline] at hread

/-! ## Lexemes -/

theorem lexemesFrom_append (p : Location) (ss ss' : List Segment) :
    lexemesFrom p (ss ++ ss') =
      lexemesFrom p ss ++ lexemesFrom (p.after (ss.flatMap Segment.text)) ss' := by
  induction ss generalizing p with
  | nil => rfl
  | cons s ss ih =>
    obtain ⟨kind, text⟩ := s
    rw [List.flatMap_cons, Location.after_append]
    cases kind with
    | lexeme kind => exact congrArg (⟨kind, p⟩ :: ·) (ih _)
    | blank | lineComment | blockComment | directive => exact ih _

theorem after_below (k : Nat) (p : Location) (text : List Char) :
    (⟨p.line + k, p.column⟩ : Location).after text =
      ⟨(p.after text).line + k, (p.after text).column⟩ := by
  induction text generalizing p with
  | nil => rfl
  | cons c text ih =>
    rw [Location.after_cons, Location.after_cons, ← ih]
    unfold Location.next
    split
    · rw [Nat.add_right_comm]
    · rfl

/-- Segments that stand further down are the same lexemes further down. -/
theorem lexemesFrom_below (k : Nat) (p : Location) (ss : List Segment) :
    lexemesFrom ⟨p.line + k, p.column⟩ ss = (lexemesFrom p ss).map (Lexeme.below k) := by
  induction ss generalizing p with
  | nil => rfl
  | cons s ss ih =>
    obtain ⟨kind, text⟩ := s
    have hrest := ih (p.after text)
    rw [← after_below] at hrest
    cases kind with
    | lexeme kind => exact congrArg (⟨kind, ⟨p.line + k, p.column⟩⟩ :: ·) hrest
    | blank | lineComment | blockComment | directive => exact hrest

/-- A text that leaves no comment open is read like a text of its own, and so are the lines
    behind it. -/
theorem lex_append_newline {s t : String} (h : ¬ EndsInComment s.toList) :
    lex (s ++ "\n" ++ t) =
      lex s ++ (lex t).map (Lexeme.below (1 + s.toList.count '\n')) := by
  have htext : (s ++ "\n" ++ t).toList = s.toList ++ '\n' :: t.toList := by
    rw [String.toList_append, String.toList_append, List.append_assoc]
    rfl
  have hplace : ((Location.start.after s.toList).after ['\n']) =
      ⟨Location.start.line + (1 + s.toList.count '\n'), Location.start.column⟩ := by
    rw [Location.after_start]
    exact congrArg (Location.mk · 1) (Nat.add_comm _ 1)
  rw [lex, htext, segments_append_newline h, lexemesFrom_append, flatMap_text_segments, lexemesFrom,
    hplace, lexemesFrom_below]
  · rfl
  · intro kind hkind
    cases hkind

/-- A text that ends in a string cut off behind a backslash, and a line that starts with a
    quote. -/
theorem lex_append_newline_cutOff :
    ¬ EndsInComment "cout << \"a\\".toList ∧
      lex ("cout << \"a\\" ++ "\n" ++ "\";x") =
        lex "cout << \"a\\" ++ (lex "\";x").map (Lexeme.below 1) := by
  have hclosed : ¬ EndsInComment "cout << \"a\\".toList := by decide +kernel
  exact ⟨hclosed, lex_append_newline hclosed⟩

end ConsoleLab
