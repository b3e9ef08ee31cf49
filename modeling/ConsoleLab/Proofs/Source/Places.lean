/-
  ConsoleLab.Proofs.Source.Places — the places of a text and its lines.

  Places are ordered by line and then by column, and going on in a text leads to later
  places (`lt_after`), so a place says how much of a text stands before it
  (`eq_of_after_eq`). Places are counted while a text is gone through character by
  character; the lines of a text are counted by splitting it. The two counts agree: where
  a character that is not white space was reached, there it stands in the lines
  (`charAt?_after`). A place also says how many newlines stand before it, and how many
  characters behind the last one (`after_start`).
-/

import ConsoleLab.Source.Location
import ConsoleLab.Text.Blank
import ConsoleLab.Text.Lines
import Mathlib.Data.List.Induction

namespace ConsoleLab

open Text (isBlank)

namespace Source.Location

/-! ## The order of places -/

/-- A place on an earlier line, or on the same line and further left. -/
instance : LT Location where
  lt p q := p.line < q.line ∨ p.line = q.line ∧ p.column < q.column

variable {p q r : Location}

theorem lt_iff : p < q ↔ p.line < q.line ∨ p.line = q.line ∧ p.column < q.column :=
  Iff.rfl

theorem lt_irrefl (p : Location) : ¬ p < p := by
  rw [lt_iff]
  omega

theorem lt_trans (h : p < q) (h' : q < r) : p < r := by
  rw [lt_iff] at *
  omega

theorem ne_of_lt (h : p < q) : p ≠ q := by
  rintro rfl
  exact lt_irrefl p h

theorem line_le_of_lt (h : p < q) : p.line ≤ q.line := by
  rw [lt_iff] at h
  omega

theorem lt_next (p : Location) (c : Char) : p < p.next c := by
  rw [lt_iff, next]
  split
  · exact Or.inl (Nat.lt_succ_self p.line)
  · exact Or.inr ⟨rfl, Nat.lt_succ_self p.column⟩

@[simp] theorem after_nil (p : Location) : p.after [] = p := rfl

@[simp] theorem after_cons (p : Location) (c : Char) (cs : List Char) :
    p.after (c :: cs) = (p.next c).after cs := rfl

theorem after_append (p : Location) (cs ds : List Char) :
    p.after (cs ++ ds) = (p.after cs).after ds :=
  List.foldl_append

theorem lt_after {cs : List Char} (h : cs ≠ []) (p : Location) : p < p.after cs := by
  induction cs generalizing p with
  | nil => exact absurd rfl h
  | cons c cs ih =>
    by_cases hcs : cs = []
    · subst hcs
      exact lt_next p c
    · exact lt_trans (lt_next p c) (ih hcs (p.next c))

/-- The place behind a front part of a text determines that part. -/
theorem eq_of_after_eq {front front' : List Char} (h : front <+: front')
    (hp : p.after front = p.after front') : front = front' := by
  obtain ⟨more, rfl⟩ := h
  by_cases hmore : more = []
  · rw [hmore, List.append_nil]
  · rw [after_append] at hp
    exact absurd hp (ne_of_lt (lt_after hmore _))

/-! ## Lines -/

def charAt? (source : String) (p : Location) : Option Char :=
  (Text.lines source)[p.line - 1]?.bind fun line => line.toList[p.column - 1]?

theorem splitOn_cons_of_ne {c : Char} (hc : c ≠ '\n') (back : List Char) :
    ∃ piece more, back.splitOn '\n' = piece :: more ∧
      (c :: back).splitOn '\n' = (c :: piece) :: more := by
  obtain ⟨piece, more, heq⟩ := List.exists_cons_of_ne_nil (List.splitOn_ne_nil '\n' back)
  refine ⟨piece, more, heq, ?_⟩
  rw [List.splitOn_cons_eq_if_modifyHead, if_neg (by simpa using hc), heq, List.modifyHead_cons]

/-- The pieces of a text between its newlines, where the text is cut behind `front`: the place
    there counts the pieces before, and the characters in front of the cut in the piece with
    the cut. -/
theorem exists_pieces (front back : List Char) :
    ∃ pieces lead piece more, back.splitOn '\n' = piece :: more ∧
      (front ++ back).splitOn '\n' = pieces ++ (lead ++ piece) :: more ∧
      start.after front = ⟨pieces.length + 1, lead.length + 1⟩ := by
  induction front using List.reverseRecOn generalizing back with
  | nil =>
    obtain ⟨piece, more, heq⟩ := List.exists_cons_of_ne_nil (List.splitOn_ne_nil '\n' back)
    exact ⟨[], [], piece, more, heq, heq, rfl⟩
  | append_singleton front c ih =>
    obtain ⟨pieces, lead, piece, more, hcut, hall, hplace⟩ := ih (c :: back)
    rw [List.append_assoc, List.singleton_append, hall, after_append, hplace, after_cons, after_nil]
    by_cases hc : c = '\n'
    · -- the newline closes the piece with the cut
      subst hc
      obtain ⟨piece', more', heq⟩ := List.exists_cons_of_ne_nil (List.splitOn_ne_nil '\n' back)
      rw [List.splitOn_cons_eq_if_modifyHead, if_pos (beq_self_eq_true _), heq] at hcut
      obtain ⟨rfl, rfl⟩ := List.cons.inj hcut
      exact ⟨pieces ++ [lead], [], piece', more', heq, by simp, by simp [next]⟩
    · obtain ⟨piece', more', heq, hcons⟩ := splitOn_cons_of_ne hc back
      rw [hcons] at hcut
      obtain ⟨rfl, rfl⟩ := List.cons.inj hcut
      exact ⟨pieces, lead ++ [c], piece', more', heq, by simp, by simp [next, hc]⟩

/-- The carriage return that a line end may have is no part of what is visible. -/
theorem getElem?_dropReturn {piece : List Char} {k : Nat} {c : Char} (h : piece[k]? = some c)
    (hc : isBlank c = false) : (Text.dropReturn piece)[k]? = some c := by
  unfold Text.dropReturn
  split
  · rename_i hlast
    rw [List.getElem?_dropLast]
    split
    · exact h
    · -- the last character is white space, so it is not the one we look at
      rename_i hk
      have hlen := (List.getElem?_eq_some_iff.mp h).1
      rw [List.getLast?_eq_getElem?, show piece.length - 1 = k by omega, h] at hlast
      cases hlast
      cases hc
  · exact h

/-- Every piece with a visible character is a line. -/
theorem getElem?_linesOfPieces {piece : List Char} {k : Nat} {c : Char} (h : piece[k]? = some c)
    (hc : isBlank c = false) (pieces more : List (List Char)) :
    ∃ row, (Text.linesOfPieces (pieces ++ piece :: more))[pieces.length]? = some row ∧
      row[k]? = some c := by
  induction pieces with
  | nil =>
    cases more with
    | nil =>
      have hne : piece ≠ [] := by
        rintro rfl
        cases h
      exact ⟨piece, by simp [Text.linesOfPieces, hne], h⟩
    | cons next more => exact ⟨Text.dropReturn piece, rfl, getElem?_dropReturn h hc⟩
  | cons first pieces ih =>
    obtain ⟨row, hrow, hat⟩ := ih
    refine ⟨row, ?_, hat⟩
    obtain ⟨next, rest, heq⟩ : ∃ next rest, pieces ++ piece :: more = next :: rest :=
      List.exists_cons_of_ne_nil (by simp)
    rw [List.cons_append, heq, Text.linesOfPieces, List.length_cons, List.getElem?_cons_succ, ← heq]
    exact hrow

/-- Going through a text and splitting it into lines count alike: the visible character behind
    `front` stands at the place behind `front`. -/
theorem charAt?_after {source : String} {front back : List Char} {c : Char}
    (h : source.toList = front ++ c :: back) (hc : isBlank c = false) :
    charAt? source (start.after front) = some c := by
  obtain ⟨pieces, lead, piece, more, hcut, hall, hplace⟩ := exists_pieces front (c :: back)
  have hnewline : c ≠ '\n' := by
    rintro rfl
    cases hc
  have hpiece : (lead ++ piece)[lead.length]? = some c := by
    obtain ⟨piece', more', -, hcons⟩ := splitOn_cons_of_ne hnewline back
    rw [hcons] at hcut
    obtain ⟨rfl, rfl⟩ := List.cons.inj hcut
    simp
  obtain ⟨line, hline, hat⟩ := getElem?_linesOfPieces hpiece hc pieces more
  simp [charAt?, Text.lines, h, hall, hplace, hline, hat]

/-- The place that the newlines of `front` and the characters behind the last one count up to. -/
def behind (front : List Char) : Location :=
  ⟨1 + front.count '\n', 1 + (front.reverse.takeWhile (· ≠ '\n')).length⟩

theorem behind_append_singleton (front : List Char) (c : Char) :
    behind (front ++ [c]) = (behind front).next c := by
  unfold behind next
  by_cases hc : c = '\n'
  · subst hc
    simp [Nat.add_assoc]
  · simp [hc, Nat.add_assoc]

/-- Going through a text counts its newlines, and on each line its characters. -/
theorem after_start (front : List Char) : start.after front = behind front := by
  induction front using List.reverseRecOn with
  | nil => rfl
  | append_singleton front c ih =>
    rw [after_append, ih, behind_append_singleton]
    rfl

theorem one_le_after (front : List Char) :
    1 ≤ (start.after front).line ∧ 1 ≤ (start.after front).column := by
  rw [after_start]
  exact ⟨Nat.le_add_right 1 _, Nat.le_add_right 1 _⟩

end Source.Location

end ConsoleLab
