/-
  ConsoleLab.Proofs.Text.Pieces — the pieces of a text between separators.

  The pieces of a text are its maximal rows of characters that do not separate (`Pieces`), and
  they are what is found by splitting the text at every separator and leaving out what is
  empty (`pieces_iff`). Separators at the two ends of a text change nothing
  (`Pieces.skips`, `Pieces.append_skips`), so trimming does not either
  (`piecesBetween_trim`), and pieces written with single separators between them are found
  again (`piecesBetween_intercalate`).
-/

import ConsoleLab.Text.Blank

namespace ConsoleLab.Text

/-- The maximal rows of characters in a text that `separates` does not hold of, in order. -/
inductive Pieces (separates : Char → Bool) : List Char → List (List Char) → Prop
  | nil : Pieces separates [] []
  | skip {c : Char} {cs : List Char} {pieces : List (List Char)} : separates c = true →
      Pieces separates cs pieces → Pieces separates (c :: cs) pieces
  /-- A row ends with the text or in front of a separator. -/
  | row {row cs : List Char} {pieces : List (List Char)} : row ≠ [] →
      (∀ c ∈ row, separates c = false) → (∀ c ∈ cs.head?, separates c = true) →
      Pieces separates cs pieces → Pieces separates (row ++ cs) (row :: pieces)

variable {separates : Char → Bool} {cs : List Char} {pieces : List (List Char)}

namespace Pieces

/-- Splitting finds the pieces. -/
theorem filter_splitOnP (h : Pieces separates cs pieces) :
    (cs.splitOnP separates).filter (fun piece => !piece.isEmpty) = pieces := by
  induction h with
  | nil => rfl
  | skip hc _ ih => simpa [List.splitOnP_cons_eq_if_modifyHead, hc] using ih
  | @row row cs pieces hne hin hstop _ ih =>
    have hkeep : ∀ rest : List (List Char), (row :: rest).filter (fun piece => !piece.isEmpty) =
        row :: rest.filter fun piece => !piece.isEmpty := fun rest => by simp [hne]
    cases cs with
    | nil =>
      rw [List.append_nil, List.splitOnP_eq_singleton hin, hkeep]
      exact congrArg _ ih
    | cons c cs =>
      have hc : separates c = true := hstop c rfl
      rw [List.splitOnP_append_cons_of_forall_mem hin c hc, hkeep]
      rw [List.splitOnP_cons_eq_if_modifyHead, if_pos hc] at ih
      exact congrArg _ ih

theorem exists_pieces (separates : Char → Bool) (cs : List Char) :
    ∃ pieces, Pieces separates cs pieces := by
  induction cs with
  | nil => exact ⟨[], .nil⟩
  | cons c cs ih =>
    obtain ⟨pieces, h⟩ := ih
    cases hc : separates c with
    | true => exact ⟨pieces, .skip hc h⟩
    | false =>
      -- the character is a row of its own or goes in front of the first one
      cases h with
      | nil => exact ⟨[[c]], .row (List.cons_ne_nil c []) (by simpa using hc) nofun .nil⟩
      | skip hd h =>
        refine ⟨[c] :: pieces, .row (List.cons_ne_nil c []) (by simpa using hc) ?_ (.skip hd h)⟩
        rintro _ ⟨⟩
        exact hd
      | @row row rest pieces hne hin hstop h =>
        exact ⟨(c :: row) :: pieces, .row (List.cons_ne_nil c row)
          (List.forall_mem_cons.mpr ⟨hc, hin⟩) hstop h⟩

theorem plain (h : Pieces separates cs pieces) :
    ∀ piece ∈ pieces, piece ≠ [] ∧ ∀ c ∈ piece, separates c = false := by
  induction h with
  | nil => nofun
  | skip _ _ ih => exact ih
  | row hne hin _ _ ih => exact List.forall_mem_cons.mpr ⟨⟨hne, hin⟩, ih⟩

theorem skips {gap : List Char} (hgap : ∀ c ∈ gap, separates c = true)
    (h : Pieces separates cs pieces) : Pieces separates (gap ++ cs) pieces := by
  induction gap with
  | nil => exact h
  | cons c gap ih =>
    obtain ⟨hc, hgap⟩ := List.forall_mem_cons.mp hgap
    exact .skip hc (ih hgap)

theorem append_skips {gap : List Char} (hgap : ∀ c ∈ gap, separates c = true)
    (h : Pieces separates cs pieces) : Pieces separates (cs ++ gap) pieces := by
  induction h with
  | nil =>
    have hskip := Pieces.nil.skips hgap
    rwa [List.append_nil] at hskip
  | skip hc _ ih => exact .skip hc ih
  | @row row cs pieces hne hin hstop _ ih =>
    rw [List.append_assoc]
    refine .row hne hin ?_ ih
    cases cs with
    | nil => exact fun c hc => hgap c (List.mem_of_mem_head? hc)
    | cons c cs => exact hstop

/-- Rows written one after the other, with a separator between any two of them. -/
theorem of_intercalate {c : Char} (hc : separates c = true)
    (h : ∀ piece ∈ pieces, piece ≠ [] ∧ ∀ c ∈ piece, separates c = false) :
    Pieces separates ([c].intercalate pieces) pieces := by
  induction pieces with
  | nil => exact .nil
  | cons piece pieces ih =>
    obtain ⟨⟨hne, hin⟩, hrest⟩ := List.forall_mem_cons.mp h
    cases pieces with
    | nil =>
      have hrow : Pieces separates (piece ++ []) [piece] := .row hne hin nofun .nil
      rw [List.append_nil] at hrow
      rw [List.intercalate_singleton]
      exact hrow
    | cons next pieces =>
      rw [List.intercalate_cons_cons, List.append_assoc]
      refine .row hne hin ?_ (.skip hc (ih hrest))
      rintro _ ⟨⟩
      exact hc

end Pieces

/-- The pieces of a text are what is left of its parts between separators without the empty
    ones. -/
theorem pieces_iff :
    Pieces separates cs pieces ↔
      (cs.splitOnP separates).filter (fun piece => !piece.isEmpty) = pieces := by
  constructor
  · exact Pieces.filter_splitOnP
  · rintro rfl
    obtain ⟨pieces, h⟩ := Pieces.exists_pieces separates cs
    rwa [h.filter_splitOnP]

/-! ## Texts -/

theorem pieces_piecesBetween (separates : Char → Bool) (s : String) :
    Pieces separates s.toList ((piecesBetween separates s).map String.toList) := by
  rw [pieces_iff, piecesBetween, List.map_map]
  simp

theorem Pieces.piecesBetween_eq {s : String} (h : Pieces separates s.toList pieces) :
    piecesBetween separates s = pieces.map String.ofList := by
  rw [piecesBetween, h.filter_splitOnP]

/-- Where white space separates, trimming a text leaves it its pieces. -/
theorem piecesBetween_trim (hblank : ∀ c, isBlank c = true → separates c = true) (s : String) :
    piecesBetween separates (trim s) = piecesBetween separates s := by
  have hall : ∀ cs : List Char, ∀ c ∈ cs.takeWhile isBlank, separates c = true :=
    fun cs c hc => hblank c (List.all_eq_true.mp List.all_takeWhile c hc)
  have hright : ∀ cs : List Char, cs = trimRight cs ++ (cs.reverse.takeWhile isBlank).reverse := by
    intro cs
    rw [trimRight, ← List.reverse_append, List.takeWhile_append_dropWhile, List.reverse_reverse]
  have htrimmed := pieces_piecesBetween separates (trim s)
  rw [trim, String.toList_ofList] at htrimmed
  have hleft : Pieces separates (trimLeft s.toList)
      ((piecesBetween separates (trim s)).map String.toList) := by
    rw [hright (trimLeft s.toList)]
    exact htrimmed.append_skips fun c hc => hall _ c (List.mem_reverse.mp hc)
  have hwhole : Pieces separates s.toList ((piecesBetween separates (trim s)).map String.toList) := by
    rw [← List.takeWhile_append_dropWhile (p := isBlank) (l := s.toList)]
    exact hleft.skips (hall _)
  rw [hwhole.piecesBetween_eq, List.map_map]
  simp

/-- Pieces of texts, written with one separator between any two of them, are the pieces of what is
    written. -/
theorem piecesBetween_intercalate {sep : String} {c : Char} (hsep : sep.toList = [c])
    (hc : separates c = true) (texts : List String) :
    piecesBetween separates (sep.intercalate (texts.flatMap (piecesBetween separates))) =
      texts.flatMap (piecesBetween separates) := by
  have hplain : ∀ piece ∈ (texts.flatMap (piecesBetween separates)).map String.toList,
      piece ≠ [] ∧ ∀ c ∈ piece, separates c = false := by
    intro piece hpiece
    obtain ⟨word, hword, rfl⟩ := List.mem_map.mp hpiece
    obtain ⟨text, -, htext⟩ := List.mem_flatMap.mp hword
    exact (pieces_piecesBetween separates text).plain _ (List.mem_map_of_mem htext)
  have h := Pieces.of_intercalate hc hplain
  rw [← hsep, ← String.toList_intercalate] at h
  rw [h.piecesBetween_eq, List.map_map]
  simp

end ConsoleLab.Text
