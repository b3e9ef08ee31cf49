/-
  ConsoleLab.Proofs.Pane.Cursor — the cursor and the typed text.

  A line of a paragraph is drawn cluster by cluster, each behind the columns of those before it
  (`placeClusters_append`), and where there is room for all of them none is left out
  (`fitting_of_le`). So the typed text ends behind the mark and its own columns
  (`typedColumns`). The cursor counts characters instead, in 16 bits. For Latin text that is the
  same (`typedColumns_latin`) until the count no longer fits. Main fact: where the cursor stands
  and when this is behind the typed text (`cursor_behind_iff`); it is not for wide characters, and
  not for a text that is too long (`cursor_misplaced`).
-/

import ConsoleLab.Pane.Prompt

namespace ConsoleLab

open Screen (Grid Rect Span Style)

/-! ## Characters that stand alone -/

namespace Text

/-- Ranges are gone through in order. -/
theorem inRanges_eq_any (ranges : Array (Nat × Nat)) (c : Char) :
    inRanges ranges c =
      ranges.toList.any fun range => range.1 ≤ c.toNat && c.toNat ≤ range.2 := by
  rw [inRanges, Array.any_toList]

theorem columns_singleton {c : Char} (hwide : 0xA0 < c.toNat) (htext : c ≠ '\ufe0e')
    (hemoji : c ≠ '\ufe0f') : columns [c] = charColumns c := by
  have hnot : ¬ c.toNat ≤ 0xA0 := Nat.not_le_of_lt hwide
  simp [columns, measure, Following.before, Following.nothing, Following.dropEmojiSelector,
    Tail.before, Tail.merge?, hnot, htext, hemoji]

end Text

/-! ## Lines of clusters -/

namespace Screen.Grid

def clusterColumns : List (List Char) → Nat
  | [] => 0
  | cluster :: rest => Text.columns cluster + clusterColumns rest

theorem clusterColumns_append (front back : List (List Char)) :
    clusterColumns (front ++ back) = clusterColumns front + clusterColumns back := by
  induction front with
  | nil => exact (Nat.zero_add _).symm
  | cons cluster rest ih =>
    rw [List.cons_append, clusterColumns, clusterColumns, ih, Nat.add_assoc]

/-- Latin clusters take one column for each character. -/
theorem clusterColumns_latin {clusters : List (List Char)}
    (h : ∀ cluster ∈ clusters, ∀ c ∈ cluster, c.toNat ≤ 0xA0 ∧ c ≠ '\n') :
    clusterColumns clusters = clusters.flatten.length := by
  induction clusters with
  | nil => rfl
  | cons cluster rest ih =>
    obtain ⟨hcluster, hrest⟩ := List.forall_mem_cons.mp h
    rw [clusterColumns, Text.columns_eq_length hcluster, ih hrest, List.flatten_cons,
      List.length_append]

theorem fitting_of_le {limit used : Nat} {clusters : List (List Char × Style)}
    (h : used + clusterColumns (clusters.map Prod.fst) ≤ limit) :
    fitting limit used clusters = clusters := by
  induction clusters generalizing used with
  | nil => rfl
  | cons cluster rest ih =>
    rw [List.map_cons, clusterColumns] at h
    have hrest : fitting limit (used + Text.columns cluster.1) rest = rest := ih (by omega)
    simp only [fitting]
    rw [if_neg (by omega), if_neg (by omega), hrest]

/-- What comes behind some clusters is drawn behind their columns. -/
theorem placeClusters_append (y x : Nat) (front back : List (List Char × Style)) (g : Grid) :
    placeClusters y x (front ++ back) g =
      placeClusters y (x + clusterColumns (front.map Prod.fst)) back
        (placeClusters y x front g) := by
  induction front generalizing x g with
  | nil => rfl
  | cons cluster rest ih =>
    rw [List.map_cons, clusterColumns, List.cons_append]
    by_cases hnone : Text.columns cluster.1 = 0
    · simp only [placeClusters, hnone, if_true, Nat.zero_add, ih]
    · simp only [placeClusters, hnone, if_false, ih, Nat.add_assoc]

end Screen.Grid

namespace Pane.PromptView

open Screen.Grid

/-! ## The typed text -/

/-- The columns that the typed text takes on a line with room for all of it. -/
def typedColumns (typed : String) : Nat :=
  clusterColumns (Span.mk typed .plain).clusters

def lineClusters (typed : String) : List (List Char × Style) :=
  [⟨"> ", .inked Theme.secondary⟩, ⟨typed, .inked Theme.ink⟩].flatMap fun span =>
    (Span.clusters span).map (·, span.style)

theorem clusterColumns_lineClusters (typed : String) :
    clusterColumns ((lineClusters typed).map Prod.fst) = 2 + typedColumns typed := by
  have hstyle : ∀ (clusters : List (List Char)) (style : Style),
      (clusters.map (·, style)).map Prod.fst = clusters := by
    intro clusters style
    rw [List.map_map]
    exact List.map_id clusters
  have hline : (lineClusters typed).map Prod.fst =
      (Span.mk "> " .plain).clusters ++ (Span.mk typed .plain).clusters := by
    rw [lineClusters, List.flatMap_cons, List.flatMap_singleton, List.map_append, hstyle, hstyle]
    rfl
  have hmark : clusterColumns (Span.mk "> " .plain).clusters = 2 := by decide +kernel
  rw [hline, clusterColumns_append, hmark, typedColumns]

/-- The pane draws the clusters of its line that fit between its borders. -/
theorem draw_prompt (prompt typed : String) {r : Rect} (hwidth : 3 ≤ r.width)
    (hheight : 3 ≤ r.height) (g : Grid) :
    draw (some prompt) typed r g =
      placeClusters (r.y + 1) (r.x + 1) (fitting (r.width - 2) 0 (lineClusters typed))
        (g.drawBorder r (Style.inked Theme.secondary).bolded (" Input: " ++ prompt ++ " ")) := by
  have hinner : r.inner.isEmpty = false := by
    simp [Rect.inner, Rect.isEmpty]
    omega
  obtain ⟨n, hn⟩ : ∃ n, r.inner.height = n + 1 := ⟨r.height - 3, by simp [Rect.inner]; omega⟩
  simp only [draw, drawParagraph, hinner, Bool.false_eq_true, if_false, hn, List.take_succ_cons,
    List.take_nil, List.zipIdx_cons, List.zipIdx_nil, List.foldl_cons, List.foldl_nil]
  rfl

/-- How the typed text is drawn, and in which column it ends. -/
structure LineDrawn (prompt typed : String) (r : Rect) : Prop where
  /-- The row between the borders shows what fits of the line. -/
  drawn : 3 ≤ r.height → ∀ g : Grid, draw (some prompt) typed r g =
    placeClusters (r.y + 1) (r.x + 1) (fitting (r.width - 2) 0 (lineClusters typed))
      (g.drawBorder r (Style.inked Theme.secondary).bolded (" Input: " ++ prompt ++ " "))
  /-- With room for the mark and the columns of the text it is shown as a whole. -/
  whole : ∀ room, 2 + typedColumns typed ≤ room →
    fitting room 0 (lineClusters typed) = lineClusters typed
  /-- Whatever comes behind the text is drawn behind its columns. -/
  ends : ∀ (y : Nat) (next : List (List Char × Style)) (g : Grid),
    placeClusters y (r.x + 1) (lineClusters typed ++ next) g =
      placeClusters y (r.x + 3 + typedColumns typed) next
        (placeClusters y (r.x + 1) (lineClusters typed) g)

theorem lineDrawn (prompt typed : String) {r : Rect} (hwidth : 3 ≤ r.width) :
    LineDrawn prompt typed r where
  drawn := draw_prompt prompt typed hwidth
  whole := fun room hroom => by
    refine fitting_of_le ?_
    rw [clusterColumns_lineClusters]
    omega
  ends := fun y next g => by
    rw [placeClusters_append, clusterColumns_lineClusters]
    congr 1
    omega

theorem typedColumns_latin {typed : String} (h : ∀ c ∈ typed.toList, c.toNat ≤ 0xA0 ∧ c ≠ '\n') :
    typedColumns typed = typed.length := by
  have hflat : (Text.clusters typed.toList).flatten = typed.toList := Text.flatten_clusters _
  have hmem : ∀ cluster ∈ Text.clusters typed.toList, ∀ c ∈ cluster, c ∈ typed.toList := by
    intro cluster hcluster c hc
    rw [← hflat]
    exact List.mem_flatten_of_mem hcluster hc
  have hall : (Span.mk typed .plain).clusters = Text.clusters typed.toList := by
    refine List.filter_eq_self.mpr fun cluster hcluster => decide_eq_true ?_
    rintro rfl
    exact (h _ (hmem _ hcluster '\n' List.mem_cons_self)).2 rfl
  have hcolumns : clusterColumns (Text.clusters typed.toList) =
      (Text.clusters typed.toList).flatten.length :=
    clusterColumns_latin fun cluster hcluster c hc => h c (hmem cluster hcluster c hc)
  rw [typedColumns, hall, hcolumns, hflat, String.length_toList]

/-! ## The cursor -/

def lastColumn (r : Rect) : Nat :=
  r.x + r.width - 2

/-- Where the cursor belongs: in the column behind the typed text, or in the last one. -/
def behindTyped (typed : String) (r : Rect) : Nat × Nat :=
  (min (r.x + 3 + typedColumns typed) (lastColumn r), r.y + 1)

/-- The column behind the characters of the typed text, in 16 bits. -/
def countedColumn (typed : String) (r : Rect) : Nat :=
  (r.x + 3 + typed.length) % UInt16.size

/-- The characters are counted, and the column is cut at the last one. -/
theorem cursor_eq (prompt typed : String) {r : Rect} (hwidth : 3 ≤ r.width) :
    cursor (some prompt) typed r =
      some (min (countedColumn typed r) (lastColumn r), r.y + 1) := by
  have hlast : r.x + (r.width - 2) = lastColumn r := by
    unfold lastColumn
    omega
  rw [cursor, hlast]
  rfl

theorem cursor_eq_behindTyped_iff (prompt typed : String) {r : Rect} (hwidth : 3 ≤ r.width) :
    cursor (some prompt) typed r = some (behindTyped typed r) ↔
      countedColumn typed r = r.x + 3 + typedColumns typed ∨
        lastColumn r ≤ countedColumn typed r ∧ lastColumn r ≤ r.x + 3 + typedColumns typed := by
  rw [cursor_eq prompt typed hwidth, behindTyped, Option.some_inj, Prod.mk.injEq]
  omega

/-- Behind a text of which the count does not fit into 16 bits there is no column. -/
theorem lastColumn_le_of_size_le {typed : String} {r : Rect} (hright : r.x + r.width ≤ 65535)
    (h : ¬ r.x + 3 + typed.length < UInt16.size) : lastColumn r ≤ r.x + 3 + typed.length := by
  have hsize : UInt16.size = 65536 := rfl
  unfold lastColumn
  omega

/-- The cursor stands in the row of the typed text and not beyond the last column, in the column
    that the characters count to in 16 bits. This is behind the typed text as it is drawn exactly
    if the characters count to the columns they take or both reach the last column. For Latin text
    it is, as long as the count fits into 16 bits, and beyond that only where what is left of the
    count still reaches the last column. -/
theorem cursor_behind_iff (prompt typed : String) {r : Rect} (hwidth : 3 ≤ r.width)
    (hright : r.x + r.width ≤ 65535) :
    LineDrawn prompt typed r ∧
      cursor (some prompt) typed r = some (min (countedColumn typed r) (lastColumn r), r.y + 1) ∧
      (cursor (some prompt) typed r = some (behindTyped typed r) ↔
        countedColumn typed r = r.x + 3 + typedColumns typed ∨
          lastColumn r ≤ countedColumn typed r ∧
            lastColumn r ≤ r.x + 3 + typedColumns typed) ∧
      ((∀ c ∈ typed.toList, c.toNat ≤ 0xA0 ∧ c ≠ '\n') →
        (cursor (some prompt) typed r = some (behindTyped typed r) ↔
          r.x + 3 + typed.length < UInt16.size ∨ lastColumn r ≤ countedColumn typed r)) := by
  have hiff := cursor_eq_behindTyped_iff prompt typed hwidth
  refine ⟨lineDrawn prompt typed hwidth, cursor_eq prompt typed hwidth, hiff, fun hlatin => ?_⟩
  rw [hiff, typedColumns_latin hlatin]
  by_cases hfits : r.x + 3 + typed.length < UInt16.size
  · exact iff_of_true (.inl (Nat.mod_eq_of_lt hfits)) (.inl hfits)
  · have hcounted : countedColumn typed r < UInt16.size := Nat.mod_lt _ (by decide)
    constructor
    · rintro (hsame | ⟨hreaches, -⟩)
      · -- the count in 16 bits is not that of the text
        omega
      · exact .inr hreaches
    · rintro (hless | hreaches)
      · exact absurd hless hfits
      · exact .inr ⟨hreaches, lastColumn_le_of_size_le hright hfits⟩

def widePane : Rect := ⟨0, 0, 30, 3⟩

theorem cursor_behind_iff_latin :
    cursor (some "p") "Ada" widePane = some (behindTyped "Ada" widePane) ∧
      behindTyped "Ada" widePane = (6, 1) := by
  have hlatin : ∀ c ∈ "Ada".toList, c.toNat ≤ 0xA0 ∧ c ≠ '\n' := by simp
  obtain ⟨-, -, -, hiff⟩ :=
    cursor_behind_iff "p" "Ada" (r := widePane) (by decide) (by decide)
  refine ⟨(hiff hlatin).mpr (.inl (by decide)), ?_⟩
  rw [behindTyped, typedColumns_latin hlatin]
  decide

theorem exists_latin (n : Nat) : ∃ typed : String, typed.length = n ∧
    ∀ c ∈ typed.toList, c.toNat ≤ 0xA0 ∧ c ≠ '\n' := by
  refine ⟨String.ofList (List.replicate n 'x'), by simp, fun c hc => ?_⟩
  rw [String.toList_ofList] at hc
  rw [List.eq_of_mem_replicate hc]
  decide

/-- A wide character takes two columns and is counted as one, and behind a text that is too long for
    16 bits the cursor stands at its start. -/
theorem cursor_misplaced :
    cursor (some "p") "日" widePane = some (4, 1) ∧ behindTyped "日" widePane = (5, 1) ∧
      ∃ typed : String, cursor (some "p") typed widePane = some (3, 1) ∧
        behindTyped typed widePane = (28, 1) := by
  have hwide : Text.charColumns '日' = 2 := by
    rw [Text.charColumns, Text.inRanges_eq_any, Text.inRanges_eq_any]
    decide +kernel
  have htyped : typedColumns "日" = 2 := by
    show clusterColumns [['日']] = 2
    rw [clusterColumns, clusterColumns,
      Text.columns_singleton (by decide) (by decide) (by decide), hwide]
  obtain ⟨typed, hlength, hlatin⟩ := exists_latin 65536
  refine ⟨by decide, ?_, typed, ?_, ?_⟩
  · simp [behindTyped, htyped, widePane, lastColumn]
  · simp [cursor, hlength, widePane, UInt16.size]
  · simp [behindTyped, typedColumns_latin hlatin, hlength, widePane, lastColumn]

end Pane.PromptView

end ConsoleLab
