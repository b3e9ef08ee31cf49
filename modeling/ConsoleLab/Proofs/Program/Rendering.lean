/-
  ConsoleLab.Proofs.Program.Rendering — how an error is shown.

  An error with a line is shown as its message and the lines around that line, each behind a
  gutter with its number, and a row of carets below the line at fault (`Depicts`). The row has
  a caret for each character of the text of the line, but the white space in front of them is
  as wide as the bytes of the white space before the text. Main facts: `error_depicted`, over
  every source text; and the carets stand below the text they are about exactly if each
  character of the white space before it takes one byte (`carets_shifted` is a text where they
  do not).
-/

import ConsoleLab.Proofs.Program.Places
import ConsoleLab.Proofs.Text.Bytes
import Mathlib.Data.List.TakeWhile

namespace ConsoleLab

open Text (isBlank)

/-! ## Lines and their numbers -/

/-- The elements from number `first` to number `last`, counted from one, each with its number. -/
theorem zipIdx_drop_take {α : Type} (default : α) (xs : List α) {first last : Nat}
    (hfirst : 1 ≤ first) (hlast : last ≤ xs.length) :
    ((xs.take last).drop (first - 1)).zipIdx first =
      (List.range' first (last + 1 - first)).map fun n => (xs[n - 1]?.getD default, n) := by
  refine List.ext_getElem ?_ fun k hk hk' => ?_
  · simp only [List.length_zipIdx, List.length_drop, List.length_take, List.length_map,
      List.length_range']
    omega
  · simp only [List.length_map, List.length_range'] at hk'
    have hindex : first + k - 1 = first - 1 + k := by omega
    have hin : first - 1 + k < xs.length := by omega
    simp only [List.getElem_zipIdx, List.getElem_drop, List.getElem_take, List.getElem_map,
      List.getElem_range', Nat.one_mul, hindex, List.getElem?_eq_getElem hin, Option.getD_some]

/-- The numbers of a window, split at one of them. -/
theorem range'_window {first line last : Nat} (hfirst : first ≤ line) (hlast : line ≤ last) :
    List.range' first (last + 1 - first) =
      List.range' first (line - first) ++ line :: List.range' (line + 1) (last - line) := by
  have hsplit := (@List.range'_append first (line - first) (last + 1 - line) 1).symm
  rw [Nat.one_mul, Nat.add_sub_cancel' hfirst] at hsplit
  rw [show last + 1 - first = line - first + (last + 1 - line) by omega, hsplit,
    show last + 1 - line = last - line + 1 by omega, List.range'_succ]

/-! ## White space before a text -/

namespace Text

def indentation (line : String) : List Char :=
  line.toList.takeWhile isBlank

theorem exists_trail (line : String) : ∃ trail, (∀ c ∈ trail, isBlank c = true) ∧
    line.toList = indentation line ++ (trim line).toList ++ trail := by
  refine ⟨((trimLeft line.toList).reverse.takeWhile isBlank).reverse, fun c hc => ?_, ?_⟩
  · exact List.mem_takeWhile_imp (List.mem_reverse.mp hc)
  · rw [trim, String.toList_ofList, trimRight, List.append_assoc, ← List.reverse_append,
      List.takeWhile_append_dropWhile, List.reverse_reverse]
    exact List.takeWhile_append_dropWhile.symm

end Text

namespace StructuralError

/-! ## The rows -/

def gutter (mark : Char) (width : Nat) (number : List Char) : List Char :=
  [mark, ' '] ++ number.leftpad width ' ' ++ [' ', '|', ' ']

def lineRow (lines : List String) (width : Nat) (mark : Char) (n : Nat) : List Char :=
  gutter mark width n.repr.toList ++ (lines[n - 1]?.getD "").toList

/-- The error is shown as its message, a row for each line from two before `line` to two after it,
    as far as there are any, and behind the row of `line`, which alone is marked, a row with a
    gutter of the same width and with carets in `count` columns from `column` on, counted from
    zero. -/
def Depicts (e : StructuralError) (source : String) (line column count : Nat) : Prop :=
  let lines := Text.lines source
  let first := max 1 (line - 2)
  let last := min (line + 2) lines.length
  let width := last.repr.length
  ∃ underline : List Char,
    (∀ k, underline[k]? = some '^' ↔ column ≤ k ∧ k < column + count) ∧
    (∀ c ∈ underline, c = ' ' ∨ c = '^') ∧
    (e.render source).toList =
      (("error: " ++ e.message).toList ::
        ((List.range' first (line - first)).map (lineRow lines width ' ') ++
          lineRow lines width '>' line :: (gutter ' ' width [] ++ underline) ::
            (List.range' (line + 1) (last - line)).map (lineRow lines width ' '))).flatMap
        (· ++ ['\n'])

theorem toList_contextRow (lines : List String) (width line n : Nat) :
    (contextRow width line n (lines[n - 1]?.getD "")).toList =
      lineRow lines width (if n = line then '>' else ' ') n ++ ['\n'] := by
  unfold contextRow alignedNumber lineRow gutter List.leftpad
  rw [← String.length_toList]
  split <;> simp only [String.toList_append, String.toList_ofList, List.append_assoc] <;> rfl

/-- The carets are indented by the bytes of the white space before the text. -/
theorem toList_caretRow (width : Nat) (line : String) :
    (caretRow width line).toList =
      gutter ' ' width [] ++
        (List.replicate (Text.byteLength (Text.indentation line)) ' ' ++
          List.replicate (max 1 (Text.trim line).length) '^') ++ ['\n'] := by
  have hline : line = String.ofList (Text.indentation line) ++
      String.ofList (Text.trimLeft line.toList) := by
    rw [← String.ofList_append, Text.indentation, Text.trimLeft,
      List.takeWhile_append_dropWhile, String.ofList_toList]
  have hindent : line.utf8ByteSize - (String.ofList (Text.trimLeft line.toList)).utf8ByteSize =
      Text.byteLength (Text.indentation line) := by
    nth_rewrite 1 [hline]
    rw [String.utf8ByteSize_append, Nat.add_sub_cancel, Text.utf8ByteSize_ofList]
  unfold caretRow gutter List.leftpad
  simp [hindent]

theorem toList_foldl_rows {α : Type} (row : α → String) (xs : List α) (out : String) :
    (xs.foldl (fun out x => out ++ row x) out).toList =
      out.toList ++ xs.flatMap fun x => (row x).toList := by
  induction xs generalizing out with
  | nil => simp
  | cons x xs ih => rw [List.foldl_cons, ih, String.toList_append, List.append_assoc]; rfl

theorem toList_context (lines : List String) {line : Nat} (hone : 1 ≤ line)
    (hline : line ≤ lines.length) :
    let first := max 1 (line - 2)
    let last := min (line + 2) lines.length
    let width := last.repr.length
    (context lines line).toList =
      ((List.range' first (line - first)).map (lineRow lines width ' ')).flatMap (· ++ ['\n']) ++
        (lineRow lines width '>' line ++ ['\n'] ++
          ((caretRow width (lines[line - 1]?.getD "")).toList ++
            ((List.range' (line + 1) (last - line)).map (lineRow lines width ' ')).flatMap
              (· ++ ['\n']))) := by
  intro first last width
  have hrow : (fun (out : String) (row : String × Nat) =>
      if row.2 = line then out ++ contextRow width line row.2 row.1 ++ caretRow width row.1
        else out ++ contextRow width line row.2 row.1) =
      fun out row => out ++ (contextRow width line row.2 row.1 ++
        if row.2 = line then caretRow width row.1 else "") := by
    funext out row
    split <;> simp [String.append_assoc]
  have hothers : ∀ ns : List Nat, (∀ n ∈ ns, n ≠ line) →
      (ns.map fun n => (lines[n - 1]?.getD "", n)).flatMap (fun row =>
        (contextRow width line row.2 row.1 ++
          if row.2 = line then caretRow width row.1 else "").toList) =
        (ns.map (lineRow lines width ' ')).flatMap (· ++ ['\n']) := by
    intro ns hns
    rw [List.flatMap_map, List.flatMap_map]
    refine List.flatMap_congr fun n hn => ?_
    have hne := hns n hn
    rw [if_neg hne, String.append_empty, toList_contextRow, if_neg hne]
  have hfirst : 1 ≤ first := Nat.le_max_left _ _
  have hlast : last ≤ lines.length := Nat.min_le_right _ _
  have hbefore : first ≤ line := by omega
  have hafter : line ≤ last := by omega
  unfold context
  dsimp only
  rw [hrow, toList_foldl_rows, zipIdx_drop_take "" lines hfirst hlast, range'_window hbefore hafter,
    List.map_append, List.map_cons, List.flatMap_append, List.flatMap_cons,
    hothers _ (by simp; omega), hothers _ (by simp; omega), if_pos rfl, String.toList_append,
    toList_contextRow, if_pos rfl]
  simp

/-! ## One error -/

variable {e : StructuralError} {source : String} {line column count : Nat}

theorem getElem?_underline (column count k : Nat) :
    (List.replicate column ' ' ++ List.replicate count '^')[k]? = some '^' ↔
      column ≤ k ∧ k < column + count := by
  rw [List.getElem?_append, List.length_replicate]
  split
  · simp [List.getElem?_replicate]
    omega
  · simp [List.getElem?_replicate]
    omega

theorem depicts_render {text : String} (hline : e.line? = some line)
    (hone : 1 ≤ line) (htext : (Text.lines source)[line - 1]? = some text) :
    e.Depicts source line (Text.byteLength (Text.indentation text))
      (max 1 (Text.trim text).length) := by
  have hlast : line ≤ (Text.lines source).length := by
    have hlt := (List.getElem?_eq_some_iff.mp htext).1
    omega
  refine ⟨_, fun k => getElem?_underline _ _ k, fun c hc => ?_, ?_⟩
  · rcases List.mem_append.mp hc with hc | hc
    · exact Or.inl (List.eq_of_mem_replicate hc)
    · exact Or.inr (List.eq_of_mem_replicate hc)
  · have hrender : e.render source =
        "error: " ++ e.message ++ "\n" ++ context (Text.lines source) line := by
      unfold render
      rw [hline]
      exact if_neg (by omega)
    rw [hrender, String.toList_append, String.toList_append, toList_context _ hone hlast, htext,
      Option.getD_some, toList_caretRow]
    simp

/-- An error is shown in one way only. -/
theorem Depicts.column_unique {column' : Nat} (hcount : 0 < count)
    (h : e.Depicts source line column count) (h' : e.Depicts source line column' count) :
    column = column' := by
  obtain ⟨underline, hcarets, -, heq⟩ := h
  obtain ⟨underline', hcarets', -, heq'⟩ := h'
  rw [heq] at heq'
  simp only [List.flatMap_cons, List.flatMap_append, List.append_assoc] at heq'
  have hsame : underline = underline' := by
    simpa using heq'
  subst hsame
  have hfirst := (hcarets' column).mp ((hcarets column).mpr (by omega))
  have hfirst' := (hcarets column').mp ((hcarets' column').mpr (by omega))
  omega

end StructuralError

/-! ## Whole texts -/

variable {order : PrintOrder} {source : String} {e : StructuralError} {line : Nat}

/-- An error that has a line is shown with the lines around it. The line has a text to mark,
    with white space before and behind it, and below it stands one caret for each character of
    the text, from the column on that counts the bytes of the white space before it. So the
    carets are below the text if and only if each character of this white space takes one
    byte. -/
theorem error_depicted (he : Program.parse order source = .error e)
    (hline : e.line? = some line) :
    ∃ text trail, 1 ≤ line ∧ (Text.lines source)[line - 1]? = some text ∧
      text.toList = Text.indentation text ++ (Text.trim text).toList ++ trail ∧
      (∀ c ∈ trail, isBlank c = true) ∧ Text.trim text ≠ "" ∧
      e.Depicts source line (Text.byteLength (Text.indentation text)) (Text.trim text).length ∧
      (e.Depicts source line (Text.indentation text).length (Text.trim text).length ↔
        ∀ c ∈ Text.indentation text, c.utf8Size = 1) := by
  obtain ⟨lexeme, hshown, rfl⟩ := exists_shownIn_of_error he hline
  obtain ⟨-, c, -, -, hchar, hvisible⟩ := hshown.first_char
  obtain ⟨text, htext, hmem⟩ := line_of_charAt? hchar
  obtain ⟨trail, htrail, hsplit⟩ := Text.exists_trail text
  have hne : Text.trim text ≠ "" := trim_ne_empty hmem hvisible
  have hpos : 0 < (Text.trim text).length := by
    rw [← String.length_toList, List.length_pos_iff]
    exact fun hnil => hne (String.toList_eq_nil_iff.mp hnil)
  have hdepicts := StructuralError.depicts_render hline hshown.one_le_line htext
  rw [Nat.max_eq_right hpos] at hdepicts
  refine ⟨text, trail, hshown.one_le_line, htext, hsplit, htrail, hne, hdepicts, ?_⟩
  rw [← Text.byteLength_eq_length_iff]
  constructor
  · exact fun hbelow => hdepicts.column_unique hpos hbelow
  · intro hsame
    rw [← hsame]
    exact hdepicts

/-- A closing brace to spare, behind a space that takes two bytes. -/
def spareBrace : String :=
  "int main() \x7b\n\x7d\n\u00a0\x7d"

theorem parse_spareBrace : Program.parse .source spareBrace = .error (.unmatchedClose 3) := by
  have hfault : (match Program.parse .source spareBrace with
      | .ok _ => none
      | .error e => some e) = some (.unmatchedClose 3) := by decide +kernel
  cases hp : Program.parse .source spareBrace with
  | ok p => simp [hp] at hfault
  | error e =>
    rw [hp] at hfault
    rw [Option.some.inj hfault]

theorem lines_spareBrace : (Text.lines spareBrace)[2]? = some "\u00a0\x7d" := by decide +kernel

theorem error_depicted_spareBrace :
    Program.parse .source spareBrace = .error (.unmatchedClose 3) ∧
      (StructuralError.unmatchedClose 3).line? = some 3 ∧
      (StructuralError.unmatchedClose 3).Depicts spareBrace 3 2 1 := by
  obtain ⟨text, trail, -, htext, -, -, -, hdepicts, -⟩ := error_depicted parse_spareBrace rfl
  obtain rfl := Option.some.inj (lines_spareBrace.symm.trans htext)
  exact ⟨parse_spareBrace, rfl, hdepicts⟩

/-- The caret is not below the brace, whose column counts the characters before it. -/
theorem carets_shifted :
    Program.parse .source spareBrace = .error (.unmatchedClose 3) ∧
      (Text.lines spareBrace)[3 - 1]? = some "\u00a0\x7d" ∧
      ¬ (StructuralError.unmatchedClose 3).Depicts spareBrace 3
        (Text.indentation "\u00a0\x7d").length (Text.trim "\u00a0\x7d").length := by
  refine ⟨parse_spareBrace, lines_spareBrace, fun hbelow => ?_⟩
  have hdepicts := StructuralError.depicts_render (e := .unmatchedClose 3) rfl (by decide)
    lines_spareBrace
  have hsame := hdepicts.column_unique (by decide) hbelow
  exact absurd hsame (by decide +kernel)

end ConsoleLab
