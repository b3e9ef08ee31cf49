/-
  ConsoleLab.Proofs.Pane.ByteCuts — colouring a line by cutting its bytes.

  A line can be coloured by walking through the indices of its characters and cutting it at the
  bytes where they start (`Highlight.cut`). Looking for the end of a literal goes two characters
  on behind a backslash and may pass the end of the line, and each cut is one that can fail. Main
  fact: no cut fails, and the spans are those of the line (`cut_eq`).
-/

import ConsoleLab.Pane.Highlight
import ConsoleLab.Proofs.Text.Bytes

namespace ConsoleLab.Pane.Highlight

open Screen (SpanLine Span Style)
open Text (byteLength dropBytes? slice?)

/-! ## The walk -/

def offsetsFrom (offset : Nat) : List Char → List (Nat × Char)
  | [] => []
  | c :: cs => (offset, c) :: offsetsFrom (offset + c.utf8Size) cs

/-- The index of the first `quote` from index `i` on that no backslash protects, or one behind
    the last character. -/
def quoteIndex (chars : List (Nat × Char)) (quote : Char) (i : Nat) : Nat :=
  match _h : chars[i]? with
  | none => i
  | some (_, c) =>
    if c = quote then i else quoteIndex chars quote (if c = '\\' then i + 2 else i + 1)
termination_by chars.length - i
decreasing_by
  have hi := (List.getElem?_eq_some_iff.mp _h).1
  split <;> omega

theorem le_quoteIndex (chars : List (Nat × Char)) (quote : Char) (i : Nat) :
    i ≤ quoteIndex chars quote i := by
  fun_induction quoteIndex chars quote i with
  | case1 => exact Nat.le_refl _
  | case2 => exact Nat.le_refl _
  | case3 i byte c hc hquote ih =>
    refine Nat.le_trans ?_ ih
    split <;> omega

/-- Whether the character `c` at index `i`, which starts at `byte`, starts a comment or a
    directive. Only for a number sign it matters what stands before. -/
def commentAt (line : List Char) (chars : List (Nat × Char)) (i byte : Nat) (c : Char) :
    Option Bool :=
  if c = '/' ∧ chars[i + 1]?.map Prod.snd = some '/' then some true
  else if c = '#' then (slice? 0 byte line).map fun before => before.all Text.isBlank
  else some false

/-- The spans of `line` from index `i` on, where `held` is the word being read, backwards, and
    `chars` are the characters of the line with their bytes. -/
def cutFrom (line : List Char) (chars : List (Nat × Char)) (i : Nat) (held : List Char) :
    Option SpanLine :=
  match _h : chars[i]? with
  | none => some (wordSpan held false)
  | some (byte, c) => do
    if ← commentAt line chars i byte c then
      let comment ← dropBytes? byte line
      return wordSpan held false ++ [⟨String.ofList comment, .inked Theme.comment⟩]
    else if c = '"' ∨ c = '\'' then
      let stop := min (quoteIndex chars c (i + 1) + 1) chars.length
      let stopByte := (chars[stop]?.map Prod.fst).getD (byteLength line)
      let literal ← slice? byte stopByte line
      let later ← cutFrom line chars stop []
      return wordSpan held false ++ ⟨String.ofList literal, .inked Theme.string⟩ :: later
    else if inWord c then cutFrom line chars (i + 1) (c :: held)
    else
      let later ← cutFrom line chars (i + 1) []
      return wordSpan held (c == '(') ++ ⟨String.ofList [c], markStyle c⟩ :: later
termination_by chars.length - i
decreasing_by
  · have hi := (List.getElem?_eq_some_iff.mp _h).1
    have hstop := le_quoteIndex chars c (i + 1)
    omega
  all_goals
    have hi := (List.getElem?_eq_some_iff.mp _h).1
    omega

def cut (text : String) : Option SpanLine :=
  cutFrom text.toList (offsetsFrom 0 text.toList) 0 []

/-! ## Characters and their bytes -/

theorem length_offsetsFrom (offset : Nat) (cs : List Char) :
    (offsetsFrom offset cs).length = cs.length := by
  induction cs generalizing offset with
  | nil => rfl
  | cons c cs ih => rw [offsetsFrom, List.length_cons, ih, List.length_cons]

theorem offsetsFrom_append (offset : Nat) (front back : List Char) :
    offsetsFrom offset (front ++ back) =
      offsetsFrom offset front ++ offsetsFrom (offset + byteLength front) back := by
  induction front generalizing offset with
  | nil => rfl
  | cons c front ih =>
    rw [List.cons_append, offsetsFrom, offsetsFrom, ih, Text.byteLength_cons, Nat.add_assoc]
    rfl

/-- The character behind `front` starts at the byte behind it. -/
theorem getElem?_offsetsFrom (front back : List Char) :
    (offsetsFrom 0 (front ++ back))[front.length]? =
      back.head?.map fun c => (byteLength front, c) := by
  rw [offsetsFrom_append, List.getElem?_append_right (Nat.le_of_eq (length_offsetsFrom 0 front)),
    length_offsetsFrom, Nat.sub_self, Nat.zero_add]
  cases back <;> rfl

theorem getElem?_offsetsFrom_cons (front : List Char) (c : Char) (rest : List Char) :
    (offsetsFrom 0 (front ++ c :: rest))[front.length]? = some (byteLength front, c) :=
  getElem?_offsetsFrom front (c :: rest)

/-- The byte at which the characters behind `front` start, also at the end of the line. -/
theorem byte_offsetsFrom (front back : List Char) :
    ((offsetsFrom 0 (front ++ back))[front.length]?.map Prod.fst).getD
      (byteLength (front ++ back)) = byteLength front := by
  rw [getElem?_offsetsFrom]
  cases back with
  | nil => rw [List.append_nil]; rfl
  | cons c back => rfl

theorem head?_offsetsFrom (front : List Char) (c : Char) (rest : List Char) :
    (offsetsFrom 0 (front ++ c :: rest))[front.length + 1]?.map Prod.snd = rest.head? := by
  have hat := getElem?_offsetsFrom (front ++ [c]) rest
  rw [List.length_append, List.length_singleton, List.append_assoc, List.singleton_append] at hat
  rw [hat]
  cases rest <;> rfl

/-! ## Literals -/

/-- Looking for the end of a literal may pass the end of the line by one character. -/
theorem quoteIndex_eq (quote : Char) (front body : List Char) :
    min (quoteIndex (offsetsFrom 0 (front ++ body)) quote front.length + 1)
        (front ++ body).length =
      front.length + literalLength quote body := by
  have hat := getElem?_offsetsFrom front body
  fun_induction literalLength quote body generalizing front with
  | case1 =>
    rw [quoteIndex.eq_def, hat]
    simp
  | case2 rest =>
    rw [quoteIndex.eq_def, hat]
    simp
  | case3 hquote =>
    have hend : (offsetsFrom 0 (front ++ ['\\']))[front.length + 2]? = none := by
      simp [length_offsetsFrom]
    rw [quoteIndex.eq_def, hat]
    dsimp only [List.head?_cons, Option.map_some]
    rw [if_neg hquote, if_pos rfl, quoteIndex.eq_def, hend]
    simp
  | case4 d rest hquote ih =>
    have hrest := ih (front ++ ['\\', d]) (getElem?_offsetsFrom _ rest)
    rw [List.append_assoc, List.length_append] at hrest
    rw [quoteIndex.eq_def, hat]
    dsimp only [List.head?_cons, Option.map_some]
    rw [if_neg hquote, if_pos rfl]
    exact hrest.trans (Nat.add_right_comm _ _ _)
  | case5 c rest hquote hslash ih =>
    have hrest := ih (front ++ [c]) (getElem?_offsetsFrom _ rest)
    rw [List.append_assoc, List.length_append] at hrest
    rw [quoteIndex.eq_def, hat]
    dsimp only [List.head?_cons, Option.map_some]
    rw [if_neg hquote, if_neg hslash]
    exact hrest.trans (Nat.add_right_comm _ _ _)

/-! ## The line -/

theorem commentAt_eq (front : List Char) (c : Char) (rest : List Char) :
    commentAt (front ++ c :: rest) (offsetsFrom 0 (front ++ c :: rest)) front.length
      (byteLength front) c = some (startsComment (front.all Text.isBlank) c rest) := by
  have hbefore : slice? 0 (byteLength front) (front ++ c :: rest) = some front :=
    Text.slice?_append [] front (c :: rest)
  unfold commentAt startsComment
  rw [head?_offsetsFrom, hbefore]
  by_cases hslash : c = '/'
  · subst hslash
    by_cases hnext : rest.head? = some '/'
    · simp [hnext]
    · simp [hnext]
  · by_cases hsign : c = '#'
    · subst hsign
      simp
    · simp [hslash, hsign]

/-- Behind `front`, the walk finds the spans of the rest of the line. -/
theorem cutFrom_eq (front held rest : List Char) :
    cutFrom (front ++ rest) (offsetsFrom 0 (front ++ rest)) front.length held =
      some (spansFrom (front.all Text.isBlank) held rest) := by
  generalize hblank : front.all Text.isBlank = blank
  fun_induction spansFrom blank held rest generalizing front with
  | case1 blank held =>
    rw [cutFrom.eq_def, getElem?_offsetsFrom]
    rfl
  | case2 blank held c rest hcomment =>
    have hcut : dropBytes? (byteLength front) (front ++ c :: rest) = some (c :: rest) :=
      Text.dropBytes?_append front (c :: rest)
    rw [cutFrom.eq_def, getElem?_offsetsFrom_cons]
    simp only [commentAt_eq, hblank, hcomment, hcut]
    rfl
  | case3 blank held c rest hcomment hquote length ih =>
    have hline : front ++ c :: rest = front ++ c :: rest.take length ++ rest.drop length := by
      simp
    have hstop : min (quoteIndex (offsetsFrom 0 (front ++ c :: rest)) c (front.length + 1) + 1)
        (front ++ c :: rest).length = front.length + 1 + length := by
      have heq := quoteIndex_eq c (front ++ [c]) rest
      rwa [List.append_assoc, List.singleton_append, @List.length_append _ front [c],
        List.length_singleton] at heq
    have hfront : front.length + 1 + length = (front ++ c :: rest.take length).length := by
      have hle : front.length + 1 + length ≤ (front ++ c :: rest).length := by
        rw [← hstop]
        exact Nat.min_le_right _ _
      simp only [List.length_append, List.length_cons, List.length_take] at hle ⊢
      omega
    have hvisible : (front ++ c :: rest.take length).all Text.isBlank = false := by
      have hc : Text.isBlank c = false := by rcases hquote with rfl | rfl <;> rfl
      simp [hc]
    have hbyte := byte_offsetsFrom (front ++ c :: rest.take length) (rest.drop length)
    have hliteral := Text.slice?_append front (c :: rest.take length) (rest.drop length)
    have hlater := ih (front ++ c :: rest.take length) hvisible
    rw [← hline, ← hfront] at hbyte hlater
    rw [← hline] at hliteral
    rw [cutFrom.eq_def, getElem?_offsetsFrom_cons]
    simp only [commentAt_eq, hblank, hcomment, hquote, length_offsetsFrom, hstop, hbyte, hliteral,
      hlater]
    rfl
  | case4 blank held c rest hcomment hquote blank' hword ih =>
    have hlater := ih (front ++ [c]) (by simp [hblank, blank'])
    rw [List.append_assoc, List.length_append] at hlater
    rw [cutFrom.eq_def, getElem?_offsetsFrom_cons]
    simp only [commentAt_eq, hblank, hcomment, hquote, hword]
    exact hlater
  | case5 blank held c rest hcomment hquote blank' hword ih =>
    have hlater : cutFrom (front ++ c :: rest) (offsetsFrom 0 (front ++ c :: rest))
        (front.length + 1) [] = some (spansFrom blank' [] rest) := by
      have heq := ih (front ++ [c]) (by simp [hblank, blank'])
      rwa [List.append_assoc, List.length_append] at heq
    rw [cutFrom.eq_def, getElem?_offsetsFrom_cons]
    simp only [commentAt_eq, hblank, hcomment, hquote, hword, hlater]
    rfl

/-- No cut of the walk fails, and it finds the spans of the line. -/
theorem cut_eq (text : String) : cut text = some (line text) :=
  cutFrom_eq [] [] text.toList

end ConsoleLab.Pane.Highlight
