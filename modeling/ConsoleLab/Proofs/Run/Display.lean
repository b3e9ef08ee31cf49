/-
  ConsoleLab.Proofs.Run.Display — what the lines of a transcript show.

  The text of a transcript is made of what was shown, in order (`text_ofShown`), and its
  entries are tidy: none is empty, and none could have been put into the one before it
  (`tidy_ofShown`). The lines are cut at the newlines of the text, wherever entries begin
  and end: an entry goes on with the line that the one before it leaves open
  (`exists_openLines_cons`), so the lines spell the text (`map_chars_openLines`), and no
  character is lost or changes its stream (`flatMap_tagged_openLines`). Main fact:
  `display_lossless`.
-/

import ConsoleLab.Proofs.Run.Text
import Mathlib.Data.List.Chain
import Mathlib.Data.List.Induction

namespace ConsoleLab

open Source (Location)

/-! ## What is shown -/

inductive Shown
  | print (text : String) (place : Location)
  | echo (value : String)
  | system (message : String)
  deriving DecidableEq

/-- The text with one more thing behind it; a message starts on a fresh line. -/
def Shown.behind (text : String) : Shown → String
  | print shown _ => text ++ shown
  | echo value => text ++ value ++ "\n"
  | system message => text ++ Transcript.lineBreakAfter text ++ message ++ "\n"

namespace Transcript

def add (t : Transcript) : Shown → Transcript
  | .print text place => t.print text place
  | .echo value => t.echo value
  | .system message => t.system message

def ofShown (shown : List Shown) : Transcript :=
  shown.foldl add empty

theorem ofShown_concat (shown : List Shown) (one : Shown) :
    ofShown (shown ++ [one]) = (ofShown shown).add one := by
  simp [ofShown]

theorem text_add (t : Transcript) (one : Shown) : (t.add one).text = one.behind t.text := by
  cases one with
  | print text place => exact text_print t text place
  | echo value => exact text_echo t value
  | system message => exact text_system t message

theorem text_ofShown (shown : List Shown) :
    (ofShown shown).text = shown.foldl Shown.behind "" := by
  induction shown using List.reverseRecOn with
  | nil => rfl
  | append_singleton shown one ih => simp [ofShown_concat, text_add, ih]

/-! ## Entries -/

/-- Two entries that are not output of the same statement. -/
def Separate (entry other : Entry) : Prop :=
  ∀ place, entry.place? = some place → other.place? ≠ some place

/-- No entry is empty, and none could have been put into the one before it. -/
structure Tidy (t : Transcript) : Prop where
  text_ne : ∀ entry ∈ t.newestFirst, entry.text ≠ ""
  separate : t.newestFirst.IsChain Separate

namespace Tidy

variable {t : Transcript}

theorem empty : Transcript.empty.Tidy where
  text_ne := nofun
  separate := .nil

theorem cons (h : t.Tidy) {entry : Entry} (htext : entry.text ≠ "")
    (hplace : entry.place? = none) : Tidy ⟨entry :: t.newestFirst⟩ where
  text_ne := List.forall_mem_cons.mpr ⟨htext, h.text_ne⟩
  separate := by
    refine List.isChain_cons.mpr ⟨fun other _ place he => ?_, h.separate⟩
    rw [hplace] at he
    cases he

theorem print (h : t.Tidy) (text : String) (place : Location) : (t.print text place).Tidy := by
  rcases print_cases t text place with ⟨-, heq⟩ | ⟨old, rest, rfl, heq⟩ | ⟨hne, hhead, heq⟩
  · rwa [heq]
  · -- the statement of the newest entry stays, and its text only grows
    obtain ⟨hold, hrest⟩ := List.forall_mem_cons.mp h.text_ne
    obtain ⟨hnext, hchain⟩ := List.isChain_cons.mp h.separate
    have hgrown : old ++ text ≠ "" := fun he => hold (String.append_eq_empty_iff.mp he).1
    rw [heq]
    exact ⟨List.forall_mem_cons.mpr ⟨hgrown, hrest⟩, List.isChain_cons.mpr ⟨hnext, hchain⟩⟩
  · rw [heq]
    refine ⟨List.forall_mem_cons.mpr ⟨hne, h.text_ne⟩, List.isChain_cons.mpr ⟨?_, h.separate⟩⟩
    rintro other ho _ ⟨⟩
    exact hhead other ho

theorem add (h : t.Tidy) (one : Shown) : (t.add one).Tidy := by
  have hline : ∀ text : String, text ++ "\n" ≠ "" := by simp
  cases one with
  | print text place => exact h.print text place
  | echo value => exact h.cons (hline value) rfl
  | system message =>
    unfold Transcript.add system
    cases t.atLineStart with
    | true => exact h.cons (hline message) rfl
    | false =>
      have hbreak : Tidy ⟨.system "\n" :: t.newestFirst⟩ := h.cons (by decide) rfl
      exact hbreak.cons (hline message) rfl

/-- Output next to other output is that of another statement. -/
theorem place?_ne (h : t.Tidy) {front back : List Entry} {entry other : Entry}
    (hentries : t.entries = front ++ entry :: other :: back) (hstream : entry.stream = .program) :
    entry.place? ≠ other.place? := by
  have hnewest : t.newestFirst = back.reverse ++ other :: entry :: front.reverse := by
    rw [← List.reverse_reverse t.newestFirst]
    change t.entries.reverse = _
    rw [hentries]
    simp
  have hchain := h.separate
  rw [hnewest] at hchain
  obtain ⟨-, hseparate, -⟩ := List.isChain_append_cons_cons.mp hchain
  cases entry with
  | program text place => exact fun hsame => hseparate place hsame.symm rfl
  | echo | system => cases hstream

end Tidy

theorem tidy_ofShown (shown : List Shown) : (ofShown shown).Tidy := by
  induction shown using List.reverseRecOn with
  | nil => exact .empty
  | append_singleton shown one ih =>
    rw [ofShown_concat]
    exact ih.add one

end Transcript

/-! ## Pieces between newlines -/

/-- Text behind a text goes on with its last piece. -/
theorem splitOn_append {cs ds last piece : List Char} {front more : List (List Char)}
    (hcs : cs.splitOn '\n' = front ++ [last]) (hds : ds.splitOn '\n' = piece :: more) :
    (cs ++ ds).splitOn '\n' = front ++ (last ++ piece) :: more := by
  induction cs generalizing front last with
  | nil =>
    have hone : [] ++ [[]] = front ++ [last] := hcs
    obtain ⟨rfl, hlast⟩ := List.append_inj' hone rfl
    cases hlast
    exact hds
  | cons c cs ih =>
    rw [List.splitOn_cons_eq_if_modifyHead] at hcs
    rw [List.cons_append, List.splitOn_cons_eq_if_modifyHead]
    by_cases hc : (c == '\n') = true
    · rw [if_pos hc] at hcs ⊢
      rcases List.cons_eq_append_iff.mp hcs with ⟨-, hnil⟩ | ⟨front, rfl, hcut⟩
      · exact absurd (List.cons.inj hnil).2.symm (List.splitOn_ne_nil '\n' cs)
      · rw [ih hcut]
        rfl
    · rw [if_neg hc] at hcs ⊢
      obtain ⟨first, rest, hcut⟩ := List.exists_cons_of_ne_nil (List.splitOn_ne_nil '\n' cs)
      rw [hcut, List.modifyHead_cons] at hcs
      -- the character goes in front of the first piece, which may also be the last
      rcases List.cons_eq_append_iff.mp hcs with ⟨rfl, hone⟩ | ⟨front, rfl, hrest⟩
      · obtain ⟨rfl, rfl⟩ := List.cons.inj hone
        have hsame : cs.splitOn '\n' = [] ++ [first] := hcut
        rw [ih hsame]
        rfl
      · have hsame : cs.splitOn '\n' = (first :: front) ++ [last] := by rw [hcut, hrest]; rfl
        rw [ih hsame]
        rfl

theorem flatten_splitOn (cs : List Char) : (cs.splitOn '\n').flatten = cs.filter (· ≠ '\n') := by
  induction cs with
  | nil => rfl
  | cons c cs ih =>
    rw [List.splitOn_cons_eq_if_modifyHead]
    by_cases hc : c = '\n'
    · simp [hc, ih]
    · obtain ⟨first, rest, hcut⟩ := List.exists_cons_of_ne_nil (List.splitOn_ne_nil '\n' cs)
      rw [hcut] at ih ⊢
      simpa [hc] using ih

theorem exists_splitOn_concat (cs : List Char) :
    ∃ front last, cs.splitOn '\n' = front ++ [last] := by
  rcases List.eq_nil_or_concat' (cs.splitOn '\n') with hnil | hcut
  · exact absurd hnil (List.splitOn_ne_nil '\n' cs)
  · exact hcut

theorem newline_notMem_of_mem_splitOn {cs piece : List Char} (h : piece ∈ cs.splitOn '\n') :
    '\n' ∉ piece := by
  intro hm
  have hflat : '\n' ∈ (cs.splitOn '\n').flatten := List.mem_flatten.mpr ⟨piece, h, hm⟩
  rw [flatten_splitOn] at hflat
  simp at hflat

/-! ## Lines -/

def DisplayLine.chars (line : DisplayLine) : List Char :=
  line.spans.flatMap fun span => span.2.toList

def DisplayLine.tagged (line : DisplayLine) : List (Stream × Char) :=
  line.spans.flatMap fun span => span.2.toList.map fun c => (span.1, c)

def Entry.tagged (entry : Entry) : List (Stream × Char) :=
  (entry.text.toList.filter (· ≠ '\n')).map fun c => (entry.stream, c)

def DisplayLine.Plain (line : DisplayLine) : Prop :=
  ∀ span ∈ line.spans, span.2 ≠ "" ∧ '\n' ∉ span.2.toList

theorem DisplayLine.toList_text (line : DisplayLine) : line.text.toList = line.chars := by
  have h : ∀ (spans : List (Stream × String)) (out : String),
      (spans.foldl (fun out span => out ++ span.2) out).toList =
        out.toList ++ spans.flatMap fun span => span.2.toList := by
    intro spans
    induction spans with
    | nil => simp
    | cons span spans ih => simp [ih]
  exact h line.spans ""

namespace Transcript

variable {stream : Stream} {piece : List Char}

theorem flatMap_chars_spanOf (stream : Stream) (piece : List Char) :
    ((spanOf stream piece).flatMap fun span => span.2.toList) = piece := by
  cases piece <;> simp [spanOf]

theorem flatMap_tagged_spanOf (stream : Stream) (piece : List Char) :
    ((spanOf stream piece).flatMap fun span => span.2.toList.map fun c => (span.1, c)) =
      piece.map fun c => (stream, c) := by
  cases piece <;> simp [spanOf]

theorem plain_spanOf (h : '\n' ∉ piece) :
    ∀ span ∈ spanOf stream piece, span.2 ≠ "" ∧ '\n' ∉ span.2.toList := by
  cases piece with
  | nil => simp [spanOf]
  | cons c piece => simpa [spanOf] using h

/-- An entry makes a line of each of its pieces but the last, which goes in front of the first of
    the later lines. -/
theorem prepend_eq {entry : Entry} {front : List (List Char)} {last : List Char}
    (h : entry.text.toList.splitOn '\n' = front ++ [last]) (line : DisplayLine)
    (later : List DisplayLine) :
    prepend entry (line :: later) = (front.map fun piece => ⟨spanOf entry.stream piece⟩) ++
      ⟨spanOf entry.stream last ++ line.spans⟩ :: later := by
  have hrev : (entry.text.toList.splitOn '\n').reverse = last :: front.reverse := by
    rw [h, List.reverse_concat]
  simp only [prepend, hrev, List.map_reverse, List.reverse_reverse]

theorem openLines_ne_nil (entries : List Entry) : openLines entries ≠ [] := by
  induction entries with
  | nil => exact List.cons_ne_nil _ _
  | cons entry entries ih =>
    obtain ⟨front, last, hcut⟩ := exists_splitOn_concat entry.text.toList
    obtain ⟨line, later, hlater⟩ := List.exists_cons_of_ne_nil ih
    have hcons : openLines (entry :: entries) = prepend entry (openLines entries) := rfl
    rw [hcons, hlater, prepend_eq hcut]
    exact List.append_ne_nil_of_right_ne_nil _ (List.cons_ne_nil _ _)

theorem exists_openLines_cons (entry : Entry) (entries : List Entry) :
    ∃ front last line later, entry.text.toList.splitOn '\n' = front ++ [last] ∧
      openLines entries = line :: later ∧
      openLines (entry :: entries) = (front.map fun piece => ⟨spanOf entry.stream piece⟩) ++
        ⟨spanOf entry.stream last ++ line.spans⟩ :: later := by
  obtain ⟨front, last, hcut⟩ := exists_splitOn_concat entry.text.toList
  obtain ⟨line, later, hlater⟩ := List.exists_cons_of_ne_nil (openLines_ne_nil entries)
  refine ⟨front, last, line, later, hcut, hlater, ?_⟩
  rw [← prepend_eq hcut, ← hlater]
  rfl

/-- The lines spell the pieces of the text. -/
theorem map_chars_openLines (entries : List Entry) :
    (openLines entries).map DisplayLine.chars = (joinTexts entries).toList.splitOn '\n' := by
  induction entries with
  | nil => rfl
  | cons entry entries ih =>
    obtain ⟨front, last, line, later, hcut, hlater, hlines⟩ := exists_openLines_cons entry entries
    rw [hlater, List.map_cons] at ih
    have hjoin : joinTexts (entry :: entries) = entry.text ++ joinTexts entries := by
      rw [← joinTexts_singleton entry, ← joinTexts_append]
      rfl
    have hfront : (front.map fun piece => DisplayLine.mk (spanOf entry.stream piece)).map
        DisplayLine.chars = front := by
      rw [List.map_map]
      exact List.map_id'' (flatMap_chars_spanOf entry.stream) front
    have hline : DisplayLine.chars ⟨spanOf entry.stream last ++ line.spans⟩ =
        last ++ line.chars := by
      simp only [DisplayLine.chars, List.flatMap_append, flatMap_chars_spanOf]
    rw [hlines, List.map_append, hfront, List.map_cons, hline, hjoin, String.toList_append]
    exact (splitOn_append hcut ih.symm).symm

theorem plain_openLines (entries : List Entry) : ∀ line ∈ openLines entries, line.Plain := by
  induction entries with
  | nil => simp [openLines, DisplayLine.Plain]
  | cons entry entries ih =>
    obtain ⟨front, last, line, later, hcut, hlater, hlines⟩ := exists_openLines_cons entry entries
    rw [hlater] at ih
    obtain ⟨hline, hlater⟩ := List.forall_mem_cons.mp ih
    have hpieces : ∀ piece ∈ front ++ [last], '\n' ∉ piece := by
      rw [← hcut]
      exact fun piece => newline_notMem_of_mem_splitOn
    rw [hlines]
    intro shown hs
    rcases List.mem_append.mp hs with hs | hs
    · obtain ⟨piece, hp, rfl⟩ := List.mem_map.mp hs
      exact plain_spanOf (hpieces piece (List.mem_append_left _ hp))
    · rcases List.mem_cons.mp hs with rfl | hs
      · intro span hspan
        rcases List.mem_append.mp hspan with hspan | hspan
        · exact plain_spanOf (hpieces last (by simp)) span hspan
        · exact hline span hspan
      · exact hlater shown hs

/-- The characters of the lines are those of the entries, with their streams. -/
theorem flatMap_tagged_openLines (entries : List Entry) :
    (openLines entries).flatMap DisplayLine.tagged = entries.flatMap Entry.tagged := by
  induction entries with
  | nil => rfl
  | cons entry entries ih =>
    obtain ⟨front, last, line, later, hcut, hlater, hlines⟩ := exists_openLines_cons entry entries
    rw [hlater, List.flatMap_cons] at ih
    have hentry : entry.tagged = (front ++ [last]).flatMap fun piece =>
        piece.map fun c => (entry.stream, c) := by
      rw [← hcut, List.flatMap_def, ← List.map_flatten, flatten_splitOn]
      rfl
    have hline : DisplayLine.tagged ⟨spanOf entry.stream last ++ line.spans⟩ =
        (last.map fun c => (entry.stream, c)) ++ line.tagged := by
      simp only [DisplayLine.tagged, List.flatMap_append, flatMap_tagged_spanOf]
    calc (openLines (entry :: entries)).flatMap DisplayLine.tagged
        = (front.flatMap fun piece => piece.map fun c => (entry.stream, c)) ++
            ((last.map fun c => (entry.stream, c)) ++ line.tagged ++
              later.flatMap DisplayLine.tagged) := by
          rw [hlines, List.flatMap_append, List.flatMap_map, List.flatMap_cons, hline]
          simp only [DisplayLine.tagged, flatMap_tagged_spanOf]
      _ = entry.tagged ++ entries.flatMap Entry.tagged := by
          rw [hentry, ← ih]
          simp
      _ = (entry :: entries).flatMap Entry.tagged := (List.flatMap_cons).symm

theorem lines_cases (t : Transcript) :
    (t.lines = openLines t.entries ∧ ∀ line ∈ t.lines.getLast?, line.spans ≠ []) ∨
      openLines t.entries = t.lines ++ [⟨[]⟩] := by
  unfold lines
  dsimp only
  split
  · rename_i hlast
    obtain ⟨line, hline, hspans⟩ := Option.map_eq_some_iff.mp hlast
    obtain ⟨front, hfront⟩ := List.getLast?_eq_some_iff.mp hline
    obtain ⟨spans⟩ := line
    obtain rfl : spans = [] := hspans
    rw [hfront, List.dropLast_concat]
    exact Or.inr rfl
  · rename_i hlast
    refine Or.inl ⟨rfl, fun line hline hspans => hlast ?_⟩
    rw [Option.mem_def.mp hline]
    exact congrArg some hspans

end Transcript

/-- The pieces of a text between newlines. Behind the last newline there is a piece only if text
    stands there. -/
def linePieces (text : String) : List (List Char) :=
  let pieces := text.toList.splitOn '\n'
  if pieces.getLast? = some [] then pieces.dropLast else pieces

theorem Transcript.map_chars_lines (t : Transcript) :
    t.lines.map DisplayLine.chars = linePieces t.text := by
  have hall : (openLines t.entries).map DisplayLine.chars = t.text.toList.splitOn '\n' :=
    map_chars_openLines t.entries
  unfold linePieces
  rw [← hall]
  dsimp only
  rcases lines_cases t with ⟨heq, hlast⟩ | heq
  · rw [if_neg, ← heq]
    intro hempty
    rw [List.getLast?_map] at hempty
    obtain ⟨line, hline, hchars⟩ := Option.map_eq_some_iff.mp hempty
    rw [← heq] at hline
    have hplain := plain_openLines t.entries line
      (by rw [← heq]; exact List.mem_of_getLast? hline)
    obtain ⟨span, spans, hspans⟩ := List.exists_cons_of_ne_nil (hlast line hline)
    have hspan := (hplain span (by rw [hspans]; exact List.mem_cons_self)).1
    simp [DisplayLine.chars, hspans] at hchars
    exact hspan hchars.1
  · have hclosed : (openLines t.entries).map DisplayLine.chars =
        t.lines.map DisplayLine.chars ++ [[]] := by
      rw [heq, List.map_append]
      rfl
    rw [hclosed, if_pos List.getLast?_concat, List.dropLast_concat]

/-- The lines of a transcript are a lossless view of what was shown. Its entries hold text and are
    not split without need; its text is what was shown, in order; its lines are the pieces of
    that text between newlines, without empty spans, and spell the entries with their
    streams. -/
theorem display_lossless (shown : List Shown) :
    let t := Transcript.ofShown shown
    (∀ entry ∈ t.entries, entry.text ≠ "") ∧
      (∀ front entry other back, t.entries = front ++ entry :: other :: back →
        entry.stream = .program → other.stream = .program → entry.place? ≠ other.place?) ∧
      t.text = shown.foldl Shown.behind "" ∧
      t.lines.map (fun line => line.text.toList) = linePieces t.text ∧
      (∀ line ∈ t.lines, ∀ span ∈ line.spans, span.2 ≠ "" ∧ '\n' ∉ span.2.toList) ∧
      t.lines.flatMap DisplayLine.tagged = t.entries.flatMap Entry.tagged := by
  intro t
  have htidy : t.Tidy := Transcript.tidy_ofShown shown
  have hplain := Transcript.plain_openLines t.entries
  have htagged := Transcript.flatMap_tagged_openLines t.entries
  refine ⟨?_, ?_, Transcript.text_ofShown shown, ?_, ?_, ?_⟩
  · intro entry he
    exact htidy.text_ne entry (List.mem_reverse.mp he)
  · exact fun front entry other back hentries hstream _ => htidy.place?_ne hentries hstream
  · rw [← Transcript.map_chars_lines]
    exact List.map_congr_left fun line _ => line.toList_text
  · rcases Transcript.lines_cases t with ⟨heq, -⟩ | heq
    · rw [heq]
      exact hplain
    · rw [heq] at hplain
      exact fun line hl => hplain line (List.mem_append_left _ hl)
  · rcases Transcript.lines_cases t with ⟨heq, -⟩ | heq
    · rw [heq]
      exact htagged
    · rwa [heq, List.flatMap_append, List.flatMap_singleton, DisplayLine.tagged,
        List.flatMap_nil, List.append_nil] at htagged

example : (Transcript.ofShown [.print "a\n\nAge? " ⟨4, 3⟩, .echo "9", .print "b" ⟨5, 3⟩,
    .system "done"]).lines =
      [⟨[(.program, "a")]⟩, ⟨[]⟩, ⟨[(.program, "Age? "), (.echo, "9")]⟩, ⟨[(.program, "b")]⟩,
        ⟨[(.system, "done")]⟩] := by decide +kernel

end ConsoleLab
