/-
  ConsoleLab.Proofs.Run.Separation — what separates a print from the next one.

  Prints are to be kept apart by a space behind every text that does not end its line
  (`separated`). Which print adds a space is decided by its last part, not by its text
  (`printText_eq`), so a line that is ended by anything else than a newline as the last part gets
  the space as well, at the start of the next line (`Store.HidesLineEnd`). The line is ended by
  the last part that shows anything (`closesLine_partsText_iff`). In a run this is a newline, a
  literal, or the mark of a variable without a value, but never a value: what is stored is a
  number or comes from a trimmed answer (`Visited.valuesOpen`). Main facts: `print_separation`,
  and a program that prints a stray space (`stray_space`).
-/

import ConsoleLab.Proofs.Lexeme.Words
import ConsoleLab.Proofs.Run.Counting
import ConsoleLab.Proofs.Run.Ending
import ConsoleLab.Proofs.Text.Pieces
import Mathlib.Data.List.Induction

namespace ConsoleLab

open Source (Location)

/-! ## The text of a print -/

def ClosesLine (text : String) : Prop :=
  text.toList.getLast? = some '\n'

instance (text : String) : Decidable (ClosesLine text) :=
  inferInstanceAs (Decidable (_ = _))

theorem closesLine_append (front back : String) :
    ClosesLine (front ++ back) ↔ ClosesLine back ∨ back = "" ∧ ClosesLine front := by
  unfold ClosesLine
  rw [String.toList_append, List.getLast?_append]
  by_cases h : back = ""
  · simp [h]
  · have hne : back.toList ≠ [] := by simpa using h
    simp [h, List.getLast?_eq_some_getLast hne]

/-- A text that is kept apart from what comes next: by a space, unless it ends its line. -/
def separated (text : String) : String :=
  if ClosesLine text then text else text ++ " "

namespace Store

variable {s : Store} {marker : String} {parts : List PrintPart}

def partsText (s : Store) (marker : String) (parts : List PrintPart) : String :=
  String.join (parts.map (s.partText marker))

theorem partsText_cons (s : Store) (marker : String) (part : PrintPart) (rest : List PrintPart) :
    s.partsText marker (part :: rest) = s.partText marker part ++ s.partsText marker rest := by
  simp [partsText]

theorem partsText_eq_empty_iff :
    s.partsText marker parts = "" ↔ ∀ silent ∈ parts, s.partText marker silent = "" := by
  induction parts with
  | nil => simp [partsText]
  | cons part rest ih =>
    rw [partsText_cons, String.append_eq_empty_iff, ih, List.forall_mem_cons]

theorem printText_eq (s : Store) (marker : String) (parts : List PrintPart) :
    s.printText marker parts =
      s.partsText marker parts ++ if parts.getLast? = some .newline then "" else " " := by
  have htexts : parts.foldl (fun out part => out ++ s.partText marker part) "" =
      s.partsText marker parts := by
    rw [partsText, String.join, List.foldl_map]
  rw [printText, htexts]
  split
  · exact String.append_empty.symm
  · rfl

/-- The text of a print ends its line, but not with a newline as the last part. -/
def HidesLineEnd (s : Store) (marker : String) (parts : List PrintPart) : Prop :=
  ClosesLine (s.partsText marker parts) ∧ parts.getLast? ≠ some .newline

/-- A line is ended by the last part that shows anything. -/
theorem closesLine_partsText_iff :
    ClosesLine (s.partsText marker parts) ↔
      ∃ front part back, parts = front ++ part :: back ∧ ClosesLine (s.partText marker part) ∧
        ∀ silent ∈ back, s.partText marker silent = "" := by
  induction parts with
  | nil =>
    constructor
    · intro h
      cases h
    · rintro ⟨front, part, back, h, -⟩
      simp at h
  | cons first rest ih =>
    rw [partsText_cons, closesLine_append, ih, partsText_eq_empty_iff]
    constructor
    · rintro (⟨front, part, back, rfl, hpart, hback⟩ | ⟨hsilent, hfirst⟩)
      · exact ⟨first :: front, part, back, rfl, hpart, hback⟩
      · exact ⟨[], first, rest, rfl, hfirst, hsilent⟩
    · rintro ⟨front, part, back, heq, hpart, hback⟩
      cases front with
      | nil =>
        cases heq
        exact Or.inr ⟨hback, hpart⟩
      | cons _ front =>
        cases heq
        exact Or.inl ⟨front, part, back, rfl, hpart, hback⟩

/-- The space is where it should be unless a line end is hidden. -/
theorem printText_eq_separated_iff :
    s.printText marker parts = separated (s.partsText marker parts) ↔
      ¬ s.HidesLineEnd marker parts := by
  have hnewline : parts.getLast? = some .newline → ClosesLine (s.partsText marker parts) := by
    intro hlast
    obtain ⟨front, rfl⟩ := List.getLast?_eq_some_iff.mp hlast
    have hcloses : ClosesLine (s.partText marker .newline) := by
      show ClosesLine "\n"
      decide
    exact closesLine_partsText_iff.mpr ⟨front, .newline, [], rfl, hcloses, nofun⟩
  rw [printText_eq, HidesLineEnd, separated]
  by_cases hlast : parts.getLast? = some .newline
  · simp [hlast, hnewline hlast]
  · by_cases hcloses : ClosesLine (s.partsText marker parts) <;> simp [hlast, hcloses]

end Store

/-! ## What is stored -/

/-- A text with a visible last character, or with none, does not end a line. -/
theorem not_closesLine {text : String}
    (h : ∀ c ∈ text.toList.getLast?, Text.isBlank c = false) : ¬ ClosesLine text := by
  intro hcloses
  exact absurd (h '\n' hcloses) (by decide)

theorem head?_dropWhile_isBlank (cs : List Char) :
    ∀ c ∈ (cs.dropWhile Text.isBlank).head?, Text.isBlank c = false := by
  intro c hc
  have hhead := List.head?_dropWhile_not Text.isBlank cs
  rw [Option.mem_def.mp hc] at hhead
  exact hhead

theorem not_closesLine_trim (raw : String) : ¬ ClosesLine (Text.trim raw) := by
  refine not_closesLine fun c hc => head?_dropWhile_isBlank (Text.trimLeft raw.toList).reverse c ?_
  rwa [Text.trim, String.toList_ofList, Text.trimRight, List.getLast?_reverse] at hc

theorem not_closesLine_firstCharacter {text : String}
    (h : ∀ c ∈ text.toList.head?, Text.isBlank c = false) : ¬ ClosesLine (firstCharacter text) := by
  refine not_closesLine fun c hc => h c ?_
  rw [firstCharacter, String.toList_ofList] at hc
  cases htext : text.toList with
  | nil => simp [htext] at hc
  | cons d rest => simpa [htext] using hc

theorem head?_trim (raw : String) : ∀ c ∈ (Text.trim raw).toList.head?, Text.isBlank c = false := by
  have hfront : Text.trimRight (Text.trimLeft raw.toList) <+: Text.trimLeft raw.toList := by
    rw [Text.trimRight, ← List.reverse_suffix, List.reverse_reverse]
    exact List.dropWhile_suffix _
  obtain ⟨cut, hcut⟩ := hfront
  intro c hc
  refine head?_dropWhile_isBlank raw.toList c ?_
  rw [Text.trim, String.toList_ofList] at hc
  show c ∈ (Text.trimLeft raw.toList).head?
  rw [← hcut, List.head?_append, Option.mem_def.mp hc]
  rfl

theorem isBlank_of_mem_repr {m : Nat} {c : Char} (hc : c ∈ m.repr.toList) :
    Text.isBlank c = false := by
  obtain ⟨d, digits, heq, hdigits, -⟩ := repr_digits m
  rw [heq] at hc
  apply Bool.eq_false_iff.mpr
  intro hblank
  exact Bool.false_ne_true ((isDigit_of_isBlank hblank).symm.trans (hdigits c hc))

theorem not_closesLine_int64Text (n : Int64) : ¬ ClosesLine (Text.int64Text n) := by
  refine not_closesLine fun c hlast => ?_
  have hc : c ∈ (Text.int64Text n).toList := List.mem_of_getLast? hlast
  rw [Text.int64Text] at hc
  cases hn : n.toInt with
  | ofNat m =>
    rw [hn] at hc
    exact isBlank_of_mem_repr hc
  | negSucc m =>
    have htext : (Int.negSucc m).repr.toList = '-' :: (m + 1).repr.toList := by simp [Int.repr]
    rw [hn, htext] at hc
    rcases List.mem_cons.mp hc with rfl | hc
    · decide
    · exact isBlank_of_mem_repr hc

theorem not_closesLine_valueOf (hint : ScanHint) {piece : String}
    (h : ∀ c ∈ piece.toList, Text.isBlank c = false) :
    ¬ ClosesLine (hint.valueOf piece).display := by
  have hpiece : ¬ ClosesLine piece :=
    not_closesLine fun c hc => h c (List.mem_of_getLast? hc)
  cases hint with
  | integer =>
    unfold ScanHint.valueOf
    dsimp only
    split
    · exact not_closesLine_int64Text _
    · exact hpiece
  | char => exact not_closesLine_firstCharacter fun c hc => h c (List.mem_of_mem_head? hc)
  | float => exact hpiece
  | string => exact hpiece

namespace Store

def ValuesOpen (s : Store) : Prop :=
  ∀ name value, s.get? name = some value → ¬ ClosesLine value.display

namespace ValuesOpen

variable {s : Store}

theorem empty : Store.empty.ValuesOpen := nofun

theorem set (h : s.ValuesOpen) (name : String) {value : Value} (hvalue : ¬ ClosesLine value.display) :
    (s.set name value).ValuesOpen := by
  intro other stored hstored
  rw [get?_set] at hstored
  split at hstored
  · cases hstored
    exact hvalue
  · exact h other stored hstored

theorem scan (h : s.ValuesOpen) (names : List String) (hints : List ScanHint)
    {pieces : List String} (hpieces : ∀ piece ∈ pieces, ∀ c ∈ piece.toList, Text.isBlank c = false) :
    (s.scan names hints pieces).ValuesOpen := by
  have hall : ∀ (given : List ((String × ScanHint) × String)) (s : Store), s.ValuesOpen →
      (∀ one ∈ given, ∀ c ∈ one.2.toList, Text.isBlank c = false) →
      (given.foldl (fun s one => s.set one.1.1 (one.1.2.valueOf one.2)) s).ValuesOpen := by
    intro given
    induction given with
    | nil => exact fun _ hs _ => hs
    | cons one given ih =>
      intro s hs hgiven
      obtain ⟨hone, hrest⟩ := List.forall_mem_cons.mp hgiven
      exact ih _ (hs.set one.1.1 (not_closesLine_valueOf one.1.2 hone)) hrest
  exact hall _ s h fun one hone => hpieces one.2 (List.of_mem_zip hone).2

end ValuesOpen

end Store

namespace Run

variable {code : Array Instruction} {config : RunConfig} {r r' : Run}

theorem Turn.valuesOpen (h : Turn r r') (hs : r.store.ValuesOpen) : r'.store.ValuesOpen := by
  cases h with
  | finish | wait | overLimit | print | mismatch | stuck => exact hs
  | enter | pass => exact hs.set _ (not_closesLine_int64Text _)
  | again _ _ hcount | leave _ _ hcount =>
    obtain ⟨n, -, -, rfl⟩ := Store.increment_eq_ok hcount
    exact hs.set _ (not_closesLine_int64Text _)

theorem valuesOpen_accept (hs : r.store.ValuesOpen) (read : PendingRead) (raw : String) :
    (r.accept read (Text.trim raw)).store.ValuesOpen := by
  cases read with
  | one name mode =>
    cases mode with
    | value | line => exact hs.set name (not_closesLine_trim raw)
    | character => exact hs.set name (not_closesLine_firstCharacter (head?_trim raw))
  | many names hints =>
    have hpieces : ∀ piece ∈ answerPieces (Text.trim raw), ∀ c ∈ piece.toList,
        Text.isBlank c = false := by
      intro piece hpiece c hc
      have hplain := (Text.pieces_piecesBetween _ (Text.trim raw)).plain _
        (List.mem_map_of_mem hpiece)
      exact (Bool.or_eq_false_iff.mp (hplain.2 c hc)).1
    simp only [accept]
    split
    · exact hs.scan names hints hpieces
    · exact hs.scan names hints hpieces

/-- Nothing that a run has stored ends a line. -/
theorem Visited.valuesOpen (h : Visited code config r) : r.store.ValuesOpen := by
  induction h with
  | start => exact .empty
  | @uncharged r _ ih => rwa [uncharged_eq]
  | @step r _ ih =>
    cases hr : r.isReady with
    | true => exact (step_turn hr).valuesOpen ih
    | false => rwa [step_of_not_ready hr]
  | accept raw _ _ ih => exact valuesOpen_accept ih _ raw

/-- A print that is carried out adds its text to the transcript. -/
theorem step_of_performed_print {parts : List PrintPart} {place : Location}
    (h : r.performed? = some ⟨.perform (.print parts), place⟩) :
    r.step.transcript.text =
      r.transcript.text ++ r.store.printText r.config.undefinedMarker parts := by
  unfold performed? at h
  split at h
  · rename_i i hready hi
    split at h
    · cases h
    · rename_i hgo
      cases h
      obtain ⟨-, hlimit⟩ := not_or.mp (mt Bool.or_eq_true_iff.mpr hgo)
      rw [Option.not_isSome_iff_eq_none] at hlimit
      have hstep : r.step = (r.charge ⟨.perform (.print parts), place⟩).print parts := by
        simp only [step_of_instruction hready hi, reach, readOf?, execute, hlimit, perform]
      rw [hstep]
      exact Transcript.text_print _ _ _
  · cases h

end Run

/-! ## Prints and the space behind them -/

/-- The part ends a line where nothing stored does: it is a newline, a literal that ends in one, or
    a variable without a value where the mark for these ends in one. -/
def Store.EndsLine (s : Store) (marker : String) : PrintPart → Prop
  | .newline => True
  | .literal text => ClosesLine text
  | .var name => s.get? name = none ∧ ClosesLine marker

theorem Store.ValuesOpen.closesLine_partText_iff {s : Store} (h : s.ValuesOpen) {marker : String}
    {part : PrintPart} : ClosesLine (s.partText marker part) ↔ s.EndsLine marker part := by
  cases part with
  | literal text => exact Iff.rfl
  | newline => exact iff_of_true (by decide : ClosesLine "\n") trivial
  | var name =>
    unfold partText EndsLine
    cases hvalue : s.get? name with
    | none => simp only [hvalue, true_and]
    | some value => simpa only [hvalue, reduceCtorEq, false_and, iff_false] using h name value hvalue

/-- A print shows the texts of its parts, and a space exactly where their text does not end its
    line, unless it hides a line end; then the space comes behind the line end. In a run a print
    adds this to the transcript, and a line end is hidden if the last part that shows anything is a
    newline, a literal that ends in one, or a variable without a value of which the mark does, and
    the last part of all is no newline. -/
theorem print_separation (parts : List PrintPart) :
    (∀ (s : Store) (marker : String),
      (s.printText marker parts = separated (s.partsText marker parts) ↔
        ¬ s.HidesLineEnd marker parts) ∧
      (s.HidesLineEnd marker parts →
        s.printText marker parts = s.partsText marker parts ++ " ")) ∧
    ∀ {code : Array Instruction} {config : RunConfig} {r : Run} {place : Location},
      Run.Visited code config r → r.performed? = some ⟨.perform (.print parts), place⟩ →
        r.step.transcript.text =
          r.transcript.text ++ r.store.printText config.undefinedMarker parts ∧
        (r.store.HidesLineEnd config.undefinedMarker parts ↔
          parts.getLast? ≠ some .newline ∧
          ∃ front part back, parts = front ++ part :: back ∧
            r.store.EndsLine config.undefinedMarker part ∧
            ∀ silent ∈ back, r.store.partText config.undefinedMarker silent = "") := by
  refine ⟨fun s marker => ⟨Store.printText_eq_separated_iff, fun hhidden => ?_⟩, ?_⟩
  · rw [Store.printText_eq, if_neg hhidden.2]
  · intro code config r place hr hprint
    refine ⟨?_, ?_⟩
    · rw [← hr.config_eq]
      exact Run.step_of_performed_print hprint
    · have hopen := hr.valuesOpen
      rw [Store.HidesLineEnd, Store.closesLine_partsText_iff, and_comm]
      simp only [hopen.closesLine_partText_iff]

def twoLines : String :=
  "int main() \x7b cout << \"hi\\n\"; cout << \"x\" << endl; \x7d"

def twoLinesCode : Array Instruction :=
  #[⟨.perform (.print [.literal "hi\n"]), ⟨1, 14⟩⟩,
    ⟨.perform (.print [.literal "x", .newline]), ⟨1, 30⟩⟩]

theorem print_separation_twoLines :
    let r := Run.start twoLinesCode .default
    Run.Visited twoLinesCode .default r ∧
      r.performed? = some ⟨.perform (.print [.literal "hi\n"]), ⟨1, 14⟩⟩ ∧
      r.store.HidesLineEnd RunConfig.default.undefinedMarker [.literal "hi\n"] ∧
      r.step.transcript.text = "hi\n " := by
  intro r
  have hr : Run.Visited twoLinesCode .default r := .start
  have hprint : r.performed? = some ⟨.perform (.print [.literal "hi\n"]), ⟨1, 14⟩⟩ := by decide
  obtain ⟨hall, hrun⟩ := print_separation [.literal "hi\n"]
  obtain ⟨htext, hhidden⟩ := hrun hr hprint
  have hhides : r.store.HidesLineEnd RunConfig.default.undefinedMarker [.literal "hi\n"] :=
    hhidden.mpr ⟨by decide, [], .literal "hi\n", [], rfl, (by decide : ClosesLine "hi\n"), nofun⟩
  refine ⟨hr, hprint, hhides, ?_⟩
  rw [htext, (hall _ _).2 hhides]
  decide

/-- The second line starts with a space, though the text of the first ends its line. -/
theorem stray_space :
    (Program.parse .source twoLines).toOption.map Program.code = some twoLinesCode ∧
      (Run.begin 0 twoLinesCode .default).transcript.programText = "hi\n x\n" ∧
      separated (Store.empty.partsText "[undefined]" [.literal "hi\n"]) = "hi\n" ∧
      ¬ ∀ (s : Store) (marker : String) (parts : List PrintPart),
        s.printText marker parts = separated (s.partsText marker parts) := by
  refine ⟨by decide +kernel, by decide +kernel, by decide, fun hall => ?_⟩
  have hfirst := hall .empty "[undefined]" [.literal "hi\n"]
  exact absurd hfirst (by decide)

end ConsoleLab
