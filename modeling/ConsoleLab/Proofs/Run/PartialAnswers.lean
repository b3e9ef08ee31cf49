/-
  ConsoleLab.Proofs.Run.PartialAnswers — a formatted read answered in parts.

  A formatted read takes its pieces from as many answers as it needs. What a piece becomes is
  said by rules (`ScanHint.Converts`), and what the variables hold once all of them have a piece
  by `Store.Filled`. An answer with too few pieces leaves the read to the variables that are
  without a piece (`answered_partly`); pieces given now and pieces given later are stored as if
  they had been given together (`Store.scan_append`). Main fact: `answered_in_parts`, it does not
  matter how the pieces are distributed over the answers.
-/

import ConsoleLab.Proofs.Run.Answered
import ConsoleLab.Proofs.Run.Muted
import ConsoleLab.Proofs.Text.Decimal
import ConsoleLab.Proofs.Text.Pieces
import Mathlib.Data.List.Induction

namespace ConsoleLab

/-! ## What is stored -/

inductive ScanHint.Converts : ScanHint → String → Value → Prop
  | number {piece : String} {n : Int64} : Text.Decimal piece.toList n.toInt →
      Converts .integer piece (.int n)
  | noNumber {piece : String} : (∀ n : Int64, ¬ Text.Decimal piece.toList n.toInt) →
      Converts .integer piece (.text piece)
  | float (piece : String) : Converts .float piece (.text piece)
  | string (piece : String) : Converts .string piece (.text piece)
  | char {piece : String} {c : Char} {rest : List Char} : piece.toList = c :: rest →
      Converts .char piece (.text (String.singleton c))

theorem ScanHint.converts_valueOf (hint : ScanHint) {piece : String} (h : piece.toList ≠ []) :
    hint.Converts piece (hint.valueOf piece) := by
  cases hint with
  | integer =>
    unfold valueOf
    dsimp only
    cases hn : Text.readInt64? piece with
    | some n => exact .number (Text.readInt64?_eq_some_iff.mp hn)
    | none =>
      refine .noNumber fun n hd => ?_
      rw [Text.readInt64?_eq_some_iff.mpr hd] at hn
      cases hn
  | float => exact .float piece
  | string => exact .string piece
  | char =>
    obtain ⟨c, rest, hpiece⟩ := List.exists_cons_of_ne_nil h
    have hvalue : ScanHint.char.valueOf piece = .text (String.singleton c) := by
      simp [valueOf, firstCharacter, hpiece]
    rw [hvalue]
    exact .char hpiece

namespace Store

/-- What a store holds once each variable has been given its piece. Where a name is repeated, the
    piece of the last variable with that name counts. -/
structure Filled (s : Store) (names : List String) (hints : List ScanHint) (pieces : List String)
    (filled : Store) : Prop where
  receives : ∀ k name hint piece, names[k]? = some name → hints[k]? = some hint →
    pieces[k]? = some piece → name ∉ names.drop (k + 1) →
      ∃ value, hint.Converts piece value ∧ filled.get? name = some value
  others : ∀ name, name ∉ names → filled.get? name = s.get? name

theorem scan_of_no_names (s : Store) (hints : List ScanHint) (pieces : List String) :
    s.scan [] hints pieces = s := rfl

theorem scan_of_no_hints (s : Store) (names pieces : List String) : s.scan names [] pieces = s := by
  cases names <;> rfl

/-- Pieces given later go to the variables that have none yet. -/
theorem scan_append (s : Store) (names : List String) (hints : List ScanHint)
    (pieces more : List String) :
    s.scan names hints (pieces ++ more) =
      (s.scan names hints pieces).scan (names.drop pieces.length) (hints.drop pieces.length)
        more := by
  induction pieces generalizing s names hints with
  | nil => simp [scan]
  | cons piece pieces ih =>
    cases names with
    | nil => simp [scan_of_no_names]
    | cons name names =>
      cases hints with
      | nil => simp [scan_of_no_hints]
      | cons hint hints => exact ih (s.set name (hint.valueOf piece)) names hints

theorem filled_scan {s : Store} {names : List String} {hints : List ScanHint}
    {pieces : List String} (hlen : hints.length = names.length)
    (hall : names.length ≤ pieces.length) (hne : ∀ piece ∈ pieces, piece.toList ≠ []) :
    s.Filled names hints pieces (s.scan names hints pieces) := by
  induction names generalizing s hints pieces with
  | nil => exact ⟨nofun, fun _ _ => rfl⟩
  | cons name names ih =>
    cases hints with
    | nil => cases hlen
    | cons hint hints =>
      cases pieces with
      | nil => cases hall
      | cons piece pieces =>
        obtain ⟨hpiece, hpieces⟩ := List.forall_mem_cons.mp hne
        have hrest := ih (s := s.set name (hint.valueOf piece)) (Nat.succ.inj hlen)
          (Nat.le_of_succ_le_succ hall) hpieces
        constructor
        case receives =>
          intro k other hint' piece' hname hhint hpiece' hlast
          cases k with
          | zero =>
            cases hname
            cases hhint
            cases hpiece'
            refine ⟨_, ScanHint.converts_valueOf hint hpiece, ?_⟩
            exact (hrest.others name hlast).trans (by rw [get?_set, if_pos rfl])
          | succ k => exact hrest.receives k other hint' piece' hname hhint hpiece' hlast
        case others =>
          intro other hother
          obtain ⟨hneq, hnot⟩ := not_or.mp (mt List.mem_cons.mpr hother)
          exact (hrest.others other hnot).trans (by rw [get?_set, if_neg hneq])

end Store

theorem answerPieces_trim (raw : String) : answerPieces (Text.trim raw) = answerPieces raw :=
  Text.piecesBetween_trim (fun _ hc => by simp [hc]) raw

/-- The pieces of some answers, put into one answer with spaces between them. -/
theorem answerPieces_joined (answers : List String) :
    answerPieces (" ".intercalate (answers.flatMap answerPieces)) =
      answers.flatMap answerPieces :=
  Text.piecesBetween_intercalate (c := ' ') rfl (by decide) answers

theorem toList_ne_nil_of_mem_answerPieces {raw piece : String} (h : piece ∈ answerPieces raw) :
    piece.toList ≠ [] :=
  ((Text.pieces_piecesBetween _ raw).plain _ (List.mem_map_of_mem h)).1

/-! ## Answers to a formatted read -/

namespace Run

variable {r : Run} {names : List String} {hints : List ScanHint} {fuel : Nat}

def partlyFilled (r : Run) (names : List String) (hints : List ScanHint) (pieces : List String) :
    Run :=
  { r with
    store := r.store.scan names hints pieces
    phase := .waiting (.many (names.drop pieces.length) (hints.drop pieces.length)) }

theorem partlyFilled_muted (r : Run) (names : List String) (hints : List ScanHint)
    (pieces : List String) :
    r.muted.partlyFilled names hints pieces = (r.partlyFilled names hints pieces).muted := rfl

theorem partlyFilled_append (r : Run) (names : List String) (hints : List ScanHint)
    (pieces more : List String) :
    (r.partlyFilled names hints pieces).partlyFilled (names.drop pieces.length)
      (hints.drop pieces.length) more = r.partlyFilled names hints (pieces ++ more) := by
  simp only [partlyFilled, Store.scan_append, List.drop_drop, List.length_append]

/-- An answer with too few pieces leaves the read to the variables without a piece. -/
theorem answer_partly (fuel : Nat) (hr : r.pending? = some (.many names hints)) (raw : String)
    (hfew : (answerPieces raw).length < names.length) :
    ∃ next, r.answer fuel raw = .ok next ∧
      next.muted = (r.partlyFilled names hints (answerPieces raw)).muted := by
  refine ⟨_, answer_of_pending hr fuel raw, ?_⟩
  simp only [accept, answerPieces_trim, if_pos hfew]
  rw [resume_of_not_ready rfl]
  rfl

theorem answer_wholly (fuel : Nat) (hr : r.pending? = some (.many names hints)) (raw : String)
    (hall : names.length ≤ (answerPieces raw).length) :
    ∃ next, r.answer fuel raw = .ok next ∧ next.muted =
      ((r.passRead (r.store.scan names hints (answerPieces raw))).resume fuel).muted := by
  have haccept : (r.accept (.many names hints) (Text.trim raw)).muted =
      (r.passRead (r.store.scan names hints (answerPieces raw))).muted := by
    simp only [accept, answerPieces_trim, if_neg (Nat.not_lt.mpr hall)]
    rfl
  exact ⟨_, answer_of_pending hr fuel raw, resume_muted_congr haccept fuel⟩

/-- Answers with too few pieces in all, given one after the other, are stored as if their pieces
    had been given at once. -/
theorem answered_partly (fuel : Nat) (hr : r.pending? = some (.many names hints))
    {answers : List String} (hfew : (answers.flatMap answerPieces).length < names.length) :
    ∃ mid, Answered fuel r answers mid ∧
      mid.muted = (r.partlyFilled names hints (answers.flatMap answerPieces)).muted := by
  induction answers using List.reverseRecOn with
  | nil =>
    have hphase := pending?_eq_some_iff.mp hr
    refine ⟨r, .nil r, ?_⟩
    simp [partlyFilled, Store.scan, ← hphase]
  | append_singleton answers raw ih =>
    rw [List.flatMap_append, List.flatMap_singleton] at hfew ⊢
    rw [List.length_append] at hfew
    obtain ⟨mid, hmid, hmuted⟩ := ih (by omega)
    have hpending : mid.pending? = some (.many
        (names.drop (answers.flatMap answerPieces).length)
        (hints.drop (answers.flatMap answerPieces).length)) := by
      rw [← pending?_muted, hmuted]
      rfl
    have hrest : (answerPieces raw).length <
        (names.drop (answers.flatMap answerPieces).length).length := by
      rw [List.length_drop]
      omega
    obtain ⟨next, hnext, hout⟩ := answer_partly fuel hpending raw hrest
    refine ⟨next, hmid.concat (status?_eq_waiting_iff.mpr ⟨_, hpending⟩) hnext, ?_⟩
    rw [hout, ← partlyFilled_muted, hmuted, partlyFilled_muted, partlyFilled_append]

/-- What happens to a run that waits for a formatted read when it is given `answers` and then
    `last`. -/
structure AnsweredInParts (fuel : Nat) (r : Run) (names : List String) (hints : List ScanHint)
    (answers : List String) (last : String) : Prop where
  /-- The pieces of an answer are its maximal rows of characters that are neither white space nor
      commas. -/
  pieces : ∀ raw, Text.Pieces (fun c => Text.isBlank c || c == ',') raw.toList
    ((answerPieces raw).map String.toList)
  /-- Before the last answer the run waits for the variables that are without a piece, with their
      own hints. -/
  partly : ∀ given, given <+: answers → ∃ mid, Answered fuel r given mid ∧
    mid.pending? = some (.many (names.drop (given.flatMap answerPieces).length)
      (hints.drop (given.flatMap answerPieces).length)) ∧ mid.pc = r.pc ∧ mid.loops = r.loops
  /-- The last answer hands back the same word and leads to the same run, what was shown apart, as
      one answer with all pieces does: each variable has its piece, pieces to spare are dropped,
      and the run has gone on behind the read. -/
  wholly : ∃ before word apart together filled, Answered fuel r answers before ∧
    before.answerReport fuel last = .ok (word, apart) ∧
    r.answerReport fuel (" ".intercalate ((answers ++ [last]).flatMap answerPieces)) =
      .ok (word, together) ∧
    apart.muted = together.muted ∧
    r.store.Filled names hints ((answers ++ [last]).flatMap answerPieces) filled ∧
    apart.muted = ((r.passRead filled).resume fuel).muted

/-- It does not matter how the pieces of a formatted answer are distributed over several
    answers. -/
theorem answered_in_parts (fuel : Nat) (hr : r.pending? = some (.many names hints))
    (hlen : hints.length = names.length) {answers : List String} {last : String}
    (hfew : (answers.flatMap answerPieces).length < names.length)
    (hall : names.length ≤ ((answers ++ [last]).flatMap answerPieces).length) :
    AnsweredInParts fuel r names hints answers last := by
  constructor
  case pieces => exact Text.pieces_piecesBetween _
  case partly =>
    intro given hgiven
    obtain ⟨rest, rfl⟩ := hgiven
    rw [List.flatMap_append, List.length_append] at hfew
    have hgiven : (given.flatMap answerPieces).length < names.length := by omega
    obtain ⟨mid, hmid, hmuted⟩ := answered_partly fuel hr hgiven
    refine ⟨mid, hmid, ?_, ?_, ?_⟩
    · rw [← pending?_muted, hmuted]
      rfl
    · rw [← pc_muted, hmuted]
      rfl
    · rw [← loops_muted, hmuted]
      rfl
  case wholly =>
    have hpieces : (answers ++ [last]).flatMap answerPieces =
        answers.flatMap answerPieces ++ answerPieces last := by
      rw [List.flatMap_append, List.flatMap_singleton]
    have hjoined := answerPieces_joined (answers ++ [last])
    obtain ⟨before, hbefore, hmuted⟩ := answered_partly fuel hr hfew
    have hpending : before.pending? = some (.many
        (names.drop (answers.flatMap answerPieces).length)
        (hints.drop (answers.flatMap answerPieces).length)) := by
      rw [← pending?_muted, hmuted]
      rfl
    have hrest : (names.drop (answers.flatMap answerPieces).length).length ≤
        (answerPieces last).length := by
      rw [hpieces, List.length_append] at hall
      rw [List.length_drop]
      omega
    obtain ⟨apart, hapart, hend⟩ := answer_wholly fuel hpending last hrest
    obtain ⟨together, htogether, hend'⟩ :=
      answer_wholly fuel hr (" ".intercalate ((answers ++ [last]).flatMap answerPieces))
        (by rwa [hjoined])
    rw [hjoined] at hend'
    have hstore : before.store = r.store.scan names hints (answers.flatMap answerPieces) :=
      congrArg (fun mid : Run => mid.store) hmuted
    have hpassed : (before.passRead (before.store.scan
        (names.drop (answers.flatMap answerPieces).length)
        (hints.drop (answers.flatMap answerPieces).length) (answerPieces last))).muted =
          (r.passRead (r.store.scan names hints
            ((answers ++ [last]).flatMap answerPieces))).muted := by
      rw [hstore, ← Store.scan_append, ← hpieces]
      exact congrArg (fun mid : Run => mid.passRead (r.store.scan names hints
        ((answers ++ [last]).flatMap answerPieces))) hmuted
    have hbehind : apart.muted = ((r.passRead (r.store.scan names hints
        ((answers ++ [last]).flatMap answerPieces))).resume fuel).muted :=
      hend.trans (resume_muted_congr hpassed fuel)
    have hsame : apart.muted = together.muted := hbehind.trans hend'.symm
    have hword : apart.status? = together.status? := by
      rw [← status?_muted, hsame, status?_muted]
    refine ⟨before, together.status?, apart, together, _, hbefore, ?_, ?_, hsame,
      Store.filled_scan hlen hall ?_, hbehind⟩
    · rw [answerReport_eq, hapart, ← hword]
      rfl
    · rw [answerReport_eq, htogether]
      rfl
    · intro piece hpiece
      obtain ⟨raw, -, hraw⟩ := List.mem_flatMap.mp hpiece
      exact toList_ne_nil_of_mem_answerPieces hraw

def readsTwice : Array Instruction :=
  #[⟨.perform (.scan ["a", "b", "a"] [.integer, .char, .string]), ⟨2, 3⟩⟩,
    ⟨.perform (.print [.var "a", .var "b"]), ⟨3, 3⟩⟩]

theorem answered_in_parts_readsTwice :
    let r := begin 0 readsTwice .default
    r.pending? = some (.many ["a", "b", "a"] [.integer, .char, .string]) ∧
      ([" , 7", ""].flatMap answerPieces).length < 3 ∧
      3 ≤ (([" , 7", ""] ++ ["xyz,+3 extra"]).flatMap answerPieces).length ∧
      AnsweredInParts 0 r ["a", "b", "a"] [.integer, .char, .string] [" , 7", ""]
        "xyz,+3 extra" := by
  intro r
  have hr : r.pending? = some (.many ["a", "b", "a"] [.integer, .char, .string]) := by
    decide +kernel
  have hfew : ([" , 7", ""].flatMap answerPieces).length < 3 := by decide +kernel
  have hall : 3 ≤ (([" , 7", ""] ++ ["xyz,+3 extra"]).flatMap answerPieces).length := by
    decide +kernel
  exact ⟨hr, hfew, hall, answered_in_parts 0 hr rfl hfew hall⟩

end Run

end ConsoleLab
