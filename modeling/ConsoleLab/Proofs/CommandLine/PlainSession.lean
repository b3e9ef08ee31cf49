/-
  ConsoleLab.Proofs.CommandLine.PlainSession — a session without a screen.

  Such a session gives the answers it has, first those of the command line and then the
  lines of the standard input, to its run. It follows the words that the calls hand back and
  counts the bytes that it has written. The word is the status of the run, and the transcript
  grows at its end, so the bytes written so far always end with a character (`textAfter?_eq`);
  no answer is refused, since the word says that the run waits. Answers are used up from the
  front, one for each time that the run waits, until the run stops or none is left, and all
  pieces together are the transcript (`giveAnswers_spec`). Main fact: `plainSession_faithful`.
-/

import ConsoleLab.CommandLine.Command
import ConsoleLab.Proofs.Run.Answered
import ConsoleLab.Proofs.Run.Dialogue
import ConsoleLab.Proofs.Run.Ending
import ConsoleLab.Proofs.Run.Engine
import ConsoleLab.Proofs.Text.Bytes

namespace ConsoleLab.CommandLine

open Run (Answered)

/-! ## What is written -/

theorem intercalate_empty_cons (piece : String) (pieces : List String) :
    "".intercalate (piece :: pieces) = piece ++ "".intercalate pieces := by
  cases pieces with
  | nil => simp
  | cons next rest => simp

/-- A cut behind a text that the transcript starts with is never inside a character. -/
theorem textAfter?_eq {r : Run} {front piece : String} (h : r.transcript.text = front ++ piece) :
    textAfter? front.utf8ByteSize r = some piece := by
  have hsize : front.utf8ByteSize = Text.byteLength front.toList := by
    rw [← Text.utf8ByteSize_ofList, String.ofList_toList]
  rw [textAfter?, h, String.toList_append, hsize, Text.dropBytes?_append, Option.map_some,
    String.ofList_toList]

theorem textGrows_answer {fuel : Nat} {r next : Run} {raw : String}
    (h : r.answer fuel raw = .ok next) : r.TextGrows next := by
  have hcall := Run.textGrows_call fuel r (.answer raw)
  simpa only [Run.call, h] using hcall

/-! ## Giving the answers -/

def Ending.ofStatus : Status → Ending
  | .finished => .finished
  | .waiting => .inputEnded
  | .halted => .halted

/-- What a session does that goes on with `r` after it has written `front`. -/
structure Plays (fuel : Nat) (front : String) (r : Run) (answers : List String)
    (played : PlainRun) : Prop where
  answered : ∃ used unused, answers = used ++ unused ∧ Answered fuel r used played.run ∧
    played.pieces.length = used.length + 1 ∧ (played.run.status? = some .waiting → unused = [])
  written : front ++ "".intercalate played.pieces = played.run.transcript.text
  ending : ∃ s, played.run.status? = some s ∧ played.ending = .ofStatus s

variable {fuel : Nat} {r : Run} {front piece : String} {answers : List String}

/-- The session ends where the run has stopped, and where it waits and there is no answer. -/
theorem giveAnswers_stops {s : Status} (hs : r.status? = some s)
    (ht : r.transcript.text = front ++ piece) (h : s = .waiting → answers = []) :
    Plays fuel front r answers (giveAnswers fuel front.utf8ByteSize r.status? r answers) := by
  have hplayed : giveAnswers fuel front.utf8ByteSize r.status? r answers =
      ⟨[piece], .ofStatus s, r⟩ := by
    unfold giveAnswers
    rw [textAfter?_eq ht, hs]
    cases s with
    | finished | halted => rfl
    | waiting =>
      rw [h rfl]
      rfl
  rw [hplayed]
  refine ⟨⟨[], answers, rfl, .nil r, rfl, fun hw => h ?_⟩, ?_, s, hs, rfl⟩
  · exact Option.some_inj.mp (hs.symm.trans hw)
  · rw [ht, intercalate_empty_cons]
    exact congrArg (front ++ ·) String.append_empty

/-- Where the run waits and there is an answer, a piece is written and the session goes on behind
    what is written then. -/
theorem giveAnswers_cons (hw : r.status? = some .waiting)
    (ht : r.transcript.text = front ++ piece) {raw : String} {next : Run}
    (ha : r.answer fuel raw = .ok next) (rest : List String) :
    giveAnswers fuel front.utf8ByteSize r.status? r (raw :: rest) =
      let later := giveAnswers fuel r.transcript.text.utf8ByteSize next.status? next rest
      { later with pieces := piece :: later.pieces } := by
  have hreport : r.answerReport fuel raw = .ok (next.status?, next) := by
    rw [Run.answerReport_eq, ha]
    rfl
  rw [giveAnswers, textAfter?_eq ht, hw]
  simp only [hreport]

theorem giveAnswers_goes_on (hw : r.status? = some .waiting)
    (ht : r.transcript.text = front ++ piece) {raw : String} {next : Run}
    (ha : r.answer fuel raw = .ok next)
    (h : Plays fuel r.transcript.text next answers
      (giveAnswers fuel r.transcript.text.utf8ByteSize next.status? next answers)) :
    Plays fuel front r (raw :: answers)
      (giveAnswers fuel front.utf8ByteSize r.status? r (raw :: answers)) := by
  rw [giveAnswers_cons hw ht ha]
  obtain ⟨⟨used, unused, rfl, hgiven, hlength, hleft⟩, hwritten, hending⟩ := h
  refine ⟨⟨raw :: used, unused, rfl, .cons hw ha hgiven, congrArg (· + 1) hlength, hleft⟩, ?_,
    hending⟩
  rw [intercalate_empty_cons, ← String.append_assoc, ← ht, hwritten]

/-- Under a step limit giving answers uses them up from the front while the run waits for any, and
    writes what was not written of the transcript. -/
theorem giveAnswers_spec (hl : r.config.maxSteps ≠ none) (hr : r.status? ≠ none)
    (ht : r.transcript.text = front ++ piece) :
    Plays fuel front r answers (giveAnswers fuel front.utf8ByteSize r.status? r answers) := by
  induction answers generalizing r front piece with
  | nil =>
    obtain ⟨s, hs⟩ := Option.ne_none_iff_exists'.mp hr
    exact giveAnswers_stops hs ht fun _ => rfl
  | cons raw rest ih =>
    rcases Run.answer_cases fuel r raw with ⟨hw, next, ha⟩ | ⟨hw, -⟩
    · obtain ⟨added, hadded⟩ := textGrows_answer ha
      have hnext : next.config.maxSteps ≠ none := by rwa [Run.config_answer ha]
      obtain ⟨read, -, hresumed⟩ := Run.answer_eq_ok ha
      have hrest : next.status? ≠ none := by
        obtain ⟨s, hs⟩ := Run.exists_status_resume (r := r.accept read (Text.trim raw))
          (by rwa [Run.config_accept]) fuel
        rw [hresumed, hs]
        nofun
      exact giveAnswers_goes_on hw ht ha (ih hnext hrest hadded)
    · obtain ⟨s, hs⟩ := Option.ne_none_iff_exists'.mp hr
      refine giveAnswers_stops hs ht ?_
      rintro rfl
      exact absurd hs hw

/-- Under a step limit no fuel is used up. -/
theorem giveAnswers_fuel (fuel' printed : Nat) (word : Option Status)
    (hl : r.config.maxSteps ≠ none) (answers : List String) :
    giveAnswers fuel printed word r answers = giveAnswers fuel' printed word r answers := by
  induction answers generalizing r printed word with
  | nil =>
    unfold giveAnswers
    rfl
  | cons raw rest ih =>
    unfold giveAnswers
    dsimp only
    rw [Run.answerReport_eq, Run.answerReport_eq, Run.answer_fuel hl fuel fuel']
    cases ha : r.answer fuel' raw with
    | error e => rfl
    | ok next =>
      have hnext : next.config.maxSteps ≠ none := by rwa [Run.config_answer ha]
      dsimp only [Except.map]
      rw [ih _ _ hnext]

/-- A session leaves its run where giving it the answers does. -/
theorem giveAnswers_run (ht : r.transcript.text = front ++ piece) :
    (giveAnswers fuel front.utf8ByteSize r.status? r answers).run = (r.feed fuel answers).run := by
  induction answers generalizing r front piece with
  | nil =>
    rw [giveAnswers, textAfter?_eq ht, Run.feed]
    cases r.status? with
    | none => rfl
    | some s => cases s <;> rfl
  | cons raw rest ih =>
    rcases Run.answer_cases fuel r raw with ⟨hw, next, ha⟩ | ⟨hw, ha⟩
    · obtain ⟨added, hadded⟩ := textGrows_answer ha
      rw [giveAnswers_cons hw ht ha, Run.feed, ha]
      exact ih hadded
    · rw [giveAnswers, textAfter?_eq ht, Run.feed, ha]
      cases hs : r.status? with
      | none => rfl
      | some s =>
        cases s with
        | waiting => exact absurd hs hw
        | finished | halted => rfl

/-! ## Whole sessions -/

theorem plainSession_eq (fuel : Nat) (p : Program) (config : RunConfig) (answers : List String) :
    plainSession fuel p config answers =
      let r := Run.begin fuel p.code config
      giveAnswers fuel "".utf8ByteSize r.status? r answers := by
  unfold plainSession
  rw [Run.resumeReport_eq]
  rfl

/-- What a session without a screen does with the answers `inputs` of the command line and the
    lines `lines` of the standard input. -/
structure Faithful (fuel : Nat) (p : Program) (config : RunConfig) (inputs lines : List String)
    (played : PlainRun) : Prop where
  /-- The answers are given from the front, each to a run that waits, and none is refused; some
      are left only if the run has stopped. -/
  answers : ∃ used unused, inputs ++ lines = used ++ unused ∧
    Answered fuel (Run.begin fuel p.code config) used played.run ∧
    played.pieces.length = used.length + 1 ∧
    (played.run.status? = some .waiting → unused = [])
  /-- Every run on the way has come to rest by itself. -/
  rests : played.run.status? ≠ none
  fuel_unused : ∀ fuel', plainSession fuel' p config (inputs ++ lines) = played
  /-- What is written is the transcript. -/
  written : "".intercalate played.pieces = played.run.transcript.text
  /-- The session ends as its run does: no answer is refused, and no cut is inside a character. -/
  ending : ∃ s, played.run.status? = some s ∧ played.ending = .ofStatus s
  code_zero : exitCode played.ending = 0 ↔ played.run.status? = some .finished
  code_two : exitCode played.ending = 2 ↔
    played.run.status? = some .halted ∨ played.run.status? = some .waiting
  complaint : complaint played.ending =
    if played.run.status? = some .waiting then inputEnded else ""
  /-- The command leaves just that. -/
  outcome : ∀ (o : Options) (stdin : ByteArray), o.inputs = inputs → o.config = config →
    Text.linesOfBytes stdin = lines →
    plainOutcome fuel o p stdin =
      ⟨exitCode played.ending, played.run.transcript.text,
        "".intercalate (p.skipped.map warning) ++ CommandLine.complaint played.ending, o.verbose⟩

/-- Under a step limit a session without a screen comes to an end, gives each answer once and in
    order while the run waits, writes the transcript of the run it ends with, and leaves with the
    exit code for it. -/
theorem plainSession_faithful (p : Program) {config : RunConfig} (hl : config.maxSteps ≠ none)
    (fuel : Nat) (inputs lines : List String) :
    Faithful fuel p config inputs lines (plainSession fuel p config (inputs ++ lines)) := by
  have hbegin : (Run.begin fuel p.code config).config.maxSteps ≠ none := by rwa [Run.config_begin]
  have hgiven : Answered fuel (Run.begin fuel p.code config) [] (Run.begin fuel p.code config) :=
    .nil _
  have hplays : Plays fuel "" (Run.begin fuel p.code config) (inputs ++ lines)
      (plainSession fuel p config (inputs ++ lines)) := by
    rw [plainSession_eq]
    exact giveAnswers_spec hbegin (hgiven.status?_ne_none hl) String.empty_append.symm
  generalize hplayed : plainSession fuel p config (inputs ++ lines) = played at hplays
  obtain ⟨hanswers, hwritten, s, hs, hending⟩ := hplays
  rw [String.empty_append] at hwritten
  constructor
  case answers => exact hanswers
  case rests =>
    rw [hs]
    nofun
  case fuel_unused =>
    intro fuel'
    have hsame : Run.begin fuel' p.code config = Run.begin fuel p.code config :=
      Run.resume_fuel hl fuel' fuel
    rw [← hplayed, plainSession_eq, plainSession_eq, hsame]
    exact giveAnswers_fuel fuel _ _ hbegin _
  case written => exact hwritten
  case ending => exact ⟨s, hs, hending⟩
  case code_zero =>
    rw [hending, hs]
    cases s <;> simp [Ending.ofStatus, exitCode]
  case code_two =>
    rw [hending, hs]
    cases s <;> simp [Ending.ofStatus, exitCode]
  case complaint =>
    rw [hending, hs]
    cases s <;> simp [Ending.ofStatus, CommandLine.complaint]
  case outcome =>
    intro o stdin hinputs hconfig hlines
    unfold plainOutcome
    dsimp only
    rw [hinputs, hconfig, hlines, hplayed, hwritten]

/-- An answer with one piece too few, then one with two pieces too many; the last is not needed. -/
theorem plainSession_faithful_pairs :
    let p : Program := ⟨Run.pairsInLoop, []⟩
    let inputs := ["7"]
    let lines := ["8 x", "1, y z", "left over"]
    let played := plainSession 0 p .default (inputs ++ lines)
    RunConfig.default.maxSteps ≠ none ∧
      Faithful 0 p .default inputs lines played ∧
      played.ending = .finished ∧
      played.pieces = ["", "7\n", "8 x\n", "1, y z\nProgram finished with no output\n"] := by
  intro p inputs lines played
  have hl : RunConfig.default.maxSteps ≠ none := by decide
  exact ⟨hl, plainSession_faithful p hl 0 inputs lines, by decide +kernel, by decide +kernel⟩

end ConsoleLab.CommandLine
