/-
  ConsoleLab.Proofs.Run.Ending — what a transcript says in the end.

  A transcript only grows, call by call (`exists_text_call`). While a run has not stopped
  its transcript holds no message; when it stops, one message is added on a line of its
  own, which tells whether the run failed, and if not whether it printed anything. That
  it printed is read off the transcript, so it has to be compared with the instructions
  that were carried out (`performedBy`): a print always shows something
  (`printText_ne_empty`). Main fact: `transcript_after_calls`.
-/

import ConsoleLab.Proofs.Run.Report
import ConsoleLab.Proofs.Run.Text
import ConsoleLab.Proofs.Run.Visited

namespace ConsoleLab

open Source (Location)

/-! ## What a run carries out -/

def Instruction.isPrint (i : Instruction) : Bool :=
  match i.action with
  | .perform (.print _) => true
  | _ => false

namespace Run

/-- The instruction that a step carries out: none where the run does not go on, at the end of
    the code, at a read, and where the step limit forbids it. -/
def performed? (r : Run) : Option Instruction :=
  match r.isReady, r.code[r.pc]? with
  | true, some i =>
    if isRead i.action || (r.charge i).overLimit?.isSome then none else some i
  | _, _ => none

def performedIn : Nat → Run → List Instruction
  | 0, _ => []
  | n + 1, r => r.performed?.toList ++ r.step.performedIn n

def performedBy (fuel : Nat) (r : Run) : Call → List Instruction
  | .resume => r.uncharged.performedIn (r.budget fuel)
  | .answer raw =>
    match r.pending? with
    | some read =>
      let next := r.accept read (Text.trim raw)
      next.uncharged.performedIn (next.budget fuel)
    | none => []

def performedByCalls (fuel : Nat) (r : Run) : List Call → List Instruction
  | [] => []
  | c :: rest => r.performedBy fuel c ++ (r.call fuel c).performedByCalls fuel rest

/-! ## The end of the transcript -/

def lastMessage (printed : Bool) (r : Run) : String :=
  match r.phase with
  | .halted fault => fault.diagnostic r.place
  | _ => if printed then finishedMessage else silentFinishMessage

/-- What a transcript holds beyond what the program printed and what was typed: nothing until the
    run stops, and then its last message on a line of its own. -/
def ending (printed : Bool) (r : Run) : String :=
  if r.isRunning then ""
  else Transcript.lineBreakAfter r.transcript.programText ++ r.lastMessage printed ++ "\n"

structure Tells (printed : Bool) (r : Run) : Prop where
  text_eq : r.transcript.text = r.transcript.programText ++ r.ending printed
  output : r.isRunning = true → r.transcript.hasOutput = printed

end Run

/-! ## A print always shows something -/

theorem Store.printText_ne_empty (s : Store) (marker : String) (parts : List PrintPart) :
    s.printText marker parts ≠ "" := by
  unfold printText
  dsimp only
  split
  · rename_i hlast
    obtain ⟨front, rfl⟩ := List.getLast?_eq_some_iff.mp hlast
    rw [List.foldl_append]
    simp [partText]
  · simp

namespace Run

variable {r : Run}

theorem performed?_of_ready_step (hr : r.isReady = true) (h : r.step.isReady = true) :
    r.performed? = r.code[r.pc]? := by
  cases hi : r.code[r.pc]? with
  | none =>
    simp only [step, hr, if_true, hi] at h
    cases h
  | some i =>
    cases hread : readOf? i.action with
    | some read =>
      simp only [step_of_instruction hr hi, reach, hread] at h
      cases h
    | none =>
      cases ho : (r.charge i).overLimit? with
      | some fault =>
        simp only [step_of_instruction hr hi, reach, hread, execute, ho] at h
        cases h
      | none => simp [performed?, hr, hi, isRead, hread, ho]

theorem performed?_any_eq_false {i : Instruction} (hi : r.code[r.pc]? = some i)
    (h : i.isPrint = false) : r.performed?.any Instruction.isPrint = false := by
  unfold performed?
  split
  · rename_i j _ hj
    rw [hi] at hj
    cases hj
    split
    · rfl
    · exact h
  · rfl

theorem isPrint_of_read {i : Instruction} {read : PendingRead} (h : readOf? i.action = some read) :
    i.isPrint = false := by
  unfold Instruction.isPrint
  split
  · rename_i heq
    rw [heq] at h
    cases h
  · rfl

theorem transcript_accept (r : Run) (read : PendingRead) (answer : String) :
    (r.accept read answer).transcript = r.transcript.echo answer := by
  cases read with
  | one name mode => rfl
  | many names hints =>
    simp only [accept]
    split <;> rfl

/-! ## One step -/

namespace Tells

variable {r' : Run} {printed : Bool}

theorem text_of_running (h : Tells printed r) (hr : r.isRunning = true) :
    r.transcript.text = r.transcript.programText := by
  rw [h.text_eq, ending, if_pos hr, String.append_empty]

theorem of_transcript_eq (h : Tells printed r) (hr : r.isRunning = true)
    (hr' : r'.isRunning = true) (ht : r'.transcript = r.transcript) : Tells printed r' where
  text_eq := by rw [ending, if_pos hr', String.append_empty, ht, h.text_of_running hr]
  output _ := by rw [ht, h.output hr]

theorem of_system (h : Tells printed r) (hr : r.isRunning = true) (hr' : r'.isRunning = false)
    (ht : r'.transcript = r.transcript.system (r'.lastMessage printed)) : Tells printed r' where
  text_eq := by
    have hprogram : r'.transcript.programText = r.transcript.programText := by
      rw [ht, Transcript.programText_system]
    rw [ending, hr', hprogram, ht, Transcript.text_system, h.text_of_running hr]
    simp [String.append_assoc]
  output hrun := by rw [hr'] at hrun; cases hrun

theorem halt (h : Tells printed r) (hr : r.isRunning = true) (i : Instruction) (fault : Fault) :
    Tells printed ((r.charge i).halt fault) :=
  h.of_system hr rfl rfl

/-- Where the step carries out no print, what is told about printing stays. -/
theorem or_false_of (h : Tells printed r') (hn : r.performed?.any Instruction.isPrint = false) :
    Tells (printed || r.performed?.any Instruction.isPrint) r' := by
  rwa [hn, Bool.or_false]

/-- After a step that can go on after a print, something has been printed. -/
theorem print (h : Tells printed r) (hr : r.isReady = true) {parts : List PrintPart}
    {place : Location} (hi : r.code[r.pc]? = some ⟨.perform (.print parts), place⟩)
    (hstep : r.step = (r.charge ⟨.perform (.print parts), place⟩).print parts) :
    Tells (printed || r.performed?.any Instruction.isPrint) r.step := by
  have hrun : r.isRunning = true := by simp [isRunning, isReady_iff.mp hr]
  have hnext : r.step.isReady = true := by rw [hstep]; exact hr
  have hsome : r.performed?.any Instruction.isPrint = true := by
    rw [performed?_of_ready_step hr hnext, hi]
    rfl
  have ht : r.step.transcript =
      r.transcript.print (r.store.printText r.config.undefinedMarker parts) place := by
    rw [hstep]
    rfl
  rw [hsome, Bool.or_true]
  constructor
  · have hgo : r.step.isRunning = true := by simp [isRunning, isReady_iff.mp hnext]
    rw [ending, if_pos hgo, String.append_empty, ht, Transcript.text_print,
      Transcript.programText_print, h.text_of_running hrun]
  · intro _
    rw [ht]
    exact Transcript.hasOutput_print _ (Store.printText_ne_empty _ _ _) _

theorem turn (h : Tells printed r) (hr : r.isReady = true) (ht : Turn r r')
    (hstep : r.step = r') : Tells (printed || r.performed?.any Instruction.isPrint) r' := by
  have hrun : r.isRunning = true := by simp [isRunning, isReady_iff.mp hr]
  cases ht with
  | finish hi =>
    refine or_false_of (h.of_system hrun rfl ?_) ?_
    · show r.transcript.system (if r.transcript.hasOutput then _ else _) = _
      rw [h.output hrun]
      rfl
    · simp [performed?, hi]
  | wait hi hread =>
    exact or_false_of (h.of_transcript_eq hrun rfl rfl)
      (performed?_any_eq_false hi (isPrint_of_read hread))
  | @overLimit i limit hi hread hl hle =>
    have hover : (r.charge i).overLimit? = some (.stepLimit limit) := by
      simp [overLimit?, charge, hl, Nat.lt_succ_of_le hle]
    exact or_false_of (h.halt hrun i _) (by simp [performed?, hr, hi, hover])
  | print hi =>
    rw [← hstep]
    exact h.print hr hi hstep
  | mismatch hi => exact or_false_of (h.halt hrun _ _) (performed?_any_eq_false hi rfl)
  | stuck hi => exact or_false_of (h.halt hrun _ _) (performed?_any_eq_false hi rfl)
  | enter hi | pass hi | again hi | leave hi =>
    exact or_false_of (h.of_transcript_eq hrun hrun rfl) (performed?_any_eq_false hi rfl)

theorem step (h : Tells printed r) :
    Tells (printed || r.performed?.any Instruction.isPrint) r.step := by
  cases hr : r.isReady with
  | true => exact h.turn hr (step_turn hr) rfl
  | false =>
    rw [step_of_not_ready hr]
    exact or_false_of h (by simp [performed?, hr])

theorem uncharged (h : Tells printed r) : Tells printed r.uncharged := by
  rw [uncharged_eq]
  exact ⟨h.text_eq, h.output⟩

theorem accept (h : Tells printed r) {read : PendingRead} (hr : r.phase = .waiting read)
    (answer : String) : Tells printed (r.accept read answer) := by
  have hrun : r.isRunning = true := by simp [isRunning, hr]
  have hgo := isRunning_accept r read answer
  constructor
  · rw [ending, if_pos hgo, String.append_empty, transcript_accept, Transcript.text_echo,
      Transcript.programText_echo, h.text_of_running hrun]
  · intro _
    rw [transcript_accept, Transcript.hasOutput_echo, h.output hrun]

/-! ## Whole calls -/

theorem steps (h : Tells printed r) (n : Nat) :
    Tells (printed || (r.performedIn n).any Instruction.isPrint) (r.steps n) := by
  induction n generalizing r printed with
  | zero => simpa [performedIn, Run.steps] using h
  | succ n ih =>
    have hsteps : r.steps (n + 1) = r.step.steps n := by
      rw [Nat.add_comm, steps_add, steps_succ]
      rfl
    have hany : (r.performedIn (n + 1)).any Instruction.isPrint =
        (r.performed?.any Instruction.isPrint ||
          (r.step.performedIn n).any Instruction.isPrint) := by
      rw [performedIn, List.any_append]
      cases r.performed? with
      | none => rfl
      | some i => simp
    rw [hsteps, hany, ← Bool.or_assoc]
    exact ih h.step

theorem resume (h : Tells printed r) (fuel : Nat) :
    Tells (printed || (r.uncharged.performedIn (r.budget fuel)).any Instruction.isPrint)
      (r.resume fuel) := by
  rw [resume_eq_steps]
  exact h.uncharged.steps _

theorem call (h : Tells printed r) (fuel : Nat) (c : Call) :
    Tells (printed || (r.performedBy fuel c).any Instruction.isPrint) (r.call fuel c) := by
  cases c with
  | resume => exact h.resume fuel
  | answer raw =>
    cases hp : r.pending? with
    | none =>
      simp only [Run.call, answer_of_no_pending hp, performedBy, hp, List.any_nil, Bool.or_false]
      exact h
    | some read =>
      simp only [Run.call, answer_of_pending hp, performedBy, hp]
      exact (h.accept (pending?_eq_some_iff.mp hp) _).resume fuel

theorem calls (h : Tells printed r) (fuel : Nat) (cs : List Call) :
    Tells (printed || (r.performedByCalls fuel cs).any Instruction.isPrint) (r.calls fuel cs) := by
  induction cs generalizing r printed with
  | nil => simpa [performedByCalls, Run.calls] using h
  | cons c rest ih =>
    rw [performedByCalls, List.any_append, ← Bool.or_assoc]
    exact ih (h.call fuel c)

end Tells

/-! ## A transcript only grows -/

/-- The text of the second run begins with that of the first. -/
def TextGrows (r r' : Run) : Prop :=
  ∃ added, r'.transcript.text = r.transcript.text ++ added

theorem TextGrows.refl (r : Run) : TextGrows r r :=
  ⟨"", (String.append_empty).symm⟩

theorem TextGrows.trans {r r' r'' : Run} (h : TextGrows r r') (h' : TextGrows r' r'') :
    TextGrows r r'' := by
  obtain ⟨first, hf⟩ := h
  obtain ⟨second, hs⟩ := h'
  exact ⟨first ++ second, by rw [hs, hf, String.append_assoc]⟩

theorem textGrows_of_transcript_eq {r' : Run} (h : r'.transcript = r.transcript) :
    TextGrows r r' :=
  ⟨"", by rw [h, String.append_empty]⟩

theorem textGrows_of_system {r' : Run} {message : String}
    (h : r'.transcript = r.transcript.system message) : TextGrows r r' :=
  ⟨Transcript.lineBreakAfter r.transcript.text ++ message ++ "\n",
    by rw [h, Transcript.text_system]; simp only [String.append_assoc]⟩

theorem Turn.textGrows {r' : Run} (h : Turn r r') : TextGrows r r' := by
  cases h with
  | finish | overLimit | mismatch | stuck => exact textGrows_of_system rfl
  | print => exact ⟨_, Transcript.text_print _ _ _⟩
  | wait | enter | pass | again | leave => exact textGrows_of_transcript_eq rfl

theorem textGrows_steps (n : Nat) (r : Run) : TextGrows r (r.steps n) := by
  induction n with
  | zero => exact .refl r
  | succ n ih =>
    rw [steps_succ]
    cases hr : (r.steps n).isReady with
    | true => exact ih.trans (step_turn hr).textGrows
    | false => rwa [step_of_not_ready hr]

theorem textGrows_resume (fuel : Nat) (r : Run) : TextGrows r (r.resume fuel) := by
  rw [resume_eq_steps]
  exact (textGrows_of_transcript_eq (transcript_uncharged r)).trans (textGrows_steps _ _)

theorem textGrows_accept (r : Run) (read : PendingRead) (answer : String) :
    TextGrows r (r.accept read answer) :=
  ⟨answer ++ "\n",
    by rw [transcript_accept, Transcript.text_echo, String.append_assoc]⟩

theorem textGrows_call (fuel : Nat) (r : Run) (c : Call) : TextGrows r (r.call fuel c) := by
  cases c with
  | resume => exact textGrows_resume fuel r
  | answer raw =>
    cases hp : r.pending? with
    | none =>
      simp only [call, answer_of_no_pending hp]
      exact .refl r
    | some read =>
      simp only [call, answer_of_pending hp]
      exact (textGrows_accept r read _).trans (textGrows_resume fuel _)

/-- After any calls the transcript is what the program printed and what was typed, followed by
    nothing while the run has not stopped, and by its last message on a line of its own once
    it has; and a further call only adds to it. -/
theorem transcript_after_calls (code : Array Instruction) (config : RunConfig) (fuel : Nat)
    (cs : List Call) :
    let r := (start code config).calls fuel cs
    let printed := ((start code config).performedByCalls fuel cs).any Instruction.isPrint
    r.transcript.text = r.transcript.programText ++
        (if r.isRunning then ""
          else
            Transcript.lineBreakAfter r.transcript.programText ++ r.lastMessage printed ++ "\n") ∧
      ∀ c : Call, ∃ added, (r.call fuel c).transcript.text = r.transcript.text ++ added := by
  intro r printed
  have hstart : Tells false (start code config) := ⟨rfl, fun _ => rfl⟩
  have htells : Tells printed r := by
    have := hstart.calls fuel cs
    rwa [Bool.false_or] at this
  exact ⟨htells.text_eq, fun c => textGrows_call fuel r c⟩

end Run

end ConsoleLab
