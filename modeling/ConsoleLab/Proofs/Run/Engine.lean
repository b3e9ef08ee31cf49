/-
  ConsoleLab.Proofs.Run.Engine — the flags of the engine stay together.

  `Run.engine` gives a run the flags that belong to its phase. Not every engine comes about in
  this way, since its flags are set one by one, but each operation of the engine does to
  `r.engine` what the run's does to `r`, the answer that takes its read out and puts the rest
  of it back included (`resume_engine`, `supplyInput_engine`). So after any calls the flags are
  those of a run (`calls_engine`), and what is known of runs holds of them. Main fact:
  `between_calls`, for an engine with a step limit after any calls: how its flags stand, what the
  next call does to it and what that call hands back.
-/

import ConsoleLab.Proofs.Run.Suspension
import ConsoleLab.Run.Engine

namespace ConsoleLab

open Run (Awaits Call)

/-- The flags of a run are those of its phase. -/
def Run.engine (r : Run) : Engine where
  toMachine := r.toMachine
  running := r.isRunning
  halted := r.status? == some .halted
  pendingRead := r.pending?

namespace Engine

variable {r next : Run}

theorem engine_of_ready (h : r.phase = .ready) : r.engine = ⟨r.toMachine, true, false, none⟩ := by
  unfold Run.engine Run.isRunning Run.status? Run.pending?
  rw [h]
  rfl

theorem engine_of_waiting {read : PendingRead} (h : r.phase = .waiting read) :
    r.engine = ⟨r.toMachine, true, false, some read⟩ := by
  unfold Run.engine Run.isRunning Run.status? Run.pending?
  rw [h]
  rfl

theorem status?_engine (r : Run) : r.engine.status? = r.status? := by
  unfold status? stoppedStatus Run.engine Run.isRunning Run.pending? Run.status?
  cases r.phase <;> rfl

/-! ## Instructions -/

theorem body_engine (h : r.phase = .ready) : r.engine.body = r := by
  obtain ⟨machine, phase⟩ := r
  cases h
  rfl

theorem keep_engine (hr : r.phase = .ready) (hnext : next.phase = .ready) :
    r.engine.keep next = next.engine := by
  rw [engine_of_ready hr, engine_of_ready hnext]
  rfl

theorem finish_engine (h : r.phase = .ready) : r.engine.finish = r.finish.engine := by
  rw [finish, body_engine h, engine_of_ready h]
  rfl

theorem halt_engine (h : r.phase = .ready) (fault : Fault) :
    r.engine.halt fault = (r.halt fault).engine := by
  rw [halt, body_engine h]
  rfl

/-- Where the engine waits, only the pending read is set. -/
theorem wait_engine (h : r.phase = .ready) (place : Source.Location) (read : PendingRead) :
    { r.engine with place := place, pendingRead := some read } =
      Run.engine { r with place := place, phase := .waiting read } := by
  rw [engine_of_ready h, engine_of_waiting rfl]

theorem goOn_engine (n : Nat) (h : r.phase = .ready) :
    r.engine.goOn n = ((r.goOn n).1, (r.goOn n).2.engine) := by
  induction n generalizing r with
  | zero => rfl
  | succ n ih =>
    unfold goOn Run.goOn
    cases hi : r.code[r.pc]? with
    | none =>
      have hnone : r.engine.code[r.engine.pc]? = none := hi
      simp only [hnone, finish_engine h]
    | some i =>
      have hsome : r.engine.code[r.engine.pc]? = some i := hi
      simp only [hsome]
      cases hread : Run.readOf? i.action with
      | some read => exact congrArg (Prod.mk _) (wait_engine h i.place read)
      | none =>
        have hready : (r.charge i).phase = .ready := h
        have hcharge : r.engine.keep (r.engine.body.charge i) = (r.charge i).engine := by
          rw [body_engine h, keep_engine h hready]
        simp only [hcharge, body_engine hready]
        cases he : (r.charge i).execute i.action with
        | ok next =>
          have hnext : next.phase = .ready := (Run.phase_of_execute he).trans hready
          dsimp only
          rw [keep_engine hready hnext]
          exact ih hnext
        | error fault =>
          dsimp only
          rw [halt_engine hready]

/-! ## Calls -/

theorem resumeReport_engine (fuel : Nat) (r : Run) :
    r.engine.resume fuel = ((r.resumeReport fuel).1, (r.resumeReport fuel).2.engine) := by
  cases hp : r.phase with
  | ready =>
    have hreport : r.resumeReport fuel = { r with charged := 0 }.goOn (r.budget fuel) := by
      simp only [Run.resumeReport, hp]
    rw [hreport, ← goOn_engine (r := { r with charged := 0 }) _ hp, resume, body_engine hp,
      engine_of_ready hp, engine_of_ready (r := { r with charged := 0 }) hp]
    rfl
  | waiting | finished | halted =>
    simp [resume, stoppedStatus, Run.resumeReport, Run.engine, Run.isRunning, Run.status?,
      Run.pending?, hp]

/-- Going on does to the flags what it does to the run, and hands back its status. -/
theorem resume_engine (fuel : Nat) (r : Run) :
    r.engine.resume fuel = ((r.resume fuel).status?, (r.resume fuel).engine) := by
  rw [resumeReport_engine, Run.resumeReport_eq]

/-- Behind a read that has been answered nothing is pending, and the run goes on. -/
theorem passRead_engine {read : PendingRead} (h : r.phase = .waiting read) (fuel : Nat)
    (store : Store) (transcript : Transcript) :
    { r.engine with pendingRead := none, store := store, transcript := transcript }.passRead fuel =
      let next := ({ r with transcript := transcript }.passRead store).resume fuel
      (.ok next.status?, next.engine) := by
  have hbehind :
      { r.engine with
        pendingRead := none, store := store, transcript := transcript, pc := r.pc + 1 } =
      Run.engine ({ r with transcript := transcript }.passRead store) := by
    rw [engine_of_waiting h, engine_of_ready rfl]
    rfl
  unfold passRead
  dsimp only
  rw [show r.engine.pc = r.pc from rfl, hbehind, resume_engine]

/-- What an answer has left of a read is put back where the read was taken out. -/
theorem restore_engine {read : PendingRead} (h : r.phase = .waiting read) (store : Store)
    (transcript : Transcript) (rest : PendingRead) :
    { r.engine with pendingRead := some rest, store := store, transcript := transcript } =
      Run.engine { r with store := store, transcript := transcript, phase := .waiting rest } := by
  rw [engine_of_waiting h, engine_of_waiting rfl]

/-- An answer does to the flags what it does to the run. The read that is taken out first is
    put back as far as the answer leaves it, and where there was none nothing changes. -/
theorem supplyInput_engine (fuel : Nat) (r : Run) (raw : String) :
    r.engine.supplyInput fuel raw =
      match r.answer fuel raw with
      | .ok next => (.ok next.status?, next.engine)
      | .error e => (.error e, r.engine) := by
  cases hp : r.pending? with
  | none =>
    have hpending : r.engine.pendingRead = none := hp
    rw [Run.answer_of_no_pending hp]
    simp only [supplyInput, hpending]
    rw [← hpending]
  | some read =>
    have hpending : r.engine.pendingRead = some read := hp
    have hphase : r.phase = .waiting read := Run.pending?_eq_some_iff.mp hp
    rw [Run.answer_of_pending hp]
    simp only [supplyInput, hpending]
    cases read with
    | one name mode => exact passRead_engine hphase fuel _ _
    | many names hints =>
      by_cases hlt : (answerPieces (Text.trim raw)).length < names.length
      · simp only [Run.accept, hlt, if_true]
        rw [Run.resume_of_not_ready rfl]
        exact congrArg (Prod.mk _) (restore_engine hphase _ _ _)
      · simp only [Run.accept, hlt, if_false]
        exact passRead_engine hphase fuel _ _

def call (fuel : Nat) (e : Engine) : Call → Engine
  | .resume => (e.resume fuel).2
  | .answer raw => (e.supplyInput fuel raw).2

def calls (fuel : Nat) (e : Engine) (cs : List Call) : Engine :=
  cs.foldl (call fuel) e

theorem call_engine (fuel : Nat) (r : Run) (c : Call) :
    r.engine.call fuel c = (r.call fuel c).engine := by
  cases c with
  | resume =>
    unfold call Run.call
    dsimp only
    rw [resume_engine]
  | answer raw =>
    unfold call Run.call
    dsimp only
    rw [supplyInput_engine]
    cases r.answer fuel raw <;> rfl

/-- After any calls the flags are those of the run after these calls. -/
theorem calls_engine (fuel : Nat) (code : Array Instruction) (config : RunConfig)
    (cs : List Call) :
    (start code config).calls fuel cs = ((Run.start code config).calls fuel cs).engine := by
  have hall : ∀ r : Run, r.engine.calls fuel cs = (r.calls fuel cs).engine := by
    induction cs with
    | nil => exact fun _ => rfl
    | cons c rest ih =>
      intro r
      unfold calls Run.calls
      rw [List.foldl_cons, List.foldl_cons, call_engine]
      exact ih _
  exact hall (Run.start code config)

/-! ## After any calls -/

theorem isReady_iff_flags (r : Run) :
    r.isReady = true ↔ r.engine.running = true ∧ r.engine.pendingRead = none := by
  unfold Run.engine Run.isReady Run.isRunning Run.pending?
  cases r.phase <;> simp

theorem flags_of_waiting {read : PendingRead} (h : r.phase = .waiting read) :
    r.engine.running = true ∧ r.engine.halted = false := by
  rw [engine_of_waiting h]
  exact ⟨rfl, rfl⟩

theorem pendingRead_of_stopped (h : r.engine.running = false) : r.engine.pendingRead = none := by
  cases hp : r.engine.pendingRead with
  | none => rfl
  | some read =>
    have hrunning := (flags_of_waiting (Run.pending?_eq_some_iff.mp hp)).1
    rw [h] at hrunning
    cases hrunning

theorem exists_fault_of_halted (h : r.engine.halted = true) :
    r.engine.running = false ∧ ∃ fault, r.phase = .halted fault := by
  cases hp : r.phase with
  | halted fault => exact ⟨by simp [Run.engine, Run.isRunning, hp], fault, rfl⟩
  | ready | waiting | finished => simp [Run.engine, Run.status?, hp] at h

/-- What holds of an engine after the calls `cs`, and what one more call does to it. -/
structure BetweenCalls (code : Array Instruction) (fuel : Nat) (cs : List Call) (e : Engine) :
    Prop where
  /-- An engine that waits stands at a read, and waits for what that read still wants. -/
  waiting : ∀ read, e.pendingRead = some read → e.running = true ∧ e.halted = false ∧
    ∃ i, code[e.pc]? = some i ∧ Run.isRead i.action = true ∧ e.place = i.place ∧
      Awaits i.action read
  stopped : e.running = false → e.pendingRead = none ∧ e.loops = []
  /-- An engine that has halted stands at the instruction that failed. -/
  halted : e.halted = true → e.running = false ∧ ∃ i, code[e.pc]? = some i ∧ e.place = i.place
  ready : e.running = true → e.pendingRead = none → Call.resume ∉ cs
  resume_reports : ∃ s, (e.resume fuel).1 = some s ∧ (e.resume fuel).2.status? = some s
  supply_reports : e.pendingRead ≠ none → ∀ raw, ∃ s,
    (e.supplyInput fuel raw).1 = .ok (some s) ∧ (e.supplyInput fuel raw).2.status? = some s
  resume_idle : e.running = false ∨ e.pendingRead ≠ none →
    e.resume fuel = (e.status?, e)
  supply_refused : e.pendingRead = none → ∀ raw,
    e.supplyInput fuel raw = (.error .notWaiting, e)

/-- Whatever calls are made of an engine with a step limit, its flags stand between them as they
    should, and each further call changes it as it should and hands back its status. -/
theorem between_calls (code : Array Instruction) {config : RunConfig}
    (hl : config.maxSteps ≠ none) (fuel : Nat) (cs : List Call) :
    BetweenCalls code fuel cs ((start code config).calls fuel cs) := by
  have hv := Run.visited_calls code config fuel cs
  have hrest : Call.resume ∈ cs → ((Run.start code config).calls fuel cs).isReady = false :=
    fun h => Run.calls_not_ready hl fuel .start (Or.inl h)
  rw [calls_engine]
  generalize (Run.start code config).calls fuel cs = r at hv hrest
  have hs := hv.standing
  have hlimit : r.config.maxSteps ≠ none := by rwa [hv.config_eq]
  rw [← hv.code_eq]
  constructor
  case waiting =>
    intro read hread
    have hp : r.phase = .waiting read := Run.pending?_eq_some_iff.mp hread
    obtain ⟨i, hi, hplace, hawaits⟩ := hs.waiting read hp
    obtain ⟨hrunning, hhalted⟩ := flags_of_waiting hp
    exact ⟨hrunning, hhalted, i, hi, hawaits.isRead, hplace, hawaits⟩
  case stopped => exact fun hrunning => ⟨pendingRead_of_stopped hrunning, hs.loops hrunning⟩
  case halted =>
    intro hhalted
    obtain ⟨hrunning, fault, hp⟩ := exists_fault_of_halted hhalted
    exact ⟨hrunning, hs.halted fault hp⟩
  case ready =>
    intro hrunning hpending hmem
    have hready : r.isReady = true := (isReady_iff_flags r).mpr ⟨hrunning, hpending⟩
    rw [hrest hmem] at hready
    cases hready
  case resume_reports =>
    obtain ⟨s, hstatus⟩ := Run.exists_status_resume hlimit fuel
    rw [resume_engine, status?_engine]
    exact ⟨s, hstatus, hstatus⟩
  case supply_reports =>
    intro hpending raw
    obtain ⟨read, hp⟩ := Option.ne_none_iff_exists'.mp hpending
    have haccept : (r.accept read (Text.trim raw)).config.maxSteps ≠ none := by
      rwa [Run.config_accept]
    obtain ⟨s, hstatus⟩ := Run.exists_status_resume haccept fuel
    rw [supplyInput_engine, Run.answer_of_pending hp]
    exact ⟨s, congrArg Except.ok hstatus, (status?_engine _).trans hstatus⟩
  case resume_idle =>
    intro hidle
    have hready : r.isReady = false := by
      rw [Bool.eq_false_iff]
      intro h
      obtain ⟨hrunning, hpending⟩ := (isReady_iff_flags r).mp h
      rcases hidle with hstopped | hwaiting
      · rw [hrunning] at hstopped
        cases hstopped
      · exact hwaiting hpending
    rw [resume_engine, Run.resume_of_not_ready hready, status?_engine]
  case supply_refused =>
    intro hpending raw
    rw [supplyInput_engine, Run.answer_of_no_pending hpending]

end Engine

def Run.pairsInLoop : Array Instruction :=
  #[⟨.loopStart ⟨"i", 0, ⟨.var "i", .lt, .lit 2⟩, "i"⟩ 2, ⟨2, 3⟩⟩,
    ⟨.perform (.scan ["a", "b"] [.integer, .char]), ⟨3, 5⟩⟩, ⟨.loopEnd 0, ⟨4, 3⟩⟩]

/-- An answer with one piece too few leaves the read of the other variable pending. -/
theorem Engine.between_calls_pairsInLoop :
    let e := (start Run.pairsInLoop .default).calls 0 [.resume, .answer " 7 "]
    RunConfig.default.maxSteps ≠ none ∧
      BetweenCalls Run.pairsInLoop 0 [.resume, .answer " 7 "] e ∧
      e.pendingRead = some (.many ["b"] [.char]) ∧ e.running = true ∧ e.halted = false := by
  intro e
  have hl : RunConfig.default.maxSteps ≠ none := by decide
  have hbetween := between_calls Run.pairsInLoop hl 0 [.resume, .answer " 7 "]
  have hpending : e.pendingRead = some (.many ["b"] [.char]) := by decide +kernel
  obtain ⟨hrunning, hhalted, -⟩ := hbetween.waiting _ hpending
  exact ⟨hl, hbetween, hpending, hrunning, hhalted⟩

end ConsoleLab
