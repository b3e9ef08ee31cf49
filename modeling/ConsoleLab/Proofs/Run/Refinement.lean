/-
  ConsoleLab.Proofs.Run.Refinement — running the code of a tree is what the tree means.

  A dialogue that stands before the code of a block in some world (`At`) moves, in ticks,
  to where the meaning of the block leads: behind the code, to an end of the program, or
  on for ever where the meaning has no result (`Simulates`). This is proved along the tree
  (`simulates_eval`); for a loop the stack of loops gets its frame and loses it again, and
  each pass is an induction on the bound for the tests (`simulates_passes`). Main fact:
  `eval_iff_feed`, the meaning of a whole program and its run agree.
-/

import ConsoleLab.Proofs.Program.Pairing
import ConsoleLab.Proofs.Run.Dialogue
import ConsoleLab.Proofs.Run.Structured
import ConsoleLab.Proofs.Run.Text

namespace ConsoleLab

open Source (Location)

open Dialogue (tick)

def Outcome.EndOf : Outcome → Run → Prop
  | done, r => r.phase = .finished
  | faulted fault place, r => r.phase = .halted fault ∧ r.place = place
  | starved read place, r => r.phase = .waiting read ∧ r.place = place

structure Ended (out : Outcome) (w : World) (d : Dialogue) : Prop where
  settled : d.Settled
  outcome : out.EndOf d.run
  store_eq : d.run.store = w.store
  output_eq : d.run.transcript.programText = w.output
  answers_eq : d.answers = w.answers

/-- The dialogue runs `code` without a step limit, and stands at the index `pc` inside the given
    loops, in this world. -/
structure At (code : Array Instruction) (marker : String) (loops : List LoopFrame)
    (phase : Phase) (pc : Nat) (w : World) (d : Dialogue) : Prop where
  code_eq : d.run.code = code
  config_eq : d.run.config = ⟨none, marker⟩
  loops_eq : d.run.loops = loops
  phase_eq : d.run.phase = phase
  pc_eq : d.run.pc = pc
  store_eq : d.run.store = w.store
  output_eq : d.run.transcript.programText = w.output
  answers_eq : d.answers = w.answers

/-- The dialogue moves to where a meaning leads: to `next` behind a piece that is done, to an
    end of the program, or, where there is no result, on for at least `least` ticks. -/
def Simulates (d : Dialogue) (least : Nat) (next : World → Dialogue → Prop) :
    Option (Outcome × World) → Prop
  | none => ∃ n, least ≤ n ∧ ¬ (tick^[n] d).Settled
  | some (.done, w) => ∃ n, next w (tick^[n] d)
  | some (out, w) => ∃ n, Ended out w (tick^[n] d)

namespace Simulates

variable {d : Dialogue} {least : Nat} {next mid : World → Dialogue → Prop}
  {result first : Option (Outcome × World)} {after : World → Option (Outcome × World)}

theorem of_ticks (n : Nat) (h : Simulates (tick^[n] d) least next result) :
    Simulates d (least + n) next result := by
  match result with
  | none =>
    obtain ⟨m, hle, hm⟩ := h
    exact ⟨m + n, by omega, by rwa [Function.iterate_add_apply]⟩
  | some (.done, w) | some (.faulted _ _, w) | some (.starved _ _, w) =>
    obtain ⟨m, hm⟩ := h
    exact ⟨m + n, by rwa [Function.iterate_add_apply]⟩

theorem mono {fewer : Nat} (hle : fewer ≤ least) (h : Simulates d least next result) :
    Simulates d fewer next result := by
  match result with
  | none =>
    obtain ⟨m, hm, hs⟩ := h
    exact ⟨m, by omega, hs⟩
  | some (.done, w) | some (.faulted _ _, w) | some (.starved _ _, w) => exact h

/-- What comes after a piece starts from where the piece is done. -/
theorem andThen (h : Simulates d least mid first)
    (hnext : ∀ w d', mid w d' → Simulates d' least next (after w)) :
    Simulates d least next (andThen first after) := by
  match first with
  | some (.done, w) =>
    obtain ⟨n, hn⟩ := h
    exact ((hnext w _ hn).of_ticks n).mono (Nat.le_add_right _ _)
  | none | some (.faulted _ _, w) | some (.starved _ _, w) => exact h

end Simulates

/-! ## One instruction -/

namespace At

variable {code : Array Instruction} {marker : String} {loops : List LoopFrame} {phase : Phase}
  {pc : Nat} {w : World} {d : Dialogue} {i : Instruction} {read : PendingRead}

theorem isReady (h : At code marker loops .ready pc w d) : d.run.isReady = true :=
  Run.isReady_iff.mpr h.phase_eq

theorem tick_instruction (h : At code marker loops .ready pc w d) (hi : code[pc]? = some i) :
    d.tick = ⟨d.run.reach i, d.answers⟩ := by
  have hi' : d.run.code[d.run.pc]? = some i := by rw [h.code_eq, h.pc_eq, hi]
  rw [Dialogue.tick_of_ready h.isReady, Run.step_of_instruction h.isReady hi']

theorem reach_eq (h : At code marker loops .ready pc w d) (hread : Run.readOf? i.action = none) :
    d.run.reach i = match (d.run.charge i).perform i.action with
      | .ok next => next
      | .error fault => (d.run.charge i).halt fault := by
  have hfree : (d.run.charge i).overLimit? = none := by
    simp [Run.overLimit?, Run.charge, h.config_eq]
  cases hp : (d.run.charge i).perform i.action with
  | ok next => simp only [Run.reach, hread, Run.execute, hfree, hp]
  | error fault => simp only [Run.reach, hread, Run.execute, hfree, hp]

theorem wait (h : At code marker loops .ready pc w d) (hi : code[pc]? = some i)
    (hread : Run.readOf? i.action = some read) :
    At code marker loops (.waiting read) pc w d.tick ∧ d.tick.run.place = i.place := by
  have hreach : d.run.reach i = { d.run with place := i.place, phase := .waiting read } := by
    simp only [Run.reach, hread]
  rw [h.tick_instruction hi, hreach]
  exact ⟨⟨h.code_eq, h.config_eq, h.loops_eq, rfl, h.pc_eq, h.store_eq, h.output_eq, h.answers_eq⟩,
    rfl⟩

/-- Without an answer, a run that waits is where the program ends. -/
theorem starved (h : At code marker loops (.waiting read) pc w d) {place : Location}
    (hplace : d.run.place = place) (hnil : w.answers = []) : Ended (.starved read place) w d where
  settled := ⟨by simp [Run.isReady, h.phase_eq], fun _ _ => by rw [h.answers_eq, hnil]⟩
  outcome := ⟨h.phase_eq, hplace⟩
  store_eq := h.store_eq
  output_eq := h.output_eq
  answers_eq := h.answers_eq

theorem uncharged {r : Run} {answers : List String}
    (h : At code marker loops phase pc w ⟨r, answers⟩) :
    At code marker loops phase pc w ⟨r.uncharged, answers⟩ := by
  rw [Run.uncharged_eq]
  exact ⟨h.code_eq, h.config_eq, h.loops_eq, h.phase_eq, h.pc_eq, h.store_eq, h.output_eq,
    h.answers_eq⟩

theorem tick_answer (h : At code marker loops (.waiting read) pc w d) {raw : String}
    {rest : List String} (hw : w.answers = raw :: rest) :
    d.tick = ⟨(d.run.accept read (Text.trim raw)).uncharged, rest⟩ := by
  obtain ⟨r, answers⟩ := d
  obtain rfl : answers = raw :: rest := h.answers_eq.trans hw
  exact Dialogue.tick_of_waiting h.phase_eq raw rest

end At

section

variable {code : Array Instruction} {marker : String} {loops : List LoopFrame} {pc least : Nat}
  {w : World} {d : Dialogue} {place : Location}

theorem simulates_print {parts : List PrintPart} (h : At code marker loops .ready pc w d)
    (hi : code[pc]? = some ⟨.perform (.print parts), place⟩) :
    Simulates d least (At code marker loops .ready (pc + 1))
      (some (Statement.eval marker place w (.print parts))) := by
  refine ⟨1, ?_⟩
  rw [Function.iterate_one, h.tick_instruction hi, h.reach_eq rfl]
  refine ⟨h.code_eq, h.config_eq, h.loops_eq, h.phase_eq, congrArg (· + 1) h.pc_eq, h.store_eq,
    ?_, h.answers_eq⟩
  have hshown : d.run.store.printText d.run.config.undefinedMarker parts =
      w.store.printText marker parts := by rw [h.store_eq, h.config_eq]
  exact (Transcript.programText_print _ _ _).trans (congrArg₂ (· ++ ·) h.output_eq hshown)

theorem simulates_read {name : String} {mode : ReadMode} (h : At code marker loops .ready pc w d)
    (hi : code[pc]? = some ⟨.perform (.read name mode), place⟩) :
    Simulates d least (At code marker loops .ready (pc + 1))
      (some (Statement.eval marker place w (.read name mode))) := by
  obtain ⟨hwait, hplace⟩ := h.wait hi rfl
  unfold Statement.eval
  cases hw : w.answers with
  | nil => exact ⟨1, hwait.starved hplace hw⟩
  | cons raw rest =>
    refine ⟨2, ?_⟩
    rw [Function.iterate_succ_apply', Function.iterate_one, hwait.tick_answer hw]
    refine At.uncharged ⟨hwait.code_eq, hwait.config_eq, hwait.loops_eq, rfl,
      congrArg (· + 1) hwait.pc_eq, ?_, ?_, rfl⟩
    · exact congrArg (fun s : Store => s.set name (mode.valueOf (Text.trim raw))) hwait.store_eq
    · exact (Transcript.programText_echo _ _).trans (by rw [hwait.output_eq])

/-- A formatted read takes answers until each variable has a value. -/
theorem simulates_fill {names : List String} {hints : List ScanHint} {store : Store}
    {output : String} (answers : List String) (hne : names ≠ [])
    (h : At code marker loops (.waiting (.many names hints)) pc ⟨store, output, answers⟩ d)
    (hplace : d.run.place = place) :
    Simulates d least (At code marker loops .ready (pc + 1))
      (some (Statement.fill place names hints store output answers)) := by
  induction answers generalizing d names hints store output with
  | nil =>
    rw [Statement.fill, if_neg hne]
    exact ⟨0, h.starved hplace rfl⟩
  | cons raw rest ih =>
    let answer := Text.trim raw
    let pieces := answerPieces answer
    have hfill : Statement.fill place names hints store output (raw :: rest) =
        Statement.fill place (names.drop pieces.length) (hints.drop pieces.length)
          (store.scan names hints pieces) (output ++ answer ++ "\n") rest := by
      rw [Statement.fill, if_neg hne]
    have hstore : d.run.store.scan names hints pieces = store.scan names hints pieces := by
      rw [h.store_eq]
    have houtput : (d.run.transcript.echo answer).programText = output ++ answer ++ "\n" := by
      rw [Transcript.programText_echo, h.output_eq]
    have htick : d.tick = ⟨(d.run.accept (.many names hints) answer).uncharged, rest⟩ :=
      h.tick_answer rfl
    by_cases hlt : pieces.length < names.length
    · -- The run waits for the rest of the variables.
      have haccept : d.run.accept (.many names hints) answer =
          { d.run with
            transcript := d.run.transcript.echo answer
            store := d.run.store.scan names hints pieces
            phase := .waiting (.many (names.drop pieces.length) (hints.drop pieces.length)) } := by
        simp only [Run.accept]
        rw [if_pos hlt]
      rw [haccept, Run.uncharged_of_not_ready rfl] at htick
      have hrest : names.drop pieces.length ≠ [] := by
        rw [Ne, List.drop_eq_nil_iff]
        omega
      refine (Simulates.of_ticks 1 ?_).mono (Nat.le_add_right _ _)
      rw [Function.iterate_one, htick, hfill]
      exact ih hrest ⟨h.code_eq, h.config_eq, h.loops_eq, rfl, h.pc_eq, hstore, houtput, rfl⟩ hplace
    · -- Every variable has its value, and pieces to spare are dropped.
      have haccept : d.run.accept (.many names hints) answer =
          { d.run with
            transcript := d.run.transcript.echo answer
            store := d.run.store.scan names hints pieces
            pc := d.run.pc + 1
            phase := .ready } := by
        simp only [Run.accept]
        rw [if_neg hlt]
        rfl
      have hnil : names.drop pieces.length = [] := List.drop_eq_nil_of_le (by omega)
      rw [haccept] at htick
      rw [hfill, hnil, Statement.fill_nil]
      refine ⟨1, ?_⟩
      rw [Function.iterate_one, htick]
      exact At.uncharged ⟨h.code_eq, h.config_eq, h.loops_eq, rfl, congrArg (· + 1) h.pc_eq,
        hstore, houtput, rfl⟩

theorem simulates_scan {names : List String} {hints : List ScanHint} (hne : names ≠ [])
    (h : At code marker loops .ready pc w d)
    (hi : code[pc]? = some ⟨.perform (.scan names hints), place⟩) :
    Simulates d least (At code marker loops .ready (pc + 1))
      (some (Statement.eval marker place w (.scan names hints))) := by
  obtain ⟨hwait, hplace⟩ := h.wait hi rfl
  exact ((simulates_fill w.answers hne hwait hplace).of_ticks 1).mono (Nat.le_add_right _ _)

/-! ## Loops -/

variable {header : Loop.Header} {start stop : Nat} {close : Location}

/-- The dialogue after a test of the loop between `start` and `stop`: before the body, with a
    frame for the loop, or behind the loop. -/
def Tested (code : Array Instruction) (marker : String) (loops : List LoopFrame)
    (header : Loop.Header) (start stop : Nat) (w : World) (d : Dialogue) : Prop :=
  if w.store.satisfies header.condition then
    At code marker (⟨start, start + 1, header.condition, header.stepName⟩ :: loops) .ready (start + 1) w d
  else At code marker loops .ready (stop + 1) w d

theorem Tested.not_settled (h : Tested code marker loops header start stop w d) :
    ¬ d.Settled := by
  intro hs
  have hready : d.run.isReady = true := by
    unfold Tested at h
    split at h
    · exact h.isReady
    · exact h.isReady
  rw [hs.1] at hready
  cases hready

theorem tested_enter (h : At code marker loops .ready start w d)
    (hi : code[start]? = some ⟨.loopStart header stop, place⟩) :
    Tested code marker loops header start stop
      { w with store := w.store.set header.initName (.int header.initValue) } d.tick := by
  have hstore : d.run.store.set header.initName (.int header.initValue) =
      w.store.set header.initName (.int header.initValue) := by rw [h.store_eq]
  rw [h.tick_instruction hi, h.reach_eq rfl]
  unfold Tested
  split
  · rename_i hs
    have henter : (d.run.charge ⟨.loopStart header stop, place⟩).perform
        (.loopStart header stop) = .ok
          { d.run.charge ⟨.loopStart header stop, place⟩ with
            store := d.run.store.set header.initName (.int header.initValue)
            loops := ⟨d.run.pc, d.run.pc + 1, header.condition, header.stepName⟩ :: d.run.loops
            pc := d.run.pc + 1 } := by
      simp only [Run.perform, Run.enterLoop, Run.charge, hstore, hs, if_true]
    rw [henter]
    refine ⟨h.code_eq, h.config_eq, ?_, h.phase_eq, congrArg (· + 1) h.pc_eq, hstore, h.output_eq,
      h.answers_eq⟩
    exact congrArg₂ (fun pc outer => ⟨pc, pc + 1, header.condition, header.stepName⟩ :: outer) h.pc_eq
      h.loops_eq
  · rename_i hs
    have hpass : (d.run.charge ⟨.loopStart header stop, place⟩).perform
        (.loopStart header stop) = .ok
          { d.run.charge ⟨.loopStart header stop, place⟩ with
            store := d.run.store.set header.initName (.int header.initValue)
            pc := stop + 1 } := by
      simp only [Run.perform, Run.enterLoop, Run.charge, hstore, hs, Bool.false_eq_true, if_false]
    rw [hpass]
    exact ⟨h.code_eq, h.config_eq, h.loops_eq, h.phase_eq, rfl, hstore, h.output_eq, h.answers_eq⟩

theorem tested_end {frame : LoopFrame} {store : Store}
    (hframe : frame = ⟨start, start + 1, header.condition, header.stepName⟩)
    (h : At code marker (frame :: loops) .ready stop w d)
    (hi : code[stop]? = some ⟨.loopEnd start, close⟩)
    (hinc : w.store.increment header.stepName = .ok store) :
    Tested code marker loops header start stop { w with store := store } d.tick := by
  subst hframe
  have hinc' : d.run.store.increment header.stepName = .ok store := by rw [h.store_eq, hinc]
  rw [h.tick_instruction hi, h.reach_eq rfl]
  unfold Tested
  split
  · rename_i hs
    have hagain : (d.run.charge ⟨.loopEnd start, close⟩).perform (.loopEnd start) = .ok
        { d.run.charge ⟨.loopEnd start, close⟩ with store := store, pc := start + 1 } := by
      simp only [Run.perform, Run.endPass, Run.charge, h.loops_eq, if_true, hinc', hs]
    rw [hagain]
    exact ⟨h.code_eq, h.config_eq, h.loops_eq, h.phase_eq, rfl, rfl, h.output_eq, h.answers_eq⟩
  · rename_i hs
    have hleave : (d.run.charge ⟨.loopEnd start, close⟩).perform (.loopEnd start) = .ok
        { d.run.charge ⟨.loopEnd start, close⟩ with
          store := store, loops := loops, pc := d.run.pc + 1 } := by
      simp only [Run.perform, Run.endPass, Run.charge, h.loops_eq, if_true, hinc', hs,
        Bool.false_eq_true, if_false]
    rw [hleave]
    exact ⟨h.code_eq, h.config_eq, rfl, h.phase_eq, congrArg (· + 1) h.pc_eq, rfl, h.output_eq,
      h.answers_eq⟩

theorem ended_end {frame : LoopFrame} {fault : Fault}
    (hframe : frame = ⟨start, start + 1, header.condition, header.stepName⟩)
    (h : At code marker (frame :: loops) .ready stop w d)
    (hi : code[stop]? = some ⟨.loopEnd start, close⟩)
    (hinc : w.store.increment header.stepName = .error fault) :
    Ended (.faulted fault close) w d.tick := by
  subst hframe
  have hinc' : d.run.store.increment header.stepName = .error fault := by rw [h.store_eq, hinc]
  have hstuck : (d.run.charge ⟨.loopEnd start, close⟩).perform (.loopEnd start) =
      .error fault := by
    simp only [Run.perform, Run.endPass, Run.charge, h.loops_eq, if_true, hinc']
  rw [h.tick_instruction hi, h.reach_eq rfl, hstuck]
  exact ⟨⟨rfl, fun _ h => by cases h⟩, ⟨rfl, rfl⟩, h.store_eq,
    (Transcript.programText_system _ _).trans h.output_eq, h.answers_eq⟩

/-- A loop makes its passes between two tests. The induction is on the bound for the tests; a
    body without a result takes the ticks that are missing to the bound. -/
theorem simulates_passes {body : World → Option (Outcome × World)} {fuel : Nat}
    (hbody : ∀ w d,
      At code marker (⟨start, start + 1, header.condition, header.stepName⟩ :: loops) .ready (start + 1) w d →
        Simulates d fuel
          (At code marker (⟨start, start + 1, header.condition, header.stepName⟩ :: loops) .ready stop)
          (body w))
    (hi : code[stop]? = some ⟨.loopEnd start, close⟩) {n : Nat} (hn : n ≤ fuel)
    (h : Tested code marker loops header start stop w d) :
    Simulates d n (At code marker loops .ready (stop + 1))
      (Block.passes header close body n w) := by
  induction n generalizing w d with
  | zero => exact ⟨0, Nat.le_refl _, h.not_settled⟩
  | succ n ih =>
    unfold Block.passes
    unfold Tested at h
    split at h
    · rename_i hs
      rw [if_pos hs]
      refine ((hbody w d h).mono hn).andThen fun w' d' h' => ?_
      cases hinc : w'.store.increment header.stepName with
      | error fault => exact ⟨1, ended_end rfl h' hi hinc⟩
      | ok store => exact (ih (by omega) (tested_end rfl h' hi hinc)).of_ticks 1
    · rename_i hs
      rw [if_neg hs]
      exact ⟨0, h⟩

end

/-! ## Whole programs -/

/-- The code of a block does what the block means, wherever it stands and whatever loops are
    around it. -/
theorem simulates_eval {code : Array Instruction} {marker : String} (fuel : Nat) {b : Block}
    (hfill : b.ScansFill) {start : Nat} (hb : b.StandsIn code start) {loops : List LoopFrame}
    {w : World} {d : Dialogue} (h : At code marker loops .ready start w d) :
    Simulates d fuel (At code marker loops .ready (start + b.size)) (b.eval marker fuel w) := by
  induction b generalizing start loops w d with
  | empty => exact ⟨0, h⟩
  | statement before place what ih =>
    obtain ⟨hbefore, hi⟩ := hb
    refine (ih hfill.1 hbefore h).andThen fun w' d' h' => ?_
    cases what with
    | print parts => exact simulates_print h' hi
    | read name mode => exact simulates_read h' hi
    | scan names hints => exact simulates_scan (hfill.2 names hints rfl) h' hi
  | loop before place header body close ihBefore ihBody =>
    obtain ⟨hbefore, hstart, hbody, hend⟩ := hb
    have hsize : start + (before.loop place header body close).size =
        start + before.size + body.size + 1 + 1 := by simp only [Block.size]; omega
    rw [hsize]
    refine (ihBefore hfill.1 hbefore h).andThen fun w' d' h' => ?_
    refine ((simulates_passes (fun w d hd => ?_) hend (Nat.le_refl fuel)
      (tested_enter h' hstart)).of_ticks 1).mono (Nat.le_add_right _ _)
    have hstop : start + before.size + 1 + body.size = start + before.size + body.size + 1 := by
      omega
    have hinner := ihBody hfill.2 hbody hd
    rwa [hstop] at hinner

theorem Outcome.EndOf.unique {out out' : Outcome} {r : Run} (h : out.EndOf r)
    (h' : out'.EndOf r) : out = out' := by
  cases out with
  | done =>
    have hp : r.phase = .finished := h
    cases out' with
    | done => rfl
    | faulted | starved => cases hp.symm.trans h'.1
  | faulted fault place =>
    cases out' with
    | done => cases h.1.symm.trans h'
    | faulted => cases h.1.symm.trans h'.1; cases h.2.symm.trans h'.2; rfl
    | starved => cases h.1.symm.trans h'.1
  | starved read place =>
    cases out' with
    | done => cases h.1.symm.trans h'
    | faulted => cases h.1.symm.trans h'.1
    | starved => cases h.1.symm.trans h'.1; cases h.2.symm.trans h'.2; rfl

/-- A dialogue has one end only. -/
theorem Ended.unique {out out' : Outcome} {w w' : World} {d : Dialogue} (h : Ended out w d)
    (h' : Ended out' w' d) : out = out' ∧ w = w' := by
  have hw : w = w' := by
    obtain ⟨store, output, answers⟩ := w
    obtain ⟨store', output', answers'⟩ := w'
    congr
    · exact h.store_eq.symm.trans h'.store_eq
    · exact h.output_eq.symm.trans h'.output_eq
    · exact h.answers_eq.symm.trans h'.answers_eq
  exact ⟨h.outcome.unique h'.outcome, hw⟩

/-- Every way to come to rest is an end of the program. -/
theorem Ended.of_settled {d : Dialogue} (h : d.Settled) : ∃ out w, Ended out w d := by
  let w : World := ⟨d.run.store, d.run.transcript.programText, d.answers⟩
  cases hp : d.run.phase with
  | ready => rw [Dialogue.Settled, Run.isReady_iff.mpr hp] at h; cases h.1
  | waiting read => exact ⟨.starved read d.run.place, w, h, ⟨hp, rfl⟩, rfl, rfl, rfl⟩
  | finished => exact ⟨.done, w, h, hp, rfl, rfl, rfl⟩
  | halted fault => exact ⟨.faulted fault d.run.place, w, h, ⟨hp, rfl⟩, rfl, rfl, rfl⟩

theorem ended_finish {code : Array Instruction} {marker : String} {w : World} {d : Dialogue}
    (h : At code marker [] .ready code.size w d) : Ended .done w d.tick := by
  have hend : d.run.code[d.run.pc]? = none := by
    rw [h.code_eq, h.pc_eq, Array.getElem?_eq_none (Nat.le_refl _)]
  have hstep : d.run.step = d.run.finish := by
    simp only [Run.step, h.isReady, if_true, hend]
  rw [Dialogue.tick_of_ready h.isReady, hstep]
  exact ⟨⟨rfl, fun _ h => by cases h⟩, rfl, h.store_eq,
    (Transcript.programText_system _ _).trans h.output_eq, h.answers_eq⟩

/-- From its start a program comes to the end that it means, and goes on for as long as one likes
    where it means none. -/
theorem simulates_program {b : Block} (hfill : b.ScansFill) (marker : String) (fuel : Nat)
    (answers : List String) :
    Simulates ⟨Run.start b.flatten ⟨none, marker⟩, answers⟩ fuel (Ended .done)
      (b.eval marker fuel ⟨.empty, "", answers⟩) := by
  have h := simulates_eval fuel hfill b.standsIn_flatten
    (d := ⟨Run.start b.flatten ⟨none, marker⟩, answers⟩) (w := ⟨.empty, "", answers⟩)
    ⟨rfl, rfl, rfl, rfl, rfl, rfl, rfl, rfl⟩
  rw [Nat.zero_add, ← Block.size_flatten] at h
  match hr : b.eval marker fuel ⟨.empty, "", answers⟩ with
  | some (.done, w) =>
    rw [hr] at h
    obtain ⟨n, hn⟩ := h
    exact ⟨n + 1, by rw [Function.iterate_succ_apply']; exact ended_finish hn⟩
  | none | some (.faulted _ _, w) | some (.starved _ _, w) =>
    rw [hr] at h
    exact h

theorem eval_iff_ticks {b : Block} (hfill : b.ScansFill) (marker : String)
    (answers : List String) (out : Outcome) (w : World) :
    (∃ fuel, b.eval marker fuel ⟨.empty, "", answers⟩ = some (out, w)) ↔
      ∃ n, Ended out w (tick^[n] ⟨Run.start b.flatten ⟨none, marker⟩, answers⟩) := by
  constructor
  · intro hex
    obtain ⟨fuel, hr⟩ := hex
    have h := simulates_program hfill marker fuel answers
    rw [hr] at h
    cases out with
    | done | faulted | starved => exact h
  · intro hex
    obtain ⟨n, hn⟩ := hex
    -- With a bound above the number of ticks, a program without a result would go on too long.
    have h := simulates_program hfill marker (n + 1) answers
    match hr : b.eval marker (n + 1) ⟨.empty, "", answers⟩ with
    | none =>
      rw [hr] at h
      obtain ⟨m, hle, hm⟩ := h
      rw [Dialogue.ticks_of_settled hn.settled (by omega)] at hm
      exact absurd hn.settled hm
    | some (out', w') =>
      rw [hr] at h
      obtain ⟨m, hm⟩ : ∃ m, Ended out' w' (tick^[m] _) := by
        cases out' with
        | done | faulted | starved => exact h
      rw [Dialogue.ticks_eq_of_settled hm.settled hn.settled] at hm
      obtain ⟨rfl, rfl⟩ := hn.unique hm
      exact ⟨n + 1, hr⟩

/-- The meaning of a program and the run of its code agree. The program, as a tree, comes to an
    end with an outcome in a world if and only if the run, without a step limit and given each
    answer when it waits for one, comes to rest finished, halted by the same fault at the
    same place, or waiting for the same read with no answer left, and with the same variables,
    the same text and the same answers left over. It has no end if and only if the run always
    can go on. -/
theorem eval_iff_feed (b : Block) (hfill : b.ScansFill) (marker : String) (answers : List String) :
    let given : Nat → Dialogue := fun fuel =>
      (Run.begin fuel b.flatten ⟨none, marker⟩).feed fuel answers
    (∀ (out : Outcome) (w : World),
      (∃ fuel, b.eval marker fuel ⟨.empty, "", answers⟩ = some (out, w)) ↔
        ∃ fuel, Ended out w (given fuel)) ∧
      ((∀ fuel, b.eval marker fuel ⟨.empty, "", answers⟩ = none) ↔
        ∀ fuel, (given fuel).run.isReady = true) := by
  intro given
  have hiff : ∀ (out : Outcome) (w : World),
      (∃ fuel, b.eval marker fuel ⟨.empty, "", answers⟩ = some (out, w)) ↔
        ∃ fuel, Ended out w (given fuel) := fun out w =>
    (eval_iff_ticks hfill marker answers out w).trans
      (Dialogue.exists_feed_iff (r := Run.start b.flatten ⟨none, marker⟩) rfl answers
        fun d h => h.settled)
  refine ⟨hiff, fun hnone fuel => ?_, fun hready fuel => ?_⟩
  · cases hr : (given fuel).run.isReady with
    | true => rfl
    | false =>
      obtain ⟨out, w, he⟩ := Ended.of_settled (Dialogue.settled_feed hr)
      obtain ⟨fuel', h⟩ := (hiff out w).mpr ⟨fuel, he⟩
      rw [hnone fuel'] at h
      cases h
  · cases hr : b.eval marker fuel ⟨.empty, "", answers⟩ with
    | none => rfl
    | some result =>
      obtain ⟨fuel', he⟩ := (hiff result.1 result.2).mp ⟨fuel, hr⟩
      have hrest := he.settled.1
      rw [hready fuel'] at hrest
      cases hrest

def pairs : Block :=
  .loop .empty ⟨1, 1⟩ ⟨"i", 0, ⟨.var "i", .lt, .lit 2⟩, "i"⟩
    (.statement (.statement .empty ⟨2, 3⟩ (.scan ["a", "b"] [.integer, .string])) ⟨3, 3⟩
      (.print [.var "a", .newline]))
    ⟨4, 1⟩

theorem eval_iff_feed_pairs :
    pairs.ScansFill ∧ ∃ fuel, Ended .done
      ⟨⟨[("i", .int 2), ("a", .int 2), ("b", .text "y")]⟩, "1\nx\n1\n2,y z\n2\n", ["rest"]⟩
      ((Run.begin fuel pairs.flatten ⟨none, "?"⟩).feed fuel ["1", " x", "2,y z", "rest"]) := by
  have hfill : pairs.ScansFill := ⟨trivial, ⟨trivial, by rintro _ _ ⟨⟩; decide⟩, nofun⟩
  have hmeaning : pairs.eval "?" 3 ⟨.empty, "", ["1", " x", "2,y z", "rest"]⟩ = some (.done,
      ⟨⟨[("i", .int 2), ("a", .int 2), ("b", .text "y")]⟩, "1\nx\n1\n2,y z\n2\n", ["rest"]⟩) := by
    decide +kernel
  exact ⟨hfill, ((eval_iff_feed pairs hfill "?" _).1 _ _).mp ⟨3, hmeaning⟩⟩

end ConsoleLab
