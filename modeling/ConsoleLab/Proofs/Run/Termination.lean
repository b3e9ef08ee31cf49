/-
  ConsoleLab.Proofs.Run.Termination — runs without a step limit come to rest.

  The hypothesis is on the code alone: no loop inside a loop starts from the variable that
  the outer loop counts up (`CountersKept`). Then the tree that the code is the flattening
  of counts up, so it always has a meaning, and a run of it settles whatever answers it is
  given (`rests_start`). Every run that calls pass through inherits that, for a call only
  takes answers, goes on, and forgets what was charged (`Visited.rests`). Main fact:
  `calls_come_to_rest`. No condition of a loop matters; a loop that is entered and whose
  condition then holds at every test is never left, so its run waits at a read or halts
  because a variable cannot be counted up (`not_finished_of_keepsHolding`).
-/

import ConsoleLab.Proofs.Run.Counting
import ConsoleLab.Proofs.Run.LoopStack
import ConsoleLab.Proofs.Run.Refinement
import ConsoleLab.Proofs.Run.Suspension
import ConsoleLab.Proofs.Run.Unmetered

namespace ConsoleLab

open Source (Location)

open Dialogue (tick)

/-! ## The loops of some code -/

def Instruction.loop? (i : Instruction) : Option (Loop.Header × Nat) :=
  match i.action with
  | .loopStart header stop => some (header, stop)
  | _ => none

/-- No loop starts, in the body of a loop, from the variable that this loop counts up. -/
def CountersKept (code : Array Instruction) : Prop :=
  ∀ (i k stop stop' : Nat) header header' place place',
    code[i]? = some ⟨.loopStart header stop, place⟩ →
    code[k]? = some ⟨.loopStart header' stop', place'⟩ →
    i < k → k < stop → header'.initName ≠ header.stepName

theorem countersKept_iff (code : Array Instruction) :
    CountersKept code ↔ ∀ i < code.size, ∀ k < code.size,
      ∀ outer ∈ code[i]?.bind Instruction.loop?, ∀ inner ∈ code[k]?.bind Instruction.loop?,
        i < k → k < outer.2 → inner.1.initName ≠ outer.1.stepName := by
  constructor
  · intro h i hi k hk outer houter inner hinner
    obtain ⟨⟨a, place⟩, hi, ha⟩ := Option.bind_eq_some_iff.mp houter
    obtain ⟨⟨b, place'⟩, hk, hb⟩ := Option.bind_eq_some_iff.mp hinner
    cases a with
    | loopStart header stop =>
      cases b with
      | loopStart header' stop' =>
        cases ha
        cases hb
        exact h i k stop stop' header header' place place' hi hk
      | perform | loopEnd => cases hb
    | perform | loopEnd => cases ha
  · intro h i k stop stop' header header' place place' hi hk
    exact h i (lt_size hi) k (lt_size hk) (header, stop) (by simp [hi, Instruction.loop?])
      (header', stop') (by simp [hk, Instruction.loop?])

instance : DecidablePred CountersKept := fun code =>
  decidable_of_iff _ (countersKept_iff code).symm

namespace Block

variable {code : Array Instruction} {b : Block} {start : Nat}

/-- Where a tree stands, its loops start from the variables that the tree names. -/
theorem StandsIn.exists_loopStart (h : b.StandsIn code start) {name : String}
    (hn : name ∈ b.initNames) :
    ∃ k header stop place, start ≤ k ∧ k < start + b.size ∧
      code[k]? = some ⟨.loopStart header stop, place⟩ ∧ header.initName = name := by
  induction b generalizing start with
  | empty => cases hn
  | statement before place what ih =>
    obtain ⟨k, header, stop, place', hle, hlt, hk, heq⟩ := ih h.1 hn
    exact ⟨k, header, stop, place', hle, by simp only [size]; omega, hk, heq⟩
  | loop before place header body close ihBefore ihBody =>
    obtain ⟨hbefore, hstart, hbody, -⟩ := h
    simp only [initNames, List.mem_append, List.mem_cons] at hn
    rcases hn with hn | rfl | hn
    · obtain ⟨k, header', stop, place', hle, hlt, hk, heq⟩ := ihBefore hbefore hn
      exact ⟨k, header', stop, place', hle, by simp only [size]; omega, hk, heq⟩
    · exact ⟨_, header, _, place, Nat.le_add_right _ _, by simp only [size]; omega, hstart, rfl⟩
    · obtain ⟨k, header', stop, place', hle, hlt, hk, heq⟩ := ihBody hbody hn
      exact ⟨k, header', stop, place', by omega, by simp only [size]; omega, hk, heq⟩

theorem StandsIn.countsUp (h : b.StandsIn code start) (hc : CountersKept code) : b.CountsUp := by
  induction b generalizing start with
  | empty => trivial
  | statement before place what ih => exact ih h.1
  | loop before place header body close ihBefore ihBody =>
    obtain ⟨hbefore, hstart, hbody, -⟩ := h
    refine ⟨ihBefore hbefore, fun hn => ?_, ihBody hbody⟩
    obtain ⟨k, header', stop, place', hle, hlt, hk, heq⟩ := hbody.exists_loopStart hn
    exact hc _ k _ stop header header' place place' hstart hk (by omega) (by omega) heq

theorem StandsIn.scansFill (h : b.StandsIn code start) (hw : StatementsWellFormed code) :
    b.ScansFill := by
  induction b generalizing start with
  | empty => trivial
  | statement before place what ih =>
    refine ⟨ih h.1, ?_⟩
    rintro names hints rfl
    have hwell : (Statement.scan names hints).WellFormed := hw (Array.mem_of_getElem? h.2)
    exact hwell.1
  | loop before place header body close ihBefore ihBody =>
    obtain ⟨hbefore, -, hbody, -⟩ := h
    exact ⟨ihBefore hbefore, ihBody hbody⟩

end Block

/-! ## Every run settles -/

namespace Run

def Rests (r : Run) : Prop :=
  ∀ answers, ∃ n, Dialogue.Settled (tick^[n] ⟨r, answers⟩)

theorem Rests.of_unmetered_eq {r r' : Run} (h : r.Rests) (hnone : r.config.maxSteps = none)
    (hnone' : r'.config.maxSteps = none) (heq : r'.unmetered = r.unmetered) : r'.Rests := by
  intro answers
  obtain ⟨n, hs⟩ := h answers
  have hstart : Dialogue.unmetered ⟨r', answers⟩ = Dialogue.unmetered ⟨r, answers⟩ :=
    congrArg (Dialogue.mk · answers) heq
  have hticks := (Dialogue.unmetered_ticks (d := ⟨r', answers⟩) hnone' n).1
  rw [hstart, (Dialogue.unmetered_ticks (d := ⟨r, answers⟩) hnone n).1] at hticks
  have hs' : (tick^[n] ⟨r, answers⟩).unmetered.Settled := hs
  rw [hticks] at hs'
  exact ⟨n, hs'⟩

theorem Rests.exists_not_ready {r : Run} (h : r.Rests) : ∃ n, (r.steps n).isReady = false := by
  obtain ⟨n, hs, -⟩ := h []
  rw [Dialogue.ticks_nil] at hs
  exact ⟨n, hs⟩

/-- The run of a program whose counters are kept settles: the program has a meaning. -/
theorem rests_start {order : PrintOrder} {source : String} {p : Program}
    (hp : Program.parse order source = .ok p) (hk : CountersKept p.code) (marker : String) :
    (start p.code ⟨none, marker⟩).Rests := by
  intro answers
  have hwell : StatementsWellFormed p.code := statementsWellFormed_of_parse hp
  obtain ⟨b, hb⟩ := exists_flatten_of_parse hp
  rw [hb] at hk hwell ⊢
  have hstands := b.standsIn_flatten
  obtain ⟨fuel, out, w, hr, -⟩ :=
    Block.hasResult_eval (hstands.countsUp hk) marker ⟨.empty, "", answers⟩
  obtain ⟨n, he⟩ :=
    (eval_iff_ticks (hstands.scansFill hwell) marker answers out w).mp ⟨fuel, hr⟩
  exact ⟨n, he.settled⟩

variable {code : Array Instruction} {config : RunConfig} {r : Run}

/-- If the run settles from its start, it does so from wherever calls lead. -/
theorem Visited.rests (hstart : (Run.start code config).Rests) (hnone : config.maxSteps = none)
    (h : Visited code config r) : r.Rests := by
  induction h with
  | start => exact hstart
  | @uncharged r h ih =>
    have hr : r.config.maxSteps = none := by rw [h.config_eq, hnone]
    exact ih.of_unmetered_eq hr (by rwa [config_uncharged]) (unmetered_uncharged r)
  | @step r h ih =>
    intro answers
    cases hr : r.isReady with
    | true =>
      have hsettles := Dialogue.exists_settled_tick (ih answers)
      rwa [Dialogue.tick_of_ready (d := ⟨r, answers⟩) hr] at hsettles
    | false =>
      rw [step_of_not_ready hr]
      exact ih answers
  | @accept r read raw h hp ih =>
    have hr : r.config.maxSteps = none := by rw [h.config_eq, hnone]
    have hnext : (r.accept read (Text.trim raw)).uncharged.Rests := by
      intro answers
      have hsettles := Dialogue.exists_settled_tick (ih (raw :: answers))
      rwa [Dialogue.tick_of_waiting hp] at hsettles
    refine hnext.of_unmetered_eq ?_ ?_ (unmetered_uncharged _).symm
    · rw [config_uncharged, config_accept, hr]
    · rw [config_accept, hr]

/-! ## How it ends -/

/-- The run has come to rest, and if it has halted a variable could not be counted up. -/
structure AtRest (r : Run) : Prop where
  status : ∃ s, r.status? = some s
  fault : ∀ fault, r.phase = .halted fault →
    (∃ name value, fault = .nonNumericIncrement name value) ∨ ∃ name, fault = .overflow name

theorem phase_accept_ne_halted (r : Run) (read : PendingRead) (answer : String) (fault : Fault) :
    (r.accept read answer).phase ≠ .halted fault := by
  intro hf
  cases read with
  | one name mode => cases hf
  | many names hints =>
    simp only [accept] at hf
    split at hf <;> cases hf

/-- Without a limit, a run halts at the end of a loop only. -/
theorem Visited.fault_cases (hnone : config.maxSteps = none) (h : Visited code config r)
    {fault : Fault} (hf : r.phase = .halted fault) :
    fault = .loopMismatch ∨ (∃ name value, fault = .nonNumericIncrement name value) ∨
      ∃ name, fault = .overflow name := by
  induction h with
  | start => cases hf
  | uncharged _ ih => exact ih (by rwa [phase_uncharged] at hf)
  | @step r h ih =>
    cases hr : r.isReady with
    | false =>
      rw [step_of_not_ready hr] at hf
      exact ih hf
    | true =>
      have hphase := isReady_iff.mp hr
      have hturn := step_turn hr
      generalize r.step = next at hturn hf
      cases hturn with
      | finish | wait => cases hf
      | overLimit _ _ hl => rw [h.config_eq, hnone] at hl; cases hl
      | print | enter | pass | again | leave => cases hphase.symm.trans hf
      | mismatch => cases hf; exact Or.inl rfl
      | stuck _ _ hinc =>
        cases hf
        rcases increment_eq_error hinc with ⟨value, rfl⟩ | rfl
        · exact Or.inr (Or.inl ⟨_, value, rfl⟩)
        · exact Or.inr (Or.inr ⟨_, rfl⟩)
  | accept raw _ _ _ => exact absurd hf (phase_accept_ne_halted _ _ _ _)

theorem Visited.atRest (hw : WellPaired code) (hnone : config.maxSteps = none)
    (h : Visited code config r) (hr : r.isReady = false) : r.AtRest where
  status := Option.ne_none_iff_exists'.mp fun hs => by
    rw [status?_eq_none_iff, hr] at hs
    cases hs
  fault fault hf := by
    rcases h.fault_cases hnone hf with rfl | hcount
    · exact absurd hf (h.aligned hw).fault
    · exact hcount

theorem Visited.exists_resume (hw : WellPaired code) (hnone : config.maxSteps = none)
    (hstart : (Run.start code config).Rests) (h : Visited code config r) :
    ∃ fuel, (r.resume fuel).AtRest := by
  obtain ⟨n, hn⟩ := (h.uncharged.rests hstart hnone).exists_not_ready
  refine ⟨n, (h.resume n).atRest hw hnone ?_⟩
  rwa [resume_of_no_limit (by rw [h.config_eq, hnone])]

/-! ## Loops that are never left -/

/-- Each time that going on tests the loop of `frame`, its condition holds. -/
def KeepsHolding (r : Run) (frame : LoopFrame) : Prop :=
  ∀ fuel close store,
    (r.resume fuel).code[(r.resume fuel).pc]? = some ⟨.loopEnd frame.start, close⟩ →
    (r.resume fuel).store.increment frame.stepName = .ok store →
    store.satisfies frame.condition = true

/-- The run has not come to its end, and unless it has halted it is in the loop of `frame`. -/
def StaysIn (r : Run) (frame : LoopFrame) : Prop :=
  r.phase ≠ .finished ∧ (r.isRunning = true → frame ∈ r.loops)

/-- One step leaves a loop only where its condition fails. -/
theorem Visited.staysIn_step (hw : WellPaired code) (h : Visited code config r) {frame : LoopFrame}
    (hs : r.StaysIn frame)
    (hholds : ∀ close store, r.code[r.pc]? = some ⟨.loopEnd frame.start, close⟩ →
      r.store.increment frame.stepName = .ok store → store.satisfies frame.condition = true) :
    r.step.StaysIn frame := by
  cases hr : r.isReady with
  | false => rwa [step_of_not_ready hr]
  | true =>
    have hphase := isReady_iff.mp hr
    have hne : r.phase ≠ .finished := by simp [hphase]
    have hrunning : r.isRunning = true := by simp [isRunning, hphase]
    have hmem : frame ∈ r.loops := hs.2 hrunning
    have hturn := step_turn hr
    generalize r.step = next at hturn
    cases hturn with
    | finish hnone =>
      -- the loop around the next instruction ends within the code
      have hencloses := ((h.aligned hw).loops hrunning).mem_iff frame.start
      obtain ⟨header, stop, place, hi, -, hle⟩ := hencloses.mp (List.mem_map_of_mem hmem)
      obtain ⟨-, close, hj⟩ := hw.end_of_start hi
      have hsize := lt_size hj
      rw [h.code_eq, Array.getElem?_eq_none_iff] at hnone
      omega
    | wait =>
      refine ⟨fun hf => ?_, fun _ => hmem⟩
      cases hf
    | overLimit | mismatch | stuck =>
      refine ⟨fun hf => ?_, fun hrun => ?_⟩
      · cases hf
      · cases hrun
    | print | pass | again => exact ⟨hne, fun _ => hmem⟩
    | enter => exact ⟨hne, fun _ => List.mem_cons_of_mem _ hmem⟩
    | @leave place inner outer store hi hl hinc hfails =>
      refine ⟨hne, fun _ => ?_⟩
      rw [hl, List.mem_cons] at hmem
      rcases hmem with rfl | hmem
      · rw [hholds place store hi hinc] at hfails
        cases hfails
      · exact hmem

/-- A loop whose condition holds at every test is never left, so the program does not end. -/
theorem not_finished_of_keepsHolding (hw : WellPaired code) (hnone : config.maxSteps = none)
    (h : Visited code config r) {frame : LoopFrame} (hf : frame ∈ r.loops)
    (hholds : r.KeepsHolding frame) (fuel : Nat) : (r.resume fuel).phase ≠ .finished := by
  have hresume := resume_of_no_limit (r := r) (by rw [h.config_eq, hnone])
  suffices hstays : (r.uncharged.steps fuel).StaysIn frame by
    rw [hresume]
    exact hstays.1
  induction fuel with
  | zero =>
    refine ⟨fun hfin => ?_, fun _ => by rwa [steps, loops_uncharged]⟩
    -- a run that has stopped is in no loop
    rw [steps, phase_uncharged] at hfin
    rw [h.standing.loops (by simp [isRunning, hfin])] at hf
    cases hf
  | succ n ih =>
    rw [steps_succ]
    refine (h.uncharged.steps n).staysIn_step hw ih fun close store hi hinc => ?_
    rw [← hresume] at hi hinc
    exact hholds n close store hi hinc

/-! ## Whole programs -/

/-- In every run of a program whose counters are kept, without a step limit and whatever answers
    it has been given, each call comes to rest: it finishes, waits at a read, or halts because a
    variable cannot be counted up. Where the condition of a loop around it always holds, it does
    not finish. -/
theorem calls_come_to_rest {order : PrintOrder} {source : String} {p : Program}
    (hp : Program.parse order source = .ok p) (hk : CountersKept p.code) {marker : String} {r : Run}
    (hr : Visited p.code ⟨none, marker⟩ r) :
    (∃ fuel, (r.resume fuel).AtRest) ∧
      (r.pending? ≠ none → ∀ raw, ∃ fuel next, r.answer fuel raw = .ok next ∧ next.AtRest) ∧
      ∀ frame ∈ r.loops, r.KeepsHolding frame →
        ∃ fuel, (r.resume fuel).AtRest ∧ (r.resume fuel).phase ≠ .finished := by
  have hw := wellPaired_of_parse hp
  have hstart := rests_start hp hk marker
  refine ⟨hr.exists_resume hw rfl hstart, fun hpending raw => ?_, fun frame hf hholds => ?_⟩
  · obtain ⟨read, hread⟩ := Option.ne_none_iff_exists'.mp hpending
    have haccept := hr.accept raw (pending?_eq_some_iff.mp hread)
    obtain ⟨fuel, hrest⟩ := haccept.exists_resume hw rfl hstart
    exact ⟨fuel, _, answer_of_pending hread fuel raw, hrest⟩
  · obtain ⟨fuel, hrest⟩ := hr.exists_resume hw rfl hstart
    exact ⟨fuel, hrest, not_finished_of_keepsHolding hw rfl hr hf hholds fuel⟩

/-- A loop whose condition always holds, with a read in its body that can set its variable, and a
    loop in it that also counts the variable up. -/
def endlessSource : String :=
  "int main() \x7b for (int i = 0; 0 < 1; i++) \x7b for (int j = 0; j < 2; i++) \x7b cin >> j; " ++
    "\x7d cin >> i; \x7d \x7d"

theorem calls_come_to_rest_endless :
    ∃ p r, Program.parse .source endlessSource = .ok p ∧ CountersKept p.code ∧
      Visited p.code ⟨none, "?"⟩ r ∧ r.loops.map LoopFrame.start = [1, 0] ∧ r.pending? ≠ none ∧
      ∃ fuel next, r.answer fuel "2" = .ok next ∧ next.AtRest := by
  have hrun : (match Program.parse .source endlessSource with
      | .ok p =>
        let r := (start p.code ⟨none, "?"⟩).resume 3
        decide (CountersKept p.code) && r.loops.map LoopFrame.start == [1, 0] && r.pending?.isSome
      | .error _ => false) = true := by decide +kernel
  cases hp : Program.parse .source endlessSource with
  | error e => simp [hp] at hrun
  | ok p =>
    simp only [hp, Bool.and_eq_true, beq_iff_eq, decide_eq_true_eq] at hrun
    obtain ⟨⟨hk, hl⟩, hpending⟩ := hrun
    have hv : Visited p.code ⟨none, "?"⟩ ((start p.code ⟨none, "?"⟩).resume 3) :=
      Visited.start.resume 3
    have hwaits := Option.isSome_iff_ne_none.mp hpending
    exact ⟨p, _, rfl, hk, hv, hl, hwaits, (calls_come_to_rest hp hk hv).2.1 hwaits "2"⟩

end Run

end ConsoleLab
