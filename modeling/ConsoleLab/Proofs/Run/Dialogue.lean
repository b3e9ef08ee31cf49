/-
  ConsoleLab.Proofs.Run.Dialogue — a run with the answers it has not taken yet.

  A dialogue moves in ticks: an instruction of a run that can go on, or an answer to a run
  that waits (`tick`). It is settled when the run has stopped, or waits and there is no
  answer left. Giving the answers one after the other, each as soon as the run waits for
  it (`Run.feed`), leads to the same settled dialogues as ticks do (`exists_feed_iff`).
-/

import ConsoleLab.Proofs.Run.Visited
import Mathlib.Logic.Function.Iterate

namespace ConsoleLab

structure Dialogue where
  run : Run
  answers : List String
  deriving DecidableEq

def Run.feed (fuel : Nat) (r : Run) : List String → Dialogue
  | [] => ⟨r, []⟩
  | raw :: rest =>
    match r.answer fuel raw with
    | .ok next => next.feed fuel rest
    | .error _ => ⟨r, raw :: rest⟩

namespace Dialogue

def tick (d : Dialogue) : Dialogue :=
  match d.run.phase, d.answers with
  | .ready, answers => ⟨d.run.step, answers⟩
  | .waiting read, raw :: rest => ⟨(d.run.accept read (Text.trim raw)).uncharged, rest⟩
  | _, _ => d

/-- Nothing more can happen: the run has stopped, or waits for an answer that is not there. -/
def Settled (d : Dialogue) : Prop :=
  d.run.isReady = false ∧ ∀ read, d.run.phase = .waiting read → d.answers = []

theorem tick_of_ready {d : Dialogue} (h : d.run.isReady = true) :
    d.tick = ⟨d.run.step, d.answers⟩ := by
  simp [tick, Run.isReady_iff.mp h]

theorem tick_of_waiting {r : Run} {read : PendingRead} (h : r.phase = .waiting read)
    (raw : String) (rest : List String) :
    tick ⟨r, raw :: rest⟩ = ⟨(r.accept read (Text.trim raw)).uncharged, rest⟩ := by
  simp [tick, h]

/-- As long as something can happen, the run can go on or there is an answer that it waits for. -/
theorem ready_or_waiting {d : Dialogue} (h : ¬ d.Settled) : d.run.isReady = true ∨
    ∃ read raw rest, d.run.phase = .waiting read ∧ d.answers = raw :: rest := by
  cases hr : d.run.isReady with
  | true => exact Or.inl rfl
  | false =>
    refine Or.inr ?_
    by_contra hnone
    refine h ⟨hr, fun read hp => ?_⟩
    cases ha : d.answers with
    | nil => rfl
    | cons raw rest => exact absurd ⟨read, raw, rest, hp, ha⟩ hnone

theorem tick_of_settled {d : Dialogue} (h : d.Settled) : d.tick = d := by
  obtain ⟨r, answers⟩ := d
  obtain ⟨hr, hw⟩ := h
  unfold tick
  cases hp : r.phase with
  | ready => rw [Run.isReady_iff.mpr hp] at hr; cases hr
  | waiting read =>
    obtain rfl : answers = [] := hw read hp
    rfl
  | finished | halted => rfl

theorem ticks_of_settled {d : Dialogue} {n m : Nat} (h : (tick^[n] d).Settled) (hle : n ≤ m) :
    tick^[m] d = tick^[n] d := by
  obtain ⟨k, rfl⟩ := Nat.exists_eq_add_of_le' hle
  rw [Function.iterate_add_apply]
  exact Function.iterate_fixed (tick_of_settled h) k

/-- A dialogue settles in one way only. -/
theorem ticks_eq_of_settled {d : Dialogue} {n m : Nat} (hn : (tick^[n] d).Settled)
    (hm : (tick^[m] d).Settled) : tick^[n] d = tick^[m] d := by
  rcases Nat.le_total n m with hle | hle
  · exact (ticks_of_settled hn hle).symm
  · exact ticks_of_settled hm hle

theorem exists_settled_tick {d : Dialogue} (h : ∃ n, (tick^[n] d).Settled) :
    ∃ n, (tick^[n] d.tick).Settled := by
  obtain ⟨n, hs⟩ := h
  refine ⟨n, ?_⟩
  rwa [← Function.iterate_succ_apply, Function.iterate_succ_apply', tick_of_settled hs]

theorem ticks_nil (r : Run) (n : Nat) : tick^[n] ⟨r, []⟩ = ⟨r.steps n, []⟩ := by
  induction n with
  | zero => rfl
  | succ n ih =>
    rw [Function.iterate_succ_apply', ih, Run.steps_succ]
    cases hr : (r.steps n).isReady with
    | true => rw [tick_of_ready hr]
    | false => rw [tick_of_settled ⟨hr, fun _ _ => rfl⟩, Run.step_of_not_ready hr]

/-! ## Ticks and calls -/

/-- The steps of a run are ticks, as many as there were steps if it still can go on. -/
theorem exists_ticks_steps (fuel : Nat) (r : Run) (answers : List String) :
    ∃ n, tick^[n] ⟨r, answers⟩ = ⟨r.steps fuel, answers⟩ ∧
      ((r.steps fuel).isReady = true → n = fuel) := by
  induction fuel generalizing r with
  | zero => exact ⟨0, rfl, fun _ => rfl⟩
  | succ fuel ih =>
    cases h : r.isReady with
    | true =>
      obtain ⟨n, hn, hready⟩ := ih r.step
      have hsteps : r.steps (fuel + 1) = r.step.steps fuel := by simp [Run.steps, h]
      refine ⟨n + 1, ?_, fun hr => ?_⟩
      · rw [Function.iterate_succ_apply, tick_of_ready h, hn, hsteps]
      · rw [hready (by rw [← hsteps, hr])]
    | false =>
      rw [Run.steps_of_not_ready h]
      exact ⟨0, rfl, fun hr => by rw [h] at hr; cases hr⟩

variable {fuel : Nat} {r : Run}

theorem answer_of_waiting (hnone : r.config.maxSteps = none) {read : PendingRead}
    (h : r.phase = .waiting read) (raw : String) :
    r.answer fuel raw = .ok ((r.accept read (Text.trim raw)).uncharged.steps fuel) := by
  simp only [Run.answer, h, Run.resume, Run.config_accept, hnone]

theorem answer_of_not_waiting (h : ∀ read, r.phase ≠ .waiting read) (raw : String) :
    r.answer fuel raw = .error .notWaiting := by
  have hnone : r.pending? = none :=
    Option.eq_none_iff_forall_ne_some.mpr fun read hp => h read (Run.pending?_eq_some_iff.mp hp)
  exact Run.answer_of_no_pending hnone fuel raw

/-- Giving the answers is a number of ticks, and not less than `fuel` of them if the run still
    can go on. -/
theorem exists_ticks_feed (fuel : Nat) (hnone : r.config.maxSteps = none) (answers : List String) :
    ∃ n, tick^[n] ⟨r, answers⟩ = (r.steps fuel).feed fuel answers ∧
      (((r.steps fuel).feed fuel answers).run.isReady = true → fuel ≤ n) := by
  induction answers generalizing r with
  | nil =>
    obtain ⟨n, hn, hready⟩ := exists_ticks_steps fuel r []
    exact ⟨n, hn, fun h => Nat.le_of_eq (hready h).symm⟩
  | cons raw rest ih =>
    obtain ⟨n, hn, hready⟩ := exists_ticks_steps fuel r (raw :: rest)
    by_cases hw : ∃ read, (r.steps fuel).phase = .waiting read
    · obtain ⟨read, hw⟩ := hw
      have hconfig : (r.steps fuel).config.maxSteps = none := by rw [Run.config_steps, hnone]
      obtain ⟨m, hm, hready'⟩ :=
        ih (r := ((r.steps fuel).accept read (Text.trim raw)).uncharged)
          (by rw [Run.config_uncharged, Run.config_accept, hconfig])
      have hfeed : (r.steps fuel).feed fuel (raw :: rest) =
          ((((r.steps fuel).accept read (Text.trim raw)).uncharged).steps fuel).feed fuel rest := by
        simp only [Run.feed, answer_of_waiting hconfig hw]
      rw [hfeed]
      refine ⟨m + (n + 1), ?_, fun h => Nat.le_trans (hready' h) (Nat.le_add_right _ _)⟩
      rw [Function.iterate_add_apply, Function.iterate_succ_apply', hn, tick_of_waiting hw, hm]
    · have hfeed : (r.steps fuel).feed fuel (raw :: rest) = ⟨r.steps fuel, raw :: rest⟩ := by
        simp only [Run.feed, answer_of_not_waiting fun read h => hw ⟨read, h⟩]
      rw [hfeed]
      exact ⟨n, hn, fun h => Nat.le_of_eq (hready h).symm⟩

theorem settled_feed {answers : List String} (h : (r.feed fuel answers).run.isReady = false) :
    (r.feed fuel answers).Settled := by
  induction answers generalizing r with
  | nil => exact ⟨h, fun _ _ => rfl⟩
  | cons raw rest ih =>
    unfold Run.feed at h ⊢
    cases ha : r.answer fuel raw with
    | ok next =>
      simp only [ha] at h ⊢
      exact ih h
    | error e =>
      simp only [ha] at h ⊢
      refine ⟨h, fun read hw => ?_⟩
      have hphase : r.phase = .waiting read := hw
      simp [Run.answer, hphase] at ha

/-- Ticks and calls lead to the same settled dialogues. -/
theorem exists_feed_iff (hnone : r.config.maxSteps = none) (answers : List String)
    {P : Dialogue → Prop} (hP : ∀ d, P d → d.Settled) :
    (∃ n, P (tick^[n] ⟨r, answers⟩)) ↔ ∃ fuel, P ((r.steps fuel).feed fuel answers) := by
  constructor
  · intro hex
    obtain ⟨m, hm⟩ := hex
    obtain ⟨n, hn, hready⟩ := exists_ticks_feed m hnone answers
    have hrest : ((r.steps m).feed m answers).run.isReady = false := by
      cases h : ((r.steps m).feed m answers).run.isReady with
      | false => rfl
      | true =>
        have hle := hready h
        rw [← hn, ticks_of_settled (hP _ hm) hle, (hP _ hm).1] at h
        cases h
    have hsettled := settled_feed hrest
    refine ⟨m, ?_⟩
    rw [← hn] at hsettled ⊢
    rwa [ticks_eq_of_settled hsettled (hP _ hm)]
  · intro hex
    obtain ⟨fuel, h⟩ := hex
    obtain ⟨n, hn, -⟩ := exists_ticks_feed fuel hnone answers
    exact ⟨n, by rwa [hn]⟩

end Dialogue

end ConsoleLab
