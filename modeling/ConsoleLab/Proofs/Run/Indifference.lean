/-
  ConsoleLab.Proofs.Run.Indifference — what a run shows does not decide how it goes on.

  Two runs are `Related` if they stand at the same place of the same code, the parts of its
  prints apart, and loops see the same numbers in their stores (`Store.SameNumbers`): what
  they have printed, what they print for a missing variable and how a number is spelled may
  differ. A loop asks a store for numbers only (`satisfies_eq`, `increment_sameNumbers`), so
  related runs keep step (`InStep.step`). Main fact: `related_calls`, each call of two
  related runs returns for both or for neither, hands back the same and leads to related
  runs again.
-/

import ConsoleLab.Proofs.Run.Report
import ConsoleLab.Proofs.Run.Visited

namespace ConsoleLab

open Source (Location)

/-! ## What is compared -/

inductive FaultKind
  | loopMismatch
  | nonNumericIncrement (name : String)
  | overflow (name : String)
  | stepLimit (limit : Nat)
  deriving DecidableEq

def Fault.kind : Fault → FaultKind
  | .loopMismatch => .loopMismatch
  | .nonNumericIncrement name _ => .nonNumericIncrement name
  | .overflow name => .overflow name
  | .stepLimit limit => .stepLimit limit

def Action.withoutParts : Action → Action
  | .perform (.print _) => .perform (.print [])
  | a => a

def Instruction.withoutParts (i : Instruction) : Instruction :=
  ⟨i.action.withoutParts, i.place⟩

def Store.SameNumbers (s s' : Store) : Prop :=
  ∀ name, s.numberOf? name = s'.numberOf? name

namespace Run

/-- Two runs that loops cannot tell apart. -/
structure Related (r r' : Run) : Prop where
  /-- The code is the same but for what is printed. -/
  code : r.code.map Instruction.withoutParts = r'.code.map Instruction.withoutParts
  limit : r.config.maxSteps = r'.config.maxSteps
  pc : r.pc = r'.pc
  numbers : r.store.SameNumbers r'.store
  loops : r.loops = r'.loops
  status : r.status? = r'.status?
  pending : r.pending? = r'.pending?
  place : r.place = r'.place

def faultKind? (r : Run) : Option FaultKind :=
  match r.phase with
  | .halted fault => some fault.kind
  | _ => none

/-- Two answers to the same text: both are refused for the same reason, or both are taken, with
    the same word, related runs and no fault of different kinds. -/
inductive SameAnswer :
    Except AnswerError (Option Status × Run) → Except AnswerError (Option Status × Run) → Prop
  | refused (e : AnswerError) : SameAnswer (.error e) (.error e)
  | taken {word : Option Status} {next next' : Run} : Related next next' →
      next.faultKind? = next'.faultKind? → SameAnswer (.ok (word, next)) (.ok (word, next'))

end Run

/-! ## Stores in which loops see the same numbers -/

namespace Store

variable {s s' : Store}

theorem numberOf?_set (s : Store) (name other : String) (value : Value) :
    (s.set name value).numberOf? other =
      if other = name then value.number? else s.numberOf? other := by
  by_cases h : other = name
  · simp only [numberOf?, get?_set, if_pos h]
  · simp only [numberOf?, get?_set, if_neg h]

theorem SameNumbers.set (h : s.SameNumbers s') (name : String) (value : Value) :
    (s.set name value).SameNumbers (s'.set name value) := by
  intro other
  rw [numberOf?_set, numberOf?_set, h other]

theorem SameNumbers.scan (h : s.SameNumbers s') (names : List String) (hints : List ScanHint)
    (pieces : List String) : (s.scan names hints pieces).SameNumbers (s'.scan names hints pieces) := by
  unfold Store.scan
  induction (names.zip hints).zip pieces generalizing s s' with
  | nil => exact h
  | cons entry rest ih => exact ih (h.set _ _)

theorem operand?_eq (h : s.SameNumbers s') (operand : Loop.Operand) :
    s.operand? operand = s'.operand? operand := by
  cases operand with
  | var name => exact h name
  | lit value => rfl

theorem satisfies_eq (h : s.SameNumbers s') (c : Loop.Condition) :
    s.satisfies c = s'.satisfies c := by
  unfold satisfies
  rw [operand?_eq h c.left, operand?_eq h c.right]

/-- Counting up looks at the number of its variable. -/
theorem increment_eq (s : Store) (name : String) :
    s.increment name =
      match s.numberOf? name with
      | none => .error (.nonNumericIncrement name (((s.get? name).map Value.display).getD ""))
      | some n =>
        if n = Int64.maxValue then .error (.overflow name) else .ok (s.set name (.int (n + 1))) := by
  unfold increment numberOf?
  cases s.get? name with
  | none => rfl
  | some value =>
    dsimp only
    cases value.number? with
    | none => rfl
    | some n => rfl

inductive SameIncrement : Except Fault Store → Except Fault Store → Prop
  | ok {t t' : Store} : t.SameNumbers t' → SameIncrement (.ok t) (.ok t')
  | error {fault fault' : Fault} : fault.kind = fault'.kind →
      SameIncrement (.error fault) (.error fault')

theorem increment_sameNumbers (h : s.SameNumbers s') (name : String) :
    SameIncrement (s.increment name) (s'.increment name) := by
  rw [increment_eq, increment_eq, h name]
  cases s'.numberOf? name with
  | none => exact .error rfl
  | some n =>
    dsimp only
    by_cases hmax : n = Int64.maxValue
    · rw [if_pos hmax, if_pos hmax]
      exact .error rfl
    · rw [if_neg hmax, if_neg hmax]
      exact .ok (h.set _ _)

end Store

namespace Run

variable {r r' : Run}

/-! ## The same place of the same code -/

theorem isReady_eq_of_status (h : r.status? = r'.status?) : r.isReady = r'.isReady := by
  rw [Bool.eq_iff_iff, ← status?_eq_none_iff, ← status?_eq_none_iff, h]

theorem Related.symm (h : Related r r') : Related r' r where
  code := h.code.symm
  limit := h.limit.symm
  pc := h.pc.symm
  numbers name := (h.numbers name).symm
  loops := h.loops.symm
  status := h.status.symm
  pending := h.pending.symm
  place := h.place.symm

theorem Related.isReady_eq (h : Related r r') : r.isReady = r'.isReady :=
  isReady_eq_of_status h.status

/-- Related runs have reached the same instruction, but for what it prints. -/
theorem Related.instruction (h : Related r r') :
    (r.code[r.pc]?).map Instruction.withoutParts = (r'.code[r'.pc]?).map Instruction.withoutParts := by
  rw [← Array.getElem?_map, ← Array.getElem?_map, h.code, h.pc]

theorem readOf?_withoutParts (a : Action) : readOf? a.withoutParts = readOf? a := by
  unfold Action.withoutParts
  split <;> rfl

/-- Two actions that are the same without their parts are the same or both prints. -/
theorem action_cases {a a' : Action} (h : a.withoutParts = a'.withoutParts) :
    a = a' ∨ ∃ parts parts', a = .perform (.print parts) ∧ a' = .perform (.print parts') := by
  unfold Action.withoutParts at h
  split at h
  · split at h
    · exact Or.inr ⟨_, _, rfl, rfl⟩
    · exact Or.inr ⟨_, [], rfl, h.symm⟩
  · split at h
    · exact Or.inr ⟨[], _, h, rfl⟩
    · exact Or.inl h

/-! ## One step -/

/-- Related runs with as much charged to them, neither halted or both for the same kind of
    reason. -/
structure InStep (r r' : Run) : Prop extends Related r r' where
  charged : r.charged = r'.charged
  faultKind : r.faultKind? = r'.faultKind?

inductive SameOutcome : Except Fault Run → Except Fault Run → Prop
  | ok {next next' : Run} : InStep next next' → SameOutcome (.ok next) (.ok next')
  | error {fault fault' : Fault} : fault.kind = fault'.kind →
      SameOutcome (.error fault) (.error fault')

theorem faultKind?_of_running (h : r.isRunning = true) : r.faultKind? = none := by
  unfold isRunning at h
  unfold faultKind?
  split at h
  · rename_i hp
    rw [hp]
  · rename_i hp
    rw [hp]
  · cases h
  · cases h

theorem isRunning_eq_of_status (h : r.status? = r'.status?) : r.isRunning = r'.isRunning := by
  unfold status? at h
  unfold isRunning
  cases hp : r.phase <;> cases hp' : r'.phase <;> simp_all

theorem Related.inStep (h : Related r r') (hr : r.isRunning = true) (hc : r.charged = r'.charged) :
    InStep r r' where
  toRelated := h
  charged := hc
  faultKind := by
    rw [faultKind?_of_running hr, faultKind?_of_running (isRunning_eq_of_status h.status ▸ hr)]

namespace InStep

theorem charge (h : InStep r r') {i i' : Instruction} (hp : i.place = i'.place) :
    InStep (r.charge i) (r'.charge i') :=
  { h with place := hp, charged := congrArg (· + 1) h.charged }

theorem halt (h : InStep r r') {fault fault' : Fault} (hf : fault.kind = fault'.kind) :
    InStep (r.halt fault) (r'.halt fault') :=
  { h with
    loops := rfl
    status := rfl
    pending := rfl
    faultKind := congrArg some hf }

theorem finish (h : InStep r r') : InStep r.finish r'.finish :=
  { h with
    loops := rfl
    status := rfl
    pending := rfl
    faultKind := rfl }

theorem wait (h : InStep r r') {i i' : Instruction} (hp : i.place = i'.place)
    (read : PendingRead) :
    InStep { r with place := i.place, phase := .waiting read }
      { r' with place := i'.place, phase := .waiting read } :=
  { h with
    status := rfl
    pending := rfl
    place := hp
    faultKind := rfl }

theorem print (h : InStep r r') (parts parts' : List PrintPart) :
    InStep (r.print parts) (r'.print parts') :=
  { h with pc := congrArg (· + 1) h.pc }

theorem enterLoop (h : InStep r r') (header : Loop.Header) (stop : Nat) :
    InStep (r.enterLoop header stop) (r'.enterLoop header stop) := by
  have hset := h.numbers.set header.initName (.int header.initValue)
  unfold Run.enterLoop
  dsimp only
  rw [Store.satisfies_eq hset]
  split
  · exact { h with
      pc := congrArg (· + 1) h.pc
      numbers := hset
      loops := by rw [h.pc, h.loops] }
  · exact { h with pc := rfl, numbers := hset }

theorem endPass (h : InStep r r') (start : Nat) :
    SameOutcome (r.endPass start) (r'.endPass start) := by
  unfold Run.endPass
  rw [← h.loops]
  cases hl : r.loops with
  | nil => exact .error rfl
  | cons frame outer =>
    dsimp only
    by_cases hs : frame.start = start
    · rw [if_pos hs, if_pos hs]
      have hinc := Store.increment_sameNumbers h.numbers frame.stepName
      generalize r.store.increment frame.stepName = result at hinc
      generalize r'.store.increment frame.stepName = result' at hinc
      cases hinc with
      | error hf => exact .error hf
      | @ok t t' ht =>
        dsimp only
        rw [Store.satisfies_eq ht]
        split
        · exact .ok { h with pc := rfl, numbers := ht, loops := rfl }
        · exact .ok { h with pc := congrArg (· + 1) h.pc, numbers := ht, loops := rfl }
    · rw [if_neg hs, if_neg hs]
      exact .error rfl

/-- Actions that differ in what they print lead to related runs. -/
theorem perform (h : InStep r r') {a a' : Action} (ha : a.withoutParts = a'.withoutParts) :
    SameOutcome (r.perform a) (r'.perform a') := by
  rcases action_cases ha with rfl | ⟨parts, parts', rfl, rfl⟩
  · cases a with
    | perform what =>
      cases what with
      | print parts => exact .ok (h.print parts parts)
      | read | scan => exact .ok h
    | loopStart header stop => exact .ok (h.enterLoop header stop)
    | loopEnd start => exact h.endPass start
  · exact .ok (h.print parts parts')

theorem overLimit?_eq (h : InStep r r') : r.overLimit? = r'.overLimit? := by
  unfold Run.overLimit?
  rw [h.limit, h.charged]

theorem execute (h : InStep r r') {a a' : Action} (ha : a.withoutParts = a'.withoutParts) :
    SameOutcome (r.execute a) (r'.execute a') := by
  unfold Run.execute
  rw [h.overLimit?_eq]
  split
  · exact .error rfl
  · exact h.perform ha

theorem reach (h : InStep r r') {i i' : Instruction} (hi : i.withoutParts = i'.withoutParts) :
    InStep (r.reach i) (r'.reach i') := by
  obtain ⟨action, place⟩ := i
  obtain ⟨action', place'⟩ := i'
  obtain ⟨ha, hp⟩ := Instruction.mk.inj hi
  have hread : readOf? action = readOf? action' := by
    rw [← readOf?_withoutParts, ha, readOf?_withoutParts]
  unfold Run.reach
  dsimp only
  rw [hread]
  cases readOf? action' with
  | some read => exact h.wait hp read
  | none =>
    have hcharge : InStep (r.charge ⟨action, place⟩) (r'.charge ⟨action', place'⟩) := h.charge hp
    have hout := hcharge.execute ha
    dsimp only
    generalize (r.charge ⟨action, place⟩).execute action = result at hout
    generalize (r'.charge ⟨action', place'⟩).execute action' = result' at hout
    cases hout with
    | ok hnext => exact hnext
    | error hf => exact hcharge.halt hf

theorem step (h : InStep r r') : InStep r.step r'.step := by
  cases hr : r.isReady with
  | false =>
    rw [step_of_not_ready hr, step_of_not_ready (h.isReady_eq ▸ hr)]
    exact h
  | true =>
    have hr' : r'.isReady = true := h.isReady_eq ▸ hr
    have hinstruction := h.instruction
    unfold Run.step
    rw [if_pos hr, if_pos hr']
    cases hi : r.code[r.pc]? with
    | none =>
      rw [hi, Option.map_none, eq_comm, Option.map_eq_none_iff] at hinstruction
      rw [hinstruction]
      exact h.finish
    | some i =>
      rw [hi, Option.map_some, eq_comm, Option.map_eq_some_iff] at hinstruction
      obtain ⟨i', hi', heq⟩ := hinstruction
      rw [hi']
      exact h.reach heq.symm

theorem steps (h : InStep r r') (n : Nat) : InStep (r.steps n) (r'.steps n) := by
  induction n with
  | zero => exact h
  | succ n ih =>
    rw [steps_succ, steps_succ]
    exact ih.step

end InStep

/-! ## Whole calls -/

/-- Going on leads from related runs to related runs, and they halt for the same kind of reason
    unless they had halted before. -/
theorem Related.resume (h : Related r r') (fuel : Nat) :
    Related (r.resume fuel) (r'.resume fuel) ∧
      (r.isRunning = true → (r.resume fuel).faultKind? = (r'.resume fuel).faultKind?) := by
  cases hr : r.isReady with
  | false =>
    rw [resume_of_not_ready hr, resume_of_not_ready (h.isReady_eq ▸ hr)]
    refine ⟨h, fun hrun => ?_⟩
    rw [faultKind?_of_running hrun, faultKind?_of_running (isRunning_eq_of_status h.status ▸ hrun)]
  | true =>
    have hbudget : r'.budget fuel = r.budget fuel := by simp only [budget, h.limit]
    rw [resume_eq_steps, resume_eq_steps, hbudget, uncharged_of_ready hr,
      uncharged_of_ready (h.isReady_eq ▸ hr)]
    have hrun : r.isRunning = true := by simp [isRunning, isReady_iff.mp hr]
    have hzero : InStep { r with charged := 0 } { r' with charged := 0 } :=
      Related.inStep { h with } hrun rfl
    have hsteps := hzero.steps (r.budget fuel)
    exact ⟨hsteps.toRelated, fun _ => hsteps.faultKind⟩

theorem Related.passRead (h : Related r r') {store store' : Store} (hs : store.SameNumbers store') :
    Related (r.passRead store) (r'.passRead store') :=
  { h with
    pc := congrArg (· + 1) h.pc
    numbers := hs
    status := rfl
    pending := rfl }

/-- The same answer to the same read leads from related runs to related runs. -/
theorem Related.accept (h : Related r r') (read : PendingRead) (answer : String) :
    Related (r.accept read answer) (r'.accept read answer) := by
  have hecho : Related { r with transcript := r.transcript.echo answer }
      { r' with transcript := r'.transcript.echo answer } := { h with }
  cases read with
  | one name mode => exact hecho.passRead (h.numbers.set name _)
  | many names hints =>
    have hscan := h.numbers.scan names hints (answerPieces answer)
    unfold Run.accept
    dsimp only
    split
    · exact { h with numbers := hscan, status := rfl, pending := rfl }
    · exact hecho.passRead hscan

theorem Related.answerReport (h : Related r r') (fuel : Nat) (raw : String) :
    SameAnswer (r.answerReport fuel raw) (r'.answerReport fuel raw) := by
  rw [answerReport_eq, answerReport_eq]
  have hpending := h.pending
  cases hp : r.pending? with
  | none =>
    rw [hp] at hpending
    rw [answer_of_no_pending hp, answer_of_no_pending hpending.symm]
    exact .refused _
  | some read =>
    rw [hp] at hpending
    rw [answer_of_pending hp, answer_of_pending hpending.symm]
    obtain ⟨hnext, hfault⟩ := (h.accept read (Text.trim raw)).resume fuel
    dsimp only [Except.map]
    rw [hnext.status]
    exact .taken hnext (hfault (isRunning_accept _ _ _))

theorem SameAnswer.returns_iff {x x' : Except AnswerError (Option Status × Run)}
    (h : SameAnswer x x') :
    (∃ s next, x = .ok (some s, next)) ↔ ∃ s next, x' = .ok (some s, next) := by
  cases h with
  | refused e => exact Iff.rfl
  | taken => simp

/-- Each call of two related runs hands back the same word and leads to related runs; if it halts
    them, then at the same instruction and with the same kind of fault. Without a step limit a
    call may not return; it returns for both or for neither. -/
theorem related_calls (h : Related r r') :
    (∀ fuel, (r.resumeReport fuel).1 = (r'.resumeReport fuel).1 ∧
      Related (r.resumeReport fuel).2 (r'.resumeReport fuel).2 ∧
      (r.isRunning = true →
        (r.resumeReport fuel).2.faultKind? = (r'.resumeReport fuel).2.faultKind?)) ∧
    (∀ fuel raw, SameAnswer (r.answerReport fuel raw) (r'.answerReport fuel raw)) ∧
    ((∃ fuel s, (r.resumeReport fuel).1 = some s) ↔ ∃ fuel s, (r'.resumeReport fuel).1 = some s) ∧
    ∀ raw, (∃ fuel s next, r.answerReport fuel raw = .ok (some s, next)) ↔
      ∃ fuel s next, r'.answerReport fuel raw = .ok (some s, next) := by
  have hresume : ∀ fuel, (r.resumeReport fuel).1 = (r'.resumeReport fuel).1 ∧
      Related (r.resumeReport fuel).2 (r'.resumeReport fuel).2 ∧
      (r.isRunning = true →
        (r.resumeReport fuel).2.faultKind? = (r'.resumeReport fuel).2.faultKind?) := by
    intro fuel
    rw [resumeReport_eq, resumeReport_eq]
    obtain ⟨hnext, hfault⟩ := h.resume fuel
    exact ⟨hnext.status, hnext, hfault⟩
  refine ⟨hresume, h.answerReport, ?_, fun raw => ?_⟩
  · exact exists_congr fun fuel => by rw [(hresume fuel).1]
  · exact exists_congr fun fuel => (h.answerReport fuel raw).returns_iff

/-- A loop that prints in its body, counts as far as `n` says and counts `w` up. -/
def countsUpText (parts : List PrintPart) (marker n w : String) : Run :=
  { start #[⟨.loopStart ⟨"i", 0, ⟨.var "i", .lt, .var "n"⟩, "w"⟩ 2, ⟨2, 3⟩⟩,
      ⟨.perform (.print parts), ⟨3, 5⟩⟩, ⟨.loopEnd 0, ⟨4, 3⟩⟩] ⟨some 9, marker⟩ with
    store := (Store.empty.set "n" (.text n)).set "w" (.text w) }

theorem related_calls_countsUpText :
    let r := countsUpText [.var "x"] "?" " 07 " "abc"
    let r' := countsUpText [.literal "x", .newline] "!" "+7" "xyz"
    Related r r' ∧ Related (r.resumeReport 0).2 (r'.resumeReport 0).2 ∧
      (r.resumeReport 0).2.faultKind? = some (.nonNumericIncrement "w") ∧
      (r'.resumeReport 0).2.faultKind? = some (.nonNumericIncrement "w") ∧
      (r.resumeReport 0).2.phase ≠ (r'.resumeReport 0).2.phase := by
  intro r r'
  have h : Related r r' := {
    code := by decide +kernel
    limit := rfl
    pc := rfl
    numbers := by
      intro name
      have hn : (Value.text " 07 ").number? = (Value.text "+7").number? := by decide +kernel
      have hw : (Value.text "abc").number? = (Value.text "xyz").number? := by decide +kernel
      simp only [r, r', countsUpText, Store.numberOf?_set, hn, hw]
    loops := rfl
    status := rfl
    pending := rfl
    place := rfl }
  have hkind : (r.resumeReport 0).2.faultKind? = some (.nonNumericIncrement "w") := by
    decide +kernel
  have hsame := ((related_calls h).1 0).2.2 rfl
  exact ⟨h, ((related_calls h).1 0).2.1, hkind, hsame ▸ hkind, by decide +kernel⟩

end Run

end ConsoleLab
