/-
  ConsoleLab.Proofs.Run.CountingLoop — how often a counting loop runs, and at what price.

  A `CountingLoop` is a program that is one loop, which counts a variable up to a bound and only
  prints. `InPass` says all that is known of its run in front of an instruction of the body:
  the pass, the value of the variable, what was charged and what was printed. From one such point
  the run comes to the next (`InPass.print_step`, `InPass.again`), so by induction the run is
  known after each step (`inPass_steps`), and at the end of the last pass it leaves the loop
  (`InPass.leave`) or the variable cannot be counted up any more (`InPass.stuck`). Main fact:
  `counting_loop_exact`, at both ends of the 64-bit numbers.
-/

import ConsoleLab.Proofs.Run.Indifference
import ConsoleLab.Proofs.Run.StepLimit
import ConsoleLab.Proofs.Run.Counting

namespace ConsoleLab

open Source (Location)

namespace Store

theorem assign_assign (name : String) (value value' : Value) (vs : List (String × Value)) :
    assign name value' (assign name value vs) = assign name value' vs := by
  induction vs with
  | nil => grind [assign]
  | cons entry rest ih => grind [assign]

theorem set_set (s : Store) (name : String) (value value' : Value) :
    (s.set name value).set name value' = s.set name value' :=
  congrArg Store.mk (assign_assign name value value' s.bindings)

end Store

namespace Run

/-! ## Steps within the limit -/

/-- An instruction that is no read and that may still be charged is carried out. -/
theorem step_of_room {r : Run} {i : Instruction} (hr : r.isReady = true)
    (hi : r.code[r.pc]? = some i) (hread : readOf? i.action = none)
    (hroom : ∀ limit ∈ r.config.maxSteps, r.charged < limit) :
    r.step = match (r.charge i).perform i.action with
      | .ok next => next
      | .error fault => (r.charge i).halt fault := by
  have hfree : (r.charge i).overLimit? = none := by
    rcases overLimit?_charge r i with hfree | ⟨limit, hl, hle, -⟩
    · exact hfree
    · have hlt := hroom limit hl
      omega
  rw [step_of_instruction hr hi]
  cases hp : (r.charge i).perform i.action with
  | ok next => simp only [reach, hread, execute, hfree, hp]
  | error fault => simp only [reach, hread, execute, hfree, hp]

/-- A run whose like without a limit charges more than `n` before it comes to rest is stopped by
    the limit `n`. -/
theorem halted_of_over_limit {u : Run} {n : Nat} (hnone : u.config.maxSteps = none)
    (hzero : u.charged = 0)
    (hover : ∀ (m : Nat), (u.steps m).isReady = false → n < (u.steps m).charged) :
    ((u.withLimit (some n)).steps (n + 1)).phase = .halted (.stepLimit n) := by
  obtain ⟨hready, hused, i, hi, hread⟩ := exists_instruction_over_limit hzero hover
  have hlast : ((u.steps n).withLimit (some n)).step =
      (((u.steps n).withLimit (some n)).charge i).halt (.stepLimit n) :=
    step_over_limit hready rfl (Nat.le_of_eq hused.symm) hi hread
  rw [steps_succ, steps_withLimit hnone (Nat.le_of_eq hused), hlast]
  rfl

/-! ## What a variable is at some instruction -/

def numberAt? (pc : Nat) (name : String) (r : Run) : Option Int :=
  if r.isReady = true ∧ r.pc = pc then (r.store.numberOf? name).map Int64.toInt else none

/-- The numbers that `name` stands for each time that the run comes to the instruction at `pc`,
    within `m` steps. -/
def numbersAt (pc : Nat) (name : String) (m : Nat) (r : Run) : List Int :=
  (List.range m).filterMap fun t => (r.steps t).numberAt? pc name

theorem numbersAt_add (pc : Nat) (name : String) (m k : Nat) (r : Run) :
    r.numbersAt pc name (m + k) = r.numbersAt pc name m ++ (r.steps m).numbersAt pc name k := by
  simp only [numbersAt, List.range_add, List.filterMap_append, List.filterMap_map,
    Function.comp_def, steps_add]

theorem numbersAt_one (pc : Nat) (name : String) (r : Run) :
    r.numbersAt pc name 1 = (r.numberAt? pc name).toList := by
  cases h : r.numberAt? pc name <;> simp [numbersAt, steps, h]

theorem numbersAt_eq_nil {pc m : Nat} {name : String} {r : Run}
    (h : ∀ t < m, (r.steps t).isReady = true → (r.steps t).pc ≠ pc) :
    r.numbersAt pc name m = [] := by
  rw [numbersAt, List.filterMap_eq_nil_iff]
  intro t ht
  exact if_neg fun hat => h t (List.mem_range.mp ht) hat.1 hat.2

end Run

/-! ## The loop -/

/-- A program that is one loop, which counts a variable up to a bound and only prints. -/
structure CountingLoop where
  name : String
  first : Int64
  /-- Whether the bound is counted too, so that the condition is `<=` and not `<`. -/
  inclusive : Bool
  bound : Loop.Operand
  body : List (List PrintPart × Location)
  place : Location
  close : Location

namespace CountingLoop

section

variable (l : CountingLoop)

def condition : Loop.Condition :=
  ⟨.var l.name, if l.inclusive then .le else .lt, l.bound⟩

def header : Loop.Header :=
  ⟨l.name, l.first, l.condition, l.name⟩

def code : Array Instruction :=
  (⟨.loopStart l.header (l.body.length + 1), l.place⟩ ::
    (l.body.map (fun print => ⟨.perform (.print print.1), print.2⟩) ++
      [⟨.loopEnd 0, l.close⟩])).toArray

/-- How often the body runs in C, where the bound is `b`. -/
def passes (b : Int64) : Nat :=
  (b.toInt - l.first.toInt + if l.inclusive then 1 else 0).toNat

/-- What is charged for `n` passes: the start of the loop, and in each pass the body and the end of
    the loop. -/
def price (n : Nat) : Nat :=
  1 + n * (l.body.length + 1)

def cost (b : Int64) : Nat :=
  l.price (l.passes b)

def CanPay (b : Int64) (r : Run) : Prop :=
  ∀ limit ∈ r.config.maxSteps, l.cost b ≤ limit

def valueIn (i : Nat) : Int64 :=
  .ofInt (l.first.toInt + i)

def storeIn (r₀ : Run) (i : Nat) : Store :=
  r₀.store.set l.name (.int (l.valueIn i))

def shown (r₀ : Run) (i : Nat) (prints : List (List PrintPart × Location)) : String :=
  String.join (prints.map fun print =>
    (l.storeIn r₀ i).printText r₀.config.undefinedMarker print.1)

def output (r₀ : Run) (n : Nat) : String :=
  String.join ((List.range n).map fun i => l.shown r₀ i l.body)

structure Starts (b : Int64) (r : Run) : Prop where
  ready : r.isReady = true
  code : r.code = l.code
  pc : r.pc = 0
  bound_ne : l.bound ≠ .var l.name
  bound : r.store.operand? l.bound = some b

/-- The run that started from `r₀` stands in the pass `i` before the instruction `j` of the body,
    or before the end of the loop if there are no more than `j`. -/
structure InPass (r₀ : Run) (i j : Nat) (r : Run) : Prop where
  ready : r.isReady = true
  code : r.code = l.code
  config : r.config = r₀.config
  pc : r.pc = j + 1
  store : r.store = l.storeIn r₀ i
  loops : ∃ outer, r.loops = ⟨0, 0 + 1, l.condition, l.name⟩ :: outer
  charged : r.charged = l.price i + j
  programText : r.transcript.programText =
    r₀.transcript.programText ++ l.output r₀ i ++ l.shown r₀ i (l.body.take j)

structure Passed (r₀ : Run) (n : Nat) (r : Run) : Prop where
  ready : r.isReady = true
  code : r.code = l.code
  pc : r.pc = l.body.length + 2
  store : r.store = l.storeIn r₀ n
  charged : r.charged = l.price n
  programText : r.transcript.programText = r₀.transcript.programText ++ l.output r₀ n

/-- In the run from `r` the body runs `n` times: each of its instructions, and the end of the loop,
    meets the variable at one number after the other, from the first one on, and at no more. -/
def BodyRuns (r : Run) (n : Nat) : Prop :=
  ∀ j ≤ l.body.length, ∀ m, l.price n ≤ m →
    r.uncharged.numbersAt (j + 1) l.name m =
      (List.range n).map fun (i : Nat) => l.first.toInt + i

/-- The run that started from `r₀` is over after `n` passes, with everything charged. -/
structure Over (r₀ : Run) (n : Nat) (phase : Phase) (value : Int64) (r : Run) : Prop where
  phase : r.phase = phase
  store : r.store = r₀.store.set l.name (.int value)
  charged : r.charged = l.price n
  programText : r.transcript.programText = r₀.transcript.programText ++ l.output r₀ n

end

variable {l : CountingLoop} {b : Int64} {r₀ r : Run} {i j n : Nat}

/-! ## The instructions and the values -/

theorem code_start : l.code[0]? = some ⟨.loopStart l.header (l.body.length + 1), l.place⟩ := rfl

theorem code_print (hj : j < l.body.length) :
    l.code[j + 1]? = some ⟨.perform (.print l.body[j].1), l.body[j].2⟩ := by
  simp [code, List.getElem?_append_left, hj]

theorem code_end : l.code[l.body.length + 1]? = some ⟨.loopEnd 0, l.close⟩ := by
  simp [code]

theorem code_behind : l.code[l.body.length + 2]? = none := by
  simp [code]

theorem price_succ (n : Nat) : l.price (n + 1) = l.price n + l.body.length + 1 := by
  rw [price, price, Nat.add_mul]
  omega

/-- Without a pass only the start of the loop is charged. -/
theorem steps_price_zero : r₀.steps (l.price 0) = r₀.step := by
  rw [price, Nat.zero_mul, Run.steps_succ]
  rfl

theorem valueIn_zero : l.valueIn 0 = l.first := by
  simp [valueIn]

theorem storeIn_zero : l.storeIn r₀ 0 = r₀.store.set l.name (.int l.first) := by
  rw [storeIn, valueIn_zero]

theorem valueIn_succ (i : Nat) : l.valueIn (i + 1) = l.valueIn i + 1 := by
  have hone : (1 : Int64) = .ofInt 1 := rfl
  rw [valueIn, valueIn, hone, ← Int64.ofInt_add, Int.natCast_add, Int.add_assoc]
  rfl

theorem numberOf?_storeIn (r₀ : Run) (i : Nat) :
    (l.storeIn r₀ i).numberOf? l.name = some (l.valueIn i) := by
  rw [storeIn, Store.numberOf?_set, if_pos rfl]
  rfl

/-- As long as the numbers do not end, counting is exact. -/
theorem toInt_valueIn (h : l.first.toInt + i ≤ Int64.maxValue.toInt) :
    (l.valueIn i).toInt = l.first.toInt + i := by
  have hle := Int64.le_toInt l.first
  rw [Int64.toInt_maxValue] at h
  exact Int64.toInt_ofInt_of_le (by omega) (by omega)

theorem valueIn_ne_max (h : l.first.toInt + (i + 1 : Nat) ≤ Int64.maxValue.toInt) :
    l.valueIn i ≠ Int64.maxValue := by
  intro heq
  have hint : (l.valueIn i).toInt = l.first.toInt + i := toInt_valueIn (by omega)
  rw [heq] at hint
  omega

/-- The condition holds in each pass and not behind the last one. -/
theorem satisfies_iff (h : l.Starts b r₀) (hi : l.first.toInt + i ≤ Int64.maxValue.toInt) :
    (l.storeIn r₀ i).satisfies l.condition = true ↔ i < l.passes b := by
  have hleft : (l.storeIn r₀ i).operand? (.var l.name) = some (l.valueIn i) :=
    numberOf?_storeIn r₀ i
  have hright : (l.storeIn r₀ i).operand? l.bound = some b := by
    have hne := h.bound_ne
    have hbound := h.bound
    cases hb : l.bound with
    | lit value =>
      rw [hb] at hbound
      exact hbound
    | var name =>
      rw [hb] at hne hbound
      have hname : name ≠ l.name := fun heq => hne (by rw [heq])
      rw [Store.operand?, storeIn, Store.numberOf?_set, if_neg hname]
      exact hbound
  unfold Store.satisfies condition
  simp only [hleft, hright, passes]
  cases l.inclusive with
  | true =>
    simp only [Loop.Comparison.holds, if_true, decide_eq_true_eq, Int64.le_iff_toInt_le,
      toInt_valueIn hi]
    omega
  | false =>
    simp only [Loop.Comparison.holds, Bool.false_eq_true, if_false, decide_eq_true_eq,
      Int64.lt_iff_toInt_lt, toInt_valueIn hi]
    omega

theorem le_max_of_lt_passes (hi : i < l.passes b) :
    l.first.toInt + i ≤ Int64.maxValue.toInt := by
  have hb := Int64.toInt_lt b
  rw [Int64.toInt_maxValue]
  unfold passes at hi
  split at hi <;> omega

/-- Where the last pass is not at the largest number, the variable is a number behind it too. -/
theorem le_max_of_le_passes
    (hends : l.inclusive = false ∨ b < Int64.maxValue ∨ b < l.first) (hi : i ≤ l.passes b) :
    l.first.toInt + i ≤ Int64.maxValue.toInt := by
  have hfirst := Int64.toInt_lt l.first
  have hb := Int64.toInt_lt b
  simp only [Int64.lt_iff_toInt_lt, Int64.toInt_maxValue] at hends ⊢
  unfold passes at hi
  split at hi
  · rename_i hinclusive
    rcases hends with hends | hends | hends
    · rw [hends] at hinclusive
      cases hinclusive
    · omega
    · omega
  · omega

/-! ## The start of the loop -/

section

variable (h : l.Starts b r₀) (hzero : r₀.charged = 0) (hroom : l.CanPay b r₀)

include h hroom hzero

theorem Starts.step_eq : r₀.step =
    (r₀.charge ⟨.loopStart l.header (l.body.length + 1), l.place⟩).enterLoop l.header
      (l.body.length + 1) := by
  have hi : r₀.code[r₀.pc]? = some ⟨.loopStart l.header (l.body.length + 1), l.place⟩ := by
    rw [h.code, h.pc, code_start]
  refine Run.step_of_room h.ready hi rfl fun limit hl => ?_
  have hle := hroom limit hl
  unfold cost price at hle
  omega

theorem Starts.enter (hpass : 0 < l.passes b) : l.InPass r₀ 0 0 r₀.step := by
  have hsat : (l.storeIn r₀ 0).satisfies l.condition = true :=
    (satisfies_iff h (le_max_of_lt_passes hpass)).mpr hpass
  have hstep : r₀.step = { r₀.charge ⟨.loopStart l.header (l.body.length + 1), l.place⟩ with
      store := l.storeIn r₀ 0
      loops := ⟨r₀.pc, r₀.pc + 1, l.condition, l.name⟩ :: r₀.loops
      pc := r₀.pc + 1 } := by
    rw [h.step_eq hzero hroom, Run.enterLoop]
    simp only [header, Run.charge, ← storeIn_zero, hsat, if_true]
  rw [hstep]
  exact {
    ready := h.ready
    code := h.code
    config := rfl
    pc := congrArg (· + 1) h.pc
    store := rfl
    loops := ⟨r₀.loops, by rw [h.pc]⟩
    charged := by simp [Run.charge, hzero, price]
    programText := by simp [Run.charge, output, shown] }

theorem Starts.skip (hnone : l.passes b = 0) : l.Passed r₀ 0 r₀.step := by
  have hfirst : l.first.toInt + (0 : Nat) ≤ Int64.maxValue.toInt := by
    have hlt := Int64.toInt_lt l.first
    rw [Int64.toInt_maxValue]
    omega
  have hsat : (l.storeIn r₀ 0).satisfies l.condition = false := by
    rw [Bool.eq_false_iff, Ne, satisfies_iff h hfirst, hnone]
    exact Nat.lt_irrefl 0
  have hstep : r₀.step = { r₀.charge ⟨.loopStart l.header (l.body.length + 1), l.place⟩ with
      store := l.storeIn r₀ 0
      pc := l.body.length + 1 + 1 } := by
    rw [h.step_eq hzero hroom, Run.enterLoop]
    simp only [header, Run.charge, ← storeIn_zero, hsat, Bool.false_eq_true, if_false]
  rw [hstep]
  exact {
    ready := h.ready
    code := h.code
    pc := rfl
    store := rfl
    charged := by simp [Run.charge, hzero, price]
    programText := by simp [Run.charge, output] }

end

/-! ## A pass -/

theorem shown_take_succ (hj : j < l.body.length) :
    l.shown r₀ i (l.body.take (j + 1)) = l.shown r₀ i (l.body.take j) ++
      (l.storeIn r₀ i).printText r₀.config.undefinedMarker l.body[j].1 := by
  rw [← List.take_append_getElem hj, shown, shown, List.map_append, String.join_append]
  simp

theorem output_succ : l.output r₀ (i + 1) = l.output r₀ i ++ l.shown r₀ i l.body := by
  rw [output, output, List.range_succ, List.map_append, String.join_append]
  simp

/-- Counting up leads to the next pass, up to the largest number. -/
theorem increment_storeIn (r₀ : Run) (i : Nat) :
    (l.storeIn r₀ i).increment l.name =
      if l.valueIn i = Int64.maxValue then .error (.overflow l.name)
      else .ok (l.storeIn r₀ (i + 1)) := by
  have hnext : (l.storeIn r₀ i).set l.name (.int (l.valueIn i + 1)) = l.storeIn r₀ (i + 1) := by
    rw [storeIn, Store.set_set, storeIn, valueIn_succ]
  rw [Store.increment_eq, numberOf?_storeIn]
  dsimp only
  rw [hnext]

/-- At its end a pass has shown all its prints. -/
theorem InPass.programText_end (h : l.InPass r₀ i l.body.length r) :
    r.transcript.programText = r₀.transcript.programText ++ l.output r₀ (i + 1) := by
  rw [h.programText, List.take_length, output_succ, String.append_assoc]

theorem InPass.charged_end (h : l.InPass r₀ i l.body.length r) :
    r.charged + 1 = l.price (i + 1) := by
  rw [h.charged, price_succ]

section

variable (hi : i < l.passes b) (hroom : l.CanPay b r₀)

include hi hroom

/-- What a run charges in its passes is part of the cost. -/
theorem InPass.charged_lt (h : l.InPass r₀ i j r) (hj : j ≤ l.body.length) :
    ∀ limit ∈ r.config.maxSteps, r.charged < limit := by
  intro limit hl
  rw [h.config] at hl
  have hle := hroom limit hl
  have hprice : l.price (i + 1) ≤ l.cost b :=
    Nat.add_le_add_left (Nat.mul_le_mul_right _ hi) 1
  have hcharged := h.charged
  rw [price_succ] at hprice
  omega

theorem InPass.print_step (h : l.InPass r₀ i j r) (hj : j < l.body.length) :
    l.InPass r₀ i (j + 1) r.step := by
  have hcode : r.code[r.pc]? = some ⟨.perform (.print l.body[j].1), l.body[j].2⟩ := by
    rw [h.code, h.pc, code_print hj]
  have hstep : r.step = (r.charge ⟨.perform (.print l.body[j].1), l.body[j].2⟩).print
      l.body[j].1 :=
    Run.step_of_room h.ready hcode rfl (h.charged_lt hi hroom (Nat.le_of_lt hj))
  have hprint : r.store.printText r.config.undefinedMarker l.body[j].1 =
      (l.storeIn r₀ i).printText r₀.config.undefinedMarker l.body[j].1 := by
    rw [h.store, h.config]
  rw [hstep]
  exact {
    ready := h.ready
    code := h.code
    config := h.config
    pc := congrArg (· + 1) h.pc
    store := h.store
    loops := h.loops
    charged := congrArg (· + 1) h.charged
    programText := by
      rw [shown_take_succ hj, ← String.append_assoc, ← h.programText, ← hprint]
      exact Transcript.programText_print _ _ _ }

/-- The end of the loop is reached with its frame on top. -/
theorem InPass.end_step (h : l.InPass r₀ i l.body.length r) :
    r.step = match (r.charge ⟨.loopEnd 0, l.close⟩).endPass 0 with
      | .ok next => next
      | .error fault => (r.charge ⟨.loopEnd 0, l.close⟩).halt fault := by
  have hcode : r.code[r.pc]? = some ⟨.loopEnd 0, l.close⟩ := by
    rw [h.code, h.pc, code_end]
  exact Run.step_of_room h.ready hcode rfl (h.charged_lt hi hroom (Nat.le_refl _))

theorem InPass.again (h : l.InPass r₀ i l.body.length r) (hs : l.Starts b r₀)
    (hnext : i + 1 < l.passes b) : l.InPass r₀ (i + 1) 0 r.step := by
  have hmax := le_max_of_lt_passes hnext
  have hvalue := valueIn_ne_max hmax
  have hsat : (l.storeIn r₀ (i + 1)).satisfies l.condition = true :=
    (satisfies_iff hs hmax).mpr hnext
  obtain ⟨outer, hloops⟩ := h.loops
  have hstep : r.step = { r.charge ⟨.loopEnd 0, l.close⟩ with
      store := l.storeIn r₀ (i + 1)
      pc := 0 + 1 } := by
    rw [h.end_step hi hroom]
    simp only [Run.endPass, Run.charge, hloops, h.store, increment_storeIn, if_neg hvalue, hsat,
      if_true]
  rw [hstep]
  exact {
    ready := h.ready
    code := h.code
    config := h.config
    pc := rfl
    store := rfl
    loops := h.loops
    charged := h.charged_end
    programText := h.programText_end.trans (by simp [shown]) }

/-- Behind the last pass the loop is left, unless the variable is the largest number. -/
theorem InPass.leave (h : l.InPass r₀ i l.body.length r) (hs : l.Starts b r₀)
    (hlast : l.passes b = i + 1) (hmax : l.first.toInt + (i + 1 : Nat) ≤ Int64.maxValue.toInt) :
    l.Passed r₀ (i + 1) r.step := by
  have hvalue := valueIn_ne_max hmax
  have hsat : (l.storeIn r₀ (i + 1)).satisfies l.condition = false := by
    rw [Bool.eq_false_iff, Ne, satisfies_iff hs hmax, hlast]
    exact Nat.lt_irrefl _
  obtain ⟨outer, hloops⟩ := h.loops
  have hstep : r.step = { r.charge ⟨.loopEnd 0, l.close⟩ with
      store := l.storeIn r₀ (i + 1)
      loops := outer
      pc := r.pc + 1 } := by
    rw [h.end_step hi hroom]
    simp only [Run.endPass, Run.charge, hloops, h.store, increment_storeIn, if_neg hvalue, hsat,
      if_true, Bool.false_eq_true, if_false]
  rw [hstep]
  exact {
    ready := h.ready
    code := h.code
    pc := congrArg (· + 1) h.pc
    store := rfl
    charged := h.charged_end
    programText := h.programText_end }

/-- At the largest number the variable is not counted up, and the run is stopped. -/
theorem InPass.stuck (h : l.InPass r₀ i l.body.length r)
    (hmax : l.valueIn i = Int64.maxValue) :
    l.Over r₀ (i + 1) (.halted (.overflow l.name)) Int64.maxValue r.step := by
  obtain ⟨outer, hloops⟩ := h.loops
  have hstep : r.step = (r.charge ⟨.loopEnd 0, l.close⟩).halt (.overflow l.name) := by
    rw [h.end_step hi hroom]
    simp only [Run.endPass, Run.charge, hloops, h.store, increment_storeIn, if_pos hmax, if_true]
  rw [hstep]
  exact {
    phase := rfl
    store := by
      rw [← hmax]
      exact h.store
    charged := h.charged_end
    programText := (Transcript.programText_system _ _).trans h.programText_end }

/-! ## All passes -/

/-- Within a pass the run goes from one instruction to the next. -/
theorem InPass.steps (h : l.InPass r₀ i 0 r) (hj : j ≤ l.body.length) :
    l.InPass r₀ i j (r.steps j) := by
  induction j with
  | zero => exact h
  | succ j ih =>
    rw [Run.steps_succ]
    exact (ih (Nat.le_of_lt hj)).print_step hi hroom hj

/-- A pass meets the variable once at each instruction. -/
theorem InPass.numbersAt (h : l.InPass r₀ i 0 r) (hj : j ≤ l.body.length) :
    r.numbersAt (j + 1) l.name (l.body.length + 1) = [l.first.toInt + i] := by
  have hothers : ∀ {t : Nat}, t ≤ l.body.length → t ≠ j → (r.steps t).pc ≠ j + 1 := by
    intro t ht hne heq
    rw [(h.steps hi hroom ht).pc] at heq
    omega
  have hhere := h.steps hi hroom hj
  have hnumber : (r.steps j).numberAt? (j + 1) l.name = some (l.first.toInt + i) := by
    rw [Run.numberAt?, if_pos ⟨hhere.ready, hhere.pc⟩, hhere.store, numberOf?_storeIn,
      Option.map_some, toInt_valueIn (le_max_of_lt_passes hi)]
  -- the pass is split around the one step at which the run stands before the instruction `j`
  have hsplit : l.body.length + 1 = j + 1 + (l.body.length - j) := by omega
  rw [hsplit, Run.numbersAt_add, Run.numbersAt_add, Run.numbersAt_one, hnumber,
    Run.numbersAt_eq_nil fun t ht _ => hothers (by omega) (by omega),
    Run.numbersAt_eq_nil fun t ht _ => by
      rw [← Run.steps_add]
      exact hothers (by omega) (by omega)]
  rfl

end

section

variable (h : l.Starts b r₀) (hzero : r₀.charged = 0) (hroom : l.CanPay b r₀)

include h hzero hroom

/-- The start of each pass. The induction is on the passes: a pass ends in front of the next. -/
theorem inPass_steps (hi : i < l.passes b) :
    l.InPass r₀ i 0 (r₀.steps (l.price i)) := by
  induction i with
  | zero =>
    rw [steps_price_zero]
    exact h.enter hzero hroom hi
  | succ i ih =>
    have hpass : l.InPass r₀ i 0 (r₀.steps (l.price i)) := ih (by omega)
    have hlast := hpass.steps (by omega) hroom (Nat.le_refl _)
    have hnext := hlast.again (by omega) hroom h hi
    rwa [price_succ, Run.steps_succ, Run.steps_add]

/-- In the first passes each instruction of the body meets the variable at one number after the
    other. -/
theorem numbersAt_passes (hj : j ≤ l.body.length) (hi : i ≤ l.passes b) :
    r₀.numbersAt (j + 1) l.name (l.price i) =
      (List.range i).map fun (p : Nat) => l.first.toInt + p := by
  induction i with
  | zero =>
    refine Run.numbersAt_eq_nil fun t ht _ heq => ?_
    obtain rfl : t = 0 := by
      unfold price at ht
      omega
    rw [Run.steps, h.pc] at heq
    omega
  | succ i ih =>
    have hpass := inPass_steps h hzero hroom (Nat.lt_of_succ_le hi)
    rw [price_succ, Nat.add_assoc, Run.numbersAt_add, ih (by omega),
      hpass.numbersAt (Nat.lt_of_succ_le hi) hroom hj, List.range_succ, List.map_append,
      List.map_singleton]

theorem inPass_last (hi : l.passes b = i + 1) :
    ∃ r, l.InPass r₀ i l.body.length r ∧ r₀.steps (l.cost b) = r.step := by
  have hlt : i < l.passes b := by omega
  refine ⟨_, (inPass_steps h hzero hroom hlt).steps hlt hroom (Nat.le_refl _), ?_⟩
  rw [cost, hi, price_succ, Run.steps_succ, Run.steps_add]

theorem passed_steps (hends : l.inclusive = false ∨ b < Int64.maxValue ∨ b < l.first) :
    l.Passed r₀ (l.passes b) (r₀.steps (l.cost b)) := by
  cases hn : l.passes b with
  | zero =>
    rw [cost, hn, steps_price_zero]
    exact h.skip hzero hroom hn
  | succ i =>
    obtain ⟨r, hr, hstep⟩ := inPass_last h hzero hroom hn
    rw [hstep]
    exact hr.leave (by omega) hroom h hn (le_max_of_le_passes hends (Nat.le_of_eq hn.symm))

theorem over_finished (hends : l.inclusive = false ∨ b < Int64.maxValue ∨ b < l.first) :
    l.Over r₀ (l.passes b) .finished (l.valueIn (l.passes b)) (r₀.steps (l.cost b + 1)) := by
  have hpassed := passed_steps h hzero hroom hends
  have hcode : (r₀.steps (l.cost b)).code[(r₀.steps (l.cost b)).pc]? = none := by
    rw [hpassed.code, hpassed.pc, code_behind]
  have hfinish : (r₀.steps (l.cost b)).step = (r₀.steps (l.cost b)).finish := by
    simp only [Run.step, hpassed.ready, if_true, hcode]
  rw [Run.steps_succ, hfinish]
  exact {
    phase := rfl
    store := hpassed.store
    charged := hpassed.charged
    programText := (Transcript.programText_system _ _).trans hpassed.programText }

/-- A loop that counts the largest number too does not get behind it. -/
theorem over_overflow (hinclusive : l.inclusive = true) (hb : b = Int64.maxValue) :
    l.Over r₀ (l.passes b) (.halted (.overflow l.name)) Int64.maxValue
      (r₀.steps (l.cost b)) := by
  have hfirst := Int64.toInt_lt l.first
  have hcount : (l.passes b : Int) = b.toInt - l.first.toInt + 1 := by
    rw [passes, hinclusive, if_pos rfl, hb, Int64.toInt_maxValue]
    omega
  cases hn : l.passes b with
  | zero =>
    rw [hn, hb, Int64.toInt_maxValue] at hcount
    omega
  | succ i =>
    obtain ⟨r, hr, hstep⟩ := inPass_last h hzero hroom hn
    have hlt : i < l.passes b := by omega
    have hvalue : l.valueIn i = Int64.maxValue := by
      rw [← Int64.toInt_inj, toInt_valueIn (le_max_of_lt_passes hlt), ← hb]
      omega
    rw [hstep]
    exact hr.stuck hlt hroom hvalue

/-- No instruction of the body is met behind the last pass. -/
theorem numbersAt_all (hj : j ≤ l.body.length) {m : Nat} (hm : l.cost b ≤ m)
    (hbehind : (r₀.steps (l.cost b)).isReady = true →
      (r₀.steps (l.cost b)).pc = l.body.length + 2)
    (hrest : (r₀.steps (l.cost b + 1)).isReady = false) :
    r₀.numbersAt (j + 1) l.name m =
      (List.range (l.passes b)).map fun (p : Nat) => l.first.toInt + p := by
  obtain ⟨more, rfl⟩ := Nat.exists_eq_add_of_le hm
  have hnone : (r₀.steps (l.cost b)).numbersAt (j + 1) l.name more = [] := by
    refine Run.numbersAt_eq_nil fun t _ hready heq => ?_
    cases t with
    | zero =>
      rw [Run.steps, hbehind hready] at heq
      omega
    | succ t =>
      rw [← Run.steps_add, Run.steps_eq_of_not_ready hrest (by omega), hrest] at hready
      cases hready
  rw [Run.numbersAt_add, hnone, List.append_nil]
  exact numbersAt_passes h hzero hroom hj (Nat.le_refl _)

end

/-! ## The price -/

theorem resume_eq {m fuel : Nat} (hm : m ≤ l.cost b + 1)
    (hrest : (r.uncharged.steps m).isReady = false) (hroom : l.CanPay b r)
    (hfuel : l.cost b < fuel) : r.resume fuel = r.uncharged.steps m := by
  unfold Run.resume
  cases hl : r.config.maxSteps with
  | none => exact Run.steps_eq_of_not_ready hrest (by omega)
  | some limit =>
    have hle := hroom limit hl
    exact Run.steps_eq_of_not_ready hrest (by omega)

theorem Over.not_ready {phase : Phase} {value : Int64} (h : l.Over r₀ n phase value r)
    (hphase : phase ≠ .ready) : r.isReady = false := by
  rw [← Bool.not_eq_true, Run.isReady_iff, h.phase]
  exact hphase

theorem Starts.uncharged (h : l.Starts b r) : l.Starts b { r with charged := 0 } :=
  ⟨h.ready, h.code, h.pc, h.bound_ne, h.bound⟩

theorem Starts.withLimit (h : l.Starts b r) (limit : Option Nat) :
    l.Starts b (r.withLimit limit) :=
  ⟨h.ready, h.code, h.pc, h.bound_ne, h.bound⟩

/-- A run that can pay goes through all passes and is finished. -/
theorem Starts.finished (h : l.Starts b r) (hroom : l.CanPay b r)
    (hends : l.inclusive = false ∨ b < Int64.maxValue ∨ b < l.first) {fuel : Nat}
    (hfuel : l.cost b < fuel) :
    l.BodyRuns r (l.passes b) ∧
      l.Over r (l.passes b) .finished (l.valueIn (l.passes b)) (r.resume fuel) := by
  have hu : r.uncharged = { r with charged := 0 } := Run.uncharged_of_ready h.ready
  have hpassed := passed_steps h.uncharged rfl hroom hends
  have hover := over_finished h.uncharged rfl hroom hends
  have hrest := hover.not_ready nofun
  constructor
  · intro j hj m hm
    rw [hu]
    exact numbersAt_all h.uncharged rfl hroom hj hm (fun _ => hpassed.pc) hrest
  · rw [← hu] at hrest
    rw [resume_eq (Nat.le_refl _) hrest hroom hfuel, hu]
    exact ⟨hover.phase, hover.store, hover.charged, hover.programText⟩

/-- A run that can pay is stopped behind the last pass where it has to count the largest number
    too. -/
theorem Starts.overflows (h : l.Starts b r) (hroom : l.CanPay b r)
    (hinclusive : l.inclusive = true) (hb : b = Int64.maxValue) {fuel : Nat}
    (hfuel : l.cost b < fuel) :
    l.BodyRuns r (l.passes b) ∧
      l.Over r (l.passes b) (.halted (.overflow l.name)) Int64.maxValue (r.resume fuel) := by
  have hu : r.uncharged = { r with charged := 0 } := Run.uncharged_of_ready h.ready
  have hover := over_overflow h.uncharged rfl hroom hinclusive hb
  have hhalted := hover.not_ready nofun
  have hrest := hhalted
  rw [← Run.steps_eq_of_not_ready hhalted (Nat.le_succ _)] at hrest
  constructor
  · intro j hj m hm
    rw [hu]
    refine numbersAt_all h.uncharged rfl hroom hj hm (fun hready => ?_) hrest
    rw [hhalted] at hready
    cases hready
  · rw [← hu] at hhalted
    rw [resume_eq (Nat.le_succ _) hhalted hroom hfuel, hu]
    exact ⟨hover.phase, hover.store, hover.charged, hover.programText⟩

/-- A run that cannot pay is stopped by its limit. -/
theorem Starts.halted (h : l.Starts b r)
    (hends : l.inclusive = false ∨ b < Int64.maxValue ∨ b < l.first) {limit : Nat}
    (hl : r.config.maxSteps = some limit) (hlt : limit < l.cost b) (fuel : Nat) :
    (r.resume fuel).phase = .halted (.stepLimit limit) := by
  -- the same run without a limit can pay, and comes to rest at the whole price only
  let u : Run := { r.withLimit none with charged := 0 }
  have hu : r.uncharged = u.withLimit (some limit) := by
    rw [Run.uncharged_of_ready h.ready]
    obtain ⟨⟨code, ⟨maxSteps, marker⟩, pc, store, transcript, loops, place, used⟩, phase⟩ := r
    obtain rfl : maxSteps = some limit := hl
    rfl
  have hover := over_finished (h.withLimit none).uncharged rfl nofun hends
  have hrest : (u.steps (l.cost b + 1)).isReady = false := hover.not_ready nofun
  have hresume : r.resume fuel = (u.withLimit (some limit)).steps (limit + 1) := by
    unfold Run.resume
    rw [hl, hu]
  rw [hresume]
  refine Run.halted_of_over_limit rfl rfl fun m hm => ?_
  have heq : u.steps m = u.steps (l.cost b + 1) := by
    rcases Nat.le_total m (l.cost b + 1) with hle | hle
    · exact (Run.steps_eq_of_not_ready hm hle).symm
    · exact Run.steps_eq_of_not_ready hrest hle
  rw [heq, hover.charged]
  exact hlt

/-- A counting loop runs exactly as often as in C, at an exact price. Let the bound be one that is
    not counted itself, or not the largest number, or below the first number. Then the run is
    finished if the step limit allows for the start of the loop and for the prints and the end of
    each pass, and else it is stopped by the limit; if it is finished, the body has run for each
    number from the first one on up to the bound, and the variable is the number behind them.
    Where the largest number is to be counted, the body runs for it too, and then the run is
    stopped with the variable as it is. -/
theorem counting_loop_exact (l : CountingLoop) {b : Int64} {r : Run} (h : l.Starts b r)
    {fuel : Nat} (hfuel : l.cost b < fuel) :
    let n := l.passes b
    let final := r.resume fuel
    ((l.inclusive = false ∨ b < Int64.maxValue ∨ b < l.first) →
      (final.phase = .finished ↔ l.CanPay b r) ∧
      (∀ limit ∈ r.config.maxSteps, limit < l.cost b →
        final.phase = .halted (.stepLimit limit)) ∧
      (l.CanPay b r → l.BodyRuns r n ∧ l.Over r n .finished (l.valueIn n) final ∧
        (l.valueIn n).toInt = l.first.toInt + n)) ∧
    (l.inclusive = true → l.first ≤ b → b = Int64.maxValue → l.CanPay b r →
      (n : Int) = b.toInt - l.first.toInt + 1 ∧ l.BodyRuns r n ∧
        l.Over r n (.halted (.overflow l.name)) Int64.maxValue final) := by
  intro n final
  constructor
  · intro hends
    have hstopped : ∀ limit ∈ r.config.maxSteps, limit < l.cost b →
        final.phase = .halted (.stepLimit limit) :=
      fun limit hl hlt => h.halted hends hl hlt fuel
    have hpaid : l.CanPay b r → l.BodyRuns r n ∧ l.Over r n .finished (l.valueIn n) final :=
      fun hroom => h.finished hroom hends hfuel
    have hvalue : (l.valueIn n).toInt = l.first.toInt + n :=
      toInt_valueIn (le_max_of_le_passes hends (Nat.le_refl _))
    have hpays : final.phase = .finished → l.CanPay b r := by
      intro hfinished limit hl
      refine Nat.le_of_not_lt fun hlt => ?_
      rw [hstopped limit hl hlt] at hfinished
      cases hfinished
    exact ⟨⟨hpays, fun hroom => (hpaid hroom).2.phase⟩, hstopped,
      fun hroom => ⟨(hpaid hroom).1, (hpaid hroom).2, hvalue⟩⟩
  · intro hinclusive hfirst hb hroom
    have hcount : (n : Int) = b.toInt - l.first.toInt + 1 := by
      have hle := Int64.le_iff_toInt_le.mp hfirst
      change ((l.passes b : Nat) : Int) = _
      rw [passes, hinclusive, if_pos rfl]
      omega
    exact ⟨hcount, h.overflows hroom hinclusive hb hfuel⟩

def upToVariable : CountingLoop where
  name := "i"
  first := -1
  inclusive := false
  bound := .var "n"
  body := [([.var "i"], ⟨2, 3⟩)]
  place := ⟨1, 1⟩
  close := ⟨3, 1⟩

def upToLargest : CountingLoop where
  name := "i"
  first := 9223372036854775806
  inclusive := true
  bound := .lit 9223372036854775807
  body := []
  place := ⟨1, 1⟩
  close := ⟨1, 2⟩

def inFront (l : CountingLoop) (limit : Option Nat) : Run :=
  { Run.start l.code ⟨limit, "?"⟩ with store := Store.empty.set "n" (.text " 2 ") }

theorem counting_loop_exact_ends :
    (((upToVariable.inFront (some 7)).resume 8).phase = .finished ∧
      ((upToVariable.inFront (some 7)).resume 8).transcript.programText = "-1 0 1 " ∧
      (upToVariable.inFront (some 7)).uncharged.numbersAt 1 "i" 7 = [-1, 0, 1]) ∧
    ((upToVariable.inFront (some 6)).resume 8).phase = .halted (.stepLimit 6) ∧
    ((upToLargest.inFront none).resume 4).phase = .halted (.overflow "i") := by
  have hn : (Store.empty.set "n" (.text " 2 ")).operand? (.var "n") = some 2 := by decide +kernel
  have hstarts : ∀ limit, upToVariable.Starts 2 (upToVariable.inFront limit) :=
    fun _ => ⟨rfl, rfl, rfl, by decide, hn⟩
  have hlargest : upToLargest.Starts Int64.maxValue (upToLargest.inFront none) :=
    ⟨rfl, rfl, rfl, by decide, rfl⟩
  have hcost : upToVariable.cost 2 = 7 := by decide +kernel
  have hfuel : upToVariable.cost 2 < 8 := by omega
  have hfuel' : upToLargest.cost Int64.maxValue < 4 := by decide +kernel
  obtain ⟨-, -, hpaid⟩ :=
    (counting_loop_exact upToVariable (hstarts (some 7)) hfuel).1 (Or.inl rfl)
  obtain ⟨-, hstopped, -⟩ :=
    (counting_loop_exact upToVariable (hstarts (some 6)) hfuel).1 (Or.inl rfl)
  obtain ⟨-, -, hhalted⟩ :=
    (counting_loop_exact upToLargest hlargest hfuel').2 rfl (by decide +kernel) rfl nofun
  have hpay : upToVariable.CanPay 2 (upToVariable.inFront (some 7)) := by
    intro limit hl
    cases hl
    exact Nat.le_of_eq hcost
  obtain ⟨hbody, hover, -⟩ := hpaid hpay
  refine ⟨⟨hover.phase, ?_, ?_⟩, hstopped 6 rfl (by omega), hhalted.phase⟩
  · rw [hover.programText]
    decide +kernel
  · exact (hbody 0 (by decide) 7 (by decide +kernel)).trans (by decide +kernel)

end CountingLoop

end ConsoleLab
