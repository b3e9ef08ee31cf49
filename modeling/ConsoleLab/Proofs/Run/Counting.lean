/-
  ConsoleLab.Proofs.Run.Counting — why counting loops end.

  Each pass of a loop counts its variable up, and a 64-bit variable can only be counted up
  so often: `Store.headroom` is how often, and counting up lowers it (`headroom_increment`).
  A loop whose body starts no loop from that variable can set it back only by a read, and
  each read takes an answer. So between two passes answers are used up, or there are as
  many and the headroom is smaller (`Later`). A block all of whose loops are of that kind
  (`Block.CountsUp`) therefore always has a meaning: `hasResult_eval`.
-/

import ConsoleLab.Proofs.Run.Structured

namespace ConsoleLab

open Source (Location)

/-! ## How often a variable can be counted up -/

namespace Store

/-- How often `name` can be counted up: never if it is text that spells no number. -/
def headroom (s : Store) (name : String) : Nat :=
  match s.numberOf? name with
  | some n => (Int64.maxValue.toInt - n.toInt).toNat
  | none => 0

theorem headroom_set_of_ne {name other : String} (h : other ≠ name) (s : Store) (value : Value) :
    (s.set name value).headroom other = s.headroom other := by
  simp only [headroom, numberOf?, get?_set, if_neg h]

theorem toInt_add_one {n : Int64} (h : n ≠ Int64.maxValue) : (n + 1).toInt = n.toInt + 1 := by
  have hne : n.toInt ≠ 2 ^ 63 - 1 := fun heq => h (Int64.toInt_inj.mp heq)
  have hlt := Int64.toInt_lt n
  have hle := Int64.le_toInt n
  have hone : (1 : Int64).toInt = 1 := by decide
  rw [Int64.toInt_add, hone]
  apply Int.bmod_eq_of_le
  · omega
  · omega

theorem increment_eq_ok {s s' : Store} {name : String} (h : s.increment name = .ok s') :
    ∃ n, s.numberOf? name = some n ∧ n ≠ Int64.maxValue ∧ s' = s.set name (.int (n + 1)) := by
  unfold increment at h
  unfold numberOf?
  cases hv : s.get? name with
  | none =>
    simp only [hv] at h
    cases h
    exact ⟨0, rfl, by decide, rfl⟩
  | some value =>
    cases hn : value.number? with
    | none => simp only [hv, hn] at h; cases h
    | some n =>
      simp only [hv, hn] at h
      by_cases hmax : n = Int64.maxValue
      · rw [if_pos hmax] at h
        cases h
      · rw [if_neg hmax] at h
        cases h
        exact ⟨n, hn, hmax, rfl⟩

theorem headroom_increment {s s' : Store} {name : String} (h : s.increment name = .ok s') :
    s'.headroom name < s.headroom name := by
  obtain ⟨n, hn, hmax, rfl⟩ := increment_eq_ok h
  have hlt := Int64.toInt_lt n
  have hne : n.toInt ≠ 2 ^ 63 - 1 := fun heq => hmax (Int64.toInt_inj.mp heq)
  have hnext : (s.set name (.int (n + 1))).numberOf? name = some (n + 1) := by
    simp [numberOf?, get?_set, Value.number?]
  simp only [headroom, hn, hnext, toInt_add_one hmax, Int64.toInt_maxValue]
  omega

/-- Counting up raises the headroom of no variable. -/
theorem headroom_increment_le {s s' : Store} {name : String} (h : s.increment name = .ok s')
    (other : String) : s'.headroom other ≤ s.headroom other := by
  by_cases ho : other = name
  · subst ho
    exact Nat.le_of_lt (headroom_increment h)
  · obtain ⟨n, -, -, rfl⟩ := increment_eq_ok h
    exact Nat.le_of_eq (headroom_set_of_ne ho _ _)

end Store

/-! ## From one world to a later one -/

/-- The second world comes after the first: an answer has been used up, or none has and only the
    variables in `set` may have more headroom than before. -/
def Later (set : List String) (w w' : World) : Prop :=
  w'.answers.length < w.answers.length ∨
    w'.answers.length = w.answers.length ∧
      ∀ name ∉ set, w'.store.headroom name ≤ w.store.headroom name

namespace Later

variable {set set' : List String} {w w' w'' : World}

theorem refl (set : List String) (w : World) : Later set w w :=
  Or.inr ⟨rfl, fun _ _ => Nat.le_refl _⟩

theorem mono (hsub : set ⊆ set') (h : Later set w w') : Later set' w w' := by
  rcases h with h | ⟨heq, h⟩
  · exact Or.inl h
  · exact Or.inr ⟨heq, fun name hn => h name fun hmem => hn (hsub hmem)⟩

theorem trans (h : Later set w w') (h' : Later set w' w'') : Later set w w'' := by
  rcases h with h | ⟨heq, h⟩
  · rcases h' with h' | ⟨heq', -⟩
    · exact Or.inl (by omega)
    · exact Or.inl (by omega)
  · rcases h' with h' | ⟨heq', h'⟩
    · exact Or.inl (by omega)
    · exact Or.inr ⟨by omega, fun name hn => Nat.le_trans (h' name hn) (h name hn)⟩

/-- A loop sets its variable when it starts. -/
theorem of_set (w : World) (name : String) (value : Value) :
    Later [name] w { w with store := w.store.set name value } := by
  refine Or.inr ⟨rfl, fun other ho => ?_⟩
  rw [List.mem_singleton] at ho
  exact Nat.le_of_eq (Store.headroom_set_of_ne ho _ _)

theorem of_increment {s : Store} {name : String} (h : w.store.increment name = .ok s) :
    Later [] w { w with store := s } :=
  Or.inr ⟨rfl, fun other _ => Store.headroom_increment_le h other⟩

end Later

namespace Statement

/-- A formatted read with a variable to fill uses up an answer. -/
theorem fill_later {place : Location} {names : List String} {hints : List ScanHint} {store : Store}
    {output : String} {answers : List String} {w : World}
    (h : fill place names hints store output answers = (.done, w)) :
    w.answers.length < answers.length ∨ w.answers = answers ∧ w.store = store := by
  induction answers generalizing names hints store output with
  | nil =>
    unfold fill at h
    split at h
    · cases h
      exact Or.inr ⟨rfl, rfl⟩
    · cases h
  | cons raw rest ih =>
    unfold fill at h
    split at h
    · cases h
      exact Or.inr ⟨rfl, rfl⟩
    · refine Or.inl ?_
      rw [List.length_cons]
      rcases ih h with hlt | ⟨heq, -⟩
      · omega
      · rw [heq]
        omega

/-- A statement changes a variable only by an answer. -/
theorem eval_later {marker : String} {place : Location} {w w' : World} {what : Statement}
    (h : what.eval marker place w = (.done, w')) : Later [] w w' := by
  cases what with
  | print parts =>
    cases h
    exact Or.inr ⟨rfl, fun _ _ => Nat.le_refl _⟩
  | read name mode =>
    unfold eval at h
    cases ha : w.answers with
    | nil => simp [ha] at h
    | cons raw rest =>
      simp only [ha] at h
      cases h
      exact Or.inl (by simp [ha])
  | scan names hints =>
    rcases fill_later h with hlt | ⟨heq, hs⟩
    · exact Or.inl hlt
    · exact Or.inr ⟨by rw [heq], fun name _ => Nat.le_of_eq (by rw [hs])⟩

end Statement

/-! ## Every loop ends -/

/-- A computation with a bound has a result where the bound is large enough, and if it is done it
    leads to a later world. -/
def HasResult (set : List String) (w : World) (p : Nat → Option (Outcome × World)) : Prop :=
  ∃ fuel out w', p fuel = some (out, w') ∧ (out = .done → Later set w w')

def Monotone (p : Nat → World → Option (Outcome × World)) : Prop :=
  ∀ ⦃n m : Nat⦄ ⦃w : World⦄ ⦃result⦄, n ≤ m → p n w = some result → p m w = some result

namespace HasResult

variable {set : List String} {w : World}

/-- What is done first and what comes then have a result together. -/
theorem andThen {p next : Nat → World → Option (Outcome × World)} (hp : Monotone p)
    (hnext : Monotone next) (h : HasResult set w (p · w))
    (h' : ∀ w', Later set w w' → HasResult set w' (next · w')) :
    HasResult set w fun fuel => ConsoleLab.andThen (p fuel w) (next fuel) := by
  obtain ⟨n, out, w', hr, hlater⟩ := h
  cases out with
  | done =>
    obtain ⟨m, out, w'', hr', hlater'⟩ := h' w' (hlater rfl)
    refine ⟨max n m, out, w'', ?_, fun hdone => (hlater rfl).trans (hlater' hdone)⟩
    have hfirst := hp (Nat.le_max_left n m) hr
    have hthen := hnext (Nat.le_max_right n m) hr'
    simp only [ConsoleLab.andThen, hfirst, hthen]
  | faulted fault place =>
    exact ⟨n, .faulted fault place, w', by simp only [ConsoleLab.andThen, hr], nofun⟩
  | starved read place =>
    exact ⟨n, .starved read place, w', by simp only [ConsoleLab.andThen, hr], nofun⟩

theorem mono {set' : List String} {p : Nat → Option (Outcome × World)} (hsub : set ⊆ set')
    (h : HasResult set w p) : HasResult set' w p := by
  obtain ⟨fuel, out, w', hr, hlater⟩ := h
  exact ⟨fuel, out, w', hr, fun hdone => (hlater hdone).mono hsub⟩

end HasResult

namespace Block

def initNames : Block → List String
  | empty => []
  | statement before _ _ => before.initNames
  | loop before _ header body _ => before.initNames ++ header.initName :: body.initNames

/-- No loop of the block has a loop in its body that starts from the variable it counts up. -/
def CountsUp : Block → Prop
  | empty => True
  | statement before _ _ => before.CountsUp
  | loop before _ header body _ =>
    before.CountsUp ∧ header.stepName ∉ body.initNames ∧ body.CountsUp

/-- A loop ends whose body has a result and does not start a loop from the variable that is
    counted up. The induction is on the answers left, and within it on the headroom of
    that variable. -/
theorem hasResult_passes {set : List String} {header : Loop.Header} {close : Location}
    {body : Nat → World → Option (Outcome × World)} (hmono : Monotone body)
    (hbody : ∀ w, HasResult set w (body · w)) (hstep : header.stepName ∉ set) :
    ∀ (n m : Nat) (w : World), w.answers.length = n → w.store.headroom header.stepName = m →
      HasResult set w fun fuel => passes header close (body fuel) fuel w := by
  intro n
  induction n using Nat.strongRecOn with
  | ind n ihn =>
  intro m
  induction m using Nat.strongRecOn with
  | ind m ihm =>
  intro w hn hm
  cases hs : w.store.satisfies header.condition with
  | false =>
    exact ⟨1, .done, w, by simp [passes, hs], fun _ => .refl set w⟩
  | true =>
    obtain ⟨first, out, w', hr, hlater⟩ := hbody w
    have hfirst : body (first + 1) w = some (out, w') := hmono (Nat.le_succ first) hr
    cases out with
    | faulted fault place =>
      exact ⟨first + 1, .faulted fault place, w',
        by simp only [passes, hs, if_true, hfirst, andThen], nofun⟩
    | starved read place =>
      exact ⟨first + 1, .starved read place, w',
        by simp only [passes, hs, if_true, hfirst, andThen], nofun⟩
    | done =>
      have hpass : Later set w w' := hlater rfl
      cases hinc : w'.store.increment header.stepName with
      | error fault =>
        exact ⟨first + 1, .faulted fault close, w',
          by simp only [passes, hs, if_true, hfirst, andThen, hinc], nofun⟩
      | ok s =>
        let next : World := { w' with store := s }
        have hnext : Later set w next :=
          hpass.trans ((Later.of_increment hinc).mono (List.nil_subset set))
        have hless := Store.headroom_increment hinc
        have hrest : HasResult set next fun fuel => passes header close (body fuel) fuel next := by
          rcases hpass with hlt | ⟨heq, hle⟩
          · exact ihn next.answers.length (by rw [← hn]; exact hlt) _ next rfl rfl
          · have hdrop : next.store.headroom header.stepName < m := by
              have := hle header.stepName hstep
              rw [← hm]
              exact Nat.lt_of_lt_of_le hless this
            exact ihm _ hdrop next (by rw [← hn]; exact heq) rfl
        obtain ⟨more, out, w'', hr', hlater'⟩ := hrest
        refine ⟨max first more + 1, out, w'', ?_, fun hdone => hnext.trans (hlater' hdone)⟩
        have hbig : body (max first more + 1) w = some (.done, w') := hmono (by omega) hr
        have hgo : passes header close (body (max first more + 1)) (max first more) next =
            some (out, w'') :=
          passes_mono (fun _ _ => hmono (by omega)) (Nat.le_max_right _ _) hr'
        simp only [passes, hs, if_true, hbig, andThen, hinc]
        exact hgo

theorem monotone_eval (b : Block) (marker : String) :
    Monotone fun fuel w => b.eval marker fuel w :=
  fun _ _ _ _ hle hr => eval_mono hle hr

theorem monotone_passes (b : Block) (marker : String) (header : Loop.Header) (close : Location) :
    Monotone fun fuel w => passes header close (b.eval marker fuel) fuel w :=
  fun _ _ _ _ hle hr => passes_mono (fun _ _ h => b.monotone_eval marker hle h) hle hr

/-- A block whose loops count up always has a meaning. -/
theorem hasResult_eval {b : Block} (hb : b.CountsUp) (marker : String) (w : World) :
    HasResult b.initNames w fun fuel => b.eval marker fuel w := by
  induction b generalizing w with
  | empty => exact ⟨0, .done, w, rfl, fun _ => .refl _ w⟩
  | statement before place what ih =>
    have hwhat : Monotone fun _ w => some (what.eval marker place w) :=
      fun _ _ _ _ _ hr => hr
    refine HasResult.andThen (before.monotone_eval marker) hwhat (ih hb w) fun w' _ => ?_
    exact ⟨0, _, _, rfl, fun hdone => (Statement.eval_later (Prod.ext hdone rfl)).mono
      (List.nil_subset _)⟩
  | loop before place header body close ihBefore ihBody =>
    obtain ⟨hbefore, hstep, hbody⟩ := hb
    let names := before.initNames ++ header.initName :: body.initNames
    have hinit : [header.initName] ⊆ names := by simp [names]
    have hinner : body.initNames ⊆ names := by
      intro name hn
      simp [names, hn]
    have hfirst : HasResult names w fun fuel => before.eval marker fuel w :=
      (ihBefore hbefore w).mono (List.subset_append_left _ _)
    -- the loop sets its variable and starts
    have hloop : ∀ w', HasResult names w' fun fuel => passes header close (body.eval marker fuel)
        fuel { w' with store := w'.store.set header.initName (.int header.initValue) } := by
      intro w'
      let inside : World :=
        { w' with store := w'.store.set header.initName (.int header.initValue) }
      have hset : Later names w' inside := (Later.of_set w' header.initName _).mono hinit
      have hpasses : HasResult body.initNames inside fun fuel =>
          passes header close (body.eval marker fuel) fuel inside :=
        hasResult_passes (body.monotone_eval marker) (ihBody hbody) hstep _ _ inside rfl rfl
      obtain ⟨fuel, out, w'', hr, hlater⟩ := hpasses.mono hinner
      exact ⟨fuel, out, w'', hr, fun hdone => hset.trans (hlater hdone)⟩
    have hafter : Monotone fun fuel w' => passes header close (body.eval marker fuel) fuel
        { w' with store := w'.store.set header.initName (.int header.initValue) } :=
      fun _ _ _ _ hle hr => body.monotone_passes marker header close hle hr
    exact HasResult.andThen (before.monotone_eval marker) hafter hfirst fun w' _ => hloop w'

end Block

end ConsoleLab
