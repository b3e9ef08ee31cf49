/-
  ConsoleLab.Proofs.Run.Assignments — the variables after some assignments.

  The variables can be kept in two parts (`MappedStore`): a map, which answers what a variable
  holds, and the names in order, which a listing goes through. A listing leaves out a name that
  the map does not have and never gets to one that the order does not have, so every assignment
  has to keep the two in step (`InStep.set`): the order has each key of the map, and has it once.
  In step, an assignment changes the listing as it changes the bindings of a store
  (`InStep.entries_set`). Main fact, for both ways to keep the variables: after any assignments
  each variable is listed once, in the order of the first assignments and with the value of the
  last one (`listed_by_first_assignment`).
-/

import ConsoleLab.Run.Store
import Mathlib.Data.Finmap
import Mathlib.Data.Finset.Card
import Mathlib.Data.List.Induction

namespace ConsoleLab

/-! ## Names with values -/

def withValues (get : String → Option Value) (names : List String) : List (String × Value) :=
  names.filterMap fun name => (get name).map fun value => (name, value)

section WithValues

variable {get : String → Option Value} {names : List String} {name : String}

theorem withValues_cons {value : Value} (h : get name = some value) :
    withValues get (name :: names) = (name, value) :: withValues get names :=
  List.filterMap_cons_some (by rw [h]; rfl)

theorem mem_withValues_iff {value : Value} :
    (name, value) ∈ withValues get names ↔ name ∈ names ∧ get name = some value := by
  simp only [withValues, List.mem_filterMap, Option.map_eq_some_iff, Prod.mk.injEq]
  constructor
  · rintro ⟨_, hname, _, hget, rfl, rfl⟩
    exact ⟨hname, hget⟩
  · rintro ⟨hname, hget⟩
    exact ⟨name, hname, value, hget, rfl, rfl⟩

/-- Where all names have a value, none is left out. -/
theorem map_fst_withValues (h : ∀ other ∈ names, (get other).isSome = true) :
    (withValues get names).map Prod.fst = names := by
  induction names with
  | nil => rfl
  | cons first rest ih =>
    obtain ⟨hfirst, hrest⟩ := List.forall_mem_cons.mp h
    obtain ⟨value, hvalue⟩ := Option.isSome_iff_exists.mp hfirst
    rw [withValues_cons hvalue, List.map_cons, ih hrest]

/-- A name that is not among the names may hold anything. -/
theorem withValues_update_of_notMem (h : name ∉ names) (value : Option Value) :
    withValues (Function.update get name value) names = withValues get names := by
  refine List.filterMap_congr fun other hother => ?_
  rw [Function.update_of_ne]
  rintro rfl
  exact h hother

/-- Where the names come once each, a new value for one of them changes one place. -/
theorem withValues_update (hnodup : names.Nodup) (hmem : name ∈ names)
    (hall : ∀ other ∈ names, (get other).isSome = true) (value : Value) :
    withValues (Function.update get name (some value)) names =
      Store.assign name value (withValues get names) := by
  induction names with
  | nil => cases hmem
  | cons first rest ih =>
    obtain ⟨hfirst, hrest⟩ := List.nodup_cons.mp hnodup
    obtain ⟨hsome, hsomes⟩ := List.forall_mem_cons.mp hall
    obtain ⟨old, hold⟩ := Option.isSome_iff_exists.mp hsome
    rw [withValues_cons hold, Store.assign]
    by_cases he : first = name
    · -- the name does not come again, so the rest keeps its values
      subst he
      rw [if_pos rfl, withValues_cons (Function.update_self ..),
        withValues_update_of_notMem hfirst]
    · have hlater : name ∈ rest := (List.mem_cons.mp hmem).resolve_left (Ne.symm he)
      have hsame : Function.update get name (some value) first = some old := by
        rw [Function.update_of_ne he, hold]
      rw [if_neg he, withValues_cons hsame, ih hrest hlater hsomes]

theorem assign_of_notMem {vs : List (String × Value)} (h : name ∉ vs.map Prod.fst)
    (value : Value) : Store.assign name value vs = vs ++ [(name, value)] := by
  induction vs with
  | nil => rfl
  | cons entry rest ih =>
    rw [List.map_cons, List.mem_cons, not_or] at h
    rw [Store.assign, if_neg (Ne.symm h.1), ih h.2]
    rfl

end WithValues

/-! ## A map and an order -/

structure MappedStore where
  values : Finmap fun _ : String => Value
  order : List String

namespace MappedStore

def empty : MappedStore := ⟨∅, []⟩

def get? (m : MappedStore) (name : String) : Option Value :=
  m.values.lookup name

def contains (m : MappedStore) (name : String) : Bool :=
  (m.values.lookup name).isSome

/-- The store after `name` was assigned `value`; a name that is not in the map yet also comes last
    in the order. -/
def set (m : MappedStore) (name : String) (value : Value) : MappedStore :=
  if m.contains name then { m with values := m.values.insert name value }
  else ⟨m.values.insert name value, m.order ++ [name]⟩

def entries (m : MappedStore) : List (String × Value) :=
  withValues m.get? m.order

def size (m : MappedStore) : Nat :=
  m.values.keys.card

def ofWrites (writes : List (String × Value)) : MappedStore :=
  writes.foldl (fun m write => m.set write.1 write.2) empty

theorem ofWrites_concat (writes : List (String × Value)) (write : String × Value) :
    ofWrites (writes ++ [write]) = (ofWrites writes).set write.1 write.2 := by
  simp [ofWrites]

theorem contains_iff {m : MappedStore} {name : String} :
    m.contains name = true ↔ name ∈ m.values :=
  Finmap.lookup_isSome

theorem get?_set (m : MappedStore) (name : String) (value : Value) :
    (m.set name value).get? = Function.update m.get? name (some value) := by
  have hvalues : (m.set name value).values = m.values.insert name value := by
    unfold set
    split <;> rfl
  funext other
  rw [get?, hvalues]
  by_cases h : other = name
  · rw [h, Finmap.lookup_insert, Function.update_self]
  · rw [Finmap.lookup_insert_of_ne _ h, Function.update_of_ne h]
    rfl

/-! ## Map and order in step -/

/-- The order has each key of the map once, and nothing else. -/
structure InStep (m : MappedStore) : Prop where
  nodup : m.order.Nodup
  mem_order_iff : ∀ name, name ∈ m.order ↔ name ∈ m.values

namespace InStep

variable {m : MappedStore}

theorem empty : MappedStore.empty.InStep where
  nodup := .nil
  mem_order_iff := fun name => by simp [MappedStore.empty, Finmap.notMem_empty]

theorem contains_iff (h : m.InStep) {name : String} :
    m.contains name = true ↔ name ∈ m.order := by
  rw [MappedStore.contains_iff, h.mem_order_iff]

theorem isSome_get? (h : m.InStep) {name : String} (hname : name ∈ m.order) :
    (m.get? name).isSome = true :=
  h.contains_iff.mpr hname

theorem set (h : m.InStep) (name : String) (value : Value) : (m.set name value).InStep := by
  unfold MappedStore.set
  split
  · rename_i hold
    have hmem : name ∈ m.values := MappedStore.contains_iff.mp hold
    refine ⟨h.nodup, fun other => ?_⟩
    show other ∈ m.order ↔ other ∈ m.values.insert name value
    rw [h.mem_order_iff, Finmap.mem_insert]
    exact ⟨Or.inr, fun hor => hor.elim (fun he => he ▸ hmem) id⟩
  · rename_i hnew
    have hnot : name ∉ m.order := mt h.contains_iff.mpr hnew
    refine ⟨List.nodup_append.mpr ⟨h.nodup, List.nodup_singleton name, ?_⟩, fun other => ?_⟩
    · rintro other hother _ hname rfl
      exact hnot (List.mem_singleton.mp hname ▸ hother)
    · show other ∈ m.order ++ [name] ↔ other ∈ m.values.insert name value
      rw [List.mem_append, List.mem_singleton, h.mem_order_iff, Finmap.mem_insert, or_comm]

theorem ofWrites (writes : List (String × Value)) : (MappedStore.ofWrites writes).InStep := by
  induction writes using List.reverseRecOn with
  | nil => exact empty
  | append_singleton writes write ih => rw [ofWrites_concat]; exact ih.set _ _

/-! ## What is listed -/

theorem map_fst_entries (h : m.InStep) : m.entries.map Prod.fst = m.order :=
  map_fst_withValues fun _ => h.isSome_get?

theorem mem_entries_iff (h : m.InStep) {name : String} {value : Value} :
    (name, value) ∈ m.entries ↔ m.get? name = some value := by
  rw [entries, mem_withValues_iff]
  refine ⟨And.right, fun hget => ⟨?_, hget⟩⟩
  exact (h.mem_order_iff name).mpr (Finmap.mem_of_lookup_eq_some hget)

theorem size_eq_length (h : m.InStep) : m.size = m.entries.length := by
  have hkeys : m.values.keys = m.order.toFinset := by
    ext name
    rw [Finmap.mem_keys, List.mem_toFinset, h.mem_order_iff]
  rw [size, hkeys, List.toFinset_card_of_nodup h.nodup, ← h.map_fst_entries, List.length_map]

/-- An assignment changes the listing in the same way as the bindings of a store. -/
theorem entries_set (h : m.InStep) (name : String) (value : Value) :
    (m.set name value).entries = Store.assign name value m.entries := by
  by_cases hold : m.contains name = true
  · have horder : (m.set name value).order = m.order := by rw [MappedStore.set, if_pos hold]
    rw [entries, horder, get?_set]
    exact withValues_update h.nodup (h.contains_iff.mp hold) (fun _ => h.isSome_get?) value
  · have horder : (m.set name value).order = m.order ++ [name] := by
      rw [MappedStore.set, if_neg hold]
    have hnot : name ∉ m.order := mt h.contains_iff.mpr hold
    calc (m.set name value).entries
        = withValues (Function.update m.get? name (some value)) (m.order ++ [name]) := by
          rw [entries, horder, get?_set]
      _ = withValues (Function.update m.get? name (some value)) m.order ++ [(name, value)] := by
          simp [withValues, List.filterMap_append]
      _ = m.entries ++ [(name, value)] := by rw [withValues_update_of_notMem hnot]; rfl
      _ = Store.assign name value m.entries :=
          (assign_of_notMem (by rwa [h.map_fst_entries]) value).symm

end InStep

/-! ## What the assignments say -/

/-- The last assignment to a variable decides what it holds. -/
theorem get?_ofWrites (writes : List (String × Value)) (name : String) :
    (ofWrites writes).get? name = writes.reverse.lookup name := by
  induction writes using List.reverseRecOn with
  | nil => rfl
  | append_singleton writes write ih =>
    rw [ofWrites_concat, get?_set, List.reverse_append, List.reverse_singleton,
      List.singleton_append, List.lookup_cons]
    by_cases he : name = write.1
    · rw [he, Function.update_self, beq_self_eq_true]
    · rw [Function.update_of_ne he, beq_false_of_ne he, ih]

/-- The first assignment to a variable decides its place. -/
theorem order_ofWrites (writes : List (String × Value)) :
    (ofWrites writes).order = (writes.map Prod.fst).eraseDups := by
  induction writes using List.reverseRecOn with
  | nil => rfl
  | append_singleton writes write ih =>
    have hold : (ofWrites writes).contains write.1 = true ↔ write.1 ∈ writes.map Prod.fst := by
      rw [(InStep.ofWrites writes).contains_iff, ih, List.mem_eraseDups]
    rw [ofWrites_concat, List.map_append, List.eraseDups_append, ← ih, set]
    by_cases hmem : write.1 ∈ writes.map Prod.fst
    · rw [if_pos (hold.mpr hmem)]
      simp [List.removeAll, hmem]
    · rw [if_neg (mt hold.mp hmem)]
      simp [List.removeAll, hmem, List.eraseDups_cons]

end MappedStore

/-! ## The store of a run -/

namespace Store

def ofWrites (writes : List (String × Value)) : Store :=
  writes.foldl (fun s write => s.set write.1 write.2) empty

theorem ofWrites_concat (writes : List (String × Value)) (write : String × Value) :
    ofWrites (writes ++ [write]) = (ofWrites writes).set write.1 write.2 := by
  simp [ofWrites]

theorem bindings_ofWrites (writes : List (String × Value)) :
    (ofWrites writes).bindings = (MappedStore.ofWrites writes).entries := by
  induction writes using List.reverseRecOn with
  | nil => rfl
  | append_singleton writes write ih =>
    rw [ofWrites_concat, MappedStore.ofWrites_concat,
      (MappedStore.InStep.ofWrites writes).entries_set, ← ih]
    rfl

theorem get?_ofWrites (writes : List (String × Value)) (name : String) :
    (ofWrites writes).get? name = (MappedStore.ofWrites writes).get? name := by
  induction writes using List.reverseRecOn with
  | nil => rfl
  | append_singleton writes write ih =>
    rw [ofWrites_concat, MappedStore.ofWrites_concat, get?_set, MappedStore.get?_set, ih,
      Function.update_apply]

theorem contains_iff {s : Store} {name : String} :
    s.contains name = true ↔ name ∈ s.bindings.map Prod.fst := by
  simp [contains]

end Store

/-! ## Listings -/

/-- The variables as they are listed after some assignments: each once, in the order of the first
    assignments, with the value of the last one. -/
structure Listed (writes entries : List (String × Value)) : Prop where
  once : (entries.map Prod.fst).Nodup
  names_eq : entries.map Prod.fst = (writes.map Prod.fst).eraseDups
  mem_iff : ∀ name value, (name, value) ∈ entries ↔ writes.reverse.lookup name = some value

/-- After any assignments, map and order have the same names, each once; what they list and what
    a look-up answers is decided by the first and the last assignment to each variable; and the
    store of a run, which keeps its bindings in one list, answers all questions alike. -/
theorem listed_by_first_assignment (writes : List (String × Value)) :
    let m := MappedStore.ofWrites writes
    let s := Store.ofWrites writes
    m.InStep ∧
      Listed writes m.entries ∧
      (∀ name value, m.get? name = some value ↔ (name, value) ∈ m.entries) ∧
      (∀ name, m.contains name = true ↔ name ∈ m.entries.map Prod.fst) ∧
      m.size = m.entries.length ∧
      s.bindings = m.entries ∧ s.size = m.size ∧
      ∀ name, s.get? name = m.get? name ∧ s.contains name = m.contains name := by
  intro m s
  have hstep : m.InStep := MappedStore.InStep.ofWrites writes
  have hnames : m.entries.map Prod.fst = m.order := hstep.map_fst_entries
  have hbindings : s.bindings = m.entries := Store.bindings_ofWrites writes
  have hcontains : ∀ name, m.contains name = true ↔ name ∈ m.entries.map Prod.fst := by
    intro name
    rw [hnames, hstep.contains_iff]
  have hlisted : Listed writes m.entries := {
    once := by rw [hnames]; exact hstep.nodup
    names_eq := by rw [hnames]; exact MappedStore.order_ofWrites writes
    mem_iff := fun name value => by rw [hstep.mem_entries_iff, MappedStore.get?_ofWrites] }
  refine ⟨hstep, hlisted, fun name value => hstep.mem_entries_iff.symm, hcontains,
    hstep.size_eq_length, hbindings, ?_, fun name => ⟨?_, ?_⟩⟩
  · rw [hstep.size_eq_length, ← hbindings]
    rfl
  · exact Store.get?_ofWrites writes name
  · rw [Bool.eq_iff_iff, Store.contains_iff, hbindings, hcontains]

/-- A variable that is assigned again keeps its place. -/
example : (Store.ofWrites [("b", .int 1), ("a", .text "x"), ("b", .int 2)]).bindings =
    [("b", .int 2), ("a", .text "x")] := by decide

end ConsoleLab
