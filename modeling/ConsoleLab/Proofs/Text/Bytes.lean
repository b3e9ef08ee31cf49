/-
  ConsoleLab.Proofs.Text.Bytes — texts and the bytes they take.

  Main facts: a text takes as many bytes as it has characters exactly if each takes one
  (`byteLength_eq_length_iff`), and a cut behind whole characters gives the characters in front
  of it and behind it (`slice?_append`).
-/

import ConsoleLab.Text.Bytes
import Mathlib.Data.List.Basic

namespace ConsoleLab.Text

@[simp] theorem byteLength_nil : byteLength [] = 0 := rfl

@[simp] theorem byteLength_cons (c : Char) (cs : List Char) :
    byteLength (c :: cs) = c.utf8Size + byteLength cs := rfl

@[simp] theorem byteLength_append (cs ds : List Char) :
    byteLength (cs ++ ds) = byteLength cs + byteLength ds := by
  induction cs with
  | nil => simp
  | cons c cs ih => rw [List.cons_append, byteLength_cons, byteLength_cons, ih, Nat.add_assoc]

theorem utf8ByteSize_ofList (cs : List Char) :
    (String.ofList cs).utf8ByteSize = byteLength cs := by
  induction cs with
  | nil => rfl
  | cons c cs ih =>
    rw [String.ofList_cons, String.utf8ByteSize_append, String.utf8ByteSize_singleton, ih,
      byteLength_cons]

theorem length_le_byteLength (cs : List Char) : cs.length ≤ byteLength cs := by
  induction cs with
  | nil => exact Nat.le_refl 0
  | cons c cs ih =>
    have hc := c.utf8Size_pos
    rw [byteLength_cons, List.length_cons]
    omega

/-- There are as many bytes as characters if and only if each character takes one byte. -/
theorem byteLength_eq_length_iff (cs : List Char) :
    byteLength cs = cs.length ↔ ∀ c ∈ cs, c.utf8Size = 1 := by
  induction cs with
  | nil => simp
  | cons c cs ih =>
    have hc := c.utf8Size_pos
    have hcs := length_le_byteLength cs
    rw [byteLength_cons, List.length_cons, List.forall_mem_cons, ← ih]
    omega

/-! ## Cuts -/

theorem dropBytes?_append (front back : List Char) :
    dropBytes? (byteLength front) (front ++ back) = some back := by
  induction front with
  | nil => cases back <;> rfl
  | cons c front ih =>
    have hc := c.utf8Size_pos
    rw [List.cons_append, dropBytes?, byteLength_cons, if_neg (by omega), if_pos (by omega),
      Nat.add_sub_cancel_left, ih]

theorem takeBytes?_append (front back : List Char) :
    takeBytes? (byteLength front) (front ++ back) = some front := by
  induction front with
  | nil => cases back <;> rfl
  | cons c front ih =>
    have hc := c.utf8Size_pos
    rw [List.cons_append, takeBytes?, byteLength_cons, if_neg (by omega), if_pos (by omega),
      Nat.add_sub_cancel_left, ih, Option.map_some]

theorem slice?_append (front piece back : List Char) :
    slice? (byteLength front) (byteLength (front ++ piece)) (front ++ piece ++ back) =
      some piece := by
  rw [slice?, if_pos (by simp), byteLength_append, Nat.add_sub_cancel_left, List.append_assoc,
    dropBytes?_append, Option.bind_some, takeBytes?_append]

end ConsoleLab.Text
