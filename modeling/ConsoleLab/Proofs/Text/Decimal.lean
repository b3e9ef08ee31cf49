/-
  ConsoleLab.Proofs.Text.Decimal — which texts are numbers.

  A number is a row of digits, with or without a sign (`Decimal`); nothing else is read as one,
  and it is read as the 64-bit integer that stands for it if there is one
  (`readInt64?_eq_some_iff`).
-/

import ConsoleLab.Text.Decimal

namespace ConsoleLab.Text

inductive Decimal : List Char → Int → Prop
  | plain {digits : List Char} : digits ≠ [] → (∀ c ∈ digits, isDigit c = true) →
      Decimal digits (digitsValue digits)
  | plus {digits : List Char} : digits ≠ [] → (∀ c ∈ digits, isDigit c = true) →
      Decimal ('+' :: digits) (digitsValue digits)
  | minus {digits : List Char} : digits ≠ [] → (∀ c ∈ digits, isDigit c = true) →
      Decimal ('-' :: digits) (-(digitsValue digits))

theorem readNat?_eq_some_iff {digits : List Char} {n : Nat} :
    readNat? digits = some n ↔
      digits ≠ [] ∧ (∀ c ∈ digits, isDigit c = true) ∧ digitsValue digits = n := by
  unfold readNat?
  by_cases hempty : digits = []
  · simp [hempty]
  · simp [hempty]

theorem readInt?_eq_some_iff {cs : List Char} {n : Int} : readInt? cs = some n ↔ Decimal cs n := by
  constructor
  · intro h
    unfold readInt? at h
    split at h
    all_goals
      simp only [Option.map_eq_some_iff, Option.bind_eq_bind, Option.bind_eq_some_iff,
        Option.pure_def, Option.some.injEq] at h
      obtain ⟨_, ⟨m, hm, rfl⟩, rfl⟩ := h
      obtain ⟨hne, hdigits, rfl⟩ := readNat?_eq_some_iff.mp hm
    · exact .plus hne hdigits
    · exact .minus hne hdigits
    · exact .plain hne hdigits
  · intro h
    cases h with
    | plus hne hdigits | minus hne hdigits =>
      simp [readInt?, readNat?_eq_some_iff.mpr ⟨hne, hdigits, rfl⟩]
    | plain hne hdigits =>
      -- a digit is no sign, so the last case of the reader applies
      have hsign : ∀ (sign : Char) (rest : List Char), isDigit sign = false → cs ≠ sign :: rest := by
        rintro sign rest hs rfl
        rw [hdigits sign List.mem_cons_self] at hs
        cases hs
      unfold readInt?
      split
      · exact absurd rfl (hsign '+' _ rfl)
      · exact absurd rfl (hsign '-' _ rfl)
      · simp [readNat?_eq_some_iff.mpr ⟨hne, hdigits, rfl⟩]

theorem int64OfInt?_eq_some_iff {m : Int} {n : Int64} : int64OfInt? m = some n ↔ n.toInt = m := by
  unfold int64OfInt?
  constructor
  · intro h
    split at h
    · rename_i hin
      cases h
      exact Int64.toInt_ofInt_of_le hin.1 (Int.lt_of_le_of_lt hin.2 (by decide))
    · cases h
  · rintro rfl
    rw [if_pos ⟨n.minValue_le_toInt, n.toInt_le⟩, Int64.ofInt_toInt]

theorem int64OfInt?_natCast_eq_none_iff {m : Nat} :
    int64OfInt? m = none ↔ Int64.maxValue.toInt < m := by
  unfold int64OfInt?
  by_cases hhigh : (m : Int) ≤ Int64.maxValue.toInt
  · have hlow : Int64.minValue.toInt ≤ (m : Int) :=
      Int.le_trans (by decide) (Int.natCast_nonneg m)
    rw [if_pos ⟨hlow, hhigh⟩]
    exact ⟨nofun, fun h => absurd hhigh (Int.not_le.mpr h)⟩
  · rw [if_neg fun h => hhigh h.2]
    exact ⟨fun _ => Int.not_le.mp hhigh, fun _ => rfl⟩

/-- Exactly the decimals in range are read as 64-bit integers. -/
theorem readInt64?_eq_some_iff {s : String} {n : Int64} :
    readInt64? s = some n ↔ Decimal s.toList n.toInt := by
  rw [← readInt?_eq_some_iff, readInt64?, Option.bind_eq_some_iff]
  simp only [int64OfInt?_eq_some_iff]
  exact ⟨fun ⟨m, hm, hn⟩ => hn ▸ hm, fun h => ⟨n.toInt, h, rfl⟩⟩

end ConsoleLab.Text
