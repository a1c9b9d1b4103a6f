import Mathlib

/-!
# Counting loops over 32-bit indices

`firstBelow p start limit` is the loop

```
for (uint32 index = start; index < limit; ++index) if (p(index)) return index;
```

The counter is incremented only below `limit`, so it cannot wrap, and the fuel the recursion runs
on is exactly the number of indices between the two ends.  `firstBelow_eq_some` says that a result
is the least index of the range with the property, `firstBelow_eq_none` that an empty answer means
there is no such index.

A bound that lies at or below the start makes an empty range.  The test is a Boolean function of the
index, so a loop that looks at a data structure closes over it; what the loop returns is then
described by `firstBelow_eq_some` without the loop.
-/

set_option autoImplicit false

namespace Scan

/-- The loop of `firstBelow`, with the number of indices still to visit as fuel. -/
def firstBelowFrom (p : UInt32 → Bool) (limit : UInt32) : Nat → UInt32 → Option UInt32
  | 0, _ => none
  | fuel + 1, index =>
    if index < limit then
      if p index then some index else firstBelowFrom p limit fuel (index + 1)
    else none

/-- The least index from `start` up to, but not including, `limit` that satisfies `p`. -/
def firstBelow (p : UInt32 → Bool) (start limit : UInt32) : Option UInt32 :=
  firstBelowFrom p limit (limit.toNat - start.toNat) start

/-- Below another 32-bit number the increment does not wrap. -/
theorem toNat_add_one {index limit : UInt32} (h : index < limit) :
    (index + 1).toNat = index.toNat + 1 := by
  have hlt := UInt32.lt_iff_toNat_lt.mp h
  have hlimit := limit.toNat_lt
  rw [UInt32.toNat_add, UInt32.toNat_one]
  exact Nat.mod_eq_of_lt (by omega)

theorem firstBelowFrom_spec {p : UInt32 → Bool} {limit : UInt32} :
    ∀ {fuel : Nat} {index : UInt32}, limit.toNat - index.toNat ≤ fuel →
      (∀ c, firstBelowFrom p limit fuel index = some c →
        index ≤ c ∧ c < limit ∧ p c = true ∧ ∀ j, index ≤ j → j < c → p j = false) ∧
      (firstBelowFrom p limit fuel index = none → ∀ j, index ≤ j → j < limit → p j = false)
  | 0, index, hfuel => by
    refine ⟨fun c h ↦ by simp [firstBelowFrom] at h, fun _ j hj hlt ↦ ?_⟩
    have h1 := UInt32.le_iff_toNat_le.mp hj
    have h2 := UInt32.lt_iff_toNat_lt.mp hlt
    omega
  | fuel + 1, index, hfuel => by
    rw [firstBelowFrom]
    by_cases hlt : index < limit
    · rw [if_pos hlt]
      by_cases hp : p index = true
      · rw [if_pos hp]
        refine ⟨fun c h ↦ ?_, fun h ↦ by simp at h⟩
        cases h
        exact ⟨UInt32.le_refl _, hlt, hp,
          fun j hj hjc ↦ absurd hjc (UInt32.not_lt.mpr hj)⟩
      · rw [if_neg hp]
        have hnext := toNat_add_one hlt
        have hsucc : ∀ j, index ≤ j → j ≠ index → index + 1 ≤ j := fun j hj hne ↦ by
          rw [UInt32.le_iff_toNat_le] at hj ⊢
          have : j.toNat ≠ index.toNat := fun h ↦ hne (UInt32.toNat_inj.mp h)
          omega
        obtain ⟨hsome, hnone⟩ := @firstBelowFrom_spec p limit fuel (index + 1) (by omega)
        have hpf : p index = false := by simpa using hp
        refine ⟨fun c h ↦ ?_, fun h j hj hjl ↦ ?_⟩
        · obtain ⟨h1, h2, h3, h4⟩ := hsome c h
          refine ⟨?_, h2, h3, fun j hj hjc ↦ ?_⟩
          · rw [UInt32.le_iff_toNat_le] at h1 ⊢; omega
          · by_cases hji : j = index
            · rw [hji, hpf]
            · exact h4 j (hsucc j hj hji) hjc
        · by_cases hji : j = index
          · rw [hji, hpf]
          · exact hnone h j (hsucc j hj hji) hjl
    · rw [if_neg hlt]
      refine ⟨fun c h ↦ by simp at h, fun _ j hj hjl ↦ ?_⟩
      have h1 := UInt32.le_iff_toNat_le.mp hj
      have h2 := UInt32.lt_iff_toNat_lt.mp hjl
      exact absurd (UInt32.lt_iff_toNat_lt.mpr (by omega)) hlt

/-- A result of the loop is the least index of the range that satisfies the test. -/
theorem firstBelow_eq_some {p : UInt32 → Bool} {start limit c : UInt32}
    (h : firstBelow p start limit = some c) :
    start ≤ c ∧ c < limit ∧ p c = true ∧ ∀ j, start ≤ j → j < c → p j = false :=
  (firstBelowFrom_spec (Nat.le_refl _)).1 c h

/-- The loop comes back empty exactly when no index of the range satisfies the test. -/
theorem firstBelow_eq_none {p : UInt32 → Bool} {start limit : UInt32} :
    firstBelow p start limit = none ↔ ∀ j, start ≤ j → j < limit → p j = false := by
  refine ⟨(firstBelowFrom_spec (Nat.le_refl _)).2, fun h ↦ ?_⟩
  cases hc : firstBelow p start limit with
  | none => rfl
  | some c =>
    obtain ⟨h1, h2, h3, -⟩ := firstBelow_eq_some hc
    rw [h c h1 h2] at h3
    exact absurd h3 (by simp)

end Scan
