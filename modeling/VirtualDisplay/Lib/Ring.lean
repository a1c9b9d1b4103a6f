import Mathlib.Data.List.Basic

/-!
# A ring of the newest entries

Entries are written to a vector one after the other, each at its number modulo the size, so that the
vector holds the newest of them (`Ring.Holds`).

`Ring.holds_nil` and `Ring.Holds.push` are the two rules that keep it so, whatever the size is.
What a ring held before it was first written to does not matter, because `Ring.Holds` speaks of
entries that have been written only; a place whose entry has been overwritten is left free as well.
The entry numbers are plain numbers here.  A program that counts in machine words has to know that
its counter has not come round yet before it can use these rules.
-/

set_option autoImplicit false

namespace Ring

variable {α : Type} {size : Nat}

/-- The ring holds the newest of these entries, as far as there is room. -/
def Holds (ring : Vector α size) (entries : List α) : Prop :=
  ∀ i < entries.length, entries.length ≤ i + size → ring[i % size]? = entries[i]?

theorem holds_nil (ring : Vector α size) : Holds ring [] :=
  fun _ hi ↦ absurd hi (Nat.not_lt_zero _)

/-- Two numbers less than `size` apart do not share a place. -/
theorem mod_ne_of_lt {i j : Nat} (h : i < j) (hsize : j < i + size) : i % size ≠ j % size := by
  intro heq
  have hdvd : size ∣ j - i := Nat.dvd_of_mod_eq_zero (Nat.sub_mod_eq_zero_of_mod_eq heq.symm)
  exact absurd (Nat.le_of_dvd (by omega) hdvd) (by omega)

theorem Holds.push {ring : Vector α size} {entries : List α} (h : Holds ring entries)
    (hsize : 0 < size) (entry : α) :
    Holds (ring.set! (entries.length % size) entry) (entries ++ [entry]) := by
  intro i hi hroom
  rw [List.length_append, List.length_singleton] at hi hroom
  by_cases hlast : i = entries.length
  · subst hlast
    simp [Nat.mod_lt _ hsize]
  · have hne : entries.length % size ≠ i % size :=
      (mod_ne_of_lt (by omega) (by omega)).symm
    rw [List.getElem?_append_left (by omega), ← h i (by omega) (by omega)]
    simp [hne]

end Ring
