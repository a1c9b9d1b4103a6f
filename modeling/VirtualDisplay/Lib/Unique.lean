import Mathlib

/-!
# Lists without two entries of one key

A catalog grows by entries that are appended unless one of their key is there already, and the
caller learns the place of the entry that has the key.  `Unique.append` is one such call and
`Unique.Grows` what any number of them do to a list: it stays a prefix, and if its keys were
distinct they stay so.
-/

set_option autoImplicit false

namespace Unique

variable {α κ : Type} {key : α → κ}

/-! ## Growth -/

/-- What appending does to a list, however often. -/
structure Grows (key : α → κ) (l l' : List α) : Prop where
  isPrefix : l <+: l'
  nodup : (l.map key).Nodup → (l'.map key).Nodup

namespace Grows

variable {l l' l'' : List α}

theorem refl (l : List α) : Grows key l l := ⟨List.prefix_refl l, id⟩

theorem trans (h : Grows key l l') (h' : Grows key l' l'') : Grows key l l'' :=
  ⟨h.isPrefix.trans h'.isPrefix, fun hnodup ↦ h'.nodup (h.nodup hnodup)⟩

theorem mem_keys (h : Grows key l l') {k : κ} (hk : k ∈ l.map key) : k ∈ l'.map key :=
  (h.isPrefix.map key).subset hk

/-- An entry keeps its place. -/
theorem getElem? (h : Grows key l l') {i : Nat} {a : α} (ha : l[i]? = some a) :
    l'[i]? = some a := by
  obtain ⟨more, rfl⟩ := h.isPrefix
  obtain ⟨hlt, -⟩ := List.getElem?_eq_some_iff.mp ha
  rw [List.getElem?_append_left hlt, ha]

end Grows

/-! ## Appending unless present -/

variable [DecidableEq κ]

/-- The list with an entry of the key of `a`, and the place of the first. -/
def append (key : α → κ) (l : List α) (a : α) : List α × Nat :=
  match l.findIdx? fun b ↦ key b = key a with
  | some index => (l, index)
  | none => (l ++ [a], l.length)

/-- Either the key is there already, or the entry is appended. -/
theorem append_cases (key : α → κ) (l : List α) (a : α) :
    (key a ∈ l.map key ∧ (append key l a).1 = l) ∨
      (key a ∉ l.map key ∧ (append key l a).1 = l ++ [a]) := by
  rw [append]
  cases hfind : l.findIdx? fun b ↦ key b = key a with
  | some index =>
    obtain ⟨hlt, hkey, -⟩ := List.findIdx?_eq_some_iff_getElem.mp hfind
    exact .inl ⟨List.mem_map.mpr ⟨l[index], List.getElem_mem hlt, of_decide_eq_true hkey⟩, rfl⟩
  | none =>
    refine .inr ⟨fun hmem ↦ ?_, rfl⟩
    obtain ⟨b, hb, hkey⟩ := List.mem_map.mp hmem
    exact of_decide_eq_false (List.findIdx?_eq_none_iff.mp hfind b hb) hkey

theorem append_of_mem {l : List α} {a : α} (h : key a ∈ l.map key) : (append key l a).1 = l := by
  obtain ⟨-, heq⟩ | ⟨habsent, -⟩ := append_cases key l a
  · exact heq
  · exact absurd h habsent

/-- The place that the caller learns holds an entry of the key. -/
theorem append_index (key : α → κ) (l : List α) (a : α) :
    ∃ b, (append key l a).1[(append key l a).2]? = some b ∧ key b = key a := by
  rw [append]
  cases hfind : l.findIdx? fun b ↦ key b = key a with
  | some index =>
    obtain ⟨hlt, hkey, -⟩ := List.findIdx?_eq_some_iff_getElem.mp hfind
    exact ⟨l[index], List.getElem?_eq_getElem hlt, of_decide_eq_true hkey⟩
  | none => exact ⟨a, List.getElem?_concat_length, rfl⟩

theorem mem_keys_append (key : α → κ) (l : List α) (a : α) :
    key a ∈ (append key l a).1.map key := by
  obtain ⟨b, hb, hkey⟩ := append_index key l a
  exact List.mem_map.mpr ⟨b, List.mem_of_getElem? hb, hkey⟩

theorem Grows.append (key : α → κ) (l : List α) (a : α) :
    Grows key l (Unique.append key l a).1 := by
  obtain ⟨-, heq⟩ | ⟨habsent, heq⟩ := append_cases key l a
  · rw [heq]
    exact Grows.refl l
  · rw [heq]
    refine ⟨List.prefix_append l [a], fun hnodup ↦ ?_⟩
    rw [List.map_append, List.map_singleton]
    exact List.nodup_append_comm.mp (List.nodup_cons.mpr ⟨habsent, hnodup⟩)

end Unique
