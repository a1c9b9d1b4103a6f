import VirtualDisplay.Lib.OrdMap

/-!
# Counting the entries of a map and the members of a bag

A system whose actors come and go keeps them in a bag, and the things they own in a map.  How many
of either have a property changes by one when an actor moves on or an entry is written; the lemmas
here say by how much, in the form `omega` takes.

* `OrdMap.countValues` — the entries of a map that have a property (`countValues_insert`,
  `countValues_erase`, `countValues_replace`).
* `Bag.not_of_countP_cons_le_one` — a property that at most one member of a bag has.

The maps are those of `Lib/OrdMap.lean`.  A property is a Boolean function here, so that counting is
a function too and can be evaluated.
-/

set_option autoImplicit false

open Std

namespace OrdMap

variable {α β : Type} [Ord α] [TransOrd α] [LawfulEqOrd α]

/-- How many values of the map have the property. -/
def countValues (m : OrdMap α β) (p : β → Bool) : Nat := (valueList m).countP p

omit [LawfulEqOrd α] in
theorem countValues_empty (p : β → Bool) : countValues (∅ : OrdMap α β) p = 0 := by
  rw [countValues, valueList, ExtTreeMap.toList_eq_nil_iff.mpr rfl, List.map_nil, List.countP_nil]

theorem nodup_toList (m : OrdMap α β) : m.toList.Nodup :=
  (pairwise_toList m).imp fun h heq ↦ h (congrArg Prod.fst heq)

variable [DecidableEq α] {m : OrdMap α β} {a : α} {v w : β}

/-- The entries of a map with one more key. -/
theorem toList_insert_perm (h : m[a]? = none) (v : β) :
    (m.insert a v).toList.Perm ((a, v) :: m.toList) := by
  have hnew : (a, v) ∉ m.toList := by
    rw [ExtTreeMap.mem_toList_iff_getElem?_eq_some, h]
    exact nofun
  refine (List.perm_ext_iff_of_nodup (nodup_toList _)
    (List.nodup_cons.mpr ⟨hnew, nodup_toList m⟩)).mpr fun e ↦ ?_
  obtain ⟨b, w⟩ := e
  rw [List.mem_cons, ExtTreeMap.mem_toList_iff_getElem?_eq_some,
    ExtTreeMap.mem_toList_iff_getElem?_eq_some, getElem?_insert, Prod.mk.injEq]
  by_cases hkey : a = b
  · subst hkey
    rw [if_pos rfl, h, Option.some.injEq]
    exact ⟨fun hv ↦ .inl ⟨rfl, hv.symm⟩, fun hw ↦ hw.elim (·.2.symm) nofun⟩
  · rw [if_neg hkey]
    exact ⟨.inr, fun hw ↦ hw.elim (fun heq ↦ absurd heq.1.symm hkey) id⟩

theorem countValues_insert (h : m[a]? = none) (v : β) (p : β → Bool) :
    countValues (m.insert a v) p = countValues m p + if p v then 1 else 0 := by
  rw [countValues, countValues, valueList, valueList,
    ((toList_insert_perm h v).map Prod.snd).countP_eq, List.map_cons, List.countP_cons]

theorem countValues_erase (h : m[a]? = some v) (p : β → Bool) :
    countValues m p = countValues (m.erase a) p + if p v then 1 else 0 := by
  have habsent : (m.erase a)[a]? = none := by
    rw [getElem?_erase, if_pos rfl]
  have hback : (m.erase a).insert a v = m := by
    refine ExtTreeMap.ext_getElem? fun b ↦ ?_
    rw [getElem?_insert, getElem?_erase]
    by_cases hkey : a = b
    · rw [if_pos hkey, ← hkey, h]
    · rw [if_neg hkey, if_neg hkey]
  rw [← countValues_insert habsent v p, hback]

/-- Writing another value under a key that is there. -/
theorem countValues_replace (h : m[a]? = some v) (w : β) (p : β → Bool) :
    countValues (m.insert a w) p + (if p v then 1 else 0) =
      countValues m p + if p w then 1 else 0 := by
  have habsent : (m.erase a)[a]? = none := by
    rw [getElem?_erase, if_pos rfl]
  have hinsert : m.insert a w = (m.erase a).insert a w := by
    refine ExtTreeMap.ext_getElem? fun b ↦ ?_
    rw [getElem?_insert, getElem?_insert, getElem?_erase]
    by_cases hkey : a = b
    · rw [if_pos hkey, if_pos hkey]
    · rw [if_neg hkey, if_neg hkey, if_neg hkey]
  have herase := countValues_erase h p
  have hwrite := countValues_insert habsent w p
  rw [hinsert]
  omega

end OrdMap

namespace Bag

variable {α : Type} {s : Multiset α} {a : α} {p : α → Prop} [DecidablePred p]

/-- If at most one member of a bag has a property, no other than a given one does. -/
theorem not_of_countP_cons_le_one (h : (a ::ₘ s).countP p ≤ 1) (ha : p a) : ∀ b ∈ s, ¬p b := by
  rw [Multiset.countP_cons_of_pos s ha] at h
  exact Multiset.countP_eq_zero.mp (by omega)

end Bag
