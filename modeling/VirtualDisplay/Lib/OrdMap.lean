import Mathlib

/-!
# Ordered finite maps

`OrdMap α β` is Std's extensional tree map under the order of its keys: two maps with the same
entries are equal, and iteration goes through the keys in increasing order.  Std supplies lookup,
insertion, erasure and mapping; what a program that walks such a map needs on top of that is
collected here.

* `getElem?_insert`, `getElem?_erase`, `getElem?_map` — lookups after an update.
* `insert_eq_self_iff`, `erase_eq_self_iff` — updates that change nothing.
* `anyEntry` — does some entry satisfy a test?  (`anyEntry_iff`)
* `eraseIf` — walk the map once, erasing the entries that satisfy a test.  (`getElem?_eraseIf`)
* `valueList` — the values in key order.  (`mem_valueList`)
* `foldl_toList_induct`, `foldl_toList` — what a walk does that changes the map only where it is.
* `exists_unused` — a sequence without repetitions leaves the entries of a finite map.
* `Separates f m` — no two entries of `m` have the same `f`.  (`Separates.insert`,
  `Separates.of_entries`)

`eraseIf` is a fold of `erase` over the entries rather than Std's `filter`: the two agree, but the
fold is the loop a program runs, and it reduces by `decide` where the rebalancing of `filter` does
not.
-/

set_option autoImplicit false

open Std

/-- A finite map that is iterated in the order of its keys. -/
abbrev OrdMap (α β : Type) [Ord α] := ExtTreeMap α β

namespace OrdMap

variable {α β : Type} [Ord α] [TransOrd α] [LawfulEqOrd α]

/-! ## Lookups, with the keys compared by equality -/

theorem getElem?_insert [DecidableEq α] (m : OrdMap α β) (a b : α) (v : β) :
    (m.insert a v)[b]? = if a = b then some v else m[b]? := by
  rw [ExtTreeMap.getElem?_insert]
  simp

theorem getElem?_erase [DecidableEq α] (m : OrdMap α β) (a b : α) :
    (m.erase a)[b]? = if a = b then none else m[b]? := by
  rw [ExtTreeMap.getElem?_erase]
  simp

theorem getElem?_map {γ : Type} (f : α → β → γ) (m : OrdMap α β) (a : α) :
    (m.map f)[a]? = m[a]?.map (f a) := ExtTreeMap.getElem?_map

theorem insert_eq_self_iff [DecidableEq α] {m : OrdMap α β} {a : α} {v : β} :
    m.insert a v = m ↔ m[a]? = some v := by
  constructor
  · intro h
    rw [← h, getElem?_insert, if_pos rfl]
  · intro h
    refine ExtTreeMap.ext_getElem? fun b ↦ ?_
    rw [getElem?_insert]
    split_ifs with hb
    · rw [← hb, h]
    · rfl

theorem erase_eq_self_iff [DecidableEq α] {m : OrdMap α β} {a : α} :
    m.erase a = m ↔ m[a]? = none := by
  constructor
  · intro h
    rw [← h, getElem?_erase, if_pos rfl]
  · intro h
    refine ExtTreeMap.ext_getElem? fun b ↦ ?_
    rw [getElem?_erase]
    split_ifs with hb
    · rw [← hb, h]
    · rfl

theorem erase_insert [DecidableEq α] (m : OrdMap α β) (a : α) (v : β) :
    (m.insert a v).erase a = m.erase a := by
  refine ExtTreeMap.ext_getElem? fun b ↦ ?_
  rw [getElem?_erase, getElem?_erase, getElem?_insert]
  split_ifs <;> rfl

/-! ## Testing the entries -/

/-- Some entry of the map satisfies the test. -/
def anyEntry (m : OrdMap α β) (p : α → β → Bool) : Bool :=
  m.toList.any fun e ↦ p e.1 e.2

theorem anyEntry_iff {m : OrdMap α β} {p : α → β → Bool} :
    anyEntry m p = true ↔ ∃ (k : α) (v : β), m[k]? = some v ∧ p k v = true := by
  simp only [anyEntry, List.any_eq_true, Prod.exists]
  exact ⟨fun ⟨k, v, h, hp⟩ ↦ ⟨k, v, ExtTreeMap.mem_toList_iff_getElem?_eq_some.mp h, hp⟩,
    fun ⟨k, v, h, hp⟩ ↦ ⟨k, v, ExtTreeMap.mem_toList_iff_getElem?_eq_some.mpr h, hp⟩⟩

theorem anyEntry_eq_false {m : OrdMap α β} {p : α → β → Bool} :
    anyEntry m p = false ↔ ∀ (k : α) (v : β), m[k]? = some v → p k v = false := by
  rw [← Bool.not_eq_true, anyEntry_iff]
  simp only [not_exists, not_and, Bool.not_eq_true]

/-! ## Erasing while walking -/

/-- Walk the map in key order and erase every entry that satisfies the test. -/
def eraseIf (m : OrdMap α β) (p : α → β → Bool) : OrdMap α β :=
  m.toList.foldl (fun m e ↦ if p e.1 e.2 then m.erase e.1 else m) m

/-- Erasing along a list of visited entries: a key keeps its value unless the list has a hit for
it. -/
theorem getElem?_foldl_erase (p : α → β → Bool) (l : List (α × β)) (m : OrdMap α β) (a : α)
    (v : β) :
    (l.foldl (fun m e ↦ if p e.1 e.2 then m.erase e.1 else m) m)[a]? = some v ↔
      m[a]? = some v ∧ ∀ w, (a, w) ∈ l → p a w = false := by
  induction l generalizing m with
  | nil => simp
  | cons e l ih =>
    obtain ⟨k, w⟩ := e
    rw [List.foldl_cons, ih]
    by_cases hk : k = a
    · subst hk
      cases hp : p k w <;> simp [hp]
    · have hm : (if p k w = true then m.erase k else m)[a]? = m[a]? := by
        split
        · simp [ExtTreeMap.getElem?_erase, hk]
        · rfl
      simp [hm, Ne.symm hk]

theorem getElem?_eraseIf_eq_some {m : OrdMap α β} {p : α → β → Bool} {a : α} {v : β} :
    (eraseIf m p)[a]? = some v ↔ m[a]? = some v ∧ p a v = false := by
  rw [eraseIf, getElem?_foldl_erase]
  refine and_congr_right fun h ↦ ⟨fun hl ↦ ?_, fun hp w hw ↦ ?_⟩
  · exact hl v (ExtTreeMap.mem_toList_iff_getElem?_eq_some.mpr h)
  · rw [ExtTreeMap.mem_toList_iff_getElem?_eq_some, h, Option.some_inj] at hw
    rwa [← hw]

theorem getElem?_eraseIf {m : OrdMap α β} {p : α → β → Bool} {a : α} :
    (eraseIf m p)[a]? = m[a]?.filter fun v ↦ !p a v := by
  refine Option.ext fun v ↦ ?_
  rw [getElem?_eraseIf_eq_some, Option.filter_eq_some_iff]
  simp

/-! ## The values in key order -/

/-- The values of the map, in the order of their keys. -/
def valueList (m : OrdMap α β) : List β := m.toList.map Prod.snd

theorem mem_valueList {m : OrdMap α β} {v : β} : v ∈ valueList m ↔ ∃ k : α, m[k]? = some v := by
  simp only [valueList, List.mem_map, Prod.exists, exists_eq_right]
  exact ⟨fun ⟨k, h⟩ ↦ ⟨k, ExtTreeMap.mem_toList_iff_getElem?_eq_some.mp h⟩,
    fun ⟨k, h⟩ ↦ ⟨k, ExtTreeMap.mem_toList_iff_getElem?_eq_some.mpr h⟩⟩

/-! ## Mapping the values -/

section

variable {γ : Type} [DecidableEq α] (f : β → γ) (m : OrdMap α β)

theorem map_insert (a : α) (v : β) :
    (m.insert a v).map (fun _ ↦ f) = (m.map fun _ ↦ f).insert a (f v) := by
  refine ExtTreeMap.ext_getElem? fun b ↦ ?_
  rw [getElem?_map, getElem?_insert, getElem?_insert, getElem?_map]
  split <;> rfl

theorem map_erase (a : α) : (m.erase a).map (fun _ ↦ f) = (m.map fun _ ↦ f).erase a := by
  refine ExtTreeMap.ext_getElem? fun b ↦ ?_
  rw [getElem?_map, getElem?_erase, getElem?_erase, getElem?_map]
  split <;> rfl

omit [LawfulEqOrd α] [DecidableEq α] in
theorem anyEntry_map {p : α → γ → Bool} {q : α → β → Bool} (h : ∀ a v, p a (f v) = q a v) :
    anyEntry (m.map fun _ ↦ f) p = anyEntry m q := by
  simp only [anyEntry, ExtTreeMap.toList_map, List.any_map]
  congr 1
  funext e
  exact h e.1 e.2

omit [DecidableEq α] in
theorem map_eraseIf {p : α → γ → Bool} {q : α → β → Bool} (h : ∀ a v, p a (f v) = q a v) :
    (eraseIf m q).map (fun _ ↦ f) = eraseIf (m.map fun _ ↦ f) p := by
  refine ExtTreeMap.ext_getElem? fun b ↦ ?_
  rw [getElem?_map, getElem?_eraseIf, getElem?_eraseIf, getElem?_map]
  cases m[b]? with
  | none => rfl
  | some v => simp only [Option.filter_some, Option.map_some, h]; split <;> rfl

omit [LawfulEqOrd α] [DecidableEq α] in
theorem valueList_map : valueList (m.map fun _ ↦ f) = (valueList m).map f := by
  simp only [valueList, ExtTreeMap.toList_map, List.map_map]
  rfl

end

/-! ## Changing the map while walking -/

theorem pairwise_toList (m : OrdMap α β) : m.toList.Pairwise fun e e' ↦ e.1 ≠ e'.1 :=
  ExtTreeMap.distinct_keys_toList.imp fun h heq ↦ h (compare_eq_iff_eq.mpr heq)

/-- A walk over the entries of the map `m s₀`, with a state that holds the map.  If each pass
changes the map at most at the key it is at, then each pass finds its entry as it was at the
beginning.  So an invariant of the passes holds at the end; and what each pass brings about at its
key holds at every key, if the passes at other keys do not undo it. -/
theorem foldl_toList_induct {σ : Type} {m : σ → OrdMap α β} {f : σ → α × β → σ}
    {I : σ → Prop} {Q : σ → α → Prop} (s₀ : σ) (hinitially : I s₀)
    (habsent : ∀ b, (m s₀)[b]? = none → Q s₀ b)
    (hpass : ∀ (s : σ) (a : α) (v : β), I s → (m s₀)[a]? = some v → (m s)[a]? = some v →
      I (f s (a, v)) ∧ Q (f s (a, v)) a ∧
        ∀ b, a ≠ b → (m (f s (a, v)))[b]? = (m s)[b]? ∧ (Q s b → Q (f s (a, v)) b)) :
    I ((m s₀).toList.foldl f s₀) ∧ ∀ b, Q ((m s₀).toList.foldl f s₀) b := by
  have hwalk (l : List (α × β)) (hdistinct : l.Pairwise fun e e' ↦ e.1 ≠ e'.1) (s : σ)
      (hs : I s) (hinitial : ∀ e ∈ l, (m s₀)[e.1]? = some e.2)
      (hpresent : ∀ e ∈ l, (m s)[e.1]? = some e.2)
      (hdone : ∀ b, (∀ e ∈ l, e.1 ≠ b) → Q s b) : I (l.foldl f s) ∧ ∀ b, Q (l.foldl f s) b := by
    induction l generalizing s with
    | nil => exact ⟨hs, fun b ↦ hdone b fun e he ↦ (nomatch he)⟩
    | cons e l ih =>
      rw [List.pairwise_cons] at hdistinct
      rw [List.foldl_cons]
      rcases hpass s e.1 e.2 hs (hinitial e List.mem_cons_self) (hpresent e List.mem_cons_self)
        with ⟨hs', hhere, hother⟩
      refine ih hdistinct.2 _ hs' (fun e' he' ↦ hinitial e' (List.mem_cons_of_mem _ he'))
        (fun e' he' ↦ ?_) fun b hb ↦ ?_
      · rw [(hother e'.1 (hdistinct.1 e' he')).1]
        exact hpresent e' (List.mem_cons_of_mem _ he')
      · by_cases hkey : e.1 = b
        · exact hkey ▸ hhere
        · refine (hother b hkey).2 (hdone b fun e' he' ↦ ?_)
          rcases List.mem_cons.mp he' with rfl | he'
          · exact hkey
          · exact hb e' he'
  have hentries : ∀ e ∈ (m s₀).toList, (m s₀)[e.1]? = some e.2 := fun e he ↦
    ExtTreeMap.mem_toList_iff_getElem?_eq_some.mp he
  refine hwalk _ (pairwise_toList _) s₀ hinitially hentries hentries fun b hb ↦ habsent b ?_
  rw [Option.eq_none_iff_forall_ne_some]
  exact fun v hv ↦ hb (b, v) (ExtTreeMap.mem_toList_iff_getElem?_eq_some.mpr hv) rfl

/-- Steps that relate the states before and after a pass relate those before and after the walk. -/
theorem foldl_toList {σ : Type} {R : σ → σ → Prop} {m : σ → OrdMap α β} {f : σ → α × β → σ}
    (hpass : ∀ (s : σ) (a : α) (v : β), (m s)[a]? = some v →
      Relation.ReflTransGen R s (f s (a, v)) ∧
        ∀ b, a ≠ b → (m (f s (a, v)))[b]? = (m s)[b]?) (s : σ) :
    Relation.ReflTransGen R s ((m s).toList.foldl f s) := by
  refine (foldl_toList_induct (I := Relation.ReflTransGen R s) (Q := fun _ _ ↦ True) s .refl
    (fun _ _ ↦ trivial) fun s' a v hs' _ hv ↦ ?_).1
  rcases hpass s' a v hv with ⟨hsteps, hother⟩
  exact ⟨hs'.trans hsteps, trivial, fun b hb ↦ ⟨hother b hb, id⟩⟩

/-! ## Keys recovered from a field of the value -/

/-- No two entries of the map have the same `f`: the field determines the key. -/
def Separates {γ : Type} (f : β → γ) (m : OrdMap α β) : Prop :=
  ∀ (a b : α) (v w : β), m[a]? = some v → m[b]? = some w → f v = f w → a = b

namespace Separates

variable {γ : Type} {f : β → γ} {m m' : OrdMap α β}

omit [LawfulEqOrd α] in
theorem empty : Separates f (∅ : OrdMap α β) := fun a _ _ _ h ↦ by simp at h

/-- An entry whose field no other entry has may be added. -/
theorem insert [DecidableEq α] (h : Separates f m) {a : α} {v : β}
    (hnew : ∀ (b : α) (w : β), m[b]? = some w → f w ≠ f v) : Separates f (m.insert a v) := by
  intro b c x y hb hc heq
  rw [getElem?_insert] at hb hc
  split_ifs at hb hc with hab hac hac
  · exact hab.symm.trans hac
  · cases hb; exact absurd heq.symm (hnew c y hc)
  · cases hc; exact absurd heq (hnew b x hb)
  · exact h b c x y hb hc heq

omit [LawfulEqOrd α] in
/-- A map all of whose entries were there before, with the same field, is separated too. -/
theorem of_entries (h : Separates f m)
    (hentries : ∀ (a : α) (v' : β), m'[a]? = some v' → ∃ v, m[a]? = some v ∧ f v' = f v) :
    Separates f m' := by
  intro a b v w ha hb heq
  obtain ⟨v₀, hv, hfv⟩ := hentries a v ha
  obtain ⟨w₀, hw, hfw⟩ := hentries b w hb
  exact h a b v₀ w₀ hv hw (hfv.symm.trans (heq.trans hfw))

end Separates

/-! ## Counting the entries -/

/-- Somewhere among its first `n + 1` values a sequence without repetitions leaves the field of
every entry of a map with `n` entries. -/
theorem exists_unused {γ : Type} (m : OrdMap α β) (field : β → γ) (f : Nat → γ)
    (hf : ∀ i j, i < j → j ≤ m.size → f i ≠ f j) :
    ∃ i ≤ m.size, ∀ (a : α) (v : β), m[a]? = some v → field v ≠ f i := by
  classical
  by_contra hused
  push Not at hused
  have hmaps : ∀ i ∈ Finset.range (m.size + 1),
      f i ∈ (m.toList.map fun e ↦ field e.2).toFinset := by
    intro i hi
    obtain ⟨a, v, hv, heq⟩ := hused i (Nat.lt_succ_iff.mp (Finset.mem_range.mp hi))
    rw [List.mem_toFinset, ← heq]
    exact List.mem_map_of_mem (f := fun e ↦ field e.2)
      (ExtTreeMap.mem_toList_iff_getElem?_eq_some.mpr hv)
  have hcard : (m.toList.map fun e ↦ field e.2).toFinset.card <
      (Finset.range (m.size + 1)).card := by
    rw [Finset.card_range]
    refine Nat.lt_succ_of_le ((List.toFinset_card_le _).trans ?_)
    rw [List.length_map, ExtTreeMap.length_toList]
  obtain ⟨i, hi, j, hj, hne, heq⟩ := Finset.exists_ne_map_eq_of_card_lt_of_maps_to hcard hmaps
  rw [Finset.mem_range] at hi hj
  rcases Nat.lt_or_gt_of_ne hne with hlt | hlt
  · exact hf i j hlt (by omega) heq
  · exact hf j i hlt (by omega) heq.symm

end OrdMap
