import VirtualDisplay.WindowsDriver.State

/-!
# The table of temporary display profiles

The driver enters a profile in its table when a display identity is to be retained and removes it
when the identity is given up (`upsert_temporary_display_profile` and
`remove_temporary_display_profile` of `windows_driver_state.cpp`).  An entry displaces the one of
its own display and the one that held its connector, so a table that grew from the empty one never
refuses a valid profile: there are as many places as there are connectors for temporary displays.

* `length_le_of_connectors` — the pigeonhole argument, over the connector indices alone.
* `WellFormed` — distinct displays on distinct connectors, every entry valid.
* `WellFormed.upsert_eq` — what entering a valid profile does to such a table.

## What is here

* `upsertTemporaryDisplayProfile`, `removeTemporaryDisplayProfile` — the functions of the source.
* `ProfileTable` — tables that have come about by calls of these from the empty one.
* `cons_beside` — a valid profile joins what is left beside it.
* `profileTable_upsert` — every table that has grown from the empty one takes every valid profile,
  and is well formed again.

A table that was read from the registry may be another matter: what the parser accepts has valid
profiles, but they need not be on different connectors.
-/

set_option autoImplicit false

namespace VirtualDisplay

/-! ## The two operations -/

/-- The profile takes the place of the one of its display, and the connector from any other one; it
is refused if it is not valid, or if the table is full. -/
def upsertTemporaryDisplayProfile (profiles : List TemporaryDisplayProfile)
    (profile : TemporaryDisplayProfile) : Option (List TemporaryDisplayProfile) :=
  if !validTemporaryDisplayProfile profile.displayId profile.connectorIndex then none
  else
    let profiles := profiles.filter fun entry ↦
      !(entry.connectorIndex == profile.connectorIndex && entry.displayId != profile.displayId)
    match profiles.findIdx? fun entry ↦ entry.displayId == profile.displayId with
    | some existing => some (profiles.set existing profile)
    | none =>
      if kWindowsDriverMaxTemporaryDisplays.toNat ≤ profiles.length then none
      else some (profiles ++ [profile])

/-- The profile of a display is gone. -/
def removeTemporaryDisplayProfile (profiles : List TemporaryDisplayProfile) (displayId : UInt64) :
    List TemporaryDisplayProfile :=
  profiles.filter fun entry ↦ !(entry.displayId == displayId)

/-- The tables that grow from the empty one; a refused profile leaves the table as it was. -/
inductive ProfileTable : List TemporaryDisplayProfile → Prop
  | empty : ProfileTable []
  | upsert {profiles result : List TemporaryDisplayProfile} (profile : TemporaryDisplayProfile) :
      ProfileTable profiles → upsertTemporaryDisplayProfile profiles profile = some result →
        ProfileTable result
  | remove {profiles : List TemporaryDisplayProfile} (displayId : UInt64) :
      ProfileTable profiles → ProfileTable (removeTemporaryDisplayProfile profiles displayId)

/-- What remains of a table beside a profile: the entries of other displays on other
connectors. -/
def besideProfile (profiles : List TemporaryDisplayProfile) (profile : TemporaryDisplayProfile) :
    List TemporaryDisplayProfile :=
  profiles.filter fun entry ↦
    entry.displayId != profile.displayId && entry.connectorIndex != profile.connectorIndex

/-! ## As many places as connectors -/

/-- Distinct connectors of temporary displays are at most eight. -/
theorem length_le_of_connectors {connectors : List UInt32} (hnodup : connectors.Nodup)
    (hrange : ∀ connector ∈ connectors, kWindowsDriverMaxPermanentDisplays ≤ connector ∧
      connector < kWindowsDriverMaxPermanentDisplays + kWindowsDriverMaxTemporaryDisplays) :
    connectors.length ≤ kWindowsDriverMaxTemporaryDisplays.toNat := by
  have hnodup' : (connectors.map UInt32.toNat).Nodup :=
    hnodup.map fun _ _ h ↦ UInt32.toNat_inj.mp h
  have hsub : (connectors.map UInt32.toNat).toFinset ⊆ Finset.Ico 4 12 := by
    intro i hi
    obtain ⟨connector, hconnector, rfl⟩ := List.mem_map.mp (List.mem_toFinset.mp hi)
    obtain ⟨hle, hlt⟩ := hrange connector hconnector
    exact Finset.mem_Ico.mpr ⟨UInt32.le_iff_toNat_le.mp hle, UInt32.lt_iff_toNat_lt.mp hlt⟩
  have hcard := Finset.card_le_card hsub
  rw [List.toFinset_card_of_nodup hnodup', List.length_map, Nat.card_Ico] at hcard
  exact hcard

theorem connector_range {profile : TemporaryDisplayProfile} (h : profile.isValid = true) :
    kWindowsDriverMaxPermanentDisplays ≤ profile.connectorIndex ∧
      profile.connectorIndex <
        kWindowsDriverMaxPermanentDisplays + kWindowsDriverMaxTemporaryDisplays := by
  rw [TemporaryDisplayProfile.isValid, validTemporaryDisplayProfile, Bool.and_eq_true,
    Bool.and_eq_true, decide_eq_true_iff, decide_eq_true_iff] at h
  exact ⟨h.1.2, h.2⟩

/-! ## Well-formed tables -/

/-- Distinct displays on distinct connectors, and every entry valid. -/
structure WellFormed (profiles : List TemporaryDisplayProfile) : Prop where
  displays : (profiles.map (·.displayId)).Nodup
  connectors : (profiles.map (·.connectorIndex)).Nodup
  valid : ∀ entry ∈ profiles, entry.isValid = true

namespace WellFormed

variable {profiles : List TemporaryDisplayProfile} {profile : TemporaryDisplayProfile}

theorem nil : WellFormed [] := ⟨List.nodup_nil, List.nodup_nil, nofun⟩

theorem length_le (h : WellFormed profiles) :
    profiles.length ≤ kWindowsDriverMaxTemporaryDisplays.toNat := by
  have hlength := length_le_of_connectors h.connectors fun connector hconnector ↦ by
    obtain ⟨entry, hentry, rfl⟩ := List.mem_map.mp hconnector
    exact connector_range (h.valid entry hentry)
  rwa [List.length_map] at hlength

theorem sublist {profiles' : List TemporaryDisplayProfile} (h : WellFormed profiles)
    (hsub : profiles'.Sublist profiles) : WellFormed profiles' :=
  ⟨h.displays.sublist (hsub.map _), h.connectors.sublist (hsub.map _),
    fun entry hentry ↦ h.valid entry (hsub.subset hentry)⟩

theorem remove (h : WellFormed profiles) (displayId : UInt64) :
    WellFormed (removeTemporaryDisplayProfile profiles displayId) :=
  h.sublist List.filter_sublist

theorem perm {profiles' : List TemporaryDisplayProfile} (h : WellFormed profiles)
    (hperm : profiles.Perm profiles') : WellFormed profiles' :=
  ⟨(hperm.map _).nodup_iff.mp h.displays, (hperm.map _).nodup_iff.mp h.connectors,
    fun entry hentry ↦ h.valid entry (hperm.mem_iff.mpr hentry)⟩

/-- A valid profile may join what remains beside it. -/
theorem cons_beside (h : WellFormed profiles) (hvalid : profile.isValid = true) :
    WellFormed (profile :: besideProfile profiles profile) := by
  have hbeside : WellFormed (besideProfile profiles profile) := h.sublist List.filter_sublist
  have hother : ∀ entry ∈ besideProfile profiles profile,
      entry.displayId ≠ profile.displayId ∧ entry.connectorIndex ≠ profile.connectorIndex := by
    intro entry hentry
    simpa using (List.mem_filter.mp hentry).2
  refine ⟨?_, ?_, ?_⟩
  · rw [List.map_cons, List.nodup_cons]
    refine ⟨fun hmem ↦ ?_, hbeside.displays⟩
    obtain ⟨entry, hentry, heq⟩ := List.mem_map.mp hmem
    exact (hother entry hentry).1 heq
  · rw [List.map_cons, List.nodup_cons]
    refine ⟨fun hmem ↦ ?_, hbeside.connectors⟩
    obtain ⟨entry, hentry, heq⟩ := List.mem_map.mp hmem
    exact (hother entry hentry).2 heq
  · intro entry hentry
    obtain rfl | hentry := List.mem_cons.mp hentry
    · exact hvalid
    · exact hbeside.valid entry hentry

/-- **Entering a valid profile.**  The profile takes a place among the entries beside it, which
keep their order. -/
theorem upsert_eq (h : WellFormed profiles) (hvalid : profile.isValid = true) :
    ∃ before after : List TemporaryDisplayProfile,
      besideProfile profiles profile = before ++ after ∧
        upsertTemporaryDisplayProfile profiles profile = some (before ++ profile :: after) := by
  have haccepted : (!validTemporaryDisplayProfile profile.displayId profile.connectorIndex) =
      false := by
    rw [← TemporaryDisplayProfile.isValid, hvalid]
    rfl
  obtain ⟨kept, hkept⟩ : ∃ kept, kept = profiles.filter fun entry ↦
      !(entry.connectorIndex == profile.connectorIndex &&
        entry.displayId != profile.displayId) := ⟨_, rfl⟩
  have hwell : WellFormed kept := hkept ▸ h.sublist List.filter_sublist
  -- among the entries that are kept, only the one of the profile's own display can go
  have hbeside : besideProfile profiles profile =
      kept.filter fun entry ↦ entry.displayId != profile.displayId := by
    rw [besideProfile, hkept, List.filter_filter]
    refine List.filter_congr fun entry _ ↦ ?_
    cases hid : entry.displayId != profile.displayId <;> simp [bne]
  rw [upsertTemporaryDisplayProfile, if_neg (Bool.eq_false_iff.mp haccepted)]
  dsimp only
  rw [← hkept]
  cases hfind : kept.findIdx? fun entry ↦ entry.displayId == profile.displayId with
  | some existing =>
    obtain ⟨hlt, hsame, -⟩ := List.findIdx?_eq_some_iff_getElem.mp hfind
    have hsplit : kept = kept.take existing ++ kept[existing] :: kept.drop (existing + 1) := by
      rw [List.cons_getElem_drop_succ, List.take_append_drop]
    -- the displays are distinct, so no other entry is of this one
    have hothers : ∀ entry ∈ kept.take existing ++ kept.drop (existing + 1),
        (entry.displayId != profile.displayId) = true := by
      intro entry hentry
      have hnodup := (hwell.perm (hsplit ▸ List.perm_middle)).displays
      rw [List.map_cons, List.nodup_cons] at hnodup
      rw [bne_iff_ne]
      intro heq
      exact hnodup.1 (List.mem_map.mpr ⟨entry, hentry, heq.trans (beq_iff_eq.mp hsame).symm⟩)
    refine ⟨kept.take existing, kept.drop (existing + 1), ?_, ?_⟩
    · have hself : (kept[existing].displayId != profile.displayId) = false := by
        rw [bne, hsame]
        rfl
      rw [hbeside]
      conv_lhs => rw [hsplit]
      rw [List.filter_append,
        List.filter_cons_of_neg (p := fun entry : TemporaryDisplayProfile ↦
          entry.displayId != profile.displayId) (Bool.eq_false_iff.mp hself),
        ← List.filter_append, List.filter_eq_self.mpr hothers]
    · dsimp only
      rw [List.set_eq_take_append_cons_drop, if_pos hlt]
  | none =>
    have hall : besideProfile profiles profile = kept := by
      rw [hbeside]
      refine List.filter_eq_self.mpr fun entry hentry ↦ ?_
      rw [bne, List.findIdx?_eq_none_iff.mp hfind entry hentry]
      rfl
    have hroom : ¬kWindowsDriverMaxTemporaryDisplays.toNat ≤ kept.length := by
      have hlength := (h.cons_beside hvalid).length_le
      rw [hall, List.length_cons] at hlength
      omega
    refine ⟨kept, [], by rw [hall, List.append_nil], ?_⟩
    dsimp only
    rw [if_neg hroom]

theorem upsert (h : WellFormed profiles) {result : List TemporaryDisplayProfile}
    (hresult : upsertTemporaryDisplayProfile profiles profile = some result) :
    WellFormed result := by
  have hvalid : profile.isValid = true := by
    rw [upsertTemporaryDisplayProfile] at hresult
    by_contra hinvalid
    rw [TemporaryDisplayProfile.isValid, Bool.not_eq_true] at hinvalid
    rw [hinvalid] at hresult
    cases hresult
  obtain ⟨before, after, hbeside, hupsert⟩ := h.upsert_eq hvalid
  obtain rfl := Option.some.inj (hupsert.symm.trans hresult)
  exact (h.cons_beside hvalid).perm (hbeside ▸ List.perm_middle.symm)

end WellFormed

theorem ProfileTable.wellFormed {profiles : List TemporaryDisplayProfile}
    (h : ProfileTable profiles) : WellFormed profiles := by
  induction h with
  | empty => exact WellFormed.nil
  | upsert profile _ hresult ih => exact ih.upsert hresult
  | remove displayId _ ih => exact ih.remove displayId

/-! ## The table as its callers see it -/

/-- **A table that grew from the empty one takes every valid profile.**  Its displays and its
connectors are distinct and at most eight; a valid profile is entered, is then the one entry of
its display, and leaves the other entries on other connectors as they were. -/
theorem profileTable_upsert {profiles : List TemporaryDisplayProfile}
    (h : ProfileTable profiles) :
    (profiles.map (·.displayId)).Nodup ∧ (profiles.map (·.connectorIndex)).Nodup ∧
      profiles.length ≤ kWindowsDriverMaxTemporaryDisplays.toNat ∧
      ∀ profile : TemporaryDisplayProfile,
        validTemporaryDisplayProfile profile.displayId profile.connectorIndex = true →
          ∃ result, upsertTemporaryDisplayProfile profiles profile = some result ∧
            (result.filter fun entry ↦ entry.displayId == profile.displayId) = [profile] ∧
            (result.filter fun entry ↦ entry.displayId != profile.displayId) =
              profiles.filter fun entry ↦ entry.displayId != profile.displayId &&
                entry.connectorIndex != profile.connectorIndex := by
  have hwell := h.wellFormed
  refine ⟨hwell.displays, hwell.connectors, hwell.length_le, fun profile hvalid ↦ ?_⟩
  obtain ⟨before, after, hbeside, hupsert⟩ := hwell.upsert_eq hvalid
  have hothers : ∀ entry ∈ before ++ after,
      (entry.displayId != profile.displayId) = true := by
    intro entry hentry
    rw [← hbeside] at hentry
    exact (Bool.and_eq_true_iff.mp (List.mem_filter.mp hentry).2).1
  have hothers' : ∀ entry ∈ before ++ after,
      ¬(entry.displayId == profile.displayId) = true := by
    intro entry hentry heq
    exact bne_iff_ne.mp (hothers entry hentry) (beq_iff_eq.mp heq)
  refine ⟨before ++ profile :: after, hupsert, ?_, ?_⟩
  · have hnone : ((before ++ after).filter fun entry ↦
        entry.displayId == profile.displayId) = [] := List.filter_eq_nil_iff.mpr hothers'
    rw [List.filter_append, List.append_eq_nil_iff] at hnone
    rw [List.filter_append, List.filter_cons_of_pos (p := fun entry : TemporaryDisplayProfile ↦
      entry.displayId == profile.displayId) (beq_self_eq_true _), hnone.1, hnone.2,
      List.nil_append]
  · have hself : ¬(profile.displayId != profile.displayId) = true := by simp
    rw [List.filter_append, List.filter_cons_of_neg (p := fun entry : TemporaryDisplayProfile ↦
      entry.displayId != profile.displayId) hself, ← List.filter_append,
      List.filter_eq_self.mpr hothers, ← hbeside, besideProfile]

/-- Two displays on the first two connectors; a third takes the place of the second. -/
theorem profileTable_upsert_second :
    ∃ result, upsertTemporaryDisplayProfile
        [{ displayId := 1, connectorIndex := 4 }, { displayId := 2, connectorIndex := 5 }]
        { displayId := 3, connectorIndex := 5 } = some result ∧
      (result.filter fun entry ↦ entry.displayId == 3) =
        [{ displayId := 3, connectorIndex := 5 }] := by
  have htable : ProfileTable
      [{ displayId := 1, connectorIndex := 4 }, { displayId := 2, connectorIndex := 5 }] :=
    .upsert { displayId := 2, connectorIndex := 5 }
      (.upsert { displayId := 1, connectorIndex := 4 } .empty rfl) rfl
  obtain ⟨-, -, -, hupsert⟩ := profileTable_upsert htable
  obtain ⟨result, hresult, hself, -⟩ := hupsert { displayId := 3, connectorIndex := 5 } rfl
  exact ⟨result, hresult, hself⟩

end VirtualDisplay
