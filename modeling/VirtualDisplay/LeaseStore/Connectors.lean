import VirtualDisplay.LeaseStore.Changes

/-!
# Connector exclusivity

A connector is the slot of the virtual adapter a monitor is plugged into, so two displays on one
connector would displace each other.  `ConnectorsExclusive` says that no two temporary records
share a connector, that all of them lie in the temporary range, and that the connectors of the
stored manifest lie below it.  Every change of the store preserves it, whatever reservations the
store started out with: `empty_connectorsExclusive` and `ConnectorsExclusive.of_change` are the two
ends of the induction, `execute_connectors` is what comes out.

A display that has a reservation goes back to its connector, unless somebody is on it.  Otherwise
the search goes through the temporary range from its start and takes the first connector that is
free and that nobody else has reserved, or else the first that is free, whose reservations are then
taken away; the loops are those of `Lib/Scan.lean`.  The two limits of a store are fixed when it is
made (`execute_new_limits`), and everything about the ranges follows from them.

Reservations may overlap with each other and with the records; that they do not matter for
exclusivity is what makes the invariant hold from any initial reservations.  What reservations are
good for is in `LeaseStore/Reservations.lean`.
-/

set_option autoImplicit false

namespace VirtualDisplay

open Std

namespace DisplayStore

variable {s s' : DisplayStore}

/-- The connectors of a store: distinct among the temporary records, in the temporary range, and
below it for the manifest. -/
structure ConnectorsExclusive (s : DisplayStore) : Prop where
  distinct : OrdMap.Separates TemporaryDisplayRecord.connectorIndex s.displaysById
  inRange : ∀ (d : UInt64) (r : TemporaryDisplayRecord), s.displaysById[d]? = some r →
    s.isTemporaryConnectorIndex r.connectorIndex = true
  permanent : ∀ profile ∈ s.displayManifest.activeProfiles,
    profile.connectorIndex < s.maxPermanentDisplays

/-! ## The range -/

theorem isTemporaryConnectorIndex_iff {connectorIndex : UInt32} :
    s.isTemporaryConnectorIndex connectorIndex = true ↔
      s.maxPermanentDisplays ≤ connectorIndex ∧ connectorIndex < s.temporaryConnectorLimit := by
  simp [isTemporaryConnectorIndex]

/-- The limit is the sum of the two maxima, clamped to 32 bits. -/
theorem toNat_temporaryConnectorLimit (s : DisplayStore) :
    s.temporaryConnectorLimit.toNat =
      min (s.maxPermanentDisplays.toNat + s.maxTemporaryDisplays.toNat) (2 ^ 32 - 1) := by
  have hperm := s.maxPermanentDisplays.toNat_lt
  have htemp := s.maxTemporaryDisplays.toNat_lt
  have hsub : (0xffffffff - s.maxPermanentDisplays).toNat =
      2 ^ 32 - 1 - s.maxPermanentDisplays.toNat :=
    UInt32.toNat_sub_of_le _ _ (UInt32.le_iff_toNat_le.mpr (Nat.le_pred_of_lt hperm))
  unfold temporaryConnectorLimit
  split_ifs with h
  · rw [UInt32.lt_iff_toNat_lt, hsub] at h
    rw [Nat.min_eq_right (by omega)]
    rfl
  · rw [UInt32.lt_iff_toNat_lt, hsub] at h
    rw [UInt32.toNat_add, Nat.min_eq_left (by omega)]
    exact Nat.mod_eq_of_lt (by omega)

theorem isTemporaryConnectorIndex_congr (hperm : s'.maxPermanentDisplays = s.maxPermanentDisplays)
    (htemp : s'.maxTemporaryDisplays = s.maxTemporaryDisplays) (connectorIndex : UInt32) :
    s'.isTemporaryConnectorIndex connectorIndex = s.isTemporaryConnectorIndex connectorIndex := by
  unfold isTemporaryConnectorIndex temporaryConnectorLimit
  rw [hperm, htemp]

/-! ## When a create succeeds -/

/-- As long as some temporary connector can be used, the choice comes back with one. -/
theorem connectorIndexForDisplay_temporary {c : UInt32}
    (hrange : s.isTemporaryConnectorIndex c = true) (husable : s.connectorIsUsable c = true)
    (displayId : UInt64) (retainIdentity : Bool) :
    s.isTemporaryConnectorIndex (s.connectorIndexForDisplay displayId retainIdentity).2 = true := by
  rw [connectorIndexForDisplay]
  cases hreserved : s.reservedConnectorIndex displayId retainIdentity with
  | some reserved =>
    rw [reservedConnectorIndex] at hreserved
    split_ifs at hreserved
    have h := (Option.filter_eq_some_iff.mp hreserved).2
    rw [Bool.and_eq_true] at h
    exact h.1
  | none =>
    cases hfree : s.unreservedConnectorIndex displayId retainIdentity with
    | some connectorIndex =>
      rcases Scan.firstBelow_eq_some hfree with ⟨hlow, hhigh, -⟩
      exact isTemporaryConnectorIndex_iff.mpr ⟨hlow, hhigh⟩
    | none =>
      cases hsteal : Scan.firstBelow s.connectorIsUsable s.maxPermanentDisplays
          s.temporaryConnectorLimit with
      | some connectorIndex =>
        rcases Scan.firstBelow_eq_some hsteal with ⟨hlow, hhigh, -⟩
        exact isTemporaryConnectorIndex_iff.mpr ⟨hlow, hhigh⟩
      | none =>
        rcases isTemporaryConnectorIndex_iff.mp hrange with ⟨hlow, hhigh⟩
        rw [Scan.firstBelow_eq_none.mp hsteal c hlow hhigh] at husable
        cases husable

/-- A create that is accepted, finds room and a connector, and whose identity is not active writes
its record. -/
theorem createTemporaryDisplayImpl_ok {request : CreateTemporaryDisplayRequest}
    {ownerCapability : Option OwnerCapability} {now : TimePoint} {c : UInt32}
    (haccepted : s.CreateAccepted request ownerCapability now)
    (hroom : s.displaysById.size < s.maxTemporaryDisplays.toNat)
    (hrange : s.isTemporaryConnectorIndex c = true) (husable : s.connectorIsUsable c = true)
    (hidentity : s.edidIdentityIsActive request.displayId = false) :
    ∃ reservations connectorIndex,
      s.createTemporaryDisplayImpl request ownerCapability now =
        DisplayStore.commitTemporaryDisplay
          { s with connectorReservationsByDisplayId := reservations }
          (validatedCreateTemporaryDisplay request) ownerCapability now connectorIndex
          (request.flags &&& kCreateTemporaryDisplayFlagEphemeralIdentity = 0) := by
  have habsent : s.displaysById.contains request.displayId = false := by
    rw [ExtTreeMap.contains_eq_isSome_getElem?, haccepted.absent, Option.isSome_none]
  have htemporary := connectorIndexForDisplay_temporary hrange husable request.displayId
    (request.flags &&& kCreateTemporaryDisplayFlagEphemeralIdentity = 0)
  rcases (s.connectorIndexForDisplay_spec request.displayId
    (request.flags &&& kCreateTemporaryDisplayFlagEphemeralIdentity = 0)).1 with
    ⟨reservations, hstore⟩
  generalize hchoice : s.connectorIndexForDisplay _ _ = choice at hstore htemporary
  rcases choice with ⟨s', connectorIndex⟩
  dsimp only at hstore htemporary
  subst hstore
  refine ⟨reservations, connectorIndex, ?_⟩
  have hrequest : (validatedCreateTemporaryDisplay request).request.displayId =
      request.displayId := rfl
  have hflags : (validatedCreateTemporaryDisplay request).request.flags = request.flags := rfl
  have htemporary' : DisplayStore.isTemporaryConnectorIndex
      { s with connectorReservationsByDisplayId := reservations } connectorIndex = true :=
    htemporary
  have hidentity' : DisplayStore.edidIdentityIsActive
      { s with connectorReservationsByDisplayId := reservations } request.displayId = false :=
    hidentity
  rw [createTemporaryDisplayImpl, haccepted.valid]
  simp only [habsent, Nat.not_le.mpr hroom, haccepted.accepts, haccepted.owned, if_false,
    Bool.false_eq_true, placeTemporaryDisplay, hrequest, hflags, hchoice, htemporary',
    hidentity', Bool.not_true, Bool.and_false]

/-! ## The manifest -/

/-- Making the names canonical leaves the connectors of the active profiles alone. -/
theorem canonicalDisplayManifest_connectorIndex {manifest canonical : DisplayManifest}
    (h : canonicalDisplayManifest manifest = some canonical) :
    canonical.activeProfiles.map DisplayManifestProfile.connectorIndex =
      manifest.activeProfiles.map DisplayManifestProfile.connectorIndex := by
  unfold canonicalDisplayManifest at h
  split_ifs at h
  cases h
  simp only [DisplayManifest.activeProfiles, List.map_take]
  congr 1
  refine List.ext_getElem (by simp) fun i h₁ h₂ ↦ ?_
  simp only [List.getElem_map, Vector.getElem_toList, Vector.getElem_ofFn]
  split_ifs <;> rfl

/-! ## The invariant -/

theorem empty_connectorsExclusive (maxPermanentDisplays maxTemporaryDisplays : UInt32)
    (reservations : OrdMap UInt64 UInt32) :
    ConnectorsExclusive (empty maxPermanentDisplays maxTemporaryDisplays reservations) where
  distinct := .empty
  inRange d r h := by simp [empty, new] at h
  permanent _ h := by cases h

/-- The records may go or change, as long as the remaining ones stay on their connectors. -/
theorem ConnectorsExclusive.of_entries (h : ConnectorsExclusive s)
    (hperm : s'.maxPermanentDisplays = s.maxPermanentDisplays)
    (htemp : s'.maxTemporaryDisplays = s.maxTemporaryDisplays)
    (hpermanent : ∀ profile ∈ s'.displayManifest.activeProfiles,
      profile.connectorIndex < s'.maxPermanentDisplays)
    (hentries : ∀ (d : UInt64) (r' : TemporaryDisplayRecord), s'.displaysById[d]? = some r' →
      ∃ r, s.displaysById[d]? = some r ∧ r'.connectorIndex = r.connectorIndex) :
    ConnectorsExclusive s' := by
  refine ⟨h.distinct.of_entries hentries, fun d r' hr' ↦ ?_, hpermanent⟩
  rcases hentries d r' hr' with ⟨r, hr, heq⟩
  rw [isTemporaryConnectorIndex_congr hperm htemp, heq]
  exact h.inRange d r hr

theorem ConnectorsExclusive.of_change (h : ConnectorsExclusive s) (hstep : StoreChange s s') :
    ConnectorsExclusive s' := by
  obtain ⟨hperm, htemp, hmanifest⟩ := hstep.limits
  have hpermanent : ∀ profile ∈ s'.displayManifest.activeProfiles,
      profile.connectorIndex < s'.maxPermanentDisplays := by
    rw [hperm]
    obtain hmanifest | ⟨manifest, hvalid, hnames⟩ := hmanifest
    · rw [hmanifest]
      exact h.permanent
    · intro profile hprofile
      have hmem := List.mem_map_of_mem (f := DisplayManifestProfile.connectorIndex) hprofile
      rw [canonicalDisplayManifest_connectorIndex hnames, List.mem_map] at hmem
      obtain ⟨original, horiginal, heq⟩ := hmem
      rw [← heq]
      exact validateDisplayManifest_connectorIndex hvalid original horiginal
  cases hstep with
  | created haccepted hrange hinactive =>
    refine ⟨?_, fun d r hr ↦ ?_, hpermanent⟩
    · exact h.distinct.insert (connectorIndexIsActive_eq_false.mp hinactive)
    · simp only [commitTemporaryDisplay, OrdMap.getElem?_insert] at hr
      rw [isTemporaryConnectorIndex_congr hperm htemp]
      split_ifs at hr
      · cases hr
        exact hrange
      · exact h.inRange d r hr
  | kept hchange =>
    exact h.of_entries hperm htemp hpermanent fun d r' hr' ↦
      (hchange.records hr').imp fun _ hold ↦ ⟨hold.1, hold.2.1.connectorIndex⟩
  | reclaimed =>
    refine h.of_entries hperm htemp hpermanent fun d r' hr' ↦ ?_
    rw [getElem?_rotateLease, Option.map_eq_some_iff] at hr'
    rcases hr' with ⟨r, hr, rfl⟩
    exact ⟨r, hr, (TemporaryDisplayRecord.Evolves.rotateRecord ..).connectorIndex⟩

/-- Both maxima stay what the constructor was given. -/
theorem execute_new_limits (maxPermanentDisplays maxTemporaryDisplays : UInt32)
    (reservations : OrdMap UInt64 UInt32) (initialManifest : Option DisplayManifest)
    (ops : List StoreOp) :
    let s := DisplayStore.execute
      (.new maxPermanentDisplays maxTemporaryDisplays reservations initialManifest) ops
    s.maxPermanentDisplays = maxPermanentDisplays ∧
      s.maxTemporaryDisplays = maxTemporaryDisplays :=
  execute_new_invariant (P := fun s ↦ s.maxPermanentDisplays = maxPermanentDisplays ∧
      s.maxTemporaryDisplays = maxTemporaryDisplays) ⟨rfl, rfl⟩
    (fun _ _ h hstep ↦ ⟨hstep.limits.1.trans h.1, hstep.limits.2.1.trans h.2⟩) initialManifest ops

/-- **No two displays are on one connector.**  After any operations on any store, temporary records
are on pairwise distinct connectors, from the first one past the permanent displays up to the
clamped sum of the maxima, and never on a connector the stored manifest uses. -/
theorem execute_connectors (maxPermanentDisplays maxTemporaryDisplays : UInt32)
    (reservations : OrdMap UInt64 UInt32) (initialManifest : Option DisplayManifest)
    (ops : List StoreOp) :
    let s := DisplayStore.execute
      (.new maxPermanentDisplays maxTemporaryDisplays reservations initialManifest) ops
    (∀ (d₁ d₂ : UInt64) (r₁ r₂ : TemporaryDisplayRecord), s.displaysById[d₁]? = some r₁ →
      s.displaysById[d₂]? = some r₂ → r₁.connectorIndex = r₂.connectorIndex → d₁ = d₂) ∧
    ∀ (d : UInt64) (r : TemporaryDisplayRecord), s.displaysById[d]? = some r →
      maxPermanentDisplays ≤ r.connectorIndex ∧
      r.connectorIndex.toNat <
        min (maxPermanentDisplays.toNat + maxTemporaryDisplays.toNat) (2 ^ 32 - 1) ∧
      ∀ profile ∈ s.displayManifest.activeProfiles,
        r.connectorIndex ≠ profile.connectorIndex := by
  intro s
  have h : ConnectorsExclusive s := execute_new_invariant
    (empty_connectorsExclusive maxPermanentDisplays maxTemporaryDisplays reservations)
    (fun _ _ h ↦ h.of_change) initialManifest ops
  obtain ⟨hperm, htemp⟩ :=
    execute_new_limits maxPermanentDisplays maxTemporaryDisplays reservations initialManifest ops
  refine ⟨h.distinct, fun d r hr ↦ ?_⟩
  obtain ⟨hlow, hhigh⟩ := isTemporaryConnectorIndex_iff.mp (h.inRange d r hr)
  refine ⟨hperm ▸ hlow, ?_, fun profile hprofile heq ↦ ?_⟩
  · rw [UInt32.lt_iff_toNat_lt, toNat_temporaryConnectorLimit, hperm, htemp] at hhigh
    exact hhigh
  · have hprofile := h.permanent profile hprofile
    rw [← heq] at hprofile
    exact UInt32.not_le.mpr hprofile hlow

end DisplayStore

end VirtualDisplay
