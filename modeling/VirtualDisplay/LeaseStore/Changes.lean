import VirtualDisplay.LeaseStore.Basic

/-!
# What an operation of the store can change

Every operation of the display store is one of the functions of `Basic`, and `StoreOp.apply` runs
one of them on arbitrary arguments.  An invariant is not proved against those functions, though,
but against `StoreChange`: the handful of ways in which records, leases and the manifest change at
all, each with what the operation has checked before.

* `StoreOp.reaches` — every operation is a sequence of such changes.
* `execute_new_invariant` — what the empty store satisfies and every change preserves holds after
  any sequence of operations.

Removing, abandoning and reaping all come down to `eraseDisplay`, and a create that fails late
still moves connector reservations around; that is why one operation can be several changes, or a
change of the bookkeeping alone.

## What is here

* `CreateAccepted` — what a create has checked when it writes its record.
* `RecordChange`, `StoreChange` — the changes, with a constructor for each; `RecordsKeyed` says that
  a record is stored under its own display id, which all of them preserve.
* `createTemporaryDisplayImpl_cases`, `removeTemporaryDisplay_cases` and the like — each operation
  in terms of changes.
* `StoreOp.keeps` — the operations that create nothing.
* `Reaches.invariant` — the induction over a sequence of changes.
-/

set_option autoImplicit false

namespace VirtualDisplay

open Std

/-! ## Capabilities -/

theorem foldl_difference_eq_zero {l : List (UInt8 × UInt8)} {difference : UInt8} :
    l.foldl (fun difference b ↦ difference ||| (b.1 ^^^ b.2)) difference = 0 ↔
      difference = 0 ∧ ∀ b ∈ l, b.1 = b.2 := by
  induction l generalizing difference with
  | nil => simp
  | cons b l ih =>
    rw [List.foldl_cons, ih, UInt8.or_eq_zero_iff, UInt8.xor_eq_zero_iff, List.forall_mem_cons,
      and_assoc]

/-- Accumulating the differing bits decides equality of capabilities. -/
theorem ownerCapabilitiesEqual_iff {lhs rhs : OwnerCapability} :
    ownerCapabilitiesEqual lhs rhs = true ↔ lhs = rhs := by
  have hzip : (∀ b ∈ lhs.bytes.toList.zip rhs.bytes.toList, b.1 = b.2) ↔
      lhs.bytes.toList = rhs.bytes.toList := by
    rw [← List.forall₂_eq_eq_eq, List.forall₂_iff_zip]
    simp
  obtain ⟨lhs⟩ := lhs
  obtain ⟨rhs⟩ := rhs
  rw [ownerCapabilitiesEqual, beq_iff_eq, foldl_difference_eq_zero, hzip, Vector.toList_inj]
  simp

theorem LeaseRecord.isOwnedBy_iff {lease : LeaseRecord} {presented : OwnerCapability} :
    lease.isOwnedBy presented = true ↔ lease.ownerCapability = some presented := by
  rw [isOwnedBy]
  cases lease.ownerCapability <;> simp [ownerCapabilitiesEqual_iff]

/-! ## Records over time -/

/-- How a record may change while its display lives: only in its lease, the times of that and the
pending mark, which is never taken back. -/
structure TemporaryDisplayRecord.Evolves (r r' : TemporaryDisplayRecord) : Prop where
  same : r' =
    { r with
      leaseId := r'.leaseId
      timeoutMs := r'.timeoutMs
      expiresAt := r'.expiresAt
      pendingDeparture := r'.pendingDeparture }
  pending : r.pendingDeparture = true → r'.pendingDeparture = true

namespace TemporaryDisplayRecord.Evolves

theorem refl (r : TemporaryDisplayRecord) : r.Evolves r := ⟨rfl, id⟩

theorem trans {r₁ r₂ r₃ : TemporaryDisplayRecord} (h : r₁.Evolves r₂) (h' : r₂.Evolves r₃) :
    r₁.Evolves r₃ where
  same := by rw [h'.same, h.same]
  pending hp := h'.pending (h.pending hp)

theorem displayId {r r' : TemporaryDisplayRecord} (h : r.Evolves r') :
    r'.displayId = r.displayId := by rw [h.same]

theorem generation {r r' : TemporaryDisplayRecord} (h : r.Evolves r') :
    r'.generation = r.generation := by rw [h.same]

theorem connectorIndex {r r' : TemporaryDisplayRecord} (h : r.Evolves r') :
    r'.connectorIndex = r.connectorIndex := by rw [h.same]

theorem rotateRecord (oldLeaseId newLeaseId : UInt64) (timeoutMs : UInt32)
    (expiresAt : TimePoint) (r : TemporaryDisplayRecord) :
    r.Evolves (DisplayStore.rotateRecord oldLeaseId newLeaseId timeoutMs expiresAt r) := by
  rw [DisplayStore.rotateRecord]
  split_ifs
  · exact ⟨rfl, id⟩
  · exact .refl r

theorem feedRecord (leaseId : UInt64) (timeoutMs : UInt32) (expiresAt : TimePoint)
    (r : TemporaryDisplayRecord) :
    r.Evolves (DisplayStore.feedRecord leaseId timeoutMs expiresAt r) := by
  rw [DisplayStore.feedRecord]
  split_ifs
  · exact ⟨rfl, id⟩
  · exact .refl r

theorem marked (r : TemporaryDisplayRecord) : r.Evolves { r with pendingDeparture := true } :=
  ⟨rfl, fun _ ↦ rfl⟩

end TemporaryDisplayRecord.Evolves

namespace DisplayStore

variable {s : DisplayStore}

/-! ## Scans of the records -/

theorem leaseHasDisplays_iff {leaseId : UInt64} :
    s.leaseHasDisplays leaseId = true ↔
      ∃ (d : UInt64) (record : TemporaryDisplayRecord), s.displaysById[d]? = some record ∧
        record.leaseId = leaseId := by
  simp [leaseHasDisplays, OrdMap.anyEntry_iff]

theorem leaseHasPendingDeparture_eq_false {leaseId : UInt64} :
    s.leaseHasPendingDeparture leaseId = false ↔
      ∀ (d : UInt64) (record : TemporaryDisplayRecord), s.displaysById[d]? = some record →
        record.leaseId = leaseId → record.pendingDeparture = false := by
  simp [leaseHasPendingDeparture, OrdMap.anyEntry_eq_false]

theorem connectorIndexIsActive_eq_false {connectorIndex : UInt32} :
    s.connectorIndexIsActive connectorIndex = false ↔
      ∀ (d : UInt64) (record : TemporaryDisplayRecord), s.displaysById[d]? = some record →
        record.connectorIndex ≠ connectorIndex := by
  simp [connectorIndexIsActive, OrdMap.anyEntry_eq_false]

/-! ## The lease of a record after an update -/

theorem rotateRecord_leaseId {oldLeaseId newLeaseId : UInt64} {timeoutMs : UInt32}
    {expiresAt : TimePoint} {r : TemporaryDisplayRecord} :
    (rotateRecord oldLeaseId newLeaseId timeoutMs expiresAt r).leaseId =
      if r.leaseId = oldLeaseId then newLeaseId else r.leaseId := by
  rw [rotateRecord]
  split_ifs <;> rfl

theorem feedRecord_leaseId {leaseId : UInt64} {timeoutMs : UInt32} {expiresAt : TimePoint}
    {r : TemporaryDisplayRecord} :
    (feedRecord leaseId timeoutMs expiresAt r).leaseId = r.leaseId := by
  rw [feedRecord]
  split_ifs <;> rfl

/-! ## Erasing a display -/

@[simp] theorem eraseDisplay_displaysById (s : DisplayStore) (displayId leaseId : UInt64) :
    (s.eraseDisplay displayId leaseId).displaysById = s.displaysById.erase displayId := by
  unfold eraseDisplay removeLeaseIfEmpty
  split_ifs <;> rfl

/-! ## Creating a display -/

@[simp] theorem createdRecord_leaseId (validated : ValidatedCreateTemporaryDisplay)
    (now : TimePoint) (connectorIndex : UInt32) (retainIdentity : Bool) :
    (s.createdRecord validated now connectorIndex retainIdentity).leaseId =
      validated.request.leaseId := rfl

/-! ## Connector choice -/

theorem not_isTemporaryConnectorIndex_limit :
    s.isTemporaryConnectorIndex s.temporaryConnectorLimit = false := by
  simp [isTemporaryConnectorIndex]

theorem connectorIsUsable_inactive {connectorIndex : UInt32}
    (h : s.connectorIsUsable connectorIndex = true) :
    s.connectorIndexIsActive connectorIndex = false := by
  simp only [connectorIsUsable, Bool.and_eq_true, Bool.not_eq_eq_eq_not, Bool.not_true] at h
  exact h.1

/-- Choosing a connector touches nothing but the reservations, and a temporary connector it comes
back with has no record on it, whichever of the three sources it came from. -/
theorem connectorIndexForDisplay_spec (s : DisplayStore) (displayId : UInt64)
    (retainIdentity : Bool) :
    (∃ reservations, (s.connectorIndexForDisplay displayId retainIdentity).1 =
        { s with connectorReservationsByDisplayId := reservations }) ∧
      (s.isTemporaryConnectorIndex (s.connectorIndexForDisplay displayId retainIdentity).2 = true →
        s.connectorIndexIsActive (s.connectorIndexForDisplay displayId retainIdentity).2 =
          false) := by
  unfold connectorIndexForDisplay
  cases hreserved : s.reservedConnectorIndex displayId retainIdentity with
  | some reserved =>
    refine ⟨⟨_, rfl⟩, fun _ ↦ ?_⟩
    unfold reservedConnectorIndex at hreserved
    split at hreserved
    · have h := (Option.filter_eq_some_iff.mp hreserved).2
      simp only [Bool.and_eq_true, Bool.not_eq_eq_eq_not, Bool.not_true] at h
      exact h.2
    · cases hreserved
  | none =>
    cases hfree : s.unreservedConnectorIndex displayId retainIdentity with
    | some connectorIndex =>
      refine ⟨⟨_, rfl⟩, fun _ ↦ connectorIsUsable_inactive ?_⟩
      have h := (Scan.firstBelow_eq_some hfree).2.2.1
      exact (Bool.and_eq_true _ _ ▸ h).1
    | none =>
      cases hsteal : Scan.firstBelow s.connectorIsUsable s.maxPermanentDisplays
          s.temporaryConnectorLimit with
      | some connectorIndex =>
        exact ⟨⟨_, rfl⟩, fun _ ↦
          connectorIsUsable_inactive (Scan.firstBelow_eq_some hsteal).2.2.1⟩
      | none =>
        refine ⟨⟨_, rfl⟩, fun h ↦ ?_⟩
        rw [not_isTemporaryConnectorIndex_limit] at h
        cases h

/-! ## The changes -/

/-- What a create has checked before it chooses a connector. -/
structure CreateAccepted (s : DisplayStore) (request : CreateTemporaryDisplayRequest)
    (ownerCapability : Option OwnerCapability) (now : TimePoint) : Prop where
  valid : validateCreateTemporaryDisplay request = .none
  absent : s.displaysById[request.displayId]? = none
  accepts : s.leaseRefusesDisplays request.leaseId s.leasesById[request.leaseId]? now = false
  owned : leaseOwnedByOther s.leasesById[request.leaseId]? ownerCapability = false

/-- One change of the store that creates no record and moves none to another lease, with what the
operation that makes it has checked. -/
inductive RecordChange (s : DisplayStore) : DisplayStore → Prop where
  /-- Reservations and quarantine are not read by any invariant about records and leases. -/
  | bookkeeping (reservations : OrdMap UInt64 UInt32) (quarantined : OrdMap UInt32 Unit) :
    RecordChange s
      { s with
        connectorReservationsByDisplayId := reservations
        quarantinedConnectors := quarantined }
  | erased {displayId : UInt64} {display : TemporaryDisplayRecord}
      (present : s.displaysById[displayId]? = some display) :
    RecordChange s (s.eraseDisplay displayId display.leaseId)
  | marked {displayId : UInt64} {display : TemporaryDisplayRecord}
      (present : s.displaysById[displayId]? = some display) :
    RecordChange s
      { s with
        displaysById := s.displaysById.insert displayId { display with pendingDeparture := true } }
  | fed {leaseId : UInt64} {lease : LeaseRecord} (timeoutMs : UInt32) (expiresAt : TimePoint)
      (held : s.leasesById[leaseId]? = some lease) :
    RecordChange s
      { s with
        leasesById := s.leasesById.insert leaseId { lease with timeoutMs, expiresAt }
        displaysById := s.displaysById.map fun _ ↦ feedRecord leaseId timeoutMs expiresAt }
  | released (leaseId : UInt64) :
    RecordChange s
      { s with
        displaysById := OrdMap.eraseIf s.displaysById fun _ display ↦ display.leaseId == leaseId
        leasesById := s.leasesById.erase leaseId }
  | manifestApplied {manifest canonical : DisplayManifest}
      (valid : validateDisplayManifest manifest s.maxPermanentDisplays = .none)
      (names : canonicalDisplayManifest manifest = some canonical) :
    RecordChange s
      { s with
        permanentDisplayCount := canonical.profileCount
        displayManifest := canonical
        permanentDisplaySettings := permanentSettingsFromDisplayManifest canonical }

/-- One change of the store. -/
inductive StoreChange (s : DisplayStore) : DisplayStore → Prop where
  | kept {s' : DisplayStore} (change : RecordChange s s') : StoreChange s s'
  | reclaimed {displayId newLeaseId : UInt64} {display : TemporaryDisplayRecord}
      {lease : LeaseRecord} (timeoutMs : UInt32) (expiresAt : TimePoint)
      (present : s.displaysById[displayId]? = some display)
      (held : s.leasesById[display.leaseId]? = some lease)
      (settled : s.leaseHasPendingDeparture display.leaseId = false)
      (valid : kMinOpaqueLeaseId ≤ newLeaseId)
      (unused : s.leasesById[newLeaseId]? = none) :
    StoreChange s
      (s.rotateLease display.leaseId newLeaseId timeoutMs expiresAt lease.ownerCapability)
  | created {request : CreateTemporaryDisplayRequest} {ownerCapability : Option OwnerCapability}
      {now : TimePoint} {connectorIndex : UInt32} {retainIdentity : Bool}
      (accepted : s.CreateAccepted request ownerCapability now)
      (inRange : s.isTemporaryConnectorIndex connectorIndex = true)
      (inactive : s.connectorIndexIsActive connectorIndex = false) :
    StoreChange s
      (s.commitTemporaryDisplay (validatedCreateTemporaryDisplay request) ownerCapability now
        connectorIndex retainIdentity).1

/-- A sequence of changes that create no record and move none to another lease. -/
abbrev Keeps : DisplayStore → DisplayStore → Prop := Relation.ReflTransGen RecordChange

/-- A sequence of changes. -/
abbrev Reaches : DisplayStore → DisplayStore → Prop := Relation.ReflTransGen StoreChange

theorem Keeps.reaches {s s' : DisplayStore} (h : Keeps s s') : Reaches s s' :=
  Relation.ReflTransGen.mono (fun _ _ ↦ StoreChange.kept) _ _ h

/-- Lookup in the records of a rotated lease. -/
theorem getElem?_rotateLease (s : DisplayStore) (oldLeaseId newLeaseId : UInt64)
    (timeoutMs : UInt32) (expiresAt : TimePoint) (ownerCapability : Option OwnerCapability)
    (d : UInt64) :
    (s.rotateLease oldLeaseId newLeaseId timeoutMs expiresAt ownerCapability).displaysById[d]? =
      s.displaysById[d]?.map (rotateRecord oldLeaseId newLeaseId timeoutMs expiresAt) :=
  OrdMap.getElem?_map ..

/-- Such a change keeps the records it does not drop, each under its lease. -/
theorem RecordChange.records {s' : DisplayStore} (h : RecordChange s s') {d : UInt64}
    {r' : TemporaryDisplayRecord} (hr' : s'.displaysById[d]? = some r') :
    ∃ r, s.displaysById[d]? = some r ∧ r.Evolves r' ∧ r'.leaseId = r.leaseId := by
  cases h with
  | bookkeeping | manifestApplied => exact ⟨r', hr', .refl r', rfl⟩
  | erased =>
    rw [eraseDisplay_displaysById, OrdMap.getElem?_erase] at hr'
    split_ifs at hr'
    exact ⟨r', hr', .refl r', rfl⟩
  | marked hdisplay =>
    rw [OrdMap.getElem?_insert] at hr'
    split_ifs at hr' with hd
    · cases hd; cases hr'
      exact ⟨_, hdisplay, .marked _, rfl⟩
    · exact ⟨r', hr', .refl r', rfl⟩
  | fed timeoutMs expiresAt =>
    rw [OrdMap.getElem?_map, Option.map_eq_some_iff] at hr'
    rcases hr' with ⟨r, hr, rfl⟩
    exact ⟨r, hr, TemporaryDisplayRecord.Evolves.feedRecord .., feedRecord_leaseId⟩
  | released => exact ⟨r', (OrdMap.getElem?_eraseIf_eq_some.mp hr').1, .refl r', rfl⟩

theorem Keeps.record {s' : DisplayStore} (h : Keeps s s') {d : UInt64} {r' : TemporaryDisplayRecord}
    (hr' : s'.displaysById[d]? = some r') :
    ∃ r, s.displaysById[d]? = some r ∧ r.Evolves r' ∧ r'.leaseId = r.leaseId := by
  induction h generalizing r' with
  | refl => exact ⟨r', hr', .refl r', rfl⟩
  | tail _ hstep ih =>
    rcases hstep.records hr' with ⟨r, hr, hevolves, hlease⟩
    rcases ih hr with ⟨r₀, hr₀, hevolves₀, hlease₀⟩
    exact ⟨r₀, hr₀, hevolves₀.trans hevolves, hlease.trans hlease₀⟩

/-- The generation counter moves only when a record is created. -/
theorem Keeps.nextGeneration {s' : DisplayStore} (h : Keeps s s') :
    s'.nextTemporaryDisplayGeneration = s.nextTemporaryDisplayGeneration := by
  induction h with
  | refl => rfl
  | tail _ hstep ih =>
    refine Eq.trans ?_ ih
    cases hstep with
    | erased =>
      rw [eraseDisplay, removeLeaseIfEmpty]
      split_ifs <;> rfl
    | _ => rfl

/-- The limits never change, and the stored manifest only for one that was validated. -/
theorem StoreChange.limits {s' : DisplayStore} (h : StoreChange s s') :
    s'.maxPermanentDisplays = s.maxPermanentDisplays ∧
      s'.maxTemporaryDisplays = s.maxTemporaryDisplays ∧
      (s'.displayManifest = s.displayManifest ∨
        ∃ manifest, validateDisplayManifest manifest s.maxPermanentDisplays = .none ∧
          canonicalDisplayManifest manifest = some s'.displayManifest) := by
  cases h with
  | created | reclaimed => exact ⟨rfl, rfl, .inl rfl⟩
  | kept h =>
    cases h with
    | erased =>
      unfold eraseDisplay removeLeaseIfEmpty
      split_ifs <;> exact ⟨rfl, rfl, .inl rfl⟩
    | manifestApplied hvalid hnames => exact ⟨rfl, rfl, .inr ⟨_, hvalid, hnames⟩⟩
    | _ => exact ⟨rfl, rfl, .inl rfl⟩

/-! ## The operations as changes -/

/-- Either the display is placed and committed, or the create fails and at most a reservation has
been taken away. -/
theorem placeTemporaryDisplay_cases (s : DisplayStore)
    (validated : ValidatedCreateTemporaryDisplay) (ownerCapability : Option OwnerCapability)
    (now : TimePoint) :
    ∃ reservations,
      (∃ connectorIndex retainIdentity,
        s.isTemporaryConnectorIndex connectorIndex = true ∧
        s.connectorIndexIsActive connectorIndex = false ∧
        s.placeTemporaryDisplay validated ownerCapability now =
          DisplayStore.commitTemporaryDisplay
            { s with connectorReservationsByDisplayId := reservations } validated ownerCapability
            now connectorIndex retainIdentity) ∨
      ((s.placeTemporaryDisplay validated ownerCapability now).1 =
          { s with connectorReservationsByDisplayId := reservations } ∧
        (s.placeTemporaryDisplay validated ownerCapability now).2.status.error ≠ .none) := by
  obtain ⟨⟨reservations, hstore⟩, hinactive⟩ :=
    connectorIndexForDisplay_spec s validated.request.displayId
      (decide (validated.request.flags &&& kCreateTemporaryDisplayFlagEphemeralIdentity = 0))
  refine ⟨reservations, ?_⟩
  generalize hchoice : s.connectorIndexForDisplay _ _ = choice at hstore hinactive
  obtain ⟨s', connectorIndex⟩ := choice
  dsimp only at hstore hinactive
  subst hstore
  simp only [placeTemporaryDisplay, hchoice]
  split_ifs with hrange hidentity
  · exact .inr ⟨rfl, by simp [createFailure]⟩
  · exact .inr ⟨rfl, by simp [createFailure]⟩
  · simp only [Bool.not_eq_eq_eq_not, Bool.not_true, Bool.not_eq_false] at hrange
    exact .inl ⟨connectorIndex, _, hrange, hinactive hrange, rfl⟩

/-- Either the create has committed its record to the store the connector choice left, or it fails
and at most a reservation has been taken away. -/
theorem createTemporaryDisplayImpl_cases (s : DisplayStore)
    (request : CreateTemporaryDisplayRequest) (ownerCapability : Option OwnerCapability)
    (now : TimePoint) :
    ∃ reservations,
      (s.CreateAccepted request ownerCapability now ∧
        ∃ connectorIndex retainIdentity,
          s.isTemporaryConnectorIndex connectorIndex = true ∧
          s.connectorIndexIsActive connectorIndex = false ∧
          s.createTemporaryDisplayImpl request ownerCapability now =
            DisplayStore.commitTemporaryDisplay
              { s with connectorReservationsByDisplayId := reservations }
              (validatedCreateTemporaryDisplay request) ownerCapability now connectorIndex
              retainIdentity) ∨
      ((s.createTemporaryDisplayImpl request ownerCapability now).1 =
          { s with connectorReservationsByDisplayId := reservations } ∧
        (s.createTemporaryDisplayImpl request ownerCapability now).2.status.error ≠ .none) := by
  unfold createTemporaryDisplayImpl
  split
  case h_2 => exact ⟨_, .inr ⟨rfl, by simp [validationFailure]⟩⟩
  case h_1 hvalid =>
    dsimp only
    split_ifs with hpresent hlimit hrefused howned
    · exact ⟨_, .inr ⟨rfl, by simp [createFailure]⟩⟩
    · exact ⟨_, .inr ⟨rfl, by simp [createFailure]⟩⟩
    · exact ⟨_, .inr ⟨rfl, by simp [createFailure]⟩⟩
    · exact ⟨_, .inr ⟨rfl, by simp [createFailure]⟩⟩
    · have habsent : s.displaysById[request.displayId]? = none :=
        ExtTreeMap.getElem?_eq_none_of_contains_eq_false (Bool.not_eq_true _ ▸ hpresent)
      obtain ⟨reservations, h⟩ := placeTemporaryDisplay_cases s
        (validatedCreateTemporaryDisplay request) ownerCapability now
      refine ⟨reservations, h.imp_left fun h ↦ ⟨⟨hvalid, habsent, ?_, ?_⟩, h⟩⟩
      · simpa using hrefused
      · simpa using howned

theorem createTemporaryDisplayImpl_reaches (s : DisplayStore)
    (request : CreateTemporaryDisplayRequest) (ownerCapability : Option OwnerCapability)
    (now : TimePoint) :
    Reaches s (s.createTemporaryDisplayImpl request ownerCapability now).1 := by
  obtain ⟨reservations,
      ⟨haccepted, connectorIndex, retainIdentity, hrange, hinactive, h⟩ | ⟨h, -⟩⟩ :=
    s.createTemporaryDisplayImpl_cases request ownerCapability now
  · rw [h]
    refine .tail (.single (.kept (.bookkeeping reservations s.quarantinedConnectors))) ?_
    exact .created ⟨haccepted.valid, haccepted.absent, haccepted.accepts, haccepted.owned⟩ hrange
      hinactive
  · rw [h]
    exact .single (.kept (.bookkeeping _ _))

theorem reclaimTemporaryDisplay_cases (s : DisplayStore) (request : ReclaimTemporaryDisplayRequest)
    (now : TimePoint) :
    (∃ display lease, s.displaysById[request.displayId]? = some display ∧
      display.pendingDeparture = false ∧
      s.leasesById[display.leaseId]? = some lease ∧
      s.leaseHasPendingDeparture display.leaseId = false ∧
      lease.ownerCapability = some request.ownerCapability ∧
      request.newLeaseId ≠ display.leaseId ∧ kMinOpaqueLeaseId ≤ request.newLeaseId ∧
      s.leasesById[request.newLeaseId]? = none ∧
      (s.reclaimTemporaryDisplay request now).1 =
        s.rotateLease display.leaseId request.newLeaseId
          (normalizeTimeoutMs request.requestedTimeoutMs)
          (now + milliseconds (normalizeTimeoutMs request.requestedTimeoutMs))
          lease.ownerCapability) ∨
      ((s.reclaimTemporaryDisplay request now).1 = s ∧
        (s.reclaimTemporaryDisplay request now).2.status.error ≠ .none) := by
  unfold reclaimTemporaryDisplay
  split
  case h_2 => exact .inr ⟨rfl, by simp [validationFailure]⟩
  case h_1 hvalid =>
    dsimp only
    cases hdisplay : s.displaysById[request.displayId]? with
    | none => exact .inr ⟨rfl, by simp⟩
    | some display =>
      dsimp only
      by_cases hpending : display.pendingDeparture = true
      · rw [if_pos hpending]; exact .inr ⟨rfl, by simp⟩
      · rw [if_neg hpending]
        cases hlease : s.leasesById[display.leaseId]? with
        | none => exact .inr ⟨rfl, by simp⟩
        | some lease =>
          dsimp only
          split_ifs with hrefused hnew
          · exact .inr ⟨rfl, by simp⟩
          · exact .inr ⟨rfl, by simp⟩
          · simp only [not_or, Bool.not_eq_true, Bool.not_eq_eq_eq_not, Bool.not_true,
              Bool.not_eq_false] at hrefused hnew hpending
            refine .inl ⟨display, lease, rfl, hpending, hlease, hrefused.2.1,
              LeaseRecord.isOwnedBy_iff.mp hrefused.2.2, hnew.1,
              validateReclaimTemporaryDisplay_newLeaseId hvalid,
              ExtTreeMap.getElem?_eq_none_of_contains_eq_false hnew.2, rfl⟩

/-- A reclaim that reports an error has left the store alone. -/
theorem reclaimTemporaryDisplay_failed {s : DisplayStore}
    {request : ReclaimTemporaryDisplayRequest} {now : TimePoint}
    (herror : (s.reclaimTemporaryDisplay request now).2.status.error ≠ .none) :
    (s.reclaimTemporaryDisplay request now).1 = s := by
  rw [reclaimTemporaryDisplay] at herror ⊢
  split at herror
  · rename_i hvalid
    dsimp only at herror ⊢
    cases hdisplay : s.displaysById[request.displayId]? with
    | none => rfl
    | some display =>
      rw [hdisplay] at herror
      dsimp only at herror ⊢
      by_cases hpending : display.pendingDeparture = true
      · rw [if_pos hpending]
      · rw [if_neg hpending] at herror ⊢
        cases hlease : s.leasesById[display.leaseId]? with
        | none => rfl
        | some lease =>
          rw [hlease] at herror
          dsimp only at herror ⊢
          split_ifs at herror ⊢
          · rfl
          · rfl
          · exact absurd rfl herror
  · rfl

theorem reclaimTemporaryDisplay_reaches (s : DisplayStore)
    (request : ReclaimTemporaryDisplayRequest) (now : TimePoint) :
    Reaches s (s.reclaimTemporaryDisplay request now).1 := by
  obtain ⟨display, lease, hdisplay, -, hlease, hsettled, -, -, hvalid, hnew, h⟩ | ⟨h, -⟩ :=
    s.reclaimTemporaryDisplay_cases request now
  · rw [h]
    exact .single (.reclaimed _ _ hdisplay hlease hsettled hvalid hnew)
  · rw [h]

/-- A removal erases the record of the display, once it has matched the lease. -/
theorem removeTemporaryDisplay_cases (s : DisplayStore) (request : LeaseDisplayRequest)
    (mode : RemoveTemporaryDisplayMode) :
    (∃ display reservations, s.displaysById[request.displayId]? = some display ∧
      display.leaseId = request.leaseId ∧
      (s.removeTemporaryDisplay request mode) =
        (DisplayStore.eraseDisplay { s with connectorReservationsByDisplayId := reservations }
          request.displayId request.leaseId, {})) ∨
      ((s.removeTemporaryDisplay request mode).1 = s ∧
        (s.removeTemporaryDisplay request mode).2.error ≠ .none) := by
  unfold removeTemporaryDisplay
  split
  case h_2 => exact .inr ⟨rfl, by simp [validationFailure]⟩
  case h_1 =>
    cases hdisplay : s.displaysById[request.displayId]? with
    | none => exact .inr ⟨rfl, by simp⟩
    | some display =>
      by_cases hlease : display.leaseId = request.leaseId
      · rw [if_pos (by simpa using hlease)]
        cases mode with
        | releaseConnectorReservation =>
          exact .inl ⟨display, s.connectorReservationsByDisplayId.erase request.displayId, rfl,
            hlease, rfl⟩
        | retainConnectorReservation =>
          exact .inl ⟨display, s.connectorReservationsByDisplayId, rfl, hlease, rfl⟩
      · rw [if_neg (by simpa using hlease)]
        exact .inr ⟨rfl, by simp⟩

theorem removeTemporaryDisplay_keeps (s : DisplayStore) (request : LeaseDisplayRequest)
    (mode : RemoveTemporaryDisplayMode) :
    Keeps s (s.removeTemporaryDisplay request mode).1 := by
  obtain ⟨display, reservations, hdisplay, hlease, h⟩ | ⟨h, -⟩ :=
    s.removeTemporaryDisplay_cases request mode
  · rw [h, ← hlease]
    exact .tail (.single (.bookkeeping reservations s.quarantinedConnectors)) (.erased hdisplay)
  · rw [h]

theorem abandonPendingTemporaryDisplay_cases (s : DisplayStore) (request : LeaseDisplayRequest)
    (expectedGeneration : UInt64) (ownerCapability : OwnerCapability) :
    (∃ display lease, s.displaysById[request.displayId]? = some display ∧
      display.leaseId = request.leaseId ∧ display.generation = expectedGeneration ∧
      display.pendingDeparture = true ∧ s.leasesById[request.leaseId]? = some lease ∧
      lease.ownerCapability = some ownerCapability ∧
      s.abandonPendingTemporaryDisplay request expectedGeneration ownerCapability =
        (DisplayStore.eraseDisplay
          { s with
            quarantinedConnectors := s.quarantinedConnectors.insert display.connectorIndex ()
            connectorReservationsByDisplayId :=
              s.connectorReservationsByDisplayId.erase request.displayId }
          request.displayId request.leaseId, {})) ∨
      ((s.abandonPendingTemporaryDisplay request expectedGeneration ownerCapability).1 = s ∧
        (s.abandonPendingTemporaryDisplay request expectedGeneration ownerCapability).2.error ≠
          .none) := by
  unfold abandonPendingTemporaryDisplay
  split
  case h_2 => exact .inr ⟨rfl, by simp [validationFailure]⟩
  case h_1 =>
    cases hdisplay : s.displaysById[request.displayId]? with
    | none => exact .inr ⟨rfl, by simp⟩
    | some display =>
      dsimp only
      split_ifs with hother howned
      · exact .inr ⟨rfl, by simp⟩
      · simp only [not_or, not_not, Bool.not_eq_eq_eq_not, Bool.not_true, Bool.not_eq_false]
          at hother
        obtain ⟨lease, hlease, hheld⟩ := (Option.any_eq_true _ _).mp howned
        exact .inl ⟨display, lease, rfl, hother.1, hother.2.1, hother.2.2, hlease,
          LeaseRecord.isOwnedBy_iff.mp hheld, rfl⟩
      · exact .inr ⟨rfl, by simp⟩

theorem abandonPendingTemporaryDisplay_keeps (s : DisplayStore) (request : LeaseDisplayRequest)
    (expectedGeneration : UInt64) (ownerCapability : OwnerCapability) :
    Keeps s (s.abandonPendingTemporaryDisplay request expectedGeneration ownerCapability).1 := by
  obtain ⟨display, lease, hdisplay, hlease, -, -, -, -, h⟩ | ⟨h, -⟩ :=
    s.abandonPendingTemporaryDisplay_cases request expectedGeneration ownerCapability
  · rw [h, ← hlease]
    exact .tail (.single (.bookkeeping _ _)) (.erased hdisplay)
  · rw [h]

theorem markTemporaryDisplayPendingDeparture_cases (s : DisplayStore)
    (request : LeaseDisplayRequest) :
    (∃ display, s.displaysById[request.displayId]? = some display ∧
      display.leaseId = request.leaseId ∧
      s.markTemporaryDisplayPendingDeparture request =
        ({ s with
            displaysById :=
              s.displaysById.insert request.displayId { display with pendingDeparture := true } },
          {})) ∨
      ((s.markTemporaryDisplayPendingDeparture request).1 = s ∧
        (s.markTemporaryDisplayPendingDeparture request).2.error ≠ .none) := by
  unfold markTemporaryDisplayPendingDeparture
  split
  case h_2 => exact .inr ⟨rfl, by simp [validationFailure]⟩
  case h_1 =>
    cases hdisplay : s.displaysById[request.displayId]? with
    | none => exact .inr ⟨rfl, by simp⟩
    | some display =>
      dsimp only
      split_ifs with hlease
      · exact .inr ⟨rfl, by simp⟩
      · exact .inl ⟨display, rfl, not_not.mp hlease, rfl⟩

theorem feedLease_cases (s : DisplayStore) (request : LeaseRequest) (now : TimePoint) :
    (∃ lease, s.leasesById[request.leaseId]? = some lease ∧ now < lease.expiresAt ∧
      s.leaseHasExpiredPendingDeparture request.leaseId now = false ∧
      s.feedLease request now =
        ({ s with
            leasesById := s.leasesById.insert request.leaseId
              { lease with
                timeoutMs := normalizeTimeoutMs request.requestedTimeoutMs
                expiresAt := now + milliseconds (normalizeTimeoutMs request.requestedTimeoutMs) }
            displaysById := s.displaysById.map fun _ ↦
              feedRecord request.leaseId (normalizeTimeoutMs request.requestedTimeoutMs)
                (now + milliseconds (normalizeTimeoutMs request.requestedTimeoutMs)) },
          {})) ∨
      ((s.feedLease request now).1 = s ∧ (s.feedLease request now).2.error ≠ .none) := by
  unfold feedLease
  split
  case h_2 => exact .inr ⟨rfl, by simp [validationFailure]⟩
  case h_1 =>
    cases hlease : s.leasesById[request.leaseId]? with
    | none => exact .inr ⟨rfl, by simp⟩
    | some lease =>
      dsimp only
      split_ifs with hrefused
      · exact .inr ⟨rfl, by simp⟩
      · simp only [not_or, Int.not_le, Bool.not_eq_true] at hrefused
        exact .inl ⟨lease, rfl, hrefused.1, hrefused.2, rfl⟩

theorem releaseLease_cases (s : DisplayStore) (request : LeaseRequest) :
    ((s.leasesById[request.leaseId]?).isSome ∧
      s.releaseLease request =
        ({ s with
            displaysById := OrdMap.eraseIf s.displaysById fun _ display ↦
              display.leaseId == request.leaseId
            leasesById := s.leasesById.erase request.leaseId }, {})) ∨
      ((s.releaseLease request).1 = s ∧ (s.releaseLease request).2.error ≠ .none) := by
  unfold releaseLease
  split
  case h_2 => exact .inr ⟨rfl, by simp [validationFailure]⟩
  case h_1 =>
    split_ifs with hlease
    · exact .inl ⟨ExtTreeMap.contains_eq_isSome_getElem?.symm.trans hlease, rfl⟩
    · exact .inr ⟨rfl, by simp⟩

theorem reapExpired_keeps (s : DisplayStore) (now : TimePoint) :
    Keeps s (s.reapExpired now).1 := by
  refine OrdMap.foldl_toList (fun (s : DisplayStore) d display hdisplay ↦ ?_) s
  rw [reapDisplay]
  split_ifs
  · refine ⟨.single (.erased hdisplay), fun d' hd' ↦ ?_⟩
    rw [eraseDisplay_displaysById, OrdMap.getElem?_erase, if_neg hd']
  · exact ⟨.refl, fun _ _ ↦ rfl⟩

theorem applyDisplayManifest_cases (s : DisplayStore) (manifest : DisplayManifest) :
    (∃ canonical, validateDisplayManifest manifest s.maxPermanentDisplays = .none ∧
      canonicalDisplayManifest manifest = some canonical ∧
      s.applyDisplayManifest manifest =
        ({ s with
            permanentDisplayCount := canonical.profileCount
            displayManifest := canonical
            permanentDisplaySettings := permanentSettingsFromDisplayManifest canonical }, {})) ∨
      ((s.applyDisplayManifest manifest).1 = s ∧
        (s.applyDisplayManifest manifest).2.error ≠ .none) := by
  unfold applyDisplayManifest
  split
  case h_2 => exact .inr ⟨rfl, by simp [validationFailure]⟩
  case h_1 hvalid =>
    cases hnames : canonicalDisplayManifest manifest with
    | none => exact .inr ⟨rfl, by simp [validationFailure]⟩
    | some canonical => exact .inl ⟨canonical, hvalid, rfl, rfl⟩

theorem applyDisplayManifest_records (s : DisplayStore) (manifest : DisplayManifest) :
    (s.applyDisplayManifest manifest).1.displaysById = s.displaysById ∧
      (s.applyDisplayManifest manifest).1.leasesById = s.leasesById ∧
      (s.applyDisplayManifest manifest).1.nextTemporaryDisplayGeneration =
        s.nextTemporaryDisplayGeneration := by
  obtain ⟨canonical, -, -, h⟩ | ⟨h, -⟩ := s.applyDisplayManifest_cases manifest <;> rw [h] <;>
    exact ⟨rfl, rfl, rfl⟩

theorem applyDisplayManifest_keeps (s : DisplayStore) (manifest : DisplayManifest) :
    Keeps s (s.applyDisplayManifest manifest).1 := by
  obtain ⟨canonical, hvalid, hnames, h⟩ | ⟨h, -⟩ := s.applyDisplayManifest_cases manifest
  · rw [h]
    exact .single (.manifestApplied hvalid hnames)
  · rw [h]

theorem setPermanentDisplayCount_keeps (s : DisplayStore)
    (request : PermanentDisplayCountRequest) :
    Keeps s (s.setPermanentDisplayCount request).1 := by
  unfold setPermanentDisplayCount
  dsimp only
  split
  · exact s.applyDisplayManifest_keeps _
  · exact .refl

end DisplayStore

/-! ## Runs of operations -/

/-- A call of one of the store's operations, with its arguments. -/
inductive StoreOp where
  | createTemporaryDisplay (request : CreateTemporaryDisplayRequest) (now : TimePoint)
  | createTemporaryDisplayOwned (request : CreateTemporaryDisplayOwnedRequest) (now : TimePoint)
  | reclaimTemporaryDisplay (request : ReclaimTemporaryDisplayRequest) (now : TimePoint)
  | removeTemporaryDisplay (request : LeaseDisplayRequest) (mode : RemoveTemporaryDisplayMode)
  | markTemporaryDisplayPendingDeparture (request : LeaseDisplayRequest)
  | abandonPendingTemporaryDisplay (request : LeaseDisplayRequest) (expectedGeneration : UInt64)
      (ownerCapability : OwnerCapability)
  | feedLease (request : LeaseRequest) (now : TimePoint)
  | releaseLease (request : LeaseRequest)
  | reapExpired (now : TimePoint)
  | setPermanentDisplayCount (request : PermanentDisplayCountRequest)
  | applyDisplayManifest (manifest : DisplayManifest)

/-- The store after the operation. -/
def StoreOp.apply (s : DisplayStore) : StoreOp → DisplayStore
  | createTemporaryDisplay request now => (s.createTemporaryDisplay request now).1
  | createTemporaryDisplayOwned request now => (s.createTemporaryDisplayOwned request now).1
  | reclaimTemporaryDisplay request now => (s.reclaimTemporaryDisplay request now).1
  | removeTemporaryDisplay request mode => (s.removeTemporaryDisplay request mode).1
  | markTemporaryDisplayPendingDeparture request =>
    (s.markTemporaryDisplayPendingDeparture request).1
  | abandonPendingTemporaryDisplay request expectedGeneration ownerCapability =>
    (s.abandonPendingTemporaryDisplay request expectedGeneration ownerCapability).1
  | feedLease request now => (s.feedLease request now).1
  | releaseLease request => (s.releaseLease request).1
  | reapExpired now => (s.reapExpired now).1
  | setPermanentDisplayCount request => (s.setPermanentDisplayCount request).1
  | applyDisplayManifest manifest => (s.applyDisplayManifest manifest).1

namespace DisplayStore

/-- Run a sequence of operations. -/
def execute (s : DisplayStore) (ops : List StoreOp) : DisplayStore := ops.foldl StoreOp.apply s

theorem createTemporaryDisplayOwned_cases (s : DisplayStore)
    (request : CreateTemporaryDisplayOwnedRequest) (now : TimePoint) :
    (validateCreateTemporaryDisplayOwned request = .none ∧
      s.createTemporaryDisplayOwned request now =
        s.createTemporaryDisplayImpl request.display (some request.ownerCapability) now) ∨
      ((s.createTemporaryDisplayOwned request now).1 = s ∧
        (s.createTemporaryDisplayOwned request now).2.status.error ≠ .none) := by
  unfold createTemporaryDisplayOwned
  split
  case h_1 hvalid => exact .inl ⟨hvalid, rfl⟩
  case h_2 => exact .inr ⟨rfl, by simp [validationFailure]⟩

end DisplayStore

/-- The operation is neither a create nor a reclaim. -/
def StoreOp.isUpkeep : StoreOp → Bool
  | createTemporaryDisplay .. | createTemporaryDisplayOwned .. | reclaimTemporaryDisplay .. => false
  | _ => true

open DisplayStore in
/-- The other operations create no record and move none to another lease. -/
theorem StoreOp.keeps (s : DisplayStore) {op : StoreOp} (hop : op.isUpkeep = true) :
    Keeps s (op.apply s) := by
  cases op with
  | createTemporaryDisplay | createTemporaryDisplayOwned | reclaimTemporaryDisplay => cases hop
  | removeTemporaryDisplay request mode => exact s.removeTemporaryDisplay_keeps request mode
  | markTemporaryDisplayPendingDeparture request =>
    obtain ⟨display, hdisplay, -, h⟩ | ⟨h, -⟩ :=
      s.markTemporaryDisplayPendingDeparture_cases request
    · rw [apply, h]
      exact .single (.marked hdisplay)
    · rw [apply, h]
  | abandonPendingTemporaryDisplay request expectedGeneration ownerCapability =>
    exact s.abandonPendingTemporaryDisplay_keeps request expectedGeneration ownerCapability
  | feedLease request now =>
    obtain ⟨lease, hlease, -, -, h⟩ | ⟨h, -⟩ := s.feedLease_cases request now
    · rw [apply, h]
      exact .single (.fed _ _ hlease)
    · rw [apply, h]
  | releaseLease request =>
    obtain ⟨-, h⟩ | ⟨h, -⟩ := s.releaseLease_cases request
    · rw [apply, h]
      exact .single (.released request.leaseId)
    · rw [apply, h]
  | reapExpired now => exact s.reapExpired_keeps now
  | setPermanentDisplayCount request => exact s.setPermanentDisplayCount_keeps request
  | applyDisplayManifest manifest => exact s.applyDisplayManifest_keeps manifest

open DisplayStore in
/-- Every operation is a sequence of changes. -/
theorem StoreOp.reaches (s : DisplayStore) (op : StoreOp) : Reaches s (op.apply s) := by
  cases op with
  | createTemporaryDisplay request now =>
    exact s.createTemporaryDisplayImpl_reaches request none now
  | createTemporaryDisplayOwned request now =>
    obtain ⟨-, h⟩ | ⟨h, -⟩ := s.createTemporaryDisplayOwned_cases request now
    · rw [apply, h]
      exact s.createTemporaryDisplayImpl_reaches _ _ now
    · rw [apply, h]
  | reclaimTemporaryDisplay request now => exact s.reclaimTemporaryDisplay_reaches request now
  | _ => exact (StoreOp.keeps s rfl).reaches

namespace DisplayStore

/-- What every change preserves holds after any sequence of changes. -/
theorem Reaches.invariant {P : DisplayStore → Prop} {s s' : DisplayStore}
    (hreaches : Reaches s s') (hchange : ∀ s s', P s → StoreChange s s' → P s') (h : P s) :
    P s' := by
  induction hreaches with
  | refl => exact h
  | tail _ hstep ih => exact hchange _ _ ih hstep

theorem execute_reaches (s : DisplayStore) (ops : List StoreOp) : Reaches s (s.execute ops) :=
  List.foldlRecOn ops StoreOp.apply .refl fun _ hs op _ ↦ hs.trans (op.reaches _)

/-- The store before the initial manifest is applied. -/
def empty (maxPermanentDisplays maxTemporaryDisplays : UInt32)
    (connectorReservationsByDisplayId : OrdMap UInt64 UInt32) : DisplayStore :=
  .new maxPermanentDisplays maxTemporaryDisplays connectorReservationsByDisplayId none

/-- An initial manifest is applied the way any other is. -/
theorem new_reaches (maxPermanentDisplays maxTemporaryDisplays : UInt32)
    (reservations : OrdMap UInt64 UInt32) (initialManifest : Option DisplayManifest) :
    Reaches (empty maxPermanentDisplays maxTemporaryDisplays reservations)
      (.new maxPermanentDisplays maxTemporaryDisplays reservations initialManifest) := by
  cases initialManifest with
  | none => exact .refl
  | some manifest =>
    unfold new
    dsimp only
    split_ifs
    · exact (applyDisplayManifest_keeps _ manifest).reaches
    · exact .refl

/-- A new store has handed out nothing. -/
theorem new_fresh (maxPermanentDisplays maxTemporaryDisplays : UInt32)
    (reservations : OrdMap UInt64 UInt32) (initialManifest : Option DisplayManifest) :
    let s := DisplayStore.new maxPermanentDisplays maxTemporaryDisplays reservations initialManifest
    s.displaysById = ∅ ∧ s.leasesById = ∅ ∧ s.nextTemporaryDisplayGeneration = 1 := by
  cases initialManifest with
  | none => exact ⟨rfl, rfl, rfl⟩
  | some manifest =>
    unfold new
    dsimp only
    split_ifs
    · exact applyDisplayManifest_records _ manifest
    · exact ⟨rfl, rfl, rfl⟩

/-- What holds of the empty store and is preserved by every change holds of every store, however
it was constructed and whatever operations have run on it. -/
theorem execute_new_invariant {P : DisplayStore → Prop}
    {maxPermanentDisplays maxTemporaryDisplays : UInt32} {reservations : OrdMap UInt64 UInt32}
    (hempty : P (empty maxPermanentDisplays maxTemporaryDisplays reservations))
    (hchange : ∀ s s', P s → StoreChange s s' → P s') (initialManifest : Option DisplayManifest)
    (ops : List StoreOp) :
    P (DisplayStore.execute
      (.new maxPermanentDisplays maxTemporaryDisplays reservations initialManifest) ops) :=
  Reaches.invariant ((new_reaches ..).trans (execute_reaches _ ops)) hchange hempty

/-! ## Records are stored under their own id -/

/-- Every record is stored under its display id, and its ids are ones a request may name. -/
def RecordsKeyed (s : DisplayStore) : Prop :=
  ∀ (d : UInt64) (r : TemporaryDisplayRecord), s.displaysById[d]? = some r →
    r.displayId = d ∧ d ≠ 0 ∧ kMinOpaqueLeaseId ≤ r.leaseId

theorem RecordsKeyed.of_change {s s' : DisplayStore} (h : s.RecordsKeyed)
    (hstep : StoreChange s s') : s'.RecordsKeyed := by
  intro d r' hr'
  cases hstep with
  | created haccepted =>
    rw [commitTemporaryDisplay, OrdMap.getElem?_insert] at hr'
    split_ifs at hr' with hd
    · cases hr'
      have hids := validateCreateTemporaryDisplay_ids haccepted.valid
      exact ⟨hd, hd ▸ hids.2.2, hids.2.1⟩
    · exact h d r' hr'
  | kept hchange =>
    rcases hchange.records hr' with ⟨r, hr, hevolves, hlease⟩
    rcases h d r hr with ⟨hid, hd, hvalid⟩
    exact ⟨hevolves.displayId.trans hid, hd, hlease ▸ hvalid⟩
  | reclaimed timeoutMs expiresAt _ _ _ hvalid =>
    rw [getElem?_rotateLease, Option.map_eq_some_iff] at hr'
    rcases hr' with ⟨r, hr, rfl⟩
    rcases h d r hr with ⟨hid, hd, hold⟩
    refine ⟨(TemporaryDisplayRecord.Evolves.rotateRecord ..).displayId.trans hid, hd, ?_⟩
    rw [rotateRecord]
    split_ifs
    · exact hvalid
    · exact hold

theorem execute_recordsKeyed (maxPermanentDisplays maxTemporaryDisplays : UInt32)
    (reservations : OrdMap UInt64 UInt32) (initialManifest : Option DisplayManifest)
    (ops : List StoreOp) :
    RecordsKeyed (DisplayStore.execute
      (.new maxPermanentDisplays maxTemporaryDisplays reservations initialManifest) ops) :=
  execute_new_invariant (fun d r h ↦ by simp [empty, new] at h) (fun _ _ h ↦ h.of_change)
    initialManifest ops

end DisplayStore

end VirtualDisplay
