import VirtualDisplay.LeaseStore.Changes

/-!
# Renaming leases

What a lease id or an owner capability is makes no difference to the store: it compares them, and
checks that an id is in range and a capability is not zero, and that is all.  So an operation on a
store in which the leases and the capabilities have other names does the same under the other names.

A `Renaming` says how ids and capabilities are renamed, and `Renaming.Renames` that one store is
another under the other names: its records are renamed, and each lease is found under its new id.
`Renaming.Follows` says that an operation leads from two such stores to two such stores, with the
same result up to the names; each operation has a lemma that says so.

## What is here

* `Renaming` — two maps with the conditions on them: ids in range stay so, capabilities other than
  zero stay so, and what differs stays different.
* `Renaming.exchanging` — the renaming that exchanges two leases, as an instance of it.
* `map_records` — how updates of all records go along with renaming.
* A lemma named after each operation, all of them of the form `Follows`.

Which lease comes first in the map may change, so loops over leases have to be looked at; the loops
over records are in the order of the display ids, which are not renamed.
-/

set_option autoImplicit false

namespace VirtualDisplay

open Std DisplayStore

/-- Other names for the lease ids and the owner capabilities, under which different ones stay
different and those a caller may use stay so. -/
structure Renaming where
  leaseId : UInt64 → UInt64
  ownerCapability : OwnerCapability → OwnerCapability
  leaseId_injective : Function.Injective leaseId
  ownerCapability_injective : Function.Injective ownerCapability
  leaseId_opaque : ∀ id, kMinOpaqueLeaseId ≤ id → kMinOpaqueLeaseId ≤ leaseId id
  ownerCapability_nonzero : ∀ capability, capability.isZero = false →
    (ownerCapability capability).isZero = false

namespace Renaming

/-- Two ids and two capabilities, which a caller may use, that take each other's place. -/
def exchanging (id id' : UInt64) (capability capability' : OwnerCapability)
    (hid : kMinOpaqueLeaseId ≤ id) (hid' : kMinOpaqueLeaseId ≤ id')
    (hcapability : capability.isZero = false) (hcapability' : capability'.isZero = false) :
    Renaming where
  leaseId := Equiv.swap id id'
  ownerCapability := Equiv.swap capability capability'
  leaseId_injective := (Equiv.swap id id').injective
  ownerCapability_injective := (Equiv.swap capability capability').injective
  leaseId_opaque other h := by
    rw [Equiv.swap_apply_def]
    split_ifs
    · exact hid'
    · exact hid
    · exact h
  ownerCapability_nonzero other h := by
    rw [Equiv.swap_apply_def]
    split_ifs
    · exact hcapability'
    · exact hcapability
    · exact h

variable (ρ : Renaming)

/-! ## Renamed values -/

/-- The record under its new lease. -/
abbrev record (record : TemporaryDisplayRecord) : TemporaryDisplayRecord :=
  { record with leaseId := ρ.leaseId record.leaseId }

/-- The lease with its new capability. -/
abbrev lease (lease : LeaseRecord) : LeaseRecord :=
  { lease with ownerCapability := lease.ownerCapability.map ρ.ownerCapability }

/-- The requests under the new names. -/
abbrev createRequest (request : CreateTemporaryDisplayRequest) : CreateTemporaryDisplayRequest :=
  { request with leaseId := ρ.leaseId request.leaseId }

abbrev createOwnedRequest (request : CreateTemporaryDisplayOwnedRequest) :
    CreateTemporaryDisplayOwnedRequest where
  display := ρ.createRequest request.display
  ownerCapability := ρ.ownerCapability request.ownerCapability

abbrev reclaimRequest (request : ReclaimTemporaryDisplayRequest) : ReclaimTemporaryDisplayRequest :=
  { request with
    newLeaseId := ρ.leaseId request.newLeaseId
    ownerCapability := ρ.ownerCapability request.ownerCapability }

abbrev leaseDisplayRequest (request : LeaseDisplayRequest) : LeaseDisplayRequest :=
  { request with leaseId := ρ.leaseId request.leaseId }

abbrev leaseRequest (request : LeaseRequest) : LeaseRequest :=
  { request with leaseId := ρ.leaseId request.leaseId }

/-- The result under the new name of its lease. -/
def createResult (result : CreateTemporaryDisplayResult) : CreateTemporaryDisplayResult :=
  { result with leaseId := ρ.leaseId result.leaseId }

/-- A refused create returns no lease id. -/
def createStoreResult (result : CreateStoreResult) : CreateStoreResult :=
  if result.status.error = .none then { result with result := ρ.createResult result.result }
  else result

/-- A checked request under the new name of its lease. -/
def validated (validated : ValidatedCreateTemporaryDisplay) : ValidatedCreateTemporaryDisplay :=
  { validated with request := ρ.createRequest validated.request }

/-- The second map holds the leases of the first under their new names. -/
def Leases (leases leases' : OrdMap UInt64 LeaseRecord) : Prop :=
  ∀ id, leases'[ρ.leaseId id]? = leases[id]?.map ρ.lease

/-- The store with its records renamed, and other leases. -/
def store (s : DisplayStore) (leases : OrdMap UInt64 LeaseRecord) : DisplayStore :=
  { s with displaysById := s.displaysById.map fun _ ↦ ρ.record, leasesById := leases }

/-- The second store is the first under its other names. -/
def Renames (s s' : DisplayStore) : Prop :=
  ∃ leases, ρ.Leases s.leasesById leases ∧ s' = ρ.store s leases

/-- What an operation does to a store it does to the other under the other names, and the second
result is the first one renamed. -/
def Follows {α : Type} (rename : α → α) (out out' : DisplayStore × α) : Prop :=
  ρ.Renames out.1 out'.1 ∧ out'.2 = rename out.2

variable {ρ} {s : DisplayStore} {leases : OrdMap UInt64 LeaseRecord}

/-! ## Requests are as valid as before

A map that is injective and takes the members of a finite set to members takes the others to
others: so an id or a capability that a caller may not use is not renamed to one that it may.
-/

theorem mem_of_injective {α : Type} [Finite α] {f : α → α} {S : Set α}
    (hinj : Function.Injective f) (hmaps : Set.MapsTo f S S) {a : α} (h : f a ∈ S) : a ∈ S := by
  obtain ⟨b, hb, hab⟩ :=
    (((Set.toFinite S).injOn_iff_bijOn_of_mapsTo hmaps).mp hinj.injOn).surjOn h
  rwa [← hinj hab]

instance : Finite UInt64 := Finite.of_injective UInt64.toFin fun _ _ h ↦ UInt64.toFin_inj.mp h

instance : Finite UInt8 := Finite.of_injective UInt8.toFin fun _ _ h ↦ UInt8.toFin_inj.mp h

instance : Finite OwnerCapability := by
  refine Finite.of_injective
    (fun capability (i : Fin kOwnerCapabilityBytes) ↦ capability.bytes.get i) ?_
  rintro ⟨lhs⟩ ⟨rhs⟩ h
  congr 1
  exact Vector.ext fun i hi ↦ congrFun h ⟨i, hi⟩

theorem leaseId_lt_iff (id : UInt64) :
    ρ.leaseId id < kMinOpaqueLeaseId ↔ id < kMinOpaqueLeaseId := by
  have hiff : kMinOpaqueLeaseId ≤ ρ.leaseId id ↔ kMinOpaqueLeaseId ≤ id :=
    ⟨mem_of_injective ρ.leaseId_injective (S := {id : UInt64 | kMinOpaqueLeaseId ≤ id})
      ρ.leaseId_opaque, ρ.leaseId_opaque id⟩
  rw [← UInt64.not_le, ← UInt64.not_le, hiff]

theorem ownerCapability_isZero (capability : OwnerCapability) :
    (ρ.ownerCapability capability).isZero = capability.isZero := by
  have hiff : (ρ.ownerCapability capability).isZero = false ↔ capability.isZero = false :=
    ⟨mem_of_injective ρ.ownerCapability_injective
      (S := {capability : OwnerCapability | capability.isZero = false})
      ρ.ownerCapability_nonzero, ρ.ownerCapability_nonzero capability⟩
  rw [Bool.eq_iff_iff, ← Bool.not_eq_false, ← Bool.not_eq_false, hiff]

theorem leaseId_inj {id id' : UInt64} : ρ.leaseId id = ρ.leaseId id' ↔ id = id' :=
  ρ.leaseId_injective.eq_iff

theorem leaseId_beq (id id' : UInt64) : (ρ.leaseId id == ρ.leaseId id') = (id == id') := by
  rw [Bool.eq_iff_iff, beq_iff_eq, beq_iff_eq, leaseId_inj]

theorem ite_opaque {α : Type} (id : UInt64) (a b : α) :
    (if ρ.leaseId id < kMinOpaqueLeaseId then a else b) =
      if id < kMinOpaqueLeaseId then a else b :=
  if_congr (leaseId_lt_iff id) rfl rfl

theorem validate_createRequest (request : CreateTemporaryDisplayRequest) :
    validateCreateTemporaryDisplay (ρ.createRequest request) =
      validateCreateTemporaryDisplay request := by
  simp only [validateCreateTemporaryDisplay, ite_opaque]

theorem validate_createOwnedRequest (request : CreateTemporaryDisplayOwnedRequest) :
    validateCreateTemporaryDisplayOwned (ρ.createOwnedRequest request) =
      validateCreateTemporaryDisplayOwned request := by
  simp only [validateCreateTemporaryDisplayOwned, validate_createRequest,
    ownerCapability_isZero]

theorem validate_reclaimRequest (request : ReclaimTemporaryDisplayRequest) :
    validateReclaimTemporaryDisplay (ρ.reclaimRequest request) =
      validateReclaimTemporaryDisplay request := by
  simp only [validateReclaimTemporaryDisplay, ite_opaque, ownerCapability_isZero]

theorem validate_leaseDisplayRequest (request : LeaseDisplayRequest) :
    validateLeaseDisplayRequest (ρ.leaseDisplayRequest request) =
      validateLeaseDisplayRequest request := by
  simp only [validateLeaseDisplayRequest, ite_opaque]

theorem validate_leaseRequest (request : LeaseRequest) :
    validateLeaseRequest (ρ.leaseRequest request) = validateLeaseRequest request := by
  simp only [validateLeaseRequest, ite_opaque]

theorem ownerCapabilitiesEqual_map (held presented : OwnerCapability) :
    ownerCapabilitiesEqual (ρ.ownerCapability held) (ρ.ownerCapability presented) =
      ownerCapabilitiesEqual held presented := by
  rw [Bool.eq_iff_iff, ownerCapabilitiesEqual_iff, ownerCapabilitiesEqual_iff,
    ρ.ownerCapability_injective.eq_iff]

theorem lease_isOwnedBy (lease : LeaseRecord) (presented : OwnerCapability) :
    (ρ.lease lease).isOwnedBy (ρ.ownerCapability presented) = lease.isOwnedBy presented := by
  simp only [LeaseRecord.isOwnedBy, Option.any_map]
  congr 1
  funext held
  exact ownerCapabilitiesEqual_map held presented

/-! ## Looking at a renamed store -/

theorem getElem?_store (d : UInt64) :
    (ρ.store s leases).displaysById[d]? = s.displaysById[d]?.map ρ.record :=
  OrdMap.getElem?_map _ _ d

theorem findTemporaryDisplay_store (d : UInt64) :
    (ρ.store s leases).findTemporaryDisplay d = (s.findTemporaryDisplay d).map ρ.record :=
  getElem?_store d

theorem contains_store (d : UInt64) :
    (ρ.store s leases).displaysById.contains d = s.displaysById.contains d := by
  rw [ExtTreeMap.contains_eq_isSome_getElem?, ExtTreeMap.contains_eq_isSome_getElem?,
    getElem?_store, Option.isSome_map]

theorem size_store : (ρ.store s leases).displaysById.size = s.displaysById.size :=
  ExtTreeMap.size_map

theorem temporaryDisplays_store :
    (ρ.store s leases).temporaryDisplays = s.temporaryDisplays.map ρ.record :=
  OrdMap.valueList_map _ _

theorem temporaryDisplaysForLease_store (id : UInt64) :
    (ρ.store s leases).temporaryDisplaysForLease (ρ.leaseId id) =
      (s.temporaryDisplaysForLease id).map ρ.record := by
  rw [temporaryDisplaysForLease, temporaryDisplays_store, List.filter_map]
  congr 2
  funext r
  exact leaseId_beq r.leaseId id

theorem pendingDepartureTemporaryDisplays_store :
    (ρ.store s leases).pendingDepartureTemporaryDisplays =
      s.pendingDepartureTemporaryDisplays.map ρ.record := by
  rw [pendingDepartureTemporaryDisplays, temporaryDisplays_store, List.filter_map]
  rfl

theorem expiredTemporaryDisplays_store (now : TimePoint) :
    (ρ.store s leases).expiredTemporaryDisplays now =
      (s.expiredTemporaryDisplays now).map ρ.record := by
  rw [expiredTemporaryDisplays, temporaryDisplays_store, List.filter_map]
  rfl

theorem leaseHasDisplays_store (id : UInt64) :
    (ρ.store s leases).leaseHasDisplays (ρ.leaseId id) = s.leaseHasDisplays id :=
  OrdMap.anyEntry_map _ _ fun _ r ↦ leaseId_beq r.leaseId id

theorem leaseHasPendingDeparture_store (id : UInt64) :
    (ρ.store s leases).leaseHasPendingDeparture (ρ.leaseId id) = s.leaseHasPendingDeparture id :=
  OrdMap.anyEntry_map _ _ fun _ r ↦
    congrArg (· && r.pendingDeparture) (leaseId_beq r.leaseId id)

theorem leaseHasExpiredPendingDeparture_store (id : UInt64) (now : TimePoint) :
    (ρ.store s leases).leaseHasExpiredPendingDeparture (ρ.leaseId id) now =
      s.leaseHasExpiredPendingDeparture id now :=
  OrdMap.anyEntry_map _ _ fun _ r ↦
    congrArg (· && r.pendingDeparture && decide (r.expiresAt ≤ now)) (leaseId_beq r.leaseId id)

theorem connectorIndexIsActive_store (c : UInt32) :
    (ρ.store s leases).connectorIndexIsActive c = s.connectorIndexIsActive c :=
  OrdMap.anyEntry_map _ _ fun _ _ ↦ rfl

theorem edidIdentityIsActive_store (identity : UInt64) :
    (ρ.store s leases).edidIdentityIsActive identity = s.edidIdentityIsActive identity :=
  OrdMap.anyEntry_map _ _ fun _ _ ↦ rfl

theorem connectorIsUsable_store :
    (ρ.store s leases).connectorIsUsable = s.connectorIsUsable := by
  funext c
  rw [connectorIsUsable, connectorIsUsable, connectorIndexIsActive_store]
  rfl

theorem reservedConnectorIndex_store (d : UInt64) (retainIdentity : Bool) :
    (ρ.store s leases).reservedConnectorIndex d retainIdentity =
      s.reservedConnectorIndex d retainIdentity := by
  simp only [reservedConnectorIndex, connectorIndexIsActive_store]
  rfl

theorem unreservedConnectorIndex_store (d : UInt64) (retainIdentity : Bool) :
    (ρ.store s leases).unreservedConnectorIndex d retainIdentity =
      s.unreservedConnectorIndex d retainIdentity := by
  rw [unreservedConnectorIndex, connectorIsUsable_store]
  rfl

theorem connectorIndexForDisplay_store (d : UInt64) (retainIdentity : Bool) :
    (ρ.store s leases).connectorIndexForDisplay d retainIdentity =
      (ρ.store (s.connectorIndexForDisplay d retainIdentity).1 leases,
        (s.connectorIndexForDisplay d retainIdentity).2) := by
  have hlower : (ρ.store s leases).maxPermanentDisplays = s.maxPermanentDisplays := rfl
  have hupper : (ρ.store s leases).temporaryConnectorLimit = s.temporaryConnectorLimit := rfl
  rw [connectorIndexForDisplay, connectorIndexForDisplay, reservedConnectorIndex_store,
    unreservedConnectorIndex_store, connectorIsUsable_store, hlower, hupper]
  cases s.reservedConnectorIndex d retainIdentity with
  | some _ => rfl
  | none =>
    cases s.unreservedConnectorIndex d retainIdentity with
    | some _ => rfl
    | none =>
      cases Scan.firstBelow s.connectorIsUsable s.maxPermanentDisplays s.temporaryConnectorLimit
        <;> rfl

theorem drawEphemeralIdentity_store (fuel : Nat) (next : UInt64) :
    (ρ.store s leases).drawEphemeralIdentity fuel next = s.drawEphemeralIdentity fuel next := by
  induction fuel generalizing next with
  | zero => rfl
  | succ fuel ih =>
    rw [drawEphemeralIdentity, drawEphemeralIdentity, edidIdentityIsActive_store, ih]

theorem freshEphemeralIdentity_store :
    (ρ.store s leases).freshEphemeralIdentity = s.freshEphemeralIdentity := by
  rw [freshEphemeralIdentity, drawEphemeralIdentity_store, size_store]
  rfl

/-- A store without displays and leases has none to rename. -/
theorem renames_self (hrecords : s.displaysById = ∅) (hleases : s.leasesById = ∅) :
    ρ.Renames s s := by
  refine ⟨s.leasesById, fun id ↦ by rw [hleases]; simp, ?_⟩
  have hmap : (s.displaysById.map fun _ ↦ ρ.record) = s.displaysById := by
    refine ExtTreeMap.ext_getElem? fun d ↦ ?_
    rw [OrdMap.getElem?_map, hrecords]
    simp
  rw [store, hmap]

/-! ## Changing a renamed store -/

theorem Leases.insert {l l' : OrdMap UInt64 LeaseRecord} (h : ρ.Leases l l') (id : UInt64)
    (r : LeaseRecord) : ρ.Leases (l.insert id r) (l'.insert (ρ.leaseId id) (ρ.lease r)) := by
  intro id'
  simp only [OrdMap.getElem?_insert, leaseId_inj, h id']
  split <;> rfl

theorem Leases.erase {l l' : OrdMap UInt64 LeaseRecord} (h : ρ.Leases l l') (id : UInt64) :
    ρ.Leases (l.erase id) (l'.erase (ρ.leaseId id)) := by
  intro id'
  simp only [OrdMap.getElem?_erase, leaseId_inj, h id']
  split <;> rfl

theorem Leases.contains {l l' : OrdMap UInt64 LeaseRecord} (h : ρ.Leases l l') (id : UInt64) :
    l'.contains (ρ.leaseId id) = l.contains id := by
  rw [ExtTreeMap.contains_eq_isSome_getElem?, ExtTreeMap.contains_eq_isSome_getElem?, h id,
    Option.isSome_map]

variable {s' : DisplayStore}

theorem Renames.update (h : ρ.Renames s s')
    {records records' : OrdMap UInt64 TemporaryDisplayRecord}
    {leases leases' : OrdMap UInt64 LeaseRecord}
    (hrecords : records' = records.map fun _ ↦ ρ.record) (hleases : ρ.Leases leases leases') :
    ρ.Renames { s with displaysById := records, leasesById := leases }
      { s' with displaysById := records', leasesById := leases' } := by
  obtain ⟨_, -, rfl⟩ := h
  exact ⟨leases', hleases, by rw [hrecords]; rfl⟩

theorem removeLeaseIfEmpty_renames (h : ρ.Renames s s') (id : UInt64) :
    ρ.Renames (s.removeLeaseIfEmpty id) (s'.removeLeaseIfEmpty (ρ.leaseId id)) := by
  obtain ⟨leases, hleases, rfl⟩ := h
  rw [removeLeaseIfEmpty, removeLeaseIfEmpty, leaseHasDisplays_store]
  split
  · exact ⟨leases, hleases, rfl⟩
  · exact ⟨leases.erase (ρ.leaseId id), hleases.erase id, rfl⟩

theorem eraseDisplay_renames (h : ρ.Renames s s') (d id : UInt64) :
    ρ.Renames (s.eraseDisplay d id) (s'.eraseDisplay d (ρ.leaseId id)) := by
  have herased : ρ.Renames { s with displaysById := s.displaysById.erase d }
      { s' with displaysById := s'.displaysById.erase d } := by
    obtain ⟨leases, hleases, rfl⟩ := h
    exact Renames.update ⟨leases, hleases, rfl⟩ (OrdMap.map_erase ..).symm hleases
  exact removeLeaseIfEmpty_renames herased id

/-! ## Creating -/

theorem createdLease_store (hleases : ρ.Leases s.leasesById leases)
    (validated : ValidatedCreateTemporaryDisplay) (capability : Option OwnerCapability)
    (now : TimePoint) :
    (ρ.store s leases).createdLease (ρ.validated validated) (capability.map ρ.ownerCapability) now =
      ρ.lease (s.createdLease validated capability now) := by
  have hlookup := hleases validated.request.leaseId
  rw [createdLease, createdLease,
    show (ρ.store s leases).leasesById[(ρ.validated validated).request.leaseId]? = _ from hlookup]
  cases s.leasesById[validated.request.leaseId]? with
  | none => rfl
  | some lease => simp only [Option.map_some, Renaming.lease, Option.map_or]

theorem createdRecord_store (hleases : ρ.Leases s.leasesById leases)
    (validated : ValidatedCreateTemporaryDisplay) (now : TimePoint) (connectorIndex : UInt32)
    (retainIdentity : Bool) :
    (ρ.store s leases).createdRecord (ρ.validated validated) now connectorIndex retainIdentity =
      ρ.record (s.createdRecord validated now connectorIndex retainIdentity) := by
  have hlease := createdLease_store hleases validated none now
  rw [Option.map_none] at hlease
  rw [createdRecord, createdRecord, hlease, freshEphemeralIdentity_store]
  rfl

theorem commitTemporaryDisplay_follows (h : ρ.Renames s s')
    (validated : ValidatedCreateTemporaryDisplay) (capability : Option OwnerCapability)
    (now : TimePoint) (connectorIndex : UInt32) (retainIdentity : Bool) :
    ρ.Follows ρ.createStoreResult
      (s.commitTemporaryDisplay validated capability now connectorIndex retainIdentity)
      (s'.commitTemporaryDisplay (ρ.validated validated) (capability.map ρ.ownerCapability) now
        connectorIndex retainIdentity) := by
  obtain ⟨leases, hleases, rfl⟩ := h
  rw [commitTemporaryDisplay, commitTemporaryDisplay, createdLease_store hleases,
    createdRecord_store hleases, freshEphemeralIdentity_store]
  refine ⟨⟨_, hleases.insert validated.request.leaseId _, ?_⟩, rfl⟩
  simp only [store, OrdMap.map_insert]
  rfl

theorem Follows.refused (h : ρ.Renames s s') {result : CreateStoreResult}
    (herror : result.status.error ≠ .none) :
    ρ.Follows ρ.createStoreResult (s, result) (s', result) :=
  ⟨h, (if_neg herror).symm⟩

theorem connectorIndexForDisplay_follows (h : ρ.Renames s s') (d : UInt64)
    (retainIdentity : Bool) :
    ρ.Follows id (s.connectorIndexForDisplay d retainIdentity)
      (s'.connectorIndexForDisplay d retainIdentity) := by
  obtain ⟨leases, hleases, rfl⟩ := h
  obtain ⟨⟨reservations, hchosen⟩, -⟩ := s.connectorIndexForDisplay_spec d retainIdentity
  rw [connectorIndexForDisplay_store]
  exact ⟨⟨leases, by rw [hchosen]; exact hleases, rfl⟩, rfl⟩

theorem Renames.isTemporaryConnectorIndex (h : ρ.Renames s s') (c : UInt32) :
    s'.isTemporaryConnectorIndex c = s.isTemporaryConnectorIndex c := by
  obtain ⟨leases, -, rfl⟩ := h
  rfl

theorem Renames.edidIdentityIsActive (h : ρ.Renames s s') (identity : UInt64) :
    s'.edidIdentityIsActive identity = s.edidIdentityIsActive identity := by
  obtain ⟨leases, -, rfl⟩ := h
  exact edidIdentityIsActive_store identity

theorem placeTemporaryDisplay_follows (h : ρ.Renames s s')
    (validated : ValidatedCreateTemporaryDisplay) (capability : Option OwnerCapability)
    (now : TimePoint) :
    ρ.Follows ρ.createStoreResult (s.placeTemporaryDisplay validated capability now)
      (s'.placeTemporaryDisplay (ρ.validated validated) (capability.map ρ.ownerCapability)
        now) := by
  have hflags : (ρ.validated validated).request.flags = validated.request.flags := rfl
  have hid : (ρ.validated validated).request.displayId = validated.request.displayId := rfl
  rw [placeTemporaryDisplay, placeTemporaryDisplay, hflags, hid]
  generalize decide (validated.request.flags &&& kCreateTemporaryDisplayFlagEphemeralIdentity = 0) =
    retainIdentity
  have hchoice := connectorIndexForDisplay_follows h validated.request.displayId retainIdentity
  generalize s.connectorIndexForDisplay validated.request.displayId retainIdentity = choice
    at hchoice
  generalize s'.connectorIndexForDisplay validated.request.displayId retainIdentity = choice'
    at hchoice
  obtain ⟨chosen, c⟩ := choice
  obtain ⟨chosen', c'⟩ := choice'
  obtain ⟨hchosen, rfl⟩ : ρ.Renames chosen chosen' ∧ c' = c := hchoice
  dsimp only
  rw [hchosen.isTemporaryConnectorIndex, hchosen.edidIdentityIsActive]
  split_ifs
  · exact .refused hchosen (by decide)
  · exact .refused hchosen (by decide)
  · exact commitTemporaryDisplay_follows hchosen validated capability now c' retainIdentity

theorem leaseRefusesDisplays_store (hleases : ρ.Leases s.leasesById leases) (id : UInt64)
    (now : TimePoint) :
    (ρ.store s leases).leaseRefusesDisplays (ρ.leaseId id) leases[ρ.leaseId id]? now =
      s.leaseRefusesDisplays id s.leasesById[id]? now := by
  rw [leaseRefusesDisplays, leaseRefusesDisplays, hleases id, Option.any_map,
    leaseHasPendingDeparture_store]

theorem leaseOwnedByOther_map (lease : Option LeaseRecord) (capability : Option OwnerCapability) :
    leaseOwnedByOther (lease.map ρ.lease) (capability.map ρ.ownerCapability) =
      leaseOwnedByOther lease capability := by
  have hheld : (lease.map ρ.lease).bind LeaseRecord.ownerCapability =
      (lease.bind LeaseRecord.ownerCapability).map ρ.ownerCapability := by
    cases lease <;> rfl
  rw [leaseOwnedByOther.eq_def, leaseOwnedByOther.eq_def, hheld]
  cases lease.bind LeaseRecord.ownerCapability with
  | none => rfl
  | some held =>
    cases capability with
    | none => rfl
    | some presented => exact congrArg (!·) (ownerCapabilitiesEqual_map held presented)

theorem createTemporaryDisplayImpl_follows (h : ρ.Renames s s')
    (request : CreateTemporaryDisplayRequest) (capability : Option OwnerCapability)
    (now : TimePoint) :
    ρ.Follows ρ.createStoreResult (s.createTemporaryDisplayImpl request capability now)
      (s'.createTemporaryDisplayImpl (ρ.createRequest request)
        (capability.map ρ.ownerCapability) now) := by
  rw [createTemporaryDisplayImpl.eq_def, createTemporaryDisplayImpl.eq_def,
    validate_createRequest]
  cases hvalid : validateCreateTemporaryDisplay request
  case none =>
    have hplace :=
      placeTemporaryDisplay_follows h (validatedCreateTemporaryDisplay request) capability now
    have hrefused (error : StoreError) (herror : error ≠ .none) :
        ρ.Follows ρ.createStoreResult (s, createFailure error) (s', createFailure error) :=
      .refused h herror
    obtain ⟨leases, hleases, rfl⟩ := h
    dsimp only [createRequest]
    have hleases' : (ρ.store s leases).leasesById = leases := rfl
    have hlimit : (ρ.store s leases).maxTemporaryDisplays = s.maxTemporaryDisplays := rfl
    rw [contains_store, size_store, hlimit, hleases', leaseRefusesDisplays_store hleases,
      hleases, leaseOwnedByOther_map]
    split_ifs
    · exact hrefused _ nofun
    · exact hrefused _ nofun
    · exact hrefused _ nofun
    · exact hrefused _ nofun
    · exact hplace
  all_goals exact .refused h nofun

theorem createTemporaryDisplayOwned_follows (h : ρ.Renames s s')
    (request : CreateTemporaryDisplayOwnedRequest) (now : TimePoint) :
    ρ.Follows ρ.createStoreResult (s.createTemporaryDisplayOwned request now)
      (s'.createTemporaryDisplayOwned (ρ.createOwnedRequest request) now) := by
  rw [createTemporaryDisplayOwned.eq_def, createTemporaryDisplayOwned.eq_def,
    validate_createOwnedRequest]
  cases hvalid : validateCreateTemporaryDisplayOwned request
  case none =>
    exact createTemporaryDisplayImpl_follows h request.display (some request.ownerCapability) now
  all_goals exact .refused h nofun

/-! ## Removing and condemning -/

/-- The display is under the lease in the one store iff it is so in the other. -/
theorem isLeaseOf_store (d id : UInt64) :
    ((ρ.store s leases).displaysById[d]?).any (·.leaseId == ρ.leaseId id) =
      (s.displaysById[d]?).any (·.leaseId == id) := by
  rw [getElem?_store, Option.any_map]
  congr 1
  funext r
  exact leaseId_beq r.leaseId id

theorem removeTemporaryDisplay_follows (h : ρ.Renames s s') (request : LeaseDisplayRequest)
    (mode : RemoveTemporaryDisplayMode) :
    ρ.Follows id (s.removeTemporaryDisplay request mode)
      (s'.removeTemporaryDisplay (ρ.leaseDisplayRequest request) mode) := by
  rw [removeTemporaryDisplay.eq_def, removeTemporaryDisplay.eq_def, validate_leaseDisplayRequest]
  cases hvalid : validateLeaseDisplayRequest request
  case none =>
    have herase := eraseDisplay_renames h request.displayId request.leaseId
    obtain ⟨leases, hleases, rfl⟩ := h
    dsimp only [leaseDisplayRequest]
    rw [isLeaseOf_store]
    split_ifs
    · cases mode with
      | retainConnectorReservation => exact ⟨herase, rfl⟩
      | releaseConnectorReservation =>
        have hreleased : ρ.Renames
            { s with
              connectorReservationsByDisplayId :=
                s.connectorReservationsByDisplayId.erase request.displayId }
            { ρ.store s leases with
              connectorReservationsByDisplayId :=
                s.connectorReservationsByDisplayId.erase request.displayId } :=
          ⟨leases, hleases, rfl⟩
        exact ⟨eraseDisplay_renames hreleased request.displayId request.leaseId, rfl⟩
    · exact ⟨⟨leases, hleases, rfl⟩, rfl⟩
  all_goals exact ⟨h, rfl⟩

theorem markTemporaryDisplayPendingDeparture_follows (h : ρ.Renames s s')
    (request : LeaseDisplayRequest) :
    ρ.Follows id (s.markTemporaryDisplayPendingDeparture request)
      (s'.markTemporaryDisplayPendingDeparture (ρ.leaseDisplayRequest request)) := by
  rw [markTemporaryDisplayPendingDeparture.eq_def, markTemporaryDisplayPendingDeparture.eq_def,
    validate_leaseDisplayRequest]
  cases hvalid : validateLeaseDisplayRequest request
  case none =>
    obtain ⟨leases, hleases, rfl⟩ := h
    dsimp only [leaseDisplayRequest]
    rw [getElem?_store]
    cases s.displaysById[request.displayId]? with
    | none => exact ⟨⟨leases, hleases, rfl⟩, rfl⟩
    | some display =>
      dsimp only [Option.map_some, record]
      simp only [ne_eq, leaseId_inj]
      split_ifs
      · have hmarked := OrdMap.map_insert ρ.record s.displaysById request.displayId
          { display with pendingDeparture := true }
        exact ⟨Renames.update ⟨leases, hleases, rfl⟩ hmarked.symm hleases, rfl⟩
      · exact ⟨⟨leases, hleases, rfl⟩, rfl⟩
  all_goals exact ⟨h, rfl⟩

theorem abandonPendingTemporaryDisplay_follows (h : ρ.Renames s s')
    (request : LeaseDisplayRequest) (generation : UInt64) (capability : OwnerCapability) :
    ρ.Follows id (s.abandonPendingTemporaryDisplay request generation capability)
      (s'.abandonPendingTemporaryDisplay (ρ.leaseDisplayRequest request) generation
        (ρ.ownerCapability capability)) := by
  rw [abandonPendingTemporaryDisplay.eq_def, abandonPendingTemporaryDisplay.eq_def,
    validate_leaseDisplayRequest]
  cases hvalid : validateLeaseDisplayRequest request
  case none =>
    obtain ⟨leases, hleases, rfl⟩ := h
    dsimp only [leaseDisplayRequest]
    rw [getElem?_store]
    cases s.displaysById[request.displayId]? with
    | none => exact ⟨⟨leases, hleases, rfl⟩, rfl⟩
    | some display =>
      have howned : ((ρ.store s leases).leasesById[ρ.leaseId request.leaseId]?).any
            (LeaseRecord.isOwnedBy · (ρ.ownerCapability capability)) =
          (s.leasesById[request.leaseId]?).any (LeaseRecord.isOwnedBy · capability) := by
        change (leases[ρ.leaseId request.leaseId]?).any _ = _
        rw [hleases, Option.any_map]
        congr 1
        funext lease
        exact lease_isOwnedBy lease capability
      dsimp only [Option.map_some, record]
      simp only [ne_eq, leaseId_inj, howned]
      split_ifs
      · exact ⟨⟨leases, hleases, rfl⟩, rfl⟩
      · have hquarantined : ρ.Renames
            { s with
              quarantinedConnectors := s.quarantinedConnectors.insert display.connectorIndex ()
              connectorReservationsByDisplayId :=
                s.connectorReservationsByDisplayId.erase request.displayId }
            { ρ.store s leases with
              quarantinedConnectors := s.quarantinedConnectors.insert display.connectorIndex ()
              connectorReservationsByDisplayId :=
                s.connectorReservationsByDisplayId.erase request.displayId } :=
          ⟨leases, hleases, rfl⟩
        exact ⟨eraseDisplay_renames hquarantined request.displayId request.leaseId, rfl⟩
      · exact ⟨⟨leases, hleases, rfl⟩, rfl⟩
  all_goals exact ⟨h, rfl⟩

/-! ## Leases -/

theorem feedRecord_record (id : UInt64) (timeoutMs : UInt32) (expiresAt : TimePoint)
    (r : TemporaryDisplayRecord) :
    feedRecord (ρ.leaseId id) timeoutMs expiresAt (ρ.record r) =
      ρ.record (feedRecord id timeoutMs expiresAt r) := by
  rw [feedRecord, feedRecord]
  simp only [leaseId_inj]
  split_ifs <;> rfl

theorem rotateRecord_record (oldId newId : UInt64) (timeoutMs : UInt32) (expiresAt : TimePoint)
    (r : TemporaryDisplayRecord) :
    rotateRecord (ρ.leaseId oldId) (ρ.leaseId newId) timeoutMs expiresAt (ρ.record r) =
      ρ.record (rotateRecord oldId newId timeoutMs expiresAt r) := by
  rw [rotateRecord, rotateRecord]
  simp only [leaseId_inj]
  split_ifs <;> rfl

/-- Updating all records commutes with renaming them if the update of one does. -/
theorem map_records {f f' : TemporaryDisplayRecord → TemporaryDisplayRecord}
    (h : ∀ r, f' (ρ.record r) = ρ.record (f r)) (records : OrdMap UInt64 TemporaryDisplayRecord) :
    (records.map fun _ ↦ ρ.record).map (fun _ ↦ f') =
      (records.map fun _ ↦ f).map fun _ ↦ ρ.record := by
  refine ExtTreeMap.ext_getElem? fun d ↦ ?_
  simp only [OrdMap.getElem?_map, Option.map_map]
  congr 1
  funext r
  exact h r

theorem feedLease_follows (h : ρ.Renames s s') (request : LeaseRequest) (now : TimePoint) :
    ρ.Follows id (s.feedLease request now) (s'.feedLease (ρ.leaseRequest request) now) := by
  rw [feedLease.eq_def, feedLease.eq_def, validate_leaseRequest]
  cases hvalid : validateLeaseRequest request
  case none =>
    obtain ⟨leases, hleases, rfl⟩ := h
    dsimp only [leaseRequest]
    have hlookup : (ρ.store s leases).leasesById[ρ.leaseId request.leaseId]? =
        s.leasesById[request.leaseId]?.map ρ.lease := hleases request.leaseId
    rw [hlookup]
    cases s.leasesById[request.leaseId]? with
    | none => exact ⟨⟨leases, hleases, rfl⟩, rfl⟩
    | some lease =>
      dsimp only [Option.map_some]
      rw [leaseHasExpiredPendingDeparture_store]
      split_ifs
      · exact ⟨⟨leases, hleases, rfl⟩, rfl⟩
      · exact ⟨Renames.update ⟨leases, hleases, rfl⟩
          (map_records (fun r ↦ feedRecord_record _ _ _ r) _)
          (hleases.insert request.leaseId _), rfl⟩
  all_goals exact ⟨h, rfl⟩

theorem releaseLease_follows (h : ρ.Renames s s') (request : LeaseRequest) :
    ρ.Follows id (s.releaseLease request) (s'.releaseLease (ρ.leaseRequest request)) := by
  rw [releaseLease.eq_def, releaseLease.eq_def, validate_leaseRequest]
  cases hvalid : validateLeaseRequest request
  case none =>
    obtain ⟨leases, hleases, rfl⟩ := h
    dsimp only [leaseRequest]
    have hcontains : (ρ.store s leases).leasesById.contains (ρ.leaseId request.leaseId) =
        s.leasesById.contains request.leaseId := hleases.contains request.leaseId
    rw [hcontains]
    split_ifs
    · have hdisplays : (OrdMap.eraseIf s.displaysById fun _ r ↦ r.leaseId == request.leaseId).map
            (fun _ ↦ ρ.record) =
          OrdMap.eraseIf (s.displaysById.map fun _ ↦ ρ.record) fun _ r ↦
            r.leaseId == ρ.leaseId request.leaseId :=
        OrdMap.map_eraseIf _ _ fun _ r ↦ leaseId_beq r.leaseId request.leaseId
      exact ⟨Renames.update ⟨leases, hleases, rfl⟩ hdisplays.symm
        (hleases.erase request.leaseId), rfl⟩
    · exact ⟨⟨leases, hleases, rfl⟩, rfl⟩
  all_goals exact ⟨h, rfl⟩

theorem rotateLease_renames (h : ρ.Renames s s') (oldId newId : UInt64) (timeoutMs : UInt32)
    (expiresAt : TimePoint) (capability : Option OwnerCapability) :
    ρ.Renames (s.rotateLease oldId newId timeoutMs expiresAt capability)
      (s'.rotateLease (ρ.leaseId oldId) (ρ.leaseId newId) timeoutMs expiresAt
        (capability.map ρ.ownerCapability)) := by
  obtain ⟨leases, hleases, rfl⟩ := h
  exact Renames.update ⟨leases, hleases, rfl⟩
    (map_records (fun r ↦ rotateRecord_record _ _ _ _ r) _)
    ((hleases.erase oldId).insert newId _)

theorem reclaimTemporaryDisplay_renames (h : ρ.Renames s s')
    (request : ReclaimTemporaryDisplayRequest) (now : TimePoint) :
    ρ.Renames (s.reclaimTemporaryDisplay request now).1
      (s'.reclaimTemporaryDisplay (ρ.reclaimRequest request) now).1 := by
  rw [reclaimTemporaryDisplay.eq_def, reclaimTemporaryDisplay.eq_def, validate_reclaimRequest]
  cases hvalid : validateReclaimTemporaryDisplay request
  case none =>
    have hrotate := rotateLease_renames h
    obtain ⟨leases, hleases, rfl⟩ := h
    have hrefused : ρ.Renames s (ρ.store s leases) := ⟨leases, hleases, rfl⟩
    dsimp only [reclaimRequest]
    rw [getElem?_store]
    cases s.displaysById[request.displayId]? with
    | none => exact hrefused
    | some display =>
      dsimp only [Option.map_some, record]
      have hlookup : (ρ.store s leases).leasesById[ρ.leaseId display.leaseId]? =
          s.leasesById[display.leaseId]?.map ρ.lease := hleases display.leaseId
      rw [hlookup]
      cases s.leasesById[display.leaseId]? with
      | none => split_ifs <;> exact hrefused
      | some lease =>
        have hcontains : (ρ.store s leases).leasesById.contains (ρ.leaseId request.newLeaseId) =
            s.leasesById.contains request.newLeaseId := hleases.contains request.newLeaseId
        dsimp only [Option.map_some]
        simp only [leaseHasPendingDeparture_store, lease_isOwnedBy, leaseId_inj, hcontains]
        split_ifs
        · exact hrefused
        · exact hrefused
        · exact hrefused
        · exact hrotate ..
  all_goals exact h

theorem applyDisplayManifest_follows (h : ρ.Renames s s') (manifest : DisplayManifest) :
    ρ.Follows id (s.applyDisplayManifest manifest) (s'.applyDisplayManifest manifest) := by
  obtain ⟨leases, hleases, rfl⟩ := h
  have hlimit : (ρ.store s leases).maxPermanentDisplays = s.maxPermanentDisplays := rfl
  rw [applyDisplayManifest.eq_def, applyDisplayManifest.eq_def, hlimit]
  cases validateDisplayManifest manifest s.maxPermanentDisplays
  case none =>
    cases canonicalDisplayManifest manifest with
    | none => exact ⟨⟨leases, hleases, rfl⟩, rfl⟩
    | some canonical => exact ⟨⟨leases, hleases, rfl⟩, rfl⟩
  all_goals exact ⟨⟨leases, hleases, rfl⟩, rfl⟩

end Renaming

end VirtualDisplay
