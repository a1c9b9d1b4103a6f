import VirtualDisplay.LeaseStore.Connectors

/-!
# Where a create puts its display

`connectorIndexForDisplay` has three sources for a connector: the reservation of the display, a
usable connector nobody else has reserved, and a usable connector that has to be taken from
whoever has reserved it.  `Placed` names the three together with the reservations each leaves
behind, and `CreateOutcome` lists what a create can do to the store: nothing, take a reservation
away and then fail on the identity, or write its record where it was placed.

Everything the later modules say about reservations, quarantine and identities rests on
`createTemporaryDisplayImpl_outcome`, and over a run on `StoreOp.connectorStep`, which lists what an
operation of any kind can do to records, reservations and quarantine.

## What is here

* `Placed` — one case for each of the three sources, and `connectorIndexForDisplay_placed` that
  there is no other: a display is placed, or no temporary connector is usable.
* `createTemporaryDisplayImpl_outcome` — the outcome of a create, case by case.
* `RecordsEvolve` — records go, or change in what does not matter for connectors.
* `CreatesOn`, `Releases`, `Abandons` — the other three ways, each with what happens to the
  reservations; `ConnectorStep` is one of the four.
* `StoreOp.connectorStep` — every operation is such a step, so an invariant about connectors has
  four cases and not ten.
-/

set_option autoImplicit false

namespace VirtualDisplay

open Std

/-- The create asks for an identity that outlives the display. -/
def CreateTemporaryDisplayRequest.retainsIdentity (request : CreateTemporaryDisplayRequest) :
    Bool :=
  request.flags &&& kCreateTemporaryDisplayFlagEphemeralIdentity = 0

namespace DisplayStore

variable {s : DisplayStore} {displayId : UInt64} {retainIdentity : Bool}

/-! ## Usable and reserved connectors -/

theorem connectorIsUsable_iff {connectorIndex : UInt32} :
    s.connectorIsUsable connectorIndex = true ↔
      s.connectorIndexIsActive connectorIndex = false ∧
        s.quarantinedConnectors.contains connectorIndex = false := by
  simp [connectorIsUsable]

/-- A usable temporary connector a display may have without taking it from another one. -/
structure OffersConnector (s : DisplayStore) (displayId : UInt64) (retainIdentity : Bool)
    (connectorIndex : UInt32) : Prop where
  inRange : s.isTemporaryConnectorIndex connectorIndex = true
  usable : s.connectorIsUsable connectorIndex = true
  unreserved : ∀ d : UInt64, s.connectorReservationsByDisplayId[d]? = some connectorIndex →
    retainIdentity = true ∧ d = displayId

/-- The test of the second loop. -/
theorem isUnreserved_iff {connectorIndex : UInt32} :
    (if retainIdentity then !s.connectorIndexIsReservedForOtherDisplay connectorIndex displayId
      else !s.connectorIndexIsReserved connectorIndex) = true ↔
      ∀ d : UInt64, s.connectorReservationsByDisplayId[d]? = some connectorIndex →
        retainIdentity = true ∧ d = displayId := by
  cases retainIdentity with
  | true =>
    simp only [if_true, connectorIndexIsReservedForOtherDisplay, Bool.not_eq_true',
      OrdMap.anyEntry_eq_false]
    grind
  | false =>
    simp only [Bool.false_eq_true, if_false, connectorIndexIsReserved, Bool.not_eq_true',
      OrdMap.anyEntry_eq_false]
    grind

theorem unreservedConnectorIndex_eq_some {connectorIndex : UInt32}
    (h : s.unreservedConnectorIndex displayId retainIdentity = some connectorIndex) :
    s.OffersConnector displayId retainIdentity connectorIndex := by
  obtain ⟨hlow, hhigh, htest, -⟩ := Scan.firstBelow_eq_some h
  obtain ⟨husable, hunreserved⟩ := Bool.and_eq_true_iff.mp htest
  exact ⟨isTemporaryConnectorIndex_iff.mpr ⟨hlow, hhigh⟩, husable, isUnreserved_iff.mp hunreserved⟩

theorem unreservedConnectorIndex_eq_none :
    s.unreservedConnectorIndex displayId retainIdentity = none ↔
      ∀ connectorIndex, ¬s.OffersConnector displayId retainIdentity connectorIndex := by
  rw [unreservedConnectorIndex, Scan.firstBelow_eq_none]
  constructor
  · intro h connectorIndex hoffers
    obtain ⟨hlow, hhigh⟩ := isTemporaryConnectorIndex_iff.mp hoffers.inRange
    have htest := h connectorIndex hlow hhigh
    rw [hoffers.usable, isUnreserved_iff.mpr hoffers.unreserved] at htest
    cases htest
  · intro h connectorIndex hlow hhigh
    refine Bool.eq_false_iff.mpr fun htest ↦ ?_
    obtain ⟨husable, hunreserved⟩ := Bool.and_eq_true_iff.mp htest
    exact h connectorIndex ⟨isTemporaryConnectorIndex_iff.mpr ⟨hlow, hhigh⟩, husable,
      isUnreserved_iff.mp hunreserved⟩

theorem reservedConnectorIndex_eq_some {connectorIndex : UInt32} :
    s.reservedConnectorIndex displayId retainIdentity = some connectorIndex ↔
      retainIdentity = true ∧
        s.connectorReservationsByDisplayId[displayId]? = some connectorIndex ∧
        s.isTemporaryConnectorIndex connectorIndex = true ∧
        s.connectorIndexIsActive connectorIndex = false := by
  rw [reservedConnectorIndex]
  split_ifs with hretain
  · simp [hretain, Option.filter_eq_some_iff]
  · simp [hretain]

theorem getElem?_removeConnectorReservation {connectorIndex c : UInt32} {d : UInt64} :
    (s.removeConnectorReservation connectorIndex
        displayId).connectorReservationsByDisplayId[d]? = some c ↔
      s.connectorReservationsByDisplayId[d]? = some c ∧ (d = displayId ∨ c ≠ connectorIndex) := by
  rw [removeConnectorReservation, OrdMap.getElem?_eraseIf_eq_some]
  simp [imp_iff_not_or]

/-! ## The three sources -/

/-- The display is put on the connector, and these are the reservations the choice leaves. -/
inductive Placed (s : DisplayStore) (displayId : UInt64) (retainIdentity : Bool) :
    OrdMap UInt64 UInt32 → UInt32 → Prop where
  | reserved {connectorIndex : UInt32}
      (choice : s.reservedConnectorIndex displayId retainIdentity = some connectorIndex) :
    Placed s displayId retainIdentity s.connectorReservationsByDisplayId connectorIndex
  | unreserved {connectorIndex : UInt32}
      (refused : s.reservedConnectorIndex displayId retainIdentity = none)
      (offers : s.OffersConnector displayId retainIdentity connectorIndex) :
    Placed s displayId retainIdentity s.connectorReservationsByDisplayId connectorIndex
  | stolen {connectorIndex : UInt32}
      (refused : s.reservedConnectorIndex displayId retainIdentity = none)
      (crowded : ∀ c, ¬s.OffersConnector displayId retainIdentity c)
      (inRange : s.isTemporaryConnectorIndex connectorIndex = true)
      (usable : s.connectorIsUsable connectorIndex = true) :
    Placed s displayId retainIdentity
      (s.removeConnectorReservation connectorIndex displayId).connectorReservationsByDisplayId
      connectorIndex

namespace Placed

variable {reservations : OrdMap UInt64 UInt32} {connectorIndex : UInt32}

theorem inRange (h : s.Placed displayId retainIdentity reservations connectorIndex) :
    s.isTemporaryConnectorIndex connectorIndex = true := by
  cases h with
  | reserved hchoice => exact (reservedConnectorIndex_eq_some.mp hchoice).2.2.1
  | unreserved _ hoffers => exact hoffers.inRange
  | stolen _ _ hrange _ => exact hrange

theorem inactive (h : s.Placed displayId retainIdentity reservations connectorIndex) :
    s.connectorIndexIsActive connectorIndex = false := by
  cases h with
  | reserved hchoice => exact (reservedConnectorIndex_eq_some.mp hchoice).2.2.2
  | unreserved _ hoffers => exact connectorIsUsable_inactive hoffers.usable
  | stolen _ _ _ husable => exact connectorIsUsable_inactive husable

/-- The choice itself gives nobody a reservation. -/
theorem reservations_subset (h : s.Placed displayId retainIdentity reservations connectorIndex)
    {d : UInt64} {c : UInt32} (hd : reservations[d]? = some c) :
    s.connectorReservationsByDisplayId[d]? = some c := by
  cases h with
  | reserved | unreserved => exact hd
  | stolen => exact (getElem?_removeConnectorReservation.mp hd).1

/-- Afterwards at most the display itself has the connector reserved, unless it came to it by its
own reservation. -/
theorem reservations_eq (h : s.Placed displayId retainIdentity reservations connectorIndex)
    {d : UInt64} (hd : reservations[d]? = some connectorIndex) :
    d = displayId ∨
      s.reservedConnectorIndex displayId retainIdentity = some connectorIndex := by
  cases h with
  | reserved hchoice => exact .inr hchoice
  | unreserved _ hoffers => exact .inl (hoffers.unreserved d hd).2
  | stolen => exact .inl ((getElem?_removeConnectorReservation.mp hd).2.resolve_right (by simp))

end Placed

/-- Either the display is placed, or no temporary connector is usable and nothing has changed. -/
theorem connectorIndexForDisplay_placed (s : DisplayStore) (displayId : UInt64)
    (retainIdentity : Bool) :
    (∃ reservations connectorIndex, s.Placed displayId retainIdentity reservations connectorIndex ∧
      s.connectorIndexForDisplay displayId retainIdentity =
        ({ s with connectorReservationsByDisplayId := reservations }, connectorIndex)) ∨
    ((∀ c, s.isTemporaryConnectorIndex c = true → s.connectorIsUsable c = false) ∧
      s.connectorIndexForDisplay displayId retainIdentity = (s, s.temporaryConnectorLimit)) := by
  rw [connectorIndexForDisplay]
  cases hreserved : s.reservedConnectorIndex displayId retainIdentity with
  | some reserved => exact .inl ⟨_, _, .reserved hreserved, rfl⟩
  | none =>
    cases hfree : s.unreservedConnectorIndex displayId retainIdentity with
    | some connectorIndex =>
      exact .inl ⟨_, _, .unreserved hreserved (unreservedConnectorIndex_eq_some hfree), rfl⟩
    | none =>
      have hcrowded := unreservedConnectorIndex_eq_none.mp hfree
      cases hsteal : Scan.firstBelow s.connectorIsUsable s.maxPermanentDisplays
          s.temporaryConnectorLimit with
      | some connectorIndex =>
        obtain ⟨hlow, hhigh, husable, -⟩ := Scan.firstBelow_eq_some hsteal
        exact .inl ⟨_, _, .stolen hreserved hcrowded
          (isTemporaryConnectorIndex_iff.mpr ⟨hlow, hhigh⟩) husable, rfl⟩
      | none =>
        refine .inr ⟨fun c hrange ↦ ?_, rfl⟩
        obtain ⟨hlow, hhigh⟩ := isTemporaryConnectorIndex_iff.mp hrange
        exact Scan.firstBelow_eq_none.mp hsteal c hlow hhigh

/-! ## The outcomes of a create -/

/-- What a create may do: refuse and leave the store alone, take a reservation away and then find
the identity in use, or write its record where it was placed. -/
inductive CreateOutcome (s : DisplayStore) (request : CreateTemporaryDisplayRequest)
    (ownerCapability : Option OwnerCapability) (now : TimePoint) :
    DisplayStore × CreateStoreResult → Prop where
  | refused {result : CreateStoreResult} (failed : result.status.error ≠ .none) :
    CreateOutcome s request ownerCapability now (s, result)
  | duplicate {reservations : OrdMap UInt64 UInt32} {connectorIndex : UInt32}
      (placed : s.Placed request.displayId request.retainsIdentity reservations connectorIndex)
      (retained : request.retainsIdentity = true)
      (active : s.edidIdentityIsActive request.displayId = true) :
    CreateOutcome s request ownerCapability now
      ({ s with connectorReservationsByDisplayId := reservations },
        createFailure .duplicateDisplayIdentity)
  | committed {reservations : OrdMap UInt64 UInt32} {connectorIndex : UInt32}
      (accepted : s.CreateAccepted request ownerCapability now)
      (room : s.displaysById.size < s.maxTemporaryDisplays.toNat)
      (placed : s.Placed request.displayId request.retainsIdentity reservations connectorIndex)
      (unused : request.retainsIdentity = true → s.edidIdentityIsActive request.displayId = false) :
    CreateOutcome s request ownerCapability now
      (DisplayStore.commitTemporaryDisplay
        { s with connectorReservationsByDisplayId := reservations }
        (validatedCreateTemporaryDisplay request) ownerCapability now connectorIndex
        request.retainsIdentity)

/-- A create that has found its display absent, room, and its lease willing. -/
theorem placeTemporaryDisplay_outcome {request : CreateTemporaryDisplayRequest}
    {ownerCapability : Option OwnerCapability} {now : TimePoint}
    (haccepted : s.CreateAccepted request ownerCapability now)
    (hroom : s.displaysById.size < s.maxTemporaryDisplays.toNat) :
    s.CreateOutcome request ownerCapability now
      (s.placeTemporaryDisplay (validatedCreateTemporaryDisplay request) ownerCapability now) := by
  have hid : (validatedCreateTemporaryDisplay request).request.displayId = request.displayId := rfl
  have hflags : (validatedCreateTemporaryDisplay request).request.flags = request.flags := rfl
  rw [placeTemporaryDisplay, hid, hflags]
  obtain ⟨reservations, connectorIndex, hplaced, hchoice⟩ | ⟨-, hchoice⟩ :=
    s.connectorIndexForDisplay_placed request.displayId request.retainsIdentity
  · rw [CreateTemporaryDisplayRequest.retainsIdentity] at hchoice
    have hrange : DisplayStore.isTemporaryConnectorIndex
        { s with connectorReservationsByDisplayId := reservations } connectorIndex = true :=
      hplaced.inRange
    have hidentity : DisplayStore.edidIdentityIsActive
        { s with connectorReservationsByDisplayId := reservations } request.displayId =
          s.edidIdentityIsActive request.displayId := rfl
    dsimp only
    rw [hchoice]
    dsimp only
    rw [hrange, hidentity, Bool.not_true, if_neg Bool.false_ne_true]
    split_ifs with hactive
    · obtain ⟨hretained, hactive⟩ := Bool.and_eq_true_iff.mp hactive
      exact .duplicate hplaced hretained hactive
    · refine .committed haccepted hroom hplaced fun hretained ↦ ?_
      rw [CreateTemporaryDisplayRequest.retainsIdentity] at hretained
      rw [hretained, Bool.true_and, Bool.not_eq_true] at hactive
      exact hactive
  · rw [CreateTemporaryDisplayRequest.retainsIdentity] at hchoice
    dsimp only
    rw [hchoice]
    dsimp only
    rw [not_isTemporaryConnectorIndex_limit, Bool.not_false, if_pos rfl]
    exact .refused (by decide)

theorem createTemporaryDisplayImpl_outcome (s : DisplayStore)
    (request : CreateTemporaryDisplayRequest) (ownerCapability : Option OwnerCapability)
    (now : TimePoint) :
    s.CreateOutcome request ownerCapability now
      (s.createTemporaryDisplayImpl request ownerCapability now) := by
  rw [createTemporaryDisplayImpl]
  split
  case h_2 => exact .refused (by simp [validationFailure])
  case h_1 hvalid =>
    dsimp only
    split_ifs with hpresent hlimit hrefused howned
    · exact .refused (by simp [createFailure])
    · exact .refused (by simp [createFailure])
    · exact .refused (by simp [createFailure])
    · exact .refused (by simp [createFailure])
    · have habsent : s.displaysById[request.displayId]? = none :=
        ExtTreeMap.getElem?_eq_none_of_contains_eq_false (Bool.not_eq_true _ ▸ hpresent)
      exact placeTemporaryDisplay_outcome
        ⟨hvalid, habsent, Bool.not_eq_true _ ▸ hrefused, Bool.not_eq_true _ ▸ howned⟩
        (Nat.not_le.mp hlimit)

end DisplayStore

/-! ## The outcomes of an operation -/

namespace StoreOp

/-- The request of a create. -/
def createRequest? : StoreOp → Option CreateTemporaryDisplayRequest
  | createTemporaryDisplay request _ => some request
  | createTemporaryDisplayOwned request _ => some request.display
  | _ => none

/-- The answer of a create. -/
def createResult? (s : DisplayStore) : StoreOp → Option CreateStoreResult
  | createTemporaryDisplay request now => some (s.createTemporaryDisplay request now).2
  | createTemporaryDisplayOwned request now => some (s.createTemporaryDisplayOwned request now).2
  | _ => none

/-- The operation creates the display, and this is the connector it reports. -/
def CreatesOn (s : DisplayStore) (op : StoreOp) (displayId : UInt64) (retainIdentity : Bool)
    (connectorIndex : UInt32) : Prop :=
  ∃ request result, op.createRequest? = some request ∧ op.createResult? s = some result ∧
    result.status.error = .none ∧ request.displayId = displayId ∧
    request.retainsIdentity = retainIdentity ∧ result.result.connectorIndex = connectorIndex

/-- The display whose record the operation removes together with its reservation. -/
def Releases (s : DisplayStore) (op : StoreOp) (displayId : UInt64) : Prop :=
  ∃ request, op = removeTemporaryDisplay request .releaseConnectorReservation ∧
    request.displayId = displayId ∧
    (s.removeTemporaryDisplay request .releaseConnectorReservation).2.error = .none

/-- The display whose pending record the operation gives up. -/
def Abandons (s : DisplayStore) (op : StoreOp) (displayId : UInt64) : Prop :=
  ∃ request expectedGeneration ownerCapability,
    op = abandonPendingTemporaryDisplay request expectedGeneration ownerCapability ∧
    request.displayId = displayId ∧
    (s.abandonPendingTemporaryDisplay request expectedGeneration ownerCapability).2.error = .none

end StoreOp

namespace DisplayStore

/-- Every record of `s'` was in `s` already, on the same connector and with the same identity. -/
def RecordsEvolve (s s' : DisplayStore) : Prop :=
  ∀ (d : UInt64) (r' : TemporaryDisplayRecord), s'.displaysById[d]? = some r' →
    ∃ r, s.displaysById[d]? = some r ∧ r.Evolves r'

/-- What an operation does to the records, the reservations and the quarantine. -/
inductive ConnectorStep (s : DisplayStore) (op : StoreOp) : DisplayStore → Prop where
  | create {request : CreateTemporaryDisplayRequest} {ownerCapability : Option OwnerCapability}
      {now : TimePoint} {s' : DisplayStore} {result : CreateStoreResult}
      (call : op.createRequest? = some request) (answer : op.createResult? s = some result)
      (outcome : s.CreateOutcome request ownerCapability now (s', result)) :
    ConnectorStep s op s'
  | keep {s' : DisplayStore} (other : op.createRequest? = none) (records : s.RecordsEvolve s')
      (reservations : s'.connectorReservationsByDisplayId = s.connectorReservationsByDisplayId)
      (quarantine : s'.quarantinedConnectors = s.quarantinedConnectors) :
    ConnectorStep s op s'
  | release {s' : DisplayStore} {displayId : UInt64} (call : op.Releases s displayId)
      (records : s.RecordsEvolve s')
      (reservations : s'.connectorReservationsByDisplayId =
        s.connectorReservationsByDisplayId.erase displayId)
      (quarantine : s'.quarantinedConnectors = s.quarantinedConnectors) :
    ConnectorStep s op s'
  | abandon {s' : DisplayStore} {displayId : UInt64} {display : TemporaryDisplayRecord}
      (call : op.Abandons s displayId) (present : s.displaysById[displayId]? = some display)
      (absent : s'.displaysById[displayId]? = none) (records : s.RecordsEvolve s')
      (reservations : s'.connectorReservationsByDisplayId =
        s.connectorReservationsByDisplayId.erase displayId)
      (quarantine : s'.quarantinedConnectors =
        s.quarantinedConnectors.insert display.connectorIndex ()) :
    ConnectorStep s op s'

theorem Keeps.recordsEvolve {s s' : DisplayStore} (h : Keeps s s') : s.RecordsEvolve s' :=
  fun _ _ hr' ↦ (h.record hr').imp fun _ hr ↦ ⟨hr.1, hr.2.1⟩

@[simp] theorem eraseDisplay_reservations (s : DisplayStore) (displayId leaseId : UInt64) :
    (s.eraseDisplay displayId leaseId).connectorReservationsByDisplayId =
      s.connectorReservationsByDisplayId := by
  rw [eraseDisplay, removeLeaseIfEmpty]
  split_ifs <;> rfl

@[simp] theorem eraseDisplay_quarantinedConnectors (s : DisplayStore)
    (displayId leaseId : UInt64) :
    (s.eraseDisplay displayId leaseId).quarantinedConnectors = s.quarantinedConnectors := by
  rw [eraseDisplay, removeLeaseIfEmpty]
  split_ifs <;> rfl

/-- Reaping erases records only. -/
theorem reapExpired_connectors (s : DisplayStore) (now : TimePoint) :
    (s.reapExpired now).1.connectorReservationsByDisplayId = s.connectorReservationsByDisplayId ∧
      (s.reapExpired now).1.quarantinedConnectors = s.quarantinedConnectors := by
  rw [reapExpired]
  refine List.foldlRecOn (motive := fun s' : DisplayStore ↦
    s'.connectorReservationsByDisplayId = s.connectorReservationsByDisplayId ∧
      s'.quarantinedConnectors = s.quarantinedConnectors)
    s.displaysById.toList (reapDisplay now) ⟨rfl, rfl⟩ fun s' hs' entry _ ↦ ?_
  rw [reapDisplay]
  split_ifs
  · rw [eraseDisplay_reservations, eraseDisplay_quarantinedConnectors]
    exact hs'
  · exact hs'

/-- A removal that succeeds drops the reservation if it was asked to, and one that fails does
nothing. -/
theorem removeTemporaryDisplay_connectors (s : DisplayStore) (request : LeaseDisplayRequest)
    (mode : RemoveTemporaryDisplayMode) :
    ((s.removeTemporaryDisplay request mode).2.error = .none ∧
      (s.removeTemporaryDisplay request mode).1.connectorReservationsByDisplayId =
        (match mode with
          | .releaseConnectorReservation =>
            s.connectorReservationsByDisplayId.erase request.displayId
          | .retainConnectorReservation => s.connectorReservationsByDisplayId) ∧
      (s.removeTemporaryDisplay request mode).1.quarantinedConnectors =
        s.quarantinedConnectors) ∨
    (s.removeTemporaryDisplay request mode).1 = s := by
  rw [removeTemporaryDisplay.eq_def]
  split
  case h_2 => exact .inr rfl
  case h_1 =>
    split_ifs
    · refine .inl ⟨rfl, ?_, ?_⟩
      · cases mode <;> exact eraseDisplay_reservations ..
      · cases mode <;> exact eraseDisplay_quarantinedConnectors ..
    · exact .inr rfl

theorem removeTemporaryDisplay_connectorStep (s : DisplayStore) (request : LeaseDisplayRequest)
    (mode : RemoveTemporaryDisplayMode) :
    s.ConnectorStep (.removeTemporaryDisplay request mode)
      (s.removeTemporaryDisplay request mode).1 := by
  have hrecords := (s.removeTemporaryDisplay_keeps request mode).recordsEvolve
  obtain ⟨herror, hreservations, hquarantine⟩ | h :=
    s.removeTemporaryDisplay_connectors request mode
  · cases mode with
    | retainConnectorReservation => exact .keep rfl hrecords hreservations hquarantine
    | releaseConnectorReservation =>
      exact .release ⟨request, rfl, rfl, herror⟩ hrecords hreservations hquarantine
  · exact .keep rfl hrecords (by rw [h]) (by rw [h])

theorem abandonPendingTemporaryDisplay_connectorStep (s : DisplayStore)
    (request : LeaseDisplayRequest) (expectedGeneration : UInt64)
    (ownerCapability : OwnerCapability) :
    s.ConnectorStep (.abandonPendingTemporaryDisplay request expectedGeneration ownerCapability)
      (s.abandonPendingTemporaryDisplay request expectedGeneration ownerCapability).1 := by
  have hrecords := (s.abandonPendingTemporaryDisplay_keeps request expectedGeneration
    ownerCapability).recordsEvolve
  obtain ⟨display, lease, hdisplay, -, -, -, -, -, h⟩ | ⟨h, -⟩ :=
    s.abandonPendingTemporaryDisplay_cases request expectedGeneration ownerCapability
  · refine .abandon ⟨request, expectedGeneration, ownerCapability, rfl, rfl, by rw [h]⟩ hdisplay ?_
      hrecords ?_ ?_
    · rw [h, eraseDisplay_displaysById, OrdMap.getElem?_erase, if_pos rfl]
    · rw [h, eraseDisplay_reservations]
    · rw [h, eraseDisplay_quarantinedConnectors]
  · exact .keep rfl hrecords (by rw [h]) (by rw [h])

/-- A count request applies the manifest it stands for, if it is valid. -/
theorem setPermanentDisplayCount_cases (s : DisplayStore)
    (request : PermanentDisplayCountRequest) :
    (∃ manifest, s.setPermanentDisplayCount request = s.applyDisplayManifest manifest) ∨
      (s.setPermanentDisplayCount request).1 = s := by
  rw [setPermanentDisplayCount]
  split
  · exact .inl ⟨_, rfl⟩
  · exact .inr rfl

/-- Applying a manifest does not touch the connectors of temporary displays. -/
theorem applyDisplayManifest_connectors (s : DisplayStore) (manifest : DisplayManifest) :
    (s.applyDisplayManifest manifest).1.connectorReservationsByDisplayId =
        s.connectorReservationsByDisplayId ∧
      (s.applyDisplayManifest manifest).1.quarantinedConnectors = s.quarantinedConnectors := by
  obtain ⟨canonical, -, -, h⟩ | ⟨h, -⟩ := s.applyDisplayManifest_cases manifest <;> rw [h] <;>
    exact ⟨rfl, rfl⟩

end DisplayStore

open DisplayStore in
/-- Every operation is one of these steps. -/
theorem StoreOp.connectorStep (s : DisplayStore) (op : StoreOp) :
    s.ConnectorStep op (op.apply s) := by
  cases op with
  | createTemporaryDisplay request now =>
    exact .create rfl rfl (s.createTemporaryDisplayImpl_outcome request none now)
  | createTemporaryDisplayOwned request now =>
    have houtcome : s.CreateOutcome request.display (some request.ownerCapability) now
        (s.createTemporaryDisplayOwned request now) := by
      obtain ⟨-, h⟩ | ⟨h, herror⟩ := s.createTemporaryDisplayOwned_cases request now
      · rw [h]
        exact s.createTemporaryDisplayImpl_outcome _ _ now
      · rw [← Prod.eta (s.createTemporaryDisplayOwned request now), h]
        exact .refused herror
    exact .create rfl rfl houtcome
  | reclaimTemporaryDisplay request now =>
    obtain ⟨display, lease, -, -, -, -, -, -, -, -, h⟩ | ⟨h, -⟩ :=
      s.reclaimTemporaryDisplay_cases request now
    · rw [apply, h]
      refine .keep rfl (fun d r' hr' ↦ ?_) rfl rfl
      rw [getElem?_rotateLease, Option.map_eq_some_iff] at hr'
      obtain ⟨r, hr, rfl⟩ := hr'
      exact ⟨r, hr, .rotateRecord ..⟩
    · rw [apply, h]
      exact .keep rfl (fun d r hr ↦ ⟨r, hr, .refl r⟩) rfl rfl
  | removeTemporaryDisplay request mode => exact s.removeTemporaryDisplay_connectorStep request mode
  | markTemporaryDisplayPendingDeparture request =>
    have hrecords : s.RecordsEvolve (apply s (.markTemporaryDisplayPendingDeparture request)) :=
      (StoreOp.keeps s rfl).recordsEvolve
    obtain ⟨display, -, -, h⟩ | ⟨h, -⟩ := s.markTemporaryDisplayPendingDeparture_cases request
    · exact .keep rfl hrecords (by rw [apply, h]) (by rw [apply, h])
    · exact .keep rfl hrecords (by rw [apply, h]) (by rw [apply, h])
  | abandonPendingTemporaryDisplay request expectedGeneration ownerCapability =>
    exact s.abandonPendingTemporaryDisplay_connectorStep request expectedGeneration ownerCapability
  | feedLease request now =>
    have hrecords : s.RecordsEvolve (apply s (.feedLease request now)) :=
      (StoreOp.keeps s rfl).recordsEvolve
    obtain ⟨lease, -, -, -, h⟩ | ⟨h, -⟩ := s.feedLease_cases request now
    · exact .keep rfl hrecords (by rw [apply, h]) (by rw [apply, h])
    · exact .keep rfl hrecords (by rw [apply, h]) (by rw [apply, h])
  | releaseLease request =>
    have hrecords : s.RecordsEvolve (apply s (.releaseLease request)) :=
      (StoreOp.keeps s rfl).recordsEvolve
    obtain ⟨-, h⟩ | ⟨h, -⟩ := s.releaseLease_cases request
    · exact .keep rfl hrecords (by rw [apply, h]) (by rw [apply, h])
    · exact .keep rfl hrecords (by rw [apply, h]) (by rw [apply, h])
  | reapExpired now =>
    obtain ⟨hreservations, hquarantine⟩ := s.reapExpired_connectors now
    exact .keep rfl (s.reapExpired_keeps now).recordsEvolve hreservations hquarantine
  | setPermanentDisplayCount request =>
    have hrecords := (s.setPermanentDisplayCount_keeps request).recordsEvolve
    obtain ⟨manifest, h⟩ | h := s.setPermanentDisplayCount_cases request
    · obtain ⟨hreservations, hquarantine⟩ := s.applyDisplayManifest_connectors manifest
      exact .keep rfl hrecords (by rw [apply, h, hreservations]) (by rw [apply, h, hquarantine])
    · exact .keep rfl hrecords (by rw [apply, h]) (by rw [apply, h])
  | applyDisplayManifest manifest =>
    obtain ⟨hreservations, hquarantine⟩ := s.applyDisplayManifest_connectors manifest
    exact .keep rfl (s.applyDisplayManifest_keeps manifest).recordsEvolve hreservations hquarantine

end VirtualDisplay
