import VirtualDisplay.Controller.Frames
import VirtualDisplay.LeaseStore.Reservations

/-!
# A create that the backend refuses

A create commits its record, lease and reservation to the store before the backend is asked, and
when the backend fails takes the record back out.  That is a removal like any other: it knows
nothing of a reservation the display had before, of one taken from another display, or of a
capability written to a lease that was there.  `createRollback_iff` says exactly when nothing of a
refused create is left.

## What is here

* `drive_arrive`, `drive_created` — a create that runs alone and is told of an error by the backend
  has been rolled back; its frames are followed to the end.
* `committed`, `rollback` — what the store is after the first part of a create and after the
  removal, as functions of the store before it.
* `rollback_reservations_iff`, `rollback_leases_iff` — the two maps of the store that a removal
  cannot always restore, each with the condition under which it does.
* `LeavesNoTrace` — the conditions on the reservation, the connectors and the lease, which look at
  the store and the request only.

The counter of the generations goes on in any case and is not part of the comparison: a generation
that has been given out once is not given out again.
-/

set_option autoImplicit false

namespace VirtualDisplay

open Std SlotCalls

/-! ## The call -/

namespace Controller

open DisplayStore

variable {s s' : DisplayStore} {created result : CreateTemporaryDisplayResult}
  {record : TemporaryDisplayRecord} {status : ControllerStatus}

/-- The call gives a reserved identity back. -/
def isUnreserve : BackendCall → Bool
  | .unreserveTemporaryDisplayIdentity _ => true
  | _ => false

/-- The backend calls that gave an identity back have succeeded. -/
def Unreserves (exchanged : List (Frame × BackendDisplayResult)) : Prop :=
  ∀ e ∈ exchanged, isUnreserve e.1.backendCall = true → e.2.error = .none

instance (exchanged : List (Frame × BackendDisplayResult)) : Decidable (Unreserves exchanged) :=
  inferInstanceAs (Decidable (∀ _ ∈ exchanged, _))

/-- The rollback of a record. -/
def rollback (s : DisplayStore) (record : TemporaryDisplayRecord) : DisplayStore :=
  s.removeIfCurrent record .releaseConnectorReservation

/-- A create that waits for its monitor and ends with a backend error has been rolled back. -/
theorem drive_arrive (hrecord : s.displaysById[record.displayId]? = some record)
    (hlive : record.pendingDeparture = false) {identityReserved : Bool}
    {replies : List BackendDisplayResult}
    (hdrive : drive controller (s, .yield (.createArrive created record identityReserved)) replies =
      (s', .done (.create status result)))
    (hunreserves : Unreserves
      (exchanges controller (s, .yield (.createArrive created record identityReserved)) replies))
    (herror : status.backendError ≠ .none) : s' = rollback s record := by
  cases replies with
  | nil => cases hdrive
  | cons reply replies =>
    have hresume : controller.resume s (.createArrive created record identityReserved) reply =
      arrived s created record identityReserved reply := rfl
    rw [drive, hresume] at hdrive
    rw [exchanges, hresume] at hunreserves
    rw [arrived] at hdrive hunreserves
    by_cases hreply : reply.error = .none
    · -- The monitor arrives, and the create succeeds.
      rw [if_neg (not_not.mpr hreply), findTemporaryDisplay, hrecord] at hdrive
      simp only [ne_eq, not_true_eq_false, or_self, if_false, hlive, Bool.false_eq_true,
        drive_done] at hdrive
      cases hdrive
      exact absurd rfl herror
    · rw [if_pos hreply] at hdrive hunreserves
      cases identityReserved with
      | false =>
        rw [if_neg Bool.false_ne_true, createFailed, drive_done] at hdrive
        cases hdrive
        rfl
      | true =>
        cases replies with
        | nil => cases hdrive
        | cons reply' replies =>
          have hresume' : controller.resume s (.createUnreserve record reply.error) reply' =
            unreserved s record reply.error reply'.error := rfl
          rw [if_pos rfl, drive, hresume', unreserved] at hdrive
          rw [if_pos rfl, exchanges] at hunreserves
          have hunreserved : reply'.error = .none := hunreserves _
            (List.mem_cons_of_mem _ List.mem_cons_self) rfl
          rw [hunreserved, if_neg (not_not.mpr rfl), createFailed, drive_done] at hdrive
          cases hdrive
          rfl

/-- A create whose record has been written and that ends with a backend error has been rolled
back. -/
theorem drive_created (hrecord : s.displaysById[record.displayId]? = some record)
    (hlive : record.pendingDeparture = false) {replies : List BackendDisplayResult}
    (hdrive : drive controller (s, .yield (createdFrame created record)) replies =
      (s', .done (.create status result)))
    (hunreserves : Unreserves
      (exchanges controller (s, .yield (createdFrame created record)) replies))
    (herror : status.backendError ≠ .none) : s' = rollback s record := by
  rw [createdFrame] at hdrive hunreserves
  by_cases hretain : record.retainIdentity = true
  · rw [if_pos hretain] at hdrive hunreserves
    cases replies with
    | nil => cases hdrive
    | cons reply replies =>
      have hresume : controller.resume s (.createReserve created record) reply =
        reserved s created record reply.error := rfl
      rw [drive, hresume] at hdrive
      rw [exchanges, hresume] at hunreserves
      rw [reserved] at hdrive hunreserves
      by_cases hreply : reply.error = .none
      · have hcurrent : s.temporaryDisplayGenerationIsCurrent record = true :=
          temporaryDisplayGenerationIsCurrent_iff.mpr ⟨record, hrecord, rfl, rfl⟩
        rw [if_neg (not_not.mpr hreply), if_pos hcurrent] at hdrive hunreserves
        exact drive_arrive hrecord hlive hdrive
          (fun e he ↦ hunreserves e (List.mem_cons_of_mem _ he)) herror
      · rw [if_pos hreply, createFailed, drive_done] at hdrive
        cases hdrive
        rfl
  · rw [if_neg hretain] at hdrive hunreserves
    exact drive_arrive hrecord hlive hdrive hunreserves herror

/-! ## What a rollback leaves of a create -/

/-- Both stores have the same records, leases, reservations and quarantine; the counters may have
moved. -/
structure RolledBack (s s' : DisplayStore) : Prop where
  records : s'.displaysById = s.displaysById
  leases : s'.leasesById = s.leasesById
  reservations : s'.connectorReservationsByDisplayId = s.connectorReservationsByDisplayId
  quarantine : s'.quarantinedConnectors = s.quarantinedConnectors

section Committed

variable {request : CreateTemporaryDisplayRequest} {ownerCapability : Option OwnerCapability}
  {now : TimePoint} {reservations : OrdMap UInt64 UInt32} {connectorIndex : UInt32}
  {retainIdentity : Bool}

/-- The store in which the display has been created on the connector, and its record. -/
def committed (s : DisplayStore) (request : CreateTemporaryDisplayRequest)
    (ownerCapability : Option OwnerCapability) (now : TimePoint)
    (reservations : OrdMap UInt64 UInt32) (connectorIndex : UInt32) (retainIdentity : Bool) :
    DisplayStore × TemporaryDisplayRecord :=
  let s : DisplayStore := { s with connectorReservationsByDisplayId := reservations }
  ((s.commitTemporaryDisplay (validatedCreateTemporaryDisplay request) ownerCapability now
      connectorIndex retainIdentity).1,
    s.createdRecord (validatedCreateTemporaryDisplay request) now connectorIndex retainIdentity)

/-- The record goes, and with it every reservation of its display and the lease unless that has
other displays. -/
theorem rollback_committed (haccepted : s.CreateAccepted request ownerCapability now) :
    let created := committed s request ownerCapability now reservations connectorIndex
      retainIdentity
    let s' := rollback created.1 created.2
    s'.displaysById = s.displaysById ∧
      s'.leasesById = (if s.leaseHasDisplays request.leaseId then
        s.leasesById.insert request.leaseId
          (s.createdLease (validatedCreateTemporaryDisplay request) ownerCapability now)
        else s.leasesById.erase request.leaseId) ∧
      s'.connectorReservationsByDisplayId =
        created.1.connectorReservationsByDisplayId.erase request.displayId ∧
      s'.quarantinedConnectors = s.quarantinedConnectors := by
  intro created s'
  have hinserted : created.1.displaysById[request.displayId]? = some created.2 := by
    rw [show created.1.displaysById = s.displaysById.insert request.displayId created.2 from rfl,
      OrdMap.getElem?_insert, if_pos rfl]
  have hcurrent : created.1.temporaryDisplayGenerationIsCurrent created.2 = true :=
    temporaryDisplayGenerationIsCurrent_iff.mpr ⟨created.2, hinserted, rfl, rfl⟩
  have hids := validateCreateTemporaryDisplay_ids haccepted.valid
  have hvalid : validateLeaseDisplayRequest (requestFor created.2) = .none :=
    validateLeaseDisplayRequest_eq_none.mpr ⟨rfl, hids.2.1, hids.2.2⟩
  have hany : (created.1.displaysById[(requestFor created.2).displayId]?).any
      (·.leaseId == (requestFor created.2).leaseId) = true := by
    rw [show (requestFor created.2).displayId = request.displayId from rfl, hinserted]
    exact beq_self_eq_true _
  have herased : created.1.displaysById.erase request.displayId = s.displaysById := by
    refine ExtTreeMap.ext_getElem? fun d ↦ ?_
    rw [show created.1.displaysById = s.displaysById.insert request.displayId created.2 from rfl,
      OrdMap.getElem?_erase, OrdMap.getElem?_insert]
    split_ifs with hd
    · rw [← hd, haccepted.absent]
    · rfl
  have hs' : s' = ({ created.1 with
      connectorReservationsByDisplayId :=
        created.1.connectorReservationsByDisplayId.erase request.displayId,
      displaysById := s.displaysById } : DisplayStore).removeLeaseIfEmpty request.leaseId := by
    rw [show s' = created.1.removeIfCurrent created.2 .releaseConnectorReservation from rfl,
      removeIfCurrent, if_pos hcurrent, DisplayStore.removeTemporaryDisplay.eq_def,
      hvalid]
    dsimp only
    rw [if_pos hany, ← herased]
    rfl
  have hhas : DisplayStore.leaseHasDisplays { created.1 with
      connectorReservationsByDisplayId :=
        created.1.connectorReservationsByDisplayId.erase request.displayId
      displaysById := s.displaysById } request.leaseId = s.leaseHasDisplays request.leaseId := rfl
  rw [hs', removeLeaseIfEmpty, hhas]
  split_ifs
  · exact ⟨rfl, rfl, rfl, rfl⟩
  · exact ⟨rfl, OrdMap.erase_insert .., rfl, rfl⟩

/-- Of the reservations all are left but that of the display and those of its connector. -/
theorem getElem?_rollback_reservations {d : UInt64} {c : UInt32} :
    ((committed s request ownerCapability now reservations connectorIndex
        retainIdentity).1.connectorReservationsByDisplayId.erase request.displayId)[d]? = some c ↔
      d ≠ request.displayId ∧ reservations[d]? = some c ∧
        (retainIdentity = true → c ≠ connectorIndex) := by
  rw [OrdMap.getElem?_erase]
  split_ifs with hd
  · simp [hd]
  · rw [committed, commitTemporaryDisplay_reservations, if_neg fun h ↦ hd h.2.symm]
    exact (and_iff_right fun h ↦ hd h.symm).symm

/-- The reservations are those from before iff the display had none and did not have to take a
connector from another. -/
theorem rollback_reservations_iff
    (hplaced : s.Placed request.displayId retainIdentity reservations connectorIndex) :
    (committed s request ownerCapability now reservations connectorIndex
        retainIdentity).1.connectorReservationsByDisplayId.erase request.displayId =
          s.connectorReservationsByDisplayId ↔
      s.connectorReservationsByDisplayId[request.displayId]? = none ∧
        ∃ c, s.OffersConnector request.displayId false c := by
  constructor
  · intro hsame
    have hlookup (d : UInt64) (c : UInt32) : s.connectorReservationsByDisplayId[d]? = some c ↔
        d ≠ request.displayId ∧ reservations[d]? = some c ∧
          (retainIdentity = true → c ≠ connectorIndex) := by
      rw [← hsame]
      exact getElem?_rollback_reservations
    have hnone : s.connectorReservationsByDisplayId[request.displayId]? = none :=
      Option.eq_none_iff_forall_ne_some.mpr fun c hc ↦ ((hlookup _ c).mp hc).1 rfl
    refine ⟨hnone, ?_⟩
    cases hplaced with
    | reserved hchoice =>
      rw [(reservedConnectorIndex_eq_some.mp hchoice).2.1] at hnone
      cases hnone
    | unreserved _ hoffers =>
      refine ⟨connectorIndex, hoffers.inRange, hoffers.usable, fun d hd ↦ ?_⟩
      rw [(hoffers.unreserved d hd).2, hnone] at hd
      cases hd
    | stolen _ _ hrange husable =>
      refine ⟨connectorIndex, hrange, husable, fun d hd ↦ ?_⟩
      obtain ⟨hne, hkept, -⟩ := (hlookup d connectorIndex).mp hd
      exact absurd rfl ((getElem?_removeConnectorReservation.mp hkept).2.resolve_left hne)
  · rintro ⟨hnone, c, hoffers⟩
    refine ExtTreeMap.ext_getElem? fun d ↦ Option.ext fun c' ↦ ?_
    rw [getElem?_rollback_reservations]
    cases hplaced with
    | reserved hchoice =>
      rw [(reservedConnectorIndex_eq_some.mp hchoice).2.1] at hnone
      cases hnone
    | unreserved _ hoffers' =>
      refine ⟨fun h ↦ h.2.1, fun h ↦ ⟨?_, h, fun _ hc ↦ ?_⟩⟩
      · rintro rfl
        rw [hnone] at h
        cases h
      · rw [hc] at h
        rw [(hoffers'.unreserved d h).2, hnone] at h
        cases h
    | stolen _ hcrowded =>
      exact absurd ⟨hoffers.inRange, hoffers.usable, fun d hd ↦
        absurd (hoffers.unreserved d hd).1 Bool.false_ne_true⟩ (hcrowded c)

/-- The leases are those from before iff the create found its lease in use and wrote nothing to it,
or found no trace of it. -/
theorem rollback_leases_iff :
    (if s.leaseHasDisplays request.leaseId then
        s.leasesById.insert request.leaseId
          (s.createdLease (validatedCreateTemporaryDisplay request) ownerCapability now)
      else s.leasesById.erase request.leaseId) = s.leasesById ↔
      if s.leaseHasDisplays request.leaseId then
        ∃ lease, s.leasesById[request.leaseId]? = some lease ∧
          (lease.ownerCapability.isSome = true ∨ ownerCapability = none)
      else s.leasesById[request.leaseId]? = none := by
  split_ifs
  · rw [OrdMap.insert_eq_self_iff, createdLease]
    dsimp only [validatedCreateTemporaryDisplay]
    cases s.leasesById[request.leaseId]? with
    | none => simp
    | some lease =>
      obtain ⟨timeoutMs, expiresAt, capability⟩ := lease
      cases capability with
      | none => simpa using eq_comm
      | some capability => simp
  · exact OrdMap.erase_eq_self_iff

end Committed

/-! ## The whole call -/

/-- What the store makes of a create of either kind. -/
theorem storeCreate_outcome (s : DisplayStore) (call : CreateCall) :
    s.CreateOutcome call.request call.ownerCapability call.now (storeCreate s call) := by
  rw [storeCreate]
  cases call.ownerCapability with
  | none => exact s.createTemporaryDisplayImpl_outcome ..
  | some ownerCapability =>
    dsimp only
    rw [createTemporaryDisplayOwned]
    split
    · exact s.createTemporaryDisplayImpl_outcome ..
    · exact .refused (by simp [validationFailure])

/-- A record that the store has written goes on to the backend. -/
theorem createRecord_stored {call : CreateCall} {s₁ : DisplayStore} {stored : CreateStoreResult}
    (hstored : storeCreate s call = (s₁, stored)) (hnone : stored.status.error = .none)
    (hfind : s₁.displaysById[call.request.displayId]? = some record) :
    createRecord s call = (s₁, .yield (createdFrame stored.result record)) := by
  rw [createRecord_eq, hstored]
  dsimp only
  rw [if_neg (not_not.mpr hnone), findTemporaryDisplay, hfind, createdFrame]
  dsimp only
  split_ifs <;> rfl

/-- A create fails in the store, or its record is written where it was placed and it goes on to the
backend. -/
theorem createRecord_committed (s : DisplayStore) (call : CreateCall) :
    (∃ s' status, createRecord s call = createFailed s' status ∧ status.backendError = .none) ∨
    ∃ reservations connectorIndex created,
      let written := committed s call.request call.ownerCapability call.now reservations
        connectorIndex call.request.retainsIdentity
      s.CreateAccepted call.request call.ownerCapability call.now ∧
        s.Placed call.request.displayId call.request.retainsIdentity reservations
          connectorIndex ∧
        createRecord s call = (written.1, .yield (createdFrame created written.2)) := by
  have houtcome := storeCreate_outcome s call
  generalize hstored : storeCreate s call = stored at houtcome
  cases houtcome with
  | refused hfailed =>
    rw [createRecord_eq, hstored, if_pos hfailed]
    exact .inl ⟨_, _, rfl, rfl⟩
  | duplicate =>
    rw [createRecord_eq, hstored, if_pos (by simp [createFailure])]
    exact .inl ⟨_, _, rfl, rfl⟩
  | committed haccepted _ hplaced =>
    exact .inr ⟨_, _, _, haccepted, hplaced,
      createRecord_stored hstored rfl ((OrdMap.getElem?_insert ..).trans (if_pos rfl))⟩

/-- A create of a display without a record does not stop for the backend before its record is
written. -/
theorem start_create {op : ControllerOp} {call : CreateCall} (hop : op.createCall? = some call)
    (habsent : s.displaysById[call.request.displayId]? = none) :
    start s op = createRecord s call ∨
      ∃ status, start s op = createFailed s status ∧ status.backendError = .none := by
  have himpl : createTemporaryDisplayImpl s call = createRecord s call ∨
      ∃ status, createTemporaryDisplayImpl s call = createFailed s status ∧
        status.backendError = .none := by
    rw [createTemporaryDisplayImpl]
    split
    · rw [findTemporaryDisplay, habsent]
      exact .inl rfl
    · exact .inr ⟨_, rfl, rfl⟩
  cases op with
  | createTemporaryDisplay request now =>
    cases hop
    exact himpl
  | createTemporaryDisplayOwned request now =>
    cases hop
    rw [start]
    split
    · exact himpl
    · exact .inr ⟨_, rfl, rfl⟩
  | _ => cases hop

/-- A create of the display that the backend refuses cannot be told from the store afterwards: the
display has no reservation, a connector is free that nobody has reserved, and the lease is either
not there or in use already, by the same owner or none. -/
structure LeavesNoTrace (s : DisplayStore) (call : CreateCall) : Prop where
  unreserved : s.connectorReservationsByDisplayId[call.request.displayId]? = none
  free : ∃ c, s.OffersConnector call.request.displayId false c
  lease :
    if s.leaseHasDisplays call.request.leaseId then
      ∃ lease, s.leasesById[call.request.leaseId]? = some lease ∧
        (lease.ownerCapability.isSome = true ∨ call.ownerCapability = none)
    else s.leasesById[call.request.leaseId]? = none

/-- **When a refused create leaves the store as it was.**  Of a create that runs alone, of a display
without a record, that the backend refuses, and that gives back what identity it reserved, nothing
is left in records, leases, reservations and quarantine iff `LeavesNoTrace`. -/
theorem createRollback_iff {op : ControllerOp} {call : CreateCall}
    {replies : List BackendDisplayResult} (hop : op.createCall? = some call)
    (habsent : s.displaysById[call.request.displayId]? = none)
    (hdrive : drive controller (controller.start s op) replies =
      (s', .done (.create status result)))
    (hunreserves : Unreserves (exchanges controller (controller.start s op) replies))
    (herror : status.backendError ≠ .none) :
    RolledBack s s' ↔ LeavesNoTrace s call := by
  have hstart : controller.start s op = start s op := rfl
  rw [hstart] at hdrive hunreserves
  have hfailed {s₁ : DisplayStore} {status₁ : ControllerStatus}
      (hdone : start s op = createFailed s₁ status₁) (hnone : status₁.backendError = .none) :
      False := by
    rw [hdone, createFailed, drive_done] at hdrive
    cases hdrive
    exact herror hnone
  obtain hcreates | ⟨status₁, hdone, hnone⟩ := start_create hop habsent
  · obtain ⟨s₁, status₁, hdone, hnone⟩ | ⟨reservations, c, created, haccepted, hplaced, hyields⟩ :=
      createRecord_committed s call
    · exact (hfailed (hcreates.trans hdone) hnone).elim
    · rw [hcreates, hyields] at hdrive hunreserves
      have hinserted : (committed s call.request call.ownerCapability call.now reservations c
          call.request.retainsIdentity).1.displaysById[call.request.displayId]? =
            some (committed s call.request call.ownerCapability call.now reservations c
              call.request.retainsIdentity).2 :=
        (OrdMap.getElem?_insert ..).trans (if_pos rfl)
      obtain rfl := drive_created hinserted rfl hdrive hunreserves herror
      obtain ⟨hrecords, hleases, hreservations, hquarantine⟩ :=
        @rollback_committed s call.request call.ownerCapability call.now reservations c
          call.request.retainsIdentity haccepted
      constructor
      · intro h
        have hunreserved := (rollback_reservations_iff hplaced).mp
          (hreservations.symm.trans h.reservations)
        exact ⟨hunreserved.1, hunreserved.2,
          rollback_leases_iff.mp (hleases.symm.trans h.leases)⟩
      · intro h
        exact ⟨hrecords, hleases.trans (rollback_leases_iff.mpr h.lease),
          hreservations.trans ((rollback_reservations_iff hplaced).mpr ⟨h.unreserved, h.free⟩),
          hquarantine⟩
  · exact (hfailed hdone hnone).elim

/-- The identity is reserved, the monitor does not arrive, the identity is given back. -/
def arrivalRefused : List BackendDisplayResult := [{}, { error := .failed }, {}]

/-- Display 2 is up under a lease with a capability. -/
def exampleUp : DisplayStore :=
  (drive controller (controller.start (.new 4 8) (.createTemporaryDisplayOwned
    { display := exampleRequest kMinOpaqueLeaseId 2, ownerCapability := exampleCapability } 0))
    [{}, {}]).1

/-- Display 1 is refused under the lease of display 2, and both of these stay as they were. -/
theorem createRollback_second :
    exampleUp.displaysById.contains 2 ∧ exampleUp.leasesById.contains kMinOpaqueLeaseId ∧
    RolledBack exampleUp
      (drive controller (controller.start exampleUp
        (.createTemporaryDisplay (exampleRequest kMinOpaqueLeaseId 1) 0)) arrivalRefused).1 := by
  obtain ⟨lease, hlease⟩ := Option.isSome_iff_exists.mp
    (show (exampleUp.leasesById[kMinOpaqueLeaseId]?).isSome = true by decide)
  refine ⟨by decide, by decide,
    (@createRollback_iff exampleUp _ {} { backendError := .failed } _ _ _ rfl (by decide)
      (Prod.ext rfl (by decide)) (by decide) (by decide)).mpr
        ⟨by decide, ⟨5, by decide, by decide, isUnreserved_iff.mp (by decide)⟩, ?_⟩⟩
  exact (if_pos (by decide)).mpr ⟨lease, hlease, .inr rfl⟩

/-- The driver starts with the connector it keeps for the display, whose monitor is then refused. -/
theorem rollback_loses_reservation :
    ¬∀ (s s' : DisplayStore) (op : ControllerOp) (call : CreateCall)
      (replies : List BackendDisplayResult) (status : ControllerStatus)
      (result : CreateTemporaryDisplayResult), op.createCall? = some call →
        s.displaysById[call.request.displayId]? = none →
        drive controller (controller.start s op) replies = (s', .done (.create status result)) →
        Unreserves (exchanges controller (controller.start s op) replies) →
        status.backendError ≠ .none → RolledBack s s' := by
  intro h
  let s : DisplayStore := .new 4 8 (.insert ∅ 1 4)
  let op : ControllerOp := .createTemporaryDisplay (exampleRequest kMinOpaqueLeaseId 1) 0
  have hfailed : (drive controller (controller.start s op) arrivalRefused).2 =
      .done (.create { backendError := .failed } {}) := by
    decide
  have hunreserves : Unreserves (exchanges controller (controller.start s op) arrivalRefused) := by
    decide
  have hdrive := (Prod.eta (drive controller (controller.start s op) arrivalRefused)).symm
  rw [hfailed] at hdrive
  have hrolled := h s _ op _ arrivalRefused _ _ rfl (by decide) hdrive hunreserves (by decide)
  have hbefore : s.connectorReservationsByDisplayId[(1 : UInt64)]? = some 4 := by decide
  have hafter : (drive controller (controller.start s op)
      arrivalRefused).1.connectorReservationsByDisplayId[(1 : UInt64)]? = none := by
    decide
  rw [hrolled.reservations, hbefore] at hafter
  cases hafter

end Controller

end VirtualDisplay
