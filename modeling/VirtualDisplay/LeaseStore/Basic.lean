import VirtualDisplay.DisplayIdentity
import VirtualDisplay.Lib.OrdMap
import VirtualDisplay.Lib.Scan

/-!
# The display store

`DisplayStore` is the in-memory record of what the control plane has handed out
(`lease_store.h`, `lease_store.cpp`): the temporary display records, the leases they live under,
the connector each display id was last placed on, the connectors set aside after an abandoned
departure, and the permanent display manifest.

Every member function of the source is a function here that takes the store and returns the store
it leaves behind together with the result.  The `std::map`s are `OrdMap`s, so loops over them run
in key order; the two 64-bit counters wrap as they do in the source.  Times are counted in
nanoseconds, like `steady_clock`.

## What is here

* `TemporaryDisplayRecord`, `LeaseRecord`, `DisplayStore` — the data.  A record knows its lease by
  id only, and a lease does not know its records: they are found by going through the map.
* `connectorIndexForDisplay`, `drawEphemeralIdentity`, `placeTemporaryDisplay`,
  `createTemporaryDisplayImpl` — a create, in the pieces that its error exits make of it.
* `reclaimTemporaryDisplay`, `feedLease`, `removeTemporaryDisplay`,
  `markTemporaryDisplayPendingDeparture` and the rest of the operations.
* `displayManifestFromPermanentSettings`, `permanentSettingsFromDisplayManifest` — the two ways
  between the older settings and a manifest.

This module has definitions only.  Proofs do not start from these but from
`LeaseStore/Changes.lean`.
-/

set_option autoImplicit false

namespace VirtualDisplay

open Std

/-! ## Times -/

/-- A `steady_clock` time point, in nanoseconds. -/
abbrev TimePoint := Int

/-- A timeout as a span of the clock, which counts nanoseconds. -/
def milliseconds (count : UInt32) : Int := count.toNat * 1000000

/-! ## Records and results -/

/-- Why the store refuses a request. -/
inductive StoreError where
  | none
  | validationFailed
  | temporaryDisplayLimitReached
  | displayAlreadyExists
  | duplicateDisplayIdentity
  | leaseNotFound
  | displayNotFound
  | permanentDisplayCountTooHigh
  deriving DecidableEq, Repr, Inhabited

/-- A temporary display that is up, or that is not known to be gone (`pendingDeparture`).
`effectiveIdentity` is the number its EDID is made of, which is the id of the display unless its
identity is ephemeral, and `generation` tells it apart from the earlier displays of its id. -/
structure TemporaryDisplayRecord where
  leaseId : UInt64
  displayId : UInt64
  width : UInt32
  height : UInt32
  physicalWidthMm : UInt32
  physicalHeightMm : UInt32
  refreshRateMillihz : UInt32
  timeoutMs : UInt32
  connectorIndex : UInt32
  displayName : List UInt8
  expiresAt : TimePoint
  retainIdentity : Bool := true
  identityDisplayId : UInt64
  generation : UInt64
  pendingDeparture : Bool := false
  hdrMaxLuminanceNits : UInt32 := kDefaultHdrMaxLuminanceNits
  requestedResolutionOnly : Bool := false
  deriving DecidableEq, Repr

/-- The id the identity values of a record are derived from. -/
def TemporaryDisplayRecord.effectiveIdentity (record : TemporaryDisplayRecord) : UInt64 :=
  if record.identityDisplayId = 0 then record.displayId else record.identityDisplayId

/-- A lease: until when it lives, and the capability of its owner, if it has one. -/
structure LeaseRecord where
  timeoutMs : UInt32
  expiresAt : TimePoint
  ownerCapability : Option OwnerCapability
  deriving DecidableEq, Repr

/-- What an operation of the store returns. -/
structure StoreResult where
  error : StoreError := .none
  validationError : ValidationError := .none
  deriving DecidableEq, Repr, Inhabited

/-- What a create of the store returns; `result` means something only without an error. -/
structure CreateStoreResult where
  status : StoreResult := {}
  result : CreateTemporaryDisplayResult := {}
  deriving DecidableEq, Repr, Inhabited

/-- What a reclaim of the store returns. -/
structure ReclaimStoreResult where
  status : StoreResult := {}
  result : ReclaimTemporaryDisplayResult := {}
  deriving DecidableEq, Repr, Inhabited

/-- What becomes of the connector of a display that is removed: a display that comes back is to find
its own again, unless its create has failed. -/
inductive RemoveTemporaryDisplayMode where
  | retainConnectorReservation
  | releaseConnectorReservation
  deriving DecidableEq, Repr, Inhabited

/-- The answer to a request that fails its checks. -/
def validationFailure (error : ValidationError) : StoreResult where
  error := .validationFailed
  validationError := error

/-- Every differing bit of the two capabilities is or-ed together, so that the comparison takes
the same steps whatever the bytes are. -/
def ownerCapabilitiesEqual (lhs rhs : OwnerCapability) : Bool :=
  (lhs.bytes.toList.zip rhs.bytes.toList).foldl (fun difference b ↦ difference ||| (b.1 ^^^ b.2))
    0 == 0

/-- Does the lease hold a capability, and is it the presented one? -/
def LeaseRecord.isOwnedBy (lease : LeaseRecord) (presented : OwnerCapability) : Bool :=
  lease.ownerCapability.any fun held ↦ ownerCapabilitiesEqual held presented

/-! ## The store -/

/-- What the driver knows of its displays: the permanent ones as a manifest, and the temporary ones
with their leases.  A connector may be reserved for a display that is not up, and is quarantined
while a monitor may still be on it. -/
structure DisplayStore where
  maxPermanentDisplays : UInt32
  maxTemporaryDisplays : UInt32
  permanentDisplayCount : UInt32 := 0
  permanentDisplaySettings : PermanentDisplayCountRequest := {}
  displayManifest : DisplayManifest := {}
  displaysById : OrdMap UInt64 TemporaryDisplayRecord := ∅
  leasesById : OrdMap UInt64 LeaseRecord := ∅
  connectorReservationsByDisplayId : OrdMap UInt64 UInt32 := ∅
  quarantinedConnectors : OrdMap UInt32 Unit := ∅
  nextEphemeralIdentity : UInt64 := 1
  nextTemporaryDisplayGeneration : UInt64 := 1

namespace DisplayStore

/-! ### Lookups -/

/-- The record of a display. -/
def findTemporaryDisplay (s : DisplayStore) (displayId : UInt64) : Option TemporaryDisplayRecord :=
  s.displaysById[displayId]?

/-- All records, in the order of the ids. -/
def temporaryDisplays (s : DisplayStore) : List TemporaryDisplayRecord :=
  OrdMap.valueList s.displaysById

/-- The records of one lease. -/
def temporaryDisplaysForLease (s : DisplayStore) (leaseId : UInt64) :
    List TemporaryDisplayRecord :=
  s.temporaryDisplays.filter fun display ↦ display.leaseId == leaseId

/-- The records of displays whose departure has failed. -/
def pendingDepartureTemporaryDisplays (s : DisplayStore) : List TemporaryDisplayRecord :=
  s.temporaryDisplays.filter fun display ↦ display.pendingDeparture

/-- The records whose time has come. -/
def expiredTemporaryDisplays (s : DisplayStore) (now : TimePoint) : List TemporaryDisplayRecord :=
  s.temporaryDisplays.filter fun display ↦ display.expiresAt ≤ now

/-- A lease is kept as long as it has a display. -/
def leaseHasDisplays (s : DisplayStore) (leaseId : UInt64) : Bool :=
  OrdMap.anyEntry s.displaysById fun _ display ↦ display.leaseId == leaseId

/-- A departure of a display of the lease has failed. -/
def leaseHasPendingDeparture (s : DisplayStore) (leaseId : UInt64) : Bool :=
  OrdMap.anyEntry s.displaysById fun _ display ↦
    display.leaseId == leaseId && display.pendingDeparture

/-- The same of a display whose time has come. -/
def leaseHasExpiredPendingDeparture (s : DisplayStore) (leaseId : UInt64) (now : TimePoint) :
    Bool :=
  OrdMap.anyEntry s.displaysById fun _ display ↦
    display.leaseId == leaseId && display.pendingDeparture && display.expiresAt ≤ now

/-- Forget a lease without displays. -/
def removeLeaseIfEmpty (s : DisplayStore) (leaseId : UInt64) : DisplayStore :=
  if s.leaseHasDisplays leaseId then s
  else { s with leasesById := s.leasesById.erase leaseId }

/-! ### Connectors -/

/-- The first connector behind the temporary ones, or the greatest number if there is none so great.
-/
def temporaryConnectorLimit (s : DisplayStore) : UInt32 :=
  if 0xffffffff - s.maxPermanentDisplays < s.maxTemporaryDisplays then 0xffffffff
  else s.maxPermanentDisplays + s.maxTemporaryDisplays

/-- The temporary connectors come behind the permanent ones. -/
def isTemporaryConnectorIndex (s : DisplayStore) (connectorIndex : UInt32) : Bool :=
  s.maxPermanentDisplays ≤ connectorIndex && connectorIndex < s.temporaryConnectorLimit

/-- A display is on the connector. -/
def connectorIndexIsActive (s : DisplayStore) (connectorIndex : UInt32) : Bool :=
  OrdMap.anyEntry s.displaysById fun _ display ↦ display.connectorIndex == connectorIndex

/-- The connector is kept for a display, which may be up. -/
def connectorIndexIsReserved (s : DisplayStore) (connectorIndex : UInt32) : Bool :=
  OrdMap.anyEntry s.connectorReservationsByDisplayId fun _ reserved ↦ reserved == connectorIndex

/-- The connector is kept for a display other than this one. -/
def connectorIndexIsReservedForOtherDisplay (s : DisplayStore) (connectorIndex : UInt32)
    (displayId : UInt64) : Bool :=
  OrdMap.anyEntry s.connectorReservationsByDisplayId fun id reserved ↦
    id != displayId && reserved == connectorIndex

/-- Take the connector from all displays but this one. -/
def removeConnectorReservation (s : DisplayStore) (connectorIndex : UInt32)
    (exceptDisplayId : UInt64) : DisplayStore :=
  { s with
    connectorReservationsByDisplayId :=
      OrdMap.eraseIf s.connectorReservationsByDisplayId fun id reserved ↦
        id != exceptDisplayId && reserved == connectorIndex }

/-- A connector no record is on and that is not quarantined. -/
def connectorIsUsable (s : DisplayStore) (connectorIndex : UInt32) : Bool :=
  !s.connectorIndexIsActive connectorIndex && !s.quarantinedConnectors.contains connectorIndex

/-- The reservation of the display, if it is retained and its connector can be used again. -/
def reservedConnectorIndex (s : DisplayStore) (displayId : UInt64) (retainIdentity : Bool) :
    Option UInt32 :=
  if retainIdentity then
    s.connectorReservationsByDisplayId[displayId]?.filter fun reserved ↦
      s.isTemporaryConnectorIndex reserved && !s.connectorIndexIsActive reserved
  else none

/-- The first usable connector that no other display has reserved. -/
def unreservedConnectorIndex (s : DisplayStore) (displayId : UInt64) (retainIdentity : Bool) :
    Option UInt32 :=
  Scan.firstBelow
    (fun connectorIndex ↦ s.connectorIsUsable connectorIndex &&
      if retainIdentity then !s.connectorIndexIsReservedForOtherDisplay connectorIndex displayId
      else !s.connectorIndexIsReserved connectorIndex)
    s.maxPermanentDisplays s.temporaryConnectorLimit

/-- The connector a display is placed on: its own reservation, else the first usable connector
nobody else has reserved, else the first usable one, whose reservations are then taken away.  With
no usable connector the answer is the limit itself, which is not a temporary connector. -/
def connectorIndexForDisplay (s : DisplayStore) (displayId : UInt64) (retainIdentity : Bool) :
    DisplayStore × UInt32 :=
  match s.reservedConnectorIndex displayId retainIdentity with
  | some reserved => (s, reserved)
  | none =>
    match s.unreservedConnectorIndex displayId retainIdentity with
    | some connectorIndex => (s, connectorIndex)
    | none =>
      match Scan.firstBelow s.connectorIsUsable s.maxPermanentDisplays
          s.temporaryConnectorLimit with
      | some connectorIndex =>
        (s.removeConnectorReservation connectorIndex displayId, connectorIndex)
      | none => (s, s.temporaryConnectorLimit)

/-! ### Identities -/

/-- A display that is up has the product code and the serial number of this identity. -/
def edidIdentityIsActive (s : DisplayStore) (identityDisplayId : UInt64) : Bool :=
  OrdMap.anyEntry s.displaysById fun _ display ↦
    productCodeFromDisplayId display.effectiveIdentity ==
        productCodeFromDisplayId identityDisplayId &&
      serialNumberFromDisplayId display.effectiveIdentity ==
        serialNumberFromDisplayId identityDisplayId

/-- What the counter of the ephemeral identities is or-ed to. -/
def kEphemeralDisplayIdBase : UInt64 := 0x6000000000000000

/-- The `do … while` loop that draws ephemeral identities until one is not active: the identity
and the counter after it. -/
def drawEphemeralIdentity (s : DisplayStore) : Nat → UInt64 → UInt64 × UInt64
  | 0, next => (kEphemeralDisplayIdBase ||| next, next + 1)
  | fuel + 1, next =>
    let identity := kEphemeralDisplayIdBase ||| next
    if s.edidIdentityIsActive identity then drawEphemeralIdentity s fuel (next + 1)
    else (identity, next + 1)

/-- The loop is given two draws for every active record. -/
def freshEphemeralIdentity (s : DisplayStore) : UInt64 × UInt64 :=
  s.drawEphemeralIdentity (2 * s.displaysById.size) s.nextEphemeralIdentity

/-! ### Creating -/

/-- A create that is refused by the store. -/
def createFailure (error : StoreError) : CreateStoreResult := { status := { error } }

/-- The lease a create names cannot take another display: it has expired or has a display whose
departure is pending. -/
def leaseRefusesDisplays (s : DisplayStore) (leaseId : UInt64) (lease : Option LeaseRecord)
    (now : TimePoint) : Bool :=
  lease.any fun lease ↦ lease.expiresAt ≤ now || s.leaseHasPendingDeparture leaseId

/-- The lease and the create both carry a capability, and they differ. -/
def leaseOwnedByOther (lease : Option LeaseRecord) (ownerCapability : Option OwnerCapability) :
    Bool :=
  match lease.bind LeaseRecord.ownerCapability, ownerCapability with
  | some held, some presented => !ownerCapabilitiesEqual held presented
  | _, _ => false

/-- The lease a successful create leaves behind: the existing one, with the capability of the
create if it had none yet, or a new one. -/
def createdLease (s : DisplayStore) (validated : ValidatedCreateTemporaryDisplay)
    (ownerCapability : Option OwnerCapability) (now : TimePoint) : LeaseRecord :=
  match s.leasesById[validated.request.leaseId]? with
  | some lease => { lease with ownerCapability := lease.ownerCapability.or ownerCapability }
  | none =>
    { timeoutMs := validated.effectiveTimeoutMs
      expiresAt := now + milliseconds validated.effectiveTimeoutMs
      ownerCapability }

/-- The record a successful create leaves behind.  Its times are those of its lease. -/
def createdRecord (s : DisplayStore) (validated : ValidatedCreateTemporaryDisplay)
    (now : TimePoint) (connectorIndex : UInt32) (retainIdentity : Bool) :
    TemporaryDisplayRecord :=
  let request := validated.request
  let lease := s.createdLease validated none now
  { leaseId := request.leaseId
    displayId := request.displayId
    width := request.width
    height := request.height
    physicalWidthMm := request.physicalWidthMm
    physicalHeightMm := request.physicalHeightMm
    refreshRateMillihz := request.refreshRateMillihz
    timeoutMs := lease.timeoutMs
    connectorIndex
    displayName := validated.displayName
    expiresAt := lease.expiresAt
    retainIdentity
    identityDisplayId := if retainIdentity then request.displayId else s.freshEphemeralIdentity.1
    generation := s.nextTemporaryDisplayGeneration
    pendingDeparture := false
    hdrMaxLuminanceNits := request.hdrMaxLuminanceNits
    requestedResolutionOnly :=
      request.flags &&& kCreateTemporaryDisplayFlagRequestedResolutionOnly ≠ 0 }

/-- The tail of `create_temporary_display_impl`: nothing can fail any more, and the record, its
reservation and its lease are written. -/
def commitTemporaryDisplay (s : DisplayStore) (validated : ValidatedCreateTemporaryDisplay)
    (ownerCapability : Option OwnerCapability) (now : TimePoint) (connectorIndex : UInt32)
    (retainIdentity : Bool) : DisplayStore × CreateStoreResult :=
  let leaseId := validated.request.leaseId
  let displayId := validated.request.displayId
  let record := s.createdRecord validated now connectorIndex retainIdentity
  ({ s with
      displaysById := s.displaysById.insert displayId record
      leasesById := s.leasesById.insert leaseId (s.createdLease validated ownerCapability now)
      connectorReservationsByDisplayId :=
        if retainIdentity then
          (s.removeConnectorReservation connectorIndex
            displayId).connectorReservationsByDisplayId.insert displayId connectorIndex
        else s.connectorReservationsByDisplayId
      nextEphemeralIdentity :=
        if retainIdentity then s.nextEphemeralIdentity else s.freshEphemeralIdentity.2
      nextTemporaryDisplayGeneration := s.nextTemporaryDisplayGeneration + 1 },
    { result :=
        { leaseId
          displayId
          connectorIndex
          effectiveTimeoutMs := record.timeoutMs } })

/-- The middle of `create_temporary_display_impl`: choose a connector and check the identity. -/
def placeTemporaryDisplay (s : DisplayStore) (validated : ValidatedCreateTemporaryDisplay)
    (ownerCapability : Option OwnerCapability) (now : TimePoint) :
    DisplayStore × CreateStoreResult :=
  let displayId := validated.request.displayId
  let retainIdentity : Bool :=
    validated.request.flags &&& kCreateTemporaryDisplayFlagEphemeralIdentity = 0
  let (s, connectorIndex) := s.connectorIndexForDisplay displayId retainIdentity
  if !s.isTemporaryConnectorIndex connectorIndex then
    (s, createFailure .temporaryDisplayLimitReached)
  else if retainIdentity && s.edidIdentityIsActive displayId then
    (s, createFailure .duplicateDisplayIdentity)
  else s.commitTemporaryDisplay validated ownerCapability now connectorIndex retainIdentity

/-- A create: it passes its checks, finds room and a lease that takes it, and is given a place. -/
def createTemporaryDisplayImpl (s : DisplayStore) (request : CreateTemporaryDisplayRequest)
    (ownerCapability : Option OwnerCapability) (now : TimePoint) :
    DisplayStore × CreateStoreResult :=
  match validateCreateTemporaryDisplay request with
  | .none =>
    let lease := s.leasesById[request.leaseId]?
    if s.displaysById.contains request.displayId then (s, createFailure .displayAlreadyExists)
    else if s.maxTemporaryDisplays.toNat ≤ s.displaysById.size then
      (s, createFailure .temporaryDisplayLimitReached)
    else if s.leaseRefusesDisplays request.leaseId lease now then
      (s, createFailure .leaseNotFound)
    else if leaseOwnedByOther lease ownerCapability then (s, createFailure .leaseNotFound)
    else s.placeTemporaryDisplay (validatedCreateTemporaryDisplay request) ownerCapability now
  | error => (s, { status := validationFailure error })

/-- A create without a capability. -/
def createTemporaryDisplay (s : DisplayStore) (request : CreateTemporaryDisplayRequest)
    (now : TimePoint) : DisplayStore × CreateStoreResult :=
  s.createTemporaryDisplayImpl request none now

/-- A create with the capability of its lease. -/
def createTemporaryDisplayOwned (s : DisplayStore) (request : CreateTemporaryDisplayOwnedRequest)
    (now : TimePoint) : DisplayStore × CreateStoreResult :=
  match validateCreateTemporaryDisplayOwned request with
  | .none => s.createTemporaryDisplayImpl request.display (some request.ownerCapability) now
  | error => (s, { status := validationFailure error })

/-! ### Reclaiming, removing and abandoning -/

/-- What a reclaim does to each record: those of the old lease move under the new one. -/
def rotateRecord (oldLeaseId newLeaseId : UInt64) (timeoutMs : UInt32) (expiresAt : TimePoint)
    (record : TemporaryDisplayRecord) : TemporaryDisplayRecord :=
  if record.leaseId = oldLeaseId then { record with leaseId := newLeaseId, timeoutMs, expiresAt }
  else record

/-- Move every display of `oldLeaseId` under a new lease id and drop the old lease. -/
def rotateLease (s : DisplayStore) (oldLeaseId newLeaseId : UInt64) (timeoutMs : UInt32)
    (expiresAt : TimePoint) (ownerCapability : Option OwnerCapability) : DisplayStore :=
  { s with
    displaysById := s.displaysById.map fun _ ↦
      rotateRecord oldLeaseId newLeaseId timeoutMs expiresAt
    leasesById := (s.leasesById.erase oldLeaseId).insert newLeaseId
      { timeoutMs, expiresAt, ownerCapability } }

/-- A reclaim: the display must be up, its lease alive and without failed departures, the capability
the lease's, and the new lease unused. -/
def reclaimTemporaryDisplay (s : DisplayStore) (request : ReclaimTemporaryDisplayRequest)
    (now : TimePoint) : DisplayStore × ReclaimStoreResult :=
  let notFound : DisplayStore × ReclaimStoreResult :=
    (s, { status := { error := .leaseNotFound } })
  match validateReclaimTemporaryDisplay request with
  | .none =>
    match s.displaysById[request.displayId]? with
    | none => notFound
    | some display =>
      if display.pendingDeparture then notFound
      else
        let oldLeaseId := display.leaseId
        match s.leasesById[oldLeaseId]? with
        | none => notFound
        | some lease =>
          if lease.expiresAt ≤ now ∨ s.leaseHasPendingDeparture oldLeaseId ∨
              !lease.isOwnedBy request.ownerCapability then notFound
          else if request.newLeaseId = oldLeaseId ∨ s.leasesById.contains request.newLeaseId then
            notFound
          else
            let timeoutMs := normalizeTimeoutMs request.requestedTimeoutMs
            let expiresAt := now + milliseconds timeoutMs
            (s.rotateLease oldLeaseId request.newLeaseId timeoutMs expiresAt lease.ownerCapability,
              { result :=
                  { leaseId := request.newLeaseId
                    displayId := request.displayId
                    connectorIndex := display.connectorIndex
                    effectiveTimeoutMs := timeoutMs
                    temporaryDisplayCount :=
                      (s.temporaryDisplaysForLease oldLeaseId).length.toUInt32 } })
  | error => (s, { status := validationFailure error })

/-- Drop the record of a display, and its lease with the last of its displays. -/
def eraseDisplay (s : DisplayStore) (displayId leaseId : UInt64) : DisplayStore :=
  { s with displaysById := s.displaysById.erase displayId }.removeLeaseIfEmpty leaseId

/-- Forget a display, if the lease is its own. -/
def removeTemporaryDisplay (s : DisplayStore) (request : LeaseDisplayRequest)
    (mode : RemoveTemporaryDisplayMode := .retainConnectorReservation) :
    DisplayStore × StoreResult :=
  match validateLeaseDisplayRequest request with
  | .none =>
    if (s.displaysById[request.displayId]?).any (·.leaseId == request.leaseId) then
      let s :=
        match mode with
        | .releaseConnectorReservation =>
          { s with
            connectorReservationsByDisplayId :=
              s.connectorReservationsByDisplayId.erase request.displayId }
        | .retainConnectorReservation => s
      (s.eraseDisplay request.displayId request.leaseId, {})
    else (s, { error := .displayNotFound })
  | error => (s, validationFailure error)

/-- The record of a display, for whoever has its lease and the capability of the lease. -/
def authorizeTemporaryDisplayOwner (s : DisplayStore) (request : LeaseDisplayRequest)
    (ownerCapability : OwnerCapability) (now : TimePoint) : Option TemporaryDisplayRecord :=
  if validateLeaseDisplayRequest request ≠ .none then none
  else
    match s.displaysById[request.displayId]?, s.leasesById[request.leaseId]? with
    | some display, some lease =>
      if display.leaseId ≠ request.leaseId ∨ display.pendingDeparture ∨ lease.expiresAt ≤ now ∨
          display.expiresAt ≤ now ∨ !lease.isOwnedBy ownerCapability then none
      else some display
    | _, _ => none

/-- Forget a display whose departure has failed, if it is still the one that was looked at, and put
its connector into quarantine. -/
def abandonPendingTemporaryDisplay (s : DisplayStore) (request : LeaseDisplayRequest)
    (expectedGeneration : UInt64) (ownerCapability : OwnerCapability) :
    DisplayStore × StoreResult :=
  match validateLeaseDisplayRequest request with
  | .none =>
    match s.displaysById[request.displayId]? with
    | none => (s, { error := .displayNotFound })
    | some display =>
      if display.leaseId ≠ request.leaseId ∨ display.generation ≠ expectedGeneration ∨
          !display.pendingDeparture then (s, { error := .displayNotFound })
      else if (s.leasesById[request.leaseId]?).any (LeaseRecord.isOwnedBy · ownerCapability) then
        ({ s with
            quarantinedConnectors := s.quarantinedConnectors.insert display.connectorIndex ()
            connectorReservationsByDisplayId :=
              s.connectorReservationsByDisplayId.erase request.displayId }.eraseDisplay
            request.displayId request.leaseId, {})
      else (s, { error := .leaseNotFound })
  | error => (s, validationFailure error)

/-- Note that the departure of a display has failed. -/
def markTemporaryDisplayPendingDeparture (s : DisplayStore) (request : LeaseDisplayRequest) :
    DisplayStore × StoreResult :=
  match validateLeaseDisplayRequest request with
  | .none =>
    match s.displaysById[request.displayId]? with
    | none => (s, { error := .displayNotFound })
    | some display =>
      if display.leaseId ≠ request.leaseId then (s, { error := .displayNotFound })
      else
        ({ s with
            displaysById :=
              s.displaysById.insert request.displayId { display with pendingDeparture := true } },
          {})
  | error => (s, validationFailure error)

/-! ### Leases -/

/-- What a feed does to each record: those of the lease that are not pending get its new times. -/
def feedRecord (leaseId : UInt64) (timeoutMs : UInt32) (expiresAt : TimePoint)
    (record : TemporaryDisplayRecord) : TemporaryDisplayRecord :=
  if record.leaseId = leaseId ∧ ¬record.pendingDeparture then { record with timeoutMs, expiresAt }
  else record

/-- Put off the end of a lease, and of those of its displays whose departure has not failed.  It is
refused once the lease has expired, or a display of it whose departure has failed. -/
def feedLease (s : DisplayStore) (request : LeaseRequest) (now : TimePoint) :
    DisplayStore × StoreResult :=
  match validateLeaseRequest request with
  | .none =>
    match s.leasesById[request.leaseId]? with
    | none => (s, { error := .leaseNotFound })
    | some lease =>
      if lease.expiresAt ≤ now ∨ s.leaseHasExpiredPendingDeparture request.leaseId now then
        (s, { error := .leaseNotFound })
      else
        let timeoutMs := normalizeTimeoutMs request.requestedTimeoutMs
        let expiresAt := now + milliseconds timeoutMs
        ({ s with
            leasesById := s.leasesById.insert request.leaseId { lease with timeoutMs, expiresAt }
            displaysById := s.displaysById.map fun _ ↦
              feedRecord request.leaseId timeoutMs expiresAt },
          {})
  | error => (s, validationFailure error)

/-- Forget a lease with its displays. -/
def releaseLease (s : DisplayStore) (request : LeaseRequest) : DisplayStore × StoreResult :=
  match validateLeaseRequest request with
  | .none =>
    if s.leasesById.contains request.leaseId then
      ({ s with
          displaysById := OrdMap.eraseIf s.displaysById fun _ display ↦
            display.leaseId == request.leaseId
          leasesById := s.leasesById.erase request.leaseId },
        {})
    else (s, { error := .leaseNotFound })
  | error => (s, validationFailure error)

/-- One pass of the loop of `reapExpired`. -/
def reapDisplay (now : TimePoint) (s : DisplayStore) (entry : UInt64 × TemporaryDisplayRecord) :
    DisplayStore :=
  if entry.2.expiresAt ≤ now then s.eraseDisplay entry.1 entry.2.leaseId else s

/-- Forget the displays whose time has come. -/
def reapExpired (s : DisplayStore) (now : TimePoint) : DisplayStore × UInt32 :=
  (s.displaysById.toList.foldl (reapDisplay now) s,
    (s.expiredTemporaryDisplays now).length.toUInt32)

/-! ### The permanent manifest -/

end DisplayStore

/-- One profile of the manifest `displayManifestFromPermanentSettings` builds. -/
def permanentProfile (settings : PermanentDisplayCountRequest) (index : UInt32) :
    DisplayManifestProfile :=
  { flags := kDisplayManifestProfileFlagHdrSupported |||
      kDisplayManifestProfileFlagRetainIdentity ||| kDisplayManifestProfileFlagPermanentIdentity
    connectorIndex := index
    displayId := permanentDisplayId index
    containerId := containerGuidFromDisplayId (permanentDisplayId index)
    productCode := (permanentProductCode index).toUInt32
    serialNumber := serialNumberFromDisplayId (permanentDisplayId index)
    physicalWidthMm := settings.physicalWidthMm
    physicalHeightMm := settings.physicalHeightMm
    nativeModeIndex := 0
    allowedModeCount := 1
    layoutPolicy := kDisplayManifestLayoutPolicyNone
    orientation := kDisplayManifestOrientationDefault
    allowedModes :=
      #v[{ width := settings.width, height := settings.height
           refreshRateMillihz := settings.refreshRateMillihz }, {}, {}, {}]
    displayName := settings.displayName }

/-- The manifest of so many displays that are all alike. -/
def displayManifestFromPermanentSettings (request : PermanentDisplayCountRequest)
    (maxDisplayCount : UInt32) : DisplayManifest :=
  let normalized := setDefaultPermanentDisplaySettings request
  { profileCount := normalized.displayCount
    maxProfileCount := min maxDisplayCount (UInt32.ofNat kMaxPermanentDisplayProfiles)
    profiles := Vector.ofFn fun index ↦
      if index.val < normalized.displayCount.toNat then
        permanentProfile normalized (UInt32.ofNat index.val)
      else {} }

/-- The settings that a manifest amounts to: those of its first profile. -/
def permanentSettingsFromDisplayManifest (manifest : DisplayManifest) :
    PermanentDisplayCountRequest :=
  if manifest.profileCount = 0 then setDefaultPermanentDisplaySettings {}
  else
    let profile := manifest.profiles[0]
    let mode := (profile.allowedModes.toList[profile.nativeModeIndex.toNat]?).getD {}
    setDefaultPermanentDisplaySettings
      { displayCount := manifest.profileCount
        width := mode.width
        height := mode.height
        physicalWidthMm := profile.physicalWidthMm
        physicalHeightMm := profile.physicalHeightMm
        refreshRateMillihz := mode.refreshRateMillihz
        displayName := profile.displayName }

/-- The manifest with the names of its active profiles made canonical, unless one of them has no
canonical form. -/
def canonicalDisplayManifest (manifest : DisplayManifest) : Option DisplayManifest :=
  if manifest.activeProfiles.any fun profile ↦
      (canonicalizeDisplayName profile.displayName).isNone then none
  else
    some
      { manifest with
        profiles := Vector.ofFn fun index ↦
          let profile := manifest.profiles[index]
          if index.val < manifest.profileCount.toNat then
            { profile with
              displayName :=
                (canonicalizeDisplayName profile.displayName).getD profile.displayName }
          else profile }

namespace DisplayStore

/-- Take a manifest that passes its checks, with its names made canonical. -/
def applyDisplayManifest (s : DisplayStore) (manifest : DisplayManifest) :
    DisplayStore × StoreResult :=
  match validateDisplayManifest manifest s.maxPermanentDisplays with
  | .none =>
    match canonicalDisplayManifest manifest with
    | none => (s, validationFailure .invalidDisplayName)
    | some canonical =>
      ({ s with
          permanentDisplayCount := canonical.profileCount
          displayManifest := canonical
          permanentDisplaySettings := permanentSettingsFromDisplayManifest canonical },
        {})
  | error => (s, validationFailure error)

/-- Take the manifest of so many displays that are all alike. -/
def setPermanentDisplayCount (s : DisplayStore) (request : PermanentDisplayCountRequest) :
    DisplayStore × StoreResult :=
  let normalized := setDefaultPermanentDisplaySettings request
  match validatePermanentDisplayCount normalized s.maxPermanentDisplays with
  | .none =>
    s.applyDisplayManifest
      (displayManifestFromPermanentSettings normalized s.maxPermanentDisplays)
  | error => (s, validationFailure error)

/-- The constructor.  An initial manifest that does not validate is ignored. -/
def new (maxPermanentDisplays maxTemporaryDisplays : UInt32)
    (connectorReservationsByDisplayId : OrdMap UInt64 UInt32 := ∅)
    (initialManifest : Option DisplayManifest := none) : DisplayStore :=
  let settings := setDefaultPermanentDisplaySettings {}
  let s : DisplayStore :=
    { maxPermanentDisplays
      maxTemporaryDisplays
      permanentDisplaySettings := settings
      displayManifest := displayManifestFromPermanentSettings settings maxPermanentDisplays
      connectorReservationsByDisplayId }
  match initialManifest with
  | some manifest =>
    if validateDisplayManifest manifest maxPermanentDisplays = .none then
      (s.applyDisplayManifest manifest).1
    else s
  | none => s

end DisplayStore

end VirtualDisplay
