import VirtualDisplay.Edid.Basic
import VirtualDisplay.LeaseStore.Basic
import VirtualDisplay.Lib.SlotCalls

/-!
# The driver controller

`DriverController` (`driver_controller.h`, `driver_controller.cpp`) keeps the display store and the
backend in step.  Its calls run under the controller lock.  Around every backend call the lock is
given up, the single backend slot is waited for, and the lock is taken back before the slot is
given up (`call_backend_without_controller_lock`).

So each function of the source is here in pieces, cut at its backend calls.  `start` runs a call up
to its first backend call or its end, `resume` runs it on from the reply to one; a `Frame` is a
backend call at which the lock is given up, with the locals the rest of the function still uses.
`controller` puts the pieces together as a `SlotCalls.Program` on the store.

Once the store has created a record, `request.lease_id` and `request.display_id` of the source are
those of the record, and the frames carry the record alone.
-/

set_option autoImplicit false

namespace VirtualDisplay

open Std SlotCalls

/-! ## The backend interface -/

/-- How a call of the backend ends.  `busy` says that the slot could not be had, so nothing was
tried. -/
inductive BackendError where
  | none
  | failed
  | busy
  deriving DecidableEq, Repr, Inhabited

/-- What the backend returns; the adapter and the target mean something for an arrival only. -/
structure BackendDisplayResult where
  error : BackendError := .none
  osAdapterLuid : AdapterLuid := {}
  targetId : UInt32 := 0
  deriving DecidableEq, Repr, Inhabited

/-- What the EDID of a temporary display is made of. -/
def edidOptionsForTemporaryDisplay (record : TemporaryDisplayRecord) : EdidOptions where
  manufacturerId := kSunshineDriverManufacturerId
  productCode := productCodeFromDisplayId record.effectiveIdentity
  serialNumber := serialNumberFromDisplayId record.effectiveIdentity
  width := record.width
  height := record.height
  physicalWidthMm := record.physicalWidthMm
  physicalHeightMm := record.physicalHeightMm
  hdrMaxLuminanceNits := record.hdrMaxLuminanceNits
  refreshRateMillihz := record.refreshRateMillihz
  monitorName := record.displayName
  hdrSupported := true

/-- What the backend is told about a display.  The EDID stands here as the options it is encoded
from. -/
structure DisplayDescriptor where
  leaseId : UInt64
  displayId : UInt64
  containerId : Guid
  connectorIndex : UInt32
  width : UInt32
  height : UInt32
  physicalWidthMm : UInt32
  physicalHeightMm : UInt32
  refreshRateMillihz : UInt32
  edid : EdidOptions
  retainIdentity : Bool
  generation : UInt64
  requestedResolutionOnly : Bool
  deriving DecidableEq, Repr

/-- What the backend is told of a temporary display. -/
def descriptorFromRecord (record : TemporaryDisplayRecord) : DisplayDescriptor where
  leaseId := record.leaseId
  displayId := record.displayId
  containerId := containerGuidFromDisplayId record.effectiveIdentity
  connectorIndex := record.connectorIndex
  width := record.width
  height := record.height
  physicalWidthMm := record.physicalWidthMm
  physicalHeightMm := record.physicalHeightMm
  refreshRateMillihz := record.refreshRateMillihz
  edid := edidOptionsForTemporaryDisplay record
  retainIdentity := record.retainIdentity
  generation := record.generation
  requestedResolutionOnly := record.requestedResolutionOnly

/-- A call of the backend interface.  A reclaim takes the slot without calling the backend. -/
inductive BackendCall where
  | slotOnly
  | reserveTemporaryDisplayIdentity (descriptor : DisplayDescriptor)
  | unreserveTemporaryDisplayIdentity (displayId : UInt64)
  | arriveTemporaryDisplay (descriptor : DisplayDescriptor)
  | departTemporaryDisplay (displayId expectedGeneration : UInt64)
  | applyDisplayManifest (manifest : DisplayManifest)
  | setRenderAdapter (request : SetRenderAdapterRequest)
  deriving DecidableEq

/-! ## Results -/

/-- How a call of the controller ends: refused by its checks, by the store, or by the backend. -/
structure ControllerStatus where
  storeError : StoreError := .none
  validationError : ValidationError := .none
  backendError : BackendError := .none
  deriving DecidableEq, Repr, Inhabited

/-- The call did what it was asked to do. -/
def ControllerStatus.ok (status : ControllerStatus) : Bool :=
  status.storeError == .none && status.validationError == .none && status.backendError == .none

/-- The status of a call that the store has decided. -/
def fromStoreResult (result : StoreResult) : ControllerStatus where
  storeError := result.error
  validationError := result.validationError

/-- What a call returns, by the result type of its function. -/
inductive ControllerResult where
  | create (status : ControllerStatus) (result : CreateTemporaryDisplayResult)
  | reclaim (status : ControllerStatus) (result : ReclaimTemporaryDisplayResult)
  | status (status : ControllerStatus)
  | reaped (removed : UInt32)
  deriving DecidableEq

/-! ## Calls and the points where they give up the lock -/

/-- The arguments of `create_temporary_display_impl`. -/
structure CreateCall where
  request : CreateTemporaryDisplayRequest
  ownerCapability : Option OwnerCapability := none
  now : TimePoint
  deriving DecidableEq

/-- The calls of the controller that change something. -/
inductive ControllerOp where
  | createTemporaryDisplay (request : CreateTemporaryDisplayRequest) (now : TimePoint)
  | createTemporaryDisplayOwned (request : CreateTemporaryDisplayOwnedRequest) (now : TimePoint)
  | reclaimTemporaryDisplay (request : ReclaimTemporaryDisplayRequest) (now : TimePoint)
  | removeTemporaryDisplay (request : LeaseDisplayRequest)
  | feedLease (request : LeaseRequest) (now : TimePoint)
  | releaseLease (request : LeaseRequest)
  | setPermanentDisplayCount (request : PermanentDisplayCountRequest)
  | applyDisplayManifest (manifest : DisplayManifest)
  | setRenderAdapter (request : SetRenderAdapterRequest)
  | reapExpired (now : TimePoint)

/-- Where a call is, while it waits for a backend call or for the slot; the fields are the local
variables that it goes on with. -/
inductive Frame where
  /-- The departure of whatever is parked under a display id whose record is pending. -/
  | createHeal (call : CreateCall) (pendingRecord : TemporaryDisplayRecord)
  | createReserve (created : CreateTemporaryDisplayResult) (createdRecord : TemporaryDisplayRecord)
  /-- The record went away while its identity was being reserved. -/
  | createUnreserveGone (createdRecord : TemporaryDisplayRecord)
  | createArrive (created : CreateTemporaryDisplayResult) (createdRecord : TemporaryDisplayRecord)
      (identityReserved : Bool)
  /-- The arrival failed with this error. -/
  | createUnreserve (createdRecord : TemporaryDisplayRecord) (arrivalError : BackendError)
  /-- The record went away while its monitor was arriving. -/
  | createDepartGone (createdRecord : TemporaryDisplayRecord)
  /-- The record was condemned while its monitor was arriving. -/
  | createDepartPending (createdRecord arrivedRecord : TemporaryDisplayRecord)
  | reclaim (request : ReclaimTemporaryDisplayRequest) (now : TimePoint)
  | removeDepart (request : LeaseDisplayRequest) (record : TemporaryDisplayRecord)
  | releaseDepart (display : TemporaryDisplayRecord) (rest : List TemporaryDisplayRecord)
      (backendError : BackendError)
  | reapDepart (display : TemporaryDisplayRecord) (rest : List TemporaryDisplayRecord)
      (removed : UInt32)
  | applyDisplayManifest (canonical : DisplayManifest)
  | setRenderAdapter (request : SetRenderAdapterRequest)
  deriving DecidableEq

/-- The backend call of a frame.  A reclaim takes the slot and calls nothing. -/
def Frame.backendCall : Frame → BackendCall
  | createHeal _ pendingRecord => .departTemporaryDisplay pendingRecord.displayId 0
  | createReserve _ createdRecord =>
    .reserveTemporaryDisplayIdentity (descriptorFromRecord createdRecord)
  | createUnreserveGone createdRecord | createUnreserve createdRecord _ =>
    .unreserveTemporaryDisplayIdentity createdRecord.displayId
  | createArrive _ createdRecord _ => .arriveTemporaryDisplay (descriptorFromRecord createdRecord)
  | createDepartGone createdRecord | createDepartPending createdRecord _ =>
    .departTemporaryDisplay createdRecord.displayId createdRecord.generation
  | reclaim .. => .slotOnly
  | removeDepart request record => .departTemporaryDisplay request.displayId record.generation
  | releaseDepart display _ _ | reapDepart display _ _ =>
    .departTemporaryDisplay display.displayId display.generation
  | applyDisplayManifest canonical => .applyDisplayManifest canonical
  | setRenderAdapter request => .setRenderAdapter request

/-! ## Records that are still current -/

namespace DisplayStore

/-- The record is in the store still, as the one that the call has looked at: of the same lease and
generation. -/
def temporaryDisplayGenerationIsCurrent (s : DisplayStore) (record : TemporaryDisplayRecord) :
    Bool :=
  (s.findTemporaryDisplay record.displayId).any fun current ↦
    current.leaseId == record.leaseId && current.generation == record.generation

/-- The request that names a record. -/
def requestFor (record : TemporaryDisplayRecord) : LeaseDisplayRequest where
  leaseId := record.leaseId
  displayId := record.displayId

/-- Forget the display, unless it is another one by now. -/
def removeIfCurrent (s : DisplayStore) (record : TemporaryDisplayRecord)
    (mode : RemoveTemporaryDisplayMode := .retainConnectorReservation) : DisplayStore :=
  if s.temporaryDisplayGenerationIsCurrent record then
    (s.removeTemporaryDisplay (requestFor record) mode).1
  else s

/-- Note that the departure has failed, unless the display is another one by now. -/
def markIfCurrent (s : DisplayStore) (record : TemporaryDisplayRecord) : DisplayStore :=
  if s.temporaryDisplayGenerationIsCurrent record then
    (s.markTemporaryDisplayPendingDeparture (requestFor record)).1
  else s

/-- What a departure leads to: the record goes with its monitor, is condemned when the backend
refused, and is left alone when the backend was never asked. -/
def settleDeparture (s : DisplayStore) (record : TemporaryDisplayRecord) :
    BackendError → DisplayStore
  | .none => s.removeIfCurrent record
  | .failed => s.markIfCurrent record
  | .busy => s

/-- What a refused healing departure leads to, and whether the record was abandoned: the proven
owner may evict it, otherwise it stays condemned. -/
def abandonOrMark (s : DisplayStore) (pendingRecord : TemporaryDisplayRecord) :
    Option OwnerCapability → DisplayStore × Bool
  | some ownerCapability =>
    let abandoned := s.abandonPendingTemporaryDisplay (requestFor pendingRecord)
      pendingRecord.generation ownerCapability
    if abandoned.2.error = .none then (abandoned.1, true)
    else ((abandoned.1.markTemporaryDisplayPendingDeparture (requestFor pendingRecord)).1, false)
  | none => ((s.markTemporaryDisplayPendingDeparture (requestFor pendingRecord)).1, false)

/-- The records a reaper pass goes through: those pending, then the others that have expired. -/
def reapCandidates (s : DisplayStore) (now : TimePoint) : List TemporaryDisplayRecord :=
  let pending := s.pendingDepartureTemporaryDisplays
  pending ++ (s.expiredTemporaryDisplays now).filter fun display ↦
    pending.all fun candidate ↦ candidate.displayId != display.displayId

end DisplayStore

namespace Controller

/-- The store after a stretch under the lock, and what comes next. -/
abbrev Turn := DisplayStore × Next Frame ControllerResult

/-- A create that returns with an error returns no result. -/
def createFailed (s : DisplayStore) (status : ControllerStatus) : Turn :=
  (s, .done (.create status {}))

/-! ## Creating -/

/-- `create_temporary_display_impl` from the store's create on, up to the first backend call. -/
def createRecord (s : DisplayStore) (call : CreateCall) : Turn :=
  let (s, created) :=
    match call.ownerCapability with
    | none => s.createTemporaryDisplay call.request call.now
    | some ownerCapability =>
      s.createTemporaryDisplayOwned { display := call.request, ownerCapability } call.now
  if created.status.error ≠ .none then createFailed s (fromStoreResult created.status)
  else
    match s.findTemporaryDisplay call.request.displayId with
    | none => createFailed s { storeError := .displayNotFound }
    | some record =>
      if record.retainIdentity then (s, .yield (.createReserve created.result record))
      else (s, .yield (.createArrive created.result record false))

/-- A create, up to its first backend call: a display whose departure has failed is healed first. -/
def createTemporaryDisplayImpl (s : DisplayStore) (call : CreateCall) : Turn :=
  match validateCreateTemporaryDisplay call.request with
  | .none =>
    match s.findTemporaryDisplay call.request.displayId with
    | some existing =>
      if existing.pendingDeparture then (s, .yield (.createHeal call existing))
      else createRecord s call
    | none => createRecord s call
  | error => createFailed s { storeError := .validationFailed, validationError := error }

/-- On from the reply to the healing departure. -/
def healed (s : DisplayStore) (call : CreateCall) (pendingRecord : TemporaryDisplayRecord) :
    BackendError → Turn
  | .none => createRecord (s.removeIfCurrent pendingRecord) call
  | .failed =>
    if s.temporaryDisplayGenerationIsCurrent pendingRecord then
      let (s, abandoned) := s.abandonOrMark pendingRecord call.ownerCapability
      if abandoned then createRecord s call else createFailed s { backendError := .failed }
    else createFailed s { backendError := .failed }
  | .busy => createFailed s { backendError := .busy }

/-- On from the reply to the reservation of the identity. -/
def reserved (s : DisplayStore) (created : CreateTemporaryDisplayResult)
    (createdRecord : TemporaryDisplayRecord) (error : BackendError) : Turn :=
  if error ≠ .none then
    createFailed (s.removeIfCurrent createdRecord .releaseConnectorReservation)
      { backendError := error }
  else if s.temporaryDisplayGenerationIsCurrent createdRecord then
    (s, .yield (.createArrive created createdRecord true))
  else (s, .yield (.createUnreserveGone createdRecord))

/-- On from the reply to the arrival. -/
def arrived (s : DisplayStore) (created : CreateTemporaryDisplayResult)
    (createdRecord : TemporaryDisplayRecord) (identityReserved : Bool)
    (reply : BackendDisplayResult) : Turn :=
  if reply.error ≠ .none then
    if identityReserved then (s, .yield (.createUnreserve createdRecord reply.error))
    else
      createFailed (s.removeIfCurrent createdRecord .releaseConnectorReservation)
        { backendError := reply.error }
  else
    match s.findTemporaryDisplay createdRecord.displayId with
    | none => (s, .yield (.createDepartGone createdRecord))
    | some arrivedRecord =>
      if arrivedRecord.leaseId ≠ createdRecord.leaseId ∨
          arrivedRecord.generation ≠ createdRecord.generation then
        (s, .yield (.createDepartGone createdRecord))
      else if arrivedRecord.pendingDeparture then
        (s, .yield (.createDepartPending createdRecord arrivedRecord))
      else
        (s, .done (.create {}
          { created with osAdapterLuid := reply.osAdapterLuid, targetId := reply.targetId }))

/-- The rollback of a failed arrival, on from the reply to the unreserve call. -/
def unreserved (s : DisplayStore) (createdRecord : TemporaryDisplayRecord)
    (arrivalError error : BackendError) : Turn :=
  let mode : RemoveTemporaryDisplayMode :=
    if error ≠ .none then .retainConnectorReservation else .releaseConnectorReservation
  createFailed (s.removeIfCurrent createdRecord mode) { backendError := arrivalError }

/-- On from the reply to the departure of a monitor whose record was condemned meanwhile. -/
def departedPending (s : DisplayStore) (arrivedRecord : TemporaryDisplayRecord)
    (error : BackendError) : Turn :=
  if error = .none then
    createFailed (s.removeIfCurrent arrivedRecord) { storeError := .displayNotFound }
  else createFailed s { backendError := error }

/-! ## Reclaiming, removing, releasing and reaping -/

/-- On from the slot: the reclaim itself takes the store only. -/
def reclaimed (s : DisplayStore) (request : ReclaimTemporaryDisplayRequest) (now : TimePoint)
    (error : BackendError) : Turn :=
  if error ≠ .none then (s, .done (.reclaim { backendError := error } {}))
  else
    let (s, reclaimed) := s.reclaimTemporaryDisplay request now
    (s, .done (.reclaim (fromStoreResult reclaimed.status) reclaimed.result))

/-- On from the departure of a removal: a display that is another one by now is left alone, and the
removal has failed. -/
def removed (s : DisplayStore) (request : LeaseDisplayRequest) (record : TemporaryDisplayRecord) :
    BackendError → Turn
  | .none =>
    if s.temporaryDisplayGenerationIsCurrent record then
      let (s, result) := s.removeTemporaryDisplay request
      (s, .done (.status (fromStoreResult result)))
    else (s, .done (.status { storeError := .displayNotFound }))
  | .failed =>
    let s :=
      if s.temporaryDisplayGenerationIsCurrent record then
        (s.markTemporaryDisplayPendingDeparture request).1
      else s
    (s, .done (.status { backendError := .failed }))
  | .busy => (s, .done (.status { backendError := .busy }))

/-- The loop of `release_lease`, at its head. -/
def releaseNext (s : DisplayStore) (backendError : BackendError) :
    List TemporaryDisplayRecord → Turn
  | [] => (s, .done (.status { backendError }))
  | display :: rest => (s, .yield (.releaseDepart display rest backendError))

/-- The error of a release so far: a failure stays, anything else gives way to the next error. -/
def worseError (backendError departError : BackendError) : BackendError :=
  if departError ≠ .none ∧ backendError ≠ .failed then departError else backendError

/-- The loop of `reap_expired`, at its head. -/
def reapNext (s : DisplayStore) (removed : UInt32) : List TemporaryDisplayRecord → Turn
  | [] => (s, .done (.reaped removed))
  | display :: rest => (s, .yield (.reapDepart display rest removed))

/-- The record was still current when its departure had succeeded, and could be removed. -/
def countsAsRemoved (s : DisplayStore) (display : TemporaryDisplayRecord) (error : BackendError) :
    Bool :=
  error == .none && s.temporaryDisplayGenerationIsCurrent display &&
    (s.removeTemporaryDisplay (DisplayStore.requestFor display)).2.error == .none

/-- A removal, up to the departure of its display. -/
def removeTemporaryDisplay (s : DisplayStore) (request : LeaseDisplayRequest) : Turn :=
  match validateLeaseDisplayRequest request with
  | .none =>
    match s.findTemporaryDisplay request.displayId with
    | none => (s, .done (.status { storeError := .displayNotFound }))
    | some record =>
      if record.leaseId ≠ request.leaseId then
        (s, .done (.status { storeError := .displayNotFound }))
      else (s, .yield (.removeDepart request record))
  | error => (s, .done (.status { storeError := .validationFailed, validationError := error }))

/-- A release, up to the departure of the first display of the lease. -/
def releaseLease (s : DisplayStore) (request : LeaseRequest) : Turn :=
  match validateLeaseRequest request with
  | .none =>
    match s.temporaryDisplaysForLease request.leaseId with
    | [] =>
      let (s, result) := s.releaseLease request
      (s, .done (.status (fromStoreResult result)))
    | displays => releaseNext s .none displays
  | error => (s, .done (.status { storeError := .validationFailed, validationError := error }))

/-- A reclaim, up to the slot. -/
def reclaimTemporaryDisplay (s : DisplayStore) (request : ReclaimTemporaryDisplayRequest)
    (now : TimePoint) : Turn :=
  match validateReclaimTemporaryDisplay request with
  | .none => (s, .yield (.reclaim request now))
  | error =>
    (s, .done (.reclaim { storeError := .validationFailed, validationError := error } {}))

/-! ## The manifest and the render adapter -/

/-- A manifest, up to the backend's call. -/
def applyDisplayManifest (s : DisplayStore) (manifest : DisplayManifest) : Turn :=
  match validateDisplayManifest manifest s.maxPermanentDisplays with
  | .none =>
    match canonicalDisplayManifest manifest with
    | none =>
      (s, .done (.status
        { storeError := .validationFailed, validationError := .invalidDisplayName }))
    | some canonical => (s, .yield (.applyDisplayManifest canonical))
  | error => (s, .done (.status { storeError := .validationFailed, validationError := error }))

/-- On from the backend's call: the store takes what the backend has taken. -/
def manifestApplied (s : DisplayStore) (canonical : DisplayManifest) (error : BackendError) :
    Turn :=
  if error ≠ .none then (s, .done (.status { backendError := error }))
  else
    let (s, result) := s.applyDisplayManifest canonical
    (s, .done (.status (fromStoreResult result)))

/-- The manifest of so many displays that are all alike. -/
def setPermanentDisplayCount (s : DisplayStore) (request : PermanentDisplayCountRequest) : Turn :=
  let normalized := setDefaultPermanentDisplaySettings request
  match validatePermanentDisplayCount normalized s.maxPermanentDisplays with
  | .none =>
    applyDisplayManifest s (displayManifestFromPermanentSettings normalized s.maxPermanentDisplays)
  | error => (s, .done (.status { storeError := .validationFailed, validationError := error }))

/-- The choice of an adapter, which leaves no trace in the store. -/
def setRenderAdapter (s : DisplayStore) (request : SetRenderAdapterRequest) : Turn :=
  if !isValidApiNamespace request.apiNamespace then
    (s, .done (.status
      { storeError := .validationFailed, validationError := .wrongApiNamespace }))
  else if request.flags ≠ 0 then
    (s, .done (.status { storeError := .validationFailed, validationError := .invalidFlags }))
  else (s, .yield (.setRenderAdapter request))

/-! ## The controller -/

/-- A call from its beginning. -/
def start (s : DisplayStore) : ControllerOp → Turn
  | .createTemporaryDisplay request now => createTemporaryDisplayImpl s { request, now }
  | .createTemporaryDisplayOwned request now =>
    match validateCreateTemporaryDisplayOwned request with
    | .none =>
      createTemporaryDisplayImpl s
        { request := request.display, ownerCapability := some request.ownerCapability, now }
    | error => createFailed s { storeError := .validationFailed, validationError := error }
  | .reclaimTemporaryDisplay request now => reclaimTemporaryDisplay s request now
  | .removeTemporaryDisplay request => removeTemporaryDisplay s request
  | .feedLease request now =>
    let (s, result) := s.feedLease request now
    (s, .done (.status (fromStoreResult result)))
  | .releaseLease request => releaseLease s request
  | .setPermanentDisplayCount request => setPermanentDisplayCount s request
  | .applyDisplayManifest manifest => applyDisplayManifest s manifest
  | .setRenderAdapter request => setRenderAdapter s request
  | .reapExpired now => reapNext s 0 (s.reapCandidates now)

/-- A call on from the reply to a backend call. -/
def resume (s : DisplayStore) (frame : Frame) (reply : BackendDisplayResult) : Turn :=
  match frame with
  | .createHeal call pendingRecord => healed s call pendingRecord reply.error
  | .createReserve created createdRecord => reserved s created createdRecord reply.error
  | .createUnreserveGone _ | .createDepartGone _ =>
    createFailed s { storeError := .displayNotFound }
  | .createArrive created createdRecord identityReserved =>
    arrived s created createdRecord identityReserved reply
  | .createUnreserve createdRecord arrivalError =>
    unreserved s createdRecord arrivalError reply.error
  | .createDepartPending _ arrivedRecord => departedPending s arrivedRecord reply.error
  | .reclaim request now => reclaimed s request now reply.error
  | .removeDepart request record => removed s request record reply.error
  | .releaseDepart display rest backendError =>
    releaseNext (s.settleDeparture display reply.error) (worseError backendError reply.error) rest
  | .reapDepart display rest removed =>
    reapNext (s.settleDeparture display reply.error)
      (if countsAsRemoved s display reply.error then removed + 1 else removed) rest
  | .applyDisplayManifest canonical => manifestApplied s canonical reply.error
  | .setRenderAdapter _ => (s, .done (.status { backendError := reply.error }))

end Controller

/-- The controller as calls that give up its lock around the backend's slot. -/
def controller :
    Program DisplayStore ControllerOp Frame BackendDisplayResult ControllerResult where
  start := Controller.start
  resume := Controller.resume
  busy := { error := .busy }

end VirtualDisplay
