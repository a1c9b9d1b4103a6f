import VirtualDisplay.Controller.Queries
import VirtualDisplay.Controller.Turns
import VirtualDisplay.LeaseStore.Renaming
import VirtualDisplay.Lib.Lockstep

/-!
# What a query of the displays says about leases

Two runs of the controller with the same calls and the same replies of the backend, in which the
leases and the owner capabilities have other names, stay in lockstep: each stretch of a call leads
from stores that are the same up to the names to such stores, and to the same point up to the names
(`lockstep`).  The state of the displays holds no lease id and no capability, so it is the same in
both (`queryDisplayState_renamed`).

The reply of the backend to each of its calls is the outcome of the event, so a list of events is
any calls, in any order, with any replies.

## What is here

* `Renaming.controllerOp`, `Renaming.frame` — a call and a frame under the other names.
* `start_sameTurn`, `resume_sameTurn` — each stretch, by the functions it calls; what the store does
  under other names is `LeaseStore/Renaming.lean`.
* `lockstep` — so the controller is in lockstep with itself, in the sense of `Lib/Lockstep.lean`.

The example exchanges two leases, and in its run the one takes over the display of the other.
-/

set_option autoImplicit false

namespace VirtualDisplay

open Std SlotCalls DisplayStore Controller

namespace Renaming

variable (ρ : Renaming)

/-! ## Renamed calls -/

/-- The create of another lease. -/
def createCall (call : CreateCall) : CreateCall :=
  { call with
    request := ρ.createRequest call.request
    ownerCapability := call.ownerCapability.map ρ.ownerCapability }

/-- The call under the other names. -/
def controllerOp : ControllerOp → ControllerOp
  | .createTemporaryDisplay request now => .createTemporaryDisplay (ρ.createRequest request) now
  | .createTemporaryDisplayOwned request now =>
    .createTemporaryDisplayOwned (ρ.createOwnedRequest request) now
  | .reclaimTemporaryDisplay request now => .reclaimTemporaryDisplay (ρ.reclaimRequest request) now
  | .removeTemporaryDisplay request => .removeTemporaryDisplay (ρ.leaseDisplayRequest request)
  | .feedLease request now => .feedLease (ρ.leaseRequest request) now
  | .releaseLease request => .releaseLease (ρ.leaseRequest request)
  | .setPermanentDisplayCount request => .setPermanentDisplayCount request
  | .applyDisplayManifest manifest => .applyDisplayManifest manifest
  | .setRenderAdapter request => .setRenderAdapter request
  | .reapExpired now => .reapExpired now

/-- The call where it is, under the other names. -/
def frame : Frame → Frame
  | .createHeal call pendingRecord => .createHeal (ρ.createCall call) (ρ.record pendingRecord)
  | .createReserve created createdRecord =>
    .createReserve (ρ.createResult created) (ρ.record createdRecord)
  | .createUnreserveGone createdRecord => .createUnreserveGone (ρ.record createdRecord)
  | .createArrive created createdRecord identityReserved =>
    .createArrive (ρ.createResult created) (ρ.record createdRecord) identityReserved
  | .createUnreserve createdRecord arrivalError =>
    .createUnreserve (ρ.record createdRecord) arrivalError
  | .createDepartGone createdRecord => .createDepartGone (ρ.record createdRecord)
  | .createDepartPending createdRecord arrivedRecord =>
    .createDepartPending (ρ.record createdRecord) (ρ.record arrivedRecord)
  | .reclaim request now => .reclaim (ρ.reclaimRequest request) now
  | .removeDepart request display =>
    .removeDepart (ρ.leaseDisplayRequest request) (ρ.record display)
  | .releaseDepart display rest backendError =>
    .releaseDepart (ρ.record display) (rest.map ρ.record) backendError
  | .reapDepart display rest removed =>
    .reapDepart (ρ.record display) (rest.map ρ.record) removed
  | .applyDisplayManifest canonical => .applyDisplayManifest canonical
  | .setRenderAdapter request => .setRenderAdapter request

/-- The turns lead to stores and frames that are the same up to the names. -/
abbrev SameTurn (turn turn' : Turn) : Prop := SlotCalls.SameTurn ρ.Renames ρ.frame turn turn'

variable {ρ} {s s' : DisplayStore}

/-! ## Records that are still current -/

theorem Renames.findTemporaryDisplay (h : ρ.Renames s s') (d : UInt64) :
    s'.findTemporaryDisplay d = (s.findTemporaryDisplay d).map ρ.record := by
  obtain ⟨leases, -, rfl⟩ := h
  exact findTemporaryDisplay_store d

theorem Renames.generationIsCurrent (h : ρ.Renames s s') (r : TemporaryDisplayRecord) :
    s'.temporaryDisplayGenerationIsCurrent (ρ.record r) =
      s.temporaryDisplayGenerationIsCurrent r := by
  rw [temporaryDisplayGenerationIsCurrent, temporaryDisplayGenerationIsCurrent,
    h.findTemporaryDisplay, Option.any_map]
  congr 1
  funext current
  exact congrArg (· && current.generation == r.generation) (leaseId_beq current.leaseId r.leaseId)

theorem Renames.removeIfCurrent (h : ρ.Renames s s') (r : TemporaryDisplayRecord)
    (mode : RemoveTemporaryDisplayMode) :
    ρ.Renames (s.removeIfCurrent r mode) (s'.removeIfCurrent (ρ.record r) mode) := by
  rw [DisplayStore.removeIfCurrent, DisplayStore.removeIfCurrent, h.generationIsCurrent]
  split_ifs
  · exact (removeTemporaryDisplay_follows h (requestFor r) mode).1
  · exact h

theorem Renames.markIfCurrent (h : ρ.Renames s s') (r : TemporaryDisplayRecord) :
    ρ.Renames (s.markIfCurrent r) (s'.markIfCurrent (ρ.record r)) := by
  rw [DisplayStore.markIfCurrent, DisplayStore.markIfCurrent, h.generationIsCurrent]
  split_ifs
  · exact (markTemporaryDisplayPendingDeparture_follows h (requestFor r)).1
  · exact h

theorem Renames.settleDeparture (h : ρ.Renames s s') (r : TemporaryDisplayRecord)
    (error : BackendError) :
    ρ.Renames (s.settleDeparture r error) (s'.settleDeparture (ρ.record r) error) := by
  cases error with
  | none => exact h.removeIfCurrent r _
  | failed => exact h.markIfCurrent r
  | busy => exact h

theorem abandonOrMark_follows (h : ρ.Renames s s') (pendingRecord : TemporaryDisplayRecord)
    (capability : Option OwnerCapability) :
    ρ.Follows id (s.abandonOrMark pendingRecord capability)
      (s'.abandonOrMark (ρ.record pendingRecord) (capability.map ρ.ownerCapability)) := by
  cases capability with
  | none =>
    exact ⟨(markTemporaryDisplayPendingDeparture_follows h (requestFor pendingRecord)).1, rfl⟩
  | some capability =>
    obtain ⟨hstore, hresult⟩ := abandonPendingTemporaryDisplay_follows h
      (requestFor pendingRecord) pendingRecord.generation capability
    have hmarked := markTemporaryDisplayPendingDeparture_follows hstore (requestFor pendingRecord)
    have hrequest : requestFor (ρ.record pendingRecord) =
        ρ.leaseDisplayRequest (requestFor pendingRecord) := rfl
    rw [abandonOrMark.eq_def, abandonOrMark.eq_def]
    dsimp only [Option.map_some]
    rw [hrequest, hresult, id_eq]
    split_ifs
    · exact ⟨hstore, rfl⟩
    · exact ⟨hmarked.1, rfl⟩

theorem Renames.reapCandidates (h : ρ.Renames s s') (now : TimePoint) :
    s'.reapCandidates now = (s.reapCandidates now).map ρ.record := by
  obtain ⟨leases, -, rfl⟩ := h
  rw [DisplayStore.reapCandidates, DisplayStore.reapCandidates,
    pendingDepartureTemporaryDisplays_store, expiredTemporaryDisplays_store, List.map_append,
    List.filter_map]
  congr 3
  funext display
  rw [Function.comp_apply, List.all_map]
  rfl

/-! ## One stretch of a call -/

theorem yields (h : ρ.Renames s s') (f : Frame) :
    ρ.SameTurn (s, .yield f) (s', .yield (ρ.frame f)) := .yield h f

theorem storeCreate_follows (h : ρ.Renames s s') (call : CreateCall) :
    ρ.Follows ρ.createStoreResult (storeCreate s call) (storeCreate s' (ρ.createCall call)) := by
  rw [storeCreate.eq_def, storeCreate.eq_def]
  dsimp only [createCall]
  cases call.ownerCapability with
  | none => exact createTemporaryDisplayImpl_follows h call.request none call.now
  | some ownerCapability =>
    exact createTemporaryDisplayOwned_follows h { display := call.request, ownerCapability }
      call.now

theorem createRecord_sameTurn (h : ρ.Renames s s') (call : CreateCall) :
    ρ.SameTurn (createRecord s call) (createRecord s' (ρ.createCall call)) := by
  obtain ⟨hstore, hresult⟩ := storeCreate_follows h call
  have hid : (ρ.createCall call).request.displayId = call.request.displayId := rfl
  rw [createRecord_eq, createRecord_eq, hid, hstore.findTemporaryDisplay, hresult]
  by_cases herror : (storeCreate s call).2.status.error = .none
  · rw [createStoreResult, if_pos herror]
    dsimp only
    rw [if_neg (not_not.mpr herror), if_neg (not_not.mpr herror)]
    cases (storeCreate s call).1.findTemporaryDisplay call.request.displayId with
    | none => exact .done hstore _ _
    | some record =>
      dsimp only [Option.map_some]
      split_ifs
      · exact yields hstore (.createReserve (storeCreate s call).2.result record)
      · exact yields hstore (.createArrive (storeCreate s call).2.result record false)
  · rw [createStoreResult, if_neg herror, if_pos herror, if_pos herror]
    exact .done hstore _ _

theorem createTemporaryDisplayImpl_sameTurn (h : ρ.Renames s s') (call : CreateCall) :
    ρ.SameTurn (Controller.createTemporaryDisplayImpl s call)
      (Controller.createTemporaryDisplayImpl s' (ρ.createCall call)) := by
  have hcreate := createRecord_sameTurn h call
  have hrequest : (ρ.createCall call).request = ρ.createRequest call.request := rfl
  rw [Controller.createTemporaryDisplayImpl.eq_def, Controller.createTemporaryDisplayImpl.eq_def,
    hrequest, validate_createRequest]
  cases validateCreateTemporaryDisplay call.request
  case none =>
    dsimp only [createRequest]
    rw [h.findTemporaryDisplay]
    cases s.findTemporaryDisplay call.request.displayId with
    | none => exact hcreate
    | some existing =>
      dsimp only [Option.map_some]
      split_ifs
      · exact yields h (.createHeal call existing)
      · exact hcreate
  all_goals exact .done h _ _

theorem healed_sameTurn (h : ρ.Renames s s') (call : CreateCall)
    (pendingRecord : TemporaryDisplayRecord) (error : BackendError) :
    ρ.SameTurn (healed s call pendingRecord error)
      (healed s' (ρ.createCall call) (ρ.record pendingRecord) error) := by
  cases error with
  | none => exact createRecord_sameTurn (h.removeIfCurrent pendingRecord _) call
  | failed =>
    have hcapability : (ρ.createCall call).ownerCapability =
        call.ownerCapability.map ρ.ownerCapability := rfl
    obtain ⟨hstore, habandoned⟩ := abandonOrMark_follows h pendingRecord call.ownerCapability
    rw [healed, healed, h.generationIsCurrent, hcapability]
    dsimp only
    rw [habandoned, id_eq]
    split_ifs
    · exact createRecord_sameTurn hstore call
    · exact .done hstore _ _
    · exact .done h _ _
  | busy => exact .done h _ _

theorem reserved_sameTurn (h : ρ.Renames s s') (created : CreateTemporaryDisplayResult)
    (createdRecord : TemporaryDisplayRecord) (error : BackendError) :
    ρ.SameTurn (reserved s created createdRecord error)
      (reserved s' (ρ.createResult created) (ρ.record createdRecord) error) := by
  rw [reserved, reserved, h.generationIsCurrent]
  split_ifs
  · exact .done (h.removeIfCurrent createdRecord _) _ _
  · exact yields h (.createArrive created createdRecord true)
  · exact yields h (.createUnreserveGone createdRecord)

theorem arrived_sameTurn (h : ρ.Renames s s') (created : CreateTemporaryDisplayResult)
    (createdRecord : TemporaryDisplayRecord) (identityReserved : Bool)
    (reply : BackendDisplayResult) :
    ρ.SameTurn (arrived s created createdRecord identityReserved reply)
      (arrived s' (ρ.createResult created) (ρ.record createdRecord) identityReserved reply) := by
  rw [arrived, arrived, h.findTemporaryDisplay]
  split_ifs
  · exact yields h (.createUnreserve createdRecord reply.error)
  · exact .done (h.removeIfCurrent createdRecord _) _ _
  · cases s.findTemporaryDisplay createdRecord.displayId with
    | none => exact yields h (.createDepartGone createdRecord)
    | some arrivedRecord =>
      simp only [Option.map_some, ne_eq, leaseId_inj]
      split_ifs
      · exact yields h (.createDepartGone createdRecord)
      · exact yields h (.createDepartPending createdRecord arrivedRecord)
      · exact .done h _ _

theorem departedPending_sameTurn (h : ρ.Renames s s') (arrivedRecord : TemporaryDisplayRecord)
    (error : BackendError) :
    ρ.SameTurn (departedPending s arrivedRecord error)
      (departedPending s' (ρ.record arrivedRecord) error) := by
  rw [departedPending, departedPending]
  split_ifs
  · exact .done (h.removeIfCurrent arrivedRecord _) _ _
  · exact .done h _ _

theorem removed_sameTurn (h : ρ.Renames s s') (request : LeaseDisplayRequest)
    (r : TemporaryDisplayRecord) (error : BackendError) :
    ρ.SameTurn (removed s request r error)
      (removed s' (ρ.leaseDisplayRequest request) (ρ.record r) error) := by
  cases error with
  | none =>
    rw [removed, removed, h.generationIsCurrent]
    dsimp only
    split_ifs
    · exact .done (removeTemporaryDisplay_follows h request _).1 _ _
    · exact .done h _ _
  | failed =>
    rw [removed, removed, h.generationIsCurrent]
    split_ifs
    · exact .done (markTemporaryDisplayPendingDeparture_follows h request).1 _ _
    · exact .done h _ _
  | busy => exact .done h _ _

theorem releaseNext_sameTurn (h : ρ.Renames s s') (backendError : BackendError)
    (displays : List TemporaryDisplayRecord) :
    ρ.SameTurn (releaseNext s backendError displays)
      (releaseNext s' backendError (displays.map ρ.record)) := by
  cases displays with
  | nil => exact .done h _ _
  | cons display rest => exact yields h (.releaseDepart display rest backendError)

theorem reapNext_sameTurn (h : ρ.Renames s s') (removed : UInt32)
    (displays : List TemporaryDisplayRecord) :
    ρ.SameTurn (reapNext s removed displays) (reapNext s' removed (displays.map ρ.record)) := by
  cases displays with
  | nil => exact .done h _ _
  | cons display rest => exact yields h (.reapDepart display rest removed)

theorem countsAsRemoved_eq (h : ρ.Renames s s') (display : TemporaryDisplayRecord)
    (error : BackendError) :
    countsAsRemoved s' (ρ.record display) error = countsAsRemoved s display error := by
  have hresult := (removeTemporaryDisplay_follows h (requestFor display)
    .retainConnectorReservation).2
  rw [id_eq] at hresult
  rw [countsAsRemoved, countsAsRemoved, h.generationIsCurrent, ← hresult]
  rfl

theorem removeTemporaryDisplay_sameTurn (h : ρ.Renames s s') (request : LeaseDisplayRequest) :
    ρ.SameTurn (Controller.removeTemporaryDisplay s request)
      (Controller.removeTemporaryDisplay s' (ρ.leaseDisplayRequest request)) := by
  rw [Controller.removeTemporaryDisplay.eq_def, Controller.removeTemporaryDisplay.eq_def,
    validate_leaseDisplayRequest]
  cases validateLeaseDisplayRequest request
  case none =>
    dsimp only [leaseDisplayRequest]
    rw [h.findTemporaryDisplay]
    cases s.findTemporaryDisplay request.displayId with
    | none => exact .done h _ _
    | some display =>
      simp only [Option.map_some, ne_eq, leaseId_inj]
      split_ifs
      · exact yields h (.removeDepart request display)
      · exact .done h _ _
  all_goals exact .done h _ _

theorem releaseLease_sameTurn (h : ρ.Renames s s') (request : LeaseRequest) :
    ρ.SameTurn (Controller.releaseLease s request)
      (Controller.releaseLease s' (ρ.leaseRequest request)) := by
  have hreleased := releaseLease_follows h request
  have hdisplays : s'.temporaryDisplaysForLease (ρ.leaseId request.leaseId) =
      (s.temporaryDisplaysForLease request.leaseId).map ρ.record := by
    obtain ⟨leases, -, rfl⟩ := h
    exact temporaryDisplaysForLease_store request.leaseId
  rw [Controller.releaseLease.eq_def, Controller.releaseLease.eq_def, validate_leaseRequest]
  cases validateLeaseRequest request
  case none =>
    dsimp only [leaseRequest]
    rw [hdisplays]
    cases s.temporaryDisplaysForLease request.leaseId with
    | nil => exact .done hreleased.1 _ _
    | cons display rest => exact releaseNext_sameTurn h .none (display :: rest)
  all_goals exact .done h _ _

theorem reclaimTemporaryDisplay_sameTurn (h : ρ.Renames s s')
    (request : ReclaimTemporaryDisplayRequest) (now : TimePoint) :
    ρ.SameTurn (Controller.reclaimTemporaryDisplay s request now)
      (Controller.reclaimTemporaryDisplay s' (ρ.reclaimRequest request) now) := by
  rw [Controller.reclaimTemporaryDisplay.eq_def, Controller.reclaimTemporaryDisplay.eq_def,
    validate_reclaimRequest]
  cases validateReclaimTemporaryDisplay request
  case none => exact yields h (.reclaim request now)
  all_goals exact .done h _ _

theorem applyDisplayManifest_sameTurn (h : ρ.Renames s s') (manifest : DisplayManifest) :
    ρ.SameTurn (Controller.applyDisplayManifest s manifest)
      (Controller.applyDisplayManifest s' manifest) := by
  have hlimit : s'.maxPermanentDisplays = s.maxPermanentDisplays := by
    obtain ⟨leases, -, rfl⟩ := h
    rfl
  rw [Controller.applyDisplayManifest.eq_def, Controller.applyDisplayManifest.eq_def, hlimit]
  cases validateDisplayManifest manifest s.maxPermanentDisplays
  case none =>
    cases canonicalDisplayManifest manifest with
    | none => exact .done h _ _
    | some canonical => exact yields h (.applyDisplayManifest canonical)
  all_goals exact .done h _ _

theorem setPermanentDisplayCount_sameTurn (h : ρ.Renames s s')
    (request : PermanentDisplayCountRequest) :
    ρ.SameTurn (Controller.setPermanentDisplayCount s request)
      (Controller.setPermanentDisplayCount s' request) := by
  have hlimit : s'.maxPermanentDisplays = s.maxPermanentDisplays := by
    obtain ⟨leases, -, rfl⟩ := h
    rfl
  rw [Controller.setPermanentDisplayCount.eq_def, Controller.setPermanentDisplayCount.eq_def,
    hlimit]
  dsimp only
  cases validatePermanentDisplayCount (setDefaultPermanentDisplaySettings request)
    s.maxPermanentDisplays
  case none => exact applyDisplayManifest_sameTurn h _
  all_goals exact .done h _ _

theorem start_sameTurn (h : ρ.Renames s s') (op : ControllerOp) :
    ρ.SameTurn (start s op) (start s' (ρ.controllerOp op)) := by
  cases op with
  | createTemporaryDisplay request now =>
    exact createTemporaryDisplayImpl_sameTurn h { request, now }
  | createTemporaryDisplayOwned request now =>
    rw [controllerOp, start.eq_def, start.eq_def]
    dsimp only
    rw [validate_createOwnedRequest]
    cases validateCreateTemporaryDisplayOwned request
    case none =>
      exact createTemporaryDisplayImpl_sameTurn h
        { request := request.display, ownerCapability := some request.ownerCapability, now }
    all_goals exact .done h _ _
  | reclaimTemporaryDisplay request now => exact reclaimTemporaryDisplay_sameTurn h request now
  | removeTemporaryDisplay request => exact removeTemporaryDisplay_sameTurn h request
  | feedLease request now => exact .done (feedLease_follows h request now).1 _ _
  | releaseLease request => exact releaseLease_sameTurn h request
  | setPermanentDisplayCount request => exact setPermanentDisplayCount_sameTurn h request
  | applyDisplayManifest manifest => exact applyDisplayManifest_sameTurn h manifest
  | setRenderAdapter request =>
    rw [controllerOp, start, start, setRenderAdapter, setRenderAdapter]
    split_ifs
    · exact .done h _ _
    · exact .done h _ _
    · exact yields h (.setRenderAdapter request)
  | reapExpired now =>
    rw [controllerOp, start, start, h.reapCandidates]
    exact reapNext_sameTurn h 0 (s.reapCandidates now)

theorem resume_sameTurn (h : ρ.Renames s s') (f : Frame) (reply : BackendDisplayResult) :
    ρ.SameTurn (resume s f reply) (resume s' (ρ.frame f) reply) := by
  cases f with
  | createHeal call pendingRecord => exact healed_sameTurn h call pendingRecord reply.error
  | createReserve created createdRecord =>
    exact reserved_sameTurn h created createdRecord reply.error
  | createUnreserveGone createdRecord => exact .done h _ _
  | createArrive created createdRecord identityReserved =>
    exact arrived_sameTurn h created createdRecord identityReserved reply
  | createUnreserve createdRecord arrivalError =>
    exact .done (h.removeIfCurrent createdRecord _) _ _
  | createDepartGone createdRecord => exact .done h _ _
  | createDepartPending createdRecord arrivedRecord =>
    exact departedPending_sameTurn h arrivedRecord reply.error
  | reclaim request now =>
    rw [frame, resume, resume, reclaimed, reclaimed]
    split_ifs
    · exact .done h _ _
    · exact .done (reclaimTemporaryDisplay_renames h request now) _ _
  | removeDepart request display => exact removed_sameTurn h request display reply.error
  | releaseDepart display rest backendError =>
    exact releaseNext_sameTurn (h.settleDeparture display reply.error) _ rest
  | reapDepart display rest removed =>
    rw [frame, resume, resume, countsAsRemoved_eq h]
    exact reapNext_sameTurn (h.settleDeparture display reply.error) _ rest
  | applyDisplayManifest canonical =>
    rw [frame, resume, resume, manifestApplied, manifestApplied]
    split_ifs
    · exact .done h _ _
    · exact .done (applyDisplayManifest_follows h canonical).1 _ _
  | setRenderAdapter request => exact .done h _ _

/-- The backend as nothing but its replies. -/
def replies : Device Unit Frame BackendDisplayResult BackendDisplayResult where
  serve _ _ reply := some ((), reply)

/-- The controller stays in lockstep with itself under other names. -/
theorem lockstep (ρ : Renaming) :
    Lockstep controller controller replies replies ρ.Renames ρ.controllerOp ρ.frame where
  start _ _ op h := start_sameTurn h op
  resume _ _ f reply h := resume_sameTurn h f reply
  busy := rfl
  serve _ _ _ := rfl

/-! ## The state of the displays -/

theorem Renames.queryDisplayState (h : ρ.Renames s s') :
    s'.queryDisplayState = s.queryDisplayState := by
  obtain ⟨leases, -, rfl⟩ := h
  have hentries : (s.temporaryDisplays.map ρ.record).map stateEntryFromRecord =
      s.temporaryDisplays.map stateEntryFromRecord := List.map_map
  have hcount : (ρ.store s leases).temporaryDisplayCount = s.temporaryDisplayCount :=
    congrArg Nat.toUInt32 size_store
  rw [DisplayStore.queryDisplayState, DisplayStore.queryDisplayState, temporaryDisplays_store,
    hentries, hcount]
  rfl

/-- The controller on a store, with no call under way. -/
def idleOn (locked : DisplayStore) :
    System DisplayStore Unit ControllerOp Frame BackendDisplayResult where
  locked
  device := ()

end Renaming

/-- Whatever the leases and the capabilities are called, the same calls with the same replies lead
to the same state of the displays. -/
theorem queryDisplayState_renamed (ρ : Renaming)
    (maxPermanentDisplays maxTemporaryDisplays : UInt32) (reservations : OrdMap UInt64 UInt32)
    (manifest : Option DisplayManifest)
    (events : List (Event ControllerOp BackendDisplayResult)) :
    let first := Renaming.idleOn
      (.new maxPermanentDisplays maxTemporaryDisplays reservations manifest)
    (execute controller Renaming.replies (fun _ _ ↦ true) first
        (events.map (Event.rename ρ.controllerOp))).map (·.locked.queryDisplayState) =
      (execute controller Renaming.replies (fun _ _ ↦ true) first events).map
        (·.locked.queryDisplayState) := by
  intro first
  obtain ⟨hrecords, hleases, -⟩ :=
    new_fresh maxPermanentDisplays maxTemporaryDisplays reservations manifest
  have hpaired : Paired ρ.Renames ρ.controllerOp ρ.frame first first :=
    { locked := Renaming.renames_self hrecords hleases
      device := rfl
      calls := fun id ↦ by simp [first, Renaming.idleOn] }
  have hrun := ρ.lockstep.execute hpaired events
  generalize execute controller Renaming.replies (fun _ _ ↦ true) first events = final at hrun
  generalize execute controller Renaming.replies (fun _ _ ↦ true) first
    (events.map (Event.rename ρ.controllerOp)) = final' at hrun
  cases hrun with
  | none => rfl
  | some hpaired => exact congrArg some hpaired.locked.queryDisplayState

/-- The first two leases, and two capabilities, in each other's place. -/
def exampleRenaming : Renaming :=
  .exchanging kMinOpaqueLeaseId (kMinOpaqueLeaseId + 1) exampleCapability
    { bytes := Vector.replicate _ 9 } (by decide) (by decide) (by decide) (by decide)

/-- An owned create of display 1 under the first lease, and its reclaim to the second one. -/
def exampleTakeover : List (Event ControllerOp BackendDisplayResult) :=
  [.start 0 (.createTemporaryDisplayOwned
      { display := exampleRequest kMinOpaqueLeaseId 1, ownerCapability := exampleCapability } 0),
    .serve 0 {}, .relock 0, .serve 0 {}, .relock 0,
    .start 1 (.reclaimTemporaryDisplay
      { displayId := 1, newLeaseId := kMinOpaqueLeaseId + 1,
        ownerCapability := exampleCapability } 0),
    .serve 1 {}, .relock 1]

/-- The display is reclaimed to the second lease in one run and to the first one in the other, and
both show the one display. -/
theorem queryDisplayState_exchanged :
    let first := Renaming.idleOn (.new 0 4)
    let final := execute controller Renaming.replies (fun _ _ ↦ true) first exampleTakeover
    let final' := execute controller Renaming.replies (fun _ _ ↦ true) first
      (exampleTakeover.map (Event.rename exampleRenaming.controllerOp))
    final'.map (·.locked.queryDisplayState) = final.map (·.locked.queryDisplayState) ∧
      final.any (fun s ↦ s.locked.leasesById.contains (kMinOpaqueLeaseId + 1) &&
        s.locked.queryDisplayState.temporaryDisplayCount == 1) ∧
      final'.any (fun s ↦ s.locked.leasesById.contains kMinOpaqueLeaseId &&
        s.locked.queryDisplayState.temporaryDisplayCount == 1) :=
  ⟨queryDisplayState_renamed exampleRenaming 0 4 ∅ none exampleTakeover, by decide, by decide⟩

end VirtualDisplay
