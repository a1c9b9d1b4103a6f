import VirtualDisplay.Controller.Turns

/-!
# What a frame carries

The locals of a frame are read in one stretch and used in the next, with any number of other calls
in between.  `StartYield` and `ResumeYield` list the frames a call can give up the lock at, each
with the state its locals were read in; `start_yield` and `resume_yield` say that the lists are
complete.

From the lists follow `WellFormed`, the facts about the locals alone that can be relied on across
the gap, and `StartYield.records` and `ResumeYield.records`, which say where the records among the
locals come from.  The lemmas about `unarrived` and `departing` frames say what their next stretch
does to the record they are about.

## What is here

* `StartYield`, `ResumeYield` — one constructor for each point at which a call gives up the lock.
* `WellFormed` — a frame's records fit together: the record that a create goes on with is the one
  that it has created, and so on.
* `resume_departing`, `settleDeparture_settles` — the stretch after a departure: it removes the
  record that was condemned, or marks it, and if the display has been given to somebody else it
  leaves it alone.
* `resume_unarrived` — the stretch after an arrival.
* `rolledBack?` — the record that a create gives up on a reply.

A snapshot may be out of date by the time its call goes on.  Nothing here says that it is not.
-/

set_option autoImplicit false

namespace VirtualDisplay

open Std SlotCalls DisplayStore

/-- The arguments an operation gives to `create_temporary_display_impl`. -/
def ControllerOp.createCall? : ControllerOp → Option CreateCall
  | createTemporaryDisplay request now => some { request, now }
  | createTemporaryDisplayOwned request now =>
    some { request := request.display, ownerCapability := some request.ownerCapability, now }
  | _ => none

namespace Controller

variable {s s' : DisplayStore}

/-! ## Where a call first gives up the lock -/

/-- The frame a create waits at once its record is written. -/
def createdFrame (created : CreateTemporaryDisplayResult) (record : TemporaryDisplayRecord) :
    Frame :=
  if record.retainIdentity then .createReserve created record
  else .createArrive created record false

@[simp] theorem createdFrame_records (created : CreateTemporaryDisplayResult)
    (record : TemporaryDisplayRecord) : (createdFrame created record).records = [record] := by
  rw [createdFrame]
  split_ifs <;> rfl

@[simp] theorem createdFrame_unarrived (created : CreateTemporaryDisplayResult)
    (record : TemporaryDisplayRecord) : (createdFrame created record).unarrived = some record := by
  rw [createdFrame]
  split_ifs <;> rfl

/-- The store and the frame at which a call first gives up the lock. -/
inductive StartYield (s : DisplayStore) : ControllerOp → DisplayStore → Frame → Prop where
  | heals {op : ControllerOp} {call : CreateCall} {existing : TemporaryDisplayRecord}
      (creates : op.createCall? = some call)
      (present : s.displaysById[call.request.displayId]? = some existing)
      (pending : existing.pendingDeparture = true) :
    StartYield s op s (.createHeal call existing)
  | creates {op : ControllerOp} {call : CreateCall} {created : CreateTemporaryDisplayResult}
      {record : TemporaryDisplayRecord} {s' : DisplayStore}
      (creates : op.createCall? = some call) (written : RecordCreated s s' record)
      (display : record.displayId = call.request.displayId)
      (lease : record.leaseId = call.request.leaseId) :
    StartYield s op s' (createdFrame created record)
  | reclaims {request : ReclaimTemporaryDisplayRequest} {now : TimePoint} :
    StartYield s (.reclaimTemporaryDisplay request now) s (.reclaim request now)
  | removes {request : LeaseDisplayRequest} {record : TemporaryDisplayRecord}
      (valid : validateLeaseDisplayRequest request = .none)
      (present : s.displaysById[request.displayId]? = some record)
      (lease : record.leaseId = request.leaseId) :
    StartYield s (.removeTemporaryDisplay request) s (.removeDepart request record)
  | releases {request : LeaseRequest} {display : TemporaryDisplayRecord}
      {rest : List TemporaryDisplayRecord}
      (listed : s.temporaryDisplaysForLease request.leaseId = display :: rest) :
    StartYield s (.releaseLease request) s (.releaseDepart display rest .none)
  | reaps {now : TimePoint} {display : TemporaryDisplayRecord}
      {rest : List TemporaryDisplayRecord}
      (listed : s.reapCandidates now = display :: rest) :
    StartYield s (.reapExpired now) s (.reapDepart display rest 0)
  | manifests {op : ControllerOp} {canonical : DisplayManifest} (creates : op.createCall? = none) :
    StartYield s op s (.applyDisplayManifest canonical)
  | adapters {request : SetRenderAdapterRequest} :
    StartYield s (.setRenderAdapter request) s (.setRenderAdapter request)

theorem createRecord_yield {call : CreateCall} {frame : Frame}
    (h : createRecord s call = (s', .yield frame)) :
    ∃ created record, frame = createdFrame created record ∧ RecordCreated s s' record ∧
      record.displayId = call.request.displayId ∧ record.leaseId = call.request.leaseId := by
  rcases createRecord_cases s call with
    ⟨created, record, hwritten, hd, hlease, hnext⟩ | ⟨⟨status, hnext⟩, -⟩
  · rw [h] at hwritten hnext
    cases hnext
    exact ⟨created, record, rfl, hwritten, hd, hlease⟩
  · rw [h] at hnext
    cases hnext

theorem createTemporaryDisplayImpl_yield {op : ControllerOp} {call : CreateCall} {frame : Frame}
    (hop : op.createCall? = some call)
    (h : createTemporaryDisplayImpl s call = (s', .yield frame)) : StartYield s op s' frame := by
  have hcreate (h : createRecord s call = (s', .yield frame)) : StartYield s op s' frame := by
    rcases createRecord_yield h with ⟨created, record, rfl, hwritten, hd, hlease⟩
    exact .creates hop hwritten hd hlease
  rw [createTemporaryDisplayImpl] at h
  split at h
  · split at h
    · rename_i existing hexisting
      split_ifs at h with hpending
      · cases h
        exact .heals hop hexisting hpending
      · exact hcreate h
    · exact hcreate h
  · cases h

theorem applyDisplayManifest_yield {op : ControllerOp} {manifest : DisplayManifest} {frame : Frame}
    (hop : op.createCall? = none) (h : applyDisplayManifest s manifest = (s', .yield frame)) :
    StartYield s op s' frame := by
  rw [applyDisplayManifest] at h
  split at h
  · split at h
    · cases h
    · cases h
      exact .manifests hop
  · cases h

theorem start_yield {op : ControllerOp} {frame : Frame} (h : start s op = (s', .yield frame)) :
    StartYield s op s' frame := by
  cases op with
  | createTemporaryDisplay request now => exact createTemporaryDisplayImpl_yield rfl h
  | createTemporaryDisplayOwned request now =>
    rw [start] at h
    split at h
    · exact createTemporaryDisplayImpl_yield rfl h
    · cases h
  | reclaimTemporaryDisplay request now =>
    rw [start, reclaimTemporaryDisplay] at h
    cases hvalid : validateReclaimTemporaryDisplay request with
    | none =>
      rw [hvalid] at h
      cases h
      exact .reclaims
    | _ =>
      rw [hvalid] at h
      cases h
  | removeTemporaryDisplay request =>
    rw [start, removeTemporaryDisplay] at h
    split at h
    · rename_i hvalid
      split at h
      · cases h
      · rename_i record hrecord
        split_ifs at h with hlease
        · cases h
        · cases h
          exact .removes hvalid hrecord (not_not.mp hlease)
    · cases h
  | feedLease request now => cases h
  | releaseLease request =>
    rw [start, releaseLease] at h
    split at h
    · split at h
      · cases h
      · rename_i displays hdisplays
        cases hlisted : s.temporaryDisplaysForLease request.leaseId with
        | nil => exact absurd hlisted hdisplays
        | cons display rest =>
          rw [hlisted] at h
          cases h
          exact .releases hlisted
    · cases h
  | setPermanentDisplayCount request =>
    simp only [start, setPermanentDisplayCount] at h
    split at h
    · exact applyDisplayManifest_yield rfl h
    · cases h
  | applyDisplayManifest manifest => exact applyDisplayManifest_yield rfl h
  | setRenderAdapter request =>
    rw [start, setRenderAdapter] at h
    split_ifs at h
    · cases h
    · cases h
    · cases h
      exact .adapters
  | reapExpired now =>
    rw [start] at h
    cases hlisted : s.reapCandidates now with
    | nil =>
      rw [hlisted] at h
      cases h
    | cons display rest =>
      rw [hlisted] at h
      cases h
      exact .reaps hlisted

/-! ## Where a call gives up the lock again -/

/-- The store and the frame at which a call gives up the lock again after a reply. -/
inductive ResumeYield (s : DisplayStore) :
    Frame → BackendDisplayResult → DisplayStore → Frame → Prop where
  /-- The condemned record has gone, or was abandoned to its owner, and a new one is written. -/
  | healed {call : CreateCall} {pendingRecord : TemporaryDisplayRecord}
      {reply : BackendDisplayResult} {created : CreateTemporaryDisplayResult}
      {record : TemporaryDisplayRecord} {s₁ s' : DisplayStore}
      (kept : (reply.error = .none ∧ s₁ = s.removeIfCurrent pendingRecord) ∨
        (reply.error = .failed ∧ s.temporaryDisplayGenerationIsCurrent pendingRecord = true ∧
          s.abandonOrMark pendingRecord call.ownerCapability = (s₁, true)))
      (written : RecordCreated s₁ s' record) (display : record.displayId = call.request.displayId)
      (lease : record.leaseId = call.request.leaseId) :
    ResumeYield s (.createHeal call pendingRecord) reply s' (createdFrame created record)
  | reserved {created : CreateTemporaryDisplayResult} {createdRecord : TemporaryDisplayRecord}
      {reply : BackendDisplayResult} (ok : reply.error = .none)
      (current : s.temporaryDisplayGenerationIsCurrent createdRecord = true) :
    ResumeYield s (.createReserve created createdRecord) reply s
      (.createArrive created createdRecord true)
  | reservedGone {created : CreateTemporaryDisplayResult} {createdRecord : TemporaryDisplayRecord}
      {reply : BackendDisplayResult} (ok : reply.error = .none)
      (gone : s.temporaryDisplayGenerationIsCurrent createdRecord = false) :
    ResumeYield s (.createReserve created createdRecord) reply s
      (.createUnreserveGone createdRecord)
  | arrivalFailed {created : CreateTemporaryDisplayResult} {createdRecord : TemporaryDisplayRecord}
      {reply : BackendDisplayResult} (failed : reply.error ≠ .none) :
    ResumeYield s (.createArrive created createdRecord true) reply s
      (.createUnreserve createdRecord reply.error)
  | arrivedGone {created : CreateTemporaryDisplayResult} {createdRecord : TemporaryDisplayRecord}
      {identityReserved : Bool} {reply : BackendDisplayResult} (ok : reply.error = .none)
      (gone : s.temporaryDisplayGenerationIsCurrent createdRecord = false) :
    ResumeYield s (.createArrive created createdRecord identityReserved) reply s
      (.createDepartGone createdRecord)
  | arrivedPending {created : CreateTemporaryDisplayResult}
      {createdRecord arrivedRecord : TemporaryDisplayRecord} {identityReserved : Bool}
      {reply : BackendDisplayResult} (ok : reply.error = .none)
      (present : s.displaysById[createdRecord.displayId]? = some arrivedRecord)
      (lease : arrivedRecord.leaseId = createdRecord.leaseId)
      (generation : arrivedRecord.generation = createdRecord.generation)
      (pending : arrivedRecord.pendingDeparture = true) :
    ResumeYield s (.createArrive created createdRecord identityReserved) reply s
      (.createDepartPending createdRecord arrivedRecord)
  | released {display next : TemporaryDisplayRecord} {rest : List TemporaryDisplayRecord}
      {backendError : BackendError} {reply : BackendDisplayResult} :
    ResumeYield s (.releaseDepart display (next :: rest) backendError) reply
      (s.settleDeparture display reply.error)
      (.releaseDepart next rest (worseError backendError reply.error))
  | reaped {display next : TemporaryDisplayRecord} {rest : List TemporaryDisplayRecord}
      {removed removed' : UInt32} {reply : BackendDisplayResult} :
    ResumeYield s (.reapDepart display (next :: rest) removed) reply
      (s.settleDeparture display reply.error) (.reapDepart next rest removed')

theorem healed_yield {call : CreateCall} {pendingRecord : TemporaryDisplayRecord}
    {reply : BackendDisplayResult} {frame : Frame}
    (h : healed s call pendingRecord reply.error = (s', .yield frame)) :
    ResumeYield s (.createHeal call pendingRecord) reply s' frame := by
  cases herror : reply.error with
  | none =>
    rw [herror, healed] at h
    rcases createRecord_yield h with ⟨created, record, rfl, hwritten, hd, hlease⟩
    exact .healed (.inl ⟨herror, rfl⟩) hwritten hd hlease
  | failed =>
    rw [herror, healed] at h
    split_ifs at h with hcurrent
    · rcases habandon : s.abandonOrMark pendingRecord call.ownerCapability with ⟨s₁, abandoned⟩
      rw [habandon] at h
      cases abandoned with
      | true =>
        rcases createRecord_yield h with ⟨created, record, rfl, hwritten, hd, hlease⟩
        exact .healed (.inr ⟨herror, hcurrent, habandon⟩) hwritten hd hlease
      | false => cases h
    · cases h
  | busy =>
    rw [herror] at h
    cases h

theorem arrived_yield {created : CreateTemporaryDisplayResult}
    {createdRecord : TemporaryDisplayRecord} {identityReserved : Bool}
    {reply : BackendDisplayResult} {frame : Frame}
    (h : arrived s created createdRecord identityReserved reply = (s', .yield frame)) :
    ResumeYield s (.createArrive created createdRecord identityReserved) reply s' frame := by
  have hgone (hgone : ¬∃ current, s.displaysById[createdRecord.displayId]? = some current ∧
      current.leaseId = createdRecord.leaseId ∧ current.generation = createdRecord.generation) :
      s.temporaryDisplayGenerationIsCurrent createdRecord = false := by
    rw [← Bool.not_eq_true]
    exact fun hcurrent ↦ hgone (temporaryDisplayGenerationIsCurrent_iff.mp hcurrent)
  rw [arrived] at h
  split_ifs at h with herror hreserved
  · cases h
    rw [hreserved]
    exact .arrivalFailed herror
  · cases h
  · have hok := not_not.mp herror
    split at h
    · rename_i hnone
      cases h
      refine .arrivedGone hok (hgone ?_)
      rintro ⟨current, hcurrent, -⟩
      exact absurd (hnone.symm.trans hcurrent) (by simp)
    · rename_i arrivedRecord hpresent
      split_ifs at h with hother hpending
      · cases h
        refine .arrivedGone hok (hgone ?_)
        rintro ⟨current, hcurrent, hlease, hgeneration⟩
        cases hpresent.symm.trans hcurrent
        exact hother.elim (· hlease) (· hgeneration)
      · cases h
        rcases not_or.mp hother with ⟨hlease, hgeneration⟩
        exact .arrivedPending hok hpresent (not_not.mp hlease) (not_not.mp hgeneration) hpending
      · cases h

theorem resume_yield {frame next : Frame} {reply : BackendDisplayResult}
    (h : resume s frame reply = (s', .yield next)) : ResumeYield s frame reply s' next := by
  cases frame with
  | createHeal call pendingRecord => exact healed_yield h
  | createReserve created createdRecord =>
    rw [resume, reserved] at h
    split_ifs at h with herror hcurrent
    · cases h
    · cases h
      exact .reserved (not_not.mp herror) hcurrent
    · cases h
      exact .reservedGone (not_not.mp herror) (Bool.not_eq_true _ ▸ hcurrent)
  | createArrive created createdRecord identityReserved => exact arrived_yield h
  | createUnreserveGone | createDepartGone | createUnreserve | setRenderAdapter => cases h
  | createDepartPending =>
    rw [resume, departedPending] at h
    split_ifs at h <;> cases h
  | reclaim request now =>
    rcases (resume_reclaim s request now reply).1 with ⟨result, hdone⟩
    rw [h] at hdone
    cases hdone
  | removeDepart request record =>
    rw [resume] at h
    cases herror : reply.error with
    | none =>
      rw [herror, removed] at h
      split_ifs at h <;> cases h
    | _ =>
      rw [herror, removed] at h
      cases h
  | releaseDepart display rest backendError =>
    rw [resume] at h
    cases rest <;> cases h
    exact .released
  | reapDepart display rest removed =>
    rw [resume] at h
    cases rest <;> cases h
    exact .reaped
  | applyDisplayManifest canonical =>
    rw [resume, manifestApplied] at h
    split_ifs at h <;> cases h

/-! ## What can be relied on across the gap -/

/-- What holds of the locals of a frame from the moment they are read. -/
def WellFormed : Frame → Prop
  | .createHeal call pendingRecord =>
    pendingRecord.displayId = call.request.displayId ∧ pendingRecord.pendingDeparture = true
  | .createDepartPending createdRecord arrivedRecord =>
    arrivedRecord.displayId = createdRecord.displayId ∧
      arrivedRecord.leaseId = createdRecord.leaseId ∧
      arrivedRecord.generation = createdRecord.generation ∧ arrivedRecord.pendingDeparture = true
  | .removeDepart request record => request = requestFor record
  | _ => True

theorem createdFrame_wellFormed (created : CreateTemporaryDisplayResult)
    (record : TemporaryDisplayRecord) : WellFormed (createdFrame created record) := by
  rw [createdFrame]
  split_ifs <;> trivial

theorem StartYield.wellFormed {op : ControllerOp} {frame : Frame} (h : StartYield s op s' frame)
    (hk : s.RecordsKeyed) : WellFormed frame := by
  cases h with
  | heals hop hpresent hpending => exact ⟨(hk _ _ hpresent).1, hpending⟩
  | creates => exact createdFrame_wellFormed ..
  | @removes request record hvalid hpresent hlease =>
    have hns := (validateLeaseDisplayRequest_eq_none.mp hvalid).1
    rw [isValidApiNamespace, beq_iff_eq] at hns
    rw [WellFormed, requestFor, (hk _ record hpresent).1, hlease, ← hns]
  | _ => trivial

theorem ResumeYield.wellFormed {frame next : Frame} {reply : BackendDisplayResult}
    (h : ResumeYield s frame reply s' next) (hk : s.RecordsKeyed) : WellFormed next := by
  cases h with
  | healed => exact createdFrame_wellFormed ..
  | arrivedPending _ hpresent hlease hgeneration hpending =>
    exact ⟨(hk _ _ hpresent).1, hlease, hgeneration, hpending⟩
  | _ => trivial

/-- A record of the first frame is in the store. -/
theorem StartYield.records {op : ControllerOp} {frame : Frame} (h : StartYield s op s' frame)
    (hk : s.RecordsKeyed) {record : TemporaryDisplayRecord} (hrecord : record ∈ frame.records) :
    s'.displaysById[record.displayId]? = some record := by
  have hlisted {record : TemporaryDisplayRecord} (hr : record ∈ s.temporaryDisplays) :
      s.displaysById[record.displayId]? = some record := by
    rcases OrdMap.mem_valueList.mp hr with ⟨d, hd⟩
    rwa [(hk d record hd).1]
  cases h with
  | heals _ hpresent =>
    cases List.mem_singleton.mp hrecord
    rwa [(hk _ _ hpresent).1]
  | creates _ hwritten =>
    rw [createdFrame_records] at hrecord
    cases List.mem_singleton.mp hrecord
    rw [hwritten.inserted, OrdMap.getElem?_insert, if_pos rfl]
  | removes _ hpresent =>
    cases List.mem_singleton.mp hrecord
    rwa [(hk _ _ hpresent).1]
  | releases hdisplays =>
    rw [Frame.records, ← hdisplays] at hrecord
    exact hlisted (List.mem_filter.mp hrecord).1
  | reaps hcandidates =>
    rw [Frame.records, ← hcandidates] at hrecord
    rcases List.mem_append.mp hrecord with hr | hr
    · exact hlisted (List.mem_filter.mp hr).1
    · exact hlisted (List.mem_filter.mp (List.mem_filter.mp hr).1).1
  | _ => cases hrecord

/-- A record of a later frame was in the one before it, or is in the store. -/
theorem ResumeYield.records {frame next : Frame} {reply : BackendDisplayResult}
    (h : ResumeYield s frame reply s' next) (hk : s.RecordsKeyed)
    {record : TemporaryDisplayRecord} (hrecord : record ∈ next.records) :
    record ∈ frame.records ∨ s'.displaysById[record.displayId]? = some record := by
  cases h with
  | healed _ hwritten =>
    rw [createdFrame_records] at hrecord
    cases List.mem_singleton.mp hrecord
    rw [hwritten.inserted, OrdMap.getElem?_insert, if_pos rfl]
    exact .inr rfl
  | arrivedPending _ hpresent =>
    rcases List.mem_cons.mp hrecord with rfl | hr
    · exact .inl (List.mem_singleton.mpr rfl)
    · cases List.mem_singleton.mp hr
      rw [← (hk _ _ hpresent).1] at hpresent
      exact .inr hpresent
  | released | reaped => exact .inl (List.mem_cons_of_mem _ hrecord)
  | _ => exact .inl hrecord

/-! ## Departing frames -/

/-- The stretch after a departure settles the record of the departure and does nothing else to the
store. -/
theorem resume_departing {frame : Frame} (hframe : WellFormed frame)
    {record : TemporaryDisplayRecord} (hdeparting : frame.departing = some record)
    (reply : BackendDisplayResult) :
    (resume s frame reply).1 = s.settleDeparture record reply.error := by
  cases frame with
  | removeDepart request removing =>
    cases hdeparting
    cases (show request = requestFor record from hframe)
    rw [resume]
    cases reply.error with
    | none =>
      rw [removed, settleDeparture, removeIfCurrent]
      split_ifs <;> rfl
    | failed =>
      rw [removed, settleDeparture, markIfCurrent]
    | busy => rfl
  | releaseDepart display rest backendError =>
    cases hdeparting
    cases rest <;> rfl
  | reapDepart display rest removed =>
    cases hdeparting
    cases rest <;> rfl
  | _ => cases hdeparting

/-- A departure that the backend has answered leaves no live record of that lease and
generation. -/
theorem settleDeparture_settles (hk : s.RecordsKeyed) {record : TemporaryDisplayRecord}
    {error : BackendError} (herror : error ≠ .busy) {r : TemporaryDisplayRecord}
    (hr : (s.settleDeparture record error).displaysById[record.displayId]? = some r)
    (hlease : r.leaseId = record.leaseId) (hgeneration : r.generation = record.generation) :
    r.pendingDeparture = true := by
  have hcurrent (h : s.displaysById[record.displayId]? = some r) :
      s.temporaryDisplayGenerationIsCurrent record = true :=
    temporaryDisplayGenerationIsCurrent_iff.mpr ⟨r, h, hlease, hgeneration⟩
  cases error with
  | none =>
    rw [settleDeparture, getElem?_removeIfCurrent hk] at hr
    split_ifs at hr with hc
    exact absurd ⟨hcurrent hr, rfl⟩ hc
  | failed =>
    rw [settleDeparture, getElem?_markIfCurrent hk] at hr
    split_ifs at hr with hc
    · rw [Option.map_eq_some_iff] at hr
      rcases hr with ⟨r₀, -, rfl⟩
      rfl
    · exact absurd ⟨hcurrent hr, rfl⟩ hc
  | busy => exact absurd rfl herror

/-! ## Unarrived frames -/

/-- The record a create gives up on this reply, before its monitor was ever there. -/
def rolledBack? : Frame → BackendError → Option TemporaryDisplayRecord
  | .createReserve _ createdRecord, _ | .createUnreserve createdRecord _, _ => some createdRecord
  | .createArrive _ createdRecord identityReserved, error =>
    if error ≠ .none ∧ identityReserved = false then some createdRecord else none
  | _, _ => none

/-- After the reply to a frame of a create, its monitor is there or the create still waits for it
or its record has gone. -/
theorem resume_unarrived (hk : s.RecordsKeyed) {frame : Frame} {record : TemporaryDisplayRecord}
    (hunarrived : frame.unarrived = some record) (reply : BackendDisplayResult) :
    (∃ next, resume s frame reply = (s, .yield next) ∧ next.unarrived = some record) ∨
      (reply.error = .none ∧ ∃ created identityReserved,
        frame = .createArrive created record identityReserved) ∨
      (rolledBack? frame reply.error = some record ∧
        (resume s frame reply).1.temporaryDisplayGenerationIsCurrent record = false) := by
  have hremoved (mode : RemoveTemporaryDisplayMode) :
      (s.removeIfCurrent record mode).temporaryDisplayGenerationIsCurrent record = false := by
    rw [← Bool.not_eq_true, temporaryDisplayGenerationIsCurrent_iff]
    rintro ⟨current, hcurrent, hlease, hgeneration⟩
    rw [getElem?_removeIfCurrent hk] at hcurrent
    split_ifs at hcurrent with hc
    exact hc ⟨temporaryDisplayGenerationIsCurrent_iff.mpr
      ⟨current, hcurrent, hlease, hgeneration⟩, rfl⟩
  cases frame with
  | createReserve created createdRecord =>
    cases hunarrived
    rw [resume, reserved]
    split_ifs with herror hcurrent
    · exact .inr (.inr ⟨rfl, hremoved _⟩)
    · exact .inl ⟨_, rfl, rfl⟩
    · exact .inr (.inr ⟨rfl, Bool.not_eq_true _ ▸ hcurrent⟩)
  | createArrive created createdRecord identityReserved =>
    cases hunarrived
    by_cases herror : reply.error = .none
    · exact .inr (.inl ⟨herror, _, _, rfl⟩)
    · rw [resume, arrived, if_pos herror]
      split_ifs with hreserved
      · exact .inl ⟨_, rfl, rfl⟩
      · refine .inr (.inr ⟨?_, hremoved _⟩)
        rw [rolledBack?, if_pos ⟨herror, Bool.not_eq_true _ ▸ hreserved⟩]
  | createUnreserve createdRecord arrivalError =>
    cases hunarrived
    exact .inr (.inr ⟨rfl, hremoved _⟩)
  | _ => cases hunarrived

end Controller

end VirtualDisplay
