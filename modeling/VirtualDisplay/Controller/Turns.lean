import VirtualDisplay.Controller.Basic
import VirtualDisplay.LeaseStore.Changes

/-!
# What one stretch of a controller call does

A stretch under the controller lock changes the store and leads to the next frame or to the end of
the call.  For the store, `TurnEffect` says all there is to say: a stretch keeps every record under
its lease or drops it, or it creates one record and goes on to wait for its monitor.
`start_effect` and `resume_effect` say that every stretch but a reclaim is one of the two.

Single records are looked up after `removeIfCurrent`, `markIfCurrent` and `settleDeparture` with
the lemmas named `getElem?_…`.  What the frames carry from one stretch to the next is the subject
of `Frames`.

## What is here

* `unarrived`, `departing` — the record that a frame is about, for the frames of a create whose
  monitor is not there yet and for those that wait for a departure.
* `RecordCreated`, `createRecord_cases` — a create writes its record in one stretch and asks the
  backend behind it.
* `TurnEffect.record`, `TurnEffect.nextGeneration` — the two consequences that other modules use.
* `reclaim_record` — a reclaim moves records from one lease to another, and does nothing else.

A stretch is what `controller` in `Controller/Basic.lean` says happens between two points where the
lock is given up; the stretches of one call do not know each other but for the frame.
-/

set_option autoImplicit false

namespace VirtualDisplay

open Std SlotCalls

namespace DisplayStore

variable {s s' : DisplayStore}

/-! ## Removing and marking the current record -/

theorem temporaryDisplayGenerationIsCurrent_iff {record : TemporaryDisplayRecord} :
    s.temporaryDisplayGenerationIsCurrent record = true ↔
      ∃ current, s.displaysById[record.displayId]? = some current ∧
        current.leaseId = record.leaseId ∧ current.generation = record.generation := by
  rw [temporaryDisplayGenerationIsCurrent, findTemporaryDisplay, Option.any_eq_true]
  simp

/-- A request that names a stored record passes validation. -/
theorem RecordsKeyed.validate (h : s.RecordsKeyed) {record current : TemporaryDisplayRecord}
    (hcurrent : s.displaysById[record.displayId]? = some current)
    (hlease : current.leaseId = record.leaseId) :
    validateLeaseDisplayRequest (requestFor record) = .none := by
  rcases h _ _ hcurrent with ⟨-, hd, hvalid⟩
  rw [hlease] at hvalid
  exact validateLeaseDisplayRequest_eq_none.mpr ⟨rfl, hvalid, hd⟩

theorem getElem?_removeIfCurrent (h : s.RecordsKeyed) (record : TemporaryDisplayRecord)
    (mode : RemoveTemporaryDisplayMode) (d : UInt64) :
    (s.removeIfCurrent record mode).displaysById[d]? =
      if s.temporaryDisplayGenerationIsCurrent record = true ∧ record.displayId = d then none
      else s.displaysById[d]? := by
  rw [removeIfCurrent]
  by_cases hcurrent : s.temporaryDisplayGenerationIsCurrent record = true
  · rcases temporaryDisplayGenerationIsCurrent_iff.mp hcurrent with ⟨current, hr, hlease, -⟩
    have hany : (s.displaysById[(requestFor record).displayId]?).any
        (·.leaseId == (requestFor record).leaseId) = true := by
      rw [requestFor, hr]
      simpa using hlease
    rw [if_pos hcurrent]
    simp only [removeTemporaryDisplay, h.validate hr hlease, if_pos hany,
      eraseDisplay_displaysById]
    cases mode <;> simp only [OrdMap.getElem?_erase, hcurrent, true_and] <;> rfl
  · rw [if_neg hcurrent, if_neg fun hc ↦ hcurrent hc.1]

theorem getElem?_markIfCurrent (h : s.RecordsKeyed) (record : TemporaryDisplayRecord)
    (d : UInt64) :
    (s.markIfCurrent record).displaysById[d]? =
      if s.temporaryDisplayGenerationIsCurrent record = true ∧ record.displayId = d then
        s.displaysById[d]?.map fun r ↦ { r with pendingDeparture := true }
      else s.displaysById[d]? := by
  rw [markIfCurrent]
  by_cases hcurrent : s.temporaryDisplayGenerationIsCurrent record = true
  · rcases temporaryDisplayGenerationIsCurrent_iff.mp hcurrent with ⟨current, hr, hlease, -⟩
    have hr' : s.displaysById[(requestFor record).displayId]? = some current := hr
    have hne : ¬current.leaseId ≠ (requestFor record).leaseId := not_not.mpr hlease
    rw [if_pos hcurrent]
    simp only [markTemporaryDisplayPendingDeparture, h.validate hr hlease, hr', if_neg hne,
      OrdMap.getElem?_insert, hcurrent, true_and]
    by_cases hd : record.displayId = d
    · rw [if_pos hd, ← hd, hr]
      exact if_pos rfl
    · rw [if_neg hd]
      exact if_neg hd
  · rw [if_neg hcurrent, if_neg fun hc ↦ hcurrent hc.1]

theorem removeIfCurrent_keeps (s : DisplayStore) (record : TemporaryDisplayRecord)
    (mode : RemoveTemporaryDisplayMode) : Keeps s (s.removeIfCurrent record mode) := by
  rw [removeIfCurrent]
  split_ifs
  · exact s.removeTemporaryDisplay_keeps ..
  · exact .refl

theorem markTemporaryDisplayPendingDeparture_keeps (s : DisplayStore)
    (request : LeaseDisplayRequest) :
    Keeps s (s.markTemporaryDisplayPendingDeparture request).1 :=
  @StoreOp.keeps s (.markTemporaryDisplayPendingDeparture request) rfl

theorem markIfCurrent_keeps (s : DisplayStore) (record : TemporaryDisplayRecord) :
    Keeps s (s.markIfCurrent record) := by
  rw [markIfCurrent]
  split_ifs
  · exact s.markTemporaryDisplayPendingDeparture_keeps _
  · exact .refl

theorem settleDeparture_keeps (s : DisplayStore) (record : TemporaryDisplayRecord)
    (error : BackendError) : Keeps s (s.settleDeparture record error) := by
  cases error with
  | none => exact s.removeIfCurrent_keeps record _
  | failed => exact s.markIfCurrent_keeps record
  | busy => exact .refl

theorem abandonOrMark_keeps (s : DisplayStore) (pendingRecord : TemporaryDisplayRecord)
    (ownerCapability : Option OwnerCapability) :
    Keeps s (s.abandonOrMark pendingRecord ownerCapability).1 := by
  cases ownerCapability with
  | none => exact s.markTemporaryDisplayPendingDeparture_keeps _
  | some ownerCapability =>
    rw [abandonOrMark]
    split_ifs
    · exact s.abandonPendingTemporaryDisplay_keeps ..
    · exact (s.abandonPendingTemporaryDisplay_keeps ..).trans
        (markTemporaryDisplayPendingDeparture_keeps ..)

end DisplayStore

open DisplayStore

/-! ## The records a frame carries -/

namespace Frame

/-- The records among the locals of the frame. -/
def records : Frame → List TemporaryDisplayRecord
  | createHeal _ record | createReserve _ record | createUnreserveGone record
  | createArrive _ record _ | createUnreserve record _ | createDepartGone record
  | removeDepart _ record => [record]
  | createDepartPending createdRecord arrivedRecord => [createdRecord, arrivedRecord]
  | releaseDepart display rest _ | reapDepart display rest _ => display :: rest
  | reclaim .. | applyDisplayManifest _ | setRenderAdapter _ => []

/-- The record a create has written and whose monitor has not arrived. -/
def unarrived : Frame → Option TemporaryDisplayRecord
  | createReserve _ record | createArrive _ record _ | createUnreserve record _ => some record
  | _ => none

/-- The record that goes or is condemned by the outcome of the frame's departure. -/
def departing : Frame → Option TemporaryDisplayRecord
  | removeDepart _ record | releaseDepart record _ _ | reapDepart record _ _ => some record
  | _ => none

end Frame

namespace Controller

variable {s s' : DisplayStore}

/-! ## Creating a record -/

/-- A record has been written into the store. -/
structure RecordCreated (s s' : DisplayStore) (record : TemporaryDisplayRecord) : Prop where
  absent : s.displaysById[record.displayId]? = none
  inserted : s'.displaysById = s.displaysById.insert record.displayId record
  generation : record.generation = s.nextTemporaryDisplayGeneration
  live : record.pendingDeparture = false
  next : s'.nextTemporaryDisplayGeneration = s.nextTemporaryDisplayGeneration + 1
  reaches : Reaches s s'

/-- What the two kinds of create ask of the store. -/
def storeCreate (s : DisplayStore) (call : CreateCall) : DisplayStore × CreateStoreResult :=
  match call.ownerCapability with
  | none => s.createTemporaryDisplay call.request call.now
  | some ownerCapability =>
    s.createTemporaryDisplayOwned { display := call.request, ownerCapability } call.now

theorem storeCreate_cases (s : DisplayStore) (call : CreateCall) :
    ((storeCreate s call).2.status.error = .none ∧
      ∃ record, RecordCreated s (storeCreate s call).1 record ∧
        record.displayId = call.request.displayId ∧ record.leaseId = call.request.leaseId) ∨
    ((storeCreate s call).2.status.error ≠ .none ∧ Keeps s (storeCreate s call).1 ∧
      (storeCreate s call).1.displaysById = s.displaysById) := by
  have himpl : storeCreate s call = s.createTemporaryDisplayImpl call.request
        call.ownerCapability call.now ∨
      ((storeCreate s call).1 = s ∧ (storeCreate s call).2.status.error ≠ .none) := by
    rw [storeCreate]
    cases call.ownerCapability with
    | none => exact .inl rfl
    | some ownerCapability =>
      rcases s.createTemporaryDisplayOwned_cases _ call.now with ⟨-, h⟩ | h
      · exact .inl h
      · exact .inr h
  rcases himpl with h | ⟨h, herror⟩
  · rw [h]
    have hreaches := s.createTemporaryDisplayImpl_reaches call.request call.ownerCapability call.now
    rcases s.createTemporaryDisplayImpl_cases call.request call.ownerCapability call.now with
      ⟨reservations, ⟨haccepted, connectorIndex, retainIdentity, -, -, hcommit⟩ | ⟨hfailed, herror⟩⟩
    · rw [hcommit] at hreaches ⊢
      exact .inl ⟨rfl, DisplayStore.createdRecord
          { s with connectorReservationsByDisplayId := reservations }
          (validatedCreateTemporaryDisplay call.request) call.now connectorIndex retainIdentity,
        ⟨haccepted.absent, rfl, rfl, rfl, rfl, hreaches⟩, rfl, rfl⟩
    · rw [hfailed]
      exact .inr ⟨herror, .single (.bookkeeping _ _), rfl⟩
  · rw [h]
    exact .inr ⟨herror, .refl, rfl⟩

theorem createRecord_eq (s : DisplayStore) (call : CreateCall) :
    createRecord s call =
      if (storeCreate s call).2.status.error ≠ .none then
        createFailed (storeCreate s call).1 (fromStoreResult (storeCreate s call).2.status)
      else
        match (storeCreate s call).1.findTemporaryDisplay call.request.displayId with
        | none => createFailed (storeCreate s call).1 { storeError := .displayNotFound }
        | some record =>
          if record.retainIdentity then
            ((storeCreate s call).1, .yield (.createReserve (storeCreate s call).2.result record))
          else
            ((storeCreate s call).1,
              .yield (.createArrive (storeCreate s call).2.result record false)) := rfl

/-- The store after it is the store's own create, whatever comes next. -/
theorem createRecord_fst (s : DisplayStore) (call : CreateCall) :
    (createRecord s call).1 = (storeCreate s call).1 := by
  rw [createRecord_eq]
  split_ifs
  · rfl
  · split
    · rfl
    · split_ifs <;> rfl

/-- A create either writes a record and waits for its identity or its monitor, or has failed. -/
theorem createRecord_cases (s : DisplayStore) (call : CreateCall) :
    (∃ created record, RecordCreated s (createRecord s call).1 record ∧
      record.displayId = call.request.displayId ∧ record.leaseId = call.request.leaseId ∧
      (createRecord s call).2 = .yield (if record.retainIdentity then
        .createReserve created record else .createArrive created record false)) ∨
    ((∃ status, (createRecord s call).2 = .done (.create status {})) ∧
      Keeps s (createRecord s call).1 ∧
      (createRecord s call).1.displaysById = s.displaysById) := by
  rw [createRecord_eq]
  rcases storeCreate_cases s call with
    ⟨herror, record, hcreated, hd, hlease⟩ | ⟨herror, hkeeps, hsame⟩
  · have hfind : (storeCreate s call).1.findTemporaryDisplay call.request.displayId =
        some record := by
      rw [findTemporaryDisplay, hcreated.inserted, OrdMap.getElem?_insert, if_pos hd]
    rw [if_neg (not_not.mpr herror), hfind]
    refine .inl ⟨(storeCreate s call).2.result, record, ?_⟩
    dsimp only
    split_ifs
    · exact ⟨hcreated, hd, hlease, rfl⟩
    · exact ⟨hcreated, hd, hlease, rfl⟩
  · rw [if_pos herror]
    exact .inr ⟨⟨_, rfl⟩, hkeeps, hsame⟩

/-! ## The effect on the store -/

/-- What a stretch that is no reclaim does to the store, and what comes next where it creates a
record. -/
inductive TurnEffect (s : DisplayStore) : Turn → Prop where
  | keeps {s' : DisplayStore} {next : Next Frame ControllerResult} (kept : Keeps s s') :
    TurnEffect s (s', next)
  | creates {s₁ s' : DisplayStore} {frame : Frame} {record : TemporaryDisplayRecord}
      (kept : Keeps s s₁) (created : RecordCreated s₁ s' record)
      (waits : frame.unarrived = some record) (carries : frame.records = [record]) :
    TurnEffect s (s', .yield frame)

theorem createRecord_effect {s₁ : DisplayStore} (hkeeps : Keeps s s₁) (call : CreateCall) :
    TurnEffect s (createRecord s₁ call) := by
  rcases createRecord_cases s₁ call with ⟨created, record, hcreated, -, -, hnext⟩ | ⟨-, hkeeps', -⟩
  · rw [← Prod.mk.eta (p := createRecord s₁ call), hnext]
    refine .creates hkeeps hcreated ?_ ?_
    · split_ifs <;> rfl
    · split_ifs <;> rfl
  · rw [← Prod.mk.eta (p := createRecord s₁ call)]
    exact .keeps (hkeeps.trans hkeeps')

theorem createTemporaryDisplayImpl_effect (s : DisplayStore) (call : CreateCall) :
    TurnEffect s (createTemporaryDisplayImpl s call) := by
  simp only [createTemporaryDisplayImpl]
  split
  · split
    · split_ifs
      · exact .keeps .refl
      · exact createRecord_effect .refl call
    · exact createRecord_effect .refl call
  · exact .keeps .refl

theorem applyDisplayManifest_effect (s : DisplayStore) (manifest : DisplayManifest) :
    TurnEffect s (applyDisplayManifest s manifest) := by
  simp only [applyDisplayManifest]
  split
  · split <;> exact .keeps .refl
  · exact .keeps .refl

theorem releaseNext_effect {s₁ : DisplayStore} (hkeeps : Keeps s s₁) (error : BackendError)
    (rest : List TemporaryDisplayRecord) : TurnEffect s (releaseNext s₁ error rest) := by
  cases rest <;> exact .keeps hkeeps

theorem reapNext_effect {s₁ : DisplayStore} (hkeeps : Keeps s s₁) (count : UInt32)
    (rest : List TemporaryDisplayRecord) : TurnEffect s (reapNext s₁ count rest) := by
  cases rest <;> exact .keeps hkeeps

theorem start_effect (s : DisplayStore) (op : ControllerOp) : TurnEffect s (start s op) := by
  cases op with
  | createTemporaryDisplay request now => exact createTemporaryDisplayImpl_effect s _
  | createTemporaryDisplayOwned request now =>
    simp only [start]
    split
    · exact createTemporaryDisplayImpl_effect s _
    · exact .keeps .refl
  | reclaimTemporaryDisplay request now =>
    simp only [start, reclaimTemporaryDisplay]
    split <;> exact .keeps .refl
  | removeTemporaryDisplay request =>
    simp only [start, removeTemporaryDisplay]
    split
    · split
      · exact .keeps .refl
      · split_ifs <;> exact .keeps .refl
    · exact .keeps .refl
  | feedLease request now => exact .keeps (@StoreOp.keeps s (.feedLease request now) rfl)
  | releaseLease request =>
    simp only [start, releaseLease]
    split
    · split
      · exact .keeps (@StoreOp.keeps s (.releaseLease request) rfl)
      · exact releaseNext_effect .refl _ _
    · exact .keeps .refl
  | setPermanentDisplayCount request =>
    simp only [start, setPermanentDisplayCount]
    split
    · exact applyDisplayManifest_effect s _
    · exact .keeps .refl
  | applyDisplayManifest manifest => exact applyDisplayManifest_effect s manifest
  | setRenderAdapter request =>
    simp only [start, setRenderAdapter]
    split_ifs <;> exact .keeps .refl
  | reapExpired now => exact reapNext_effect .refl _ _

/-- A reclaim that is waiting for the slot. -/
def IsReclaim (frame : Frame) : Prop := ∃ request now, frame = .reclaim request now

theorem resume_effect (s : DisplayStore) {frame : Frame} (hframe : ¬IsReclaim frame)
    (reply : BackendDisplayResult) : TurnEffect s (resume s frame reply) := by
  cases frame with
  | createHeal call pendingRecord =>
    simp only [resume, healed]
    cases reply.error with
    | none => exact createRecord_effect (s.removeIfCurrent_keeps ..) call
    | failed =>
      dsimp only
      split_ifs
      · exact createRecord_effect (s.abandonOrMark_keeps ..) call
      · exact .keeps (s.abandonOrMark_keeps ..)
      · exact .keeps .refl
    | busy => exact .keeps .refl
  | createReserve created createdRecord =>
    simp only [resume, reserved]
    split_ifs
    · exact .keeps (s.removeIfCurrent_keeps ..)
    · exact .keeps .refl
    · exact .keeps .refl
  | createUnreserveGone | createDepartGone => exact .keeps .refl
  | createArrive created createdRecord identityReserved =>
    simp only [resume, arrived]
    split_ifs
    · exact .keeps .refl
    · exact .keeps (s.removeIfCurrent_keeps ..)
    · split
      · exact .keeps .refl
      · split_ifs <;> exact .keeps .refl
  | createUnreserve => exact .keeps (s.removeIfCurrent_keeps ..)
  | createDepartPending createdRecord arrivedRecord =>
    simp only [resume, departedPending]
    split_ifs
    · exact .keeps (s.removeIfCurrent_keeps ..)
    · exact .keeps .refl
  | reclaim request now => exact absurd ⟨request, now, rfl⟩ hframe
  | removeDepart request record =>
    simp only [resume, removed]
    cases reply.error with
    | none =>
      dsimp only
      split_ifs
      · exact .keeps (s.removeTemporaryDisplay_keeps ..)
      · exact .keeps .refl
    | failed =>
      dsimp only
      split_ifs
      · exact .keeps (s.markTemporaryDisplayPendingDeparture_keeps _)
      · exact .keeps .refl
    | busy => exact .keeps .refl
  | releaseDepart display rest error => exact releaseNext_effect (s.settleDeparture_keeps ..) _ rest
  | reapDepart display rest count => exact reapNext_effect (s.settleDeparture_keeps ..) _ rest
  | applyDisplayManifest canonical =>
    simp only [resume, manifestApplied]
    split_ifs
    · exact .keeps .refl
    · exact .keeps (s.applyDisplayManifest_keeps canonical)
  | setRenderAdapter => exact .keeps .refl

theorem TurnEffect.reaches {turn : Turn} (h : TurnEffect s turn) : Reaches s turn.1 := by
  cases h with
  | keeps hkept => exact hkept.reaches
  | creates hkept hcreated => exact hkept.reaches.trans hcreated.reaches

/-- A record that is there after a stretch was there before, or has just been created and the call
goes on to wait for its monitor. -/
theorem TurnEffect.record {turn : Turn} (h : TurnEffect s turn) {d : UInt64}
    {r' : TemporaryDisplayRecord} (hr' : turn.1.displaysById[d]? = some r') :
    (∃ r, s.displaysById[d]? = some r ∧ r.Evolves r' ∧ r'.leaseId = r.leaseId) ∨
      (r'.generation = s.nextTemporaryDisplayGeneration ∧
        ∃ frame, turn.2 = .yield frame ∧ frame.unarrived = some r' ∧ frame.records = [r']) := by
  cases h with
  | keeps hkept => exact .inl (hkept.record hr')
  | creates hkept hcreated hwaits hcarries =>
    dsimp only at hr'
    rw [hcreated.inserted, OrdMap.getElem?_insert] at hr'
    split_ifs at hr'
    · cases hr'
      exact .inr ⟨hcreated.generation.trans hkept.nextGeneration, _, rfl, hwaits, hcarries⟩
    · exact .inl (hkept.record hr')

/-- The generation counter moves by one where a record is created and not otherwise. -/
theorem TurnEffect.nextGeneration {turn : Turn} (h : TurnEffect s turn) :
    turn.1.nextTemporaryDisplayGeneration = s.nextTemporaryDisplayGeneration ∨
      (turn.1.nextTemporaryDisplayGeneration = s.nextTemporaryDisplayGeneration + 1 ∧
        ∃ frame record, turn.2 = .yield frame ∧ frame.unarrived = some record ∧
          frame.records = [record] ∧ record.generation = s.nextTemporaryDisplayGeneration) := by
  cases h with
  | keeps hkept => exact .inl hkept.nextGeneration
  | creates hkept hcreated hwaits hcarries =>
    refine .inr ⟨?_, _, _, rfl, hwaits, hcarries, hcreated.generation.trans hkept.nextGeneration⟩
    rw [← hkept.nextGeneration]
    exact hcreated.next

/-! ## Reclaiming -/

/-- A reclaim moves the records of one lease under another and does nothing else to a record. -/
theorem reclaim_record {request : ReclaimTemporaryDisplayRequest} {now : TimePoint} {d : UInt64}
    {r' : TemporaryDisplayRecord}
    (hr' : (s.reclaimTemporaryDisplay request now).1.displaysById[d]? = some r') :
    ∃ r, s.displaysById[d]? = some r ∧ r.Evolves r' ∧
      (r'.leaseId = r.leaseId ∨ r'.leaseId = request.newLeaseId) := by
  rcases s.reclaimTemporaryDisplay_cases request now with
    ⟨display, lease, -, -, -, -, -, -, -, -, h⟩ | ⟨h, -⟩
  · rw [h, getElem?_rotateLease, Option.map_eq_some_iff] at hr'
    rcases hr' with ⟨r, hr, rfl⟩
    refine ⟨r, hr, TemporaryDisplayRecord.Evolves.rotateRecord .., ?_⟩
    rw [rotateRecord_leaseId]
    split_ifs
    · exact .inr rfl
    · exact .inl rfl
  · rw [h] at hr'
    exact ⟨r', hr', .refl r', .inl rfl⟩

theorem resume_reclaim (s : DisplayStore) (request : ReclaimTemporaryDisplayRequest)
    (now : TimePoint) (reply : BackendDisplayResult) :
    (∃ result, (resume s (.reclaim request now) reply).2 = .done result) ∧
      ((reply.error = .none ∧ (resume s (.reclaim request now) reply).1 =
          (s.reclaimTemporaryDisplay request now).1) ∨
        (resume s (.reclaim request now) reply).1 = s) := by
  simp only [resume, reclaimed]
  split_ifs with herror
  · exact ⟨⟨_, rfl⟩, .inr rfl⟩
  · exact ⟨⟨_, rfl⟩, .inl ⟨not_not.mp herror, rfl⟩⟩

theorem resume_reaches (s : DisplayStore) (frame : Frame) (reply : BackendDisplayResult) :
    Reaches s (resume s frame reply).1 := by
  by_cases hframe : IsReclaim frame
  · rcases hframe with ⟨request, now, rfl⟩
    rcases (resume_reclaim s request now reply).2 with ⟨-, h⟩ | h
    · rw [h]
      exact s.reclaimTemporaryDisplay_reaches request now
    · rw [h]
  · exact (resume_effect s hframe reply).reaches

end Controller

end VirtualDisplay
