import VirtualDisplay.Controller.Frames

/-!
# What a stretch does to one record

A record that is in the store when a stretch begins is there unchanged when it ends, with few
exceptions, and every exception can be read off the frame of the call.  `start_record` and
`resume_record` list them: a feed gives new times, a reclaim a new lease, a failed departure the
pending mark, and a record goes away when its departure has succeeded, when its create is rolled
back or when it is abandoned.

## What is here

* `TemporaryDisplayRecord.SameRecord` — two records agree in all that never changes.
* `Fate` — what may become of a record in one stretch.
* `settleDeparture_record`, `abandonOrMark_record`, `createRecord_record`, `releaseLease_record` —
  the stretches of the source one by one.
* `start_record`, `resume_record` — the two tables, from which everything that is said about a
  record over a run of the controller follows.

A record is looked up by its display, so a display that goes away and comes back under the same id
between two stretches would have to be told apart by its generation; a single stretch never does
both.
-/

set_option autoImplicit false

namespace VirtualDisplay

open Std SlotCalls DisplayStore

/-- The snapshot is of the record, as far as `temporary_display_generation_is_current` can tell. -/
structure TemporaryDisplayRecord.SameRecord (record r : TemporaryDisplayRecord) : Prop where
  display : record.displayId = r.displayId
  lease : record.leaseId = r.leaseId
  generation : record.generation = r.generation

namespace DisplayStore

variable {s : DisplayStore} {r : TemporaryDisplayRecord} {d : UInt64}

theorem sameRecord_of_current {record : TemporaryDisplayRecord} (hk : s.RecordsKeyed)
    (hr : s.displaysById[d]? = some r)
    (hcurrent : s.temporaryDisplayGenerationIsCurrent record = true) (hd : record.displayId = d) :
    record.SameRecord r := by
  rcases temporaryDisplayGenerationIsCurrent_iff.mp hcurrent with ⟨current, hc, hlease, hgeneration⟩
  rw [hd, hr, Option.some_inj] at hc
  cases hc
  exact ⟨hd.trans (hk d r hr).1.symm, hlease.symm, hgeneration.symm⟩

theorem removeIfCurrent_record (hk : s.RecordsKeyed) (hr : s.displaysById[d]? = some r)
    (record : TemporaryDisplayRecord) (mode : RemoveTemporaryDisplayMode) :
    (s.removeIfCurrent record mode).displaysById[d]? = some r ∨
      (record.SameRecord r ∧ (s.removeIfCurrent record mode).displaysById[d]? = none) := by
  rw [getElem?_removeIfCurrent hk]
  split_ifs with hc
  · exact .inr ⟨sameRecord_of_current hk hr hc.1 hc.2, rfl⟩
  · exact .inl hr

theorem markIfCurrent_record (hk : s.RecordsKeyed) (hr : s.displaysById[d]? = some r)
    (record : TemporaryDisplayRecord) :
    (s.markIfCurrent record).displaysById[d]? = some r ∨
      (record.SameRecord r ∧
        (s.markIfCurrent record).displaysById[d]? = some { r with pendingDeparture := true }) := by
  rw [getElem?_markIfCurrent hk]
  split_ifs with hc
  · rw [hr]
    exact .inr ⟨sameRecord_of_current hk hr hc.1 hc.2, rfl⟩
  · exact .inl hr

/-- A healing departure that was refused leaves every other record alone, and condemns its own or
abandons it. -/
theorem abandonOrMark_record {record : TemporaryDisplayRecord} (hk : s.RecordsKeyed)
    (hr : s.displaysById[d]? = some r)
    (hcurrent : s.temporaryDisplayGenerationIsCurrent record = true)
    (ownerCapability : Option OwnerCapability) :
    (s.abandonOrMark record ownerCapability).1.displaysById[d]? = some r ∨
      (record.SameRecord r ∧ ((s.abandonOrMark record ownerCapability).2 = true ∨
        (s.abandonOrMark record ownerCapability).1.displaysById[d]? =
          some { r with pendingDeparture := true })) := by
  have hmark : (s.markTemporaryDisplayPendingDeparture (requestFor record)).1 =
      s.markIfCurrent record := by
    rw [markIfCurrent, if_pos hcurrent]
  have hmarked : (s.markIfCurrent record).displaysById[d]? = some r ∨
      (record.SameRecord r ∧ (False ∨
        (s.markIfCurrent record).displaysById[d]? = some { r with pendingDeparture := true })) := by
    rw [false_or]
    exact markIfCurrent_record hk hr record
  cases ownerCapability with
  | none =>
    rw [abandonOrMark, hmark]
    simpa using hmarked
  | some ownerCapability =>
    rcases s.abandonPendingTemporaryDisplay_cases (requestFor record) record.generation
      ownerCapability with ⟨display, lease, -, -, -, -, -, -, h⟩ | ⟨h, herror⟩
    · rw [abandonOrMark, h]
      by_cases hd : record.displayId = d
      · exact .inr ⟨sameRecord_of_current hk hr hcurrent hd, .inl rfl⟩
      · have hne : ¬(requestFor record).displayId = d := hd
        refine .inl ?_
        dsimp only
        rw [if_pos rfl, eraseDisplay_displaysById, OrdMap.getElem?_erase, if_neg hne]
        exact hr
    · rw [abandonOrMark, if_neg herror, h, hmark]
      simpa using hmarked

end DisplayStore

namespace Controller

variable {s : DisplayStore} {r : TemporaryDisplayRecord} {d : UInt64}

/-! ## The exceptions -/

/-- The record that goes away with the reply, if it is still current. -/
def retired? : Frame → BackendError → Option TemporaryDisplayRecord
  | .createHeal _ record, .none | .createDepartPending _ record, .none
  | .removeDepart _ record, .none | .releaseDepart record _ _, .none
  | .reapDepart record _ _, .none => some record
  | .createReserve _ record, .failed | .createReserve _ record, .busy => some record
  | .createArrive _ record false, .failed | .createArrive _ record false, .busy => some record
  | .createUnreserve record _, _ => some record
  | _, _ => none

/-- The record that is condemned by the reply, if it is still current. -/
def condemned? : Frame → BackendError → Option TemporaryDisplayRecord
  | .createHeal _ record, .failed | .removeDepart _ record, .failed
  | .releaseDepart record _ _, .failed | .reapDepart record _ _, .failed => some record
  | _, _ => none

theorem retired?_mem {frame : Frame} {error : BackendError} {record : TemporaryDisplayRecord}
    (h : retired? frame error = some record) : record ∈ frame.records := by
  cases frame with
  | createArrive created createdRecord identityReserved =>
    cases error <;> cases identityReserved <;> cases h <;> exact List.mem_cons_self
  | createDepartPending =>
    cases error <;> cases h
    exact List.mem_cons_of_mem _ List.mem_cons_self
  | _ => cases error <;> cases h <;> exact List.mem_cons_self

theorem condemned?_mem {frame : Frame} {error : BackendError} {record : TemporaryDisplayRecord}
    (h : condemned? frame error = some record) : record ∈ frame.records := by
  cases frame <;> cases error <;> cases h <;> exact List.mem_cons_self

/-- What becomes of a record in the stretch after a reply. -/
inductive Fate (s : DisplayStore) (frame : Frame) (reply : BackendDisplayResult)
    (r : TemporaryDisplayRecord) : Option TemporaryDisplayRecord → Prop
  | kept : Fate s frame reply r (some r)
  /-- Only a create that has healed the display goes on to write another record. -/
  | retired {record : TemporaryDisplayRecord} {after : Option TemporaryDisplayRecord}
      (retires : retired? frame reply.error = some record) (same : record.SameRecord r)
      (gone : after = none ∨ ∃ call, frame = .createHeal call record) :
    Fate s frame reply r after
  | abandoned {call : CreateCall} {record : TemporaryDisplayRecord}
      {after : Option TemporaryDisplayRecord} (heals : frame = .createHeal call record)
      (failed : reply.error = .failed) (same : record.SameRecord r)
      (current : s.temporaryDisplayGenerationIsCurrent record = true)
      (abandons : (s.abandonOrMark record call.ownerCapability).2 = true) :
    Fate s frame reply r after
  | condemned {record : TemporaryDisplayRecord}
      (condemns : condemned? frame reply.error = some record) (same : record.SameRecord r) :
    Fate s frame reply r (some { r with pendingDeparture := true })
  | rotated {request : ReclaimTemporaryDisplayRequest} {now : TimePoint}
      {display : TemporaryDisplayRecord} (reclaims : frame = .reclaim request now)
      (ok : reply.error = .none)
      (present : s.displaysById[request.displayId]? = some display)
      (succeeded : (s.reclaimTemporaryDisplay request now).2.status.error = .none) :
    Fate s frame reply r
      (some (rotateRecord display.leaseId request.newLeaseId
        (normalizeTimeoutMs request.requestedTimeoutMs)
        (now + milliseconds (normalizeTimeoutMs request.requestedTimeoutMs)) r))

/-! ## A stretch from the beginning of a call -/

/-- A create writes a record where there was none. -/
theorem createRecord_record (hr : s.displaysById[d]? = some r) (call : CreateCall) :
    (createRecord s call).1.displaysById[d]? = some r := by
  rcases createRecord_cases s call with ⟨created, record, hwritten, -⟩ | ⟨-, -, hsame⟩
  · have hne : ¬record.displayId = d := by
      rintro rfl
      rw [hwritten.absent] at hr
      cases hr
    rw [hwritten.inserted, OrdMap.getElem?_insert, if_neg hne]
    exact hr
  · rw [hsame]
    exact hr

theorem createTemporaryDisplayImpl_record (hr : s.displaysById[d]? = some r) (call : CreateCall) :
    (createTemporaryDisplayImpl s call).1.displaysById[d]? = some r := by
  rw [createTemporaryDisplayImpl]
  split
  · split
    · split_ifs
      · exact hr
      · exact createRecord_record hr call
    · exact createRecord_record hr call
  · exact hr

/-- What a release finds to erase has no records, or it would not have got that far. -/
theorem releaseLease_record {request : LeaseRequest}
    (hnone : s.temporaryDisplaysForLease request.leaseId = [])
    (hr : s.displaysById[d]? = some r) :
    (s.releaseLease request).1.displaysById[d]? = some r := by
  rcases s.releaseLease_cases request with ⟨-, h⟩ | ⟨h, -⟩
  · rw [h]
    refine OrdMap.getElem?_eraseIf_eq_some.mpr ⟨hr, ?_⟩
    rw [temporaryDisplaysForLease, List.filter_eq_nil_iff] at hnone
    exact Bool.not_eq_true _ ▸ hnone r (OrdMap.mem_valueList.mpr ⟨d, hr⟩)
  · rw [h]
    exact hr

theorem releaseNext_fst (s : DisplayStore) (error : BackendError)
    (rest : List TemporaryDisplayRecord) : (releaseNext s error rest).1 = s := by
  cases rest <;> rfl

theorem reapNext_fst (s : DisplayStore) (count : UInt32) (rest : List TemporaryDisplayRecord) :
    (reapNext s count rest).1 = s := by
  cases rest <;> rfl

theorem applyDisplayManifest_fst (s : DisplayStore) (manifest : DisplayManifest) :
    (applyDisplayManifest s manifest).1 = s := by
  rw [applyDisplayManifest]
  split
  · split <;> rfl
  · rfl

/-- The beginning of a call changes no record, but for a feed of its lease. -/
theorem start_record (hr : s.displaysById[d]? = some r) (op : ControllerOp) :
    (start s op).1.displaysById[d]? = some r ∨
      ∃ request now, op = .feedLease request now ∧ (s.feedLease request now).2.error = .none ∧
        (start s op).1.displaysById[d]? =
          some (feedRecord request.leaseId (normalizeTimeoutMs request.requestedTimeoutMs)
            (now + milliseconds (normalizeTimeoutMs request.requestedTimeoutMs)) r) := by
  cases op with
  | createTemporaryDisplay request now => exact .inl (createTemporaryDisplayImpl_record hr _)
  | createTemporaryDisplayOwned request now =>
    rw [start]
    split
    · exact .inl (createTemporaryDisplayImpl_record hr _)
    · exact .inl hr
  | reclaimTemporaryDisplay request now =>
    rw [start, reclaimTemporaryDisplay]
    split <;> exact .inl hr
  | removeTemporaryDisplay request =>
    rw [start, removeTemporaryDisplay]
    split
    · split
      · exact .inl hr
      · split_ifs <;> exact .inl hr
    · exact .inl hr
  | feedLease request now =>
    rw [start]
    rcases s.feedLease_cases request now with ⟨lease, -, -, -, h⟩ | ⟨h, -⟩
    · refine .inr ⟨request, now, rfl, ?_, ?_⟩
      · rw [h]
      · rw [h]
        exact (OrdMap.getElem?_map ..).trans (congrArg (Option.map _) hr)
    · rw [h]
      exact .inl hr
  | releaseLease request =>
    rw [start, releaseLease]
    split
    · split
      · rename_i hnone
        exact .inl (releaseLease_record hnone hr)
      · rw [releaseNext_fst]
        exact .inl hr
    · exact .inl hr
  | setPermanentDisplayCount request =>
    simp only [start, setPermanentDisplayCount]
    split
    · rw [applyDisplayManifest_fst]
      exact .inl hr
    · exact .inl hr
  | applyDisplayManifest manifest =>
    rw [start, applyDisplayManifest_fst]
    exact .inl hr
  | setRenderAdapter request =>
    rw [start, setRenderAdapter]
    split_ifs <;> exact .inl hr
  | reapExpired now =>
    rw [start, reapNext_fst]
    exact .inl hr

/-! ## A stretch after a reply -/

theorem healed_record (hk : s.RecordsKeyed) (hr : s.displaysById[d]? = some r) (call : CreateCall)
    (record : TemporaryDisplayRecord) (reply : BackendDisplayResult) :
    Fate s (.createHeal call record) reply r
      (healed s call record reply.error).1.displaysById[d]? := by
  cases herror : reply.error with
  | none =>
    rcases removeIfCurrent_record hk hr record .retainConnectorReservation with
      hkept | ⟨hsame, -⟩
    · rw [healed, createRecord_record hkept]
      exact .kept
    · refine .retired ?_ hsame (.inr ⟨call, rfl⟩)
      rw [herror, retired?]
  | failed =>
    rw [healed]
    split_ifs with hcurrent
    · rcases abandonOrMark_record hk hr hcurrent call.ownerCapability with
        hkept | ⟨hsame, habandoned | hmarked⟩
      · have hafter : (if (s.abandonOrMark record call.ownerCapability).2 then
            createRecord (s.abandonOrMark record call.ownerCapability).1 call
          else createFailed (s.abandonOrMark record call.ownerCapability).1
            { backendError := .failed }).1.displaysById[d]? = some r := by
          split_ifs
          · exact createRecord_record hkept call
          · exact hkept
        rw [hafter]
        exact .kept
      · exact .abandoned rfl herror hsame hcurrent habandoned
      · by_cases habandoned : (s.abandonOrMark record call.ownerCapability).2 = true
        · exact .abandoned rfl herror hsame hcurrent habandoned
        · dsimp only
          rw [if_neg habandoned, createFailed, hmarked]
          refine .condemned ?_ hsame
          rw [herror, condemned?]
    · rw [createFailed, hr]
      exact .kept
  | busy =>
    rw [healed, createFailed, hr]
    exact .kept

/-- What a departing frame does to a record when it goes on. -/
theorem settleDeparture_record (hk : s.RecordsKeyed) (hr : s.displaysById[d]? = some r)
    {frame : Frame} {record : TemporaryDisplayRecord} (hdeparting : frame.departing = some record)
    (reply : BackendDisplayResult) :
    Fate s frame reply r (s.settleDeparture record reply.error).displaysById[d]? := by
  cases herror : reply.error with
  | none =>
    rcases removeIfCurrent_record hk hr record .retainConnectorReservation with
      hkept | ⟨hsame, hgone⟩
    · rw [settleDeparture, hkept]
      exact .kept
    · refine .retired ?_ hsame (.inl hgone)
      rw [herror]
      cases frame with
      | removeDepart | releaseDepart | reapDepart => exact hdeparting
      | _ => cases hdeparting
  | failed =>
    rcases markIfCurrent_record hk hr record with hkept | ⟨hsame, hmarked⟩
    · rw [settleDeparture, hkept]
      exact .kept
    · rw [settleDeparture, hmarked]
      refine .condemned ?_ hsame
      rw [herror]
      cases frame with
      | removeDepart | releaseDepart | reapDepart => exact hdeparting
      | _ => cases hdeparting
  | busy =>
    rw [settleDeparture, hr]
    exact .kept

/-- A record goes on unchanged, or its fate can be read off the frame. -/
theorem resume_record (hk : s.RecordsKeyed) {frame : Frame} (hframe : WellFormed frame)
    (hr : s.displaysById[d]? = some r) (reply : BackendDisplayResult) :
    Fate s frame reply r (resume s frame reply).1.displaysById[d]? := by
  have hremoved {record : TemporaryDisplayRecord} (mode : RemoveTemporaryDisplayMode)
      (hretired : retired? frame reply.error = some record) :
      Fate s frame reply r (s.removeIfCurrent record mode).displaysById[d]? := by
    rcases removeIfCurrent_record hk hr record mode with hkept | ⟨hsame, hgone⟩
    · rw [hkept]
      exact .kept
    · exact .retired hretired hsame (.inl hgone)
  have hkept : Fate s frame reply r s.displaysById[d]? := by
    rw [hr]
    exact .kept
  cases frame with
  | createHeal call record => exact healed_record hk hr call record reply
  | createReserve created record =>
    rw [resume, reserved]
    split_ifs with herror
    · refine hremoved .releaseConnectorReservation ?_
      cases h : reply.error with
      | none => exact absurd h herror
      | _ => rfl
    · exact hkept
    · exact hkept
  | createUnreserveGone | createDepartGone | setRenderAdapter => exact hkept
  | createArrive created record identityReserved =>
    rw [resume, arrived]
    split_ifs with herror hreserved
    · exact hkept
    · refine hremoved .releaseConnectorReservation ?_
      rw [Bool.not_eq_true] at hreserved
      rw [hreserved]
      cases h : reply.error with
      | none => exact absurd h herror
      | _ => rfl
    · split
      · exact hkept
      · split_ifs <;> exact hkept
  | createUnreserve record arrivalError => exact hremoved _ rfl
  | createDepartPending createdRecord record =>
    rw [resume, departedPending]
    split_ifs with herror
    · refine hremoved .retainConnectorReservation ?_
      rw [herror, retired?]
    · exact hkept
  | reclaim request now =>
    rcases (resume_reclaim s request now reply).2 with ⟨hok, hstore⟩ | hstore
    · rw [hstore]
      by_cases hsucceeded : (s.reclaimTemporaryDisplay request now).2.status.error = .none
      · rcases s.reclaimTemporaryDisplay_cases request now with
          ⟨display, lease, hpresent, -, -, -, -, -, -, -, h⟩ | ⟨-, hfailed⟩
        · rw [h, getElem?_rotateLease, hr]
          exact .rotated rfl hok hpresent hsucceeded
        · exact absurd hsucceeded hfailed
      · rw [reclaimTemporaryDisplay_failed hsucceeded]
        exact hkept
    · rw [hstore]
      exact hkept
  | removeDepart | releaseDepart | reapDepart =>
    rw [resume_departing hframe rfl]
    exact settleDeparture_record hk hr rfl reply
  | applyDisplayManifest canonical =>
    rw [resume, manifestApplied]
    split_ifs
    · exact hkept
    · rw [(s.applyDisplayManifest_records canonical).1]
      exact hkept

end Controller

end VirtualDisplay
