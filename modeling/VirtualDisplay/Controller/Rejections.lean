import VirtualDisplay.Controller.ManifestAgreement

/-!
# Requests that are refused

A call that finds its request invalid says so before it has done anything: it returns at once, with
the store as it was.  Once a call has given up the lock its request has been checked, and every
later check of the same request passes too, whatever has happened meanwhile.  The only check that
depends on the store is that of a manifest, and it looks at nothing but the limits.

`CallKind` sorts the calls by the type of what they return, which every branch keeps to.

## What is here

* `ControllerStatus.Invalid` — the statuses that find fault with a request, as against those with
  which the store or the backend fails.
* `Validated` — what a frame has behind it: the check of the request it carries.
* `start_refusesUnchanged`, `resume_neverRefuses` — the two halves; a call that is refused has not
  given up the lock, and one that has is not refused any more.
* `controller_refuses` — a whole run of the controller.
* `controller_kind` — a call returns a result of its own kind, which the dispatcher relies on.
-/

set_option autoImplicit false

namespace VirtualDisplay

open Std SlotCalls DisplayStore

/-- A status that finds fault with the request. -/
def ControllerStatus.Invalid (status : ControllerStatus) : Prop :=
  status.storeError = .validationFailed ∨ status.validationError ≠ .none

/-- The status a call returns; a reaper pass returns none. -/
def ControllerResult.toStatus : ControllerResult → ControllerStatus
  | .create returned _ => returned
  | .reclaim returned _ => returned
  | .status returned => returned
  | .reaped _ => {}

theorem not_invalid_of_error {error : StoreError} (h : error ≠ .validationFailed) :
    ¬(fromStoreResult { error }).Invalid := by
  rintro (herror | hvalidation)
  · exact h herror
  · exact hvalidation rfl

/-- The limits never change. -/
theorem maxPermanentDisplays_of_reaches {s s' : DisplayStore} (h : Reaches s s') :
    s'.maxPermanentDisplays = s.maxPermanentDisplays :=
  Reaches.invariant h (fun _ _ hsame hchange ↦ hchange.limits.1.trans hsame) rfl

namespace Controller

variable {s s' : DisplayStore}

/-! ## The store's own checks -/

/-- A call whose request has passed the checks of the controller. -/
def CreateCall.Validated (call : CreateCall) : Prop :=
  validateCreateTemporaryDisplay call.request = .none ∧
    ∀ ownerCapability, call.ownerCapability = some ownerCapability →
      validateCreateTemporaryDisplayOwned { display := call.request, ownerCapability } = .none

theorem createTemporaryDisplayImpl_not_invalid {request : CreateTemporaryDisplayRequest}
    (hvalid : validateCreateTemporaryDisplay request = .none)
    (ownerCapability : Option OwnerCapability) (now : TimePoint) :
    ¬(fromStoreResult
      (s.createTemporaryDisplayImpl request ownerCapability now).2.status).Invalid := by
  rw [DisplayStore.createTemporaryDisplayImpl, hvalid, placeTemporaryDisplay]
  dsimp only
  split_ifs <;> exact not_invalid_of_error (by decide)

theorem storeCreate_not_invalid {call : CreateCall} (hcall : CreateCall.Validated call) :
    ¬(fromStoreResult (storeCreate s call).2.status).Invalid := by
  obtain ⟨hvalid, howned⟩ := hcall
  rw [storeCreate]
  cases hcapability : call.ownerCapability with
  | none => exact createTemporaryDisplayImpl_not_invalid hvalid none call.now
  | some ownerCapability =>
    dsimp only
    rw [createTemporaryDisplayOwned, howned ownerCapability hcapability]
    exact createTemporaryDisplayImpl_not_invalid hvalid (some ownerCapability) call.now

theorem reclaimTemporaryDisplay_not_invalid {request : ReclaimTemporaryDisplayRequest}
    (hvalid : validateReclaimTemporaryDisplay request = .none) (now : TimePoint) :
    ¬(fromStoreResult (s.reclaimTemporaryDisplay request now).2.status).Invalid := by
  rw [DisplayStore.reclaimTemporaryDisplay, hvalid]
  dsimp only
  split
  · exact not_invalid_of_error (by decide)
  · split
    · exact not_invalid_of_error (by decide)
    · split
      · exact not_invalid_of_error (by decide)
      · split_ifs <;> exact not_invalid_of_error (by decide)

theorem removeTemporaryDisplay_not_invalid {request : LeaseDisplayRequest}
    (hvalid : validateLeaseDisplayRequest request = .none) :
    ¬(fromStoreResult (s.removeTemporaryDisplay request).2).Invalid := by
  rw [DisplayStore.removeTemporaryDisplay.eq_def, hvalid]
  dsimp only
  split <;> exact not_invalid_of_error (by decide)

/-- A store that finds fault with a lease request is left as it was. -/
theorem feedLease_invalid {request : LeaseRequest} {now : TimePoint}
    (h : (fromStoreResult (s.feedLease request now).2).Invalid) :
    (s.feedLease request now).1 = s := by
  rw [DisplayStore.feedLease] at h ⊢
  split at h
  · refine absurd h ?_
    split
    · exact not_invalid_of_error (by decide)
    · split <;> exact not_invalid_of_error (by decide)
  · rfl

theorem releaseLease_not_invalid {request : LeaseRequest}
    (hvalid : validateLeaseRequest request = .none) :
    ¬(fromStoreResult (s.releaseLease request).2).Invalid := by
  rw [DisplayStore.releaseLease, hvalid]
  dsimp only
  split <;> exact not_invalid_of_error (by decide)

/-! ## The first stretch -/

/-- A turn that ends with a request found invalid has not changed the store. -/
def RefusesUnchanged (s : DisplayStore) (turn : Turn) : Prop :=
  ∀ result, turn.2 = .done result → result.toStatus.Invalid → turn.1 = s

/-- A turn that ends does not end with a request found invalid. -/
def NeverRefuses (turn : Turn) : Prop :=
  ∀ result, turn.2 = .done result → ¬result.toStatus.Invalid

theorem NeverRefuses.unchanged {turn : Turn} (h : NeverRefuses turn) : RefusesUnchanged s turn :=
  fun result hresult hinvalid ↦ absurd hinvalid (h result hresult)

theorem refusesUnchanged_of_same {next : Next Frame ControllerResult} :
    RefusesUnchanged s (s, next) :=
  fun _ _ _ ↦ rfl

theorem neverRefuses_done {result : ControllerResult} (h : ¬result.toStatus.Invalid) :
    NeverRefuses (s, .done result) := by
  rintro _ ⟨⟩
  exact h

theorem neverRefuses_yield {frame : Frame} : NeverRefuses (s, .yield frame) := by
  rintro _ ⟨⟩

/-- A status with an error of the store or the backend finds no fault with the request. -/
theorem not_invalid_of_errors {storeError : StoreError} (backendError : BackendError)
    (h : storeError ≠ .validationFailed) :
    ¬({ storeError, backendError } : ControllerStatus).Invalid := by
  rintro (herror | hvalidation)
  · exact h herror
  · exact hvalidation rfl

theorem neverRefuses_createFailed {storeError : StoreError} (backendError : BackendError)
    (h : storeError ≠ .validationFailed) :
    NeverRefuses (createFailed s { storeError, backendError }) :=
  neverRefuses_done (not_invalid_of_errors backendError h)

theorem createRecord_neverRefuses {call : CreateCall} (hcall : CreateCall.Validated call) :
    NeverRefuses (createRecord s call) := by
  rw [createRecord_eq]
  split
  · exact neverRefuses_done (storeCreate_not_invalid hcall)
  · split
    · exact neverRefuses_createFailed .none (by decide)
    · split <;> exact neverRefuses_yield

theorem createTemporaryDisplayImpl_refusesUnchanged {call : CreateCall}
    (howned : validateCreateTemporaryDisplay call.request = .none → CreateCall.Validated call) :
    RefusesUnchanged s (createTemporaryDisplayImpl s call) := by
  rw [createTemporaryDisplayImpl]
  split
  · rename_i hvalid
    split
    · split
      · exact neverRefuses_yield.unchanged
      · exact (createRecord_neverRefuses (howned hvalid)).unchanged
    · exact (createRecord_neverRefuses (howned hvalid)).unchanged
  · exact refusesUnchanged_of_same

theorem applyDisplayManifest_refusesUnchanged (manifest : DisplayManifest) :
    RefusesUnchanged s (Controller.applyDisplayManifest s manifest) := by
  rw [Controller.applyDisplayManifest]
  split
  · split <;> exact refusesUnchanged_of_same
  · exact refusesUnchanged_of_same

/-- A call that returns at once and finds its request invalid leaves the store as it was. -/
theorem start_refusesUnchanged (s : DisplayStore) (op : ControllerOp) :
    RefusesUnchanged s (start s op) := by
  cases op with
  | createTemporaryDisplay request now =>
    exact createTemporaryDisplayImpl_refusesUnchanged fun hvalid ↦ ⟨hvalid, by rintro _ ⟨⟩⟩
  | createTemporaryDisplayOwned request now =>
    rw [start]
    split
    · rename_i howned
      refine createTemporaryDisplayImpl_refusesUnchanged fun hvalid ↦ ⟨hvalid, ?_⟩
      rintro _ ⟨⟩
      exact howned
    · exact refusesUnchanged_of_same
  | reclaimTemporaryDisplay request now =>
    rw [start, Controller.reclaimTemporaryDisplay]
    split <;> exact refusesUnchanged_of_same
  | removeTemporaryDisplay request =>
    rw [start, Controller.removeTemporaryDisplay]
    split
    · split
      · exact refusesUnchanged_of_same
      · split <;> exact refusesUnchanged_of_same
    · exact refusesUnchanged_of_same
  | feedLease request now =>
    rintro _ ⟨⟩ hinvalid
    exact feedLease_invalid hinvalid
  | releaseLease request =>
    rw [start, Controller.releaseLease]
    split
    · rename_i hvalid
      split
      · refine (neverRefuses_done ?_).unchanged
        exact releaseLease_not_invalid hvalid
      · rw [releaseNext.eq_def]
        split <;> exact refusesUnchanged_of_same
    · exact refusesUnchanged_of_same
  | setPermanentDisplayCount request =>
    simp only [start, Controller.setPermanentDisplayCount]
    split
    · exact applyDisplayManifest_refusesUnchanged _
    · exact refusesUnchanged_of_same
  | applyDisplayManifest manifest => exact applyDisplayManifest_refusesUnchanged manifest
  | setRenderAdapter request =>
    rw [start, Controller.setRenderAdapter]
    split_ifs <;> exact refusesUnchanged_of_same
  | reapExpired now =>
    rw [start, reapNext.eq_def]
    split <;> exact refusesUnchanged_of_same

/-! ## The later stretches -/

/-- What a frame still asks of the store has been checked. -/
def Validated (s : DisplayStore) : Frame → Prop
  | .createHeal call _ => CreateCall.Validated call
  | .reclaim request _ => validateReclaimTemporaryDisplay request = .none
  | .removeDepart request _ => validateLeaseDisplayRequest request = .none
  | .applyDisplayManifest canonical => CanonicalManifest s.maxPermanentDisplays canonical
  | _ => True

theorem Validated.reaches {frame : Frame} (h : Validated s frame) (hreaches : Reaches s s') :
    Validated s' frame := by
  cases frame with
  | applyDisplayManifest canonical =>
    rw [Validated, maxPermanentDisplays_of_reaches hreaches]
    exact h
  | _ => exact h

theorem createdFrame_validated (created : CreateTemporaryDisplayResult)
    (record : TemporaryDisplayRecord) : Validated s (createdFrame created record) := by
  rw [createdFrame]
  split <;> exact trivial

/-- A create that waits for anything has had its request checked. -/
theorem start_call_validated {op : ControllerOp} {call : CreateCall} {frame : Frame}
    (hop : op.createCall? = some call) (h : start s op = (s', .yield frame)) :
    CreateCall.Validated call := by
  have himpl {call : CreateCall} (h : createTemporaryDisplayImpl s call = (s', .yield frame)) :
      validateCreateTemporaryDisplay call.request = .none := by
    rw [createTemporaryDisplayImpl] at h
    split at h
    · assumption
    · cases h
  cases op with
  | createTemporaryDisplay request now =>
    cases hop
    exact ⟨himpl h, by rintro _ ⟨⟩⟩
  | createTemporaryDisplayOwned request now =>
    cases hop
    rw [start] at h
    split at h
    · rename_i howned
      refine ⟨himpl h, ?_⟩
      rintro _ ⟨⟩
      exact howned
    · cases h
  | _ => cases hop

theorem start_validated {op : ControllerOp} {frame : Frame} (h : start s op = (s', .yield frame)) :
    Validated s' frame := by
  have hnext := congrArg Prod.snd h
  have hstart := start_yield h
  cases hstart with
  | heals hcreates => exact start_call_validated hcreates h
  | creates => exact createdFrame_validated _ _
  | reclaims =>
    rw [start, Controller.reclaimTemporaryDisplay] at h
    split at h
    · assumption
    · cases h
  | removes hvalid => exact hvalid
  | manifests => exact start_canonical hnext
  | releases | reaps | adapters => exact trivial

theorem resume_validated {frame next : Frame} {reply : BackendDisplayResult}
    (h : resume s frame reply = (s', .yield next)) : Validated s' next := by
  have hresume := resume_yield h
  cases hresume with
  | healed => exact createdFrame_validated _ _
  | _ => exact trivial

theorem healed_neverRefuses {call : CreateCall} (hcall : CreateCall.Validated call)
    (pendingRecord : TemporaryDisplayRecord) (error : BackendError) :
    NeverRefuses (healed s call pendingRecord error) := by
  cases error with
  | none => exact createRecord_neverRefuses hcall
  | failed =>
    rw [healed]
    split
    · dsimp only
      split
      · exact createRecord_neverRefuses hcall
      · exact neverRefuses_createFailed .failed (by decide)
    · exact neverRefuses_createFailed .failed (by decide)
  | busy => exact neverRefuses_createFailed .busy (by decide)

theorem arrived_neverRefuses (created : CreateTemporaryDisplayResult)
    (createdRecord : TemporaryDisplayRecord) (identityReserved : Bool)
    (reply : BackendDisplayResult) :
    NeverRefuses (arrived s created createdRecord identityReserved reply) := by
  rw [arrived]
  split
  · split
    · exact neverRefuses_yield
    · exact neverRefuses_createFailed reply.error (by decide)
  · split
    · exact neverRefuses_yield
    · split_ifs
      · exact neverRefuses_yield
      · exact neverRefuses_yield
      · exact neverRefuses_done (not_invalid_of_errors .none (by decide))

theorem removed_neverRefuses {request : LeaseDisplayRequest}
    (hvalid : validateLeaseDisplayRequest request = .none) (record : TemporaryDisplayRecord)
    (error : BackendError) : NeverRefuses (removed s request record error) := by
  cases error with
  | none =>
    rw [removed]
    split
    · refine neverRefuses_done ?_
      exact removeTemporaryDisplay_not_invalid hvalid
    · exact neverRefuses_done (not_invalid_of_errors .none (by decide))
  | failed => exact neverRefuses_done (not_invalid_of_errors .failed (by decide))
  | busy => exact neverRefuses_done (not_invalid_of_errors .busy (by decide))

/-- Once its request has been checked, a call never ends with the request found invalid. -/
theorem resume_neverRefuses {frame : Frame} (hframe : Validated s frame)
    (reply : BackendDisplayResult) : NeverRefuses (resume s frame reply) := by
  cases frame with
  | createHeal call pendingRecord => exact healed_neverRefuses hframe pendingRecord reply.error
  | createReserve created createdRecord =>
    rw [resume, reserved]
    split_ifs
    · exact neverRefuses_createFailed reply.error (by decide)
    · exact neverRefuses_yield
    · exact neverRefuses_yield
  | createUnreserveGone | createDepartGone => exact neverRefuses_createFailed .none (by decide)
  | createArrive created createdRecord identityReserved =>
    exact arrived_neverRefuses created createdRecord identityReserved reply
  | createUnreserve createdRecord arrivalError =>
    exact neverRefuses_createFailed arrivalError (by decide)
  | createDepartPending createdRecord arrivedRecord =>
    rw [resume, departedPending]
    split
    · exact neverRefuses_createFailed .none (by decide)
    · exact neverRefuses_createFailed reply.error (by decide)
  | reclaim request now =>
    rw [resume, reclaimed]
    split
    · exact neverRefuses_done (not_invalid_of_errors reply.error (by decide))
    · refine neverRefuses_done ?_
      exact reclaimTemporaryDisplay_not_invalid hframe now
  | removeDepart request record => exact removed_neverRefuses hframe record reply.error
  | releaseDepart display rest backendError =>
    rw [resume, releaseNext.eq_def]
    split
    · exact neverRefuses_done (not_invalid_of_errors _ (by decide))
    · exact neverRefuses_yield
  | reapDepart display rest removed =>
    rw [resume, reapNext.eq_def]
    split
    · exact neverRefuses_done (not_invalid_of_errors .none (by decide))
    · exact neverRefuses_yield
  | applyDisplayManifest canonical =>
    have hcanonical : CanonicalManifest s.maxPermanentDisplays canonical := hframe
    rw [resume, manifestApplied, hcanonical.applyDisplayManifest]
    split
    · exact neverRefuses_done (not_invalid_of_errors reply.error (by decide))
    · exact neverRefuses_done (not_invalid_of_errors .none (by decide))
  | setRenderAdapter request =>
    exact neverRefuses_done (not_invalid_of_errors reply.error (by decide))

end Controller

/-- **A call that ends with its request found invalid has done nothing**: it has not given up the
lock, and the store is as it was. -/
theorem controller_refuses {s final : DisplayStore} {op : ControllerOp}
    {exchanged : List (Frame × BackendDisplayResult)} {result : ControllerResult}
    (h : Ends controller Reaches (Controller.start s op) exchanged final result)
    (hinvalid : result.toStatus.Invalid) : exchanged = [] ∧ final = s := by
  have hrefuses := Controller.start_refusesUnchanged s op
  have hvalidated := fun s' frame ↦ @Controller.start_validated s s' op frame
  generalize Controller.start s op = turn at h hrefuses hvalidated
  obtain ⟨s', frame | result'⟩ := turn
  · refine absurd hinvalid (@Ends.of_frames _ _ _ _ _ controller Reaches Controller.Validated
      (fun result ↦ ¬result.toStatus.Invalid) (fun _ _ _ hframe ↦ hframe.reaches)
      (fun _ _ _ _ _ _ ↦ Controller.resume_validated)
      (fun s s' frame reply result hframe hdone ↦ ?_)
      _ _ _ _ _ (hvalidated s' frame rfl) h)
    exact Controller.resume_neverRefuses hframe reply result (congrArg Prod.snd hdone)
  · cases h
    exact ⟨rfl, hrefuses result rfl hinvalid⟩

/-! ## The kind of a call -/

/-- The functions of the controller, by the type of what they return. -/
inductive CallKind where
  | create
  | reclaim
  | status
  | reap
  deriving DecidableEq

/-- What kind of call the result is one of. -/
def ControllerResult.kind : ControllerResult → CallKind
  | .create .. => .create
  | .reclaim .. => .reclaim
  | .status _ => .status
  | .reaped _ => .reap

/-- What kind of result the call has. -/
def ControllerOp.kind : ControllerOp → CallKind
  | createTemporaryDisplay .. | createTemporaryDisplayOwned .. => .create
  | reclaimTemporaryDisplay .. => .reclaim
  | reapExpired _ => .reap
  | _ => .status

/-- What kind of call the frame is one of. -/
def Frame.kind : Frame → CallKind
  | createHeal .. | createReserve .. | createUnreserveGone _ | createArrive .. | createUnreserve ..
  | createDepartGone _ | createDepartPending .. => .create
  | reclaim .. => .reclaim
  | reapDepart .. => .reap
  | removeDepart .. | releaseDepart .. | applyDisplayManifest _ | setRenderAdapter _ => .status

namespace Controller

/-- The kind of call a turn is of. -/
def turnKind (turn : Turn) : CallKind :=
  match turn.2 with
  | .yield frame => frame.kind
  | .done result => result.kind

theorem createRecord_kind (s : DisplayStore) (call : CreateCall) :
    turnKind (createRecord s call) = .create := by
  rw [createRecord_eq]
  split
  · rfl
  · split
    · rfl
    · split <;> rfl

theorem createTemporaryDisplayImpl_kind (s : DisplayStore) (call : CreateCall) :
    turnKind (createTemporaryDisplayImpl s call) = .create := by
  rw [createTemporaryDisplayImpl]
  repeat' split
  all_goals first | rfl | exact createRecord_kind s call

theorem applyDisplayManifest_kind (s : DisplayStore) (manifest : DisplayManifest) :
    turnKind (Controller.applyDisplayManifest s manifest) = .status := by
  rw [Controller.applyDisplayManifest]
  repeat' split
  all_goals rfl

theorem releaseNext_kind (s : DisplayStore) (error : BackendError)
    (displays : List TemporaryDisplayRecord) :
    turnKind (releaseNext s error displays) = .status := by
  cases displays <;> rfl

theorem reapNext_kind (s : DisplayStore) (count : UInt32)
    (displays : List TemporaryDisplayRecord) : turnKind (reapNext s count displays) = .reap := by
  cases displays <;> rfl

/-- Every branch returns what its function is declared to return. -/
theorem start_kind (s : DisplayStore) (op : ControllerOp) : turnKind (start s op) = op.kind := by
  cases op with
  | createTemporaryDisplay request now => exact createTemporaryDisplayImpl_kind s _
  | createTemporaryDisplayOwned request now =>
    rw [start]
    split
    · exact createTemporaryDisplayImpl_kind s _
    · rfl
  | reclaimTemporaryDisplay request now =>
    rw [start, Controller.reclaimTemporaryDisplay]
    split <;> rfl
  | removeTemporaryDisplay request =>
    rw [start, Controller.removeTemporaryDisplay]
    repeat' split
    all_goals rfl
  | feedLease request now => rfl
  | releaseLease request =>
    rw [start, Controller.releaseLease]
    repeat' split
    all_goals first | rfl | exact releaseNext_kind s _ _
  | setPermanentDisplayCount request =>
    simp only [start, Controller.setPermanentDisplayCount]
    split
    · exact applyDisplayManifest_kind s _
    · rfl
  | applyDisplayManifest manifest => exact applyDisplayManifest_kind s manifest
  | setRenderAdapter request =>
    rw [start, Controller.setRenderAdapter]
    repeat' split
    all_goals rfl
  | reapExpired now => exact reapNext_kind s 0 _

theorem resume_kind (s : DisplayStore) (frame : Frame) (reply : BackendDisplayResult) :
    turnKind (resume s frame reply) = frame.kind := by
  cases frame with
  | createHeal call pendingRecord =>
    rw [resume, healed.eq_def]
    repeat' split
    all_goals first | rfl | exact createRecord_kind _ call
  | createReserve created createdRecord =>
    rw [resume, reserved]
    repeat' split
    all_goals rfl
  | createUnreserveGone | createDepartGone | createUnreserve | setRenderAdapter => rfl
  | createArrive created createdRecord identityReserved =>
    rw [resume, arrived]
    repeat' split
    all_goals rfl
  | createDepartPending createdRecord arrivedRecord =>
    rw [resume, departedPending]
    split <;> rfl
  | reclaim request now =>
    rw [resume, reclaimed]
    split <;> rfl
  | removeDepart request record =>
    rw [resume, removed.eq_def]
    repeat' split
    all_goals rfl
  | releaseDepart display rest backendError => exact releaseNext_kind _ _ rest
  | reapDepart display rest removed => exact reapNext_kind _ _ rest
  | applyDisplayManifest canonical =>
    rw [resume, manifestApplied]
    split <;> rfl

end Controller

/-- A call returns what its function is declared to return. -/
theorem controller_kind {s final : DisplayStore} {op : ControllerOp}
    {exchanged : List (Frame × BackendDisplayResult)} {result : ControllerResult}
    {Other : DisplayStore → DisplayStore → Prop}
    (h : Ends controller Other (Controller.start s op) exchanged final result) :
    result.kind = op.kind := by
  have hkind := Controller.start_kind s op
  generalize Controller.start s op = turn at h hkind
  induction h with
  | done => exact hkind
  | @resumed locked changed final frame reply result exchanged hother hrest ih =>
    exact ih ((Controller.resume_kind changed frame reply).trans hkind)

end VirtualDisplay
