import VirtualDisplay.Controller.Contract
import VirtualDisplay.Controller.Records
import VirtualDisplay.LeaseStore.Manifest

/-!
# The store has the manifest of the backend

A manifest goes to the backend first, with the controller lock given up, and into the store once
the lock is back.  Two things keep the store in step.  The slot is not given up before the lock has
been taken back, so acceptances reach the store in the order in which the backend made them; and
the store cannot refuse what the backend has accepted (`CanonicalManifest`).

`recording` is any backend together with the list of the manifests it has accepted.
`manifest_agreement` compares that list with the store.

## What is here

* `start_sameManifest`, `resume_sameManifest` — only the stretch behind the backend's answer to a
  manifest brings a manifest into the store.
* `start_canonical` — a manifest goes to the backend in its canonical form, so the store accepts it
  as it is.
* `Unsettled` — a manifest that the backend has accepted and the store has not got yet; there is one
  at most, and its call holds the slot.
* `ManifestAgreed` — the invariant: the store has the newest accepted manifest but for that one.

The backend may answer whatever it likes, also after a manifest has taken effect.  What it records
is the acceptances alone.
-/

set_option autoImplicit false

namespace VirtualDisplay

open Std SlotCalls DisplayStore Controller

/-! ## Operations that leave the manifest alone -/

namespace DisplayStore

/-- Neither the manifest nor the number of permanent slots is any different. -/
structure SameManifest (s s' : DisplayStore) : Prop where
  manifest : s'.displayManifest = s.displayManifest
  limit : s'.maxPermanentDisplays = s.maxPermanentDisplays

namespace SameManifest

theorem refl (s : DisplayStore) : SameManifest s s := ⟨rfl, rfl⟩

theorem trans {s₁ s₂ s₃ : DisplayStore} (h : SameManifest s₁ s₂) (h' : SameManifest s₂ s₃) :
    SameManifest s₁ s₃ := ⟨h'.manifest.trans h.manifest, h'.limit.trans h.limit⟩

theorem eraseDisplay {s s' : DisplayStore} (h : SameManifest s s') (displayId leaseId : UInt64) :
    SameManifest s (s'.eraseDisplay displayId leaseId) := by
  refine h.trans ?_
  rw [DisplayStore.eraseDisplay, removeLeaseIfEmpty]
  split_ifs <;> exact ⟨rfl, rfl⟩

theorem removeTemporaryDisplay (s : DisplayStore) (request : LeaseDisplayRequest)
    (mode : RemoveTemporaryDisplayMode) :
    SameManifest s (s.removeTemporaryDisplay request mode).1 := by
  rcases s.removeTemporaryDisplay_cases request mode with ⟨_, reservations, -, -, h⟩ | ⟨h, -⟩
  · rw [h]
    refine eraseDisplay ?_ _ _
    exact ⟨rfl, rfl⟩
  · rw [h]
    exact refl s

theorem markTemporaryDisplayPendingDeparture (s : DisplayStore) (request : LeaseDisplayRequest) :
    SameManifest s (s.markTemporaryDisplayPendingDeparture request).1 := by
  rcases s.markTemporaryDisplayPendingDeparture_cases request with ⟨_, -, -, h⟩ | ⟨h, -⟩ <;> rw [h]
  · exact ⟨rfl, rfl⟩
  · exact refl s

theorem abandonPendingTemporaryDisplay (s : DisplayStore) (request : LeaseDisplayRequest)
    (expectedGeneration : UInt64) (ownerCapability : OwnerCapability) :
    SameManifest s
      (s.abandonPendingTemporaryDisplay request expectedGeneration ownerCapability).1 := by
  rcases s.abandonPendingTemporaryDisplay_cases request expectedGeneration ownerCapability with
    ⟨_, _, -, -, -, -, -, -, h⟩ | ⟨h, -⟩
  · rw [h]
    refine eraseDisplay ?_ _ _
    exact ⟨rfl, rfl⟩
  · rw [h]
    exact refl s

theorem removeIfCurrent (s : DisplayStore) (record : TemporaryDisplayRecord)
    (mode : RemoveTemporaryDisplayMode) : SameManifest s (s.removeIfCurrent record mode) := by
  rw [DisplayStore.removeIfCurrent]
  split_ifs
  · exact removeTemporaryDisplay ..
  · exact refl s

theorem settleDeparture (s : DisplayStore) (record : TemporaryDisplayRecord)
    (error : BackendError) : SameManifest s (s.settleDeparture record error) := by
  cases error with
  | none => exact removeIfCurrent s record _
  | failed =>
    rw [DisplayStore.settleDeparture, markIfCurrent]
    split_ifs
    · exact markTemporaryDisplayPendingDeparture ..
    · exact refl s
  | busy => exact refl s

theorem abandonOrMark (s : DisplayStore) (record : TemporaryDisplayRecord)
    (ownerCapability : Option OwnerCapability) :
    SameManifest s (s.abandonOrMark record ownerCapability).1 := by
  cases ownerCapability with
  | none => exact markTemporaryDisplayPendingDeparture ..
  | some ownerCapability =>
    rw [DisplayStore.abandonOrMark]
    split_ifs
    · exact abandonPendingTemporaryDisplay ..
    · exact trans (abandonPendingTemporaryDisplay ..) (markTemporaryDisplayPendingDeparture ..)

theorem createTemporaryDisplayImpl (s : DisplayStore) (request : CreateTemporaryDisplayRequest)
    (ownerCapability : Option OwnerCapability) (now : TimePoint) :
    SameManifest s (s.createTemporaryDisplayImpl request ownerCapability now).1 := by
  rcases s.createTemporaryDisplayImpl_cases request ownerCapability now with
    ⟨_, ⟨-, _, _, -, -, h⟩ | ⟨h, -⟩⟩ <;> rw [h] <;> exact ⟨rfl, rfl⟩

theorem storeCreate (s : DisplayStore) (call : CreateCall) :
    SameManifest s (storeCreate s call).1 := by
  rw [Controller.storeCreate]
  cases call.ownerCapability with
  | none => exact createTemporaryDisplayImpl ..
  | some ownerCapability =>
    rcases s.createTemporaryDisplayOwned_cases { display := call.request, ownerCapability }
      call.now with ⟨-, h⟩ | ⟨h, -⟩
    · dsimp only
      rw [h]
      exact createTemporaryDisplayImpl ..
    · dsimp only
      rw [h]
      exact refl s

theorem createRecord (s : DisplayStore) (call : CreateCall) :
    SameManifest s (createRecord s call).1 := by
  rw [createRecord_fst]
  exact storeCreate s call

end SameManifest

end DisplayStore

open DisplayStore in
/-- No call changes the manifest before it has given up the lock. -/
theorem start_sameManifest (s : DisplayStore) (op : ControllerOp) :
    SameManifest s (start s op).1 := by
  have hcreate (call : CreateCall) :
      SameManifest s (Controller.createTemporaryDisplayImpl s call).1 := by
    rw [Controller.createTemporaryDisplayImpl]
    split
    · split
      · split_ifs
        · exact .refl s
        · exact .createRecord s call
      · exact .createRecord s call
    · exact .refl s
  cases op with
  | createTemporaryDisplay request now => exact hcreate _
  | createTemporaryDisplayOwned request now =>
    rw [start]
    split
    · exact hcreate _
    · exact .refl s
  | reclaimTemporaryDisplay request now =>
    rw [start, Controller.reclaimTemporaryDisplay]
    split <;> exact .refl s
  | removeTemporaryDisplay request =>
    rw [start, Controller.removeTemporaryDisplay]
    split
    · split
      · exact .refl s
      · split_ifs <;> exact .refl s
    · exact .refl s
  | feedLease request now =>
    rw [start]
    rcases s.feedLease_cases request now with ⟨lease, -, -, -, h⟩ | ⟨h, -⟩
    · rw [h]
      exact ⟨rfl, rfl⟩
    · rw [h]
      exact .refl s
  | releaseLease request =>
    rw [start, Controller.releaseLease]
    split
    · split
      · rcases s.releaseLease_cases request with ⟨-, h⟩ | ⟨h, -⟩
        · rw [h]
          exact ⟨rfl, rfl⟩
        · rw [h]
          exact .refl s
      · rw [releaseNext_fst]
        exact .refl s
    · exact .refl s
  | setPermanentDisplayCount request =>
    simp only [start, Controller.setPermanentDisplayCount]
    split
    · rw [applyDisplayManifest_fst]
      exact .refl s
    · exact .refl s
  | applyDisplayManifest manifest =>
    rw [start, applyDisplayManifest_fst]
    exact .refl s
  | setRenderAdapter request =>
    rw [start, Controller.setRenderAdapter]
    split_ifs <;> exact .refl s
  | reapExpired now =>
    rw [start, reapNext_fst]
    exact .refl s

/-- Only the stretch after the backend's answer to a manifest changes the manifest. -/
theorem resume_sameManifest (s : DisplayStore) {frame : Frame}
    (hframe : ∀ canonical, frame ≠ .applyDisplayManifest canonical)
    (reply : BackendDisplayResult) : SameManifest s (resume s frame reply).1 := by
  cases frame with
  | applyDisplayManifest canonical => exact absurd rfl (hframe canonical)
  | createHeal call record =>
    rw [resume]
    cases reply.error with
    | none => exact (SameManifest.removeIfCurrent s record _).trans (.createRecord _ call)
    | failed =>
      rw [healed]
      split_ifs
      · dsimp only
        split_ifs
        · exact (SameManifest.abandonOrMark s record _).trans (.createRecord _ call)
        · exact .abandonOrMark s record _
      · exact .refl s
    | busy => exact .refl s
  | createReserve created record =>
    rw [resume, reserved]
    split_ifs
    · exact .removeIfCurrent s record _
    · exact .refl s
    · exact .refl s
  | createUnreserveGone | createDepartGone | setRenderAdapter => exact .refl s
  | createArrive created record identityReserved =>
    rw [resume, arrived]
    split_ifs
    · exact .refl s
    · exact .removeIfCurrent s record _
    · split
      · exact .refl s
      · split_ifs <;> exact .refl s
  | createUnreserve record arrivalError => exact .removeIfCurrent s record _
  | createDepartPending createdRecord record =>
    rw [resume, departedPending]
    split_ifs
    · exact .removeIfCurrent s record _
    · exact .refl s
  | reclaim request now =>
    rcases (resume_reclaim s request now reply).2 with ⟨-, h⟩ | h
    · rw [h]
      rcases s.reclaimTemporaryDisplay_cases request now with
        ⟨display, lease, -, -, -, -, -, -, -, -, h⟩ | ⟨h, -⟩
      · rw [h]
        exact ⟨rfl, rfl⟩
      · rw [h]
        exact .refl s
    · rw [h]
      exact .refl s
  | removeDepart request record =>
    rw [resume]
    cases reply.error with
    | none =>
      rw [removed]
      split_ifs
      · exact .removeTemporaryDisplay s request _
      · exact .refl s
    | failed =>
      rw [removed]
      dsimp only
      split_ifs
      · exact .markTemporaryDisplayPendingDeparture s request
      · exact .refl s
    | busy => exact .refl s
  | releaseDepart display rest error =>
    rw [resume, releaseNext_fst]
    exact .settleDeparture s display _
  | reapDepart display rest count =>
    rw [resume, reapNext_fst]
    exact .settleDeparture s display _

/-! ## Manifests on their way -/

theorem applyDisplayManifest_canonical {s : DisplayStore} {manifest canonical : DisplayManifest}
    (h : (Controller.applyDisplayManifest s manifest).2 =
      .yield (.applyDisplayManifest canonical)) :
    CanonicalManifest s.maxPermanentDisplays canonical := by
  rw [Controller.applyDisplayManifest] at h
  split at h
  · rename_i hvalid
    split at h
    · cases h
    · rename_i canonical' hnames
      cases h
      exact canonicalManifest_of_valid hvalid hnames
  · cases h

/-- What goes to the backend is canonical. -/
theorem start_canonical {s : DisplayStore} {op : ControllerOp} {canonical : DisplayManifest}
    (h : (start s op).2 = .yield (.applyDisplayManifest canonical)) :
    CanonicalManifest s.maxPermanentDisplays canonical := by
  cases op with
  | createTemporaryDisplay | createTemporaryDisplayOwned =>
    have hstart := start_next h
    generalize (start s _).1 = s' at hstart
    generalize hframe : Frame.applyDisplayManifest canonical = frame at hstart
    cases hstart with
    | manifests hnone => cases hnone
    | creates =>
      rw [createdFrame] at hframe
      split_ifs at hframe
    | _ => cases hframe
  | reclaimTemporaryDisplay request now =>
    rw [start, Controller.reclaimTemporaryDisplay] at h
    split at h <;> cases h
  | removeTemporaryDisplay request =>
    rw [start, Controller.removeTemporaryDisplay] at h
    split at h
    · split at h
      · cases h
      · split_ifs at h
        cases h
    · cases h
  | feedLease request now => cases h
  | releaseLease request =>
    rw [start, Controller.releaseLease] at h
    split at h
    · split at h
      · cases h
      · cases hdisplays : s.temporaryDisplaysForLease request.leaseId with
        | nil =>
          rw [hdisplays] at h
          cases h
        | cons =>
          rw [hdisplays] at h
          cases h
    · cases h
  | setPermanentDisplayCount request =>
    simp only [start, Controller.setPermanentDisplayCount] at h
    split at h
    · exact applyDisplayManifest_canonical h
    · cases h
  | applyDisplayManifest manifest => exact applyDisplayManifest_canonical h
  | setRenderAdapter request =>
    rw [start, Controller.setRenderAdapter] at h
    split_ifs at h
    cases h
  | reapExpired now =>
    rw [start] at h
    cases hlisted : s.reapCandidates now with
    | nil =>
      rw [hlisted] at h
      cases h
    | cons =>
      rw [hlisted] at h
      cases h

/-- A call does not come to its manifest after another frame. -/
theorem resume_ne_manifest {s : DisplayStore} {frame : Frame} {reply : BackendDisplayResult}
    {canonical : DisplayManifest} :
    (resume s frame reply).2 ≠ .yield (.applyDisplayManifest canonical) := by
  intro h
  have hnext := resume_next h
  generalize (resume s frame reply).1 = s' at hnext
  generalize hframe : Frame.applyDisplayManifest canonical = next at hnext
  cases hnext with
  | healed =>
    rw [createdFrame] at hframe
    split_ifs at hframe
  | _ => cases hframe

section Recording

variable {ρ Outcome : Type}

/-! ## The manifests the backend has accepted -/

/-- A backend and the manifests it has accepted, the last one at the end. -/
structure Recorded (ρ : Type) where
  device : ρ
  accepted : List DisplayManifest := []

/-- The manifest the backend is on, if it was on `initialManifest` before it accepted any. -/
def Recorded.manifest (recorded : Recorded ρ) (initialManifest : DisplayManifest) :
    DisplayManifest :=
  recorded.accepted.getLast?.getD initialManifest

/-- The manifest a call has had accepted when it gets this reply. -/
def acceptedManifest? (call : BackendCall) (reply : BackendDisplayResult) :
    Option DisplayManifest :=
  match call with
  | .applyDisplayManifest manifest => if reply.error = .none then some manifest else none
  | _ => none

/-- Any backend, with a record of the manifests it accepts. -/
def recording (D : Device ρ Frame Outcome BackendDisplayResult) :
    Device (Recorded ρ) Frame Outcome BackendDisplayResult where
  serve recorded frame outcome :=
    (D.serve recorded.device frame outcome).map fun served ↦
      ({ device := served.1
         accepted :=
          recorded.accepted ++ (acceptedManifest? frame.backendCall served.2).toList }, served.2)

/-- The manifest the backend has accepted from this call and the store has not got yet. -/
def Unsettled (call : Call ControllerOp Frame BackendDisplayResult) (manifest : DisplayManifest) :
    Prop :=
  ∃ reply, call.phase = .served reply ∧
    acceptedManifest? call.frame.backendCall reply = some manifest

theorem acceptedManifest?_eq_some {frame : Frame} {reply : BackendDisplayResult}
    {manifest : DisplayManifest} :
    acceptedManifest? frame.backendCall reply = some manifest ↔
      frame = .applyDisplayManifest manifest ∧ reply.error = .none := by
  cases frame with
  | applyDisplayManifest canonical =>
    rw [Frame.backendCall, acceptedManifest?]
    split_ifs with herror
    · simp [herror]
    · simp [herror]
  | _ =>
    constructor
    · intro h
      cases h
    · rintro ⟨h, -⟩
      cases h

theorem Recorded.manifest_accept (recorded : Recorded ρ) (device : ρ) (accepted : DisplayManifest)
    (initialManifest : DisplayManifest) :
    ({ device, accepted := recorded.accepted ++ [accepted] } : Recorded ρ).manifest
      initialManifest = accepted := by
  rw [Recorded.manifest, List.getLast?_concat, Option.getD_some]

variable {D : Device ρ Frame Outcome BackendDisplayResult}
  {s s' : System DisplayStore (Recorded ρ) ControllerOp Frame BackendDisplayResult}
  {e : Event ControllerOp Outcome} {initialManifest : DisplayManifest}

/-! ## The invariant -/

/-- The store has the manifest of the backend, but for a call that brings it. -/
structure ManifestAgreed (initialManifest : DisplayManifest)
    (s : System DisplayStore (Recorded ρ) ControllerOp Frame BackendDisplayResult) : Prop
    extends Sound s where
  canonical : ∀ (id : Nat) (call : Call ControllerOp Frame BackendDisplayResult)
    (manifest : DisplayManifest), s.calls[id]? = some call →
      call.frame = .applyDisplayManifest manifest →
        CanonicalManifest s.locked.maxPermanentDisplays manifest
  brought : ∀ (id : Nat) (call : Call ControllerOp Frame BackendDisplayResult)
    (manifest : DisplayManifest), s.calls[id]? = some call → Unsettled call manifest →
      s.device.manifest initialManifest = manifest
  settled : (∀ (id : Nat) (call : Call ControllerOp Frame BackendDisplayResult)
    (manifest : DisplayManifest), s.calls[id]? = some call → ¬Unsettled call manifest) →
      s.locked.displayManifest = s.device.manifest initialManifest

theorem Unsettled.holdsSlot {call : Call ControllerOp Frame BackendDisplayResult}
    {manifest : DisplayManifest} (h : Unsettled call manifest) :
    call.phase.holdsSlot = true := by
  rcases h with ⟨reply, hphase, -⟩
  rw [hphase]
  rfl

/-- Through a stretch that leaves the manifest alone. -/
theorem ManifestAgreed.advance {id : Nat} {op : ControllerOp} {turn : Turn}
    (h : ManifestAgreed initialManifest s) (hsame : SameManifest s.locked turn.1)
    (hquiet : ∀ (call : Call ControllerOp Frame BackendDisplayResult)
      (manifest : DisplayManifest), s.calls[id]? = some call → ¬Unsettled call manifest)
    (hyield : ∀ manifest, turn.2 = .yield (.applyDisplayManifest manifest) →
      CanonicalManifest s.locked.maxPermanentDisplays manifest)
    (hsound : Sound (s.advance id op turn)) :
    ManifestAgreed initialManifest (s.advance id op turn) where
  toSound := hsound
  canonical i call manifest hi hframe := by
    refine hsame.limit.symm ▸ ?_
    rcases of_getElem?_advance hi with ⟨-, frame, hnext, rfl⟩ | ⟨-, hi⟩
    · cases (show frame = _ from hframe)
      exact hyield manifest hnext
    · exact h.canonical i call manifest hi hframe
  brought i call manifest hi hunsettled := by
    rcases of_getElem?_advance hi with ⟨-, frame, hnext, rfl⟩ | ⟨-, hi⟩
    · cases hunsettled.holdsSlot
    · exact h.brought i call manifest hi hunsettled
  settled hnone := by
    refine hsame.manifest.trans (h.settled fun i call manifest hi hunsettled ↦ ?_)
    by_cases hid : id = i
    · cases hid
      exact hquiet call manifest hi hunsettled
    · exact hnone i call manifest ((getElem?_advance_of_ne hid).trans hi) hunsettled

theorem ManifestAgreed.served {id : Nat} {op : ControllerOp} {frame : Frame} {outcome : Outcome}
    {recorded : Recorded ρ} {reply : BackendDisplayResult} (h : ManifestAgreed initialManifest s)
    (hcall : s.calls[id]? = some { op, frame }) (hslot : s.slotHeld = false)
    (hanswer : (recording D).serve s.device frame outcome = some (recorded, reply))
    (hsound : Sound { s with
      device := recorded, calls := s.calls.insert id { op, frame, phase := .served reply } }) :
    ManifestAgreed initialManifest { s with
      device := recorded, calls := s.calls.insert id { op, frame, phase := .served reply } } := by
  have hfree {i : Nat} {call : Call ControllerOp Frame BackendDisplayResult}
      {manifest : DisplayManifest} (hi : s.calls[i]? = some call) : ¬Unsettled call manifest := by
    intro hunsettled
    have hholds := hunsettled.holdsSlot
    rw [slotHeld_eq_false.mp hslot i call hi] at hholds
    cases hholds
  have hagree := h.settled fun i call manifest hi ↦ hfree hi
  rw [recording, Option.map_eq_some_iff] at hanswer
  rcases hanswer with ⟨⟨device, reply'⟩, -, heq⟩
  cases heq
  dsimp only at hsound ⊢
  refine ⟨hsound, fun i call manifest hi hframe ↦ ?_, fun i call manifest hi hunsettled ↦ ?_,
    fun hnone ↦ ?_⟩
  · rw [OrdMap.getElem?_insert] at hi
    split_ifs at hi
    · cases hi
      exact h.canonical id _ manifest hcall hframe
    · exact h.canonical i call manifest hi hframe
  · rw [OrdMap.getElem?_insert] at hi
    split_ifs at hi
    · cases hi
      rcases hunsettled with ⟨reply', hphase, haccepted⟩
      cases hphase
      dsimp only at haccepted
      rw [haccepted]
      exact Recorded.manifest_accept s.device device manifest initialManifest
    · exact absurd hunsettled (hfree hi)
  · cases haccepted : acceptedManifest? frame.backendCall reply' with
    | none =>
      rw [Option.toList_none, List.append_nil]
      exact hagree
    | some manifest =>
      have hcall' : (s.calls.insert id { op, frame, phase := .served reply' })[id]? =
          some { op, frame, phase := .served reply' } := by
        rw [OrdMap.getElem?_insert, if_pos rfl]
      exact absurd ⟨reply', rfl, haccepted⟩ (hnone id _ manifest hcall')

theorem ManifestAgreed.timedOut {id : Nat} {op : ControllerOp} {frame : Frame}
    (h : ManifestAgreed initialManifest s) (hcall : s.calls[id]? = some { op, frame })
    (hsound : Sound { s with calls := s.calls.insert id { op, frame, phase := .timedOut } }) :
    ManifestAgreed initialManifest
      { s with calls := s.calls.insert id { op, frame, phase := .timedOut } } where
  toSound := hsound
  canonical i call manifest hi hframe := by
    rw [OrdMap.getElem?_insert] at hi
    split_ifs at hi
    · cases hi
      exact h.canonical id _ manifest hcall hframe
    · exact h.canonical i call manifest hi hframe
  brought i call manifest hi hunsettled := by
    rw [OrdMap.getElem?_insert] at hi
    split_ifs at hi
    · cases hi
      cases hunsettled.holdsSlot
    · exact h.brought i call manifest hi hunsettled
  settled hnone := by
    refine h.settled fun i call manifest hi hunsettled ↦ ?_
    by_cases hid : id = i
    · cases hid
      cases hcall.symm.trans hi
      cases hunsettled.holdsSlot
    · refine hnone i call manifest ?_ hunsettled
      rw [OrdMap.getElem?_insert, if_neg hid]
      exact hi

/-- The stretch that brings the manifest into the store. -/
theorem ManifestAgreed.applied {id : Nat} {op : ControllerOp} {canonical : DisplayManifest}
    {reply : BackendDisplayResult} (h : ManifestAgreed initialManifest s)
    (hcall : s.calls[id]? =
      some { op, frame := .applyDisplayManifest canonical, phase := .served reply })
    (hok : reply.error = .none)
    (hsound : Sound (s.advance id op (resume s.locked (.applyDisplayManifest canonical) reply))) :
    ManifestAgreed initialManifest
      (s.advance id op (resume s.locked (.applyDisplayManifest canonical) reply)) := by
  have hcanonical := h.canonical id _ canonical hcall rfl
  have hresume : resume s.locked (.applyDisplayManifest canonical) reply =
      ({ s.locked with
          permanentDisplayCount := canonical.profileCount
          displayManifest := canonical
          permanentDisplaySettings := permanentSettingsFromDisplayManifest canonical },
        .done (.status {})) := by
    rw [resume, manifestApplied, if_neg (not_not.mpr hok), hcanonical.applyDisplayManifest]
    rfl
  rw [hresume] at hsound ⊢
  have hbrought := h.brought id _ canonical hcall
    ⟨reply, rfl, acceptedManifest?_eq_some.mpr ⟨rfl, hok⟩⟩
  have hother {i : Nat} {call : Call ControllerOp Frame BackendDisplayResult} (hi :
      (s.advance id op ({ s.locked with
          permanentDisplayCount := canonical.profileCount
          displayManifest := canonical
          permanentDisplaySettings := permanentSettingsFromDisplayManifest canonical },
        (.done (.status {}) : Next Frame ControllerResult))).calls[i]? = some call) :
      s.calls[i]? = some call := by
    rcases of_getElem?_advance hi with ⟨-, frame, hnext, -⟩ | ⟨-, hi⟩
    · cases hnext
    · exact hi
  refine ⟨hsound, fun i call manifest hi hframe ↦ ?_, fun i call manifest hi hunsettled ↦ ?_,
    fun _ ↦ hbrought.symm⟩
  · exact h.canonical i call manifest (hother hi) hframe
  · exact h.brought i call manifest (hother hi) hunsettled

theorem ManifestAgreed.relocked {id : Nat} {op : ControllerOp} {frame : Frame}
    {phase : Phase BackendDisplayResult} {reply : BackendDisplayResult}
    (h : ManifestAgreed initialManifest s) (hcall : s.calls[id]? = some { op, frame, phase })
    (hready : phase.reply? controller.busy = some reply)
    (hsound : Sound (s.advance id op (resume s.locked frame reply))) :
    ManifestAgreed initialManifest (s.advance id op (resume s.locked frame reply)) := by
  by_cases hframe : ∃ canonical, frame = .applyDisplayManifest canonical
  · rcases hframe with ⟨canonical, rfl⟩
    by_cases hok : reply.error = .none
    · have hserved := served_of_ready hready fun hbusy ↦ by cases hok.symm.trans hbusy
      rw [hserved] at hcall
      exact h.applied hcall hok hsound
    · refine h.advance ?_ (fun call manifest hi hunsettled ↦ ?_)
        (fun manifest hyield ↦ absurd hyield resume_ne_manifest) hsound
      · rw [resume, manifestApplied, if_pos hok]
        exact .refl s.locked
      · cases hcall.symm.trans hi
        rcases hunsettled with ⟨reply', hphase, haccepted⟩
        cases (show phase = _ from hphase)
        cases hready
        exact hok (acceptedManifest?_eq_some.mp haccepted).2
  · rw [not_exists] at hframe
    refine h.advance (resume_sameManifest s.locked hframe reply)
      (fun call manifest hi hunsettled ↦ ?_)
      (fun manifest hyield ↦ absurd hyield resume_ne_manifest) hsound
    cases hcall.symm.trans hi
    rcases hunsettled with ⟨reply', -, haccepted⟩
    exact hframe manifest (acceptedManifest?_eq_some.mp haccepted).1

theorem ManifestAgreed.move (h : ManifestAgreed initialManifest s)
    (hmove : Move controller (recording D) s e s') : ManifestAgreed initialManifest s' := by
  have hsound := h.toSound.move hmove
  cases hmove with
  | @started id op hfresh =>
    refine h.advance (start_sameManifest s.locked op) (fun call manifest hi ↦ ?_)
      (fun manifest hyield ↦ start_canonical hyield) hsound
    rw [hfresh] at hi
    cases hi
  | served hcall hslot hanswer => exact h.served hcall hslot hanswer hsound
  | timedOut hcall => exact h.timedOut hcall hsound
  | relocked hcall hready => exact h.relocked hcall hready hsound

/-- **The store has the manifest of the backend.**  Over any backend and in every run, when no
manifest is under way the manifest of the store is the last one the backend has accepted, or the
one the controller was created with.  What the backend has accepted is what the store will hold,
and the update of the store cannot fail. -/
theorem manifest_agreement {maxPermanentDisplays maxTemporaryDisplays : UInt32}
    {reservations : OrdMap UInt64 UInt32} {initialManifest : Option DisplayManifest} {device : ρ}
    (hrun : Steps controller (recording D) (fun _ _ ↦ true)
      { locked := .new maxPermanentDisplays maxTemporaryDisplays reservations initialManifest
        device := { device } } s) :
    ((∀ (id : Nat) (call : Call ControllerOp Frame BackendDisplayResult)
        (manifest : DisplayManifest), s.calls[id]? = some call →
          call.frame ≠ .applyDisplayManifest manifest) →
      s.locked.displayManifest = s.device.accepted.getLast?.getD (DisplayStore.new
        maxPermanentDisplays maxTemporaryDisplays reservations initialManifest).displayManifest) ∧
    ∀ (id : Nat) (call : Call ControllerOp Frame BackendDisplayResult)
      (manifest : DisplayManifest) (reply : BackendDisplayResult), s.calls[id]? = some call →
        call.frame = .applyDisplayManifest manifest → call.phase = .served reply →
          reply.error = .none →
            (resume s.locked call.frame reply).2 = .done (.status {}) ∧
              (resume s.locked call.frame reply).1.displayManifest = manifest := by
  have h : ManifestAgreed (DisplayStore.new maxPermanentDisplays maxTemporaryDisplays reservations
      initialManifest).displayManifest s := by
    refine hrun.invariant (fun _ _ _ h _ hmove ↦ h.move hmove)
      ⟨sound_initial (new_fresh ..).1, fun id call manifest hcall ↦ ?_,
        fun id call manifest hcall ↦ ?_, fun _ ↦ rfl⟩
    · simp at hcall
    · simp at hcall
  refine ⟨fun hnone ↦ h.settled fun id call manifest hcall hunsettled ↦ ?_,
    fun id call manifest reply hcall hframe _ hok ↦ ?_⟩
  · rcases hunsettled with ⟨reply, -, haccepted⟩
    exact hnone id call manifest hcall (acceptedManifest?_eq_some.mp haccepted).1
  · rw [hframe, resume, manifestApplied, if_neg (not_not.mpr hok),
      (h.canonical id call manifest hcall hframe).applyDisplayManifest]
    exact ⟨rfl, rfl⟩

end Recording

/-- One permanent display is asked for and refused, then two are asked for; the second call waits
until the first has been answered. -/
def twoManifests : List ControllerEvent :=
  [.start 0 (.setPermanentDisplayCount { displayCount := 1 }),
    .start 1 (.setPermanentDisplayCount { displayCount := 2 }), .serve 0 (.failed false),
    .relock 0, .serve 1 .succeeded, .relock 1]

theorem twoManifests_agree :
    ∃ (s : System DisplayStore (Recorded Monitors) ControllerOp Frame BackendDisplayResult)
        (manifest : DisplayManifest),
      s.device.accepted = [manifest] ∧ s.locked.displayManifest = manifest := by
  have hexecuted : (execute controller (recording contract) (fun _ _ ↦ true)
      { locked := .new 4 4 ∅ none, device := { device := ∅ } } twoManifests).any
        (fun s ↦ s.calls.isEmpty && s.device.accepted.length == 1) = true := by
    decide
  rcases (Option.any_eq_true _ _).mp hexecuted with ⟨s, hs, hfinal⟩
  rw [Bool.and_eq_true, ExtTreeMap.isEmpty_iff, beq_iff_eq, List.length_eq_one_iff] at hfinal
  rcases hfinal with ⟨hcalls, manifest, hmanifest⟩
  have hagree := (manifest_agreement (steps_of_execute hs)).1 fun id call manifest hcall ↦ by
    rw [hcalls] at hcall
    simp at hcall
  rw [hmanifest] at hagree
  exact ⟨s, manifest, hmanifest, hagree⟩

end VirtualDisplay
