import VirtualDisplay.LeaseStore.Changes

/-!
# Leases do not reach into each other

A caller names the lease it acts for, and the maps of the store are keyed by display.  `SameOutside`
says that two stores agree on every record and every lease but those of certain lease ids.
`StoreOp.isolated` is the frame of the operations that name a lease, and
`reclaimTemporaryDisplay_isolated` that of a reclaim, which names a display and touches the lease it
finds it under.

Together they fence a reclaim: what has moved away from a lease is out of reach of every operation
that still names it (`lease_isolation`).

## What is here

* `SameOutside.of_display`, `SameOutside.of_map` — the two ways in which operations change the map
  of the records: one display, or every record by itself.
* `isolated`, `reclaimTemporaryDisplay_isolated` — the frame of each operation.
* `record_of_run` — a record of one display through a run in which the display is never without one:
  it changes at most in its times, the pending mark and the lease it is under.
* `reclaim_moves` — a reclaim moves all displays of the old lease, not only the one it names.
* `lease_isolation` — the three parts together.

The old lease id may be used again at once.  A release that is late and still means the old lease
then hits the new displays under that id, which is outside of what the store can fence.
-/

set_option autoImplicit false

namespace VirtualDisplay

open Std

namespace DisplayStore

variable {s s' : DisplayStore}

/-! ## Frames -/

/-- The stores agree on the records and leases of all other lease ids. -/
structure SameOutside (inside : UInt64 → Prop) (s s' : DisplayStore) : Prop where
  records : ∀ (d : UInt64) (r : TemporaryDisplayRecord), ¬inside r.leaseId →
    (s'.displaysById[d]? = some r ↔ s.displaysById[d]? = some r)
  leases : ∀ L : UInt64, ¬inside L → s'.leasesById[L]? = s.leasesById[L]?

namespace SameOutside

variable {inside : UInt64 → Prop}

theorem refl (s : DisplayStore) : SameOutside inside s s := ⟨fun _ _ _ ↦ .rfl, fun _ _ ↦ rfl⟩

/-- What happens to the record of one display, where none but records of the leases inside come
and go. -/
theorem of_display (d₀ : UInt64) (after : Option TemporaryDisplayRecord)
    (hafter : ∀ d : UInt64, s'.displaysById[d]? = if d₀ = d then after else s.displaysById[d]?)
    (hgone : ∀ r, s.displaysById[d₀]? = some r → inside r.leaseId)
    (hnew : ∀ r, after = some r → inside r.leaseId)
    (hleases : ∀ L, ¬inside L → s'.leasesById[L]? = s.leasesById[L]?) :
    SameOutside inside s s' where
  records d r hr := by
    rw [hafter]
    split_ifs with hd
    · rw [← hd]
      exact ⟨fun h ↦ absurd (hnew r h) hr, fun h ↦ absurd (hgone r h) hr⟩
    · rfl
  leases := hleases

/-- What happens to each record by itself, where records of the other leases are left alone. -/
theorem of_map {f : TemporaryDisplayRecord → TemporaryDisplayRecord}
    (hafter : ∀ d : UInt64, s'.displaysById[d]? = s.displaysById[d]?.map f)
    (hsame : ∀ r, ¬inside r.leaseId → f r = r)
    (hinside : ∀ r, inside r.leaseId → inside (f r).leaseId)
    (hleases : ∀ L, ¬inside L → s'.leasesById[L]? = s.leasesById[L]?) :
    SameOutside inside s s' where
  records d r hr := by
    rw [hafter, Option.map_eq_some_iff]
    constructor
    · rintro ⟨r₀, hr₀, rfl⟩
      have hout : ¬inside r₀.leaseId := fun h ↦ hr (hinside r₀ h)
      rwa [hsame r₀ hout]
    · intro h
      exact ⟨r, h, hsame r hr⟩
  leases := hleases

end SameOutside

/-! ## One lease -/

theorem getElem?_leases_eraseDisplay_of_ne {displayId leaseId L : UInt64} (hne : L ≠ leaseId) :
    (s.eraseDisplay displayId leaseId).leasesById[L]? = s.leasesById[L]? := by
  rw [eraseDisplay, removeLeaseIfEmpty]
  split_ifs
  · rfl
  · rw [OrdMap.getElem?_erase, if_neg hne.symm]

/-- Erasing a display stays within its lease. -/
theorem eraseDisplay_isolated {displayId leaseId : UInt64} {display : TemporaryDisplayRecord}
    (hdisplay : s.displaysById[displayId]? = some display) (hlease : display.leaseId = leaseId) :
    SameOutside (· = leaseId) s (s.eraseDisplay displayId leaseId) := by
  refine .of_display displayId none (fun d ↦ ?_) (fun r hr ↦ ?_) (fun _ h ↦ nomatch h)
    fun L hL ↦ getElem?_leases_eraseDisplay_of_ne hL
  · rw [eraseDisplay_displaysById, OrdMap.getElem?_erase]
  · cases hdisplay.symm.trans hr
    exact hlease

theorem createTemporaryDisplayImpl_isolated (s : DisplayStore)
    (request : CreateTemporaryDisplayRequest) (ownerCapability : Option OwnerCapability)
    (now : TimePoint) :
    SameOutside (· = request.leaseId) s
      (s.createTemporaryDisplayImpl request ownerCapability now).1 := by
  rcases s.createTemporaryDisplayImpl_cases request ownerCapability now with
    ⟨reservations, ⟨haccepted, connectorIndex, retainIdentity, -, -, h⟩ | ⟨h, -⟩⟩
  · rw [h]
    refine .of_display request.displayId _ (fun d ↦ OrdMap.getElem?_insert ..) (fun r hr ↦ ?_)
      (fun r hr ↦ ?_) fun L hL ↦ ?_
    · rw [haccepted.absent] at hr
      cases hr
    · cases hr
      rfl
    · rw [commitTemporaryDisplay]
      dsimp only
      rw [OrdMap.getElem?_insert]
      exact if_neg (Ne.symm hL)
  · rw [h]
    exact ⟨fun _ _ _ ↦ .rfl, fun _ _ ↦ rfl⟩

/-- A create leaves a record that is there alone, even one of its own display. -/
theorem createTemporaryDisplayImpl_present {request : CreateTemporaryDisplayRequest}
    {ownerCapability : Option OwnerCapability} {now : TimePoint} {d : UInt64}
    {r : TemporaryDisplayRecord} (hr : s.displaysById[d]? = some r) :
    (s.createTemporaryDisplayImpl request ownerCapability now).1.displaysById[d]? = some r := by
  rcases s.createTemporaryDisplayImpl_cases request ownerCapability now with
    ⟨reservations, ⟨haccepted, connectorIndex, retainIdentity, -, -, h⟩ | ⟨h, -⟩⟩
  · have hne : ¬request.displayId = d := by
      rintro rfl
      rw [haccepted.absent] at hr
      cases hr
    rw [h, commitTemporaryDisplay]
    exact (OrdMap.getElem?_insert ..).trans ((if_neg hne).trans hr)
  · rw [h]
    exact hr

theorem removeTemporaryDisplay_isolated (s : DisplayStore) (request : LeaseDisplayRequest)
    (mode : RemoveTemporaryDisplayMode) :
    SameOutside (· = request.leaseId) s (s.removeTemporaryDisplay request mode).1 := by
  rcases s.removeTemporaryDisplay_cases request mode with
    ⟨display, reservations, hdisplay, hlease, h⟩ | ⟨h, -⟩
  · rw [h]
    have herased : SameOutside (· = request.leaseId)
        { s with connectorReservationsByDisplayId := reservations } _ :=
      eraseDisplay_isolated hdisplay hlease
    exact ⟨herased.records, herased.leases⟩
  · rw [h]
    exact .refl s

theorem abandonPendingTemporaryDisplay_isolated (s : DisplayStore) (request : LeaseDisplayRequest)
    (expectedGeneration : UInt64) (ownerCapability : OwnerCapability) :
    SameOutside (· = request.leaseId) s
      (s.abandonPendingTemporaryDisplay request expectedGeneration ownerCapability).1 := by
  rcases s.abandonPendingTemporaryDisplay_cases request expectedGeneration ownerCapability with
    ⟨display, lease, hdisplay, hlease, -, -, -, -, h⟩ | ⟨h, -⟩
  · rw [h]
    have herased : SameOutside (· = request.leaseId)
        { s with
          quarantinedConnectors := s.quarantinedConnectors.insert display.connectorIndex ()
          connectorReservationsByDisplayId :=
            s.connectorReservationsByDisplayId.erase request.displayId } _ :=
      eraseDisplay_isolated hdisplay hlease
    exact ⟨herased.records, herased.leases⟩
  · rw [h]
    exact .refl s

theorem markTemporaryDisplayPendingDeparture_isolated (s : DisplayStore)
    (request : LeaseDisplayRequest) :
    SameOutside (· = request.leaseId) s (s.markTemporaryDisplayPendingDeparture request).1 := by
  rcases s.markTemporaryDisplayPendingDeparture_cases request with
    ⟨display, hdisplay, hlease, h⟩ | ⟨h, -⟩
  · rw [h]
    refine .of_display request.displayId _ (fun d ↦ OrdMap.getElem?_insert ..) (fun r hr ↦ ?_)
      (fun r hr ↦ ?_) fun _ _ ↦ rfl
    · cases hdisplay.symm.trans hr
      exact hlease
    · cases hr
      exact hlease
  · rw [h]
    exact .refl s

theorem feedLease_isolated (s : DisplayStore) (request : LeaseRequest) (now : TimePoint) :
    SameOutside (· = request.leaseId) s (s.feedLease request now).1 := by
  rcases s.feedLease_cases request now with ⟨lease, -, -, -, h⟩ | ⟨h, -⟩
  · rw [h]
    refine .of_map (fun d ↦ OrdMap.getElem?_map ..) (fun r hr ↦ ?_) (fun r hr ↦ ?_) fun L hL ↦ ?_
    · rw [feedRecord, if_neg fun hfed ↦ hr hfed.1]
    · exact feedRecord_leaseId.trans hr
    · rw [OrdMap.getElem?_insert]
      exact if_neg (Ne.symm hL)
  · rw [h]
    exact .refl s

theorem releaseLease_isolated (s : DisplayStore) (request : LeaseRequest) :
    SameOutside (· = request.leaseId) s (s.releaseLease request).1 := by
  rcases s.releaseLease_cases request with ⟨-, h⟩ | ⟨h, -⟩
  · rw [h]
    refine ⟨fun d r hr ↦ ?_, fun L hL ↦ ?_⟩
    · dsimp only
      rw [OrdMap.getElem?_eraseIf_eq_some]
      exact and_iff_left (beq_eq_false_iff_ne.mpr hr)
    · rw [OrdMap.getElem?_erase]
      exact if_neg (Ne.symm hL)
  · rw [h]
    exact .refl s

/-- A reclaim stays within the lease it finds the display under and the one it moves it to. -/
theorem reclaimTemporaryDisplay_isolated {request : ReclaimTemporaryDisplayRequest}
    {now : TimePoint} {display : TemporaryDisplayRecord}
    (hdisplay : s.displaysById[request.displayId]? = some display) :
    SameOutside (fun L ↦ L = display.leaseId ∨ L = request.newLeaseId) s
      (s.reclaimTemporaryDisplay request now).1 := by
  rcases s.reclaimTemporaryDisplay_cases request now with
    ⟨display', lease, hdisplay', -, -, -, -, -, -, -, h⟩ | ⟨h, -⟩
  · cases hdisplay.symm.trans hdisplay'
    rw [h]
    refine .of_map (fun d ↦ getElem?_rotateLease ..) (fun r hr ↦ ?_) (fun r hr ↦ ?_) fun L hL ↦ ?_
    · rw [rotateRecord, if_neg fun hold ↦ hr (.inl hold)]
    · rw [rotateRecord_leaseId]
      split_ifs with hold
      · exact .inr rfl
      · exact hr
    · rw [not_or] at hL
      rw [rotateLease]
      dsimp only
      rw [OrdMap.getElem?_insert, if_neg (Ne.symm hL.2), OrdMap.getElem?_erase,
        if_neg (Ne.symm hL.1)]
  · rw [h]
    exact .refl s

end DisplayStore

/-! ## Operations -/

namespace StoreOp

/-- The lease the caller names as its own. -/
def leaseId? : StoreOp → Option UInt64
  | createTemporaryDisplay request _ => some request.leaseId
  | createTemporaryDisplayOwned request _ => some request.display.leaseId
  | removeTemporaryDisplay request _ | markTemporaryDisplayPendingDeparture request
  | abandonPendingTemporaryDisplay request _ _ => some request.leaseId
  | feedLease request _ | releaseLease request => some request.leaseId
  | reclaimTemporaryDisplay .. | reapExpired _ | setPermanentDisplayCount _
  | applyDisplayManifest _ => none

/-- The operation would move records to this lease. -/
def reclaimsTo (L : UInt64) : StoreOp → Bool
  | reclaimTemporaryDisplay request _ => request.newLeaseId == L
  | _ => false

open DisplayStore in
/-- An operation that names a lease stays within it. -/
theorem isolated (s : DisplayStore) {op : StoreOp} {A : UInt64} (hop : op.leaseId? = some A) :
    DisplayStore.SameOutside (· = A) s (op.apply s) := by
  cases op with
  | createTemporaryDisplay request now =>
    cases hop
    exact s.createTemporaryDisplayImpl_isolated request none now
  | createTemporaryDisplayOwned request now =>
    cases hop
    rcases s.createTemporaryDisplayOwned_cases request now with ⟨-, h⟩ | ⟨h, -⟩
    · rw [apply, h]
      exact s.createTemporaryDisplayImpl_isolated request.display _ now
    · rw [apply, h]
      exact .refl s
  | removeTemporaryDisplay request mode =>
    cases hop
    exact s.removeTemporaryDisplay_isolated request mode
  | markTemporaryDisplayPendingDeparture request =>
    cases hop
    exact s.markTemporaryDisplayPendingDeparture_isolated request
  | abandonPendingTemporaryDisplay request expectedGeneration ownerCapability =>
    cases hop
    exact s.abandonPendingTemporaryDisplay_isolated request expectedGeneration ownerCapability
  | feedLease request now =>
    cases hop
    exact s.feedLease_isolated request now
  | releaseLease request =>
    cases hop
    exact s.releaseLease_isolated request
  | reclaimTemporaryDisplay | reapExpired | setPermanentDisplayCount | applyDisplayManifest =>
    cases hop

/-! ## A record through an operation -/

open DisplayStore in
/-- A record that is still there after an operation has changed at most in its times, the pending
mark and the lease, and the lease only to one a reclaim names. -/
theorem record {s : DisplayStore} (op : StoreOp) {d : UInt64} {r r' : TemporaryDisplayRecord}
    (hr : s.displaysById[d]? = some r) (hr' : (op.apply s).displaysById[d]? = some r') :
    r.Evolves r' ∧ (r'.leaseId = r.leaseId ∨ op.reclaimsTo r'.leaseId = true) := by
  have hcreate {request : CreateTemporaryDisplayRequest}
      {ownerCapability : Option OwnerCapability} {now : TimePoint}
      (hr' : (s.createTemporaryDisplayImpl request ownerCapability now).1.displaysById[d]? =
        some r') : r.Evolves r' ∧ (r'.leaseId = r.leaseId ∨ op.reclaimsTo r'.leaseId = true) := by
    rw [createTemporaryDisplayImpl_present hr] at hr'
    cases hr'
    exact ⟨.refl r, .inl rfl⟩
  by_cases hupkeep : op.isUpkeep = true
  · rcases (op.keeps s hupkeep).record hr' with ⟨r₀, hr₀, hevolves, hlease⟩
    cases hr.symm.trans hr₀
    exact ⟨hevolves, .inl hlease⟩
  · cases op with
    | createTemporaryDisplay request now => exact hcreate hr'
    | createTemporaryDisplayOwned request now =>
      rw [apply] at hr'
      rcases s.createTemporaryDisplayOwned_cases request now with ⟨-, h⟩ | ⟨h, -⟩
      · rw [h] at hr'
        exact hcreate hr'
      · rw [h] at hr'
        cases hr.symm.trans hr'
        exact ⟨.refl r, .inl rfl⟩
    | reclaimTemporaryDisplay request now =>
      rw [apply] at hr'
      rcases s.reclaimTemporaryDisplay_cases request now with
        ⟨display, lease, -, -, -, -, -, -, -, -, h⟩ | ⟨h, -⟩
      · rw [h, getElem?_rotateLease, hr, Option.map_some, Option.some_inj] at hr'
        rw [← hr', rotateRecord_leaseId]
        refine ⟨TemporaryDisplayRecord.Evolves.rotateRecord .., ?_⟩
        split_ifs
        · exact .inr (beq_self_eq_true _)
        · exact .inl rfl
      · rw [h] at hr'
        cases hr.symm.trans hr'
        exact ⟨.refl r, .inl rfl⟩
    | _ => exact absurd rfl hupkeep

end StoreOp

namespace DisplayStore

variable {s : DisplayStore}

/-! ## Runs -/

/-- The display has a record after each of the operations. -/
def staysPresent (d : UInt64) (s : DisplayStore) : List StoreOp → Bool
  | [] => true
  | op :: ops => (op.apply s).displaysById.contains d && staysPresent d (op.apply s) ops

theorem execute_cons (s : DisplayStore) (op : StoreOp) (ops : List StoreOp) :
    s.execute (op :: ops) = (op.apply s).execute ops := rfl

/-- A record through a run in which its display is never without one. -/
theorem record_of_run {ops : List StoreOp} {d : UInt64} {r : TemporaryDisplayRecord}
    (hr : s.displaysById[d]? = some r) (hstays : staysPresent d s ops = true) :
    ∃ r', (s.execute ops).displaysById[d]? = some r' ∧ r.Evolves r' ∧
      ∀ L, (∀ op ∈ ops, op.reclaimsTo L = false) → r.leaseId ≠ L → r'.leaseId ≠ L := by
  induction ops generalizing s r with
  | nil => exact ⟨r, hr, .refl r, fun _ _ h ↦ h⟩
  | cons op ops ih =>
    rw [staysPresent, Bool.and_eq_true, ExtTreeMap.contains_eq_isSome_getElem?,
      Option.isSome_iff_exists] at hstays
    rcases hstays with ⟨⟨r₁, hr₁⟩, hstays⟩
    rcases op.record hr hr₁ with ⟨hevolves, hlease⟩
    rcases ih hr₁ hstays with ⟨r', hr', hevolves', hleases⟩
    refine ⟨r', hr', hevolves.trans hevolves', fun L hops hL ↦ ?_⟩
    rw [List.forall_mem_cons] at hops
    refine hleases L hops.2 fun hL₁ ↦ ?_
    rcases hlease with hsame | hreclaims
    · exact hL (hsame ▸ hL₁)
    · rw [hL₁, hops.1] at hreclaims
      cases hreclaims

/-- A successful reclaim moves every record of the old lease to the new one. -/
theorem reclaim_moves {request : ReclaimTemporaryDisplayRequest} {now : TimePoint}
    {display r : TemporaryDisplayRecord} {d : UInt64}
    (hdisplay : s.displaysById[request.displayId]? = some display)
    (hok : (s.reclaimTemporaryDisplay request now).2.status.error = .none)
    (hr : s.displaysById[d]? = some r) (hlease : r.leaseId = display.leaseId) :
    request.newLeaseId ≠ display.leaseId ∧
      ∃ r', (s.reclaimTemporaryDisplay request now).1.displaysById[d]? = some r' ∧
        r'.leaseId = request.newLeaseId := by
  rcases s.reclaimTemporaryDisplay_cases request now with
    ⟨display', lease, hdisplay', -, -, -, -, hne, -, -, h⟩ | ⟨-, herror⟩
  · cases hdisplay.symm.trans hdisplay'
    have hmoved := getElem?_rotateLease s display.leaseId request.newLeaseId
      (normalizeTimeoutMs request.requestedTimeoutMs)
      (now + milliseconds (normalizeTimeoutMs request.requestedTimeoutMs)) lease.ownerCapability d
    rw [← h, hr] at hmoved
    exact ⟨hne, _, hmoved, rotateRecord_leaseId.trans (if_pos hlease)⟩
  · exact absurd hok herror

/-- **Leases do not reach into each other.**  An operation that names a lease leaves every record
and every lease of another id alone, a reclaim all but those of the two leases it is between.  So
once a record has been reclaimed away from a lease, no operation that names that lease changes it,
whatever has happened since, until a reclaim moves records to that lease again. -/
theorem lease_isolation :
    (∀ (s : DisplayStore) (op : StoreOp) (A : UInt64), op.leaseId? = some A →
      SameOutside (· = A) s (op.apply s)) ∧
    (∀ (s : DisplayStore) (request : ReclaimTemporaryDisplayRequest) (now : TimePoint)
      (display : TemporaryDisplayRecord), s.displaysById[request.displayId]? = some display →
        SameOutside (fun L ↦ L = display.leaseId ∨ L = request.newLeaseId) s
          (s.reclaimTemporaryDisplay request now).1) ∧
    ∀ (s : DisplayStore) (request : ReclaimTemporaryDisplayRequest) (now : TimePoint)
      (display r : TemporaryDisplayRecord) (d : UInt64),
      s.displaysById[request.displayId]? = some display →
      (s.reclaimTemporaryDisplay request now).2.status.error = .none →
      s.displaysById[d]? = some r → r.leaseId = display.leaseId →
        ∀ (ops : List StoreOp) (op : StoreOp),
          staysPresent d (s.reclaimTemporaryDisplay request now).1 ops = true →
          (∀ o ∈ ops, o.reclaimsTo display.leaseId = false) →
          op.leaseId? = some display.leaseId →
            (op.apply ((s.reclaimTemporaryDisplay request now).1.execute ops)).displaysById[d]? =
              ((s.reclaimTemporaryDisplay request now).1.execute ops).displaysById[d]? := by
  refine ⟨fun s op A hop ↦ op.isolated s hop,
    fun s request now display hdisplay ↦ reclaimTemporaryDisplay_isolated hdisplay, ?_⟩
  intro s request now display r d hdisplay hok hr hlease ops op hstays hops hop
  rcases reclaim_moves hdisplay hok hr hlease with ⟨hne, r₁, hr₁, hlease₁⟩
  rcases record_of_run hr₁ hstays with ⟨r', hr', -, hleases⟩
  have hout : r'.leaseId ≠ display.leaseId :=
    hleases _ hops fun heq ↦ hne (hlease₁.symm.trans heq)
  rw [hr']
  exact ((op.isolated _ hop).records d r' hout).mpr hr'

/-- A display is reclaimed, its old lease id is used for another display, and then that lease is
released. -/
theorem lease_isolation_release :
    let s := DisplayStore.execute (.new 0 4) [.createTemporaryDisplayOwned
      { display := exampleRequest kMinOpaqueLeaseId 1, ownerCapability := exampleCapability } 0]
    let s₁ := (s.reclaimTemporaryDisplay
      { displayId := 1, newLeaseId := kMinOpaqueLeaseId + 1,
        ownerCapability := exampleCapability } 0).1
    let s₂ := s₁.execute [.createTemporaryDisplay (exampleRequest kMinOpaqueLeaseId 2) 0]
    (StoreOp.apply s₂
        (.releaseLease { leaseId := kMinOpaqueLeaseId })).displaysById[(1 : UInt64)]? =
      s₂.displaysById[(1 : UInt64)]? := by
  intro s s₁ s₂
  have hstored : (s.displaysById[(1 : UInt64)]?).any (·.leaseId == kMinOpaqueLeaseId) = true := by
    decide
  rcases (Option.any_eq_true _ _).mp hstored with ⟨display, hdisplay, hlease⟩
  rw [beq_iff_eq] at hlease
  refine lease_isolation.2.2 s _ 0 display display 1 hdisplay (by decide) hdisplay rfl _ _
    (by decide) (fun o ho ↦ ?_) (congrArg some hlease.symm)
  cases List.mem_singleton.mp ho
  rfl

end DisplayStore

end VirtualDisplay
