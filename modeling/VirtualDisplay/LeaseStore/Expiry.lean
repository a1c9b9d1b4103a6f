import VirtualDisplay.LeaseStore.Generations

/-!
# A lifetime that is over stays over

Who has been let in for a display names its lease and its generation.  Once that has stopped to
work it never works again: `Over` says that no record has this lease and this generation and could
be read any more, and `Over.apply` that it stays so, as long as times do not run backwards, a lease
that has ended does not come back under its id, and the display does not get the same generation
twice.

## What is here

* `lease_stays_expired` — a lease that has expired is never prolonged: a feed finds it expired and
  refuses, and every other operation leaves the times of a lease alone or writes a new one.
* `over_of_refused`, `over_of_noLease` — how a lifetime comes to be over.
* `Over.refused` — nobody is let in for it afterwards.
* `Over.apply` — one operation of the store.  The conditions on it are those that the controller
  meets: `LeaseStore/Generations.lean` has that generations are not given out twice, and
  `FrameRing/Cookies.lean` uses both.
-/

set_option autoImplicit false

namespace VirtualDisplay

open Std

namespace StoreOp

/-- The time the operation is given. -/
def time? : StoreOp → Option TimePoint
  | createTemporaryDisplay _ now | createTemporaryDisplayOwned _ now
  | reclaimTemporaryDisplay _ now | feedLease _ now | reapExpired now => some now
  | removeTemporaryDisplay .. | markTemporaryDisplayPendingDeparture _
  | abandonPendingTemporaryDisplay .. | releaseLease _ | setPermanentDisplayCount _
  | applyDisplayManifest _ => none

end StoreOp

namespace DisplayStore

variable {s : DisplayStore}

/-! ## Leases -/

theorem lease_of_eraseDisplay {displayId leaseId L : UInt64} {lease : LeaseRecord}
    (hlease : (s.eraseDisplay displayId leaseId).leasesById[L]? = some lease) :
    s.leasesById[L]? = some lease := by
  rcases s.eraseDisplay_leasesById displayId leaseId with ⟨h, -⟩ | ⟨h, -⟩
  · rwa [h] at hlease
  · rw [h, OrdMap.getElem?_erase] at hlease
    split_ifs at hlease
    exact hlease

theorem lease_of_reapExpired {now : TimePoint} {L : UInt64} {lease : LeaseRecord}
    (hlease : (s.reapExpired now).1.leasesById[L]? = some lease) :
    s.leasesById[L]? = some lease := by
  rw [reapExpired] at hlease
  dsimp only at hlease
  generalize s.displaysById.toList = entries at hlease
  induction entries generalizing s with
  | nil => exact hlease
  | cons entry entries ih =>
    rw [List.foldl_cons] at hlease
    have hlease := ih hlease
    rw [reapDisplay] at hlease
    split_ifs at hlease
    · exact lease_of_eraseDisplay hlease
    · exact hlease

/-- Upkeep other than a feed changes no lease. -/
theorem lease_of_upkeep {op : StoreOp} (hupkeep : op.isUpkeep = true)
    (hfeed : ∀ request now, op ≠ .feedLease request now) {L : UInt64} {lease : LeaseRecord}
    (hlease : (op.apply s).leasesById[L]? = some lease) : s.leasesById[L]? = some lease := by
  cases op with
  | removeTemporaryDisplay request mode =>
    rw [StoreOp.apply] at hlease
    rcases s.removeTemporaryDisplay_cases request mode with
      ⟨display, reservations, -, -, h⟩ | ⟨h, -⟩
    · rw [h] at hlease
      exact lease_of_eraseDisplay (s := { s with connectorReservationsByDisplayId := reservations })
        hlease
    · rwa [h] at hlease
  | markTemporaryDisplayPendingDeparture request =>
    rw [StoreOp.apply] at hlease
    rcases s.markTemporaryDisplayPendingDeparture_cases request with ⟨display, -, -, h⟩ | ⟨h, -⟩
    · rwa [h] at hlease
    · rwa [h] at hlease
  | abandonPendingTemporaryDisplay request expectedGeneration ownerCapability =>
    rw [StoreOp.apply] at hlease
    rcases s.abandonPendingTemporaryDisplay_cases request expectedGeneration ownerCapability with
      ⟨display, held, -, -, -, -, -, -, h⟩ | ⟨h, -⟩
    · rw [h] at hlease
      exact lease_of_eraseDisplay
        (s := { s with
          quarantinedConnectors := s.quarantinedConnectors.insert display.connectorIndex ()
          connectorReservationsByDisplayId :=
            s.connectorReservationsByDisplayId.erase request.displayId }) hlease
    · rwa [h] at hlease
  | releaseLease request =>
    rw [StoreOp.apply] at hlease
    rcases s.releaseLease_cases request with ⟨-, h⟩ | ⟨h, -⟩
    · rw [h, OrdMap.getElem?_erase] at hlease
      split_ifs at hlease
      exact hlease
    · rwa [h] at hlease
  | reapExpired now => exact lease_of_reapExpired hlease
  | setPermanentDisplayCount request =>
    rw [StoreOp.apply, setPermanentDisplayCount] at hlease
    split at hlease
    · rwa [(s.applyDisplayManifest_records _).2.1] at hlease
    · exact hlease
  | applyDisplayManifest manifest =>
    rw [StoreOp.apply, (s.applyDisplayManifest_records manifest).2.1] at hlease
    exact hlease
  | feedLease request now => exact absurd rfl (hfeed request now)
  | createTemporaryDisplay | createTemporaryDisplayOwned | reclaimTemporaryDisplay => cases hupkeep

theorem createTemporaryDisplayImpl_lease {request : CreateTemporaryDisplayRequest}
    {ownerCapability : Option OwnerCapability} {now : TimePoint} {L : UInt64}
    {lease lease' : LeaseRecord} (hlease : s.leasesById[L]? = some lease)
    (hlease' : (s.createTemporaryDisplayImpl request ownerCapability now).1.leasesById[L]? =
      some lease') : lease'.expiresAt = lease.expiresAt := by
  rcases s.createTemporaryDisplayImpl_cases request ownerCapability now with
    ⟨reservations, ⟨-, connectorIndex, retainIdentity, -, -, h⟩ | ⟨h, -⟩⟩
  · rw [h, commitTemporaryDisplay] at hlease'
    dsimp only at hlease'
    rw [OrdMap.getElem?_insert] at hlease'
    split_ifs at hlease' with hid
    · cases hlease'
      rw [createdLease, hid, hlease]
    · cases hlease.symm.trans hlease'
      rfl
  · rw [h] at hlease'
    cases hlease.symm.trans hlease'
    rfl

/-- A lease that has expired is never prolonged. -/
theorem lease_stays_expired {op : StoreOp} {L : UInt64} {lease lease' : LeaseRecord}
    {time : TimePoint} (htime : ∀ now, op.time? = some now → time ≤ now)
    (hlease : s.leasesById[L]? = some lease) (hexpired : lease.expiresAt ≤ time)
    (hlease' : (op.apply s).leasesById[L]? = some lease') : lease'.expiresAt ≤ time := by
  by_cases hfeed : ∀ request now, op ≠ .feedLease request now
  · by_cases hupkeep : op.isUpkeep = true
    · cases hlease.symm.trans (lease_of_upkeep hupkeep hfeed hlease')
      exact hexpired
    · cases op with
      | createTemporaryDisplay request now =>
        rw [createTemporaryDisplayImpl_lease hlease hlease']
        exact hexpired
      | createTemporaryDisplayOwned request now =>
        rw [StoreOp.apply] at hlease'
        rcases s.createTemporaryDisplayOwned_cases request now with ⟨-, h⟩ | ⟨h, -⟩
        · rw [h] at hlease'
          rw [createTemporaryDisplayImpl_lease hlease hlease']
          exact hexpired
        · rw [h] at hlease'
          cases hlease.symm.trans hlease'
          exact hexpired
      | reclaimTemporaryDisplay request now =>
        rw [StoreOp.apply] at hlease'
        rcases s.reclaimTemporaryDisplay_cases request now with
          ⟨display, held, -, -, -, -, -, -, -, hfree, h⟩ | ⟨h, -⟩
        · rw [h, rotateLease] at hlease'
          dsimp only at hlease'
          rw [OrdMap.getElem?_insert, OrdMap.getElem?_erase] at hlease'
          split_ifs at hlease' with hnew
          · rw [hnew, hlease] at hfree
            cases hfree
          · cases hlease.symm.trans hlease'
            exact hexpired
        · rw [h] at hlease'
          cases hlease.symm.trans hlease'
          exact hexpired
      | _ => exact absurd rfl hupkeep
  · simp only [not_forall, ne_eq, not_not] at hfeed
    rcases hfeed with ⟨request, now, rfl⟩
    rw [StoreOp.apply] at hlease'
    rcases s.feedLease_cases request now with ⟨held, hheld, hlive, -, h⟩ | ⟨h, -⟩
    · rw [h, OrdMap.getElem?_insert] at hlease'
      split_ifs at hlease' with hid
      · -- The feed has found the lease alive.
        cases hlease.symm.trans (hid ▸ hheld)
        exact absurd (hexpired.trans (htime now rfl)) (Int.not_le.mpr hlive)
      · cases hlease.symm.trans hlease'
        exact hexpired
    · rw [h] at hlease'
      cases hlease.symm.trans hlease'
      exact hexpired

/-! ## Displays -/

/-- No record of the display has this lease and this generation, but for one that is condemned or
expired at this time. -/
def Over (s : DisplayStore) (time : TimePoint) (leaseId displayId generation : UInt64) : Prop :=
  ∀ r, s.displaysById[displayId]? = some r → r.leaseId = leaseId → r.generation = generation →
    r.pendingDeparture = true ∨ r.expiresAt ≤ time

variable {time : TimePoint} {leaseId displayId generation : UInt64}

theorem Over.later (h : s.Over time leaseId displayId generation) {time' : TimePoint}
    (hle : time ≤ time') : s.Over time' leaseId displayId generation :=
  fun r hr hlease hgeneration ↦ (h r hr hlease hgeneration).imp_right (·.trans hle)

/-- Whoever asks for a lifetime that is over is not let in. -/
theorem Over.refused (h : s.Over time leaseId displayId generation)
    {ownerCapability : OwnerCapability} {display : TemporaryDisplayRecord}
    (hdisplay : s.authorizeTemporaryDisplayOwner { leaseId, displayId } ownerCapability time =
      some display) : display.generation ≠ generation := by
  rcases authorizeTemporaryDisplayOwner_eq_some.mp hdisplay with
    ⟨-, hr, hlease, hpending, hexpires, -⟩
  intro hgeneration
  rcases h display hr hlease hgeneration with hmarked | hexpired
  · rw [hpending] at hmarked
    cases hmarked
  · exact absurd hexpired (Int.not_le.mpr hexpires)

/-- A lifetime that has a lease of its own, with the capability presented, and is not let in any
more is over. -/
theorem over_of_refused (hconsistent : s.LeasesConsistent) {ownerCapability : OwnerCapability}
    (hvalid : validateLeaseDisplayRequest { leaseId, displayId } = .none)
    (howner : s.leaseOwner leaseId = some ownerCapability)
    (hrefused : (s.authorizeTemporaryDisplayOwner { leaseId, displayId } ownerCapability time).any
      (·.generation == generation) = false) : s.Over time leaseId displayId generation := by
  intro r hr hlease hgeneration
  by_contra hlive
  rw [not_or, Bool.not_eq_true, Int.not_le] at hlive
  rcases leaseOwner_eq_some.mp howner with ⟨lease, hheld, hcapability⟩
  have htimes := (hconsistent.times displayId r hr hlive.1 lease (hlease ▸ hheld)).2
  have hauthorized : s.authorizeTemporaryDisplayOwner { leaseId, displayId } ownerCapability
      time = some r :=
    authorizeTemporaryDisplayOwner_eq_some.mpr
      ⟨hvalid, hr, hlease, hlive.1, hlive.2, lease, hheld, htimes ▸ hlive.2, hcapability⟩
  rw [hauthorized, Option.any_some, hgeneration, beq_self_eq_true] at hrefused
  cases hrefused

/-- A lifetime whose lease is gone is over. -/
theorem over_of_noLease (hconsistent : s.LeasesConsistent)
    (hlease : s.leasesById[leaseId]? = none) (time : TimePoint) :
    s.Over time leaseId displayId generation := by
  intro r hr hid
  rcases hconsistent.lease_of_record hr with ⟨lease, hheld⟩
  rw [hid, hlease] at hheld
  cases hheld

/-- What is over stays over. -/
theorem Over.apply (h : s.Over time leaseId displayId generation)
    (hconsistent : s.LeasesConsistent) {op : StoreOp}
    (htime : ∀ now, op.time? = some now → time ≤ now)
    (hended : s.leasesById[leaseId]? = none → (op.apply s).leasesById[leaseId]? = none)
    (hcreated : ∀ r, op.created? s = some r → r.displayId = displayId →
      r.generation ≠ generation) :
    (op.apply s).Over time leaseId displayId generation := by
  intro r' hr' hlease' hgeneration'
  have hconsistent' : (op.apply s).LeasesConsistent :=
    (op.reaches s).invariant (fun _ _ h ↦ h.of_change) hconsistent
  rcases hconsistent'.lease_of_record hr' with ⟨lease', hheld'⟩
  rw [hlease'] at hheld'
  cases hr : s.displaysById[displayId]? with
  | none =>
    -- The record is new, and its generation is one the display has not had.
    rcases op.created_cases s with ⟨-, -, hthere⟩ | ⟨r, hnew, -, -, -, hinserted⟩
    · rcases hthere displayId r' hr' with ⟨r, hr''⟩
      rw [hr] at hr''
      cases hr''
    · rw [hinserted, OrdMap.getElem?_insert] at hr'
      split_ifs at hr' with hd
      · cases hr'
        exact absurd hgeneration' (hcreated _ hnew hd)
      · rw [hr] at hr'
        cases hr'
  | some r =>
    rcases op.record hr hr' with ⟨hevolves, hlease⟩
    by_cases hsame : r.leaseId = leaseId
    · rcases h r hr hsame (hevolves.generation ▸ hgeneration') with hmarked | hexpired
      · exact .inl (hevolves.pending hmarked)
      by_cases hmarked' : r'.pendingDeparture = true
      · exact .inl hmarked'
      right
      rw [Bool.not_eq_true] at hmarked'
      have hmarked : r.pendingDeparture = false := by
        by_contra hmarked
        rw [hevolves.pending (Bool.not_eq_false _ ▸ hmarked)] at hmarked'
        cases hmarked'
      -- The times of both records are those of the lease.
      rcases hconsistent.lease_of_record hr with ⟨lease, hheld⟩
      have htimes := (hconsistent.times displayId r hr hmarked lease hheld).2
      have htimes' := (hconsistent'.times displayId r' hr' hmarked' lease' (hlease' ▸ hheld')).2
      rw [hsame] at hheld
      rw [htimes']
      exact lease_stays_expired htime hheld (htimes ▸ hexpired) hheld'
    · -- The record can only have come back to the lease by a reclaim, after its end.
      have hreclaims := hlease.resolve_left fun heq ↦ hsame (heq.symm.trans hlease')
      rw [hlease'] at hreclaims
      cases op with
      | reclaimTemporaryDisplay request now =>
        have hnew : request.newLeaseId = leaseId := beq_iff_eq.mp hreclaims
        rw [StoreOp.apply] at hr' hended hheld'
        rcases s.reclaimTemporaryDisplay_cases request now with
          ⟨display, lease, -, -, -, -, -, -, -, hfree, -⟩ | ⟨h', -⟩
        · rw [hended (hnew ▸ hfree)] at hheld'
          cases hheld'
        · rw [h'] at hr'
          cases hr.symm.trans hr'
          exact absurd hlease' hsame
      | _ => cases hreclaims

end DisplayStore

end VirtualDisplay
