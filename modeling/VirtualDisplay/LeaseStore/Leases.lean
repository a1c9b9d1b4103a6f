import VirtualDisplay.LeaseStore.Changes

/-!
# Leases and records agree

The times of a lease are stored twice, in the lease and in every record under it, and a lease is
to exist exactly as long as it has records.  `LeasesConsistent` is that agreement, and
`LeasesConsistent.of_change` says every change of the store preserves it.

Two checks of the operations carry the proof.  A reclaim and a create into an existing lease are
refused while the lease has a pending departure, and a feed passes over pending records: a pending
record keeps the times it was condemned with, so only the records that are not pending have to
agree with their lease.

## What is here

* One lemma about `LeasesConsistent` for each way in which records and leases change together: a
  record that is erased or marked, a lease that is rotated, fed or released.
* `eraseDisplay_leasesById`, `LeasesConsistent.commit` — the two changes that matter: a record that
  goes, and one that comes.
* `execute_leases` — the agreement in every run, with whatever times the operations are given.
  Times may run backwards as far as this theorem goes.

When a lease has expired is not part of it; that is in `LeaseStore/Expiry.lean`.
-/

set_option autoImplicit false

namespace VirtualDisplay

open Std

namespace DisplayStore

variable {s s' : DisplayStore}

/-- The leases are those the records name, and records that are not pending have the times of their
lease. -/
structure LeasesConsistent (s : DisplayStore) : Prop where
  named : ∀ l : UInt64, s.leasesById[l]?.isSome ↔
    ∃ (d : UInt64) (r : TemporaryDisplayRecord), s.displaysById[d]? = some r ∧ r.leaseId = l
  times : ∀ (d : UInt64) (r : TemporaryDisplayRecord), s.displaysById[d]? = some r →
    r.pendingDeparture = false → ∀ lease, s.leasesById[r.leaseId]? = some lease →
      r.timeoutMs = lease.timeoutMs ∧ r.expiresAt = lease.expiresAt

theorem LeasesConsistent.lease_of_record (h : s.LeasesConsistent) {d : UInt64}
    {r : TemporaryDisplayRecord} (hr : s.displaysById[d]? = some r) :
    ∃ lease, s.leasesById[r.leaseId]? = some lease :=
  Option.isSome_iff_exists.mp ((h.named _).mpr ⟨d, r, hr, rfl⟩)

theorem empty_leasesConsistent (maxPermanentDisplays maxTemporaryDisplays : UInt32)
    (reservations : OrdMap UInt64 UInt32) :
    LeasesConsistent (empty maxPermanentDisplays maxTemporaryDisplays reservations) where
  named l := by simp [empty, new]
  times d r h := by simp [empty, new] at h

/-! ## One lemma for each way to change a record or a lease -/

/-- Dropping a record drops its lease too unless another record is left under it. -/
theorem eraseDisplay_leasesById (s : DisplayStore) (displayId leaseId : UInt64) :
    ((s.eraseDisplay displayId leaseId).leasesById = s.leasesById ∧
      ∃ (d : UInt64) (r : TemporaryDisplayRecord), displayId ≠ d ∧ s.displaysById[d]? = some r ∧
        r.leaseId = leaseId) ∨
    ((s.eraseDisplay displayId leaseId).leasesById = s.leasesById.erase leaseId ∧
      ∀ (d : UInt64) (r : TemporaryDisplayRecord), displayId ≠ d → s.displaysById[d]? = some r →
        r.leaseId ≠ leaseId) := by
  unfold eraseDisplay removeLeaseIfEmpty
  split_ifs with h
  · obtain ⟨d, r, hr, hlease⟩ := leaseHasDisplays_iff.mp h
    dsimp only at hr
    rw [OrdMap.getElem?_erase] at hr
    split_ifs at hr with hd
    exact .inl ⟨rfl, d, r, hd, hr, hlease⟩
  · refine .inr ⟨rfl, fun d r hd hr hlease ↦ h (leaseHasDisplays_iff.mpr ⟨d, r, ?_, hlease⟩)⟩
    dsimp only
    rw [OrdMap.getElem?_erase, if_neg hd]
    exact hr

theorem LeasesConsistent.eraseDisplay (h : s.LeasesConsistent) {displayId : UInt64}
    {display : TemporaryDisplayRecord} (hdisplay : s.displaysById[displayId]? = some display) :
    (s.eraseDisplay displayId display.leaseId).LeasesConsistent := by
  have hlookup : ∀ (d : UInt64) (r : TemporaryDisplayRecord),
      (s.eraseDisplay displayId display.leaseId).displaysById[d]? = some r ↔
        displayId ≠ d ∧ s.displaysById[d]? = some r := fun d r ↦ by
    rw [eraseDisplay_displaysById, OrdMap.getElem?_erase]
    split_ifs with hd <;> simp [hd]
  obtain ⟨hleases, d₀, r₀, hd₀, hr₀, hlease₀⟩ | ⟨hleases, hlast⟩ :=
    s.eraseDisplay_leasesById displayId display.leaseId
  · refine ⟨fun l ↦ ?_, fun d r hr hlive lease hlease ↦ ?_⟩
    · rw [hleases, h.named]
      constructor
      · rintro ⟨d, r, hr, rfl⟩
        by_cases hd : displayId = d
        · subst hd
          rw [hdisplay] at hr
          cases hr
          exact ⟨d₀, r₀, (hlookup ..).mpr ⟨hd₀, hr₀⟩, hlease₀⟩
        · exact ⟨d, r, (hlookup ..).mpr ⟨hd, hr⟩, rfl⟩
      · rintro ⟨d, r, hr, rfl⟩
        exact ⟨d, r, ((hlookup ..).mp hr).2, rfl⟩
    · rw [hleases] at hlease
      exact h.times d r ((hlookup ..).mp hr).2 hlive lease hlease
  · have hother : ∀ (d : UInt64) (r : TemporaryDisplayRecord), displayId ≠ d →
        s.displaysById[d]? = some r → display.leaseId ≠ r.leaseId :=
      fun d r hd hr heq ↦ hlast d r hd hr heq.symm
    refine ⟨fun l ↦ ?_, fun d r hr hlive lease hlease ↦ ?_⟩
    · rw [hleases, OrdMap.getElem?_erase]
      constructor
      · intro hl
        by_cases hne : display.leaseId = l
        · rw [if_pos hne] at hl
          cases hl
        rw [if_neg hne] at hl
        obtain ⟨d, r, hr, rfl⟩ := (h.named l).mp hl
        refine ⟨d, r, (hlookup ..).mpr ⟨?_, hr⟩, rfl⟩
        rintro rfl
        rw [hdisplay] at hr
        cases hr
        exact hne rfl
      · rintro ⟨d, r, hr, rfl⟩
        obtain ⟨hd, hr⟩ := (hlookup ..).mp hr
        rw [if_neg (hother d r hd hr)]
        exact (h.named _).mpr ⟨d, r, hr, rfl⟩
    · obtain ⟨hd, hr⟩ := (hlookup ..).mp hr
      rw [hleases, OrdMap.getElem?_erase, if_neg (hother d r hd hr)] at hlease
      exact h.times d r hr hlive lease hlease

theorem LeasesConsistent.rotateLease (h : s.LeasesConsistent) {displayId newLeaseId : UInt64}
    {display : TemporaryDisplayRecord} (timeoutMs : UInt32) (expiresAt : TimePoint)
    (ownerCapability : Option OwnerCapability)
    (hdisplay : s.displaysById[displayId]? = some display)
    (hunused : s.leasesById[newLeaseId]? = none) :
    (s.rotateLease display.leaseId newLeaseId timeoutMs expiresAt
      ownerCapability).LeasesConsistent := by
  have hlookup (d : UInt64) :
      (s.rotateLease display.leaseId newLeaseId timeoutMs expiresAt
        ownerCapability).displaysById[d]? =
      s.displaysById[d]?.map (rotateRecord display.leaseId newLeaseId timeoutMs expiresAt) :=
    getElem?_rotateLease ..
  have hleases (l : UInt64) :
      (s.rotateLease display.leaseId newLeaseId timeoutMs expiresAt
        ownerCapability).leasesById[l]? =
      if newLeaseId = l then some { timeoutMs, expiresAt, ownerCapability }
      else if display.leaseId = l then none else s.leasesById[l]? := by
    rw [DisplayStore.rotateLease, OrdMap.getElem?_insert, OrdMap.getElem?_erase]
  -- no record was under the new lease id before
  have hfresh : ∀ (d : UInt64) (r : TemporaryDisplayRecord), s.displaysById[d]? = some r →
      r.leaseId ≠ newLeaseId := fun d r hr heq ↦ by
    have := (h.named newLeaseId).mpr ⟨d, r, hr, heq⟩
    rw [hunused] at this
    cases this
  refine ⟨fun l ↦ ?_, fun d r' hr' hlive lease hlease ↦ ?_⟩
  · rw [hleases]
    constructor
    · intro hl
      split_ifs at hl with hnew hold
      · refine ⟨displayId, _, by rw [hlookup, hdisplay]; rfl, ?_⟩
        rw [rotateRecord_leaseId, if_pos rfl, hnew]
      · cases hl
      · obtain ⟨d, r, hr, rfl⟩ := (h.named l).mp hl
        refine ⟨d, _, by rw [hlookup, hr]; rfl, ?_⟩
        rw [rotateRecord_leaseId, if_neg (Ne.symm hold)]
    · rintro ⟨d, r', hr', rfl⟩
      rw [hlookup, Option.map_eq_some_iff] at hr'
      obtain ⟨r, hr, rfl⟩ := hr'
      rw [rotateRecord_leaseId]
      by_cases hold : r.leaseId = display.leaseId
      · rw [if_pos hold, if_pos rfl]
        rfl
      · rw [if_neg hold, if_neg (Ne.symm (hfresh d r hr)), if_neg (Ne.symm hold)]
        exact (h.named _).mpr ⟨d, r, hr, rfl⟩
  · rw [hlookup, Option.map_eq_some_iff] at hr'
    obtain ⟨r, hr, rfl⟩ := hr'
    rw [hleases, rotateRecord_leaseId] at hlease
    by_cases hold : r.leaseId = display.leaseId
    · rw [if_pos hold, if_pos rfl] at hlease
      cases hlease
      rw [rotateRecord, if_pos hold]
      exact ⟨rfl, rfl⟩
    · rw [if_neg hold, if_neg (Ne.symm (hfresh d r hr)), if_neg (Ne.symm hold)] at hlease
      rw [rotateRecord, if_neg hold] at hlive ⊢
      exact h.times d r hr hlive lease hlease

theorem LeasesConsistent.feedLease (h : s.LeasesConsistent) {leaseId : UInt64}
    {lease : LeaseRecord} (timeoutMs : UInt32) (expiresAt : TimePoint)
    (hlease : s.leasesById[leaseId]? = some lease) :
    LeasesConsistent
      { s with
        leasesById := s.leasesById.insert leaseId { lease with timeoutMs, expiresAt }
        displaysById := s.displaysById.map fun _ ↦ feedRecord leaseId timeoutMs expiresAt } := by
  have hpending (r : TemporaryDisplayRecord) :
      (feedRecord leaseId timeoutMs expiresAt r).pendingDeparture = r.pendingDeparture := by
    unfold feedRecord; split_ifs <;> rfl
  refine ⟨fun l ↦ ?_, fun d r' hr' hlive lease' hlease' ↦ ?_⟩
  · have hset : (s.leasesById.insert leaseId { lease with timeoutMs, expiresAt })[l]?.isSome =
        s.leasesById[l]?.isSome := by
      rw [OrdMap.getElem?_insert]
      split_ifs with hl
      · rw [← hl, hlease]; rfl
      · rfl
    rw [hset, h.named]
    simp only [OrdMap.getElem?_map, Option.map_eq_some_iff]
    constructor
    · rintro ⟨d, r, hr, rfl⟩
      exact ⟨d, _, ⟨r, hr, rfl⟩, feedRecord_leaseId⟩
    · rintro ⟨d, _, ⟨r, hr, rfl⟩, rfl⟩
      exact ⟨d, r, hr, feedRecord_leaseId.symm⟩
  · rw [OrdMap.getElem?_map, Option.map_eq_some_iff] at hr'
    obtain ⟨r, hr, rfl⟩ := hr'
    rw [hpending] at hlive
    dsimp only at hlease'
    rw [feedRecord_leaseId, OrdMap.getElem?_insert] at hlease'
    by_cases hl : leaseId = r.leaseId
    · rw [if_pos hl] at hlease'
      cases hlease'
      rw [feedRecord, if_pos ⟨hl.symm, by simp [hlive]⟩]
      exact ⟨rfl, rfl⟩
    · rw [if_neg hl] at hlease'
      rw [feedRecord, if_neg fun hc ↦ hl hc.1.symm]
      exact h.times d r hr hlive lease' hlease'

theorem LeasesConsistent.releaseLease (h : s.LeasesConsistent) (leaseId : UInt64) :
    LeasesConsistent
      { s with
        displaysById := OrdMap.eraseIf s.displaysById fun _ display ↦ display.leaseId == leaseId
        leasesById := s.leasesById.erase leaseId } := by
  refine ⟨fun l ↦ ?_, fun d r hr hlive lease hlease ↦ ?_⟩
  · simp only [OrdMap.getElem?_erase, OrdMap.getElem?_eraseIf_eq_some, beq_eq_false_iff_ne]
    constructor
    · intro hl
      by_cases hleaseId : leaseId = l
      · rw [if_pos hleaseId] at hl
        cases hl
      · rw [if_neg hleaseId] at hl
        obtain ⟨d, r, hr, rfl⟩ := (h.named l).mp hl
        exact ⟨d, r, ⟨hr, Ne.symm hleaseId⟩, rfl⟩
    · rintro ⟨d, r, ⟨hr, hne⟩, rfl⟩
      rw [if_neg (Ne.symm hne)]
      exact (h.named _).mpr ⟨d, r, hr, rfl⟩
  · obtain ⟨hr, hne⟩ := OrdMap.getElem?_eraseIf_eq_some.mp hr
    rw [beq_eq_false_iff_ne] at hne
    rw [OrdMap.getElem?_erase, if_neg (Ne.symm hne)] at hlease
    exact h.times d r hr hlive lease hlease

theorem LeasesConsistent.markPending (h : s.LeasesConsistent) {displayId : UInt64}
    {display : TemporaryDisplayRecord} (hdisplay : s.displaysById[displayId]? = some display) :
    LeasesConsistent
      { s with
        displaysById :=
          s.displaysById.insert displayId { display with pendingDeparture := true } } := by
  refine ⟨fun l ↦ ?_, fun d r hr hlive lease hlease ↦ ?_⟩
  · rw [h.named]
    simp only [OrdMap.getElem?_insert]
    constructor
    · rintro ⟨d, r, hr, rfl⟩
      by_cases hd : displayId = d
      · subst hd
        rw [hdisplay] at hr
        cases hr
        exact ⟨displayId, _, if_pos rfl, rfl⟩
      · exact ⟨d, r, by rw [if_neg hd, hr], rfl⟩
    · rintro ⟨d, r, hr, rfl⟩
      by_cases hd : displayId = d
      · rw [if_pos hd] at hr
        cases hr
        exact ⟨displayId, display, hdisplay, rfl⟩
      · rw [if_neg hd] at hr
        exact ⟨d, r, hr, rfl⟩
  · rw [OrdMap.getElem?_insert] at hr
    by_cases hd : displayId = d
    · rw [if_pos hd] at hr
      cases hr
      cases hlive
    · rw [if_neg hd] at hr
      exact h.times d r hr hlive lease hlease

/-- A new record takes the times of its lease, and its lease is there from then on. -/
theorem LeasesConsistent.commit (h : s.LeasesConsistent)
    (validated : ValidatedCreateTemporaryDisplay) (ownerCapability : Option OwnerCapability)
    (now : TimePoint) (connectorIndex : UInt32) (retainIdentity : Bool)
    (habsent : s.displaysById[validated.request.displayId]? = none) :
    LeasesConsistent
      (s.commitTemporaryDisplay validated ownerCapability now connectorIndex retainIdentity).1 := by
  have htimes : (s.createdLease validated none now).timeoutMs =
        (s.createdLease validated ownerCapability now).timeoutMs ∧
      (s.createdLease validated none now).expiresAt =
        (s.createdLease validated ownerCapability now).expiresAt := by
    unfold createdLease
    cases s.leasesById[validated.request.leaseId]? <;> exact ⟨rfl, rfl⟩
  have hkept : ∀ (d : UInt64) (r : TemporaryDisplayRecord), s.displaysById[d]? = some r →
      validated.request.displayId ≠ d := fun d r hr heq ↦ by
    rw [← heq, habsent] at hr
    cases hr
  refine ⟨fun l ↦ ?_, fun d r hr hlive lease hlease ↦ ?_⟩
  · simp only [commitTemporaryDisplay, OrdMap.getElem?_insert]
    constructor
    · intro hl
      by_cases hleaseId : validated.request.leaseId = l
      · exact ⟨validated.request.displayId, _, if_pos rfl, hleaseId⟩
      · rw [if_neg hleaseId] at hl
        obtain ⟨d, r, hr, rfl⟩ := (h.named l).mp hl
        exact ⟨d, r, by rw [if_neg (hkept d r hr), hr], rfl⟩
    · rintro ⟨d, r, hr, rfl⟩
      by_cases hd : validated.request.displayId = d
      · rw [if_pos hd] at hr
        cases hr
        rw [createdRecord_leaseId, if_pos rfl]
        rfl
      · rw [if_neg hd] at hr
        split_ifs
        · rfl
        · exact (h.named _).mpr ⟨d, r, hr, rfl⟩
  · simp only [commitTemporaryDisplay, OrdMap.getElem?_insert] at hr hlease
    by_cases hd : validated.request.displayId = d
    · rw [if_pos hd] at hr
      cases hr
      rw [createdRecord_leaseId, if_pos rfl] at hlease
      cases hlease
      exact htimes
    · rw [if_neg hd] at hr
      by_cases hleaseId : validated.request.leaseId = r.leaseId
      · rw [if_pos hleaseId] at hlease
        obtain ⟨lease₀, hlease₀⟩ := h.lease_of_record hr
        cases hlease
        have hsame := h.times d r hr hlive lease₀ hlease₀
        rw [createdLease, hleaseId, hlease₀]
        exact hsame
      · rw [if_neg hleaseId] at hlease
        exact h.times d r hr hlive lease hlease

/-! ## Runs -/

theorem LeasesConsistent.of_recordChange (h : s.LeasesConsistent) (hstep : RecordChange s s') :
    s'.LeasesConsistent := by
  cases hstep with
  | bookkeeping => exact ⟨h.named, h.times⟩
  | erased hdisplay => exact h.eraseDisplay hdisplay
  | marked hdisplay => exact h.markPending hdisplay
  | fed timeoutMs expiresAt hlease => exact h.feedLease timeoutMs expiresAt hlease
  | released leaseId => exact h.releaseLease leaseId
  | manifestApplied => exact ⟨h.named, h.times⟩

theorem LeasesConsistent.of_change (h : s.LeasesConsistent) (hstep : StoreChange s s') :
    s'.LeasesConsistent := by
  cases hstep with
  | created haccepted => exact h.commit _ _ _ _ _ haccepted.absent
  | kept hchange => exact h.of_recordChange hchange
  | reclaimed timeoutMs expiresAt hdisplay _ _ _ hunused =>
    exact h.rotateLease timeoutMs expiresAt _ hdisplay hunused

theorem execute_leasesConsistent (maxPermanentDisplays maxTemporaryDisplays : UInt32)
    (reservations : OrdMap UInt64 UInt32) (initialManifest : Option DisplayManifest)
    (ops : List StoreOp) :
    LeasesConsistent (DisplayStore.execute
      (.new maxPermanentDisplays maxTemporaryDisplays reservations initialManifest) ops) :=
  execute_new_invariant
    (empty_leasesConsistent maxPermanentDisplays maxTemporaryDisplays reservations)
    (fun _ _ h ↦ h.of_change) initialManifest ops

/-- **Leases and records agree.**  After any operations on any store, whatever times they were
given, the stored leases are exactly those some record is under, and a record that is not pending
has the times of its lease. -/
theorem execute_leases (maxPermanentDisplays maxTemporaryDisplays : UInt32)
    (reservations : OrdMap UInt64 UInt32) (initialManifest : Option DisplayManifest)
    (ops : List StoreOp) :
    let s := DisplayStore.execute
      (.new maxPermanentDisplays maxTemporaryDisplays reservations initialManifest) ops
    (∀ l : UInt64, (∃ lease, s.leasesById[l]? = some lease) ↔
      ∃ (d : UInt64) (r : TemporaryDisplayRecord), s.displaysById[d]? = some r ∧ r.leaseId = l) ∧
    ∀ (d : UInt64) (r : TemporaryDisplayRecord), s.displaysById[d]? = some r →
      r.pendingDeparture = false → ∃ lease, s.leasesById[r.leaseId]? = some lease ∧
        r.timeoutMs = lease.timeoutMs ∧ r.expiresAt = lease.expiresAt := by
  intro s
  have h : s.LeasesConsistent := execute_leasesConsistent ..
  refine ⟨fun l ↦ Option.isSome_iff_exists.symm.trans (h.named l), fun d r hr hlive ↦ ?_⟩
  obtain ⟨lease, hlease⟩ := h.lease_of_record hr
  exact ⟨lease, hlease, h.times d r hr hlive lease hlease⟩

end DisplayStore

end VirtualDisplay
