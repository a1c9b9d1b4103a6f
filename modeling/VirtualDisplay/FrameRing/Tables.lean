import VirtualDisplay.FrameRing.Gates
import VirtualDisplay.FrameRing.Server

/-!
# The two tables of the frame ring server

The server answers a repeated request from its entry without looking at the rings, and so its
entries have to say which rings are registered.  `Agrees` is that they do; it survives everything
the server does, and also rings that are retired behind its back.  `frameTablesAgree` is what a
process can rely on.

## What is here

* `snapshot_of_registered`, `registered_of_canPublish` — what a snapshot of a ring says of the table
  of the rings, and when it drops the ring.
* `FrameRingServer.Agrees` — the tables belong together: the reply that an entry keeps is for the
  ring its display has.
* `Reaped`, `Imported` — what a reap and an import do to both tables, each of them as a relation
  between the server before and after it.
* `registerRing_cases`, `Agrees.clearRing_cases` — the ways a request can go, one for each reply.
* `agrees_apply`, `agrees_execute` — any event, and any list of events, over any store.

Which requests come through at all is the subject of `FrameRing/Gates.lean`; which cookies they may
name, of `FrameRing/Cookies.lean`.  An example at the end shows what happens to a replacement that
the driver does not authorize: the ring stays.
-/

set_option autoImplicit false

namespace VirtualDisplay

open Std

namespace FrameRingLifetime

variable {Resources : Type} {l : FrameRingLifetime Resources}

theorem retireRing_retires (l : FrameRingLifetime Resources)
    (d displayGeneration ringGeneration : UInt64) :
    RetiresRings l (l.retireRing d displayGeneration ringGeneration).1 := by
  rcases l.retireRing_cases d displayGeneration ringGeneration with h | ⟨entry, he, -, -, h⟩
  · rw [h]
  · exact h ▸ .single (.entry he)

theorem getElem?_rings_retireRing_of_ne {d d' : UInt64} (hd : d ≠ d')
    (displayGeneration ringGeneration : UInt64) :
    (l.retireRing d displayGeneration ringGeneration).1.rings[d']? = l.rings[d']? := by
  rcases l.retireRing_cases d displayGeneration ringGeneration with h | ⟨entry, -, -, -, h⟩
  · rw [h]
  · rw [h, getElem?_rings_retireEntry, if_neg hd]

theorem snapshot_retires (l : FrameRingLifetime Resources) (store : DisplayStore)
    (d displayGeneration : UInt64) (now : TimePoint) :
    RetiresRings l (l.snapshot store d displayGeneration now).1 := by
  rcases l.snapshot_cases store d displayGeneration now with h | ⟨entry, he, -, -, h⟩
  · rw [h]
  · exact h ▸ .single (.entry he)

theorem getElem?_rings_snapshot_of_ne {store : DisplayStore} {d d' : UInt64} (hd : d ≠ d')
    (displayGeneration : UInt64) (now : TimePoint) :
    (l.snapshot store d displayGeneration now).1.rings[d']? = l.rings[d']? := by
  rcases l.snapshot_cases store d displayGeneration now with h | ⟨entry, -, -, -, h⟩
  · rw [h]
  · rw [h, getElem?_rings_retireEntry, if_neg hd]

/-- A ring that is still registered after its snapshot has been asked for is the answer. -/
theorem snapshot_of_registered {store : DisplayStore} {d displayGeneration : UInt64}
    {now : TimePoint} {ring : FrameRingEntry Resources}
    (hring : (l.snapshot store d displayGeneration now).1.rings[d]? = some ring)
    (hgeneration : l.rings[d]? = some ring → ring.owner.displayGeneration = displayGeneration) :
    l.snapshot store d displayGeneration now = (l, ring.snapshot) ∧ l.rings[d]? = some ring ∧
      authorized store ring.owner now = true := by
  rw [snapshot] at hring ⊢
  cases hentry : l.rings[d]? with
  | none =>
    rw [hentry] at hring
    rw [hentry] at hring
    cases hring
  | some entry =>
    rw [hentry] at hring
    dsimp only at hring ⊢
    split_ifs at hring ⊢ with hother hunauthorized
    · cases hentry.symm.trans hring
      exact absurd (hgeneration hentry) hother
    · rw [getElem?_rings_retireEntry, if_pos rfl] at hring
      cases hring
    · cases hentry.symm.trans hring
      exact ⟨rfl, rfl, by simpa using hunauthorized⟩

/-- A snapshot that can be published to is one of a registered ring. -/
theorem registered_of_canPublish {store : DisplayStore} {d displayGeneration : UInt64}
    {now : TimePoint} (hcan : (l.snapshot store d displayGeneration now).1.canPublish
      (l.snapshot store d displayGeneration now).2 = true) :
    ∃ ring, (l.snapshot store d displayGeneration now).1.rings[d]? = some ring := by
  rw [snapshot] at hcan ⊢
  cases hentry : l.rings[d]? with
  | none =>
    rw [hentry] at hcan
    cases hcan
  | some ring =>
    rw [hentry] at hcan
    dsimp only at hcan ⊢
    split_ifs at hcan ⊢
    · cases hcan
    · cases hcan
    · exact ⟨ring, hentry⟩

/-- The owner of a registered ring gets its snapshot. -/
theorem snapshot_of_authorized {store : DisplayStore} {d displayGeneration : UInt64}
    {now : TimePoint} {ring : FrameRingEntry Resources} (hring : l.rings[d]? = some ring)
    (hgeneration : ring.owner.displayGeneration = displayGeneration)
    (hauthorized : authorized store ring.owner now = true) :
    l.snapshot store d displayGeneration now = (l, ring.snapshot) := by
  rw [snapshot, hring]
  dsimp only
  rw [if_neg (not_not.mpr hgeneration), if_neg (by simp [hauthorized])]

end FrameRingLifetime

namespace FrameRingServer

open FrameRingLifetime

variable {Resources : Type} {s : FrameRingServer Resources} {store : DisplayStore}
  {now : TimePoint}

/-! ## Agreement -/

/-- Every registered ring has the entry of its display: registered for the owner of the entry's
request, with the generation of the entry's reply. -/
structure Agrees (s : FrameRingServer Resources) : Prop where
  tight : s.rings.Tight
  keyed : ∀ (d : UInt64) (entry : FrameRingServerEntry), s.entries[d]? = some entry →
    entry.request.displayId = d
  registered : ∀ (d : UInt64) (ring : FrameRingEntry Resources), s.rings.rings[d]? = some ring →
    ∃ entry, s.entries[d]? = some entry ∧ ring.owner = ownerFor entry.request ∧
      ring.snapshot.displayGeneration = entry.request.displayGeneration ∧
      ring.snapshot.ringGeneration = entry.reply.ringGeneration ∧ entry.reply.ringGeneration ≠ 0

/-- Rings may be retired at any time. -/
theorem Agrees.retires (h : s.Agrees) {rings : FrameRingLifetime Resources}
    (hretires : RetiresRings s.rings rings) : Agrees { s with rings } where
  tight := h.tight.retires hretires
  keyed := h.keyed
  registered d ring hring := h.registered d ring (hretires.registered hring)

/-- Retiring the ring of an entry leaves its display without one. -/
theorem Agrees.retired (h : s.Agrees) {d : UInt64} {entry : FrameRingServerEntry}
    (hentry : s.entries[d]? = some entry) :
    (s.rings.retireRing d entry.request.displayGeneration
      entry.reply.ringGeneration).1.rings[d]? = none := by
  rw [FrameRingLifetime.retireRing]
  cases hring : s.rings.rings[d]? with
  | none => exact hring
  | some ring =>
    rcases h.registered d ring hring with ⟨e, he, -, hdisplay, hgeneration, -⟩
    cases hentry.symm.trans he
    dsimp only
    rw [if_neg (by simp [hdisplay, hgeneration]), getElem?_rings_retireEntry, if_pos rfl]

/-- The entry of a display without a ring may become anything for this display, or go. -/
theorem Agrees.forget (h : s.Agrees) {d : UInt64} (hring : s.rings.rings[d]? = none)
    {entries : OrdMap UInt64 FrameRingServerEntry}
    (hother : ∀ d', d ≠ d' → entries[d']? = s.entries[d']?)
    (hkeyed : ∀ entry, entries[d]? = some entry → entry.request.displayId = d) :
    Agrees { s with entries } where
  tight := h.tight
  keyed d' entry hentry := by
    by_cases hd : d = d'
    · subst hd
      exact hkeyed entry hentry
    · exact h.keyed d' entry ((hother d' hd).symm.trans hentry)
  registered d' ring hring' := by
    have hd : d ≠ d' := by
      rintro rfl
      rw [hring] at hring'
      cases hring'
    rcases h.registered d' ring hring' with ⟨entry, hentry, hentry'⟩
    exact ⟨entry, (hother d' hd).trans hentry, hentry'⟩

/-! ## Reaping -/

section Reap

variable {d : UInt64} {entry : FrameRingServerEntry}

/-- What becomes of an entry: it goes, or loses its reply, and then its display has no ring; or
nothing changes. -/
theorem Agrees.reapEntry_cases (h : s.Agrees) (store : DisplayStore) (now : TimePoint)
    (hentry : s.entries[d]? = some entry) :
    ∃ rings, RetiresRings s.rings rings ∧ (∀ d', d ≠ d' → rings.rings[d']? = s.rings.rings[d']?) ∧
      ((authorizes store entry.request now = false ∧ rings.rings[d]? = none ∧
        reapEntry store now s (d, entry) = { s with rings, entries := s.entries.erase d }) ∨
      (authorizes store entry.request now = true ∧ rings.rings[d]? = none ∧
        reapEntry store now s (d, entry) =
          { s with rings, entries := s.entries.insert d { entry with reply := {} } }) ∨
      (authorizes store entry.request now = true ∧
        (entry.reply.ringGeneration ≠ 0 → ∃ ring, rings.rings[d]? = some ring) ∧
        reapEntry store now s (d, entry) = { s with rings })) := by
  have hretires := s.rings.snapshot_retires store d entry.request.displayGeneration now
  have hother (d' : UInt64) (hd' : d ≠ d') :
      (s.rings.snapshot store d entry.request.displayGeneration now).1.rings[d']? =
        s.rings.rings[d']? := getElem?_rings_snapshot_of_ne hd' _ _
  rw [reapEntry]
  dsimp only
  split_ifs with hauthorizes hreply hdead
  · exact ⟨_, s.rings.retireRing_retires .., fun d' hd' ↦ getElem?_rings_retireRing_of_ne hd' _ _,
      .inl ⟨by simpa using hauthorizes, h.retired hentry, rfl⟩⟩
  -- A ring left at `d` would be the answer, and could be published to.
  · refine ⟨_, hretires, hother, .inr (.inl ⟨by simpa using hauthorizes, ?_, rfl⟩)⟩
    rw [Option.eq_none_iff_forall_ne_some]
    intro ring hring
    rcases h.registered d ring (hretires.registered hring) with
      ⟨e, he, howner, hdisplay, hgeneration, -⟩
    cases hentry.symm.trans he
    rcases snapshot_of_registered hring fun _ ↦ by rw [howner]; rfl with ⟨hanswer, hring, -⟩
    rw [hanswer] at hdead
    have henabled : s.rings.canPublish ring.snapshot = true := h.tight.canPublish hring
    simp [henabled, hgeneration] at hdead
  · rw [not_or, Bool.not_eq_true', Bool.not_eq_false] at hdead
    exact ⟨_, hretires, hother, .inr (.inr ⟨by simpa using hauthorizes,
      fun _ ↦ registered_of_canPublish hdead.1, rfl⟩)⟩
  · exact ⟨s.rings, .refl, fun _ _ ↦ rfl, .inr (.inr ⟨by simpa using hauthorizes,
      fun h ↦ absurd h hreply, rfl⟩)⟩

theorem getElem?_entries_reapEntry_of_ne (s : FrameRingServer Resources) (store : DisplayStore)
    (now : TimePoint) (entry : FrameRingServerEntry) {d d' : UInt64} (hd : d ≠ d') :
    (reapEntry store now s (d, entry)).entries[d']? = s.entries[d']? := by
  rw [reapEntry]
  dsimp only
  split_ifs
  · exact (OrdMap.getElem?_erase ..).trans (if_neg hd)
  · exact (OrdMap.getElem?_insert ..).trans (if_neg hd)
  · rfl
  · rfl

/-- What a reap leaves of the entry of a display: nothing, if the store does not authorize its
owner any more, and otherwise the entry itself, with its reply only if the ring is there. -/
structure Reaped (store : DisplayStore) (now : TimePoint) (s s' : FrameRingServer Resources)
    (d : UInt64) : Prop where
  kept : ∀ entry', s'.entries[d]? = some entry' → ∃ entry, s.entries[d]? = some entry ∧
    authorizes store entry.request now = true ∧ entry'.peer = entry.peer ∧
    entry'.request = entry.request ∧
    (entry'.reply = entry.reply ∧
        (entry'.reply.ringGeneration ≠ 0 → ∃ ring, s'.rings.rings[d]? = some ring) ∨
      entry'.reply = {})
  stays : ∀ entry, s.entries[d]? = some entry → authorizes store entry.request now = true →
    ∃ entry', s'.entries[d]? = some entry'

theorem Agrees.reap (h : s.Agrees) (store : DisplayStore) (now : TimePoint) :
    (s.reap store now).1.Agrees ∧ RetiresRings s.rings (s.reap store now).1.rings ∧
      ∀ d, Reaped store now s (s.reap store now).1 d := by
  have hreap := OrdMap.foldl_toList_induct (f := reapEntry store now)
    (m := fun s : FrameRingServer Resources ↦ s.entries)
    (I := fun s' ↦ s'.Agrees ∧ RetiresRings s.rings s'.rings) (Q := Reaped store now s) s
    ⟨h, .refl⟩ ?_ ?_
  · exact ⟨hreap.1.1, hreap.1.2, hreap.2⟩
  · intro d hd
    refine ⟨fun entry' hentry ↦ ?_, fun entry hentry ↦ ?_⟩
    · rw [hd] at hentry
      cases hentry
    · rw [hd] at hentry
      cases hentry
  · rintro s' d entry ⟨h', hretires⟩ hinitial hentry
    rcases h'.reapEntry_cases store now hentry with ⟨rings, hsteps, hother, hcases⟩
    have hrest (hrings : (reapEntry store now s' (d, entry)).rings = rings) (d' : UInt64)
        (hd' : d ≠ d') :
        (reapEntry store now s' (d, entry)).entries[d']? = s'.entries[d']? ∧
        (Reaped store now s s' d' → Reaped store now s (reapEntry store now s' (d, entry)) d') := by
      have hentries := s'.getElem?_entries_reapEntry_of_ne store now entry hd'
      refine ⟨hentries, fun hreaped ↦ ⟨fun entry' he ↦ ?_, fun e he hauthorizes ↦ ?_⟩⟩
      · rw [hentries] at he
        rw [hrings, hother d' hd']
        exact hreaped.kept entry' he
      · rw [hentries]
        exact hreaped.stays e he hauthorizes
    have hagrees := h'.retires hsteps
    have hretires' := hretires.trans hsteps
    rcases hcases with ⟨hauthorizes, hnone, hs'⟩ | ⟨hauthorizes, hnone, hs'⟩ |
      ⟨hauthorizes, hring, hs'⟩
    · refine ⟨hs' ▸ ⟨hagrees.forget hnone ?_ ?_, hretires'⟩, ?_, hrest (by rw [hs'])⟩
      · exact fun d' hd' ↦ (OrdMap.getElem?_erase ..).trans (if_neg hd')
      · intro e he
        rw [OrdMap.getElem?_erase, if_pos rfl] at he
        cases he
      · rw [hs']
        refine ⟨fun e he ↦ ?_, fun e he hauthorizes' ↦ ?_⟩
        · rw [OrdMap.getElem?_erase, if_pos rfl] at he
          cases he
        · cases hinitial.symm.trans he
          rw [hauthorizes] at hauthorizes'
          cases hauthorizes'
    · refine ⟨hs' ▸ ⟨hagrees.forget hnone ?_ ?_, hretires'⟩, ?_, hrest (by rw [hs'])⟩
      · exact fun d' hd' ↦ (OrdMap.getElem?_insert ..).trans (if_neg hd')
      · intro e he
        rw [OrdMap.getElem?_insert, if_pos rfl] at he
        cases he
        exact h'.keyed d entry hentry
      · rw [hs']
        refine ⟨fun e he ↦ ?_, fun e he hauthorizes' ↦ ?_⟩
        · rw [OrdMap.getElem?_insert, if_pos rfl] at he
          cases he
          exact ⟨entry, hinitial, hauthorizes, rfl, rfl, .inr rfl⟩
        · rw [OrdMap.getElem?_insert, if_pos rfl]
          exact ⟨_, rfl⟩
    · refine ⟨hs' ▸ ⟨hagrees, hretires'⟩, ?_, hrest (by rw [hs'])⟩
      rw [hs']
      refine ⟨fun e he ↦ ?_, fun e he hauthorizes' ↦ ⟨entry, hentry⟩⟩
      cases hentry.symm.trans he
      exact ⟨entry, hinitial, hauthorizes, rfl, rfl, .inl ⟨rfl, hring⟩⟩

/-- The ring of a reply that is still given after a reap. -/
theorem Agrees.ring_of_reaped (h : s.Agrees) {s₀ : FrameRingServer Resources} {d : UInt64}
    (hreaped : Reaped store now s₀ s d) {entry : FrameRingServerEntry}
    (hentry : s.entries[d]? = some entry) (hreply : entry.reply.ringGeneration ≠ 0) :
    ∃ ring, s.rings.rings[d]? = some ring ∧ ring.owner = ownerFor entry.request ∧
      ring.snapshot.ringGeneration = entry.reply.ringGeneration := by
  rcases hreaped.kept entry hentry with ⟨e, -, -, -, -, ⟨-, hring⟩ | hblank⟩
  · rcases hring hreply with ⟨ring, hring⟩
    rcases h.registered d ring hring with ⟨e', he', howner, -, hgeneration, -⟩
    cases hentry.symm.trans he'
    exact ⟨ring, hring, howner, hgeneration⟩
  · rw [hblank] at hreply
    exact absurd rfl hreply

end Reap

/-! ## Registering -/

section Register

variable {peer : FrameRequestPeer} {request : FrameRingRegisterRequest}
  {importer : FrameResourceImporter Resources}

/-- The entry a registration finds, or the one it would write, names the ring of its display. -/
theorem Agrees.retiredPrevious (h : s.Agrees) {d : UInt64} {new : FrameRingServerEntry}
    {previous : FrameRingServerEntry} (hprevious : s.entries[d]?.getD new = previous) :
    (s.rings.retireRing d previous.request.displayGeneration
      previous.reply.ringGeneration).1.rings[d]? = none := by
  cases hentry : s.entries[d]? with
  | some entry =>
    rw [hentry, Option.getD_some] at hprevious
    exact hprevious ▸ h.retired hentry
  | none =>
    rw [Option.eq_none_iff_forall_ne_some]
    intro ring hring
    rcases h.registered d ring ((s.rings.retireRing_retires ..).registered hring) with
      ⟨entry, hentry', -⟩
    rw [hentry] at hentry'
    cases hentry'

/-- What an import comes to: the entry of the display is that of the request, and the ring is
registered under the generation of the reply, or the display has no ring. -/
structure Imported (s s' : FrameRingServer Resources) (store : DisplayStore)
    (peer : FrameRequestPeer) (request : FrameRingRegisterRequest) (now : TimePoint)
    (result : FrameWireResult) : Prop where
  agrees : s'.Agrees
  others : ∀ d, request.displayId ≠ d → s'.entries[d]? = s.entries[d]?
  retires : ∀ (d : UInt64) (ring : FrameRingEntry Resources), request.displayId ≠ d →
    s'.rings.rings[d]? = some ring → s.rings.rings[d]? = some ring
  cases : (result.status = .success ∧
      s'.entries[request.displayId]? = some { peer, request, reply := result.reply } ∧
      authorized store (ownerFor request) now = true ∧
      ∃ ring, s'.rings.rings[request.displayId]? = some ring ∧ ring.owner = ownerFor request ∧
        ring.snapshot.ringGeneration = result.reply.ringGeneration) ∨
    (result.status ≠ .success ∧ s'.entries[request.displayId]? = some { peer, request } ∧
      s'.rings.rings[request.displayId]? = none)

theorem Agrees.importRing (h : s.Agrees) (store : DisplayStore) (peer : FrameRequestPeer)
    (request : FrameRingRegisterRequest) (now : TimePoint)
    (importer : FrameResourceImporter Resources) :
    Imported s (s.importRing store peer request now importer).1 store peer request now
      (s.importRing store peer request now importer).2 := by
  have hothers (entry : FrameRingServerEntry) (d : UInt64) (hd : request.displayId ≠ d) :
      (s.entries.insert request.displayId entry)[d]? = s.entries[d]? :=
    (OrdMap.getElem?_insert ..).trans (if_neg hd)
  have hhere (entries : OrdMap UInt64 FrameRingServerEntry) (entry : FrameRingServerEntry) :
      (entries.insert request.displayId entry)[request.displayId]? = some entry :=
    (OrdMap.getElem?_insert ..).trans (if_pos rfl)
  generalize hprevious : s.entries[request.displayId]?.getD { peer, request } = previous
  -- The entry is the request's, and the previous ring is retired.
  have hfailed (status : FrameWireStatus) (hstatus : status ≠ .success) :
      Imported s
        { rings := (s.rings.retireRing request.displayId previous.request.displayGeneration
            previous.reply.ringGeneration).1
          entries := s.entries.insert request.displayId { peer, request } }
        store peer request now { status } := by
    have hretires := s.rings.retireRing_retires request.displayId
      previous.request.displayGeneration previous.reply.ringGeneration
    have hnone := h.retiredPrevious hprevious
    refine ⟨(h.retires hretires).forget hnone (hothers _) fun entry hentry ↦ ?_, hothers _,
      fun d ring _ hring ↦ hretires.registered hring, .inr ⟨hstatus, hhere .., hnone⟩⟩
    rw [hhere] at hentry
    cases hentry
    rfl
  rw [FrameRingServer.importRing]
  dsimp only
  rw [hprevious]
  cases (importer peer request).resources with
  | none => exact hfailed .importFailed nofun
  | some resources =>
    dsimp only
    rcases s.rings.registerRing_cases store (ownerFor request) (some resources) now with
      ⟨hsame, hstatus⟩ | ⟨hauthorized, -, hnext, l, hretires, habsent, hregistered⟩
    · rw [if_pos hstatus, hsame]
      exact hfailed .unauthorized nofun
    · have hrings (d : UInt64) :
          (l.replaceRing (ownerFor request) (some resources)).1.rings[d]? =
            if request.displayId = d then some (l.newEntry (ownerFor request) (some resources))
            else l.rings[d]? := getElem?_rings_replaceRing (some resources) habsent d
      rw [hregistered, if_neg (by rw [replaceRing_of_absent _ habsent]; simp)]
      refine ⟨⟨?_, ?_, ?_⟩, ?_, ?_, .inl ⟨rfl, hhere .., hauthorized, ?_⟩⟩
      · exact (h.tight.retires hretires).replace (some resources) habsent
      · intro d entry hentry
        by_cases hd : request.displayId = d
        · subst hd
          rw [hhere] at hentry
          cases hentry
          rfl
        · dsimp only at hentry
          rw [OrdMap.getElem?_insert, if_neg hd, hothers _ d hd] at hentry
          exact h.keyed d entry hentry
      · intro d ring hring
        rw [hrings] at hring
        split_ifs at hring with hd
        · cases hring
          subst hd
          refine ⟨_, hhere .., rfl, rfl, ?_, ?_⟩
          · rw [replaceRing_of_absent _ habsent]
            rfl
          · rw [replaceRing_of_absent _ habsent, hretires.nextRingGeneration]
            exact hnext
        · rcases h.registered d ring (hretires.registered hring) with ⟨entry, hentry, hrest⟩
          refine ⟨entry, ?_, hrest⟩
          rw [OrdMap.getElem?_insert, if_neg hd, hothers _ d hd]
          exact hentry
      · intro d hd
        dsimp only
        rw [OrdMap.getElem?_insert, if_neg hd, hothers _ d hd]
      · intro d ring hd hring
        dsimp only at hring
        rw [hrings, if_neg hd] at hring
        exact hretires.registered hring
      · refine ⟨_, (hrings _).trans (if_pos rfl), rfl, ?_⟩
        rw [replaceRing_of_absent _ habsent]
        rfl

theorem sameFrameRingRequest_iff {a b : FrameRingRegisterRequest} :
    sameFrameRingRequest a b = true ↔ a = b := by
  cases a with
  | mk _ _ _ _ _ _ _ _ adapterLuid =>
  cases b with
  | mk _ _ _ _ _ _ _ _ adapterLuid' =>
  cases adapterLuid
  cases adapterLuid'
  simp [sameFrameRingRequest, and_assoc]

/-- A success without an import repeats the reply to the same request of the same process. -/
theorem knownAnswer_success {old : Option FrameRingServerEntry} {result : FrameWireResult}
    (h : knownAnswer old peer request = some result) (hstatus : result.status = .success) :
    ∃ reply, old = some { peer, request, reply } ∧ reply.ringGeneration ≠ 0 ∧
      result.reply = reply := by
  cases old with
  | none => cases h
  | some old =>
    rw [knownAnswer] at h
    split_ifs at h with hpeer hcookie hsame
    · cases h
      cases hstatus
    · cases h
      obtain ⟨-, hreply, hrequest⟩ := hsame
      refine ⟨old.reply, ?_, hreply, rfl⟩
      rw [sameFrameRingRequest_iff] at hrequest
      rw [← hrequest, ← not_not.mp hpeer]
    · cases h
      cases hstatus

/-- A request is turned away, answered from the entry of its display, or imported. -/
theorem registerRing_cases (s : FrameRingServer Resources) (store : DisplayStore)
    (peer : FrameRequestPeer) (request : FrameRingRegisterRequest) (now : TimePoint)
    (importer : FrameResourceImporter Resources) :
    (s.imports store peer request now = false ∧
      (s.registerRing store peer request now importer).1 = s ∧
      (s.registerRing store peer request now importer).2.status ≠ .success) ∨
    (validFrameRingRequest request = true ∧ authorizes store request now = true ∧
      ((s.imports store peer request now = false ∧ ∃ result,
          knownAnswer (s.reap store now).1.entries[request.displayId]? peer request =
            some result ∧
          s.registerRing store peer request now importer = ((s.reap store now).1, result)) ∨
        (s.imports store peer request now = true ∧
          knownAnswer (s.reap store now).1.entries[request.displayId]? peer request = none ∧
          s.registerRing store peer request now importer =
            (s.reap store now).1.importRing store peer request now importer))) := by
  rw [registerRing, imports]
  split_ifs with hinvalid hunauthorized
  · refine .inl ⟨?_, rfl, nofun⟩
    rcases hinvalid with h | h
    · rw [Bool.not_eq_true'] at h
      rw [h]
      rfl
    · rw [Bool.not_eq_true'] at h
      rw [h, Bool.and_false]
      rfl
  · refine .inl ⟨?_, rfl, nofun⟩
    rw [Bool.not_eq_true'] at hunauthorized
    rw [hunauthorized, Bool.and_false]
    rfl
  · rw [not_or, Bool.not_eq_true', Bool.not_eq_true', Bool.not_eq_false, Bool.not_eq_false]
      at hinvalid
    rw [Bool.not_eq_true', Bool.not_eq_false] at hunauthorized
    refine .inr ⟨hinvalid.2, hunauthorized, ?_⟩
    rw [hinvalid.1, hinvalid.2, hunauthorized]
    dsimp only
    cases hknown : knownAnswer (s.reap store now).1.entries[request.displayId]? peer request with
    | none => exact .inr ⟨rfl, rfl, rfl⟩
    | some result => exact .inl ⟨rfl, result, rfl, rfl⟩

theorem Agrees.registerRing (h : s.Agrees) (store : DisplayStore) (peer : FrameRequestPeer)
    (request : FrameRingRegisterRequest) (now : TimePoint)
    (importer : FrameResourceImporter Resources) :
    (s.registerRing store peer request now importer).1.Agrees := by
  rcases s.registerRing_cases store peer request now importer with
    ⟨-, hsame, -⟩ | ⟨-, -, ⟨-, result, -, h'⟩ | ⟨-, -, h'⟩⟩
  · rw [hsame]
    exact h
  · rw [h']
    exact (h.reap store now).1
  · rw [h']
    exact ((h.reap store now).1.importRing store peer request now importer).agrees

end Register

/-! ## Clearing and resetting -/

section Clear

variable {peer : FrameRequestPeer} {request : FrameRingClearRequest}

/-- The entry a clear or a cancellation leaves behind, if it is accepted. -/
def clearedEntry (request : FrameRingClearRequest) (entry : FrameRingServerEntry) :
    FrameRingServerEntry where
  peer := entry.peer
  request := { entry.request with clientCookie := request.identity.clientCookie }

/-- A clear is refused, or it is of the entry's process and lease, with no older a cookie, and
leaves the display without a ring. -/
theorem Agrees.clearEntry_cases (h : s.Agrees) (peer : FrameRequestPeer)
    (request : FrameRingClearRequest) {entry : FrameRingServerEntry}
    (hentry : s.entries[request.displayId]? = some entry) :
    (∃ status, status ≠ .success ∧ s.clearEntry peer request entry = (s, status)) ∨
    ∃ rings, RetiresRings s.rings rings ∧ rings.rings[request.displayId]? = none ∧
      entry.peer = peer ∧ entry.request.leaseId = request.leaseId ∧
      entry.request.ownerCapability = request.ownerCapability ∧
      entry.request.displayGeneration = request.identity.displayGeneration ∧
      entry.request.clientCookie ≤ request.identity.clientCookie ∧
      s.clearEntry peer request entry =
        ({ rings, entries := s.entries.insert request.displayId (clearedEntry request entry) },
          .success) := by
  rw [clearEntry]
  split_ifs with howner hlate hother hreply
  · exact .inl ⟨.unauthorized, nofun, rfl⟩
  · exact .inl ⟨.staleGeneration, nofun, rfl⟩
  · exact .inl ⟨.staleGeneration, nofun, rfl⟩
  all_goals
    rw [not_or, not_or, not_not, not_not, not_not] at howner
    rw [not_or, not_not, UInt64.not_lt] at hlate
    obtain ⟨hpeer, hcapability, hlease⟩ := howner
    obtain ⟨hcookie, hgeneration⟩ := hlate
  · exact .inr ⟨_, s.rings.retireRing_retires .., h.retired hentry, hpeer, hlease, hcapability,
      hgeneration.symm, hcookie, rfl⟩
  · refine .inr ⟨s.rings, .refl, ?_, hpeer, hlease, hcapability, hgeneration.symm, hcookie, rfl⟩
    rw [Option.eq_none_iff_forall_ne_some]
    intro ring hring
    rcases h.registered _ ring hring with ⟨e, he, -, -, -, hne⟩
    cases hentry.symm.trans he
    exact hreply hne

/-- A clear is turned away, or it uses up the cookie it names and its display has no ring. -/
theorem Agrees.clearRing_cases (h : s.Agrees) (store : DisplayStore) (peer : FrameRequestPeer)
    (request : FrameRingClearRequest) (now : TimePoint) :
    ((s.clearRing store peer request now).1 = s ∧
      (s.clearRing store peer request now).2 ≠ .success) ∨
    (authorizes store (cancelledRequest request) now = true ∧
      (((s.clearRing store peer request now).1 = (s.reap store now).1 ∧
          (s.clearRing store peer request now).2 ≠ .success) ∨
        ∃ rings entry', RetiresRings (s.reap store now).1.rings rings ∧
          rings.rings[request.displayId]? = none ∧
          ((s.reap store now).1.entries[request.displayId]? = none ∧
              entry' = { peer, request := cancelledRequest request } ∨
            ∃ entry, (s.reap store now).1.entries[request.displayId]? = some entry ∧
              entry' = clearedEntry request entry ∧
              entry.request.leaseId = request.leaseId ∧
              entry.request.ownerCapability = request.ownerCapability ∧
              entry.request.displayGeneration = request.identity.displayGeneration ∧
              entry.request.clientCookie ≤ request.identity.clientCookie) ∧
          s.clearRing store peer request now =
            ({ rings, entries := (s.reap store now).1.entries.insert request.displayId entry' },
              .success))) := by
  have hreap := (h.reap store now).1
  rw [clearRing]
  by_cases hinvalid : (!peer.valid) = true ∨ (!validFrameRingClearRequest request) = true
  · rw [if_pos hinvalid]
    exact .inl ⟨rfl, nofun⟩
  rw [if_neg hinvalid]
  cases hauthorizes : authorizes store (cancelledRequest request) now with
  | false => exact .inl ⟨rfl, nofun⟩
  | true =>
  refine .inr ⟨rfl, ?_⟩
  dsimp only
  cases hentry : (s.reap store now).1.entries[request.displayId]? with
  | none =>
    rw [if_neg (by simp)]
    dsimp only
    split_ifs with hflags
    · exact .inl ⟨rfl, nofun⟩
    · refine .inr ⟨_, _, .refl, ?_, .inl ⟨rfl, rfl⟩, rfl⟩
      rw [Option.eq_none_iff_forall_ne_some]
      intro ring hring
      rcases hreap.registered _ ring hring with ⟨entry, hentry', -⟩
      rw [hentry] at hentry'
      cases hentry'
  | some entry =>
    rw [if_neg (by simp)]
    dsimp only
    rcases hreap.clearEntry_cases peer request hentry with
      ⟨status, hstatus, h'⟩ | ⟨rings, hretires, hnone, -, hlease, hcapability, hgeneration,
        hcookie, h'⟩
    · rw [h']
      exact .inl ⟨rfl, hstatus⟩
    · exact .inr ⟨rings, _, hretires, hnone,
        .inr ⟨entry, rfl, rfl, hlease, hcapability, hgeneration, hcookie⟩, h'⟩

theorem Agrees.clearRing (h : s.Agrees) (store : DisplayStore) (peer : FrameRequestPeer)
    (request : FrameRingClearRequest) (now : TimePoint) :
    (s.clearRing store peer request now).1.Agrees := by
  have hreap := (h.reap store now).1
  rcases h.clearRing_cases store peer request now with
    ⟨hsame, -⟩ | ⟨-, ⟨hsame, -⟩ | ⟨rings, entry', hretires, hnone, hentry', h'⟩⟩
  · rw [hsame]
    exact h
  · rw [hsame]
    exact hreap
  · rw [h']
    refine (hreap.retires hretires).forget hnone
      (fun d hd ↦ (OrdMap.getElem?_insert ..).trans (if_neg hd)) fun e he ↦ ?_
    rw [OrdMap.getElem?_insert, if_pos rfl] at he
    cases he
    rcases hentry' with ⟨-, rfl⟩ | ⟨entry, hentry, rfl, -⟩
    · rfl
    · exact hreap.keyed _ entry hentry

end Clear

/-- After a reset no ring is registered, and the entries are there without their replies. -/
theorem Agrees.reset_cases (h : s.Agrees) :
    ∃ rings, RetiresRings s.rings rings ∧ (∀ d : UInt64, rings.rings[d]? = none) ∧
      s.reset = { rings, entries := s.entries.map fun _ entry ↦ { entry with reply := {} } } := by
  rw [reset]
  have hwalk := OrdMap.foldl_toList_induct
    (m := fun s : FrameRingServer Resources ↦ s.entries)
    (f := fun s i ↦ s.retireRing i.1 i.2.request.displayGeneration i.2.reply.ringGeneration)
    (I := fun s' ↦ s'.Agrees ∧ s'.entries = s.entries ∧ RetiresRings s.rings s'.rings)
    (Q := fun s' d ↦ s'.rings.rings[d]? = none) s ⟨h, rfl, .refl⟩ ?_ ?_
  · exact ⟨_, hwalk.1.2.2, hwalk.2, by rw [hwalk.1.2.1]⟩
  · intro d hd
    rw [Option.eq_none_iff_forall_ne_some]
    intro ring hring
    rcases h.registered d ring hring with ⟨entry, hentry, -⟩
    rw [hd] at hentry
    cases hentry
  · rintro s' d entry ⟨h', hsame, hretires⟩ - hentry
    have hretires' := s'.rings.retireRing_retires d entry.request.displayGeneration
      entry.reply.ringGeneration
    refine ⟨⟨h'.retires hretires', hsame, hretires.trans hretires'⟩, h'.retired hentry,
      fun d' hd' ↦ ⟨rfl, fun hnone ↦ ?_⟩⟩
    exact (getElem?_rings_retireRing_of_ne hd' _ _).trans hnone

theorem Agrees.reset (h : s.Agrees) : s.reset.Agrees := by
  rcases h.reset_cases with ⟨rings, hretires, hnone, h'⟩
  rw [h']
  refine ⟨h.tight.retires hretires, fun d entry hentry ↦ ?_, fun d ring hring ↦ ?_⟩
  · rw [OrdMap.getElem?_map, Option.map_eq_some_iff] at hentry
    rcases hentry with ⟨entry, hentry, rfl⟩
    exact h.keyed d entry hentry
  · rw [hnone] at hring
    cases hring

end FrameRingServer

/-! ## Runs -/

namespace FrameTransport

open FrameRingLifetime FrameRingServer

variable {Resources : Type} {s : FrameTransport Resources}

theorem agrees_apply (h : s.server.Agrees) (event : FrameTransportEvent Resources) :
    (s.apply event).server.Agrees := by
  cases event with
  | store op => exact h
  | retire op isRetirement =>
    refine h.retires ?_
    rcases op.apply_cases s.store s.server.rings with
      ⟨hretires, -⟩ | ⟨l', owner, resources, -, -, -, -, hregistered⟩
    · exact hretires
    · -- A retirement registers nothing.
      cases op with
      | registerRing => cases isRetirement
      | _ => cases hregistered
  | registerRing peer request now importer => exact h.registerRing ..
  | clearRing peer request now => exact h.clearRing ..
  | reap now => exact (h.reap s.store now).1
  | reset => exact h.reset

theorem agrees_execute (h : s.server.Agrees) (events : List (FrameTransportEvent Resources)) :
    (s.execute events).server.Agrees := by
  induction events generalizing s with
  | nil => exact h
  | cons event events ih => exact ih (agrees_apply h event)

theorem agrees_new : Agrees ({} : FrameRingServer Resources) where
  tight := FrameRings.issued_new.toTight
  keyed d entry hentry := by simp at hentry
  registered d ring hring := by simp at hring

end FrameTransport

section Answers

open FrameRingLifetime FrameRingServer

variable {Resources : Type} {s : FrameRingServer Resources}

theorem validFrameRingRequest_displayGeneration {request : FrameRingRegisterRequest}
    (h : validFrameRingRequest request = true) : request.displayGeneration ≠ 0 := by
  rw [validFrameRingRequest] at h
  split_ifs at h with hrefused
  simp only [not_or] at hrefused
  exact hrefused.2.2.2.2.2.1

theorem authorized_ownerFor {store : DisplayStore} {request : FrameRingRegisterRequest}
    {now : TimePoint} (h : authorizes store request now = true)
    (hgeneration : request.displayGeneration ≠ 0) :
    authorized store (ownerFor request) now = true := by
  rw [authorizes, Option.any_eq_true] at h
  rcases h with ⟨display, hdisplay, hsame⟩
  rw [authorized, hdisplay, Option.any_some, Bool.and_eq_true, bne_iff_ne]
  exact ⟨hgeneration, hsame⟩

/-- A success names the ring the display has. -/
theorem FrameRingServer.Agrees.answer (h : s.Agrees) {store : DisplayStore}
    {peer : FrameRequestPeer} {request : FrameRingRegisterRequest} {now : TimePoint}
    {importer : FrameResourceImporter Resources}
    (hstatus : (s.registerRing store peer request now importer).2.status = .success) :
    ∃ ring, (s.registerRing store peer request now importer).1.rings.rings[request.displayId]? =
        some ring ∧ ring.owner = ownerFor request ∧
      ring.snapshot.ringGeneration =
        (s.registerRing store peer request now importer).2.reply.ringGeneration ∧
      authorized store (ownerFor request) now = true := by
  rcases h.reap store now with ⟨hagrees, -, hreaped⟩
  rcases s.registerRing_cases store peer request now importer with
    ⟨-, -, hrefused⟩ | ⟨hvalid, hauthorizes, ⟨-, result, hknown, h'⟩ | ⟨-, -, h'⟩⟩
  · exact absurd hstatus hrefused
  · rw [h'] at hstatus ⊢
    rcases knownAnswer_success hknown hstatus with ⟨reply, hentry, hreply, hresult⟩
    rcases hagrees.ring_of_reaped (hreaped _) hentry hreply with ⟨ring, hring, howner, hgeneration⟩
    exact ⟨ring, hring, howner, hresult ▸ hgeneration,
      authorized_ownerFor hauthorizes (validFrameRingRequest_displayGeneration hvalid)⟩
  · rw [h'] at hstatus ⊢
    rcases (hagrees.importRing store peer request now importer).cases with
      ⟨-, -, hauthorized, ring, hring, howner, hgeneration⟩ | ⟨hfailed, -, -⟩
    · exact ⟨ring, hring, howner, hgeneration, hauthorized⟩
    · exact absurd hstatus hfailed

/-- **The tables agree.**  In any run of a new server over any store: a registered ring has an
entry of its display whose reply carries its generation; a request that is answered with a success
finds, at the same time, that very ring in the snapshot of its display, and it can be published to;
and a display has no ring after a registration that has reached the importer and is not answered
with a success, nor after a clear or a cancellation that is. -/
theorem frameTablesAgree (store : DisplayStore) (events : List (FrameTransportEvent Resources)) :
    let s := FrameTransport.execute { store } events
    (∀ (d : UInt64) (ring : FrameRingEntry Resources), s.server.rings.rings[d]? = some ring →
      ∃ entry, s.server.entries[d]? = some entry ∧
        entry.reply.ringGeneration = ring.snapshot.ringGeneration) ∧
    (∀ (peer : FrameRequestPeer) (request : FrameRingRegisterRequest) (now : TimePoint)
        (importer : FrameResourceImporter Resources),
      let answer := s.server.registerRing s.store peer request now importer
      let snapshot := answer.1.rings.snapshot s.store request.displayId request.displayGeneration
        now
      (answer.2.status = .success →
        snapshot.2.ringGeneration = answer.2.reply.ringGeneration ∧
          snapshot.1.canPublish snapshot.2 = true) ∧
      (s.server.imports s.store peer request now = true → answer.2.status ≠ .success →
        answer.1.rings.rings[request.displayId]? = none)) ∧
    ∀ (peer : FrameRequestPeer) (request : FrameRingClearRequest) (now : TimePoint),
      (s.server.clearRing s.store peer request now).2 = .success →
        (s.server.clearRing s.store peer request now).1.rings.rings[request.displayId]? = none := by
  intro s
  have h : s.server.Agrees := FrameTransport.agrees_execute FrameTransport.agrees_new events
  refine ⟨fun d ring hring ↦ ?_, fun peer request now importer ↦ ?_, fun peer request now hok ↦ ?_⟩
  · rcases h.registered d ring hring with ⟨entry, hentry, -, -, hgeneration, -⟩
    exact ⟨entry, hentry, hgeneration.symm⟩
  · intro answer snapshot
    refine ⟨fun hok ↦ ?_, fun himports hfailed ↦ ?_⟩
    · rcases h.answer hok with ⟨ring, hring, howner, hgeneration, hauthorized⟩
      have hanswer : snapshot = (answer.1.rings, ring.snapshot) :=
        snapshot_of_authorized hring (by rw [howner]; rfl) (by rw [howner]; exact hauthorized)
      rw [hanswer]
      exact ⟨hgeneration, (h.registerRing ..).tight.canPublish hring⟩
    · rcases s.server.registerRing_cases s.store peer request now importer with
        ⟨hrefused, -, -⟩ | ⟨-, -, ⟨hrefused, -⟩ | ⟨-, -, h'⟩⟩
      · rw [himports] at hrefused
        cases hrefused
      · rw [himports] at hrefused
        cases hrefused
      · have himported := (h.reap s.store now).1.importRing s.store peer request now importer
        rw [← h'] at himported
        exact himported.cases.elim (fun hok ↦ absurd hok.1 hfailed) fun hnone ↦ hnone.2.2
  · rcases h.clearRing_cases s.store peer request now with
      ⟨-, hfailed⟩ | ⟨-, ⟨-, hfailed⟩ | ⟨rings, entry', -, hnone, -, h'⟩⟩
    · exact absurd hok hfailed
    · exact absurd hok hfailed
    · rw [h']
      exact hnone

end Answers

/-! ## A process that is turned away -/

/-- A consumer. -/
def examplePeer : FrameRequestPeer where
  processId := 1
  processStart := 1

/-- Its request for a ring of display 1. -/
def exampleRingRequest (clientCookie : UInt64) : FrameRingRegisterRequest where
  leaseId := kMinOpaqueLeaseId
  displayId := 1
  displayGeneration := 1
  clientCookie
  ownerCapability := exampleCapability
  width := 1920
  height := 1080
  format := 87
  textureHandles := #v[1, 2, 3, 4]
  metadataHandle := 5
  eventHandle := 6

/-- The first display is created by its owner, and a ring is registered for it. -/
def registersOnce : List (FrameTransportEvent Unit) :=
  [.store (.createTemporaryDisplayOwned
      { display := exampleRequest kMinOpaqueLeaseId 1, ownerCapability := exampleCapability } 0),
    .registerRing examplePeer (exampleRingRequest 1) 0 fun _ _ ↦ .returned (some ())]

/-- A replacement that another process asks for is not authorized, and leaves the ring alone. -/
theorem unauthorizedReplacement_keepsRing :
    ¬∀ (store : DisplayStore) (events : List (FrameTransportEvent Unit)) (peer : FrameRequestPeer)
        (request : FrameRingRegisterRequest) (now : TimePoint)
        (importer : FrameResourceImporter Unit),
      let s := FrameTransport.execute { store } events
      let answer := s.server.registerRing s.store peer request now importer
      s.server.rings.rings.contains request.displayId = true → answer.2.status = .unauthorized →
        answer.1.rings.rings.contains request.displayId = false := by
  intro h
  have h' := h (.new 0 4) registersOnce { examplePeer with processStart := 2 }
    (exampleRingRequest 2) 0 (fun _ _ ↦ .returned (some ())) (by decide)
    (by decide)
  exact absurd h' (by decide)

end VirtualDisplay
