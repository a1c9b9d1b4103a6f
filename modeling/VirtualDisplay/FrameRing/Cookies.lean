import VirtualDisplay.FrameRing.Tables
import VirtualDisplay.LeaseStore.Connectors
import VirtualDisplay.LeaseStore.Expiry

/-!
# Client cookies

A request that carries handles must not be imported twice: the handles of the first time may stand
for something else by the second.  The cookies are there to prevent it, and the entry of a display
remembers the highest one.  But entries are rewritten, blanked and dropped, and so the fence has two
parts: as long as someone could be let in for a lifetime of a display (its lease and generation),
the entry is there and has the highest cookie seen; and when the entry is dropped, that lifetime is
over.  `Fenced` says so for each cookie seen, and every event preserves it.

`cookies_fence` needs that times do not run backwards, that no lease id is used again after its
lease has ended, and that no display gets a generation twice.  `importedTwice` shows that the last
condition cannot be left out: the generations are counted in 64 bits.
-/

set_option autoImplicit false

namespace VirtualDisplay

open Std DisplayStore FrameRingServer

/-! ## Orderly runs -/

namespace DisplayStore

/-- No lease of the run has one of the ids in `ended`, or the id of a lease that has ended before
in the run. -/
def reusesNoLease (s : DisplayStore) (ended : List UInt64) : List StoreOp → Bool
  | [] => true
  | op :: ops =>
    ended.all (fun L ↦ !(op.apply s).leasesById.contains L) &&
      reusesNoLease (op.apply s)
        (ended ++ s.leasesById.keys.filter fun L ↦ !(op.apply s).leasesById.contains L) ops

end DisplayStore

namespace FrameTransportEvent

variable {Resources : Type}

/-- The operation of the store that an event is. -/
def storeOp? : FrameTransportEvent Resources → Option StoreOp
  | store op => some op
  | _ => none

/-- The time the event is given. -/
def time? : FrameTransportEvent Resources → Option TimePoint
  | store op => op.time?
  | registerRing _ _ now _ | clearRing _ _ now | reap now => some now
  | retire .. | reset => none

end FrameTransportEvent

namespace FrameTransport

variable {Resources : Type}

/-- What a run is assumed to be like, given a time before it, the ids of leases that have ended
before it, and the records that have been created. -/
structure Orderly (s : DisplayStore) (time : TimePoint) (ended : List UInt64)
    (created : List TemporaryDisplayRecord) (events : List (FrameTransportEvent Resources)) :
    Prop where
  later : ∀ now ∈ events.filterMap FrameTransportEvent.time?, time ≤ now
  sorted : (events.filterMap FrameTransportEvent.time?).Pairwise (· ≤ ·)
  leases : reusesNoLease s ended (events.filterMap FrameTransportEvent.storeOp?) = true
  generations : (created ++ creations s
    (events.filterMap FrameTransportEvent.storeOp?)).Pairwise fun r r' ↦
      r.displayId = r'.displayId → r.generation ≠ r'.generation

/-! ## What a run does -/

/-- The two requests are about the same lifetime of a display. -/
def SameLifetime (request request' : FrameRingRegisterRequest) : Prop :=
  request.leaseId = request'.leaseId ∧ request.displayId = request'.displayId ∧
    request.displayGeneration = request'.displayGeneration

/-- The request the event brings to the importer. -/
def imported? (s : FrameTransport Resources) :
    FrameTransportEvent Resources → Option FrameRingRegisterRequest
  | .registerRing peer request now _ =>
    if s.server.imports s.store peer request now then some request else none
  | _ => none

/-- The request whose cookie the event uses up: one that reaches the importer, or one that is
cleared or cancelled. -/
def seen? (s : FrameTransport Resources) :
    FrameTransportEvent Resources → Option FrameRingRegisterRequest
  | .clearRing peer request now =>
    if (s.server.clearRing s.store peer request now).2 = .success then
      some (cancelledRequest request)
    else none
  | event => s.imported? event

/-- The registration the event asks for, with its answer. -/
def answered? (s : FrameTransport Resources) : FrameTransportEvent Resources →
    Option (FrameRequestPeer × FrameRingRegisterRequest × FrameWireResult)
  | .registerRing peer request now importer =>
    some (peer, request, (s.server.registerRing s.store peer request now importer).2)
  | _ => none

/-- What the events of a run yield, in their order. -/
def collect {α : Type}
    (yields : FrameTransport Resources → FrameTransportEvent Resources → Option α)
    (s : FrameTransport Resources) : List (FrameTransportEvent Resources) → List α
  | [] => []
  | event :: events => (yields s event).toList ++ collect yields (s.apply event) events

/-- The requests of a run whose resources have been opened. -/
def imported (s : FrameTransport Resources) : List (FrameTransportEvent Resources) →
    List FrameRingRegisterRequest := collect imported? s

/-- The requests of a run that have come to the importer. -/
def seen (s : FrameTransport Resources) : List (FrameTransportEvent Resources) →
    List FrameRingRegisterRequest := collect seen? s

/-- The requests of a run with their answers. -/
def answered (s : FrameTransport Resources) : List (FrameTransportEvent Resources) →
    List (FrameRequestPeer × FrameRingRegisterRequest × FrameWireResult) := collect answered? s

/-! ## The fence -/

/-- The entry keeps the cookie out: it is of this lifetime, for the capability its lease has, and
its cookie is no smaller. -/
def KeepsOut (s : FrameTransport Resources) (request : FrameRingRegisterRequest)
    (entry : FrameRingServerEntry) : Prop :=
  SameLifetime request entry.request ∧ request.clientCookie ≤ entry.request.clientCookie ∧
    s.store.leaseOwner request.leaseId = some entry.request.ownerCapability

/-- The cookie of the request cannot come back: its lifetime has been let in once, and since then it
has an entry that keeps the cookie out, or is over. -/
structure Fenced (s : FrameTransport Resources) (time : TimePoint) (ended : List UInt64)
    (created : List TemporaryDisplayRecord) (request : FrameRingRegisterRequest) : Prop where
  valid : validateLeaseDisplayRequest
    { leaseId := request.leaseId, displayId := request.displayId } = .none
  given : ∃ r ∈ created, r.displayId = request.displayId ∧
    r.generation = request.displayGeneration
  leased : s.store.leasesById.contains request.leaseId = true ∨ request.leaseId ∈ ended
  fence : (∃ entry, s.server.entries[request.displayId]? = some entry ∧
      s.KeepsOut request entry) ∨
    s.store.Over time request.leaseId request.displayId request.displayGeneration

/-- Every cookie seen is fenced, and every reply in an entry has been given. -/
structure Fences (s : FrameTransport Resources) (time : TimePoint) (ended : List UInt64)
    (created : List TemporaryDisplayRecord) (seen : List FrameRingRegisterRequest)
    (answered : List (FrameRequestPeer × FrameRingRegisterRequest × FrameWireResult)) : Prop where
  agrees : s.server.Agrees
  consistent : s.store.LeasesConsistent
  known : ∀ (d : UInt64) (r : TemporaryDisplayRecord), s.store.displaysById[d]? = some r →
    ∃ r₀ ∈ created, r₀.displayId = d ∧ r₀.generation = r.generation
  fenced : ∀ request ∈ seen, s.Fenced time ended created request
  replies : ∀ (d : UInt64) (entry : FrameRingServerEntry), s.server.entries[d]? = some entry →
    entry.reply.ringGeneration ≠ 0 →
      (entry.peer, entry.request, { status := .success, reply := entry.reply }) ∈ answered

/-- Someone who is let in has a record under his lease, of the generation he names, and the
capability of the lease. -/
theorem authorizes_spec {store : DisplayStore} {request : FrameRingRegisterRequest}
    {now : TimePoint} (h : authorizes store request now = true) :
    validateLeaseDisplayRequest { leaseId := request.leaseId, displayId := request.displayId } =
      .none ∧
    store.leaseOwner request.leaseId = some request.ownerCapability ∧
    ∃ r, store.displaysById[request.displayId]? = some r ∧ r.leaseId = request.leaseId ∧
      r.generation = request.displayGeneration ∧
      ¬store.Over now request.leaseId request.displayId request.displayGeneration := by
  rw [authorizes, Option.any_eq_true] at h
  rcases h with ⟨r, hauthorized, hgeneration⟩
  rcases authorizeTemporaryDisplayOwner_eq_some.mp hauthorized with
    ⟨hvalid, hr, hlease, -, -, lease, hheld, -, hcapability⟩
  exact ⟨hvalid, leaseOwner_eq_some.mpr ⟨lease, hheld, hcapability⟩, r, hr, hlease,
    beq_iff_eq.mp hgeneration, fun hover ↦ hover.refused hauthorized (beq_iff_eq.mp hgeneration)⟩

section Server

variable {s : FrameTransport Resources} {time now : TimePoint} {ended : List UInt64}
  {created : List TemporaryDisplayRecord} {seen : List FrameRingRegisterRequest}
  {answered : List (FrameRequestPeer × FrameRingRegisterRequest × FrameWireResult)}

/-- Entries that have kept a cookie out, and are replaced by others that do, or are dropped when
their lifetime is over, leave it fenced. -/
theorem Fenced.replace {request : FrameRingRegisterRequest}
    (h : s.Fenced time ended created request) (hle : time ≤ now)
    {server : FrameRingServer Resources}
    (hentry : ∀ entry, s.server.entries[request.displayId]? = some entry →
      s.KeepsOut request entry →
      (∃ entry', server.entries[request.displayId]? = some entry' ∧
        s.KeepsOut request entry') ∨
      s.store.Over now request.leaseId request.displayId request.displayGeneration) :
    Fenced { s with server } now ended created request where
  valid := h.valid
  given := h.given
  leased := h.leased
  fence := by
    rcases h.fence with ⟨entry, hheld, hkeeps⟩ | hover
    · exact hentry entry hheld hkeeps
    · exact .inr (hover.later hle)

theorem Fences.reap (h : s.Fences time ended created seen answered) (hle : time ≤ now) :
    Fences { s with server := (s.server.reap s.store now).1 } now ended created seen answered := by
  rcases h.agrees.reap s.store now with ⟨hagrees, -, hreaped⟩
  refine ⟨hagrees, h.consistent, h.known, fun request hrequest ↦ ?_, fun d entry' hentry' hne ↦ ?_⟩
  · have hfenced := h.fenced request hrequest
    refine hfenced.replace hle fun entry hentry hkeeps ↦ ?_
    obtain ⟨hsame, hcookie, howner⟩ := hkeeps
    cases hauthorizes : authorizes s.store entry.request now with
    | true =>
      rcases (hreaped _).stays entry hentry hauthorizes with ⟨entry', hentry'⟩
      rcases (hreaped _).kept entry' hentry' with ⟨e, he, -, -, hrequest', -⟩
      cases hentry.symm.trans he
      exact .inl ⟨entry', hentry', hrequest' ▸ hsame, hrequest' ▸ hcookie, hrequest' ▸ howner⟩
    | false =>
      right
      obtain ⟨hlease, hdisplay, hgeneration⟩ := hsame
      refine over_of_refused h.consistent hfenced.valid howner ?_
      rw [hlease, hdisplay, hgeneration]
      exact hauthorizes
  · rcases (hreaped d).kept entry' hentry' with ⟨entry, hentry, -, hpeer, hrequest, hreply⟩
    rcases hreply with ⟨hreply, -⟩ | hblank
    · rw [hpeer, hrequest, hreply]
      exact h.replies d entry hentry (hreply ▸ hne)
    · rw [hblank] at hne
      exact absurd rfl hne

/-- A request that is let in is fenced as soon as there is an entry that keeps its cookie out. -/
theorem Fences.newlySeen (h : s.Fences time ended created seen answered)
    {request : FrameRingRegisterRequest} (hauthorizes : authorizes s.store request now = true)
    {server : FrameRingServer Resources} {entry : FrameRingServerEntry}
    (hentry : server.entries[request.displayId]? = some entry)
    (hkeeps : s.KeepsOut request entry) :
    Fenced { s with server } now ended created request := by
  rcases authorizes_spec hauthorizes with ⟨hvalid, howner, r, hr, -, hgeneration, -⟩
  rcases h.known _ r hr with ⟨r₀, hr₀, hd, hgeneration₀⟩
  rcases leaseOwner_eq_some.mp howner with ⟨lease, hlease, -⟩
  refine ⟨hvalid, ⟨r₀, hr₀, hd, hgeneration₀.trans hgeneration⟩, .inl ?_,
    .inl ⟨entry, hentry, hkeeps⟩⟩
  rw [ExtTreeMap.contains_eq_isSome_getElem?, hlease, Option.isSome_some]

/-- A request that gets past the entry of its display has a cookie above all that entry keeps out,
and replaces it as the entry that does. -/
theorem keepsOut_of_unknown {peer : FrameRequestPeer}
    {request u : FrameRingRegisterRequest} (hauthorizes : authorizes s.store request now = true)
    {entry : FrameRingServerEntry} (hauthorizes' : authorizes s.store entry.request now = true)
    (hdisplay : entry.request.displayId = request.displayId)
    (hunknown : knownAnswer (some entry) peer request = none) (hkeeps : s.KeepsOut u entry) :
    u.clientCookie < request.clientCookie ∧
      ∀ reply, s.KeepsOut u { peer, request, reply } := by
  have hcookie : entry.request.clientCookie < request.clientCookie := by
    rw [knownAnswer] at hunknown
    split_ifs at hunknown with hpeer hold
    exact UInt64.not_le.mp hold
  obtain ⟨⟨hlease, hd, hgeneration⟩, hle, howner⟩ := hkeeps
  rcases authorizes_spec hauthorizes with ⟨-, howner', r, hr, hrlease, hrgeneration, -⟩
  rcases authorizes_spec hauthorizes' with ⟨-, -, r', hr', hrlease', hrgeneration', -⟩
  rw [hdisplay] at hr'
  cases hr.symm.trans hr'
  have hsame : entry.request.leaseId = request.leaseId := hrlease'.symm.trans hrlease
  refine ⟨UInt64.lt_of_le_of_lt hle hcookie, fun reply ↦ ⟨⟨hlease.trans hsame, hd.trans hdisplay,
    hgeneration.trans (hrgeneration'.symm.trans hrgeneration)⟩,
    UInt64.le_trans hle (UInt64.le_of_lt hcookie), ?_⟩⟩
  rw [hlease, hsame]
  exact howner'

/-- The entry of one display is rewritten: what its cookies need is that the new entry keeps out
what the old one did. -/
theorem Fences.rewrite (h : s.Fences time ended created seen answered)
    {server : FrameRingServer Resources} (hagrees : server.Agrees) {d : UInt64}
    {entry' : FrameRingServerEntry} (hentry' : server.entries[d]? = some entry')
    (hothers : ∀ d', d ≠ d' → server.entries[d']? = s.server.entries[d']?)
    (hkeeps : ∀ u entry, s.server.entries[d]? = some entry → s.KeepsOut u entry →
      s.KeepsOut u entry')
    {answered' : List (FrameRequestPeer × FrameRingRegisterRequest × FrameWireResult)}
    (hanswered : answered ⊆ answered')
    (hreply : entry'.reply.ringGeneration ≠ 0 →
      (entry'.peer, entry'.request, { status := .success, reply := entry'.reply }) ∈ answered') :
    Fences { s with server } time ended created seen answered' := by
  refine ⟨hagrees, h.consistent, h.known, fun u hu ↦ ?_, fun d' entry hentry hne ↦ ?_⟩
  · refine (h.fenced u hu).replace le_rfl fun entry hentry hkeeps' ↦ .inl ?_
    by_cases hd : d = u.displayId
    · subst hd
      exact ⟨entry', hentry', hkeeps u entry hentry hkeeps'⟩
    · exact ⟨entry, (hothers _ hd).trans hentry, hkeeps'⟩
  · by_cases hd : d = d'
    · subst hd
      cases hentry'.symm.trans hentry
      exact hreply hne
    · exact hanswered (h.replies d' entry ((hothers d' hd).symm.trans hentry) hne)

theorem Fences.addSeen (h : s.Fences time ended created seen answered)
    {request : FrameRingRegisterRequest} (hfenced : s.Fenced time ended created request) :
    s.Fences time ended created (seen ++ [request]) answered where
  agrees := h.agrees
  consistent := h.consistent
  known := h.known
  fenced u hu := by
    rcases List.mem_append.mp hu with hu | hu
    · exact h.fenced u hu
    · cases List.mem_singleton.mp hu
      exact hfenced
  replies := h.replies

theorem Fences.addAnswered (h : s.Fences time ended created seen answered)
    (answers : List (FrameRequestPeer × FrameRingRegisterRequest × FrameWireResult)) :
    s.Fences time ended created seen (answered ++ answers) where
  agrees := h.agrees
  consistent := h.consistent
  known := h.known
  fenced := h.fenced
  replies d entry hentry hne := List.mem_append_left _ (h.replies d entry hentry hne)

/-- The cookie of a request that is imported is above all that have been seen for its lifetime. -/
theorem Fences.above (h : s.Fences time ended created seen answered) (hle : time ≤ now)
    {peer : FrameRequestPeer} {request : FrameRingRegisterRequest}
    (himports : s.server.imports s.store peer request now = true)
    {u : FrameRingRegisterRequest} (hu : u ∈ seen) (hsame : SameLifetime u request) :
    u.clientCookie < request.clientCookie := by
  rw [imports, Bool.and_eq_true, Bool.and_eq_true, Option.isNone_iff_eq_none] at himports
  obtain ⟨⟨-, hauthorizes⟩, hunknown⟩ := himports
  rcases ((h.reap hle).fenced u hu).fence with ⟨entry, hentry, hkeeps⟩ | hover
  · dsimp only at hentry
    rw [hsame.2.1] at hentry
    rw [hentry] at hunknown
    rcases h.agrees.reap s.store now with ⟨hagrees, -, hreaped⟩
    rcases (hreaped _).kept entry hentry with ⟨e, -, hauthorizes', -, hrequest, -⟩
    exact (keepsOut_of_unknown hauthorizes (hrequest ▸ hauthorizes') (hagrees.keyed _ _ hentry)
      hunknown hkeeps).1
  · rcases authorizes_spec hauthorizes with ⟨-, -, r, -, -, -, hnot⟩
    rw [hsame.1, hsame.2.1, hsame.2.2] at hover
    exact absurd hover hnot

theorem Fences.importRing {peer : FrameRequestPeer} {request : FrameRingRegisterRequest}
    {importer : FrameResourceImporter Resources}
    (h : s.Fences now ended created seen answered)
    (hreaped : ∀ entry, s.server.entries[request.displayId]? = some entry →
      authorizes s.store entry.request now = true)
    (hauthorizes : authorizes s.store request now = true)
    (hunknown : knownAnswer s.server.entries[request.displayId]? peer request = none) :
    let imported := s.server.importRing s.store peer request now importer
    Fences { s with server := imported.1 } now ended created (seen ++ [request])
      (answered ++ [(peer, request, imported.2)]) := by
  intro imported
  have himported : Imported s.server imported.1 s.store peer request now imported.2 :=
    h.agrees.importRing s.store peer request now importer
  have hentry : ∃ reply, imported.1.entries[request.displayId]? = some { peer, request, reply } ∧
      (reply.ringGeneration ≠ 0 →
        (peer, request, { status := .success, reply }) ∈
          answered ++ [(peer, request, imported.2)]) := by
    rcases himported.cases with ⟨hok, hentry, -⟩ | ⟨-, hentry, -⟩
    · refine ⟨_, hentry, fun _ ↦ List.mem_append_right _ (List.mem_singleton.mpr ?_)⟩
      rw [← hok]
    · exact ⟨_, hentry, fun hne ↦ absurd rfl hne⟩
  rcases hentry with ⟨reply, hentry, hreply⟩
  have hnew : s.KeepsOut request { peer, request, reply } :=
    ⟨⟨rfl, rfl, rfl⟩, UInt64.le_refl _, (authorizes_spec hauthorizes).2.1⟩
  refine (h.rewrite himported.agrees hentry himported.others (fun u entry hold hkeeps ↦ ?_)
    (List.subset_append_left ..) hreply).addSeen (h.newlySeen hauthorizes hentry hnew)
  rw [hold] at hunknown
  exact (keepsOut_of_unknown hauthorizes (hreaped entry hold) (h.agrees.keyed _ _ hold) hunknown
    hkeeps).2 reply

/-- Time may pass. -/
theorem Fences.later (h : s.Fences time ended created seen answered) (hle : time ≤ now) :
    s.Fences now ended created seen answered where
  agrees := h.agrees
  consistent := h.consistent
  known := h.known
  fenced u hu :=
    (h.fenced u hu).replace hle fun entry hentry hkeeps ↦ .inl ⟨entry, hentry, hkeeps⟩
  replies := h.replies

theorem Fences.registerRing (h : s.Fences time ended created seen answered) (hle : time ≤ now)
    (peer : FrameRequestPeer) (request : FrameRingRegisterRequest)
    (importer : FrameResourceImporter Resources) :
    (s.apply (.registerRing peer request now importer)).Fences now ended created
      (seen ++ (s.seen? (.registerRing peer request now importer)).toList)
      (answered ++ (s.answered? (.registerRing peer request now importer)).toList) := by
  rw [FrameTransport.apply, seen?, imported?, answered?, Option.toList_some]
  · rcases s.server.registerRing_cases s.store peer request now importer with
      ⟨himports, hsame, -⟩ | ⟨-, hauthorizes, ⟨himports, result, -, h'⟩ | ⟨himports, hunknown, h'⟩⟩
    · rw [himports, hsame]
      simpa using (h.later hle).addAnswered _
    · rw [himports, h']
      simpa using (h.reap hle).addAnswered _
    · rw [himports, if_pos rfl, h', Option.toList_some]
      rcases h.agrees.reap s.store now with ⟨-, -, hreaped⟩
      refine (h.reap hle).importRing (fun entry hentry ↦ ?_) hauthorizes hunknown
      rcases (hreaped _).kept entry hentry with ⟨e, -, hauthorizes', -, hrequest, -⟩
      exact hrequest ▸ hauthorizes'
  · rintro peer request now ⟨⟩

theorem Fences.clearRing (h : s.Fences time ended created seen answered) (hle : time ≤ now)
    (peer : FrameRequestPeer) (request : FrameRingClearRequest) :
    (s.apply (.clearRing peer request now)).Fences now ended created
      (seen ++ (s.seen? (.clearRing peer request now)).toList) answered := by
  have hreap := h.reap hle
  have hagrees := h.agrees.clearRing s.store peer request now
  rw [FrameTransport.apply, seen?]
  rcases h.agrees.clearRing_cases s.store peer request now with
    ⟨hsame, hfailed⟩ | ⟨hauthorizes, ⟨hsame, hfailed⟩ | ⟨rings, entry', -, -, hentry', h'⟩⟩
  · rw [if_neg hfailed, hsame, Option.toList_none, List.append_nil]
    exact h.later hle
  · rw [if_neg hfailed, hsame, Option.toList_none, List.append_nil]
    exact hreap
  · rw [h'] at hagrees ⊢
    have hhere : ((s.server.reap s.store now).1.entries.insert request.displayId
        entry')[request.displayId]? = some entry' := (OrdMap.getElem?_insert ..).trans (if_pos rfl)
    have howner := (authorizes_spec hauthorizes).2.1
    rw [if_pos rfl, Option.toList_some]
    refine (hreap.rewrite hagrees hhere
      (fun d hd ↦ (OrdMap.getElem?_insert ..).trans (if_neg hd)) (fun u entry hentry hkeeps ↦ ?_)
      (List.Subset.refl _) fun hne ↦ ?_).addSeen (h.newlySeen hauthorizes hhere ?_)
    · rcases hentry' with ⟨hnone, -⟩ | ⟨e, he, rfl, -, -, -, hcookie⟩
      · dsimp only at hentry
        rw [hnone] at hentry
        cases hentry
      · cases he.symm.trans hentry
        exact ⟨hkeeps.1, UInt64.le_trans hkeeps.2.1 hcookie, hkeeps.2.2⟩
    · rcases hentry' with ⟨-, rfl⟩ | ⟨e, -, rfl, -⟩
      · exact absurd rfl hne
      · exact absurd rfl hne
    · rcases hentry' with ⟨-, rfl⟩ | ⟨e, he, rfl, hlease, hcapability, hgeneration, -⟩
      · exact ⟨⟨rfl, rfl, rfl⟩, UInt64.le_refl _, howner⟩
      · have hd : e.request.displayId = request.displayId := hreap.agrees.keyed _ _ he
        refine ⟨⟨hlease.symm, hd.symm, hgeneration.symm⟩, UInt64.le_refl _, howner.trans ?_⟩
        exact congrArg some hcapability.symm

theorem Fences.reset (h : s.Fences time ended created seen answered) :
    (s.apply .reset).Fences time ended created seen answered := by
  have hagrees := h.agrees.reset
  rcases h.agrees.reset_cases with ⟨rings, -, -, h'⟩
  have hentries (d : UInt64) : s.server.reset.entries[d]? =
      s.server.entries[d]?.map fun entry ↦ { entry with reply := {} } := by
    rw [h']
    exact OrdMap.getElem?_map ..
  refine ⟨hagrees, h.consistent, h.known, fun u hu ↦ ?_, fun d entry hentry hne ↦ ?_⟩
  · refine (h.fenced u hu).replace le_rfl fun entry hentry hkeeps ↦
      .inl ⟨{ entry with reply := {} }, ?_, hkeeps⟩
    rw [hentries, hentry, Option.map_some]
  · have hentry : s.server.reset.entries[d]? = some entry := hentry
    rw [hentries, Option.map_eq_some_iff] at hentry
    rcases hentry with ⟨e, -, rfl⟩
    exact absurd rfl hne

end Server

section Store

variable {s : FrameTransport Resources} {time : TimePoint} {ended : List UInt64}
  {created : List TemporaryDisplayRecord} {seen : List FrameRingRegisterRequest}
  {answered : List (FrameRequestPeer × FrameRingRegisterRequest × FrameWireResult)}
  {op : StoreOp}

/-- A lease that is still there has not been reclaimed. -/
theorem leaseAfter_eq {store : DisplayStore} {L : UInt64}
    (hstays : ((op.apply store).leasesById[L]?).isSome = true) : store.leaseAfter L op = L := by
  cases op with
  | reclaimTemporaryDisplay request now =>
    rw [leaseAfter]
    refine if_neg fun hmoved ↦ ?_
    rw [StoreOp.apply] at hstays
    rcases store.reclaimTemporaryDisplay_cases request now with
      ⟨display, lease, hdisplay, -, -, -, -, hnew, -, -, h⟩ | ⟨-, herror⟩
    · rw [hdisplay, Option.any_some, beq_iff_eq] at hmoved
      rw [h, rotateLease] at hstays
      dsimp only at hstays
      rw [OrdMap.getElem?_insert, OrdMap.getElem?_erase, if_neg (hmoved.2 ▸ hnew),
        if_pos hmoved.2] at hstays
      cases hstays
    · exact herror hmoved.1
  | _ => rfl

/-- The ids of the leases that have ended by the end of the operation. -/
def endedAfter (store : DisplayStore) (ended : List UInt64) (op : StoreOp) : List UInt64 :=
  ended ++ store.leasesById.keys.filter fun L ↦ !(op.apply store).leasesById.contains L

theorem Fences.store (h : s.Fences time ended created seen answered)
    (htime : ∀ now, op.time? = some now → time ≤ now)
    (hended : ∀ L ∈ ended, (op.apply s.store).leasesById.contains L = false)
    (hfresh : ∀ r₀ ∈ created, ∀ r, op.created? s.store = some r → r₀.displayId = r.displayId →
      r₀.generation ≠ r.generation) :
    (s.apply (.store op)).Fences time (endedAfter s.store ended op)
      (created ++ (op.created? s.store).toList) seen answered := by
  have hconsistent : (op.apply s.store).LeasesConsistent :=
    (op.reaches s.store).invariant (fun _ _ h ↦ h.of_change) h.consistent
  refine ⟨h.agrees, hconsistent, fun d r hr ↦ ?_, fun u hu ↦ ?_, h.replies⟩
  · have hr : (op.apply s.store).displaysById[d]? = some r := hr
    rcases op.created_cases s.store with ⟨-, -, hthere⟩ | ⟨r₁, hnew, -, -, -, hinserted⟩
    · rcases hthere d r hr with ⟨r₁, hr₁⟩
      rcases h.known d r₁ hr₁ with ⟨r₀, hr₀, hd, hgeneration⟩
      exact ⟨r₀, List.mem_append_left _ hr₀, hd,
        hgeneration.trans (op.record hr₁ hr).1.generation.symm⟩
    · rw [hinserted, OrdMap.getElem?_insert] at hr
      split_ifs at hr with hd
      · cases hr
        exact ⟨r, List.mem_append_right _ (by rw [hnew]; exact List.mem_cons_self), hd, rfl⟩
      · rcases h.known d r hr with ⟨r₀, hr₀, hd₀, hgeneration⟩
        exact ⟨r₀, List.mem_append_left _ hr₀, hd₀, hgeneration⟩
  · obtain ⟨hvalid, ⟨r₀, hr₀, hd₀, hgeneration₀⟩, hleased, hfence⟩ := h.fenced u hu
    have hleased' : (op.apply s.store).leasesById.contains u.leaseId = true ∨
        u.leaseId ∈ endedAfter s.store ended op := by
      rcases hleased with hleased | hended'
      · cases hstays : (op.apply s.store).leasesById.contains u.leaseId with
        | true => exact .inl rfl
        | false =>
          refine .inr (List.mem_append_right _ (List.mem_filter.mpr ⟨?_, by rw [hstays]; rfl⟩))
          exact ExtTreeMap.mem_keys.mpr (ExtTreeMap.contains_iff_mem.mp hleased)
      · exact .inr (List.mem_append_left _ hended')
    refine ⟨hvalid, ⟨r₀, List.mem_append_left _ hr₀, hd₀, hgeneration₀⟩, hleased', ?_⟩
    rcases hfence with ⟨entry, hentry, hsame, hcookie, howner⟩ | hover
    · cases hlease : (op.apply s.store).leasesById[u.leaseId]? with
      | none => exact .inr (over_of_noLease hconsistent hlease time)
      | some lease =>
        have hstays : ((op.apply s.store).leasesById[u.leaseId]?).isSome = true := by
          rw [hlease]
          rfl
        have hsame' := leaseAfter_eq hstays
        refine .inl ⟨entry, hentry, hsame, hcookie, ?_⟩
        have howner' := leaseOwner_apply howner (hsame'.symm ▸ hstays)
        rwa [hsame'] at howner'
    · refine .inr (hover.apply h.consistent htime (fun hnone ↦ ?_) fun r hnew hd ↦ ?_)
      · have hended' : u.leaseId ∈ ended := by
          refine hleased.resolve_left fun hleased ↦ ?_
          rw [ExtTreeMap.contains_eq_isSome_getElem?, hnone] at hleased
          cases hleased
        exact ExtTreeMap.getElem?_eq_none_of_contains_eq_false (hended _ hended')
      · rw [← hgeneration₀]
        exact (hfresh r₀ hr₀ r hnew (hd₀.trans hd.symm)).symm

end Store

/-! ## Runs -/

section Run

variable {s : FrameTransport Resources} {time : TimePoint} {ended : List UInt64}
  {created : List TemporaryDisplayRecord} {seen : List FrameRingRegisterRequest}
  {answered : List (FrameRequestPeer × FrameRingRegisterRequest × FrameWireResult)}
  {event : FrameTransportEvent Resources} {events : List (FrameTransportEvent Resources)}

/-- The time after an event is its own, if it has one. -/
theorem Orderly.times {store : DisplayStore}
    (h : Orderly store time ended created (event :: events)) :
    time ≤ event.time?.getD time ∧
      (∀ now ∈ events.filterMap FrameTransportEvent.time?, event.time?.getD time ≤ now) ∧
      (events.filterMap FrameTransportEvent.time?).Pairwise (· ≤ ·) := by
  have hlater := h.later
  have hsorted := h.sorted
  rw [List.filterMap_cons] at hlater hsorted
  cases htime : event.time? with
  | none =>
    rw [htime] at hlater hsorted
    exact ⟨le_rfl, hlater, hsorted⟩
  | some now =>
    rw [htime] at hlater hsorted
    rw [List.pairwise_cons] at hsorted
    exact ⟨hlater now List.mem_cons_self, hsorted⟩

/-- An event of the server leaves the store alone. -/
theorem Orderly.server {store : DisplayStore}
    (h : Orderly store time ended created (event :: events)) (hevent : event.storeOp? = none) :
    Orderly store (event.time?.getD time) ended created events := by
  have hleases := h.leases
  have hgenerations := h.generations
  rw [List.filterMap_cons, hevent] at hleases hgenerations
  exact ⟨h.times.2.1, h.times.2.2, hleases, hgenerations⟩

theorem Orderly.store {store : DisplayStore} {op : StoreOp}
    (h : Orderly store time ended created (FrameTransportEvent.store op :: events)) :
    Orderly (op.apply store) (op.time?.getD time) (endedAfter store ended op)
      (created ++ (op.created? store).toList) events ∧
    (∀ L ∈ ended, (op.apply store).leasesById.contains L = false) ∧
    ∀ r₀ ∈ created, ∀ r, op.created? store = some r → r₀.displayId = r.displayId →
      r₀.generation ≠ r.generation := by
  have hleases := h.leases
  have hgenerations := h.generations
  rw [List.filterMap_cons, FrameTransportEvent.storeOp?] at hleases hgenerations
  rw [reusesNoLease, Bool.and_eq_true, List.all_eq_true] at hleases
  rw [creations, ← List.append_assoc] at hgenerations
  refine ⟨⟨h.times.2.1, h.times.2.2, hleases.2, hgenerations⟩, fun L hL ↦ ?_, ?_⟩
  · simpa using hleases.1 L hL
  · intro r₀ hr₀ r hr
    have hpair := (List.pairwise_append.mp (List.pairwise_append.mp hgenerations).1).2.2 r₀ hr₀ r
    rw [hr] at hpair
    exact hpair List.mem_cons_self

theorem Fences.apply (h : s.Fences time ended created seen answered)
    (horderly : Orderly s.store time ended created (event :: events)) :
    ∃ time' ended' created',
      (s.apply event).Fences time' ended' created' (seen ++ (s.seen? event).toList)
        (answered ++ (s.answered? event).toList) ∧
      Orderly (s.apply event).store time' ended' created' events := by
  have hle := horderly.times.1
  have hunseen {time' : TimePoint} {ended' : List UInt64} {created' : List TemporaryDisplayRecord}
      (hseen : s.seen? event = none) (hanswered : s.answered? event = none)
      (h' : (s.apply event).Fences time' ended' created' seen answered) :
      (s.apply event).Fences time' ended' created' (seen ++ (s.seen? event).toList)
        (answered ++ (s.answered? event).toList) := by
    rwa [hseen, hanswered, Option.toList_none, Option.toList_none, List.append_nil,
      List.append_nil]
  cases event with
  | store op =>
    rcases horderly.store with ⟨horderly', hended, hfresh⟩
    refine ⟨_, _, _, hunseen rfl rfl ((h.store (fun now hnow ↦ ?_) hended hfresh).later hle),
      horderly'⟩
    have hle : time ≤ op.time?.getD time := hle
    rwa [hnow] at hle
  | retire op isRetirement =>
    refine ⟨_, _, _, hunseen rfl rfl ⟨agrees_apply h.agrees _, h.consistent, h.known,
      fun u hu ↦ ?_, h.replies⟩, horderly.server rfl⟩
    exact (h.fenced u hu).replace le_rfl fun entry hentry hkeeps ↦ .inl ⟨entry, hentry, hkeeps⟩
  | registerRing peer request now importer =>
    exact ⟨_, _, _, h.registerRing hle peer request importer, horderly.server rfl⟩
  | clearRing peer request now =>
    refine ⟨_, _, _, ?_, horderly.server rfl⟩
    have hanswered : s.answered? (.clearRing peer request now) = none := rfl
    rw [hanswered, Option.toList_none, List.append_nil]
    exact h.clearRing hle peer request
  | reap now => exact ⟨_, _, _, hunseen rfl rfl (h.reap hle), horderly.server rfl⟩
  | reset => exact ⟨_, _, _, hunseen rfl rfl h.reset, horderly.server rfl⟩

theorem Fences.execute (h : s.Fences time ended created seen answered)
    {events' : List (FrameTransportEvent Resources)}
    (horderly : Orderly s.store time ended created (events ++ events')) :
    ∃ time' ended' created',
      (s.execute events).Fences time' ended' created' (seen ++ s.seen events)
        (answered ++ s.answered events) ∧
      Orderly (s.execute events).store time' ended' created' events' := by
  induction events generalizing s time ended created seen answered with
  | nil =>
    refine ⟨_, _, _, ?_, horderly⟩
    rw [FrameTransport.seen, FrameTransport.answered, collect, collect, List.append_nil,
      List.append_nil]
    exact h
  | cons event events ih =>
    rcases h.apply horderly with ⟨time', ended', created', h', horderly'⟩
    rw [FrameTransport.seen, FrameTransport.answered, collect, collect, ← List.append_assoc,
      ← List.append_assoc]
    exact ih h' horderly'

/-- The imports of a run have growing cookies, above those seen before the run. -/
theorem Fences.imported (h : s.Fences time ended created seen answered)
    (horderly : Orderly s.store time ended created events) :
    (s.imported events).Pairwise (fun r r' ↦ SameLifetime r r' → r.clientCookie < r'.clientCookie) ∧
      ∀ u ∈ seen, ∀ r ∈ s.imported events, SameLifetime u r → u.clientCookie < r.clientCookie := by
  induction events generalizing s time ended created seen answered with
  | nil => exact ⟨.nil, fun _ _ r hr ↦ (nomatch hr)⟩
  | cons event events ih =>
    rcases h.apply horderly with ⟨time', ended', created', h', horderly'⟩
    rcases ih h' horderly' with ⟨hpairwise, habove⟩
    have hhere : ∀ r ∈ (s.imported? event).toList, s.seen? event = some r ∧
        ∀ u ∈ seen, SameLifetime u r → u.clientCookie < r.clientCookie := by
      intro r hr
      rw [Option.mem_toList] at hr
      cases event with
      | registerRing peer request now importer =>
        refine ⟨hr, fun u hu hsame ↦ ?_⟩
        rw [imported?] at hr
        split_ifs at hr with himports
        cases hr
        exact h.above horderly.times.1 himports hu hsame
      | _ => cases hr
    rw [FrameTransport.imported, collect, List.pairwise_append]
    refine ⟨⟨?_, hpairwise, fun r hr r' hr' hsame ↦ ?_⟩, fun u hu r hr hsame ↦ ?_⟩
    · cases s.imported? event <;> simp
    · refine habove r (List.mem_append_right _ ?_) r' hr' hsame
      rw [(hhere r hr).1]
      exact List.mem_cons_self
    · rcases List.mem_append.mp hr with hr | hr
      · exact (hhere r hr).2 u hu hsame
      · exact habove u (List.mem_append_left _ hu) r hr hsame

theorem fences_new (maxPermanentDisplays maxTemporaryDisplays : UInt32)
    (reservations : OrdMap UInt64 UInt32) (initialManifest : Option DisplayManifest)
    (time : TimePoint) :
    ({ store := .new maxPermanentDisplays maxTemporaryDisplays reservations initialManifest } :
      FrameTransport Resources).Fences time [] [] [] [] where
  agrees := agrees_new
  consistent := execute_leasesConsistent _ _ reservations initialManifest []
  known d r hr := by
    have hfresh := new_fresh maxPermanentDisplays maxTemporaryDisplays reservations initialManifest
    dsimp only at hr
    rw [hfresh.1] at hr
    simp at hr
  fenced := nofun
  replies d entry hentry := by simp at hentry

/-- **Cookies are used once.**  In any run of a new server over a new store in which times do not
run backwards, no lease id is used again after its lease has ended and no display gets a generation
twice: the requests that reach the importer for one lifetime of a display have growing cookies; and
a registration whose cookie is not above one seen before for its lifetime is not imported and
registers nothing, and if it is answered with a success, then with the answer that the same request
of the same process has been given before, and the ring it names is the display's and can be
published to. -/
theorem cookies_fence {maxPermanentDisplays maxTemporaryDisplays : UInt32}
    {reservations : OrdMap UInt64 UInt32} {initialManifest : Option DisplayManifest}
    (events : List (FrameTransportEvent Resources))
    (htimes : (events.filterMap FrameTransportEvent.time?).Pairwise (· ≤ ·))
    (hleases : reusesNoLease
      (.new maxPermanentDisplays maxTemporaryDisplays reservations initialManifest) []
      (events.filterMap FrameTransportEvent.storeOp?) = true)
    (hgenerations : (creations
      (.new maxPermanentDisplays maxTemporaryDisplays reservations initialManifest)
      (events.filterMap FrameTransportEvent.storeOp?)).Pairwise fun r r' ↦
        r.displayId = r'.displayId → r.generation ≠ r'.generation) :
    let s : FrameTransport Resources :=
      { store := .new maxPermanentDisplays maxTemporaryDisplays reservations initialManifest }
    (s.imported events).Pairwise
      (fun r r' ↦ SameLifetime r r' → r.clientCookie < r'.clientCookie) ∧
    ∀ before after peer request now importer,
      events = before ++ .registerRing peer request now importer :: after →
      ∀ u ∈ s.seen before, SameLifetime u request → request.clientCookie ≤ u.clientCookie →
        let s' := s.execute before
        let answer := s'.server.registerRing s'.store peer request now importer
        s'.server.imports s'.store peer request now = false ∧
        (∀ (d : UInt64) (ring : FrameRingEntry Resources),
          answer.1.rings.rings[d]? = some ring → s'.server.rings.rings[d]? = some ring) ∧
        (answer.2.status = .success → (peer, request, answer.2) ∈ s.answered before ∧
          ∃ ring, answer.1.rings.rings[request.displayId]? = some ring ∧
            ring.snapshot.ringGeneration = answer.2.reply.ringGeneration ∧
            answer.1.rings.canPublish ring.snapshot = true) := by
  intro s
  -- Any time before the first event will do.
  obtain ⟨time, htime⟩ : ∃ time : TimePoint,
      ∀ now ∈ events.filterMap FrameTransportEvent.time?, time ≤ now := by
    cases h : events.filterMap FrameTransportEvent.time? with
    | nil => exact ⟨0, nofun⟩
    | cons first rest =>
      rw [h, List.pairwise_cons] at htimes
      refine ⟨first, fun now hnow ↦ ?_⟩
      rcases List.mem_cons.mp hnow with rfl | hnow
      · exact le_rfl
      · exact htimes.1 now hnow
  have hnew : s.Fences time [] [] [] [] :=
    fences_new maxPermanentDisplays maxTemporaryDisplays reservations initialManifest time
  have horderly : Orderly s.store time [] [] events := ⟨htime, htimes, hleases, hgenerations⟩
  refine ⟨(hnew.imported horderly).1, ?_⟩
  rintro before after peer request now importer rfl u hu hsame hcookie
  intro s' answer
  rcases hnew.execute horderly with ⟨time', ended, created, h, horderly'⟩
  rw [List.nil_append, List.nil_append] at h
  have hle : time' ≤ now := horderly'.times.1
  have himports : s'.server.imports s'.store peer request now = false := by
    cases himports : s'.server.imports s'.store peer request now with
    | false => rfl
    | true =>
      have habove := h.above hle himports hu hsame
      exact absurd hcookie (UInt64.not_le.mpr habove)
  refine ⟨himports, fun d ring hring ↦ ?_, fun hok ↦ ⟨?_, ?_⟩⟩
  · rcases s'.server.registerRing_cases s'.store peer request now importer with
      ⟨-, hsame, -⟩ | ⟨-, -, ⟨-, result, -, h'⟩ | ⟨himports', -⟩⟩
    · have hring : (s'.server.registerRing s'.store peer request now importer).1.rings.rings[d]? =
        some ring := hring
      rwa [hsame] at hring
    · have hring : (s'.server.registerRing s'.store peer request now importer).1.rings.rings[d]? =
        some ring := hring
      rw [h'] at hring
      exact (h.agrees.reap s'.store now).2.1.registered hring
    · rw [himports] at himports'
      cases himports'
  · have hok : (s'.server.registerRing s'.store peer request now importer).2.status = .success :=
      hok
    change (peer, request, (s'.server.registerRing s'.store peer request now importer).2) ∈ _
    rcases s'.server.registerRing_cases s'.store peer request now importer with
      ⟨-, -, hrefused⟩ | ⟨-, -, ⟨-, result, hknown, h'⟩ | ⟨himports', -⟩⟩
    · exact absurd hok hrefused
    · rw [h'] at hok ⊢
      rcases knownAnswer_success hknown hok with ⟨reply, hentry, hreply, hresult⟩
      have hgiven := (h.reap hle).replies _ _ hentry hreply
      have hanswer : result = { status := .success, reply } := by
        rw [← hresult, ← hok]
      rwa [hanswer]
    · rw [himports] at himports'
      cases himports'
  · rcases h.agrees.answer hok with ⟨ring, hring, -, hgeneration, -⟩
    exact ⟨ring, hring, hgeneration, (h.agrees.registerRing ..).tight.canPublish hring⟩

/-- A registration and its repetition. -/
theorem cookies_fence_repeated :
    let s : FrameTransport Unit := { store := .new 0 4 }
    (s.imported (registersOnce ++ registersOnce)).Pairwise
      fun r r' ↦ SameLifetime r r' → r.clientCookie < r'.clientCookie :=
  (cookies_fence (registersOnce ++ registersOnce) (by decide) (by decide)
    (by decide)).1

end Run

end FrameTransport

/-! ## Once round the generations -/

/-- The create of display 1, and that of display 2 under the same lease. -/
def createFirst : StoreOp :=
  .createTemporaryDisplayOwned
    { display := exampleRequest kMinOpaqueLeaseId 1, ownerCapability := exampleCapability } 0

def createSecond : StoreOp :=
  .createTemporaryDisplayOwned
    { display := exampleRequest kMinOpaqueLeaseId 2, ownerCapability := exampleCapability } 0

/-- Display 2 is gone, and its connector kept. -/
def removeSecond : StoreOp :=
  .removeTemporaryDisplay { leaseId := kMinOpaqueLeaseId, displayId := 2 }
    .retainConnectorReservation

/-- The request for a ring of display 2. -/
def secondRingRequest : FrameRingRegisterRequest :=
  { exampleRingRequest 1 with displayId := 2, displayGeneration := 2 }

/-- Its registration. -/
def registerSecond : FrameTransportEvent Unit :=
  .registerRing examplePeer secondRingRequest 0 fun _ _ ↦ .returned (some ())

/-- The second display of a lease is created, gets a ring and is removed again. -/
def oneLifetime : List (FrameTransportEvent Unit) :=
  [.store createFirst, .store createSecond, registerSecond, .store removeSecond, .reap 0]

/-- The record of display 1. -/
def firstRecord : TemporaryDisplayRecord where
  leaseId := kMinOpaqueLeaseId
  displayId := 1
  width := 1920
  height := 1080
  physicalWidthMm := kDefaultPhysicalWidthMillimeters
  physicalHeightMm := kDefaultPhysicalHeightMillimeters
  refreshRateMillihz := 60000
  timeoutMs := kDefaultLeaseTimeoutMs
  connectorIndex := 0
  displayName := trimDisplayName kDefaultName
  expiresAt := milliseconds kDefaultLeaseTimeoutMs
  identityDisplayId := 1
  generation := 1

/-- The lease of both displays. -/
def exampleLease : LeaseRecord where
  timeoutMs := kDefaultLeaseTimeoutMs
  expiresAt := milliseconds kDefaultLeaseTimeoutMs
  ownerCapability := exampleCapability

/-- The first display is there, under the only lease, and nothing else is. -/
structure HoldsFirst (s : DisplayStore) : Prop where
  displays : s.displaysById = (∅ : OrdMap UInt64 TemporaryDisplayRecord).insert 1 firstRecord
  leases : s.leasesById = (∅ : OrdMap UInt64 LeaseRecord).insert kMinOpaqueLeaseId exampleLease
  quarantine : s.quarantinedConnectors = ∅
  permanent : s.maxPermanentDisplays = 0
  temporary : s.maxTemporaryDisplays = 4

theorem holdsFirst_oneLifetime :
    HoldsFirst (FrameTransport.execute { store := .new 0 4 } oneLifetime).store where
  displays := ExtTreeMap.toList_inj.mp (by decide)
  leases := ExtTreeMap.toList_inj.mp (by decide)
  quarantine := ExtTreeMap.toList_inj.mp (by decide)
  permanent := by decide
  temporary := by decide

namespace HoldsFirst

variable {s : DisplayStore}

/-- The second display is created as long as there is only the first. -/
theorem create (h : HoldsFirst s) :
    ∃ record, (createSecond.apply s).displaysById = s.displaysById.insert 2 record ∧
      record.leaseId = kMinOpaqueLeaseId ∧ record.generation = s.nextTemporaryDisplayGeneration ∧
      record.pendingDeparture = false ∧ record.expiresAt = exampleLease.expiresAt ∧
      (createSecond.apply s).leasesById = s.leasesById ∧
      (createSecond.apply s).quarantinedConnectors = s.quarantinedConnectors ∧
      (createSecond.apply s).maxPermanentDisplays = s.maxPermanentDisplays ∧
      (createSecond.apply s).maxTemporaryDisplays = s.maxTemporaryDisplays ∧
      (createSecond.apply s).nextTemporaryDisplayGeneration =
        s.nextTemporaryDisplayGeneration + 1 := by
  have hlease : s.leasesById[kMinOpaqueLeaseId]? = some exampleLease := by
    rw [h.leases, OrdMap.getElem?_insert, if_pos rfl]
  have hcreate : ∃ reservations connectorIndex,
      s.createTemporaryDisplayImpl (exampleRequest kMinOpaqueLeaseId 2) (some exampleCapability)
        0 = DisplayStore.commitTemporaryDisplay
          { s with connectorReservationsByDisplayId := reservations }
          (validatedCreateTemporaryDisplay (exampleRequest kMinOpaqueLeaseId 2))
          (some exampleCapability) 0 connectorIndex true := by
    have hlease' : s.leasesById[(exampleRequest kMinOpaqueLeaseId 2).leaseId]? =
      some exampleLease := hlease
    refine createTemporaryDisplayImpl_ok (c := 1) ⟨by decide, ?_, ?_, ?_⟩ ?_ ?_ ?_ ?_
    · rw [h.displays]
      decide
    · rw [hlease', leaseRefusesDisplays, leaseHasPendingDeparture, h.displays]
      decide
    · rw [hlease']
      decide
    · rw [h.displays, h.temporary]
      decide
    · rw [isTemporaryConnectorIndex, temporaryConnectorLimit, h.permanent, h.temporary]
      decide
    · rw [connectorIsUsable, connectorIndexIsActive, h.displays, h.quarantine]
      decide
    · rw [edidIdentityIsActive, h.displays]
      decide
  rcases hcreate with ⟨reservations, connectorIndex, hcreate⟩
  have hvalid : validateCreateTemporaryDisplayOwned
      { display := exampleRequest kMinOpaqueLeaseId 2, ownerCapability := exampleCapability } =
        .none := by
    decide
  have happly : createSecond.apply s = (DisplayStore.commitTemporaryDisplay
      { s with connectorReservationsByDisplayId := reservations }
      (validatedCreateTemporaryDisplay (exampleRequest kMinOpaqueLeaseId 2))
      (some exampleCapability) 0 connectorIndex true).1 := by
    rw [← hcreate, createSecond, StoreOp.apply, createTemporaryDisplayOwned, hvalid]
  have hcreated (ownerCapability : Option OwnerCapability) :
      DisplayStore.createdLease { s with connectorReservationsByDisplayId := reservations }
        (validatedCreateTemporaryDisplay (exampleRequest kMinOpaqueLeaseId 2)) ownerCapability 0 =
      exampleLease := by
    have hlease' : s.leasesById[(validatedCreateTemporaryDisplay
      (exampleRequest kMinOpaqueLeaseId 2)).request.leaseId]? = some exampleLease := hlease
    rw [createdLease, hlease']
    rfl
  rw [happly, commitTemporaryDisplay, hcreated]
  refine ⟨_, rfl, rfl, rfl, rfl, ?_, ?_, rfl, rfl, rfl, rfl⟩
  · rw [createdRecord, hcreated]
  · dsimp only
    rw [h.leases]
    exact ExtTreeMap.toList_inj.mp (by decide)

/-- Creating and removing the second display moves the counter on, and nothing else of note. -/
theorem round (h : HoldsFirst s) :
    HoldsFirst (removeSecond.apply (createSecond.apply s)) ∧
      (removeSecond.apply (createSecond.apply s)).nextTemporaryDisplayGeneration =
        s.nextTemporaryDisplayGeneration + 1 := by
  rcases h.create with
    ⟨record, hdisplays, hlease, -, -, -, hleases, hquarantine, hpermanent, htemporary, hnext⟩
  generalize createSecond.apply s = s' at *
  have hvalid : validateLeaseDisplayRequest { leaseId := kMinOpaqueLeaseId, displayId := 2 } =
      .none := by
    decide
  have hgone : s'.displaysById.erase 2 =
      (∅ : OrdMap UInt64 TemporaryDisplayRecord).insert 1 firstRecord := by
    rw [hdisplays, h.displays]
    refine ExtTreeMap.ext_getElem? fun d ↦ ?_
    rw [OrdMap.getElem?_erase, OrdMap.getElem?_insert, OrdMap.getElem?_insert]
    split_ifs with h2 h1
    · rw [← h2] at h1
      exact absurd h1 (by decide)
    · rw [← h2]
      simp
    · rfl
    · rfl
  have happly : removeSecond.apply s' = { s' with displaysById := s'.displaysById.erase 2 } := by
    have hany : (s'.displaysById[(2 : UInt64)]?).any (·.leaseId == kMinOpaqueLeaseId) = true := by
      rw [hdisplays, OrdMap.getElem?_insert, if_pos rfl, Option.any_some, hlease]
      exact beq_self_eq_true _
    have hstays : DisplayStore.leaseHasDisplays
        { s' with displaysById := s'.displaysById.erase 2 } kMinOpaqueLeaseId = true := by
      rw [leaseHasDisplays]
      dsimp only
      rw [hgone]
      decide
    rw [removeSecond, StoreOp.apply, removeTemporaryDisplay, hvalid]
    dsimp only
    rw [if_pos hany, eraseDisplay, removeLeaseIfEmpty, if_pos hstays]
  rw [happly]
  exact ⟨⟨hgone, hleases.trans h.leases, hquarantine.trans h.quarantine,
    hpermanent.trans h.permanent, htemporary.trans h.temporary⟩, hnext⟩

/-- The lease is there after the operation. -/
theorem reusesNoLease_of_stays {op : StoreOp} {ops : List StoreOp}
    (hstays : (s.leasesById.keys.filter fun L ↦ !(op.apply s).leasesById.contains L) = []) :
    reusesNoLease s [] (op :: ops) = reusesNoLease (op.apply s) [] ops := by
  rw [reusesNoLease, hstays]
  rfl

theorem reusesNoLease_create (h : HoldsFirst s) (ops : List StoreOp) :
    reusesNoLease s [] (createSecond :: ops) = reusesNoLease (createSecond.apply s) [] ops := by
  rcases h.create with ⟨record, -, -, -, -, -, hleases, -⟩
  refine reusesNoLease_of_stays ?_
  rw [hleases, h.leases]
  decide

theorem reusesNoLease_round (h : HoldsFirst s) (ops : List StoreOp) :
    reusesNoLease s [] (createSecond :: removeSecond :: ops) =
      reusesNoLease (removeSecond.apply (createSecond.apply s)) [] ops := by
  rcases h.create with ⟨record, -, -, -, -, -, hleases, -⟩
  rw [h.reusesNoLease_create]
  refine reusesNoLease_of_stays ?_
  rw [hleases, h.leases, h.round.1.leases]
  decide

end HoldsFirst

/-- The second display is created and removed so many times. -/
def rounds : Nat → List StoreOp
  | 0 => []
  | n + 1 => createSecond :: removeSecond :: rounds n

theorem HoldsFirst.rounds {s : DisplayStore} (h : HoldsFirst s) (n : Nat) (ops : List StoreOp) :
    HoldsFirst (s.execute (rounds n)) ∧
      (s.execute (VirtualDisplay.rounds n)).nextTemporaryDisplayGeneration =
        s.nextTemporaryDisplayGeneration + UInt64.ofNat n ∧
      reusesNoLease s [] (VirtualDisplay.rounds n ++ ops) =
        reusesNoLease (s.execute (VirtualDisplay.rounds n)) [] ops := by
  induction n generalizing s with
  | zero => exact ⟨h, (UInt64.add_zero _).symm, rfl⟩
  | succ n ih =>
    rcases h.round with ⟨hround, hnext⟩
    rcases ih hround with ⟨h', hnext', hreuses⟩
    refine ⟨h', ?_, (h.reusesNoLease_round _).trans hreuses⟩
    rw [VirtualDisplay.rounds, execute_cons, execute_cons, hnext', hnext, UInt64.add_assoc,
      UInt64.ofNat_add, UInt64.add_comm (UInt64.ofNat n)]
    rfl

namespace FrameTransport

variable {Resources : Type} {s : FrameTransport Resources}

theorem imported_append (events events' : List (FrameTransportEvent Resources)) :
    s.imported (events ++ events') = s.imported events ++ (s.execute events).imported events' := by
  induction events generalizing s with
  | nil => rfl
  | cons event events ih =>
    rw [imported, List.cons_append, collect, collect, List.append_assoc]
    exact congrArg _ ih

theorem execute_store (ops : List StoreOp) :
    s.execute (ops.map .store) = { s with store := s.store.execute ops } := by
  induction ops generalizing s with
  | nil => rfl
  | cons op ops ih => exact ih

theorem imported_store (ops : List StoreOp) : s.imported (ops.map .store) = [] := by
  induction ops generalizing s with
  | nil => rfl
  | cons op ops ih => exact ih

end FrameTransport

/-- The second display can get its ring whenever its generation is 2 and no entry is there. -/
theorem HoldsFirst.imports {s : DisplayStore} (h : HoldsFirst s)
    (hnext : s.nextTemporaryDisplayGeneration = 2) {server : FrameRingServer Unit}
    (hentries : server.entries = ∅) :
    server.imports (createSecond.apply s) examplePeer secondRingRequest 0 = true := by
  rcases h.create with
    ⟨record, hdisplays, hlease, hgeneration, hpending, hexpires, hleases, -⟩
  have hauthorizes : authorizes (createSecond.apply s) secondRingRequest 0 = true := by
    rw [authorizes, Option.any_eq_true]
    refine ⟨record, authorizeTemporaryDisplayOwner_eq_some.mpr
      ⟨by decide, ?_, hlease, hpending, ?_, exampleLease, ?_, by decide, rfl⟩, ?_⟩
    · rw [hdisplays]
      exact ExtTreeMap.getElem?_insert_self ..
    · rw [hexpires]
      decide
    · rw [hleases, h.leases]
      exact ExtTreeMap.getElem?_insert_self ..
    · rw [hgeneration, hnext]
      rfl
  have hreap : (server.reap (createSecond.apply s) 0).1 = server := by
    rw [reap, hentries]
    rfl
  rw [FrameRingServer.imports, hauthorizes, hreap, hentries, ExtTreeMap.getElem?_empty]
  decide

theorem imported_again {s : FrameTransport Unit}
    (himports : s.server.imports (createSecond.apply s.store) examplePeer secondRingRequest 0 =
      true) :
    s.imported [.store createSecond, registerSecond] = [secondRingRequest] := by
  have hagain : FrameTransport.imported? { s with store := createSecond.apply s.store }
      registerSecond = some secondRingRequest := if_pos himports
  change (FrameTransport.imported? { s with store := createSecond.apply s.store }
    registerSecond).toList ++ [] = _
  rw [hagain]
  rfl

theorem mem_rounds {n : Nat} {op : StoreOp} (hop : op ∈ rounds n) :
    op = createSecond ∨ op = removeSecond := by
  induction n with
  | zero => cases hop
  | succ n ih =>
    rcases List.mem_cons.mp hop with hop | hop
    · exact .inl hop
    · rcases List.mem_cons.mp hop with hop | hop
      · exact .inr hop
      · exact ih hop

/-- All that is asked of the store, the first display and the second over and over. -/
def onceRound (n : Nat) : List (FrameTransportEvent Unit) :=
  oneLifetime ++ ((rounds n).map .store ++ [.store createSecond, registerSecond])

theorem storeOps_onceRound (n : Nat) :
    (onceRound n).filterMap FrameTransportEvent.storeOp? =
      createFirst :: createSecond :: removeSecond :: (rounds n ++ [createSecond]) := by
  have hrounds : ((rounds n).map (@FrameTransportEvent.store Unit)).filterMap
      FrameTransportEvent.storeOp? = rounds n := by
    rw [List.filterMap_map]
    exact List.filterMap_some
  rw [onceRound, List.filterMap_append, List.filterMap_append, hrounds]
  rfl

/-- All the times are the same. -/
theorem times_onceRound (n : Nat) :
    ((onceRound n).filterMap FrameTransportEvent.time?).Pairwise (· ≤ ·) := by
  have htime : ∀ event ∈ onceRound n, ∀ now ∈ event.time?, now = 0 := by
    have hends : ∀ event ∈ oneLifetime ++ [.store createSecond, registerSecond],
        ∀ now ∈ event.time?, now = 0 := by
      decide
    intro event hevent
    rcases List.mem_append.mp hevent with hevent | hevent
    · exact hends event (List.mem_append_left _ hevent)
    · rcases List.mem_append.mp hevent with hevent | hevent
      · rcases List.mem_map.mp hevent with ⟨op, hop, rfl⟩
        rcases mem_rounds hop with rfl | rfl <;> decide
      · exact hends event (List.mem_append_right _ hevent)
  have htimes : ∀ now ∈ (onceRound n).filterMap FrameTransportEvent.time?, now = 0 := by
    intro now hnow
    rcases List.mem_filterMap.mp hnow with ⟨event, hevent, hnow⟩
    exact htime event hevent now hnow
  refine List.pairwise_of_forall_mem_list fun now hnow now' hnow' ↦ ?_
  rw [htimes now hnow, htimes now' hnow']

/-- The counter of the generations runs through once, the second display gets its first generation
back, and its old request is imported once more. -/
theorem importedTwice :
    ¬∀ events : List (FrameTransportEvent Unit),
      (events.filterMap FrameTransportEvent.time?).Pairwise (· ≤ ·) →
      reusesNoLease (.new 0 4) [] (events.filterMap FrameTransportEvent.storeOp?) = true →
      (FrameTransport.imported { store := .new 0 4 } events).Pairwise fun r r' ↦
        FrameTransport.SameLifetime r r' → r.clientCookie ≠ r'.clientCookie := by
  intro h
  obtain ⟨n, hn⟩ : ∃ n : Nat, (3 : UInt64) + UInt64.ofNat n = 2 := ⟨2 ^ 64 - 1, by decide⟩
  have hnext : (FrameTransport.execute { store := .new 0 4 }
      oneLifetime).store.nextTemporaryDisplayGeneration = 3 := by
    decide
  have hentries : (FrameTransport.execute { store := .new 0 4 } oneLifetime).server.entries = ∅ :=
    ExtTreeMap.toList_inj.mp (by decide)
  have hfirst : FrameTransport.imported { store := .new 0 4 } oneLifetime =
      [secondRingRequest] := by
    decide
  rcases holdsFirst_oneLifetime.rounds n [createSecond] with ⟨hrounds, hnext', hreuses⟩
  have himports := hrounds.imports (hnext'.trans (by rw [hnext, hn])) hentries
  have hleases : reusesNoLease (.new 0 4) []
      ((onceRound n).filterMap FrameTransportEvent.storeOp?) = true := by
    rw [storeOps_onceRound, HoldsFirst.reusesNoLease_of_stays (by decide),
      HoldsFirst.reusesNoLease_of_stays (by decide),
      HoldsFirst.reusesNoLease_of_stays (by decide)]
    exact hreuses.trans (hrounds.reusesNoLease_create [])
  have hpairwise := h (onceRound n) (times_onceRound n) hleases
  rw [onceRound, FrameTransport.imported_append, FrameTransport.imported_append, hfirst,
    FrameTransport.imported_store, FrameTransport.execute_store] at hpairwise
  generalize FrameTransport.execute { store := .new 0 4 } oneLifetime = s at *
  have hagain := imported_again (s := { s with store := s.store.execute (rounds n) }) himports
  rw [hagain] at hpairwise
  exact List.rel_of_pairwise_cons hpairwise (List.mem_singleton_self _) ⟨rfl, rfl, rfl⟩ rfl

end VirtualDisplay
