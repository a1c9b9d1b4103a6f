import VirtualDisplay.Controller.Contract
import VirtualDisplay.Controller.Records
import VirtualDisplay.LeaseStore.Connectors

/-!
# Which departure condemned a record

A record is condemned when the backend has refused to depart its monitor; the reaper then departs
the monitor again and drops the record.  Four calls condemn records, each after the lock was given
up, and by then another record may be stored under the display id.  `pending_justified` says that
the refused departure was that of the record that is condemned, whatever the backend does.

The healing create is the odd one out.  It departs its display with no expected generation, and is
right to condemn the record it finds afterwards because that one is condemned already.  For this
its snapshot must still tell records apart, and so no record may be created with a generation that
is still in a snapshot.  `rewound` is a run in which the counter goes all the way round.
-/

set_option autoImplicit false

namespace VirtualDisplay

open Std SlotCalls DisplayStore Controller

section Snapshots

variable {ρ Outcome : Type} {D : Device ρ Frame Outcome BackendDisplayResult}
  {s s' : System DisplayStore ρ ControllerOp Frame BackendDisplayResult}
  {e : Event ControllerOp Outcome}

/-! ## Snapshots and generations -/

/-- The generation the next record would get is that of a snapshot some call still holds. -/
def generationInSnapshot (s : System DisplayStore ρ ControllerOp Frame BackendDisplayResult) :
    Bool :=
  OrdMap.anyEntry s.calls fun _ call ↦ call.frame.records.any fun record ↦
    record.generation == s.locked.nextTemporaryDisplayGeneration

/-- No generation is given out again while a snapshot has it. -/
def keepsSnapshots (s : System DisplayStore ρ ControllerOp Frame BackendDisplayResult)
    (_ : Event ControllerOp Outcome) : Bool := !generationInSnapshot s

theorem ne_of_snapshot (hok : keepsSnapshots s e = true) {id : Nat}
    {call : Call ControllerOp Frame BackendDisplayResult} (hcall : s.calls[id]? = some call)
    {record : TemporaryDisplayRecord} (hrecord : record ∈ call.frame.records) :
    record.generation ≠ s.locked.nextTemporaryDisplayGeneration := by
  rw [keepsSnapshots, generationInSnapshot, Bool.not_eq_true', OrdMap.anyEntry_eq_false] at hok
  have h := List.any_eq_false.mp (hok id call hcall) record hrecord
  exact fun heq ↦ h (beq_iff_eq.mpr heq)

/-- A record with the generation of a snapshot is the record the snapshot was taken of. -/
structure Snapshots (s : System DisplayStore ρ ControllerOp Frame BackendDisplayResult) : Prop
    extends Sound s where
  evolved : ∀ (id : Nat) (call : Call ControllerOp Frame BackendDisplayResult)
    (record r : TemporaryDisplayRecord), s.calls[id]? = some call → record ∈ call.frame.records →
      s.locked.displaysById[record.displayId]? = some r → r.generation = record.generation →
        record.Evolves r

theorem Snapshots.advance (h : Snapshots s) (hok : keepsSnapshots s e = true) {id : Nat}
    {op : ControllerOp} {turn : Turn}
    (hrecord : ∀ (d : UInt64) (r' : TemporaryDisplayRecord), turn.1.displaysById[d]? = some r' →
      (∃ r, s.locked.displaysById[d]? = some r ∧ r.Evolves r') ∨
        r'.generation = s.locked.nextTemporaryDisplayGeneration)
    (hyield : ∀ (frame : Frame) (record : TemporaryDisplayRecord), turn.2 = .yield frame →
      record ∈ frame.records →
        (∃ call, s.calls[id]? = some call ∧ record ∈ call.frame.records) ∨
          turn.1.displaysById[record.displayId]? = some record)
    (hsound : Sound (s.advance id op turn)) : Snapshots (s.advance id op turn) where
  toSound := hsound
  evolved i call record r' hi hmem hr' hgeneration := by
    have hold {j : Nat} {call : Call ControllerOp Frame BackendDisplayResult}
        (hj : s.calls[j]? = some call) (hmem : record ∈ call.frame.records) :
        record.Evolves r' := by
      rcases hrecord _ r' hr' with ⟨r, hr, hevolves⟩ | hnew
      · exact (h.evolved j call record r hj hmem hr (hevolves.generation.symm.trans
          hgeneration)).trans hevolves
      · exact absurd (hgeneration.symm.trans hnew) (ne_of_snapshot hok hj hmem)
    rcases of_getElem?_advance hi with ⟨rfl, frame, hnext, rfl⟩ | ⟨-, hi⟩
    · rcases hyield frame record hnext hmem with ⟨call, hcall, hmem⟩ | hstored
      · exact hold hcall hmem
      · cases hstored.symm.trans hr'
        exact .refl _
    · exact hold hi hmem

theorem start_evolves (s : DisplayStore) (op : ControllerOp) {d : UInt64}
    {r' : TemporaryDisplayRecord} (hr' : (start s op).1.displaysById[d]? = some r') :
    (∃ r, s.displaysById[d]? = some r ∧ r.Evolves r') ∨
      r'.generation = s.nextTemporaryDisplayGeneration := by
  rcases (start_effect s op).record hr' with ⟨r, hr, hevolves, -⟩ | ⟨hnew, -⟩
  · exact .inl ⟨r, hr, hevolves⟩
  · exact .inr hnew

theorem resume_evolves (s : DisplayStore) (frame : Frame) (reply : BackendDisplayResult)
    {d : UInt64} {r' : TemporaryDisplayRecord}
    (hr' : (resume s frame reply).1.displaysById[d]? = some r') :
    (∃ r, s.displaysById[d]? = some r ∧ r.Evolves r') ∨
      r'.generation = s.nextTemporaryDisplayGeneration := by
  by_cases hframe : IsReclaim frame
  · rcases hframe with ⟨request, now, rfl⟩
    rcases (resume_reclaim s request now reply).2 with ⟨-, hstore⟩ | hstore
    · rw [hstore] at hr'
      rcases reclaim_record hr' with ⟨r, hr, hevolves, -⟩
      exact .inl ⟨r, hr, hevolves⟩
    · rw [hstore] at hr'
      exact .inl ⟨r', hr', .refl r'⟩
  · rcases (resume_effect s hframe reply).record hr' with ⟨r, hr, hevolves, -⟩ | ⟨hnew, -⟩
    · exact .inl ⟨r, hr, hevolves⟩
    · exact .inr hnew

theorem Snapshots.move (h : Snapshots s) (hok : keepsSnapshots s e = true)
    (hmove : Move controller D s e s') : Snapshots s' := by
  have hsound := h.toSound.move hmove
  have hphase {id : Nat} {op : ControllerOp} {frame : Frame} {phase : Phase BackendDisplayResult}
      (hcall : s.calls[id]? = some { op, frame }) (i : Nat)
      (call : Call ControllerOp Frame BackendDisplayResult) (record r : TemporaryDisplayRecord)
      (hi : (s.calls.insert id { op, frame, phase })[i]? = some call)
      (hmem : record ∈ call.frame.records)
      (hr : s.locked.displaysById[record.displayId]? = some r)
      (hgeneration : r.generation = record.generation) : record.Evolves r := by
    rw [OrdMap.getElem?_insert] at hi
    split_ifs at hi
    · cases hi
      exact h.evolved id _ record r hcall hmem hr hgeneration
    · exact h.evolved i call record r hi hmem hr hgeneration
  cases hmove with
  | @started id op hfresh =>
    refine h.advance hok (fun d r' ↦ start_evolves s.locked op) (fun frame record hyield hmem ↦ ?_)
      hsound
    exact .inr ((start_next hyield).records h.keyed hmem)
  | served hcall => exact ⟨hsound, hphase hcall⟩
  | timedOut hcall => exact ⟨hsound, hphase hcall⟩
  | @relocked id op frame phase reply hcall hready =>
    refine h.advance hok (fun d r' ↦ resume_evolves s.locked frame reply)
      (fun next record hyield hmem ↦ ?_) hsound
    rcases (resume_next hyield).records h.keyed hmem with hmem | hstored
    · exact .inl ⟨_, hcall, hmem⟩
    · exact .inr hstored

theorem snapshots_initial {store : DisplayStore} {device : ρ} (h : store.displaysById = ∅) :
    Snapshots { locked := store, device } where
  toSound := sound_initial h
  evolved id call record r hcall := by simp at hcall

/-! ## The departure behind a pending mark -/

/-- The event ends a departure of the record's monitor that the backend has just refused.  The
departure expected the generation of the record, and the call that issued it had read this same
record under the lease it is under now. -/
structure RefusedDeparture (s : System DisplayStore ρ ControllerOp Frame BackendDisplayResult)
    (e : Event ControllerOp Outcome) (r : TemporaryDisplayRecord)
    (call : Call ControllerOp Frame BackendDisplayResult) (reply : BackendDisplayResult)
    (snapshot : TemporaryDisplayRecord) : Prop where
  relocks : e = .relock e.id
  underway : s.calls[e.id]? = some call
  answered : call.phase = .served reply
  refused : reply.error = .failed
  fenced : call.frame.backendCall = .departTemporaryDisplay r.displayId r.generation
  departs : call.frame.departing = some snapshot
  same : snapshot.SameRecord r
  evolved : snapshot.Evolves r

/-- A create that heals a display has condemned nothing but what was condemned before. -/
theorem Snapshots.heal_pending (h : Snapshots s) {id : Nat}
    {call : Call ControllerOp Frame BackendDisplayResult} (hcall : s.calls[id]? = some call)
    {create : CreateCall} {record r : TemporaryDisplayRecord}
    (hframe : call.frame = .createHeal create record)
    (hr : s.locked.displaysById[r.displayId]? = some r) (hsame : record.SameRecord r) :
    r.pendingDeparture = true := by
  have hmem : record ∈ call.frame.records := by
    rw [hframe]
    exact List.mem_singleton.mpr rfl
  have hpending : record.pendingDeparture = true := by
    have hwf := h.frames id call hcall
    rw [hframe] at hwf
    exact hwf.2
  exact (h.evolved id call record r hcall hmem (hsame.display ▸ hr)
    hsame.generation.symm).pending hpending

theorem Snapshots.refused (h : Snapshots s) (hmove : Move controller D s e s') {d : UInt64}
    {r r' : TemporaryDisplayRecord} (hr : s.locked.displaysById[d]? = some r)
    (hlive : r.pendingDeparture = false) (hr' : s'.locked.displaysById[d]? = some r')
    (hpending : r'.pendingDeparture = true) :
    ∃ call reply snapshot, RefusedDeparture s e r call reply snapshot := by
  have hsame {r' : TemporaryDisplayRecord} (hevolves : r'.pendingDeparture = r.pendingDeparture)
      (hpending : r'.pendingDeparture = true) : False := by
    rw [hevolves, hlive] at hpending
    cases hpending
  cases hmove with
  | @started id op =>
    rcases start_record hr op with hkept | ⟨request, now, -, -, hfed⟩
    · cases hkept.symm.trans hr'
      exact (hsame rfl hpending).elim
    · cases hfed.symm.trans hr'
      refine (hsame ?_ hpending).elim
      rw [feedRecord]
      split_ifs <;> rfl
  | served | timedOut =>
    cases hr.symm.trans hr'
    exact (hsame rfl hpending).elim
  | @relocked id op frame phase reply hcall hready =>
    have hframe := h.frames id _ hcall
    have hd := (h.keyed d r hr).1
    have hheals {create : CreateCall} {record : TemporaryDisplayRecord}
        (hheal : frame = .createHeal create record) (hrecord : record.SameRecord r) : False := by
      rw [h.heal_pending hcall hheal (hd.symm ▸ hr) hrecord] at hlive
      cases hlive
    have hfate := resume_record h.keyed hframe hr reply
    have hafter : (resume s.locked frame reply).1.displaysById[d]? = some r' := hr'
    rw [hafter] at hfate
    generalize hsome : some r' = after at hfate
    cases hfate with
    | kept =>
      cases hsome
      exact (hsame rfl hpending).elim
    | retired _ hrecord hgone =>
      rcases hgone with rfl | ⟨create, hheal⟩
      · cases hsome
      · exact (hheals hheal hrecord).elim
    | abandoned hheal _ hrecord => exact (hheals hheal hrecord).elim
    | @condemned record hcondemns hrecord =>
      have hfailed : reply.error = .failed := by
        cases herror : reply.error with
        | failed => rfl
        | _ =>
          rw [herror] at hcondemns
          cases frame <;> cases hcondemns
      have hdeparting : frame.departing = some record := by
        rw [hfailed] at hcondemns
        cases frame with
        | createHeal create =>
          cases hcondemns
          exact (hheals rfl hrecord).elim
        | removeDepart | releaseDepart | reapDepart => exact hcondemns
        | _ => cases hcondemns
      have hmem := condemned?_mem hcondemns
      have hserved := served_of_ready hready fun hbusy ↦ by cases hfailed.symm.trans hbusy
      refine ⟨_, reply, record, rfl, hcall, hserved, hfailed, ?_, hdeparting, hrecord, ?_⟩
      · rw [← hrecord.display, ← hrecord.generation]
        exact Frame.departing_backendCall hframe hdeparting
      · exact h.evolved id _ record r hcall hmem (hrecord.display.trans hd ▸ hr)
          hrecord.generation.symm
    | rotated =>
      cases hsome
      refine (hsame ?_ hpending).elim
      rw [rotateRecord]
      split_ifs <;> rfl

/-- **Pending marks are justified.**  Whatever the backend does, in every run in which no generation
is given out again while a snapshot has it, a record is condemned only at the end of a departure of
its own monitor that the backend has refused, by a call whose snapshot is of that record. -/
theorem pending_justified {maxPermanentDisplays maxTemporaryDisplays : UInt32}
    {reservations : OrdMap UInt64 UInt32} {initialManifest : Option DisplayManifest} {device : ρ}
    {d : UInt64} {r r' : TemporaryDisplayRecord}
    (hrun : Steps controller D keepsSnapshots
      { locked := .new maxPermanentDisplays maxTemporaryDisplays reservations initialManifest
        device } s)
    (hstep : step controller D s e = some s') (hr : s.locked.displaysById[d]? = some r)
    (hlive : r.pendingDeparture = false) (hr' : s'.locked.displaysById[d]? = some r')
    (hpending : r'.pendingDeparture = true) :
    ∃ call reply snapshot, RefusedDeparture s e r call reply snapshot := by
  have h : Snapshots s := hrun.invariant (fun _ _ _ h hok hmove ↦ h.move hok hmove)
    (snapshots_initial (new_fresh ..).1)
  exact h.refused (move_of_step hstep) hr hlive hr' hpending

end Snapshots

/-- A departure that is refused, and the event at which its record is condemned. -/
theorem pending_justified_removal :
    ∃ (s s' : ControllerSystem) (r r' : TemporaryDisplayRecord),
      s.locked.displaysById[(1 : UInt64)]? = some r ∧ r.pendingDeparture = false ∧
        s'.locked.displaysById[(1 : UInt64)]? = some r' ∧ r'.pendingDeparture = true ∧
          ∃ call reply snapshot, RefusedDeparture s (.relock 1 : ControllerEvent) r call reply
            snapshot := by
  have hexecuted : (execute controller contract keepsSnapshots (initially 0 4)
      (exampleArrival 0 kMinOpaqueLeaseId 1 ++
        [.start 1 (.removeTemporaryDisplay { leaseId := kMinOpaqueLeaseId, displayId := 1 }),
          .serve 1 (.failed false)])).any (fun s ↦
        (s.locked.displaysById[(1 : UInt64)]?).any (!·.pendingDeparture) &&
          (step controller contract s (.relock 1)).any fun s' ↦
            (s'.locked.displaysById[(1 : UInt64)]?).any (·.pendingDeparture)) = true := by
    decide
  rcases (Option.any_eq_true _ _).mp hexecuted with ⟨s, hs, hfinal⟩
  rw [Bool.and_eq_true, Option.any_eq_true, Option.any_eq_true] at hfinal
  rcases hfinal with ⟨⟨r, hr, hlive⟩, s', hstep, hafter⟩
  rcases (Option.any_eq_true _ _).mp hafter with ⟨r', hr', hpending⟩
  rw [Bool.not_eq_true'] at hlive
  exact ⟨s, s', r, r', hr, hlive, hr', hpending,
    pending_justified (steps_of_execute hs) hstep hr hlive hr' hpending⟩

/-! ## Once round the counter -/

/-- A store without displays, in which the example create will find a connector. -/
structure Blank (s : DisplayStore) : Prop where
  displays : s.displaysById = ∅
  lease : s.leasesById[kMinOpaqueLeaseId]? = none
  quarantine : s.quarantinedConnectors = ∅
  permanent : s.maxPermanentDisplays = 0
  temporary : s.maxTemporaryDisplays = 4

/-- A create of display 1. -/
def exampleCreate : ControllerOp :=
  .createTemporaryDisplay (exampleRequest kMinOpaqueLeaseId 1) 0

theorem Blank.create {s : DisplayStore} (h : Blank s) :
    ∃ reservations connectorIndex,
      s.createTemporaryDisplayImpl (exampleRequest kMinOpaqueLeaseId 1) none 0 =
        DisplayStore.commitTemporaryDisplay
          { s with connectorReservationsByDisplayId := reservations }
          (validatedCreateTemporaryDisplay (exampleRequest kMinOpaqueLeaseId 1)) none 0
          connectorIndex true := by
  have hnone (d : UInt64) : s.displaysById[d]? = none := by
    rw [h.displays]
    simp
  have hlease : s.leasesById[(exampleRequest kMinOpaqueLeaseId 1).leaseId]? = none := h.lease
  refine createTemporaryDisplayImpl_ok (c := 0) ⟨by decide, hnone _, ?_, ?_⟩ ?_ ?_ ?_ ?_
  · rw [leaseRefusesDisplays, hlease, Option.any_none]
  · rw [hlease]
    rfl
  · rw [h.displays, h.temporary, ExtTreeMap.size_empty]
    decide
  · rw [isTemporaryConnectorIndex, temporaryConnectorLimit, h.permanent, h.temporary]
    decide
  · rw [connectorIsUsable, connectorIndexIsActive, h.displays, h.quarantine]
    decide
  · rw [edidIdentityIsActive, h.displays]
    decide

/-- The example create writes its record and waits. -/
theorem Blank.start {s : DisplayStore} (h : Blank s) :
    ∃ s' created record,
      Controller.start s exampleCreate = (s', .yield (.createReserve created record)) ∧
        RecordCreated s s' record ∧ record.leaseId = kMinOpaqueLeaseId ∧ record.displayId = 1 ∧
        s'.quarantinedConnectors = s.quarantinedConnectors ∧
        s'.maxPermanentDisplays = s.maxPermanentDisplays ∧
        s'.maxTemporaryDisplays = s.maxTemporaryDisplays := by
  rcases h.create with ⟨reservations, connectorIndex, hcreate⟩
  have hvalid : validateCreateTemporaryDisplay (exampleRequest kMinOpaqueLeaseId 1) = .none := by
    decide
  have hfresh : s.findTemporaryDisplay (exampleRequest kMinOpaqueLeaseId 1).displayId = none := by
    rw [findTemporaryDisplay, h.displays]
    simp
  have hreaches := s.createTemporaryDisplayImpl_reaches (exampleRequest kMinOpaqueLeaseId 1) none 0
  rw [hcreate] at hreaches
  refine ⟨_, (DisplayStore.commitTemporaryDisplay
      { s with connectorReservationsByDisplayId := reservations }
      (validatedCreateTemporaryDisplay (exampleRequest kMinOpaqueLeaseId 1)) none 0 connectorIndex
      true).2.result, DisplayStore.createdRecord
      { s with connectorReservationsByDisplayId := reservations }
      (validatedCreateTemporaryDisplay (exampleRequest kMinOpaqueLeaseId 1)) 0 connectorIndex true,
    ?_, ⟨hfresh, rfl, rfl, rfl, rfl, hreaches⟩, rfl, rfl, rfl, rfl, rfl⟩
  rw [exampleCreate, Controller.start, Controller.createTemporaryDisplayImpl, hvalid]
  dsimp only
  rw [hfresh]
  dsimp only
  rw [createRecord]
  dsimp only
  rw [createTemporaryDisplay, hcreate, findTemporaryDisplay, commitTemporaryDisplay]
  dsimp only
  rw [OrdMap.getElem?_insert, if_pos rfl]
  rfl

/-- What is left when the reservation of the identity could not be had. -/
theorem Blank.rollback {s s' : DisplayStore} {record : TemporaryDisplayRecord} (h : Blank s)
    (hwritten : RecordCreated s s' record) (hlease : record.leaseId = kMinOpaqueLeaseId)
    (hd : record.displayId = 1) (hquarantine : s'.quarantinedConnectors = s.quarantinedConnectors)
    (hpermanent : s'.maxPermanentDisplays = s.maxPermanentDisplays)
    (htemporary : s'.maxTemporaryDisplays = s.maxTemporaryDisplays) :
    Blank (s'.removeIfCurrent record .releaseConnectorReservation) := by
  have hrecord : s'.displaysById[record.displayId]? = some record := by
    rw [hwritten.inserted, OrdMap.getElem?_insert, if_pos rfl]
  have hcurrent : s'.temporaryDisplayGenerationIsCurrent record = true :=
    temporaryDisplayGenerationIsCurrent_iff.mpr ⟨record, hrecord, rfl, rfl⟩
  have hvalid : validateLeaseDisplayRequest (requestFor record) = .none := by
    rw [requestFor, hlease, hd]
    decide
  have hany : (s'.displaysById[(requestFor record).displayId]?).any
      (·.leaseId == (requestFor record).leaseId) = true := by
    rw [requestFor, hrecord, Option.any_some, beq_self_eq_true]
  have hgone : s'.displaysById.erase record.displayId = ∅ := by
    refine ExtTreeMap.ext_getElem? fun d ↦ ?_
    rw [OrdMap.getElem?_erase, hwritten.inserted, OrdMap.getElem?_insert, h.displays]
    split_ifs <;> simp
  have hempty : DisplayStore.leaseHasDisplays
      { s' with
        connectorReservationsByDisplayId :=
          s'.connectorReservationsByDisplayId.erase record.displayId
        displaysById := s'.displaysById.erase record.displayId } record.leaseId = false := by
    rw [leaseHasDisplays, hgone, OrdMap.anyEntry_eq_false]
    simp
  have hafter : s'.removeIfCurrent record .releaseConnectorReservation =
      { s' with
        connectorReservationsByDisplayId :=
          s'.connectorReservationsByDisplayId.erase record.displayId
        displaysById := s'.displaysById.erase record.displayId
        leasesById := s'.leasesById.erase record.leaseId } := by
    rw [removeIfCurrent, if_pos hcurrent, DisplayStore.removeTemporaryDisplay, hvalid]
    dsimp only
    rw [if_pos hany]
    dsimp only
    rw [eraseDisplay, removeLeaseIfEmpty]
    dsimp only [requestFor]
    exact if_neg ((Bool.not_eq_true _).mpr hempty)
  rw [hafter]
  refine ⟨hgone, ?_, hquarantine.trans h.quarantine, hpermanent.trans h.permanent,
    htemporary.trans h.temporary⟩
  rw [OrdMap.getElem?_erase, if_pos hlease]

/-- Runs without a condition. -/
abbrev AnySteps : ControllerSystem → ControllerSystem → Prop :=
  Steps controller contract fun _ _ ↦ true

/-- One create that is not given the slot uses up one generation. -/
theorem Blank.round {s : ControllerSystem} (h : Blank s.locked) {id : Nat}
    (hfree : s.calls[id]? = none) :
    ∃ locked, AnySteps s { s with locked } ∧ Blank locked ∧
      locked.nextTemporaryDisplayGeneration = s.locked.nextTemporaryDisplayGeneration + 1 := by
  rcases h.start with
    ⟨s', created, record, hstart, hwritten, hlease, hd, hquarantine, hpermanent, htemporary⟩
  have hkeeps := s'.removeIfCurrent_keeps record .releaseConnectorReservation
  refine ⟨_, ?_, h.rollback hwritten hlease hd hquarantine hpermanent htemporary,
    hkeeps.nextGeneration.trans hwritten.next⟩
  have hstarted : Move controller contract s (.start id exampleCreate)
      { s with
        locked := s'
        calls := s.calls.insert id
          { op := exampleCreate, frame := .createReserve created record } } := by
    have hmove : Move controller contract s (.start id exampleCreate) _ := .started hfree
    rwa [show controller.start s.locked exampleCreate = _ from hstart] at hmove
  have hcall (phase : Phase BackendDisplayResult) : (s.calls.insert id
      { op := exampleCreate, frame := .createReserve created record, phase })[id]? =
        some { op := exampleCreate, frame := .createReserve created record, phase } := by
    rw [OrdMap.getElem?_insert, if_pos rfl]
  refine .head ⟨_, rfl, step_of_move hstarted⟩
    (.head ⟨_, rfl, step_of_move (Move.timedOut (hcall .waiting))⟩ (.single ⟨.relock id, rfl, ?_⟩))
  have hcalls : ((s.calls.insert id
      { op := exampleCreate, frame := .createReserve created record }).insert id
        { op := exampleCreate, frame := .createReserve created record, phase := .timedOut }).erase
          id = s.calls := by
    refine ExtTreeMap.ext_getElem? fun i ↦ ?_
    rw [OrdMap.getElem?_erase, OrdMap.getElem?_insert, OrdMap.getElem?_insert]
    split_ifs with hid
    · rw [← hid, hfree]
    · rfl
  rw [step]
  dsimp only
  rw [OrdMap.getElem?_insert, if_pos rfl]
  dsimp only
  rw [Phase.reply?, Option.map_some, Option.some_inj]
  exact congrArg (System.mk _ s.device) hcalls

/-- So the counter can be brought to any value. -/
theorem Blank.rounds {s : ControllerSystem} (h : Blank s.locked) {id : Nat}
    (hfree : s.calls[id]? = none) (n : Nat) :
    ∃ locked, AnySteps s { s with locked } ∧ Blank locked ∧
      locked.nextTemporaryDisplayGeneration =
        s.locked.nextTemporaryDisplayGeneration + UInt64.ofNat n := by
  induction n with
  | zero => exact ⟨s.locked, .refl, h, (UInt64.add_zero _).symm⟩
  | succ n ih =>
    rcases ih with ⟨locked, hrun, hblank, hnext⟩
    rcases Blank.round (s := { s with locked }) hblank hfree with
      ⟨locked', hround, hblank', hnext'⟩
    refine ⟨locked', hrun.trans hround, hblank', ?_⟩
    rw [hnext', hnext, UInt64.ofNat_add, ← UInt64.add_assoc]
    rfl

/-- A refused healing departure condemns whatever record its snapshot passes for. -/
theorem heal_condemns {s : ControllerSystem} (hsound : Sound s) {id : Nat} {op : ControllerOp}
    {create : CreateCall} {pendingRecord r : TemporaryDisplayRecord}
    (hcall : s.calls[id]? = some { op, frame := .createHeal create pendingRecord })
    (howner : create.ownerCapability = none) (hslot : s.slotHeld = false)
    (hr : s.locked.displaysById[pendingRecord.displayId]? = some r)
    (hsame : pendingRecord.SameRecord r) :
    ∃ s₁ s₂, AnySteps s s₁ ∧ step controller contract s₁ (.relock id) = some s₂ ∧
      s₁.locked = s.locked ∧
      (s₁.calls[id]?).map Call.frame = some (.createHeal create pendingRecord) ∧
      s₂.locked.displaysById[pendingRecord.displayId]? =
        some { r with pendingDeparture := true } := by
  have hcurrent : s.locked.temporaryDisplayGenerationIsCurrent pendingRecord = true :=
    temporaryDisplayGenerationIsCurrent_iff.mpr ⟨r, hr, hsame.lease.symm, hsame.generation.symm⟩
  have hmarked : (resume s.locked (.createHeal create pendingRecord)
      (BackendOutcome.failed false).reply).1 = s.locked.markIfCurrent pendingRecord := by
    have hhealed : resume s.locked (.createHeal create pendingRecord)
        (BackendOutcome.failed false).reply =
          if s.locked.temporaryDisplayGenerationIsCurrent pendingRecord then
            if (s.locked.abandonOrMark pendingRecord create.ownerCapability).2 then
              createRecord (s.locked.abandonOrMark pendingRecord create.ownerCapability).1 create
            else
              createFailed (s.locked.abandonOrMark pendingRecord create.ownerCapability).1
                { backendError := .failed }
          else createFailed s.locked { backendError := .failed } := rfl
    rw [hhealed, if_pos hcurrent, howner, markIfCurrent, if_pos hcurrent]
    rfl
  have hserved : Move controller contract s (.serve id (.failed false)) _ :=
    .served hcall hslot rfl
  have hanswered : (s.calls.insert id ⟨op, .createHeal create pendingRecord,
      .served (BackendOutcome.failed false).reply⟩)[id]? =
        some ⟨op, .createHeal create pendingRecord,
          .served (BackendOutcome.failed false).reply⟩ := by
    rw [OrdMap.getElem?_insert, if_pos rfl]
  refine ⟨_, _, .single ⟨_, rfl, step_of_move hserved⟩,
    step_of_move (.relocked hanswered rfl), rfl, congrArg (Option.map _) hanswered, ?_⟩
  rw [System.advance]
  refine Eq.trans (congrArg (fun store : DisplayStore ↦ store.displaysById[_]?) hmarked) ?_
  rw [getElem?_markIfCurrent hsound.keyed, if_pos ⟨hcurrent, rfl⟩, hr]
  rfl

/-- A display whose departure was refused is being healed when the reaper departs it. -/
def reapedDuringHeal : List ControllerEvent :=
  exampleArrival 0 kMinOpaqueLeaseId 1 ++
    [.start 1 (.removeTemporaryDisplay { leaseId := kMinOpaqueLeaseId, displayId := 1 }),
      .serve 1 (.failed false), .relock 1, .start 2 exampleCreate, .start 3 (.reapExpired 0),
      .serve 3 .succeeded, .relock 3]

/-- A create is about to heal a display under the first generation. -/
def healsFirst (s : ControllerSystem) : Bool :=
  match s.calls[(2 : Nat)]? with
  | some ⟨_, .createHeal create record, .waiting⟩ =>
    create.ownerCapability == none && record.displayId == 1 &&
      record.leaseId == kMinOpaqueLeaseId && record.generation == 1
  | _ => false

/-- Without the condition on the generations a healing create condemns a record it knows nothing
of: its snapshot is of the first record of the display, and the counter has gone all the way
round. -/
theorem rewound :
    ¬∀ (s s' : ControllerSystem) (e : ControllerEvent) (d : UInt64)
        (r r' : TemporaryDisplayRecord), AnySteps (initially 0 4) s →
      step controller contract s e = some s' → s.locked.displaysById[d]? = some r →
        r.pendingDeparture = false → s'.locked.displaysById[d]? = some r' →
          r'.pendingDeparture = true →
            ∃ call reply snapshot, RefusedDeparture s e r call reply snapshot := by
  intro h
  have hexecuted : (execute controller contract (fun _ _ ↦ true) (initially 0 4)
      reapedDuringHeal).any (fun s ↦ healsFirst s && !s.slotHeld && !s.calls.contains 3 &&
        s.locked.displaysById.isEmpty && s.locked.leasesById.isEmpty &&
        s.locked.quarantinedConnectors.isEmpty && s.locked.maxPermanentDisplays == 0 &&
        s.locked.maxTemporaryDisplays == 4 &&
        s.locked.nextTemporaryDisplayGeneration == 2) = true := by
    decide
  rcases (Option.any_eq_true _ _).mp hexecuted with ⟨s, hs, hfinal⟩
  simp only [Bool.and_eq_true, beq_iff_eq, Bool.not_eq_true', ExtTreeMap.isEmpty_iff] at hfinal
  rcases hfinal with
    ⟨⟨⟨⟨⟨⟨⟨⟨hheals, hslot⟩, hfree⟩, hdisplays⟩, hleases⟩, hquarantine⟩, hpermanent⟩,
    htemporary⟩, hnext⟩
  have hblank : Blank s.locked := by
    refine ⟨hdisplays, ?_, hquarantine, hpermanent, htemporary⟩
    rw [hleases]
    simp
  -- Once round the counter, and the first generation is given out again.
  have hfree := ExtTreeMap.getElem?_eq_none_of_contains_eq_false hfree
  rcases hblank.rounds hfree (2 ^ 64 - 1) with ⟨locked, hround, hblank', hnext'⟩
  rcases hblank'.start with ⟨s', created, record, hstart, hwritten, hlease, hd, -⟩
  have hgeneration : record.generation = 1 := by
    rw [hwritten.generation, hnext', hnext]
    decide
  have hrun : AnySteps (initially 0 4)
      { s with
        locked := s'
        calls := s.calls.insert 3
          { op := exampleCreate, frame := .createReserve created record } } := by
    refine ((steps_of_execute hs).trans hround).trans
      (.single ⟨.start 3 exampleCreate, rfl, step_of_move ?_⟩)
    have hmove : Move controller contract { s with locked } (.start 3 exampleCreate) _ :=
      .started hfree
    rwa [show controller.start locked exampleCreate = _ from hstart] at hmove
  have hsound := hrun.invariant (I := Sound) (fun _ _ _ h _ hmove ↦ h.move hmove)
    (sound_initial rfl)
  have hslot' : System.slotHeld
      { s with
        locked := s'
        calls := s.calls.insert 3
          { op := exampleCreate, frame := .createReserve created record } } = false := by
    rw [slotHeld_eq_false] at hslot ⊢
    intro i call hi
    rw [OrdMap.getElem?_insert] at hi
    split_ifs at hi
    · cases hi
      rfl
    · exact hslot i call hi
  rw [healsFirst] at hheals
  split at hheals
  · rename_i op create pendingRecord hcall
    simp only [Bool.and_eq_true, beq_iff_eq] at hheals
    rcases hheals with ⟨⟨⟨howner, hd'⟩, hlease'⟩, hgeneration'⟩
    have hrecord : s'.displaysById[pendingRecord.displayId]? = some record := by
      rw [hwritten.inserted, OrdMap.getElem?_insert, if_pos (hd.trans hd'.symm)]
    have hcall' : (s.calls.insert 3
        { op := exampleCreate, frame := .createReserve created record })[(2 : Nat)]? =
          some { op, frame := .createHeal create pendingRecord } := by
      rw [OrdMap.getElem?_insert, if_neg (by decide)]
      exact hcall
    rcases heal_condemns hsound hcall' howner hslot' hrecord
      ⟨hd'.trans hd.symm, hlease'.trans hlease.symm, hgeneration'.trans hgeneration.symm⟩ with
      ⟨s₁, s₂, hserved, hstep, hlocked, hframe, hcondemned⟩
    rcases h s₁ s₂ (.relock 2) _ record _ (hrun.trans hserved) hstep (hlocked ▸ hrecord)
      hwritten.live hcondemned rfl with ⟨call, reply, snapshot, hrefused⟩
    rw [show s₁.calls[(2 : Nat)]? = some call from hrefused.underway, Option.map_some,
      Option.some_inj] at hframe
    have hdeparts := hrefused.departs
    rw [hframe] at hdeparts
    cases hdeparts
  · cases hheals

end VirtualDisplay
