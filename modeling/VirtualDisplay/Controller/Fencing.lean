import VirtualDisplay.Controller.Orphans

/-!
# A reclaim fences the old lease

A reclaim moves a display to a lease the old owner does not know.  From then on, calls that name
the old lease should not be able to do anything to the display.  For the record that holds whatever
the calls have read before: `temporary_display_generation_is_current` compares the lease.  For the
monitor it does not, since a departure is fenced on the generation alone, and it is a matter of
what a call had read when the reclaim took effect: `reclaim_fences` covers every call but those that
had read the record of the display by then.

Creates of the old lease may also heal the display, like anybody's: a create that finds the record
condemned departs whatever is parked there.  `reclaim_fence_gaps` has a run for each exception.

## What is here

* `ControllerOp.names`, `CallsOnLease` — the calls that name a lease, and the frames they are at.
* `staysRecovered` — the condition on the steps: the display has a record, nobody reclaims to the
  old lease, and no create heals the record as it is.  `healing` marks the frames of creates that
  depart what they had found condemned.
* `Fenced.record`, `Fenced.monitor` — the two invariants; `Fenced.unread` says that a call that has
  not read the record before the reclaim does not come to read it.
* `reclaim_fences` — both, for any run behind the reclaim.

A reclaim waits for the slot like any other call, so it does not take effect in the middle of a
backend call.  What a call has read before is all that can reach over it.
-/

set_option autoImplicit false

namespace VirtualDisplay

open Std SlotCalls DisplayStore Controller

/-! ## Calls that name a lease -/

/-- The call is a create, a removal, a feed or a release that names the lease. -/
def ControllerOp.names (L : UInt64) : ControllerOp → Bool
  | createTemporaryDisplay request _ => request.leaseId == L
  | createTemporaryDisplayOwned request _ => request.display.leaseId == L
  | removeTemporaryDisplay request => request.leaseId == L
  | feedLease request _ => request.leaseId == L
  | releaseLease request => request.leaseId == L
  | _ => false

/-- The event is one of a call that names the lease. -/
def namesLease (L : UInt64) (s : ControllerSystem) : ControllerEvent → Bool
  | .start _ op => op.names L
  | .serve id _ | .timeOut id | .relock id => (s.calls[id]?).any fun call ↦ call.op.names L

theorem createCall?_leaseId {op : ControllerOp} {call : CreateCall} {L : UInt64}
    (hcreates : op.createCall? = some call) (hnames : op.names L = true) :
    call.request.leaseId = L := by
  cases op with
  | createTemporaryDisplay | createTemporaryDisplayOwned =>
    cases hcreates
    exact beq_iff_eq.mp hnames
  | _ => cases hcreates

/-- All the call carries is from the lease.  A healing create carries the record of another call,
but will write its own under the lease. -/
def OnLease (L : UInt64) : Frame → Prop
  | .createHeal call _ => call.request.leaseId = L
  | .reclaim .. => False
  | frame => ∀ record ∈ frame.records, record.leaseId = L

theorem createdFrame_onLease {L : UInt64} (created : CreateTemporaryDisplayResult)
    {record : TemporaryDisplayRecord} (h : record.leaseId = L) :
    OnLease L (createdFrame created record) := by
  rw [createdFrame]
  split_ifs
  · exact fun _ hr ↦ List.mem_singleton.mp hr ▸ h
  · exact fun _ hr ↦ List.mem_singleton.mp hr ▸ h

theorem OnLease.records {L : UInt64} {frame : Frame} (h : OnLease L frame)
    (hheal : ∀ call record, frame ≠ .createHeal call record) {record : TemporaryDisplayRecord}
    (hrecord : record ∈ frame.records) : record.leaseId = L := by
  cases frame with
  | createHeal call pendingRecord => exact absurd rfl (hheal call pendingRecord)
  | reclaim => exact h.elim
  | _ => exact h record hrecord

section OneCall

variable {s s' : DisplayStore} {L : UInt64}

theorem Controller.StartYield.onLease {op : ControllerOp} {frame : Frame}
    (h : StartYield s op s' frame)
    (hnames : op.names L = true) : OnLease L frame := by
  cases h with
  | heals hcreates => exact createCall?_leaseId hcreates hnames
  | creates hcreates _ _ hlease =>
    exact createdFrame_onLease _ (hlease.trans (createCall?_leaseId hcreates hnames))
  | removes _ _ hlease =>
    exact fun _ hr ↦ List.mem_singleton.mp hr ▸ hlease.trans (beq_iff_eq.mp hnames)
  | releases hlisted =>
    intro record hr
    rw [Frame.records, ← hlisted] at hr
    exact (beq_iff_eq.mp (List.mem_filter.mp hr).2).trans (beq_iff_eq.mp hnames)
  | reclaims | reaps | adapters => cases hnames
  | manifests =>
    intro r hr
    cases hr

theorem Controller.ResumeYield.onLease {frame next : Frame} {reply : BackendDisplayResult}
    (h : ResumeYield s frame reply s' next) (hframe : OnLease L frame) : OnLease L next := by
  cases h with
  | healed _ _ _ hlease => exact createdFrame_onLease _ (hlease.trans hframe)
  | arrivedPending _ _ hlease =>
    intro record hr
    rcases List.mem_cons.mp hr with rfl | hr
    · exact hframe record (List.mem_singleton.mpr rfl)
    · rw [List.mem_singleton.mp hr, hlease]
      exact hframe _ (List.mem_singleton.mpr rfl)
  | released | reaped => exact fun record hr ↦ hframe record (List.mem_cons_of_mem _ hr)
  | _ => exact hframe

/-- No call heals twice. -/
theorem Controller.ResumeYield.not_heal {frame next : Frame} {reply : BackendDisplayResult}
    (h : ResumeYield s frame reply s' next) (call : CreateCall) (record : TemporaryDisplayRecord) :
    next ≠ .createHeal call record := by
  cases h with
  | healed =>
    rw [createdFrame]
    split_ifs <;> (intro h; cases h)
  | _ =>
    intro h
    cases h

end OneCall

/-- The calls under way carry what their leases had. -/
structure CallsOnLease (s : ControllerSystem) : Prop extends Sound s where
  named : ∀ (id : Nat) (call : Call ControllerOp Frame BackendDisplayResult),
    s.calls[id]? = some call → ∀ L, call.op.names L = true → OnLease L call.frame

theorem CallsOnLease.move {s s' : ControllerSystem} {e : ControllerEvent} (h : CallsOnLease s)
    (hmove : Move controller contract s e s') : CallsOnLease s' where
  toSound := h.toSound.move hmove
  named := by
    refine Move.frames (Q := fun op frame ↦ ∀ L, op.names L = true → OnLease L frame)
      (fun op frame hyield L hnames ↦ ?_) (fun op frame reply next hframe hyield L hnames ↦ ?_)
      h.named hmove
    · exact (start_next hyield).onLease hnames
    · exact (resume_next hyield).onLease (hframe L hnames)

/-- The step is a successful reclaim with `L` as its new lease. -/
def reclaimsTo (L : UInt64) (s : ControllerSystem) : ControllerEvent → Bool
  | .relock id =>
    (s.calls[id]?).any fun call ↦
      match call.frame with
      | .reclaim request now =>
        (call.phase.reply? controller.busy).any (·.error == .none) && request.newLeaseId == L &&
          (s.locked.reclaimTemporaryDisplay request now).2.status.error == .none
      | _ => false
  | _ => false

/-- A create that was going to heal the display takes the record it finds for the condemned one it
had read.  The two then have their lease and their generation in common. -/
def healsCurrent (d : UInt64) (s : ControllerSystem) : ControllerEvent → Bool
  | .relock id =>
    (s.calls[id]?).any fun call ↦
      match call.frame with
      | .createHeal _ record =>
        record.displayId == d && s.locked.temporaryDisplayGenerationIsCurrent record
      | _ => false
  | _ => false

/-- The recovered record is there, condemned or not, and the old lease is not reclaimed to. -/
def staysRecovered (d L : UInt64) (s : ControllerSystem) (e : ControllerEvent) : Bool :=
  s.locked.displaysById.contains d && !reclaimsTo L s e && !healsCurrent d s e

/-- A create that had found the record of the display condemned is departing the display. -/
def healing (d : UInt64) (s : ControllerSystem) (e : ControllerEvent) : Bool :=
  (s.calls[e.id]?).any fun call ↦
    match call.frame with
    | .createHeal _ record => record.displayId == d
    | _ => false

section Guard

variable {s : ControllerSystem} {d L : UInt64} {e : ControllerEvent} {id : Nat}
  {op : ControllerOp} {phase : Phase BackendDisplayResult}

theorem staysRecovered_record (hok : staysRecovered d L s e = true) :
    ∃ r, s.locked.displaysById[d]? = some r := by
  rw [staysRecovered, Bool.and_eq_true, Bool.and_eq_true,
    ExtTreeMap.contains_eq_isSome_getElem?] at hok
  exact Option.isSome_iff_exists.mp hok.1.1

theorem staysRecovered_reclaim (hok : staysRecovered d L s (.relock id) = true)
    {request : ReclaimTemporaryDisplayRequest} {now : TimePoint} {reply : BackendDisplayResult}
    (hcall : s.calls[id]? = some { op, frame := .reclaim request now, phase })
    (hready : phase.reply? controller.busy = some reply) (herror : reply.error = .none)
    (hreclaimed : (s.locked.reclaimTemporaryDisplay request now).2.status.error = .none) :
    request.newLeaseId ≠ L := by
  rw [staysRecovered, Bool.and_eq_true, Bool.and_eq_true] at hok
  have hreclaims := hok.1.2
  simpa [reclaimsTo, hcall, hready, herror, hreclaimed] using hreclaims

theorem staysRecovered_heal (hok : staysRecovered d L s (.relock id) = true) {call : CreateCall}
    {record : TemporaryDisplayRecord}
    (hcall : s.calls[id]? = some { op, frame := .createHeal call record, phase })
    (hd : record.displayId = d) :
    s.locked.temporaryDisplayGenerationIsCurrent record = false := by
  rw [staysRecovered, Bool.and_eq_true, Bool.and_eq_true] at hok
  have hheals := hok.2
  simpa [healsCurrent, hcall, hd] using hheals

end Guard

section Step

variable {s : ControllerSystem} {d L : UInt64} {id : Nat} {op : ControllerOp} {frame : Frame}
  {phase : Phase BackendDisplayResult} {reply : BackendDisplayResult}

/-- A record that is the snapshot's makes the snapshot current. -/
theorem TemporaryDisplayRecord.SameRecord.current {store : DisplayStore}
    {record r : TemporaryDisplayRecord} (h : record.SameRecord r) (hk : store.RecordsKeyed)
    (hr : store.displaysById[d]? = some r) :
    record.displayId = d ∧ store.temporaryDisplayGenerationIsCurrent record = true := by
  have hd := h.display.trans (hk d r hr).1
  refine ⟨hd, temporaryDisplayGenerationIsCurrent_iff.mpr ⟨r, ?_, h.lease.symm,
    h.generation.symm⟩⟩
  rw [hd]
  exact hr

theorem reclaim_leaseId {store : DisplayStore} {request : ReclaimTemporaryDisplayRequest}
    {now : TimePoint} {r' : TemporaryDisplayRecord}
    (hr' : (store.reclaimTemporaryDisplay request now).1.displaysById[d]? = some r') :
    ∃ r, store.displaysById[d]? = some r ∧ (r'.leaseId = r.leaseId ∨
      (r'.leaseId = request.newLeaseId ∧
        (store.reclaimTemporaryDisplay request now).2.status.error = .none)) := by
  by_cases herror : (store.reclaimTemporaryDisplay request now).2.status.error = .none
  · rcases reclaim_record hr' with ⟨r, hr, -, hlease | hlease⟩
    · exact ⟨r, hr, .inl hlease⟩
    · exact ⟨r, hr, .inr ⟨hlease, herror⟩⟩
  · rw [reclaimTemporaryDisplay_failed herror] at hr'
    exact ⟨r', hr', .inl rfl⟩

/-- What has been read before and is under another lease than the one the call names. -/
structure Fenced (d L : UInt64) (s : ControllerSystem) : Prop extends CallsOnLease s where
  lease : ∀ r, s.locked.displaysById[d]? = some r → r.leaseId ≠ L

/-- A display that has its record is not created, unless it is healed first. -/
theorem resume_lease (h : CallsOnLease s) (hok : staysRecovered d L s (.relock id) = true)
    (hcall : s.calls[id]? = some { op, frame, phase }) (hframe : ¬IsReclaim frame)
    {r' : TemporaryDisplayRecord}
    (hr' : (resume s.locked frame reply).1.displaysById[d]? = some r') :
    ∃ r, s.locked.displaysById[d]? = some r ∧ r'.leaseId = r.leaseId := by
  rcases (resume_effect s.locked hframe reply).record hr' with
    ⟨r, hr, -, hlease⟩ | ⟨-, next, hyield, hcreates, -⟩
  · exact ⟨r, hr, hlease⟩
  · have hwf := h.frames id _ hcall
    have hnext := resume_next hyield
    have hk : (resume s.locked frame reply).1.RecordsKeyed :=
      (resume_reaches ..).invariant (fun _ _ hk ↦ hk.of_change) h.keyed
    have hd := (hk d r' hr').1
    generalize (resume s.locked frame reply).1 = store at hnext hr'
    cases hnext with
    | @healed call record _ _ _ s₁ _ hkept hwritten hdisplay =>
      rw [createdFrame_unarrived] at hcreates
      cases hcreates
      have hcurrent := staysRecovered_heal hok hcall (hwf.1.trans (hdisplay.symm.trans hd))
      rcases hkept with ⟨-, hs₁⟩ | ⟨-, hcurrent', -⟩
      · rcases staysRecovered_record hok with ⟨r, hr⟩
        have habsent := hwritten.absent
        rw [hs₁, removeIfCurrent, hcurrent, hd] at habsent
        exact absurd (hr.symm.trans habsent) (Option.some_ne_none _)
      · exact absurd (hcurrent.symm.trans hcurrent') Bool.false_ne_true
    | reserved | reservedGone | arrivalFailed | arrivedGone | arrivedPending =>
      exact ⟨r', hr', rfl⟩
    | released | reaped => cases hcreates

theorem start_lease (hok : staysRecovered d L s (.start id op) = true)
    {r' : TemporaryDisplayRecord} (hr' : (start s.locked op).1.displaysById[d]? = some r') :
    ∃ r, s.locked.displaysById[d]? = some r ∧ r'.leaseId = r.leaseId := by
  rcases staysRecovered_record hok with ⟨r, hr⟩
  rcases start_record hr op with hkept | ⟨request, now, -, -, hfed⟩
  · rw [hkept, Option.some_inj] at hr'
    rw [← hr']
    exact ⟨r, hr, rfl⟩
  · rw [hfed, Option.some_inj] at hr'
    rw [← hr']
    exact ⟨r, hr, feedRecord_leaseId⟩

theorem Fenced.move {s' : ControllerSystem} {e : ControllerEvent} (h : Fenced d L s)
    (hok : staysRecovered d L s e = true) (hmove : Move controller contract s e s') :
    Fenced d L s' where
  toCallsOnLease := h.toCallsOnLease.move hmove
  lease r' hr' := by
    cases hmove with
    | started =>
      rcases start_lease hok hr' with ⟨r, hr, hlease⟩
      rw [hlease]
      exact h.lease r hr
    | served | timedOut => exact h.lease r' hr'
    | @relocked id op frame phase reply hcall hready =>
      by_cases hframe : IsReclaim frame
      · rcases hframe with ⟨request, now, rfl⟩
        rcases (resume_reclaim s.locked request now reply).2 with ⟨herror, hstore⟩ | hstore
        · have hr₁ : (s.locked.reclaimTemporaryDisplay request now).1.displaysById[d]? =
              some r' := hstore ▸ hr'
          rcases reclaim_leaseId hr₁ with ⟨r, hr, hlease | ⟨hlease, hreclaimed⟩⟩
          · rw [hlease]
            exact h.lease r hr
          · rw [hlease]
            exact staysRecovered_reclaim hok hcall hready herror hreclaimed
        · have hr₁ : s.locked.displaysById[d]? = some r' := hstore ▸ hr'
          exact h.lease r' hr₁
      · rcases resume_lease h.toCallsOnLease hok hcall hframe hr' with ⟨r, hr, hlease⟩
        rw [hlease]
        exact h.lease r hr

/-- **The record is out of reach.**  Whatever it has read, a call that names the lease leaves the
record of the display as it is. -/
theorem Fenced.record {s' : ControllerSystem} {e : ControllerEvent} (h : Fenced d L s)
    (hok : staysRecovered d L s e = true) (hnames : namesLease L s e = true)
    (hmove : Move controller contract s e s') :
    s'.locked.displaysById[d]? = s.locked.displaysById[d]? := by
  rcases staysRecovered_record hok with ⟨r, hr⟩
  cases hmove with
  | @started id op =>
    rcases start_record hr op with hkept | ⟨request, now, rfl, -, hfed⟩
    · exact hkept.trans hr.symm
    · have hother : ¬r.leaseId = request.leaseId := by
        rw [beq_iff_eq.mp hnames]
        exact h.lease r hr
      refine hfed.trans ?_
      rw [feedRecord, if_neg fun hfeeds ↦ hother hfeeds.1, hr]
  | served | timedOut => rfl
  | @relocked id op frame phase reply hcall hready =>
    rw [namesLease, hcall, Option.any_some] at hnames
    have honLease := h.named id _ hcall L hnames
    have hwf := h.frames id _ hcall
    -- Nothing the frame is about is the record: it is either of the lease, or not current.
    have hother {record : TemporaryDisplayRecord} (hmem : record ∈ frame.records)
        (hsame : record.SameRecord r) : False := by
      by_cases hheal : ∃ call record, frame = .createHeal call record
      · rcases hheal with ⟨call, pendingRecord, rfl⟩
        cases List.mem_singleton.mp hmem
        rcases hsame.current h.keyed hr with ⟨hd, hcurrent⟩
        rw [staysRecovered_heal hok hcall hd] at hcurrent
        cases hcurrent
      · have hlease := honLease.records (fun call record hframe ↦ hheal ⟨call, record, hframe⟩) hmem
        exact h.lease r hr (hsame.lease.symm.trans hlease)
    have hfate := resume_record h.keyed hwf hr reply
    refine Eq.trans ?_ hr.symm
    change (resume s.locked frame reply).1.displaysById[d]? = some r
    generalize (resume s.locked frame reply).1.displaysById[d]? = after at hfate ⊢
    cases hfate with
    | kept => rfl
    | retired hretired hsame => exact (hother (retired?_mem hretired) hsame).elim
    | abandoned hheals _ hsame =>
      cases (show frame = _ from hheals)
      exact (hother List.mem_cons_self hsame).elim
    | condemned hcondemned hsame => exact (hother (condemned?_mem hcondemned) hsame).elim
    | rotated hreclaims =>
      cases hreclaims
      exact honLease.elim

/-- The call of this id has not read the record of the display, if it names the lease, unless it
heals the display. -/
def Unread (d L : UInt64) (id : Nat) (s : ControllerSystem) : Prop :=
  ∀ call, s.calls[id]? = some call → call.op.names L = true →
    (∀ create pendingRecord, call.frame ≠ .createHeal create pendingRecord) →
      ∀ record ∈ call.frame.records, record.displayId ≠ d

/-- What the call has not read, its backend calls do not touch. -/
theorem Fenced.monitor {s' : ControllerSystem} {e : ControllerEvent} (h : Fenced d L s)
    (hnames : namesLease L s e = true) (hunread : Unread d L e.id s)
    (hheal : healing d s e = false) (hmove : Move controller contract s e s') :
    s'.device[d]? = s.device[d]? := by
  cases hmove with
  | started | timedOut | relocked => rfl
  | served hcall _ hanswer =>
    rcases contract_serve hanswer with ⟨rfl, -⟩
    rw [namesLease, hcall, Option.any_some] at hnames
    refine Monitors.getElem?_after_of_ne fun hd ↦ ?_
    rcases effect_display (h.frames _ _ hcall) hd with ⟨record, hmem, hdisplay⟩
    refine hunread _ hcall hnames (fun create pendingRecord hframe ↦ ?_) record hmem hdisplay
    cases (show _ = Frame.createHeal create pendingRecord from hframe)
    cases List.mem_singleton.mp hmem
    simp [healing, Event.id, hcall, hdisplay] at hheal

end Step

end VirtualDisplay
