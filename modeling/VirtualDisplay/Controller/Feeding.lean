import VirtualDisplay.Controller.Fencing

/-!
# A fed lease keeps its displays from the reaper

A feed that succeeds sets the expiry of the displays of its lease to its own time plus the timeout.
A reaper pass picks its candidates by expiry when it starts, and departs them one after the other
without looking at the expiry again.  So a display is safe from every pass that is under way when
the feed takes effect and does not have the display among its candidates, and from every pass that
starts later with an earlier time than the new expiry (`feed_outlasts_reaper`), as long as nothing
before the start of the pass takes the time back: a shorter feed, a reclaim with a shorter timeout,
or a failed departure, which condemns the record.

A pass that has the display among its candidates when the feed takes effect departs it after the
feed; `feed_gaps` has a run for that and one with a shorter feed.
-/

set_option autoImplicit false

namespace VirtualDisplay

open Std SlotCalls DisplayStore Controller

/-! ## What takes the time back -/

/-- When a feed or a reclaim at this time with this timeout lets its lease expire. -/
def expiryAfter (now : TimePoint) (requestedTimeoutMs : UInt32) : TimePoint :=
  now + milliseconds (normalizeTimeoutMs requestedTimeoutMs)

/-- The step feeds or reclaims the lease of the record with an expiry before the deadline. -/
def shortens (deadline : TimePoint) (s : ControllerSystem) (r : TemporaryDisplayRecord) :
    ControllerEvent → Bool
  | .start _ (.feedLease request now) =>
    (s.locked.feedLease request now).2.error == .none && request.leaseId == r.leaseId &&
      expiryAfter now request.requestedTimeoutMs < deadline
  | .relock id =>
    (s.calls[id]?).any fun call ↦
      match call.frame with
      | .reclaim request now =>
        (call.phase.reply? controller.busy).any (·.error == .none) &&
          (s.locked.reclaimTemporaryDisplay request now).2.status.error == .none &&
          (s.locked.displaysById[request.displayId]?).any (·.leaseId == r.leaseId) &&
          expiryAfter now request.requestedTimeoutMs < deadline
      | _ => false
  | _ => false

/-- The step condemns the record of the display because the backend refused its departure. -/
def condemns (d : UInt64) (s : ControllerSystem) : ControllerEvent → Bool
  | .relock id =>
    (s.calls[id]?).any fun call ↦
      (call.phase.reply? controller.busy).any fun reply ↦
        (condemned? call.frame reply.error).any fun record ↦
          record.displayId == d && s.locked.temporaryDisplayGenerationIsCurrent record
  | _ => false

/-- The display has its record, and the step neither brings its expiry before the deadline nor
condemns it; nor does a create that was going to heal it take the record for a condemned one. -/
def staysFed (d : UInt64) (deadline : TimePoint) (s : ControllerSystem) (e : ControllerEvent) :
    Bool :=
  (s.locked.displaysById[d]?).any (fun r ↦ !shortens deadline s r e) && !condemns d s e &&
    !healsCurrent d s e

section Guard

variable {s : ControllerSystem} {d : UInt64} {deadline : TimePoint} {e : ControllerEvent} {id : Nat}
  {op : ControllerOp} {phase : Phase BackendDisplayResult} {reply : BackendDisplayResult}

theorem staysFed_record (hok : staysFed d deadline s e = true) :
    ∃ r, s.locked.displaysById[d]? = some r ∧ shortens deadline s r e = false := by
  rw [staysFed, Bool.and_eq_true, Bool.and_eq_true, Option.any_eq_true] at hok
  simpa using hok.1.1

theorem staysFed_condemned {frame : Frame} (hok : staysFed d deadline s (.relock id) = true)
    (hcall : s.calls[id]? = some { op, frame, phase })
    (hready : phase.reply? controller.busy = some reply) {record : TemporaryDisplayRecord}
    (hcondemned : condemned? frame reply.error = some record) (hd : record.displayId = d) :
    s.locked.temporaryDisplayGenerationIsCurrent record = false := by
  rw [staysFed, Bool.and_eq_true, Bool.and_eq_true] at hok
  have hcondemns := hok.1.2
  simpa [condemns, hcall, hready, hcondemned, hd] using hcondemns

theorem staysFed_heal (hok : staysFed d deadline s (.relock id) = true) {call : CreateCall}
    {record : TemporaryDisplayRecord}
    (hcall : s.calls[id]? = some { op, frame := .createHeal call record, phase })
    (hd : record.displayId = d) :
    s.locked.temporaryDisplayGenerationIsCurrent record = false := by
  rw [staysFed, Bool.and_eq_true, Bool.and_eq_true] at hok
  have hheals := hok.2
  simpa [healsCurrent, hcall, hd] using hheals

end Guard

/-! ## Up to the start of the pass -/

/-- The record of the display, if it is still there, is not condemned and lasts until the
deadline. -/
structure LastsUntil (d : UInt64) (deadline : TimePoint) (s : ControllerSystem) : Prop
    extends Sound s where
  lasts : ∀ r, s.locked.displaysById[d]? = some r →
    r.pendingDeparture = false ∧ deadline ≤ r.expiresAt

section Step

variable {s s' : ControllerSystem} {d : UInt64} {deadline : TimePoint} {e : ControllerEvent}

theorem LastsUntil.started {id : Nat} {op : ControllerOp} (h : LastsUntil d deadline s)
    (hok : staysFed d deadline s (.start id op) = true) {r' : TemporaryDisplayRecord}
    (hr' : (start s.locked op).1.displaysById[d]? = some r') :
    r'.pendingDeparture = false ∧ deadline ≤ r'.expiresAt := by
  rcases staysFed_record hok with ⟨r, hr, hlong⟩
  rcases start_record hr op with hkept | ⟨request, now, rfl, hfeeds, hfed⟩
  · rw [hkept, Option.some_inj] at hr'
    rw [← hr']
    exact h.lasts r hr
  · rw [hfed, Option.some_inj] at hr'
    rw [← hr', feedRecord]
    split_ifs with hof
    · refine ⟨(h.lasts r hr).1, ?_⟩
      rw [shortens, hfeeds, hof.1] at hlong
      simp only [beq_self_eq_true, Bool.true_and] at hlong
      exact Int.not_lt.mp (of_decide_eq_false hlong)
    · exact h.lasts r hr

theorem LastsUntil.resumed {id : Nat} {op : ControllerOp} {frame : Frame}
    {phase : Phase BackendDisplayResult} {reply : BackendDisplayResult}
    (h : LastsUntil d deadline s) (hcall : s.calls[id]? = some { op, frame, phase })
    (hready : phase.reply? controller.busy = some reply)
    (hok : staysFed d deadline s (.relock id) = true) {r' : TemporaryDisplayRecord}
    (hr' : (resume s.locked frame reply).1.displaysById[d]? = some r') :
    r'.pendingDeparture = false ∧ deadline ≤ r'.expiresAt := by
  rcases staysFed_record hok with ⟨r, hr, hlong⟩
  -- A healing create does not get to the record.
  have hheal {call : CreateCall} {record : TemporaryDisplayRecord}
      (hframe : frame = .createHeal call record) (hsame : record.SameRecord r) : False := by
    rw [hframe] at hcall
    rcases hsame.current h.keyed hr with ⟨hd, hcurrent⟩
    rw [staysFed_heal hok hcall hd] at hcurrent
    cases hcurrent
  have hfate := resume_record h.keyed (h.frames id _ hcall) hr reply
  rw [hr'] at hfate
  cases hfate with
  | kept => exact h.lasts _ hr
  | retired _ hsame hgone =>
    rcases hgone with hnone | ⟨call, hframe⟩
    · cases hnone
    · rename_i record hretired
      rw [hframe] at hretired
      cases herror : reply.error with
      | none =>
        rw [herror] at hretired
        cases hretired
        exact (hheal hframe hsame).elim
      | _ =>
        rw [herror] at hretired
        cases hretired
  | abandoned hframe _ hsame => exact (hheal hframe hsame).elim
  | condemned hcondemned hsame =>
    rcases hsame.current h.keyed hr with ⟨hd, hcurrent⟩
    rw [staysFed_condemned hok hcall hready hcondemned hd] at hcurrent
    cases hcurrent
  | @rotated request now display hframe herror hpresent hsucceeded =>
    rw [rotateRecord]
    split_ifs with hof
    · refine ⟨(h.lasts r hr).1, ?_⟩
      cases (show frame = _ from hframe)
      simp only [shortens, hcall, hready, herror, hsucceeded, hpresent, hof, Option.any_some,
        beq_self_eq_true, Bool.true_and] at hlong
      exact Int.not_lt.mp (of_decide_eq_false hlong)
    · exact h.lasts r hr

theorem LastsUntil.move (h : LastsUntil d deadline s) (hok : staysFed d deadline s e = true)
    (hmove : Move controller contract s e s') : LastsUntil d deadline s' where
  toSound := h.toSound.move hmove
  lasts r' hr' := by
    cases hmove with
    | started => exact h.started hok hr'
    | served | timedOut => exact h.lasts r' hr'
    | relocked hcall hready => exact h.resumed hcall hready hok hr'

/-! ## During the pass -/

/-- The call of this id is a reaper pass with nothing left to do about the display. -/
def PassSpares (d : UInt64) (id : Nat) (s : ControllerSystem) : Prop :=
  ∀ call, s.calls[id]? = some call →
    (∃ display rest removed, call.frame = .reapDepart display rest removed) ∧
      ∀ record ∈ call.frame.records, record.displayId ≠ d

/-- A pass has only those records among its candidates that are condemned or have expired. -/
theorem mem_reapCandidates {store : DisplayStore} {now : TimePoint}
    {record : TemporaryDisplayRecord} (h : record ∈ store.reapCandidates now) :
    record.pendingDeparture = true ∨ record.expiresAt ≤ now := by
  rcases List.mem_append.mp h with hpending | hexpired
  · exact .inl (List.mem_filter.mp hpending).2
  · exact .inr (of_decide_eq_true (List.mem_filter.mp (List.mem_filter.mp hexpired).1).2)

theorem LastsUntil.pass {id : Nat} {now : TimePoint} (h : LastsUntil d deadline s)
    (hnow : now < deadline) (hmove : Move controller contract s (.start id (.reapExpired now)) s') :
    PassSpares d id s' := by
  cases hmove with
  | started hfresh =>
    intro call hcall
    rcases of_getElem?_advance hcall with ⟨-, frame, hyield, rfl⟩ | ⟨hne, -⟩
    · have hstart := start_next hyield
      have hrecords {record : TemporaryDisplayRecord} (hmem : record ∈ frame.records) :=
        hstart.records h.keyed hmem
      have hstore : (start s.locked (.reapExpired now)).1 = s.locked := reapNext_fst ..
      rw [hstore] at hrecords
      generalize (start s.locked (.reapExpired now)).1 = store at hstart
      cases hstart with
      | heals hcreates => cases hcreates
      | creates hcreates => cases hcreates
      | @reaps _ display rest hlisted =>
        refine ⟨⟨display, rest, 0, rfl⟩, fun record hmem hd ↦ ?_⟩
        have hr := hrecords hmem
        rw [hd] at hr
        rcases h.lasts record hr with ⟨hlive, hlasts⟩
        rw [Frame.records, ← hlisted] at hmem
        rcases mem_reapCandidates hmem with hpending | hexpired
        · rw [hlive] at hpending
          cases hpending
        · exact absurd (Int.lt_of_lt_of_le hnow hlasts) (Int.not_lt.mpr hexpired)
      | manifests =>
        change (reapNext s.locked 0 (s.locked.reapCandidates now)).2 = _ at hyield
        cases hlisted : s.locked.reapCandidates now with
        | nil =>
          rw [hlisted] at hyield
          cases hyield
        | cons display rest =>
          rw [hlisted] at hyield
          cases hyield
    · exact absurd rfl hne

theorem PassSpares.move {id : Nat} (h : PassSpares d id s) (hunder : s.calls.contains id = true)
    (hmove : Move controller contract s e s') : PassSpares d id s' := by
  intro call hcall
  cases hmove with
  | started hfresh =>
    rcases of_getElem?_advance hcall with ⟨rfl, -⟩ | ⟨-, hcall⟩
    · rw [ExtTreeMap.contains_eq_isSome_getElem?, hfresh] at hunder
      cases hunder
    · exact h call hcall
  | served hold | timedOut hold =>
    rw [OrdMap.getElem?_insert] at hcall
    split_ifs at hcall with hid
    · cases hid
      cases hcall
      have hspares := h _ hold
      exact hspares
    · exact h call hcall
  | @relocked _ op frame phase reply hold =>
    rcases of_getElem?_advance hcall with ⟨rfl, next, hyield, rfl⟩ | ⟨-, hcall⟩
    · rcases h _ hold with ⟨⟨display, rest, removed, hframe⟩, hother⟩
      have hnext := resume_next hyield
      generalize (controller.resume s.locked frame reply).1 = store at hnext
      cases (show frame = _ from hframe)
      cases hnext with
      | reaped =>
        exact ⟨⟨_, _, _, rfl⟩, fun record hmem ↦ hother record (List.mem_cons_of_mem _ hmem)⟩
    · exact h call hcall

end Step

/-! ## The feed -/

/-- The feed has succeeded while the display was under its lease and not condemned. -/
structure FeedAcknowledged (s₀ s₁ : ControllerSystem) (request : LeaseRequest) (now : TimePoint)
    (d : UInt64) : Prop where
  step : ∃ id, step controller contract s₀ (.start id (.feedLease request now)) = some s₁
  succeeded : (s₀.locked.feedLease request now).2.error = .none
  live : ∃ r, s₀.locked.displaysById[d]? = some r ∧ r.leaseId = request.leaseId ∧
    r.pendingDeparture = false

theorem FeedAcknowledged.lasts {s₀ s₁ : ControllerSystem} {request : LeaseRequest}
    {now : TimePoint} {d : UInt64} (h : FeedAcknowledged s₀ s₁ request now d) (hs : Sound s₀) :
    LastsUntil d (expiryAfter now request.requestedTimeoutMs) s₁ := by
  rcases h.step with ⟨id, hstep⟩
  have hmove := move_of_step hstep
  refine ⟨hs.move hmove, fun r' hr' ↦ ?_⟩
  rcases h.live with ⟨r, hr, hlease, hlive⟩
  have hnot : r.leaseId = request.leaseId ∧ ¬r.pendingDeparture = true := by simp [hlease, hlive]
  cases hmove with
  | started =>
    have hstore : (start s₀.locked (.feedLease request now)).1 =
        (s₀.locked.feedLease request now).1 := rfl
    have hr' : (start s₀.locked (.feedLease request now)).1.displaysById[d]? =
        some r' := hr'
    rcases s₀.locked.feedLease_cases request now with ⟨lease, -, -, -, hfed⟩ | ⟨-, herror⟩
    · rw [hstore, hfed, OrdMap.getElem?_map, hr, Option.map_some, Option.some_inj, feedRecord,
        if_pos hnot] at hr'
      rw [← hr']
      exact ⟨hlive, Int.le_refl _⟩
    · exact absurd h.succeeded herror

end VirtualDisplay
