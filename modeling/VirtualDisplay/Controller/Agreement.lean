import VirtualDisplay.Controller.Contract

/-!
# Store and backend agree

When no call is under way, a record that is not condemned should have its monitor: one under its
display id with its generation.  Between the points where the lock is given up that cannot hold, so
the invariant `Agreement` names the calls that account for a missing monitor.  A create accounts
for the record it has written until the monitor has arrived, and a departure that the backend has
answered for the record it is about to settle.

A snapshot that is taken before the wait for the slot can be out of date after it.  Where it is,
agreement is lost: a reclaim moves a record to another lease without giving it another generation,
so a departure of the old lease still gets through to the monitor, and a create that fails no
longer finds the record it has to take back.  `keepsAgreement` is the condition on a step that this
does not happen, `agreement_of_steps` the agreement of every run that meets it, and
`reclaimed_without_monitor` a run that does not.
-/

set_option autoImplicit false

namespace VirtualDisplay

open Std SlotCalls DisplayStore Controller

/-! ## Which calls account for a record -/

namespace Frame

/-- The create waits for the monitor of this very record, or the departure is of it. -/
def answersFor (frame : Frame) (r : TemporaryDisplayRecord) : Bool :=
  frame.unarrived.any (fun record ↦
      record.displayId == r.displayId && record.generation == r.generation) ||
    frame.departing.any fun record ↦
      record.displayId == r.displayId && record.leaseId == r.leaseId &&
        record.generation == r.generation

theorem answersFor_iff {frame : Frame} {r : TemporaryDisplayRecord} :
    frame.answersFor r = true ↔
      (∃ record, frame.unarrived = some record ∧ record.displayId = r.displayId ∧
        record.generation = r.generation) ∨
      ∃ record, frame.departing = some record ∧ record.displayId = r.displayId ∧
        record.leaseId = r.leaseId ∧ record.generation = r.generation := by
  rw [answersFor, Bool.or_eq_true, Option.any_eq_true, Option.any_eq_true]
  simp [and_assoc]

end Frame

/-- The call accounts for a record without monitor. -/
inductive AnswersFor (call : Call ControllerOp Frame BackendDisplayResult)
    (r : TemporaryDisplayRecord) : Prop
  | unarrived {record : TemporaryDisplayRecord} (creates : call.frame.unarrived = some record)
      (display : record.displayId = r.displayId) (generation : record.generation = r.generation)
      (absent : ∀ reply, call.phase = .served reply → call.frame.arriving ≠ none →
        reply.error ≠ .none)
  | departed {record : TemporaryDisplayRecord} {reply : BackendDisplayResult}
      (departs : call.frame.departing = some record) (display : record.displayId = r.displayId)
      (lease : record.leaseId = r.leaseId) (generation : record.generation = r.generation)
      (answered : call.phase = .served reply) (called : reply.error ≠ .busy)

/-- The record has its monitor, or a call accounts for its absence. -/
def Backed (s : ControllerSystem) (r : TemporaryDisplayRecord) : Prop :=
  s.device[r.displayId]? = some r.generation ∨
    ∃ (id : Nat) (call : Call ControllerOp Frame BackendDisplayResult),
      s.calls[id]? = some call ∧ AnswersFor call r

/-- Each record that is not condemned has its monitor, or a call accounts for its absence. -/
structure Agreement (s : ControllerSystem) : Prop extends Sound s where
  backed : ∀ (d : UInt64) (r : TemporaryDisplayRecord), s.locked.displaysById[d]? = some r →
    r.pendingDeparture = false → Backed s r

/-! ## The condition on a step -/

/-- The record of a display when it is not condemned and its monitor is up. -/
def liveRecord? (s : ControllerSystem) (d : UInt64) : Option TemporaryDisplayRecord :=
  (s.locked.displaysById[d]?).filter fun r ↦
    !r.pendingDeparture && s.device[d]? == some r.generation

theorem liveRecord?_eq_some {s : ControllerSystem} {d : UInt64} {r : TemporaryDisplayRecord} :
    liveRecord? s d = some r ↔ s.locked.displaysById[d]? = some r ∧
      r.pendingDeparture = false ∧ s.device[d]? = some r.generation := by
  rw [liveRecord?, Option.filter_eq_some_iff]
  simp

/-- A backend call takes no monitor from a live record but the one its own call is about, and a
create that gives up its record before the monitor was there finds it under the lease it wrote it
under. -/
def keepsAgreement (s : ControllerSystem) : ControllerEvent → Bool
  | .serve id outcome =>
    (s.calls[id]?).all fun call ↦
      (s.device.effect call.frame.backendCall outcome).displayId?.all fun d ↦
        (liveRecord? s d).all call.frame.answersFor
  | .relock id =>
    (s.calls[id]?).all fun call ↦
      (call.phase.reply? controller.busy).all fun reply ↦
        (rolledBack? call.frame reply.error).all fun record ↦
          (s.locked.displaysById[record.displayId]?).all fun r ↦
            r.pendingDeparture || r.generation != record.generation || r.leaseId == record.leaseId
  | _ => true

section Guard

variable {s : ControllerSystem} {id : Nat} {call : Call ControllerOp Frame BackendDisplayResult}

theorem keepsAgreement_serve {outcome : BackendOutcome}
    (hok : keepsAgreement s (.serve id outcome) = true) (hcall : s.calls[id]? = some call)
    {d : UInt64} (hd : (s.device.effect call.frame.backendCall outcome).displayId? = some d)
    {r : TemporaryDisplayRecord} (hr : liveRecord? s d = some r) :
    call.frame.answersFor r = true := by
  rw [keepsAgreement, hcall, Option.all_some, hd, Option.all_some, hr] at hok
  exact hok

theorem keepsAgreement_relock (hok : keepsAgreement s (.relock id) = true)
    (hcall : s.calls[id]? = some call) {reply : BackendDisplayResult}
    (hready : call.phase.reply? controller.busy = some reply)
    {record r : TemporaryDisplayRecord} (hrolled : rolledBack? call.frame reply.error = some record)
    (hr : s.locked.displaysById[record.displayId]? = some r) (hlive : r.pendingDeparture = false)
    (hgeneration : r.generation = record.generation) : r.leaseId = record.leaseId := by
  rw [keepsAgreement, hcall, Option.all_some, hready, Option.all_some, hrolled, Option.all_some,
    hr, Option.all_some] at hok
  simpa [hlive, hgeneration] using hok

end Guard

/-! ## One step -/

section Step

variable {s : ControllerSystem} {r r' : TemporaryDisplayRecord}

/-- Only the display, the lease and the generation of a record matter for who accounts for it. -/
theorem AnswersFor.of_record {call : Call ControllerOp Frame BackendDisplayResult}
    (h : AnswersFor call r) (hd : r'.displayId = r.displayId) (hlease : r'.leaseId = r.leaseId)
    (hgeneration : r'.generation = r.generation) : AnswersFor call r' := by
  cases h with
  | unarrived hcreates hrd hrg habsent =>
    exact .unarrived hcreates (hrd.trans hd.symm) (hrg.trans hgeneration.symm) habsent
  | departed hdeparts hrd hrl hrg hanswered hcalled =>
    exact .departed hdeparts (hrd.trans hd.symm) (hrl.trans hlease.symm)
      (hrg.trans hgeneration.symm) hanswered hcalled

/-- Once its call to the backend has been answered, the monitor of an unarrived record is there or
its create still accounts for it. -/
theorem backed_of_serve_unarrived {id : Nat} {op : ControllerOp} {frame : Frame}
    {outcome : BackendOutcome} {record : TemporaryDisplayRecord}
    (hcreates : frame.unarrived = some record) (hd : record.displayId = r.displayId)
    (hgeneration : record.generation = r.generation) :
    Backed { s with
      device := s.device.after (s.device.effect frame.backendCall outcome)
      calls := s.calls.insert id { op, frame, phase := .served outcome.reply } } r := by
  have hself := OrdMap.getElem?_insert s.calls id id
    { op, frame, phase := Phase.served outcome.reply }
  rw [if_pos rfl] at hself
  by_cases harrived : frame.arriving ≠ none ∧ outcome.reply.error = .none
  · rcases Option.ne_none_iff_exists'.mp harrived.1 with ⟨arriving, harriving⟩
    cases (Frame.arriving_unarrived harriving).symm.trans hcreates
    left
    rw [Frame.arriving_backendCall harriving, ← hd, ← hgeneration]
    cases outcome with
    | succeeded => exact (OrdMap.getElem?_insert ..).trans (if_pos rfl)
    | failed => exact absurd harrived.2 fun h ↦ nomatch h
  · refine .inr ⟨id, _, hself,
      .unarrived hcreates hd hgeneration fun reply hreply harriving hok ↦ ?_⟩
    cases hreply
    exact harrived ⟨harriving, hok⟩

theorem Backed.served {id : Nat} {op : ControllerOp} {frame : Frame} {outcome : BackendOutcome}
    (hcall : s.calls[id]? = some { op, frame })
    (hok : keepsAgreement s (.serve id outcome) = true)
    (hr : s.locked.displaysById[r.displayId]? = some r) (hlive : r.pendingDeparture = false)
    (h : Backed s r) :
    Backed { s with
      device := s.device.after (s.device.effect frame.backendCall outcome)
      calls := s.calls.insert id { op, frame, phase := .served outcome.reply } } r := by
  rcases h with hmonitor | ⟨i, call, hi, hanswers⟩
  · by_cases hd : (s.device.effect frame.backendCall outcome).displayId? = some r.displayId
    · have hguard := keepsAgreement_serve hok hcall hd
        (liveRecord?_eq_some.mpr ⟨hr, hlive, hmonitor⟩)
      rcases Frame.answersFor_iff.mp hguard with
        ⟨record, hcreates, hrd, hrg⟩ | ⟨record, hdeparts, hrd, hrl, hrg⟩
      · exact backed_of_serve_unarrived hcreates hrd hrg
      · exact .inr ⟨id, _, (OrdMap.getElem?_insert ..).trans (if_pos rfl),
          .departed hdeparts hrd hrl hrg rfl outcome.reply_error_ne_busy⟩
    · exact .inl ((Monitors.getElem?_after_of_ne hd).trans hmonitor)
  · by_cases hid : id = i
    · cases hid
      cases hcall.symm.trans hi
      cases hanswers with
      | unarrived hcreates hrd hrg => exact backed_of_serve_unarrived hcreates hrd hrg
      | departed _ _ _ _ hanswered => cases hanswered
    · exact .inr ⟨i, call, (OrdMap.getElem?_insert ..).trans ((if_neg hid).trans hi), hanswers⟩

theorem Backed.timedOut {id : Nat} {op : ControllerOp} {frame : Frame}
    (hcall : s.calls[id]? = some { op, frame }) (h : Backed s r) :
    Backed { s with calls := s.calls.insert id { op, frame, phase := .timedOut } } r := by
  rcases h with hmonitor | ⟨i, call, hi, hanswers⟩
  · exact .inl hmonitor
  · by_cases hid : id = i
    · cases hid
      cases hcall.symm.trans hi
      refine .inr ⟨id, _, (OrdMap.getElem?_insert ..).trans (if_pos rfl), ?_⟩
      cases hanswers with
      | unarrived hcreates hrd hrg => exact .unarrived hcreates hrd hrg fun _ h ↦ nomatch h
      | departed _ _ _ _ hanswered => cases hanswered
    · exact .inr ⟨i, call, (OrdMap.getElem?_insert ..).trans ((if_neg hid).trans hi), hanswers⟩

/-- A stretch of one call takes nothing from a record that another call accounts for, or that has
its monitor. -/
theorem Backed.advance {id : Nat} {op : ControllerOp} {turn : Turn} (h : Backed s r)
    (hd : r'.displayId = r.displayId) (hlease : r'.leaseId = r.leaseId)
    (hgeneration : r'.generation = r.generation)
    (hself : ∀ call, s.calls[id]? = some call → AnswersFor call r →
      Backed (s.advance id op turn) r') : Backed (s.advance id op turn) r' := by
  rcases h with hmonitor | ⟨i, call, hi, hanswers⟩
  · rw [← hd, ← hgeneration] at hmonitor
    exact .inl hmonitor
  · by_cases hid : id = i
    · cases hid
      exact hself call hi hanswers
    · exact .inr ⟨i, call, (getElem?_advance_of_ne hid).trans hi,
        hanswers.of_record hd hlease hgeneration⟩

/-- The call that has just written a record accounts for it. -/
theorem backed_of_created {id : Nat} {op : ControllerOp} {turn : Turn} {frame : Frame}
    (hyield : turn.2 = .yield frame) (hcreates : frame.unarrived = some r') :
    Backed (s.advance id op turn) r' := by
  refine .inr ⟨id, { op, frame }, ?_, .unarrived hcreates rfl rfl fun _ h ↦ nomatch h⟩
  rw [getElem?_advance, if_pos rfl, hyield]

/-- The call that accounted for a record still does so after its next stretch, unless the record
has gone or is condemned. -/
theorem Agreement.backed_of_resume (h : Agreement s) {id : Nat} {op : ControllerOp} {frame : Frame}
    {phase : Phase BackendDisplayResult} {reply : BackendDisplayResult}
    (hcall : s.calls[id]? = some { op, frame, phase })
    (hready : phase.reply? controller.busy = some reply)
    (hok : keepsAgreement s (.relock id) = true) {d : UInt64}
    (hr : s.locked.displaysById[d]? = some r) (hlive : r.pendingDeparture = false)
    (hr' : (resume s.locked frame reply).1.displaysById[d]? = some r')
    (hlive' : r'.pendingDeparture = false) (hlease : r'.leaseId = r.leaseId)
    (hgeneration : r'.generation = r.generation)
    (hanswers : AnswersFor { op, frame, phase } r) :
    Backed (s.advance id op (resume s.locked frame reply)) r' := by
  have hkeyed' : (resume s.locked frame reply).1.RecordsKeyed :=
    (resume_reaches ..).invariant (fun _ _ hk ↦ hk.of_change) h.keyed
  cases (h.keyed d r hr).1
  have hd' := (hkeyed' _ r' hr').1
  cases hanswers with
  | @unarrived record hcreates hrd hrg habsent =>
    rcases resume_unarrived h.keyed hcreates reply with
      ⟨next, hnext, hcreates'⟩ | ⟨herror, created, reserved, hframe⟩ | ⟨hrolled, hgone⟩
    · refine .inr ⟨id, { op, frame := next }, ?_,
        .unarrived hcreates' (hrd.trans hd'.symm) (hrg.trans hgeneration.symm)
          fun _ h ↦ nomatch h⟩
      rw [getElem?_advance, if_pos rfl, hnext]
    · have hcalled : reply.error ≠ .busy := by
        rw [herror]
        exact fun h ↦ nomatch h
      have hserved := served_of_ready hready hcalled
      refine absurd herror (habsent reply hserved ?_)
      rw [hframe]
      exact fun h ↦ nomatch h
    · rw [← hrd] at hr hr'
      have hsame := keepsAgreement_relock hok hcall hready hrolled hr hlive hrg.symm
      have hcurrent := temporaryDisplayGenerationIsCurrent_iff.mpr
        ⟨r', hr', hlease.trans hsame, hgeneration.trans hrg.symm⟩
      rw [hgone] at hcurrent
      cases hcurrent
  | @departed record reply₁ hdeparts hrd hrl hrg hanswered hcalled =>
    cases hanswered
    cases hready
    rw [resume_departing (h.frames _ _ hcall) hdeparts, ← hrd] at hr'
    have hpending := settleDeparture_settles h.keyed hcalled hr' (hlease.trans hrl.symm)
      (hgeneration.trans hrg.symm)
    rw [hlive'] at hpending
    cases hpending

theorem Agreement.relocked (h : Agreement s) {id : Nat} {op : ControllerOp} {frame : Frame}
    {phase : Phase BackendDisplayResult} {reply : BackendDisplayResult}
    (hcall : s.calls[id]? = some { op, frame, phase })
    (hready : phase.reply? controller.busy = some reply)
    (hok : keepsAgreement s (.relock id) = true) {d : UInt64}
    (hr' : (resume s.locked frame reply).1.displaysById[d]? = some r')
    (hlive' : r'.pendingDeparture = false) :
    Backed (s.advance id op (resume s.locked frame reply)) r' := by
  have hlive {r : TemporaryDisplayRecord} (hevolves : r.Evolves r') :
      r.pendingDeparture = false := by
    rw [← Bool.not_eq_true]
    exact fun hp ↦ Bool.false_ne_true (hlive'.symm.trans (hevolves.pending hp))
  by_cases hframe : IsReclaim frame
  · -- The lease changes under the record, but no departure of it is answered meanwhile: the
    -- reclaim itself holds the slot.
    rcases hframe with ⟨request, now, rfl⟩
    rcases (resume_reclaim s.locked request now reply).2 with ⟨herror, hstore⟩ | hstore
    · rw [hstore] at hr'
      rcases reclaim_record hr' with ⟨r, hr, hevolves, -⟩
      rcases h.backed d r hr (hlive hevolves) with hmonitor | ⟨i, call, hi, hanswers⟩
      · rw [← hevolves.displayId, ← hevolves.generation] at hmonitor
        exact .inl hmonitor
      · by_cases hid : id = i
        · cases hid
          cases hcall.symm.trans hi
          cases hanswers with
          | unarrived hcreates => cases hcreates
          | departed hdeparts => cases hdeparts
        · refine .inr ⟨i, call, (getElem?_advance_of_ne hid).trans hi, ?_⟩
          cases hanswers with
          | unarrived hcreates hrd hrg habsent =>
            exact .unarrived hcreates (hrd.trans hevolves.displayId.symm)
              (hrg.trans hevolves.generation.symm) habsent
          | departed _ _ _ _ hanswered =>
            have hcalled : reply.error ≠ .busy := by
              rw [herror]
              decide
            have hserved := served_of_ready hready hcalled
            refine absurd (h.slot id i _ call hcall hi ?_ ?_) hid
            · rw [hserved]
              rfl
            · rw [hanswered]
              rfl
    · rw [hstore] at hr'
      refine (h.backed d r' hr' hlive').advance rfl rfl rfl fun call hi hanswers ↦ ?_
      cases hcall.symm.trans hi
      cases hanswers with
      | unarrived hcreates => cases hcreates
      | departed hdeparts => cases hdeparts
  · rcases (resume_effect s.locked hframe reply).record hr' with
      ⟨r, hr, hevolves, hlease⟩ | ⟨-, next, hyield, hcreates, -⟩
    · refine (h.backed d r hr (hlive hevolves)).advance hevolves.displayId hlease
        hevolves.generation fun call hi hanswers ↦ ?_
      cases hcall.symm.trans hi
      exact h.backed_of_resume hcall hready hok hr (hlive hevolves) hr' hlive' hlease
        hevolves.generation hanswers
    · exact backed_of_created hyield hcreates

theorem Agreement.move {s' : ControllerSystem} {e : ControllerEvent} (h : Agreement s)
    (hok : keepsAgreement s e = true) (hmove : Move controller contract s e s') : Agreement s' where
  toSound := h.toSound.move hmove
  backed d r' hr' hlive' := by
    cases hmove with
    | @started id op hfresh =>
      rcases (start_effect s.locked op).record hr' with
        ⟨r, hr, hevolves, hlease⟩ | ⟨-, frame, hyield, hcreates, -⟩
      · have hlive : r.pendingDeparture = false := by
          rw [← Bool.not_eq_true]
          exact fun hp ↦ Bool.false_ne_true (hlive'.symm.trans (hevolves.pending hp))
        refine (h.backed d r hr hlive).advance hevolves.displayId hlease hevolves.generation
          fun call hi _ ↦ ?_
        rw [hfresh] at hi
        cases hi
      · exact backed_of_created hyield hcreates
    | served hcall _ hanswer =>
      rcases contract_serve hanswer with ⟨rfl, rfl⟩
      have hd := (h.keyed d r' hr').1
      rw [← hd] at hr'
      exact (h.backed _ r' hr' hlive').served hcall hok hr' hlive'
    | timedOut hcall => exact (h.backed d r' hr' hlive').timedOut hcall
    | relocked hcall hready => exact h.relocked hcall hready hok hr' hlive'

end Step

/-! ## Runs -/

theorem agreement_initial (maxPermanentDisplays maxTemporaryDisplays : UInt32)
    (reservations : OrdMap UInt64 UInt32) (initialManifest : Option DisplayManifest) :
    Agreement
      (initially maxPermanentDisplays maxTemporaryDisplays reservations initialManifest) where
  toSound := sound_initial (new_fresh ..).1
  backed d r hr := by
    rw [initially, (new_fresh ..).1] at hr
    simp at hr

/-- **Store and backend agree whenever no call is under way**, in every run in which no backend
call takes the monitor of a live record it is not about and no create loses track of the record it
has to take back. -/
theorem agreement_of_steps {maxPermanentDisplays maxTemporaryDisplays : UInt32}
    {reservations : OrdMap UInt64 UInt32} {initialManifest : Option DisplayManifest}
    {s : ControllerSystem}
    (hrun : Steps controller contract keepsAgreement
      (initially maxPermanentDisplays maxTemporaryDisplays reservations initialManifest) s)
    (hidle : s.idle = true) (d : UInt64) (r : TemporaryDisplayRecord)
    (hr : s.locked.displaysById[d]? = some r) (hlive : r.pendingDeparture = false) :
    s.device[d]? = some r.generation := by
  have h : Agreement s := hrun.invariant (fun _ _ _ h hok hmove ↦ h.move hok hmove)
    (agreement_initial ..)
  have hnone (id : Nat) : s.calls[id]? = none := by
    rw [System.idle, ExtTreeMap.isEmpty_iff] at hidle
    rw [hidle]
    simp
  rcases h.backed d r hr hlive with hmonitor | ⟨id, call, hcall, -⟩
  · rwa [(h.keyed d r hr).1] at hmonitor
  · rw [hnone id] at hcall
    cases hcall

/-- Two displays under one lease, one of them removed while a reclaim of the other does not get the
slot. -/
def removedDuringReclaim : List ControllerEvent :=
  exampleArrival 0 kMinOpaqueLeaseId 1 ++ exampleArrival 1 kMinOpaqueLeaseId 2 ++
    [.start 2 (.removeTemporaryDisplay { leaseId := kMinOpaqueLeaseId, displayId := 2 }),
      .start 3 (.reclaimTemporaryDisplay
        { displayId := 1, newLeaseId := kMinOpaqueLeaseId + 1,
          ownerCapability := exampleCapability } 0),
      .serve 2 .succeeded, .timeOut 3, .relock 3, .relock 2]

theorem removedDuringReclaim_agrees :
    ∃ (s : ControllerSystem) (r : TemporaryDisplayRecord),
      execute controller contract keepsAgreement (initially 0 4) removedDuringReclaim = some s ∧
        s.locked.displaysById[(1 : UInt64)]? = some r ∧
        s.device[(1 : UInt64)]? = some r.generation := by
  have hrun : (execute controller contract keepsAgreement (initially 0 4)
      removedDuringReclaim).any (fun s ↦ s.idle &&
        (s.locked.displaysById[(1 : UInt64)]?).any fun r ↦ !r.pendingDeparture) = true := by
    decide
  rcases (Option.any_eq_true _ _).mp hrun with ⟨s, hs, hfinal⟩
  simp only [Bool.and_eq_true, Option.any_eq_true, Bool.not_eq_eq_eq_not,
    Bool.not_true] at hfinal
  rcases hfinal with ⟨hidle, r, hr, hlive⟩
  exact ⟨s, r, hs, hr, agreement_of_steps (steps_of_execute hs) hidle 1 r hr hlive⟩

/-- A display is reclaimed while a removal under its old lease waits for the slot. -/
def reclaimedDuringRemoval : List ControllerEvent :=
  exampleArrival 0 kMinOpaqueLeaseId 1 ++
    [.start 1 (.removeTemporaryDisplay { leaseId := kMinOpaqueLeaseId, displayId := 1 }),
      .start 2 (.reclaimTemporaryDisplay
        { displayId := 1, newLeaseId := kMinOpaqueLeaseId + 1,
          ownerCapability := exampleCapability } 0),
      .serve 2 .succeeded, .relock 2, .serve 1 .succeeded, .relock 1]

/-- The removal departs the monitor, and then leaves the record alone because its lease is another
one. -/
theorem reclaimed_without_monitor :
    ¬∀ (s : ControllerSystem), Steps controller contract (fun _ _ ↦ true) (initially 0 4) s →
      s.idle = true → ∀ (d : UInt64) (r : TemporaryDisplayRecord),
        s.locked.displaysById[d]? = some r → r.pendingDeparture = false →
          s.device[d]? = some r.generation := by
  intro h
  have hrun : (execute controller contract (fun _ _ ↦ true) (initially 0 4)
      reclaimedDuringRemoval).any (fun s ↦ s.idle && s.device[(1 : UInt64)]? == none &&
        (s.locked.displaysById[(1 : UInt64)]?).any fun r ↦ !r.pendingDeparture) = true := by
    decide
  rcases (Option.any_eq_true _ _).mp hrun with ⟨s, hs, hfinal⟩
  simp only [Bool.and_eq_true, beq_iff_eq, Option.any_eq_true, Bool.not_eq_eq_eq_not,
    Bool.not_true] at hfinal
  rcases hfinal with ⟨⟨hidle, hmonitor⟩, r, hr, hlive⟩
  rw [h s (steps_of_execute hs) hidle 1 r hr hlive] at hmonitor
  cases hmonitor

end VirtualDisplay
