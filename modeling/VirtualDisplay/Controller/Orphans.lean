import VirtualDisplay.Controller.Agreement
import VirtualDisplay.Controller.Records

/-!
# No monitor without a record

A monitor whose record has gone would stay up for good: nothing in the store leads to it any more.
When no call is under way, every monitor should therefore have a record of its display and its
generation.  `Owned` is the invariant behind it.  Between two stretches a create can stand in for
the record: one whose monitor has just arrived, and one that departs its own monitor because its
record has gone meanwhile.

That last departure is asked for once, and what it returns is thrown away.  If it was refused or
never reached the backend the monitor is left over.  `dropsMonitor` is that step,
`owned_of_steps` says that runs without it, without abandoned records and without a generation
in use twice leave no monitor behind, and `removedBeforeArrival_orphan` is a run with it.
-/

set_option autoImplicit false

namespace VirtualDisplay

open Std SlotCalls DisplayStore Controller

/-! ## The conditions on a step -/

/-- A condemned record is abandoned to its proven owner. -/
def abandonsRecord (s : ControllerSystem) : ControllerEvent → Bool
  | .relock id =>
    (s.calls[id]?).any fun call ↦
      match call.frame with
      | .createHeal create record =>
        (call.phase.reply? controller.busy).any (·.error == .failed) &&
          s.locked.temporaryDisplayGenerationIsCurrent record &&
          (s.locked.abandonOrMark record create.ownerCapability).2
      | _ => false
  | _ => false

/-- A create whose record has gone was not able to depart its monitor, which is still up. -/
def dropsMonitor (s : ControllerSystem) : ControllerEvent → Bool
  | .relock id =>
    (s.calls[id]?).any fun call ↦
      match call.frame with
      | .createDepartGone record =>
        (call.phase.reply? controller.busy).any (·.error != .none) &&
          s.device[record.displayId]? == some record.generation &&
          !(s.locked.displaysById[record.displayId]?).any (·.generation == record.generation)
      | _ => false
  | _ => false

/-- The generation the next record would get is still that of a monitor, or of a create that waits
for its monitor.  The counter starts at one and has to go all the way round for that. -/
def generationInUse (s : ControllerSystem) : Bool :=
  OrdMap.anyEntry s.device (fun _ generation ↦
      generation == s.locked.nextTemporaryDisplayGeneration) ||
    OrdMap.anyEntry s.calls fun _ call ↦ call.frame.unarrived.any fun record ↦
      record.generation == s.locked.nextTemporaryDisplayGeneration

/-- No generation is used twice, no record abandoned and no monitor dropped. -/
def keepsOwners (s : ControllerSystem) (e : ControllerEvent) : Bool :=
  !generationInUse s && !abandonsRecord s e && !dropsMonitor s e

section Guard

variable {s : ControllerSystem} {id : Nat} {op : ControllerOp}
  {phase : Phase BackendDisplayResult} {reply : BackendDisplayResult}

theorem keepsOwners_unused {e : ControllerEvent} (hok : keepsOwners s e = true) :
    generationInUse s = false := by
  rw [keepsOwners, Bool.and_eq_true, Bool.and_eq_true, Bool.not_eq_true'] at hok
  exact hok.1.1

theorem ne_of_monitor (hunused : generationInUse s = false) {d g : UInt64}
    (hg : s.device[d]? = some g) : g ≠ s.locked.nextTemporaryDisplayGeneration := by
  rw [generationInUse, Bool.or_eq_false_iff, OrdMap.anyEntry_eq_false] at hunused
  exact beq_eq_false_iff_ne.mp (hunused.1 d g hg)

theorem ne_of_unarrived (hunused : generationInUse s = false)
    {call : Call ControllerOp Frame BackendDisplayResult} (hcall : s.calls[id]? = some call)
    {record : TemporaryDisplayRecord} (hcreates : call.frame.unarrived = some record) :
    record.generation ≠ s.locked.nextTemporaryDisplayGeneration := by
  rw [generationInUse, Bool.or_eq_false_iff, OrdMap.anyEntry_eq_false,
    OrdMap.anyEntry_eq_false] at hunused
  have h := hunused.2 id call hcall
  rw [hcreates, Option.any_some] at h
  exact beq_eq_false_iff_ne.mp h

theorem keepsOwners_abandoned {call : CreateCall} {record : TemporaryDisplayRecord}
    (hok : keepsOwners s (.relock id) = true)
    (hcall : s.calls[id]? = some { op, frame := .createHeal call record, phase })
    (hready : phase.reply? controller.busy = some reply) (hfailed : reply.error = .failed)
    (hcurrent : s.locked.temporaryDisplayGenerationIsCurrent record = true) :
    (s.locked.abandonOrMark record call.ownerCapability).2 = false := by
  rw [keepsOwners, Bool.and_eq_true, Bool.and_eq_true] at hok
  have habandons := hok.1.2
  simpa [abandonsRecord, hcall, hready, hfailed, hcurrent] using habandons

theorem keepsOwners_dropped {record : TemporaryDisplayRecord}
    (hok : keepsOwners s (.relock id) = true)
    (hcall : s.calls[id]? = some { op, frame := .createDepartGone record, phase })
    (hready : phase.reply? controller.busy = some reply) (herror : reply.error ≠ .none)
    (hmonitor : s.device[record.displayId]? = some record.generation) :
    ∃ r, s.locked.displaysById[record.displayId]? = some r ∧
      r.generation = record.generation := by
  rw [keepsOwners, Bool.and_eq_true, Bool.and_eq_true] at hok
  have hdrops := hok.2
  simpa [dropsMonitor, hcall, hready, herror, hmonitor, Option.any_eq_true] using hdrops

end Guard

/-! ## Which calls stand in for a record -/

/-- The create of a call has not got its monitor. -/
def NotArrived (call : Call ControllerOp Frame BackendDisplayResult) : Prop :=
  ∀ reply, call.phase = .served reply → call.frame.arriving ≠ none → reply.error ≠ .none

/-- The call is going to see to this monitor. -/
inductive Retires (call : Call ControllerOp Frame BackendDisplayResult) (d g : UInt64) : Prop
  | arrived {record : TemporaryDisplayRecord} {reply : BackendDisplayResult}
      (arriving : call.frame.arriving = some record) (display : record.displayId = d)
      (generation : record.generation = g) (answered : call.phase = .served reply)
      (ok : reply.error = .none)
  | gone {record : TemporaryDisplayRecord} (departs : call.frame = .createDepartGone record)
      (display : record.displayId = d) (generation : record.generation = g)

/-- The monitor has its record, or a call is going to see to it. -/
def OwnedMonitor (s : ControllerSystem) (d g : UInt64) : Prop :=
  (∃ r, s.locked.displaysById[d]? = some r ∧ r.generation = g) ∨
    ∃ (id : Nat) (call : Call ControllerOp Frame BackendDisplayResult),
      s.calls[id]? = some call ∧ Retires call d g

/-- Each monitor has a record or a call that knows it, in a sound state. -/
structure Owned (s : ControllerSystem) : Prop extends Sound s where
  owned : ∀ (d g : UInt64), s.device[d]? = some g → OwnedMonitor s d g
  unarrived : ∀ (id : Nat) (call : Call ControllerOp Frame BackendDisplayResult)
    (record : TemporaryDisplayRecord), s.calls[id]? = some call →
      call.frame.unarrived = some record → NotArrived call →
        s.device[record.displayId]? ≠ some record.generation
  departed : ∀ (id : Nat) (call : Call ControllerOp Frame BackendDisplayResult)
    (reply : BackendDisplayResult) (d g : UInt64), s.calls[id]? = some call →
      call.phase = .served reply → reply.error = .none →
        call.frame.backendCall = .departTemporaryDisplay d g →
          s.device.departureHits d g = false
  distinct : ∀ (id id' : Nat) (call call' : Call ControllerOp Frame BackendDisplayResult)
    (record record' : TemporaryDisplayRecord), s.calls[id]? = some call →
      s.calls[id']? = some call' → call.frame.unarrived = some record →
        call'.frame.unarrived = some record' → record.generation = record'.generation → id = id'

/-! ## The create behind a frame -/

section Creates

variable {s : DisplayStore} {frame next : Frame} {record : TemporaryDisplayRecord}

/-- A create that has written its record gave it the next generation. -/
theorem unarrived_of_start {op : ControllerOp} (hyield : (start s op).2 = .yield frame)
    (hcreates : frame.unarrived = some record) :
    record.generation = s.nextTemporaryDisplayGeneration := by
  have hstart := start_next hyield
  generalize (start s op).1 = s' at hstart
  cases hstart with
  | creates _ hwritten =>
    rw [createdFrame_unarrived] at hcreates
    cases hcreates
    exact hwritten.generation
  | _ => cases hcreates

theorem unarrived_of_resume {reply : BackendDisplayResult}
    (hyield : (resume s frame reply).2 = .yield next) (hcreates : next.unarrived = some record) :
    (frame.unarrived = some record ∧ (frame.arriving ≠ none → reply.error ≠ .none)) ∨
      record.generation = s.nextTemporaryDisplayGeneration := by
  have hnext := resume_next hyield
  generalize (resume s frame reply).1 = s' at hnext
  cases hnext with
  | @healed call pendingRecord _ created record' s₁ _ hkept hwritten =>
    rw [createdFrame_unarrived] at hcreates
    cases hcreates
    have hsame : s₁.nextTemporaryDisplayGeneration = s.nextTemporaryDisplayGeneration := by
      rcases hkept with ⟨-, rfl⟩ | ⟨-, -, habandon⟩
      · exact (s.removeIfCurrent_keeps ..).nextGeneration
      · have hkeeps := s.abandonOrMark_keeps pendingRecord call.ownerCapability
        rw [habandon] at hkeeps
        exact hkeeps.nextGeneration
    exact .inr (hwritten.generation.trans hsame)
  | reserved =>
    cases hcreates
    exact .inl ⟨rfl, fun h ↦ absurd rfl h⟩
  | arrivalFailed hfailed =>
    cases hcreates
    exact .inl ⟨rfl, fun _ ↦ hfailed⟩
  | _ => cases hcreates

/-- Once its monitor has arrived, a create finds its record or goes on to depart the monitor. -/
theorem resume_arrived {reply : BackendDisplayResult} (harriving : frame.arriving = some record)
    (hok : reply.error = .none) :
    (resume s frame reply).1 = s ∧
      ((∃ r, s.displaysById[record.displayId]? = some r ∧ r.generation = record.generation) ∨
        (resume s frame reply).2 = .yield (.createDepartGone record)) := by
  cases frame with
  | createArrive created createdRecord identityReserved =>
    cases harriving
    rw [resume, arrived, if_neg (not_not.mpr hok)]
    split
    · exact ⟨rfl, .inr rfl⟩
    · rename_i r hr
      split_ifs with hother hpending
      · exact ⟨rfl, .inr rfl⟩
      · exact ⟨rfl, .inl ⟨r, hr, not_not.mp (not_or.mp hother).2⟩⟩
      · exact ⟨rfl, .inl ⟨r, hr, not_not.mp (not_or.mp hother).2⟩⟩
  | _ => cases harriving

end Creates

/-- A monitor that is there after a backend call was there before or is the one that arrived. -/
theorem Monitors.of_getElem?_after {monitors : Monitors} {effect : MonitorEffect} {d g : UInt64}
    (h : (monitors.after effect)[d]? = some g) :
    effect = .placed d g ∨ monitors[d]? = some g := by
  cases effect with
  | unchanged => exact .inr h
  | placed displayId generation =>
    rw [after, OrdMap.getElem?_insert] at h
    split_ifs at h with hd
    · cases hd
      cases h
      exact .inl rfl
    · exact .inr h
  | cleared displayId =>
    rw [after, OrdMap.getElem?_erase] at h
    split_ifs at h
    exact .inr h

/-- After a departure that succeeded there is nothing it would get through to. -/
theorem Monitors.departureHits_after {monitors : Monitors} {d g : UInt64}
    {outcome : BackendOutcome} (hok : outcome.reply.error = .none) :
    (monitors.after (monitors.effect (.departTemporaryDisplay d g) outcome)).departureHits d g =
      false := by
  cases outcome with
  | succeeded =>
    rw [effect]
    split_ifs with hhits
    · rw [after, departureHits, OrdMap.getElem?_erase, if_pos rfl, Option.any_none]
    · exact Bool.not_eq_true _ ▸ hhits
  | failed => cases hok

/-! ## One step -/

section Step

variable {s : ControllerSystem} {id : Nat} {op : ControllerOp} {frame : Frame}

/-- A call after its phase alone has changed. -/
theorem frame_of_insert {phase phase' : Phase BackendDisplayResult}
    (hcall : s.calls[id]? = some { op, frame, phase }) {i : Nat}
    {call : Call ControllerOp Frame BackendDisplayResult}
    (hi : (s.calls.insert id { op, frame, phase := phase' })[i]? = some call) :
    ∃ call', s.calls[i]? = some call' ∧ call'.frame = call.frame := by
  rw [OrdMap.getElem?_insert] at hi
  split_ifs at hi with hid
  · cases hid
    cases hi
    exact ⟨_, hcall, rfl⟩
  · exact ⟨call, hi, rfl⟩

theorem Owned.served {outcome : BackendOutcome} (h : Owned s)
    (hcall : s.calls[id]? = some { op, frame }) (hslot : s.slotHeld = false)
    (hsound : Sound { s with
      device := s.device.after (s.device.effect frame.backendCall outcome)
      calls := s.calls.insert id { op, frame, phase := .served outcome.reply } }) :
    Owned { s with
      device := s.device.after (s.device.effect frame.backendCall outcome)
      calls := s.calls.insert id { op, frame, phase := .served outcome.reply } } where
  toSound := hsound
  owned d g hg := by
    rcases Monitors.of_getElem?_after hg with hplaced | hg
    · rcases effect_placed hplaced with ⟨hok, record, harriving, hd, hgeneration⟩
      exact .inr ⟨id, _, (OrdMap.getElem?_insert ..).trans (if_pos rfl),
        .arrived harriving hd hgeneration rfl hok⟩
    · rcases h.owned d g hg with hrecord | ⟨i, call, hi, hretires⟩
      · exact .inl hrecord
      · by_cases hid : id = i
        · cases hid
          cases hcall.symm.trans hi
          refine .inr ⟨id, _, (OrdMap.getElem?_insert ..).trans (if_pos rfl), ?_⟩
          cases hretires with
          | arrived _ _ _ hanswered => cases hanswered
          | gone hdeparts hd hgeneration => exact .gone hdeparts hd hgeneration
        · exact .inr ⟨i, call, (OrdMap.getElem?_insert ..).trans ((if_neg hid).trans hi),
            hretires⟩
  unarrived i call record hi hcreates hnot hmonitor := by
    rcases Monitors.of_getElem?_after hmonitor with hplaced | hmonitor
    · rcases effect_placed hplaced with ⟨hok, record', harriving, -, hgeneration⟩
      rcases frame_of_insert hcall hi with ⟨call', hi', hframe⟩
      have hid := h.distinct id i _ call' record' record hcall hi'
        (Frame.arriving_unarrived harriving) (hframe ▸ hcreates) hgeneration
      rw [OrdMap.getElem?_insert, if_pos hid, Option.some_inj] at hi
      cases hi
      refine hnot _ rfl ?_ hok
      rw [harriving]
      exact fun h ↦ nomatch h
    · rw [OrdMap.getElem?_insert] at hi
      split_ifs at hi
      · cases hi
        exact h.unarrived id _ record hcall hcreates (fun _ h ↦ nomatch h) hmonitor
      · exact h.unarrived i call record hi hcreates hnot hmonitor
  departed i call reply d g hi hanswered hok hdeparts := by
    rw [OrdMap.getElem?_insert] at hi
    split_ifs at hi
    · cases hi
      cases hanswered
      dsimp only at hdeparts ⊢
      rw [hdeparts]
      exact Monitors.departureHits_after hok
    · have hfree := slotHeld_eq_false.mp hslot i call hi
      rw [hanswered] at hfree
      cases hfree
  distinct i j call call' record record' hi hj hcreates hcreates' := by
    rcases frame_of_insert hcall hi with ⟨calli, hi', hframe⟩
    rcases frame_of_insert hcall hj with ⟨callj, hj', hframe'⟩
    exact h.distinct i j calli callj record record' hi' hj' (hframe ▸ hcreates)
      (hframe' ▸ hcreates')

theorem Owned.timedOut (h : Owned s) (hcall : s.calls[id]? = some { op, frame })
    (hsound : Sound { s with calls := s.calls.insert id { op, frame, phase := .timedOut } }) :
    Owned { s with calls := s.calls.insert id { op, frame, phase := .timedOut } } where
  toSound := hsound
  owned d g hg := by
    rcases h.owned d g hg with hrecord | ⟨i, call, hi, hretires⟩
    · exact .inl hrecord
    · by_cases hid : id = i
      · cases hid
        cases hcall.symm.trans hi
        refine .inr ⟨id, _, (OrdMap.getElem?_insert ..).trans (if_pos rfl), ?_⟩
        cases hretires with
        | arrived _ _ _ hanswered => cases hanswered
        | gone hdeparts hd hgeneration => exact .gone hdeparts hd hgeneration
      · exact .inr ⟨i, call, (OrdMap.getElem?_insert ..).trans ((if_neg hid).trans hi), hretires⟩
  unarrived i call record hi hcreates hnot := by
    rw [OrdMap.getElem?_insert] at hi
    split_ifs at hi
    · cases hi
      exact h.unarrived id _ record hcall hcreates fun _ h ↦ nomatch h
    · exact h.unarrived i call record hi hcreates hnot
  departed i call reply d g hi hanswered hok hdeparts := by
    rw [OrdMap.getElem?_insert] at hi
    split_ifs at hi
    · cases hi
      cases hanswered
    · exact h.departed i call reply d g hi hanswered hok hdeparts
  distinct i j call call' record record' hi hj hcreates hcreates' := by
    rcases frame_of_insert hcall hi with ⟨calli, hi', hframe⟩
    rcases frame_of_insert hcall hj with ⟨callj, hj', hframe'⟩
    exact h.distinct i j calli callj record record' hi' hj' (hframe ▸ hcreates)
      (hframe' ▸ hcreates')

/-- What the next frame of a call may be about: the record the call was about before, whose
monitor has not arrived, or one with a new generation. -/
def Continues (s : ControllerSystem) (id : Nat) (turn : Turn) : Prop :=
  ∀ (frame : Frame) (record : TemporaryDisplayRecord), turn.2 = .yield frame →
    frame.unarrived = some record →
      (∃ call, s.calls[id]? = some call ∧ call.frame.unarrived = some record ∧ NotArrived call) ∨
        record.generation = s.locked.nextTemporaryDisplayGeneration

theorem Owned.advance {turn : Turn} (h : Owned s) (hunused : generationInUse s = false)
    (hcontinues : Continues s id turn)
    (howned : ∀ (d g : UInt64), s.device[d]? = some g → OwnedMonitor (s.advance id op turn) d g)
    (hsound : Sound (s.advance id op turn)) : Owned (s.advance id op turn) where
  toSound := hsound
  owned := howned
  unarrived i call record hi hcreates hnot := by
    rcases of_getElem?_advance hi with ⟨rfl, frame, hyield, rfl⟩ | ⟨-, hi⟩
    · rcases hcontinues frame record hyield hcreates with
        ⟨call, hcall, hcreates', hnot'⟩ | hgeneration
      · exact h.unarrived id call record hcall hcreates' hnot'
      · exact fun hmonitor ↦ ne_of_monitor hunused hmonitor hgeneration
    · exact h.unarrived i call record hi hcreates hnot
  departed i call reply d g hi hanswered hok hdeparts := by
    rcases of_getElem?_advance hi with ⟨rfl, frame, -, rfl⟩ | ⟨-, hi⟩
    · cases hanswered
    · exact h.departed i call reply d g hi hanswered hok hdeparts
  distinct i j call call' record record' hi hj hcreates hcreates' hgeneration := by
    have hother {k : Nat} {call' : Call ControllerOp Frame BackendDisplayResult}
        {record record' : TemporaryDisplayRecord} {frame : Frame} (hk : s.calls[k]? = some call')
        (hyield : turn.2 = .yield frame) (hcreates : frame.unarrived = some record)
        (hcreates' : call'.frame.unarrived = some record')
        (hgeneration : record.generation = record'.generation) : id = k := by
      rcases hcontinues frame record hyield hcreates with ⟨call, hcall, hcreates, -⟩ | hnew
      · exact h.distinct id k call call' record record' hcall hk hcreates hcreates' hgeneration
      · exact absurd (hgeneration.symm.trans hnew) (ne_of_unarrived hunused hk hcreates')
    rcases of_getElem?_advance hi with ⟨rfl, frame, hyield, rfl⟩ | ⟨-, hi⟩
    · rcases of_getElem?_advance hj with ⟨rfl, -⟩ | ⟨-, hj⟩
      · rfl
      · exact hother hj hyield hcreates hcreates' hgeneration
    · rcases of_getElem?_advance hj with ⟨rfl, frame', hyield', rfl⟩ | ⟨-, hj⟩
      · exact (hother hi hyield' hcreates' hcreates hgeneration.symm).symm
      · exact h.distinct i j call call' record record' hi hj hcreates hcreates' hgeneration

theorem continues_of_start (op : ControllerOp) : Continues s id (start s.locked op) :=
  fun _ _ hyield hcreates ↦ .inr (unarrived_of_start hyield hcreates)

theorem continues_of_resume {phase : Phase BackendDisplayResult} {reply : BackendDisplayResult}
    (hcall : s.calls[id]? = some { op, frame, phase })
    (hready : phase.reply? controller.busy = some reply) :
    Continues s id (resume s.locked frame reply) := by
  intro next record hyield hcreates
  rcases unarrived_of_resume hyield hcreates with ⟨hcreates', hfails⟩ | hgeneration
  · refine .inl ⟨_, hcall, hcreates', fun reply' hreply harriving ↦ ?_⟩
    cases hreply
    cases hready
    exact hfails harriving
  · exact .inr hgeneration

/-- The monitor of a record that goes away has gone before. -/
theorem Owned.retired (h : Owned s) {phase : Phase BackendDisplayResult}
    {reply : BackendDisplayResult} (hcall : s.calls[id]? = some { op, frame, phase })
    (hready : phase.reply? controller.busy = some reply) {record : TemporaryDisplayRecord}
    (hretired : retired? frame reply.error = some record) :
    s.device[record.displayId]? ≠ some record.generation := by
  have hdeparted (hok : reply.error = .none) {d g : UInt64}
      (hdeparts : frame.backendCall = .departTemporaryDisplay d g) :
      s.device.departureHits d g = false := by
    have hserved := served_of_ready hready fun hbusy ↦ nomatch hok.symm.trans hbusy
    exact h.departed id _ reply d g hcall hserved hok hdeparts
  have hgone {d g : UInt64} (hmiss : s.device.departureHits d g = false)
      (hg : g = 0 ∨ g = record.generation) (hd : d = record.displayId) :
      s.device[record.displayId]? ≠ some record.generation := by
    intro hmonitor
    rw [← Bool.not_eq_true, Monitors.departureHits_iff] at hmiss
    exact hmiss ⟨record.generation, hd ▸ hmonitor, hg⟩
  have hnot (hcreates : frame.unarrived = some record) (herror : frame.arriving ≠ none →
      reply.error ≠ .none) : s.device[record.displayId]? ≠ some record.generation := by
    refine h.unarrived id _ record hcall hcreates fun reply' hreply harriving ↦ ?_
    cases hreply
    cases hready
    exact herror harriving
  have hframe := h.frames id _ hcall
  cases herror : reply.error with
  | none =>
    rw [herror] at hretired
    cases frame with
    | createHeal call pendingRecord =>
      cases hretired
      exact hgone (hdeparted herror rfl) (.inl rfl) rfl
    | createDepartPending createdRecord arrivedRecord =>
      cases hretired
      rcases hframe with ⟨hd, -, hgeneration, -⟩
      exact hgone (hdeparted herror rfl) (.inr hgeneration.symm) hd.symm
    | removeDepart request removing =>
      cases hretired
      cases (show request = requestFor record from hframe)
      exact hgone (hdeparted herror rfl) (.inr rfl) rfl
    | releaseDepart | reapDepart =>
      cases hretired
      exact hgone (hdeparted herror rfl) (.inr rfl) rfl
    | createUnreserve =>
      cases hretired
      exact hnot rfl fun h ↦ absurd rfl h
    | createArrive created createdRecord identityReserved =>
      cases identityReserved <;> cases hretired
    | _ => cases hretired
  | _ =>
    have hne : reply.error ≠ .none := by
      rw [herror]
      exact fun h ↦ nomatch h
    rw [herror] at hretired
    cases frame with
    | createReserve | createUnreserve =>
      cases hretired
      exact hnot rfl fun _ ↦ hne
    | createArrive created createdRecord identityReserved =>
      cases identityReserved <;> cases hretired
      exact hnot rfl fun _ ↦ hne
    | _ => cases hretired

/-- Through a stretch of one call, every monitor keeps its record or the call that sees to it. -/
theorem OwnedMonitor.advance {turn : Turn} {d g : UInt64} (h : OwnedMonitor s d g)
    (hrecord : ∀ r, s.locked.displaysById[d]? = some r → r.generation = g →
      ∃ r', turn.1.displaysById[d]? = some r' ∧ r'.generation = g)
    (hself : ∀ call, s.calls[id]? = some call → Retires call d g →
      OwnedMonitor (s.advance id op turn) d g) : OwnedMonitor (s.advance id op turn) d g := by
  rcases h with ⟨r, hr, hgeneration⟩ | ⟨i, call, hi, hretires⟩
  · exact .inl (hrecord r hr hgeneration)
  · by_cases hid : id = i
    · cases hid
      exact hself call hi hretires
    · exact .inr ⟨i, call, (getElem?_advance_of_ne hid).trans hi, hretires⟩

theorem Owned.relocked (h : Owned s) {phase : Phase BackendDisplayResult}
    {reply : BackendDisplayResult} (hcall : s.calls[id]? = some { op, frame, phase })
    (hready : phase.reply? controller.busy = some reply)
    (hok : keepsOwners s (.relock id) = true) {d g : UInt64} (hg : s.device[d]? = some g) :
    OwnedMonitor (s.advance id op (resume s.locked frame reply)) d g := by
  refine (h.owned d g hg).advance (fun r hr hgeneration ↦ ?_) fun call hi hretires ↦ ?_
  · have hd := (h.keyed d r hr).1
    have hframe := h.frames id _ hcall
    have hfate := resume_record h.keyed hframe hr reply
    generalize (resume s.locked frame reply).1.displaysById[d]? = after at hfate ⊢
    cases hfate with
    | kept => exact ⟨r, rfl, hgeneration⟩
    | retired hretired hsame =>
      refine absurd ?_ (h.retired hcall hready hretired)
      rw [hsame.display, hsame.generation, hd, hgeneration]
      exact hg
    | abandoned hheals hfailed _ hcurrent habandons =>
      cases hheals
      rw [keepsOwners_abandoned hok hcall hready hfailed hcurrent] at habandons
      cases habandons
    | condemned => exact ⟨_, rfl, hgeneration⟩
    | rotated =>
      exact ⟨_, rfl, (TemporaryDisplayRecord.Evolves.rotateRecord ..).generation.trans hgeneration⟩
  · cases hcall.symm.trans hi
    cases hretires with
    | arrived harriving hd hgeneration hanswered hok =>
      cases hanswered
      cases hready
      rcases resume_arrived harriving hok with ⟨hstore, ⟨r, hr, hr'⟩ | hgone⟩
      · rw [hd] at hr
        refine .inl ⟨r, ?_, hr'.trans hgeneration⟩
        rw [System.advance, hstore]
        exact hr
      · refine .inr ⟨id, { op, frame := .createDepartGone _ }, ?_, .gone rfl hd hgeneration⟩
        rw [getElem?_advance, if_pos rfl, hgone]
    | gone hdeparts hd hgeneration =>
      cases hdeparts
      rw [← hd, ← hgeneration] at hg
      by_cases herror : reply.error = .none
      · have hserved := served_of_ready hready fun hbusy ↦ by cases herror.symm.trans hbusy
        have hmiss := h.departed id _ reply _ _ hcall hserved herror rfl
        rw [← Bool.not_eq_true, Monitors.departureHits_iff] at hmiss
        exact absurd ⟨_, hg, .inr rfl⟩ hmiss
      · rcases keepsOwners_dropped hok hcall hready herror hg with ⟨r, hr, hr'⟩
        rw [hd] at hr
        exact .inl ⟨r, hr, hr'.trans hgeneration⟩

theorem Owned.move {s' : ControllerSystem} {e : ControllerEvent} (h : Owned s)
    (hok : keepsOwners s e = true) (hmove : Move controller contract s e s') : Owned s' := by
  have hsound := h.toSound.move hmove
  cases hmove with
  | @started id op hfresh =>
    refine h.advance (keepsOwners_unused hok) (continues_of_start op) (fun d g hg ↦ ?_) hsound
    refine (h.owned d g hg).advance (fun r hr hgeneration ↦ ?_) fun call hi _ ↦ ?_
    · rcases start_record hr op with hkept | ⟨request, now, -, -, hfed⟩
      · exact ⟨r, hkept, hgeneration⟩
      · exact ⟨_, hfed,
          (TemporaryDisplayRecord.Evolves.feedRecord ..).generation.trans hgeneration⟩
    · rw [hfresh] at hi
      cases hi
  | served hcall hslot hanswer =>
    rcases contract_serve hanswer with ⟨rfl, rfl⟩
    exact h.served hcall hslot hsound
  | timedOut hcall => exact h.timedOut hcall hsound
  | relocked hcall hready =>
    exact h.advance (keepsOwners_unused hok) (continues_of_resume hcall hready)
      (fun d g hg ↦ h.relocked hcall hready hok hg) hsound

end Step

/-! ## Runs -/

theorem owned_initial (maxPermanentDisplays maxTemporaryDisplays : UInt32)
    (reservations : OrdMap UInt64 UInt32) (initialManifest : Option DisplayManifest) :
    Owned (initially maxPermanentDisplays maxTemporaryDisplays reservations initialManifest) where
  toSound := sound_initial (new_fresh ..).1
  owned d g hg := by simp [initially] at hg
  unarrived id call record hcall := by simp [initially] at hcall
  departed id call reply d g hcall := by simp [initially] at hcall
  distinct id id' call call' record record' hcall := by simp [initially] at hcall

/-- **No monitor is left without a record when no call is under way**, in every run in which no
record is abandoned, no create fails to depart the monitor whose record has gone, and no generation
is given out again while a monitor or a create still has it. -/
theorem owned_of_steps {maxPermanentDisplays maxTemporaryDisplays : UInt32}
    {reservations : OrdMap UInt64 UInt32} {initialManifest : Option DisplayManifest}
    {s : ControllerSystem}
    (hrun : Steps controller contract keepsOwners
      (initially maxPermanentDisplays maxTemporaryDisplays reservations initialManifest) s)
    (hidle : s.idle = true) (d g : UInt64) (hg : s.device[d]? = some g) :
    ∃ r, s.locked.displaysById[d]? = some r ∧ r.generation = g := by
  have h : Owned s := hrun.invariant (fun _ _ _ h hok hmove ↦ h.move hok hmove) (owned_initial ..)
  have hnone (id : Nat) : s.calls[id]? = none := by
    rw [System.idle, ExtTreeMap.isEmpty_iff] at hidle
    rw [hidle]
    simp
  rcases h.owned d g hg with hrecord | ⟨id, call, hcall, -⟩
  · exact hrecord
  · rw [hnone id] at hcall
    cases hcall

/-- A display is removed before its monitor arrives, and the create gets the slot again to depart
the monitor. -/
def removedBeforeArrival : List ControllerEvent :=
  (exampleArrival 0 kMinOpaqueLeaseId 1).take 3 ++
    [.start 1 (.removeTemporaryDisplay { leaseId := kMinOpaqueLeaseId, displayId := 1 }),
      .serve 1 .succeeded, .relock 1, .serve 0 .succeeded, .relock 0] ++
    exampleArrival 2 kMinOpaqueLeaseId 2

theorem removedBeforeArrival_owned :
    ∃ (s : ControllerSystem) (r : TemporaryDisplayRecord),
      execute controller contract keepsOwners (initially 0 4)
          (removedBeforeArrival ++ [.serve 0 .succeeded, .relock 0]) = some s ∧
        s.device[(2 : UInt64)]? = some 2 ∧
        s.locked.displaysById[(2 : UInt64)]? = some r ∧ r.generation = 2 := by
  have hrun : (execute controller contract keepsOwners (initially 0 4)
      (removedBeforeArrival ++ [.serve 0 .succeeded, .relock 0])).any (fun s ↦ s.idle &&
        s.device[(2 : UInt64)]? == some 2) = true := by
    decide
  rcases (Option.any_eq_true _ _).mp hrun with ⟨s, hs, hfinal⟩
  rw [Bool.and_eq_true, beq_iff_eq] at hfinal
  rcases hfinal with ⟨hidle, hmonitor⟩
  rcases owned_of_steps (steps_of_execute hs) hidle 2 2 hmonitor with ⟨r, hr, hgeneration⟩
  exact ⟨s, r, hs, hmonitor, hr, hgeneration⟩

/-- The create does not get the slot again, and its monitor stays up. -/
theorem removedBeforeArrival_orphan :
    ¬∀ (s : ControllerSystem),
      Steps controller contract (fun s e ↦ !abandonsRecord s e) (initially 0 4) s →
        s.idle = true → ∀ (d g : UInt64), s.device[d]? = some g →
          ∃ r, s.locked.displaysById[d]? = some r ∧ r.generation = g := by
  intro h
  have hrun : (execute controller contract (fun s e ↦ !abandonsRecord s e) (initially 0 4)
      (removedBeforeArrival ++ [.timeOut 0, .relock 0])).any (fun s ↦ s.idle &&
        s.device[(1 : UInt64)]? == some 1 && !s.locked.displaysById.contains 1) = true := by
    decide
  rcases (Option.any_eq_true _ _).mp hrun with ⟨s, hs, hfinal⟩
  simp only [Bool.and_eq_true, beq_iff_eq, Bool.not_eq_eq_eq_not, Bool.not_true] at hfinal
  rcases hfinal with ⟨⟨hidle, hmonitor⟩, hgone⟩
  rcases h s (steps_of_execute hs) hidle 1 1 hmonitor with ⟨r, hr, -⟩
  rw [ExtTreeMap.getElem?_eq_none_of_contains_eq_false hgone] at hr
  cases hr

end VirtualDisplay
