import VirtualDisplay.Controller.Frames

/-!
# The controller over a backend that keeps its contract

`DisplayDriverBackend` (`driver_controller.h`) says what its calls do to the monitors of the
temporary displays, and `contract` is a backend that does that and nothing else.  A call that fails
may have torn the monitor down or not; the outcome of the event decides.

* `MonitorEffect` — what one backend call does to the monitors; `effect_placed` and
  `effect_cleared` say which frames can do it.
* `Sound`, `Sound.run` — what holds of the controller's side in every run over any backend.

## What is here

* `BackendOutcome` — what the event decides: whether the call succeeds, and if not, whether it has
  torn the monitor down.
* `departureHits` — a departure gets through to the monitor that is there, or its generation is in
  the way.
* `effect_display` — a call touches the monitor of a display its frame carries a record of, and no
  other.
* `Sound.run` — the calls, and the records they carry, over any run.
* `ControllerSystem`, `ControllerEvent`, `initially` — the system that `Controller/Orphans.lean` and
  `Controller/Agreement.lean` are about.

The contract is on the monitors of temporary displays.  Adapters and manifests are answered, and
have no effect here.
-/

set_option autoImplicit false

namespace VirtualDisplay

open Std SlotCalls DisplayStore Controller

/-! ## Monitors -/

/-- The monitors of the temporary displays: by display id, the generation each arrived with. -/
abbrev Monitors := OrdMap UInt64 UInt64

/-- How a backend call turns out. -/
inductive BackendOutcome where
  | succeeded (osAdapterLuid : AdapterLuid := {}) (targetId : UInt32 := 0)
  | failed (tornDown : Bool)
  deriving DecidableEq

/-- The backend never answers `Busy`: that stands for its not having been called. -/
def BackendOutcome.reply : BackendOutcome → BackendDisplayResult
  | succeeded osAdapterLuid targetId => { osAdapterLuid, targetId }
  | failed _ => { error := .failed }

/-- What becomes of the monitors in a backend call. -/
inductive MonitorEffect where
  | unchanged
  | placed (displayId generation : UInt64)
  | cleared (displayId : UInt64)
  deriving DecidableEq

/-- The display whose monitor is not what it was. -/
def MonitorEffect.displayId? : MonitorEffect → Option UInt64
  | unchanged => none
  | placed displayId _ | cleared displayId => some displayId

namespace Monitors

/-- A departure that expects this generation gets through to the monitor, which is there. -/
def departureHits (monitors : Monitors) (displayId expectedGeneration : UInt64) : Bool :=
  (monitors[displayId]?).any fun generation ↦
    expectedGeneration == 0 || expectedGeneration == generation

/-- What a backend call does to the monitors, by how it ends.  A failure may have taken the monitor
down or not. -/
def effect (monitors : Monitors) : BackendCall → BackendOutcome → MonitorEffect
  | .arriveTemporaryDisplay descriptor, .succeeded .. =>
    .placed descriptor.displayId descriptor.generation
  | .arriveTemporaryDisplay descriptor, .failed true => .cleared descriptor.displayId
  | .departTemporaryDisplay displayId expectedGeneration, .succeeded ..
  | .departTemporaryDisplay displayId expectedGeneration, .failed true =>
    if monitors.departureHits displayId expectedGeneration then .cleared displayId else .unchanged
  | _, _ => .unchanged

/-- The monitors behind a backend call. -/
def after (monitors : Monitors) : MonitorEffect → Monitors
  | .unchanged => monitors
  | .placed displayId generation => monitors.insert displayId generation
  | .cleared displayId => monitors.erase displayId

theorem getElem?_after_of_ne {monitors : Monitors} {effect : MonitorEffect} {d : UInt64}
    (h : effect.displayId? ≠ some d) : (monitors.after effect)[d]? = monitors[d]? := by
  cases effect with
  | unchanged => rfl
  | placed displayId generation =>
    rw [after, OrdMap.getElem?_insert, if_neg fun heq ↦ h (congrArg some heq)]
  | cleared displayId =>
    rw [after, OrdMap.getElem?_erase, if_neg fun heq ↦ h (congrArg some heq)]

theorem departureHits_iff {monitors : Monitors} {displayId expectedGeneration : UInt64} :
    monitors.departureHits displayId expectedGeneration = true ↔
      ∃ generation, monitors[displayId]? = some generation ∧
        (expectedGeneration = 0 ∨ expectedGeneration = generation) := by
  rw [departureHits, Option.any_eq_true]
  simp

end Monitors

/-- The backend by its contract.  Taking the slot alone cannot fail. -/
def contract : Device Monitors Frame BackendOutcome BackendDisplayResult where
  serve monitors frame outcome :=
    match frame.backendCall, outcome with
    | .slotOnly, .failed _ => none
    | call, outcome => some (monitors.after (monitors.effect call outcome), outcome.reply)

theorem contract_serve {monitors monitors' : Monitors} {frame : Frame} {outcome : BackendOutcome}
    {reply : BackendDisplayResult}
    (h : contract.serve monitors frame outcome = some (monitors', reply)) :
    monitors' = monitors.after (monitors.effect frame.backendCall outcome) ∧
      reply = outcome.reply := by
  rw [contract] at h
  dsimp only at h
  split at h
  · cases h
  · rw [Option.some_inj] at h
    cases h
    exact ⟨rfl, rfl⟩

theorem BackendOutcome.reply_error_ne_busy (outcome : BackendOutcome) :
    outcome.reply.error ≠ .busy := by
  cases outcome <;> exact fun h ↦ nomatch h

/-- The reply with which a call goes on was the backend's, unless it is `Busy`. -/
theorem served_of_ready {phase : Phase BackendDisplayResult} {reply : BackendDisplayResult}
    (hready : phase.reply? controller.busy = some reply) (hcalled : reply.error ≠ .busy) :
    phase = .served reply := by
  cases phase with
  | waiting => cases hready
  | served => exact congrArg Phase.served (Option.some_inj.mp hready)
  | timedOut =>
    cases hready
    exact absurd rfl hcalled

/-! ## The frames behind an effect -/

namespace Frame

/-- The record whose monitor is arriving. -/
def arriving : Frame → Option TemporaryDisplayRecord
  | createArrive _ record _ => some record
  | _ => none

theorem arriving_unarrived {frame : Frame} {record : TemporaryDisplayRecord}
    (h : frame.arriving = some record) : frame.unarrived = some record := by
  cases frame with
  | createArrive => exact h
  | _ => cases h

theorem arriving_backendCall {frame : Frame} {record : TemporaryDisplayRecord}
    (h : frame.arriving = some record) :
    frame.backendCall = .arriveTemporaryDisplay (descriptorFromRecord record) := by
  cases frame with
  | createArrive =>
    cases h
    rfl
  | _ => cases h

theorem departing_backendCall {frame : Frame} (hframe : WellFormed frame)
    {record : TemporaryDisplayRecord} (h : frame.departing = some record) :
    frame.backendCall = .departTemporaryDisplay record.displayId record.generation := by
  cases frame with
  | removeDepart request removing =>
    cases h
    cases (show request = requestFor record from hframe)
    rfl
  | releaseDepart | reapDepart =>
    cases h
    rfl
  | _ => cases h

end Frame

/-- Only a successful arrival puts a monitor up. -/
theorem effect_placed {monitors : Monitors} {frame : Frame} {outcome : BackendOutcome}
    {d g : UInt64} (h : monitors.effect frame.backendCall outcome = .placed d g) :
    outcome.reply.error = .none ∧
      ∃ record, frame.arriving = some record ∧ record.displayId = d ∧ record.generation = g := by
  cases frame with
  | createArrive created record identityReserved =>
    cases outcome with
    | succeeded =>
      cases h
      exact ⟨rfl, record, rfl, rfl, rfl⟩
    | failed tornDown => cases tornDown <;> cases h
  | createHeal | createDepartGone | createDepartPending | removeDepart | releaseDepart
  | reapDepart =>
    cases outcome with
    | succeeded =>
      rw [Frame.backendCall, Monitors.effect] at h
      split_ifs at h
    | failed tornDown =>
      cases tornDown with
      | true =>
        rw [Frame.backendCall, Monitors.effect] at h
        split_ifs at h
      | false => cases h
  | _ => cases outcome with
    | succeeded => cases h
    | failed tornDown => cases tornDown <;> cases h

/-- A monitor goes by a failed arrival or by a departure that gets through to it. -/
theorem effect_cleared {monitors : Monitors} {frame : Frame} {outcome : BackendOutcome}
    {d : UInt64} (h : monitors.effect frame.backendCall outcome = .cleared d) :
    (outcome.reply.error = .failed ∧
        ∃ record, frame.arriving = some record ∧ record.displayId = d) ∨
      ∃ g, frame.backendCall = .departTemporaryDisplay d g ∧ monitors.departureHits d g = true := by
  cases hcall : frame.backendCall with
  | arriveTemporaryDisplay descriptor =>
    rw [hcall] at h
    cases frame with
    | createArrive created record identityReserved =>
      cases hcall
      cases outcome with
      | succeeded => cases h
      | failed tornDown =>
        cases tornDown with
        | true =>
          cases h
          exact .inl ⟨rfl, record, rfl, rfl⟩
        | false => cases h
    | _ => cases hcall
  | departTemporaryDisplay displayId expectedGeneration =>
    rw [hcall] at h
    have hhits : (if monitors.departureHits displayId expectedGeneration then
        MonitorEffect.cleared displayId else .unchanged) = .cleared d := by
      cases outcome with
      | succeeded => exact h
      | failed tornDown =>
        cases tornDown with
        | true => exact h
        | false => cases h
    split_ifs at hhits with hd
    cases hhits
    exact .inr ⟨expectedGeneration, rfl, hd⟩
  | _ =>
    rw [hcall] at h
    cases outcome with
    | succeeded => cases h
    | failed tornDown => cases tornDown <;> cases h

/-- A backend call touches the monitor of a display its frame carries a record of. -/
theorem effect_display {monitors : Monitors} {frame : Frame} {outcome : BackendOutcome}
    {d : UInt64} (hframe : WellFormed frame)
    (h : (monitors.effect frame.backendCall outcome).displayId? = some d) :
    ∃ record ∈ frame.records, record.displayId = d := by
  have harriving {record : TemporaryDisplayRecord} (harriving : frame.arriving = some record) :
      record ∈ frame.records := by
    cases frame with
    | createArrive =>
      cases harriving
      exact List.mem_singleton.mpr rfl
    | _ => cases harriving
  cases heffect : monitors.effect frame.backendCall outcome with
  | unchanged =>
    rw [heffect] at h
    cases h
  | placed displayId generation =>
    rw [heffect] at h
    cases h
    rcases effect_placed heffect with ⟨-, record, hrecord, hd, -⟩
    exact ⟨record, harriving hrecord, hd⟩
  | cleared displayId =>
    rw [heffect] at h
    cases h
    rcases effect_cleared heffect with ⟨-, record, hrecord, hd⟩ | ⟨g, hcall, -⟩
    · exact ⟨record, harriving hrecord, hd⟩
    · cases frame with
      | createHeal _ record | createDepartGone record | createDepartPending record _
      | releaseDepart record _ _ | reapDepart record _ _ =>
        cases hcall
        exact ⟨record, List.mem_cons_self, rfl⟩
      | removeDepart request record =>
        cases (show request = requestFor record from hframe)
        cases hcall
        exact ⟨record, List.mem_cons_self, rfl⟩
      | _ => cases hcall

/-! ## The controller's side of a run -/

section Sound

variable {ρ Outcome : Type} {D : Device ρ Frame Outcome BackendDisplayResult}
  {s s' : System DisplayStore ρ ControllerOp Frame BackendDisplayResult}
  {e : Event ControllerOp Outcome}

/-- What holds of the store, the slot and the frames whatever the backend does. -/
structure Sound (s : System DisplayStore ρ ControllerOp Frame BackendDisplayResult) : Prop where
  keyed : s.locked.RecordsKeyed
  slot : SlotExclusive s
  frames : ∀ (id : Nat) (call : Call ControllerOp Frame BackendDisplayResult),
    s.calls[id]? = some call → WellFormed call.frame

theorem start_reaches (s : DisplayStore) (op : ControllerOp) : Reaches s (start s op).1 :=
  (start_effect s op).reaches

theorem start_next {store : DisplayStore} {op : ControllerOp} {frame : Frame}
    (h : (start store op).2 = .yield frame) : StartYield store op (start store op).1 frame :=
  start_yield (Prod.ext rfl h)

theorem resume_next {store : DisplayStore} {frame next : Frame} {reply : BackendDisplayResult}
    (h : (resume store frame reply).2 = .yield next) :
    ResumeYield store frame reply (resume store frame reply).1 next :=
  resume_yield (Prod.ext rfl h)

theorem Sound.move (h : Sound s) (hmove : Move controller D s e s') : Sound s' where
  keyed := by
    cases hmove with
    | started => exact (start_reaches ..).invariant (fun _ _ hk ↦ hk.of_change) h.keyed
    | relocked => exact (resume_reaches ..).invariant (fun _ _ hk ↦ hk.of_change) h.keyed
    | served | timedOut => exact h.keyed
  slot := h.slot.move hmove
  frames := by
    refine Move.frames (Q := fun _ frame ↦ WellFormed frame) (fun op frame hyield ↦ ?_)
      (fun op frame reply next _ hyield ↦ ?_) h.frames hmove
    · exact (start_next hyield).wellFormed h.keyed
    · exact (resume_next hyield).wellFormed h.keyed

/-- Before any call. -/
theorem sound_initial {store : DisplayStore} {device : ρ} (h : store.displaysById = ∅) :
    Sound { locked := store, device } where
  keyed d r hr := by
    rw [h] at hr
    simp at hr
  slot i j call call' hi := by simp at hi
  frames i call hi := by simp at hi

end Sound

/-- The controller over the contract. -/
abbrev ControllerSystem := System DisplayStore Monitors ControllerOp Frame BackendDisplayResult

/-- The events of a run: the starts of calls, the backend's outcomes, time-outs and returns to the
lock. -/
abbrev ControllerEvent := Event ControllerOp BackendOutcome

/-- A new controller over a backend without monitors. -/
def initially (maxPermanentDisplays maxTemporaryDisplays : UInt32)
    (reservations : OrdMap UInt64 UInt32 := ∅) (initialManifest : Option DisplayManifest := none) :
    ControllerSystem where
  locked := .new maxPermanentDisplays maxTemporaryDisplays reservations initialManifest
  device := ∅

/-- An owned create of this display under this lease, from its start to its end, with both of its
backend calls succeeding. -/
def exampleArrival (id : Nat) (leaseId displayId : UInt64) : List ControllerEvent :=
  [.start id (.createTemporaryDisplayOwned
      { display := exampleRequest leaseId displayId, ownerCapability := exampleCapability } 0),
    .serve id .succeeded, .relock id, .serve id .succeeded, .relock id]

end VirtualDisplay
