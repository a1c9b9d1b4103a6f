import Mathlib.Logic.Function.Basic
import VirtualDisplay.Drm.Commit
import VirtualDisplay.Lib.Run

/-!
# The timestamp of a presentation

A commit is published with the time of the vblank that completed its flip.  `atomic_flush` leaves
the CRTC state of the commit in a slot of the output, the vblank handler latches the time in it when
the flip is done, and the worker that publishes the commit takes it out (`vkms_crtc.c`).  All three
hold the output's lock.

DRM is modelled as far as it delivers events: a vblank that is handled completes the flips whose
events have been armed.  What else may happen to a commit is up to the run: a flip may time out, so
that a commit is published before its flip is done, and the state of a commit that is over may be
freed, and its memory used again.

* `presentTimestamp_ownFlip` — the timestamp that each commit is published with.
-/

set_option autoImplicit false

namespace VirtualDisplay

/-! ## The timing of a commit -/

/-- The time at which a flip was shown, while it is waited for. -/
structure PresentTiming where
  timestampNs : UInt64 := 0
  pending : Bool := false
  deriving DecidableEq

namespace PresentTiming

/-- A flip is to be waited for. -/
def arm (_ : PresentTiming) : PresentTiming := { timestampNs := 0, pending := true }

/-- The time of an event is taken if it is that of the flip, and the first one. -/
def complete (timing : PresentTiming) (flipComplete : Bool) (eventTimestampNs : UInt64) :
    PresentTiming :=
  if !timing.pending || !flipComplete || eventTimestampNs == 0 then timing
  else { timestampNs := eventTimestampNs, pending := false }

/-- The time that a presentation is reported with, and no more waiting. -/
def finish (timing : PresentTiming) (fallbackTimestampNs : UInt64) : UInt64 × PresentTiming :=
  (if timing.timestampNs ≠ 0 then timing.timestampNs else fallbackTimestampNs,
    { timing with pending := false })

theorem complete_arm (timing : PresentTiming) {t : UInt64} (ht : t ≠ 0) :
    timing.arm.complete true t = { timestampNs := t, pending := false } := by
  simp [arm, complete, ht]

theorem finish_fst (timing : PresentTiming) (fallback : UInt64) :
    (timing.finish fallback).1 =
      if timing.timestampNs ≠ 0 then timing.timestampNs else fallback := rfl

end PresentTiming

/-! ## The output -/

/-- A `drm_crtc_commit`, which outlives the states of the commit as long as its event is armed. -/
abbrev CommitId := Nat

/-- The part of a CRTC state that is about the time of its flip. -/
structure VkmsCrtcState where
  /-- `base.commit` -/
  commit : Option CommitId := none
  presentTiming : PresentTiming := {}

/-- The event of a CRTC state: the flip that it completes, and whether `drm_crtc_vblank_get`
succeeds. -/
structure FlipEvent where
  completion : Option CommitId
  vblankGet : Bool

/-- The part of an output that the timestamps are about, with what DRM keeps for it. -/
structure CrtcOutput where
  /-- The states that are allocated. -/
  states : Pointer → Option VkmsCrtcState := fun _ ↦ none
  pendingPresentState : Option Pointer := none
  armed : List CommitId := []
  flipDone : CommitId → Bool := fun _ ↦ false
  /-- A state has been used that was not allocated. -/
  fault : Bool := false

namespace CrtcOutput

variable (w : CrtcOutput)

/-- A state is allocated, or freed. -/
def setState (s : Pointer) (state : Option VkmsCrtcState) : CrtcOutput :=
  { w with states := Function.update w.states s state }

/-- `drm_crtc_send_vblank_event` -/
def sendVblankEvent (event : FlipEvent) : CrtcOutput :=
  { w with flipDone := fun commit ↦ w.flipDone commit || event.completion == some commit }

/-- `drm_crtc_arm_vblank_event` -/
def armVblankEvent (event : FlipEvent) : CrtcOutput :=
  { w with armed := event.completion.toList ++ w.armed }

/-- `drm_crtc_handle_vblank`, when it succeeds. -/
def deliverEvents : CrtcOutput :=
  { w with
    armed := []
    flipDone := fun commit ↦ w.flipDone commit || w.armed.contains commit }

/-- `vkms_crtc_atomic_flush` for the state `s`, with the time that it reads. -/
def atomicFlush (s : Pointer) (event : Option FlipEvent) (now : UInt64) : CrtcOutput :=
  match w.states s with
  | none => { w with fault := true }
  | some state =>
    let timing := state.presentTiming.arm
    let completed := w.setState s (some { state with presentTiming := timing.complete true now })
    match event with
    | some event =>
      if !event.vblankGet then completed.sendVblankEvent event
      else if state.commit.isSome && event.completion == state.commit then
        { w.setState s (some { state with presentTiming := timing }) with
          pendingPresentState := some s }.armVblankEvent event
      else completed.armVblankEvent event
    | none => completed

/-- The time of a vblank, or the present time if DRM has none. -/
def vblankTimestamp (vblankTime now : UInt64) : UInt64 := if vblankTime = 0 then now else vblankTime

/-- The state in the slot takes the timestamp of a vblank, if its flip is done. -/
def latchFlip (timestampNs : UInt64) : CrtcOutput :=
  match w.pendingPresentState with
  | none => w
  | some s =>
    match w.states s with
    | none => { w with fault := true }
    | some state =>
      if state.commit.any w.flipDone then
        let timing := state.presentTiming.complete true timestampNs
        { w.setState s (some { state with presentTiming := timing }) with
          pendingPresentState := none }
      else w

/-- `vkms_crtc_handle_vblank`, with the time of the vblank and the present time if DRM handles
it. -/
def handleVblank : Option (UInt64 × UInt64) → CrtcOutput
  | none => w
  | some (vblankTime, now) => w.deliverEvents.latchFlip (vblankTimestamp vblankTime now)

/-- `vkms_crtc_take_present_timestamp` -/
def takePresentTimestamp (crtcState : Option Pointer) (now : UInt64) : UInt64 × CrtcOutput :=
  match crtcState with
  | none => (now, w)
  | some s =>
    match w.states s with
    | none => (now, { w with fault := true })
    | some state =>
      let (timestampNs, timing) := state.presentTiming.finish now
      (timestampNs,
        { w.setState s (some { state with presentTiming := timing }) with
          pendingPresentState :=
            if w.pendingPresentState = some s then none else w.pendingPresentState })

end CrtcOutput

/-! ## Runs -/

/-- What happens to the states, the events and the flips of a CRTC. -/
inductive TimingStep where
  /-- A state is allocated for a commit. -/
  | duplicateState (s : Pointer) (commit : Option CommitId)
  | destroyState (s : Pointer)
  /-- DRM completes the flip of a commit that has nothing to wait for. -/
  | setupComplete (commit : CommitId)
  | flush (s : Pointer) (event : Option FlipEvent) (now : UInt64)
  | handleVblank (handled : Option (UInt64 × UInt64))
  /-- The commit takes its timestamp, after its flip or after a timeout. -/
  | publish (crtcState : Option Pointer) (now : UInt64)
  | hwDone

namespace CrtcOutput

/-- One of these things. -/
def step (w : CrtcOutput) : TimingStep → CrtcOutput
  | .duplicateState s commit => w.setState s (some { commit })
  | .destroyState s => w.setState s none
  | .setupComplete commit => w.sendVblankEvent { completion := some commit, vblankGet := false }
  | .flush s event now => w.atomicFlush s event now
  | .handleVblank handled => w.handleVblank handled
  | .publish crtcState now => (w.takePresentTimestamp crtcState now).2
  | .hwDone => w

/-- What DRM and the clock promise: memory is allocated where there is none, the state of a commit
that is flushed is there, an event is armed only once, before its flip is done, and the clock is
past zero. -/
def Allowed (w : CrtcOutput) : TimingStep → Prop
  | .duplicateState s _ => w.states s = none
  | .setupComplete commit => commit ∉ w.armed
  | .flush s event now => (w.states s).isSome ∧ now ≠ 0 ∧
      ∀ e ∈ event, ∀ commit ∈ e.completion, w.flipDone commit = false ∧ commit ∉ w.armed
  | .handleVblank handled => ∀ times ∈ handled, times.2 ≠ 0
  | .destroyState _ | .publish _ _ | .hwDone => True

instance (w : CrtcOutput) (step : TimingStep) : Decidable (w.Allowed step) :=
  match step with
  | .duplicateState s _ => inferInstanceAs (Decidable (w.states s = none))
  | .setupComplete commit => inferInstanceAs (Decidable (commit ∉ w.armed))
  | .flush s event now => inferInstanceAs (Decidable ((w.states s).isSome ∧ now ≠ 0 ∧
      ∀ e ∈ event, ∀ commit ∈ e.completion, w.flipDone commit = false ∧ commit ∉ w.armed))
  | .handleVblank handled => inferInstanceAs (Decidable (∀ times ∈ handled, times.2 ≠ 0))
  | .destroyState _ | .publish _ _ | .hwDone => .isTrue trivial

end CrtcOutput

/-- How far the commit on the CRTC has come. -/
inductive Tail where
  | idle
  | flushed (s : Pointer)
  | published (s : Pointer)
  deriving DecidableEq

/-- The commits on a CRTC come one after the other, each with a flush, its publication and
`hw_done`, and their states are there in the meantime. -/
def Tail.next : Tail → TimingStep → Option Tail
  | .idle, .flush s _ _ => some (.flushed s)
  | .flushed s, .publish (some s') _ => if s' = s then some (.published s) else none
  | .published _, .hwDone => some .idle
  | _, .flush _ _ _ => none
  | _, .publish (some _) _ => none
  | _, .hwDone => none
  | .flushed s, .destroyState s' => if s' = s then none else some (.flushed s)
  | .published s, .destroyState s' => if s' = s then none else some (.published s)
  | tail, _ => some tail

/-- These steps lead to this output. -/
inductive TimingRun : List TimingStep → CrtcOutput → Tail → Prop
  | nil : TimingRun [] {} .idle
  | snoc {steps : List TimingStep} {w : CrtcOutput} {tail tail' : Tail} {step : TimingStep}
      (run : TimingRun steps w tail) (allowed : w.Allowed step)
      (next : tail.next step = some tail') :
      TimingRun (steps ++ [step]) (w.step step) tail'

/-! ## The commit that is waiting -/

/-- A vblank has been scheduled for the flip of the commit. -/
def waitsForFlip (event : Option FlipEvent) (commit : Option CommitId) : Bool :=
  event.any fun event ↦ event.vblankGet && (commit.isSome && event.completion == commit)

/-- The step takes an event on. -/
def TimingStep.isFlush : TimingStep → Bool
  | flush _ _ _ => true
  | _ => false

/-- The timestamp of a vblank that DRM has handled. -/
def TimingStep.vblank? : TimingStep → Option UInt64
  | handleVblank (some (vblankTime, now)) => some (CrtcOutput.vblankTimestamp vblankTime now)
  | _ => none

/-- The timestamp of the first of these vblanks. -/
def firstVblank (steps : List TimingStep) : Option UInt64 := steps.findSome? TimingStep.vblank?

theorem firstVblank_append (steps : List TimingStep) (step : TimingStep) :
    firstVblank (steps ++ [step]) = (firstVblank steps).or step.vblank? := by
  rw [firstVblank, List.findSome?_append, firstVblank]
  cases h : step.vblank? <;> simp [List.findSome?, h]

theorem vblankTimestamp_ne_zero {vblankTime now : UInt64} (hnow : now ≠ 0) :
    CrtcOutput.vblankTimestamp vblankTime now ≠ 0 := by
  rw [CrtcOutput.vblankTimestamp]
  split_ifs with h
  · exact hnow
  · exact h

/-- The state `s` of a commit that has been flushed at the time `flushedAt`, with what has happened
since: it has its timestamp, or waits in the slot for the first vblank. -/
def CrtcOutput.Latched (w : CrtcOutput) (s : Pointer) (state : VkmsCrtcState)
    (event : Option FlipEvent) (flushedAt : UInt64) (since : List TimingStep) : Prop :=
  match waitsForFlip event state.commit, firstVblank since with
  | false, _ => w.pendingPresentState = none ∧
      state.presentTiming = { timestampNs := flushedAt } ∧ flushedAt ≠ 0
  | true, some timestampNs => w.pendingPresentState = none ∧
      state.presentTiming = { timestampNs } ∧ timestampNs ≠ 0 ∧
      ∀ commit ∈ state.commit, w.flipDone commit = true
  | true, none => w.pendingPresentState = some s ∧
      state.presentTiming = { timestampNs := 0, pending := true } ∧
      ∀ commit ∈ state.commit, w.flipDone commit = false ∧ commit ∈ w.armed

/-- The last flush is that of the state `s`, and these are the steps behind it. -/
structure FlushedSince (steps : List TimingStep) (s : Pointer) (event : Option FlipEvent)
    (flushedAt : UInt64) (since : List TimingStep) : Prop where
  flushed : ∃ before, steps = before ++ .flush s event flushedAt :: since
  noFlush : ∀ step ∈ since, step.isFlush = false

theorem FlushedSince.snoc {steps since : List TimingStep} {s : Pointer} {event : Option FlipEvent}
    {flushedAt : UInt64} {step : TimingStep} (h : FlushedSince steps s event flushedAt since)
    (hflush : step.isFlush = false) :
    FlushedSince (steps ++ [step]) s event flushedAt (since ++ [step]) := by
  obtain ⟨before, hsteps⟩ := h.flushed
  refine ⟨⟨before, by rw [hsteps]; simp⟩, fun step' hstep' ↦ ?_⟩
  obtain hmem | hmem := List.mem_append.mp hstep'
  · exact h.noFlush step' hmem
  · rwa [List.mem_singleton.mp hmem]

/-- The commit with the state `s` has been flushed, and not been published. -/
structure FlushedCommit (steps : List TimingStep) (w : CrtcOutput) (s : Pointer)
    (state : VkmsCrtcState) (event : Option FlipEvent) (flushedAt : UInt64)
    (since : List TimingStep) : Prop extends FlushedSince steps s event flushedAt since where
  alive : w.states s = some state
  latched : w.Latched s state event flushedAt since
  fault : w.fault = false

/-- What holds of the output, depending on how far the commit on the CRTC has come. -/
def TimingInvariant (steps : List TimingStep) (w : CrtcOutput) : Tail → Prop
  | .flushed s => ∃ state event flushedAt since,
      FlushedCommit steps w s state event flushedAt since
  | .idle | .published _ => w.pendingPresentState = none ∧ w.fault = false

/-! ### The flush -/

@[simp] theorem setState_states (w : CrtcOutput) (s s' : Pointer) (state : Option VkmsCrtcState) :
    (w.setState s state).states s' = if s' = s then state else w.states s' :=
  Function.update_apply ..

theorem atomicFlush_latched (steps : List TimingStep) {w : CrtcOutput} {s : Pointer}
    {event : Option FlipEvent} {now : UInt64} (hslot : w.pendingPresentState = none)
    (hfault : w.fault = false) (hallowed : w.Allowed (.flush s event now)) :
    TimingInvariant (steps ++ [.flush s event now]) (w.atomicFlush s event now) (.flushed s) := by
  obtain ⟨halive, hnow, hevent⟩ := hallowed
  obtain ⟨state, hstate⟩ := Option.isSome_iff_exists.mp halive
  have hcomplete := state.presentTiming.complete_arm hnow
  -- The flip is over at once, unless a vblank has been scheduled for it.
  have himmediate {w' : CrtcOutput} (hwaits : waitsForFlip event state.commit = false)
      (hstates : w'.states s =
        some { state with presentTiming := state.presentTiming.arm.complete true now })
      (hslot' : w'.pendingPresentState = w.pendingPresentState) (hfault' : w'.fault = w.fault) :
      TimingInvariant (steps ++ [.flush s event now]) w' (.flushed s) := by
    refine ⟨_, event, now, [], ⟨⟨steps, rfl⟩, nofun⟩, hstates, ?_, hfault'.trans hfault⟩
    rw [CrtcOutput.Latched, hwaits]
    exact ⟨hslot'.trans hslot, hcomplete, hnow⟩
  rw [CrtcOutput.atomicFlush, hstate]
  cases event with
  | none => exact himmediate rfl (by simp) rfl rfl
  | some event =>
    dsimp only
    split_ifs with hget hwired
    · refine himmediate ?_ (by simp [CrtcOutput.sendVblankEvent]) rfl rfl
      simpa [waitsForFlip] using fun h ↦ absurd h (by simpa using hget)
    · have hwaits : waitsForFlip (some event) state.commit = true := by
        simp only [waitsForFlip, Option.any_some, hwired, Bool.and_true]
        simpa using hget
      refine ⟨{ state with presentTiming := state.presentTiming.arm }, some event, now, [],
        ⟨⟨steps, rfl⟩, nofun⟩, by simp [CrtcOutput.armVblankEvent], ?_, hfault⟩
      rw [CrtcOutput.Latched, hwaits]
      refine ⟨rfl, rfl, fun commit hcommit ↦ ?_⟩
      have hcompletion : commit ∈ event.completion := by
        rw [Bool.and_eq_true, beq_iff_eq] at hwired
        rw [hwired.2]
        exact hcommit
      refine ⟨(hevent event rfl commit hcompletion).1, ?_⟩
      simp [CrtcOutput.armVblankEvent, Option.mem_def.mp hcompletion]
    · refine himmediate ?_ (by simp [CrtcOutput.armVblankEvent]) rfl rfl
      simp only [waitsForFlip, Option.any_some, Bool.not_eq_true] at hwired ⊢
      rw [hwired, Bool.and_false]

/-! ### The vblank -/

theorem latchFlip_of_empty {w : CrtcOutput} (hslot : w.pendingPresentState = none)
    (timestampNs : UInt64) : w.latchFlip timestampNs = w := by
  rw [CrtcOutput.latchFlip, hslot]

/-- No vblank changes a state that is not in the slot. -/
theorem latchFlip_states (w : CrtcOutput) (timestampNs : UInt64) {s : Pointer}
    (hs : w.pendingPresentState ≠ some s) : (w.latchFlip timestampNs).states s = w.states s := by
  rw [CrtcOutput.latchFlip]
  split
  · rfl
  · rename_i s' hslot
    have hne : s ≠ s' := fun h ↦ hs (h ▸ hslot)
    split
    · rfl
    · split_ifs
      · simp [hne]
      · rfl

theorem handleVblank_states (w : CrtcOutput) (handled : Option (UInt64 × UInt64)) {s : Pointer}
    (hs : w.pendingPresentState ≠ some s) : (w.handleVblank handled).states s = w.states s := by
  match handled with
  | none => rfl
  | some (vblankTime, now) => exact latchFlip_states w.deliverEvents _ hs

/-- While the slot is empty, a vblank does nothing but deliver events. -/
theorem handleVblank_of_empty {w : CrtcOutput} (hslot : w.pendingPresentState = none)
    (handled : Option (UInt64 × UInt64)) :
    (w.handleVblank handled).pendingPresentState = none ∧
      (w.handleVblank handled).fault = w.fault ∧
      ∀ commit, w.flipDone commit = true → (w.handleVblank handled).flipDone commit = true := by
  match handled with
  | none => exact ⟨hslot, rfl, fun _ ↦ id⟩
  | some (vblankTime, now) =>
    rw [CrtcOutput.handleVblank, latchFlip_of_empty (w := w.deliverEvents) hslot]
    exact ⟨hslot, rfl, fun commit h ↦ by simp [CrtcOutput.deliverEvents, h]⟩

theorem latchFlip_of_done {w : CrtcOutput} {s : Pointer} {state : VkmsCrtcState}
    {timestampNs : UInt64} (hslot : w.pendingPresentState = some s)
    (hstate : w.states s = some state) (hdone : state.commit.any w.flipDone = true) :
    w.latchFlip timestampNs =
      { w.setState s (some { state with
          presentTiming := state.presentTiming.complete true timestampNs }) with
        pendingPresentState := none } := by
  rw [CrtcOutput.latchFlip]
  simp only [hslot, hstate, if_pos hdone]

/-- The first vblank that DRM handles completes the flip, and its time is the commit's. -/
theorem handleVblank_of_waiting {w : CrtcOutput} {s : Pointer} {state : VkmsCrtcState}
    {vblankTime now : UInt64} (hslot : w.pendingPresentState = some s)
    (hstate : w.states s = some state) (hcommit : state.commit.isSome)
    (hpending : state.presentTiming = { timestampNs := 0, pending := true })
    (harmed : ∀ commit ∈ state.commit, commit ∈ w.armed) (hnow : now ≠ 0) :
    let w' := w.handleVblank (some (vblankTime, now))
    w'.pendingPresentState = none ∧ w'.fault = w.fault ∧
      w'.states s = some { state with
        presentTiming := { timestampNs := CrtcOutput.vblankTimestamp vblankTime now } } ∧
      ∀ commit ∈ state.commit, w'.flipDone commit = true := by
  obtain ⟨commit, hcommit⟩ := Option.isSome_iff_exists.mp hcommit
  have hdone : w.deliverEvents.flipDone commit = true := by
    simp [CrtcOutput.deliverEvents, harmed commit hcommit]
  have htiming : state.presentTiming.complete true (CrtcOutput.vblankTimestamp vblankTime now) =
      { timestampNs := CrtcOutput.vblankTimestamp vblankTime now } := by
    rw [hpending]
    exact PresentTiming.complete_arm {} (vblankTimestamp_ne_zero hnow)
  rw [CrtcOutput.handleVblank, latchFlip_of_done (w := w.deliverEvents) hslot hstate
    (by rw [hcommit]; exact hdone), htiming]
  refine ⟨rfl, rfl, by simp, fun commit' hcommit' ↦ ?_⟩
  obtain rfl : commit = commit' := Option.some.inj (hcommit.symm.trans hcommit')
  exact hdone

/-! ### What a step keeps -/

/-- The steps that only leave the flushed commit as it is. -/
theorem FlushedCommit.of_same {steps since : List TimingStep} {w w' : CrtcOutput} {s : Pointer}
    {state : VkmsCrtcState} {event : Option FlipEvent} {flushedAt : UInt64} {step : TimingStep}
    (h : FlushedCommit steps w s state event flushedAt since) (hflush : step.isFlush = false)
    (hvblank : step.vblank? = none) (hstates : w'.states s = w.states s)
    (hslot : w'.pendingPresentState = w.pendingPresentState) (harmed : w'.armed = w.armed)
    (hdone : ∀ commit, w.flipDone commit = true → w'.flipDone commit = true)
    (hundone : ∀ commit ∈ w.armed, w'.flipDone commit = w.flipDone commit)
    (hfault : w'.fault = w.fault) :
    FlushedCommit (steps ++ [step]) w' s state event flushedAt (since ++ [step]) := by
  refine ⟨h.toFlushedSince.snoc hflush, hstates.trans h.alive, ?_, hfault.trans h.fault⟩
  have hlatched := h.latched
  rw [CrtcOutput.Latched] at hlatched ⊢
  rw [firstVblank_append, hvblank, Option.or_none, hslot, harmed]
  split at hlatched
  · exact hlatched
  · obtain ⟨hslot, htiming, hne, hflip⟩ := hlatched
    exact ⟨‹_›, htiming, hne, fun commit hcommit ↦ hdone commit (hflip commit hcommit)⟩
  · refine ⟨hlatched.1, hlatched.2.1, fun commit hcommit ↦ ?_⟩
    obtain ⟨hnot, hin⟩ := hlatched.2.2 commit hcommit
    exact ⟨(hundone commit hin).trans hnot, hin⟩

theorem isSome_of_waitsForFlip {event : Option FlipEvent} {commit : Option CommitId}
    (h : waitsForFlip event commit = true) : commit.isSome := by
  cases event with
  | none => exact nomatch h
  | some event =>
    simp only [waitsForFlip, Option.any_some, Bool.and_eq_true] at h
    exact h.2.1

theorem FlushedCommit.handleVblank {steps since : List TimingStep} {w : CrtcOutput} {s : Pointer}
    {state : VkmsCrtcState} {event : Option FlipEvent} {flushedAt : UInt64}
    (h : FlushedCommit steps w s state event flushedAt since) {vblankTime now : UInt64}
    (hnow : now ≠ 0) :
    ∃ state', state'.commit = state.commit ∧
      FlushedCommit (steps ++ [.handleVblank (some (vblankTime, now))])
        (w.handleVblank (some (vblankTime, now))) s state' event flushedAt
        (since ++ [.handleVblank (some (vblankTime, now))]) := by
  have hsince := @FlushedSince.snoc _ _ _ _ _ (.handleVblank (some (vblankTime, now)))
    h.toFlushedSince rfl
  have hlatched := h.latched
  rw [CrtcOutput.Latched] at hlatched
  split at hlatched
  · rename_i hwaits
    obtain ⟨hslot, hfault, -⟩ := handleVblank_of_empty hlatched.1 (some (vblankTime, now))
    refine ⟨state, rfl, hsince, ?_, ?_, hfault.trans h.fault⟩
    · rw [handleVblank_states _ _ (by rw [hlatched.1]; exact nofun), h.alive]
    · rw [CrtcOutput.Latched, hwaits]
      exact ⟨hslot, hlatched.2⟩
  · rename_i timestampNs hwaits hfirst
    obtain ⟨hslot, hfault, hdone⟩ := handleVblank_of_empty hlatched.1 (some (vblankTime, now))
    refine ⟨state, rfl, hsince, ?_, ?_, hfault.trans h.fault⟩
    · rw [handleVblank_states _ _ (by rw [hlatched.1]; exact nofun), h.alive]
    · rw [CrtcOutput.Latched, hwaits, firstVblank_append, hfirst]
      obtain ⟨-, htiming, hne, hflip⟩ := hlatched
      exact ⟨hslot, htiming, hne, fun commit hcommit ↦ hdone commit (hflip commit hcommit)⟩
  · rename_i hwaits hfirst
    obtain ⟨hslot, hfault, hstate, hdone⟩ := @handleVblank_of_waiting _ _ _ vblankTime now
      hlatched.1 h.alive (isSome_of_waitsForFlip hwaits) hlatched.2.1
      (fun commit hcommit ↦ (hlatched.2.2 commit hcommit).2) hnow
    refine ⟨{ state with
      presentTiming := { timestampNs := CrtcOutput.vblankTimestamp vblankTime now } }, rfl, hsince,
      hstate, ?_, hfault.trans h.fault⟩
    rw [CrtcOutput.Latched, hwaits, firstVblank_append, hfirst]
    exact ⟨hslot, rfl, vblankTimestamp_ne_zero hnow, hdone⟩

theorem FlushedCommit.slot {steps since : List TimingStep} {w : CrtcOutput} {s : Pointer}
    {state : VkmsCrtcState} {event : Option FlipEvent} {flushedAt : UInt64}
    (h : FlushedCommit steps w s state event flushedAt since) :
    w.pendingPresentState = none ∨ w.pendingPresentState = some s := by
  have hlatched := h.latched
  rw [CrtcOutput.Latched] at hlatched
  split at hlatched
  · exact .inl hlatched.1
  · exact .inl hlatched.1
  · exact .inr hlatched.1

/-- A commit that is published leaves the slot empty. -/
theorem FlushedCommit.publish {steps since : List TimingStep} {w : CrtcOutput} {s : Pointer}
    {state : VkmsCrtcState} {event : Option FlipEvent} {flushedAt : UInt64}
    (h : FlushedCommit steps w s state event flushedAt since) (now : UInt64) :
    (w.takePresentTimestamp (some s) now).2.pendingPresentState = none ∧
      (w.takePresentTimestamp (some s) now).2.fault = false := by
  rw [CrtcOutput.takePresentTimestamp, h.alive]
  refine ⟨?_, h.fault⟩
  obtain hslot | hslot := h.slot <;> simp [hslot]

/-- What the commit would be published with. -/
theorem FlushedCommit.timestamp {steps since : List TimingStep} {w : CrtcOutput} {s : Pointer}
    {state : VkmsCrtcState} {event : Option FlipEvent} {flushedAt : UInt64}
    (h : FlushedCommit steps w s state event flushedAt since) (now : UInt64) :
    (w.takePresentTimestamp (some s) now).1 =
      if waitsForFlip event state.commit then (firstVblank since).getD now else flushedAt := by
  have htake : (w.takePresentTimestamp (some s) now).1 = (state.presentTiming.finish now).1 := by
    rw [CrtcOutput.takePresentTimestamp, h.alive]
  have hlatched := h.latched
  rw [CrtcOutput.Latched] at hlatched
  rw [htake, PresentTiming.finish_fst]
  split at hlatched
  · rename_i hwaits
    rw [hwaits, hlatched.2.1, if_pos hlatched.2.2]
    rfl
  · rename_i hwaits hfirst
    rw [hwaits, hfirst, hlatched.2.1, if_pos hlatched.2.2.1]
    rfl
  · rename_i hwaits hfirst
    rw [hwaits, hfirst, hlatched.2.1]
    rfl

theorem FlushedCommit.flipDone {steps since : List TimingStep} {w : CrtcOutput} {s : Pointer}
    {state : VkmsCrtcState} {event : Option FlipEvent} {flushedAt : UInt64}
    (h : FlushedCommit steps w s state event flushedAt since)
    (hwaits : waitsForFlip event state.commit = true) {commit : CommitId}
    (hcommit : commit ∈ state.commit) : w.flipDone commit = (firstVblank since).isSome := by
  have hlatched := h.latched
  rw [CrtcOutput.Latched, hwaits] at hlatched
  cases hfirst : firstVblank since with
  | none =>
    rw [hfirst] at hlatched
    exact (hlatched.2.2 commit hcommit).1
  | some timestampNs =>
    rw [hfirst] at hlatched
    exact hlatched.2.2.2 commit hcommit

/-! ## Any order of steps -/

/-- While the slot is empty, only a flush fills it. -/
theorem step_of_empty {w : CrtcOutput} {step : TimingStep} (hslot : w.pendingPresentState = none)
    (hfault : w.fault = false) (hflush : step.isFlush = false)
    (hpublish : ∀ s now, step ≠ .publish (some s) now) :
    (w.step step).pendingPresentState = none ∧ (w.step step).fault = false := by
  match step with
  | .duplicateState _ _ | .destroyState _ | .setupComplete _ | .hwDone => exact ⟨hslot, hfault⟩
  | .handleVblank handled =>
    obtain ⟨hempty, hsame, -⟩ := handleVblank_of_empty hslot handled
    exact ⟨hempty, hsame.trans hfault⟩
  | .publish none now => exact ⟨hslot, hfault⟩
  | .publish (some s) now => exact absurd rfl (hpublish s now)
  | .flush _ _ _ => exact nomatch hflush

/-- A step with which the flushed commit goes on waiting. -/
theorem FlushedCommit.step {steps since : List TimingStep} {w : CrtcOutput} {s : Pointer}
    {state : VkmsCrtcState} {event : Option FlipEvent} {flushedAt : UInt64} {step : TimingStep}
    (h : FlushedCommit steps w s state event flushedAt since) (hallowed : w.Allowed step)
    (hnext : (Tail.flushed s).next step = some (.flushed s)) :
    ∃ state', state'.commit = state.commit ∧
      FlushedCommit (steps ++ [step]) (w.step step) s state' event flushedAt (since ++ [step]) := by
  match step with
  | .duplicateState s' commit =>
    have hne : s ≠ s' := by
      rintro rfl
      exact nomatch hallowed.symm.trans h.alive
    exact ⟨state, rfl, h.of_same rfl rfl (by simp [CrtcOutput.step, hne]) rfl rfl (fun _ ↦ id)
      (fun _ _ ↦ rfl) rfl⟩
  | .destroyState s' =>
    have hne : s ≠ s' := by
      rintro rfl
      simp [Tail.next] at hnext
    exact ⟨state, rfl, h.of_same rfl rfl (by simp [CrtcOutput.step, hne]) rfl rfl (fun _ ↦ id)
      (fun _ _ ↦ rfl) rfl⟩
  | .setupComplete commit =>
    refine ⟨state, rfl, h.of_same rfl rfl rfl rfl rfl ?_ ?_ rfl⟩
    · exact fun commit' h ↦ by simp [CrtcOutput.step, CrtcOutput.sendVblankEvent, h]
    · intro commit' harmed
      have hne : commit ≠ commit' := fun h ↦ hallowed (h ▸ harmed)
      simp [CrtcOutput.step, CrtcOutput.sendVblankEvent, hne]
  | .handleVblank none =>
    exact ⟨state, rfl, h.of_same rfl rfl rfl rfl rfl (fun _ ↦ id) (fun _ _ ↦ rfl) rfl⟩
  | .handleVblank (some (vblankTime, now)) => exact h.handleVblank (hallowed _ rfl)
  | .publish none now =>
    exact ⟨state, rfl, h.of_same rfl rfl rfl rfl rfl (fun _ ↦ id) (fun _ _ ↦ rfl) rfl⟩
  | .publish (some s') now =>
    rw [Tail.next] at hnext
    split_ifs at hnext
    exact nomatch hnext
  | .flush _ _ _ => exact nomatch hnext
  | .hwDone => exact nomatch hnext

/-- Between commits, only a flush brings one, and there is none to publish. -/
theorem next_of_quiet {tail tail' : Tail} {step : TimingStep} (hquiet : ∀ s, tail ≠ .flushed s)
    (hnext : tail.next step = some tail') (hflush : step.isFlush = false) :
    (∀ s, tail' ≠ .flushed s) ∧ ∀ s now, step ≠ .publish (some s) now := by
  cases tail with
  | flushed s => exact absurd rfl (hquiet s)
  | idle =>
    match step with
    | .duplicateState _ _ | .destroyState _ | .setupComplete _ | .handleVblank _
    | .publish none _ =>
      obtain rfl := Option.some.inj hnext
      exact ⟨nofun, nofun⟩
    | .flush _ _ _ => exact nomatch hflush
    | .publish (some _) _ | .hwDone => exact nomatch hnext
  | published s =>
    match step with
    | .duplicateState _ _ | .setupComplete _ | .handleVblank _ | .publish none _ | .hwDone =>
      obtain rfl := Option.some.inj hnext
      exact ⟨nofun, nofun⟩
    | .destroyState s' =>
      rw [Tail.next] at hnext
      split_ifs at hnext
      obtain rfl := Option.some.inj hnext
      exact ⟨nofun, nofun⟩
    | .flush _ _ _ => exact nomatch hflush
    | .publish (some _) _ => exact nomatch hnext

theorem timingInvariant_of_quiet {tail : Tail} (hquiet : ∀ s, tail ≠ .flushed s)
    (steps : List TimingStep) (w : CrtcOutput) :
    TimingInvariant steps w tail ↔ w.pendingPresentState = none ∧ w.fault = false := by
  cases tail with
  | flushed s => exact absurd rfl (hquiet s)
  | idle | published s => exact Iff.rfl

theorem TimingRun.invariant {steps : List TimingStep} {w : CrtcOutput} {tail : Tail}
    (run : TimingRun steps w tail) : TimingInvariant steps w tail := by
  induction run with
  | nil => exact ⟨rfl, rfl⟩
  | @snoc steps w tail tail' step _ hallowed hnext ih =>
    cases tail with
    | flushed s =>
      obtain ⟨state, event, flushedAt, since, hcommit⟩ := ih
      by_cases hsame : tail' = .flushed s
      · subst hsame
        obtain ⟨state', -, hstep⟩ := hcommit.step hallowed hnext
        exact ⟨state', event, flushedAt, _, hstep⟩
      · -- The only other step is the publication of the commit.
        match step with
        | .publish (some s') now =>
          rw [Tail.next] at hnext
          split_ifs at hnext with hs
          obtain rfl := Option.some.inj hnext
          subst hs
          exact hcommit.publish now
        | .destroyState s' =>
          rw [Tail.next] at hnext
          split_ifs at hnext
          exact absurd (Option.some.inj hnext).symm hsame
        | .duplicateState _ _ | .setupComplete _ | .handleVblank _ | .publish none _ =>
          exact absurd (Option.some.inj hnext).symm hsame
        | .flush _ _ _ | .hwDone => exact nomatch hnext
    | idle =>
      have hidle : ∀ s, Tail.idle ≠ .flushed s := fun _ h ↦ nomatch h
      match step with
      | .flush s event now =>
        obtain rfl := Option.some.inj hnext
        exact atomicFlush_latched steps ih.1 ih.2 hallowed
      | .duplicateState _ _ | .destroyState _ | .setupComplete _ | .handleVblank _ | .publish _ _
      | .hwDone =>
        obtain ⟨hquiet, hpublish⟩ := next_of_quiet hidle hnext rfl
        exact (timingInvariant_of_quiet hquiet _ _).mpr (step_of_empty ih.1 ih.2 rfl hpublish)
    | published s =>
      have hpublished : ∀ s', Tail.published s ≠ .flushed s' := fun _ h ↦ nomatch h
      match step with
      | .flush _ _ _ => exact nomatch hnext
      | .duplicateState _ _ | .destroyState _ | .setupComplete _ | .handleVblank _ | .publish _ _
      | .hwDone =>
        obtain ⟨hquiet, hpublish⟩ := next_of_quiet hpublished hnext rfl
        exact (timingInvariant_of_quiet hquiet _ _).mpr (step_of_empty ih.1 ih.2 rfl hpublish)

/-- The slot holds a state only between its flush and its publication, when it is empty for a flush.
A commit is published with the time of the first vblank behind its flush, which is the one that
completes it, if one was scheduled, with the time of the flush if none was, and with the time of the
publication only if the flip is not done.  A vblank changes no state but that of the commit that has
been flushed and not published. -/
theorem presentTimestamp_ownFlip {steps : List TimingStep} {w : CrtcOutput} {tail : Tail}
    (run : TimingRun steps w tail) :
    w.fault = false ∧
    (∀ s event now, (tail.next (.flush s event now)).isSome → w.pendingPresentState = none) ∧
    (∀ s handled, tail ≠ .flushed s → (w.handleVblank handled).states s = w.states s) ∧
    (∀ now, (w.takePresentTimestamp none now).1 = now) ∧
    ∀ s, tail = .flushed s → ∃ event flushedAt since state,
      FlushedSince steps s event flushedAt since ∧ w.states s = some state ∧
      (∀ now, (w.takePresentTimestamp (some s) now).1 =
        if waitsForFlip event state.commit then (firstVblank since).getD now else flushedAt) ∧
      (waitsForFlip event state.commit →
        ∀ commit ∈ state.commit, w.flipDone commit = (firstVblank since).isSome) := by
  have hinv := run.invariant
  cases tail with
  | flushed s =>
    obtain ⟨state, event, flushedAt, since, hcommit⟩ := hinv
    refine ⟨hcommit.fault, fun s event now h ↦ (nomatch h), fun s' handled hs' ↦ ?_, fun _ ↦ rfl,
      ?_⟩
    · refine handleVblank_states w handled fun hslot ↦ hs' ?_
      obtain hempty | hs := hcommit.slot
      · exact nomatch hempty.symm.trans hslot
      · rw [Option.some.inj (hs.symm.trans hslot)]
    · rintro _ ⟨⟩
      exact ⟨event, flushedAt, since, state, hcommit.toFlushedSince, hcommit.alive,
        hcommit.timestamp, fun hwaits _ ↦ hcommit.flipDone hwaits⟩
  | idle | published s =>
    have hstates (s : Pointer) (handled : Option (UInt64 × UInt64)) :
        (w.handleVblank handled).states s = w.states s :=
      handleVblank_states w handled (by rw [hinv.1]; exact nofun)
    exact ⟨hinv.2, fun _ _ _ _ ↦ hinv.1, fun s handled _ ↦ hstates s handled, fun _ ↦ rfl,
      fun s h ↦ nomatch h⟩

/-- Steps that are allowed, each where it comes, go on with a run. -/
theorem TimingRun.append {steps more : List TimingStep} {w : CrtcOutput} {tail tail' : Tail}
    (run : TimingRun steps w tail) (hallowed : Run.Every CrtcOutput.step CrtcOutput.Allowed w more)
    (hnext : more.foldlM Tail.next tail = some tail') :
    TimingRun (steps ++ more) (more.foldl CrtcOutput.step w) tail' := by
  induction more generalizing steps w tail with
  | nil =>
    obtain rfl := Option.some.inj hnext
    rwa [List.append_nil]
  | cons step more ih =>
    rw [List.foldlM_cons, Option.bind_eq_bind, Option.bind_eq_some_iff] at hnext
    obtain ⟨tail'', hstep, hmore⟩ := hnext
    have := ih (run.snoc hallowed.1 hstep) hallowed.2 hmore
    rwa [List.append_assoc, List.singleton_append] at this

/-- A commit whose flip is completed by the first of two vblanks. -/
def exampleTimingSteps : List TimingStep :=
  [.duplicateState 0x10 (some 1),
    .flush 0x10 (some { completion := some 1, vblankGet := true }) 100,
    .handleVblank (some (400, 401)), .handleVblank (some (500, 501))]

theorem presentTimestamp_ownFlip_first :
    let w := exampleTimingSteps.foldl CrtcOutput.step {}
    ∃ event flushedAt since state,
      FlushedSince exampleTimingSteps 0x10 event flushedAt since ∧ w.states 0x10 = some state ∧
      ∀ now, (w.takePresentTimestamp (some 0x10) now).1 =
        if waitsForFlip event state.commit then (firstVblank since).getD now else flushedAt := by
  have hrun : TimingRun exampleTimingSteps (exampleTimingSteps.foldl CrtcOutput.step {})
      (.flushed 0x10) := by
    have hclock (times : UInt64 × UInt64) (h : times.2 ≠ 0) :
        ∀ times' ∈ some times, times'.2 ≠ 0 := by
      rintro _ ⟨⟩
      exact h
    exact TimingRun.nil.append
      ⟨by decide, by decide, hclock _ (by decide), hclock _ (by decide), trivial⟩ rfl
  obtain ⟨event, flushedAt, since, state, hsince, halive, htimestamp, -⟩ :=
    (presentTimestamp_ownFlip hrun).2.2.2.2 0x10 rfl
  exact ⟨event, flushedAt, since, state, hsince, halive, htimestamp⟩

end VirtualDisplay
