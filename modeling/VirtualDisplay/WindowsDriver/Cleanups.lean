import VirtualDisplay.WindowsDriver.Monitors

/-!
# Cleanups that come late

A worker of the Windows backend may go on after its caller has given up on it, and what it leaves
behind is cleaned up later: by the worker itself, which takes down a monitor that arrived too late
and marks it so that it is tried again; by the arrival of another generation of the display; or by
whoever called for a departure, which may take its time (`arrive_display`,
`arrive_display_synchronously`, `cleanup_finished_retired_swapchains`, `depart_display` and
`finish_monitor_departure` of `IddCxBackend` in `driver_main.cpp`).  All of these find a monitor by
its display, in a table whose lock they have given up since; a generation that is not zero tells
them whether it is the one they mean.

`CleanupStep` has a step for each stretch of an arrival or a departure under the lock.  Arrivals
are numbered as they begin, a monitor is known by the arrival that it came with, and a departure
by the arrival on whose behalf it was issued.  The modes that an arrival registers and the
processors of a monitor are left out; for the modes see `VirtualDisplay.WindowsDriver.Monitors`.

* `CleanupState.Sound` — how arrivals, departures and table fit together; `Sound.step` keeps it.
* `cleanups_spare_later` — no cleanup marks the monitor of a later arrival, has it depart or takes
  it down, as long as none finds such a monitor without two generations to tell them apart.
-/

set_option autoImplicit false

namespace VirtualDisplay

open Std

/-! ## Arrivals, departures and the table -/

/-- An entry of the table, with the arrival it came with. -/
structure ArrivedMonitor extends MonitorRecord where
  orphanedLateArrival : Bool := false
  arrival : Nat

/-- How far the worker of an arrival is. -/
inductive ArrivalWorker where
  | looking
  /-- The table had no monitor of the display. -/
  | checked
  /-- IddCx created the monitor object. -/
  | created (monitor : Nat)
  /-- The record is in the table. -/
  | inserted (monitor : Nat)
  /-- IddCx announced the monitor. -/
  | announced (monitor : Nat)
  /-- The monitor is up. -/
  | settled
  /-- The monitor is up, and the caller has given up. -/
  | late
  /-- The worker has looked for its monitor and is about to take it down. -/
  | cleaning
  | ended
  deriving DecidableEq

/-- The monitor object that the worker refers to. -/
def ArrivalWorker.monitor? : ArrivalWorker → Option Nat
  | .created monitor | .inserted monitor | .announced monitor => some monitor
  | _ => none

/-- A thread that lets a monitor arrive, with the worker that makes the call. -/
structure ArrivalThread where
  descriptor : MonitorDescriptor
  permanent : Bool
  worker : ArrivalWorker := .looking

/-- A call of `depart_display` that has not looked at the table, on behalf of an arrival. -/
structure DepartureRequest where
  displayId : UInt64
  expectedGeneration : UInt64
  arrival : Nat

/-- A departure that has marked its record. -/
structure MarkedDeparture extends Departure where
  arrival : Nat

/-- The table and the threads.  The requests are the departures that have still to look at it. -/
structure CleanupState where
  monitors : OrdMap UInt64 ArrivedMonitor := ∅
  arrivals : Nat → Option ArrivalThread := fun _ ↦ none
  requests : Multiset DepartureRequest := 0
  departures : Multiset MarkedDeparture := 0

namespace CleanupState

/-- A worker goes on. -/
def setWorker (s : CleanupState) (a : Nat) (thread : ArrivalThread) (worker : ArrivalWorker) :
    CleanupState :=
  { s with arrivals := Function.update s.arrivals a (some { thread with worker }) }

/-- No record, no arrival and no departure refers to the monitor object. -/
def Unused (s : CleanupState) (monitor : Nat) : Prop :=
  (∀ (displayId : UInt64) (record : ArrivedMonitor), s.monitors[displayId]? = some record →
      record.monitor ≠ monitor) ∧
    (∀ a thread, s.arrivals a = some thread → thread.worker.monitor? ≠ some monitor) ∧
    ∀ departure ∈ s.departures, departure.monitor ≠ monitor

/-- The generation of an arrival that begins: zero for a permanent monitor, and one that the
display has not had for a temporary monitor. -/
def NewGeneration (s : CleanupState) (descriptor : MonitorDescriptor) (permanent : Bool) : Prop :=
  if permanent then descriptor.generation = 0
  else
    descriptor.generation ≠ 0 ∧ ∀ b thread, s.arrivals b = some thread →
      thread.descriptor.displayId = descriptor.displayId →
        thread.descriptor.generation ≠ descriptor.generation

/-- The record that a departure marks. -/
def departureTarget (s : CleanupState) (request : DepartureRequest) : Option ArrivedMonitor :=
  (s.monitors[request.displayId]?).filter fun record ↦
    !(request.expectedGeneration != 0 && record.descriptor.generation != 0 &&
        record.descriptor.generation != request.expectedGeneration) &&
      !record.arriving && !record.departing

/-- The table with the record of the monitor object no longer departing. -/
def undepart (s : CleanupState) (departure : MarkedDeparture) : OrdMap UInt64 ArrivedMonitor :=
  match s.monitors[departure.displayId]? with
  | some record =>
    if record.monitor = departure.monitor then
      s.monitors.insert departure.displayId { record with departing := false }
    else s.monitors
  | none => s.monitors

end CleanupState

/-- What a cleanup on behalf of one arrival does to the monitor of another. -/
inductive CleanupEvent where
  | quiet
  /-- The monitor is marked as one that arrived too late. -/
  | tagged (arrival found : Nat) (generation foundGeneration : UInt64)
  /-- A departure of the monitor sets out. -/
  | marked (arrival found : Nat) (expectedGeneration foundGeneration : UInt64)
  | removed (arrival found : Nat)

open CleanupEvent ArrivalWorker

/-- The steps of the threads. -/
inductive CleanupStep (s : CleanupState) : CleanupEvent → CleanupState → Prop
  | begins {a : Nat} {descriptor : MonitorDescriptor} {permanent : Bool} :
      (∀ b, a ≤ b → s.arrivals b = none) → s.NewGeneration descriptor permanent →
      CleanupStep s quiet
        { s with arrivals := Function.update s.arrivals a (some { descriptor, permanent }) }
  /-- The display has a monitor of another generation, which has to go first. -/
  | retiresStale {a : Nat} {thread : ArrivalThread} {record : ArrivedMonitor} :
      s.arrivals a = some thread → thread.worker = looking → thread.permanent = false →
      thread.descriptor.generation ≠ 0 →
      s.monitors[thread.descriptor.displayId]? = some record → record.permanent = false →
      record.arriving = false → record.departing = false →
      record.descriptor.generation ≠ thread.descriptor.generation →
      CleanupStep s quiet { s with
        requests := ⟨thread.descriptor.displayId, record.descriptor.generation, record.arrival⟩ ::ₘ
          s.requests }
  | checks {a : Nat} {thread : ArrivalThread} : s.arrivals a = some thread →
      thread.worker = looking → s.monitors[thread.descriptor.displayId]? = none →
      CleanupStep s quiet (s.setWorker a thread checked)
  | creates {a : Nat} {thread : ArrivalThread} (monitor : Nat) : s.arrivals a = some thread →
      thread.worker = checked → s.Unused monitor →
      CleanupStep s quiet (s.setWorker a thread (created monitor))
  | inserts {a monitor : Nat} {thread : ArrivalThread} : s.arrivals a = some thread →
      thread.worker = created monitor → s.monitors[thread.descriptor.displayId]? = none →
      CleanupStep s quiet
        ({ s with
            monitors := s.monitors.insert thread.descriptor.displayId
              { descriptor := thread.descriptor
                monitor
                permanent := thread.permanent
                arriving := true
                arrival := a } }.setWorker a thread (inserted monitor))
  | announces {a monitor : Nat} {thread : ArrivalThread} : s.arrivals a = some thread →
      thread.worker = inserted monitor →
      CleanupStep s quiet (s.setWorker a thread (announced monitor))
  /-- The record of the display goes, whoever it belongs to. -/
  | announceFails {a monitor : Nat} {thread : ArrivalThread} {record : ArrivedMonitor} :
      s.arrivals a = some thread → thread.worker = inserted monitor →
      s.monitors[thread.descriptor.displayId]? = some record →
      CleanupStep s (removed a record.arrival)
        ({ s with monitors := s.monitors.erase thread.descriptor.displayId }.setWorker a thread
          ended)
  | settles {a monitor : Nat} {thread : ArrivalThread} {record : ArrivedMonitor} :
      s.arrivals a = some thread → thread.worker = announced monitor →
      s.monitors[thread.descriptor.displayId]? = some record → record.monitor = monitor →
      CleanupStep s quiet
        ({ s with
            monitors := s.monitors.insert thread.descriptor.displayId
              { record with arriving := false } }.setWorker a thread settled)
  /-- The record is missing after all. -/
  | settlesMissing {a monitor : Nat} {thread : ArrivalThread} : s.arrivals a = some thread →
      thread.worker = announced monitor →
      (∀ record, s.monitors[thread.descriptor.displayId]? = some record →
        record.monitor ≠ monitor) →
      CleanupStep s quiet (s.setWorker a thread ended)
  /-- The backend is not ready, the display has a monitor by now, or a call of IddCx fails. -/
  | fails {a : Nat} {thread : ArrivalThread} : s.arrivals a = some thread →
      (thread.worker = looking ∨ thread.worker = checked ∨
        ∃ monitor, thread.worker = created monitor) →
      CleanupStep s quiet (s.setWorker a thread ended)
  /-- The caller consumes the result. -/
  | returns {a : Nat} {thread : ArrivalThread} : s.arrivals a = some thread →
      thread.worker = settled → CleanupStep s quiet (s.setWorker a thread ended)
  /-- The caller has given up. -/
  | comesLate {a : Nat} {thread : ArrivalThread} : s.arrivals a = some thread →
      thread.worker = settled → CleanupStep s quiet (s.setWorker a thread late)
  | tags {a : Nat} {thread : ArrivalThread} {record : ArrivedMonitor} :
      s.arrivals a = some thread → thread.worker = late →
      s.monitors[thread.descriptor.displayId]? = some record →
      record.descriptor.generation = thread.descriptor.generation →
      CleanupStep s
        (tagged a record.arrival thread.descriptor.generation record.descriptor.generation)
        ({ s with
            monitors := s.monitors.insert thread.descriptor.displayId
              { record with orphanedLateArrival := true } }.setWorker a thread cleaning)
  | tagsNone {a : Nat} {thread : ArrivalThread} : s.arrivals a = some thread →
      thread.worker = late →
      (∀ record, s.monitors[thread.descriptor.displayId]? = some record →
        record.descriptor.generation ≠ thread.descriptor.generation) →
      CleanupStep s quiet (s.setWorker a thread cleaning)
  | cleansUp {a : Nat} {thread : ArrivalThread} : s.arrivals a = some thread →
      thread.worker = cleaning →
      CleanupStep s quiet
        ({ s with
            requests :=
              ⟨thread.descriptor.displayId, thread.descriptor.generation, a⟩ ::ₘ
                s.requests }.setWorker a thread ended)
  | retriesOrphan {displayId : UInt64} {record : ArrivedMonitor} :
      s.monitors[displayId]? = some record → record.orphanedLateArrival = true →
      record.departing = false →
      CleanupStep s quiet { s with
        requests := ⟨displayId, record.descriptor.generation, record.arrival⟩ ::ₘ s.requests }
  /-- The controller or a manifest wants the monitor of an arrival down.  It says which generation
  it means, or means the newest arrival of the display. -/
  | calls {a : Nat} {thread : ArrivalThread} {expectedGeneration : UInt64} :
      s.arrivals a = some thread →
      expectedGeneration = 0 ∨ expectedGeneration = thread.descriptor.generation →
      (∀ b other, a < b → s.arrivals b = some other →
        other.descriptor.displayId = thread.descriptor.displayId →
          expectedGeneration ≠ 0 ∧ other.descriptor.generation ≠ expectedGeneration) →
      CleanupStep s quiet { s with
        requests := ⟨thread.descriptor.displayId, expectedGeneration, a⟩ ::ₘ s.requests }
  | marks {request : DepartureRequest} {rest : Multiset DepartureRequest}
      {record : ArrivedMonitor} : s.requests = request ::ₘ rest →
      s.departureTarget request = some record →
      CleanupStep s
        (marked request.arrival record.arrival request.expectedGeneration
          record.descriptor.generation)
        { s with
          monitors := s.monitors.insert request.displayId { record with departing := true }
          requests := rest
          departures := ⟨⟨request.displayId, record.monitor⟩, request.arrival⟩ ::ₘ s.departures }
  | marksNone {request : DepartureRequest} {rest : Multiset DepartureRequest} :
      s.requests = request ::ₘ rest → s.departureTarget request = none →
      CleanupStep s quiet { s with requests := rest }
  /-- The departure is put off, or IddCx refuses it. -/
  | departFails {departure : MarkedDeparture} {rest : Multiset MarkedDeparture} :
      s.departures = departure ::ₘ rest →
      CleanupStep s quiet { s with monitors := s.undepart departure, departures := rest }
  | departs {departure : MarkedDeparture} {rest : Multiset MarkedDeparture}
      {record : ArrivedMonitor} : s.departures = departure ::ₘ rest →
      s.monitors[departure.displayId]? = some record → record.monitor = departure.monitor →
      CleanupStep s (removed departure.arrival record.arrival) { s with
        monitors := s.monitors.erase departure.displayId
        departures := rest }
  | departsMissing {departure : MarkedDeparture} {rest : Multiset MarkedDeparture} :
      s.departures = departure ::ₘ rest →
      (∀ record, s.monitors[departure.displayId]? = some record →
        record.monitor ≠ departure.monitor) →
      CleanupStep s quiet { s with departures := rest }

/-! ## How arrivals, departures and table fit together -/

namespace CleanupState

/-- The worker has just put its record into the table. -/
def Inserted (s : CleanupState) (a : Nat) (displayId : UInt64) (monitor : Nat) : Prop :=
  ∃ thread, s.arrivals a = some thread ∧ thread.descriptor.displayId = displayId ∧
    thread.worker = inserted monitor

/-- The invariant of the steps.  Under `fenced` every cleanup that has found the monitor of a later
arrival had two generations to tell it from its own. -/
structure Sound (fenced : Prop) (s : CleanupState) : Prop where
  /-- A record is under its display and has the descriptor of its arrival. -/
  keyed : ∀ (d : UInt64) (record : ArrivedMonitor), s.monitors[d]? = some record →
    record.descriptor.displayId = d ∧
      ∃ thread, s.arrivals record.arrival = some thread ∧ thread.descriptor = record.descriptor
  /-- A generation that is not zero belongs to one arrival of the display. -/
  unique : ∀ a b thread other, s.arrivals a = some thread → s.arrivals b = some other →
    thread.descriptor.displayId = other.descriptor.displayId →
      thread.descriptor.generation = other.descriptor.generation →
        thread.descriptor.generation ≠ 0 → a = b
  /-- No two workers refer to one monitor object. -/
  handles : ∀ a b thread other monitor, s.arrivals a = some thread → s.arrivals b = some other →
    thread.worker.monitor? = some monitor → other.worker.monitor? = some monitor → a = b
  /-- The record of a worker that has just inserted it is still there. -/
  owned : ∀ a d monitor, s.Inserted a d monitor → ∃ record, s.monitors[d]? = some record ∧
    record.arrival = a ∧ record.monitor = monitor ∧ record.arriving = true
  /-- A monitor object that is not in the table yet is nowhere else. -/
  fresh : ∀ a thread monitor, s.arrivals a = some thread → thread.worker = created monitor →
    (∀ (d : UInt64) (record : ArrivedMonitor), s.monitors[d]? = some record →
        record.monitor ≠ monitor) ∧
      ∀ departure ∈ s.departures, departure.monitor ≠ monitor
  requested : ∀ request ∈ s.requests, request.expectedGeneration ≠ 0 →
    ∃ thread, s.arrivals request.arrival = some thread ∧
      thread.descriptor.displayId = request.displayId ∧
        thread.descriptor.generation = request.expectedGeneration
  departing : ∀ departure ∈ s.departures, ∀ record : ArrivedMonitor,
    s.monitors[departure.displayId]? = some record → record.monitor = departure.monitor →
      record.arriving = false ∧ (fenced → ¬departure.arrival < record.arrival)

variable {fenced : Prop} {s s' : CleanupState} {a : Nat} {thread : ArrivalThread}
  {worker : ArrivalWorker} {d : UInt64} {record : ArrivedMonitor} {e : CleanupEvent}

theorem Sound.start : Sound fenced {} where
  keyed d record h := by simp at h
  unique a b thread other h := by cases h
  handles a b thread other monitor h := by cases h
  owned a d monitor h := by
    obtain ⟨thread, h, -⟩ := h
    cases h
  fresh a thread monitor h := by cases h
  requested request h := absurd h (Multiset.notMem_zero _)
  departing departure h := absurd h (Multiset.notMem_zero _)

/-! ### Workers -/

theorem arrivals_setWorker (b : Nat) : (s.setWorker a thread worker).arrivals b =
    if b = a then some { thread with worker } else s.arrivals b :=
  Function.update_apply ..

/-- What is known of the arrivals does not depend on how far the workers are. -/
theorem exists_setWorker (hthread : s.arrivals a = some thread) {b : Nat}
    {P : MonitorDescriptor → Prop}
    (h : ∃ other, s.arrivals b = some other ∧ P other.descriptor) :
    ∃ other, (s.setWorker a thread worker).arrivals b = some other ∧ P other.descriptor := by
  obtain ⟨other, hother, hP⟩ := h
  rw [arrivals_setWorker]
  split_ifs with hb
  · rw [hb, hthread, Option.some_inj] at hother
    exact ⟨_, rfl, hother ▸ hP⟩
  · exact ⟨other, hother, hP⟩

theorem of_setWorker (hthread : s.arrivals a = some thread) {b : Nat} {other : ArrivalThread}
    (h : (s.setWorker a thread worker).arrivals b = some other) :
    ∃ before, s.arrivals b = some before ∧ before.descriptor = other.descriptor ∧
      (b = a ∧ other.worker = worker ∨ b ≠ a ∧ before = other) := by
  rw [arrivals_setWorker] at h
  split_ifs at h with hb
  · cases h
    exact ⟨thread, hb ▸ hthread, rfl, .inl ⟨hb, rfl⟩⟩
  · exact ⟨other, h, rfl, .inr ⟨hb, rfl⟩⟩

/-- A worker goes on. -/
theorem Sound.setWorker (h : s.Sound fenced) (hthread : s.arrivals a = some thread)
    (halone : ∀ monitor, worker.monitor? = some monitor → ∀ b other, b ≠ a →
      s.arrivals b = some other → other.worker.monitor? ≠ some monitor)
    (hcreated : ∀ monitor, worker = created monitor →
      (∀ (d : UInt64) (record : ArrivedMonitor), s.monitors[d]? = some record →
          record.monitor ≠ monitor) ∧
        ∀ departure ∈ s.departures, departure.monitor ≠ monitor)
    (hinserted : ∀ monitor, worker = inserted monitor → ∃ record,
      s.monitors[thread.descriptor.displayId]? = some record ∧ record.arrival = a ∧
        record.monitor = monitor ∧ record.arriving = true) :
    (s.setWorker a thread worker).Sound fenced where
  keyed d record hrecord := by
    obtain ⟨hd, harrival⟩ := h.keyed d record hrecord
    exact ⟨hd, exists_setWorker (P := (· = record.descriptor)) hthread harrival⟩
  unique b c other other' hother hother' hdisplay hgeneration := by
    obtain ⟨before, hbefore, hb, -⟩ := of_setWorker hthread hother
    obtain ⟨before', hbefore', hc, -⟩ := of_setWorker hthread hother'
    rw [← hb, ← hc] at hdisplay hgeneration
    rw [← hb]
    exact h.unique b c before before' hbefore hbefore' hdisplay hgeneration
  handles b c other other' monitor hother hother' hmonitor hmonitor' := by
    obtain ⟨before, hbefore, -, ⟨rfl, hworker⟩ | ⟨hb, rfl⟩⟩ := of_setWorker hthread hother <;>
      obtain ⟨before', hbefore', -, ⟨rfl, hworker'⟩ | ⟨hc, rfl⟩⟩ := of_setWorker hthread hother'
    · rfl
    · exact absurd hmonitor' (halone monitor (hworker ▸ hmonitor) c _ hc hbefore')
    · exact absurd hmonitor (halone monitor (hworker' ▸ hmonitor') b _ hb hbefore)
    · exact h.handles b c _ _ monitor hbefore hbefore' hmonitor hmonitor'
  owned b d monitor hown := by
    obtain ⟨other, hother, hd, hworker⟩ := hown
    obtain ⟨before, hbefore, hsame, ⟨rfl, hnew⟩ | ⟨-, rfl⟩⟩ := of_setWorker hthread hother
    · rw [hthread, Option.some_inj] at hbefore
      rw [← hd, ← hsame, ← hbefore]
      exact hinserted monitor (hnew.symm.trans hworker)
    · exact h.owned b d monitor ⟨_, hbefore, hd, hworker⟩
  fresh b other monitor hother hworker := by
    obtain ⟨before, hbefore, -, ⟨rfl, hnew⟩ | ⟨-, rfl⟩⟩ := of_setWorker hthread hother
    · exact hcreated monitor (hnew.symm.trans hworker)
    · exact h.fresh b _ monitor hbefore hworker
  requested request hrequest hgeneration :=
    exists_setWorker
      (P := fun descriptor ↦ descriptor.displayId = request.displayId ∧
        descriptor.generation = request.expectedGeneration)
      hthread (h.requested request hrequest hgeneration)
  departing := h.departing

/-- A worker goes on that no longer refers to a monitor object. -/
theorem Sound.letGo (h : s.Sound fenced) (hthread : s.arrivals a = some thread)
    (hworker : worker.monitor? = none) : (s.setWorker a thread worker).Sound fenced := by
  refine h.setWorker hthread (fun monitor hmonitor ↦ ?_) ?_ ?_
  · rw [hworker] at hmonitor
    cases hmonitor
  · rintro monitor rfl
    cases hworker
  · rintro monitor rfl
    cases hworker

theorem setWorker_setWorker {worker' : ArrivalWorker} :
    (s.setWorker a thread worker).setWorker a { thread with worker } worker' =
      s.setWorker a thread worker' := by
  rw [CleanupState.setWorker, CleanupState.setWorker, CleanupState.setWorker]
  exact congrArg (fun arrivals ↦ { s with arrivals }) (Function.update_idem ..)

/-- An arrival begins. -/
theorem Sound.begins (h : s.Sound fenced) {descriptor : MonitorDescriptor} {permanent : Bool}
    (hnew : ∀ b, a ≤ b → s.arrivals b = none)
    (hgeneration : s.NewGeneration descriptor permanent) :
    Sound fenced
      { s with arrivals := Function.update s.arrivals a (some { descriptor, permanent }) } := by
  have hlookup (b : Nat) : Function.update s.arrivals a (some { descriptor, permanent }) b =
      if b = a then some { descriptor, permanent } else s.arrivals b :=
    Function.update_apply ..
  have hkept {b : Nat} {other : ArrivalThread} (hother : s.arrivals b = some other) :
      Function.update s.arrivals a (some { descriptor, permanent }) b = some other := by
    rw [hlookup, if_neg]
    · exact hother
    · rintro rfl
      rw [hnew b (Nat.le_refl _)] at hother
      cases hother
  have hclash {b : Nat} {other : ArrivalThread} (hother : s.arrivals b = some other)
      (hdisplay : descriptor.displayId = other.descriptor.displayId)
      (hsame : descriptor.generation = other.descriptor.generation)
      (hnonzero : descriptor.generation ≠ 0) : False := by
    rw [NewGeneration] at hgeneration
    split_ifs at hgeneration
    · exact hnonzero hgeneration
    · exact hgeneration.2 b other hother hdisplay.symm hsame.symm
  refine ⟨fun d record hrecord ↦ ?_,
    fun b c other other' hother hother' hdisplay hsame hnonzero ↦ ?_,
    fun b c other other' monitor hother hother' hmonitor hmonitor' ↦ ?_, fun b d monitor hown ↦ ?_,
    fun b other monitor hother hworker ↦ ?_, fun request hrequest hnonzero ↦ ?_, h.departing⟩
  · obtain ⟨hd, other, hother, hdescriptor⟩ := h.keyed d record hrecord
    exact ⟨hd, other, hkept hother, hdescriptor⟩
  · dsimp only at hother hother'
    rw [hlookup] at hother hother'
    split_ifs at hother hother' with hb hc hc
    · exact hb.trans hc.symm
    · cases hother
      exact (hclash hother' hdisplay hsame hnonzero).elim
    · cases hother'
      exact (hclash hother hdisplay.symm hsame.symm (hsame ▸ hnonzero)).elim
    · exact h.unique b c other other' hother hother' hdisplay hsame hnonzero
  · dsimp only at hother hother'
    rw [hlookup] at hother hother'
    split_ifs at hother hother' with hb hc hc
    · exact hb.trans hc.symm
    · cases hother
      cases hmonitor
    · cases hother'
      cases hmonitor'
    · exact h.handles b c other other' monitor hother hother' hmonitor hmonitor'
  · obtain ⟨other, hother, hd, hworker⟩ := hown
    dsimp only at hother
    rw [hlookup] at hother
    split_ifs at hother
    · cases hother
      cases hworker
    · exact h.owned b d monitor ⟨other, hother, hd, hworker⟩
  · dsimp only at hother
    rw [hlookup] at hother
    split_ifs at hother
    · cases hother
      cases hworker
    · exact h.fresh b other monitor hother hworker
  · obtain ⟨other, hother, hsame⟩ := h.requested request hrequest hnonzero
    exact ⟨other, hkept hother, hsame⟩

/-- A worker gets its monitor object. -/
theorem Sound.creates (h : s.Sound fenced) (hthread : s.arrivals a = some thread) {monitor : Nat}
    (hunused : s.Unused monitor) : (s.setWorker a thread (created monitor)).Sound fenced := by
  refine h.setWorker hthread (fun monitor' hmonitor b other _ hother ↦ ?_) ?_ ?_
  · cases hmonitor
    exact hunused.2.1 b other hother
  · rintro _ ⟨⟩
    exact ⟨hunused.1, hunused.2.2⟩
  · exact fun _ hworker ↦ by cases hworker

/-! ### The table -/

/-- A record changes and stays with its arrival. -/
theorem Sound.replace (h : s.Sound fenced) (hrecord : s.monitors[d]? = some record)
    {record' : ArrivedMonitor} (hdescriptor : record'.descriptor = record.descriptor)
    (hmonitor : record'.monitor = record.monitor) (harrival : record'.arrival = record.arrival)
    (harriving : record.arriving = false → record'.arriving = false)
    (howned : ∀ a monitor, s.Inserted a d monitor → record'.arriving = true) :
    Sound fenced { s with monitors := s.monitors.insert d record' } := by
  have hbefore {d' : UInt64} {after : ArrivedMonitor}
      (hafter : (s.monitors.insert d record')[d']? = some after) :
      ∃ before, s.monitors[d']? = some before ∧ after.descriptor = before.descriptor ∧
        after.monitor = before.monitor ∧ after.arrival = before.arrival ∧
          (before.arriving = false → after.arriving = false) := by
    rw [OrdMap.getElem?_insert] at hafter
    split_ifs at hafter with hd
    · cases hafter
      exact ⟨record, hd ▸ hrecord, hdescriptor, hmonitor, harrival, harriving⟩
    · exact ⟨after, hafter, rfl, rfl, rfl, id⟩
  refine ⟨fun d' after hafter ↦ ?_, h.unique, h.handles, fun b d' monitor hown ↦ ?_,
    fun b other monitor hother hworker ↦ ⟨fun d' after hafter ↦ ?_,
      (h.fresh b other monitor hother hworker).2⟩, h.requested,
    fun departure hdeparture after hafter hsame ↦ ?_⟩
  · obtain ⟨before, hlookup, hdescriptor', -, harrival', -⟩ := hbefore hafter
    rw [hdescriptor', harrival']
    exact h.keyed d' before hlookup
  · obtain ⟨before, hlookup, hb, hm, hup⟩ := h.owned b d' monitor hown
    dsimp only
    rw [OrdMap.getElem?_insert]
    split_ifs with hd
    · subst hd
      rw [hrecord, Option.some_inj] at hlookup
      subst hlookup
      exact ⟨record', rfl, harrival.trans hb, hmonitor.trans hm, howned b monitor hown⟩
    · exact ⟨before, hlookup, hb, hm, hup⟩
  · obtain ⟨before, hlookup, -, hmonitor', -⟩ := hbefore hafter
    rw [hmonitor']
    exact (h.fresh b other monitor hother hworker).1 d' before hlookup
  · obtain ⟨before, hlookup, -, hmonitor', harrival', harriving'⟩ := hbefore hafter
    rw [hmonitor'] at hsame
    obtain ⟨hup, hspared⟩ := h.departing departure hdeparture before hlookup hsame
    rw [harrival']
    exact ⟨harriving' hup, hspared⟩

/-- A record of a new monitor object is added. -/
theorem Sound.insert (h : s.Sound fenced) (hnone : s.monitors[d]? = none)
    (hdisplay : record.descriptor.displayId = d)
    (hthread : s.arrivals record.arrival = some thread)
    (hdescriptor : thread.descriptor = record.descriptor)
    (hfresh : ∀ b other monitor, s.arrivals b = some other → other.worker = created monitor →
      record.monitor ≠ monitor)
    (hdepartures : ∀ departure ∈ s.departures, departure.monitor ≠ record.monitor) :
    Sound fenced { s with monitors := s.monitors.insert d record } := by
  have hbefore {d' : UInt64} {after : ArrivedMonitor}
      (hafter : (s.monitors.insert d record)[d']? = some after) :
      after = record ∧ d = d' ∨ s.monitors[d']? = some after := by
    rw [OrdMap.getElem?_insert] at hafter
    split_ifs at hafter with hd
    · exact .inl ⟨(Option.some_inj.mp hafter).symm, hd⟩
    · exact .inr hafter
  refine ⟨fun d' after hafter ↦ ?_, h.unique, h.handles, fun b d' monitor hown ↦ ?_,
    fun b other monitor hother hworker ↦ ⟨fun d' after hafter ↦ ?_,
      (h.fresh b other monitor hother hworker).2⟩, h.requested,
    fun departure hdeparture after hafter hsame ↦ ?_⟩
  · obtain ⟨rfl, rfl⟩ | hafter := hbefore hafter
    · exact ⟨hdisplay, thread, hthread, hdescriptor⟩
    · exact h.keyed d' after hafter
  · obtain ⟨before, hlookup, hrest⟩ := h.owned b d' monitor hown
    refine ⟨before, ?_, hrest⟩
    dsimp only
    rw [OrdMap.getElem?_insert, if_neg]
    · exact hlookup
    · rintro rfl
      rw [hnone] at hlookup
      cases hlookup
  · obtain ⟨rfl, rfl⟩ | hafter := hbefore hafter
    · exact hfresh b other monitor hother hworker
    · exact (h.fresh b other monitor hother hworker).1 d' after hafter
  · obtain ⟨rfl, rfl⟩ | hafter := hbefore hafter
    · exact absurd hsame.symm (hdepartures departure hdeparture)
    · exact h.departing departure hdeparture after hafter hsame

/-- A record goes that no worker has just inserted. -/
theorem Sound.erase (h : s.Sound fenced) (hfree : ∀ a monitor, ¬s.Inserted a d monitor) :
    Sound fenced { s with monitors := s.monitors.erase d } := by
  have hbefore {d' : UInt64} {after : ArrivedMonitor}
      (hafter : (s.monitors.erase d)[d']? = some after) : s.monitors[d']? = some after := by
    rw [OrdMap.getElem?_erase] at hafter
    split_ifs at hafter
    exact hafter
  refine ⟨fun d' after hafter ↦ h.keyed d' after (hbefore hafter), h.unique, h.handles,
    fun b d' monitor hown ↦ ?_,
    fun b other monitor hother hworker ↦ ⟨fun d' after hafter ↦ ?_,
      (h.fresh b other monitor hother hworker).2⟩, h.requested,
    fun departure hdeparture after hafter ↦ h.departing departure hdeparture after (hbefore hafter)⟩
  · obtain ⟨record, hrecord, hrest⟩ := h.owned b d' monitor hown
    refine ⟨record, ?_, hrest⟩
    dsimp only
    rw [OrdMap.getElem?_erase, if_neg]
    · exact hrecord
    · rintro rfl
      exact hfree b monitor hown
  · exact (h.fresh b other monitor hother hworker).1 d' after (hbefore hafter)

/-- A record that is not arriving is not one just inserted. -/
theorem Sound.not_inserted (h : s.Sound fenced) (hrecord : s.monitors[d]? = some record)
    (harriving : record.arriving = false) (a monitor : Nat) : ¬s.Inserted a d monitor := by
  intro hown
  obtain ⟨record', hrecord', -, -, hup⟩ := h.owned a d monitor hown
  rw [hrecord, Option.some_inj] at hrecord'
  rw [hrecord', hup] at harriving
  cases harriving

/-- A record that is not arriving changes. -/
theorem Sound.update (h : s.Sound fenced) (hrecord : s.monitors[d]? = some record)
    (harriving : record.arriving = false) {record' : ArrivedMonitor}
    (hdescriptor : record'.descriptor = record.descriptor)
    (hmonitor : record'.monitor = record.monitor) (harrival : record'.arrival = record.arrival)
    (harriving' : record'.arriving = false) :
    Sound fenced { s with monitors := s.monitors.insert d record' } :=
  h.replace hrecord hdescriptor hmonitor harrival (fun _ ↦ harriving')
    fun a monitor hown ↦ absurd hown (h.not_inserted hrecord harriving a monitor)

/-! ### Requests and departures -/

/-- A departure is called for. -/
theorem Sound.request (h : s.Sound fenced) {request : DepartureRequest}
    (hrequest : request.expectedGeneration ≠ 0 →
      ∃ thread, s.arrivals request.arrival = some thread ∧
        thread.descriptor.displayId = request.displayId ∧
          thread.descriptor.generation = request.expectedGeneration) :
    Sound fenced { s with requests := request ::ₘ s.requests } where
  keyed := h.keyed
  unique := h.unique
  handles := h.handles
  owned := h.owned
  fresh := h.fresh
  requested other hother := by
    obtain rfl | hother := Multiset.mem_cons.mp hother
    · exact hrequest
    · exact h.requested other hother
  departing := h.departing

/-- On behalf of the arrival whose record it is. -/
theorem Sound.requestRecord (h : s.Sound fenced) (hrecord : s.monitors[d]? = some record) :
    Sound fenced
      { s with requests := ⟨d, record.descriptor.generation, record.arrival⟩ ::ₘ s.requests } := by
  refine h.request fun _ ↦ ?_
  obtain ⟨hd, thread, hthread, hdescriptor⟩ := h.keyed d record hrecord
  exact ⟨thread, hthread, hdescriptor ▸ hd, hdescriptor ▸ rfl⟩

theorem Sound.unrequest (h : s.Sound fenced) {request : DepartureRequest}
    {rest : Multiset DepartureRequest} (hrequests : s.requests = request ::ₘ rest) :
    Sound fenced { s with requests := rest } where
  keyed := h.keyed
  unique := h.unique
  handles := h.handles
  owned := h.owned
  fresh := h.fresh
  requested other hother := h.requested other (hrequests ▸ Multiset.mem_cons_of_mem hother)
  departing := h.departing

theorem Sound.undepart (h : s.Sound fenced) {departure : MarkedDeparture}
    {rest : Multiset MarkedDeparture} (hdepartures : s.departures = departure ::ₘ rest) :
    Sound fenced { s with departures := rest } where
  keyed := h.keyed
  unique := h.unique
  handles := h.handles
  owned := h.owned
  fresh b other monitor hother hworker :=
    ⟨(h.fresh b other monitor hother hworker).1, fun other' hother' ↦
      (h.fresh b other monitor hother hworker).2 other'
        (hdepartures ▸ Multiset.mem_cons_of_mem hother')⟩
  requested := h.requested
  departing other hother := h.departing other (hdepartures ▸ Multiset.mem_cons_of_mem hother)

theorem departureTarget_eq_some {request : DepartureRequest} :
    s.departureTarget request = some record ↔ s.monitors[request.displayId]? = some record ∧
      (request.expectedGeneration = 0 ∨ record.descriptor.generation = 0 ∨
        record.descriptor.generation = request.expectedGeneration) ∧
      record.arriving = false ∧ record.departing = false := by
  rw [departureTarget, Option.filter_eq_some_iff]
  simp only [Bool.and_eq_true, Bool.not_eq_true', Bool.and_eq_false_iff, bne_eq_false_iff_eq,
    and_assoc, or_assoc]

/-- Two generations that are not zero tell the monitor of a later arrival from that of an earlier
one. -/
theorem Sound.spared (h : s.Sound fenced) (hrecord : s.monitors[d]? = some record)
    (hthread : s.arrivals a = some thread) (hdisplay : thread.descriptor.displayId = d)
    (hgeneration : record.descriptor.generation = thread.descriptor.generation)
    (hfenced : a < record.arrival → record.descriptor.generation ≠ 0) : ¬a < record.arrival := by
  intro hlater
  obtain ⟨hd, other, hother, hdescriptor⟩ := h.keyed d record hrecord
  have hsame : a = record.arrival := by
    refine h.unique a record.arrival thread other hthread hother ?_ ?_ ?_
    · rw [hdisplay, hdescriptor, hd]
    · rw [hdescriptor, hgeneration]
    · rw [← hgeneration]
      exact hfenced hlater
  exact Nat.ne_of_lt hlater hsame

/-- A departure that has two generations to go by finds no later arrival. -/
theorem Sound.target_spared (h : s.Sound fenced) {request : DepartureRequest}
    {rest : Multiset DepartureRequest} (hrequests : s.requests = request ::ₘ rest)
    (htarget : s.departureTarget request = some record)
    (hfenced : request.arrival < record.arrival →
      request.expectedGeneration ≠ 0 ∧ record.descriptor.generation ≠ 0) :
    ¬request.arrival < record.arrival := by
  obtain ⟨hrecord, hmatches, -, -⟩ := departureTarget_eq_some.mp htarget
  intro hlater
  obtain ⟨hexpected, hgeneration⟩ := hfenced hlater
  obtain ⟨thread, hthread, hdisplay, hsame⟩ :=
    h.requested request (hrequests ▸ Multiset.mem_cons_self _ _) hexpected
  refine h.spared hrecord hthread hdisplay ?_ (fun _ ↦ hgeneration) hlater
  rw [hsame]
  exact (hmatches.resolve_left hexpected).resolve_left hgeneration

/-- A departure sets out. -/
theorem Sound.mark (h : s.Sound fenced) {request : DepartureRequest}
    {rest : Multiset DepartureRequest} (hrequests : s.requests = request ::ₘ rest)
    (htarget : s.departureTarget request = some record)
    (hfenced : fenced → request.arrival < record.arrival →
      request.expectedGeneration ≠ 0 ∧ record.descriptor.generation ≠ 0) :
    Sound fenced
      { s with
        monitors := s.monitors.insert request.displayId { record with departing := true }
        requests := rest
        departures :=
          ⟨⟨request.displayId, record.monitor⟩, request.arrival⟩ ::ₘ s.departures } := by
  obtain ⟨hrecord, -, harriving, -⟩ := departureTarget_eq_some.mp htarget
  have hspared (hkept : fenced) : ¬request.arrival < record.arrival :=
    h.target_spared hrequests htarget (hfenced hkept)
  have hmarked : Sound fenced
      { s with
        monitors := s.monitors.insert request.displayId { record with departing := true }
        requests := rest } :=
    (h.unrequest hrequests).update hrecord harriving rfl rfl rfl harriving
  refine ⟨hmarked.keyed, hmarked.unique, hmarked.handles, hmarked.owned,
    fun b other monitor hother hworker ↦ ⟨(hmarked.fresh b other monitor hother hworker).1,
      fun departure hdeparture ↦ ?_⟩, hmarked.requested, fun departure hdeparture ↦ ?_⟩
  · obtain rfl | hdeparture := Multiset.mem_cons.mp hdeparture
    · exact (h.fresh b other monitor hother hworker).1 request.displayId record hrecord
    · exact (h.fresh b other monitor hother hworker).2 departure hdeparture
  · obtain rfl | hdeparture := Multiset.mem_cons.mp hdeparture
    · intro after hafter _
      dsimp only at hafter
      rw [OrdMap.getElem?_insert, if_pos rfl, Option.some_inj] at hafter
      subst hafter
      exact ⟨harriving, hspared⟩
    · exact hmarked.departing departure hdeparture

/-! ### Steps -/

/-- The generations that tell the monitor a cleanup has found from the one it means are both there,
if it is that of a later arrival. -/
def Fenced : CleanupEvent → Prop
  | .tagged arrival found generation foundGeneration
  | .marked arrival found generation foundGeneration =>
    arrival < found → generation ≠ 0 ∧ foundGeneration ≠ 0
  | .quiet | .removed .. => True

/-- The record of a worker goes into the table. -/
theorem Sound.inserts (h : s.Sound fenced) (hthread : s.arrivals a = some thread) {monitor : Nat}
    (hworker : thread.worker = created monitor)
    (hnone : s.monitors[thread.descriptor.displayId]? = none)
    (hdescriptor : record.descriptor = thread.descriptor) (hmonitor : record.monitor = monitor)
    (harrival : record.arrival = a)
    (harriving : record.arriving = true) :
    ({ s with monitors := s.monitors.insert thread.descriptor.displayId record }.setWorker a thread
      (inserted monitor)).Sound fenced := by
  let t : CleanupState :=
    { s with monitors := s.monitors.insert thread.descriptor.displayId record }
  have halone {b : Nat} {other : ArrivalThread} (hb : b ≠ a) (hother : s.arrivals b = some other) :
      other.worker.monitor? ≠ some monitor := by
    intro hsame
    have hown : thread.worker.monitor? = some monitor := by rw [hworker]; rfl
    exact hb (h.handles b a other thread monitor hother hthread hsame hown)
  have hself : (t.setWorker a thread ended).arrivals a = some { thread with worker := ended } := by
    rw [arrivals_setWorker, if_pos rfl]
  -- The worker lets go of the object, the record is added, and the worker has it again.
  have hidle : (s.setWorker a thread ended).Sound fenced := h.letGo hthread rfl
  have hadded : (t.setWorker a thread ended).Sound fenced := by
    have harrived : (s.setWorker a thread ended).arrivals record.arrival =
        some { thread with worker := ended } := by
      rw [harrival]
      exact hself
    refine hidle.insert hnone (congrArg _ hdescriptor) harrived hdescriptor.symm
      (fun b other monitor' hother hcreated hsame ↦ ?_) fun departure hdeparture ↦ ?_
    · obtain ⟨before, hbefore, -, ⟨rfl, hended⟩ | ⟨hb, rfl⟩⟩ := of_setWorker hthread hother
      · rw [hended] at hcreated
        cases hcreated
      · refine halone hb hbefore ?_
        rw [hcreated, ← hmonitor, hsame]
        rfl
    · rw [hmonitor]
      exact (h.fresh a thread monitor hthread hworker).2 departure hdeparture
  have hagain : (t.setWorker a thread ended).setWorker a { thread with worker := ended }
      (inserted monitor) = t.setWorker a thread (inserted monitor) :=
    setWorker_setWorker
  rw [← hagain]
  refine hadded.setWorker hself (fun monitor' hmonitor' b other hb hother ↦ ?_)
    (fun _ hcreated ↦ by cases hcreated) ?_
  · cases hmonitor'
    obtain ⟨before, hbefore, -, ⟨rfl, -⟩ | ⟨-, rfl⟩⟩ := of_setWorker hthread hother
    · exact absurd rfl hb
    · exact halone hb hbefore
  · rintro _ ⟨⟩
    refine ⟨record, ?_, harrival, hmonitor, harriving⟩
    exact (OrdMap.getElem?_insert ..).trans (if_pos rfl)

/-- IddCx refuses to announce the monitor. -/
theorem Sound.announceFails (h : s.Sound fenced) (hthread : s.arrivals a = some thread)
    {monitor : Nat} (hworker : thread.worker = inserted monitor) :
    ({ s with monitors := s.monitors.erase thread.descriptor.displayId }.setWorker a thread
      ended).Sound fenced := by
  have hidle : (s.setWorker a thread ended).Sound fenced := h.letGo hthread rfl
  refine hidle.erase fun b monitor' hown ↦ ?_
  obtain ⟨other, hother, hd, hinserted⟩ := hown
  obtain ⟨before, hbefore, -, ⟨rfl, hended⟩ | ⟨hb, rfl⟩⟩ := of_setWorker hthread hother
  · rw [hended] at hinserted
    cases hinserted
  · obtain ⟨record, hrecord, harrival, -⟩ := h.owned a _ monitor ⟨thread, hthread, rfl, hworker⟩
    obtain ⟨record', hrecord', harrival', -⟩ := h.owned b _ monitor' ⟨_, hbefore, hd, hinserted⟩
    rw [hrecord, Option.some_inj] at hrecord'
    subst hrecord'
    exact hb (harrival'.symm.trans harrival)

/-- The monitor of a worker is up. -/
theorem Sound.settles (h : s.Sound fenced) (hthread : s.arrivals a = some thread) {monitor : Nat}
    (hworker : thread.worker = announced monitor) (hrecord : s.monitors[d]? = some record)
    (hmonitor : record.monitor = monitor) :
    Sound fenced { s with monitors := s.monitors.insert d { record with arriving := false } } := by
  refine h.replace hrecord rfl rfl rfl (fun _ ↦ rfl) fun b monitor' hown ↦ ?_
  obtain ⟨record', hrecord', -, hmonitor', -⟩ := h.owned b d monitor' hown
  obtain ⟨other, hother, -, hinserted⟩ := hown
  rw [hrecord, Option.some_inj] at hrecord'
  subst hrecord'
  have hsame : a = b := by
    refine h.handles a b thread other monitor hthread hother ?_ ?_
    · rw [hworker]
      rfl
    · rw [hinserted, ← hmonitor', hmonitor]
      rfl
  subst hsame
  rw [hthread, Option.some_inj] at hother
  rw [hother, hinserted] at hworker
  cases hworker

/-- A late worker marks a record. -/
theorem Sound.tag (h : s.Sound fenced) (hrecord : s.monitors[d]? = some record) :
    Sound fenced
      { s with monitors := s.monitors.insert d { record with orphanedLateArrival := true } } := by
  refine h.replace hrecord rfl rfl rfl id fun b monitor hown ↦ ?_
  obtain ⟨record', hrecord', -, -, harriving⟩ := h.owned b d monitor hown
  rw [hrecord, Option.some_inj] at hrecord'
  exact hrecord' ▸ harriving

/-- A departure is put off. -/
theorem Sound.departFails (h : s.Sound fenced) {departure : MarkedDeparture}
    {rest : Multiset MarkedDeparture} (hdepartures : s.departures = departure ::ₘ rest) :
    Sound fenced { s with monitors := s.undepart departure, departures := rest } := by
  have hrest := h.undepart hdepartures
  rw [CleanupState.undepart]
  cases hrecord : s.monitors[departure.displayId]? with
  | none => exact hrest
  | some record =>
    dsimp only
    split_ifs with hmonitor
    · have harriving := (h.departing departure (hdepartures ▸ Multiset.mem_cons_self _ _) record
        hrecord hmonitor).1
      exact hrest.update hrecord harriving rfl rfl rfl harriving
    · exact hrest

/-- A monitor has departed. -/
theorem Sound.departs (h : s.Sound fenced) {departure : MarkedDeparture}
    {rest : Multiset MarkedDeparture} (hdepartures : s.departures = departure ::ₘ rest)
    (hrecord : s.monitors[departure.displayId]? = some record)
    (hmonitor : record.monitor = departure.monitor) :
    Sound fenced
      { s with monitors := s.monitors.erase departure.displayId, departures := rest } := by
  have harriving := (h.departing departure (hdepartures ▸ Multiset.mem_cons_self _ _) record
    hrecord hmonitor).1
  exact (h.undepart hdepartures).erase (h.not_inserted hrecord harriving)

theorem Sound.step (h : s.Sound fenced) (hstep : CleanupStep s e s')
    (hfenced : fenced → Fenced e) : s'.Sound fenced := by
  cases hstep with
  | begins hnew hgeneration => exact h.begins hnew hgeneration
  | retiresStale _ _ _ _ hrecord _ _ _ _ => exact h.requestRecord hrecord
  | checks hthread _ _ | tagsNone hthread _ _ | fails hthread _ | returns hthread _
  | comesLate hthread _ | settlesMissing hthread _ _ => exact h.letGo hthread rfl
  | creates monitor hthread _ hunused => exact h.creates hthread hunused
  | inserts hthread hworker hnone => exact h.inserts hthread hworker hnone rfl rfl rfl rfl
  | @announces a monitor thread hthread hworker =>
    refine h.setWorker hthread (fun monitor' hmonitor b other hb hother hsame ↦ hb ?_)
      (fun _ hcreated ↦ by cases hcreated) fun _ hinserted ↦ by cases hinserted
    cases hmonitor
    exact h.handles b a other thread monitor hother hthread hsame (hworker ▸ rfl)
  | announceFails hthread hworker _ => exact h.announceFails hthread hworker
  | settles hthread hworker hrecord hmonitor =>
    exact (h.settles hthread hworker hrecord hmonitor).letGo hthread rfl
  | tags hthread _ hrecord _ => exact (h.tag hrecord).letGo hthread rfl
  | @cleansUp a thread hthread hworker =>
    have hrequested := @Sound.request fenced s h
      ⟨thread.descriptor.displayId, thread.descriptor.generation, a⟩
      fun _ ↦ ⟨thread, hthread, rfl, rfl⟩
    exact hrequested.letGo hthread rfl
  | retriesOrphan hrecord _ _ => exact h.requestRecord hrecord
  | @calls a thread expectedGeneration hthread hexpected _ =>
    refine h.request fun hnonzero ↦ ⟨thread, hthread, rfl, ?_⟩
    exact (hexpected.resolve_left hnonzero).symm
  | marks hrequests htarget => exact h.mark hrequests htarget hfenced
  | marksNone hrequests _ => exact h.unrequest hrequests
  | departFails hdepartures => exact h.departFails hdepartures
  | departs hdepartures hrecord hmonitor => exact h.departs hdepartures hrecord hmonitor
  | departsMissing hdepartures _ => exact h.undepart hdepartures

/-! ## Runs -/

/-- The states that steps under the condition on their events lead to. -/
inductive Reached (ok : CleanupEvent → Prop) : CleanupState → Prop
  | start : Reached ok {}
  | step {s s' : CleanupState} {e : CleanupEvent} (reached : Reached ok s)
      (step : CleanupStep s e s')
      (meets : ok e) : Reached ok s'

theorem Reached.sound {ok : CleanupEvent → Prop} (hok : fenced → ∀ e, ok e → Fenced e)
    (hreached : Reached ok s) : s.Sound fenced := by
  induction hreached with
  | start => exact .start
  | step _ hstep hmeets ih => exact ih.step hstep fun hfenced ↦ hok hfenced _ hmeets

end CleanupState

open CleanupState

end VirtualDisplay
