import Mathlib

/-!
# Workers that outlive their callers

A call of IddCx may hang, so the Windows backend makes the ones that can on a thread of their own
and waits for it with a timeout: monitor arrivals (`arrive_display`), monitor departures
(`depart_monitor_with_timeout`) and preferences for a render adapter (`set_render_adapter`,
`adapter_init_finished`; all of `IddCxBackend` in `driver_main.cpp`).  A worker whose caller has
given up goes on by itself.  Three counters say how many workers are out; a flag says that some
caller has given up on one, and no display is created while it is set.

`LifecycleStep` has a step for each stretch of a caller or a worker under the lock of the backend,
for a thread that starts and for one that cannot be started.  A departure may begin at any time, on
whatever thread: the one of a late arrival is such a departure.  The counters count live threads;
they are numbers here, and `uint32_t` in the source.

* `LifecycleCounted` — what holds in every reachable state; `LifecycleCounted.step` keeps it.
* `lifecycle_counted` — the counters count, and the flag is down when every worker has finished.
-/

set_option autoImplicit false

namespace VirtualDisplay

/-! ## Calls -/

/-- Where a worker that takes a monitor down, or changes the adapter, stands. -/
inductive WorkerPhase where
  /-- Counted; the thread is being created. -/
  | starting
  | running
  /-- The worker has reported that it is done, or never came to be. -/
  | reported
  deriving DecidableEq

/-- A departure or a preference for a render adapter. -/
structure BoundedCall where
  worker : WorkerPhase := .starting
  callerWaits : Bool := true
  deriving DecidableEq

/-- Where a worker that lets a monitor arrive stands. -/
inductive ArrivalWorkerPhase where
  /-- Counted; the thread is being created. -/
  | starting
  | arriving
  /-- The worker has seen whether its caller still waits; if not, it cleans up after itself. -/
  | decided
  /-- The worker has reported that it is done, or never came to be. -/
  | reported
  deriving DecidableEq

/-- An arrival, with the `ArrivalState` that its worker and its caller share. -/
structure ArrivalCall where
  worker : ArrivalWorkerPhase := .starting
  workerDone : Bool := false
  callerTimedOut : Bool := false
  callerWaits : Bool := true
  deriving DecidableEq

/-- The worker has still to report. -/
def BoundedCall.Outstanding (call : BoundedCall) : Prop := call.worker ≠ .reported

instance : DecidablePred BoundedCall.Outstanding :=
  fun _ ↦ inferInstanceAs (Decidable (_ ≠ _))

/-- The worker has still to report. -/
def ArrivalCall.Outstanding (call : ArrivalCall) : Prop := call.worker ≠ .reported

instance : DecidablePred ArrivalCall.Outstanding :=
  fun _ ↦ inferInstanceAs (Decidable (_ ≠ _))

/-! ## The backend -/

/-- The counters and the flag of the backend, and the calls that have begun. -/
structure BackendLifecycle where
  monitorArrivalsInFlight : Nat := 0
  monitorDeparturesInFlight : Nat := 0
  renderAdapterCallsInFlight : Nat := 0
  lifecycleUnhealthy : Bool := false
  arrivals : Multiset ArrivalCall := 0
  departures : Multiset BoundedCall := 0
  renderAdapterCalls : Multiset BoundedCall := 0

namespace BackendLifecycle

/-- When nothing is in flight any more, the driver is healthy again. -/
def clearLifecycleUnhealthyIfSettledLocked (s : BackendLifecycle) : BackendLifecycle :=
  if s.monitorArrivalsInFlight = 0 ∧ s.monitorDeparturesInFlight = 0 ∧
      s.renderAdapterCallsInFlight = 0 then
    { s with lifecycleUnhealthy := false }
  else s

/-- An arrival is no longer in flight. -/
def finishMonitorArrival (s : BackendLifecycle) : BackendLifecycle :=
  clearLifecycleUnhealthyIfSettledLocked
    { s with
      monitorArrivalsInFlight :=
        if 0 < s.monitorArrivalsInFlight then s.monitorArrivalsInFlight - 1
        else s.monitorArrivalsInFlight }

/-- What it does to the table of monitors is left out. -/
def finishMonitorDeparture (s : BackendLifecycle) : BackendLifecycle :=
  clearLifecycleUnhealthyIfSettledLocked
    { s with
      monitorDeparturesInFlight :=
        if 0 < s.monitorDeparturesInFlight then s.monitorDeparturesInFlight - 1
        else s.monitorDeparturesInFlight }

/-- A change of the adapter is no longer in flight. -/
def finishRenderAdapterCall (s : BackendLifecycle) : BackendLifecycle :=
  clearLifecycleUnhealthyIfSettledLocked
    { s with
      renderAdapterCallsInFlight :=
        if 0 < s.renderAdapterCallsInFlight then s.renderAdapterCallsInFlight - 1
        else s.renderAdapterCallsInFlight }

end BackendLifecycle

open BackendLifecycle

/-- The steps of callers and workers. -/
inductive LifecycleStep : BackendLifecycle → BackendLifecycle → Prop
  | arrivalBegins (s : BackendLifecycle) :
      LifecycleStep s { s with
        monitorArrivalsInFlight := s.monitorArrivalsInFlight + 1
        arrivals := {} ::ₘ s.arrivals }
  | arrivalThreadFails (s : BackendLifecycle) {call : ArrivalCall} {rest : Multiset ArrivalCall} :
      s.arrivals = call ::ₘ rest → call.worker = .starting →
      LifecycleStep s (finishMonitorArrival { s with
        arrivals := { call with worker := .reported, callerWaits := false } ::ₘ rest })
  | arrivalThreadStarts (s : BackendLifecycle) {call : ArrivalCall}
      {rest : Multiset ArrivalCall} :
      s.arrivals = call ::ₘ rest → call.worker = .starting →
      LifecycleStep s { s with arrivals := { call with worker := .arriving } ::ₘ rest }
  /-- The worker takes the lock: its caller consumes the result, or has given up. -/
  | arrivalDecides (s : BackendLifecycle) {call : ArrivalCall} {rest : Multiset ArrivalCall} :
      s.arrivals = call ::ₘ rest → call.worker = .arriving →
      LifecycleStep s { s with
        arrivals :=
          { call with
            worker := .decided
            workerDone := if call.callerTimedOut then call.workerDone else true } ::ₘ rest }
  | arrivalReports (s : BackendLifecycle) {call : ArrivalCall} {rest : Multiset ArrivalCall} :
      s.arrivals = call ::ₘ rest → call.worker = .decided →
      LifecycleStep s (finishMonitorArrival { s with
        arrivals := { call with worker := .reported } ::ₘ rest })
  /-- The caller, done with waiting, takes the lock and finds the result. -/
  | arrivalReturns (s : BackendLifecycle) {call : ArrivalCall} {rest : Multiset ArrivalCall} :
      s.arrivals = call ::ₘ rest → call.worker ≠ .starting → call.callerWaits = true →
      call.workerDone = true →
      LifecycleStep s { s with arrivals := { call with callerWaits := false } ::ₘ rest }
  /-- The caller, done with waiting, takes the lock and finds no result. -/
  | arrivalTimesOut (s : BackendLifecycle) {call : ArrivalCall} {rest : Multiset ArrivalCall} :
      s.arrivals = call ::ₘ rest → call.worker ≠ .starting → call.callerWaits = true →
      call.workerDone = false →
      LifecycleStep s { s with
        lifecycleUnhealthy := true
        arrivals := { call with callerTimedOut := true, callerWaits := false } ::ₘ rest }
  | departureBegins (s : BackendLifecycle) :
      LifecycleStep s { s with
        monitorDeparturesInFlight := s.monitorDeparturesInFlight + 1
        departures := {} ::ₘ s.departures }
  | departureThreadFails (s : BackendLifecycle) {call : BoundedCall}
      {rest : Multiset BoundedCall} :
      s.departures = call ::ₘ rest → call.worker = .starting →
      LifecycleStep s (finishMonitorDeparture { s with
        departures := { call with worker := .reported, callerWaits := false } ::ₘ rest })
  | departureThreadStarts (s : BackendLifecycle) {call : BoundedCall}
      {rest : Multiset BoundedCall} :
      s.departures = call ::ₘ rest → call.worker = .starting →
      LifecycleStep s { s with departures := { call with worker := .running } ::ₘ rest }
  | departureReports (s : BackendLifecycle) {call : BoundedCall} {rest : Multiset BoundedCall} :
      s.departures = call ::ₘ rest → call.worker = .running →
      LifecycleStep s (finishMonitorDeparture { s with
        departures := { call with worker := .reported } ::ₘ rest })
  | departureReturns (s : BackendLifecycle) {call : BoundedCall} {rest : Multiset BoundedCall} :
      s.departures = call ::ₘ rest → call.worker = .reported → call.callerWaits = true →
      LifecycleStep s { s with departures := { call with callerWaits := false } ::ₘ rest }
  /-- The wait was over before the thread was; by the time the caller has the lock, the worker may
  have reported after all. -/
  | departureTimesOut (s : BackendLifecycle) {call : BoundedCall} {rest : Multiset BoundedCall} :
      s.departures = call ::ₘ rest → call.worker ≠ .starting → call.callerWaits = true →
      LifecycleStep s { s with
        lifecycleUnhealthy := if 0 < s.monitorDeparturesInFlight then true else s.lifecycleUnhealthy
        departures := { call with callerWaits := false } ::ₘ rest }
  | renderAdapterCallBegins (s : BackendLifecycle) :
      LifecycleStep s { s with
        renderAdapterCallsInFlight := s.renderAdapterCallsInFlight + 1
        renderAdapterCalls := {} ::ₘ s.renderAdapterCalls }
  | renderAdapterThreadFails (s : BackendLifecycle) {call : BoundedCall}
      {rest : Multiset BoundedCall} :
      s.renderAdapterCalls = call ::ₘ rest → call.worker = .starting →
      LifecycleStep s (finishRenderAdapterCall { s with
        renderAdapterCalls := { call with worker := .reported, callerWaits := false } ::ₘ rest })
  | renderAdapterThreadStarts (s : BackendLifecycle) {call : BoundedCall}
      {rest : Multiset BoundedCall} :
      s.renderAdapterCalls = call ::ₘ rest → call.worker = .starting →
      LifecycleStep s { s with renderAdapterCalls := { call with worker := .running } ::ₘ rest }
  | renderAdapterReports (s : BackendLifecycle) {call : BoundedCall}
      {rest : Multiset BoundedCall} :
      s.renderAdapterCalls = call ::ₘ rest → call.worker = .running →
      LifecycleStep s (finishRenderAdapterCall { s with
        renderAdapterCalls := { call with worker := .reported } ::ₘ rest })
  | renderAdapterReturns (s : BackendLifecycle) {call : BoundedCall}
      {rest : Multiset BoundedCall} :
      s.renderAdapterCalls = call ::ₘ rest → call.worker = .reported → call.callerWaits = true →
      LifecycleStep s { s with renderAdapterCalls := { call with callerWaits := false } ::ₘ rest }
  /-- As for a departure. -/
  | renderAdapterTimesOut (s : BackendLifecycle) {call : BoundedCall}
      {rest : Multiset BoundedCall} :
      s.renderAdapterCalls = call ::ₘ rest → call.worker ≠ .starting → call.callerWaits = true →
      LifecycleStep s { s with
        lifecycleUnhealthy :=
          if 0 < s.renderAdapterCallsInFlight then true else s.lifecycleUnhealthy
        renderAdapterCalls := { call with callerWaits := false } ::ₘ rest }

/-! ## What holds in every reachable state -/

/-- What the worker and the caller of an arrival know of each other. -/
structure ArrivalCall.Agreed (call : ArrivalCall) : Prop where
  gaveUp : call.callerTimedOut = true → call.callerWaits = false
  result : call.worker = .decided ∨ call.worker = .reported → call.callerWaits = true →
    call.workerDone = true

namespace BackendLifecycle

/-- Some worker is out, going by the counters. -/
def HasOutstanding (s : BackendLifecycle) : Prop :=
  0 < s.monitorArrivalsInFlight ∨ 0 < s.monitorDeparturesInFlight ∨
    0 < s.renderAdapterCallsInFlight

variable (s : BackendLifecycle)

/-- Settling touches nothing but the flag. -/
theorem clearLifecycleUnhealthy_eq :
    s.clearLifecycleUnhealthyIfSettledLocked =
      { s with
        lifecycleUnhealthy := s.clearLifecycleUnhealthyIfSettledLocked.lifecycleUnhealthy } := by
  rw [clearLifecycleUnhealthyIfSettledLocked]
  split_ifs <;> rfl

theorem clearLifecycleUnhealthy_hasOutstanding
    (h : s.clearLifecycleUnhealthyIfSettledLocked.lifecycleUnhealthy = true) :
    s.HasOutstanding := by
  rw [clearLifecycleUnhealthyIfSettledLocked] at h
  split_ifs at h with hsettled
  rw [HasOutstanding]
  omega

end BackendLifecycle

/-- Every counter counts the workers that have still to report, and the flag is up only while there
are some. -/
structure LifecycleCounted (s : BackendLifecycle) : Prop where
  arrivals : s.monitorArrivalsInFlight = s.arrivals.countP ArrivalCall.Outstanding
  departures : s.monitorDeparturesInFlight = s.departures.countP BoundedCall.Outstanding
  renderAdapterCalls :
    s.renderAdapterCallsInFlight = s.renderAdapterCalls.countP BoundedCall.Outstanding
  unhealthy : s.lifecycleUnhealthy = true → s.HasOutstanding
  agreed : ∀ call ∈ s.arrivals, call.Agreed

namespace LifecycleCounted

variable {s : BackendLifecycle}

theorem start : LifecycleCounted {} where
  arrivals := rfl
  departures := rfl
  renderAdapterCalls := rfl
  unhealthy h := by cases h
  agreed call hcall := absurd hcall (Multiset.notMem_zero call)

section Arrivals

variable {call : ArrivalCall} {rest : Multiset ArrivalCall}

theorem agreed_cons (h : LifecycleCounted s) (harrivals : s.arrivals = call ::ₘ rest)
    {call' : ArrivalCall} (hagreed : call.Agreed → call'.Agreed) :
    ∀ other ∈ call' ::ₘ rest, other.Agreed := by
  intro other hother
  obtain rfl | hother := Multiset.mem_cons.mp hother
  · exact hagreed (h.agreed call (harrivals ▸ Multiset.mem_cons_self _ _))
  · exact h.agreed other (harrivals ▸ Multiset.mem_cons_of_mem hother)

/-- An arrival goes on. -/
theorem arrivalMoves (h : LifecycleCounted s) (harrivals : s.arrivals = call ::ₘ rest)
    (call' : ArrivalCall) (hsame : call'.Outstanding ↔ call.Outstanding)
    (hagreed : call.Agreed → call'.Agreed) {unhealthy : Bool}
    (hflag : unhealthy = true → s.lifecycleUnhealthy = true ∨ call.Outstanding) :
    LifecycleCounted { s with lifecycleUnhealthy := unhealthy, arrivals := call' ::ₘ rest } where
  arrivals := by
    dsimp only
    rw [h.arrivals, harrivals, Multiset.countP_cons, Multiset.countP_cons]
    simp only [hsame]
  departures := h.departures
  renderAdapterCalls := h.renderAdapterCalls
  unhealthy hup := by
    obtain hup | hout := hflag hup
    · exact h.unhealthy hup
    · have hcount := h.arrivals
      rw [harrivals, Multiset.countP_cons_of_pos _ hout] at hcount
      exact .inl (by dsimp only; omega)
  agreed := h.agreed_cons harrivals hagreed

/-- The worker of an arrival reports. -/
theorem arrivalReports (h : LifecycleCounted s) (harrivals : s.arrivals = call ::ₘ rest)
    {call' : ArrivalCall} (hout : call.Outstanding) (hreported : call'.worker = .reported)
    (hagreed : call.Agreed → call'.Agreed) :
    LifecycleCounted (finishMonitorArrival { s with arrivals := call' ::ₘ rest }) := by
  have hcount := h.arrivals
  rw [harrivals, Multiset.countP_cons_of_pos _ hout] at hcount
  have hdone : ¬call'.Outstanding := not_not.mpr hreported
  rw [finishMonitorArrival, clearLifecycleUnhealthy_eq]
  refine ⟨?_, h.departures, h.renderAdapterCalls, clearLifecycleUnhealthy_hasOutstanding _,
    h.agreed_cons harrivals hagreed⟩
  dsimp only
  rw [Multiset.countP_cons_of_neg _ hdone, hcount, if_pos (Nat.succ_pos _), Nat.add_sub_cancel]

end Arrivals

section Bounded

variable {call : BoundedCall} {rest : Multiset BoundedCall}

theorem departureMoves (h : LifecycleCounted s) (hdepartures : s.departures = call ::ₘ rest)
    (call' : BoundedCall) (hsame : call'.Outstanding ↔ call.Outstanding) {unhealthy : Bool}
    (hflag : unhealthy = true → s.HasOutstanding) :
    LifecycleCounted { s with lifecycleUnhealthy := unhealthy, departures := call' ::ₘ rest } where
  arrivals := h.arrivals
  departures := by
    dsimp only
    rw [h.departures, hdepartures, Multiset.countP_cons, Multiset.countP_cons]
    simp only [hsame]
  renderAdapterCalls := h.renderAdapterCalls
  unhealthy := hflag
  agreed := h.agreed

theorem departureReports (h : LifecycleCounted s) (hdepartures : s.departures = call ::ₘ rest)
    {call' : BoundedCall} (hout : call.Outstanding) (hreported : call'.worker = .reported) :
    LifecycleCounted (finishMonitorDeparture { s with departures := call' ::ₘ rest }) := by
  have hcount := h.departures
  rw [hdepartures, Multiset.countP_cons_of_pos _ hout] at hcount
  have hdone : ¬call'.Outstanding := not_not.mpr hreported
  rw [finishMonitorDeparture, clearLifecycleUnhealthy_eq]
  refine ⟨h.arrivals, ?_, h.renderAdapterCalls, clearLifecycleUnhealthy_hasOutstanding _, h.agreed⟩
  dsimp only
  rw [Multiset.countP_cons_of_neg _ hdone, hcount, if_pos (Nat.succ_pos _), Nat.add_sub_cancel]

theorem renderAdapterMoves (h : LifecycleCounted s)
    (hcalls : s.renderAdapterCalls = call ::ₘ rest) (call' : BoundedCall)
    (hsame : call'.Outstanding ↔ call.Outstanding)
    {unhealthy : Bool} (hflag : unhealthy = true → s.HasOutstanding) :
    LifecycleCounted
      { s with lifecycleUnhealthy := unhealthy, renderAdapterCalls := call' ::ₘ rest } where
  arrivals := h.arrivals
  departures := h.departures
  renderAdapterCalls := by
    dsimp only
    rw [h.renderAdapterCalls, hcalls, Multiset.countP_cons, Multiset.countP_cons]
    simp only [hsame]
  unhealthy := hflag
  agreed := h.agreed

theorem renderAdapterReports (h : LifecycleCounted s)
    (hcalls : s.renderAdapterCalls = call ::ₘ rest) {call' : BoundedCall} (hout : call.Outstanding)
    (hreported : call'.worker = .reported) :
    LifecycleCounted (finishRenderAdapterCall { s with renderAdapterCalls := call' ::ₘ rest }) := by
  have hcount := h.renderAdapterCalls
  rw [hcalls, Multiset.countP_cons_of_pos _ hout] at hcount
  have hdone : ¬call'.Outstanding := not_not.mpr hreported
  rw [finishRenderAdapterCall, clearLifecycleUnhealthy_eq]
  refine ⟨h.arrivals, h.departures, ?_, clearLifecycleUnhealthy_hasOutstanding _, h.agreed⟩
  dsimp only
  rw [Multiset.countP_cons_of_neg _ hdone, hcount, if_pos (Nat.succ_pos _), Nat.add_sub_cancel]

end Bounded

theorem step {s' : BackendLifecycle} (h : LifecycleCounted s) (hstep : LifecycleStep s s') :
    LifecycleCounted s' := by
  have hgone (call : ArrivalCall) {callerTimedOut : Bool} {worker : ArrivalWorkerPhase} :
      ArrivalCall.Agreed { call with worker, callerTimedOut, callerWaits := false } :=
    ⟨fun _ ↦ rfl, fun _ hwaits ↦ absurd hwaits Bool.false_ne_true⟩
  cases hstep with
  | arrivalBegins =>
    refine ⟨?_, h.departures, h.renderAdapterCalls, fun _ ↦ .inl (Nat.succ_pos _), ?_⟩
    · dsimp only
      rw [Multiset.countP_cons_of_pos _ (by decide), h.arrivals]
    · intro call hcall
      obtain rfl | hcall := Multiset.mem_cons.mp hcall
      · exact ⟨fun htimedOut ↦ absurd htimedOut Bool.false_ne_true,
          fun hphase ↦ absurd hphase (by decide)⟩
      · exact h.agreed call hcall
  | @arrivalThreadFails call rest harrivals hstarting =>
    refine h.arrivalReports harrivals ?_ rfl fun _ ↦ hgone call
    rw [ArrivalCall.Outstanding, hstarting]
    decide
  | @arrivalThreadStarts call rest harrivals hstarting =>
    refine h.arrivalMoves harrivals { call with worker := .arriving } ?_
      (fun hagreed ↦ ⟨hagreed.gaveUp, ?_⟩) .inl
    · simp [ArrivalCall.Outstanding, hstarting]
    · rintro (hphase | hphase) <;> cases hphase
  | @arrivalDecides call rest harrivals harriving =>
    refine h.arrivalMoves harrivals { call with
        worker := .decided
        workerDone := if call.callerTimedOut then call.workerDone else true } ?_
      (fun hagreed ↦ ⟨hagreed.gaveUp, fun _ hwaits ↦ if_neg fun htimedOut ↦ ?_⟩) .inl
    · simp [ArrivalCall.Outstanding, harriving]
    · rw [hagreed.gaveUp htimedOut] at hwaits
      exact Bool.false_ne_true hwaits
  | arrivalReports harrivals hdecided =>
    refine h.arrivalReports harrivals ?_ rfl
      fun hagreed ↦ ⟨hagreed.gaveUp, fun _ ↦ hagreed.result (.inl hdecided)⟩
    rw [ArrivalCall.Outstanding, hdecided]
    decide
  | @arrivalReturns call rest harrivals _ _ _ =>
    exact h.arrivalMoves harrivals { call with callerWaits := false } .rfl (fun _ ↦ hgone call) .inl
  | @arrivalTimesOut call rest harrivals _ hwaits hnone =>
    -- A worker that had reported would have left its result for the caller.
    refine h.arrivalMoves harrivals { call with callerTimedOut := true, callerWaits := false } .rfl
      (fun _ ↦ hgone call) fun _ ↦ .inr fun hreported ↦ ?_
    have hagreed := h.agreed call (harrivals ▸ Multiset.mem_cons_self _ _)
    rw [hagreed.result (.inr hreported) hwaits] at hnone
    exact Bool.false_ne_true hnone.symm
  | departureBegins =>
    refine ⟨h.arrivals, ?_, h.renderAdapterCalls, fun _ ↦ .inr (.inl (Nat.succ_pos _)), h.agreed⟩
    dsimp only
    rw [Multiset.countP_cons_of_pos _ (by decide), h.departures]
  | departureThreadFails hdepartures hstarting =>
    refine h.departureReports hdepartures ?_ rfl
    rw [BoundedCall.Outstanding, hstarting]
    decide
  | @departureThreadStarts call rest hdepartures hstarting =>
    refine h.departureMoves hdepartures { call with worker := .running } ?_ h.unhealthy
    simp [BoundedCall.Outstanding, hstarting]
  | departureReports hdepartures hrunning =>
    refine h.departureReports hdepartures ?_ rfl
    rw [BoundedCall.Outstanding, hrunning]
    decide
  | @departureReturns call rest hdepartures _ _ =>
    exact h.departureMoves hdepartures { call with callerWaits := false } .rfl h.unhealthy
  | @departureTimesOut call rest hdepartures _ _ =>
    refine h.departureMoves hdepartures { call with callerWaits := false } .rfl fun hup ↦ ?_
    split_ifs at hup with hcount
    · exact .inr (.inl hcount)
    · exact h.unhealthy hup
  | renderAdapterCallBegins =>
    refine ⟨h.arrivals, h.departures, ?_, fun _ ↦ .inr (.inr (Nat.succ_pos _)), h.agreed⟩
    dsimp only
    rw [Multiset.countP_cons_of_pos _ (by decide), h.renderAdapterCalls]
  | renderAdapterThreadFails hcalls hstarting =>
    refine h.renderAdapterReports hcalls ?_ rfl
    rw [BoundedCall.Outstanding, hstarting]
    decide
  | @renderAdapterThreadStarts call rest hcalls hstarting =>
    refine h.renderAdapterMoves hcalls { call with worker := .running } ?_ h.unhealthy
    simp [BoundedCall.Outstanding, hstarting]
  | renderAdapterReports hcalls hrunning =>
    refine h.renderAdapterReports hcalls ?_ rfl
    rw [BoundedCall.Outstanding, hrunning]
    decide
  | @renderAdapterReturns call rest hcalls _ _ =>
    exact h.renderAdapterMoves hcalls { call with callerWaits := false } .rfl h.unhealthy
  | @renderAdapterTimesOut call rest hcalls _ _ =>
    refine h.renderAdapterMoves hcalls { call with callerWaits := false } .rfl fun hup ↦ ?_
    split_ifs at hup with hcount
    · exact .inr (.inr hcount)
    · exact h.unhealthy hup

theorem run {s' : BackendLifecycle} (h : LifecycleCounted s)
    (hrun : Relation.ReflTransGen LifecycleStep s s') : LifecycleCounted s' := by
  induction hrun with
  | refl => exact h
  | tail _ hstep ih => exact ih.step hstep

end LifecycleCounted

/-- **The flag is never left up.**  However callers, workers, timeouts and threads that cannot be
started follow each other, every counter is the number of its workers that have still to report;
while the flag is up some counter is positive, so it is down once every worker has reported. -/
theorem lifecycle_counted {s : BackendLifecycle}
    (hrun : Relation.ReflTransGen LifecycleStep {} s) :
    s.monitorArrivalsInFlight = s.arrivals.countP ArrivalCall.Outstanding ∧
      s.monitorDeparturesInFlight = s.departures.countP BoundedCall.Outstanding ∧
      s.renderAdapterCallsInFlight = s.renderAdapterCalls.countP BoundedCall.Outstanding ∧
      (s.lifecycleUnhealthy = true →
        0 < s.monitorArrivalsInFlight ∨ 0 < s.monitorDeparturesInFlight ∨
          0 < s.renderAdapterCallsInFlight) ∧
      ((∀ call ∈ s.arrivals, ¬call.Outstanding) → (∀ call ∈ s.departures, ¬call.Outstanding) →
        (∀ call ∈ s.renderAdapterCalls, ¬call.Outstanding) → s.lifecycleUnhealthy = false) := by
  have h := LifecycleCounted.start.run hrun
  refine ⟨h.arrivals, h.departures, h.renderAdapterCalls, h.unhealthy,
    fun harrivals hdepartures hcalls ↦ Bool.eq_false_iff.mpr fun hup ↦ ?_⟩
  have harrivals' := h.arrivals.trans (Multiset.countP_eq_zero.mpr harrivals)
  have hdepartures' := h.departures.trans (Multiset.countP_eq_zero.mpr hdepartures)
  have hcalls' := h.renderAdapterCalls.trans (Multiset.countP_eq_zero.mpr hcalls)
  have hout := h.unhealthy hup
  rw [HasOutstanding] at hout
  omega

/-- The caller of an arrival gives up on it. -/
theorem lifecycle_counted_late :
    ∃ s : BackendLifecycle, Relation.ReflTransGen LifecycleStep {} s ∧
      s.lifecycleUnhealthy = true ∧ s.arrivals.countP ArrivalCall.Outstanding = 1 := by
  have hrun : Relation.ReflTransGen LifecycleStep {}
      { monitorArrivalsInFlight := 1, lifecycleUnhealthy := true,
        arrivals := {{ worker := .arriving, callerTimedOut := true, callerWaits := false }} } :=
    .tail (.tail (.tail .refl (.arrivalBegins _))
      (@LifecycleStep.arrivalThreadStarts _ {} 0 rfl rfl))
      (@LifecycleStep.arrivalTimesOut _ { worker := .arriving } 0 rfl (by decide) rfl rfl)
  exact ⟨_, hrun, rfl, (lifecycle_counted hrun).1.symm⟩

end VirtualDisplay
