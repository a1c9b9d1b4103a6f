import Mathlib.Algebra.Group.Nat.Defs
import VirtualDisplay.Drm.Frames
import VirtualDisplay.Lib.Ring

/-!
# The presentation trace

`GET_PRESENT_TRACE` returns the presentations behind the last one that a caller has had, as far as
the ring still holds them, 64 at a time, and says whether it had to skip any.

* `published_trace` — what the ring holds when some commits have been published.
* `getPresentTrace_eq` — what a call returns, and that it does.
* `presentTrace_lossless` — what a caller gets over all of its calls.

## What is here

* `expectedTrace` — the reply that a caller should get: the events behind its last one, at most as
  many as a reply has room for and as the ring still holds.
* `TraceRun` — one caller among any number of publications; its calls ask for what is behind the
  last event it has received.
* `Skips`, `Lossless` — when a sequence is lost, and what the caller may rely on: the events come in
  order with the timestamps they were published with, a sequence that is missing had been
  overwritten, and a call reports a loss exactly when there is one.
* `AllEnd` — every call of the run comes to its end.  A call does, unless the counter stands at its
  greatest value: there the loop goes round (`overflow_of_wrap`, `presentTrace_wraps`).

Sequences are counted by the length of the list of publications, so that nothing has to be said of
the 64-bit counter until it is at its end.
-/

set_option autoImplicit false

namespace VirtualDisplay

namespace VkmsOutput

variable {o : VkmsOutput}

theorem toNat_ofNat_of_lt {n : Nat} (h : n < 2 ^ 64) : (UInt64.ofNat n).toNat = n := by
  rw [UInt64.toNat_ofNat', Nat.mod_eq_of_lt h]

/-! ## The ring -/

/-- The presentations, with the number of each as its sequence. -/
def traceEvents (ps : List Publication) : List TraceEvent :=
  ps.mapIdx fun i p ↦ { sequence := UInt64.ofNat (i + 1), timestampNs := p.timestampNs }

theorem traceEvents_append (ps : List Publication) (p : Publication) :
    traceEvents (ps ++ [p]) =
      traceEvents ps ++
        [{ sequence := UInt64.ofNat (ps.length + 1), timestampNs := p.timestampNs }] := by
  simp [traceEvents, List.mapIdx_append]

@[simp] theorem length_traceEvents (ps : List Publication) :
    (traceEvents ps).length = ps.length := by simp [traceEvents]

/-- The ring holds the newest presentations. -/
theorem published_trace (hfresh : o.Fresh) {ps : List Publication}
    (hcount : (o.counted ps).length < 2 ^ 64) :
    Ring.Holds (o.published ps).presentTrace (traceEvents (o.counted ps)) := by
  induction ps using List.reverseRecOn with
  | nil => exact Ring.holds_nil _
  | append_singleton ps p ih =>
    rw [published_append]
    by_cases hchanges : p.commit.changesCrtc o.crtc
    · rw [counted_append, if_pos hchanges] at hcount ⊢
      rw [List.length_append, List.length_singleton] at hcount
      have hsequence : (o.published ps).presentSequence = UInt64.ofNat (o.counted ps).length :=
        (published_sequence hfresh ps).1
      have hplace : ((UInt64.ofNat (o.counted ps).length + 1 - 1).toNat) =
          (traceEvents (o.counted ps)).length := by
        rw [UInt64.add_sub_cancel, toNat_ofNat_of_lt (by omega), length_traceEvents]
      have hpush := (ih (by omega)).push (by decide)
        { sequence := UInt64.ofNat ((o.counted ps).length + 1), timestampNs := p.timestampNs }
      rw [signalPresented_of_changes (by rwa [(published_ids ps).1]), traceEvents_append]
      simp only [decPendingCommits, present, hsequence, hplace]
      rw [show UInt64.ofNat (o.counted ps).length + 1 = UInt64.ofNat ((o.counted ps).length + 1)
        from (UInt64.ofNat_add ..).symm]
      exact hpush
    · rw [counted_append, if_neg hchanges] at hcount ⊢
      rw [(signalPresented_of_unchanged (by rwa [(published_ids ps).1])).2]
      exact ih hcount

theorem traceEvent_of_place {sequence : UInt64} {event : TraceEvent}
    (h : o.presentTrace[(sequence - 1).toNat % VIBESHINE_DRM_TRACE_HISTORY_SIZE]? = some event) :
    o.traceEvent sequence = event := by
  obtain ⟨hin, rfl⟩ := Vector.getElem?_eq_some_iff.mp h
  simp [traceEvent, Vector.getD, hin]

theorem traceEvent_eq {entries : List TraceEvent} {s : Nat}
    (hring : Ring.Holds o.presentTrace entries) (hs : 0 < s) (hlast : s ≤ entries.length)
    (hheld : entries.length < s + VIBESHINE_DRM_TRACE_HISTORY_SIZE) (hlt : s < 2 ^ 64) :
    entries[s - 1]? = some (o.traceEvent (UInt64.ofNat s)) := by
  have hplace : (UInt64.ofNat s - 1).toNat = s - 1 := by
    rw [UInt64.toNat_sub_of_le _ _
        (by rw [UInt64.le_iff_toNat_le, toNat_ofNat_of_lt hlt]; exact hs),
      toNat_ofNat_of_lt hlt]
    rfl
  obtain ⟨event, hevent⟩ : ∃ event, entries[s - 1]? = some event :=
    ⟨_, List.getElem?_eq_getElem (by omega)⟩
  have hentry := hring (s - 1) (by omega) (by omega)
  rw [hevent, ← hplace] at hentry
  rw [hevent, traceEvent_of_place hentry]

theorem sequence_of_traceEvents {ps : List Publication} {i : Nat} {event : TraceEvent}
    (h : (traceEvents ps)[i]? = some event) : event.sequence = UInt64.ofNat (i + 1) := by
  rw [traceEvents, List.getElem?_mapIdx, Option.map_eq_some_iff] at h
  obtain ⟨p, -, rfl⟩ := h
  rfl

/-! ## One call -/

/-- The loop takes the events from `s` on, one for each number, until there are enough of them or no
more.  It stops there unless it has come to the greatest number of all. -/
theorem traceLoop_eq {ps : List Publication}
    (hsequence : o.presentSequence = UInt64.ofNat ps.length) (hcount : ps.length < 2 ^ 64)
    (hring : Ring.Holds o.presentTrace (traceEvents ps)) {s fuel : Nat} {events : List TraceEvent}
    (overflow : Bool) (hs : 0 < s) (hlast : s ≤ ps.length + 1)
    (hheld : ps.length < s + VIBESHINE_DRM_TRACE_HISTORY_SIZE)
    (hroom : events.length ≤ VIBESHINE_DRM_TRACE_MAX_EVENTS)
    (hstop : ps.length + 1 < 2 ^ 64 ∨
      VIBESHINE_DRM_TRACE_MAX_EVENTS ≤ events.length + (ps.length + 1 - s))
    (hfuel : VIBESHINE_DRM_TRACE_MAX_EVENTS < events.length + fuel) :
    o.traceLoop fuel (UInt64.ofNat s) events overflow =
      some (events ++ ((traceEvents ps).drop (s - 1)).take
        (VIBESHINE_DRM_TRACE_MAX_EVENTS - events.length), overflow) := by
  induction fuel generalizing s events with
  | zero => omega
  | succ fuel ih =>
    rw [traceLoop]
    by_cases hfull : events.length = VIBESHINE_DRM_TRACE_MAX_EVENTS
    · rw [if_neg (by omega), hfull, Nat.sub_self, List.take_zero, List.append_nil]
    by_cases hend : s = ps.length + 1
    · -- There is no next number only behind the greatest one, and there the loop has to be full.
      have hlt : ps.length + 1 < 2 ^ 64 := by omega
      have hbehind : ¬UInt64.ofNat s ≤ o.presentSequence := by
        rw [hsequence, UInt64.le_iff_toNat_le, toNat_ofNat_of_lt hcount,
          toNat_ofNat_of_lt (by omega)]
        omega
      rw [if_neg (by simp [hbehind]), List.drop_eq_nil_of_le (by simp; omega), List.take_nil,
        List.append_nil]
    · have hbefore : UInt64.ofNat s ≤ o.presentSequence := by
        rw [hsequence, UInt64.le_iff_toNat_le, toNat_ofNat_of_lt hcount,
          toNat_ofNat_of_lt (by omega)]
        omega
      have hevent := traceEvent_eq hring hs (by simp; omega) (by simpa using hheld) (by omega)
      have hmatch : (o.traceEvent (UInt64.ofNat s)).sequence = UInt64.ofNat s := by
        rw [sequence_of_traceEvents hevent, Nat.sub_add_cancel hs]
      have hdrop : (traceEvents ps).drop (s - 1) =
          o.traceEvent (UInt64.ofNat s) :: (traceEvents ps).drop s := by
        obtain ⟨hin, heq⟩ := List.getElem?_eq_some_iff.mp hevent
        rw [List.drop_eq_getElem_cons hin, heq, Nat.sub_add_cancel hs]
      rw [if_pos ⟨hbefore, by omega⟩, if_neg (not_not.mpr hmatch)]
      obtain ⟨room, hroom'⟩ :
          ∃ room, VIBESHINE_DRM_TRACE_MAX_EVENTS - events.length = room + 1 :=
        ⟨VIBESHINE_DRM_TRACE_MAX_EVENTS - (events.length + 1), by omega⟩
      have hlength : (events ++ [o.traceEvent (UInt64.ofNat s)]).length = events.length + 1 :=
        List.length_append
      have hnext := @ih (s + 1) (events ++ [o.traceEvent (UInt64.ofNat s)]) (by omega) (by omega)
        (by omega) (by omega) (by omega) (by omega)
      rw [UInt64.ofNat_add] at hnext
      refine hnext.trans ?_
      rw [hdrop, hroom', List.take_succ_cons, hlength,
        show VIBESHINE_DRM_TRACE_MAX_EVENTS - (events.length + 1) = room by omega,
        Nat.add_sub_cancel, List.append_assoc, List.singleton_append]

/-- Where a call starts: behind the last event received, or at the oldest one held. -/
theorem traceStart_eq {n last : Nat} (hsequence : o.presentSequence = UInt64.ofNat n)
    (hcount : n < 2 ^ 64) (hmax : last + 1 < 2 ^ 64) :
    o.traceStart (UInt64.ofNat last) =
      (UInt64.ofNat (max last (n - VIBESHINE_DRM_TRACE_HISTORY_SIZE) + 1),
        decide (last + VIBESHINE_DRM_TRACE_HISTORY_SIZE < n)) := by
  rw [traceStart, hsequence, toNat_ofNat_of_lt hcount]
  dsimp only
  by_cases hlong : VIBESHINE_DRM_TRACE_HISTORY_SIZE ≤ n
  · have holdest : UInt64.ofNat n - UInt64.ofNat VIBESHINE_DRM_TRACE_HISTORY_SIZE + 1 =
        UInt64.ofNat (n - VIBESHINE_DRM_TRACE_HISTORY_SIZE + 1) := by
      rw [UInt64.ofNat_add, UInt64.ofNat_sub hlong]
      rfl
    have hbefore : UInt64.ofNat last + 1 <
        UInt64.ofNat (n - VIBESHINE_DRM_TRACE_HISTORY_SIZE + 1) ↔
        last + VIBESHINE_DRM_TRACE_HISTORY_SIZE < n := by
      have hsize : 0 < VIBESHINE_DRM_TRACE_HISTORY_SIZE := by decide
      rw [show UInt64.ofNat last + 1 = UInt64.ofNat (last + 1) from (UInt64.ofNat_add ..).symm,
        UInt64.lt_iff_toNat_lt, toNat_ofNat_of_lt hmax, toNat_ofNat_of_lt (by omega)]
      omega
    rw [if_pos hlong, holdest]
    by_cases hoverflow : last + VIBESHINE_DRM_TRACE_HISTORY_SIZE < n
    · rw [if_pos (hbefore.mpr hoverflow), decide_eq_true hoverflow, Nat.max_eq_right (by omega)]
    · rw [if_neg (mt hbefore.mp hoverflow), decide_eq_false hoverflow, Nat.max_eq_left (by omega),
        UInt64.ofNat_add]
      rfl
  · rw [if_neg hlong, decide_eq_false (by omega), Nat.max_eq_left (by omega), UInt64.ofNat_add]
    rfl

/-- What a call returns that has had `last` of these presentations. -/
def expectedTrace (ps : List Publication) (last : Nat) : PresentTrace where
  newestSequence := UInt64.ofNat ps.length
  events := ((traceEvents ps).drop
    (max last (ps.length - VIBESHINE_DRM_TRACE_HISTORY_SIZE))).take VIBESHINE_DRM_TRACE_MAX_EVENTS
  overflow := decide (last + VIBESHINE_DRM_TRACE_HISTORY_SIZE < ps.length)

theorem getPresentTrace_eq {ps : List Publication}
    (hsequence : o.presentSequence = UInt64.ofNat ps.length) (hcount : ps.length < 2 ^ 64)
    (hring : Ring.Holds o.presentTrace (traceEvents ps)) {last fuel : Nat}
    (hlast : last ≤ ps.length)
    (hmax : last + 1 < 2 ^ 64)
    (hstop : ps.length + 1 < 2 ^ 64 ∨ last + VIBESHINE_DRM_TRACE_MAX_EVENTS ≤ ps.length)
    (hfuel : VIBESHINE_DRM_TRACE_MAX_EVENTS < fuel) :
    o.getPresentTrace fuel (UInt64.ofNat last) = some (.ok (expectedTrace ps last)) := by
  have hafter : UInt64.ofNat last ≠ 0xffffffffffffffff := by
    intro h
    have := congrArg UInt64.toNat h
    rw [toNat_ofNat_of_lt (by omega)] at this
    have : last = 2 ^ 64 - 1 := this
    omega
  have hbatch : VIBESHINE_DRM_TRACE_MAX_EVENTS ≤ VIBESHINE_DRM_TRACE_HISTORY_SIZE := by decide
  have hloop := traceLoop_eq hsequence hcount hring
    (s := max last (ps.length - VIBESHINE_DRM_TRACE_HISTORY_SIZE) + 1)
    (decide (last + VIBESHINE_DRM_TRACE_HISTORY_SIZE < ps.length)) (by omega) (by omega)
    (by omega) (Nat.zero_le _) (by rw [List.length_nil]; omega)
    (by rwa [List.length_nil, Nat.zero_add])
  rw [getPresentTrace, if_neg hafter, traceStart_eq hsequence hcount hmax]
  dsimp only
  rw [hloop, hsequence]
  rfl

theorem traceLoop_add {fuel : Nat} (more : Nat) {sequence : UInt64} {events : List TraceEvent}
    {overflow : Bool} {r : List TraceEvent × Bool}
    (h : o.traceLoop fuel sequence events overflow = some r) :
    o.traceLoop (fuel + more) sequence events overflow = some r := by
  induction fuel generalizing sequence events overflow with
  | zero => exact nomatch h
  | succ fuel ih =>
    rw [Nat.add_right_comm, traceLoop]
    rw [traceLoop] at h
    split_ifs at h ⊢ with hmore hmatch
    · exact ih h
    · exact ih h
    · exact h

/-- A call comes to one reply only. -/
theorem getPresentTrace_unique {fuel fuel' : Nat} {afterSequence : UInt64}
    {reply reply' : Except Int32 PresentTrace}
    (h : o.getPresentTrace fuel afterSequence = some reply)
    (h' : o.getPresentTrace fuel' afterSequence = some reply') : reply = reply' := by
  have hadd {fuel : Nat} {reply : Except Int32 PresentTrace}
      (h : o.getPresentTrace fuel afterSequence = some reply) (more : Nat) :
      o.getPresentTrace (fuel + more) afterSequence = some reply := by
    rw [getPresentTrace] at h ⊢
    split_ifs at h ⊢ with hmax
    · exact h
    · dsimp only at h ⊢
      cases hloop : o.traceLoop fuel (o.traceStart afterSequence).1 []
          (o.traceStart afterSequence).2 with
      | none => rw [hloop] at h; exact nomatch h
      | some r => rw [traceLoop_add more hloop]; rwa [hloop] at h
  have := hadd h fuel'
  rw [Nat.add_comm, hadd h' fuel] at this
  exact (Option.some.inj this).symm

end VkmsOutput

/-! ## A caller -/

/-- A commit is published, or the caller gets a reply. -/
inductive TraceStep where
  | publish (publication : Publication)
  | getPresentTrace (reply : Except Int32 PresentTrace)

namespace TraceStep

/-- The presentation of the step, if it is one. -/
def publication? : TraceStep → Option Publication
  | publish publication => some publication
  | getPresentTrace _ => none

/-- The events that the caller receives. -/
def events : TraceStep → List TraceEvent
  | getPresentTrace (.ok trace) => trace.events
  | _ => []

end TraceStep

/-- What the caller has received, in order. -/
def received (steps : List TraceStep) : List TraceEvent := steps.flatMap TraceStep.events

/-- The `after_sequence` of the caller's next call. -/
def lastReceived (steps : List TraceStep) : UInt64 := (received steps).getLast?.elim 0 (·.sequence)

namespace VkmsOutput

variable (o : VkmsOutput)

/-- The output behind the steps. -/
def afterSteps (steps : List TraceStep) : VkmsOutput :=
  o.published (steps.filterMap TraceStep.publication?)

/-- What has been presented on the CRTC. -/
def presentations (steps : List TraceStep) : List Publication :=
  o.counted (steps.filterMap TraceStep.publication?)

/-- The caller asks, each time, for what comes behind the last event that it has received. -/
def TraceRun (steps : List TraceStep) : Prop :=
  ∀ earlier reply later, steps = earlier ++ .getPresentTrace reply :: later →
    ∃ fuel, (o.afterSteps earlier).getPresentTrace fuel (lastReceived earlier) = some reply

/-- A call at this point skips the sequence, which has been overwritten. -/
def Skips (earlier : List TraceStep) (trace : PresentTrace) (s : Nat) : Prop :=
  (lastReceived earlier).toNat < s ∧ (∃ event ∈ trace.events.head?, s < event.sequence.toNat) ∧
    s + VIBESHINE_DRM_TRACE_HISTORY_SIZE ≤ (o.presentations earlier).length

/-- The trace is lossless, or says that it is not. -/
structure Lossless (steps : List TraceStep) : Prop where
  increasing : (received steps).Pairwise (·.sequence < ·.sequence)
  timestamps : ∀ event ∈ received steps, 0 < event.sequence ∧
    ((o.presentations steps)[event.sequence.toNat - 1]?).map (·.timestampNs) =
      some event.timestampNs
  skipped : ∀ s, 0 < s → s ≤ (lastReceived steps).toNat →
    UInt64.ofNat s ∉ (received steps).map (·.sequence) →
    ∃ earlier trace later, steps = earlier ++ .getPresentTrace (.ok trace) :: later ∧
      o.Skips earlier trace s ∧ trace.overflow
  overflow : ∀ earlier trace later, steps = earlier ++ .getPresentTrace (.ok trace) :: later →
    trace.overflow → ∃ s, o.Skips earlier trace s
  batch : ∀ earlier reply later, steps = earlier ++ .getPresentTrace reply :: later →
    (TraceStep.getPresentTrace reply).events.length ≤ VIBESHINE_DRM_TRACE_MAX_EVENTS ∧
      ((lastReceived earlier).toNat < (o.presentations earlier).length →
        (TraceStep.getPresentTrace reply).events ≠ [])

/-- The loop of a call at this point ends: it does not have to go past the greatest number. -/
def TraceEnds (earlier : List TraceStep) : Prop :=
  (o.presentations earlier).length + 1 < 2 ^ 64 ∨
    (lastReceived earlier).toNat + VIBESHINE_DRM_TRACE_MAX_EVENTS ≤
        (o.presentations earlier).length ∨
    (lastReceived earlier).toNat = (o.presentations earlier).length

variable {o}

theorem presentations_append (earlier later : List TraceStep) :
    o.presentations (earlier ++ later) = o.presentations earlier ++ o.presentations later := by
  rw [presentations, List.filterMap_append, counted, List.filter_append]
  rfl

theorem traceEvents_prefix (ps qs : List Publication) :
    ∃ more, traceEvents (ps ++ qs) = traceEvents ps ++ more :=
  ⟨_, List.mapIdx_append⟩

theorem received_append (earlier : List TraceStep) (step : TraceStep) :
    received (earlier ++ [step]) = received earlier ++ step.events := by
  rw [received, List.flatMap_append, List.flatMap_singleton, received]

theorem lastReceived_append_of_nil (earlier : List TraceStep) {step : TraceStep}
    (h : step.events = []) : lastReceived (earlier ++ [step]) = lastReceived earlier := by
  rw [lastReceived, received_append, h, List.append_nil, lastReceived]

/-- A call that ends gives the events that are expected, and an error only if there are none. -/
theorem call_eq (hfresh : o.Fresh) {earlier : List TraceStep}
    (hcount : (o.presentations earlier).length < 2 ^ 64)
    (hlast : (lastReceived earlier).toNat ≤ (o.presentations earlier).length)
    (hends : o.TraceEnds earlier) :
    ∃ fuel reply, (o.afterSteps earlier).getPresentTrace fuel (lastReceived earlier) = some reply ∧
      (TraceStep.getPresentTrace reply).events =
        (expectedTrace (o.presentations earlier) (lastReceived earlier).toNat).events ∧
      ∀ trace, reply = .ok trace →
        trace = expectedTrace (o.presentations earlier) (lastReceived earlier).toNat := by
  by_cases hmax : (lastReceived earlier).toNat + 1 < 2 ^ 64
  · have hstop : (o.presentations earlier).length + 1 < 2 ^ 64 ∨
        (lastReceived earlier).toNat + VIBESHINE_DRM_TRACE_MAX_EVENTS ≤
          (o.presentations earlier).length := by
      obtain h | h | h := hends
      · exact .inl h
      · exact .inr h
      · exact .inl (by omega)
    have hreply := getPresentTrace_eq (o := o.afterSteps earlier)
      (published_sequence hfresh _).1 hcount (published_trace hfresh hcount) hlast hmax hstop
      (Nat.lt_succ_self _)
    rw [UInt64.ofNat_toNat] at hreply
    exact ⟨_, _, hreply, rfl, fun trace htrace ↦ (Except.ok.inj htrace).symm⟩
  · have hlt := UInt64.toNat_lt (lastReceived earlier)
    have hafter : lastReceived earlier = 0xffffffffffffffff := by
      rw [← UInt64.ofNat_toNat (x := lastReceived earlier),
        show (lastReceived earlier).toNat = 2 ^ 64 - 1 by omega]
      rfl
    have hempty :
        (expectedTrace (o.presentations earlier) (lastReceived earlier).toNat).events = [] := by
      rw [expectedTrace, List.drop_eq_nil_of_le (by rw [length_traceEvents]; omega), List.take_nil]
    exact ⟨0, .error (-EINVAL), by rw [getPresentTrace, if_pos hafter], hempty.symm, nofun⟩

theorem reply_eq (hfresh : o.Fresh) {earlier : List TraceStep} {reply : Except Int32 PresentTrace}
    (hcount : (o.presentations earlier).length < 2 ^ 64)
    (hlast : (lastReceived earlier).toNat ≤ (o.presentations earlier).length)
    (hends : o.TraceEnds earlier)
    (h : ∃ fuel, (o.afterSteps earlier).getPresentTrace fuel (lastReceived earlier) = some reply) :
    (TraceStep.getPresentTrace reply).events =
        (expectedTrace (o.presentations earlier) (lastReceived earlier).toNat).events ∧
      ∀ trace, reply = .ok trace →
        trace = expectedTrace (o.presentations earlier) (lastReceived earlier).toNat := by
  obtain ⟨fuel, hreply⟩ := h
  obtain ⟨fuel', reply', hreply', h⟩ := call_eq hfresh hcount hlast hends
  rwa [getPresentTrace_unique hreply hreply']

/-- Where the batch of a caller that has had `last` of the presentations starts. -/
def traceFrom (ps : List Publication) (last : Nat) : Nat :=
  max last (ps.length - VIBESHINE_DRM_TRACE_HISTORY_SIZE)

theorem getElem?_expectedTrace (ps : List Publication) (last : Nat) {i : Nat}
    (hi : i < VIBESHINE_DRM_TRACE_MAX_EVENTS) :
    (expectedTrace ps last).events[i]? =
      (ps[traceFrom ps last + i]?).map fun p ↦
        { sequence := UInt64.ofNat (traceFrom ps last + i + 1), timestampNs := p.timestampNs } := by
  rw [expectedTrace, List.getElem?_take_of_lt hi, List.getElem?_drop, traceEvents,
    List.getElem?_mapIdx, traceFrom]

theorem length_expectedTrace (ps : List Publication) (last : Nat) :
    (expectedTrace ps last).events.length =
      min VIBESHINE_DRM_TRACE_MAX_EVENTS (ps.length - traceFrom ps last) := by
  rw [expectedTrace, List.length_take, List.length_drop, length_traceEvents, traceFrom]

/-- The sequence at a place of the batch. -/
theorem exists_expectedTrace {ps : List Publication} {last i : Nat}
    (hi : i < (expectedTrace ps last).events.length) (hcount : ps.length < 2 ^ 64) :
    ∃ event, (expectedTrace ps last).events[i]? = some event ∧
      event.sequence = UInt64.ofNat (traceFrom ps last + i + 1) ∧
      event.sequence.toNat = traceFrom ps last + i + 1 := by
  rw [length_expectedTrace] at hi
  have hin : traceFrom ps last + i < ps.length := by omega
  rw [getElem?_expectedTrace ps last (by omega), List.getElem?_eq_getElem hin]
  exact ⟨_, rfl, rfl, toNat_ofNat_of_lt (by omega)⟩

theorem head?_expectedTrace {ps : List Publication} {last : Nat} (hlast : last < ps.length)
    (hcount : ps.length < 2 ^ 64) :
    ∃ event ∈ (expectedTrace ps last).events.head?,
      event.sequence.toNat = traceFrom ps last + 1 := by
  have hbatch : 0 < VIBESHINE_DRM_TRACE_MAX_EVENTS := by decide
  have hsize : 0 < VIBESHINE_DRM_TRACE_HISTORY_SIZE := by decide
  have hfirst : 0 < (expectedTrace ps last).events.length := by
    rw [length_expectedTrace, traceFrom]
    omega
  obtain ⟨event, hevent, -, hsequence⟩ := exists_expectedTrace hfirst hcount
  exact ⟨event, (List.head?_eq_getElem?).trans hevent, hsequence⟩

theorem lastReceived_append (earlier : List TraceStep) {step : TraceStep} {ps : List Publication}
    (hevents : step.events = (expectedTrace ps (lastReceived earlier).toNat).events)
    (hlast : (lastReceived earlier).toNat ≤ ps.length) (hcount : ps.length < 2 ^ 64) :
    (lastReceived (earlier ++ [step])).toNat =
      traceFrom ps (lastReceived earlier).toNat + step.events.length := by
  by_cases hnil : step.events = []
  · have hlength := length_expectedTrace ps (lastReceived earlier).toNat
    rw [← hevents, hnil, List.length_nil] at hlength
    have hbatch : 0 < VIBESHINE_DRM_TRACE_MAX_EVENTS := by decide
    have hsize : 0 < VIBESHINE_DRM_TRACE_HISTORY_SIZE := by decide
    rw [lastReceived_append_of_nil _ hnil, hnil, List.length_nil]
    rw [traceFrom] at hlength ⊢
    omega
  · have hpos : 0 < step.events.length := List.length_pos_iff.mpr hnil
    obtain ⟨event, hevent, -, hsequence⟩ :=
      exists_expectedTrace (i := step.events.length - 1) (by rw [← hevents]; omega) hcount
    rw [← hevents, ← List.getLast?_eq_getElem?] at hevent
    rw [lastReceived, received_append, List.getLast?_append, hevent, Option.some_or,
      Option.elim_some, hsequence]
    omega

/-- What the caller has received, it has received in the order of the presentations. -/
structure InOrder (o : VkmsOutput) (steps : List TraceStep) : Prop where
  last_le : (lastReceived steps).toNat ≤ (o.presentations steps).length
  sublist : (received steps).Sublist
    ((traceEvents (o.presentations steps)).take (lastReceived steps).toNat)

theorem InOrder.publish {steps : List TraceStep} (h : o.InOrder steps) (p : Publication) :
    o.InOrder (steps ++ [.publish p]) := by
  have hlast := @lastReceived_append_of_nil steps (.publish p) rfl
  constructor
  · rw [hlast, presentations_append, List.length_append]
    exact Nat.le_add_right_of_le h.last_le
  · obtain ⟨more, hmore⟩ :=
      traceEvents_prefix (o.presentations steps) (o.presentations [.publish p])
    rw [hlast, received_append, presentations_append, hmore,
      List.take_append_of_le_length (by rw [length_traceEvents]; exact h.last_le)]
    exact (List.append_nil (received steps)).symm ▸ h.sublist

theorem InOrder.call {steps : List TraceStep} (h : o.InOrder steps)
    {reply : Except Int32 PresentTrace} (hcount : (o.presentations steps).length < 2 ^ 64)
    (hevents : (TraceStep.getPresentTrace reply).events =
      (expectedTrace (o.presentations steps) (lastReceived steps).toNat).events) :
    o.InOrder (steps ++ [.getPresentTrace reply]) := by
  have hlast := lastReceived_append steps hevents h.last_le hcount
  have hsame : o.presentations (steps ++ [.getPresentTrace reply]) = o.presentations steps := by
    rw [presentations_append]
    exact List.append_nil _
  have hlength := length_expectedTrace (o.presentations steps) (lastReceived steps).toNat
  rw [← hevents] at hlength
  have hle := h.last_le
  have hfrom : (lastReceived steps).toNat ≤
      traceFrom (o.presentations steps) (lastReceived steps).toNat := Nat.le_max_left ..
  have hfrom_le : traceFrom (o.presentations steps) (lastReceived steps).toNat ≤
      (o.presentations steps).length := by
    rw [traceFrom]
    omega
  refine ⟨by rw [hlast, hsame]; omega, ?_⟩
  rw [hlast, hsame, received_append, List.take_add]
  refine (h.sublist.trans (List.take_sublist_take_left hfrom)).append ?_
  rw [hevents, expectedTrace, traceFrom, List.length_take, ← List.take_eq_take_min]

theorem TraceRun.of_append {steps more : List TraceStep} (h : o.TraceRun (steps ++ more)) :
    o.TraceRun steps :=
  fun earlier reply later hsteps ↦ h earlier reply (later ++ more) (by simp [hsteps])

/-- Every call is made when its loop ends. -/
def AllEnd (o : VkmsOutput) (steps : List TraceStep) : Prop :=
  ∀ earlier reply later, steps = earlier ++ .getPresentTrace reply :: later → o.TraceEnds earlier

theorem AllEnd.of_append {steps more : List TraceStep} (h : o.AllEnd (steps ++ more)) :
    o.AllEnd steps :=
  fun earlier reply later hsteps ↦ h earlier reply (later ++ more) (by simp [hsteps])

theorem inOrder_of_run (hfresh : o.Fresh) {steps : List TraceStep} (hrun : o.TraceRun steps)
    (hcount : (o.presentations steps).length < 2 ^ 64) (hends : o.AllEnd steps) :
    o.InOrder steps := by
  induction steps using List.reverseRecOn with
  | nil => exact ⟨Nat.zero_le _, List.nil_sublist _⟩
  | append_singleton steps step ih =>
    rw [presentations_append, List.length_append] at hcount
    have hinv := ih hrun.of_append (by omega) hends.of_append
    cases step with
    | publish p => exact hinv.publish p
    | getPresentTrace reply =>
      have hreply := reply_eq hfresh (by omega) hinv.last_le (hends steps reply [] rfl)
        (hrun steps reply [] rfl)
      exact hinv.call (by omega) hreply.1

/-- Every sequence that was skipped had been overwritten, and the call said so. -/
theorem skipped_of_run (hfresh : o.Fresh) {steps : List TraceStep} (hrun : o.TraceRun steps)
    (hcount : (o.presentations steps).length < 2 ^ 64) (hends : o.AllEnd steps) {s : Nat}
    (hpos : 0 < s) (hlast : s ≤ (lastReceived steps).toNat)
    (hmissing : UInt64.ofNat s ∉ (received steps).map (·.sequence)) :
    ∃ earlier trace later, steps = earlier ++ .getPresentTrace (.ok trace) :: later ∧
      o.Skips earlier trace s ∧ trace.overflow := by
  induction steps using List.reverseRecOn with
  | nil => exact absurd hlast (by simp [lastReceived, received]; omega)
  | append_singleton steps step ih =>
    rw [presentations_append, List.length_append] at hcount
    rw [received_append, List.map_append, List.mem_append, not_or] at hmissing
    have hbefore (hlast : s ≤ (lastReceived steps).toNat) :
        ∃ earlier trace later, steps ++ [step] = earlier ++ .getPresentTrace (.ok trace) :: later ∧
          o.Skips earlier trace s ∧ trace.overflow := by
      obtain ⟨earlier, trace, later, rfl, h⟩ :=
        ih hrun.of_append (by omega) hends.of_append hlast hmissing.1
      exact ⟨earlier, trace, later ++ [step], by simp, h⟩
    by_cases hnil : step.events = []
    · exact hbefore (by rwa [lastReceived_append_of_nil _ hnil] at hlast)
    by_cases hold : s ≤ (lastReceived steps).toNat
    · exact hbefore hold
    -- Only a call that returns events moves the caller on.
    cases step with
    | publish p => exact absurd rfl hnil
    | getPresentTrace reply =>
      have hinv := inOrder_of_run hfresh hrun.of_append (by omega) hends.of_append
      obtain ⟨hevents, htrace⟩ := reply_eq hfresh (by omega) hinv.last_le (hends steps _ [] rfl)
        (hrun steps _ [] rfl)
      rw [lastReceived_append steps hevents hinv.last_le (by omega)] at hlast
      cases reply with
      | error ret => exact absurd rfl hnil
      | ok trace =>
        have htrace := htrace trace rfl
        have hlength := length_expectedTrace (o.presentations steps) (lastReceived steps).toNat
        rw [hevents] at hlast hmissing hnil
        by_cases hskipped : s ≤ traceFrom (o.presentations steps) (lastReceived steps).toNat
        · have hfrom : s + VIBESHINE_DRM_TRACE_HISTORY_SIZE ≤ (o.presentations steps).length := by
            rw [traceFrom] at hskipped
            omega
          obtain ⟨event, hevent, hsequence⟩ := head?_expectedTrace
            (show (lastReceived steps).toNat < (o.presentations steps).length by omega) (by omega)
          rw [← htrace] at hevent
          refine ⟨steps, trace, [], rfl, ⟨by omega, ⟨event, hevent, by omega⟩, hfrom⟩, ?_⟩
          rw [htrace]
          exact decide_eq_true (by omega)
        · have hin : s - traceFrom (o.presentations steps) (lastReceived steps).toNat - 1 <
              (expectedTrace (o.presentations steps) (lastReceived steps).toNat).events.length := by
            omega
          obtain ⟨event, hevent, hsequence, -⟩ := exists_expectedTrace hin (by omega)
          refine absurd (List.mem_map.mpr ⟨event, List.mem_of_getElem? hevent, ?_⟩) hmissing.2
          rw [hsequence]
          congr 1
          omega

theorem timestamps_of_inOrder {steps : List TraceStep} (h : o.InOrder steps)
    (hcount : (o.presentations steps).length < 2 ^ 64) {event : TraceEvent}
    (hevent : event ∈ received steps) :
    0 < event.sequence ∧
      ((o.presentations steps)[event.sequence.toNat - 1]?).map (·.timestampNs) =
        some event.timestampNs := by
  obtain ⟨i, hi⟩ := List.mem_iff_getElem?.mp (List.mem_of_mem_take (h.sublist.subset hevent))
  rw [traceEvents, List.getElem?_mapIdx, Option.map_eq_some_iff] at hi
  obtain ⟨p, hp, rfl⟩ := hi
  have hin := (List.getElem?_eq_some_iff.mp hp).1
  have hsequence := toNat_ofNat_of_lt (n := i + 1) (by omega)
  refine ⟨by rw [UInt64.lt_iff_toNat_lt, hsequence]; exact Nat.succ_pos i, ?_⟩
  rw [hsequence, Nat.add_sub_cancel, hp]
  rfl

theorem traceEvents_increasing {ps : List Publication} (hcount : ps.length < 2 ^ 64) :
    (traceEvents ps).Pairwise (·.sequence < ·.sequence) := by
  rw [List.pairwise_iff_getElem]
  intro i j hi hj hlt
  rw [length_traceEvents] at hi hj
  simp only [traceEvents, List.getElem_mapIdx]
  rw [UInt64.lt_iff_toNat_lt, toNat_ofNat_of_lt (by omega), toNat_ofNat_of_lt (by omega)]
  omega

/-- As long as its calls end, a caller gets every presentation that is not overwritten, each once
and in order, and is told when it misses one. -/
theorem presentTrace_lossless (hfresh : o.Fresh) {steps : List TraceStep} (hrun : o.TraceRun steps)
    (hcount : (o.presentations steps).length < 2 ^ 64) (hends : o.AllEnd steps) :
    o.Lossless steps ∧ (o.TraceEnds steps →
      ∃ fuel reply,
        (o.afterSteps steps).getPresentTrace fuel (lastReceived steps) = some reply) := by
  have hinv := inOrder_of_run hfresh hrun hcount hends
  -- Before a call the same holds of what comes before it.
  have hcall {earlier : List TraceStep} {reply : Except Int32 PresentTrace} {later : List TraceStep}
      (hsteps : steps = earlier ++ .getPresentTrace reply :: later) :
      (o.presentations earlier).length < 2 ^ 64 ∧ (TraceStep.getPresentTrace reply).events =
        (expectedTrace (o.presentations earlier) (lastReceived earlier).toNat).events ∧
      ∀ trace, reply = .ok trace →
        trace = expectedTrace (o.presentations earlier) (lastReceived earlier).toNat := by
    have hreply := hrun _ _ _ hsteps
    have hend := hends _ _ _ hsteps
    subst hsteps
    rw [presentations_append, List.length_append] at hcount
    have hbefore := inOrder_of_run hfresh hrun.of_append (by omega) hends.of_append
    exact ⟨by omega, reply_eq hfresh (by omega) hbefore.last_le hend hreply⟩
  refine ⟨⟨?_, ?_, ?_, ?_, ?_⟩, fun h ↦ ?_⟩
  · exact ((traceEvents_increasing hcount).sublist (List.take_sublist _ _)).sublist hinv.sublist
  · exact fun event hevent ↦ timestamps_of_inOrder hinv hcount hevent
  · exact fun s hpos hlast hmissing ↦ skipped_of_run hfresh hrun hcount hends hpos hlast hmissing
  · intro earlier trace later hsteps hoverflow
    obtain ⟨hcount, -, htrace⟩ := hcall hsteps
    obtain rfl := htrace trace rfl
    have hbehind : (lastReceived earlier).toNat + VIBESHINE_DRM_TRACE_HISTORY_SIZE <
      (o.presentations earlier).length := of_decide_eq_true hoverflow
    have hsize : 0 < VIBESHINE_DRM_TRACE_HISTORY_SIZE := by decide
    have hfrom : traceFrom (o.presentations earlier) (lastReceived earlier).toNat =
      (o.presentations earlier).length - VIBESHINE_DRM_TRACE_HISTORY_SIZE :=
      Nat.max_eq_right (by omega)
    obtain ⟨event, hevent, hsequence⟩ := head?_expectedTrace
      (show (lastReceived earlier).toNat < (o.presentations earlier).length by omega) hcount
    exact ⟨(lastReceived earlier).toNat + 1, by omega, ⟨event, hevent, by omega⟩, by omega⟩
  · intro earlier reply later hsteps
    obtain ⟨hcount, hevents, -⟩ := hcall hsteps
    rw [hevents]
    refine ⟨List.length_take_le _ _, fun hnewer hnil ↦ ?_⟩
    obtain ⟨event, hevent, -⟩ := head?_expectedTrace hnewer hcount
    rw [hnil] at hevent
    exact nomatch hevent
  · obtain ⟨fuel, reply, hreply, -⟩ := call_eq hfresh hcount hinv.last_le h
    exact ⟨fuel, reply, hreply⟩

/-! ## The greatest number -/

theorem TraceRun.append {steps : List TraceStep} (h : o.TraceRun steps) (step : TraceStep)
    (hstep : ∀ reply, step = .getPresentTrace reply →
      ∃ fuel, (o.afterSteps steps).getPresentTrace fuel (lastReceived steps) = some reply) :
    o.TraceRun (steps ++ [step]) := by
  intro earlier reply later hsteps
  obtain rfl | ⟨later, last, rfl⟩ := List.eq_nil_or_concat later
  · obtain ⟨rfl, hlast⟩ := List.append_inj' hsteps rfl
    exact hstep reply (List.singleton_inj.mp hlast)
  · rw [List.concat_eq_append, ← List.cons_append, ← List.append_assoc] at hsteps
    exact h earlier reply later (List.append_inj' hsteps rfl).1

theorem allEnd_of_lt {steps : List TraceStep} (h : (o.presentations steps).length + 1 < 2 ^ 64) :
    o.AllEnd steps := by
  intro earlier reply later hsteps
  rw [hsteps, presentations_append, List.length_append] at h
  exact .inl (by omega)

/-- A caller can have had all presentations, however many there are. -/
theorem exists_drained (hfresh : o.Fresh) {p : Publication} (hp : p.commit.changesCrtc o.crtc)
    {n : Nat} (hn : n + 1 < 2 ^ 64) :
    ∃ steps, o.TraceRun steps ∧ (o.presentations steps).length = n ∧
      (lastReceived steps).toNat = n := by
  induction n with
  | zero => exact ⟨[], fun _ _ _ h ↦ by simp at h, rfl, rfl⟩
  | succ n ih =>
    obtain ⟨steps, hrun, hlength, hlast⟩ := ih (by omega)
    have hlength : (o.presentations (steps ++ [.publish p])).length = n + 1 := by
      rw [presentations_append, List.length_append, hlength]
      simp [presentations, TraceStep.publication?, counted, hp]
    have hlast : (lastReceived (steps ++ [.publish p])).toNat = n := by
      rw [lastReceived_append_of_nil steps rfl, hlast]
    obtain ⟨fuel, reply, hreply, hevents, -⟩ := call_eq hfresh (by omega) (by omega)
      (show o.TraceEnds (steps ++ [.publish p]) from .inl (by omega))
    refine ⟨steps ++ [.publish p] ++ [.getPresentTrace reply],
      (hrun.append (.publish p) fun _ h ↦ by cases h).append _ ?_, ?_, ?_⟩
    · rintro _ ⟨⟩
      exact ⟨fuel, hreply⟩
    · rw [presentations_append, List.length_append, hlength]
      rfl
    · have hbatch : 0 < VIBESHINE_DRM_TRACE_MAX_EVENTS := by decide
      have hsize : 0 < VIBESHINE_DRM_TRACE_HISTORY_SIZE := by decide
      rw [lastReceived_append _ hevents (by omega) (by omega), hevents, length_expectedTrace, hlast,
        hlength, traceFrom, hlength]
      omega

theorem traceLoop_overflow {fuel : Nat} {sequence : UInt64} {events : List TraceEvent}
    {r : List TraceEvent × Bool} (h : o.traceLoop fuel sequence events true = some r) :
    r.2 = true := by
  induction fuel generalizing sequence events with
  | zero => exact nomatch h
  | succ fuel ih =>
    rw [traceLoop] at h
    split_ifs at h
    · exact ih h
    · exact ih h
    · rw [← Option.some.inj h]

/-- With the greatest number of presentations the place of the sequence zero holds another one. -/
theorem zero_not_held {ps : List Publication} {n : Nat} (hn : n + 2 = 2 ^ 64)
    (hlength : ps.length = n + 1) (hring : Ring.Holds o.presentTrace (traceEvents ps)) :
    (o.traceEvent 0).sequence ≠ 0 := by
  have hsize : 0 < VIBESHINE_DRM_TRACE_HISTORY_SIZE := by decide
  have hplace : (n + 1 - VIBESHINE_DRM_TRACE_HISTORY_SIZE) % VIBESHINE_DRM_TRACE_HISTORY_SIZE =
      ((0 : UInt64) - 1).toNat % VIBESHINE_DRM_TRACE_HISTORY_SIZE := by
    obtain rfl : n = 2 ^ 64 - 2 := by omega
    rfl
  have hin : n + 1 - VIBESHINE_DRM_TRACE_HISTORY_SIZE < (traceEvents ps).length := by
    rw [length_traceEvents]
    omega
  have hentry := hring _ hin (by rw [length_traceEvents]; omega)
  rw [hplace, List.getElem?_eq_getElem hin] at hentry
  rw [traceEvent_of_place hentry, sequence_of_traceEvents (List.getElem?_eq_getElem hin)]
  intro h
  have hzero := congrArg UInt64.toNat h
  rw [toNat_ofNat_of_lt (by omega)] at hzero
  exact absurd hzero (Nat.succ_ne_zero _)

/-- With the greatest number of presentations the loop goes on from zero, where it takes the entries
for overwritten ones. -/
theorem overflow_of_wrap {ps : List Publication} {n : Nat} (hn : n + 2 = 2 ^ 64)
    (hlength : ps.length = n + 1) (hsequence : o.presentSequence = UInt64.ofNat ps.length)
    (hring : Ring.Holds o.presentTrace (traceEvents ps)) {fuel : Nat} {trace : PresentTrace}
    (h : o.getPresentTrace fuel (UInt64.ofNat n) = some (.ok trace)) : trace.overflow = true := by
  have hafter : UInt64.ofNat n ≠ 0xffffffffffffffff := by
    intro h
    have := congrArg UInt64.toNat h
    rw [toNat_ofNat_of_lt (by omega)] at this
    have : n = 2 ^ 64 - 1 := this
    omega
  have hsize : 0 < VIBESHINE_DRM_TRACE_HISTORY_SIZE := by decide
  rw [getPresentTrace, if_neg hafter, traceStart_eq hsequence (by omega) (by omega), hlength,
    decide_eq_false (by omega), Nat.max_eq_left (by omega)] at h
  dsimp only at h
  have hevent := traceEvent_eq hring (Nat.succ_pos n) (by rw [length_traceEvents]; omega)
    (by rw [length_traceEvents]; omega) (by omega)
  have hmatch : (o.traceEvent (UInt64.ofNat (n + 1))).sequence = UInt64.ofNat (n + 1) :=
    sequence_of_traceEvents hevent
  have hnext : UInt64.ofNat (n + 1) + 1 = 0 := by
    have : UInt64.ofNat (n + 1) + 1 = UInt64.ofNat (n + 2) := (UInt64.ofNat_add ..).symm
    rw [this, hn]
    rfl
  have hle : UInt64.ofNat (n + 1) ≤ o.presentSequence := by
    rw [hsequence, hlength]
    exact UInt64.le_refl _
  have hzero : (o.traceEvent 0).sequence ≠ 0 := zero_not_held hn hlength hring
  match fuel with
  | 0 => exact nomatch h
  | 1 =>
    rw [traceLoop, if_pos ⟨hle, by decide⟩, if_neg (not_not.mpr hmatch)] at h
    exact nomatch h
  | fuel + 2 =>
    rw [traceLoop, if_pos ⟨hle, by decide⟩, if_neg (not_not.mpr hmatch),
      hnext, traceLoop,
      if_pos ⟨UInt64.zero_le, show 1 < VIBESHINE_DRM_TRACE_MAX_EVENTS by decide⟩,
      if_pos hzero] at h
    cases hloop : o.traceLoop fuel (0 + 1) ([] ++ [o.traceEvent (UInt64.ofNat (n + 1))]) true with
    | none => rw [hloop] at h; exact nomatch h
    | some r =>
      rw [hloop] at h
      obtain rfl := Except.ok.inj (Option.some.inj h)
      exact traceLoop_overflow hloop

end VkmsOutput

/-- A presentation that switches a CRTC on. -/
def examplePublication : Publication := { commit := switchCommit true, timestampNs := 100 }

/-- When the greatest number of presentations has been reached, no reply to a caller that lacks only
the newest one is right. -/
theorem presentTrace_wraps :
    ∃ steps, exampleOutput.TraceRun steps ∧
      (exampleOutput.presentations steps).length + 1 = 2 ^ 64 ∧
      (lastReceived steps).toNat + 2 = 2 ^ 64 ∧
      ∀ fuel reply,
        (exampleOutput.afterSteps steps).getPresentTrace fuel (lastReceived steps) = some reply →
        ¬exampleOutput.Lossless (steps ++ [.getPresentTrace reply]) := by
  have hfresh : exampleOutput.Fresh := rfl
  have hchanges : examplePublication.commit.changesCrtc exampleOutput.crtc := by decide
  obtain ⟨n, hn⟩ : ∃ n, n + 2 = 2 ^ 64 := ⟨2 ^ 64 - 2, rfl⟩
  obtain ⟨steps, hrun, hlength, hlast⟩ := VkmsOutput.exists_drained hfresh hchanges
    (show n + 1 < 2 ^ 64 by omega)
  have hlength : (exampleOutput.presentations (steps ++ [.publish examplePublication])).length =
      n + 1 := by
    rw [VkmsOutput.presentations_append, List.length_append, hlength]
    simp [VkmsOutput.presentations, TraceStep.publication?, VkmsOutput.counted, hchanges]
  have hlast : (lastReceived (steps ++ [.publish examplePublication])).toNat = n := by
    rw [VkmsOutput.lastReceived_append_of_nil steps rfl, hlast]
  refine ⟨steps ++ [.publish examplePublication],
    hrun.append _ fun _ h ↦ (by cases h), by omega, by omega, fun fuel reply hreply hlossless ↦ ?_⟩
  cases reply with
  | error ret => exact (hlossless.batch _ _ [] rfl).2 (by omega) rfl
  | ok trace =>
    rw [← UInt64.ofNat_toNat (x := lastReceived _), hlast] at hreply
    have hoverflow := VkmsOutput.overflow_of_wrap hn hlength
      (VkmsOutput.published_sequence hfresh _).1
      (VkmsOutput.published_trace hfresh
        (show (exampleOutput.presentations (steps ++ [.publish examplePublication])).length < 2 ^ 64
          by omega)) hreply
    have hbatch : 0 < VIBESHINE_DRM_TRACE_HISTORY_SIZE := by decide
    obtain ⟨s, hbehind, -, hoverwritten⟩ := hlossless.overflow _ trace [] rfl hoverflow
    omega

/-- The caller has not asked for the first 5000 presentations. -/
def examplePublished : List TraceStep := List.replicate 5000 (.publish examplePublication)

/-- The ring keeps less than there is, and the call says so. -/
theorem presentTrace_lossless_behind :
    ∃ trace : PresentTrace,
      exampleOutput.Lossless (examplePublished ++ [.getPresentTrace (.ok trace)]) ∧
        trace.newestSequence = 5000 ∧ trace.overflow = true ∧ trace.events.length = 64 := by
  have hpresented : exampleOutput.presentations examplePublished =
      List.replicate 5000 examplePublication := by
    have hpublications : examplePublished.filterMap TraceStep.publication? =
        List.replicate 5000 examplePublication :=
      List.filterMap_replicate_of_some rfl
    rw [VkmsOutput.presentations, hpublications]
    exact List.filter_replicate_of_pos (by decide)
  have hpublishes : ∀ step ∈ examplePublished, step = .publish examplePublication :=
    fun _ ↦ List.eq_of_mem_replicate
  have hfresh : exampleOutput.Fresh := rfl
  generalize examplePublished = published at hpresented hpublishes ⊢
  have hcount : (exampleOutput.presentations published).length = 5000 := by
    rw [hpresented, List.length_replicate]
  have hpublish : exampleOutput.TraceRun published := by
    intro earlier reply later h
    have hmem : .getPresentTrace reply ∈ published := by simp [h]
    exact nomatch hpublishes _ hmem
  have hlast : lastReceived published = 0 := by
    have hnone : received published = [] := by
      rw [received, List.flatMap_eq_nil_iff]
      intro step hstep
      rw [hpublishes step hstep]
      rfl
    rw [lastReceived, hnone]
    rfl
  obtain ⟨trace, htrace⟩ : ∃ trace, trace =
      VkmsOutput.expectedTrace (exampleOutput.presentations published) 0 := ⟨_, rfl⟩
  have hreply : (exampleOutput.afterSteps published).getPresentTrace 65 (UInt64.ofNat 0) =
      some (.ok trace) := by
    have hroom : (exampleOutput.presentations published).length + 1 < 2 ^ 64 := by
      rw [hcount]
      decide
    rw [htrace]
    exact VkmsOutput.getPresentTrace_eq (VkmsOutput.published_sequence hfresh _).1
      (Nat.lt_of_succ_lt hroom) (VkmsOutput.published_trace hfresh (Nat.lt_of_succ_lt hroom))
      (Nat.zero_le _) (by decide) (.inl hroom) (by decide)
  have hrun : exampleOutput.TraceRun (published ++ [.getPresentTrace (.ok trace)]) := by
    refine hpublish.append _ ?_
    rintro _ ⟨⟩
    exact ⟨65, hlast ▸ hreply⟩
  have hcount' : (exampleOutput.presentations
      (published ++ [.getPresentTrace (.ok trace)])).length = 5000 := by
    rw [VkmsOutput.presentations_append, List.length_append, hcount]
    rfl
  refine ⟨trace, (VkmsOutput.presentTrace_lossless hfresh hrun (by rw [hcount']; decide)
    (VkmsOutput.allEnd_of_lt (by rw [hcount']; decide))).1, ?_, ?_, ?_⟩
  · rw [htrace, VkmsOutput.expectedTrace, hcount]
    rfl
  · rw [htrace, VkmsOutput.expectedTrace, hcount]
    rfl
  · rw [htrace, VkmsOutput.length_expectedTrace, VkmsOutput.traceFrom, hcount]
    rfl

end VirtualDisplay
