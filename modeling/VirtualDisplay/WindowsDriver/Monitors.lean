import VirtualDisplay.Lib.Counting
import VirtualDisplay.WindowsDriver.RegisteredModes

/-!
# Arrivals and departures of monitors

The Windows backend brings every monitor up on a thread of its own, and takes it down on another
(`arrive_display_synchronously`, `depart_display` and `finish_monitor_departure` of `IddCxBackend`
in `driver_main.cpp`).  The threads share the table of monitors, under one lock, and the registered
modes, under another, and give both locks up between their steps.

`MonitorStep` has a constructor for each step that a thread takes under a lock or in a call of
IddCx.  A thread may be started at any time and stands still for as long as it likes; every call of
IddCx may fail.  What a thread waits for, and the processors of a monitor, decide only which steps
are taken when.

* `Settled` — what holds in every reachable state; `Settled.step` keeps it.
* `registeredModes_balanced` — the counters of the registered modes say how many monitors hold
  them.
-/

set_option autoImplicit false

namespace VirtualDisplay

/-! ## The backend -/

/-- `DisplayDescriptor` as the backend has it, with the EDID as its bytes. -/
structure MonitorDescriptor where
  leaseId : UInt64 := 0
  displayId : UInt64 := 0
  containerId : Guid := {}
  connectorIndex : UInt32 := 0
  width : UInt32 := 0
  height : UInt32 := 0
  physicalWidthMm : UInt32 := 0
  physicalHeightMm : UInt32 := 0
  refreshRateMillihz : UInt32 := 0
  edid : EdidBytes := Vector.replicate _ 0
  retainIdentity : Bool := true
  generation : UInt64 := 0
  requestedResolutionOnly : Bool := false
  deriving DecidableEq

/-- The mode that a monitor is registered with, the usual one if the descriptor has none. -/
def modeShapeFromDescriptor (descriptor : MonitorDescriptor) : WindowsDriverModeShape :=
  if descriptor.width = 0 ∨ descriptor.height = 0 ∨ descriptor.refreshRateMillihz = 0 then {}
  else
    activeWindowsDriverModeShape descriptor.width descriptor.height descriptor.refreshRateMillihz

/-- The mode of a monitor is registered under its EDID. -/
def registerMonitorDescriptionMode (modes : RegisteredModeStore)
    (descriptor : MonitorDescriptor) : RegisteredModeStore × Bool :=
  let mode := modeShapeFromDescriptor descriptor
  if mode.width = 0 ∨ mode.height = 0 ∨ mode.refreshRateMillihz = 0 then (modes, false)
  else registerMode modes descriptor.edid mode descriptor.requestedResolutionOnly

/-- The registration of a monitor is taken back. -/
def unregisterMonitorDescriptionMode (modes : RegisteredModeStore)
    (descriptor : MonitorDescriptor) : RegisteredModeStore :=
  unregisterMode modes descriptor.edid

/-- An entry of the table; `monitor` is the object that IddCx created for it. -/
structure MonitorRecord where
  descriptor : MonitorDescriptor
  monitor : Nat
  permanent : Bool
  arriving : Bool := false
  departing : Bool := false
  deriving DecidableEq

/-! ## Threads -/

/-- Where an arrival stands. -/
inductive ArrivalPhase where
  /-- The table had no monitor of the display. -/
  | checked
  /-- The mode is registered. -/
  | registered
  /-- IddCx created the monitor object. -/
  | created (monitor : Nat)
  /-- The record is in the table. -/
  | inserted (monitor : Nat)
  /-- IddCx announced the monitor. -/
  | arrived (monitor : Nat)
  /-- The mode is registered and the record never got into the table. -/
  | refused
  deriving DecidableEq

/-- A thread that lets a monitor arrive. -/
structure Arrival where
  descriptor : MonitorDescriptor
  permanent : Bool
  phase : ArrivalPhase
  deriving DecidableEq

/-- A departure that has marked its record. -/
structure Departure where
  displayId : UInt64
  monitor : Nat
  deriving DecidableEq

/-- The table, the registered modes and the threads.  `leaving` has the monitors that were taken
out of the table by threads that have still to unregister their modes. -/
structure MonitorsState where
  monitors : OrdMap UInt64 MonitorRecord := ∅
  modes : RegisteredModeStore := fun _ ↦ none
  arrivals : Multiset Arrival := 0
  departures : Multiset Departure := 0
  leaving : Multiset MonitorDescriptor := 0

namespace MonitorsState

/-- No record and no thread has the monitor object. -/
def Unused (s : MonitorsState) (monitor : Nat) : Prop :=
  (∀ (displayId : UInt64) (record : MonitorRecord), s.monitors[displayId]? = some record →
      record.monitor ≠ monitor) ∧
    (∀ arrival ∈ s.arrivals, arrival.phase ≠ .created monitor) ∧
    ∀ departure ∈ s.departures, departure.monitor ≠ monitor

/-- The table with the record of the monitor object no longer departing. -/
def undepart (s : MonitorsState) (departure : Departure) : OrdMap UInt64 MonitorRecord :=
  match s.monitors[departure.displayId]? with
  | some record =>
    if record.monitor = departure.monitor then
      s.monitors.insert departure.displayId { record with departing := false }
    else s.monitors
  | none => s.monitors

end MonitorsState

/-- The steps of the threads. -/
inductive MonitorStep : MonitorsState → MonitorsState → Prop
  /-- An arrival begins where the table has no monitor of the display. -/
  | arrive (s : MonitorsState) (descriptor : MonitorDescriptor) (permanent : Bool) :
      s.monitors[descriptor.displayId]? = none →
      MonitorStep s { s with arrivals := ⟨descriptor, permanent, .checked⟩ ::ₘ s.arrivals }
  | register (s : MonitorsState) {rest : Multiset Arrival} {descriptor : MonitorDescriptor}
      {permanent : Bool} :
      s.arrivals = ⟨descriptor, permanent, .checked⟩ ::ₘ rest →
      (registerMonitorDescriptionMode s.modes descriptor).2 = true →
      MonitorStep s { s with
        modes := (registerMonitorDescriptionMode s.modes descriptor).1
        arrivals := ⟨descriptor, permanent, .registered⟩ ::ₘ rest }
  | registerRefused (s : MonitorsState) {rest : Multiset Arrival}
      {descriptor : MonitorDescriptor} {permanent : Bool} :
      s.arrivals = ⟨descriptor, permanent, .checked⟩ ::ₘ rest →
      (registerMonitorDescriptionMode s.modes descriptor).2 = false →
      MonitorStep s { s with
        modes := (registerMonitorDescriptionMode s.modes descriptor).1
        arrivals := rest }
  /-- The entry of the mode could not be allocated. -/
  | registerThrows (s : MonitorsState) {rest : Multiset Arrival} {descriptor : MonitorDescriptor}
      {permanent : Bool} :
      s.arrivals = ⟨descriptor, permanent, .checked⟩ ::ₘ rest →
      MonitorStep s { s with arrivals := rest }
  | create (s : MonitorsState) {rest : Multiset Arrival} {descriptor : MonitorDescriptor}
      {permanent : Bool} (monitor : Nat) :
      s.arrivals = ⟨descriptor, permanent, .registered⟩ ::ₘ rest → s.Unused monitor →
      MonitorStep s { s with arrivals := ⟨descriptor, permanent, .created monitor⟩ ::ₘ rest }
  | createFailed (s : MonitorsState) {rest : Multiset Arrival} {descriptor : MonitorDescriptor}
      {permanent : Bool} :
      s.arrivals = ⟨descriptor, permanent, .registered⟩ ::ₘ rest →
      MonitorStep s { s with arrivals := ⟨descriptor, permanent, .refused⟩ ::ₘ rest }
  | insert (s : MonitorsState) {rest : Multiset Arrival} {descriptor : MonitorDescriptor}
      {permanent : Bool} {monitor : Nat} :
      s.arrivals = ⟨descriptor, permanent, .created monitor⟩ ::ₘ rest →
      s.monitors[descriptor.displayId]? = none →
      MonitorStep s { s with
        monitors := s.monitors.insert descriptor.displayId
          { descriptor, monitor, permanent, arriving := true }
        arrivals := ⟨descriptor, permanent, .inserted monitor⟩ ::ₘ rest }
  /-- The adapter changed, the table has a monitor of the display by now, or the record could not
  be allocated. -/
  | insertFailed (s : MonitorsState) {rest : Multiset Arrival} {descriptor : MonitorDescriptor}
      {permanent : Bool} {monitor : Nat} :
      s.arrivals = ⟨descriptor, permanent, .created monitor⟩ ::ₘ rest →
      MonitorStep s { s with arrivals := ⟨descriptor, permanent, .refused⟩ ::ₘ rest }
  | announce (s : MonitorsState) {rest : Multiset Arrival} {descriptor : MonitorDescriptor}
      {permanent : Bool} {monitor : Nat} :
      s.arrivals = ⟨descriptor, permanent, .inserted monitor⟩ ::ₘ rest →
      MonitorStep s { s with arrivals := ⟨descriptor, permanent, .arrived monitor⟩ ::ₘ rest }
  /-- The record goes whoever it belongs to. -/
  | announceFailed (s : MonitorsState) {rest : Multiset Arrival} {descriptor : MonitorDescriptor}
      {permanent : Bool} {monitor : Nat} :
      s.arrivals = ⟨descriptor, permanent, .inserted monitor⟩ ::ₘ rest →
      MonitorStep s { s with
        monitors := s.monitors.erase descriptor.displayId
        arrivals := rest
        leaving := descriptor ::ₘ s.leaving }
  | settle (s : MonitorsState) {rest : Multiset Arrival} {descriptor : MonitorDescriptor}
      {permanent : Bool} {monitor : Nat} {record : MonitorRecord} :
      s.arrivals = ⟨descriptor, permanent, .arrived monitor⟩ ::ₘ rest →
      s.monitors[descriptor.displayId]? = some record → record.monitor = monitor →
      MonitorStep s { s with
        monitors := s.monitors.insert descriptor.displayId { record with arriving := false }
        arrivals := rest }
  /-- The record is missing after all; the thread unregisters the mode once more. -/
  | settleMissing (s : MonitorsState) {rest : Multiset Arrival} {descriptor : MonitorDescriptor}
      {permanent : Bool} {monitor : Nat} :
      s.arrivals = ⟨descriptor, permanent, .arrived monitor⟩ ::ₘ rest →
      (∀ record, s.monitors[descriptor.displayId]? = some record → record.monitor ≠ monitor) →
      MonitorStep s { s with
        arrivals := rest
        leaving := descriptor ::ₘ s.leaving }
  | unregisterRefused (s : MonitorsState) {rest : Multiset Arrival}
      {descriptor : MonitorDescriptor} {permanent : Bool} :
      s.arrivals = ⟨descriptor, permanent, .refused⟩ ::ₘ rest →
      MonitorStep s { s with
        modes := unregisterMonitorDescriptionMode s.modes descriptor
        arrivals := rest }
  | unregisterLeaving (s : MonitorsState) {rest : Multiset MonitorDescriptor}
      {descriptor : MonitorDescriptor} :
      s.leaving = descriptor ::ₘ rest →
      MonitorStep s { s with
        modes := unregisterMonitorDescriptionMode s.modes descriptor
        leaving := rest }
  /-- A departure marks a record that is up and of the generation it was asked to take down. -/
  | depart (s : MonitorsState) {record : MonitorRecord} (displayId expectedGeneration : UInt64) :
      s.monitors[displayId]? = some record →
      ¬(expectedGeneration ≠ 0 ∧ record.descriptor.generation ≠ 0 ∧
        record.descriptor.generation ≠ expectedGeneration) →
      record.arriving = false → record.departing = false →
      MonitorStep s { s with
        monitors := s.monitors.insert displayId { record with departing := true }
        departures := ⟨displayId, record.monitor⟩ ::ₘ s.departures }
  /-- A departure is put off, or IddCx refuses it. -/
  | departFailed (s : MonitorsState) {rest : Multiset Departure} {departure : Departure} :
      s.departures = departure ::ₘ rest →
      MonitorStep s { s with monitors := s.undepart departure, departures := rest }
  | departed (s : MonitorsState) {rest : Multiset Departure} {departure : Departure}
      {record : MonitorRecord} :
      s.departures = departure ::ₘ rest →
      s.monitors[departure.displayId]? = some record → record.monitor = departure.monitor →
      MonitorStep s { s with
        monitors := s.monitors.erase departure.displayId
        departures := rest
        leaving := record.descriptor ::ₘ s.leaving }
  /-- Another monitor has taken the place of the one that departed, or none. -/
  | departedMissing (s : MonitorsState) {rest : Multiset Departure} {departure : Departure} :
      s.departures = departure ::ₘ rest →
      (∀ record, s.monitors[departure.displayId]? = some record →
        record.monitor ≠ departure.monitor) →
      MonitorStep s { s with departures := rest }

/-! ## Owners of records

An arrival whose record is in the table owns the record: no departure may mark it, and no other
arrival of the display can have one.
-/

/-- The monitor object of an arrival whose record is in the table. -/
def ArrivalPhase.owns : ArrivalPhase → Option Nat
  | .inserted monitor => some monitor
  | .arrived monitor => some monitor
  | _ => none

/-- The arrival owns the record of the display. -/
def Arrival.OwnsAt (displayId : UInt64) (arrival : Arrival) : Prop :=
  arrival.phase.owns.isSome = true ∧ arrival.descriptor.displayId = displayId

instance (displayId : UInt64) : DecidablePred (Arrival.OwnsAt displayId) :=
  fun _ ↦ inferInstanceAs (Decidable (_ ∧ _))

/-- The arrival has a monitor object that is not in the table yet. -/
def Arrival.HasCreated (monitor : Nat) (arrival : Arrival) : Prop :=
  arrival.phase = .created monitor

instance (monitor : Nat) : DecidablePred (Arrival.HasCreated monitor) :=
  fun _ ↦ inferInstanceAs (Decidable (_ = _))

/-- How the threads and the table fit together. -/
structure Tracked (monitors : OrdMap UInt64 MonitorRecord) (arrivals : Multiset Arrival)
    (departures : Multiset Departure) : Prop where
  /-- The record of an owner is in the table as the owner wrote it. -/
  owned : ∀ arrival ∈ arrivals, ∀ monitor, arrival.phase.owns = some monitor →
    ∃ record, monitors[arrival.descriptor.displayId]? = some record ∧
      record.monitor = monitor ∧ record.descriptor = arrival.descriptor ∧ record.arriving = true
  single : ∀ displayId, arrivals.countP (Arrival.OwnsAt displayId) ≤ 1
  /-- A monitor object that is not in the table yet is nowhere else. -/
  fresh : ∀ arrival ∈ arrivals, ∀ monitor, arrival.HasCreated monitor →
    (∀ (displayId : UInt64) (record : MonitorRecord), monitors[displayId]? = some record →
        record.monitor ≠ monitor) ∧
      ∀ departure ∈ departures, departure.monitor ≠ monitor
  distinct : ∀ monitor, arrivals.countP (Arrival.HasCreated monitor) ≤ 1
  /-- No departure has marked the record of an owner. -/
  departs : ∀ departure ∈ departures, ∀ record : MonitorRecord,
    monitors[departure.displayId]? = some record → record.monitor = departure.monitor →
      record.arriving = false

namespace Tracked

variable {monitors : OrdMap UInt64 MonitorRecord} {arrivals rest : Multiset Arrival}
  {departures : Multiset Departure} {arrival : Arrival}

theorem start : Tracked ∅ 0 0 where
  owned _ h := absurd h (Multiset.notMem_zero _)
  single _ := by simp
  fresh _ h := absurd h (Multiset.notMem_zero _)
  distinct _ := by simp
  departs _ h := absurd h (Multiset.notMem_zero _)

/-- A thread that ends. -/
theorem drop (h : Tracked monitors (arrival ::ₘ rest) departures) :
    Tracked monitors rest departures where
  owned a ha := h.owned a (Multiset.mem_cons_of_mem ha)
  single displayId := (Multiset.countP_le_of_le _ (Multiset.le_cons_self _ _)).trans
    (h.single displayId)
  fresh a ha := h.fresh a (Multiset.mem_cons_of_mem ha)
  distinct monitor := (Multiset.countP_le_of_le _ (Multiset.le_cons_self _ _)).trans
    (h.distinct monitor)
  departs := h.departs

/-- No other arrival owns the record that one owns. -/
theorem alone (h : Tracked monitors (arrival ::ₘ rest) departures) {displayId : UInt64}
    (hown : arrival.OwnsAt displayId) : ∀ other ∈ rest, ¬other.OwnsAt displayId :=
  Bag.not_of_countP_cons_le_one (h.single displayId) hown

/-- A record that is not arriving has no owner. -/
theorem unowned (h : Tracked monitors arrivals departures) {displayId : UInt64}
    {record : MonitorRecord} (hrecord : monitors[displayId]? = some record)
    (harriving : record.arriving = false) : ∀ arrival ∈ arrivals, ¬arrival.OwnsAt displayId := by
  rintro arrival harrival ⟨howns, rfl⟩
  obtain ⟨monitor, howns⟩ := Option.isSome_iff_exists.mp howns
  obtain ⟨record', hrecord', -, -, harriving'⟩ := h.owned arrival harrival monitor howns
  rw [hrecord, Option.some.injEq] at hrecord'
  rw [hrecord', harriving'] at harriving
  exact nomatch harriving

/-- A thread that has neither a monitor object nor a record. -/
theorem add_idle (h : Tracked monitors arrivals departures) (howns : arrival.phase.owns = none)
    (hcreated : ∀ monitor, ¬arrival.HasCreated monitor) :
    Tracked monitors (arrival ::ₘ arrivals) departures where
  owned a ha monitor hmonitor := by
    obtain rfl | ha := Multiset.mem_cons.mp ha
    · rw [howns] at hmonitor
      exact nomatch hmonitor
    · exact h.owned a ha monitor hmonitor
  single displayId := by
    rw [Multiset.countP_cons_of_neg]
    · exact h.single displayId
    · rintro ⟨hsome, -⟩
      rw [howns] at hsome
      exact nomatch hsome
  fresh a ha monitor hmonitor := by
    obtain rfl | ha := Multiset.mem_cons.mp ha
    · exact absurd hmonitor (hcreated monitor)
    · exact h.fresh a ha monitor hmonitor
  distinct monitor := by
    rw [Multiset.countP_cons_of_neg _ (hcreated monitor)]
    exact h.distinct monitor
  departs := h.departs

/-- A thread whose monitor object is new. -/
theorem add_created (h : Tracked monitors arrivals departures) {monitor : Nat}
    (hphase : arrival.HasCreated monitor)
    (htable : ∀ (displayId : UInt64) (record : MonitorRecord),
      monitors[displayId]? = some record → record.monitor ≠ monitor)
    (harrivals : ∀ other ∈ arrivals, ¬other.HasCreated monitor)
    (hdepartures : ∀ departure ∈ departures, departure.monitor ≠ monitor) :
    Tracked monitors (arrival ::ₘ arrivals) departures where
  owned a ha monitor hmonitor := by
    obtain rfl | ha := Multiset.mem_cons.mp ha
    · rw [show a.phase = _ from hphase] at hmonitor
      exact nomatch hmonitor
    · exact h.owned a ha monitor hmonitor
  single displayId := by
    rw [Multiset.countP_cons_of_neg]
    · exact h.single displayId
    · rintro ⟨hsome, -⟩
      rw [show arrival.phase = _ from hphase] at hsome
      exact nomatch hsome
  fresh a ha monitor' hmonitor := by
    obtain rfl | ha := Multiset.mem_cons.mp ha
    · obtain rfl : monitor = monitor' := ArrivalPhase.created.inj (hphase.symm.trans hmonitor)
      exact ⟨htable, hdepartures⟩
    · exact h.fresh a ha monitor' hmonitor
  distinct monitor' := by
    by_cases hsame : monitor' = monitor
    · subst hsame
      rw [Multiset.countP_cons_of_pos _ hphase, Multiset.countP_eq_zero.mpr harrivals]
    · rw [Multiset.countP_cons_of_neg]
      · exact h.distinct monitor'
      · exact fun hmonitor ↦ hsame (ArrivalPhase.created.inj (hmonitor.symm.trans hphase))
  departs := h.departs

/-- A thread whose record is in the table. -/
theorem add_owner (h : Tracked monitors arrivals departures) {monitor : Nat}
    {record : MonitorRecord} (howns : arrival.phase.owns = some monitor)
    (hrecord : monitors[arrival.descriptor.displayId]? = some record)
    (hmonitor : record.monitor = monitor) (hdescriptor : record.descriptor = arrival.descriptor)
    (harriving : record.arriving = true)
    (halone : ∀ other ∈ arrivals, ¬other.OwnsAt arrival.descriptor.displayId) :
    Tracked monitors (arrival ::ₘ arrivals) departures where
  owned a ha monitor' hmonitor' := by
    obtain rfl | ha := Multiset.mem_cons.mp ha
    · rw [howns, Option.some.injEq] at hmonitor'
      exact ⟨record, hrecord, hmonitor.trans hmonitor', hdescriptor, harriving⟩
    · exact h.owned a ha monitor' hmonitor'
  single displayId := by
    by_cases hsame : arrival.descriptor.displayId = displayId
    · subst hsame
      have hown : arrival.OwnsAt arrival.descriptor.displayId :=
        ⟨Option.isSome_iff_exists.mpr ⟨monitor, howns⟩, rfl⟩
      rw [Multiset.countP_cons_of_pos _ hown, Multiset.countP_eq_zero.mpr halone]
    · rw [Multiset.countP_cons_of_neg _ fun hown ↦ hsame hown.2]
      exact h.single displayId
  fresh a ha monitor' hmonitor' := by
    obtain rfl | ha := Multiset.mem_cons.mp ha
    · rw [show a.phase = _ from hmonitor'] at howns
      exact nomatch howns
    · exact h.fresh a ha monitor' hmonitor'
  distinct monitor' := by
    rw [Multiset.countP_cons_of_neg]
    · exact h.distinct monitor'
    · intro hcreated
      rw [show arrival.phase = _ from hcreated] at howns
      exact nomatch howns
  departs := h.departs

/-- A new record, whose monitor object no other thread has. -/
theorem insert_record (h : Tracked monitors arrivals departures) {displayId : UInt64}
    {record : MonitorRecord} (habsent : monitors[displayId]? = none)
    (harrivals : ∀ arrival ∈ arrivals, ¬arrival.HasCreated record.monitor)
    (hdepartures : ∀ departure ∈ departures, departure.monitor ≠ record.monitor) :
    Tracked (monitors.insert displayId record) arrivals departures where
  owned a ha monitor hmonitor := by
    obtain ⟨record', hrecord', hfields⟩ := h.owned a ha monitor hmonitor
    refine ⟨record', ?_, hfields⟩
    rw [OrdMap.getElem?_insert, if_neg, hrecord']
    rintro rfl
    rw [habsent] at hrecord'
    exact nomatch hrecord'
  single := h.single
  fresh a ha monitor hmonitor := by
    obtain ⟨htable, hdeparture⟩ := h.fresh a ha monitor hmonitor
    refine ⟨fun displayId' record' hrecord' ↦ ?_, hdeparture⟩
    rw [OrdMap.getElem?_insert] at hrecord'
    split_ifs at hrecord'
    · rintro rfl
      rw [Option.some.injEq] at hrecord'
      exact harrivals a ha (hrecord' ▸ hmonitor)
    · exact htable displayId' record' hrecord'
  distinct := h.distinct
  departs departure hdeparture record' hrecord' hmonitor := by
    rw [OrdMap.getElem?_insert] at hrecord'
    split_ifs at hrecord'
    · rw [Option.some.injEq] at hrecord'
      exact absurd (hrecord' ▸ hmonitor).symm (hdepartures departure hdeparture)
    · exact h.departs departure hdeparture record' hrecord' hmonitor

/-- A record without an owner may be written, as long as it keeps its monitor object. -/
theorem replace_record (h : Tracked monitors arrivals departures) {displayId : UInt64}
    {record record' : MonitorRecord} (hrecord : monitors[displayId]? = some record)
    (hmonitor : record'.monitor = record.monitor) (harriving : record'.arriving = false)
    (hunowned : ∀ arrival ∈ arrivals, ¬arrival.OwnsAt displayId) :
    Tracked (monitors.insert displayId record') arrivals departures where
  owned a ha monitor howns := by
    obtain ⟨record₀, hrecord₀, hfields⟩ := h.owned a ha monitor howns
    refine ⟨record₀, ?_, hfields⟩
    rw [OrdMap.getElem?_insert, if_neg, hrecord₀]
    exact fun hsame ↦ hunowned a ha ⟨Option.isSome_iff_exists.mpr ⟨monitor, howns⟩, hsame.symm⟩
  single := h.single
  fresh a ha monitor hcreated := by
    obtain ⟨htable, hdeparture⟩ := h.fresh a ha monitor hcreated
    refine ⟨fun displayId' record₀ hrecord₀ ↦ ?_, hdeparture⟩
    rw [OrdMap.getElem?_insert] at hrecord₀
    split_ifs at hrecord₀
    · rw [← Option.some.inj hrecord₀, hmonitor]
      exact htable displayId record hrecord
    · exact htable displayId' record₀ hrecord₀
  distinct := h.distinct
  departs departure hdeparture record₀ hrecord₀ hsame := by
    rw [OrdMap.getElem?_insert] at hrecord₀
    split_ifs at hrecord₀
    · rw [← Option.some.inj hrecord₀, harriving]
    · exact h.departs departure hdeparture record₀ hrecord₀ hsame

theorem erase_record (h : Tracked monitors arrivals departures) {displayId : UInt64}
    (hunowned : ∀ arrival ∈ arrivals, ¬arrival.OwnsAt displayId) :
    Tracked (monitors.erase displayId) arrivals departures where
  owned a ha monitor howns := by
    obtain ⟨record, hrecord, hfields⟩ := h.owned a ha monitor howns
    refine ⟨record, ?_, hfields⟩
    rw [OrdMap.getElem?_erase, if_neg, hrecord]
    exact fun hsame ↦ hunowned a ha ⟨Option.isSome_iff_exists.mpr ⟨monitor, howns⟩, hsame.symm⟩
  single := h.single
  fresh a ha monitor hcreated := by
    obtain ⟨htable, hdeparture⟩ := h.fresh a ha monitor hcreated
    refine ⟨fun displayId' record hrecord ↦ ?_, hdeparture⟩
    rw [OrdMap.getElem?_erase] at hrecord
    split_ifs at hrecord
    exact htable displayId' record hrecord
  distinct := h.distinct
  departs departure hdeparture record hrecord hsame := by
    rw [OrdMap.getElem?_erase] at hrecord
    split_ifs at hrecord
    exact h.departs departure hdeparture record hrecord hsame

theorem drop_departure {departure : Departure} {others : Multiset Departure}
    (h : Tracked monitors arrivals (departure ::ₘ others)) :
    Tracked monitors arrivals others where
  owned := h.owned
  single := h.single
  fresh a ha monitor hcreated :=
    ⟨(h.fresh a ha monitor hcreated).1, fun other hother ↦
      (h.fresh a ha monitor hcreated).2 other (Multiset.mem_cons_of_mem hother)⟩
  distinct := h.distinct
  departs other hother := h.departs other (Multiset.mem_cons_of_mem hother)

/-- A departure may mark a record that is up. -/
theorem add_departure (h : Tracked monitors arrivals departures) (departure : Departure)
    {record : MonitorRecord} (hrecord : monitors[departure.displayId]? = some record)
    (hmonitor : record.monitor = departure.monitor) (harriving : record.arriving = false) :
    Tracked monitors arrivals (departure ::ₘ departures) where
  owned := h.owned
  single := h.single
  fresh a ha monitor hcreated := by
    obtain ⟨htable, hdeparture⟩ := h.fresh a ha monitor hcreated
    refine ⟨htable, fun other hother ↦ ?_⟩
    obtain rfl | hother := Multiset.mem_cons.mp hother
    · rw [← hmonitor]
      exact htable other.displayId record hrecord
    · exact hdeparture other hother
  distinct := h.distinct
  departs other hother record' hrecord' hsame := by
    obtain rfl | hother := Multiset.mem_cons.mp hother
    · rw [hrecord, Option.some.injEq] at hrecord'
      rw [← hrecord', harriving]
    · exact h.departs other hother record' hrecord' hsame

end Tracked

/-- **A step keeps the threads and the table together.** -/
theorem Tracked.step {s s' : MonitorsState} (h : Tracked s.monitors s.arrivals s.departures)
    (hstep : MonitorStep s s') : Tracked s'.monitors s'.arrivals s'.departures := by
  cases hstep with
  | arrive descriptor permanent habsent => exact h.add_idle rfl nofun
  | register harrivals _ => exact (harrivals ▸ h).drop.add_idle rfl nofun
  | registerRefused harrivals _ => exact (harrivals ▸ h).drop
  | registerThrows harrivals => exact (harrivals ▸ h).drop
  | create monitor harrivals hunused =>
    obtain ⟨htable, hcreated, hdepartures⟩ := hunused
    rw [harrivals] at h hcreated
    exact h.drop.add_created rfl htable
      (fun other hother ↦ hcreated other (Multiset.mem_cons_of_mem hother)) hdepartures
  | createFailed harrivals => exact (harrivals ▸ h).drop.add_idle rfl nofun
  | @insert rest descriptor permanent monitor harrivals habsent =>
    rw [harrivals] at h
    obtain ⟨-, hdepartures⟩ := h.fresh _ (Multiset.mem_cons_self _ _) monitor rfl
    have hothers : ∀ other ∈ rest, ¬other.HasCreated monitor :=
      Bag.not_of_countP_cons_le_one (h.distinct monitor) rfl
    have hunowned : ∀ other ∈ rest, ¬other.OwnsAt descriptor.displayId := by
      rintro other hother ⟨howns, hsame⟩
      obtain ⟨monitor', howns⟩ := Option.isSome_iff_exists.mp howns
      obtain ⟨record, hrecord, -⟩ := h.drop.owned other hother monitor' howns
      rw [hsame, habsent] at hrecord
      exact nomatch hrecord
    have hinserted : (s.monitors.insert descriptor.displayId
        { descriptor, monitor, permanent, arriving := true : MonitorRecord })[
          descriptor.displayId]? = some { descriptor, monitor, permanent, arriving := true } := by
      rw [OrdMap.getElem?_insert, if_pos rfl]
    exact (h.drop.insert_record habsent hothers hdepartures).add_owner rfl hinserted rfl rfl rfl
      hunowned
  | insertFailed harrivals => exact (harrivals ▸ h).drop.add_idle rfl nofun
  | announce harrivals =>
    rw [harrivals] at h
    obtain ⟨record, hrecord, hmonitor, hdescriptor, harriving⟩ :=
      h.owned _ (Multiset.mem_cons_self _ _) _ rfl
    exact h.drop.add_owner rfl hrecord hmonitor hdescriptor harriving (h.alone ⟨rfl, rfl⟩)
  | announceFailed harrivals =>
    rw [harrivals] at h
    exact h.drop.erase_record (h.alone ⟨rfl, rfl⟩)
  | settle harrivals hrecord hmonitor =>
    rw [harrivals] at h
    exact h.drop.replace_record hrecord rfl rfl (h.alone ⟨rfl, rfl⟩)
  | settleMissing harrivals _ => exact (harrivals ▸ h).drop
  | unregisterRefused harrivals => exact (harrivals ▸ h).drop
  | unregisterLeaving _ => exact h
  | @depart record displayId expectedGeneration hrecord _ harriving _ =>
    have hmarked : (s.monitors.insert displayId { record with departing := true })[displayId]? =
        some { record with departing := true } := by
      rw [OrdMap.getElem?_insert, if_pos rfl]
    have hreplaced : Tracked (s.monitors.insert displayId { record with departing := true })
        s.arrivals s.departures :=
      h.replace_record hrecord rfl harriving (h.unowned hrecord harriving)
    exact hreplaced.add_departure ⟨displayId, record.monitor⟩ hmarked rfl harriving
  | @departFailed rest departure hdepartures =>
    rw [hdepartures] at h
    dsimp only
    rw [MonitorsState.undepart]
    split
    case h_1 record hrecord =>
      split_ifs with hmonitor
      · have harriving := h.departs departure (Multiset.mem_cons_self _ _) record hrecord hmonitor
        exact h.drop_departure.replace_record hrecord rfl harriving (h.unowned hrecord harriving)
      · exact h.drop_departure
    case h_2 => exact h.drop_departure
  | @departed rest departure record hdepartures hrecord hmonitor =>
    rw [hdepartures] at h
    have harriving := h.departs departure (Multiset.mem_cons_self _ _) record hrecord hmonitor
    exact h.drop_departure.erase_record (h.unowned hrecord harriving)
  | departedMissing hdepartures _ => exact (hdepartures ▸ h).drop_departure

/-! ## Holders of a registered mode -/

/-- The mode is registered and the record is not in the table yet, or will not get there. -/
def ArrivalPhase.beforeTable : ArrivalPhase → Bool
  | .registered => true
  | .created _ => true
  | .refused => true
  | _ => false

/-- The arrival holds a registration of the EDID, and its record is not in the table. -/
def Arrival.HoldsBefore (edid : EdidBytes) (arrival : Arrival) : Prop :=
  arrival.phase.beforeTable = true ∧ arrival.descriptor.edid = edid

instance (edid : EdidBytes) : DecidablePred (Arrival.HoldsBefore edid) :=
  fun _ ↦ inferInstanceAs (Decidable (_ ∧ _))

namespace MonitorsState

/-- The monitors of an EDID that are in the table. -/
def inTable (s : MonitorsState) (edid : EdidBytes) : Nat :=
  OrdMap.countValues s.monitors fun record ↦ record.descriptor.edid == edid

/-- The monitors of an EDID between registration and the table. -/
def beforeTable (s : MonitorsState) (edid : EdidBytes) : Nat :=
  s.arrivals.countP (Arrival.HoldsBefore edid)

/-- The monitors of an EDID that are out of the table and still registered. -/
def afterTable (s : MonitorsState) (edid : EdidBytes) : Nat :=
  s.leaving.countP fun descriptor ↦ descriptor.edid = edid

/-- The monitors that hold a registration of the EDID. -/
def holders (s : MonitorsState) (edid : EdidBytes) : Nat :=
  s.inTable edid + s.beforeTable edid + s.afterTable edid

/-- No EDID has more holders than its counter can count. -/
def Fits (s : MonitorsState) : Prop := ∀ edid, s.holders edid < 2 ^ 32

end MonitorsState

section Holders

variable {monitors : OrdMap UInt64 MonitorRecord} {arrival : Arrival} {displayId : UInt64}
  {record : MonitorRecord}

theorem holdsBefore_cons (h : arrival.phase.beforeTable = true) (rest : Multiset Arrival)
    (edid : EdidBytes) :
    (arrival ::ₘ rest).countP (Arrival.HoldsBefore edid) =
      rest.countP (Arrival.HoldsBefore edid) +
        if arrival.descriptor.edid = edid then 1 else 0 := by
  rw [Multiset.countP_cons]
  by_cases hedid : arrival.descriptor.edid = edid
  · rw [if_pos hedid, if_pos ⟨h, hedid⟩]
  · rw [if_neg hedid, if_neg fun hholds ↦ hedid hholds.2]

theorem holdsBefore_cons_not (h : arrival.phase.beforeTable = false) (rest : Multiset Arrival)
    (edid : EdidBytes) :
    (arrival ::ₘ rest).countP (Arrival.HoldsBefore edid) =
      rest.countP (Arrival.HoldsBefore edid) := by
  rw [Multiset.countP_cons_of_neg]
  rintro ⟨hbefore, -⟩
  rw [h] at hbefore
  exact nomatch hbefore

theorem ite_beq_edid (record : MonitorRecord) (edid : EdidBytes) :
    (if (record.descriptor.edid == edid) = true then 1 else 0) =
      if record.descriptor.edid = edid then 1 else 0 := by
  by_cases hedid : record.descriptor.edid = edid
  · rw [if_pos hedid, if_pos (beq_iff_eq.mpr hedid)]
  · rw [if_neg hedid, if_neg (beq_iff_eq.not.mpr hedid)]

/-- A new record is one more of its EDID in the table. -/
theorem inTable_insert (habsent : monitors[displayId]? = none) (record : MonitorRecord)
    (edid : EdidBytes) :
    OrdMap.countValues (monitors.insert displayId record)
        (fun record ↦ record.descriptor.edid == edid) =
      OrdMap.countValues monitors (fun record ↦ record.descriptor.edid == edid) +
        if record.descriptor.edid = edid then 1 else 0 := by
  rw [OrdMap.countValues_insert habsent, ite_beq_edid]

theorem inTable_erase (hrecord : monitors[displayId]? = some record) (edid : EdidBytes) :
    OrdMap.countValues monitors (fun record ↦ record.descriptor.edid == edid) =
      OrdMap.countValues (monitors.erase displayId)
          (fun record ↦ record.descriptor.edid == edid) +
        if record.descriptor.edid = edid then 1 else 0 := by
  rw [OrdMap.countValues_erase hrecord, ite_beq_edid]

/-- Marking a record changes no count. -/
theorem inTable_replace (hrecord : monitors[displayId]? = some record) (record' : MonitorRecord)
    (hsame : record'.descriptor = record.descriptor) (edid : EdidBytes) :
    OrdMap.countValues (monitors.insert displayId record')
        (fun record ↦ record.descriptor.edid == edid) =
      OrdMap.countValues monitors (fun record ↦ record.descriptor.edid == edid) := by
  have hcount := OrdMap.countValues_replace hrecord record'
    fun record ↦ record.descriptor.edid == edid
  rw [hsame] at hcount
  omega

end Holders

/-! ## The balance -/

section Registration

variable {modes : RegisteredModeStore} {descriptor : MonitorDescriptor}

/-- A registration that is refused changes nothing. -/
theorem registerDescription_refused
    (h : (registerMonitorDescriptionMode modes descriptor).2 = false) :
    (registerMonitorDescriptionMode modes descriptor).1 = modes := by
  rw [registerMonitorDescriptionMode] at h ⊢
  split_ifs at h ⊢
  · rfl
  · exact registerMode_refused h

theorem registerDescription_accepted (hcounted : Counted modes)
    (h : (registerMonitorDescriptionMode modes descriptor).2 = true)
    (hroom : references modes descriptor.edid + 1 < 2 ^ 32) :
    Counted (registerMonitorDescriptionMode modes descriptor).1 ∧
      ∀ edid, references (registerMonitorDescriptionMode modes descriptor).1 edid =
        references modes edid + if descriptor.edid = edid then 1 else 0 := by
  rw [registerMonitorDescriptionMode] at h ⊢
  split_ifs at h ⊢
  obtain ⟨hcounted', hcount⟩ := registerMode_accepted hcounted h hroom
  refine ⟨hcounted', fun edid ↦ ?_⟩
  by_cases hedid : descriptor.edid = edid
  · rw [if_pos hedid, ← hedid, hcount]
  · rw [if_neg hedid, references, registerMode_other modes hedid, references, Nat.add_zero]

theorem unregisterDescription_counts (hcounted : Counted modes)
    (descriptor : MonitorDescriptor) :
    Counted (unregisterMonitorDescriptionMode modes descriptor) ∧
      ∀ edid, references (unregisterMonitorDescriptionMode modes descriptor) edid =
        references modes edid - if descriptor.edid = edid then 1 else 0 := by
  rw [unregisterMonitorDescriptionMode]
  obtain ⟨hcounted', hcount⟩ := unregisterMode_counts hcounted descriptor.edid
  refine ⟨hcounted', fun edid ↦ ?_⟩
  by_cases hedid : descriptor.edid = edid
  · rw [if_pos hedid, ← hedid, hcount]
  · rw [if_neg hedid, references, unregisterMode_other modes hedid, references, Nat.sub_zero]

end Registration

/-- What holds in every reachable state. -/
structure Settled (s : MonitorsState) : Prop where
  tracked : Tracked s.monitors s.arrivals s.departures
  counted : Counted s.modes
  balance : ∀ edid, references s.modes edid = s.holders edid

theorem Settled.start : Settled {} where
  tracked := Tracked.start
  counted := Counted.empty
  balance _ := by
    rw [references_of_none rfl, MonitorsState.holders, MonitorsState.inTable,
      MonitorsState.beforeTable, MonitorsState.afterTable, OrdMap.countValues_empty,
      Multiset.countP_zero, Multiset.countP_zero]

/-- An arrival that ends before its mode is registered, or moves on without the table. -/
theorem Settled.balance_arrivals {s : MonitorsState} (h : Settled s) {arrivals : Multiset Arrival}
    (hsame : ∀ edid, arrivals.countP (Arrival.HoldsBefore edid) =
      s.arrivals.countP (Arrival.HoldsBefore edid)) (edid : EdidBytes) :
    references s.modes edid = { s with arrivals }.holders edid := by
  have hbalance := h.balance edid
  simp only [MonitorsState.holders, MonitorsState.inTable, MonitorsState.beforeTable,
    MonitorsState.afterTable] at hbalance ⊢
  rw [hsame edid]
  exact hbalance

/-- **A step keeps the balance.**  A thread that registers becomes a holder; a holder moves between
the three places; a thread that unregisters was one. -/
theorem Settled.step {s s' : MonitorsState} (h : Settled s) (hstep : MonitorStep s s')
    (hfits : s'.Fits) : Settled s' := by
  have htracked := h.tracked.step hstep
  suffices hbalance : Counted s'.modes ∧ ∀ edid, references s'.modes edid = s'.holders edid from
    ⟨htracked, hbalance.1, hbalance.2⟩
  have hholders (s : MonitorsState) (edid : EdidBytes) : s.holders edid =
      OrdMap.countValues s.monitors (fun record ↦ record.descriptor.edid == edid) +
        s.arrivals.countP (Arrival.HoldsBefore edid) +
          s.leaving.countP fun descriptor ↦ descriptor.edid = edid := rfl
  cases hstep with
  | arrive descriptor permanent _ =>
    exact ⟨h.counted, h.balance_arrivals fun edid ↦ holdsBefore_cons_not rfl _ edid⟩
  | @register rest descriptor permanent harrivals haccepted =>
    have hbefore (edid : EdidBytes) : references s.modes edid =
        OrdMap.countValues s.monitors (fun record ↦ record.descriptor.edid == edid) +
          rest.countP (Arrival.HoldsBefore edid) +
            s.leaving.countP fun descriptor ↦ descriptor.edid = edid := by
      rw [h.balance, hholders, harrivals, holdsBefore_cons_not rfl]
    have hroom := hfits descriptor.edid
    rw [hholders, holdsBefore_cons rfl, if_pos rfl] at hroom
    obtain ⟨hcounted, hcount⟩ := registerDescription_accepted h.counted haccepted (by
      rw [hbefore]
      dsimp only at hroom
      omega)
    refine ⟨hcounted, fun edid ↦ ?_⟩
    rw [hcount, hbefore, hholders, holdsBefore_cons rfl]
    dsimp only
    omega
  | registerRefused harrivals hrefused =>
    dsimp only
    rw [registerDescription_refused hrefused]
    exact ⟨h.counted, h.balance_arrivals fun edid ↦ by
      rw [harrivals, holdsBefore_cons_not rfl]⟩
  | registerThrows harrivals =>
    exact ⟨h.counted, h.balance_arrivals fun edid ↦ by
      rw [harrivals, holdsBefore_cons_not rfl]⟩
  | create monitor harrivals _ =>
    exact ⟨h.counted, h.balance_arrivals fun edid ↦ by
      rw [harrivals, holdsBefore_cons rfl, holdsBefore_cons rfl]⟩
  | createFailed harrivals =>
    exact ⟨h.counted, h.balance_arrivals fun edid ↦ by
      rw [harrivals, holdsBefore_cons rfl, holdsBefore_cons rfl]⟩
  | insert harrivals habsent =>
    refine ⟨h.counted, fun edid ↦ ?_⟩
    have hbefore := h.balance edid
    rw [hholders, harrivals, holdsBefore_cons rfl] at hbefore
    rw [hholders, inTable_insert habsent, holdsBefore_cons_not rfl, hbefore]
    dsimp only
    omega
  | insertFailed harrivals =>
    exact ⟨h.counted, h.balance_arrivals fun edid ↦ by
      rw [harrivals, holdsBefore_cons rfl, holdsBefore_cons rfl]⟩
  | announce harrivals =>
    exact ⟨h.counted, h.balance_arrivals fun edid ↦ by
      rw [harrivals, holdsBefore_cons_not rfl, holdsBefore_cons_not rfl]⟩
  | @announceFailed rest descriptor permanent monitor harrivals =>
    -- the record that goes is the thread's own
    have hown := h.tracked.owned
    rw [harrivals] at hown
    obtain ⟨record, hrecord, -, hdescriptor, -⟩ := hown _ (Multiset.mem_cons_self _ _) monitor rfl
    refine ⟨h.counted, fun edid ↦ ?_⟩
    have hbefore := h.balance edid
    rw [hholders, harrivals, holdsBefore_cons_not rfl, inTable_erase hrecord,
      hdescriptor] at hbefore
    rw [hholders, Multiset.countP_cons, hbefore]
    dsimp only
    omega
  | @settle rest descriptor permanent monitor record harrivals hrecord _ =>
    refine ⟨h.counted, fun edid ↦ ?_⟩
    have hbefore := h.balance edid
    rw [hholders, harrivals, holdsBefore_cons_not rfl] at hbefore
    rw [hholders, inTable_replace hrecord { record with arriving := false } rfl, hbefore]
  | @settleMissing rest descriptor permanent monitor harrivals hmissing =>
    -- the record of an owner is never missing
    have hown := h.tracked.owned
    rw [harrivals] at hown
    obtain ⟨record, hrecord, hmonitor, -⟩ := hown _ (Multiset.mem_cons_self _ _) monitor rfl
    exact absurd hmonitor (hmissing record hrecord)
  | @unregisterRefused rest descriptor permanent harrivals =>
    obtain ⟨hcounted, hcount⟩ := unregisterDescription_counts h.counted descriptor
    refine ⟨hcounted, fun edid ↦ ?_⟩
    have hbefore := h.balance edid
    rw [hholders, harrivals, holdsBefore_cons rfl] at hbefore
    rw [hcount, hbefore, hholders]
    dsimp only
    omega
  | @unregisterLeaving rest descriptor hleaving =>
    obtain ⟨hcounted, hcount⟩ := unregisterDescription_counts h.counted descriptor
    refine ⟨hcounted, fun edid ↦ ?_⟩
    have hbefore := h.balance edid
    rw [hholders, hleaving, Multiset.countP_cons] at hbefore
    rw [hcount, hbefore, hholders]
    dsimp only
    omega
  | @depart record displayId expectedGeneration hrecord _ _ _ =>
    refine ⟨h.counted, fun edid ↦ ?_⟩
    rw [hholders, inTable_replace hrecord { record with departing := true } rfl, ← hholders s]
    exact h.balance edid
  | @departFailed rest departure hdepartures =>
    refine ⟨h.counted, fun edid ↦ ?_⟩
    have hsame : OrdMap.countValues (s.undepart departure)
        (fun record ↦ record.descriptor.edid == edid) =
          OrdMap.countValues s.monitors fun record ↦ record.descriptor.edid == edid := by
      rw [MonitorsState.undepart]
      split
      case h_1 record hrecord =>
        split_ifs
        · exact inTable_replace hrecord { record with departing := false } rfl edid
        · rfl
      case h_2 => rfl
    rw [hholders, hsame, ← hholders s]
    exact h.balance edid
  | @departed rest departure record hdepartures hrecord _ =>
    refine ⟨h.counted, fun edid ↦ ?_⟩
    have hbefore := h.balance edid
    rw [hholders, inTable_erase hrecord] at hbefore
    rw [hholders, Multiset.countP_cons, hbefore]
    dsimp only
    omega
  | departedMissing _ _ => exact ⟨h.counted, h.balance⟩

/-- The runs of the threads in which the counters suffice. -/
inductive MonitorRun : MonitorsState → Prop
  | start : MonitorRun {}
  | step {s s' : MonitorsState} : MonitorRun s → MonitorStep s s' → s'.Fits → MonitorRun s'

theorem MonitorRun.settled {s : MonitorsState} (h : MonitorRun s) : Settled s := by
  induction h with
  | start => exact Settled.start
  | step _ hstep hfits ih => exact ih.step hstep hfits

/-- **The registered modes are balanced.**  After any calls that no counter is too small for, an
EDID has an entry exactly when more of its registrations were accepted than taken back; a further
call leaves the other EDIDs alone and changes no mode of a live one, and a refused registration
changes nothing.  In every run of the threads the counter of an EDID is the number of its monitors
in the table, between registration and the table, and between the table and unregistration. -/
theorem registeredModes_balanced :
    (∀ calls : List ModeCall, Run.Every ModeLog.step ModeLog.Fits {} calls →
      (∀ edid, ((calls.foldl ModeLog.step {}).entries edid).isSome ↔
        (calls.foldl ModeLog.step {}).unregistrations edid <
          (calls.foldl ModeLog.step {}).registrations edid) ∧
      (∀ (call : ModeCall) (edid : EdidBytes), call.edid ≠ edid →
        ((calls.foldl ModeLog.step {}).step call).entries edid =
          (calls.foldl ModeLog.step {}).entries edid) ∧
      (∀ (call : ModeCall) (edid : EdidBytes) (entry entry' : RegisteredMode),
        (calls.foldl ModeLog.step {}).entries edid = some entry →
          ((calls.foldl ModeLog.step {}).step call).entries edid = some entry' →
            entry'.mode = entry.mode) ∧
      ∀ (edid : EdidBytes) (mode : WindowsDriverModeShape) (requestedResolutionOnly : Bool),
        (registerMode (calls.foldl ModeLog.step {}).entries edid mode
            requestedResolutionOnly).2 = false →
          (registerMode (calls.foldl ModeLog.step {}).entries edid mode
            requestedResolutionOnly).1 = (calls.foldl ModeLog.step {}).entries) ∧
    ∀ s : MonitorsState, MonitorRun s → ∀ edid,
      references s.modes edid = s.inTable edid + s.beforeTable edid + s.afterTable edid := by
  refine ⟨fun calls hfits ↦ ?_, fun s hs edid ↦ hs.settled.balance edid⟩
  have hbalanced := ModeLog.Balanced.start.run hfits
  refine ⟨fun edid ↦ ?_, fun call edid hne ↦ (ModeLog.step_other _ hne).1,
    fun call edid entry entry' hentry hentry' ↦ hbalanced.keeps call hentry hentry',
    fun edid mode requestedResolutionOnly hrefused ↦ registerMode_refused hrefused⟩
  rw [hbalanced.counted.isSome_iff, hbalanced.references]
  omega

theorem holders_le (s : MonitorsState) (edid : EdidBytes) :
    s.holders edid ≤ (OrdMap.valueList s.monitors).length + s.arrivals.card + s.leaving.card := by
  have htable : s.inTable edid ≤ (OrdMap.valueList s.monitors).length := List.countP_le_length
  have hbefore : s.beforeTable edid ≤ s.arrivals.card := Multiset.countP_le_card ..
  have hafter : s.afterTable edid ≤ s.leaving.card := Multiset.countP_le_card ..
  rw [MonitorsState.holders]
  omega

theorem fits_of_small {s : MonitorsState}
    (h : (OrdMap.valueList s.monitors).length + s.arrivals.card + s.leaving.card < 2 ^ 32) :
    s.Fits := fun edid ↦ (holders_le s edid).trans_lt h

/-- The first monitor object is unused when the first arrival asks for it. -/
theorem unused_first : MonitorsState.Unused {
    modes := (registerMonitorDescriptionMode (fun _ ↦ none) {}).1
    arrivals := ⟨{}, false, .registered⟩ ::ₘ 0 } 0 := by
  refine ⟨fun displayId record hrecord ↦ ?_, fun arrival harrival hcreated ↦ ?_,
    fun departure hdeparture ↦ absurd hdeparture (Multiset.notMem_zero _)⟩
  · exact nomatch (show (none : Option MonitorRecord) = some record from hrecord)
  · obtain rfl : arrival = ⟨{}, false, .registered⟩ := Multiset.mem_singleton.mp harrival
    exact nomatch hcreated

/-- Two registrations of an EDID, one of which is taken back. -/
def exampleModeCalls : List ModeCall :=
  [.register (Vector.replicate _ 0) {} false, .register (Vector.replicate _ 0) {} false,
    .unregister (Vector.replicate _ 0)]

/-- The EDID is registered still; and a monitor that has been announced is counted. -/
theorem registeredModes_balanced_announced :
    ((exampleModeCalls.foldl ModeLog.step {}).entries (Vector.replicate _ 0)).isSome ∧
    ∃ s : MonitorsState, s.monitors.contains 0 = true ∧
      s.arrivals = {⟨{}, false, .arrived 0⟩} ∧ ∀ edid,
        references s.modes edid = s.inTable edid + s.beforeTable edid + s.afterTable edid := by
  have hmodes := registeredModes_balanced.1 exampleModeCalls (ModeLog.every_fits (by decide))
  refine ⟨(hmodes.1 _).mpr (by decide +kernel), ?_⟩
  have habsent : (∅ : OrdMap UInt64 MonitorRecord)[(0 : UInt64)]? = none := rfl
  have hannounced := MonitorRun.start
    |>.step (.arrive {} {} false habsent) (fits_of_small (by decide))
    |>.step (@MonitorStep.register _ 0 {} false rfl rfl) (fits_of_small (by decide))
    |>.step (@MonitorStep.create _ 0 {} false 0 rfl unused_first) (fits_of_small (by decide))
    |>.step (@MonitorStep.insert _ 0 {} false 0 rfl habsent) (fits_of_small (by decide))
    |>.step (@MonitorStep.announce _ 0 {} false 0 rfl) (fits_of_small (by decide))
  exact ⟨_, by decide, rfl, registeredModes_balanced.2 _ hannounced⟩

/-- A monitor whose announcement IddCx refused, right after its record left the table. -/
theorem unregistering_exists :
    ∃ (s : MonitorsState) (edid : EdidBytes), Relation.ReflTransGen MonitorStep {} s ∧
      references s.modes edid ≠ s.inTable edid + s.beforeTable edid := by
  have haccepted : (registerMonitorDescriptionMode (fun _ ↦ none) {}).2 = true := rfl
  have habsent : (∅ : OrdMap UInt64 MonitorRecord)[(0 : UInt64)]? = none := rfl
  have hrun : Relation.ReflTransGen MonitorStep {} {
      monitors := ((∅ : OrdMap UInt64 MonitorRecord).insert 0 ⟨{}, 0, false, true, false⟩).erase 0
      modes := (registerMonitorDescriptionMode (fun _ ↦ none) {}).1
      leaving := {} ::ₘ 0 } :=
    ((((Relation.ReflTransGen.single (MonitorStep.arrive {} {} false habsent)).tail
      (@MonitorStep.register _ 0 {} false rfl haccepted)).tail
        (@MonitorStep.create _ 0 {} false 0 rfl unused_first)).tail
          (@MonitorStep.insert _ 0 {} false 0 rfl habsent)).tail
            (@MonitorStep.announceFailed _ 0 {} false 0 rfl)
  have hempty (p : MonitorRecord → Bool) : OrdMap.countValues
      (((∅ : OrdMap UInt64 MonitorRecord).insert 0 ⟨{}, 0, false, true, false⟩).erase 0) p = 0 := by
    have hinsert := OrdMap.countValues_insert habsent ⟨{}, 0, false, true, false⟩ p
    have herase := OrdMap.countValues_erase (m := (∅ : OrdMap UInt64 MonitorRecord).insert 0
      ⟨{}, 0, false, true, false⟩) (a := 0) (by rw [OrdMap.getElem?_insert, if_pos rfl]) p
    rw [OrdMap.countValues_empty] at hinsert
    omega
  refine ⟨_, ({} : MonitorDescriptor).edid, hrun, ?_⟩
  obtain ⟨-, hcount⟩ := registerDescription_accepted Counted.empty haccepted (by decide)
  rw [hcount, if_pos rfl, MonitorsState.inTable, MonitorsState.beforeTable, hempty,
    Multiset.countP_zero]
  exact Nat.succ_ne_zero _

/-- A thread that has taken its record out of the table and not unregistered its mode yet; and a
counter that has wrapped, so that another mode takes the place of a live one. -/
theorem registeredModes_windows :
    (∃ (calls : List ModeCall) (call : ModeCall) (edid : EdidBytes)
        (entry entry' : RegisteredMode),
      (calls.foldl ModeLog.step {}).entries edid = some entry ∧
        ((calls.foldl ModeLog.step {}).step call).entries edid = some entry' ∧
          entry'.mode ≠ entry.mode) ∧
    ∃ (s : MonitorsState) (edid : EdidBytes), Relation.ReflTransGen MonitorStep {} s ∧
      references s.modes edid ≠ s.inTable edid + s.beforeTable edid := by
  refine ⟨?_, unregistering_exists⟩
  obtain ⟨count, hcount⟩ : ∃ count, count + 1 = 2 ^ 32 := ⟨4294967295, rfl⟩
  obtain ⟨mode, hmode⟩ : ∃ mode : WindowsDriverModeShape, mode = { width := 1280 } := ⟨_, rfl⟩
  have hvalid : ¬(mode.width = 0 ∨ mode.height = 0 ∨ mode.refreshRateMillihz = 0) := by
    rw [hmode]
    decide
  have hwrapped : UInt32.ofNat (count + 1) = 0 := by
    rw [hcount]
    rfl
  have hfull := ModeLog.replicate_register (Vector.replicate _ 0) hvalid false count
  rw [hwrapped] at hfull
  obtain ⟨log, hlog⟩ : ∃ log, log = (List.replicate (count + 1)
      (ModeCall.register (Vector.replicate _ 0) mode false)).foldl ModeLog.step {} := ⟨_, rfl⟩
  rw [← hlog] at hfull
  have hfree : ((log.entries (Vector.replicate _ 0)).getD {}).references = 0 := by
    rw [hfull]
    rfl
  have hreplaced : (registerMode log.entries (Vector.replicate _ 0) {} false).1
      (Vector.replicate _ 0) = _ := registerMode_of_free (by decide) (.inl hfree)
  refine ⟨List.replicate (count + 1) (.register (Vector.replicate _ 0) mode false),
    .register (Vector.replicate _ 0) {} false, Vector.replicate _ 0, _, _, hlog ▸ hfull,
    hlog ▸ hreplaced, ?_⟩
  show (⟨{}, false⟩ : WindowsDriverMonitorMode) ≠ ⟨mode, false⟩
  rw [hmode]
  decide

end VirtualDisplay
