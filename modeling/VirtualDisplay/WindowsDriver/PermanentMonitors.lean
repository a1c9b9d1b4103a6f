import VirtualDisplay.Controller.Basic
import VirtualDisplay.Edid.RoundTrip
import VirtualDisplay.WindowsDriver.Monitors
import VirtualDisplay.WindowsDriver.State

/-!
# Permanent monitors

A display manifest replaces the permanent monitors: the backend takes down those that are up, one
by one, and brings up one for each profile; where a call fails it takes the new ones down again and
brings the old ones back (`IddCxBackend::apply_display_manifest` in `driver_main.cpp`).

A monitor arrives or departs as a whole here, and which of the individual calls fail is given
beforehand, with one answer for each call that one manifest can lead to (`ManifestOutcomes`).  A
call on a display that is resident, or on none, is answered by the table alone.

* `Shows.arriveDisplay` and `Shows.departDisplay` — an individual call is a run of its threads.
* `SameTemporary` — no call of a manifest touches a temporary monitor.
* `Emptied` — the table while permanent monitors are missing from it.
* `Extended` — the table with the monitors of some profiles added to it.
* `applyDisplayManifest_atomic` — all or nothing.
-/

set_option autoImplicit false

namespace VirtualDisplay

/-! ## Descriptors -/

/-- What the backend finds out about the system when it starts: whether Windows can switch a
virtual display to HDR, and the luminance code of an EDID. -/
structure BackendRuntime where
  hdrSupported : Bool
  hdrMaxLuminanceCtaValue : UInt32 → UInt8

section

variable (runtime : BackendRuntime)

/-- The monitor that a profile asks for, in the profile's native mode. -/
def makePermanentDescriptor (profile : DisplayManifestProfile) : MonitorDescriptor :=
  let mode := (profile.allowedModes[profile.nativeModeIndex.toNat]?).getD {}
  let options : EdidOptions :=
    { manufacturerId :=
        #v[profile.manufacturerId[0], profile.manufacturerId[1], profile.manufacturerId[2]]
      productCode :=
        if 0xffff < profile.productCode then 0xffff else profile.productCode.toUInt16
      serialNumber := profile.serialNumber
      width := mode.width
      height := mode.height
      physicalWidthMm := profile.physicalWidthMm
      physicalHeightMm := profile.physicalHeightMm
      refreshRateMillihz := mode.refreshRateMillihz
      monitorName := trimDisplayName profile.displayName
      hdrSupported := profile.flags &&& kDisplayManifestProfileFlagHdrSupported != 0 &&
        runtime.hdrSupported }
  { displayId := profile.displayId
    containerId := profile.containerId
    connectorIndex := profile.connectorIndex
    width := options.width
    height := options.height
    physicalWidthMm := options.physicalWidthMm
    physicalHeightMm := options.physicalHeightMm
    refreshRateMillihz := options.refreshRateMillihz
    edid := createEdid runtime.hdrMaxLuminanceCtaValue options }

/-- Without HDR in the system an EDID that announces it is written anew. -/
def descriptorWithRuntimeHdrPolicy (descriptor : MonitorDescriptor) : MonitorDescriptor :=
  if runtime.hdrSupported || !hasHdrStaticMetadata descriptor.edid then descriptor
  else
    let options : EdidOptions :=
      { manufacturerId :=
          (readManufacturerId descriptor.edid).getD kSunshineDriverManufacturerId
        productCode := readProductCode descriptor.edid
        serialNumber := readSerialNumber descriptor.edid
        width := descriptor.width
        height := descriptor.height
        physicalWidthMm := descriptor.physicalWidthMm
        physicalHeightMm := descriptor.physicalHeightMm
        refreshRateMillihz := descriptor.refreshRateMillihz
        monitorName :=
          (readMonitorName descriptor.edid).getD "Sunshine Display".toUTF8.toList
        hdrSupported := false }
    { descriptor with edid := createEdid runtime.hdrMaxLuminanceCtaValue options }

theorem displayId_policy (descriptor : MonitorDescriptor) :
    (descriptorWithRuntimeHdrPolicy runtime descriptor).displayId = descriptor.displayId := by
  rw [descriptorWithRuntimeHdrPolicy]
  split_ifs <;> rfl

/-- A descriptor that the policy has seen is not written again. -/
theorem policy_policy (descriptor : MonitorDescriptor) :
    descriptorWithRuntimeHdrPolicy runtime (descriptorWithRuntimeHdrPolicy runtime descriptor) =
      descriptorWithRuntimeHdrPolicy runtime descriptor := by
  by_cases hkept : (runtime.hdrSupported || !hasHdrStaticMetadata descriptor.edid) = true
  · have hsame : descriptorWithRuntimeHdrPolicy runtime descriptor = descriptor := by
      rw [descriptorWithRuntimeHdrPolicy, if_pos hkept]
    rw [hsame, hsame]
  · rw [descriptorWithRuntimeHdrPolicy.eq_def runtime descriptor, if_neg hkept,
      descriptorWithRuntimeHdrPolicy]
    dsimp only
    rw [hasHdrStaticMetadata_createEdid]
    exact if_pos (Bool.or_true _)

theorem policy_makePermanentDescriptor (profile : DisplayManifestProfile) :
    descriptorWithRuntimeHdrPolicy runtime (makePermanentDescriptor runtime profile) =
      makePermanentDescriptor runtime profile := by
  rw [descriptorWithRuntimeHdrPolicy]
  refine if_pos ?_
  rw [makePermanentDescriptor]
  dsimp only
  rw [hasHdrStaticMetadata_createEdid]
  cases runtime.hdrSupported <;> simp

/-! ## The table -/

/-- A monitor that is up. -/
structure ResidentMonitor where
  descriptor : MonitorDescriptor
  permanent : Bool

/-- The monitors that are up, each under its display and as the policy left it. -/
structure MonitorTable where
  monitors : OrdMap UInt64 ResidentMonitor
  resident : ∀ (displayId : UInt64) (monitor : ResidentMonitor),
    monitors[displayId]? = some monitor →
      monitor.descriptor.displayId = displayId ∧
        descriptorWithRuntimeHdrPolicy runtime monitor.descriptor = monitor.descriptor

/-- Which of the individual calls that a manifest leads to succeed, where there is anything for
them to do. -/
structure ManifestOutcomes where
  departs : UInt64 → Bool
  arrives : Nat → Bool
  departsAdded : UInt64 → Bool
  restores : UInt64 → Bool

end

namespace MonitorTable

variable {runtime : BackendRuntime}

/-- The departure of whatever monitor the display has. -/
def departDisplay (table : MonitorTable runtime) (displayId : UInt64) (succeeds : Bool) :
    MonitorTable runtime × BackendError :=
  match table.monitors[displayId]? with
  | none => (table, .none)
  | some _ =>
    if succeeds then
      ({ monitors := table.monitors.erase displayId
         resident := fun displayId' monitor h ↦ by
          rw [OrdMap.getElem?_erase] at h
          split_ifs at h
          exact table.resident displayId' monitor h }, .none)
    else (table, .failed)

/-- The arrival of a permanent monitor, which no resident monitor makes way for. -/
def arriveDisplay (table : MonitorTable runtime) (requestedDescriptor : MonitorDescriptor)
    (succeeds : Bool) : MonitorTable runtime × BackendError :=
  let descriptor := descriptorWithRuntimeHdrPolicy runtime requestedDescriptor
  match table.monitors[descriptor.displayId]? with
  | some _ => (table, .failed)
  | none =>
    if succeeds then
      ({ monitors := table.monitors.insert descriptor.displayId ⟨descriptor, true⟩
         resident := fun displayId' monitor h ↦ by
          rw [OrdMap.getElem?_insert] at h
          split_ifs at h with hsame
          · obtain rfl := Option.some.inj h
            exact ⟨hsame, policy_policy runtime requestedDescriptor⟩
          · exact table.resident displayId' monitor h }, .none)
    else (table, .failed)

/-- The descriptors of the permanent monitors, in the order of the displays. -/
def activePermanentDescriptors (table : MonitorTable runtime) : List MonitorDescriptor :=
  ((OrdMap.valueList table.monitors).filter (·.permanent)).map (·.descriptor)

/-- The loop that takes the permanent monitors down; it ends at the first failure. -/
def departPermanent (outcomes : ManifestOutcomes) :
    List MonitorDescriptor → MonitorTable runtime → MonitorTable runtime × Bool
  | [], table => (table, true)
  | descriptor :: descriptors, table =>
    match table.departDisplay descriptor.displayId (outcomes.departs descriptor.displayId) with
    | (table, .none) => departPermanent outcomes descriptors table
    | (table, _) => (table, false)

/-- The loop over the profiles, with the displays that were added. -/
def arriveProfiles (outcomes : ManifestOutcomes) :
    List DisplayManifestProfile → Nat → MonitorTable runtime → List UInt64 →
      MonitorTable runtime × List UInt64 × Bool
  | [], _, table, added => (table, added, true)
  | profile :: profiles, index, table, added =>
    let descriptor := makePermanentDescriptor runtime profile
    match table.arriveDisplay descriptor (outcomes.arrives index) with
    | (table, .none) =>
      arriveProfiles outcomes profiles (index + 1) table (added ++ [descriptor.displayId])
    | (table, _) => (table, added, false)

/-- The loop that takes the added monitors down again. -/
def departAdded (outcomes : ManifestOutcomes) (added : List UInt64)
    (table : MonitorTable runtime) : MonitorTable runtime :=
  added.foldl (fun table displayId ↦
    (table.departDisplay displayId (outcomes.departsAdded displayId)).1) table

/-- The loop that brings the old monitors back. -/
def restorePermanent (outcomes : ManifestOutcomes) (descriptors : List MonitorDescriptor)
    (table : MonitorTable runtime) : MonitorTable runtime :=
  descriptors.foldl (fun table descriptor ↦
    (table.arriveDisplay descriptor (outcomes.restores descriptor.displayId)).1) table

/-- A manifest: the permanent monitors go, those of the profiles arrive, and if one of them does
not, all is undone. -/
def applyDisplayManifest (outcomes : ManifestOutcomes) (table : MonitorTable runtime)
    (manifest : DisplayManifest) : MonitorTable runtime × BackendError :=
  if validateDisplayManifest manifest kWindowsDriverMaxPermanentDisplays ≠ .none then
    (table, .failed)
  else
    let descriptors := table.activePermanentDescriptors
    match departPermanent outcomes descriptors table with
    | (table, false) => (restorePermanent outcomes descriptors table, .failed)
    | (table, true) =>
      match arriveProfiles outcomes manifest.activeProfiles 0 table [] with
      | (table, _, true) => (table, .none)
      | (table, added, false) =>
        (restorePermanent outcomes descriptors (departAdded outcomes added table), .failed)

/-! ## The individual calls -/

variable {table table' : MonitorTable runtime} {displayId : UInt64}
  {descriptor : MonitorDescriptor} {succeeds : Bool}

/-- A departure that does not fail leaves the display without a monitor. -/
theorem departDisplay_none (h : (table.departDisplay displayId succeeds).2 = .none)
    (other : UInt64) :
    (table.departDisplay displayId succeeds).1.monitors[other]? =
      if displayId = other then none else table.monitors[other]? := by
  rw [departDisplay] at h ⊢
  cases hmonitor : table.monitors[displayId]? with
  | none =>
    dsimp only
    split_ifs with hsame
    · rw [← hsame, hmonitor]
    · rfl
  | some monitor =>
    rw [hmonitor] at h
    cases succeeds with
    | true => exact OrdMap.getElem?_erase table.monitors displayId other
    | false => exact nomatch h

theorem departDisplay_failed (h : (table.departDisplay displayId succeeds).2 ≠ .none) :
    (table.departDisplay displayId succeeds).1 = table := by
  rw [departDisplay] at h ⊢
  cases hmonitor : table.monitors[displayId]? with
  | none => rfl
  | some monitor =>
    rw [hmonitor] at h
    cases succeeds with
    | true => exact absurd rfl h
    | false => rfl

theorem departDisplay_succeeds (table : MonitorTable runtime) (displayId : UInt64) :
    (table.departDisplay displayId true).2 = .none := by
  rw [departDisplay]
  cases table.monitors[displayId]? <;> rfl

/-- An arrival that does not fail found no monitor of the display. -/
theorem arriveDisplay_none (h : (table.arriveDisplay descriptor succeeds).2 = .none) :
    table.monitors[descriptor.displayId]? = none ∧
      ∀ other, (table.arriveDisplay descriptor succeeds).1.monitors[other]? =
        if descriptor.displayId = other then
          some ⟨descriptorWithRuntimeHdrPolicy runtime descriptor, true⟩
        else table.monitors[other]? := by
  rw [← displayId_policy runtime descriptor]
  rw [arriveDisplay] at h ⊢
  cases hmonitor :
      table.monitors[(descriptorWithRuntimeHdrPolicy runtime descriptor).displayId]? with
  | none =>
    rw [hmonitor] at h
    cases succeeds with
    | true => exact ⟨rfl, fun other ↦ OrdMap.getElem?_insert table.monitors _ other _⟩
    | false => exact nomatch h
  | some monitor =>
    rw [hmonitor] at h
    exact nomatch h

theorem arriveDisplay_failed (h : (table.arriveDisplay descriptor succeeds).2 ≠ .none) :
    (table.arriveDisplay descriptor succeeds).1 = table := by
  rw [arriveDisplay] at h ⊢
  cases hmonitor :
      table.monitors[(descriptorWithRuntimeHdrPolicy runtime descriptor).displayId]? with
  | none =>
    rw [hmonitor] at h
    cases succeeds with
    | true => exact absurd rfl h
    | false => rfl
  | some monitor => rfl

theorem arriveDisplay_succeeds (h : table.monitors[descriptor.displayId]? = none) :
    (table.arriveDisplay descriptor true).2 = .none := by
  rw [← displayId_policy runtime descriptor] at h
  rw [arriveDisplay, h]
  rfl

theorem mem_activePermanentDescriptors :
    descriptor ∈ table.activePermanentDescriptors ↔
      table.monitors[descriptor.displayId]? = some ⟨descriptor, true⟩ := by
  rw [activePermanentDescriptors, List.mem_map]
  constructor
  · rintro ⟨monitor, hmonitor, rfl⟩
    rw [List.mem_filter, OrdMap.mem_valueList] at hmonitor
    obtain ⟨⟨displayId, hlookup⟩, hpermanent⟩ := hmonitor
    have hpermanent' : monitor.permanent = true := hpermanent
    rw [(table.resident displayId monitor hlookup).1, hlookup, ← hpermanent']
  · intro hlookup
    refine ⟨⟨descriptor, true⟩, ?_, rfl⟩
    rw [List.mem_filter, OrdMap.mem_valueList]
    exact ⟨⟨descriptor.displayId, hlookup⟩, rfl⟩

/-! ## Individual calls as runs of their threads -/

/-- The state of the threads shows the table when none of them is under way. -/
structure Shows (s : MonitorsState) (table : MonitorTable runtime) : Prop where
  arrivals : s.arrivals = 0
  departures : s.departures = 0
  leaving : s.leaving = 0
  up : ∀ (displayId : UInt64) (record : MonitorRecord), s.monitors[displayId]? = some record →
    record.arriving = false ∧ record.departing = false
  lookup : ∀ displayId : UInt64, table.monitors[displayId]? =
    (s.monitors[displayId]?).map fun record ↦ ⟨record.descriptor, record.permanent⟩

/-- The threads of an arrival that is not disturbed, where the mode can be registered. -/
theorem Shows.arriveDisplay {s : MonitorsState} (h : Shows s table)
    (habsent : table.monitors[descriptor.displayId]? = none)
    (haccepted : (registerMonitorDescriptionMode s.modes
      (descriptorWithRuntimeHdrPolicy runtime descriptor)).2 = true) :
    ∃ s', Relation.ReflTransGen MonitorStep s s' ∧
      Shows s' (table.arriveDisplay descriptor true).1 := by
  obtain ⟨arriving, harriving⟩ : ∃ arriving, arriving =
      descriptorWithRuntimeHdrPolicy runtime descriptor := ⟨_, rfl⟩
  have hid : arriving.displayId = descriptor.displayId := harriving ▸ displayId_policy _ _
  rw [← harriving] at haccepted
  have hfree : s.monitors[arriving.displayId]? = none := by
    have hlookup := h.lookup arriving.displayId
    rw [hid, habsent] at hlookup
    rw [hid]
    exact Option.map_eq_none_iff.mp hlookup.symm
  -- IddCx has a monitor object that no record uses
  obtain ⟨monitor, -, hmonitor⟩ := OrdMap.exists_unused s.monitors (·.monitor) id
    fun i j hlt _ ↦ Nat.ne_of_lt hlt
  obtain ⟨monitors, modes, arrivals, departures, leaving⟩ := s
  obtain ⟨rfl, rfl, rfl, hup, hlookup⟩ := h
  have hunused : MonitorsState.Unused
      ⟨monitors, (registerMonitorDescriptionMode modes arriving).1,
        ⟨arriving, true, .registered⟩ ::ₘ 0, 0, 0⟩ monitor := by
    refine ⟨hmonitor, fun arrival harrival hcreated ↦ ?_,
      fun departure hdeparture ↦ absurd hdeparture (Multiset.notMem_zero _)⟩
    obtain rfl : arrival = ⟨arriving, true, .registered⟩ := Multiset.mem_singleton.mp harrival
    exact nomatch hcreated
  have hinserted : (monitors.insert arriving.displayId ⟨arriving, monitor, true, true, false⟩)[
      arriving.displayId]? = some ⟨arriving, monitor, true, true, false⟩ := by
    rw [OrdMap.getElem?_insert, if_pos rfl]
  have hrun := ((((((Relation.ReflTransGen.single
    (MonitorStep.arrive ⟨monitors, modes, 0, 0, 0⟩ arriving true hfree)).tail
      (@MonitorStep.register _ 0 arriving true rfl haccepted)).tail
        (@MonitorStep.create _ 0 arriving true monitor rfl hunused)).tail
          (@MonitorStep.insert _ 0 arriving true monitor rfl hfree)).tail
            (@MonitorStep.announce _ 0 arriving true monitor rfl)).tail
              (@MonitorStep.settle _ 0 arriving true monitor _ rfl hinserted rfl))
  refine ⟨_, hrun, rfl, rfl, rfl, fun displayId record hrecord ↦ ?_, fun displayId ↦ ?_⟩
  · dsimp only at hrecord
    rw [OrdMap.getElem?_insert, OrdMap.getElem?_insert] at hrecord
    split_ifs at hrecord
    · rw [← Option.some.inj hrecord]
      exact ⟨rfl, rfl⟩
    · exact hup displayId record hrecord
  · obtain ⟨-, harrived⟩ := arriveDisplay_none (arriveDisplay_succeeds habsent)
    rw [harrived, ← harriving, ← hid]
    dsimp only
    rw [OrdMap.getElem?_insert, OrdMap.getElem?_insert]
    split_ifs
    · rfl
    · exact hlookup displayId

/-- The threads of a departure that is not disturbed. -/
theorem Shows.departDisplay {s : MonitorsState} (h : Shows s table) (displayId : UInt64) :
    ∃ s', Relation.ReflTransGen MonitorStep s s' ∧
      Shows s' (table.departDisplay displayId true).1 := by
  cases hrecord : s.monitors[displayId]? with
  | none =>
    have habsent : table.monitors[displayId]? = none := by
      rw [h.lookup, hrecord]
      rfl
    refine ⟨s, .refl, ?_⟩
    rw [MonitorTable.departDisplay, habsent]
    exact h
  | some record =>
    obtain ⟨harriving, hdeparting⟩ := h.up displayId record hrecord
    obtain ⟨monitors, modes, arrivals, departures, leaving⟩ := s
    obtain ⟨rfl, rfl, rfl, hup, hlookup⟩ := h
    have hmarked : (monitors.insert displayId { record with departing := true })[displayId]? =
        some { record with departing := true } := by
      rw [OrdMap.getElem?_insert, if_pos rfl]
    have hrun := ((Relation.ReflTransGen.single
      (@MonitorStep.depart ⟨monitors, modes, 0, 0, 0⟩ record displayId 0 hrecord
        (fun hstale ↦ hstale.1 rfl) harriving hdeparting)).tail
          (@MonitorStep.departed _ 0 ⟨displayId, record.monitor⟩ _ rfl hmarked rfl)).tail
            (@MonitorStep.unregisterLeaving _ 0 record.descriptor rfl)
    refine ⟨_, hrun, rfl, rfl, rfl, fun other record' hrecord' ↦ ?_, fun other ↦ ?_⟩
    · dsimp only at hrecord'
      rw [OrdMap.getElem?_erase, OrdMap.getElem?_insert] at hrecord'
      split_ifs at hrecord'
      exact hup other record' hrecord'
    · rw [departDisplay_none (departDisplay_succeeds table displayId)]
      dsimp only
      rw [OrdMap.getElem?_erase, OrdMap.getElem?_insert]
      split_ifs
      · rfl
      · exact hlookup other

/-! ## Temporary monitors -/

/-- The tables have the same temporary monitors. -/
def SameTemporary (table table' : MonitorTable runtime) : Prop :=
  ∀ (displayId : UInt64) (monitor : ResidentMonitor), monitor.permanent = false →
    (table'.monitors[displayId]? = some monitor ↔ table.monitors[displayId]? = some monitor)

/-- The display has no temporary monitor. -/
def NoTemporary (table : MonitorTable runtime) (displayId : UInt64) : Prop :=
  ∀ monitor, table.monitors[displayId]? = some monitor → monitor.permanent = true

theorem SameTemporary.departDisplay (h : SameTemporary table table')
    (hnone : NoTemporary table displayId) (succeeds : Bool) :
    SameTemporary table (table'.departDisplay displayId succeeds).1 := by
  by_cases hresult : (table'.departDisplay displayId succeeds).2 = .none
  · intro other monitor htemporary
    rw [departDisplay_none hresult]
    split_ifs with hsame
    · subst hsame
      refine ⟨nofun, fun hmonitor ↦ ?_⟩
      rw [hnone monitor hmonitor] at htemporary
      exact nomatch htemporary
    · exact h other monitor htemporary
  · rwa [departDisplay_failed hresult]

theorem SameTemporary.arriveDisplay (h : SameTemporary table table')
    (descriptor : MonitorDescriptor) (succeeds : Bool) :
    SameTemporary table (table'.arriveDisplay descriptor succeeds).1 := by
  by_cases hresult : (table'.arriveDisplay descriptor succeeds).2 = .none
  · obtain ⟨habsent, hlookup⟩ := arriveDisplay_none hresult
    intro other monitor htemporary
    rw [hlookup]
    split_ifs with hsame
    · subst hsame
      rw [← h _ monitor htemporary, habsent]
      refine ⟨fun hmonitor ↦ ?_, nofun⟩
      rw [← Option.some.inj hmonitor] at htemporary
      exact nomatch htemporary
    · exact h other monitor htemporary
  · rwa [arriveDisplay_failed hresult]

/-- A display that no monitor arrived at has no temporary one. -/
theorem SameTemporary.noTemporary (h : SameTemporary table table')
    (habsent : table'.monitors[displayId]? = none) : NoTemporary table displayId := by
  intro monitor hmonitor
  cases hpermanent : monitor.permanent with
  | true => rfl
  | false =>
    rw [← h displayId monitor hpermanent, habsent] at hmonitor
    exact nomatch hmonitor

theorem noTemporary_of_active (h : descriptor ∈ table.activePermanentDescriptors) :
    NoTemporary table descriptor.displayId := by
  intro monitor hmonitor
  rw [mem_activePermanentDescriptors.mp h] at hmonitor
  rw [← Option.some.inj hmonitor]

theorem SameTemporary.departAdded (h : SameTemporary table table') (outcomes : ManifestOutcomes)
    {added : List UInt64} (hnone : ∀ displayId ∈ added, NoTemporary table displayId) :
    SameTemporary table (departAdded outcomes added table') := by
  induction added generalizing table' with
  | nil => exact h
  | cons displayId added ih =>
    exact ih (h.departDisplay (hnone displayId List.mem_cons_self) _) fun other hother ↦
      hnone other (List.mem_cons_of_mem _ hother)

theorem SameTemporary.restorePermanent (h : SameTemporary table table')
    (outcomes : ManifestOutcomes) (descriptors : List MonitorDescriptor) :
    SameTemporary table (restorePermanent outcomes descriptors table') := by
  induction descriptors generalizing table' with
  | nil => exact h
  | cons descriptor descriptors ih => exact ih (h.arriveDisplay descriptor _)

/-! ## Permanent monitors that are missing -/

/-- The table of before, with permanent monitors missing. -/
def Emptied (table table' : MonitorTable runtime) : Prop :=
  ∀ displayId, table'.monitors[displayId]? = table.monitors[displayId]? ∨
    table'.monitors[displayId]? = none ∧
      ∃ descriptor ∈ table.activePermanentDescriptors, descriptor.displayId = displayId

theorem Emptied.departDisplay (h : Emptied table table')
    (hactive : descriptor ∈ table.activePermanentDescriptors) (succeeds : Bool) :
    Emptied table (table'.departDisplay descriptor.displayId succeeds).1 := by
  by_cases hresult : (table'.departDisplay descriptor.displayId succeeds).2 = .none
  · intro other
    rw [departDisplay_none hresult]
    split_ifs with hsame
    · exact .inr ⟨rfl, descriptor, hactive, hsame⟩
    · exact h other
  · rwa [departDisplay_failed hresult]

/-- **Taking the permanent monitors down.**  Whatever happens, the table has lost permanent
monitors at most; without a failure it has lost all that were named. -/
theorem departPermanent_emptied (outcomes : ManifestOutcomes)
    {descriptors : List MonitorDescriptor} (h : Emptied table table')
    (hactive : ∀ descriptor ∈ descriptors, descriptor ∈ table.activePermanentDescriptors) :
    Emptied table (departPermanent outcomes descriptors table').1 ∧
      ((departPermanent outcomes descriptors table').2 = true → ∀ displayId,
        table'.monitors[displayId]? = none ∨
            (∃ descriptor ∈ descriptors, descriptor.displayId = displayId) →
          (departPermanent outcomes descriptors table').1.monitors[displayId]? = none) := by
  induction descriptors generalizing table' with
  | nil => exact ⟨h, fun _ displayId hgone ↦ hgone.elim id fun ⟨_, hmem, _⟩ ↦ nomatch hmem⟩
  | cons descriptor descriptors ih =>
    have hstep := h.departDisplay (hactive descriptor List.mem_cons_self)
      (outcomes.departs descriptor.displayId)
    rw [departPermanent]
    generalize hdepart : table'.departDisplay descriptor.displayId
      (outcomes.departs descriptor.displayId) = result at hstep ⊢
    obtain ⟨table'', error⟩ := result
    cases error with
    | failed => exact ⟨hstep, nofun⟩
    | busy => exact ⟨hstep, nofun⟩
    | none =>
      obtain ⟨hemptied, hgone⟩ := ih hstep fun other hother ↦
        hactive other (List.mem_cons_of_mem _ hother)
      refine ⟨hemptied, fun hall displayId hnamed ↦ hgone hall displayId ?_⟩
      have hlookup := departDisplay_none (by rw [hdepart]) displayId
      rw [hdepart] at hlookup
      obtain habsent | ⟨named, hmem, rfl⟩ := hnamed
      · left
        rw [hlookup, habsent]
        exact ite_self none
      · obtain rfl | hmem := List.mem_cons.mp hmem
        · left
          rw [hlookup, if_pos rfl]
        · exact .inr ⟨named, hmem, rfl⟩

/-- Bringing one of the old monitors back. -/
theorem Emptied.restore (h : Emptied table table')
    (hactive : descriptor ∈ table.activePermanentDescriptors) (succeeds : Bool) :
    Emptied table (table'.arriveDisplay descriptor succeeds).1 ∧
      ∀ displayId, table'.monitors[displayId]? = table.monitors[displayId]? ∨
          succeeds = true ∧ descriptor.displayId = displayId →
        (table'.arriveDisplay descriptor succeeds).1.monitors[displayId]? =
          table.monitors[displayId]? := by
  have hold := mem_activePermanentDescriptors.mp hactive
  have hpolicy := (table.resident _ _ hold).2
  by_cases hresult : (table'.arriveDisplay descriptor succeeds).2 = .none
  · obtain ⟨habsent, hlookup⟩ := arriveDisplay_none hresult
    rw [show descriptorWithRuntimeHdrPolicy runtime descriptor = descriptor from hpolicy]
      at hlookup
    refine ⟨fun other ↦ ?_, fun other hsame ↦ ?_⟩
    · rw [hlookup]
      split_ifs with hother
      · exact .inl (by rw [← hother, hold])
      · exact h other
    · rw [hlookup]
      split_ifs with hother
      · rw [← hother, hold]
      · exact hsame.elim id fun hsame ↦ absurd hsame.2 hother
  · rw [arriveDisplay_failed hresult]
    refine ⟨h, fun other hsame ↦ ?_⟩
    obtain hsame | ⟨rfl, rfl⟩ := hsame
    · exact hsame
    · -- an arrival that could succeed failed, so the monitor is there
      obtain hthere | ⟨habsent, -⟩ := h descriptor.displayId
      · exact hthere
      · exact absurd (arriveDisplay_succeeds habsent) hresult

/-- **Bringing the old monitors back.**  If the arrivals succeed, the table is the one of
before. -/
theorem Emptied.restorePermanent (h : Emptied table table') (outcomes : ManifestOutcomes)
    {descriptors : List MonitorDescriptor}
    (hactive : ∀ descriptor ∈ descriptors, descriptor ∈ table.activePermanentDescriptors)
    (hrestores : ∀ descriptor ∈ descriptors, outcomes.restores descriptor.displayId = true) :
    ∀ displayId, table'.monitors[displayId]? = table.monitors[displayId]? ∨
        (∃ descriptor ∈ descriptors, descriptor.displayId = displayId) →
      (restorePermanent outcomes descriptors table').monitors[displayId]? =
        table.monitors[displayId]? := by
  induction descriptors generalizing table' with
  | nil => exact fun _ hsame ↦ hsame.elim id fun ⟨_, hmem, _⟩ ↦ nomatch hmem
  | cons descriptor descriptors ih =>
    intro displayId hsame
    obtain ⟨hstep, hback⟩ := h.restore (hactive descriptor List.mem_cons_self)
      (outcomes.restores descriptor.displayId)
    refine ih hstep (fun other hother ↦ hactive other (List.mem_cons_of_mem _ hother))
      (fun other hother ↦ hrestores other (List.mem_cons_of_mem _ hother)) displayId ?_
    obtain hthere | ⟨named, hmem, rfl⟩ := hsame
    · exact .inl (hback displayId (.inl hthere))
    · obtain rfl | hmem := List.mem_cons.mp hmem
      · exact .inl (hback _ (.inr ⟨hrestores named List.mem_cons_self, rfl⟩))
      · exact .inr ⟨named, hmem, rfl⟩

/-! ## Monitors of profiles -/

/-- The table with the permanent monitors of the profiles added to it. -/
structure Extended (table : MonitorTable runtime) (profiles : List DisplayManifestProfile)
    (table' : MonitorTable runtime) : Prop where
  absent : ∀ profile ∈ profiles, table.monitors[profile.displayId]? = none
  present : ∀ profile ∈ profiles, table'.monitors[profile.displayId]? =
    some ⟨makePermanentDescriptor runtime profile, true⟩
  other : ∀ displayId, (∀ profile ∈ profiles, profile.displayId ≠ displayId) →
    table'.monitors[displayId]? = table.monitors[displayId]?

theorem Extended.nil (table : MonitorTable runtime) : Extended table [] table :=
  ⟨nofun, nofun, fun _ _ ↦ rfl⟩

theorem Extended.arriveDisplay {profiles : List DisplayManifestProfile}
    (h : Extended table profiles table') {profile : DisplayManifestProfile}
    (hresult : (table'.arriveDisplay (makePermanentDescriptor runtime profile) succeeds).2 =
      .none) :
    Extended table (profiles ++ [profile])
      (table'.arriveDisplay (makePermanentDescriptor runtime profile) succeeds).1 := by
  obtain ⟨habsent, hlookup⟩ := arriveDisplay_none hresult
  have hid : (makePermanentDescriptor runtime profile).displayId = profile.displayId := rfl
  rw [policy_makePermanentDescriptor, hid] at hlookup
  rw [hid] at habsent
  have hnew : ∀ earlier ∈ profiles, earlier.displayId ≠ profile.displayId := by
    intro earlier hearlier hsame
    have hpresent := h.present earlier hearlier
    rw [hsame, habsent] at hpresent
    exact nomatch hpresent
  refine ⟨fun earlier hearlier ↦ ?_, fun earlier hearlier ↦ ?_, fun displayId hnot ↦ ?_⟩
  · obtain hearlier | hearlier := List.mem_append.mp hearlier
    · exact h.absent earlier hearlier
    · obtain rfl := List.mem_singleton.mp hearlier
      rw [← h.other earlier.displayId hnew]
      exact habsent
  · rw [hlookup]
    obtain hearlier | hearlier := List.mem_append.mp hearlier
    · rw [if_neg (hnew earlier hearlier).symm]
      exact h.present earlier hearlier
    · obtain rfl := List.mem_singleton.mp hearlier
      exact if_pos rfl
  · rw [hlookup, if_neg (hnot profile (List.mem_append_right _ (List.mem_singleton_self _)))]
    exact h.other displayId fun earlier hearlier ↦
      hnot earlier (List.mem_append_left _ hearlier)

/-- **Bringing the monitors of the profiles up.**  The monitors that were added are those of some
of the profiles, in order, and of all of them without a failure. -/
theorem arriveProfiles_extended (outcomes : ManifestOutcomes)
    {before profiles : List DisplayManifestProfile} (h : Extended table before table')
    (index : Nat) :
    ∃ arrived : List DisplayManifestProfile,
      Extended table arrived (arriveProfiles outcomes profiles index table'
          (before.map (·.displayId))).1 ∧
        (arriveProfiles outcomes profiles index table' (before.map (·.displayId))).2.1 =
          arrived.map (·.displayId) ∧
        (∀ profile ∈ arrived, profile ∈ before ++ profiles) ∧
        ((arriveProfiles outcomes profiles index table'
          (before.map (·.displayId))).2.2 = true → arrived = before ++ profiles) := by
  induction profiles generalizing before table' index with
  | nil =>
    exact ⟨before, h, rfl, fun profile hprofile ↦ List.mem_append_left _ hprofile,
      fun _ ↦ (List.append_nil before).symm⟩
  | cons profile profiles ih =>
    rw [arriveProfiles]
    have hstep : (table'.arriveDisplay (makePermanentDescriptor runtime profile)
        (outcomes.arrives index)).2 = .none → Extended table (before ++ [profile])
          (table'.arriveDisplay (makePermanentDescriptor runtime profile)
            (outcomes.arrives index)).1 := h.arriveDisplay
    have hfailed : (table'.arriveDisplay (makePermanentDescriptor runtime profile)
        (outcomes.arrives index)).2 ≠ .none → (table'.arriveDisplay
          (makePermanentDescriptor runtime profile) (outcomes.arrives index)).1 = table' :=
      arriveDisplay_failed
    generalize table'.arriveDisplay (makePermanentDescriptor runtime profile)
      (outcomes.arrives index) = result at hstep hfailed ⊢
    obtain ⟨table'', error⟩ := result
    cases error with
    | failed =>
      obtain rfl := hfailed nofun
      exact ⟨before, h, rfl, fun earlier hearlier ↦ List.mem_append_left _ hearlier, nofun⟩
    | busy =>
      obtain rfl := hfailed nofun
      exact ⟨before, h, rfl, fun earlier hearlier ↦ List.mem_append_left _ hearlier, nofun⟩
    | none =>
      have hrest := ih (hstep rfl) (index + 1)
      rw [List.map_append, List.append_assoc] at hrest
      exact hrest

/-- Taking the added monitors down again. -/
theorem Extended.departAdded {profiles : List DisplayManifestProfile}
    (outcomes : ManifestOutcomes) (h : Extended table profiles table')
    (hdeparts : ∀ profile ∈ profiles, outcomes.departsAdded profile.displayId = true) :
    ∀ displayId : UInt64,
      (MonitorTable.departAdded outcomes (profiles.map (·.displayId)) table').monitors[
        displayId]? = table.monitors[displayId]? := by
  have hloop (added : List UInt64) (hadded : ∀ displayId ∈ added,
      outcomes.departsAdded displayId = true) (start : MonitorTable runtime)
      (displayId : UInt64) :
      (MonitorTable.departAdded outcomes added start).monitors[displayId]? =
        if displayId ∈ added then none else start.monitors[displayId]? := by
    induction added generalizing start with
    | nil => exact (if_neg List.not_mem_nil).symm
    | cons gone added ih =>
      have hgone : (start.departDisplay gone (outcomes.departsAdded gone)).2 = .none := by
        rw [hadded gone List.mem_cons_self]
        exact departDisplay_succeeds start gone
      rw [MonitorTable.departAdded, List.foldl_cons, ← MonitorTable.departAdded,
        ih (fun other hother ↦ hadded other (List.mem_cons_of_mem _ hother)),
        departDisplay_none hgone]
      by_cases hsame : gone = displayId
      · rw [if_pos hsame, hsame, if_pos List.mem_cons_self]
        exact ite_self none
      · have hmem : displayId ∈ gone :: added ↔ displayId ∈ added := by
          rw [List.mem_cons, or_iff_right (Ne.symm hsame)]
        rw [if_neg hsame]
        exact if_congr hmem.symm rfl rfl
  intro displayId
  rw [hloop]
  · split_ifs with hmem
    · obtain ⟨profile, hprofile, rfl⟩ := List.mem_map.mp hmem
      exact (h.absent profile hprofile).symm
    · exact h.other displayId fun profile hprofile hsame ↦
        hmem (List.mem_map.mpr ⟨profile, hprofile, hsame⟩)
  · intro other hother
    obtain ⟨profile, hprofile, rfl⟩ := List.mem_map.mp hother
    exact hdeparts profile hprofile

/-! ## All or nothing -/

theorem SameTemporary.trans {table'' : MonitorTable runtime} (h : SameTemporary table table')
    (h' : SameTemporary table' table'') : SameTemporary table table'' :=
  fun displayId monitor htemporary ↦
    (h' displayId monitor htemporary).trans (h displayId monitor htemporary)

theorem Emptied.sameTemporary (h : Emptied table table') : SameTemporary table table' := by
  intro displayId monitor htemporary
  obtain hsame | ⟨hgone, descriptor, hactive, rfl⟩ := h displayId
  · rw [hsame]
  · rw [hgone, mem_activePermanentDescriptors.mp hactive]
    refine ⟨nofun, fun hmonitor ↦ ?_⟩
    rw [← Option.some.inj hmonitor] at htemporary
    exact nomatch htemporary

theorem Extended.sameTemporary {profiles : List DisplayManifestProfile}
    (h : Extended table profiles table') : SameTemporary table table' := by
  intro displayId monitor htemporary
  by_cases hadded : ∃ profile ∈ profiles, profile.displayId = displayId
  · obtain ⟨profile, hprofile, rfl⟩ := hadded
    rw [h.present profile hprofile, h.absent profile hprofile]
    refine ⟨fun hmonitor ↦ ?_, nofun⟩
    rw [← Option.some.inj hmonitor] at htemporary
    exact nomatch htemporary
  · rw [h.other displayId fun profile hprofile hsame ↦ hadded ⟨profile, hprofile, hsame⟩]

/-- A table that lost permanent monitors at most has them all back if the arrivals succeed. -/
theorem Emptied.restored (h : Emptied table table') {outcomes : ManifestOutcomes}
    (hrestores : ∀ descriptor ∈ table.activePermanentDescriptors,
      outcomes.restores descriptor.displayId = true) (displayId : UInt64) :
    (MonitorTable.restorePermanent outcomes table.activePermanentDescriptors table').monitors[
      displayId]? = table.monitors[displayId]? :=
  h.restorePermanent outcomes (fun _ hactive ↦ hactive) hrestores displayId
    ((h displayId).imp_right And.right)

/-- **A manifest is applied as a whole or not at all.**  If the call returns without an error, the
permanent monitors are those of the profiles; if it fails and every call that undoes a step
succeeds, they are those of before.  Temporary monitors stay as they are. -/
theorem applyDisplayManifest_atomic (outcomes : ManifestOutcomes) (table : MonitorTable runtime)
    (manifest : DisplayManifest) :
    ((applyDisplayManifest outcomes table manifest).2 = .none →
        ∀ (displayId : UInt64) (monitor : ResidentMonitor), monitor.permanent = true →
          ((applyDisplayManifest outcomes table manifest).1.monitors[displayId]? = some monitor ↔
            ∃ profile ∈ manifest.activeProfiles, profile.displayId = displayId ∧
              monitor.descriptor = makePermanentDescriptor runtime profile)) ∧
      ((applyDisplayManifest outcomes table manifest).2 ≠ .none →
        (∀ profile ∈ manifest.activeProfiles,
          outcomes.departsAdded profile.displayId = true) →
        (∀ descriptor ∈ table.activePermanentDescriptors,
          outcomes.restores descriptor.displayId = true) →
        ∀ (displayId : UInt64) (monitor : ResidentMonitor), monitor.permanent = true →
          ((applyDisplayManifest outcomes table manifest).1.monitors[displayId]? = some monitor ↔
            table.monitors[displayId]? = some monitor)) ∧
      ∀ (displayId : UInt64) (monitor : ResidentMonitor), monitor.permanent = false →
        ((applyDisplayManifest outcomes table manifest).1.monitors[displayId]? = some monitor ↔
          table.monitors[displayId]? = some monitor) := by
  rw [applyDisplayManifest]
  split_ifs with hinvalid
  · exact ⟨nofun, fun _ _ _ _ _ _ ↦ Iff.rfl, fun _ _ _ ↦ Iff.rfl⟩
  dsimp only
  obtain ⟨hemptied, hgone⟩ := departPermanent_emptied outcomes
    (show Emptied table table from fun _ ↦ .inl rfl) fun _ hactive ↦ hactive
  generalize departPermanent outcomes table.activePermanentDescriptors table = departed
    at hemptied hgone ⊢
  obtain ⟨emptied, all⟩ := departed
  cases all with
  | false =>
    dsimp only
    refine ⟨nofun, fun _ _ hrestores displayId monitor _ ↦ ?_,
      hemptied.sameTemporary.restorePermanent outcomes _⟩
    rw [hemptied.restored hrestores]
  | true =>
    have hempty := hgone rfl
    obtain ⟨arrived, hextended, hadded, hmem, hall⟩ : ∃ arrived : List DisplayManifestProfile,
        Extended emptied arrived
            (arriveProfiles outcomes manifest.activeProfiles 0 emptied []).1 ∧
          (arriveProfiles outcomes manifest.activeProfiles 0 emptied []).2.1 =
            arrived.map (·.displayId) ∧
          (∀ profile ∈ arrived, profile ∈ manifest.activeProfiles) ∧
          ((arriveProfiles outcomes manifest.activeProfiles 0 emptied []).2.2 = true →
            arrived = manifest.activeProfiles) :=
      arriveProfiles_extended outcomes (Extended.nil emptied) 0
    dsimp only
    generalize arriveProfiles outcomes manifest.activeProfiles 0 emptied [] = result
      at hextended hadded hall ⊢
    obtain ⟨extended, added, complete⟩ := result
    dsimp only at hextended hadded hall ⊢
    have htemporary := hemptied.sameTemporary.trans hextended.sameTemporary
    cases complete with
    | true =>
      have hcomplete := hall rfl
      subst hcomplete
      refine ⟨fun _ displayId monitor hpermanent ↦ ⟨fun hmonitor ↦ ?_, ?_⟩,
        fun herror ↦ absurd rfl herror, htemporary⟩
      · by_cases hprofile : ∃ profile ∈ manifest.activeProfiles, profile.displayId = displayId
        · obtain ⟨profile, hprofile, rfl⟩ := hprofile
          rw [hextended.present profile hprofile] at hmonitor
          exact ⟨profile, hprofile, rfl, by rw [← Option.some.inj hmonitor]⟩
        · -- no permanent monitor of before is left
          rw [hextended.other displayId fun profile hmem hsame ↦ hprofile ⟨profile, hmem, hsame⟩]
            at hmonitor
          obtain hsame | ⟨hnone, -⟩ := hemptied displayId
          · obtain ⟨descriptor, permanent⟩ := monitor
            obtain rfl : permanent = true := hpermanent
            have hthere := hsame ▸ hmonitor
            have hid := (table.resident displayId _ hthere).1
            subst hid
            rw [hempty _ (.inr ⟨descriptor, mem_activePermanentDescriptors.mpr hthere, rfl⟩)]
              at hmonitor
            exact nomatch hmonitor
          · rw [hnone] at hmonitor
            exact nomatch hmonitor
      · rintro ⟨profile, hprofile, rfl, hdescriptor⟩
        rw [hextended.present profile hprofile, ← hdescriptor, ← hpermanent]
    | false =>
      subst hadded
      have hnone : ∀ displayId ∈ arrived.map (·.displayId), NoTemporary table displayId := by
        intro displayId hdisplay
        obtain ⟨profile, hprofile, rfl⟩ := List.mem_map.mp hdisplay
        exact hemptied.sameTemporary.noTemporary (hextended.absent profile hprofile)
      refine ⟨fun h ↦ (nomatch h), fun _ hdeparts hrestores displayId monitor _ ↦ ?_,
        (htemporary.departAdded outcomes hnone).restorePermanent outcomes _⟩
      have hback := hextended.departAdded outcomes fun profile hprofile ↦
        hdeparts profile (hmem profile hprofile)
      have hemptied' : Emptied table
          (departAdded outcomes (arrived.map (·.displayId)) extended) := by
        intro other
        rw [hback]
        exact hemptied other
      rw [hemptied'.restored hrestores]

/-- A system with HDR, where the policy leaves the descriptors as they are. -/
def exampleRuntime : BackendRuntime where
  hdrSupported := true
  hdrMaxLuminanceCtaValue _ := 0

/-- A permanent monitor and a temporary one. -/
def exampleTable : MonitorTable exampleRuntime where
  monitors := ((∅ : OrdMap UInt64 ResidentMonitor).insert 7 ⟨{ displayId := 7 }, true⟩).insert 9
    ⟨{ displayId := 9 }, false⟩
  resident displayId monitor h := by
    rw [OrdMap.getElem?_insert, OrdMap.getElem?_insert] at h
    split_ifs at h with hnine hseven
    · obtain rfl := Option.some.inj h
      exact ⟨hnine, rfl⟩
    · obtain rfl := Option.some.inj h
      exact ⟨hseven, rfl⟩
    · exact nomatch h

/-- Two permanent monitors with everything left to the defaults. -/
def exampleManifest : DisplayManifest :=
  displayManifestFromPermanentSettings { displayCount := 2 } kWindowsDriverMaxPermanentDisplays

/-- The calls succeed, up to the arrivals from this one on. -/
def arrivalsBelow (count : Nat) : ManifestOutcomes where
  departs _ := true
  arrives index := decide (index < count)
  departsAdded _ := true
  restores _ := true

/-- Both monitors arrive and the old one is gone, or the second one does not arrive and the old one
is back. -/
theorem applyDisplayManifest_atomic_two :
    ((applyDisplayManifest (arrivalsBelow 2) exampleTable exampleManifest).2 = .none ∧
      ∀ (displayId : UInt64) (monitor : ResidentMonitor), monitor.permanent = true →
        ((applyDisplayManifest (arrivalsBelow 2) exampleTable exampleManifest).1.monitors[
            displayId]? = some monitor ↔
          ∃ profile ∈ exampleManifest.activeProfiles, profile.displayId = displayId ∧
            monitor.descriptor = makePermanentDescriptor exampleRuntime profile)) ∧
    (applyDisplayManifest (arrivalsBelow 1) exampleTable exampleManifest).2 ≠ .none ∧
      ∀ (displayId : UInt64) (monitor : ResidentMonitor), monitor.permanent = true →
        ((applyDisplayManifest (arrivalsBelow 1) exampleTable exampleManifest).1.monitors[
            displayId]? = some monitor ↔
          exampleTable.monitors[displayId]? = some monitor) := by
  have happlied : (applyDisplayManifest (arrivalsBelow 2) exampleTable exampleManifest).2 = .none :=
    by decide +kernel
  have hfailed :
      (applyDisplayManifest (arrivalsBelow 1) exampleTable exampleManifest).2 ≠ .none := by
    decide +kernel
  exact ⟨⟨happlied, (applyDisplayManifest_atomic _ _ _).1 happlied⟩, hfailed,
    (applyDisplayManifest_atomic _ _ _).2.1 hfailed (fun _ _ ↦ rfl) fun _ _ ↦ rfl⟩

end MonitorTable

end VirtualDisplay
