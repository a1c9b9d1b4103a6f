import VirtualDisplay.LeaseStore.Placement
import VirtualDisplay.Lib.Run

/-!
# Reservations and quarantine over a run

Windows remembers the layout of a monitor by its connector, so a retained display has to come back
on the connector it was on, and a connector whose monitor would not depart must never be used
again.  Both rest on what the reservation map cannot contain:

* `ConnectorsGuarded` — nobody but the display on a connector has it reserved, and a quarantined
  connector is neither reserved nor used.  The reserved path of the connector choice does not look
  at the quarantine; this is why it need not.  (`execute_quarantined`)
* `HoldsConnector` — the display is the only one with a reservation for the connector, and nobody
  else is on it.  (`execute_retained_connector`)

## What is here

* `commitTemporaryDisplay_reservations` — the reservations behind a create that has been placed.
* `StealsFrom`, `SparesConnector` — what may take a retained connector away: a create that has no
  free connector left, a removal that is told to drop the reservation, and an abandoned departure.
* `ConnectorsGuarded.placed`, `ConnectorsGuarded.commit`, `ConnectorsGuarded.of_fewer` — the three
  steps of the first invariant, for the four cases of `ConnectorStep`.
* `HoldsConnector.placed`, `HoldsConnector.placed_other` — those of the second one.

Neither invariant asks anything of the reservations that a store starts out with.
-/

set_option autoImplicit false

namespace VirtualDisplay

open Std

namespace DisplayStore

variable {s s' : DisplayStore} {op : StoreOp}

/-! ## Writing the reservation of a created display -/

/-- Who has a connector reserved after a create. -/
theorem commitTemporaryDisplay_reservations {reservations : OrdMap UInt64 UInt32}
    {validated : ValidatedCreateTemporaryDisplay} {ownerCapability : Option OwnerCapability}
    {now : TimePoint} {connectorIndex c : UInt32} {retainIdentity : Bool} {d : UInt64} :
    (DisplayStore.commitTemporaryDisplay { s with connectorReservationsByDisplayId := reservations }
        validated ownerCapability now connectorIndex
        retainIdentity).1.connectorReservationsByDisplayId[d]? = some c ↔
      if retainIdentity = true ∧ d = validated.request.displayId then connectorIndex = c
      else reservations[d]? = some c ∧ (retainIdentity = true → c ≠ connectorIndex) := by
  cases retainIdentity with
  | true =>
    simp only [commitTemporaryDisplay, if_true, OrdMap.getElem?_insert, true_and, forall_const]
    by_cases hd : d = validated.request.displayId
    · rw [if_pos hd.symm, if_pos hd, Option.some_inj]
    · rw [if_neg (Ne.symm hd), if_neg hd, getElem?_removeConnectorReservation, or_iff_right hd]
  | false =>
    simp only [commitTemporaryDisplay, Bool.false_eq_true, if_false, false_and, false_imp_iff,
      and_true]

/-- The limits of the connector range stay as they are. -/
theorem apply_isTemporaryConnectorIndex (s : DisplayStore) (op : StoreOp) (c : UInt32) :
    (op.apply s).isTemporaryConnectorIndex c = s.isTemporaryConnectorIndex c := by
  obtain ⟨hperm, htemp⟩ := Reaches.invariant
    (P := fun s' ↦ s'.maxPermanentDisplays = s.maxPermanentDisplays ∧
      s'.maxTemporaryDisplays = s.maxTemporaryDisplays) (op.reaches s)
    (fun _ _ h hstep ↦ ⟨hstep.limits.1.trans h.1, hstep.limits.2.1.trans h.2⟩) ⟨rfl, rfl⟩
  exact isTemporaryConnectorIndex_congr hperm htemp c

/-! ## Guarded connectors -/

/-- Nobody but the display on a connector has it reserved, and a quarantined connector is neither
reserved nor used. -/
structure ConnectorsGuarded (s : DisplayStore) : Prop where
  exclusive : s.ConnectorsExclusive
  occupied : ∀ (d e : UInt64) (r : TemporaryDisplayRecord), s.displaysById[e]? = some r →
    s.connectorReservationsByDisplayId[d]? = some r.connectorIndex → d = e
  unreserved : ∀ (c : UInt32), s.quarantinedConnectors.contains c = true → ∀ d : UInt64,
    s.connectorReservationsByDisplayId[d]? ≠ some c
  unused : ∀ (c : UInt32), s.quarantinedConnectors.contains c = true →
    s.connectorIndexIsActive c = false

/-- A display is never placed on a quarantined connector. -/
theorem ConnectorsGuarded.placed (h : s.ConnectorsGuarded) {displayId : UInt64}
    {retainIdentity : Bool} {reservations : OrdMap UInt64 UInt32} {connectorIndex : UInt32}
    (hplaced : s.Placed displayId retainIdentity reservations connectorIndex) :
    s.quarantinedConnectors.contains connectorIndex = false := by
  cases hplaced with
  | reserved hchoice =>
    refine Bool.eq_false_iff.mpr fun hquarantined ↦ ?_
    exact h.unreserved _ hquarantined displayId (reservedConnectorIndex_eq_some.mp hchoice).2.1
  | unreserved _ hoffers => exact (connectorIsUsable_iff.mp hoffers.usable).2
  | stolen _ _ _ husable => exact (connectorIsUsable_iff.mp husable).2

/-- Records and reservations may go. -/
theorem ConnectorsGuarded.of_fewer (h : s.ConnectorsGuarded) (hexclusive : s'.ConnectorsExclusive)
    (hrecords : s.RecordsEvolve s')
    (hreservations : ∀ (d : UInt64) (c : UInt32),
      s'.connectorReservationsByDisplayId[d]? = some c →
        s.connectorReservationsByDisplayId[d]? = some c)
    (hquarantine : s'.quarantinedConnectors = s.quarantinedConnectors) :
    s'.ConnectorsGuarded where
  exclusive := hexclusive
  occupied d e r' hr' hd := by
    obtain ⟨r, hr, hevolves⟩ := hrecords e r' hr'
    exact h.occupied d e r hr (hevolves.connectorIndex ▸ hreservations d _ hd)
  unreserved c hc d hd := h.unreserved c (hquarantine ▸ hc) d (hreservations d c hd)
  unused c hc := by
    refine connectorIndexIsActive_eq_false.mpr fun e r' hr' ↦ ?_
    obtain ⟨r, hr, hevolves⟩ := hrecords e r' hr'
    rw [hevolves.connectorIndex]
    exact connectorIndexIsActive_eq_false.mp (h.unused c (hquarantine ▸ hc)) e r hr

/-- The display is written on a connector that nobody was on and that is not quarantined. -/
theorem ConnectorsGuarded.commit (h : s.ConnectorsGuarded)
    {request : CreateTemporaryDisplayRequest} {ownerCapability : Option OwnerCapability}
    {now : TimePoint} {reservations : OrdMap UInt64 UInt32} {connectorIndex : UInt32}
    (hplaced : s.Placed request.displayId request.retainsIdentity reservations connectorIndex)
    (hexclusive : (DisplayStore.commitTemporaryDisplay
      { s with connectorReservationsByDisplayId := reservations }
      (validatedCreateTemporaryDisplay request) ownerCapability now connectorIndex
      request.retainsIdentity).1.ConnectorsExclusive) :
    (DisplayStore.commitTemporaryDisplay { s with connectorReservationsByDisplayId := reservations }
      (validatedCreateTemporaryDisplay request) ownerCapability now connectorIndex
      request.retainsIdentity).1.ConnectorsGuarded where
  exclusive := hexclusive
  occupied d e r hr hd := by
    have hinactive := connectorIndexIsActive_eq_false.mp hplaced.inactive
    rw [commitTemporaryDisplay, OrdMap.getElem?_insert] at hr
    rw [commitTemporaryDisplay_reservations] at hd
    have hid : (validatedCreateTemporaryDisplay request).request.displayId = request.displayId :=
      rfl
    rw [hid] at hd hr
    split_ifs at hr with he
    · -- The new record: only the display itself may have its connector reserved.
      cases hr
      have hconnector : (DisplayStore.createdRecord
        { s with connectorReservationsByDisplayId := reservations }
        (validatedCreateTemporaryDisplay request) now connectorIndex
        request.retainsIdentity).connectorIndex = connectorIndex := rfl
      rw [hconnector] at hd
      split_ifs at hd with hself
      · exact hself.2.trans he
      · refine (hplaced.reservations_eq hd.1).elim (·.trans he) fun hchoice ↦ ?_
        exact absurd rfl (hd.2 (reservedConnectorIndex_eq_some.mp hchoice).1)
    · split_ifs at hd with hself
      · exact absurd hd.symm (hinactive e r hr)
      · exact h.occupied d e r hr (hplaced.reservations_subset hd.1)
  unreserved c hc d hd := by
    have hc' : s.quarantinedConnectors.contains c = true := hc
    rw [commitTemporaryDisplay_reservations] at hd
    split_ifs at hd
    · rw [← hd, h.placed hplaced] at hc'
      cases hc'
    · exact h.unreserved c hc' d (hplaced.reservations_subset hd.1)
  unused c hc := by
    have hc' : s.quarantinedConnectors.contains c = true := hc
    refine connectorIndexIsActive_eq_false.mpr fun e r hr heq ↦ ?_
    rw [commitTemporaryDisplay, OrdMap.getElem?_insert] at hr
    split_ifs at hr
    · cases hr
      have hc'' : connectorIndex = c := heq
      rw [← hc'', h.placed hplaced] at hc'
      cases hc'
    · exact connectorIndexIsActive_eq_false.mp (h.unused c hc') e r hr heq

theorem ConnectorsGuarded.apply (h : s.ConnectorsGuarded) (op : StoreOp) :
    (op.apply s).ConnectorsGuarded := by
  have hexclusive : (op.apply s).ConnectorsExclusive :=
    (op.reaches s).invariant (fun _ _ h ↦ h.of_change) h.exclusive
  have hstep := op.connectorStep s
  generalize op.apply s = s' at hexclusive hstep
  cases hstep with
  | create _ _ houtcome =>
    generalize hafter : (s', _) = after at houtcome
    cases houtcome with
    | refused =>
      cases hafter
      exact h
    | duplicate hplaced =>
      cases hafter
      exact h.of_fewer hexclusive (fun d r hr ↦ ⟨r, hr, .refl r⟩)
        (fun d c ↦ hplaced.reservations_subset) rfl
    | committed _ _ hplaced =>
      have hs' := congrArg Prod.fst hafter
      dsimp only at hs'
      rw [hs'] at hexclusive ⊢
      exact h.commit hplaced hexclusive
  | keep _ hrecords hreservations hquarantine =>
    exact h.of_fewer hexclusive hrecords (fun d c hd ↦ hreservations ▸ hd) hquarantine
  | release _ hrecords hreservations hquarantine =>
    refine h.of_fewer hexclusive hrecords (fun d c hd ↦ ?_) hquarantine
    rw [hreservations, OrdMap.getElem?_erase] at hd
    split_ifs at hd
    exact hd
  | @abandon _ displayId display _ hpresent habsent hrecords hreservations hquarantine =>
    have hsubset : ∀ (d : UInt64) (c : UInt32),
        s'.connectorReservationsByDisplayId[d]? = some c →
          d ≠ displayId ∧ s.connectorReservationsByDisplayId[d]? = some c := by
      intro d c hd
      rw [hreservations, OrdMap.getElem?_erase] at hd
      split_ifs at hd with hself
      exact ⟨Ne.symm hself, hd⟩
    have hold : ∀ c, s'.quarantinedConnectors.contains c = true →
        display.connectorIndex = c ∨ s.quarantinedConnectors.contains c = true := by
      intro c hc
      rw [hquarantine, ExtTreeMap.contains_insert, Bool.or_eq_true, beq_iff_eq,
        Std.compare_eq_iff_eq] at hc
      exact hc
    refine ⟨hexclusive, fun d e r' hr' hd ↦ ?_, fun c hc d hd ↦ ?_, fun c hc ↦ ?_⟩
    · obtain ⟨r, hr, hevolves⟩ := hrecords e r' hr'
      exact h.occupied d e r hr (hevolves.connectorIndex ▸ (hsubset d _ hd).2)
    · obtain ⟨hother, hd⟩ := hsubset d c hd
      obtain rfl | hc := hold c hc
      · exact hother (h.occupied d displayId display hpresent hd)
      · exact h.unreserved c hc d hd
    · refine connectorIndexIsActive_eq_false.mpr fun e r' hr' heq ↦ ?_
      obtain ⟨r, hr, hevolves⟩ := hrecords e r' hr'
      rw [hevolves.connectorIndex] at heq
      obtain rfl | hc := hold c hc
      · rw [h.exclusive.distinct e displayId r display hr hpresent heq, habsent] at hr'
        cases hr'
      · exact connectorIndexIsActive_eq_false.mp (h.unused c hc) e r hr heq

theorem ConnectorsGuarded.execute (h : s.ConnectorsGuarded) (ops : List StoreOp) :
    (s.execute ops).ConnectorsGuarded :=
  List.foldlRecOn (motive := ConnectorsGuarded) ops StoreOp.apply h fun _ hs op _ ↦ hs.apply op

/-- Whatever reservations a store starts with, no record and no quarantine contradicts them. -/
theorem execute_connectorsGuarded (maxPermanentDisplays maxTemporaryDisplays : UInt32)
    (reservations : OrdMap UInt64 UInt32) (initialManifest : Option DisplayManifest)
    (ops : List StoreOp) :
    ConnectorsGuarded (DisplayStore.execute
      (.new maxPermanentDisplays maxTemporaryDisplays reservations initialManifest) ops) := by
  refine ConnectorsGuarded.execute ?_ ops
  have hexclusive : ConnectorsExclusive
      (.new maxPermanentDisplays maxTemporaryDisplays reservations initialManifest) :=
    execute_new_invariant
      (empty_connectorsExclusive maxPermanentDisplays maxTemporaryDisplays reservations)
      (fun _ _ h ↦ h.of_change) initialManifest []
  have hrecords := (new_fresh maxPermanentDisplays maxTemporaryDisplays reservations
    initialManifest).1
  have hquarantine : (DisplayStore.new maxPermanentDisplays maxTemporaryDisplays reservations
      initialManifest).quarantinedConnectors = ∅ := by
    cases initialManifest with
    | none => rfl
    | some manifest =>
      rw [new]
      split_ifs
      · exact (applyDisplayManifest_connectors _ manifest).2
      · rfl
  refine ⟨hexclusive, fun d e r hr ↦ ?_, fun c hc ↦ ?_, fun c hc ↦ ?_⟩
  · rw [hrecords] at hr
    simp at hr
  · rw [hquarantine] at hc
    simp at hc
  · rw [hquarantine] at hc
    simp at hc

/-- What is quarantined stays quarantined. -/
theorem apply_quarantined (s : DisplayStore) (op : StoreOp) {c : UInt32}
    (hc : s.quarantinedConnectors.contains c = true) :
    (op.apply s).quarantinedConnectors.contains c = true := by
  have hstep := op.connectorStep s
  generalize op.apply s = s' at hstep
  cases hstep with
  | create _ _ houtcome =>
    generalize hafter : (s', _) = after at houtcome
    cases houtcome with
    | refused | duplicate =>
      cases hafter
      exact hc
    | committed =>
      have hs' := congrArg Prod.fst hafter
      dsimp only at hs'
      rw [hs']
      exact hc
  | keep _ _ _ hquarantine | release _ _ _ hquarantine =>
    rw [hquarantine]
    exact hc
  | abandon _ _ _ _ _ hquarantine =>
    rw [hquarantine, ExtTreeMap.contains_insert, hc, Bool.or_true]

theorem execute_quarantinedConnectors (s : DisplayStore) (ops : List StoreOp) {c : UInt32}
    (hc : s.quarantinedConnectors.contains c = true) :
    (s.execute ops).quarantinedConnectors.contains c = true :=
  List.foldlRecOn (motive := fun s' : DisplayStore ↦ s'.quarantinedConnectors.contains c = true)
    ops StoreOp.apply hc fun s' hs' op _ ↦ s'.apply_quarantined op hs'

/-! ## Successful creates -/

/-- A create that succeeds has put its record where it was placed. -/
theorem createsOn_committed {displayId : UInt64} {retainIdentity : Bool} {connectorIndex : UInt32}
    (h : op.CreatesOn s displayId retainIdentity connectorIndex) :
    ∃ request ownerCapability now reservations, op.createRequest? = some request ∧
      request.displayId = displayId ∧ request.retainsIdentity = retainIdentity ∧
      s.CreateAccepted request ownerCapability now ∧
      s.Placed request.displayId request.retainsIdentity reservations connectorIndex ∧
      op.apply s = (DisplayStore.commitTemporaryDisplay
        { s with connectorReservationsByDisplayId := reservations }
        (validatedCreateTemporaryDisplay request) ownerCapability now connectorIndex
        request.retainsIdentity).1 := by
  obtain ⟨request, result, hrequest, hresult, hok, hid, hretain, hconnector⟩ := h
  have hstep := op.connectorStep s
  generalize op.apply s = s' at hstep
  cases hstep with
  | create hcall hanswer houtcome =>
    rw [hrequest, Option.some_inj] at hcall
    rw [hresult, Option.some_inj] at hanswer
    subst hcall hanswer
    generalize hafter : (s', result) = after at houtcome
    cases houtcome with
    | refused hfailed =>
      cases hafter
      exact absurd hok hfailed
    | duplicate =>
      cases hafter
      cases hok
    | committed haccepted _ hplaced =>
      have hs' := congrArg Prod.fst hafter
      have hresult' := congrArg (fun after ↦ after.2.result.connectorIndex) hafter
      dsimp only at hs'
      have hplace : result.result.connectorIndex = _ := hresult'
      rw [← hconnector, hplace]
      exact ⟨request, _, _, _, hrequest, hid, hretain, haccepted, hplaced, hs'⟩
  | keep hother =>
    rw [hrequest] at hother
    cases hother
  | release hcall =>
    obtain ⟨_, rfl, -⟩ := hcall
    cases hrequest
  | abandon hcall =>
    obtain ⟨_, _, _, rfl, -⟩ := hcall
    cases hrequest

/-! ## Quarantine -/

/-- **Quarantine is permanent.**  Once a pending record has been abandoned, no record is on its
connector at any later point of the run, and no create reports that connector. -/
theorem execute_quarantined (maxPermanentDisplays maxTemporaryDisplays : UInt32)
    (reservations : OrdMap UInt64 UInt32) (initialManifest : Option DisplayManifest)
    (before after : List StoreOp) (request : LeaseDisplayRequest) (expectedGeneration : UInt64)
    (ownerCapability : OwnerCapability) (display : TemporaryDisplayRecord)
    (hdisplay : (DisplayStore.execute
      (.new maxPermanentDisplays maxTemporaryDisplays reservations initialManifest)
      before).displaysById[request.displayId]? = some display)
    (hok : (abandonPendingTemporaryDisplay (DisplayStore.execute
      (.new maxPermanentDisplays maxTemporaryDisplays reservations initialManifest) before)
      request expectedGeneration ownerCapability).2.error = .none) :
    let s := DisplayStore.execute
      (.new maxPermanentDisplays maxTemporaryDisplays reservations initialManifest)
      (before ++ .abandonPendingTemporaryDisplay request expectedGeneration ownerCapability ::
        after)
    (∀ (d : UInt64) (r : TemporaryDisplayRecord), s.displaysById[d]? = some r →
      r.connectorIndex ≠ display.connectorIndex) ∧
    ∀ (op : StoreOp) (d : UInt64) (retainIdentity : Bool),
      ¬op.CreatesOn s d retainIdentity display.connectorIndex := by
  intro s
  have hguarded : s.ConnectorsGuarded := execute_connectorsGuarded ..
  have hquarantined : s.quarantinedConnectors.contains display.connectorIndex = true := by
    have hs : s = DisplayStore.execute
        (StoreOp.apply (DisplayStore.execute
          (.new maxPermanentDisplays maxTemporaryDisplays reservations initialManifest) before)
          (.abandonPendingTemporaryDisplay request expectedGeneration ownerCapability)) after :=
      List.foldl_append
    rw [hs]
    refine execute_quarantinedConnectors _ after ?_
    obtain ⟨display', lease, hdisplay', -, -, -, -, -, h⟩ | ⟨-, herror⟩ :=
      abandonPendingTemporaryDisplay_cases (DisplayStore.execute
        (.new maxPermanentDisplays maxTemporaryDisplays reservations initialManifest) before)
        request expectedGeneration ownerCapability
    · rw [hdisplay, Option.some_inj] at hdisplay'
      rw [StoreOp.apply, h, eraseDisplay_quarantinedConnectors, hdisplay']
      simp
    · exact absurd hok herror
  refine ⟨connectorIndexIsActive_eq_false.mp (hguarded.unused _ hquarantined),
    fun op d retainIdentity hcreates ↦ ?_⟩
  obtain ⟨_, _, _, _, _, _, _, _, hplaced, -⟩ := createsOn_committed hcreates
  rw [hguarded.placed hplaced] at hquarantined
  cases hquarantined

/-- The first connector of a store, once a record on it has been abandoned. -/
theorem execute_quarantined_abandoned :
    let s := DisplayStore.execute (.new 0 4)
      [.createTemporaryDisplayOwned
          { display := exampleRequest kMinOpaqueLeaseId 1, ownerCapability := exampleCapability } 0,
        .markTemporaryDisplayPendingDeparture { leaseId := kMinOpaqueLeaseId, displayId := 1 },
        .abandonPendingTemporaryDisplay { leaseId := kMinOpaqueLeaseId, displayId := 1 } 1
          exampleCapability]
    ∀ (op : StoreOp) (d : UInt64) (retainIdentity : Bool), ¬op.CreatesOn s d retainIdentity 0 := by
  intro s
  let before : List StoreOp :=
    [.createTemporaryDisplayOwned
        { display := exampleRequest kMinOpaqueLeaseId 1, ownerCapability := exampleCapability } 0,
      .markTemporaryDisplayPendingDeparture { leaseId := kMinOpaqueLeaseId, displayId := 1 }]
  have hrecord : ((DisplayStore.execute (.new 0 4) before).displaysById[(1 : UInt64)]?).any
      fun display ↦ display.connectorIndex == 0 := by
    decide
  obtain ⟨display, hdisplay, hconnector⟩ := (Option.any_eq_true _ _).mp hrecord
  have h := (execute_quarantined 0 4 ∅ none before []
    { leaseId := kMinOpaqueLeaseId, displayId := 1 }
    1 exampleCapability display hdisplay (by decide)).2
  rwa [beq_iff_eq.mp hconnector] at h

/-! ## The connector of a retained display -/

/-- The display has the connector reserved, alone, and nobody else is on it. -/
structure HoldsConnector (s : DisplayStore) (displayId : UInt64) (connectorIndex : UInt32) :
    Prop where
  inRange : s.isTemporaryConnectorIndex connectorIndex = true
  reserved : s.connectorReservationsByDisplayId[displayId]? = some connectorIndex
  alone : ∀ d : UInt64, s.connectorReservationsByDisplayId[d]? = some connectorIndex →
    d = displayId
  unoccupied : ∀ (d : UInt64) (r : TemporaryDisplayRecord), s.displaysById[d]? = some r →
    r.connectorIndex = connectorIndex → d = displayId

/-- The operation is a create of another display, tried when every temporary connector is active,
quarantined or reserved: by a display other than the one to be created, or, if its identity is
ephemeral, by any display at all. -/
def StealsFrom (s : DisplayStore) (op : StoreOp) (displayId : UInt64) : Prop :=
  ∃ request, op.createRequest? = some request ∧ request.displayId ≠ displayId ∧
    ∀ c, ¬s.OffersConnector request.displayId request.retainsIdentity c

/-- The operation takes nothing from the display: it neither releases nor abandons it, and is no
create of another display that finds no connector of its own. -/
structure SparesConnector (displayId : UInt64) (s : DisplayStore) (op : StoreOp) : Prop where
  notReleased : ¬op.Releases s displayId
  notAbandoned : ¬op.Abandons s displayId
  notStolen : ¬s.StealsFrom op displayId

namespace HoldsConnector

variable {displayId : UInt64} {connectorIndex : UInt32}

/-- The connector is free for the display to come back to. -/
theorem reservedConnectorIndex (h : s.HoldsConnector displayId connectorIndex)
    (habsent : s.displaysById[displayId]? = none) :
    s.reservedConnectorIndex displayId true = some connectorIndex := by
  refine reservedConnectorIndex_eq_some.mpr ⟨rfl, h.reserved, h.inRange, ?_⟩
  refine connectorIndexIsActive_eq_false.mpr fun d r hr heq ↦ ?_
  rw [h.unoccupied d r hr heq, habsent] at hr
  cases hr

/-- A retained create of the display goes to its connector. -/
theorem placed (h : s.HoldsConnector displayId connectorIndex)
    (habsent : s.displaysById[displayId]? = none) {reservations : OrdMap UInt64 UInt32}
    {c : UInt32} (hplaced : s.Placed displayId true reservations c) : c = connectorIndex := by
  have hown := h.reservedConnectorIndex habsent
  cases hplaced with
  | reserved hchoice =>
    rw [hown, Option.some_inj] at hchoice
    exact hchoice.symm
  | unreserved hrefused | stolen hrefused =>
    rw [hown] at hrefused
    cases hrefused

/-- Another display goes elsewhere, unless it has to take a connector from somebody. -/
theorem placed_other (h : s.HoldsConnector displayId connectorIndex) {other : UInt64}
    (hother : other ≠ displayId) {retainIdentity : Bool} {reservations : OrdMap UInt64 UInt32}
    {c : UInt32} (hplaced : s.Placed other retainIdentity reservations c)
    (hoffers : ∃ c', s.OffersConnector other retainIdentity c') :
    reservations = s.connectorReservationsByDisplayId ∧ c ≠ connectorIndex := by
  cases hplaced with
  | reserved hchoice =>
    refine ⟨rfl, fun heq ↦ hother (h.alone other ?_)⟩
    rw [← heq]
    exact (reservedConnectorIndex_eq_some.mp hchoice).2.1
  | unreserved _ hoffered =>
    refine ⟨rfl, fun heq ↦ hother ?_⟩
    rw [heq] at hoffered
    exact (hoffered.unreserved displayId h.reserved).2.symm
  | stolen _ hcrowded =>
    obtain ⟨c', hc'⟩ := hoffers
    exact absurd hc' (hcrowded c')

/-- The choice of a connector for the display itself leaves it its reservation. -/
theorem placed_self (h : s.HoldsConnector displayId connectorIndex) {retainIdentity : Bool}
    {reservations : OrdMap UInt64 UInt32} {c : UInt32}
    (hplaced : s.Placed displayId retainIdentity reservations c) :
    reservations[displayId]? = some connectorIndex := by
  cases hplaced with
  | reserved | unreserved => exact h.reserved
  | stolen => exact getElem?_removeConnectorReservation.mpr ⟨h.reserved, .inl rfl⟩

/-- Records and reservations of others may go. -/
theorem of_fewer (h : s.HoldsConnector displayId connectorIndex)
    (hrange : s'.isTemporaryConnectorIndex connectorIndex =
      s.isTemporaryConnectorIndex connectorIndex)
    (hrecords : s.RecordsEvolve s')
    (hreserved : s'.connectorReservationsByDisplayId[displayId]? = some connectorIndex)
    (hreservations : ∀ (d : UInt64) (c : UInt32),
      s'.connectorReservationsByDisplayId[d]? = some c →
        s.connectorReservationsByDisplayId[d]? = some c) :
    s'.HoldsConnector displayId connectorIndex where
  inRange := hrange.trans h.inRange
  reserved := hreserved
  alone d hd := h.alone d (hreservations d _ hd)
  unoccupied d r' hr' heq := by
    obtain ⟨r, hr, hevolves⟩ := hrecords d r' hr'
    exact h.unoccupied d r hr (hevolves.connectorIndex ▸ heq)

theorem commit_self (h : s.HoldsConnector displayId connectorIndex)
    {request : CreateTemporaryDisplayRequest} (hid : request.displayId = displayId)
    (habsent : s.displaysById[displayId]? = none) {ownerCapability : Option OwnerCapability}
    {now : TimePoint} {reservations : OrdMap UInt64 UInt32} {c : UInt32}
    (hplaced : s.Placed displayId request.retainsIdentity reservations c) :
    (DisplayStore.commitTemporaryDisplay { s with connectorReservationsByDisplayId := reservations }
      (validatedCreateTemporaryDisplay request) ownerCapability now c
      request.retainsIdentity).1.HoldsConnector displayId connectorIndex := by
  have hid' : (validatedCreateTemporaryDisplay request).request.displayId = displayId := hid
  have hown : request.retainsIdentity = true → c = connectorIndex := fun hretain ↦
    h.placed habsent (hretain ▸ hplaced)
  refine ⟨h.inRange, ?_, fun d hd ↦ ?_, fun d r hr heq ↦ ?_⟩
  · rw [commitTemporaryDisplay_reservations, hid']
    split_ifs with hretain
    · exact hown hretain.1
    · exact ⟨h.placed_self hplaced, fun hretain' ↦ absurd ⟨hretain', rfl⟩ hretain⟩
  · rw [commitTemporaryDisplay_reservations, hid'] at hd
    split_ifs at hd with hself
    · exact hself.2
    · exact h.alone d (hplaced.reservations_subset hd.1)
  · rw [commitTemporaryDisplay, OrdMap.getElem?_insert, hid'] at hr
    split_ifs at hr with hd
    · exact hd.symm
    · exact h.unoccupied d r hr heq

theorem commit_other (h : s.HoldsConnector displayId connectorIndex)
    {request : CreateTemporaryDisplayRequest} (hid : request.displayId ≠ displayId)
    (hoffers : ∃ c', s.OffersConnector request.displayId request.retainsIdentity c')
    {ownerCapability : Option OwnerCapability} {now : TimePoint}
    {reservations : OrdMap UInt64 UInt32} {c : UInt32}
    (hplaced : s.Placed request.displayId request.retainsIdentity reservations c) :
    (DisplayStore.commitTemporaryDisplay { s with connectorReservationsByDisplayId := reservations }
      (validatedCreateTemporaryDisplay request) ownerCapability now c
      request.retainsIdentity).1.HoldsConnector displayId connectorIndex := by
  have hid' : (validatedCreateTemporaryDisplay request).request.displayId = request.displayId := rfl
  obtain ⟨rfl, hne⟩ := h.placed_other hid hplaced hoffers
  refine ⟨h.inRange, ?_, fun d hd ↦ ?_, fun d r hr heq ↦ ?_⟩
  · rw [commitTemporaryDisplay_reservations, hid', if_neg fun hself ↦ hid hself.2.symm]
    exact ⟨h.reserved, fun _ ↦ hne.symm⟩
  · rw [commitTemporaryDisplay_reservations, hid'] at hd
    split_ifs at hd
    · exact absurd hd hne
    · exact h.alone d hd.1
  · rw [commitTemporaryDisplay, OrdMap.getElem?_insert, hid'] at hr
    split_ifs at hr
    · cases hr
      exact absurd heq hne
    · exact h.unoccupied d r hr heq

theorem apply (h : s.HoldsConnector displayId connectorIndex)
    (hspares : s.SparesConnector displayId op) :
    (op.apply s).HoldsConnector displayId connectorIndex := by
  have hrange := s.apply_isTemporaryConnectorIndex op connectorIndex
  have hstep := op.connectorStep s
  generalize op.apply s = s' at hrange hstep
  have hoffers : ∀ request, op.createRequest? = some request → request.displayId ≠ displayId →
      ∃ c', s.OffersConnector request.displayId request.retainsIdentity c' := by
    intro request hcall hother
    by_contra hnone
    exact hspares.notStolen ⟨request, hcall, hother, not_exists.mp hnone⟩
  cases hstep with
  | @create request _ _ _ _ hcall _ houtcome =>
    generalize hafter : (s', _) = after at houtcome
    cases houtcome with
    | refused =>
      cases hafter
      exact h
    | duplicate hplaced =>
      cases hafter
      refine h.of_fewer hrange (fun d r hr ↦ ⟨r, hr, .refl r⟩) ?_
        fun d c ↦ hplaced.reservations_subset
      by_cases hself : request.displayId = displayId
      · exact h.placed_self (hself ▸ hplaced)
      · rw [(h.placed_other hself hplaced (hoffers request hcall hself)).1]
        exact h.reserved
    | committed haccepted _ hplaced =>
      have hs' := congrArg Prod.fst hafter
      dsimp only at hs'
      rw [hs']
      by_cases hself : request.displayId = displayId
      · exact h.commit_self hself (hself ▸ haccepted.absent) (hself ▸ hplaced)
      · exact h.commit_other hself (hoffers request hcall hself) hplaced
  | keep _ hrecords hreservations =>
    refine h.of_fewer hrange hrecords ?_ fun d c hd ↦ hreservations ▸ hd
    rw [hreservations]
    exact h.reserved
  | @release _ released hcall hrecords hreservations =>
    have hother : released ≠ displayId := by
      rintro rfl
      exact hspares.notReleased hcall
    refine h.of_fewer hrange hrecords ?_ fun d c hd ↦ ?_
    · rw [hreservations, OrdMap.getElem?_erase, if_neg hother]
      exact h.reserved
    · rw [hreservations, OrdMap.getElem?_erase] at hd
      split_ifs at hd
      exact hd
  | @abandon _ abandoned _ hcall _ _ hrecords hreservations =>
    have hother : abandoned ≠ displayId := by
      rintro rfl
      exact hspares.notAbandoned hcall
    refine h.of_fewer hrange hrecords ?_ fun d c hd ↦ ?_
    · rw [hreservations, OrdMap.getElem?_erase, if_neg hother]
      exact h.reserved
    · rw [hreservations, OrdMap.getElem?_erase] at hd
      split_ifs at hd
      exact hd

theorem execute (h : s.HoldsConnector displayId connectorIndex) {ops : List StoreOp}
    (hspares : Run.Every StoreOp.apply (SparesConnector displayId) s ops) :
    (s.execute ops).HoldsConnector displayId connectorIndex := by
  induction ops generalizing s with
  | nil => exact h
  | cons op ops ih => exact ih (h.apply hspares.1) hspares.2

end HoldsConnector

/-- A retained create makes its display the holder of the connector. -/
theorem createsOn_holdsConnector {displayId : UInt64} {connectorIndex : UInt32}
    (h : op.CreatesOn s displayId true connectorIndex) :
    (op.apply s).HoldsConnector displayId connectorIndex := by
  have hrange := s.apply_isTemporaryConnectorIndex op connectorIndex
  obtain ⟨request, ownerCapability, now, reservations, -, rfl, hretain, -, hplaced, hs'⟩ :=
    createsOn_committed h
  have hid : (validatedCreateTemporaryDisplay request).request.displayId = request.displayId := rfl
  refine ⟨hrange.trans hplaced.inRange, ?_, fun d hd ↦ ?_, fun d r hr heq ↦ ?_⟩
  · rw [hs', commitTemporaryDisplay_reservations, if_pos ⟨hretain, hid.symm⟩]
  · rw [hs', commitTemporaryDisplay_reservations, hretain] at hd
    split_ifs at hd with hself
    · exact hself.2
    · exact absurd rfl (hd.2 rfl)
  · rw [hs', commitTemporaryDisplay, OrdMap.getElem?_insert, hid] at hr
    split_ifs at hr with hd
    · exact hd.symm
    · exact absurd heq (connectorIndexIsActive_eq_false.mp hplaced.inactive d r hr)

/-- **A retained display keeps its connector.**  However the record of a retained create goes, the
next retained create of the display gets the same connector, unless in between the display was
released together with its reservation, a pending record of it was abandoned, or a create of
another display had to take a connector from somebody. -/
theorem execute_retained_connector (maxPermanentDisplays maxTemporaryDisplays : UInt32)
    (reservations : OrdMap UInt64 UInt32) (initialManifest : Option DisplayManifest)
    (before after : List StoreOp) (create again : StoreOp) (displayId : UInt64)
    (connectorIndex connectorIndex' : UInt32)
    (hcreate : create.CreatesOn (DisplayStore.execute
      (.new maxPermanentDisplays maxTemporaryDisplays reservations initialManifest) before)
      displayId true connectorIndex)
    (hspares : Run.Every StoreOp.apply (SparesConnector displayId)
      (DisplayStore.execute
        (.new maxPermanentDisplays maxTemporaryDisplays reservations initialManifest)
        (before ++ [create])) after)
    (hagain : again.CreatesOn (DisplayStore.execute
      (.new maxPermanentDisplays maxTemporaryDisplays reservations initialManifest)
      (before ++ create :: after)) displayId true connectorIndex') :
    connectorIndex' = connectorIndex := by
  rw [execute, List.foldl_concat] at hspares
  have hrun : DisplayStore.execute
      (.new maxPermanentDisplays maxTemporaryDisplays reservations initialManifest)
      (before ++ create :: after) =
    DisplayStore.execute (create.apply (DisplayStore.execute
      (.new maxPermanentDisplays maxTemporaryDisplays reservations initialManifest) before))
      after := List.foldl_append
  rw [hrun] at hagain
  have hholds := (createsOn_holdsConnector hcreate).execute hspares
  obtain ⟨request, _, _, _, -, rfl, hretain, haccepted, hplaced, -⟩ := createsOn_committed hagain
  exact hholds.placed haccepted.absent (hretain ▸ hplaced)

/-- A display that is removed and created again while another one is created in between. -/
theorem execute_retained_connector_recreated :
    let create : StoreOp := .createTemporaryDisplay (exampleRequest kMinOpaqueLeaseId 1) 0
    create.CreatesOn (DisplayStore.execute (.new 0 4)
      [create,
        .removeTemporaryDisplay { leaseId := kMinOpaqueLeaseId, displayId := 1 }
          .retainConnectorReservation,
        .createTemporaryDisplay (exampleRequest kMinOpaqueLeaseId 2) 0]) 1 true 0 := by
  intro create
  have hagain : ∃ c, create.CreatesOn (DisplayStore.execute (.new 0 4)
      [create,
        .removeTemporaryDisplay { leaseId := kMinOpaqueLeaseId, displayId := 1 }
          .retainConnectorReservation,
        .createTemporaryDisplay (exampleRequest kMinOpaqueLeaseId 2) 0]) 1 true c :=
    ⟨_, _, _, rfl, rfl, by decide, rfl, by decide, rfl⟩
  obtain ⟨c, hagain⟩ := hagain
  have hoffers : OffersConnector (StoreOp.apply (DisplayStore.execute (.new 0 4) ([] ++ [create]))
      (.removeTemporaryDisplay { leaseId := kMinOpaqueLeaseId, displayId := 1 }
        .retainConnectorReservation)) (exampleRequest kMinOpaqueLeaseId 2).displayId
      (exampleRequest kMinOpaqueLeaseId 2).retainsIdentity 1 :=
    ⟨by decide, by decide, isUnreserved_iff.mp (by decide)⟩
  have h := execute_retained_connector 0 4 ∅ none []
    [.removeTemporaryDisplay { leaseId := kMinOpaqueLeaseId, displayId := 1 }
        .retainConnectorReservation,
      .createTemporaryDisplay (exampleRequest kMinOpaqueLeaseId 2) 0] create create 1 0 c
    ⟨_, _, rfl, rfl, by decide, rfl, by decide, by decide⟩
    ⟨⟨fun ⟨_, h, _⟩ ↦ (nomatch h), fun ⟨_, _, _, h, _⟩ ↦ (nomatch h), fun ⟨_, h, _⟩ ↦ (nomatch h)⟩,
      ⟨fun ⟨_, h, _⟩ ↦ (nomatch h), fun ⟨_, _, _, h, _⟩ ↦ (nomatch h),
        fun ⟨request, h, _, hnone⟩ ↦ by
        cases h
        exact hnone 1 hoffers⟩, trivial⟩ hagain
  subst h
  exact hagain

end DisplayStore

end VirtualDisplay
