import VirtualDisplay.LeaseStore.Reservations

/-!
# When a create fails, and what it has done by then

The error exits of `create_temporary_display_impl` follow each other, and a connector is chosen
before the last of them, the one for an identity that is in use already.

* `create_limitReached_iff` — in a store that has come about by its operations, a create that
  nothing else stands in the way of is refused for want of room exactly when there are too many
  records or no usable connector.  Reservations of other displays do not count: they are taken away.
* `create_failed_iff` — so a create may fail after it has taken a reservation away, and that is the
  only way in which a create that fails changes anything.

## What is here

* `StoreOp.CreateAllowed` — the request is valid, the display has no record, and the lease takes it.
* `ConnectorsExhausted` — every temporary connector is occupied or quarantined.
* `placeTemporaryDisplay_failed_iff`, `StealsInVain` — the choice takes a connector away from a
  display that has it reserved, and then the identity turns out to be in use.
* `SameContents` — stores that agree in all that operations change, down to the counters.
* `duplicate_loses_reservation` — the smallest store in which it happens.
-/

set_option autoImplicit false

namespace VirtualDisplay

open Std

namespace DisplayStore

variable {s : DisplayStore} {request : CreateTemporaryDisplayRequest}
  {ownerCapability : Option OwnerCapability} {now : TimePoint}

/-! ## A create up to the choice of its connector -/

theorem createTemporaryDisplayImpl_accepted (h : s.CreateAccepted request ownerCapability now) :
    s.createTemporaryDisplayImpl request ownerCapability now =
      if s.maxTemporaryDisplays.toNat ≤ s.displaysById.size then
        (s, createFailure .temporaryDisplayLimitReached)
      else
        s.placeTemporaryDisplay (validatedCreateTemporaryDisplay request) ownerCapability now := by
  have hcontains : s.displaysById.contains request.displayId = false := by
    rw [ExtTreeMap.contains_eq_isSome_getElem?, h.absent]
    rfl
  rw [createTemporaryDisplayImpl, h.valid]
  dsimp only
  rw [hcontains, h.accepts, h.owned]
  simp only [Bool.false_eq_true, if_false]

theorem createTemporaryDisplayImpl_refused (h : ¬s.CreateAccepted request ownerCapability now) :
    (s.createTemporaryDisplayImpl request ownerCapability now).1 = s := by
  rw [createTemporaryDisplayImpl.eq_def]
  split
  case h_2 => rfl
  case h_1 hvalid =>
    dsimp only
    split_ifs with hpresent hlimit hrefused howned
    · rfl
    · rfl
    · rfl
    · rfl
    · have habsent : s.displaysById[request.displayId]? = none :=
        ExtTreeMap.getElem?_eq_none_of_contains_eq_false (Bool.not_eq_true _ ▸ hpresent)
      exact absurd ⟨hvalid, habsent, Bool.not_eq_true _ ▸ hrefused, Bool.not_eq_true _ ▸ howned⟩ h

/-- What follows the choice of the connector. -/
theorem placeTemporaryDisplay_of_choice {chosen : DisplayStore} {connectorIndex : UInt32}
    (hchoice : s.connectorIndexForDisplay request.displayId request.retainsIdentity =
      (chosen, connectorIndex)) :
    s.placeTemporaryDisplay (validatedCreateTemporaryDisplay request) ownerCapability now =
      if !chosen.isTemporaryConnectorIndex connectorIndex then
        (chosen, createFailure .temporaryDisplayLimitReached)
      else if request.retainsIdentity && chosen.edidIdentityIsActive request.displayId then
        (chosen, createFailure .duplicateDisplayIdentity)
      else
        chosen.commitTemporaryDisplay (validatedCreateTemporaryDisplay request) ownerCapability now
          connectorIndex request.retainsIdentity := by
  have hid : (validatedCreateTemporaryDisplay request).request.displayId = request.displayId := rfl
  have hflags : (validatedCreateTemporaryDisplay request).request.flags = request.flags := rfl
  rw [placeTemporaryDisplay, hid, hflags]
  rw [CreateTemporaryDisplayRequest.retainsIdentity] at hchoice ⊢
  rw [hchoice]

/-- No temporary connector is free and out of quarantine. -/
def ConnectorsExhausted (s : DisplayStore) : Prop :=
  ∀ c : UInt32, s.maxPermanentDisplays ≤ c → c < s.temporaryConnectorLimit →
    s.connectorIndexIsActive c = true ∨ s.quarantinedConnectors.contains c = true

theorem connectorsExhausted_iff :
    s.ConnectorsExhausted ↔
      ∀ c, s.isTemporaryConnectorIndex c = true → s.connectorIsUsable c = false := by
  have husable (c : UInt32) : s.connectorIsUsable c = false ↔
      s.connectorIndexIsActive c = true ∨ s.quarantinedConnectors.contains c = true := by
    rw [connectorIsUsable, Bool.and_eq_false_iff, Bool.not_eq_false', Bool.not_eq_false']
  simp only [ConnectorsExhausted, isTemporaryConnectorIndex_iff, husable, and_imp]

/-- Where reservations and quarantine do not contradict the records, the choice fails exactly when
no connector is left. -/
theorem placeTemporaryDisplay_limitReached_iff (hguarded : s.ConnectorsGuarded) :
    (s.placeTemporaryDisplay (validatedCreateTemporaryDisplay request) ownerCapability
        now).2.status.error = .temporaryDisplayLimitReached ↔ s.ConnectorsExhausted := by
  rw [connectorsExhausted_iff]
  obtain ⟨reservations, c, hplaced, hchoice⟩ | ⟨hnone, hchoice⟩ :=
    s.connectorIndexForDisplay_placed request.displayId request.retainsIdentity
  · have hrange : DisplayStore.isTemporaryConnectorIndex
        { s with connectorReservationsByDisplayId := reservations } c = true := hplaced.inRange
    have husable : s.connectorIsUsable c = true :=
      connectorIsUsable_iff.mpr ⟨hplaced.inactive, hguarded.placed hplaced⟩
    rw [placeTemporaryDisplay_of_choice hchoice, hrange, Bool.not_true, if_neg Bool.false_ne_true]
    constructor
    · intro herror
      split_ifs at herror <;> cases herror
    · intro hexhausted
      rw [hexhausted c hplaced.inRange] at husable
      cases husable
  · rw [placeTemporaryDisplay_of_choice hchoice, not_isTemporaryConnectorIndex_limit,
      Bool.not_false, if_pos rfl]
    exact ⟨fun _ ↦ hnone, fun _ ↦ rfl⟩

end DisplayStore

/-! ## Creates that nothing but room stands in the way of -/

open DisplayStore in
/-- A create whose request is valid, whose display has no record and whose lease takes it. -/
inductive StoreOp.CreateAllowed (s : DisplayStore) : StoreOp → Prop where
  | plain {request : CreateTemporaryDisplayRequest} {now : TimePoint}
      (accepted : s.CreateAccepted request none now) :
    CreateAllowed s (.createTemporaryDisplay request now)
  | owned {request : CreateTemporaryDisplayOwnedRequest} {now : TimePoint}
      (valid : validateCreateTemporaryDisplayOwned request = .none)
      (accepted : s.CreateAccepted request.display (some request.ownerCapability) now) :
    CreateAllowed s (.createTemporaryDisplayOwned request now)

namespace DisplayStore

variable {s : DisplayStore}

/-- A create that is allowed is one of the source's `create_temporary_display_impl`. -/
theorem createAllowed_impl {op : StoreOp} (h : op.CreateAllowed s) :
    ∃ request ownerCapability now, op.createRequest? = some request ∧
      s.CreateAccepted request ownerCapability now ∧
      op.apply s = (s.createTemporaryDisplayImpl request ownerCapability now).1 ∧
      op.createResult? s = some (s.createTemporaryDisplayImpl request ownerCapability now).2 := by
  cases h with
  | @plain request now haccepted => exact ⟨request, none, now, rfl, haccepted, rfl, rfl⟩
  | @owned request now hvalid haccepted =>
    have h : s.createTemporaryDisplayOwned request now =
        s.createTemporaryDisplayImpl request.display (some request.ownerCapability) now := by
      rw [createTemporaryDisplayOwned, hvalid]
    exact ⟨request.display, some request.ownerCapability, now, rfl, haccepted,
      congrArg Prod.fst h, congrArg (fun after : DisplayStore × CreateStoreResult ↦ some after.2) h⟩

/-- **Connector allocation is complete.**  In every store that operations have led to, an allowed
create is told that the limit is reached iff there are as many records as there may be, or every
temporary connector has a record on it or is quarantined. -/
theorem create_limitReached_iff (maxPermanentDisplays maxTemporaryDisplays : UInt32)
    (reservations : OrdMap UInt64 UInt32) (initialManifest : Option DisplayManifest)
    (ops : List StoreOp) (op : StoreOp)
    (hop : op.CreateAllowed (DisplayStore.execute
      (.new maxPermanentDisplays maxTemporaryDisplays reservations initialManifest) ops)) :
    let s := DisplayStore.execute
      (.new maxPermanentDisplays maxTemporaryDisplays reservations initialManifest) ops
    (op.createResult? s).map (·.status.error) = some .temporaryDisplayLimitReached ↔
      s.maxTemporaryDisplays.toNat ≤ s.displaysById.size ∨ s.ConnectorsExhausted := by
  intro s
  have hguarded : s.ConnectorsGuarded := execute_connectorsGuarded _ _ _ _ _
  obtain ⟨request, ownerCapability, now, -, haccepted, -, hresult⟩ := createAllowed_impl hop
  rw [hresult, Option.map_some, Option.some_inj, createTemporaryDisplayImpl_accepted haccepted]
  split_ifs with hfull
  · exact ⟨fun _ ↦ .inl hfull, fun _ ↦ rfl⟩
  · rw [placeTemporaryDisplay_limitReached_iff hguarded, or_iff_right hfull]

/-- The second of two connectors goes to the second display. -/
theorem create_limitReached_iff_second :
    let s := DisplayStore.execute (.new 4 2)
      [.createTemporaryDisplay (exampleRequest kMinOpaqueLeaseId 1) 0]
    (StoreOp.createResult? s
        (.createTemporaryDisplay (exampleRequest kMinOpaqueLeaseId 2) 0)).map (·.status.error) =
      some .temporaryDisplayLimitReached ↔
      s.maxTemporaryDisplays.toNat ≤ s.displaysById.size ∨ s.ConnectorsExhausted :=
  create_limitReached_iff 4 2 ∅ none
    [.createTemporaryDisplay (exampleRequest kMinOpaqueLeaseId 1) 0]
    (.createTemporaryDisplay (exampleRequest kMinOpaqueLeaseId 2) 0)
    (.plain ⟨by decide, by decide, by decide, by decide⟩)

/-! ## What a create that fails has changed -/

/-- The two stores hold the same, down to the counters. -/
structure SameContents (s s' : DisplayStore) : Prop where
  records : s'.displaysById = s.displaysById
  leases : s'.leasesById = s.leasesById
  reservations : s'.connectorReservationsByDisplayId = s.connectorReservationsByDisplayId
  quarantine : s'.quarantinedConnectors = s.quarantinedConnectors
  ephemeral : s'.nextEphemeralIdentity = s.nextEphemeralIdentity
  generation : s'.nextTemporaryDisplayGeneration = s.nextTemporaryDisplayGeneration

theorem SameContents.refl (s : DisplayStore) : SameContents s s := ⟨rfl, rfl, rfl, rfl, rfl, rfl⟩

/-- The display has to be put on a connector that others have reserved. -/
structure Crowded (s : DisplayStore) (displayId : UInt64) (retainIdentity : Bool) : Prop where
  refused : s.reservedConnectorIndex displayId retainIdentity = none
  crowded : ∀ c, ¬s.OffersConnector displayId retainIdentity c
  usable : ∃ c, s.isTemporaryConnectorIndex c = true ∧ s.connectorIsUsable c = true

/-- A retained create that has to take a connector from others, of an identity that is in use. -/
structure StealsInVain (s : DisplayStore) (request : CreateTemporaryDisplayRequest) : Prop where
  room : s.displaysById.size < s.maxTemporaryDisplays.toNat
  retained : request.retainsIdentity = true
  duplicate : s.edidIdentityIsActive request.displayId = true
  crowded : s.Crowded request.displayId true

/-- Taking a connector away loses somebody a reservation. -/
theorem removeConnectorReservation_ne {displayId : UInt64} {c : UInt32}
    (hrange : s.isTemporaryConnectorIndex c = true) (husable : s.connectorIsUsable c = true)
    (hcrowded : ¬s.OffersConnector displayId true c) :
    (s.removeConnectorReservation c displayId).connectorReservationsByDisplayId ≠
      s.connectorReservationsByDisplayId := by
  intro hsame
  refine hcrowded ⟨hrange, husable, fun d hd ↦ ⟨rfl, ?_⟩⟩
  rw [← hsame, getElem?_removeConnectorReservation] at hd
  exact hd.2.resolve_right (· rfl)

/-- Once a connector is to be chosen, that is the only way to fail and change something. -/
theorem placeTemporaryDisplay_failed_iff {request : CreateTemporaryDisplayRequest}
    {ownerCapability : Option OwnerCapability} {now : TimePoint}
    (hroom : s.displaysById.size < s.maxTemporaryDisplays.toNat) :
    let after := s.placeTemporaryDisplay (validatedCreateTemporaryDisplay request)
      ownerCapability now
    (after.2.status.error ≠ .none → SameContents s after.1) ↔ ¬s.StealsInVain request := by
  intro after
  obtain ⟨reservations, c, hplaced, hchoice⟩ | ⟨hnone, hchoice⟩ :=
    s.connectorIndexForDisplay_placed request.displayId request.retainsIdentity
  · have hrange : DisplayStore.isTemporaryConnectorIndex
        { s with connectorReservationsByDisplayId := reservations } c = true := hplaced.inRange
    have hactive : DisplayStore.edidIdentityIsActive
        { s with connectorReservationsByDisplayId := reservations } request.displayId =
          s.edidIdentityIsActive request.displayId := rfl
    have hafter : after = _ := placeTemporaryDisplay_of_choice hchoice
    rw [hrange, hactive, Bool.not_true, if_neg Bool.false_ne_true] at hafter
    by_cases hduplicate :
        (request.retainsIdentity && s.edidIdentityIsActive request.displayId) = true
    · obtain ⟨hretained, hidentity⟩ := Bool.and_eq_true_iff.mp hduplicate
      rw [if_pos hduplicate] at hafter
      rw [hafter]
      rw [hretained] at hplaced
      cases hplaced with
      | reserved hreserved =>
        refine ⟨fun _ hsteals ↦ ?_, fun _ _ ↦ .refl s⟩
        rw [hsteals.crowded.refused] at hreserved
        cases hreserved
      | unreserved _ hoffers =>
        exact ⟨fun _ hsteals ↦ hsteals.crowded.crowded c hoffers, fun _ _ ↦ .refl s⟩
      | stolen hrefused hcrowded hinRange husable =>
        have hlost := removeConnectorReservation_ne hinRange husable (hcrowded c)
        exact ⟨fun h ↦ absurd (h nofun).reservations hlost, fun h ↦
          absurd ⟨hroom, hretained, hidentity, hrefused, hcrowded, c, hrange, husable⟩ h⟩
    · rw [if_neg hduplicate] at hafter
      rw [hafter]
      refine ⟨fun _ hsteals ↦ hduplicate ?_, fun _ herror ↦ absurd rfl herror⟩
      rw [hsteals.retained, hsteals.duplicate]
      rfl
  · have hafter : after = _ := placeTemporaryDisplay_of_choice hchoice
    rw [not_isTemporaryConnectorIndex_limit, Bool.not_false, if_pos rfl] at hafter
    rw [hafter]
    refine ⟨fun _ hsteals ↦ ?_, fun _ _ ↦ .refl s⟩
    obtain ⟨c, hrange, husable⟩ := hsteals.crowded.usable
    rw [hnone c hrange] at husable
    cases husable

/-- A create that is not allowed does nothing. -/
theorem apply_of_not_createAllowed {op : StoreOp} {request : CreateTemporaryDisplayRequest}
    (hop : op.createRequest? = some request) (h : ¬op.CreateAllowed s) : op.apply s = s := by
  cases op with
  | createTemporaryDisplay request now =>
    exact createTemporaryDisplayImpl_refused fun haccepted ↦ h (.plain haccepted)
  | createTemporaryDisplayOwned request now =>
    rw [StoreOp.apply, createTemporaryDisplayOwned.eq_def]
    split
    case h_2 => rfl
    case h_1 hvalid =>
      exact createTemporaryDisplayImpl_refused fun haccepted ↦ h (.owned hvalid haccepted)
  | _ => cases hop

/-- **When a failing create changes nothing.**  A create that fails leaves the store as it was iff
it is not an allowed one that has to take a connector from others for an identity in use. -/
theorem create_failed_iff (s : DisplayStore) (op : StoreOp) :
    (∀ result, op.createResult? s = some result → result.status.error ≠ .none →
        SameContents s (op.apply s)) ↔
      ¬(op.CreateAllowed s ∧ ∃ request, op.createRequest? = some request ∧
        s.StealsInVain request) := by
  by_cases hop : op.CreateAllowed s
  · obtain ⟨request, ownerCapability, now, hrequest, haccepted, happly, hresult⟩ :=
      createAllowed_impl hop
    have hiff : (∃ request, op.createRequest? = some request ∧ s.StealsInVain request) ↔
        s.StealsInVain request := by simp [hrequest]
    have hforall : (∀ result, op.createResult? s = some result → result.status.error ≠ .none →
        SameContents s (op.apply s)) ↔
          ((s.createTemporaryDisplayImpl request ownerCapability now).2.status.error ≠ .none →
            SameContents s (s.createTemporaryDisplayImpl request ownerCapability now).1) := by
      simp [hresult, happly]
    rw [hforall, hiff, and_iff_right hop, createTemporaryDisplayImpl_accepted haccepted]
    split_ifs with hfull
    · exact ⟨fun _ hsteals ↦ Nat.not_le.mpr hsteals.room hfull, fun _ _ ↦ .refl s⟩
    · exact placeTemporaryDisplay_failed_iff (Nat.not_le.mp hfull)
  · refine ⟨fun _ h ↦ hop h.1, fun _ result hresult _ ↦ ?_⟩
    cases hrequest : op.createRequest? with
    | some request =>
      rw [apply_of_not_createAllowed hrequest hop]
      exact .refl s
    | none => cases op <;> simp_all [StoreOp.createResult?, StoreOp.createRequest?]

/-- Display 5 has reserved its connector, display 1 is on the other; a create of a display with the
identity of display 1 fails, and display 5 has no reservation any more. -/
theorem duplicate_loses_reservation :
    ¬∀ (s : DisplayStore) (op : StoreOp) (result : CreateStoreResult),
      op.createResult? s = some result → result.status.error ≠ .none →
        SameContents s (op.apply s) := by
  intro h
  let s := DisplayStore.execute (.new 4 2)
    [.createTemporaryDisplay (exampleRequest kMinOpaqueLeaseId 5) 0,
      .removeTemporaryDisplay { leaseId := kMinOpaqueLeaseId, displayId := 5 }
        .retainConnectorReservation,
      .createTemporaryDisplay (exampleRequest kMinOpaqueLeaseId 1) 0]
  let op : StoreOp :=
    .createTemporaryDisplay (exampleRequest kMinOpaqueLeaseId 0x0000100000001001) 0
  have hbefore : s.connectorReservationsByDisplayId[(5 : UInt64)]? = some 4 := by decide
  have hafter : (op.apply s).connectorReservationsByDisplayId[(5 : UInt64)]? = none := by
    decide
  have hsame := (h s op _ rfl (by decide)).reservations
  rw [hsame, hbefore] at hafter
  cases hafter

end DisplayStore

end VirtualDisplay
