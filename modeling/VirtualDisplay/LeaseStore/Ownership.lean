import VirtualDisplay.LeaseStore.Leases
import VirtualDisplay.Lib.Run

/-!
# Who may read the pixels of a display

The frame transport hands out the pixels of a temporary display to the holder of an owner
capability, after `authorizeTemporaryDisplayOwner` has agreed.  What it is meant to promise is
`PixelAccess`: whoever is let in for a display created that display by an owned create with the
very capability.

The store keeps the capability with the lease, though, and not with the display, and a lease can
collect displays from both kinds of create.  `pixelAccess_iff` is what follows: the promise holds
throughout a run exactly when every create that joins an existing lease is of the kind the lease
already is.  `plainCreate_readable` is the shortest run that breaks it.

## What is here

* `exists_authorize_iff` — when somebody is let in: the lease of the record has the capability that
  is presented, and has not expired.
* `CreateChange`, `createTemporaryDisplayImpl_change`, `leaseOwner_commit` — what a create does to
  the capability of each lease.
* `JoinsItsKind` — the condition on one create: the lease that it joins has the capability that it
  presents, or none if it presents none.
* `CreatedWith`, `CreatedWith.unique` — the create in the run that a record comes from.
* `pixelAccess_iff` — the promise, for any run, iff every create of the run meets the condition.

Reclaims are no exception: the new lease takes over the capability of the old one
(`RecordChange.leaseOwner`).
-/

set_option autoImplicit false

namespace VirtualDisplay

open Std

namespace DisplayStore

variable {s s' : DisplayStore}

/-! ## The capability behind a record -/

/-- The capability the lease holds. -/
def leaseOwner (s : DisplayStore) (leaseId : UInt64) : Option OwnerCapability :=
  s.leasesById[leaseId]?.bind LeaseRecord.ownerCapability

theorem authorizeTemporaryDisplayOwner_eq_some {request : LeaseDisplayRequest}
    {ownerCapability : OwnerCapability} {now : TimePoint} {display : TemporaryDisplayRecord} :
    s.authorizeTemporaryDisplayOwner request ownerCapability now = some display ↔
      validateLeaseDisplayRequest request = .none ∧
      s.displaysById[request.displayId]? = some display ∧ display.leaseId = request.leaseId ∧
      display.pendingDeparture = false ∧ now < display.expiresAt ∧
      ∃ lease, s.leasesById[request.leaseId]? = some lease ∧ now < lease.expiresAt ∧
        lease.ownerCapability = some ownerCapability := by
  unfold authorizeTemporaryDisplayOwner
  by_cases hvalid : validateLeaseDisplayRequest request = .none
  · cases hdisplay : s.displaysById[request.displayId]? with
    | none => simp [hvalid]
    | some record =>
      cases hlease : s.leasesById[request.leaseId]? with
      | none => simp [hvalid]
      | some lease =>
        simp only [hvalid, ne_eq, not_true_eq_false, if_false, Option.some_inj, true_and]
        by_cases hrefused : record.leaseId ≠ request.leaseId ∨ record.pendingDeparture ∨
            lease.expiresAt ≤ now ∨ record.expiresAt ≤ now ∨
            (!lease.isOwnedBy ownerCapability) = true
        · rw [if_pos hrefused]
          refine ⟨nofun, ?_⟩
          rintro ⟨rfl, h₁, h₂, h₃, l, hl, h₄, h₅⟩
          cases hl
          rw [← LeaseRecord.isOwnedBy_iff] at h₅
          rcases hrefused with h | h | h | h | h
          · exact absurd h₁ h
          · rw [h₂] at h; cases h
          · exact absurd h₄ (Int.not_lt.mpr h)
          · exact absurd h₃ (Int.not_lt.mpr h)
          · rw [h₅] at h; cases h
        · rw [if_neg hrefused, Option.some_inj]
          simp only [not_or, Int.not_le, Bool.not_eq_true, Bool.not_eq_eq_eq_not, Bool.not_true,
            Bool.not_eq_false, ne_eq, not_not] at hrefused
          obtain ⟨h₁, h₂, h₃, h₄, h₅⟩ := hrefused
          refine ⟨?_, fun h ↦ h.1⟩
          intro heq
          subst heq
          exact ⟨rfl, h₁, h₂, h₄, lease, rfl, h₃, LeaseRecord.isOwnedBy_iff.mp h₅⟩
  · simp [hvalid]

theorem leaseOwner_eq_some {leaseId : UInt64} {ownerCapability : OwnerCapability} :
    s.leaseOwner leaseId = some ownerCapability ↔
      ∃ lease, s.leasesById[leaseId]? = some lease ∧
        lease.ownerCapability = some ownerCapability := Option.bind_eq_some_iff

/-- Until it expires, a display can be read with the capability of its lease and no other. -/
theorem exists_authorize_iff {d : UInt64} {r : TemporaryDisplayRecord}
    {ownerCapability : OwnerCapability} (hr : s.displaysById[d]? = some r) (hd : d ≠ 0)
    (hlease : kMinOpaqueLeaseId ≤ r.leaseId) (hlive : r.pendingDeparture = false) :
    (∃ request now display, request.displayId = d ∧
      s.authorizeTemporaryDisplayOwner request ownerCapability now = some display) ↔
      s.leaseOwner r.leaseId = some ownerCapability := by
  rw [leaseOwner_eq_some]
  constructor
  · rintro ⟨request, now, display, rfl, h⟩
    obtain ⟨-, hdisplay, hid, -, -, lease, hlease, -, howner⟩ :=
      authorizeTemporaryDisplayOwner_eq_some.mp h
    rw [hr, Option.some_inj] at hdisplay
    subst hdisplay
    exact ⟨lease, hid ▸ hlease, howner⟩
  · rintro ⟨lease, hl, howner⟩
    -- any time before both deadlines will do
    refine ⟨{ leaseId := r.leaseId, displayId := d }, min r.expiresAt lease.expiresAt - 1, r, rfl,
      authorizeTemporaryDisplayOwner_eq_some.mpr ⟨?_, hr, rfl, hlive, ?_, lease, hl, ?_, howner⟩⟩
    · exact validateLeaseDisplayRequest_eq_none.mpr ⟨rfl, hlease, hd⟩
    · exact Int.sub_one_lt_of_le (Int.min_le_left ..)
    · exact Int.sub_one_lt_of_le (Int.min_le_right ..)

/-- Upkeep moves no display to another capability. -/
theorem RecordChange.leaseOwner (h : RecordChange s s') {d : UInt64}
    {r' : TemporaryDisplayRecord} (hr' : s'.displaysById[d]? = some r') :
    ∃ r, s.displaysById[d]? = some r ∧ s'.leaseOwner r'.leaseId = s.leaseOwner r.leaseId := by
  cases h with
  | bookkeeping | manifestApplied => exact ⟨r', hr', rfl⟩
  | marked hdisplay =>
    rw [OrdMap.getElem?_insert] at hr'
    split_ifs at hr' with hd
    · cases hd; cases hr'
      exact ⟨_, hdisplay, rfl⟩
    · exact ⟨r', hr', rfl⟩
  | @erased displayId display hdisplay =>
    rw [eraseDisplay_displaysById, OrdMap.getElem?_erase] at hr'
    split_ifs at hr' with hd
    refine ⟨r', hr', ?_⟩
    obtain ⟨hleases, -⟩ | ⟨hleases, hlast⟩ := s.eraseDisplay_leasesById displayId display.leaseId
    · rw [DisplayStore.leaseOwner, hleases]
      rfl
    · rw [DisplayStore.leaseOwner, hleases, OrdMap.getElem?_erase,
        if_neg (Ne.symm (hlast d r' hd hr'))]
      rfl
  | @fed leaseId lease timeoutMs expiresAt hlease =>
    rw [OrdMap.getElem?_map, Option.map_eq_some_iff] at hr'
    obtain ⟨r, hr, rfl⟩ := hr'
    refine ⟨r, hr, ?_⟩
    rw [feedRecord_leaseId, DisplayStore.leaseOwner, DisplayStore.leaseOwner,
      OrdMap.getElem?_insert]
    split_ifs with hid
    · rw [← hid, hlease]
      rfl
    · rfl
  | released leaseId =>
    obtain ⟨hr, hne⟩ := OrdMap.getElem?_eraseIf_eq_some.mp hr'
    rw [beq_eq_false_iff_ne] at hne
    refine ⟨r', hr, ?_⟩
    rw [DisplayStore.leaseOwner, OrdMap.getElem?_erase, if_neg (Ne.symm hne)]
    rfl

/-- Neither does a reclaim: the new lease takes over the capability of the old one. -/
theorem leaseOwner_rotateLease (hc : s.LeasesConsistent) {display : TemporaryDisplayRecord}
    {newLeaseId : UInt64} {lease : LeaseRecord} {timeoutMs : UInt32} {expiresAt : TimePoint}
    (hlease : s.leasesById[display.leaseId]? = some lease)
    (hunused : s.leasesById[newLeaseId]? = none) {d : UInt64} {r' : TemporaryDisplayRecord}
    (hr' : (s.rotateLease display.leaseId newLeaseId timeoutMs expiresAt
      lease.ownerCapability).displaysById[d]? = some r') :
    ∃ r, s.displaysById[d]? = some r ∧
      (s.rotateLease display.leaseId newLeaseId timeoutMs expiresAt
        lease.ownerCapability).leaseOwner r'.leaseId = s.leaseOwner r.leaseId := by
  rw [getElem?_rotateLease, Option.map_eq_some_iff] at hr'
  rcases hr' with ⟨r, hr, rfl⟩
  refine ⟨r, hr, ?_⟩
  rw [rotateRecord_leaseId, DisplayStore.leaseOwner, rotateLease, OrdMap.getElem?_insert,
    OrdMap.getElem?_erase]
  by_cases hold : r.leaseId = display.leaseId
  · rw [if_pos hold, if_pos rfl, hold, DisplayStore.leaseOwner, hlease]
    rfl
  · have hne : newLeaseId ≠ r.leaseId := fun heq ↦ by
      have := (hc.named newLeaseId).mpr ⟨d, r, hr, heq.symm⟩
      rw [hunused] at this
      cases this
    rw [if_neg hold, if_neg hne, if_neg (Ne.symm hold)]
    rfl

theorem Keeps.leaseOwner (h : Keeps s s') {d : UInt64} {r' : TemporaryDisplayRecord}
    (hr' : s'.displaysById[d]? = some r') :
    ∃ r, s.displaysById[d]? = some r ∧ s'.leaseOwner r'.leaseId = s.leaseOwner r.leaseId := by
  induction h generalizing r' with
  | refl => exact ⟨r', hr', rfl⟩
  | tail _ hstep ih =>
    rcases hstep.leaseOwner hr' with ⟨r, hr, howner⟩
    rcases ih hr with ⟨r₀, hr₀, howner₀⟩
    exact ⟨r₀, hr₀, howner.trans howner₀⟩

/-- Where a create leaves the capability of each lease. -/
theorem leaseOwner_commit (s : DisplayStore) (validated : ValidatedCreateTemporaryDisplay)
    (ownerCapability : Option OwnerCapability) (now : TimePoint) (connectorIndex : UInt32)
    (retainIdentity : Bool) (leaseId : UInt64) :
    (s.commitTemporaryDisplay validated ownerCapability now connectorIndex
      retainIdentity).1.leaseOwner leaseId =
    if validated.request.leaseId = leaseId then (s.leaseOwner leaseId).or ownerCapability
    else s.leaseOwner leaseId := by
  rw [DisplayStore.leaseOwner, commitTemporaryDisplay, OrdMap.getElem?_insert]
  split_ifs with hid
  · subst hid
    rw [createdLease, DisplayStore.leaseOwner]
    cases s.leasesById[validated.request.leaseId]? <;> rfl
  · rfl

/-! ## Creates -/

/-- The operation succeeds in creating the display, and presents that capability; a plain create
presents none. -/
def Creates (s : DisplayStore) (d : UInt64) (presented : Option OwnerCapability) :
    StoreOp → Prop
  | .createTemporaryDisplay request now =>
    request.displayId = d ∧ presented = none ∧
      (s.createTemporaryDisplay request now).2.status.error = .none
  | .createTemporaryDisplayOwned request now =>
    request.display.displayId = d ∧ presented = some request.ownerCapability ∧
      (s.createTemporaryDisplayOwned request now).2.status.error = .none
  | _ => False

/-- A create that joins an existing lease is of the kind the lease is: owned exactly if the lease
holds a capability. -/
def JoinsItsKind (s : DisplayStore) : StoreOp → Prop
  | .createTemporaryDisplay request now =>
    (s.createTemporaryDisplay request now).2.status.error = .none →
      ∀ lease, s.leasesById[request.leaseId]? = some lease → lease.ownerCapability = none
  | .createTemporaryDisplayOwned request now =>
    (s.createTemporaryDisplayOwned request now).2.status.error = .none →
      ∀ lease, s.leasesById[request.display.leaseId]? = some lease →
        lease.ownerCapability ≠ none
  | _ => True

/-- A create in terms of the change it makes. -/
structure CreateChange (s s' : DisplayStore) (d leaseId : UInt64)
    (presented : Option OwnerCapability) : Prop where
  absent : s.displaysById[d]? = none
  /-- The record of the display is new, and the others are left alone. -/
  created : ∃ r, r.leaseId = leaseId ∧ r.pendingDeparture = false ∧
    s'.displaysById = s.displaysById.insert d r
  owner : ∀ l, s'.leaseOwner l =
    if leaseId = l then (s.leaseOwner l).or presented else s.leaseOwner l
  /-- A lease that is joined has no pending record and no other capability. -/
  settled : ∀ lease, s.leasesById[leaseId]? = some lease →
    s.leaseHasPendingDeparture leaseId = false ∧
      ∀ held, lease.ownerCapability = some held → presented = none ∨ presented = some held
  id_ne_zero : d ≠ 0
  leaseId_valid : kMinOpaqueLeaseId ≤ leaseId

theorem CreateAccepted.change {request : CreateTemporaryDisplayRequest}
    {presented : Option OwnerCapability} {now : TimePoint}
    (h : s.CreateAccepted request presented now) (reservations : OrdMap UInt64 UInt32)
    (connectorIndex : UInt32) (retainIdentity : Bool) :
    CreateChange s
      (DisplayStore.commitTemporaryDisplay
        { s with connectorReservationsByDisplayId := reservations }
        (validatedCreateTemporaryDisplay request) presented now connectorIndex retainIdentity).1
      request.displayId request.leaseId presented where
  absent := h.absent
  created := ⟨_, createdRecord_leaseId .., rfl, rfl⟩
  owner l := leaseOwner_commit ..
  settled lease hlease := by
    have haccepts := h.accepts
    rw [hlease] at haccepts
    simp only [leaseRefusesDisplays, Option.any_some, Bool.or_eq_false_iff] at haccepts
    refine ⟨haccepts.2, fun held hheld ↦ ?_⟩
    have howned := h.owned
    rw [hlease] at howned
    cases presented with
    | none => exact .inl rfl
    | some presented =>
      simp only [leaseOwnedByOther, Option.bind_some, hheld, Bool.not_eq_eq_eq_not,
        Bool.not_false] at howned
      exact .inr (congrArg some (ownerCapabilitiesEqual_iff.mp howned).symm)
  id_ne_zero := (validateCreateTemporaryDisplay_ids h.valid).2.2
  leaseId_valid := (validateCreateTemporaryDisplay_ids h.valid).2.1

/-- A create either makes its change or creates no record. -/
theorem createTemporaryDisplayImpl_change (s : DisplayStore)
    (request : CreateTemporaryDisplayRequest) (presented : Option OwnerCapability)
    (now : TimePoint) :
    ((s.createTemporaryDisplayImpl request presented now).2.status.error = .none ∧
      CreateChange s (s.createTemporaryDisplayImpl request presented now).1 request.displayId
        request.leaseId presented) ∨
    ((s.createTemporaryDisplayImpl request presented now).2.status.error ≠ .none ∧
      Keeps s (s.createTemporaryDisplayImpl request presented now).1) := by
  obtain ⟨reservations, ⟨haccepted, connectorIndex, retainIdentity, -, -, h⟩ | ⟨h, herror⟩⟩ :=
    s.createTemporaryDisplayImpl_cases request presented now
  · rw [h]
    exact .inl ⟨rfl, haccepted.change reservations connectorIndex retainIdentity⟩
  · refine .inr ⟨herror, ?_⟩
    rw [h]
    exact .single (.bookkeeping _ _)

/-- A lease that is joined is of the kind of the create exactly if it holds what is presented. -/
theorem CreateChange.owner_eq_iff {d leaseId : UInt64} {presented : OwnerCapability}
    (h : CreateChange s s' d leaseId (some presented)) {lease : LeaseRecord}
    (hlease : s.leasesById[leaseId]? = some lease) :
    lease.ownerCapability ≠ none ↔ lease.ownerCapability = some presented := by
  refine ⟨fun hne ↦ ?_, fun heq ↦ by rw [heq]; nofun⟩
  obtain ⟨held, hheld⟩ := Option.ne_none_iff_exists'.mp hne
  obtain hnone | heq := (h.settled lease hlease).2 held hheld
  · cases hnone
  · rw [hheld, heq]

/-- What one operation does, as far as the capabilities behind the records go. -/
theorem creates_or_keeps (s : DisplayStore) (op : StoreOp) :
    (∃ d leaseId presented, s.Creates d presented op ∧
      CreateChange s (op.apply s) d leaseId presented ∧
      (s.JoinsItsKind op ↔ ∀ lease, s.leasesById[leaseId]? = some lease →
        lease.ownerCapability = presented)) ∨
    ((∀ d presented, ¬s.Creates d presented op) ∧ s.JoinsItsKind op ∧
      (s.LeasesConsistent → ∀ (d : UInt64) (r' : TemporaryDisplayRecord),
        (op.apply s).displaysById[d]? = some r' →
        ∃ r, s.displaysById[d]? = some r ∧
          (op.apply s).leaseOwner r'.leaseId = s.leaseOwner r.leaseId)) := by
  cases op with
  | createTemporaryDisplay request now =>
    obtain ⟨herror, hchange⟩ | ⟨herror, hkeeps⟩ :=
      s.createTemporaryDisplayImpl_change request none now
    · exact .inl ⟨_, _, none, ⟨rfl, rfl, herror⟩, hchange, fun h ↦ h herror, fun h _ ↦ h⟩
    · exact .inr ⟨fun _ _ h ↦ herror h.2.2, fun h ↦ absurd h herror,
        fun _ _ _ hr' ↦ hkeeps.leaseOwner hr'⟩
  | createTemporaryDisplayOwned request now =>
    obtain ⟨-, heq⟩ | ⟨heq, herror⟩ := s.createTemporaryDisplayOwned_cases request now
    · obtain ⟨herror, hchange⟩ | ⟨herror, hkeeps⟩ :=
        s.createTemporaryDisplayImpl_change request.display (some request.ownerCapability) now
      · rw [← heq] at herror hchange
        refine .inl ⟨_, _, _, ⟨rfl, rfl, herror⟩, hchange, fun h lease hlease ↦ ?_,
          fun h _ lease hlease ↦ ?_⟩
        · exact (hchange.owner_eq_iff hlease).mp (h herror lease hlease)
        · exact (hchange.owner_eq_iff hlease).mpr (h lease hlease)
      · rw [← heq] at herror hkeeps
        exact .inr ⟨fun _ _ h ↦ herror h.2.2, fun h ↦ absurd h herror,
          fun _ _ _ hr' ↦ hkeeps.leaseOwner hr'⟩
    · refine .inr ⟨fun _ _ h ↦ herror h.2.2, fun h ↦ absurd h herror, fun _ d r' hr' ↦ ?_⟩
      rw [StoreOp.apply, heq] at hr' ⊢
      exact ⟨r', hr', rfl⟩
  | reclaimTemporaryDisplay request now =>
    refine .inr ⟨fun _ _ ↦ id, trivial, fun hc d r' hr' ↦ ?_⟩
    rcases s.reclaimTemporaryDisplay_cases request now with
      ⟨display, lease, -, -, hlease, -, -, -, -, hunused, h⟩ | ⟨h, -⟩
    · rw [StoreOp.apply, h] at hr' ⊢
      exact leaseOwner_rotateLease hc hlease hunused hr'
    · rw [StoreOp.apply, h] at hr' ⊢
      exact ⟨r', hr', rfl⟩
  | _ =>
    exact .inr ⟨fun _ _ ↦ id, trivial, fun _ _ _ hr' ↦
      Keeps.leaseOwner (StoreOp.keeps s rfl) hr'⟩

/-! ## The create a record comes from -/

/-- The record of the display was created in the run, by an operation that presented this
capability, and has been there ever since. -/
def CreatedWith (s : DisplayStore) (ops : List StoreOp) (d : UInt64)
    (presented : Option OwnerCapability) : Prop :=
  ∃ before op after, ops = before ++ op :: after ∧ (s.execute before).Creates d presented op ∧
    ∀ later, later <+: after → ((s.execute (before ++ op :: later)).displaysById[d]?).isSome

theorem execute_concat (s : DisplayStore) (ops : List StoreOp) (op : StoreOp) :
    s.execute (ops ++ [op]) = op.apply (s.execute ops) := List.foldl_concat ..

/-- The create of a record is the last operation, or it is earlier in the run and the record was
already there. -/
theorem CreatedWith.of_concat {ops : List StoreOp} {op : StoreOp} {d : UInt64}
    {presented : Option OwnerCapability} (h : CreatedWith s (ops ++ [op]) d presented) :
    (s.execute ops).Creates d presented op ∨
      (CreatedWith s ops d presented ∧ ((s.execute ops).displaysById[d]?).isSome) := by
  obtain ⟨before, op', after, heq, hcreates, hpresent⟩ := h
  obtain rfl | ⟨after, last, rfl⟩ := List.eq_nil_or_concat after
  · obtain ⟨rfl, hop⟩ := List.append_inj' heq rfl
    cases hop
    exact .inl hcreates
  · rw [List.concat_eq_append, ← List.cons_append, ← List.append_assoc] at heq
    obtain ⟨rfl, -⟩ := List.append_inj' heq rfl
    refine .inr ⟨⟨before, op', after, rfl, hcreates, fun later hlater ↦ ?_⟩, ?_⟩
    · exact hpresent later (hlater.trans (by simp))
    · exact hpresent after (by simp)

theorem CreatedWith.concat {ops : List StoreOp} {d : UInt64} {presented : Option OwnerCapability}
    (h : CreatedWith s ops d presented) {op : StoreOp}
    (hpresent : (((op.apply (s.execute ops)).displaysById)[d]?).isSome) :
    CreatedWith s (ops ++ [op]) d presented := by
  obtain ⟨before, op', after, rfl, hcreates, hbefore⟩ := h
  refine ⟨before, op', after ++ [op], by simp, hcreates, fun later hlater ↦ ?_⟩
  rw [List.prefix_concat_iff] at hlater
  obtain rfl | hlater := hlater
  · rw [← execute_concat] at hpresent
    simpa using hpresent
  · exact hbefore later hlater

theorem Creates.createdWith {ops : List StoreOp} {op : StoreOp} {d : UInt64}
    {presented : Option OwnerCapability} (h : (s.execute ops).Creates d presented op)
    (hpresent : (((op.apply (s.execute ops)).displaysById)[d]?).isSome) :
    CreatedWith s (ops ++ [op]) d presented := by
  refine ⟨ops, op, [], rfl, h, fun later hlater ↦ ?_⟩
  rw [List.prefix_nil.mp hlater, execute_concat]
  exact hpresent

theorem Creates.functional {op : StoreOp} {d d' : UInt64}
    {presented presented' : Option OwnerCapability}
    (h : s.Creates d presented op) (h' : s.Creates d' presented' op) :
    d = d' ∧ presented = presented' := by
  cases op with
  | createTemporaryDisplay | createTemporaryDisplayOwned =>
    exact ⟨h.1.symm.trans h'.1, h.2.1.trans h'.2.1.symm⟩
  | _ => exact h.elim

/-- Only a display that has no record can be created. -/
theorem Creates.absent {op : StoreOp} {d : UInt64} {presented : Option OwnerCapability}
    (h : s.Creates d presented op) : s.displaysById[d]? = none := by
  obtain ⟨d', leaseId, presented', h', hchange, -⟩ | ⟨hno, -⟩ := s.creates_or_keeps op
  · rw [(h.functional h').1]
    exact hchange.absent
  · exact absurd h (hno d presented)

theorem not_createdWith_nil {d : UInt64} {presented : Option OwnerCapability} :
    ¬CreatedWith s [] d presented := by
  rintro ⟨before, op, after, heq, -⟩
  exact List.cons_ne_nil _ _ (List.append_eq_nil_iff.mp heq.symm).2

/-- A record comes from one create only. -/
theorem CreatedWith.unique {ops : List StoreOp} {d : UInt64}
    {presented presented' : Option OwnerCapability} (h : CreatedWith s ops d presented)
    (h' : CreatedWith s ops d presented') : presented = presented' := by
  induction ops using List.reverseRecOn with
  | nil => exact absurd h not_createdWith_nil
  | append_singleton ops op ih =>
    obtain hlast | ⟨hearlier, hpresent⟩ := h.of_concat
    · obtain hlast' | ⟨-, hpresent'⟩ := h'.of_concat
      · exact (hlast.functional hlast').2
      · rw [hlast.absent] at hpresent'
        cases hpresent'
    · obtain hlast' | ⟨hearlier', -⟩ := h'.of_concat
      · rw [hlast'.absent] at hpresent
        cases hpresent
      · exact ih hearlier hearlier'

/-! ## The promise, and when it is kept -/

/-- Whoever is authorized for a display created it by an owned create with that capability. -/
def PixelAccess (s : DisplayStore) (ops : List StoreOp) : Prop :=
  ∀ request ownerCapability now display,
    (s.execute ops).authorizeTemporaryDisplayOwner request ownerCapability now = some display →
      CreatedWith s ops request.displayId (some ownerCapability)

/-- Every record was created with the capability its lease holds now. -/
def OwnersCreated (s : DisplayStore) (ops : List StoreOp) : Prop :=
  ∀ (d : UInt64) (r : TemporaryDisplayRecord), (s.execute ops).displaysById[d]? = some r →
    CreatedWith s ops d ((s.execute ops).leaseOwner r.leaseId)

theorem OwnersCreated.pixelAccess {ops : List StoreOp} (h : OwnersCreated s ops) :
    PixelAccess s ops := by
  intro request ownerCapability now display hauthorized
  obtain ⟨-, hdisplay, hid, -, -, lease, hlease, -, howner⟩ :=
    authorizeTemporaryDisplayOwner_eq_some.mp hauthorized
  have howner' : (s.execute ops).leaseOwner display.leaseId = some ownerCapability :=
    leaseOwner_eq_some.mpr ⟨lease, hid ▸ hlease, howner⟩
  rw [← howner']
  exact h request.displayId display hdisplay

theorem OwnersCreated.concat {ops : List StoreOp} (h : OwnersCreated s ops)
    (hc : (s.execute ops).LeasesConsistent) {op : StoreOp}
    (hop : (s.execute ops).JoinsItsKind op) : OwnersCreated s (ops ++ [op]) := by
  intro d r' hr'
  rw [execute_concat] at hr' ⊢
  have hpresent : (((op.apply (s.execute ops)).displaysById)[d]?).isSome := by rw [hr']; rfl
  obtain ⟨d₀, leaseId, presented, hcreates, hchange, hkind⟩ | ⟨-, -, hkeeps⟩ :=
    (s.execute ops).creates_or_keeps op
  · -- joining a lease of its own kind, the create changes no capability
    have hor : ∀ lease, (s.execute ops).leasesById[leaseId]? = some lease →
        (s.execute ops).leaseOwner leaseId = presented := fun lease hlease ↦ by
      rw [DisplayStore.leaseOwner, hlease]
      exact hkind.mp hop lease hlease
    obtain ⟨r₀, hr₀, -, hinsert⟩ := hchange.created
    rw [hinsert, OrdMap.getElem?_insert] at hr'
    rw [hchange.owner]
    by_cases hd : d₀ = d
    · subst hd
      rw [if_pos rfl, Option.some_inj] at hr'
      rw [← hr', if_pos hr₀.symm, hr₀]
      have howner : ((s.execute ops).leaseOwner leaseId).or presented = presented := by
        cases hlease : (s.execute ops).leasesById[leaseId]? with
        | none => rw [DisplayStore.leaseOwner, hlease]; rfl
        | some lease => rw [hor lease hlease, Option.or_self]
      rw [howner]
      exact hcreates.createdWith hpresent
    · rw [if_neg hd] at hr'
      have howner : (if leaseId = r'.leaseId then
            ((s.execute ops).leaseOwner r'.leaseId).or presented
          else (s.execute ops).leaseOwner r'.leaseId) = (s.execute ops).leaseOwner r'.leaseId := by
        split_ifs with hid
        · obtain ⟨lease, hlease⟩ := hc.lease_of_record hr'
          rw [← hid] at hlease ⊢
          rw [hor lease hlease, Option.or_self]
        · rfl
      rw [howner]
      exact (h d r' hr').concat hpresent
  · obtain ⟨r, hr, howner⟩ := hkeeps hc d r' hr'
    rw [howner]
    exact (h d r hr).concat hpresent

/-- If the promise still holds after it, the last operation has joined a lease of its own kind:
otherwise a display made by a plain create can be read, the new one or one that was under the
lease before. -/
theorem JoinsItsKind.of_pixelAccess {ops : List StoreOp} (h : OwnersCreated s ops)
    (hc : (s.execute ops).LeasesConsistent) (hkeyed : (s.execute ops).RecordsKeyed) {op : StoreOp}
    (haccess : PixelAccess s (ops ++ [op])) : (s.execute ops).JoinsItsKind op := by
  obtain ⟨d, leaseId, presented, hcreates, hchange, hkind⟩ | ⟨-, hkind, -⟩ :=
    (s.execute ops).creates_or_keeps op
  · -- a live record under the lease can be read with what the lease holds now
    have hread : ∀ (d' : UInt64) (r : TemporaryDisplayRecord) (held : OwnerCapability),
        (op.apply (s.execute ops)).displaysById[d']? = some r → d' ≠ 0 → r.leaseId = leaseId →
        r.pendingDeparture = false →
        ((s.execute ops).leaseOwner leaseId).or presented = some held →
        CreatedWith s (ops ++ [op]) d' (some held) := by
      intro d' r held hr hd' hid hlive hheld
      have howner : (op.apply (s.execute ops)).leaseOwner r.leaseId = some held := by
        rw [hchange.owner, if_pos hid.symm, hid, hheld]
      obtain ⟨request, now, display, rfl, hauthorized⟩ :=
        (exists_authorize_iff hr hd' (hid ▸ hchange.leaseId_valid) hlive).mpr howner
      rw [← execute_concat] at hauthorized
      exact haccess request held now display hauthorized
    obtain ⟨r₀, hr₀, hlive₀, hinsert⟩ := hchange.created
    have hnew : (op.apply (s.execute ops)).displaysById[d]? = some r₀ := by
      rw [hinsert, OrdMap.getElem?_insert, if_pos rfl]
    refine hkind.mpr fun lease hlease ↦ ?_
    have howner : (s.execute ops).leaseOwner leaseId = lease.ownerCapability := by
      rw [DisplayStore.leaseOwner, hlease]
      rfl
    obtain ⟨hsettled, hsame⟩ := hchange.settled lease hlease
    cases hheld : lease.ownerCapability with
    | some held =>
      obtain hnone | hsome := hsame held hheld
      · have hcreated := hread d r₀ held hnew hchange.id_ne_zero hr₀ hlive₀
          (by rw [howner, hheld]; rfl)
        exact hcreated.unique (hcreates.createdWith (by rw [hnew]; rfl))
      · exact hsome.symm
    | none =>
      cases hpresented : presented with
      | none => rfl
      | some held =>
        obtain ⟨d', r, hr, hid⟩ := (hc.named leaseId).mp (by rw [hlease]; rfl)
        have hne : d ≠ d' := fun heq ↦ by
          have habsent := hchange.absent
          rw [heq, hr] at habsent
          cases habsent
        have hr' : (op.apply (s.execute ops)).displaysById[d']? = some r := by
          rw [hinsert, OrdMap.getElem?_insert, if_neg hne, hr]
        have hcreated := hread d' r held hr' (hkeyed d' r hr).2.1 hid
          (leaseHasPendingDeparture_eq_false.mp hsettled d' r hr hid)
          (by rw [howner, hheld, hpresented]; rfl)
        have hplain : CreatedWith s (ops ++ [op]) d' ((s.execute ops).leaseOwner r.leaseId) :=
          (h d' r hr).concat (by rw [hr']; rfl)
        rw [hid, howner, hheld] at hplain
        exact hplain.unique hcreated
  · exact hkind

section

variable (maxPermanentDisplays maxTemporaryDisplays : UInt32)
  (reservations : OrdMap UInt64 UInt32) (initialManifest : Option DisplayManifest)

theorem ownersCreated_nil :
    OwnersCreated (.new maxPermanentDisplays maxTemporaryDisplays reservations initialManifest)
      [] := by
  intro d r hr
  rw [show ∀ s : DisplayStore, s.execute [] = s from fun _ ↦ rfl, (new_fresh ..).1] at hr
  simp at hr

theorem ownersCreated_of_every {ops : List StoreOp}
    (h : Run.Every StoreOp.apply JoinsItsKind
      (.new maxPermanentDisplays maxTemporaryDisplays reservations initialManifest) ops) :
    OwnersCreated (.new maxPermanentDisplays maxTemporaryDisplays reservations initialManifest)
      ops := by
  induction ops using List.reverseRecOn with
  | nil => exact ownersCreated_nil _ _ _ _
  | append_singleton ops op ih =>
    obtain ⟨hops, hop⟩ := Run.every_concat.mp h
    exact (ih hops).concat (execute_leasesConsistent ..) hop

/-- **The promise holds exactly where leases are not mixed.**  For a run of operations on any
store, pixel access is safe at every moment if and only if each successful create that joins an
existing lease is an owned one just in case the lease already holds a capability. -/
theorem pixelAccess_iff (ops : List StoreOp) :
    let s := DisplayStore.new maxPermanentDisplays maxTemporaryDisplays reservations initialManifest
    (∀ prior, prior <+: ops → PixelAccess s prior) ↔
      Run.Every StoreOp.apply JoinsItsKind s ops := by
  intro s
  induction ops using List.reverseRecOn with
  | nil =>
    refine ⟨fun _ ↦ trivial, fun _ prior hprior ↦ ?_⟩
    rw [List.prefix_nil.mp hprior]
    exact (ownersCreated_nil _ _ _ _).pixelAccess
  | append_singleton ops op ih =>
    rw [Run.every_concat, ← ih]
    constructor
    · intro h
      have hprior : ∀ prior, prior <+: ops → PixelAccess s prior := fun prior hprior ↦
        h prior (hprior.trans (List.prefix_append ..))
      exact ⟨hprior, .of_pixelAccess (ownersCreated_of_every _ _ _ _ (ih.mp hprior))
        (execute_leasesConsistent ..) (execute_recordsKeyed _ _ _ _ _) (h _ List.prefix_rfl)⟩
    · rintro ⟨h, hop⟩ prior hprior
      obtain rfl | hprior := List.prefix_concat_iff.mp hprior
      · exact ((ownersCreated_of_every _ _ _ _ (ih.mp h)).concat (execute_leasesConsistent ..)
          hop).pixelAccess
      · exact h prior hprior

end

/-! ## A display anyone under the lease can read -/

/-- An owned create, and a plain create of another display under the same lease. -/
def mixedCreates : List StoreOp :=
  [.createTemporaryDisplayOwned
      { display := exampleRequest kMinOpaqueLeaseId 1, ownerCapability := exampleCapability } 0,
    .createTemporaryDisplay (exampleRequest kMinOpaqueLeaseId 2) 0]

/-- The second display was created without a capability and can be read with the first one's. -/
theorem plainCreate_readable :
    ¬∀ maxPermanentDisplays maxTemporaryDisplays reservations initialManifest ops,
      PixelAccess (.new maxPermanentDisplays maxTemporaryDisplays reservations initialManifest)
        ops := by
  intro h
  have hauthorized : ((DisplayStore.execute (.new 0 4) mixedCreates).authorizeTemporaryDisplayOwner
      { leaseId := kMinOpaqueLeaseId, displayId := 2 } exampleCapability 1).isSome := by
    decide
  obtain ⟨display, hdisplay⟩ := Option.isSome_iff_exists.mp hauthorized
  have hcreated := h 0 4 ∅ none mixedCreates _ _ _ _ hdisplay
  have hplain : CreatedWith (.new 0 4) mixedCreates 2 none :=
    ⟨mixedCreates.take 1, .createTemporaryDisplay (exampleRequest kMinOpaqueLeaseId 2) 0, [], rfl,
      ⟨rfl, rfl, by decide⟩,
      fun later hlater ↦ by rw [List.prefix_nil.mp hlater]; decide⟩
  cases hcreated.unique hplain

end DisplayStore

end VirtualDisplay
