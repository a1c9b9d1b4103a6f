import VirtualDisplay.LeaseStore.Isolation
import VirtualDisplay.LeaseStore.Ownership

/-!
# What never changes

Everything that is fenced by a generation rests on three facts about whole runs of the store.  A
record keeps its description from its creation to its removal.  No two records ever get the same
generation, as long as the counter has not gone all the way round.  And the capability of a lease,
once there is one, stays with the lease, also through a reclaim.

`creations` lists the records a run creates, in the order in which it creates them.

## What is here

* `creations_generation` — generations are given out in order, from the counter on.
* `record_created` — every record is from the beginning or from a create of the run.
* `RecordChange.lease`, `leaseOwner_apply` — a lease keeps its capability through an operation; a
  lease that was without one may be given one by a create.
* `followLease` — the id that a lease has after a run, unless it has ended on the way.  A reclaim
  gives it a new one, and nothing else does.
* `execute_immutable` — the three facts together, for any run.
-/

set_option autoImplicit false

namespace VirtualDisplay

open Std

namespace StoreOp

/-! ## The records a run creates -/

/-- The display a create is for. -/
def createdDisplayId? : StoreOp → Option UInt64
  | createTemporaryDisplay request _ => some request.displayId
  | createTemporaryDisplayOwned request _ => some request.display.displayId
  | _ => none

/-- The operation is a create. -/
def isCreate (op : StoreOp) : Bool := op.createdDisplayId?.isSome

/-- The record the operation creates: one of a display that had none. -/
def created? (s : DisplayStore) (op : StoreOp) : Option TemporaryDisplayRecord :=
  op.createdDisplayId?.bind fun d ↦
    if s.displaysById.contains d then none else (op.apply s).displaysById[d]?

end StoreOp

namespace DisplayStore

/-- The records the operations create, the earliest first. -/
def creations (s : DisplayStore) : List StoreOp → List TemporaryDisplayRecord
  | [] => []
  | op :: ops => (op.created? s).toList ++ creations (op.apply s) ops

variable {s : DisplayStore}

theorem createTemporaryDisplayImpl_created (s : DisplayStore)
    (request : CreateTemporaryDisplayRequest) (ownerCapability : Option OwnerCapability)
    (now : TimePoint) :
    (s.displaysById[request.displayId]? = none ∧ ∃ r,
      (s.createTemporaryDisplayImpl request ownerCapability now).1.displaysById =
        s.displaysById.insert request.displayId r ∧
      r.displayId = request.displayId ∧ r.generation = s.nextTemporaryDisplayGeneration ∧
      (s.createTemporaryDisplayImpl request ownerCapability now).1.nextTemporaryDisplayGeneration =
        s.nextTemporaryDisplayGeneration + 1) ∨
    ((s.createTemporaryDisplayImpl request ownerCapability now).1.displaysById = s.displaysById ∧
      (s.createTemporaryDisplayImpl request ownerCapability now).1.nextTemporaryDisplayGeneration =
        s.nextTemporaryDisplayGeneration) := by
  rcases s.createTemporaryDisplayImpl_cases request ownerCapability now with
    ⟨reservations, ⟨haccepted, connectorIndex, retainIdentity, -, -, h⟩ | ⟨h, -⟩⟩
  · rw [h]
    exact .inl ⟨haccepted.absent, _, rfl, rfl, rfl, rfl⟩
  · rw [h]
    exact .inr ⟨rfl, rfl⟩

end DisplayStore

open DisplayStore in
/-- An operation creates no record and leaves the counter alone, or it creates one record with the
generation the counter is at. -/
theorem StoreOp.created_cases (s : DisplayStore) (op : StoreOp) :
    (op.created? s = none ∧
      (op.apply s).nextTemporaryDisplayGeneration = s.nextTemporaryDisplayGeneration ∧
      ∀ (d : UInt64) (r' : TemporaryDisplayRecord), (op.apply s).displaysById[d]? = some r' →
        ∃ r, s.displaysById[d]? = some r) ∨
    ∃ r, op.created? s = some r ∧ op.isCreate = true ∧
      r.generation = s.nextTemporaryDisplayGeneration ∧
      (op.apply s).nextTemporaryDisplayGeneration = s.nextTemporaryDisplayGeneration + 1 ∧
      (op.apply s).displaysById = s.displaysById.insert r.displayId r := by
  have hnone (happly : (op.apply s).displaysById = s.displaysById) : op.created? s = none := by
    rw [created?]
    cases op.createdDisplayId? with
    | none => rfl
    | some d =>
      rw [Option.bind_some, happly]
      split_ifs with hpresent
      · rfl
      · exact ExtTreeMap.getElem?_eq_none_of_contains_eq_false (Bool.not_eq_true _ ▸ hpresent)
  have hcreate {request : CreateTemporaryDisplayRequest}
      {ownerCapability : Option OwnerCapability} {now : TimePoint}
      (hd : op.createdDisplayId? = some request.displayId)
      (happly : op.apply s = (s.createTemporaryDisplayImpl request ownerCapability now).1) :
      (op.created? s = none ∧
        (op.apply s).nextTemporaryDisplayGeneration = s.nextTemporaryDisplayGeneration ∧
        ∀ (d : UInt64) (r' : TemporaryDisplayRecord), (op.apply s).displaysById[d]? = some r' →
          ∃ r, s.displaysById[d]? = some r) ∨
      ∃ r, op.created? s = some r ∧ op.isCreate = true ∧
        r.generation = s.nextTemporaryDisplayGeneration ∧
        (op.apply s).nextTemporaryDisplayGeneration = s.nextTemporaryDisplayGeneration + 1 ∧
        (op.apply s).displaysById = s.displaysById.insert r.displayId r := by
    rw [happly]
    rcases s.createTemporaryDisplayImpl_created request ownerCapability now with
      ⟨habsent, r, hinserted, hid, hgeneration, hnext⟩ | ⟨hsame, hnext⟩
    · refine .inr ⟨r, ?_, ?_, hgeneration, hnext, hid ▸ hinserted⟩
      · rw [created?, hd, Option.bind_some, happly, hinserted, OrdMap.getElem?_insert, if_pos rfl,
          ExtTreeMap.contains_eq_isSome_getElem?, habsent]
        rfl
      · rw [isCreate, hd]
        rfl
    · refine .inl ⟨hnone (happly ▸ hsame), hnext, fun d r' hr' ↦ ⟨r', ?_⟩⟩
      rwa [hsame] at hr'
  by_cases hupkeep : op.isUpkeep = true
  · have hkeeps := op.keeps s hupkeep
    refine .inl ⟨?_, hkeeps.nextGeneration, fun d r' hr' ↦ ?_⟩
    · cases op <;> first | rfl | cases hupkeep
    · rcases hkeeps.record hr' with ⟨r, hr, -⟩
      exact ⟨r, hr⟩
  · cases op with
    | createTemporaryDisplay request now => exact hcreate rfl rfl
    | createTemporaryDisplayOwned request now =>
      rcases s.createTemporaryDisplayOwned_cases request now with ⟨-, h⟩ | ⟨h, -⟩
      · exact hcreate rfl (congrArg Prod.fst h)
      · have hsame : (StoreOp.createTemporaryDisplayOwned request now).apply s = s := h
        refine .inl ⟨hnone (congrArg DisplayStore.displaysById hsame), ?_, fun d r' hr' ↦ ⟨r', ?_⟩⟩
        · rw [hsame]
        · rwa [hsame] at hr'
    | reclaimTemporaryDisplay request now =>
      refine .inl ⟨rfl, ?_, fun d r' hr' ↦ ?_⟩
      · rw [apply]
        rcases s.reclaimTemporaryDisplay_cases request now with
          ⟨display, lease, -, -, -, -, -, -, -, -, h⟩ | ⟨h, -⟩
        · rw [h]
          rfl
        · rw [h]
      · rw [apply] at hr'
        rcases s.reclaimTemporaryDisplay_cases request now with
          ⟨display, lease, -, -, -, -, -, -, -, -, h⟩ | ⟨h, -⟩
        · rw [h, getElem?_rotateLease, Option.map_eq_some_iff] at hr'
          rcases hr' with ⟨r, hr, -⟩
          exact ⟨r, hr⟩
        · rw [h] at hr'
          exact ⟨r', hr'⟩
    | _ => exact absurd rfl hupkeep

namespace DisplayStore

variable {s : DisplayStore}

/-! ## Generations -/

/-- The records of a run have generations from the counter on, each larger than those before it,
as long as there are not so many creates that the counter could wrap. -/
theorem creations_generation {ops : List StoreOp} {count : Nat}
    (hnext : s.nextTemporaryDisplayGeneration = UInt64.ofNat count)
    (hcount : count + ops.countP StoreOp.isCreate ≤ 2 ^ 64) :
    (∀ r ∈ creations s ops, count ≤ r.generation.toNat) ∧
      (creations s ops).Pairwise fun r r' ↦ r.generation < r'.generation := by
  induction ops generalizing s count with
  | nil => exact ⟨fun r hr ↦ (nomatch hr), .nil⟩
  | cons op ops ih =>
    rw [List.countP_cons] at hcount
    rw [creations]
    rcases op.created_cases s with
      ⟨hnone, hnext', -⟩ | ⟨r, hcreated, hcreate, hgeneration, hnext', -⟩
    · rw [hnone]
      exact ih (hnext'.trans hnext) (by omega)
    · rw [if_pos hcreate] at hcount
      have hnext'' : (op.apply s).nextTemporaryDisplayGeneration = UInt64.ofNat (count + 1) := by
        rw [hnext', hnext, UInt64.ofNat_add]
        rfl
      rcases ih hnext'' (by omega) with ⟨hlarge, hpairwise⟩
      have hvalue : r.generation.toNat = count := by
        rw [hgeneration, hnext, UInt64.toNat_ofNat']
        exact Nat.mod_eq_of_lt (by omega)
      rw [hcreated]
      refine ⟨fun r' hr' ↦ ?_, .cons (fun r' hr' ↦ ?_) hpairwise⟩
      · rcases List.mem_cons.mp hr' with rfl | hr'
        · exact hvalue.ge
        · exact Nat.le_of_succ_le (hlarge r' hr')
      · rw [UInt64.lt_iff_toNat_lt, hvalue]
        exact hlarge r' hr'

/-- Every record there is was there at the beginning or has been created. -/
theorem record_created {ops : List StoreOp} {d : UInt64} {r' : TemporaryDisplayRecord}
    (hr' : (s.execute ops).displaysById[d]? = some r') :
    (∃ r, s.displaysById[d]? = some r ∧ r.Evolves r') ∨
      ∃ r ∈ creations s ops, r.displayId = d ∧ r.Evolves r' := by
  induction ops generalizing s with
  | nil => exact .inl ⟨r', hr', .refl r'⟩
  | cons op ops ih =>
    rw [execute_cons] at hr'
    rw [creations]
    rcases ih hr' with ⟨r₁, hr₁, hevolves⟩ | ⟨r, hr, hd, hevolves⟩
    · rcases op.created_cases s with ⟨-, -, hthere⟩ | ⟨r, hcreated, -, -, -, hinserted⟩
      · rcases hthere d r₁ hr₁ with ⟨r, hr⟩
        exact .inl ⟨r, hr, (op.record hr hr₁).1.trans hevolves⟩
      · have hr₁' := hr₁
        rw [hinserted, OrdMap.getElem?_insert] at hr₁'
        split_ifs at hr₁' with hd
        · cases hr₁'
          rw [hcreated]
          exact .inr ⟨_, List.mem_cons_self, hd, hevolves⟩
        · exact .inl ⟨r₁, hr₁', hevolves⟩
    · exact .inr ⟨r, List.mem_append_right _ hr, hd, hevolves⟩

/-! ## Capabilities -/

/-- A lease that is still there after upkeep was there before, with the same capability. -/
theorem RecordChange.lease {s' : DisplayStore} (h : RecordChange s s') {L : UInt64}
    {lease' : LeaseRecord} (hlease' : s'.leasesById[L]? = some lease') :
    ∃ lease, s.leasesById[L]? = some lease ∧ lease'.ownerCapability = lease.ownerCapability := by
  cases h with
  | bookkeeping | marked | manifestApplied => exact ⟨lease', hlease', rfl⟩
  | @erased displayId display =>
    rcases s.eraseDisplay_leasesById displayId display.leaseId with ⟨h, -⟩ | ⟨h, -⟩
    · rw [h] at hlease'
      exact ⟨lease', hlease', rfl⟩
    · rw [h, OrdMap.getElem?_erase] at hlease'
      split_ifs at hlease'
      exact ⟨lease', hlease', rfl⟩
  | fed _ _ hheld =>
    rw [OrdMap.getElem?_insert] at hlease'
    split_ifs at hlease' with hid
    · cases hid
      cases hlease'
      exact ⟨_, hheld, rfl⟩
    · exact ⟨lease', hlease', rfl⟩
  | released =>
    rw [OrdMap.getElem?_erase] at hlease'
    split_ifs at hlease'
    exact ⟨lease', hlease', rfl⟩

theorem Keeps.lease {s' : DisplayStore} (h : Keeps s s') {L : UInt64} {lease' : LeaseRecord}
    (hlease' : s'.leasesById[L]? = some lease') :
    ∃ lease, s.leasesById[L]? = some lease ∧ lease'.ownerCapability = lease.ownerCapability := by
  induction h generalizing lease' with
  | refl => exact ⟨lease', hlease', rfl⟩
  | tail _ hstep ih =>
    rcases hstep.lease hlease' with ⟨lease₁, hlease₁, howner₁⟩
    rcases ih hlease₁ with ⟨lease, hlease, howner⟩
    exact ⟨lease, hlease, howner₁.trans howner⟩

/-- The lease a lease becomes: a reclaim that finds its display under it gives it a new id. -/
def leaseAfter (s : DisplayStore) (L : UInt64) : StoreOp → UInt64
  | .reclaimTemporaryDisplay request now =>
    if (s.reclaimTemporaryDisplay request now).2.status.error = .none ∧
        (s.displaysById[request.displayId]?).any (·.leaseId == L) then request.newLeaseId
    else L
  | _ => L

/-- The lease at the end of the operations, unless it has ended on the way. -/
def followLease (s : DisplayStore) (L : UInt64) : List StoreOp → Option UInt64
  | [] => some L
  | op :: ops =>
    if (op.apply s).leasesById.contains (s.leaseAfter L op) then
      followLease (op.apply s) (s.leaseAfter L op) ops
    else none

theorem leaseOwner_reclaim {request : ReclaimTemporaryDisplayRequest} {now : TimePoint}
    {L : UInt64} {ownerCapability : OwnerCapability}
    (howner : s.leaseOwner L = some ownerCapability)
    (hstays : ((s.reclaimTemporaryDisplay request now).1.leasesById[s.leaseAfter L
      (.reclaimTemporaryDisplay request now)]?).isSome = true) :
    (s.reclaimTemporaryDisplay request now).1.leaseOwner
      (s.leaseAfter L (.reclaimTemporaryDisplay request now)) = some ownerCapability := by
  rw [leaseAfter] at hstays ⊢
  by_cases hok : (s.reclaimTemporaryDisplay request now).2.status.error = .none
  · rcases s.reclaimTemporaryDisplay_cases request now with
      ⟨display, lease, hdisplay, -, hlease, -, -, -, -, hfree, h⟩ | ⟨-, herror⟩
    · rw [h, hdisplay, Option.any_some] at hstays ⊢
      by_cases hid : display.leaseId = L
      · have hcond : (s.reclaimTemporaryDisplay request now).2.status.error = .none ∧
            (display.leaseId == L) = true := ⟨hok, beq_iff_eq.mpr hid⟩
        rw [if_pos hcond, leaseOwner, rotateLease]
        dsimp only
        rw [OrdMap.getElem?_insert, if_pos rfl, Option.bind_some]
        rw [leaseOwner, ← hid, hlease] at howner
        exact howner
      · have hcond : ¬((s.reclaimTemporaryDisplay request now).2.status.error = .none ∧
            (display.leaseId == L) = true) := fun hc ↦ hid (beq_iff_eq.mp hc.2)
        have hne : ¬request.newLeaseId = L := by
          rintro rfl
          rw [leaseOwner, hfree] at howner
          cases howner
        rw [if_neg hcond, leaseOwner, rotateLease]
        dsimp only
        rw [OrdMap.getElem?_insert, if_neg hne, OrdMap.getElem?_erase, if_neg hid]
        exact howner
    · exact absurd hok herror
  · rw [if_neg fun hc ↦ hok hc.1, reclaimTemporaryDisplay_failed hok]
    exact howner

/-- Through one operation a lease keeps its capability, unless it ends. -/
theorem leaseOwner_apply {op : StoreOp} {L : UInt64} {ownerCapability : OwnerCapability}
    (howner : s.leaseOwner L = some ownerCapability)
    (hstays : ((op.apply s).leasesById[s.leaseAfter L op]?).isSome = true) :
    (op.apply s).leaseOwner (s.leaseAfter L op) = some ownerCapability := by
  have hkeeps {s' : DisplayStore} (h : Keeps s s') (hstays : (s'.leasesById[L]?).isSome = true) :
      s'.leaseOwner L = some ownerCapability := by
    rcases Option.isSome_iff_exists.mp hstays with ⟨lease', hlease'⟩
    rcases h.lease hlease' with ⟨lease, hlease, hsame⟩
    rw [leaseOwner, hlease] at howner
    rw [leaseOwner, hlease']
    exact hsame.trans howner
  have hcreate (request : CreateTemporaryDisplayRequest) (presented : Option OwnerCapability)
      (now : TimePoint) :
      (s.createTemporaryDisplayImpl request presented now).1.leaseOwner L =
        some ownerCapability := by
    rcases s.createTemporaryDisplayImpl_cases request presented now with
      ⟨reservations, ⟨-, connectorIndex, retainIdentity, -, -, h⟩ | ⟨h, -⟩⟩
    · have hsame : DisplayStore.leaseOwner
          { s with connectorReservationsByDisplayId := reservations } L = s.leaseOwner L := rfl
      rw [h, leaseOwner_commit, hsame, howner]
      split_ifs <;> rfl
    · rw [h]
      exact howner
  by_cases hupkeep : op.isUpkeep = true
  · have hsame : s.leaseAfter L op = L := by
      cases op <;> first | rfl | cases hupkeep
    rw [hsame] at hstays ⊢
    exact hkeeps (op.keeps s hupkeep) hstays
  · cases op with
    | createTemporaryDisplay request now => exact hcreate request none now
    | createTemporaryDisplayOwned request now =>
      have hsame : s.leaseAfter L (.createTemporaryDisplayOwned request now) = L := rfl
      rw [hsame, StoreOp.apply]
      rcases s.createTemporaryDisplayOwned_cases request now with ⟨-, h⟩ | ⟨h, -⟩
      · rw [h]
        exact hcreate request.display _ now
      · rw [h]
        exact howner
    | reclaimTemporaryDisplay request now => exact leaseOwner_reclaim howner hstays
    | _ => exact absurd rfl hupkeep

theorem leaseOwner_of_run {ops : List StoreOp} {L L' : UInt64}
    {ownerCapability : OwnerCapability} (howner : s.leaseOwner L = some ownerCapability)
    (hfollow : followLease s L ops = some L') :
    (s.execute ops).leaseOwner L' = some ownerCapability := by
  induction ops generalizing s L with
  | nil =>
    cases hfollow
    exact howner
  | cons op ops ih =>
    rw [followLease] at hfollow
    split_ifs at hfollow with hstays
    rw [ExtTreeMap.contains_eq_isSome_getElem?] at hstays
    exact ih (leaseOwner_apply howner hstays) hfollow

/-! ## Runs -/

theorem execute_append (s : DisplayStore) (ops ops' : List StoreOp) :
    s.execute (ops ++ ops') = (s.execute ops).execute ops' := List.foldl_append

/-- **What never changes.**  In a run of a new store with fewer than `2 ^ 64` creates, cut at any
point: a record that is there at the cut and whose display is never without a record afterwards has
changed at most in its lease, its times and the pending mark, which is not taken back; the records
of the run have nonzero generations, each larger than all before it, and every record there is at
the end is one of them; and a lease that holds a capability at the cut and goes on, under the id a
reclaim gives it or its own, still holds that one. -/
theorem execute_immutable {maxPermanentDisplays maxTemporaryDisplays : UInt32}
    {reservations : OrdMap UInt64 UInt32} {initialManifest : Option DisplayManifest}
    (ops ops' : List StoreOp) (hcreates : (ops ++ ops').countP StoreOp.isCreate < 2 ^ 64) :
    let s := DisplayStore.new maxPermanentDisplays maxTemporaryDisplays reservations initialManifest
    (∀ (d : UInt64) (r : TemporaryDisplayRecord), (s.execute ops).displaysById[d]? = some r →
      staysPresent d (s.execute ops) ops' = true →
        ∃ r', (s.execute (ops ++ ops')).displaysById[d]? = some r' ∧ r.Evolves r') ∧
    (creations s (ops ++ ops')).Pairwise (fun r r' ↦ r.generation < r'.generation) ∧
    (∀ r ∈ creations s (ops ++ ops'), r.generation ≠ 0) ∧
    (∀ (d : UInt64) (r' : TemporaryDisplayRecord),
      (s.execute (ops ++ ops')).displaysById[d]? = some r' →
        ∃ r ∈ creations s (ops ++ ops'), r.displayId = d ∧ r.Evolves r') ∧
    ∀ (L L' : UInt64) (ownerCapability : OwnerCapability),
      (s.execute ops).leaseOwner L = some ownerCapability →
        followLease (s.execute ops) L ops' = some L' →
          (s.execute (ops ++ ops')).leaseOwner L' = some ownerCapability := by
  intro s
  have hfresh := new_fresh maxPermanentDisplays maxTemporaryDisplays reservations initialManifest
  have hgenerations : (∀ r ∈ creations s (ops ++ ops'), 1 ≤ r.generation.toNat) ∧
      (creations s (ops ++ ops')).Pairwise fun r r' ↦ r.generation < r'.generation :=
    creations_generation hfresh.2.2 (by omega)
  refine ⟨fun d r hr hstays ↦ ?_, hgenerations.2, fun r hr hzero ↦ ?_, fun d r' hr' ↦ ?_,
    fun L L' ownerCapability howner hfollow ↦ ?_⟩
  · rcases record_of_run hr hstays with ⟨r', hr', hevolves, -⟩
    rw [execute_append]
    exact ⟨r', hr', hevolves⟩
  · have hlarge := hgenerations.1 r hr
    rw [hzero] at hlarge
    exact absurd hlarge (by decide)
  · rcases record_created hr' with ⟨r, hr, -⟩ | hcreated
    · rw [hfresh.1] at hr
      simp at hr
    · exact hcreated
  · rw [execute_append]
    exact leaseOwner_of_run howner hfollow

/-- A display is created, condemned and removed, and created again. -/
theorem execute_immutable_recreated :
    let create : StoreOp := .createTemporaryDisplay (exampleRequest kMinOpaqueLeaseId 1) 0
    let request : LeaseDisplayRequest := { leaseId := kMinOpaqueLeaseId, displayId := 1 }
    (creations (.new 0 4) ([create] ++ [.markTemporaryDisplayPendingDeparture request,
      .removeTemporaryDisplay request .retainConnectorReservation, create])).Pairwise
        fun r r' ↦ r.generation < r'.generation :=
  (execute_immutable _ _ (by decide)).2.1

end DisplayStore

end VirtualDisplay
