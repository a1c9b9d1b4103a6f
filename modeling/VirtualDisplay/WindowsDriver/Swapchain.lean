import Mathlib

/-!
# Who deletes a swapchain

IddCx hands a swapchain to the Windows backend in a callback, which may take it or decline it
(`assign_swapchain` of `IddCxBackend` in `driver_main.cpp`).  A `SwapChainProcessor` pins the
swapchain with a reference and takes frames from it on a thread of its own, which starts before the
callback has decided.  If the callback takes the swapchain, somebody has to delete it: the worker
when it fails, or the destructor of the processor, which may be called from another callback, from a
departure or from a thread that is started for it.  None of them waits for a worker for long; what
cannot be stopped is put back, given up or leaked.

`SwapchainStep` has a step for each stretch of the worker, of the callback and of whoever has the
processor then: a section under `assignment_mutex_`, or a call of WDF.  The table of monitors, the
timeouts and the frames are left out: they decide which step comes when.  So is a thread that
cannot be created for a deferral.

* `SwapchainProcessor.Sound` — the invariant of the steps; `Sound.step` keeps it.
* `swapchain_deleted_once` — a swapchain is deleted once at most, only if it was taken, and not
  while it is in use; and none that was taken is forgotten.
-/

set_option autoImplicit false

namespace VirtualDisplay

/-! ## The processor -/

/-- How far a call of `delete_swapchain` is. -/
inductive DeleteStage where
  /-- It waits until the assignment is complete. -/
  | claiming
  /-- It is about to delete the swapchain. -/
  | claimed
  /-- It is about to drop the reference. -/
  | releasing
  deriving DecidableEq

/-- How far `process_frames` is. -/
inductive FrameWorker where
  | absent
  /-- It creates the render device. -/
  | settingUp
  /-- In `wait_for_assignment_commit`. -/
  | waiting
  /-- It sets the device and takes frames: it calls IddCx with the swapchain. -/
  | taking
  | deleting (stage : DeleteStage)
  | ended
  deriving DecidableEq

/-- Who has the processor. -/
inductive ProcessorHolder where
  /-- The callback, which has not decided. -/
  | assigning
  /-- The table of monitors, as the active or as a retired processor. -/
  | table
  /-- A callback or a departure, which may put it back. -/
  | taken
  /-- `stop_swapchain_processor`, or the thread that goes on for it. -/
  | stopping (abandon deferred : Bool)
  /-- In the destructor, behind `stop`. -/
  | destroying (stage : DeleteStage)
  | freed
  | leaked
  deriving DecidableEq

/-- A processor, who has it, and what has been done with its swapchain. -/
structure SwapchainProcessor where
  /-- `swapchain_` is not null. -/
  handle : Bool := true
  /-- `referenced_swapchain_` is not null. -/
  referenced : Bool := true
  stopRequested : Bool := false
  assignCompleted : Bool := false
  driverOwnsSwapchain : Bool := false
  worker : FrameWorker := .absent
  holder : ProcessorHolder := .assigning
  /-- Whether the callback takes the swapchain, once it has decided. -/
  assigned : Option Bool := none
  /-- The swapchain was taken and then given up. -/
  abandoned : Bool := false
  deletions : Nat := 0
  dereferences : Nat := 0

namespace SwapchainProcessor

variable (p : SwapchainProcessor)

/-- The callback has decided who owns the swapchain. -/
def completeAssign (driverOwnsSwapchain : Bool) : SwapchainProcessor :=
  { p with assignCompleted := true, driverOwnsSwapchain }

/-- `claim_owned_swapchain_for_delete` once the assignment is complete. -/
def claimOwnedSwapchainForDelete : SwapchainProcessor :=
  { p with driverOwnsSwapchain := false, handle := false }

/-- What it leads to. -/
def claimedStage : DeleteStage :=
  if p.driverOwnsSwapchain && p.handle then .claimed else .releasing

/-- The reference that was taken is given back, once. -/
def releaseSwapchainReference : SwapchainProcessor :=
  { p with referenced := false, dereferences := p.dereferences + p.referenced.toNat }

/-- The swapchain is given up without being deleted by the driver. -/
def abandonSwapchain : SwapchainProcessor :=
  releaseSwapchainReference
    { p with assignCompleted := true, driverOwnsSwapchain := false, handle := false }

/-- `WdfObjectDelete` -/
def deleteSwapchain : SwapchainProcessor := { p with deletions := p.deletions + 1 }

end SwapchainProcessor

open SwapchainProcessor FrameWorker ProcessorHolder DeleteStage

/-- The steps of the worker and of whoever has the processor. -/
inductive SwapchainStep (p : SwapchainProcessor) : SwapchainProcessor → Prop
  | starts : p.holder = assigning → p.worker = absent →
      SwapchainStep p { p with worker := settingUp }
  /-- The thread cannot be created, and the callback declines. -/
  | startFails : p.holder = assigning → p.worker = absent →
      SwapchainStep p
        { p.abandonSwapchain with assigned := some false, holder := destroying claiming }
  | commits : p.holder = assigning → p.worker ≠ absent →
      SwapchainStep p { p.completeAssign true with assigned := some true, holder := table }
  /-- The monitor departs, and the callback declines. -/
  | declines : p.holder = assigning → p.worker ≠ absent →
      SwapchainStep p
        { p.completeAssign false with assigned := some false, holder := stopping false false }
  | requestsStop : (p.holder = table ∨ p.holder = taken ∨
        ∃ abandon deferred, p.holder = stopping abandon deferred) →
      SwapchainStep p { p with stopRequested := true }
  | takes : p.holder = table → SwapchainStep p { p with holder := taken }
  | putsBack : p.holder = taken → SwapchainStep p { p with holder := table }
  /-- A retired processor has stopped by itself. -/
  | collects : p.holder = table → p.worker = ended →
      SwapchainStep p { p with stopRequested := true, holder := destroying claiming }
  | stops : p.holder = taken → p.worker = ended →
      SwapchainStep p { p with stopRequested := true, holder := destroying claiming }
  /-- The monitor is gone (`AbandonOwned`). -/
  | abandons (deferred : Bool) : p.holder = taken →
      SwapchainStep p
        { p.completeAssign false with abandoned := true, holder := stopping true deferred }
  | defers : p.holder = taken → SwapchainStep p { p with holder := stopping false true }
  | stopsClosing {deferred : Bool} : p.holder = stopping false deferred → p.worker = ended →
      SwapchainStep p { p with stopRequested := true, holder := destroying claiming }
  | stopsAbandoning {deferred : Bool} : p.holder = stopping true deferred → p.worker = ended →
      SwapchainStep p
        { p.abandonSwapchain with stopRequested := true, holder := destroying claiming }
  /-- A thread goes on with the processor. -/
  | timesOut {abandon : Bool} : p.holder = stopping abandon false →
      SwapchainStep p { p with holder := stopping abandon true }
  /-- The worker has still not stopped. -/
  | leaks {abandon : Bool} : p.holder = stopping abandon true →
      SwapchainStep p { p with holder := leaked }
  | setsUp : p.worker = settingUp → SwapchainStep p { p with worker := waiting }
  | proceeds : p.worker = waiting → p.assignCompleted = true → p.driverOwnsSwapchain = true →
      p.handle = true → SwapchainStep p { p with worker := taking }
  | endsWaiting : p.worker = waiting → p.stopRequested = true →
      SwapchainStep p { p with worker := ended }
  | failsWaiting : p.worker = waiting → p.assignCompleted = true →
      SwapchainStep p { p with worker := deleting claiming }
  | ends : p.worker = settingUp ∨ p.worker = taking → p.stopRequested = true →
      SwapchainStep p { p with worker := ended }
  | fails : p.worker = settingUp ∨ p.worker = taking →
      SwapchainStep p { p with worker := deleting claiming }
  | workerClaims : p.worker = deleting claiming → p.assignCompleted = true →
      SwapchainStep p { p.claimOwnedSwapchainForDelete with worker := deleting p.claimedStage }
  | workerGivesUp : p.worker = deleting claiming → p.assignCompleted = false →
      SwapchainStep p { p with worker := deleting releasing }
  | workerDeletes : p.worker = deleting claimed →
      SwapchainStep p { p.deleteSwapchain with worker := deleting releasing }
  | workerReleases : p.worker = deleting releasing →
      SwapchainStep p { p.releaseSwapchainReference with worker := ended }
  | claims : p.holder = destroying claiming → p.assignCompleted = true →
      SwapchainStep p
        { p.claimOwnedSwapchainForDelete with holder := destroying p.claimedStage }
  | givesUp : p.holder = destroying claiming → p.assignCompleted = false →
      SwapchainStep p { p with holder := destroying releasing }
  | deletes : p.holder = destroying claimed →
      SwapchainStep p { p.deleteSwapchain with holder := destroying releasing }
  | releases : p.holder = destroying releasing →
      SwapchainStep p { p.releaseSwapchainReference with holder := freed }

/-! ## What holds in every reachable state -/

namespace SwapchainProcessor

variable {p p' : SwapchainProcessor}

/-- Only the destructor is left, or nobody. -/
def Closing (p : SwapchainProcessor) : Prop :=
  p.holder = freed ∨ ∃ stage, p.holder = destroying stage

/-- How often the swapchain has been deleted or is about to be. -/
def claims (p : SwapchainProcessor) : Nat :=
  p.deletions + (decide (p.worker = deleting claimed)).toNat +
    (decide (p.holder = destroying claimed)).toNat

/-- The swapchain is claimed once at most, and one that was taken is not forgotten. -/
structure ClaimsCounted (p : SwapchainProcessor) : Prop where
  owned : p.driverOwnsSwapchain = true → p.assigned = some true ∧ p.handle = true ∧ p.claims = 0
  claimedOnce : p.claims ≠ 0 → p.claims = 1 ∧ p.assigned = some true
  kept : p.assigned = some true →
    p.driverOwnsSwapchain = true ∨ p.claims = 1 ∨ p.abandoned = true

/-- What holds of a processor at all times: its counts of claims and references fit where it is and
what its threads are doing. -/
structure Sound (p : SwapchainProcessor) : Prop extends ClaimsCounted p where
  reference : p.dereferences + p.referenced.toNat = 1
  completed : p.assignCompleted = p.assigned.isSome
  callback : p.holder = assigning ↔ p.assigned = none
  undecided : p.assigned = none → p.handle = true ∧ p.abandoned = false
  pinned : p.worker = settingUp ∨ p.worker = waiting ∨ p.worker = taking → p.referenced = true
  inUse : p.worker = taking → p.handle = true ∧ p.assigned = some true ∧ p.claims = 0
  unstarted : p.worker = absent → p.holder = assigning ∧ p.referenced = true ∨ p.Closing
  closing : p.Closing → p.worker = absent ∨ p.worker = ended
  givenUp : ∀ deferred, p.holder = stopping true deferred → p.abandoned = true
  /-- The destructor has made its claim. -/
  afterClaim : p.Closing → p.holder ≠ destroying claiming → p.driverOwnsSwapchain = false
  closed : p.holder = freed → p.referenced = false

/-- A step without a claim. -/
theorem ClaimsCounted.congr (h : p.ClaimsCounted) (hclaims : p'.claims = p.claims)
    (howns : p'.driverOwnsSwapchain = p.driverOwnsSwapchain) (hassigned : p'.assigned = p.assigned)
    (hhandle : p'.handle = p.handle) (habandoned : p'.abandoned = p.abandoned) :
    p'.ClaimsCounted where
  owned := by
    rw [howns, hassigned, hhandle, hclaims]
    exact h.owned
  claimedOnce := by
    rw [hassigned, hclaims]
    exact h.claimedOnce
  kept := by
    rw [hassigned, howns, hclaims, habandoned]
    exact h.kept

theorem ClaimsCounted.start : ClaimsCounted {} := by
  constructor <;> simp [claims]

theorem Sound.start : Sound {} := by
  constructor
  · exact .start
  all_goals simp [claims, Closing]

/-- While the worker runs, nobody is in the destructor. -/
theorem Sound.not_closing (h : p.Sound) (habsent : p.worker ≠ absent) (hended : p.worker ≠ ended) :
    ¬p.Closing := by
  intro hclosing
  rcases h.closing hclosing with hworker | hworker
  · exact habsent hworker
  · exact hended hworker

theorem not_closing_of_holder (hfreed : p.holder ≠ freed)
    (hdestroying : ∀ stage, p.holder ≠ destroying stage) : ¬p.Closing := by
  rintro (h | ⟨stage, h⟩)
  · exact hfreed h
  · exact hdestroying stage h

/-- The worker goes on, without a claim. -/
theorem Sound.moveWorker (h : p.Sound) {worker : FrameWorker} (hopen : ¬p.Closing)
    (hfrom : p.worker ≠ deleting claimed) (hto : worker ≠ deleting claimed)
    (habsent : worker ≠ absent)
    (hpinned : worker = settingUp ∨ worker = waiting ∨ worker = taking → p.referenced = true)
    (hinUse : worker = taking → p.handle = true ∧ p.assigned = some true ∧ p.claims = 0) :
    Sound { p with worker } := by
  have hclaims : claims { p with worker } = p.claims := by simp [claims, hfrom, hto]
  refine { h with
    toClaimsCounted := h.toClaimsCounted.congr hclaims rfl rfl rfl rfl
    pinned := hpinned
    inUse := ?_
    unstarted := fun hworker ↦ absurd hworker habsent
    closing := fun hclosing ↦ absurd hclosing hopen }
  rw [hclaims]
  exact hinUse

/-- The processor changes hands, at most into those of the destructor. -/
theorem Sound.moveHolder (h : p.Sound) {holder : ProcessorHolder} (stopRequested : Bool)
    (hdecided : p.holder ≠ assigning) (hopen : ¬p.Closing) (hassigning : holder ≠ assigning)
    (hfreed : holder ≠ freed)
    (hgivenUp : ∀ deferred, holder = stopping true deferred → p.abandoned = true)
    (hdestroying : ∀ stage, holder = destroying stage → stage = claiming ∧ p.worker = ended) :
    Sound { p with holder, stopRequested } := by
  have hfrom : p.holder ≠ destroying claimed := fun hholder ↦ hopen (.inr ⟨_, hholder⟩)
  have hto : holder ≠ destroying claimed := by
    intro hholder
    cases (hdestroying _ hholder).1
  have hclaims : claims { p with holder, stopRequested } = p.claims := by
    simp [claims, hfrom, hto]
  have hclosing : Closing { p with holder, stopRequested } →
      holder = destroying claiming ∧ p.worker = ended := by
    rintro (hholder | ⟨stage, hholder⟩)
    · exact absurd hholder hfreed
    · obtain ⟨rfl, hworker⟩ := hdestroying stage hholder
      exact ⟨hholder, hworker⟩
  refine { h with
    toClaimsCounted := h.toClaimsCounted.congr hclaims rfl rfl rfl rfl
    inUse := ?_
    callback := ⟨fun hholder ↦ absurd hholder hassigning,
      fun hnone ↦ absurd (h.callback.mpr hnone) hdecided⟩
    unstarted := fun hworker ↦ absurd (h.unstarted hworker)
      (not_or.mpr ⟨fun hto ↦ hdecided hto.1, hopen⟩)
    givenUp := hgivenUp
    closing := fun hclose ↦ .inr (hclosing hclose).2
    afterClaim := fun hclose hne ↦ absurd (hclosing hclose).1 hne
    closed := fun hholder ↦ absurd hholder hfreed }
  rw [hclaims]
  exact h.inUse

theorem ClaimsCounted.claims_eq_zero (h : p.ClaimsCounted) (hnone : p.assigned = none) :
    p.claims = 0 := by
  by_contra hne
  have hassigned := (h.claimedOnce hne).2
  simp [hnone] at hassigned

/-- Whoever has the processor but the callback knows what the callback has decided. -/
theorem Sound.assigned_ne_none (h : p.Sound) (hholder : p.holder ≠ assigning) :
    p.assigned ≠ none := fun hnone ↦ hholder (h.callback.mpr hnone)

/-- The callback decides: the swapchain is taken and stays with the table, or it is declined and the
processor is stopped. -/
theorem Sound.decides (h : p.Sound) (taken : Bool) {holder : ProcessorHolder}
    (hassigning : p.holder = assigning) (hworker : p.worker ≠ absent) (hholder : holder ≠ assigning)
    (hfreed : holder ≠ freed) (hstopping : ∀ deferred, holder ≠ stopping true deferred)
    (hdestroying : ∀ stage, holder ≠ destroying stage) :
    Sound { p.completeAssign taken with assigned := some taken, holder } := by
  have hnone : p.assigned = none := h.callback.mp hassigning
  have hzero : p.claims = 0 := h.claims_eq_zero hnone
  have hopen : ¬p.Closing := not_closing_of_holder (by simp [hassigning]) (by simp [hassigning])
  have hopen' : ¬Closing { p.completeAssign taken with assigned := some taken, holder } :=
    not_closing_of_holder hfreed hdestroying
  have hclaims : claims { p.completeAssign taken with assigned := some taken, holder } = 0 := by
    simpa [claims, completeAssign, hassigning, hdestroying claimed] using hzero
  refine { h with
    completed := rfl
    callback := ⟨fun hto ↦ absurd hto hholder, fun hto ↦ by cases hto⟩
    undecided := fun hto ↦ by cases hto
    owned := ?_
    claimedOnce := fun hne ↦ absurd hclaims hne
    kept := ?_
    inUse := ?_
    unstarted := fun habsent ↦ absurd habsent hworker
    closing := fun hclosing ↦ absurd hclosing hopen'
    givenUp := fun _ hto ↦ absurd hto (hstopping _)
    afterClaim := fun hclosing ↦ absurd hclosing hopen'
    closed := fun hto ↦ absurd hto hfreed }
  · intro htaken
    exact ⟨congrArg some htaken, (h.undecided hnone).1, hclaims⟩
  · intro htaken
    exact .inl (Option.some.inj htaken)
  · intro htaking
    have := (h.inUse htaking).2.1
    simp [hnone] at this

/-- What a claim does to the count of the claims. -/
theorem Sound.claim (h : p.Sound) {count : Nat}
    (hcount : count = p.claims + (decide (p.claimedStage = claimed)).toNat) :
    (count ≠ 0 → count = 1 ∧ p.assigned = some true) ∧
      (p.assigned = some true → count = 1 ∨ p.abandoned = true) := by
  by_cases howned : p.driverOwnsSwapchain = true
  · obtain ⟨hassigned, hhandle, hzero⟩ := h.owned howned
    have hone : count = 1 := by simp [hcount, claimedStage, howned, hhandle, hzero]
    exact ⟨fun _ ↦ ⟨hone, hassigned⟩, fun _ ↦ .inl hone⟩
  · have hsame : count = p.claims := by simp [hcount, claimedStage, howned]
    rw [hsame]
    refine ⟨h.claimedOnce, fun hassigned ↦ ?_⟩
    rcases h.kept hassigned with hkept | hkept
    · exact absurd hkept howned
    · exact hkept

theorem Sound.workerClaims (h : p.Sound) (hworker : p.worker = deleting claiming)
    (hcompleted : p.assignCompleted = true) :
    Sound { p.claimOwnedSwapchainForDelete with worker := deleting p.claimedStage } := by
  have hopen : ¬p.Closing := h.not_closing (by simp [hworker]) (by simp [hworker])
  have hclaims :
      claims { p.claimOwnedSwapchainForDelete with worker := deleting p.claimedStage } =
        p.claims + (decide (p.claimedStage = claimed)).toNat := by
    simp only [claims, claimOwnedSwapchainForDelete, hworker, FrameWorker.deleting.injEq,
      reduceCtorEq, decide_false, Bool.toNat_false]
    omega
  obtain ⟨honce, hkept⟩ := h.claim hclaims
  exact { h with
    undecided := fun hnone ↦ by simp [h.completed, show p.assigned = none from hnone] at hcompleted
    owned := fun howned ↦ by cases howned
    claimedOnce := honce
    kept := fun hassigned ↦ .inr (hkept hassigned)
    pinned := by simp
    inUse := by simp
    unstarted := by simp
    closing := fun hclosing ↦ absurd hclosing hopen
    afterClaim := fun _ _ ↦ rfl }

theorem Sound.workerDeletes (h : p.Sound) (hworker : p.worker = deleting claimed) :
    Sound { p.deleteSwapchain with worker := deleting releasing } := by
  have hopen : ¬p.Closing := h.not_closing (by simp [hworker]) (by simp [hworker])
  have hclaims : claims { p.deleteSwapchain with worker := deleting releasing } = p.claims := by
    simp [claims, deleteSwapchain, hworker]
  exact { h with
    toClaimsCounted := h.toClaimsCounted.congr hclaims rfl rfl rfl rfl
    pinned := by simp
    inUse := by simp
    unstarted := by simp
    closing := fun hclosing ↦ absurd hclosing hopen }

theorem Sound.workerReleases (h : p.Sound) (hworker : p.worker = deleting releasing) :
    Sound { p.releaseSwapchainReference with worker := ended } := by
  have hopen : ¬p.Closing := h.not_closing (by simp [hworker]) (by simp [hworker])
  have hclaims : claims { p.releaseSwapchainReference with worker := ended } = p.claims := by
    simp [claims, releaseSwapchainReference, hworker]
  exact { h with
    toClaimsCounted := h.toClaimsCounted.congr hclaims rfl rfl rfl rfl
    reference := h.reference
    pinned := by simp
    inUse := by simp
    unstarted := by simp
    closing := fun _ ↦ .inr rfl
    closed := fun _ ↦ rfl }

/-- The thread cannot be created. -/
theorem Sound.startFails (h : p.Sound) (hassigning : p.holder = assigning)
    (hworker : p.worker = absent) :
    Sound { p.abandonSwapchain with assigned := some false, holder := destroying claiming } := by
  have hnone : p.assigned = none := h.callback.mp hassigning
  have hzero : p.claims = 0 := h.claims_eq_zero hnone
  have hclaims :
      claims { p.abandonSwapchain with assigned := some false, holder := destroying claiming } =
        0 := by
    simpa [claims, abandonSwapchain, releaseSwapchainReference, hassigning] using hzero
  exact { h with
    reference := h.reference
    completed := rfl
    callback := ⟨fun hto ↦ (by cases hto), fun hto ↦ by cases hto⟩
    undecided := fun hto ↦ by cases hto
    owned := fun howned ↦ by cases howned
    claimedOnce := fun hne ↦ absurd hclaims hne
    kept := fun hassigned ↦ by cases hassigned
    pinned := by simp [abandonSwapchain, releaseSwapchainReference, hworker]
    inUse := by simp [abandonSwapchain, releaseSwapchainReference, hworker]
    unstarted := fun _ ↦ .inr (.inr ⟨_, rfl⟩)
    closing := fun _ ↦ .inl hworker
    givenUp := fun _ hto ↦ by cases hto
    afterClaim := fun _ _ ↦ rfl
    closed := fun hto ↦ by cases hto }

/-- The swapchain is given up, which is not forgetting it. -/
theorem Sound.abandons (h : p.Sound) (htaken : p.holder = taken) (deferred : Bool) :
    Sound { p.completeAssign false with abandoned := true, holder := stopping true deferred } := by
  have hdecided : p.assigned ≠ none := h.assigned_ne_none (by simp [htaken])
  have hopen : ¬p.Closing := not_closing_of_holder (by simp [htaken]) (by simp [htaken])
  have hopen' : ¬Closing
      { p.completeAssign false with abandoned := true, holder := stopping true deferred } :=
    not_closing_of_holder (by simp) (by simp)
  have hclaims :
      claims { p.completeAssign false with abandoned := true, holder := stopping true deferred } =
        p.claims := by
    simp [claims, completeAssign, htaken]
  refine { h with
    completed := (Option.isSome_iff_ne_none.mpr hdecided).symm
    callback := ⟨fun hto ↦ (by cases hto), fun hnone ↦ absurd hnone hdecided⟩
    undecided := fun hnone ↦ absurd hnone hdecided
    owned := fun howned ↦ by cases howned
    claimedOnce := ?_
    kept := fun _ ↦ .inr (.inr rfl)
    inUse := ?_
    unstarted := fun hworker ↦ absurd (h.unstarted hworker) ?_
    closing := fun hclosing ↦ absurd hclosing hopen'
    givenUp := fun _ _ ↦ rfl
    afterClaim := fun hclosing ↦ absurd hclosing hopen'
    closed := fun hto ↦ by cases hto }
  · rw [hclaims]
    exact h.claimedOnce
  · rw [hclaims]
    exact h.inUse
  · simp [htaken, hopen]

theorem Sound.stopsAbandoning (h : p.Sound) {deferred : Bool}
    (hstopping : p.holder = stopping true deferred) (hworker : p.worker = ended) :
    Sound
      { p.abandonSwapchain with stopRequested := true, holder := destroying claiming } := by
  have hdecided : p.assigned ≠ none := h.assigned_ne_none (by simp [hstopping])
  have hclaims :
      claims { p.abandonSwapchain with stopRequested := true, holder := destroying claiming } =
        p.claims := by
    simp [claims, abandonSwapchain, releaseSwapchainReference, hstopping]
  refine { h with
    reference := h.reference
    completed := (Option.isSome_iff_ne_none.mpr hdecided).symm
    callback := ⟨fun hto ↦ (by cases hto), fun hnone ↦ absurd hnone hdecided⟩
    undecided := fun hnone ↦ absurd hnone hdecided
    owned := fun howned ↦ by cases howned
    claimedOnce := ?_
    kept := fun _ ↦ .inr (.inr (h.givenUp _ hstopping))
    pinned := by simp [abandonSwapchain, releaseSwapchainReference, hworker]
    inUse := by simp [abandonSwapchain, releaseSwapchainReference, hworker]
    unstarted := fun _ ↦ .inr (.inr ⟨_, rfl⟩)
    closing := fun _ ↦ .inr hworker
    givenUp := fun _ hto ↦ by cases hto
    afterClaim := fun _ _ ↦ rfl
    closed := fun hto ↦ by cases hto }
  rw [hclaims]
  exact h.claimedOnce

/-! ### The destructor -/

/-- The worker is not there any more. -/
theorem Sound.worker_ne (h : p.Sound) (hclosing : p.Closing) {worker : FrameWorker}
    (habsent : worker ≠ absent) (hended : worker ≠ ended) : p.worker ≠ worker := by
  rintro rfl
  exact h.not_closing habsent hended hclosing

/-- The destructor goes on. -/
theorem Sound.destroys (h : p.Sound) {stage : DeleteStage} (hholder : p.holder = destroying stage)
    {p' : SwapchainProcessor} (hreference : p'.dereferences + p'.referenced.toNat = 1)
    (hassigned : p'.assigned = p.assigned) (hcompleted : p'.assignCompleted = p.assignCompleted)
    (habandoned : p'.abandoned = p.abandoned) (hworker : p'.worker = p.worker)
    (hto : p'.Closing) (howned : p'.driverOwnsSwapchain = false)
    (honce : p'.claims ≠ 0 → p'.claims = 1 ∧ p.assigned = some true)
    (hkept : p.assigned = some true → p'.claims = 1 ∨ p.abandoned = true)
    (hclosed : p'.holder = freed → p'.referenced = false) : p'.Sound := by
  have hclosing : p.Closing := .inr ⟨_, hholder⟩
  have hdecided : p.assigned ≠ none := h.assigned_ne_none (by simp [hholder])
  have hassigning : p'.holder ≠ assigning := by
    rcases hto with hto | ⟨_, hto⟩ <;> simp [hto]
  have hstopping : ∀ deferred, p'.holder ≠ stopping true deferred := by
    rcases hto with hto | ⟨_, hto⟩ <;> simp [hto]
  exact {
    reference := hreference
    completed := by rw [hcompleted, hassigned, h.completed]
    callback := by simp [hassigned, hassigning, hdecided]
    undecided := fun hnone ↦ absurd (hassigned ▸ hnone) hdecided
    owned := by simp [howned]
    claimedOnce := by simpa only [hassigned] using honce
    kept := by simpa [hassigned, howned, habandoned] using hkept
    pinned := by
      rw [hworker]
      rintro (hrun | hrun | hrun) <;> exact absurd hrun (h.worker_ne hclosing (by simp) (by simp))
    inUse := fun hrun ↦ absurd (hworker ▸ hrun) (h.worker_ne hclosing (by simp) (by simp))
    unstarted := fun _ ↦ .inr hto
    closing := fun _ ↦ hworker ▸ h.closing hclosing
    givenUp := fun _ hholder' ↦ absurd hholder' (hstopping _)
    afterClaim := fun _ _ ↦ howned
    closed := hclosed }

theorem Sound.destructorClaims (h : p.Sound) (hholder : p.holder = destroying claiming) :
    Sound { p.claimOwnedSwapchainForDelete with holder := destroying p.claimedStage } := by
  have hclaims :
      claims { p.claimOwnedSwapchainForDelete with holder := destroying p.claimedStage } =
        p.claims + (decide (p.claimedStage = claimed)).toNat := by
    simp [claims, claimOwnedSwapchainForDelete, hholder]
  obtain ⟨honce, hkept⟩ := h.claim hclaims
  exact h.destroys hholder h.reference rfl rfl rfl rfl (.inr ⟨_, rfl⟩) rfl honce hkept
    (fun hto ↦ by cases hto)

/-- Behind the claim of the destructor, whoever took the swapchain has deleted it or given it up. -/
theorem Sound.kept_of_closing (h : p.Sound) (hclosing : p.Closing)
    (hclaim : p.holder ≠ destroying claiming) (hassigned : p.assigned = some true) :
    p.claims = 1 ∨ p.abandoned = true := by
  rcases h.kept hassigned with howned | hkept
  · simp [h.afterClaim hclosing hclaim] at howned
  · exact hkept

theorem Sound.destructorDeletes (h : p.Sound) (hholder : p.holder = destroying claimed) :
    Sound { p.deleteSwapchain with holder := destroying releasing } := by
  have hclosing : p.Closing := .inr ⟨_, hholder⟩
  have hclaims : claims { p.deleteSwapchain with holder := destroying releasing } = p.claims := by
    simp only [claims, deleteSwapchain, hholder, ProcessorHolder.destroying.injEq, reduceCtorEq,
      decide_false, decide_true, Bool.toNat_false, Bool.toNat_true]
    omega
  refine h.destroys hholder h.reference rfl rfl rfl rfl (.inr ⟨_, rfl⟩)
    (h.afterClaim hclosing (by simp [hholder])) ?_ ?_ (fun hto ↦ by cases hto)
  · rw [hclaims]
    exact h.claimedOnce
  · rw [hclaims]
    exact h.kept_of_closing hclosing (by simp [hholder])

theorem Sound.destructorReleases (h : p.Sound) (hholder : p.holder = destroying releasing) :
    Sound { p.releaseSwapchainReference with holder := freed } := by
  have hclosing : p.Closing := .inr ⟨_, hholder⟩
  have hclaims : claims { p.releaseSwapchainReference with holder := freed } = p.claims := by
    simp [claims, releaseSwapchainReference, hholder]
  refine h.destroys hholder h.reference rfl rfl rfl rfl (.inl rfl)
    (h.afterClaim hclosing (by simp [hholder])) ?_ ?_ (fun _ ↦ rfl)
  · rw [hclaims]
    exact h.claimedOnce
  · rw [hclaims]
    exact h.kept_of_closing hclosing (by simp [hholder])

/-! ### Every step -/

/-- The callback has decided, and nobody is in the destructor. -/
theorem not_closing_of_table (hholder : p.holder = table ∨ p.holder = taken ∨
    ∃ abandon deferred, p.holder = stopping abandon deferred) :
    p.holder ≠ assigning ∧ ¬p.Closing := by
  rcases hholder with hholder | hholder | ⟨_, _, hholder⟩ <;> simp [Closing, hholder]

/-- A processor whose worker has stopped goes to the destructor. -/
theorem Sound.destroy (h : p.Sound) (hworker : p.worker = ended)
    (hholder : p.holder = table ∨ p.holder = taken ∨
      ∃ abandon deferred, p.holder = stopping abandon deferred) :
    Sound { p with stopRequested := true, holder := destroying claiming } := by
  obtain ⟨hdecided, hopen⟩ := not_closing_of_table hholder
  exact h.moveHolder true hdecided hopen (by simp) (by simp) (by simp)
    (by simpa using hworker)

theorem Sound.step (h : p.Sound) (hstep : SwapchainStep p p') : p'.Sound := by
  cases hstep with
  | starts hassigning hworker =>
    have hreferenced : p.referenced = true := by
      simpa [hassigning, Closing] using h.unstarted hworker
    exact h.moveWorker (not_closing_of_holder (by simp [hassigning]) (by simp [hassigning]))
      (by simp [hworker]) (by simp) (by simp) (fun _ ↦ hreferenced) (by simp)
  | startFails hassigning hworker => exact h.startFails hassigning hworker
  | commits hassigning hworker =>
    exact h.decides true hassigning hworker (by simp) (by simp) (by simp) (by simp)
  | declines hassigning hworker =>
    exact h.decides false hassigning hworker (by simp) (by simp) (by simp) (by simp)
  | requestsStop hholder =>
    obtain ⟨hdecided, hopen⟩ := not_closing_of_table hholder
    exact h.moveHolder true hdecided hopen hdecided (fun hto ↦ hopen (.inl hto)) h.givenUp
      (fun _ hto ↦ absurd (.inr ⟨_, hto⟩) hopen)
  | takes hholder =>
    obtain ⟨hdecided, hopen⟩ := not_closing_of_table (.inl hholder)
    exact h.moveHolder p.stopRequested hdecided hopen (by simp) (by simp) (by simp) (by simp)
  | putsBack hholder | defers hholder =>
    obtain ⟨hdecided, hopen⟩ := not_closing_of_table (.inr (.inl hholder))
    exact h.moveHolder p.stopRequested hdecided hopen (by simp) (by simp) (by simp) (by simp)
  | collects hholder hworker => exact h.destroy hworker (.inl hholder)
  | stops hholder hworker => exact h.destroy hworker (.inr (.inl hholder))
  | stopsClosing hholder hworker => exact h.destroy hworker (.inr (.inr ⟨_, _, hholder⟩))
  | abandons deferred hholder => exact h.abandons hholder deferred
  | stopsAbandoning hholder hworker => exact h.stopsAbandoning hholder hworker
  | timesOut hholder =>
    obtain ⟨hdecided, hopen⟩ := not_closing_of_table (.inr (.inr ⟨_, _, hholder⟩))
    refine h.moveHolder p.stopRequested hdecided hopen (by simp) (by simp) ?_ (by simp)
    rintro _ ⟨rfl, _⟩
    exact h.givenUp _ hholder
  | leaks hholder =>
    obtain ⟨hdecided, hopen⟩ := not_closing_of_table (.inr (.inr ⟨_, _, hholder⟩))
    exact h.moveHolder p.stopRequested hdecided hopen (by simp) (by simp) (by simp) (by simp)
  | setsUp hworker =>
    exact h.moveWorker (h.not_closing (by simp [hworker]) (by simp [hworker])) (by simp [hworker])
      (by simp) (by simp) (fun _ ↦ h.pinned (.inl hworker)) (by simp)
  | proceeds hworker _ howned _ =>
    obtain ⟨hassigned, hhandle, hzero⟩ := h.owned howned
    exact h.moveWorker (h.not_closing (by simp [hworker]) (by simp [hworker])) (by simp [hworker])
      (by simp) (by simp) (fun _ ↦ h.pinned (.inr (.inl hworker)))
      (fun _ ↦ ⟨hhandle, hassigned, hzero⟩)
  | endsWaiting hworker _ | failsWaiting hworker _ =>
    exact h.moveWorker (h.not_closing (by simp [hworker]) (by simp [hworker])) (by simp [hworker])
      (by simp) (by simp) (by simp) (by simp)
  | ends hworker _ | fails hworker =>
    have hrunning : p.worker ≠ absent ∧ p.worker ≠ ended ∧ p.worker ≠ deleting claimed := by
      rcases hworker with hworker | hworker <;> simp [hworker]
    obtain ⟨habsent, hended, hdeleting⟩ := hrunning
    exact h.moveWorker (h.not_closing habsent hended) hdeleting (by simp) (by simp) (by simp)
      (by simp)
  | workerClaims hworker hcompleted => exact h.workerClaims hworker hcompleted
  | workerGivesUp hworker _ =>
    exact h.moveWorker (h.not_closing (by simp [hworker]) (by simp [hworker])) (by simp [hworker])
      (by simp) (by simp) (by simp) (by simp)
  | workerDeletes hworker => exact h.workerDeletes hworker
  | workerReleases hworker => exact h.workerReleases hworker
  | claims hholder _ => exact h.destructorClaims hholder
  | givesUp hholder hcompleted =>
    have hnone : p.assigned = none := by simpa [h.completed] using hcompleted
    exact absurd hnone (h.assigned_ne_none (by simp [hholder]))
  | deletes hholder => exact h.destructorDeletes hholder
  | releases hholder => exact h.destructorReleases hholder

/-- Every reachable processor is sound. -/
theorem Sound.run (hrun : Relation.ReflTransGen SwapchainStep {} p) : p.Sound := by
  induction hrun with
  | refl => exact .start
  | tail _ hstep ih => exact ih.step hstep

end SwapchainProcessor

/-! ## The swapchain -/

/-- **A swapchain is deleted once.**  Whatever the order of the steps, the swapchain is deleted at
most once, only if the callback took it, and its reference is dropped at most once.  While the
worker takes frames, the swapchain has neither been deleted nor let go, and the processor is there.
When the processor is freed, its worker has stopped, the reference is dropped, and a swapchain that
was taken has been deleted or given up. -/
theorem swapchain_deleted_once {p : SwapchainProcessor}
    (hrun : Relation.ReflTransGen SwapchainStep {} p) :
    p.deletions ≤ 1 ∧ (p.deletions = 1 → p.assigned = some true) ∧ p.dereferences ≤ 1 ∧
      (p.worker = taking → p.handle = true ∧ p.referenced = true ∧ p.deletions = 0 ∧
        p.holder ≠ freed) ∧
      (p.worker = deleting claimed ∨ p.holder = destroying claimed →
        p.deletions = 0 ∧ p.assigned = some true) ∧
      (p.holder = freed → (p.worker = absent ∨ p.worker = ended) ∧ p.dereferences = 1 ∧
        (p.assigned = some true → p.deletions = 1 ∨ p.abandoned = true)) := by
  have h := Sound.run hrun
  have hdeletions : p.deletions ≤ p.claims := by
    simp only [claims]
    omega
  have hclaims : p.claims ≤ 1 := by
    by_cases hzero : p.claims = 0
    · simp [hzero]
    · exact (h.claimedOnce hzero).1.le
  have htaken : p.claims = 1 → p.assigned = some true := fun hone ↦
    (h.claimedOnce (by simp [hone])).2
  refine ⟨by omega, fun hone ↦ htaken (by omega), ?_, ?_, ?_, ?_⟩
  · have := h.reference
    omega
  · intro hworker
    obtain ⟨hhandle, _, hzero⟩ := h.inUse hworker
    have hopen := h.not_closing (by simp [hworker]) (by simp [hworker])
    exact ⟨hhandle, h.pinned (.inr (.inr hworker)), by omega, fun hfreed ↦ hopen (.inl hfreed)⟩
  · intro hclaimed
    have hone : p.deletions + 1 ≤ p.claims := by
      rcases hclaimed with hclaimed | hclaimed <;> simp [claims, hclaimed]
    exact ⟨by omega, htaken (by omega)⟩
  · intro hfreed
    have hworker := h.closing (.inl hfreed)
    have hdereferences : p.dereferences = 1 := by
      simpa [h.closed hfreed] using h.reference
    have hdeleted : p.claims = p.deletions := by
      rcases hworker with hworker | hworker <;> simp [claims, hworker, hfreed]
    refine ⟨hworker, hdereferences, fun hassigned ↦ ?_⟩
    rw [← hdeleted]
    exact h.kept_of_closing (.inl hfreed) (by simp [hfreed]) hassigned

/-- The callback takes the swapchain, the worker fails and deletes it, and a departure finds the
worker stopped. -/
theorem swapchain_deleted_once_failed :
    ∃ p : SwapchainProcessor, p.holder = freed ∧ p.assigned = some true ∧ p.deletions ≤ 1 ∧
      (p.deletions = 1 ∨ p.abandoned = true) := by
  let committed : SwapchainProcessor :=
    { worker := taking, holder := table, assigned := some true, assignCompleted := true
      driverOwnsSwapchain := true }
  let deleted : SwapchainProcessor :=
    { committed with worker := ended, handle := false, driverOwnsSwapchain := false
                     referenced := false, deletions := 1, dereferences := 1 }
  let closed : SwapchainProcessor := { deleted with stopRequested := true, holder := freed }
  have hcommitted : Relation.ReflTransGen SwapchainStep {} committed :=
    (((Relation.ReflTransGen.single (.starts rfl rfl)).tail (.setsUp rfl)).tail
      (.commits rfl (by simp))).tail (.proceeds rfl rfl rfl rfl)
  have hdeleted : Relation.ReflTransGen SwapchainStep {} deleted :=
    (((hcommitted.tail (.fails (.inr rfl))).tail (.workerClaims rfl rfl)).tail
      (.workerDeletes rfl)).tail (.workerReleases rfl)
  have hclosed : Relation.ReflTransGen SwapchainStep {} closed :=
    (((hdeleted.tail (.takes rfl)).tail (.stops rfl rfl)).tail (.claims rfl rfl)).tail
      (.releases rfl)
  obtain ⟨hdeletions, _, _, _, _, hfreed⟩ := swapchain_deleted_once hclosed
  exact ⟨closed, rfl, rfl, hdeletions, (hfreed rfl).2.2 rfl⟩

end VirtualDisplay
