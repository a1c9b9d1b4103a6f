import VirtualDisplay.Drm.Device
import VirtualDisplay.Drm.Frames

/-!
# Counting commits, and shutting down

* `Reachable.counts` — each CRTC's count of pending commits is right at all times.
* `Reachable.shutdown` — who holds which lock, and what the shutdown has done so far.
* `commitAccounting_quiesce` — what the two come to: no count underflows, nothing is accepted,
  pending or presented behind a call that quiesces, and the device is unplugged only once.

## What is here

* `CommitPhase.counts`, `VkmsDevice.Counts` — the count of a CRTC is the number of accepted commits
  that touch it and have neither been published nor taken back there.  A commit visits the outputs
  one after the other, so it may count on some of them and not on others at one moment.
* `VkmsDevice.Calls` — at most one task is in `vkms_atomic_commit`, and it holds `commit_lock`.  The
  shutdown helper commits from within, so its own commits are let through.
* `VkmsDevice.Holders`, `VkmsDevice.Shutdown` — who holds `shutdown_lock`, and what has been given
  up so far: once commits are no longer accepted and the owner is gone, each commit is finished and
  each frame released.
* `VkmsDevice.Unplugged` — the flag that is tested and set under the lock makes one task unplug.

Each of these is an invariant with a lemma for the steps of commits and one for the steps of tasks;
a step of a commit changes nothing of the shutdown (`VkmsDevice.CommitStep.control`), which keeps
the two kinds apart.
-/

set_option autoImplicit false

namespace VirtualDisplay

/-! ## What a commit touches -/

namespace AtomicCommit

theorem touchesCrtc_mark (commit : AtomicCommit) (hasFence : Pointer → Bool) (crtc : Pointer) :
    (commit.markPresentationContentUpdates hasFence).touchesCrtc crtc =
      commit.touchesCrtc crtc := by
  simp [touchesCrtc, markPresentationContentUpdates, Transition.isOn, List.any_map,
    Function.comp_def,
    Option.any_map]

theorem touchesCrtc_add (commit : AtomicCommit) (hasFence : Pointer → Bool) (crtc : Pointer) :
    (commit.addPresentationContentUpdates hasFence).touchesCrtc crtc = commit.touchesCrtc crtc := by
  simp [touchesCrtc, addPresentationContentUpdates, Transition.isOn, List.any_map,
    Function.comp_def,
    Option.any_map]

end AtomicCommit

/-! ## Counting -/

/-- The commit has been counted on the `i`-th CRTC, and not been published or taken back there. -/
def CommitPhase.counts (phase : CommitPhase) (i : Nat) : Bool :=
  match phase with
  | adding k => decide (i < k)
  | helper => true
  | tail k | removing k => decide (k ≤ i)
  | finished => false

/-- An output that the tail or the error path has passed counts no more. -/
theorem CommitPhase.counts_passed (i : Nat) :
    (tail (i + 1)).counts i = false ∧ (removing (i + 1)).counts i = false := by
  have hpast : ¬i + 1 ≤ i := Nat.not_succ_le_self i
  exact ⟨decide_eq_false hpast, decide_eq_false hpast⟩

/-- The commit is counted on the CRTC still. -/
def InFlight.outstanding (r : InFlight) (i : Nat) (crtc : Pointer) : Bool :=
  r.commit.touchesCrtc crtc && r.phase.counts i

namespace VkmsDevice

variable {d d' : VkmsDevice}

/-- The accepted commits that touch the `i`-th CRTC and have not been published or taken back. -/
def outstanding (d : VkmsDevice) (i : Nat) (crtc : Pointer) : Nat :=
  d.commits.countP (·.outstanding i crtc)

/-- The pending commits of each CRTC are counted. -/
def Counts (d : VkmsDevice) : Prop :=
  ∀ (i : Nat) (o : VkmsOutput), d.outputs[i]? = some o →
    o.pendingCommits = d.outstanding i o.crtc

theorem countP_split (before after : List InFlight) (r : InFlight) (i : Nat) (crtc : Pointer) :
    (before ++ r :: after).countP (·.outstanding i crtc) =
      before.countP (·.outstanding i crtc) + after.countP (·.outstanding i crtc) +
        (r.outstanding i crtc).toNat := by
  rw [List.countP_append, List.countP_cons]
  cases r.outstanding i crtc <;> simp [Nat.add_assoc]

theorem outstanding_split {before after : List InFlight} {r : InFlight}
    (h : d.commits = before ++ r :: after) (i : Nat) (crtc : Pointer) :
    d.outstanding i crtc =
      before.countP (·.outstanding i crtc) + after.countP (·.outstanding i crtc) +
        (r.outstanding i crtc).toNat := by
  rw [outstanding, h, countP_split]

/-- A commit goes on without being counted or published. -/
theorem Counts.replace {before after : List InFlight} {r r' : InFlight} (h : d.Counts)
    (hcommits : d.commits = before ++ r :: after) (houtputs : d'.outputs = d.outputs)
    (hcommits' : d'.commits = before ++ r' :: after)
    (hsame : ∀ i < d.outputs.length, ∀ crtc, r'.outstanding i crtc = r.outstanding i crtc) :
    d'.Counts := by
  intro i o ho
  rw [houtputs] at ho
  have hi : i < d.outputs.length := (List.getElem?_eq_some_iff.mp ho).1
  rw [h i o ho, outstanding_split hcommits, outstanding_split hcommits', hsame i hi]

/-- A commit is counted on a CRTC, or is published or taken back there. -/
theorem Counts.modify {before after : List InFlight} {r r' : InFlight} {k : Nat}
    {f : VkmsOutput → VkmsOutput} (h : d.Counts) (hcommits : d.commits = before ++ r :: after)
    (houtputs : d'.outputs = d.outputs.modify k f) (hcommits' : d'.commits = before ++ r' :: after)
    (hcommit : r'.commit = r.commit) (hsame : ∀ i ≠ k, r'.phase.counts i = r.phase.counts i)
    (hcrtc : ∀ o, (f o).crtc = o.crtc)
    (hpending : ∀ o : VkmsOutput, (r.outstanding k o.crtc).toNat ≤ o.pendingCommits →
      (f o).pendingCommits = o.pendingCommits - (r.outstanding k o.crtc).toNat +
        (r'.outstanding k o.crtc).toNat) :
    d'.Counts := by
  intro i o ho
  rw [houtputs, List.getElem?_modify, Option.map_eq_map, Option.map_eq_some_iff] at ho
  obtain ⟨o', ho', rfl⟩ := ho
  have hcount := h i o' ho'
  rw [outstanding_split hcommits] at hcount
  rw [outstanding_split hcommits']
  by_cases hk : k = i
  · subst hk
    rw [if_pos rfl, hcrtc, hpending o' (by omega)]
    omega
  · rw [if_neg hk, hcount, InFlight.outstanding, InFlight.outstanding, hcommit,
      hsame i (Ne.symm hk)]

theorem Counts.release (h : d.Counts) (k : Nat) (hcommits : d'.commits = d.commits)
    (houtputs : d'.outputs = d.outputs.modify k VkmsOutput.releasePresentedFrame) : d'.Counts := by
  intro i o ho
  rw [houtputs, List.getElem?_modify, Option.map_eq_map, Option.map_eq_some_iff] at ho
  obtain ⟨o', ho', rfl⟩ := ho
  rw [outstanding, hcommits]
  have hcount := h i o' ho'
  split_ifs <;> exact hcount

theorem Counts.same (h : d.Counts) (hcommits : d'.commits = d.commits)
    (houtputs : d'.outputs = d.outputs) : d'.Counts := by
  intro i o ho
  rw [outstanding, hcommits]
  exact h i o (houtputs ▸ ho)

end VkmsDevice

namespace VkmsOutput

theorem updatePending_crtc (o : VkmsOutput) (commit : AtomicCommit) (add : Bool) :
    (o.updatePending commit add).crtc = o.crtc := by
  rw [updatePending]
  split_ifs <;> rfl

theorem updatePending_add (o : VkmsOutput) (commit : AtomicCommit) :
    (o.updatePending commit true).pendingCommits =
      o.pendingCommits + (commit.touchesCrtc o.crtc).toNat := by
  rw [updatePending]
  cases commit.touchesCrtc o.crtc <;> simp

theorem decPendingCommits_of_pos {o : VkmsOutput} (h : 1 ≤ o.pendingCommits) :
    o.decPendingCommits.pendingCommits = o.pendingCommits - 1 := by
  rw [decPendingCommits]
  exact if_neg (by omega)

/-- The count does not run below zero if the commit is one of those counted. -/
theorem updatePending_remove {o : VkmsOutput} {commit : AtomicCommit}
    (h : (commit.touchesCrtc o.crtc).toNat ≤ o.pendingCommits) :
    (o.updatePending commit false).pendingCommits =
      o.pendingCommits - (commit.touchesCrtc o.crtc).toNat := by
  rw [updatePending]
  cases htouches : commit.touchesCrtc o.crtc with
  | false => simp
  | true =>
    rw [htouches] at h
    exact decPendingCommits_of_pos h

theorem signalPresented_pending {o : VkmsOutput} {p : Publication}
    (h : (p.commit.touchesCrtc o.crtc).toNat ≤ o.pendingCommits) :
    (o.signalPresented p).pendingCommits =
      o.pendingCommits - (p.commit.touchesCrtc o.crtc).toNat := by
  rw [signalPresented]
  cases htouches : p.commit.touchesCrtc o.crtc with
  | false => simp
  | true =>
    rw [htouches] at h
    have hpresent : 1 ≤ (o.present p).pendingCommits := h
    rw [if_neg (by decide)]
    split_ifs
    · exact decPendingCommits_of_pos hpresent
    · exact decPendingCommits_of_pos h

end VkmsOutput

namespace VkmsDevice

variable {d d' : VkmsDevice}

theorem Counts.commitStep (h : d.Counts) (hstep : CommitStep d d') : d'.Counts := by
  cases hstep with
  | reject => exact h
  | accept t commit =>
    intro i o ho
    rw [h i o ho, outstanding, outstanding, List.countP_append]
    simp [InFlight.outstanding, CommitPhase.counts]
  | @addPending before after r i hcommits hphase hmore =>
    refine h.modify hcommits rfl rfl rfl (fun j hj ↦ ?_)
      (fun o ↦ o.updatePending_crtc r.commit true) fun o _ ↦ ?_
    · rw [hphase]
      exact decide_eq_decide.mpr (by omega)
    · rw [VkmsOutput.updatePending_add]
      simp [InFlight.outstanding, CommitPhase.counts, hphase]
  | @enterHelper before after r hasFence hcommits hphase =>
    refine h.replace hcommits rfl rfl fun i hi crtc ↦ ?_
    rw [InFlight.outstanding, InFlight.outstanding, AtomicCommit.touchesCrtc_mark, hphase]
    simp [CommitPhase.counts, hi]
  | @helperFails before after r hcommits hphase =>
    refine h.replace hcommits rfl rfl fun i hi crtc ↦ ?_
    rw [InFlight.outstanding, InFlight.outstanding, hphase]
    simp [CommitPhase.counts]
  | @helperCommits before after r hasFence hcommits hphase =>
    refine h.replace hcommits rfl rfl fun i hi crtc ↦ ?_
    rw [InFlight.outstanding, InFlight.outstanding, AtomicCommit.touchesCrtc_add, hphase]
    simp [CommitPhase.counts]
  | @publish before after r i timestampNs hcommits hphase hmore =>
    refine h.modify hcommits rfl rfl rfl (fun j hj ↦ ?_)
      (fun o ↦ (VkmsOutput.signalPresented_ids _).1) fun o ho ↦ ?_
    · rw [hphase]
      exact decide_eq_decide.mpr (by omega)
    · have houtstanding : r.outstanding i o.crtc = r.commit.touchesCrtc o.crtc := by
        simp [InFlight.outstanding, CommitPhase.counts, hphase]
      rw [houtstanding] at ho ⊢
      rw [VkmsOutput.signalPresented_pending (p := ⟨r.commit, timestampNs⟩) ho]
      simp [InFlight.outstanding, (CommitPhase.counts_passed i).1]
  | @finishTail before after r hcommits hphase =>
    refine h.replace hcommits rfl rfl fun i hi crtc ↦ ?_
    rw [InFlight.outstanding, InFlight.outstanding, hphase]
    simp [CommitPhase.counts, hi]
  | @removePending before after r i hcommits hphase hmore =>
    refine h.modify hcommits rfl rfl rfl (fun j hj ↦ ?_)
      (fun o ↦ o.updatePending_crtc r.commit false) fun o ho ↦ ?_
    · rw [hphase]
      exact decide_eq_decide.mpr (by omega)
    · have houtstanding : r.outstanding i o.crtc = r.commit.touchesCrtc o.crtc := by
        simp [InFlight.outstanding, CommitPhase.counts, hphase]
      rw [houtstanding] at ho ⊢
      rw [VkmsOutput.updatePending_remove ho]
      simp [InFlight.outstanding, (CommitPhase.counts_passed i).2]
  | @returnError before after r hcommits hphase =>
    refine h.replace hcommits rfl rfl fun i hi crtc ↦ ?_
    rw [InFlight.outstanding, InFlight.outstanding, hphase]
    simp [CommitPhase.counts, hi]
  | returnOk hcommits => exact h.replace hcommits rfl rfl fun _ _ _ ↦ rfl

theorem Counts.taskStep (h : d.Counts) (hstep : TaskStep d d') : d'.Counts := by
  cases hstep with
  | releaseFrame | releaseFrameAgain => exact h.release _ rfl rfl
  | _ => exact h.same rfl rfl

theorem Reachable.counts (h : Reachable d) : d.Counts := by
  induction h with
  | initial h =>
    obtain ⟨outputs, rfl, hfresh⟩ := h
    intro i o ho
    rw [(hfresh o (List.mem_of_getElem? ho)).1]
    rfl
  | step _ hstep ih =>
    obtain hstep | hstep := hstep
    · exact ih.commitStep hstep
    · exact ih.taskStep hstep

end VkmsDevice

/-! ## Calls -/

/-- The commit is in `vkms_atomic_commit`: DRM has not taken it over. -/
def CommitPhase.isLocked : CommitPhase → Bool
  | adding _ | helper | removing _ => true
  | tail _ | finished => false

namespace VkmsDevice

variable {d d' : VkmsDevice}

/-- Only one task is in `vkms_atomic_commit`, and it holds `commit_lock`. -/
structure Calls (d : VkmsDevice) : Prop where
  lock : ∀ r ∈ d.commits, r.inCall = true → d.commitLock = some r.task
  one : d.commits.countP (·.inCall) ≤ 1
  locked : ∀ r ∈ d.commits, r.phase.isLocked = true → r.inCall = true

theorem Calls.not_inCall (h : d.Calls) (hlock : d.commitLock = none) {r : InFlight}
    (hr : r ∈ d.commits) : r.inCall = false := by
  by_contra hcall
  exact nomatch hlock.symm.trans (h.lock r hr (by simpa using hcall))

theorem mem_replace {before after : List InFlight} {r r' x : InFlight}
    (hcommits : d.commits = before ++ r :: after) (hx : x ∈ before ++ r' :: after) :
    x = r' ∨ x ∈ d.commits := by
  rw [List.mem_append, List.mem_cons] at hx
  rw [hcommits, List.mem_append, List.mem_cons]
  tauto

/-- A commit goes on in the same call. -/
theorem Calls.replace {before after : List InFlight} {r r' : InFlight} (h : d.Calls)
    (hcommits : d.commits = before ++ r :: after) (hlock : d'.commitLock = d.commitLock)
    (hcommits' : d'.commits = before ++ r' :: after) (htask : r'.task = r.task)
    (hcall : r'.inCall = r.inCall)
    (hlocked : r'.phase.isLocked = true → r.phase.isLocked = true) : d'.Calls := by
  have hold (x : InFlight) (hx : x ∈ d'.commits) : x = r' ∨ x ∈ d.commits :=
    mem_replace hcommits (hcommits' ▸ hx)
  have hr : r ∈ d.commits := hcommits ▸ List.mem_append_cons_self
  refine ⟨fun x hx hxcall ↦ ?_, ?_, fun x hx hxlocked ↦ ?_⟩
  · rw [hlock]
    obtain rfl | hx := hold x hx
    · rw [htask]
      exact h.lock r hr (hcall ▸ hxcall)
    · exact h.lock x hx hxcall
  · have hone := h.one
    rw [hcommits, List.countP_append, List.countP_cons] at hone
    rwa [hcommits', List.countP_append, List.countP_cons, hcall]
  · obtain rfl | hx := hold x hx
    · rw [hcall]
      exact h.locked r hr (hlocked hxlocked)
    · exact h.locked x hx hxlocked

/-- The call of a commit returns. -/
theorem Calls.return {before after : List InFlight} {r r' : InFlight} (h : d.Calls)
    (hcommits : d.commits = before ++ r :: after) (hinCall : r.inCall = true)
    (hcommits' : d'.commits = before ++ r' :: after) (hcall : r'.inCall = false)
    (hlocked : r'.phase.isLocked = false) : d'.Calls := by
  have hone := h.one
  rw [hcommits, List.countP_append, List.countP_cons, if_pos hinCall] at hone
  have hbefore : before.countP (·.inCall) = 0 := by omega
  have hafter : after.countP (·.inCall) = 0 := by omega
  rw [List.countP_eq_zero] at hbefore hafter
  have hnone (x : InFlight) (hx : x ∈ d'.commits) : ¬x.inCall = true := by
    rw [hcommits', List.mem_append, List.mem_cons] at hx
    obtain hx | rfl | hx := hx
    · exact hbefore x hx
    · simp [hcall]
    · exact hafter x hx
  refine ⟨fun x hx hxcall ↦ absurd hxcall (hnone x hx), ?_, fun x hx hxlocked ↦ ?_⟩
  · rw [(List.countP_eq_zero.mpr hnone : d'.commits.countP (·.inCall) = 0)]
    exact Nat.zero_le 1
  · rw [hcommits', List.mem_append, List.mem_cons] at hx
    have hmem (hx : x ∈ before ∨ x ∈ after) : x ∈ d.commits := by
      rw [hcommits, List.mem_append, List.mem_cons]
      tauto
    obtain hx | rfl | hx := hx
    · exact absurd (h.locked x (hmem (.inl hx)) hxlocked) (hbefore x hx)
    · exact nomatch hlocked.symm.trans hxlocked
    · exact absurd (h.locked x (hmem (.inr hx)) hxlocked) (hafter x hx)

theorem Calls.commitStep (h : d.Calls) (hstep : CommitStep d d') : d'.Calls := by
  cases hstep with
  | reject => exact h
  | accept t commit hpc hlock =>
    have hnone (r : InFlight) (hr : r ∈ d.commits) : ¬r.inCall = true := by
      simp [h.not_inCall hlock hr]
    refine ⟨fun r hr hcall ↦ ?_, ?_, fun r hr hlocked ↦ ?_⟩
    · obtain hr | hr := List.mem_append.mp hr
      · exact absurd hcall (hnone r hr)
      · rw [List.mem_singleton.mp hr]
    · rw [List.countP_append, List.countP_eq_zero.mpr hnone]
      exact Nat.le_refl 1
    · obtain hr | hr := List.mem_append.mp hr
      · exact h.locked r hr hlocked
      · rw [List.mem_singleton.mp hr]
  | addPending hcommits hphase | helperFails hcommits hphase | removePending hcommits hphase =>
    exact h.replace hcommits rfl rfl rfl rfl fun _ ↦ by rw [hphase]; rfl
  | enterHelper hasFence hcommits hphase =>
    exact h.replace hcommits rfl rfl rfl rfl fun _ ↦ by rw [hphase]; rfl
  | helperCommits hasFence hcommits hphase => exact h.replace hcommits rfl rfl rfl rfl nofun
  | publish timestampNs hcommits hphase => exact h.replace hcommits rfl rfl rfl rfl nofun
  | finishTail hcommits hphase => exact h.replace hcommits rfl rfl rfl rfl nofun
  | @returnError before after r hcommits hphase =>
    have hcall := h.locked r (hcommits ▸ List.mem_append_cons_self) (by rw [hphase]; rfl)
    exact h.return hcommits hcall rfl rfl rfl
  | returnOk hcommits hcall hphase =>
    refine h.return hcommits hcall rfl rfl ?_
    obtain hphase | ⟨i, hphase⟩ := hphase <;> rw [hphase] <;> rfl

theorem Calls.taskStep (h : d.Calls) (hstep : TaskStep d d') : d'.Calls := by
  have hsame : d'.commits = d.commits ∧ d'.commitLock = d.commitLock := by
    cases hstep <;> exact ⟨rfl, rfl⟩
  obtain ⟨hcommits, hlock⟩ := hsame
  exact ⟨by rw [hcommits, hlock]; exact h.lock, by rw [hcommits]; exact h.one,
    by rw [hcommits]; exact h.locked⟩

theorem Reachable.calls (h : Reachable d) : d.Calls := by
  induction h with
  | initial h =>
    obtain ⟨outputs, rfl, -⟩ := h
    exact ⟨nofun, Nat.zero_le 1, nofun⟩
  | step _ hstep ih =>
    obtain hstep | hstep := hstep
    · exact ih.commitStep hstep
    · exact ih.taskStep hstep

/-! ## The shutdown -/

end VkmsDevice

namespace Pc

/-- The task holds `shutdown_lock`. -/
def holdsShutdownLock : Pc → Bool
  | checkAccepting _ | helperShutdown _ | releaseFrames _ _ | unlockShutdown _ | releaseAgain _
  | unplug => true
  | _ => false

/-- The task's own commits are let through. -/
def isShutdownOwner : Pc → Bool
  | helperShutdown _ | releaseFrames _ _ => true
  | _ => false

/-- In `vkms_shutdown_release`, behind its call of `vkms_quiesce`. -/
def isBehindQuiesce : Pc → Bool
  | release | releaseAgain _ | unplug => true
  | _ => false

/-- A task goes on, takes a lock that is free, or gives back the one it holds. -/
theorem holder_update {P : Pc → Bool} {pcs : Task → Pc} {lock lock' : Option Task} {t : Task}
    {pc : Pc} (h : ∀ t, P (pcs t) = true ↔ lock = some t)
    (hstep : (P pc = P (pcs t) ∧ lock' = lock) ∨ (lock = none ∧ P pc = true ∧ lock' = some t) ∨
      (P (pcs t) = true ∧ P pc = false ∧ lock' = none)) (t' : Task) :
    P (Function.update pcs t pc t') = true ↔ lock' = some t' := by
  by_cases ht : t' = t
  · subst ht
    rw [Function.update_self]
    obtain ⟨hpc, hlock⟩ | ⟨-, hpc, hlock⟩ | ⟨-, hpc, hlock⟩ := hstep
    · rw [hpc, hlock]
      exact h t'
    · simp [hpc, hlock]
    · simp [hpc, hlock]
  · rw [Function.update_of_ne ht, h t']
    obtain ⟨-, hlock⟩ | ⟨hfree, -, hlock⟩ | ⟨hheld, -, hlock⟩ := hstep
    · rw [hlock]
    · simp [hfree, hlock, Ne.symm ht]
    · simp [(h t).mp hheld, hlock, Ne.symm ht]

end Pc

namespace VkmsDevice

variable {d d' : VkmsDevice}

/-- The tasks hold the lock and the ownership that they are said to hold. -/
structure Holders (d : VkmsDevice) : Prop where
  lock : ∀ t, (d.pcs t).holdsShutdownLock = true ↔ d.shutdownLock = some t
  owner : ∀ t, (d.pcs t).isShutdownOwner = true ↔ d.shutdownOwner = some t
  closed : ∀ t, d.shutdownOwner = some t → d.acceptingCommits = false

/-- A commit changes nothing of the shutdown. -/
theorem CommitStep.control (hstep : CommitStep d d') :
    d'.pcs = d.pcs ∧ d'.shutdownLock = d.shutdownLock ∧ d'.shutdownOwner = d.shutdownOwner ∧
      d'.acceptingCommits = d.acceptingCommits ∧ d'.quiesced = d.quiesced ∧
      d'.unplugged = d.unplugged ∧ d'.unplugs = d.unplugs := by
  cases hstep <;> exact ⟨rfl, rfl, rfl, rfl, rfl, rfl, rfl⟩

theorem Holders.commitStep (h : d.Holders) (hstep : CommitStep d d') : d'.Holders := by
  obtain ⟨hpcs, hlock, howner, haccepting, -⟩ := hstep.control
  exact ⟨by rw [hpcs, hlock]; exact h.lock, by rw [hpcs, howner]; exact h.owner,
    by rw [howner, haccepting]; exact h.closed⟩

/-- One task only holds the lock, and an owner does. -/
theorem Holders.owner_none (h : d.Holders) {t : Task} (hlock : (d.pcs t).holdsShutdownLock = true)
    (hpc : (d.pcs t).isShutdownOwner = false) : d.shutdownOwner = none := by
  by_contra howner
  obtain ⟨t', howner⟩ := Option.ne_none_iff_exists'.mp howner
  have hpc' := (h.owner t').mpr howner
  have hlock' : (d.pcs t').holdsShutdownLock = true := by
    revert hpc'
    cases d.pcs t' <;> simp [Pc.isShutdownOwner, Pc.holdsShutdownLock]
  obtain rfl : t = t' := Option.some.inj (((h.lock t).mp hlock).symm.trans ((h.lock t').mp hlock'))
  exact nomatch hpc.symm.trans hpc'

theorem Holders.taskStep (h : d.Holders) (hstep : TaskStep d d') : d'.Holders := by
  cases hstep with
  | beginQuiesce t release hpc | helperShutdownReturns hpc | alreadyUnplugged hpc =>
    exact ⟨Pc.holder_update h.lock (.inl ⟨by rw [hpc]; rfl, rfl⟩),
      Pc.holder_update h.owner (.inl ⟨by rw [hpc]; rfl, rfl⟩), h.closed⟩
  | releaseFrame hpc | releaseFrameAgain hpc | unplug hpc =>
    have hlock := congrArg Pc.holdsShutdownLock hpc
    have howner := congrArg Pc.isShutdownOwner hpc
    exact ⟨Pc.holder_update h.lock (.inl ⟨hlock.symm, rfl⟩),
      Pc.holder_update h.owner (.inl ⟨howner.symm, rfl⟩), h.closed⟩
  | lockShutdown hpc hlock | markUnplugged hpc hlock =>
    exact ⟨Pc.holder_update h.lock (.inr (.inl ⟨hlock, rfl, rfl⟩)),
      Pc.holder_update h.owner (.inl ⟨by rw [hpc]; rfl, rfl⟩), h.closed⟩
  | @alreadyQuiesced t release hpc | @endQuiesce t release hpc =>
    have hafter : (Pc.afterQuiesce release).holdsShutdownLock = false ∧
        (Pc.afterQuiesce release).isShutdownOwner = false := by cases release <;> exact ⟨rfl, rfl⟩
    exact ⟨Pc.holder_update h.lock (.inr (.inr ⟨by rw [hpc]; rfl, hafter.1, rfl⟩)),
      Pc.holder_update h.owner (.inl ⟨by rw [hpc, hafter.2]; rfl, rfl⟩), h.closed⟩
  | @stopAccepting t release hpc =>
    have howner := h.owner_none (t := t) (by rw [hpc]; rfl) (by rw [hpc]; rfl)
    exact ⟨Pc.holder_update h.lock (.inl ⟨by rw [hpc]; rfl, rfl⟩),
      Pc.holder_update h.owner (.inr (.inl ⟨howner, rfl, rfl⟩)), fun _ _ ↦ rfl⟩
  | clearOwner hpc =>
    exact ⟨Pc.holder_update h.lock (.inl ⟨by rw [hpc]; rfl, rfl⟩),
      Pc.holder_update h.owner (.inr (.inr ⟨by rw [hpc]; rfl, rfl, rfl⟩)), nofun⟩
  | endRelease hpc =>
    exact ⟨Pc.holder_update h.lock (.inr (.inr ⟨by rw [hpc]; rfl, rfl, rfl⟩)),
      Pc.holder_update h.owner (.inl ⟨by rw [hpc]; rfl, rfl⟩), h.closed⟩

theorem Reachable.holders (h : Reachable d) : d.Holders := by
  induction h with
  | initial h =>
    obtain ⟨outputs, rfl, -⟩ := h
    exact ⟨fun _ ↦ by simp [Pc.holdsShutdownLock], fun _ ↦ by simp [Pc.isShutdownOwner], nofun⟩
  | step _ hstep ih =>
    obtain hstep | hstep := hstep
    · exact ih.commitStep hstep
    · exact ih.taskStep hstep

/-- No commit is accepted any more. -/
def Stopped (d : VkmsDevice) : Prop := d.acceptingCommits = false ∧ d.shutdownOwner = none

/-- A task gives up the frames. -/
def IsReleasing (d : VkmsDevice) : Prop := ∃ t release i, d.pcs t = .releaseFrames release i

/-- What the shutdown has done so far. -/
structure Shutdown (d : VkmsDevice) : Prop where
  mine : d.acceptingCommits = false →
    ∀ r ∈ d.commits, r.inCall = true → d.shutdownOwner = some r.task
  drained : d.Stopped ∨ d.IsReleasing → ∀ r ∈ d.commits, r.phase = .finished ∧ r.inCall = false
  releasing : ∀ t release i, d.pcs t = .releaseFrames release i →
    ∀ j < i, ∀ o : VkmsOutput, d.outputs[j]? = some o → o.presentFb = none
  released : d.Stopped → ∀ o ∈ d.outputs, o.presentFb = none
  unlocking : ∀ t release, d.pcs t = .unlockShutdown release → d.Stopped
  quiesced : d.quiesced = true → d.Stopped
  behind : ∀ t, (d.pcs t).isBehindQuiesce = true → d.quiesced = true

theorem CommitStep.stopped (hstep : CommitStep d d') : d'.Stopped ↔ d.Stopped := by
  obtain ⟨-, -, howner, haccepting, -⟩ := hstep.control
  rw [Stopped, Stopped, howner, haccepting]

/-- A commit that is accepted, or goes on, is one before the device is drained. -/
theorem CommitStep.cases_drained (hholders : d.Holders) (h : d.Shutdown)
    (hstep : CommitStep d d') : d' = d ∨ ¬(d.Stopped ∨ d.IsReleasing) := by
  have hunfinished {before after : List InFlight} {r : InFlight}
      (hcommits : d.commits = before ++ r :: after)
      (hr : r.phase ≠ .finished ∨ r.inCall = true) : ¬(d.Stopped ∨ d.IsReleasing) := by
    intro hdrained
    obtain ⟨hphase, hcall⟩ := h.drained hdrained r (hcommits ▸ List.mem_append_cons_self)
    obtain hr | hr := hr
    · exact hr hphase
    · exact nomatch hcall.symm.trans hr
  cases hstep with
  | reject => exact .inl rfl
  | accept t commit hpc hlock haccepted =>
    refine .inr ?_
    rintro (⟨hclosed, hnone⟩ | ⟨t', release, i, hreleasing⟩)
    · obtain hopen | howner := haccepted
      · exact nomatch hclosed.symm.trans hopen
      · exact nomatch hnone.symm.trans howner
    · have howner' := (hholders.owner t').mp (by rw [hreleasing]; rfl)
      obtain hopen | howner := haccepted
      · exact nomatch (hholders.closed t' howner').symm.trans hopen
      · obtain rfl : t = t' := Option.some.inj (howner.symm.trans howner')
        rw [hreleasing] at hpc
        exact nomatch hpc
  | addPending hcommits hphase | helperFails hcommits hphase | finishTail hcommits hphase
  | removePending hcommits hphase | returnError hcommits hphase =>
    exact .inr (hunfinished hcommits (.inl (by rw [hphase]; exact nofun)))
  | enterHelper _ hcommits hphase | helperCommits _ hcommits hphase | publish _ hcommits hphase =>
    exact .inr (hunfinished hcommits (.inl (by rw [hphase]; exact nofun)))
  | returnOk hcommits hcall => exact .inr (hunfinished hcommits (.inr hcall))

/-- A commit in a call was in one before, or has been accepted. -/
theorem CommitStep.inCall_of (hstep : CommitStep d d') {x : InFlight} (hx : x ∈ d'.commits)
    (hcall : x.inCall = true) :
    (∃ r ∈ d.commits, r.inCall = true ∧ r.task = x.task) ∨ d.acceptingCommits = true ∨
      d.shutdownOwner = some x.task := by
  have hreplace {before after : List InFlight} {r r' : InFlight}
      (hcommits : d.commits = before ++ r :: after) (hx : x ∈ before ++ r' :: after)
      (hr : r'.inCall = true → r.inCall = true) (htask : r'.task = r.task) :
      ∃ r ∈ d.commits, r.inCall = true ∧ r.task = x.task := by
    obtain rfl | hx := mem_replace hcommits hx
    · exact ⟨r, hcommits ▸ List.mem_append_cons_self, hr hcall, htask.symm⟩
    · exact ⟨x, hx, hcall, rfl⟩
  cases hstep with
  | reject => exact .inl ⟨x, hx, hcall, rfl⟩
  | accept t commit hpc hlock haccepted =>
    obtain hx | hx := List.mem_append.mp hx
    · exact .inl ⟨x, hx, hcall, rfl⟩
    · rw [List.mem_singleton.mp hx]
      exact .inr haccepted
  | addPending hcommits | helperFails hcommits | finishTail hcommits | removePending hcommits =>
    exact .inl (hreplace hcommits hx id rfl)
  | enterHelper _ hcommits | helperCommits _ hcommits | publish _ hcommits =>
    exact .inl (hreplace hcommits hx id rfl)
  | returnError hcommits | returnOk hcommits => exact .inl (hreplace hcommits hx nofun rfl)

theorem Shutdown.commitStep (hholders : d.Holders) (h : d.Shutdown) (hstep : CommitStep d d') :
    d'.Shutdown := by
  obtain rfl | hdraining := hstep.cases_drained hholders h
  · exact h
  obtain ⟨hpcs, -, howner, haccepting, hquiesced, -⟩ := hstep.control
  have hstopped := hstep.stopped
  have hreleasing : d'.IsReleasing ↔ d.IsReleasing := by rw [IsReleasing, IsReleasing, hpcs]
  rw [not_or] at hdraining
  refine ⟨fun hclosed x hx hcall ↦ ?_, fun hdrained ↦ ?_, fun t release i hpc ↦ ?_, fun hs ↦ ?_,
    fun t release hpc ↦ ?_, fun hq ↦ ?_, fun t hpc ↦ ?_⟩
  · rw [haccepting] at hclosed
    rw [howner]
    obtain ⟨r, hr, hrcall, htask⟩ | hopen | howner := hstep.inCall_of hx hcall
    · rw [← htask]
      exact h.mine hclosed r hr hrcall
    · exact nomatch hclosed.symm.trans hopen
    · exact howner
  · rw [hstopped, hreleasing] at hdrained
    exact absurd hdrained (not_or.mpr hdraining)
  · exact absurd (hreleasing.mp ⟨t, release, i, hpc⟩) hdraining.2
  · exact absurd (hstopped.mp hs) hdraining.1
  · exact hstopped.mpr (h.unlocking t release (hpcs ▸ hpc))
  · exact hstopped.mpr (h.quiesced (hquiesced ▸ hq))
  · rw [hquiesced]
    exact h.behind t (hpcs ▸ hpc)

theorem getElem?_releaseFrame {k j : Nat} {o' : VkmsOutput}
    (h : (d.outputs.modify k VkmsOutput.releasePresentedFrame)[j]? = some o') :
    ∃ o, d.outputs[j]? = some o ∧ (k = j ∨ o.presentFb = none → o'.presentFb = none) := by
  rw [List.getElem?_modify, Option.map_eq_map, Option.map_eq_some_iff] at h
  obtain ⟨o, ho, rfl⟩ := h
  refine ⟨o, ho, fun hnone ↦ ?_⟩
  split_ifs with hk
  · rfl
  · exact hnone.resolve_left hk

/-- A task goes on, without starting or ending the shutdown. -/
theorem Shutdown.move {t : Task} {pc : Pc} (h : d.Shutdown) (hcommits : d'.commits = d.commits)
    (hcontrol : d'.acceptingCommits = d.acceptingCommits ∧ d'.shutdownOwner = d.shutdownOwner)
    (hpcs : d'.pcs = Function.update d.pcs t pc)
    (hframes : ∀ (j : Nat) (o' : VkmsOutput), d'.outputs[j]? = some o' →
      ∃ o, d.outputs[j]? = some o ∧ (o.presentFb = none → o'.presentFb = none))
    (hreleasing : ∀ release i, pc = .releaseFrames release i →
      (∀ r ∈ d.commits, r.phase = .finished ∧ r.inCall = false) ∧
        ∀ j < i, ∀ o : VkmsOutput, d'.outputs[j]? = some o → o.presentFb = none)
    (hunlocking : ∀ release, pc = .unlockShutdown release → d.Stopped)
    (hquiesced : d'.quiesced = true → d.Stopped) (hmono : d.quiesced = true → d'.quiesced = true)
    (hbehind : pc.isBehindQuiesce = true → d'.quiesced = true) : d'.Shutdown := by
  obtain ⟨haccepting, howner⟩ := hcontrol
  have hstopped : d'.Stopped ↔ d.Stopped := by rw [Stopped, Stopped, haccepting, howner]
  have hcases {t' : Task} {pc' : Pc} (h : d'.pcs t' = pc') : pc = pc' ∨ d.pcs t' = pc' := by
    rw [hpcs] at h
    by_cases ht : t' = t
    · subst ht
      exact .inl (by rwa [Function.update_self] at h)
    · exact .inr (by rwa [Function.update_of_ne ht] at h)
  refine ⟨fun hclosed r hr hcall ↦ ?_, fun hdrained r hr ↦ ?_, fun t' release i ht' j hj o ho ↦ ?_,
    fun hs o ho ↦ ?_, fun t' release ht' ↦ ?_, fun hq ↦ hstopped.mpr (hquiesced hq),
    fun t' ht' ↦ ?_⟩
  · rw [howner]
    exact h.mine (haccepting ▸ hclosed) r (hcommits ▸ hr) hcall
  · rw [hcommits] at hr
    obtain hs | ⟨t', release, i, ht'⟩ := hdrained
    · exact h.drained (.inl (hstopped.mp hs)) r hr
    · obtain hpc | ht' := hcases ht'
      · exact (hreleasing release i hpc).1 r hr
      · exact h.drained (.inr ⟨t', release, i, ht'⟩) r hr
  · obtain hpc | ht' := hcases ht'
    · exact (hreleasing release i hpc).2 j hj o ho
    · obtain ⟨o', ho', hnone⟩ := hframes j o ho
      exact hnone (h.releasing t' release i ht' j hj o' ho')
  · obtain ⟨j, hj⟩ := List.mem_iff_getElem?.mp ho
    obtain ⟨o', ho', hnone⟩ := hframes j o hj
    exact hnone (h.released (hstopped.mp hs) o' (List.mem_of_getElem? ho'))
  · obtain hpc | ht' := hcases ht'
    · exact hstopped.mpr (hunlocking release hpc)
    · exact hstopped.mpr (h.unlocking t' release ht')
  · obtain hpc | ht'' := hcases (rfl : d'.pcs t' = d'.pcs t')
    · exact hbehind (hpc ▸ ht')
    · exact hmono (h.behind t' (ht'' ▸ ht'))

/-- When `drm_atomic_helper_shutdown` returns, no commit is under way. -/
theorem Shutdown.finished (hcalls : d.Calls) (hholders : d.Holders) (h : d.Shutdown) {t : Task}
    {release : Bool} (hpc : d.pcs t = .helperShutdown release)
    (hdrained : ∀ r ∈ d.commits, ∀ i, r.phase ≠ .tail i) (hreturned : d.commitLock ≠ some t)
    {r : InFlight} (hr : r ∈ d.commits) : r.phase = .finished ∧ r.inCall = false := by
  have howner := (hholders.owner t).mp (by rw [hpc]; rfl)
  have hcall : ¬r.inCall = true := by
    intro hcall
    have htask := h.mine (hholders.closed t howner) r hr hcall
    obtain rfl : t = r.task := Option.some.inj (howner.symm.trans htask)
    exact hreturned (hcalls.lock r hr hcall)
  refine ⟨?_, by simpa using hcall⟩
  have hlocked : ¬r.phase.isLocked = true := fun hlocked ↦ hcall (hcalls.locked r hr hlocked)
  cases hphase : r.phase with
  | tail i => exact absurd hphase (hdrained r hr i)
  | finished => rfl
  | adding | helper | removing => exact absurd (by rw [hphase]; rfl) hlocked

theorem Shutdown.taskStep (hcalls : d.Calls) (hholders : d.Holders) (h : d.Shutdown)
    (hstep : TaskStep d d') : d'.Shutdown := by
  have hsame (j : Nat) (o' : VkmsOutput) (ho' : d.outputs[j]? = some o') :
      ∃ o, d.outputs[j]? = some o ∧ (o.presentFb = none → o'.presentFb = none) := ⟨o', ho', id⟩
  have hother {t t' : Task} {pc pc' : Pc} (h : Function.update d.pcs t pc t' = pc')
      (hne : pc ≠ pc') :
      t' ≠ t ∧ d.pcs t' = pc' := by
    have ht : t' ≠ t := by
      rintro rfl
      exact hne (by rwa [Function.update_self] at h)
    exact ⟨ht, by rwa [Function.update_of_ne ht] at h⟩
  have hbehind {t t' : Task} {pc : Pc} (hpc : pc.isBehindQuiesce = false)
      (ht' : (Function.update d.pcs t pc t').isBehindQuiesce = true) : d.quiesced = true := by
    by_cases ht : t' = t
    · subst ht
      rw [Function.update_self, hpc] at ht'
      exact nomatch ht'
    · rw [Function.update_of_ne ht] at ht'
      exact h.behind t' ht'
  cases hstep with
  | beginQuiesce t release hpc =>
    exact h.move rfl ⟨rfl, rfl⟩ rfl hsame nofun nofun h.quiesced id nofun
  | lockShutdown hpc => exact h.move rfl ⟨rfl, rfl⟩ rfl hsame nofun nofun h.quiesced id nofun
  | @alreadyQuiesced t release hpc hlock hclosed =>
    have hstopped : d.Stopped :=
      ⟨hclosed, hholders.owner_none (t := t) (by rw [hpc]; rfl) (by rw [hpc]; rfl)⟩
    exact h.move rfl ⟨rfl, rfl⟩ rfl hsame (by cases release <;> exact nofun)
      (by cases release <;> exact nofun) (fun _ ↦ hstopped) (fun _ ↦ rfl) fun _ ↦ rfl
  | @endQuiesce t release hpc =>
    exact h.move rfl ⟨rfl, rfl⟩ rfl hsame (by cases release <;> exact nofun)
      (by cases release <;> exact nofun) (fun _ ↦ h.unlocking t release hpc) (fun _ ↦ rfl)
      fun _ ↦ rfl
  | alreadyUnplugged hpc => exact h.move rfl ⟨rfl, rfl⟩ rfl hsame nofun nofun h.quiesced id nofun
  | @markUnplugged t hpc =>
    exact h.move rfl ⟨rfl, rfl⟩ rfl hsame nofun nofun h.quiesced id
      fun _ ↦ h.behind t (by rw [hpc]; rfl)
  | @releaseFrameAgain t i hpc =>
    refine h.move rfl ⟨rfl, rfl⟩ rfl (fun j o' ho' ↦ ?_) nofun nofun h.quiesced id
      fun _ ↦ h.behind t (by rw [hpc]; rfl)
    obtain ⟨o, ho, hnone⟩ := getElem?_releaseFrame ho'
    exact ⟨o, ho, fun h ↦ hnone (.inr h)⟩
  | @unplug t hpc =>
    exact h.move rfl ⟨rfl, rfl⟩ rfl hsame nofun nofun h.quiesced id
      fun _ ↦ h.behind t (by rw [hpc]; rfl)
  | endRelease hpc => exact h.move rfl ⟨rfl, rfl⟩ rfl hsame nofun nofun h.quiesced id nofun
  | @helperShutdownReturns t release hpc hdrained hreturned =>
    refine h.move rfl ⟨rfl, rfl⟩ rfl hsame (fun release' i hpc' ↦ ?_) nofun h.quiesced id nofun
    obtain ⟨rfl, rfl⟩ := Pc.releaseFrames.inj hpc'
    exact ⟨fun r hr ↦ h.finished hcalls hholders hpc hdrained hreturned hr,
      fun j hj ↦ absurd hj (Nat.not_lt_zero j)⟩
  | @releaseFrame t release i hpc =>
    refine h.move rfl ⟨rfl, rfl⟩ rfl (fun j o' ho' ↦ ?_) (fun release' i' hpc' ↦ ?_) nofun
      h.quiesced
      id nofun
    · obtain ⟨o, ho, hnone⟩ := getElem?_releaseFrame ho'
      exact ⟨o, ho, fun h ↦ hnone (.inr h)⟩
    · obtain ⟨rfl, rfl⟩ := Pc.releaseFrames.inj hpc'
      refine ⟨h.drained (.inr ⟨t, release, i, hpc⟩), fun j hj o' ho' ↦ ?_⟩
      obtain ⟨o, ho, hnone⟩ := getElem?_releaseFrame ho'
      obtain rfl | hj := Nat.eq_or_lt_of_le (Nat.le_of_lt_succ hj)
      · exact hnone (.inl rfl)
      · exact hnone (.inr (h.releasing t release i hpc j hj o ho))
  | @stopAccepting t release hpc hlock hopen =>
    -- While commits are accepted nothing has been shut down.
    have hnot : ¬d.Stopped := fun hs ↦ nomatch hs.1.symm.trans hopen
    have hnone (t' : Task) (release' : Bool) (i : Nat) : d.pcs t' ≠ .releaseFrames release' i := by
      intro ht'
      have hclosed := hholders.closed t' ((hholders.owner t').mp (by rw [ht']; rfl))
      exact nomatch hclosed.symm.trans hopen
    refine ⟨fun _ r hr hcall ↦ ?_, ?_, fun t' release' i ht' ↦ ?_, fun hs ↦ (nomatch hs.2),
      fun t' release' ht' ↦ ?_, fun hq ↦ absurd (h.quiesced hq) hnot, fun t' ht' ↦ ?_⟩
    · exact nomatch (hcalls.not_inCall hlock hr).symm.trans hcall
    · rintro (hs | ⟨t', release', i, ht'⟩)
      · exact nomatch hs.2
      · exact absurd (hother ht' nofun).2 (hnone t' release' i)
    · exact absurd (hother ht' nofun).2 (hnone t' release' i)
    · exact absurd (h.unlocking t' release' (hother ht' nofun).2) hnot
    · exact hbehind rfl ht'
  | @clearOwner t release hpc hlock =>
    have howner := (hholders.owner t).mp (by rw [hpc]; rfl)
    have hclosed := hholders.closed t howner
    refine ⟨fun _ r hr hcall ↦ ?_, fun _ ↦ h.drained (.inr ⟨t, release, _, hpc⟩),
      fun t' release' i ht' ↦ ?_, fun _ o ho ↦ ?_, fun _ _ _ ↦ ⟨hclosed, rfl⟩,
      fun _ ↦ ⟨hclosed, rfl⟩, fun t' ht' ↦ ?_⟩
    · exact nomatch (hcalls.not_inCall hlock hr).symm.trans hcall
    · obtain ⟨hne, ht'⟩ := hother ht' nofun
      have howner' := (hholders.owner t').mp (by rw [ht']; rfl)
      exact absurd (Option.some.inj (howner'.symm.trans howner)) hne
    · obtain ⟨j, hj⟩ := List.mem_iff_getElem?.mp ho
      exact h.releasing t release _ hpc j (List.getElem?_eq_some_iff.mp hj).1 o hj
    · exact hbehind rfl ht'

theorem Reachable.shutdown (h : Reachable d) : d.Shutdown := by
  induction h with
  | initial h =>
    obtain ⟨outputs, rfl, hfresh⟩ := h
    exact ⟨nofun, fun _ ↦ nofun, nofun, fun _ o ho ↦ (hfresh o ho).2, nofun, nofun, nofun⟩
  | step h hstep ih =>
    obtain hstep | hstep := hstep
    · exact ih.commitStep h.holders hstep
    · exact ih.taskStep h.calls h.holders hstep

/-! ## Unplugging -/

/-- The device is unplugged by the task that finds it plugged. -/
structure Unplugged (d : VkmsDevice) : Prop where
  plugged : d.unplugged = false → d.unplugs = 0
  again : ∀ t i, d.pcs t = .releaseAgain i → d.unplugged = true ∧ d.unplugs = 0
  once : d.unplugs ≤ 1

theorem Unplugged.step (hholders : d.Holders) (h : d.Unplugged) (hstep : Step d d') :
    d'.Unplugged := by
  obtain hstep | hstep := hstep
  · obtain ⟨hpcs, -, -, -, -, hunplugged, hunplugs⟩ := hstep.control
    exact ⟨by rw [hunplugged, hunplugs]; exact h.plugged,
      by rw [hpcs, hunplugged, hunplugs]; exact h.again, by rw [hunplugs]; exact h.once⟩
  have hmove {t : Task} {pc : Pc} (hpc : ∀ i, pc ≠ .releaseAgain i) (t' : Task) (i : Nat)
      (ht' : Function.update d.pcs t pc t' = .releaseAgain i) :
      t' ≠ t ∧ d.pcs t' = .releaseAgain i := by
    by_cases ht : t' = t
    · subst ht
      exact absurd (by rwa [Function.update_self] at ht') (hpc i)
    · exact ⟨ht, by rwa [Function.update_of_ne ht] at ht'⟩
  cases hstep with
  | beginQuiesce | lockShutdown | stopAccepting | helperShutdownReturns | releaseFrame | clearOwner
  | alreadyUnplugged | endRelease =>
    exact ⟨h.plugged, fun t' i ht' ↦ h.again t' i (hmove (by exact nofun) t' i ht').2, h.once⟩
  | @alreadyQuiesced t release | @endQuiesce t release =>
    have hafter (i : Nat) : Pc.afterQuiesce release ≠ .releaseAgain i := by
      cases release <;> exact nofun
    exact ⟨h.plugged, fun t' i ht' ↦ h.again t' i (hmove hafter t' i ht').2, h.once⟩
  | markUnplugged _ _ hplugged =>
    have hzero := h.plugged hplugged
    exact ⟨nofun, fun _ _ _ ↦ ⟨rfl, hzero⟩, h.once⟩
  | @releaseFrameAgain t i hpc =>
    have hagain := h.again t i hpc
    exact ⟨h.plugged, fun _ _ _ ↦ hagain, h.once⟩
  | @unplug t hpc =>
    obtain ⟨hunplugged, hzero⟩ := h.again t _ hpc
    refine ⟨fun hplugged ↦ (nomatch hunplugged.symm.trans hplugged), fun t' i ht' ↦ ?_,
      show d.unplugs + 1 ≤ 1 by omega⟩
    -- Another task would hold the same lock.
    obtain ⟨hne, ht'⟩ := hmove (by exact nofun) t' i ht'
    have hlock := (hholders.lock t).mp (by rw [hpc]; rfl)
    have hlock' := (hholders.lock t').mp (by rw [ht']; rfl)
    exact absurd (Option.some.inj (hlock'.symm.trans hlock)) hne

theorem Reachable.unplugged (h : Reachable d) : d.Unplugged := by
  induction h with
  | initial h =>
    obtain ⟨outputs, rfl, -⟩ := h
    exact ⟨fun _ ↦ rfl, nofun, Nat.zero_le 1⟩
  | step h hstep ih => exact ih.step h.holders hstep

/-! ## Behind a call that quiesces -/

/-- In every order of steps, each CRTC has as many pending commits as have been accepted for it and
not been published or taken back, and so at least one where one is published or taken back.  When a
call of `vkms_quiesce` has returned, no commit is accepted, none is pending and no framebuffer is
held, and the device is unplugged once at most. -/
theorem commitAccounting_quiesce (h : Reachable d) :
    (∀ (i : Nat) (o : VkmsOutput), d.outputs[i]? = some o →
      o.pendingCommits = d.outstanding i o.crtc ∧
      ∀ r ∈ d.commits, r.outstanding i o.crtc = true → 0 < o.pendingCommits) ∧
    (d.quiesced = true →
      (∀ d', CommitStep d d' → d' = d) ∧
      ∀ o ∈ d.outputs, o.pendingCommits = 0 ∧ o.presentFb = none) ∧
    d.unplugs ≤ 1 := by
  refine ⟨fun i o ho ↦ ⟨h.counts i o ho, fun r hr hout ↦ ?_⟩, fun hquiesced ↦ ?_, h.unplugged.once⟩
  · rw [h.counts i o ho]
    have : 0 < d.outstanding i o.crtc := List.countP_pos_iff.mpr ⟨r, hr, hout⟩
    omega
  · have hstopped := h.shutdown.quiesced hquiesced
    refine ⟨fun d' hstep ↦ ?_, fun o ho ↦ ⟨?_, h.shutdown.released hstopped o ho⟩⟩
    · obtain hsame | hdraining := hstep.cases_drained h.holders h.shutdown
      · exact hsame
      · exact absurd (.inl hstopped) hdraining
    · obtain ⟨i, hi⟩ := List.mem_iff_getElem?.mp ho
      have hnone : d.outstanding i o.crtc = 0 := by
        refine List.countP_eq_zero.mpr fun r hr hout ↦ ?_
        rw [InFlight.outstanding, (h.shutdown.drained (.inl hstopped) r hr).1] at hout
        simp [CommitPhase.counts] at hout
      rw [h.counts i o hi, hnone]
      rfl

/-- A device with one output, which has published a commit and is quiesced then. -/
theorem commitAccounting_quiesce_example :
    ∃ d : VkmsDevice, d.quiesced = true ∧ d.commits.map (·.phase) = [.finished] ∧
      d.outputs.map (·.presentSequence) = [1] ∧ (∀ d', CommitStep d d' → d' = d) ∧
      ∀ o ∈ d.outputs, o.pendingCommits = 0 ∧ o.presentFb = none := by
  have hinitial : ({ outputs := [exampleOutput] } : VkmsDevice).Initial :=
    ⟨_, rfl, fun o ho ↦ by rw [List.mem_singleton.mp ho]; exact ⟨rfl, rfl⟩⟩
  have hpublished := (Reachable.initial hinitial)
    |>.step (.inl (.accept 2 (switchCommit true) rfl rfl (.inl rfl)))
    |>.step (.inl (@CommitStep.addPending _ [] [] _ 0 rfl rfl Nat.one_pos))
    |>.step (.inl (@CommitStep.enterHelper _ [] [] _ (fun _ ↦ false) rfl rfl))
    |>.step (.inl (@CommitStep.helperCommits _ [] [] _ (fun _ ↦ false) rfl rfl))
    |>.step (.inl (@CommitStep.publish _ [] [] _ 0 100 rfl rfl Nat.one_pos))
    |>.step (.inl (@CommitStep.finishTail _ [] [] _ rfl rfl))
    |>.step (.inl (@CommitStep.returnOk _ [] [] _ rfl rfl (.inl rfl)))
  have hquiesced := hpublished
    |>.step (.inr (.beginQuiesce 1 false rfl))
    |>.step (.inr (.lockShutdown (t := 1) rfl rfl))
    |>.step (.inr (.stopAccepting (t := 1) rfl rfl rfl))
    |>.step (.inr (.helperShutdownReturns (t := 1) rfl
      (fun r hr i ↦ by rw [List.mem_singleton.mp hr]; exact nofun) nofun))
    |>.step (.inr (.releaseFrame (t := 1) rfl Nat.one_pos))
    |>.step (.inr (.clearOwner (t := 1) rfl rfl))
    |>.step (.inr (.endQuiesce (t := 1) rfl))
  exact ⟨_, rfl, rfl, rfl, (commitAccounting_quiesce hquiesced).2.1 rfl⟩

end VkmsDevice

end VirtualDisplay
