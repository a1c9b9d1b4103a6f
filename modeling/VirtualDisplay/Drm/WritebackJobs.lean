import VirtualDisplay.Drm.CrcWorker

/-!
# Writeback jobs

A writeback job is committed to a CRTC state and put into the queue of the connector
(`vkms_wb_atomic_commit`).  The worker composes the planes for the job of the state whose work it
does, and then has DRM signal *the first job of the connector's queue* (`vkms_composer_worker`).
Nothing in the driver ties the two jobs to each other:

* a job that is committed behind the worker's first look at the state is signalled, and nothing is
  composed for it;
* where a state has been replaced before its job was composed, the job of the state behind it is
  composed, and the one that was left is signalled.

`Unraced` and `InOrder` exclude these, and then each completion is of the job that was composed.

## What is here

* `JobsKnown` — what is known of the jobs: which of them have been signalled, in what order the rest
  are in the connector's queue, and what each phase of the worker and of a commit has to do with
  them.
* `WorkerKnows`, `CommitKnown` — the parts about the two threads.
* `JobsKnown.signalCompletion`, `JobsKnown.queueJob`, `JobsKnown.commitJob` — the three moves that
  change the jobs; all others go through `JobsKnown.of_eq`.
* `signalled_append_jobs` — no job is signalled twice, and none is lost, in any run.
* `writeback_completed` — the whole of it; the runs `raced` and `overtaken` show the two exceptions,
  and `written` a run that they do not concern.
-/

set_option autoImplicit false

namespace VirtualDisplay

namespace ComposerQueue

variable {Fifo : Type}

/-- The step commits no job to a state that the worker has started on. -/
def Unraced (q q' : ComposerQueue Fifo) : Prop :=
  ∀ s activeWb, q.worker = .started s activeWb →
    (q'.works s).activeWriteback = (q.works s).activeWriteback

/-- The step signals no completion while a job of an earlier state is pending. -/
def InOrder (q q' : ComposerQueue Fifo) : Prop :=
  ∀ s activeWb a b, q.worker = .composing s activeWb true a b → q'.worker ≠ q.worker →
    ∀ t < s, (q.works t).wbPending = false

/-- The job of the state is in the connector's queue. -/
def Waiting (q : ComposerQueue Fifo) (s : Nat) : Prop :=
  (q.works s).wbPending = true ∧ (∀ job, q.wbCommit = .committed job → s ≠ q.commits) ∧
    ∀ a b, q.worker ≠ .signalled s a b

/-- What the worker has read is what the state still has. -/
def WorkerKnows (q : ComposerQueue Fifo) : Prop :=
  match q.worker with
  | .started s activeWb => activeWb = (q.works s).activeWriteback
  | .read s activeWb wbPending _ _ => wbPending = true →
    (q.works s).wbPending = true ∧ activeWb = (q.works s).activeWriteback
  | .composing s activeWb wbPending _ _ => wbPending = true →
    (q.works s).wbPending = true ∧ activeWb = (q.works s).activeWriteback ∧
      (q.works s).pixelWrite = true
  | .signalled s _ _ => (q.works s).pixelWrite = true
  | .idle | .adding _ _ _ => True

/-- What is known of the job that is being committed. -/
def CommitKnown (q : ComposerQueue Fifo) : Prop :=
  match q.wbCommit with
  | .idle => True
  | .committed job => (q.works q.commits).activeWriteback = some job ∧
    (q.works q.commits).wbPending = true ∧ (q.works q.commits).pixelWrite = false
  | .queued => ((q.works q.commits).activeWriteback).isSome

/-- The connector's queue holds the pending jobs in the order of their states, and what has been
completed was composed. -/
structure JobsKnown (drm : WritebackFifo Fifo) (q : ComposerQueue Fifo) : Prop where
  le : ∀ s, ((q.works s).activeWriteback).isSome → s ≤ q.commits
  pending : ∀ s, (q.works s).wbPending = true → ((q.works s).activeWriteback).isSome
  unwritten : ∀ s, (q.works s).activeWriteback = none → (q.works s).pixelWrite = false
  commit : q.CommitKnown
  worker : q.WorkerKnows
  completed : ∀ c ∈ q.completions, (∃ job, c.composed = some job ∧ c.signalled = some job ∧
    (q.works c.s).activeWriteback = some job) ∧
    ((q.works c.s).wbPending = false ∨ ∃ a b, q.worker = .signalled c.s a b)
  once : (q.completions.map WritebackCompletion.s).Nodup
  waiting : ∃ ss : List Nat, ss.Pairwise (· < ·) ∧
    (drm.jobs q.fifo).map some = ss.map (fun s ↦ (q.works s).activeWriteback) ∧
    ∀ s, s ∈ ss ↔ q.Waiting s

/-- The step leaves the jobs of the states alone. -/
def SameJobs (q q' : ComposerQueue Fifo) : Prop :=
  ∀ s, (q'.works s).activeWriteback = (q.works s).activeWriteback ∧
    (q'.works s).wbPending = (q.works s).wbPending ∧
    (q'.works s).pixelWrite = (q.works s).pixelWrite

variable {drm : WritebackFifo Fifo} {q q' : ComposerQueue Fifo}

theorem WorkerKnows.of_eq (h : q.WorkerKnows) (hworks : q.SameJobs q')
    (hworker : q'.worker = q.worker) : q'.WorkerKnows := by
  rw [WorkerKnows] at h ⊢
  rw [hworker]
  cases hphase : q.worker <;> simp only [hphase, (hworks _).1, (hworks _).2] at h ⊢ <;> exact h

/-- The worker looks at a state only as long as its job is pending or written. -/
theorem WorkerKnows.of_unchanged (h : q.WorkerKnows) (hworker : q'.worker = q.worker)
    (hstarted : ∀ s activeWb, q.worker = .started s activeWb →
      (q'.works s).activeWriteback = (q.works s).activeWriteback)
    (hworks : ∀ s, (q.works s).wbPending = true ∨ (q.works s).pixelWrite = true →
      q'.works s = q.works s) : q'.WorkerKnows := by
  rw [WorkerKnows] at h ⊢
  rw [hworker]
  cases hphase : q.worker with
  | started s activeWb =>
    rw [hphase] at h
    exact h.trans (hstarted s activeWb hphase).symm
  | read s activeWb wbPending a b =>
    rw [hphase] at h
    intro hpending
    simp only [hworks s (.inl (h hpending).1)]
    exact h hpending
  | composing s activeWb wbPending a b =>
    rw [hphase] at h
    intro hpending
    simp only [hworks s (.inl (h hpending).1)]
    exact h hpending
  | signalled s a b =>
    rw [hphase] at h
    simp only [hworks s (.inr h)]
    exact h
  | idle => trivial
  | adding s a b => trivial

/-- The jobs have not changed, nor what has been completed. -/
theorem JobsKnown.of_eq (h : q.JobsKnown drm)
    (hworks : q.SameJobs q') (hcommits : q.commits ≤ q'.commits)
    (hwbCommit : q'.wbCommit = q.wbCommit)
    (hcommit : q.wbCommit = .idle ∨ q'.commits = q.commits) (hworker : q'.WorkerKnows)
    (hsignalled : ∀ s a b, q'.worker = .signalled s a b ↔ q.worker = .signalled s a b)
    (hfifo : q'.fifo = q.fifo) (hcompletions : q'.completions = q.completions) :
    q'.JobsKnown drm := by
  have hactive := fun s ↦ (hworks s).1
  have hpending := fun s ↦ (hworks s).2.1
  have hpixelWrite := fun s ↦ (hworks s).2.2
  have hwaiting : ∀ s, q'.Waiting s ↔ q.Waiting s := by
    intro s
    rcases hcommit with hidle | heq
    · simp only [Waiting, hpending, hwbCommit, hidle, ne_eq, hsignalled, reduceCtorEq,
        false_implies, implies_true]
    · simp only [Waiting, hpending, hwbCommit, heq, ne_eq, hsignalled]
  constructor
  · intro s
    rw [hactive]
    exact fun hs ↦ (h.le s hs).trans hcommits
  · intro s
    rw [hactive, hpending]
    exact h.pending s
  · intro s
    rw [hactive, hpixelWrite]
    exact h.unwritten s
  · have hknown := h.commit
    rcases hcommit with hidle | heq
    · rw [CommitKnown, hwbCommit, hidle]
      trivial
    · simp only [CommitKnown, hwbCommit, heq, hactive, hpending, hpixelWrite]
      exact hknown
  · exact hworker
  · simp only [hcompletions, hactive, hpending, hsignalled]
    exact h.completed
  · rw [hcompletions]
    exact h.once
  · simp only [hfifo, hactive, hwaiting]
    exact h.waiting

/-- A job that has been signalled has `pixel_write`. -/
theorem JobsKnown.of_signalled (h : q.JobsKnown drm) {s a b : Nat}
    (hworker : q.worker = .signalled s a b) : (q.works s).pixelWrite = true := by
  have hknown := h.worker
  rwa [WorkerKnows, hworker] at hknown

theorem JobsKnown.of_composing (h : q.JobsKnown drm) {s a b : Nat} {activeWb : Option Nat}
    (hworker : q.worker = .composing s activeWb true a b) :
    ((q.works s).wbPending = true ∧ activeWb = (q.works s).activeWriteback ∧
      (q.works s).pixelWrite = true) ∧ ((q.works s).activeWriteback).isSome := by
  have hknown := h.worker
  rw [WorkerKnows, hworker] at hknown
  exact ⟨hknown rfl, h.pending s (hknown rfl).1⟩

/-- An update of a work that leaves its job alone. -/
theorem sameJobs_setWork (s : Nat) (work : ComposerWork)
    (hwork : work.activeWriteback = (q.works s).activeWriteback ∧
      work.wbPending = (q.works s).wbPending ∧ work.pixelWrite = (q.works s).pixelWrite) :
    q.SameJobs (q.setWork s work) := by
  intro t
  rw [setWork]
  by_cases ht : t = s
  · simp only [ht, Function.update_self, hwork, and_self]
  · simp only [Function.update_of_ne ht, and_self]

/-- The first state with a job pending has it at the head of the connector's queue. -/
theorem JobsKnown.waiting_head (h : q.JobsKnown drm) {t : Nat} (hwaiting : q.Waiting t)
    (hfirst : ∀ u < t, (q.works u).wbPending = false) :
    ∃ ss : List Nat, (t :: ss).Pairwise (· < ·) ∧
      (drm.jobs q.fifo).map some =
        (q.works t).activeWriteback :: ss.map (fun s ↦ (q.works s).activeWriteback) ∧
      ∀ s, s ∈ t :: ss ↔ q.Waiting s := by
  obtain ⟨ss, hsorted, hjobs, hmem⟩ := h.waiting
  cases ss with
  | nil => cases (hmem t).mpr hwaiting
  | cons s ss =>
    have hle : ¬s < t := by
      intro hlt
      have hpending := ((hmem s).mp List.mem_cons_self).1
      rw [hfirst s hlt] at hpending
      cases hpending
    have hs : s = t := by
      rcases List.mem_cons.mp ((hmem t).mpr hwaiting) with ht | ht
      · exact ht.symm
      · have hlt := (List.pairwise_cons.mp hsorted).1 t ht
        omega
    subst hs
    exact ⟨ss, hsorted, hjobs, hmem⟩

theorem JobsKnown.signalled_head (h : q.JobsKnown drm) {t : Nat} (hwaiting : q.Waiting t)
    (hfirst : ∀ u < t, (q.works u).wbPending = false) :
    (drm.signalCompletion q.fifo).1 = (q.works t).activeWriteback := by
  obtain ⟨ss, -, hjobs, -⟩ := h.waiting_head hwaiting hfirst
  obtain ⟨job, jobs, hfifo, hjob, -⟩ := List.map_eq_cons_iff.mp hjobs
  rw [drm.signalCompletion_fst, hfifo, List.head?_cons, hjob]

/-- The state has no job before, so that nothing is known of one. -/
theorem JobsKnown.commitJob (h : q.JobsKnown drm) {job : Nat} (hwbCommit : q.wbCommit = .idle)
    (hjob : (q.works q.commits).activeWriteback = none) (hunraced : q.Unraced (q.commitJob job)) :
    (q.commitJob job).JobsKnown drm := by
  have hself : (q.commitJob job).works q.commits =
      { q.works q.commits with activeWriteback := some job, wbPending := true } :=
    Function.update_self q.commits _ _
  have hother : ∀ s, s ≠ q.commits → (q.commitJob job).works s = q.works s :=
    fun s hs ↦ Function.update_of_ne hs _ _
  have hne : ∀ s, ((q.works s).activeWriteback).isSome → s ≠ q.commits := by
    intro s hsome hs
    rw [hs, hjob] at hsome
    cases hsome
  constructor
  · intro s hsome
    by_cases hs : s = q.commits
    · exact hs.le
    · rw [hother s hs] at hsome
      exact h.le s hsome
  · intro s hpending
    by_cases hs : s = q.commits
    · rw [hs, hself]
      rfl
    · rw [hother s hs] at hpending ⊢
      exact h.pending s hpending
  · intro s hnone
    by_cases hs : s = q.commits
    · rw [hs, hself] at hnone
      cases hnone
    · rw [hother s hs] at hnone ⊢
      exact h.unwritten s hnone
  · show (((q.commitJob job).works q.commits).activeWriteback = some job ∧
      ((q.commitJob job).works q.commits).wbPending = true ∧
      ((q.commitJob job).works q.commits).pixelWrite = false)
    rw [hself]
    exact ⟨rfl, rfl, h.unwritten q.commits hjob⟩
  · refine h.worker.of_unchanged rfl hunraced fun s hs ↦ hother s ?_
    rcases hs with hpending | hset
    · exact hne s (h.pending s hpending)
    · rintro rfl
      rw [h.unwritten q.commits hjob] at hset
      cases hset
  · intro c hc
    obtain ⟨⟨done, hcomposed, hsignalled, hactive⟩, hpending⟩ := h.completed c hc
    rw [hother c.s (hne c.s (by rw [hactive]; rfl))]
    exact ⟨⟨done, hcomposed, hsignalled, hactive⟩, hpending⟩
  · exact h.once
  · obtain ⟨ss, hsorted, hjobs, hmem⟩ := h.waiting
    have hss : ∀ s ∈ ss, s ≠ q.commits := fun s hs ↦
      hne s (h.pending s ((hmem s).mp hs).1)
    refine ⟨ss, hsorted, hjobs.trans (List.map_congr_left fun s hs ↦ ?_), fun s ↦ ?_⟩
    · rw [hother s (hss s hs)]
    · by_cases hs : s = q.commits
      · refine ⟨fun hin ↦ absurd hs (hss s hin), fun hwaiting ↦ ?_⟩
        exact absurd hs (hwaiting.2.1 job rfl)
      · rw [hmem s, Waiting, Waiting, hother s hs, hwbCommit]
        simp only [reduceCtorEq, false_implies, implies_true, true_and]
        exact ⟨fun hs' ↦ ⟨hs'.1, fun _ _ ↦ hs, hs'.2⟩, fun hs' ↦ ⟨hs'.1, hs'.2.2⟩⟩

/-- The job goes behind those of the states before. -/
theorem JobsKnown.queueJob (h : q.JobsKnown drm) {job : Nat}
    (hwbCommit : q.wbCommit = .committed job) : (q.queueJob drm job).JobsKnown drm := by
  have hcommit := h.commit
  rw [CommitKnown, hwbCommit] at hcommit
  obtain ⟨hactive, hpending, hpixelWrite⟩ := hcommit
  refine ⟨h.le, h.pending, h.unwritten, ?_, h.worker, h.completed, h.once, ?_⟩
  · show ((q.works q.commits).activeWriteback).isSome
    rw [hactive]
    rfl
  · obtain ⟨ss, hsorted, hjobs, hmem⟩ := h.waiting
    refine ⟨ss ++ [q.commits], ?_, ?_, fun s ↦ ?_⟩
    · rw [List.pairwise_append]
      refine ⟨hsorted, List.pairwise_singleton _ _, fun s hs t ht ↦ ?_⟩
      rw [List.mem_singleton.mp ht]
      have hwaiting := (hmem s).mp hs
      have hle := h.le s (h.pending s hwaiting.1)
      have hne := hwaiting.2.1 job hwbCommit
      omega
    · show (drm.jobs (drm.queueJob q.fifo job)).map some = _
      rw [drm.jobs_queueJob, List.map_append, List.map_append, hjobs, List.map_singleton,
        List.map_singleton, ← hactive]
      rfl
    · rw [List.mem_append, List.mem_singleton, hmem s]
      constructor
      · rintro (hwaiting | rfl)
        · exact ⟨hwaiting.1, nofun, hwaiting.2.2⟩
        · refine ⟨hpending, nofun, fun a b hworker ↦ ?_⟩
          have hset := h.of_signalled (s := q.commits) hworker
          rw [hpixelWrite] at hset
          cases hset
      · intro hwaiting
        by_cases hs : s = q.commits
        · exact .inr hs
        · exact .inl ⟨hwaiting.1, fun _ _ ↦ hs, hwaiting.2.2⟩

theorem JobsKnown.setPixelWrite (h : q.JobsKnown drm) (hwbCommit : q.wbCommit = .queued) :
    q.setPixelWrite.JobsKnown drm := by
  have hsome := h.commit
  rw [CommitKnown, hwbCommit] at hsome
  have hworks : ∀ s, (q.setPixelWrite.works s).activeWriteback = (q.works s).activeWriteback ∧
      (q.setPixelWrite.works s).wbPending = (q.works s).wbPending := by
    intro s
    rw [ComposerQueue.setPixelWrite, setWork]
    by_cases hs : s = q.commits
    · simp only [hs, Function.update_self, and_self]
    · simp only [Function.update_of_ne hs, and_self]
  have hpixelWrite : ∀ s, s ≠ q.commits → q.setPixelWrite.works s = q.works s :=
    fun s hs ↦ Function.update_of_ne hs _ _
  have hset : ∀ s, (q.works s).pixelWrite = true → (q.setPixelWrite.works s).pixelWrite = true := by
    intro s hs
    by_cases heq : s = q.commits
    · rw [heq]
      simp [ComposerQueue.setPixelWrite, setWork]
    · rwa [hpixelWrite s heq]
  constructor
  · intro s
    rw [(hworks s).1]
    exact h.le s
  · intro s
    rw [(hworks s).1, (hworks s).2]
    exact h.pending s
  · intro s hnone
    rw [(hworks s).1] at hnone
    have hs : s ≠ q.commits := by
      rintro rfl
      rw [hnone] at hsome
      cases hsome
    rw [hpixelWrite s hs]
    exact h.unwritten s hnone
  · trivial
  · have hknown := h.worker
    have hworker : q.setPixelWrite.worker = q.worker := rfl
    rw [WorkerKnows] at hknown ⊢
    rw [hworker]
    cases hphase : q.worker <;> simp only [hphase, hworks] at hknown ⊢
    · exact hknown
    · exact hknown
    · exact fun hpending ↦ ⟨(hknown hpending).1, (hknown hpending).2.1,
        hset _ (hknown hpending).2.2⟩
    · exact hset _ hknown
  · intro c hc
    rw [(hworks c.s).1, (hworks c.s).2]
    exact h.completed c hc
  · exact h.once
  · obtain ⟨ss, hsorted, hjobs, hmem⟩ := h.waiting
    refine ⟨ss, hsorted, ?_, fun s ↦ ?_⟩
    · simp only [hworks]
      exact hjobs
    · rw [hmem s, Waiting, Waiting, (hworks s).2, hwbCommit]
      exact ⟨fun hs ↦ ⟨hs.1, by simp [ComposerQueue.setPixelWrite], hs.2.2⟩,
        fun hs ↦ ⟨hs.1, by simp, hs.2.2⟩⟩

/-- Where no job of an earlier state is pending, the one that was composed is signalled. -/
theorem JobsKnown.signalCompletion (h : q.JobsKnown drm) {s a b : Nat} {activeWb : Option Nat}
    (hworker : q.worker = .composing s activeWb true a b)
    (hfirst : ∀ t < s, (q.works t).wbPending = false) :
    (q.signalCompletion drm s activeWb a b).JobsKnown drm := by
  obtain ⟨⟨hpending, hactive, hpixelWrite⟩, hsome⟩ := h.of_composing hworker
  have hwaiting : q.Waiting s := by
    refine ⟨hpending, fun job hwbCommit hs ↦ ?_, fun c d hphase ↦ ?_⟩
    · have hcommit := h.commit
      rw [CommitKnown, hwbCommit] at hcommit
      rw [hs, hcommit.2.2] at hpixelWrite
      cases hpixelWrite
    · rw [hworker] at hphase
      cases hphase
  obtain ⟨job, hjob⟩ := Option.isSome_iff_exists.mp hsome
  have hsignalled := h.signalled_head hwaiting hfirst
  -- A state that has been completed was not pending.
  have hne : ∀ c ∈ q.completions, c.s ≠ s := by
    intro c hc hs
    rcases (h.completed c hc).2 with hnot | ⟨c', d', hphase⟩
    · rw [hs, hpending] at hnot
      cases hnot
    · rw [hworker] at hphase
      cases hphase
  refine ⟨h.le, h.pending, h.unwritten, h.commit, hpixelWrite, fun c hc ↦ ?_, ?_, ?_⟩
  · rcases List.mem_append.mp hc with hc | hc
    · obtain ⟨hdone, hnot | ⟨c', d', hphase⟩⟩ := h.completed c hc
      · exact ⟨hdone, .inl hnot⟩
      · rw [hworker] at hphase
        cases hphase
    · rw [List.mem_singleton.mp hc]
      exact ⟨⟨job, hactive.trans hjob, hsignalled.trans hjob, hjob⟩, .inr ⟨a, b, rfl⟩⟩
  · show ((q.completions ++ [_]).map WritebackCompletion.s).Nodup
    rw [List.map_append, List.nodup_append]
    refine ⟨h.once, List.nodup_singleton s, fun t ht t' ht' ↦ ?_⟩
    obtain ⟨c, hc, rfl⟩ := List.mem_map.mp ht
    rw [List.mem_singleton.mp ht']
    exact hne c hc
  · obtain ⟨ss, hsorted, hjobs, hmem⟩ := h.waiting_head hwaiting hfirst
    rw [List.pairwise_cons] at hsorted
    refine ⟨ss, hsorted.2, ?_, fun t ↦ ?_⟩
    · show (drm.jobs (drm.signalCompletion q.fifo).2).map some = _
      rw [drm.jobs_signalCompletion, List.map_tail, hjobs]
      rfl
    · constructor
      · intro ht
        obtain ⟨hpending', hcommit, -⟩ := (hmem t).mp (List.mem_cons_of_mem _ ht)
        refine ⟨hpending', hcommit, fun c d hphase ↦ ?_⟩
        have hlt := hsorted.1 t ht
        cases hphase
        omega
      · intro ht
        have ht' : t ∈ s :: ss :=
          (hmem t).mpr ⟨ht.1, ht.2.1, fun c d hphase ↦ by rw [hworker] at hphase; cases hphase⟩
        refine (List.mem_cons.mp ht').resolve_left fun hts ↦ ?_
        exact ht.2.2 a b (by rw [hts]; rfl)

theorem JobsKnown.clearPending (h : q.JobsKnown drm) {s a b : Nat}
    (hworker : q.worker = .signalled s a b) : (q.clearPending s a b).JobsKnown drm := by
  have hpixelWrite := h.of_signalled hworker
  have hself : (q.clearPending s a b).works s = { q.works s with wbPending := false } :=
    Function.update_self s _ _
  have hother : ∀ t, t ≠ s → (q.clearPending s a b).works t = q.works t :=
    fun t ht ↦ Function.update_of_ne ht _ _
  have hactive : ∀ t, ((q.clearPending s a b).works t).activeWriteback =
      (q.works t).activeWriteback ∧
      ((q.clearPending s a b).works t).pixelWrite = (q.works t).pixelWrite := by
    intro t
    by_cases ht : t = s
    · rw [ht, hself]
      exact ⟨rfl, rfl⟩
    · rw [hother t ht]
      exact ⟨rfl, rfl⟩
  constructor
  · intro t
    rw [(hactive t).1]
    exact h.le t
  · intro t hpending
    by_cases ht : t = s
    · rw [ht, hself] at hpending
      cases hpending
    · rw [hother t ht] at hpending ⊢
      exact h.pending t hpending
  · intro t
    rw [(hactive t).1, (hactive t).2]
    exact h.unwritten t
  · have hcommit := h.commit
    have hcommits : (q.clearPending s a b).commits = q.commits := rfl
    have hwbCommit : (q.clearPending s a b).wbCommit = q.wbCommit := rfl
    rw [CommitKnown, hwbCommit, hcommits]
    rw [CommitKnown] at hcommit
    cases hphase : q.wbCommit with
    | idle => trivial
    | committed job =>
      rw [hphase] at hcommit
      have hs : q.commits ≠ s := by
        intro hs
        rw [← hs, hcommit.2.2] at hpixelWrite
        cases hpixelWrite
      simp only [hother _ hs]
      exact hcommit
    | queued =>
      rw [hphase] at hcommit
      simp only [hactive]
      exact hcommit
  · trivial
  · intro c hc
    obtain ⟨hdone, hnot⟩ := h.completed c hc
    rw [(hactive c.s).1]
    refine ⟨hdone, .inl ?_⟩
    by_cases hs : c.s = s
    · rw [hs, hself]
    · rw [hother c.s hs]
      refine hnot.resolve_right ?_
      rintro ⟨c', d', hphase⟩
      rw [hworker] at hphase
      cases hphase
      exact hs rfl
  · exact h.once
  · obtain ⟨ss, hsorted, hjobs, hmem⟩ := h.waiting
    refine ⟨ss, hsorted, ?_, fun t ↦ ?_⟩
    · simp only [hactive]
      exact hjobs
    · rw [hmem t]
      by_cases ht : t = s
      · refine ⟨fun hwaiting ↦ absurd (ht ▸ hworker) (hwaiting.2.2 a b), fun hwaiting ↦ ?_⟩
        have hpending := hwaiting.1
        rw [ht, hself] at hpending
        cases hpending
      · rw [Waiting, Waiting, hother t ht, hworker]
        refine ⟨fun hwaiting ↦ ⟨hwaiting.1, hwaiting.2.1, nofun⟩, fun hwaiting ↦
          ⟨hwaiting.1, hwaiting.2.1, fun c d hphase ↦ ?_⟩⟩
        cases hphase
        exact ht rfl

/-- Most steps leave the jobs alone, and of the worker's own phases only those with a job matter. -/
theorem JobsKnown.move (h : q.JobsKnown drm) (hmove : ComposerMove drm q q')
    (hunraced : q.Unraced q') (horder : q.InOrder q') : q'.JobsKnown drm := by
  have hknown := h.worker
  have hrefl : q.SameJobs q := fun _ ↦ ⟨rfl, rfl, rfl⟩
  -- The worker goes on, and signals nothing.
  have hgoes : ∀ q' : ComposerQueue Fifo, q.SameJobs q' → q'.WorkerKnows →
      (∀ s a b, q'.worker ≠ .signalled s a b) → (∀ s a b, q.worker ≠ .signalled s a b) →
      q'.commits = q.commits → q'.wbCommit = q.wbCommit → q'.fifo = q.fifo →
      q'.completions = q.completions → q'.JobsKnown drm :=
    fun q' hworks hworker hnew hold hcommits hwbCommit ↦
      h.of_eq hworks hcommits.ge hwbCommit (.inr hcommits) hworker
        fun s a b ↦ iff_of_false (hnew s a b) (hold s a b)
  cases hmove with
  | flush hwbCommit =>
    exact h.of_eq hrefl (Nat.le_succ _) rfl (.inl hwbCommit) hknown (fun _ _ _ ↦ Iff.rfl) rfl rfl
  | commitJob job hcommits hwbCommit hjob => exact h.commitJob hwbCommit hjob hunraced
  | queueJob job hwbCommit => exact h.queueJob hwbCommit
  | setPixelWrite hwbCommit => exact h.setPixelWrite hwbCommit
  | handleVblank frame hvblank hcommits hframe =>
    exact h.of_eq hrefl le_rfl rfl (.inr rfl) hknown (fun _ _ _ ↦ Iff.rfl) rfl rfl
  | mark s frame hvblank =>
    have hworks : q.SameJobs (q.markFrame s frame) :=
      sameJobs_setWork s _ (by exact ⟨rfl, rfl, rfl⟩)
    exact h.of_eq hworks le_rfl rfl (.inr rfl) (hknown.of_eq hworks rfl) (fun _ _ _ ↦ Iff.rfl)
      rfl rfl
  | queueWork s hvblank =>
    exact h.of_eq hrefl le_rfl rfl (.inr rfl) hknown (fun _ _ _ ↦ Iff.rfl) rfl rfl
  | start s queue hqueue hworker =>
    exact hgoes _ hrefl rfl (by simp) (by simp [hworker]) rfl rfl rfl rfl
  | read s activeWb hworker =>
    have hactive : activeWb = (q.works s).activeWriteback := by
      rwa [WorkerKnows, hworker] at hknown
    have hworks : q.SameJobs (q.readWork s activeWb) :=
      sameJobs_setWork s _ (by exact ⟨rfl, rfl, rfl⟩)
    have hphase : (q.readWork s activeWb).worker = .idle ∨ ∃ a b, (q.readWork s activeWb).worker =
        .read s activeWb (q.works s).wbPending a b := by
      cases hpending : (q.works s).crcPending <;> simp [ComposerQueue.readWork, hpending]
    rcases hphase with hphase | ⟨a, b, hphase⟩
    · refine hgoes _ hworks ?_ (by simp [hphase]) (by simp [hworker]) rfl rfl rfl rfl
      rw [WorkerKnows, hphase]
      trivial
    · refine hgoes _ hworks ?_ (by simp [hphase]) (by simp [hworker]) rfl rfl rfl rfl
      rw [WorkerKnows, hphase]
      exact fun hpending ↦ ⟨(hworks s).2.1.trans hpending, hactive.trans (hworks s).1.symm⟩
  | check s activeWb wbPending a b hworker hformat =>
    refine hgoes _ hrefl ?_ (by simp) (by simp [hworker]) rfl rfl rfl rfl
    rw [WorkerKnows, hworker] at hknown
    intro hpending
    obtain ⟨hpending', hactive⟩ := hknown hpending
    exact ⟨hpending', hactive, hformat hpending (hactive ▸ h.pending s hpending')⟩
  | notComposed s activeWb wbPending a b hworker =>
    exact hgoes _ hrefl trivial (by simp) (by simp [hworker]) rfl rfl rfl rfl
  | composed s activeWb a b hworker =>
    exact hgoes _ hrefl trivial (by simp) (by simp [hworker]) rfl rfl rfl rfl
  | signalCompletion s activeWb a b hworker =>
    refine h.signalCompletion hworker (horder s activeWb a b hworker ?_)
    rw [hworker]
    intro hphase
    cases hphase
  | clearPending s a b hworker => exact h.clearPending hworker
  | addEntry s a b hworker hle =>
    exact hgoes _ hrefl trivial (by simp) (by simp [hworker]) rfl rfl rfl rfl
  | finish s a b hworker hlt =>
    exact hgoes _ hrefl trivial (by simp) (by simp [hworker]) rfl rfl rfl rfl

theorem jobsKnown_init : JobsKnown drm { fifo := drm.init } where
  le := by simp
  pending := by simp
  unwritten := by simp
  commit := trivial
  worker := trivial
  completed := by simp
  once := List.nodup_nil
  waiting := ⟨[], List.Pairwise.nil, by simp [drm.jobs_init], by simp [Waiting]⟩

theorem jobsKnown_of_run
    (hrun : Relation.ReflTransGen
      (fun q q' ↦ ComposerMove drm q q' ∧ q.Unraced q' ∧ q.InOrder q') { fifo := drm.init } q) :
    q.JobsKnown drm := by
  induction hrun with
  | refl => exact jobsKnown_init
  | tail _ hmove ih => exact ih.move hmove.1 hmove.2.1 hmove.2.2

/-- What has been signalled, and what is still in the connector's queue, is what has been put into
it. -/
theorem signalled_append_jobs
    (hrun : Relation.ReflTransGen (ComposerMove drm) { fifo := drm.init } q) :
    q.completions.filterMap WritebackCompletion.signalled ++ drm.jobs q.fifo = q.jobs := by
  induction hrun with
  | refl => exact drm.jobs_init
  | @tail q q' _ hmove ih =>
    cases hmove with
    | queueJob job hwbCommit =>
      show q.completions.filterMap _ ++ drm.jobs (drm.queueJob q.fifo job) = q.jobs ++ [job]
      rw [drm.jobs_queueJob, ← List.append_assoc, ih]
    | signalCompletion s activeWb a b hworker =>
      show (q.completions ++ [_]).filterMap _ ++ drm.jobs (drm.signalCompletion q.fifo).2 = q.jobs
      rw [drm.jobs_signalCompletion, List.filterMap_append, List.append_assoc, ← ih,
        drm.signalCompletion_fst]
      cases drm.jobs q.fifo <;> rfl
    | _ => exact ih

/-- The job is committed after the worker has looked for one, and before it looks whether one is
pending. -/
def raced : ComposerQueue (List Nat) :=
  let q : ComposerQueue (List Nat) :=
    { commits := 1, vblank := .read 1 3, frame := 3, fifo := [] }
  let q := { (q.markFrame 1 3).queueWork 1 with queue := [], worker := .started 1 none }
  let q := (q.commitJob 7).queueJob .list 7
  (q.readWork 1 none).signalCompletion .list 1 none 3 3

theorem raced_run :
    Relation.ReflTransGen (fun q q' ↦ ComposerMove .list q q' ∧ q.InOrder q') { fifo := [] }
      raced := by
  have h := Relation.ReflTransGen.refl
    (r := fun q q' : ComposerQueue (List Nat) ↦ ComposerMove .list q q' ∧ q.InOrder q')
    (a := { fifo := [] })
  have h := h.tail ⟨.flush rfl, nofun⟩
  have h := h.tail ⟨.handleVblank 3 rfl Nat.one_pos (by decide), nofun⟩
  have h := h.tail ⟨.mark 1 3 rfl, nofun⟩
  have h := h.tail ⟨.queueWork 1 rfl, nofun⟩
  have h := h.tail ⟨.start 1 [] rfl rfl, nofun⟩
  have h := h.tail ⟨.commitJob 7 Nat.one_pos rfl rfl, nofun⟩
  have h := h.tail ⟨.queueJob 7 rfl, nofun⟩
  have h := h.tail ⟨.read 1 none rfl, nofun⟩
  have h := h.tail ⟨.check 1 none true 3 3 rfl nofun, nofun⟩
  refine h.tail ⟨.signalCompletion 1 none 3 3 rfl, ?_⟩
  intro s activeWb a b hworker _ t ht
  cases hworker
  obtain rfl : t = 0 := by omega
  rfl

/-- Another state, with a job of its own, comes before the vblank. -/
def overtaken : ComposerQueue (List Nat) :=
  let q : ComposerQueue (List Nat) := { commits := 1, fifo := [] }
  let q := ((q.commitJob 7).queueJob .list 7).setPixelWrite
  let q := { q with commits := 2 }
  let q := ((q.commitJob 8).queueJob .list 8).setPixelWrite
  let q := { q with vblank := .read 2 3, frame := 3 }
  let q := { (q.markFrame 2 3).queueWork 2 with queue := [], worker := .started 2 (some 8) }
  (q.readWork 2 (some 8)).signalCompletion .list 2 (some 8) 3 3

theorem overtaken_run :
    Relation.ReflTransGen (fun q q' ↦ ComposerMove .list q q' ∧ q.Unraced q') { fifo := [] }
      overtaken := by
  have h := Relation.ReflTransGen.refl
    (r := fun q q' : ComposerQueue (List Nat) ↦ ComposerMove .list q q' ∧ q.Unraced q')
    (a := { fifo := [] })
  have h := h.tail ⟨.flush rfl, nofun⟩
  have h := h.tail ⟨.commitJob 7 Nat.one_pos rfl rfl, nofun⟩
  have h := h.tail ⟨.queueJob 7 rfl, nofun⟩
  have h := h.tail ⟨.setPixelWrite rfl, nofun⟩
  have h := h.tail ⟨.flush rfl, nofun⟩
  have h := h.tail ⟨.commitJob 8 Nat.two_pos rfl rfl, nofun⟩
  have h := h.tail ⟨.queueJob 8 rfl, nofun⟩
  have h := h.tail ⟨.setPixelWrite rfl, nofun⟩
  have h := h.tail ⟨.handleVblank 3 rfl Nat.two_pos (by decide), nofun⟩
  have h := h.tail ⟨.mark 2 3 rfl, nofun⟩
  have h := h.tail ⟨.queueWork 2 rfl, nofun⟩
  have h := h.tail ⟨.start 2 [] rfl rfl, nofun⟩
  have h := h.tail ⟨.read 2 (some 8) rfl, fun s activeWb hworker ↦ by cases hworker; rfl⟩
  have h := h.tail ⟨.check 2 (some 8) true 3 3 rfl fun _ _ ↦ rfl, nofun⟩
  exact h.tail ⟨.signalCompletion 2 (some 8) 3 3 rfl, nofun⟩

/-- The first job is composed and signalled. -/
def writtenFirst : ComposerQueue (List Nat) :=
  let q : ComposerQueue (List Nat) := { commits := 1, fifo := [] }
  let q := ((q.commitJob 7).queueJob .list 7).setPixelWrite
  let q := { q with vblank := .read 1 3, frame := 3 }
  let q := { (q.markFrame 1 3).queueWork 1 with queue := [], worker := .started 1 (some 7) }
  let q := ((q.readWork 1 (some 7)).signalCompletion .list 1 (some 7) 3 3).clearPending 1 3 3
  { q with worker := .idle, entries := [3] }

theorem writtenFirst_run :
    Relation.ReflTransGen (fun q q' ↦ ComposerMove .list q q' ∧ q.Unraced q' ∧ q.InOrder q')
      { fifo := [] } writtenFirst := by
  have h := Relation.ReflTransGen.refl
    (r := fun q q' : ComposerQueue (List Nat) ↦
      ComposerMove .list q q' ∧ q.Unraced q' ∧ q.InOrder q')
    (a := { fifo := [] })
  have h := h.tail ⟨.flush rfl, nofun, nofun⟩
  have h := h.tail ⟨.commitJob 7 Nat.one_pos rfl rfl, nofun, nofun⟩
  have h := h.tail ⟨.queueJob 7 rfl, nofun, nofun⟩
  have h := h.tail ⟨.setPixelWrite rfl, nofun, nofun⟩
  have h := h.tail ⟨.handleVblank 3 rfl Nat.one_pos (by decide), nofun, nofun⟩
  have h := h.tail ⟨.mark 1 3 rfl, nofun, nofun⟩
  have h := h.tail ⟨.queueWork 1 rfl, nofun, nofun⟩
  have h := h.tail ⟨.start 1 [] rfl rfl, nofun, nofun⟩
  have h := h.tail ⟨.read 1 (some 7) rfl, fun s activeWb hworker ↦ by cases hworker; rfl, nofun⟩
  have h := h.tail ⟨.check 1 (some 7) true 3 3 rfl fun _ _ ↦ rfl, nofun, nofun⟩
  have h := h.tail ⟨.signalCompletion 1 (some 7) 3 3 rfl, nofun, by
    intro s activeWb a b hworker _ t ht
    cases hworker
    obtain rfl : t = 0 := by omega
    rfl⟩
  have h := h.tail ⟨.clearPending 1 3 3 rfl, nofun, nofun⟩
  have h := h.tail ⟨.addEntry 1 3 3 rfl (by decide), nofun, nofun⟩
  exact h.tail ⟨.finish 1 4 3 rfl (by decide), nofun, nofun⟩

/-- So is the second, after that. -/
def written : ComposerQueue (List Nat) :=
  let q := { writtenFirst with commits := 2 }
  let q := ((q.commitJob 8).queueJob .list 8).setPixelWrite
  let q := { q with vblank := .read 2 4, frame := 4 }
  let q := { (q.markFrame 2 4).queueWork 2 with queue := [], worker := .started 2 (some 8) }
  (q.readWork 2 (some 8)).signalCompletion .list 2 (some 8) 4 4

theorem written_run :
    Relation.ReflTransGen (fun q q' ↦ ComposerMove .list q q' ∧ q.Unraced q' ∧ q.InOrder q')
      { fifo := [] } written := by
  have h := writtenFirst_run
  have h := h.tail ⟨.flush rfl, nofun, nofun⟩
  have h := h.tail ⟨.commitJob 8 Nat.two_pos rfl rfl, nofun, nofun⟩
  have h := h.tail ⟨.queueJob 8 rfl, nofun, nofun⟩
  have h := h.tail ⟨.setPixelWrite rfl, nofun, nofun⟩
  have h := h.tail ⟨.handleVblank 4 rfl Nat.two_pos (by decide), nofun, nofun⟩
  have h := h.tail ⟨.mark 2 4 rfl, nofun, nofun⟩
  have h := h.tail ⟨.queueWork 2 rfl, nofun, nofun⟩
  have h := h.tail ⟨.start 2 [] rfl rfl, nofun, nofun⟩
  have h := h.tail ⟨.read 2 (some 8) rfl, fun s activeWb hworker ↦ by cases hworker; rfl, nofun⟩
  have h := h.tail ⟨.check 2 (some 8) true 4 4 rfl fun _ _ ↦ rfl, nofun, nofun⟩
  refine h.tail ⟨.signalCompletion 2 (some 8) 4 4 rfl, nofun, ?_⟩
  intro s activeWb a b hworker _ t ht
  have hs : 2 = s := (CrcWorkerPhase.composing.inj hworker).1
  subst hs
  obtain rfl | rfl : t = 0 ∨ t = 1 := by omega
  · rfl
  · rfl

end ComposerQueue

/-- Jobs are signalled in the order in which they were put into the connector's queue, each once.
In a run without races in which jobs are composed in order, a completion is of the job for which the
planes were composed, and no state's job is completed twice; where the job of an earlier state is
still pending, the next completion is of the first such job, for which nothing has been composed.
Neither condition can be left out. -/
theorem writeback_completed {Fifo : Type} (drm : WritebackFifo Fifo) :
    (∀ q : ComposerQueue Fifo,
      Relation.ReflTransGen (ComposerMove drm) { fifo := drm.init } q →
        q.completions.filterMap WritebackCompletion.signalled ++ drm.jobs q.fifo = q.jobs) ∧
    (∀ q : ComposerQueue Fifo,
      Relation.ReflTransGen (fun q q' ↦ ComposerMove drm q q' ∧ q.Unraced q' ∧ q.InOrder q')
        { fifo := drm.init } q →
        (∀ c ∈ q.completions, ∃ job, c.composed = some job ∧ c.signalled = some job ∧
          (q.works c.s).activeWriteback = some job) ∧
        (q.completions.map WritebackCompletion.s).Nodup ∧
        ∀ s activeWb a b t, q.worker = .composing s activeWb true a b → t < s →
          (q.works t).wbPending = true → (∀ u < t, (q.works u).wbPending = false) →
          (drm.signalCompletion q.fifo).1 = (q.works t).activeWriteback ∧
            ∀ c ∈ q.completions, c.s ≠ t) ∧
    (∃ q : ComposerQueue (List Nat),
      Relation.ReflTransGen (fun q q' ↦ ComposerMove .list q q' ∧ q.InOrder q') { fifo := [] } q ∧
        ∃ c ∈ q.completions, ∃ job, c.composed = none ∧ c.signalled = some job) ∧
    ∃ q : ComposerQueue (List Nat),
      Relation.ReflTransGen (fun q q' ↦ ComposerMove .list q q' ∧ q.Unraced q') { fifo := [] } q ∧
        ∃ c ∈ q.completions, ∃ job job', c.composed = some job ∧ c.signalled = some job' ∧
          job ≠ job' := by
  refine ⟨fun q hrun ↦ ComposerQueue.signalled_append_jobs hrun, fun q hrun ↦ ?_,
    ⟨_, ComposerQueue.raced_run, ⟨1, none, some 7⟩, List.mem_cons_self, 7, rfl, rfl⟩,
    ⟨_, ComposerQueue.overtaken_run, ⟨2, some 8, some 7⟩, List.mem_cons_self, 8, 7, rfl, rfl,
      by decide⟩⟩
  have hknown := ComposerQueue.jobsKnown_of_run hrun
  refine ⟨fun c hc ↦ (hknown.completed c hc).1, hknown.once,
    fun s activeWb a b t hworker hlt hpending hfirst ↦ ?_⟩
  have hwaiting : q.Waiting t := by
    refine ⟨hpending, fun job hwbCommit ht ↦ ?_, fun c d hphase ↦ ?_⟩
    · have hsome := (hknown.of_composing hworker).2
      have hle := hknown.le s hsome
      omega
    · rw [hworker] at hphase
      cases hphase
  refine ⟨hknown.signalled_head hwaiting hfirst, fun c hc ht ↦ ?_⟩
  rcases (hknown.completed c hc).2 with hnot | ⟨c', d', hphase⟩
  · rw [ht, hpending] at hnot
    cases hnot
  · rw [hworker] at hphase
    cases hphase

theorem writeback_completed_written :
    ComposerQueue.written.completions = [⟨1, some 7, some 7⟩, ⟨2, some 8, some 8⟩] ∧
      ∀ c ∈ ComposerQueue.written.completions, ∃ job, c.composed = some job ∧
        c.signalled = some job ∧ (ComposerQueue.written.works c.s).activeWriteback = some job :=
  ⟨rfl, ((writeback_completed .list).2.1 _ ComposerQueue.written_run).1⟩

end VirtualDisplay
