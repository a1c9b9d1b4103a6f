import Mathlib

/-!
# The composer's work queue

Each vblank asks for the checksum of a frame.  The timer only marks the frame in the state of the
CRTC and queues the work of that state (`vkms_crtc_handle_vblank`); a worker composes the planes and
reports the checksum for all the frames that have been marked by then (`vkms_composer_worker`).  A
commit may bring another state at any time, and a writeback job may be committed to it
(`vkms_wb_atomic_commit`).

`ComposerMove` has a step for each part of this that runs without interruption: a section under a
lock, or a single access outside of one.  The states are numbered in the order in which they become
`composer_state`, and there is none before the first; frames are numbered without a bound.  The
queue of the writeback connector is DRM's, and stands as a parameter (`WritebackFifo`).

* `crcEntries_accounted` — the frames are reported in order, and none is lost.

What becomes of the writeback jobs is in `Drm.WritebackJobs`.
-/

set_option autoImplicit false

namespace VirtualDisplay

/-! ## The queue -/

/-- The jobs of a writeback connector, which DRM keeps first in, first out:
`drm_writeback_queue_job` puts a job behind the others, and `drm_writeback_signal_completion` takes
the first one out and signals it, if there is one.  `jobs` is what the queue holds. -/
structure WritebackFifo (Fifo : Type) where
  init : Fifo
  queueJob : Fifo → Nat → Fifo
  signalCompletion : Fifo → Option Nat × Fifo
  jobs : Fifo → List Nat
  jobs_init : jobs init = []
  jobs_queueJob : ∀ fifo job, jobs (queueJob fifo job) = jobs fifo ++ [job]
  signalCompletion_fst : ∀ fifo, (signalCompletion fifo).1 = (jobs fifo).head?
  jobs_signalCompletion : ∀ fifo, jobs (signalCompletion fifo).2 = (jobs fifo).tail

/-- A list of jobs will do. -/
def WritebackFifo.list : WritebackFifo (List Nat) where
  init := []
  queueJob fifo job := fifo ++ [job]
  signalCompletion fifo := (fifo.head?, fifo.tail)
  jobs fifo := fifo
  jobs_init := rfl
  jobs_queueJob _ _ := rfl
  signalCompletion_fst _ := rfl
  jobs_signalCompletion _ := rfl

/-- What `struct vkms_crtc_state` has under `composer_lock`, and the job.  Jobs are numbered. -/
structure ComposerWork where
  crcPending : Bool := false
  wbPending : Bool := false
  frameStart : Nat := 0
  frameEnd : Nat := 0
  activeWriteback : Option Nat := none
  /-- The job's `pixel_write` is set. -/
  pixelWrite : Bool := false

/-- Where the worker is in `vkms_composer_worker`. -/
inductive CrcWorkerPhase where
  | idle
  /-- It has read `active_writeback`, without the lock. -/
  | started (s : Nat) (activeWb : Option Nat)
  /-- It has read the rest. -/
  | read (s : Nat) (activeWb : Option Nat) (wbPending : Bool) (frameStart frameEnd : Nat)
  /-- The checks have passed, and the planes are blended. -/
  | composing (s : Nat) (activeWb : Option Nat) (wbPending : Bool) (frameStart frameEnd : Nat)
  /-- It has signalled a completion, and `wb_pending` is still set. -/
  | signalled (s frameStart frameEnd : Nat)
  /-- In the loop at its end. -/
  | adding (s frameStart frameEnd : Nat)

/-- Where the timer is in `vkms_crtc_handle_vblank`. -/
inductive VblankPhase where
  | idle
  /-- It has read `composer_state` and the number of its frame. -/
  | read (s frame : Nat)
  /-- It has marked its frame, and the work is to be queued. -/
  | marked (s : Nat)

/-- Where a commit is in `vkms_wb_atomic_commit`. -/
inductive WbCommitPhase where
  | idle
  /-- The job is pending, and not in the connector's queue. -/
  | committed (job : Nat)
  /-- It is in the queue, without `pixel_write`. -/
  | queued

/-- The state whose work signalled a completion, the job that the planes were composed for, if there
was one, and the job that was signalled. -/
structure WritebackCompletion where
  s : Nat
  composed : Option Nat
  signalled : Option Nat

/-- The states of a CRTC with what is queued and what the worker and the handler are at, the
writeback queue of the connector, and what has been reported. -/
structure ComposerQueue (Fifo : Type) where
  /-- How often `composer_state` has been set: its number. -/
  commits : Nat := 0
  works : Nat → ComposerWork := fun _ ↦ {}
  /-- `composer_workq` -/
  queue : List Nat := []
  worker : CrcWorkerPhase := .idle
  vblank : VblankPhase := .idle
  /-- The frame of the last vblank. -/
  frame : Nat := 0
  wbCommit : WbCommitPhase := .idle
  /-- `job_queue` of the writeback connector. -/
  fifo : Fifo
  /-- The frames that have been reported. -/
  entries : List Nat := []
  /-- The frames that have been marked, each with its state. -/
  marks : List (Nat × Nat) := []
  /-- The frames for which composing failed. -/
  failed : List (Nat × Nat) := []
  /-- The jobs that have been put into the connector's queue. -/
  jobs : List Nat := []
  completions : List WritebackCompletion := []

namespace ComposerQueue

variable {Fifo : Type} (drm : WritebackFifo Fifo) (q : ComposerQueue Fifo)

/-- The state's own fields after a step. -/
def setWork (s : Nat) (work : ComposerWork) : ComposerQueue Fifo :=
  { q with works := Function.update q.works s work }

/-- The locked section of `vkms_crtc_handle_vblank`. -/
def markFrame (s frame : Nat) : ComposerQueue Fifo :=
  let work := q.works s
  let q := q.setWork s
    { work with
      frameStart := if work.crcPending then work.frameStart else frame
      frameEnd := frame
      crcPending := true }
  { q with vblank := .marked s, marks := q.marks ++ [(s, frame)] }

/-- `queue_work`, which leaves a work that is queued where it is. -/
def queueWork (s : Nat) : ComposerQueue Fifo :=
  { q with
    vblank := .idle
    queue := if s ∈ q.queue then q.queue else q.queue ++ [s] }

/-- The locked section of `vkms_wb_atomic_commit`. -/
def commitJob (job : Nat) : ComposerQueue Fifo :=
  { q.setWork q.commits
      { q.works q.commits with activeWriteback := some job, wbPending := true } with
    wbCommit := .committed job }

/-- `drm_writeback_queue_job` puts the job behind those that the connector has. -/
def queueJob (job : Nat) : ComposerQueue Fifo :=
  { q with fifo := drm.queueJob q.fifo job, jobs := q.jobs ++ [job], wbCommit := .queued }

/-- The end of `vkms_wb_atomic_commit`. -/
def setPixelWrite : ComposerQueue Fifo :=
  { q.setWork q.commits { q.works q.commits with pixelWrite := true } with wbCommit := .idle }

/-- The first locked section of the worker. -/
def readWork (s : Nat) (activeWb : Option Nat) : ComposerQueue Fifo :=
  let work := q.works s
  let q := q.setWork s { work with frameStart := 0, frameEnd := 0, crcPending := false }
  { q with
    worker :=
      if work.crcPending then .read s activeWb work.wbPending work.frameStart work.frameEnd
      else .idle }

/-- `drm_writeback_signal_completion`, after the planes have been composed for `activeWb`. -/
def signalCompletion (s : Nat) (activeWb : Option Nat) (frameStart frameEnd : Nat) :
    ComposerQueue Fifo :=
  let (job, fifo) := drm.signalCompletion q.fifo
  { q with
    fifo
    completions := q.completions ++ [⟨s, activeWb, job⟩]
    worker := .signalled s frameStart frameEnd }

/-- The second locked section of the worker. -/
def clearPending (s frameStart frameEnd : Nat) : ComposerQueue Fifo :=
  { q.setWork s { q.works s with wbPending := false } with
    worker := .adding s frameStart frameEnd }

end ComposerQueue

/-- Handlers of vblanks do not overlap, as those of one timer do not, and each has a later frame
than the one before.  Nor do commits, for DRM waits until the one before is done. -/
inductive ComposerMove {Fifo : Type} (drm : WritebackFifo Fifo) (q : ComposerQueue Fifo) :
    ComposerQueue Fifo → Prop
  /-- `vkms_crtc_atomic_flush` sets `composer_state`. -/
  | flush (hwbCommit : q.wbCommit = .idle) : ComposerMove drm q { q with commits := q.commits + 1 }
  /-- A state has one job at most. -/
  | commitJob (job : Nat) (hcommits : 0 < q.commits) (hwbCommit : q.wbCommit = .idle)
      (hjob : (q.works q.commits).activeWriteback = none) : ComposerMove drm q (q.commitJob job)
  | queueJob (job : Nat) (hwbCommit : q.wbCommit = .committed job) :
      ComposerMove drm q (q.queueJob drm job)
  | setPixelWrite (hwbCommit : q.wbCommit = .queued) : ComposerMove drm q q.setPixelWrite
  /-- A vblank with the composer enabled. -/
  | handleVblank (frame : Nat) (hvblank : q.vblank = .idle) (hcommits : 0 < q.commits)
      (hframe : q.frame < frame) :
      ComposerMove drm q { q with vblank := .read q.commits frame, frame := frame }
  | mark (s frame : Nat) (hvblank : q.vblank = .read s frame) :
      ComposerMove drm q (q.markFrame s frame)
  | queueWork (s : Nat) (hvblank : q.vblank = .marked s) : ComposerMove drm q (q.queueWork s)
  | start (s : Nat) (queue : List Nat) (hqueue : q.queue = s :: queue)
      (hworker : q.worker = .idle) :
      ComposerMove drm q
        { q with queue := queue, worker := .started s (q.works s).activeWriteback }
  | read (s : Nat) (activeWb : Option Nat) (hworker : q.worker = .started s activeWb) :
      ComposerMove drm q (q.readWork s activeWb)
  /-- `compose_active_planes` is called with the job only where one was pending, and goes on only if
  that has `pixel_write`. -/
  | check (s : Nat) (activeWb : Option Nat) (wbPending : Bool) (frameStart frameEnd : Nat)
      (hworker : q.worker = .read s activeWb wbPending frameStart frameEnd)
      (hformat : wbPending = true → activeWb.isSome → (q.works s).pixelWrite = true) :
      ComposerMove drm q
        { q with worker := .composing s activeWb wbPending frameStart frameEnd }
  /-- A check or an allocation may fail. -/
  | notComposed (s : Nat) (activeWb : Option Nat) (wbPending : Bool) (frameStart frameEnd : Nat)
      (hworker : q.worker = .read s activeWb wbPending frameStart frameEnd) :
      ComposerMove drm q
        { q with worker := .idle, failed := q.failed ++ [(frameStart, frameEnd)] }
  | composed (s : Nat) (activeWb : Option Nat) (frameStart frameEnd : Nat)
      (hworker : q.worker = .composing s activeWb false frameStart frameEnd) :
      ComposerMove drm q { q with worker := .adding s frameStart frameEnd }
  | signalCompletion (s : Nat) (activeWb : Option Nat) (frameStart frameEnd : Nat)
      (hworker : q.worker = .composing s activeWb true frameStart frameEnd) :
      ComposerMove drm q (q.signalCompletion drm s activeWb frameStart frameEnd)
  | clearPending (s frameStart frameEnd : Nat)
      (hworker : q.worker = .signalled s frameStart frameEnd) :
      ComposerMove drm q (q.clearPending s frameStart frameEnd)
  | addEntry (s frameStart frameEnd : Nat) (hworker : q.worker = .adding s frameStart frameEnd)
      (hle : frameStart ≤ frameEnd) :
      ComposerMove drm q
        { q with
          worker := .adding s (frameStart + 1) frameEnd
          entries := q.entries ++ [frameStart] }
  | finish (s frameStart frameEnd : Nat) (hworker : q.worker = .adding s frameStart frameEnd)
      (hlt : frameEnd < frameStart) : ComposerMove drm q { q with worker := .idle }

/-! ## Accounting for the frames -/

/-- The frames `a` to `b` are marked and not read. -/
def ComposerWork.Pending (work : ComposerWork) (a b : Nat) : Prop :=
  work.crcPending = true ∧ work.frameStart = a ∧ work.frameEnd = b

namespace ComposerQueue

variable {Fifo : Type}

/-- The states whose work will be read, in this order. -/
def line (q : ComposerQueue Fifo) : List Nat :=
  match q.worker with
  | .started s _ => s :: q.queue
  | _ => q.queue

/-- The frames that the worker has read and not reported, with their state. -/
def inflight (q : ComposerQueue Fifo) : Option (Nat × Nat × Nat) :=
  match q.worker with
  | .read s _ _ a b | .composing s _ _ a b | .signalled s a b | .adding s a b => some (s, a, b)
  | .idle | .started _ _ => none

/-- The state that the next frame is marked in. -/
def top (q : ComposerQueue Fifo) : Nat :=
  match q.vblank with
  | .read s _ | .marked s => s
  | .idle => q.commits

/-- The work of the state is queued or has just been started, or the timer is about to queue it. -/
def Due (q : ComposerQueue Fifo) (s : Nat) : Prop := s ∈ q.line ∨ q.vblank = .marked s

/-- The marks from `a` to `b` in the state `s`. -/
def Spans (q : ComposerQueue Fifo) (s a b : Nat) : Prop :=
  (s, a) ∈ q.marks ∧ (s, b) ∈ q.marks ∧ a ≤ b

/-- What is accounted for: the frames that are marked come before the handler's, the states are
composed in order, and each frame that is due is in one place. -/
structure Accounted (q : ComposerQueue Fifo) : Prop where
  sorted : q.line.Pairwise (· ≤ ·)
  line_le : ∀ s ∈ q.line, s ≤ q.top
  top_le : q.top ≤ q.commits
  vblank : ∀ s frame, q.vblank = .read s frame → frame = q.frame
  marks : ∀ m ∈ q.marks, m.2 ≤ q.frame ∧ ∀ s frame, q.vblank = .read s frame → m.2 < frame
  pending : ∀ s a b, (q.works s).Pending a b → q.Due s ∧ q.Spans s a b
  apart : ∀ s a b t c d, (q.works s).Pending a b → (q.works t).Pending c d → s < t → b < c
  inflight : ∀ s a b, q.inflight = some (s, a, b) →
    (∃ a' ≤ a, q.Spans s a' b) ∧ ∀ t c d, (q.works t).Pending c d → b < c
  sortedEntries : q.entries.Pairwise (· < ·)
  entries : ∀ e ∈ q.entries, (∃ s a b, q.Spans s a b ∧ a ≤ e ∧ e ≤ b) ∧
    (∀ s a b, q.inflight = some (s, a, b) → e < a) ∧ ∀ t c d, (q.works t).Pending c d → e < c
  covered : ∀ m ∈ q.marks, m.2 ∈ q.entries ∨ (∃ p ∈ q.failed, p.1 ≤ m.2 ∧ m.2 ≤ p.2) ∨
    (∃ s a b, q.inflight = some (s, a, b) ∧ a ≤ m.2 ∧ m.2 ≤ b) ∨
    ∃ s a b, (q.works s).Pending a b ∧ a ≤ m.2 ∧ m.2 ≤ b

variable {q q' : ComposerQueue Fifo}

/-- What the accounting looks at has not changed, but for later commits. -/
theorem Accounted.of_eq (h : q.Accounted)
    (hworks : ∀ s a b, (q'.works s).Pending a b ↔ (q.works s).Pending a b)
    (hline : q'.line = q.line) (hinflight : q'.inflight = q.inflight)
    (hvblank : q'.vblank = q.vblank) (hcommits : q.commits ≤ q'.commits)
    (hframe : q'.frame = q.frame) (hentries : q'.entries = q.entries) (hmarks : q'.marks = q.marks)
    (hfailed : q'.failed = q.failed) : q'.Accounted := by
  have htop : q.top ≤ q'.top ∧ q'.top ≤ q'.commits := by
    have hle := h.top_le
    simp only [top, hvblank] at hle ⊢
    cases hv : q.vblank with
    | idle => exact ⟨hcommits, le_rfl⟩
    | read s frame =>
      rw [hv] at hle
      exact ⟨le_rfl, hle.trans hcommits⟩
    | marked s =>
      rw [hv] at hle
      exact ⟨le_rfl, hle.trans hcommits⟩
  have hspans : ∀ s a b, q'.Spans s a b ↔ q.Spans s a b := by
    intro s a b
    rw [Spans, Spans, hmarks]
  have hdue : ∀ s, q'.Due s ↔ q.Due s := by
    intro s
    rw [Due, Due, hline, hvblank]
  constructor
  · rw [hline]
    exact h.sorted
  · rw [hline]
    exact fun s hs ↦ (h.line_le s hs).trans htop.1
  · exact htop.2
  · rw [hvblank, hframe]
    exact h.vblank
  · rw [hmarks, hvblank, hframe]
    exact h.marks
  · simp only [hworks, hspans, hdue]
    exact h.pending
  · simp only [hworks]
    exact h.apart
  · simp only [hworks, hspans, hinflight]
    exact h.inflight
  · rw [hentries]
    exact h.sortedEntries
  · simp only [hworks, hspans, hinflight, hentries]
    exact h.entries
  · simp only [hworks, hinflight, hentries, hmarks, hfailed]
    exact h.covered

theorem spans_mono (hmarks : ∀ m ∈ q.marks, m ∈ q'.marks) {s a b : Nat} (h : q.Spans s a b) :
    q'.Spans s a b :=
  ⟨hmarks _ h.1, hmarks _ h.2.1, h.2.2⟩

/-- Nothing is pending in a state behind the one that the next frame is marked in. -/
theorem Accounted.pending_le (h : q.Accounted) {s a b : Nat} (hpending : (q.works s).Pending a b) :
    s ≤ q.top := by
  rcases (h.pending s a b hpending).1 with hline | hmarked
  · exact h.line_le s hline
  · rw [top, hmarked]

/-- A vblank is later than the marks before it. -/
theorem Accounted.vblank_later (h : q.Accounted) {s frame : Nat}
    (hvblank : q.vblank = .read s frame) {t a b : Nat} (hspans : q.Spans t a b) : b < frame :=
  (h.marks _ hspans.2.1).2 s frame hvblank

theorem pending_markFrame {s frame t a b : Nat} :
    ((q.markFrame s frame).works t).Pending a b ↔
      if t = s then
        (a = if (q.works s).crcPending then (q.works s).frameStart else frame) ∧ b = frame
      else (q.works t).Pending a b := by
  rw [ComposerQueue.markFrame, setWork]
  by_cases ht : t = s
  · rw [ht, if_pos rfl]
    simp only [Function.update_self, ComposerWork.Pending, true_and]
    exact ⟨fun h ↦ ⟨h.1.symm, h.2.symm⟩, fun h ↦ ⟨h.1.symm, h.2.symm⟩⟩
  · rw [if_neg ht]
    simp only [Function.update_of_ne ht]

/-- What is pending behind a mark was so before it, or starts with the mark. -/
theorem pending_or_of_markFrame {s frame t a b : Nat}
    (h : ((q.markFrame s frame).works t).Pending a b) :
    (∃ b', (q.works t).Pending a b') ∨ t = s ∧ a = frame := by
  rw [pending_markFrame] at h
  by_cases ht : t = s
  · rw [if_pos ht] at h
    cases hpending : (q.works s).crcPending with
    | true =>
      rw [hpending, if_pos rfl] at h
      exact .inl ⟨(q.works t).frameEnd, ht ▸ hpending, ht ▸ h.1.symm, rfl⟩
    | false =>
      rw [hpending] at h
      exact .inr ⟨ht, h.1⟩
  · rw [if_neg ht] at h
    exact .inl ⟨b, h⟩

/-- A frame before the mark and before all that is pending stays so. -/
theorem before_pending_markFrame {s frame e : Nat}
    (hbefore : ∀ t c d, (q.works t).Pending c d → e < c) (hframe : e < frame) {t c d : Nat}
    (hpending : ((q.markFrame s frame).works t).Pending c d) : e < c := by
  rcases pending_or_of_markFrame hpending with ⟨d', hold⟩ | ⟨-, rfl⟩
  · exact hbefore t c d' hold
  · exact hframe

/-- The frames of a state that is marked again reach to the new mark. -/
theorem Accounted.markFrame (h : q.Accounted) {s frame : Nat}
    (hvblank : q.vblank = .read s frame) : (q.markFrame s frame).Accounted := by
  have htop : q.top = s := by rw [top, hvblank]
  have hframe : frame = q.frame := h.vblank s frame hvblank
  have hmarks : (q.markFrame s frame).marks = q.marks ++ [(s, frame)] := rfl
  have hmono : ∀ m ∈ q.marks, m ∈ (q.markFrame s frame).marks := fun m hm ↦
    List.mem_append_left _ hm
  have hspans : ∀ a b, ((q.markFrame s frame).works s).Pending a b →
      (q.markFrame s frame).Spans s a b ∧ b = frame := by
    intro a b hpending
    have hnew : (s, frame) ∈ (q.markFrame s frame).marks :=
      List.mem_append_right _ List.mem_cons_self
    obtain ⟨-, rfl⟩ := (if_pos rfl).mp (pending_markFrame.mp hpending)
    rcases pending_or_of_markFrame hpending with ⟨b', hold⟩ | ⟨-, rfl⟩
    · have hspans := (h.pending s a b' hold).2
      exact ⟨⟨hmono _ hspans.1, hnew, hspans.2.2.trans (h.vblank_later hvblank hspans).le⟩, rfl⟩
    · exact ⟨⟨hnew, hnew, le_rfl⟩, rfl⟩
  constructor
  · exact h.sorted
  · intro t ht
    have htop' : (q.markFrame s frame).top = s := rfl
    rw [htop', ← htop]
    exact h.line_le t ht
  · exact htop ▸ h.top_le
  · intro t frame' hv
    cases hv
  · intro m hm
    refine ⟨?_, fun t frame' hv ↦ by cases hv⟩
    rw [hmarks, List.mem_append] at hm
    rcases hm with hm | hm
    · exact (h.marks m hm).1
    · rw [List.mem_singleton.mp hm]
      exact hframe.le
  · intro t a b hpending
    by_cases ht : t = s
    · subst ht
      exact ⟨.inr rfl, (hspans a b hpending).1⟩
    · rw [pending_markFrame, if_neg ht] at hpending
      obtain ⟨hdue, hspans⟩ := h.pending t a b hpending
      rcases hdue with hmem | hmarked
      · exact ⟨.inl hmem, spans_mono hmono hspans⟩
      · rw [hvblank] at hmarked
        cases hmarked
  · intro t a b t' c d hpending hpending' hlt
    by_cases ht : t = s
    · -- Nothing is queued behind the state that is marked.
      rw [pending_markFrame, if_neg (by omega)] at hpending'
      have hle := h.pending_le hpending'
      omega
    · rw [pending_markFrame, if_neg ht] at hpending
      rcases pending_or_of_markFrame hpending' with ⟨d', hold⟩ | ⟨-, rfl⟩
      · exact h.apart t a b t' c d' hpending hold hlt
      · exact h.vblank_later hvblank (h.pending t a b hpending).2
  · intro t a b hinflight
    obtain ⟨⟨a', ha', hspans⟩, hbefore⟩ := h.inflight t a b hinflight
    exact ⟨⟨a', ha', spans_mono hmono hspans⟩, fun _ _ _ ↦
      before_pending_markFrame hbefore (h.vblank_later hvblank hspans)⟩
  · exact h.sortedEntries
  · intro e he
    obtain ⟨⟨t, a, b, hspans, hae, heb⟩, hbeforeFlight, hbefore⟩ := h.entries e he
    exact ⟨⟨t, a, b, spans_mono hmono hspans, hae, heb⟩, hbeforeFlight, fun _ _ _ ↦
      before_pending_markFrame hbefore (heb.trans_lt (h.vblank_later hvblank hspans))⟩
  · intro m hm
    have hself : ((q.markFrame s frame).works s).Pending
        (if (q.works s).crcPending then (q.works s).frameStart else frame) frame :=
      pending_markFrame.mpr (by rw [if_pos rfl]; exact ⟨rfl, rfl⟩)
    rw [hmarks, List.mem_append] at hm
    rcases hm with hm | hm
    · rcases h.covered m hm with hentry | hfailed | hflight | ⟨t, a, b, hpending, ham, hmb⟩
      · exact .inl hentry
      · exact .inr (.inl hfailed)
      · exact .inr (.inr (.inl hflight))
      · refine .inr (.inr (.inr ?_))
        by_cases ht : t = s
        · subst ht
          rw [if_pos hpending.1, hpending.2.1] at hself
          have hlater := h.vblank_later hvblank (h.pending t a b hpending).2
          exact ⟨t, a, frame, hself, ham, by omega⟩
        · exact ⟨t, a, b, pending_markFrame.mpr (by rwa [if_neg ht]), ham, hmb⟩
    · rw [List.mem_singleton.mp hm]
      exact .inr (.inr (.inr ⟨s, _, frame, hself, (hspans _ _ hself).1.2.2, le_rfl⟩))

/-- The state is the last one that has been marked, and so goes to the end of the queue. -/
theorem Accounted.queueWork (h : q.Accounted) {s : Nat} (hvblank : q.vblank = .marked s) :
    (q.queueWork s).Accounted := by
  have htop : q.top = s := by rw [top, hvblank]
  have hline : (q.queueWork s).line = if s ∈ q.queue then q.line else q.line ++ [s] := by
    simp only [ComposerQueue.queueWork, line]
    by_cases hqueue : s ∈ q.queue <;> cases q.worker <;> simp [hqueue]
  have hmem : ∀ t, t ∈ (q.queueWork s).line ↔ t ∈ q.line ∨ t = s := by
    intro t
    rw [hline]
    split_ifs with hqueue
    · have hs : s ∈ q.line := by cases hworker : q.worker <;> simp [line, hworker, hqueue]
      exact ⟨.inl, fun ht ↦ ht.elim id fun ht ↦ ht ▸ hs⟩
    · rw [List.mem_append, List.mem_singleton]
  constructor
  · rw [hline]
    split_ifs
    · exact h.sorted
    · rw [List.pairwise_append]
      refine ⟨h.sorted, List.pairwise_singleton _ _, fun t ht t' ht' ↦ ?_⟩
      rw [List.mem_singleton.mp ht', ← htop]
      exact h.line_le t ht
  · intro t ht
    have htop' : (q.queueWork s).top = q.commits := rfl
    rw [htop']
    rcases (hmem t).mp ht with ht | rfl
    · exact (h.line_le t ht).trans h.top_le
    · exact htop ▸ h.top_le
  · exact le_rfl
  · intro t frame hv
    cases hv
  · exact fun m hm ↦ ⟨(h.marks m hm).1, fun t frame hv ↦ by cases hv⟩
  · intro t a b hpending
    obtain ⟨hdue, hspans⟩ := h.pending t a b hpending
    refine ⟨.inl ((hmem t).mpr ?_), hspans⟩
    rcases hdue with hline | hmarked
    · exact .inl hline
    · rw [hvblank] at hmarked
      cases hmarked
      exact .inr rfl
  · exact h.apart
  · exact h.inflight
  · exact h.sortedEntries
  · exact h.entries
  · exact h.covered

theorem pending_readWork {s t a b : Nat} {activeWb : Option Nat} :
    ((q.readWork s activeWb).works t).Pending a b ↔ t ≠ s ∧ (q.works t).Pending a b := by
  rw [ComposerQueue.readWork, setWork]
  by_cases ht : t = s
  · rw [ht]
    simp [ComposerWork.Pending]
  · simp only [Function.update_of_ne ht, ne_eq, ht, not_false_eq_true, true_and]

theorem line_readWork (s : Nat) (activeWb : Option Nat) :
    (q.readWork s activeWb).line = q.queue := by
  cases hpending : (q.works s).crcPending <;>
    simp [ComposerQueue.readWork, setWork, line, hpending]

theorem inflight_readWork {s t a b : Nat} {activeWb : Option Nat} :
    (q.readWork s activeWb).inflight = some (t, a, b) ↔ t = s ∧ (q.works s).Pending a b := by
  cases hpending : (q.works s).crcPending
  · simp [ComposerQueue.readWork, setWork, inflight, hpending, ComposerWork.Pending]
  · simp only [ComposerQueue.readWork, setWork, inflight, hpending, ComposerWork.Pending, if_true,
      Option.some.injEq, Prod.mk.injEq, true_and]
    exact ⟨fun h ↦ ⟨h.1.symm, h.2⟩, fun h ↦ ⟨h.1.symm, h.2⟩⟩

/-- The frames that are read have been marked before those of the states behind. -/
theorem Accounted.readWork (h : q.Accounted) {s : Nat} {activeWb : Option Nat}
    (hworker : q.worker = .started s activeWb) : (q.readWork s activeWb).Accounted := by
  have hline : q.line = s :: q.queue := by rw [line, hworker]
  have hsub : ∀ t ∈ q.queue, t ∈ q.line := fun t ht ↦ hline ▸ List.mem_cons_of_mem _ ht
  have hsorted := h.sorted
  rw [hline, List.pairwise_cons] at hsorted
  have htop : s ≤ q.top := h.line_le s (hline ▸ List.mem_cons_self)
  have hbehind : ∀ t a b, ((q.readWork s activeWb).works t).Pending a b →
      (t ∈ q.queue ∨ q.vblank = .marked t) ∧ s < t ∧ (q.works t).Pending a b := by
    intro t a b hpending
    obtain ⟨hne, hpending⟩ := pending_readWork.mp hpending
    rcases (h.pending t a b hpending).1 with hmem | hmarked
    · rw [hline, List.mem_cons, or_iff_right hne] at hmem
      have hle := hsorted.1 t hmem
      exact ⟨.inl hmem, by omega, hpending⟩
    · have ht : q.top = t := by rw [top, hmarked]
      exact ⟨.inr hmarked, by omega, hpending⟩
  constructor
  · rw [line_readWork]
    exact hsorted.2
  · rw [line_readWork]
    exact fun t ht ↦ h.line_le t (hsub t ht)
  · exact h.top_le
  · exact h.vblank
  · exact h.marks
  · intro t a b hpending
    obtain ⟨hdue, -, hold⟩ := hbehind t a b hpending
    rw [Due, line_readWork]
    exact ⟨hdue, (h.pending t a b hold).2⟩
  · intro t a b t' c d hpending hpending' hlt
    exact h.apart t a b t' c d (hbehind t a b hpending).2.2 (hbehind t' c d hpending').2.2 hlt
  · intro t a b hinflight
    obtain ⟨rfl, hread⟩ := inflight_readWork.mp hinflight
    refine ⟨⟨a, le_rfl, (h.pending t a b hread).2⟩, fun t' c d hpending ↦ ?_⟩
    obtain ⟨-, hlt, hold⟩ := hbehind t' c d hpending
    exact h.apart t a b t' c d hread hold hlt
  · exact h.sortedEntries
  · intro e he
    obtain ⟨hspans, -, hbefore⟩ := h.entries e he
    refine ⟨hspans, fun t a b hinflight ↦ ?_, fun t c d hpending ↦ ?_⟩
    · obtain ⟨rfl, hread⟩ := inflight_readWork.mp hinflight
      exact hbefore t a b hread
    · exact hbefore t c d (hbehind t c d hpending).2.2
  · intro m hm
    rcases h.covered m hm with hentry | hfailed | ⟨t, a, b, hinflight, -⟩ | ⟨t, a, b, hpending, hle⟩
    · exact .inl hentry
    · exact .inr (.inl hfailed)
    · rw [ComposerQueue.inflight, hworker] at hinflight
      cases hinflight
    · by_cases ht : t = s
      · exact .inr (.inr (.inl ⟨s, a, b, inflight_readWork.mpr ⟨rfl, ht ▸ hpending⟩, hle⟩))
      · exact .inr (.inr (.inr ⟨t, a, b, pending_readWork.mpr ⟨ht, hpending⟩, hle⟩))

/-- The next vblank is later than everything so far. -/
theorem Accounted.handleVblank (h : q.Accounted) {frame : Nat} (hvblank : q.vblank = .idle)
    (hframe : q.frame < frame) :
    Accounted { q with vblank := .read q.commits frame, frame := frame } where
  sorted := h.sorted
  line_le s hs := by
    have hle := h.line_le s hs
    rwa [top, hvblank] at hle
  top_le := le_rfl
  vblank s frame' hv := by
    cases hv
    rfl
  marks m hm := by
    have hle := (h.marks m hm).1
    refine ⟨by simp only; omega, fun s frame' hv ↦ ?_⟩
    cases hv
    omega
  pending s a b hpending := by
    obtain ⟨hdue, hspans⟩ := h.pending s a b hpending
    rw [Due, hvblank] at hdue
    exact ⟨.inl (hdue.resolve_right nofun), hspans⟩
  apart := h.apart
  inflight := h.inflight
  sortedEntries := h.sortedEntries
  entries := h.entries
  covered := h.covered

theorem Accounted.notComposed (h : q.Accounted) {s a b : Nat} {activeWb : Option Nat}
    {wbPending : Bool} (hworker : q.worker = .read s activeWb wbPending a b) :
    Accounted { q with worker := .idle, failed := q.failed ++ [(a, b)] } where
  sorted := by
    have hsorted := h.sorted
    rwa [line, hworker] at hsorted
  line_le t ht := h.line_le t (by rwa [line, hworker])
  top_le := h.top_le
  vblank := h.vblank
  marks := h.marks
  pending t c d hpending := by
    have hold := h.pending t c d hpending
    rwa [Due, line, hworker] at hold
  apart := h.apart
  inflight t c d hinflight := by cases hinflight
  sortedEntries := h.sortedEntries
  entries e he := by
    obtain ⟨hspans, -, hbefore⟩ := h.entries e he
    refine ⟨hspans, fun t c d hinflight ↦ ?_, hbefore⟩
    cases hinflight
  covered m hm := by
    rcases h.covered m hm with hentry | ⟨p, hp, hle⟩ | ⟨t, c, d, hinflight, hle⟩ | hpending
    · exact .inl hentry
    · exact .inr (.inl ⟨p, List.mem_append_left _ hp, hle⟩)
    · rw [ComposerQueue.inflight, hworker] at hinflight
      cases hinflight
      exact .inr (.inl ⟨(a, b), List.mem_append_right _ List.mem_cons_self, hle⟩)
    · exact .inr (.inr (.inr hpending))

/-- An entry is the first frame that is in flight. -/
theorem Accounted.addEntry (h : q.Accounted) {s a b : Nat} (hworker : q.worker = .adding s a b)
    (hle : a ≤ b) :
    Accounted { q with worker := .adding s (a + 1) b, entries := q.entries ++ [a] } := by
  have hinflight : q.inflight = some (s, a, b) := by rw [ComposerQueue.inflight, hworker]
  obtain ⟨⟨a', ha', hspans⟩, hbehind⟩ := h.inflight s a b hinflight
  have hline :
      line { q with worker := .adding s (a + 1) b, entries := q.entries ++ [a] } = q.line := by
    rw [line, line, hworker]
  constructor
  · rw [hline]
    exact h.sorted
  · rw [hline]
    exact h.line_le
  · exact h.top_le
  · exact h.vblank
  · exact h.marks
  · simp only [Due, hline]
    exact h.pending
  · exact h.apart
  · intro t c d hflight
    cases hflight
    exact ⟨⟨a', by omega, hspans⟩, hbehind⟩
  · rw [List.pairwise_append]
    refine ⟨h.sortedEntries, List.pairwise_singleton _ _, fun e he e' he' ↦ ?_⟩
    rw [List.mem_singleton.mp he']
    exact (h.entries e he).2.1 s a b hinflight
  · intro e he
    rcases List.mem_append.mp he with he | he
    · obtain ⟨hmarked, hflight, hbefore⟩ := h.entries e he
      refine ⟨hmarked, fun t c d hflight' ↦ ?_, hbefore⟩
      cases hflight'
      have hlt := hflight s a b hinflight
      omega
    · rw [List.mem_singleton.mp he]
      refine ⟨⟨s, a', b, hspans, ha', hle⟩, fun t c d hflight' ↦ ?_, fun t c d hpending ↦ ?_⟩
      · cases hflight'
        omega
      · exact hle.trans_lt (hbehind t c d hpending)
  · intro m hm
    rcases h.covered m hm with hentry | hfailed | ⟨t, c, d, hflight, hcm, hmd⟩ | hpending
    · exact .inl (List.mem_append_left _ hentry)
    · exact .inr (.inl hfailed)
    · rw [hinflight] at hflight
      cases hflight
      obtain heq | hlt := hcm.eq_or_lt
      · exact .inl (List.mem_append_right _ (by rw [heq]; exact List.mem_cons_self))
      · exact .inr (.inr (.inl ⟨s, a + 1, b, rfl, hlt, hmd⟩))
    · exact .inr (.inr (.inr hpending))

theorem Accounted.finish (h : q.Accounted) {s a b : Nat} (hworker : q.worker = .adding s a b)
    (hlt : b < a) : Accounted { q with worker := .idle } where
  sorted := by
    have hsorted := h.sorted
    rwa [line, hworker] at hsorted
  line_le t ht := h.line_le t (by rwa [line, hworker])
  top_le := h.top_le
  vblank := h.vblank
  marks := h.marks
  pending t c d hpending := by
    have hold := h.pending t c d hpending
    rwa [Due, line, hworker] at hold
  apart := h.apart
  inflight t c d hinflight := by cases hinflight
  sortedEntries := h.sortedEntries
  entries e he := by
    obtain ⟨hspans, -, hbefore⟩ := h.entries e he
    refine ⟨hspans, fun t c d hinflight ↦ ?_, hbefore⟩
    cases hinflight
  covered m hm := by
    rcases h.covered m hm with hentry | hfailed | ⟨t, c, d, hinflight, hcm, hmd⟩ | hpending
    · exact .inl hentry
    · exact .inr (.inl hfailed)
    · rw [ComposerQueue.inflight, hworker] at hinflight
      cases hinflight
      omega
    · exact .inr (.inr (.inr hpending))

/-- An update of a work that leaves its frames alone. -/
theorem pending_setWork (s : Nat) (work : ComposerWork)
    (hwork : ∀ a b, work.Pending a b ↔ (q.works s).Pending a b) (t a b : Nat) :
    ((q.setWork s work).works t).Pending a b ↔ (q.works t).Pending a b := by
  rw [setWork]
  by_cases ht : t = s
  · simp only [ht, Function.update_self, hwork]
  · simp only [Function.update_of_ne ht]

/-- The steps that leave the frames alone keep the accounting; so do the others. -/
theorem Accounted.move {drm : WritebackFifo Fifo} (h : q.Accounted)
    (hmove : ComposerMove drm q q') : q'.Accounted := by
  -- The worker goes on with the frames that it has.
  have hgoes : ∀ worker, ComposerQueue.inflight { q with worker := worker } = q.inflight →
      line { q with worker := worker } = q.line → Accounted { q with worker := worker } :=
    fun worker hinflight hline ↦
      h.of_eq (fun _ _ _ ↦ Iff.rfl) hline hinflight rfl le_rfl rfl rfl rfl rfl
  cases hmove with
  | flush hwbCommit =>
    exact h.of_eq (fun _ _ _ ↦ Iff.rfl) rfl rfl rfl (Nat.le_succ _) rfl rfl rfl rfl
  | commitJob job hcommits hwbCommit hjob =>
    exact h.of_eq (pending_setWork _ _ fun _ _ ↦ Iff.rfl) rfl rfl rfl le_rfl rfl rfl rfl rfl
  | queueJob job hwbCommit =>
    exact h.of_eq (fun _ _ _ ↦ Iff.rfl) rfl rfl rfl le_rfl rfl rfl rfl rfl
  | setPixelWrite hwbCommit =>
    exact h.of_eq (pending_setWork _ _ fun _ _ ↦ Iff.rfl) rfl rfl rfl le_rfl rfl rfl rfl rfl
  | handleVblank frame hvblank hcommits hframe => exact h.handleVblank hvblank hframe
  | mark s frame hvblank => exact h.markFrame hvblank
  | queueWork s hvblank => exact h.queueWork hvblank
  | start s queue hqueue hworker =>
    refine h.of_eq (fun _ _ _ ↦ Iff.rfl) ?_ ?_ rfl le_rfl rfl rfl rfl rfl
    · simp only [line, hworker, hqueue]
    · simp only [ComposerQueue.inflight, hworker]
  | read s activeWb hworker => exact h.readWork hworker
  | check s activeWb wbPending a b hworker hformat =>
    exact hgoes _ (by simp only [ComposerQueue.inflight, hworker]) (by simp only [line, hworker])
  | notComposed s activeWb wbPending a b hworker => exact h.notComposed hworker
  | composed s activeWb a b hworker =>
    exact hgoes _ (by simp only [ComposerQueue.inflight, hworker]) (by simp only [line, hworker])
  | signalCompletion s activeWb a b hworker =>
    refine h.of_eq (fun _ _ _ ↦ Iff.rfl) ?_ ?_ rfl le_rfl rfl rfl rfl rfl
    · simp only [ComposerQueue.signalCompletion, line, hworker]
    · simp only [ComposerQueue.signalCompletion, ComposerQueue.inflight, hworker]
  | clearPending s a b hworker =>
    refine h.of_eq (pending_setWork _ _ fun _ _ ↦ Iff.rfl) ?_ ?_ rfl le_rfl rfl rfl rfl rfl
    · simp only [ComposerQueue.clearPending, setWork, line, hworker]
    · simp only [ComposerQueue.clearPending, setWork, ComposerQueue.inflight, hworker]
  | addEntry s a b hworker hle => exact h.addEntry hworker hle
  | finish s a b hworker hlt => exact h.finish hworker hlt

theorem accounted_init (fifo : Fifo) : Accounted { fifo := fifo } := by
  constructor <;> simp [line, top, ComposerQueue.inflight, ComposerWork.Pending]

theorem accounted_of_run {drm : WritebackFifo Fifo}
    (hrun : Relation.ReflTransGen (ComposerMove drm) { fifo := drm.init } q) : q.Accounted := by
  induction hrun with
  | refl => exact accounted_init drm.init
  | tail _ hmove ih => exact ih.move hmove

end ComposerQueue

/-- The frames are reported in order, each between two marks of one state.  A frame that was marked
is reported, fails with its batch, or is still to be done; where nothing is to be done, it has been
reported or has failed. -/
theorem crcEntries_accounted {Fifo : Type} {drm : WritebackFifo Fifo} {q : ComposerQueue Fifo}
    (hrun : Relation.ReflTransGen (ComposerMove drm) { fifo := drm.init } q) :
    q.entries.Pairwise (· < ·) ∧ (∀ e ∈ q.entries, ∃ s a b, q.Spans s a b ∧ a ≤ e ∧ e ≤ b) ∧
      (∀ m ∈ q.marks, m.2 ∈ q.entries ∨ (∃ p ∈ q.failed, p.1 ≤ m.2 ∧ m.2 ≤ p.2) ∨
        (∃ s a b, q.inflight = some (s, a, b) ∧ a ≤ m.2 ∧ m.2 ≤ b) ∨
          ∃ s, q.Due s ∧ ∃ a b, (q.works s).Pending a b ∧ a ≤ m.2 ∧ m.2 ≤ b) ∧
      (q.worker = .idle → q.queue = [] → (∀ s, q.vblank ≠ .marked s) →
        ∀ m ∈ q.marks, m.2 ∈ q.entries ∨ ∃ p ∈ q.failed, p.1 ≤ m.2 ∧ m.2 ≤ p.2) := by
  have haccounted := ComposerQueue.accounted_of_run hrun
  refine ⟨haccounted.sortedEntries, fun e he ↦ (haccounted.entries e he).1, fun m hm ↦ ?_,
    fun hworker hqueue hvblank m hm ↦ ?_⟩
  · rcases haccounted.covered m hm with hentry | hfailed | hinflight | ⟨s, a, b, hpending, hle⟩
    · exact .inl hentry
    · exact .inr (.inl hfailed)
    · exact .inr (.inr (.inl hinflight))
    · exact .inr (.inr (.inr ⟨s, (haccounted.pending s a b hpending).1, a, b, hpending, hle⟩))
  · have hinflight : q.inflight = none := by rw [ComposerQueue.inflight, hworker]
    rcases haccounted.covered m hm with hentry | hfailed | ⟨s, a, b, hflight, -⟩ |
      ⟨s, a, b, hpending, -⟩
    · exact .inl hentry
    · exact .inr hfailed
    · rw [hinflight] at hflight
      cases hflight
    · rcases (haccounted.pending s a b hpending).1 with hline | hmarked
      · rw [ComposerQueue.line, hworker, hqueue] at hline
        cases hline
      · exact absurd hmarked (hvblank s)

namespace ComposerQueue

/-- The worker has fallen behind by a frame, and catches up. -/
def behind : ComposerQueue (List Nat) :=
  let q : ComposerQueue (List Nat) :=
    { commits := 1, vblank := .read 1 3, frame := 3, fifo := [] }
  let q := { (q.markFrame 1 3).queueWork 1 with vblank := .read 1 4, frame := 4 }
  (q.markFrame 1 4).queueWork 1

/-- The queue after the worker has reported both frames. -/
def caughtUp : ComposerQueue (List Nat) :=
  let q := { behind with queue := [], worker := .started 1 none }
  { q.readWork 1 none with worker := .idle, entries := [3, 4] }

theorem caughtUp_run :
    Relation.ReflTransGen (ComposerMove WritebackFifo.list) { fifo := [] } caughtUp := by
  have h := Relation.ReflTransGen.refl (r := ComposerMove WritebackFifo.list) (a := { fifo := [] })
  have h := h.tail (.flush rfl)
  have h := h.tail (.handleVblank 3 rfl Nat.one_pos (by decide))
  have h := h.tail (.mark 1 3 rfl)
  have h := h.tail (.queueWork 1 rfl)
  have h := h.tail (.handleVblank 4 rfl Nat.one_pos (by decide))
  have h := h.tail (.mark 1 4 rfl)
  have h := h.tail (.queueWork 1 rfl)
  have h := h.tail (.start 1 [] rfl rfl)
  have h := h.tail (.read 1 none rfl)
  have h := h.tail (.check 1 none false 3 4 rfl nofun)
  have h := h.tail (.composed 1 none 3 4 rfl)
  have h := h.tail (.addEntry 1 3 4 rfl (by decide))
  have h := h.tail (.addEntry 1 4 4 rfl (by decide))
  exact h.tail (.finish 1 5 4 rfl (by decide))

end ComposerQueue

theorem crcEntries_accounted_caughtUp :
    ComposerQueue.caughtUp.entries = [3, 4] ∧ ComposerQueue.caughtUp.marks = [(1, 3), (1, 4)] ∧
      ComposerQueue.caughtUp.entries.Pairwise (· < ·) :=
  ⟨rfl, rfl, (crcEntries_accounted ComposerQueue.caughtUp_run).1⟩

end VirtualDisplay
