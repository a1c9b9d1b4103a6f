import Mathlib.Logic.Function.Basic
import VirtualDisplay.Drm.Presentation

/-!
# The device and its shutdown

A commit is counted as pending on each CRTC that it touches before it is handed to DRM
(`vkms_atomic_commit`), and no longer when DRM has refused it, or when its tail has published it,
which may be later and in another task.  The device is shut down on three ways, by a request to
quiesce, by a reboot and when it is destroyed: the task that comes first (`vkms_quiesce`) stops all
commits but its own, lets DRM switch everything off and gives up the frames that are presented;
`vkms_shutdown_release` unplugs the device besides.

The tasks take turns at every access to what they share.  A call into DRM is a step of its own, with
what is assumed of it as a condition: `drm_atomic_helper_commit` fails, or has the tail run once,
and `drm_atomic_helper_shutdown` returns when every commit has run its tail.
-/

set_option autoImplicit false

namespace VirtualDisplay

/-- The address of a `task_struct`. -/
abbrev Task := Pointer

/-! ## Commits -/

namespace AtomicCommit

/-- `vkms_mark_presentation_content_updates`, for the planes that have a fence. -/
def markPresentationContentUpdates (commit : AtomicCommit) (hasFence : Pointer → Bool) :
    AtomicCommit :=
  { commit with
    planes := commit.planes.map fun t ↦
      { t with
        newState := t.newState.map fun state ↦
          { state with presentationContentUpdate := hasFence t.object } } }

/-- What `vkms_prepare_fb` adds for the planes that have got a fence. -/
def addPresentationContentUpdates (commit : AtomicCommit) (hasFence : Pointer → Bool) :
    AtomicCommit :=
  { commit with
    planes := commit.planes.map fun t ↦
      { t with
        newState := t.newState.map fun state ↦
          { state with
            presentationContentUpdate := state.presentationContentUpdate || hasFence t.object } } }

end AtomicCommit

namespace VkmsOutput

/-- `vkms_update_pending_crtcs` for one CRTC. -/
def updatePending (o : VkmsOutput) (commit : AtomicCommit) (add : Bool) : VkmsOutput :=
  if !commit.touchesCrtc o.crtc then o
  else if add then { o with pendingCommits := o.pendingCommits + 1 }
  else o.decPendingCommits

/-- `vkms_crtc_release_presented_frame` -/
def releasePresentedFrame (o : VkmsOutput) : VkmsOutput := { o with presentFb := none }

end VkmsOutput

/-- How far a commit has come.  The loops over the CRTCs have done the first `i` of them. -/
inductive CommitPhase where
  /-- The commit is being counted. -/
  | adding (i : Nat)
  /-- The commit is with `drm_atomic_helper_commit`. -/
  | helper
  /-- The tail runs, or is to run: the commit is being published. -/
  | tail (i : Nat)
  /-- DRM has refused the commit. -/
  | removing (i : Nat)
  | finished
  deriving DecidableEq

/-- A commit that has been accepted. -/
structure InFlight where
  task : Task
  commit : AtomicCommit
  phase : CommitPhase := .adding 0
  /-- Its task is in `vkms_atomic_commit`. -/
  inCall : Bool := true

/-! ## Tasks -/

/-- Where a task is.  The calls of `vkms_quiesce` are those of `vkms_shutdown_release`, or not. -/
inductive Pc where
  | idle
  /-- It waits for `shutdown_lock`. -/
  | quiesce (release : Bool)
  /-- It holds `shutdown_lock` and waits for `commit_lock`. -/
  | checkAccepting (release : Bool)
  | helperShutdown (release : Bool)
  /-- It has released the first `i` frames. -/
  | releaseFrames (release : Bool) (i : Nat)
  | unlockShutdown (release : Bool)
  /-- In `vkms_shutdown_release`, it waits for `shutdown_lock`. -/
  | release
  | releaseAgain (i : Nat)
  | unplug
  deriving DecidableEq

namespace Pc

/-- Where a task goes on behind `vkms_quiesce`. -/
def afterQuiesce (release : Bool) : Pc := if release then .release else .idle

/-- The task may be in a call that commits something: its own, or DRM's. -/
def mayCommit : Pc → Bool
  | idle | helperShutdown _ | unplug => true
  | _ => false

end Pc

/-- The part of `struct vkms_device` that commits and the shutdown are about, with the tasks. -/
structure VkmsDevice where
  outputs : List VkmsOutput
  commitLock : Option Task := none
  shutdownLock : Option Task := none
  acceptingCommits : Bool := true
  unplugged : Bool := false
  shutdownOwner : Option Task := none
  commits : List InFlight := []
  pcs : Task → Pc := fun _ ↦ .idle
  /-- Some call of `vkms_quiesce` has returned. -/
  quiesced : Bool := false
  /-- How often `drm_dev_unplug` has been called. -/
  unplugs : Nat := 0

namespace VkmsDevice

/-- A task goes on. -/
def setPc (d : VkmsDevice) (t : Task) (pc : Pc) : VkmsDevice :=
  { d with pcs := Function.update d.pcs t pc }

/-- One output changes. -/
def modifyOutput (d : VkmsDevice) (i : Nat) (f : VkmsOutput → VkmsOutput) : VkmsDevice :=
  { d with outputs := d.outputs.modify i f }

/-- A step of a commit, by its task or by the worker that runs its tail. -/
inductive CommitStep (d : VkmsDevice) : VkmsDevice → Prop
  /-- `vkms_atomic_commit` returns `-ENODEV`. -/
  | reject (t : Task) (pc : (d.pcs t).mayCommit) (lock : d.commitLock = none)
      (closed : d.acceptingCommits = false ∧ d.shutdownOwner ≠ some t) : CommitStep d d
  | accept (t : Task) (commit : AtomicCommit) (pc : (d.pcs t).mayCommit)
      (lock : d.commitLock = none)
      (accepted : d.acceptingCommits = true ∨ d.shutdownOwner = some t) :
      CommitStep d { d with
        commitLock := some t
        commits := d.commits ++ [{ task := t, commit }] }
  | addPending {before after : List InFlight} {r : InFlight} {i : Nat}
      (commits : d.commits = before ++ r :: after) (phase : r.phase = .adding i)
      (more : i < d.outputs.length) :
      CommitStep d { d.modifyOutput i (·.updatePending r.commit true) with
        commits := before ++ { r with phase := .adding (i + 1) } :: after }
  | enterHelper {before after : List InFlight} {r : InFlight} (hasFence : Pointer → Bool)
      (commits : d.commits = before ++ r :: after) (phase : r.phase = .adding d.outputs.length) :
      CommitStep d { d with
        commits := before ++
          { r with
            commit := r.commit.markPresentationContentUpdates hasFence
            phase := .helper } :: after }
  | helperFails {before after : List InFlight} {r : InFlight}
      (commits : d.commits = before ++ r :: after) (phase : r.phase = .helper) :
      CommitStep d { d with commits := before ++ { r with phase := .removing 0 } :: after }
  | helperCommits {before after : List InFlight} {r : InFlight} (hasFence : Pointer → Bool)
      (commits : d.commits = before ++ r :: after) (phase : r.phase = .helper) :
      CommitStep d { d with
        commits := before ++
          { r with
            commit := r.commit.addPresentationContentUpdates hasFence
            phase := .tail 0 } :: after }
  | publish {before after : List InFlight} {r : InFlight} {i : Nat} (timestampNs : UInt64)
      (commits : d.commits = before ++ r :: after) (phase : r.phase = .tail i)
      (more : i < d.outputs.length) :
      CommitStep d { d.modifyOutput i (·.signalPresented { commit := r.commit, timestampNs }) with
        commits := before ++ { r with phase := .tail (i + 1) } :: after }
  | finishTail {before after : List InFlight} {r : InFlight}
      (commits : d.commits = before ++ r :: after) (phase : r.phase = .tail d.outputs.length) :
      CommitStep d { d with commits := before ++ { r with phase := .finished } :: after }
  | removePending {before after : List InFlight} {r : InFlight} {i : Nat}
      (commits : d.commits = before ++ r :: after) (phase : r.phase = .removing i)
      (more : i < d.outputs.length) :
      CommitStep d { d.modifyOutput i (·.updatePending r.commit false) with
        commits := before ++ { r with phase := .removing (i + 1) } :: after }
  | returnError {before after : List InFlight} {r : InFlight}
      (commits : d.commits = before ++ r :: after) (phase : r.phase = .removing d.outputs.length) :
      CommitStep d { d with
        commitLock := none
        commits := before ++ { r with phase := .finished, inCall := false } :: after }
  /-- `drm_atomic_helper_commit` returns, before the tail of a nonblocking commit or behind it. -/
  | returnOk {before after : List InFlight} {r : InFlight}
      (commits : d.commits = before ++ r :: after) (inCall : r.inCall = true)
      (phase : r.phase = .finished ∨ ∃ i, r.phase = .tail i) :
      CommitStep d { d with
        commitLock := none
        commits := before ++ { r with inCall := false } :: after }

/-- A step of a task that shuts the device down. -/
inductive TaskStep (d : VkmsDevice) : VkmsDevice → Prop
  /-- A request to quiesce, or `vkms_shutdown_release` for a reboot or before the device is
  destroyed. -/
  | beginQuiesce (t : Task) (release : Bool) (pc : d.pcs t = .idle) :
      TaskStep d (d.setPc t (.quiesce release))
  | lockShutdown {t : Task} {release : Bool} (pc : d.pcs t = .quiesce release)
      (lock : d.shutdownLock = none) :
      TaskStep d { d.setPc t (.checkAccepting release) with shutdownLock := some t }
  | alreadyQuiesced {t : Task} {release : Bool} (pc : d.pcs t = .checkAccepting release)
      (lock : d.commitLock = none) (closed : d.acceptingCommits = false) :
      TaskStep d { d.setPc t (.afterQuiesce release) with shutdownLock := none, quiesced := true }
  | stopAccepting {t : Task} {release : Bool} (pc : d.pcs t = .checkAccepting release)
      (lock : d.commitLock = none) (accepting : d.acceptingCommits = true) :
      TaskStep d { d.setPc t (.helperShutdown release) with
        acceptingCommits := false
        shutdownOwner := some t }
  /-- Every commit has run its tail, and those of the task have returned. -/
  | helperShutdownReturns {t : Task} {release : Bool} (pc : d.pcs t = .helperShutdown release)
      (drained : ∀ r ∈ d.commits, ∀ i, r.phase ≠ .tail i) (returned : d.commitLock ≠ some t) :
      TaskStep d (d.setPc t (.releaseFrames release 0))
  | releaseFrame {t : Task} {release : Bool} {i : Nat} (pc : d.pcs t = .releaseFrames release i)
      (more : i < d.outputs.length) :
      TaskStep d ((d.modifyOutput i VkmsOutput.releasePresentedFrame).setPc t
        (.releaseFrames release (i + 1)))
  | clearOwner {t : Task} {release : Bool} (pc : d.pcs t = .releaseFrames release d.outputs.length)
      (lock : d.commitLock = none) :
      TaskStep d { d.setPc t (.unlockShutdown release) with shutdownOwner := none }
  | endQuiesce {t : Task} {release : Bool} (pc : d.pcs t = .unlockShutdown release) :
      TaskStep d { d.setPc t (.afterQuiesce release) with shutdownLock := none, quiesced := true }
  | alreadyUnplugged {t : Task} (pc : d.pcs t = .release) (lock : d.shutdownLock = none)
      (unplugged : d.unplugged = true) : TaskStep d (d.setPc t .idle)
  | markUnplugged {t : Task} (pc : d.pcs t = .release) (lock : d.shutdownLock = none)
      (plugged : d.unplugged = false) :
      TaskStep d { d.setPc t (.releaseAgain 0) with shutdownLock := some t, unplugged := true }
  | releaseFrameAgain {t : Task} {i : Nat} (pc : d.pcs t = .releaseAgain i)
      (more : i < d.outputs.length) :
      TaskStep d
        ((d.modifyOutput i VkmsOutput.releasePresentedFrame).setPc t (.releaseAgain (i + 1)))
  | unplug {t : Task} (pc : d.pcs t = .releaseAgain d.outputs.length) :
      TaskStep d { d.setPc t .unplug with unplugs := d.unplugs + 1 }
  | endRelease {t : Task} (pc : d.pcs t = .unplug) :
      TaskStep d { d.setPc t .idle with shutdownLock := none }

/-- The device that `vkms_create` sets up, with nothing pending and nothing presented. -/
def Initial (d : VkmsDevice) : Prop :=
  ∃ outputs : List VkmsOutput, d = { outputs } ∧
    ∀ o ∈ outputs, o.pendingCommits = 0 ∧ o.presentFb = none

/-- A step of a commit or of a task that shuts the device down. -/
def Step (d d' : VkmsDevice) : Prop := CommitStep d d' ∨ TaskStep d d'

/-- The devices that come about in some order of steps. -/
inductive Reachable : VkmsDevice → Prop
  | initial {d : VkmsDevice} (h : d.Initial) : Reachable d
  | step {d d' : VkmsDevice} (h : Reachable d) (hstep : Step d d') : Reachable d'

end VkmsDevice

end VirtualDisplay
