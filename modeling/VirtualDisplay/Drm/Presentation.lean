import VirtualDisplay.Drm.Commit

/-!
# What a CRTC presents

When a commit is done, the driver publishes it on each CRTC that it touches: the presentation
sequence, the timestamp, the framebuffer and the trace move together, under one lock
(`vkms_signal_presented_crtcs`).  `GET_FRAME` exports the framebuffer with its sequence and
timestamp, and `GET_PRESENT_TRACE` drains the trace, a ring of the last presentations
(`vibeshine_drm_uapi.h`).

Calls into the kernel that may fail stand as what they return.

## What is here

* `VkmsOutput` — what a CRTC keeps under its lock: the sequence and the timestamp, the framebuffer
  with its planes, the ring of the trace, and the number of pending commits.
* `signalPresented` — one publication.  A commit with a new state of the primary plane brings the
  framebuffer of that state, if it is visible there, and nobody asks whether the CRTC is active
  then; this is where `Drm/Frames.lean` finds that a framebuffer can stay.
* `VkmsOutput.getFrame` — the reply is put together from the frame that has been pinned
  (`PinnedFrame`), not from the output, which may have gone on by then.
* `VkmsOutput.getPresentTrace` — the loop over the sequence numbers, with the fuel it runs on; the
  counter is a 64-bit one, as in the source, and can come round.

This module has definitions only.  What they come to is in `Drm/Frames.lean`, `Drm/Trace.lean`,
`Drm/Timing.lean` and `Drm/Quiesce.lean`.
-/

set_option autoImplicit false

namespace VirtualDisplay

/-- The errors of the two ioctls. -/
def EACCES : Int32 := 13
def EINVAL : Int32 := 22
def ENOENT : Int32 := 2

/-! ## The output -/

/-- How many presentations a CRTC remembers. -/
abbrev VIBESHINE_DRM_TRACE_HISTORY_SIZE : Nat := 4096

/-- A presentation: its number, from one on, and its time. -/
structure TraceEvent where
  sequence : UInt64 := 0
  timestampNs : UInt64 := 0
  deriving DecidableEq

/-- The part of `struct vkms_output` that presentation is about. -/
structure VkmsOutput where
  crtc : Pointer
  primary : Pointer
  presentSequence : UInt64 := 0
  pendingCommits : Int := 0
  presentTimestampNs : UInt64 := 0
  presentFb : Option Framebuffer := none
  presentTrace : Vector TraceEvent VIBESHINE_DRM_TRACE_HISTORY_SIZE := .replicate _ {}

/-- A commit that is done, with the timestamp that it takes. -/
structure Publication where
  commit : AtomicCommit
  timestampNs : UInt64

namespace VkmsOutput

/-- The framebuffer of a plane, if it is visible. -/
def visibleFramebuffer (state : Option DrmPlaneState) : Option Framebuffer :=
  match state with
  | some state => if state.visible then state.framebuffer else none
  | none => none

/-- The locked part of `vkms_signal_presented_crtcs` for a commit that changes the scanout. -/
def present (o : VkmsOutput) (p : Publication) : VkmsOutput :=
  let primaryState := p.commit.newPlaneState o.primary
  let crtcState := p.commit.newCrtcState o.crtc
  let completedSequence := o.presentSequence + 1
  { o with
    presentFb :=
      if primaryState.isSome || crtcState.any (!·.active) then visibleFramebuffer primaryState
      else o.presentFb
    presentTimestampNs := p.timestampNs
    presentSequence := completedSequence
    presentTrace := o.presentTrace.set!
      ((completedSequence - 1).toNat % VIBESHINE_DRM_TRACE_HISTORY_SIZE)
      { sequence := completedSequence, timestampNs := p.timestampNs } }

/-- A commit is no longer pending; there should be one. -/
def decPendingCommits (o : VkmsOutput) : VkmsOutput :=
  { o with pendingCommits := if o.pendingCommits ≤ 0 then 0 else o.pendingCommits - 1 }

/-- `vkms_signal_presented_crtcs` for one CRTC. -/
def signalPresented (o : VkmsOutput) (p : Publication) : VkmsOutput :=
  if !p.commit.touchesCrtc o.crtc then o
  else if p.commit.changesCrtc o.crtc then (o.present p).decPendingCommits
  else o.decPendingCommits

end VkmsOutput

/-! ## `GET_FRAME` -/

/-- The planes of a frame, its version, and its flags. -/
abbrev VIBESHINE_DRM_FRAME_MAX_PLANES : Nat := 4
def VIBESHINE_DRM_FRAME_ABI_VERSION : UInt32 := 1
def VIBESHINE_DRM_FRAME_READY : UInt32 := 1
def VIBESHINE_DRM_FRAME_EMPTY : UInt32 := 2
def DRM_FORMAT_MOD_INVALID : UInt64 := 0x00ffffffffffffff

/-- A frame as the ioctl takes and returns it: the caller fills in the version and the CRTC and
leaves everything else zero. -/
structure VibeshineDrmFrame where
  abiVersion : UInt32
  crtcId : UInt32
  sequence : UInt64 := 0
  timestampNs : UInt64 := 0
  flags : UInt32 := 0
  width : UInt32 := 0
  height : UInt32 := 0
  fourcc : UInt32 := 0
  modifier : UInt64 := 0
  planeCount : UInt32 := 0
  dmaBufFds : Vector Int32 VIBESHINE_DRM_FRAME_MAX_PLANES := .replicate _ 0
  pitches : Vector UInt32 VIBESHINE_DRM_FRAME_MAX_PLANES := .replicate _ 0
  offsets : Vector UInt32 VIBESHINE_DRM_FRAME_MAX_PLANES := .replicate _ 0
  syncFileFds : Vector Int32 VIBESHINE_DRM_FRAME_MAX_PLANES := .replicate _ 0
  reservedU32 : UInt32 := 0
  reserved : Vector UInt64 4 := .replicate _ 0
  deriving DecidableEq

/-- How the calls of `GET_FRAME` go: the caller's privilege, the CRTC that is found, and what the
export of an object yields. -/
structure FrameCalls where
  capable : Bool := true
  crtcFound : Bool := true
  /-- `vkms_get_frame_dmabuf` -/
  dmaBuf : Option GemObject → Except Int32 Pointer
  /-- `dma_buf_fd` -/
  fd : Pointer → Int32
  /-- `vkms_export_read_fence` -/
  readFence : Pointer → Int32

/-- A request with the right version and zeros everywhere else, as the source compares it. -/
def frameRequestValid (request : VibeshineDrmFrame) : Bool :=
  request ==
    { abiVersion := VIBESHINE_DRM_FRAME_ABI_VERSION
      crtcId := request.crtcId }

namespace Framebuffer

/-- An imported buffer whose layout is not known without its exporter. -/
def hasImplicitImport (fb : Framebuffer) : Bool :=
  !fb.hasModifiers && fb.planes.any fun plane ↦ plane.object.any (·.imported)

/-- The zero modifier of a plain framebuffer does not describe imported storage. -/
def formatModifier (fb : Framebuffer) : UInt64 :=
  if fb.hasImplicitImport then DRM_FORMAT_MOD_INVALID else fb.modifier

end Framebuffer

/-- Writes the descriptor, the pitch, the offset and the fence of a plane. -/
def VibeshineDrmFrame.setPlane (request : VibeshineDrmFrame) (i : Nat) :
    Int32 × UInt32 × UInt32 × Int32 → VibeshineDrmFrame
  | (dmaBufFd, pitch, offset, syncFileFd) =>
    { request with
      dmaBufFds := request.dmaBufFds.set! i dmaBufFd
      pitches := request.pitches.set! i pitch
      offsets := request.offsets.set! i offset
      syncFileFds := request.syncFileFds.set! i syncFileFd }

/-- The planes from the `i`-th on. -/
def exportPlanes (calls : FrameCalls) (request : VibeshineDrmFrame) (i : Nat) :
    List FramebufferPlane → Except Int32 VibeshineDrmFrame
  | [] => .ok request
  | plane :: planes =>
    match calls.dmaBuf plane.object with
    | .error ret => .error ret
    | .ok dmaBuf =>
      if calls.fd dmaBuf < 0 then .error (calls.fd dmaBuf)
      else if calls.readFence dmaBuf < -1 then .error (calls.readFence dmaBuf)
      else
        exportPlanes calls
          (request.setPlane i (calls.fd dmaBuf, plane.pitch, plane.offset, calls.readFence dmaBuf))
          (i + 1) planes

/-- What is read under the lock.  The framebuffer is pinned. -/
structure PinnedFrame where
  sequence : UInt64
  timestampNs : UInt64
  framebuffer : Option Framebuffer
  deriving DecidableEq

/-- The newest frame with its number and time, taken together under the lock. -/
def VkmsOutput.pinFrame (o : VkmsOutput) : PinnedFrame :=
  { sequence := o.presentSequence
    timestampNs := o.presentTimestampNs
    framebuffer := o.presentFb }

/-- The part of `vkms_get_frame_ioctl` behind the lock. -/
def exportFrame (calls : FrameCalls) (crtcId : UInt32) (frame : PinnedFrame) :
    Except Int32 VibeshineDrmFrame :=
  let request : VibeshineDrmFrame :=
    { abiVersion := VIBESHINE_DRM_FRAME_ABI_VERSION
      crtcId
      sequence := frame.sequence
      timestampNs := frame.timestampNs
      dmaBufFds := .replicate _ (-1)
      syncFileFds := .replicate _ (-1) }
  match frame.framebuffer with
  | none => .ok { request with flags := VIBESHINE_DRM_FRAME_EMPTY }
  | some fb =>
    if fb.planes.length = 0 ∨ VIBESHINE_DRM_FRAME_MAX_PLANES < fb.planes.length then
      .error (-EINVAL)
    else
      exportPlanes calls
        { request with
          flags := VIBESHINE_DRM_FRAME_READY
          width := fb.width
          height := fb.height
          fourcc := fb.fourcc
          modifier := fb.formatModifier
          planeCount := UInt32.ofNat fb.planes.length }
        0 fb.planes

/-- The ioctl up to the export: a valid request of a capable caller for a CRTC that there is. -/
def VkmsOutput.getFrame (o : VkmsOutput) (calls : FrameCalls) (request : VibeshineDrmFrame) :
    Except Int32 VibeshineDrmFrame :=
  if !frameRequestValid request then .error (-EINVAL)
  else if !calls.capable then .error (-EACCES)
  else if !calls.crtcFound then .error (-ENOENT)
  else exportFrame calls request.crtcId o.pinFrame

/-! ## `GET_PRESENT_TRACE` -/

/-- The presentations that one call returns at most. -/
abbrev VIBESHINE_DRM_TRACE_MAX_EVENTS : Nat := 64

/-- What a call gives back: the newest sequence, the events, and whether `OVERFLOW` is set. -/
structure PresentTrace where
  newestSequence : UInt64
  events : List TraceEvent
  overflow : Bool
  deriving DecidableEq

/-- The entry at the place of a sequence, which may hold a newer one. -/
def VkmsOutput.traceEvent (o : VkmsOutput) (sequence : UInt64) : TraceEvent :=
  o.presentTrace.getD ((sequence - 1).toNat % VIBESHINE_DRM_TRACE_HISTORY_SIZE) {}

/-- The loop over the sequences, with the events that it has found; it has not come to its end if it
gets no more `fuel`. -/
def VkmsOutput.traceLoop (o : VkmsOutput) :
    Nat → UInt64 → List TraceEvent → Bool → Option (List TraceEvent × Bool)
  | 0, _, _, _ => none
  | fuel + 1, sequence, events, overflow =>
    if sequence ≤ o.presentSequence ∧ events.length < VIBESHINE_DRM_TRACE_MAX_EVENTS then
      if (o.traceEvent sequence).sequence ≠ sequence then
        o.traceLoop fuel (sequence + 1) events true
      else o.traceLoop fuel (sequence + 1) (events ++ [o.traceEvent sequence]) overflow
    else some (events, overflow)

/-- Where the trace starts for a caller that has had `afterSequence`. -/
def VkmsOutput.traceStart (o : VkmsOutput) (afterSequence : UInt64) : UInt64 × Bool :=
  let firstSequence := afterSequence + 1
  if VIBESHINE_DRM_TRACE_HISTORY_SIZE ≤ o.presentSequence.toNat then
    let oldestSequence :=
      o.presentSequence - UInt64.ofNat VIBESHINE_DRM_TRACE_HISTORY_SIZE + 1
    if firstSequence < oldestSequence then (oldestSequence, true) else (firstSequence, false)
  else (firstSequence, false)

/-- A call with a request that is otherwise valid, of a privileged caller. -/
def VkmsOutput.getPresentTrace (o : VkmsOutput) (fuel : Nat) (afterSequence : UInt64) :
    Option (Except Int32 PresentTrace) :=
  if afterSequence = 0xffffffffffffffff then some (.error (-EINVAL))
  else
    let (firstSequence, overflow) := o.traceStart afterSequence
    match o.traceLoop fuel firstSequence [] overflow with
    | some (events, overflow) =>
      some (.ok { newestSequence := o.presentSequence, events, overflow })
    | none => none

end VirtualDisplay
