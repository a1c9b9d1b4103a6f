import Mathlib.Data.List.Basic

/-!
# Atomic commits of the DRM driver

An atomic commit holds the states of the CRTCs, planes and connectors that it is about, each with
the state that it replaces.  The driver asks two things of it for each CRTC: whether the commit is
about the CRTC at all (`AtomicCommit.touchesCrtc`), and whether it changes what is scanned out
(`AtomicCommit.changesCrtc`).  The second compares snapshots of the states, which hold the fields
that matter (`vibeshine_drm_change.h`); pointers in them stand for the identity of an object only,
and the null pointer is zero.

Of the states themselves only what a snapshot takes, or the presentation needs, is modelled.

## What is here

* `snapshotPlaneState`, `snapshotCrtcState`, `snapshotConnectorState` — the snapshots, and for each
  kind a comparison (`PlaneSnapshot.changesScanout` and so on).  The comparison of planes also looks
  at a mark that the driver sets on a state whose framebuffer may be the same while its content is
  not.
* `Transition` — an object with its old and its new state.  It is on a CRTC if one of the two is.
* `newPlaneState`, `newCrtcState` — how the driver finds the state of an object in a commit.
* `touchesCrtc_of_changesCrtc` — what changes a CRTC is about it.

A commit lists each object once, as DRM does.
-/

set_option autoImplicit false

namespace VirtualDisplay

/-- The address of a kernel object. -/
abbrev Pointer := UInt64

/-! ## Framebuffers -/

/-- A buffer behind a framebuffer. -/
structure GemObject where
  address : Pointer
  /-- `import_attach` is set. -/
  imported : Bool
  deriving DecidableEq

/-- One plane of a framebuffer: where it begins in its object, and how long its lines are. -/
structure FramebufferPlane where
  object : Option GemObject
  pitch : UInt32
  offset : UInt32
  deriving DecidableEq

/-- What DRM has of a framebuffer, as far as it is exported. -/
structure Framebuffer where
  address : Pointer
  width : UInt32
  height : UInt32
  fourcc : UInt32
  modifier : UInt64
  /-- `DRM_MODE_FB_MODIFIERS` -/
  hasModifiers : Bool
  planes : List FramebufferPlane
  deriving DecidableEq

/-! ## Snapshots -/

/-- The fields of a plane state that are compared, to see whether something else is scanned out. -/
structure PlaneSnapshot where
  present : Bool := false
  visible : Bool := false
  contentUpdate : Bool := false
  crtc : Pointer := 0
  framebuffer : Pointer := 0
  colorPipeline : Pointer := 0
  crtcX : Int32 := 0
  crtcY : Int32 := 0
  hotspotX : Int32 := 0
  hotspotY : Int32 := 0
  crtcW : UInt32 := 0
  crtcH : UInt32 := 0
  srcX : UInt32 := 0
  srcY : UInt32 := 0
  srcW : UInt32 := 0
  srcH : UInt32 := 0
  alpha : UInt32 := 0
  pixelBlendMode : UInt32 := 0
  rotation : UInt32 := 0
  zpos : UInt32 := 0
  normalizedZpos : UInt32 := 0
  colorEncoding : UInt32 := 0
  colorRange : UInt32 := 0
  scalingFilter : UInt32 := 0
  deriving DecidableEq

/-- The same of a CRTC state. -/
structure CrtcSnapshot where
  present : Bool := false
  enable : Bool := false
  active : Bool := false
  colorMgmtChanged : Bool := false
  planeMask : UInt32 := 0
  connectorMask : UInt32 := 0
  encoderMask : UInt32 := 0
  modeBlob : Pointer := 0
  degammaLut : Pointer := 0
  ctm : Pointer := 0
  gammaLut : Pointer := 0
  backgroundColor : UInt64 := 0
  scalingFilter : UInt32 := 0
  sharpnessStrength : UInt32 := 0
  vrrEnabled : Bool := false
  deriving DecidableEq

/-- The same of a connector state. -/
structure ConnectorSnapshot where
  present : Bool := false
  selfRefreshAware : Bool := false
  crtc : Pointer := 0
  bestEncoder : Pointer := 0
  hdrOutputMetadata : Pointer := 0
  linkStatus : UInt32 := 0
  pictureAspectRatio : UInt32 := 0
  contentType : UInt32 := 0
  hdcpContentType : UInt32 := 0
  scalingMode : UInt32 := 0
  contentProtection : UInt32 := 0
  colorspace : UInt32 := 0
  maxRequestedBpc : UInt32 := 0
  maxBpc : UInt32 := 0
  privacyScreenSwState : UInt32 := 0
  deriving DecidableEq

/-- Any field but `content_update` differs, or the new state is an update of the content. -/
def PlaneSnapshot.changesScanout (oldState newState : PlaneSnapshot) : Bool :=
  { oldState with contentUpdate := false } != { newState with contentUpdate := false } ||
    newState.contentUpdate

/-- Any field but `color_mgmt_changed` differs, or that one is set in the new state. -/
def CrtcSnapshot.changesScanout (oldState newState : CrtcSnapshot) : Bool :=
  { oldState with colorMgmtChanged := false } != { newState with colorMgmtChanged := false } ||
    newState.colorMgmtChanged

/-- Any field differs. -/
def ConnectorSnapshot.changesScanout (oldState newState : ConnectorSnapshot) : Bool :=
  oldState != newState

/-! ## States -/

/-- The fields of a snapshot are taken over as they are, but for the framebuffer, and for
`present` and `contentUpdate`, which are computed.  One that the kernel does not have is zero. -/
structure DrmPlaneState where
  fields : PlaneSnapshot := {}
  framebuffer : Option Framebuffer := none
  presentationContentUpdate : Bool := false
  fbDamageClips : Bool := false
  colorMgmtChanged : Bool := false
  deriving DecidableEq

/-- A CRTC state is as much as its snapshot reads. -/
structure DrmCrtcState where
  fields : CrtcSnapshot := {}
  deriving DecidableEq

/-- A connector state is as much as its snapshot reads. -/
structure DrmConnectorState where
  fields : ConnectorSnapshot := {}
  deriving DecidableEq

/-- The fields under their names in the state; so for the others below. -/
abbrev DrmPlaneState.visible (state : DrmPlaneState) : Bool := state.fields.visible
abbrev DrmPlaneState.crtc (state : DrmPlaneState) : Pointer := state.fields.crtc
abbrev DrmCrtcState.active (state : DrmCrtcState) : Bool := state.fields.active
abbrev DrmConnectorState.crtc (state : DrmConnectorState) : Pointer := state.fields.crtc

/-- The snapshot of a state that may be missing, as the one before the first commit is. -/
def snapshotPlaneState : Option DrmPlaneState → PlaneSnapshot
  | none => {}
  | some state =>
    { state.fields with
      present := true
      framebuffer := state.framebuffer.elim 0 (·.address)
      contentUpdate :=
        state.presentationContentUpdate || state.fbDamageClips || state.colorMgmtChanged }

/-- The same for a CRTC. -/
def snapshotCrtcState : Option DrmCrtcState → CrtcSnapshot
  | none => {}
  | some state => { state.fields with present := true }

/-- The same for a connector. -/
def snapshotConnectorState : Option DrmConnectorState → ConnectorSnapshot
  | none => {}
  | some state => { state.fields with present := true }

/-! ## Commits -/

/-- An object of a commit, with its state before and after it. -/
structure Transition (State : Type) where
  object : Pointer
  oldState : Option State
  newState : Option State
  deriving DecidableEq

/-- The states of a commit, each old one with its new one. -/
structure AtomicCommit where
  crtcs : List (Transition DrmCrtcState) := []
  planes : List (Transition DrmPlaneState) := []
  connectors : List (Transition DrmConnectorState) := []
  deriving DecidableEq

/-- The old or the new state is on the CRTC. -/
def Transition.isOn {State : Type} (crtcOf : State → Pointer) (target : Pointer)
    (t : Transition State) : Bool :=
  t.oldState.any (crtcOf · == target) || t.newState.any (crtcOf · == target)

namespace AtomicCommit

/-- Something of the CRTC is in the commit: itself, or a plane or a connector that is on it, before
or after. -/
def touchesCrtc (commit : AtomicCommit) (target : Pointer) : Bool :=
  commit.crtcs.any (·.object == target) ||
    commit.planes.any (·.isOn DrmPlaneState.crtc target) ||
    commit.connectors.any (·.isOn DrmConnectorState.crtc target)

/-- What the CRTC shows changes. -/
def changesCrtc (commit : AtomicCommit) (target : Pointer) : Bool :=
  (commit.crtcs.any fun t ↦ t.object == target &&
      (snapshotCrtcState t.oldState).changesScanout (snapshotCrtcState t.newState)) ||
    (commit.planes.any fun t ↦ t.isOn DrmPlaneState.crtc target &&
      (snapshotPlaneState t.oldState).changesScanout (snapshotPlaneState t.newState)) ||
    commit.connectors.any fun t ↦ t.isOn DrmConnectorState.crtc target &&
      (snapshotConnectorState t.oldState).changesScanout (snapshotConnectorState t.newState)

/-- A commit that changes what a CRTC scans out is about it. -/
theorem touchesCrtc_of_changesCrtc {commit : AtomicCommit} {target : Pointer}
    (h : commit.changesCrtc target) : commit.touchesCrtc target := by
  rw [changesCrtc, Bool.or_eq_true, Bool.or_eq_true] at h
  rw [touchesCrtc, Bool.or_eq_true, Bool.or_eq_true]
  have hany {α : Type} {l : List α} {p q : α → Bool} (h : l.any fun t ↦ p t && q t) : l.any p := by
    obtain ⟨t, ht, hpq⟩ := List.any_eq_true.mp h
    exact List.any_eq_true.mpr ⟨t, ht, (Bool.and_eq_true_iff.mp hpq).1⟩
  exact h.imp (Or.imp hany hany) hany

/-- `drm_atomic_get_new_plane_state` -/
def newPlaneState (commit : AtomicCommit) (plane : Pointer) : Option DrmPlaneState :=
  (commit.planes.find? (·.object == plane)).bind (·.newState)

/-- `drm_atomic_get_new_crtc_state` -/
def newCrtcState (commit : AtomicCommit) (crtc : Pointer) : Option DrmCrtcState :=
  (commit.crtcs.find? (·.object == crtc)).bind (·.newState)

end AtomicCommit

end VirtualDisplay
