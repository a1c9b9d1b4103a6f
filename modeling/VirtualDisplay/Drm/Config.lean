import VirtualDisplay.Drm.RequestedMode
import Mathlib

/-!
# Devices that are put together in configfs

The administrator puts a device of the DRM driver together in configfs: planes, CRTCs, encoders and
connectors, and links between them.  When it is enabled, the configuration is checked
(`vkms_config_is_valid`) and the DRM objects are made from it (`vkms_output_init`); from then on
nothing may be added, but items and links may still go away, and the status and the requested mode
of a connector are passed on to its DRM connector (`vkms_config.c`, `vkms_configfs.c`,
`vkms_output.c`).

An item is known by its address, which is reused when the item is gone.

* `VkmsConfig.isValid_iff` — what the check says of a configuration without dangling links.
* `VkmsOutputs.Complete`, `outputInit_complete` — what a device is like that is made from one.
* `configfs_run` — what holds after any sequence of calls.

## What is here

* `VkmsConfig` with its items, the checks one by one in the order of the source, and the functions
  that make and destroy items.
* `notePlane_eq`, `foldlM_notePlane` — the double loop that looks for the planes of a CRTC.
* `VkmsConfigfsDevice`, `ConfigfsCall` — a device and what may be done to it; a call is refused with
  the error that the source has there.
* `VkmsConfig.RemainsOf`, `VkmsConfig.Made` — what is left of a configuration that objects have been
  made from, and how the two belong together still.
* `VkmsConfigfsDevice.Sound`, `Sound.call` — the invariant, which each call keeps.
-/

set_option autoImplicit false

namespace VirtualDisplay

/-! ## The configuration -/

/-- `enum drm_plane_type` -/
inductive DrmPlaneType where
  | overlay
  | primary
  | cursor
  deriving DecidableEq

/-- `enum drm_connector_status` -/
inductive DrmConnectorStatus where
  | connected
  | disconnected
  | unknown
  deriving DecidableEq

/-- A plane that is configured: what it is for and which CRTCs it may be on. -/
structure VkmsConfigPlane (ι : Type) where
  type : DrmPlaneType := .overlay
  possibleCrtcs : List ι := []

/-- A CRTC that is configured. -/
structure VkmsConfigCrtc where
  writeback : Bool := false

/-- An encoder that is configured. -/
structure VkmsConfigEncoder (ι : Type) where
  possibleCrtcs : List ι := []

/-- A DRM connector is known by its device and its place in it. -/
structure VkmsConfigConnector (ι : Type) where
  status : DrmConnectorStatus := .disconnected
  possibleEncoders : List ι := []
  requestedMode : RequestedMode := ⟨0, 0, 0⟩
  connector : Option (Nat × Nat) := none

/-- The lists, and what is at the addresses. -/
structure VkmsConfig (ι : Type) where
  planes : List ι := []
  crtcs : List ι := []
  encoders : List ι := []
  connectors : List ι := []
  plane : ι → VkmsConfigPlane ι := fun _ ↦ {}
  crtc : ι → VkmsConfigCrtc := fun _ ↦ {}
  encoder : ι → VkmsConfigEncoder ι := fun _ ↦ {}
  connector : ι → VkmsConfigConnector ι := fun _ ↦ {}

variable {ι : Type} [DecidableEq ι]

/-- The CRTC is no longer possible for the plane. -/
def VkmsConfigPlane.detachCrtc (plane : VkmsConfigPlane ι) (crtc : ι) : VkmsConfigPlane ι :=
  { plane with possibleCrtcs := plane.possibleCrtcs.filter (· ≠ crtc) }

/-- The CRTC is no longer possible for the encoder. -/
def VkmsConfigEncoder.detachCrtc (encoder : VkmsConfigEncoder ι) (crtc : ι) :
    VkmsConfigEncoder ι :=
  { encoder with possibleCrtcs := encoder.possibleCrtcs.filter (· ≠ crtc) }

/-- The encoder is no longer possible for the connector. -/
def VkmsConfigConnector.detachEncoder (connector : VkmsConfigConnector ι) (encoder : ι) :
    VkmsConfigConnector ι :=
  { connector with possibleEncoders := connector.possibleEncoders.filter (· ≠ encoder) }

namespace VkmsConfig

variable (config : VkmsConfig ι)

/-! ### The check -/

/-- At least one plane, and as many as a mask of 32 bits can name; the same for the others below. -/
def validPlaneNumber : Bool := 0 < config.planes.length && config.planes.length < 32

def validCrtcNumber : Bool := 0 < config.crtcs.length && config.crtcs.length < 32

def validEncoderNumber : Bool := 0 < config.encoders.length && config.encoders.length < 32

def validConnectorNumber : Bool := 0 < config.connectors.length && config.connectors.length < 32

/-- Each plane may be on some CRTC. -/
def validPlanePossibleCrtcs : Bool :=
  config.planes.all fun plane ↦ !(config.plane plane).possibleCrtcs.isEmpty

/-- The planes of a CRTC that the loop has found. -/
structure PlanesFound where
  hasPrimaryPlane : Bool := false
  hasCursorPlane : Bool := false

/-- The body of the loop.  There is no value where it finds a second plane of the type. -/
def PlanesFound.note (found : PlanesFound) : DrmPlaneType → Option PlanesFound
  | .primary => if found.hasPrimaryPlane then none else some { found with hasPrimaryPlane := true }
  | .cursor => if found.hasCursorPlane then none else some { found with hasCursorPlane := true }
  | .overlay => some found

/-- The inner loop. -/
def notePlane (crtc : ι) (found : PlanesFound) (plane : ι) : Option PlanesFound :=
  (config.plane plane).possibleCrtcs.foldlM (fun found possibleCrtc ↦
    if possibleCrtc = crtc then found.note (config.plane plane).type else some found) found

/-- A primary plane, and at most one of it and of a cursor. -/
def validPlanesForCrtc (crtc : ι) : Bool :=
  match config.planes.foldlM (config.notePlane crtc) {} with
  | some found => found.hasPrimaryPlane
  | none => false

/-- Each encoder has a CRTC, and each CRTC an encoder. -/
def validEncoderPossibleCrtcs : Bool :=
  (config.encoders.all fun encoder ↦ !(config.encoder encoder).possibleCrtcs.isEmpty) &&
    config.crtcs.all fun crtc ↦
      config.encoders.any fun encoder ↦ (config.encoder encoder).possibleCrtcs.any (· = crtc)

/-- Each connector has an encoder. -/
def validConnectorPossibleEncoders : Bool :=
  config.connectors.all fun connector ↦ !(config.connector connector).possibleEncoders.isEmpty

/-- `vkms_config_is_valid` -/
def isValid : Bool :=
  config.validPlaneNumber && config.validCrtcNumber && config.validEncoderNumber &&
    config.validConnectorNumber && config.validPlanePossibleCrtcs &&
    config.crtcs.all config.validPlanesForCrtc && config.validEncoderPossibleCrtcs &&
    config.validConnectorPossibleEncoders

/-- `vkms_config_crtc_get_plane` -/
def crtcGetPlane (crtc : ι) (type : DrmPlaneType) : Option ι :=
  config.planes.find? fun plane ↦
    (config.plane plane).possibleCrtcs.any fun possibleCrtc ↦
      possibleCrtc = crtc && (config.plane plane).type = type

/-! ### Items and links -/

/-- A plane with nothing set; so for the others below. -/
def createPlane (plane : ι) : VkmsConfig ι :=
  { config with
    planes := config.planes ++ [plane]
    plane := Function.update config.plane plane {} }

def createCrtc (crtc : ι) : VkmsConfig ι :=
  { config with
    crtcs := config.crtcs ++ [crtc]
    crtc := Function.update config.crtc crtc {} }

def createEncoder (encoder : ι) : VkmsConfig ι :=
  { config with
    encoders := config.encoders ++ [encoder]
    encoder := Function.update config.encoder encoder {} }

def createConnector (connector : ι) : VkmsConfig ι :=
  { config with
    connectors := config.connectors ++ [connector]
    connector := Function.update config.connector connector {} }

/-- Nothing names a plane, so there is nothing else to do. -/
def destroyPlane (plane : ι) : VkmsConfig ι := { config with planes := config.planes.erase plane }

/-- Every plane and every encoder of the configuration is detached first. -/
def destroyCrtc (crtc : ι) : VkmsConfig ι :=
  { config with
    plane := fun plane ↦
      if plane ∈ config.planes then (config.plane plane).detachCrtc crtc else config.plane plane
    encoder := fun encoder ↦
      if encoder ∈ config.encoders then (config.encoder encoder).detachCrtc crtc
      else config.encoder encoder
    crtcs := config.crtcs.erase crtc }

/-- The connectors lose the encoder, too. -/
def destroyEncoder (encoder : ι) : VkmsConfig ι :=
  { config with
    connector := fun connector ↦
      if connector ∈ config.connectors then (config.connector connector).detachEncoder encoder
      else config.connector connector
    encoders := config.encoders.erase encoder }

/-- Nothing names a connector. -/
def destroyConnector (connector : ι) : VkmsConfig ι :=
  { config with connectors := config.connectors.erase connector }

/-- A plane is changed in place; so for the others below. -/
def setPlane (plane : ι) (value : VkmsConfigPlane ι) : VkmsConfig ι :=
  { config with plane := Function.update config.plane plane value }

def setEncoder (encoder : ι) (value : VkmsConfigEncoder ι) : VkmsConfig ι :=
  { config with encoder := Function.update config.encoder encoder value }

def setConnector (connector : ι) (value : VkmsConfigConnector ι) : VkmsConfig ι :=
  { config with connector := Function.update config.connector connector value }

end VkmsConfig

/-! ## The DRM objects

Objects of a kind are numbered as they are made, and a mask of CRTCs has a bit for each.
-/

/-- A plane that DRM has: its CRTCs are bits of a mask. -/
structure DrmPlaneObject where
  type : DrmPlaneType
  possibleCrtcs : Nat

/-- The planes that were handed to `vkms_crtc_init`. -/
structure DrmCrtcObject where
  primary : Option Nat
  cursor : Option Nat

/-- An encoder that DRM has. -/
structure DrmEncoderObject where
  possibleCrtcs : Nat

/-- A connector that DRM has, its encoders by their index. -/
structure DrmConnectorObject where
  status : DrmConnectorStatus
  requestedMode : RequestedMode
  possibleEncoders : List Nat

/-- What `vkms_output_init` makes of a configuration. -/
structure VkmsOutputs where
  planes : List DrmPlaneObject
  crtcs : List DrmCrtcObject
  encoders : List DrmEncoderObject
  connectors : List DrmConnectorObject

namespace VkmsConfig

variable (config : VkmsConfig ι)

/-- `drm_crtc_mask` of each. -/
def crtcMask (possibleCrtcs : List ι) : Nat :=
  possibleCrtcs.foldl (fun mask crtc ↦ mask ||| 1 <<< config.crtcs.idxOf crtc) 0

/-- The connector that is made of one that is configured. -/
def connectorObject (connector : ι) : DrmConnectorObject where
  status := (config.connector connector).status
  requestedMode := (config.connector connector).requestedMode
  possibleEncoders := (config.connector connector).possibleEncoders.map config.encoders.idxOf

/-- `vkms_output_init` of a configuration that is valid. -/
def outputInit : VkmsOutputs where
  planes := config.planes.map fun plane ↦
    { type := (config.plane plane).type
      possibleCrtcs := config.crtcMask (config.plane plane).possibleCrtcs }
  crtcs := config.crtcs.map fun crtc ↦
    { primary := (config.crtcGetPlane crtc .primary).map config.planes.idxOf
      cursor := (config.crtcGetPlane crtc .cursor).map config.planes.idxOf }
  encoders := config.encoders.map fun encoder ↦
    { possibleCrtcs := config.crtcMask (config.encoder encoder).possibleCrtcs }
  connectors := config.connectors.map config.connectorObject

end VkmsConfig

/-! ## Calls of configfs -/

/-- A device that `vkms_create` has made, and which it is. -/
structure DrmInstance where
  number : Nat
  outputs : VkmsOutputs

/-- A directory of configfs: a configuration and, while it is enabled, a device made of it. -/
structure VkmsConfigfsDevice (ι : Type) where
  config : VkmsConfig ι := {}
  enabled : Bool := false
  /-- `config->dev` -/
  dev : Option DrmInstance := none
  /-- How often `vkms_create` was called. -/
  creations : Nat := 0
  /-- A DRM connector has been used that is not one of the device. -/
  stale : Bool := false

/-- What becomes of a call of `vkms_create`.  It may fail behind any of the connectors. -/
inductive VkmsCreation where
  | created
  | failed (error : Int) (connectors : Nat)

/-- The errors, each `errno` under its name. -/
inductive ConfigfsError where
  | noent
  | exist
  | inval
  | busy
  | opnotsupp
  | notCreated (error : Int)

/-- The calls of the file system: a directory is made or removed, a link made or taken away, an
attribute read or written. -/
inductive ConfigfsCall (ι : Type) where
  | makePlane (plane : ι)
  | makeCrtc (crtc : ι)
  | makeEncoder (encoder : ι)
  | makeConnector (connector : ι)
  | planeRelease (plane : ι)
  | crtcRelease (crtc : ι)
  | encoderRelease (encoder : ι)
  | connectorRelease (connector : ι)
  | planeAllowLink (plane crtc : ι)
  | planeDropLink (plane crtc : ι)
  | encoderAllowLink (encoder crtc : ι)
  | encoderDropLink (encoder crtc : ι)
  | connectorAllowLink (connector encoder : ι)
  | connectorDropLink (connector encoder : ι)
  | planeTypeStore (plane : ι) (type : Nat)
  | crtcWritebackStore (crtc : ι) (writeback : Bool)
  | connectorStatusStore (connector : ι) (status : Nat)
  | connectorRequestedModeStore (connector : ι) (mode : RequestedMode)
  | deviceEnabledStore (enabled : Bool) (creation : VkmsCreation)

/-- The number in the attribute, if it is one of the three. -/
def DrmPlaneType.ofNat? : Nat → Option DrmPlaneType
  | 0 => some .overlay
  | 1 => some .primary
  | 2 => some .cursor
  | _ => none

/-- The number in the attribute, if it is one of the three. -/
def DrmConnectorStatus.ofNat? : Nat → Option DrmConnectorStatus
  | 1 => some .connected
  | 2 => some .disconnected
  | 3 => some .unknown
  | _ => none

namespace VkmsConfigfsDevice

/-- Of a call: its error, if there is one, and the device then. -/
abbrev Result (ι : Type) : Type := Option ConfigfsError × VkmsConfigfsDevice ι

variable (s : VkmsConfigfsDevice ι)

/-- The call fails and nothing has changed. -/
def refuse (error : ConfigfsError) : Result ι := (some error, s)

/-- The call succeeds with this configuration. -/
def accept (config : VkmsConfig ι) : Result ι := (none, { s with config := config })

/-- `make_plane_group` and the like.  In configfs a name is taken only once. -/
def makeGroup (taken : Bool) (config : VkmsConfig ι) : Result ι :=
  if taken then s.refuse .exist
  else if s.enabled then s.refuse .busy
  else s.accept config

/-- `plane_release` and the like, for an item that is there. -/
def release (present : Bool) (config : VkmsConfig ι) : Result ι :=
  if present then s.accept config else s.refuse .noent

/-- `plane_possible_crtcs_allow_link` and the like. -/
def allowLink (present linked : Bool) (config : VkmsConfig ι) : Result ι :=
  if !present then s.refuse .noent
  else if s.enabled then s.refuse .busy
  else if linked then s.refuse .exist
  else s.accept config

/-- A store that is passed on to the DRM connector if the device is enabled. -/
def storeConnector (connector : ι) (value : VkmsConfigConnector ι)
    (pass : DrmConnectorObject → DrmConnectorObject) : VkmsConfigfsDevice ι :=
  let s := { s with config := s.config.setConnector connector value }
  if s.enabled then
    match s.dev, value.connector with
    | some dev, some (number, place) =>
      if dev.number = number then
        { s with
          dev := some { dev with
            outputs := { dev.outputs with
              connectors := dev.outputs.connectors.modify place pass } } }
      else { s with stale := true }
    | _, _ => { s with stale := true }
  else s

/-- The first connectors now refer to the DRM connectors of a device. -/
def referTo (number count : Nat) : VkmsConfig ι :=
  { s.config with
    connector := fun connector ↦
      if connector ∈ s.config.connectors.take count then
        { s.config.connector connector with
          connector := some (number, s.config.connectors.idxOf connector) }
      else s.config.connector connector }

/-- `vkms_create` -/
def vkmsCreate : VkmsCreation → Result ι
  | .created =>
    let config := s.referTo s.creations s.config.connectors.length
    (none, { s with
      config := config
      dev := some ⟨s.creations, config.outputInit⟩
      creations := s.creations + 1 })
  | .failed error connectors =>
    (some (.notCreated error), { s with
      config := s.referTo s.creations connectors
      dev := none
      creations := s.creations + 1 })

/-- A device is made when the attribute goes up, if the configuration is valid, and taken down when
it goes down. -/
def deviceEnabledStore (enabled : Bool) (creation : VkmsCreation) : Result ι :=
  if !s.enabled && enabled then
    if !s.config.isValid then s.refuse .inval
    else
      match s.vkmsCreate creation with
      | (none, s) => (none, { s with enabled := enabled })
      | failure => failure
  else if s.enabled && !enabled then (none, { s with dev := none, enabled := enabled })
  else (none, { s with enabled := enabled })

/-- What each call comes to, with the lock of the directory held. -/
def call : ConfigfsCall ι → Result ι
  | .makePlane plane => s.makeGroup (plane ∈ s.config.planes) (s.config.createPlane plane)
  | .makeCrtc crtc => s.makeGroup (crtc ∈ s.config.crtcs) (s.config.createCrtc crtc)
  | .makeEncoder encoder =>
    s.makeGroup (encoder ∈ s.config.encoders) (s.config.createEncoder encoder)
  | .makeConnector connector =>
    s.makeGroup (connector ∈ s.config.connectors) (s.config.createConnector connector)
  | .planeRelease plane => s.release (plane ∈ s.config.planes) (s.config.destroyPlane plane)
  | .crtcRelease crtc => s.release (crtc ∈ s.config.crtcs) (s.config.destroyCrtc crtc)
  | .encoderRelease encoder =>
    s.release (encoder ∈ s.config.encoders) (s.config.destroyEncoder encoder)
  | .connectorRelease connector =>
    s.release (connector ∈ s.config.connectors) (s.config.destroyConnector connector)
  | .planeAllowLink plane crtc =>
    let possibleCrtcs := (s.config.plane plane).possibleCrtcs
    s.allowLink (plane ∈ s.config.planes && crtc ∈ s.config.crtcs) (crtc ∈ possibleCrtcs)
      (s.config.setPlane plane
        { s.config.plane plane with possibleCrtcs := possibleCrtcs ++ [crtc] })
  | .planeDropLink plane crtc =>
    s.release (plane ∈ s.config.planes)
      (s.config.setPlane plane ((s.config.plane plane).detachCrtc crtc))
  | .encoderAllowLink encoder crtc =>
    let possibleCrtcs := (s.config.encoder encoder).possibleCrtcs
    s.allowLink (encoder ∈ s.config.encoders && crtc ∈ s.config.crtcs) (crtc ∈ possibleCrtcs)
      (s.config.setEncoder encoder
        { s.config.encoder encoder with possibleCrtcs := possibleCrtcs ++ [crtc] })
  | .encoderDropLink encoder crtc =>
    s.release (encoder ∈ s.config.encoders)
      (s.config.setEncoder encoder ((s.config.encoder encoder).detachCrtc crtc))
  | .connectorAllowLink connector encoder =>
    let possibleEncoders := (s.config.connector connector).possibleEncoders
    s.allowLink (connector ∈ s.config.connectors && encoder ∈ s.config.encoders)
      (encoder ∈ possibleEncoders)
      (s.config.setConnector connector
        { s.config.connector connector with possibleEncoders := possibleEncoders ++ [encoder] })
  | .connectorDropLink connector encoder =>
    s.release (connector ∈ s.config.connectors)
      (s.config.setConnector connector ((s.config.connector connector).detachEncoder encoder))
  | .planeTypeStore plane type =>
    if plane ∈ s.config.planes then
      match DrmPlaneType.ofNat? type with
      | none => s.refuse .inval
      | some type =>
        if s.enabled then s.refuse .busy
        else s.accept (s.config.setPlane plane { s.config.plane plane with type := type })
    else s.refuse .noent
  | .crtcWritebackStore crtc writeback =>
    if crtc ∈ s.config.crtcs then
      if writeback then s.refuse .opnotsupp
      else if s.enabled then s.refuse .busy
      else s.accept
        { s.config with crtc := Function.update s.config.crtc crtc { writeback := writeback } }
    else s.refuse .noent
  | .connectorStatusStore connector status =>
    if connector ∈ s.config.connectors then
      match DrmConnectorStatus.ofNat? status with
      | none => s.refuse .inval
      | some status =>
        (none, s.storeConnector connector { s.config.connector connector with status := status }
          fun object ↦ { object with status := status })
    else s.refuse .noent
  | .connectorRequestedModeStore connector mode =>
    if connector ∈ s.config.connectors then
      if requestedModeValid mode then
        (none, s.storeConnector connector
          { s.config.connector connector with requestedMode := mode }
          fun object ↦ { object with requestedMode := mode })
      else s.refuse .inval
    else s.refuse .noent
  | .deviceEnabledStore enabled creation => s.deviceEnabledStore enabled creation

/-- The device after a sequence of calls, whether they succeed or not. -/
def run (s : VkmsConfigfsDevice ι) (calls : List (ConfigfsCall ι)) : VkmsConfigfsDevice ι :=
  calls.foldl (fun s configfsCall ↦ (s.call configfsCall).2) s

end VkmsConfigfsDevice

/-! ## What the check says -/

namespace VkmsConfig

/-- No link dangles, and nothing is there twice. -/
structure Linked (config : VkmsConfig ι) : Prop where
  planes : config.planes.Nodup
  crtcs : config.crtcs.Nodup
  encoders : config.encoders.Nodup
  connectors : config.connectors.Nodup
  plane : ∀ p ∈ config.planes, (config.plane p).possibleCrtcs.Nodup ∧
    ∀ c ∈ (config.plane p).possibleCrtcs, c ∈ config.crtcs
  encoder : ∀ e ∈ config.encoders, (config.encoder e).possibleCrtcs.Nodup ∧
    ∀ c ∈ (config.encoder e).possibleCrtcs, c ∈ config.crtcs
  connector : ∀ c ∈ config.connectors, (config.connector c).possibleEncoders.Nodup ∧
    ∀ e ∈ (config.connector c).possibleEncoders, e ∈ config.encoders

/-- A plane of the type can be used with the CRTC. -/
def Offers (config : VkmsConfig ι) (crtc : ι) (type : DrmPlaneType) (plane : ι) : Prop :=
  (config.plane plane).type = type ∧ crtc ∈ (config.plane plane).possibleCrtcs

instance (config : VkmsConfig ι) (crtc : ι) (type : DrmPlaneType) :
    DecidablePred (config.Offers crtc type) :=
  fun plane ↦ inferInstanceAs (Decidable
    ((config.plane plane).type = type ∧ crtc ∈ (config.plane plane).possibleCrtcs))

/-- The planes of the type that can be used with the CRTC. -/
def offered (config : VkmsConfig ι) (crtc : ι) (type : DrmPlaneType) : List ι :=
  config.planes.filter (config.Offers crtc type)

/-- What `vkms_config_is_valid` has checked, as a property. -/
structure Valid (config : VkmsConfig ι) : Prop where
  planes : 0 < config.planes.length ∧ config.planes.length < 32
  crtcs : 0 < config.crtcs.length ∧ config.crtcs.length < 32
  encoders : 0 < config.encoders.length ∧ config.encoders.length < 32
  connectors : 0 < config.connectors.length ∧ config.connectors.length < 32
  plane : ∀ p ∈ config.planes, (config.plane p).possibleCrtcs ≠ []
  primary : ∀ c ∈ config.crtcs, ∃ p, config.offered c .primary = [p]
  cursor : ∀ c ∈ config.crtcs, (config.offered c .cursor).length ≤ 1
  encoder : ∀ e ∈ config.encoders, (config.encoder e).possibleCrtcs ≠ []
  crtc : ∀ c ∈ config.crtcs, ∃ e ∈ config.encoders, c ∈ (config.encoder e).possibleCrtcs
  connector : ∀ c ∈ config.connectors, (config.connector c).possibleEncoders ≠ []

variable {config : VkmsConfig ι}

/-- The inner loop looks for a CRTC that is there at most once. -/
theorem notePlane_eq (crtc : ι) {plane : ι}
    (hnodup : (config.plane plane).possibleCrtcs.Nodup) (found : PlanesFound) :
    config.notePlane crtc found plane =
      if crtc ∈ (config.plane plane).possibleCrtcs then found.note (config.plane plane).type
      else some found := by
  rw [notePlane]
  generalize (config.plane plane).possibleCrtcs = possibleCrtcs at hnodup ⊢
  induction possibleCrtcs generalizing found with
  | nil => simp
  | cons c possibleCrtcs ih =>
    rw [List.nodup_cons] at hnodup
    rw [List.foldlM_cons]
    by_cases hc : c = crtc
    · subst hc
      cases found.note (config.plane plane).type with
      | none => simp
      | some found' => simp [ih found' hnodup.2, hnodup.1]
    · simp [hc, ih found hnodup.2, Ne.symm hc]

/-- The outer loop comes to its end if there is at most one plane of each type. -/
theorem foldlM_notePlane (crtc : ι) {planes : List ι}
    (hnodup : ∀ p ∈ planes, (config.plane p).possibleCrtcs.Nodup) (found found' : PlanesFound) :
    planes.foldlM (config.notePlane crtc) found = some found' ↔
      found.hasPrimaryPlane.toNat + (planes.filter (config.Offers crtc .primary)).length =
          found'.hasPrimaryPlane.toNat ∧
        found.hasCursorPlane.toNat + (planes.filter (config.Offers crtc .cursor)).length =
          found'.hasCursorPlane.toNat := by
  induction planes generalizing found with
  | nil =>
    rcases found with ⟨primary, cursor⟩
    rcases found' with ⟨primary', cursor'⟩
    cases primary <;> cases primary' <;> cases cursor <;> cases cursor' <;> simp
  | cons p planes ih =>
    rw [List.forall_mem_cons] at hnodup
    rw [List.foldlM_cons, notePlane_eq crtc hnodup.1]
    by_cases hcrtc : crtc ∈ (config.plane p).possibleCrtcs
    · cases htype : (config.plane p).type with
      | overlay => simp [PlanesFound.note, hcrtc, Offers, htype, ih hnodup.2]
      | primary =>
        cases hfound : found.hasPrimaryPlane with
        | false =>
          simp [PlanesFound.note, hcrtc, Offers, htype, ih hnodup.2, hfound, Nat.add_comm]
        | true =>
          have hle := Bool.toNat_le found'.hasPrimaryPlane
          simp [PlanesFound.note, hcrtc, Offers, htype, hfound]
          omega
      | cursor =>
        cases hfound : found.hasCursorPlane with
        | false =>
          simp [PlanesFound.note, hcrtc, Offers, htype, ih hnodup.2, hfound, Nat.add_comm]
        | true =>
          have hle := Bool.toNat_le found'.hasCursorPlane
          simp [PlanesFound.note, hcrtc, Offers, htype, hfound]
          omega
    · simp [hcrtc, Offers, ih hnodup.2]

theorem validPlanesForCrtc_iff (h : config.Linked) (crtc : ι) :
    config.validPlanesForCrtc crtc = true ↔
      (∃ p, config.offered crtc .primary = [p]) ∧ (config.offered crtc .cursor).length ≤ 1 := by
  have hiff := foldlM_notePlane crtc (fun p hp ↦ (h.plane p hp).1) {}
  simp only [Bool.toNat_false, zero_add] at hiff
  rw [validPlanesForCrtc, ← List.length_eq_one_iff]
  cases hfound : config.planes.foldlM (config.notePlane crtc) {} with
  | none =>
    simp only [Bool.false_eq_true, false_iff, not_and]
    intro hprimary hcursor
    have hcount : (config.offered crtc .cursor).length =
        (decide ((config.offered crtc .cursor).length = 1)).toNat := by
      rcases Nat.le_one_iff_eq_zero_or_eq_one.mp hcursor with hcursor | hcursor <;> simp [hcursor]
    have hnone := (hiff ⟨true, _⟩).mpr ⟨hprimary, hcount⟩
    rw [hfound] at hnone
    cases hnone
  | some found =>
    obtain ⟨hprimary, hcursor⟩ := (hiff found).mp hfound
    have hle := Bool.toNat_le found.hasCursorPlane
    simp only [offered, hprimary, Bool.toNat_eq_one]
    exact ⟨fun htrue ↦ ⟨htrue, by omega⟩, And.left⟩

theorem isValid_iff (h : config.Linked) : config.isValid = true ↔ config.Valid := by
  have hplanes : ∀ c, _ := validPlanesForCrtc_iff h
  simp only [isValid, validPlaneNumber, validCrtcNumber, validEncoderNumber, validConnectorNumber,
    validPlanePossibleCrtcs, validEncoderPossibleCrtcs, validConnectorPossibleEncoders,
    Bool.and_eq_true, decide_eq_true_eq, List.all_eq_true, List.any_eq_true, hplanes,
    Bool.not_eq_true', List.isEmpty_eq_false_iff, exists_eq_right]
  constructor
  · rintro ⟨⟨⟨⟨⟨⟨⟨planes, crtcs⟩, encoders⟩, connectors⟩, plane⟩, offered⟩, encoder, crtc⟩,
      connector⟩
    exact {
      planes, crtcs, encoders, connectors, plane, encoder, crtc, connector
      primary := fun c hc ↦ (offered c hc).1
      cursor := fun c hc ↦ (offered c hc).2 }
  · intro hvalid
    exact ⟨⟨⟨⟨⟨⟨⟨hvalid.planes, hvalid.crtcs⟩, hvalid.encoders⟩, hvalid.connectors⟩, hvalid.plane⟩,
      fun c hc ↦ ⟨hvalid.primary c hc, hvalid.cursor c hc⟩⟩, hvalid.encoder, hvalid.crtc⟩,
      hvalid.connector⟩

end VkmsConfig

/-! ## Devices that are made -/

/-- A plane of the type has the bit of the CRTC. -/
def VkmsOutputs.Usable (o : VkmsOutputs) (crtc : Nat) (type : DrmPlaneType) (plane : Nat) : Prop :=
  ∃ p, o.planes[plane]? = some p ∧ p.type = type ∧ p.possibleCrtcs.testBit crtc = true

/-- Each CRTC has the one primary plane that can be used with it, and the cursor plane if there is
one; each can be reached from an encoder, and each connector has encoders, which reach CRTCs. -/
structure VkmsOutputs.Complete (o : VkmsOutputs) : Prop where
  crtcs : 0 < o.crtcs.length ∧ o.crtcs.length < 32
  connectors : 0 < o.connectors.length ∧ o.connectors.length < 32
  plane : ∀ p ∈ o.planes, p.possibleCrtcs ≠ 0 ∧ p.possibleCrtcs < 2 ^ o.crtcs.length
  primary : ∀ j crtc, o.crtcs[j]? = some crtc →
    ∃ k, crtc.primary = some k ∧ ∀ k', o.Usable j .primary k' ↔ k = k'
  cursor : ∀ j crtc, o.crtcs[j]? = some crtc →
    ∀ k, o.Usable j .cursor k ↔ crtc.cursor = some k
  encoder : ∀ e ∈ o.encoders, e.possibleCrtcs ≠ 0 ∧ e.possibleCrtcs < 2 ^ o.crtcs.length
  crtc : ∀ j < o.crtcs.length, ∃ e ∈ o.encoders, e.possibleCrtcs.testBit j = true
  connector : ∀ c ∈ o.connectors, c.possibleEncoders ≠ [] ∧
    ∀ k ∈ c.possibleEncoders, k < o.encoders.length

namespace VkmsConfig

variable {config : VkmsConfig ι}

theorem getElem?_eq_some_iff_idxOf {l : List ι} (hnodup : l.Nodup) {a : ι} (ha : a ∈ l) (k : Nat) :
    l[k]? = some a ↔ l.idxOf a = k := by
  constructor
  · intro hk
    obtain ⟨hlt, rfl⟩ := List.getElem?_eq_some_iff.mp hk
    exact hnodup.idxOf_getElem k hlt
  · rintro rfl
    exact List.getElem?_idxOf ha

theorem testBit_crtcMask (config : VkmsConfig ι) (possibleCrtcs : List ι) (j : Nat) :
    (config.crtcMask possibleCrtcs).testBit j = true ↔
      ∃ c ∈ possibleCrtcs, config.crtcs.idxOf c = j := by
  have hfold : ∀ mask : Nat, (possibleCrtcs.foldl
      (fun mask crtc ↦ mask ||| 1 <<< config.crtcs.idxOf crtc) mask).testBit j = true ↔
        mask.testBit j = true ∨ ∃ c ∈ possibleCrtcs, config.crtcs.idxOf c = j := by
    induction possibleCrtcs with
    | nil => simp
    | cons c possibleCrtcs ih =>
      intro mask
      rw [List.foldl_cons, ih]
      simp [Nat.testBit_or, Nat.one_shiftLeft, Nat.testBit_two_pow, or_assoc]
  simpa [crtcMask] using hfold 0

theorem crtcMask_bounds {possibleCrtcs : List ι} (hne : possibleCrtcs ≠ [])
    (hcrtcs : ∀ c ∈ possibleCrtcs, c ∈ config.crtcs) :
    config.crtcMask possibleCrtcs ≠ 0 ∧
      config.crtcMask possibleCrtcs < 2 ^ config.crtcs.length := by
  constructor
  · intro hzero
    obtain ⟨c, hc⟩ := List.exists_mem_of_ne_nil _ hne
    have hbit := (config.testBit_crtcMask possibleCrtcs _).mpr ⟨c, hc, rfl⟩
    simp [hzero] at hbit
  · refine Nat.lt_pow_two_of_testBit _ fun j hj ↦ ?_
    rw [← Bool.not_eq_true, testBit_crtcMask]
    rintro ⟨c, hc, rfl⟩
    have hlt := List.idxOf_lt_length_iff.mpr (hcrtcs c hc)
    omega

theorem usable_outputInit (h : config.Linked) {j : Nat} {c : ι} (hc : config.crtcs[j]? = some c)
    (type : DrmPlaneType) (k : Nat) :
    config.outputInit.Usable j type k ↔
      ∃ p, config.planes[k]? = some p ∧ config.Offers c type p := by
  have hbit : ∀ p ∈ config.planes,
      (config.crtcMask (config.plane p).possibleCrtcs).testBit j = true ↔
        c ∈ (config.plane p).possibleCrtcs := by
    intro p hp
    rw [testBit_crtcMask]
    constructor
    · rintro ⟨c', hc', hidx⟩
      have hc'' := (getElem?_eq_some_iff_idxOf h.crtcs ((h.plane p hp).2 c' hc') j).mpr hidx
      rw [hc] at hc''
      cases hc''
      exact hc'
    · intro hmem
      exact ⟨c, hmem, (getElem?_eq_some_iff_idxOf h.crtcs (List.mem_of_getElem? hc) j).mp hc⟩
  simp only [VkmsOutputs.Usable, outputInit, List.getElem?_map, Option.map_eq_some_iff]
  constructor
  · rintro ⟨-, ⟨p, hp, rfl⟩, htype, hset⟩
    exact ⟨p, hp, htype, (hbit p (List.mem_of_getElem? hp)).mp hset⟩
  · rintro ⟨p, hp, htype, hmem⟩
    exact ⟨_, ⟨p, hp, rfl⟩, htype, (hbit p (List.mem_of_getElem? hp)).mpr hmem⟩

theorem crtcGetPlane_eq (crtc : ι) (type : DrmPlaneType) :
    config.crtcGetPlane crtc type = (config.offered crtc type).head? := by
  rw [offered, List.head?_filter, crtcGetPlane]
  congr 1
  funext p
  rw [Bool.eq_iff_iff, decide_eq_true_iff]
  simp [Offers, and_comm]

/-- The first plane of a type is the only one. -/
theorem usable_iff_crtcGetPlane (h : config.Linked) {j : Nat} {c : ι}
    (hc : config.crtcs[j]? = some c) {type : DrmPlaneType}
    (hone : (config.offered c type).length ≤ 1) (k : Nat) :
    config.outputInit.Usable j type k ↔
      (config.crtcGetPlane c type).map config.planes.idxOf = some k := by
  rw [usable_outputInit h hc, crtcGetPlane_eq]
  have hoffered : ∀ p, p ∈ config.offered c type ↔ p ∈ config.planes ∧ config.Offers c type p := by
    intro p
    simp [offered]
  match hlist : config.offered c type with
  | [] =>
    simp only [List.head?_nil, Option.map_none, reduceCtorEq, iff_false, not_exists, not_and]
    intro p hp hoffers
    have hmem := (hoffered p).mpr ⟨List.mem_of_getElem? hp, hoffers⟩
    rw [hlist] at hmem
    cases hmem
  | [p] =>
    have hp := (hoffered p).mp (by rw [hlist]; exact List.mem_cons_self)
    simp only [List.head?_cons, Option.map_some, Option.some.injEq]
    rw [← getElem?_eq_some_iff_idxOf h.planes hp.1]
    constructor
    · rintro ⟨p', hp', hoffers⟩
      have hmem := (hoffered p').mpr ⟨List.mem_of_getElem? hp', hoffers⟩
      rw [hlist, List.mem_singleton] at hmem
      rw [← hmem]
      exact hp'
    · intro hk
      exact ⟨p, hk, hp.2⟩
  | p :: p' :: planes =>
    rw [hlist] at hone
    simp at hone

theorem outputInit_complete (h : config.Linked) (hvalid : config.Valid) :
    config.outputInit.Complete where
  crtcs := by simpa [outputInit] using hvalid.crtcs
  connectors := by simpa [outputInit] using hvalid.connectors
  plane := by
    simp only [outputInit, List.mem_map, List.length_map]
    rintro - ⟨p, hp, rfl⟩
    exact crtcMask_bounds (hvalid.plane p hp) (h.plane p hp).2
  primary j crtc hj := by
    simp only [outputInit, List.getElem?_map, Option.map_eq_some_iff] at hj
    obtain ⟨c, hc, rfl⟩ := hj
    obtain ⟨p, hp⟩ := hvalid.primary c (List.mem_of_getElem? hc)
    refine ⟨config.planes.idxOf p, by simp [crtcGetPlane_eq, hp], fun k ↦ ?_⟩
    rw [usable_iff_crtcGetPlane h hc (by simp [hp]) k, crtcGetPlane_eq, hp]
    simp
  cursor j crtc hj k := by
    simp only [outputInit, List.getElem?_map, Option.map_eq_some_iff] at hj
    obtain ⟨c, hc, rfl⟩ := hj
    exact usable_iff_crtcGetPlane h hc (hvalid.cursor c (List.mem_of_getElem? hc)) k
  encoder := by
    simp only [outputInit, List.mem_map, List.length_map]
    rintro - ⟨e, he, rfl⟩
    exact crtcMask_bounds (hvalid.encoder e he) (h.encoder e he).2
  crtc j hj := by
    simp only [outputInit, List.length_map] at hj
    obtain ⟨e, he, hmem⟩ := hvalid.crtc _ (List.getElem_mem hj)
    refine ⟨_, List.mem_map_of_mem he, ?_⟩
    simp only [testBit_crtcMask]
    exact ⟨_, hmem, h.crtcs.idxOf_getElem j hj⟩
  connector := by
    simp only [outputInit, List.mem_map, List.length_map]
    rintro - ⟨c, hc, rfl⟩
    refine ⟨by simpa [connectorObject] using hvalid.connector c hc, fun k hk ↦ ?_⟩
    obtain ⟨e, he, rfl⟩ := List.mem_map.mp hk
    exact List.idxOf_lt_length_iff.mpr ((h.connector c hc).2 e he)

/-! ## What may go away -/

/-- Items and links may be gone, and what is left is as it was. -/
structure RemainsOf (config made : VkmsConfig ι) : Prop where
  planes : config.planes.Sublist made.planes
  crtcs : config.crtcs.Sublist made.crtcs
  encoders : config.encoders.Sublist made.encoders
  connectors : config.connectors.Sublist made.connectors
  plane : ∀ p ∈ config.planes, (config.plane p).type = (made.plane p).type ∧
    (config.plane p).possibleCrtcs.Sublist (made.plane p).possibleCrtcs
  crtc : ∀ c ∈ config.crtcs, config.crtc c = made.crtc c
  encoder : ∀ e ∈ config.encoders,
    (config.encoder e).possibleCrtcs.Sublist (made.encoder e).possibleCrtcs
  connector : ∀ c ∈ config.connectors,
    (config.connector c).status = (made.connector c).status ∧
      (config.connector c).requestedMode = (made.connector c).requestedMode ∧
      (config.connector c).connector = (made.connector c).connector ∧
      (config.connector c).possibleEncoders.Sublist (made.connector c).possibleEncoders

omit [DecidableEq ι] in
theorem RemainsOf.refl (config : VkmsConfig ι) : config.RemainsOf config := by
  constructor <;> simp

omit [DecidableEq ι] in
theorem RemainsOf.trans {config₁ config₂ config₃ : VkmsConfig ι} (h : config₁.RemainsOf config₂)
    (h' : config₂.RemainsOf config₃) : config₁.RemainsOf config₃ where
  planes := h.planes.trans h'.planes
  crtcs := h.crtcs.trans h'.crtcs
  encoders := h.encoders.trans h'.encoders
  connectors := h.connectors.trans h'.connectors
  plane p hp := by
    obtain ⟨htype, hlinks⟩ := h.plane p hp
    obtain ⟨htype', hlinks'⟩ := h'.plane p (h.planes.subset hp)
    exact ⟨htype.trans htype', hlinks.trans hlinks'⟩
  crtc c hc := (h.crtc c hc).trans (h'.crtc c (h.crtcs.subset hc))
  encoder e he := (h.encoder e he).trans (h'.encoder e (h.encoders.subset he))
  connector c hc := by
    obtain ⟨hstatus, hmode, hconnector, hlinks⟩ := h.connector c hc
    obtain ⟨hstatus', hmode', hconnector', hlinks'⟩ := h'.connector c (h.connectors.subset hc)
    exact ⟨hstatus.trans hstatus', hmode.trans hmode', hconnector.trans hconnector',
      hlinks.trans hlinks'⟩

omit [DecidableEq ι] in
/-- Where no link of what is left leads to what is gone, none dangles. -/
theorem RemainsOf.linked {config' : VkmsConfig ι} (h : config'.RemainsOf config)
    (hlinked : config.Linked)
    (hplane : ∀ p ∈ config'.planes, ∀ c ∈ (config'.plane p).possibleCrtcs,
      c ∈ config.crtcs → c ∈ config'.crtcs)
    (hencoder : ∀ e ∈ config'.encoders, ∀ c ∈ (config'.encoder e).possibleCrtcs,
      c ∈ config.crtcs → c ∈ config'.crtcs)
    (hconnector : ∀ c ∈ config'.connectors, ∀ e ∈ (config'.connector c).possibleEncoders,
      e ∈ config.encoders → e ∈ config'.encoders) : config'.Linked where
  planes := h.planes.nodup hlinked.planes
  crtcs := h.crtcs.nodup hlinked.crtcs
  encoders := h.encoders.nodup hlinked.encoders
  connectors := h.connectors.nodup hlinked.connectors
  plane p hp := by
    have hsub := (h.plane p hp).2
    obtain ⟨hnodup, hmem⟩ := hlinked.plane p (h.planes.subset hp)
    exact ⟨hsub.nodup hnodup, fun c hc ↦ hplane p hp c hc (hmem c (hsub.subset hc))⟩
  encoder e he := by
    have hsub := h.encoder e he
    obtain ⟨hnodup, hmem⟩ := hlinked.encoder e (h.encoders.subset he)
    exact ⟨hsub.nodup hnodup, fun c hc ↦ hencoder e he c hc (hmem c (hsub.subset hc))⟩
  connector c hc := by
    have hsub := (h.connector c hc).2.2.2
    obtain ⟨hnodup, hmem⟩ := hlinked.connector c (h.connectors.subset hc)
    exact ⟨hsub.nodup hnodup, fun e he ↦ hconnector c hc e he (hmem e (hsub.subset he))⟩

/-- An operation that takes something away, and leaves no link to it. -/
def Shrinks (config config' : VkmsConfig ι) : Prop :=
  config'.RemainsOf config ∧ (config.Linked → config'.Linked)

theorem shrinks_destroyPlane (config : VkmsConfig ι) (p : ι) :
    config.Shrinks (config.destroyPlane p) := by
  have hremains : (config.destroyPlane p).RemainsOf config :=
    { RemainsOf.refl config with
      planes := List.erase_sublist
      plane := fun _ _ ↦ ⟨rfl, List.Sublist.refl _⟩ }
  exact ⟨hremains, fun h ↦ hremains.linked h (fun _ _ _ _ ↦ id) (fun _ _ _ _ ↦ id)
    fun _ _ _ _ ↦ id⟩

theorem shrinks_destroyConnector (config : VkmsConfig ι) (c : ι) :
    config.Shrinks (config.destroyConnector c) := by
  have hremains : (config.destroyConnector c).RemainsOf config :=
    { RemainsOf.refl config with
      connectors := List.erase_sublist
      connector := fun _ _ ↦ ⟨rfl, rfl, rfl, List.Sublist.refl _⟩ }
  exact ⟨hremains, fun h ↦ hremains.linked h (fun _ _ _ _ ↦ id) (fun _ _ _ _ ↦ id)
    fun _ _ _ _ ↦ id⟩

theorem mem_erase_of_mem_detached {l l' : List ι} {a c : ι} (hc : c ∈ l.filter (· ≠ a))
    (hmem : c ∈ l') : c ∈ l'.erase a :=
  (List.mem_erase_of_ne (by simpa using (List.mem_filter.mp hc).2)).mpr hmem

theorem shrinks_destroyCrtc (config : VkmsConfig ι) (c : ι) :
    config.Shrinks (config.destroyCrtc c) := by
  have hplane : ∀ p ∈ config.planes,
      (config.destroyCrtc c).plane p = (config.plane p).detachCrtc c := fun p hp ↦ if_pos hp
  have hencoder : ∀ e ∈ config.encoders,
      (config.destroyCrtc c).encoder e = (config.encoder e).detachCrtc c := fun e he ↦ if_pos he
  have hremains : (config.destroyCrtc c).RemainsOf config :=
    { RemainsOf.refl config with
      crtcs := List.erase_sublist
      plane := fun p hp ↦ by
        rw [hplane p hp]
        exact ⟨rfl, List.filter_sublist⟩
      crtc := fun _ _ ↦ rfl
      encoder := fun e he ↦ by
        rw [hencoder e he]
        exact List.filter_sublist }
  refine ⟨hremains, fun h ↦ hremains.linked h ?_ ?_ fun _ _ _ _ ↦ id⟩
  · intro p hp c' hc'
    rw [hplane p hp] at hc'
    exact mem_erase_of_mem_detached hc'
  · intro e he c' hc'
    rw [hencoder e he] at hc'
    exact mem_erase_of_mem_detached hc'

theorem shrinks_destroyEncoder (config : VkmsConfig ι) (e : ι) :
    config.Shrinks (config.destroyEncoder e) := by
  have hconnector : ∀ c ∈ config.connectors,
      (config.destroyEncoder e).connector c = (config.connector c).detachEncoder e :=
    fun c hc ↦ if_pos hc
  have hremains : (config.destroyEncoder e).RemainsOf config :=
    { RemainsOf.refl config with
      encoders := List.erase_sublist
      encoder := fun _ _ ↦ List.Sublist.refl _
      connector := fun c hc ↦ by
        rw [hconnector c hc]
        exact ⟨rfl, rfl, rfl, List.filter_sublist⟩ }
  refine ⟨hremains, fun h ↦ hremains.linked h (fun _ _ _ _ ↦ id) (fun _ _ _ _ ↦ id) ?_⟩
  intro c hc e' he'
  rw [hconnector c hc] at he'
  exact mem_erase_of_mem_detached he'

theorem shrinks_detachPlane (config : VkmsConfig ι) (p c : ι) :
    config.Shrinks (config.setPlane p ((config.plane p).detachCrtc c)) := by
  have hremains : (config.setPlane p ((config.plane p).detachCrtc c)).RemainsOf config :=
    { RemainsOf.refl config with
      plane := fun p' _ ↦ by
        by_cases hp : p' = p
        · simp [setPlane, hp, VkmsConfigPlane.detachCrtc]
        · simp [setPlane, hp] }
  exact ⟨hremains, fun h ↦ hremains.linked h (fun _ _ _ _ ↦ id) (fun _ _ _ _ ↦ id)
    fun _ _ _ _ ↦ id⟩

theorem shrinks_detachEncoder (config : VkmsConfig ι) (e c : ι) :
    config.Shrinks (config.setEncoder e ((config.encoder e).detachCrtc c)) := by
  have hremains : (config.setEncoder e ((config.encoder e).detachCrtc c)).RemainsOf config :=
    { RemainsOf.refl config with
      encoder := fun e' _ ↦ by
        by_cases he : e' = e
        · simp [setEncoder, he, VkmsConfigEncoder.detachCrtc]
        · simp [setEncoder, he] }
  exact ⟨hremains, fun h ↦ hremains.linked h (fun _ _ _ _ ↦ id) (fun _ _ _ _ ↦ id)
    fun _ _ _ _ ↦ id⟩

theorem shrinks_detachConnector (config : VkmsConfig ι) (c e : ι) :
    config.Shrinks (config.setConnector c ((config.connector c).detachEncoder e)) := by
  have hremains : (config.setConnector c ((config.connector c).detachEncoder e)).RemainsOf config :=
    { RemainsOf.refl config with
      connector := fun c' _ ↦ by
        by_cases hc : c' = c
        · simp [setConnector, hc, VkmsConfigConnector.detachEncoder]
        · simp [setConnector, hc] }
  exact ⟨hremains, fun h ↦ hremains.linked h (fun _ _ _ _ ↦ id) (fun _ _ _ _ ↦ id)
    fun _ _ _ _ ↦ id⟩

/-! ## What may be added -/

theorem linked_setPlane (h : config.Linked) (p : ι) {value : VkmsConfigPlane ι}
    (hvalue : value.possibleCrtcs.Nodup ∧ ∀ c ∈ value.possibleCrtcs, c ∈ config.crtcs) :
    (config.setPlane p value).Linked := by
  refine { h with plane := fun p' hp' ↦ ?_ }
  by_cases hp : p' = p
  · simpa [setPlane, hp] using hvalue
  · simpa [setPlane, hp] using h.plane p' hp'

theorem linked_setEncoder (h : config.Linked) (e : ι) {value : VkmsConfigEncoder ι}
    (hvalue : value.possibleCrtcs.Nodup ∧ ∀ c ∈ value.possibleCrtcs, c ∈ config.crtcs) :
    (config.setEncoder e value).Linked := by
  refine { h with encoder := fun e' he' ↦ ?_ }
  by_cases he : e' = e
  · simpa [setEncoder, he] using hvalue
  · simpa [setEncoder, he] using h.encoder e' he'

theorem linked_setConnector (h : config.Linked) (c : ι) {value : VkmsConfigConnector ι}
    (hvalue : value.possibleEncoders.Nodup ∧
      ∀ e ∈ value.possibleEncoders, e ∈ config.encoders) :
    (config.setConnector c value).Linked := by
  refine { h with connector := fun c' hc' ↦ ?_ }
  by_cases hc : c' = c
  · simpa [setConnector, hc] using hvalue
  · simpa [setConnector, hc] using h.connector c' hc'

omit [DecidableEq ι] in
theorem nodup_concat {l : List ι} {a : ι} (h : l.Nodup) (ha : a ∉ l) : (l ++ [a]).Nodup := by
  rw [List.nodup_append]
  refine ⟨h, List.nodup_singleton a, fun b hb b' hb' ↦ ?_⟩
  rw [List.mem_singleton.mp hb']
  rintro rfl
  exact ha hb

omit [DecidableEq ι] in
/-- A new link, to an item that is there. -/
theorem links_concat {l l' : List ι} {a : ι} (h : l.Nodup ∧ ∀ c ∈ l, c ∈ l') (ha : a ∉ l)
    (ha' : a ∈ l') : (l ++ [a]).Nodup ∧ ∀ c ∈ l ++ [a], c ∈ l' := by
  refine ⟨nodup_concat h.1 ha, fun c hc ↦ ?_⟩
  rcases List.mem_append.mp hc with hc | hc
  · exact h.2 c hc
  · rw [List.mem_singleton.mp hc]
    exact ha'

theorem linked_createPlane (h : config.Linked) {p : ι} (hp : p ∉ config.planes) :
    (config.createPlane p).Linked := by
  refine { h with planes := nodup_concat h.planes hp, plane := fun p' hp' ↦ ?_ }
  by_cases hne : p' = p
  · simp [createPlane, hne]
  · simp only [createPlane, List.mem_append, List.mem_singleton, hne, or_false] at hp'
    simpa [createPlane, hne] using h.plane p' hp'

theorem linked_createCrtc (h : config.Linked) {c : ι} (hc : c ∉ config.crtcs) :
    (config.createCrtc c).Linked where
  planes := h.planes
  crtcs := nodup_concat h.crtcs hc
  encoders := h.encoders
  connectors := h.connectors
  plane p hp := by
    obtain ⟨hnodup, hmem⟩ := h.plane p hp
    exact ⟨hnodup, fun c' hc' ↦ List.mem_append_left _ (hmem c' hc')⟩
  encoder e he := by
    obtain ⟨hnodup, hmem⟩ := h.encoder e he
    exact ⟨hnodup, fun c' hc' ↦ List.mem_append_left _ (hmem c' hc')⟩
  connector := h.connector

theorem linked_createEncoder (h : config.Linked) {e : ι} (he : e ∉ config.encoders) :
    (config.createEncoder e).Linked where
  planes := h.planes
  crtcs := h.crtcs
  encoders := nodup_concat h.encoders he
  connectors := h.connectors
  plane := h.plane
  encoder e' he' := by
    by_cases hne : e' = e
    · simp [createEncoder, hne]
    · simp only [createEncoder, List.mem_append, List.mem_singleton, hne, or_false] at he'
      simpa [createEncoder, hne] using h.encoder e' he'
  connector c hc := by
    obtain ⟨hnodup, hmem⟩ := h.connector c hc
    exact ⟨hnodup, fun e' he' ↦ List.mem_append_left _ (hmem e' he')⟩

theorem linked_createConnector (h : config.Linked) {c : ι} (hc : c ∉ config.connectors) :
    (config.createConnector c).Linked := by
  refine { h with connectors := nodup_concat h.connectors hc, connector := fun c' hc' ↦ ?_ }
  by_cases hne : c' = c
  · simp [createConnector, hne]
  · simp only [createConnector, List.mem_append, List.mem_singleton, hne, or_false] at hc'
    simpa [createConnector, hne] using h.connector c' hc'

end VkmsConfig

/-! ## Runs -/

/-- The device was made from a configuration of which this one remains.  What is stored in a
connector since then counts as if it had been there. -/
structure VkmsConfig.Made (config : VkmsConfig ι) (dev : DrmInstance) (made : VkmsConfig ι) :
    Prop where
  linked : made.Linked
  valid : made.Valid
  outputs : dev.outputs = made.outputInit
  remains : config.RemainsOf made
  refers : ∀ c ∈ made.connectors,
    (made.connector c).connector = some (dev.number, made.connectors.idxOf c)

theorem VkmsConfig.Made.complete {config made : VkmsConfig ι} {dev : DrmInstance}
    (h : config.Made dev made) : dev.outputs.Complete :=
  h.outputs ▸ outputInit_complete h.linked h.valid

/-- A connector that is left refers to the DRM connector that was made for it. -/
theorem VkmsConfig.Made.connectorObject {config made : VkmsConfig ι} {dev : DrmInstance}
    (h : config.Made dev made) {c : ι} (hc : c ∈ config.connectors) :
    (config.connector c).connector = some (dev.number, made.connectors.idxOf c) ∧
      ∃ object, dev.outputs.connectors[made.connectors.idxOf c]? = some object ∧
        object.status = (config.connector c).status ∧
        object.requestedMode = (config.connector c).requestedMode := by
  have hmade := h.remains.connectors.subset hc
  obtain ⟨hstatus, hmode, hrefers, -⟩ := h.remains.connector c hc
  refine ⟨hrefers.trans (h.refers c hmade), made.connectorObject c, ?_, hstatus.symm, hmode.symm⟩
  rw [h.outputs]
  simp only [outputInit, List.getElem?_map, List.getElem?_idxOf hmade, Option.map_some]

namespace VkmsConfigfsDevice

variable {s : VkmsConfigfsDevice ι}

/-- What holds between the calls: the links lead to what there is, and there is a device just while
the directory is enabled, made of the configuration that is there. -/
structure Sound (s : VkmsConfigfsDevice ι) : Prop where
  linked : s.config.Linked
  writeback : ∀ c ∈ s.config.crtcs, (s.config.crtc c).writeback = false
  enabled : s.enabled = s.dev.isSome
  made : ∀ dev ∈ s.dev, ∃ made : VkmsConfig ι, s.config.Made dev made
  stale : s.stale = false

theorem Sound.accept_disabled (h : s.Sound) (hdisabled : s.enabled = false)
    {config : VkmsConfig ι} (hlinked : config.Linked)
    (hwriteback : ∀ c ∈ config.crtcs, (config.crtc c).writeback = false) :
    (s.accept config).2.Sound where
  linked := hlinked
  writeback := hwriteback
  enabled := h.enabled
  made dev hdev := by
    have hdev' : s.dev = some dev := hdev
    have hsome := h.enabled
    rw [hdisabled, hdev'] at hsome
    cases hsome
  stale := h.stale

theorem Sound.accept_shrinks (h : s.Sound) {config : VkmsConfig ι}
    (hshrinks : s.config.Shrinks config) : (s.accept config).2.Sound where
  linked := hshrinks.2 h.linked
  writeback c hc := by
    have hcrtc := hshrinks.1.crtc c hc
    have hmem := hshrinks.1.crtcs.subset hc
    show (config.crtc c).writeback = false
    rw [hcrtc]
    exact h.writeback c hmem
  enabled := h.enabled
  made dev hdev := by
    obtain ⟨made, hmade⟩ := h.made dev hdev
    exact ⟨made, { hmade with remains := hshrinks.1.trans hmade.remains }⟩
  stale := h.stale

theorem Sound.makeGroup (h : s.Sound) {taken : Bool} {config : VkmsConfig ι}
    (hconfig : taken = false → config.Linked ∧
      ∀ c ∈ config.crtcs, (config.crtc c).writeback = false) :
    (s.makeGroup taken config).2.Sound := by
  rw [VkmsConfigfsDevice.makeGroup]
  split_ifs with htaken henabled
  · exact h
  · exact h
  · obtain ⟨hlinked, hwriteback⟩ := hconfig (by simpa using htaken)
    exact h.accept_disabled (by simpa using henabled) hlinked hwriteback

theorem Sound.release (h : s.Sound) {present : Bool} {config : VkmsConfig ι}
    (hshrinks : s.config.Shrinks config) : (s.release present config).2.Sound := by
  cases present with
  | true => exact h.accept_shrinks hshrinks
  | false => exact h

theorem Sound.allowLink (h : s.Sound) {present linked : Bool} {config : VkmsConfig ι}
    (hconfig : present = true → linked = false → config.Linked)
    (hcrtcs : config.crtcs = s.config.crtcs) (hcrtc : config.crtc = s.config.crtc) :
    (s.allowLink present linked config).2.Sound := by
  rw [VkmsConfigfsDevice.allowLink]
  split_ifs with hpresent henabled hlinked
  · exact h
  · exact h
  · exact h
  · refine h.accept_disabled (by simpa using henabled)
      (hconfig (by simpa using hpresent) (by simpa using hlinked)) ?_
    rw [hcrtcs, hcrtc]
    exact h.writeback

theorem map_eq_modify {β : Type} {l : List ι} (hnodup : l.Nodup) {a : ι} (ha : a ∈ l)
    {f g : ι → β} {pass : β → β} (hself : g a = pass (f a)) (hother : ∀ b, b ≠ a → g b = f b) :
    l.map g = (l.map f).modify (l.idxOf a) pass := by
  refine List.ext_getElem? fun k ↦ ?_
  rw [List.getElem?_modify, List.getElem?_map, List.getElem?_map]
  cases hk : l[k]? with
  | none => simp
  | some b =>
    have hidx := VkmsConfig.getElem?_eq_some_iff_idxOf hnodup ha k
    rw [hk, Option.some.injEq] at hidx
    by_cases hb : b = a
    · simp [hb, hself, hidx.mp hb]
    · simp [hother b hb, mt hidx.mpr hb]

/-- A store that concerns neither the links nor the DRM connector. -/
structure Stores (old value : VkmsConfigConnector ι)
    (pass : DrmConnectorObject → DrmConnectorObject) : Prop where
  links : value.possibleEncoders = old.possibleEncoders
  connector : value.connector = old.connector
  pass : ∀ encoders, pass ⟨old.status, old.requestedMode, encoders⟩ =
    ⟨value.status, value.requestedMode, encoders⟩

/-- What is stored, in the configuration that the device was made from. -/
def storeMade (made : VkmsConfig ι) (c : ι) (value : VkmsConfigConnector ι) : VkmsConfig ι :=
  made.setConnector c
    { made.connector c with status := value.status, requestedMode := value.requestedMode }

theorem storeMade_connector (made : VkmsConfig ι) (c : ι) (value : VkmsConfigConnector ι) (c' : ι) :
    (storeMade made c value).connector c' =
      if c' = c then
        { made.connector c with status := value.status, requestedMode := value.requestedMode }
      else made.connector c' :=
  Function.update_apply _ _ _ _

/-- The device is as if it had been made with the new value. -/
theorem made_setConnector {config made : VkmsConfig ι} {dev : DrmInstance}
    (h : config.Made dev made) {c : ι} (hc : c ∈ config.connectors)
    {value : VkmsConfigConnector ι} {pass : DrmConnectorObject → DrmConnectorObject}
    (hstores : Stores (config.connector c) value pass) :
    (config.setConnector c value).Made
      { dev with outputs := { dev.outputs with
        connectors := dev.outputs.connectors.modify (made.connectors.idxOf c) pass } }
      (storeMade made c value) := by
  have hcmade := h.remains.connectors.subset hc
  obtain ⟨hstatus, hmode, hrefers, hsub⟩ := h.remains.connector c hc
  constructor
  · exact VkmsConfig.linked_setConnector h.linked c (h.linked.connector c hcmade)
  · refine { h.valid with connector := fun c' hc' ↦ ?_ }
    rw [storeMade_connector]
    split_ifs with heq
    · exact h.valid.connector c hcmade
    · exact h.valid.connector c' hc'
  · have hobjects : made.connectors.map (storeMade made c value).connectorObject =
        (made.connectors.map made.connectorObject).modify (made.connectors.idxOf c) pass := by
      refine map_eq_modify h.linked.connectors hcmade ?_ fun c' hc' ↦ ?_
      · simp only [VkmsConfig.connectorObject, storeMade_connector, if_true]
        rw [← hstatus, ← hmode, hstores.pass]
        rfl
      · simp only [VkmsConfig.connectorObject, storeMade_connector, if_neg hc']
        rfl
    show { dev.outputs with
      connectors := dev.outputs.connectors.modify (made.connectors.idxOf c) pass } =
        { made.outputInit with
          connectors := made.connectors.map (storeMade made c value).connectorObject }
    rw [hobjects, h.outputs]
    rfl
  · refine { h.remains with connector := fun c' hc' ↦ ?_ }
    rw [storeMade_connector]
    by_cases heq : c' = c
    · subst heq
      simp only [VkmsConfig.setConnector, Function.update_self, if_true, true_and]
      exact ⟨hstores.connector.trans hrefers, hstores.links ▸ hsub⟩
    · simp only [VkmsConfig.setConnector, Function.update_of_ne heq, if_neg heq]
      exact h.remains.connector c' hc'
  · intro c' hc'
    rw [storeMade_connector]
    split_ifs with heq
    · subst heq
      exact h.refers c' hcmade
    · exact h.refers c' hc'

/-- The status and the mode of a DRM connector follow those of the configuration. -/
theorem Sound.storeConnector (h : s.Sound) {c : ι} (hc : c ∈ s.config.connectors)
    {value : VkmsConfigConnector ι} {pass : DrmConnectorObject → DrmConnectorObject}
    (hstores : Stores (s.config.connector c) value pass) :
    (s.storeConnector c value pass).Sound := by
  have hlinked : (s.config.setConnector c value).Linked :=
    VkmsConfig.linked_setConnector h.linked c (hstores.links ▸ h.linked.connector c hc)
  have henabled := h.enabled
  cases hdev : s.dev with
  | none =>
    rw [hdev] at henabled
    have hstore : s.storeConnector c value pass =
        { s with config := s.config.setConnector c value } := by
      simp [VkmsConfigfsDevice.storeConnector, henabled]
    rw [hstore]
    exact {
      linked := hlinked, writeback := h.writeback, enabled := h.enabled, stale := h.stale
      made := fun dev hsome ↦ by
        rw [hdev] at hsome
        cases hsome }
  | some dev =>
    rw [hdev] at henabled
    obtain ⟨made, hmade⟩ := h.made dev hdev
    have hplace : value.connector = some (dev.number, made.connectors.idxOf c) := by
      rw [hstores.connector, (hmade.remains.connector c hc).2.2.1,
        hmade.refers c (hmade.remains.connectors.subset hc)]
    have hstore : s.storeConnector c value pass = { s with
        config := s.config.setConnector c value
        dev := some { dev with outputs := { dev.outputs with
          connectors := dev.outputs.connectors.modify (made.connectors.idxOf c) pass } } } := by
      simp [VkmsConfigfsDevice.storeConnector, henabled, hdev, hplace]
    rw [hstore]
    refine {
      linked := hlinked, writeback := h.writeback, enabled := henabled, stale := h.stale
      made := fun dev' hdev' ↦ ?_ }
    cases hdev'
    exact ⟨_, made_setConnector hmade hc hstores⟩

theorem referTo_connector (number count : Nat) (c : ι) :
    (s.referTo number count).connector c =
      if c ∈ s.config.connectors.take count then
        { s.config.connector c with connector := some (number, s.config.connectors.idxOf c) }
      else s.config.connector c := rfl

theorem referTo_possibleEncoders (number count : Nat) (c : ι) :
    ((s.referTo number count).connector c).possibleEncoders =
      (s.config.connector c).possibleEncoders := by
  rw [referTo_connector]
  split_ifs <;> rfl

theorem linked_referTo (h : s.config.Linked) (number count : Nat) :
    (s.referTo number count).Linked := by
  refine { h with connector := fun c hc ↦ ?_ }
  rw [referTo_possibleEncoders]
  exact h.connector c hc

/-- A device that has just been made. -/
theorem made_referTo (h : s.config.Linked) (hvalid : s.config.isValid = true) (number : Nat) :
    (s.referTo number s.config.connectors.length).Made
      ⟨number, (s.referTo number s.config.connectors.length).outputInit⟩
      (s.referTo number s.config.connectors.length) where
  linked := linked_referTo h number _
  valid := by
    refine { (VkmsConfig.isValid_iff h).mp hvalid with connector := fun c hc ↦ ?_ }
    rw [referTo_possibleEncoders]
    exact ((VkmsConfig.isValid_iff h).mp hvalid).connector c hc
  outputs := rfl
  remains := VkmsConfig.RemainsOf.refl _
  refers c hc := by
    have hc' : c ∈ s.config.connectors.take s.config.connectors.length := by
      rwa [List.take_length]
    rw [referTo_connector, if_pos hc']
    rfl

theorem Sound.deviceEnabledStore (h : s.Sound) (enabled : Bool) (creation : VkmsCreation) :
    (s.deviceEnabledStore enabled creation).2.Sound := by
  rw [VkmsConfigfsDevice.deviceEnabledStore]
  split_ifs with hcreate hvalid hdestroy
  · exact h
  · have hvalid' : s.config.isValid = true := by simpa using hvalid
    have hdisabled : s.enabled = false ∧ enabled = true := by simpa using hcreate
    cases creation with
    | created =>
      exact {
        linked := linked_referTo h.linked _ _
        writeback := h.writeback
        enabled := hdisabled.2
        made := fun dev hdev ↦ by
          cases hdev
          exact ⟨_, made_referTo h.linked hvalid' s.creations⟩
        stale := h.stale }
    | failed error connectors =>
      exact {
        linked := linked_referTo h.linked _ _
        writeback := h.writeback
        enabled := hdisabled.1
        made := fun dev hdev ↦ by cases hdev
        stale := h.stale }
  · have hdisabled : s.enabled = true ∧ enabled = false := by simpa using hdestroy
    exact {
      linked := h.linked
      writeback := h.writeback
      enabled := hdisabled.2
      made := fun dev hdev ↦ by cases hdev
      stale := h.stale }
  · have hsame : enabled = s.enabled := by
      cases enabled <;> cases henabled : s.enabled <;> simp_all
    rw [hsame]
    exact h

/-- A call keeps the device sound, whether it succeeds or not. -/
theorem Sound.call (h : s.Sound) (configfsCall : ConfigfsCall ι) :
    (s.call configfsCall).2.Sound := by
  have hlinked := h.linked
  cases configfsCall with
  | makePlane p =>
    exact h.makeGroup fun hp ↦
      ⟨VkmsConfig.linked_createPlane hlinked (by simpa using hp), h.writeback⟩
  | makeCrtc c =>
    refine h.makeGroup fun hc ↦
      ⟨VkmsConfig.linked_createCrtc hlinked (by simpa using hc), fun c' hc' ↦ ?_⟩
    by_cases hne : c' = c
    · simp [VkmsConfig.createCrtc, hne]
    · simp only [VkmsConfig.createCrtc, List.mem_append, List.mem_singleton, hne, or_false] at hc'
      simpa [VkmsConfig.createCrtc, hne] using h.writeback c' hc'
  | makeEncoder e =>
    exact h.makeGroup fun he ↦
      ⟨VkmsConfig.linked_createEncoder hlinked (by simpa using he), h.writeback⟩
  | makeConnector c =>
    exact h.makeGroup fun hc ↦
      ⟨VkmsConfig.linked_createConnector hlinked (by simpa using hc), h.writeback⟩
  | planeRelease p => exact h.release (s.config.shrinks_destroyPlane p)
  | crtcRelease c => exact h.release (s.config.shrinks_destroyCrtc c)
  | encoderRelease e => exact h.release (s.config.shrinks_destroyEncoder e)
  | connectorRelease c => exact h.release (s.config.shrinks_destroyConnector c)
  | planeAllowLink p c =>
    refine h.allowLink (fun hpresent hnew ↦ VkmsConfig.linked_setPlane hlinked p ?_) rfl rfl
    simp only [Bool.and_eq_true, decide_eq_true_eq, decide_eq_false_iff_not] at hpresent hnew
    exact VkmsConfig.links_concat (hlinked.plane p hpresent.1) hnew hpresent.2
  | planeDropLink p c => exact h.release (s.config.shrinks_detachPlane p c)
  | encoderAllowLink e c =>
    refine h.allowLink (fun hpresent hnew ↦ VkmsConfig.linked_setEncoder hlinked e ?_) rfl rfl
    simp only [Bool.and_eq_true, decide_eq_true_eq, decide_eq_false_iff_not] at hpresent hnew
    exact VkmsConfig.links_concat (hlinked.encoder e hpresent.1) hnew hpresent.2
  | encoderDropLink e c => exact h.release (s.config.shrinks_detachEncoder e c)
  | connectorAllowLink c e =>
    refine h.allowLink (fun hpresent hnew ↦ VkmsConfig.linked_setConnector hlinked c ?_) rfl rfl
    simp only [Bool.and_eq_true, decide_eq_true_eq, decide_eq_false_iff_not] at hpresent hnew
    exact VkmsConfig.links_concat (hlinked.connector c hpresent.1) hnew hpresent.2
  | connectorDropLink c e => exact h.release (s.config.shrinks_detachConnector c e)
  | planeTypeStore p type =>
    rw [VkmsConfigfsDevice.call]
    cases DrmPlaneType.ofNat? type with
    | none => split_ifs <;> exact h
    | some type =>
      simp only
      split_ifs with hp henabled
      · exact h
      · exact h.accept_disabled (by simpa using henabled)
          (VkmsConfig.linked_setPlane hlinked p (hlinked.plane p hp)) h.writeback
      · exact h
  | crtcWritebackStore c writeback =>
    rw [VkmsConfigfsDevice.call]
    split_ifs with hc hwriteback henabled
    · exact h
    · exact h
    · refine h.accept_disabled (by simpa using henabled) { hlinked with } fun c' hc' ↦ ?_
      by_cases hne : c' = c
      · simpa [hne] using hwriteback
      · simpa [hne] using h.writeback c' hc'
    · exact h
  | connectorStatusStore c status =>
    rw [VkmsConfigfsDevice.call]
    split_ifs with hc
    · cases DrmConnectorStatus.ofNat? status with
      | none => exact h
      | some status => exact h.storeConnector hc ⟨rfl, rfl, fun _ ↦ rfl⟩
    · exact h
  | connectorRequestedModeStore c mode =>
    rw [VkmsConfigfsDevice.call]
    split_ifs with hc hmode
    · exact h.storeConnector hc ⟨rfl, rfl, fun _ ↦ rfl⟩
    · exact h
    · exact h
  | deviceEnabledStore enabled creation => exact h.deviceEnabledStore enabled creation

theorem sound_empty : Sound ({} : VkmsConfigfsDevice ι) := by
  constructor
  · constructor <;> simp
  all_goals simp

theorem Sound.run (h : s.Sound) (calls : List (ConfigfsCall ι)) : (s.run calls).Sound := by
  induction calls generalizing s with
  | nil => exact h
  | cons configfsCall calls ih => exact ih (h.call configfsCall)

end VkmsConfigfsDevice

/-- **Runs of configfs.**  After any sequence of calls no link dangles; a device that is enabled is
complete and was made from a valid configuration, of which items and links may be gone since; each
connector that is left refers to its own DRM connector of this device, which has its status and its
mode; and no DRM connector of a device that is gone has been used. -/
theorem configfs_run (calls : List (ConfigfsCall ι)) :
    let s := VkmsConfigfsDevice.run {} calls
    s.config.Linked ∧ s.enabled = s.dev.isSome ∧ s.stale = false ∧
      ∀ dev ∈ s.dev, dev.outputs.Complete ∧
        (∃ made : VkmsConfig ι, made.isValid = true ∧ s.config.RemainsOf made ∧
          dev.outputs = made.outputInit) ∧
        (∀ c ∈ s.config.connectors, ∃ place object,
          (s.config.connector c).connector = some (dev.number, place) ∧
            dev.outputs.connectors[place]? = some object ∧
            object.status = (s.config.connector c).status ∧
            object.requestedMode = (s.config.connector c).requestedMode) ∧
        s.config.connectors.Pairwise fun c c' ↦
          (s.config.connector c).connector ≠ (s.config.connector c').connector := by
  intro s
  have hsound : s.Sound := VkmsConfigfsDevice.sound_empty.run calls
  refine ⟨hsound.linked, hsound.enabled, hsound.stale, fun dev hdev ↦ ?_⟩
  obtain ⟨made, hmade⟩ := hsound.made dev hdev
  refine ⟨hmade.complete,
    ⟨made, (VkmsConfig.isValid_iff hmade.linked).mpr hmade.valid, hmade.remains, hmade.outputs⟩,
    fun c hc ↦ ?_, ?_⟩
  · obtain ⟨hrefers, object, hobject⟩ := hmade.connectorObject hc
    exact ⟨_, object, hrefers, hobject⟩
  · refine hsound.linked.connectors.imp_of_mem fun hc hc' hne heq ↦ hne ?_
    rw [(hmade.connectorObject hc).1, (hmade.connectorObject hc').1, Option.some.injEq,
      Prod.mk.injEq] at heq
    exact (List.idxOf_inj (hmade.remains.connectors.subset hc)).mp heq.2

end VirtualDisplay
