import Mathlib

/-!
# The control protocol

The requests and results that cross the control interface of the driver, and the checks a request
passes before it is acted on (`control_protocol.h`, `control_protocol.cpp`).

Fixed-width integers keep their width.  A `char[32]` display name is a vector of bytes; the
`string_view` and `string` values made from it are byte lists.  A validator returns the first
`ValidationError` it meets, in the order the checks stand in the source, and `ValidationError.none`
when there is none.  Where the source also fills in an out-parameter, that value is a definition of
its own (`validatedCreateTemporaryDisplay`).

## What is here

* The constants and the structures of the protocol header, with their defaults.
* `canonicalizeDisplayName` — the name without blanks at its ends; there is none if it is empty, or
  has bytes that cannot be shown.
* The validators, one for each request.  The profiles of a manifest are checked one after the other
  against the profiles before them (`validateProfiles`), which is where identities that occur twice
  are found.
* `ValidationError.of_ite_eq_none` — how a chain of checks is taken apart in proofs.

The padding of the structures is not modelled here.  It belongs to the bytes of a request
(`Ioctl/Requests.lean`).
-/

set_option autoImplicit false

namespace VirtualDisplay

/-! ## Identifiers and limits -/

/-- A GUID, in the four fields that Windows gives it. -/
structure Guid where
  data1 : UInt32 := 0
  data2 : UInt16 := 0
  data3 : UInt16 := 0
  data4 : Vector UInt8 8 := Vector.replicate 8 0
  deriving DecidableEq, Repr, Inhabited

/-- What every request carries in its first field, so that a request to another driver is told
apart. -/
def kApiNamespaceGuid : Guid where
  data1 := 0xa2864284
  data2 := 0x77fe
  data3 := 0x4336
  data4 := #v[0xa8, 0x28, 0x00, 0xfe, 0xec, 0x89, 0xeb, 0xac]

/-- The characters of a display name, its terminator among them. -/
abbrev kDisplayNameChars : Nat := 32

/-- How long a lease lives without a feed if the request does not say, and the bounds of what it may
say. -/
def kDefaultLeaseTimeoutMs : UInt32 := 10000
def kMinLeaseTimeoutMs : UInt32 := 3000
def kMaxLeaseTimeoutMs : UInt32 := 300000

/-- The least id a lease may have. -/
def kMinOpaqueLeaseId : UInt64 := 0x6000000000000000
abbrev kOwnerCapabilityBytes : Nat := 32

/-- The sizes and refresh rates a display may have. -/
def kMinWidth : UInt32 := 320
def kMinHeight : UInt32 := 200
def kMaxWidth : UInt32 := 7680
def kMaxHeight : UInt32 := 4320
def kMinRefreshRateMilliHz : UInt32 := 1

/-- The size of the panel that is announced, in millimeters, and its bounds: an EDID has a byte for
the centimeters. -/
def kDefaultPhysicalWidthMillimeters : UInt32 := 600
def kDefaultPhysicalHeightMillimeters : UInt32 := 340
def kMinPhysicalSizeMillimeters : UInt32 := 10
def kMaxPhysicalSizeMillimeters : UInt32 := 2550

/-- The peak luminance that an HDR display announces, and its bounds. -/
def kDefaultHdrMaxLuminanceNits : UInt32 := 1000
def kMinHdrMaxLuminanceNits : UInt32 := 400
def kMaxHdrMaxLuminanceNits : UInt32 := 2000

/-- The display gets an EDID of its own each time, and keeps no connector. -/
def kCreateTemporaryDisplayFlagEphemeralIdentity : UInt32 := 0x00000001

/-- The display offers the requested mode and no others. -/
def kCreateTemporaryDisplayFlagRequestedResolutionOnly : UInt32 := 0x00000002
def kCreateTemporaryDisplayKnownFlags : UInt32 :=
  kCreateTemporaryDisplayFlagEphemeralIdentity |||
    kCreateTemporaryDisplayFlagRequestedResolutionOnly
def kPermanentDisplayCountKnownFlags : UInt32 := 0

/-- The layout of the manifest that the driver understands. -/
def kDisplayManifestVersion : UInt32 := 3

/-- The slots of a manifest. -/
abbrev kMaxPermanentDisplayProfiles : Nat := 8

/-- The modes of a profile. -/
abbrev kMaxAllowedModesPerProfile : Nat := 4
def kDisplayManifestProfileFlagHdrSupported : UInt32 := 0x00000001
def kDisplayManifestProfileFlagRetainIdentity : UInt32 := 0x00000002
def kDisplayManifestProfileFlagPermanentIdentity : UInt32 := 0x00000004
def kDisplayManifestProfileKnownFlags : UInt32 :=
  kDisplayManifestProfileFlagHdrSupported ||| kDisplayManifestProfileFlagRetainIdentity |||
    kDisplayManifestProfileFlagPermanentIdentity

/-- What is done with the position and the orientation of a profile: nothing, or they are applied,
or applied and kept. -/
def kDisplayManifestLayoutPolicyNone : UInt32 := 0
def kDisplayManifestLayoutPolicyApply : UInt32 := 1
def kDisplayManifestLayoutPolicyApplyAndPersist : UInt32 := 2
def kDisplayManifestOrientationDefault : UInt32 := 0

/-! ## Requests and results -/

/-- The bytes of a `char[32]` name field. -/
abbrev DisplayName := Vector UInt8 kDisplayNameChars

/-- A name field that holds `bytes` and is zero behind them. -/
def displayNameOfBytes (bytes : List UInt8) : DisplayName :=
  Vector.ofFn fun i ↦ bytes.getD i 0

/-- `"Sunshine Display"`. -/
def kDefaultName : DisplayName :=
  displayNameOfBytes [0x53, 0x75, 0x6e, 0x73, 0x68, 0x69, 0x6e, 0x65, 0x20, 0x44, 0x69, 0x73, 0x70,
    0x6c, 0x61, 0x79]

/-- A graphics adapter, as Windows names it until the next boot. -/
structure AdapterLuid where
  lowPart : UInt32 := 0
  highPart : Int32 := 0
  deriving DecidableEq, Repr, Inhabited

/-- The request for a temporary display under a lease, which the request brings along or has brought
along before. -/
structure CreateTemporaryDisplayRequest where
  apiNamespace : Guid := kApiNamespaceGuid
  leaseId : UInt64 := 0
  displayId : UInt64 := 0
  width : UInt32 := 0
  height : UInt32 := 0
  physicalWidthMm : UInt32 := 0
  physicalHeightMm : UInt32 := 0
  refreshRateMillihz : UInt32 := 0
  requestedTimeoutMs : UInt32 := 0
  displayName : DisplayName := displayNameOfBytes []
  flags : UInt32 := 0
  hdrMaxLuminanceNits : UInt32 := 0
  deriving DecidableEq, Repr, Inhabited

/-- What a create returns: the connector the display got, and how long the lease lives. -/
structure CreateTemporaryDisplayResult where
  leaseId : UInt64 := 0
  displayId : UInt64 := 0
  osAdapterLuid : AdapterLuid := {}
  targetId : UInt32 := 0
  connectorIndex : UInt32 := 0
  effectiveTimeoutMs : UInt32 := 0
  deriving DecidableEq, Repr, Inhabited

/-- The request to render on another adapter. -/
structure SetRenderAdapterRequest where
  apiNamespace : Guid := kApiNamespaceGuid
  adapterLuid : AdapterLuid := {}
  flags : UInt32 := 0
  deriving DecidableEq, Repr, Inhabited

/-- The secret that the owner of a lease knows; whoever presents it may reclaim the displays and see
their pixels. -/
structure OwnerCapability where
  bytes : Vector UInt8 kOwnerCapabilityBytes := Vector.replicate kOwnerCapabilityBytes 0
  deriving DecidableEq, Repr, Inhabited

/-- A create that sets, or proves, the capability of its lease. -/
structure CreateTemporaryDisplayOwnedRequest where
  display : CreateTemporaryDisplayRequest := {}
  ownerCapability : OwnerCapability := {}
  deriving DecidableEq, Repr, Inhabited

/-- The request to move a display, and all displays of its lease, under a new lease. -/
structure ReclaimTemporaryDisplayRequest where
  apiNamespace : Guid := kApiNamespaceGuid
  displayId : UInt64 := 0
  newLeaseId : UInt64 := 0
  requestedTimeoutMs : UInt32 := 0
  reserved : UInt32 := 0
  ownerCapability : OwnerCapability := {}
  deriving DecidableEq, Repr, Inhabited

/-- What a reclaim returns: the display under its new lease. -/
structure ReclaimTemporaryDisplayResult where
  leaseId : UInt64 := 0
  displayId : UInt64 := 0
  connectorIndex : UInt32 := 0
  effectiveTimeoutMs : UInt32 := 0
  temporaryDisplayCount : UInt32 := 0
  deriving DecidableEq, Repr, Inhabited

/-- A request about one display of a lease. -/
structure LeaseDisplayRequest where
  apiNamespace : Guid := kApiNamespaceGuid
  leaseId : UInt64 := 0
  displayId : UInt64 := 0
  deriving DecidableEq, Repr, Inhabited

/-- A request about a lease as a whole; a feed may bring a new timeout along. -/
structure LeaseRequest where
  apiNamespace : Guid := kApiNamespaceGuid
  leaseId : UInt64 := 0
  requestedTimeoutMs : UInt32 := 0
  reserved : UInt32 := 0
  deriving DecidableEq, Repr, Inhabited

/-- The request for so many permanent displays that are all alike. -/
structure PermanentDisplayCountRequest where
  apiNamespace : Guid := kApiNamespaceGuid
  displayCount : UInt32 := 0
  flags : UInt32 := 0
  width : UInt32 := 1920
  height : UInt32 := 1080
  physicalWidthMm : UInt32 := kDefaultPhysicalWidthMillimeters
  physicalHeightMm : UInt32 := kDefaultPhysicalHeightMillimeters
  refreshRateMillihz : UInt32 := 60000
  displayName : DisplayName := kDefaultName
  deriving DecidableEq, Repr, Inhabited

/-- A mode that a profile offers. -/
structure DisplayMode where
  width : UInt32 := 0
  height : UInt32 := 0
  refreshRateMillihz : UInt32 := 0
  deriving DecidableEq, Repr, Inhabited

/-- `"SDD"` with its terminator. -/
def kDefaultManufacturerId : Vector UInt8 4 := #v[0x53, 0x44, 0x44, 0]

/-- A permanent display: its place, its identity, its modes and how it is laid out. -/
structure DisplayManifestProfile where
  flags : UInt32 := 0
  connectorIndex : UInt32 := 0
  displayId : UInt64 := 0
  containerId : Guid := {}
  manufacturerId : Vector UInt8 4 := kDefaultManufacturerId
  productCode : UInt32 := 0
  serialNumber : UInt32 := 0
  physicalWidthMm : UInt32 := 0
  physicalHeightMm : UInt32 := 0
  nativeModeIndex : UInt32 := 0
  allowedModeCount : UInt32 := 0
  layoutPolicy : UInt32 := 0
  positionX : Int32 := 0
  positionY : Int32 := 0
  orientation : UInt32 := 0
  allowedModes : Vector DisplayMode kMaxAllowedModesPerProfile := Vector.replicate _ {}
  displayName : DisplayName := displayNameOfBytes []
  deriving DecidableEq, Repr, Inhabited

/-- The permanent displays as a whole.  Its slots beyond `profileCount` are not looked at. -/
structure DisplayManifest where
  apiNamespace : Guid := kApiNamespaceGuid
  version : UInt32 := kDisplayManifestVersion
  profileCount : UInt32 := 0
  maxProfileCount : UInt32 := 0
  reserved : UInt32 := 0
  profiles : Vector DisplayManifestProfile kMaxPermanentDisplayProfiles := Vector.replicate _ {}
  deriving DecidableEq, Repr, Inhabited

/-- The profiles a manifest declares in use: the first `profileCount` of its slots. -/
def DisplayManifest.activeProfiles (manifest : DisplayManifest) : List DisplayManifestProfile :=
  manifest.profiles.toList.take manifest.profileCount.toNat

/-- Why a request is refused before it is looked at in the store. -/
inductive ValidationError where
  | none
  | wrongApiNamespace
  | missingLeaseId
  | missingDisplayId
  | missingOwnerCapability
  | invalidFlags
  | invalidWidth
  | invalidHeight
  | invalidPhysicalSize
  | invalidHdrLuminance
  | invalidRefreshRate
  | invalidDisplayName
  | permanentDisplayCountTooHigh
  | invalidManifestVersion
  | invalidConnectorIndex
  | invalidModeCount
  | invalidLayoutPolicy
  | invalidOrientation
  | invalidManufacturerId
  | invalidProductCode
  | duplicateManifestIdentity
  | invalidReservedField
  | invalidContainerId
  | invalidSerialNumber
  deriving DecidableEq, Repr, Inhabited

/-- A create that has passed its checks, with its defaults filled in. -/
structure ValidatedCreateTemporaryDisplay where
  request : CreateTemporaryDisplayRequest := {}
  effectiveTimeoutMs : UInt32 := 0
  displayName : List UInt8 := []
  deriving DecidableEq, Repr, Inhabited

/-! ## Names and defaults -/

/-- The first check of every request. -/
def isValidApiNamespace (guid : Guid) : Bool := guid == kApiNamespaceGuid

/-- The bytes before the first zero byte, without trailing blanks. -/
def trimDisplayName (displayName : DisplayName) : List UInt8 :=
  (displayName.toList.takeWhile (· != 0)).rdropWhile (· == 0x20)

/-- The trimmed name written back over zeros, if it is neither empty nor unterminated and holds
printable ASCII only. -/
def canonicalizeDisplayName (input : DisplayName) : Option DisplayName :=
  let value := trimDisplayName input
  if value.length = 0 ∨ kDisplayNameChars ≤ value.length then none
  else if value.any fun ch ↦ ch < 0x20 || 0x7e < ch then none
  else some (displayNameOfBytes value)

/-- The timeout that a lease gets: the default for a zero, and the nearest bound for one out of
bounds. -/
def normalizeTimeoutMs (requestedTimeoutMs : UInt32) : UInt32 :=
  if requestedTimeoutMs = 0 then kDefaultLeaseTimeoutMs
  else if requestedTimeoutMs < kMinLeaseTimeoutMs then kMinLeaseTimeoutMs
  else if kMaxLeaseTimeoutMs < requestedTimeoutMs then kMaxLeaseTimeoutMs
  else requestedTimeoutMs

/-- `value`, or `fallback` where `value` is zero. -/
def orDefault (value fallback : UInt32) : UInt32 := if value = 0 then fallback else value

/-- The request with its zeros replaced by defaults, and its name by a canonical one. -/
def setDefaultPermanentDisplaySettings (request : PermanentDisplayCountRequest) :
    PermanentDisplayCountRequest :=
  { request with
    width := orDefault request.width 1920
    height := orDefault request.height 1080
    physicalWidthMm := orDefault request.physicalWidthMm kDefaultPhysicalWidthMillimeters
    physicalHeightMm := orDefault request.physicalHeightMm kDefaultPhysicalHeightMillimeters
    refreshRateMillihz := orDefault request.refreshRateMillihz 60000
    displayName :=
      if trimDisplayName request.displayName = [] then kDefaultName
      else (canonicalizeDisplayName request.displayName).getD request.displayName }

/-! ## Validation -/

/-- The pixels of the largest mode. -/
def kMaxModePixels : UInt64 := 7680 * 4320

/-- Three capital letters and a terminator. -/
def validManufacturerId (manufacturerId : Vector UInt8 4) : Bool :=
  (manufacturerId.toList.take 3).all (fun ch ↦ 0x41 ≤ ch && ch ≤ 0x5a) && manufacturerId[3] == 0

/-- A GUID that has not been set. -/
def isZeroGuid (guid : Guid) : Bool := guid == {}

/-- A mode within the bounds, whose pixels per second a timing can hold. -/
def validateDisplayMode (width height refreshRateMillihz : UInt32) : ValidationError :=
  if width < kMinWidth ∨ kMaxWidth < width then .invalidWidth
  else if height < kMinHeight ∨ kMaxHeight < height then .invalidHeight
  else if refreshRateMillihz < kMinRefreshRateMilliHz then .invalidRefreshRate
  else
    let pixels := width.toUInt64 * height.toUInt64
    if pixels = 0 ∨ kMaxModePixels < pixels then .invalidWidth
    else .none

/-- The physical size is outside the accepted range in one of its dimensions. -/
def physicalSizeOutOfRange (physicalWidthMm physicalHeightMm : UInt32) : Bool :=
  physicalWidthMm < kMinPhysicalSizeMillimeters || kMaxPhysicalSizeMillimeters < physicalWidthMm ||
    physicalHeightMm < kMinPhysicalSizeMillimeters || kMaxPhysicalSizeMillimeters < physicalHeightMm

/-- The checks of a create, in the order in which they are made. -/
def validateCreateTemporaryDisplay (request : CreateTemporaryDisplayRequest) : ValidationError :=
  if !isValidApiNamespace request.apiNamespace then .wrongApiNamespace
  else if request.leaseId < kMinOpaqueLeaseId then .missingLeaseId
  else if request.displayId = 0 then .missingDisplayId
  else if request.flags &&& ~~~kCreateTemporaryDisplayKnownFlags ≠ 0 then .invalidFlags
  else
    match validateDisplayMode request.width request.height request.refreshRateMillihz with
    | .none =>
      let hdrMaxLuminanceNits := orDefault request.hdrMaxLuminanceNits kDefaultHdrMaxLuminanceNits
      if physicalSizeOutOfRange (orDefault request.physicalWidthMm kDefaultPhysicalWidthMillimeters)
          (orDefault request.physicalHeightMm kDefaultPhysicalHeightMillimeters) then
        .invalidPhysicalSize
      else if hdrMaxLuminanceNits < kMinHdrMaxLuminanceNits ∨
          kMaxHdrMaxLuminanceNits < hdrMaxLuminanceNits then .invalidHdrLuminance
      else if (canonicalizeDisplayName request.displayName).isNone then .invalidDisplayName
      else .none
    | error => error

/-- What a successful `validateCreateTemporaryDisplay` stores through its out-parameter. -/
def validatedCreateTemporaryDisplay (request : CreateTemporaryDisplayRequest) :
    ValidatedCreateTemporaryDisplay :=
  let displayName := (canonicalizeDisplayName request.displayName).getD request.displayName
  { request :=
      { request with
        physicalWidthMm := orDefault request.physicalWidthMm kDefaultPhysicalWidthMillimeters
        physicalHeightMm := orDefault request.physicalHeightMm kDefaultPhysicalHeightMillimeters
        hdrMaxLuminanceNits := orDefault request.hdrMaxLuminanceNits kDefaultHdrMaxLuminanceNits
        displayName }
    effectiveTimeoutMs := normalizeTimeoutMs request.requestedTimeoutMs
    displayName := trimDisplayName displayName }

/-- The capability is the all-zero one, which stands for a missing capability. -/
def OwnerCapability.isZero (capability : OwnerCapability) : Bool :=
  capability.bytes.toList.all (· == 0)

/-- The capability of an owned create is looked at last. -/
def validateCreateTemporaryDisplayOwned (request : CreateTemporaryDisplayOwnedRequest) :
    ValidationError :=
  match validateCreateTemporaryDisplay request.display with
  | .none => if request.ownerCapability.isZero then .missingOwnerCapability else .none
  | error => error

/-- The checks of a reclaim. -/
def validateReclaimTemporaryDisplay (request : ReclaimTemporaryDisplayRequest) : ValidationError :=
  if !isValidApiNamespace request.apiNamespace then .wrongApiNamespace
  else if request.newLeaseId < kMinOpaqueLeaseId then .missingLeaseId
  else if request.displayId = 0 then .missingDisplayId
  else if request.reserved ≠ 0 then .invalidReservedField
  else if request.ownerCapability.isZero then .missingOwnerCapability
  else .none

/-- The checks of a request about one display. -/
def validateLeaseDisplayRequest (request : LeaseDisplayRequest) : ValidationError :=
  if !isValidApiNamespace request.apiNamespace then .wrongApiNamespace
  else if request.leaseId < kMinOpaqueLeaseId then .missingLeaseId
  else if request.displayId = 0 then .missingDisplayId
  else .none

/-- The checks of a request about a lease. -/
def validateLeaseRequest (request : LeaseRequest) : ValidationError :=
  if !isValidApiNamespace request.apiNamespace then .wrongApiNamespace
  else if request.reserved ≠ 0 then .invalidReservedField
  else if request.leaseId < kMinOpaqueLeaseId then .missingLeaseId
  else .none

/-- The checks of a request for permanent displays that are all alike. -/
def validatePermanentDisplayCount (request : PermanentDisplayCountRequest)
    (maxDisplayCount : UInt32) : ValidationError :=
  if !isValidApiNamespace request.apiNamespace then .wrongApiNamespace
  else if request.flags &&& ~~~kPermanentDisplayCountKnownFlags ≠ 0 then .invalidFlags
  else if maxDisplayCount < request.displayCount then .permanentDisplayCountTooHigh
  else
    match validateDisplayMode request.width request.height request.refreshRateMillihz with
    | .none =>
      if physicalSizeOutOfRange request.physicalWidthMm request.physicalHeightMm then
        .invalidPhysicalSize
      else if (canonicalizeDisplayName request.displayName).isNone then .invalidDisplayName
      else .none
    | error => error

/-- The first error among the declared modes of a profile. -/
def validateModes : List DisplayMode → ValidationError
  | [] => .none
  | mode :: rest =>
    match validateDisplayMode mode.width mode.height mode.refreshRateMillihz with
    | .none => validateModes rest
    | error => error

/-- One pass of the profile loop of `validateDisplayManifest`.  The `used_*` arrays of the source
hold the connectors and identities of the profiles already passed; here those are `previous`. -/
def validateProfile (maxDisplayCount : UInt32) (previous : List DisplayManifestProfile)
    (profile : DisplayManifestProfile) : ValidationError :=
  if profile.flags &&& ~~~kDisplayManifestProfileKnownFlags ≠ 0 then .invalidFlags
  else if profile.flags &&& kDisplayManifestProfileFlagPermanentIdentity = 0 then .invalidFlags
  else if maxDisplayCount ≤ profile.connectorIndex ∨
      kMaxPermanentDisplayProfiles ≤ profile.connectorIndex.toNat ∨
      previous.any (·.connectorIndex == profile.connectorIndex) then .invalidConnectorIndex
  else if profile.displayId = 0 then .missingDisplayId
  else if isZeroGuid profile.containerId then .invalidContainerId
  else if profile.productCode = 0 then .invalidProductCode
  else if profile.serialNumber = 0 then .invalidSerialNumber
  else if 0xffff < profile.productCode then .invalidProductCode
  else if previous.any fun used ↦
      used.displayId == profile.displayId || used.containerId == profile.containerId ||
        used.productCode == profile.productCode || used.serialNumber == profile.serialNumber then
    .duplicateManifestIdentity
  else if !validManufacturerId profile.manufacturerId then .invalidManufacturerId
  else if physicalSizeOutOfRange profile.physicalWidthMm profile.physicalHeightMm then
    .invalidPhysicalSize
  else if profile.allowedModeCount = 0 ∨
      kMaxAllowedModesPerProfile < profile.allowedModeCount.toNat ∨
      profile.allowedModeCount ≤ profile.nativeModeIndex then .invalidModeCount
  else if kDisplayManifestLayoutPolicyApplyAndPersist < profile.layoutPolicy then
    .invalidLayoutPolicy
  else if profile.orientation ≠ kDisplayManifestOrientationDefault then .invalidOrientation
  else
    match validateModes (profile.allowedModes.toList.take profile.allowedModeCount.toNat) with
    | .none =>
      if (canonicalizeDisplayName profile.displayName).isNone then .invalidDisplayName else .none
    | error => error

/-- Each profile is checked against the ones before it. -/
def validateProfiles (maxDisplayCount : UInt32) :
    List DisplayManifestProfile → List DisplayManifestProfile → ValidationError
  | _, [] => .none
  | previous, profile :: rest =>
    match validateProfile maxDisplayCount previous profile with
    | .none => validateProfiles maxDisplayCount (previous ++ [profile]) rest
    | error => error

/-- The checks of a manifest: its header, its counts, and its profiles in turn. -/
def validateDisplayManifest (manifest : DisplayManifest) (maxDisplayCount : UInt32) :
    ValidationError :=
  if !isValidApiNamespace manifest.apiNamespace then .wrongApiNamespace
  else if manifest.reserved ≠ 0 then .invalidReservedField
  else if manifest.version ≠ kDisplayManifestVersion then .invalidManifestVersion
  else if maxDisplayCount < manifest.profileCount ∨
      kMaxPermanentDisplayProfiles < manifest.profileCount.toNat then .permanentDisplayCountTooHigh
  else if manifest.maxProfileCount < manifest.profileCount ∨
      maxDisplayCount < manifest.maxProfileCount ∨
      kMaxPermanentDisplayProfiles < manifest.maxProfileCount.toNat then
    .permanentDisplayCountTooHigh
  else validateProfiles maxDisplayCount [] manifest.activeProfiles

/-! ## What an accepted request satisfies -/

/-- A chain of checks that ends without an error passed its first check. -/
theorem ValidationError.of_ite_eq_none {failed : Prop} [Decidable failed]
    {error rest : ValidationError} (hne : error ≠ .none)
    (h : (if failed then error else rest) = .none) : ¬failed ∧ rest = .none := by
  by_cases hf : failed
  · rw [if_pos hf] at h; exact absurd h hne
  · rw [if_neg hf] at h; exact ⟨hf, h⟩

theorem validateLeaseDisplayRequest_eq_none {request : LeaseDisplayRequest} :
    validateLeaseDisplayRequest request = .none ↔
      isValidApiNamespace request.apiNamespace = true ∧ kMinOpaqueLeaseId ≤ request.leaseId ∧
        request.displayId ≠ 0 := by
  unfold validateLeaseDisplayRequest
  split_ifs <;> simp_all [UInt64.not_lt]

theorem validateCreateTemporaryDisplay_ids {request : CreateTemporaryDisplayRequest}
    (h : validateCreateTemporaryDisplay request = .none) :
    isValidApiNamespace request.apiNamespace = true ∧ kMinOpaqueLeaseId ≤ request.leaseId ∧
      request.displayId ≠ 0 := by
  unfold validateCreateTemporaryDisplay at h
  obtain ⟨hns, h⟩ := ValidationError.of_ite_eq_none (by decide) h
  obtain ⟨hlease, h⟩ := ValidationError.of_ite_eq_none (by decide) h
  obtain ⟨hdisplay, -⟩ := ValidationError.of_ite_eq_none (by decide) h
  exact ⟨by simpa using hns, UInt64.not_lt.mp hlease, hdisplay⟩

theorem validateCreateTemporaryDisplayOwned_display
    {request : CreateTemporaryDisplayOwnedRequest}
    (h : validateCreateTemporaryDisplayOwned request = .none) :
    validateCreateTemporaryDisplay request.display = .none := by
  unfold validateCreateTemporaryDisplayOwned at h
  split at h
  · assumption
  · rename_i hne; exact absurd h hne

theorem validateReclaimTemporaryDisplay_newLeaseId {request : ReclaimTemporaryDisplayRequest}
    (h : validateReclaimTemporaryDisplay request = .none) :
    kMinOpaqueLeaseId ≤ request.newLeaseId := by
  rw [validateReclaimTemporaryDisplay] at h
  obtain ⟨-, h⟩ := ValidationError.of_ite_eq_none (by decide) h
  obtain ⟨hlease, -⟩ := ValidationError.of_ite_eq_none (by decide) h
  exact UInt64.not_lt.mp hlease

/-- The connector of an accepted profile lies below the number of permanent slots. -/
theorem validateProfile_connectorIndex {maxDisplayCount : UInt32}
    {previous : List DisplayManifestProfile} {profile : DisplayManifestProfile}
    (h : validateProfile maxDisplayCount previous profile = .none) :
    profile.connectorIndex < maxDisplayCount := by
  unfold validateProfile at h
  obtain ⟨-, h⟩ := ValidationError.of_ite_eq_none (by decide) h
  obtain ⟨-, h⟩ := ValidationError.of_ite_eq_none (by decide) h
  obtain ⟨hconnector, -⟩ := ValidationError.of_ite_eq_none (by decide) h
  exact UInt32.not_le.mp fun hle ↦ hconnector (.inl hle)

theorem validateProfiles_connectorIndex {maxDisplayCount : UInt32}
    {previous rest : List DisplayManifestProfile}
    (h : validateProfiles maxDisplayCount previous rest = .none) :
    ∀ profile ∈ rest, profile.connectorIndex < maxDisplayCount := by
  induction rest generalizing previous with
  | nil => simp
  | cons profile rest ih =>
    unfold validateProfiles at h
    split at h
    · rename_i hprofile
      rintro p (_ | ⟨_, hp⟩)
      · exact validateProfile_connectorIndex hprofile
      · exact ih h p hp
    · rename_i hne; exact absurd h hne

theorem validateDisplayManifest_connectorIndex {manifest : DisplayManifest}
    {maxDisplayCount : UInt32} (h : validateDisplayManifest manifest maxDisplayCount = .none) :
    ∀ profile ∈ manifest.activeProfiles, profile.connectorIndex < maxDisplayCount := by
  unfold validateDisplayManifest at h
  obtain ⟨-, h⟩ := ValidationError.of_ite_eq_none (by decide) h
  obtain ⟨-, h⟩ := ValidationError.of_ite_eq_none (by decide) h
  obtain ⟨-, h⟩ := ValidationError.of_ite_eq_none (by decide) h
  obtain ⟨-, h⟩ := ValidationError.of_ite_eq_none (by decide) h
  obtain ⟨-, h⟩ := ValidationError.of_ite_eq_none (by decide) h
  exact validateProfiles_connectorIndex h

/-! ## A request to try things on -/

/-- A request for a display of the usual size. -/
def exampleRequest (leaseId displayId : UInt64) : CreateTemporaryDisplayRequest where
  leaseId := leaseId
  displayId := displayId
  width := 1920
  height := 1080
  refreshRateMillihz := 60000
  displayName := kDefaultName

/-- A capability that is not zero. -/
def exampleCapability : OwnerCapability where
  bytes := Vector.replicate _ 7

end VirtualDisplay
