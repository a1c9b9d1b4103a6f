import VirtualDisplay.Controller.Basic

/-!
# What the controller can be asked

`query_lease`, `query_permanent_display_count`, `query_display_state` and `query_display_manifest`
(`driver_controller.cpp`, `lease_store.cpp`) look at the store and leave it as it is.  The state of
the displays is a table of sixteen entries: the profiles of the manifest first, then the temporary
displays in the order of their ids, as far as they fit.

None of the four takes a slot, so they can be asked while a call of another client waits for the
backend.  What they say of a display is computed from its record or its profile alone
(`stateEntryFromRecord`, `stateEntryFromProfile`), and the identity of a temporary display in it is
the effective one, the one that its monitor has.  The remaining time of a lease is cut off at zero:
a lease that has expired and not been reaped yet is still reported, with no time left.

The table has places for sixteen displays, and the two counts are of all there are, so a caller can
see that some are missing.  Neither the lease nor the capability of a display is in its entry.
-/

set_option autoImplicit false

namespace VirtualDisplay

/-- What is said of a lease, which need not exist. -/
structure QueryLeaseResult where
  leaseId : UInt64 := 0
  temporaryDisplayCount : UInt32 := 0
  effectiveTimeoutMs : UInt32 := 0
  remainingMs : UInt32 := 0
  leaseExists : UInt32 := 0
  pendingDepartureCount : UInt32 := 0
  deriving DecidableEq, Repr, Inhabited

/-- What is said of permanent displays that are all alike. -/
structure PermanentDisplayCountResult where
  apiNamespace : Guid := kApiNamespaceGuid
  currentDisplayCount : UInt32 := 0
  maxDisplayCount : UInt32 := 0
  temporaryDisplayCount : UInt32 := 0
  width : UInt32 := 1920
  height : UInt32 := 1080
  physicalWidthMm : UInt32 := kDefaultPhysicalWidthMillimeters
  physicalHeightMm : UInt32 := kDefaultPhysicalHeightMillimeters
  refreshRateMillihz : UInt32 := 60000
  displayName : DisplayName := kDefaultName
  deriving DecidableEq, Repr, Inhabited

/-- The entries of a state; displays beyond them are not reported. -/
abbrev kMaxDisplayStateEntries : Nat := 16
def kDisplayStateKindPermanent : UInt32 := 1
def kDisplayStateKindTemporary : UInt32 := 2
def kDisplayStateFlagHdrSupported : UInt32 := 0x00000001
def kDisplayStateFlagRetainIdentity : UInt32 := 0x00000002
def kDisplayStateFlagRequestedResolutionOnly : UInt32 := 0x00000004

/-- What is said of a display, permanent or temporary.  Its lease is left out. -/
structure DisplayStateEntry where
  kind : UInt32 := 0
  flags : UInt32 := 0
  leaseId : UInt64 := 0
  displayId : UInt64 := 0
  containerId : Guid := {}
  connectorIndex : UInt32 := 0
  productCode : UInt32 := 0
  serialNumber : UInt32 := 0
  width : UInt32 := 0
  height : UInt32 := 0
  physicalWidthMm : UInt32 := 0
  physicalHeightMm : UInt32 := 0
  refreshRateMillihz : UInt32 := 0
  displayName : DisplayName := displayNameOfBytes []
  deriving DecidableEq, Repr, Inhabited

/-- What is said of all displays, the permanent ones first. -/
structure QueryDisplayStateResult where
  apiNamespace : Guid := kApiNamespaceGuid
  permanentDisplayCount : UInt32 := 0
  temporaryDisplayCount : UInt32 := 0
  entryCount : UInt32 := 0
  reserved : UInt32 := 0
  entries : Vector DisplayStateEntry kMaxDisplayStateEntries := Vector.replicate _ {}
  deriving DecidableEq, Repr, Inhabited

/-- The entry of a profile of the manifest. -/
def stateEntryFromProfile (profile : DisplayManifestProfile) : DisplayStateEntry :=
  let mode := (profile.allowedModes.toList[profile.nativeModeIndex.toNat]?).getD {}
  { kind := kDisplayStateKindPermanent
    flags :=
      (if profile.flags &&& kDisplayManifestProfileFlagHdrSupported ≠ 0 then
        kDisplayStateFlagHdrSupported else 0) |||
      (if profile.flags &&& kDisplayManifestProfileFlagRetainIdentity ≠ 0 then
        kDisplayStateFlagRetainIdentity else 0)
    displayId := profile.displayId
    containerId := profile.containerId
    connectorIndex := profile.connectorIndex
    productCode := profile.productCode
    serialNumber := profile.serialNumber
    width := mode.width
    height := mode.height
    physicalWidthMm := profile.physicalWidthMm
    physicalHeightMm := profile.physicalHeightMm
    refreshRateMillihz := mode.refreshRateMillihz
    displayName := profile.displayName }

/-- What is said of a temporary display. -/
def stateEntryFromRecord (record : TemporaryDisplayRecord) : DisplayStateEntry where
  kind := kDisplayStateKindTemporary
  flags :=
    kDisplayStateFlagHdrSupported |||
      (if record.retainIdentity then kDisplayStateFlagRetainIdentity else 0) |||
      (if record.requestedResolutionOnly then kDisplayStateFlagRequestedResolutionOnly else 0)
  displayId := record.displayId
  containerId := containerGuidFromDisplayId record.effectiveIdentity
  connectorIndex := record.connectorIndex
  productCode := (productCodeFromDisplayId record.effectiveIdentity).toUInt32
  serialNumber := serialNumberFromDisplayId record.effectiveIdentity
  width := record.width
  height := record.height
  physicalWidthMm := record.physicalWidthMm
  physicalHeightMm := record.physicalHeightMm
  refreshRateMillihz := record.refreshRateMillihz
  displayName := displayNameOfBytes (record.displayName.take (kDisplayNameChars - 1))

namespace DisplayStore

/-- How many temporary displays there are. -/
def temporaryDisplayCount (s : DisplayStore) : UInt32 := s.displaysById.size.toUInt32

/-- The remaining time is cut off at zero, and to the width of its field. -/
def queryLease (s : DisplayStore) (leaseId : UInt64) (now : TimePoint) : QueryLeaseResult :=
  match s.leasesById[leaseId]? with
  | none => { leaseId }
  | some lease =>
    { leaseId
      leaseExists := 1
      effectiveTimeoutMs := lease.timeoutMs
      remainingMs := UInt32.ofInt (max 0 ((lease.expiresAt - now).tdiv 1000000))
      temporaryDisplayCount :=
        (s.temporaryDisplays.countP fun display ↦ display.leaseId == leaseId).toUInt32
      pendingDepartureCount :=
        (s.temporaryDisplays.countP fun display ↦
          display.leaseId == leaseId && display.pendingDeparture).toUInt32 }

/-- The answer to the question for permanent displays that are all alike. -/
def queryPermanentDisplayCount (s : DisplayStore) : PermanentDisplayCountResult where
  currentDisplayCount := s.permanentDisplayCount
  maxDisplayCount := s.maxPermanentDisplays
  temporaryDisplayCount := s.displaysById.size.toUInt32
  width := s.permanentDisplaySettings.width
  height := s.permanentDisplaySettings.height
  physicalWidthMm := s.permanentDisplaySettings.physicalWidthMm
  physicalHeightMm := s.permanentDisplaySettings.physicalHeightMm
  refreshRateMillihz := s.permanentDisplaySettings.refreshRateMillihz
  displayName := s.permanentDisplaySettings.displayName

/-- The two loops fill the table up to its size. -/
def queryDisplayState (s : DisplayStore) : QueryDisplayStateResult :=
  let entries := (s.displayManifest.activeProfiles.map stateEntryFromProfile ++
    s.temporaryDisplays.map stateEntryFromRecord).take kMaxDisplayStateEntries
  { permanentDisplayCount := s.permanentDisplayCount
    temporaryDisplayCount := s.temporaryDisplayCount
    entryCount := entries.length.toUInt32
    entries := Vector.ofFn fun index ↦ entries.getD index {} }

end DisplayStore

end VirtualDisplay
