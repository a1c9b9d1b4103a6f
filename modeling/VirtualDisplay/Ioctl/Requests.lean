import VirtualDisplay.Broker.Commands
import VirtualDisplay.Controller.Queries
import VirtualDisplay.FrameRing.Server
import VirtualDisplay.Lib.Bits

/-!
# The bytes of a request

`read_input` of `ioctl_dispatcher.cpp` copies the bytes behind a pointer into a request structure.
`Pod.load` is that copy: each field at its offset in the structure, the lowest byte first.  The
sizes are those the protocol header asserts, padding included.

## What is here

* `u8At`, `u16At`, `u32At`, `u64At`, `guidAt` — a field at an offset.  Bytes behind the end of the
  image read as zero; the dispatcher has compared sizes before it loads anything, so none is read.
* `Pod` — a class, with an instance for each request.  The offsets in an instance are those that the
  compiler gives the fields, and nested structures are loaded by their own instance.
* `IoctlOutput`, `IoctlOutput.byteSize` — what is written back.  The bytes of results are not
  modelled; only their number is, because the dispatcher compares it with the room there is.
-/

set_option autoImplicit false

namespace VirtualDisplay

/-! ## Fields -/

/-- The bytes behind a pointer. -/
abbrev Image := List UInt8

/-- A byte of the image; those behind its end count as zero. -/
def u8At (image : Image) (offset : Nat) : UInt8 := image.getD offset 0

/-- Two bytes, the lower one first. -/
def u16At (image : Image) (offset : Nat) : UInt16 :=
  (u8At image offset).toUInt16 ||| ((u8At image (offset + 1)).toUInt16 <<< 8)

/-- Four bytes, the lowest one first. -/
def u32At (image : Image) (offset : Nat) : UInt32 :=
  Bits.word32 (u8At image offset) (u8At image (offset + 1)) (u8At image (offset + 2))
    (u8At image (offset + 3))

/-- Eight bytes, as two words. -/
def u64At (image : Image) (offset : Nat) : UInt64 :=
  (u32At image offset).toUInt64 ||| ((u32At image (offset + 4)).toUInt64 <<< 32)

/-- Four bytes as a signed number. -/
def i32At (image : Image) (offset : Nat) : Int32 := (u32At image offset).toInt32

/-- So many bytes as they stand. -/
def bytesAt (image : Image) (offset count : Nat) : Vector UInt8 count :=
  Vector.ofFn fun index ↦ u8At image (offset + index)

/-- A GUID as it lies in memory. -/
def guidAt (image : Image) (offset : Nat) : Guid where
  data1 := u32At image offset
  data2 := u16At image (offset + 4)
  data3 := u16At image (offset + 6)
  data4 := bytesAt image (offset + 8) 8

/-! ## Structures -/

/-- A structure that is copied as bytes. -/
class Pod (T : Type) where
  byteSize : Nat
  load : Image → Nat → T

instance : Pod CreateTemporaryDisplayRequest where
  byteSize := 96
  load image offset :=
    { apiNamespace := guidAt image offset
      leaseId := u64At image (offset + 16)
      displayId := u64At image (offset + 24)
      width := u32At image (offset + 32)
      height := u32At image (offset + 36)
      physicalWidthMm := u32At image (offset + 40)
      physicalHeightMm := u32At image (offset + 44)
      refreshRateMillihz := u32At image (offset + 48)
      requestedTimeoutMs := u32At image (offset + 52)
      displayName := bytesAt image (offset + 56) kDisplayNameChars
      flags := u32At image (offset + 88)
      hdrMaxLuminanceNits := u32At image (offset + 92) }

instance : Pod CreateTemporaryDisplayOwnedRequest where
  byteSize := 128
  load image offset :=
    { display := Pod.load image offset
      ownerCapability := { bytes := bytesAt image (offset + 96) kOwnerCapabilityBytes } }

instance : Pod ReclaimTemporaryDisplayRequest where
  byteSize := 72
  load image offset :=
    { apiNamespace := guidAt image offset
      displayId := u64At image (offset + 16)
      newLeaseId := u64At image (offset + 24)
      requestedTimeoutMs := u32At image (offset + 32)
      reserved := u32At image (offset + 36)
      ownerCapability := { bytes := bytesAt image (offset + 40) kOwnerCapabilityBytes } }

instance : Pod SetRenderAdapterRequest where
  byteSize := 32
  load image offset :=
    { apiNamespace := guidAt image offset
      adapterLuid := { lowPart := u32At image (offset + 16), highPart := i32At image (offset + 20) }
      flags := u32At image (offset + 24) }

instance : Pod LeaseDisplayRequest where
  byteSize := 32
  load image offset :=
    { apiNamespace := guidAt image offset
      leaseId := u64At image (offset + 16)
      displayId := u64At image (offset + 24) }

instance : Pod LeaseRequest where
  byteSize := 32
  load image offset :=
    { apiNamespace := guidAt image offset
      leaseId := u64At image (offset + 16)
      requestedTimeoutMs := u32At image (offset + 24)
      reserved := u32At image (offset + 28) }

instance : Pod PermanentDisplayCountRequest where
  byteSize := 76
  load image offset :=
    { apiNamespace := guidAt image offset
      displayCount := u32At image (offset + 16)
      flags := u32At image (offset + 20)
      width := u32At image (offset + 24)
      height := u32At image (offset + 28)
      physicalWidthMm := u32At image (offset + 32)
      physicalHeightMm := u32At image (offset + 36)
      refreshRateMillihz := u32At image (offset + 40)
      displayName := bytesAt image (offset + 44) kDisplayNameChars }

instance : Pod DisplayMode where
  byteSize := 12
  load image offset :=
    { width := u32At image offset
      height := u32At image (offset + 4)
      refreshRateMillihz := u32At image (offset + 8) }

instance : Pod DisplayManifestProfile where
  byteSize := 160
  load image offset :=
    { flags := u32At image offset
      connectorIndex := u32At image (offset + 4)
      displayId := u64At image (offset + 8)
      containerId := guidAt image (offset + 16)
      manufacturerId := bytesAt image (offset + 32) 4
      productCode := u32At image (offset + 36)
      serialNumber := u32At image (offset + 40)
      physicalWidthMm := u32At image (offset + 44)
      physicalHeightMm := u32At image (offset + 48)
      nativeModeIndex := u32At image (offset + 52)
      allowedModeCount := u32At image (offset + 56)
      layoutPolicy := u32At image (offset + 60)
      positionX := i32At image (offset + 64)
      positionY := i32At image (offset + 68)
      orientation := u32At image (offset + 72)
      allowedModes := Vector.ofFn fun index ↦ Pod.load image (offset + 76 + 12 * index)
      displayName := bytesAt image (offset + 124) kDisplayNameChars }

instance : Pod DisplayManifest where
  byteSize := 1312
  load image offset :=
    { apiNamespace := guidAt image offset
      version := u32At image (offset + 16)
      profileCount := u32At image (offset + 20)
      maxProfileCount := u32At image (offset + 24)
      reserved := u32At image (offset + 28)
      profiles := Vector.ofFn fun index ↦ Pod.load image (offset + 32 + 160 * index) }

/-! ## Results -/

/-- The version of the capabilities, and the one capability there is. -/
def kFrameTransportCapabilitiesVersion : UInt32 := 1
def kFrameTransportCapabilityKeyedMutexRing : UInt64 := 1

/-- What the driver says of its frame transport: all zeros in a build without one. -/
structure FrameTransportCapabilities where
  apiNamespace : Guid := kApiNamespaceGuid
  version : UInt32 := kFrameTransportCapabilitiesVersion
  size : UInt32 := 40
  capabilities : UInt64 := 0
  maxRingSlots : UInt32 := 0
  deriving DecidableEq, Repr

/-- The version that the driver speaks. -/
structure ProtocolVersion where
  apiNamespace : Guid := kApiNamespaceGuid
  major : UInt16 := 3
  minor : UInt16 := 8
  patch : UInt16 := 0
  deriving DecidableEq, Repr

/-- The sizes of the results that are checked before a call is made. -/
abbrev kCreateTemporaryDisplayResultSize : Nat := 56
abbrev kReclaimTemporaryDisplayResultSize : Nat := 48
abbrev kPermanentDisplayCountResultSize : Nat := 80
abbrev kDisplayManifestSize : Nat := 1312

/-- What a dispatch can put into the output buffer. -/
inductive IoctlOutput where
  | frameTransportCapabilities (value : FrameTransportCapabilities)
  | protocolVersion (value : ProtocolVersion)
  | createTemporaryDisplay (value : CreateTemporaryDisplayResult)
  | reclaimTemporaryDisplay (value : ReclaimTemporaryDisplayResult)
  | queryLease (value : QueryLeaseResult)
  | permanentDisplayCount (value : PermanentDisplayCountResult)
  | displayState (value : QueryDisplayStateResult)
  | displayManifest (value : DisplayManifest)
  deriving DecidableEq

/-- The size of the structure that is written. -/
def IoctlOutput.byteSize : IoctlOutput → Nat
  | frameTransportCapabilities _ => 40
  | protocolVersion _ => 24
  | createTemporaryDisplay _ => kCreateTemporaryDisplayResultSize
  | reclaimTemporaryDisplay _ => kReclaimTemporaryDisplayResultSize
  | queryLease _ => 48
  | permanentDisplayCount _ => kPermanentDisplayCountResultSize
  | displayState _ => 1696
  | displayManifest _ => kDisplayManifestSize

end VirtualDisplay
