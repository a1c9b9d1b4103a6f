import Mathlib

/-!
# EDIDs

The 256 bytes a virtual monitor identifies itself with (`edid.h`, `edid.cpp`): a base block with
the identity, the preferred timing and the descriptors, and a CTA extension block with the HDR
capabilities.  `createEdid` writes them from a set of options, and the `read…` and `has…`
functions are the decoders the tests and the backend use.

A block is written through a span, a few bytes at an offset; `Block.write` is that step, and the
writers of the source are sequences of it.  The code for the maximum luminance is computed in
floating point and is a parameter here.

## What is here

* `sanitizedOptions` — the options within their limits; everything else is computed from these.
* `makePreferredTiming`, `detailedTimingOptions` — the timing of the base block.  A mode whose clock
  does not fit is announced with a lower refresh rate.
* `createBaseBlock`, `createExtensionBlock`, `createEdid` — the writers, in the order of the source.
* `hasValidEdidChecksums`, `readHdrStaticMetadata`, `readMonitorName` and the other decoders.

Bytes are read with `byteOf`, which yields zero outside of a block; `Edid/CtaBlocks.lean` says that
the walk over the data blocks does not get there.  `Edid/Timing.lean` is about the timing, and
`Edid/RoundTrip.lean` about what the decoders read.
-/

set_option autoImplicit false

namespace VirtualDisplay

/-- An EDID here has two blocks: the base block, and one extension in the format of CTA-861. -/
abbrev kEdidBlockSize : Nat := 128
abbrev kEdidSize : Nat := kEdidBlockSize * 2

/-- What an EDID is encoded from. -/
structure EdidOptions where
  manufacturerId : Vector UInt8 3 := #v[0x53, 0x44, 0x44]
  productCode : UInt16 := 0x1000
  serialNumber : UInt32 := 1
  width : UInt32 := 1920
  height : UInt32 := 1080
  physicalWidthMm : UInt32 := 600
  physicalHeightMm : UInt32 := 340
  refreshRateMillihz : UInt32 := 60000
  hdrMaxLuminanceNits : UInt32 := 1000
  monitorName : List UInt8 := "Sunshine Display".toUTF8.toList
  hdrSupported : Bool := true
  deriving DecidableEq, Repr

/-- The timing of the first detailed descriptor; the total of a line is its active and its blank
pixels together. -/
structure PreferredTiming where
  pixelClock10khz : UInt32 := 0
  horizontalActive : UInt16 := 0
  horizontalBlanking : UInt16 := 0
  verticalActive : UInt16 := 0
  verticalBlanking : UInt16 := 0
  deriving DecidableEq, Repr

/-! ## Spans of bytes -/

/-- The bytes of one block. -/
abbrev Block := Vector UInt8 kEdidBlockSize

/-- `data[offset]`; the offsets of the source are all in range. -/
def byteOf {size : Nat} (data : Vector UInt8 size) (offset : Nat) : UInt8 :=
  data[offset]?.getD 0

/-- Write the bytes from the offset on. -/
def Block.write (data : Block) (offset : Nat) (bytes : List UInt8) : Block :=
  Vector.ofFn fun index ↦
    if offset ≤ index.val ∧ index.val < offset + bytes.length then
      bytes.getD (index.val - offset) 0
    else data[index]

/-- `std::clamp`. -/
def clamp {α : Type} [LT α] [DecidableLT α] (value low high : α) : α :=
  if value < low then low else if high < value then high else value

/-- The lowest byte of a word. -/
def byte (value : UInt32) : UInt8 := (value &&& 0xff).toUInt8

/-- Two bytes at an offset, the lower one first. -/
def putLe16 (data : Block) (offset : Nat) (value : UInt16) : Block :=
  data.write offset [byte value.toUInt32, byte (value >>> 8).toUInt32]

/-- Four bytes at an offset, the lowest one first. -/
def putLe32 (data : Block) (offset : Nat) (value : UInt32) : Block :=
  data.write offset [byte value, byte (value >>> 8), byte (value >>> 16), byte (value >>> 24)]

/-! ## Timings -/

/-- A character outside `A` to `Z` counts as `A`. -/
def encodeManufacturerChar (ch : UInt8) : UInt16 :=
  if ch < 0x41 ∨ 0x5a < ch then 1 else (ch - 0x41 + 1).toUInt16

/-- Three letters of five bits each. -/
def encodeManufacturerId (manufacturerId : Vector UInt8 3) : UInt16 :=
  (encodeManufacturerChar manufacturerId[0] <<< 10) |||
    (encodeManufacturerChar manufacturerId[1] <<< 5) |||
    encodeManufacturerChar manufacturerId[2]

/-- Rounded up to a multiple of eight. -/
def align8 (value : UInt32) : UInt16 := ((value + 7) &&& ~~~7).toUInt16

/-- A length in whole centimeters, as the base block has it. -/
def physicalSizeCm (millimeters : UInt32) : UInt8 := (clamp ((millimeters + 5) / 10) 1 255).toUInt8

/-- A length in millimeters, as a detailed timing has it. -/
def physicalSizeMm (millimeters : UInt32) : UInt16 := (clamp millimeters 1 4095).toUInt16

/-- A fifth of the width, within what twelve bits can hold. -/
def horizontalBlanking (options : EdidOptions) : UInt16 :=
  align8 (clamp (options.width / 5) 160 2047)

/-- A twentieth of the height, within what ten bits can hold. -/
def verticalBlanking (options : EdidOptions) : UInt16 :=
  (clamp (options.height / 20) 45 1023).toUInt16

/-- The pixels of a frame, the blank ones included. -/
def preferredTotalPixels (options : EdidOptions) : UInt64 :=
  (options.width + (horizontalBlanking options).toUInt32).toUInt64 *
    (options.height + (verticalBlanking options).toUInt32).toUInt64

/-- The pixels per second; a mode of a refresh rate of zero is one of a millihertz. -/
def preferredPixelClockHz (options : EdidOptions) : UInt64 :=
  preferredTotalPixels options * (max options.refreshRateMillihz 1).toUInt64 / 1000

/-- The fastest clock that the sixteen bits of a detailed timing can hold. -/
def kMaxBaseDetailedTimingPixelClockHz : UInt64 := 0xffff * 10000

/-- The highest refresh rate that the byte of the range descriptor can hold. -/
def kMaxRangeDescriptorVerticalHz : UInt32 := 255

/-- The timing of a mode, with its clock in units of ten kilohertz. -/
def makePreferredTiming (options : EdidOptions) : PreferredTiming where
  pixelClock10khz := (clamp (preferredPixelClockHz options / 10000) 1 0xffff).toUInt32
  horizontalActive := options.width.toUInt16
  horizontalBlanking := horizontalBlanking options
  verticalActive := options.height.toUInt16
  verticalBlanking := verticalBlanking options

/-- The options with a refresh rate the base timing can express. -/
def detailedTimingOptions (options : EdidOptions) : EdidOptions :=
  if preferredPixelClockHz options ≤ kMaxBaseDetailedTimingPixelClockHz ∧
      options.refreshRateMillihz ≤ kMaxRangeDescriptorVerticalHz * 1000 then options
  else
    let safeOptions := { options with refreshRateMillihz := min options.refreshRateMillihz 60000 }
    if preferredPixelClockHz safeOptions ≤ kMaxBaseDetailedTimingPixelClockHz then safeOptions
    else
      let totalPixels := preferredTotalPixels safeOptions
      { safeOptions with
        refreshRateMillihz :=
          (max 1 (kMaxBaseDetailedTimingPixelClockHz * 1000 / totalPixels)).toUInt32 }

/-- The bounds of the peak luminance; one out of bounds becomes the nearer of them. -/
def kMinEdidHdrMaxLuminanceNits : UInt32 := 400
def kMaxEdidHdrMaxLuminanceNits : UInt32 := 2000

/-- The options within the bounds of the fields of an EDID. -/
def sanitizedOptions (options : EdidOptions) : EdidOptions :=
  { options with
    width := clamp options.width 1 4095
    height := clamp options.height 1 4095
    refreshRateMillihz := clamp options.refreshRateMillihz 1 0xffffffff
    physicalWidthMm := clamp options.physicalWidthMm 1 4095
    physicalHeightMm := clamp options.physicalHeightMm 1 4095
    hdrMaxLuminanceNits := clamp options.hdrMaxLuminanceNits kMinEdidHdrMaxLuminanceNits
      kMaxEdidHdrMaxLuminanceNits }

/-- The fields of the timing are twelve bits wide, and the upper four of two of them share a
byte. -/
def writeDetailedTiming (data : Block) (offset : Nat) (options : EdidOptions) : Block :=
  let timing := makePreferredTiming (detailedTimingOptions options)
  let hSyncOffset : UInt16 := clamp (timing.horizontalBlanking / 3) 8 255
  let hSyncWidth : UInt16 := clamp (timing.horizontalBlanking / 5) 8 255
  let vSyncOffset : UInt16 := 3
  let vSyncWidth : UInt16 := 5
  let physicalWidth := physicalSizeMm options.physicalWidthMm
  let physicalHeight := physicalSizeMm options.physicalHeightMm
  (putLe16 data offset timing.pixelClock10khz.toUInt16).write (offset + 2)
    [byte timing.horizontalActive.toUInt32,
      byte timing.horizontalBlanking.toUInt32,
      byte (((timing.horizontalActive.toUInt32 >>> 8) <<< 4) |||
        (timing.horizontalBlanking.toUInt32 >>> 8)),
      byte timing.verticalActive.toUInt32,
      byte timing.verticalBlanking.toUInt32,
      byte (((timing.verticalActive.toUInt32 >>> 8) <<< 4) |||
        (timing.verticalBlanking.toUInt32 >>> 8)),
      byte hSyncOffset.toUInt32,
      byte hSyncWidth.toUInt32,
      byte ((vSyncOffset.toUInt32 <<< 4) ||| vSyncWidth.toUInt32),
      byte (((hSyncOffset.toUInt32 >>> 8) <<< 6) ||| ((hSyncWidth.toUInt32 >>> 8) <<< 4)),
      byte physicalWidth.toUInt32,
      byte physicalHeight.toUInt32,
      byte (((physicalWidth.toUInt32 >>> 8) <<< 4) ||| (physicalHeight.toUInt32 >>> 8)),
      byte 0,
      byte 0,
      byte 0x1a]

/-! ## Descriptors -/

/-- The loop that drops the blanks at the end. -/
def dropTrailingSpaces (text : List UInt8) : List UInt8 :=
  text.rdropWhile (· == 0x20)

/-- So much of a text as fits, with blanks for what is not printable ASCII. -/
def sanitizedEdidText (text : List UInt8) (maxSize : Nat) : List UInt8 :=
  dropTrailingSpaces
    ((text.take maxSize).map fun ch ↦ if 0x20 ≤ ch ∧ ch ≤ 0x7e then ch else 0x20)

/-- A descriptor with a text: twelve characters at most, a line feed, and blanks behind it. -/
def writeTextDescriptor (data : Block) (offset : Nat) (descriptorType : UInt8)
    (text : List UInt8) : Block :=
  let data := data.write offset [0x00, 0x00, 0x00, descriptorType, 0x00]
  let data := data.write (offset + 5) (List.replicate 13 0x20)
  let safeText := sanitizedEdidText text 12
  let data := data.write (offset + 5) safeText
  data.write (offset + 5 + safeText.length) [0x0a]

/-- The descriptor of the range limits: those around the mode of the detailed timing. -/
def writeRangeDescriptor (data : Block) (offset : Nat) (options : EdidOptions) : Block :=
  let timing := makePreferredTiming (detailedTimingOptions options)
  let horizontalTotal : UInt32 :=
    timing.horizontalActive.toUInt32 + timing.horizontalBlanking.toUInt32
  let verticalTotal : UInt32 := timing.verticalActive.toUInt32 + timing.verticalBlanking.toUInt32
  let pixelHz : UInt64 := timing.pixelClock10khz.toUInt64 * 10000
  let horizontalKhz : UInt32 :=
    ((pixelHz + horizontalTotal.toUInt64 * 1000 - 1) / (horizontalTotal.toUInt64 * 1000)).toUInt32
  let verticalHz : UInt32 :=
    ((pixelHz + horizontalTotal.toUInt64 * verticalTotal.toUInt64 - 1) /
      (horizontalTotal.toUInt64 * verticalTotal.toUInt64)).toUInt32
  let maxPixelClock10mhz : UInt32 := (clamp ((pixelHz + 9999999) / 10000000) 30 255).toUInt32
  data.write offset
    [0x00, 0x00, 0x00, 0xfd, 0x00,
      byte (clamp (min 30 verticalHz) 1 255),
      byte (clamp (max 60 verticalHz) 1 255),
      30,
      byte (clamp (max 30 horizontalKhz) 1 255),
      byte maxPixelClock10mhz,
      0x20]

/-- The sum of the first `count` bytes from the offset on. -/
def byteSum {size : Nat} (data : Vector UInt8 size) (offset count : Nat) : UInt32 :=
  (List.range count).foldl (fun sum index ↦ sum + (byteOf data (offset + index)).toUInt32) 0

/-- The last byte, which makes the sum of the block a multiple of 256. -/
def writeChecksum (block : Block) : Block :=
  let sum := byteSum block 0 (kEdidBlockSize - 1)
  block.write (kEdidBlockSize - 1) [byte ((256 - (sum &&& 0xff)) &&& 0xff)]

/-! ## The two blocks -/

/-- The BT.2020 primaries and the D65 white point in ten-thousandths: Rx, Ry, Gx, Gy, Bx, By, Wx,
Wy. -/
def chromaticities : Vector Nat 8 := #v[7080, 2920, 1700, 7970, 1310, 460, 3127, 3290]

/-- A coordinate as a ten-bit fraction, rounded. -/
def chromaticityCoordinate (index : Fin 8) : UInt16 :=
  UInt16.ofNat ((chromaticities[index] * 1024 + 5000) / 10000)

/-- Replace the sRGB primaries; the two low bits of the coordinates share two bytes. -/
def writeChromaticities (base : Block) : Block :=
  (List.finRange 8).foldl
    (fun base index ↦
      let coordinate := (chromaticityCoordinate index).toUInt32
      let base := base.write (27 + index.val) [byte (coordinate >>> 2)]
      let low := 25 + index.val / 4
      base.write low
        [byteOf base low |||
          byte ((coordinate &&& 3) <<< UInt32.ofNat (6 - 2 * (index.val % 4)))])
    (base.write 25 [0, 0])

/-- The identity, the size and the colours: everything in front of the timings. -/
def writeIdentity (base : Block) (safeOptions : EdidOptions) : Block :=
  let base := base.write 0 [0x00, 0xff, 0xff, 0xff, 0xff, 0xff, 0xff, 0x00]
  let manufacturer := encodeManufacturerId safeOptions.manufacturerId
  let base := base.write 8 [byte (manufacturer >>> 8).toUInt32, byte manufacturer.toUInt32]
  let base := putLe16 base 10 safeOptions.productCode
  let base := putLe32 base 12 safeOptions.serialNumber
  let base := base.write 16
    [1, 36, 1, 4, 0xa5, physicalSizeCm safeOptions.physicalWidthMm,
      physicalSizeCm safeOptions.physicalHeightMm, 0x78, 0x0a, 0xee, 0x91, 0xa3, 0x54, 0x4c, 0x99,
      0x26, 0x0f, 0x50, 0x54]
  if safeOptions.hdrSupported then writeChromaticities base else base

/-- The decimal digits, as `std::to_string` gives them. -/
def decimalText (value : UInt32) : List UInt8 :=
  if value = 0 then [0x30]
  else (Nat.digits 10 value.toNat).reverse.map fun digit ↦ UInt8.ofNat (0x30 + digit)

/-- The base block, with everything that is not about HDR. -/
def createBaseBlock (safeOptions : EdidOptions) : Block :=
  let base := writeIdentity (Vector.replicate _ 0) safeOptions
  let base := base.write 38 (List.replicate 16 0x01)
  let base := writeDetailedTiming base 54 safeOptions
  let base := writeTextDescriptor base 72 0xff (decimalText safeOptions.serialNumber)
  let base := writeTextDescriptor base 90 0xfc safeOptions.monitorName
  let base := writeRangeDescriptor base 108 safeOptions
  let base := base.write 126 [1]
  writeChecksum base

/-- The CTA data blocks Windows expects of an HDR display, with the maximum luminance codes. -/
def hdrCtaBlocks (hdrMaxLuminance : UInt8) : List UInt8 :=
  [0x51, 0x5d, 0x5e, 0x5f, 0x60, 0x61, 0x10, 0x1f, 0x22, 0x21, 0x20, 0x05, 0x14, 0x04, 0x13, 0x12,
    0x03, 0x01, 0x23, 0x0f, 0x56, 0x05, 0x83, 0x0f, 0x08, 0x00, 0x6d, 0x03, 0x0c, 0x00, 0x10, 0x00,
    0x38, 0x78, 0x20, 0x00, 0x60, 0x01, 0x02, 0x03, 0x67, 0xd8, 0x5d, 0xc4, 0x01, 0x78, 0x80, 0x03,
    0xe3, 0x05, 0xe0, 0x01, 0xe4, 0x0f, 0x18, 0x00, 0x00, 0xe6, 0x06, 0x0f, 0x01, hdrMaxLuminance,
    hdrMaxLuminance, 0x00]

section

-- The CTA code of a luminance, `ceil(32 * log2(nits / 50))` in floating point.
variable (hdrMaxLuminanceCtaValue : UInt32 → UInt8)

/-- The extension, with the HDR and the colorimetry blocks if the display has HDR, and empty
otherwise. -/
def createExtensionBlock (safeOptions : EdidOptions) : Block :=
  let extension : Block := Vector.replicate _ 0
  let extension := extension.write 0 [0x02, 0x03]
  let extension :=
    if safeOptions.hdrSupported then
      ((extension.write 4
        (hdrCtaBlocks (hdrMaxLuminanceCtaValue safeOptions.hdrMaxLuminanceNits))).write 3
          [0xf0]).write 2 [byte 68]
    else extension.write 2 [byte 4]
  writeChecksum extension

/-- The EDID of a display. -/
def createEdid (options : EdidOptions) : Vector UInt8 kEdidSize :=
  let safeOptions := sanitizedOptions options
  createBaseBlock safeOptions ++ createExtensionBlock hdrMaxLuminanceCtaValue safeOptions

end

/-! ## Decoding -/

/-- Both blocks sum up to a multiple of 256. -/
def hasValidEdidChecksums (edid : Vector UInt8 kEdidSize) : Bool :=
  [0, 1].all fun blockIndex ↦
    byteSum edid (blockIndex * kEdidBlockSize) kEdidBlockSize &&& 0xff == 0

/-- The bit of the PQ transfer function, and the bit of the first type of metadata. -/
def kHdrEotfSmpte2084 : UInt8 := 0x04
def kHdrStaticMetadataType1 : UInt8 := 0x01

/-- What the HDR block says; the luminance bytes are codes, and zero where the block is too short
for them. -/
structure HdrStaticMetadata where
  supportedEotfs : UInt8 := 0
  supportedStaticMetadataTypes : UInt8 := 0
  maxLuminanceCode : UInt8 := 0
  maxFrameAverageLuminanceCode : UInt8 := 0
  minLuminanceCode : UInt8 := 0
  deriving DecidableEq, Repr

/-- What the colorimetry block says of BT.2020. -/
structure SupportedColorimetry where
  bt2020Rgb : Bool := false
  bt2020Ycc : Bool := false
  bt2020Cycc : Bool := false
  deriving DecidableEq, Repr

/-- The walk over the data blocks from the offset on. -/
def findCtaDataBlockFrom (extension : Block) (extendedTag : UInt8) (minLength dataEnd : Nat)
    (offset : Nat) : Option Nat :=
  if offset < dataEnd then
    let header := byteOf extension offset
    let tag := header >>> 5
    let length := (header &&& 0x1f).toNat
    if length = 0 ∨ dataEnd ≤ offset ∨ dataEnd - offset - 1 < length then none
    else if tag = 0x07 ∧ minLength ≤ length ∧ byteOf extension (offset + 1) = extendedTag then
      some offset
    else findCtaDataBlockFrom extension extendedTag minLength dataEnd (offset + length + 1)
  else none
termination_by dataEnd - offset

/-- The place of the first data block with this extended tag and at least this length. -/
@[irreducible]
def findCtaDataBlock (extension : Block) (extendedTag : UInt8) (minLength : Nat) : Option Nat :=
  if byteOf extension 0 ≠ 0x02 then none
  else
    let dataEnd := clamp (byteOf extension 2).toNat 4 (kEdidBlockSize - 1)
    findCtaDataBlockFrom extension extendedTag minLength dataEnd 4

/-- The second block. -/
def extensionOf (edid : Vector UInt8 kEdidSize) : Block :=
  Vector.ofFn fun index ↦ byteOf edid (kEdidBlockSize + index.val)

/-- What the EDID says of HDR, if it says anything. -/
def readHdrStaticMetadata (edid : Vector UInt8 kEdidSize) : Option HdrStaticMetadata :=
  let extension := extensionOf edid
  match findCtaDataBlock extension 0x06 3 with
  | none => none
  | some offset =>
    let length := (byteOf extension offset &&& 0x1f).toNat
    some
      { supportedEotfs := byteOf extension (offset + 2)
        supportedStaticMetadataTypes := byteOf extension (offset + 3)
        maxLuminanceCode := if 4 ≤ length then byteOf extension (offset + 4) else 0
        maxFrameAverageLuminanceCode := if 5 ≤ length then byteOf extension (offset + 5) else 0
        minLuminanceCode := if 6 ≤ length then byteOf extension (offset + 6) else 0 }

/-- What the EDID says of its color spaces, if it says anything. -/
def readSupportedColorimetry (edid : Vector UInt8 kEdidSize) : Option SupportedColorimetry :=
  let extension := extensionOf edid
  match findCtaDataBlock extension 0x05 2 with
  | none => none
  | some offset =>
    let colorimetry := byteOf extension (offset + 2)
    some
      { bt2020Rgb := colorimetry &&& 0x80 != 0
        bt2020Ycc := colorimetry &&& 0x40 != 0
        bt2020Cycc := colorimetry &&& 0x20 != 0 }

/-- The EDID announces HDR in the one form that the driver knows. -/
def hasHdrStaticMetadata (edid : Vector UInt8 kEdidSize) : Bool :=
  (readHdrStaticMetadata edid).any fun metadata ↦
    metadata.supportedEotfs &&& kHdrEotfSmpte2084 != 0 &&
      metadata.supportedStaticMetadataTypes &&& kHdrStaticMetadataType1 != 0

/-- The EDID announces BT.2020 in RGB and in YCbCr. -/
def hasBt2020Colorimetry (edid : Vector UInt8 kEdidSize) : Bool :=
  (readSupportedColorimetry edid).any fun colorimetry ↦
    colorimetry.bt2020Rgb && colorimetry.bt2020Ycc

/-- One of the three letters. -/
def decodeManufacturerChar (part : UInt16) : Option UInt8 :=
  if part = 0 ∨ 26 < part then none else some (0x41 + part.toUInt8 - 1)

/-- The three letters of the maker, unless they are no letters. -/
def readManufacturerId (edid : Vector UInt8 kEdidSize) : Option (Vector UInt8 3) := do
  let encoded : UInt16 := ((byteOf edid 8).toUInt16 <<< 8) ||| (byteOf edid 9).toUInt16
  let first ← decodeManufacturerChar ((encoded >>> 10) &&& 0x1f)
  let second ← decodeManufacturerChar ((encoded >>> 5) &&& 0x1f)
  let third ← decodeManufacturerChar (encoded &&& 0x1f)
  some #v[first, second, third]

/-- The product code, which tells displays of one maker apart. -/
def readProductCode (edid : Vector UInt8 kEdidSize) : UInt16 :=
  (byteOf edid 10).toUInt16 ||| ((byteOf edid 11).toUInt16 <<< 8)

/-- The serial number of the base block. -/
def readSerialNumber (edid : Vector UInt8 kEdidSize) : UInt32 :=
  (byteOf edid 12).toUInt32 ||| ((byteOf edid 13).toUInt32 <<< 8) |||
    ((byteOf edid 14).toUInt32 <<< 16) ||| ((byteOf edid 15).toUInt32 <<< 24)

/-- The text of a descriptor up to its terminator, or nothing if a character cannot be shown. -/
def descriptorText : List UInt8 → Option (List UInt8)
  | [] => some []
  | ch :: rest =>
    if ch = 0x00 ∨ ch = 0x0a ∨ ch = 0x0d then some []
    else if ch < 0x20 ∨ 0x7e < ch then none
    else (descriptorText rest).map (ch :: ·)

/-- The loop over the descriptors. -/
def readMonitorNameFrom (edid : Vector UInt8 kEdidSize) : List Nat → Option (List UInt8)
  | [] => none
  | offset :: rest =>
    if byteOf edid offset ≠ 0x00 ∨ byteOf edid (offset + 1) ≠ 0x00 ∨
        byteOf edid (offset + 2) ≠ 0x00 ∨ byteOf edid (offset + 3) ≠ 0xfc ∨
        byteOf edid (offset + 4) ≠ 0x00 then readMonitorNameFrom edid rest
    else
      match descriptorText ((List.range 13).map fun index ↦ byteOf edid (offset + 5 + index)) with
      | none => none
      | some text =>
        let name := dropTrailingSpaces text
        if name ≠ [] then some name else readMonitorNameFrom edid rest

/-- The name in the first of the four descriptors that holds one. -/
def readMonitorName (edid : Vector UInt8 kEdidSize) : Option (List UInt8) :=
  readMonitorNameFrom edid [54, 72, 90, 108]

/-- The first detailed timing, its twelve-bit fields put together. -/
def readPreferredTiming (edid : Vector UInt8 kEdidSize) : PreferredTiming where
  pixelClock10khz := (byteOf edid 54).toUInt32 ||| ((byteOf edid 55).toUInt32 <<< 8)
  horizontalActive :=
    ((byteOf edid 56).toUInt32 ||| (((byteOf edid 58).toUInt32 &&& 0xf0) <<< 4)).toUInt16
  horizontalBlanking :=
    ((byteOf edid 57).toUInt32 ||| (((byteOf edid 58).toUInt32 &&& 0x0f) <<< 8)).toUInt16
  verticalActive :=
    ((byteOf edid 59).toUInt32 ||| (((byteOf edid 61).toUInt32 &&& 0xf0) <<< 4)).toUInt16
  verticalBlanking :=
    ((byteOf edid 60).toUInt32 ||| (((byteOf edid 61).toUInt32 &&& 0x0f) <<< 8)).toUInt16

end VirtualDisplay
