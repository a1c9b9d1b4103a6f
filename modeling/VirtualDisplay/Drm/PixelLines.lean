import VirtualDisplay.Lib.Cursor
import Mathlib

/-!
# Reading lines of pixels

The composer reads a plane in lines: `count` pixels from a starting point on, in one of four
directions, converted to 16 bits for each channel.  There is a reader for each format
(`vkms_formats.c`), and each of them computes the address of the starting point only; from there it
goes on by a constant step, or in a plane of chroma samples by a step now and then.

* `sampleOffset` — where a pixel, or the sample that covers it, really is.
* `PixelFormat.pixelAt` — the pixel as the format says, from the samples that cover it.
* `pixelReadLine_pixelwise` — each reader gives the pixels of the line, as it does one by one.  A
  vertical line of a format that packs several pixels into a byte goes from row to row in steps of a
  byte's pixels.

The arithmetic of the readers is on `int`, and an address may be computed that lies outside of the
buffer as long as nothing is read there.  A plane is taken to be small enough for its offsets to fit
(`FitsInt`); the readers do not look for overflow.

What the readers have in common is a loop behind a cursor for each plane (`Lib/Cursor.lean`).  The
proof follows the cursors: `firstPlane_move` and `chromaPlane_move` say where they are behind each
pixel, in closed form.
-/

set_option autoImplicit false

namespace VirtualDisplay

/-! ## Numbers -/

/-- A number as the C type `int` holds it. -/
def cInt (n : Int) : Int := n.bmod 4294967296

/-- An `int` as an `unsigned int` operand, as C converts it where the two meet. -/
def cUnsigned (n : Int) : Int := n % 4294967296

theorem cInt_eq {n : Int} (h : -2147483648 ≤ n) (h' : n < 2147483648) : cInt n = n :=
  Int.bmod_eq_of_le (by omega) (by omega)

theorem cUnsigned_eq {n : Int} (h : 0 ≤ n) (h' : n < 4294967296) : cUnsigned n = n :=
  Int.emod_eq_of_lt h h'

/-- `DIV_ROUND_CLOSEST` of unsigned numbers -/
def divRoundClosest (x divisor : UInt32) : UInt32 := (x + divisor / 2) / divisor

/-! ## Buffers -/

/-- The parts of `struct drm_format_info` that the readers use.  The sizes of the blocks are what
`drm_format_info_block_width` and `drm_format_info_block_height` give for a plane. -/
structure DrmFormatInfo where
  charPerBlock : Nat → Nat
  blockWidth : Nat → Nat
  blockHeight : Nat → Nat
  hsub : Nat
  vsub : Nat

/-- `struct drm_framebuffer` -/
structure DrmFramebuffer where
  format : DrmFormatInfo
  width : Nat
  height : Nat
  pitches : Nat → Nat
  offsets : Nat → Nat

/-- The buffer of a `struct vkms_frame_info`, with the bytes behind `map[0].vaddr`. -/
structure VkmsFrame where
  fb : DrmFramebuffer
  map : Int → UInt8

/-- Which way a line runs through the buffer; a plane that is turned is read along its columns. -/
inductive PixelReadDirection where
  | bottomToTop
  | topToBottom
  | rightToLeft
  | leftToRight
  deriving DecidableEq, Repr

/-- A pixel in the format that everything is converted to: sixteen bits a channel. -/
structure PixelArgbU16 where
  a : UInt16
  r : UInt16
  g : UInt16
  b : UInt16
  deriving DecidableEq, Repr, Inhabited

/-- `struct conversion_matrix` -/
structure ConversionMatrix where
  matrix : Vector (Vector Int64 3) 3
  yOffset : Int

/-- `drm_format_info_bpp` -/
def DrmFormatInfo.bpp (info : DrmFormatInfo) (plane : Nat) : Int :=
  info.charPerBlock plane * 8 / (info.blockWidth plane * info.blockHeight plane)

/-- The block of a pixel, and the place of the pixel in it. -/
structure BlockPosition where
  offset : Int
  remX : Int
  remY : Int

namespace DrmFramebuffer

variable (fb : DrmFramebuffer)

/-- Where the block with this pixel begins in a plane, and where in the block the pixel is.  Blocks
have several pixels in the formats with less than a byte for one. -/
def packedPixelsOffset (x y : Int) (plane : Nat) : BlockPosition :=
  let blockX := cInt (cUnsigned x / fb.format.blockWidth plane)
  let blockY := cInt (cUnsigned y / fb.format.blockHeight plane)
  let blockPitch := cInt (fb.pitches plane * fb.format.blockHeight plane)
  { offset := cInt (fb.offsets plane + blockY * blockPitch + blockX * fb.format.charPerBlock plane)
    remX := cInt (cUnsigned x % fb.format.blockWidth plane)
    remY := cInt (cUnsigned y % fb.format.blockHeight plane) }

/-- Its warnings about larger blocks change nothing. -/
def packedPixelsAddr1x1 (x y : Int) (plane : Nat) : Int := (fb.packedPixelsOffset x y plane).offset

/-- From one block to the next in this direction.  A vertical step is one row times the pixels of a
block, which is too far where a block has more than one of them. -/
def getBlockStepBytes (direction : PixelReadDirection) (plane : Nat) : Int :=
  match direction with
  | .leftToRight => fb.format.charPerBlock plane
  | .rightToLeft => -fb.format.charPerBlock plane
  | .topToBottom => cInt (cInt (fb.pitches plane) * fb.format.blockWidth plane)
  | .bottomToTop => cInt (-cInt (fb.pitches plane) * fb.format.blockWidth plane)

end DrmFramebuffer

/-- After so many pixels along this direction the line comes to another chroma sample. -/
def getSubsampling (info : DrmFormatInfo) (direction : PixelReadDirection) : Int :=
  match direction with
  | .bottomToTop | .topToBottom => info.vsub
  | .rightToLeft | .leftToRight => info.hsub

/-- How far into its chroma sample a line begins. -/
def getSubsamplingOffset (direction : PixelReadDirection) (xStart yStart : Int) : Int :=
  match direction with
  | .bottomToTop => -yStart - 1
  | .topToBottom => yStart
  | .rightToLeft => -xStart - 1
  | .leftToRight => xStart

/-! ## Pixels -/

/-- The bytes of a pixel, from its first one on. -/
abbrev PixelBytes : Type := Nat → UInt8

/-- The bytes from an address on. -/
def VkmsFrame.bytesAt (frame : VkmsFrame) (src : Int) : PixelBytes := fun k ↦ frame.map (src + k)

/-- The `k`-th of the little-endian words of a pixel. -/
def le16 (px : PixelBytes) (k : Nat) : UInt16 :=
  (px (2 * k)).toUInt16 ||| (px (2 * k + 1)).toUInt16 <<< 8

/-- The first four bytes as a word. -/
def le32 (px : PixelBytes) : UInt32 := (le16 px 0).toUInt32 ||| (le16 px 1).toUInt32 <<< 16

/-- The fixed-point numbers of the kernel, `drm_fixed.h`. -/
structure DrmFixed where
  int2fixp : Int → Int64
  fixp2int : Int64 → Int
  fixp2intRound : Int64 → Int
  fixp2intCeil : Int64 → Int
  sm2fixp : UInt64 → Int64
  mul : Int64 → Int64 → Int64
  div : Int64 → Int64 → Int64

/-- Eight bits become sixteen, white becoming white. -/
def argbU16FromU8888 (a r g b : UInt8) : PixelArgbU16 where
  a := a.toUInt16 * 257
  r := r.toUInt16 * 257
  g := g.toUInt16 * 257
  b := b.toUInt16 * 257

/-- Sixteen bits a channel stay as they are. -/
def argbU16FromU16161616 (a r g b : UInt16) : PixelArgbU16 := { a, r, g, b }

/-- Ten bits a channel, rounded; red is the highest. -/
def argbU16FromXrgb2101010 (px : PixelBytes) : PixelArgbU16 :=
  let value := le32 px
  argbU16FromU16161616 0xffff
    (divRoundClosest (((value >>> 20) &&& 0x3ff) * 65535) 1023).toUInt16
    (divRoundClosest (((value >>> 10) &&& 0x3ff) * 65535) 1023).toUInt16
    (divRoundClosest ((value &&& 0x3ff) * 65535) 1023).toUInt16

/-- What makes a reader of RGB one of BGR. -/
def PixelArgbU16.swapRedBlue (pixel : PixelArgbU16) : PixelArgbU16 :=
  { pixel with r := pixel.b, b := pixel.r }

/-- The same with blue highest. -/
def argbU16FromXbgr2101010 (px : PixelBytes) : PixelArgbU16 :=
  (argbU16FromXrgb2101010 px).swapRedBlue

/-- The same with two bits of alpha. -/
def argbU16FromArgb2101010 (px : PixelBytes) : PixelArgbU16 :=
  { argbU16FromXrgb2101010 px with
    a := (divRoundClosest (((le32 px >>> 30) &&& 0x3) * 65535) 3).toUInt16 }

/-- With two bits of alpha, and blue highest. -/
def argbU16FromAbgr2101010 (px : PixelBytes) : PixelArgbU16 :=
  (argbU16FromArgb2101010 px).swapRedBlue

/-- Five or six bits a channel, scaled in fixed point. -/
def argbU16FromRgb565 (fixed : DrmFixed) (px : PixelBytes) : PixelArgbU16 :=
  let fpRbRatio := fixed.div (fixed.int2fixp 65535) (fixed.int2fixp 31)
  let fpGRatio := fixed.div (fixed.int2fixp 65535) (fixed.int2fixp 63)
  let rgb565 := le16 px 0
  let fpR := fixed.int2fixp ((rgb565 >>> 11) &&& 0x1f).toNat
  let fpG := fixed.int2fixp ((rgb565 >>> 5) &&& 0x3f).toNat
  let fpB := fixed.int2fixp (rgb565 &&& 0x1f).toNat
  { a := 0xffff
    r := .ofInt (fixed.fixp2intRound (fixed.mul fpR fpRbRatio))
    g := .ofInt (fixed.fixp2intRound (fixed.mul fpG fpGRatio))
    b := .ofInt (fixed.fixp2intRound (fixed.mul fpB fpRbRatio)) }

/-- The same with blue highest. -/
def argbU16FromBgr565 (fixed : DrmFixed) (px : PixelBytes) : PixelArgbU16 :=
  (argbU16FromRgb565 fixed px).swapRedBlue

/-- One channel of eight bits for all three. -/
def argbU16FromGray8 (gray : UInt8) : PixelArgbU16 := argbU16FromU8888 255 gray gray gray

/-- One channel of sixteen bits for all three. -/
def argbU16FromGrayu16 (gray : UInt16) : PixelArgbU16 :=
  argbU16FromU16161616 0xFFFF gray gray gray

/-- `clamp(value, 0, 0xffff)` -/
def clampU16 (value : Int) : UInt16 := .ofInt (min (max value 0) 0xffff)

/-- Luma and chroma, moved to their zeros and multiplied with the matrix, clamped and rounded. -/
def argbU16FromYuv161616 (fixed : DrmFixed) (matrix : ConversionMatrix)
    (y channel1 channel2 : UInt16) : PixelArgbU16 :=
  let fpY := fixed.int2fixp (y.toNat - matrix.yOffset * 257)
  let fpChannel1 := fixed.int2fixp (channel1.toNat - 128 * 257)
  let fpChannel2 := fixed.int2fixp (channel2.toNat - 128 * 257)
  let row (coefficients : Vector Int64 3) : UInt16 :=
    clampU16 (fixed.fixp2intRound
      (fixed.mul coefficients[0]! fpY + fixed.mul coefficients[1]! fpChannel1 +
        fixed.mul coefficients[2]! fpChannel2))
  argbU16FromU16161616 0xffff (row matrix.matrix[0]!) (row matrix.matrix[1]!)
    (row matrix.matrix[2]!)

/-! ## Readers -/

/-- `pixel_read_line_t`: the starting point, the direction and the count follow the plane's buffer
and matrix. -/
abbrev PixelReadLine : Type :=
  VkmsFrame → ConversionMatrix → Int → Int → PixelReadDirection → Int → List PixelArgbU16

/-- `READ_LINE` -/
def readLine (callback : PixelBytes → PixelArgbU16) : PixelReadLine :=
  fun frame _ xStart yStart direction count ↦
    let step := frame.fb.getBlockStepBytes direction 0
    Cursor.walk (fun src ↦ callback (frame.bytesAt src)) (fun _ src ↦ src + step) count.toNat
      (frame.fb.packedPixelsAddr1x1 xStart yStart 0)

/-- `READ_LINE_ARGB8888`, with the places of the channels among the bytes. -/
def readLineArgb8888 (a r g b : PixelBytes → UInt8) : PixelReadLine :=
  readLine fun px ↦ argbU16FromU8888 (a px) (r px) (g px) (b px)

/-- `READ_LINE_le16161616` -/
def readLineLe16161616 (a r g b : PixelBytes → UInt16) : PixelReadLine :=
  readLine fun px ↦ argbU16FromU16161616 (a px) (r px) (g px) (b px)

/-- What the level of a pixel in a byte is worth. -/
def levelAt (bitsPerPixel bitOffset : Int) (byte : UInt8) : PixelArgbU16 :=
  let mask : Int := 1 <<< bitsPerPixel.toNat - 1
  let lumPerLevel := Int.tdiv 0xFFFF mask
  let val := (byte.toNat >>> bitOffset.toNat) &&& mask.toNat
  argbU16FromGrayu16 (.ofInt (val * lumPerLevel))

/-- The reader of the formats with less than a byte a pixel: it goes through the bits of a byte, and
on to the next byte. -/
def rxReadLine : PixelReadLine := fun frame _ xStart yStart direction count ↦
  let bitsPerPixel := frame.fb.format.bpp 0
  let start := frame.fb.packedPixelsOffset xStart yStart 0
  let bitOffset := (8 - bitsPerPixel) - start.remX * bitsPerPixel
  let step := frame.fb.getBlockStepBytes direction 0
  let horizontal (restartBitOffset stepBitOffset : Int) : List PixelArgbU16 :=
    Cursor.walk (fun s : Int × Int ↦ levelAt bitsPerPixel s.1 (frame.map s.2))
      (fun _ s ↦
        let bitOffset := s.1 + stepBitOffset
        if bitOffset < 0 ∨ 8 ≤ bitOffset then (restartBitOffset, s.2 + step) else (bitOffset, s.2))
      count.toNat (bitOffset, start.offset)
  match direction with
  | .leftToRight => horizontal (8 - bitsPerPixel) (-bitsPerPixel)
  | .rightToLeft => horizontal 0 bitsPerPixel
  | .topToBottom | .bottomToTop =>
    Cursor.walk (fun src ↦ levelAt bitsPerPixel bitOffset (frame.map src)) (fun _ src ↦ src + step)
      count.toNat start.offset

/-- `READ_LINE_YUV_SEMIPLANAR` -/
def readLineYuvSemiplanar
    (callback : ConversionMatrix → PixelBytes → PixelBytes → PixelArgbU16) : PixelReadLine :=
  fun frame matrix xStart yStart direction count ↦
    let plane1 := frame.fb.packedPixelsAddr1x1 xStart yStart 0
    let plane2 := frame.fb.packedPixelsAddr1x1 (xStart.tdiv frame.fb.format.hsub)
      (yStart.tdiv frame.fb.format.vsub) 1
    let step1 := frame.fb.getBlockStepBytes direction 0
    let step2 := frame.fb.getBlockStepBytes direction 1
    let subsampling := getSubsampling frame.fb.format direction
    let subsamplingOffset := getSubsamplingOffset direction xStart yStart
    Cursor.walk
      (fun s : Int × Int ↦ callback matrix (frame.bytesAt s.1) (frame.bytesAt s.2))
      (fun i s ↦
        (s.1 + step1,
          if (i + subsamplingOffset + 1).tmod subsampling = 0 then s.2 + step2 else s.2))
      count.toNat (plane1, plane2)

/-- The reader of YUV with its chroma channels in two planes. -/
def planarYuvReadLine (fixed : DrmFixed) : PixelReadLine :=
  fun frame matrix xStart yStart direction count ↦
    let chroma := frame.fb.packedPixelsAddr1x1 (xStart.tdiv frame.fb.format.hsub)
      (yStart.tdiv frame.fb.format.vsub)
    let step := frame.fb.getBlockStepBytes direction
    let subsampling := getSubsampling frame.fb.format direction
    let subsamplingOffset := getSubsamplingOffset direction xStart yStart
    Cursor.walk
      (fun s : Int × Int × Int ↦
        argbU16FromYuv161616 fixed matrix ((frame.map s.1).toUInt16 * 257)
          ((frame.map s.2.1).toUInt16 * 257) ((frame.map s.2.2).toUInt16 * 257))
      (fun i s ↦
        if (i + subsamplingOffset + 1).tmod subsampling = 0 then
          (s.1 + step 0, s.2.1 + step 1, s.2.2 + step 2)
        else (s.1 + step 0, s.2))
      count.toNat (frame.fb.packedPixelsAddr1x1 xStart yStart 0, chroma 1, chroma 2)

def xrgb8888ReadLine := readLineArgb8888 (fun _ ↦ 0xFF) (· 2) (· 1) (· 0)
def xbgr8888ReadLine := readLineArgb8888 (fun _ ↦ 0xFF) (· 0) (· 1) (· 2)
def argb8888ReadLine := readLineArgb8888 (· 3) (· 2) (· 1) (· 0)
def abgr8888ReadLine := readLineArgb8888 (· 3) (· 0) (· 1) (· 2)
def rgba8888ReadLine := readLineArgb8888 (· 0) (· 3) (· 2) (· 1)
def bgra8888ReadLine := readLineArgb8888 (· 0) (· 1) (· 2) (· 3)
def rgb888ReadLine := readLineArgb8888 (fun _ ↦ 0xFF) (· 2) (· 1) (· 0)
def bgr888ReadLine := readLineArgb8888 (fun _ ↦ 0xFF) (· 0) (· 1) (· 2)

def xrgb2101010ReadLine := readLine argbU16FromXrgb2101010
def xbgr2101010ReadLine := readLine argbU16FromXbgr2101010
def argb2101010ReadLine := readLine argbU16FromArgb2101010
def abgr2101010ReadLine := readLine argbU16FromAbgr2101010

def argb16161616ReadLine := readLineLe16161616 (le16 · 3) (le16 · 2) (le16 · 1) (le16 · 0)
def abgr16161616ReadLine := readLineLe16161616 (le16 · 3) (le16 · 0) (le16 · 1) (le16 · 2)
def xrgb16161616ReadLine :=
  readLineLe16161616 (fun _ ↦ 0xFFFF) (le16 · 2) (le16 · 1) (le16 · 0)
def xbgr16161616ReadLine :=
  readLineLe16161616 (fun _ ↦ 0xFFFF) (le16 · 0) (le16 · 1) (le16 · 2)

def rgb565ReadLine (fixed : DrmFixed) := readLine (argbU16FromRgb565 fixed)
def bgr565ReadLine (fixed : DrmFixed) := readLine (argbU16FromBgr565 fixed)

def r8ReadLine := readLine fun px ↦ argbU16FromGray8 (px 0)

def yuv888SemiplanarReadLine (fixed : DrmFixed) := readLineYuvSemiplanar fun matrix y uv ↦
  argbU16FromYuv161616 fixed matrix ((y 0).toUInt16 * 257) ((uv 0).toUInt16 * 257)
    ((uv 1).toUInt16 * 257)

def yuv161616SemiplanarReadLine (fixed : DrmFixed) := readLineYuvSemiplanar fun matrix y uv ↦
  argbU16FromYuv161616 fixed matrix (le16 y 0) (le16 uv 0) (le16 uv 1)

/-- The formats of a plane, `vkms_formats`. -/
inductive PixelFormat where
  | argb8888 | abgr8888 | bgra8888 | rgba8888 | xrgb8888 | xbgr8888
  | xrgb2101010 | xbgr2101010 | argb2101010 | abgr2101010
  | rgb888 | bgr888
  | xrgb16161616 | xbgr16161616 | argb16161616 | abgr16161616
  | rgb565 | bgr565
  | nv12 | nv16 | nv24 | nv21 | nv61 | nv42
  | yuv420 | yuv422 | yuv444 | yvu420 | yvu422 | yvu444
  | p010 | p012 | p016
  | r1 | r2 | r4 | r8
  deriving DecidableEq, Repr

/-- Every format of a plane has a reader. -/
def getPixelReadLineFunction (fixed : DrmFixed) : PixelFormat → PixelReadLine
  | .argb8888 => argb8888ReadLine
  | .abgr8888 => abgr8888ReadLine
  | .bgra8888 => bgra8888ReadLine
  | .rgba8888 => rgba8888ReadLine
  | .xrgb8888 => xrgb8888ReadLine
  | .xbgr8888 => xbgr8888ReadLine
  | .xrgb2101010 => xrgb2101010ReadLine
  | .xbgr2101010 => xbgr2101010ReadLine
  | .argb2101010 => argb2101010ReadLine
  | .abgr2101010 => abgr2101010ReadLine
  | .rgb888 => rgb888ReadLine
  | .bgr888 => bgr888ReadLine
  | .argb16161616 => argb16161616ReadLine
  | .abgr16161616 => abgr16161616ReadLine
  | .xrgb16161616 => xrgb16161616ReadLine
  | .xbgr16161616 => xbgr16161616ReadLine
  | .rgb565 => rgb565ReadLine fixed
  | .bgr565 => bgr565ReadLine fixed
  | .nv12 | .nv16 | .nv24 | .nv21 | .nv61 | .nv42 => yuv888SemiplanarReadLine fixed
  | .p010 | .p012 | .p016 => yuv161616SemiplanarReadLine fixed
  | .yuv420 | .yuv422 | .yuv444 | .yvu420 | .yvu422 | .yvu444 => planarYuvReadLine fixed
  | .r1 | .r2 | .r4 => rxReadLine
  | .r8 => r8ReadLine

/-! ## Conversion matrices -/

namespace ConversionMatrix

/-- The matrix that changes nothing. -/
def noOperation : ConversionMatrix where
  matrix := #v[#v[4294967296, 0, 0], #v[0, 4294967296, 0], #v[0, 0, 4294967296]]
  yOffset := 0

/-- The matrix of BT.709 in limited range. -/
def yuvBt709Limited : ConversionMatrix where
  matrix := #v[#v[5020601039, 0, 7729959424], #v[5020601039, -919487572, -2297803934],
    #v[5020601039, 9108275786, 0]]
  yOffset := 16

end ConversionMatrix

/-! ## Where the pixels are -/

/-- How many pixels a sample of the plane covers across. -/
def DrmFormatInfo.subX (info : DrmFormatInfo) (plane : Nat) : Nat :=
  if plane = 0 then 1 else info.hsub

/-- How many lines share a sample of a plane. -/
def DrmFormatInfo.subY (info : DrmFormatInfo) (plane : Nat) : Nat :=
  if plane = 0 then 1 else info.vsub

namespace PixelReadDirection

variable (direction : PixelReadDirection)

/-- The way from a pixel of a line to the next one. -/
def dx : Int :=
  match direction with
  | .leftToRight => 1
  | .rightToLeft => -1
  | .topToBottom | .bottomToTop => 0

/-- How a line goes on downwards. -/
def dy : Int :=
  match direction with
  | .topToBottom => 1
  | .bottomToTop => -1
  | .leftToRight | .rightToLeft => 0

end PixelReadDirection

namespace DrmFramebuffer

variable (fb : DrmFramebuffer)

/-- The block with the sample of a plane for this pixel. -/
def sampleOffset (plane : Nat) (x y : Int) : Int :=
  fb.offsets plane +
    y / fb.format.subY plane / fb.format.blockHeight plane *
      (fb.pitches plane * fb.format.blockHeight plane) +
    x / fb.format.subX plane / fb.format.blockWidth plane * fb.format.charPerBlock plane

/-- The pixel is inside the frame. -/
def Contains (x y : Int) : Prop := 0 ≤ x ∧ x < fb.width ∧ 0 ≤ y ∧ y < fb.height

/-- The first planes lie where an `int` still reaches: each of their samples, and a step from row to
row. -/
structure FitsInt (planes : Nat) : Prop where
  width : fb.width < 2147483648
  height : fb.height < 2147483648
  step : ∀ plane < planes, (fb.pitches plane * fb.format.blockWidth plane : Int) < 2147483648
  sample : ∀ plane < planes, ∀ x y, fb.Contains x y → fb.sampleOffset plane x y < 2147483648

end DrmFramebuffer

/-- Samples lie between the pixels as the format says, and blocks are one row high. -/
structure DrmFormatInfo.Blocks (info : DrmFormatInfo) (planes width : Nat) : Prop where
  hsub : 0 < info.hsub
  vsub : 0 < info.vsub
  width_pos : 0 < width
  blockWidth : ∀ plane < planes, info.blockWidth plane = width
  blockHeight : ∀ plane < planes, info.blockHeight plane = 1

section

variable {fb : DrmFramebuffer} {planes width plane : Nat} {x y : Int}

theorem DrmFormatInfo.Blocks.subX_pos (h : fb.format.Blocks planes width) (plane : Nat) :
    (0 : Int) < fb.format.subX plane := by
  have hsub := h.hsub
  rw [subX]
  split_ifs <;> omega

theorem DrmFormatInfo.Blocks.subY_pos (h : fb.format.Blocks planes width) (plane : Nat) :
    (0 : Int) < fb.format.subY plane := by
  have vsub := h.vsub
  rw [subY]
  split_ifs <;> omega

/-- A coordinate that is not negative, in samples. -/
theorem sample_bounds {x n : Int} {sub : Nat} (hsub : (0 : Int) < sub) (hx : 0 ≤ x) (hn : x < n) :
    x.tdiv sub = x / sub ∧ 0 ≤ x / sub ∧ x / sub < n :=
  ⟨Int.tdiv_eq_ediv_of_nonneg hx, Int.ediv_nonneg hx hsub.le,
    (Int.ediv_le_self _ hx).trans_lt hn⟩

/-- The address of the sample of a pixel of the buffer, as it is computed from the coordinates. -/
theorem packedPixelsOffset_eq (hblocks : fb.format.Blocks planes width) (hfits : fb.FitsInt planes)
    (hplane : plane < planes) (h : fb.Contains x y) :
    (fb.packedPixelsOffset (x.tdiv (fb.format.subX plane)) (y.tdiv (fb.format.subY plane))
      plane).offset = fb.sampleOffset plane x y ∧
    (fb.packedPixelsOffset (x.tdiv (fb.format.subX plane)) (y.tdiv (fb.format.subY plane))
      plane).remX = x / fb.format.subX plane % width := by
  obtain ⟨hx, hxw, hy, hyh⟩ := h
  obtain ⟨hxdiv, hx0, hxn⟩ := sample_bounds (hblocks.subX_pos plane) hx hxw
  obtain ⟨hydiv, hy0, hyn⟩ := sample_bounds (hblocks.subY_pos plane) hy hyh
  have hw := hfits.width
  have hh := hfits.height
  have hwidth : (0 : Int) < width := by have := hblocks.width_pos; omega
  have hsample := hfits.sample plane hplane x y ⟨hx, hxw, hy, hyh⟩
  have hstep := hfits.step plane hplane
  have hpitch : (fb.pitches plane : Int) < 2147483648 := by
    rw [hblocks.blockWidth plane hplane] at hstep
    nlinarith
  rw [DrmFramebuffer.sampleOffset, hblocks.blockWidth plane hplane,
    hblocks.blockHeight plane hplane] at hsample ⊢
  rw [DrmFramebuffer.packedPixelsOffset, hxdiv, hydiv, hblocks.blockWidth plane hplane,
    hblocks.blockHeight plane hplane, cUnsigned_eq hx0 (by omega), cUnsigned_eq hy0 (by omega)]
  generalize x / (fb.format.subX plane : Int) = u at *
  generalize y / (fb.format.subY plane : Int) = v at *
  have hdiv : 0 ≤ u / width ∧ u / width < 2147483648 :=
    ⟨Int.ediv_nonneg hx0 hwidth.le, (Int.ediv_le_self _ hx0).trans_lt (by omega)⟩
  have hmod : 0 ≤ u % width ∧ u % width < 2147483648 :=
    ⟨Int.emod_nonneg _ hwidth.ne', by
      have hsum := Int.mul_ediv_add_emod u width
      have := mul_nonneg hwidth.le hdiv.1
      omega⟩
  simp only [Nat.cast_one, Int.ediv_one, mul_one] at hsample ⊢
  rw [cInt_eq (by omega) (by omega : v < _), cInt_eq (by omega) hpitch,
    cInt_eq (by omega) hdiv.2, cInt_eq (by omega) hmod.2]
  have hrow := mul_nonneg hy0 (Int.natCast_nonneg (fb.pitches plane))
  have hcolumn := mul_nonneg hdiv.1 (Int.natCast_nonneg (fb.format.charPerBlock plane))
  exact ⟨cInt_eq (by omega) hsample, rfl⟩


/-! ## From a pixel to the next one -/

theorem add_one_ediv {s : Int} (hs : 0 < s) (n : Int) :
    (n + 1) / s = n / s + if s ∣ n + 1 then 1 else 0 := by
  have hsum := Int.mul_ediv_add_emod n s
  have hlow := Int.emod_nonneg n hs.ne'
  have hhigh := Int.emod_lt_of_pos n hs
  split_ifs with h
  · obtain ⟨k, hk⟩ := h
    have hkpos : s * (n / s) < s * k := by omega
    have hkle : s * k < s * (n / s + 2) := by
      rw [mul_add]
      omega
    have hlt := lt_of_mul_lt_mul_left hkpos hs.le
    have hlt' := lt_of_mul_lt_mul_left hkle hs.le
    rw [hk, Int.mul_ediv_cancel_left _ hs.ne']
    omega
  · have hne : n % s + 1 ≠ s := by
      intro heq
      exact h ⟨n / s + 1, by rw [mul_add]; omega⟩
    rw [add_zero]
    exact ((Int.ediv_emod_unique hs).mpr ⟨by omega, by omega, by omega⟩ :
      (n + 1) / s = n / s ∧ (n + 1) % s = n % s + 1).1

/-- How many pixels of a line share a sample. -/
def DrmFormatInfo.sub (info : DrmFormatInfo) (direction : PixelReadDirection) (plane : Nat) : Nat :=
  match direction with
  | .leftToRight | .rightToLeft => info.subX plane
  | .topToBottom | .bottomToTop => info.subY plane

/-- Behind each pixel the cursor of a plane moves on or stays, and is at the next pixel's sample. -/
theorem sampleOffset_move (hblocks : fb.format.Blocks planes 1) (hfits : fb.FitsInt planes)
    (hplane : plane < planes) (direction : PixelReadDirection) (i : Int) :
    fb.sampleOffset plane (x + (i + 1) * direction.dx) (y + (i + 1) * direction.dy) =
      fb.sampleOffset plane (x + i * direction.dx) (y + i * direction.dy) +
        if (fb.format.sub direction plane : Int) ∣ i + getSubsamplingOffset direction x y + 1 then
          fb.getBlockStepBytes direction plane else 0 := by
  have hx := hblocks.subX_pos plane
  have hy := hblocks.subY_pos plane
  have hpitch := hfits.step plane hplane
  have hpos : (0 : Int) ≤ fb.pitches plane := Int.natCast_nonneg _
  simp only [DrmFramebuffer.sampleOffset, DrmFramebuffer.getBlockStepBytes,
    hblocks.blockWidth plane hplane, hblocks.blockHeight plane hplane, Nat.cast_one, mul_one,
    Int.ediv_one] at hpitch ⊢
  cases direction with
  | leftToRight =>
    have hstep := add_one_ediv hx (x + i)
    have hcond : i + x + 1 = x + i + 1 := by ring
    simp only [PixelReadDirection.dx, PixelReadDirection.dy, DrmFormatInfo.sub,
      getSubsamplingOffset, mul_one, mul_zero, add_zero, hcond]
    rw [← add_assoc, hstep]
    split_ifs <;> ring
  | rightToLeft =>
    have hstep := add_one_ediv hx (x - i - 1)
    have hcond : i + (-x - 1) + 1 = -(x - i - 1 + 1) := by ring
    have hnext : x + (i + 1) * -1 = x - i - 1 := by ring
    have hhere : x + i * -1 = x - i - 1 + 1 := by ring
    simp only [PixelReadDirection.dx, PixelReadDirection.dy, DrmFormatInfo.sub,
      getSubsamplingOffset, mul_zero, add_zero, hcond, Int.dvd_neg]
    rw [hnext, hhere, hstep]
    split_ifs <;> ring
  | topToBottom =>
    have hstep := add_one_ediv hy (y + i)
    have hcond : i + y + 1 = y + i + 1 := by ring
    rw [cInt_eq (by omega) hpitch, cInt_eq (by omega) hpitch]
    simp only [PixelReadDirection.dx, PixelReadDirection.dy, DrmFormatInfo.sub,
      getSubsamplingOffset, mul_one, mul_zero, add_zero, hcond]
    rw [← add_assoc, hstep]
    split_ifs <;> ring
  | bottomToTop =>
    have hstep := add_one_ediv hy (y - i - 1)
    have hcond : i + (-y - 1) + 1 = -(y - i - 1 + 1) := by ring
    have hnext : y + (i + 1) * -1 = y - i - 1 := by ring
    have hhere : y + i * -1 = y - i - 1 + 1 := by ring
    rw [cInt_eq (by omega) hpitch, cInt_eq (by omega) (by omega : -(fb.pitches plane : Int) < _)]
    simp only [PixelReadDirection.dx, PixelReadDirection.dy, DrmFormatInfo.sub,
      getSubsamplingOffset, mul_zero, add_zero, hcond, Int.dvd_neg]
    rw [hnext, hhere, hstep]
    split_ifs <;> ring

end

/-! ## Lines -/

section

variable {frame : VkmsFrame} {planes width : Nat} {x y : Int} {direction : PixelReadDirection}
  {count : Int}

/-- The line stays in the buffer.  Down and up it takes as many rows at a time as a block is
wide. -/
def DrmFramebuffer.ContainsLine (fb : DrmFramebuffer) (x y : Int) (direction : PixelReadDirection)
    (count : Int) : Prop :=
  ∀ i : Nat, i < count.toNat →
    fb.Contains (x + i * direction.dx) (y + i * (fb.format.blockWidth 0 * direction.dy))

/-- Each line consists of these pixels. -/
def ReadsPixels (read : PixelReadLine) (frame : VkmsFrame)
    (pixel : ConversionMatrix → Int → Int → PixelArgbU16) : Prop :=
  ∀ matrix x y direction count, frame.fb.ContainsLine x y direction count →
    read frame matrix x y direction count =
      (List.range count.toNat).map fun i : Nat ↦
        pixel matrix (x + i * direction.dx)
          (y + i * (frame.fb.format.blockWidth 0 * direction.dy))

theorem DrmFramebuffer.ContainsLine.start {fb : DrmFramebuffer}
    (h : fb.ContainsLine x y direction count) (hcount : 0 < count.toNat) : fb.Contains x y := by
  have hfirst := h 0 hcount
  rwa [Nat.cast_zero, zero_mul, zero_mul, add_zero, add_zero] at hfirst

/-- The sample for the start of a line, by the address that is computed for it. -/
theorem packedPixelsAddr1x1_eq {fb : DrmFramebuffer} (hblocks : fb.format.Blocks planes width)
    (hfits : fb.FitsInt planes) (h : fb.Contains x y) :
    (0 < planes → fb.packedPixelsAddr1x1 x y 0 = fb.sampleOffset 0 x y) ∧
    ∀ plane < planes, plane ≠ 0 →
      fb.packedPixelsAddr1x1 (x.tdiv fb.format.hsub) (y.tdiv fb.format.vsub)
        plane = fb.sampleOffset plane x y := by
  refine ⟨fun hplanes ↦ ?_, fun plane hplane hne ↦ ?_⟩
  · have hoffset := (packedPixelsOffset_eq hblocks hfits hplanes h).1
    simpa only [DrmFormatInfo.subX, DrmFormatInfo.subY, if_true, Nat.cast_one, Int.tdiv_one,
      DrmFramebuffer.packedPixelsAddr1x1] using hoffset
  · have hoffset := (packedPixelsOffset_eq hblocks hfits hplane h).1
    simpa only [DrmFormatInfo.subX, DrmFormatInfo.subY, if_neg hne,
      DrmFramebuffer.packedPixelsAddr1x1] using hoffset

/-- The cursor of the first plane moves on behind each pixel. -/
theorem firstPlane_move (hblocks : frame.fb.format.Blocks planes 1)
    (hfits : frame.fb.FitsInt planes) (hplanes : 0 < planes) (i : Int) :
    frame.fb.sampleOffset 0 (x + (i + 1) * direction.dx) (y + (i + 1) * direction.dy) =
      frame.fb.sampleOffset 0 (x + i * direction.dx) (y + i * direction.dy) +
        frame.fb.getBlockStepBytes direction 0 := by
  rw [sampleOffset_move hblocks hfits hplanes, if_pos]
  cases direction <;> exact one_dvd _

/-- Those of the chroma planes move on where the line leaves a sample. -/
theorem chromaPlane_move (hblocks : frame.fb.format.Blocks planes 1)
    (hfits : frame.fb.FitsInt planes) {plane : Nat} (hplane : plane < planes) (hne : plane ≠ 0)
    (i : Int) :
    frame.fb.sampleOffset plane (x + (i + 1) * direction.dx) (y + (i + 1) * direction.dy) =
      if (i + getSubsamplingOffset direction x y + 1).tmod
          (getSubsampling frame.fb.format direction) = 0 then
        frame.fb.sampleOffset plane (x + i * direction.dx) (y + i * direction.dy) +
          frame.fb.getBlockStepBytes direction plane
      else frame.fb.sampleOffset plane (x + i * direction.dx) (y + i * direction.dy) := by
  have hsub : (frame.fb.format.sub direction plane : Int) =
      getSubsampling frame.fb.format direction := by
    cases direction <;>
      simp only [DrmFormatInfo.sub, DrmFormatInfo.subX, DrmFormatInfo.subY, if_neg hne,
        getSubsampling]
  rw [sampleOffset_move hblocks hfits hplane]
  simp only [hsub, Int.dvd_iff_tmod_eq_zero]
  split_ifs with h
  · rfl
  · rw [add_zero]

theorem readLine_readsPixels (callback : PixelBytes → PixelArgbU16)
    (hblocks : frame.fb.format.Blocks 1 1) (hfits : frame.fb.FitsInt 1) :
    ReadsPixels (readLine callback) frame fun _ x y ↦
      callback (frame.bytesAt (frame.fb.sampleOffset 0 x y)) := by
  intro matrix x y direction count hline
  have hstart := fun hcount ↦
    (packedPixelsAddr1x1_eq hblocks hfits (hline.start hcount)).1 one_pos
  rw [readLine, Cursor.walk_eq_map (p := fun i ↦ frame.fb.sampleOffset 0
    (x + i * direction.dx) (y + i * direction.dy))
    (fun i ↦ (firstPlane_move hblocks hfits one_pos i).symm) (by simpa using hstart)]
  simp only [hblocks.blockWidth 0 one_pos, Nat.cast_one, one_mul]

theorem readLineYuvSemiplanar_readsPixels
    (callback : ConversionMatrix → PixelBytes → PixelBytes → PixelArgbU16)
    (hblocks : frame.fb.format.Blocks 2 1) (hfits : frame.fb.FitsInt 2) :
    ReadsPixels (readLineYuvSemiplanar callback) frame fun matrix x y ↦
      callback matrix (frame.bytesAt (frame.fb.sampleOffset 0 x y))
        (frame.bytesAt (frame.fb.sampleOffset 1 x y)) := by
  intro matrix x y direction count hline
  have hstart := fun hcount ↦ packedPixelsAddr1x1_eq hblocks hfits (hline.start hcount)
  rw [readLineYuvSemiplanar, Cursor.walk_eq_map (p := fun i ↦
    (frame.fb.sampleOffset 0 (x + i * direction.dx) (y + i * direction.dy),
      frame.fb.sampleOffset 1 (x + i * direction.dx) (y + i * direction.dy)))]
  · simp only [hblocks.blockWidth 0 two_pos, Nat.cast_one, one_mul]
  · intro i
    rw [firstPlane_move hblocks hfits two_pos,
      chromaPlane_move hblocks hfits one_lt_two one_ne_zero]
  · intro hcount
    rw [(hstart hcount).1 two_pos, (hstart hcount).2 1 one_lt_two one_ne_zero]
    simp

theorem planarYuvReadLine_readsPixels (fixed : DrmFixed)
    (hblocks : frame.fb.format.Blocks 3 1) (hfits : frame.fb.FitsInt 3) :
    ReadsPixels (planarYuvReadLine fixed) frame fun matrix x y ↦
      let bytes (plane : Nat) : PixelBytes := frame.bytesAt (frame.fb.sampleOffset plane x y)
      argbU16FromYuv161616 fixed matrix ((bytes 0 0).toUInt16 * 257)
        ((bytes 1 0).toUInt16 * 257) ((bytes 2 0).toUInt16 * 257) := by
  intro matrix x y direction count hline
  have hstart := fun hcount ↦ packedPixelsAddr1x1_eq hblocks hfits (hline.start hcount)
  rw [planarYuvReadLine, Cursor.walk_eq_map (p := fun i ↦
    (frame.fb.sampleOffset 0 (x + i * direction.dx) (y + i * direction.dy),
      frame.fb.sampleOffset 1 (x + i * direction.dx) (y + i * direction.dy),
      frame.fb.sampleOffset 2 (x + i * direction.dx) (y + i * direction.dy)))]
  · simp only [hblocks.blockWidth 0 (by decide), VkmsFrame.bytesAt, Nat.cast_zero, add_zero,
      Nat.cast_one, one_mul]
  · intro i
    rw [firstPlane_move hblocks hfits (by decide),
      chromaPlane_move hblocks hfits (by decide : 1 < 3) one_ne_zero,
      chromaPlane_move hblocks hfits (by decide : 2 < 3) two_ne_zero]
    split_ifs <;> rfl
  · intro hcount
    rw [(hstart hcount).1 (by decide), (hstart hcount).2 1 (by decide) one_ne_zero,
      (hstart hcount).2 2 (by decide) two_ne_zero]
    simp

/-! ## Pixels that share a byte -/

/-- The pixel in its byte. -/
def VkmsFrame.level (frame : VkmsFrame) (x y : Int) : PixelArgbU16 :=
  let bitsPerPixel := frame.fb.format.bpp 0
  levelAt bitsPerPixel
    ((8 - bitsPerPixel) - x % frame.fb.format.blockWidth 0 * bitsPerPixel)
    (frame.map (frame.fb.sampleOffset 0 x y))

theorem rxReadLine_readsPixels (hblocks : frame.fb.format.Blocks 1 width)
    (hwidth : width = 8 ∨ width = 4 ∨ width = 2) (hbytes : frame.fb.format.charPerBlock 0 = 1)
    (hfits : frame.fb.FitsInt 1) : ReadsPixels rxReadLine frame fun _ x y ↦ frame.level x y := by
  intro matrix x y direction count hline
  have hblockWidth := hblocks.blockWidth 0 one_pos
  have hblockHeight := hblocks.blockHeight 0 one_pos
  have hbpp : frame.fb.format.bpp 0 = 8 / width := by
    rw [DrmFormatInfo.bpp, hblockWidth, hblockHeight, hbytes]
    simp
  have hsample : ∀ x y, frame.fb.sampleOffset 0 x y =
      frame.fb.offsets 0 + y * frame.fb.pitches 0 + x / width := by
    intro x y
    simp [DrmFramebuffer.sampleOffset, DrmFormatInfo.subX, DrmFormatInfo.subY, hblockWidth,
      hblockHeight, hbytes]
  obtain hzero | hcount := Nat.eq_zero_or_pos count.toNat
  · cases direction <;> simp [rxReadLine, hzero]
  obtain ⟨hoffset, hremX⟩ :
      (frame.fb.packedPixelsOffset x y 0).offset = frame.fb.sampleOffset 0 x y ∧
      (frame.fb.packedPixelsOffset x y 0).remX = x % width := by
    simpa [DrmFormatInfo.subX, DrmFormatInfo.subY] using
      packedPixelsOffset_eq hblocks hfits one_pos (hline.start hcount)
  have hrow : cInt (cInt (frame.fb.pitches 0) * width) = frame.fb.pitches 0 * width ∧
      cInt (-cInt (frame.fb.pitches 0) * width) = -(frame.fb.pitches 0 * width) := by
    have hstep := hfits.step 0 one_pos
    have hpos : (0 : Int) ≤ frame.fb.pitches 0 := Int.natCast_nonneg _
    rw [hblockWidth] at hstep
    obtain rfl | rfl | rfl := hwidth <;>
      rw [cInt_eq (n := frame.fb.pitches 0) (by omega) (by omega)] <;>
      exact ⟨cInt_eq (by omega) (by omega), (cInt_eq (by omega) (by omega)).trans (by ring)⟩
  cases direction with
  | leftToRight =>
    simp only [rxReadLine, DrmFramebuffer.getBlockStepBytes]
    rw [Cursor.walk_eq_map (p := fun i ↦
      (8 - frame.fb.format.bpp 0 - (x + i) % width * frame.fb.format.bpp 0,
        frame.fb.sampleOffset 0 (x + i) y))]
    · simp [VkmsFrame.level, PixelReadDirection.dx, PixelReadDirection.dy, hblockWidth]
    · intro i
      simp only [hbpp, hsample, hbytes, Nat.cast_one]
      obtain rfl | rfl | rfl := hwidth <;> split_ifs <;> ext <;> simp <;> omega
    · rw [hoffset, hremX]
      simp
  | rightToLeft =>
    simp only [rxReadLine, DrmFramebuffer.getBlockStepBytes]
    rw [Cursor.walk_eq_map (p := fun i ↦
      (8 - frame.fb.format.bpp 0 - (x - i) % width * frame.fb.format.bpp 0,
        frame.fb.sampleOffset 0 (x - i) y))]
    · simp [VkmsFrame.level, PixelReadDirection.dx, PixelReadDirection.dy, hblockWidth,
        sub_eq_add_neg]
    · intro i
      simp only [hbpp, hsample, hbytes, Nat.cast_one]
      obtain rfl | rfl | rfl := hwidth <;> split_ifs <;> ext <;> simp <;> omega
    · rw [hoffset, hremX]
      simp
  | topToBottom =>
    simp only [rxReadLine, DrmFramebuffer.getBlockStepBytes, hblockWidth, hrow]
    rw [Cursor.walk_eq_map (p := fun i ↦ frame.fb.sampleOffset 0 x (y + i * width))]
    · simp [VkmsFrame.level, PixelReadDirection.dx, PixelReadDirection.dy, hblockWidth, hremX]
    · intro i
      rw [hsample, hsample]
      ring
    · rw [hoffset]
      simp
  | bottomToTop =>
    simp only [rxReadLine, DrmFramebuffer.getBlockStepBytes, hblockWidth, hrow]
    rw [Cursor.walk_eq_map (p := fun i ↦ frame.fb.sampleOffset 0 x (y + i * -width))]
    · simp [VkmsFrame.level, PixelReadDirection.dx, PixelReadDirection.dy, hblockWidth, hremX]
    · intro i
      rw [hsample, hsample]
      ring
    · rw [hoffset]
      simp

end

/-! ## The readers of the formats -/

/-- The planes of a format. -/
def PixelFormat.planes : PixelFormat → Nat
  | .nv12 | .nv16 | .nv24 | .nv21 | .nv61 | .nv42 | .p010 | .p012 | .p016 => 2
  | .yuv420 | .yuv422 | .yuv444 | .yvu420 | .yvu422 | .yvu444 => 3
  | _ => 1

/-- The pixels of a block. -/
def PixelFormat.blockWidth : PixelFormat → Nat
  | .r1 => 8
  | .r2 => 4
  | .r4 => 2
  | _ => 1

/-- The table of the kernel has this for the format; blocks of several pixels are bytes. -/
structure PixelFormat.Describes (format : PixelFormat) (info : DrmFormatInfo) : Prop where
  blocks : info.Blocks format.planes format.blockWidth
  bytes : format.blockWidth ≠ 1 → info.charPerBlock 0 = 1

/-- The pixel of a frame, as the format has it in the bytes of its samples. -/
def PixelFormat.pixelAt (fixed : DrmFixed) (format : PixelFormat) (frame : VkmsFrame)
    (matrix : ConversionMatrix) (x y : Int) : PixelArgbU16 :=
  let bytes (plane : Nat) : PixelBytes := frame.bytesAt (frame.fb.sampleOffset plane x y)
  let px := bytes 0
  match format with
  | .argb8888 => argbU16FromU8888 (px 3) (px 2) (px 1) (px 0)
  | .abgr8888 => argbU16FromU8888 (px 3) (px 0) (px 1) (px 2)
  | .rgba8888 => argbU16FromU8888 (px 0) (px 3) (px 2) (px 1)
  | .bgra8888 => argbU16FromU8888 (px 0) (px 1) (px 2) (px 3)
  | .xrgb8888 | .rgb888 => argbU16FromU8888 0xFF (px 2) (px 1) (px 0)
  | .xbgr8888 | .bgr888 => argbU16FromU8888 0xFF (px 0) (px 1) (px 2)
  | .xrgb2101010 => argbU16FromXrgb2101010 px
  | .xbgr2101010 => argbU16FromXbgr2101010 px
  | .argb2101010 => argbU16FromArgb2101010 px
  | .abgr2101010 => argbU16FromAbgr2101010 px
  | .argb16161616 => argbU16FromU16161616 (le16 px 3) (le16 px 2) (le16 px 1) (le16 px 0)
  | .abgr16161616 => argbU16FromU16161616 (le16 px 3) (le16 px 0) (le16 px 1) (le16 px 2)
  | .xrgb16161616 => argbU16FromU16161616 0xFFFF (le16 px 2) (le16 px 1) (le16 px 0)
  | .xbgr16161616 => argbU16FromU16161616 0xFFFF (le16 px 0) (le16 px 1) (le16 px 2)
  | .rgb565 => argbU16FromRgb565 fixed px
  | .bgr565 => argbU16FromBgr565 fixed px
  | .nv12 | .nv16 | .nv24 | .nv21 | .nv61 | .nv42 =>
    argbU16FromYuv161616 fixed matrix ((px 0).toUInt16 * 257) ((bytes 1 0).toUInt16 * 257)
      ((bytes 1 1).toUInt16 * 257)
  | .p010 | .p012 | .p016 =>
    argbU16FromYuv161616 fixed matrix (le16 px 0) (le16 (bytes 1) 0) (le16 (bytes 1) 1)
  | .yuv420 | .yuv422 | .yuv444 | .yvu420 | .yvu422 | .yvu444 =>
    argbU16FromYuv161616 fixed matrix ((px 0).toUInt16 * 257) ((bytes 1 0).toUInt16 * 257)
      ((bytes 2 0).toUInt16 * 257)
  | .r1 | .r2 | .r4 => frame.level x y
  | .r8 => argbU16FromGray8 (px 0)

/-- The pixel that a reader gives for a line of one. -/
def readPixel (read : PixelReadLine) (frame : VkmsFrame) (matrix : ConversionMatrix) (x y : Int) :
    PixelArgbU16 :=
  (read frame matrix x y .leftToRight 1).headD default

section

variable {frame : VkmsFrame} {x y : Int} {direction : PixelReadDirection} {count : Int}
  {format : PixelFormat} {fixed : DrmFixed}

theorem PixelFormat.Describes.blockWidth_eq (hformat : format.Describes frame.fb.format) :
    frame.fb.format.blockWidth 0 = format.blockWidth :=
  hformat.blocks.blockWidth 0 (by cases format <;> decide)

/-- Each reader gives the pixels as the format says. -/
theorem readsPixels (fixed : DrmFixed) (hformat : format.Describes frame.fb.format)
    (hfits : frame.fb.FitsInt format.planes) :
    ReadsPixels (getPixelReadLineFunction fixed format) frame (format.pixelAt fixed frame) := by
  obtain ⟨hblocks, hbytes⟩ := hformat
  cases format with
  | nv12 | nv16 | nv24 | nv21 | nv61 | nv42 =>
    rw [getPixelReadLineFunction, yuv888SemiplanarReadLine]
    exact readLineYuvSemiplanar_readsPixels _ hblocks hfits
  | p010 | p012 | p016 =>
    rw [getPixelReadLineFunction, yuv161616SemiplanarReadLine]
    exact readLineYuvSemiplanar_readsPixels _ hblocks hfits
  | yuv420 | yuv422 | yuv444 | yvu420 | yvu422 | yvu444 =>
    exact planarYuvReadLine_readsPixels fixed hblocks hfits
  | r1 => exact rxReadLine_readsPixels hblocks (.inl rfl) (hbytes (by decide)) hfits
  | r2 => exact rxReadLine_readsPixels hblocks (.inr (.inl rfl)) (hbytes (by decide)) hfits
  | r4 => exact rxReadLine_readsPixels hblocks (.inr (.inr rfl)) (hbytes (by decide)) hfits
  | argb8888 | abgr8888 | bgra8888 | rgba8888 | xrgb8888 | xbgr8888 | rgb888 | bgr888 =>
    simp only [getPixelReadLineFunction, argb8888ReadLine, abgr8888ReadLine, bgra8888ReadLine,
      rgba8888ReadLine, xrgb8888ReadLine, xbgr8888ReadLine, rgb888ReadLine, bgr888ReadLine,
      readLineArgb8888]
    exact readLine_readsPixels _ hblocks hfits
  | xrgb16161616 | xbgr16161616 | argb16161616 | abgr16161616 =>
    simp only [getPixelReadLineFunction, xrgb16161616ReadLine, xbgr16161616ReadLine,
      argb16161616ReadLine, abgr16161616ReadLine, readLineLe16161616]
    exact readLine_readsPixels _ hblocks hfits
  | xrgb2101010 | xbgr2101010 | argb2101010 | abgr2101010 | rgb565 | bgr565 | r8 =>
    simp only [getPixelReadLineFunction, xrgb2101010ReadLine, xbgr2101010ReadLine,
      argb2101010ReadLine, abgr2101010ReadLine, rgb565ReadLine, bgr565ReadLine, r8ReadLine]
    exact readLine_readsPixels _ hblocks hfits

theorem ReadsPixels.readPixel_eq {read : PixelReadLine}
    {pixel : ConversionMatrix → Int → Int → PixelArgbU16} (h : ReadsPixels read frame pixel)
    (matrix : ConversionMatrix) (hxy : frame.fb.Contains x y) :
    readPixel read frame matrix x y = pixel matrix x y := by
  have hline : frame.fb.ContainsLine x y .leftToRight 1 := by
    intro i hi
    obtain rfl : i = 0 := by omega
    simpa using hxy
  rw [readPixel, h matrix x y .leftToRight 1 hline]
  simp

/-- Four by four pixels, with a row of two pairs of chroma samples for two rows. -/
def nv12Buffer : DrmFramebuffer where
  format :=
    { charPerBlock := fun plane ↦ plane + 1
      blockWidth := fun _ ↦ 1
      blockHeight := fun _ ↦ 1
      hsub := 2
      vsub := 2 }
  width := 4
  height := 4
  pitches := fun _ ↦ 4
  offsets := fun plane ↦ plane * 16

theorem nv12Buffer_describes : PixelFormat.nv12.Describes nv12Buffer.format :=
  ⟨⟨by decide, by decide, by decide, by decide, by decide⟩, by decide⟩

theorem nv12Buffer_fitsInt : nv12Buffer.FitsInt 2 := by
  refine ⟨by decide, by decide, by decide, ?_⟩
  rintro plane hplane x y ⟨hx, hxw, hy, hyh⟩
  simp only [nv12Buffer, Nat.cast_ofNat] at hxw hyh
  interval_cases x <;> interval_cases y <;> revert plane <;> decide

/-- The pixels of a line are those that the reader gives one by one. -/
theorem pixelReadLine_eq_map (hformat : format.Describes frame.fb.format)
    (hfits : frame.fb.FitsInt format.planes) (matrix : ConversionMatrix)
    (hline : frame.fb.ContainsLine x y direction count) :
    getPixelReadLineFunction fixed format frame matrix x y direction count =
      (List.range count.toNat).map fun i : Nat ↦
        readPixel (getPixelReadLineFunction fixed format) frame matrix (x + i * direction.dx)
          (y + i * (format.blockWidth * direction.dy)) := by
  have hpixel := readsPixels fixed hformat hfits
  rw [hpixel matrix x y direction count hline]
  refine List.map_congr_left fun i hi ↦ ?_
  have hcontains := hline i (List.mem_range.mp hi)
  rw [hformat.blockWidth_eq] at hcontains ⊢
  exact (hpixel.readPixel_eq matrix hcontains).symm

/-- **A line is read pixel by pixel.**  The reader of each format gives for a line that stays in the
buffer the pixels that it gives one by one, and these are the pixels of the format, from the samples
that cover them; a vertical line takes as many rows at a time as a block is wide. -/
theorem pixelReadLine_pixelwise (hformat : format.Describes frame.fb.format)
    (hfits : frame.fb.FitsInt format.planes) (matrix : ConversionMatrix)
    (hline : frame.fb.ContainsLine x y direction count) :
    getPixelReadLineFunction fixed format frame matrix x y direction count =
        (List.range count.toNat).map (fun i : Nat ↦
          readPixel (getPixelReadLineFunction fixed format) frame matrix (x + i * direction.dx)
            (y + i * (format.blockWidth * direction.dy))) ∧
      ∀ i : Nat, i < count.toNat →
        readPixel (getPixelReadLineFunction fixed format) frame matrix (x + i * direction.dx)
            (y + i * (format.blockWidth * direction.dy)) =
          format.pixelAt fixed frame matrix (x + i * direction.dx)
            (y + i * (format.blockWidth * direction.dy)) := by
  refine ⟨pixelReadLine_eq_map hformat hfits matrix hline, fun i hi ↦ ?_⟩
  have hcontains := hline i hi
  rw [hformat.blockWidth_eq] at hcontains
  exact (readsPixels fixed hformat hfits).readPixel_eq matrix hcontains

/-- The numbers of `drm_fixed.h`, where nothing overflows. -/
def drmFixed : DrmFixed where
  int2fixp n := .ofInt (n * 4294967296)
  fixp2int a := a.toInt / 4294967296
  fixp2intRound a := (a.toInt + 2147483648) / 4294967296
  fixp2intCeil a := (a.toInt + 4294967295) / 4294967296
  sm2fixp a := if a < 0x8000000000000000 then a.toInt64 else -(a &&& 0x7fffffffffffffff).toInt64
  mul a b := .ofInt (a.toInt * b.toInt / 4294967296)
  div a b := .ofInt (Int.tdiv (a.toInt * 4294967296) b.toInt)

/-- A small NV12 buffer with different bytes. -/
def nv12Frame : VkmsFrame := { fb := nv12Buffer, map := fun src ↦ .ofInt src }

/-- A column of it, read upwards: two rows share their chroma samples. -/
theorem pixelReadLine_pixelwise_nv12 :
    getPixelReadLineFunction drmFixed .nv12 nv12Frame .yuvBt709Limited 1 3 .bottomToTop 4 =
        (List.range 4).map (fun i : Nat ↦
          readPixel (getPixelReadLineFunction drmFixed .nv12) nv12Frame .yuvBt709Limited
            (1 + i * 0) (3 + i * (1 * -1))) ∧
      readPixel (getPixelReadLineFunction drmFixed .nv12) nv12Frame .yuvBt709Limited 1 1 =
        argbU16FromYuv161616 drmFixed .yuvBt709Limited (5 * 257) (16 * 257) (17 * 257) := by
  have hline : nv12Buffer.ContainsLine 1 3 .bottomToTop 4 := by
    intro i hi
    simp only [DrmFramebuffer.Contains, PixelReadDirection.dx, PixelReadDirection.dy, nv12Buffer]
    omega
  have h := @pixelReadLine_pixelwise nv12Frame 1 3 .bottomToTop 4 .nv12 drmFixed
    nv12Buffer_describes nv12Buffer_fitsInt .yuvBt709Limited hline
  exact ⟨h.1, h.2 2 (by decide)⟩

end

end VirtualDisplay
