import VirtualDisplay.Drm.Writeback

/-!
# Composing frames

The composer draws the planes of a CRTC over each other, row by row, for the checksum of the frame
and for a writeback job (`vkms_composer.c`).  For each row it finds the line of the source that a
plane shows there, reads it in the direction that its rotation asks for into a stage buffer, sends
it through the colour pipeline and blends it into the output.  What the driver takes from the kernel
stands in `ComposerCalls`.

## What is here

* `directionForRotation`, `clampLineCoordinates`, `blendLine` — which pixels of a plane are read for
  a row, in which direction, and where they go.  The arithmetic is on `int`, as in the source.
* `preMulAlphaBlend`, `applyLut`, `applyColorop`, `preBlendColorTransform` — what is done to the
  pixels of a row before and while they are blended.
* `blend` — the loop over the rows, with the checksum and the writeback of each row in it.

Reading the pixels of a row is in `Drm/PixelLines.lean`, storing them in `Drm/Writeback.lean`, and
`Drm/Composition.lean` has what the whole frame comes to.  When frames are composed, and for whom,
is the subject of `Drm/CrcWorker.lean` and `Drm/WritebackJobs.lean`.
-/

set_option autoImplicit false

namespace VirtualDisplay

/-! ## What the kernel provides -/

/-- The axes may be exchanged, and then each of them mirrored. -/
structure PlaneTurn where
  swap : Bool
  flipX : Bool
  flipY : Bool
  deriving DecidableEq

/-- The rectangle, turned in the space of this size. -/
def DrmRect.turn (r : DrmRect) (t : PlaneTurn) (width height : Int) : DrmRect :=
  let r := if t.swap then ⟨r.y1, r.x1, r.y2, r.x2⟩ else r
  { x1 := if t.flipX then width - r.x2 else r.x1
    y1 := if t.flipY then height - r.y2 else r.y1
    x2 := if t.flipX then width - r.x1 else r.x2
    y2 := if t.flipY then height - r.y1 else r.y2 }

/-- `drm_rect_rotate_inv`: a rotation, with or without reflections, is undone by a turn. -/
structure RectRotation where
  rotateInv : DrmRect → Int → Int → UInt32 → DrmRect
  turn : UInt32 → PlaneTurn
  rotateInv_eq : ∀ r width height rotation,
    rotateInv r width height rotation = r.turn (turn rotation) width height

/-- `struct drm_color_lut` -/
structure DrmColorLut where
  red : UInt16
  green : UInt16
  blue : UInt16

/-- A table that a channel is looked up in; the ratio leads from a channel to an index. -/
structure VkmsColorLut where
  base : Int → DrmColorLut
  lutLength : Nat
  channelValue2IndexRatio : Int64

/-- The helpers of the kernel, and the tables of `vkms_luts.c`. -/
structure ComposerCalls where
  fixed : DrmFixed
  rotation : RectRotation
  srgbEotf : VkmsColorLut
  srgbInvEotf : VkmsColorLut
  /-- `crc32_le` over the bytes of these pixels -/
  crc32 : UInt32 → List PixelArgbU16 → UInt32

/-! ## Blending -/

/-- A channel over another one; its own alpha is multiplied in already. -/
def preMulBlendChannel (src dst alpha : UInt16) : UInt16 :=
  let newColor := src.toUInt32 * 0xffff + dst.toUInt32 * (0xffff - alpha.toUInt32)
  (divRoundClosest newColor 0xffff).toUInt16

/-- A pixel of a plane over what is below it. -/
def blendPixel (above below : PixelArgbU16) : PixelArgbU16 where
  a := 0xffff
  r := preMulBlendChannel above.r below.r above.a
  g := preMulBlendChannel above.g below.g above.a
  b := preMulBlendChannel above.b below.b above.a

/-- A stretch of a line over the output. -/
def preMulAlphaBlend (stageBuffer outputBuffer : LineBuffer) (xStart pixelCount : Int) :
    LineBuffer :=
  { outputBuffer with
    pixels := Span.modify (fun i out ↦ blendPixel (stageBuffer.pixels i) out) outputBuffer.pixels
      xStart pixelCount.toNat }

/-- The whole line in the color of the background. -/
def fillBackground (backgroundColor : PixelArgbU16) (outputBuffer : LineBuffer) : LineBuffer :=
  { outputBuffer with
    pixels := Span.modify (fun _ _ ↦ backgroundColor) outputBuffer.pixels 0 outputBuffer.nPixels }

/-! ## Tables and pipelines -/

/-- Between two values of a channel, in fixed point. -/
def lerpU16 (fixed : DrmFixed) (a b : UInt16) (t : Int64) : UInt16 :=
  let aFp := fixed.int2fixp a.toNat
  let bFp := fixed.int2fixp b.toNat
  let delta := fixed.mul (bFp - aFp) t
  .ofInt (fixed.fixp2intRound (aFp + delta))

/-- The index of a channel, with the fraction between two entries. -/
def getLutIndex (fixed : DrmFixed) (lut : VkmsColorLut) (channelValue : UInt16) : Int64 :=
  fixed.mul (fixed.int2fixp channelValue.toNat) lut.channelValue2IndexRatio

/-- Between the two entries around the index; the last entry has none behind it. -/
def applyLutToChannelValue (fixed : DrmFixed) (lut : VkmsColorLut) (channelValue : UInt16)
    (channel : DrmColorLut → UInt16) : UInt16 :=
  let lutIndex := getLutIndex fixed lut channelValue
  let floorLutValue := lut.base (fixed.fixp2int lutIndex)
  let ceilLutValue :=
    if fixed.fixp2int lutIndex = lut.lutLength - 1 then floorLutValue
    else lut.base (fixed.fixp2intCeil lutIndex)
  lerpU16 fixed (channel floorLutValue) (channel ceilLutValue) (lutIndex &&& 0xffffffff)

/-- A pixel through the gamma table of a CRTC. -/
def lutPixel (fixed : DrmFixed) (lut : VkmsColorLut) (pixel : PixelArgbU16) : PixelArgbU16 :=
  { pixel with
    r := applyLutToChannelValue fixed lut pixel.r DrmColorLut.red
    g := applyLutToChannelValue fixed lut pixel.g DrmColorLut.green
    b := applyLutToChannelValue fixed lut pixel.b DrmColorLut.blue }

/-- There is no table where `gamma_lut.base` is null. -/
def applyLut (fixed : DrmFixed) (gammaLut : Option VkmsColorLut) (outputBuffer : LineBuffer) :
    LineBuffer :=
  match gammaLut with
  | none => outputBuffer
  | some lut =>
    if lut.lutLength = 0 then outputBuffer
    else
      { outputBuffer with
        pixels := Span.modify (fun _ pixel ↦ lutPixel fixed lut pixel) outputBuffer.pixels 0
          outputBuffer.nPixels }

/-- A pixel in the course of the color operations, where a channel may leave its bounds. -/
structure PixelArgbS32 where
  a : Int
  r : Int
  g : Int
  b : Int

/-- The curves that a color operation may have. -/
inductive DrmColoropCurve where
  | srgbEotf
  | srgbInvEotf
  | unknown

/-- The kinds of color operations that the driver knows, and any other. -/
inductive DrmColoropType where
  | curve1d
  | ctm3x4
  | other

/-- What a color operation is set to. -/
structure DrmColoropState where
  bypass : Bool
  curve1dType : DrmColoropCurve
  data : Option (Vector UInt64 12)

/-- A color operation of a plane's pipeline. -/
structure DrmColorop where
  type : DrmColoropType
  state : Option DrmColoropState

/-- The three channels and a one, multiplied with a matrix in fixed point. -/
def apply3x4Matrix (fixed : DrmFixed) (pixel : PixelArgbS32) (matrix : Vector UInt64 12) :
    PixelArgbS32 :=
  let r := fixed.int2fixp pixel.r
  let g := fixed.int2fixp pixel.g
  let b := fixed.int2fixp pixel.b
  let rf := fixed.mul (fixed.sm2fixp matrix[0]) r + fixed.mul (fixed.sm2fixp matrix[1]) g +
    fixed.mul (fixed.sm2fixp matrix[2]) b + fixed.sm2fixp matrix[3]
  let gf := fixed.mul (fixed.sm2fixp matrix[4]) r + fixed.mul (fixed.sm2fixp matrix[5]) g +
    fixed.mul (fixed.sm2fixp matrix[6]) b + fixed.sm2fixp matrix[7]
  let bf := fixed.mul (fixed.sm2fixp matrix[8]) r + fixed.mul (fixed.sm2fixp matrix[9]) g +
    fixed.mul (fixed.sm2fixp matrix[10]) b + fixed.sm2fixp matrix[11]
  { a := pixel.a
    r := fixed.fixp2intRound rf
    g := fixed.fixp2intRound gf
    b := fixed.fixp2intRound bf }

/-- One operation on one pixel; one that is not known leaves the pixel alone. -/
def applyColorop (calls : ComposerCalls) (pixel : PixelArgbS32) (type : DrmColoropType)
    (state : DrmColoropState) : PixelArgbS32 :=
  let curve (lut : VkmsColorLut) : PixelArgbS32 :=
    { a := pixel.a
      r := (applyLutToChannelValue calls.fixed lut (.ofInt pixel.r) DrmColorLut.red).toNat
      g := (applyLutToChannelValue calls.fixed lut (.ofInt pixel.g) DrmColorLut.green).toNat
      b := (applyLutToChannelValue calls.fixed lut (.ofInt pixel.b) DrmColorLut.blue).toNat }
  match type with
  | .curve1d =>
    match state.curve1dType with
    | .srgbInvEotf => curve calls.srgbInvEotf
    | .srgbEotf => curve calls.srgbEotf
    | .unknown => pixel
  | .ctm3x4 =>
    match state.data with
    | some matrix => apply3x4Matrix calls.fixed pixel matrix
    | none => pixel
  | .other => pixel

/-- The pixel behind the pipeline, unless an operation has no state. -/
def pipelinePixel (calls : ComposerCalls) (pixel : PixelArgbS32) :
    List DrmColorop → Option PixelArgbS32
  | [] => some pixel
  | colorop :: next =>
    match colorop.state with
    | none => none
    | some state =>
      pipelinePixel calls
        (if state.bypass then pixel else applyColorop calls pixel colorop.type state) next

/-- A pixel through the pipeline of a plane. -/
def transformPixel (calls : ComposerCalls) (pipeline : List DrmColorop) (pixel : PixelArgbU16) :
    Option PixelArgbU16 :=
  (pipelinePixel calls ⟨pixel.a.toNat, pixel.r.toNat, pixel.g.toNat, pixel.b.toNat⟩ pipeline).map
    fun pixel ↦ ⟨clampU16 pixel.a, clampU16 pixel.r, clampU16 pixel.g, clampU16 pixel.b⟩

/-- The pixels from `x` on; an operation without a state ends the loop. -/
def preBlendFrom (calls : ComposerCalls) (pipeline : List DrmColorop) :
    Nat → Int → (Int → PixelArgbU16) → (Int → PixelArgbU16)
  | 0, _, pixels => pixels
  | n + 1, x, pixels =>
    match transformPixel calls pipeline (pixels x) with
    | none => pixels
    | some pixel => preBlendFrom calls pipeline n (x + 1) (Function.update pixels x pixel)

/-- A kernel without colour pipelines has an empty one for each plane. -/
def preBlendColorTransform (calls : ComposerCalls) (pipeline : List DrmColorop)
    (outputBuffer : LineBuffer) : LineBuffer :=
  { outputBuffer with
    pixels := preBlendFrom calls pipeline outputBuffer.nPixels 0 outputBuffer.pixels }

/-! ## Lines -/

/-- The parts of `struct vkms_plane_state` that are composed.  `src` is in whole pixels, as
`drm_rect_fp_to_int` gives it. -/
structure VkmsPlaneState where
  frame : VkmsFrame
  src : DrmRect
  dst : DrmRect
  rotation : UInt32
  pixelReadLine : PixelReadLine
  conversionMatrix : ConversionMatrix
  colorPipeline : List DrmColorop

/-- Its warning stands for no direction of these. -/
def directionForRotation (calls : ComposerCalls) (rotation : UInt32) : PixelReadDirection :=
  let tmpA := calls.rotation.rotateInv (.init 0 0 0 0) 1 1 rotation
  let tmpB := calls.rotation.rotateInv (.init 1 0 0 0) 1 1 rotation
  let x := tmpB.x1 - tmpA.x1
  let y := tmpB.y1 - tmpA.y1
  if x = 1 ∧ y = 0 then .leftToRight
  else if x = -1 ∧ y = 0 then .rightToLeft
  else if y = 1 ∧ x = 0 then .topToBottom
  else if y = -1 ∧ x = 0 then .bottomToTop
  else .leftToRight

/-- Where a line begins in the source and in the output, and how many pixels it has. -/
structure LineCoordinates where
  srcXStart : Int
  srcYStart : Int
  dstXStart : Int
  pixelCount : Int

/-- The part of a line that lies inside the output. -/
def clampLineCoordinates (direction : PixelReadDirection) (currentPlane : VkmsPlaneState)
    (srcLine : DrmRect) : LineCoordinates :=
  match direction with
  | .leftToRight | .rightToLeft =>
    let line : LineCoordinates :=
      { srcXStart := srcLine.x1
        srcYStart := srcLine.y1
        dstXStart := currentPlane.dst.x1
        pixelCount := srcLine.width }
    let line :=
      if line.srcXStart < 0 then
        { line with
          pixelCount := line.pixelCount + line.srcXStart
          dstXStart := line.dstXStart - line.srcXStart
          srcXStart := 0 }
      else line
    -- The width is unsigned, and the sum is compared as such.
    if (currentPlane.frame.fb.width : Int) < cUnsigned (line.srcXStart + line.pixelCount) then
      { line with pixelCount := max 0 (currentPlane.frame.fb.width - line.srcXStart) }
    else line
  | .bottomToTop | .topToBottom =>
    let line : LineCoordinates :=
      { srcXStart := srcLine.x1
        srcYStart := srcLine.y1
        dstXStart := currentPlane.dst.x1
        pixelCount := srcLine.height }
    let line :=
      if line.srcYStart < 0 then
        { line with
          pixelCount := line.pixelCount + line.srcYStart
          dstXStart := line.dstXStart - line.srcYStart
          srcYStart := 0 }
      else line
    if (currentPlane.frame.fb.height : Int) < cUnsigned (line.srcYStart + line.pixelCount) then
      { line with pixelCount := max 0 (currentPlane.frame.fb.height - line.srcYStart) }
    else line

/-- The stage and the output buffer, after a row of a plane. -/
def blendLine (calls : ComposerCalls) (currentPlane : VkmsPlaneState) (y crtcXLimit : Int)
    (buffers : LineBuffer × LineBuffer) : LineBuffer × LineBuffer :=
  let dst := currentPlane.dst
  if y < dst.y1 ∨ dst.y2 ≤ y then buffers
  else
    let dstLine := DrmRect.init dst.x1 y dst.width 1
    let tmpSrc := currentPlane.src
    let dstLine := { dstLine with x1 := max dstLine.x1 0, x2 := min dstLine.x2 crtcXLimit }
    if dstLine.x2 ≤ dstLine.x1 then buffers
    else
      let srcLine := dstLine.translate (-dst.x1) (-dst.y1)
      let srcLine :=
        calls.rotation.rotateInv srcLine tmpSrc.width tmpSrc.height currentPlane.rotation
      let srcLine := srcLine.translate tmpSrc.x1 tmpSrc.y1
      let direction := directionForRotation calls currentPlane.rotation
      let line := clampLineCoordinates direction currentPlane srcLine
      if line.pixelCount ≤ 0 then buffers
      else
        let srcXStart :=
          if direction = .rightToLeft then line.srcXStart + (line.pixelCount - 1)
          else line.srcXStart
        let srcYStart :=
          if direction = .bottomToTop then line.srcYStart + (line.pixelCount - 1)
          else line.srcYStart
        let stageBuffer : LineBuffer :=
          { buffers.1 with
            pixels := Span.write buffers.1.pixels line.dstXStart
              (currentPlane.pixelReadLine currentPlane.frame currentPlane.conversionMatrix srcXStart
                srcYStart direction line.pixelCount) }
        let stageBuffer := preBlendColorTransform calls currentPlane.colorPipeline stageBuffer
        (stageBuffer, preMulAlphaBlend stageBuffer buffers.2 line.dstXStart line.pixelCount)

/-! ## Frames -/

/-- The parts of `struct vkms_crtc_state` that are composed. -/
structure ComposedCrtc where
  activePlanes : List VkmsPlaneState
  gammaLut : Option VkmsColorLut
  backgroundColor : PixelArgbU16
  hdisplay : Nat
  vdisplay : Nat

/-- Between two rows: the buffers, the checksum, and the bytes of the writeback buffer. -/
structure BlendState where
  stageBuffer : LineBuffer
  outputBuffer : LineBuffer
  crc32 : UInt32
  writeback : Int → UInt8

/-- The pixels of the line. -/
def LineBuffer.line (buffer : LineBuffer) : List PixelArgbU16 :=
  (List.range buffer.nPixels).map fun x : Nat ↦ buffer.pixels x

/-- The body of the loop in `blend`. -/
def blendRow (calls : ComposerCalls) (wb : Option VkmsWritebackJob) (crtc : ComposedCrtc)
    (s : BlendState) (y : Nat) : BlendState :=
  let outputBuffer := fillBackground crtc.backgroundColor s.outputBuffer
  let buffers := crtc.activePlanes.foldl
    (fun buffers plane ↦ blendLine calls plane y crtc.hdisplay buffers)
    (s.stageBuffer, outputBuffer)
  let outputBuffer := applyLut calls.fixed crtc.gammaLut buffers.2
  { stageBuffer := buffers.1
    outputBuffer := outputBuffer
    crc32 := calls.crc32 s.crc32 outputBuffer.line
    writeback :=
      match wb with
      | none => s.writeback
      | some wb => vkmsWritebackRow wb outputBuffer y s.writeback }

/-- All lines of a CRTC, from the top. -/
def blend (calls : ComposerCalls) (wb : Option VkmsWritebackJob) (crtc : ComposedCrtc)
    (s : BlendState) : BlendState :=
  (List.range crtc.vdisplay).foldl (blendRow calls wb crtc) s

end VirtualDisplay
