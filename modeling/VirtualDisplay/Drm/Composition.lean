import VirtualDisplay.Drm.Composer

/-!
# What a composed frame shows

The composer works on lines, with one stage buffer for all the planes and rows.  Here its frames are
compared with a plain account of them: each pixel of the CRTC is what the planes show there, one
over the other, where the pixel of a plane is the one that the rotation takes it back to.

* `blendLine_drawn` — a row of a plane blends just the pixels that the plane shows over the output.
* `blend_shown` — the checksum of a frame, and the buffer of a writeback job.
* `blend_copies` — an opaque plane on top is copied exactly.

## What is here

* `sourcePoint`, `sourcePixel`, `shownAt` — what a plane shows at a pixel of the CRTC.
* `VkmsPlaneState.Fits` — the source lies in the framebuffer and the destination in the numbers of
  the composer.  Formats that pack several pixels into a byte are left out where the plane is turned
  on its side, because the step of a vertical line is a whole block there.
* `pixelAt`, `rowAt` — the output, plane over plane, behind the gamma table.
* `Answers` — the writeback job is for a buffer of the size of the CRTC, in one of the formats.
* `PixelFormat.Opaque8` — the formats of eight bits without alpha, in colour or grey.

The rows of a frame are drawn from the top, each over a new background, and what a row does to the
buffers is one lemma, which `after_pixels` and `after_writeback` carry through the loop.
-/

set_option autoImplicit false

namespace VirtualDisplay

/-! ## Blending exactly -/

/-- Colours that are multiplied with alpha do not overflow: the channel is the exact sum,
rounded. -/
theorem toNat_preMulBlendChannel {src dst alpha : UInt16} (h : src.toNat ≤ alpha.toNat) :
    (preMulBlendChannel src dst alpha).toNat =
      (src.toNat * 65535 + dst.toNat * (65535 - alpha.toNat) + 32767) / 65535 := by
  have hdst := dst.toNat_lt
  have halpha := alpha.toNat_lt
  have hffff : (0xffff : UInt32).toNat = 65535 := rfl
  have hle : dst.toNat * (65535 - alpha.toNat) ≤ 65535 * (65535 - alpha.toNat) :=
    Nat.mul_le_mul_right _ (by omega)
  have hcomplement : ((0xffff : UInt32) - alpha.toUInt32).toNat = 65535 - alpha.toNat := by
    rw [UInt32.toNat_sub_of_le _ _ (UInt32.le_iff_toNat_le.mpr (by
      rw [UInt16.toNat_toUInt32, hffff]
      omega)), UInt16.toNat_toUInt32, hffff]
  have hsum : (src.toUInt32 * 0xffff + dst.toUInt32 * (0xffff - alpha.toUInt32) +
      0xffff / 2).toNat = src.toNat * 65535 + dst.toNat * (65535 - alpha.toNat) + 32767 := by
    rw [UInt32.toNat_add, UInt32.toNat_add, UInt32.toNat_mul, UInt32.toNat_mul, hcomplement,
      UInt16.toNat_toUInt32, UInt16.toNat_toUInt32, hffff]
    have hhalf : ((0xffff : UInt32) / 2).toNat = 32767 := rfl
    rw [hhalf]
    omega
  rw [preMulBlendChannel, divRoundClosest, UInt32.toNat_toUInt16, UInt32.toNat_div, hsum, hffff]
  exact Nat.mod_eq_of_lt (by omega)

/-- An opaque pixel hides what is below it. -/
theorem blendPixel_opaque {above below : PixelArgbU16} (h : above.a = 0xffff) :
    blendPixel above below = above := by
  have hchannel : ∀ src dst : UInt16, preMulBlendChannel src dst 0xffff = src := by
    intro src dst
    have hsrc := src.toNat_lt
    have hffff : (0xffff : UInt16).toNat = 65535 := rfl
    refine UInt16.toNat_inj.mp ?_
    rw [toNat_preMulBlendChannel (by rw [hffff]; omega), hffff]
    omega
  rw [blendPixel, h, hchannel, hchannel, hchannel, ← h]

/-! ## The pipeline of a line -/

/-- Whether a pipeline comes to its end does not depend on the pixel. -/
theorem pipelinePixel_isSome (calls : ComposerCalls) (pixel : PixelArgbS32)
    (pipeline : List DrmColorop) :
    (pipelinePixel calls pixel pipeline).isSome = pipeline.all (·.state.isSome) := by
  induction pipeline generalizing pixel with
  | nil => rfl
  | cons colorop next ih =>
    rw [pipelinePixel, List.all_cons]
    cases colorop.state with
    | none => rfl
    | some state => rw [ih, Option.isSome_some, Bool.true_and]

theorem transformPixel_eq_none_iff (calls : ComposerCalls) (pipeline : List DrmColorop)
    (pixel : PixelArgbU16) :
    transformPixel calls pipeline pixel = none ↔ pipeline.all (·.state.isSome) = false := by
  rw [transformPixel, Option.map_eq_none_iff, ← Option.not_isSome_iff_eq_none,
    pipelinePixel_isSome, Bool.not_eq_true]

section

variable {calls : ComposerCalls} {pipeline : List DrmColorop} {n : Nat} {x k : Int}
  {pixels : Int → PixelArgbU16}

theorem preBlendFrom_of_outside (h : k < x ∨ x + n ≤ k) :
    preBlendFrom calls pipeline n x pixels k = pixels k := by
  induction n generalizing x pixels with
  | zero => rfl
  | succ n ih =>
    rw [preBlendFrom]
    cases transformPixel calls pipeline (pixels x) with
    | none => rfl
    | some pixel =>
      have hrest : preBlendFrom calls pipeline n (x + 1) (Function.update pixels x pixel) k =
          Function.update pixels x pixel k := ih (by omega)
      exact hrest.trans (Function.update_of_ne (by omega) _ _)

theorem preBlendFrom_of_inside (h : x ≤ k) (h' : k < x + n) :
    preBlendFrom calls pipeline n x pixels k =
      (transformPixel calls pipeline (pixels k)).getD (pixels k) := by
  induction n generalizing x pixels with
  | zero => omega
  | succ n ih =>
    rw [preBlendFrom]
    cases hx : transformPixel calls pipeline (pixels x) with
    | none =>
      -- The loop ends here, as it would at any other pixel.
      have hk := (transformPixel_eq_none_iff calls pipeline (pixels k)).mpr
        ((transformPixel_eq_none_iff calls pipeline (pixels x)).mp hx)
      rw [hk, Option.getD_none]
    | some pixel =>
      obtain rfl | hlt := eq_or_lt_of_le h
      · have hrest :
            preBlendFrom calls pipeline n (x + 1) (Function.update pixels x pixel) x = pixel :=
          (preBlendFrom_of_outside (.inl (by omega))).trans (Function.update_self _ _ _)
        rw [hx]
        exact hrest
      · have hrest : preBlendFrom calls pipeline n (x + 1) (Function.update pixels x pixel) k =
            (transformPixel calls pipeline (Function.update pixels x pixel k)).getD
              (Function.update pixels x pixel k) := ih (by omega) (by omega)
        rw [Function.update_of_ne hlt.ne'] at hrest
        exact hrest

/-- Each pixel of a line goes through the pipeline. -/
theorem preBlendColorTransform_pixels (outputBuffer : LineBuffer) (k : Int) :
    (preBlendColorTransform calls pipeline outputBuffer).pixels k =
      if 0 ≤ k ∧ k < outputBuffer.nPixels then
        (transformPixel calls pipeline (outputBuffer.pixels k)).getD (outputBuffer.pixels k)
      else outputBuffer.pixels k := by
  by_cases hk : 0 ≤ k ∧ k < outputBuffer.nPixels
  · rw [if_pos hk]
    exact preBlendFrom_of_inside hk.1 (by omega)
  · rw [if_neg hk]
    exact preBlendFrom_of_outside (by omega)

end

/-! ## The pixel of a plane -/

/-- Where reading from left to right in the CRTC goes in the source. -/
def PlaneTurn.direction (t : PlaneTurn) : PixelReadDirection :=
  if t.swap then if t.flipY then .bottomToTop else .topToBottom
  else if t.flipX then .rightToLeft else .leftToRight

theorem directionForRotation_eq (calls : ComposerCalls) (rotation : UInt32) :
    directionForRotation calls rotation = (calls.rotation.turn rotation).direction := by
  obtain ⟨⟨swap, flipX, flipY⟩, ht⟩ : ∃ t, calls.rotation.turn rotation = t := ⟨_, rfl⟩
  simp only [directionForRotation, calls.rotation.rotateInv_eq, ht]
  cases swap <;> cases flipX <;> cases flipY <;>
    simp [DrmRect.turn, DrmRect.init, PlaneTurn.direction]

/-- A line in the buffer is read as it is. -/
theorem clampLineCoordinates_horizontal {direction : PixelReadDirection} {plane : VkmsPlaneState}
    {srcLine : DrmRect} (hdirection : direction = .leftToRight ∨ direction = .rightToLeft)
    (hfb : plane.frame.fb.width < 2147483648) (hleft : 0 ≤ srcLine.x1)
    (hline : srcLine.x1 ≤ srcLine.x2) (hright : srcLine.x2 ≤ plane.frame.fb.width) :
    clampLineCoordinates direction plane srcLine =
      ⟨srcLine.x1, srcLine.y1, plane.dst.x1, srcLine.width⟩ := by
  have hend : cUnsigned (srcLine.x1 + (srcLine.x2 - srcLine.x1)) = srcLine.x2 := by
    rw [add_sub_cancel]
    exact cUnsigned_eq (by omega) (by omega)
  obtain rfl | rfl := hdirection <;>
    simp only [clampLineCoordinates, DrmRect.width, if_neg hleft.not_gt, hend, if_neg hright.not_gt]

theorem clampLineCoordinates_vertical {direction : PixelReadDirection} {plane : VkmsPlaneState}
    {srcLine : DrmRect} (hdirection : direction = .topToBottom ∨ direction = .bottomToTop)
    (hfb : plane.frame.fb.height < 2147483648) (htop : 0 ≤ srcLine.y1)
    (hline : srcLine.y1 ≤ srcLine.y2) (hbottom : srcLine.y2 ≤ plane.frame.fb.height) :
    clampLineCoordinates direction plane srcLine =
      ⟨srcLine.x1, srcLine.y1, plane.dst.x1, srcLine.height⟩ := by
  have hend : cUnsigned (srcLine.y1 + (srcLine.y2 - srcLine.y1)) = srcLine.y2 := by
    rw [add_sub_cancel]
    exact cUnsigned_eq (by omega) (by omega)
  obtain rfl | rfl := hdirection <;>
    simp only [clampLineCoordinates, DrmRect.height, if_neg htop.not_gt, hend,
      if_neg hbottom.not_gt]

namespace VkmsPlaneState

variable (calls : ComposerCalls) (plane : VkmsPlaneState)

/-- The turn that undoes the plane's rotation. -/
def turn : PlaneTurn := calls.rotation.turn plane.rotation

/-- The pixel of the source that is shown at a pixel of the CRTC: the rotation takes the square of
the one back to that of the other. -/
def sourcePoint (x y : Int) : Int × Int :=
  let square := (DrmRect.init x y 1 1).translate (-plane.dst.x1) (-plane.dst.y1)
  let source := (calls.rotation.rotateInv square plane.src.width plane.src.height
    plane.rotation).translate plane.src.x1 plane.src.y1
  (source.x1, source.y1)

/-- The pixel of the plane that a place of the output shows. -/
def sourcePixel (x y : Int) : PixelArgbU16 :=
  let point := plane.sourcePoint calls x y
  readPixel plane.pixelReadLine plane.frame plane.conversionMatrix point.1 point.2

/-- What the plane shows at a pixel of the CRTC. -/
def shownAt (x y : Int) : Option PixelArgbU16 :=
  if plane.dst.x1 ≤ x ∧ x < plane.dst.x2 ∧ plane.dst.y1 ≤ y ∧ y < plane.dst.y2 then
    let pixel := plane.sourcePixel calls x y
    some ((transformPixel calls plane.colorPipeline pixel).getD pixel)
  else none

/-- The plane as the checks of the kernel leave it: its destination starts in the CRTC, its source
is in the buffer, and the two have the same size but for the rotation.  Formats that pack pixels
into bytes are not turned on their side. -/
structure Fits : Prop where
  left : 0 ≤ plane.dst.x1
  srcX : 0 ≤ plane.src.x1 ∧ plane.src.x2 ≤ plane.frame.fb.width
  srcY : 0 ≤ plane.src.y1 ∧ plane.src.y2 ≤ plane.frame.fb.height
  width : plane.dst.width =
    if (plane.turn calls).swap then plane.src.height else plane.src.width
  height : plane.dst.height =
    if (plane.turn calls).swap then plane.src.width else plane.src.height
  reader : ∃ format : PixelFormat,
    plane.pixelReadLine = getPixelReadLineFunction calls.fixed format ∧
    format.Describes plane.frame.fb.format ∧ plane.frame.fb.FitsInt format.planes ∧
    (format.blockWidth = 1 ∨ (plane.turn calls).swap = false)

variable {calls plane}

/-- A pixel further on is a pixel further on in the source, in the reading direction. -/
theorem sourcePoint_add (x y i : Int) :
    plane.sourcePoint calls (x + i) y =
      ((plane.sourcePoint calls x y).1 + i * (plane.turn calls).direction.dx,
        (plane.sourcePoint calls x y).2 + i * (plane.turn calls).direction.dy) := by
  obtain ⟨⟨swap, flipX, flipY⟩, ht⟩ : ∃ t, plane.turn calls = t := ⟨_, rfl⟩
  rw [turn] at ht
  simp only [sourcePoint, calls.rotation.rotateInv_eq, turn, ht]
  cases swap <;> cases flipX <;> cases flipY <;>
    simp [DrmRect.turn, DrmRect.translate, DrmRect.init, PlaneTurn.direction, PixelReadDirection.dx,
      PixelReadDirection.dy] <;> omega

/-- A pixel of the destination shows one of the source. -/
theorem Fits.contains (h : plane.Fits calls) {x y : Int} (hx : plane.dst.x1 ≤ x)
    (hx' : x < plane.dst.x2) (hy : plane.dst.y1 ≤ y) (hy' : y < plane.dst.y2) :
    plane.frame.fb.Contains (plane.sourcePoint calls x y).1 (plane.sourcePoint calls x y).2 := by
  obtain ⟨hsx, hsx'⟩ := h.srcX
  obtain ⟨hsy, hsy'⟩ := h.srcY
  have hwidth := h.width
  have hheight := h.height
  obtain ⟨⟨swap, flipX, flipY⟩, ht⟩ : ∃ t, plane.turn calls = t := ⟨_, rfl⟩
  rw [ht] at hwidth hheight
  rw [turn] at ht
  simp only [sourcePoint, calls.rotation.rotateInv_eq, ht, DrmFramebuffer.Contains]
  cases swap <;> cases flipX <;> cases flipY <;>
    simp [DrmRect.turn, DrmRect.translate, DrmRect.init, DrmRect.width, DrmRect.height]
      at hwidth hheight ⊢ <;> omega

/-- The line of the source for the first `n` pixels of a row is in the buffer: nothing is clamped,
and the reading starts at the pixel that is shown first. -/
theorem Fits.lineCoordinates (h : plane.Fits calls) {y n : Int} (hn : 0 < n)
    (hn' : plane.dst.x1 + n ≤ plane.dst.x2) :
    let srcLine := (calls.rotation.rotateInv
      ((⟨plane.dst.x1, y, plane.dst.x1 + n, y + 1⟩ : DrmRect).translate (-plane.dst.x1)
        (-plane.dst.y1)) plane.src.width plane.src.height plane.rotation).translate plane.src.x1
        plane.src.y1
    let line := clampLineCoordinates (plane.turn calls).direction plane srcLine
    line.dstXStart = plane.dst.x1 ∧ line.pixelCount = n ∧
      (if (plane.turn calls).direction = .rightToLeft then line.srcXStart + (line.pixelCount - 1)
        else line.srcXStart) = (plane.sourcePoint calls plane.dst.x1 y).1 ∧
      (if (plane.turn calls).direction = .bottomToTop then line.srcYStart + (line.pixelCount - 1)
        else line.srcYStart) = (plane.sourcePoint calls plane.dst.x1 y).2 := by
  obtain ⟨hsx, hsx'⟩ := h.srcX
  obtain ⟨hsy, hsy'⟩ := h.srcY
  obtain ⟨format, -, -, hfits, -⟩ := h.reader
  have hwidth := h.width
  have hheight := h.height
  obtain ⟨⟨swap, flipX, flipY⟩, ht⟩ : ∃ t, plane.turn calls = t := ⟨_, rfl⟩
  rw [ht] at hwidth hheight
  have ht' := ht
  rw [turn] at ht'
  simp only [sourcePoint, calls.rotation.rotateInv_eq, ht, ht']
  simp only [DrmRect.width, DrmRect.height] at hwidth hheight
  cases swap with
  | false =>
    simp only [Bool.false_eq_true, if_false] at hwidth hheight
    cases flipX <;> cases flipY <;>
      rw [clampLineCoordinates_horizontal (by simp [PlaneTurn.direction]) hfits.width] <;>
      simp [DrmRect.turn, DrmRect.translate, DrmRect.init, DrmRect.width, DrmRect.height,
        PlaneTurn.direction] <;> omega
  | true =>
    simp only [if_true] at hwidth hheight
    cases flipX <;> cases flipY <;>
      rw [clampLineCoordinates_vertical (by simp [PlaneTurn.direction]) hfits.height] <;>
      simp [DrmRect.turn, DrmRect.translate, DrmRect.init, DrmRect.width, DrmRect.height,
        PlaneTurn.direction] <;> omega

/-- What is read for the first `n` pixels of a row. -/
theorem Fits.readLine_eq (h : plane.Fits calls) {y n : Int} (hn' : plane.dst.x1 + n ≤ plane.dst.x2)
    (hy : plane.dst.y1 ≤ y) (hy' : y < plane.dst.y2) :
    plane.pixelReadLine plane.frame plane.conversionMatrix
        (plane.sourcePoint calls plane.dst.x1 y).1 (plane.sourcePoint calls plane.dst.x1 y).2
        (plane.turn calls).direction n =
      (List.range n.toNat).map fun i : Nat ↦ plane.sourcePixel calls (plane.dst.x1 + i) y := by
  obtain ⟨format, hread, hformat, hfits, hturn⟩ := h.reader
  have hwidth := hformat.blockWidth_eq
  have hrows : format.blockWidth * (plane.turn calls).direction.dy =
      (plane.turn calls).direction.dy := by
    obtain hone | hswap := hturn
    · rw [hone, Nat.cast_one, one_mul]
    · rw [PlaneTurn.direction, hswap]
      cases (plane.turn calls).flipX <;> rfl
  rw [hread, pixelReadLine_eq_map hformat hfits]
  · simp only [sourcePixel, sourcePoint_add, hrows]
    rw [hread]
  · intro i hi
    have hcontains := h.contains (x := plane.dst.x1 + i) (by omega) (by omega) hy hy'
    rwa [sourcePoint_add, ← hrows, ← hwidth] at hcontains

/-- A row of a plane that starts left of the limit. -/
theorem Fits.blendLine_eq (h : plane.Fits calls) {y limit : Int} (hlimit : plane.dst.x1 < limit)
    (hx : plane.dst.x1 < plane.dst.x2) (hy : plane.dst.y1 ≤ y) (hy' : y < plane.dst.y2)
    (buffers : LineBuffer × LineBuffer) :
    blendLine calls plane y limit buffers =
      let n := min plane.dst.x2 limit - plane.dst.x1
      let stageBuffer := preBlendColorTransform calls plane.colorPipeline
        { buffers.1 with
          pixels := Span.write buffers.1.pixels plane.dst.x1
            ((List.range n.toNat).map fun i : Nat ↦ plane.sourcePixel calls (plane.dst.x1 + i) y) }
      (stageBuffer, preMulAlphaBlend stageBuffer buffers.2 plane.dst.x1 n) := by
  have hleft := h.left
  have hn : 0 < min plane.dst.x2 limit - plane.dst.x1 := by omega
  have hn' : plane.dst.x1 + (min plane.dst.x2 limit - plane.dst.x1) ≤ plane.dst.x2 := by omega
  obtain ⟨hdst, hcount, hstartX, hstartY⟩ := h.lineCoordinates (y := y) hn hn'
  have hmax : max plane.dst.x1 0 = plane.dst.x1 := max_eq_left hleft
  have hwidth : plane.dst.width = plane.dst.x2 - plane.dst.x1 := rfl
  have hmin : min (plane.dst.x1 + (plane.dst.x2 - plane.dst.x1)) limit =
      plane.dst.x1 + (min plane.dst.x2 limit - plane.dst.x1) := by omega
  have hrow : ¬(y < plane.dst.y1 ∨ plane.dst.y2 ≤ y) := by omega
  have hvisible : ¬plane.dst.x1 + (min plane.dst.x2 limit - plane.dst.x1) ≤ plane.dst.x1 := by omega
  have hdirection : directionForRotation calls plane.rotation = (plane.turn calls).direction :=
    directionForRotation_eq calls plane.rotation
  rw [blendLine, if_neg hrow, hdirection]
  simp only [DrmRect.init, hwidth, hmax, hmin]
  rw [if_neg hvisible]
  rw [if_neg (by rw [hcount]; exact hn.not_ge), hstartX, hstartY, hcount, hdst,
    h.readLine_eq hn' hy hy']

end VkmsPlaneState

/-! ## Rows -/

/-- A pixel with what a plane shows over it. -/
def drawOver (below : PixelArgbU16) (shown : Option PixelArgbU16) : PixelArgbU16 :=
  match shown with
  | none => below
  | some above => blendPixel above below

/-- The output has been drawn over within the line.  Beyond the line both buffers are as they
were. -/
structure DrawnOver (limit : Nat) (draw : Int → PixelArgbU16 → PixelArgbU16)
    (before after : LineBuffer × LineBuffer) : Prop where
  stageSize : after.1.nPixels = limit
  outputSize : after.2.nPixels = limit
  inside : ∀ k : Int, 0 ≤ k → k < limit → after.2.pixels k = draw k (before.2.pixels k)
  outside : ∀ k : Int, k < 0 ∨ limit ≤ k →
    after.1.pixels k = before.1.pixels k ∧ after.2.pixels k = before.2.pixels k

theorem DrawnOver.comp {limit : Nat} {draw draw' : Int → PixelArgbU16 → PixelArgbU16}
    {before middle after : LineBuffer × LineBuffer} (h : DrawnOver limit draw before middle)
    (h' : DrawnOver limit draw' middle after) :
    DrawnOver limit (fun k below ↦ draw' k (draw k below)) before after where
  stageSize := h'.stageSize
  outputSize := h'.outputSize
  inside k hk hk' := by rw [h'.inside k hk hk', h.inside k hk hk']
  outside k hk :=
    ⟨(h'.outside k hk).1.trans (h.outside k hk).1, (h'.outside k hk).2.trans (h.outside k hk).2⟩

section

variable {calls : ComposerCalls} {plane : VkmsPlaneState} {limit : Nat} {y : Int}
  {buffers : LineBuffer × LineBuffer}

/-- A plane that shows nothing in the row leaves the buffers as they are. -/
theorem blendLine_of_hidden
    (h : y < plane.dst.y1 ∨ plane.dst.y2 ≤ y ∨ plane.dst.x2 ≤ plane.dst.x1 ∨
      (limit : Int) ≤ plane.dst.x1) (hleft : 0 ≤ plane.dst.x1) :
    blendLine calls plane y limit buffers = buffers := by
  by_cases hrow : y < plane.dst.y1 ∨ plane.dst.y2 ≤ y
  · rw [blendLine, if_pos hrow]
  · have hempty : min (plane.dst.x1 + (plane.dst.x2 - plane.dst.x1)) (limit : Int) ≤
        max plane.dst.x1 0 := by omega
    rw [blendLine, if_neg hrow]
    exact if_pos hempty

/-- **A row of a plane.**  Each pixel that the plane shows is blended over the one that was there;
the stage buffer may hold whatever other rows left in it. -/
theorem VkmsPlaneState.Fits.blendLine_drawn (h : plane.Fits calls)
    (hstage : buffers.1.nPixels = limit) (houtput : buffers.2.nPixels = limit) :
    DrawnOver limit (fun k below ↦ drawOver below (plane.shownAt calls k y)) buffers
      (blendLine calls plane y limit buffers) := by
  have hleft := h.left
  by_cases hhidden : y < plane.dst.y1 ∨ plane.dst.y2 ≤ y ∨ plane.dst.x2 ≤ plane.dst.x1 ∨
      (limit : Int) ≤ plane.dst.x1
  · rw [blendLine_of_hidden hhidden hleft]
    refine ⟨hstage, houtput, fun k hk hk' ↦ ?_, fun k _ ↦ ⟨rfl, rfl⟩⟩
    rw [VkmsPlaneState.shownAt, if_neg (by omega)]
    rfl
  · push Not at hhidden
    obtain ⟨hy, hy', hx, hlimit⟩ := hhidden
    rw [h.blendLine_eq hlimit hx hy hy']
    set n := min plane.dst.x2 (limit : Int) - plane.dst.x1 with hn
    have hlength : ((List.range n.toNat).map fun i : Nat ↦
        plane.sourcePixel calls (plane.dst.x1 + i) y).length = n.toNat := by
      rw [List.length_map, List.length_range]
    refine ⟨hstage, houtput, fun k hk hk' ↦ ?_, fun k hk ↦ ⟨?_, ?_⟩⟩
    · simp only [preMulAlphaBlend]
      by_cases hshown : plane.dst.x1 ≤ k ∧ k < plane.dst.x2
      · -- The pixel has just been read into the stage buffer.
        obtain ⟨i, rfl⟩ : ∃ i : Nat, k = plane.dst.x1 + i := ⟨(k - plane.dst.x1).toNat, by omega⟩
        have hread : ((List.range n.toNat).map fun i : Nat ↦
            plane.sourcePixel calls (plane.dst.x1 + i) y)[i]? =
            some (plane.sourcePixel calls (plane.dst.x1 + i) y) := by
          rw [List.getElem?_map, List.getElem?_range (by omega)]
          rfl
        rw [Span.modify_of_inside (by omega) (by omega), preBlendColorTransform_pixels,
          if_pos ⟨hk, by rw [hstage]; exact hk'⟩, VkmsPlaneState.shownAt, if_pos (by omega)]
        simp only [Span.write_of_getElem? hread]
        rfl
      · rw [Span.modify_of_outside (by omega), VkmsPlaneState.shownAt, if_neg (by omega)]
        rfl
    · rw [preBlendColorTransform_pixels, if_neg (by rw [hstage]; omega)]
      exact Span.write_of_outside (by rw [hlength]; omega)
    · simp only [preMulAlphaBlend]
      rw [Span.modify_of_outside (by omega)]

end

/-! ## Frames that are shown -/

namespace ComposedCrtc

variable (calls : ComposerCalls) (crtc : ComposedCrtc)

/-- A pixel through the gamma table, if there is one. -/
def gammaPixel (pixel : PixelArgbU16) : PixelArgbU16 :=
  match crtc.gammaLut with
  | none => pixel
  | some lut => if lut.lutLength = 0 then pixel else lutPixel calls.fixed lut pixel

/-- What the CRTC should show at a pixel: its planes over each other, the first one over the
background. -/
def pixelAt (x y : Int) : PixelArgbU16 :=
  crtc.gammaPixel calls
    (crtc.activePlanes.foldl (fun below plane ↦ drawOver below (plane.shownAt calls x y))
      crtc.backgroundColor)

/-- A row of the frame. -/
def rowAt (y : Nat) : List PixelArgbU16 :=
  (List.range crtc.hdisplay).map fun x : Nat ↦ crtc.pixelAt calls x y

variable {calls crtc}

theorem foldl_blendLine_drawn {planes : List VkmsPlaneState} {y : Int} {limit : Nat}
    (h : ∀ plane ∈ planes, plane.Fits calls) (buffers : LineBuffer × LineBuffer)
    (hstage : buffers.1.nPixels = limit) (houtput : buffers.2.nPixels = limit) :
    DrawnOver limit
      (fun k below ↦
        planes.foldl (fun below plane ↦ drawOver below (plane.shownAt calls k y)) below) buffers
      (planes.foldl (fun buffers plane ↦ blendLine calls plane y limit buffers) buffers) := by
  induction planes generalizing buffers with
  | nil => exact ⟨hstage, houtput, fun k _ _ ↦ rfl, fun k _ ↦ ⟨rfl, rfl⟩⟩
  | cons plane planes ih =>
    have hplane := (h plane List.mem_cons_self).blendLine_drawn (y := y) hstage houtput
    have hrest := ih (fun plane hmem ↦ h plane (List.mem_cons_of_mem _ hmem)) _ hplane.stageSize
      hplane.outputSize
    exact hplane.comp hrest

theorem applyLut_pixels (calls : ComposerCalls) (crtc : ComposedCrtc) (outputBuffer : LineBuffer) :
    (applyLut calls.fixed crtc.gammaLut outputBuffer).nPixels = outputBuffer.nPixels ∧
    ∀ k : Int, (applyLut calls.fixed crtc.gammaLut outputBuffer).pixels k =
      if 0 ≤ k ∧ k < outputBuffer.nPixels then crtc.gammaPixel calls (outputBuffer.pixels k)
      else outputBuffer.pixels k := by
  cases hlut : crtc.gammaLut with
  | none => simp [applyLut, gammaPixel, hlut]
  | some lut =>
    by_cases hempty : lut.lutLength = 0
    · simp [applyLut, gammaPixel, hlut, hempty]
    · simp only [applyLut, gammaPixel, hlut, if_neg hempty]
      refine ⟨trivial, fun k ↦ ?_⟩
      by_cases hk : 0 ≤ k ∧ k < outputBuffer.nPixels
      · rw [if_pos hk, Span.modify_of_inside hk.1 (by omega)]
      · rw [if_neg hk, Span.modify_of_outside (by omega)]

/-- **A row of a CRTC.**  The line of the output shows what it should; beyond the lines the buffers
are as they were. -/
theorem blendRow_shown (h : ∀ plane ∈ crtc.activePlanes, plane.Fits calls)
    (wb : Option VkmsWritebackJob) {s : BlendState} (hstage : s.stageBuffer.nPixels = crtc.hdisplay)
    (houtput : s.outputBuffer.nPixels = crtc.hdisplay) (y : Nat) :
    DrawnOver crtc.hdisplay (fun x _ ↦ crtc.pixelAt calls x y) (s.stageBuffer, s.outputBuffer)
      ((blendRow calls wb crtc s y).stageBuffer, (blendRow calls wb crtc s y).outputBuffer) := by
  have hdrawn := foldl_blendLine_drawn (y := y) h (s.stageBuffer,
    fillBackground crtc.backgroundColor s.outputBuffer) hstage houtput
  simp only [blendRow]
  set buffers := crtc.activePlanes.foldl (fun buffers plane ↦
    blendLine calls plane y crtc.hdisplay buffers) (s.stageBuffer,
      fillBackground crtc.backgroundColor s.outputBuffer) with hbuffers
  obtain ⟨hsize, hpixels⟩ := applyLut_pixels calls crtc buffers.2
  have hlimit := hdrawn.outputSize
  refine ⟨hdrawn.stageSize, hsize.trans hlimit, fun k hk hk' ↦ ?_, fun k hk ↦ ⟨?_, ?_⟩⟩
  · have hbackground : (fillBackground crtc.backgroundColor s.outputBuffer).pixels k =
        crtc.backgroundColor := Span.modify_of_inside hk (by omega)
    have hinside := hdrawn.inside k hk hk'
    rw [hbackground] at hinside
    rw [hpixels, if_pos ⟨hk, by omega⟩, hinside, pixelAt]
  · exact (hdrawn.outside k hk).1
  · have hbackground : (fillBackground crtc.backgroundColor s.outputBuffer).pixels k =
        s.outputBuffer.pixels k := Span.modify_of_outside (by omega)
    rw [hpixels, if_neg (by omega), (hdrawn.outside k hk).2, hbackground]

/-! ## Frames -/

/-- Behind the first `n` rows. -/
def after (calls : ComposerCalls) (wb : Option VkmsWritebackJob) (crtc : ComposedCrtc)
    (s : BlendState) (n : Nat) : BlendState :=
  (List.range n).foldl (blendRow calls wb crtc) s

section

variable (wb : Option VkmsWritebackJob) {s : BlendState}

theorem after_succ (s : BlendState) (n : Nat) :
    after calls wb crtc s (n + 1) = blendRow calls wb crtc (after calls wb crtc s n) n := by
  rw [after, List.range_succ, List.foldl_append]
  rfl

/-- The buffers keep their sizes, and what lies around them is not touched. -/
theorem after_buffers (h : ∀ plane ∈ crtc.activePlanes, plane.Fits calls)
    (hstage : s.stageBuffer.nPixels = crtc.hdisplay)
    (houtput : s.outputBuffer.nPixels = crtc.hdisplay) (n : Nat) :
    (after calls wb crtc s n).stageBuffer.nPixels = crtc.hdisplay ∧
      (after calls wb crtc s n).outputBuffer.nPixels = crtc.hdisplay ∧
      ∀ k : Int, k < 0 ∨ crtc.hdisplay ≤ k →
        (after calls wb crtc s n).stageBuffer.pixels k = s.stageBuffer.pixels k ∧
        (after calls wb crtc s n).outputBuffer.pixels k = s.outputBuffer.pixels k := by
  induction n with
  | zero => exact ⟨hstage, houtput, fun k _ ↦ ⟨rfl, rfl⟩⟩
  | succ n ih =>
    obtain ⟨hstage', houtput', houtside⟩ := ih
    have hrow := blendRow_shown h wb hstage' houtput' n
    rw [after_succ]
    exact ⟨hrow.stageSize, hrow.outputSize, fun k hk ↦
      ⟨(hrow.outside k hk).1.trans (houtside k hk).1,
        (hrow.outside k hk).2.trans (houtside k hk).2⟩⟩

/-- Each row of the frame shows what it should. -/
theorem after_pixels (h : ∀ plane ∈ crtc.activePlanes, plane.Fits calls)
    (hstage : s.stageBuffer.nPixels = crtc.hdisplay)
    (houtput : s.outputBuffer.nPixels = crtc.hdisplay) (y : Nat) {x : Nat}
    (hx : x < crtc.hdisplay) :
    (after calls wb crtc s (y + 1)).outputBuffer.pixels x = crtc.pixelAt calls x y := by
  obtain ⟨hstage', houtput', -⟩ := after_buffers wb h hstage houtput y
  rw [after_succ]
  exact (blendRow_shown h wb hstage' houtput' y).inside x (Int.natCast_nonneg x)
    (Int.ofNat_lt.mpr hx)

theorem after_crc32 (h : ∀ plane ∈ crtc.activePlanes, plane.Fits calls)
    (hstage : s.stageBuffer.nPixels = crtc.hdisplay)
    (houtput : s.outputBuffer.nPixels = crtc.hdisplay) (n : Nat) :
    (after calls wb crtc s n).crc32 =
      (List.range n).foldl (fun crc y ↦ calls.crc32 crc (crtc.rowAt calls y)) s.crc32 := by
  induction n with
  | zero => rfl
  | succ n ih =>
    have hsize := (after_buffers wb h hstage houtput (n + 1)).2.1
    have hline : (after calls wb crtc s (n + 1)).outputBuffer.line = crtc.rowAt calls n := by
      rw [LineBuffer.line, rowAt, hsize]
      exact List.map_congr_left fun x hx ↦
        after_pixels wb h hstage houtput n (List.mem_range.mp hx)
    have hcrc : (after calls wb crtc s (n + 1)).crc32 =
        calls.crc32 (after calls wb crtc s n).crc32
          (after calls wb crtc s (n + 1)).outputBuffer.line := by
      rw [after_succ]
      rfl
    rw [hcrc, hline, ih, List.range_succ, List.foldl_append]
    rfl

/-- The rows go to the job one behind the other. -/
theorem after_writeback (calls : ComposerCalls) (crtc : ComposedCrtc) (job : VkmsWritebackJob)
    (s : BlendState) (n : Nat) :
    (after calls (some job) crtc s n).writeback =
      writebackRows job (fun y ↦ (after calls (some job) crtc s (y + 1)).outputBuffer) s.writeback
        n := by
  induction n with
  | zero => rfl
  | succ n ih =>
    rw [writebackRows, ← ih, after_succ]
    rfl

end

/-- The job is for a buffer of the CRTC's size in this format. -/
structure Answers (calls : ComposerCalls) (crtc : ComposedCrtc) (job : VkmsWritebackJob)
    (format : WritebackFormat) : Prop where
  fits : job.Fits
  width : job.fb.width = crtc.hdisplay
  height : job.fb.height = crtc.vdisplay
  pixelWrite : job.pixelWrite = format.getPixelWriteFunction calls.fixed

end ComposedCrtc

/-! ## A small CRTC -/

/-- `drm_rect_rotate_inv`, for the bits of its rotations and reflections. -/
def drmRectRotateInv : RectRotation where
  rotateInv r width height rotation :=
    let r :=
      if rotation &&& 15 = 2 then ⟨width - r.y2, r.x1, width - r.y1, r.x2⟩
      else if rotation &&& 15 = 4 then ⟨width - r.x2, height - r.y2, width - r.x1, height - r.y1⟩
      else if rotation &&& 15 = 8 then ⟨r.y1, height - r.x2, r.y2, height - r.x1⟩
      else r
    let r :=
      if rotation &&& 16 ≠ 0 then { r with x1 := width - r.x2, x2 := width - r.x1 } else r
    if rotation &&& 32 ≠ 0 then { r with y1 := height - r.y2, y2 := height - r.y1 } else r
  turn rotation :=
    { swap := rotation &&& 15 = 2 || rotation &&& 15 = 8
      flipX := (rotation &&& 15 = 2 || rotation &&& 15 = 4) != (rotation &&& 16 ≠ 0)
      flipY := (rotation &&& 15 = 4 || rotation &&& 15 = 8) != (rotation &&& 32 ≠ 0) }
  rotateInv_eq r width height rotation := by
    generalize rotation &&& 15 = turns
    simp only [DrmRect.turn]
    by_cases hx : rotation &&& 16 = 0 <;> by_cases hy : rotation &&& 32 = 0 <;>
      by_cases h2 : turns = 2 <;> by_cases h4 : turns = 4 <;> by_cases h8 : turns = 8 <;>
      simp_all

/-- `crc32_le`, byte by byte. -/
def crc32Le (crc : UInt32) (pixels : List PixelArgbU16) : UInt32 :=
  (pixels.flatMap fun pixel ↦
    le16Bytes pixel.a ++ le16Bytes pixel.r ++ le16Bytes pixel.g ++ le16Bytes pixel.b).foldl
      (fun crc byte ↦
        (List.range 8).foldl
          (fun crc _ ↦ (crc >>> 1) ^^^ (if crc &&& 1 = 1 then 0xedb88320 else 0))
          (crc ^^^ byte.toUInt32)) crc

/-- Without colour pipelines, which alone use the tables. -/
def plainCalls : ComposerCalls where
  fixed := drmFixed
  rotation := drmRectRotateInv
  srgbEotf := ⟨fun _ ↦ ⟨0, 0, 0⟩, 0, 0⟩
  srgbInvEotf := ⟨fun _ ↦ ⟨0, 0, 0⟩, 0, 0⟩
  crc32 := crc32Le

/-- Two by two pixels of four bytes. -/
def smallBuffer : DrmFramebuffer where
  format :=
    { charPerBlock := fun _ ↦ 4
      blockWidth := fun _ ↦ 1
      blockHeight := fun _ ↦ 1
      hsub := 1
      vsub := 1 }
  width := 2
  height := 2
  pitches := fun _ ↦ 8
  offsets := fun _ ↦ 0

theorem smallBuffer_describes : PixelFormat.xrgb8888.Describes smallBuffer.format :=
  ⟨⟨by decide, by decide, by decide, by decide, by decide⟩, by decide⟩

theorem smallBuffer_fitsInt : smallBuffer.FitsInt 1 := by
  refine ⟨by decide, by decide, by decide, ?_⟩
  rintro plane hplane x y ⟨hx, hxw, hy, hyh⟩
  simp only [smallBuffer, Nat.cast_ofNat] at hxw hyh
  interval_cases x <;> interval_cases y <;> revert plane <;> decide

/-- The buffer with different bytes, on its side. -/
def sidewaysPlane : VkmsPlaneState where
  frame := { fb := smallBuffer, map := fun src ↦ .ofInt src }
  src := ⟨0, 0, 2, 2⟩
  dst := ⟨0, 0, 2, 2⟩
  rotation := 2
  pixelReadLine := getPixelReadLineFunction drmFixed .xrgb8888
  conversionMatrix := .noOperation
  colorPipeline := []

theorem sidewaysPlane_fits : sidewaysPlane.Fits plainCalls :=
  ⟨by decide, by decide, by decide, by decide, by decide,
    ⟨.xrgb8888, rfl, smallBuffer_describes, smallBuffer_fitsInt, .inl rfl⟩⟩

/-- A CRTC of two by two pixels with the plane that lies sideways. -/
def smallCrtc : ComposedCrtc where
  activePlanes := [sidewaysPlane]
  gammaLut := none
  backgroundColor := ⟨0xffff, 0, 0, 0⟩
  hdisplay := 2
  vdisplay := 2

theorem smallCrtc_fits : ∀ plane ∈ smallCrtc.activePlanes, plane.Fits plainCalls := by
  intro plane hplane
  obtain rfl : plane = sidewaysPlane := List.mem_singleton.mp hplane
  exact sidewaysPlane_fits

/-- A job that covers the CRTC. -/
def smallJob : VkmsWritebackJob where
  fb := smallBuffer
  dst := ⟨0, 0, 2, 2⟩
  pixelWrite := argbU16ToXrgb8888

theorem smallJob_answers : smallCrtc.Answers plainCalls smallJob .xrgb8888 :=
  ⟨⟨by decide, by decide, fun _ ↦ rfl, by decide, smallBuffer_describes.blocks,
    smallBuffer_fitsInt⟩, rfl, rfl, rfl⟩

/-- Line buffers with something in them. -/
def smallState : BlendState where
  stageBuffer := ⟨2, fun _ ↦ ⟨1, 2, 3, 4⟩⟩
  outputBuffer := ⟨2, fun _ ↦ ⟨5, 6, 7, 8⟩⟩
  crc32 := 0
  writeback := fun _ ↦ 0

/-! ## What a frame shows -/

namespace ComposedCrtc

variable {calls : ComposerCalls} {crtc : ComposedCrtc}

section

variable {job : VkmsWritebackJob} {format : WritebackFormat} {s : BlendState}

theorem after_outputSize (h : ∀ plane ∈ crtc.activePlanes, plane.Fits calls)
    (hjob : Answers calls crtc job format) (hstage : s.stageBuffer.nPixels = crtc.hdisplay)
    (houtput : s.outputBuffer.nPixels = crtc.hdisplay) (y : Nat) :
    (after calls (some job) crtc s (y + 1)).outputBuffer.nPixels = job.fb.width :=
  (after_buffers (some job) h hstage houtput (y + 1)).2.1.trans hjob.width.symm

/-- The buffer of a job shows the frame, as far as its format keeps it. -/
theorem readPixel_blend (h : ∀ plane ∈ crtc.activePlanes, plane.Fits calls)
    (hjob : Answers calls crtc job format) (hstage : s.stageBuffer.nPixels = crtc.hdisplay)
    (houtput : s.outputBuffer.nPixels = crtc.hdisplay) {x y : Nat} (hx : x < crtc.hdisplay)
    (hy : y < crtc.vdisplay) (matrix : ConversionMatrix) :
    readPixel (getPixelReadLineFunction calls.fixed format.pixelFormat)
        ⟨job.fb, (blend calls (some job) crtc s).writeback⟩ matrix x y =
      format.keep calls.fixed (crtc.pixelAt calls x y) := by
  have hread := readPixel_writebackRows s.writeback hjob.fits hjob.pixelWrite
    (after_outputSize h hjob hstage houtput) (hjob.width.symm ▸ hx) (hjob.height.symm ▸ hy) matrix
  rw [after_pixels (some job) h hstage houtput y hx, hjob.height,
    ← after_writeback calls crtc job s crtc.vdisplay] at hread
  exact hread

theorem blend_writeback_of_outside (h : ∀ plane ∈ crtc.activePlanes, plane.Fits calls)
    (hjob : Answers calls crtc job format) (hstage : s.stageBuffer.nPixels = crtc.hdisplay)
    (houtput : s.outputBuffer.nPixels = crtc.hdisplay) {a : Int}
    (ha : ∀ y < crtc.vdisplay, a < job.fb.sampleOffset 0 0 y ∨
      job.fb.sampleOffset 0 0 y + crtc.hdisplay * job.fb.format.charPerBlock 0 ≤ a) :
    (blend calls (some job) crtc s).writeback a = s.writeback a := by
  have houtside := (writebackRows_stored s.writeback hjob.fits
    (after_outputSize h hjob hstage houtput) (n := crtc.vdisplay) hjob.height.ge).2 a
      (by rwa [hjob.width])
  rw [← after_writeback calls crtc job s crtc.vdisplay] at houtside
  exact houtside

end

/-- Without a job nothing is written. -/
theorem after_none_writeback (calls : ComposerCalls) (crtc : ComposedCrtc) (s : BlendState)
    (n : Nat) : (after calls none crtc s n).writeback = s.writeback := by
  induction n with
  | zero => rfl
  | succ n ih =>
    rw [after_succ, ← ih]
    rfl

/-- **A frame of a CRTC.**  The checksum of a frame is that of the pixels that the planes show, with
a writeback job or without one.  A plane that shows the buffer of the job afterwards shows them too,
as far as its format keeps them, and neither the buffer nor the lines are written beyond their
ends. -/
theorem blend_shown (h : ∀ plane ∈ crtc.activePlanes, plane.Fits calls)
    (wb : Option VkmsWritebackJob) {s : BlendState} (hstage : s.stageBuffer.nPixels = crtc.hdisplay)
    (houtput : s.outputBuffer.nPixels = crtc.hdisplay) :
    let s' := blend calls wb crtc s
    s'.crc32 =
      (List.range crtc.vdisplay).foldl (fun crc y ↦ calls.crc32 crc (crtc.rowAt calls y)) s.crc32 ∧
    (∀ job format, wb = some job → Answers calls crtc job format →
      (∀ x < crtc.hdisplay, ∀ y < crtc.vdisplay, ∀ matrix,
        readPixel (getPixelReadLineFunction calls.fixed format.pixelFormat)
            ⟨job.fb, s'.writeback⟩ matrix x y =
          format.keep calls.fixed (crtc.pixelAt calls x y)) ∧
      ∀ a, (∀ y < crtc.vdisplay, a < job.fb.sampleOffset 0 0 y ∨
        job.fb.sampleOffset 0 0 y + crtc.hdisplay * job.fb.format.charPerBlock 0 ≤ a) →
          s'.writeback a = s.writeback a) ∧
    (wb = none → s'.writeback = s.writeback) ∧
    ∀ k : Int, k < 0 ∨ crtc.hdisplay ≤ k →
      s'.stageBuffer.pixels k = s.stageBuffer.pixels k ∧
      s'.outputBuffer.pixels k = s.outputBuffer.pixels k := by
  refine ⟨after_crc32 wb h hstage houtput crtc.vdisplay, ?_, ?_,
    (after_buffers wb h hstage houtput crtc.vdisplay).2.2⟩
  · rintro job format rfl hjob
    exact ⟨fun x hx y hy matrix ↦ readPixel_blend h hjob hstage houtput hx hy matrix,
      fun a ha ↦ blend_writeback_of_outside h hjob hstage houtput ha⟩
  · rintro rfl
    exact after_none_writeback calls crtc s crtc.vdisplay

/-- A plane on its side, without a job and with one. -/
theorem smallCrtc_shown :
    (blend plainCalls none smallCrtc smallState).crc32 =
        (List.range 2).foldl (fun crc y ↦ crc32Le crc (smallCrtc.rowAt plainCalls y)) 0 ∧
      readPixel (getPixelReadLineFunction drmFixed .xrgb8888)
          ⟨smallBuffer, (blend plainCalls (some smallJob) smallCrtc smallState).writeback⟩
          .noOperation 0 1 =
        WritebackFormat.keep drmFixed .xrgb8888 (smallCrtc.pixelAt plainCalls 0 1) := by
  have hplain := blend_shown smallCrtc_fits none (s := smallState) rfl rfl
  have hwritten := blend_shown smallCrtc_fits (some smallJob) (s := smallState) rfl rfl
  exact ⟨hplain.1, (hwritten.2.1 smallJob .xrgb8888 rfl smallJob_answers).1 0 (by decide) 1
    (by decide) .noOperation⟩

end ComposedCrtc

/-! ## Copies -/

theorem clampU16_toNat (channel : UInt16) : clampU16 (channel.toNat : Int) = channel := by
  have hlt := channel.toNat_lt
  have hclamp : min (max (channel.toNat : Int) 0) 0xffff = channel.toNat := by omega
  rw [clampU16, hclamp, UInt16.ofInt, Int.emod_eq_of_lt (by omega) (by omega),
    Int.toNat_natCast, UInt16.ofNat_toNat]

/-- A format of eight bits without alpha, in colour or grey. -/
def PixelFormat.Opaque8 (format : PixelFormat) : Prop :=
  format = .xrgb8888 ∨ format = .xbgr8888 ∨ format = .rgb888 ∨ format = .bgr888 ∨ format = .r8

namespace ComposedCrtc

section

variable {calls : ComposerCalls} {crtc : ComposedCrtc} {plane : VkmsPlaneState}
  {format : PixelFormat}

theorem sourcePixel_opaque (h : plane.Fits calls) (hformat : format.Opaque8)
    (hread : plane.pixelReadLine = getPixelReadLineFunction calls.fixed format)
    (hdescribes : format.Describes plane.frame.fb.format)
    (hfits : plane.frame.fb.FitsInt format.planes) {x y : Int} (hx : plane.dst.x1 ≤ x)
    (hx' : x < plane.dst.x2) (hy : plane.dst.y1 ≤ y) (hy' : y < plane.dst.y2) :
    ∃ r g b, plane.sourcePixel calls x y = argbU16FromU8888 0xFF r g b := by
  have hcontains := h.contains hx hx' hy hy'
  have hpixel : ∀ callback, plane.frame.fb.format.Blocks 1 1 → plane.frame.fb.FitsInt 1 →
      plane.pixelReadLine = readLine callback →
        ∃ px, plane.sourcePixel calls x y = callback px := by
    intro callback hblocks hfits hread
    rw [VkmsPlaneState.sourcePixel, hread]
    exact ⟨_, (readLine_readsPixels callback hblocks hfits).readPixel_eq _ hcontains⟩
  obtain rfl | rfl | rfl | rfl | rfl := hformat <;>
    simp only [getPixelReadLineFunction, xrgb8888ReadLine, xbgr8888ReadLine, rgb888ReadLine,
      bgr888ReadLine, r8ReadLine, readLineArgb8888] at hread <;>
    obtain ⟨px, hpx⟩ := hpixel _ hdescribes.blocks hfits hread <;>
    exact ⟨_, _, _, hpx⟩

/-- What was widened from eight bits is kept. -/
theorem keep_opaque {job : WritebackFormat} (hjob : job ≠ .rgb565) (fixed : DrmFixed)
    (r g b : UInt8) :
    job.keep fixed (argbU16FromU8888 0xFF r g b) = argbU16FromU8888 0xFF r g b := by
  cases job with
  | rgb565 => exact absurd rfl hjob
  | argb16161616 | xrgb16161616 => rfl
  | argb8888 | abgr8888 => simp only [WritebackFormat.keep, argbU16FromU8888, keep8_widened]
  | xrgb8888 =>
    simp only [WritebackFormat.keep, argbU16FromU8888, keep8_widened]
    rfl

/-- **A copy of the screen.**  Where an opaque plane of eight bits lies on top, with no pipeline and
no gamma table, the buffer of a writeback job shows its pixels unchanged. -/
theorem blend_copies (h : ∀ plane ∈ crtc.activePlanes, plane.Fits calls)
    {job : VkmsWritebackJob} {jobFormat : WritebackFormat}
    (hjob : Answers calls crtc job jobFormat) (hjobFormat : jobFormat ≠ .rgb565)
    {below : List VkmsPlaneState} (htop : crtc.activePlanes = below ++ [plane])
    (hformat : format.Opaque8)
    (hread : plane.pixelReadLine = getPixelReadLineFunction calls.fixed format)
    (hdescribes : format.Describes plane.frame.fb.format)
    (hfits : plane.frame.fb.FitsInt format.planes) (hpipeline : plane.colorPipeline = [])
    (hgamma : crtc.gammaLut = none) {s : BlendState}
    (hstage : s.stageBuffer.nPixels = crtc.hdisplay)
    (houtput : s.outputBuffer.nPixels = crtc.hdisplay) {x y : Nat} (hx : x < crtc.hdisplay)
    (hy : y < crtc.vdisplay) (hdstX : plane.dst.x1 ≤ x ∧ x < plane.dst.x2)
    (hdstY : plane.dst.y1 ≤ y ∧ y < plane.dst.y2) (matrix : ConversionMatrix) :
    readPixel (getPixelReadLineFunction calls.fixed jobFormat.pixelFormat)
        ⟨job.fb, (blend calls (some job) crtc s).writeback⟩ matrix x y =
      plane.sourcePixel calls x y := by
  have hplane : plane.Fits calls := h plane (by rw [htop]; simp)
  obtain ⟨r, g, b, hsource⟩ := sourcePixel_opaque hplane hformat hread hdescribes hfits hdstX.1
    hdstX.2 hdstY.1 hdstY.2
  have htransform : transformPixel calls plane.colorPipeline (plane.sourcePixel calls x y) =
      some (plane.sourcePixel calls x y) := by
    rw [hpipeline, transformPixel, pipelinePixel, Option.map_some]
    simp only [clampU16_toNat]
  have hshown : plane.shownAt calls x y = some (plane.sourcePixel calls x y) := by
    rw [VkmsPlaneState.shownAt, if_pos ⟨hdstX.1, hdstX.2, hdstY.1, hdstY.2⟩]
    simp only [htransform, Option.getD_some]
  have hpixel : crtc.pixelAt calls x y = plane.sourcePixel calls x y := by
    rw [pixelAt, htop, List.foldl_append, List.foldl_cons, List.foldl_nil, hshown, drawOver,
      blendPixel_opaque (by rw [hsource]; rfl), gammaPixel, hgamma]
  rw [readPixel_blend h hjob hstage houtput hx hy matrix, hpixel, hsource,
    keep_opaque hjobFormat]

theorem smallCrtc_copies :
    readPixel (getPixelReadLineFunction drmFixed .xrgb8888)
        ⟨smallBuffer, (blend plainCalls (some smallJob) smallCrtc smallState).writeback⟩
        .noOperation (0 : Nat) (1 : Nat) =
      sidewaysPlane.sourcePixel plainCalls (0 : Nat) (1 : Nat) := by
  have htop : smallCrtc.activePlanes = [] ++ [sidewaysPlane] := rfl
  exact blend_copies smallCrtc_fits smallJob_answers (by decide) htop (.inl rfl) rfl
    smallBuffer_describes smallBuffer_fitsInt rfl rfl (s := smallState) rfl rfl (by decide)
    (by decide) (by decide) (by decide) .noOperation

end

end ComposedCrtc

end VirtualDisplay
