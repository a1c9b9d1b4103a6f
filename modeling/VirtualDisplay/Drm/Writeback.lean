import VirtualDisplay.Drm.PixelLines
import VirtualDisplay.Lib.Bits
import VirtualDisplay.Lib.Span

/-!
# Writing frames back

A writeback connector asks for the composed frame: each row that the composer has finished is
converted and stored in the buffer of the job (`vkms_writeback_row`).

* `writebackRows_stored` — the rows are in the buffer, byte by byte, and nothing else is touched.
* `readPixel_writebackRows` — a plane that shows the buffer afterwards shows the composed pixels,
  rounded to what the format keeps.

## What is here

* `getPixelWriteFunction` — the six formats a writeback buffer may have, each with its conversion as
  the source has it (`argbU16ToArgb8888`, `argbU16ToRgb565` and so on).
* `VkmsWritebackJob.Fits` — the buffer has room for its rows, at offsets that fit into an `int`;
  then rows do not overlap.
* `keep8`, `WritebackFormat.keep` — what is left of a channel: it is rounded to the nearest of 256
  steps, and a channel that was widened from eight bits comes back as it was (`keep8_widened`).

The bytes are stored by pointer arithmetic in the source; here they are blocks of a memory, and the
rules for them are those of `Lib/Span.lean`.
-/

set_option autoImplicit false

namespace VirtualDisplay

/-! ## Writers -/

/-- The bytes that are stored from `out_pixel` on. -/
abbrev PixelWrite : Type := PixelArgbU16 → List UInt8

/-- `DIV_ROUND_CLOSEST(channel, 257)` -/
def narrow (channel : UInt16) : UInt8 := (divRoundClosest channel.toUInt32 257).toUInt8

/-- `cpu_to_le16` -/
def le16Bytes (word : UInt16) : List UInt8 := [word.toUInt8, (word >>> 8).toUInt8]

/-- The writers, each with the bytes of a pixel from the lowest address on. -/
def argbU16ToArgb8888 : PixelWrite := fun pixel ↦
  [narrow pixel.b, narrow pixel.g, narrow pixel.r, narrow pixel.a]

def argbU16ToXrgb8888 : PixelWrite := fun pixel ↦
  [narrow pixel.b, narrow pixel.g, narrow pixel.r, 0xff]

def argbU16ToAbgr8888 : PixelWrite := fun pixel ↦
  [narrow pixel.r, narrow pixel.g, narrow pixel.b, narrow pixel.a]

def argbU16ToArgb16161616 : PixelWrite := fun pixel ↦
  le16Bytes pixel.b ++ le16Bytes pixel.g ++ le16Bytes pixel.r ++ le16Bytes pixel.a

def argbU16ToXrgb16161616 : PixelWrite := fun pixel ↦
  le16Bytes pixel.b ++ le16Bytes pixel.g ++ le16Bytes pixel.r ++ le16Bytes 0xffff

/-- Five or six bits a channel, scaled down in fixed point. -/
def argbU16ToRgb565 (fixed : DrmFixed) : PixelWrite := fun pixel ↦
  let fpRbRatio := fixed.div (fixed.int2fixp 65535) (fixed.int2fixp 31)
  let fpGRatio := fixed.div (fixed.int2fixp 65535) (fixed.int2fixp 63)
  let r := UInt16.ofInt (fixed.fixp2int (fixed.div (fixed.int2fixp pixel.r.toNat) fpRbRatio))
  let g := UInt16.ofInt (fixed.fixp2int (fixed.div (fixed.int2fixp pixel.g.toNat) fpGRatio))
  let b := UInt16.ofInt (fixed.fixp2int (fixed.div (fixed.int2fixp pixel.b.toNat) fpRbRatio))
  le16Bytes (r <<< 11 ||| g <<< 5 ||| b)

/-- The formats of a writeback connector, `vkms_wb_formats`. -/
inductive WritebackFormat where
  | argb8888
  | xrgb8888
  | abgr8888
  | xrgb16161616
  | argb16161616
  | rgb565
  deriving DecidableEq, Repr

namespace WritebackFormat

/-- The writer of a format. -/
def getPixelWriteFunction (fixed : DrmFixed) : WritebackFormat → PixelWrite
  | .argb8888 => argbU16ToArgb8888
  | .xrgb8888 => argbU16ToXrgb8888
  | .abgr8888 => argbU16ToAbgr8888
  | .argb16161616 => argbU16ToArgb16161616
  | .xrgb16161616 => argbU16ToXrgb16161616
  | .rgb565 => argbU16ToRgb565 fixed

/-- The bytes of a pixel. -/
def bytes : WritebackFormat → Nat
  | .argb8888 | .xrgb8888 | .abgr8888 => 4
  | .xrgb16161616 | .argb16161616 => 8
  | .rgb565 => 2

/-- The same format of a plane. -/
def pixelFormat : WritebackFormat → PixelFormat
  | .argb8888 => .argb8888
  | .xrgb8888 => .xrgb8888
  | .abgr8888 => .abgr8888
  | .xrgb16161616 => .xrgb16161616
  | .argb16161616 => .argb16161616
  | .rgb565 => .rgb565

end WritebackFormat

/-! ## Rows -/

/-- `struct drm_rect` -/
structure DrmRect where
  x1 : Int
  y1 : Int
  x2 : Int
  y2 : Int
  deriving DecidableEq, Repr

namespace DrmRect

/-- `DRM_RECT_INIT` -/
def init (x y width height : Int) : DrmRect := ⟨x, y, x + width, y + height⟩

/-- The pixels of a line. -/
def width (r : DrmRect) : Int := r.x2 - r.x1

/-- The lines. -/
def height (r : DrmRect) : Int := r.y2 - r.y1

/-- The rectangle moved. -/
def translate (r : DrmRect) (dx dy : Int) : DrmRect := ⟨r.x1 + dx, r.y1 + dy, r.x2 + dx, r.y2 + dy⟩

end DrmRect

/-- The memory around a line of `n_pixels` pixels; its places from 0 on are the line. -/
structure LineBuffer where
  nPixels : Nat
  pixels : Int → PixelArgbU16

/-- `struct vkms_writeback_job` without the bytes -/
structure VkmsWritebackJob where
  fb : DrmFramebuffer
  dst : DrmRect
  pixelWrite : PixelWrite

/-- Changes the bytes behind `map[0].vaddr`. -/
def vkmsWritebackRow (wb : VkmsWritebackJob) (srcBuffer : LineBuffer) (y : Int)
    (map : Int → UInt8) : Int → UInt8 :=
  let dstPixels := (wb.fb.packedPixelsOffset wb.dst.x1 y 0).offset
  let xLimit := min wb.dst.width.toNat srcBuffer.nPixels
  Span.writeBlocks (fun x ↦ wb.pixelWrite (srcBuffer.pixels x)) (wb.fb.format.charPerBlock 0) xLimit
    0 dstPixels map

/-- The first `n` rows of a frame, one behind the other. -/
def writebackRows (wb : VkmsWritebackJob) (row : Nat → LineBuffer) (map : Int → UInt8) :
    Nat → (Int → UInt8)
  | 0 => map
  | n + 1 => vkmsWritebackRow wb (row n) n (writebackRows wb row map n)

/-! ## What is stored -/

/-- The job is for the whole of its buffer, as the checks of the connector leave it, and its pixels
are stored side by side. -/
structure VkmsWritebackJob.Fits (wb : VkmsWritebackJob) : Prop where
  dst : wb.dst = .init 0 0 wb.fb.width wb.fb.height
  width_pos : 0 < wb.fb.width
  bytes : ∀ pixel, (wb.pixelWrite pixel).length = wb.fb.format.charPerBlock 0
  row : wb.fb.width * wb.fb.format.charPerBlock 0 ≤ wb.fb.pitches 0
  blocks : wb.fb.format.Blocks 1 1
  fits : wb.fb.FitsInt 1

section

variable {wb : VkmsWritebackJob} {srcBuffer : LineBuffer} {map : Int → UInt8}
  {row : Nat → LineBuffer}

theorem VkmsWritebackJob.Fits.sampleOffset_eq (h : wb.Fits) (x y : Int) :
    wb.fb.sampleOffset 0 x y =
      wb.fb.offsets 0 + y * wb.fb.pitches 0 + x * wb.fb.format.charPerBlock 0 := by
  simp [DrmFramebuffer.sampleOffset, DrmFormatInfo.subX, DrmFormatInfo.subY,
    h.blocks.blockWidth 0 one_pos, h.blocks.blockHeight 0 one_pos]

/-- A row of the buffer, as blocks. -/
theorem vkmsWritebackRow_eq (h : wb.Fits) (hpixels : srcBuffer.nPixels = wb.fb.width) {y : Nat}
    (hy : y < wb.fb.height) :
    vkmsWritebackRow wb srcBuffer y map =
      Span.writeBlocks (fun x ↦ wb.pixelWrite (srcBuffer.pixels x))
        (wb.fb.format.charPerBlock 0) wb.fb.width 0 (wb.fb.sampleOffset 0 0 y) map := by
  have hpos := h.width_pos
  have hoffset := (packedPixelsAddr1x1_eq (x := 0) (y := y) h.blocks h.fits
    ⟨le_rfl, Int.natCast_pos.mpr hpos, Int.natCast_nonneg y, Int.ofNat_lt.mpr hy⟩).1 one_pos
  rw [DrmFramebuffer.packedPixelsAddr1x1] at hoffset
  simp only [vkmsWritebackRow, h.dst, DrmRect.init, DrmRect.width, hoffset, hpixels]
  simp

/-- Rows do not overlap. -/
theorem VkmsWritebackJob.Fits.rows_apart (h : wb.Fits) {y y' : Nat} (hlt : y < y') {k : Int}
    (hk : k < wb.fb.sampleOffset 0 0 y + wb.fb.width * wb.fb.format.charPerBlock 0) :
    k < wb.fb.sampleOffset 0 0 y' := by
  have hrow : (wb.fb.width * wb.fb.format.charPerBlock 0 : Int) ≤ wb.fb.pitches 0 := by
    exact_mod_cast h.row
  rw [h.sampleOffset_eq] at hk ⊢
  have hpitch : (y + 1 : Int) * wb.fb.pitches 0 ≤ y' * wb.fb.pitches 0 :=
    mul_le_mul_of_nonneg_right (by omega) (Int.natCast_nonneg _)
  linarith

/-- The `n` rows so far are stored, and nothing but the bytes of their pixels is touched. -/
theorem writebackRows_stored (map : Int → UInt8) (h : wb.Fits)
    (hpixels : ∀ y, (row y).nPixels = wb.fb.width) {n : Nat} (hn : n ≤ wb.fb.height) :
    (∀ y < n, ∀ x < wb.fb.width, ∀ k byte,
      (wb.pixelWrite ((row y).pixels x))[k]? = some byte →
        writebackRows wb row map n (wb.fb.sampleOffset 0 x y + (k : Nat)) = byte) ∧
    ∀ a, (∀ y < n, a < wb.fb.sampleOffset 0 0 y ∨
      wb.fb.sampleOffset 0 0 y + wb.fb.width * wb.fb.format.charPerBlock 0 ≤ a) →
        writebackRows wb row map n a = map a := by
  induction n with
  | zero => exact ⟨fun y hy ↦ absurd hy (Nat.not_lt_zero y), fun a _ ↦ rfl⟩
  | succ n ih =>
    obtain ⟨hstored, houtside⟩ := ih (by omega)
    rw [writebackRows, vkmsWritebackRow_eq h (hpixels n) (by omega)]
    refine ⟨fun y hy x hx k byte hbyte ↦ ?_, fun a ha ↦ ?_⟩
    · have hplace : wb.fb.sampleOffset 0 x y + (k : Int) =
          wb.fb.sampleOffset 0 0 y + x * wb.fb.format.charPerBlock 0 + k := by
        rw [h.sampleOffset_eq, h.sampleOffset_eq]
        ring
      obtain hlt | rfl := Nat.lt_succ_iff_lt_or_eq.mp hy
      · -- An older row lies before the new one.
        have hk : k < wb.fb.format.charPerBlock 0 := by
          rw [← h.bytes ((row y).pixels x)]
          exact (List.getElem?_eq_some_iff.mp hbyte).1
        rw [Span.writeBlocks_of_outside (fun x ↦ h.bytes _) (.inl ?_)]
        · exact hstored y hlt x hx k byte hbyte
        · refine h.rows_apart hlt ?_
          rw [hplace]
          have hx' : ((x + 1 : Nat) : Int) * wb.fb.format.charPerBlock 0 ≤
              wb.fb.width * wb.fb.format.charPerBlock 0 :=
            mul_le_mul_of_nonneg_right (by omega) (Int.natCast_nonneg _)
          rw [Nat.cast_succ, add_mul, one_mul] at hx'
          omega
      · rw [hplace]
        exact Span.writeBlocks_of_getElem? (fun x ↦ h.bytes _) hx (by rwa [zero_add])
    · rw [Span.writeBlocks_of_outside (fun x ↦ h.bytes _) (ha n (by omega))]
      exact houtside a fun y hy ↦ ha y (by omega)

end

/-! ## Reading back -/

theorem toNat_narrow (channel : UInt16) : (narrow channel).toNat = (channel.toNat + 128) / 257 := by
  have hlt := channel.toNat_lt
  have hsum : (channel.toUInt32 + 257 / 2).toNat = channel.toNat + 128 := by
    rw [UInt32.toNat_add, UInt16.toNat_toUInt32, Nat.mod_eq_of_lt]
    · rfl
    · exact (by omega : channel.toNat + 128 < 4294967296)
  rw [narrow, divRoundClosest, UInt32.toNat_toUInt8, UInt32.toNat_div, hsum]
  exact Nat.mod_eq_of_lt (by
    have h257 : (257 : UInt32).toNat = 257 := rfl
    rw [h257]
    omega)

/-- What eight bits keep of a channel. -/
def keep8 (channel : UInt16) : UInt16 := (narrow channel).toUInt16 * 257

theorem toNat_keep8 (channel : UInt16) :
    (keep8 channel).toNat = (channel.toNat + 128) / 257 * 257 := by
  have hlt := channel.toNat_lt
  rw [keep8, UInt16.toNat_mul, UInt8.toNat_toUInt16, toNat_narrow]
  exact Nat.mod_eq_of_lt (by
    have h257 : (257 : UInt16).toNat = 257 := rfl
    rw [h257]
    omega)

theorem keep8_widened (byte : UInt8) : keep8 (byte.toUInt16 * 257) = byte.toUInt16 * 257 := by
  have hlt := byte.toNat_lt
  have hwide : (byte.toUInt16 * 257).toNat = byte.toNat * 257 := by
    rw [UInt16.toNat_mul, UInt8.toNat_toUInt16]
    exact Nat.mod_eq_of_lt (by
      have h257 : (257 : UInt16).toNat = 257 := rfl
      rw [h257]
      omega)
  refine UInt16.toNat_inj.mp ?_
  rw [toNat_keep8, hwide]
  omega

/-- What a buffer of the format keeps of a pixel. -/
def WritebackFormat.keep (fixed : DrmFixed) (format : WritebackFormat) (pixel : PixelArgbU16) :
    PixelArgbU16 :=
  match format with
  | .argb8888 | .abgr8888 =>
    { a := keep8 pixel.a, r := keep8 pixel.r, g := keep8 pixel.g, b := keep8 pixel.b }
  | .xrgb8888 => { a := 0xffff, r := keep8 pixel.r, g := keep8 pixel.g, b := keep8 pixel.b }
  | .argb16161616 => pixel
  | .xrgb16161616 => { pixel with a := 0xffff }
  | .rgb565 => argbU16FromRgb565 fixed fun k ↦ (argbU16ToRgb565 fixed pixel).getD k 0

theorem le16_of_bytes {px : PixelBytes} {k : Nat} {word : UInt16} (hlow : px (2 * k) = word.toUInt8)
    (hhigh : px (2 * k + 1) = (word >>> 8).toUInt8) : le16 px k = word := by
  have hlt := word.toNat_lt
  have hshift : (word >>> 8).toNat = word.toNat / 2 ^ 8 := Bits.toNat_shiftRight16 word (by decide)
  refine UInt16.toNat_inj.mp ?_
  rw [le16, hlow, hhigh, Bits.toNat_pair16, UInt16.toNat_toUInt8, UInt16.toNat_toUInt8, hshift]
  omega

section

variable {wb : VkmsWritebackJob} {map : Int → UInt8} {row : Nat → LineBuffer}
  {format : WritebackFormat} {fixed : DrmFixed}

/-- **Reading a frame back.**  A plane that shows the buffer of a finished job shows the pixels that
were composed, as far as the format keeps them. -/
theorem readPixel_writebackRows (map : Int → UInt8) (h : wb.Fits)
    (hwrite : wb.pixelWrite = format.getPixelWriteFunction fixed)
    (hpixels : ∀ y, (row y).nPixels = wb.fb.width) {x y : Nat} (hx : x < wb.fb.width)
    (hy : y < wb.fb.height) (matrix : ConversionMatrix) :
    readPixel (getPixelReadLineFunction fixed format.pixelFormat)
        ⟨wb.fb, writebackRows wb row map wb.fb.height⟩ matrix x y =
      format.keep fixed ((row y).pixels x) := by
  set frame : VkmsFrame := ⟨wb.fb, writebackRows wb row map wb.fb.height⟩ with hframe
  have hpixel : ∀ callback, readPixel (readLine callback) frame matrix x y =
      callback (frame.bytesAt (wb.fb.sampleOffset 0 x y)) := fun callback ↦
    (readLine_readsPixels callback h.blocks h.fits).readPixel_eq matrix
      ⟨Int.natCast_nonneg x, Int.ofNat_lt.mpr hx, Int.natCast_nonneg y, Int.ofNat_lt.mpr hy⟩
  have hbyte : ∀ k byte, ((row y).pixels x |> wb.pixelWrite)[k]? = some byte →
      frame.bytesAt (wb.fb.sampleOffset 0 x y) k = byte := fun k byte hk ↦
    (writebackRows_stored map h hpixels le_rfl).1 y hy x hx k byte hk
  rw [hwrite] at hbyte
  cases format with
  | argb8888 =>
    rw [WritebackFormat.pixelFormat, getPixelReadLineFunction, argb8888ReadLine, readLineArgb8888,
      hpixel, hbyte 0 _ rfl, hbyte 1 _ rfl, hbyte 2 _ rfl, hbyte 3 _ rfl]
    rfl
  | xrgb8888 =>
    rw [WritebackFormat.pixelFormat, getPixelReadLineFunction, xrgb8888ReadLine, readLineArgb8888,
      hpixel, hbyte 0 _ rfl, hbyte 1 _ rfl, hbyte 2 _ rfl]
    rfl
  | abgr8888 =>
    rw [WritebackFormat.pixelFormat, getPixelReadLineFunction, abgr8888ReadLine, readLineArgb8888,
      hpixel, hbyte 0 _ rfl, hbyte 1 _ rfl, hbyte 2 _ rfl, hbyte 3 _ rfl]
    rfl
  | argb16161616 =>
    rw [WritebackFormat.pixelFormat, getPixelReadLineFunction, argb16161616ReadLine,
      readLineLe16161616, hpixel, le16_of_bytes (k := 0) (hbyte 0 _ rfl) (hbyte 1 _ rfl),
      le16_of_bytes (k := 1) (hbyte 2 _ rfl) (hbyte 3 _ rfl),
      le16_of_bytes (k := 2) (hbyte 4 _ rfl) (hbyte 5 _ rfl),
      le16_of_bytes (k := 3) (hbyte 6 _ rfl) (hbyte 7 _ rfl)]
    rfl
  | xrgb16161616 =>
    rw [WritebackFormat.pixelFormat, getPixelReadLineFunction, xrgb16161616ReadLine,
      readLineLe16161616, hpixel, le16_of_bytes (k := 0) (hbyte 0 _ rfl) (hbyte 1 _ rfl),
      le16_of_bytes (k := 1) (hbyte 2 _ rfl) (hbyte 3 _ rfl),
      le16_of_bytes (k := 2) (hbyte 4 _ rfl) (hbyte 5 _ rfl)]
    rfl
  | rgb565 =>
    rw [WritebackFormat.pixelFormat, getPixelReadLineFunction, rgb565ReadLine, hpixel]
    have hword : ∀ k, k < 2 → frame.bytesAt (wb.fb.sampleOffset 0 x y) k =
        (argbU16ToRgb565 fixed ((row y).pixels x)).getD k 0 := by
      intro k hk
      interval_cases k <;> exact hbyte _ _ rfl
    have hle16 : le16 (frame.bytesAt (wb.fb.sampleOffset 0 x y)) 0 =
        le16 (fun k ↦ (argbU16ToRgb565 fixed ((row y).pixels x)).getD k 0) 0 := by
      rw [le16, le16, hword 0 (by decide), hword 1 (by decide)]
    rw [argbU16FromRgb565, hle16]
    rfl

end

end VirtualDisplay
