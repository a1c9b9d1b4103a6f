import VirtualDisplay.Edid.RoundTrip

/-!
# The arithmetic of the base timing

A timing is computed in 32- and 64-bit words with truncating divisions; the closed forms here
compute it in the natural numbers.  A line is the width and its blanking (`lineLength`), a frame
the height and its blanking (`frameLines`), and the clock is their product by the refresh rate
in steps of 10 kHz (`baseClock`), for the rate that the base timing falls back to
(`baseRefresh`).  Sizes of at most 4095 leave a frame far below 2^25 pixels, so no product of a
32-bit rate comes near 2^64.

* `toNat_baseRefresh` — the rate of `detailedTimingOptions`.
* `toNat_preferredPixelClockHz` — the clock in hertz, rounded down.
* `toNat_pixelClock10khz` — the clock field, which is never cut at its sixteen bits.
* `covers_createEdid_iff` — when the range limits of an EDID cover its timing.

## What is here

* `EdidOptions.Sanitized` — the bounds of the options; everything here is about options that have
  been sanitized, which `createEdid` sees to.
* `RangeLimits`, `readRangeLimits_createEdid` — the limits as they stand in their descriptor: the
  rates rounded up, and cut at their fixed bounds.
* `min_ceilDiv_mul_le_iff`, `line_rate_iff` — rounding up covers a rate unless the bound cuts it
  off.
* `covers_baseTiming_iff` — for the line rate and the frame rate together.
* `createEdid_uncovered_240hz` — a common mode whose line rate does not fit into its byte.
-/

set_option autoImplicit false

namespace VirtualDisplay

/-! ## Sizes -/

theorem toNat_max32 (a b : UInt32) : (max a b).toNat = max a.toNat b.toNat := by
  show (if a ≤ b then b else a).toNat = _
  split_ifs with h <;> rw [UInt32.le_iff_toNat_le] at h <;> omega

theorem toNat_min32 (a b : UInt32) : (min a b).toNat = min a.toNat b.toNat := by
  show (if a ≤ b then a else b).toNat = _
  split_ifs with h <;> rw [UInt32.le_iff_toNat_le] at h <;> omega

theorem toNat_max64 (a b : UInt64) : (max a b).toNat = max a.toNat b.toNat := by
  show (if a ≤ b then b else a).toNat = _
  split_ifs with h <;> rw [UInt64.le_iff_toNat_le] at h <;> omega

/-- What `sanitizedOptions` leaves of the size and the rate. -/
structure EdidOptions.Sanitized (options : EdidOptions) : Prop where
  width_pos : 1 ≤ options.width.toNat
  width_le : options.width.toNat ≤ 4095
  height_pos : 1 ≤ options.height.toNat
  height_le : options.height.toNat ≤ 4095
  rate_pos : 1 ≤ options.refreshRateMillihz.toNat

theorem toNat_sanitizedOptions_rate (options : EdidOptions) :
    (sanitizedOptions options).refreshRateMillihz.toNat =
      max 1 options.refreshRateMillihz.toNat := by
  have hrate := options.refreshRateMillihz.toNat_lt
  have hclamp : (sanitizedOptions options).refreshRateMillihz.toNat =
      clamp options.refreshRateMillihz.toNat 1 0xffffffff :=
    toNat_clamp UInt32.toNat (fun _ _ ↦ UInt32.lt_iff_toNat_lt) options.refreshRateMillihz 1
      0xffffffff
  rw [hclamp, clamp]
  split_ifs <;> omega

theorem sanitized_sanitizedOptions (options : EdidOptions) :
    (sanitizedOptions options).Sanitized := by
  have hwidth := clamp_bounds (by decide : 1 ≤ 4095) options.width.toNat
  have hheight := clamp_bounds (by decide : 1 ≤ 4095) options.height.toNat
  have hrate := toNat_sanitizedOptions_rate options
  rw [← toNat_sanitizedOptions_width] at hwidth
  rw [← toNat_sanitizedOptions_height] at hheight
  exact ⟨hwidth.1, hwidth.2, hheight.1, hheight.2, by omega⟩

/-- The pixels of a line, blanking included. -/
def lineLength (options : EdidOptions) : Nat :=
  options.width.toNat + (max 160 (options.width.toNat / 5) + 7) / 8 * 8

/-- The lines of a frame, blanking included. -/
def frameLines (options : EdidOptions) : Nat :=
  options.height.toNat + max 45 (options.height.toNat / 20)

theorem toNat_align8 {value : UInt32} (h : value.toNat ≤ 2047) :
    (align8 value).toNat = (value.toNat + 7) / 8 * 8 := by
  have hadd : (value + 7).toNat = value.toNat + 7 := by
    rw [UInt32.toNat_add]
    exact Nat.mod_eq_of_lt (by rw [show (7 : UInt32).toNat = 7 from rfl]; omega)
  have hmask : ((value + 7) &&& ~~~7).toNat = (value.toNat + 7) / 8 * 8 := by
    rw [UInt32.toNat_and, hadd]
    have hlow : (value.toNat + 7 &&& 0xfffffff8) % 2 ^ 3 = 0 := by
      rw [Nat.and_mod_two_pow]
      exact Nat.and_zero _
    have hhigh : (value.toNat + 7 &&& 0xfffffff8) / 2 ^ 3 = (value.toNat + 7) / 2 ^ 3 := by
      rw [Nat.and_div_two_pow, show 0xfffffff8 / 2 ^ 3 = 2 ^ 29 - 1 from rfl,
        Nat.and_two_pow_sub_one_eq_mod]
      omega
    have hconst : (~~~7 : UInt32).toNat = 0xfffffff8 := rfl
    rw [hconst]
    omega
  rw [align8, UInt32.toNat_toUInt16, hmask]
  omega

section

variable {options : EdidOptions} (hsanitized : options.Sanitized)
include hsanitized

theorem toNat_horizontalBlanking :
    (horizontalBlanking options).toNat = (max 160 (options.width.toNat / 5) + 7) / 8 * 8 := by
  have hwidth := hsanitized.width_le
  have hclamp : (clamp (options.width / 5) 160 2047).toNat =
      clamp (options.width.toNat / 5) 160 2047 :=
    toNat_clamp UInt32.toNat (fun _ _ ↦ UInt32.lt_iff_toNat_lt) (options.width / 5) 160 2047
  have hmax : clamp (options.width.toNat / 5) 160 2047 = max 160 (options.width.toNat / 5) := by
    rw [clamp]
    split_ifs <;> omega
  rw [hmax] at hclamp
  rw [horizontalBlanking, toNat_align8 (by omega), hclamp]

theorem toNat_verticalBlanking :
    (verticalBlanking options).toNat = max 45 (options.height.toNat / 20) := by
  have hheight := hsanitized.height_le
  have hclamp : (clamp (options.height / 20) 45 1023).toNat =
      clamp (options.height.toNat / 20) 45 1023 :=
    toNat_clamp UInt32.toNat (fun _ _ ↦ UInt32.lt_iff_toNat_lt) (options.height / 20) 45 1023
  have hmax : clamp (options.height.toNat / 20) 45 1023 = max 45 (options.height.toNat / 20) := by
    rw [clamp]
    split_ifs <;> omega
  rw [verticalBlanking, UInt32.toNat_toUInt16, hclamp, hmax]
  omega

theorem lineLength_bounds : 161 ≤ lineLength options ∧ lineLength options ≤ 4919 := by
  have hwidth := hsanitized.width_le
  have hpos := hsanitized.width_pos
  rw [lineLength]
  omega

theorem frameLines_bounds : 46 ≤ frameLines options ∧ frameLines options ≤ 4299 := by
  have hheight := hsanitized.height_le
  have hpos := hsanitized.height_pos
  rw [frameLines]
  omega

theorem framePixels_bounds :
    7406 ≤ lineLength options * frameLines options ∧
      lineLength options * frameLines options ≤ 21146781 :=
  ⟨Nat.mul_le_mul (lineLength_bounds hsanitized).1 (frameLines_bounds hsanitized).1,
    Nat.mul_le_mul (lineLength_bounds hsanitized).2 (frameLines_bounds hsanitized).2⟩

theorem toNat_preferredTotalPixels :
    (preferredTotalPixels options).toNat = lineLength options * frameLines options := by
  have hline := lineLength_bounds hsanitized
  have hframe := frameLines_bounds hsanitized
  have hproduct := framePixels_bounds hsanitized
  have hwidth : (options.width + (horizontalBlanking options).toUInt32).toNat =
      lineLength options := by
    rw [UInt32.toNat_add, UInt16.toNat_toUInt32, toNat_horizontalBlanking hsanitized]
    exact Nat.mod_eq_of_lt (Nat.lt_of_le_of_lt hline.2 (by decide))
  have hheight : (options.height + (verticalBlanking options).toUInt32).toNat =
      frameLines options := by
    rw [UInt32.toNat_add, UInt16.toNat_toUInt32, toNat_verticalBlanking hsanitized]
    exact Nat.mod_eq_of_lt (Nat.lt_of_le_of_lt hframe.2 (by decide))
  rw [preferredTotalPixels, UInt64.toNat_mul, UInt32.toNat_toUInt64, UInt32.toNat_toUInt64,
    hwidth, hheight]
  exact Nat.mod_eq_of_lt (Nat.lt_of_le_of_lt hproduct.2 (by decide))

/-- The product by a 32-bit rate stays within 64 bits. -/
theorem framePixels_mul_lt {rate : Nat} (hrate : rate < 2 ^ 32) :
    lineLength options * frameLines options * rate < 2 ^ 64 := by
  have hproduct := Nat.mul_le_mul (framePixels_bounds hsanitized).2 (Nat.le_of_lt hrate)
  exact Nat.lt_of_le_of_lt hproduct (by decide)

theorem toNat_preferredPixelClockHz :
    (preferredPixelClockHz options).toNat =
      lineLength options * frameLines options * options.refreshRateMillihz.toNat / 1000 := by
  have hrate := hsanitized.rate_pos
  have hmax : (max options.refreshRateMillihz 1).toUInt64.toNat =
      options.refreshRateMillihz.toNat := by
    rw [UInt32.toNat_toUInt64, toNat_max32]
    exact Nat.max_eq_left hrate
  rw [preferredPixelClockHz, UInt64.toNat_div, UInt64.toNat_mul,
    toNat_preferredTotalPixels hsanitized, hmax,
    Nat.mod_eq_of_lt (framePixels_mul_lt hsanitized options.refreshRateMillihz.toNat_lt)]
  rfl

end

/-! ## The rate and the clock -/

/-- The rate a timing is written for: the one asked for if clock and range allow it, else at most
60 Hz, else what the largest clock gives. -/
def baseRefresh (options : EdidOptions) : Nat :=
  let pixels := lineLength options * frameLines options
  let rate := options.refreshRateMillihz.toNat
  if pixels * rate / 1000 ≤ 655350000 ∧ rate ≤ 255000 then rate
  else if pixels * min rate 60000 / 1000 ≤ 655350000 then min rate 60000
  else 655350000000 / pixels

/-- The clock a timing is written with, in steps of 10 kHz. -/
def baseClock (options : EdidOptions) : Nat :=
  max 1 (lineLength options * frameLines options * baseRefresh options / 10000000)

section

variable {options : EdidOptions} (hsanitized : options.Sanitized)
include hsanitized

theorem sanitized_min60 :
    { options with
      refreshRateMillihz := min options.refreshRateMillihz 60000 : EdidOptions }.Sanitized := by
  have hrate := hsanitized.rate_pos
  have hmin : (min options.refreshRateMillihz 60000).toNat =
      min options.refreshRateMillihz.toNat 60000 :=
    toNat_min32 options.refreshRateMillihz 60000
  exact ⟨hsanitized.width_pos, hsanitized.width_le, hsanitized.height_pos, hsanitized.height_le,
    by rw [hmin]; omega⟩

theorem toNat_baseRefresh :
    (detailedTimingOptions options).refreshRateMillihz.toNat = baseRefresh options := by
  have hpixels := framePixels_bounds hsanitized
  let safeOptions := { options with refreshRateMillihz := min options.refreshRateMillihz 60000 }
  have hmin : safeOptions.refreshRateMillihz.toNat =
      min options.refreshRateMillihz.toNat 60000 :=
    toNat_min32 options.refreshRateMillihz 60000
  have hsafe : safeOptions.Sanitized := sanitized_min60 hsanitized
  have hclock := toNat_preferredPixelClockHz hsanitized
  have hclock' := toNat_preferredPixelClockHz hsafe
  rw [hmin] at hclock'
  have hmax : kMaxBaseDetailedTimingPixelClockHz.toNat = 655350000 := rfl
  have hvertical : (kMaxRangeDescriptorVerticalHz * 1000).toNat = 255000 := rfl
  have htotal : (preferredTotalPixels safeOptions).toNat =
      lineLength options * frameLines options := toNat_preferredTotalPixels hsafe
  rw [detailedTimingOptions, baseRefresh]
  simp only [UInt64.le_iff_toNat_le, UInt32.le_iff_toNat_le, hclock, hmax, hvertical]
  by_cases hdirect : lineLength options * frameLines options *
      options.refreshRateMillihz.toNat / 1000 ≤ 655350000 ∧
      options.refreshRateMillihz.toNat ≤ 255000
  · rw [if_pos hdirect, if_pos hdirect]
  · rw [if_neg hdirect, if_neg hdirect]
    show (if (preferredPixelClockHz safeOptions).toNat ≤ 655350000 then safeOptions else _
      ).refreshRateMillihz.toNat = _
    rw [hclock']
    by_cases hfallback : lineLength options * frameLines options *
        min options.refreshRateMillihz.toNat 60000 / 1000 ≤ 655350000
    · rw [if_pos, if_pos hfallback]
      · exact hmin
      · exact hfallback
    · rw [if_neg, if_neg hfallback]
      · rw [UInt64.toNat_toUInt32, toNat_max64, UInt64.toNat_div, htotal,
          show (kMaxBaseDetailedTimingPixelClockHz * 1000).toNat = 655350000000 from rfl]
        have hhigh : 655350000000 / (lineLength options * frameLines options) ≤
            655350000000 / 7406 := Nat.div_le_div_left hpixels.1 (by decide)
        have hlow : 0 < 655350000000 / (lineLength options * frameLines options) :=
          Nat.div_pos (by omega) (by omega)
        rw [show (1 : UInt64).toNat = 1 from rfl]
        omega
      · exact hfallback

/-- The rate is not zero and at most the one asked for, the clock it needs fits, and it is at most
255 Hz. -/
theorem baseRefresh_bounds :
    0 < baseRefresh options ∧ baseRefresh options ≤ options.refreshRateMillihz.toNat ∧
      lineLength options * frameLines options * baseRefresh options / 1000 ≤ 655350000 ∧
      baseRefresh options ≤ 255000 := by
  obtain ⟨hlow, hhigh⟩ := framePixels_bounds hsanitized
  have hrate := hsanitized.rate_pos
  rw [baseRefresh]
  generalize lineLength options * frameLines options = pixels at *
  split_ifs with hdirect hfallback
  · exact ⟨by omega, Nat.le_refl _, hdirect⟩
  · exact ⟨by omega, Nat.min_le_left _ _, hfallback, by omega⟩
  · have hpos : 0 < 655350000000 / pixels := Nat.div_pos (by omega) (by omega)
    have hmul : pixels * (655350000000 / pixels) ≤ 655350000000 := Nat.mul_div_le _ _
    -- the rate that was too fast needs a larger clock than the one that is left
    have hless : 655350000000 / pixels ≤ min options.refreshRateMillihz.toNat 60000 := by
      refine Nat.le_of_mul_le_mul_left (Nat.le_trans hmul ?_) (by omega : 0 < pixels)
      omega
    exact ⟨hpos, by omega, by omega, by omega⟩

theorem sanitized_detailedTimingOptions : (detailedTimingOptions options).Sanitized := by
  obtain ⟨hwidth, hheight⟩ := detailedTimingOptions_size options
  have hrate := (baseRefresh_bounds hsanitized).1
  rw [← toNat_baseRefresh hsanitized] at hrate
  refine ⟨?_, ?_, ?_, ?_, hrate⟩
  · rw [hwidth]
    exact hsanitized.width_pos
  · rw [hwidth]
    exact hsanitized.width_le
  · rw [hheight]
    exact hsanitized.height_pos
  · rw [hheight]
    exact hsanitized.height_le

theorem toNat_preferredPixelClockHz_base :
    (preferredPixelClockHz (detailedTimingOptions options)).toNat =
      lineLength options * frameLines options * baseRefresh options / 1000 := by
  obtain ⟨hwidth, hheight⟩ := detailedTimingOptions_size options
  rw [toNat_preferredPixelClockHz (sanitized_detailedTimingOptions hsanitized),
    toNat_baseRefresh hsanitized, lineLength, frameLines, hwidth, hheight, lineLength, frameLines]

/-- The clock field is the clock in steps of 10 kHz: the bound of its sixteen bits is never
used. -/
theorem toNat_pixelClock10khz :
    (makePreferredTiming (detailedTimingOptions options)).pixelClock10khz.toNat =
      baseClock options := by
  have hclock := (baseRefresh_bounds hsanitized).2.2.1
  have hclamp : (clamp (preferredPixelClockHz (detailedTimingOptions options) / 10000) 1
      0xffff).toNat = clamp ((preferredPixelClockHz (detailedTimingOptions options)).toNat / 10000)
        1 0xffff := by
    rw [toNat_clamp UInt64.toNat (fun _ _ ↦ UInt64.lt_iff_toNat_lt), UInt64.toNat_div]
    rfl
  rw [makePreferredTiming, UInt64.toNat_toUInt32, hclamp,
    toNat_preferredPixelClockHz_base hsanitized, clamp, baseClock]
  generalize lineLength options * frameLines options * baseRefresh options = product at *
  split_ifs <;> omega

theorem toNat_line :
    (makePreferredTiming (detailedTimingOptions options)).horizontalActive.toNat +
      (makePreferredTiming (detailedTimingOptions options)).horizontalBlanking.toNat =
        lineLength options := by
  have hwidth := hsanitized.width_le
  have hblanking := toNat_horizontalBlanking (sanitized_detailedTimingOptions hsanitized)
  rw [(detailedTimingOptions_size options).1] at hblanking
  rw [makePreferredTiming, UInt32.toNat_toUInt16, (detailedTimingOptions_size options).1,
    hblanking, lineLength]
  omega

theorem toNat_frame :
    (makePreferredTiming (detailedTimingOptions options)).verticalActive.toNat +
      (makePreferredTiming (detailedTimingOptions options)).verticalBlanking.toNat =
        frameLines options := by
  have hheight := hsanitized.height_le
  have hblanking := toNat_verticalBlanking (sanitized_detailedTimingOptions hsanitized)
  rw [(detailedTimingOptions_size options).2] at hblanking
  rw [makePreferredTiming, UInt32.toNat_toUInt16, (detailedTimingOptions_size options).2,
    hblanking, frameLines]
  omega

theorem baseClock_le : baseClock options ≤ 65535 := by
  have hclock := (baseRefresh_bounds hsanitized).2.2.1
  rw [baseClock]
  omega

/-! The sums and the product as the code computes them. -/

theorem toNat_pixelHz :
    ((makePreferredTiming (detailedTimingOptions options)).pixelClock10khz.toUInt64 *
      10000).toNat = 10000 * baseClock options := by
  have hclock := baseClock_le hsanitized
  rw [UInt64.toNat_mul, UInt32.toNat_toUInt64, toNat_pixelClock10khz hsanitized,
    show (10000 : UInt64).toNat = 10000 from rfl]
  omega

theorem toNat_line32 :
    ((makePreferredTiming (detailedTimingOptions options)).horizontalActive.toUInt32 +
      (makePreferredTiming (detailedTimingOptions options)).horizontalBlanking.toUInt32).toNat =
        lineLength options := by
  have hbound := (lineLength_bounds hsanitized).2
  rw [UInt32.toNat_add, UInt16.toNat_toUInt32, UInt16.toNat_toUInt32, toNat_line hsanitized]
  omega

theorem toNat_frame32 :
    ((makePreferredTiming (detailedTimingOptions options)).verticalActive.toUInt32 +
      (makePreferredTiming (detailedTimingOptions options)).verticalBlanking.toUInt32).toNat =
        frameLines options := by
  have hbound := (frameLines_bounds hsanitized).2
  rw [UInt32.toNat_add, UInt16.toNat_toUInt32, UInt16.toNat_toUInt32, toNat_frame hsanitized]
  omega

end

/-! ## The range limits -/

/-- The limits of the range descriptor, in hertz, kilohertz and steps of 10 MHz. -/
structure RangeLimits where
  minVerticalHz : UInt8
  maxVerticalHz : UInt8
  minHorizontalKhz : UInt8
  maxHorizontalKhz : UInt8
  maxPixelClock10mhz : UInt8
  deriving DecidableEq, Repr

/-- The limits that an EDID announces, in whole units. -/
def readRangeLimits {size : Nat} (data : Vector UInt8 size) : RangeLimits where
  minVerticalHz := byteOf data 113
  maxVerticalHz := byteOf data 114
  minHorizontalKhz := byteOf data 115
  maxHorizontalKhz := byteOf data 116
  maxPixelClock10mhz := byteOf data 117

/-- The clock of the timing, as a rational, so that nothing is rounded. -/
def PreferredTiming.pixelClockHz (timing : PreferredTiming) : ℚ :=
  timing.pixelClock10khz.toNat * 10000

/-- The pixels of a line with the blank ones. -/
def PreferredTiming.horizontalTotal (timing : PreferredTiming) : Nat :=
  timing.horizontalActive.toNat + timing.horizontalBlanking.toNat

/-- The lines of a frame with the blank ones. -/
def PreferredTiming.verticalTotal (timing : PreferredTiming) : Nat :=
  timing.verticalActive.toNat + timing.verticalBlanking.toNat

/-- Lines a millisecond. -/
def PreferredTiming.horizontalKhz (timing : PreferredTiming) : ℚ :=
  timing.pixelClockHz / (timing.horizontalTotal * 1000)

/-- Frames a second. -/
def PreferredTiming.verticalHz (timing : PreferredTiming) : ℚ :=
  timing.pixelClockHz / (timing.horizontalTotal * timing.verticalTotal)

/-- The exact rates of the timing lie within the limits. -/
structure RangeLimits.Covers (limits : RangeLimits) (timing : PreferredTiming) : Prop where
  minVertical : (limits.minVerticalHz.toNat : ℚ) ≤ timing.verticalHz
  maxVertical : timing.verticalHz ≤ limits.maxVerticalHz.toNat
  minHorizontal : (limits.minHorizontalKhz.toNat : ℚ) ≤ timing.horizontalKhz
  maxHorizontal : timing.horizontalKhz ≤ limits.maxHorizontalKhz.toNat
  maxPixelClock : timing.pixelClockHz ≤ limits.maxPixelClock10mhz.toNat * 10000000

/-- Between 30000 and 255000 lines a second, and at least 30 frames a second unless they are a
whole number. -/
def RangeCoverable (options : EdidOptions) : Prop :=
  30000000 ≤ frameLines options * baseRefresh options ∧
    2 * baseClock options ≤ 51 * lineLength options ∧
    (3 * (lineLength options * frameLines options) ≤ 1000 * baseClock options ∨
      lineLength options * frameLines options ∣ 10000 * baseClock options)

instance (options : EdidOptions) : Decidable (RangeCoverable options) :=
  inferInstanceAs (Decidable (_ ∧ _ ∧ (_ ∨ _)))

/-- Rounding up in 64 bits. -/
theorem toNat_ceilDiv64 {a b : UInt64} (hb : 0 < b.toNat) (hsum : a.toNat + b.toNat < 2 ^ 32) :
    ((a + b - 1) / b).toUInt32.toNat = a.toNat ⌈/⌉ b.toNat := by
  have hadd : (a + b).toNat = a.toNat + b.toNat := by
    rw [UInt64.toNat_add]
    omega
  have hsub : (a + b - 1).toNat = a.toNat + b.toNat - 1 := by
    rw [UInt64.toNat_sub_of_le, hadd]
    · rfl
    · rw [UInt64.le_iff_toNat_le, hadd]
      exact Nat.le_add_left_of_le hb
  rw [UInt64.toNat_toUInt32, UInt64.toNat_div, hsub, Nat.ceilDiv_eq_add_pred_div]
  exact Nat.mod_eq_of_lt (Nat.lt_of_le_of_lt (Nat.div_le_self _ _) (by omega))

theorem natCast_le_div_iff {a p d : Nat} (hd : 0 < d) : (a : ℚ) ≤ p / d ↔ a * d ≤ p := by
  rw [le_div_iff₀ (by exact_mod_cast hd)]
  exact_mod_cast Iff.rfl

theorem div_le_natCast_iff {a p d : Nat} (hd : 0 < d) : (p : ℚ) / d ≤ a ↔ p ≤ a * d := by
  rw [div_le_iff₀ (by exact_mod_cast hd)]
  exact_mod_cast Iff.rfl

theorem le_max_ceilDiv_mul {p d : Nat} (hd : 0 < d) (bound : Nat) :
    p ≤ max bound (p ⌈/⌉ d) * d := by
  have hceil : p ≤ d * (p ⌈/⌉ d) := (ceilDiv_le_iff_le_mul hd).mp (Nat.le_refl _)
  rw [Nat.mul_comm] at hceil
  exact hceil.trans (Nat.mul_le_mul_right d (Nat.le_max_right _ _))

/-- A rate rounded up and cut at a bound is at most the rate if the bound is, or if nothing was
rounded. -/
theorem min_ceilDiv_mul_le_iff {p d bound : Nat} (hd : 0 < d) :
    min bound (p ⌈/⌉ d) * d ≤ p ↔ bound * d ≤ p ∨ d ∣ p := by
  have hexact : p ⌈/⌉ d * d ≤ p ↔ d ∣ p := by
    constructor
    · intro hle
      have hge : p ≤ d * (p ⌈/⌉ d) := (ceilDiv_le_iff_le_mul hd).mp (Nat.le_refl _)
      rw [Nat.mul_comm] at hle
      exact ⟨p ⌈/⌉ d, Nat.le_antisymm hge hle⟩
    · rintro ⟨k, rfl⟩
      have hle : d * k ⌈/⌉ d ≤ k := (ceilDiv_le_iff_le_mul hd).mpr (Nat.le_refl _)
      rw [Nat.mul_comm d k] at hle ⊢
      exact Nat.mul_le_mul_right d hle
  rw [← hexact, ← Nat.mul_min_mul_right, min_le_iff]

theorem toNat_byte_clamp (value : UInt32) :
    (byte (clamp value 1 255)).toNat = clamp value.toNat 1 255 := by
  have hclamp : (clamp value 1 255).toNat = clamp value.toNat 1 255 :=
    toNat_clamp UInt32.toNat (fun _ _ ↦ UInt32.lt_iff_toNat_lt) value 1 255
  have hbounds := clamp_bounds (by decide : 1 ≤ 255) value.toNat
  rw [toNat_byte, hclamp]
  omega

section

variable {options : EdidOptions} (hsanitized : options.Sanitized)
include hsanitized

/-- The vertical rate, rounded up, fits into a byte and is not zero. -/
theorem verticalHz_bounds :
    1 ≤ (10000 * baseClock options) ⌈/⌉ (lineLength options * frameLines options) ∧
      (10000 * baseClock options) ⌈/⌉ (lineLength options * frameLines options) ≤ 255 := by
  obtain ⟨hlow, hhigh⟩ := framePixels_bounds hsanitized
  obtain ⟨hpos, -, -, hrate⟩ := baseRefresh_bounds hsanitized
  have hpixels : 0 < lineLength options * frameLines options := by omega
  have hclock : 10000 * baseClock options ≤ lineLength options * frameLines options * 255 := by
    have hmul := Nat.mul_le_mul_left (lineLength options * frameLines options) hrate
    rw [baseClock]
    omega
  constructor
  · by_contra hzero
    have hle := (ceilDiv_le_iff_le_mul hpixels).mp (Nat.le_of_lt_succ (Nat.not_le.mp hzero))
    rw [baseClock] at hle
    omega
  · exact (ceilDiv_le_iff_le_mul hpixels).mpr hclock

/-- The limits of the descriptor: the rates rounded up, within their fixed bounds. -/
theorem readRangeLimits_writeRangeDescriptor (data : Block) :
    let limits := readRangeLimits (writeRangeDescriptor data 108 options)
    let verticalHz := (10000 * baseClock options) ⌈/⌉ (lineLength options * frameLines options)
    let horizontalKhz := (10000 * baseClock options) ⌈/⌉ (lineLength options * 1000)
    limits.minVerticalHz.toNat = min 30 verticalHz ∧
      limits.maxVerticalHz.toNat = max 60 verticalHz ∧
      limits.minHorizontalKhz.toNat = 30 ∧
      limits.maxHorizontalKhz.toNat = min 255 (max 30 horizontalKhz) ∧
      limits.maxPixelClock10mhz.toNat = max 30 ((10000 * baseClock options) ⌈/⌉ 10000000) := by
  obtain ⟨hlow, hhigh⟩ := framePixels_bounds hsanitized
  obtain ⟨hline, hline'⟩ := lineLength_bounds hsanitized
  obtain ⟨hframe, hframe'⟩ := frameLines_bounds hsanitized
  obtain ⟨hvertical, hvertical'⟩ := verticalHz_bounds hsanitized
  have hclock := baseClock_le hsanitized
  let timing := makePreferredTiming (detailedTimingOptions options)
  let line : UInt32 := timing.horizontalActive.toUInt32 + timing.horizontalBlanking.toUInt32
  let frame : UInt32 := timing.verticalActive.toUInt32 + timing.verticalBlanking.toUInt32
  have hpixelHz : (timing.pixelClock10khz.toUInt64 * 10000).toNat = 10000 * baseClock options :=
    toNat_pixelHz hsanitized
  have hlineNat : line.toNat = lineLength options := toNat_line32 hsanitized
  have hframeNat : frame.toNat = frameLines options := toNat_frame32 hsanitized
  have hline1000 : (line.toUInt64 * 1000).toNat = lineLength options * 1000 := by
    rw [UInt64.toNat_mul, UInt32.toNat_toUInt64, hlineNat,
      show (1000 : UInt64).toNat = 1000 from rfl]
    omega
  have hpixels : (line.toUInt64 * frame.toUInt64).toNat =
      lineLength options * frameLines options := by
    rw [UInt64.toNat_mul, UInt32.toNat_toUInt64, UInt32.toNat_toUInt64, hlineNat, hframeNat]
    exact Nat.mod_eq_of_lt (Nat.lt_of_le_of_lt hhigh (by decide))
  have hhorizontalKhz := @toNat_ceilDiv64 (timing.pixelClock10khz.toUInt64 * 10000)
    (line.toUInt64 * 1000) (by omega) (by omega)
  have hverticalHz := @toNat_ceilDiv64 (timing.pixelClock10khz.toUInt64 * 10000)
    (line.toUInt64 * frame.toUInt64) (by omega) (by omega)
  rw [hpixelHz, hline1000] at hhorizontalKhz
  rw [hpixelHz, hpixels] at hverticalHz
  have hmaxClock : (clamp ((timing.pixelClock10khz.toUInt64 * 10000 + 9999999) / 10000000) 30
      255).toUInt32.toNat = max 30 ((10000 * baseClock options) ⌈/⌉ 10000000) := by
    have hdiv : ((timing.pixelClock10khz.toUInt64 * 10000 + 9999999) / 10000000).toNat =
        (10000 * baseClock options + 10000000 - 1) / 10000000 := by
      rw [UInt64.toNat_div, UInt64.toNat_add, hpixelHz,
        show (9999999 : UInt64).toNat = 9999999 from rfl,
        show (10000000 : UInt64).toNat = 10000000 from rfl]
      omega
    have hclamp := toNat_clamp UInt64.toNat (fun _ _ ↦ UInt64.lt_iff_toNat_lt)
      ((timing.pixelClock10khz.toUInt64 * 10000 + 9999999) / 10000000) 30 255
    rw [hdiv, ← Nat.ceilDiv_eq_add_pred_div] at hclamp
    have hle : (10000 * baseClock options) ⌈/⌉ 10000000 ≤ 66 :=
      (ceilDiv_le_iff_le_mul (by decide)).mpr (by omega)
    rw [UInt64.toNat_toUInt32, hclamp, show (30 : UInt64).toNat = 30 from rfl,
      show (255 : UInt64).toNat = 255 from rfl, clamp]
    generalize (10000 * baseClock options) ⌈/⌉ 10000000 = steps at *
    split_ifs <;> omega
  have hbyte {k : Nat} (hk : k < 11) : byteOf (writeRangeDescriptor data 108 options) (108 + k) =
      [0x00, 0x00, 0x00, 0xfd, 0x00,
        byte (clamp (min 30 ((timing.pixelClock10khz.toUInt64 * 10000 +
          line.toUInt64 * frame.toUInt64 - 1) / (line.toUInt64 * frame.toUInt64)).toUInt32) 1 255),
        byte (clamp (max 60 ((timing.pixelClock10khz.toUInt64 * 10000 +
          line.toUInt64 * frame.toUInt64 - 1) / (line.toUInt64 * frame.toUInt64)).toUInt32) 1 255),
        30,
        byte (clamp (max 30 ((timing.pixelClock10khz.toUInt64 * 10000 +
          line.toUInt64 * 1000 - 1) / (line.toUInt64 * 1000)).toUInt32) 1 255),
        byte (clamp ((timing.pixelClock10khz.toUInt64 * 10000 + 9999999) / 10000000) 30
          255).toUInt32,
        0x20].getD k 0 :=
    byteOf_write_add data hk (by rw [kEdidBlockSize]; omega)
  refine ⟨?_, ?_, ?_, ?_, ?_⟩
  · rw [readRangeLimits, hbyte (by decide : 5 < 11)]
    show (byte (clamp (min 30 _) 1 255)).toNat = _
    rw [toNat_byte_clamp, toNat_min32, hverticalHz, clamp, show (30 : UInt32).toNat = 30 from rfl]
    split_ifs <;> omega
  · rw [readRangeLimits, hbyte (by decide : 6 < 11)]
    show (byte (clamp (max 60 _) 1 255)).toNat = _
    rw [toNat_byte_clamp, toNat_max32, hverticalHz, clamp, show (60 : UInt32).toNat = 60 from rfl]
    split_ifs <;> omega
  · rw [readRangeLimits, hbyte (by decide : 7 < 11)]
    rfl
  · rw [readRangeLimits, hbyte (by decide : 8 < 11)]
    show (byte (clamp (max 30 _) 1 255)).toNat = _
    rw [toNat_byte_clamp, toNat_max32, hhorizontalKhz, clamp,
      show (30 : UInt32).toNat = 30 from rfl]
    split_ifs <;> omega
  · rw [readRangeLimits, hbyte (by decide : 9 < 11)]
    show (byte _).toNat = _
    have hle : (10000 * baseClock options) ⌈/⌉ 10000000 ≤ 66 :=
      (ceilDiv_le_iff_le_mul (by decide)).mpr (by omega)
    rw [toNat_byte, hmaxClock]
    exact Nat.mod_eq_of_lt (Nat.max_lt.mpr ⟨by decide, Nat.lt_of_le_of_lt hle (by decide)⟩)

/-- At least 30 kHz, without the rounding of the clock. -/
theorem line_rate_iff :
    30 * (lineLength options * 1000) ≤ 10000 * baseClock options ↔
      30000000 ≤ frameLines options * baseRefresh options := by
  have hline := (lineLength_bounds hsanitized).1
  have hfloor : 3 * lineLength options ≤ baseClock options ↔
      3 * lineLength options * 10000000 ≤
        lineLength options * frameLines options * baseRefresh options := by
    have hdiv : 3 * lineLength options ≤
        lineLength options * frameLines options * baseRefresh options / 10000000 ↔
          3 * lineLength options * 10000000 ≤
            lineLength options * frameLines options * baseRefresh options :=
      Nat.le_div_iff_mul_le (by omega)
    rw [baseClock, ← hdiv]
    omega
  have hcancel : 3 * lineLength options * 10000000 ≤
      lineLength options * frameLines options * baseRefresh options ↔
        30000000 ≤ frameLines options * baseRefresh options := by
    rw [show 3 * lineLength options * 10000000 = lineLength options * 30000000 by omega,
      Nat.mul_assoc]
    exact Nat.mul_le_mul_left_iff (by omega)
  rw [← hcancel, ← hfloor]
  omega

/-- The limits cover the timing exactly when its line rate is within theirs and its frame rate is
not a fraction below 30 Hz. -/
theorem covers_baseTiming_iff (data : Block) :
    (readRangeLimits (writeRangeDescriptor data 108 options)).Covers
        (makePreferredTiming (detailedTimingOptions options)) ↔
      RangeCoverable options := by
  obtain ⟨hminVertical, hmaxVertical, hminHorizontal, hmaxHorizontal, hmaxClock⟩ :=
    readRangeLimits_writeRangeDescriptor hsanitized data
  have hline : 0 < lineLength options * 1000 := by
    have hbounds := lineLength_bounds hsanitized
    omega
  have hpixels : 0 < lineLength options * frameLines options := by
    have hbounds := framePixels_bounds hsanitized
    omega
  have hclock : (makePreferredTiming (detailedTimingOptions options)).pixelClockHz =
      (10000 * baseClock options : ℕ) := by
    rw [PreferredTiming.pixelClockHz, toNat_pixelClock10khz hsanitized]
    push_cast
    ring
  have hhorizontal : (makePreferredTiming (detailedTimingOptions options)).horizontalKhz =
      (10000 * baseClock options : ℕ) / (lineLength options * 1000 : ℕ) := by
    rw [PreferredTiming.horizontalKhz, hclock, PreferredTiming.horizontalTotal,
      toNat_line hsanitized]
    push_cast
    rfl
  have hvertical : (makePreferredTiming (detailedTimingOptions options)).verticalHz =
      (10000 * baseClock options : ℕ) / (lineLength options * frameLines options : ℕ) := by
    rw [PreferredTiming.verticalHz, hclock, PreferredTiming.horizontalTotal,
      PreferredTiming.verticalTotal, toNat_line hsanitized, toNat_frame hsanitized]
    push_cast
    rfl
  constructor
  · rintro ⟨hlowVertical, -, hlowHorizontal, hhighHorizontal, -⟩
    rw [hvertical, hminVertical, natCast_le_div_iff hpixels, min_ceilDiv_mul_le_iff hpixels]
      at hlowVertical
    rw [hhorizontal, hminHorizontal, natCast_le_div_iff hline, line_rate_iff hsanitized]
      at hlowHorizontal
    rw [hhorizontal, hmaxHorizontal, div_le_natCast_iff hline] at hhighHorizontal
    have hfield : min 255 (max 30 ((10000 * baseClock options) ⌈/⌉ (lineLength options * 1000))) ≤
        255 := Nat.min_le_left _ _
    have hmul := Nat.mul_le_mul_right (lineLength options * 1000) hfield
    refine ⟨hlowHorizontal, by omega, ?_⟩
    exact hlowVertical.imp (fun h ↦ by omega) id
  · rintro ⟨hlowHorizontal, hhighHorizontal, hlowVertical⟩
    refine ⟨?_, ?_, ?_, ?_, ?_⟩
    · rw [hvertical, hminVertical, natCast_le_div_iff hpixels, min_ceilDiv_mul_le_iff hpixels]
      exact hlowVertical.imp (fun h ↦ by omega) id
    · rw [hvertical, hmaxVertical, div_le_natCast_iff hpixels]
      exact le_max_ceilDiv_mul hpixels 60
    · rw [hhorizontal, hminHorizontal, natCast_le_div_iff hline, line_rate_iff hsanitized]
      exact hlowHorizontal
    · rw [hhorizontal, hmaxHorizontal, div_le_natCast_iff hline, ← Nat.mul_min_mul_right,
        le_min_iff]
      exact ⟨by omega, le_max_ceilDiv_mul hline 30⟩
    · rw [hclock, hmaxClock]
      exact_mod_cast le_max_ceilDiv_mul (by decide : 0 < 10000000) 30

end

section

variable (hdrMaxLuminanceCtaValue : UInt32 → UInt8) (options : EdidOptions)

/-- Nothing writes over the descriptor. -/
theorem readRangeLimits_createEdid (data : Block) :
    readRangeLimits (createEdid hdrMaxLuminanceCtaValue options) =
      readRangeLimits (writeRangeDescriptor data 108 (sanitizedOptions options)) := by
  have hbyte {i : Nat} (hlow : 108 ≤ i) (hhigh : i < 119) :
      byteOf (createEdid hdrMaxLuminanceCtaValue options) i =
        byteOf (writeRangeDescriptor data 108 (sanitizedOptions options)) i := by
    have hsize : i < kEdidBlockSize := by
      rw [kEdidBlockSize]
      omega
    obtain ⟨base, hbase⟩ := createBaseBlock_range (sanitizedOptions options) hlow hhigh
    rw [byteOf_createEdid _ _ hsize, hbase, writeRangeDescriptor, writeRangeDescriptor,
      byteOf_write_of_mem _ hsize hlow, byteOf_write_of_mem _ hsize hlow]
    · exact hhigh
    · exact hhigh
  rw [readRangeLimits, readRangeLimits, hbyte (by decide) (by decide),
    hbyte (by decide) (by decide), hbyte (by decide) (by decide), hbyte (by decide) (by decide),
    hbyte (by decide) (by decide)]

/-- **When the range limits of an EDID cover its timing.** -/
theorem covers_createEdid_iff :
    (readRangeLimits (createEdid hdrMaxLuminanceCtaValue options)).Covers
        (readPreferredTiming (createEdid hdrMaxLuminanceCtaValue options)) ↔
      RangeCoverable (sanitizedOptions options) := by
  rw [readRangeLimits_createEdid _ _ (Vector.replicate _ 0), readPreferredTiming_createEdid]
  exact covers_baseTiming_iff (sanitized_sanitizedOptions options) _

end

/-- 1920 by 1080 at 240 Hz has 272160 lines a second, and the field for the fastest line rate
ends at 255 kHz. -/
theorem createEdid_uncovered_240hz :
    let edid := createEdid (fun _ ↦ 139) { refreshRateMillihz := 240000 }
    ¬ (readRangeLimits edid).Covers (readPreferredTiming edid) := by
  intro edid
  rw [readRangeLimits_createEdid _ _ (Vector.replicate _ 0), readPreferredTiming_createEdid,
    covers_baseTiming_iff (sanitized_sanitizedOptions _)]
  decide

end VirtualDisplay
