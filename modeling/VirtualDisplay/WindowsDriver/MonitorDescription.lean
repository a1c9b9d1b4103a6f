import VirtualDisplay.Edid.Timing
import VirtualDisplay.WindowsDriver.Modes

/-!
# The mode a monitor description stands for

The operating system hands a monitor's description back to the driver, and the driver reads the
mode out of the EDID in it (`driver_main.cpp`, `mode_shape_from_description`): sizes and totals as
they are encoded, and a refresh rate derived from the clock.  The clock was rounded down to a step
of 10 kHz when it was written and the rate is rounded down when it is read, so the rate comes back
at most one step too low.

* `modeShapeFromDescription_createEdid` — the mode of an EDID that the driver wrote.
* `createEdid_timing_exact` — the whole way from the options to the mode.

## What is here

* `modeShapeFromDescription` — a description that is not an EDID, or too short, stands for no mode,
  and neither does one whose timing has a zero in it.
* `ClockFits`, `RateFits` — the conditions under which the timing of the base block is the one that
  was asked for, and not one with a lower rate.
* `rate_roundTrip` — the rate that is read back, with both roundings.

Sizes come back as they are: it is the blanking that is aligned to multiples of eight.
-/

set_option autoImplicit false

namespace VirtualDisplay

/-- The formats that IddCx may describe a monitor in. -/
inductive MonitorDescriptionType where
  | edid
  | other
  deriving DecidableEq, Repr

/-- `IDDCX_MONITOR_DESCRIPTION`: the type, and the data if there is any. -/
structure MonitorDescription where
  descriptionType : MonitorDescriptionType
  data : Option (List UInt8)
  deriving DecidableEq, Repr

/-- The mode of a timing, its rate worked out from the clock and the total size. -/
def modeShapeFromTiming (timing : PreferredTiming) : WindowsDriverModeShape :=
  let totalWidth : UInt32 :=
    timing.horizontalActive.toUInt32 + timing.horizontalBlanking.toUInt32
  let totalHeight : UInt32 := timing.verticalActive.toUInt32 + timing.verticalBlanking.toUInt32
  let pixelRate : UInt64 := timing.pixelClock10khz.toUInt64 * 10000
  let totalPixels : UInt64 := (max totalWidth 1).toUInt64 * (max totalHeight 1).toUInt64
  let derivedRefreshMillihz : UInt64 :=
    if totalPixels = 0 then 0 else pixelRate * 1000 / totalPixels
  { width := timing.horizontalActive.toUInt32
    height := timing.verticalActive.toUInt32
    totalWidth
    totalHeight
    pixelRate
    refreshRateMillihz := clampWindowsDriverU32 derivedRefreshMillihz }

/-- The mode of a description: that of the first timing of an EDID that can be read. -/
def modeShapeFromDescription (description : MonitorDescription) :
    Option WindowsDriverModeShape :=
  match description.data with
  | none => none
  | some data =>
    if description.descriptionType ≠ .edid ∨ data.length < kEdidSize then none
    else
      let edid : Vector UInt8 kEdidSize := Vector.ofFn fun index ↦ data.getD index.val 0
      let timing := readPreferredTiming edid
      if timing.horizontalActive = 0 ∨ timing.verticalActive = 0 ∨ timing.pixelClock10khz = 0 then
        none
      else some (modeShapeFromTiming timing)

/-- The description of an EDID; the buffer may be longer. -/
def describeEdid (edid : Vector UInt8 kEdidSize) (rest : List UInt8) : MonitorDescription where
  descriptionType := .edid
  data := some (edid.toList ++ rest)

theorem modeShapeFromDescription_describeEdid {edid : Vector UInt8 kEdidSize} (rest : List UInt8)
    (hwidth : (readPreferredTiming edid).horizontalActive ≠ 0)
    (hheight : (readPreferredTiming edid).verticalActive ≠ 0)
    (hclock : (readPreferredTiming edid).pixelClock10khz ≠ 0) :
    modeShapeFromDescription (describeEdid edid rest) =
      some (modeShapeFromTiming (readPreferredTiming edid)) := by
  have hlength : edid.toList.length = kEdidSize := Vector.length_toList
  have hedid : (Vector.ofFn fun index : Fin kEdidSize ↦
      (edid.toList ++ rest).getD index.val 0) = edid := by
    ext i hi
    rw [Vector.getElem_ofFn, List.getD_append _ _ _ _ (by rw [hlength]; exact hi),
      List.getD_eq_getElem _ _ (by rw [hlength]; exact hi)]
    rfl
  rw [modeShapeFromDescription, describeEdid]
  dsimp only
  rw [if_neg, hedid, if_neg]
  · rintro (h | h | h)
    · exact hwidth h
    · exact hheight h
    · exact hclock h
  · rintro (h | h)
    · exact h rfl
    · rw [List.length_append, hlength] at h
      omega

/-! ## The rate that is read back -/

/-- What the options make of the sums and products of the clock stays within its words. -/
structure ClockFits (options : EdidOptions) : Prop where
  line : options.width.toNat + (horizontalBlanking options).toNat < 2 ^ 32
  frame : options.height.toNat + (verticalBlanking options).toNat < 2 ^ 32
  pixels : (options.width.toNat + (horizontalBlanking options).toNat) *
    (options.height.toNat + (verticalBlanking options).toNat) < 2 ^ 64
  clock : (options.width.toNat + (horizontalBlanking options).toNat) *
    (options.height.toNat + (verticalBlanking options).toNat) *
      max options.refreshRateMillihz.toNat 1 < 2 ^ 64

/-- What the timing makes of the sums and products of the rate stays within its words. -/
structure RateFits (timing : PreferredTiming) : Prop where
  line : timing.horizontalTotal < 2 ^ 32
  frame : timing.verticalTotal < 2 ^ 32
  pixels : timing.horizontalTotal * timing.verticalTotal < 2 ^ 64
  clock : timing.pixelClock10khz.toNat * 10000 * 1000 < 2 ^ 64

section

variable {options : EdidOptions} (hsanitized : options.Sanitized)
include hsanitized

theorem clockFits : ClockFits options := by
  have hline := toNat_horizontalBlanking hsanitized
  have hframe := toNat_verticalBlanking hsanitized
  obtain ⟨-, hlineLength⟩ := lineLength_bounds hsanitized
  obtain ⟨-, hframeLines⟩ := frameLines_bounds hsanitized
  have hpixels := (framePixels_bounds hsanitized).2
  have hclock := @framePixels_mul_lt _ hsanitized (max options.refreshRateMillihz.toNat 1)
    (by have hrate := options.refreshRateMillihz.toNat_lt; omega)
  rw [lineLength] at hlineLength hpixels hclock
  rw [frameLines] at hframeLines hpixels hclock
  rw [← hline] at hlineLength hpixels hclock
  rw [← hframe] at hframeLines hpixels hclock
  exact ⟨by omega, by omega, Nat.lt_of_le_of_lt hpixels (by decide), hclock⟩

theorem rateFits : RateFits (makePreferredTiming (detailedTimingOptions options)) := by
  have hline := (lineLength_bounds hsanitized).2
  have hframe := (frameLines_bounds hsanitized).2
  have hpixels := (framePixels_bounds hsanitized).2
  have hclock := (makePreferredTiming_bounds (detailedTimingOptions options)).1
  rw [← toNat_line hsanitized] at hline hpixels
  rw [← toNat_frame hsanitized] at hframe hpixels
  exact ⟨Nat.lt_of_le_of_lt hline (by decide), Nat.lt_of_le_of_lt hframe (by decide),
    Nat.lt_of_le_of_lt hpixels (by decide), by omega⟩

/-- The rate that is read back. -/
theorem toNat_modeShapeFromTiming_rate :
    (modeShapeFromTiming (makePreferredTiming
        (detailedTimingOptions options))).refreshRateMillihz.toNat =
      baseClock options * 10000000 / (lineLength options * frameLines options) := by
  let timing := makePreferredTiming (detailedTimingOptions options)
  have hline := toNat_line32 hsanitized
  have hframe := toNat_frame32 hsanitized
  have hlineBounds := lineLength_bounds hsanitized
  have hframeBounds := frameLines_bounds hsanitized
  obtain ⟨hlow, hhigh⟩ := framePixels_bounds hsanitized
  have hclock := baseClock_le hsanitized
  have hpixels : ((max (timing.horizontalActive.toUInt32 + timing.horizontalBlanking.toUInt32)
      1).toUInt64 * (max (timing.verticalActive.toUInt32 + timing.verticalBlanking.toUInt32)
        1).toUInt64).toNat = lineLength options * frameLines options := by
    rw [UInt64.toNat_mul, UInt32.toNat_toUInt64, UInt32.toNat_toUInt64, toNat_max32, toNat_max32,
      hline, hframe, show (1 : UInt32).toNat = 1 from rfl, Nat.max_eq_left (by omega),
      Nat.max_eq_left (by omega)]
    exact Nat.mod_eq_of_lt (Nat.lt_of_le_of_lt hhigh (by decide))
  have hrate : (timing.pixelClock10khz.toUInt64 * 10000 * 1000).toNat =
      baseClock options * 10000000 := by
    rw [UInt64.toNat_mul, toNat_pixelHz hsanitized, show (1000 : UInt64).toNat = 1000 from rfl]
    omega
  have hderived : (timing.pixelClock10khz.toUInt64 * 10000 * 1000 /
      ((max (timing.horizontalActive.toUInt32 + timing.horizontalBlanking.toUInt32) 1).toUInt64 *
        (max (timing.verticalActive.toUInt32 + timing.verticalBlanking.toUInt32)
          1).toUInt64)).toNat =
        baseClock options * 10000000 / (lineLength options * frameLines options) := by
    rw [UInt64.toNat_div, hrate, hpixels]
  have hsmall : baseClock options * 10000000 / (lineLength options * frameLines options) ≤
      655350000000 / 7406 := Nat.div_le_div (by omega) hlow (by decide)
  rw [modeShapeFromTiming]
  dsimp only
  rw [if_neg, clampWindowsDriverU32, if_neg]
  · rw [UInt64.toNat_toUInt32, hderived]
    exact Nat.mod_eq_of_lt (Nat.lt_of_le_of_lt hsmall (by decide))
  · rw [UInt64.lt_iff_toNat_lt, hderived]
    exact Nat.not_lt.mpr (Nat.le_trans hsmall (by decide))
  · intro hzero
    rw [← UInt64.toNat_inj, hpixels, UInt64.toNat_zero] at hzero
    omega

/-- The rate that is read back is at most the rate of the timing, and lower by at most one step of
the clock. -/
theorem rate_roundTrip
    (hstep : 10000000 ≤ lineLength options * frameLines options * baseRefresh options) :
    baseClock options * 10000000 / (lineLength options * frameLines options) ≤
        baseRefresh options ∧
      baseRefresh options ≤
        baseClock options * 10000000 / (lineLength options * frameLines options) +
          10000000 ⌈/⌉ (lineLength options * frameLines options) := by
  have hpixels : 0 < lineLength options * frameLines options := by
    have hbounds := framePixels_bounds hsanitized
    omega
  have hclock : baseClock options =
      lineLength options * frameLines options * baseRefresh options / 10000000 := by
    rw [baseClock]
    omega
  have hceil : 10000000 ≤ (lineLength options * frameLines options) *
      (10000000 ⌈/⌉ (lineLength options * frameLines options)) :=
    (ceilDiv_le_iff_le_mul hpixels).mp (Nat.le_refl _)
  rw [hclock]
  generalize lineLength options * frameLines options = pixels at *
  generalize 10000000 ⌈/⌉ pixels = step at *
  generalize baseRefresh options = rate at *
  constructor
  · exact Nat.div_le_of_le_mul (by omega)
  · have hfloor : (rate - step) * pixels ≤ pixels * rate / 10000000 * 10000000 := by
      rw [Nat.sub_mul, Nat.mul_comm rate pixels, Nat.mul_comm step pixels]
      omega
    have hle := (Nat.le_div_iff_mul_le hpixels).mpr hfloor
    omega

end

section

variable (hdrMaxLuminanceCtaValue : UInt32 → UInt8) (options : EdidOptions)

/-- The mode of an EDID that was written here. -/
theorem modeShapeFromDescription_createEdid (rest : List UInt8) :
    modeShapeFromDescription (describeEdid (createEdid hdrMaxLuminanceCtaValue options) rest) =
      some (modeShapeFromTiming (makePreferredTiming
        (detailedTimingOptions (sanitizedOptions options)))) := by
  have hread := readPreferredTiming_createEdid hdrMaxLuminanceCtaValue options
  have hsanitized := sanitized_sanitizedOptions options
  rw [modeShapeFromDescription_describeEdid rest, hread]
  · rw [hread, Ne, ← UInt16.toNat_inj, toNat_horizontalActive]
    exact Nat.ne_of_gt hsanitized.width_pos
  · rw [hread, Ne, ← UInt16.toNat_inj, toNat_verticalActive]
    exact Nat.ne_of_gt hsanitized.height_pos
  · rw [hread, Ne, ← UInt32.toNat_inj]
    exact (makePreferredTiming_bounds _).2.1

/-- **The timing is exact.**  Nothing overflows on the way to the EDID and back, the rate that is
written is not zero and at most the one asked for, the clock is at most 655.35 MHz and never cut
at the sixteen bits of its field, and a clock of at least one step gives the rate back up to one
step of it. -/
theorem createEdid_timing_exact (hdrMaxLuminanceCtaValue : UInt32 → UInt8)
    (options : EdidOptions) :
    let safe := sanitizedOptions options
    let chosen := detailedTimingOptions safe
    let timing := makePreferredTiming chosen
    safe.refreshRateMillihz.toNat = max 1 options.refreshRateMillihz.toNat ∧
      ClockFits safe ∧
      ClockFits { safe with refreshRateMillihz := min safe.refreshRateMillihz 60000 } ∧
      ClockFits chosen ∧
      kMaxBaseDetailedTimingPixelClockHz.toNat * 1000 < 2 ^ 64 ∧ RateFits timing ∧
      0 < chosen.refreshRateMillihz.toNat ∧
      chosen.refreshRateMillihz.toNat ≤ safe.refreshRateMillihz.toNat ∧
      (preferredPixelClockHz chosen).toNat ≤ 655350000 ∧
      timing.pixelClock10khz.toNat = max 1 ((preferredPixelClockHz chosen).toNat / 10000) ∧
      ∀ rest, ∃ mode,
        modeShapeFromDescription
          (describeEdid (createEdid hdrMaxLuminanceCtaValue options) rest) = some mode ∧
        (10000 ≤ (preferredPixelClockHz chosen).toNat →
          mode.refreshRateMillihz.toNat ≤ chosen.refreshRateMillihz.toNat ∧
            chosen.refreshRateMillihz.toNat ≤ mode.refreshRateMillihz.toNat +
              10000000 ⌈/⌉ (timing.horizontalTotal * timing.verticalTotal)) := by
  have hsanitized := sanitized_sanitizedOptions options
  have hchosen := sanitized_detailedTimingOptions hsanitized
  obtain ⟨hpos, hle, hclock, -⟩ := baseRefresh_bounds hsanitized
  have hclockHz := toNat_preferredPixelClockHz_base hsanitized
  refine ⟨toNat_sanitizedOptions_rate options, clockFits hsanitized,
    clockFits (sanitized_min60 hsanitized), clockFits hchosen, by decide, rateFits hsanitized,
    ?_, ?_, ?_, ?_, fun rest ↦
      ⟨_, modeShapeFromDescription_createEdid _ options rest, fun hstep ↦ ?_⟩⟩
  · rw [toNat_baseRefresh hsanitized]
    exact hpos
  · rw [toNat_baseRefresh hsanitized]
    exact hle
  · rw [hclockHz]
    exact hclock
  · rw [hclockHz, toNat_pixelClock10khz hsanitized, baseClock, Nat.div_div_eq_div_mul]
  · rw [hclockHz] at hstep
    rw [toNat_modeShapeFromTiming_rate hsanitized, toNat_baseRefresh hsanitized,
      PreferredTiming.horizontalTotal, PreferredTiming.verticalTotal, toNat_line hsanitized,
      toNat_frame hsanitized]
    exact rate_roundTrip hsanitized (by omega)

end

end VirtualDisplay
