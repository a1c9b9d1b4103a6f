import VirtualDisplay.Protocol
import VirtualDisplay.Lib.Unique

/-!
# The mode catalog of a monitor

A monitor offers forty-eight default modes and, behind them, the mode it was created for together
with its scaled sizes and multiplied rates (`windows_driver_modes.cpp`).  A monitor that is
restricted to the requested resolution offers those of the same list that have the requested size.

Two modes are the same when width, height and refresh rate agree (`ModeShape.timing`); the list is
built by `append_unique_windows_driver_mode` alone, so what happens to it is `Unique.Grows`.

* `Appended.step` and `Appended.run` — what the passes over the scale factors keep.
* `mem_variants` — the three rates of a requested size are in the list.
* `buildWindowsDriverModeShapes_catalog` — the list and the index that the driver reports.

## What is here

* `kDefaultWindowsDriverModes`, `kPreferredModeScalePercent` — the tables of the source.
* `appendUniqueWindowsDriverMode`, `appendPreferredModeVariants` — the loops over scale factors and
  multipliers.  A scaled size that is out of bounds is left out, and a multiplied rate saturates.
* `buildWindowsDriverModeShapes` — the catalog with its preferred index, and the restriction to one
  size, which is dropped again where it would leave nothing
  (`buildWindowsDriverModeShapes_fallback`).
* `InRange` — what every mode of a catalog meets, whatever was requested.
-/

set_option autoImplicit false

namespace VirtualDisplay

/-! ## Mode shapes -/

/-- A mode as IddCx is told of it: its size, its total size with the blank pixels, and its rate. -/
structure WindowsDriverModeShape where
  width : UInt32 := 1920
  height : UInt32 := 1080
  totalWidth : UInt32 := 2200
  totalHeight : UInt32 := 1125
  pixelRate : UInt64 := 148500000
  refreshRateMillihz : UInt32 := 60000
  deriving DecidableEq, Repr, Inhabited

/-- What two modes of one catalog may not share. -/
def WindowsDriverModeShape.timing (mode : WindowsDriverModeShape) : UInt32 × UInt32 × UInt32 :=
  (mode.width, mode.height, mode.refreshRateMillihz)

/-- A mode of the catalog. -/
structure ModeSpec where
  width : UInt32
  height : UInt32
  refreshRateMillihz : UInt32

/-- The modes that every monitor offers. -/
def kDefaultWindowsDriverModes : List ModeSpec := [
  ⟨800, 600, 30000⟩, ⟨800, 600, 60000⟩, ⟨800, 600, 72000⟩, ⟨800, 600, 90000⟩,
  ⟨800, 600, 120000⟩, ⟨800, 600, 144000⟩, ⟨800, 600, 240000⟩,
  ⟨1280, 720, 30000⟩, ⟨1280, 720, 60000⟩, ⟨1280, 720, 72000⟩, ⟨1280, 720, 90000⟩,
  ⟨1280, 720, 120000⟩, ⟨1280, 720, 144000⟩,
  ⟨1366, 768, 30000⟩, ⟨1366, 768, 60000⟩, ⟨1366, 768, 72000⟩, ⟨1366, 768, 90000⟩,
  ⟨1366, 768, 120000⟩, ⟨1366, 768, 144000⟩, ⟨1366, 768, 240000⟩,
  ⟨1920, 1080, 30000⟩, ⟨1920, 1080, 60000⟩, ⟨1920, 1080, 72000⟩, ⟨1920, 1080, 90000⟩,
  ⟨1920, 1080, 120000⟩, ⟨1920, 1080, 144000⟩, ⟨1920, 1080, 240000⟩,
  ⟨2560, 1440, 30000⟩, ⟨2560, 1440, 60000⟩, ⟨2560, 1440, 72000⟩, ⟨2560, 1440, 90000⟩,
  ⟨2560, 1440, 120000⟩, ⟨2560, 1440, 144000⟩, ⟨2560, 1440, 240000⟩,
  ⟨3840, 2160, 30000⟩, ⟨3840, 2160, 60000⟩, ⟨3840, 2160, 72000⟩, ⟨3840, 2160, 90000⟩,
  ⟨3840, 2160, 120000⟩, ⟨3840, 2160, 144000⟩, ⟨3840, 2160, 240000⟩,
  ⟨5120, 1440, 30000⟩, ⟨5120, 1440, 60000⟩, ⟨5120, 1440, 120000⟩, ⟨5120, 1440, 144000⟩,
  ⟨5120, 1440, 175000⟩, ⟨5120, 1440, 240000⟩, ⟨5120, 1440, 480000⟩]

/-- The sizes that are offered of the preferred mode. -/
def kPreferredModeScalePercent : List UInt32 := [100, 50, 75, 125, 150]

/-- A number as a word, the greatest one if it does not fit. -/
def clampWindowsDriverU32 (value : UInt64) : UInt32 :=
  (if 0xffffffff < value then 0xffffffff else value).toUInt32

/-- A mode without blank pixels. -/
def activeWindowsDriverModeShape (width height refreshRateMillihz : UInt32) :
    WindowsDriverModeShape where
  width
  height
  totalWidth := width
  totalHeight := height
  pixelRate := width.toUInt64 * height.toUInt64 *
    (if refreshRateMillihz < 1 then 1 else refreshRateMillihz).toUInt64 / 1000
  refreshRateMillihz

/-- A mode of the catalog, without blank pixels. -/
def modeShapeFromSpec (spec : ModeSpec) : WindowsDriverModeShape :=
  activeWindowsDriverModeShape spec.width spec.height spec.refreshRateMillihz

/-- The preferred mode at another size, if it is within the bounds. -/
def scaledModeShape (base : WindowsDriverModeShape) (scalePercent refreshRateMillihz : UInt32) :
    Option WindowsDriverModeShape :=
  let width := (base.width.toUInt64 * scalePercent.toUInt64 / 100).toUInt32
  let height := (base.height.toUInt64 * scalePercent.toUInt64 / 100).toUInt32
  if width < kMinWidth ∨ kMaxWidth < width ∨ height < kMinHeight ∨ kMaxHeight < height ∨
      refreshRateMillihz < kMinRefreshRateMilliHz then none
  else some (activeWindowsDriverModeShape width height refreshRateMillihz)

/-! ## Building the list -/

/-- The list and the index of the entry that is the candidate's mode. -/
def appendUniqueWindowsDriverMode (modes : List WindowsDriverModeShape)
    (candidate : WindowsDriverModeShape) : List WindowsDriverModeShape × Nat :=
  match modes.findIdx? fun mode ↦ mode.width == candidate.width &&
      mode.height == candidate.height &&
      mode.refreshRateMillihz == candidate.refreshRateMillihz with
  | some index => (modes, index)
  | none => (modes ++ [candidate], modes.length)

/-- One pass of the loop over the multipliers of the rate. -/
def appendMultiplied (preferred : WindowsDriverModeShape) (scalePercent : UInt32)
    (modes : List WindowsDriverModeShape) (multiplier : UInt64) : List WindowsDriverModeShape :=
  match scaledModeShape preferred scalePercent
      (clampWindowsDriverU32 (preferred.refreshRateMillihz.toUInt64 * multiplier)) with
  | some multiplied => (appendUniqueWindowsDriverMode modes multiplied).1
  | none => modes

/-- The locals of `append_preferred_mode_variants`. -/
structure ModeVariants where
  modes : List WindowsDriverModeShape
  preferredIndex : Nat
  preferredIndexSet : Bool

/-- One pass of the loop over the scale factors. -/
def appendScaled (preferred : WindowsDriverModeShape) (variants : ModeVariants)
    (scalePercent : UInt32) : ModeVariants :=
  let variants : ModeVariants :=
    match scaledModeShape preferred scalePercent preferred.refreshRateMillihz with
    | some scaled =>
      let (modes, index) := appendUniqueWindowsDriverMode variants.modes scaled
      if scalePercent = 100 then ⟨modes, index, true⟩
      else { variants with modes }
    | none => variants
  { variants with modes := [2, 4].foldl (appendMultiplied preferred scalePercent) variants.modes }

/-- The preferred mode in its sizes, and where in the list it is itself. -/
def appendPreferredModeVariants (modes : List WindowsDriverModeShape)
    (preferred : WindowsDriverModeShape) : List WindowsDriverModeShape × Nat :=
  let variants := kPreferredModeScalePercent.foldl (appendScaled preferred)
    ⟨modes, modes.length, false⟩
  if variants.preferredIndexSet then (variants.modes, variants.preferredIndex)
  else appendUniqueWindowsDriverMode variants.modes preferred

/-- Where the usual mode is, or the first place. -/
def defaultWindowsDriverPreferredModeIndex (modes : List WindowsDriverModeShape) : Nat :=
  (modes.findIdx? fun mode ↦
    mode.width == 1920 && mode.height == 1080 && mode.refreshRateMillihz == 60000).getD 0

/-- The modes that every unrestricted catalog begins with. -/
def defaultModes : List WindowsDriverModeShape := kDefaultWindowsDriverModes.map modeShapeFromSpec

/-- `build_windows_driver_mode_shapes` before the filter. -/
def unrestrictedModeShapes (preferred : Option WindowsDriverModeShape) :
    List WindowsDriverModeShape × Nat :=
  match preferred with
  | some shape => appendPreferredModeVariants defaultModes shape
  | none => (defaultModes, defaultWindowsDriverPreferredModeIndex defaultModes)

/-- The size and the rate that the catalog can offer. -/
def WindowsDriverModeShape.InRange (shape : WindowsDriverModeShape) : Prop :=
  ¬(shape.width < kMinWidth ∨ kMaxWidth < shape.width ∨ shape.height < kMinHeight ∨
    kMaxHeight < shape.height ∨ shape.refreshRateMillihz < kMinRefreshRateMilliHz)

instance (shape : WindowsDriverModeShape) : Decidable shape.InRange :=
  inferInstanceAs (Decidable ¬_)

/-- There is a requested size that a restricted catalog can keep. -/
def hasUsableSize : Option WindowsDriverModeShape → Bool
  | some shape => shape.InRange
  | none => false

/-- The modes of a monitor, and which of them is preferred; with the flag only those of the
preferred size are left, unless there is no such size. -/
def buildWindowsDriverModeShapes (preferred : Option WindowsDriverModeShape)
    (requestedResolutionOnly : Bool) : List WindowsDriverModeShape × Nat :=
  if requestedResolutionOnly && !hasUsableSize preferred then unrestrictedModeShapes none
  else
    let (modes, preferredIndex) := unrestrictedModeShapes preferred
    match requestedResolutionOnly, preferred with
    | true, some shape =>
      appendUniqueWindowsDriverMode
        (modes.filter fun mode ↦ !(mode.width != shape.width || mode.height != shape.height)) shape
    | _, _ => (modes, preferredIndex)

/-! ## Appending -/

theorem appendUniqueWindowsDriverMode_eq (modes : List WindowsDriverModeShape)
    (candidate : WindowsDriverModeShape) :
    appendUniqueWindowsDriverMode modes candidate =
      Unique.append WindowsDriverModeShape.timing modes candidate := by
  have hsame : (fun mode : WindowsDriverModeShape ↦ mode.width == candidate.width &&
      mode.height == candidate.height &&
      mode.refreshRateMillihz == candidate.refreshRateMillihz) =
        fun mode ↦ decide (mode.timing = candidate.timing) := by
    funext mode
    rw [Bool.eq_iff_iff]
    simp [WindowsDriverModeShape.timing, and_assoc]
  rw [appendUniqueWindowsDriverMode, hsame]
  rfl

/-- The list grew from the defaults. -/
abbrev Grown (modes modes' : List WindowsDriverModeShape) : Prop :=
  Unique.Grows WindowsDriverModeShape.timing modes modes'

theorem grown_appendUnique (modes : List WindowsDriverModeShape)
    (candidate : WindowsDriverModeShape) :
    Grown modes (appendUniqueWindowsDriverMode modes candidate).1 := by
  rw [appendUniqueWindowsDriverMode_eq]
  exact Unique.Grows.append _ modes candidate

theorem appendUnique_index (modes : List WindowsDriverModeShape)
    (candidate : WindowsDriverModeShape) :
    ∃ mode, (appendUniqueWindowsDriverMode modes candidate).1[
        (appendUniqueWindowsDriverMode modes candidate).2]? = some mode ∧
      mode.timing = candidate.timing := by
  rw [appendUniqueWindowsDriverMode_eq]
  exact Unique.append_index _ modes candidate

theorem mem_appendUnique (modes : List WindowsDriverModeShape)
    (candidate : WindowsDriverModeShape) :
    candidate.timing ∈
      (appendUniqueWindowsDriverMode modes candidate).1.map WindowsDriverModeShape.timing := by
  rw [appendUniqueWindowsDriverMode_eq]
  exact Unique.mem_keys_append _ modes candidate

/-! ## Scaling -/

/-- A hundred percent of a size is the size. -/
theorem scale_hundred (size : UInt32) :
    (size.toUInt64 * (100 : UInt32).toUInt64 / 100).toUInt32 = size := by
  have hlt := size.toNat_lt
  refine UInt32.toNat_inj.mp ?_
  rw [UInt64.toNat_toUInt32, UInt64.toNat_div, UInt64.toNat_mul, UInt32.toNat_toUInt64]
  have hhundred : (100 : UInt32).toUInt64.toNat = 100 := rfl
  have hhundred' : (100 : UInt64).toNat = 100 := rfl
  have hproduct : size.toNat * 100 < 2 ^ 64 := by omega
  rw [hhundred, hhundred', Nat.mod_eq_of_lt hproduct, Nat.mul_div_cancel _ (by decide),
    Nat.mod_eq_of_lt hlt]

theorem scaledModeShape_hundred {base : WindowsDriverModeShape} {refreshRateMillihz : UInt32} :
    scaledModeShape base 100 refreshRateMillihz =
      if ({ base with refreshRateMillihz } : WindowsDriverModeShape).InRange then
        some (activeWindowsDriverModeShape base.width base.height refreshRateMillihz)
      else none := by
  rw [scaledModeShape, scale_hundred, scale_hundred]
  by_cases hrange : ({ base with refreshRateMillihz } : WindowsDriverModeShape).InRange
  · rw [if_pos hrange, if_neg hrange]
  · rw [if_neg hrange, if_pos (not_not.mp hrange)]

/-- A multiplied rate is at least the rate, and saturates. -/
theorem clamp_multiplied (rate : UInt32) {multiplier : UInt64}
    (hmultiplier : multiplier = 2 ∨ multiplier = 4) :
    (clampWindowsDriverU32 (rate.toUInt64 * multiplier)).toNat =
      min (rate.toNat * multiplier.toNat) (2 ^ 32 - 1) := by
  have hlt := rate.toNat_lt
  have hproduct : (rate.toUInt64 * multiplier).toNat = rate.toNat * multiplier.toNat := by
    rw [UInt64.toNat_mul, UInt32.toNat_toUInt64]
    obtain rfl | rfl := hmultiplier
    · have htwo : (2 : UInt64).toNat = 2 := rfl
      rw [htwo]
      omega
    · have hfour : (4 : UInt64).toNat = 4 := rfl
      rw [hfour]
      omega
  rw [clampWindowsDriverU32]
  have hmax : (0xffffffff : UInt64).toNat = 2 ^ 32 - 1 := rfl
  split_ifs with hover
  · have hover' := UInt64.lt_iff_toNat_lt.mp hover
    rw [hproduct, hmax] at hover'
    rw [UInt64.toNat_toUInt32, hmax]
    omega
  · have hover' := UInt64.lt_iff_toNat_lt.not.mp hover
    rw [hproduct, hmax] at hover'
    rw [UInt64.toNat_toUInt32, hproduct]
    omega

/-! ## The passes over the scale factors -/

section Passes

variable {preferred : WindowsDriverModeShape} {modes : List WindowsDriverModeShape}

theorem grown_appendMultiplied (preferred : WindowsDriverModeShape) (scalePercent : UInt32)
    (modes : List WindowsDriverModeShape) (multiplier : UInt64) :
    Grown modes (appendMultiplied preferred scalePercent modes multiplier) := by
  rw [appendMultiplied]
  split
  · exact grown_appendUnique modes _
  · exact Unique.Grows.refl modes

theorem grown_multipliers (preferred : WindowsDriverModeShape) (scalePercent : UInt32)
    (modes : List WindowsDriverModeShape) (multipliers : List UInt64) :
    Grown modes (multipliers.foldl (appendMultiplied preferred scalePercent) modes) := by
  induction multipliers generalizing modes with
  | nil => exact Unique.Grows.refl modes
  | cons multiplier multipliers ih =>
    exact (grown_appendMultiplied preferred scalePercent modes multiplier).trans (ih _)

/-- What is known between two passes: the list grew, and an index that is set is the place of the
requested mode. -/
structure Appended (preferred : WindowsDriverModeShape) (modes : List WindowsDriverModeShape)
    (variants : ModeVariants) : Prop where
  grown : Grown modes variants.modes
  index : variants.preferredIndexSet = true →
    ∃ mode, variants.modes[variants.preferredIndex]? = some mode ∧
      mode.timing = preferred.timing

theorem Appended.start (preferred : WindowsDriverModeShape)
    (modes : List WindowsDriverModeShape) :
    Appended preferred modes ⟨modes, modes.length, false⟩ :=
  ⟨Unique.Grows.refl modes, nofun⟩

/-- The multiplied rates leave what is known as it was. -/
theorem Appended.multiplied {variants : ModeVariants} (h : Appended preferred modes variants)
    (scalePercent : UInt32) :
    Appended preferred modes { variants with
      modes := [2, 4].foldl (appendMultiplied preferred scalePercent) variants.modes } := by
  have hgrown := grown_multipliers preferred scalePercent variants.modes [2, 4]
  refine ⟨h.grown.trans hgrown, fun hset ↦ ?_⟩
  obtain ⟨mode, hmode, htiming⟩ := h.index hset
  exact ⟨mode, hgrown.getElem? hmode, htiming⟩

theorem Appended.step {variants : ModeVariants} (h : Appended preferred modes variants)
    (scalePercent : UInt32) :
    Appended preferred modes (appendScaled preferred variants scalePercent) := by
  rw [appendScaled]
  refine Appended.multiplied ?_ scalePercent
  split
  case h_2 => exact h
  case h_1 scaled hscaled =>
    have hgrown := grown_appendUnique variants.modes scaled
    dsimp only
    split_ifs with hpercent
    · -- the size itself: its index is the preferred one
      subst hpercent
      refine ⟨h.grown.trans hgrown, fun _ ↦ ?_⟩
      rw [scaledModeShape_hundred] at hscaled
      split_ifs at hscaled
      obtain ⟨mode, hmode, htiming⟩ := appendUnique_index variants.modes scaled
      exact ⟨mode, hmode, htiming.trans (Option.some.inj hscaled ▸ rfl)⟩
    · refine ⟨h.grown.trans hgrown, fun hset ↦ ?_⟩
      obtain ⟨mode, hmode, htiming⟩ := h.index hset
      exact ⟨mode, hgrown.getElem? hmode, htiming⟩

theorem Appended.run {variants : ModeVariants} (h : Appended preferred modes variants)
    (scalePercents : List UInt32) :
    Appended preferred modes (scalePercents.foldl (appendScaled preferred) variants) := by
  induction scalePercents generalizing variants with
  | nil => exact h
  | cons scalePercent scalePercents ih => exact ih (h.step scalePercent)

/-- The list grows and the index is that of the requested mode. -/
theorem appendPreferredModeVariants_appended (modes : List WindowsDriverModeShape)
    (preferred : WindowsDriverModeShape) :
    Grown modes (appendPreferredModeVariants modes preferred).1 ∧
      ∃ mode, (appendPreferredModeVariants modes preferred).1[
          (appendPreferredModeVariants modes preferred).2]? = some mode ∧
        mode.timing = preferred.timing := by
  have hrun := (Appended.start preferred modes).run kPreferredModeScalePercent
  rw [appendPreferredModeVariants]
  split_ifs with hset
  · exact ⟨hrun.grown, hrun.index hset⟩
  · exact ⟨hrun.grown.trans (grown_appendUnique _ preferred), appendUnique_index _ preferred⟩

/-! ## The rates of a requested size -/

theorem mem_appendMultiplied (modes : List WindowsDriverModeShape) {multiplier : UInt64}
    (hmultiplier : multiplier = 2 ∨ multiplier = 4)
    (hrange : preferred.InRange) :
    ∃ mode ∈ appendMultiplied preferred 100 modes multiplier,
      mode.width = preferred.width ∧ mode.height = preferred.height ∧
        mode.refreshRateMillihz.toNat =
          min (preferred.refreshRateMillihz.toNat * multiplier.toNat) (2 ^ 32 - 1) := by
  obtain ⟨rate, hrate⟩ : ∃ rate, rate =
      clampWindowsDriverU32 (preferred.refreshRateMillihz.toUInt64 * multiplier) := ⟨_, rfl⟩
  have hclamp := clamp_multiplied preferred.refreshRateMillihz hmultiplier
  rw [← hrate] at hclamp
  have hmultiplied : ({ preferred with refreshRateMillihz := rate } :
      WindowsDriverModeShape).InRange := by
    rw [WindowsDriverModeShape.InRange, not_or, not_or, not_or, not_or] at hrange ⊢
    obtain ⟨hwidth, hwidth', hheight, hheight', hslow⟩ := hrange
    refine ⟨hwidth, hwidth', hheight, hheight', ?_⟩
    have hone : kMinRefreshRateMilliHz.toNat = 1 := rfl
    have hlt := preferred.refreshRateMillihz.toNat_lt
    rw [UInt32.lt_iff_toNat_lt, hone] at hslow ⊢
    rw [hclamp]
    obtain rfl | rfl := hmultiplier
    · have htwo : (2 : UInt64).toNat = 2 := rfl
      rw [htwo]
      omega
    · have hfour : (4 : UInt64).toNat = 4 := rfl
      rw [hfour]
      omega
  rw [appendMultiplied, ← hrate, scaledModeShape_hundred, if_pos hmultiplied]
  dsimp only
  obtain ⟨mode, hmode, htiming⟩ := List.mem_map.mp (mem_appendUnique modes
    (activeWindowsDriverModeShape preferred.width preferred.height rate))
  rw [WindowsDriverModeShape.timing, WindowsDriverModeShape.timing, Prod.mk.injEq,
    Prod.mk.injEq] at htiming
  obtain ⟨hwidth, hheight, hmoderate⟩ := htiming
  refine ⟨mode, hmode, hwidth, hheight, ?_⟩
  rw [hmoderate, activeWindowsDriverModeShape, hclamp]

/-- **The rates of a requested size.**  The list has the requested size at the requested rate and
at its double and its quadruple, as far as these can be counted. -/
theorem mem_variants (modes : List WindowsDriverModeShape) (hrange : preferred.InRange)
    {multiplier : Nat} (hmultiplier : multiplier = 1 ∨ multiplier = 2 ∨ multiplier = 4) :
    ∃ mode ∈ (appendPreferredModeVariants modes preferred).1,
      mode.width = preferred.width ∧ mode.height = preferred.height ∧
        mode.refreshRateMillihz.toNat =
          min (preferred.refreshRateMillihz.toNat * multiplier) (2 ^ 32 - 1) := by
  have hlt := preferred.refreshRateMillihz.toNat_lt
  obtain rfl | hmultiplier := hmultiplier
  · obtain ⟨-, mode, hmode, htiming⟩ := appendPreferredModeVariants_appended modes preferred
    rw [WindowsDriverModeShape.timing, WindowsDriverModeShape.timing, Prod.mk.injEq,
      Prod.mk.injEq] at htiming
    refine ⟨mode, List.mem_of_getElem? hmode, htiming.1, htiming.2.1, ?_⟩
    rw [htiming.2.2]
    omega
  · -- both multiples are appended in the first pass, which has the whole size
    obtain ⟨variants, hvariants⟩ : ∃ variants, variants =
        appendScaled preferred ⟨modes, modes.length, false⟩ 100 := ⟨_, rfl⟩
    have hfirst : Appended preferred modes variants := by
      rw [hvariants]
      exact (Appended.start preferred modes).step 100
    have hlater : ∀ mode ∈ variants.modes,
        mode ∈ (appendPreferredModeVariants modes preferred).1 := by
      have hrest : Appended preferred variants.modes variants :=
        ⟨Unique.Grows.refl variants.modes, hfirst.index⟩
      have hpasses : kPreferredModeScalePercent.foldl (appendScaled preferred)
          ⟨modes, modes.length, false⟩ =
            [50, 75, 125, 150].foldl (appendScaled preferred) variants := by
        rw [hvariants]
        rfl
      intro mode hmode
      have hmode' := (hrest.run [50, 75, 125, 150]).grown.isPrefix.subset hmode
      rw [appendPreferredModeVariants, hpasses]
      split_ifs
      · exact hmode'
      · exact (grown_appendUnique _ preferred).isPrefix.subset hmode'
    obtain ⟨before, hbefore⟩ : ∃ before, variants.modes =
        appendMultiplied preferred 100 (appendMultiplied preferred 100 before 2) 4 := by
      rw [hvariants, appendScaled]
      exact ⟨_, rfl⟩
    obtain rfl | rfl := hmultiplier
    · obtain ⟨mode, hmode, hsize⟩ :=
        mem_appendMultiplied before (.inl rfl) hrange
      refine ⟨mode, hlater mode ?_, hsize⟩
      rw [hbefore]
      exact (grown_appendMultiplied preferred 100 _ 4).isPrefix.subset hmode
    · obtain ⟨mode, hmode, hsize⟩ := mem_appendMultiplied
        (appendMultiplied preferred 100 before 2) (.inr rfl) hrange
      exact ⟨mode, hlater mode (hbefore ▸ hmode), hsize⟩

end Passes

/-! ## The catalog -/

theorem defaultModes_nodup : (defaultModes.map WindowsDriverModeShape.timing).Nodup := by
  decide

theorem unrestrictedModeShapes_spec (preferred : Option WindowsDriverModeShape) :
    Grown defaultModes (unrestrictedModeShapes preferred).1 ∧
      (unrestrictedModeShapes preferred).2 < (unrestrictedModeShapes preferred).1.length := by
  cases preferred with
  | none => exact ⟨Unique.Grows.refl defaultModes, by decide⟩
  | some shape =>
    obtain ⟨hgrown, mode, hmode, -⟩ := appendPreferredModeVariants_appended defaultModes shape
    exact ⟨hgrown, (List.getElem?_eq_some_iff.mp hmode).1⟩

theorem build_unrestricted (preferred : Option WindowsDriverModeShape) :
    buildWindowsDriverModeShapes preferred false = unrestrictedModeShapes preferred := by
  cases preferred <;> rfl

theorem build_unusable {preferred : Option WindowsDriverModeShape}
    (h : hasUsableSize preferred = false) :
    buildWindowsDriverModeShapes preferred true = unrestrictedModeShapes none := by
  rw [buildWindowsDriverModeShapes, h]
  rfl

/-- A restricted catalog is a part of the whole one: the requested mode is in it already. -/
theorem build_restricted {shape : WindowsDriverModeShape} (hrange : shape.InRange) :
    (buildWindowsDriverModeShapes (some shape) true).1 =
        (unrestrictedModeShapes (some shape)).1.filter (fun mode ↦
          mode.width == shape.width && mode.height == shape.height) ∧
      ∃ mode, (buildWindowsDriverModeShapes (some shape) true).1[
          (buildWindowsDriverModeShapes (some shape) true).2]? = some mode ∧
        mode.timing = shape.timing := by
  obtain ⟨kept, hkept⟩ : ∃ kept, kept = (unrestrictedModeShapes (some shape)).1.filter
      fun mode ↦ mode.width == shape.width && mode.height == shape.height := ⟨_, rfl⟩
  have hbuild : buildWindowsDriverModeShapes (some shape) true =
      appendUniqueWindowsDriverMode kept shape := by
    have husable : hasUsableSize (some shape) = true := decide_eq_true hrange
    have hsame : ((unrestrictedModeShapes (some shape)).1.filter fun mode ↦
        !(mode.width != shape.width || mode.height != shape.height)) = kept := by
      rw [hkept]
      exact List.filter_congr fun mode _ ↦ by simp [bne]
    rw [buildWindowsDriverModeShapes, husable, ← hsame]
    rfl
  have hmem : shape.timing ∈ kept.map WindowsDriverModeShape.timing := by
    obtain ⟨-, mode, hmode, htiming⟩ := appendPreferredModeVariants_appended defaultModes shape
    have hfields := htiming
    rw [WindowsDriverModeShape.timing, WindowsDriverModeShape.timing, Prod.mk.injEq,
      Prod.mk.injEq] at hfields
    refine List.mem_map.mpr ⟨mode, ?_, htiming⟩
    rw [hkept, List.mem_filter, Bool.and_eq_true, beq_iff_eq, beq_iff_eq]
    exact ⟨List.mem_of_getElem? hmode, hfields.1, hfields.2.1⟩
  rw [hbuild]
  refine ⟨?_, appendUnique_index kept shape⟩
  rw [appendUniqueWindowsDriverMode_eq, Unique.append_of_mem hmem, hkept]

/-- **The catalog of a monitor.**  No two entries are one mode and the preferred index is inside;
it is that of the requested mode, unless a restriction has no usable size to keep.  Without the
restriction the defaults come first and unchanged.  With it, and a size in range, the list is the
part of the whole one with that size and has the requested rate, its double and its quadruple;
with it and no usable size, it is the default catalog. -/
theorem buildWindowsDriverModeShapes_catalog (preferred : Option WindowsDriverModeShape)
    (requestedResolutionOnly : Bool) :
    ((buildWindowsDriverModeShapes preferred requestedResolutionOnly).1.map
        WindowsDriverModeShape.timing).Nodup ∧
      (buildWindowsDriverModeShapes preferred requestedResolutionOnly).2 <
        (buildWindowsDriverModeShapes preferred requestedResolutionOnly).1.length ∧
      (∀ shape, preferred = some shape → (requestedResolutionOnly = true → shape.InRange) →
        ∃ mode, (buildWindowsDriverModeShapes preferred requestedResolutionOnly).1[
            (buildWindowsDriverModeShapes preferred requestedResolutionOnly).2]? = some mode ∧
          mode.timing = shape.timing) ∧
      (requestedResolutionOnly = false →
        defaultModes <+: (buildWindowsDriverModeShapes preferred requestedResolutionOnly).1) ∧
      (∀ shape, requestedResolutionOnly = true → preferred = some shape → shape.InRange →
        (buildWindowsDriverModeShapes preferred requestedResolutionOnly).1 =
            (buildWindowsDriverModeShapes preferred false).1.filter (fun mode ↦
              mode.width == shape.width && mode.height == shape.height) ∧
          ∀ multiplier ∈ [1, 2, 4],
            ∃ mode ∈ (buildWindowsDriverModeShapes preferred requestedResolutionOnly).1,
              mode.width = shape.width ∧ mode.height = shape.height ∧
                mode.refreshRateMillihz.toNat =
                  min (shape.refreshRateMillihz.toNat * multiplier) (2 ^ 32 - 1)) ∧
      (requestedResolutionOnly = true → (∀ shape, preferred = some shape → ¬shape.InRange) →
        buildWindowsDriverModeShapes preferred requestedResolutionOnly =
            buildWindowsDriverModeShapes none false ∧
          (buildWindowsDriverModeShapes preferred requestedResolutionOnly).1 =
            defaultModes) := by
  obtain ⟨hgrown, hindex⟩ := unrestrictedModeShapes_spec preferred
  have hdefault := unrestrictedModeShapes_spec none
  cases requestedResolutionOnly with
  | false =>
    rw [build_unrestricted]
    refine ⟨hgrown.nodup defaultModes_nodup, hindex, ?_, fun _ ↦ hgrown.isPrefix, ?_, nofun⟩
    · rintro shape rfl -
      exact (appendPreferredModeVariants_appended defaultModes shape).2
    · exact fun _ h ↦ nomatch h
  | true =>
    cases husable : hasUsableSize preferred with
    | false =>
      have hrefused : ∀ shape, preferred = some shape → ¬shape.InRange := by
        rintro shape rfl
        exact of_decide_eq_false husable
      rw [build_unusable husable, build_unrestricted, build_unrestricted]
      refine ⟨hdefault.1.nodup defaultModes_nodup, hdefault.2, ?_, nofun, ?_,
        fun _ _ ↦ ⟨rfl, rfl⟩⟩
      · exact fun shape hshape hrange ↦ absurd (hrange rfl) (hrefused shape hshape)
      · exact fun shape _ hshape hrange ↦ absurd hrange (hrefused shape hshape)
    | true =>
      obtain _ | shape := preferred
      · exact nomatch husable
      have hrange : shape.InRange := of_decide_eq_true husable
      obtain ⟨hlist, mode, hmode, htiming⟩ := build_restricted hrange
      refine ⟨?_, (List.getElem?_eq_some_iff.mp hmode).1, ?_, nofun, ?_, ?_⟩
      · rw [hlist]
        exact (hgrown.nodup defaultModes_nodup).sublist (List.filter_sublist.map _)
      · rintro _ ⟨⟩ -
        exact ⟨mode, hmode, htiming⟩
      · rintro _ - ⟨⟩ -
        rw [build_unrestricted]
        refine ⟨hlist, fun multiplier hmultiplier ↦ ?_⟩
        have hmultiplier' : multiplier = 1 ∨ multiplier = 2 ∨ multiplier = 4 := by
          simpa using hmultiplier
        obtain ⟨mode, hmode, hwidth, hheight, hrate⟩ :=
          mem_variants defaultModes hrange hmultiplier'
        refine ⟨mode, ?_, hwidth, hheight, hrate⟩
        rw [hlist, List.mem_filter, Bool.and_eq_true, beq_iff_eq, beq_iff_eq]
        exact ⟨hmode, hwidth, hheight⟩
      · exact fun _ hrefused ↦ absurd hrange (hrefused shape rfl)

/-- A restriction to a size that no monitor has falls back to the defaults, whose preferred mode
is another. -/
theorem buildWindowsDriverModeShapes_fallback :
    ¬∀ (shape : WindowsDriverModeShape) (requestedResolutionOnly : Bool),
      ∃ mode, (buildWindowsDriverModeShapes (some shape) requestedResolutionOnly).1[
          (buildWindowsDriverModeShapes (some shape) requestedResolutionOnly).2]? = some mode ∧
        mode.timing = shape.timing := by
  intro hall
  obtain ⟨mode, hmode, htiming⟩ := hall { width := 0 } true
  have hfallback : (buildWindowsDriverModeShapes (some { width := 0 }) true).1[
      (buildWindowsDriverModeShapes (some { width := 0 }) true).2]? =
        some (activeWindowsDriverModeShape 1920 1080 60000) := by
    rw [build_unusable (by decide)]
    decide
  obtain rfl := Option.some.inj (hfallback.symm.trans hmode)
  exact absurd htiming (by decide)

end VirtualDisplay
