import VirtualDisplay.Drm.Presentation
import Mathlib.Algebra.Group.Nat.Defs
import Mathlib.Order.Bounds.Basic

/-!
# Dumb buffers

A compositor without a renderer asks the driver for a buffer to draw into, `CREATE_DUMB`.  Other
devices can scan such a buffer out only when its rows start at multiples of 256 bytes, so the
driver pads the width that the helper of the kernel allocates (`vibeshine_drm_dumb.c`).  The helper
computes with 32 bits and does not look for overflow; that is left to the driver
(`dumbCreate_padded`).

## What is here

* `alignUp` — alignment on natural numbers, and `toNat_align` that the mask arithmetic of the source
  computes it when there is room.
* `dumbCreate` — the driver's own part: what it refuses, and the width that it hands on.
* `shmemDumbCreate` — the helper of the kernel, on 32-bit numbers, with the wrapping that it does
  not look for.
* `ComputesLayout` — what the driver relies on in the helper.
* `LayoutOverflows` — the padded layout, in numbers without end, does not fit.

The driver checks more than it has to: the bits of a row may overflow where its bytes would not
(`dumbCreate_refuses_bits`), and such a request is refused too.
-/

set_option autoImplicit false

namespace VirtualDisplay

/-! ## Multiples -/

/-- The least multiple of `a` from `n` on. -/
def alignUp (a n : Nat) : Nat := (n + (a - 1)) / a * a

theorem isLeast_alignUp {a : Nat} (ha : 0 < a) (n : Nat) :
    IsLeast { m | n ≤ m ∧ a ∣ m } (alignUp a n) := by
  have hdiv := Nat.div_add_mod (n + (a - 1)) a
  have hmod := Nat.mod_lt (n + (a - 1)) ha
  refine ⟨⟨?_, Nat.dvd_mul_left _ _⟩, ?_⟩
  · rw [alignUp, Nat.mul_comm]
    omega
  · rintro m ⟨hle, k, rfl⟩
    rw [alignUp, Nat.mul_comm]
    refine Nat.mul_le_mul_left a (Nat.le_of_lt_succ ?_)
    rw [Nat.div_lt_iff_lt_mul ha, Nat.succ_mul, Nat.mul_comm k a]
    omega

/-- A number is below a multiple when its own multiple is. -/
theorem alignUp_lt_iff {a b : Nat} (ha : 0 < a) (hb : a ∣ b) (hpos : 0 < b) (n : Nat) :
    alignUp a n < b ↔ n + (a - 1) < b := by
  obtain ⟨k, rfl⟩ := hb
  rw [alignUp, Nat.mul_comm a k, Nat.mul_lt_mul_right ha, Nat.div_lt_iff_lt_mul ha]

/-- Clearing the low bits. -/
theorem toNat_and_not (x : UInt32) {shift : Nat} (hshift : shift < 32) :
    (x &&& ~~~UInt32.ofNat (2 ^ shift - 1)).toNat = x.toNat / 2 ^ shift * 2 ^ shift := by
  have hmask : (2 : Nat) ^ shift ≤ 2 ^ 31 := Nat.pow_le_pow_right (by decide) (by omega)
  have hpos : 0 < 2 ^ shift := Nat.two_pow_pos shift
  have htoNat : (UInt32.ofNat (2 ^ shift - 1)).toNat = 2 ^ shift - 1 :=
    UInt32.toNat_ofNat_of_lt' (by simp only [UInt32.size]; omega)
  have hnot : UInt32.size - 1 - (2 ^ shift - 1) = 2 ^ 32 - ((2 ^ shift - 1) + 1) := by
    rw [UInt32.size]
    omega
  rw [UInt32.toNat_and, UInt32.toNat_not, htoNat, hnot]
  refine Nat.eq_of_testBit_eq fun i ↦ ?_
  rw [Nat.testBit_and, Nat.testBit_two_pow_sub_succ (by omega), Nat.testBit_two_pow_sub_one,
    Nat.testBit_mul_two_pow, Nat.testBit_div_two_pow]
  by_cases hi : i < 32
  · by_cases hlow : i < shift
    · simp [hi, hlow, Nat.not_le.mpr hlow]
    · simp [hi, hlow, Nat.not_lt.mp hlow]
  · have hzero : x.toNat.testBit i = false :=
      Nat.testBit_lt_two_pow (x.toNat_lt.trans_le (Nat.pow_le_pow_right (by decide) (by omega)))
    have hshifted : shift ≤ i := by omega
    simp [hi, hzero, hshifted]

/-! ## Requests -/

/-- `struct drm_mode_create_dumb` -/
structure DumbBuffer where
  height : UInt32
  width : UInt32
  bpp : UInt32
  flags : UInt32
  handle : UInt32
  pitch : UInt32
  size : UInt64
  deriving DecidableEq, Repr

/-- `PAGE_SIZE` -/
structure PageSize where
  shift : Nat
  shift_lt : shift < 32

/-- A page is a power of two. -/
def PageSize.bytes (page : PageSize) : Nat := 2 ^ page.shift

/-- A sum that must fit. -/
def checkAddOverflow (a b : UInt32) : Option UInt32 :=
  if a.toNat + b.toNat < 2 ^ 32 then some (a + b) else none

/-- A product that must fit. -/
def checkMulOverflow (a b : UInt32) : Option UInt32 :=
  if a.toNat * b.toNat < 2 ^ 32 then some (a * b) else none

/-- The width that is allocated, if the checks let the request pass. -/
def allocationWidth (page : PageSize) (args : DumbBuffer) : Option UInt32 :=
  if args.width = 0 ∨ args.height = 0 then none
  else
    match checkAddOverflow args.width 63 with
    | none => none
    | some sum =>
      let width := sum &&& ~~~63
      match checkMulOverflow width args.bpp with
      | none => none
      | some pitchBits =>
        match checkMulOverflow (pitchBits / 8) args.height with
        | none => none
        | some size => if 0xffffffff - (page.bytes - 1) < size.toNat then none else some width

/-- What the driver returns, the arguments as it leaves them, and the calls of the helper. -/
structure DumbCreate where
  ret : Int32
  args : DumbBuffer
  calls : List DumbBuffer
  deriving DecidableEq

/-- `vkms_dumb_create`; `helper` is `drm_gem_shmem_dumb_create`. -/
def dumbCreate (page : PageSize) (helper : DumbBuffer → Int32 × DumbBuffer) (args : DumbBuffer) :
    DumbCreate :=
  if args.bpp ≠ 32 then
    { ret := (helper args).1, args := (helper args).2, calls := [args] }
  else
    match allocationWidth page args with
    | none => { ret := -EINVAL, args, calls := [] }
    | some width =>
      let allocation := { args with width, pitch := 0, size := 0, handle := 0 }
      let (ret, allocated) := helper allocation
      if ret ≠ 0 then { ret, args, calls := [allocation] }
      else
        { ret := 0
          args := { args with
            pitch := allocated.pitch, size := allocated.size, handle := allocated.handle }
          calls := [allocation] }

/-! ## What the helper computes -/

/-- `PAGE_ALIGN` of a 32-bit number. -/
def pageAlign (page : PageSize) (size : UInt32) : UInt32 :=
  (size + UInt32.ofNat (page.bytes - 1)) &&& ~~~UInt32.ofNat (page.bytes - 1)

/-- What the driver relies on: the pitch and the size of a buffer that is asked for without
either. -/
def ComputesLayout (page : PageSize) (helper : DumbBuffer → Int32 × DumbBuffer) : Prop :=
  ∀ args, args.pitch = 0 → args.size = 0 → (helper args).1 = 0 →
    (helper args).2.pitch = args.width * args.bpp / 8 ∧
      (helper args).2.size = (pageAlign page (args.width * args.bpp / 8 * args.height)).toUInt64

/-- The numbers do not fit: the width, the bits of a row, the rows, or these in pages. -/
def LayoutOverflows (page : PageSize) (args : DumbBuffer) : Prop :=
  let width := alignUp 64 args.width.toNat
  2 ^ 32 ≤ width ∨ 2 ^ 32 ≤ width * 32 ∨ 2 ^ 32 ≤ width * 4 * args.height.toNat ∨
    2 ^ 32 ≤ alignUp page.bytes (width * 4 * args.height.toNat)

instance (page : PageSize) (args : DumbBuffer) : Decidable (LayoutOverflows page args) :=
  inferInstanceAs (Decidable (_ ∨ _ ∨ _ ∨ _))

/-! ## The checks -/

theorem PageSize.bytes_pos (page : PageSize) : 0 < page.bytes := Nat.two_pow_pos _

theorem PageSize.bytes_dvd (page : PageSize) : page.bytes ∣ 2 ^ 32 :=
  Nat.pow_dvd_pow 2 page.shift_lt.le

theorem PageSize.bytes_le (page : PageSize) : page.bytes ≤ 2 ^ 31 :=
  Nat.pow_le_pow_right (by decide) (Nat.le_of_lt_succ page.shift_lt)

/-- Adding the mask and clearing its bits aligns a number, if there is room for that. -/
theorem toNat_align (x : UInt32) {shift : Nat} (hshift : shift < 32)
    (h : x.toNat + (2 ^ shift - 1) < 2 ^ 32) :
    ((x + UInt32.ofNat (2 ^ shift - 1)) &&& ~~~UInt32.ofNat (2 ^ shift - 1)).toNat =
      alignUp (2 ^ shift) x.toNat := by
  have hmask : (UInt32.ofNat (2 ^ shift - 1)).toNat = 2 ^ shift - 1 :=
    UInt32.toNat_ofNat_of_lt' (by simp only [UInt32.size]; omega)
  rw [toNat_and_not _ hshift, UInt32.toNat_add, hmask, Nat.mod_eq_of_lt h, alignUp]

theorem toNat_mul_of_fits {a b : UInt32} (h : a.toNat * b.toNat < 2 ^ 32) :
    (a * b).toNat = a.toNat * b.toNat := by
  rw [UInt32.toNat_mul, Nat.mod_eq_of_lt h]

theorem checkAddOverflow_cases (a b : UInt32) :
    (2 ^ 32 ≤ a.toNat + b.toNat ∧ checkAddOverflow a b = none) ∨
      (a.toNat + b.toNat < 2 ^ 32 ∧ checkAddOverflow a b = some (a + b)) := by
  rw [checkAddOverflow]
  split_ifs with h
  · exact .inr ⟨h, rfl⟩
  · exact .inl ⟨Nat.not_lt.mp h, rfl⟩

theorem checkMulOverflow_cases (a b : UInt32) :
    (2 ^ 32 ≤ a.toNat * b.toNat ∧ checkMulOverflow a b = none) ∨
      ((a * b).toNat = a.toNat * b.toNat ∧ a.toNat * b.toNat < 2 ^ 32 ∧
        checkMulOverflow a b = some (a * b)) := by
  rw [checkMulOverflow]
  split_ifs with h
  · exact .inr ⟨toNat_mul_of_fits h, h, rfl⟩
  · exact .inl ⟨Nat.not_lt.mp h, rfl⟩

/-- **The checks.**  A request passes when its layout fits. -/
theorem allocationWidth_cases (page : PageSize) {args : DumbBuffer} (hbpp : args.bpp = 32) :
    ((args.width = 0 ∨ args.height = 0 ∨ LayoutOverflows page args) ∧
        allocationWidth page args = none) ∨
      ¬(args.width = 0 ∨ args.height = 0 ∨ LayoutOverflows page args) ∧
        ∃ width, allocationWidth page args = some width ∧
          width.toNat = alignUp 64 args.width.toNat := by
  have hpagePos := page.bytes_pos
  have hpageLe := page.bytes_le
  rw [allocationWidth]
  split_ifs with hempty
  · exact .inl ⟨hempty.elim .inl fun h ↦ .inr (.inl h), rfl⟩
  obtain ⟨hwidth, hheight⟩ := not_or.mp hempty
  have hfits := @alignUp_lt_iff 64 (2 ^ 32) (by decide) (by decide) (by decide) args.width.toNat
  obtain ⟨hadd, hnone⟩ | ⟨hadd, hsome⟩ := checkAddOverflow_cases args.width 63
  · have hover : LayoutOverflows page args := .inl (Nat.not_lt.mp fun h ↦ by
      have := hfits.mp h
      exact absurd hadd (Nat.not_le.mpr this))
    exact .inl ⟨.inr (.inr hover), by rw [hnone]⟩
  have hpadded : ((args.width + 63) &&& ~~~63).toNat = alignUp 64 args.width.toNat :=
    @toNat_align args.width 6 (by decide) hadd
  have hpaddedLt : alignUp 64 args.width.toNat < 2 ^ 32 := hfits.mpr hadd
  rw [hsome]
  dsimp only
  generalize (args.width + 63) &&& ~~~63 = width at hpadded ⊢
  obtain ⟨hmul, hnone⟩ | ⟨hbits, hmul, hsome⟩ := checkMulOverflow_cases width args.bpp
  · rw [hpadded, hbpp] at hmul
    have hover : LayoutOverflows page args := .inr (.inl hmul)
    exact .inl ⟨.inr (.inr hover), by rw [hnone]⟩
  rw [hpadded, hbpp] at hmul
  have hpitch : (width * args.bpp / 8).toNat = alignUp 64 args.width.toNat * 4 := by
    rw [UInt32.toNat_div, hbits, hpadded, hbpp]
    change alignUp 64 args.width.toNat * 32 / 8 = _
    omega
  rw [hsome]
  dsimp only
  obtain ⟨hrows, hnone⟩ | ⟨hsize, hrows, hsome⟩ :=
    checkMulOverflow_cases (width * args.bpp / 8) args.height
  · rw [hpitch] at hrows
    have hover : LayoutOverflows page args := .inr (.inr (.inl hrows))
    exact .inl ⟨.inr (.inr hover), by rw [hnone]⟩
  rw [hpitch] at hrows hsize
  rw [hsome]
  dsimp only
  have hpages := alignUp_lt_iff page.bytes_pos page.bytes_dvd (by decide)
    (alignUp 64 args.width.toNat * 4 * args.height.toNat)
  split_ifs with hlarge
  · have hover : LayoutOverflows page args :=
      .inr (.inr (.inr (Nat.not_lt.mp fun h ↦ by have := hpages.mp h; omega)))
    exact .inl ⟨.inr (.inr hover), rfl⟩
  · have hpage := hpages.mpr (by omega)
    refine .inr ⟨?_, width, rfl, hpadded⟩
    rintro (h | h | h | h | h | h)
    · exact hwidth h
    · exact hheight h
    all_goals exact absurd h (Nat.not_le.mpr ‹_›)

/-! ## The call -/

/-- What is asked of the helper. -/
structure AllocatesFor (page : PageSize) (args allocation : DumbBuffer) : Prop where
  least : IsLeast { width | args.width.toNat ≤ width ∧ 64 ∣ width } allocation.width.toNat
  height : allocation.height = args.height
  bpp : allocation.bpp = 32
  layout : allocation.pitch = 0 ∧ allocation.size = 0
  /-- The bits of a row are a 32-bit number. -/
  bits : (allocation.width * allocation.bpp).toNat = allocation.width.toNat * 32
  /-- The bytes of a row. -/
  pitch : (allocation.width * allocation.bpp / 8).toNat = allocation.width.toNat * 4
  pitch_dvd : 256 ∣ (allocation.width * allocation.bpp / 8).toNat
  pitch_ge : 4 * args.width.toNat ≤ (allocation.width * allocation.bpp / 8).toNat
  size : (allocation.width * allocation.bpp / 8 * allocation.height).toNat =
    allocation.width.toNat * 4 * args.height.toNat
  pages : (pageAlign page (allocation.width * allocation.bpp / 8 * allocation.height)).toNat =
    alignUp page.bytes (allocation.width.toNat * 4 * args.height.toNat)

/-- The helper's numbers are those of the layout, which fit. -/
theorem allocatesFor {page : PageSize} {args : DumbBuffer} {width : UInt32}
    (hbpp : args.bpp = 32) (hfits : ¬LayoutOverflows page args)
    (hwidth : width.toNat = alignUp 64 args.width.toNat) :
    AllocatesFor page args { args with width, pitch := 0, size := 0, handle := 0 } := by
  simp only [LayoutOverflows, not_or, Nat.not_le] at hfits
  obtain ⟨-, hbits, hrows, hpages⟩ := hfits
  have hleast := isLeast_alignUp (by decide : 0 < 64) args.width.toNat
  rw [← hwidth] at hbits hrows hpages hleast
  have hmul : (width * args.bpp).toNat = width.toNat * 32 := by
    rw [hbpp]
    exact toNat_mul_of_fits hbits
  have hpitch : (width * args.bpp / 8).toNat = width.toNat * 4 := by
    rw [UInt32.toNat_div, hmul]
    change width.toNat * 32 / 8 = _
    omega
  have hsize : (width * args.bpp / 8 * args.height).toNat =
      width.toNat * 4 * args.height.toNat := by
    rw [toNat_mul_of_fits (by rw [hpitch]; exact hrows), hpitch]
  have hroom := (alignUp_lt_iff page.bytes_pos page.bytes_dvd (by decide) _).mp hpages
  obtain ⟨⟨hge, k, hk⟩, -⟩ := id hleast
  exact {
    least := hleast
    height := rfl
    bpp := hbpp
    layout := ⟨rfl, rfl⟩
    bits := hmul
    pitch := hpitch
    pitch_dvd := by
      rw [hpitch]
      exact ⟨k, by omega⟩
    pitch_ge := by
      rw [hpitch]
      omega
    size := hsize
    pages := by
      have halign := toNat_align (width * args.bpp / 8 * args.height) page.shift_lt
        (by rw [hsize]; exact hroom)
      rwa [hsize] at halign }

theorem dumbCreate_refused {page : PageSize} {helper : DumbBuffer → Int32 × DumbBuffer}
    {args : DumbBuffer} (hbpp : args.bpp = 32) (h : allocationWidth page args = none) :
    dumbCreate page helper args = { ret := -EINVAL, args, calls := [] } := by
  rw [dumbCreate, if_neg (not_not_intro hbpp), h]

theorem dumbCreate_failed {page : PageSize} {helper : DumbBuffer → Int32 × DumbBuffer}
    {args : DumbBuffer} {width : UInt32} (hbpp : args.bpp = 32)
    (h : allocationWidth page args = some width) {allocation : DumbBuffer}
    (hallocation : allocation = { args with width, pitch := 0, size := 0, handle := 0 })
    (hret : (helper allocation).1 ≠ 0) :
    dumbCreate page helper args =
      { ret := (helper allocation).1, args, calls := [allocation] } := by
  subst hallocation
  rw [dumbCreate, if_neg (not_not_intro hbpp), h]
  exact if_pos hret

theorem dumbCreate_allocated {page : PageSize} {helper : DumbBuffer → Int32 × DumbBuffer}
    {args : DumbBuffer} {width : UInt32} (hbpp : args.bpp = 32)
    (h : allocationWidth page args = some width) {allocation : DumbBuffer}
    (hallocation : allocation = { args with width, pitch := 0, size := 0, handle := 0 })
    (hret : (helper allocation).1 = 0) :
    dumbCreate page helper args =
      { ret := 0
        args := { args with
          pitch := (helper allocation).2.pitch
          size := (helper allocation).2.size
          handle := (helper allocation).2.handle }
        calls := [allocation] } := by
  subst hallocation
  rw [dumbCreate, if_neg (not_not_intro hbpp), h]
  exact if_neg (not_not_intro hret)

/-- **Dumb buffers.**  A request of 32 bits a pixel is refused when it is empty or its padded layout
does not fit into 32 bits.  Otherwise the helper is called once, and nothing that it computes wraps.
The caller sees its own width and height, and nothing else changes for it when the request fails. -/
theorem dumbCreate_padded {page : PageSize} {helper : DumbBuffer → Int32 × DumbBuffer}
    (hlayout : ComputesLayout page helper) {args : DumbBuffer} (hbpp : args.bpp = 32) :
    let result := dumbCreate page helper args
    (result.calls = [] ↔ args.width = 0 ∨ args.height = 0 ∨ LayoutOverflows page args) ∧
      (result.calls = [] → result.ret = -EINVAL) ∧
      (result.calls ≠ [] → ∃ allocation, result.calls = [allocation] ∧
        AllocatesFor page args allocation) ∧
      result.args.width = args.width ∧ result.args.height = args.height ∧
      (result.ret ≠ 0 → result.args = args) ∧
      (result.ret = 0 →
        result.args.pitch.toNat = alignUp 64 args.width.toNat * 4 ∧
        result.args.size.toNat =
          alignUp page.bytes (alignUp 64 args.width.toNat * 4 * args.height.toNat)) := by
  obtain ⟨hrefused, hnone⟩ | ⟨hfits, width, hsome, hwidth⟩ := allocationWidth_cases page hbpp
  · rw [dumbCreate_refused hbpp hnone]
    have hret : (-EINVAL : Int32) ≠ 0 := by decide
    exact ⟨iff_of_true rfl hrefused, fun _ ↦ rfl, fun h ↦ absurd rfl h, rfl, rfl, fun _ ↦ rfl,
      fun h ↦ absurd h hret⟩
  have hallocates := allocatesFor hbpp (fun h ↦ hfits (.inr (.inr h))) hwidth
  obtain ⟨allocation, hallocation⟩ : ∃ allocation, allocation =
    ({ args with width, pitch := 0, size := 0, handle := 0 } : DumbBuffer) := ⟨_, rfl⟩
  have hpadded : allocation.width.toNat = alignUp 64 args.width.toNat := by
    rw [hallocation]
    exact hwidth
  rw [← hallocation] at hallocates
  have hcalls : [allocation] ≠ [] := List.cons_ne_nil _ _
  by_cases hret : (helper allocation).1 = 0
  · obtain ⟨hpitch, hsize⟩ := hlayout allocation hallocates.layout.1 hallocates.layout.2 hret
    rw [dumbCreate_allocated hbpp hsome hallocation hret]
    refine ⟨iff_of_false hcalls hfits, fun h ↦ absurd h hcalls, fun _ ↦ ⟨_, rfl, hallocates⟩, rfl,
      rfl, fun h ↦ absurd rfl h, fun _ ↦ ⟨?_, ?_⟩⟩
    · rw [hpitch, hallocates.pitch, hpadded]
    · rw [hsize, UInt32.toNat_toUInt64, hallocates.pages, hpadded]
  · rw [dumbCreate_failed hbpp hsome hallocation hret]
    exact ⟨iff_of_false hcalls hfits, fun h ↦ absurd h hcalls, fun _ ↦ ⟨_, rfl, hallocates⟩, rfl,
      rfl, fun _ ↦ rfl, fun h ↦ absurd h hret⟩

/-- A helper that has memory for every buffer. -/
def shmemDumbCreate (page : PageSize) (args : DumbBuffer) : Int32 × DumbBuffer :=
  let pitch := args.width * args.bpp / 8
  (0, { args with pitch, size := (pageAlign page (pitch * args.height)).toUInt64, handle := 1 })

theorem computesLayout_shmemDumbCreate (page : PageSize) :
    ComputesLayout page (shmemDumbCreate page) :=
  fun _ _ _ _ ↦ ⟨rfl, rfl⟩

/-- 3440 pixels are padded to 3456. -/
theorem dumbCreate_padded_3440 :
    (dumbCreate ⟨12, by decide⟩ (shmemDumbCreate ⟨12, by decide⟩)
      { height := 1440, width := 3440, bpp := 32, flags := 0, handle := 0, pitch := 0
        size := 0 }).args.pitch.toNat = alignUp 64 3440 * 4 :=
  ((dumbCreate_padded (computesLayout_shmemDumbCreate ⟨12, by decide⟩) rfl).2.2.2.2.2.2
    (by decide)).1

/-- The bits of a row overflow where its bytes would fit. -/
theorem dumbCreate_refuses_bits :
    ¬ ∀ page helper args, ComputesLayout page helper → args.bpp = 32 →
      ((dumbCreate page helper args).calls = [] ↔ args.width = 0 ∨ args.height = 0 ∨
        2 ^ 32 ≤ alignUp 64 args.width.toNat ∨
        2 ^ 32 ≤ alignUp 64 args.width.toNat * 4 * args.height.toNat ∨
        2 ^ 32 ≤ alignUp page.bytes (alignUp 64 args.width.toNat * 4 * args.height.toNat)) := by
  intro h
  have hwide := h ⟨12, by decide⟩ (shmemDumbCreate ⟨12, by decide⟩)
    { height := 1, width := 0x8000000, bpp := 32, flags := 0, handle := 0, pitch := 0, size := 0 }
    (computesLayout_shmemDumbCreate _) rfl
  exact absurd (hwide.mp (by decide)) (by decide)

end VirtualDisplay
