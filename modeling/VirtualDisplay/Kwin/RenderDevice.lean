import VirtualDisplay.Broker.Commands
import Mathlib.Data.Prod.Lex
import Mathlib.Order.Bounds.Basic

/-!
# The render device of the virtual outputs

The library that is loaded into KWin gives the virtual outputs a GPU of their own to draw with
(`kwin_gpu_interposer.cpp`).  It takes the NVIDIA device with the lowest PCI address, or the one
that an environment variable names.  The devices come in no particular order, and
`selectRenderDevice_spec` says that the order does not matter.

## What is here

* `parsePciDevice` — the text of the override, read as `sscanf` reads it, the field widths, the
  white space and the bare prefix `0x` included (`scanHex`).
* `selectRenderDevice` — the loop over the devices as the source has it, with the messages that it
  logs and the count it keeps of the devices that would do.
* `IsLowest`, `foldl_selectStep` — what the loop has found behind any part of the list.
* `Chooses`, `address_iff` — the address that is selected, described without the loop: through the
  addresses of the candidates and how many of them there are.  The order of the list is not in that
  description, and so `selectRenderDevice_spec` follows.

A device is found again through its address, so devices that share one are not told apart; the
override asks for an address that occurs only once.
-/

set_option autoImplicit false

namespace VirtualDisplay

/-! ## Addresses -/

/-- The address of a PCI device. -/
structure DrmPciBusInfo where
  domain : UInt16
  bus : UInt8
  dev : UInt8
  func : UInt8
  deriving DecidableEq, Repr

/-- `isspace` in the C locale. -/
def isSpaceByte (ch : UInt8) : Bool := ch = 0x20 || 0x09 ≤ ch && ch ≤ 0x0d

/-- The value of a hexadecimal digit. -/
def hexDigit (ch : UInt8) : Option Nat :=
  if 0x30 ≤ ch ∧ ch ≤ 0x39 then some (ch.toNat - 0x30)
  else if 0x41 ≤ ch ∧ ch ≤ 0x46 then some (ch.toNat - 0x37)
  else if 0x61 ≤ ch ∧ ch ≤ 0x66 then some (ch.toNat - 0x57)
  else none

/-- `%x`: blanks, a sign, `0x`, and at least one digit.  A number that is too long becomes the
largest one of 64 bits, of which the lower half is stored.  This is as ISO C has it; glibc before
2.42 takes a bare `0x` for a zero. -/
def scanHex (input : CommandText) : Option (UInt32 × CommandText) :=
  let input := input.dropWhile isSpaceByte
  let negative := input.head? = some 0x2d
  let input := if input.head? = some 0x2d ∨ input.head? = some 0x2b then input.tail else input
  let input := if input.take 2 = [0x30, 0x78] ∨ input.take 2 = [0x30, 0x58] then input.drop 2
    else input
  let digits := input.takeWhile (hexDigit · |>.isSome)
  if digits = [] then none
  else
    let value := digits.foldl (fun value ch ↦ 16 * value + (hexDigit ch).getD 0) 0
    let value := if 2 ^ 64 ≤ value then 2 ^ 64 - 1
      else if negative then 2 ^ 64 - value else value
    some (UInt32.ofNat value, input.drop digits.length)

/-- A character of the format. -/
def scanLiteral (ch : UInt8) (input : CommandText) : Option CommandText :=
  if input.head? = some ch then some input.tail else none

/-- `%x:%x:%x.%x%c`, when it stores all but the last. -/
def scanPciAddress (value : CommandText) : Option (UInt32 × UInt32 × UInt32 × UInt32) :=
  (scanHex value).bind fun (domain, input) ↦
    (scanLiteral 0x3a input).bind fun input ↦
      (scanHex input).bind fun (bus, input) ↦
        (scanLiteral 0x3a input).bind fun input ↦
          (scanHex input).bind fun (device, input) ↦
            (scanLiteral 0x2e input).bind fun input ↦
              (scanHex input).bind fun (function, input) ↦
                if input = [] then some (domain, bus, device, function) else none

/-- An address whose numbers are in range. -/
def parsePciDevice (value : CommandText) : Option DrmPciBusInfo :=
  match scanPciAddress value with
  | none => none
  | some (domain, bus, device, function) =>
    if 0xffff < domain ∨ 0xff < bus ∨ 0x1f < device ∨ 7 < function then none
    else
      some
        { domain := domain.toUInt16
          bus := bus.toUInt8
          dev := device.toUInt8
          func := function.toUInt8 }

example : parsePciDevice (bytesOf "0000:0a:00.0") =
    some { domain := 0, bus := 10, dev := 0, func := 0 } := by
  decide

/-- The addresses are equal, field by field. -/
def pciMatches (actual expected : DrmPciBusInfo) : Bool :=
  actual.domain = expected.domain && actual.bus = expected.bus && actual.dev = expected.dev &&
    actual.func = expected.func

/-- The comparison of the tuples. -/
def pciPrecedes (left right : DrmPciBusInfo) : Bool :=
  left.domain < right.domain || left.domain = right.domain &&
    (left.bus < right.bus || left.bus = right.bus &&
      (left.dev < right.dev || left.dev = right.dev && left.func < right.func))

/-! ## Devices -/

/-- The buses that libdrm tells apart. -/
inductive DrmBusType where
  | pci
  | usb
  | platform
  | host1x
  | faux
  deriving DecidableEq, Repr

/-- What is read of a device: `businfo.pci` and `deviceinfo.pci`, which are there for a device on
the PCI bus, and the names of its nodes. -/
structure DrmDevice where
  bustype : DrmBusType
  pciBusInfo : Option DrmPciBusInfo
  pciVendorId : Option UInt16
  availableNodes : UInt32
  nodes : Option (Vector (Option CommandText) 3)
  deriving DecidableEq, Repr

/-- `drmDevicePtr` -/
abbrev DrmDevicePtr := Option DrmDevice

/-- The index of the render node among the nodes. -/
def kDrmNodeRender : Fin 3 := 2

/-- The vendor id of NVIDIA. -/
def kNvidiaVendorId : UInt16 := 0x10de

/-- A PCI device of NVIDIA that has a render node. -/
def isNvidiaRenderDevice : DrmDevicePtr → Bool
  | none => false
  | some device =>
    device.bustype = .pci && device.pciBusInfo.isSome &&
      device.pciVendorId = some kNvidiaVendorId && device.availableNodes &&& 4 ≠ 0 &&
      device.nodes.any (·.get kDrmNodeRender |>.isSome)

/-- `*device->businfo.pci`, for a device that has been looked at. -/
def pciAddress (device : DrmDevicePtr) : DrmPciBusInfo :=
  (device.bind (·.pciBusInfo)).getD { domain := 0, bus := 0, dev := 0, func := 0 }

/-! ## Selection -/

/-- The two messages that are written, each once. -/
def invalidOverrideMessage : CommandText :=
  bytesOf "[vibeshine-kwin-gpu] invalid VIBESHINE_KWIN_RENDER_PCI; " ++
    bytesOf "refusing virtual GPU association\n"

def multipleDevicesMessage : CommandText :=
  bytesOf "[vibeshine-kwin-gpu] multiple NVIDIA render devices found; " ++
    bytesOf "using lowest PCI address for virtual outputs unless " ++
    bytesOf "VIBESHINE_KWIN_RENDER_PCI selects another\n"

/-- `logged` is the flag `ambiguous_gpu_logged` afterwards, and `message` what is written. -/
structure Selection where
  selected : DrmDevicePtr
  logged : Bool
  message : Option CommandText
  deriving DecidableEq

/-- One round of the loop. -/
def selectStep (configured : Option DrmPciBusInfo) (state : DrmDevicePtr × Nat)
    (candidate : DrmDevicePtr) : DrmDevicePtr × Nat :=
  if !isNvidiaRenderDevice candidate ||
      configured.any (fun expected ↦ !pciMatches (pciAddress candidate) expected) then state
  else if state.1.isNone || pciPrecedes (pciAddress candidate) (pciAddress state.1) then
    (candidate, state.2 + 1)
  else (state.1, state.2 + 1)

/-- The value of the variable, if it is set to anything. -/
def overrideText (configuredValue : Option CommandText) : Option CommandText :=
  configuredValue.filter (· ≠ [])

/-- The loop over the devices, and what is made of it. -/
def selectAmong (configured : Option DrmPciBusInfo) (logged : Bool)
    (devices : List DrmDevicePtr) : Selection :=
  let (selected, found) := devices.foldl (selectStep configured) (none, 0)
  if found = 1 then { selected, logged, message := none }
  else
    { selected := if configured = none ∧ 0 < found then selected else none
      logged := logged || decide (1 < found)
      message := if 1 < found ∧ logged = false then some multipleDevicesMessage else none }

/-- The device that virtual outputs are rendered on, or none. -/
def selectRenderDevice (configuredValue : Option CommandText) (logged : Bool)
    (devices : List DrmDevicePtr) : Selection :=
  match overrideText configuredValue with
  | none => selectAmong none logged devices
  | some value =>
    match parsePciDevice value with
    | none =>
      { selected := none
        logged := true
        message := if logged then none else some invalidOverrideMessage }
    | some expected => selectAmong (some expected) logged devices

/-! ## The order of the addresses -/

/-- Domain, bus, device and function, compared in this order. -/
def DrmPciBusInfo.key (address : DrmPciBusInfo) : ℕ ×ₗ ℕ ×ₗ ℕ ×ₗ ℕ :=
  toLex (address.domain.toNat, toLex (address.bus.toNat, toLex (address.dev.toNat,
    address.func.toNat)))

instance : LE DrmPciBusInfo where
  le left right := left.key ≤ right.key

theorem pciPrecedes_iff (left right : DrmPciBusInfo) :
    pciPrecedes left right = true ↔ left.key < right.key := by
  simp [pciPrecedes, DrmPciBusInfo.key, Prod.Lex.toLex_lt_toLex, UInt8.lt_iff_toNat_lt,
    UInt16.lt_iff_toNat_lt, ← UInt8.toNat_inj, ← UInt16.toNat_inj]

theorem key_injective : Function.Injective DrmPciBusInfo.key := by
  rintro ⟨domain, bus, dev, func⟩ ⟨domain', bus', dev', func'⟩ h
  simp only [DrmPciBusInfo.key, EmbeddingLike.apply_eq_iff_eq, Prod.mk.injEq, UInt8.toNat_inj,
    UInt16.toNat_inj] at h
  obtain ⟨rfl, rfl, rfl, rfl⟩ := h
  rfl

theorem pciMatches_iff (actual expected : DrmPciBusInfo) :
    pciMatches actual expected = true ↔ actual = expected := by
  cases actual
  cases expected
  simp [pciMatches, and_assoc]

/-! ## The loop -/

/-- The devices that the loop does not pass over. -/
def isCandidate (configured : Option DrmPciBusInfo) (device : DrmDevicePtr) : Bool :=
  isNvidiaRenderDevice device &&
    configured.all fun expected ↦ pciMatches (pciAddress device) expected

/-- One of the devices, with the least address of them, or none if there are none. -/
def IsLowest (devices : List DrmDevicePtr) (selected : DrmDevicePtr) : Prop :=
  (devices = [] ∧ selected = none) ∨
    (selected ∈ devices ∧ ∀ other ∈ devices, pciAddress selected ≤ pciAddress other)

theorem selectStep_eq (configured : Option DrmPciBusInfo) (candidate : DrmDevicePtr)
    (state : DrmDevicePtr × Nat) :
    selectStep configured state candidate =
      if isCandidate configured candidate then
        (if state.1.isNone || pciPrecedes (pciAddress candidate) (pciAddress state.1) then candidate
          else state.1, state.2 + 1)
      else state := by
  have hskip : (!isNvidiaRenderDevice candidate ||
      configured.any (fun expected ↦ !pciMatches (pciAddress candidate) expected)) =
        !isCandidate configured candidate := by
    cases configured <;> simp [isCandidate]
  rw [selectStep, hskip]
  cases isCandidate configured candidate with
  | false => rfl
  | true => split_ifs <;> simp_all

theorem isCandidate_ne_none {configured : Option DrmPciBusInfo} {device : DrmDevicePtr}
    (h : isCandidate configured device = true) : device ≠ none := by
  rintro rfl
  exact Bool.false_ne_true h

/-- One device more. -/
theorem IsLowest.append {devices : List DrmDevicePtr} {selected : DrmDevicePtr}
    (h : IsLowest devices selected) (hdevices : none ∉ devices) (candidate : DrmDevicePtr) :
    IsLowest (devices ++ [candidate])
      (if selected.isNone || pciPrecedes (pciAddress candidate) (pciAddress selected) then candidate
        else selected) := by
  obtain ⟨rfl, rfl⟩ | ⟨hmem, hleast⟩ := h
  · exact .inr ⟨List.mem_singleton_self _, fun other hother ↦ by
      rw [List.mem_singleton.mp hother]
      exact le_refl (pciAddress candidate).key⟩
  have hsome : selected.isNone = false := by
    cases selected with
    | none => exact absurd hmem hdevices
    | some device => rfl
  rw [hsome, Bool.false_or]
  split_ifs with hprecedes
  · have hlt := (pciPrecedes_iff _ _).mp hprecedes
    refine .inr ⟨List.mem_append_right _ (List.mem_singleton_self _), fun other hother ↦ ?_⟩
    obtain hother | hother := List.mem_append.mp hother
    · exact hlt.le.trans (hleast other hother)
    · rw [List.mem_singleton.mp hother]
      exact le_refl (pciAddress candidate).key
  · have hle := not_lt.mp (mt (pciPrecedes_iff _ _).mpr hprecedes)
    refine .inr ⟨List.mem_append_left _ hmem, fun other hother ↦ ?_⟩
    obtain hother | hother := List.mem_append.mp hother
    · exact hleast other hother
    · rw [List.mem_singleton.mp hother]
      exact hle

/-- What the loop has found behind some of the devices. -/
theorem foldl_selectStep (configured : Option DrmPciBusInfo) (devices : List DrmDevicePtr) :
    let state := devices.foldl (selectStep configured) (none, 0)
    IsLowest (devices.filter (isCandidate configured)) state.1 ∧
      state.2 = (devices.filter (isCandidate configured)).length := by
  induction devices using List.reverseRecOn with
  | nil => exact ⟨.inl ⟨rfl, rfl⟩, rfl⟩
  | append_singleton devices candidate ih =>
    obtain ⟨hlowest, hcount⟩ := ih
    have hnone : none ∉ devices.filter (isCandidate configured) :=
      fun hmem ↦ isCandidate_ne_none (List.mem_filter.mp hmem).2 rfl
    rw [List.foldl_append, List.foldl_cons, List.foldl_nil, selectStep_eq, List.filter_append]
    cases hcandidate : isCandidate configured candidate with
    | false =>
      rw [List.filter_cons_of_neg (by simp [hcandidate]), List.filter_nil, List.append_nil]
      exact ⟨hlowest, hcount⟩
    | true =>
      rw [List.filter_cons_of_pos hcandidate, List.filter_nil, if_pos rfl]
      exact ⟨hlowest.append hnone candidate, by rw [List.length_append, hcount]; rfl⟩

/-! ## What is selected -/

/-- The addresses of the devices that may be selected. -/
def nvidiaAddresses (devices : List DrmDevicePtr) : List DrmPciBusInfo :=
  (devices.filter isNvidiaRenderDevice).map pciAddress

/-- The address of the device that is selected. -/
def Selection.address (selection : Selection) : Option DrmPciBusInfo :=
  selection.selected.map fun device ↦ pciAddress (some device)

/-- The least address without an override, and otherwise the address of the override, if precisely
one device has it. -/
def Chooses (configuredValue : Option CommandText) (devices : List DrmDevicePtr)
    (address : DrmPciBusInfo) : Prop :=
  match overrideText configuredValue with
  | none => IsLeast { other | other ∈ nvidiaAddresses devices } address
  | some value =>
    parsePciDevice value = some address ∧ (nvidiaAddresses devices).count address = 1

theorem IsLowest.address_iff {devices : List DrmDevicePtr} {selected : DrmDevicePtr}
    (h : IsLowest (devices.filter isNvidiaRenderDevice) selected) (address : DrmPciBusInfo) :
    selected.map (fun device ↦ pciAddress (some device)) = some address ↔
      IsLeast { other | other ∈ nvidiaAddresses devices } address := by
  obtain ⟨hnil, rfl⟩ | ⟨hmem, hleast⟩ := h
  · refine iff_of_false (by simp) fun hleast ↦ ?_
    have hmem : address ∈ nvidiaAddresses devices := hleast.1
    rw [nvidiaAddresses, hnil] at hmem
    exact absurd hmem List.not_mem_nil
  cases selected with
  | none => exact absurd (List.mem_filter.mp hmem).2 Bool.false_ne_true
  | some device =>
    have hlowest :
        IsLeast { other | other ∈ nvidiaAddresses devices } (pciAddress (some device)) := by
      refine ⟨List.mem_map_of_mem hmem, fun other hother ↦ ?_⟩
      obtain ⟨otherDevice, hotherDevice, rfl⟩ := List.mem_map.mp hother
      exact hleast otherDevice hotherDevice
    rw [Option.map_some, Option.some_inj]
    constructor
    · rintro rfl
      exact hlowest
    · intro haddress
      exact key_injective (le_antisymm (hlowest.2 haddress.1) (haddress.2 hlowest.1))

/-- The loop without an override finds the lowest of all NVIDIA devices. -/
theorem selected_of_default (logged : Bool) (devices : List DrmDevicePtr) :
    IsLowest (devices.filter isNvidiaRenderDevice) (selectAmong none logged devices).selected := by
  obtain ⟨hlowest, hcount⟩ := foldl_selectStep none devices
  have hfilter : devices.filter (isCandidate none) = devices.filter isNvidiaRenderDevice :=
    List.filter_congr fun device _ ↦ by simp [isCandidate]
  rw [hfilter] at hlowest hcount
  rw [selectAmong]
  generalize devices.foldl (selectStep none) (none, 0) = state at hlowest hcount
  obtain ⟨selected, found⟩ := state
  dsimp only at hlowest hcount ⊢
  by_cases hone : found = 1
  · rw [if_pos hone]
    exact hlowest
  rw [if_neg hone]
  dsimp only
  split_ifs with hsome
  · exact hlowest
  · have hzero : found = 0 := by
      have := mt (And.intro rfl) hsome
      omega
    exact .inl ⟨List.eq_nil_of_length_eq_zero (hcount.symm.trans hzero), rfl⟩

theorem count_nvidiaAddresses (devices : List DrmDevicePtr) (expected : DrmPciBusInfo) :
    (nvidiaAddresses devices).count expected =
      (devices.filter (isCandidate (some expected))).length := by
  rw [nvidiaAddresses, List.count_eq_countP, List.countP_map, List.countP_filter,
    List.countP_eq_length_filter]
  congr 1
  refine List.filter_congr fun device _ ↦ ?_
  have hmatches : pciMatches (pciAddress device) expected = (pciAddress device == expected) := by
    rw [Bool.eq_iff_iff, pciMatches_iff, beq_iff_eq]
  simp [isCandidate, hmatches, Bool.and_comm]

/-- With an override the only device that has the address is taken. -/
theorem address_of_override (expected : DrmPciBusInfo) (logged : Bool)
    (devices : List DrmDevicePtr) :
    (selectAmong (some expected) logged devices).address =
      if (nvidiaAddresses devices).count expected = 1 then some expected else none := by
  obtain ⟨hlowest, hcount⟩ := foldl_selectStep (some expected) devices
  rw [selectAmong, count_nvidiaAddresses, ← hcount]
  generalize devices.foldl (selectStep (some expected)) (none, 0) = state at hlowest hcount ⊢
  obtain ⟨selected, found⟩ := state
  dsimp only at hlowest hcount ⊢
  by_cases hone : found = 1
  swap
  · rw [if_neg hone, if_neg hone]
    simp [Selection.address]
  rw [if_pos hone, if_pos hone]
  obtain ⟨hnil, -⟩ | ⟨hmem, -⟩ := hlowest
  · rw [hnil, List.length_nil] at hcount
    omega
  · cases selected with
    | none => exact absurd rfl (isCandidate_ne_none (List.mem_filter.mp hmem).2)
    | some device =>
      have hcandidate := (List.mem_filter.mp hmem).2
      rw [isCandidate, Bool.and_eq_true, Option.all_some, pciMatches_iff] at hcandidate
      exact congrArg some hcandidate.2

/-- **The address that is selected.** -/
theorem address_iff (configuredValue : Option CommandText) (logged : Bool)
    (devices : List DrmDevicePtr) (address : DrmPciBusInfo) :
    (selectRenderDevice configuredValue logged devices).address = some address ↔
      Chooses configuredValue devices address := by
  rw [Chooses, selectRenderDevice]
  cases overrideText configuredValue with
  | none => exact (selected_of_default logged devices).address_iff address
  | some value =>
    dsimp only
    cases parsePciDevice value with
    | none => simp [Selection.address]
    | some expected =>
      dsimp only
      rw [address_of_override]
      split_ifs with hcount
      · rw [Option.some_inj]
        constructor
        · rintro rfl
          exact ⟨rfl, hcount⟩
        · exact fun h ↦ h.1
      · refine iff_of_false (by simp) fun h ↦ hcount ?_
        rw [Option.some.inj h.1]
        exact h.2

/-- Only the addresses, with their numbers, matter. -/
theorem Chooses.perm {configuredValue : Option CommandText} {devices devices' : List DrmDevicePtr}
    {address : DrmPciBusInfo} (hperm : devices.Perm devices')
    (h : Chooses configuredValue devices address) : Chooses configuredValue devices' address := by
  have haddresses : (nvidiaAddresses devices).Perm (nvidiaAddresses devices') :=
    (hperm.filter _).map _
  have hmem : { other | other ∈ nvidiaAddresses devices } =
      { other | other ∈ nvidiaAddresses devices' } :=
    Set.ext fun other ↦ haddresses.mem_iff
  rw [Chooses] at h ⊢
  rwa [← haddresses.count_eq, ← hmem]

/-- **Render devices.**  The order in which the devices come does not matter for the address that
is selected.  Without an override it is the least address of an NVIDIA device, if there is one; an
override selects a device when precisely one has its address, and none when it is malformed. -/
theorem selectRenderDevice_spec (configuredValue : Option CommandText) (logged : Bool)
    (devices : List DrmDevicePtr) :
    (∀ devices' logged', devices.Perm devices' →
      (selectRenderDevice configuredValue logged' devices').address =
        (selectRenderDevice configuredValue logged devices).address) ∧
    (overrideText configuredValue = none →
      (∀ address, (selectRenderDevice configuredValue logged devices).address = some address ↔
        IsLeast { other | other ∈ nvidiaAddresses devices } address) ∧
      ((selectRenderDevice configuredValue logged devices).selected = none ↔
        nvidiaAddresses devices = [])) ∧
    (∀ value expected, overrideText configuredValue = some value →
      parsePciDevice value = some expected →
      ((selectRenderDevice configuredValue logged devices).selected ≠ none ↔
        (nvidiaAddresses devices).count expected = 1) ∧
      ∀ address, (selectRenderDevice configuredValue logged devices).address = some address →
        address = expected) ∧
    ∀ value, overrideText configuredValue = some value → parsePciDevice value = none →
      (selectRenderDevice configuredValue logged devices).selected = none := by
  have haddress := address_iff configuredValue logged devices
  refine ⟨fun devices' logged' hperm ↦ Option.ext fun address ↦ ?_, fun hdefault ↦ ⟨?_, ?_⟩,
    fun value expected hvalue hparse ↦ ⟨?_, fun address h ↦ ?_⟩, fun value hvalue hparse ↦ ?_⟩
  · rw [haddress, address_iff]
    exact ⟨Chooses.perm hperm.symm, Chooses.perm hperm⟩
  · intro address
    rw [haddress, Chooses, hdefault]
  · rw [selectRenderDevice, hdefault]
    dsimp only
    rw [nvidiaAddresses, List.map_eq_nil_iff]
    obtain ⟨hnil, hnone⟩ | ⟨hmem, -⟩ := selected_of_default logged devices
    · exact iff_of_true hnone hnil
    · refine iff_of_false (fun hnone ↦ ?_) (List.ne_nil_of_mem hmem)
      rw [hnone] at hmem
      exact absurd (List.mem_filter.mp hmem).2 Bool.false_ne_true
  · have hnone : (selectRenderDevice configuredValue logged devices).selected = none ↔
        (selectRenderDevice configuredValue logged devices).address = none := by
      rw [Selection.address, Option.map_eq_none_iff]
    rw [ne_eq, hnone, selectRenderDevice, hvalue]
    dsimp only
    rw [hparse]
    dsimp only
    rw [address_of_override]
    split_ifs with hcount
    · exact iff_of_true (by simp) hcount
    · exact iff_of_false (by simp) hcount
  · rw [haddress, Chooses, hvalue] at h
    exact Option.some.inj (h.1.symm.trans hparse)
  · rw [selectRenderDevice, hvalue]
    dsimp only
    rw [hparse]

/-- An NVIDIA card on this bus, with a render node. -/
def nvidiaCard (bus : UInt8) : DrmDevicePtr :=
  some
    { bustype := .pci
      pciBusInfo := some { domain := 0, bus, dev := 0, func := 0 }
      pciVendorId := some kNvidiaVendorId
      availableNodes := 5
      nodes := some (Vector.replicate _ (some (bytesOf "/dev/dri/renderD128"))) }

/-- Of two cards the one with the lower address is selected, in either order, or the other one if
the override has its address. -/
theorem selectRenderDevice_spec_two :
    IsLeast { other | other ∈ nvidiaAddresses [nvidiaCard 10, none, nvidiaCard 1] }
        { domain := 0, bus := 1, dev := 0, func := 0 } ∧
      (selectRenderDevice none true [nvidiaCard 1, nvidiaCard 10]).address =
        (selectRenderDevice none false [nvidiaCard 10, nvidiaCard 1]).address ∧
      (selectRenderDevice (some (bytesOf "0000:0a:00.0")) false
        [nvidiaCard 10, nvidiaCard 1]).selected ≠ none := by
  obtain ⟨-, hdefault, -, -⟩ :=
    selectRenderDevice_spec none false [nvidiaCard 10, none, nvidiaCard 1]
  obtain ⟨hperm, -, -, -⟩ := selectRenderDevice_spec none false [nvidiaCard 10, nvidiaCard 1]
  obtain ⟨-, -, hoverride, -⟩ :=
    selectRenderDevice_spec (some (bytesOf "0000:0a:00.0")) false [nvidiaCard 10, nvidiaCard 1]
  exact ⟨((hdefault rfl).1 _).mp (by decide), hperm _ true (.swap ..),
    (hoverride (bytesOf "0000:0a:00.0") { domain := 0, bus := 10, dev := 0, func := 0 }
      (by decide) (by decide)).1.mpr (by decide)⟩

end VirtualDisplay
