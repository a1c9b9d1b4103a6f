import VirtualDisplay.Edid.Basic
import VirtualDisplay.Lib.Bits

/-!
# What the EDID decoders read

Every decoder gives back what `createEdid` was told to encode.  The writers each stay within a
span of their block, so a byte can be read where the writer in charge of it left it
(`SameOutside`); the checksum is the last byte of a block and makes the sum of all of them a
multiple of 256.  What remains is one argument a field: the bytes as numbers, and the number put
together again.

## What is here

* `SameOutside` — a writer changes nothing but its span.  The writers of the base block touch
  disjoint spans, so each byte has one writer in charge of it.
* `byteOf_createEdid_identity`, `createEdid_clock_ne_zero` — the bytes that the decoders look at.
* `packed12_roundTrip`, `clock_roundTrip` — numbers that are spread over several bytes.
* `readMonitorName_createEdid` — the name: twelve characters at most, with blanks for what cannot be
  shown.
* `findCtaDataBlock_of_hdrSupported`, `findCtaDataBlock_of_not_hdrSupported` — the list of data
  blocks of the extension, which is empty without HDR.
* `createEdid_roundTrip` — all of it together, for any options.

The options are clamped before they are encoded, so it is the sanitized ones that come back.
-/

set_option autoImplicit false

namespace VirtualDisplay

/-! ## Reading a byte that was written -/

theorem byteOf_eq {size : Nat} (data : Vector UInt8 size) {i : Nat} (hi : i < size) :
    byteOf data i = data[i] := by
  rw [byteOf, Vector.getElem?_eq_getElem hi, Option.getD_some]

theorem byteOf_write (data : Block) (offset : Nat) (bytes : List UInt8) {i : Nat}
    (hi : i < kEdidBlockSize) :
    byteOf (data.write offset bytes) i =
      if offset ≤ i ∧ i < offset + bytes.length then bytes.getD (i - offset) 0
      else byteOf data i := by
  rw [byteOf_eq _ hi, byteOf_eq _ hi, Block.write, Vector.getElem_ofFn]
  rfl

theorem byteOf_write_of_mem (data : Block) {offset i : Nat} {bytes : List UInt8}
    (hi : i < kEdidBlockSize) (hlow : offset ≤ i) (hhigh : i < offset + bytes.length) :
    byteOf (data.write offset bytes) i = bytes.getD (i - offset) 0 := by
  rw [byteOf_write data offset bytes hi, if_pos ⟨hlow, hhigh⟩]

/-- The second block is the first up to the bytes from `low` on and below `high`. -/
def SameOutside (low high : Nat) (data data' : Block) : Prop :=
  ∀ i < kEdidBlockSize, i < low ∨ high ≤ i → byteOf data' i = byteOf data i

theorem SameOutside.trans {low high : Nat} {data data' data'' : Block}
    (h : SameOutside low high data data') (h' : SameOutside low high data' data'') :
    SameOutside low high data data'' := by
  intro i hi hout
  rw [h' i hi hout, h i hi hout]

theorem write_sameOutside (data : Block) {low high offset : Nat} {bytes : List UInt8}
    (hlow : low ≤ offset) (hhigh : offset + bytes.length ≤ high) :
    SameOutside low high data (data.write offset bytes) := by
  intro i hi hout
  rw [byteOf_write data offset bytes hi, if_neg (by omega)]

theorem foldl_sameOutside {α : Type} {low high : Nat} {f : Block → α → Block}
    (hf : ∀ data a, SameOutside low high data (f data a)) (l : List α) (data : Block) :
    SameOutside low high data (l.foldl f data) := by
  induction l generalizing data with
  | nil => exact fun _ _ _ ↦ rfl
  | cons a l ih => exact (hf data a).trans (ih (f data a))

theorem writeChromaticities_sameOutside (base : Block) :
    SameOutside 25 35 base (writeChromaticities base) := by
  refine (write_sameOutside base (Nat.le_refl 25) (by simp)).trans
    (foldl_sameOutside (fun data index ↦ ?_) _ _)
  have hindex := index.isLt
  exact (write_sameOutside data (by omega) (by rw [List.length_singleton]; omega)).trans
    (write_sameOutside _ (by omega) (by rw [List.length_singleton]; omega))

theorem writeDetailedTiming_sameOutside (data : Block) (offset : Nat) (options : EdidOptions) :
    SameOutside offset (offset + 18) data (writeDetailedTiming data offset options) := by
  rw [writeDetailedTiming]
  refine SameOutside.trans (write_sameOutside data ?_ ?_) (write_sameOutside _ ?_ ?_)
  · exact Nat.le_refl offset
  · exact Nat.add_le_add_left (Nat.le_add_left 2 16) offset
  · exact Nat.le_add_right offset 2
  · exact Nat.le_refl (offset + 18)

theorem length_sanitizedEdidText_le (text : List UInt8) (maxSize : Nat) :
    (sanitizedEdidText text maxSize).length ≤ maxSize := by
  have hbegin := List.rdropWhile_prefix (· == 0x20)
    ((text.take maxSize).map fun ch ↦ if 0x20 ≤ ch ∧ ch ≤ 0x7e then ch else (0x20 : UInt8))
  have hlength := hbegin.length_le
  rw [List.length_map, List.length_take] at hlength
  rw [sanitizedEdidText, dropTrailingSpaces]
  omega

theorem writeTextDescriptor_sameOutside (data : Block) (offset : Nat) (descriptorType : UInt8)
    (text : List UInt8) :
    SameOutside offset (offset + 18) data
      (writeTextDescriptor data offset descriptorType text) := by
  have hlength := length_sanitizedEdidText_le text 12
  have hheader : SameOutside offset (offset + 18) data
      (data.write offset [0x00, 0x00, 0x00, descriptorType, 0x00]) :=
    write_sameOutside data (Nat.le_refl offset) (Nat.add_le_add_left (Nat.le_add_left 5 13) offset)
  rw [writeTextDescriptor]
  refine ((hheader.trans (write_sameOutside _ ?_ ?_)).trans (write_sameOutside _ ?_ ?_)).trans
    (write_sameOutside _ ?_ ?_)
  · omega
  · rw [List.length_replicate]
  · omega
  · omega
  · omega
  · rw [List.length_singleton]
    omega

theorem writeRangeDescriptor_sameOutside (data : Block) (offset : Nat) (options : EdidOptions) :
    SameOutside offset (offset + 11) data (writeRangeDescriptor data offset options) :=
  write_sameOutside data (Nat.le_refl offset) (Nat.le_refl (offset + 11))

theorem writeChecksum_sameOutside (block : Block) :
    SameOutside 127 128 block (writeChecksum block) :=
  write_sameOutside block (Nat.le_refl 127) (Nat.le_refl 128)

/-! ## Checksums -/

theorem byteSum_succ {size : Nat} (data : Vector UInt8 size) (offset count : Nat) :
    byteSum data offset (count + 1) =
      byteSum data offset count + (byteOf data (offset + count)).toUInt32 := by
  rw [byteSum, List.range_succ, List.foldl_append]
  rfl

theorem byteSum_congr {size size' : Nat} {data : Vector UInt8 size} {data' : Vector UInt8 size'}
    {offset offset' count : Nat}
    (h : ∀ i < count, byteOf data' (offset' + i) = byteOf data (offset + i)) :
    byteSum data' offset' count = byteSum data offset count := by
  induction count with
  | zero => rfl
  | succ count ih =>
    rw [byteSum_succ, byteSum_succ, ih fun i hi ↦ h i (by omega), h count (by omega)]

theorem toNat_byte (value : UInt32) : (byte value).toNat = value.toNat % 256 :=
  Bits.toNat_lowByte value

theorem toNat_and_ff (value : UInt32) : (value &&& 0xff).toNat = value.toNat % 256 := by
  rw [UInt32.toNat_and]
  exact Nat.and_two_pow_sub_one_eq_mod value.toNat 8

/-- The checksum makes up for the sum of the bytes before it. -/
theorem byteSum_writeChecksum (block : Block) :
    byteSum (writeChecksum block) 0 kEdidBlockSize &&& 0xff = 0 := by
  have hsum : byteSum (writeChecksum block) 0 127 = byteSum block 0 127 :=
    byteSum_congr fun i hi ↦
      writeChecksum_sameOutside block (0 + i) (by rw [kEdidBlockSize]; omega) (by omega)
  have hlast : byteOf (writeChecksum block) (0 + 127) =
      byte ((256 - (byteSum block 0 127 &&& 0xff)) &&& 0xff) :=
    byteOf_write_of_mem block (Nat.lt_succ_self 127) (Nat.le_refl 127) (Nat.lt_succ_self 127)
  have hmod := toNat_and_ff (byteSum block 0 127)
  have hsub : (256 - (byteSum block 0 127 &&& 0xff)).toNat =
      256 - (byteSum block 0 127).toNat % 256 := by
    rw [UInt32.toNat_sub_of_le _ _ (by rw [UInt32.le_iff_toNat_le, hmod]; simp; omega), hmod]
    rfl
  have hcheck : (byte ((256 - (byteSum block 0 127 &&& 0xff)) &&& 0xff)).toUInt32.toNat =
      (256 - (byteSum block 0 127).toNat % 256) % 256 := by
    rw [UInt8.toNat_toUInt32, toNat_byte, toNat_and_ff, hsub, Nat.mod_mod]
  refine UInt32.toNat_inj.mp ?_
  rw [toNat_and_ff, byteSum_succ, hsum, hlast, UInt32.toNat_add, hcheck]
  simp only [UInt32.toNat_zero]
  omega

theorem byteOf_append_left {size size' : Nat} (data : Vector UInt8 size)
    (data' : Vector UInt8 size') {i : Nat} (hi : i < size) :
    byteOf (data ++ data') i = byteOf data i := by
  rw [byteOf_eq _ (by omega), byteOf_eq _ hi, Vector.getElem_append_left hi]

theorem byteOf_append_right {size size' : Nat} (data : Vector UInt8 size)
    (data' : Vector UInt8 size') {i : Nat} (hi : i < size') :
    byteOf (data ++ data') (size + i) = byteOf data' i := by
  rw [byteOf_eq _ (by omega), byteOf_eq _ hi, Vector.getElem_append_right (by omega) (by omega)]
  simp only [Nat.add_sub_cancel_left]

/-! ## Where the fields of the base block are -/

section

variable (options : EdidOptions)

theorem createBaseBlock_identity {i : Nat} (hi : i < 38) :
    byteOf (createBaseBlock options) i =
      byteOf (writeIdentity (Vector.replicate _ 0) options) i := by
  have hsize : i < kEdidBlockSize := by rw [kEdidBlockSize]; omega
  rw [createBaseBlock, writeChecksum_sameOutside _ i hsize (by omega),
    byteOf_write _ 126 _ hsize, if_neg (by omega),
    writeRangeDescriptor_sameOutside _ 108 options i hsize (by omega),
    writeTextDescriptor_sameOutside _ 90 _ _ i hsize (by omega),
    writeTextDescriptor_sameOutside _ 72 _ _ i hsize (by omega),
    writeDetailedTiming_sameOutside _ 54 options i hsize (by omega),
    byteOf_write _ 38 _ hsize, if_neg (by omega)]

theorem createBaseBlock_timing {i : Nat} (hlow : 54 ≤ i) (hhigh : i < 72) :
    byteOf (createBaseBlock options) i =
      byteOf (writeDetailedTiming ((writeIdentity (Vector.replicate _ 0) options).write 38
        (List.replicate 16 0x01)) 54 options) i := by
  have hsize : i < kEdidBlockSize := by rw [kEdidBlockSize]; omega
  rw [createBaseBlock, writeChecksum_sameOutside _ i hsize (by omega),
    byteOf_write _ 126 _ hsize, if_neg (by omega),
    writeRangeDescriptor_sameOutside _ 108 options i hsize (by omega),
    writeTextDescriptor_sameOutside _ 90 _ _ i hsize (by omega),
    writeTextDescriptor_sameOutside _ 72 _ _ i hsize (by omega)]

theorem createBaseBlock_serialText {i : Nat} (hlow : 72 ≤ i) (hhigh : i < 90) :
    ∃ base, byteOf (createBaseBlock options) i =
      byteOf (writeTextDescriptor base 72 0xff (decimalText options.serialNumber)) i := by
  have hsize : i < kEdidBlockSize := by rw [kEdidBlockSize]; omega
  rw [createBaseBlock, writeChecksum_sameOutside _ i hsize (by omega),
    byteOf_write _ 126 _ hsize, if_neg (by omega),
    writeRangeDescriptor_sameOutside _ 108 options i hsize (by omega),
    writeTextDescriptor_sameOutside _ 90 _ _ i hsize (by omega)]
  exact ⟨_, rfl⟩

theorem createBaseBlock_nameText {i : Nat} (hlow : 90 ≤ i) (hhigh : i < 108) :
    ∃ base, byteOf (createBaseBlock options) i =
      byteOf (writeTextDescriptor base 90 0xfc options.monitorName) i := by
  have hsize : i < kEdidBlockSize := by rw [kEdidBlockSize]; omega
  rw [createBaseBlock, writeChecksum_sameOutside _ i hsize (by omega),
    byteOf_write _ 126 _ hsize, if_neg (by omega),
    writeRangeDescriptor_sameOutside _ 108 options i hsize (by omega)]
  exact ⟨_, rfl⟩

theorem createBaseBlock_range {i : Nat} (hlow : 108 ≤ i) (hhigh : i < 119) :
    ∃ base, byteOf (createBaseBlock options) i =
      byteOf (writeRangeDescriptor base 108 options) i := by
  have hsize : i < kEdidBlockSize := by rw [kEdidBlockSize]; omega
  rw [createBaseBlock, writeChecksum_sameOutside _ i hsize (by omega),
    byteOf_write _ 126 _ hsize, if_neg (by omega)]
  exact ⟨_, rfl⟩

end

/-! ## The monitor name -/

theorem byteOf_writeTextDescriptor_header (data : Block) {offset : Nat}
    (hoffset : offset + 18 ≤ kEdidBlockSize) (descriptorType : UInt8) (text : List UInt8)
    {k : Nat} (hk : k < 5) :
    byteOf (writeTextDescriptor data offset descriptorType text) (offset + k) =
      [0x00, 0x00, 0x00, descriptorType, 0x00].getD k 0 := by
  have hsize : offset + k < kEdidBlockSize := by omega
  rw [writeTextDescriptor, byteOf_write _ _ _ hsize, if_neg (by omega), byteOf_write _ _ _ hsize,
    if_neg (by omega), byteOf_write _ _ _ hsize, if_neg (by omega),
    byteOf_write_of_mem data hsize (Nat.le_add_right offset k)
      (show offset + k < offset + [0x00, 0x00, 0x00, descriptorType, 0x00].length from
        Nat.add_lt_add_left hk offset),
    Nat.add_sub_cancel_left]

/-- The text, its terminator, and blanks. -/
theorem byteOf_writeTextDescriptor_text (data : Block) {offset : Nat}
    (hoffset : offset + 18 ≤ kEdidBlockSize) (descriptorType : UInt8) (text : List UInt8)
    {k : Nat} (hk : k < 13) :
    byteOf (writeTextDescriptor data offset descriptorType text) (offset + 5 + k) =
      (sanitizedEdidText text 12 ++ 0x0a :: List.replicate 12 0x20).getD k 0 := by
  have hsize : offset + 5 + k < kEdidBlockSize := by omega
  rw [writeTextDescriptor]
  rcases Nat.lt_trichotomy k (sanitizedEdidText text 12).length with hlt | heq | hgt
  · rw [byteOf_write _ _ _ hsize, if_neg (by omega),
      byteOf_write_of_mem _ hsize (by omega) (by omega), Nat.add_sub_cancel_left,
      List.getD_append _ _ _ _ hlt]
  · rw [byteOf_write_of_mem _ hsize (by omega) (by rw [List.length_singleton]; omega), heq,
      Nat.sub_self, List.getD_append_right _ _ _ _ (Nat.le_refl _), Nat.sub_self]
    rfl
  · have hk' : k - (sanitizedEdidText text 12).length =
        k - (sanitizedEdidText text 12).length - 1 + 1 := by omega
    rw [byteOf_write _ _ _ hsize, if_neg (by rw [List.length_singleton]; omega),
      byteOf_write _ _ _ hsize, if_neg (by omega),
      byteOf_write_of_mem _ hsize (by omega) (by rw [List.length_replicate]; omega),
      Nat.add_sub_cancel_left, List.getD_append_right _ _ _ _ (by omega), hk', List.getD_cons_succ,
      List.getD_replicate _ hk, List.getD_replicate _ (by omega)]

theorem sanitizedEdidText_printable {text : List UInt8} {maxSize : Nat} {ch : UInt8}
    (hch : ch ∈ sanitizedEdidText text maxSize) : 0x20 ≤ ch ∧ ch ≤ 0x7e := by
  have hmem := (List.rdropWhile_prefix _ _).subset hch
  obtain ⟨source, -, hsource⟩ := List.mem_map.mp hmem
  rw [← hsource]
  split
  · assumption
  · decide

theorem dropTrailingSpaces_sanitizedEdidText (text : List UInt8) (maxSize : Nat) :
    dropTrailingSpaces (sanitizedEdidText text maxSize) = sanitizedEdidText text maxSize :=
  List.rdropWhile_idempotent _ _

/-- Reading stops at the terminator. -/
theorem descriptorText_append {text : List UInt8} (rest : List UInt8)
    (htext : ∀ ch ∈ text, 0x20 ≤ ch ∧ ch ≤ 0x7e) :
    descriptorText (text ++ 0x0a :: rest) = some text := by
  induction text with
  | nil => rfl
  | cons ch text ih =>
    obtain ⟨hlow, hhigh⟩ := htext ch List.mem_cons_self
    have hcontrol : ¬(ch = 0x00 ∨ ch = 0x0a ∨ ch = 0x0d) := by
      rintro (rfl | rfl | rfl) <;> exact absurd hlow (by decide)
    have hprintable : ¬(ch < 0x20 ∨ 0x7e < ch) := by
      rw [UInt8.le_iff_toNat_le] at hlow hhigh
      rw [UInt8.lt_iff_toNat_lt, UInt8.lt_iff_toNat_lt]
      omega
    rw [List.cons_append, descriptorText, if_neg hcontrol, if_neg hprintable,
      ih fun c hc ↦ htext c (List.mem_cons_of_mem ch hc), Option.map_some]

theorem descriptorText_take {text : List UInt8} (hlength : text.length ≤ 12) (rest : List UInt8)
    (htext : ∀ ch ∈ text, 0x20 ≤ ch ∧ ch ≤ 0x7e) :
    descriptorText ((text ++ 0x0a :: rest).take 13) = some text := by
  have hterminator : (0x0a :: rest).take (13 - text.length) =
      0x0a :: rest.take (12 - text.length) := by
    rw [show 13 - text.length = 12 - text.length + 1 by omega, List.take_succ_cons]
  rw [List.take_append, List.take_of_length_le (by omega), hterminator]
  exact descriptorText_append _ htext

/-! ## The manufacturer -/

/-- The letter a character counts as. -/
def manufacturerLetter (ch : UInt8) : UInt8 := if 0x41 ≤ ch ∧ ch ≤ 0x5a then ch else 0x41

theorem toNat_encodeManufacturerChar (ch : UInt8) :
    (encodeManufacturerChar ch).toNat = (manufacturerLetter ch).toNat - 0x40 ∧
      0x41 ≤ (manufacturerLetter ch).toNat ∧ (manufacturerLetter ch).toNat ≤ 0x5a := by
  have hlow : (0x41 : UInt8).toNat = 0x41 := rfl
  have hhigh : (0x5a : UInt8).toNat = 0x5a := rfl
  by_cases hch : 0x41 ≤ ch ∧ ch ≤ 0x5a
  · have houtside : ¬(ch < 0x41 ∨ 0x5a < ch) := by
      rw [UInt8.lt_iff_toNat_lt, UInt8.lt_iff_toNat_lt]
      rw [UInt8.le_iff_toNat_le, UInt8.le_iff_toNat_le] at hch
      omega
    have hsub := UInt8.toNat_sub_of_le ch 0x41 hch.1
    rw [UInt8.le_iff_toNat_le, UInt8.le_iff_toNat_le] at hch
    rw [manufacturerLetter, if_pos (by rwa [UInt8.le_iff_toNat_le, UInt8.le_iff_toNat_le]),
      encodeManufacturerChar, if_neg houtside, UInt8.toNat_toUInt16, UInt8.toNat_add, hsub]
    have hone : (1 : UInt8).toNat = 1 := rfl
    omega
  · have houtside : ch < 0x41 ∨ 0x5a < ch := by
      rw [UInt8.lt_iff_toNat_lt, UInt8.lt_iff_toNat_lt]
      rw [UInt8.le_iff_toNat_le, UInt8.le_iff_toNat_le] at hch
      omega
    rw [manufacturerLetter, if_neg hch, encodeManufacturerChar, if_pos houtside]
    decide

theorem decodeManufacturerChar_of_toNat {ch : UInt8} {part : UInt16}
    (hpart : part.toNat = (encodeManufacturerChar ch).toNat) :
    decodeManufacturerChar part = some (manufacturerLetter ch) := by
  obtain ⟨hencoded, hlow, hhigh⟩ := toNat_encodeManufacturerChar ch
  rw [hencoded] at hpart
  have hzero : (0 : UInt16).toNat = 0 := rfl
  have h26 : (26 : UInt16).toNat = 26 := rfl
  have hrange : ¬(part = 0 ∨ 26 < part) := by
    rw [← UInt16.toNat_inj, UInt16.lt_iff_toNat_lt]
    omega
  rw [decodeManufacturerChar, if_neg hrange]
  refine congrArg some (UInt8.toNat_inj.mp ?_)
  have h41 : (0x41 : UInt8).toNat = 0x41 := rfl
  have hone : (1 : UInt8).toNat = 1 := rfl
  rw [UInt8.toNat_sub, UInt8.toNat_add, UInt16.toNat_toUInt8]
  omega

/-- Three letters of five bits. -/
theorem toNat_encodeManufacturerId (manufacturerId : Vector UInt8 3) :
    (encodeManufacturerId manufacturerId).toNat =
      (encodeManufacturerChar (manufacturerId.get 0)).toNat * 1024 +
        (encodeManufacturerChar (manufacturerId.get 1)).toNat * 32 +
        (encodeManufacturerChar (manufacturerId.get 2)).toNat := by
  obtain ⟨h₀, -, hhigh₀⟩ := toNat_encodeManufacturerChar (manufacturerId.get 0)
  obtain ⟨h₁, -, hhigh₁⟩ := toNat_encodeManufacturerChar (manufacturerId.get 1)
  obtain ⟨h₂, -, hhigh₂⟩ := toNat_encodeManufacturerChar (manufacturerId.get 2)
  rw [encodeManufacturerId, show manufacturerId[0] = manufacturerId.get 0 from rfl,
    show manufacturerId[1] = manufacturerId.get 1 from rfl,
    show manufacturerId[2] = manufacturerId.get 2 from rfl]
  generalize encodeManufacturerChar (manufacturerId.get 0) = c₀ at *
  generalize encodeManufacturerChar (manufacturerId.get 1) = c₁ at *
  generalize encodeManufacturerChar (manufacturerId.get 2) = c₂ at *
  have hshift₀ : (c₀ <<< 10).toNat = (c₀.toNat * 32) <<< 5 := by
    rw [UInt16.toNat_shiftLeft, Nat.shiftLeft_eq, Nat.shiftLeft_eq]
    have hlt : c₀.toNat * 2 ^ 10 < 2 ^ 16 := by omega
    exact (Nat.mod_eq_of_lt hlt).trans (by omega)
  have hshift₁ : (c₁ <<< 5).toNat = c₁.toNat <<< 5 := by
    rw [UInt16.toNat_shiftLeft, Nat.shiftLeft_eq, Nat.shiftLeft_eq]
    have hlt : c₁.toNat * 2 ^ 5 < 2 ^ 16 := by omega
    exact Nat.mod_eq_of_lt hlt
  have hhead : c₀.toNat * 32 ||| c₁.toNat = c₀.toNat * 32 + c₁.toNat := by
    have h := @Bits.or_shiftLeft_of_lt c₁.toNat c₀.toNat 5 (by omega)
    rw [Nat.shiftLeft_eq] at h
    rw [Nat.or_comm]
    exact h.trans (Nat.add_comm _ _)
  rw [UInt16.toNat_or, UInt16.toNat_or, hshift₀, hshift₁, ← Nat.shiftLeft_or_distrib, Nat.or_comm,
    @Bits.or_shiftLeft_of_lt c₂.toNat _ 5 (by omega), hhead]
  omega

/-! ## The preferred timing -/

theorem toNat_clamp {α : Type} [LT α] [DecidableLT α] (toNat : α → Nat)
    (hlt : ∀ a b, a < b ↔ toNat a < toNat b) (value low high : α) :
    toNat (clamp value low high) = clamp (toNat value) (toNat low) (toNat high) := by
  rw [clamp, clamp]
  simp only [hlt]
  split <;> [rfl; split <;> rfl]

theorem clamp_bounds {low high : Nat} (h : low ≤ high) (value : Nat) :
    low ≤ clamp value low high ∧ clamp value low high ≤ high := by
  rw [clamp]
  split <;> [omega; split <;> omega]

theorem detailedTimingOptions_size (options : EdidOptions) :
    (detailedTimingOptions options).width = options.width ∧
      (detailedTimingOptions options).height = options.height := by
  rw [detailedTimingOptions]
  dsimp only
  split_ifs <;> exact ⟨rfl, rfl⟩

theorem align8_lt {value : UInt32} (h : value.toNat ≤ 2047) : (align8 value).toNat < 2 ^ 12 := by
  have hand : ((value + 7) &&& ~~~7).toNat ≤ (value + 7).toNat := by
    rw [UInt32.toNat_and]
    exact Nat.and_le_left
  have hadd : (value + 7).toNat ≤ value.toNat + 7 := by
    rw [UInt32.toNat_add]
    exact Nat.mod_le _ _
  rw [align8, UInt32.toNat_toUInt16]
  omega

/-- The fields of a timing fit into their bits, and the clock is not zero. -/
theorem makePreferredTiming_bounds (options : EdidOptions) :
    (makePreferredTiming options).pixelClock10khz.toNat < 2 ^ 16 ∧
      (makePreferredTiming options).pixelClock10khz.toNat ≠ 0 ∧
      (makePreferredTiming options).horizontalBlanking.toNat < 2 ^ 12 ∧
      (makePreferredTiming options).verticalBlanking.toNat < 2 ^ 12 := by
  have hclock := toNat_clamp UInt64.toNat (fun _ _ ↦ UInt64.lt_iff_toNat_lt)
    (preferredPixelClockHz options / 10000) 1 0xffff
  have hclock' := clamp_bounds (by decide : 1 ≤ 0xffff)
    (preferredPixelClockHz options / 10000).toNat
  have hhorizontal := toNat_clamp UInt32.toNat (fun _ _ ↦ UInt32.lt_iff_toNat_lt)
    (options.width / 5) 160 2047
  have hhorizontal' := clamp_bounds (by decide : 160 ≤ 2047) (options.width / 5).toNat
  have hvertical := toNat_clamp UInt32.toNat (fun _ _ ↦ UInt32.lt_iff_toNat_lt)
    (options.height / 20) 45 1023
  have hvertical' := clamp_bounds (by decide : 45 ≤ 1023) (options.height / 20).toNat
  refine ⟨?_, ?_, align8_lt (hhorizontal.trans_le hhorizontal'.2), ?_⟩
  · rw [makePreferredTiming, UInt64.toNat_toUInt32, hclock]
    exact Nat.lt_of_le_of_lt (Nat.mod_le _ _) (Nat.lt_succ_of_le hclock'.2)
  · rw [makePreferredTiming, UInt64.toNat_toUInt32, hclock]
    have hone : (1 : UInt64).toNat = 1 := rfl
    have hmax : (0xffff : UInt64).toNat = 0xffff := rfl
    rw [hone, hmax]
    omega
  · rw [makePreferredTiming, verticalBlanking, UInt32.toNat_toUInt16, hvertical]
    exact Nat.lt_of_le_of_lt (Nat.mod_le _ _) (Nat.lt_of_le_of_lt hvertical'.2 (by decide))

theorem toNat_sanitizedOptions_width (options : EdidOptions) :
    (sanitizedOptions options).width.toNat = clamp options.width.toNat 1 4095 :=
  toNat_clamp UInt32.toNat (fun _ _ ↦ UInt32.lt_iff_toNat_lt) options.width 1 4095

theorem toNat_sanitizedOptions_height (options : EdidOptions) :
    (sanitizedOptions options).height.toNat = clamp options.height.toNat 1 4095 :=
  toNat_clamp UInt32.toNat (fun _ _ ↦ UInt32.lt_iff_toNat_lt) options.height 1 4095

/-- The timing keeps the sanitized width, which fits into twelve bits. -/
theorem toNat_horizontalActive (options : EdidOptions) :
    (makePreferredTiming
      (detailedTimingOptions (sanitizedOptions options))).horizontalActive.toNat =
      (sanitizedOptions options).width.toNat := by
  have hbounds := clamp_bounds (by decide : 1 ≤ 4095) options.width.toNat
  rw [← toNat_sanitizedOptions_width] at hbounds
  rw [makePreferredTiming, UInt32.toNat_toUInt16, (detailedTimingOptions_size _).1]
  omega

theorem toNat_verticalActive (options : EdidOptions) :
    (makePreferredTiming (detailedTimingOptions (sanitizedOptions options))).verticalActive.toNat =
      (sanitizedOptions options).height.toNat := by
  have hbounds := clamp_bounds (by decide : 1 ≤ 4095) options.height.toNat
  rw [← toNat_sanitizedOptions_height] at hbounds
  rw [makePreferredTiming, UInt32.toNat_toUInt16, (detailedTimingOptions_size _).2]
  omega

/-- The eight bytes that hold a timing. -/
def TimingBytes {size : Nat} (data : Vector UInt8 size) (timing : PreferredTiming) : Prop :=
  byteOf data 54 = byte timing.pixelClock10khz.toUInt16.toUInt32 ∧
    byteOf data 55 = byte (timing.pixelClock10khz.toUInt16 >>> 8).toUInt32 ∧
    byteOf data 56 = byte timing.horizontalActive.toUInt32 ∧
    byteOf data 57 = byte timing.horizontalBlanking.toUInt32 ∧
    byteOf data 58 = byte (((timing.horizontalActive.toUInt32 >>> 8) <<< 4) |||
      (timing.horizontalBlanking.toUInt32 >>> 8)) ∧
    byteOf data 59 = byte timing.verticalActive.toUInt32 ∧
    byteOf data 60 = byte timing.verticalBlanking.toUInt32 ∧
    byteOf data 61 = byte (((timing.verticalActive.toUInt32 >>> 8) <<< 4) |||
      (timing.verticalBlanking.toUInt32 >>> 8))

theorem TimingBytes.congr {size size' : Nat} {data : Vector UInt8 size}
    {data' : Vector UInt8 size'} {timing : PreferredTiming} (h : TimingBytes data timing)
    (hdata : ∀ i, 54 ≤ i → i < 62 → byteOf data' i = byteOf data i) :
    TimingBytes data' timing := by
  rw [TimingBytes, hdata 54 (by decide) (by decide), hdata 55 (by decide) (by decide),
    hdata 56 (by decide) (by decide), hdata 57 (by decide) (by decide),
    hdata 58 (by decide) (by decide), hdata 59 (by decide) (by decide),
    hdata 60 (by decide) (by decide), hdata 61 (by decide) (by decide)]
  exact h

theorem byteOf_write_add (data : Block) {offset k : Nat} {bytes : List UInt8}
    (hk : k < bytes.length) (hsize : offset + k < kEdidBlockSize) :
    byteOf (data.write offset bytes) (offset + k) = bytes.getD k 0 := by
  rw [byteOf_write_of_mem data hsize (Nat.le_add_right offset k) (Nat.add_lt_add_left hk offset),
    Nat.add_sub_cancel_left]

section

variable (options : EdidOptions)

theorem writeDetailedTiming_bytes (data : Block) :
    TimingBytes (writeDetailedTiming data 54 options)
      (makePreferredTiming (detailedTimingOptions options)) := by
  have hclock {i : Nat} (hi : i < 56) (hi' : 54 ≤ i) :
      byteOf (writeDetailedTiming data 54 options) i = byteOf (putLe16 data 54
        (makePreferredTiming (detailedTimingOptions options)).pixelClock10khz.toUInt16) i := by
    have hsize : i < kEdidBlockSize := by rw [kEdidBlockSize]; omega
    rw [writeDetailedTiming, byteOf_write _ _ _ hsize, if_neg (by omega)]
  refine ⟨?_, ?_, ?_, ?_, ?_, ?_, ?_, ?_⟩
  · rw [hclock (by decide) (by decide)]
    exact @byteOf_write_add data 54 0 _ (by simp) (by decide)
  · rw [hclock (by decide) (by decide)]
    exact @byteOf_write_add data 54 1 _ (by simp) (by decide)
  · exact @byteOf_write_add _ 56 0 _ (by simp) (by decide)
  · exact @byteOf_write_add _ 56 1 _ (by simp) (by decide)
  · exact @byteOf_write_add _ 56 2 _ (by simp) (by decide)
  · exact @byteOf_write_add _ 56 3 _ (by simp) (by decide)
  · exact @byteOf_write_add _ 56 4 _ (by simp) (by decide)
  · exact @byteOf_write_add _ 56 5 _ (by simp) (by decide)

end

/-- Two words of twelve bits come back from the three bytes they share. -/
theorem packed12_roundTrip {a b : UInt16} (ha : a.toNat < 2 ^ 12) (hb : b.toNat < 2 ^ 12) :
    let packed := byte (((a.toUInt32 >>> 8) <<< 4) ||| (b.toUInt32 >>> 8))
    ((byte a.toUInt32).toUInt32 ||| ((packed.toUInt32 &&& 0xf0) <<< 4)).toUInt16 = a ∧
      ((byte b.toUInt32).toUInt32 ||| ((packed.toUInt32 &&& 0x0f) <<< 8)).toUInt16 = b := by
  have hpacked : (byte (((a.toUInt32 >>> 8) <<< 4) ||| (b.toUInt32 >>> 8))).toNat =
      a.toNat / 2 ^ 8 * 16 + b.toNat / 2 ^ 8 :=
    @Bits.toNat_packed12 a.toUInt32 b.toUInt32 ha hb
  constructor <;> refine UInt16.toNat_inj.mp ?_
  · rw [Bits.toNat_word12_high, toNat_byte, hpacked, UInt16.toNat_toUInt32]
    omega
  · rw [Bits.toNat_word12_low, toNat_byte, hpacked, UInt16.toNat_toUInt32]
    omega

/-- A word of sixteen bits comes back from its two bytes. -/
theorem clock_roundTrip {clock : UInt32} (hclock : clock.toNat < 2 ^ 16) :
    (byte clock.toUInt16.toUInt32).toUInt32 |||
      ((byte (clock.toUInt16 >>> 8).toUInt32).toUInt32 <<< 8) = clock := by
  have h8 : (clock.toUInt16 >>> 8).toNat = clock.toUInt16.toNat / 2 ^ 8 :=
    Bits.toNat_shiftRight16 _ (by decide : 8 < 16)
  have hhigh : (byte (clock.toUInt16 >>> 8).toUInt32).toUInt32.toNat = clock.toNat / 2 ^ 8 := by
    rw [UInt8.toNat_toUInt32, toNat_byte, UInt16.toNat_toUInt32, h8, UInt32.toNat_toUInt16]
    omega
  refine UInt32.toNat_inj.mp ?_
  rw [Bits.toNat_or_shiftLeft_eight _ _ (by rw [hhigh]; omega), hhigh, toNat_byte,
    UInt16.toNat_toUInt32, UInt32.toNat_toUInt16]
  omega

theorem readPreferredTiming_of_bytes {edid : Vector UInt8 kEdidSize} {timing : PreferredTiming}
    (hclock : timing.pixelClock10khz.toNat < 2 ^ 16)
    (hwidth : timing.horizontalActive.toNat < 2 ^ 12)
    (hhorizontal : timing.horizontalBlanking.toNat < 2 ^ 12)
    (hheight : timing.verticalActive.toNat < 2 ^ 12)
    (hvertical : timing.verticalBlanking.toNat < 2 ^ 12)
    (hbytes : TimingBytes edid timing) :
    readPreferredTiming edid = timing := by
  obtain ⟨h54, h55, h56, h57, h58, h59, h60, h61⟩ := hbytes
  obtain ⟨hhorizontalActive, hhorizontalBlanking⟩ := packed12_roundTrip hwidth hhorizontal
  obtain ⟨hverticalActive, hverticalBlanking⟩ := packed12_roundTrip hheight hvertical
  rw [readPreferredTiming, h54, h55, h56, h57, h58, h59, h60, h61, clock_roundTrip hclock,
    hhorizontalActive, hhorizontalBlanking, hverticalActive, hverticalBlanking]

/-! ## The walk over the CTA data blocks -/

/-- The walk passes over a block of another tag. -/
theorem findCtaDataBlockFrom_skip {extension : Block} {extendedTag header : UInt8}
    {minLength offset : Nat} (dataEnd : Nat) (hheader : byteOf extension offset = header)
    (hfits : offset + (header &&& 0x1f).toNat < dataEnd ∧ (header &&& 0x1f).toNat ≠ 0)
    (hskip : header >>> 5 ≠ 0x07 ∨ byteOf extension (offset + 1) ≠ extendedTag) :
    findCtaDataBlockFrom extension extendedTag minLength dataEnd offset =
      findCtaDataBlockFrom extension extendedTag minLength dataEnd
        (offset + (header &&& 0x1f).toNat + 1) := by
  rw [findCtaDataBlockFrom, hheader, if_pos (by omega)]
  dsimp only
  rw [if_neg (by omega), if_neg]
  rintro ⟨htag, -, hextended⟩
  exact hskip.elim (· htag) (· hextended)

/-- The walk ends at a block of the tag that is long enough. -/
theorem findCtaDataBlockFrom_found {extension : Block} {extendedTag header : UInt8}
    {minLength offset : Nat} (dataEnd : Nat) (hheader : byteOf extension offset = header)
    (hfits : offset + (header &&& 0x1f).toNat < dataEnd ∧ (header &&& 0x1f).toNat ≠ 0)
    (htag : header >>> 5 = 0x07 ∧ minLength ≤ (header &&& 0x1f).toNat)
    (hextended : byteOf extension (offset + 1) = extendedTag) :
    findCtaDataBlockFrom extension extendedTag minLength dataEnd offset = some offset := by
  rw [findCtaDataBlockFrom, hheader, if_pos (by omega)]
  dsimp only
  rw [if_neg (by omega), if_pos ⟨htag.1, htag.2, hextended⟩]

/-! ## The round trip -/

section

variable (hdrMaxLuminanceCtaValue : UInt32 → UInt8) (options : EdidOptions)

theorem byteOf_createEdid {i : Nat} (hi : i < kEdidBlockSize) :
    byteOf (createEdid hdrMaxLuminanceCtaValue options) i =
      byteOf (createBaseBlock (sanitizedOptions options)) i :=
  byteOf_append_left _ _ hi

theorem byteOf_createEdid_extension {i : Nat} (hi : i < kEdidBlockSize) :
    byteOf (createEdid hdrMaxLuminanceCtaValue options) (kEdidBlockSize + i) =
      byteOf (createExtensionBlock hdrMaxLuminanceCtaValue (sanitizedOptions options)) i :=
  byteOf_append_right _ _ hi

theorem hasValidEdidChecksums_createEdid :
    hasValidEdidChecksums (createEdid hdrMaxLuminanceCtaValue options) = true := by
  have hbase : byteSum (createEdid hdrMaxLuminanceCtaValue options) (0 * kEdidBlockSize)
      kEdidBlockSize = byteSum (createBaseBlock (sanitizedOptions options)) 0 kEdidBlockSize :=
    byteSum_congr fun i hi ↦ by
      rw [Nat.zero_mul, Nat.zero_add, byteOf_createEdid _ _ hi]
  have hextension : byteSum (createEdid hdrMaxLuminanceCtaValue options) (1 * kEdidBlockSize)
      kEdidBlockSize =
        byteSum (createExtensionBlock hdrMaxLuminanceCtaValue (sanitizedOptions options)) 0
          kEdidBlockSize :=
    byteSum_congr fun i hi ↦ by
      rw [Nat.one_mul, Nat.zero_add, byteOf_createEdid_extension _ _ hi]
  rw [hasValidEdidChecksums, List.all_cons, List.all_cons, List.all_nil, hbase, hextension,
    createBaseBlock, createExtensionBlock, byteSum_writeChecksum, byteSum_writeChecksum]
  rfl

/-- The bytes of the identity. -/
theorem writeIdentity_bytes (data : Block) {i : Nat} (hlow : 8 ≤ i) (hhigh : i < 16) :
    byteOf (writeIdentity data options) i =
      [byte (encodeManufacturerId options.manufacturerId >>> 8).toUInt32,
        byte (encodeManufacturerId options.manufacturerId).toUInt32,
        byte options.productCode.toUInt32, byte (options.productCode >>> 8).toUInt32,
        byte options.serialNumber, byte (options.serialNumber >>> 8),
        byte (options.serialNumber >>> 16), byte (options.serialNumber >>> 24)].getD (i - 8) 0 := by
  have hsize : i < kEdidBlockSize := by rw [kEdidBlockSize]; omega
  have hchromaticities (base : Block) :
      byteOf (if options.hdrSupported then writeChromaticities base else base) i =
        byteOf base i := by
    split
    · exact writeChromaticities_sameOutside base i hsize (by omega)
    · rfl
  rw [writeIdentity, hchromaticities, byteOf_write _ 16 _ hsize, if_neg (by omega), putLe32,
    byteOf_write _ 12 _ hsize, putLe16, byteOf_write _ 10 _ hsize, byteOf_write _ 8 _ hsize]
  interval_cases i <;> rfl

/-- The bytes of the identity, as the decoders see them. -/
theorem byteOf_createEdid_identity {i : Nat} (hlow : 8 ≤ i) (hhigh : i < 16) :
    byteOf (createEdid hdrMaxLuminanceCtaValue options) i =
      [byte (encodeManufacturerId options.manufacturerId >>> 8).toUInt32,
        byte (encodeManufacturerId options.manufacturerId).toUInt32,
        byte options.productCode.toUInt32, byte (options.productCode >>> 8).toUInt32,
        byte options.serialNumber, byte (options.serialNumber >>> 8),
        byte (options.serialNumber >>> 16), byte (options.serialNumber >>> 24)].getD (i - 8) 0 := by
  rw [byteOf_createEdid _ _ (by rw [kEdidBlockSize]; omega),
    createBaseBlock_identity _ (by omega)]
  exact writeIdentity_bytes (sanitizedOptions options) _ hlow hhigh

theorem readManufacturerId_createEdid :
    readManufacturerId (createEdid hdrMaxLuminanceCtaValue options) =
      some (options.manufacturerId.map manufacturerLetter) := by
  obtain ⟨h₀, -, hhigh₀⟩ := toNat_encodeManufacturerChar options.manufacturerId[0]
  obtain ⟨h₁, -, hhigh₁⟩ := toNat_encodeManufacturerChar options.manufacturerId[1]
  obtain ⟨h₂, -, hhigh₂⟩ := toNat_encodeManufacturerChar options.manufacturerId[2]
  have hid := toNat_encodeManufacturerId options.manufacturerId
  rw [show options.manufacturerId.get 0 = options.manufacturerId[0] from rfl,
    show options.manufacturerId.get 1 = options.manufacturerId[1] from rfl,
    show options.manufacturerId.get 2 = options.manufacturerId[2] from rfl] at hid
  have hbyte {i : Nat} (hlow : 8 ≤ i) (hhigh : i < 16) :=
    byteOf_createEdid_identity hdrMaxLuminanceCtaValue options hlow hhigh
  have h8 : (encodeManufacturerId options.manufacturerId >>> 8).toNat =
      (encodeManufacturerId options.manufacturerId).toNat / 2 ^ 8 :=
    Bits.toNat_shiftRight16 _ (by decide : 8 < 16)
  have hencoded : ((byteOf (createEdid hdrMaxLuminanceCtaValue options) 8).toUInt16 <<< 8 |||
      (byteOf (createEdid hdrMaxLuminanceCtaValue options) 9).toUInt16) =
        encodeManufacturerId options.manufacturerId := by
    refine UInt16.toNat_inj.mp ?_
    rw [UInt16.or_comm, Bits.toNat_pair16, hbyte (by decide) (by decide),
      hbyte (by decide) (by decide)]
    simp only [Nat.sub_self, List.getD_cons_zero, Nat.reduceSub, List.getD_cons_succ, toNat_byte,
      UInt16.toNat_toUInt32, h8]
    omega
  have hmask (part : UInt16) : (part &&& 0x1f).toNat = part.toNat % 32 := by
    rw [UInt16.toNat_and]
    exact Nat.and_two_pow_sub_one_eq_mod part.toNat 5
  have hten : (encodeManufacturerId options.manufacturerId >>> 10).toNat =
      (encodeManufacturerId options.manufacturerId).toNat / 2 ^ 10 :=
    Bits.toNat_shiftRight16 _ (by decide : 10 < 16)
  have hfive : (encodeManufacturerId options.manufacturerId >>> 5).toNat =
      (encodeManufacturerId options.manufacturerId).toNat / 2 ^ 5 :=
    Bits.toNat_shiftRight16 _ (by decide : 5 < 16)
  rw [readManufacturerId, hencoded]
  rw [@decodeManufacturerChar_of_toNat options.manufacturerId[0] _ (by rw [hmask, hten]; omega),
    @decodeManufacturerChar_of_toNat options.manufacturerId[1] _ (by rw [hmask, hfive]; omega),
    @decodeManufacturerChar_of_toNat options.manufacturerId[2] _ (by rw [hmask]; omega)]
  refine congrArg some (Vector.ext fun i hi ↦ ?_)
  rw [Vector.getElem_map]
  interval_cases i <;> rfl

theorem readProductCode_createEdid :
    readProductCode (createEdid hdrMaxLuminanceCtaValue options) = options.productCode := by
  have hlt := options.productCode.toNat_lt
  have h8 : (options.productCode >>> 8).toNat = options.productCode.toNat / 2 ^ 8 :=
    Bits.toNat_shiftRight16 _ (by decide : 8 < 16)
  have hbyte {i : Nat} (hlow : 8 ≤ i) (hhigh : i < 16) :=
    byteOf_createEdid_identity hdrMaxLuminanceCtaValue options hlow hhigh
  refine UInt16.toNat_inj.mp ?_
  rw [readProductCode, Bits.toNat_pair16, hbyte (by decide) (by decide),
    hbyte (by decide) (by decide)]
  simp only [Nat.reduceSub, List.getD_cons_succ, List.getD_cons_zero, toNat_byte,
    UInt16.toNat_toUInt32, h8]
  omega

theorem readSerialNumber_createEdid :
    readSerialNumber (createEdid hdrMaxLuminanceCtaValue options) = options.serialNumber := by
  have hbyte {i : Nat} (hlow : 8 ≤ i) (hhigh : i < 16) :=
    byteOf_createEdid_identity hdrMaxLuminanceCtaValue options hlow hhigh
  rw [readSerialNumber, hbyte (by decide) (by decide), hbyte (by decide) (by decide),
    hbyte (by decide) (by decide), hbyte (by decide) (by decide)]
  exact Bits.word32_bytes32 options.serialNumber

theorem createEdid_timingBytes :
    TimingBytes (createEdid hdrMaxLuminanceCtaValue options)
      (makePreferredTiming (detailedTimingOptions (sanitizedOptions options))) :=
  (writeDetailedTiming_bytes (sanitizedOptions options) _).congr fun i hlow hhigh ↦
    (byteOf_createEdid _ options (Nat.lt_trans hhigh (by decide))).trans
      (createBaseBlock_timing _ hlow (Nat.lt_trans hhigh (by decide)))

theorem readPreferredTiming_createEdid :
    readPreferredTiming (createEdid hdrMaxLuminanceCtaValue options) =
      makePreferredTiming (detailedTimingOptions (sanitizedOptions options)) := by
  obtain ⟨hclock, -, hhorizontal, hvertical⟩ :=
    makePreferredTiming_bounds (detailedTimingOptions (sanitizedOptions options))
  have hwidth := clamp_bounds (by decide : 1 ≤ 4095) options.width.toNat
  have hheight := clamp_bounds (by decide : 1 ≤ 4095) options.height.toNat
  rw [← toNat_sanitizedOptions_width, ← toNat_horizontalActive] at hwidth
  rw [← toNat_sanitizedOptions_height, ← toNat_verticalActive] at hheight
  exact readPreferredTiming_of_bytes hclock (Nat.lt_succ_of_le hwidth.2) hhorizontal
    (Nat.lt_succ_of_le hheight.2) hvertical
    (createEdid_timingBytes hdrMaxLuminanceCtaValue options)

/-- The first descriptor is the timing, whose clock is not zero. -/
theorem createEdid_clock_ne_zero :
    byteOf (createEdid hdrMaxLuminanceCtaValue options) 54 ≠ 0 ∨
      byteOf (createEdid hdrMaxLuminanceCtaValue options) 55 ≠ 0 := by
  have hread := congrArg PreferredTiming.pixelClock10khz
    (readPreferredTiming_createEdid hdrMaxLuminanceCtaValue options)
  have hzero := (makePreferredTiming_bounds (detailedTimingOptions (sanitizedOptions options))).2.1
  by_contra hboth
  obtain ⟨h54, h55⟩ := not_or.mp hboth
  rw [← hread, readPreferredTiming, not_not.mp h54, not_not.mp h55] at hzero
  exact hzero rfl

/-- The first twelve characters, with blanks for those that cannot be shown and none at the
end. -/
theorem readMonitorName_createEdid :
    readMonitorName (createEdid hdrMaxLuminanceCtaValue options) =
      if sanitizedEdidText options.monitorName 12 = [] then none
      else some (sanitizedEdidText options.monitorName 12) := by
  have hserial : byteOf (createEdid hdrMaxLuminanceCtaValue options) 75 = 0xff := by
    obtain ⟨base, hbase⟩ := createBaseBlock_serialText (sanitizedOptions options)
      (by decide : 72 ≤ 75) (by decide)
    rw [byteOf_createEdid _ _ (by decide), hbase]
    exact @byteOf_writeTextDescriptor_header base 72 (by decide) 0xff _ 3 (by decide)
  have hrange : byteOf (createEdid hdrMaxLuminanceCtaValue options) 111 = 0xfd := by
    obtain ⟨base, hbase⟩ := createBaseBlock_range (sanitizedOptions options)
      (by decide : 108 ≤ 111) (by decide)
    rw [byteOf_createEdid _ _ (by decide), hbase]
    exact @byteOf_write_add base 108 3 _ (by simp) (by decide)
  have hheader {k : Nat} (hk : k < 5) :
      byteOf (createEdid hdrMaxLuminanceCtaValue options) (90 + k) =
        [0x00, 0x00, 0x00, 0xfc, 0x00].getD k 0 := by
    obtain ⟨base, hbase⟩ := createBaseBlock_nameText (sanitizedOptions options)
      (Nat.le_add_right 90 k) (by omega)
    rw [byteOf_createEdid _ _ (by rw [kEdidBlockSize]; omega), hbase]
    exact byteOf_writeTextDescriptor_header base (by decide) 0xfc _ hk
  have htext : ((List.range 13).map fun index ↦
      byteOf (createEdid hdrMaxLuminanceCtaValue options) (90 + 5 + index)) =
        (sanitizedEdidText options.monitorName 12 ++
          0x0a :: List.replicate 12 0x20).take 13 := by
    refine List.ext_getElem (by simp) fun i hi hi' ↦ ?_
    have hi13 : i < 13 := by rwa [List.length_map, List.length_range] at hi
    obtain ⟨base, hbase⟩ := createBaseBlock_nameText (sanitizedOptions options)
      (by omega : 90 ≤ 90 + 5 + i) (by omega)
    rw [List.getElem_map, List.getElem_range, byteOf_createEdid _ _ (by rw [kEdidBlockSize]; omega),
      hbase, byteOf_writeTextDescriptor_text base (by decide) 0xfc _ hi13, List.getElem_take,
      ← List.getD_eq_getElem _ 0]
    rfl
  have hnotTiming := createEdid_clock_ne_zero hdrMaxLuminanceCtaValue options
  have hskipSerial : byteOf (createEdid hdrMaxLuminanceCtaValue options) (72 + 3) ≠ 0xfc := by
    rw [hserial]
    decide
  have hskipRange : byteOf (createEdid hdrMaxLuminanceCtaValue options) (108 + 3) ≠ 0xfc := by
    rw [hrange]
    decide
  have hname : ¬(byteOf (createEdid hdrMaxLuminanceCtaValue options) 90 ≠ 0x00 ∨
      byteOf (createEdid hdrMaxLuminanceCtaValue options) (90 + 1) ≠ 0x00 ∨
      byteOf (createEdid hdrMaxLuminanceCtaValue options) (90 + 2) ≠ 0x00 ∨
      byteOf (createEdid hdrMaxLuminanceCtaValue options) (90 + 3) ≠ 0xfc ∨
      byteOf (createEdid hdrMaxLuminanceCtaValue options) (90 + 4) ≠ 0x00) := by
    rw [hheader (by decide : 1 < 5), hheader (by decide : 2 < 5), hheader (by decide : 3 < 5),
      hheader (by decide : 4 < 5), show 90 = 90 + 0 from rfl, hheader (by decide : 0 < 5)]
    decide
  have hrest : readMonitorNameFrom (createEdid hdrMaxLuminanceCtaValue options) [108] = none := by
    rw [readMonitorNameFrom, if_pos (.inr (.inr (.inr (.inl hskipRange)))), readMonitorNameFrom]
  rw [readMonitorName, readMonitorNameFrom, if_pos (hnotTiming.imp_right Or.inl),
    readMonitorNameFrom, if_pos (.inr (.inr (.inr (.inl hskipSerial)))), readMonitorNameFrom,
    if_neg hname, htext, descriptorText_take (length_sanitizedEdidText_le _ _) _
      fun ch ↦ sanitizedEdidText_printable]
  dsimp only
  rw [dropTrailingSpaces_sanitizedEdidText, hrest, ite_not]

/-! ### The CTA data blocks -/

theorem extensionOf_createEdid :
    extensionOf (createEdid hdrMaxLuminanceCtaValue options) =
      createExtensionBlock hdrMaxLuminanceCtaValue (sanitizedOptions options) := by
  refine Vector.ext fun i hi ↦ ?_
  rw [extensionOf, Vector.getElem_ofFn, byteOf_createEdid_extension _ _ hi]
  exact byteOf_eq _ hi

/-- Without HDR the list of data blocks is empty. -/
theorem findCtaDataBlock_of_not_hdrSupported (hhdr : options.hdrSupported = false)
    (extendedTag : UInt8) (minLength : Nat) :
    findCtaDataBlock (createExtensionBlock hdrMaxLuminanceCtaValue options) extendedTag minLength =
      none := by
  have hend : byteOf (createExtensionBlock hdrMaxLuminanceCtaValue options) 2 = 4 := by
    rw [createExtensionBlock, hhdr, writeChecksum_sameOutside _ 2 (by decide) (by decide),
      if_neg Bool.false_ne_true]
    exact @byteOf_write_add _ 2 0 _ (by decide) (by decide)
  generalize createExtensionBlock hdrMaxLuminanceCtaValue options = extension at *
  have hclamp : clamp (4 : UInt8).toNat 4 (kEdidBlockSize - 1) = 4 := by decide
  rw [findCtaDataBlock, hend, hclamp, findCtaDataBlockFrom, if_neg (Nat.lt_irrefl 4), ite_self]

theorem byteOf_createExtensionBlock_blocks (hhdr : options.hdrSupported = true) {k : Nat}
    (hk : k < 64) :
    byteOf (createExtensionBlock hdrMaxLuminanceCtaValue options) (4 + k) =
      (hdrCtaBlocks (hdrMaxLuminanceCtaValue options.hdrMaxLuminanceNits)).getD k 0 := by
  have hsize : 4 + k < kEdidBlockSize := by rw [kEdidBlockSize]; omega
  rw [createExtensionBlock, writeChecksum_sameOutside _ _ hsize (by omega), hhdr, if_pos rfl,
    byteOf_write _ 2 _ hsize, if_neg (by rw [List.length_singleton]; omega),
    byteOf_write _ 3 _ hsize, if_neg (by rw [List.length_singleton]; omega)]
  exact byteOf_write_add _ hk hsize

/-- With HDR the walk passes over the blocks in front of the two with an extended tag. -/
theorem findCtaDataBlock_of_hdrSupported (hhdr : options.hdrSupported = true) :
    findCtaDataBlock (createExtensionBlock hdrMaxLuminanceCtaValue options) 0x05 2 = some 52 ∧
      findCtaDataBlock (createExtensionBlock hdrMaxLuminanceCtaValue options) 0x06 3 =
        some 61 := by
  have hbyte {k : Nat} (hk : k < 64) :=
    byteOf_createExtensionBlock_blocks hdrMaxLuminanceCtaValue options hhdr hk
  have hfirst : byteOf (createExtensionBlock hdrMaxLuminanceCtaValue options) 0 = 0x02 := by
    rw [createExtensionBlock, hhdr, writeChecksum_sameOutside _ 0 (by decide) (by decide),
      if_pos rfl, byteOf_write _ 2 _ (by decide), if_neg (by decide),
      byteOf_write _ 3 _ (by decide), if_neg (by decide), byteOf_write _ 4 _ (by decide),
      if_neg (by omega)]
    exact @byteOf_write_add _ 0 0 _ (by decide) (by decide)
  have hend : byteOf (createExtensionBlock hdrMaxLuminanceCtaValue options) 2 = 68 := by
    rw [createExtensionBlock, hhdr, writeChecksum_sameOutside _ 2 (by decide) (by decide),
      if_pos rfl]
    exact @byteOf_write_add _ 2 0 _ (by decide) (by decide)
  have h4 : byteOf _ 4 = 0x51 := hbyte (by decide : 0 < 64)
  have h22 : byteOf _ 22 = 0x23 := hbyte (by decide : 18 < 64)
  have h26 : byteOf _ 26 = 0x83 := hbyte (by decide : 22 < 64)
  have h30 : byteOf _ 30 = 0x6d := hbyte (by decide : 26 < 64)
  have h44 : byteOf _ 44 = 0x67 := hbyte (by decide : 40 < 64)
  have h52 : byteOf _ 52 = 0xe3 := hbyte (by decide : 48 < 64)
  have h53 : byteOf _ 53 = 0x05 := hbyte (by decide : 49 < 64)
  have h56 : byteOf _ 56 = 0xe4 := hbyte (by decide : 52 < 64)
  have h57 : byteOf _ 57 = 0x0f := hbyte (by decide : 53 < 64)
  have h61 : byteOf _ 61 = 0xe6 := hbyte (by decide : 57 < 64)
  have h62 : byteOf _ 62 = 0x06 := hbyte (by decide : 58 < 64)
  generalize createExtensionBlock hdrMaxLuminanceCtaValue options = extension at *
  -- The blocks in front of the first extended one have ordinary tags.
  have hwalk (extendedTag : UInt8) (minLength : Nat) :
      findCtaDataBlock extension extendedTag minLength =
        findCtaDataBlockFrom extension extendedTag minLength 68 52 := by
    rw [findCtaDataBlock, if_neg (not_not.mpr hfirst), hend]
    calc findCtaDataBlockFrom extension extendedTag minLength 68 4
      _ = findCtaDataBlockFrom extension extendedTag minLength 68 22 :=
        findCtaDataBlockFrom_skip 68 h4 (by decide) (.inl (by decide))
      _ = findCtaDataBlockFrom extension extendedTag minLength 68 26 :=
        findCtaDataBlockFrom_skip 68 h22 (by decide) (.inl (by decide))
      _ = findCtaDataBlockFrom extension extendedTag minLength 68 30 :=
        findCtaDataBlockFrom_skip 68 h26 (by decide) (.inl (by decide))
      _ = findCtaDataBlockFrom extension extendedTag minLength 68 44 :=
        findCtaDataBlockFrom_skip 68 h30 (by decide) (.inl (by decide))
      _ = findCtaDataBlockFrom extension extendedTag minLength 68 52 :=
        findCtaDataBlockFrom_skip 68 h44 (by decide) (.inl (by decide))
  constructor
  · rw [hwalk]
    exact findCtaDataBlockFrom_found 68 h52 (by decide) (by decide) h53
  · rw [hwalk]
    calc findCtaDataBlockFrom extension 0x06 3 68 52
      _ = findCtaDataBlockFrom extension 0x06 3 68 56 :=
        findCtaDataBlockFrom_skip 68 h52 (by decide) (.inr (by rw [h53]; decide))
      _ = findCtaDataBlockFrom extension 0x06 3 68 61 :=
        findCtaDataBlockFrom_skip 68 h56 (by decide) (.inr (by rw [h57]; decide))
      _ = some 61 := findCtaDataBlockFrom_found 68 h61 (by decide) (by decide) h62

theorem sanitizedOptions_hdrSupported :
    (sanitizedOptions options).hdrSupported = options.hdrSupported := rfl

theorem hasHdrStaticMetadata_of_find {edid : Vector UInt8 kEdidSize} :
    (findCtaDataBlock (extensionOf edid) 0x06 3 = none → hasHdrStaticMetadata edid = false) ∧
      (findCtaDataBlock (extensionOf edid) 0x06 3 = some 61 →
        byteOf (extensionOf edid) 63 = 0x0f → byteOf (extensionOf edid) 64 = 0x01 →
        hasHdrStaticMetadata edid = true) := by
  constructor
  · intro hfind
    rw [hasHdrStaticMetadata, readHdrStaticMetadata, hfind, Option.any_none]
  · intro hfind heotf htype
    rw [hasHdrStaticMetadata, readHdrStaticMetadata, hfind, Option.any_some]
    dsimp only
    rw [heotf, htype]
    rfl

theorem hasBt2020Colorimetry_of_find {edid : Vector UInt8 kEdidSize} :
    (findCtaDataBlock (extensionOf edid) 0x05 2 = none → hasBt2020Colorimetry edid = false) ∧
      (findCtaDataBlock (extensionOf edid) 0x05 2 = some 52 →
        byteOf (extensionOf edid) 54 = 0xe0 → hasBt2020Colorimetry edid = true) := by
  constructor
  · intro hfind
    rw [hasBt2020Colorimetry, readSupportedColorimetry, hfind, Option.any_none]
  · intro hfind hcolorimetry
    rw [hasBt2020Colorimetry, readSupportedColorimetry, hfind, Option.any_some]
    dsimp only
    rw [hcolorimetry]
    rfl

theorem hasHdrStaticMetadata_createEdid :
    hasHdrStaticMetadata (createEdid hdrMaxLuminanceCtaValue options) = options.hdrSupported := by
  rw [← sanitizedOptions_hdrSupported options]
  have hextension := extensionOf_createEdid hdrMaxLuminanceCtaValue options
  generalize createEdid hdrMaxLuminanceCtaValue options = edid at *
  generalize sanitizedOptions options = safeOptions at *
  cases hhdr : safeOptions.hdrSupported with
  | false =>
    refine hasHdrStaticMetadata_of_find.1 ?_
    rw [hextension, findCtaDataBlock_of_not_hdrSupported _ _ hhdr]
  | true =>
    have hbyte {k : Nat} (hk : k < 64) :=
      byteOf_createExtensionBlock_blocks hdrMaxLuminanceCtaValue safeOptions hhdr hk
    have hfind := (findCtaDataBlock_of_hdrSupported hdrMaxLuminanceCtaValue safeOptions hhdr).2
    have heotf : byteOf _ 63 = 0x0f := hbyte (by decide : 59 < 64)
    have htype : byteOf _ 64 = 0x01 := hbyte (by decide : 60 < 64)
    rw [← hextension] at hfind heotf htype
    exact hasHdrStaticMetadata_of_find.2 hfind heotf htype

theorem hasBt2020Colorimetry_createEdid :
    hasBt2020Colorimetry (createEdid hdrMaxLuminanceCtaValue options) = options.hdrSupported := by
  rw [← sanitizedOptions_hdrSupported options]
  have hextension := extensionOf_createEdid hdrMaxLuminanceCtaValue options
  generalize createEdid hdrMaxLuminanceCtaValue options = edid at *
  generalize sanitizedOptions options = safeOptions at *
  cases hhdr : safeOptions.hdrSupported with
  | false =>
    refine hasBt2020Colorimetry_of_find.1 ?_
    rw [hextension, findCtaDataBlock_of_not_hdrSupported _ _ hhdr]
  | true =>
    have hfind := (findCtaDataBlock_of_hdrSupported hdrMaxLuminanceCtaValue safeOptions hhdr).1
    have hcolorimetry : byteOf _ 54 = 0xe0 := byteOf_createExtensionBlock_blocks
      hdrMaxLuminanceCtaValue safeOptions hhdr (by decide : 50 < 64)
    rw [← hextension] at hfind hcolorimetry
    exact hasBt2020Colorimetry_of_find.2 hfind hcolorimetry

/-- **Every decoder reads back what the EDID was created from.** -/
theorem createEdid_roundTrip :
    let edid := createEdid hdrMaxLuminanceCtaValue options
    let timing := makePreferredTiming (detailedTimingOptions (sanitizedOptions options))
    let name := ((options.monitorName.take 12).map fun ch ↦
      if 0x20 ≤ ch ∧ ch ≤ 0x7e then ch else 0x20).rdropWhile (· == 0x20)
    hasValidEdidChecksums edid = true ∧
      readProductCode edid = options.productCode ∧
      readSerialNumber edid = options.serialNumber ∧
      readManufacturerId edid = some (options.manufacturerId.map fun ch ↦
        if 0x41 ≤ ch ∧ ch ≤ 0x5a then ch else 0x41) ∧
      readMonitorName edid = (if name = [] then none else some name) ∧
      readPreferredTiming edid = timing ∧
      timing.horizontalActive.toNat = clamp options.width.toNat 1 4095 ∧
      timing.verticalActive.toNat = clamp options.height.toNat 1 4095 ∧
      hasHdrStaticMetadata edid = options.hdrSupported ∧
      hasBt2020Colorimetry edid = options.hdrSupported := by
  refine ⟨hasValidEdidChecksums_createEdid _ options, readProductCode_createEdid _ options,
    readSerialNumber_createEdid _ options, readManufacturerId_createEdid _ options,
    readMonitorName_createEdid _ options, readPreferredTiming_createEdid _ options, ?_, ?_,
    hasHdrStaticMetadata_createEdid _ options, hasBt2020Colorimetry_createEdid _ options⟩
  · rw [toNat_horizontalActive, toNat_sanitizedOptions_width]
  · rw [toNat_verticalActive, toNat_sanitizedOptions_height]

end

end VirtualDisplay
