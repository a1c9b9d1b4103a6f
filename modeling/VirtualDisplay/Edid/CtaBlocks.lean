import VirtualDisplay.Edid.Basic

/-!
# The data blocks of a CTA extension

The extension of an EDID is a chain of blocks, each of which says in its header how long it is
(`find_cta_data_block` and the two decoders built on it in `edid.cpp`).  The bytes come from
outside, so that the declared end and the lengths need not fit together.

* `BlockAt` — the offsets that the headers lead to.
* `findCtaDataBlock_eq_some_iff` and `findCtaDataBlock_eq_none_iff` — the walk finds the first
  block on the chain that has the tag and the length.
* `findCtaDataBlockChecked` and its two callers read every byte through `readByte`, which fails
  outside of the block; they never fail (`findCtaDataBlockChecked_eq`,
  `readHdrStaticMetadataChecked_eq`, `readSupportedColorimetryChecked_eq`).

## What is here

* `ctaDataEnd`, `blockLength`, `HeaderFits` — the declared end, cut off at the size of the block,
  and when a header and its bytes lie in front of it.
* `findCtaDataBlockFrom_spec` — the walk, by induction on the bytes up to the end, of which each
  block takes one at least.
* `BlockMatches` — tag, extended tag and length.
* `findCtaDataBlock_inside` — all bytes of a block that was found are in the extension.
* `ctaDataBlocks_walk` — what the walk and the two decoders come to, for any 256 bytes.
-/

set_option autoImplicit false

namespace VirtualDisplay

/-! ## The chain of blocks -/

section Chain

variable (extension : Block) (extendedTag : UInt8) (minLength dataEnd : Nat)

/-- The number of bytes behind the header. -/
def blockLength (offset : Nat) : Nat := (byteOf extension offset &&& 0x1f).toNat

/-- A header in front of the end, of a block that is not empty and ends in front of it too. -/
def HeaderFits (offset : Nat) : Prop :=
  offset < dataEnd ∧ blockLength extension offset ≠ 0 ∧
    offset + blockLength extension offset < dataEnd

/-- The offsets that headers that fit lead to, one after the other. -/
inductive BlockAt (start : Nat) : Nat → Prop
  | first : BlockAt start start
  | next {offset : Nat} : BlockAt start offset → HeaderFits extension dataEnd offset →
      BlockAt start (offset + blockLength extension offset + 1)

/-- A block of the extended tag with enough bytes. -/
def BlockMatches (offset : Nat) : Prop :=
  byteOf extension offset >>> 5 = 0x07 ∧ minLength ≤ blockLength extension offset ∧
    byteOf extension (offset + 1) = extendedTag

instance (offset : Nat) : Decidable (HeaderFits extension dataEnd offset) :=
  inferInstanceAs (Decidable (_ ∧ _ ∧ _))

instance (offset : Nat) : Decidable (BlockMatches extension extendedTag minLength offset) :=
  inferInstanceAs (Decidable (_ ∧ _ ∧ _))

/-- The declared end, made to lie in the block. -/
def ctaDataEnd : Nat := clamp (byteOf extension 2).toNat 4 (kEdidBlockSize - 1)

end Chain

section

variable {extension : Block} {extendedTag : UInt8} {minLength dataEnd start offset : Nat}

theorem BlockAt.le (h : BlockAt extension dataEnd start offset) : start ≤ offset := by
  induction h with
  | first => exact Nat.le_refl start
  | next _ _ ih => omega

/-- The chain begins where it begins, and goes on from the next header. -/
theorem blockAt_iff : BlockAt extension dataEnd start offset ↔
    offset = start ∨ HeaderFits extension dataEnd start ∧
      BlockAt extension dataEnd (start + blockLength extension start + 1) offset := by
  constructor
  · intro h
    induction h with
    | first => exact .inl rfl
    | next _ hfits ih =>
      obtain rfl | ⟨hstart, hnext⟩ := ih
      · exact .inr ⟨hfits, .first⟩
      · exact .inr ⟨hstart, hnext.next hfits⟩
  · rintro (rfl | ⟨hstart, hnext⟩)
    · exact .first
    · induction hnext with
      | first => exact .next .first hstart
      | next _ hfits ih => exact ih.next hfits

/-- What the walk does at one offset. -/
theorem findCtaDataBlockFrom_eq :
    findCtaDataBlockFrom extension extendedTag minLength dataEnd start =
      if HeaderFits extension dataEnd start then
        if BlockMatches extension extendedTag minLength start then some start
        else findCtaDataBlockFrom extension extendedTag minLength dataEnd
          (start + blockLength extension start + 1)
      else none := by
  rw [findCtaDataBlockFrom]
  by_cases hinside : start < dataEnd
  · rw [if_pos hinside]
    dsimp only
    by_cases hbad : (byteOf extension start &&& 0x1f).toNat = 0 ∨ dataEnd ≤ start ∨
        dataEnd - start - 1 < (byteOf extension start &&& 0x1f).toNat
    · rw [if_pos hbad, if_neg]
      rw [HeaderFits, blockLength]
      omega
    · have hfits : HeaderFits extension dataEnd start := by
        rw [HeaderFits, blockLength]
        omega
      rw [if_neg hbad, if_pos hfits]
      rfl
  · rw [if_neg hinside, if_neg fun hfits ↦ hinside hfits.1]

/-- **The walk from an offset.**  It returns the first block on the chain that matches, if there
is one. -/
theorem findCtaDataBlockFrom_spec (extension : Block) (extendedTag : UInt8)
    (minLength dataEnd start : Nat) :
    (∀ offset, findCtaDataBlockFrom extension extendedTag minLength dataEnd start = some offset →
      BlockAt extension dataEnd start offset ∧ HeaderFits extension dataEnd offset ∧
        BlockMatches extension extendedTag minLength offset ∧
        ∀ earlier, BlockAt extension dataEnd start earlier → earlier < offset →
          ¬BlockMatches extension extendedTag minLength earlier) ∧
    (findCtaDataBlockFrom extension extendedTag minLength dataEnd start = none →
      ∀ offset, BlockAt extension dataEnd start offset → HeaderFits extension dataEnd offset →
        ¬BlockMatches extension extendedTag minLength offset) := by
  induction hmeasure : dataEnd - start using Nat.strong_induction_on generalizing start with
  | _ measure ih =>
    rw [findCtaDataBlockFrom_eq]
    by_cases hfits : HeaderFits extension dataEnd start
    · rw [if_pos hfits]
      by_cases hmatches : BlockMatches extension extendedTag minLength start
      · rw [if_pos hmatches]
        refine ⟨fun offset hoffset ↦ ?_, nofun⟩
        obtain rfl := Option.some.inj hoffset
        exact ⟨.first, hfits, hmatches, fun earlier hearlier hlt ↦
          absurd hearlier.le (Nat.not_le.mpr hlt)⟩
      · rw [if_neg hmatches]
        have hfurther : dataEnd - (start + blockLength extension start + 1) < measure := by
          have hinside := hfits.1
          omega
        obtain ⟨hsome, hnone⟩ := ih _ hfurther _ rfl
        refine ⟨fun offset hoffset ↦ ?_, fun hoffset offset hat hhere hmatch ↦ ?_⟩
        · obtain ⟨hat, hhere, hmatch, hfirst⟩ := hsome offset hoffset
          refine ⟨blockAt_iff.mpr (.inr ⟨hfits, hat⟩), hhere, hmatch, fun earlier hearlier hlt ↦ ?_⟩
          obtain rfl | ⟨-, hearlier⟩ := blockAt_iff.mp hearlier
          · exact hmatches
          · exact hfirst earlier hearlier hlt
        · obtain rfl | ⟨-, hat⟩ := blockAt_iff.mp hat
          · exact hmatches hmatch
          · exact hnone hoffset offset hat hhere hmatch
    · rw [if_neg hfits]
      refine ⟨nofun, fun _ offset hat hhere _ ↦ ?_⟩
      obtain rfl | ⟨hstart, -⟩ := blockAt_iff.mp hat
      · exact hfits hhere
      · exact hfits hstart

theorem ctaDataEnd_lt (extension : Block) : ctaDataEnd extension < kEdidBlockSize := by
  have hsize : kEdidBlockSize = 128 := rfl
  rw [ctaDataEnd, clamp]
  split_ifs <;> omega

/-- The search: nothing without a CTA header, and otherwise the walk from the fifth byte. -/
theorem findCtaDataBlock_eq (extension : Block) (extendedTag : UInt8) (minLength : Nat) :
    findCtaDataBlock extension extendedTag minLength =
      if byteOf extension 0 ≠ 0x02 then none
      else findCtaDataBlockFrom extension extendedTag minLength (ctaDataEnd extension) 4 := by
  rw [findCtaDataBlock]
  rfl

theorem findCtaDataBlock_eq_some_iff :
    findCtaDataBlock extension extendedTag minLength = some offset ↔
      byteOf extension 0 = 0x02 ∧ BlockAt extension (ctaDataEnd extension) 4 offset ∧
        HeaderFits extension (ctaDataEnd extension) offset ∧
        BlockMatches extension extendedTag minLength offset ∧
        ∀ earlier, BlockAt extension (ctaDataEnd extension) 4 earlier → earlier < offset →
          ¬BlockMatches extension extendedTag minLength earlier := by
  have hspec := findCtaDataBlockFrom_spec extension extendedTag minLength
    (ctaDataEnd extension) 4
  rw [findCtaDataBlock_eq]
  split_ifs with hheader
  · exact ⟨nofun, fun h ↦ absurd h.1 hheader⟩
  rw [not_not] at hheader
  refine ⟨fun h ↦ ⟨hheader, hspec.1 offset h⟩, fun ⟨_, hat, hfits, hmatches, hfirst⟩ ↦ ?_⟩
  cases hwalk : findCtaDataBlockFrom extension extendedTag minLength (ctaDataEnd extension) 4 with
  | none => exact absurd hmatches (hspec.2 hwalk offset hat hfits)
  | some found =>
    obtain ⟨hat', -, hmatches', hfirst'⟩ := hspec.1 found hwalk
    obtain hlt | rfl | hlt := Nat.lt_trichotomy found offset
    · exact absurd hmatches' (hfirst found hat' hlt)
    · rfl
    · exact absurd hmatches (hfirst' offset hat hlt)

theorem findCtaDataBlock_eq_none_iff :
    findCtaDataBlock extension extendedTag minLength = none ↔
      byteOf extension 0 ≠ 0x02 ∨
        ∀ offset, BlockAt extension (ctaDataEnd extension) 4 offset →
          HeaderFits extension (ctaDataEnd extension) offset →
            ¬BlockMatches extension extendedTag minLength offset := by
  have hspec := findCtaDataBlockFrom_spec extension extendedTag minLength
    (ctaDataEnd extension) 4
  rw [findCtaDataBlock_eq]
  split_ifs with hheader
  · exact ⟨fun _ ↦ .inl hheader, fun _ ↦ rfl⟩
  refine ⟨fun h ↦ .inr (hspec.2 h), fun h ↦ ?_⟩
  have hnone := h.resolve_left hheader
  cases hwalk : findCtaDataBlockFrom extension extendedTag minLength (ctaDataEnd extension) 4 with
  | none => rfl
  | some found =>
    obtain ⟨hat, hfits, hmatches, -⟩ := hspec.1 found hwalk
    exact absurd hmatches (hnone found hat hfits)

end

/-! ## Reads inside the block -/

/-- `extension[index]`, with no value outside of the block. -/
def readByte (extension : Block) (index : Nat) : Option UInt8 := extension[index]?

theorem readByte_eq (extension : Block) {index : Nat} (h : index < kEdidBlockSize) :
    readByte extension index = some (byteOf extension index) := by
  rw [readByte, byteOf, Vector.getElem?_eq_getElem h, Option.getD_some]

/-- The walk, which has no result once it reads outside of the block. -/
def findCtaDataBlockFromChecked (extension : Block) (extendedTag : UInt8)
    (minLength dataEnd : Nat) (offset : Nat) : Option (Option Nat) :=
  if offset < dataEnd then do
    let header ← readByte extension offset
    let tag := header >>> 5
    let length := (header &&& 0x1f).toNat
    if length = 0 ∨ dataEnd ≤ offset ∨ dataEnd - offset - 1 < length then some none
    else if tag = 0x07 ∧ minLength ≤ length then
      let extended ← readByte extension (offset + 1)
      if extended = extendedTag then some (some offset)
      else
        findCtaDataBlockFromChecked extension extendedTag minLength dataEnd (offset + length + 1)
    else findCtaDataBlockFromChecked extension extendedTag minLength dataEnd (offset + length + 1)
  else some none
termination_by dataEnd - offset

/-- The search in which a read outside the block has no value. -/
def findCtaDataBlockChecked (extension : Block) (extendedTag : UInt8) (minLength : Nat) :
    Option (Option Nat) := do
  let header ← readByte extension 0
  if header ≠ 0x02 then some none
  else
    let declaredEnd ← readByte extension 2
    let dataEnd := clamp declaredEnd.toNat 4 (kEdidBlockSize - 1)
    findCtaDataBlockFromChecked extension extendedTag minLength dataEnd 4

/-- A byte of a block that is read only if the block is long enough, and is zero otherwise. -/
def readOptionalByte (extension : Block) (offset length index : Nat) : Option UInt8 :=
  if index ≤ length then readByte extension (offset + index) else some 0

/-- The same for the reader of the HDR block. -/
def readHdrStaticMetadataChecked (edid : Vector UInt8 kEdidSize) :
    Option (Option HdrStaticMetadata) := do
  let extension := extensionOf edid
  match ← findCtaDataBlockChecked extension 0x06 3 with
  | none => some none
  | some offset =>
    let header ← readByte extension offset
    let length := (header &&& 0x1f).toNat
    let supportedEotfs ← readByte extension (offset + 2)
    let supportedStaticMetadataTypes ← readByte extension (offset + 3)
    let maxLuminanceCode ← readOptionalByte extension offset length 4
    let maxFrameAverageLuminanceCode ← readOptionalByte extension offset length 5
    let minLuminanceCode ← readOptionalByte extension offset length 6
    some (some
      { supportedEotfs, supportedStaticMetadataTypes, maxLuminanceCode,
        maxFrameAverageLuminanceCode, minLuminanceCode })

/-- The same for the reader of the colorimetry block. -/
def readSupportedColorimetryChecked (edid : Vector UInt8 kEdidSize) :
    Option (Option SupportedColorimetry) := do
  let extension := extensionOf edid
  match ← findCtaDataBlockChecked extension 0x05 2 with
  | none => some none
  | some offset =>
    let colorimetry ← readByte extension (offset + 2)
    some (some
      { bt2020Rgb := colorimetry &&& 0x80 != 0
        bt2020Ycc := colorimetry &&& 0x40 != 0
        bt2020Cycc := colorimetry &&& 0x20 != 0 })

/-- The walk reads headers in front of the end, and the byte behind the header of a block that is
not empty and ends in front of it. -/
theorem findCtaDataBlockFromChecked_eq (extension : Block) (extendedTag : UInt8)
    (minLength : Nat) {dataEnd : Nat} (hend : dataEnd ≤ kEdidBlockSize) (start : Nat) :
    findCtaDataBlockFromChecked extension extendedTag minLength dataEnd start =
      some (findCtaDataBlockFrom extension extendedTag minLength dataEnd start) := by
  induction hmeasure : dataEnd - start using Nat.strong_induction_on generalizing start with
  | _ measure ih =>
    rw [findCtaDataBlockFromChecked, findCtaDataBlockFrom]
    by_cases hinside : start < dataEnd
    · rw [if_pos hinside, if_pos hinside, readByte_eq extension (by omega)]
      dsimp only [Option.bind_eq_bind, Option.bind_some]
      by_cases hbad : (byteOf extension start &&& 0x1f).toNat = 0 ∨ dataEnd ≤ start ∨
          dataEnd - start - 1 < (byteOf extension start &&& 0x1f).toNat
      · rw [if_pos hbad, if_pos hbad]
      · rw [if_neg hbad, if_neg hbad]
        have hrest := ih (dataEnd - (start + (byteOf extension start &&& 0x1f).toNat + 1))
          (by omega) _ rfl
        by_cases htag : byteOf extension start >>> 5 = 0x07 ∧
            minLength ≤ (byteOf extension start &&& 0x1f).toNat
        · rw [if_pos htag, readByte_eq extension (by omega), Option.bind_some]
          by_cases hextended : byteOf extension (start + 1) = extendedTag
          · rw [if_pos hextended, if_pos ⟨htag.1, htag.2, hextended⟩]
          · rw [if_neg hextended, if_neg fun h ↦ hextended h.2.2, hrest]
        · rw [if_neg htag, if_neg fun h ↦ htag ⟨h.1, h.2.1⟩, hrest]
    · rw [if_neg hinside, if_neg hinside]

theorem findCtaDataBlockChecked_eq (extension : Block) (extendedTag : UInt8) (minLength : Nat) :
    findCtaDataBlockChecked extension extendedTag minLength =
      some (findCtaDataBlock extension extendedTag minLength) := by
  rw [findCtaDataBlockChecked, findCtaDataBlock_eq, readByte_eq extension (by decide)]
  dsimp only [Option.bind_eq_bind, Option.bind_some]
  by_cases hheader : byteOf extension 0 ≠ 0x02
  · rw [if_pos hheader, if_pos hheader]
  · rw [if_neg hheader, if_neg hheader, readByte_eq extension (by decide), Option.bind_some]
    exact findCtaDataBlockFromChecked_eq extension extendedTag minLength
      (Nat.le_of_lt (ctaDataEnd_lt extension)) 4

/-- A block that was found has all its bytes in the extension. -/
theorem findCtaDataBlock_inside {extension : Block} {extendedTag : UInt8} {minLength offset : Nat}
    (h : findCtaDataBlock extension extendedTag minLength = some offset) :
    minLength ≤ (byteOf extension offset &&& 0x1f).toNat ∧
      offset + (byteOf extension offset &&& 0x1f).toNat < kEdidBlockSize := by
  obtain ⟨-, -, ⟨-, -, hinside⟩, ⟨-, hlength, -⟩, -⟩ := findCtaDataBlock_eq_some_iff.mp h
  exact ⟨hlength, hinside.trans (ctaDataEnd_lt extension)⟩

theorem readOptionalByte_eq (extension : Block) {offset length : Nat}
    (hinside : offset + length < kEdidBlockSize) (index : Nat) :
    readOptionalByte extension offset length index =
      some (if index ≤ length then byteOf extension (offset + index) else 0) := by
  rw [readOptionalByte]
  split_ifs with hlong
  · exact readByte_eq extension (by omega)
  · rfl

theorem readHdrStaticMetadataChecked_eq (edid : Vector UInt8 kEdidSize) :
    readHdrStaticMetadataChecked edid = some (readHdrStaticMetadata edid) := by
  rw [readHdrStaticMetadataChecked, readHdrStaticMetadata, findCtaDataBlockChecked_eq]
  dsimp only [Option.bind_eq_bind, Option.bind_some]
  cases hfind : findCtaDataBlock (extensionOf edid) 0x06 3 with
  | none => rfl
  | some offset =>
    obtain ⟨hlength, hinside⟩ := findCtaDataBlock_inside hfind
    dsimp only
    rw [readByte_eq _ (by omega), Option.bind_some, readByte_eq _ (by omega), Option.bind_some,
      readByte_eq _ (by omega), Option.bind_some, readOptionalByte_eq _ hinside, Option.bind_some,
      readOptionalByte_eq _ hinside, Option.bind_some, readOptionalByte_eq _ hinside,
      Option.bind_some]

theorem readSupportedColorimetryChecked_eq (edid : Vector UInt8 kEdidSize) :
    readSupportedColorimetryChecked edid = some (readSupportedColorimetry edid) := by
  rw [readSupportedColorimetryChecked, readSupportedColorimetry, findCtaDataBlockChecked_eq]
  dsimp only [Option.bind_eq_bind, Option.bind_some]
  cases hfind : findCtaDataBlock (extensionOf edid) 0x05 2 with
  | none => rfl
  | some offset =>
    obtain ⟨hlength, hinside⟩ := findCtaDataBlock_inside hfind
    dsimp only
    rw [readByte_eq _ (by omega), Option.bind_some]

/-- **The walk over the data blocks.**  Whatever the bytes of an EDID are, the walk and the two
decoders on top of it read nothing outside of the extension block; what is found is the first
block of the tag and the length on the chain of headers, and nothing is found only if there is
none. -/
theorem ctaDataBlocks_walk (edid : Vector UInt8 kEdidSize) :
    (∀ (extendedTag : UInt8) (minLength : Nat),
      findCtaDataBlockChecked (extensionOf edid) extendedTag minLength =
        some (findCtaDataBlock (extensionOf edid) extendedTag minLength)) ∧
      readHdrStaticMetadataChecked edid = some (readHdrStaticMetadata edid) ∧
      readSupportedColorimetryChecked edid = some (readSupportedColorimetry edid) ∧
      (∀ (extendedTag : UInt8) (minLength offset : Nat),
        findCtaDataBlock (extensionOf edid) extendedTag minLength = some offset ↔
          byteOf (extensionOf edid) 0 = 0x02 ∧
            BlockAt (extensionOf edid) (ctaDataEnd (extensionOf edid)) 4 offset ∧
            HeaderFits (extensionOf edid) (ctaDataEnd (extensionOf edid)) offset ∧
            BlockMatches (extensionOf edid) extendedTag minLength offset ∧
            ∀ earlier, BlockAt (extensionOf edid) (ctaDataEnd (extensionOf edid)) 4 earlier →
              earlier < offset →
                ¬BlockMatches (extensionOf edid) extendedTag minLength earlier) ∧
      ∀ (extendedTag : UInt8) (minLength : Nat),
        findCtaDataBlock (extensionOf edid) extendedTag minLength = none ↔
          byteOf (extensionOf edid) 0 ≠ 0x02 ∨
            ∀ offset, BlockAt (extensionOf edid) (ctaDataEnd (extensionOf edid)) 4 offset →
              HeaderFits (extensionOf edid) (ctaDataEnd (extensionOf edid)) offset →
                ¬BlockMatches (extensionOf edid) extendedTag minLength offset :=
  ⟨findCtaDataBlockChecked_eq (extensionOf edid), readHdrStaticMetadataChecked_eq edid,
    readSupportedColorimetryChecked_eq edid, fun _ _ _ ↦ findCtaDataBlock_eq_some_iff,
    fun _ _ ↦ findCtaDataBlock_eq_none_iff⟩

end VirtualDisplay
