import VirtualDisplay.Protocol
import VirtualDisplay.Lib.ByteCodec
import VirtualDisplay.Lib.OrdMap

/-!
# The persistent state of the Windows driver

The driver keeps one profile for each display identity it has promised to retain, in a registry
value it reads back when it starts (`windows_driver_state.h`, `windows_driver_state.cpp`).  The
value is a version, a count and that many records of thirty-six bytes, all little-endian and
written and read field by field.

`parse_serialize` and `serialize_parse` say that reading and writing undo each other: the first on
every list of valid profiles that fits, the second on every byte string that is accepted.

## What is here

* `readU32`, `readU64`, `readGuid`, `readProfile` — the readers, each of which returns the value and
  the place behind it, or nothing where the bytes run out.
* `appendU32`, `appendU64`, `appendGuid`, `appendProfile` — the writers.
* `readProfile_reads` — reading a profile, as one lemma in both directions: it is read back if it is
  valid, and what is read is valid.
* `parse_blobHeader` — the header decides the length, so a blob with bytes behind its last profile
  is refused, and so is one that is cut.

The laws of the readers and writers of single numbers are those of `Lib/ByteCodec.lean`.
-/

set_option autoImplicit false

namespace VirtualDisplay

open ByteCodec

/-! ## Writing and reading fields -/

/-- Four bytes at the end of a blob, the lowest one first. -/
def appendU32 (blob : List UInt8) (value : UInt32) : List UInt8 :=
  blob ++ [(value &&& 0xff).toUInt8, ((value >>> 8) &&& 0xff).toUInt8,
    ((value >>> 16) &&& 0xff).toUInt8, ((value >>> 24) &&& 0xff).toUInt8]

/-- Eight bytes at the end of a blob, the lowest one first. -/
def appendU64 (blob : List UInt8) (value : UInt64) : List UInt8 :=
  appendU32 (appendU32 blob (value &&& 0xffffffff).toUInt32)
    ((value >>> 32) &&& 0xffffffff).toUInt32

/-- A GUID at the end of a blob: its numbers with their lowest bytes first, and its last eight bytes
as they stand. -/
def appendGuid (blob : List UInt8) (value : Guid) : List UInt8 :=
  appendU32 blob value.data1 ++
    [(value.data2 &&& 0xff).toUInt8, ((value.data2 >>> 8) &&& 0xff).toUInt8,
      (value.data3 &&& 0xff).toUInt8, ((value.data3 >>> 8) &&& 0xff).toUInt8] ++
    value.data4.toList

/-- There are so many bytes from an offset on.  The difference is taken rather than a sum, which
could overflow. -/
def hasBytes (blob : List UInt8) (offset count : Nat) : Bool :=
  offset ≤ blob.length && count ≤ blob.length - offset

/-- `blob[offset]`, which is only looked at where `hasBytes` has said that it is there. -/
def byteAt (blob : List UInt8) (offset : Nat) : UInt8 := blob.getD offset 0

/-- The number at an offset and the offset behind it, if the bytes are there. -/
def readU32 (blob : List UInt8) (offset : Nat) : Option (UInt32 × Nat) :=
  if !hasBytes blob offset 4 then none
  else
    some ((byteAt blob offset).toUInt32 ||| ((byteAt blob (offset + 1)).toUInt32 <<< 8) |||
      ((byteAt blob (offset + 2)).toUInt32 <<< 16) |||
      ((byteAt blob (offset + 3)).toUInt32 <<< 24), offset + 4)

/-- The same for eight bytes, as two words. -/
def readU64 (blob : List UInt8) (offset : Nat) : Option (UInt64 × Nat) := do
  let (low, offset) ← readU32 blob offset
  let (high, offset) ← readU32 blob offset
  some (low.toUInt64 ||| (high.toUInt64 <<< 32), offset)

/-- The same for a GUID.  The source checks the sixteen bytes at once, and the twelve behind the
first word once more. -/
def readGuid (blob : List UInt8) (offset : Nat) : Option (Guid × Nat) :=
  if !hasBytes blob offset 16 then none
  else do
    let (data1, offset) ← readU32 blob offset
    if !hasBytes blob offset 12 then none
    else
      let data2 := (byteAt blob offset).toUInt32 ||| ((byteAt blob (offset + 1)).toUInt32 <<< 8)
      let offset := offset + 2
      let data3 := (byteAt blob offset).toUInt32 ||| ((byteAt blob (offset + 1)).toUInt32 <<< 8)
      let offset := offset + 2
      some
        ({ data1
           data2 := data2.toUInt16
           data3 := data3.toUInt16
           data4 := Vector.ofFn fun i ↦ byteAt blob (offset + i.val) }, offset + 8)

/-! ## Profiles -/

/-- The connectors of the adapter: the permanent ones, and behind them the temporary ones. -/
def kWindowsDriverMaxPermanentDisplays : UInt32 := 4
def kWindowsDriverMaxTemporaryDisplays : UInt32 := 8

/-- The first word of a blob. -/
def kWindowsDriverPersistentStateSchemaVersion : UInt32 := 1

/-- The size of a profile in a blob, and of what comes before the profiles. -/
def kTemporaryDisplayProfileBytes : Nat := 36
def kTemporaryDisplayProfilesHeaderBytes : Nat := 8

/-- What is kept of a temporary display over a restart, so that it gets its connector and its
identity again. -/
structure TemporaryDisplayProfile where
  displayId : UInt64 := 0
  connectorIndex : UInt32 := 0
  containerId : Guid := {}
  edidProductCode : UInt32 := 0
  edidSerialNumber : UInt32 := 0
  deriving DecidableEq, Repr, Inhabited

/-- A display with a temporary connector. -/
def validTemporaryDisplayProfile (displayId : UInt64) (connectorIndex : UInt32) : Bool :=
  displayId != 0 && kWindowsDriverMaxPermanentDisplays ≤ connectorIndex &&
    connectorIndex < kWindowsDriverMaxPermanentDisplays + kWindowsDriverMaxTemporaryDisplays

/-- The profile is one that may be kept. -/
def TemporaryDisplayProfile.isValid (profile : TemporaryDisplayProfile) : Bool :=
  validTemporaryDisplayProfile profile.displayId profile.connectorIndex

/-- One pass of the loop of `parseTemporaryDisplayProfilesBlob`. -/
def readProfile (blob : List UInt8) (offset : Nat) : Option (TemporaryDisplayProfile × Nat) := do
  let (displayId, offset) ← readU64 blob offset
  let (connectorIndex, offset) ← readU32 blob offset
  let (containerId, offset) ← readGuid blob offset
  let (edidProductCode, offset) ← readU32 blob offset
  let (edidSerialNumber, offset) ← readU32 blob offset
  if !validTemporaryDisplayProfile displayId connectorIndex then none
  else
    some ({ displayId, connectorIndex, containerId, edidProductCode, edidSerialNumber }, offset)

/-- The profiles of a blob that has just as many bytes as its count asks for. -/
def parseTemporaryDisplayProfilesBlob (blob : List UInt8) :
    Option (List TemporaryDisplayProfile) := do
  let (schemaVersion, offset) ← readU32 blob 0
  let (profileCount, offset) ← readU32 blob offset
  if schemaVersion ≠ kWindowsDriverPersistentStateSchemaVersion ∨
      kWindowsDriverMaxTemporaryDisplays < profileCount ∨
      blob.length ≠ kTemporaryDisplayProfilesHeaderBytes +
        profileCount.toNat * kTemporaryDisplayProfileBytes then none
  else
    let (profiles, _) ← readMany readProfile profileCount.toNat blob offset
    some profiles

/-- One pass of the loop of `serializeTemporaryDisplayProfiles`. -/
def appendProfile (blob : List UInt8) (entry : TemporaryDisplayProfile) : List UInt8 :=
  appendU32 (appendU32 (appendGuid (appendU32 (appendU64 blob entry.displayId)
    entry.connectorIndex) entry.containerId) entry.edidProductCode) entry.edidSerialNumber

/-- The blob of some profiles. -/
def serializeTemporaryDisplayProfiles (profiles : List TemporaryDisplayProfile) : List UInt8 :=
  profiles.foldl appendProfile
    (appendU32 (appendU32 [] kWindowsDriverPersistentStateSchemaVersion)
      profiles.length.toUInt32)

/-! ## Fields -/

theorem hasBytes_iff {blob : List UInt8} {offset count : Nat} :
    hasBytes blob offset count = true ↔ offset + count ≤ blob.length := by
  rw [hasBytes, Bool.and_eq_true, decide_eq_true_iff, decide_eq_true_iff]
  omega

/-- The test at the start of a reader. -/
theorem not_hasBytes {blob : List UInt8} {offset count : Nat} :
    (!hasBytes blob offset count) = true ↔ ¬offset + count ≤ blob.length := by
  rw [Bool.not_eq_true', ← Bool.not_eq_true, hasBytes_iff]

theorem readU32_reads : Reads (fun _ ↦ True) appendU32 readU32 4 := by
  refine @Reads.of_bytes _ Bits.bytes32
    (fun bytes ↦ Bits.word32 (bytes.getD 0 0) (bytes.getD 1 0) (bytes.getD 2 0) (bytes.getD 3 0))
    4 _ _ (fun _ ↦ rfl) Bits.word32_bytes32 (fun bytes hbytes ↦ ?_) (fun _ _ ↦ rfl)
    fun blob offset ↦ ?_
  · match bytes, hbytes with
    | [b₀, b₁, b₂, b₃], _ => exact Bits.bytes32_word32 b₀ b₁ b₂ b₃
  · rw [readU32]
    by_cases hfits : offset + 4 ≤ blob.length
    · rw [if_pos hfits, if_neg (not_hasBytes.not.mpr (not_not.mpr hfits)),
        getD_take_drop _ _ (by decide), getD_take_drop _ _ (by decide),
        getD_take_drop _ _ (by decide), getD_take_drop _ _ (by decide)]
      rfl
    · rw [if_neg hfits, if_pos (not_hasBytes.mpr hfits)]

theorem readU64_eq : readU64 = fun blob offset ↦ (readPair readU32 readU32 blob offset).map
    fun r : (UInt32 × UInt32) × Nat ↦ (r.1.1.toUInt64 ||| (r.1.2.toUInt64 <<< 32), r.2) := by
  funext blob offset
  rw [readU64, readPair]
  rcases readU32 blob offset with _ | ⟨low, offset₁⟩
  · rfl
  · dsimp only [Option.bind_eq_bind, Option.bind_some]
    rcases readU32 blob offset₁ with _ | ⟨high, offset₂⟩ <;> rfl

theorem readU64_reads : Reads (fun _ ↦ True) appendU64 readU64 8 := by
  refine .congr ((readU32_reads.pair readU32_reads).map
    (fun p ↦ p.1.toUInt64 ||| (p.2.toUInt64 <<< 32))
    (fun value ↦ ((value &&& 0xffffffff).toUInt32, ((value >>> 32) &&& 0xffffffff).toUInt32))
    (fun p ↦ ?_) fun value ↦ ?_) (fun _ ↦ (and_self_iff).symm) rfl readU64_eq
  · have hlow := p.1.toNat_lt
    obtain ⟨h₀, h₁⟩ := Bits.toNat_halves64 (p.1.toUInt64 ||| (p.2.toUInt64 <<< 32))
    rw [Bits.toNat_word64] at h₀ h₁
    refine Prod.ext (UInt32.toNat_inj.mp (h₀.trans ?_)) (UInt32.toNat_inj.mp (h₁.trans ?_))
    · omega
    · omega
  · obtain ⟨h₀, h₁⟩ := Bits.toNat_halves64 value
    refine UInt64.toNat_inj.mp ?_
    dsimp only
    rw [Bits.toNat_word64, h₀, h₁]
    omega

/-- The sixteen bytes of a GUID. -/
def guidBytes (value : Guid) : List UInt8 :=
  Bits.bytes32 value.data1 ++
    [(value.data2 &&& 0xff).toUInt8, ((value.data2 >>> 8) &&& 0xff).toUInt8,
      (value.data3 &&& 0xff).toUInt8, ((value.data3 >>> 8) &&& 0xff).toUInt8] ++
    value.data4.toList

/-- The GUID of sixteen bytes. -/
def guidOfBytes (bytes : List UInt8) : Guid where
  data1 := Bits.word32 (bytes.getD 0 0) (bytes.getD 1 0) (bytes.getD 2 0) (bytes.getD 3 0)
  data2 := ((bytes.getD 4 0).toUInt32 ||| ((bytes.getD 5 0).toUInt32 <<< 8)).toUInt16
  data3 := ((bytes.getD 6 0).toUInt32 ||| ((bytes.getD 7 0).toUInt32 <<< 8)).toUInt16
  data4 := Vector.ofFn fun i ↦ bytes.getD (8 + i.val) 0

theorem word16_bytes16 (value : UInt16) :
    ((value &&& 0xff).toUInt8.toUInt32 |||
      (((value >>> 8) &&& 0xff).toUInt8.toUInt32 <<< 8)).toUInt16 = value := by
  obtain ⟨h₀, h₁⟩ := Bits.toNat_bytes16 value
  refine UInt16.toNat_inj.mp ?_
  rw [Bits.toNat_word16, h₀, h₁]
  omega

theorem bytes16_word16 (b₀ b₁ : UInt8) :
    ((b₀.toUInt32 ||| (b₁.toUInt32 <<< 8)).toUInt16 &&& 0xff).toUInt8 = b₀ ∧
      (((b₀.toUInt32 ||| (b₁.toUInt32 <<< 8)).toUInt16 >>> 8) &&& 0xff).toUInt8 = b₁ := by
  have hb₀ := b₀.toNat_lt
  have hb₁ := b₁.toNat_lt
  obtain ⟨h₀, h₁⟩ := Bits.toNat_bytes16 (b₀.toUInt32 ||| (b₁.toUInt32 <<< 8)).toUInt16
  rw [Bits.toNat_word16] at h₀ h₁
  exact ⟨UInt8.toNat_inj.mp (h₀.trans (by omega)), UInt8.toNat_inj.mp (h₁.trans (by omega))⟩

theorem guidOfBytes_guidBytes (value : Guid) : guidOfBytes (guidBytes value) = value := by
  obtain ⟨data1, data2, data3, data4⟩ := value
  have hdata4 : (Vector.ofFn fun i : Fin 8 ↦
      (guidBytes ⟨data1, data2, data3, data4⟩).getD (8 + i.val) 0) = data4 := by
    refine Vector.ext fun i hi ↦ ?_
    rw [Vector.getElem_ofFn, guidBytes, List.getD_eq_getElem?_getD,
      List.getElem?_append_right (Nat.le_add_right 8 i)]
    have hindex : 8 + i - 8 = i := Nat.add_sub_cancel_left 8 i
    have hfront : (Bits.bytes32 data1 ++
        [(data2 &&& 0xff).toUInt8, ((data2 >>> 8) &&& 0xff).toUInt8,
          (data3 &&& 0xff).toUInt8, ((data3 >>> 8) &&& 0xff).toUInt8]).length = 8 := rfl
    rw [hfront, hindex, List.getElem?_eq_getElem (by simpa using hi), Option.getD_some,
      Vector.getElem_toList]
  rw [guidOfBytes, hdata4]
  exact congr (congr (congr (congrArg Guid.mk (Bits.word32_bytes32 data1)) (word16_bytes16 data2))
    (word16_bytes16 data3)) rfl

theorem guidBytes_guidOfBytes (bytes : List UInt8) (hbytes : bytes.length = 16) :
    guidBytes (guidOfBytes bytes) = bytes := by
  match bytes, hbytes with
  | [b₀, b₁, b₂, b₃, b₄, b₅, b₆, b₇, b₈, b₉, b₁₀, b₁₁, b₁₂, b₁₃, b₁₄, b₁₅], _ =>
    have h₂ := bytes16_word16 b₄ b₅
    have h₃ := bytes16_word16 b₆ b₇
    have hfront : Bits.bytes32 (Bits.word32 b₀ b₁ b₂ b₃) = [b₀, b₁, b₂, b₃] :=
      Bits.bytes32_word32 b₀ b₁ b₂ b₃
    rw [guidBytes]
    simp only [guidOfBytes, List.getD_cons_zero, List.getD_cons_succ, hfront, h₂.1, h₂.2, h₃.1,
      h₃.2, Vector.toList_ofFn]
    rfl

theorem readGuid_reads : Reads (fun _ ↦ True) appendGuid readGuid 16 := by
  refine @Reads.of_bytes _ guidBytes guidOfBytes 16 _ _ (fun value ↦ ?_) guidOfBytes_guidBytes
    guidBytes_guidOfBytes (fun blob value ↦ ?_) fun blob offset ↦ ?_
  · rw [guidBytes, List.length_append, Vector.length_toList]
    rfl
  · rw [appendGuid, appendU32, guidBytes, Bits.bytes32]
    simp only [List.append_assoc]
  · rw [readGuid]
    by_cases hfits : offset + 16 ≤ blob.length
    · have hfits₄ : offset + 4 ≤ blob.length := by omega
      have hfits₁₂ : offset + 4 + 12 ≤ blob.length := by omega
      rw [if_pos hfits, if_neg (not_hasBytes.not.mpr (not_not.mpr hfits)), readU32,
        if_neg (not_hasBytes.not.mpr (not_not.mpr hfits₄))]
      dsimp only [Option.bind_eq_bind, Option.bind_some]
      rw [if_neg (not_hasBytes.not.mpr (not_not.mpr hfits₁₂))]
      have hbyte : ∀ i < 16, ((blob.drop offset).take 16).getD i 0 = byteAt blob (offset + i) :=
        fun i hi ↦ getD_take_drop blob offset hi
      have hdata4 : (Vector.ofFn fun i : Fin 8 ↦ ((blob.drop offset).take 16).getD (8 + i.val) 0) =
          Vector.ofFn fun i : Fin 8 ↦ byteAt blob (offset + 4 + 2 + 2 + i.val) := by
        refine congrArg Vector.ofFn (funext fun i ↦ ?_)
        rw [hbyte (8 + i.val) (by omega), Nat.add_assoc offset, Nat.add_assoc offset,
          Nat.add_assoc offset]
      rw [guidOfBytes, hdata4, hbyte 0 (by decide), hbyte 1 (by decide), hbyte 2 (by decide),
        hbyte 3 (by decide), hbyte 4 (by decide), hbyte 5 (by decide), hbyte 6 (by decide),
        hbyte 7 (by decide)]
      rfl
    · rw [if_neg hfits, if_pos (not_hasBytes.mpr hfits)]

/-! ## Profiles and blobs -/

/-- The fields of a profile, read one behind the other. -/
def readProfileFields : Reader (UInt64 × UInt32 × Guid × UInt32 × UInt32) :=
  readPair readU64 (readPair readU32 (readPair readGuid (readPair readU32 readU32)))

theorem readProfile_eq : readProfile = fun blob offset ↦
    ((readProfileFields blob offset).map fun r : (UInt64 × UInt32 × Guid × UInt32 × UInt32) × Nat ↦
      (TemporaryDisplayProfile.mk r.1.1 r.1.2.1 r.1.2.2.1 r.1.2.2.2.1 r.1.2.2.2.2, r.2)).filter
        fun r ↦ r.1.isValid := by
  funext blob offset
  rw [readProfile, readProfileFields]
  simp only [readPair]
  rcases readU64 blob offset with _ | ⟨displayId, offset₁⟩
  · rfl
  dsimp only [Option.bind_eq_bind, Option.bind_some]
  rcases readU32 blob offset₁ with _ | ⟨connectorIndex, offset₂⟩
  · rfl
  dsimp only [Option.bind_eq_bind, Option.bind_some]
  rcases readGuid blob offset₂ with _ | ⟨containerId, offset₃⟩
  · rfl
  dsimp only [Option.bind_eq_bind, Option.bind_some]
  rcases readU32 blob offset₃ with _ | ⟨edidProductCode, offset₄⟩
  · rfl
  dsimp only [Option.bind_eq_bind, Option.bind_some]
  rcases readU32 blob offset₄ with _ | ⟨edidSerialNumber, offset₅⟩
  · rfl
  dsimp only [Option.bind_eq_bind, Option.bind_some, Option.map_some, Option.filter_some]
  rw [TemporaryDisplayProfile.isValid]
  cases validTemporaryDisplayProfile displayId connectorIndex <;> rfl

/-- A profile is read back if it is valid, and what is read is. -/
theorem readProfile_reads :
    Reads (fun profile ↦ profile.isValid = true) appendProfile readProfile
      kTemporaryDisplayProfileBytes := by
  refine .congr (((readU64_reads.pair (readU32_reads.pair (readGuid_reads.pair
    (readU32_reads.pair readU32_reads)))).map
      (fun r ↦ TemporaryDisplayProfile.mk r.1 r.2.1 r.2.2.1 r.2.2.2.1 r.2.2.2.2)
      (fun p ↦ (p.displayId, p.connectorIndex, p.containerId, p.edidProductCode,
        p.edidSerialNumber)) (fun _ ↦ rfl) fun _ ↦ rfl).guard TemporaryDisplayProfile.isValid)
    (fun profile ↦ ?_) rfl readProfile_eq
  simp

/-- The version and the count in front of the profiles. -/
def blobHeader (profileCount : UInt32) : List UInt8 :=
  appendU32 (appendU32 [] kWindowsDriverPersistentStateSchemaVersion) profileCount

theorem length_blobHeader (profileCount : UInt32) : (blobHeader profileCount).length = 8 := rfl

/-- What the parser sees of a blob that begins with a header. -/
theorem parse_blobHeader {profileCount : UInt32} (hcount : profileCount ≤ 8) (body : List UInt8)
    (hlength : body.length = profileCount.toNat * kTemporaryDisplayProfileBytes) :
    parseTemporaryDisplayProfilesBlob (blobHeader profileCount ++ body) =
      (readMany readProfile profileCount.toNat (blobHeader profileCount ++ body) 8).map
        Prod.fst := by
  have hversion : readU32 (blobHeader profileCount ++ body) 0 =
      some (kWindowsDriverPersistentStateSchemaVersion, 4) := by
    rw [blobHeader, readU32_reads.append_eq, List.append_assoc]
    exact readU32_reads.read_append [] kWindowsDriverPersistentStateSchemaVersion _ trivial
  have hprofileCount : readU32 (blobHeader profileCount ++ body) 4 = some (profileCount, 8) :=
    readU32_reads.read_append (appendU32 [] kWindowsDriverPersistentStateSchemaVersion)
      profileCount body trivial
  have hsize : (blobHeader profileCount ++ body).length = kTemporaryDisplayProfilesHeaderBytes +
      profileCount.toNat * kTemporaryDisplayProfileBytes := by
    rw [List.length_append, length_blobHeader, hlength]
    rfl
  rw [parseTemporaryDisplayProfilesBlob, hversion]
  dsimp only [Option.bind_eq_bind, Option.bind_some]
  rw [hprofileCount]
  dsimp only [Option.bind_some]
  rw [if_neg]
  · rcases readMany readProfile profileCount.toNat (blobHeader profileCount ++ body) 8 with
      _ | ⟨profiles, offset⟩ <;> rfl
  · rintro (hne | hlt | hne)
    · exact hne rfl
    · exact UInt32.not_lt.mpr hcount hlt
    · exact hne hsize

theorem parse_serialize {profiles : List TemporaryDisplayProfile} (hlength : profiles.length ≤ 8)
    (hvalid : ∀ profile ∈ profiles, profile.isValid = true) :
    parseTemporaryDisplayProfilesBlob (serializeTemporaryDisplayProfiles profiles) =
      some profiles := by
  have hcount : profiles.length.toUInt32.toNat = profiles.length := by
    rw [UInt32.toNat_ofNat']
    exact Nat.mod_eq_of_lt (by omega)
  have hbody : serializeTemporaryDisplayProfiles profiles =
      blobHeader profiles.length.toUInt32 ++ profiles.foldl appendProfile [] :=
    readProfile_reads.foldl_append_eq profiles _
  have hle : profiles.length.toUInt32 ≤ 8 := by
    rw [UInt32.le_iff_toNat_le, hcount]
    exact hlength
  have hread := readProfile_reads.readMany_foldl profiles (blobHeader profiles.length.toUInt32) []
    hvalid
  rw [List.append_nil, readProfile_reads.foldl_append_eq, length_blobHeader] at hread
  rw [hbody, parse_blobHeader hle, hcount, hread, Option.map_some]
  rw [readProfile_reads.length_foldl_append, hcount, List.length_nil, Nat.zero_add]

theorem serialize_parse {blob : List UInt8} {profiles : List TemporaryDisplayProfile}
    (h : parseTemporaryDisplayProfilesBlob blob = some profiles) :
    serializeTemporaryDisplayProfiles profiles = blob := by
  rw [parseTemporaryDisplayProfilesBlob] at h
  simp only [Option.bind_eq_bind, Option.bind_eq_some_iff, Prod.exists] at h
  obtain ⟨schemaVersion, offset, hversion, profileCount, offset', hcount, h⟩ := h
  split_ifs at h with hrefused
  obtain ⟨⟨parsed, offset''⟩, hparsed, heq⟩ := Option.bind_eq_some_iff.mp h
  obtain rfl : parsed = profiles := Option.some.inj heq
  rw [not_or, not_or, not_not, not_not] at hrefused
  obtain ⟨-, rfl, hle, hwrite⟩ := readU32_reads.append_read blob 0 schemaVersion offset hversion
  obtain ⟨-, rfl, hle', hwrite'⟩ := readU32_reads.append_read blob _ profileCount offset' hcount
  obtain ⟨hlength, -, rfl, -, hbody⟩ := readProfile_reads.foldl_readMany hparsed hle'
  have hprofileCount : parsed.length.toUInt32 = profileCount := by
    rw [hlength]
    exact UInt32.ofNat_toNat
  rw [serializeTemporaryDisplayProfiles, hprofileCount, ← hrefused.1]
  rw [List.take_zero] at hwrite
  rw [hwrite, hwrite', hbody]
  exact List.take_of_length_le (le_of_eq hrefused.2.2)

/-- **The blob codec is exact.**  A list of at most eight valid profiles is read back as it was
written, and every blob that is accepted is what would be written for the list read from it. -/
theorem profileBlob_roundTrip :
    (∀ profiles : List TemporaryDisplayProfile,
      profiles.length ≤ kWindowsDriverMaxTemporaryDisplays.toNat →
      (∀ profile ∈ profiles,
        validTemporaryDisplayProfile profile.displayId profile.connectorIndex = true) →
      parseTemporaryDisplayProfilesBlob (serializeTemporaryDisplayProfiles profiles) =
        some profiles) ∧
    ∀ (blob : List UInt8) (profiles : List TemporaryDisplayProfile),
      parseTemporaryDisplayProfilesBlob blob = some profiles →
        serializeTemporaryDisplayProfiles profiles = blob :=
  ⟨fun _ hlength hvalid ↦ parse_serialize hlength hvalid, fun _ _ h ↦ serialize_parse h⟩

end VirtualDisplay
