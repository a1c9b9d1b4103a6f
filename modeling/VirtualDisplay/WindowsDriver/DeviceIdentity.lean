import VirtualDisplay.Broker.Commands
import VirtualDisplay.Lib.Sha1

/-!
# The identity of the broker service

The control device of the driver is open to the system and to the broker service only.  The service
is named by a SID, which the system derives from the name of the service with SHA-1; the driver
package derives it again (`device_identity.cpp`), with a digest written out by hand.

`sha1_toBits` says that this digest is SHA-1, and `deriveServiceSid_eq` what the SID is then.

## What is here

* `sha1` — the digest with its four loops as the source has them: over the padding, over the chunks,
  over the schedule of a chunk and over the eighty rounds.
* `pushZeros_eq`, `extendWords_eq`, `chunkWord_eq`, `roundConstants_eq` — each loop against the
  corresponding part of `Lib/Sha1.lean`.  The functions of a round are written with disjunctions in
  the source, where the standard has exclusive ones; on their arguments these agree.
* `serviceNameBytes` — the name in upper case as UTF-16.  Only letters of ASCII are changed, and a
  name with other letters has another digest than in lower case (`deriveServiceSid_nonAscii`).
* `serviceSidOf` — the SID as the system writes it, and the theorem that relates the two.
-/

set_option autoImplicit false

namespace VirtualDisplay

/-! ## The digest -/

/-- A word turned to the left. -/
def rotl (value bits : UInt32) : UInt32 := (value <<< bits) ||| (value >>> (32 - bits))

/-- The loop of `push_back(0x00u)`, which ends within 64 rounds. -/
def pushZeros : Nat → List UInt8 → List UInt8
  | 0, padded => padded
  | rounds + 1, padded =>
    if padded.length % 64 ≠ 56 then pushZeros rounds (padded ++ [0]) else padded

/-- The length of the message in bits, the highest byte first. -/
def lengthBytes (bitLength : UInt64) : List UInt8 :=
  [56, 48, 40, 32, 24, 16, 8, 0].map fun shift ↦
    ((bitLength >>> UInt64.ofNat shift) &&& 0xff).toUInt8

/-- The message with a one behind it, zeros up to a multiple of 64 bytes, and its length. -/
def paddedMessage (message : List UInt8) : List UInt8 :=
  pushZeros 64 (message ++ [0x80]) ++ lengthBytes (UInt64.ofNat message.length * 8)

/-- Four bytes as a word, the highest one first. -/
def chunkWord (padded : List UInt8) (offset : Nat) : UInt32 :=
  ((padded.getD offset 0).toUInt32 <<< 24) ||| ((padded.getD (offset + 1) 0).toUInt32 <<< 16) |||
    ((padded.getD (offset + 2) 0).toUInt32 <<< 8) ||| (padded.getD (offset + 3) 0).toUInt32

/-- One round of the loop that fills the array behind its first words. -/
def extendWords (w : List UInt32) (i : Nat) : List UInt32 :=
  w ++ [rotl (w.getD (i - 3) 0 ^^^ w.getD (i - 8) 0 ^^^ w.getD (i - 14) 0 ^^^ w.getD (i - 16) 0) 1]

/-- The eighty words of a chunk: its own sixteen, and those that follow from them. -/
def chunkWords (padded : List UInt8) (chunk : Nat) : List UInt32 :=
  (List.range' 16 64).foldl extendWords
    ((List.range 16).map fun i ↦ chunkWord padded (chunk + i * 4))

/-- The variables `f` and `k` of a round. -/
def roundConstants (i : Nat) (b c d : UInt32) : UInt32 × UInt32 :=
  if i < 20 then ((b &&& c) ||| (~~~b &&& d), 0x5a827999)
  else if i < 40 then (b ^^^ c ^^^ d, 0x6ed9eba1)
  else if i < 60 then ((b &&& c) ||| (b &&& d) ||| (c &&& d), 0x8f1bbcdc)
  else (b ^^^ c ^^^ d, 0xca62c1d6)

/-- One of the eighty rounds. -/
def sha1Round (w : List UInt32) (s : Sha1.State) (i : Nat) : Sha1.State :=
  let (f, k) := roundConstants i s.b s.c s.d
  let temp := rotl s.a 5 + f + s.e + k + w.getD i 0
  { a := temp, b := s.a, c := rotl s.b 30, d := s.c, e := s.d }

/-- The state behind one more chunk. -/
def sha1Chunk (padded : List UInt8) (h : Sha1.State) (chunk : Nat) : Sha1.State :=
  let s := (List.range 80).foldl (sha1Round (chunkWords padded chunk)) h
  { a := h.a + s.a, b := h.b + s.b, c := h.c + s.c, d := h.d + s.d, e := h.e + s.e }

/-- A word as bytes, the highest one first. -/
def digestBytes (state : UInt32) : List UInt8 :=
  [((state >>> 24) &&& 0xff).toUInt8, ((state >>> 16) &&& 0xff).toUInt8,
    ((state >>> 8) &&& 0xff).toUInt8, (state &&& 0xff).toUInt8]

/-- The digest, as the driver computes it for itself. -/
def sha1 (message : List UInt8) : List UInt8 :=
  let padded := paddedMessage message
  let h := (List.range ((padded.length + 63) / 64)).foldl
    (fun h i ↦ sha1Chunk padded h (i * 64)) Sha1.initial
  [h.a, h.b, h.c, h.d, h.e].flatMap digestBytes

/-! ## The SID -/

/-- The letters from `a` to `z`. -/
def upperByte (ch : UInt8) : UInt8 := if 0x61 ≤ ch ∧ ch ≤ 0x7a then ch - (0x61 - 0x41) else ch

/-- The name in upper case, as UTF-16 with the lower byte first. -/
def serviceNameBytes (serviceName : CommandText) : List UInt8 :=
  serviceName.flatMap fun ch ↦ [upperByte ch, 0]

/-- Each 32-bit authority is read with its lowest byte first. -/
def digestWord (digest : List UInt8) (word : Nat) : UInt32 :=
  (digest.getD (word * 4) 0).toUInt32 ||| ((digest.getD (word * 4 + 1) 0).toUInt32 <<< 8) |||
    ((digest.getD (word * 4 + 2) 0).toUInt32 <<< 16) |||
    ((digest.getD (word * 4 + 3) 0).toUInt32 <<< 24)

/-- The SID whose last five numbers are the words of a digest. -/
def sidText (digest : List UInt8) : CommandText :=
  bytesOf "S-1-5-80" ++ (List.range 5).flatMap fun word ↦ 0x2d :: u32Text (digestWord digest word)

/-- The SID that Windows gives a service of this name. -/
def deriveServiceSid (serviceName : CommandText) : CommandText :=
  sidText (sha1 (serviceNameBytes serviceName))

/-- The service that may talk to the driver. -/
def kBrokerServiceName : CommandText := bytesOf "SunshineVirtualDisplayBroker"

/-! ## Padding -/

/-- The loop ends when the length leaves room for the length of the message. -/
theorem pushZeros_eq (rounds : Nat) (padded : List UInt8)
    (h : (120 - padded.length % 64) % 64 ≤ rounds) :
    pushZeros rounds padded =
      padded ++ List.replicate ((120 - padded.length % 64) % 64) 0 := by
  induction rounds generalizing padded with
  | zero =>
    rw [Nat.le_zero.mp h]
    simp [pushZeros]
  | succ rounds ih =>
    rw [pushZeros]
    split_ifs with hmore
    · have hstep : (120 - padded.length % 64) % 64 =
          (120 - (padded ++ [0]).length % 64) % 64 + 1 := by
        rw [List.length_append, List.length_singleton]
        omega
      rw [ih (padded ++ [0]) (by omega), hstep, Nat.add_comm _ 1, List.replicate_add,
        List.append_assoc]
      rfl
    · have hzero : (120 - padded.length % 64) % 64 = 0 := by omega
      rw [hzero]
      simp

theorem toNat_lengthByte {value : UInt64} {shift : Nat} (hshift : shift < 64) :
    ((value >>> UInt64.ofNat shift) &&& 0xff).toUInt8.toNat = value.toNat / 2 ^ shift % 2 ^ 8 := by
  have hff : (0xff : UInt64).toNat = 2 ^ 8 - 1 := rfl
  rw [UInt64.toNat_toUInt8, UInt64.toNat_and, hff, Nat.and_two_pow_sub_one_eq_mod, Nat.mod_mod,
    Bits.toNat_shiftRight value hshift]

theorem toBits_lengthBytes (bitLength : UInt64) :
    Sha1.toBits (lengthBytes bitLength) = Sha1.bits 64 bitLength.toNat := by
  have hbytes : Sha1.toBits (lengthBytes bitLength) =
      [56, 48, 40, 32, 24, 16, 8, 0].flatMap fun shift ↦
        Sha1.bits 8 (bitLength.toNat / 2 ^ shift) := by
    rw [Sha1.toBits, lengthBytes, List.flatMap_map]
    refine List.flatMap_congr fun shift hshift ↦ ?_
    have hlt : shift < 64 := by
      revert shift
      decide
    rw [toNat_lengthByte hlt, Sha1.bits_mod le_rfl]
  rw [hbytes, Sha1.bits_add 8 56, Sha1.bits_add 8 48, Sha1.bits_add 8 40, Sha1.bits_add 8 32,
    Sha1.bits_add 8 24, Sha1.bits_add 8 16, Sha1.bits_add 8 8]
  simp

/-- The bytes that the message is padded with. -/
theorem toBits_paddedMessage (message : List UInt8) :
    Sha1.toBits (paddedMessage message) = Sha1.pad (Sha1.toBits message) := by
  have htail : Sha1.toBits (lengthBytes (UInt64.ofNat message.length * 8)) =
      Sha1.bits 64 (8 * message.length) := by
    have hlength : (UInt64.ofNat message.length * 8).toNat = 8 * message.length % 2 ^ 64 := by
      rw [UInt64.toNat_mul, UInt64.toNat_ofNat', Nat.mod_mul_mod, Nat.mul_comm]
      rfl
    rw [toBits_lengthBytes, hlength, Sha1.bits_mod le_rfl]
  have hzeros : (120 - (message ++ [0x80]).length % 64) % 64 =
      (119 - message.length % 64) % 64 := by
    rw [List.length_append, List.length_singleton]
    omega
  rw [Sha1.pad_toBits message htail, paddedMessage, pushZeros_eq _ _ (by omega), hzeros]

/-! ## Words -/

theorem drop_four {bytes : List UInt8} {n : Nat} (h : n + 4 ≤ bytes.length) :
    bytes.drop n = bytes.getD n 0 :: bytes.getD (n + 1) 0 :: bytes.getD (n + 2) 0 ::
      bytes.getD (n + 3) 0 :: bytes.drop (n + 4) := by
  have hcons (m : Nat) (hm : m < bytes.length) :
      bytes.drop m = bytes.getD m 0 :: bytes.drop (m + 1) := by
    rw [List.drop_eq_getElem_cons hm, List.getD_eq_getElem _ _ hm]
  rw [hcons n (by omega), hcons (n + 1) (by omega), hcons (n + 2) (by omega),
    hcons (n + 3) (by omega)]

theorem chunkWord_eq {padded : List UInt8} {j : Nat} (h : 4 * j + 4 ≤ padded.length) :
    chunkWord padded (4 * j) = Sha1.word (Sha1.toBits padded) j := by
  have hreverse (a b c d : UInt32) : a ||| b ||| c ||| d = d ||| c ||| b ||| a := by
    rw [UInt32.or_comm _ d, UInt32.or_comm _ c, UInt32.or_comm a b]
    simp only [UInt32.or_assoc]
  rw [Sha1.word_toBits (drop_four h), chunkWord, Bits.word32, hreverse]

/-- The array of a chunk has the words of the schedule. -/
theorem extendWords_eq (block : Nat → UInt32) (n : Nat) :
    (List.range' 16 n).foldl extendWords ((List.range 16).map block) =
      (List.range (16 + n)).map (Sha1.schedule block) := by
  induction n with
  | zero =>
    refine List.map_congr_left fun t ht ↦ ?_
    rw [Sha1.schedule, if_pos (List.mem_range.mp ht)]
  | succ n ih =>
    have hword (t : Nat) (ht : t < 16 + n) :
        ((List.range (16 + n)).map (Sha1.schedule block)).getD t 0 = Sha1.schedule block t := by
      rw [List.getD_eq_getElem _ _ (by simpa using ht), List.getElem_map, List.getElem_range]
    rw [List.range'_concat, List.foldl_append, ih, Nat.one_mul, List.foldl_cons, List.foldl_nil,
      extendWords, hword _ (by omega), hword _ (by omega), hword _ (by omega), hword _ (by omega),
      ← Nat.add_assoc, List.range_succ, List.map_append, List.map_singleton,
      Sha1.schedule.eq_1 block (16 + n), if_neg (by omega)]
    rfl

theorem chunkWords_eq {padded : List UInt8} {i : Nat} (h : 64 * i + 64 ≤ padded.length) :
    chunkWords padded (i * 64) =
      (List.range 80).map
        (Sha1.schedule fun t ↦ Sha1.word (Sha1.toBits padded) (16 * i + t)) := by
  rw [chunkWords, ← extendWords_eq _ 64]
  congr 1
  refine List.map_congr_left fun t ht ↦ ?_
  have hlt := List.mem_range.mp ht
  rw [show i * 64 + t * 4 = 4 * (16 * i + t) by omega, chunkWord_eq (by omega)]

/-! ## Rounds -/

theorem choice_eq (b c d : UInt32) : (b &&& c) ||| (~~~b &&& d) = (b &&& c) ^^^ (~~~b &&& d) := by
  refine UInt32.toBitVec_inj.mp (BitVec.eq_of_getLsbD_eq fun i hi ↦ ?_)
  simp only [UInt32.toBitVec_or, UInt32.toBitVec_and, UInt32.toBitVec_not, UInt32.toBitVec_xor,
    BitVec.getLsbD_or, BitVec.getLsbD_and, BitVec.getLsbD_not, BitVec.getLsbD_xor, hi,
    decide_true, Bool.true_and]
  cases b.toBitVec.getLsbD i <;> cases c.toBitVec.getLsbD i <;> cases d.toBitVec.getLsbD i <;> rfl

theorem majority_eq (b c d : UInt32) :
    (b &&& c) ||| (b &&& d) ||| (c &&& d) = (b &&& c) ^^^ (b &&& d) ^^^ (c &&& d) := by
  refine UInt32.toBitVec_inj.mp (BitVec.eq_of_getLsbD_eq fun i hi ↦ ?_)
  simp only [UInt32.toBitVec_or, UInt32.toBitVec_and, UInt32.toBitVec_xor, BitVec.getLsbD_or,
    BitVec.getLsbD_and, BitVec.getLsbD_xor]
  cases b.toBitVec.getLsbD i <;> cases c.toBitVec.getLsbD i <;> cases d.toBitVec.getLsbD i <;> rfl

/-- The functions are written with disjunctions. -/
theorem roundConstants_eq (i : Nat) (b c d : UInt32) :
    roundConstants i b c d = (Sha1.f i b c d, Sha1.k i) := by
  rw [roundConstants, choice_eq, majority_eq, Sha1.f, Sha1.k]
  split_ifs <;> rfl

theorem sha1Chunk_eq {padded : List UInt8} {i : Nat} (h : 64 * i + 64 ≤ padded.length)
    (state : Sha1.State) :
    sha1Chunk padded state (i * 64) =
      Sha1.compress (fun t ↦ Sha1.word (Sha1.toBits padded) (16 * i + t)) state := by
  have hrounds : (List.range 80).foldl (sha1Round (chunkWords padded (i * 64))) state =
      (List.range 80).foldl (Sha1.step (Sha1.schedule
        fun t ↦ Sha1.word (Sha1.toBits padded) (16 * i + t))) state := by
    refine List.foldl_ext _ _ _ fun s t ht ↦ ?_
    have hlt := List.mem_range.mp ht
    rw [sha1Round, roundConstants_eq, chunkWords_eq h,
      List.getD_eq_getElem _ _ (by simpa using hlt), List.getElem_map, List.getElem_range]
    rfl
  rw [sha1Chunk, hrounds, Sha1.compress]
  simp only [UInt32.add_comm]

theorem toBits_digestBytes (state : UInt32) :
    Sha1.toBits (digestBytes state) = Sha1.bits 32 state.toNat :=
  Sha1.toBits_word state

/-- **The digest written out by hand is SHA-1**, for messages of every length. -/
theorem sha1_toBits (message : List UInt8) :
    Sha1.toBits (sha1 message) = Sha1.digest (Sha1.toBits message) := by
  have hpad := toBits_paddedMessage message
  have hlength : (Sha1.pad (Sha1.toBits message)).length = 8 * (paddedMessage message).length := by
    rw [← hpad, Sha1.length_toBits]
  have hblocks := Sha1.length_pad_mod (Sha1.toBits message)
  have hcount : ((paddedMessage message).length + 63) / 64 =
      (Sha1.pad (Sha1.toBits message)).length / 512 := by omega
  have hhash : (List.range (((paddedMessage message).length + 63) / 64)).foldl
      (fun h i ↦ sha1Chunk (paddedMessage message) h (i * 64)) Sha1.initial =
      Sha1.hash (Sha1.toBits message) := by
    rw [hcount, Sha1.hash]
    refine List.foldl_ext _ _ _ fun h i hi ↦ ?_
    have hlt := List.mem_range.mp hi
    rw [sha1Chunk_eq (by omega), hpad]
  rw [sha1, hhash, Sha1.digest]
  simp only [List.flatMap_cons, List.flatMap_nil, List.append_nil, Sha1.toBits_append,
    toBits_digestBytes, List.append_assoc]

/-! ## What the SID is -/

/-- The number of four bytes of a string, the lowest first. -/
def littleEndianWord (string : List Bool) (i : Nat) : Nat :=
  Sha1.byte string (4 * i) + Sha1.byte string (4 * i + 1) * 2 ^ 8 +
    Sha1.byte string (4 * i + 2) * 2 ^ 16 + Sha1.byte string (4 * i + 3) * 2 ^ 24

/-- The SID of a service whose name has these bytes. -/
def serviceSidOf (name : List UInt8) : CommandText :=
  bytesOf "S-1-5-80" ++ (List.range 5).flatMap fun i ↦
    0x2d :: decimalDigits (littleEndianWord (Sha1.digest (Sha1.toBits name)) i)

/-- A character as UTF-16. -/
def utf16Units (ch : Char) : List UInt16 :=
  if ch.toNat < 0x10000 then [UInt16.ofNat ch.toNat]
  else
    [UInt16.ofNat (0xd800 + (ch.toNat - 0x10000) / 0x400),
      UInt16.ofNat (0xdc00 + (ch.toNat - 0x10000) % 0x400)]

/-- The bytes of a code unit, the lower first. -/
def utf16Bytes (unit : UInt16) : List UInt8 := [unit.toUInt8, (unit >>> 8).toUInt8]

/-- A text as UTF-16, the lower byte first. -/
def utf16Le (text : List Char) : List UInt8 :=
  text.flatMap fun ch ↦ (utf16Units ch).flatMap utf16Bytes

theorem sidText_sha1 (message : List UInt8) : sidText (sha1 message) = serviceSidOf message := by
  rw [sidText, serviceSidOf, ← sha1_toBits]
  congr 1
  refine List.flatMap_congr fun i _ ↦ ?_
  have hword : (digestWord (sha1 message) i).toNat =
      littleEndianWord (Sha1.toBits (sha1 message)) i := by
    rw [littleEndianWord, Sha1.byte_toBits, Sha1.byte_toBits, Sha1.byte_toBits, Sha1.byte_toBits,
      ← Bits.toNat_word32, Nat.mul_comm 4 i]
    rfl
  rw [u32Text, hword]

/-- Every byte is a code unit, upper-cased if it is a letter of ASCII. -/
theorem serviceNameBytes_eq (serviceName : CommandText) :
    serviceNameBytes serviceName =
      utf16Le (serviceName.map fun ch ↦ (Char.ofUInt8 ch).toUpper) := by
  rw [serviceNameBytes, utf16Le, List.flatMap_map]
  refine List.flatMap_congr fun ch _ ↦ ?_
  refine Bits.forall_byte (P := fun ch ↦ [upperByte ch, 0] =
    (utf16Units (Char.ofUInt8 ch).toUpper).flatMap utf16Bytes) ?_ ch
  decide +kernel

/-- The bytes are the same letter of ASCII, up to its case, or the same byte. -/
def SameLetter (ch ch' : UInt8) : Prop :=
  ch = ch' ∨ (0x41 ≤ ch ∧ ch ≤ 0x5a ∧ ch' = ch + 0x20) ∨ 0x41 ≤ ch' ∧ ch' ≤ 0x5a ∧ ch = ch' + 0x20

theorem SameLetter.upperByte {ch ch' : UInt8} (h : SameLetter ch ch') :
    VirtualDisplay.upperByte ch = VirtualDisplay.upperByte ch' := by
  have hlower (letter : UInt8) : 0x41 ≤ letter ∧ letter ≤ 0x5a →
      VirtualDisplay.upperByte (letter + 0x20) = VirtualDisplay.upperByte letter := by
    refine Bits.forall_byte (P := fun letter ↦ 0x41 ≤ letter ∧ letter ≤ 0x5a →
      VirtualDisplay.upperByte (letter + 0x20) = VirtualDisplay.upperByte letter) ?_ letter
    decide +kernel
  obtain rfl | ⟨hlow, hhigh, rfl⟩ | ⟨hlow, hhigh, rfl⟩ := h
  · rfl
  · exact (hlower ch ⟨hlow, hhigh⟩).symm
  · exact hlower ch' ⟨hlow, hhigh⟩

/-- **Service SIDs.**  The SID has the words of the SHA-1 digest of the name in UTF-16LE with the
letters of ASCII in upper case, and so does not depend on their case. -/
theorem deriveServiceSid_eq :
    (∀ serviceName : CommandText, deriveServiceSid serviceName =
      serviceSidOf (utf16Le (serviceName.map fun ch ↦ (Char.ofUInt8 ch).toUpper))) ∧
    ∀ serviceName serviceName' : CommandText, List.Forall₂ SameLetter serviceName serviceName' →
      deriveServiceSid serviceName = deriveServiceSid serviceName' := by
  constructor
  · intro serviceName
    rw [deriveServiceSid, sidText_sha1, serviceNameBytes_eq]
  · intro serviceName serviceName' h
    have hbytes : serviceNameBytes serviceName = serviceNameBytes serviceName' := by
      induction h with
      | nil => rfl
      | cons hletter hrest ih =>
        rw [serviceNameBytes, serviceNameBytes, List.flatMap_cons, List.flatMap_cons,
          hletter.upperByte]
        exact congrArg _ ih
    rw [deriveServiceSid, deriveServiceSid, hbytes]

example : deriveServiceSid kBrokerServiceName =
    bytesOf "S-1-5-80-2333729190-1599198784-3320592948-2337414441-3098439965" := by
  decide +kernel

/-- A letter that is not of ASCII stays as it is, be it one byte or two. -/
theorem deriveServiceSid_nonAscii :
    deriveServiceSid [0xc3, 0xa9] ≠ serviceSidOf (utf16Le "É".toList) ∧
      deriveServiceSid [0xe9] ≠ serviceSidOf (utf16Le "É".toList) := by
  rw [← sidText_sha1]
  decide +kernel

end VirtualDisplay
