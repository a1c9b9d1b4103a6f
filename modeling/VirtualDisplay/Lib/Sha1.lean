import VirtualDisplay.Lib.Bits

/-!
# The digest SHA-1

The algorithm of FIPS 180 on strings of bits: the message is padded to blocks of 512 bits
(`Sha1.pad`), a block is sixteen words, and the digest is what the blocks make of five fixed words,
one after the other (`Sha1.hash`).

A program has bytes rather than bits.  `Sha1.toBits` is the string of some bytes; what is here about
it are the words of such a string (`Sha1.word_toBits`) and the bytes of a number
(`Sha1.bits_add`).

## What is here

* `Sha1.bits`, `Sha1.ofBits` — a number as a string of bits of a given width, highest first, and
  back (`Sha1.ofBits_bits`).
* `Sha1.pad`, `Sha1.length_pad_mod` — the padding; the message is made of whole blocks then.
* `Sha1.f`, `Sha1.k`, `Sha1.schedule`, `Sha1.step`, `Sha1.compress`, `Sha1.hash` — the algorithm.
* `Sha1.pad_toBits`, `Sha1.word_toBits`, `Sha1.byte_toBits` — how all this looks to a program that
  works on bytes.

Nothing is said about the strength of the digest.
-/

set_option autoImplicit false

namespace Sha1

/-! ## Strings of bits -/

/-- A number in so many bits, the highest first. -/
def bits : Nat → Nat → List Bool
  | 0, _ => []
  | width + 1, value => value.testBit width :: bits width value

/-- The number that a string of bits stands for. -/
def ofBits : List Bool → Nat
  | [] => 0
  | bit :: string => bit.toNat * 2 ^ string.length + ofBits string

/-- Bytes as a string of bits. -/
def toBits (bytes : List UInt8) : List Bool := bytes.flatMap fun byte ↦ bits 8 byte.toNat

@[simp] theorem length_bits (width value : Nat) : (bits width value).length = width := by
  induction width with
  | zero => rfl
  | succ width ih => rw [bits, List.length_cons, ih]

theorem bits_add (m n value : Nat) :
    bits (m + n) value = bits m (value / 2 ^ n) ++ bits n value := by
  induction m with
  | zero => rw [Nat.zero_add, bits, List.nil_append]
  | succ m ih =>
    rw [Nat.succ_add, bits, bits, ih, Nat.testBit_div_two_pow, List.cons_append]

/-- Only the lowest bits of the number matter. -/
theorem bits_mod {m n : Nat} (h : m ≤ n) (value : Nat) : bits m (value % 2 ^ n) = bits m value := by
  induction m with
  | zero => rfl
  | succ m ih =>
    rw [bits, bits, ih (Nat.le_of_succ_le h), Nat.testBit_mod_two_pow,
      decide_eq_true (Nat.lt_of_succ_le h), Bool.true_and]

theorem ofBits_append (string string' : List Bool) :
    ofBits (string ++ string') = ofBits string * 2 ^ string'.length + ofBits string' := by
  induction string with
  | nil => simp [ofBits]
  | cons bit string ih =>
    rw [List.cons_append, ofBits, ofBits, ih, List.length_append, Nat.pow_add]
    ring

theorem ofBits_bits (width value : Nat) : ofBits (bits width value) = value % 2 ^ width := by
  induction width with
  | zero => simp [ofBits, bits, Nat.mod_one]
  | succ width ih =>
    rw [bits, ofBits, ih, length_bits, Nat.toNat_testBit, Nat.mod_pow_succ]
    ring

@[simp] theorem length_toBits (bytes : List UInt8) : (toBits bytes).length = 8 * bytes.length := by
  induction bytes with
  | nil => rfl
  | cons byte bytes ih =>
    rw [toBits, List.flatMap_cons, ← toBits, List.length_append, length_bits, ih, List.length_cons]
    omega

theorem toBits_append (bytes bytes' : List UInt8) :
    toBits (bytes ++ bytes') = toBits bytes ++ toBits bytes' :=
  List.flatMap_append

theorem ofBits_byte (byte : UInt8) : ofBits (bits 8 byte.toNat) = byte.toNat := by
  rw [ofBits_bits]
  exact Nat.mod_eq_of_lt byte.toNat_lt

theorem toBits_four (b₀ b₁ b₂ b₃ : UInt8) :
    toBits [b₀, b₁, b₂, b₃] =
      bits 8 b₀.toNat ++ bits 8 b₁.toNat ++ bits 8 b₂.toNat ++ bits 8 b₃.toNat := by
  simp [toBits]

/-- The word of four bytes, the highest first. -/
theorem ofBits_four (b₀ b₁ b₂ b₃ : UInt8) :
    ofBits (toBits [b₀, b₁, b₂, b₃]) = (Bits.word32 b₃ b₂ b₁ b₀).toNat := by
  rw [toBits_four, ofBits_append, ofBits_append, ofBits_append, ofBits_byte, ofBits_byte,
    ofBits_byte, ofBits_byte, length_bits, length_bits, length_bits, Bits.toNat_word32]
  ring

/-- The bytes of a word, the highest first. -/
theorem toBits_word (value : UInt32) :
    toBits (Bits.bytes32 value).reverse = bits 32 value.toNat := by
  obtain ⟨h₀, h₁, h₂, h₃⟩ := Bits.toNat_bytes32 value
  change toBits [_, _, _, _] = _
  rw [toBits_four, h₀, h₁, h₂, h₃, bits_mod le_rfl, bits_mod le_rfl, bits_mod le_rfl,
    bits_mod le_rfl, bits_add 8 24, bits_add 8 16, bits_add 8 8]
  simp only [List.append_assoc]

/-! ## The algorithm -/

/-- The message, a one, as few zeros as possible, and the length of the message. -/
def pad (message : List Bool) : List Bool :=
  message ++ true :: List.replicate ((959 - message.length % 512) % 512) false ++
    bits 64 message.length

/-- The `i`-th word of a string. -/
def word (string : List Bool) (i : Nat) : UInt32 :=
  UInt32.ofNat (ofBits ((string.drop (32 * i)).take 32))

/-- A word turned to the left. -/
def rotl (n value : UInt32) : UInt32 := (value <<< n) ||| (value >>> (32 - n))

/-- The functions of the four rounds. -/
def f (t : Nat) (x y z : UInt32) : UInt32 :=
  if t < 20 then (x &&& y) ^^^ (~~~x &&& z)
  else if t < 40 then x ^^^ y ^^^ z
  else if t < 60 then (x &&& y) ^^^ (x &&& z) ^^^ (y &&& z)
  else x ^^^ y ^^^ z

/-- The constants of the four rounds. -/
def k (t : Nat) : UInt32 :=
  if t < 20 then 0x5a827999
  else if t < 40 then 0x6ed9eba1
  else if t < 60 then 0x8f1bbcdc
  else 0xca62c1d6

/-- The message schedule `W` of a block. -/
def schedule (block : Nat → UInt32) (t : Nat) : UInt32 :=
  if t < 16 then block t
  else
    rotl 1 (schedule block (t - 3) ^^^ schedule block (t - 8) ^^^ schedule block (t - 14) ^^^
      schedule block (t - 16))

/-- The five words of the chaining value. -/
@[ext]
structure State where
  a : UInt32
  b : UInt32
  c : UInt32
  d : UInt32
  e : UInt32
  deriving DecidableEq, Repr

/-- One of the eighty steps. -/
def step (schedule : Nat → UInt32) (s : State) (t : Nat) : State where
  a := rotl 5 s.a + f t s.b s.c s.d + s.e + k t + schedule t
  b := s.a
  c := rotl 30 s.b
  d := s.c
  e := s.d

/-- The chaining value behind one more block. -/
def compress (block : Nat → UInt32) (h : State) : State :=
  let s := (List.range 80).foldl (step (schedule block)) h
  { a := s.a + h.a, b := s.b + h.b, c := s.c + h.c, d := s.d + h.d, e := s.e + h.e }

/-- The chaining value before the first block. -/
def initial : State where
  a := 0x67452301
  b := 0xefcdab89
  c := 0x98badcfe
  d := 0x10325476
  e := 0xc3d2e1f0

/-- The state behind all blocks of the padded message. -/
def hash (message : List Bool) : State :=
  (List.range ((pad message).length / 512)).foldl
    (fun h i ↦ compress (fun t ↦ word (pad message) (16 * i + t)) h) initial

/-- The 160 bits of the digest. -/
def digest (message : List Bool) : List Bool :=
  let h := hash message
  bits 32 h.a.toNat ++ bits 32 h.b.toNat ++ bits 32 h.c.toNat ++ bits 32 h.d.toNat ++
    bits 32 h.e.toNat

/-- The padded message is made of blocks. -/
theorem length_pad_mod (message : List Bool) : (pad message).length % 512 = 0 := by
  simp only [pad, List.length_append, List.length_cons, List.length_replicate, length_bits]
  omega

/-! ## Bytes -/

theorem toBits_zeros (zeros : Nat) :
    toBits (List.replicate zeros 0) = List.replicate (8 * zeros) false := by
  induction zeros with
  | zero => rfl
  | succ zeros ih =>
    rw [List.replicate_succ, toBits, List.flatMap_cons, ← toBits, ih, Nat.mul_succ, Nat.add_comm,
      List.replicate_add]
    rfl

/-- A message of bytes is padded to bytes. -/
theorem pad_toBits (bytes : List UInt8) {tail : List UInt8}
    (htail : toBits tail = bits 64 (8 * bytes.length)) :
    pad (toBits bytes) =
      toBits (bytes ++ [0x80] ++ List.replicate ((119 - bytes.length % 64) % 64) 0 ++ tail) := by
  have hone : toBits [0x80] = true :: List.replicate 7 false := by decide
  have hzeros : (959 - 8 * bytes.length % 512) % 512 =
      7 + 8 * ((119 - bytes.length % 64) % 64) := by omega
  rw [pad, length_toBits, hzeros, List.replicate_add, toBits_append, toBits_append, toBits_append,
    toBits_zeros, hone, htail]
  simp only [List.append_assoc, List.cons_append]

theorem drop_toBits (bytes : List UInt8) (n : Nat) :
    (toBits bytes).drop (8 * n) = toBits (bytes.drop n) := by
  induction n generalizing bytes with
  | zero => rfl
  | succ n ih =>
    cases bytes with
    | nil => rfl
    | cons byte bytes =>
      rw [List.drop_succ_cons, ← ih, toBits, List.flatMap_cons, ← toBits, Nat.mul_succ,
        Nat.add_comm, ← List.drop_drop, List.drop_left' (length_bits 8 byte.toNat)]

/-- A word of a string of bytes. -/
theorem word_toBits {bytes rest : List UInt8} {b₀ b₁ b₂ b₃ : UInt8} {i : Nat}
    (h : bytes.drop (4 * i) = b₀ :: b₁ :: b₂ :: b₃ :: rest) :
    word (toBits bytes) i = Bits.word32 b₃ b₂ b₁ b₀ := by
  have hdrop : (toBits bytes).drop (32 * i) = toBits [b₀, b₁, b₂, b₃] ++ toBits rest := by
    rw [← toBits_append, show 32 * i = 8 * (4 * i) by omega, drop_toBits, h]
    rfl
  have hlength : (toBits [b₀, b₁, b₂, b₃]).length = 32 := length_toBits _
  rw [word, hdrop, List.take_left' hlength, ofBits_four, UInt32.ofNat_toNat]

/-- The `i`-th byte of a string. -/
def byte (string : List Bool) (i : Nat) : Nat := ofBits ((string.drop (8 * i)).take 8)

theorem byte_toBits (bytes : List UInt8) (i : Nat) :
    byte (toBits bytes) i = (bytes.getD i 0).toNat := by
  rw [byte, drop_toBits]
  cases hdrop : bytes.drop i with
  | nil =>
    rw [List.getD_eq_default _ _ (List.drop_eq_nil_iff.mp hdrop)]
    rfl
  | cons ch rest =>
    have hget : bytes[i]? = some ch := by rw [← List.head?_drop, hdrop, List.head?_cons]
    rw [List.getD_eq_getElem?_getD, hget, toBits, List.flatMap_cons,
      List.take_left' (length_bits 8 _), ofBits_byte]
    rfl

end Sha1
