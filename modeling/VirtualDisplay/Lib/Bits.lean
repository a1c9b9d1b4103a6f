import Mathlib

/-!
# Bits and bytes of machine words

Programs that pack numbers into bytes, or fold the halves of a number together, mix bitwise and
arithmetic operations.  The lemmas here turn the first kind into the second, where `omega` is at
home: a mask is a remainder, a shift a quotient, and the lowest bit of a disjunction or an
exclusive disjunction a parity.

## What is here

* `Bits.or_mod_of_mod_eq_zero`, `Bits.xor_mod_two`, `Bits.or_shiftLeft_of_lt` — natural numbers.
* `Bits.bytes32`, `Bits.word32` — the four bytes of a word and back, each the other's inverse
  (`Bits.word32_bytes32`, `Bits.bytes32_word32`).
* `Bits.toNat_word16`, `Bits.toNat_word64` and the like — words put together from smaller ones.
* `Bits.toNat_packed12`, `Bits.toNat_word12_high`, `Bits.toNat_word12_low` — two numbers of twelve
  bits that share a byte.
-/

set_option autoImplicit false

namespace Bits

/-! ## Natural numbers -/

/-- Setting bits above the lowest does not change the parity. -/
theorem or_mod_of_mod_eq_zero {a n i : Nat} (ha : a % 2 ^ i = 0) :
    (n ||| a) % 2 ^ i = n % 2 ^ i := by
  rw [Nat.or_mod_two_pow, ha, Nat.or_zero]

theorem even_or_one {n : Nat} (hn : n % 2 = 0) : n ||| 1 = n + 1 := by
  have h := @Nat.two_pow_add_eq_or_of_lt 1 1 (by decide) (n / 2)
  rw [pow_one, Nat.mul_div_cancel' (Nat.dvd_of_mod_eq_zero hn)] at h
  exact h.symm

theorem xor_mod_two (x y : Nat) : (x ^^^ y) % 2 = (x % 2 + y % 2) % 2 := by
  rw [@Nat.xor_mod_two_pow x y 1]
  rcases Nat.mod_two_eq_zero_or_one x with hx | hx <;>
    rcases Nat.mod_two_eq_zero_or_one y with hy | hy <;> simp [hx, hy]

theorem eq_xor_of_xor_eq {x y z : Nat} (h : x ^^^ y = z) : x = y ^^^ z := by
  rw [← h, Nat.xor_comm x y, ← Nat.xor_assoc, Nat.xor_self, Nat.zero_xor]

theorem or_shiftLeft_of_lt {a b i : Nat} (ha : a < 2 ^ i) : a ||| b <<< i = a + b * 2 ^ i := by
  rw [Nat.or_comm, ← Nat.shiftLeft_add_eq_or_of_lt ha, Nat.shiftLeft_eq, Nat.add_comm]

/-- A property of bytes can be checked at each of them. -/
theorem forall_byte {P : UInt8 → Prop} (h : ∀ n : Fin 256, P (UInt8.ofNat n.val)) (ch : UInt8) :
    P ch := by
  have hch := h ⟨ch.toNat, ch.toNat_lt⟩
  rwa [UInt8.ofNat_toNat] at hch

/-! ## The bytes of a 32-bit word -/

/-- The bytes of a 32-bit word, the lowest first. -/
def bytes32 (value : UInt32) : List UInt8 :=
  [(value &&& 0xff).toUInt8, ((value >>> 8) &&& 0xff).toUInt8,
    ((value >>> 16) &&& 0xff).toUInt8, ((value >>> 24) &&& 0xff).toUInt8]

/-- The 32-bit word of four bytes, the lowest first. -/
def word32 (b₀ b₁ b₂ b₃ : UInt8) : UInt32 :=
  b₀.toUInt32 ||| (b₁.toUInt32 <<< 8) ||| (b₂.toUInt32 <<< 16) ||| (b₃.toUInt32 <<< 24)

theorem toNat_word32 (b₀ b₁ b₂ b₃ : UInt8) :
    (word32 b₀ b₁ b₂ b₃).toNat =
      b₀.toNat + b₁.toNat * 2 ^ 8 + b₂.toNat * 2 ^ 16 + b₃.toNat * 2 ^ 24 := by
  have h₀ := b₀.toNat_lt
  have h₁ := b₁.toNat_lt
  have h₂ := b₂.toNat_lt
  have h₃ := b₃.toNat_lt
  have hshift (b : UInt8) (hb : b.toNat < 2 ^ 8) {n : Nat} (hn : n ≤ 24) :
      b.toNat <<< n % 2 ^ 32 = b.toNat <<< n := by
    rw [Nat.shiftLeft_eq]
    refine Nat.mod_eq_of_lt ?_
    calc b.toNat * 2 ^ n < 2 ^ 8 * 2 ^ n := Nat.mul_lt_mul_of_pos_right hb (Nat.two_pow_pos n)
      _ ≤ 2 ^ 8 * 2 ^ 24 := Nat.mul_le_mul_left _ (Nat.pow_le_pow_right (by decide) hn)
      _ = 2 ^ 32 := by decide
  have hword : (word32 b₀ b₁ b₂ b₃).toNat =
      b₀.toNat ||| b₁.toNat <<< 8 % 2 ^ 32 ||| b₂.toNat <<< 16 % 2 ^ 32 |||
        b₃.toNat <<< 24 % 2 ^ 32 := by
    simp [word32, UInt32.toNat_or, UInt32.toNat_shiftLeft]
  rw [hword, hshift b₁ h₁ (by decide), hshift b₂ h₂ (by decide), hshift b₃ h₃ (by decide),
    @or_shiftLeft_of_lt b₀.toNat b₁.toNat 8 h₀,
    @or_shiftLeft_of_lt (b₀.toNat + b₁.toNat * 2 ^ 8) b₂.toNat 16 (by omega),
    or_shiftLeft_of_lt (by omega)]

theorem toNat_lowByte (value : UInt32) : (value &&& 0xff).toUInt8.toNat = value.toNat % 2 ^ 8 := by
  have hmask : value.toNat &&& 0xff = value.toNat % 2 ^ 8 :=
    Nat.and_two_pow_sub_one_eq_mod value.toNat 8
  have hff : (0xff : UInt32).toNat = 0xff := rfl
  rw [UInt32.toNat_toUInt8, UInt32.toNat_and, hff, hmask, Nat.mod_mod]

theorem toNat_shiftRight32 (value : UInt32) {n : Nat} (hn : n < 32) :
    (value >>> UInt32.ofNat n).toNat = value.toNat / 2 ^ n := by
  rw [UInt32.toNat_shiftRight, Nat.shiftRight_eq_div_pow, UInt32.toNat_ofNat',
    Nat.mod_mod_of_dvd _ (by decide : 32 ∣ 2 ^ 32), Nat.mod_eq_of_lt hn]

/-- The four bytes of a word as numbers. -/
theorem toNat_bytes32 (value : UInt32) :
    (value &&& 0xff).toUInt8.toNat = value.toNat % 2 ^ 8 ∧
      ((value >>> 8) &&& 0xff).toUInt8.toNat = value.toNat / 2 ^ 8 % 2 ^ 8 ∧
      ((value >>> 16) &&& 0xff).toUInt8.toNat = value.toNat / 2 ^ 16 % 2 ^ 8 ∧
      ((value >>> 24) &&& 0xff).toUInt8.toNat = value.toNat / 2 ^ 24 % 2 ^ 8 := by
  have h₁ : (value >>> 8).toNat = value.toNat / 2 ^ 8 :=
    toNat_shiftRight32 value (by decide : 8 < 32)
  have h₂ : (value >>> 16).toNat = value.toNat / 2 ^ 16 :=
    toNat_shiftRight32 value (by decide : 16 < 32)
  have h₃ : (value >>> 24).toNat = value.toNat / 2 ^ 24 :=
    toNat_shiftRight32 value (by decide : 24 < 32)
  rw [toNat_lowByte, toNat_lowByte, toNat_lowByte, toNat_lowByte, h₁, h₂, h₃]
  exact ⟨rfl, rfl, rfl, rfl⟩

theorem word32_bytes32 (value : UInt32) :
    word32 (value &&& 0xff).toUInt8 ((value >>> 8) &&& 0xff).toUInt8
      ((value >>> 16) &&& 0xff).toUInt8 ((value >>> 24) &&& 0xff).toUInt8 = value := by
  have hlt := value.toNat_lt
  obtain ⟨h₀, h₁, h₂, h₃⟩ := toNat_bytes32 value
  refine UInt32.toNat_inj.mp ?_
  rw [toNat_word32, h₀, h₁, h₂, h₃]
  omega

theorem bytes32_word32 (b₀ b₁ b₂ b₃ : UInt8) :
    bytes32 (word32 b₀ b₁ b₂ b₃) = [b₀, b₁, b₂, b₃] := by
  have h₀ := b₀.toNat_lt
  have h₁ := b₁.toNat_lt
  have h₂ := b₂.toNat_lt
  have h₃ := b₃.toNat_lt
  obtain ⟨e₀, e₁, e₂, e₃⟩ := toNat_bytes32 (word32 b₀ b₁ b₂ b₃)
  rw [toNat_word32] at e₀ e₁ e₂ e₃
  rw [bytes32]
  refine congr (congrArg _ ?_) (congr (congrArg _ ?_) (congr (congrArg _ ?_)
    (congr (congrArg _ ?_) rfl)))
  · exact UInt8.toNat_inj.mp (e₀.trans (by omega))
  · exact UInt8.toNat_inj.mp (e₁.trans (by omega))
  · exact UInt8.toNat_inj.mp (e₂.trans (by omega))
  · exact UInt8.toNat_inj.mp (e₃.trans (by omega))

/-! ## The bytes of a 16-bit word -/

theorem toNat_bytes16 (value : UInt16) :
    (value &&& 0xff).toUInt8.toNat = value.toNat % 2 ^ 8 ∧
      ((value >>> 8) &&& 0xff).toUInt8.toNat = value.toNat / 2 ^ 8 := by
  have hlt := value.toNat_lt
  have hmask (x : Nat) : x &&& 0xff = x % 2 ^ 8 := Nat.and_two_pow_sub_one_eq_mod x 8
  have hff : (0xff : UInt16).toNat = 0xff := rfl
  have hshift : (value >>> 8).toNat = value.toNat / 2 ^ 8 := by
    rw [UInt16.toNat_shiftRight, Nat.shiftRight_eq_div_pow]
    rfl
  rw [UInt16.toNat_toUInt8, UInt16.toNat_toUInt8, UInt16.toNat_and, UInt16.toNat_and, hff, hmask,
    hmask, hshift]
  omega

theorem toNat_shiftRight16 (value : UInt16) {n : Nat} (hn : n < 16) :
    (value >>> UInt16.ofNat n).toNat = value.toNat / 2 ^ n := by
  rw [UInt16.toNat_shiftRight, Nat.shiftRight_eq_div_pow, UInt16.toNat_ofNat',
    Nat.mod_mod_of_dvd _ (by decide : 16 ∣ 2 ^ 16), Nat.mod_eq_of_lt hn]

theorem toNat_pair16 (b₀ b₁ : UInt8) :
    (b₀.toUInt16 ||| (b₁.toUInt16 <<< 8)).toNat = b₀.toNat + b₁.toNat * 2 ^ 8 := by
  have h₀ := b₀.toNat_lt
  have h₁ := b₁.toNat_lt
  have hshift : (b₁.toUInt16 <<< 8).toNat = b₁.toNat <<< 8 := by
    rw [UInt16.toNat_shiftLeft, UInt8.toNat_toUInt16, Nat.shiftLeft_eq, Nat.shiftLeft_eq]
    exact Nat.mod_eq_of_lt (show b₁.toNat * 2 ^ 8 < 2 ^ 16 by omega)
  rw [UInt16.toNat_or, UInt8.toNat_toUInt16, hshift]
  exact or_shiftLeft_of_lt h₀

/-- A number below `2 ^ 16` of a byte and the bits above it. -/
theorem toNat_or_shiftLeft_eight (b : UInt8) (x : UInt32) (hx : x.toNat < 2 ^ 16) :
    (b.toUInt32 ||| (x <<< 8)).toNat = b.toNat + x.toNat * 2 ^ 8 := by
  have hb := b.toNat_lt
  have hshift : (x <<< 8).toNat = x.toNat <<< 8 := by
    rw [UInt32.toNat_shiftLeft, Nat.shiftLeft_eq, Nat.shiftLeft_eq]
    exact Nat.mod_eq_of_lt (show x.toNat * 2 ^ 8 < 2 ^ 32 by omega)
  rw [UInt32.toNat_or, UInt8.toNat_toUInt32, hshift]
  exact or_shiftLeft_of_lt hb

/-- The 16-bit word of two bytes, put together as a 32-bit one. -/
theorem toNat_word16 (b₀ b₁ : UInt8) :
    (b₀.toUInt32 ||| (b₁.toUInt32 <<< 8)).toUInt16.toNat = b₀.toNat + b₁.toNat * 2 ^ 8 := by
  have h₀ := b₀.toNat_lt
  have h₁ := b₁.toNat_lt
  rw [UInt32.toNat_toUInt16, toNat_or_shiftLeft_eight b₀ b₁.toUInt32
    (by rw [UInt8.toNat_toUInt32]; omega), UInt8.toNat_toUInt32]
  omega

/-! ## Words of twelve bits

Two words of twelve bits in three bytes: the lower eight bits of each in a byte of its own, and
the upper four bits of both in the third.
-/

theorem and_f0 (n : Nat) : n &&& 0xf0 = n / 16 % 16 * 16 := by
  have hdiv : (n &&& 0xf0) / 16 = n / 16 % 16 := by
    have h := @Nat.and_div_two_pow n 0xf0 4
    rw [show 0xf0 / 2 ^ 4 = 2 ^ 4 - 1 from rfl, Nat.and_two_pow_sub_one_eq_mod] at h
    exact h
  have hmod : (n &&& 0xf0) % 16 = 0 := by
    have h := @Nat.and_mod_two_pow n 0xf0 4
    rw [show 0xf0 % 2 ^ 4 = 0 from rfl, Nat.and_zero] at h
    exact h
  omega

/-- The byte of the two upper parts. -/
theorem toNat_packed12 {a b : UInt32} (ha : a.toNat < 2 ^ 12) (hb : b.toNat < 2 ^ 12) :
    (((a >>> 8) <<< 4 ||| (b >>> 8)) &&& 0xff).toUInt8.toNat =
      a.toNat / 2 ^ 8 * 16 + b.toNat / 2 ^ 8 := by
  have hshift (x : UInt32) : (x >>> 8).toNat = x.toNat / 2 ^ 8 :=
    toNat_shiftRight32 x (by decide : 8 < 32)
  have hhigh : ((a >>> 8) <<< 4).toNat = (a.toNat / 2 ^ 8) <<< 4 := by
    rw [UInt32.toNat_shiftLeft, hshift, Nat.shiftLeft_eq, Nat.shiftLeft_eq]
    exact Nat.mod_eq_of_lt (show a.toNat / 2 ^ 8 * 2 ^ 4 < 2 ^ 32 by omega)
  rw [toNat_lowByte, UInt32.toNat_or, hhigh, hshift, Nat.or_comm,
    @or_shiftLeft_of_lt (b.toNat / 2 ^ 8) (a.toNat / 2 ^ 8) 4 (by omega)]
  omega

/-- The word whose upper part is the upper half of the shared byte. -/
theorem toNat_word12_high (low packed : UInt8) :
    (low.toUInt32 ||| ((packed.toUInt32 &&& 0xf0) <<< 4)).toUInt16.toNat =
      low.toNat + packed.toNat / 16 * 2 ^ 8 := by
  have hlow := low.toNat_lt
  have hpacked := packed.toNat_lt
  have hmask : (packed.toUInt32 &&& 0xf0).toNat = packed.toNat / 16 * 16 := by
    rw [UInt32.toNat_and, UInt8.toNat_toUInt32]
    have h := and_f0 packed.toNat
    rw [Nat.mod_eq_of_lt (by omega : packed.toNat / 16 < 16)] at h
    exact h
  have hshift : ((packed.toUInt32 &&& 0xf0) <<< 4).toNat = (packed.toNat / 16) <<< 8 := by
    rw [UInt32.toNat_shiftLeft, hmask, Nat.shiftLeft_eq, Nat.shiftLeft_eq]
    have hlt : packed.toNat / 16 * 16 * 2 ^ 4 < 2 ^ 32 := by omega
    exact (Nat.mod_eq_of_lt hlt).trans (by omega)
  rw [UInt32.toNat_toUInt16, UInt32.toNat_or, UInt8.toNat_toUInt32, hshift,
    @or_shiftLeft_of_lt low.toNat (packed.toNat / 16) 8 hlow]
  omega

/-- The word whose upper part is the lower half of the shared byte. -/
theorem toNat_word12_low (low packed : UInt8) :
    (low.toUInt32 ||| ((packed.toUInt32 &&& 0x0f) <<< 8)).toUInt16.toNat =
      low.toNat + packed.toNat % 16 * 2 ^ 8 := by
  have hlow := low.toNat_lt
  have hmask : (packed.toUInt32 &&& 0x0f).toNat = packed.toNat % 16 := by
    rw [UInt32.toNat_and, UInt8.toNat_toUInt32]
    exact Nat.and_two_pow_sub_one_eq_mod packed.toNat 4
  rw [UInt32.toNat_toUInt16, toNat_or_shiftLeft_eight low (packed.toUInt32 &&& 0x0f)
    (by rw [hmask]; omega), hmask]
  omega

/-! ## The halves and bytes of a 64-bit word -/

theorem toNat_halves64 (value : UInt64) :
    (value &&& 0xffffffff).toUInt32.toNat = value.toNat % 2 ^ 32 ∧
      ((value >>> 32) &&& 0xffffffff).toUInt32.toNat = value.toNat / 2 ^ 32 := by
  have hlt := value.toNat_lt
  have hmask (x : Nat) : x &&& 0xffffffff = x % 2 ^ 32 := Nat.and_two_pow_sub_one_eq_mod x 32
  have hff : (0xffffffff : UInt64).toNat = 0xffffffff := rfl
  have hshift : (value >>> 32).toNat = value.toNat / 2 ^ 32 := by
    rw [UInt64.toNat_shiftRight, Nat.shiftRight_eq_div_pow]
    rfl
  rw [UInt64.toNat_toUInt32, UInt64.toNat_toUInt32, UInt64.toNat_and, UInt64.toNat_and, hff, hmask,
    hmask, hshift]
  omega

theorem toNat_word64 (low high : UInt32) :
    (low.toUInt64 ||| (high.toUInt64 <<< 32)).toNat = low.toNat + high.toNat * 2 ^ 32 := by
  have hlow := low.toNat_lt
  have hhigh := high.toNat_lt
  have hshift : high.toNat <<< 32 % 2 ^ 64 = high.toNat <<< 32 := by
    rw [Nat.shiftLeft_eq]
    exact Nat.mod_eq_of_lt (by omega)
  have hword : (low.toUInt64 ||| (high.toUInt64 <<< 32)).toNat =
      low.toNat ||| high.toNat <<< 32 % 2 ^ 64 := by
    simp [UInt64.toNat_or, UInt64.toNat_shiftLeft]
  rw [hword, hshift, or_shiftLeft_of_lt hlow]

theorem toNat_shiftRight (x : UInt64) {n : Nat} (hn : n < 64) :
    (x >>> UInt64.ofNat n).toNat = x.toNat / 2 ^ n := by
  rw [UInt64.toNat_shiftRight, Nat.shiftRight_eq_div_pow, UInt64.toNat_ofNat',
    Nat.mod_mod_of_dvd _ (by decide : 64 ∣ 2 ^ 64), Nat.mod_eq_of_lt hn]

theorem toNat_toUInt16_shiftRight (x : UInt64) {n : Nat} (hn : n < 64) :
    (x >>> UInt64.ofNat n).toUInt16.toNat = x.toNat / 2 ^ n % 2 ^ 16 := by
  rw [UInt64.toNat_toUInt16, toNat_shiftRight x hn]

theorem toNat_toUInt8_shiftRight (x : UInt64) {n : Nat} (hn : n < 64) :
    (x >>> UInt64.ofNat n).toUInt8.toNat = x.toNat / 2 ^ n % 2 ^ 8 := by
  rw [UInt64.toNat_toUInt8, toNat_shiftRight x hn]

end Bits
