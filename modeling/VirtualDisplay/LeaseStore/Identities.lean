import VirtualDisplay.LeaseStore.Placement
import VirtualDisplay.Lib.Bits

/-!
# Temporary identities are unique

Windows tells monitors apart by the product code and serial number of their EDID, so no two
temporary displays may have both in common.  A retained display brings the identity of its id, and
a create checks that no record has it; an ephemeral display is given the first identity of a
counter that no record has.

* `edidIdentity_ephemeralIdentity_ne` — identities drawn fewer than `2 ^ 32` apart differ, although
  sixty-four bits are folded into twelve and thirty-two.
* `ephemeralLoop_ends` — so the loop that draws them ends, with one that is not in use.
* `execute_identities` — no two records ever share an identity.

## What is here

* `ephemeralIdentity`, `edidIdentity` — what is drawn for a value of the counter, and the pair that
  Windows sees of it.
* `FoldsAlike`, `halves_add` — the fold of the two halves of an id.  Two draws of the same fold
  would have to differ in the upper half, and it changes by one at most over so few draws; the
  lowest bit then tells them apart.
* `EphemeralLoop` — the loop of the source, which has no bound, as a relation.
* `containerGuidFromDisplayId_injective` — the container of a display is its own.

Displays are counted with 32 bits, so no store comes to where the argument would break down.
-/

set_option autoImplicit false

namespace VirtualDisplay

open Std

/-! ## Draws of the counter -/

/-- The `i`-th identity the loop draws. -/
def ephemeralIdentity (next : UInt64) (i : Nat) : UInt64 :=
  DisplayStore.kEphemeralDisplayIdBase ||| (next + UInt64.ofNat i)

/-- The values of an identity that end up in an EDID. -/
def edidIdentity (identity : UInt64) : UInt16 × UInt32 :=
  (productCodeFromDisplayId identity, serialNumberFromDisplayId identity)

theorem toNat_productCodeFromDisplayId (displayId : UInt64) :
    (productCodeFromDisplayId displayId).toNat = 0x5000 + displayId.toNat % 4096 := by
  have hlt : displayId.toNat % 4096 < 2 ^ 12 := Nat.mod_lt _ (by omega)
  have hmask : (displayId &&& 0x0fff).toNat = displayId.toNat % 4096 := by
    rw [UInt64.toNat_and]
    exact Nat.and_two_pow_sub_one_eq_mod displayId.toNat 12
  have hor : (0x5000 : Nat) ||| (displayId.toNat % 4096) = 0x5000 + displayId.toNat % 4096 :=
    (Nat.two_pow_add_eq_or_of_lt hlt 5).symm
  have hbase : kTemporaryDisplayProductCodeBase.toUInt64.toNat = 0x5000 := rfl
  rw [productCodeFromDisplayId, UInt64.toNat_toUInt16, UInt64.toNat_or, hmask, hbase, hor]
  exact Nat.mod_eq_of_lt (by omega)

theorem productCode_mod {a b : UInt64}
    (h : productCodeFromDisplayId a = productCodeFromDisplayId b) :
    a.toNat % 4096 = b.toNat % 4096 := by
  have heq := congrArg UInt16.toNat h
  rw [toNat_productCodeFromDisplayId, toNat_productCodeFromDisplayId] at heq
  omega

theorem serialNumber_fold {a b : UInt64}
    (h : serialNumberFromDisplayId a = serialNumberFromDisplayId b) :
    let fold (x : UInt64) := (x.toNat % 2 ^ 32) ^^^ (x.toNat / 2 ^ 32)
    fold a = fold b ∨ (fold a = 0 ∧ fold b = 1) ∨ (fold a = 1 ∧ fold b = 0) := by
  intro fold
  have hserial (x : UInt64) :
      (serialNumberFromDisplayId x).toNat = if fold x = 0 then 1 else fold x := by
    have hfolded : (x.toUInt32 ^^^ (x >>> 32).toUInt32).toNat = fold x := by
      have hlt := x.toNat_lt
      have hshift : (x >>> 32).toNat = x.toNat / 2 ^ 32 :=
        Bits.toNat_shiftRight x (by decide : 32 < 64)
      rw [UInt32.toNat_xor, UInt64.toNat_toUInt32, UInt64.toNat_toUInt32, hshift,
        Nat.mod_eq_of_lt (by omega : x.toNat / 2 ^ 32 < 2 ^ 32)]
    rw [serialNumberFromDisplayId]
    by_cases hzero : fold x = 0
    · have hzero' : x.toUInt32 ^^^ (x >>> 32).toUInt32 = 0 :=
        UInt32.toNat_inj.mp (hfolded.trans hzero)
      rw [if_pos hzero, if_pos hzero']
      rfl
    · rw [if_neg hzero, if_neg fun heq ↦ hzero ?_, hfolded]
      rw [← hfolded, heq]
      rfl
  have := congrArg UInt32.toNat h
  rw [hserial, hserial] at this
  split_ifs at this <;> omega

/-- The upper half of a drawn identity: the counter's with the two bits of the base. -/
def ephemeralHigh (h : Nat) : Nat := h ||| 0x60000000

theorem ephemeralHigh_mod_two (h : Nat) : ephemeralHigh h % 2 = h % 2 :=
  @Bits.or_mod_of_mod_eq_zero 0x60000000 h 1 rfl

theorem ephemeralHigh_mod (h : Nat) : ephemeralHigh h % 4096 = h % 4096 :=
  @Bits.or_mod_of_mod_eq_zero 0x60000000 h 12 rfl

/-- Counting on from an even number changes the lowest bit only. -/
theorem ephemeralHigh_succ {h : Nat} (heven : h % 2 = 0) :
    ephemeralHigh (h + 1) = ephemeralHigh h + 1 := by
  rw [← Bits.even_or_one ((ephemeralHigh_mod_two h).trans heven), ← Bits.even_or_one heven,
    ephemeralHigh,
    ephemeralHigh, Nat.or_right_comm]

/-- The two halves of identities with the same serial number, folded. -/
def FoldsAlike (l H l' H' : Nat) : Prop :=
  l ^^^ H = l' ^^^ H' ∨ l ^^^ H = 0 ∧ l' ^^^ H' = 1 ∨ l ^^^ H = 1 ∧ l' ^^^ H' = 0

/-- With the same upper half, equal folds and equal low bits mean equal lower halves. -/
theorem FoldsAlike.eq {l l' H : Nat} (h : FoldsAlike l H l' H) (hcode : l % 4096 = l' % 4096) :
    l = l' := by
  have hp := Bits.xor_mod_two l H
  have hp' := Bits.xor_mod_two l' H
  rcases h with h | ⟨h0, h1⟩ | ⟨h1, h0⟩
  · exact Nat.xor_left_injective h
  · rw [h0] at hp
    rw [h1] at hp'
    omega
  · rw [h1] at hp
    rw [h0] at hp'
    omega

/-- When the upper half has gone up by one, equal folds and equal low bits mean that the lower
halves are equal as well. -/
theorem FoldsAlike.eq_of_succ {l l' h h' : Nat}
    (hfolds : FoldsAlike l (ephemeralHigh h) l' (ephemeralHigh h'))
    (hcode : l % 4096 = l' % 4096) (hlt : h < 2 ^ 32) (hh' : h' = (h + 1) % 2 ^ 32) : l = l' := by
  have hp := Bits.xor_mod_two l (ephemeralHigh h)
  have hp' := Bits.xor_mod_two l' (ephemeralHigh h')
  have hparity := ephemeralHigh_mod_two h
  have hparity' := ephemeralHigh_mod_two h'
  have hlow := ephemeralHigh_mod h
  have hlow' := ephemeralHigh_mod h'
  have hsucc (heven : h % 2 = 0) : ephemeralHigh h' = ephemeralHigh h + 1 := by
    rw [hh', Nat.mod_eq_of_lt (by omega), ephemeralHigh_succ heven]
  have hnext : h' % 4096 = (h + 1) % 4096 := by
    rw [hh']
    exact Nat.mod_mod_of_dvd _ (by decide)
  clear hh' hlt
  rw [FoldsAlike] at hfolds
  generalize ephemeralHigh h = H at *
  generalize ephemeralHigh h' = H' at *
  rcases hfolds with hfold | ⟨h0, h1⟩ | ⟨h1, h0⟩
  · -- The lowest bits of the upper halves differ, those of the lower halves do not.
    rw [hfold] at hp
    omega
  · have hl := Bits.eq_xor_of_xor_eq h0
    have hl' := Bits.eq_xor_of_xor_eq h1
    rw [Nat.xor_zero] at hl
    clear h0 h1 hp hp'
    rcases Nat.mod_two_eq_zero_or_one h with heven | hodd
    · have hH : Odd (H + 1) := Nat.odd_iff.mpr (by omega)
      rw [hsucc heven, Nat.xor_one_of_odd hH, Nat.add_sub_cancel] at hl'
      exact hl.trans hl'.symm
    · have hH' : Even H' := Nat.even_iff.mpr (by omega)
      rw [Nat.xor_one_of_even hH'] at hl'
      omega
  · have hl := Bits.eq_xor_of_xor_eq h1
    have hl' := Bits.eq_xor_of_xor_eq h0
    rw [Nat.xor_zero] at hl'
    clear h0 h1 hp hp'
    rcases Nat.mod_two_eq_zero_or_one h with heven | hodd
    · have hH : Even H := Nat.even_iff.mpr (by omega)
      rw [Nat.xor_one_of_even hH, ← hsucc heven] at hl
      exact hl.trans hl'.symm
    · have hH : Odd H := Nat.odd_iff.mpr (by omega)
      rw [Nat.xor_one_of_odd hH] at hl
      omega

theorem ephemeralIdentity_toNat (next : UInt64) (i : Nat) :
    let n := (next.toNat + i) % 2 ^ 64
    (ephemeralIdentity next i).toNat % 2 ^ 32 = n % 2 ^ 32 ∧
      (ephemeralIdentity next i).toNat / 2 ^ 32 = ephemeralHigh (n / 2 ^ 32) := by
  intro n
  have hn : (next + UInt64.ofNat i).toNat = n := by
    rw [UInt64.toNat_add, UInt64.toNat_ofNat', Nat.add_mod_mod]
  have hbase : DisplayStore.kEphemeralDisplayIdBase.toNat = 0x60000000 * 2 ^ 32 := rfl
  rw [ephemeralIdentity, UInt64.toNat_or, hn, hbase]
  constructor
  · rw [Nat.or_mod_two_pow, Nat.mul_mod_left, Nat.zero_or]
  · rw [Nat.or_div_two_pow, Nat.mul_div_cancel _ (by decide), Nat.or_comm]
    rfl

/-- Counting on by less than `2 ^ 32` moves the upper half by one at most. -/
theorem halves_add {n k : Nat} (hn : n < 2 ^ 64) (hk : k < 2 ^ 32) :
    let n' := (n + k) % 2 ^ 64
    n' / 2 ^ 32 = n / 2 ^ 32 ∧ n' % 2 ^ 32 = n % 2 ^ 32 + k ∨
      n' / 2 ^ 32 = (n / 2 ^ 32 + 1) % 2 ^ 32 ∧ n' % 2 ^ 32 + 2 ^ 32 = n % 2 ^ 32 + k := by
  dsimp only
  omega

/-- Draws that are fewer than `2 ^ 32` apart differ in their EDID values. -/
theorem edidIdentity_ephemeralIdentity_ne {next : UInt64} {i j : Nat} (hij : i < j)
    (hnear : j < i + 2 ^ 32) :
    edidIdentity (ephemeralIdentity next i) ≠ edidIdentity (ephemeralIdentity next j) := by
  intro heq
  obtain ⟨hcode, hserial⟩ := Prod.mk.inj heq
  have hcode := productCode_mod hcode
  have hserial := serialNumber_fold hserial
  obtain ⟨hlow, hhigh⟩ := ephemeralIdentity_toNat next i
  obtain ⟨hlow', hhigh'⟩ := ephemeralIdentity_toNat next j
  dsimp only at hserial
  rw [hlow, hhigh, hlow', hhigh'] at hserial
  have hsum : (next.toNat + j) % 2 ^ 64 = ((next.toNat + i) % 2 ^ 64 + (j - i)) % 2 ^ 64 := by
    rw [Nat.mod_add_mod, Nat.add_assoc, Nat.add_sub_cancel' hij.le]
  have hn := Nat.mod_lt (next.toNat + i) (by decide : 0 < 2 ^ 64)
  have hlowcode : (next.toNat + i) % 2 ^ 64 % 2 ^ 32 % 4096 =
      (next.toNat + j) % 2 ^ 64 % 2 ^ 32 % 4096 := by
    rw [← hlow, ← hlow', Nat.mod_mod_of_dvd _ (by decide), Nat.mod_mod_of_dvd _ (by decide)]
    exact hcode
  have hhalves := halves_add hn (by omega : j - i < 2 ^ 32)
  rw [hsum] at hserial hlowcode
  generalize (next.toNat + i) % 2 ^ 64 = n at *
  dsimp only at hhalves
  rcases hhalves with ⟨hsame, hadd⟩ | ⟨hsucc, hadd⟩
  · rw [hsame] at hserial
    have heq := FoldsAlike.eq hserial hlowcode
    omega
  · have heq := FoldsAlike.eq_of_succ hserial hlowcode (Nat.div_lt_of_lt_mul hn) hsucc
    omega

/-! ## The loop finds an unused identity -/

namespace DisplayStore

variable {s s' : DisplayStore}

theorem edidIdentityIsActive_eq_false {identity : UInt64} :
    s.edidIdentityIsActive identity = false ↔
      ∀ (d : UInt64) (r : TemporaryDisplayRecord), s.displaysById[d]? = some r →
        edidIdentity r.effectiveIdentity ≠ edidIdentity identity := by
  simp [edidIdentityIsActive, OrdMap.anyEntry_eq_false, edidIdentity]

/-- The do-while loop of the source, from a value of the counter on: after so many passes it ends
with this identity and this counter. -/
inductive EphemeralLoop (s : DisplayStore) : UInt64 → Nat → UInt64 × UInt64 → Prop where
  | done {next : UInt64}
      (unused : s.edidIdentityIsActive (kEphemeralDisplayIdBase ||| next) = false) :
    EphemeralLoop s next 1 (kEphemeralDisplayIdBase ||| next, next + 1)
  | again {next : UInt64} {passes : Nat} {drawn : UInt64 × UInt64}
      (active : s.edidIdentityIsActive (kEphemeralDisplayIdBase ||| next) = true)
      (rest : EphemeralLoop s (next + 1) passes drawn) :
    EphemeralLoop s next (passes + 1) drawn

theorem EphemeralLoop.unused {next : UInt64} {passes : Nat} {drawn : UInt64 × UInt64}
    (h : s.EphemeralLoop next passes drawn) : s.edidIdentityIsActive drawn.1 = false := by
  induction h with
  | done hunused => exact hunused
  | again _ _ ih => exact ih

theorem ephemeralIdentity_zero (next : UInt64) :
    ephemeralIdentity next 0 = kEphemeralDisplayIdBase ||| next := by
  rw [ephemeralIdentity]
  exact congrArg _ (UInt64.add_zero next)

theorem ephemeralIdentity_succ (next : UInt64) (i : Nat) :
    ephemeralIdentity (next + 1) i = ephemeralIdentity next (i + 1) := by
  rw [ephemeralIdentity, ephemeralIdentity, UInt64.ofNat_add, UInt64.ofNat_one, UInt64.add_assoc,
    UInt64.add_comm 1]

/-- If a draw within its fuel is not in use, the loop with fuel runs as the one without, which
ends with that draw at the latest. -/
theorem drawEphemeralIdentity_loop {fuel i : Nat} {next : UInt64} (hi : i ≤ fuel)
    (hunused : s.edidIdentityIsActive (ephemeralIdentity next i) = false) :
    ∃ passes ≤ i + 1, s.EphemeralLoop next passes (s.drawEphemeralIdentity fuel next) := by
  induction fuel generalizing i next with
  | zero =>
    obtain rfl := Nat.le_zero.mp hi
    rw [ephemeralIdentity_zero] at hunused
    exact ⟨1, by omega, .done hunused⟩
  | succ fuel ih =>
    rw [drawEphemeralIdentity]
    split_ifs with hactive
    · cases i with
      | zero =>
        rw [ephemeralIdentity_zero, hactive] at hunused
        cases hunused
      | succ i =>
        rw [← ephemeralIdentity_succ] at hunused
        obtain ⟨passes, hpasses, hloop⟩ := ih (Nat.le_of_succ_le_succ hi) hunused
        exact ⟨passes + 1, by omega, .again hactive hloop⟩
    · exact ⟨1, by omega, .done (Bool.not_eq_true _ ▸ hactive)⟩

/-- One of as many draws as there are records, and one more, is not in use. -/
theorem exists_ephemeralIdentity_unused (next : UInt64)
    (hroom : s.displaysById.size < s.maxTemporaryDisplays.toNat) :
    ∃ i ≤ s.displaysById.size, s.edidIdentityIsActive (ephemeralIdentity next i) = false := by
  have hmax := s.maxTemporaryDisplays.toNat_lt
  obtain ⟨i, hi, hunused⟩ := OrdMap.exists_unused s.displaysById
    (fun r ↦ edidIdentity r.effectiveIdentity) (fun i ↦ edidIdentity (ephemeralIdentity next i))
    fun i j hij hj ↦ edidIdentity_ephemeralIdentity_ne hij (by omega)
  exact ⟨i, hi, edidIdentityIsActive_eq_false.mpr hunused⟩

/-- **The loop ends.**  Whatever the counter, and whichever records there are with room for one
more, the loop ends after one pass for each record and one more at most, with an identity that is
not in use; from the counter of the store it ends with the identity the create is given. -/
theorem ephemeralLoop_ends (s : DisplayStore) (next : UInt64)
    (hroom : s.displaysById.size < s.maxTemporaryDisplays.toNat) :
    ∃ passes drawn, passes ≤ s.displaysById.size + 1 ∧ s.EphemeralLoop next passes drawn ∧
      s.edidIdentityIsActive drawn.1 = false ∧
      (next = s.nextEphemeralIdentity → drawn = s.freshEphemeralIdentity) := by
  obtain ⟨i, hi, hunused⟩ := exists_ephemeralIdentity_unused next hroom
  obtain ⟨passes, hpasses, hloop⟩ :=
    drawEphemeralIdentity_loop (by omega : i ≤ 2 * s.displaysById.size) hunused
  exact ⟨passes, _, by omega, hloop, hloop.unused,
    fun hnext ↦ by rw [freshEphemeralIdentity, hnext]⟩

/-- Two displays of one lease, each with an ephemeral identity. -/
def exampleEphemeral : DisplayStore :=
  let request (displayId : UInt64) : CreateTemporaryDisplayRequest :=
    { exampleRequest kMinOpaqueLeaseId displayId with
      flags := kCreateTemporaryDisplayFlagEphemeralIdentity }
  (((new 4 8).createTemporaryDisplay (request 1) 0).1.createTemporaryDisplay (request 2) 0).1

/-- A counter whose bits overlap the base, and whose first draw is the identity of a display. -/
theorem ephemeralLoop_ends_overlap :
    exampleEphemeral.displaysById.size = 2 ∧
    exampleEphemeral.edidIdentityIsActive (kEphemeralDisplayIdBase ||| 0x6000000000000001) ∧
    ∃ passes drawn, passes ≤ exampleEphemeral.displaysById.size + 1 ∧
      exampleEphemeral.EphemeralLoop 0x6000000000000001 passes drawn ∧
      exampleEphemeral.edidIdentityIsActive drawn.1 = false ∧
      ((0x6000000000000001 : UInt64) = exampleEphemeral.nextEphemeralIdentity →
        drawn = exampleEphemeral.freshEphemeralIdentity) :=
  ⟨by decide, by decide, ephemeralLoop_ends exampleEphemeral 0x6000000000000001 (by decide)⟩

/-- With room for another record the loop ends with an identity that is not in use. -/
theorem freshEphemeralIdentity_unused
    (hroom : s.displaysById.size < s.maxTemporaryDisplays.toNat) :
    s.edidIdentityIsActive s.freshEphemeralIdentity.1 = false := by
  obtain ⟨i, hi, hunused⟩ := exists_ephemeralIdentity_unused s.nextEphemeralIdentity hroom
  obtain ⟨_, -, hloop⟩ :=
    drawEphemeralIdentity_loop (by omega : i ≤ 2 * s.displaysById.size) hunused
  exact hloop.unused

theorem drawEphemeralIdentity_ne_zero (s : DisplayStore) (fuel : Nat) (next : UInt64) :
    (s.drawEphemeralIdentity fuel next).1 ≠ 0 := by
  have hdraw (next : UInt64) : kEphemeralDisplayIdBase ||| next ≠ 0 := by
    intro h
    have := congrArg UInt64.toNat h
    rw [UInt64.toNat_or] at this
    have hle := @Nat.left_le_or kEphemeralDisplayIdBase.toNat next.toNat
    rw [this] at hle
    exact absurd hle (by decide)
  induction fuel generalizing next with
  | zero => exact hdraw next
  | succ fuel ih =>
    rw [drawEphemeralIdentity]
    split_ifs
    · exact ih _
    · exact hdraw next

/-- The draws do not depend on the reservations. -/
theorem freshEphemeralIdentity_reservations (s : DisplayStore)
    (reservations : OrdMap UInt64 UInt32) :
    DisplayStore.freshEphemeralIdentity
        { s with connectorReservationsByDisplayId := reservations } =
      s.freshEphemeralIdentity := by
  have hdraw (fuel : Nat) (next : UInt64) : DisplayStore.drawEphemeralIdentity
      { s with connectorReservationsByDisplayId := reservations } fuel next =
        s.drawEphemeralIdentity fuel next := by
    induction fuel generalizing next with
    | zero => rfl
    | succ fuel ih =>
      rw [drawEphemeralIdentity, drawEphemeralIdentity, ih]
      rfl
  exact hdraw _ _

theorem freshEphemeralIdentity_ne_zero (s : DisplayStore) : s.freshEphemeralIdentity.1 ≠ 0 :=
  s.drawEphemeralIdentity_ne_zero _ _

/-! ## The invariant -/

/-- No two records have the same product code and serial number. -/
def IdentitiesDistinct (s : DisplayStore) : Prop :=
  OrdMap.Separates (fun r ↦ edidIdentity r.effectiveIdentity) s.displaysById

theorem effectiveIdentity_of_evolves {r r' : TemporaryDisplayRecord} (h : r.Evolves r') :
    r'.effectiveIdentity = r.effectiveIdentity := by
  rw [h.same]
  rfl

theorem createdRecord_effectiveIdentity (s : DisplayStore)
    (validated : ValidatedCreateTemporaryDisplay) (now : TimePoint) (connectorIndex : UInt32)
    (retainIdentity : Bool) :
    (s.createdRecord validated now connectorIndex retainIdentity).effectiveIdentity =
      if retainIdentity then validated.request.displayId else s.freshEphemeralIdentity.1 := by
  cases retainIdentity with
  | true => exact ite_self _
  | false => exact if_neg s.freshEphemeralIdentity_ne_zero

theorem IdentitiesDistinct.apply (h : s.IdentitiesDistinct) (op : StoreOp) :
    (op.apply s).IdentitiesDistinct := by
  have hstep := op.connectorStep s
  generalize op.apply s = s' at hstep
  cases hstep with
  | @create request _ now _ _ _ _ houtcome =>
    generalize hafter : (s', _) = after at houtcome
    cases houtcome with
    | refused | duplicate =>
      cases hafter
      exact h
    | @committed reservations connectorIndex _ hroom _ hunused =>
      have hs' := congrArg Prod.fst hafter
      dsimp only at hs'
      rw [hs']
      refine h.insert (edidIdentityIsActive_eq_false.mp ?_)
      rw [createdRecord_effectiveIdentity, freshEphemeralIdentity_reservations]
      split_ifs with hretain
      · exact hunused hretain
      · exact freshEphemeralIdentity_unused hroom
  | keep _ hrecords | release _ hrecords | abandon _ _ _ hrecords =>
    refine h.of_entries fun d r' hr' ↦ ?_
    obtain ⟨r, hr, hevolves⟩ := hrecords d r' hr'
    exact ⟨r, hr, congrArg edidIdentity (effectiveIdentity_of_evolves hevolves)⟩

theorem execute_identitiesDistinct (maxPermanentDisplays maxTemporaryDisplays : UInt32)
    (reservations : OrdMap UInt64 UInt32) (initialManifest : Option DisplayManifest)
    (ops : List StoreOp) :
    IdentitiesDistinct (DisplayStore.execute
      (.new maxPermanentDisplays maxTemporaryDisplays reservations initialManifest) ops) := by
  refine List.foldlRecOn (motive := IdentitiesDistinct) ops StoreOp.apply ?_
    fun _ hs op _ ↦ hs.apply op
  rw [IdentitiesDistinct, (new_fresh _ _ _ _).1]
  exact .empty

end DisplayStore

/-! ## Container GUIDs -/

/-- A container GUID spells out all eight bytes of the display id. -/
theorem containerGuidFromDisplayId_injective : Function.Injective containerGuidFromDisplayId := by
  intro a b h
  have h6 : a.toNat / 2 ^ 48 % 2 ^ 16 = b.toNat / 2 ^ 48 % 2 ^ 16 := by
    rw [← Bits.toNat_toUInt16_shiftRight a (by decide : 48 < 64),
      ← Bits.toNat_toUInt16_shiftRight b (by decide : 48 < 64)]
    exact congrArg (fun guid : Guid ↦ guid.data2.toNat) h
  have h4 : a.toNat / 2 ^ 32 % 2 ^ 16 = b.toNat / 2 ^ 32 % 2 ^ 16 := by
    rw [← Bits.toNat_toUInt16_shiftRight a (by decide : 32 < 64),
      ← Bits.toNat_toUInt16_shiftRight b (by decide : 32 < 64)]
    exact congrArg (fun guid : Guid ↦ guid.data3.toNat) h
  have h3 : a.toNat / 2 ^ 24 % 2 ^ 8 = b.toNat / 2 ^ 24 % 2 ^ 8 := by
    rw [← Bits.toNat_toUInt8_shiftRight a (by decide : 24 < 64),
      ← Bits.toNat_toUInt8_shiftRight b (by decide : 24 < 64)]
    exact congrArg (fun guid : Guid ↦ guid.data4[2].toNat) h
  have h2 : a.toNat / 2 ^ 16 % 2 ^ 8 = b.toNat / 2 ^ 16 % 2 ^ 8 := by
    rw [← Bits.toNat_toUInt8_shiftRight a (by decide : 16 < 64),
      ← Bits.toNat_toUInt8_shiftRight b (by decide : 16 < 64)]
    exact congrArg (fun guid : Guid ↦ guid.data4[3].toNat) h
  have h1 : a.toNat / 2 ^ 8 % 2 ^ 8 = b.toNat / 2 ^ 8 % 2 ^ 8 := by
    rw [← Bits.toNat_toUInt8_shiftRight a (by decide : 8 < 64),
      ← Bits.toNat_toUInt8_shiftRight b (by decide : 8 < 64)]
    exact congrArg (fun guid : Guid ↦ guid.data4[4].toNat) h
  have h0 : a.toNat % 2 ^ 8 = b.toNat % 2 ^ 8 := by
    rw [← UInt64.toNat_toUInt8, ← UInt64.toNat_toUInt8]
    exact congrArg (fun guid : Guid ↦ guid.data4[5].toNat) h
  have ha := a.toNat_lt
  have hb := b.toNat_lt
  refine UInt64.toNat_inj.mp ?_
  omega

namespace DisplayStore

/-- **Temporary identities are unique.**  After any operations on any store, no two temporary
records have the same product code and serial number, and so no two the same container GUID. -/
theorem execute_identities (maxPermanentDisplays maxTemporaryDisplays : UInt32)
    (reservations : OrdMap UInt64 UInt32) (initialManifest : Option DisplayManifest)
    (ops : List StoreOp) :
    let s := DisplayStore.execute
      (.new maxPermanentDisplays maxTemporaryDisplays reservations initialManifest) ops
    ∀ (d₁ d₂ : UInt64) (r₁ r₂ : TemporaryDisplayRecord), s.displaysById[d₁]? = some r₁ →
      s.displaysById[d₂]? = some r₂ → d₁ ≠ d₂ →
      ¬(productCodeFromDisplayId r₁.effectiveIdentity =
            productCodeFromDisplayId r₂.effectiveIdentity ∧
          serialNumberFromDisplayId r₁.effectiveIdentity =
            serialNumberFromDisplayId r₂.effectiveIdentity) ∧
        containerGuidFromDisplayId r₁.effectiveIdentity ≠
          containerGuidFromDisplayId r₂.effectiveIdentity := by
  intro s d₁ d₂ r₁ r₂ hr₁ hr₂ hne
  have hdistinct : s.IdentitiesDistinct := execute_identitiesDistinct _ _ _ _ _
  refine ⟨fun ⟨hcode, hserial⟩ ↦ ?_, fun hguid ↦ ?_⟩
  · exact hne (hdistinct d₁ d₂ r₁ r₂ hr₁ hr₂ (Prod.ext hcode hserial))
  · refine hne (hdistinct d₁ d₂ r₁ r₂ hr₁ hr₂ ?_)
    exact congrArg edidIdentity (containerGuidFromDisplayId_injective hguid)

end DisplayStore

end VirtualDisplay
