import VirtualDisplay.FrameRing.Server

/-!
# The slots of a ring

The frames of a display go to its consumer through the four slots of a ring: a texture each, with a
keyed mutex, and a part of the shared metadata.  `publish_frame_to_ring` takes a slot, with key 0
or, if the consumer has not fetched the frame in it, with key 1; it copies the frame, writes the
metadata and releases the slot to key 1.  The consumer acquires key 1 and returns key 0.

`FrameSlotStep` has a step for everything that a call, the consumer or the retirement of the ring
does to what they share.  A call, of which there may be any number at once, is known by a number;
the pixels of a slot are the call that copied them, and a slot also remembers who wrote its
metadata.

* `PublishPhase.Sound` — what a call may rely on at each point; `Sound.step` keeps it.
* `FrameSlots.Sound` — each call is sound, and a slot that may be consumed holds one whole frame as
  long as no call gives back a slot with key 1 that it has copied into (`KeepsFrame`).
* `frameSlots_protocol` — what a consumer finds, and that nothing is released to it after
  retirement.
-/

set_option autoImplicit false

namespace VirtualDisplay

/-! ## Slots and calls -/

/-- What stands beside a texture: whose frame it is, and which one. -/
structure FrameSlotMetadata where
  clientCookie : UInt64 := 0
  displayGeneration : UInt64 := 0
  ringGeneration : UInt64 := 0
  sequence : UInt64 := 0
  acquiredQpc : UInt64 := 0
  reserved : UInt64 := 0
  deriving DecidableEq, Repr, Inhabited

/-- Who has the keyed mutex of a slot. -/
inductive SlotOwner where
  | released (key : UInt64)
  | producer (publish : Nat)
  | consumer
  deriving DecidableEq, Repr

/-- A texture with its keyed mutex, and with what has been copied into it. -/
structure FrameSlot where
  owner : SlotOwner := .released 0
  /-- The call whose copy is in the texture. -/
  pixels : Option Nat := none
  metadata : FrameSlotMetadata := {}
  /-- The call that wrote the metadata. -/
  metadataWriter : Option Nat := none
  deriving DecidableEq, Repr

/-- The textures of a ring. -/
abbrev SlotIndex := Fin kFrameRingSlotCount

/-- How far a call of `publish_frame_to_ring` is. -/
inductive PublishPhase where
  | notBegun
  /-- At the head of the loop over the slots. -/
  | looking (slot : Nat)
  /-- About to acquire key 0. -/
  | acquiring (slot : SlotIndex)
  /-- About to acquire key 1. -/
  | reclaiming (slot : SlotIndex)
  | acquired (slot : SlotIndex) (acquiredKey : UInt64)
  | captured (slot : SlotIndex) (acquiredKey capturedQpc : UInt64)
  | copied (slot : SlotIndex) (acquiredKey capturedQpc : UInt64)
  /-- In `release_unpublished_slot`, without its lock yet. -/
  | aborting (slot : SlotIndex) (acquiredKey : UInt64)
  /-- In `release_unpublished_slot`, with the lock. -/
  | givingBack (slot : SlotIndex) (acquiredKey : UInt64)
  | locked (slot : SlotIndex) (acquiredKey capturedQpc : UInt64)
  /-- Has found the ring live under the lock. -/
  | admitted (slot : SlotIndex) (acquiredKey capturedQpc : UInt64)
  | sequenced (slot : SlotIndex) (acquiredKey capturedQpc sequence : UInt64)
  | written (slot : SlotIndex)
  /-- Done with the slot; the lock is still held. -/
  | leaving
  | ended
  deriving DecidableEq, Repr

/-- What the producer of a ring knows of it. -/
structure FrameRingProducerResources where
  request : FrameRingRegisterRequest := {}
  displayGeneration : UInt64 := 0
  ringGeneration : UInt64 := 0
  deriving Repr

/-- What the calls on one ring share, with the calls.  `mutexHolder` is the call in the lock of the
publication gate. -/
structure FrameSlots where
  publication : FrameRingPublication := {}
  mutexHolder : Option Nat := none
  slots : SlotIndex → FrameSlot := fun _ ↦ {}
  publishes : Nat → PublishPhase := fun _ ↦ .notBegun

/-- What a step does that others can see. -/
inductive FrameSlotEvent where
  | quiet
  /-- The call releases the slot to key 1, with its frame. -/
  | published (publish : Nat) (slot : SlotIndex)
  /-- The call releases the slot without having written its metadata. -/
  | gaveBack (publish : Nat) (slot : SlotIndex) (key : UInt64)
  /-- The consumer acquires key 1. -/
  | consumed (slot : SlotIndex)
  /-- The consumer releases the slot to key 0. -/
  | returned (slot : SlotIndex)
  | retired
  deriving DecidableEq, Repr

/-- The slot that is released, and the key it is released to. -/
def FrameSlotEvent.release? : FrameSlotEvent → Option (SlotIndex × UInt64)
  | .published _ slot => some (slot, 1)
  | .gaveBack _ slot key => some (slot, key)
  | .returned slot => some (slot, 0)
  | .quiet | .consumed _ | .retired => none

namespace FrameSlots

/-- A call of the publisher goes on. -/
def setPhase (s : FrameSlots) (publish : Nat) (phase : PublishPhase) : FrameSlots :=
  { s with publishes := Function.update s.publishes publish phase }

/-- A texture changes. -/
def setSlot (s : FrameSlots) (slot : SlotIndex) (content : FrameSlot) : FrameSlots :=
  { s with slots := Function.update s.slots slot content }

/-- The mutex of a texture is acquired or released. -/
def setOwner (s : FrameSlots) (slot : SlotIndex) (owner : SlotOwner) : FrameSlots :=
  s.setSlot slot { s.slots slot with owner }

/-- `FrameRingSnapshot::next_sequence`. -/
def nextSequence (s : FrameSlots) : Option (UInt64 × FrameRingPublication) :=
  if s.publication.enabled then s.publication.nextSequence else none

end FrameSlots

/-- The call holds the lock of the gate. -/
def PublishPhase.holdsMutex : PublishPhase → Bool
  | .givingBack .. | .locked .. | .admitted .. | .sequenced .. | .written _ | .leaving => true
  | _ => false

/-- The metadata that a call writes. -/
def FrameRingProducerResources.slotMetadata (ring : FrameRingProducerResources)
    (sequence capturedQpc : UInt64) : FrameSlotMetadata where
  clientCookie := ring.request.clientCookie
  displayGeneration := ring.displayGeneration
  ringGeneration := ring.ringGeneration
  sequence
  acquiredQpc := capturedQpc
  reserved := 0

/-! ## The steps -/

open PublishPhase FrameSlotEvent

/-- A step of one of the calls, of the consumer or of the retirement.  A check that only reads is
part of the step that it leads to. -/
inductive FrameSlotStep (ring : FrameRingProducerResources) (s : FrameSlots) :
    FrameSlotEvent → FrameSlots → Prop
  /-- No surface, another mode, another device, or a ring that is not live. -/
  | refused {p : Nat} : s.publishes p = .notBegun → FrameSlotStep ring s quiet (s.setPhase p ended)
  | begins {p : Nat} : s.publishes p = .notBegun → s.publication.enabled = true →
      FrameSlotStep ring s quiet (s.setPhase p (looking 0))
  /-- All slots were unavailable: the frame is dropped. -/
  | drops {p slot : Nat} : s.publishes p = .looking slot → kFrameRingSlotCount ≤ slot →
      FrameSlotStep ring s quiet (s.setPhase p ended)
  | cancelledLooking {p slot : Nat} : s.publishes p = .looking slot →
      s.publication.enabled = false → FrameSlotStep ring s quiet (s.setPhase p ended)
  | looks {p : Nat} {slot : SlotIndex} : s.publishes p = .looking slot →
      s.publication.enabled = true → FrameSlotStep ring s quiet (s.setPhase p (acquiring slot))
  | acquires {p : Nat} {slot : SlotIndex} : s.publishes p = .acquiring slot →
      (s.slots slot).owner = .released 0 →
      FrameSlotStep ring s quiet ((s.setOwner slot (.producer p)).setPhase p (acquired slot 0))
  | timesOut {p : Nat} {slot : SlotIndex} : s.publishes p = .acquiring slot →
      (s.slots slot).owner ≠ .released 0 →
      FrameSlotStep ring s quiet (s.setPhase p (reclaiming slot))
  | reclaims {p : Nat} {slot : SlotIndex} : s.publishes p = .reclaiming slot →
      (s.slots slot).owner = .released 1 →
      FrameSlotStep ring s quiet ((s.setOwner slot (.producer p)).setPhase p (acquired slot 1))
  | passes {p : Nat} {slot : SlotIndex} : s.publishes p = .reclaiming slot →
      (s.slots slot).owner ≠ .released 1 →
      FrameSlotStep ring s quiet (s.setPhase p (looking (slot + 1)))
  /-- Neither `S_OK` nor `WAIT_TIMEOUT`. -/
  | acquireFails {p : Nat} {slot : SlotIndex} :
      s.publishes p = .acquiring slot ∨ s.publishes p = .reclaiming slot →
      FrameSlotStep ring s quiet (s.setPhase p ended)
  | cancelledAcquired {p : Nat} {slot : SlotIndex} {key : UInt64} :
      s.publishes p = .acquired slot key → s.publication.enabled = false →
      FrameSlotStep ring s quiet (s.setPhase p (aborting slot key))
  | clockFails {p : Nat} {slot : SlotIndex} {key : UInt64} : s.publishes p = .acquired slot key →
      s.publication.enabled = true → FrameSlotStep ring s quiet (s.setPhase p (aborting slot key))
  | captures {p : Nat} {slot : SlotIndex} {key qpc : UInt64} : s.publishes p = .acquired slot key →
      s.publication.enabled = true → 0 < qpc →
      FrameSlotStep ring s quiet (s.setPhase p (captured slot key qpc))
  | copies {p : Nat} {slot : SlotIndex} {key qpc : UInt64} :
      s.publishes p = .captured slot key qpc →
      FrameSlotStep ring s quiet
        ((s.setSlot slot { s.slots slot with pixels := some p }).setPhase p (copied slot key qpc))
  | deviceRemoved {p : Nat} {slot : SlotIndex} {key qpc : UInt64} :
      s.publishes p = .copied slot key qpc →
      FrameSlotStep ring s quiet (s.setPhase p (aborting slot key))
  | locks {p : Nat} {slot : SlotIndex} {key qpc : UInt64} : s.publishes p = .copied slot key qpc →
      s.mutexHolder = none →
      FrameSlotStep ring s quiet
        ({ s with mutexHolder := some p }.setPhase p (locked slot key qpc))
  /-- The ring has been retired: the slot goes to the producer, whatever its key was. -/
  | cancelledLocked {p : Nat} {slot : SlotIndex} {key qpc : UInt64} :
      s.publishes p = .locked slot key qpc → s.publication.enabled = false →
      FrameSlotStep ring s (gaveBack p slot 0)
        ((s.setOwner slot (.released 0)).setPhase p leaving)
  | admits {p : Nat} {slot : SlotIndex} {key qpc : UInt64} : s.publishes p = .locked slot key qpc →
      s.publication.enabled = true →
      FrameSlotStep ring s quiet (s.setPhase p (admitted slot key qpc))
  | sequences {p : Nat} {slot : SlotIndex} {key qpc sequence : UInt64}
      {publication : FrameRingPublication} : s.publishes p = .admitted slot key qpc →
      s.nextSequence = some (sequence, publication) →
      FrameSlotStep ring s quiet
        ({ s with publication }.setPhase p (sequenced slot key qpc sequence))
  | sequenceExhausted {p : Nat} {slot : SlotIndex} {key qpc : UInt64} :
      s.publishes p = .admitted slot key qpc → s.nextSequence = none →
      FrameSlotStep ring s (gaveBack p slot key)
        ((s.setOwner slot (.released key)).setPhase p leaving)
  | writes {p : Nat} {slot : SlotIndex} {key qpc sequence : UInt64} :
      s.publishes p = .sequenced slot key qpc sequence →
      FrameSlotStep ring s quiet
        ((s.setSlot slot { s.slots slot with
            metadata := ring.slotMetadata sequence qpc
            metadataWriter := some p }).setPhase p (written slot))
  | publishes {p : Nat} {slot : SlotIndex} : s.publishes p = .written slot →
      FrameSlotStep ring s (published p slot)
        ((s.setOwner slot (.released 1)).setPhase p leaving)
  | locksToGiveBack {p : Nat} {slot : SlotIndex} {key : UInt64} :
      s.publishes p = .aborting slot key → s.mutexHolder = none →
      FrameSlotStep ring s quiet ({ s with mutexHolder := some p }.setPhase p (givingBack slot key))
  | givesBack {p : Nat} {slot : SlotIndex} {key : UInt64} : s.publishes p = .givingBack slot key →
      FrameSlotStep ring s (gaveBack p slot (if s.publication.enabled then key else 0))
        ((s.setOwner slot
          (.released (if s.publication.enabled then key else 0))).setPhase p leaving)
  /-- The slot stays with the producer. -/
  | releaseFails {p : Nat} : (s.publishes p).holdsMutex = true →
      FrameSlotStep ring s quiet (s.setPhase p leaving)
  | leaves {p : Nat} : s.publishes p = .leaving →
      FrameSlotStep ring s quiet ({ s with mutexHolder := none }.setPhase p ended)
  | consumes {slot : SlotIndex} : (s.slots slot).owner = .released 1 →
      FrameSlotStep ring s (consumed slot) (s.setOwner slot .consumer)
  | returns {slot : SlotIndex} : (s.slots slot).owner = .consumer →
      FrameSlotStep ring s (returned slot) (s.setOwner slot (.released 0))
  | retires : s.mutexHolder = none →
      FrameSlotStep ring s retired { s with publication := s.publication.disable }

/-! ## What the calls may rely on -/

/-- The pixels and the metadata of the slot are those of the call. -/
structure FrameRingProducerResources.Wrote (ring : FrameRingProducerResources) (slot : FrameSlot)
    (p : Nat) : Prop where
  pixels : slot.pixels = some p
  writer : slot.metadataWriter = some p
  metadata : ∃ sequence capturedQpc, slot.metadata = ring.slotMetadata sequence capturedQpc

/-- The pixels and the metadata of the slot are those of one call on the ring. -/
def FrameRingProducerResources.WholeFrame (ring : FrameRingProducerResources) (slot : FrameSlot) :
    Prop :=
  ∃ p, ring.Wrote slot p

/-- No call gives a slot that it has copied into back with key 1. -/
def KeepsFrame (s : FrameSlots) (e : FrameSlotEvent) : Prop :=
  ∀ p slot, e = gaveBack p slot 1 → (s.slots slot).pixels ≠ some p

namespace FrameSlots

variable {ring : FrameRingProducerResources} {kept : Prop} {s s' t : FrameSlots} {p q : Nat}
  {slot : SlotIndex} {content : FrameSlot} {phase : PublishPhase}

/-- No slot has metadata of the call. -/
def Unwritten (s : FrameSlots) (p : Nat) : Prop := ∀ slot, (s.slots slot).metadataWriter ≠ some p

/-- The call has the slot, which it took with the key, and has written no metadata.  Under `kept`
the slot still has the frame it had at key 1, unless the call has copied over it. -/
structure Holds (ring : FrameRingProducerResources) (kept : Prop) (s : FrameSlots) (p : Nat)
    (slot : SlotIndex) (key : UInt64) : Prop where
  owner : (s.slots slot).owner = .producer p
  unwritten : s.Unwritten p
  whole : kept → key = 1 → (s.slots slot).pixels ≠ some p → ring.WholeFrame (s.slots slot)

end FrameSlots

open FrameSlots

/-- What a call may rely on when it is this far. -/
def PublishPhase.Sound (ring : FrameRingProducerResources) (kept : Prop) (s : FrameSlots)
    (p : Nat) :
    PublishPhase → Prop
  | .notBegun | .looking _ | .acquiring _ | .reclaiming _ => s.Unwritten p
  | .acquired slot key | .captured slot key _ | .aborting slot key => s.Holds ring kept p slot key
  | .copied slot key _ => s.Holds ring kept p slot key ∧ (s.slots slot).pixels = some p
  | .givingBack slot key => s.Holds ring kept p slot key ∧ s.mutexHolder = some p
  | .locked slot key _ =>
    s.Holds ring kept p slot key ∧ (s.slots slot).pixels = some p ∧ s.mutexHolder = some p
  | .admitted slot key _ | .sequenced slot key _ _ =>
    s.Holds ring kept p slot key ∧ (s.slots slot).pixels = some p ∧ s.mutexHolder = some p ∧
      s.publication.enabled = true
  | .written slot =>
    (s.slots slot).owner = .producer p ∧ ring.Wrote (s.slots slot) p ∧ s.mutexHolder = some p ∧
      s.publication.enabled = true
  | .leaving => s.mutexHolder = some p
  | .ended => True

namespace FrameSlots

variable {ring : FrameRingProducerResources} {kept : Prop} {s s' t : FrameSlots} {p q : Nat}
  {slot : SlotIndex} {content : FrameSlot} {phase : PublishPhase} {e : FrameSlotEvent}

/-- Every call finds what it relies on, and under `kept` a slot that may be consumed holds one
frame. -/
structure Sound (ring : FrameRingProducerResources) (kept : Prop) (s : FrameSlots) : Prop where
  calls : ∀ p, (s.publishes p).Sound ring kept s p
  consumable : kept → ∀ slot, (s.slots slot).owner = .released 1 → ring.WholeFrame (s.slots slot)

theorem Sound.start : Sound ring kept {} where
  calls _ _ := nofun
  consumable _ _ howner := by cases howner

/-! ### Steps of the others -/

/-- Nothing has changed that the call has or has locked. -/
structure Undisturbed (s s' : FrameSlots) (q : Nat) : Prop where
  slots : ∀ slot, (s.slots slot).owner = .producer q → s'.slots slot = s.slots slot
  mutex : s.mutexHolder = some q →
    s'.mutexHolder = some q ∧ s'.publication.enabled = s.publication.enabled
  unwritten : s.Unwritten q → s'.Unwritten q

theorem Undisturbed.holds (hundisturbed : Undisturbed s s' q) {key : UInt64}
    (h : s.Holds ring kept q slot key) : s'.Holds ring kept q slot key := by
  have hslot := hundisturbed.slots slot h.owner
  refine ⟨?_, hundisturbed.unwritten h.unwritten, ?_⟩
  · rw [hslot]
    exact h.owner
  · rw [hslot]
    exact h.whole

theorem Undisturbed.sound (hundisturbed : Undisturbed s s' q) (h : phase.Sound ring kept s q) :
    phase.Sound ring kept s' q := by
  cases phase with
  | notBegun | looking | acquiring | reclaiming => exact hundisturbed.unwritten h
  | acquired | captured | aborting => exact hundisturbed.holds h
  | copied =>
    obtain ⟨hholds, hpixels⟩ := h
    refine ⟨hundisturbed.holds hholds, ?_⟩
    rw [hundisturbed.slots _ hholds.owner]
    exact hpixels
  | givingBack => exact ⟨hundisturbed.holds h.1, (hundisturbed.mutex h.2).1⟩
  | locked =>
    obtain ⟨hholds, hpixels, hmutex⟩ := h
    refine ⟨hundisturbed.holds hholds, ?_, (hundisturbed.mutex hmutex).1⟩
    rw [hundisturbed.slots _ hholds.owner]
    exact hpixels
  | admitted | sequenced =>
    obtain ⟨hholds, hpixels, hmutex, henabled⟩ := h
    refine ⟨hundisturbed.holds hholds, ?_, (hundisturbed.mutex hmutex).1,
      (hundisturbed.mutex hmutex).2.trans henabled⟩
    rw [hundisturbed.slots _ hholds.owner]
    exact hpixels
  | written =>
    obtain ⟨howner, hwrote, hmutex, henabled⟩ := h
    rw [PublishPhase.Sound, hundisturbed.slots _ howner]
    exact ⟨howner, hwrote, (hundisturbed.mutex hmutex).1,
      (hundisturbed.mutex hmutex).2.trans henabled⟩
  | leaving => exact (hundisturbed.mutex h).1
  | ended => trivial

theorem undisturbed_setPhase : Undisturbed s (s.setPhase p phase) q where
  slots _ _ := rfl
  mutex hmutex := ⟨hmutex, rfl⟩
  unwritten := id

/-- Whoever has the slot, the frame is the same. -/
theorem wholeFrame_withOwner {owner : SlotOwner} (h : ring.WholeFrame content) :
    ring.WholeFrame { content with owner } :=
  h.imp fun _ hwrote ↦ ⟨hwrote.pixels, hwrote.writer, hwrote.metadata⟩

theorem unwritten_setSlot
    (hwriter : content.metadataWriter = some q → (s.slots slot).metadataWriter = some q)
    (h : s.Unwritten q) : (s.setSlot slot content).Unwritten q := by
  intro slot'
  rw [setSlot]
  dsimp only
  rw [Function.update_apply]
  split_ifs
  · exact fun hcontent ↦ h slot (hwriter hcontent)
  · exact h slot'

/-- A slot changes that the call does not have. -/
theorem undisturbed_setSlot (howner : (s.slots slot).owner ≠ .producer q)
    (hwriter : content.metadataWriter = some q → (s.slots slot).metadataWriter = some q) :
    Undisturbed s (s.setSlot slot content) q where
  slots slot' howner' := by
    have hne : slot' ≠ slot := by
      rintro rfl
      exact howner howner'
    exact Function.update_of_ne hne _ _
  mutex hmutex := ⟨hmutex, rfl⟩
  unwritten := unwritten_setSlot hwriter

/-- The lock or the gate changes, which the call does not hold. -/
theorem undisturbed_mutex (hmutex : s.mutexHolder ≠ some q) {mutexHolder : Option Nat}
    {publication : FrameRingPublication} : Undisturbed s { s with mutexHolder, publication } q where
  slots _ _ := rfl
  mutex hholder := absurd hholder hmutex
  unwritten := id

/-! ### Steps of a call -/

/-- A step of a call that changes the slots or the gate under the eyes of the others. -/
theorem Sound.call (h : s.Sound ring kept) (hsame : t.publishes = s.publishes)
    (hothers : ∀ q, q ≠ p → Undisturbed s t q)
    (hslots : kept → ∀ slot, (t.slots slot).owner = .released 1 → ring.WholeFrame (t.slots slot))
    (hphase : phase.Sound ring kept t p) : (t.setPhase p phase).Sound ring kept where
  calls q := by
    have hlookup : (t.setPhase p phase).publishes q = if q = p then phase else s.publishes q := by
      rw [← hsame]
      exact Function.update_apply ..
    rw [hlookup]
    split_ifs with hq
    · subst hq
      exact undisturbed_setPhase.sound hphase
    · exact undisturbed_setPhase.sound ((hothers q hq).sound (h.calls q))
  consumable := hslots

theorem Sound.setPhase (h : s.Sound ring kept) (hphase : phase.Sound ring kept s p) :
    (s.setPhase p phase).Sound ring kept :=
  h.call rfl (fun _ _ ↦ ⟨fun _ _ ↦ rfl, fun hmutex ↦ ⟨hmutex, rfl⟩, id⟩) h.consumable hphase

theorem consumable_setSlot (h : s.Sound ring kept)
    (hcontent : kept → content.owner = .released 1 → ring.WholeFrame content) (hkept : kept)
    (slot' : SlotIndex) (howner : ((s.setSlot slot content).slots slot').owner = .released 1) :
    ring.WholeFrame ((s.setSlot slot content).slots slot') := by
  rw [setSlot] at howner ⊢
  dsimp only at howner ⊢
  rw [Function.update_apply] at howner ⊢
  split_ifs at howner ⊢
  · exact hcontent hkept howner
  · exact h.consumable hkept slot' howner

/-- A step of a call that changes a slot that no other call has. -/
theorem Sound.setSlot (h : s.Sound ring kept)
    (howner : ∀ q, q ≠ p → (s.slots slot).owner ≠ .producer q)
    (hwriter : ∀ q, q ≠ p → content.metadataWriter = some q →
      (s.slots slot).metadataWriter = some q)
    (hcontent : kept → content.owner = .released 1 → ring.WholeFrame content)
    (hphase : phase.Sound ring kept (s.setSlot slot content) p) :
    ((s.setSlot slot content).setPhase p phase).Sound ring kept :=
  h.call rfl (fun q hq ↦ undisturbed_setSlot (howner q hq) (hwriter q hq))
    (consumable_setSlot h hcontent) hphase

/-- The call releases its slot, or takes one that was released. -/
theorem Sound.setOwner (h : s.Sound ring kept)
    (howner : ∀ q, q ≠ p → (s.slots slot).owner ≠ .producer q) {owner : SlotOwner}
    (hwhole : kept → owner = .released 1 → ring.WholeFrame (s.slots slot))
    (hphase : phase.Sound ring kept (s.setOwner slot owner) p) :
    ((s.setOwner slot owner).setPhase p phase).Sound ring kept :=
  h.setSlot howner (fun _ _ ↦ id)
    (fun hkept hreleased ↦ wholeFrame_withOwner (hwhole hkept hreleased)) hphase

theorem not_producer_of_producer (h : (s.slots slot).owner = .producer p) :
    ∀ q, q ≠ p → (s.slots slot).owner ≠ .producer q := by
  rintro q hq howner
  rw [h] at howner
  cases howner
  exact hq rfl

theorem not_producer_of_released {key : UInt64} (h : (s.slots slot).owner = .released key) :
    ∀ q, q ≠ p → (s.slots slot).owner ≠ .producer q := by
  rintro q _ howner
  rw [h] at howner
  cases howner

theorem slots_setSlot_self : (s.setSlot slot content).slots slot = content :=
  Function.update_self ..

/-- The call acquires a released slot. -/
theorem Sound.acquire (h : s.Sound ring kept) (hunwritten : s.Unwritten p) {key : UInt64}
    (howner : (s.slots slot).owner = .released key) :
    ((s.setOwner slot (.producer p)).setPhase p (acquired slot key)).Sound ring kept := by
  refine h.setOwner (not_producer_of_released howner) (fun _ hreleased ↦ by cases hreleased)
    ⟨?_, ?_, ?_⟩
  · rw [FrameSlots.setOwner, slots_setSlot_self]
  · exact unwritten_setSlot id hunwritten
  · intro hkept hkey _
    rw [FrameSlots.setOwner, slots_setSlot_self]
    exact wholeFrame_withOwner (h.consumable hkept slot (howner.trans (congrArg _ hkey)))

/-- A step of the consumer. -/
theorem Sound.consumer (h : s.Sound ring kept) {owner : SlotOwner}
    (howner : ∀ q, (s.slots slot).owner ≠ .producer q) (hreleased : owner ≠ .released 1) :
    (s.setOwner slot owner).Sound ring kept where
  calls q := by
    have hundisturbed : Undisturbed s (s.setOwner slot owner) q :=
      undisturbed_setSlot (howner q) id
    exact hundisturbed.sound (h.calls q)
  consumable := consumable_setSlot h fun _ howner ↦ absurd howner hreleased

theorem Sound.mutexHolder (h : s.Sound ring kept) (hholds : (s.publishes p).holdsMutex = true) :
    s.mutexHolder = some p := by
  have hphase := h.calls p
  cases hp : s.publishes p <;> rw [hp] at hphase hholds <;>
    first
    | exact absurd hholds Bool.false_ne_true
    | exact hphase
    | exact hphase.2
    | exact hphase.2.2
    | exact hphase.2.2.1

theorem nextSequence_enabled {sequence : UInt64} {publication : FrameRingPublication}
    (h : s.nextSequence = some (sequence, publication)) :
    publication.enabled = s.publication.enabled := by
  rw [nextSequence] at h
  split_ifs at h
  rw [FrameRingPublication.nextSequence] at h
  split_ifs at h
  cases h
  rfl

/-- What a step keeps. -/
theorem Sound.step (h : s.Sound ring kept) (hstep : FrameSlotStep ring s e s')
    (hkept : kept → KeepsFrame s e) : s'.Sound ring kept := by
  have hcall {p : Nat} {phase : PublishPhase} (hp : s.publishes p = phase) :
      phase.Sound ring kept s p :=
    hp ▸ h.calls p
  have hunlocked {q : Nat} (hmutex : s.mutexHolder = none) : s.mutexHolder ≠ some q := by
    rw [hmutex]
    exact Option.some_ne_none q |>.symm
  have hlocked {p q : Nat} (hmutex : s.mutexHolder = some p) (hq : q ≠ p) :
      s.mutexHolder ≠ some q := by
    rw [hmutex]
    exact fun hsame ↦ hq (Option.some_inj.mp hsame).symm
  cases hstep with
  | refused | drops | cancelledLooking | acquireFails => exact h.setPhase trivial
  | begins hp | looks hp | timesOut hp | passes hp =>
    have hphase := hcall hp
    exact h.setPhase hphase
  | acquires hp howner => exact h.acquire (hcall hp) howner
  | reclaims hp howner => exact h.acquire (hcall hp) howner
  | cancelledAcquired hp | clockFails hp | captures hp =>
    have hphase := hcall hp
    exact h.setPhase hphase
  | @copies p slot key qpc hp =>
    have hholds := hcall hp
    refine h.setSlot (not_producer_of_producer hholds.owner) (fun _ _ ↦ id)
      (fun _ hreleased ↦ ?_) ⟨⟨?_, ?_, ?_⟩, ?_⟩
    · rw [hholds.owner] at hreleased
      cases hreleased
    · rw [slots_setSlot_self]
      exact hholds.owner
    · exact unwritten_setSlot id hholds.unwritten
    · rw [slots_setSlot_self]
      exact fun _ _ hpixels ↦ absurd rfl hpixels
    · rw [slots_setSlot_self]
  | deviceRemoved hp => exact h.setPhase (hcall hp).1
  | locks hp hmutex =>
    obtain ⟨hholds, hpixels⟩ := hcall hp
    exact h.call rfl (fun _ _ ↦ undisturbed_mutex (hunlocked hmutex)) h.consumable
      ⟨⟨hholds.owner, hholds.unwritten, hholds.whole⟩, hpixels, rfl⟩
  | cancelledLocked hp _ =>
    obtain ⟨hholds, -, hmutex⟩ := hcall hp
    exact h.setOwner (not_producer_of_producer hholds.owner)
      (fun _ hreleased ↦ absurd hreleased (by decide)) hmutex
  | admits hp henabled =>
    obtain ⟨hholds, hpixels, hmutex⟩ := hcall hp
    exact h.setPhase ⟨hholds, hpixels, hmutex, henabled⟩
  | sequences hp hnext =>
    obtain ⟨hholds, hpixels, hmutex, henabled⟩ := hcall hp
    exact h.call rfl (fun _ hq ↦ undisturbed_mutex (hlocked hmutex hq)) h.consumable
      ⟨⟨hholds.owner, hholds.unwritten, hholds.whole⟩, hpixels, hmutex,
        (nextSequence_enabled hnext).trans henabled⟩
  | @sequenceExhausted p slot key qpc hp _ =>
    obtain ⟨hholds, -, hmutex, -⟩ := hcall hp
    refine h.setOwner (not_producer_of_producer hholds.owner) (fun hkeeps hreleased ↦ ?_) hmutex
    cases hreleased
    exact hholds.whole hkeeps rfl (hkept hkeeps p slot rfl)
  | @writes p slot key qpc sequence hp =>
    obtain ⟨hholds, hpixels, hmutex, henabled⟩ := hcall hp
    refine h.setSlot (not_producer_of_producer hholds.owner) (fun q hq hwriter ↦ ?_)
      (fun _ hreleased ↦ ?_) ⟨?_, ?_, hmutex, henabled⟩
    · exact absurd (Option.some_inj.mp hwriter).symm hq
    · rw [hholds.owner] at hreleased
      cases hreleased
    · rw [slots_setSlot_self]
      exact hholds.owner
    · rw [slots_setSlot_self]
      exact ⟨hpixels, rfl, sequence, qpc, rfl⟩
  | @publishes p slot hp =>
    obtain ⟨howner, hwrote, hmutex, -⟩ := hcall hp
    exact h.setOwner (not_producer_of_producer howner) (fun _ _ ↦ ⟨p, hwrote⟩) hmutex
  | locksToGiveBack hp hmutex =>
    have hholds := hcall hp
    exact h.call rfl (fun _ _ ↦ undisturbed_mutex (hunlocked hmutex)) h.consumable
      ⟨⟨hholds.owner, hholds.unwritten, hholds.whole⟩, rfl⟩
  | @givesBack p slot key hp =>
    obtain ⟨hholds, hmutex⟩ := hcall hp
    refine h.setOwner (not_producer_of_producer hholds.owner) (fun hkeeps hreleased ↦ ?_) hmutex
    have hkeeps' := hkept hkeeps p slot
    split_ifs at hreleased hkeeps' with henabled
    · cases hreleased
      exact hholds.whole hkeeps rfl (hkeeps' rfl)
    · exact absurd hreleased (by decide)
  | releaseFails hholds => exact h.setPhase (h.mutexHolder hholds)
  | leaves hp =>
    exact h.call rfl (fun _ hq ↦ undisturbed_mutex (hlocked (hcall hp) hq)) h.consumable trivial
  | consumes howner =>
    refine h.consumer (fun q hproducer ↦ ?_) SlotOwner.noConfusion
    rw [howner] at hproducer
    cases hproducer
  | returns howner =>
    refine h.consumer (fun q hproducer ↦ ?_) (by decide)
    rw [howner] at hproducer
    cases hproducer
  | retires hmutex =>
    exact ⟨fun q ↦ (undisturbed_mutex (hunlocked hmutex)).sound (h.calls q), h.consumable⟩

/-! ### Releases to the consumer -/

/-- A step that lets the consumer have a slot finds the ring live. -/
theorem Sound.enabled_of_release (h : s.Sound ring kept) (hstep : FrameSlotStep ring s e s')
    (hrelease : e.release? = some (slot, 1)) : s.publication.enabled = true := by
  have hcall {p : Nat} {phase : PublishPhase} (hp : s.publishes p = phase) :
      phase.Sound ring kept s p :=
    hp ▸ h.calls p
  cases hstep with
  | publishes hp => exact (hcall hp).2.2.2
  | sequenceExhausted hp _ => exact (hcall hp).2.2.2
  | @givesBack p slot key hp =>
    by_contra hretired
    rw [if_neg hretired] at hrelease
    cases hrelease
  | _ => cases hrelease

/-- A slot that is given back against the condition may be consumed and holds no whole frame. -/
theorem Sound.mixed (h : s.Sound ring kept) (hstep : FrameSlotStep ring s e s')
    (hmixes : ¬KeepsFrame s e) :
    ∃ slot, (s'.slots slot).owner = .released 1 ∧ s'.publication.enabled = true ∧
      ¬ring.WholeFrame (s'.slots slot) := by
  rw [KeepsFrame] at hmixes
  push Not at hmixes
  obtain ⟨p, slot, rfl, hpixels⟩ := hmixes
  have henabled := h.enabled_of_release hstep rfl
  have hmixed (hunwritten : s.Unwritten p) :
      ((s.setOwner slot (.released 1)).slots slot).owner = .released 1 ∧
        ¬ring.WholeFrame ((s.setOwner slot (.released 1)).slots slot) := by
    rw [FrameSlots.setOwner, slots_setSlot_self]
    refine ⟨rfl, ?_⟩
    rintro ⟨q, hwrote⟩
    have hq : p = q := Option.some_inj.mp (hpixels.symm.trans hwrote.pixels)
    subst hq
    exact hunwritten slot hwrote.writer
  have hcall {p : Nat} {phase : PublishPhase} (hp : s.publishes p = phase) :
      phase.Sound ring kept s p :=
    hp ▸ h.calls p
  generalize he : gaveBack p slot 1 = e at hstep
  cases hstep with
  | cancelledLocked => cases he
  | sequenceExhausted hp _ =>
    cases he
    exact ⟨slot, (hmixed (hcall hp).1.unwritten).1, henabled, (hmixed (hcall hp).1.unwritten).2⟩
  | @givesBack p' slot' key hp =>
    rw [if_pos henabled] at he ⊢
    cases he
    exact ⟨slot, (hmixed (hcall hp).1.unwritten).1, henabled, (hmixed (hcall hp).1.unwritten).2⟩
  | _ => cases he

theorem disabled_of_step (hstep : FrameSlotStep ring s e s')
    (hretired : s.publication.enabled = false) : s'.publication.enabled = false := by
  cases hstep with
  | sequences _ hnext => exact (nextSequence_enabled hnext).trans hretired
  | retires => rfl
  | _ => exact hretired

end FrameSlots

/-! ## Runs -/

/-- One of the states that steps under the condition lead to. -/
inductive FrameSlotRun (ring : FrameRingProducerResources)
    (ok : FrameSlots → FrameSlotEvent → Prop) (start : FrameSlots) : FrameSlots → Prop
  | nil : FrameSlotRun ring ok start start
  | step {s s' : FrameSlots} {e : FrameSlotEvent} (run : FrameSlotRun ring ok start s)
      (meets : ok s e) (step : FrameSlotStep ring s e s') : FrameSlotRun ring ok start s'

namespace FrameSlotRun

variable {ring : FrameRingProducerResources} {kept : Prop} {start s s' : FrameSlots}
  {ok : FrameSlots → FrameSlotEvent → Prop}

theorem sound (hok : kept → ∀ s e, ok s e → KeepsFrame s e) (hstart : start.Sound ring kept)
    (hrun : FrameSlotRun ring ok start s) : s.Sound ring kept := by
  induction hrun with
  | nil => exact hstart
  | step _ hmeets hstep ih => exact ih.step hstep fun hkept ↦ hok hkept _ _ hmeets

theorem disabled (hstart : start.publication.enabled = false)
    (hrun : FrameSlotRun ring ok start s) : s.publication.enabled = false := by
  induction hrun with
  | nil => exact hstart
  | step _ _ hstep ih => exact disabled_of_step hstep ih

end FrameSlotRun

/-- Any step will do. -/
abbrev AnyFrameSlotStep : FrameSlots → FrameSlotEvent → Prop := fun _ _ ↦ True

/-- **The slot protocol.**  Where no call gives back with key 1 a slot that it has copied into, a
consumer finds in the slot that it acquires the pixels and the metadata of one call on the ring; a
step that does give such a slot back lets the consumer have one with the pixels of one call and the
metadata of another.  In any case no slot is released to key 1 once the ring has been retired. -/
theorem frameSlots_protocol (ring : FrameRingProducerResources) :
    (∀ (s s' : FrameSlots) (slot : SlotIndex), FrameSlotRun ring KeepsFrame {} s →
        FrameSlotStep ring s (consumed slot) s' → ring.WholeFrame (s.slots slot)) ∧
      (∀ (s s' : FrameSlots) (e : FrameSlotEvent), FrameSlotRun ring AnyFrameSlotStep {} s →
        FrameSlotStep ring s e s' → ¬KeepsFrame s e →
          ∃ slot, (s'.slots slot).owner = .released 1 ∧ s'.publication.enabled = true ∧
            ¬ring.WholeFrame (s'.slots slot)) ∧
      ∀ (s s' t t' : FrameSlots) (e : FrameSlotEvent) (slot : SlotIndex),
        FrameSlotRun ring AnyFrameSlotStep {} s → FrameSlotStep ring s retired s' →
          FrameSlotRun ring AnyFrameSlotStep s' t → FrameSlotStep ring t e t' →
            e.release? ≠ some (slot, 1) := by
  refine ⟨fun s s' slot hrun hstep ↦ ?_, fun s s' e hrun hstep ↦ ?_,
    fun s s' t t' e slot hrun hretires hlater hstep hrelease ↦ ?_⟩
  · have hsound := hrun.sound (fun _ _ _ ↦ id) (@Sound.start ring True)
    cases hstep with
    | consumes howner => exact hsound.consumable trivial slot howner
  · exact (hrun.sound False.elim Sound.start).mixed hstep
  · have hsound := hrun.sound False.elim Sound.start
    have hretired : s'.publication.enabled = false := by
      cases hretires
      rfl
    have hlater' := hlater.sound False.elim (hsound.step hretires False.elim)
    have henabled := hlater'.enabled_of_release hstep hrelease
    rw [hlater.disabled hretired] at henabled
    cases henabled

/-- The second call reclaims the slot of the first, copies over its frame and finds the device
removed. -/
theorem givenBack_mixes_frames :
    ¬∀ (ring : FrameRingProducerResources) (s s' : FrameSlots) (slot : SlotIndex),
      FrameSlotRun ring AnyFrameSlotStep {} s → FrameSlotStep ring s (consumed slot) s' →
        s.publication.enabled = true → ring.WholeFrame (s.slots slot) := by
  intro h
  have hfirst := @FrameSlotRun.nil {} AnyFrameSlotStep {}
    |>.step trivial (.begins (p := 0) rfl rfl)
    |>.step trivial (@FrameSlotStep.looks _ _ 0 0 rfl rfl)
    |>.step trivial (@FrameSlotStep.acquires _ _ 0 0 rfl rfl)
    |>.step trivial (@FrameSlotStep.captures _ _ 0 0 0 1 rfl rfl (by decide))
    |>.step trivial (@FrameSlotStep.copies _ _ 0 0 0 1 rfl)
    |>.step trivial (@FrameSlotStep.locks _ _ 0 0 0 1 rfl rfl)
    |>.step trivial (@FrameSlotStep.admits _ _ 0 0 0 1 rfl rfl)
    |>.step trivial (@FrameSlotStep.sequences _ _ 0 0 0 1 1 _ rfl rfl)
    |>.step trivial (@FrameSlotStep.writes _ _ 0 0 0 1 1 rfl)
    |>.step trivial (@FrameSlotStep.publishes _ _ 0 0 rfl)
    |>.step trivial (.leaves (p := 0) rfl)
  have hsecond := hfirst
    |>.step trivial (.begins (p := 1) rfl rfl)
    |>.step trivial (@FrameSlotStep.looks _ _ 1 0 rfl rfl)
    |>.step trivial (@FrameSlotStep.timesOut _ _ 1 0 rfl (by decide))
    |>.step trivial (@FrameSlotStep.reclaims _ _ 1 0 rfl rfl)
    |>.step trivial (@FrameSlotStep.captures _ _ 1 0 1 2 rfl rfl (by decide))
    |>.step trivial (@FrameSlotStep.copies _ _ 1 0 1 2 rfl)
    |>.step trivial (@FrameSlotStep.deviceRemoved _ _ 1 0 1 2 rfl)
    |>.step trivial (@FrameSlotStep.locksToGiveBack _ _ 1 0 1 rfl rfl)
    |>.step trivial (@FrameSlotStep.givesBack _ _ 1 0 1 rfl)
  obtain ⟨p, hwrote⟩ := h _ _ _ 0 hsecond (.consumes rfl) rfl
  have hpixels : some 1 = some p := hwrote.pixels
  have hwriter : some 0 = some p := hwrote.writer
  exact absurd (hpixels.trans hwriter.symm) (by decide)

end VirtualDisplay
