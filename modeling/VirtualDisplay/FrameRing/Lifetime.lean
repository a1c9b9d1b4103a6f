import VirtualDisplay.LeaseStore.Changes

/-!
# The rings registered for the displays

`FrameRingLifetime` keeps, for each display, the ring its frames go to, together with who
registered it.  A producer works on a snapshot of the entry, and a snapshot may outlive it: what
stops the producer then is the publication gate, which the entry and all its snapshots share.

The gates are therefore kept outside the entries, in the order in which they were made, and an
entry or a snapshot holds a `PublicationRef`, the place of its gate in that list.

Rings are registered and looked up on behalf of the owner of the display, which the store decides;
every function that asks the store takes it as an argument.

## What is here

* `authorized`, `FrameRingOwner` — the owner of a display, as the store has it, against the one who
  asks.
* `retirePublication`, `retireEntry`, `retireRing`, `retireDisplay`, `retireUnavailable` — how a
  ring goes; each of them disables the gate before it drops the entry.
* `replaceRing`, `registerRing`, `clearRing`, `snapshot` — the functions that processes ask for.
* `FrameRingOp`, `FrameRings.execute` — any sequence of calls, with operations of the store in
  between.

The resources of a ring are a parameter, since nothing looks into them.
-/

set_option autoImplicit false

namespace VirtualDisplay

open Std

/-! ## Gates, owners and snapshots -/

/-- The gate the holders of one ring share, with the number of the last frame published. -/
structure FrameRingPublication where
  enabled : Bool := true
  sequence : UInt64 := 0
  deriving DecidableEq, Repr, Inhabited

namespace FrameRingPublication

/-- A gate that has been closed stays closed. -/
def disable (publication : FrameRingPublication) : FrameRingPublication :=
  { publication with enabled := false }

/-- The number of the next frame, while the last one has not been given out. -/
def nextSequence (publication : FrameRingPublication) : Option (UInt64 × FrameRingPublication) :=
  if publication.sequence < 0xffffffffffffffff - 1 then
    some (publication.sequence + 1, { publication with sequence := publication.sequence + 1 })
  else none

end FrameRingPublication

/-- A shared pointer to a gate. -/
abbrev PublicationRef := Nat

/-- Who a ring is for: a display under its lease, as it is in this generation, and the capability to
see its pixels. -/
structure FrameRingOwner where
  display : LeaseDisplayRequest := {}
  displayGeneration : UInt64 := 0
  capability : OwnerCapability := {}
  deriving DecidableEq, Repr, Inhabited

/-- How a registration ends. -/
inductive FrameRingRegistrationStatus where
  | success
  | ownerUnavailable
  | invalidResources
  | generationExhausted
  deriving DecidableEq, Repr, Inhabited

/-- The generation of a ring that has been registered. -/
structure FrameRingRegistrationResult where
  status : FrameRingRegistrationStatus := .success
  ringGeneration : UInt64 := 0
  deriving DecidableEq, Repr, Inhabited

/-- What a publisher is handed: the textures of a ring and the gate that it has to pass; it keeps
both as long as it likes. -/
structure FrameRingSnapshot (Resources : Type) where
  displayGeneration : UInt64 := 0
  ringGeneration : UInt64 := 0
  resources : Option Resources := none
  publication : Option PublicationRef := none
  deriving DecidableEq, Repr, Inhabited

/-- A ring that is in use, with the owner it was registered for, whose right to it is looked at
again whenever a publisher asks for it. -/
structure FrameRingEntry (Resources : Type) where
  owner : FrameRingOwner
  snapshot : FrameRingSnapshot Resources
  deriving DecidableEq, Repr, Inhabited

/-- The rings that are in use, one for a display at most, and the gates of all rings there have
been. -/
structure FrameRingLifetime (Resources : Type) where
  rings : OrdMap UInt64 (FrameRingEntry Resources) := ∅
  nextRingGeneration : UInt64 := 1
  publications : List FrameRingPublication := []

namespace FrameRingLifetime

variable {Resources : Type}

/-! ## The operations -/

/-- The owner may have the ring now: the store knows the display under the lease and the capability,
and it is still the display of this generation. -/
def authorized (store : DisplayStore) (owner : FrameRingOwner) (now : TimePoint) : Bool :=
  (store.authorizeTemporaryDisplayOwner owner.display owner.capability now).any fun display ↦
    owner.displayGeneration != 0 && display.generation == owner.displayGeneration

/-- The gate is there and enabled. -/
def gateEnabled (l : FrameRingLifetime Resources) (publication : PublicationRef) : Bool :=
  (l.publications[publication]?).any FrameRingPublication.enabled

/-- The gate is open. -/
def canPublish (l : FrameRingLifetime Resources) (snapshot : FrameRingSnapshot Resources) : Bool :=
  snapshot.publication.any l.gateEnabled

/-- The gate of a snapshot is closed. -/
def retirePublication (l : FrameRingLifetime Resources) (snapshot : FrameRingSnapshot Resources) :
    FrameRingLifetime Resources :=
  match snapshot.publication with
  | some publication =>
    { l with publications := l.publications.modify publication FrameRingPublication.disable }
  | none => l

/-- How every retirement ends: the gate is disabled and the entry dropped. -/
def retireEntry (l : FrameRingLifetime Resources) (displayId : UInt64)
    (entry : FrameRingEntry Resources) : FrameRingLifetime Resources :=
  { l.retirePublication entry.snapshot with rings := l.rings.erase displayId }

/-- A ring ends if it is the one of these generations. -/
def retireRing (l : FrameRingLifetime Resources)
    (displayId displayGeneration ringGeneration : UInt64) : FrameRingLifetime Resources × Bool :=
  match l.rings[displayId]? with
  | none => (l, false)
  | some entry =>
    if entry.snapshot.displayGeneration ≠ displayGeneration ∨
        entry.snapshot.ringGeneration ≠ ringGeneration then (l, false)
    else (l.retireEntry displayId entry, true)

/-- The ring of a display ends, whichever it is, if the display is of this generation. -/
def retireDisplay (l : FrameRingLifetime Resources) (displayId displayGeneration : UInt64) :
    FrameRingLifetime Resources × Bool :=
  match l.rings[displayId]? with
  | none => (l, false)
  | some entry =>
    if entry.snapshot.displayGeneration ≠ displayGeneration then (l, false)
    else (l.retireEntry displayId entry, true)

/-- All rings end. -/
def reset (l : FrameRingLifetime Resources) : FrameRingLifetime Resources :=
  { l.rings.toList.foldl (fun l entry ↦ l.retirePublication entry.2.snapshot) l with rings := ∅ }

/-- One pass of the loop of `retireUnavailable`. -/
def retireIfUnavailable (store : DisplayStore) (now : TimePoint)
    (l : FrameRingLifetime Resources) (entry : UInt64 × FrameRingEntry Resources) :
    FrameRingLifetime Resources :=
  if authorized store entry.2.owner now then l else l.retireEntry entry.1 entry.2

/-- The rings end whose owners may no longer have them. -/
def retireUnavailable (l : FrameRingLifetime Resources) (store : DisplayStore) (now : TimePoint) :
    FrameRingLifetime Resources × Nat :=
  (l.rings.toList.foldl (retireIfUnavailable store now) l,
    l.rings.toList.countP fun entry ↦ !authorized store entry.2.owner now)

/-- The tail of `register_ring`: the gate of a ring the display already has is disabled, and the
new entry takes its place. -/
def replaceRing (l : FrameRingLifetime Resources) (owner : FrameRingOwner)
    (resources : Option Resources) : FrameRingLifetime Resources × FrameRingRegistrationResult :=
  let displayId := owner.display.displayId
  let generation := l.nextRingGeneration
  let l :=
    match l.rings[displayId]? with
    | some previous => l.retirePublication previous.snapshot
    | none => l
  let snapshot :=
    { displayGeneration := owner.displayGeneration
      ringGeneration := generation
      resources
      publication := some l.publications.length }
  ({ rings := l.rings.insert displayId { owner, snapshot }
     nextRingGeneration := l.nextRingGeneration + 1
     publications := l.publications ++ [{}] },
    { status := .success, ringGeneration := generation })

/-- A registration: the owner must be authorized, and the ring of before ends with those that are
unavailable. -/
def registerRing (l : FrameRingLifetime Resources) (store : DisplayStore) (owner : FrameRingOwner)
    (resources : Option Resources) (now : TimePoint) :
    FrameRingLifetime Resources × FrameRingRegistrationResult :=
  if !authorized store owner now then (l, { status := .ownerUnavailable })
  else if resources.isNone then (l, { status := .invalidResources })
  else if l.nextRingGeneration = 0 then (l, { status := .generationExhausted })
  else (l.retireUnavailable store now).1.replaceRing owner resources

/-- The owner's ring ends, as long as the owner is authorized. -/
def clearRing (l : FrameRingLifetime Resources) (store : DisplayStore) (owner : FrameRingOwner)
    (ringGeneration : UInt64) (now : TimePoint) : FrameRingLifetime Resources × Bool :=
  if authorized store owner now then
    l.retireRing owner.display.displayId owner.displayGeneration ringGeneration
  else (l, false)

/-- What a publisher is handed for a display; a ring whose owner may no longer have it ends here. -/
def snapshot (l : FrameRingLifetime Resources) (store : DisplayStore)
    (displayId displayGeneration : UInt64) (now : TimePoint) :
    FrameRingLifetime Resources × FrameRingSnapshot Resources :=
  match l.rings[displayId]? with
  | none => (l, {})
  | some entry =>
    if entry.owner.displayGeneration ≠ displayGeneration then (l, {})
    else if !authorized store entry.owner now then (l.retireEntry displayId entry, {})
    else (l, entry.snapshot)

end FrameRingLifetime

/-! ## The rings next to the store -/

/-- A call of the lifetime service. -/
inductive FrameRingOp (Resources : Type) where
  | registerRing (owner : FrameRingOwner) (resources : Option Resources) (now : TimePoint)
  | clearRing (owner : FrameRingOwner) (ringGeneration : UInt64) (now : TimePoint)
  | snapshot (displayId displayGeneration : UInt64) (now : TimePoint)
  | retireRing (displayId displayGeneration ringGeneration : UInt64)
  | retireDisplay (displayId displayGeneration : UInt64)
  | retireUnavailable (now : TimePoint)
  | reset

open FrameRingLifetime in

/-- One operation of the rings. -/
def FrameRingOp.apply {Resources : Type} (store : DisplayStore) (l : FrameRingLifetime Resources) :
    FrameRingOp Resources → FrameRingLifetime Resources
  | registerRing owner resources now => (l.registerRing store owner resources now).1
  | clearRing owner ringGeneration now => (l.clearRing store owner ringGeneration now).1
  | snapshot displayId displayGeneration now =>
    (l.snapshot store displayId displayGeneration now).1
  | retireRing displayId displayGeneration ringGeneration =>
    (l.retireRing displayId displayGeneration ringGeneration).1
  | retireDisplay displayId displayGeneration => (l.retireDisplay displayId displayGeneration).1
  | retireUnavailable now => (l.retireUnavailable store now).1
  | reset => l.reset

/-- The store, and the rings that are registered for its displays. -/
structure FrameRings (Resources : Type) where
  store : DisplayStore
  lifetime : FrameRingLifetime Resources := {}

/-- An operation of the store or of the rings. -/
inductive FrameRingEvent (Resources : Type) where
  | store (op : StoreOp)
  | rings (op : FrameRingOp Resources)

namespace FrameRings

variable {Resources : Type}

/-- One event. -/
def apply (s : FrameRings Resources) : FrameRingEvent Resources → FrameRings Resources
  | .store op => { s with store := op.apply s.store }
  | .rings op => { s with lifetime := op.apply s.store s.lifetime }

/-- A run of events. -/
def execute (s : FrameRings Resources) (events : List (FrameRingEvent Resources)) :
    FrameRings Resources :=
  events.foldl apply s

end FrameRings

end VirtualDisplay
