import VirtualDisplay.FrameRing.Lifetime

/-!
# The frame ring server

`FrameRingServer` answers the processes that want to receive the frames of a display.  A request to
register a ring carries handles of the requesting process, which an importer turns into resources,
and a client cookie, which grows with each request of that process; the server remembers, in an
entry for the display, the last request it has taken and what it has replied.  The entry stays when
its ring goes, so that a request that comes late, or twice, finds that its cookie has been used.

The importer is native code outside this development.  A registration takes it as an argument, any
function from the peer and the request to an `ImportOutcome`.

## What is here

* `validFrameRingRequest`, `validFrameRingClearRequest` — the shape of a request: slots, size,
  handles and a cookie that is not zero.
* `knownAnswer` — a request that has been answered is answered from its entry, one with a cookie
  that has been passed is refused.
* `importRing`, `registerRing`, `clearRing`, `reap`, `reset` — the entry points, with the table of
  the rings below them.
* `FrameTransport`, `FrameTransportEvent`, `FrameTransport.execute` — the server together with the
  store, and any sequence of events of both.

Handles are numbers here, and importing them has no effect on the server other than its outcome.
-/

set_option autoImplicit false

namespace VirtualDisplay

open Std

/-! ## Requests and replies -/

/-- The textures of a ring. -/
abbrev kFrameRingSlotCount : Nat := 4

/-- The version of the pipe's messages. -/
def kFrameRingWireVersion : UInt32 := 1

/-- The size of the page that the two sides share beside the textures. -/
def kFrameRingMetadataBytes : UInt32 := 4096

/-- A consumer's request to have the frames of a display written into its textures, which it names
by handles of its own process. -/
structure FrameRingRegisterRequest where
  apiNamespace : Guid := kApiNamespaceGuid
  version : UInt32 := kFrameRingWireVersion
  size : UInt32 := 176
  leaseId : UInt64 := 0
  displayId : UInt64 := 0
  displayGeneration : UInt64 := 0
  clientCookie : UInt64 := 0
  ownerCapability : OwnerCapability := {}
  adapterLuid : AdapterLuid := {}
  width : UInt32 := 0
  height : UInt32 := 0
  format : UInt32 := 0
  colorSpace : UInt32 := 0
  slotCount : UInt32 := kFrameRingSlotCount.toUInt32
  metadataBytes : UInt32 := kFrameRingMetadataBytes
  textureHandles : Vector UInt64 kFrameRingSlotCount := Vector.replicate kFrameRingSlotCount 0
  metadataHandle : UInt64 := 0
  eventHandle : UInt64 := 0
  reserved : UInt64 := 0
  deriving DecidableEq, Repr, Inhabited

/-- The ring that a consumer has been given: its generation, under the cookie that the consumer has
chosen. -/
structure FrameRingReply where
  apiNamespace : Guid := kApiNamespaceGuid
  version : UInt32 := kFrameRingWireVersion
  size : UInt32 := 48
  clientCookie : UInt64 := 0
  displayGeneration : UInt64 := 0
  ringGeneration : UInt64 := 0
  deriving DecidableEq, Repr, Inhabited

/-- A consumer's request to give a ring up, or to take back a request whose reply it has not seen.
-/
structure FrameRingClearRequest where
  identity : FrameRingReply := {}
  leaseId : UInt64 := 0
  displayId : UInt64 := 0
  ownerCapability : OwnerCapability := {}
  flags : UInt32 := 0
  reserved : UInt32 := 0
  deriving DecidableEq, Repr, Inhabited

/-- The handles are sorted, so that the smallest, the largest and two equal ones are next to each
other. -/
def validFrameRingHandles (request : FrameRingRegisterRequest) : Bool :=
  let handles := (request.textureHandles.toList ++
    [request.metadataHandle, request.eventHandle]).insertionSort (· ≤ ·)
  handles.head? != some 0 && handles.getLast? != some 0xffffffffffffffff &&
    decide (handles.IsChain (· ≠ ·))

/-- The checks of a registration: its sizes, its handles, and one of the two formats with its color
space. -/
def validFrameRingRequest (request : FrameRingRegisterRequest) : Bool :=
  if !isValidApiNamespace request.apiNamespace ∨ request.version ≠ kFrameRingWireVersion ∨
      request.size ≠ 176 ∨ request.leaseId = 0 ∨ request.displayId = 0 ∨
      request.displayGeneration = 0 ∨ request.clientCookie = 0 ∨ request.width < kMinWidth ∨
      kMaxWidth < request.width ∨ request.height < kMinHeight ∨ kMaxHeight < request.height ∨
      request.slotCount ≠ kFrameRingSlotCount.toUInt32 ∨
      request.metadataBytes ≠ kFrameRingMetadataBytes ∨ request.metadataHandle = 0 ∨
      request.eventHandle = 0 ∨ request.reserved ≠ 0 ∨
      ¬(request.format = 87 ∧ request.colorSpace = 0 ∨
        request.format = 10 ∧ request.colorSpace = 1) then false
  else validFrameRingHandles request

/-- A request that is sent again is the same in every field. -/
def sameFrameRingRequest (a b : FrameRingRegisterRequest) : Bool :=
  a.apiNamespace == b.apiNamespace && a.version == b.version && a.size == b.size &&
    a.leaseId == b.leaseId && a.displayId == b.displayId &&
    a.displayGeneration == b.displayGeneration && a.clientCookie == b.clientCookie &&
    a.ownerCapability == b.ownerCapability &&
    a.adapterLuid.lowPart == b.adapterLuid.lowPart &&
    a.adapterLuid.highPart == b.adapterLuid.highPart &&
    a.width == b.width && a.height == b.height && a.format == b.format &&
    a.colorSpace == b.colorSpace && a.slotCount == b.slotCount &&
    a.metadataBytes == b.metadataBytes && a.textureHandles == b.textureHandles &&
    a.metadataHandle == b.metadataHandle && a.eventHandle == b.eventHandle &&
    a.reserved == b.reserved

/-- The process behind the pipe; when it was started tells it apart from a later one of its id. -/
structure FrameRequestPeer where
  processId : UInt64 := 0
  processStart : UInt64 := 0
  deriving DecidableEq, Repr, Inhabited

/-- The process is known. -/
def FrameRequestPeer.valid (peer : FrameRequestPeer) : Bool :=
  peer.processId != 0 && peer.processStart != 0

/-- What comes of an import: a pointer, which may be null, or an exception. -/
inductive ImportOutcome (Resources : Type) where
  | returned (resources : Option Resources)
  | threw
  deriving DecidableEq, Repr, Inhabited

/-- An importer that throws has imported nothing. -/
def ImportOutcome.resources {Resources : Type} : ImportOutcome Resources → Option Resources
  | returned resources => resources
  | threw => none

/-- What opens the handles of a request. -/
abbrev FrameResourceImporter (Resources : Type) :=
  FrameRequestPeer → FrameRingRegisterRequest → ImportOutcome Resources

/-- How a request ends. -/
inductive FrameWireStatus where
  | success
  | invalidInput
  | unauthorized
  | importFailed
  | staleGeneration
  deriving DecidableEq, Repr, Inhabited

/-- The answer to a registration. -/
structure FrameWireResult where
  status : FrameWireStatus := .invalidInput
  reply : FrameRingReply := {}
  deriving DecidableEq, Repr, Inhabited

/-! ## The server -/

/-- A ring with the process and the request that it is for; the reply is empty once the ring is
gone. -/
structure FrameRingServerEntry where
  peer : FrameRequestPeer
  request : FrameRingRegisterRequest
  reply : FrameRingReply := {}
  deriving DecidableEq, Repr, Inhabited

/-- The server with the rings it registers. -/
structure FrameRingServer (Resources : Type) where
  rings : FrameRingLifetime Resources := {}
  entries : OrdMap UInt64 FrameRingServerEntry := ∅

/-- The owner whom the lifetime of the ring is tied to. -/
def ownerFor (request : FrameRingRegisterRequest) : FrameRingOwner where
  display := { leaseId := request.leaseId, displayId := request.displayId }
  displayGeneration := request.displayGeneration
  capability := request.ownerCapability

namespace FrameRingServer

variable {Resources : Type}

/-- The store authorizes the owner of the request, for the display generation it names. -/
def authorizes (store : DisplayStore) (request : FrameRingRegisterRequest) (now : TimePoint) :
    Bool :=
  (store.authorizeTemporaryDisplayOwner (ownerFor request).display (ownerFor request).capability
    now).any (·.generation == request.displayGeneration)

/-- The lifetime of a ring ends. -/
def retireRing (s : FrameRingServer Resources)
    (displayId displayGeneration ringGeneration : UInt64) : FrameRingServer Resources :=
  { s with rings := (s.rings.retireRing displayId displayGeneration ringGeneration).1 }

/-! ### Reaping -/

/-- One pass of the loop of `reap`. -/
def reapEntry (store : DisplayStore) (now : TimePoint) (s : FrameRingServer Resources)
    (i : UInt64 × FrameRingServerEntry) : FrameRingServer Resources :=
  let request := i.2.request
  if !authorizes store request now then
    let s := s.retireRing i.1 request.displayGeneration i.2.reply.ringGeneration
    { s with entries := s.entries.erase i.1 }
  else if i.2.reply.ringGeneration ≠ 0 then
    let (rings, snapshot) := s.rings.snapshot store i.1 request.displayGeneration now
    if !rings.canPublish snapshot ∨ snapshot.ringGeneration ≠ i.2.reply.ringGeneration then
      { s with rings, entries := s.entries.insert i.1 { i.2 with reply := {} } }
    else { s with rings }
  else s

/-- Rings end whose owners may no longer have them. -/
def reap (s : FrameRingServer Resources) (store : DisplayStore) (now : TimePoint) :
    FrameRingServer Resources × Nat :=
  (s.entries.toList.foldl (reapEntry store now) s,
    s.entries.toList.countP fun i ↦ !authorizes store i.2.request now)

/-- All rings end; who had them is still known. -/
def reset (s : FrameRingServer Resources) : FrameRingServer Resources :=
  let s := s.entries.toList.foldl (fun s i ↦
    s.retireRing i.1 i.2.request.displayGeneration i.2.reply.ringGeneration) s
  { s with entries := s.entries.map fun _ entry ↦ { entry with reply := {} } }

/-! ### Registering -/

/-- What a request is answered without an import, given the entry of its display: it may be of
another process, a repetition, or late. -/
def knownAnswer (old : Option FrameRingServerEntry) (peer : FrameRequestPeer)
    (request : FrameRingRegisterRequest) : Option FrameWireResult :=
  match old with
  | none => none
  | some old =>
    if old.peer ≠ peer then some { status := .unauthorized }
    else if request.clientCookie ≤ old.request.clientCookie then
      if request.clientCookie = old.request.clientCookie ∧ old.reply.ringGeneration ≠ 0 ∧
          sameFrameRingRequest old.request request then
        some { status := .success, reply := old.reply }
      else some { status := .staleGeneration }
    else none

/-- The tail of `register_ring`, once the request is one to import.  Its entry is written first,
so that the cookie is used up whatever comes of the import. -/
def importRing (s : FrameRingServer Resources) (store : DisplayStore) (peer : FrameRequestPeer)
    (request : FrameRingRegisterRequest) (now : TimePoint)
    (importer : FrameResourceImporter Resources) :
    FrameRingServer Resources × FrameWireResult :=
  let displayId := request.displayId
  let previous := s.entries[displayId]?.getD { peer, request }
  let s := { s with entries := s.entries.insert displayId { peer, request } }
  let retirePrevious (s : FrameRingServer Resources) :=
    s.retireRing displayId previous.request.displayGeneration previous.reply.ringGeneration
  match (importer peer request).resources with
  | none => (retirePrevious s, { status := .importFailed })
  | some resources =>
    let (rings, registered) := s.rings.registerRing store (ownerFor request) (some resources) now
    let s := { s with rings }
    if registered.status ≠ .success then (retirePrevious s, { status := .unauthorized })
    else
      let reply : FrameRingReply :=
        { clientCookie := request.clientCookie
          displayGeneration := request.displayGeneration
          ringGeneration := registered.ringGeneration }
      ({ s with entries := s.entries.insert displayId { peer, request, reply } },
        { status := .success, reply })

/-- A registration: one that is sent again is answered as before, one with an old cookie is refused,
and a new one replaces the ring of before. -/
def registerRing (s : FrameRingServer Resources) (store : DisplayStore) (peer : FrameRequestPeer)
    (request : FrameRingRegisterRequest) (now : TimePoint)
    (importer : FrameResourceImporter Resources) :
    FrameRingServer Resources × FrameWireResult :=
  if !peer.valid ∨ !validFrameRingRequest request then (s, {})
  else if !authorizes store request now then (s, { status := .unauthorized })
  else
    let s := (s.reap store now).1
    match knownAnswer s.entries[request.displayId]? peer request with
    | some result => (s, result)
    | none => s.importRing store peer request now importer

/-- The request reaches the importer. -/
def imports (s : FrameRingServer Resources) (store : DisplayStore) (peer : FrameRequestPeer)
    (request : FrameRingRegisterRequest) (now : TimePoint) : Bool :=
  peer.valid && validFrameRingRequest request && authorizes store request now &&
    (knownAnswer (s.reap store now).1.entries[request.displayId]? peer request).isNone

/-! ### Clearing and cancelling -/

/-- The checks of a clear request, where a ring is named unless a request is taken back. -/
def validFrameRingClearRequest (request : FrameRingClearRequest) : Bool :=
  request.reserved == 0 && request.flags ≤ 1 &&
    isValidApiNamespace request.identity.apiNamespace &&
    request.identity.version == kFrameRingWireVersion && request.identity.size == 48 &&
    request.identity.clientCookie != 0 && request.identity.displayGeneration != 0 &&
    (if request.flags = 1 then request.identity.ringGeneration == 0
      else request.identity.ringGeneration != 0)

/-- The registration a clear or a cancellation speaks of. -/
def cancelledRequest (request : FrameRingClearRequest) : FrameRingRegisterRequest where
  leaseId := request.leaseId
  displayId := request.displayId
  displayGeneration := request.identity.displayGeneration
  clientCookie := request.identity.clientCookie
  ownerCapability := request.ownerCapability

/-- The tail of `clear_ring`, with the entry of the display. -/
def clearEntry (s : FrameRingServer Resources) (peer : FrameRequestPeer)
    (request : FrameRingClearRequest) (entry : FrameRingServerEntry) :
    FrameRingServer Resources × FrameWireStatus :=
  if entry.peer ≠ peer ∨ entry.request.ownerCapability ≠ request.ownerCapability ∨
      entry.request.leaseId ≠ request.leaseId then (s, .unauthorized)
  else if request.identity.clientCookie < entry.request.clientCookie ∨
      request.identity.displayGeneration ≠ entry.request.displayGeneration then
    (s, .staleGeneration)
  else if request.flags = 0 ∧ (request.identity.clientCookie ≠ entry.request.clientCookie ∨
      request.identity.ringGeneration ≠ entry.reply.ringGeneration) then (s, .staleGeneration)
  else
    let s :=
      if entry.reply.ringGeneration ≠ 0 then
        s.retireRing request.displayId entry.request.displayGeneration entry.reply.ringGeneration
      else s
    let cleared :=
      { entry with
        request := { entry.request with clientCookie := request.identity.clientCookie }
        reply := {} }
    ({ s with entries := s.entries.insert request.displayId cleared }, .success)

/-- The end of a ring that its owner asks for. -/
def clearRing (s : FrameRingServer Resources) (store : DisplayStore) (peer : FrameRequestPeer)
    (request : FrameRingClearRequest) (now : TimePoint) :
    FrameRingServer Resources × FrameWireStatus :=
  if !peer.valid ∨ !validFrameRingClearRequest request then (s, .invalidInput)
  else if !authorizes store (cancelledRequest request) now then (s, .unauthorized)
  else
    let s := (s.reap store now).1
    match s.entries[request.displayId]? with
    | none =>
      if request.flags ≠ 1 then (s, .staleGeneration)
      else
        ({ s with
            entries := s.entries.insert request.displayId
              { peer, request := cancelledRequest request } },
          .success)
    | some entry => s.clearEntry peer request entry

end FrameRingServer

/-! ## The server next to the store -/

/-- The store, and the server that registers rings for its displays. -/
structure FrameTransport (Resources : Type) where
  store : DisplayStore
  server : FrameRingServer Resources := {}

/-- The operation only ends rings. -/
def FrameRingOp.isRetirement {Resources : Type} : FrameRingOp Resources → Bool
  | registerRing .. => false
  | _ => true

/-- All rings are registered through the server: of the calls to the lifetime service itself there
are only those that retire rings. -/
inductive FrameTransportEvent (Resources : Type) where
  | store (op : StoreOp)
  | retire (op : FrameRingOp Resources) (isRetirement : op.isRetirement = true)
  | registerRing (peer : FrameRequestPeer) (request : FrameRingRegisterRequest) (now : TimePoint)
    (importer : FrameResourceImporter Resources)
  | clearRing (peer : FrameRequestPeer) (request : FrameRingClearRequest) (now : TimePoint)
  | reap (now : TimePoint)
  | reset

namespace FrameTransport

variable {Resources : Type}

/-- One event. -/
def apply (s : FrameTransport Resources) : FrameTransportEvent Resources → FrameTransport Resources
  | .store op => { s with store := op.apply s.store }
  | .retire op _ => { s with server.rings := op.apply s.store s.server.rings }
  | .registerRing peer request now importer =>
    { s with server := (s.server.registerRing s.store peer request now importer).1 }
  | .clearRing peer request now =>
    { s with server := (s.server.clearRing s.store peer request now).1 }
  | .reap now => { s with server := (s.server.reap s.store now).1 }
  | .reset => { s with server := s.server.reset }

/-- A run of events. -/
def execute (s : FrameTransport Resources) (events : List (FrameTransportEvent Resources)) :
    FrameTransport Resources :=
  events.foldl apply s

end FrameTransport

end VirtualDisplay
