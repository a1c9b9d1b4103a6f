import VirtualDisplay.Controller.Rejections
import VirtualDisplay.Ioctl.Requests

/-!
# The ioctl dispatcher

`IoctlDispatcher::dispatch` (`ioctl_dispatcher.cpp`) reads the request from the input buffer, has
the controller serve it, and writes the result into the output buffer.  A controller call gives up
the controller lock around its backend calls, and so does the dispatch that has made it;
`dispatcher` is the dispatch as a `SlotCalls.Program`, on top of the controller's.

The dispatcher checks the output buffer before it makes a call that changes anything, since a result
that could not be written would be lost.  `dispatch_outcome` says what that comes to: a dispatch
that refuses its buffers or its request has had no effect.

## What is here

* `IoctlFunction.code`, `find_code` — the control codes, packed as the header packs them; no two
  functions share one.
* `dispatchFunction` — the switch, with a case for each function in the order of the source.
* `dispatchFunction_inl`, `dispatchFunction_inr` — a dispatch answers at once, or makes a controller
  call; in the second case it has made sure that its result can be written.
* `ends_of_carried` — a dispatch goes on with its controller call and ends with it.
* `OutcomeFits` — the output of a dispatch has the size that its caller has provided.

The dispatcher keeps no state.  Two dispatches interleave as their controller calls do, and
`dispatch_outcome` speaks of any such run.
-/

set_option autoImplicit false

namespace VirtualDisplay

open Std SlotCalls

/-! ## Codes -/

/-- What the driver can be asked for. -/
inductive IoctlFunction where
  | getProtocolVersion
  | createTemporaryDisplay
  | removeTemporaryDisplay
  | feedLease
  | releaseLease
  | queryLease
  | setPermanentDisplayCount
  | queryPermanentDisplayCount
  | queryDisplayState
  | setDisplayManifest
  | queryDisplayManifest
  | setRenderAdapter
  | createTemporaryDisplayOwned
  | reclaimTemporaryDisplay
  | queryFrameTransportCapabilities
  | queryFrameTransportTarget
  deriving DecidableEq, Repr

/-- What a handle must be open for. -/
inductive IoctlAccess where
  | any
  | read
  | write
  | readWrite
  deriving DecidableEq, Repr

/-- The number of a function in its code. -/
def IoctlFunction.number : IoctlFunction → UInt32
  | getProtocolVersion => 0x900
  | createTemporaryDisplay => 0x901
  | removeTemporaryDisplay => 0x902
  | feedLease => 0x903
  | releaseLease => 0x904
  | queryLease => 0x905
  | setPermanentDisplayCount => 0x906
  | queryPermanentDisplayCount => 0x907
  | queryDisplayState => 0x908
  | setDisplayManifest => 0x909
  | queryDisplayManifest => 0x90a
  | setRenderAdapter => 0x90b
  | createTemporaryDisplayOwned => 0x90c
  | reclaimTemporaryDisplay => 0x90d
  | queryFrameTransportCapabilities => 0x90e
  | queryFrameTransportTarget => 0x911

/-- The bits of an access in a code. -/
def IoctlAccess.number : IoctlAccess → UInt32
  | any => 0
  | read => 1
  | write => 2
  | readWrite => 3

/-- The access the code of a function asks for. -/
def IoctlFunction.access : IoctlFunction → IoctlAccess
  | getProtocolVersion => .any
  | queryLease | queryPermanentDisplayCount | queryDisplayState | queryDisplayManifest
  | queryFrameTransportCapabilities | queryFrameTransportTarget => .read
  | setRenderAdapter => .write
  | createTemporaryDisplay | removeTemporaryDisplay | feedLease | releaseLease
  | setPermanentDisplayCount | setDisplayManifest | createTemporaryDisplayOwned
  | reclaimTemporaryDisplay => .readWrite

/-- `CTL_CODE` for buffered calls. -/
def ioctlCode (function : IoctlFunction) (access : IoctlAccess) : UInt32 :=
  ((0x00000022 : UInt32) <<< 16) ||| (access.number <<< 14) ||| (function.number <<< 2)

/-- The code of a function. -/
def IoctlFunction.code (function : IoctlFunction) : UInt32 := ioctlCode function function.access

/-- The functions the dispatcher has a case for. -/
def dispatchedFunctions : List IoctlFunction :=
  [.queryFrameTransportCapabilities, .getProtocolVersion, .createTemporaryDisplay,
    .removeTemporaryDisplay, .feedLease, .releaseLease, .queryLease, .setPermanentDisplayCount,
    .queryPermanentDisplayCount, .queryDisplayState, .setDisplayManifest, .queryDisplayManifest,
    .createTemporaryDisplayOwned, .reclaimTemporaryDisplay, .setRenderAdapter]

/-! ## Requests and results -/

/-- How a dispatch ends. -/
inductive IoctlStatus where
  | success
  | invalidIoctl
  | invalidInputBuffer
  | invalidOutputBuffer
  | invalidRequest
  | alreadyExists
  | limitReached
  | notFound
  | backendFailed
  deriving DecidableEq, Repr

/-- The arguments of a dispatch.  A pointer that is null has no bytes behind it. -/
structure IoctlRequest where
  ioctlCode : UInt32
  input : Option Image
  inputSize : Nat
  hasOutput : Bool
  outputSize : Nat
  now : TimePoint
  deriving DecidableEq

/-- What a dispatch returns beside the bytes of its output buffer. -/
structure IoctlDispatchResult where
  status : IoctlStatus := .success
  bytesReturned : Nat := 0
  controllerStatus : ControllerStatus := {}
  deriving DecidableEq

/-- What a dispatch returns, and what it has put into the output buffer. -/
structure IoctlOutcome where
  result : IoctlDispatchResult
  written : Option IoctlOutput := none
  deriving DecidableEq

/-- The status of a controller call: an error of the backend comes before one of the checks, and
that before one of the store. -/
def statusFromController (status : ControllerStatus) : IoctlStatus :=
  if status.backendError ≠ .none then .backendFailed
  else if status.validationError = .permanentDisplayCountTooHigh then .limitReached
  else if status.validationError ≠ .none then .invalidRequest
  else
    match status.storeError with
    | .none => .success
    | .validationFailed => .invalidRequest
    | .temporaryDisplayLimitReached | .permanentDisplayCountTooHigh => .limitReached
    | .displayAlreadyExists | .duplicateDisplayIdentity => .alreadyExists
    | .leaseNotFound | .displayNotFound => .notFound

/-- The outcome of a controller call that returns nothing but its status. -/
def resultFromController (status : ControllerStatus) : IoctlOutcome where
  result := { status := statusFromController status, controllerStatus := status }

/-- An early return. -/
def refused (status : IoctlStatus) : IoctlOutcome where
  result := { status }

namespace IoctlRequest

/-- The request, if the input buffer is large enough for one. -/
def readInput (request : IoctlRequest) (T : Type) [Pod T] : Option T :=
  match request.input with
  | none => none
  | some image => if request.inputSize < Pod.byteSize T then none else some (Pod.load image 0)

/-- There is an output buffer of at least this size. -/
def hasRoom (request : IoctlRequest) (byteSize : Nat) : Bool :=
  request.hasOutput && byteSize ≤ request.outputSize

/-- A success, with the value written if there is room for it. -/
def succeeded (request : IoctlRequest) (value : IoctlOutput) : IoctlOutcome :=
  if request.hasRoom value.byteSize then
    { result := { bytesReturned := value.byteSize }, written := some value }
  else { result := {} }

/-- The answer to a question, if there is room for it. -/
def answered (request : IoctlRequest) (value : IoctlOutput) : IoctlOutcome :=
  if request.hasRoom value.byteSize then request.succeeded value else refused .invalidOutputBuffer

end IoctlRequest

/-! ## Dispatching -/

/-- A dispatch whose controller call has given up the lock. -/
structure DispatchFrame where
  request : IoctlRequest
  function : IoctlFunction
  frame : Frame
  deriving DecidableEq

/-- The store, and where a dispatch goes on. -/
abbrev DispatchTurn := DisplayStore × Next DispatchFrame IoctlOutcome

namespace Ioctl

/-- On from the return of the controller call. -/
def finished (s : DisplayStore) (request : IoctlRequest) (function : IoctlFunction)
    (result : ControllerResult) : IoctlOutcome :=
  if !result.toStatus.ok then resultFromController result.toStatus
  else
    match function, result with
    | .createTemporaryDisplay, .create _ created
    | .createTemporaryDisplayOwned, .create _ created =>
      request.succeeded (.createTemporaryDisplay created)
    | .reclaimTemporaryDisplay, .reclaim _ reclaimed =>
      request.succeeded (.reclaimTemporaryDisplay reclaimed)
    | .setPermanentDisplayCount, .status _ =>
      request.succeeded (.permanentDisplayCount s.queryPermanentDisplayCount)
    | .setDisplayManifest, .status _ => request.succeeded (.displayManifest s.displayManifest)
    | _, _ => resultFromController result.toStatus

/-- A dispatch goes as far as its controller call does. -/
def carried (request : IoctlRequest) (function : IoctlFunction) (turn : Controller.Turn) :
    DispatchTurn :=
  match turn with
  | (s, .yield frame) => (s, .yield { request, function, frame })
  | (s, .done result) => (s, .done (finished s request function result))

section

-- The build has the frame transport.
variable (frameTransport : Bool)

/-- What the build can do. -/
def frameTransportCapabilities : FrameTransportCapabilities :=
  if frameTransport then
    { capabilities := kFrameTransportCapabilityKeyedMutexRing
      maxRingSlots := kFrameRingSlotCount.toUInt32 }
  else {}

/-- The cases of the switch: an answer, or the controller call to make. -/
def dispatchFunction (s : DisplayStore) (request : IoctlRequest) :
    IoctlFunction → IoctlOutcome ⊕ ControllerOp
  | .queryFrameTransportCapabilities =>
    if request.inputSize ≠ 0 then .inl (refused .invalidInputBuffer)
    else
      .inl (request.answered
        (.frameTransportCapabilities (frameTransportCapabilities frameTransport)))
  | .getProtocolVersion => .inl (request.answered (.protocolVersion {}))
  | .createTemporaryDisplay =>
    match request.readInput CreateTemporaryDisplayRequest with
    | none => .inl (refused .invalidInputBuffer)
    | some create =>
      if !request.hasRoom kCreateTemporaryDisplayResultSize then .inl (refused .invalidOutputBuffer)
      else .inr (.createTemporaryDisplay create request.now)
  | .removeTemporaryDisplay =>
    match request.readInput LeaseDisplayRequest with
    | none => .inl (refused .invalidInputBuffer)
    | some remove => .inr (.removeTemporaryDisplay remove)
  | .feedLease =>
    match request.readInput LeaseRequest with
    | none => .inl (refused .invalidInputBuffer)
    | some lease => .inr (.feedLease lease request.now)
  | .releaseLease =>
    match request.readInput LeaseRequest with
    | none => .inl (refused .invalidInputBuffer)
    | some lease => .inr (.releaseLease lease)
  | .queryLease =>
    match request.readInput LeaseRequest with
    | none => .inl (refused .invalidInputBuffer)
    | some lease =>
      match validateLeaseRequest lease with
      | .none => .inl (request.answered (.queryLease (s.queryLease lease.leaseId request.now)))
      | error =>
        .inl
          { result :=
              { status := .invalidRequest
                controllerStatus :=
                  { storeError := .validationFailed, validationError := error } } }
  | .setPermanentDisplayCount =>
    match request.readInput PermanentDisplayCountRequest with
    | none => .inl (refused .invalidInputBuffer)
    | some count =>
      if !request.hasRoom kPermanentDisplayCountResultSize then .inl (refused .invalidOutputBuffer)
      else .inr (.setPermanentDisplayCount count)
  | .queryPermanentDisplayCount =>
    .inl (request.answered (.permanentDisplayCount s.queryPermanentDisplayCount))
  | .queryDisplayState => .inl (request.answered (.displayState s.queryDisplayState))
  | .setDisplayManifest =>
    match request.readInput DisplayManifest with
    | none => .inl (refused .invalidInputBuffer)
    | some manifest =>
      if !request.hasRoom kDisplayManifestSize then .inl (refused .invalidOutputBuffer)
      else .inr (.applyDisplayManifest manifest)
  | .queryDisplayManifest => .inl (request.answered (.displayManifest s.displayManifest))
  | .createTemporaryDisplayOwned =>
    match request.readInput CreateTemporaryDisplayOwnedRequest with
    | none => .inl (refused .invalidInputBuffer)
    | some create =>
      if !request.hasRoom kCreateTemporaryDisplayResultSize then .inl (refused .invalidOutputBuffer)
      else .inr (.createTemporaryDisplayOwned create request.now)
  | .reclaimTemporaryDisplay =>
    match request.readInput ReclaimTemporaryDisplayRequest with
    | none => .inl (refused .invalidInputBuffer)
    | some reclaim =>
      if !request.hasRoom kReclaimTemporaryDisplayResultSize then
        .inl (refused .invalidOutputBuffer)
      else .inr (.reclaimTemporaryDisplay reclaim request.now)
  | .setRenderAdapter =>
    match request.readInput SetRenderAdapterRequest with
    | none => .inl (refused .invalidInputBuffer)
    | some adapter => .inr (.setRenderAdapter adapter)
  | .queryFrameTransportTarget => .inl (refused .invalidIoctl)

/-- A dispatch up to the first backend call of its controller call, or to its end. -/
def dispatch (s : DisplayStore) (request : IoctlRequest) : DispatchTurn :=
  match dispatchedFunctions.find? fun function ↦ function.code == request.ioctlCode with
  | none => (s, .done (refused .invalidIoctl))
  | some function =>
    match dispatchFunction frameTransport s request function with
    | .inl outcome => (s, .done outcome)
    | .inr op => carried request function (Controller.start s op)

end

/-- On from a backend call. -/
def resume (s : DisplayStore) (frame : DispatchFrame) (reply : BackendDisplayResult) :
    DispatchTurn :=
  carried frame.request frame.function (Controller.resume s frame.frame reply)

end Ioctl

/-- The dispatcher as calls that give up the controller lock around the backend's slot. -/
def dispatcher (frameTransport : Bool) :
    Program DisplayStore IoctlRequest DispatchFrame BackendDisplayResult IoctlOutcome where
  start := Ioctl.dispatch frameTransport
  resume := Ioctl.resume
  busy := { error := .busy }

/-! ## What a dispatch comes to -/

namespace IoctlStatus

/-- The statuses that refuse the code, a buffer or the request. -/
def refuses : IoctlStatus → Bool
  | invalidIoctl | invalidInputBuffer | invalidOutputBuffer | invalidRequest => true
  | _ => false

end IoctlStatus

/-- The size of the result type of a function, where it has one. -/
def IoctlFunction.resultSize : IoctlFunction → Option Nat
  | queryFrameTransportCapabilities => some 40
  | getProtocolVersion => some 24
  | createTemporaryDisplay | createTemporaryDisplayOwned => some kCreateTemporaryDisplayResultSize
  | queryLease => some 48
  | setPermanentDisplayCount | queryPermanentDisplayCount => some kPermanentDisplayCountResultSize
  | queryDisplayState => some 1696
  | setDisplayManifest | queryDisplayManifest => some kDisplayManifestSize
  | reclaimTemporaryDisplay => some kReclaimTemporaryDisplayResultSize
  | removeTemporaryDisplay | feedLease | releaseLease | setRenderAdapter
  | queryFrameTransportTarget => none

/-- A function is found under its own code. -/
theorem find_code (function : IoctlFunction) :
    (dispatchedFunctions.find? fun candidate ↦ candidate.code == function.code) =
      if function = .queryFrameTransportTarget then none else some function := by
  cases function <;> decide

theorem statusFromController_success {status : ControllerStatus}
    (h : statusFromController status = .success) : status.ok = true := by
  obtain ⟨storeError, validationError, backendError⟩ := status
  rw [statusFromController] at h
  split_ifs at h with hbackend hlimit hvalidation
  obtain rfl := not_not.mp hbackend
  obtain rfl := not_not.mp hvalidation
  cases storeError <;> first | rfl | cases h

theorem statusFromController_refuses {status : ControllerStatus}
    (h : (statusFromController status).refuses = true) : status.Invalid := by
  rw [statusFromController] at h
  split_ifs at h with hbackend hlimit hvalidation
  · cases h
  · cases h
  · exact .inr hvalidation
  · split at h
    · cases h
    · exact .inl ‹_›
    all_goals cases h

/-- What there is to say about an outcome: it has written nothing that does not fit, and a success
has written the result of its function. -/
structure OutcomeFits (request : IoctlRequest) (function : IoctlFunction)
    (outcome : IoctlOutcome) : Prop where
  unwritten : outcome.result.status ≠ .success → outcome.result.bytesReturned = 0
  fits : outcome.result.bytesReturned ≤ request.outputSize
  whole : outcome.result.status = .success → ∀ size, function.resultSize = some size →
    outcome.result.bytesReturned = size

namespace Ioctl

variable {request : IoctlRequest} {function : IoctlFunction}

theorem refused_fits {status : IoctlStatus} (h : status ≠ .success) :
    OutcomeFits request function (refused status) :=
  ⟨fun _ ↦ rfl, Nat.zero_le _, fun hsuccess ↦ absurd hsuccess h⟩

theorem succeeded_fits {value : IoctlOutput} (hroom : request.hasRoom value.byteSize = true)
    (hsize : function.resultSize = some value.byteSize) :
    OutcomeFits request function (request.succeeded value) := by
  rw [IoctlRequest.succeeded, if_pos hroom]
  rw [IoctlRequest.hasRoom, Bool.and_eq_true, decide_eq_true_eq] at hroom
  refine ⟨fun hfailed ↦ absurd rfl hfailed, hroom.2, fun _ size hsize' ↦ ?_⟩
  rw [hsize, Option.some_inj] at hsize'
  exact hsize'

theorem answered_fits {value : IoctlOutput} (hsize : function.resultSize = some value.byteSize) :
    OutcomeFits request function (request.answered value) := by
  rw [IoctlRequest.answered]
  split
  · exact succeeded_fits ‹_› hsize
  · exact refused_fits (by decide)

/-- The kind of controller call a function leads to, where it leads to one. -/
def IoctlFunction.callKind : IoctlFunction → Option CallKind
  | .createTemporaryDisplay | .createTemporaryDisplayOwned => some .create
  | .reclaimTemporaryDisplay => some .reclaim
  | .removeTemporaryDisplay | .feedLease | .releaseLease | .setPermanentDisplayCount
  | .setDisplayManifest | .setRenderAdapter => some .status
  | _ => none

/-- A dispatch that makes no controller call. -/
theorem dispatchFunction_inl {frameTransport : Bool} {s : DisplayStore} {outcome : IoctlOutcome}
    (h : dispatchFunction frameTransport s request function = .inl outcome) :
    OutcomeFits request function outcome := by
  cases function with
  | queryFrameTransportCapabilities =>
    rw [dispatchFunction] at h
    split at h
    · cases h
      exact refused_fits (by decide)
    · cases h
      exact answered_fits rfl
  | getProtocolVersion | queryPermanentDisplayCount | queryDisplayState | queryDisplayManifest =>
    cases h
    exact answered_fits rfl
  | queryFrameTransportTarget =>
    cases h
    exact refused_fits (by decide)
  | queryLease =>
    rw [dispatchFunction] at h
    split at h
    · cases h
      exact refused_fits (by decide)
    · split at h
      · cases h
        exact answered_fits rfl
      · cases h
        exact ⟨fun _ ↦ rfl, Nat.zero_le _, fun hsuccess ↦ by cases hsuccess⟩
  | removeTemporaryDisplay | feedLease | releaseLease | setRenderAdapter =>
    rw [dispatchFunction] at h
    split at h
    · cases h
      exact refused_fits (by decide)
    · cases h
  | _ =>
    rw [dispatchFunction] at h
    split at h
    · cases h
      exact refused_fits (by decide)
    · split at h
      · cases h
        exact refused_fits (by decide)
      · cases h

/-- A dispatch that makes a controller call has made sure that its result can be written. -/
theorem dispatchFunction_inr {frameTransport : Bool} {s : DisplayStore} {op : ControllerOp}
    (h : dispatchFunction frameTransport s request function = .inr op) :
    IoctlFunction.callKind function = some op.kind ∧
      ∀ size, function.resultSize = some size → request.hasRoom size = true := by
  cases function with
  | queryFrameTransportCapabilities =>
    rw [dispatchFunction] at h
    split at h <;> cases h
  | getProtocolVersion | queryPermanentDisplayCount | queryDisplayState | queryDisplayManifest
  | queryFrameTransportTarget => cases h
  | queryLease =>
    rw [dispatchFunction] at h
    split at h
    · cases h
    · split at h <;> cases h
  | removeTemporaryDisplay | feedLease | releaseLease | setRenderAdapter =>
    rw [dispatchFunction] at h
    split at h
    · cases h
    · cases h
      exact ⟨rfl, by rintro _ ⟨⟩⟩
  | _ =>
    rw [dispatchFunction] at h
    split at h
    · cases h
    · split at h
      · cases h
      · rename_i hroom
        cases h
        refine ⟨rfl, ?_⟩
        rintro _ ⟨⟩
        simpa using hroom

/-- What comes out of the controller call fits, and refuses the request only if the controller
did. -/
theorem finished_fits (s : DisplayStore) {result : ControllerResult}
    (hkind : IoctlFunction.callKind function = some result.kind)
    (hroom : ∀ size, function.resultSize = some size → request.hasRoom size = true) :
    OutcomeFits request function (finished s request function result) ∧
      ((finished s request function result).result.status.refuses = true →
        result.toStatus.Invalid) := by
  have hsucceeded {value : IoctlOutput} (hsize : function.resultSize = some value.byteSize) :
      OutcomeFits request function (request.succeeded value) ∧
        ((request.succeeded value).result.status.refuses = true → result.toStatus.Invalid) := by
    refine ⟨succeeded_fits (hroom _ hsize) hsize, fun hrefuses ↦ ?_⟩
    rw [IoctlRequest.succeeded] at hrefuses
    split at hrefuses <;> cases hrefuses
  have hreturned (hsize : statusFromController result.toStatus = .success →
      function.resultSize = none) :
      OutcomeFits request function (resultFromController result.toStatus) ∧
        ((resultFromController result.toStatus).result.status.refuses = true →
          result.toStatus.Invalid) := by
    refine ⟨⟨fun _ ↦ rfl, Nat.zero_le _, fun hsuccess size hsome ↦ ?_⟩,
      statusFromController_refuses⟩
    rw [hsize hsuccess] at hsome
    cases hsome
  rw [finished.eq_def]
  split
  · rename_i hfailed
    refine hreturned fun hsuccess ↦ ?_
    rw [statusFromController_success hsuccess] at hfailed
    cases hfailed
  · cases result with
    | create status created =>
      cases function with
      | createTemporaryDisplay | createTemporaryDisplayOwned =>
        refine hsucceeded ?_
        rfl
      | _ => cases hkind
    | reclaim status reclaimed =>
      cases function with
      | reclaimTemporaryDisplay =>
        refine hsucceeded ?_
        rfl
      | _ => cases hkind
    | status status =>
      cases function with
      | setPermanentDisplayCount | setDisplayManifest =>
        refine hsucceeded ?_
        rfl
      | removeTemporaryDisplay | feedLease | releaseLease | setRenderAdapter =>
        exact hreturned fun _ ↦ rfl
      | _ => cases hkind
    | reaped removed => cases function <;> cases hkind

/-- A dispatch ends where its controller call ends. -/
theorem ends_of_carried {frameTransport : Bool} {Other : DisplayStore → DisplayStore → Prop}
    {turn : Controller.Turn} {exchanged : List (DispatchFrame × BackendDisplayResult)}
    {final : DisplayStore} {outcome : IoctlOutcome}
    (h : Ends (dispatcher frameTransport) Other (carried request function turn) exchanged final
      outcome) :
    ∃ exchanged' result, Ends controller Other turn exchanged' final result ∧
      outcome = finished final request function result ∧
      exchanged = exchanged'.map fun exchange ↦
        ({ request, function, frame := exchange.1 }, exchange.2) := by
  generalize hcarried : carried request function turn = turn' at h
  induction h generalizing turn with
  | done =>
    obtain ⟨s, frame | result⟩ := turn
    · cases hcarried
    · cases hcarried
      exact ⟨[], result, .done, rfl, rfl⟩
  | @resumed locked changed final frame reply outcome exchanged hother hrest ih =>
    obtain ⟨s, frame' | result⟩ := turn
    · cases hcarried
      obtain ⟨exchanged', result, hends, hresult, rfl⟩ := ih rfl
      exact ⟨(frame', reply) :: exchanged', result, .resumed hother hends, hresult, rfl⟩
    · cases hcarried

end Ioctl

/-- **A dispatch that refuses its code, a buffer or its request has had no effect**, whatever other
calls have done while it had given up the lock, and one that succeeds has returned all of its
result. -/
theorem dispatch_outcome {frameTransport : Bool} {s final : DisplayStore} {request : IoctlRequest}
    {exchanged : List (DispatchFrame × BackendDisplayResult)} {outcome : IoctlOutcome}
    (h : Ends (dispatcher frameTransport) DisplayStore.Reaches
      (Ioctl.dispatch frameTransport s request) exchanged final outcome) :
    (outcome.result.status.refuses = true →
      exchanged = [] ∧ final = s ∧ outcome.result.bytesReturned = 0) ∧
    (outcome.result.status = .success →
      outcome.result.bytesReturned ≤ request.outputSize ∧
        ∀ (function : IoctlFunction) (size : Nat), function.code = request.ioctlCode →
          function.resultSize = some size → outcome.result.bytesReturned = size) := by
  have hrefused : IoctlStatus.refuses .success = false := rfl
  cases hfind : dispatchedFunctions.find? fun function ↦ function.code == request.ioctlCode with
  | none =>
    rw [Ioctl.dispatch, hfind] at h
    cases h
    exact ⟨fun _ ↦ ⟨rfl, rfl, rfl⟩, fun hsuccess ↦ by cases hsuccess⟩
  | some function =>
    -- Nothing is left to show but that the outcome fits the function of the code.
    suffices hfits : OutcomeFits request function outcome ∧
        (outcome.result.status.refuses = true → exchanged = [] ∧ final = s) by
      obtain ⟨hfits, heffect⟩ := hfits
      refine ⟨fun hrefuses ↦ ⟨(heffect hrefuses).1, (heffect hrefuses).2,
        hfits.unwritten fun hsuccess ↦ ?_⟩, fun hsuccess ↦ ⟨hfits.fits, ?_⟩⟩
      · rw [hsuccess, hrefused] at hrefuses
        cases hrefuses
      · intro function' size hcode hsize
        rw [← hcode, find_code] at hfind
        split at hfind
        · cases hfind
        · cases hfind
          exact hfits.whole hsuccess size hsize
    rw [Ioctl.dispatch, hfind] at h
    cases hfunction : Ioctl.dispatchFunction frameTransport s request function with
    | inl outcome' =>
      simp only [hfunction] at h
      cases h
      exact ⟨Ioctl.dispatchFunction_inl hfunction, fun _ ↦ ⟨rfl, rfl⟩⟩
    | inr op =>
      simp only [hfunction] at h
      obtain ⟨hkind, hroom⟩ := Ioctl.dispatchFunction_inr hfunction
      obtain ⟨exchanged', result, hends, rfl, rfl⟩ := Ioctl.ends_of_carried h
      rw [← controller_kind hends] at hkind
      obtain ⟨hfits, hinvalid⟩ := Ioctl.finished_fits final hkind hroom
      refine ⟨hfits, fun hrefuses ↦ ?_⟩
      obtain ⟨rfl, rfl⟩ := controller_refuses hends (hinvalid hrefuses)
      exact ⟨rfl, rfl⟩

/-- A request for a render adapter, without an output buffer. -/
def exampleAdapterRequest : IoctlRequest where
  ioctlCode := IoctlFunction.code .setRenderAdapter
  input := some ([0x84, 0x42, 0x86, 0xa2, 0xfe, 0x77, 0x36, 0x43,
    0xa8, 0x28, 0x00, 0xfe, 0xec, 0x89, 0xeb, 0xac] ++ List.replicate 16 0)
  inputSize := 32
  hasOutput := false
  outputSize := 0
  now := 0

/-- A question for the version of the protocol. -/
def exampleVersionRequest : IoctlRequest where
  ioctlCode := IoctlFunction.code .getProtocolVersion
  input := none
  inputSize := 0
  hasOutput := true
  outputSize := 64
  now := 0

/-- A dispatch of a function that the dispatcher has a case for. -/
theorem Ioctl.dispatch_of_code {request : IoctlRequest} {function : IoctlFunction}
    (hcode : request.ioctlCode = function.code)
    (hcase : function ≠ .queryFrameTransportTarget) (frameTransport : Bool) (s : DisplayStore) :
    Ioctl.dispatch frameTransport s request =
      match Ioctl.dispatchFunction frameTransport s request function with
      | .inl outcome => (s, .done outcome)
      | .inr op => Ioctl.carried request function (Controller.start s op) := by
  rw [Ioctl.dispatch, hcode, find_code, if_neg hcase]

/-- One request goes to the backend and returns nothing; the same with a byte too few is refused;
and a question is answered. -/
theorem dispatch_outcome_requests :
    let s := DisplayStore.new 4 8
    let frame : DispatchFrame :=
      { request := exampleAdapterRequest, function := .setRenderAdapter
        frame := .setRenderAdapter {} }
    let short := { exampleAdapterRequest with inputSize := 31 }
    let outcome := resultFromController {}
    let refusal := refused .invalidInputBuffer
    let answer := exampleVersionRequest.answered (.protocolVersion {})
    (Ends (dispatcher true) DisplayStore.Reaches (Ioctl.dispatch true s exampleAdapterRequest)
      [(frame, {})] s outcome ∧
      outcome.result.bytesReturned ≤ exampleAdapterRequest.outputSize) ∧
    (Ends (dispatcher true) DisplayStore.Reaches (Ioctl.dispatch true s short) [] s refusal ∧
      refusal.result.bytesReturned = 0) ∧
    Ends (dispatcher true) DisplayStore.Reaches (Ioctl.dispatch true s exampleVersionRequest) []
      s answer ∧
      answer.written = some (.protocolVersion {}) ∧
      answer.result.bytesReturned = IoctlOutput.byteSize (.protocolVersion {}) := by
  intro s frame short outcome refusal answer
  have hadapter : Ends (dispatcher true) DisplayStore.Reaches
      (Ioctl.dispatch true s exampleAdapterRequest) [(frame, {})] s outcome := by
    have hinput : exampleAdapterRequest.readInput SetRenderAdapterRequest = some {} := by decide
    rw [Ioctl.dispatch_of_code rfl (by decide),
      Ioctl.dispatchFunction, hinput]
    exact .resumed .refl .done
  have hshort : Ends (dispatcher true) DisplayStore.Reaches (Ioctl.dispatch true s short) [] s
      refusal := by
    have hinput : short.readInput SetRenderAdapterRequest = none := by decide
    rw [Ioctl.dispatch_of_code rfl (by decide),
      Ioctl.dispatchFunction, hinput]
    exact .done
  have hversion : Ends (dispatcher true) DisplayStore.Reaches
      (Ioctl.dispatch true s exampleVersionRequest) [] s answer := by
    rw [Ioctl.dispatch_of_code rfl (by decide),
      Ioctl.dispatchFunction]
    exact .done
  exact ⟨⟨hadapter, ((dispatch_outcome hadapter).2 rfl).1⟩,
    ⟨hshort, ((dispatch_outcome hshort).1 rfl).2.2⟩,
    hversion, rfl, ((dispatch_outcome hversion).2 rfl).2 .getProtocolVersion _ rfl rfl⟩

end VirtualDisplay
