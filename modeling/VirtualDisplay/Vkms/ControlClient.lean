import VirtualDisplay.Broker.Commands

/-!
# The client of the Linux broker

A client asks the root service for a connector over a local socket: it sends one line and gets one
line back (`linux_control_client.cpp`, `vibeshine-vkms`).  Both sides check the name of the
connector, in two languages.

The calls on the socket are a script, `Exchange`: what each of them does when it is made.  An answer
comes in pieces of at most 64 bytes, and is looked at when a newline has arrived;
`receiveResponse_delivered` says what comes of it, however it is cut.

## What is here

* `validOutputName`, `isVirtualName`, `validOutputName_eq` — the name on both sides: the client
  looks at the bytes, the service has a regular expression, and the two accept the same.
* `controlConnection_requestText` — the line that is sent is read as what was meant.
* `receiveResponse` — the loop over the pieces, with what has arrived so far.
* `stateLines_inj`, `stateHeads_antichain` — the lines that an answer may have speak of one
  connector and one state each, and none is the beginning of another.
* `request_ok_iff`, `control_grammar` — the client believes exactly what the service has said.

Each call on the socket may fail with any `errno`, and the wait may run out of time.  A reply of
more than 128 bytes is where the pieces matter (`request_depends_on_chunks`).
-/

set_option autoImplicit false

namespace VirtualDisplay

/-! ## Names of connectors -/

/-- What the names of virtual outputs begin with. -/
def kVirtualName : CommandText := bytesOf "Virtual-"

/-- An ASCII digit. -/
def isDigitByte (ch : UInt8) : Bool := 0x30 ≤ ch && ch ≤ 0x39

/-- `std::from_chars` reads a number of the type `int` as the other parsers do. -/
def validOutputName (outputName : CommandText) : Bool :=
  if !kVirtualName.isPrefixOf outputName || outputName.length ≤ kVirtualName.length then false
  else
    let suffix := outputName.drop kVirtualName.length
    if 10 < suffix.length || suffix.head?.any (fun ch ↦ ch < 0x31 || 0x39 < ch) ||
        !suffix.all isDigitByte then false
    else
      match parseBrokerI32 suffix with
      | none => false
      | some connectorTypeId => 0 < connectorTypeId.toInt && connectorTypeId.toInt ≤ 2147483647

/-- `[1-9][0-9]{0,n}` for one digit less than the argument. -/
def isNumberText (maxDigits : Nat) : CommandText → Bool
  | [] => false
  | first :: digits =>
    0x31 ≤ first && first ≤ 0x39 && digits.length < maxDigits && digits.all isDigitByte

/-- `Virtual-([1-9][0-9]{0,9})` -/
def isVirtualName (name : CommandText) : Bool :=
  kVirtualName.isPrefixOf name && isNumberText 10 (name.drop kVirtualName.length)

/-- The value of the digits in the base 10. -/
def decimalNumber (digits : CommandText) : Nat :=
  digits.foldl (fun value ch ↦ 10 * value + (ch.toNat - 0x30)) 0

/-- A virtual output whose number fits into an `int`. -/
def publicConnectorNameIsValid (name : CommandText) : Bool :=
  isVirtualName name && decimalNumber (name.drop kVirtualName.length) ≤ 2147483647

theorem le_foldl_decimal (digits : CommandText) (value : Nat) :
    value ≤ digits.foldl (fun value ch ↦ 10 * value + (ch.toNat - 0x30)) value := by
  induction digits generalizing value with
  | nil => exact Nat.le_refl value
  | cons ch digits ih =>
    have hstep : value ≤ 10 * value + (ch.toNat - 0x30) := by omega
    exact Nat.le_trans hstep (ih _)

theorem decimalNumber_pos {first : UInt8} (hfirst : 0x31 ≤ first) (digits : CommandText) :
    0 < decimalNumber (first :: digits) := by
  have hle := le_foldl_decimal digits (10 * 0 + (first.toNat - 0x30))
  have hnat : 0x31 ≤ first.toNat := UInt8.le_iff_toNat_le.mp hfirst
  rw [decimalNumber, List.foldl_cons]
  omega

/-- A number whose first digit is not a zero. -/
theorem parseBrokerI32_isNumber {first : UInt8} {digits : CommandText} (hfirst : 0x31 ≤ first)
    (hdigits : (first :: digits).all isDigitByte = true) :
    parseBrokerI32 (first :: digits) =
      if decimalNumber (first :: digits) < 2 ^ 31 then
        some (Int32.ofInt (decimalNumber (first :: digits)))
      else none := by
  have hminus : ∀ rest, first :: digits ≠ 0x2d :: rest := by
    intro rest heq
    rw [(List.cons.inj heq).1] at hfirst
    exact absurd hfirst (by decide)
  have hvalue : decimalValue (first :: digits) = some (decimalNumber (first :: digits)) := by
    rw [decimalValue, if_neg]
    · rfl
    · rw [not_or]
      exact ⟨Bool.false_ne_true, by simpa [isDigitByte] using hdigits⟩
  rw [parseBrokerI32.eq_2 _ hminus, hvalue]

theorem isNumberText_cons (maxDigits : Nat) (first : UInt8) (digits : CommandText) :
    isNumberText maxDigits (first :: digits) = true ↔
      0x31 ≤ first ∧ first ≤ 0x39 ∧ digits.length < maxDigits ∧
        (first :: digits).all isDigitByte = true := by
  have hfirst (hlow : 0x31 ≤ first) : (0x30 : UInt8) ≤ first := UInt8.le_trans (by decide) hlow
  rw [isNumberText, List.all_cons, isDigitByte]
  simp only [Bool.and_eq_true, decide_eq_true_eq]
  tauto

/-- What the client checks of the digits is what the pattern of the broker says. -/
theorem suffix_check (first : UInt8) (digits : CommandText) :
    (10 < (first :: digits).length ||
        (first :: digits).head?.any (fun ch ↦ ch < 0x31 || 0x39 < ch) ||
        !(first :: digits).all isDigitByte) = !isNumberText 10 (first :: digits) := by
  rw [Bool.eq_not, ne_eq, Bool.eq_iff_iff, isNumberText_cons]
  simp only [List.head?_cons, Option.any_some, Bool.or_eq_true, Bool.not_eq_true',
    decide_eq_true_eq, List.length_cons]
  rw [← UInt8.not_le, ← UInt8.not_le]
  grind

/-- **The two sides accept the same names.** -/
theorem validOutputName_eq (name : CommandText) :
    validOutputName name = publicConnectorNameIsValid name := by
  rw [validOutputName, publicConnectorNameIsValid, isVirtualName]
  cases hbegin : kVirtualName.isPrefixOf name with
  | false => rfl
  | true =>
    obtain ⟨suffix, rfl⟩ := List.isPrefixOf_iff_prefix.mp hbegin
    rw [List.drop_left]
    cases suffix with
    | nil => simp [isNumberText]
    | cons first digits =>
      rw [Bool.not_true, Bool.false_or, if_neg (by simp)]
      dsimp only
      rw [suffix_check]
      cases hnumber : isNumberText 10 (first :: digits) with
      | false => rfl
      | true =>
        obtain ⟨hlow, -, -, hdigits⟩ := (isNumberText_cons _ _ _).mp hnumber
        have hpos := decimalNumber_pos hlow digits
        rw [if_neg (by decide), parseBrokerI32_isNumber hlow hdigits]
        generalize decimalNumber (first :: digits) = number at hpos
        split_ifs with hlt
        · have hint : (Int32.ofInt number).toInt = number :=
            Int32.toInt_ofInt_of_le (by omega) (by omega)
          have hbounds : 0 < (number : Int) ∧ (number : Int) ≤ 2147483647 := by omega
          have hle : number ≤ 2147483647 := by omega
          simp [hint, hpos, hle, hbounds.2]
        · have hgt : ¬ number ≤ 2147483647 := by omega
          simp [hgt]

/-! ## Requests -/

/-- What a client may ask of a connector. -/
inductive ControlAction where
  | connect
  | disconnect
  | status
  deriving DecidableEq, Repr

/-- The verb in the request. -/
def ControlAction.text : ControlAction → CommandText
  | connect => bytesOf "connect"
  | disconnect => bytesOf "disconnect"
  | status => bytesOf "status"

/-- The action of a verb. -/
def controlAction (text : CommandText) : Option ControlAction :=
  [ControlAction.connect, .disconnect, .status].find? (·.text == text)

/-- A request as the broker reads it. -/
inductive ControlRequest where
  | mode (name width height refresh : CommandText)
  | connector (action : ControlAction) (name : CommandText)
  deriving DecidableEq, Repr

/-- Why the broker does not read a request. -/
inductive ControlError where
  | malformed
  | tooLarge
  deriving DecidableEq, Repr

/-- The two patterns; their words have no blanks in them. -/
def matchControlRequest (request : CommandText) : Option ControlRequest :=
  match request.splitOn 0x20 with
  | [word, name, width, height, refresh] =>
    if word = bytesOf "mode" ∧ isVirtualName name ∧ isNumberText 4 width ∧
        isNumberText 4 height ∧ isNumberText 7 refresh then
      some (.mode name width height refresh)
    else none
  | [word, name] =>
    match controlAction word with
    | none => none
    | some action => if isVirtualName name then some (.connector action name) else none
  | _ => none

/-- `read` drops zero bytes, and stops behind a newline or behind so many characters; at the end of
the input it fails. -/
def readRequest (maxRequestBytes : Nat) (input : CommandText) : Option CommandText :=
  let input := input.filter (· != 0)
  let line := (input.take maxRequestBytes).takeWhile (· != 0x0a)
  if line.length < maxRequestBytes ∧ input.length ≤ line.length then none else some line

/-- What the broker makes of the bytes of a connection. -/
def controlConnection (input : CommandText) : Except ControlError ControlRequest :=
  match readRequest 128 input with
  | none => .error .malformed
  | some request =>
    if 128 ≤ request.length then .error .tooLarge
    else
      match matchControlRequest request with
      | none => .error .malformed
      | some request => .ok request

/-- What the client sends. -/
def requestText (verb outputName : CommandText) : CommandText :=
  verb ++ [0x20] ++ outputName ++ [0x0a]

theorem isVirtualName_of_valid {name : CommandText} (h : validOutputName name = true) :
    isVirtualName name = true := by
  rw [validOutputName_eq, publicConnectorNameIsValid, Bool.and_eq_true] at h
  exact h.1

/-- The bytes of a name are neither blanks nor control characters, and there are at most
eighteen. -/
theorem isVirtualName_bytes {name : CommandText} (h : isVirtualName name = true) :
    (∀ ch ∈ name, 0x20 < ch) ∧ name.length ≤ 18 := by
  rw [isVirtualName, Bool.and_eq_true] at h
  obtain ⟨hbegin, hnumber⟩ := h
  obtain ⟨suffix, rfl⟩ := List.isPrefixOf_iff_prefix.mp hbegin
  rw [List.drop_left] at hnumber
  have hvirtual : (kVirtualName.all fun ch ↦ 0x20 < ch) = true ∧ kVirtualName.length = 8 := by
    decide
  cases suffix with
  | nil => exact nomatch hnumber
  | cons first digits =>
    obtain ⟨-, -, hcount, hdigits⟩ := (isNumberText_cons _ _ _).mp hnumber
    refine ⟨List.forall_mem_append.mpr ⟨by simpa using hvirtual.1, fun ch hch ↦ ?_⟩, ?_⟩
    · have hdigit := List.all_eq_true.mp hdigits ch hch
      simp only [isDigitByte, Bool.and_eq_true, decide_eq_true_eq] at hdigit
      exact UInt8.lt_of_lt_of_le (by decide) hdigit.1
    · rw [List.length_append, hvirtual.2, List.length_cons]
      omega

theorem controlAction_text (action : ControlAction) :
    controlAction action.text = some action ∧ (action.text.all fun ch ↦ 0x20 < ch) = true ∧
      action.text.length ≤ 10 := by
  cases action <;> decide

/-- A line without control characters is read as it is. -/
theorem readRequest_line {line : CommandText} {maxRequestBytes : Nat}
    (hline : ∀ ch ∈ line, 0x20 ≤ ch) (hlength : line.length < maxRequestBytes) :
    readRequest maxRequestBytes (line ++ [0x0a]) = some line := by
  have hbyte (ch : UInt8) (hch : ch ∈ line) : ch ≠ 0 ∧ ch ≠ 0x0a := by
    constructor <;> intro heq <;> exact absurd (heq ▸ hline ch hch) (by decide)
  have hfilter : (line ++ [0x0a]).filter (· != 0) = line ++ [0x0a] := by
    refine List.filter_eq_self.mpr (List.forall_mem_append.mpr ⟨fun ch hch ↦ ?_, by simp⟩)
    exact bne_iff_ne.mpr (hbyte ch hch).1
  have htake : (line ++ [0x0a]).take maxRequestBytes = line ++ [0x0a] :=
    List.take_of_length_le (by rw [List.length_append, List.length_singleton]; omega)
  have hwhile : (line ++ [0x0a]).takeWhile (· != 0x0a) = line := by
    rw [List.takeWhile_append_of_pos]
    · simp
    · exact fun ch hch ↦ bne_iff_ne.mpr (hbyte ch hch).2
  rw [readRequest, hfilter, htake, hwhile, if_neg]
  rw [List.length_append, List.length_singleton]
  omega

/-- The broker reads the request as what it was sent as. -/
theorem controlConnection_requestText {name : CommandText} (h : validOutputName name = true)
    (action : ControlAction) :
    controlConnection (requestText action.text name) = .ok (.connector action name) := by
  have hname := isVirtualName_of_valid h
  obtain ⟨hbytes, hcount⟩ := isVirtualName_bytes hname
  obtain ⟨haction, htext, htextCount⟩ := controlAction_text action
  have htextBytes : ∀ ch ∈ action.text, 0x20 < ch := by simpa using htext
  have hnotBlank (bytes : CommandText) (h : ∀ ch ∈ bytes, 0x20 < ch) : 0x20 ∉ bytes :=
    fun hmem ↦ absurd (h _ hmem) (by decide)
  have hlength : (action.text ++ [0x20] ++ name).length < 128 := by
    rw [List.length_append, List.length_append, List.length_singleton]
    omega
  have hread : readRequest 128 (requestText action.text name) =
      some (action.text ++ [0x20] ++ name) := by
    refine readRequest_line (fun ch hch ↦ ?_) hlength
    rw [List.mem_append, List.mem_append, List.mem_singleton] at hch
    obtain (hch | hch) | hch := hch
    · exact UInt8.le_of_lt (htextBytes ch hch)
    · rw [hch]
      decide
    · exact UInt8.le_of_lt (hbytes ch hch)
  have hsplit : (action.text ++ [0x20] ++ name).splitOn 0x20 = [action.text, name] := by
    rw [List.append_assoc, List.singleton_append,
      List.splitOn_append_cons_self_of_not_mem (hnotBlank _ htextBytes),
      List.splitOn_eq_singleton (hnotBlank _ hbytes)]
  rw [controlConnection, hread]
  dsimp only
  rw [if_neg (Nat.not_le.mpr hlength), matchControlRequest, hsplit]
  dsimp only
  rw [haction]
  dsimp only
  rw [if_pos hname]

/-! ## Results -/

/-- How a request of the client ends. -/
inductive LinuxControlStatus where
  | success
  | invalidRequest
  | transportFailed
  | timedOut
  | protocolError
  deriving DecidableEq, Repr

/-- What the client returns: the state of the connector, if it was told, and the broker's own words.
-/
structure LinuxControlResult where
  status : LinuxControlStatus
  connected : Option Bool
  nativeError : Int
  detail : CommandText
  deriving DecidableEq, Repr

/-- The broker has answered, and not with an error. -/
def LinuxControlResult.ok (result : LinuxControlResult) : Bool := result.status = .success

/-- The values of `errno` that the client returns itself. -/
def kEio : Int := 5
def kEinval : Int := 22
def kEnametoolong : Int := 36
def kEproto : Int := 71
def kEmsgsize : Int := 90
def kEconnreset : Int := 104

/-- `sizeof(address.sun_path)` -/
def kSunPathSize : Nat := 108

/-! ## The calls on the socket -/

/-- One call of `poll`, made while there is time left. -/
inductive PollRound where
  | events (errorOrInvalid requested hangUp : Bool)
  | expired
  | interrupted
  | failed (errno : Int)
  deriving DecidableEq, Repr

/-- How waiting for the socket ends. -/
inductive WaitResult where
  | ready
  | timedOut
  | failed (nativeError : Int)
  deriving DecidableEq, Repr

/-- The rounds up to the deadline; `input` is for `POLLIN`. -/
def waitForFd (input : Bool) : List PollRound → WaitResult
  | [] => .timedOut
  | .events errorOrInvalid requested hangUp :: _ =>
    if errorOrInvalid then .failed kEio
    else if requested || (input && hangUp) then .ready
    else .failed kEio
  | .expired :: _ => .timedOut
  | .interrupted :: rounds => waitForFd input rounds
  | .failed errno :: _ => .failed errno

/-- How `connect` ends, with what is polled and read of the socket after it. -/
inductive ConnectCall where
  | connected
  | inProgress (rounds : List PollRound) (socketError : Except Int Int)
  | failed (errno : Int)

/-- `EINTR`, `EAGAIN` and `EWOULDBLOCK` are `again`. -/
inductive SendCall where
  | sent (count : { count : Nat // 0 < count })
  | again
  | failed (errno : Int)

/-- What fits into `char buffer[64]`. -/
abbrev Chunk := { bytes : CommandText // 0 < bytes.length ∧ bytes.length ≤ 64 }

/-- How `recv` ends. -/
inductive ReceiveCall where
  | data (chunk : Chunk)
  | again
  | closed
  | failed (errno : Int)

/-- What the calls of one request do, each with the rounds of the wait before it.  A list that ends
stands for the deadline. -/
structure Exchange where
  socketError : Option Int
  connect : ConnectCall
  sends : List (List PollRound × SendCall)
  receives : List (List PollRound × ReceiveCall)

/-! ## The client -/

section client

variable (strerror : Int → CommandText)

/-- The result for a call of the system that failed. -/
def transportFailed (errno : Int) : LinuxControlResult :=
  { status := .transportFailed, connected := none, nativeError := errno, detail := strerror errno }

/-- The result for an answer that is none. -/
def protocolError (connected : Option Bool) (nativeError : Int) (detail : CommandText) :
    LinuxControlResult :=
  { status := .protocolError, connected, nativeError, detail }

/-- The result for waiting that came to nothing. -/
def waitFailure (result : WaitResult) (detail : CommandText) : LinuxControlResult :=
  { status := if result = .timedOut then .timedOut else .transportFailed
    connected := none
    nativeError := match result with | .failed nativeError => nativeError | _ => 0
    detail }

/-- The connection, or what the request comes to without one. -/
def connectBroker (socketPath : CommandText) (exchange : Exchange) :
    Except LinuxControlResult Unit :=
  match exchange.socketError with
  | some errno => .error (transportFailed strerror errno)
  | none =>
    if kSunPathSize ≤ socketPath.length then
      .error
        { status := .invalidRequest
          connected := none
          nativeError := kEnametoolong
          detail := bytesOf "socket path is too long" }
    else
      match exchange.connect with
      | .connected => .ok ()
      | .failed errno => .error (transportFailed strerror errno)
      | .inProgress rounds socketError =>
        if waitForFd false rounds ≠ .ready then
          .error (waitFailure (waitForFd false rounds)
            (bytesOf "broker connection did not become writable"))
        else
          match socketError with
          | .error errno => .error (transportFailed strerror errno)
          | .ok nativeError =>
            if nativeError ≠ 0 then .error (transportFailed strerror nativeError) else .ok ()

/-- The loop of `send`, with so many bytes left. -/
def sendRequest : Nat → List (List PollRound × SendCall) → Except LinuxControlResult Unit
  | 0, _ => .ok ()
  | _ + 1, [] => .error (waitFailure .timedOut (bytesOf "broker request could not be written"))
  | left + 1, (rounds, call) :: sends =>
    if waitForFd false rounds ≠ .ready then
      .error (waitFailure (waitForFd false rounds) (bytesOf "broker request could not be written"))
    else
      match call with
      | .sent count => sendRequest (left + 1 - count) sends
      | .again => sendRequest (left + 1) sends
      | .failed errno => .error (transportFailed strerror errno)

/-- The first word of an answer about a connector. -/
def stateWord (connected : Bool) : CommandText :=
  if connected then bytesOf "connected " else bytesOf "disconnected "

/-- A `STATUS` line answers a query, an `OK` line a change; either is accepted for both. -/
def stateHeads (connected : Bool) : List CommandText :=
  [bytesOf "STATUS " ++ stateWord connected, bytesOf "OK " ++ stateWord connected]

/-- The two answers that are right for a state: before and after it was reached. -/
def stateLines (outputName : CommandText) (connected : Bool) : List CommandText :=
  (stateHeads connected).map (· ++ outputName)

/-- What is done with the response once there is a newline in it. -/
def readResponse (outputName response : CommandText) (newline : Nat) : LinuxControlResult :=
  if newline + 1 ≠ response.length ∨ 0x0d ∈ response then
    protocolError none kEproto (bytesOf "malformed broker response")
  else
    let response := response.take newline
    if response ∈ stateLines outputName true then
      { status := .success, connected := some true, nativeError := 0, detail := [] }
    else if response ∈ stateLines outputName false then
      { status := .success, connected := some false, nativeError := 0, detail := [] }
    else protocolError none kEproto response

/-- The loop of `recv`. -/
def receiveResponse (outputName : CommandText) :
    CommandText → List (List PollRound × ReceiveCall) → LinuxControlResult
  | response, [] =>
    if 128 < response.length then
      protocolError none kEmsgsize (bytesOf "broker response is too large")
    else waitFailure .timedOut (bytesOf "broker response was not received")
  | response, (rounds, call) :: receives =>
    if 128 < response.length then
      protocolError none kEmsgsize (bytesOf "broker response is too large")
    else if waitForFd true rounds ≠ .ready then
      waitFailure (waitForFd true rounds) (bytesOf "broker response was not received")
    else
      match call with
      | .again => receiveResponse outputName response receives
      | .closed =>
        { status := .transportFailed
          connected := none
          nativeError := kEconnreset
          detail := bytesOf "broker closed without a complete response" }
      | .failed errno => transportFailed strerror errno
      | .data chunk =>
        match (response ++ chunk.val).idxOf? 0x0a with
        | none => receiveResponse outputName (response ++ chunk.val) receives
        | some newline => readResponse outputName (response ++ chunk.val) newline

/-- One request: it is checked, sent, and its answer read and parsed. -/
def request (socketPath verb outputName : CommandText) (exchange : Exchange) :
    LinuxControlResult :=
  if controlAction verb = none ∨ validOutputName outputName = false ∨ socketPath = [] then
    { status := .invalidRequest
      connected := none
      nativeError := kEinval
      detail := bytesOf "invalid broker request" }
  else
    match connectBroker strerror socketPath exchange with
    | .error result => result
    | .ok () =>
      match sendRequest strerror (requestText verb outputName).length exchange.sends with
      | .error result => result
      | .ok () => receiveResponse strerror outputName [] exchange.receives

/-- The action that leads to a state. -/
def setAction (connected : Bool) : ControlAction := if connected then .connect else .disconnect

/-- A request for a state, which has succeeded only if the answer says that it is reached. -/
def setConnector (socketPath outputName : CommandText) (connected : Bool) (exchange : Exchange) :
    LinuxControlResult :=
  let result := request strerror socketPath (setAction connected).text outputName exchange
  if result.ok = false ∨ result.connected ≠ some connected then
    if result.ok then
      protocolError result.connected kEproto
        (bytesOf "broker acknowledged the wrong connector state")
    else result
  else result

end client

/-! ## Answers in pieces -/

/-- The calls that bring these bytes before the deadline. -/
inductive Delivers : CommandText → List (List PollRound × ReceiveCall) → Prop
  | nil : Delivers [] []
  | again {bytes : CommandText} {rounds : List PollRound}
      {receives : List (List PollRound × ReceiveCall)} (hready : waitForFd true rounds = .ready)
      (hreceives : Delivers bytes receives) : Delivers bytes ((rounds, .again) :: receives)
  | data {bytes : CommandText} {rounds : List PollRound} {chunk : Chunk}
      {receives : List (List PollRound × ReceiveCall)} (hready : waitForFd true rounds = .ready)
      (hreceives : Delivers bytes receives) :
      Delivers (chunk.val ++ bytes) ((rounds, .data chunk) :: receives)

/-- The request has been sent, and this is the answer. -/
structure Answered (strerror : Int → CommandText) (socketPath verb outputName : CommandText)
    (exchange : Exchange) (reply : CommandText) : Prop where
  path : socketPath ≠ []
  connected : connectBroker strerror socketPath exchange = .ok ()
  sent : sendRequest strerror (requestText verb outputName).length exchange.sends = .ok ()
  delivered : Delivers reply exchange.receives

/-- What is read so far has no newline in it, or it is all there is. -/
theorem pending_cases {response rest body : CommandText} (hbody : 0x0a ∉ body)
    (h : response ++ rest = body ++ [0x0a]) :
    (response.idxOf? 0x0a = none ∧ response.length ≤ body.length) ∨
      (response = body ++ [0x0a] ∧ response.idxOf? 0x0a = some body.length) := by
  obtain ⟨more, hmore, -⟩ | ⟨more, hmore, hrest⟩ := List.append_eq_append_iff.mp h
  · left
    have hnone : (0x0a : UInt8) ∉ response := fun hmem ↦ hbody (hmore ▸ List.mem_append_left _ hmem)
    refine ⟨List.idxOf?_eq_none_iff.mpr hnone, ?_⟩
    rw [hmore, List.length_append]
    omega
  · cases more with
    | nil =>
      rw [List.append_nil] at hmore
      exact .inl ⟨by rw [hmore]; exact List.idxOf?_eq_none_iff.mpr hbody, by rw [hmore]⟩
    | cons ch more =>
      obtain ⟨rfl, hnil⟩ := List.cons.inj (hrest.symm : ch :: (more ++ rest) = [0x0a])
      obtain ⟨rfl, -⟩ := List.append_eq_nil_iff.mp hnil
      refine .inr ⟨hmore, ?_⟩
      rw [hmore, List.idxOf?_eq_some_iff]
      refine ⟨by simp, by simp, fun j hj heq ↦ hbody ?_⟩
      rw [List.getElem_append_left hj] at heq
      exact heq ▸ List.getElem_mem hj

/-- However the answer is cut, it is read as a whole; if it is long, it may not be read at all. -/
theorem receiveResponse_delivered (strerror : Int → CommandText) (outputName : CommandText)
    {body rest : CommandText} {receives : List (List PollRound × ReceiveCall)}
    (hbody : 0x0a ∉ body) (h : Delivers rest receives) (response : CommandText)
    (hpending : response ++ rest = body ++ [0x0a]) (hlength : response.length ≤ body.length) :
    receiveResponse strerror outputName response receives =
        readResponse outputName (body ++ [0x0a]) body.length ∨
      (128 < body.length ∧
        receiveResponse strerror outputName response receives =
          protocolError none kEmsgsize (bytesOf "broker response is too large")) := by
  induction h generalizing response with
  | nil =>
    rw [List.append_nil] at hpending
    rw [hpending, List.length_append, List.length_singleton] at hlength
    omega
  | again hready hreceives ih =>
    rw [receiveResponse]
    split_ifs with hlarge
    · exact .inr ⟨by omega, rfl⟩
    · exact absurd hready ‹_›
    · exact ih response hpending hlength
  | @data bytes rounds chunk receives hready hreceives ih =>
    rw [receiveResponse]
    split_ifs with hlarge
    · exact .inr ⟨by omega, rfl⟩
    · exact absurd hready ‹_›
    · rw [← List.append_assoc] at hpending
      obtain ⟨hnone, hle⟩ | ⟨hall, hsome⟩ := pending_cases hbody hpending
      · rw [hnone]
        exact ih (response ++ chunk.val) hpending hle
      · rw [hsome, hall]
        exact .inl rfl

/-! ## What an answer says -/

/-- No line is the beginning of another. -/
theorem stateHeads_antichain : ∀ connected connected', ∀ head ∈ stateHeads connected,
    ∀ head' ∈ stateHeads connected', head <+: head' → head = head' ∧ connected = connected' := by
  decide

/-- A line speaks of one connector and of one state. -/
theorem stateLines_inj {line name name' : CommandText} {connected connected' : Bool}
    (h : line ∈ stateLines name connected) (h' : line ∈ stateLines name' connected') :
    name = name' ∧ connected = connected' := by
  obtain ⟨head, hhead, rfl⟩ := List.mem_map.mp h
  obtain ⟨head', hhead', heq⟩ := List.mem_map.mp h'
  have hsame : head = head' ∧ connected = connected' := by
    obtain hbegin | hbegin := List.prefix_or_prefix_of_prefix
      (List.prefix_append head name) (heq ▸ List.prefix_append head' name')
    · exact stateHeads_antichain _ _ _ hhead _ hhead' hbegin
    · obtain ⟨hheads, hstates⟩ := stateHeads_antichain _ _ _ hhead' _ hhead hbegin
      exact ⟨hheads.symm, hstates.symm⟩
  obtain ⟨rfl, hstates⟩ := hsame
  exact ⟨(List.append_cancel_left heq).symm, hstates⟩

theorem stateHeads_bytes : ∀ connected, ∀ head ∈ stateHeads connected,
    (head.all fun ch ↦ 0x20 ≤ ch) = true ∧ head.length ≤ 20 := by
  decide

/-- The line of a connector is short, and has no carriage return in it. -/
theorem stateLines_bytes {line name : CommandText} {connected : Bool}
    (hname : validOutputName name = true) (h : line ∈ stateLines name connected) :
    0x0d ∉ line ∧ line.length ≤ 38 := by
  obtain ⟨hbytes, hcount⟩ := isVirtualName_bytes (isVirtualName_of_valid hname)
  obtain ⟨head, hhead, rfl⟩ := List.mem_map.mp h
  obtain ⟨hheadBytes, hheadCount⟩ := stateHeads_bytes connected head hhead
  refine ⟨fun hmem ↦ ?_, ?_⟩
  · obtain hmem | hmem := List.mem_append.mp hmem
    · exact absurd (List.all_eq_true.mp hheadBytes _ hmem) (by decide)
    · exact absurd (hbytes _ hmem) (by decide)
  · rw [List.length_append]
    omega

theorem readResponse_stateLine {name body : CommandText} {connected : Bool}
    (hname : validOutputName name = true) (h : body ∈ stateLines name connected) :
    readResponse name (body ++ [0x0a]) body.length =
      { status := .success, connected := some connected, nativeError := 0, detail := [] } := by
  obtain ⟨hreturn, -⟩ := stateLines_bytes hname h
  rw [readResponse, if_neg (by simp [hreturn]), List.take_left]
  cases connected with
  | true => exact if_pos h
  | false =>
    have htrue : body ∉ stateLines name true :=
      fun htrue ↦ Bool.false_ne_true (stateLines_inj h htrue).2
    exact (if_neg htrue).trans (if_pos h)

theorem readResponse_other {name body : CommandText}
    (h : ∀ connected, body ∉ stateLines name connected) :
    (readResponse name (body ++ [0x0a]) body.length).status = .protocolError ∧
      (readResponse name (body ++ [0x0a]) body.length).connected = none := by
  rw [readResponse]
  split_ifs with hshape
  · exact ⟨rfl, rfl⟩
  · rw [List.take_left, if_neg (h true), if_neg (h false)]
    exact ⟨rfl, rfl⟩

/-! ## Requests that are answered -/

section answered

variable {strerror : Int → CommandText} {socketPath name body : CommandText}
  {action : ControlAction} {exchange : Exchange}

theorem request_answered (hname : validOutputName name = true) (hbody : 0x0a ∉ body)
    (h : Answered strerror socketPath action.text name exchange (body ++ [0x0a])) :
    request strerror socketPath action.text name exchange =
        readResponse name (body ++ [0x0a]) body.length ∨
      (128 < body.length ∧ request strerror socketPath action.text name exchange =
        protocolError none kEmsgsize (bytesOf "broker response is too large")) := by
  have hrequest : request strerror socketPath action.text name exchange =
      receiveResponse strerror name [] exchange.receives := by
    rw [request, if_neg (by simp [(controlAction_text action).1, hname, h.path]), h.connected]
    dsimp only
    rw [h.sent]
  rw [hrequest]
  exact receiveResponse_delivered strerror name hbody h.delivered [] (List.nil_append _)
    (Nat.zero_le _)

theorem request_stateLine (hname : validOutputName name = true) (hbody : 0x0a ∉ body)
    (h : Answered strerror socketPath action.text name exchange (body ++ [0x0a]))
    {connected : Bool} (hline : body ∈ stateLines name connected) :
    request strerror socketPath action.text name exchange =
      { status := .success, connected := some connected, nativeError := 0, detail := [] } := by
  obtain ⟨-, hlength⟩ := stateLines_bytes hname hline
  obtain hread | ⟨hlong, -⟩ := request_answered hname hbody h
  · rw [hread, readResponse_stateLine hname hline]
  · omega

theorem request_other (hname : validOutputName name = true) (hbody : 0x0a ∉ body)
    (h : Answered strerror socketPath action.text name exchange (body ++ [0x0a]))
    (hlines : ∀ connected, body ∉ stateLines name connected) :
    (request strerror socketPath action.text name exchange).status = .protocolError ∧
      (request strerror socketPath action.text name exchange).connected = none := by
  obtain hread | ⟨-, hlarge⟩ := request_answered hname hbody h
  · rw [hread]
    exact readResponse_other hlines
  · rw [hlarge]
    exact ⟨rfl, rfl⟩

/-- The client says that the connector is in a state when the broker does. -/
theorem request_ok_iff (hname : validOutputName name = true) (hbody : 0x0a ∉ body)
    (h : Answered strerror socketPath action.text name exchange (body ++ [0x0a]))
    (connected : Bool) :
    ((request strerror socketPath action.text name exchange).ok = true ∧
        (request strerror socketPath action.text name exchange).connected = some connected) ↔
      body ∈ stateLines name connected := by
  constructor
  · rintro ⟨hok, hstate⟩
    by_cases hlines : ∀ connected, body ∉ stateLines name connected
    · rw [(request_other hname hbody h hlines).2] at hstate
      exact nomatch hstate
    · push Not at hlines
      obtain ⟨connected', hline⟩ := hlines
      rw [request_stateLine hname hbody h hline] at hstate
      exact Option.some.inj hstate ▸ hline
  · intro hline
    rw [request_stateLine hname hbody h hline]
    exact ⟨rfl, rfl⟩

theorem setConnector_ok_iff {requested : Bool} (hname : validOutputName name = true)
    (hbody : 0x0a ∉ body)
    (h : Answered strerror socketPath (setAction requested).text name exchange (body ++ [0x0a])) :
    (setConnector strerror socketPath name requested exchange).ok = true ↔
      body ∈ stateLines name requested := by
  rw [← request_ok_iff hname hbody h requested, setConnector]
  split_ifs with hwrong hok <;> grind [protocolError, LinuxControlResult.ok]

end answered

/-! ## The two sides together -/

/-- **The client and the broker speak the same grammar.**  Both accept the same names, and a request
for one of them is understood.  An answer of one line, in whatever pieces it comes, is taken for the
state of the connector when it is the line of that connector and for an error when it is anything
else.  Up to 129 bytes the result is a function of the answer. -/
theorem control_grammar (strerror : Int → CommandText) :
    (∀ name, validOutputName name = publicConnectorNameIsValid name) ∧
      (∀ (action : ControlAction) name, validOutputName name = true →
        controlConnection (requestText action.text name) = .ok (.connector action name)) ∧
      (∀ socketPath (action : ControlAction) name body exchange,
        validOutputName name = true → 0x0a ∉ body →
        Answered strerror socketPath action.text name exchange (body ++ [0x0a]) →
        let result := request strerror socketPath action.text name exchange
        ((body ++ [0x0a]).length ≤ 129 →
          result = readResponse name (body ++ [0x0a]) body.length) ∧
        (∀ connected, result.ok = true ∧ result.connected = some connected ↔
          body ∈ stateLines name connected) ∧
        (result.ok = true ↔ ∃ connected, body ∈ stateLines name connected) ∧
        (result.ok = false → result.status = .protocolError ∧ result.connected = none) ∧
        ∀ other connected, other ≠ name → body ∈ stateLines other connected →
          result.status = .protocolError ∧ result.connected = none) ∧
      ∀ socketPath requested name body exchange, validOutputName name = true → 0x0a ∉ body →
        Answered strerror socketPath (setAction requested).text name exchange (body ++ [0x0a]) →
        ((setConnector strerror socketPath name requested exchange).ok = true ↔
          body ∈ stateLines name requested) := by
  refine ⟨validOutputName_eq, fun action name hname ↦ controlConnection_requestText hname action,
    fun socketPath action name body exchange hname hbody h ↦ ?_,
    fun socketPath requested name body exchange hname hbody h ↦
      setConnector_ok_iff hname hbody h⟩
  have hok (connected : Bool) (hline : body ∈ stateLines name connected) :
      (request strerror socketPath action.text name exchange).ok = true :=
    ((request_ok_iff hname hbody h connected).mpr hline).1
  refine ⟨fun hshort ↦ ?_, request_ok_iff hname hbody h, ⟨fun hsuccess ↦ ?_, ?_⟩, fun hfailed ↦ ?_,
    fun other connected hother hline ↦ ?_⟩
  · obtain hread | ⟨hlong, -⟩ := request_answered hname hbody h
    · exact hread
    · rw [List.length_append, List.length_singleton] at hshort
      omega
  · by_contra hnone
    push Not at hnone
    have hstatus := (request_other hname hbody h hnone).1
    rw [LinuxControlResult.ok, hstatus] at hsuccess
    exact nomatch hsuccess
  · rintro ⟨connected, hline⟩
    exact hok connected hline
  · refine request_other hname hbody h fun connected hline ↦ ?_
    rw [hok connected hline] at hfailed
    exact nomatch hfailed
  · exact request_other hname hbody h fun connected' hline' ↦
      hother (stateLines_inj hline hline').1

/-- The socket is there, `status Virtual-1` is sent at once, and these pieces come back. -/
def promptExchange (chunks : List Chunk) : Exchange where
  socketError := none
  connect := .connected
  sends := [([.events false true false], .sent ⟨17, by decide⟩)]
  receives := chunks.map fun chunk ↦ ([.events false true false], .data chunk)

theorem delivers_promptExchange (chunks : List Chunk) :
    Delivers (chunks.flatMap (·.val)) (promptExchange chunks).receives := by
  induction chunks with
  | nil => exact .nil
  | cons chunk chunks ih => exact .data rfl ih

theorem answered_promptExchange (chunks : List Chunk) :
    Answered (fun _ ↦ []) (bytesOf "/s") ControlAction.status.text (bytesOf "Virtual-1")
      (promptExchange chunks) (chunks.flatMap (·.val)) where
  path := by decide
  connected := by
    rw [connectBroker, promptExchange]
    dsimp only
    rw [if_neg (by decide)]
  sent := by
    have hlength : (requestText ControlAction.status.text (bytesOf "Virtual-1")).length = 17 := by
      decide
    rw [hlength]
    rfl
  delivered := delivers_promptExchange chunks

/-- An answer in two pieces. -/
theorem control_grammar_status :
    (request (fun _ ↦ []) (bytesOf "/s") ControlAction.status.text (bytesOf "Virtual-1")
      (promptExchange [⟨bytesOf "STATUS conn", by decide⟩,
        ⟨bytesOf "ected Virtual-1" ++ [0x0a], by decide⟩])).ok = true :=
  (((control_grammar fun _ ↦ []).2.2.1 (bytesOf "/s") .status (bytesOf "Virtual-1")
    (bytesOf "STATUS connected Virtual-1") _ (by decide) (by decide)
    (answered_promptExchange _)).2.1 true).mpr (by decide) |>.1

/-- Behind 128 bytes without a newline the client stops reading: it depends on the last piece
whether the newline has come by then. -/
theorem request_depends_on_chunks :
    ¬ ∀ strerror socketPath (action : ControlAction) name body exchange exchange',
      validOutputName name = true → 0x0a ∉ body →
      Answered strerror socketPath action.text name exchange (body ++ [0x0a]) →
      Answered strerror socketPath action.text name exchange' (body ++ [0x0a]) →
      request strerror socketPath action.text name exchange =
        request strerror socketPath action.text name exchange' := by
  intro h
  let xs : Chunk := ⟨List.replicate 64 0x78, by decide⟩
  let x : Chunk := ⟨[0x78], by decide⟩
  let newline : Chunk := ⟨[0x0a], by decide⟩
  have hsame := h (fun _ ↦ []) (bytesOf "/s") .status (bytesOf "Virtual-1")
    (List.replicate 129 0x78) (promptExchange [xs, xs, ⟨[0x78, 0x0a], by decide⟩])
    (promptExchange [xs, xs, x, newline]) (by decide) (by decide)
    (answered_promptExchange _) (answered_promptExchange _)
  exact absurd (congrArg LinuxControlResult.nativeError hsame) (by decide +kernel)

end VirtualDisplay
