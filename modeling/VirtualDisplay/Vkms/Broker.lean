import VirtualDisplay.Lib.Script

/-!
# Connector requests on Linux

A root service connects and disconnects the outputs of the pool on behalf of its local callers, and
sets the mode that an output is to offer (`vibeshine-vkms`).  What it keeps of an output are files:
the attributes `status` and `requested_mode` of the driver, and a lease file that holds the uid of
the owner.  Nothing but these requests writes to them, and the lease directory is private to root,
so a lease is a regular file or is not there.

Each request runs under the lock of its connector.  Every operation on a file may fail, and a
request may be killed between any two of them: the requests are scripts (`Script`).

## What is here

* `FileOp`, `FileOp.Step` — the operations on the files, what each may reply, and what it leaves
  behind when it fails.  A temporary file is renamed over the lease, so a lease is never half
  written.
* `readConnectorLease`, `writeConnectorLease`, `releaseConnectorLease`, `updateStatus` — the
  functions of the service.
* `connectConnector`, `disconnectConnector`, `mutateConnector`, `controlRequestedMode` — the
  requests, with the checks of the pool and of the owner in front.
* `ConnectorRequest` — a command with the uid of the caller, which the kernel vouches for.

`Vkms/Ownership.lean` says what can be relied on however a request ends.
-/

set_option autoImplicit false

namespace VirtualDisplay

/-! ## Uids and files -/

/-- `^(0|[1-9][0-9]*)$` -/
def isUidText (text : String) : Bool :=
  match text.toList with
  | [] => false
  | first :: digits =>
    text == "0" || ('1' ≤ first && first ≤ '9' && digits.all Char.isDigit)

/-- A uid is kept and compared as its text. -/
@[ext] structure Uid where
  text : String
  valid : isUidText text = true := by decide
  deriving DecidableEq

/-- The user who may do anything. -/
def Uid.root : Uid := { text := "0" }

/-- The two numbers in the attribute `status`. -/
def kConnectorStatusConnected : String := "1"
def kConnectorStatusDisconnected : String := "2"

/-- The files of a connector, and the temporary file of the request that runs.  A text is what
`$(<path)` yields, without the newline at the end. -/
structure ConnectorFiles where
  status : String
  requestedMode : String
  lease : Option String
  temporary : Option String := none
  deriving DecidableEq

/-! ## Operations -/

/-- What is checked about the pool before a connector is touched. -/
inductive PoolCheck where
  | nameValid
  | poolAvailable
  | connectorResolved
  | pathsSafe
  | poolEnabled
  deriving DecidableEq

/-- The tests of bash that the script makes. -/
inductive FileTest where
  /-- `-e` -/
  | exists
  /-- `-f` -/
  | regular
  /-- `-L` -/
  | symlink
  deriving DecidableEq

/-- What a request writes to the service's log. -/
inductive LeaseError where
  | notRegular
  | invalidUid
  | unsafePath
  | notPersisted
  | notReleased
  | unsafeLockPath
  | notLocked
  deriving DecidableEq

/-- What the script does to files, and the messages that it writes to the log. -/
inductive FileOp where
  | check (what : PoolCheck)
  | ensureLeaseRoot
  | testLockPath
  /-- `exec` and `flock` on the lock file. -/
  | lock
  | readStatus
  /-- `printf >"$status_path"` -/
  | writeStatus (value : String)
  /-- `[[ $(<"$status_path") == value ]]` behind a write. -/
  | statusReadsBack (value : String)
  | testLease (test : FileTest)
  | readLease
  | removeLease
  | writeTemporary (uid : Uid)
  | chmodTemporary
  | moveTemporary
  | removeTemporary
  | writeMode (text : String)
  | modeReadsBack (text : String)
  | error (error : LeaseError)
  deriving DecidableEq

/-- A read returns a text, and everything else whether it succeeds. -/
abbrev FileOp.Reply : FileOp → Type
  | readStatus | readLease => String
  | removeTemporary | error _ => Unit
  | _ => Bool

/-- What an operation may do.  A reply of `false` is a failure, or the answer no; a read that fails
yields no text.  A write that fails may have been done nevertheless, and one of an attribute may
have no effect. -/
def FileOp.Step : (op : FileOp) → ConnectorFiles → op.Reply → ConnectorFiles → Prop
  | readStatus, c, text, c' => c' = c ∧ (text = c.status ∨ text = "")
  | writeStatus value, c, _, c' => c' = c ∨ c' = { c with status := value }
  | statusReadsBack value, c, ok, c' => c' = c ∧ (ok = true → c.status = value)
  | testLease .symlink, c, answer, c' => c' = c ∧ answer = false
  | testLease _, c, answer, c' => c' = c ∧ (answer = true → c.lease.isSome)
  | readLease, c, text, c' => c' = c ∧ (c.lease = some text ∨ text = "")
  | removeLease, c, ok, c' => c' = { c with lease := none } ∨ c' = c ∧ ok = false
  | writeTemporary uid, c, ok, c' =>
    ∃ text, c' = { c with temporary := text } ∧ (ok = true → text = some uid.text)
  | moveTemporary, c, ok, c' =>
    (∃ text, c.temporary = some text ∧ c' = { c with lease := some text, temporary := none }) ∨
      c' = c ∧ ok = false
  | removeTemporary, c, _, c' => c' = c ∨ c' = { c with temporary := none }
  | writeMode text, c, _, c' => c' = c ∨ c' = { c with requestedMode := text }
  | modeReadsBack text, c, ok, c' => c' = c ∧ (ok = true → c.requestedMode = text)
  | check _, c, _, c' | ensureLeaseRoot, c, _, c' | testLockPath, c, _, c' | lock, c, _, c'
  | chmodTemporary, c, _, c' | error _, c, _, c' => c' = c

/-- The operation if nothing fails. -/
def FileOp.succeed : (op : FileOp) → ConnectorFiles → op.Reply × ConnectorFiles
  | check _, c | ensureLeaseRoot, c | lock, c | chmodTemporary, c => (true, c)
  | testLockPath, c => (false, c)
  | readStatus, c => (c.status, c)
  | writeStatus value, c => (true, { c with status := value })
  | statusReadsBack value, c => (c.status == value, c)
  | testLease .symlink, c => (false, c)
  | testLease .exists, c | testLease .regular, c => (c.lease.isSome, c)
  | readLease, c => (c.lease.getD "", c)
  | removeLease, c => (true, { c with lease := none })
  | writeTemporary uid, c => (true, { c with temporary := some uid.text })
  | moveTemporary, c =>
    match c.temporary with
    | some text => (true, { c with lease := some text, temporary := none })
    | none => (false, c)
  | removeTemporary, c => ((), { c with temporary := none })
  | writeMode text, c => (true, { c with requestedMode := text })
  | modeReadsBack text, c => (c.requestedMode == text, c)
  | error _, c => ((), c)

theorem FileOp.step_succeed (op : FileOp) (c : ConnectorFiles) :
    FileOp.Step op c (op.succeed c).1 (op.succeed c).2 := by
  cases op with
  | testLease test => cases test <;> simp [Step, succeed]
  | readLease => cases h : c.lease <;> simp [Step, succeed, h]
  | moveTemporary => cases h : c.temporary <;> simp [Step, succeed, h]
  | _ => simp [Step, succeed]

/-- The scripts of the broker. -/
abbrev FileScript := Script FileOp FileOp.Reply

/-- The script of one operation. -/
abbrev perform (op : FileOp) : FileScript op.Reply := Script.perform op

/-! ## The lease file -/

/-- `[[ -e "$lease_path" || -L "$lease_path" ]]` -/
def leaseIsThere : FileScript Bool := do
  if ← perform (.testLease .exists) then return true
  else perform (.testLease .symlink)

/-- `[[ ! -f "$lease_path" || -L "$lease_path" ]]` -/
def leaseIsUnsafe : FileScript Bool := do
  if ← perform (.testLease .regular) then perform (.testLease .symlink)
  else return true

/-- The stored uid, which is empty if there is no lease. -/
def readConnectorLease : FileScript (Option String) := do
  if ← leaseIsThere then
    if ← leaseIsUnsafe then
      perform (.error .notRegular)
      return none
    else
      let storedUid ← perform .readLease
      if isUidText storedUid then return some storedUid
      else
        perform (.error .invalidUid)
        return none
  else return some ""

/-- `printf`, `chmod` and `mv`, up to the first that fails. -/
def persistLease (ownerUid : Uid) : FileScript Bool := do
  if ← perform (.writeTemporary ownerUid) then
    if ← perform .chmodTemporary then perform .moveTemporary
    else return false
  else return false

/-- `[[ -L "$lease_path" || (-e "$lease_path" && ! -f "$lease_path") ]]` -/
def leasePathIsUnsafe : FileScript Bool := do
  if ← perform (.testLease .symlink) then return true
  else if ← perform (.testLease .exists) then return !(← perform (.testLease .regular))
  else return false

/-- A lease is written beside and moved over, unless its path is unsafe. -/
def writeConnectorLease (ownerUid : Uid) : FileScript Bool := do
  if ← leasePathIsUnsafe then
    perform (.error .unsafePath)
    return false
  else if ← persistLease ownerUid then return true
  else
    perform .removeTemporary
    perform (.error .notPersisted)
    return false

/-- The lease is removed, unless its path is unsafe. -/
def releaseConnectorLease : FileScript Bool := do
  if ← leaseIsThere then
    if ← leaseIsUnsafe then
      perform (.error .unsafePath)
      return false
    else if ← perform .removeLease then return true
    else
      perform (.error .notReleased)
      return false
  else return true

/-! ## Requests -/

/-- What changes a connector. -/
inductive ConnectorAction where
  | connect
  | disconnect
  deriving DecidableEq

/-- Writes the status and reads it back. -/
def updateStatus (value : String) : FileScript Bool := do
  if ← perform (.writeStatus value) then perform (.statusReadsBack value)
  else return false

/-- `connect` on a connector that has this status and this owner. -/
def connectConnector (callerUid : Uid) (responseName currentStatus ownerUid : String) :
    FileScript String := do
  if currentStatus = kConnectorStatusConnected then
    if ownerUid = "" then
      if callerUid ≠ .root then return "ERROR connector ownership unavailable"
      else if ← writeConnectorLease .root then return "OK connected " ++ responseName
      else return "ERROR connector ownership unavailable"
    else if callerUid ≠ .root ∧ callerUid.text ≠ ownerUid then
      return "ERROR connector owned by another uid"
    else return "OK connected " ++ responseName
  -- A disconnected connector is not in use: what is left of a lease is discarded.
  else if ← releaseConnectorLease then
    if ← writeConnectorLease callerUid then
      if ← updateStatus kConnectorStatusConnected then return "OK connected " ++ responseName
      else
        let _ ← releaseConnectorLease
        return "ERROR connector update failed"
    else return "ERROR connector lease unavailable"
  else return "ERROR connector lease unavailable"

/-- The end of `disconnect`, when the status is as it should be. -/
def releaseDisconnected (responseName : String) : FileScript String := do
  if ← releaseConnectorLease then return "OK disconnected " ++ responseName
  else return "ERROR connector lease cleanup failed"

/-- A disconnect: another user's connector is left alone, and so is one that is connected without an
owner, unless it is root who asks. -/
def disconnectConnector (callerUid : Uid) (responseName currentStatus ownerUid : String) :
    FileScript String := do
  if ownerUid ≠ "" ∧ callerUid ≠ .root ∧ callerUid.text ≠ ownerUid then
    return "ERROR connector owned by another uid"
  else if ownerUid = "" ∧ currentStatus = kConnectorStatusConnected ∧ callerUid ≠ .root then
    return "ERROR connector ownership unavailable"
  else if currentStatus = kConnectorStatusConnected then
    if ← updateStatus kConnectorStatusDisconnected then releaseDisconnected responseName
    else return "ERROR connector update failed"
  else releaseDisconnected responseName

/-- The owner for what follows: `read_connector_lease`, and root discards a lease that it cannot
read. -/
def ownerOrDiscard (callerUid : Uid) : FileScript (Option String) := do
  match ← readConnectorLease with
  | some ownerUid => return some ownerUid
  | none =>
    if callerUid ≠ .root then return none
    else if ← releaseConnectorLease then return some ""
    else return none

/-- The lease directory and the lock, which `mutate_connector` reports on. -/
def lockConnector : FileScript Bool := do
  if !(← perform .ensureLeaseRoot) then return false
  else if ← perform .testLockPath then
    perform (.error .unsafeLockPath)
    return false
  else if ← perform .lock then return true
  else
    perform (.error .notLocked)
    return false

/-- A change under the lock, with the owner of before. -/
def mutateConnector (action : ConnectorAction) (callerUid : Uid) (responseName : String) :
    FileScript String := do
  if ← lockConnector then
    let currentStatus ← perform .readStatus
    if currentStatus ≠ kConnectorStatusConnected ∧
        currentStatus ≠ kConnectorStatusDisconnected then
      return "ERROR invalid connector state"
    else
      match ← ownerOrDiscard callerUid with
      | none => return "ERROR connector lease unavailable"
      | some ownerUid =>
        match action with
        | .connect => connectConnector callerUid responseName currentStatus ownerUid
        | .disconnect => disconnectConnector callerUid responseName currentStatus ownerUid
  else return "ERROR connector lease unavailable"

/-- The first check that fails, by what is replied then. -/
def poolChecks : List (PoolCheck × String) → FileScript (Option String)
  | [] => return none
  | (what, failed) :: checks => do
    if ← perform (.check what) then poolChecks checks else return some failed

/-- A change of a connector that has been named. -/
def controlConnector (action : ConnectorAction) (publicName : String) (callerUid : Uid) :
    FileScript String := do
  match ← poolChecks
      [(.nameValid, "ERROR invalid connector"), (.poolAvailable, "ERROR display pool unavailable"),
        (.connectorResolved, "ERROR invalid connector"),
        (.pathsSafe, "ERROR unsafe connector path"),
        (.poolEnabled, "ERROR display pool disabled")] with
  | some failed => return failed
  | none => mutateConnector action callerUid publicName

/-- A mode as it stands in the attribute. -/
def modeText (width height refresh : Nat) : String :=
  toString width ++ " " ++ toString height ++ " " ++ toString refresh

/-- The lock and the owner, which `control_requested_mode` asks for in silence. -/
def lockOwnedConnector (callerUid : Uid) : FileScript (Option String) := do
  if !(← perform .ensureLeaseRoot) then return some "ERROR connector lease unavailable"
  else if ← perform .testLockPath then return some "ERROR connector lease unavailable"
  else if !(← perform .lock) then return some "ERROR connector lease unavailable"
  else
    match ← readConnectorLease with
    | none => return some "ERROR connector not owned by caller"
    | some ownerUid =>
      if ownerUid = "" ∨ ownerUid ≠ callerUid.text then
        return some "ERROR connector not owned by caller"
      else return none

/-- A new mode for a connector that has been named. -/
def controlRequestedMode (publicName : String) (width height refresh : Nat) (callerUid : Uid) :
    FileScript String := do
  if width < 64 ∨ 8192 < width ∨ height < 64 ∨ 8192 < height ∨ refresh < 1000 ∨
      1000000 < refresh then
    return "ERROR invalid requested mode"
  else
    match ← poolChecks
        [(.nameValid, "ERROR invalid requested mode"),
          (.poolAvailable, "ERROR display pool unavailable"),
          (.connectorResolved, "ERROR invalid connector"),
          (.pathsSafe, "ERROR requested-mode control unavailable"),
          (.poolEnabled, "ERROR display pool disabled")] with
    | some failed => return failed
    | none =>
      match ← lockOwnedConnector callerUid with
      | some failed => return failed
      | none =>
        if (← perform .readStatus) ≠ kConnectorStatusConnected then
          return "ERROR connector is disconnected"
        else if !(← perform (.writeMode (modeText width height refresh))) then
          return "ERROR requested mode update failed"
        else if ← perform (.modeReadsBack (modeText width height refresh)) then
          return "OK mode " ++ publicName ++ " " ++ modeText width height refresh
        else return "ERROR requested mode update failed"

/-- What a request asks for. -/
inductive BrokerCommand where
  | connector (action : ConnectorAction)
  | mode (width height refresh : Nat)
  deriving DecidableEq

/-- The request is one of `mutate_connector`. -/
def BrokerCommand.mutates : BrokerCommand → Bool
  | connector _ => true
  | mode .. => false

/-- A request on the connector, with the uid of the peer that sent it. -/
structure ConnectorRequest where
  callerUid : Uid
  publicName : String
  command : BrokerCommand
  deriving DecidableEq

/-- The script that serves a request. -/
def ConnectorRequest.script (request : ConnectorRequest) : FileScript String :=
  match request.command with
  | .connector action => controlConnector action request.publicName request.callerUid
  | .mode width height refresh =>
    controlRequestedMode request.publicName width height refresh request.callerUid

end VirtualDisplay
