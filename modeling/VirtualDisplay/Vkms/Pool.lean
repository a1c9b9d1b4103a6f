import VirtualDisplay.Drm.Config
import VirtualDisplay.Lib.Script

/-!
# The pool of outputs

The outputs that requests connect are those of one device, which a root service puts together in
configfs and takes apart again (`create_pool` and `remove_pool` of `vibeshine-vkms`).  Each of its
operations may fail, also where it only looks at something, and the service may be killed between
any two of them.  A start that finds a device that is not whole takes it apart and begins anew.

Of the items of one kind, each is known by its index; nobody else makes items, and all links lead to
the item of the same index.  `PoolOp.kernel` is what configfs does with an operation; it does not
remove an item that has a link or that a link leads to.

## What is here

* `PoolOp`, `PoolOp.kernel`, `PoolOp.Step` — the operations, what the kernel does with them, and in
  what ways they may fail.  Enabling may fail behind any of the connectors that it makes.
* `cleanupIsSafe`, `removePool` — taking a device apart, which is refused when something is in it
  that the service does not know.
* `validateTopology`, `existingPoolOutputCount` — how a start finds out whether the device is whole.
* `createPool`, `stopPool` — a start, and a stop.
* `Command` — what the service is told to do; a script belongs to each.
-/

set_option autoImplicit false

namespace VirtualDisplay

open Script

/-! ## Items and links -/

/-- The four directories of a device. -/
inductive ItemKind where
  | plane
  | crtc
  | encoder
  | connector
  deriving DecidableEq

/-- The three directories of links: an item is linked to those it may be used with. -/
inductive LinkKind where
  | planeCrtc
  | encoderCrtc
  | connectorEncoder
  deriving DecidableEq

/-- The order in which items are made. -/
def itemKinds : List ItemKind := [.plane, .crtc, .encoder, .connector]

/-- The order in which links are made. -/
def linkKinds : List LinkKind := [.planeCrtc, .encoderCrtc, .connectorEncoder]

/-- The kind of item that has the links. -/
def LinkKind.source : LinkKind → ItemKind
  | planeCrtc => .plane
  | encoderCrtc => .encoder
  | connectorEncoder => .connector

/-- The kind of item that they lead to. -/
def LinkKind.target : LinkKind → ItemKind
  | planeCrtc | encoderCrtc => .crtc
  | connectorEncoder => .encoder

section

variable {ι : Type} [DecidableEq ι]

/-- The items of a kind. -/
def VkmsConfig.items (config : VkmsConfig ι) : ItemKind → List ι
  | .plane => config.planes
  | .crtc => config.crtcs
  | .encoder => config.encoders
  | .connector => config.connectors

/-- What an item is linked to, whether it is there or not. -/
def VkmsConfig.linksAt (config : VkmsConfig ι) (kind : LinkKind) (i : ι) : List ι :=
  match kind with
  | .planeCrtc => (config.plane i).possibleCrtcs
  | .encoderCrtc => (config.encoder i).possibleCrtcs
  | .connectorEncoder => (config.connector i).possibleEncoders

/-- The links of an item, if it is there. -/
def VkmsConfig.links (config : VkmsConfig ι) (kind : LinkKind) (i : ι) : List ι :=
  if i ∈ config.items kind.source then config.linksAt kind i else []

namespace ConfigfsCall

/-- The call that makes an item. -/
def make : ItemKind → ι → ConfigfsCall ι
  | .plane => makePlane
  | .crtc => makeCrtc
  | .encoder => makeEncoder
  | .connector => makeConnector

/-- The call that removes one. -/
def release : ItemKind → ι → ConfigfsCall ι
  | .plane => planeRelease
  | .crtc => crtcRelease
  | .encoder => encoderRelease
  | .connector => connectorRelease

/-- The call that makes a link. -/
def allowLink : LinkKind → ι → ι → ConfigfsCall ι
  | .planeCrtc => planeAllowLink
  | .encoderCrtc => encoderAllowLink
  | .connectorEncoder => connectorAllowLink

/-- The call that takes one away. -/
def dropLink : LinkKind → ι → ι → ConfigfsCall ι
  | .planeCrtc => planeDropLink
  | .encoderCrtc => encoderDropLink
  | .connectorEncoder => connectorDropLink

end ConfigfsCall

end

/-! ## Operations -/

/-- What is below the directory of the device, if it is there. -/
abbrev PoolDir := Option (VkmsConfigfsDevice Nat)

/-- What the scripts do to the file system: tests, reads, and changes of one file each. -/
inductive PoolOp where
  | deviceExists
  | makeDevice
  | removeDevice
  | itemExists (kind : ItemKind) (index : Nat)
  | makeItem (kind : ItemKind) (index : Nat)
  | removeItem (kind : ItemKind) (index : Nat)
  | listItems (kind : ItemKind)
  | linkExists (kind : LinkKind) (index : Nat)
  | makeLink (kind : LinkKind) (index : Nat)
  | removeLink (kind : LinkKind) (index : Nat)
  | listLinks (kind : LinkKind) (index : Nat)
  | linkResolves (kind : LinkKind) (index : Nat)
  | typeEquals (index type : Nat)
  | writeType (index type : Nat)
  | writebackEquals (index : Nat) (writeback : Bool)
  | writeWriteback (index : Nat) (writeback : Bool)
  | statusIsConnectionState (index : Nat)
  | writeStatus (index status : Nat)
  | enabledEquals (enabled : Bool)
  | enabledValue
  | writeEnabled (enabled : Bool)
  | clearConnectorLeases
  | systemIsStopping

/-- A listing returns its names, the attribute `enabled` what it holds if it can be read, and
everything else whether it succeeds. -/
abbrev PoolOp.Reply : PoolOp → Type
  | listItems _ | listLinks _ _ => List Nat
  | enabledValue => Option Bool
  | _ => Bool

/-- No link of the item is left, and none to it. -/
def VkmsConfigfsDevice.removable (s : VkmsConfigfsDevice Nat) (kind : ItemKind) (index : Nat) :
    Bool :=
  linkKinds.all fun link ↦
    (link.source != kind || (s.config.links link index).isEmpty) &&
      (link.target != kind ||
        (s.config.items link.source).all fun i ↦ !(s.config.links link i).contains index)

/-- A call of the kernel, which fails without the directory of the device. -/
def callPool (dir : PoolDir) (configfsCall : ConfigfsCall Nat) : Bool × PoolDir :=
  match dir with
  | some s => ((s.call configfsCall).1.isNone, some (s.call configfsCall).2)
  | none => (false, none)

/-- The number that the attribute shows. -/
def DrmPlaneType.toNat : DrmPlaneType → Nat
  | overlay => 0
  | primary => 1
  | cursor => 2

/-- The operation if nothing fails. -/
def PoolOp.kernel : (op : PoolOp) → PoolDir → op.Reply × PoolDir
  | deviceExists, dir => (dir.isSome, dir)
  | makeDevice, dir => if dir.isSome then (false, dir) else (true, some {})
  | removeDevice, dir =>
    match dir with
    | some s =>
      if itemKinds.all fun kind ↦ (s.config.items kind).isEmpty then (true, none)
      else (false, dir)
    | none => (false, none)
  | itemExists kind index, dir => (dir.any fun s ↦ index ∈ s.config.items kind, dir)
  | makeItem kind index, dir => callPool dir (.make kind index)
  | removeItem kind index, dir =>
    if dir.any (·.removable kind index) then callPool dir (.release kind index) else (false, dir)
  | listItems kind, dir => (dir.elim [] (·.config.items kind), dir)
  | linkExists kind index, dir => (dir.any fun s ↦ index ∈ s.config.links kind index, dir)
  | makeLink kind index, dir => callPool dir (.allowLink kind index index)
  | removeLink kind index, dir => callPool dir (.dropLink kind index index)
  | listLinks kind index, dir => (dir.elim [] (·.config.links kind index), dir)
  | linkResolves kind index, dir => (dir.any fun s ↦ index ∈ s.config.links kind index, dir)
  | typeEquals index type, dir =>
    (dir.any fun s ↦ index ∈ s.config.planes && (s.config.plane index).type.toNat = type, dir)
  | writeType index type, dir => callPool dir (.planeTypeStore index type)
  | writebackEquals index writeback, dir =>
    (dir.any fun s ↦ index ∈ s.config.crtcs && (s.config.crtc index).writeback = writeback, dir)
  | writeWriteback index writeback, dir => callPool dir (.crtcWritebackStore index writeback)
  | statusIsConnectionState index, dir =>
    (dir.any fun s ↦ index ∈ s.config.connectors && (s.config.connector index).status ≠ .unknown,
      dir)
  | writeStatus index status, dir => callPool dir (.connectorStatusStore index status)
  | enabledEquals enabled, dir => (dir.any fun s ↦ s.enabled = enabled, dir)
  | enabledValue, dir => (dir.map (·.enabled), dir)
  | writeEnabled enabled, dir => callPool dir (.deviceEnabledStore enabled .created)
  | clearConnectorLeases, dir => (true, dir)
  | systemIsStopping, dir => (false, dir)

/-- A test for whether something exists. -/
def PoolOp.isTest : PoolOp → Bool
  | deviceExists | itemExists _ _ | linkExists _ _ => true
  | _ => false

/-- What the service only looks at: besides the tests, attributes, links and directories that it
reads. -/
def PoolOp.isRead : PoolOp → Bool
  | deviceExists | itemExists _ _ | linkExists _ _ | listItems _ | listLinks _ _ | linkResolves _ _
  | typeEquals _ _ | writebackEquals _ _ | statusIsConnectionState _ | enabledEquals _
  | enabledValue => true
  | _ => false

/-- What the service makes of an operation that fails.  A directory that cannot be read looks
empty. -/
def PoolOp.failure : (op : PoolOp) → op.Reply
  | listItems _ | listLinks _ _ => []
  | enabledValue => none
  | deviceExists | makeDevice | removeDevice | itemExists _ _ | makeItem _ _ | removeItem _ _
  | linkExists _ _ | makeLink _ _ | removeLink _ _ | linkResolves _ _ | typeEquals _ _
  | writeType _ _ | writebackEquals _ _ | writeWriteback _ _ | statusIsConnectionState _
  | writeStatus _ _ | enabledEquals _ | writeEnabled _ | clearConnectorLeases
  | systemIsStopping => false

/-- The operation fails.  When the device is enabled, it may be the creation that fails. -/
def PoolOp.Fails : (op : PoolOp) → PoolDir → op.Reply → PoolDir → Prop
  | writeEnabled enabled, dir, ok, dir' =>
    ok = false ∧ dir' = dir ∨ ∃ error connectors,
      (ok, dir') = callPool dir (.deviceEnabledStore enabled (.failed error connectors))
  | systemIsStopping, dir, _, dir' => dir' = dir
  | op, dir, reply, dir' => reply = op.failure ∧ dir' = dir

/-- One operation: it does what the kernel does, or fails. -/
def PoolOp.Step (op : PoolOp) (dir : PoolDir) (reply : op.Reply) (dir' : PoolDir) : Prop :=
  (reply, dir') = op.kernel dir ∨ op.Fails dir reply dir'

/-- The scripts of the pool. -/
abbrev PoolScript := Script PoolOp PoolOp.Reply

namespace Pool

/-- The script of one operation. -/
abbrev perform (op : PoolOp) : PoolScript op.Reply := Script.perform op

/-! ## The service -/

/-- `VKMS_OUTPUT_COUNT` -/
def vkmsOutputCount : Nat := 8

/-- `resource_name_is_managed` for the entries of a group. -/
def groupIsManaged (count : Nat) (kind : ItemKind) : PoolScript Bool := do
  let names ← perform (.listItems kind)
  return names.all (· < count)

/-- The links of an item lead nowhere but to the item of its own pipeline. -/
def linkDirectoryIsManaged (index : Nat) (kind : LinkKind) : PoolScript Bool := do
  let names ← perform (.listLinks kind index)
  return names.all (· = index)

/-- `cleanup_is_safe` for this many outputs. -/
def cleanupIsSafe (count : Nat) : PoolScript Bool :=
  allOf [
    allOf (itemKinds.map (groupIsManaged count)),
    allOf ((List.range count).map fun index ↦ allOf (linkKinds.map (linkDirectoryIsManaged index)))]

/-- `rm` behind `[[ -e`. -/
def removeLinkIfPresent (kind : LinkKind) (index : Nat) : PoolScript Bool := do
  if ← perform (.linkExists kind index) then perform (.removeLink kind index)
  else return true

/-- `rmdir` behind `[[ -d`. -/
def removeConfigfsItem (kind : ItemKind) (index : Nat) : PoolScript Bool := do
  if ← perform (.itemExists kind index) then perform (.removeItem kind index)
  else return true

/-- The links of a pipeline, all of them even if one cannot be removed. -/
def removeLinks (index : Nat) : PoolScript Bool :=
  eachOf ([.connectorEncoder, .encoderCrtc, .planeCrtc].map (removeLinkIfPresent · index))

/-- The items of a pipeline, those that lead to others first. -/
def removeItems (index : Nat) : PoolScript Bool :=
  eachOf ([.connector, .encoder, .plane, .crtc].map (removeConfigfsItem · index))

/-- What `remove_pool` does to a device that is there. -/
def removeDevice (count : Nat) : PoolScript Bool :=
  allOf [
    cleanupIsSafe count,
    perform (.writeEnabled false),
    eachOf ((List.range count).map removeLinks),
    eachOf ((List.range count).map removeItems),
    perform .removeDevice,
    perform .clearConnectorLeases]

/-- The device goes with the leases of its connectors; without a device, the leases go. -/
def removePool (count : Nat) : PoolScript Bool := do
  if ← perform .deviceExists then removeDevice count
  else perform .clearConnectorLeases

/-- Nothing is taken down while the system stops. -/
def stopPool (count : Nat) : PoolScript Bool := do
  if ← perform .systemIsStopping then return true
  else removePool count

/-- The link is there and leads to where it should. -/
def validateLink (kind : LinkKind) (index : Nat) : PoolScript Bool :=
  allOf [perform (.linkExists kind index), perform (.linkResolves kind index)]

/-- The part of `validate_topology` for one pipeline. -/
def pipelineChecks (index : Nat) : List (PoolScript Bool) := [
  perform (.itemExists .plane index),
  perform (.itemExists .crtc index),
  perform (.itemExists .encoder index),
  perform (.itemExists .connector index),
  perform (.typeEquals index 1),
  perform (.writebackEquals index false),
  perform (.statusIsConnectionState index),
  validateLink .planeCrtc index,
  validateLink .encoderCrtc index,
  validateLink .connectorEncoder index]

/-- All that a pipeline has to have. -/
def validatePipeline (index : Nat) : PoolScript Bool := allOf (pipelineChecks index)

/-- The device with nothing foreign in it and with so many whole pipelines. -/
def validateTopology (count : Nat) : PoolScript Bool :=
  allOf [
    perform .deviceExists,
    cleanupIsSafe count,
    allOf ((List.range count).map validatePipeline)]

/-- A pool of four outputs may still be there from before. -/
def existingPoolOutputCount (count : Nat) : PoolScript Nat := do
  if ← perform (.itemExists .connector 4) then return count
  else return 4

/-- The same with as many pipelines as there are. -/
def validateExistingTopology (count : Nat) : PoolScript Bool := do
  let existing ← existingPoolOutputCount count
  validateTopology existing

/-- What is written to a new item. -/
def initializeItem (kind : ItemKind) (index : Nat) : List (PoolScript Bool) :=
  match kind with
  | .plane => [perform (.writeType index 1)]
  | .crtc => [perform (.writeWriteback index false)]
  | .encoder => []
  | .connector => [perform (.writeStatus index 2)]

/-- A directory, and its attributes. -/
def createItem (kind : ItemKind) (index : Nat) : PoolScript Bool :=
  allOf (perform (.makeItem kind index) :: initializeItem kind index)

/-- The items of all pipelines, kind by kind. -/
def createPipelineItems (count : Nat) : PoolScript Bool :=
  allOf (itemKinds.map fun kind ↦ allOf ((List.range count).map (createItem kind)))

/-- The links of all pipelines. -/
def createPipelineLinks (count : Nat) : PoolScript Bool :=
  allOf ((List.range count).map fun index ↦
    allOf (linkKinds.map fun kind ↦ perform (.makeLink kind index)))

/-- A device from nothing to enabled. -/
def buildNewPool (count : Nat) : PoolScript Bool :=
  allOf [
    perform .makeDevice,
    perform .deviceExists,
    createPipelineItems count,
    createPipelineLinks count,
    validateTopology count,
    perform (.writeEnabled true),
    perform (.enabledEquals true)]

/-- The end of `create_pool`, where there is no device. -/
def createNewPool (count : Nat) : PoolScript Bool := do
  if ← perform .clearConnectorLeases then
    if ← buildNewPool count then return true
    else
      let _ ← removePool count
      return false
  else return false

/-- What `create_pool` does with a device that is not whole. -/
def rebuildPool (count : Nat) : PoolScript Bool := do
  if ← removePool count then createNewPool count
  else return false

/-- A start: a pool that is whole is enabled if it is not, one that is not whole is built again, and
one that is missing is made. -/
def createPool (count : Nat) : PoolScript Bool := do
  if ← perform .deviceExists then
    if ← validateExistingTopology count then
      match ← perform .enabledValue with
      | some true => return true
      | some false => perform (.writeEnabled true)
      | none => rebuildPool count
    else rebuildPool count
  else createNewPool count

/-- What may be done to the pool.  A request that is carried out comes down to a status. -/
inductive Command where
  | start
  | stop
  | restart
  | request (index : Nat) (connected : Bool)

/-- The script behind each command of the service, and behind a request to a connector. -/
def Command.script (count : Nat) : Command → PoolScript Bool
  | start => createPool count
  | stop => stopPool count
  | restart => do if ← removePool count then createPool count else return false
  | request index connected => perform (.writeStatus index (if connected then 1 else 2))

end Pool

end VirtualDisplay
