import VirtualDisplay.Controller.Queries

/-!
# Manifest commands of the broker

The broker service takes commands as lines of text.  Two of them change the permanent displays:
`manifest-profile-set`, which puts one profile into the manifest that the driver has, and
`permanent-set`, which replaces that manifest altogether.  Both also keep the manifest in a registry
value, from which the broker restores it when it starts (`broker_commands.cpp`,
`virtualdisplay_broker.cpp`).

A text is a list of bytes.  What a command calls may fail: each registry write, and each request to
the driver.  `BrokerOutcomes` says how these calls go.  The driver serves its requests by running
its controller; the text of an `ok` reply is left out, and a reply holds the value it formats.

## What is here

* `trimBrokerCommand`, `splitBrokerWords`, `parseBrokerU32`, `parseBrokerI32` — the text of a
  command; words are separated by blanks, and numbers are decimal and must fit.
* `parsePermanentSetCommand`, `parseManifestProfileSetCommand` — the two commands, with so many
  numbers in front of a name that reaches to the end of the line.
* `manifestProfileSet`, `permanentSet` — the calls that each of them makes, in their order, with the
  early exits.
* `handleCommand` — one command on the broker's state, that is, the driver's store and the registry.

What it takes for a command to be all or nothing is in `Broker/Atomicity.lean`.
-/

set_option autoImplicit false

namespace VirtualDisplay

open SlotCalls

/-! ## Texts -/

/-- Text as bytes. -/
abbrev CommandText := List UInt8

/-- The bytes of a text. -/
def bytesOf (text : String) : CommandText := text.toUTF8.data.toList

/-- A number as the stream prints it. -/
def decimalDigits (n : Nat) : CommandText := (Nat.toDigits 10 n).map fun ch ↦ UInt8.ofNat ch.toNat

/-- A number in decimal digits. -/
def u32Text (value : UInt32) : CommandText := decimalDigits value.toNat

/-- The same with a sign. -/
def i32Text (value : Int32) : CommandText :=
  if value.toInt < 0 then 0x2d :: decimalDigits value.toInt.natAbs
  else decimalDigits value.toInt.natAbs

theorem toNat_digit {ch : Char} (h : ch.isDigit) :
    (UInt8.ofNat ch.toNat).toNat = ch.toNat ∧ 0x30 ≤ ch.toNat ∧ ch.toNat ≤ 0x39 := by
  obtain ⟨hlower, hupper⟩ := Char.isDigit_iff_toNat.mp h
  simp only [Char.reduceToNat] at hlower hupper
  exact ⟨UInt8.toNat_ofNat_of_lt' (by simp [UInt8.size]; omega), hlower, hupper⟩

theorem decimalDigits_ne_nil (n : Nat) : decimalDigits n ≠ [] := by
  simp [decimalDigits, Nat.toDigits_ne_nil]

theorem mem_decimalDigits {n : Nat} {ch : UInt8} (h : ch ∈ decimalDigits n) :
    0x30 ≤ ch ∧ ch ≤ 0x39 := by
  obtain ⟨digit, hdigit, rfl⟩ := List.mem_map.mp h
  have := toNat_digit (Nat.isDigit_of_mem_toDigits (by decide) (by decide) hdigit)
  rw [UInt8.le_iff_toNat_le, UInt8.le_iff_toNat_le, this.1]
  exact this.2

/-- The bytes that a command is trimmed of at its end. -/
def isCommandEnd (ch : UInt8) : Bool := ch == 0x0d || ch == 0x0a || ch == 0x20

/-- A command without the blanks around it and the line's end. -/
def trimBrokerCommand (value : CommandText) : CommandText :=
  (value.rdropWhile isCommandEnd).dropWhile (· == 0x20)

/-- The value of a text that is all digits. -/
def decimalValue (digits : CommandText) : Option Nat :=
  if digits.isEmpty ∨ !digits.all fun ch ↦ 0x30 ≤ ch && ch ≤ 0x39 then none
  else some (digits.foldl (fun value ch ↦ 10 * value + (ch.toNat - 0x30)) 0)

/-- A number that fits, with no sign. -/
def parseBrokerU32 (value : CommandText) : Option UInt32 :=
  match decimalValue value with
  | some n => if n < 2 ^ 32 then some (UInt32.ofNat n) else none
  | none => none

/-- A number that fits, with a minus sign or without. -/
def parseBrokerI32 : CommandText → Option Int32
  | 0x2d :: digits =>
    match decimalValue digits with
    | some n => if n ≤ 2 ^ 31 then some (Int32.ofInt (-n)) else none
    | none => none
  | digits =>
    match decimalValue digits with
    | some n => if n < 2 ^ 31 then some (Int32.ofInt n) else none
    | none => none

/-- The first words of the text, and what stands behind the last of them. -/
def splitBrokerWords (text : CommandText) : Nat → List CommandText × CommandText
  | 0 => ([], text)
  | maxWords + 1 =>
    match text.dropWhile (· == 0x20) with
    | [] => ([], [])
    | text =>
      let (words, rest) := splitBrokerWords (text.dropWhile (· != 0x20)) maxWords
      (text.takeWhile (· != 0x20) :: words, rest)

/-- `set_display_name`: the name field takes as much of the text as it has room for. -/
def displayNameOfText (name : CommandText) : DisplayName :=
  displayNameOfBytes (name.take (kDisplayNameChars - 1))

/-! ## Commands -/

/-- The two commands that change permanent displays. -/
def kManifestProfileSet : CommandText := bytesOf "manifest-profile-set "
def kPermanentSet : CommandText := bytesOf "permanent-set "

/-- The words behind the name of the command, and the display name that follows them. -/
def commandFields (name command : CommandText) (count : Nat) :
    Option (List CommandText × CommandText) :=
  if !name.isPrefixOf command then none
  else
    let (fields, rest) := splitBrokerWords (command.drop name.length) count
    let displayName := rest.dropWhile (· == 0x20)
    if fields.length ≠ count ∨ displayName.isEmpty then none else some (fields, displayName)

/-- Six numbers, and the rest of the line for a name. -/
def parsePermanentSetCommand (command : CommandText) : Option PermanentDisplayCountRequest := do
  let (fields, displayName) ← commandFields kPermanentSet command 6
  match fields with
  | [displayCount, width, height, physicalWidthMm, physicalHeightMm, refreshRateMillihz] =>
    return {
      displayCount := ← parseBrokerU32 displayCount
      width := ← parseBrokerU32 width
      height := ← parseBrokerU32 height
      physicalWidthMm := ← parseBrokerU32 physicalWidthMm
      physicalHeightMm := ← parseBrokerU32 physicalHeightMm
      refreshRateMillihz := ← parseBrokerU32 refreshRateMillihz
      displayName := displayNameOfText displayName }
  | _ => none

/-- Ten numbers, and the rest of the line for a name. -/
def parseManifestProfileSetCommand (command : CommandText) : Option DisplayManifestProfile := do
  let (fields, displayName) ← commandFields kManifestProfileSet command 10
  match fields with
  | [slot, width, height, physicalWidthMm, physicalHeightMm, refreshRateMillihz, hdrSupported,
      layoutPolicy, positionX, positionY] =>
    let slot ← parseBrokerU32 slot
    let mode : DisplayMode :=
      { width := ← parseBrokerU32 width
        height := ← parseBrokerU32 height
        refreshRateMillihz := ← parseBrokerU32 refreshRateMillihz }
    let hdrSupported ← parseBrokerU32 hdrSupported
    return {
      flags :=
        if hdrSupported ≠ 0 then
          kDisplayManifestProfileFlagRetainIdentity |||
            kDisplayManifestProfileFlagPermanentIdentity ||| kDisplayManifestProfileFlagHdrSupported
        else
          kDisplayManifestProfileFlagRetainIdentity ||| kDisplayManifestProfileFlagPermanentIdentity
      connectorIndex := slot
      displayId := permanentDisplayId slot
      containerId := containerGuidFromDisplayId (permanentDisplayId slot)
      productCode := (permanentProductCode slot).toUInt32
      serialNumber := serialNumberFromDisplayId (permanentDisplayId slot)
      physicalWidthMm := ← parseBrokerU32 physicalWidthMm
      physicalHeightMm := ← parseBrokerU32 physicalHeightMm
      nativeModeIndex := 0
      allowedModeCount := 1
      layoutPolicy := ← parseBrokerU32 layoutPolicy
      positionX := ← parseBrokerI32 positionX
      positionY := ← parseBrokerI32 positionY
      orientation := kDisplayManifestOrientationDefault
      allowedModes := #v[mode, {}, {}, {}]
      displayName := displayNameOfText displayName }
  | _ => none

/-! ## The driver, as its client sees it -/

/-- Why a call of the driver fails. -/
inductive ControlStatus where
  | success
  | transportFailed
  | invalidOutput
  | protocolIncompatible
  deriving DecidableEq, Repr, Inhabited

/-- The word for it. -/
def ControlStatus.text : ControlStatus → String
  | success => "success"
  | transportFailed => "transport_failed"
  | invalidOutput => "invalid_output"
  | protocolIncompatible => "protocol_incompatible"

/-- A result of the control client that is not a success. -/
structure ControlFailure where
  status : ControlStatus
  nativeError : UInt32 := 0
  failed : status ≠ .success := by decide
  deriving DecidableEq

/-- The word for it, with the error of the system if there is one. -/
def formatStatus (result : ControlFailure) : String :=
  if result.nativeError ≠ 0 then
    result.status.text ++ " native_error=" ++ toString result.nativeError.toNat
  else result.status.text

/-- How the calls of one command go.  A request to set a manifest may not get to the driver, and
then there is no `setReply` of the driver's backend; and the driver's answer may be lost. -/
structure BrokerOutcomes where
  permanentDisplayCount : Option ControlFailure := none
  displayManifest : Option ControlFailure := none
  setReply : Option BackendDisplayResult := some {}
  setLost : Bool := false
  /-- What the client reports if the manifest is not set, or the answer is lost. -/
  setFailure : ControlFailure := { status := .transportFailed }
  saved : Bool := true
  restored : Bool := true
  resultingDisplayCount : Option ControlFailure := none

/-! ## The broker -/

/-- What the registry value holds: nothing, a manifest, or something that has another type or size
and is not read as one. -/
inductive PersistedManifest where
  | absent
  | manifest (manifest : DisplayManifest)
  | other (type : UInt32) (bytes : List UInt8)
  deriving DecidableEq

/-- The manifest of the registry, if it is valid, or one made of a plain count. -/
def loadPersistedDisplayManifest (persisted : PersistedManifest) (maxDisplayCount : UInt32) :
    Option DisplayManifest :=
  match persisted with
  | .manifest manifest =>
    if validateDisplayManifest manifest maxDisplayCount ≠ .none then none else some manifest
  | _ => none

/-- The driver's store and the registry value. -/
structure Broker where
  driver : DisplayStore
  persisted : PersistedManifest := .absent

/-- What the broker answers. -/
inductive BrokerReply where
  | displayManifest (manifest : DisplayManifest)
  | permanentState (state : PermanentDisplayCountResult)
  | error (message : String)
  deriving DecidableEq

/-- The text of the reply starts with `ok`. -/
def BrokerReply.isOk : BrokerReply → Bool
  | error _ => false
  | _ => true

namespace Broker

/-- What the driver says of its permanent displays, if it can be asked. -/
def queryPermanentDisplayCount (b : Broker) :
    Option ControlFailure → Except ControlFailure PermanentDisplayCountResult
  | some failure => .error failure
  | none => .ok b.driver.queryPermanentDisplayCount

/-- The driver's manifest, if it can be asked for it. -/
def queryDisplayManifest (b : Broker) :
    Option ControlFailure → Except ControlFailure DisplayManifest
  | some failure => .error failure
  | none => .ok b.driver.displayManifest

/-- A manifest for the driver, which may take it, refuse it, or take it without its answer getting
through. -/
def setDisplayManifest (b : Broker) (manifest : DisplayManifest) (outcomes : BrokerOutcomes) :
    Broker × Except ControlFailure DisplayManifest :=
  match outcomes.setReply with
  | none => (b, .error outcomes.setFailure)
  | some reply =>
    match drive controller (controller.start b.driver (.applyDisplayManifest manifest)) [reply] with
    | (driver, .done (.status status)) =>
      if !status.ok ∨ outcomes.setLost then ({ b with driver }, .error outcomes.setFailure)
      else ({ b with driver }, .ok driver.displayManifest)
    | (driver, _) => ({ b with driver }, .error outcomes.setFailure)

/-- A valid manifest for the registry. -/
def saveDisplayManifest (b : Broker) (manifest : DisplayManifest) (maxDisplayCount : UInt32)
    (written : Bool) : Broker × Bool :=
  if validateDisplayManifest manifest maxDisplayCount ≠ .none then (b, false)
  else if !written then (b, false)
  else ({ b with persisted := .manifest manifest }, true)

/-- The manifest with the profile in the place of the one for its connector, or behind the others if
there is none and there is room. -/
def withManifestProfile (manifest : DisplayManifest) (maxDisplayCount : UInt32)
    (profile : DisplayManifestProfile) : Option DisplayManifest :=
  let boundedProfileCount := min manifest.profileCount.toNat kMaxPermanentDisplayProfiles
  match (manifest.profiles.toList.take boundedProfileCount).findIdx?
      (·.connectorIndex == profile.connectorIndex) with
  | some index =>
    some
      { manifest with
        maxProfileCount := maxDisplayCount
        profiles := manifest.profiles.setIfInBounds index profile }
  | none =>
    if maxDisplayCount.toNat ≤ boundedProfileCount ∨
        kMaxPermanentDisplayProfiles ≤ boundedProfileCount then none
    else
      some
        { manifest with
          maxProfileCount := maxDisplayCount
          profileCount := UInt32.ofNat (boundedProfileCount + 1)
          profiles := manifest.profiles.setIfInBounds boundedProfileCount profile }

/-- The registry first and the driver after it; if the driver refuses, the registry gets the
driver's manifest back. -/
def manifestProfileSet (b : Broker) (outcomes : BrokerOutcomes) (command : CommandText) :
    Broker × BrokerReply :=
  match parseManifestProfileSetCommand command with
  | none => (b, .error "invalid_manifest_profile_set")
  | some profile =>
    match b.queryPermanentDisplayCount outcomes.permanentDisplayCount with
    | .error failure => (b, .error (formatStatus failure))
    | .ok current =>
      if current.maxDisplayCount ≤ profile.connectorIndex then (b, .error "invalid_connector_index")
      else
        match b.queryDisplayManifest outcomes.displayManifest with
        | .error failure => (b, .error (formatStatus failure))
        | .ok originalManifest =>
          match withManifestProfile originalManifest current.maxDisplayCount profile with
          | none => (b, .error "manifest_full")
          | some manifest =>
            match b.saveDisplayManifest manifest current.maxDisplayCount outcomes.saved with
            | (b, false) => (b, .error "persistence_failed")
            | (b, true) =>
              match b.setDisplayManifest manifest outcomes with
              | (b, .error failure) =>
                ((b.saveDisplayManifest originalManifest current.maxDisplayCount
                    outcomes.restored).1,
                  .error (formatStatus failure))
              | (b, .ok applied) => (b, .displayManifest applied)

/-- The driver first, and the registry with what the driver has taken. -/
def permanentSet (b : Broker) (outcomes : BrokerOutcomes) (command : CommandText) :
    Broker × BrokerReply :=
  match parsePermanentSetCommand command with
  | none => (b, .error "invalid_permanent_set")
  | some request =>
    match b.queryPermanentDisplayCount outcomes.permanentDisplayCount with
    | .error failure => (b, .error (formatStatus failure))
    | .ok current =>
      let manifest := displayManifestFromPermanentSettings request current.maxDisplayCount
      match b.setDisplayManifest manifest outcomes with
      | (b, .error failure) => (b, .error (formatStatus failure))
      | (b, .ok applied) =>
        match b.saveDisplayManifest applied current.maxDisplayCount outcomes.saved with
        | (b, false) => (b, .error "persistence_failed")
        | (b, true) =>
          match b.queryPermanentDisplayCount outcomes.resultingDisplayCount with
          | .error failure => (b, .error (formatStatus failure))
          | .ok result => (b, .permanentState result)

/-- The manifest commands; other commands are not modelled. -/
def handleCommand (b : Broker) (outcomes : BrokerOutcomes) (command : CommandText) :
    Option (Broker × BrokerReply) :=
  if kManifestProfileSet.isPrefixOf command then some (b.manifestProfileSet outcomes command)
  else if kPermanentSet.isPrefixOf command then some (b.permanentSet outcomes command)
  else none

end Broker

end VirtualDisplay
