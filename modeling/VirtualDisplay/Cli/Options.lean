import VirtualDisplay.Broker.Commands

/-!
# Options of the command line tool

The tool takes the settings of permanent displays as options, each with a value behind it, and
sends them to the broker as one line of text (`cli_commands.cpp`).  The messages for a wrong option
are left out: a parser that prints one has no options to return.

`parse_refresh_millihz` reads a decimal fraction as the C library does.  It is a parameter,
`parseRefreshMillihz`.

## What is here

* `parsePermanentOptions`, `parseProfileOptions` — the two commands; they share the options of a
  display (`setDisplayOption`) and the loop over the arguments (`parseOptions`).
* `brokerCommandText`, `permanentSetBrokerCommand`, `manifestProfileSetBrokerCommand` — the line
  that is sent.
* `parseOptions_invariant` — the induction over the arguments, for whatever every option preserves.
  Both parsers use it for the safety of the name (`parsePermanentOptions_safe`).

A name is safe when it has no control characters.  Blanks are not control characters, and so a name
may begin or end with them; `Cli/RoundTrip.lean` is about what becomes of these.
-/

set_option autoImplicit false

namespace VirtualDisplay

/-- The options of `permanent set`, with their defaults. -/
structure PermanentOptions where
  count : UInt32 := 1
  width : UInt32 := 1920
  height : UInt32 := 1080
  physicalWidthMm : UInt32 := kDefaultPhysicalWidthMillimeters
  physicalHeightMm : UInt32 := kDefaultPhysicalHeightMillimeters
  refreshRateMillihz : UInt32 := 60000
  name : CommandText := bytesOf "Sunshine Display"
  deriving DecidableEq

/-- The options of `manifest profile set`: one display, and where it is. -/
structure ProfileOptions extends PermanentOptions where
  slot : UInt32 := 0
  hdrSupported : UInt32 := 1
  layoutPolicy : UInt32 := kDisplayManifestLayoutPolicyNone
  positionX : Int32 := 0
  positionY : Int32 := 0
  deriving DecidableEq

/-! ## Values -/

/-- The tool and the broker read numbers the same way. -/
def parseCliU32 (value : CommandText) : Option UInt32 := parseBrokerU32 value

/-- A number with a sign. -/
def parseCliI32 (value : CommandText) : Option Int32 := parseBrokerI32 value

/-- A name that fits and has no control characters. -/
def isSafeDisplayName (value : CommandText) : Bool :=
  if value.isEmpty || kDisplayNameChars ≤ value.length then false
  else !value.any fun ch ↦ ch < 0x20 || ch == 0x7f

/-- `--layout`. -/
def parseLayoutPolicy (value : CommandText) : Option UInt32 :=
  if value = bytesOf "none" then some kDisplayManifestLayoutPolicyNone
  else if value = bytesOf "apply" then some kDisplayManifestLayoutPolicyApply
  else if value = bytesOf "persist" then some kDisplayManifestLayoutPolicyApplyAndPersist
  else none

/-- `--hdr`. -/
def parseHdrSupported (value : CommandText) : Option UInt32 :=
  (parseCliU32 value).filter (· ≤ 1)

/-! ## Options -/

section

variable (parseRefreshMillihz : CommandText → Option UInt32)

/-- The options that both parsers know. -/
def setDisplayOption (arg value : CommandText) (options : PermanentOptions) :
    Option PermanentOptions :=
  if arg = bytesOf "--width" then
    (parseCliU32 value).map fun width ↦ { options with width }
  else if arg = bytesOf "--height" then
    (parseCliU32 value).map fun height ↦ { options with height }
  else if arg = bytesOf "--physical-width-mm" then
    (parseCliU32 value).map fun physicalWidthMm ↦ { options with physicalWidthMm }
  else if arg = bytesOf "--physical-height-mm" then
    (parseCliU32 value).map fun physicalHeightMm ↦ { options with physicalHeightMm }
  else if arg = bytesOf "--refresh" then
    (parseRefreshMillihz value).map fun refreshRateMillihz ↦ { options with refreshRateMillihz }
  else if arg = bytesOf "--name" then
    if isSafeDisplayName value then some { options with name := value } else none
  else none

/-- The options, and whether `--count` has been seen. -/
def setPermanentOption (arg value : CommandText) :
    PermanentOptions × Bool → Option (PermanentOptions × Bool)
  | (options, sawCount) =>
    if arg = bytesOf "--count" then
      (parseCliU32 value).map fun count ↦ ({ options with count }, true)
    else
      (setDisplayOption parseRefreshMillihz arg value options).map fun options ↦ (options, sawCount)

/-- The options, and whether `--slot` has been seen. -/
def setProfileOption (arg value : CommandText) :
    ProfileOptions × Bool → Option (ProfileOptions × Bool)
  | (options, sawSlot) =>
    if arg = bytesOf "--slot" then
      (parseCliU32 value).map fun slot ↦ ({ options with slot }, true)
    else if arg = bytesOf "--layout" then
      (parseLayoutPolicy value).map fun layoutPolicy ↦ ({ options with layoutPolicy }, sawSlot)
    else if arg = bytesOf "--x" then
      (parseCliI32 value).map fun positionX ↦ ({ options with positionX }, sawSlot)
    else if arg = bytesOf "--y" then
      (parseCliI32 value).map fun positionY ↦ ({ options with positionY }, sawSlot)
    else if arg = bytesOf "--hdr" then
      (parseHdrSupported value).map fun hdrSupported ↦ ({ options with hdrSupported }, sawSlot)
    else
      (setDisplayOption parseRefreshMillihz arg value options.toPermanentOptions).map
        fun display ↦ ({ options with toPermanentOptions := display }, sawSlot)

/-- The loop over the arguments: each option takes the argument behind it as its value. -/
def parseOptions {σ : Type} (setOption : CommandText → CommandText → σ → Option σ) (options : σ) :
    List CommandText → Option σ
  | [] => some options
  | [_] => none
  | arg :: value :: args =>
    match setOption arg value options with
    | some options => parseOptions setOption options args
    | none => none

/-- The options from a place on; for some commands the count must be among them. -/
def parsePermanentOptions (args : List CommandText) (first : Nat) (requireCount : Bool) :
    Option PermanentOptions :=
  match parseOptions (setPermanentOption parseRefreshMillihz) ({}, false) (args.drop first) with
  | some (options, sawCount) => if requireCount && !sawCount then none else some options
  | none => none

/-- The options from a place on, the slot among them. -/
def parseProfileOptions (args : List CommandText) (first : Nat) : Option ProfileOptions :=
  match parseOptions (setProfileOption parseRefreshMillihz) ({}, false) (args.drop first) with
  | some (options, sawSlot) => if !sawSlot then none else some options
  | none => none

end

/-! ## Requests -/

/-- The request for so many displays that are all alike. -/
def makePermanentCountRequest (options : PermanentOptions) : PermanentDisplayCountRequest where
  displayCount := options.count
  width := options.width
  height := options.height
  physicalWidthMm := options.physicalWidthMm
  physicalHeightMm := options.physicalHeightMm
  refreshRateMillihz := options.refreshRateMillihz
  displayName := displayNameOfBytes (options.name.take (kDisplayNameChars - 1))

/-- The fields behind the name of the command, with a blank behind each, and the display name. -/
def brokerCommandText (command : CommandText) (fields : List CommandText) (name : CommandText) :
    CommandText :=
  command ++ fields.flatMap (· ++ [0x20]) ++ name

/-- The command that the broker is sent. -/
def permanentSetBrokerCommand (options : PermanentOptions) : CommandText :=
  brokerCommandText kPermanentSet
    [u32Text options.count, u32Text options.width, u32Text options.height,
      u32Text options.physicalWidthMm, u32Text options.physicalHeightMm,
      u32Text options.refreshRateMillihz]
    options.name

/-- The command for one profile. -/
def manifestProfileSetBrokerCommand (options : ProfileOptions) : CommandText :=
  brokerCommandText kManifestProfileSet
    [u32Text options.slot, u32Text options.width, u32Text options.height,
      u32Text options.physicalWidthMm, u32Text options.physicalHeightMm,
      u32Text options.refreshRateMillihz, u32Text options.hdrSupported,
      u32Text options.layoutPolicy, i32Text options.positionX, i32Text options.positionY]
    options.name

/-! ## Names of accepted options -/

/-- What each option preserves holds of the options at the end. -/
theorem parseOptions_invariant {σ : Type} {setOption : CommandText → CommandText → σ → Option σ}
    {P : σ → Prop}
    (hset : ∀ arg value options options',
      setOption arg value options = some options' → P options → P options')
    {options options' : σ} {args : List CommandText}
    (h : parseOptions setOption options args = some options') (hP : P options) : P options' := by
  induction options, args using parseOptions.induct setOption with
  | case1 options => exact Option.some.inj h ▸ hP
  | case2 => exact nomatch h
  | case3 options arg value args options₁ hvalue ih =>
    rw [parseOptions, hvalue] at h
    exact ih h (hset _ _ _ _ hvalue hP)
  | case4 options arg value args hvalue =>
    rw [parseOptions, hvalue] at h
    exact nomatch h

section

variable {parseRefreshMillihz : CommandText → Option UInt32} {arg value : CommandText}

theorem setDisplayOption_safe {options options' : PermanentOptions}
    (h : setDisplayOption parseRefreshMillihz arg value options = some options')
    (hname : isSafeDisplayName options.name) : isSafeDisplayName options'.name := by
  rw [setDisplayOption] at h
  split_ifs at h with _ _ _ _ _ _ hsafe
  on_goal 6 => exact Option.some.inj h ▸ hsafe
  all_goals
    obtain ⟨_, -, rfl⟩ := Option.map_eq_some_iff.mp h
    exact hname

theorem setPermanentOption_safe {options options' : PermanentOptions × Bool}
    (h : setPermanentOption parseRefreshMillihz arg value options = some options')
    (hname : isSafeDisplayName options.1.name) : isSafeDisplayName options'.1.name := by
  rw [setPermanentOption] at h
  split_ifs at h <;> obtain ⟨display, hset, rfl⟩ := Option.map_eq_some_iff.mp h
  · exact hname
  · exact setDisplayOption_safe hset hname

theorem setProfileOption_safe {options options' : ProfileOptions × Bool}
    (h : setProfileOption parseRefreshMillihz arg value options = some options')
    (hname : isSafeDisplayName options.1.name) : isSafeDisplayName options'.1.name := by
  rw [setProfileOption] at h
  split_ifs at h <;> obtain ⟨display, hset, rfl⟩ := Option.map_eq_some_iff.mp h
  -- Only the options of the display, which come last, set the name.
  on_goal 6 => exact setDisplayOption_safe hset hname
  all_goals exact hname

theorem parsePermanentOptions_safe {args : List CommandText} {first : Nat} {requireCount : Bool}
    {options : PermanentOptions}
    (h : parsePermanentOptions parseRefreshMillihz args first requireCount = some options) :
    isSafeDisplayName options.name := by
  rw [parsePermanentOptions] at h
  split at h
  · rename_i options' sawCount hparsed
    split_ifs at h
    rw [← Option.some.inj h]
    exact parseOptions_invariant (P := fun o ↦ isSafeDisplayName o.1.name)
      (fun _ _ _ _ ↦ setPermanentOption_safe) hparsed (by decide)
  · exact nomatch h

theorem parseProfileOptions_safe {args : List CommandText} {first : Nat} {options : ProfileOptions}
    (h : parseProfileOptions parseRefreshMillihz args first = some options) :
    isSafeDisplayName options.name := by
  rw [parseProfileOptions] at h
  split at h
  · rename_i options' sawSlot hparsed
    split_ifs at h
    rw [← Option.some.inj h]
    exact parseOptions_invariant (P := fun o ↦ isSafeDisplayName o.1.name)
      (fun _ _ _ _ ↦ setProfileOption_safe) hparsed (by decide)
  · exact nomatch h

end

end VirtualDisplay
