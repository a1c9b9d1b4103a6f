import VirtualDisplay.Broker.Commands
import VirtualDisplay.Lib.Bits

/-!
# What the broker prints

The broker answers a query with lines `key=value` (`broker_commands.cpp`).  Clients read them line
by line, and the values have display names in them, which may hold any bytes; so a name is printed
with its control characters and backslashes escaped.  What is read back from a printed state or
manifest are the keys and values that were printed, whatever the names are
(`formatted_unforgeable`).

The refresh rate is printed as the stream prints a double, with six significant digits.

## What is here

* `escapeKeyValue`, `unescapeKeyValue` — the escape of a name and its inverse; an escaped name has
  no newline in it.
* `significantText` — a number of thousandths with six significant digits, as the stream writes it.
* `displayStatePairs`, `displayManifestPairs` — what is printed, as keys and values, and
  `formatDisplayState`, `formatDisplayManifest` as text.
* `splitOn_outputText` — the lines of the text are those of the pairs, if no pair has a newline
  (`KeyValue.Clean`).
* `outputPairs_values` — the values are those of the entries, and can be read off their places.

The keys carry the number of the entry they are of.  What is printed for a broken entry count is cut
off at the size of the table.
-/

set_option autoImplicit false

namespace VirtualDisplay

/-! ## Escaping -/

/-- A hexadecimal digit in upper case. -/
def upperHexDigit (digit : UInt8) : UInt8 := if digit < 10 then 0x30 + digit else 0x37 + digit

/-- A character of a value: those that would end the line, or hide something in it, are spelled out.
-/
def escapeChar (ch : UInt8) : CommandText :=
  if ch = 0x5c then [0x5c, 0x5c]
  else if ch = 0x0a then [0x5c, 0x6e]
  else if ch = 0x0d then [0x5c, 0x72]
  else if ch = 0x09 then [0x5c, 0x74]
  else if ch < 0x20 ∨ ch = 0x7f then
    [0x5c, 0x78, upperHexDigit (ch >>> 4), upperHexDigit (ch &&& 0x0f)]
  else [ch]

/-- A value that takes one line. -/
def escapeKeyValue (value : CommandText) : CommandText := value.flatMap escapeChar

/-- The value of a hexadecimal digit. -/
def hexDigitValue (ch : UInt8) : UInt8 := if ch < 0x40 then ch - 0x30 else ch - 0x37

/-- The character behind a backslash. -/
def unescapeLetter (letter : UInt8) : UInt8 :=
  if letter = 0x6e then 0x0a
  else if letter = 0x72 then 0x0d
  else if letter = 0x74 then 0x09
  else letter

/-- What a client makes of an escaped text. -/
def unescapeKeyValue : CommandText → CommandText
  | 0x5c :: 0x78 :: high :: low :: rest =>
    (hexDigitValue high <<< 4 ||| hexDigitValue low) :: unescapeKeyValue rest
  | 0x5c :: letter :: rest => unescapeLetter letter :: unescapeKeyValue rest
  | ch :: rest => ch :: unescapeKeyValue rest
  | [] => []

theorem hexDigitValue_upperHexDigit (ch : UInt8) :
    hexDigitValue (upperHexDigit (ch >>> 4)) <<< 4 |||
      hexDigitValue (upperHexDigit (ch &&& 0x0f)) = ch := by
  refine Bits.forall_byte (P := fun ch ↦ hexDigitValue (upperHexDigit (ch >>> 4)) <<< 4 |||
    hexDigitValue (upperHexDigit (ch &&& 0x0f)) = ch) ?_ ch
  decide +kernel

theorem unescapeKeyValue_escapeChar (ch : UInt8) (rest : CommandText) :
    unescapeKeyValue (escapeChar ch ++ rest) = ch :: unescapeKeyValue rest := by
  rw [escapeChar]
  split_ifs with hbackslash hnewline hreturn htab hcontrol
  · rw [hbackslash]
    rfl
  · rw [hnewline]
    rfl
  · rw [hreturn]
    rfl
  · rw [htab]
    rfl
  · show (hexDigitValue (upperHexDigit (ch >>> 4)) <<< 4 |||
      hexDigitValue (upperHexDigit (ch &&& 0x0f))) :: unescapeKeyValue rest = _
    rw [hexDigitValue_upperHexDigit]
  · rw [List.singleton_append, unescapeKeyValue]
    · exact fun _ _ _ h ↦ absurd h hbackslash
    · exact fun _ _ h ↦ absurd h hbackslash

theorem unescapeKeyValue_escapeKeyValue (value : CommandText) :
    unescapeKeyValue (escapeKeyValue value) = value := by
  induction value with
  | nil => rfl
  | cons ch value ih =>
    rw [escapeKeyValue, List.flatMap_cons, unescapeKeyValue_escapeChar]
    exact congrArg (ch :: ·) ih

/-- A text without control characters. -/
def Printable (text : CommandText) : Prop := ∀ ch ∈ text, 0x20 ≤ ch ∧ ch ≠ 0x7f

theorem printable_of_all {text : CommandText}
    (h : text.all (fun ch ↦ 0x20 ≤ ch && ch != 0x7f) = true) : Printable text := by
  intro ch hch
  simpa using List.all_eq_true.mp h ch hch

theorem printable_escapeChar (ch : UInt8) : Printable (escapeChar ch) := by
  refine Bits.forall_byte (P := fun ch ↦ Printable (escapeChar ch)) (fun n ↦ printable_of_all ?_) ch
  revert n
  decide +kernel

theorem printable_escapeKeyValue (value : CommandText) : Printable (escapeKeyValue value) := by
  intro ch hch
  obtain ⟨source, -, hch⟩ := List.mem_flatMap.mp hch
  exact printable_escapeChar source ch hch

/-! ## Numbers -/

/-- A hexadecimal digit in lower case. -/
def lowerHexDigit (digit : Nat) : UInt8 :=
  UInt8.ofNat (if digit < 10 then 0x30 + digit else 0x57 + digit)

/-- `%0*x`. -/
def hexText (width value : Nat) : CommandText :=
  (List.range width).map fun index ↦ lowerHexDigit (value / 16 ^ (width - 1 - index) % 16)

/-- `%08x-%04x-%04x-%02x%02x-%02x%02x%02x%02x%02x%02x`. -/
def brokerGuidString (guid : Guid) : CommandText :=
  hexText 8 guid.data1.toNat ++ bytesOf "-" ++ hexText 4 guid.data2.toNat ++ bytesOf "-" ++
    hexText 4 guid.data3.toNat ++ bytesOf "-" ++
    (guid.data4.toList.take 2).flatMap (hexText 2 ·.toNat) ++ bytesOf "-" ++
    (guid.data4.toList.drop 2).flatMap (hexText 2 ·.toNat)

/-- The quotient rounded to the nearest number, of two to the even one. -/
def roundedDiv (a b : Nat) : Nat :=
  if 2 * (a % b) < b ∨ 2 * (a % b) = b ∧ a / b % 2 = 0 then a / b else a / b + 1

/-- `value / 1000.0` as a double: a numerator of 53 bits over a power of two. -/
def thousandth (value : Nat) : Nat × Nat :=
  let shift := 62 - Nat.log2 (value * 2 ^ 10 / 1000)
  (roundedDiv (value * 2 ^ shift) 1000, 2 ^ shift)

/-- The digits behind the point, without zeros at the end, and the point if there are any. -/
def fractionText (width fraction : Nat) : CommandText :=
  let digits := ((List.range width).map fun index ↦
    UInt8.ofNat (0x30 + fraction / 10 ^ (width - 1 - index) % 10)).rdropWhile (· == 0x30)
  if digits = [] then [] else 0x2e :: digits

/-- A number of six digits, the first of which counts 10^(magnitude - 3). -/
def significantText (digits magnitude : Nat) : CommandText :=
  if magnitude < 9 then
    decimalDigits (digits / 10 ^ (8 - magnitude)) ++
      fractionText (8 - magnitude) (digits % 10 ^ (8 - magnitude))
  else
    decimalDigits (digits / 10 ^ 5) ++ fractionText 5 (digits % 10 ^ 5) ++ bytesOf "e+0" ++
      decimalDigits (magnitude - 3)

/-- `value / 1000.0` as the stream prints it. -/
def thousandthText (value : Nat) : CommandText :=
  if value = 0 then [0x30]
  else
    let (numerator, denominator) := thousandth value
    let magnitude := Nat.log 10 (numerator * 1000 / denominator)
    let digits := roundedDiv (numerator * 10 ^ 8) (denominator * 10 ^ magnitude)
    if digits = 10 ^ 6 then significantText (10 ^ 5) (magnitude + 1)
    else significantText digits magnitude

example : thousandthText 144500 = bytesOf "144.5" := by decide
example : thousandthText 4294967295 = bytesOf "4.29497e+06" := by decide

/-! ## Lines -/

/-- A key and its value. -/
abbrev KeyValue := CommandText × CommandText

/-- A key and its value. -/
def keyValueLine (pair : KeyValue) : CommandText := pair.1 ++ [0x3d] ++ pair.2

/-- One line for each pair. -/
def outputText (pairs : List KeyValue) : CommandText :=
  pairs.flatMap fun pair ↦ keyValueLine pair ++ [0x0a]

/-- The key and the value of a line: the first equals sign is between them. -/
def keyValueOf (line : CommandText) : KeyValue :=
  (line.takeWhile (· != 0x3d), (line.dropWhile (· != 0x3d)).drop 1)

/-- A mode with its rate in thousandths of a hertz. -/
def displayModeText (width height refreshRateMillihz : UInt32) : CommandText :=
  u32Text width ++ bytesOf "x" ++ u32Text height ++ bytesOf "@" ++
    thousandthText refreshRateMillihz.toNat ++ bytesOf "Hz"

/-- A size in millimeters. -/
def sizeText (width height : UInt32) : CommandText :=
  u32Text width ++ bytesOf "x" ++ u32Text height

/-- A flag as `1` or `0`. -/
def flagText (flags flag : UInt32) : CommandText :=
  if flags &&& flag ≠ 0 then bytesOf "1" else bytesOf "0"

/-- A name without what its field is padded with. -/
def outputDisplayName (value : DisplayName) : CommandText :=
  escapeKeyValue (trimDisplayName value)

/-- What a display is. -/
def displayKind (kind : UInt32) : CommandText :=
  if kind = kDisplayStateKindPermanent then bytesOf "permanent"
  else if kind = kDisplayStateKindTemporary then bytesOf "temporary"
  else bytesOf "unknown"

/-- The lines of an entry; their keys have its index in front of the field. -/
def entryPairs (kind : String) (index : Nat) (fields : List (String × CommandText)) :
    List KeyValue :=
  fields.map fun field ↦ (bytesOf kind ++ decimalDigits index ++ bytesOf field.1, field.2)

/-- The lines of a header and of the entries behind it. -/
def outputPairs (header : List (String × CommandText)) (kind : String) (count : Nat)
    (fields : Nat → List (String × CommandText)) : List KeyValue :=
  (header.map fun field ↦ (bytesOf field.1, field.2)) ++
    (List.range count).flatMap fun index ↦ entryPairs kind index (fields index)

/-- The lines of a display, in order. -/
def displayEntryFields (entry : DisplayStateEntry) : List (String × CommandText) :=
  [(".kind", displayKind entry.kind),
    (".display_id", decimalDigits entry.displayId.toNat),
    (".lease_id", decimalDigits entry.leaseId.toNat),
    (".connector_index", u32Text entry.connectorIndex),
    (".container_id", brokerGuidString entry.containerId),
    (".product_code", u32Text entry.productCode),
    (".serial_number", u32Text entry.serialNumber),
    (".mode", displayModeText entry.width entry.height entry.refreshRateMillihz),
    (".physical_size_mm", sizeText entry.physicalWidthMm entry.physicalHeightMm),
    (".hdr_supported", flagText entry.flags kDisplayStateFlagHdrSupported),
    (".retain_identity", flagText entry.flags kDisplayStateFlagRetainIdentity),
    (".name", outputDisplayName entry.displayName)]

/-- `state.entries[index]`. -/
def QueryDisplayStateResult.entry (state : QueryDisplayStateResult) (index : Nat) :
    DisplayStateEntry :=
  state.entries[index]?.getD {}

/-- How many displays are printed: as many as are counted, and as have a place. -/
def QueryDisplayStateResult.printedCount (state : QueryDisplayStateResult) : Nat :=
  min state.entryCount.toNat kMaxDisplayStateEntries

/-- The lines before the displays. -/
def displayStateHeader (state : QueryDisplayStateResult) : List (String × CommandText) :=
  [("permanent_displays", u32Text state.permanentDisplayCount),
    ("temporary_displays", u32Text state.temporaryDisplayCount),
    ("display_entries", u32Text state.entryCount)]

/-- All lines of a state. -/
def displayStatePairs (state : QueryDisplayStateResult) : List KeyValue :=
  outputPairs (displayStateHeader state) "display." state.printedCount fun index ↦
    displayEntryFields (state.entry index)

/-- The text of a state. -/
def formatDisplayState (state : QueryDisplayStateResult) : CommandText :=
  outputText (displayStatePairs state)

/-- The lines of a profile; a native mode that the profile does not have is called invalid. -/
def profileFields (profile : DisplayManifestProfile) : List (String × CommandText) :=
  let modeValid := 0 < profile.allowedModeCount ∧
    profile.allowedModeCount.toNat ≤ kMaxAllowedModesPerProfile ∧
    profile.nativeModeIndex < profile.allowedModeCount
  let mode := profile.allowedModes[profile.nativeModeIndex.toNat]?.getD {}
  [(".connector_index", u32Text profile.connectorIndex),
    (".display_id", decimalDigits profile.displayId.toNat),
    (".container_id", brokerGuidString profile.containerId),
    (".product_code", u32Text profile.productCode),
    (".serial_number", u32Text profile.serialNumber),
    (".mode",
      if modeValid then displayModeText mode.width mode.height mode.refreshRateMillihz
      else bytesOf "invalid"),
    (".physical_size_mm", sizeText profile.physicalWidthMm profile.physicalHeightMm),
    (".hdr_supported", flagText profile.flags kDisplayManifestProfileFlagHdrSupported),
    (".retain_identity", flagText profile.flags kDisplayManifestProfileFlagRetainIdentity),
    (".layout_policy", u32Text profile.layoutPolicy),
    (".position", i32Text profile.positionX ++ bytesOf "," ++ i32Text profile.positionY),
    (".name", outputDisplayName profile.displayName)]

/-- `manifest.profiles[index]`. -/
def DisplayManifest.profile (manifest : DisplayManifest) (index : Nat) : DisplayManifestProfile :=
  manifest.profiles[index]?.getD {}

/-- How many profiles are printed. -/
def DisplayManifest.printedCount (manifest : DisplayManifest) : Nat :=
  min manifest.profileCount.toNat kMaxPermanentDisplayProfiles

/-- The lines before the profiles. -/
def displayManifestHeader (manifest : DisplayManifest) : List (String × CommandText) :=
  [("manifest_version", u32Text manifest.version),
    ("manifest_profiles", u32Text manifest.profileCount),
    ("manifest_max_profiles", u32Text manifest.maxProfileCount)]

/-- All lines of a manifest. -/
def displayManifestPairs (manifest : DisplayManifest) : List KeyValue :=
  outputPairs (displayManifestHeader manifest) "profile." manifest.printedCount fun index ↦
    profileFields (manifest.profile index)

/-- The text of a manifest. -/
def formatDisplayManifest (manifest : DisplayManifest) : CommandText :=
  outputText (displayManifestPairs manifest)

/-! ## Printable values -/

theorem Printable.append {text text' : CommandText} (h : Printable text) (h' : Printable text') :
    Printable (text ++ text') :=
  List.forall_mem_append.mpr ⟨h, h'⟩

theorem Printable.newline {text : CommandText} (h : Printable text) : 0x0a ∉ text :=
  fun hmem ↦ absurd (h _ hmem).1 (by decide)

theorem printable_decimalDigits (n : Nat) : Printable (decimalDigits n) := by
  intro ch hch
  obtain ⟨hlow, hhigh⟩ := mem_decimalDigits hch
  refine ⟨UInt8.le_trans (by decide) hlow, fun h ↦ ?_⟩
  rw [h] at hhigh
  exact absurd hhigh (by decide)

theorem printable_i32Text (value : Int32) : Printable (i32Text value) := by
  have hminus : Printable [0x2d] := printable_of_all (by decide)
  rw [i32Text]
  split_ifs
  · exact hminus.append (printable_decimalDigits _)
  · exact printable_decimalDigits _

theorem printable_hexText (width value : Nat) : Printable (hexText width value) := by
  intro ch hch
  obtain ⟨index, -, rfl⟩ := List.mem_map.mp hch
  have hdigit : value / 16 ^ (width - 1 - index) % 16 < 16 := Nat.mod_lt _ (by decide)
  generalize value / 16 ^ (width - 1 - index) % 16 = digit at hdigit
  interval_cases digit <;> decide

theorem printable_flatMap_hexText (bytes : List UInt8) (width : Nat) :
    Printable (bytes.flatMap (hexText width ·.toNat)) := by
  intro ch hch
  obtain ⟨value, -, hch⟩ := List.mem_flatMap.mp hch
  exact printable_hexText _ _ ch hch

theorem printable_brokerGuidString (guid : Guid) : Printable (brokerGuidString guid) := by
  have hdash : Printable (bytesOf "-") := printable_of_all (by decide)
  exact ((((((((printable_hexText _ _).append hdash).append (printable_hexText _ _)).append
    hdash).append (printable_hexText _ _)).append hdash).append
      (printable_flatMap_hexText _ _)).append hdash).append (printable_flatMap_hexText _ _)

theorem printable_fractionText (width fraction : Nat) :
    Printable (fractionText width fraction) := by
  have hdigits : Printable ((List.range width).map fun index ↦
      UInt8.ofNat (0x30 + fraction / 10 ^ (width - 1 - index) % 10)) := by
    intro ch hch
    obtain ⟨index, -, rfl⟩ := List.mem_map.mp hch
    have hdigit : fraction / 10 ^ (width - 1 - index) % 10 < 10 := Nat.mod_lt _ (by decide)
    generalize fraction / 10 ^ (width - 1 - index) % 10 = digit at hdigit
    interval_cases digit <;> decide
  rw [fractionText]
  split_ifs
  · exact List.forall_mem_nil _
  · refine List.forall_mem_cons.mpr ⟨by decide, fun ch hch ↦ hdigits ch ?_⟩
    exact (List.rdropWhile_prefix _ _).subset hch

theorem printable_significantText (digits magnitude : Nat) :
    Printable (significantText digits magnitude) := by
  have hexponent : Printable (bytesOf "e+0") := printable_of_all (by decide)
  rw [significantText]
  split_ifs
  · exact (printable_decimalDigits _).append (printable_fractionText _ _)
  · exact (((printable_decimalDigits _).append (printable_fractionText _ _)).append
      hexponent).append (printable_decimalDigits _)

theorem printable_thousandthText (value : Nat) : Printable (thousandthText value) := by
  rw [thousandthText]
  split
  · exact printable_of_all (by decide)
  · dsimp only
    split
    · exact printable_significantText _ _
    · exact printable_significantText _ _

theorem printable_displayModeText (width height refreshRateMillihz : UInt32) :
    Printable (displayModeText width height refreshRateMillihz) :=
  (((((printable_decimalDigits _).append (printable_of_all (by decide))).append
    (printable_decimalDigits _)).append (printable_of_all (by decide))).append
      (printable_thousandthText _)).append (printable_of_all (by decide))

theorem printable_sizeText (width height : UInt32) : Printable (sizeText width height) :=
  ((printable_decimalDigits _).append (printable_of_all (by decide))).append
    (printable_decimalDigits _)

theorem printable_flagText (flags flag : UInt32) : Printable (flagText flags flag) := by
  rw [flagText]
  split_ifs <;> exact printable_of_all (by decide)

theorem printable_displayKind (kind : UInt32) : Printable (displayKind kind) := by
  rw [displayKind]
  split_ifs <;> exact printable_of_all (by decide)

theorem printable_displayEntryFields (entry : DisplayStateEntry) :
    ∀ field ∈ displayEntryFields entry, Printable field.2 := by
  simp only [displayEntryFields, List.forall_mem_cons]
  exact ⟨printable_displayKind _, printable_decimalDigits _, printable_decimalDigits _,
    printable_decimalDigits _, printable_brokerGuidString _, printable_decimalDigits _,
    printable_decimalDigits _, printable_displayModeText _ _ _, printable_sizeText _ _,
    printable_flagText _ _, printable_flagText _ _, printable_escapeKeyValue _,
    List.forall_mem_nil _⟩

theorem printable_profileFields (profile : DisplayManifestProfile) :
    ∀ field ∈ profileFields profile, Printable field.2 := by
  have hmode (valid : Prop) [Decidable valid] (mode : DisplayMode) : Printable
      (if valid then displayModeText mode.width mode.height mode.refreshRateMillihz
      else bytesOf "invalid") := by
    split_ifs
    · exact printable_displayModeText _ _ _
    · exact printable_of_all (by decide)
  have hposition : Printable
      (i32Text profile.positionX ++ bytesOf "," ++ i32Text profile.positionY) :=
    ((printable_i32Text _).append (printable_of_all (by decide))).append
      (printable_i32Text _)
  simp only [profileFields, List.forall_mem_cons]
  exact ⟨printable_decimalDigits _, printable_decimalDigits _, printable_brokerGuidString _,
    printable_decimalDigits _, printable_decimalDigits _, hmode _ _, printable_sizeText _ _,
    printable_flagText _ _, printable_flagText _ _, printable_decimalDigits _, hposition,
    printable_escapeKeyValue _, List.forall_mem_nil _⟩

/-! ## Reading the lines back -/

/-- A key that ends where it should, and a value on one line. -/
structure KeyValue.Clean (pair : KeyValue) : Prop where
  key : ∀ ch ∈ pair.1, ch ≠ 0x0a ∧ ch ≠ 0x3d
  value : 0x0a ∉ pair.2

theorem keyValueOf_keyValueLine {pair : KeyValue} (h : pair.Clean) :
    keyValueOf (keyValueLine pair) = pair := by
  have hkey : ∀ ch ∈ pair.1, (ch != 0x3d) = true := fun ch hch ↦ by
    simpa using (h.key ch hch).2
  rw [keyValueOf, keyValueLine, List.append_assoc, List.takeWhile_append_of_pos hkey,
    List.dropWhile_append_of_pos hkey]
  simp

/-- The lines of a text are those that were printed. -/
theorem splitOn_outputText {pairs : List KeyValue} (h : ∀ pair ∈ pairs, pair.Clean) :
    (outputText pairs).splitOn 0x0a = pairs.map keyValueLine ++ [[]] := by
  induction pairs with
  | nil => rfl
  | cons pair pairs ih =>
    obtain ⟨hpair, hpairs⟩ := List.forall_mem_cons.mp h
    have hline : 0x0a ∉ keyValueLine pair := by
      simp only [keyValueLine, List.mem_append, not_or]
      exact ⟨⟨fun hmem ↦ (hpair.key _ hmem).1 rfl, by decide⟩, hpair.value⟩
    rw [outputText, List.flatMap_cons, List.append_assoc, List.singleton_append,
      List.splitOn_append_cons_self_of_not_mem hline]
    exact congrArg (_ :: ·) (ih hpairs)

theorem outputText_inj {pairs pairs' : List KeyValue} (h : ∀ pair ∈ pairs, pair.Clean)
    (h' : ∀ pair ∈ pairs', pair.Clean) (htext : outputText pairs = outputText pairs') :
    pairs = pairs' := by
  have hlines := splitOn_outputText h
  rw [htext, splitOn_outputText h'] at hlines
  have hread {pairs : List KeyValue} (h : ∀ pair ∈ pairs, pair.Clean) :
      (pairs.map keyValueLine).map keyValueOf = pairs := by
    rw [List.map_map]
    exact (List.map_congr_left fun pair hpair ↦ keyValueOf_keyValueLine (h pair hpair)).trans
      (List.map_id pairs)
  rw [← hread h, ← hread h', List.append_cancel_right hlines]

/-- What a name of a field is made of. -/
def isKeyByte (ch : UInt8) : Bool := ch != 0x0a && ch != 0x3d

theorem clean_of_all {key value : CommandText} (hkey : key.all isKeyByte = true)
    (hvalue : Printable value) : KeyValue.Clean (key, value) := by
  refine ⟨fun ch hch ↦ ?_, hvalue.newline⟩
  simpa [isKeyByte] using List.all_eq_true.mp hkey ch hch

theorem isKeyByte_decimalDigits (n : Nat) : (decimalDigits n).all isKeyByte = true := by
  refine List.all_eq_true.mpr fun ch hch ↦ ?_
  have hdigit := (mem_decimalDigits hch).2
  have hne : ch ≠ 0x3d := fun h ↦ absurd (h ▸ hdigit) (by decide)
  have hnewline : ch ≠ 0x0a := fun h ↦ (printable_decimalDigits n).newline (h ▸ hch)
  simp [isKeyByte, hne, hnewline]

/-- The names of the lines, each list in the order of its text. -/
def kDisplayStateHeaderNames : List String :=
  ["permanent_displays", "temporary_displays", "display_entries"]

def kDisplayFieldNames : List String :=
  [".kind", ".display_id", ".lease_id", ".connector_index", ".container_id", ".product_code",
    ".serial_number", ".mode", ".physical_size_mm", ".hdr_supported", ".retain_identity", ".name"]

def kDisplayManifestHeaderNames : List String :=
  ["manifest_version", "manifest_profiles", "manifest_max_profiles"]

def kProfileFieldNames : List String :=
  [".connector_index", ".display_id", ".container_id", ".product_code", ".serial_number", ".mode",
    ".physical_size_mm", ".hdr_supported", ".retain_identity", ".layout_policy", ".position",
    ".name"]

/-- The keys of a text with so many entries. -/
def outputKeys (header : List String) (kind : String) (names : List String) (count : Nat) :
    List CommandText :=
  header.map bytesOf ++ (List.range count).flatMap fun index ↦
    names.map fun name ↦ bytesOf kind ++ decimalDigits index ++ bytesOf name

theorem length_flatMap_range {α : Type} {f : Nat → List α} {size : Nat}
    (hsize : ∀ index, (f index).length = size) (count : Nat) :
    ((List.range count).flatMap f).length = count * size := by
  rw [List.length_flatMap, List.map_congr_left (g := fun _ ↦ size) fun index _ ↦ hsize index]
  simp

/-- Chunks of equal length can be told apart in their concatenation. -/
theorem flatMap_range_inj {α : Type} {f g : Nat → List α}
    (hlength : ∀ index, (f index).length = (g index).length) {count : Nat}
    (h : (List.range count).flatMap f = (List.range count).flatMap g) :
    ∀ index < count, f index = g index := by
  induction count with
  | zero => exact fun _ hindex ↦ absurd hindex (Nat.not_lt_zero _)
  | succ count ih =>
    rw [List.range_succ, List.flatMap_append, List.flatMap_append, List.flatMap_singleton,
      List.flatMap_singleton] at h
    obtain ⟨hinit, hlast⟩ := List.append_inj' h (hlength count)
    intro index hindex
    rcases Nat.lt_succ_iff_lt_or_eq.mp hindex with hlt | rfl
    · exact ih hinit index hlt
    · exact hlast

section

variable {header : List (String × CommandText)} {kind : String} {count : Nat}
  {fields : Nat → List (String × CommandText)} {headerNames names : List String}

theorem outputPairs_keys (hheader : header.map Prod.fst = headerNames)
    (hfields : ∀ index, (fields index).map Prod.fst = names) :
    (outputPairs header kind count fields).map Prod.fst =
      outputKeys headerNames kind names count := by
  rw [outputPairs, outputKeys, List.map_append, List.map_map, List.map_flatMap, ← hheader,
    List.map_map]
  refine congrArg (_ ++ ·) (List.flatMap_congr fun index _ ↦ ?_)
  rw [entryPairs, ← hfields index, List.map_map, List.map_map]
  rfl

/-- Lines are clean if their keys are, which have nothing of the entries in them. -/
theorem clean_outputPairs (hheader : header.map Prod.fst = headerNames)
    (hfields : ∀ index, (fields index).map Prod.fst = names)
    (hkind : (bytesOf kind).all isKeyByte = true)
    (hheaderNames : headerNames.all (fun name ↦ (bytesOf name).all isKeyByte) = true)
    (hnames : names.all (fun name ↦ (bytesOf name).all isKeyByte) = true)
    (hheaderValues : ∀ field ∈ header, Printable field.2)
    (hvalues : ∀ index, ∀ field ∈ fields index, Printable field.2) :
    ∀ pair ∈ outputPairs header kind count fields, pair.Clean := by
  intro pair hpair
  rcases List.mem_append.mp hpair with hpair | hpair
  · obtain ⟨field, hfield, rfl⟩ := List.mem_map.mp hpair
    have hname : field.1 ∈ headerNames := hheader ▸ List.mem_map_of_mem hfield
    exact clean_of_all (List.all_eq_true.mp hheaderNames _ hname) (hheaderValues field hfield)
  · obtain ⟨index, -, hpair⟩ := List.mem_flatMap.mp hpair
    obtain ⟨field, hfield, rfl⟩ := List.mem_map.mp hpair
    have hname : field.1 ∈ names := hfields index ▸ List.mem_map_of_mem hfield
    refine clean_of_all ?_ (hvalues index field hfield)
    rw [List.all_append, List.all_append, hkind, isKeyByte_decimalDigits,
      List.all_eq_true.mp hnames _ hname]
    rfl

/-- Texts of the same form are equal only if the values of all entries are. -/
theorem outputPairs_values {header' : List (String × CommandText)} {count' : Nat}
    {fields' : Nat → List (String × CommandText)}
    (hheader : header.map Prod.fst = headerNames) (hheader' : header'.map Prod.fst = headerNames)
    (hfields : ∀ index, (fields index).map Prod.fst = names)
    (hfields' : ∀ index, (fields' index).map Prod.fst = names) (hnames : names ≠ [])
    (h : outputPairs header kind count fields = outputPairs header' kind count' fields') :
    ∀ index < count, (fields index).map Prod.snd = (fields' index).map Prod.snd := by
  have hentry (fields : Nat → List (String × CommandText))
      (hfields : ∀ index, (fields index).map Prod.fst = names) (index : Nat) :
      (entryPairs kind index (fields index)).length = names.length := by
    rw [entryPairs, List.length_map, ← hfields index, List.length_map]
  have hlength : header.length = header'.length := by
    rw [← List.length_map (f := Prod.fst), hheader, ← hheader', List.length_map]
  obtain ⟨-, hentries⟩ := List.append_inj h (by rw [List.length_map, List.length_map, hlength])
  have hcount : count = count' := by
    have hlengths := congrArg List.length hentries
    rw [length_flatMap_range (hentry fields hfields),
      length_flatMap_range (hentry fields' hfields')] at hlengths
    exact Nat.eq_of_mul_eq_mul_right (List.length_pos_iff.mpr hnames) hlengths
  rw [← hcount] at hentries
  intro index hindex
  have hpairs := flatMap_range_inj
    (fun index ↦ (hentry fields hfields index).trans (hentry fields' hfields' index).symm)
    hentries index hindex
  have hvalues := congrArg (List.map Prod.snd) hpairs
  rwa [entryPairs, entryPairs, List.map_map, List.map_map] at hvalues

end

theorem displayStateHeader_names (state : QueryDisplayStateResult) :
    (displayStateHeader state).map Prod.fst = kDisplayStateHeaderNames := rfl

theorem displayEntryFields_names (entry : DisplayStateEntry) :
    (displayEntryFields entry).map Prod.fst = kDisplayFieldNames := rfl

theorem displayManifestHeader_names (manifest : DisplayManifest) :
    (displayManifestHeader manifest).map Prod.fst = kDisplayManifestHeaderNames := rfl

theorem profileFields_names (profile : DisplayManifestProfile) :
    (profileFields profile).map Prod.fst = kProfileFieldNames := rfl

theorem clean_displayStatePairs (state : QueryDisplayStateResult) :
    ∀ pair ∈ displayStatePairs state, pair.Clean := by
  refine clean_outputPairs (displayStateHeader_names state)
    (fun _ ↦ displayEntryFields_names _) (by decide) (by decide)
    (by decide) ?_ (fun _ ↦ printable_displayEntryFields _)
  simp only [displayStateHeader, List.forall_mem_cons]
  exact ⟨printable_decimalDigits _, printable_decimalDigits _, printable_decimalDigits _,
    List.forall_mem_nil _⟩

theorem clean_displayManifestPairs (manifest : DisplayManifest) :
    ∀ pair ∈ displayManifestPairs manifest, pair.Clean := by
  refine clean_outputPairs (displayManifestHeader_names manifest)
    (fun _ ↦ profileFields_names _) (by decide) (by decide)
    (by decide) ?_ (fun _ ↦ printable_profileFields _)
  simp only [displayManifestHeader, List.forall_mem_cons]
  exact ⟨printable_decimalDigits _, printable_decimalDigits _, printable_decimalDigits _,
    List.forall_mem_nil _⟩

theorem escapeKeyValue_injective : Function.Injective escapeKeyValue :=
  Function.LeftInverse.injective unescapeKeyValue_escapeKeyValue

/-- **Names cannot forge lines.**  The lines of a printed state or manifest have the keys that
their number of entries says, and the values that were printed; texts are equal only if the names
in them are, since a name can be told from what it was escaped to, which has no control
characters. -/
theorem formatted_unforgeable :
    (∀ state,
      (formatDisplayState state).splitOn 0x0a =
        (displayStatePairs state).map keyValueLine ++ [[]] ∧
      (∀ pair ∈ displayStatePairs state, keyValueOf (keyValueLine pair) = pair) ∧
      (displayStatePairs state).map Prod.fst =
        outputKeys kDisplayStateHeaderNames "display." kDisplayFieldNames state.printedCount) ∧
    (∀ manifest,
      (formatDisplayManifest manifest).splitOn 0x0a =
        (displayManifestPairs manifest).map keyValueLine ++ [[]] ∧
      (∀ pair ∈ displayManifestPairs manifest, keyValueOf (keyValueLine pair) = pair) ∧
      (displayManifestPairs manifest).map Prod.fst =
        outputKeys kDisplayManifestHeaderNames "profile." kProfileFieldNames
          manifest.printedCount) ∧
    (∀ state state', formatDisplayState state = formatDisplayState state' →
      ∀ index < state.printedCount,
        trimDisplayName (state.entry index).displayName =
          trimDisplayName (state'.entry index).displayName) ∧
    (∀ manifest manifest', formatDisplayManifest manifest = formatDisplayManifest manifest' →
      ∀ index < manifest.printedCount,
        trimDisplayName (manifest.profile index).displayName =
          trimDisplayName (manifest'.profile index).displayName) ∧
    Function.Injective escapeKeyValue ∧ ∀ value, Printable (escapeKeyValue value) := by
  refine ⟨fun state ↦ ⟨splitOn_outputText (clean_displayStatePairs state),
      fun pair hpair ↦ keyValueOf_keyValueLine (clean_displayStatePairs state pair hpair),
      outputPairs_keys (displayStateHeader_names state) fun _ ↦ displayEntryFields_names _⟩,
    fun manifest ↦ ⟨splitOn_outputText (clean_displayManifestPairs manifest),
      fun pair hpair ↦ keyValueOf_keyValueLine (clean_displayManifestPairs manifest pair hpair),
      outputPairs_keys (displayManifestHeader_names manifest) fun _ ↦ profileFields_names _⟩,
    fun state state' htext index hindex ↦ ?_, fun manifest manifest' htext index hindex ↦ ?_,
    escapeKeyValue_injective, printable_escapeKeyValue⟩
  · have hpairs := outputText_inj (clean_displayStatePairs state)
      (clean_displayStatePairs state') htext
    have hvalues := outputPairs_values (displayStateHeader_names state)
      (displayStateHeader_names state') (fun _ ↦ displayEntryFields_names _)
      (fun _ ↦ displayEntryFields_names _) (by decide) hpairs index hindex
    have hname := congrArg List.getLast? hvalues
    exact escapeKeyValue_injective (Option.some.inj hname)
  · have hpairs := outputText_inj (clean_displayManifestPairs manifest)
      (clean_displayManifestPairs manifest') htext
    have hvalues := outputPairs_values (displayManifestHeader_names manifest)
      (displayManifestHeader_names manifest') (fun _ ↦ profileFields_names _)
      (fun _ ↦ profileFields_names _) (by decide) hpairs index hindex
    have hname := congrArg List.getLast? hvalues
    exact escapeKeyValue_injective (Option.some.inj hname)

end VirtualDisplay
