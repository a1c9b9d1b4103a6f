import VirtualDisplay.Cli.Options
import VirtualDisplay.LeaseStore.PermanentSettings

/-!
# From the tool to the broker

The tool sends its options as one line: numbers with a blank behind each, and the display name,
which may hold blanks itself.  The broker trims the line and splits it at its blanks.

* `commandFields_brokerCommandText` — the broker gets all fields back, and of the name what
  `trim_broker_command` would leave of it.
* `brokerCommands_roundTrip_iff` — so the round trip loses the blanks in front of a name, which are
  part of it for the tool.

## What is here

* `brokerCommandText_eq` — the line as words with a blank behind each.
* `splitBrokerWords_words`, `trimBrokerCommand_brokerCommandText` — what splitting and trimming make
  of such a line, whatever stands in the name.
* `NameBytes` — a name as the tool takes it, with its bytes in the field of the request.
* `NameBytes.canonical_trim_iff`, `NameBytes.defaulted_trim_iff` — when the name that is stored in
  the end is the same, for the two commands in turn.
* `PermanentSetRoundTrips`, `ManifestProfileSetRoundTrips` — what the two commands should achieve,
  stated on the options and the request that the broker reads.

A name of blanks only is lost altogether: the broker finds no name and refuses the line.
-/

set_option autoImplicit false

namespace VirtualDisplay

/-! ## Numbers -/

theorem decimalValue_decimalDigits (n : Nat) : decimalValue (decimalDigits n) = some n := by
  have hdigits : (decimalDigits n).all fun ch ↦ 0x30 ≤ ch && ch ≤ 0x39 := by
    simpa [List.all_eq_true] using fun ch ↦ @mem_decimalDigits n ch
  have hvalue : (decimalDigits n).foldl (fun value ch ↦ 10 * value + (ch.toNat - 0x30)) 0 = n := by
    rw [decimalDigits, List.foldl_map]
    refine Eq.trans ?_ Nat.ofDigitChars_ten_toDigits
    rw [Nat.ofDigitChars_eq_foldl]
    refine List.foldl_ext _ _ _ fun value ch hch ↦ ?_
    rw [(toNat_digit (Nat.isDigit_of_mem_toDigits (by decide) (by decide) hch)).1]
    rfl
  rw [decimalValue, if_neg, hvalue]
  simp [decimalDigits_ne_nil, hdigits]

theorem parseBrokerU32_u32Text (value : UInt32) : parseBrokerU32 (u32Text value) = some value := by
  rw [parseBrokerU32, u32Text, decimalValue_decimalDigits]
  exact (if_pos value.toNat_lt).trans (by rw [UInt32.ofNat_toNat])

theorem parseBrokerI32_i32Text (value : Int32) : parseBrokerI32 (i32Text value) = some value := by
  have hlower : -2 ^ 31 ≤ value.toInt := value.le_toInt
  have hupper : value.toInt < 2 ^ 31 := value.toInt_lt
  rw [i32Text]
  by_cases hsign : value.toInt < 0
  · have habs : -(value.toInt.natAbs : Int) = value.toInt := by omega
    rw [if_pos hsign, parseBrokerI32, decimalValue_decimalDigits]
    dsimp only
    rw [if_pos (by omega), habs, Int32.ofInt_toInt]
  · have habs : (value.toInt.natAbs : Int) = value.toInt := by omega
    have hhead : ∀ digits, decimalDigits value.toInt.natAbs ≠ 0x2d :: digits := by
      intro digits heq
      have hdigit := mem_decimalDigits (heq ▸ List.mem_cons_self)
      exact absurd hdigit (by decide)
    rw [if_neg hsign, parseBrokerI32.eq_2 _ hhead, decimalValue_decimalDigits]
    dsimp only
    rw [if_pos (by omega), habs, Int32.ofInt_toInt]

/-! ## Words -/

/-- A word of a command has a byte, and none of its bytes is a blank. -/
def IsWord (word : CommandText) : Prop :=
  word ≠ [] ∧ ∀ ch ∈ word, 0x20 < ch

theorem isWord_decimalDigits (n : Nat) : IsWord (decimalDigits n) :=
  ⟨decimalDigits_ne_nil n, fun _ hch ↦ UInt8.lt_of_lt_of_le (by decide) (mem_decimalDigits hch).1⟩

theorem isWord_u32Text (value : UInt32) : IsWord (u32Text value) :=
  isWord_decimalDigits _

theorem isWord_i32Text (value : Int32) : IsWord (i32Text value) := by
  rw [i32Text]
  split_ifs
  · refine ⟨List.cons_ne_nil _ _, fun ch hch ↦ ?_⟩
    rcases List.mem_cons.mp hch with rfl | hch
    · decide
    · exact (isWord_decimalDigits _).2 ch hch
  · exact isWord_decimalDigits _

/-- A text that a word in front of it stops at: it is empty or starts with a blank. -/
def StartsBlank (text : CommandText) : Prop := ∀ ch ∈ text.head?, ch = 0x20

theorem takeWhile_word {word tail : CommandText} (hword : IsWord word) (htail : StartsBlank tail) :
    (word ++ tail).takeWhile (· != 0x20) = word ∧ (word ++ tail).dropWhile (· != 0x20) = tail := by
  have hall : ∀ ch ∈ word, (ch != 0x20) = true := by
    intro ch hch
    simpa using (UInt8.ne_of_lt (hword.2 ch hch)).symm
  rw [List.takeWhile_append_of_pos hall, List.dropWhile_append_of_pos hall]
  cases tail with
  | nil => simp
  | cons ch tail =>
    have hblank : ch = 0x20 := htail ch rfl
    simp [hblank]

theorem dropWhile_blank_word {word : CommandText} (tail : CommandText) (hword : IsWord word) :
    (word ++ tail).dropWhile (· == 0x20) = word ++ tail := by
  obtain ⟨hne, hword⟩ := hword
  obtain ⟨ch, word, rfl⟩ := List.exists_cons_of_ne_nil hne
  have hch : ch ≠ 0x20 := (UInt8.ne_of_lt (hword ch List.mem_cons_self)).symm
  rw [List.cons_append, List.dropWhile_cons_of_neg (by simpa using hch)]

/-- The words of a text that has a blank in front of each of them. -/
theorem splitBrokerWords_words {words : List CommandText} {tail : CommandText}
    (hwords : ∀ word ∈ words, IsWord word) (htail : StartsBlank tail) :
    splitBrokerWords (words.flatMap (0x20 :: ·) ++ tail) words.length = (words, tail) := by
  induction words with
  | nil => rfl
  | cons word words ih =>
    rw [List.forall_mem_cons] at hwords
    have hstart : StartsBlank (words.flatMap (0x20 :: ·) ++ tail) := by
      cases words with
      | nil => simpa using htail
      | cons => simp [StartsBlank]
    have hblank : ((word :: words).flatMap (0x20 :: ·) ++ tail).dropWhile (· == 0x20) =
        word ++ (words.flatMap (0x20 :: ·) ++ tail) := by
      rw [List.flatMap_cons, List.append_assoc, List.cons_append,
        List.dropWhile_cons_of_pos (by decide), dropWhile_blank_word _ hwords.1]
    obtain ⟨ch, rest, hcons⟩ := List.exists_cons_of_ne_nil
      (List.append_ne_nil_of_left_ne_nil hwords.1.1 (words.flatMap (0x20 :: ·) ++ tail))
    obtain ⟨htake, hdrop⟩ := takeWhile_word hwords.1 hstart
    rw [List.length_cons, splitBrokerWords, hblank, hcons]
    dsimp only
    rw [← hcons, htake, hdrop, ih hwords.2]

/-- A blank in front of the text is not part of any word. -/
theorem splitBrokerWords_blank (text : CommandText) {maxWords : Nat} (h : 0 < maxWords) :
    splitBrokerWords (0x20 :: text) maxWords = splitBrokerWords text maxWords := by
  obtain ⟨maxWords, rfl⟩ := Nat.exists_eq_add_of_lt h
  rw [splitBrokerWords, splitBrokerWords, List.dropWhile_cons_of_pos (by decide)]

/-! ## The line that the broker gets -/

theorem rdropWhile_append {α : Type} (p : α → Bool) (l rest : List α) :
    (l ++ rest).rdropWhile p =
      if rest.rdropWhile p = [] then l.rdropWhile p else l ++ rest.rdropWhile p := by
  simp only [List.rdropWhile, List.reverse_append, List.dropWhile_append, List.reverse_eq_nil_iff,
    List.isEmpty_iff]
  split_ifs
  · rfl
  · simp

theorem rdropWhile_congr {α : Type} {p q : α → Bool} {l : List α} (h : ∀ x ∈ l, p x = q x) :
    l.rdropWhile p = l.rdropWhile q := by
  induction l using List.reverseRecOn with
  | nil => rfl
  | append_singleton l x ih =>
    rw [List.rdropWhile_concat, List.rdropWhile_concat, h x (by simp),
      ih fun y hy ↦ h y (List.mem_append_left _ hy)]

theorem rdropWhile_append_self {α : Type} {p : α → Bool} {l rest : List α}
    (hl : l.rdropWhile p = l) (hrest : rest.rdropWhile p = rest) :
    (l ++ rest).rdropWhile p = l ++ rest := by
  rw [rdropWhile_append, hl, hrest]
  split_ifs with hnil
  · rw [hnil, List.append_nil]
  · rfl

theorem IsWord.trimmed {word : CommandText} (hword : IsWord word) :
    word.rdropWhile isCommandEnd = word := by
  refine List.rdropWhile_eq_self_iff.mpr fun hne ↦ ?_
  have hlast := hword.2 _ (List.getLast_mem hne)
  generalize word.getLast hne = ch at hlast
  rw [UInt8.lt_iff_toNat_lt] at hlast
  simp only [isCommandEnd, Bool.or_eq_true, beq_iff_eq, ← UInt8.toNat_inj, not_or]
  simp at hlast ⊢
  omega

theorem words_trimmed {words : List CommandText} (hwords : ∀ word ∈ words, IsWord word) :
    (words.flatMap (0x20 :: ·)).rdropWhile isCommandEnd =
      words.flatMap (0x20 :: ·) := by
  induction words with
  | nil => rfl
  | cons word words ih =>
    rw [List.forall_mem_cons] at hwords
    rw [List.flatMap_cons]
    refine rdropWhile_append_self ?_ (ih hwords.2)
    rw [← List.singleton_append, rdropWhile_append, hwords.1.trimmed, if_neg hwords.1.1]

/-- The fields have a blank behind each of them, and so have all words of the line. -/
theorem brokerCommandText_eq (word : CommandText) (fields : List CommandText)
    (name : CommandText) :
    brokerCommandText (word ++ [0x20]) fields name =
      word ++ (fields.flatMap (0x20 :: ·) ++ 0x20 :: name) := by
  have hfields : 0x20 :: (fields.flatMap (· ++ [0x20]) ++ name) =
      fields.flatMap (0x20 :: ·) ++ 0x20 :: name := by
    induction fields with
    | nil => rfl
    | cons field fields ih =>
      rw [List.flatMap_cons, List.flatMap_cons, List.append_assoc, List.append_assoc,
        List.append_assoc, List.singleton_append, ih, List.cons_append]
  rw [brokerCommandText, ← hfields, List.append_assoc, List.append_assoc, List.singleton_append]

/-- What is dropped behind a command is dropped behind its name field only. -/
theorem trimBrokerCommand_brokerCommandText {word : CommandText} {fields : List CommandText}
    (hword : IsWord word) (hfields : ∀ field ∈ fields, IsWord field) (name : CommandText) :
    ∃ tail, trimBrokerCommand (brokerCommandText (word ++ [0x20]) fields name) =
        word ++ (fields.flatMap (0x20 :: ·) ++ tail) ∧
      StartsBlank tail ∧ tail.dropWhile (· == 0x20) = trimBrokerCommand name := by
  have hfront := rdropWhile_append_self hword.trimmed (words_trimmed hfields)
  have htrim (tail : CommandText) (h : (0x20 :: name).rdropWhile isCommandEnd = tail) :
      trimBrokerCommand (brokerCommandText (word ++ [0x20]) fields name) =
        word ++ (fields.flatMap (0x20 :: ·) ++ tail) := by
    rw [trimBrokerCommand, brokerCommandText_eq, ← List.append_assoc, rdropWhile_append, hfront, h,
      ← List.append_assoc]
    have hblank : (word ++ fields.flatMap (0x20 :: ·) ++ tail).dropWhile (· == 0x20) =
        word ++ fields.flatMap (0x20 :: ·) ++ tail := by
      rw [List.append_assoc, dropWhile_blank_word _ hword]
    split_ifs with hnil
    · rw [← hblank, hnil, List.append_nil]
    · exact hblank
  have hcons := rdropWhile_append isCommandEnd [0x20] name
  rw [List.singleton_append] at hcons
  split_ifs at hcons with hnil
  · refine ⟨[], htrim [] (by rw [hcons]; rfl), nofun, ?_⟩
    rw [trimBrokerCommand, hnil]
  · refine ⟨_, htrim _ hcons, ?_, ?_⟩
    · rintro ch ⟨⟩
      rfl
    · rw [List.singleton_append, List.dropWhile_cons_of_pos (by decide), trimBrokerCommand]

/-- The broker finds the fields of the line and what is left of the name. -/
theorem commandFields_brokerCommandText {word : CommandText} {fields : List CommandText}
    (hword : IsWord word) (hfields : ∀ field ∈ fields, IsWord field) (hne : fields ≠ [])
    (name : CommandText) :
    commandFields (word ++ [0x20])
        (trimBrokerCommand (brokerCommandText (word ++ [0x20]) fields name)) fields.length =
      if trimBrokerCommand name = [] then none else some (fields, trimBrokerCommand name) := by
  obtain ⟨tail, htrim, hstart, hname⟩ := trimBrokerCommand_brokerCommandText hword hfields name
  obtain ⟨payload, hpayload⟩ : ∃ payload,
      fields.flatMap (0x20 :: ·) ++ tail = 0x20 :: payload := by
    obtain ⟨field, fields, rfl⟩ := List.exists_cons_of_ne_nil hne
    exact ⟨_, rfl⟩
  have hline : word ++ 0x20 :: payload = word ++ [0x20] ++ payload := by simp
  have hbegin : (word ++ [0x20]).isPrefixOf (word ++ 0x20 :: payload) := by
    rw [List.isPrefixOf_iff_prefix, hline]
    exact List.prefix_append _ _
  have hdrop : (word ++ 0x20 :: payload).drop (word ++ [0x20]).length = payload := by
    rw [hline, List.drop_left]
  have hsplit := splitBrokerWords_words hfields hstart
  rw [hpayload, splitBrokerWords_blank _ (List.length_pos_iff.mpr hne)] at hsplit
  rw [commandFields, htrim, hpayload, hbegin, hdrop, hsplit]
  simp [hname]

/-! ## Requests -/

theorem parsePermanentSetCommand_brokerCommand (options : PermanentOptions) :
    parsePermanentSetCommand (trimBrokerCommand (permanentSetBrokerCommand options)) =
      if trimBrokerCommand options.name = [] then none
      else some
        { makePermanentCountRequest options with
          displayName := displayNameOfText (trimBrokerCommand options.name) } := by
  have hcommand : kPermanentSet = bytesOf "permanent-set" ++ [0x20] := by decide
  have hword : IsWord (bytesOf "permanent-set") := ⟨by decide +kernel, by decide +kernel⟩
  have hfields := @commandFields_brokerCommandText _
    [u32Text options.count, u32Text options.width, u32Text options.height,
      u32Text options.physicalWidthMm, u32Text options.physicalHeightMm,
      u32Text options.refreshRateMillihz]
    hword (by simp [isWord_u32Text]) (List.cons_ne_nil _ _) options.name
  rw [← hcommand] at hfields
  simp only [List.length_cons, List.length_nil, Nat.reduceAdd] at hfields
  rw [parsePermanentSetCommand, permanentSetBrokerCommand, hfields]
  split_ifs
  · rfl
  · simp only [Option.bind_eq_bind, Option.bind_some, parseBrokerU32_u32Text]
    rfl

/-- A profile has what the options of the tool ask for, apart from its name. -/
structure HasOptions (profile : DisplayManifestProfile) (options : ProfileOptions) : Prop where
  slot : profile.connectorIndex = options.slot
  modeCount : profile.allowedModeCount = 1
  mode : profile.allowedModes[0] =
    { width := options.width
      height := options.height
      refreshRateMillihz := options.refreshRateMillihz }
  physicalWidthMm : profile.physicalWidthMm = options.physicalWidthMm
  physicalHeightMm : profile.physicalHeightMm = options.physicalHeightMm
  hdrSupported : profile.flags &&& kDisplayManifestProfileFlagHdrSupported ≠ 0 ↔
    options.hdrSupported ≠ 0
  layoutPolicy : profile.layoutPolicy = options.layoutPolicy
  positionX : profile.positionX = options.positionX
  positionY : profile.positionY = options.positionY

theorem parseManifestProfileSetCommand_brokerCommand (options : ProfileOptions) :
    if trimBrokerCommand options.name = [] then
      parseManifestProfileSetCommand
        (trimBrokerCommand (manifestProfileSetBrokerCommand options)) = none
    else
      ∃ profile,
        parseManifestProfileSetCommand
            (trimBrokerCommand (manifestProfileSetBrokerCommand options)) = some profile ∧
          HasOptions profile options ∧
          profile.displayName = displayNameOfText (trimBrokerCommand options.name) := by
  have hcommand : kManifestProfileSet = bytesOf "manifest-profile-set" ++ [0x20] := by
    decide
  have hword : IsWord (bytesOf "manifest-profile-set") := ⟨by decide +kernel, by decide +kernel⟩
  have hfields := @commandFields_brokerCommandText _
    [u32Text options.slot, u32Text options.width, u32Text options.height,
      u32Text options.physicalWidthMm, u32Text options.physicalHeightMm,
      u32Text options.refreshRateMillihz, u32Text options.hdrSupported,
      u32Text options.layoutPolicy, i32Text options.positionX, i32Text options.positionY]
    hword (by simp [isWord_u32Text, isWord_i32Text]) (List.cons_ne_nil _ _) options.name
  rw [← hcommand] at hfields
  simp only [List.length_cons, List.length_nil, Nat.reduceAdd] at hfields
  rw [parseManifestProfileSetCommand, manifestProfileSetBrokerCommand, hfields]
  split_ifs
  · rfl
  · simp only [Option.bind_eq_bind, Option.bind_some, parseBrokerU32_u32Text,
      parseBrokerI32_i32Text]
    refine ⟨_, rfl, ⟨rfl, rfl, rfl, rfl, rfl, ?_, rfl, rfl, rfl⟩, rfl⟩
    dsimp only
    split_ifs with hhdr
    · exact iff_of_true (by decide) hhdr
    · exact iff_of_false (by decide) hhdr

/-! ## Names -/

/-- What a safe display name is used for: it fits the name field and has no control bytes. -/
structure NameBytes (name : CommandText) : Prop where
  fits : name.length < kDisplayNameChars
  bytes : ∀ ch ∈ name, 0x20 ≤ ch

theorem NameBytes.of_safe {name : CommandText} (h : isSafeDisplayName name) :
    NameBytes name ∧ name ≠ [] := by
  rw [isSafeDisplayName] at h
  split_ifs at h with hlength
  simp only [Bool.or_eq_true, List.isEmpty_iff, decide_eq_true_eq, not_or, not_le] at hlength
  simp only [Bool.not_eq_true', List.any_eq_false, Bool.or_eq_true, decide_eq_true_eq, not_or,
    UInt8.not_lt] at h
  exact ⟨⟨hlength.2, fun ch hch ↦ (h ch hch).1⟩, hlength.1⟩

theorem NameBytes.of_sublist {name name' : CommandText} (h : NameBytes name)
    (hsub : name'.Sublist name) : NameBytes name' :=
  ⟨Nat.lt_of_le_of_lt hsub.length_le h.fits, fun ch hch ↦ h.bytes ch (hsub.subset hch)⟩

theorem NameBytes.ne_zero {name : CommandText} (h : NameBytes name) : ∀ ch ∈ name, ch ≠ 0 := by
  rintro ch hch rfl
  exact absurd (h.bytes 0 hch) (by decide)

theorem NameBytes.text {name : CommandText} (h : NameBytes name) :
    displayNameOfText name = displayNameOfBytes name := by
  rw [displayNameOfText, List.take_of_length_le (Nat.le_sub_one_of_lt h.fits)]

/-- The name field holds the name: it ends at the first zero. -/
theorem NameBytes.field {name : CommandText} (h : NameBytes name) :
    (displayNameOfBytes name).toList.takeWhile (· != 0) = name := by
  rw [displayNameOfBytes_toList (Nat.le_of_lt h.fits), takeWhile_append_zeros h.ne_zero]

theorem NameBytes.fieldTrim {name : CommandText} (h : NameBytes name) :
    trimDisplayName (displayNameOfBytes name) = name.rdropWhile (· == 0x20) := by
  rw [trimDisplayName, h.field]

theorem displayNameOfBytes_inj {name name' : CommandText} (h : NameBytes name)
    (h' : NameBytes name') : displayNameOfBytes name = displayNameOfBytes name' ↔ name = name' := by
  refine ⟨fun heq ↦ ?_, congrArg _⟩
  rw [← h.field, ← h'.field, heq]

/-- A name with a byte behind the printable ASCII ones. -/
def HasWideByte (name : CommandText) : Prop := ∃ ch ∈ name, 0x7e < ch

instance (name : CommandText) : Decidable (HasWideByte name) :=
  inferInstanceAs (Decidable (∃ ch ∈ name, 0x7e < ch))

/-- A wide byte is no blank, so it is not trimmed. -/
theorem hasWideByte_rdropWhile (name : CommandText) :
    HasWideByte (name.rdropWhile (· == 0x20)) ↔ HasWideByte name := by
  refine ⟨fun ⟨ch, hch, hwide⟩ ↦ ⟨ch, (List.rdropWhile_prefix _ _).subset hch, hwide⟩, ?_⟩
  rintro ⟨ch, hch, hwide⟩
  rw [← List.rdropWhile_append_rtakeWhile (p := (· == 0x20)) (l := name), List.mem_append] at hch
  obtain hch | hch := hch
  · exact ⟨ch, hch, hwide⟩
  · have hblank : ch = 0x20 := by simpa using List.mem_rtakeWhile_imp hch
    exact absurd (hblank ▸ hwide) (by decide)

theorem hasWideByte_dropWhile (name : CommandText) :
    HasWideByte (name.dropWhile (· == 0x20)) ↔ HasWideByte name := by
  refine ⟨fun ⟨ch, hch, hwide⟩ ↦ ⟨ch, (List.dropWhile_suffix _).subset hch, hwide⟩, ?_⟩
  rintro ⟨ch, hch, hwide⟩
  rw [← List.takeWhile_append_dropWhile (p := (· == 0x20)) (l := name), List.mem_append] at hch
  obtain hch | hch := hch
  · have hblank : ch = 0x20 := by simpa using List.mem_takeWhile_imp hch
    exact absurd (hblank ▸ hwide) (by decide)
  · exact ⟨ch, hch, hwide⟩

theorem NameBytes.canonical {name : CommandText} (h : NameBytes name) :
    canonicalizeDisplayName (displayNameOfBytes name) =
      if name.rdropWhile (· == 0x20) = [] ∨ HasWideByte name then none
      else some (displayNameOfBytes (name.rdropWhile (· == 0x20))) := by
  have htrimmed := h.of_sublist (List.rdropWhile_prefix (· == 0x20) name).sublist
  have hwide : ((name.rdropWhile (· == 0x20)).any fun ch ↦ ch < 0x20 || 0x7e < ch) =
      decide (HasWideByte name) := by
    rw [Bool.eq_iff_iff, decide_eq_true_iff, ← hasWideByte_rdropWhile, List.any_eq_true]
    refine exists_congr fun ch ↦ and_congr_right fun hch ↦ ?_
    simpa using fun hlow ↦ absurd (htrimmed.bytes ch hch) (UInt8.not_le.mpr hlow)
  rw [canonicalizeDisplayName, h.fieldTrim]
  rw [hwide]
  generalize name.rdropWhile (· == 0x20) = trimmed at htrimmed
  have hfits : ¬kDisplayNameChars ≤ trimmed.length := Nat.not_le.mpr htrimmed.fits
  by_cases hnil : trimmed = []
  · rw [if_pos (.inl (by rw [hnil, List.length_nil])), if_pos (.inl hnil)]
  · rw [if_neg (by simp [hnil, hfits])]
    simp [hnil]

theorem NameBytes.defaulted {name : CommandText} (h : NameBytes name) :
    defaultedName (displayNameOfBytes name) =
      if name.rdropWhile (· == 0x20) = [] then kDefaultName
      else if HasWideByte name then displayNameOfBytes name
      else displayNameOfBytes (name.rdropWhile (· == 0x20)) := by
  rw [defaultedName, h.fieldTrim, h.canonical]
  generalize name.rdropWhile (· == 0x20) = trimmed
  by_cases hnil : trimmed = []
  · rw [if_pos hnil, if_pos hnil]
  · rw [if_neg hnil, if_neg hnil]
    by_cases hwide : HasWideByte name <;> simp [hnil, hwide]

theorem NameBytes.trim {name : CommandText} (h : NameBytes name) :
    trimBrokerCommand name = (name.rdropWhile (· == 0x20)).dropWhile (· == 0x20) := by
  have hends : name.rdropWhile isCommandEnd = name.rdropWhile (· == 0x20) := by
    refine rdropWhile_congr fun ch hch ↦ ?_
    have hlow := h.bytes ch hch
    rw [UInt8.le_iff_toNat_le] at hlow
    rw [isCommandEnd, Bool.eq_iff_iff]
    simp only [Bool.or_eq_true, beq_iff_eq, ← UInt8.toNat_inj]
    simp at hlow ⊢
    omega
  rw [trimBrokerCommand, hends]

/-- What is left of a name has no blank at its start or end. -/
theorem NameBytes.trimmed {name : CommandText} (h : NameBytes name) :
    NameBytes (trimBrokerCommand name) ∧
      (trimBrokerCommand name).head? ≠ some 0x20 ∧
      (trimBrokerCommand name).rdropWhile (· == 0x20) =
        trimBrokerCommand name ∧
      (HasWideByte (trimBrokerCommand name) ↔ HasWideByte name) := by
  rw [h.trim]
  have hsuffix := List.dropWhile_suffix (l := name.rdropWhile (· == 0x20)) (· == 0x20)
  refine ⟨h.of_sublist (hsuffix.sublist.trans (List.rdropWhile_prefix _ _).sublist), ?_, ?_,
    by rw [hasWideByte_dropWhile, hasWideByte_rdropWhile]⟩
  · intro hhead
    have hne : (name.rdropWhile (· == 0x20)).dropWhile (· == 0x20) ≠ [] := by
      intro hnil
      rw [hnil] at hhead
      exact nomatch hhead
    have hnot := List.head_dropWhile_not _ hne
    rw [List.head?_eq_some_head hne, Option.some.injEq] at hhead
    simp [hhead] at hnot
  · refine List.rdropWhile_eq_self_iff.mpr fun hne ↦ ?_
    rw [hsuffix.getLast hne]
    exact List.rdropWhile_last_not (· == 0x20) name _

/-- Where the name does not start with a blank, only its end is trimmed. -/
theorem NameBytes.trimmed_of_head {name : CommandText} (h : NameBytes name)
    (hne : name ≠ []) (hhead : name.head? ≠ some 0x20) :
    trimBrokerCommand name = name.rdropWhile (· == 0x20) ∧
      name.rdropWhile (· == 0x20) ≠ [] := by
  obtain ⟨ch, name', rfl⟩ := List.exists_cons_of_ne_nil hne
  have hch : ch ≠ 0x20 := by simpa using hhead
  have hcons := rdropWhile_append (· == 0x20) [ch] name'
  rw [List.singleton_append] at hcons
  have hkept : ∃ rest, (ch :: name').rdropWhile (· == 0x20) = ch :: rest := by
    rw [hcons]
    split_ifs
    · exact ⟨[], by simp [List.rdropWhile, hch]⟩
    · exact ⟨_, rfl⟩
  obtain ⟨rest, hrest⟩ := hkept
  rw [h.trim, hrest]
  exact ⟨List.dropWhile_cons_of_neg (by simpa using hch), List.cons_ne_nil _ _⟩

/-- A text that starts with a blank, and what the broker makes of it, start differently. -/
theorem NameBytes.trim_ne {name text : CommandText} (h : NameBytes name)
    (hhead : name.head? = some 0x20) (htrim : trimBrokerCommand name ≠ [])
    (hbegin : text.IsPrefix name) : trimBrokerCommand name ≠ text := by
  rintro rfl
  have hsame := hbegin.head htrim
  rw [List.head?_eq_some_head (List.ne_nil_of_length_pos
    (Nat.lt_of_lt_of_le (List.length_pos_iff.mpr htrim) hbegin.length_le))] at hhead
  rw [← hsame, ← List.head?_eq_some_head htrim] at hhead
  exact h.trimmed.2.1 hhead

/-- The canonical form of the name survives if it starts with no blank, or if it has none. -/
theorem NameBytes.canonical_trim_iff {name : CommandText} (h : NameBytes name) (hne : name ≠ []) :
    (trimBrokerCommand name ≠ [] ∧
        canonicalizeDisplayName (displayNameOfText (trimBrokerCommand name)) =
          canonicalizeDisplayName (displayNameOfText name)) ↔
      name.head? ≠ some 0x20 ∨ HasWideByte name := by
  obtain ⟨hbytes, -, hself, hwide'⟩ := h.trimmed
  have hbegin := List.rdropWhile_prefix (· == 0x20) name
  rw [h.text, hbytes.text, h.canonical, hbytes.canonical, hself]
  simp only [hwide']
  by_cases hhead : name.head? = some 0x20
  · by_cases hwide : HasWideByte name
    · obtain ⟨ch, hch, -⟩ := hwide'.mpr hwide
      simp [hwide, List.ne_nil_of_mem hch]
    · refine iff_of_false ?_ (by simp [hhead, hwide])
      rintro ⟨hnil, heq⟩
      rw [if_neg (by simp [hnil, hwide])] at heq
      split_ifs at heq
      rw [Option.some.injEq, displayNameOfBytes_inj hbytes (h.of_sublist hbegin.sublist)] at heq
      exact h.trim_ne hhead hnil hbegin heq
  · obtain ⟨htrim, hkept⟩ := h.trimmed_of_head hne hhead
    refine iff_of_true ⟨htrim ▸ hkept, ?_⟩ (.inl hhead)
    simp only [htrim]

/-- The name of a request survives if it starts with no blank, and has a canonical form or ends with
no blank. -/
theorem NameBytes.defaulted_trim_iff {name : CommandText} (h : NameBytes name) (hne : name ≠ []) :
    (trimBrokerCommand name ≠ [] ∧
        defaultedName (displayNameOfText (trimBrokerCommand name)) =
          defaultedName (displayNameOfText name)) ↔
      name.head? ≠ some 0x20 ∧ (name.getLast? = some 0x20 → ¬HasWideByte name) := by
  obtain ⟨hbytes, -, hself, -⟩ := h.trimmed
  have hbegin := List.rdropWhile_prefix (· == 0x20) name
  have hdefaulted (hnil : trimBrokerCommand name ≠ []) :
      defaultedName (displayNameOfText (trimBrokerCommand name)) =
        displayNameOfBytes (trimBrokerCommand name) := by
    rw [hbytes.text, hbytes.defaulted, hself, if_neg hnil, ite_self]
  by_cases hhead : name.head? = some 0x20
  · refine iff_of_false ?_ (by simp [hhead])
    rintro ⟨hnil, heq⟩
    have hkept : name.rdropWhile (· == 0x20) ≠ [] := by
      intro hkept
      rw [h.trim, hkept] at hnil
      exact hnil rfl
    rw [hdefaulted hnil, h.text, h.defaulted, if_neg hkept] at heq
    split_ifs at heq
    · exact h.trim_ne hhead hnil (List.prefix_refl _) ((displayNameOfBytes_inj hbytes h).mp heq)
    · exact h.trim_ne hhead hnil hbegin
        ((displayNameOfBytes_inj hbytes (h.of_sublist hbegin.sublist)).mp heq)
  · obtain ⟨htrim, hkept⟩ := h.trimmed_of_head hne hhead
    have hnil : trimBrokerCommand name ≠ [] := htrim ▸ hkept
    rw [hdefaulted hnil, h.text, h.defaulted, if_neg hkept, htrim]
    by_cases hwide : HasWideByte name
    · -- The tool keeps the name as it is, so it must have nothing to trim.
      rw [if_pos hwide, displayNameOfBytes_inj (h.of_sublist hbegin.sublist) h,
        List.rdropWhile_eq_self_iff]
      simp only [hkept, hhead, hwide, ne_eq, not_false_eq_true, true_and, not_true_eq_false,
        imp_false,
        List.getLast?_eq_some_getLast hne, Option.some.injEq, beq_iff_eq, hne, forall_true_left]
    · rw [if_neg hwide]
      simp [hkept, hhead, hwide]

/-! ## The round trip -/

/-- The broker gets the request that the tool would make of the options, after the defaults on both
sides. -/
def PermanentSetRoundTrips (options : PermanentOptions) : Prop :=
  (parsePermanentSetCommand (trimBrokerCommand (permanentSetBrokerCommand options))).map
      setDefaultPermanentDisplaySettings =
    some (setDefaultPermanentDisplaySettings (makePermanentCountRequest options))

/-- The broker gets a profile with what the options ask for, and with the same canonical name. -/
def ManifestProfileSetRoundTrips (options : ProfileOptions) : Prop :=
  ∃ profile,
    parseManifestProfileSetCommand
        (trimBrokerCommand (manifestProfileSetBrokerCommand options)) = some profile ∧
      HasOptions profile options ∧
      canonicalizeDisplayName profile.displayName =
        canonicalizeDisplayName (displayNameOfText options.name)

theorem setDefault_withName_eq_iff (request : PermanentDisplayCountRequest)
    (displayName : DisplayName) :
    setDefaultPermanentDisplaySettings { request with displayName } =
        setDefaultPermanentDisplaySettings request ↔
      defaultedName displayName = defaultedName request.displayName :=
  ⟨fun h ↦ congrArg (·.displayName) h, fun h ↦ by
    have hname (name : DisplayName) :
        setDefaultPermanentDisplaySettings { request with displayName := name } =
          { setDefaultPermanentDisplaySettings request with
            displayName := defaultedName name } := rfl
    rw [hname, h, ← hname]⟩

theorem permanentSet_roundTrips_iff {options : PermanentOptions}
    (hsafe : isSafeDisplayName options.name) :
    PermanentSetRoundTrips options ↔
      options.name.head? ≠ some 0x20 ∧
        (options.name.getLast? = some 0x20 → ¬HasWideByte options.name) := by
  obtain ⟨hbytes, hne⟩ := NameBytes.of_safe hsafe
  rw [← hbytes.defaulted_trim_iff hne, PermanentSetRoundTrips,
    parsePermanentSetCommand_brokerCommand]
  split_ifs with hnil
  · simp [hnil]
  · rw [Option.map_some, Option.some.injEq, setDefault_withName_eq_iff]
    exact (and_iff_right hnil).symm

theorem manifestProfileSet_roundTrips_iff {options : ProfileOptions}
    (hsafe : isSafeDisplayName options.name) :
    ManifestProfileSetRoundTrips options ↔
      options.name.head? ≠ some 0x20 ∨ HasWideByte options.name := by
  obtain ⟨hbytes, hne⟩ := NameBytes.of_safe hsafe
  rw [← hbytes.canonical_trim_iff hne, ManifestProfileSetRoundTrips]
  have hparsed := parseManifestProfileSetCommand_brokerCommand options
  split_ifs at hparsed with hnil
  · simp [hnil, hparsed]
  · obtain ⟨profile, hprofile, hoptions, hname⟩ := hparsed
    rw [hprofile, ← hname]
    simp [hnil, hoptions]

section

variable (parseRefreshMillihz : CommandText → Option UInt32)

/-- What the tool sends reaches the broker, unless blanks of the name are lost on the way that
belong to the name: those at its start, and, for a name without a canonical form, those at its
end. -/
theorem brokerCommands_roundTrip_iff :
    (∀ args first requireCount options,
      parsePermanentOptions parseRefreshMillihz args first requireCount = some options →
      (PermanentSetRoundTrips options ↔
        options.name.head? ≠ some 0x20 ∧
          (options.name.getLast? = some 0x20 → ¬HasWideByte options.name))) ∧
    ∀ args first options,
      parseProfileOptions parseRefreshMillihz args first = some options →
      (ManifestProfileSetRoundTrips options ↔
        options.name.head? ≠ some 0x20 ∨ HasWideByte options.name) :=
  ⟨fun _ _ _ _ h ↦ permanentSet_roundTrips_iff (parsePermanentOptions_safe h),
    fun _ _ _ h ↦ manifestProfileSet_roundTrips_iff (parseProfileOptions_safe h)⟩

end

/-- The tool takes `--name "  Desk"` for both commands, and neither comes back. -/
theorem brokerCommands_lose_blanks :
    (∃ options,
      parsePermanentOptions (fun _ ↦ none)
          [bytesOf "--count", bytesOf "2", bytesOf "--name", bytesOf "  Desk"] 0 true =
        some options ∧ ¬PermanentSetRoundTrips options) ∧
    ∃ options,
      parseProfileOptions (fun _ ↦ none)
          [bytesOf "--slot", bytesOf "1", bytesOf "--name", bytesOf "  Desk"] 0 =
        some options ∧ ¬ManifestProfileSetRoundTrips options := by
  constructor
  · refine ⟨{ count := 2, name := bytesOf "  Desk" }, by decide, ?_⟩
    rw [PermanentSetRoundTrips]
    decide
  · refine ⟨{ slot := 1, name := bytesOf "  Desk" }, by decide, ?_⟩
    rintro ⟨profile, hprofile, -, hname⟩
    have hlost : (parseManifestProfileSetCommand (trimBrokerCommand
        (manifestProfileSetBrokerCommand { slot := 1, name := bytesOf "  Desk" }))).map
          (canonicalizeDisplayName ·.displayName) ≠
        some (canonicalizeDisplayName (displayNameOfText (bytesOf "  Desk"))) := by
      decide
    exact hlost (by rw [hprofile, Option.map_some, hname])

theorem brokerCommands_roundTrip_desk :
    PermanentSetRoundTrips { count := 2, name := bytesOf "Desk " } ∧
      ManifestProfileSetRoundTrips { slot := 1, positionX := -1920, name := bytesOf "Desk " } :=
  ⟨((brokerCommands_roundTrip_iff fun _ ↦ none).1
      [bytesOf "--count", bytesOf "2", bytesOf "--name", bytesOf "Desk "] 0 true _
      (by decide)).mpr (by decide),
    ((brokerCommands_roundTrip_iff fun _ ↦ none).2
      [bytesOf "--slot", bytesOf "1", bytesOf "--x", bytesOf "-1920", bytesOf "--name",
        bytesOf "Desk "] 0 _
      (by decide)).mpr (by decide)⟩

end VirtualDisplay
