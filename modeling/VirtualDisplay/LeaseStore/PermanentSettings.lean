import VirtualDisplay.Controller.Queries
import VirtualDisplay.LeaseStore.Manifest

/-!
# A count request comes back as it was

A count request asks for so many permanent displays, all with the same mode, size and name.  The
store keeps a manifest instead, with one profile for each display, and answers a query with the
settings read back from the first of them.  Both ways the settings are normalized again, which
changes nothing any more (`setDefaultPermanentDisplaySettings_idempotent`).

* `validateDisplayManifest_permanentSettings` — the manifest is valid: the eight identities there
  are differ from each other in every part.
* `permanentSettings_roundTrip` — the query after a request answers with what was asked for.

## What is here

* `permanentIdentity_valid`, `permanentIdentity_distinct` — the identities of the displays, of which
  there are eight, checked part by part.
* `validateProfile_permanentProfile`, `validateProfiles_permanentProfile` — the profiles go through
  the validation one behind the other.
* `permanentSettings_of_manifest` — what is read back from the first profile.
* `displayManifestFromPermanentSettings_normalized` — the defaults may be put in before or after.
* `canonicalManifest_permanentSettings` — the manifest is canonical, so storing it changes nothing.

A request for no display has no profile to be read back from; the query answers with the defaults.
-/

set_option autoImplicit false

namespace VirtualDisplay

/-! ## Defaults -/

theorem orDefault_idempotent (value fallback : UInt32) :
    orDefault (orDefault value fallback) fallback = orDefault value fallback := by
  by_cases hzero : value = 0 <;> simp [orDefault, hzero]

theorem trimDisplayName_canonical {input output : DisplayName}
    (h : canonicalizeDisplayName input = some output) :
    trimDisplayName output = trimDisplayName input := by
  rw [canonicalizeDisplayName] at h
  split_ifs at h with hlength hchars
  rw [← Option.some.inj h]
  rw [not_or, Nat.not_le] at hlength
  exact trimDisplayName_displayNameOfBytes hlength.2

/-- The name that stands for a name: the default one for none, the canonical form if there is one,
and otherwise the name as it is. -/
def defaultedName (displayName : DisplayName) : DisplayName :=
  if trimDisplayName displayName = [] then kDefaultName
  else (canonicalizeDisplayName displayName).getD displayName

theorem defaultedName_idempotent (displayName : DisplayName) :
    defaultedName (defaultedName displayName) = defaultedName displayName := by
  by_cases htrim : trimDisplayName displayName = []
  · rw [defaultedName.eq_def displayName, if_pos htrim]
    decide
  · rw [defaultedName.eq_def displayName, if_neg htrim]
    cases hname : canonicalizeDisplayName displayName with
    | none => rw [Option.getD_none, defaultedName, if_neg htrim, hname, Option.getD_none]
    | some canonical =>
      have htrim' := trimDisplayName_canonical hname
      rw [Option.getD_some, defaultedName, htrim', if_neg htrim,
        canonicalizeDisplayName_canonical hname, Option.getD_some]

theorem setDefaultPermanentDisplaySettings_idempotent (request : PermanentDisplayCountRequest) :
    setDefaultPermanentDisplaySettings (setDefaultPermanentDisplaySettings request) =
      setDefaultPermanentDisplaySettings request := by
  have hname := defaultedName_idempotent request.displayName
  rw [defaultedName.eq_def (defaultedName request.displayName), defaultedName] at hname
  rw [setDefaultPermanentDisplaySettings, setDefaultPermanentDisplaySettings]
  simp only [orDefault_idempotent]
  rw [hname]

/-- The settings of a request that has been normalized are read back as they are. -/
theorem setDefault_of_fields {request settings : PermanentDisplayCountRequest}
    (hsettings : setDefaultPermanentDisplaySettings request = settings) :
    setDefaultPermanentDisplaySettings
        { displayCount := settings.displayCount
          width := settings.width
          height := settings.height
          physicalWidthMm := settings.physicalWidthMm
          physicalHeightMm := settings.physicalHeightMm
          refreshRateMillihz := settings.refreshRateMillihz
          displayName := settings.displayName } =
      { settings with apiNamespace := kApiNamespaceGuid, flags := 0 } := by
  have hsame : setDefaultPermanentDisplaySettings settings = settings := by
    rw [← hsettings, setDefaultPermanentDisplaySettings_idempotent]
  have hfields (apiNamespace : Guid) (flags : UInt32) : setDefaultPermanentDisplaySettings
      { settings with apiNamespace, flags } =
        { setDefaultPermanentDisplaySettings settings with apiNamespace, flags } := rfl
  exact (hfields kApiNamespaceGuid 0).trans (by rw [hsame])

/-! ## The generated manifest -/

/-- The manifest has one profile for each display asked for, as far as there is room. -/
theorem activeProfiles_permanentSettings {request : PermanentDisplayCountRequest}
    {maxDisplayCount : UInt32}
    (hcount : request.displayCount.toNat ≤ kMaxPermanentDisplayProfiles) :
    (displayManifestFromPermanentSettings request maxDisplayCount).activeProfiles =
      (List.range request.displayCount.toNat).map fun i ↦
        permanentProfile (setDefaultPermanentDisplaySettings request) (UInt32.ofNat i) := by
  have hsame : (setDefaultPermanentDisplaySettings request).displayCount = request.displayCount :=
    rfl
  refine List.ext_getElem ?_ fun i h₁ h₂ ↦ ?_
  · simp [DisplayManifest.activeProfiles, displayManifestFromPermanentSettings, hsame, hcount]
  · have hi : i < request.displayCount.toNat := by simpa using h₂
    simp [DisplayManifest.activeProfiles, displayManifestFromPermanentSettings, hsame, hi]

/-- Each of the eight identities passes the checks of its parts. -/
theorem permanentIdentity_valid (i : Fin kMaxPermanentDisplayProfiles) :
    permanentDisplayId (.ofNat i) ≠ 0 ∧
      isZeroGuid (containerGuidFromDisplayId (permanentDisplayId (.ofNat i))) = false ∧
      (permanentProductCode (.ofNat i)).toUInt32 ≠ 0 ∧
      serialNumberFromDisplayId (permanentDisplayId (.ofNat i)) ≠ 0 ∧
      ¬0xffff < (permanentProductCode (.ofNat i)).toUInt32 := by
  revert i
  decide

/-- Any two of the eight differ in every part. -/
theorem permanentIdentity_distinct (i j : Fin kMaxPermanentDisplayProfiles) (h : i ≠ j) :
    (UInt32.ofNat i == .ofNat j) = false ∧
      (permanentDisplayId (.ofNat i) == permanentDisplayId (.ofNat j)) = false ∧
      (containerGuidFromDisplayId (permanentDisplayId (.ofNat i)) ==
        containerGuidFromDisplayId (permanentDisplayId (.ofNat j))) = false ∧
      ((permanentProductCode (.ofNat i)).toUInt32 ==
        (permanentProductCode (.ofNat j)).toUInt32) = false ∧
      (serialNumberFromDisplayId (permanentDisplayId (.ofNat i)) ==
        serialNumberFromDisplayId (permanentDisplayId (.ofNat j))) = false := by
  revert i j
  decide

/-- A check that is passed leaves the checks behind it. -/
theorem ValidationError.passed {failed : Prop} [Decidable failed]
    {error rest : ValidationError} (h : ¬failed) (hrest : rest = .none) :
    (if failed then error else rest) = .none := (if_neg h).trans hrest

/-- What the profiles of the manifest have in common is valid. -/
structure SettingsValid (settings : PermanentDisplayCountRequest) : Prop where
  mode : validateDisplayMode settings.width settings.height settings.refreshRateMillihz = .none
  size : physicalSizeOutOfRange settings.physicalWidthMm settings.physicalHeightMm = false
  name : (canonicalizeDisplayName settings.displayName).isNone = false

theorem validatePermanentDisplayCount_eq_none {settings : PermanentDisplayCountRequest}
    {maxDisplayCount : UInt32}
    (h : validatePermanentDisplayCount settings maxDisplayCount = .none) :
    settings.displayCount ≤ maxDisplayCount ∧ SettingsValid settings := by
  rw [validatePermanentDisplayCount] at h
  obtain ⟨-, h⟩ := ValidationError.of_ite_eq_none (by decide) h
  obtain ⟨-, h⟩ := ValidationError.of_ite_eq_none (by decide) h
  obtain ⟨hcount, h⟩ := ValidationError.of_ite_eq_none (by decide) h
  split at h
  · rename_i hmode
    obtain ⟨hsize, h⟩ := ValidationError.of_ite_eq_none (by decide) h
    obtain ⟨hname, -⟩ := ValidationError.of_ite_eq_none (by decide) h
    exact ⟨UInt32.not_lt.mp hcount, hmode, Bool.not_eq_true _ ▸ hsize, Bool.not_eq_true _ ▸ hname⟩
  · rename_i hne
    exact absurd h hne

open ValidationError (passed) in
/-- Behind the profiles before it, each profile is accepted. -/
theorem validateProfile_permanentProfile {settings : PermanentDisplayCountRequest}
    {maxDisplayCount : UInt32} (hsettings : SettingsValid settings)
    {i : Nat} (hi : i < kMaxPermanentDisplayProfiles) (hlimit : i < maxDisplayCount.toNat) :
    validateProfile maxDisplayCount
      ((List.range i).map fun j ↦ permanentProfile settings (.ofNat j))
      (permanentProfile settings (.ofNat i)) = .none := by
  have hindex : (UInt32.ofNat i).toNat = i :=
    UInt32.toNat_ofNat_of_lt' (Nat.lt_of_lt_of_le hi (by decide))
  obtain ⟨hid, hguid, hcode, hserial, hwide⟩ := permanentIdentity_valid ⟨i, hi⟩
  have hother (j : Nat) (hj : j ∈ List.range i) :=
    permanentIdentity_distinct ⟨j, (List.mem_range.mp hj).trans hi⟩ ⟨i, hi⟩
      (Fin.ne_of_val_ne (List.mem_range.mp hj).ne)
  have hconnector : ((List.range i).map fun j ↦ permanentProfile settings (.ofNat j)).any
      (·.connectorIndex == UInt32.ofNat i) = false := by
    rw [List.any_map, List.any_eq_false]
    exact fun j hj ↦ Bool.not_eq_true _ ▸ (hother j hj).1
  have hidentity : (((List.range i).map fun j ↦ permanentProfile settings (.ofNat j)).any
      fun used ↦ used.displayId == permanentDisplayId (.ofNat i) ||
        used.containerId == containerGuidFromDisplayId (permanentDisplayId (.ofNat i)) ||
        used.productCode == (permanentProductCode (.ofNat i)).toUInt32 ||
        used.serialNumber == serialNumberFromDisplayId (permanentDisplayId (.ofNat i))) =
      false := by
    rw [List.any_map, List.any_eq_false]
    intro j hj
    obtain ⟨-, h₁, h₂, h₃, h₄⟩ := hother j hj
    simpa [permanentProfile] using
      ⟨⟨⟨by simpa using h₁, by simpa using h₂⟩, by simpa using h₃⟩, by simpa using h₄⟩
  have hmodes : validateModes ((permanentProfile settings (.ofNat i)).allowedModes.toList.take
      (permanentProfile settings (.ofNat i)).allowedModeCount.toNat) = .none := by
    have htake : (permanentProfile settings (.ofNat i)).allowedModes.toList.take
        (permanentProfile settings (.ofNat i)).allowedModeCount.toNat =
          [{ width := settings.width, height := settings.height
             refreshRateMillihz := settings.refreshRateMillihz }] := rfl
    rw [htake, validateModes, hsettings.mode]
    rfl
  have hslot : ¬(maxDisplayCount ≤ (permanentProfile settings (.ofNat i)).connectorIndex ∨
      kMaxPermanentDisplayProfiles ≤
        (permanentProfile settings (.ofNat i)).connectorIndex.toNat ∨
      ((List.range i).map fun j ↦ permanentProfile settings (.ofNat j)).any
        (·.connectorIndex == (permanentProfile settings (.ofNat i)).connectorIndex)) := by
    dsimp only [permanentProfile] at hconnector ⊢
    rw [hconnector, hindex, UInt32.le_iff_toNat_le, hindex]
    simp only [Bool.false_eq_true, or_false]
    omega
  have hknown : ¬(kDisplayManifestProfileFlagHdrSupported |||
      kDisplayManifestProfileFlagRetainIdentity |||
        kDisplayManifestProfileFlagPermanentIdentity) &&&
        ~~~kDisplayManifestProfileKnownFlags ≠ 0 := by decide
  have hflags : (kDisplayManifestProfileFlagHdrSupported |||
      kDisplayManifestProfileFlagRetainIdentity |||
        kDisplayManifestProfileFlagPermanentIdentity) &&&
        kDisplayManifestProfileFlagPermanentIdentity ≠ 0 := by decide
  have hmanufacturer : ¬(!validManufacturerId ({} : DisplayManifestProfile).manufacturerId) := by
    decide
  have hcounts : ¬((1 : UInt32) = 0 ∨ kMaxAllowedModesPerProfile < (1 : UInt32).toNat ∨
      (1 : UInt32) ≤ 0) := by decide
  have hlayout :
      ¬kDisplayManifestLayoutPolicyApplyAndPersist < kDisplayManifestLayoutPolicyNone := by
    decide
  rw [validateProfile]
  refine passed hknown <| passed hflags <| passed hslot <|
    passed hid <| passed (Bool.eq_false_iff.mp hguid) <| passed hcode <|
    passed hserial <| passed hwide <| passed (Bool.eq_false_iff.mp hidentity) <|
    passed hmanufacturer <| passed (Bool.eq_false_iff.mp hsettings.size) <|
    passed hcounts <| passed hlayout <| passed (fun h ↦ h rfl) ?_
  rw [hmodes]
  exact if_neg (Bool.eq_false_iff.mp hsettings.name)

/-- One after the other, all of them are. -/
theorem validateProfiles_permanentProfile {settings : PermanentDisplayCountRequest}
    {maxDisplayCount : UInt32} (hsettings : SettingsValid settings) {i n : Nat}
    (hcount : i + n ≤ kMaxPermanentDisplayProfiles) (hlimit : i + n ≤ maxDisplayCount.toNat) :
    validateProfiles maxDisplayCount
      ((List.range i).map fun j ↦ permanentProfile settings (.ofNat j))
      ((List.range' i n).map fun j ↦ permanentProfile settings (.ofNat j)) = .none := by
  induction n generalizing i with
  | zero => rfl
  | succ n ih =>
    rw [List.range'_succ, List.map_cons, validateProfiles,
      validateProfile_permanentProfile hsettings (by omega) (by omega)]
    have hsnoc : ((List.range i).map fun j ↦ permanentProfile settings (.ofNat j)) ++
        [permanentProfile settings (.ofNat i)] =
          (List.range (i + 1)).map fun j ↦ permanentProfile settings (.ofNat j) := by
      rw [List.range_succ, List.map_append]
      rfl
    dsimp only
    rw [hsnoc]
    exact ih (by omega) (by omega)

open ValidationError (passed) in
/-- The manifest of a valid request is valid. -/
theorem validateDisplayManifest_permanentSettings {request : PermanentDisplayCountRequest}
    {maxDisplayCount : UInt32}
    (hvalid : validatePermanentDisplayCount (setDefaultPermanentDisplaySettings request)
      maxDisplayCount = .none)
    (hcount : request.displayCount.toNat ≤ kMaxPermanentDisplayProfiles) :
    validateDisplayManifest (displayManifestFromPermanentSettings request maxDisplayCount)
      maxDisplayCount = .none := by
  obtain ⟨hle, hsettings⟩ := validatePermanentDisplayCount_eq_none hvalid
  have hlimit : request.displayCount.toNat ≤ maxDisplayCount.toNat := UInt32.le_iff_toNat_le.mp hle
  have hprofiles : validateProfiles maxDisplayCount []
      (displayManifestFromPermanentSettings request maxDisplayCount).activeProfiles = .none := by
    rw [activeProfiles_permanentSettings hcount, List.range_eq_range']
    exact validateProfiles_permanentProfile (i := 0) hsettings (by omega) (by omega)
  have hmax : (min maxDisplayCount (UInt32.ofNat kMaxPermanentDisplayProfiles)).toNat =
      min maxDisplayCount.toNat kMaxPermanentDisplayProfiles := by
    have hmin : min maxDisplayCount (UInt32.ofNat kMaxPermanentDisplayProfiles) =
        if maxDisplayCount ≤ 8 then maxDisplayCount else 8 := rfl
    rw [hmin]
    split_ifs with hle
    · exact (Nat.min_eq_left (UInt32.le_iff_toNat_le.mp hle)).symm
    · exact (Nat.min_eq_right (Nat.le_of_not_le fun h ↦ hle (UInt32.le_iff_toNat_le.mpr h))).symm
  have hcounts : ¬(maxDisplayCount < request.displayCount ∨
      kMaxPermanentDisplayProfiles < request.displayCount.toNat) := by
    rw [UInt32.lt_iff_toNat_lt]
    omega
  have hmaxCounts : ¬(min maxDisplayCount (UInt32.ofNat kMaxPermanentDisplayProfiles) <
        request.displayCount ∨
      maxDisplayCount < min maxDisplayCount (UInt32.ofNat kMaxPermanentDisplayProfiles) ∨
      kMaxPermanentDisplayProfiles <
        (min maxDisplayCount (UInt32.ofNat kMaxPermanentDisplayProfiles)).toNat) := by
    rw [UInt32.lt_iff_toNat_lt, UInt32.lt_iff_toNat_lt, hmax]
    omega
  rw [validateDisplayManifest, hprofiles]
  refine passed (fun h ↦ ?_) <| passed (fun h ↦ h rfl) <| passed (fun h ↦ h rfl) <|
    passed hcounts <| passed hmaxCounts rfl
  cases h

/-! ## The settings of the manifest -/

/-- The settings read back from the manifest of a request are those of the request. -/
theorem permanentSettings_of_manifest {request : PermanentDisplayCountRequest}
    {maxDisplayCount : UInt32} (hpositive : 0 < request.displayCount) :
    permanentSettingsFromDisplayManifest
        (displayManifestFromPermanentSettings request maxDisplayCount) =
      { setDefaultPermanentDisplaySettings request with
        apiNamespace := kApiNamespaceGuid
        flags := 0 } := by
  have hcount : (displayManifestFromPermanentSettings request maxDisplayCount).profileCount =
      request.displayCount := rfl
  have hnonzero : request.displayCount ≠ 0 := fun hzero ↦ by
    rw [hzero] at hpositive
    exact UInt32.lt_irrefl _ hpositive
  have hfirst : (displayManifestFromPermanentSettings request maxDisplayCount).profiles[0] =
      permanentProfile (setDefaultPermanentDisplaySettings request) 0 := by
    have hlt : 0 < (setDefaultPermanentDisplaySettings request).displayCount.toNat :=
      UInt32.lt_iff_toNat_lt.mp hpositive
    simp [displayManifestFromPermanentSettings, hlt]
  rw [permanentSettingsFromDisplayManifest, hcount, if_neg hnonzero, hfirst]
  exact setDefault_of_fields rfl

/-- The manifest of a request is that of the request with its defaults. -/
theorem displayManifestFromPermanentSettings_normalized (request : PermanentDisplayCountRequest)
    (maxDisplayCount : UInt32) :
    displayManifestFromPermanentSettings (setDefaultPermanentDisplaySettings request)
        maxDisplayCount =
      displayManifestFromPermanentSettings request maxDisplayCount := by
  rw [displayManifestFromPermanentSettings, displayManifestFromPermanentSettings,
    setDefaultPermanentDisplaySettings_idempotent]

/-- A name with its default in place is its own canonical form, if it has one. -/
theorem defaultedName_getD (displayName : DisplayName) :
    (canonicalizeDisplayName (defaultedName displayName)).getD (defaultedName displayName) =
      defaultedName displayName := by
  have hself := defaultedName_idempotent displayName
  rw [defaultedName.eq_def (defaultedName displayName)] at hself
  split_ifs at hself with htrim
  · rw [← hself] at htrim
    exact absurd htrim (by decide)
  · exact hself

theorem withCanonicalNames_permanentSettings (request : PermanentDisplayCountRequest)
    (maxDisplayCount : UInt32) :
    withCanonicalNames (displayManifestFromPermanentSettings request maxDisplayCount) =
      displayManifestFromPermanentSettings request maxDisplayCount := by
  have hprofiles : (withCanonicalNames (displayManifestFromPermanentSettings request
      maxDisplayCount)).profiles =
        (displayManifestFromPermanentSettings request maxDisplayCount).profiles := by
    refine Vector.ext fun i hi ↦ ?_
    have hcount : (displayManifestFromPermanentSettings request maxDisplayCount).profileCount =
        (setDefaultPermanentDisplaySettings request).displayCount := rfl
    rw [withCanonicalNames_getElem, hcount]
    split_ifs with hactive
    · have hprofile : (displayManifestFromPermanentSettings request maxDisplayCount).profiles[i] =
          permanentProfile (setDefaultPermanentDisplaySettings request) (UInt32.ofNat i) := by
        simp [displayManifestFromPermanentSettings, hactive]
      rw [hprofile]
      have hname := defaultedName_getD request.displayName
      exact congrArg (fun displayName ↦
        { permanentProfile (setDefaultPermanentDisplaySettings request) (UInt32.ofNat i) with
          displayName }) hname
    · rfl
  exact congrArg (DisplayManifest.mk _ _ _ _ _) hprofiles

/-- The generated manifest is canonical. -/
theorem canonicalManifest_permanentSettings {request : PermanentDisplayCountRequest}
    {maxDisplayCount : UInt32}
    (hvalid : validatePermanentDisplayCount (setDefaultPermanentDisplaySettings request)
      maxDisplayCount = .none)
    (hcount : request.displayCount.toNat ≤ kMaxPermanentDisplayProfiles) :
    CanonicalManifest maxDisplayCount
      (displayManifestFromPermanentSettings request maxDisplayCount) where
  valid := validateDisplayManifest_permanentSettings hvalid hcount
  canonical := by
    rw [(canonicalDisplayManifest_of_valid
      (validateDisplayManifest_permanentSettings hvalid hcount)).2,
      withCanonicalNames_permanentSettings]

/-- **Permanent settings come back.**  The manifest of a valid request for at least one display is
valid, the settings read back from it are those of the request with its defaults, and once the
store has been given the request a query answers with them; and to put the defaults in twice is to
put them in once. -/
theorem permanentSettings_roundTrip (s : DisplayStore) (request : PermanentDisplayCountRequest)
    (hvalid : validatePermanentDisplayCount (setDefaultPermanentDisplaySettings request)
      s.maxPermanentDisplays = .none)
    (hpositive : 0 < request.displayCount)
    (hcount : request.displayCount.toNat ≤ kMaxPermanentDisplayProfiles) :
    let normalized := setDefaultPermanentDisplaySettings request
    let manifest := displayManifestFromPermanentSettings request s.maxPermanentDisplays
    let after := s.setPermanentDisplayCount request
    validateDisplayManifest manifest s.maxPermanentDisplays = .none ∧
      permanentSettingsFromDisplayManifest manifest =
        { normalized with apiNamespace := kApiNamespaceGuid, flags := 0 } ∧
      after.2 = {} ∧
      after.1.queryPermanentDisplayCount =
        { currentDisplayCount := normalized.displayCount
          maxDisplayCount := s.maxPermanentDisplays
          temporaryDisplayCount := s.displaysById.size.toUInt32
          width := normalized.width
          height := normalized.height
          physicalWidthMm := normalized.physicalWidthMm
          physicalHeightMm := normalized.physicalHeightMm
          refreshRateMillihz := normalized.refreshRateMillihz
          displayName := normalized.displayName } ∧
      ∀ other, setDefaultPermanentDisplaySettings (setDefaultPermanentDisplaySettings other) =
        setDefaultPermanentDisplaySettings other := by
  intro normalized manifest after
  have hcanonical := canonicalManifest_permanentSettings hvalid hcount
  have hsettings : permanentSettingsFromDisplayManifest manifest = _ :=
    permanentSettings_of_manifest hpositive
  have hafter : after =
      ({ s with
          permanentDisplayCount := manifest.profileCount
          displayManifest := manifest
          permanentDisplaySettings := permanentSettingsFromDisplayManifest manifest }, {}) := by
    rw [← hcanonical.applyDisplayManifest]
    dsimp only [after, manifest]
    rw [DisplayStore.setPermanentDisplayCount, hvalid]
    dsimp only
    rw [displayManifestFromPermanentSettings_normalized]
  refine ⟨hcanonical.valid, hsettings, by rw [hafter], ?_,
    setDefaultPermanentDisplaySettings_idempotent⟩
  rw [hafter, hsettings]
  rfl

/-- Two displays with everything else left to the defaults. -/
theorem permanentSettings_roundTrip_two :
    let s := DisplayStore.new 4 8
    let request : PermanentDisplayCountRequest := { displayCount := 2, width := 0 }
    let normalized := setDefaultPermanentDisplaySettings request
    let manifest := displayManifestFromPermanentSettings request s.maxPermanentDisplays
    let after := s.setPermanentDisplayCount request
    validateDisplayManifest manifest s.maxPermanentDisplays = .none ∧
      permanentSettingsFromDisplayManifest manifest =
        { normalized with apiNamespace := kApiNamespaceGuid, flags := 0 } ∧
      after.2 = {} ∧
      after.1.queryPermanentDisplayCount =
        { currentDisplayCount := normalized.displayCount
          maxDisplayCount := s.maxPermanentDisplays
          temporaryDisplayCount := s.displaysById.size.toUInt32
          width := normalized.width
          height := normalized.height
          physicalWidthMm := normalized.physicalWidthMm
          physicalHeightMm := normalized.physicalHeightMm
          refreshRateMillihz := normalized.refreshRateMillihz
          displayName := normalized.displayName } ∧
      ∀ other, setDefaultPermanentDisplaySettings (setDefaultPermanentDisplaySettings other) =
        setDefaultPermanentDisplaySettings other :=
  permanentSettings_roundTrip (.new 4 8) { displayCount := 2, width := 0 } (by decide)
    (by decide) (by decide)

end VirtualDisplay
