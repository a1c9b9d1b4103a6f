import VirtualDisplay.LeaseStore.Changes

/-!
# Canonical manifests

The manifest that is stored is not the one that was validated: the names of its active profiles
have been made canonical in between.  Nothing else about it has changed, and nothing the validation
reads of a name but whether it has a canonical form, so a canonical manifest of a valid one is
valid and its own canonical form.  That is why the controller may validate a manifest, have the
backend apply its canonical form, and be sure that the store accepts that one too
(`CanonicalManifest.applyDisplayManifest`).

## What is here

* `canonicalizeDisplayName_canonical`, `trimDisplayName_displayNameOfBytes` — a name that has been
  made canonical stays as it is.
* `SameButName`, `withCanonicalNames` — profiles that agree in everything else, and the manifest
  with its names replaced.
* `validateProfile_spec`, `validateDisplayManifest_connectors` — what a manifest that has been
  accepted is like; of this the store needs the connectors.
* `CanonicalManifest.applyDisplayManifest` — the store accepts it, whatever has happened meanwhile.
-/

set_option autoImplicit false

namespace VirtualDisplay

/-! ## Names -/

theorem takeWhile_append_zeros {l : List UInt8} (h : ∀ ch ∈ l, ch ≠ 0) (n : Nat) :
    (l ++ List.replicate n 0).takeWhile (· != 0) = l := by
  induction l with
  | nil => cases n <;> simp [List.replicate_succ]
  | cons ch l ih =>
    rw [List.forall_mem_cons] at h
    rw [List.cons_append, List.takeWhile_cons_of_pos (by simpa using h.1), ih h.2]

theorem displayNameOfBytes_toList {bytes : List UInt8} (h : bytes.length ≤ kDisplayNameChars) :
    (displayNameOfBytes bytes).toList =
      bytes ++ List.replicate (kDisplayNameChars - bytes.length) 0 := by
  refine List.ext_getElem (by simp; omega) fun i h₁ h₂ ↦ ?_
  simp only [displayNameOfBytes, Vector.getElem_toList, Vector.getElem_ofFn,
    List.getD_eq_getElem?_getD]
  by_cases hi : i < bytes.length
  · rw [List.getElem_append_left hi, List.getElem?_eq_getElem hi, Option.getD_some]
  · rw [List.getElem_append_right (Nat.not_lt.mp hi), List.getElem_replicate,
      List.getElem?_eq_none (Nat.not_lt.mp hi), Option.getD_none]

/-- A trimmed name is read back from a field that has room for it. -/
theorem trimDisplayName_displayNameOfBytes {name : DisplayName}
    (h : (trimDisplayName name).length < kDisplayNameChars) :
    trimDisplayName (displayNameOfBytes (trimDisplayName name)) = trimDisplayName name := by
  have hnonzero : ∀ ch ∈ trimDisplayName name, ch ≠ 0 := by
    intro ch hch
    have hbegin := (List.rdropWhile_prefix (· == 0x20) _).subset hch
    simpa using List.mem_takeWhile_imp hbegin
  rw [trimDisplayName, displayNameOfBytes_toList (Nat.le_of_lt h), takeWhile_append_zeros hnonzero,
    trimDisplayName]
  exact List.rdropWhile_idempotent _ _

/-- A canonical name is its own canonical form. -/
theorem canonicalizeDisplayName_canonical {input output : DisplayName}
    (h : canonicalizeDisplayName input = some output) :
    canonicalizeDisplayName output = some output := by
  rw [canonicalizeDisplayName] at h
  split_ifs at h with hlength hchars
  rw [← Option.some.inj h]
  rw [not_or, Nat.not_le] at hlength
  rw [canonicalizeDisplayName, trimDisplayName_displayNameOfBytes hlength.2]
  rw [if_neg (not_or.mpr ⟨hlength.1, Nat.not_le.mpr hlength.2⟩), if_neg hchars]

theorem canonicalizeDisplayName_getD (name : DisplayName) :
    canonicalizeDisplayName ((canonicalizeDisplayName name).getD name) =
      canonicalizeDisplayName name := by
  cases h : canonicalizeDisplayName name with
  | none => rw [Option.getD_none, h]
  | some canonical => rw [Option.getD_some, canonicalizeDisplayName_canonical h]

/-! ## Profiles -/

/-- Two profiles that differ at most in how they spell their name. -/
structure SameButName (profile profile' : DisplayManifestProfile) : Prop where
  same : ∃ displayName, profile' = { profile with displayName }
  name : (canonicalizeDisplayName profile'.displayName).isNone =
    (canonicalizeDisplayName profile.displayName).isNone

theorem any_sameButName {profiles profiles' : List DisplayManifestProfile}
    (h : List.Forall₂ SameButName profiles profiles') {test : DisplayManifestProfile → Bool}
    (htest : ∀ profile displayName, test { profile with displayName } = test profile) :
    profiles'.any test = profiles.any test := by
  induction h with
  | nil => rfl
  | cons hprofile _ ih =>
    rcases hprofile.same with ⟨displayName, rfl⟩
    rw [List.any_cons, List.any_cons, htest, ih]

theorem anyName_sameButName {profiles profiles' : List DisplayManifestProfile}
    (h : List.Forall₂ SameButName profiles profiles') :
    profiles'.any (fun profile ↦ (canonicalizeDisplayName profile.displayName).isNone) =
      profiles.any fun profile ↦ (canonicalizeDisplayName profile.displayName).isNone := by
  induction h with
  | nil => rfl
  | cons hprofile _ ih => rw [List.any_cons, List.any_cons, hprofile.name, ih]

theorem validateProfile_congr {maxDisplayCount : UInt32}
    {previous previous' : List DisplayManifestProfile}
    (hprevious : List.Forall₂ SameButName previous previous')
    {profile profile' : DisplayManifestProfile} (h : SameButName profile profile') :
    validateProfile maxDisplayCount previous' profile' =
      validateProfile maxDisplayCount previous profile := by
  rcases h with ⟨⟨displayName, rfl⟩, hname⟩
  dsimp only at hname
  rw [validateProfile, validateProfile]
  dsimp only
  rw [any_sameButName hprevious fun _ _ ↦ rfl, any_sameButName hprevious fun _ _ ↦ rfl, hname]

theorem validateProfiles_congr {maxDisplayCount : UInt32}
    {previous previous' rest rest' : List DisplayManifestProfile}
    (hprevious : List.Forall₂ SameButName previous previous')
    (h : List.Forall₂ SameButName rest rest') :
    validateProfiles maxDisplayCount previous' rest' =
      validateProfiles maxDisplayCount previous rest := by
  induction h generalizing previous previous' with
  | nil => rw [validateProfiles, validateProfiles]
  | cons hprofile _ ih =>
    rw [validateProfiles, validateProfiles, validateProfile_congr hprevious hprofile,
      ih (List.rel_append hprevious (.cons hprofile .nil))]

/-! ## Manifests -/

/-- The manifest with canonical names where there are any. -/
def withCanonicalNames (manifest : DisplayManifest) : DisplayManifest :=
  { manifest with
    profiles := Vector.ofFn fun index ↦
      let profile := manifest.profiles.get index
      if index.val < manifest.profileCount.toNat then
        { profile with
          displayName := (canonicalizeDisplayName profile.displayName).getD profile.displayName }
      else profile }

theorem withCanonicalNames_sameButName (manifest : DisplayManifest) :
    List.Forall₂ SameButName manifest.activeProfiles
      (withCanonicalNames manifest).activeProfiles := by
  rw [List.forall₂_iff_get]
  refine ⟨by simp [DisplayManifest.activeProfiles, withCanonicalNames], fun i h₁ h₂ ↦ ?_⟩
  have hi : i < manifest.profileCount.toNat := by
    rw [DisplayManifest.activeProfiles, List.length_take] at h₁
    omega
  simp only [DisplayManifest.activeProfiles, withCanonicalNames, List.get_eq_getElem,
    List.getElem_take, Vector.getElem_toList, Vector.getElem_ofFn, if_pos hi]
  exact ⟨⟨_, rfl⟩, congrArg Option.isNone (canonicalizeDisplayName_getD _)⟩

theorem withCanonicalNames_getElem (manifest : DisplayManifest) {i : Nat}
    (hi : i < kMaxPermanentDisplayProfiles) :
    (withCanonicalNames manifest).profiles[i] =
      if i < manifest.profileCount.toNat then
        { manifest.profiles[i] with
          displayName :=
            (canonicalizeDisplayName manifest.profiles[i].displayName).getD
              manifest.profiles[i].displayName }
      else manifest.profiles[i] := by
  rw [withCanonicalNames]
  exact Vector.getElem_ofFn hi

theorem withCanonicalNames_idempotent (manifest : DisplayManifest) :
    withCanonicalNames (withCanonicalNames manifest) = withCanonicalNames manifest := by
  have hprofiles : (withCanonicalNames (withCanonicalNames manifest)).profiles =
      (withCanonicalNames manifest).profiles := by
    refine Vector.ext fun i hi ↦ ?_
    have hcount : (withCanonicalNames manifest).profileCount = manifest.profileCount := rfl
    rw [withCanonicalNames_getElem, hcount]
    by_cases hactive : i < manifest.profileCount.toNat
    · rw [if_pos hactive, withCanonicalNames_getElem, if_pos hactive, canonicalizeDisplayName_getD]
      cases canonicalizeDisplayName manifest.profiles[i].displayName <;> rfl
    · rw [if_neg hactive]
  exact congrArg (DisplayManifest.mk manifest.apiNamespace manifest.version manifest.profileCount
    manifest.maxProfileCount manifest.reserved) hprofiles

theorem canonicalDisplayManifest_eq_some {manifest canonical : DisplayManifest}
    (h : canonicalDisplayManifest manifest = some canonical) :
    manifest.activeProfiles.any
        (fun profile ↦ (canonicalizeDisplayName profile.displayName).isNone) = false ∧
      canonical = withCanonicalNames manifest := by
  rw [canonicalDisplayManifest] at h
  split_ifs at h with hnames
  exact ⟨Bool.not_eq_true _ ▸ hnames, (Option.some.inj h).symm⟩

/-- A manifest whose names are canonical and that passes validation. -/
structure CanonicalManifest (maxDisplayCount : UInt32) (manifest : DisplayManifest) : Prop where
  valid : validateDisplayManifest manifest maxDisplayCount = .none
  canonical : canonicalDisplayManifest manifest = some manifest

theorem canonicalDisplayManifest_canonical {manifest canonical : DisplayManifest}
    (h : canonicalDisplayManifest manifest = some canonical) :
    canonicalDisplayManifest canonical = some canonical := by
  rcases canonicalDisplayManifest_eq_some h with ⟨hnames, rfl⟩
  rw [← anyName_sameButName (withCanonicalNames_sameButName manifest)] at hnames
  rw [canonicalDisplayManifest, if_neg ((Bool.not_eq_true _).mpr hnames)]
  exact congrArg some (withCanonicalNames_idempotent manifest)

/-- The canonical form of a valid manifest is a canonical manifest. -/
theorem canonicalManifest_of_valid {maxDisplayCount : UInt32}
    {manifest canonical : DisplayManifest}
    (hvalid : validateDisplayManifest manifest maxDisplayCount = .none)
    (h : canonicalDisplayManifest manifest = some canonical) :
    CanonicalManifest maxDisplayCount canonical where
  valid := by
    rcases canonicalDisplayManifest_eq_some h with ⟨-, rfl⟩
    rw [← hvalid, validateDisplayManifest, validateDisplayManifest,
      validateProfiles_congr .nil (withCanonicalNames_sameButName manifest)]
    rfl
  canonical := canonicalDisplayManifest_canonical h

/-! ## What a valid manifest is like -/

/-- An accepted profile has a connector of its own and a name that has a canonical form. -/
theorem validateProfile_spec {maxDisplayCount : UInt32} {previous : List DisplayManifestProfile}
    {profile : DisplayManifestProfile}
    (h : validateProfile maxDisplayCount previous profile = .none) :
    (∀ used ∈ previous, used.connectorIndex ≠ profile.connectorIndex) ∧
      (canonicalizeDisplayName profile.displayName).isSome = true := by
  rw [validateProfile] at h
  obtain ⟨-, h⟩ := ValidationError.of_ite_eq_none (by decide) h
  obtain ⟨-, h⟩ := ValidationError.of_ite_eq_none (by decide) h
  obtain ⟨hconnector, h⟩ := ValidationError.of_ite_eq_none (by decide) h
  iterate 11 obtain ⟨-, h⟩ := ValidationError.of_ite_eq_none (by decide) h
  refine ⟨fun used hused heq ↦ hconnector ?_, ?_⟩
  · exact .inr (.inr (List.any_eq_true.mpr ⟨used, hused, beq_iff_eq.mpr heq⟩))
  · split at h
    · obtain ⟨hname, -⟩ := ValidationError.of_ite_eq_none (by decide) h
      simpa [Option.isSome_iff_ne_none] using hname
    · rename_i hne
      exact absurd h hne

/-- Each profile of an accepted list has been accepted behind the ones before it. -/
theorem validateProfile_of_validateProfiles {maxDisplayCount : UInt32}
    {previous before rest : List DisplayManifestProfile} {profile : DisplayManifestProfile}
    (h : validateProfiles maxDisplayCount previous (before ++ profile :: rest) = .none) :
    validateProfile maxDisplayCount (previous ++ before) profile = .none := by
  induction before generalizing previous with
  | nil =>
    rw [List.nil_append, validateProfiles] at h
    rw [List.append_nil]
    split at h
    · assumption
    · rename_i hne
      exact absurd h hne
  | cons first before ih =>
    rw [List.cons_append, validateProfiles] at h
    split at h
    · rw [List.append_cons]
      exact ih h
    · rename_i hne
      exact absurd h hne

theorem validateDisplayManifest_profiles {maxDisplayCount : UInt32} {manifest : DisplayManifest}
    (h : validateDisplayManifest manifest maxDisplayCount = .none) :
    manifest.profileCount.toNat ≤ kMaxPermanentDisplayProfiles ∧
      validateProfiles maxDisplayCount [] manifest.activeProfiles = .none := by
  rw [validateDisplayManifest] at h
  iterate 3 obtain ⟨-, h⟩ := ValidationError.of_ite_eq_none (by decide) h
  obtain ⟨hcount, h⟩ := ValidationError.of_ite_eq_none (by decide) h
  obtain ⟨-, h⟩ := ValidationError.of_ite_eq_none (by decide) h
  exact ⟨Nat.not_lt.mp fun hlt ↦ hcount (.inr hlt), h⟩

/-- No two active profiles of a valid manifest are for the same connector. -/
theorem validateDisplayManifest_connectors {maxDisplayCount : UInt32} {manifest : DisplayManifest}
    (h : validateDisplayManifest manifest maxDisplayCount = .none) :
    manifest.activeProfiles.Pairwise fun profile profile' ↦
      profile.connectorIndex ≠ profile'.connectorIndex := by
  have hprofiles := (validateDisplayManifest_profiles h).2
  rw [List.pairwise_iff_getElem]
  intro i j hi hj hlt
  have hsplit : manifest.activeProfiles =
      manifest.activeProfiles.take j ++ manifest.activeProfiles[j] ::
        manifest.activeProfiles.drop (j + 1) := by
    rw [List.getElem_cons_drop, List.take_append_drop]
  rw [hsplit] at hprofiles
  have hpassed := (validateProfile_spec (validateProfile_of_validateProfiles hprofiles)).1
  exact hpassed _ (List.mem_append_right _ (List.mem_take_iff_getElem.mpr
    ⟨i, by omega, rfl⟩))

/-- A valid manifest has a canonical form. -/
theorem canonicalDisplayManifest_of_valid {maxDisplayCount : UInt32} {manifest : DisplayManifest}
    (h : validateDisplayManifest manifest maxDisplayCount = .none) :
    (∀ profile ∈ manifest.activeProfiles,
        (canonicalizeDisplayName profile.displayName).isSome = true) ∧
      canonicalDisplayManifest manifest = some (withCanonicalNames manifest) := by
  have hnames : ∀ profile ∈ manifest.activeProfiles,
      (canonicalizeDisplayName profile.displayName).isSome = true := by
    intro profile hprofile
    obtain ⟨before, rest, hsplit⟩ := List.append_of_mem hprofile
    have hprofiles := (validateDisplayManifest_profiles h).2
    rw [hsplit] at hprofiles
    exact (validateProfile_spec (validateProfile_of_validateProfiles hprofiles)).2
  refine ⟨hnames, ?_⟩
  rw [canonicalDisplayManifest, if_neg]
  · rfl
  · rw [List.any_eq_true]
    rintro ⟨profile, hprofile, hnone⟩
    rw [← Option.not_isSome, hnames profile hprofile] at hnone
    cases hnone

/-- The store accepts a canonical manifest as it is. -/
theorem CanonicalManifest.applyDisplayManifest {s : DisplayStore} {manifest : DisplayManifest}
    (h : CanonicalManifest s.maxPermanentDisplays manifest) :
    s.applyDisplayManifest manifest =
      ({ s with
          permanentDisplayCount := manifest.profileCount
          displayManifest := manifest
          permanentDisplaySettings := permanentSettingsFromDisplayManifest manifest }, {}) := by
  rw [DisplayStore.applyDisplayManifest, h.valid]
  dsimp only
  rw [h.canonical]

end VirtualDisplay
