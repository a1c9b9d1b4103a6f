import VirtualDisplay.LeaseStore.Identities
import VirtualDisplay.LeaseStore.Manifest
import VirtualDisplay.Lib.Run

/-!
# The permanent configuration

The store keeps the permanent displays in three forms: the manifest, the number of its profiles and
the settings the older count query reports.  The constructor, count requests and whole manifests
all write them, and the queries index the profiles by that number and the modes by an index of the
manifest itself.  `execute_configuration` says that the copies agree and that the manifest is one
the validation accepts.

What nothing looks at is whether a profile and a temporary record stand for the same monitor.
The two kinds of display take their product codes from different ranges, so the profiles of a count
request are told apart by their EDIDs; otherwise it depends on the ids callers choose.
`execute_identitiesApart` says which steps have to be avoided.

## What is here

* `ConfigurationConsistent` — the three forms agree, and the manifest is valid and canonical.
* `execute_configuration` — in every run, from whatever the constructor was given.
* `apply_displayManifest` — only the operations that are about manifests write it.
* `productCodeFromDisplayId_range`, `permanentProductCode_lt` — the two ranges of product codes.
* `KeepsIdentitiesApart` — the steps that do not bring two of one identity together: a create whose
  identity is a profile's does, and so does a manifest with the identity of a record.
* `permanentId_created` — nothing in the store keeps a create from taking a permanent id.
-/

set_option autoImplicit false

namespace VirtualDisplay

open Std

/-! ## The default manifest -/

theorem withCanonicalNames_of_empty {manifest : DisplayManifest} (h : manifest.profileCount = 0) :
    withCanonicalNames manifest = manifest := by
  have hprofiles : (withCanonicalNames manifest).profiles = manifest.profiles := by
    refine Vector.ext fun i hi ↦ ?_
    rw [withCanonicalNames_getElem, h]
    exact if_neg (Nat.not_lt_zero i)
  exact congrArg (DisplayManifest.mk manifest.apiNamespace manifest.version manifest.profileCount
    manifest.maxProfileCount manifest.reserved) hprofiles

/-- The manifest of a new store declares no profile and is valid for any limit. -/
theorem canonicalManifest_default (maxDisplayCount : UInt32) :
    CanonicalManifest maxDisplayCount (displayManifestFromPermanentSettings
      (setDefaultPermanentDisplaySettings {}) maxDisplayCount) := by
  have hcount : (displayManifestFromPermanentSettings
    (setDefaultPermanentDisplaySettings {}) maxDisplayCount).profileCount = 0 := rfl
  have hmax : (displayManifestFromPermanentSettings (setDefaultPermanentDisplaySettings {})
    maxDisplayCount).maxProfileCount = min maxDisplayCount 8 := rfl
  refine ⟨?_, ?_⟩
  · have hmin : min maxDisplayCount 8 = if maxDisplayCount ≤ 8 then maxDisplayCount else 8 := rfl
    have hle : min maxDisplayCount 8 ≤ maxDisplayCount := by
      rw [hmin]
      split_ifs with hle
      · exact UInt32.le_refl _
      · exact UInt32.le_of_lt (UInt32.not_le.mp hle)
    have hle8 : (min maxDisplayCount 8).toNat ≤ 8 := by
      rw [hmin]
      split_ifs with hle
      · exact UInt32.le_iff_toNat_le.mp hle
      · exact Nat.le_refl 8
    have hnamespace : (displayManifestFromPermanentSettings (setDefaultPermanentDisplaySettings {})
      maxDisplayCount).apiNamespace = kApiNamespaceGuid := rfl
    have hreserved : (displayManifestFromPermanentSettings (setDefaultPermanentDisplaySettings {})
      maxDisplayCount).reserved = 0 := rfl
    have hversion : (displayManifestFromPermanentSettings (setDefaultPermanentDisplaySettings {})
      maxDisplayCount).version = kDisplayManifestVersion := rfl
    rw [validateDisplayManifest, hnamespace, hreserved, hversion, hcount, hmax,
      DisplayManifest.activeProfiles, hcount]
    have hprofiles (profiles : List DisplayManifestProfile) :
        validateProfiles maxDisplayCount [] (profiles.take (0 : UInt32).toNat) = .none := rfl
    rw [hprofiles, if_neg (by decide), if_neg (by decide), if_neg (by decide), if_neg, if_neg]
    · rintro (h | h | h)
      · exact absurd h (UInt32.not_lt.mpr (UInt32.zero_le))
      · exact absurd h (UInt32.not_lt.mpr hle)
      · exact absurd h (Nat.not_lt.mpr hle8)
    · rintro (h | h)
      · exact absurd h (UInt32.not_lt.mpr (UInt32.zero_le))
      · exact absurd h (by decide)
  · have hcanonical := withCanonicalNames_of_empty hcount
    rw [canonicalDisplayManifest, if_neg]
    · exact congrArg some hcanonical
    · rw [DisplayManifest.activeProfiles, hcount]
      exact Bool.false_ne_true

/-- The names of a canonical manifest are their own canonical forms. -/
theorem CanonicalManifest.canonicalizeDisplayName {maxDisplayCount : UInt32}
    {manifest : DisplayManifest} (h : CanonicalManifest maxDisplayCount manifest)
    {profile : DisplayManifestProfile} (hprofile : profile ∈ manifest.activeProfiles) :
    VirtualDisplay.canonicalizeDisplayName profile.displayName = some profile.displayName := by
  obtain ⟨hnames, hsame⟩ := canonicalDisplayManifest_eq_some h.canonical
  obtain ⟨i, hi, rfl⟩ := List.mem_iff_getElem.mp hprofile
  have hbounds : i < manifest.profileCount.toNat ∧ i < kMaxPermanentDisplayProfiles := by
    simpa [DisplayManifest.activeProfiles] using hi
  obtain ⟨hactive, hslot⟩ := hbounds
  have hprofileAt : manifest.activeProfiles[i] = manifest.profiles[i] := by
    simp [DisplayManifest.activeProfiles]
  have hname := List.any_eq_false.mp hnames _ hprofile
  rw [hprofileAt] at hname ⊢
  have hself : manifest.profiles[i] = (withCanonicalNames manifest).profiles[i] :=
    congrArg (fun m : DisplayManifest ↦ m.profiles[i]) hsame
  rw [withCanonicalNames_getElem, if_pos hactive] at hself
  have hdisplayName := congrArg DisplayManifestProfile.displayName hself
  dsimp only at hdisplayName
  cases hcanonical : VirtualDisplay.canonicalizeDisplayName
      (manifest.profiles[i]).displayName with
  | none =>
    rw [hcanonical] at hname
    exact absurd rfl hname
  | some canonical =>
    rw [hcanonical, Option.getD_some] at hdisplayName
    rw [← hdisplayName]

namespace DisplayStore

variable {s s' : DisplayStore}

/-! ## The three copies -/

/-- The manifest is canonical, and the number and the settings are those it stands for. -/
structure ConfigurationConsistent (s : DisplayStore) : Prop where
  manifest : CanonicalManifest s.maxPermanentDisplays s.displayManifest
  count : s.permanentDisplayCount = s.displayManifest.profileCount
  settings : s.permanentDisplaySettings = permanentSettingsFromDisplayManifest s.displayManifest

theorem empty_configurationConsistent (maxPermanentDisplays maxTemporaryDisplays : UInt32)
    (reservations : OrdMap UInt64 UInt32) :
    ConfigurationConsistent (empty maxPermanentDisplays maxTemporaryDisplays reservations) where
  manifest := canonicalManifest_default maxPermanentDisplays
  count := rfl
  settings := rfl

theorem ConfigurationConsistent.of_change (h : s.ConfigurationConsistent)
    (hstep : StoreChange s s') : s'.ConfigurationConsistent := by
  cases hstep with
  | created | reclaimed => exact ⟨h.manifest, h.count, h.settings⟩
  | kept hchange =>
    cases hchange with
    | manifestApplied hvalid hnames =>
      exact ⟨canonicalManifest_of_valid hvalid hnames, rfl, rfl⟩
    | erased =>
      rw [eraseDisplay, removeLeaseIfEmpty]
      split_ifs <;> exact ⟨h.manifest, h.count, h.settings⟩
    | _ => exact ⟨h.manifest, h.count, h.settings⟩

/-- **The permanent configuration is consistent.**  After any operations on any store the stored
manifest is valid, the names of its active profiles are canonical, and the permanent display count
and settings are the manifest's. -/
theorem execute_configuration (maxPermanentDisplays maxTemporaryDisplays : UInt32)
    (reservations : OrdMap UInt64 UInt32) (initialManifest : Option DisplayManifest)
    (ops : List StoreOp) :
    let s := DisplayStore.execute
      (.new maxPermanentDisplays maxTemporaryDisplays reservations initialManifest) ops
    validateDisplayManifest s.displayManifest maxPermanentDisplays = .none ∧
      (∀ profile ∈ s.displayManifest.activeProfiles,
        canonicalizeDisplayName profile.displayName = some profile.displayName) ∧
      s.permanentDisplayCount = s.displayManifest.profileCount ∧
      s.permanentDisplaySettings = permanentSettingsFromDisplayManifest s.displayManifest := by
  intro s
  have h : s.ConfigurationConsistent := execute_new_invariant
    (empty_configurationConsistent maxPermanentDisplays maxTemporaryDisplays reservations)
    (fun _ _ h ↦ h.of_change) initialManifest ops
  have hmanifest : CanonicalManifest maxPermanentDisplays s.displayManifest :=
    (execute_new_limits maxPermanentDisplays maxTemporaryDisplays reservations initialManifest
      ops).1 ▸ h.manifest
  exact ⟨hmanifest.valid, fun _ hprofile ↦ hmanifest.canonicalizeDisplayName hprofile, h.count,
    h.settings⟩

end DisplayStore

/-! ## Which operations write the manifest -/

/-- The manifest the operation has the store apply. -/
def StoreOp.appliedManifest? (s : DisplayStore) : StoreOp → Option DisplayManifest
  | setPermanentDisplayCount request =>
    some (displayManifestFromPermanentSettings (setDefaultPermanentDisplaySettings request)
      s.maxPermanentDisplays)
  | applyDisplayManifest manifest => some manifest
  | _ => none

namespace DisplayStore

variable {s s' : DisplayStore}

@[simp] theorem eraseDisplay_displayManifest (s : DisplayStore) (displayId leaseId : UInt64) :
    (s.eraseDisplay displayId leaseId).displayManifest = s.displayManifest := by
  rw [eraseDisplay, removeLeaseIfEmpty]
  split_ifs <;> rfl

theorem createTemporaryDisplayImpl_displayManifest (s : DisplayStore)
    (request : CreateTemporaryDisplayRequest) (ownerCapability : Option OwnerCapability)
    (now : TimePoint) :
    (s.createTemporaryDisplayImpl request ownerCapability now).1.displayManifest =
      s.displayManifest := by
  have houtcome := s.createTemporaryDisplayImpl_outcome request ownerCapability now
  generalize s.createTemporaryDisplayImpl request ownerCapability now = after at houtcome ⊢
  cases houtcome <;> rfl

theorem applyDisplayManifest_displayManifest (s : DisplayStore) (manifest : DisplayManifest) :
    (s.applyDisplayManifest manifest).1.displayManifest = s.displayManifest ∨
      (s.applyDisplayManifest manifest).1.displayManifest = withCanonicalNames manifest := by
  obtain ⟨canonical, -, hnames, h⟩ | ⟨h, -⟩ := s.applyDisplayManifest_cases manifest
  · rw [h]
    exact .inr (canonicalDisplayManifest_eq_some hnames).2
  · rw [h]
    exact .inl rfl

/-- Only count requests and manifests write the manifest. -/
theorem apply_displayManifest (s : DisplayStore) (op : StoreOp) :
    (op.apply s).displayManifest = s.displayManifest ∨
      ∃ manifest, op.appliedManifest? s = some manifest ∧
        (op.apply s).displayManifest = withCanonicalNames manifest := by
  cases op with
  | createTemporaryDisplay request now =>
    exact .inl (s.createTemporaryDisplayImpl_displayManifest request none now)
  | createTemporaryDisplayOwned request now =>
    obtain ⟨-, h⟩ | ⟨h, -⟩ := s.createTemporaryDisplayOwned_cases request now
    · rw [StoreOp.apply, h]
      exact .inl (s.createTemporaryDisplayImpl_displayManifest _ _ now)
    · rw [StoreOp.apply, h]
      exact .inl rfl
  | reclaimTemporaryDisplay request now =>
    obtain ⟨display, lease, -, -, -, -, -, -, -, -, h⟩ | ⟨h, -⟩ :=
      s.reclaimTemporaryDisplay_cases request now <;> rw [StoreOp.apply, h] <;> exact .inl rfl
  | removeTemporaryDisplay request mode =>
    obtain ⟨display, reservations, -, -, h⟩ | ⟨h, -⟩ := s.removeTemporaryDisplay_cases request mode
    · rw [StoreOp.apply, h, eraseDisplay_displayManifest]
      exact .inl rfl
    · rw [StoreOp.apply, h]
      exact .inl rfl
  | markTemporaryDisplayPendingDeparture request =>
    obtain ⟨display, -, -, h⟩ | ⟨h, -⟩ :=
      s.markTemporaryDisplayPendingDeparture_cases request <;> rw [StoreOp.apply, h] <;>
      exact .inl rfl
  | abandonPendingTemporaryDisplay request expectedGeneration ownerCapability =>
    obtain ⟨display, lease, -, -, -, -, -, -, h⟩ | ⟨h, -⟩ :=
      s.abandonPendingTemporaryDisplay_cases request expectedGeneration ownerCapability
    · rw [StoreOp.apply, h, eraseDisplay_displayManifest]
      exact .inl rfl
    · rw [StoreOp.apply, h]
      exact .inl rfl
  | feedLease request now =>
    obtain ⟨lease, -, -, -, h⟩ | ⟨h, -⟩ := s.feedLease_cases request now <;>
      rw [StoreOp.apply, h] <;> exact .inl rfl
  | releaseLease request =>
    obtain ⟨-, h⟩ | ⟨h, -⟩ := s.releaseLease_cases request <;> rw [StoreOp.apply, h] <;>
      exact .inl rfl
  | reapExpired now =>
    refine .inl (List.foldlRecOn
      (motive := fun s' : DisplayStore ↦ s'.displayManifest = s.displayManifest)
      s.displaysById.toList (reapDisplay now) rfl fun s' hs' entry _ ↦ ?_)
    rw [reapDisplay]
    split_ifs
    · exact (eraseDisplay_displayManifest ..).trans hs'
    · exact hs'
  | setPermanentDisplayCount request =>
    rw [StoreOp.apply, setPermanentDisplayCount]
    split
    · obtain h | h := s.applyDisplayManifest_displayManifest (displayManifestFromPermanentSettings
        (setDefaultPermanentDisplaySettings request) s.maxPermanentDisplays)
      · exact .inl h
      · exact .inr ⟨_, rfl, h⟩
    · exact .inl rfl
  | applyDisplayManifest manifest =>
    obtain h | h := s.applyDisplayManifest_displayManifest manifest
    · exact .inl h
    · exact .inr ⟨_, rfl, h⟩

end DisplayStore

/-! ## Profiles and temporary displays -/

/-- The EDID of the profile has the manufacturer, product code and serial number of an identity. -/
def DisplayManifestProfile.SharesEdid (profile : DisplayManifestProfile) (identity : UInt64) :
    Prop :=
  profile.manufacturerId.toList.take 3 = kSunshineDriverManufacturerId.toList ∧
    profile.productCode = (productCodeFromDisplayId identity).toUInt32 ∧
    profile.serialNumber = serialNumberFromDisplayId identity

/-- The profile has the display id, or the container GUID or the EDID of the identity. -/
def DisplayManifestProfile.SharesIdentity (profile : DisplayManifestProfile)
    (displayId identity : UInt64) : Prop :=
  profile.displayId = displayId ∨ profile.containerId = containerGuidFromDisplayId identity ∨
    profile.SharesEdid identity

instance (profile : DisplayManifestProfile) (displayId identity : UInt64) :
    Decidable (profile.SharesIdentity displayId identity) :=
  inferInstanceAs (Decidable (_ ∨ _ ∨ _ ∧ _ ∧ _))

/-- The product codes of temporary displays are those from `0x5000` to `0x5fff`. -/
theorem productCodeFromDisplayId_range (identity : UInt64) :
    0x5000 ≤ (productCodeFromDisplayId identity).toNat ∧
      (productCodeFromDisplayId identity).toNat ≤ 0x5fff := by
  rw [toNat_productCodeFromDisplayId]
  omega

/-- The product codes of the profiles of a count request lie below those of temporary displays. -/
theorem permanentProductCode_lt (index : UInt32) : (permanentProductCode index).toNat < 0x5000 := by
  have hlt : index.toNat % 4096 < 2 ^ 12 := Nat.mod_lt _ (by omega)
  have hmask : (index &&& 0x0fff).toNat = index.toNat % 4096 := by
    rw [UInt32.toNat_and]
    exact Nat.and_two_pow_sub_one_eq_mod index.toNat 12
  have hor : (0x4000 : Nat) ||| (index.toNat % 4096) = 0x4000 + index.toNat % 4096 :=
    (Nat.two_pow_add_eq_or_of_lt hlt 4).symm
  have hbase : kPermanentDisplayProductCodeBase.toUInt32.toNat = 0x4000 := rfl
  rw [permanentProductCode, UInt32.toNat_toUInt16, UInt32.toNat_or, hmask, hbase, hor]
  omega

theorem displayManifestFromPermanentSettings_productCode {request : PermanentDisplayCountRequest}
    {maxDisplayCount : UInt32} {profile : DisplayManifestProfile}
    (hprofile : profile ∈
      (displayManifestFromPermanentSettings request maxDisplayCount).activeProfiles) :
    profile.productCode.toNat < 0x5000 := by
  obtain ⟨i, hi, rfl⟩ := List.mem_iff_getElem.mp hprofile
  have hcount : i < (setDefaultPermanentDisplaySettings request).displayCount.toNat := by
    have hlt := hi
    rw [DisplayManifest.activeProfiles, List.length_take] at hlt
    exact Nat.lt_of_lt_of_le hlt (Nat.min_le_left _ _)
  have hprofileAt : (displayManifestFromPermanentSettings request
      maxDisplayCount).activeProfiles[i] =
        permanentProfile (setDefaultPermanentDisplaySettings request) (UInt32.ofNat i) := by
    simp [DisplayManifest.activeProfiles, displayManifestFromPermanentSettings, hcount]
  rw [hprofileAt]
  have hcode := permanentProductCode_lt (UInt32.ofNat i)
  rw [permanentProfile, UInt16.toNat_toUInt32]
  exact hcode

/-- Canonical names do not change what a profile stands for. -/
theorem sharesIdentity_withCanonicalNames {manifest : DisplayManifest}
    {profile : DisplayManifestProfile}
    (hprofile : profile ∈ (withCanonicalNames manifest).activeProfiles) :
    ∃ original ∈ manifest.activeProfiles, ∀ displayId identity,
      profile.SharesIdentity displayId identity ↔ original.SharesIdentity displayId identity := by
  have hsame := withCanonicalNames_sameButName manifest
  obtain ⟨i, hi, rfl⟩ := List.mem_iff_getElem.mp hprofile
  have hi' : i < manifest.activeProfiles.length := hsame.length_eq ▸ hi
  refine ⟨manifest.activeProfiles[i], List.getElem_mem hi', fun displayId identity ↦ ?_⟩
  obtain ⟨displayName, heq⟩ := (hsame.get hi' hi).same
  rw [List.get_eq_getElem, List.get_eq_getElem] at heq
  rw [heq]
  rfl

namespace DisplayStore

variable {s : DisplayStore} {op : StoreOp}

/-- No profile of the stored manifest stands for the same monitor as a record. -/
def IdentitiesApart (s : DisplayStore) : Prop :=
  ∀ (d : UInt64) (r : TemporaryDisplayRecord), s.displaysById[d]? = some r →
    ∀ profile ∈ s.displayManifest.activeProfiles, ¬profile.SharesIdentity d r.effectiveIdentity

/-- The operation is no create whose display has something in common with a profile of the stored
manifest, and applies no manifest one of whose profiles has something in common with a record. -/
structure KeepsIdentitiesApart (s : DisplayStore) (op : StoreOp) : Prop where
  create : ∀ request, op.createRequest? = some request →
    ∀ profile ∈ s.displayManifest.activeProfiles,
      ¬profile.SharesIdentity request.displayId
        (if request.retainsIdentity then request.displayId else s.freshEphemeralIdentity.1)
  manifest : ∀ manifest, op.appliedManifest? s = some manifest →
    ∀ (d : UInt64) (r : TemporaryDisplayRecord), s.displaysById[d]? = some r →
      ∀ profile ∈ manifest.activeProfiles, ¬profile.SharesIdentity d r.effectiveIdentity

theorem appliedManifest?_of_createRequest? {request : CreateTemporaryDisplayRequest}
    (h : op.createRequest? = some request) : op.appliedManifest? s = none := by
  cases op <;> first | rfl | cases h

/-- The records that stay keep apart from whatever manifest there is now. -/
theorem IdentitiesApart.of_evolve (h : s.IdentitiesApart) (hop : s.KeepsIdentitiesApart op)
    (hrecords : s.RecordsEvolve (op.apply s)) : (op.apply s).IdentitiesApart := by
  intro d r' hr' profile hprofile
  obtain ⟨r, hr, hevolves⟩ := hrecords d r' hr'
  rw [effectiveIdentity_of_evolves hevolves]
  obtain hmanifest | ⟨manifest, happlied, hmanifest⟩ := s.apply_displayManifest op
  · rw [hmanifest] at hprofile
    exact h d r hr profile hprofile
  · rw [hmanifest] at hprofile
    obtain ⟨original, horiginal, hshares⟩ := sharesIdentity_withCanonicalNames hprofile
    rw [hshares]
    exact hop.manifest manifest happlied d r hr original horiginal

theorem IdentitiesApart.apply (h : s.IdentitiesApart) (hop : s.KeepsIdentitiesApart op) :
    (op.apply s).IdentitiesApart := by
  have hmanifest := s.apply_displayManifest op
  have hevolve := h.of_evolve hop
  have hstep := op.connectorStep s
  generalize op.apply s = s' at hmanifest hevolve hstep
  cases hstep with
  | @create request _ now _ _ hcall _ houtcome =>
    have hmanifest : s'.displayManifest = s.displayManifest := by
      refine hmanifest.resolve_right ?_
      rintro ⟨manifest, happlied, -⟩
      rw [appliedManifest?_of_createRequest? hcall] at happlied
      cases happlied
    generalize hafter : (s', _) = after at houtcome
    cases houtcome with
    | refused | duplicate =>
      cases hafter
      exact h
    | @committed reservations connectorIndex _ hroom _ hunused =>
      have hs' := congrArg Prod.fst hafter
      dsimp only at hs'
      intro d r hr profile hprofile
      rw [hmanifest] at hprofile
      rw [hs', commitTemporaryDisplay, OrdMap.getElem?_insert] at hr
      split_ifs at hr with hd
      · cases hr
        rw [createdRecord_effectiveIdentity, freshEphemeralIdentity_reservations, ← hd]
        exact hop.create request hcall profile hprofile
      · exact h d r hr profile hprofile
  | keep _ hrecords | release _ hrecords | abandon _ _ _ hrecords => exact hevolve hrecords

theorem IdentitiesApart.execute (h : s.IdentitiesApart) {ops : List StoreOp}
    (hops : Run.Every StoreOp.apply KeepsIdentitiesApart s ops) :
    (s.execute ops).IdentitiesApart := by
  induction ops generalizing s with
  | nil => exact h
  | cons op ops ih => exact ih (h.apply hops.1) hops.2

/-- **When permanent and temporary identities are disjoint.**  In a run without a create or a
manifest that has something in common with a profile or a record that is there, no record ever has
the display id, container GUID or EDID of a profile of the stored manifest.  In any run, the EDIDs
differ wherever the product code of the profile is outside the temporary range, as that of every
profile of a count request is. -/
theorem execute_identitiesApart (maxPermanentDisplays maxTemporaryDisplays : UInt32)
    (reservations : OrdMap UInt64 UInt32) (initialManifest : Option DisplayManifest)
    (ops : List StoreOp) :
    let s₀ := DisplayStore.new maxPermanentDisplays maxTemporaryDisplays reservations
      initialManifest
    let s := s₀.execute ops
    (Run.Every StoreOp.apply KeepsIdentitiesApart s₀ ops →
      ∀ (d : UInt64) (r : TemporaryDisplayRecord), s.displaysById[d]? = some r →
        ∀ profile ∈ s.displayManifest.activeProfiles,
          ¬profile.SharesIdentity r.displayId r.effectiveIdentity) ∧
    (∀ (d : UInt64) (r : TemporaryDisplayRecord), s.displaysById[d]? = some r →
      ∀ profile ∈ s.displayManifest.activeProfiles,
        profile.productCode.toNat < 0x5000 ∨ 0x5fff < profile.productCode.toNat →
          ¬profile.SharesEdid r.effectiveIdentity) ∧
    ∀ request, ∀ profile ∈
      (displayManifestFromPermanentSettings request maxPermanentDisplays).activeProfiles,
        profile.productCode.toNat < 0x5000 := by
  intro s₀ s
  refine ⟨fun hops d r hr profile hprofile ↦ ?_, fun d r hr profile hprofile hcode hshares ↦ ?_,
    fun request profile hprofile ↦ displayManifestFromPermanentSettings_productCode hprofile⟩
  · have hnew : s₀.IdentitiesApart := by
      intro d r hr
      rw [(new_fresh _ _ _ _).1] at hr
      simp at hr
    rw [(execute_recordsKeyed _ _ _ _ _ d r hr).1]
    exact hnew.execute hops d r hr profile hprofile
  · have hrange := productCodeFromDisplayId_range r.effectiveIdentity
    have heq := congrArg UInt32.toNat hshares.2.1
    rw [UInt16.toNat_toUInt32] at heq
    omega

/-- One permanent display and a temporary one beside it. -/
theorem execute_identitiesApart_beside :
    ∀ (d : UInt64) (r : TemporaryDisplayRecord),
      (DisplayStore.execute (.new 4 8) [.setPermanentDisplayCount { displayCount := 1 },
        .createTemporaryDisplay (exampleRequest kMinOpaqueLeaseId 1) 0]).displaysById[d]? = some r →
      ∀ profile ∈ (DisplayStore.execute (.new 4 8) [.setPermanentDisplayCount { displayCount := 1 },
          .createTemporaryDisplay (exampleRequest kMinOpaqueLeaseId 1)
            0]).displayManifest.activeProfiles,
        ¬profile.SharesIdentity r.displayId r.effectiveIdentity := by
  refine (execute_identitiesApart 4 8 ∅ none [.setPermanentDisplayCount { displayCount := 1 },
    .createTemporaryDisplay (exampleRequest kMinOpaqueLeaseId 1) 0]).1 ⟨⟨?_, ?_⟩, ⟨?_, ?_⟩, trivial⟩
  · exact fun _ h ↦ (nomatch h)
  · intro _ _ d r hr
    rw [(new_fresh _ _ _ _).1] at hr
    simp at hr
  · intro request h
    cases h
    decide
  · exact fun _ h ↦ (nomatch h)

/-- A temporary display may be created with the display id of a permanent one. -/
theorem permanentId_created :
    ¬∀ maxPermanentDisplays maxTemporaryDisplays reservations initialManifest ops,
      ∀ (d : UInt64) (r : TemporaryDisplayRecord),
        (DisplayStore.execute (.new maxPermanentDisplays maxTemporaryDisplays reservations
          initialManifest) ops).displaysById[d]? = some r →
        ∀ profile ∈ (DisplayStore.execute (.new maxPermanentDisplays maxTemporaryDisplays
            reservations initialManifest) ops).displayManifest.activeProfiles,
          ¬profile.SharesIdentity r.displayId r.effectiveIdentity := by
  intro h
  let ops : List StoreOp :=
    [.setPermanentDisplayCount { displayCount := 1 },
      .createTemporaryDisplay (exampleRequest kMinOpaqueLeaseId (permanentDisplayId 0)) 0]
  have hclash : ((DisplayStore.execute (.new 4 8) ops).displaysById[permanentDisplayId 0]?).any
      fun r ↦ (DisplayStore.execute (.new 4 8) ops).displayManifest.activeProfiles.any
        fun profile ↦ profile.SharesIdentity r.displayId r.effectiveIdentity := by
    decide
  obtain ⟨r, hr, hclash⟩ := (Option.any_eq_true _ _).mp hclash
  obtain ⟨profile, hprofile, hshares⟩ := List.any_eq_true.mp hclash
  exact h 4 8 ∅ none ops _ r hr profile hprofile (of_decide_eq_true hshares)

end DisplayStore

end VirtualDisplay
