import VirtualDisplay.Broker.Commands
import VirtualDisplay.LeaseStore.Manifest

/-!
# When a manifest command is all or nothing

A manifest command makes up to five calls, each of which may fail, and two of them write: the
driver's manifest and the registry value.  `manifest-profile-set` writes the registry first, and if
the driver does not answer, writes the driver's old manifest there; that is what was there before
only if the registry and the driver agreed.  `permanent-set` has the driver go first, and takes
nothing back.

`handleCommand_allOrNothing_iff` says exactly when a command has done all or nothing.

## What is here

* `manifestProfileSet_cases`, `permanentSet_cases` — how far a command comes, and what has been
  written by then.
* `compensation` — what the registry has after the old manifest has been written back.
* `UntornProfile`, `UntornManifest`, `Untorn` — the conditions: each is on the text of the command,
  the store of the driver, the value in the registry and the outcome of the calls.
* `profiles_unchanged_iff` — making names canonical changes the other profiles too, so a stored name
  that was not canonical is enough to tear a command.
* `handleCommand_allOrNothing_iff` — the equivalence, for every text.

The driver's answer can be lost after the driver has taken the manifest.  The broker cannot know
that, and its compensation then goes the wrong way; `undelivered` is such a case.
-/

set_option autoImplicit false

namespace VirtualDisplay

open SlotCalls

/-! ## Profiles and names -/

/-- The profiles with this one in the place of the one for its connector, or else behind them. -/
def withProfile (profile : DisplayManifestProfile) :
    List DisplayManifestProfile → List DisplayManifestProfile
  | [] => [profile]
  | other :: rest =>
    if other.connectorIndex = profile.connectorIndex then profile :: rest
    else other :: withProfile profile rest

/-- The profile with its name in canonical form, if it has one. -/
def canonicalProfile (profile : DisplayManifestProfile) : DisplayManifestProfile :=
  { profile with
    displayName := (canonicalizeDisplayName profile.displayName).getD profile.displayName }

theorem activeProfiles_withCanonicalNames (manifest : DisplayManifest) :
    (withCanonicalNames manifest).activeProfiles =
      manifest.activeProfiles.map canonicalProfile := by
  refine List.ext_getElem ?_ fun i h₁ h₂ ↦ ?_
  · simp [DisplayManifest.activeProfiles, withCanonicalNames]
  · have hi : i < manifest.profileCount.toNat := by
      simp only [DisplayManifest.activeProfiles, List.length_map, List.length_take] at h₂
      omega
    simp only [DisplayManifest.activeProfiles, withCanonicalNames, List.getElem_map,
      List.getElem_take, Vector.getElem_toList, Vector.getElem_ofFn, if_pos hi]
    rfl

/-- Names are made canonical after the profile has been put in its place. -/
theorem map_withProfile (profile : DisplayManifestProfile)
    (profiles : List DisplayManifestProfile) :
    (withProfile profile profiles).map canonicalProfile =
      withProfile (canonicalProfile profile) (profiles.map canonicalProfile) := by
  induction profiles with
  | nil => rfl
  | cons other rest ih =>
    have hother : (canonicalProfile other).connectorIndex = other.connectorIndex := rfl
    have hprofile : (canonicalProfile profile).connectorIndex = profile.connectorIndex := rfl
    rw [List.map_cons, withProfile, withProfile, hother, hprofile]
    split_ifs
    · rfl
    · rw [List.map_cons, ih]

/-- The other profiles are unchanged if and only if their names were canonical. -/
theorem withProfile_map_eq_iff {profile : DisplayManifestProfile}
    {profiles : List DisplayManifestProfile}
    (hconnectors : profiles.Pairwise fun other other' ↦
      other.connectorIndex ≠ other'.connectorIndex) :
    withProfile (canonicalProfile profile) (profiles.map canonicalProfile) =
        withProfile (canonicalProfile profile) profiles ↔
      ∀ other ∈ profiles, other.connectorIndex ≠ profile.connectorIndex →
        canonicalProfile other = other := by
  induction profiles with
  | nil => exact ⟨fun _ other hother ↦ (nomatch hother), fun _ ↦ rfl⟩
  | cons first rest ih =>
    rw [List.pairwise_cons] at hconnectors
    have hfirst : (canonicalProfile first).connectorIndex = first.connectorIndex := rfl
    have hprofile : (canonicalProfile profile).connectorIndex = profile.connectorIndex := rfl
    rw [List.map_cons, withProfile, withProfile, hfirst, hprofile, List.forall_mem_cons]
    split_ifs with hconnector
    · have hrest : ∀ other ∈ rest, other.connectorIndex ≠ profile.connectorIndex :=
        fun other hother heq ↦ hconnectors.1 other hother (hconnector.trans heq.symm)
      have hmap : rest.map canonicalProfile = rest ↔
          ∀ other ∈ rest, canonicalProfile other = other := by
        rw [← List.map_inj_left, List.map_id']
      rw [List.cons.injEq, hmap]
      exact ⟨fun h ↦ ⟨fun hne ↦ absurd hconnector hne, fun other hother _ ↦ h.2 other hother⟩,
        fun h ↦ ⟨rfl, fun other hother ↦ h.2 other hother (hrest other hother)⟩⟩
    · rw [List.cons.injEq, ih hconnectors.2]
      exact ⟨fun h ↦ ⟨fun _ ↦ h.1, h.2⟩, fun h ↦ ⟨h.1 hconnector, h.2⟩⟩

theorem canonicalProfile_eq_iff {profile : DisplayManifestProfile}
    (h : (canonicalizeDisplayName profile.displayName).isSome = true) :
    canonicalProfile profile = profile ↔
      canonicalizeDisplayName profile.displayName = some profile.displayName := by
  rcases Option.isSome_iff_exists.mp h with ⟨displayName, hname⟩
  rw [canonicalProfile, hname, Option.getD_some, Option.some.injEq]
  constructor
  · intro heq
    exact congrArg DisplayManifestProfile.displayName heq
  · intro heq
    rw [heq]

theorem findIdx?_withProfile (profile : DisplayManifestProfile)
    (profiles : List DisplayManifestProfile) :
    (match profiles.findIdx? (·.connectorIndex == profile.connectorIndex) with
      | some index => profiles.set index profile
      | none => profiles ++ [profile]) = withProfile profile profiles := by
  induction profiles with
  | nil => rfl
  | cons other rest ih =>
    rw [withProfile, List.findIdx?_cons, ← ih]
    by_cases h : other.connectorIndex = profile.connectorIndex
    · rw [if_pos h, if_pos (beq_iff_eq.mpr h)]
      rfl
    · rw [if_neg h, if_neg (mt beq_iff_eq.mp h)]
      cases rest.findIdx? (·.connectorIndex == profile.connectorIndex) <;> rfl

namespace Broker

/-- What the code makes of the driver's manifest has the profile in its place. -/
theorem activeProfiles_withManifestProfile {manifest edited : DisplayManifest}
    {maxDisplayCount : UInt32} {profile : DisplayManifestProfile}
    (hcount : manifest.profileCount.toNat ≤ kMaxPermanentDisplayProfiles)
    (h : withManifestProfile manifest maxDisplayCount profile = some edited) :
    edited.activeProfiles = withProfile profile manifest.activeProfiles := by
  rw [withManifestProfile, Nat.min_eq_left hcount] at h
  rw [← findIdx?_withProfile]
  change (match manifest.activeProfiles.findIdx? _ with | some _ => _ | none => _) = _ at h
  cases hindex : manifest.activeProfiles.findIdx? (·.connectorIndex == profile.connectorIndex) with
  | some index =>
    rw [hindex] at h
    cases h
    rw [DisplayManifest.activeProfiles, DisplayManifest.activeProfiles,
      Vector.toList_setIfInBounds, List.take_set]
  | none =>
    rw [hindex] at h
    dsimp only at h
    split_ifs at h with hfull
    cases h
    rw [not_or, Nat.not_le, Nat.not_le] at hfull
    have hroom : manifest.profileCount.toNat < 8 := hfull.2
    have hlength : manifest.profileCount.toNat <
        (manifest.profiles.toList.set manifest.profileCount.toNat profile).length := by
      rw [List.length_set, Vector.length_toList]
      exact hfull.2
    have hcount : (UInt32.ofNat (manifest.profileCount.toNat + 1)).toNat =
        manifest.profileCount.toNat + 1 := by
      rw [UInt32.toNat_ofNat']
      omega
    rw [DisplayManifest.activeProfiles, DisplayManifest.activeProfiles,
      Vector.toList_setIfInBounds, hcount, List.take_succ_eq_append_getElem hlength,
      List.take_set, List.getElem_set_self, List.set_eq_of_length_le]
    rw [List.length_take]
    omega

/-! ## The set call -/

/-- The driver takes the manifest: it is valid, and the backend applies it. -/
def accepts (b : Broker) (manifest : DisplayManifest) (outcomes : BrokerOutcomes) : Bool :=
  validateDisplayManifest manifest b.driver.maxPermanentDisplays == .none &&
    outcomes.setReply.any (·.error == .none)

/-- The broker after the driver has taken the manifest. -/
def withDriverManifest (b : Broker) (manifest : DisplayManifest) : Broker :=
  { b with driver := (b.driver.applyDisplayManifest (withCanonicalNames manifest)).1 }

theorem driverManifest_withDriverManifest {b : Broker} {manifest : DisplayManifest}
    (h : validateDisplayManifest manifest b.driver.maxPermanentDisplays = .none) :
    (b.withDriverManifest manifest).driver.displayManifest = withCanonicalNames manifest ∧
      (b.withDriverManifest manifest).driver.maxPermanentDisplays =
        b.driver.maxPermanentDisplays := by
  have hcanonical := canonicalManifest_of_valid h (canonicalDisplayManifest_of_valid h).2
  rw [withDriverManifest, hcanonical.applyDisplayManifest]
  exact ⟨rfl, rfl⟩

/-- The driver either takes the canonical form of the manifest, or nothing happens. -/
theorem setDisplayManifest_eq (b : Broker) (manifest : DisplayManifest)
    (outcomes : BrokerOutcomes) :
    b.setDisplayManifest manifest outcomes =
      if b.accepts manifest outcomes then
        (b.withDriverManifest manifest,
          if outcomes.setLost then .error outcomes.setFailure
          else .ok (withCanonicalNames manifest))
      else (b, .error outcomes.setFailure) := by
  rw [setDisplayManifest, accepts]
  cases outcomes.setReply with
  | none => simp
  | some reply =>
    have hstart : controller.start b.driver (.applyDisplayManifest manifest) =
      Controller.applyDisplayManifest b.driver manifest := rfl
    rw [hstart, Option.any_some]
    by_cases hvalid : validateDisplayManifest manifest b.driver.maxPermanentDisplays = .none
    · have hcanonical := (canonicalDisplayManifest_of_valid hvalid).2
      have happly := (canonicalManifest_of_valid hvalid hcanonical).applyDisplayManifest
      have hresume : controller.resume b.driver
          (.applyDisplayManifest (withCanonicalNames manifest)) reply =
        Controller.manifestApplied b.driver (withCanonicalNames manifest) reply.error := rfl
      rw [Controller.applyDisplayManifest, hvalid, hcanonical]
      dsimp only
      rw [drive, hresume, Controller.manifestApplied]
      by_cases herror : reply.error = .none
      · rw [if_neg (not_not.mpr herror), herror, withDriverManifest, happly]
        cases outcomes.setLost <;> rfl
      · rw [if_pos herror, drive, beq_false_of_ne herror]
        simp [ControllerStatus.ok, herror]
    · have hrefused : Controller.applyDisplayManifest b.driver manifest =
          (b.driver, .done (.status
            { storeError := .validationFailed
              validationError :=
                validateDisplayManifest manifest b.driver.maxPermanentDisplays })) := by
        rw [Controller.applyDisplayManifest]
        split
        · contradiction
        · rfl
      rw [hrefused, beq_false_of_ne hvalid]
      rfl

/-! ## All or nothing -/

/-- What a manifest command should have done by its reply.  An `ok`: the driver has the manifest
that was asked for, and the registry value is one with that canonical form.  An `error`: both are as
before. -/
structure AllOrNothing (command : CommandText) (b b' : Broker) (reply : BrokerReply) : Prop where
  persisted : reply.isOk = true → ∃ manifest,
    loadPersistedDisplayManifest b'.persisted b.driver.maxPermanentDisplays = some manifest ∧
      canonicalDisplayManifest manifest = some b'.driver.displayManifest
  profileSet : reply.isOk = true → ∀ profile,
    parseManifestProfileSetCommand command = some profile →
      b'.driver.displayManifest.activeProfiles =
        withProfile (canonicalProfile profile) b.driver.displayManifest.activeProfiles
  permanentSet : reply.isOk = true → ∀ request,
    parsePermanentSetCommand command = some request →
      canonicalDisplayManifest
          (displayManifestFromPermanentSettings request b.driver.maxPermanentDisplays) =
        some b'.driver.displayManifest
  failed : reply.isOk = false →
    b'.driver.displayManifest = b.driver.displayManifest ∧ b'.persisted = b.persisted

/-- The manifest that `manifest-profile-set` gets to write to the registry, if it gets that far. -/
def profileSaved? (b : Broker) (outcomes : BrokerOutcomes) (profile : DisplayManifestProfile) :
    Option DisplayManifest :=
  if outcomes.permanentDisplayCount.isNone ∧
      profile.connectorIndex < b.driver.maxPermanentDisplays ∧ outcomes.displayManifest.isNone then
    (withManifestProfile b.driver.displayManifest b.driver.maxPermanentDisplays profile).filter
      fun manifest ↦
        validateDisplayManifest manifest b.driver.maxPermanentDisplays == .none && outcomes.saved
  else none

/-- What `manifest-profile-set` leaves in the registry when the driver does not answer that it has
taken the manifest: the driver's old one, if that can be written. -/
def compensation (b : Broker) (outcomes : BrokerOutcomes) (manifest : DisplayManifest) :
    PersistedManifest :=
  .manifest (if outcomes.restored then b.driver.displayManifest else manifest)

/-- The profile is saved without leaving anything half done. -/
def UntornProfile (b : Broker) (outcomes : BrokerOutcomes) (profile : DisplayManifestProfile)
    (manifest : DisplayManifest) : Prop :=
  if b.accepts manifest outcomes then
    if outcomes.setLost then
      withCanonicalNames manifest = b.driver.displayManifest ∧
        b.persisted = b.compensation outcomes manifest
    else
      ∀ other ∈ b.driver.displayManifest.activeProfiles,
        other.connectorIndex ≠ profile.connectorIndex →
          canonicalizeDisplayName other.displayName = some other.displayName
  else b.persisted = b.compensation outcomes manifest

/-- The manifest is set and saved without leaving anything half done. -/
def UntornManifest (b : Broker) (outcomes : BrokerOutcomes) (manifest : DisplayManifest) : Prop :=
  b.accepts manifest outcomes = true →
    outcomes.setLost = false ∧ outcomes.saved = true ∧ outcomes.resultingDisplayCount = none ∨
    withCanonicalNames manifest = b.driver.displayManifest ∧
      (outcomes.setLost = false ∧ outcomes.saved = true →
        b.persisted = .manifest (withCanonicalNames manifest))

/-- What must not go wrong for the command to leave the driver and the registry with the same
permanent displays. -/
structure Untorn (b : Broker) (outcomes : BrokerOutcomes) (command : CommandText) : Prop where
  profileSet : ∀ profile manifest, parseManifestProfileSetCommand command = some profile →
    b.profileSaved? outcomes profile = some manifest → b.UntornProfile outcomes profile manifest
  permanentSet : ∀ request, parsePermanentSetCommand command = some request →
    outcomes.permanentDisplayCount = none →
      b.UntornManifest outcomes
        (displayManifestFromPermanentSettings request b.driver.maxPermanentDisplays)

section Commands

variable {b : Broker} {outcomes : BrokerOutcomes} {command : CommandText}

theorem profileSaved?_eq_some {profile : DisplayManifestProfile} {manifest : DisplayManifest} :
    b.profileSaved? outcomes profile = some manifest ↔
      outcomes.permanentDisplayCount = none ∧
        profile.connectorIndex < b.driver.maxPermanentDisplays ∧
        outcomes.displayManifest = none ∧
        withManifestProfile b.driver.displayManifest b.driver.maxPermanentDisplays profile =
          some manifest ∧
        validateDisplayManifest manifest b.driver.maxPermanentDisplays = .none ∧
        outcomes.saved = true := by
  rw [profileSaved?]
  split_ifs with h
  · simp only [Option.isNone_iff_eq_none] at h
    simp [h]
  · simp only [Option.isNone_iff_eq_none] at h
    simp only [false_iff]
    rintro ⟨hcount, hconnector, hmanifest, -⟩
    exact h ⟨hcount, hconnector, hmanifest⟩

/-- The registry write: it takes place if the manifest is valid, and the registry lets it. -/
theorem saveDisplayManifest_of_valid {manifest : DisplayManifest} {maxDisplayCount : UInt32}
    (h : validateDisplayManifest manifest maxDisplayCount = .none) (written : Bool) :
    b.saveDisplayManifest manifest maxDisplayCount written =
      if written then ({ b with persisted := .manifest manifest }, true) else (b, false) := by
  rw [saveDisplayManifest, if_neg (not_not.mpr h)]
  cases written <;> rfl

/-- The command stops before it has written anything, or it writes the edited manifest to the
registry and goes on to the driver. -/
theorem manifestProfileSet_cases {profile : DisplayManifestProfile}
    (hvalid :
      validateDisplayManifest b.driver.displayManifest b.driver.maxPermanentDisplays = .none)
    (hparse : parseManifestProfileSetCommand command = some profile) :
    (b.profileSaved? outcomes profile = none ∧
      ∃ message, b.manifestProfileSet outcomes command = (b, .error message)) ∨
    ∃ manifest, b.profileSaved? outcomes profile = some manifest ∧
      b.manifestProfileSet outcomes command =
        if b.accepts manifest outcomes then
          if outcomes.setLost then
            ({ b.withDriverManifest manifest with
                persisted := b.compensation outcomes manifest },
              .error (formatStatus outcomes.setFailure))
          else
            ({ b.withDriverManifest manifest with persisted := .manifest manifest },
              .displayManifest (withCanonicalNames manifest))
        else
          ({ b with persisted := b.compensation outcomes manifest },
            .error (formatStatus outcomes.setFailure)) := by
  rw [manifestProfileSet, hparse]
  dsimp only
  cases hcount : outcomes.permanentDisplayCount with
  | some failure =>
    refine .inl ⟨Option.eq_none_iff_forall_ne_some.mpr fun manifest hsaved ↦ ?_, _, rfl⟩
    rw [profileSaved?_eq_some, hcount] at hsaved
    cases hsaved.1
  | none =>
    rw [queryPermanentDisplayCount]
    dsimp only [DisplayStore.queryPermanentDisplayCount]
    by_cases hconnector : b.driver.maxPermanentDisplays ≤ profile.connectorIndex
    · rw [if_pos hconnector]
      refine .inl ⟨Option.eq_none_iff_forall_ne_some.mpr fun manifest hsaved ↦ ?_, _, rfl⟩
      exact UInt32.not_lt.mpr hconnector (profileSaved?_eq_some.mp hsaved).2.1
    rw [if_neg hconnector]
    cases hmanifest : outcomes.displayManifest with
    | some failure =>
      refine .inl ⟨Option.eq_none_iff_forall_ne_some.mpr fun manifest hsaved ↦ ?_, _, rfl⟩
      rw [profileSaved?_eq_some, hmanifest] at hsaved
      cases hsaved.2.2.1
    | none =>
      rw [queryDisplayManifest]
      dsimp only
      cases hedited : withManifestProfile b.driver.displayManifest b.driver.maxPermanentDisplays
          profile with
      | none =>
        refine .inl ⟨Option.eq_none_iff_forall_ne_some.mpr fun manifest hsaved ↦ ?_, _, rfl⟩
        rw [profileSaved?_eq_some, hedited] at hsaved
        cases hsaved.2.2.2.1
      | some manifest =>
        dsimp only
        by_cases hsaved : validateDisplayManifest manifest b.driver.maxPermanentDisplays = .none ∧
            outcomes.saved = true
        · refine .inr ⟨manifest, profileSaved?_eq_some.mpr
            ⟨hcount, UInt32.not_le.mp hconnector, hmanifest, hedited, hsaved⟩, ?_⟩
          rw [saveDisplayManifest_of_valid hsaved.1, if_pos hsaved.2]
          dsimp only
          have haccepts : ({ b with persisted := .manifest manifest } : Broker).accepts manifest
            outcomes = b.accepts manifest outcomes := rfl
          rw [setDisplayManifest_eq, haccepts, compensation]
          have hrestore (b' : Broker) :
              (b'.saveDisplayManifest b.driver.displayManifest b.driver.maxPermanentDisplays
                outcomes.restored).1 =
              if outcomes.restored then
                { b' with persisted := .manifest b.driver.displayManifest }
              else b' := by
            rw [saveDisplayManifest_of_valid hvalid]
            cases outcomes.restored <;> rfl
          split_ifs with _ _ hrestored hrestored <;> dsimp only
          · rw [hrestore, if_pos hrestored]
            rfl
          · rw [hrestore, if_neg hrestored]
            rfl
          · rfl
          · rw [hrestore, if_pos hrestored]
          · rw [hrestore, if_neg hrestored]
        · refine .inl ⟨Option.eq_none_iff_forall_ne_some.mpr fun manifest' hsaved' ↦ ?_,
            "persistence_failed", ?_⟩
          · rw [profileSaved?_eq_some, hedited] at hsaved'
            cases hsaved'.2.2.2.1
            exact hsaved hsaved'.2.2.2.2
          · rw [saveDisplayManifest]
            split_ifs with hinvalid hunwritten
            · rfl
            · rfl
            · exact absurd ⟨not_not.mp hinvalid, by simpa using hunwritten⟩ hsaved

/-- Nothing happens, or the driver takes the manifest; then the registry is written if the answer
gets back and the write succeeds, and the reply is `ok` if the last query succeeds too. -/
theorem permanentSet_cases {request : PermanentDisplayCountRequest} {manifest : DisplayManifest}
    (hparse : parsePermanentSetCommand command = some request)
    (hmanifest : displayManifestFromPermanentSettings request b.driver.maxPermanentDisplays =
      manifest) :
    (¬(outcomes.permanentDisplayCount = none ∧ b.accepts manifest outcomes = true) ∧
      ∃ message, b.permanentSet outcomes command = (b, .error message)) ∨
    outcomes.permanentDisplayCount = none ∧ b.accepts manifest outcomes = true ∧
      ∃ reply, b.permanentSet outcomes command =
          ({ b.withDriverManifest manifest with
              persisted :=
                if outcomes.setLost = false ∧ outcomes.saved = true then
                  .manifest (withCanonicalNames manifest)
                else b.persisted },
            reply) ∧
        (reply.isOk = true ↔ outcomes.setLost = false ∧ outcomes.saved = true ∧
          outcomes.resultingDisplayCount = none) := by
  rw [permanentSet, hparse]
  dsimp only
  cases hcount : outcomes.permanentDisplayCount with
  | some failure => exact .inl ⟨fun h ↦ (nomatch h.1), _, rfl⟩
  | none =>
    rw [queryPermanentDisplayCount]
    dsimp only [DisplayStore.queryPermanentDisplayCount]
    rw [hmanifest, setDisplayManifest_eq]
    cases haccepts : b.accepts manifest outcomes with
    | false => exact .inl ⟨fun h ↦ (nomatch h.2), _, rfl⟩
    | true =>
      refine .inr ⟨rfl, rfl, ?_⟩
      rw [if_pos rfl]
      cases hlost : outcomes.setLost with
      | true => exact ⟨_, rfl, by simp [BrokerReply.isOk]⟩
      | false =>
        have hvalid : validateDisplayManifest (withCanonicalNames manifest)
            b.driver.maxPermanentDisplays = .none := by
          rw [accepts, Bool.and_eq_true, beq_iff_eq] at haccepts
          exact (canonicalManifest_of_valid haccepts.1
            (canonicalDisplayManifest_of_valid haccepts.1).2).valid
        rw [if_neg Bool.false_ne_true]
        dsimp only
        rw [saveDisplayManifest_of_valid hvalid]
        cases hsaved : outcomes.saved with
        | false => exact ⟨_, rfl, by simp [BrokerReply.isOk]⟩
        | true =>
          cases hresult : outcomes.resultingDisplayCount with
          | some failure => exact ⟨_, rfl, by simp [BrokerReply.isOk]⟩
          | none => exact ⟨_, rfl, by simp [BrokerReply.isOk]⟩

theorem allOrNothing_error_iff {b' : Broker} {message : String} :
    AllOrNothing command b b' (.error message) ↔
      b'.driver.displayManifest = b.driver.displayManifest ∧ b'.persisted = b.persisted :=
  ⟨fun h ↦ h.failed rfl, fun h ↦ ⟨nofun, nofun, nofun, fun _ ↦ h⟩⟩

/-- No command is both. -/
theorem parse_exclusive (hprofile : kManifestProfileSet.isPrefixOf command = true) :
    parsePermanentSetCommand command = none := by
  have hnot : kPermanentSet.isPrefixOf command = false := by
    rw [← Bool.not_eq_true]
    intro hpermanent
    rw [List.isPrefixOf_iff_prefix] at hprofile hpermanent
    rcases List.prefix_or_prefix_of_prefix hprofile hpermanent with h | h
    · exact absurd h (by decide)
    · exact absurd h (by decide)
  rw [parsePermanentSetCommand, commandFields, hnot]
  rfl

/-- A profile that has been saved and set has left the other profiles as they were if and only if
their names were canonical. -/
theorem profiles_unchanged_iff {profile : DisplayManifestProfile} {manifest : DisplayManifest}
    (hvalid :
      validateDisplayManifest b.driver.displayManifest b.driver.maxPermanentDisplays = .none)
    (hedited : withManifestProfile b.driver.displayManifest b.driver.maxPermanentDisplays profile =
      some manifest) :
    (withCanonicalNames manifest).activeProfiles =
        withProfile (canonicalProfile profile) b.driver.displayManifest.activeProfiles ↔
      ∀ other ∈ b.driver.displayManifest.activeProfiles,
        other.connectorIndex ≠ profile.connectorIndex →
          canonicalizeDisplayName other.displayName = some other.displayName := by
  have hcount := (validateDisplayManifest_profiles hvalid).1
  rw [activeProfiles_withCanonicalNames, activeProfiles_withManifestProfile hcount hedited,
    map_withProfile, withProfile_map_eq_iff (validateDisplayManifest_connectors hvalid)]
  refine forall₃_congr fun other hother _ ↦ canonicalProfile_eq_iff ?_
  exact (canonicalDisplayManifest_of_valid hvalid).1 other hother

theorem manifestProfileSet_allOrNothing_iff {b' : Broker} {reply : BrokerReply}
    (hvalid :
      validateDisplayManifest b.driver.displayManifest b.driver.maxPermanentDisplays = .none)
    (hbegin : kManifestProfileSet.isPrefixOf command = true)
    (h : b.manifestProfileSet outcomes command = (b', reply)) :
    AllOrNothing command b b' reply ↔ b.Untorn outcomes command := by
  have hpermanent := parse_exclusive hbegin
  have huntorn : b.Untorn outcomes command ↔ ∀ profile manifest,
      parseManifestProfileSetCommand command = some profile →
        b.profileSaved? outcomes profile = some manifest →
          b.UntornProfile outcomes profile manifest :=
    ⟨fun h ↦ h.profileSet, fun h ↦ ⟨h, fun _ hparse ↦ (nomatch hpermanent.symm.trans hparse)⟩⟩
  rw [huntorn]
  cases hparse : parseManifestProfileSetCommand command with
  | none =>
    rw [manifestProfileSet, hparse] at h
    cases h
    exact ⟨fun _ _ _ hnone ↦ (nomatch hnone), fun _ ↦ allOrNothing_error_iff.mpr ⟨rfl, rfl⟩⟩
  | some profile =>
    rcases manifestProfileSet_cases hvalid hparse with ⟨hnone, message, h'⟩ | ⟨manifest, hsaved, h'⟩
    · rw [h'] at h
      cases h
      refine ⟨fun _ profile' manifest' hprofile hsaved ↦ ?_,
        fun _ ↦ allOrNothing_error_iff.mpr ⟨rfl, rfl⟩⟩
      cases hprofile
      rw [hnone] at hsaved
      cases hsaved
    · have hforall : (∀ profile' manifest', some profile = some profile' →
          b.profileSaved? outcomes profile' = some manifest' →
            b.UntornProfile outcomes profile' manifest') ↔
          b.UntornProfile outcomes profile manifest := by
        constructor
        · exact fun hall ↦ hall profile manifest rfl hsaved
        · intro hone profile' manifest' hprofile hsaved'
          cases hprofile
          cases hsaved.symm.trans hsaved'
          exact hone
      rw [hforall, UntornProfile]
      rcases profileSaved?_eq_some.mp hsaved with ⟨-, -, -, hedited, hmanifest, -⟩
      have hdriver := driverManifest_withDriverManifest hmanifest
      rw [h'] at h
      split_ifs at h ⊢ with haccepts hlost
      · cases h
        rw [allOrNothing_error_iff]
        dsimp only
        rw [hdriver.1, eq_comm (a := b.persisted)]
      · cases h
        rw [← profiles_unchanged_iff hvalid hedited]
        refine ⟨fun h ↦ ?_, fun hprofiles ↦
          ⟨fun _ ↦ ⟨manifest, ?_, ?_⟩, fun _ profile' hprofile ↦ ?_,
          fun _ request hrequest ↦ ?_, nofun⟩⟩
        · have hset := h.profileSet rfl profile hparse
          dsimp only at hset
          rwa [hdriver.1] at hset
        · exact if_neg (not_not.mpr hmanifest)
        · dsimp only
          rw [hdriver.1]
          exact (canonicalDisplayManifest_of_valid hmanifest).2
        · cases hparse.symm.trans hprofile
          dsimp only
          rwa [hdriver.1]
        · rw [hpermanent] at hrequest
          cases hrequest
      · cases h
        rw [allOrNothing_error_iff]
        exact ⟨fun h ↦ h.2.symm, fun h ↦ ⟨rfl, h.symm⟩⟩

theorem permanentSet_allOrNothing_iff {b' : Broker} {reply : BrokerReply}
    (hbegin : kManifestProfileSet.isPrefixOf command = false)
    (h : b.permanentSet outcomes command = (b', reply)) :
    AllOrNothing command b b' reply ↔ b.Untorn outcomes command := by
  have hprofile : parseManifestProfileSetCommand command = none := by
    rw [parseManifestProfileSetCommand, commandFields, hbegin]
    rfl
  have huntorn : b.Untorn outcomes command ↔ ∀ request,
      parsePermanentSetCommand command = some request → outcomes.permanentDisplayCount = none →
        b.UntornManifest outcomes
          (displayManifestFromPermanentSettings request b.driver.maxPermanentDisplays) :=
    ⟨fun h ↦ h.permanentSet, fun h ↦ ⟨fun _ _ hparse ↦ (nomatch hprofile.symm.trans hparse), h⟩⟩
  rw [huntorn]
  cases hparse : parsePermanentSetCommand command with
  | none =>
    rw [permanentSet, hparse] at h
    cases h
    exact ⟨fun _ _ hnone ↦ (nomatch hnone), fun _ ↦ allOrNothing_error_iff.mpr ⟨rfl, rfl⟩⟩
  | some request =>
    have hforall : (∀ request', some request = some request' →
        outcomes.permanentDisplayCount = none → b.UntornManifest outcomes
          (displayManifestFromPermanentSettings request' b.driver.maxPermanentDisplays)) ↔
        (outcomes.permanentDisplayCount = none → b.UntornManifest outcomes
          (displayManifestFromPermanentSettings request b.driver.maxPermanentDisplays)) :=
      ⟨fun hall ↦ hall request rfl, fun hone request' heq ↦ Option.some.inj heq ▸ hone⟩
    rw [hforall]
    generalize hmanifest : displayManifestFromPermanentSettings request
      b.driver.maxPermanentDisplays = manifest
    rcases permanentSet_cases hparse hmanifest with
      ⟨hrefused, message, h'⟩ | ⟨hcount, haccepts, reply', h', hreply⟩
    · rw [h'] at h
      cases h
      exact ⟨fun _ hcount haccepts ↦ absurd ⟨hcount, haccepts⟩ hrefused,
        fun _ ↦ allOrNothing_error_iff.mpr ⟨rfl, rfl⟩⟩
    · rw [h'] at h
      cases h
      have hvalid : validateDisplayManifest manifest b.driver.maxPermanentDisplays = .none := by
        rw [accepts, Bool.and_eq_true, beq_iff_eq] at haccepts
        exact haccepts.1
      have hdriver := driverManifest_withDriverManifest hvalid
      have hcanonical := (canonicalDisplayManifest_of_valid hvalid).2
      have hform := canonicalManifest_of_valid hvalid hcanonical
      constructor
      · intro h _ _
        cases hok : reply.isOk with
        | true => exact .inl (hreply.mp hok)
        | false =>
          obtain ⟨hdriver', hpersisted⟩ := h.failed hok
          dsimp only at hdriver' hpersisted
          rw [hdriver.1] at hdriver'
          refine .inr ⟨hdriver', fun hboth ↦ ?_⟩
          rw [if_pos hboth] at hpersisted
          exact hpersisted.symm
      · intro h
        refine ⟨fun hok ↦ ⟨withCanonicalNames manifest, ?_, ?_⟩, fun _ profile hnone ↦ ?_,
          fun _ request' hrequest ↦ ?_, fun hok ↦ ?_⟩
        · obtain ⟨hlost, hsaved, -⟩ := hreply.mp hok
          dsimp only
          rw [if_pos ⟨hlost, hsaved⟩]
          exact if_neg (not_not.mpr hform.valid)
        · dsimp only
          rw [hdriver.1]
          exact hform.canonical
        · cases hprofile.symm.trans hnone
        · cases hparse.symm.trans hrequest
          dsimp only
          rw [hmanifest, hdriver.1]
          exact hcanonical
        · rcases h hcount haccepts with hdone | ⟨hdriver', hpersisted⟩
          · rw [hreply.mpr hdone] at hok
            cases hok
          · dsimp only
            rw [hdriver.1]
            refine ⟨hdriver', ?_⟩
            split_ifs with hboth
            · exact (hpersisted hboth).symm
            · rfl

end Commands

/-- **When a manifest command is all or nothing.**  Whatever a manifest command says and whichever
of its calls fail, it has done all or nothing if and only if it is untorn. -/
theorem handleCommand_allOrNothing_iff {b b' : Broker} {outcomes : BrokerOutcomes}
    {command : CommandText} {reply : BrokerReply}
    (hvalid :
      validateDisplayManifest b.driver.displayManifest b.driver.maxPermanentDisplays = .none)
    (h : b.handleCommand outcomes command = some (b', reply)) :
    AllOrNothing command b b' reply ↔ b.Untorn outcomes command := by
  rw [handleCommand] at h
  split_ifs at h with hprofile hpermanent
  · exact manifestProfileSet_allOrNothing_iff hvalid hprofile (Option.some.inj h)
  · exact permanentSet_allOrNothing_iff (Bool.eq_false_of_not_eq_true hprofile)
      (Option.some.inj h)

/-! ## A registry value that the driver does not have -/

/-- The driver has no permanent displays, but the registry says that it should have one. -/
def staleBroker : Broker where
  driver := .new 4 4
  persisted := .manifest (displayManifestFromPermanentSettings { displayCount := 1 } 4)

/-- A command for a profile with everything in order. -/
def deskProfile : CommandText :=
  bytesOf "manifest-profile-set 1 1920 1080 600 340 60000 0 0 0 0 Desk"

/-- The request to set the manifest does not get to the driver. -/
def undelivered : BrokerOutcomes where
  setReply := none

theorem staleBroker_allOrNothing_iff :
    AllOrNothing deskProfile staleBroker (staleBroker.manifestProfileSet undelivered deskProfile).1
        (staleBroker.manifestProfileSet undelivered deskProfile).2 ↔
      staleBroker.Untorn undelivered deskProfile :=
  handleCommand_allOrNothing_iff (by decide)
    (by rw [handleCommand, if_pos (by decide)])

/-- What the registry said is lost, although the command has failed. -/
theorem staleRegistry_overwritten :
    ¬∀ (b b' : Broker) (outcomes : BrokerOutcomes) (command : CommandText) (reply : BrokerReply),
      validateDisplayManifest b.driver.displayManifest b.driver.maxPermanentDisplays = .none →
      b.handleCommand outcomes command = some (b', reply) → AllOrNothing command b b' reply := by
  intro h
  have hfailed := (h staleBroker (staleBroker.manifestProfileSet undelivered deskProfile).1
    undelivered deskProfile (staleBroker.manifestProfileSet undelivered deskProfile).2
    (by decide) (by rw [handleCommand, if_pos (by decide)])).failed
      (by decide)
  exact absurd hfailed.2 (by decide)

end Broker

end VirtualDisplay
