import VirtualDisplay.Edid.Basic
import VirtualDisplay.Lib.Run
import VirtualDisplay.WindowsDriver.Modes

/-!
# Registered modes

The driver keeps the mode of every live monitor under the EDID of the monitor, with the number of
monitors that registered it (`WindowsDriverRegisteredModeStore` of `windows_driver_modes.cpp`).
Monitors of one EDID share an entry, so a second mode for a live EDID is refused.

`references` reads the number of an EDID, zero where there is no entry.  Each of the two calls has
one lemma that says what it does to these numbers: `registerMode_accepted` and
`unregisterMode_counts`.  They hold of stores whose entries all count something (`Counted`), which
a store is and stays as long as the thirty-two bits of its counters suffice.

## What is here

* `registerMode_of_free`, `registerMode_refused` — when a registration is accepted, and that one
  that is not leaves the store alone.
* `ModeLog` — the store together with the number of accepted registrations and of unregistrations of
  each EDID so far, which the program does not keep.
* `Balanced`, `Balanced.step`, `Balanced.run` — the counters are the difference of the two, in every
  run whose differences fit into a counter (`Fits`).
* `every_fits` — runs that are shorter than a counter can count always do.
* `Balanced.keeps` — while an EDID is live its mode does not change.

How the driver calls the store is in `WindowsDriver/Monitors.lean`.
-/

set_option autoImplicit false

namespace VirtualDisplay

/-! ## The store -/

/-- The bytes under which a mode is registered. -/
abbrev EdidBytes : Type := Vector UInt8 kEdidSize

/-- The mode that a monitor prefers, and whether it offers others. -/
structure WindowsDriverMonitorMode where
  preferred : WindowsDriverModeShape := {}
  requestedResolutionOnly : Bool := false
  deriving DecidableEq, Repr

/-- The `Entry` of the store. -/
structure RegisteredMode where
  mode : WindowsDriverMonitorMode := {}
  references : UInt32 := 0
  deriving DecidableEq, Repr

/-- The entries, by EDID. -/
abbrev RegisteredModeStore : Type := EdidBytes → Option RegisteredMode

/-- A registration: the mode of an EDID must be a mode, must be the one that is registered, and is
counted once more. -/
def registerMode (entries : RegisteredModeStore) (edid : EdidBytes) (mode : WindowsDriverModeShape)
    (requestedResolutionOnly : Bool) : RegisteredModeStore × Bool :=
  if mode.width = 0 ∨ mode.height = 0 ∨ mode.refreshRateMillihz = 0 then (entries, false)
  else
    let entry := (entries edid).getD {}
    if entry.references ≠ 0 ∧ (entry.mode.preferred ≠ mode ∨
        entry.mode.requestedResolutionOnly ≠ requestedResolutionOnly) then
      (Function.update entries edid (some entry), false)
    else
      (Function.update entries edid
        (some ⟨⟨mode, requestedResolutionOnly⟩, entry.references + 1⟩), true)

/-- A registration is taken back, and with the last one the mode. -/
def unregisterMode (entries : RegisteredModeStore) (edid : EdidBytes) : RegisteredModeStore :=
  match entries edid with
  | none => entries
  | some entry =>
    if entry.references ≤ 1 then Function.update entries edid none
    else Function.update entries edid (some { entry with references := entry.references - 1 })

/-! ## Counters -/

/-- The counter of an EDID; an EDID without an entry has none to count. -/
def references (entries : RegisteredModeStore) (edid : EdidBytes) : Nat :=
  ((entries edid).map (·.references.toNat)).getD 0

/-- Every entry counts something. -/
def Counted (entries : RegisteredModeStore) : Prop :=
  ∀ edid entry, entries edid = some entry → entry.references ≠ 0

section Counters

variable {entries : RegisteredModeStore} {edid : EdidBytes} {mode : WindowsDriverModeShape}
  {requestedResolutionOnly : Bool}

theorem Counted.empty : Counted fun _ ↦ none := fun _ _ h ↦ nomatch h

theorem references_of_none (h : entries edid = none) : references entries edid = 0 := by
  rw [references, h]
  rfl

theorem references_of_some {entry : RegisteredMode} (h : entries edid = some entry) :
    references entries edid = entry.references.toNat := by
  rw [references, h]
  rfl

/-- An EDID has an entry exactly when it counts something. -/
theorem Counted.isSome_iff (h : Counted entries) :
    (entries edid).isSome ↔ 0 < references entries edid := by
  cases hentry : entries edid with
  | none => simp [references_of_none hentry]
  | some entry =>
    rw [references_of_some hentry]
    have hne := h edid entry hentry
    have hpos : entry.references.toNat ≠ 0 := fun heq ↦ hne (UInt32.toNat_inj.mp heq)
    simp only [Option.isSome_some, true_iff]
    omega

/-- What a registration can do: leave the store as it is, or count one more for a mode that is new
or the one registered already. -/
theorem registerMode_cases (entries : RegisteredModeStore) (edid : EdidBytes)
    (mode : WindowsDriverModeShape) (requestedResolutionOnly : Bool) :
    registerMode entries edid mode requestedResolutionOnly = (entries, false) ∨
      registerMode entries edid mode requestedResolutionOnly =
          (Function.update entries edid (some ⟨⟨mode, requestedResolutionOnly⟩,
            ((entries edid).getD {}).references + 1⟩), true) ∧
        (((entries edid).getD {}).references = 0 ∨
          ((entries edid).getD {}).mode = ⟨mode, requestedResolutionOnly⟩) := by
  rw [registerMode]
  by_cases hinvalid : mode.width = 0 ∨ mode.height = 0 ∨ mode.refreshRateMillihz = 0
  · exact .inl (if_pos hinvalid)
  rw [if_neg hinvalid]
  dsimp only
  split_ifs with hother
  · -- an entry that is refused is there, so writing it back changes nothing
    left
    cases hentry : entries edid with
    | none =>
      rw [hentry] at hother
      exact absurd rfl hother.1
    | some entry =>
      rw [Option.getD_some, ← hentry, Function.update_eq_self]
  · right
    refine ⟨rfl, ?_⟩
    rw [not_and_or, not_not, not_or, not_not, not_not] at hother
    obtain hzero | ⟨hmode, honly⟩ := hother
    · exact .inl hzero
    · exact .inr (by rw [← hmode, ← honly])

/-- A mode is registered where the counter reads zero or the mode is there already. -/
theorem registerMode_of_free (hvalid : ¬(mode.width = 0 ∨ mode.height = 0 ∨
      mode.refreshRateMillihz = 0))
    (hfree : ((entries edid).getD {}).references = 0 ∨
      ((entries edid).getD {}).mode = ⟨mode, requestedResolutionOnly⟩) :
    (registerMode entries edid mode requestedResolutionOnly).1 edid =
      some ⟨⟨mode, requestedResolutionOnly⟩, ((entries edid).getD {}).references + 1⟩ := by
  have haccepted : ¬(((entries edid).getD {}).references ≠ 0 ∧
      (((entries edid).getD {}).mode.preferred ≠ mode ∨
        ((entries edid).getD {}).mode.requestedResolutionOnly ≠ requestedResolutionOnly)) := by
    rintro ⟨hne, hother⟩
    obtain hzero | hsame := hfree
    · exact hne hzero
    · rw [hsame] at hother
      exact hother.elim (fun h ↦ h rfl) fun h ↦ h rfl
  rw [registerMode, if_neg hvalid]
  dsimp only
  rw [if_neg haccepted]
  exact Function.update_self _ _ _

theorem registerMode_other (entries : RegisteredModeStore) {edid other : EdidBytes}
    (hne : edid ≠ other) (mode : WindowsDriverModeShape) (requestedResolutionOnly : Bool) :
    (registerMode entries edid mode requestedResolutionOnly).1 other = entries other := by
  obtain heq | ⟨heq, -⟩ := registerMode_cases entries edid mode requestedResolutionOnly
  · rw [heq]
  · rw [heq]
    exact Function.update_of_ne hne.symm _ _

/-- A refused registration leaves the store as it was. -/
theorem registerMode_refused
    (h : (registerMode entries edid mode requestedResolutionOnly).2 = false) :
    (registerMode entries edid mode requestedResolutionOnly).1 = entries := by
  obtain heq | ⟨heq, -⟩ := registerMode_cases entries edid mode requestedResolutionOnly
  · rw [heq]
  · rw [heq] at h
    exact nomatch h

/-- Writing an entry that counts something, or none. -/
theorem Counted.update (hcounted : Counted entries) {updated : Option RegisteredMode}
    (hentry : ∀ entry, updated = some entry → entry.references ≠ 0) :
    Counted (Function.update entries edid updated) := by
  intro other entry hother
  by_cases heq : other = edid
  · subst heq
    rw [Function.update_self] at hother
    exact hentry entry hother
  · rw [Function.update_of_ne heq] at hother
    exact hcounted other entry hother

theorem ne_zero_of_toNat {references : UInt32} (h : 0 < references.toNat) : references ≠ 0 := by
  rintro rfl
  exact absurd h (by decide)

/-- An accepted registration counts one more. -/
theorem registerMode_accepted (hcounted : Counted entries)
    (h : (registerMode entries edid mode requestedResolutionOnly).2 = true)
    (hroom : references entries edid + 1 < 2 ^ 32) :
    Counted (registerMode entries edid mode requestedResolutionOnly).1 ∧
      references (registerMode entries edid mode requestedResolutionOnly).1 edid =
        references entries edid + 1 := by
  obtain heq | ⟨heq, -⟩ := registerMode_cases entries edid mode requestedResolutionOnly
  · rw [heq] at h
    exact nomatch h
  have hcount : (((entries edid).getD {}).references + 1).toNat = references entries edid + 1 := by
    have hreferences : ((entries edid).getD {}).references.toNat = references entries edid := by
      rw [references]
      cases entries edid <;> rfl
    rw [UInt32.toNat_add, hreferences]
    exact Nat.mod_eq_of_lt hroom
  rw [heq, references_of_some (Function.update_self _ _ _)]
  refine ⟨hcounted.update ?_, hcount⟩
  rintro _ ⟨⟩
  exact ne_zero_of_toNat (by rw [hcount]; omega)

theorem unregisterMode_eq (entries : RegisteredModeStore) (edid : EdidBytes) :
    unregisterMode entries edid = Function.update entries edid ((entries edid).bind fun entry ↦
      if entry.references ≤ 1 then none
      else some { entry with references := entry.references - 1 }) := by
  rw [unregisterMode]
  cases hentry : entries edid with
  | none =>
    have habsent : Function.update entries edid none = entries := by
      rw [← hentry, Function.update_eq_self]
    rw [Option.bind_none, habsent]
  | some entry =>
    rw [Option.bind_some]
    dsimp only
    split_ifs <;> rfl

theorem unregisterMode_other (entries : RegisteredModeStore) {edid other : EdidBytes}
    (hne : edid ≠ other) : unregisterMode entries edid other = entries other := by
  rw [unregisterMode_eq]
  exact Function.update_of_ne hne.symm _ _

/-- An unregistration counts one less, or nothing where there is no entry. -/
theorem unregisterMode_counts (hcounted : Counted entries) (edid : EdidBytes) :
    Counted (unregisterMode entries edid) ∧
      references (unregisterMode entries edid) edid = references entries edid - 1 := by
  rw [unregisterMode_eq]
  cases hentry : entries edid with
  | none =>
    rw [references_of_none hentry, Option.bind_none,
      references_of_none (Function.update_self _ _ _)]
    exact ⟨hcounted.update nofun, rfl⟩
  | some entry =>
    rw [references_of_some hentry, Option.bind_some]
    have hone : (1 : UInt32).toNat = 1 := rfl
    split_ifs with hlast
    · have hlast' := UInt32.le_iff_toNat_le.mp hlast
      rw [references_of_none (Function.update_self _ _ _)]
      exact ⟨hcounted.update nofun, by omega⟩
    · have hmore := UInt32.le_iff_toNat_le.not.mp hlast
      have hsub : (entry.references - 1).toNat = entry.references.toNat - 1 := by
        rw [UInt32.toNat_sub_of_le _ _ (UInt32.le_iff_toNat_le.mpr (by omega)), hone]
      rw [references_of_some (Function.update_self _ _ _)]
      refine ⟨hcounted.update ?_, hsub⟩
      rintro _ ⟨⟩
      exact ne_zero_of_toNat (by rw [hsub]; omega)

/-- The mode of a live EDID is kept by every registration. -/
theorem registerMode_keeps (hcounted : Counted entries) {other : EdidBytes}
    {entry entry' : RegisteredMode} (hentry : entries other = some entry)
    (hentry' : (registerMode entries edid mode requestedResolutionOnly).1 other = some entry') :
    entry'.mode = entry.mode := by
  obtain heq | ⟨heq, hsame⟩ := registerMode_cases entries edid mode requestedResolutionOnly
  all_goals rw [heq] at hentry'; dsimp only at hentry'
  · rw [hentry, Option.some.injEq] at hentry'
    rw [hentry']
  · by_cases hne : other = edid
    · subst hne
      rw [Function.update_self, Option.some.injEq] at hentry'
      rw [hentry, Option.getD_some] at hsame
      obtain hzero | hmode := hsame
      · exact absurd hzero (hcounted other entry hentry)
      · rw [← hentry', hmode]
    · rw [Function.update_of_ne hne, hentry, Option.some.injEq] at hentry'
      rw [hentry']

theorem unregisterMode_keeps {other : EdidBytes} {entry entry' : RegisteredMode}
    (hentry : entries other = some entry)
    (hentry' : unregisterMode entries edid other = some entry') : entry'.mode = entry.mode := by
  rw [unregisterMode_eq] at hentry'
  by_cases hne : other = edid
  · subst hne
    rw [Function.update_self, hentry, Option.bind_some] at hentry'
    split_ifs at hentry'
    rw [← Option.some.inj hentry']
  · rw [Function.update_of_ne hne, hentry, Option.some.injEq] at hentry'
    rw [hentry']

end Counters

/-! ## Sequences of calls -/

/-- A call of the store. -/
inductive ModeCall where
  | register (edid : EdidBytes) (mode : WindowsDriverModeShape) (requestedResolutionOnly : Bool)
  | unregister (edid : EdidBytes)

/-- The EDID it is about. -/
def ModeCall.edid : ModeCall → EdidBytes
  | .register edid _ _ => edid
  | .unregister edid => edid

/-- A store with the calls that it has seen: the registrations it accepted, and the
unregistrations that found an entry. -/
structure ModeLog where
  entries : RegisteredModeStore := fun _ ↦ none
  registrations : EdidBytes → Nat := fun _ ↦ 0
  unregistrations : EdidBytes → Nat := fun _ ↦ 0

namespace ModeLog

/-- One call. -/
def step (log : ModeLog) : ModeCall → ModeLog
  | .register edid mode requestedResolutionOnly =>
    let (entries, accepted) := registerMode log.entries edid mode requestedResolutionOnly
    { log with
      entries
      registrations :=
        if accepted then Function.update log.registrations edid (log.registrations edid + 1)
        else log.registrations }
  | .unregister edid =>
    { log with
      entries := unregisterMode log.entries edid
      unregistrations :=
        if (log.entries edid).isSome then
          Function.update log.unregistrations edid (log.unregistrations edid + 1)
        else log.unregistrations }

/-- The call leaves every counter within its thirty-two bits. -/
def Fits (log : ModeLog) (call : ModeCall) : Prop :=
  ∀ edid, (log.step call).registrations edid - (log.step call).unregistrations edid < 2 ^ 32

/-- The counters are the registrations that have not been taken back. -/
structure Balanced (log : ModeLog) : Prop where
  counted : Counted log.entries
  le : ∀ edid, log.unregistrations edid ≤ log.registrations edid
  references : ∀ edid, references log.entries edid =
    log.registrations edid - log.unregistrations edid

theorem Balanced.start : Balanced {} :=
  ⟨Counted.empty, fun _ ↦ Nat.le_refl 0, fun _ ↦ rfl⟩

theorem step_other (log : ModeLog) {call : ModeCall} {edid : EdidBytes} (hne : call.edid ≠ edid) :
    (log.step call).entries edid = log.entries edid ∧
      (log.step call).registrations edid = log.registrations edid ∧
      (log.step call).unregistrations edid = log.unregistrations edid := by
  cases call with
  | register called mode requestedResolutionOnly =>
    refine ⟨registerMode_other log.entries hne mode requestedResolutionOnly, ?_, rfl⟩
    rw [step]
    dsimp only
    split_ifs
    · exact Function.update_of_ne hne.symm _ _
    · rfl
  | unregister called =>
    refine ⟨unregisterMode_other log.entries hne, rfl, ?_⟩
    rw [step]
    dsimp only
    split_ifs
    · exact Function.update_of_ne hne.symm _ _
    · rfl

/-- **One call keeps the balance.** -/
theorem Balanced.step {log : ModeLog} (h : Balanced log) {call : ModeCall} (hfits : log.Fits call) :
    Balanced (log.step call) := by
  have hother : ∀ edid, call.edid ≠ edid →
      (log.step call).unregistrations edid ≤ (log.step call).registrations edid ∧
        VirtualDisplay.references (log.step call).entries edid =
          (log.step call).registrations edid - (log.step call).unregistrations edid := by
    intro edid hne
    obtain ⟨hentries, hregistrations, hunregistrations⟩ := log.step_other hne
    rw [VirtualDisplay.references, hentries, hregistrations, hunregistrations]
    exact ⟨h.le edid, h.references edid⟩
  suffices hcalled : Counted (log.step call).entries ∧
      (log.step call).unregistrations call.edid ≤ (log.step call).registrations call.edid ∧
        VirtualDisplay.references (log.step call).entries call.edid =
          (log.step call).registrations call.edid - (log.step call).unregistrations call.edid by
    refine ⟨hcalled.1, fun edid ↦ ?_, fun edid ↦ ?_⟩
    · by_cases hne : call.edid = edid
      · exact hne ▸ hcalled.2.1
      · exact (hother edid hne).1
    · by_cases hne : call.edid = edid
      · exact hne ▸ hcalled.2.2
      · exact (hother edid hne).2
  cases call with
  | register edid mode requestedResolutionOnly =>
    have hle := h.le edid
    have hreferences := h.references edid
    have hroom := hfits edid
    rw [ModeLog.step] at hroom ⊢
    dsimp only [ModeCall.edid] at hroom ⊢
    cases haccepted : (registerMode log.entries edid mode requestedResolutionOnly).2 with
    | false =>
      rw [registerMode_refused haccepted, if_neg Bool.false_ne_true]
      exact ⟨h.counted, hle, hreferences⟩
    | true =>
      rw [haccepted, if_pos rfl, Function.update_self] at hroom
      obtain ⟨hcounted, hcount⟩ := registerMode_accepted h.counted haccepted (by omega)
      rw [if_pos rfl, Function.update_self]
      exact ⟨hcounted, by omega, by omega⟩
  | unregister edid =>
    have hle := h.le edid
    have hreferences := h.references edid
    obtain ⟨hcounted, hcount⟩ := unregisterMode_counts h.counted edid
    have hpresent : (log.entries edid).isSome ↔ 0 < VirtualDisplay.references log.entries edid :=
      h.counted.isSome_iff
    rw [ModeLog.step]
    dsimp only [ModeCall.edid]
    split_ifs with hsome
    · have hpos := hpresent.mp hsome
      rw [Function.update_self]
      exact ⟨hcounted, by omega, by omega⟩
    · have hzero := hpresent.not.mp hsome
      exact ⟨hcounted, hle, by omega⟩

/-- **A run of calls keeps the balance**, as long as the counters suffice. -/
theorem Balanced.run {log : ModeLog} (h : Balanced log) {calls : List ModeCall}
    (hfits : Run.Every ModeLog.step Fits log calls) : Balanced (calls.foldl ModeLog.step log) := by
  induction calls generalizing log with
  | nil => exact h
  | cons call calls ih => exact ih (h.step hfits.1) hfits.2

theorem registrations_step_le (log : ModeLog) (call : ModeCall) (edid : EdidBytes) :
    (log.step call).registrations edid ≤ log.registrations edid + 1 := by
  by_cases hne : call.edid = edid
  · subst hne
    cases call with
    | register called mode requestedResolutionOnly =>
      rw [step]
      dsimp only [ModeCall.edid]
      split_ifs
      · rw [Function.update_self]
      · exact Nat.le_succ _
    | unregister called => exact Nat.le_succ _
  · rw [(log.step_other hne).2.1]
    exact Nat.le_succ _

theorem registrations_le (calls : List ModeCall) (edid : EdidBytes) :
    (calls.foldl step {}).registrations edid ≤ calls.length := by
  induction calls using List.reverseRecOn with
  | nil => exact Nat.le_refl 0
  | append_singleton calls call ih =>
    have hstep := registrations_step_le (calls.foldl step {}) call edid
    rw [List.foldl_append, List.foldl_cons, List.foldl_nil, List.length_append,
      List.length_singleton]
    omega

/-- No run of fewer calls than a counter can count is too long for one. -/
theorem every_fits {calls : List ModeCall} (h : calls.length < 2 ^ 32) :
    Run.Every step Fits {} calls := by
  induction calls using List.reverseRecOn with
  | nil => trivial
  | append_singleton calls call ih =>
    rw [List.length_append, List.length_singleton] at h
    refine Run.every_concat.mpr ⟨ih (by omega), fun edid ↦ ?_⟩
    have hbefore := registrations_le calls edid
    have hstep := registrations_step_le (calls.foldl step {}) call edid
    omega

/-- A call changes no mode of an EDID that is live before and after it. -/
theorem Balanced.keeps {log : ModeLog} (h : Balanced log) (call : ModeCall) {edid : EdidBytes}
    {entry entry' : RegisteredMode} (hentry : log.entries edid = some entry)
    (hentry' : (log.step call).entries edid = some entry') : entry'.mode = entry.mode := by
  cases call with
  | register => exact registerMode_keeps h.counted hentry hentry'
  | unregister => exact unregisterMode_keeps hentry hentry'

/-- Registrations of one mode count up to the thirty-two bits of the counter. -/
theorem replicate_register (edid : EdidBytes) {mode : WindowsDriverModeShape}
    (hvalid : ¬(mode.width = 0 ∨ mode.height = 0 ∨ mode.refreshRateMillihz = 0))
    (requestedResolutionOnly : Bool) (count : Nat) :
    ((List.replicate (count + 1) (ModeCall.register edid mode requestedResolutionOnly)).foldl
        ModeLog.step {}).entries edid =
      some ⟨⟨mode, requestedResolutionOnly⟩, UInt32.ofNat (count + 1)⟩ := by
  induction count with
  | zero =>
    show (registerMode (fun _ ↦ none) edid mode requestedResolutionOnly).1 edid = _
    rw [registerMode_of_free hvalid (.inl rfl)]
    rfl
  | succ count ih =>
    rw [List.replicate_succ', List.foldl_append, List.foldl_cons, List.foldl_nil]
    show (registerMode _ edid mode requestedResolutionOnly).1 edid = _
    have hsame : ((((List.replicate (count + 1) (ModeCall.register edid mode
        requestedResolutionOnly)).foldl ModeLog.step {}).entries edid).getD {}) =
          ⟨⟨mode, requestedResolutionOnly⟩, UInt32.ofNat (count + 1)⟩ := by
      rw [ih, Option.getD_some]
    rw [registerMode_of_free hvalid (.inr (by rw [hsame])), hsame, UInt32.ofNat_add (count + 1) 1]
    rfl

end ModeLog

end VirtualDisplay
