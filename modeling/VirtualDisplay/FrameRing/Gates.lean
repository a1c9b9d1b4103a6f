import VirtualDisplay.FrameRing.Lifetime

/-!
# The publication gates

A ring may be published to as long as its gate is enabled, and whoever holds a snapshot only looks
at the gate.  So the gate has to say what the table of rings says: `frameGates` is that it does,
through any sequence of operations on the rings and on the store.

Whatever an operation does to the rings, it retires entries one at a time and then registers at most
one ring, for a display that has none at that moment; `RetiresRings` and `registerRing_cases` bring
all of them into this form.

## What is here

* `RetiresRings` — rings are retired, in any number, and each gate with its ring.
* `Tight` — the gate of a ring is enabled exactly as long as the ring is in the table.
* `apply_cases` — every call is of one of two forms, whatever the store says about its display.
* `disabled_apply` — a gate that is disabled once stays so: no call enables an old gate.
* `registrations`, `Issued` — the rings a run has registered, and that their generations differ as
  long as the counter has not come round.
* `frameGates` — the main result, for a run that may be cut at any point.
-/

set_option autoImplicit false

namespace VirtualDisplay

open Std

namespace FrameRingLifetime

variable {Resources : Type} {l l' : FrameRingLifetime Resources}

/-! ## Retiring one entry -/

theorem getElem?_rings_retireEntry (l : FrameRingLifetime Resources) (displayId d : UInt64)
    (entry : FrameRingEntry Resources) :
    (l.retireEntry displayId entry).rings[d]? = if displayId = d then none else l.rings[d]? :=
  OrdMap.getElem?_erase ..

theorem gateEnabled_retirePublication (l : FrameRingLifetime Resources)
    (snapshot : FrameRingSnapshot Resources) (g : PublicationRef) :
    (l.retirePublication snapshot).gateEnabled g =
      (l.gateEnabled g && snapshot.publication != some g) := by
  rw [retirePublication]
  cases hpublication : snapshot.publication with
  | none => simp [gateEnabled]
  | some publication =>
    by_cases hg : publication = g
    · subst hg
      cases hp : l.publications[publication]? <;>
        simp [gateEnabled, hp, FrameRingPublication.disable]
    · simp [gateEnabled, List.getElem?_modify_ne, hg]

theorem gateEnabled_retireEntry (l : FrameRingLifetime Resources) (displayId : UInt64)
    (entry : FrameRingEntry Resources) (g : PublicationRef) :
    (l.retireEntry displayId entry).gateEnabled g =
      (l.gateEnabled g && entry.snapshot.publication != some g) :=
  l.gateEnabled_retirePublication entry.snapshot g

@[simp] theorem length_publications_retirePublication (l : FrameRingLifetime Resources)
    (snapshot : FrameRingSnapshot Resources) :
    (l.retirePublication snapshot).publications.length = l.publications.length := by
  rw [retirePublication]
  cases snapshot.publication <;> simp

@[simp] theorem rings_retirePublication (l : FrameRingLifetime Resources)
    (snapshot : FrameRingSnapshot Resources) :
    (l.retirePublication snapshot).rings = l.rings := by
  rw [retirePublication]
  cases snapshot.publication <;> rfl

@[simp] theorem nextRingGeneration_retirePublication (l : FrameRingLifetime Resources)
    (snapshot : FrameRingSnapshot Resources) :
    (l.retirePublication snapshot).nextRingGeneration = l.nextRingGeneration := by
  rw [retirePublication]
  cases snapshot.publication <;> rfl

/-- One registered ring is retired. -/
inductive Retire (l : FrameRingLifetime Resources) : FrameRingLifetime Resources → Prop where
  | entry {displayId : UInt64} {entry : FrameRingEntry Resources}
      (present : l.rings[displayId]? = some entry) : Retire l (l.retireEntry displayId entry)

/-- Some registered rings are retired. -/
abbrev RetiresRings : FrameRingLifetime Resources → FrameRingLifetime Resources → Prop :=
  Relation.ReflTransGen Retire

/-- What is registered afterwards was registered before. -/
theorem RetiresRings.registered (h : RetiresRings l l') {d : UInt64}
    {entry : FrameRingEntry Resources}
    (hentry : l'.rings[d]? = some entry) : l.rings[d]? = some entry := by
  induction h with
  | refl => exact hentry
  | tail _ hstep ih =>
    cases hstep
    rw [getElem?_rings_retireEntry] at hentry
    split_ifs at hentry
    exact ih hentry

theorem RetiresRings.nextRingGeneration (h : RetiresRings l l') :
    l'.nextRingGeneration = l.nextRingGeneration := by
  induction h with
  | refl => rfl
  | tail _ hstep ih =>
    cases hstep
    rw [retireEntry]
    exact (nextRingGeneration_retirePublication ..).trans ih

theorem RetiresRings.length (h : RetiresRings l l') :
    l'.publications.length = l.publications.length := by
  induction h with
  | refl => rfl
  | tail _ hstep ih =>
    cases hstep
    rw [retireEntry]
    exact (length_publications_retirePublication ..).trans ih

theorem RetiresRings.disabled (h : RetiresRings l l') {g : PublicationRef}
    (hg : l.gateEnabled g = false) : l'.gateEnabled g = false := by
  induction h with
  | refl => exact hg
  | tail _ hstep ih =>
    cases hstep
    rw [gateEnabled_retireEntry, ih, Bool.false_and]

/-! ## The operations as retirements -/

/-- A ring is only retired by its display generation and its own. -/
theorem retireRing_cases (l : FrameRingLifetime Resources)
    (displayId displayGeneration ringGeneration : UInt64) :
    (l.retireRing displayId displayGeneration ringGeneration).1 = l ∨
    ∃ entry, l.rings[displayId]? = some entry ∧
      entry.snapshot.displayGeneration = displayGeneration ∧
      entry.snapshot.ringGeneration = ringGeneration ∧
      (l.retireRing displayId displayGeneration ringGeneration).1 =
        l.retireEntry displayId entry := by
  rw [retireRing]
  cases hentry : l.rings[displayId]? with
  | none => exact .inl rfl
  | some entry =>
    dsimp only
    split_ifs with hother
    · exact .inl rfl
    · rw [not_or, not_not, not_not] at hother
      exact .inr ⟨entry, rfl, hother.1, hother.2, rfl⟩

theorem retireDisplay_cases (l : FrameRingLifetime Resources)
    (displayId displayGeneration : UInt64) :
    (l.retireDisplay displayId displayGeneration).1 = l ∨
    ∃ entry, l.rings[displayId]? = some entry ∧
      entry.snapshot.displayGeneration = displayGeneration ∧
      (l.retireDisplay displayId displayGeneration).1 = l.retireEntry displayId entry := by
  rw [retireDisplay]
  cases hentry : l.rings[displayId]? with
  | none => exact .inl rfl
  | some entry =>
    dsimp only
    split_ifs with hother
    · exact .inl rfl
    · exact .inr ⟨entry, rfl, not_not.mp hother, rfl⟩

theorem clearRing_cases (l : FrameRingLifetime Resources) (store : DisplayStore)
    (owner : FrameRingOwner) (ringGeneration : UInt64) (now : TimePoint) :
    (l.clearRing store owner ringGeneration now).1 = l ∨
    ∃ entry, l.rings[owner.display.displayId]? = some entry ∧
      entry.snapshot.displayGeneration = owner.displayGeneration ∧
      entry.snapshot.ringGeneration = ringGeneration ∧
      (l.clearRing store owner ringGeneration now).1 =
        l.retireEntry owner.display.displayId entry := by
  rw [clearRing]
  split_ifs
  · exact l.retireRing_cases ..
  · exact .inl rfl

theorem snapshot_cases (l : FrameRingLifetime Resources) (store : DisplayStore)
    (displayId displayGeneration : UInt64) (now : TimePoint) :
    (l.snapshot store displayId displayGeneration now).1 = l ∨
    ∃ entry, l.rings[displayId]? = some entry ∧
      entry.owner.displayGeneration = displayGeneration ∧
      authorized store entry.owner now = false ∧
      (l.snapshot store displayId displayGeneration now).1 = l.retireEntry displayId entry := by
  rw [snapshot]
  cases hentry : l.rings[displayId]? with
  | none => exact .inl rfl
  | some entry =>
    dsimp only
    split_ifs with hother hunauthorized
    · exact .inl rfl
    · exact .inr ⟨entry, rfl, not_not.mp hother, by simpa using hunauthorized, rfl⟩
    · exact .inl rfl

theorem retireUnavailable_retires (l : FrameRingLifetime Resources) (store : DisplayStore)
    (now : TimePoint) : RetiresRings l (l.retireUnavailable store now).1 := by
  refine OrdMap.foldl_toList (fun (l : FrameRingLifetime Resources) d entry hentry ↦ ?_) l
  rw [retireIfUnavailable]
  split_ifs
  · exact ⟨.refl, fun _ _ ↦ rfl⟩
  · refine ⟨.single (.entry hentry), fun d' hd' ↦ ?_⟩
    rw [getElem?_rings_retireEntry, if_neg hd']

theorem retirePublication_rings (l : FrameRingLifetime Resources)
    (rings : OrdMap UInt64 (FrameRingEntry Resources)) (snapshot : FrameRingSnapshot Resources) :
    { l with rings }.retirePublication snapshot =
      { l.retirePublication snapshot with rings } := by
  rw [retirePublication, retirePublication]
  cases snapshot.publication <;> rfl

theorem foldl_retireEntry (entries : List (UInt64 × FrameRingEntry Resources))
    (l : FrameRingLifetime Resources) (rings : OrdMap UInt64 (FrameRingEntry Resources)) :
    entries.foldl (fun l entry ↦ l.retireEntry entry.1 entry.2) { l with rings } =
      { entries.foldl (fun l entry ↦ l.retirePublication entry.2.snapshot) l with
        rings := entries.foldl (fun rings entry ↦ rings.erase entry.1) rings } := by
  induction entries generalizing l rings with
  | nil => rfl
  | cons entry entries ih =>
    rw [List.foldl_cons, List.foldl_cons, List.foldl_cons, retireEntry, retirePublication_rings]
    exact ih (l.retirePublication entry.2.snapshot) (rings.erase entry.1)

theorem reset_retires (l : FrameRingLifetime Resources) : RetiresRings l l.reset := by
  have hclear : l.rings.toList.foldl (fun rings entry ↦ rings.erase entry.1) l.rings = ∅ := by
    refine ExtTreeMap.ext_getElem? fun d ↦ ?_
    have h : (OrdMap.eraseIf l.rings fun _ _ ↦ true)[d]? = none := by
      rw [OrdMap.getElem?_eraseIf]
      cases l.rings[d]? <;> rfl
    simpa [OrdMap.eraseIf] using h
  have hreset : l.rings.toList.foldl (fun l entry ↦ l.retireEntry entry.1 entry.2) l = l.reset := by
    rw [reset, ← hclear]
    exact foldl_retireEntry l.rings.toList l l.rings
  rw [← hreset]
  refine OrdMap.foldl_toList (fun (l : FrameRingLifetime Resources) d entry hentry ↦ ?_) l
  refine ⟨.single (.entry hentry), fun d' hd' ↦ ?_⟩
  rw [getElem?_rings_retireEntry, if_neg hd']

/-! ## Registering a ring -/

theorem replaceRing_retireEntry (l : FrameRingLifetime Resources) (owner : FrameRingOwner)
    (resources : Option Resources) {previous : FrameRingEntry Resources}
    (hprevious : l.rings[owner.display.displayId]? = some previous) :
    (l.retireEntry owner.display.displayId previous).replaceRing owner resources =
      l.replaceRing owner resources := by
  have herased : (l.retireEntry owner.display.displayId
      previous).rings[owner.display.displayId]? = none := by
    rw [getElem?_rings_retireEntry, if_pos rfl]
  have hinsert (m : OrdMap UInt64 (FrameRingEntry Resources)) (d : UInt64)
      (e : FrameRingEntry Resources) : (m.erase d).insert d e = m.insert d e := by
    refine ExtTreeMap.ext_getElem? fun d' ↦ ?_
    rw [OrdMap.getElem?_insert, OrdMap.getElem?_insert, OrdMap.getElem?_erase]
    split_ifs <;> rfl
  rw [replaceRing, replaceRing, herased, hprevious]
  simp only [retireEntry, hinsert, rings_retirePublication, nextRingGeneration_retirePublication]

/-- Registering changes nothing, or it retires some rings, after which the display has none, and
adds the new one. -/
theorem registerRing_cases (l : FrameRingLifetime Resources) (store : DisplayStore)
    (owner : FrameRingOwner) (resources : Option Resources) (now : TimePoint) :
    ((l.registerRing store owner resources now).1 = l ∧
      (l.registerRing store owner resources now).2.status ≠ .success) ∨
    (authorized store owner now = true ∧ resources.isSome = true ∧ l.nextRingGeneration ≠ 0 ∧
      ∃ l', RetiresRings l l' ∧ l'.rings[owner.display.displayId]? = none ∧
        l.registerRing store owner resources now = l'.replaceRing owner resources) := by
  rw [registerRing]
  split_ifs with hunauthorized hmissing hexhausted
  · exact .inl ⟨rfl, by simp⟩
  · exact .inl ⟨rfl, by simp⟩
  · exact .inl ⟨rfl, by simp⟩
  · refine .inr ⟨by simpa using hunauthorized, by simpa [Option.isSome_iff_ne_none] using hmissing,
      hexhausted, ?_⟩
    have hretires := l.retireUnavailable_retires store now
    cases hprevious : (l.retireUnavailable store now).1.rings[owner.display.displayId]? with
    | none => exact ⟨_, hretires, hprevious, rfl⟩
    | some previous =>
      refine ⟨_, hretires.tail (.entry hprevious), ?_,
        (replaceRing_retireEntry _ _ _ hprevious).symm⟩
      rw [getElem?_rings_retireEntry, if_pos rfl]

/-! ## Gates and the table of rings -/

/-- Every registered ring has a gate of its own, and the enabled gates are those of the registered
rings. -/
structure Tight (l : FrameRingLifetime Resources) : Prop where
  held : ∀ g, l.gateEnabled g = true ↔
    ∃ (d : UInt64) (entry : FrameRingEntry Resources), l.rings[d]? = some entry ∧
      entry.snapshot.publication = some g
  own : ∀ (d : UInt64) (entry : FrameRingEntry Resources), l.rings[d]? = some entry →
    ∃ g, entry.snapshot.publication = some g
  separate : OrdMap.Separates (fun entry ↦ entry.snapshot.publication) l.rings

theorem Tight.canPublish (h : l.Tight) {d : UInt64} {entry : FrameRingEntry Resources}
    (hentry : l.rings[d]? = some entry) : l.canPublish entry.snapshot = true := by
  rcases h.own d entry hentry with ⟨g, hg⟩
  rw [FrameRingLifetime.canPublish, hg]
  exact (h.held g).mpr ⟨d, entry, hentry, hg⟩

theorem Tight.retire (h : l.Tight) (hretire : Retire l l') : l'.Tight := by
  cases hretire with
  | @entry displayId entry hentry =>
  have hregistered {d : UInt64} {e : FrameRingEntry Resources} :
      (l.retireEntry displayId entry).rings[d]? = some e ↔
        displayId ≠ d ∧ l.rings[d]? = some e := by
    rw [getElem?_rings_retireEntry]
    split_ifs with hd <;> simp [hd]
  refine ⟨fun g ↦ ?_, fun d e he ↦ h.own d e (hregistered.mp he).2,
    h.separate.of_entries fun d e he ↦ ⟨e, (hregistered.mp he).2, rfl⟩⟩
  rw [gateEnabled_retireEntry, Bool.and_eq_true, h.held, bne_iff_ne]
  constructor
  · rintro ⟨⟨d, e, he, hg⟩, hother⟩
    refine ⟨d, e, hregistered.mpr ⟨?_, he⟩, hg⟩
    rintro rfl
    cases hentry.symm.trans he
    exact hother hg
  · rintro ⟨d, e, he, hg⟩
    rcases hregistered.mp he with ⟨hd, he⟩
    exact ⟨⟨d, e, he, hg⟩,
      fun hsame ↦ hd (h.separate displayId d entry e hentry he (hsame.trans hg.symm))⟩

theorem Tight.retires (h : l.Tight) (hretires : RetiresRings l l') : l'.Tight := by
  induction hretires with
  | refl => exact h
  | tail _ hstep ih => exact ih.retire hstep

/-- The entry `replaceRing` writes. -/
def newEntry (l : FrameRingLifetime Resources) (owner : FrameRingOwner)
    (resources : Option Resources) : FrameRingEntry Resources where
  owner
  snapshot :=
    { displayGeneration := owner.displayGeneration
      ringGeneration := l.nextRingGeneration
      resources
      publication := some l.publications.length }

section Replace

variable {owner : FrameRingOwner} (resources : Option Resources)

theorem replaceRing_of_absent (habsent : l.rings[owner.display.displayId]? = none) :
    l.replaceRing owner resources =
      ({ rings := l.rings.insert owner.display.displayId (l.newEntry owner resources)
         nextRingGeneration := l.nextRingGeneration + 1
         publications := l.publications ++ [{}] },
        { status := .success, ringGeneration := l.nextRingGeneration }) := by
  rw [replaceRing, habsent]
  rfl

theorem getElem?_rings_replaceRing (habsent : l.rings[owner.display.displayId]? = none)
    (d : UInt64) :
    (l.replaceRing owner resources).1.rings[d]? =
      if owner.display.displayId = d then some (l.newEntry owner resources) else l.rings[d]? := by
  rw [replaceRing_of_absent resources habsent]
  exact OrdMap.getElem?_insert ..

theorem gateEnabled_replaceRing (habsent : l.rings[owner.display.displayId]? = none)
    (g : PublicationRef) :
    (l.replaceRing owner resources).1.gateEnabled g =
      (l.gateEnabled g || l.publications.length == g) := by
  rw [replaceRing_of_absent resources habsent, gateEnabled, gateEnabled]
  rcases Nat.lt_trichotomy g l.publications.length with hlt | heq | hgt
  · rw [List.getElem?_append_left hlt, beq_eq_false_iff_ne.mpr hlt.ne', Bool.or_false]
  · simp [heq]
  · rw [List.getElem?_eq_none (by simpa using hgt), List.getElem?_eq_none hgt.le,
      beq_eq_false_iff_ne.mpr hgt.ne]
    rfl

end Replace

theorem lt_length_of_gateEnabled {g : PublicationRef} (h : l.gateEnabled g = true) :
    g < l.publications.length := by
  rw [gateEnabled, Option.any_eq_true] at h
  rcases h with ⟨publication, hpublication, -⟩
  exact (List.getElem?_eq_some_iff.mp hpublication).1

theorem Tight.replace (h : l.Tight) {owner : FrameRingOwner} (resources : Option Resources)
    (habsent : l.rings[owner.display.displayId]? = none) :
    (l.replaceRing owner resources).1.Tight := by
  have hfresh : ∀ (d : UInt64) (e : FrameRingEntry Resources), l.rings[d]? = some e →
      e.snapshot.publication ≠ some l.publications.length := fun d e he hg ↦
    absurd (lt_length_of_gateEnabled ((h.held _).mpr ⟨d, e, he, hg⟩)) (Nat.lt_irrefl _)
  refine ⟨fun g ↦ ?_, fun d e he ↦ ?_, ?_⟩
  · rw [gateEnabled_replaceRing resources habsent, Bool.or_eq_true, h.held, beq_iff_eq]
    constructor
    · rintro (⟨d, e, he, hg⟩ | rfl)
      · refine ⟨d, e, ?_, hg⟩
        rw [getElem?_rings_replaceRing resources habsent, if_neg, he]
        rintro rfl
        rw [habsent] at he
        cases he
      · refine ⟨owner.display.displayId, l.newEntry owner resources, ?_, rfl⟩
        rw [getElem?_rings_replaceRing resources habsent, if_pos rfl]
    · rintro ⟨d, e, he, hg⟩
      rw [getElem?_rings_replaceRing resources habsent] at he
      split_ifs at he with hd
      · cases he
        exact .inr (Option.some.inj hg)
      · exact .inl ⟨d, e, he, hg⟩
  · rw [getElem?_rings_replaceRing resources habsent] at he
    split_ifs at he with hd
    · cases he
      exact ⟨_, rfl⟩
    · exact h.own d e he
  · rw [replaceRing_of_absent resources habsent]
    exact h.separate.insert hfresh

end FrameRingLifetime

/-! ## What a call can do -/

namespace FrameRingOp

open FrameRingLifetime

variable {Resources : Type} {l : FrameRingLifetime Resources}

/-- The ring the call registers, with its display. -/
def registered? (store : DisplayStore) (l : FrameRingLifetime Resources) :
    FrameRingOp Resources → Option (UInt64 × FrameRingEntry Resources)
  | registerRing owner resources now =>
    if (l.registerRing store owner resources now).2.status = .success then
      (l.registerRing store owner resources now).1.rings[owner.display.displayId]?.map
        (owner.display.displayId, ·)
    else none
  | _ => none

/-- A call retires rings, or it retires rings and then registers one where there is none. -/
theorem apply_cases (store : DisplayStore) (l : FrameRingLifetime Resources)
    (op : FrameRingOp Resources) :
    (RetiresRings l (op.apply store l) ∧ op.registered? store l = none) ∨
    ∃ (l' : FrameRingLifetime Resources) (owner : FrameRingOwner) (resources : Option Resources),
      RetiresRings l l' ∧ l'.rings[owner.display.displayId]? = none ∧ l'.nextRingGeneration ≠ 0 ∧
      op.apply store l = (l'.replaceRing owner resources).1 ∧
      op.registered? store l = some (owner.display.displayId, l'.newEntry owner resources) := by
  have hentry {d : UInt64} {entry : FrameRingEntry Resources} (hentry : l.rings[d]? = some entry) :
      RetiresRings l (l.retireEntry d entry) := .single (.entry hentry)
  cases op with
  | registerRing owner resources now =>
    rw [apply, registered?]
    rcases l.registerRing_cases store owner resources now with
      ⟨hsame, hstatus⟩ | ⟨-, -, hnext, l', hretires, habsent, h⟩
    · rw [hsame, if_neg hstatus]
      exact .inl ⟨.refl, rfl⟩
    · rw [← hretires.nextRingGeneration] at hnext
      refine .inr ⟨l', owner, resources, hretires, habsent, hnext, congrArg Prod.fst h, ?_⟩
      rw [h, if_pos, getElem?_rings_replaceRing resources habsent, if_pos rfl, Option.map_some]
      rw [replaceRing_of_absent resources habsent]
  | clearRing owner ringGeneration now =>
    refine .inl ⟨?_, rfl⟩
    rw [apply]
    rcases l.clearRing_cases store owner ringGeneration now with h | ⟨entry, he, -, -, h⟩
    · rw [h]
    · exact h ▸ hentry he
  | snapshot displayId displayGeneration now =>
    refine .inl ⟨?_, rfl⟩
    rw [apply]
    rcases l.snapshot_cases store displayId displayGeneration now with h | ⟨entry, he, -, -, h⟩
    · rw [h]
    · exact h ▸ hentry he
  | retireRing displayId displayGeneration ringGeneration =>
    refine .inl ⟨?_, rfl⟩
    rw [apply]
    rcases l.retireRing_cases displayId displayGeneration ringGeneration with
      h | ⟨entry, he, -, -, h⟩
    · rw [h]
    · exact h ▸ hentry he
  | retireDisplay displayId displayGeneration =>
    refine .inl ⟨?_, rfl⟩
    rw [apply]
    rcases l.retireDisplay_cases displayId displayGeneration with h | ⟨entry, he, -, h⟩
    · rw [h]
    · exact h ▸ hentry he
  | retireUnavailable now => exact .inl ⟨l.retireUnavailable_retires store now, rfl⟩
  | reset => exact .inl ⟨l.reset_retires, rfl⟩

/-- A call that retires by name, but names another registration of the display than this one: it
has another display generation, or another ring generation where the call gives one. -/
def namesOther (d : UInt64) (entry : FrameRingEntry Resources) : FrameRingOp Resources → Prop
  | clearRing owner ringGeneration _ =>
    owner.display.displayId = d → owner.displayGeneration ≠ entry.snapshot.displayGeneration ∨
      ringGeneration ≠ entry.snapshot.ringGeneration
  | retireRing displayId displayGeneration ringGeneration =>
    displayId = d → displayGeneration ≠ entry.snapshot.displayGeneration ∨
      ringGeneration ≠ entry.snapshot.ringGeneration
  | retireDisplay displayId displayGeneration =>
    displayId = d → displayGeneration ≠ entry.snapshot.displayGeneration
  | _ => False

/-- Such a call leaves the registration alone. -/
theorem namesOther.stays {store : DisplayStore} {op : FrameRingOp Resources} {d : UInt64}
    {entry : FrameRingEntry Resources} (hop : op.namesOther d entry)
    (hentry : l.rings[d]? = some entry) : (op.apply store l).rings[d]? = some entry := by
  have hother {displayId : UInt64} (hd : displayId ≠ d) (e : FrameRingEntry Resources) :
      (l.retireEntry displayId e).rings[d]? = some entry := by
    rw [getElem?_rings_retireEntry, if_neg hd, hentry]
  cases op with
  | clearRing owner ringGeneration now =>
    rw [apply]
    rcases l.clearRing_cases store owner ringGeneration now with h | ⟨e, he, hdisplay, hring, h⟩
    · rwa [h]
    · rw [h]
      refine hother (fun hd ↦ ?_) e
      cases hentry.symm.trans (hd ▸ he)
      rcases hop hd with hne | hne
      · exact hne hdisplay.symm
      · exact hne hring.symm
  | retireRing displayId displayGeneration ringGeneration =>
    rw [apply]
    rcases l.retireRing_cases displayId displayGeneration ringGeneration with
      h | ⟨e, he, hdisplay, hring, h⟩
    · rwa [h]
    · rw [h]
      refine hother (fun hd ↦ ?_) e
      cases hentry.symm.trans (hd ▸ he)
      rcases hop hd with hne | hne
      · exact hne hdisplay.symm
      · exact hne hring.symm
  | retireDisplay displayId displayGeneration =>
    rw [apply]
    rcases l.retireDisplay_cases displayId displayGeneration with h | ⟨e, he, hdisplay, h⟩
    · rwa [h]
    · rw [h]
      refine hother (fun hd ↦ ?_) e
      cases hentry.symm.trans (hd ▸ he)
      exact hop hd hdisplay.symm
  | registerRing | snapshot | retireUnavailable | reset => exact hop.elim

end FrameRingOp

/-! ## Runs -/

namespace FrameRings

open FrameRingLifetime

variable {Resources : Type} {s : FrameRings Resources}

/-- The ring the event registers, with its display. -/
def registered? (s : FrameRings Resources) :
    FrameRingEvent Resources → Option (UInt64 × FrameRingEntry Resources)
  | .store _ => none
  | .rings op => op.registered? s.store s.lifetime

/-- The rings a run registers, the earliest first, each with its display. -/
def registrations (s : FrameRings Resources) :
    List (FrameRingEvent Resources) → List (UInt64 × FrameRingEntry Resources)
  | [] => []
  | event :: events => (s.registered? event).toList ++ registrations (s.apply event) events

/-- What the table knows of the rings registered so far: each has had its own gate, and their
generations have been counted up. -/
structure Issued (l : FrameRingLifetime Resources)
    (issued : List (UInt64 × FrameRingEntry Resources)) : Prop extends Tight l where
  known : ∀ (d : UInt64) (entry : FrameRingEntry Resources), l.rings[d]? = some entry →
    (d, entry) ∈ issued
  gates : ∀ ring ∈ issued, ∃ g, ring.2.snapshot.publication = some g ∧ g < l.publications.length
  distinct : ∀ ring ∈ issued, ∀ ring' ∈ issued,
    ring.2.snapshot.publication = ring'.2.snapshot.publication → ring = ring'
  below : ∀ ring ∈ issued, ring.2.snapshot.ringGeneration ≠ 0 ∧
    (l.nextRingGeneration = 0 ∨ ring.2.snapshot.ringGeneration < l.nextRingGeneration)
  increasing : issued.Pairwise fun ring ring' ↦
    ring.2.snapshot.ringGeneration < ring'.2.snapshot.ringGeneration

section Issued

variable {l l' : FrameRingLifetime Resources} {issued : List (UInt64 × FrameRingEntry Resources)}

theorem Issued.retires (h : Issued l issued) (hretires : RetiresRings l l') : Issued l' issued where
  toTight := h.toTight.retires hretires
  known d entry hentry := h.known d entry (hretires.registered hentry)
  gates ring hring := by
    rw [hretires.length]
    exact h.gates ring hring
  distinct := h.distinct
  below ring hring := by
    rw [hretires.nextRingGeneration]
    exact h.below ring hring
  increasing := h.increasing

theorem Issued.replace (h : Issued l issued) {owner : FrameRingOwner}
    (resources : Option Resources) (habsent : l.rings[owner.display.displayId]? = none)
    (hnext : l.nextRingGeneration ≠ 0) :
    Issued (l.replaceRing owner resources).1
      (issued ++ [(owner.display.displayId, l.newEntry owner resources)]) := by
  have hbelow : ∀ ring ∈ issued, ring.2.snapshot.ringGeneration < l.nextRingGeneration :=
    fun ring hring ↦ (h.below ring hring).2.resolve_left hnext
  have hnew : ∀ ring ∈ issued, ring.2.snapshot.publication ≠ some l.publications.length := by
    intro ring hring hg
    rcases h.gates ring hring with ⟨g, hg', hlt⟩
    cases hg.symm.trans hg'
    exact absurd hlt (Nat.lt_irrefl _)
  -- The counter stops at zero, so it is above all it has given out or is never read again.
  have hsucc : l.nextRingGeneration + 1 = 0 ∨ l.nextRingGeneration < l.nextRingGeneration + 1 := by
    rw [← UInt64.toNat_inj, UInt64.lt_iff_toNat_lt, UInt64.toNat_add]
    have := l.nextRingGeneration.toNat_lt
    simp only [UInt64.toNat_zero, UInt64.toNat_one]
    omega
  refine ⟨h.toTight.replace resources habsent, ?_, ?_, ?_, ?_, ?_⟩
  · intro d entry hentry
    rw [getElem?_rings_replaceRing resources habsent] at hentry
    split_ifs at hentry with hd
    · cases hentry
      cases hd
      exact List.mem_append_right _ List.mem_cons_self
    · exact List.mem_append_left _ (h.known d entry hentry)
  · rw [replaceRing_of_absent resources habsent]
    simp only [List.mem_append, List.mem_singleton, List.length_append, List.length_singleton]
    rintro ring (hring | rfl)
    · rcases h.gates ring hring with ⟨g, hg, hlt⟩
      exact ⟨g, hg, Nat.lt_succ_of_lt hlt⟩
    · exact ⟨_, rfl, Nat.lt_succ_self _⟩
  · simp only [List.mem_append, List.mem_singleton]
    rintro ring (hring | rfl) ring' (hring' | rfl) hsame
    · exact h.distinct ring hring ring' hring' hsame
    · exact absurd hsame (hnew ring hring)
    · exact absurd hsame.symm (hnew ring' hring')
    · rfl
  · rw [replaceRing_of_absent resources habsent]
    simp only [List.mem_append, List.mem_singleton]
    rintro ring (hring | rfl)
    · refine ⟨(h.below ring hring).1, hsucc.imp_right fun hlt ↦ ?_⟩
      exact UInt64.lt_trans (hbelow ring hring) hlt
    · exact ⟨hnext, hsucc⟩
  · rw [List.pairwise_append]
    refine ⟨h.increasing, List.pairwise_singleton .., ?_⟩
    intro ring hring ring' hring'
    cases List.mem_singleton.mp hring'
    exact hbelow ring hring

theorem Issued.apply (h : Issued s.lifetime issued) (event : FrameRingEvent Resources) :
    Issued (s.apply event).lifetime (issued ++ (s.registered? event).toList) := by
  cases event with
  | store op =>
    rw [registered?, Option.toList_none, List.append_nil]
    exact h
  | rings op =>
    rw [registered?]
    rcases op.apply_cases s.store s.lifetime with
      ⟨hretires, hnone⟩ | ⟨l', owner, resources, hretires, habsent, hnext, happly, hregistered⟩
    · rw [hnone, Option.toList_none, List.append_nil]
      exact h.retires hretires
    · rw [hregistered, FrameRings.apply, happly]
      exact (h.retires hretires).replace resources habsent hnext

theorem Issued.execute (h : Issued s.lifetime issued) (events : List (FrameRingEvent Resources)) :
    Issued (s.execute events).lifetime (issued ++ s.registrations events) := by
  induction events generalizing s issued with
  | nil =>
    rw [registrations, List.append_nil]
    exact h
  | cons event events ih =>
    rw [registrations, ← List.append_assoc]
    exact ih (h.apply event)

theorem issued_new : Issued ({} : FrameRingLifetime Resources) [] where
  held g := by simp [gateEnabled]
  own d entry hentry := by simp at hentry
  separate := .empty
  known d entry hentry := by simp at hentry
  gates := nofun
  distinct := nofun
  below := nofun
  increasing := .nil

end Issued

/-- A gate that is disabled stays so. -/
theorem disabled_apply (event : FrameRingEvent Resources) {g : PublicationRef}
    (hmade : g < s.lifetime.publications.length) (hg : s.lifetime.gateEnabled g = false) :
    g < (s.apply event).lifetime.publications.length ∧
      (s.apply event).lifetime.gateEnabled g = false := by
  cases event with
  | store op => exact ⟨hmade, hg⟩
  | rings op =>
    rw [apply]
    rcases op.apply_cases s.store s.lifetime with
      ⟨hretires, -⟩ | ⟨l', owner, resources, hretires, habsent, -, happly, -⟩
    · exact ⟨hretires.length ▸ hmade, hretires.disabled hg⟩
    · rw [happly]
      rw [← hretires.length] at hmade
      refine ⟨?_, ?_⟩
      · rw [replaceRing_of_absent resources habsent]
        simpa using Nat.lt_succ_of_lt hmade
      · rw [gateEnabled_replaceRing resources habsent, hretires.disabled hg,
          beq_eq_false_iff_ne.mpr hmade.ne']
        rfl

theorem disabled_execute (events : List (FrameRingEvent Resources)) {g : PublicationRef}
    (hmade : g < s.lifetime.publications.length) (hg : s.lifetime.gateEnabled g = false) :
    (s.execute events).lifetime.gateEnabled g = false := by
  induction events generalizing s with
  | nil => exact hg
  | cons event events ih =>
    rcases disabled_apply event hmade hg with ⟨hmade', hg'⟩
    exact ih hmade' hg'

/-- **Gates and rings agree.**  In any run of a new lifetime service over any store, cut at any
point: the gate of a ring the run has registered is enabled exactly if that ring is the one its
display has now, every enabled gate is the gate of such a ring, and of two rings of one display at
most one has its gate enabled; a gate that is disabled at the cut is disabled at the end; the
generations given out are nonzero and increase; and a clear or a retirement that names another ring
or display generation than the registered one leaves that ring registered and its gate enabled. -/
theorem frameGates (store : DisplayStore) (events events' : List (FrameRingEvent Resources)) :
    let new : FrameRings Resources := { store }
    let s := new.execute events
    (∀ ring ∈ new.registrations events, ∃ g, ring.2.snapshot.publication = some g ∧
      (s.lifetime.gateEnabled g = true ↔ s.lifetime.rings[ring.1]? = some ring.2)) ∧
    (∀ g, s.lifetime.gateEnabled g = true →
      ∃ ring ∈ new.registrations events, ring.2.snapshot.publication = some g) ∧
    (∀ ring ∈ new.registrations events, ∀ ring' ∈ new.registrations events, ring.1 = ring'.1 →
      s.lifetime.canPublish ring.2.snapshot = true →
        s.lifetime.canPublish ring'.2.snapshot = true → ring = ring') ∧
    (∀ g, g < s.lifetime.publications.length → s.lifetime.gateEnabled g = false →
      (s.execute events').lifetime.gateEnabled g = false) ∧
    (∀ ring ∈ new.registrations events, ring.2.snapshot.ringGeneration ≠ 0) ∧
    (new.registrations events).Pairwise (fun ring ring' ↦
      ring.2.snapshot.ringGeneration < ring'.2.snapshot.ringGeneration) ∧
    ∀ (op : FrameRingOp Resources) (d : UInt64) (entry : FrameRingEntry Resources),
      s.lifetime.rings[d]? = some entry → op.namesOther d entry →
        (op.apply s.store s.lifetime).rings[d]? = some entry ∧
          (op.apply s.store s.lifetime).canPublish entry.snapshot = true := by
  intro new s
  have h : Issued s.lifetime (new.registrations events) :=
    Issued.execute (s := new) issued_new events
  have hgate : ∀ ring ∈ new.registrations events, ∀ g, ring.2.snapshot.publication = some g →
      s.lifetime.gateEnabled g = true → s.lifetime.rings[ring.1]? = some ring.2 := by
    intro ring hring g hg henabled
    rcases (h.held g).mp henabled with ⟨d, entry, hentry, hg'⟩
    cases h.distinct ring hring (d, entry) (h.known d entry hentry) (hg.trans hg'.symm)
    exact hentry
  refine ⟨fun ring hring ↦ ?_, fun g hg ↦ ?_, fun ring hring ring' hring' hd hcan hcan' ↦ ?_,
    fun g hmade hg ↦ disabled_execute events' hmade hg, fun ring hring ↦ (h.below ring hring).1,
    h.increasing, fun op d entry hentry hop ↦ ?_⟩
  · rcases h.gates ring hring with ⟨g, hg, -⟩
    exact ⟨g, hg, hgate ring hring g hg, fun hentry ↦ (h.held g).mpr ⟨_, _, hentry, hg⟩⟩
  · rcases (h.held g).mp hg with ⟨d, entry, hentry, hg'⟩
    exact ⟨_, h.known d entry hentry, hg'⟩
  · rcases Option.any_eq_true _ _ |>.mp hcan with ⟨g, hg, henabled⟩
    rcases Option.any_eq_true _ _ |>.mp hcan' with ⟨g', hg', henabled'⟩
    have hentry := hgate ring hring g hg henabled
    have hentry' := hgate ring' hring' g' hg' henabled'
    rw [hd, hentry', Option.some_inj] at hentry
    exact Prod.ext hd hentry.symm
  · have hstays : ((s.apply (.rings op)).lifetime).rings[d]? = some entry := hop.stays hentry
    exact ⟨hstays, (h.apply (.rings op)).toTight.canPublish hstays⟩

end FrameRings

end VirtualDisplay
