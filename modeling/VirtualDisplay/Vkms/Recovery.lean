import VirtualDisplay.Vkms.PoolDevice

/-!
# Recovery of the pool

* `Pool.createPool_guards`, `Pool.removePool_guards` — what a start and a stop do to a device that
  the service has left behind, as far as they come.
* `pool_recovers` — whatever went wrong before, a start that nothing goes wrong with brings the pool
  up, and a stop takes it down.

## What is here

* `PoolGuards` — a script of the service, looked at operation by operation: what every operation
  finds and leaves (`guards_op`, `guards_op_of_fails`), and what holds of the replies when the
  script comes to its end.  An operation may do what the kernel does, or fail and change nothing, or
  fail in between; a script may be killed behind any of them.
* `PoolVerifies` — what a check of the service has made sure of when it passes, although each read
  that it makes may be got wrong (`Managed.validateTopology_verifies`).
* `TestsHold` — the one assumption: a test whether something exists says what is there.  A check
  that reads an attribute or a link may fail, and the service then takes the device for a wrong one.
* `removePool_guards`, `createNewPool_guards`, `createPool_guards` — the three ways through a
  command, put together to `command_guards`.
* `finish_createPool`, `finish_removePool` — a command that nothing goes wrong with does what it is
  there for, whatever the commands before it have left.
* `createPool_retains` — a start that can read what it looks at leaves an enabled device alone.
* `Up` — what a pool is like that the driver can show: a pipeline of its own for each output.

The lease files of the connectors are not in the device; removing the pool clears them, and that may
fail, but it keeps no start from going on.
-/

set_option autoImplicit false

namespace VirtualDisplay

open Script

namespace Pool

variable {n : Nat} {s : VkmsConfigfsDevice Nat}

/-! ## What the service relies on -/

section

variable {assume : Event PoolOp.Reply PoolDir → Prop} {dir : PoolDir}

/-- What the service leaves behind, wherever it is killed. -/
def Left (n : Nat) (dir : PoolDir) : Prop := ∀ s ∈ dir, Managed n s

/-- Nothing goes wrong with the operation. -/
def Undisturbed (event : Event PoolOp.Reply PoolDir) : Prop :=
  (event.reply, event.after) = event.op.kernel event.before

/-- The operation keeps what the service leaves behind. -/
def Kept (n : Nat) (event : Event PoolOp.Reply PoolDir) : Prop :=
  Left n event.before → Left n event.after

/-- Something may go wrong. -/
def Unsure (assume : Event PoolOp.Reply PoolDir → Prop) : Prop :=
  ¬ ∀ event, assume event → Undisturbed event

/-- A script leads to such a result, keeping what the service leaves behind at every operation. -/
abbrev PoolGuards {α : Type} (n : Nat) (assume : Event PoolOp.Reply PoolDir → Prop)
    (post : α → PoolDir → Prop) (script : PoolScript α) (dir : PoolDir) : Prop :=
  Guards PoolOp.Step assume (Kept n) post script dir

/-- A single operation. -/
theorem guards_op {op : PoolOp} {post : op.Reply → PoolDir → Prop}
    (hkernel : Left n (op.kernel dir).2 ∧ post (op.kernel dir).1 (op.kernel dir).2)
    (hfails : ∀ reply dir', op.Fails dir reply dir' →
      Left n dir' ∧ (Unsure assume → post reply dir')) :
    PoolGuards n assume post (perform op) dir := by
  intro reply dir' hstep hassume
  by_cases hsame : (reply, dir') = op.kernel dir
  · rw [← hsame] at hkernel
    exact ⟨fun _ ↦ hkernel.1, hkernel.2⟩
  · obtain ⟨hleft, hpost⟩ := hfails reply dir' (hstep.resolve_left hsame)
    exact ⟨fun _ ↦ hleft, hpost fun hsure ↦ hsame (hsure _ hassume)⟩

/-- An operation that leaves everything as it is when it fails. -/
theorem guards_op_of_fails {op : PoolOp} {post : op.Reply → PoolDir → Prop}
    (hfails : ∀ reply dir', op.Fails dir reply dir' → dir' = dir ∧ (Unsure assume → post reply dir))
    (hleft : Left n dir)
    (hkernel : Left n (op.kernel dir).2 ∧ post (op.kernel dir).1 (op.kernel dir).2) :
    PoolGuards n assume post (perform op) dir :=
  guards_op hkernel fun reply dir' hfail ↦ by
    obtain ⟨rfl, hpost⟩ := hfails reply dir' hfail
    exact ⟨hleft, hpost⟩

theorem kernel_of_isRead {op : PoolOp} (h : op.isRead = true) (dir : PoolDir) :
    (op.kernel dir).2 = dir := by
  cases op <;> first | rfl | cases h

theorem fails_of_isRead {op : PoolOp} (h : op.isRead = true) {reply : op.Reply} {dir' : PoolDir}
    (hfails : op.Fails dir reply dir') : reply = op.failure ∧ dir' = dir := by
  cases op <;> first | exact hfails | cases h

theorem isRead_of_isTest {op : PoolOp} (h : op.isTest = true) : op.isRead = true := by
  cases op <;> first | rfl | cases h

theorem step_of_isRead {op : PoolOp} (h : op.isRead = true) {reply : op.Reply} {dir' : PoolDir}
    (hstep : op.Step dir reply dir') :
    dir' = dir ∧ ((op.kernel dir).1 = reply ∨ ¬ Undisturbed ⟨op, reply, dir, dir'⟩) := by
  have hkernel := kernel_of_isRead h dir
  rcases hstep with hsame | hfails
  · rw [← hsame] at hkernel ⊢
    exact ⟨hkernel, .inl rfl⟩
  · obtain rfl := (fails_of_isRead h hfails).2
    refine ⟨rfl, or_iff_not_imp_right.mpr fun hundisturbed ↦ ?_⟩
    have hsame : (reply, dir') = op.kernel dir' := not_not.mp hundisturbed
    rw [← hsame]

/-- What is only looked at may be got wrong. -/
theorem guards_of_readsOnly {α : Type} {script : PoolScript α} (h : ReadsOnly PoolOp.isRead script)
    {post : α → PoolDir → Prop}
    (hpost : ∀ result, result = (script.finish PoolOp.kernel dir).1 ∨ Unsure assume →
      post result dir) :
    PoolGuards n assume post script dir := by
  have hguards : PoolGuards n assume (fun result dir' ↦ dir' = dir ∧
      (result = (script.finish PoolOp.kernel dir).1 ∨ Unsure assume)) script dir := by
    refine h.guards (fun _ hread dir ↦ kernel_of_isRead hread dir) ?_ fun _ _ ↦ id
    intro op hread dir reply dir' hstep hassume
    obtain ⟨hdir, hreply⟩ := step_of_isRead hread hstep
    exact ⟨hdir, hreply.imp Eq.symm fun hwrong hsure ↦ hwrong (hsure _ hassume)⟩
  exact hguards.mono fun result dir' hresult ↦ hresult.1 ▸ hpost result hresult.2

/-- Tests tell what is there. -/
def TestsHold (assume : Event PoolOp.Reply PoolDir → Prop) : Prop :=
  ∀ event, assume event → event.op.isTest = true → Undisturbed event

/-- A single test. -/
theorem guards_test (htests : TestsHold assume) {op : PoolOp} (h : op.isTest = true)
    {post : op.Reply → PoolDir → Prop} (hpost : post (op.kernel dir).1 dir) :
    PoolGuards n assume post (perform op) dir := by
  intro reply dir' hstep hassume
  obtain ⟨rfl, hreply⟩ := step_of_isRead (isRead_of_isTest h) hstep
  have hsame := hreply.resolve_right fun hwrong ↦ hwrong (htests _ hassume h)
  exact ⟨id, hsame ▸ hpost⟩

end

/-! ## Checks -/

section

variable {count : Nat}

theorem readsOnly_perform {op : PoolOp} :
    ReadsOnly PoolOp.isRead (perform op) ↔ op.isRead = true := and_iff_left fun _ ↦ trivial

theorem readsOnly_groupIsManaged (kind : ItemKind) :
    ReadsOnly PoolOp.isRead (groupIsManaged count kind) := ⟨rfl, fun _ ↦ trivial⟩

theorem readsOnly_linkDirectoryIsManaged (index : Nat) (kind : LinkKind) :
    ReadsOnly PoolOp.isRead (linkDirectoryIsManaged index kind) := ⟨rfl, fun _ ↦ trivial⟩

/-- The conjunction of the checks of a list. -/
theorem finish_allOf_iff {checks : List (PoolScript Bool)}
    (h : ∀ check ∈ checks, ReadsOnly PoolOp.isRead check) (dir : PoolDir) :
    ((allOf checks).finish PoolOp.kernel dir).1 = true ↔
      ∀ check ∈ checks, (check.finish PoolOp.kernel dir).1 = true := by
  rw [finish_allOf (fun _ hread dir ↦ kernel_of_isRead hread dir) h, List.all_eq_true]

theorem readsOnly_allOf_map {ι : Type} {l : List ι} {check : ι → PoolScript Bool}
    (h : ∀ a ∈ l, ReadsOnly PoolOp.isRead (check a)) :
    ∀ script ∈ l.map check, ReadsOnly PoolOp.isRead script := by
  simpa using h

theorem finish_allOf_map {ι : Type} {l : List ι} {check : ι → PoolScript Bool}
    (h : ∀ a ∈ l, ReadsOnly PoolOp.isRead (check a)) (dir : PoolDir) :
    ((allOf (l.map check)).finish PoolOp.kernel dir).1 = true ↔
      ∀ a ∈ l, ((check a).finish PoolOp.kernel dir).1 = true := by
  rw [finish_allOf_iff (readsOnly_allOf_map h), List.forall_mem_map]

theorem readsOnly_linkDirectoriesAreManaged (index : Nat) :
    ReadsOnly PoolOp.isRead (allOf (linkKinds.map (linkDirectoryIsManaged index))) :=
  readsOnly_allOf (readsOnly_allOf_map fun kind _ ↦ readsOnly_linkDirectoryIsManaged index kind)

theorem readsOnly_cleanupIsSafe : ReadsOnly PoolOp.isRead (cleanupIsSafe count) := by
  refine readsOnly_allOf (List.forall_mem_cons.mpr ⟨?_, List.forall_mem_singleton.mpr ?_⟩)
  · exact readsOnly_allOf (readsOnly_allOf_map fun kind _ ↦ readsOnly_groupIsManaged kind)
  · exact readsOnly_allOf (readsOnly_allOf_map fun index _ ↦
      readsOnly_linkDirectoriesAreManaged index)

theorem mem_itemKinds (kind : ItemKind) : kind ∈ itemKinds := by
  cases kind <;> simp [itemKinds]

theorem mem_linkKinds (kind : LinkKind) : kind ∈ linkKinds := by
  cases kind <;> simp [linkKinds]

theorem Managed.finish_cleanupIsSafe (h : Managed n s) :
    ((cleanupIsSafe n).finish PoolOp.kernel (some s)).1 = true := by
  have hgroups : ∀ kind ∈ itemKinds, ReadsOnly PoolOp.isRead (groupIsManaged n kind) :=
    fun kind _ ↦ readsOnly_groupIsManaged kind
  have hlinks : ∀ index ∈ List.range n, ReadsOnly PoolOp.isRead
      (allOf (linkKinds.map (linkDirectoryIsManaged index))) :=
    fun index _ ↦ readsOnly_linkDirectoriesAreManaged index
  refine (finish_allOf_iff ?_ _).mpr ?_
  · exact List.forall_mem_cons.mpr ⟨readsOnly_allOf (readsOnly_allOf_map hgroups),
      List.forall_mem_singleton.mpr (readsOnly_allOf (readsOnly_allOf_map hlinks))⟩
  · refine List.forall_mem_cons.mpr ⟨?_, List.forall_mem_singleton.mpr ?_⟩
    · refine (finish_allOf_map hgroups _).mpr fun kind _ ↦ ?_
      show ((s.config.items kind).all (· < n)) = true
      simpa using h.items kind
    · refine (finish_allOf_map hlinks _).mpr fun index _ ↦
        (finish_allOf_map (fun kind _ ↦ readsOnly_linkDirectoryIsManaged index kind) _).mpr
          fun kind _ ↦ ?_
      show ((s.config.links kind index).all (· = index)) = true
      simpa using h.links kind index

theorem readsOnly_validateLink (kind : LinkKind) (index : Nat) :
    ReadsOnly PoolOp.isRead (validateLink kind index) :=
  readsOnly_allOf (by
    simp [Pool.perform, Script.perform, ReadsOnly, PoolOp.isRead])

theorem readsOnly_pipelineChecks (index : Nat) : ∀ check ∈ pipelineChecks index,
    ReadsOnly PoolOp.isRead check := by
  simp [pipelineChecks, Pool.perform, Script.perform, ReadsOnly, PoolOp.isRead,
    readsOnly_validateLink]

theorem readsOnly_validatePipeline (index : Nat) :
    ReadsOnly PoolOp.isRead (validatePipeline index) :=
  readsOnly_allOf (readsOnly_pipelineChecks index)

/-- What is checked of a pipeline, besides the status of the connector. -/
structure PipelineWhole (config : VkmsConfig Nat) (index : Nat) : Prop where
  items : ∀ kind, index ∈ config.items kind
  type : (config.plane index).type = .primary
  links : ∀ link, index ∈ config.links link index

theorem DrmPlaneType.toNat_eq_one {type : DrmPlaneType} : type.toNat = 1 ↔ type = .primary := by
  cases type <;> simp [DrmPlaneType.toNat]

theorem finish_validateLink (kind : LinkKind) (index : Nat) :
    ((validateLink kind index).finish PoolOp.kernel (some s)).1 = true ↔
      index ∈ s.config.links kind index := by
  refine (finish_allOf_iff ?_ _).trans ?_
  · simp [Pool.perform, Script.perform, ReadsOnly, PoolOp.isRead]
  · simp [Pool.perform, Script.perform, Script.finish, PoolOp.kernel]

theorem Managed.finish_validatePipeline (h : Managed n s) (index : Nat) :
    ((validatePipeline index).finish PoolOp.kernel (some s)).1 = true ↔
      PipelineWhole s.config index := by
  have hwriteback := h.sound.writeback index
  have hstatus := h.status index
  refine (finish_allOf_iff (readsOnly_pipelineChecks index) _).trans ?_
  simp only [pipelineChecks, List.forall_mem_cons, List.not_mem_nil, false_imp_iff, implies_true,
    and_true, finish_validateLink, Pool.perform, Script.perform, Script.finish, PoolOp.kernel,
    Option.any_some, Bool.and_eq_true, decide_eq_true_eq]
  constructor
  · rintro ⟨hplane, hcrtc, hencoder, hconnector, ⟨-, htype⟩, -, -, h₁, h₂, h₃⟩
    exact {
      items := fun kind ↦ by
        cases kind
        · exact hplane
        · exact hcrtc
        · exact hencoder
        · exact hconnector
      type := DrmPlaneType.toNat_eq_one.mp htype
      links := fun link ↦ by
        cases link
        · exact h₁
        · exact h₂
        · exact h₃ }
  · intro hwhole
    exact ⟨hwhole.items .plane, hwhole.items .crtc, hwhole.items .encoder,
      hwhole.items .connector,
      ⟨hwhole.items .plane, DrmPlaneType.toNat_eq_one.mpr hwhole.type⟩,
      ⟨hwhole.items .crtc, hwriteback (hwhole.items .crtc)⟩,
      ⟨hwhole.items .connector, hstatus (hwhole.items .connector)⟩,
      hwhole.links .planeCrtc, hwhole.links .encoderCrtc, hwhole.links .connectorEncoder⟩

theorem readsOnly_validateTopology : ReadsOnly PoolOp.isRead (validateTopology count) := by
  refine readsOnly_allOf (List.forall_mem_cons.mpr ⟨readsOnly_perform.mpr rfl,
    List.forall_mem_cons.mpr ⟨readsOnly_cleanupIsSafe, List.forall_mem_singleton.mpr ?_⟩⟩)
  exact readsOnly_allOf (readsOnly_allOf_map fun index _ ↦ readsOnly_validatePipeline index)

/-- The check of a topology of this many outputs, of a device with links to these at most. -/
theorem Managed.finish_validateTopology (h : Managed n s) (count : Nat) :
    ((validateTopology count).finish PoolOp.kernel (some s)).1 = true ↔
      ((cleanupIsSafe count).finish PoolOp.kernel (some s)).1 = true ∧
        ∀ index < count, PipelineWhole s.config index := by
  have hpipelines : ∀ index ∈ List.range count, ReadsOnly PoolOp.isRead (validatePipeline index) :=
    fun index _ ↦ readsOnly_validatePipeline index
  refine (finish_allOf_iff ?_ _).trans ?_
  · exact List.forall_mem_cons.mpr ⟨readsOnly_perform.mpr rfl, List.forall_mem_cons.mpr
      ⟨readsOnly_cleanupIsSafe,
        List.forall_mem_singleton.mpr (readsOnly_allOf (readsOnly_allOf_map hpipelines))⟩⟩
  · rw [List.forall_mem_cons, List.forall_mem_cons, List.forall_mem_singleton,
      finish_allOf_map hpipelines]
    constructor
    · rintro ⟨-, hsafe, hall⟩
      exact ⟨hsafe, fun index hindex ↦
        (h.finish_validatePipeline index).mp (hall index (List.mem_range.mpr hindex))⟩
    · rintro ⟨hsafe, hall⟩
      exact ⟨rfl, hsafe, fun index hindex ↦
        (h.finish_validatePipeline index).mpr (hall index (List.mem_range.mp hindex))⟩

theorem Managed.finish_validateTopology_self (h : Managed n s) :
    ((validateTopology n).finish PoolOp.kernel (some s)).1 = true ↔ Whole n s.config := by
  rw [h.finish_validateTopology n]
  constructor
  · rintro ⟨-, hall⟩
    exact {
      full := fun kind index hindex ↦ (hall index hindex).items kind
      types := fun index hindex ↦ (hall index hindex).type
      links := fun link index hindex ↦ (hall index hindex).links link }
  · intro hwhole
    exact ⟨h.finish_cleanupIsSafe, fun index hindex ↦ {
      items := fun kind ↦ hwhole.full kind index hindex
      type := hwhole.types index hindex
      links := fun link ↦ hwhole.links link index hindex }⟩

theorem readsOnly_existingPoolOutputCount :
    ReadsOnly PoolOp.isRead (existingPoolOutputCount count) := by
  refine readsOnly_bind ((readsOnly_perform.mpr rfl)) fun present ↦ ?_
  cases present <;> trivial

theorem readsOnly_validateExistingTopology :
    ReadsOnly PoolOp.isRead (validateExistingTopology count) :=
  readsOnly_bind readsOnly_existingPoolOutputCount fun _ ↦ readsOnly_validateTopology

/-- A device of the pool does not pass for one of four outputs: it has no links before it has all
its connectors. -/
theorem Managed.finish_validateExistingTopology (h : Managed n s) (hn : 4 < n) :
    ((validateExistingTopology n).finish PoolOp.kernel (some s)).1 = true ↔ Whole n s.config := by
  have hread : ∀ op : PoolOp, op.isRead = true → ∀ dir, (op.kernel dir).2 = dir :=
    fun _ hread dir ↦ kernel_of_isRead hread dir
  have hfinish : (validateExistingTopology n).finish PoolOp.kernel (some s) = _ :=
    ReadsOnly.finish_bind hread readsOnly_existingPoolOutputCount (some s)
  have hcount : ((existingPoolOutputCount n).finish PoolOp.kernel (some s)).1 =
      if 4 ∈ s.config.connectors then n else 4 := by
    have hfinish : (existingPoolOutputCount n).finish PoolOp.kernel (some s) = _ :=
      ReadsOnly.finish_bind hread ((readsOnly_perform.mpr rfl)) (some s)
    rw [hfinish]
    by_cases hpresent : 4 ∈ s.config.connectors <;>
      simp [Pool.perform, Script.perform, Script.finish, PoolOp.kernel, VkmsConfig.items, hpresent,
        pure]
  rw [hfinish, hcount]
  split_ifs with hpresent
  · exact h.finish_validateTopology_self
  · constructor
    · intro hfour
      have hlink := (((h.finish_validateTopology 4).mp hfour).2 0 (by decide)).links .planeCrtc
      exact absurd (h.full _ _ (List.ne_nil_of_mem hlink) .connector 4 hn) hpresent
    · intro hwhole
      exact absurd (hwhole.full .connector 4 hn) hpresent

end

/-! ### Checks that are disturbed

A check in which something cannot be read does not pass.
-/

section

variable {assume : Event PoolOp.Reply PoolDir → Prop} {dir : PoolDir}

theorem guards_read {op : PoolOp} (h : op.isRead = true) {post : op.Reply → PoolDir → Prop}
    (hkernel : post (op.kernel dir).1 dir) (hfailure : post op.failure dir) :
    PoolGuards n assume post (perform op) dir := by
  intro reply dir' hstep _
  obtain ⟨rfl, hreply⟩ := step_of_isRead h hstep
  refine ⟨id, ?_⟩
  rcases hstep with hsame | hfails
  · rwa [← hsame] at hkernel
  · rwa [(fails_of_isRead h hfails).1]

/-- A script tells whether something holds, keeping what the service leaves behind. -/
abbrev PoolVerifies (n : Nat) (assume : Event PoolOp.Reply PoolDir → Prop) (dir : PoolDir)
    (fact : Prop) (script : PoolScript Bool) : Prop :=
  Verifies PoolOp.Step assume (Kept n) dir fact script

theorem validateLink_verifies (kind : LinkKind) (index : Nat) :
    PoolVerifies n assume (some s) (index ∈ s.config.links kind index)
      (validateLink kind index) := by
  have hthere : PoolVerifies n assume (some s) (index ∈ s.config.links kind index)
      (perform (.linkExists kind index)) :=
    guards_read rfl ⟨rfl, by simp [PoolOp.kernel]⟩ ⟨rfl, nofun⟩
  have hresolves : PoolVerifies n assume (some s) True (perform (.linkResolves kind index)) :=
    guards_read rfl ⟨rfl, fun _ ↦ trivial⟩ ⟨rfl, nofun⟩
  exact (verifies_cons hthere (guards_allOf_singleton hresolves)).imp And.left

theorem Managed.validatePipeline_verifies (h : Managed n s) (index : Nat) :
    PoolVerifies n assume (some s) (PipelineWhole s.config index) (validatePipeline index) := by
  have hchecks : ∀ check ∈ pipelineChecks index, PoolVerifies n assume (some s)
      ((check.finish PoolOp.kernel (some s)).1 = true) check := by
    have hlink : ∀ kind, PoolVerifies n assume (some s)
        (((validateLink kind index).finish PoolOp.kernel (some s)).1 = true)
        (validateLink kind index) :=
      fun kind ↦ (validateLink_verifies kind index).imp (finish_validateLink kind index).mpr
    simp only [pipelineChecks, List.forall_mem_cons, List.not_mem_nil, false_imp_iff, implies_true,
      and_true]
    refine ⟨?_, ?_, ?_, ?_, ?_, ?_, ?_, hlink .planeCrtc, hlink .encoderCrtc,
      hlink .connectorEncoder⟩ <;>
      exact guards_read rfl ⟨rfl, id⟩ ⟨rfl, nofun⟩
  have hall := verifies_allOf hchecks
  rw [List.map_id'] at hall
  exact hall.imp fun hall ↦ (h.finish_validatePipeline index).mp
    ((finish_allOf_iff (readsOnly_pipelineChecks index) _).mpr hall)

/-- Whatever count is checked for, that many pipelines are whole if the check passes. -/
theorem Managed.validateTopology_verifies (h : Managed n s) (count : Nat) :
    PoolVerifies n assume (some s) (∀ index < count, PipelineWhole s.config index)
      (validateTopology count) := by
  have hpipelines : PoolVerifies n assume (some s) _ _ :=
    verifies_allOf fun index (_ : index ∈ List.range count) ↦ h.validatePipeline_verifies index
  have hsafe : PoolVerifies n assume (some s) True (cleanupIsSafe count) :=
    guards_of_readsOnly readsOnly_cleanupIsSafe fun _ _ ↦ ⟨rfl, fun _ ↦ trivial⟩
  have hthere : PoolVerifies n assume (some s) True (perform .deviceExists) :=
    guards_read rfl ⟨rfl, fun _ ↦ trivial⟩ ⟨rfl, nofun⟩
  refine (verifies_cons hthere (verifies_cons hsafe (guards_allOf_singleton hpipelines))).imp ?_
  exact fun hall index hindex ↦ hall.2.2 index (List.mem_range.mpr hindex)

theorem Managed.validateTopology_verifies_self (h : Managed n s) :
    PoolVerifies n assume (some s) (Whole n s.config) (validateTopology n) :=
  (h.validateTopology_verifies n).imp fun hall ↦ {
    full := fun kind index hindex ↦ (hall index hindex).items kind
    types := fun index hindex ↦ (hall index hindex).type
    links := fun link index hindex ↦ (hall index hindex).links link }

theorem Managed.validateExistingTopology_verifies (htests : TestsHold assume) (h : Managed n s)
    (hn : 4 < n) :
    PoolVerifies n assume (some s) (Whole n s.config) (validateExistingTopology n) := by
  refine guards_bind.mpr (guards_bind.mpr (guards_test htests rfl ?_))
  show PoolGuards n assume _ (if decide (4 ∈ s.config.items .connector) = true then pure n
    else pure 4) (some s)
  split_ifs with hpresent
  · exact h.validateTopology_verifies_self
  · refine (h.validateTopology_verifies 4).imp fun hall ↦ ?_
    have hlink := (hall 0 (by decide)).links .planeCrtc
    exact absurd (by simpa using h.full _ _ (List.ne_nil_of_mem hlink) .connector 4 hn) hpresent

end

/-! ## Taking a device apart -/

section

variable {assume : Event PoolOp.Reply PoolDir → Prop} {dir : PoolDir}

theorem left_some : Left n (some s) ↔ Managed n s := by simp [Left]

theorem left_none : Left n none := by simp [Left]

/-- There is a device that is not enabled. -/
def Disabled (n : Nat) (dir : PoolDir) : Prop :=
  ∃ s, dir = some s ∧ Managed n s ∧ s.enabled = false

/-- The device is down and its links are gone. -/
def Unlinked (n : Nat) (dir : PoolDir) : Prop :=
  ∃ s, dir = some s ∧ Managed n s ∧ s.enabled = false ∧ ∀ link i, s.config.links link i = []

/-- The link is gone. -/
def LinkGone (b : LinkKind × Nat) (dir : PoolDir) : Prop := ∀ s ∈ dir, s.config.links b.1 b.2 = []

/-- The item is gone. -/
def ItemGone (b : ItemKind × Nat) (dir : PoolDir) : Prop := ∀ s ∈ dir, b.2 ∉ s.config.items b.1

theorem removeLinkIfPresent_establishes (htests : TestsHold assume) (kind : LinkKind)
    (index : Nat) :
    Establishes PoolOp.Step assume (Kept n) (Disabled n) LinkGone (Unsure assume)
      (· = (kind, index)) (removeLinkIfPresent kind index) := by
  rintro - ⟨s, rfl, h, hdisabled⟩
  refine guards_bind.mpr (guards_test htests rfl ?_)
  show PoolGuards n assume _ (if decide (index ∈ s.config.links kind index) = true then
    perform (.removeLink kind index) else pure true) (some s)
  split_ifs with hpresent
  · obtain ⟨h', hdisabled', hothers, hgone, hok⟩ := h.dropLink hdisabled kind index
    refine guards_op_of_fails ?_ (left_some.mpr h) ⟨left_some.mpr h', ⟨_, rfl, h', hdisabled'⟩, ?_⟩
    · rintro reply dir' ⟨rfl, rfl⟩
      exact ⟨rfl, fun hunsure ↦ ⟨⟨s, rfl, h, hdisabled⟩, fun _ ↦ id, nofun, fun _ ↦ hunsure⟩⟩
    · refine ⟨fun b hb ↦ ?_, fun _ b hb ↦ ?_, fun hfailed ↦ ?_⟩
      · rintro _ ⟨⟩
        exact hothers b.1 b.2 (hb s rfl)
      · subst hb
        rintro _ ⟨⟩
        exact hgone
      · have hnone := hok (by simpa using hpresent)
        simp [PoolOp.kernel, callPool, hnone] at hfailed
  · refine ⟨⟨s, rfl, h, hdisabled⟩, fun _ ↦ id, fun _ b hb ↦ ?_, by simp⟩
    subst hb
    rintro _ ⟨⟩
    refine List.eq_nil_iff_forall_not_mem.mpr fun j hj ↦ ?_
    have hsame := h.links kind index j hj
    rw [hsame] at hj
    exact absurd (by simpa using hj) hpresent

theorem removable_of_unlinked (h : ∀ link i, s.config.links link i = []) (kind : ItemKind)
    (index : Nat) : s.removable kind index = true := by
  simp [VkmsConfigfsDevice.removable, h]

theorem removeConfigfsItem_establishes (htests : TestsHold assume) (kind : ItemKind) (index : Nat) :
    Establishes PoolOp.Step assume (Kept n) (Unlinked n) ItemGone (Unsure assume)
      (· = (kind, index)) (removeConfigfsItem kind index) := by
  rintro - ⟨s, rfl, h, hdisabled, hunlinked⟩
  refine guards_bind.mpr (guards_test htests rfl ?_)
  show PoolGuards n assume _ (if decide (index ∈ s.config.items kind) = true then
    perform (.removeItem kind index) else pure true) (some s)
  split_ifs with hpresent
  · obtain ⟨h', hdisabled', hunlinked', hothers, hgone, hok⟩ :=
      h.release hdisabled hunlinked kind index
    have hkernel : (PoolOp.removeItem kind index).kernel (some s) =
        ((s.call (.release kind index)).1.isNone, some (s.call (.release kind index)).2) :=
      if_pos (removable_of_unlinked hunlinked kind index)
    refine guards_op_of_fails ?_ (left_some.mpr h) ?_
    · rintro reply dir' ⟨rfl, rfl⟩
      exact ⟨rfl, fun hunsure ↦
        ⟨⟨s, rfl, h, hdisabled, hunlinked⟩, fun _ ↦ id, nofun, fun _ ↦ hunsure⟩⟩
    · rw [hkernel]
      refine ⟨left_some.mpr h', ⟨_, rfl, h', hdisabled', hunlinked'⟩, fun b hb ↦ ?_,
        fun _ b hb ↦ ?_, fun hfailed ↦ ?_⟩
      · rintro _ ⟨⟩
        exact fun hmem ↦ hb s rfl (hothers b.1 hmem)
      · subst hb
        rintro _ ⟨⟩
        exact hgone
      · have hnone := hok (by simpa using hpresent)
        simp [hnone] at hfailed
  · refine ⟨⟨s, rfl, h, hdisabled, hunlinked⟩, fun _ ↦ id, fun _ b hb ↦ ?_, by simp⟩
    subst hb
    rintro _ ⟨⟩
    simpa using hpresent

/-- The postcondition of a script that comes to its goal, or has a reason not to. -/
structure Outcome (n : Nat) (reason : Prop) (goal : PoolDir → Prop) (ok : Bool) (dir : PoolDir) :
    Prop where
  left : Left n dir
  goal : ok = true → goal dir
  reason : ok = false → reason

/-- All links are removed. -/
theorem removeLinks_guards (htests : TestsHold assume) (h : Disabled n dir) :
    PoolGuards n assume (Outcome n (Unsure assume) (Unlinked n))
      (eachOf ((List.range n).map removeLinks)) dir := by
  have hlinks := establishes_eachOf fun index (_ : index ∈ List.range n) ↦
    establishes_eachOf fun kind (_ : kind ∈ [.connectorEncoder, .encoderCrtc, .planeCrtc]) ↦
      removeLinkIfPresent_establishes (n := n) htests kind index
  refine (hlinks dir h).mono ?_
  rintro ok - ⟨⟨s, rfl, h', hdisabled⟩, -, hgone, hunsure⟩
  refine ⟨left_some.mpr h', fun hok ↦ ⟨s, rfl, h', hdisabled, fun link i ↦ ?_⟩, hunsure⟩
  by_cases hi : i < n
  · exact hgone hok (link, i) ⟨i, List.mem_range.mpr hi, link, by cases link <;> simp, rfl⟩ s rfl
  · exact if_neg fun hmem ↦ hi (h'.items _ i hmem)

theorem removeItems_guards (htests : TestsHold assume) (h : Unlinked n dir) :
    PoolGuards n assume (Outcome n (Unsure assume) fun dir ↦ ∃ s, dir = some s ∧ Managed n s ∧
        ∀ kind, s.config.items kind = [])
      (eachOf ((List.range n).map removeItems)) dir := by
  have hitems := establishes_eachOf fun index (_ : index ∈ List.range n) ↦
    establishes_eachOf fun kind (_ : kind ∈ [.connector, .encoder, .plane, .crtc]) ↦
      removeConfigfsItem_establishes (n := n) htests kind index
  refine (hitems dir h).mono ?_
  rintro ok - ⟨⟨s, rfl, h', -, -⟩, -, hgone, hunsure⟩
  refine ⟨left_some.mpr h', fun hok ↦ ⟨s, rfl, h', fun kind ↦ ?_⟩, hunsure⟩
  refine List.eq_nil_iff_forall_not_mem.mpr fun i hi ↦ ?_
  exact hgone hok (kind, i)
    ⟨i, List.mem_range.mpr (h'.items kind i hi), kind, by cases kind <;> simp, rfl⟩ s rfl hi

theorem clearConnectorLeases_guards (goal : PoolDir → Prop) (hleft : Left n dir)
    (hgoal : goal dir) :
    PoolGuards n assume (Outcome n (Unsure assume) goal) (perform .clearConnectorLeases) dir := by
  refine guards_op_of_fails ?_ hleft ⟨hleft, hleft, fun _ ↦ hgoal, by simp [PoolOp.kernel]⟩
  rintro reply dir' ⟨rfl, rfl⟩
  exact ⟨rfl, fun hunsure ↦ ⟨hleft, nofun, fun _ ↦ hunsure⟩⟩

/-- The next part of a sequence, from where the one before leaves off. -/
theorem guards_allOf_outcome {part : PoolScript Bool} {parts : List (PoolScript Bool)}
    {reason : Prop} {goal : PoolDir → Prop} (middle : PoolDir → Prop)
    (hpart : PoolGuards n assume (Outcome n reason middle) part dir)
    (hparts : ∀ dir, middle dir → PoolGuards n assume (Outcome n reason goal) (allOf parts) dir) :
    PoolGuards n assume (Outcome n reason goal) (allOf (part :: parts)) dir := by
  refine guards_allOf_cons (hpart.mono fun ok dir' hmiddle ↦ ?_)
  split_ifs with hok
  · exact hparts dir' (hmiddle.goal hok)
  · exact ⟨hmiddle.left, by simp, fun _ ↦ hmiddle.reason (by simpa using hok)⟩

theorem guards_allOf_nil {reason : Prop} {goal : PoolDir → Prop} (hleft : Left n dir)
    (hgoal : goal dir) :
    PoolGuards n assume (Outcome n reason goal) (allOf []) dir :=
  ⟨hleft, fun _ ↦ hgoal, by simp⟩

theorem removeDevice_guards (htests : TestsHold assume) (h : Managed n s) :
    PoolGuards n assume (Outcome n (Unsure assume) (· = none)) (removeDevice n) (some s) := by
  refine guards_allOf_outcome (· = some s) ?_ ?_
  · refine guards_of_readsOnly readsOnly_cleanupIsSafe fun ok hok ↦
      ⟨left_some.mpr h, fun _ ↦ rfl, fun hrefused ↦ hok.resolve_left ?_⟩
    rw [hrefused, h.finish_cleanupIsSafe]
    exact nofun
  rintro - rfl
  refine guards_allOf_outcome (Disabled n) ?_ fun dir hdisabled ↦ ?_
  · refine guards_op ?_ ?_
    · obtain ⟨hok, h', hdisabled⟩ := h.enabledStore_false .created
      exact ⟨left_some.mpr h', left_some.mpr h', fun _ ↦ ⟨_, rfl, h', hdisabled⟩,
        by simp [PoolOp.kernel, callPool, hok]⟩
    · rintro reply dir' (⟨rfl, rfl⟩ | ⟨error, connectors, heq⟩)
      · exact ⟨left_some.mpr h, fun hunsure ↦ ⟨left_some.mpr h, by simp, fun _ ↦ hunsure⟩⟩
      · obtain ⟨hok, h', hdisabled⟩ := h.enabledStore_false (.failed error connectors)
        rw [callPool, hok] at heq
        cases heq
        exact ⟨left_some.mpr h', fun _ ↦
          ⟨left_some.mpr h', fun _ ↦ ⟨_, rfl, h', hdisabled⟩, by simp⟩⟩
  refine guards_allOf_outcome _ (removeLinks_guards htests hdisabled) fun dir hunlinked ↦ ?_
  refine guards_allOf_outcome _ (removeItems_guards htests hunlinked) ?_
  rintro - ⟨s', rfl, h', hempty⟩
  refine guards_allOf_outcome (· = none) ?_ ?_
  · refine guards_op_of_fails ?_ (left_some.mpr h') ?_
    · rintro reply dir' ⟨rfl, rfl⟩
      exact ⟨rfl, fun hunsure ↦ ⟨left_some.mpr h', nofun, fun _ ↦ hunsure⟩⟩
    · have hkernel : PoolOp.removeDevice.kernel (some s') = (true, none) :=
        if_pos (by simp [hempty])
      rw [hkernel]
      exact ⟨left_none, left_none, fun _ ↦ rfl, by simp⟩
  rintro - rfl
  refine guards_allOf_outcome _ (clearConnectorLeases_guards _ left_none rfl) ?_
  rintro - rfl
  exact guards_allOf_nil left_none rfl

/-- Taking the pool down leaves no device, unless something goes wrong. -/
theorem removePool_guards (htests : TestsHold assume) (hleft : Left n dir) :
    PoolGuards n assume (Outcome n (Unsure assume) (· = none)) (removePool n) dir := by
  refine guards_bind.mpr (guards_test htests rfl ?_)
  cases dir with
  | none => exact clearConnectorLeases_guards _ left_none rfl
  | some s => exact removeDevice_guards htests (left_some.mp hleft)

end

/-! ## Putting a device together -/

section

variable {assume : Event PoolOp.Reply PoolDir → Prop} {dir : PoolDir}

/-- The device is there. -/
def Present (n : Nat) (dir : PoolDir) : Prop := ∃ s, dir = some s ∧ Managed n s

/-- All items are there, so that they can be linked. -/
def Furnished (n : Nat) (dir : PoolDir) : Prop :=
  ∃ s, dir = some s ∧ Managed n s ∧ Full n s.config

/-- The device is there and up. -/
def Ready (n : Nat) (dir : PoolDir) : Prop := ∃ s, dir = some s ∧ Managed n s ∧ s.enabled = true

/-- The item is there. -/
def ItemThere (b : ItemKind × Nat) (dir : PoolDir) : Prop := ∀ s ∈ dir, b.2 ∈ s.config.items b.1

theorem itemThere_of_subset {s' : VkmsConfigfsDevice Nat}
    (h : ∀ kind, s.config.items kind ⊆ s'.config.items kind) (b : ItemKind × Nat)
    (hb : ItemThere b (some s)) : ItemThere b (some s') := by
  rintro _ ⟨⟩
  exact h b.1 (hb s rfl)

/-- What is written to an item leaves all items there. -/
theorem initializeItem_establishes (kind : ItemKind) (index : Nat) :
    Establishes PoolOp.Step assume (Kept n) (Present n) ItemThere True (fun _ ↦ False)
      (allOf (initializeItem kind index)) := by
  rintro - ⟨s, rfl, h⟩
  have hdone : ∀ {s' : VkmsConfigfsDevice Nat} {ok : Bool}, Managed n s' →
      (∀ kind, s'.config.items kind = s.config.items kind) →
        Present n (some s') ∧ (∀ b, ItemThere b (some s) → ItemThere b (some s')) ∧
          (ok = true → ∀ b : ItemKind × Nat, False → ItemThere b (some s')) ∧ (ok = false → True) :=
    fun h' hitems ↦ ⟨⟨_, rfl, h'⟩, itemThere_of_subset fun kind _ hi ↦ (hitems kind).symm ▸ hi,
      fun _ _ ↦ False.elim, fun _ ↦ trivial⟩
  cases kind with
  | plane =>
    obtain ⟨h', hitems⟩ := h.typeStore index 1
    refine guards_allOf_singleton (guards_op_of_fails ?_ (left_some.mpr h)
      ⟨left_some.mpr h', hdone h' hitems⟩)
    rintro reply dir' ⟨rfl, rfl⟩
    exact ⟨rfl, fun _ ↦ hdone h fun _ ↦ rfl⟩
  | crtc =>
    obtain ⟨h', hitems⟩ := h.writebackStore index false
    refine guards_allOf_singleton (guards_op_of_fails ?_ (left_some.mpr h)
      ⟨left_some.mpr h', hdone h' hitems⟩)
    rintro reply dir' ⟨rfl, rfl⟩
    exact ⟨rfl, fun _ ↦ hdone h fun _ ↦ rfl⟩
  | encoder => exact hdone h fun _ ↦ rfl
  | connector =>
    obtain ⟨h', hitems⟩ := h.statusStore index (.inr rfl)
    refine guards_allOf_singleton (guards_op_of_fails ?_ (left_some.mpr h)
      ⟨left_some.mpr h', hdone h' hitems⟩)
    rintro reply dir' ⟨rfl, rfl⟩
    exact ⟨rfl, fun _ ↦ hdone h fun _ ↦ rfl⟩

variable (assume) in
theorem createItem_establishes (kind : ItemKind) {index : Nat} (hindex : index < n) :
    Establishes PoolOp.Step assume (Kept n) (Present n) ItemThere True (· = (kind, index))
      (createItem kind index) := by
  rintro - ⟨s, rfl, h⟩
  obtain ⟨h', hkept, hmade⟩ := h.make kind hindex
  refine guards_allOf_cons (guards_op_of_fails ?_ (left_some.mpr h) ⟨left_some.mpr h', ?_⟩)
  · rintro reply dir' ⟨rfl, rfl⟩
    exact ⟨rfl, fun _ ↦ ⟨⟨s, rfl, h⟩, fun _ ↦ id, by simp, fun _ ↦ trivial⟩⟩
  · split_ifs with hok
    · refine (initializeItem_establishes kind index _ ⟨_, rfl, h'⟩).mono
        fun ok dir' ⟨hpresent, hkept', _, _⟩ ↦
          ⟨hpresent, fun b hb ↦ hkept' b (itemThere_of_subset hkept b hb), fun _ b hb ↦ ?_,
            fun _ ↦ trivial⟩
      refine hkept' b ?_
      subst hb
      rintro _ ⟨⟩
      exact hmade (by simpa [PoolOp.kernel, callPool] using hok)
    · exact ⟨⟨_, rfl, h'⟩, itemThere_of_subset hkept, by simp, fun _ ↦ trivial⟩

theorem createPipelineItems_guards (h : Present n dir) :
    PoolGuards n assume (Outcome n True (Furnished n)) (createPipelineItems n) dir := by
  have hitems := establishes_allOf fun kind (_ : kind ∈ itemKinds) ↦
    establishes_allOf fun index (hindex : index ∈ List.range n) ↦
      createItem_establishes assume kind (List.mem_range.mp hindex)
  refine (hitems dir h).mono ?_
  rintro ok - ⟨⟨s, rfl, h'⟩, -, hthere, -⟩
  exact ⟨left_some.mpr h', fun hok ↦ ⟨s, rfl, h', fun kind i hi ↦
    hthere hok (kind, i) ⟨kind, mem_itemKinds kind, i, List.mem_range.mpr hi, rfl⟩ s rfl⟩,
    fun _ ↦ trivial⟩

theorem createPipelineLinks_guards (h : Furnished n dir) :
    PoolGuards n assume (Outcome n True (Furnished n)) (createPipelineLinks n) dir := by
  have hlink : ∀ index kind, Establishes PoolOp.Step assume (Kept n) (Furnished n) ItemThere True
      (fun _ ↦ False) (perform (.makeLink kind index)) := by
    rintro index kind - ⟨s, rfl, h, hfull⟩
    obtain ⟨h', hitems⟩ := h.allowLink hfull kind index
    refine guards_op_of_fails ?_ (left_some.mpr h) ⟨left_some.mpr h', ?_⟩
    · rintro reply dir' ⟨rfl, rfl⟩
      exact ⟨rfl, fun _ ↦ ⟨⟨s, rfl, h, hfull⟩, fun _ ↦ id, by simp, fun _ ↦ trivial⟩⟩
    · exact ⟨⟨_, rfl, h', fun kind i hi ↦ hitems kind ▸ hfull kind i hi⟩,
        itemThere_of_subset fun kind _ hi ↦ (hitems kind).symm ▸ hi, by simp, fun _ ↦ trivial⟩
  have hlinks := establishes_allOf fun index (_ : index ∈ List.range n) ↦
    establishes_allOf fun kind (_ : kind ∈ linkKinds) ↦ hlink index kind
  refine (hlinks dir h).mono ?_
  rintro ok - ⟨⟨s, rfl, h', hfull⟩, -, -, -⟩
  exact ⟨left_some.mpr h', fun _ ↦ ⟨s, rfl, h', hfull⟩, fun _ ↦ trivial⟩

theorem enable_guards (h : Managed n s) (hwhole : Whole n s.config) :
    PoolGuards n assume (Outcome n True (Ready n)) (perform (.writeEnabled true)) (some s) := by
  refine guards_op ?_ ?_
  · obtain ⟨h', henabled⟩ := h.enabledStore_true hwhole .created
    exact ⟨left_some.mpr h', left_some.mpr h', fun hok ↦
      ⟨_, rfl, h', henabled (by simpa [PoolOp.kernel, callPool] using hok)⟩, fun _ ↦ trivial⟩
  · rintro reply dir' (⟨rfl, rfl⟩ | ⟨error, connectors, heq⟩)
    · exact ⟨left_some.mpr h, fun _ ↦ ⟨left_some.mpr h, by simp, fun _ ↦ trivial⟩⟩
    · obtain ⟨h', henabled⟩ := h.enabledStore_true hwhole (.failed error connectors)
      cases heq
      exact ⟨left_some.mpr h', fun _ ↦ ⟨left_some.mpr h', fun hok ↦
        ⟨_, rfl, h', henabled (by simpa using hok)⟩, fun _ ↦ trivial⟩⟩

theorem managed_empty : Managed n {} where
  sound := VkmsConfigfsDevice.sound_empty
  items kind := by cases kind <;> simp [VkmsConfig.items]
  links link i := by cases link <;> simp [VkmsConfig.links, VkmsConfig.items, LinkKind.source]
  full link i := by cases link <;> simp [VkmsConfig.links, VkmsConfig.items, LinkKind.source]
  status := by simp
  whole := by simp

theorem buildNewPool_guards :
    PoolGuards n assume (Outcome n True (Ready n)) (buildNewPool n) none := by
  refine guards_allOf_outcome (Present n) ?_ ?_
  · refine guards_op_of_fails ?_ left_none ⟨left_some.mpr managed_empty,
      left_some.mpr managed_empty, fun _ ↦ ⟨_, rfl, managed_empty⟩, fun _ ↦ trivial⟩
    rintro reply dir' ⟨rfl, rfl⟩
    exact ⟨rfl, fun _ ↦ ⟨left_none, nofun, fun _ ↦ trivial⟩⟩
  rintro - ⟨s, rfl, h⟩
  refine guards_allOf_outcome (Present n) ?_ fun dir hpresent ↦ ?_
  · exact guards_of_readsOnly (readsOnly_perform.mpr rfl) fun _ _ ↦
      ⟨left_some.mpr h, fun _ ↦ ⟨s, rfl, h⟩, fun _ ↦ trivial⟩
  refine guards_allOf_outcome _ (createPipelineItems_guards hpresent) fun dir hfurnished ↦ ?_
  refine guards_allOf_outcome _ (createPipelineLinks_guards hfurnished) ?_
  rintro - ⟨s, rfl, h, -⟩
  refine guards_allOf_outcome (fun dir ↦ dir = some s ∧ Whole n s.config) ?_ ?_
  · exact h.validateTopology_verifies_self.mono fun ok dir hverified ↦
      ⟨hverified.1 ▸ left_some.mpr h, fun hok ↦ ⟨hverified.1, hverified.2 hok⟩, fun _ ↦ trivial⟩
  rintro - ⟨rfl, hwhole⟩
  refine guards_allOf_outcome _ (enable_guards h hwhole) ?_
  rintro - ⟨s, rfl, h, henabled⟩
  refine guards_allOf_outcome (Ready n) ?_ ?_
  · exact guards_of_readsOnly (readsOnly_perform.mpr rfl) fun _ _ ↦
      ⟨left_some.mpr h, fun _ ↦ ⟨s, rfl, h, henabled⟩, fun _ ↦ trivial⟩
  rintro - ⟨s, rfl, h, henabled⟩
  exact guards_allOf_nil (left_some.mpr h) ⟨s, rfl, h, henabled⟩

/-- What is left of a device that could not be put together is taken apart again. -/
theorem createNewPool_guards (htests : TestsHold assume) :
    PoolGuards n assume (Outcome n True (Ready n)) (createNewPool n) none := by
  have hfailed : ∀ {dir}, Left n dir → Outcome n True (Ready n) false dir :=
    fun hleft ↦ ⟨hleft, by simp, fun _ ↦ trivial⟩
  refine guards_bind.mpr ((clearConnectorLeases_guards (· = none) left_none rfl).mono
    fun ok dir hcleared ↦ ?_)
  split_ifs with hok
  · obtain rfl := hcleared.goal hok
    refine guards_bind.mpr (buildNewPool_guards.mono fun built dir hbuilt ↦ ?_)
    split_ifs with hdone
    · exact ⟨hbuilt.left, fun _ ↦ hbuilt.goal hdone, fun _ ↦ trivial⟩
    · exact guards_bind.mpr ((removePool_guards htests hbuilt.left).mono fun _ _ hremoved ↦
        hfailed hremoved.left)
  · exact hfailed hcleared.left

theorem rebuildPool_guards (htests : TestsHold assume) (hleft : Left n dir) :
    PoolGuards n assume (Outcome n True (Ready n)) (rebuildPool n) dir := by
  refine guards_bind.mpr ((removePool_guards htests hleft).mono fun ok dir hremoved ↦ ?_)
  split_ifs with hok
  · obtain rfl := hremoved.goal hok
    exact createNewPool_guards htests
  · exact ⟨hremoved.left, nofun, fun _ ↦ trivial⟩

/-- A start either fails or leaves a device that is enabled. -/
theorem createPool_guards (htests : TestsHold assume) (hn : 4 < n) (hleft : Left n dir) :
    PoolGuards n assume (Outcome n True (Ready n)) (createPool n) dir := by
  refine guards_bind.mpr (guards_test htests rfl ?_)
  cases dir with
  | none => exact createNewPool_guards htests
  | some s =>
    have h := left_some.mp hleft
    refine guards_bind.mpr ((h.validateExistingTopology_verifies htests hn).mono
      fun valid dir hverified ↦ ?_)
    obtain ⟨rfl, hwhole⟩ := hverified
    split_ifs with hvalid
    · refine guards_bind.mpr (guards_read rfl ?_ (rebuildPool_guards htests hleft))
      show PoolGuards n assume _ (match some s.enabled with
        | some true => pure true
        | some false => perform (.writeEnabled true)
        | none => rebuildPool n) (some s)
      cases henabled : s.enabled with
      | true => exact ⟨hleft, fun _ ↦ ⟨s, rfl, h, henabled⟩, fun _ ↦ trivial⟩
      | false => exact enable_guards h (hwhole hvalid)
    · exact rebuildPool_guards htests hleft

/-- Whatever is done to the pool, the service leaves it so that it can be put right. -/
theorem command_guards (htests : TestsHold assume) (hn : 4 < n) (command : Command)
    (hleft : Left n dir) :
    PoolGuards n assume (fun _ dir' ↦ Left n dir') (command.script n) dir := by
  cases command with
  | start => exact (createPool_guards htests hn hleft).mono fun _ _ ↦ Outcome.left
  | stop =>
    have hremove : PoolGuards n assume (fun _ dir' ↦ Left n dir') (removePool n) dir :=
      (removePool_guards htests hleft).mono fun _ _ ↦ Outcome.left
    refine guards_bind.mpr (guards_op ⟨hleft, hremove⟩ ?_)
    rintro stopping dir' rfl
    refine ⟨hleft, fun _ ↦ ?_⟩
    split_ifs
    · exact hleft
    · exact hremove
  | restart =>
    refine guards_bind.mpr ((removePool_guards htests hleft).mono fun ok dir' hremoved ↦ ?_)
    split_ifs
    · exact (createPool_guards htests hn hremoved.left).mono fun _ _ ↦ Outcome.left
    · exact hremoved.left
  | request index connected =>
    refine guards_op_of_fails ?_ hleft ?_
    · rintro reply dir' ⟨rfl, rfl⟩
      exact ⟨rfl, fun _ ↦ hleft⟩
    · have hkept : Left n
          ((PoolOp.writeStatus index (if connected then 1 else 2)).kernel dir).2 := by
        cases dir with
        | none => exact left_none
        | some s =>
          refine left_some.mpr ((left_some.mp hleft).statusStore index ?_).1
          cases connected <;> simp
      exact ⟨hkept, hkept⟩

end

/-! ## Starts and stops that nothing goes wrong with -/

section

variable {dir : PoolDir}

theorem undisturbed_kernel (op : PoolOp) (dir : PoolDir) :
    op.Step dir (op.kernel dir).1 (op.kernel dir).2 ∧
      Undisturbed ⟨op, (op.kernel dir).1, dir, (op.kernel dir).2⟩ :=
  ⟨.inl rfl, rfl⟩

theorem testsHold_undisturbed : TestsHold Undisturbed := fun _ hevent _ ↦ hevent

theorem finish_removePool (hleft : Left n dir) :
    (removePool n).finish PoolOp.kernel dir = (true, none) := by
  have hguards : PoolGuards n Undisturbed (Outcome n (Unsure Undisturbed) (· = none))
      (removePool n) dir := removePool_guards testsHold_undisturbed hleft
  have houtcome := hguards.finish undisturbed_kernel
  have hok : ((removePool n).finish PoolOp.kernel dir).1 = true := by
    by_contra hfailed
    exact houtcome.reason (by simpa using hfailed) fun _ ↦ id
  exact Prod.ext hok (houtcome.goal hok)

theorem finish_createNewPool :
    ((createNewPool vkmsOutputCount).finish PoolOp.kernel none).1 = true := by
  decide +kernel

theorem enable_isNone (h : Managed n s) (hwhole : Whole n s.config) (hn : 0 < n ∧ n < 32) :
    (s.call (.deviceEnabledStore true .created)).1.isNone = true := by
  rw [VkmsConfigfsDevice.call, VkmsConfigfsDevice.deviceEnabledStore, h.isValid hwhole hn]
  cases henabled : s.enabled <;> rfl

theorem finish_rebuildPool (hleft : Left vkmsOutputCount dir) :
    ((rebuildPool vkmsOutputCount).finish PoolOp.kernel dir).1 = true := by
  have hrebuild : (rebuildPool vkmsOutputCount).finish PoolOp.kernel dir = _ := finish_bind dir
  rw [hrebuild, finish_removePool hleft]
  exact finish_createNewPool

theorem finish_createPool (hleft : Left vkmsOutputCount dir) :
    ((createPool vkmsOutputCount).finish PoolOp.kernel dir).1 = true := by
  have hstart : (createPool vkmsOutputCount).finish PoolOp.kernel dir = _ := finish_bind dir
  rw [hstart]
  cases dir with
  | none => exact finish_createNewPool
  | some s =>
    have h := left_some.mp hleft
    have hread : ∀ op : PoolOp, op.isRead = true → ∀ dir, (op.kernel dir).2 = dir :=
      fun _ hread dir ↦ kernel_of_isRead hread dir
    show ((validateExistingTopology vkmsOutputCount >>= _).finish PoolOp.kernel (some s)).1 = true
    rw [ReadsOnly.finish_bind hread readsOnly_validateExistingTopology]
    split_ifs with hvalid
    · have hwhole := (h.finish_validateExistingTopology (by decide)).mp hvalid
      rw [ReadsOnly.finish_bind hread (readsOnly_perform.mpr rfl)]
      show ((match some s.enabled with
        | some true => pure true
        | some false => perform (.writeEnabled true)
        | none => rebuildPool vkmsOutputCount : PoolScript Bool).finish PoolOp.kernel (some s)).1 =
          true
      cases s.enabled with
      | true => rfl
      | false => exact enable_isNone h hwhole (by decide)
    · exact finish_rebuildPool hleft

/-- A start only looks at a device that is enabled, if it can read what it looks at. -/
theorem createPool_retains (h : Managed n s) (henabled : s.enabled = true) (hn : 4 < n)
    {events : List (Event PoolOp.Reply PoolDir)}
    (hruns : Runs PoolOp.Step (createPool n) (some s) events dir)
    (hreads : ∀ event ∈ events, event.op.isRead = true → Undisturbed event) : dir = some s := by
  have hread : ∀ op : PoolOp, op.isRead = true → ∀ dir, (op.kernel dir).2 = dir :=
    fun _ hread dir ↦ kernel_of_isRead hread dir
  have hanswer : ∀ op : PoolOp, op.isRead = true → ∀ dir reply dir', op.Step dir reply dir' →
      (op.isRead = true → Undisturbed ⟨op, reply, dir, dir'⟩) →
        dir' = dir ∧ (reply = (op.kernel dir).1 ∨ False) := by
    intro op hop dir reply dir' hstep hundisturbed
    obtain ⟨hdir, hreply⟩ := step_of_isRead hop hstep
    exact ⟨hdir, .inl (hreply.resolve_right fun hwrong ↦ hwrong (hundisturbed hop)).symm⟩
  have hcheck : ∀ {α : Type} {script : PoolScript α} {post : α → PoolDir → Prop},
      ReadsOnly PoolOp.isRead script → post (script.finish PoolOp.kernel (some s)).1 (some s) →
      Guards PoolOp.Step (fun event ↦ event.op.isRead = true → Undisturbed event)
        (fun event ↦ event.after = event.before) post script (some s) := by
    intro α script post hscript hpost
    refine (hscript.guards hread hanswer fun _ _ ↦ rfl).mono ?_
    rintro result - ⟨rfl, hresult⟩
    exact hresult.resolve_right id ▸ hpost
  have hguards : Guards PoolOp.Step (fun event ↦ event.op.isRead = true → Undisturbed event)
      (fun event ↦ event.after = event.before) (fun _ _ ↦ True) (createPool n) (some s) := by
    refine guards_bind.mpr (hcheck (readsOnly_perform.mpr rfl) ?_)
    refine guards_bind.mpr (hcheck readsOnly_validateExistingTopology ?_)
    rw [if_pos ((h.finish_validateExistingTopology hn).mpr (h.whole henabled))]
    refine guards_bind.mpr (hcheck (readsOnly_perform.mpr rfl) ?_)
    have hready : ((perform .enabledValue).finish PoolOp.kernel (some s)).1 = some true :=
      congrArg some henabled
    rw [hready]
    trivial
  have hkept := hruns.guarded hguards hreads
  exact @Linked.invariant _ _ _ (· = some s) _ _ _ hruns.linked rfl fun event hevent hbefore ↦
    (hkept event hevent).trans hbefore

end

/-- The device is enabled and has all the outputs of the pool. -/
structure Up (n : Nat) (s : VkmsConfigfsDevice Nat) : Prop where
  enabled : s.enabled = true
  whole : Whole n s.config
  outputs : ∃ dev ∈ s.dev, dev.outputs.Complete ∧ ∀ i < n, ∃ place object,
    (s.config.connector i).connector = some (dev.number, place) ∧
      dev.outputs.connectors[place]? = some object ∧
      object.status = (s.config.connector i).status
  distinct : ∀ i < n, ∀ j < n, (s.config.connector i).connector = (s.config.connector j).connector →
    i = j

theorem Managed.up (h : Managed n s) (henabled : s.enabled = true) : Up n s := by
  have hdev := h.sound.enabled
  rw [henabled] at hdev
  obtain ⟨dev, hdev⟩ := Option.isSome_iff_exists.mp hdev.symm
  obtain ⟨made, hmade⟩ := h.sound.made dev hdev
  have hfull := (h.whole henabled).full .connector
  refine ⟨henabled, h.whole henabled, ⟨dev, hdev, hmade.complete, fun i hi ↦ ?_⟩,
    fun i hi j hj hsame ↦ ?_⟩
  · obtain ⟨hrefers, object, hobject, hstatus, -⟩ := hmade.connectorObject (hfull i hi)
    exact ⟨_, object, hrefers, hobject, hstatus⟩
  · have hi' := (hmade.connectorObject (hfull i hi)).1
    have hj' := (hmade.connectorObject (hfull j hj)).1
    rw [hsame, hj'] at hi'
    have hplace := (Prod.mk.inj (Option.some.inj hi')).2
    exact (List.idxOf_inj (hmade.remains.connectors.subset (hfull i hi))).mp hplace.symm

end Pool

open Pool

/-- **Recovery of the pool.**  Whatever has been done to the pool, and wherever it failed or was
killed: a device that is enabled has all the outputs, and a start that can read what it looks at
does not touch it; a start that nothing goes wrong with leaves such a device, and a removal that
nothing goes wrong with leaves none.  Only tests for whether something exists are relied upon. -/
theorem pool_recovers {sessions : List (Command × Event PoolOp.Reply PoolDir)} {dir : PoolDir}
    (h : Sessions PoolOp.Step (Command.script vkmsOutputCount) none sessions dir)
    (htests : ∀ session ∈ sessions, session.2.op.isTest = true → Undisturbed session.2) :
    (∀ s ∈ dir, s.enabled = true → Up vkmsOutputCount s ∧
      ∀ events dir', Runs PoolOp.Step (createPool vkmsOutputCount) dir events dir' →
        (∀ event ∈ events, event.op.isRead = true → Undisturbed event) → dir' = dir) ∧
    (∃ s, (createPool vkmsOutputCount).finish PoolOp.kernel dir = (true, some s) ∧
      Up vkmsOutputCount s) ∧
    (removePool vkmsOutputCount).finish PoolOp.kernel dir = (true, none) := by
  have hn : 4 < vkmsOutputCount := by decide
  have hguards : ∀ (command : Command) dir, Left vkmsOutputCount dir →
      PoolGuards vkmsOutputCount (fun event ↦ event.op.isTest = true → Undisturbed event)
        (fun _ dir' ↦ Left vkmsOutputCount dir') (command.script vkmsOutputCount) dir :=
    fun command _ ↦ command_guards (fun _ ↦ id) hn command
  have hleft : Left vkmsOutputCount dir :=
    (h.guarded hguards (fun _ _ hkept ↦ hkept) left_none htests).2
  refine ⟨fun s hs henabled ↦ ?_, ?_, finish_removePool hleft⟩
  · obtain rfl : dir = some s := hs
    have hmanaged := left_some.mp hleft
    exact ⟨hmanaged.up henabled, fun _ _ hruns hreads ↦
      createPool_retains hmanaged henabled hn hruns hreads⟩
  · have hstart : PoolGuards vkmsOutputCount Undisturbed
        (Outcome vkmsOutputCount True (Ready vkmsOutputCount)) (createPool vkmsOutputCount) dir :=
      createPool_guards testsHold_undisturbed hn hleft
    have houtcome := hstart.finish undisturbed_kernel
    have hok := finish_createPool hleft
    obtain ⟨s, hs, hmanaged, henabled⟩ := houtcome.goal hok
    exact ⟨s, Prod.ext hok hs, hmanaged.up henabled⟩

/-- A start that is killed while it makes the connectors. -/
theorem pool_recovers_killed :
    let dir := (execute PoolOp.kernel 50 (createPool vkmsOutputCount) none).2
    (dir.any fun s ↦ s.config.connectors.length = 3) = true ∧
      ∃ s, (createPool vkmsOutputCount).finish PoolOp.kernel dir = (true, some s) ∧
        Up vkmsOutputCount s :=
  ⟨by decide +kernel, (pool_recovers (Sessions.session (i := .start) .nil
    (runs_execute (fun _ _ ↦ .inl rfl) 50 (createPool vkmsOutputCount) none))
    fun session hsession _ ↦ by
      obtain ⟨event, hevent, rfl⟩ := List.mem_map.mp hsession
      exact answered_of_mem_execute hevent).2.1⟩

end VirtualDisplay
