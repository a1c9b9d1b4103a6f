import VirtualDisplay.Vkms.Broker

/-!
# Who owns a connector

The lease file says whose a connector is, and its status whether it is connected.  `connect` writes
the lease first and `disconnect` the status, so a request that is killed leaves at worst a lease
without a connection behind.

* `readConnectorLease_guards`, `releaseConnectorLease_guards`, `writeConnectorLease_guards`,
  `updateStatus_guards` — what the parts of a request do, whatever fails.
* `RequestEvent` — what each event of a request keeps to.
* `connectorRequests_ownership` — what holds over any sequence of requests.

Reading a lease can fail.  A request of another user is then refused, but a request of root discards
what it cannot read, and a connector that is connected may lose its owner that way (`LosesOwner`,
`connectorRequests_unowned`).  The assumption that this does not happen is on the events of a run,
and everything else is shown without it.

Each request holds the lock of its connector, so the requests of one connector come one at a time;
what is killed leaves its files as they are, and its lock is free again.
-/

set_option autoImplicit false

namespace VirtualDisplay

open Script

/-- An operation of a script with the files before and after it. -/
abbrev FileEvent := Script.Event FileOp.Reply ConnectorFiles

/-- A guarantee that only the status, the lease and the requested mode matter for. -/
def LeavesAlone (guarantee : FileEvent → Prop) : Prop :=
  ∀ event : FileEvent, (∀ text, event.op ≠ .writeMode text) →
    event.after.status = event.before.status → event.after.lease = event.before.lease →
    guarantee event

section

variable {assume guarantee : FileEvent → Prop} (hquiet : LeavesAlone guarantee)
  {w : ConnectorFiles}

/-! ## The parts of a request -/

include hquiet

/-- An operation that changes nothing. -/
theorem perform_guards {op : FileOp} {post : op.Reply → ConnectorFiles → Prop}
    (hsame : ∀ reply w', FileOp.Step op w reply w' → w' = w) (hop : ∀ text, op ≠ .writeMode text)
    (hpost : ∀ reply, FileOp.Step op w reply w → post reply w) :
    Guards FileOp.Step assume guarantee post (perform op) w := by
  intro reply w' hstep _
  have hw := hsame reply w' hstep
  subst hw
  exact ⟨hquiet _ hop rfl rfl, hpost reply hstep⟩

theorem testLease_guards {test : FileTest} {post : Bool → ConnectorFiles → Prop}
    (hpost : ∀ answer, post answer w) :
    Guards FileOp.Step assume guarantee post (perform (.testLease test)) w :=
  perform_guards hquiet (fun answer w' hstep ↦ by cases test <;> exact hstep.1) (fun _ ↦ nofun)
    fun answer _ ↦ hpost answer

theorem error_guards {error : LeaseError} {post : Unit → ConnectorFiles → Prop}
    (hpost : assume ⟨.error error, (), w, w⟩ → post () w) :
    Guards FileOp.Step assume guarantee post (perform (.error error)) w := by
  intro _ w' hstep hassume
  cases hstep
  exact ⟨hquiet _ (fun _ ↦ nofun) rfl rfl, hpost hassume⟩

theorem leaseIsThere_guards {post : Bool → ConnectorFiles → Prop}
    (hpost : ∀ answer, post answer w) :
    Guards FileOp.Step assume guarantee post leaseIsThere w := by
  refine guards_bind.mpr (testLease_guards hquiet fun answer ↦ ?_)
  cases answer
  · exact testLease_guards hquiet hpost
  · exact hpost true

theorem leaseIsUnsafe_guards {post : Bool → ConnectorFiles → Prop}
    (hpost : ∀ answer, post answer w) :
    Guards FileOp.Step assume guarantee post leaseIsUnsafe w := by
  refine guards_bind.mpr (testLease_guards hquiet fun answer ↦ ?_)
  cases answer
  · exact hpost true
  · exact testLease_guards hquiet hpost

theorem readConnectorLease_guards {post : Option String → ConnectorFiles → Prop}
    (hnone : post (some "") w)
    (hread : ∀ uid, w.lease = some uid → isUidText uid → post (some uid) w)
    (hfail : ∀ error, error = .notRegular ∨ error = .invalidUid →
      assume ⟨.error error, (), w, w⟩ → post none w) :
    Guards FileOp.Step assume guarantee post readConnectorLease w := by
  refine guards_bind.mpr (leaseIsThere_guards hquiet fun isThere ↦ ?_)
  cases isThere
  · exact hnone
  refine guards_bind.mpr (leaseIsUnsafe_guards hquiet fun isUnsafe ↦ ?_)
  cases isUnsafe
  · refine guards_bind.mpr ?_
    rintro text w' ⟨rfl, htext⟩ -
    refine ⟨hquiet _ (fun _ ↦ nofun) rfl rfl, ?_⟩
    rw [guards_done]
    by_cases huid : isUidText text
    · rw [if_pos huid]
      obtain hlease | rfl := htext
      · exact hread text hlease huid
      · exact absurd huid (by decide)
    · rw [if_neg huid]
      exact guards_bind.mpr (error_guards hquiet (hfail _ (.inr rfl)))
  · exact guards_bind.mpr (error_guards hquiet (hfail _ (.inl rfl)))

theorem releaseConnectorLease_guards {post : Bool → ConnectorFiles → Prop}
    (hremove : ∀ ok, guarantee ⟨.removeLease, ok, w, { w with lease := none }⟩)
    (hpost : ∀ ok w', w'.status = w.status → post ok w') :
    Guards FileOp.Step assume guarantee post releaseConnectorLease w := by
  refine guards_bind.mpr (leaseIsThere_guards hquiet fun isThere ↦ ?_)
  cases isThere
  · exact hpost true w rfl
  refine guards_bind.mpr (leaseIsUnsafe_guards hquiet fun isUnsafe ↦ ?_)
  cases isUnsafe
  · refine guards_bind.mpr ?_
    rintro ok w' hstep -
    have hstatus : guarantee ⟨.removeLease, ok, w, w'⟩ ∧ w'.status = w.status := by
      obtain rfl | ⟨rfl, -⟩ := hstep
      · exact ⟨hremove ok, rfl⟩
      · exact ⟨hquiet _ (fun _ ↦ nofun) rfl rfl, rfl⟩
    refine ⟨hstatus.1, ?_⟩
    cases ok
    · exact guards_bind.mpr (error_guards hquiet fun _ ↦ hpost false w' hstatus.2)
    · exact hpost true w' hstatus.2
  · exact guards_bind.mpr (error_guards hquiet fun _ ↦ hpost false w rfl)

theorem leasePathIsUnsafe_guards {post : Bool → ConnectorFiles → Prop}
    (hpost : ∀ answer, post answer w) :
    Guards FileOp.Step assume guarantee post leasePathIsUnsafe w := by
  refine guards_bind.mpr (testLease_guards hquiet fun isSymlink ↦ ?_)
  cases isSymlink
  · refine guards_bind.mpr (testLease_guards hquiet fun isThere ↦ ?_)
    cases isThere
    · exact hpost false
    · exact guards_bind.mpr (testLease_guards hquiet fun isRegular ↦ hpost (!isRegular))
  · exact hpost true

theorem persistLease_guards {ownerUid : Uid} {post : Bool → ConnectorFiles → Prop}
    (hmove : ∀ ok w₁, w₁.status = w.status → w₁.lease = w.lease →
      guarantee ⟨.moveTemporary, ok, w₁,
        { w₁ with lease := some ownerUid.text, temporary := none }⟩)
    (hpost : ∀ ok w', w'.status = w.status → (ok = true → w'.lease = some ownerUid.text) →
      post ok w') :
    Guards FileOp.Step assume guarantee post (persistLease ownerUid) w := by
  refine guards_bind.mpr ?_
  rintro written w₁ ⟨text, rfl, htext⟩ -
  refine ⟨hquiet _ (fun _ ↦ nofun) rfl rfl, ?_⟩
  cases written
  · exact hpost false _ rfl nofun
  refine guards_bind.mpr ?_
  rintro secured w₂ hstep -
  cases hstep
  refine ⟨hquiet _ (fun _ ↦ nofun) rfl rfl, ?_⟩
  cases secured
  · exact hpost false _ rfl nofun
  rintro moved w₃ hstep -
  obtain ⟨stored, hstored, rfl⟩ | ⟨rfl, rfl⟩ := hstep
  · -- What is moved is what was written.
    obtain rfl : ownerUid.text = stored := by
      rw [htext rfl] at hstored
      exact Option.some.inj hstored
    exact ⟨hmove moved _ rfl rfl, hpost moved _ rfl fun _ ↦ rfl⟩
  · exact ⟨hquiet _ (fun _ ↦ nofun) rfl rfl, hpost false _ rfl nofun⟩

theorem writeConnectorLease_guards {ownerUid : Uid} {post : Bool → ConnectorFiles → Prop}
    (hmove : ∀ ok w₁, w₁.status = w.status → w₁.lease = w.lease →
      guarantee ⟨.moveTemporary, ok, w₁,
        { w₁ with lease := some ownerUid.text, temporary := none }⟩)
    (hpost : ∀ ok w', w'.status = w.status → (ok = true → w'.lease = some ownerUid.text) →
      post ok w') :
    Guards FileOp.Step assume guarantee post (writeConnectorLease ownerUid) w := by
  refine guards_bind.mpr (leasePathIsUnsafe_guards hquiet fun isUnsafe ↦ ?_)
  cases isUnsafe
  · refine guards_bind.mpr (persistLease_guards hquiet hmove fun ok w' hstatus hlease ↦ ?_)
    cases ok
    · refine guards_bind.mpr ?_
      intro _ w'' hstep _
      have hsame : w''.status = w'.status ∧ w''.lease = w'.lease := by
        obtain rfl | rfl := hstep <;> exact ⟨rfl, rfl⟩
      refine ⟨hquiet _ (fun _ ↦ nofun) hsame.1 hsame.2, guards_bind.mpr ?_⟩
      exact error_guards hquiet fun _ ↦ hpost false w'' (hsame.1.trans hstatus) nofun
    · exact hpost true w' hstatus hlease
  · exact guards_bind.mpr (error_guards hquiet fun _ ↦ hpost false w rfl nofun)

/-- The status is as it was or as it was to be, and it is the latter if that is what is replied. -/
theorem updateStatus_guards {value : String} {post : Bool → ConnectorFiles → Prop}
    (hwrite : ∀ ok, guarantee ⟨.writeStatus value, ok, w, { w with status := value }⟩)
    (hdone : ∀ w', w'.status = value → w'.lease = w.lease → post true w')
    (hfailed : ∀ w', w'.lease = w.lease →
      assume ⟨.writeStatus value, false, w, w'⟩ ∨ assume ⟨.statusReadsBack value, false, w', w'⟩ →
      post false w') :
    Guards FileOp.Step assume guarantee post (updateStatus value) w := by
  refine guards_bind.mpr ?_
  intro written w' hstep hassume
  have hw' : guarantee ⟨.writeStatus value, written, w, w'⟩ ∧ w'.lease = w.lease := by
    obtain rfl | rfl := hstep
    · exact ⟨hquiet _ (fun _ ↦ nofun) rfl rfl, rfl⟩
    · exact ⟨hwrite written, rfl⟩
  refine ⟨hw'.1, ?_⟩
  cases written
  · exact hfailed w' hw'.2 (.inl hassume)
  rintro same w'' ⟨rfl, hsame⟩ hassume'
  refine ⟨hquiet _ (fun _ ↦ nofun) rfl rfl, ?_⟩
  cases same
  · exact hfailed w'' hw'.2 (.inr hassume')
  · exact hdone w'' (hsame rfl) hw'.2

end

/-! ## What a request does -/

/-- `readConnectorLease` reports this and yields no owner. -/
def LeaseReadFails (event : FileEvent) : Prop :=
  event.op = .error .notRegular ∨ event.op = .error .invalidUid

/-- A write of the status reports failure, or the status is read back differently. -/
def statusUpdateFails (event : FileEvent) : Bool :=
  match event.op, event.reply with
  | .writeStatus _, ok => !ok
  | .statusReadsBack _, same => !same
  | _, _ => false

/-- The events of a request of this caller, given the failures that are possible. -/
inductive RequestEvent (possible : FileEvent → Prop) (caller : Uid) : FileEvent → Prop where
  | quiet {event : FileEvent} (hop : ∀ text, event.op ≠ .writeMode text)
      (hstatus : event.after.status = event.before.status)
      (hlease : event.after.lease = event.before.lease) : RequestEvent possible caller event
  /-- Root discards a lease that it cannot read. -/
  | discarded {w : ConnectorFiles} {ok : Bool} (hcaller : caller = .root)
      (hfailed : ∃ event, LeaseReadFails event ∧ event.before = w ∧ possible event) :
      RequestEvent possible caller ⟨.removeLease, ok, w, { w with lease := none }⟩
  /-- Root takes over a connected connector without an owner. -/
  | adopted {w : ConnectorFiles} {ok : Bool} (hcaller : caller = .root) :
      RequestEvent possible caller
        ⟨.moveTemporary, ok, w, { w with lease := some Uid.root.text, temporary := none }⟩
  | released {w : ConnectorFiles} {ok : Bool} (hstatus : w.status ≠ kConnectorStatusConnected) :
      RequestEvent possible caller ⟨.removeLease, ok, w, { w with lease := none }⟩
  | leased {w : ConnectorFiles} {ok : Bool} (hstatus : w.status ≠ kConnectorStatusConnected) :
      RequestEvent possible caller
        ⟨.moveTemporary, ok, w, { w with lease := some caller.text, temporary := none }⟩
  | connected {w : ConnectorFiles} {ok : Bool} (hlease : w.lease = some caller.text) :
      RequestEvent possible caller
        ⟨.writeStatus kConnectorStatusConnected, ok, w,
          { w with status := kConnectorStatusConnected }⟩
  /-- `connect` takes its lease back. -/
  | rolledBack {w : ConnectorFiles} {ok : Bool}
      (hfailed : ∃ event, statusUpdateFails event ∧ possible event) :
      RequestEvent possible caller ⟨.removeLease, ok, w, { w with lease := none }⟩
  | disconnected {w : ConnectorFiles} {ok : Bool}
      (howner : caller = .root ∨ w.lease = some caller.text) :
      RequestEvent possible caller
        ⟨.writeStatus kConnectorStatusDisconnected, ok, w,
          { w with status := kConnectorStatusDisconnected }⟩
  | modeWritten {w : ConnectorFiles} {text requestedMode : String} {ok : Bool}
      (hlease : w.lease = some caller.text) :
      RequestEvent possible caller ⟨.writeMode text, ok, w, { w with requestedMode }⟩

section

variable {assume possible : FileEvent → Prop} {caller : Uid} {w : ConnectorFiles}

theorem RequestEvent.leavesAlone : LeavesAlone (RequestEvent possible caller) :=
  fun _ ↦ RequestEvent.quiet

/-- What a request knows of the lease once it has read it. -/
def KnowsOwner (w : ConnectorFiles) (ownerUid : String) : Prop :=
  ownerUid = "" ∨ w.lease = some ownerUid

theorem connectConnector_guards {responseName currentStatus ownerUid : String}
    (hpossible : ∀ event, assume event → possible event) (hstatus : w.status = currentStatus) :
    Guards FileOp.Step assume (RequestEvent possible caller) (fun _ _ ↦ True)
      (connectConnector caller responseName currentStatus ownerUid) w := by
  rw [connectConnector]
  split_ifs with hconnected hnoOwner hnotRoot
  · trivial
  · have hroot : caller = .root := by simpa using hnotRoot
    refine guards_bind.mpr (writeConnectorLease_guards RequestEvent.leavesAlone
      (fun ok w₁ _ _ ↦ .adopted hroot) fun ok w' _ _ ↦ ?_)
    cases ok <;> trivial
  · trivial
  · trivial
  · rw [← hstatus] at hconnected
    refine guards_bind.mpr (releaseConnectorLease_guards RequestEvent.leavesAlone
      (fun ok ↦ .released hconnected) fun ok w₁ hstatus₁ ↦ ?_)
    cases ok
    · trivial
    refine guards_bind.mpr (writeConnectorLease_guards RequestEvent.leavesAlone
      (fun ok w₂ hstatus₂ _ ↦ .leased (by rwa [hstatus₂, hstatus₁])) fun ok w₂ _ hlease ↦ ?_)
    cases ok
    · trivial
    refine guards_bind.mpr (updateStatus_guards RequestEvent.leavesAlone
      (fun ok ↦ .connected (hlease rfl)) (fun _ _ _ ↦ trivial) fun w₃ _ hfailed ↦ ?_)
    have hfails : ∃ event, statusUpdateFails event ∧ possible event := by
      obtain hfailed | hfailed := hfailed
      · exact ⟨_, rfl, hpossible _ hfailed⟩
      · exact ⟨_, rfl, hpossible _ hfailed⟩
    exact guards_bind.mpr (releaseConnectorLease_guards RequestEvent.leavesAlone
      (fun ok ↦ .rolledBack hfails) fun _ _ _ ↦ trivial)

theorem releaseDisconnected_guards {responseName : String}
    (hstatus : w.status ≠ kConnectorStatusConnected) :
    Guards FileOp.Step assume (RequestEvent possible caller) (fun _ _ ↦ True)
      (releaseDisconnected responseName) w := by
  refine guards_bind.mpr (releaseConnectorLease_guards RequestEvent.leavesAlone
    (fun ok ↦ .released hstatus) fun ok w' _ ↦ ?_)
  cases ok <;> trivial

theorem disconnectConnector_guards {responseName currentStatus ownerUid : String}
    (hstatus : w.status = currentStatus) (howner : KnowsOwner w ownerUid) :
    Guards FileOp.Step assume (RequestEvent possible caller) (fun _ _ ↦ True)
      (disconnectConnector caller responseName currentStatus ownerUid) w := by
  rw [disconnectConnector]
  split_ifs with hother hunowned hconnected
  · trivial
  · trivial
  · have hallowed : caller = .root ∨ w.lease = some caller.text := by
      by_cases hroot : caller = .root
      · exact .inl hroot
      · have hsome : ownerUid ≠ "" := fun hnone ↦ hunowned ⟨hnone, hconnected, hroot⟩
        have hsame : caller.text = ownerUid :=
          not_not.mp fun hne ↦ hother ⟨hsome, hroot, hne⟩
        exact .inr (hsame ▸ howner.resolve_left hsome)
    refine guards_bind.mpr (updateStatus_guards RequestEvent.leavesAlone
      (fun ok ↦ .disconnected hallowed) (fun w' hstatus' _ ↦ ?_) fun _ _ _ ↦ trivial)
    exact releaseDisconnected_guards (by rw [hstatus']; decide)
  · exact releaseDisconnected_guards (hstatus ▸ hconnected)

theorem ownerOrDiscard_guards {post : Option String → ConnectorFiles → Prop}
    (hpossible : ∀ event, assume event → possible event)
    (hnone : ∀ w', post none w')
    (hsome : ∀ ownerUid w', w'.status = w.status → KnowsOwner w' ownerUid →
      post (some ownerUid) w') :
    Guards FileOp.Step assume (RequestEvent possible caller) post (ownerOrDiscard caller) w := by
  refine guards_bind.mpr (readConnectorLease_guards RequestEvent.leavesAlone
    (hsome _ _ rfl (.inl rfl)) (fun uid huid _ ↦ hsome _ _ rfl (.inr huid))
    fun error herror hassume ↦ ?_)
  have hfails : ∃ event, LeaseReadFails event ∧ event.before = w ∧ possible event := by
    obtain rfl | rfl := herror
    · exact ⟨_, .inl rfl, rfl, hpossible _ hassume⟩
    · exact ⟨_, .inr rfl, rfl, hpossible _ hassume⟩
  dsimp only
  split_ifs with hroot
  · exact hnone w
  · refine guards_bind.mpr (releaseConnectorLease_guards RequestEvent.leavesAlone
      (fun ok ↦ .discarded (not_not.mp hroot) hfails) fun ok w' hstatus ↦ ?_)
    cases ok
    · exact hnone w'
    · exact hsome _ _ hstatus (.inl rfl)

theorem poolChecks_guards {checks : List (PoolCheck × String)}
    {post : Option String → ConnectorFiles → Prop} (hpost : ∀ failed, post failed w) :
    Guards FileOp.Step assume (RequestEvent possible caller) post (poolChecks checks) w := by
  induction checks with
  | nil => exact hpost none
  | cons check checks ih =>
    refine guards_bind.mpr (perform_guards RequestEvent.leavesAlone (fun _ _ ↦ id) (fun _ ↦ nofun)
      fun passed _ ↦ ?_)
    cases passed
    · exact hpost (some check.2)
    · exact ih

theorem lockConnector_guards {post : Bool → ConnectorFiles → Prop}
    (hpost : ∀ locked, post locked w) :
    Guards FileOp.Step assume (RequestEvent possible caller) post lockConnector w := by
  have hquiet := @RequestEvent.leavesAlone possible caller
  refine guards_bind.mpr (perform_guards hquiet (fun _ _ ↦ id) (fun _ ↦ nofun) fun ready _ ↦ ?_)
  cases ready
  · exact hpost false
  refine guards_bind.mpr (perform_guards hquiet (fun _ _ ↦ id) (fun _ ↦ nofun) fun isUnsafe _ ↦ ?_)
  cases isUnsafe
  · refine guards_bind.mpr (perform_guards hquiet (fun _ _ ↦ id) (fun _ ↦ nofun) fun locked _ ↦ ?_)
    cases locked
    · exact guards_bind.mpr (error_guards hquiet fun _ ↦ hpost false)
    · exact hpost true
  · exact guards_bind.mpr (error_guards hquiet fun _ ↦ hpost false)

theorem mutateConnector_guards {action : ConnectorAction} {responseName : String}
    (hpossible : ∀ event, assume event → possible event) :
    Guards FileOp.Step assume (RequestEvent possible caller) (fun _ _ ↦ True)
      (mutateConnector action caller responseName) w := by
  refine guards_bind.mpr (lockConnector_guards fun locked ↦ ?_)
  cases locked
  · trivial
  refine guards_bind.mpr (perform_guards RequestEvent.leavesAlone (fun _ _ hstep ↦ hstep.1)
    (fun _ ↦ nofun) fun currentStatus hread ↦ ?_)
  split_ifs with hinvalid
  · trivial
  have hstatus : w.status = currentStatus := by
    obtain ⟨-, hread | rfl⟩ := hread
    · exact hread.symm
    · exact absurd ⟨by decide, by decide⟩ hinvalid
  refine guards_bind.mpr
    (ownerOrDiscard_guards hpossible (fun _ ↦ trivial) fun ownerUid w' hsame howner ↦ ?_)
  cases action
  · exact connectConnector_guards hpossible (hsame.trans hstatus)
  · exact disconnectConnector_guards (hsame.trans hstatus) howner

theorem lockOwnedConnector_guards {post : Option String → ConnectorFiles → Prop}
    (hfailed : ∀ response, post (some response) w)
    (howned : w.lease = some caller.text → post none w) :
    Guards FileOp.Step assume (RequestEvent possible caller) post
      (lockOwnedConnector caller) w := by
  have hquiet := @RequestEvent.leavesAlone possible caller
  refine guards_bind.mpr (perform_guards hquiet (fun _ _ ↦ id) (fun _ ↦ nofun) fun ready _ ↦ ?_)
  cases ready
  · exact hfailed _
  refine guards_bind.mpr (perform_guards hquiet (fun _ _ ↦ id) (fun _ ↦ nofun) fun isUnsafe _ ↦ ?_)
  cases isUnsafe
  · refine guards_bind.mpr (perform_guards hquiet (fun _ _ ↦ id) (fun _ ↦ nofun) fun locked _ ↦ ?_)
    cases locked
    · exact hfailed _
    refine guards_bind.mpr (readConnectorLease_guards hquiet ?_ (fun uid huid _ ↦ ?_)
      fun _ _ _ ↦ hfailed _)
    · exact hfailed _
    · dsimp only
      split_ifs with hother
      · exact hfailed _
      · exact howned (by rw [huid, not_not.mp (not_or.mp hother).2])
  · exact hfailed _

theorem controlRequestedMode_guards {publicName : String} {width height refresh : Nat} :
    Guards FileOp.Step assume (RequestEvent possible caller) (fun _ _ ↦ True)
      (controlRequestedMode publicName width height refresh caller) w := by
  have hquiet := @RequestEvent.leavesAlone possible caller
  rw [controlRequestedMode]
  split_ifs
  · trivial
  refine guards_bind.mpr (poolChecks_guards fun failed ↦ ?_)
  cases failed
  case some => trivial
  refine guards_bind.mpr (lockOwnedConnector_guards (fun _ ↦ trivial) fun hlease ↦ ?_)
  refine guards_bind.mpr (perform_guards hquiet (fun _ _ hstep ↦ hstep.1) (fun _ ↦ nofun)
    fun status _ ↦ ?_)
  split_ifs
  · trivial
  refine guards_bind.mpr ?_
  intro written w' hstep _
  refine ⟨?_, ?_⟩
  · obtain rfl | rfl := hstep
    · exact @RequestEvent.modeWritten _ _ w' _ w'.requestedMode _ hlease
    · exact .modeWritten hlease
  · cases written
    · trivial
    refine guards_bind.mpr (perform_guards hquiet (fun _ _ hstep ↦ hstep.1) (fun _ ↦ nofun)
      fun same _ ↦ ?_)
    cases same <;> trivial

/-- Every operation of a request, however the ones before it went, is one of these events.  Only
`connect` and `disconnect` do something about a failure. -/
theorem connectorRequest_guards (assume : FileEvent → Prop) (request : ConnectorRequest)
    (w : ConnectorFiles) :
    Guards FileOp.Step assume
      (RequestEvent (fun event ↦ request.command.mutates ∧ assume event) request.callerUid)
      (fun _ _ ↦ True) request.script w := by
  obtain ⟨callerUid, publicName, command⟩ := request
  cases command with
  | connector action =>
    refine guards_bind.mpr (poolChecks_guards fun failed ↦ ?_)
    cases failed
    · exact mutateConnector_guards fun event hassume ↦ ⟨rfl, hassume⟩
    · trivial
  | mode width height refresh => exact controlRequestedMode_guards

end

/-! ## Any sequence of requests -/

/-- The pool as it is created: no output is connected and nobody owns it. -/
def ConnectorFiles.Dormant (w : ConnectorFiles) : Prop :=
  w.status = kConnectorStatusDisconnected ∧ w.lease = none

/-- A connected connector has an owner. -/
def ConnectorFiles.Owned (w : ConnectorFiles) : Prop :=
  w.status = kConnectorStatusConnected → ∃ owner : Uid, w.lease = some owner.text

section

variable {possible : FileEvent → Prop} {caller : Uid} {event : FileEvent}

theorem RequestEvent.status_of_owner (h : RequestEvent possible caller event)
    (hcaller : caller ≠ .root) (hconnected : event.before.status = kConnectorStatusConnected)
    (hchanged : event.after.status ≠ event.before.status) :
    event.before.lease = some caller.text := by
  cases h with
  | quiet _ hstatus _ => exact absurd hstatus hchanged
  | connected hlease => exact hlease
  | disconnected howner => exact howner.resolve_left hcaller
  | _ => exact absurd rfl hchanged

theorem RequestEvent.mode_of_owner (h : RequestEvent possible caller event) {text : String}
    (hop : event.op = .writeMode text) : event.before.lease = some caller.text := by
  cases h with
  | quiet hquiet => exact absurd hop (hquiet text)
  | modeWritten hlease => exact hlease
  | _ => exact nomatch hop

/-- While the connector is connected, only root gets it from somebody else. -/
theorem RequestEvent.lease_connected (h : RequestEvent possible caller event)
    (hconnected : event.before.status = kConnectorStatusConnected) :
    event.after.lease = event.before.lease ∨ event.after.lease = none ∨
      event.after.lease = some Uid.root.text := by
  cases h with
  | quiet _ _ hlease => exact .inl hlease
  | adopted => exact .inr (.inr rfl)
  | leased hstatus => exact absurd hconnected hstatus
  | discarded | released | rolledBack => exact .inr (.inl rfl)
  | connected | disconnected | modeWritten => exact .inl rfl

theorem RequestEvent.owned (h : RequestEvent possible caller event)
    (hstatus : ∀ e, statusUpdateFails e → ¬possible e)
    (hread : ∀ e, LeaseReadFails e → caller = .root →
      e.before.status = kConnectorStatusConnected → ¬possible e)
    (hbefore : event.before.Owned) : event.after.Owned := by
  intro hconnected
  cases h with
  | quiet _ hstatus' hlease =>
    rw [hlease]
    exact hbefore (hstatus' ▸ hconnected)
  | discarded hcaller hfailed =>
    obtain ⟨e, hfails, hw, hpossible⟩ := hfailed
    exact absurd hpossible (hread e hfails hcaller (hw ▸ hconnected))
  | adopted => exact ⟨.root, rfl⟩
  | released hstatus' => exact absurd hconnected hstatus'
  | leased => exact ⟨caller, rfl⟩
  | connected hlease => exact ⟨caller, hlease⟩
  | rolledBack hfailed =>
    obtain ⟨e, hfails, hpossible⟩ := hfailed
    exact absurd hpossible (hstatus e hfails)
  | disconnected =>
    have hsame : kConnectorStatusDisconnected = kConnectorStatusConnected := hconnected
    exact absurd hsame (by decide)
  | modeWritten hlease => exact ⟨caller, hlease⟩

end

/-- A request fails in a way that may leave a connected connector without an owner: it cannot tell
that the status is as it was to be, or root discards a lease that it fails to read. -/
def LosesOwner (request : ConnectorRequest) (event : FileEvent) : Prop :=
  statusUpdateFails event ∨
    LeaseReadFails event ∧ request.command.mutates ∧ request.callerUid = .root ∧
      event.before.status = kConnectorStatusConnected

instance (request : ConnectorRequest) (event : FileEvent) :
    Decidable (LosesOwner request event) :=
  inferInstanceAs (Decidable (_ ∨ (_ ∨ _) ∧ _))

/-- A request with the operations of its script. -/
abbrev ConnectorSession := ConnectorRequest × FileEvent

section

variable {w w' : ConnectorFiles} {sessions : List ConnectorSession}

theorem sessions_requestEvent (assume : ConnectorRequest → FileEvent → Prop)
    (h : Sessions FileOp.Step ConnectorRequest.script w sessions w')
    (hassume : ∀ s ∈ sessions, assume s.1 s.2) :
    ∀ s ∈ sessions,
      RequestEvent (fun event ↦ s.1.command.mutates ∧ assume s.1 event) s.1.callerUid s.2 := by
  have hguards (request : ConnectorRequest) (w : ConnectorFiles) (_ : True) :=
    connectorRequest_guards (assume request) request w
  exact (Sessions.guarded hguards (fun _ _ _ _ ↦ trivial) h trivial hassume).1

theorem sessions_owned (h : Sessions FileOp.Step ConnectorRequest.script w sessions w')
    (hw : w.Owned) (hassume : ∀ s ∈ sessions, ¬LosesOwner s.1 s.2) : w'.Owned := by
  have hevents := sessions_requestEvent (fun request event ↦ ¬LosesOwner request event) h hassume
  refine h.linked.invariant hw fun event hevent hbefore ↦ ?_
  obtain ⟨s, hs, rfl⟩ := List.mem_map.mp hevent
  refine (hevents s hs).owned (fun e hfails ⟨_, hpossible⟩ ↦ hpossible (.inl hfails))
    (fun e hfails hcaller hstatus ⟨hmutates, hpossible⟩ ↦ ?_) hbefore
  exact hpossible (.inr ⟨hfails, hmutates, hcaller, hstatus⟩)

/-- Over events that leave the connector connected, nobody but root comes into a lease. -/
theorem lease_of_connected {events : List FileEvent} (hlinked : Linked w events w')
    (hevents : ∀ event ∈ events, event.before.status = kConnectorStatusConnected →
      event.after.lease = event.before.lease ∨ event.after.lease = none ∨
        event.after.lease = some Uid.root.text)
    (hconnected : ∀ event ∈ events, event.before.status = kConnectorStatusConnected) :
    w'.lease = w.lease ∨ w'.lease = none ∨ w'.lease = some Uid.root.text := by
  induction events generalizing w with
  | nil => exact .inl (congrArg _ hlinked.symm)
  | cons event events ih =>
    obtain ⟨rfl, hrest⟩ := hlinked
    rw [List.forall_mem_cons] at hevents hconnected
    have hfirst := hevents.1 hconnected.1
    obtain hsame | hlast := ih hrest hevents.2 hconnected.2
    · rwa [hsame]
    · exact .inr hlast

/-- Over any sequence of requests, each of them done or killed:

* a caller other than root changes the status of a connected connector, or writes its mode, only
  with a lease that names it;
* while the connector stays connected, its lease does not come from one such caller to another;
* a connected connector has an owner, as long as no request fails in a way that loses it. -/
theorem connectorRequests_ownership
    (hrun : Sessions FileOp.Step ConnectorRequest.script w sessions w') (hdormant : w.Dormant) :
    (∀ s ∈ sessions, s.1.callerUid ≠ .root →
      (s.2.before.status = kConnectorStatusConnected → s.2.after.status ≠ s.2.before.status →
        s.2.before.lease = some s.1.callerUid.text) ∧
      ∀ text, s.2.op = .writeMode text → s.2.before.lease = some s.1.callerUid.text) ∧
    (∀ earlier during later, sessions = earlier ++ during ++ later →
      (∀ s ∈ during, s.2.before.status = kConnectorStatusConnected ∧
        s.2.after.status = kConnectorStatusConnected) →
      ∀ first ∈ during.head?, ∀ last ∈ during.getLast?, ∀ a b : Uid, a ≠ .root → b ≠ .root →
        first.2.before.lease = some a.text → last.2.after.lease = some b.text → a = b) ∧
    ((∀ s ∈ sessions, ¬LosesOwner s.1 s.2) → w'.Owned) := by
  have hevents := sessions_requestEvent (fun _ _ ↦ True) hrun fun _ _ ↦ trivial
  refine ⟨fun s hs hcaller ↦ ⟨(hevents s hs).status_of_owner hcaller,
    fun text ↦ (hevents s hs).mode_of_owner⟩, ?_, sessions_owned hrun ?_⟩
  · rintro earlier during later rfl hduring first hfirst last hlast a b - hb ha hb'
    have hlinked := hrun.linked
    rw [List.map_append, List.map_append] at hlinked
    obtain ⟨w₂, hlinked, -⟩ := linked_append.mp hlinked
    obtain ⟨w₁, -, hlinked⟩ := linked_append.mp hlinked
    have hlease := lease_of_connected hlinked
      (by
        intro event hevent
        obtain ⟨s, hs, rfl⟩ := List.mem_map.mp hevent
        exact (hevents s (by simp [hs])).lease_connected)
      (by
        intro event hevent
        obtain ⟨s, hs, rfl⟩ := List.mem_map.mp hevent
        exact (hduring s hs).1)
    have hfirst' : first.2.before = w₁ :=
      hlinked.first (by rw [List.head?_map, Option.mem_def.mp hfirst, Option.map_some])
    have hlast' : last.2.after = w₂ :=
      hlinked.last (by rw [List.getLast?_map, Option.mem_def.mp hlast, Option.map_some])
    rw [← hfirst', ← hlast', ha, hb'] at hlease
    obtain hlease | hlease | hlease := hlease
    · exact (Uid.ext (Option.some.inj hlease)).symm
    · exact nomatch hlease
    · exact absurd (Uid.ext (Option.some.inj hlease)) hb
  · intro hconnected
    exact absurd (hdormant.1.symm.trans hconnected) (by decide)

end

/-- A connector that nobody has asked for. -/
def dormantConnector : ConnectorFiles :=
  { status := kConnectorStatusDisconnected, requestedMode := "", lease := none }

/-- A request to connect `Virtual-1`. -/
def connectRequest (callerUid : Uid) : ConnectorRequest :=
  { callerUid, publicName := "Virtual-1", command := .connector .connect }

/-- What is left when a request of uid 1000 to connect is done and nothing has failed. -/
theorem connectorRequests_ownership_connect :
    (execute FileOp.succeed 40 (connectRequest { text := "1000" }).script
      dormantConnector).2.Owned :=
  (connectorRequests_ownership (.session .nil (runs_execute FileOp.step_succeed 40
      (connectRequest { text := "1000" }).script dormantConnector)) ⟨rfl, rfl⟩).2.2
    (by decide)

/-- The lease cannot be read, and everything else succeeds. -/
def FileOp.failToRead : (op : FileOp) → ConnectorFiles → op.Reply × ConnectorFiles
  | .readLease, c => ("", c)
  | op, c => op.succeed c

theorem FileOp.step_failToRead (op : FileOp) (c : ConnectorFiles) :
    FileOp.Step op c (op.failToRead c).1 (op.failToRead c).2 := by
  cases op with
  | readLease => exact ⟨rfl, .inr rfl⟩
  | _ => exact FileOp.step_succeed _ c

/-- A request of root to connect what uid 1000 has connected fails to read the lease, discards it
and is killed: the connector is connected without an owner, and no write of the status has
failed. -/
theorem connectorRequests_unowned :
    ∃ sessions w', Sessions FileOp.Step ConnectorRequest.script dormantConnector sessions w' ∧
      (∀ s ∈ sessions, ¬statusUpdateFails s.2) ∧ ¬w'.Owned := by
  refine ⟨_, _, .session (.session .nil (runs_execute FileOp.step_succeed 40
    (connectRequest { text := "1000" }).script dormantConnector))
    (runs_execute FileOp.step_failToRead 18 (connectRequest .root).script _), ?_, fun howned ↦ ?_⟩
  · decide
  · obtain ⟨owner, howner⟩ := howned (by decide)
    exact nomatch howner

end VirtualDisplay
