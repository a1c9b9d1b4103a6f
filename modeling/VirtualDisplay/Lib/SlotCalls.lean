import VirtualDisplay.Lib.OrdMap

/-!
# Calls that give up a lock around a single slot

A monitor-style object serves calls under one lock.  A call that needs the resource behind the
object gives the lock up, waits for the resource's single slot, has its request served, takes the
lock back and only then gives up the slot; a wait that lasts too long takes the lock back without
having been served.  Between those points a call runs without interruption, and any number of
calls may be under way.

`Program` is the object: what a call does from one point to the next, on the state `σ` under the
lock.  A point where the lock is given up is a `Frame`, which holds whatever the call will need
when it goes on.  `Device` is the resource, with state `ρ`; how it answers a request is up to the
`Outcome` of the event.  `step` interleaves them, one event at a time: taking the slot and being
served are one event, since nothing but the slot's holder can tell them apart.

* `Move`, `move_of_step` — what one event can do.
* `Move.frames` — what goes on from one frame of a call to the next.
* `Steps`, `Steps.invariant` — runs whose steps all meet a condition, and induction on them.
* `SlotExclusive` — at most one call holds the slot, whatever the program (`SlotExclusive.move`).
* `steps_of_execute` — a run computed by `execute` is one of them.
* `drive` — a call that runs alone, against a list of replies.
* `Ends`, `Ends.of_frames` — a call whose state others change while it has given up the lock.
-/

set_option autoImplicit false

namespace SlotCalls

/-- A call either gives up the lock to have a request served, or it is over. -/
inductive Next (Frame Result : Type) where
  | yield (frame : Frame)
  | done (result : Result)
  deriving DecidableEq

/-- The stretches of a call that run under the lock.  `busy` stands in for the reply when the slot
could not be had. -/
structure Program (σ Op Frame Reply Result : Type) where
  start : σ → Op → σ × Next Frame Result
  resume : σ → Frame → Reply → σ × Next Frame Result
  busy : Reply

/-- The resource: how it serves the request of a frame.  Not every outcome fits every request. -/
structure Device (ρ Frame Outcome Reply : Type) where
  serve : ρ → Frame → Outcome → Option (ρ × Reply)

/-- How far a call has got that is between two stretches under the lock. -/
inductive Phase (Reply : Type) where
  | waiting
  /-- Served, and still holding the slot. -/
  | served (reply : Reply)
  | timedOut
  deriving DecidableEq

/-- A call under way. -/
structure Call (Op Frame Reply : Type) where
  op : Op
  frame : Frame
  phase : Phase Reply := .waiting
  deriving DecidableEq

/-- The object, the resource, and the calls under way by their id. -/
structure System (σ ρ Op Frame Reply : Type) where
  locked : σ
  device : ρ
  calls : OrdMap Nat (Call Op Frame Reply) := ∅

/-- What happens next in a run, and to which call. -/
inductive Event (Op Outcome : Type) where
  /-- A new call takes the lock and runs up to its first frame. -/
  | start (id : Nat) (op : Op)
  /-- A waiting call takes the slot and is served. -/
  | serve (id : Nat) (outcome : Outcome)
  /-- A waiting call gives up waiting. -/
  | timeOut (id : Nat)
  /-- A call takes the lock back and goes on; if it held the slot, it gives that up. -/
  | relock (id : Nat)

variable {σ ρ Op Frame Outcome Reply Result : Type}

/-- The call the event is of. -/
def Event.id : Event Op Outcome → Nat
  | start id _ | serve id _ | timeOut id | relock id => id

namespace Phase

/-- The call holds the slot. -/
def holdsSlot : Phase Reply → Bool
  | served _ => true
  | _ => false

/-- The reply the call goes on with, once it can. -/
def reply? (busy : Reply) : Phase Reply → Option Reply
  | waiting => none
  | served reply => some reply
  | timedOut => some busy

end Phase

namespace System

/-- Some call holds the slot. -/
def slotHeld (s : System σ ρ Op Frame Reply) : Bool :=
  OrdMap.anyEntry s.calls fun _ call ↦ call.phase.holdsSlot

/-- No call is under way. -/
def idle (s : System σ ρ Op Frame Reply) : Bool := s.calls.isEmpty

/-- The system after a stretch of the call under the lock. -/
def advance (s : System σ ρ Op Frame Reply) (id : Nat) (op : Op) (turn : σ × Next Frame Result) :
    System σ ρ Op Frame Reply :=
  { s with
    locked := turn.1
    calls :=
      match turn.2 with
      | .yield frame => s.calls.insert id { op, frame }
      | .done _ => s.calls.erase id }

end System

variable (P : Program σ Op Frame Reply Result) (D : Device ρ Frame Outcome Reply)

/-- One event, if it can happen. -/
def step (s : System σ ρ Op Frame Reply) : Event Op Outcome → Option (System σ ρ Op Frame Reply)
  | .start id op =>
    if s.calls.contains id then none else some (s.advance id op (P.start s.locked op))
  | .serve id outcome =>
    match s.calls[id]? with
    | some { op, frame, phase := .waiting } =>
      if s.slotHeld then none
      else
        (D.serve s.device frame outcome).map fun served ↦
          { s with
            device := served.1
            calls := s.calls.insert id { op, frame, phase := .served served.2 } }
    | _ => none
  | .timeOut id =>
    match s.calls[id]? with
    | some { op, frame, phase := .waiting } =>
      some { s with calls := s.calls.insert id { op, frame, phase := .timedOut } }
    | _ => none
  | .relock id =>
    match s.calls[id]? with
    | some { op, frame, phase } =>
      (phase.reply? P.busy).map fun reply ↦ s.advance id op (P.resume s.locked frame reply)
    | none => none

/-- What one event can do. -/
inductive Move (s : System σ ρ Op Frame Reply) :
    Event Op Outcome → System σ ρ Op Frame Reply → Prop where
  | started {id : Nat} {op : Op} (fresh : s.calls[id]? = none) :
    Move s (.start id op) (s.advance id op (P.start s.locked op))
  | served {id : Nat} {outcome : Outcome} {op : Op} {frame : Frame} {device : ρ} {reply : Reply}
      (call : s.calls[id]? = some { op, frame }) (slot : s.slotHeld = false)
      (answer : D.serve s.device frame outcome = some (device, reply)) :
    Move s (.serve id outcome)
      { s with device, calls := s.calls.insert id { op, frame, phase := .served reply } }
  | timedOut {id : Nat} {op : Op} {frame : Frame} (call : s.calls[id]? = some { op, frame }) :
    Move s (.timeOut id) { s with calls := s.calls.insert id { op, frame, phase := .timedOut } }
  | relocked {id : Nat} {op : Op} {frame : Frame} {phase : Phase Reply} {reply : Reply}
      (call : s.calls[id]? = some { op, frame, phase })
      (ready : phase.reply? P.busy = some reply) :
    Move s (.relock id) (s.advance id op (P.resume s.locked frame reply))

variable {P D} {s s' : System σ ρ Op Frame Reply} {e : Event Op Outcome}

theorem move_of_step (h : step P D s e = some s') : Move P D s e s' := by
  cases e with
  | start id op =>
    rw [step] at h
    split_ifs at h with hid
    cases h
    exact .started (Std.ExtTreeMap.getElem?_eq_none_of_contains_eq_false (Bool.not_eq_true _ ▸ hid))
  | serve id outcome =>
    rw [step] at h
    split at h
    · rename_i op frame hcall
      split_ifs at h with hslot
      rw [Option.map_eq_some_iff] at h
      rcases h with ⟨⟨device, reply⟩, hserve, rfl⟩
      exact .served hcall (Bool.not_eq_true _ ▸ hslot) hserve
    · cases h
  | timeOut id =>
    rw [step] at h
    split at h
    · rename_i op frame hcall
      cases h
      exact .timedOut hcall
    · cases h
  | relock id =>
    rw [step] at h
    split at h
    · rename_i op frame phase hcall
      rw [Option.map_eq_some_iff] at h
      rcases h with ⟨reply, hreply, rfl⟩
      exact .relocked hcall hreply
    · cases h

theorem step_of_move (h : Move P D s e s') : step P D s e = some s' := by
  cases h with
  | started hfresh =>
    rw [step, if_neg]
    rw [Std.ExtTreeMap.contains_eq_isSome_getElem?, hfresh]
    exact Bool.false_ne_true
  | served hcall hslot hanswer =>
    rw [step, hcall]
    dsimp only
    rw [if_neg ((Bool.not_eq_true _).mpr hslot), hanswer]
    rfl
  | timedOut hcall => rw [step, hcall]
  | relocked hcall hready =>
    rw [step, hcall]
    dsimp only
    rw [hready]
    rfl

/-! ## The calls after a stretch -/

theorem getElem?_advance (s : System σ ρ Op Frame Reply) (id : Nat) (op : Op)
    (turn : σ × Next Frame Result) (id' : Nat) :
    (s.advance id op turn).calls[id']? =
      if id = id' then
        match turn.2 with
        | .yield frame => some { op, frame }
        | .done _ => none
      else s.calls[id']? := by
  rw [System.advance]
  cases turn.2 with
  | yield frame => exact OrdMap.getElem?_insert ..
  | done result => exact OrdMap.getElem?_erase ..

/-- A call that is under way afterwards was so before, or is the one that has moved on. -/
theorem of_getElem?_advance {id id' : Nat} {op : Op} {turn : σ × Next Frame Result}
    {call : Call Op Frame Reply} (h : (s.advance id op turn).calls[id']? = some call) :
    (id = id' ∧ ∃ frame, turn.2 = .yield frame ∧ call = { op, frame }) ∨
      (id ≠ id' ∧ s.calls[id']? = some call) := by
  rw [getElem?_advance] at h
  by_cases hid : id = id'
  · rw [if_pos hid] at h
    cases hturn : turn.2 with
    | yield frame =>
      rw [hturn] at h
      cases h
      exact .inl ⟨hid, frame, rfl, rfl⟩
    | done result =>
      rw [hturn] at h
      cases h
  · rw [if_neg hid] at h
    exact .inr ⟨hid, h⟩

theorem getElem?_advance_of_ne {id id' : Nat} (hne : id ≠ id') {op : Op}
    {turn : σ × Next Frame Result} : (s.advance id op turn).calls[id']? = s.calls[id']? := by
  rw [getElem?_advance, if_neg hne]

theorem getElem?_advance_self {id : Nat} {op : Op} {locked : σ} {frame : Frame} :
    (s.advance id op ((locked, .yield frame) : σ × Next Frame Result)).calls[id]? =
      some { op, frame } := by
  rw [getElem?_advance, if_pos rfl]

/-- What holds of a call's operation and its first frame, and goes on from one frame to the next,
holds of all calls under way. -/
theorem Move.frames {Q : Op → Frame → Prop}
    (hstart : ∀ op frame, (P.start s.locked op).2 = .yield frame → Q op frame)
    (hresume : ∀ op frame reply next, Q op frame →
      (P.resume s.locked frame reply).2 = .yield next → Q op next)
    (h : ∀ (id : Nat) (call : Call Op Frame Reply), s.calls[id]? = some call →
      Q call.op call.frame)
    (hmove : Move P D s e s') (id : Nat) (call : Call Op Frame Reply)
    (hcall : s'.calls[id]? = some call) : Q call.op call.frame := by
  cases hmove with
  | started =>
    rcases of_getElem?_advance hcall with ⟨-, frame, hyield, rfl⟩ | ⟨-, hcall⟩
    · exact hstart _ frame hyield
    · exact h id call hcall
  | relocked hold =>
    rcases of_getElem?_advance hcall with ⟨-, frame, hyield, rfl⟩ | ⟨-, hcall⟩
    · have hq := h _ _ hold
      exact hresume _ _ _ frame hq hyield
    · exact h id call hcall
  | served hold | timedOut hold =>
    rw [OrdMap.getElem?_insert] at hcall
    split_ifs at hcall
    · cases hcall
      have hq := h _ _ hold
      exact hq
    · exact h id call hcall

/-! ## The slot -/

/-- At most one call holds the slot. -/
def SlotExclusive (s : System σ ρ Op Frame Reply) : Prop :=
  ∀ (id id' : Nat) (call call' : Call Op Frame Reply), s.calls[id]? = some call →
    s.calls[id']? = some call' → call.phase.holdsSlot = true → call'.phase.holdsSlot = true →
      id = id'

theorem slotHeld_eq_false :
    s.slotHeld = false ↔ ∀ (id : Nat) (call : Call Op Frame Reply), s.calls[id]? = some call →
      call.phase.holdsSlot = false := OrdMap.anyEntry_eq_false

/-- The slot has one holder at a time, whatever the program does. -/
theorem SlotExclusive.move (h : SlotExclusive s) (hmove : Move P D s e s') : SlotExclusive s' := by
  intro i j call call' hi hj hcall hcall'
  cases hmove with
  | started | relocked =>
    rcases of_getElem?_advance hi with ⟨-, frame, -, rfl⟩ | ⟨-, hi⟩
    · cases hcall
    · rcases of_getElem?_advance hj with ⟨-, frame, -, rfl⟩ | ⟨-, hj⟩
      · cases hcall'
      · exact h i j call call' hi hj hcall hcall'
  | served _ hslot =>
    rw [slotHeld_eq_false] at hslot
    rw [OrdMap.getElem?_insert] at hi hj
    split_ifs at hi hj with hidi hidj hidj
    · exact hidi.symm.trans hidj
    · rw [hslot j call' hj] at hcall'
      cases hcall'
    · rw [hslot i call hi] at hcall
      cases hcall
    · exact h i j call call' hi hj hcall hcall'
  | timedOut =>
    rw [OrdMap.getElem?_insert] at hi hj
    split_ifs at hi hj
    · cases hi
      cases hcall
    · cases hi
      cases hcall
    · cases hj
      cases hcall'
    · exact h i j call call' hi hj hcall hcall'

/-! ## Runs -/

/-- Runs whose steps all meet a condition on the event and the state before it. -/
abbrev Steps (P : Program σ Op Frame Reply Result) (D : Device ρ Frame Outcome Reply)
    (ok : System σ ρ Op Frame Reply → Event Op Outcome → Bool) :
    System σ ρ Op Frame Reply → System σ ρ Op Frame Reply → Prop :=
  Relation.ReflTransGen fun s s' ↦ ∃ e, ok s e = true ∧ step P D s e = some s'

variable {ok : System σ ρ Op Frame Reply → Event Op Outcome → Bool}

/-- What every step of the run preserves holds at its end. -/
theorem Steps.invariant {I : System σ ρ Op Frame Reply → Prop} (hrun : Steps P D ok s s')
    (hmove : ∀ s e s', I s → ok s e = true → Move P D s e s' → I s') (h : I s) : I s' := by
  induction hrun with
  | refl => exact h
  | tail _ hstep ih =>
    rcases hstep with ⟨e, hok, hstep⟩
    exact hmove _ e _ ih hok (move_of_step hstep)

/-- Run a list of events, stopping at one that cannot happen or does not meet the condition. -/
def execute (P : Program σ Op Frame Reply Result) (D : Device ρ Frame Outcome Reply)
    (ok : System σ ρ Op Frame Reply → Event Op Outcome → Bool) (s : System σ ρ Op Frame Reply) :
    List (Event Op Outcome) → Option (System σ ρ Op Frame Reply)
  | [] => some s
  | e :: es => if ok s e then (step P D s e).bind fun s' ↦ execute P D ok s' es else none

theorem steps_of_execute {es : List (Event Op Outcome)} (h : execute P D ok s es = some s') :
    Steps P D ok s s' := by
  induction es generalizing s with
  | nil =>
    rw [execute, Option.some_inj] at h
    rw [h]
  | cons e es ih =>
    rw [execute] at h
    split_ifs at h with hok
    rw [Option.bind_eq_some_iff] at h
    rcases h with ⟨s₁, hstep, hrest⟩
    exact .head ⟨e, hok, hstep⟩ (ih hrest)

/-! ## A call that runs alone -/

/-- Go on with a call that nothing interferes with, as far as the replies last. -/
def drive (P : Program σ Op Frame Reply Result) :
    σ × Next Frame Result → List Reply → σ × Next Frame Result
  | (locked, .done result), _ => (locked, .done result)
  | (locked, .yield frame), [] => (locked, .yield frame)
  | (locked, .yield frame), reply :: replies => drive P (P.resume locked frame reply) replies

@[simp] theorem drive_done (P : Program σ Op Frame Reply Result) (locked : σ) (result : Result)
    (replies : List Reply) : drive P (locked, .done result) replies = (locked, .done result) := by
  cases replies <;> rfl

/-- The frames such a call has given up the lock at, with the replies it has gone on with. -/
def exchanges (P : Program σ Op Frame Reply Result) :
    σ × Next Frame Result → List Reply → List (Frame × Reply)
  | (_, .done _), _ => []
  | (_, .yield _), [] => []
  | (locked, .yield frame), reply :: replies =>
    (frame, reply) :: exchanges P (P.resume locked frame reply) replies

/-! ## A call among others -/

/-- How a call that has run a stretch goes on to its end: whenever it has given up the lock, others
may have changed the state, as far as `Other` allows. -/
inductive Ends (P : Program σ Op Frame Reply Result) (Other : σ → σ → Prop) :
    σ × Next Frame Result → List (Frame × Reply) → σ → Result → Prop where
  | done {locked : σ} {result : Result} : Ends P Other (locked, .done result) [] locked result
  | resumed {locked changed final : σ} {frame : Frame} {reply : Reply} {result : Result}
      {exchanged : List (Frame × Reply)} (others : Other locked changed)
      (rest : Ends P Other (P.resume changed frame reply) exchanged final result) :
    Ends P Other (locked, .yield frame) ((frame, reply) :: exchanged) final result

/-- A condition on the frames that every stretch keeps, and that says something about the result
of the stretch after a frame, says it about the result of the call. -/
theorem Ends.of_frames {P : Program σ Op Frame Reply Result} {Other : σ → σ → Prop}
    {valid : σ → Frame → Prop} {claim : Result → Prop}
    (hother : ∀ s s' frame, valid s frame → Other s s' → valid s' frame)
    (hyield : ∀ s s' frame reply next, valid s frame →
      P.resume s frame reply = (s', .yield next) → valid s' next)
    (hdone : ∀ s s' frame reply result, valid s frame →
      P.resume s frame reply = (s', .done result) → claim result)
    {locked final : σ} {frame : Frame} {exchanged : List (Frame × Reply)} {result : Result}
    (hvalid : valid locked frame)
    (h : Ends P Other (locked, .yield frame) exchanged final result) : claim result := by
  generalize hturn : (locked, Next.yield frame) = turn at h
  induction h generalizing locked frame with
  | done => cases hturn
  | @resumed locked changed final frame reply result exchanged hothers hrest ih =>
    cases hturn
    have hchanged := hother _ _ _ hvalid hothers
    cases hresumed : P.resume changed frame reply with
    | mk s' next =>
      cases next with
      | yield next => exact ih (hyield _ _ _ _ _ hchanged hresumed) hresumed.symm
      | done result' =>
        rw [hresumed] at hrest
        cases hrest
        exact hdone _ _ _ _ _ hchanged hresumed

end SlotCalls
