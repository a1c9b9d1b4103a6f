import VirtualDisplay.Lib.SlotCalls

/-!
# Two objects in lockstep

Two programs whose operations and frames differ in their names alone go through corresponding
stretches: from related states, either both give up the lock at corresponding frames or both end,
in related states.  `Lockstep` says so.  Then the same events, up to the names, can happen in both
systems, and lead to related states (`Lockstep.execute`).

## What is here

* `Paired` — what holds of the two systems at every moment: the objects are related, and each call
  in the one has a call in the other that stands at the corresponding place.
* `Lockstep.step`, `Lockstep.execute` — an event, and any list of events.

The names may be anything that both the operations and the frames carry.  Renaming need not be
injective; where a program compares names, that is up to the proof of `Lockstep`.
-/

set_option autoImplicit false

namespace SlotCalls

variable {σ σ' ρ Op Op' Frame Frame' Outcome Reply Result Result' : Type}

/-- The two stretches lead to related states, and to corresponding frames or to an end. -/
inductive SameTurn (R : σ → σ' → Prop) (frame : Frame → Frame') :
    σ × Next Frame Result → σ' × Next Frame' Result' → Prop where
  | yield {locked : σ} {locked' : σ'} (related : R locked locked') (f : Frame) :
    SameTurn R frame (locked, .yield f) (locked', .yield (frame f))
  | done {locked : σ} {locked' : σ'} (related : R locked locked') (result : Result)
      (result' : Result') : SameTurn R frame (locked, .done result) (locked', .done result')

/-- The turns of one program follow those of the other, up to names. -/
structure Lockstep (P : Program σ Op Frame Reply Result) (P' : Program σ' Op' Frame' Reply Result')
    (D : Device ρ Frame Outcome Reply) (D' : Device ρ Frame' Outcome Reply) (R : σ → σ' → Prop)
    (op : Op → Op') (frame : Frame → Frame') : Prop where
  start : ∀ locked locked' o, R locked locked' →
    SameTurn R frame (P.start locked o) (P'.start locked' (op o))
  resume : ∀ locked locked' f reply, R locked locked' →
    SameTurn R frame (P.resume locked f reply) (P'.resume locked' (frame f) reply)
  busy : P'.busy = P.busy
  serve : ∀ device f outcome, D'.serve device (frame f) outcome = D.serve device f outcome

/-- The event under the other names. -/
def Event.rename (op : Op → Op') : Event Op Outcome → Event Op' Outcome
  | .start id o => .start id (op o)
  | .serve id outcome => .serve id outcome
  | .timeOut id => .timeOut id
  | .relock id => .relock id

/-- The call under the other names. -/
def Call.rename (op : Op → Op') (frame : Frame → Frame') (call : Call Op Frame Reply) :
    Call Op' Frame' Reply where
  op := op call.op
  frame := frame call.frame
  phase := call.phase

/-- The systems are at corresponding points: the states are related, and the calls under way are
the same up to the names. -/
structure Paired (R : σ → σ' → Prop) (op : Op → Op') (frame : Frame → Frame')
    (s : System σ ρ Op Frame Reply) (s' : System σ' ρ Op' Frame' Reply) : Prop where
  locked : R s.locked s'.locked
  device : s'.device = s.device
  calls : ∀ id : Nat, s'.calls[id]? = s.calls[id]?.map (Call.rename op frame)

variable {P : Program σ Op Frame Reply Result} {P' : Program σ' Op' Frame' Reply Result'}
  {D : Device ρ Frame Outcome Reply} {D' : Device ρ Frame' Outcome Reply} {R : σ → σ' → Prop}
  {op : Op → Op'} {frame : Frame → Frame'} {s : System σ ρ Op Frame Reply}
  {s' : System σ' ρ Op' Frame' Reply}

namespace Paired

theorem slotHeld (h : Paired R op frame s s') : s'.slotHeld = s.slotHeld := by
  rw [Bool.eq_iff_iff, System.slotHeld, System.slotHeld, OrdMap.anyEntry_iff, OrdMap.anyEntry_iff]
  constructor
  · rintro ⟨id, call', hcall, hholds⟩
    rw [h.calls id, Option.map_eq_some_iff] at hcall
    obtain ⟨call, hcall, rfl⟩ := hcall
    exact ⟨id, call, hcall, hholds⟩
  · rintro ⟨id, call, hcall, hholds⟩
    exact ⟨id, call.rename op frame, by rw [h.calls id, hcall]; rfl, hholds⟩

/-- Corresponding calls take the place of what was there. -/
theorem insert (h : Paired R op frame s s') (id : Nat) (call : Call Op Frame Reply)
    {device device' : ρ} (hdevice : device' = device) :
    Paired R op frame { s with device, calls := s.calls.insert id call }
      { s' with device := device', calls := s'.calls.insert id (call.rename op frame) } where
  locked := h.locked
  device := hdevice
  calls id' := by
    rw [OrdMap.getElem?_insert, OrdMap.getElem?_insert, h.calls id']
    split_ifs <;> rfl

theorem advance (h : Paired R op frame s s') (id : Nat) (o : Op)
    {turn : σ × Next Frame Result} {turn' : σ' × Next Frame' Result'}
    (hturn : SameTurn R frame turn turn') :
    Paired R op frame (s.advance id o turn) (s'.advance id (op o) turn') where
  locked := by cases hturn with | yield hrelated | done hrelated => exact hrelated
  device := h.device
  calls id' := by
    rw [getElem?_advance, getElem?_advance, h.calls id']
    cases hturn <;> split_ifs <;> rfl

end Paired

namespace Lockstep

/-- An event can happen in the one system iff it can in the other, and they stay paired. -/
theorem step (hlock : Lockstep P P' D D' R op frame) (h : Paired R op frame s s')
    (e : Event Op Outcome) :
    Option.Rel (Paired R op frame) (step P D s e) (SlotCalls.step P' D' s' (e.rename op)) := by
  cases e with
  | start id o =>
    have hcontains : s'.calls.contains id = s.calls.contains id := by
      rw [Std.ExtTreeMap.contains_eq_isSome_getElem?, Std.ExtTreeMap.contains_eq_isSome_getElem?,
        h.calls id, Option.isSome_map]
    rw [Event.rename, SlotCalls.step, SlotCalls.step, hcontains]
    split_ifs
    · exact .none
    · exact .some (h.advance id o (hlock.start _ _ o h.locked))
  | serve id outcome =>
    rw [Event.rename, SlotCalls.step, SlotCalls.step, h.calls id, h.slotHeld, h.device]
    cases hcall : s.calls[id]? with
    | none => exact .none
    | some call =>
      obtain ⟨o, f, phase⟩ := call
      cases phase with
      | waiting =>
        dsimp only [Option.map_some, Call.rename]
        rw [hlock.serve]
        split_ifs
        · exact .none
        · cases D.serve s.device f outcome with
          | none => exact .none
          | some served =>
            exact .some (h.insert id { op := o, frame := f, phase := .served served.2 } rfl)
      | served _ => exact .none
      | timedOut => exact .none
  | timeOut id =>
    rw [Event.rename, SlotCalls.step, SlotCalls.step, h.calls id]
    cases hcall : s.calls[id]? with
    | none => exact .none
    | some call =>
      obtain ⟨o, f, phase⟩ := call
      cases phase with
      | waiting => exact .some (h.insert id { op := o, frame := f, phase := .timedOut } h.device)
      | served _ => exact .none
      | timedOut => exact .none
  | relock id =>
    rw [Event.rename, SlotCalls.step, SlotCalls.step, h.calls id, hlock.busy]
    cases hcall : s.calls[id]? with
    | none => exact .none
    | some call =>
      obtain ⟨o, f, phase⟩ := call
      dsimp only [Option.map_some, Call.rename]
      cases phase.reply? P.busy with
      | none => exact .none
      | some reply => exact .some (h.advance id o (hlock.resume _ _ f reply h.locked))

/-- So it goes on over any list of events. -/
theorem execute (hlock : Lockstep P P' D D' R op frame) (h : Paired R op frame s s')
    (es : List (Event Op Outcome)) :
    Option.Rel (Paired R op frame) (execute P D (fun _ _ ↦ true) s es)
      (SlotCalls.execute P' D' (fun _ _ ↦ true) s' (es.map (Event.rename op))) := by
  induction es generalizing s s' with
  | nil => exact .some h
  | cons e es ih =>
    rw [List.map_cons, SlotCalls.execute, SlotCalls.execute, if_pos rfl, if_pos rfl]
    have hstep := hlock.step h e
    generalize SlotCalls.step P D s e = next at hstep
    generalize SlotCalls.step P' D' s' (e.rename op) = next' at hstep
    cases hstep with
    | none => exact .none
    | some hpaired => exact ih hpaired

end Lockstep

end SlotCalls
