import Mathlib.Data.List.Basic

/-!
# Scripts that may be killed

A script performs operations on a world, one after the other, and each of them gives a reply that
the rest of the script depends on.  What an operation may reply and do is a relation, so that an
operation can fail in several ways.  A run of a script (`Script.Runs`) may stop between any two
operations: a script that is killed there leaves the world as it is.

What is proved of scripts is an assumption and a guarantee, both of single events: as long as the
events of a run meet the assumption, they keep the guarantee (`Script.Guards`).  Its rules follow
the script, and `Script.Sessions.guarded` carries it over to any number of scripts, one after the
other.

## What is here

* `Script`, `Script.bind` — the syntax of scripts, with `Script.perform` for a single operation.
* `Script.Runs`, `Script.Sessions` — what can happen, events included, and any number of scripts.
* `Script.execute`, `Script.finish` — running a script with given answers, up to a number of
  operations or to its end.
* `Script.allOf`, `Script.eachOf` — sequences that stop at a failure, and those that go on.
* `Script.ReadsOnly`, `Script.Verifies`, `Script.Establishes` — checks, and parts that bring about a
  property for every member of a list.
* `Script.Guards` with its rules, `Script.Guards.finish` for scripts that are not disturbed, and
  `Script.Linked.invariant` for what holds between events.
-/

set_option autoImplicit false

/-- Each operation is performed, and the rest of the script depends on the reply. -/
inductive Script (Op : Type) (Reply : Op → Type) (α : Type) where
  | done (result : α)
  | call (op : Op) (rest : Reply op → Script Op Reply α)

namespace Script

variable {Op : Type} {Reply : Op → Type} {α β ι W : Type}

/-- One script and then another one, which depends on the result of the first. -/
def bind : Script Op Reply α → (α → Script Op Reply β) → Script Op Reply β
  | done result, f => f result
  | call op rest, f => call op fun reply ↦ (rest reply).bind f

instance : Monad (Script Op Reply) where
  pure := done
  bind := bind

/-- The script of one operation. -/
def perform (op : Op) : Script Op Reply (Reply op) := call op done

/-- One operation of a run, with the world before and after it. -/
structure Event (Reply : Op → Type) (W : Type) where
  op : Op
  reply : Reply op
  before : W
  after : W

/-! ## Runs -/

variable (step : (op : Op) → W → Reply op → W → Prop)

/-- The script performs these operations, and then it is done or is killed. -/
inductive Runs : Script Op Reply α → W → List (Event Reply W) → W → Prop where
  | stop {script : Script Op Reply α} {w : W} : Runs script w [] w
  | call {op : Op} {rest : Reply op → Script Op Reply α} {w w₁ w₂ : W} {reply : Reply op}
      {events : List (Event Reply W)} (first : step op w reply w₁)
      (others : Runs (rest reply) w₁ events w₂) :
      Runs (.call op rest) w (⟨op, reply, w, w₁⟩ :: events) w₂

/-- Scripts that run one after the other; each event stands with the script it is of. -/
inductive Sessions (script : ι → Script Op Reply α) : W → List (ι × Event Reply W) → W → Prop where
  | nil {w : W} : Sessions script w [] w
  | session {w w₁ w₂ : W} {sessions : List (ι × Event Reply W)} {i : ι}
      {events : List (Event Reply W)} (earlier : Sessions script w sessions w₁)
      (run : Runs step (script i) w₁ events w₂) :
      Sessions script w (sessions ++ events.map (i, ·)) w₂

/-- Each event starts in the world that the one before it leaves. -/
def Linked : W → List (Event Reply W) → W → Prop
  | w, [], w' => w = w'
  | w, event :: events, w' => event.before = w ∧ Linked event.after events w'

theorem linked_append {w w' : W} {events events' : List (Event Reply W)} :
    Linked w (events ++ events') w' ↔ ∃ w₁, Linked w events w₁ ∧ Linked w₁ events' w' := by
  induction events generalizing w with
  | nil => simp [Linked]
  | cons event events ih => simp [Linked, ih, and_assoc]

theorem Linked.first {w w' : W} {events : List (Event Reply W)} (h : Linked w events w')
    {event : Event Reply W} (hevent : events.head? = some event) : event.before = w := by
  cases events with
  | nil => exact nomatch hevent
  | cons => exact Option.some.inj hevent ▸ h.1

theorem Linked.last {w w' : W} {events : List (Event Reply W)} (h : Linked w events w')
    {event : Event Reply W} (hevent : events.getLast? = some event) : event.after = w' := by
  induction events generalizing w with
  | nil => exact nomatch hevent
  | cons first events ih =>
    cases events with
    | nil => exact Option.some.inj hevent ▸ h.2
    | cons => exact ih h.2 (by rwa [List.getLast?_cons_cons] at hevent)

variable {step}

theorem Runs.linked {script : Script Op Reply α} {w w' : W} {events : List (Event Reply W)}
    (h : Runs step script w events w') : Linked w events w' := by
  induction h with
  | stop => rfl
  | call _ _ ih => exact ⟨rfl, ih⟩

theorem Sessions.linked {script : ι → Script Op Reply α} {w w' : W}
    {sessions : List (ι × Event Reply W)} (h : Sessions step script w sessions w') :
    Linked w (sessions.map Prod.snd) w' := by
  induction h with
  | nil => rfl
  | session _ run ih =>
    rw [List.map_append, List.map_map]
    exact linked_append.mpr ⟨_, ih, by simpa [Function.comp_def] using run.linked⟩

/-! ## Runs that are computed -/

variable (answer : (op : Op) → W → Reply op × W)

/-- The first operations of a script, each answered by `answer`, and the world then. -/
def execute : Nat → Script Op Reply α → W → List (Event Reply W) × W
  | 0, _, w | _ + 1, done _, w => ([], w)
  | limit + 1, call op rest, w =>
    let (reply, w') := answer op w
    let (events, w'') := execute limit (rest reply) w'
    (⟨op, reply, w, w'⟩ :: events, w'')

variable {answer}

theorem runs_execute (hanswer : ∀ op w, step op w (answer op w).1 (answer op w).2) (limit : Nat)
    (script : Script Op Reply α) (w : W) :
    Runs step script w (execute answer limit script w).1 (execute answer limit script w).2 := by
  induction limit generalizing script w with
  | zero => exact .stop
  | succ limit ih =>
    cases script with
    | done => exact .stop
    | call op rest => exact .call (hanswer op w) (ih _ _)

theorem answered_of_mem_execute {limit : Nat} {script : Script Op Reply α} {w : W}
    {event : Event Reply W} (h : event ∈ (execute answer limit script w).1) :
    (event.reply, event.after) = answer event.op event.before := by
  induction limit generalizing script w with
  | zero => exact nomatch h
  | succ limit ih =>
    cases script with
    | done => exact nomatch h
    | call op rest =>
      rcases List.mem_cons.mp h with rfl | h
      · rfl
      · exact ih h

variable (answer) in
/-- What a script comes to if each operation is answered by `answer`, and the world then. -/
def finish : Script Op Reply α → W → α × W
  | done result, w => (result, w)
  | call op rest, w => (rest (answer op w).1).finish (answer op w).2

theorem finish_bind {script : Script Op Reply α} {rest : α → Script Op Reply β} (w : W) :
    (script >>= rest).finish answer w =
      (rest (script.finish answer w).1).finish answer (script.finish answer w).2 := by
  induction script generalizing w with
  | done => rfl
  | call op others ih => exact ih _ _

/-! ## Sequences

A part of a script that reports whether it succeeded.
-/

/-- One after the other, up to the first that fails. -/
def allOf : List (Script Op Reply Bool) → Script Op Reply Bool
  | [] => done true
  | script :: scripts => script.bind fun ok ↦ if ok then allOf scripts else done false

/-- One after the other, whether they fail or not. -/
def eachOf : List (Script Op Reply Bool) → Script Op Reply Bool
  | [] => done true
  | script :: scripts => script.bind fun ok ↦ (eachOf scripts).bind fun others ↦ done (ok && others)

/-! ## Assumptions and guarantees -/

variable (step) (assume guarantee : Event Reply W → Prop)

/-- From this world on, the events of the script keep the guarantee as long as they meet the
assumption, and the script is done in a world that the postcondition holds in. -/
def Guards (post : α → W → Prop) : Script Op Reply α → W → Prop
  | done result, w => post result w
  | call op rest, w =>
    ∀ reply w', step op w reply w' → assume ⟨op, reply, w, w'⟩ →
      guarantee ⟨op, reply, w, w'⟩ ∧ Guards post (rest reply) w'

variable {step assume guarantee}

theorem guards_done {post : α → W → Prop} {result : α} {w : W} :
    Guards step assume guarantee post (done result : Script Op Reply α) w ↔ post result w := Iff.rfl

theorem guards_bind {post : β → W → Prop} {script : Script Op Reply α}
    {rest : α → Script Op Reply β} {w : W} :
    Guards step assume guarantee post (script >>= rest) w ↔
      Guards step assume guarantee
        (fun result ↦ Guards step assume guarantee post (rest result)) script w := by
  induction script generalizing w with
  | done => exact Iff.rfl
  | call op others ih =>
    exact forall₂_congr fun reply w' ↦
      forall₂_congr fun _ _ ↦ and_congr_right fun _ ↦ ih reply

theorem Guards.mono {post post' : α → W → Prop} {script : Script Op Reply α} {w : W}
    (h : Guards step assume guarantee post script w)
    (hpost : ∀ result w, post result w → post' result w) :
    Guards step assume guarantee post' script w := by
  induction script generalizing w with
  | done => exact hpost _ _ h
  | call op rest ih =>
    intro reply w' hstep hassume
    obtain ⟨hguarantee, hrest⟩ := h reply w' hstep hassume
    exact ⟨hguarantee, ih reply hrest⟩

/-- A script comes to its end where the answers meet the assumption. -/
theorem Guards.finish (hanswer : ∀ op w, step op w (answer op w).1 (answer op w).2 ∧
    assume ⟨op, (answer op w).1, w, (answer op w).2⟩)
    {post : α → W → Prop} {script : Script Op Reply α} {w : W}
    (h : Guards step assume guarantee post script w) :
    post (script.finish answer w).1 (script.finish answer w).2 := by
  induction script generalizing w with
  | done => exact h
  | call op rest ih =>
    obtain ⟨hstep, hassume⟩ := hanswer op w
    exact ih _ (h _ _ hstep hassume).2

/-- The next part of a sequence that stops at a failure. -/
theorem guards_allOf_cons {post : Bool → W → Prop} {script : Script Op Reply Bool}
    {scripts : List (Script Op Reply Bool)} {w : W}
    (h : Guards step assume guarantee (fun ok w' ↦
      if ok = true then Guards step assume guarantee post (allOf scripts) w' else post false w')
      script w) :
    Guards step assume guarantee post (allOf (script :: scripts)) w := by
  refine guards_bind.mpr (h.mono fun ok w' hpost ↦ ?_)
  cases ok with
  | true => exact hpost
  | false => exact hpost

theorem guards_allOf_singleton {post : Bool → W → Prop} {script : Script Op Reply Bool} {w : W}
    (h : Guards step assume guarantee post script w) :
    Guards step assume guarantee post (allOf [script]) w := by
  refine guards_allOf_cons (h.mono fun ok w' hpost ↦ ?_)
  cases ok with
  | true => exact hpost
  | false => exact hpost

/-! ### Reading

Some operations leave the world alone, and their answers can be relied upon.
-/

section

variable (isRead : Op → Bool)

/-- All operations of the script only read. -/
def ReadsOnly : Script Op Reply α → Prop
  | done _ => True
  | call op rest => isRead op = true ∧ ∀ reply, ReadsOnly (rest reply)

variable {isRead}

theorem readsOnly_bind {script : Script Op Reply α} {rest : α → Script Op Reply β}
    (h : ReadsOnly isRead script) (hrest : ∀ result, ReadsOnly isRead (rest result)) :
    ReadsOnly isRead (script >>= rest) := by
  induction script with
  | done result => exact hrest result
  | call op others ih => exact ⟨h.1, fun reply ↦ ih reply (h.2 reply)⟩

theorem readsOnly_allOf {scripts : List (Script Op Reply Bool)}
    (h : ∀ script ∈ scripts, ReadsOnly isRead script) : ReadsOnly isRead (allOf scripts) := by
  induction scripts with
  | nil => trivial
  | cons script scripts ih =>
    rw [List.forall_mem_cons] at h
    refine readsOnly_bind h.1 fun ok ↦ ?_
    cases ok with
    | true => exact ih h.2
    | false => trivial

variable (hread : ∀ op, isRead op = true → ∀ w, (answer op w).2 = w)

include hread

theorem ReadsOnly.finish_snd {script : Script Op Reply α} (h : ReadsOnly isRead script) (w : W) :
    (script.finish answer w).2 = w := by
  induction script with
  | done => rfl
  | call op rest ih =>
    rw [Script.finish, hread op h.1]
    exact ih _ (h.2 _)

theorem ReadsOnly.finish_bind {script : Script Op Reply α} {rest : α → Script Op Reply β}
    (h : ReadsOnly isRead script) (w : W) :
    (script >>= rest).finish answer w = (rest (script.finish answer w).1).finish answer w := by
  rw [Script.finish_bind, h.finish_snd hread]

/-- A sequence of checks is their conjunction. -/
theorem finish_allOf {scripts : List (Script Op Reply Bool)}
    (h : ∀ script ∈ scripts, ReadsOnly isRead script) (w : W) :
    ((allOf scripts).finish answer w).1 = scripts.all fun script ↦ (script.finish answer w).1 := by
  induction scripts with
  | nil => rfl
  | cons script scripts ih =>
    rw [List.forall_mem_cons] at h
    have hbind : (script >>= fun ok ↦ if ok then allOf scripts else done false).finish answer w =
        _ := ReadsOnly.finish_bind hread h.1 w
    rw [List.all_cons, ← ih h.2]
    refine (congrArg Prod.fst hbind).trans ?_
    cases (script.finish answer w).1 <;> rfl

/-- A part that only reads comes to what can be read, or there is a doubt about some answer. -/
theorem ReadsOnly.guards {doubt : Prop}
    (hstep : ∀ op, isRead op = true → ∀ w reply w', step op w reply w' →
      assume ⟨op, reply, w, w'⟩ → w' = w ∧ (reply = (answer op w).1 ∨ doubt))
    {script : Script Op Reply α} (h : ReadsOnly isRead script) {w : W}
    (hguarantee : ∀ op reply, guarantee ⟨op, reply, w, w⟩) :
    Guards step assume guarantee
      (fun result w' ↦ w' = w ∧ (result = (script.finish answer w).1 ∨ doubt)) script w := by
  induction script with
  | done => exact ⟨rfl, .inl rfl⟩
  | call op rest ih =>
    intro reply w' hreply hassume
    obtain ⟨rfl, hsame | hdoubt⟩ := hstep op h.1 w reply w' hreply hassume
    · subst hsame
      have hrest := ih _ (h.2 (answer op w').1)
      refine ⟨hguarantee _ _, ?_⟩
      rw [Script.finish, hread op h.1]
      exact hrest
    · exact ⟨hguarantee _ _, (ih reply (h.2 reply)).mono fun _ _ hresult ↦ ⟨hresult.1, .inr hdoubt⟩⟩

end

/-! ### Verifying facts

Where answers cannot be relied upon, a check may still never pass wrongly.
-/

section

variable (step assume guarantee) in
/-- The script leaves the world alone, and if it succeeds, the fact holds. -/
def Verifies (w : W) (fact : Prop) (script : Script Op Reply Bool) : Prop :=
  Guards step assume guarantee (fun ok w' ↦ w' = w ∧ (ok = true → fact)) script w

variable {w : W}

theorem Verifies.imp {fact fact' : Prop} {script : Script Op Reply Bool}
    (h : Verifies step assume guarantee w fact script) (hfact : fact → fact') :
    Verifies step assume guarantee w fact' script :=
  h.mono fun _ _ hresult ↦ ⟨hresult.1, fun hok ↦ hfact (hresult.2 hok)⟩

theorem verifies_cons {fact others : Prop} {script : Script Op Reply Bool}
    {scripts : List (Script Op Reply Bool)}
    (h : Verifies step assume guarantee w fact script)
    (hscripts : Verifies step assume guarantee w others (allOf scripts)) :
    Verifies step assume guarantee w (fact ∧ others) (allOf (script :: scripts)) := by
  refine guards_allOf_cons (h.mono fun ok w' hresult ↦ ?_)
  obtain ⟨rfl, hfact⟩ := hresult
  split_ifs with hok
  · exact hscripts.imp fun hothers ↦ ⟨hfact hok, hothers⟩
  · exact ⟨rfl, by simp⟩

theorem verifies_allOf {fact : ι → Prop} {part : ι → Script Op Reply Bool} {l : List ι}
    (h : ∀ a ∈ l, Verifies step assume guarantee w (fact a) (part a)) :
    Verifies step assume guarantee w (∀ a ∈ l, fact a) (allOf (l.map part)) := by
  induction l with
  | nil => exact ⟨rfl, by simp⟩
  | cons a l ih =>
    rw [List.forall_mem_cons] at h ⊢
    exact verifies_cons h.1 (ih h.2)

end

/-! ### Establishing facts

The parts of a sequence may keep an invariant and each establish facts that the others do not
undo.
-/

variable (step assume guarantee) in
/-- If the script succeeds, the facts of the goal hold; it fails only for a reason. -/
def Establishes (inv : W → Prop) (fact : β → W → Prop) (reason : Prop) (goal : β → Prop)
    (script : Script Op Reply Bool) : Prop :=
  ∀ w, inv w → Guards step assume guarantee
    (fun ok w' ↦ inv w' ∧ (∀ b, fact b w → fact b w') ∧ (ok = true → ∀ b, goal b → fact b w') ∧
      (ok = false → reason)) script w

section

variable {inv : W → Prop} {fact : β → W → Prop} {reason : Prop} {goal : ι → β → Prop}
  {part : ι → Script Op Reply Bool} {l : List ι}

theorem establishes_allOf
    (hpart : ∀ a ∈ l, Establishes step assume guarantee inv fact reason (goal a) (part a)) :
    Establishes step assume guarantee inv fact reason (fun b ↦ ∃ a ∈ l, goal a b)
      (allOf (l.map part)) := by
  induction l with
  | nil => exact fun w hw ↦ ⟨hw, fun _ ↦ id, by simp, by simp⟩
  | cons a l ih =>
    rw [List.forall_mem_cons] at hpart
    intro w hw
    refine guards_bind.mpr ((hpart.1 w hw).mono fun ok w' ⟨hw', hkept, hdone, hreason⟩ ↦ ?_)
    cases ok with
    | false => exact ⟨hw', hkept, by simp, hreason⟩
    | true =>
      refine (ih hpart.2 w' hw').mono fun ok w'' ⟨hw'', hkept', hdone', hreason'⟩ ↦
        ⟨hw'', fun b ↦ hkept' b ∘ hkept b, fun hok b hb ↦ ?_, hreason'⟩
      obtain ⟨c, hc, hgoal⟩ := hb
      rcases List.mem_cons.mp hc with rfl | hc
      · exact hkept' b (hdone rfl b hgoal)
      · exact hdone' hok b ⟨c, hc, hgoal⟩

theorem establishes_eachOf
    (hpart : ∀ a ∈ l, Establishes step assume guarantee inv fact reason (goal a) (part a)) :
    Establishes step assume guarantee inv fact reason (fun b ↦ ∃ a ∈ l, goal a b)
      (eachOf (l.map part)) := by
  induction l with
  | nil => exact fun w hw ↦ ⟨hw, fun _ ↦ id, by simp, by simp⟩
  | cons a l ih =>
    rw [List.forall_mem_cons] at hpart
    intro w hw
    refine guards_bind.mpr ((hpart.1 w hw).mono fun ok w' ⟨hw', hkept, hdone, hreason⟩ ↦
      guards_bind.mpr ((ih hpart.2 w' hw').mono fun others w'' ⟨hw'', hkept', hdone', hreason'⟩ ↦
        ⟨hw'', fun b ↦ hkept' b ∘ hkept b, fun hok b hb ↦ ?_, fun hok ↦ ?_⟩))
    · rw [Bool.and_eq_true] at hok
      obtain ⟨c, hc, hgoal⟩ := hb
      rcases List.mem_cons.mp hc with rfl | hc
      · exact hkept' b (hdone hok.1 b hgoal)
      · exact hdone' hok.2 b ⟨c, hc, hgoal⟩
    · rw [Bool.and_eq_false_iff] at hok
      exact hok.elim hreason hreason'

end

/-- The events of a run keep the guarantee, wherever the script is killed. -/
theorem Runs.guarded {post : α → W → Prop} {script : Script Op Reply α} {w w' : W}
    {events : List (Event Reply W)} (h : Runs step script w events w')
    (hguards : Guards step assume guarantee post script w)
    (hassume : ∀ event ∈ events, assume event) : ∀ event ∈ events, guarantee event := by
  induction h with
  | stop => exact fun _ hevent ↦ nomatch hevent
  | call first _ ih =>
    rw [List.forall_mem_cons] at hassume ⊢
    obtain ⟨hguarantee, hrest⟩ := hguards _ _ first hassume.1
    exact ⟨hguarantee, ih hrest hassume.2⟩

/-- What the guarantee preserves holds at the end of linked events. -/
theorem Linked.invariant {inv : W → Prop} {w w' : W} {events : List (Event Reply W)}
    (h : Linked w events w') (hw : inv w)
    (hevents : ∀ event ∈ events, inv event.before → inv event.after) : inv w' := by
  induction events generalizing w with
  | nil => exact h ▸ hw
  | cons event events ih =>
    obtain ⟨rfl, hrest⟩ := h
    rw [List.forall_mem_cons] at hevents
    exact ih hrest (hevents.1 hw) hevents.2

/-- Scripts that keep a guarantee from every world with the invariant, which the guarantee
preserves, keep it one after the other. -/
theorem Sessions.guarded {assume guarantee : ι → Event Reply W → Prop} {inv : W → Prop}
    {script : ι → Script Op Reply α} {post : α → W → Prop}
    (hguards : ∀ i w, inv w → Guards step (assume i) (guarantee i) post (script i) w)
    (hinv : ∀ i event, guarantee i event → inv event.before → inv event.after)
    {w w' : W} {sessions : List (ι × Event Reply W)} (h : Sessions step script w sessions w')
    (hw : inv w) (hassume : ∀ s ∈ sessions, assume s.1 s.2) :
    (∀ s ∈ sessions, guarantee s.1 s.2) ∧ inv w' := by
  induction h with
  | nil => exact ⟨by simp, hw⟩
  | @session _ _ _ i events _ run ih =>
    rw [List.forall_mem_append] at hassume ⊢
    obtain ⟨hearlier, hmiddle⟩ := ih hassume.1
    have hevents : ∀ event ∈ events, guarantee i event :=
      run.guarded (hguards i _ hmiddle) fun event hevent ↦
        hassume.2 (i, event) (List.mem_map_of_mem hevent)
    refine ⟨⟨hearlier, fun s hs ↦ ?_⟩,
      run.linked.invariant hmiddle fun event hevent ↦ hinv i event (hevents event hevent)⟩
    obtain ⟨event, hevent, rfl⟩ := List.mem_map.mp hs
    exact hevents event hevent

end Script
