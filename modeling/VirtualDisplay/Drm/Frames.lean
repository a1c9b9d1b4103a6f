import Mathlib.Data.List.Induction
import VirtualDisplay.Drm.Presentation

/-!
# The frame that is presented

`GET_FRAME` gives the sequence, the timestamp and the framebuffer of one moment.  The sequence
counts the commits that changed the scanout, and the timestamp is that of the newest of them.  The
framebuffer is the primary plane's, and there should be none while the CRTC is inactive.

* `getFrame_describes` — a reply describes what was pinned under the lock.
* `presentedFrames_coherent_iff` — when the pinned frame is the one that it should be: a commit that
  leaves the CRTC inactive must not bring a visible framebuffer, which would be kept.

## What is here

* `PresentEvent` — publications and calls of `GET_FRAME`, in any order.
* `newestState`, `activeAfter`, `newestPrimary` — what the commits so far come to, read off their
  list without the output.
* `expectedFrame` — the frame that there should be then.
* `published_sequence` — sequence and timestamp need no condition.
* `KeepsFrame`, `framebuffer_append_iff` — one commit, and when it leaves the right framebuffer.
* `DescribesFrame` — the reply says of each plane what the pinned framebuffer has.

`presentedFrames_inactive` is the run in which a CRTC is switched off with its primary plane still
visible.
-/

set_option autoImplicit false

namespace VirtualDisplay

/-! ## Runs -/

/-- A presentation, or a caller's request for the newest frame. -/
inductive PresentEvent where
  | publish (publication : Publication)
  | getFrame (calls : FrameCalls) (request : VibeshineDrmFrame)

namespace VkmsOutput

/-- The output after these events; `GET_FRAME` leaves it as it is. -/
def after (o : VkmsOutput) : List PresentEvent → VkmsOutput :=
  List.foldl (fun o event ↦
    match event with
    | .publish publication => o.signalPresented publication
    | .getFrame _ _ => o) o

/-- The output behind some presentations. -/
def published (o : VkmsOutput) : List Publication → VkmsOutput :=
  List.foldl VkmsOutput.signalPresented o

end VkmsOutput

/-- The presentations among some events. -/
def publications : List PresentEvent → List Publication :=
  List.filterMap fun
    | .publish publication => some publication
    | .getFrame _ _ => none

theorem after_eq_published (o : VkmsOutput) (events : List PresentEvent) :
    o.after events = o.published (publications events) := by
  induction events generalizing o with
  | nil => rfl
  | cons event events ih => cases event <;> exact ih _

/-! ## The frame that there should be -/

/-- The newest state that one of the commits carries. -/
def newestState {State : Type} (stateOf : AtomicCommit → Option State) (ps : List Publication) :
    Option State :=
  (ps.filterMap fun p ↦ stateOf p.commit).getLast?

theorem newestState_append {State : Type} (stateOf : AtomicCommit → Option State)
    (ps : List Publication) (p : Publication) :
    newestState stateOf (ps ++ [p]) = (stateOf p.commit).or (newestState stateOf ps) := by
  rw [newestState, List.filterMap_append, List.getLast?_append, newestState]
  cases h : stateOf p.commit <;> simp [h]

namespace VkmsOutput

variable (o : VkmsOutput)

/-- Those that change the scanout. -/
def counted (ps : List Publication) : List Publication :=
  ps.filter (·.commit.changesCrtc o.crtc)

/-- The commits leave the CRTC active. -/
def activeAfter (ps : List Publication) : Bool :=
  (newestState (·.newCrtcState o.crtc) ps).any (·.active)

/-- The primary framebuffer of the newest commit that carries a state of the primary plane, if it is
visible. -/
def newestPrimary (ps : List Publication) : Option Framebuffer :=
  visibleFramebuffer (newestState (·.newPlaneState o.primary) ps)

/-- What `GET_FRAME` should pin when these commits have been published. -/
def expectedFrame (ps : List Publication) : PinnedFrame where
  sequence := UInt64.ofNat (o.counted ps).length
  timestampNs := (o.counted ps).getLast?.elim 0 (·.timestampNs)
  framebuffer :=
    match o.activeAfter (o.counted ps) with
    | true => o.newestPrimary (o.counted ps)
    | false => none

/-- An output that has presented nothing. -/
def Fresh : Prop := o.pinFrame = { sequence := 0, timestampNs := 0, framebuffer := none }

/-- The commit, published behind these, keeps the framebuffer right: if it leaves the CRTC inactive
it brings no visible framebuffer, and if it turns the CRTC on it brings a state of the primary
plane, unless there is no framebuffer to turn on. -/
def KeepsFrame (ps : List Publication) (p : Publication) : Prop :=
  p.commit.changesCrtc o.crtc →
    match o.activeAfter (o.counted (ps ++ [p])) with
    | true =>
      o.activeAfter (o.counted ps) ∨ (p.commit.newPlaneState o.primary).isSome ∨
        o.newestPrimary (o.counted ps) = none
    | false => visibleFramebuffer (p.commit.newPlaneState o.primary) = none

variable {o}

/-! ## One publication -/

theorem signalPresented_ids (p : Publication) :
    (o.signalPresented p).crtc = o.crtc ∧ (o.signalPresented p).primary = o.primary := by
  rw [signalPresented]
  split_ifs <;> exact ⟨rfl, rfl⟩

theorem published_ids (ps : List Publication) :
    (o.published ps).crtc = o.crtc ∧ (o.published ps).primary = o.primary := by
  induction ps generalizing o with
  | nil => exact ⟨rfl, rfl⟩
  | cons p ps ih =>
    obtain ⟨hcrtc, hprimary⟩ := ih (o := o.signalPresented p)
    rw [(signalPresented_ids p).1] at hcrtc
    rw [(signalPresented_ids p).2] at hprimary
    exact ⟨hcrtc, hprimary⟩

theorem published_append (ps : List Publication) (p : Publication) :
    o.published (ps ++ [p]) = (o.published ps).signalPresented p := List.foldl_concat ..

theorem signalPresented_of_changes {p : Publication} (h : p.commit.changesCrtc o.crtc) :
    o.signalPresented p = (o.present p).decPendingCommits := by
  rw [signalPresented, AtomicCommit.touchesCrtc_of_changesCrtc h, if_pos h]
  rfl

/-- A commit that does not change the scanout leaves all that is presented as it was. -/
theorem signalPresented_of_unchanged {p : Publication} (h : ¬p.commit.changesCrtc o.crtc) :
    (o.signalPresented p).pinFrame = o.pinFrame ∧
      (o.signalPresented p).presentTrace = o.presentTrace := by
  rw [signalPresented, if_neg h]
  split_ifs <;> exact ⟨rfl, rfl⟩

theorem counted_append (ps : List Publication) (p : Publication) :
    o.counted (ps ++ [p]) =
      if p.commit.changesCrtc o.crtc then o.counted ps ++ [p] else o.counted ps := by
  rw [counted, List.filter_append, List.filter_singleton, counted]
  split_ifs with h <;> simp [h]

/-- The sequence and the timestamp are right whatever the commits are. -/
theorem published_sequence (hfresh : o.Fresh) (ps : List Publication) :
    (o.published ps).presentSequence = (o.expectedFrame ps).sequence ∧
      (o.published ps).presentTimestampNs = (o.expectedFrame ps).timestampNs := by
  induction ps using List.reverseRecOn with
  | nil => exact ⟨congrArg (·.sequence) hfresh, congrArg (·.timestampNs) hfresh⟩
  | append_singleton ps p ih =>
    rw [published_append, expectedFrame, counted_append]
    by_cases hchanges : p.commit.changesCrtc o.crtc
    · rw [signalPresented_of_changes (by rwa [(published_ids ps).1]), if_pos hchanges]
      refine ⟨?_, by simp [decPendingCommits, present]⟩
      simp only [decPendingCommits, present, ih.1, expectedFrame, List.length_append,
        List.length_singleton, UInt64.ofNat_add]
      rfl
    · have hsame := (signalPresented_of_unchanged (p := p) (o := o.published ps)
        (by rwa [(published_ids ps).1])).1
      rw [if_neg hchanges]
      exact ⟨(congrArg (·.sequence) hsame).trans ih.1,
        (congrArg (·.timestampNs) hsame).trans ih.2⟩

theorem presentFb_published_append (ps : List Publication) (p : Publication)
    (hchanges : p.commit.changesCrtc o.crtc) :
    (o.published (ps ++ [p])).presentFb =
      if (p.commit.newPlaneState o.primary).isSome ∨
          (p.commit.newCrtcState o.crtc).any (!·.active) then
        visibleFramebuffer (p.commit.newPlaneState o.primary)
      else (o.published ps).presentFb := by
  obtain ⟨hcrtc, hprimary⟩ := published_ids (o := o) ps
  rw [published_append, signalPresented_of_changes (by rwa [hcrtc])]
  simp only [decPendingCommits, present, hcrtc, hprimary, Bool.or_eq_true]

/-- A commit behind which the framebuffer is the expected one, if it was before. -/
theorem framebuffer_append_iff (ps : List Publication) (p : Publication)
    (hbefore : (o.published ps).presentFb = (o.expectedFrame ps).framebuffer) :
    (o.published (ps ++ [p])).presentFb = (o.expectedFrame (ps ++ [p])).framebuffer ↔
      o.KeepsFrame ps p := by
  by_cases hchanges : p.commit.changesCrtc o.crtc
  · have hcounted : o.counted (ps ++ [p]) = o.counted ps ++ [p] := by
      rw [counted_append, if_pos hchanges]
    rw [presentFb_published_append ps p hchanges, hbefore, KeepsFrame, expectedFrame, expectedFrame,
      hcounted]
    simp only [hchanges, forall_const, activeAfter, newestPrimary, newestState_append]
    generalize p.commit.newPlaneState o.primary = primaryState
    generalize newestState (·.newPlaneState o.primary) (o.counted ps) = newestPrimary
    generalize newestState (·.newCrtcState o.crtc) (o.counted ps) = newestCrtc
    have hnone : visibleFramebuffer none = none := rfl
    -- What the commit brings replaces what was there: its CRTC state, and that of the primary
    -- plane.
    cases hwas : newestCrtc.any (·.active) <;> cases primaryState <;>
      cases p.commit.newCrtcState o.crtc with
      | none => simp [hwas, hnone]
      | some crtcState => cases hactive : crtcState.active <;> simp [hactive, hnone, eq_comm]
  · have hcounted : o.counted (ps ++ [p]) = o.counted ps := by rw [counted_append, if_neg hchanges]
    have hsame := (signalPresented_of_unchanged (p := p) (o := o.published ps)
      (by rwa [(published_ids ps).1])).1
    rw [published_append, expectedFrame, hcounted]
    exact iff_of_true ((congrArg (·.framebuffer) hsame).trans hbefore) fun h ↦ absurd h hchanges

end VkmsOutput

/-! ## What is returned -/

namespace VibeshineDrmFrame

/-- What the reply says of its `i`-th plane. -/
def plane? (reply : VibeshineDrmFrame) (i : Nat) : Option (Int32 × UInt32 × UInt32 × Int32) :=
  if h : i < VIBESHINE_DRM_FRAME_MAX_PLANES then
    some (reply.dmaBufFds[i], reply.pitches[i], reply.offsets[i], reply.syncFileFds[i])
  else none

/-- Everything but the planes. -/
def header (reply : VibeshineDrmFrame) : VibeshineDrmFrame :=
  { reply with
    dmaBufFds := .replicate _ 0
    pitches := .replicate _ 0
    offsets := .replicate _ 0
    syncFileFds := .replicate _ 0 }

theorem plane?_setPlane (reply : VibeshineDrmFrame) {i : Nat}
    (hi : i < VIBESHINE_DRM_FRAME_MAX_PLANES) (plane : Int32 × UInt32 × UInt32 × Int32) (j : Nat) :
    (reply.setPlane i plane).plane? j = if j = i then some plane else reply.plane? j := by
  rw [plane?, plane?]
  by_cases hj : j = i
  · subst hj
    simp [setPlane, hi]
  · simp [setPlane, hj, Ne.symm hj]

end VibeshineDrmFrame

/-- The reply says of its `i`-th plane what the export of this plane yields. -/
def DescribesPlane (calls : FrameCalls) (reply : VibeshineDrmFrame) (i : Nat)
    (plane : FramebufferPlane) : Prop :=
  ∃ dmaBuf, calls.dmaBuf plane.object = .ok dmaBuf ∧
    reply.plane? i =
      some (calls.fd dmaBuf, plane.pitch, plane.offset, calls.readFence dmaBuf)

/-- The reply is about this frame. -/
structure DescribesFrame (calls : FrameCalls) (frame : PinnedFrame) (reply : VibeshineDrmFrame) :
    Prop where
  sequence : reply.sequence = frame.sequence
  timestampNs : reply.timestampNs = frame.timestampNs
  empty : frame.framebuffer = none → reply.flags = VIBESHINE_DRM_FRAME_EMPTY
  ready : ∀ fb, frame.framebuffer = some fb →
    (reply.flags = VIBESHINE_DRM_FRAME_READY ∧ reply.width = fb.width ∧ reply.height = fb.height ∧
      reply.fourcc = fb.fourcc ∧ reply.modifier = fb.formatModifier ∧
      reply.planeCount = UInt32.ofNat fb.planes.length) ∧
    ∀ i plane, fb.planes[i]? = some plane → DescribesPlane calls reply i plane

theorem exportPlanes_describes {calls : FrameCalls} {planes : List FramebufferPlane} {i : Nat}
    {request reply : VibeshineDrmFrame}
    (h : exportPlanes calls request i planes = .ok reply)
    (hroom : i + planes.length ≤ VIBESHINE_DRM_FRAME_MAX_PLANES) :
    reply.header = request.header ∧ (∀ j < i, reply.plane? j = request.plane? j) ∧
      ∀ k plane, planes[k]? = some plane → DescribesPlane calls reply (i + k) plane := by
  induction planes generalizing i request with
  | nil =>
    rw [exportPlanes, Except.ok.injEq] at h
    subst h
    exact ⟨rfl, fun _ _ ↦ rfl, nofun⟩
  | cons plane planes ih =>
    rw [exportPlanes] at h
    split at h
    · exact nomatch h
    · rename_i dmaBuf hdmaBuf
      split_ifs at h
      rw [List.length_cons] at hroom
      obtain ⟨hheader, hkept, hplanes⟩ := ih h (by omega)
      have hi : i < VIBESHINE_DRM_FRAME_MAX_PLANES := by omega
      refine ⟨hheader, fun j hj ↦ ?_, fun k plane' hplane' ↦ ?_⟩
      · rw [hkept j (by omega), VibeshineDrmFrame.plane?_setPlane _ hi, if_neg (by omega)]
      · cases k with
        | zero =>
          obtain rfl : plane = plane' := by simpa using hplane'
          refine ⟨dmaBuf, hdmaBuf, ?_⟩
          rw [Nat.add_zero, hkept i (by omega), VibeshineDrmFrame.plane?_setPlane _ hi, if_pos rfl]
        | succ k =>
          rw [← Nat.add_assoc, Nat.add_right_comm]
          exact hplanes k plane' (by simpa using hplane')

/-- A reply describes the frame that was pinned, whatever the calls of the export yield. -/
theorem getFrame_describes {o : VkmsOutput} {calls : FrameCalls}
    {request reply : VibeshineDrmFrame} (h : o.getFrame calls request = .ok reply) :
    DescribesFrame calls o.pinFrame reply := by
  rw [VkmsOutput.getFrame] at h
  split_ifs at h
  rw [exportFrame] at h
  cases hfb : o.pinFrame.framebuffer with
  | none =>
    rw [hfb, Except.ok.injEq] at h
    subst h
    exact ⟨rfl, rfl, fun _ ↦ rfl, fun fb hfb' ↦ nomatch hfb.symm.trans hfb'⟩
  | some fb =>
    rw [hfb] at h
    dsimp only at h
    split_ifs at h with hcount
    rw [not_or, Nat.not_lt] at hcount
    obtain ⟨hheader, -, hplanes⟩ := exportPlanes_describes h (by omega)
    refine ⟨?_, ?_, fun hnone ↦ (nomatch hfb.symm.trans hnone), fun fb' hfb' ↦ ?_⟩
    · exact congrArg (·.sequence) hheader
    · exact congrArg (·.timestampNs) hheader
    · obtain rfl : fb = fb' := by simpa using hfb.symm.trans hfb'
      refine ⟨⟨congrArg (·.flags) hheader, congrArg (·.width) hheader, congrArg (·.height) hheader,
        congrArg (·.fourcc) hheader, congrArg (·.modifier) hheader,
        congrArg (·.planeCount) hheader⟩, fun i plane hplane ↦ ?_⟩
      have := hplanes i plane hplane
      rwa [Nat.zero_add] at this

/-! ## Any sequence of publications and calls -/

/-- Where a step keeps a property exactly under a condition, it holds at every point of a list
exactly if all steps meet the condition. -/
theorem forall_split_iff {α : Type} {P : List α → Prop} {C : List α → α → Prop} (hnil : P [])
    (hstep : ∀ earlier x, P earlier → (P (earlier ++ [x]) ↔ C earlier x)) (l : List α) :
    (∀ earlier later, l = earlier ++ later → P earlier) ↔
      ∀ earlier x later, l = earlier ++ x :: later → C earlier x := by
  refine ⟨fun h earlier x later hl ↦ ?_, fun h earlier ↦ ?_⟩
  · exact (hstep earlier x (h earlier _ hl)).mp (h (earlier ++ [x]) later (by simp [hl]))
  · induction earlier using List.reverseRecOn with
    | nil => exact fun _ _ ↦ hnil
    | append_singleton earlier x ih =>
      intro later hl
      rw [List.append_assoc, List.singleton_append] at hl
      exact (hstep earlier x (ih _ hl)).mpr (h earlier x later hl)

theorem publications_append (events : List PresentEvent) (event : PresentEvent) :
    publications (events ++ [event]) = publications events ++ publications [event] :=
  List.filterMap_append ..

/-- Every call of `GET_FRAME` describes the frame that is pinned when it is served, and this is at
all times the frame that it should be, exactly if every commit keeps it right. -/
theorem presentedFrames_coherent_iff {o : VkmsOutput} (hfresh : o.Fresh)
    (events : List PresentEvent) :
    (∀ earlier calls request later reply, events = earlier ++ .getFrame calls request :: later →
      (o.after earlier).getFrame calls request = .ok reply →
      DescribesFrame calls (o.after earlier).pinFrame reply) ∧
    ((∀ earlier later, events = earlier ++ later →
        (o.after earlier).pinFrame = o.expectedFrame (publications earlier)) ↔
      ∀ earlier p later, events = earlier ++ .publish p :: later →
        o.KeepsFrame (publications earlier) p) := by
  refine ⟨fun _ _ _ _ _ _ ↦ getFrame_describes, ?_⟩
  have hpin (events : List PresentEvent) :
      (o.after events).pinFrame = o.expectedFrame (publications events) ↔
        (o.published (publications events)).presentFb =
          (o.expectedFrame (publications events)).framebuffer := by
    obtain ⟨hsequence, htimestamp⟩ := VkmsOutput.published_sequence hfresh (publications events)
    rw [after_eq_published]
    refine ⟨congrArg PinnedFrame.framebuffer, fun h ↦ ?_⟩
    rw [VkmsOutput.pinFrame, hsequence, htimestamp, h]
  have hstep (earlier : List PresentEvent) (event : PresentEvent)
      (h : (o.after earlier).pinFrame = o.expectedFrame (publications earlier)) :
      (o.after (earlier ++ [event])).pinFrame =
          o.expectedFrame (publications (earlier ++ [event])) ↔
        ∀ p, event = .publish p → o.KeepsFrame (publications earlier) p := by
    rw [hpin, publications_append]
    cases event with
    | publish p =>
      refine (VkmsOutput.framebuffer_append_iff _ p ((hpin earlier).mp h)).trans ?_
      simp
    | getFrame calls request =>
      refine iff_of_true ?_ nofun
      exact (List.append_nil (publications earlier)).symm ▸ (hpin earlier).mp h
  refine (forall_split_iff (C := fun earlier event ↦
    ∀ p, event = .publish p → o.KeepsFrame (publications earlier) p) hfresh hstep events).trans ?_
  exact ⟨fun h earlier p later hevents ↦ h earlier _ later hevents p rfl,
    fun h earlier event later hevents p hp ↦ h earlier p later (hp ▸ hevents)⟩

/-! ## A CRTC that is switched off -/

/-- A framebuffer of one plane. -/
def exampleFramebuffer : Framebuffer :=
  { address := 0x30
    width := 1920
    height := 1080
    fourcc := 0x34325258
    modifier := 0
    hasModifiers := true
    planes :=
      [{ object := some { address := 0x40, imported := true }, pitch := 7680, offset := 0 }] }

/-- A commit that switches the CRTC to `active`, with the primary plane visible before and after. -/
def switchCommit (active : Bool) : AtomicCommit :=
  let plane : DrmPlaneState :=
    { fields := { visible := true, crtc := 0x10 }, framebuffer := some exampleFramebuffer }
  { crtcs :=
      [{ object := 0x10
         oldState := some { fields := { enable := true, active := !active } }
         newState := some { fields := { enable := true, active } } }]
    planes := [{ object := 0x20, oldState := some plane, newState := some plane }] }

/-- An output with nothing presented. -/
def exampleOutput : VkmsOutput := { crtc := 0x10, primary := 0x20 }

/-- Exports that succeed. -/
def exampleCalls : FrameCalls :=
  { dmaBuf := fun object ↦ .ok (object.elim 0 (·.address))
    fd := fun _ ↦ 5
    readFence := fun _ ↦ -1 }

/-- Switched off with its primary plane still visible, the CRTC keeps the framebuffer, and
`GET_FRAME` returns it. -/
theorem presentedFrames_inactive :
    let published := [.publish { commit := switchCommit true, timestampNs := 100 },
      .publish { commit := switchCommit false, timestampNs := 200 }]
    exampleOutput.activeAfter (exampleOutput.counted (publications published)) = false ∧
      (exampleOutput.after published).pinFrame =
        { sequence := 2, timestampNs := 200, framebuffer := some exampleFramebuffer } ∧
      ((exampleOutput.after published).getFrame exampleCalls
        { abiVersion := VIBESHINE_DRM_FRAME_ABI_VERSION, crtcId := 1 }).toOption.map (·.flags) =
        some VIBESHINE_DRM_FRAME_READY := by
  decide

/-- Switched on, the CRTC presents the framebuffer that its commit brings. -/
theorem presentedFrames_coherent_active :
    (exampleOutput.after [.publish { commit := switchCommit true, timestampNs := 100 }]).pinFrame =
      exampleOutput.expectedFrame [{ commit := switchCommit true, timestampNs := 100 }] := by
  refine ((presentedFrames_coherent_iff (o := exampleOutput) rfl
    [.publish { commit := switchCommit true, timestampNs := 100 }]).2.mpr ?_) _ [] rfl
  intro earlier p later h
  obtain ⟨rfl, rfl⟩ : earlier = [] ∧ later = [] := by
    cases earlier with
    | nil => exact ⟨rfl, (List.cons.inj h).2.symm⟩
    | cons event earlier => simp at h
  cases h
  exact fun _ ↦ .inr (.inl (by decide))

end VirtualDisplay
