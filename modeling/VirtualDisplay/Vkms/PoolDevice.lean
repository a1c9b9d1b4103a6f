import VirtualDisplay.Vkms.Pool

/-!
# Devices that the service leaves behind

What configfs does to the items and the links of a device, and what a device is like that the root
service has worked on, wherever it was killed (`Pool.Managed`): each link leads to the item of the
same index, there are none before all the items are there, and it is not enabled unless it is whole.

Each call that the service makes keeps this, and there is a lemma for each.

## What is here

* `VkmsConfig.create`, `VkmsConfig.destroy`, `VkmsConfig.attach`, `VkmsConfig.detach` — the four
  changes of a configuration, the same for each kind of item and of link, and what they do to the
  items (`items_create`, `items_destroy`) and to the links (`links_create`, `links_detach` and so
  on).
* `Pool.Full`, `Pool.Whole` — all items are there; and so is everything that the kernel asks for
  before it lets the device be enabled.
* `Pool.Managed` — the invariant, over the soundness of the device from `Drm/Config.lean`.
* `Managed.make`, `Managed.release`, `Managed.allowLink`, `Managed.dropLink` — the calls that change
  the tree; the stores to attributes follow (`Managed.typeStore`, `Managed.statusStore`,
  `Managed.enabledStore_true`).

The lemmas hold for a pool of any size; only `Vkms/Recovery.lean` says how large it is.
-/

set_option autoImplicit false

namespace VirtualDisplay

/-! ## What the calls do to items and links -/

namespace VkmsConfig

/-- A configuration with one more item. -/
def create (config : VkmsConfig Nat) : ItemKind → Nat → VkmsConfig Nat
  | .plane => config.createPlane
  | .crtc => config.createCrtc
  | .encoder => config.createEncoder
  | .connector => config.createConnector

/-- A configuration with one item less, and without the links to it. -/
def destroy (config : VkmsConfig Nat) : ItemKind → Nat → VkmsConfig Nat
  | .plane => config.destroyPlane
  | .crtc => config.destroyCrtc
  | .encoder => config.destroyEncoder
  | .connector => config.destroyConnector

/-- A configuration with one more link. -/
def attach (config : VkmsConfig Nat) : LinkKind → Nat → Nat → VkmsConfig Nat
  | .planeCrtc, i, j => config.setPlane i
    { config.plane i with possibleCrtcs := (config.plane i).possibleCrtcs ++ [j] }
  | .encoderCrtc, i, j => config.setEncoder i
    { config.encoder i with possibleCrtcs := (config.encoder i).possibleCrtcs ++ [j] }
  | .connectorEncoder, i, j => config.setConnector i
    { config.connector i with possibleEncoders := (config.connector i).possibleEncoders ++ [j] }

/-- A configuration with one link less. -/
def detach (config : VkmsConfig Nat) : LinkKind → Nat → Nat → VkmsConfig Nat
  | .planeCrtc, i, j => config.setPlane i ((config.plane i).detachCrtc j)
  | .encoderCrtc, i, j => config.setEncoder i ((config.encoder i).detachCrtc j)
  | .connectorEncoder, i, j => config.setConnector i ((config.connector i).detachEncoder j)

variable (config : VkmsConfig Nat)

theorem items_create (kind : ItemKind) (i : Nat) (kind' : ItemKind) :
    (config.create kind i).items kind' =
      config.items kind' ++ if kind' = kind then [i] else [] := by
  cases kind <;> cases kind' <;> simp [create, items, createPlane, createCrtc, createEncoder,
    createConnector]

theorem mem_links {link : LinkKind} {i j : Nat} :
    j ∈ config.links link i ↔ i ∈ config.items link.source ∧ j ∈ config.linksAt link i := by
  rw [links]
  split_ifs with hi <;> simp [hi]

/-- A new item has no links. -/
theorem links_create {kind : ItemKind} {i : Nat} (hi : i ∉ config.items kind) (link : LinkKind)
    (j : Nat) : (config.create kind i).links link j = config.links link j := by
  have hat : ∀ link j, (config.create kind i).linksAt link j =
      if link.source = kind ∧ j = i then [] else config.linksAt link j := by
    intro link j
    by_cases hj : j = i
    · subst hj
      cases kind <;> cases link <;> simp [create, linksAt, createPlane, createCrtc, createEncoder,
        createConnector, LinkKind.source]
    · cases kind <;> cases link <;> simp [create, linksAt, createPlane, createCrtc, createEncoder,
        createConnector, hj]
  simp only [links, items_create, hat]
  by_cases hnew : link.source = kind ∧ j = i
  · rw [if_pos hnew, ite_self, if_neg (by rw [hnew.1, hnew.2]; exact hi)]
  · rw [if_neg hnew]
    refine if_congr ?_ rfl rfl
    rw [List.mem_append, or_iff_left]
    intro hmem
    split_ifs at hmem with hkind
    · exact hnew ⟨hkind, List.mem_singleton.mp hmem⟩
    · cases hmem

theorem items_destroy (kind : ItemKind) (i : Nat) (kind' : ItemKind) :
    (config.destroy kind i).items kind' =
      if kind' = kind then (config.items kind').erase i else config.items kind' := by
  cases kind <;> cases kind' <;> simp [destroy, items, destroyPlane, destroyCrtc, destroyEncoder,
    destroyConnector]

/-- An item that has no links and that no link leads to. -/
theorem links_destroy (h : config.Linked) {kind : ItemKind} {i : Nat}
    (hfrom : ∀ link : LinkKind, link.source = kind → config.links link i = [])
    (hto : ∀ (link : LinkKind) (j : Nat), link.target = kind → i ∉ config.links link j)
    (link : LinkKind) (j : Nat) : (config.destroy kind i).links link j = config.links link j := by
  have hat : (config.destroy kind i).linksAt link j =
      if link.target = kind ∧ j ∈ config.items link.source then
        (config.linksAt link j).filter (· ≠ i)
      else config.linksAt link j := by
    cases kind <;> cases link <;>
      simp only [destroy, linksAt, destroyPlane, destroyCrtc, destroyEncoder, destroyConnector,
        items, LinkKind.source, LinkKind.target, reduceCtorEq, false_and, true_and, if_false] <;>
      split_ifs <;> rfl
  have hnodup : (config.items kind).Nodup := by
    cases kind
    · exact h.planes
    · exact h.crtcs
    · exact h.encoders
    · exact h.connectors
  by_cases hpresent : j ∈ config.items link.source
  · by_cases hgone : link.source = kind ∧ j = i
    · have hnone := hfrom link hgone.1
      rw [hgone.2, hnone, links, if_neg]
      rw [items_destroy, if_pos hgone.1, hgone.1]
      exact hnodup.not_mem_erase
    · have hstays : j ∈ (config.destroy kind i).items link.source := by
        rw [items_destroy]
        split_ifs with hkind
        · exact (List.mem_erase_of_ne fun hj ↦ hgone ⟨hkind, hj⟩).mpr hpresent
        · exact hpresent
      rw [links, links, if_pos hstays, if_pos hpresent, hat]
      split_ifs with htarget
      · refine List.filter_eq_self.mpr fun j' hj' ↦ ?_
        have hne : j' ≠ i := by
          rintro rfl
          exact hto link j htarget.1 ((config.mem_links).mpr ⟨hpresent, hj'⟩)
        simpa using hne
      · rfl
  · have hgone : j ∉ (config.destroy kind i).items link.source := by
      rw [items_destroy]
      split_ifs
      · exact fun hmem ↦ hpresent (List.mem_of_mem_erase hmem)
      · exact hpresent
    rw [links, links, if_neg hgone, if_neg hpresent]

theorem items_attach (link : LinkKind) (i j : Nat) (kind : ItemKind) :
    (config.attach link i j).items kind = config.items kind := by
  cases link <;> cases kind <;> rfl

theorem links_attach {link : LinkKind} {i : Nat} (hi : i ∈ config.items link.source) (j : Nat)
    (link' : LinkKind) (i' : Nat) :
    (config.attach link i j).links link' i' =
      config.links link' i' ++ if link' = link ∧ i' = i then [j] else [] := by
  have hat : (config.attach link i j).linksAt link' i' =
      config.linksAt link' i' ++ if link' = link ∧ i' = i then [j] else [] := by
    by_cases hi' : i' = i
    · subst hi'
      cases link <;> cases link' <;> simp [attach, linksAt, setPlane, setEncoder, setConnector]
    · cases link <;> cases link' <;> simp [attach, linksAt, setPlane, setEncoder, setConnector, hi']
  rw [links, links, items_attach, hat]
  split_ifs with hpresent hlink <;> simp_all

theorem items_detach (link : LinkKind) (i j : Nat) (kind : ItemKind) :
    (config.detach link i j).items kind = config.items kind := by
  cases link <;> cases kind <;> rfl

theorem links_detach (link : LinkKind) (i j : Nat) (link' : LinkKind) (i' : Nat) :
    (config.detach link i j).links link' i' =
      if link' = link ∧ i' = i then (config.links link' i').filter (· ≠ j)
      else config.links link' i' := by
  have hat : (config.detach link i j).linksAt link' i' =
      if link' = link ∧ i' = i then (config.linksAt link' i').filter (· ≠ j)
      else config.linksAt link' i' := by
    by_cases hi' : i' = i
    · subst hi'
      cases link <;> cases link' <;> simp [detach, linksAt, setPlane, setEncoder, setConnector,
        VkmsConfigPlane.detachCrtc, VkmsConfigEncoder.detachCrtc, VkmsConfigConnector.detachEncoder]
    · cases link <;> cases link' <;> simp [detach, linksAt, setPlane, setEncoder, setConnector, hi']
  rw [links, links, items_detach, hat]
  split_ifs <;> simp_all

theorem status_create (kind : ItemKind) (i : Nat) :
    ∀ c ∈ (config.create kind i).connectors,
      ((config.create kind i).connector c).status = .disconnected ∨
        c ∈ config.connectors ∧
          ((config.create kind i).connector c).status = (config.connector c).status := by
  intro c hc
  cases kind with
  | connector =>
    by_cases hnew : c = i
    · simp [create, createConnector, hnew]
    · simp only [create, createConnector, List.mem_append, List.mem_singleton, hnew,
        or_false] at hc
      simp [create, createConnector, hnew, hc]
  | _ => exact .inr ⟨hc, rfl⟩

theorem status_destroy (kind : ItemKind) (i : Nat) :
    ∀ c ∈ (config.destroy kind i).connectors, c ∈ config.connectors ∧
      ((config.destroy kind i).connector c).status = (config.connector c).status := by
  intro c hc
  cases kind with
  | connector => exact ⟨List.mem_of_mem_erase hc, rfl⟩
  | encoder =>
    refine ⟨hc, ?_⟩
    simp only [destroy, destroyEncoder]
    split_ifs <;> rfl
  | _ => exact ⟨hc, rfl⟩

theorem status_attach (link : LinkKind) (i j c : Nat) :
    ((config.attach link i j).connector c).status = (config.connector c).status := by
  cases link with
  | connectorEncoder =>
    by_cases hc : c = i
    · simp [attach, setConnector, hc]
    · simp [attach, setConnector, hc]
  | _ => rfl

theorem status_detach (link : LinkKind) (i j c : Nat) :
    ((config.detach link i j).connector c).status = (config.connector c).status := by
  cases link with
  | connectorEncoder =>
    by_cases hc : c = i
    · simp [detach, setConnector, hc, VkmsConfigConnector.detachEncoder]
    · simp [detach, setConnector, hc]
  | _ => rfl

end VkmsConfig

/-! ## Devices that the service leaves behind -/

namespace Pool

/-- Every item of the pool is there. -/
def Full (n : Nat) (config : VkmsConfig Nat) : Prop := ∀ kind, ∀ i < n, i ∈ config.items kind

/-- A configuration of so many pipelines, each of them linked. -/
structure Whole (n : Nat) (config : VkmsConfig Nat) : Prop where
  full : Full n config
  types : ∀ i < n, (config.plane i).type = .primary
  links : ∀ link, ∀ i < n, i ∈ config.links link i

/-- No link is there unless all items are, and the device is not enabled unless it is whole. -/
structure Managed (n : Nat) (s : VkmsConfigfsDevice Nat) : Prop where
  sound : s.Sound
  items : ∀ kind, ∀ i ∈ s.config.items kind, i < n
  links : ∀ link i, ∀ j ∈ s.config.links link i, j = i
  full : ∀ link i, s.config.links link i ≠ [] → Full n s.config
  status : ∀ c ∈ s.config.connectors, (s.config.connector c).status ≠ .unknown
  whole : s.enabled = true → Whole n s.config

variable {n : Nat} {s : VkmsConfigfsDevice Nat}

theorem Managed.nodup (h : Managed n s) (kind : ItemKind) : (s.config.items kind).Nodup := by
  cases kind
  · exact h.sound.linked.planes
  · exact h.sound.linked.crtcs
  · exact h.sound.linked.encoders
  · exact h.sound.linked.connectors

theorem Managed.perm_range (h : Managed n s) (hfull : Full n s.config) (kind : ItemKind) :
    (s.config.items kind).Perm (List.range n) := by
  refine (List.perm_ext_iff_of_nodup (h.nodup kind) List.nodup_range).mpr fun i ↦ ?_
  rw [List.mem_range]
  exact ⟨h.items kind i, hfull kind i⟩

/-- The links of an item lead to the item of the same index. -/
theorem Managed.mem_linksAt (h : Managed n s) (hwhole : Whole n s.config) (link : LinkKind)
    {i j : Nat} (hi : i ∈ s.config.items link.source) : j ∈ s.config.linksAt link i ↔ j = i := by
  constructor
  · intro hj
    exact h.links link i j (s.config.mem_links.mpr ⟨hi, hj⟩)
  · rintro rfl
    exact (s.config.mem_links.mp (hwhole.links link j (h.items _ j hi))).2

theorem Managed.isValid (h : Managed n s) (hwhole : Whole n s.config) (hn : 0 < n ∧ n < 32) :
    s.config.isValid = true := by
  have hlength : ∀ kind, 0 < (s.config.items kind).length ∧ (s.config.items kind).length < 32 := by
    intro kind
    rw [(h.perm_range hwhole.full kind).length_eq, List.length_range]
    exact hn
  have hne : ∀ (link : LinkKind), ∀ i ∈ s.config.items link.source,
      s.config.linksAt link i ≠ [] :=
    fun link i hi ↦ List.ne_nil_of_mem ((h.mem_linksAt hwhole link hi).mpr rfl)
  have hoffers : ∀ c type, ∀ p ∈ s.config.planes,
      s.config.Offers c type p ↔ type = .primary ∧ p = c := by
    intro c type p hp
    have hlinks := h.mem_linksAt hwhole .planeCrtc (j := c) hp
    have htype := hwhole.types p (h.items .plane p hp)
    rw [VkmsConfig.Offers, htype]
    exact and_congr eq_comm (hlinks.trans eq_comm)
  refine (VkmsConfig.isValid_iff h.sound.linked).mpr {
    planes := hlength .plane, crtcs := hlength .crtc, encoders := hlength .encoder
    connectors := hlength .connector
    plane := hne .planeCrtc, encoder := hne .encoderCrtc, connector := hne .connectorEncoder
    primary := fun c hc ↦ ⟨c, ?_⟩
    cursor := fun c _ ↦ ?_
    crtc := fun c hc ↦ ?_ }
  · have hcn := h.items .crtc c hc
    have hfilter : s.config.offered c .primary = s.config.planes.filter (· = c) := by
      refine List.filter_congr fun p hp ↦ ?_
      simp [hoffers c .primary p hp]
    have hmem : c ∈ s.config.planes := hwhole.full .plane c hcn
    rw [hfilter, List.filter_eq, List.count_eq_one_of_mem h.sound.linked.planes hmem,
      List.replicate_one]
  · have hfilter : s.config.offered c .cursor = [] := by
      refine List.filter_eq_nil_iff.mpr fun p hp ↦ ?_
      simp [hoffers c .cursor p hp]
    simp [hfilter]
  · have hcn := h.items .crtc c hc
    have hmem : c ∈ s.config.items LinkKind.encoderCrtc.source := hwhole.full .encoder c hcn
    exact ⟨c, hmem, (h.mem_linksAt hwhole .encoderCrtc hmem).mpr rfl⟩

/-! ## What the operations do to a device -/

/-- Nothing but the data of items has changed. -/
theorem Managed.of_same {s' : VkmsConfigfsDevice Nat} (h : Managed n s) (hsound : s'.Sound)
    (hitems : ∀ kind, s'.config.items kind = s.config.items kind)
    (hlinks : ∀ link i, s'.config.links link i = s.config.links link i)
    (hstatus : ∀ c ∈ s.config.connectors, (s'.config.connector c).status ≠ .unknown)
    (hwhole : s'.enabled = true → Whole n s'.config) : Managed n s' where
  sound := hsound
  items kind := by
    rw [hitems]
    exact h.items kind
  links link i := by
    rw [hlinks]
    exact h.links link i
  full link i hne kind := by
    rw [hlinks] at hne
    rw [hitems]
    exact h.full link i hne kind
  status c hc := by
    have hconnectors : s'.config.connectors = s.config.connectors := hitems .connector
    rw [hconnectors] at hc
    exact hstatus c hc
  whole := hwhole

theorem call_make (kind : ItemKind) (i : Nat) :
    s.call (.make kind i) = s.makeGroup (i ∈ s.config.items kind) (s.config.create kind i) := by
  cases kind <;> rfl

theorem call_release (kind : ItemKind) (i : Nat) :
    s.call (.release kind i) = s.release (i ∈ s.config.items kind) (s.config.destroy kind i) := by
  cases kind <;> rfl

theorem call_allowLink (link : LinkKind) (i j : Nat) :
    s.call (.allowLink link i j) =
      s.allowLink (i ∈ s.config.items link.source && j ∈ s.config.items link.target)
        (j ∈ s.config.linksAt link i) (s.config.attach link i j) := by
  cases link <;> rfl

theorem call_dropLink (link : LinkKind) (i j : Nat) :
    s.call (.dropLink link i j) =
      s.release (i ∈ s.config.items link.source) (s.config.detach link i j) := by
  cases link <;> rfl

theorem Managed.make (h : Managed n s) (kind : ItemKind) {i : Nat} (hi : i < n) :
    Managed n (s.call (.make kind i)).2 ∧
      (∀ kind', s.config.items kind' ⊆ (s.call (.make kind i)).2.config.items kind') ∧
      ((s.call (.make kind i)).1 = none → i ∈ (s.call (.make kind i)).2.config.items kind) := by
  have hsound := h.sound.call (.make kind i)
  rw [call_make] at hsound ⊢
  rw [VkmsConfigfsDevice.makeGroup] at hsound ⊢
  split_ifs at hsound ⊢ with htaken henabled
  · exact ⟨h, fun _ ↦ List.Subset.refl _, by simp [VkmsConfigfsDevice.refuse]⟩
  · exact ⟨h, fun _ ↦ List.Subset.refl _, by simp [VkmsConfigfsDevice.refuse]⟩
  · have hfresh : i ∉ s.config.items kind := by simpa using htaken
    have hsub : ∀ kind', s.config.items kind' ⊆ (s.config.create kind i).items kind' := by
      intro kind'
      rw [s.config.items_create]
      exact List.subset_append_left _ _
    refine ⟨?_, hsub, fun _ ↦ ?_⟩
    · refine {
        sound := hsound
        items := fun kind' j hj ↦ ?_
        links := fun link j ↦ ?_
        full := fun link j hne kind' j' hj' ↦ ?_
        status := fun c hc ↦ ?_
        whole := fun htrue ↦ absurd htrue henabled }
      · have hj' : j ∈ (s.config.create kind i).items kind' := hj
        rw [s.config.items_create, List.mem_append] at hj'
        rcases hj' with hj' | hj'
        · exact h.items kind' j hj'
        · split_ifs at hj'
          · rw [List.mem_singleton.mp hj']
            exact hi
          · cases hj'
      · show ∀ j' ∈ (s.config.create kind i).links link j, j' = j
        rw [s.config.links_create hfresh]
        exact h.links link j
      · have hne' : (s.config.create kind i).links link j ≠ [] := hne
        rw [s.config.links_create hfresh] at hne'
        exact hsub kind' (h.full link j hne' kind' j' hj')
      · show ((s.config.create kind i).connector c).status ≠ .unknown
        rcases s.config.status_create kind i c hc with hnew | ⟨hold, hsame⟩
        · rw [hnew]
          decide
        · rw [hsame]
          exact h.status c hold
    · show i ∈ (s.config.create kind i).items kind
      rw [s.config.items_create]
      simp

/-- Every link and every item stays but this one. -/
theorem Managed.release (h : Managed n s) (hdisabled : s.enabled = false)
    (hunlinked : ∀ link i, s.config.links link i = []) (kind : ItemKind) (i : Nat) :
    Managed n (s.call (.release kind i)).2 ∧ (s.call (.release kind i)).2.enabled = false ∧
      (∀ link j, (s.call (.release kind i)).2.config.links link j = []) ∧
      (∀ kind', (s.call (.release kind i)).2.config.items kind' ⊆ s.config.items kind') ∧
      i ∉ (s.call (.release kind i)).2.config.items kind ∧
      (i ∈ s.config.items kind → (s.call (.release kind i)).1 = none) := by
  have hsound := h.sound.call (.release kind i)
  rw [call_release] at hsound ⊢
  rw [VkmsConfigfsDevice.release] at hsound ⊢
  split_ifs at hsound ⊢ with hpresent
  · have hlinks : ∀ link j, (s.config.destroy kind i).links link j = [] := by
      intro link j
      rw [s.config.links_destroy h.sound.linked (fun link _ ↦ hunlinked link i)
        (fun link j _ ↦ by simp [hunlinked])]
      exact hunlinked link j
    have hsub : ∀ kind', (s.config.destroy kind i).items kind' ⊆ s.config.items kind' := by
      intro kind'
      rw [s.config.items_destroy]
      split_ifs
      · exact List.erase_subset
      · exact List.Subset.refl _
    refine ⟨?_, hdisabled, hlinks, hsub, ?_, fun _ ↦ rfl⟩
    · refine {
        sound := hsound
        items := fun kind' j hj ↦ h.items kind' j (hsub kind' hj)
        links := fun link j j' hj' ↦ ?_
        full := fun link j hne ↦ absurd (hlinks link j) hne
        status := fun c hc ↦ ?_
        whole := fun htrue ↦ ?_ }
      · have hj : j' ∈ (s.config.destroy kind i).links link j := hj'
        rw [hlinks] at hj
        cases hj
      · obtain ⟨hold, hsame⟩ := s.config.status_destroy kind i c hc
        show ((s.config.destroy kind i).connector c).status ≠ .unknown
        rw [hsame]
        exact h.status c hold
      · have hsame : s.enabled = true := htrue
        rw [hdisabled] at hsame
        cases hsame
    · show i ∉ (s.config.destroy kind i).items kind
      rw [s.config.items_destroy, if_pos rfl]
      exact (h.nodup kind).not_mem_erase
  · have habsent : i ∉ s.config.items kind := by simpa using hpresent
    exact ⟨h, hdisabled, hunlinked, fun _ ↦ List.Subset.refl _, habsent,
      fun hi ↦ absurd hi habsent⟩

theorem Managed.allowLink (h : Managed n s) (hfull : Full n s.config) (link : LinkKind) (i : Nat) :
    Managed n (s.call (.allowLink link i i)).2 ∧
      ∀ kind, (s.call (.allowLink link i i)).2.config.items kind = s.config.items kind := by
  have hsound := h.sound.call (.allowLink link i i)
  rw [call_allowLink] at hsound ⊢
  rw [VkmsConfigfsDevice.allowLink] at hsound ⊢
  split_ifs at hsound ⊢ with hpresent henabled hlinked
  · exact ⟨h, fun _ ↦ rfl⟩
  · exact ⟨h, fun _ ↦ rfl⟩
  · exact ⟨h, fun _ ↦ rfl⟩
  · have hi : i ∈ s.config.items link.source ∧ i ∈ s.config.items link.target := by
      simpa using hpresent
    have hitems := s.config.items_attach link i i
    refine ⟨{
      sound := hsound
      items := fun kind j hj ↦ ?_
      links := fun link' j j' hj' ↦ ?_
      full := fun link' j hne kind j' hj' ↦ ?_
      status := fun c hc ↦ ?_
      whole := fun htrue ↦ absurd htrue henabled }, hitems⟩
    · exact h.items kind j (hitems kind ▸ hj)
    · have hj : j' ∈ (s.config.attach link i i).links link' j := hj'
      rw [s.config.links_attach hi.1, List.mem_append] at hj
      rcases hj with hj | hj
      · exact h.links link' j j' hj
      · split_ifs at hj with hsame
        · rw [List.mem_singleton.mp hj, hsame.2]
        · cases hj
    · show j' ∈ (s.config.attach link i i).items kind
      rw [hitems]
      exact hfull kind j' hj'
    · have hc' : c ∈ s.config.items .connector := hitems .connector ▸ hc
      show ((s.config.attach link i i).connector c).status ≠ .unknown
      rw [s.config.status_attach]
      exact h.status c hc'

theorem Managed.dropLink (h : Managed n s) (hdisabled : s.enabled = false) (link : LinkKind)
    (i : Nat) :
    Managed n (s.call (.dropLink link i i)).2 ∧ (s.call (.dropLink link i i)).2.enabled = false ∧
      (∀ link' j, s.config.links link' j = [] →
        (s.call (.dropLink link i i)).2.config.links link' j = []) ∧
      (s.call (.dropLink link i i)).2.config.links link i = [] ∧
      (i ∈ s.config.links link i → (s.call (.dropLink link i i)).1 = none) := by
  have hsound := h.sound.call (.dropLink link i i)
  rw [call_dropLink] at hsound ⊢
  rw [VkmsConfigfsDevice.release] at hsound ⊢
  split_ifs at hsound ⊢ with hpresent
  · have hitems := s.config.items_detach link i i
    have hlinks := s.config.links_detach link i i
    have hnone : ∀ link' j, s.config.links link' j = [] →
        (s.config.detach link i i).links link' j = [] := by
      intro link' j hj
      rw [hlinks, hj]
      simp
    refine ⟨{
      sound := hsound
      items := fun kind j hj ↦ ?_
      links := fun link' j j' hj' ↦ ?_
      full := fun link' j hne kind j' hj' ↦ ?_
      status := fun c hc ↦ ?_
      whole := fun htrue ↦ ?_ }, hdisabled, hnone, ?_, fun _ ↦ rfl⟩
    · exact h.items kind j (hitems kind ▸ hj)
    · have hj : j' ∈ (s.config.detach link i i).links link' j := hj'
      rw [hlinks] at hj
      split_ifs at hj
      · exact h.links link' j j' (List.mem_of_mem_filter hj)
      · exact h.links link' j j' hj
    · show j' ∈ (s.config.detach link i i).items kind
      rw [hitems]
      exact h.full link' j (fun hj ↦ hne (hnone link' j hj)) kind j' hj'
    · have hc' : c ∈ s.config.items .connector := hitems .connector ▸ hc
      show ((s.config.detach link i i).connector c).status ≠ .unknown
      rw [s.config.status_detach]
      exact h.status c hc'
    · have hsame : s.enabled = true := htrue
      rw [hdisabled] at hsame
      cases hsame
    · show (s.config.detach link i i).links link i = []
      rw [hlinks, if_pos ⟨rfl, rfl⟩]
      refine List.filter_eq_nil_iff.mpr fun j hj ↦ ?_
      simp [h.links link i j hj]
  · have habsent : i ∉ s.config.items link.source := by simpa using hpresent
    have hnone : s.config.links link i = [] := if_neg habsent
    exact ⟨h, hdisabled, fun _ _ ↦ id, hnone, by simp [hnone]⟩

theorem linksAt_congr {config config' : VkmsConfig Nat}
    (hitems : ∀ kind, config'.items kind = config.items kind)
    (hat : ∀ link i, config'.linksAt link i = config.linksAt link i) (link : LinkKind) (i : Nat) :
    config'.links link i = config.links link i := by
  rw [VkmsConfig.links, VkmsConfig.links, hitems, hat]

/-- A store that an enabled device refuses. -/
theorem Managed.accept_data (h : Managed n s) {config : VkmsConfig Nat}
    (hdisabled : s.enabled = false) (hsound : (s.accept config).2.Sound)
    (hitems : ∀ kind, config.items kind = s.config.items kind)
    (hat : ∀ link i, config.linksAt link i = s.config.linksAt link i)
    (hstatus : config.connector = s.config.connector) : Managed n (s.accept config).2 := by
  refine h.of_same hsound hitems (linksAt_congr hitems hat) (fun c hc ↦ ?_) fun htrue ↦ ?_
  · show (config.connector c).status ≠ .unknown
    rw [hstatus]
    exact h.status c hc
  · have hsame : s.enabled = true := htrue
    rw [hdisabled] at hsame
    cases hsame

theorem Managed.typeStore (h : Managed n s) (i type : Nat) :
    Managed n (s.call (.planeTypeStore i type)).2 ∧
      ∀ kind, (s.call (.planeTypeStore i type)).2.config.items kind = s.config.items kind := by
  have hsound := h.sound.call (.planeTypeStore i type)
  rw [VkmsConfigfsDevice.call] at hsound ⊢
  cases htype : DrmPlaneType.ofNat? type with
  | none => split_ifs <;> exact ⟨h, fun _ ↦ rfl⟩
  | some type =>
    simp only [htype] at hsound ⊢
    split_ifs at hsound ⊢ with hpresent henabled
    · exact ⟨h, fun _ ↦ rfl⟩
    · have hitems : ∀ kind,
          (s.config.setPlane i { s.config.plane i with type := type }).items kind =
            s.config.items kind := fun kind ↦ by cases kind <;> rfl
      refine ⟨h.accept_data (by simpa using henabled) hsound hitems (fun link j ↦ ?_) rfl, hitems⟩
      by_cases hj : j = i
      · cases link <;> simp [VkmsConfig.linksAt, VkmsConfig.setPlane, hj]
      · cases link <;> simp [VkmsConfig.linksAt, VkmsConfig.setPlane, hj]
    · exact ⟨h, fun _ ↦ rfl⟩

theorem Managed.writebackStore (h : Managed n s) (i : Nat) (writeback : Bool) :
    Managed n (s.call (.crtcWritebackStore i writeback)).2 ∧
      ∀ kind, (s.call (.crtcWritebackStore i writeback)).2.config.items kind =
        s.config.items kind := by
  have hsound := h.sound.call (.crtcWritebackStore i writeback)
  rw [VkmsConfigfsDevice.call] at hsound ⊢
  split_ifs at hsound ⊢ with hpresent hwriteback henabled
  · exact ⟨h, fun _ ↦ rfl⟩
  · exact ⟨h, fun _ ↦ rfl⟩
  · have hitems : ∀ kind, VkmsConfig.items { s.config with
        crtc := Function.update s.config.crtc i { writeback := writeback } } kind =
          s.config.items kind := fun kind ↦ by cases kind <;> rfl
    exact ⟨h.accept_data (by simpa using henabled) hsound hitems
      (fun link j ↦ by cases link <;> rfl) rfl, hitems⟩
  · exact ⟨h, fun _ ↦ rfl⟩

theorem storeConnector_config (c : Nat) (value : VkmsConfigConnector Nat)
    (pass : DrmConnectorObject → DrmConnectorObject) :
    (s.storeConnector c value pass).config = s.config.setConnector c value ∧
      (s.storeConnector c value pass).enabled = s.enabled := by
  rw [VkmsConfigfsDevice.storeConnector]
  split
  · split
    · split <;> exact ⟨rfl, rfl⟩
    · exact ⟨rfl, rfl⟩
  · exact ⟨rfl, rfl⟩

/-- A status may be stored in a device that is enabled, too. -/
theorem Managed.statusStore (h : Managed n s) (i : Nat) {status : Nat}
    (hstatus : status = 1 ∨ status = 2) :
    Managed n (s.call (.connectorStatusStore i status)).2 ∧
      ∀ kind, (s.call (.connectorStatusStore i status)).2.config.items kind =
        s.config.items kind := by
  have hsound := h.sound.call (.connectorStatusStore i status)
  rw [VkmsConfigfsDevice.call] at hsound ⊢
  obtain ⟨status', hparsed, hknown⟩ : ∃ status', DrmConnectorStatus.ofNat? status = some status' ∧
      status' ≠ .unknown := by
    rcases hstatus with rfl | rfl
    · exact ⟨.connected, rfl, by decide⟩
    · exact ⟨.disconnected, rfl, by decide⟩
  simp only [hparsed] at hsound ⊢
  split_ifs at hsound ⊢ with hpresent
  · obtain ⟨hconfig, henabled⟩ := storeConnector_config (s := s) i
      { s.config.connector i with status := status' } fun object ↦ { object with status := status' }
    have hitems : ∀ kind, (s.config.setConnector i
        { s.config.connector i with status := status' }).items kind = s.config.items kind :=
      fun kind ↦ by cases kind <;> rfl
    have hlinks := linksAt_congr hitems fun link j ↦ by
      by_cases hj : j = i
      · cases link <;> simp [VkmsConfig.linksAt, VkmsConfig.setConnector, hj]
      · cases link <;> simp [VkmsConfig.linksAt, VkmsConfig.setConnector, hj]
    refine ⟨h.of_same hsound ?_ ?_ ?_ ?_, ?_⟩
    · rw [hconfig]
      exact hitems
    · rw [hconfig]
      exact hlinks
    · rw [hconfig]
      intro c hc
      by_cases hsame : c = i
      · simpa [VkmsConfig.setConnector, hsame] using hknown
      · simpa [VkmsConfig.setConnector, hsame] using h.status c hc
    · rw [hconfig, henabled]
      intro htrue
      obtain ⟨hfull, htypes, hwhole⟩ := h.whole htrue
      exact ⟨fun kind j hj ↦ hitems kind ▸ hfull kind j hj, htypes,
        fun link j hj ↦ hlinks link j ▸ hwhole link j hj⟩
    · rw [hconfig]
      exact hitems
  · exact ⟨h, fun _ ↦ rfl⟩

theorem links_referTo (number count : Nat) :
    (∀ kind, (s.referTo number count).items kind = s.config.items kind) ∧
      (∀ link i, (s.referTo number count).links link i = s.config.links link i) ∧
      (∀ c, ((s.referTo number count).connector c).status = (s.config.connector c).status) ∧
      (s.referTo number count).plane = s.config.plane := by
  have hitems : ∀ kind, (s.referTo number count).items kind = s.config.items kind :=
    fun kind ↦ by cases kind <;> rfl
  refine ⟨hitems, linksAt_congr hitems fun link i ↦ ?_, fun c ↦ ?_, rfl⟩
  · cases link with
    | connectorEncoder => exact VkmsConfigfsDevice.referTo_possibleEncoders number count i
    | _ => rfl
  · rw [VkmsConfigfsDevice.referTo_connector]
    split_ifs <;> rfl

theorem Whole.of_same {config config' : VkmsConfig Nat} (h : Whole n config)
    (hitems : ∀ kind, config'.items kind = config.items kind)
    (hlinks : ∀ link i, config'.links link i = config.links link i)
    (hplane : config'.plane = config.plane) : Whole n config' where
  full kind i hi := hitems kind ▸ h.full kind i hi
  types i hi := hplane ▸ h.types i hi
  links link i hi := hlinks link i ▸ h.links link i hi

/-- A device that is enabled is whole; that it comes to be enabled is for the kernel to say. -/
theorem Managed.enabledStore_true (h : Managed n s) (hwhole : Whole n s.config)
    (creation : VkmsCreation) :
    Managed n (s.call (.deviceEnabledStore true creation)).2 ∧
      ((s.call (.deviceEnabledStore true creation)).1 = none →
        (s.call (.deviceEnabledStore true creation)).2.enabled = true) := by
  have hsound := h.sound.call (.deviceEnabledStore true creation)
  rw [VkmsConfigfsDevice.call, VkmsConfigfsDevice.deviceEnabledStore] at hsound ⊢
  split_ifs at hsound ⊢ with hcreate hvalid hdestroy
  · exact ⟨h, by simp [VkmsConfigfsDevice.refuse]⟩
  · have hdisabled : s.enabled = false := by simpa using hcreate
    cases creation with
    | created =>
      obtain ⟨hitems, hlinks, hstatus, hplane⟩ :=
        links_referTo (s := s) s.creations s.config.connectors.length
      exact ⟨h.of_same hsound hitems hlinks (fun c hc ↦ hstatus c ▸ h.status c hc)
        fun _ ↦ hwhole.of_same hitems hlinks hplane, fun _ ↦ rfl⟩
    | failed error connectors =>
      obtain ⟨hitems, hlinks, hstatus, hplane⟩ := links_referTo (s := s) s.creations connectors
      exact ⟨h.of_same hsound hitems hlinks (fun c hc ↦ hstatus c ▸ h.status c hc)
        fun _ ↦ hwhole.of_same hitems hlinks hplane, by simp [VkmsConfigfsDevice.vkmsCreate]⟩
  · simp at hdestroy
  · exact ⟨h.of_same hsound (fun _ ↦ rfl) (fun _ _ ↦ rfl) h.status fun _ ↦ hwhole, fun _ ↦ rfl⟩

theorem Managed.enabledStore_false (h : Managed n s) (creation : VkmsCreation) :
    (s.call (.deviceEnabledStore false creation)).1 = none ∧
      Managed n (s.call (.deviceEnabledStore false creation)).2 ∧
      (s.call (.deviceEnabledStore false creation)).2.enabled = false := by
  have hsound := h.sound.call (.deviceEnabledStore false creation)
  rw [VkmsConfigfsDevice.call, VkmsConfigfsDevice.deviceEnabledStore] at hsound ⊢
  split_ifs at hsound ⊢ with hcreate hvalid hdestroy
  · simp at hcreate
  · simp at hcreate
  · exact ⟨rfl, h.of_same hsound (fun _ ↦ rfl) (fun _ _ ↦ rfl) h.status (by simp), rfl⟩
  · exact ⟨rfl, h.of_same hsound (fun _ ↦ rfl) (fun _ _ ↦ rfl) h.status (by simp), rfl⟩

end Pool

end VirtualDisplay
