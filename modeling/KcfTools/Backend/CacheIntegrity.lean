import KcfTools.Backend.Refresh

/-! The cross references of the cache that a refresh leaves behind. -/

namespace KcfTools.KcfBackend

open Traced

/-- The process of a record is listed. -/
def HasElement (c : Impl) (id : EndpointIdentity) : Prop := ∃ e ∈ c.elements, e.identity = id.runtime

/-- The last listed element of a process. -/
def owner (c : Impl) (id : EndpointIdentity) : Option ElementInfo :=
  c.elements.findRev? fun e => e.identity = id.runtime

/-- The cache agrees with itself and with the final scans of the runtimes and of the supervisors. -/
structure Intact (live : List RuntimeInfo) (supervisors : List SupervisorInfo) (c : Impl) : Prop where
  topics : ∀ r ∈ c.topics, HasElement c r.model.identity
  parameters : ∀ r ∈ c.parameters, HasElement c r.model.identity
  services : ∀ r ∈ c.services, HasElement c r.model.identity
  live : ∀ e ∈ c.elements, ∃ v ∈ live, e.identity = ⟨v.pid, v.processStartTicks⟩
  applications : c.applications = supervisors.map application
  supervised : ∀ e ∈ c.elements, 0 < e.supervisor.pid → ∃ s ∈ supervisors, ∃ a ∈ c.applications,
    a = application s ∧ a.supervisor = e.supervisor ∧ a.name = e.applicationName ∧
      ∃ m ∈ s.elements, ⟨m.pid, m.processStartTicks⟩ = e.identity ∧ m.name = e.name
  unsupervised : (∀ s ∈ supervisors, 0 < s.pid) → ∀ e ∈ c.elements, ¬ 0 < e.supervisor.pid →
    e.applicationName = defaultApplication e.mode
  roles : ∀ r ∈ c.topics, r.model.role = "PUBLISHER" ∨ r.model.role = "SUBSCRIBER"
  publishers : ∀ r ∈ c.topics, r.model.role = "PUBLISHER" → ∃ e, owner c r.model.identity = some e ∧
    e ∈ c.elements ∧ e.identity = r.model.identity.runtime ∧
      r.model.publishers = [e.name] ∧ r.model.subscribers = []
  subscribers : ∀ r ∈ c.topics, r.model.role = "SUBSCRIBER" → ∃ e, owner c r.model.identity = some e ∧
    e ∈ c.elements ∧ e.identity = r.model.identity.runtime ∧
      r.model.subscribers = [e.name] ∧ r.model.publishers = []
  state : c.state = if c.applications ≠ [] ∨ c.elements ≠ [] then .connected else .disconnected

section Assign

/-- The element is a member of the supervisor and shows its name. -/
def Claimed (s : SupervisorInfo) (e e' : ElementInfo) : Prop :=
  ∃ m ∈ s.elements, ⟨m.pid, m.processStartTicks⟩ = e.identity ∧ e' = { e with
    name := m.name, supervisor := ⟨s.pid, s.processStartTicks⟩, applicationName := s.applicationName }

lemma claim_cases {s : SupervisorInfo} {m : SupervisedElement} (hm : m ∈ s.elements) (e : ElementInfo) :
    claim s e m = e ∨ Claimed s e (claim s e m) := by
  unfold claim
  split_ifs with h
  · exact .inr ⟨m, hm, congrArg₂ RuntimeIdentity.mk h.1 h.2, rfl⟩
  · exact .inl rfl

lemma Claimed.after {s s' : SupervisorInfo} {e e' e'' : ElementInfo} (h : Claimed s e e')
    (h' : Claimed s' e' e'') : Claimed s' e e'' := by
  obtain ⟨m, _, _, rfl⟩ := h
  obtain ⟨m', hm', hid', rfl⟩ := h'
  exact ⟨m', hm', hid', rfl⟩

lemma claims_cases {s : SupervisorInfo} (members : List SupervisedElement) (h : members ⊆ s.elements)
    (e : ElementInfo) : members.foldl (claim s) e = e ∨ Claimed s e (members.foldl (claim s) e) := by
  induction members generalizing e with
  | nil => exact .inl rfl
  | cons m members ih =>
    have hrest : members ⊆ s.elements := fun x hx => h (List.mem_cons_of_mem _ hx)
    rw [List.foldl_cons]
    rcases claim_cases (h List.mem_cons_self) e with heq | hc
    · rw [heq]
      exact ih hrest e
    · rcases ih hrest (claim s e m) with heq | hc'
      · rw [heq]
        exact .inr hc
      · exact .inr (hc.after hc')

/-- The last supervisor that lists the process decides. -/
lemma assign_cases (supervisors : List SupervisorInfo) (e : ElementInfo) :
    assign supervisors e = e ∨ ∃ s ∈ supervisors, Claimed s e (assign supervisors e) := by
  unfold assign
  induction supervisors generalizing e with
  | nil => exact .inl rfl
  | cons s supervisors ih =>
    rw [List.foldl_cons]
    rcases claims_cases s.elements (List.Subset.refl _) e with heq | hc
    · rw [heq]
      rcases ih e with hrest | ⟨s', hs', hc'⟩
      · exact .inl hrest
      · exact .inr ⟨s', List.mem_cons_of_mem _ hs', hc'⟩
    · rcases ih (s.elements.foldl (claim s) e) with hrest | ⟨s', hs', hc'⟩
      · rw [hrest]
        exact .inr ⟨s, List.mem_cons_self, hc⟩
      · exact .inr ⟨s', List.mem_cons_of_mem _ hs', hc.after hc'⟩

@[simp] lemma assign_identity (supervisors : List SupervisorInfo) (e : ElementInfo) :
    (assign supervisors e).identity = e.identity := by
  rcases assign_cases supervisors e with h | ⟨s, _, m, _, _, h⟩
  · rw [h]
  · rw [h]

@[simp] lemma reassign_identity (supervisors : List SupervisorInfo) (e : ElementInfo) :
    (reassign supervisors e).identity = e.identity := assign_identity _ _

end Assign

section Rename

lemma findRev?_some {α : Type} {p : α → Bool} {l : List α} {a : α} (h : l.findRev? p = some a) :
    a ∈ l ∧ p a := by
  rw [List.findRev?_eq_find?_reverse] at h
  exact ⟨List.mem_reverse.mp (List.mem_of_find?_eq_some h), List.find?_some h⟩

lemma rename_role (t : TopicInfo) (e : ElementInfo) :
    (rename t e).role = t.role ∧ (rename t e).identity = t.identity := by
  unfold rename
  split_ifs
  · exact ⟨rfl, rfl⟩
  · exact ⟨rfl, rfl⟩
  · exact ⟨rfl, rfl⟩

/-- The names that a topic lists after all elements, on its own side and on the other. -/
lemma renames_eq (elements : List ElementInfo) (t : TopicInfo) : elements.foldl rename t =
    match elements.findRev? fun e => e.identity = t.identity.runtime with
    | none => t
    | some e => rename t e := by
  induction elements generalizing t with
  | nil => rfl
  | cons e elements ih =>
    have hid := (rename_role t e).2
    rw [List.foldl_cons, ih, List.findRev?, hid]
    cases hf : elements.findRev? fun x => x.identity = t.identity.runtime with
    | none =>
      by_cases he : e.identity = t.identity.runtime
      · simp [he]
      · simp [he, rename]
    | some e' =>
      have he' : e'.identity = t.identity.runtime := of_decide_eq_true (findRev?_some hf).2
      by_cases he : e.identity = t.identity.runtime
      · by_cases hr : t.role = "PUBLISHER"
        · simp [rename, he, he', hr]
        · simp [rename, he, he', hr]
      · simp [rename, he]

end Rename

/-- What holds while the processes are scanned. -/
structure Scanned (c : Impl) : Prop where
  topics : ∀ r ∈ c.topics, HasElement c r.model.identity
  parameters : ∀ r ∈ c.parameters, HasElement c r.model.identity
  services : ∀ r ∈ c.services, HasElement c r.model.identity
  sides : ∀ r ∈ c.topics, r.model.role = "PUBLISHER" ∧ r.model.subscribers = [] ∨
    r.model.role = "SUBSCRIBER" ∧ r.model.publishers = []

section Scan

variable {c : Impl} {e : ElementInfo} {runtime : RuntimeInfo} (texts : ValueCodec.Texts)

lemma topicInfo_sides (e : ElementInfo) (endpoint : EndpointInfo) :
    (topicInfo e endpoint).role = "PUBLISHER" ∧ (topicInfo e endpoint).subscribers = [] ∨
      (topicInfo e endpoint).role = "SUBSCRIBER" ∧ (topicInfo e endpoint).publishers = [] := by
  by_cases h : endpoint.role = .publisher
  · exact .inl (by simp [topicInfo, h])
  · exact .inr (by simp [topicInfo, h])

lemma Scanned.addElement (h : Scanned c) (e : ElementInfo) :
    Scanned { c with elements := c.elements ++ [e] } := by
  have hmore : ∀ {id}, HasElement c id → HasElement { c with elements := c.elements ++ [e] } id :=
    fun ⟨x, hx, hid⟩ => ⟨x, List.mem_append_left _ hx, hid⟩
  exact ⟨fun r hr => hmore (h.topics r hr), fun r hr => hmore (h.parameters r hr),
    fun r hr => hmore (h.services r hr), h.sides⟩

variable (runtime) in
lemma scanEndpoint_scanned (h : Scanned c) (he : e ∈ c.elements) (endpoint : EndpointInfo) :
    Yields (fun c' => Scanned c' ∧ e ∈ c'.elements) (scanEndpoint texts runtime e c endpoint) := by
  unfold scanEndpoint
  cases endpoint.kind with
  | topic =>
    refine Yields.pure ⟨⟨?_, h.parameters, h.services, ?_⟩, he⟩
    · intro r hr
      rcases List.mem_append.mp hr with hr | hr
      · exact h.topics r hr
      · rw [List.mem_singleton.mp hr]
        exact ⟨e, he, rfl⟩
    · intro r hr
      rcases List.mem_append.mp hr with hr | hr
      · exact h.sides r hr
      · rw [List.mem_singleton.mp hr]
        exact topicInfo_sides e endpoint
  | parameter =>
    refine (Yields.any _).bind fun d _ => Yields.pure ⟨⟨h.topics, ?_, h.services, h.sides⟩, he⟩
    intro r hr
    rcases List.mem_append.mp hr with hr | hr
    · exact h.parameters r hr
    · rw [List.mem_singleton.mp hr]
      exact ⟨e, he, rfl⟩
  | other => exact Yields.pure ⟨h, he⟩

lemma Scanned.addServices (h : Scanned c) (he : e ∈ c.elements) (services : List ListedService) :
    Scanned { c with
      services := c.services ++ services.map fun s => ⟨serviceInfo e s, runtime⟩ } := by
  refine ⟨h.topics, h.parameters, fun r hr => ?_, h.sides⟩
  rcases List.mem_append.mp hr with hr | hr
  · exact h.services r hr
  · obtain ⟨s, _, rfl⟩ := List.mem_map.mp hr
    exact ⟨e, he, rfl⟩

lemma scanRuntime_scanned (supervisors : List SupervisorInfo) (h : Scanned c) :
    Yields Scanned (scanRuntime texts supervisors c runtime) := by
  unfold scanRuntime
  refine (Yields.any _).bind fun endpoints _ => ?_
  have hstart := h.addElement (assign supervisors (element runtime))
  refine Yields.bind (P := fun c' => Scanned c' ∧ assign supervisors (element runtime) ∈ c'.elements)
    (Yields.foldlM _ (fun b a _ hb => scanEndpoint_scanned runtime texts hb.1 hb.2 a)
      ⟨hstart, List.mem_append_right _ (List.mem_singleton_self _)⟩)
    fun c' hc' => (Yields.any _).bind fun services _ => Yields.pure ?_
  exact hc'.1.addServices hc'.2 (services.getD [])

end Scan

section Conclude

variable {c : Impl} (live : List RuntimeInfo) (supervisors : List SupervisorInfo)

lemma alive_iff (id : RuntimeIdentity) :
    alive live id ↔ ∃ v ∈ live, id = ⟨v.pid, v.processStartTicks⟩ := by
  unfold alive sameRuntime
  rw [List.any_eq_true]
  refine exists_congr fun v => and_congr_right fun _ => ?_
  rw [decide_eq_true_eq]
  exact ⟨fun h => congrArg₂ RuntimeIdentity.mk h.1 h.2, fun h => h ▸ ⟨rfl, rfl⟩⟩

lemma listed_conclude {id : EndpointIdentity} (h : HasElement c id) (ha : alive live id.runtime) :
    HasElement (conclude live supervisors c) id := by
  obtain ⟨e, he, hid⟩ := h
  refine ⟨reassign supervisors e, ?_, (reassign_identity _ _).trans hid⟩
  exact List.mem_map_of_mem (List.mem_filter.mpr ⟨he, hid ▸ ha⟩)

lemma reassign_supervised {e : ElementInfo} (h : 0 < (reassign supervisors e).supervisor.pid) :
    ∃ s ∈ supervisors, (application s).supervisor = (reassign supervisors e).supervisor ∧
      (application s).name = (reassign supervisors e).applicationName ∧
        ∃ m ∈ s.elements, ⟨m.pid, m.processStartTicks⟩ = (reassign supervisors e).identity ∧
          m.name = (reassign supervisors e).name := by
  rw [reassign_identity]
  unfold reassign at *
  rcases assign_cases supervisors { e with
      name := e.executable, supervisor := {}, applicationName := defaultApplication e.mode } with
    heq | ⟨s, hs, m, hm, hid, heq⟩
  · rw [heq] at h
    exact absurd h Int32.lt_irrefl
  · rw [heq]
    exact ⟨s, hs, rfl, rfl, m, hm, hid, rfl⟩

lemma reassign_unsupervised (hpos : ∀ s ∈ supervisors, 0 < s.pid) {e : ElementInfo}
    (h : ¬ 0 < (reassign supervisors e).supervisor.pid) :
    (reassign supervisors e).applicationName = defaultApplication (reassign supervisors e).mode := by
  unfold reassign at *
  rcases assign_cases supervisors { e with
      name := e.executable, supervisor := {}, applicationName := defaultApplication e.mode } with
    heq | ⟨s, hs, m, hm, hid, heq⟩
  · rw [heq]
  · rw [heq] at h
    exact absurd (hpos s hs) h

lemma conclude_topic {r : Record TopicInfo} (hr : r ∈ (conclude live supervisors c).topics)
    (h : Scanned c) : ∃ t ∈ c.topics, HasElement (conclude live supervisors c) t.model.identity ∧
      ∃ e, owner (conclude live supervisors c) t.model.identity = some e ∧ r.model = rename t.model e := by
  obtain ⟨t, ht, rfl⟩ := List.mem_map.mp hr
  obtain ⟨hin, ha⟩ := List.mem_filter.mp ht
  have hl := listed_conclude live supervisors (h.topics t hin) ha
  refine ⟨t, hin, hl, ?_⟩
  cases ho : owner (conclude live supervisors c) t.model.identity with
  | some e =>
    refine ⟨e, rfl, ?_⟩
    simp only [renames_eq]
    change (match owner (conclude live supervisors c) t.model.identity with
      | none => t.model
      | some e => rename t.model e) = rename t.model e
    rw [ho]
  | none =>
    obtain ⟨e, he, hid⟩ := hl
    rw [owner, List.findRev?_eq_find?_reverse, List.find?_eq_none] at ho
    exact absurd (decide_eq_true hid) (ho e (List.mem_reverse.mpr he))

lemma owner_some {id : EndpointIdentity} {e : ElementInfo} (h : owner c id = some e) :
    e ∈ c.elements ∧ e.identity = id.runtime := by
  obtain ⟨he, hid⟩ := findRev?_some h
  exact ⟨he, of_decide_eq_true hid⟩

lemma Scanned.conclude (h : Scanned c) : Intact live supervisors (conclude live supervisors c) where
  topics r hr := by
    obtain ⟨t, _, hl, e, _, hm⟩ := conclude_topic live supervisors hr h
    rwa [hm, (rename_role t.model e).2]
  parameters r hr := by
    obtain ⟨hin, ha⟩ := List.mem_filter.mp hr
    exact listed_conclude live supervisors (h.parameters r hin) ha
  services r hr := by
    obtain ⟨hin, ha⟩ := List.mem_filter.mp hr
    exact listed_conclude live supervisors (h.services r hin) ha
  live e he := by
    obtain ⟨x, hx, rfl⟩ := List.mem_map.mp he
    rw [reassign_identity]
    exact (alive_iff live _).mp (List.mem_filter.mp hx).2
  applications := rfl
  supervised e he hs := by
    obtain ⟨x, _, rfl⟩ := List.mem_map.mp he
    obtain ⟨s, hmem, hsup, hname, hm⟩ := reassign_supervised supervisors hs
    exact ⟨s, hmem, application s, List.mem_map_of_mem hmem, rfl, hsup, hname, hm⟩
  unsupervised hpos e he hs := by
    obtain ⟨x, _, rfl⟩ := List.mem_map.mp he
    exact reassign_unsupervised supervisors hpos hs
  roles r hr := by
    obtain ⟨t, ht, _, e, _, hm⟩ := conclude_topic live supervisors hr h
    rw [hm, (rename_role t.model e).1]
    exact (h.sides t ht).imp And.left And.left
  publishers r hr hrole := by
    obtain ⟨t, ht, _, e, ho, hm⟩ := conclude_topic live supervisors hr h
    obtain ⟨hrt, hit⟩ := rename_role t.model e
    rw [hm, hrt] at hrole
    obtain ⟨he, hid⟩ := owner_some ho
    have hs : t.model.subscribers = [] := by
      rcases h.sides t ht with hp | hq
      · exact hp.2
      · exact absurd (hrole.symm.trans hq.1) (by decide)
    refine ⟨e, ?_, he, ?_, ?_, ?_⟩
    · rw [hm, hit, ho]
    · rw [hm, hit, hid]
    · simp [hm, rename, hid, hrole]
    · simp [hm, rename, hid, hrole, hs]
  subscribers r hr hrole := by
    obtain ⟨t, ht, _, e, ho, hm⟩ := conclude_topic live supervisors hr h
    obtain ⟨hrt, hit⟩ := rename_role t.model e
    rw [hm, hrt] at hrole
    obtain ⟨he, hid⟩ := owner_some ho
    have hs : t.model.publishers = [] := by
      rcases h.sides t ht with hp | hq
      · exact absurd (hrole.symm.trans hp.1) (by decide)
      · exact hq.2
    refine ⟨e, ?_, he, ?_, ?_, ?_⟩
    · rw [hm, hit, ho]
    · rw [hm, hit, hid]
    · simp [hm, rename, hid, hrole]
    · simp [hm, rename, hid, hrole, hs]
  state := rfl

end Conclude

section FinalScans

variable {w : World} {l l' : List Action}

lemma listRuntimes_ok {live : List RuntimeInfo} (h : listRuntimes w l = (.ok live, l')) :
    l' = l ++ [.listRuntimes (.ok live)] := by
  have hr : w.listRuntimes (w.moment l.length) = .ok live := congrArg Prod.fst h
  rw [← hr]
  exact (congrArg Prod.snd h).symm

lemma listSupervisors_ok {supervisors : List SupervisorInfo}
    (h : listSupervisors w l = (.ok supervisors, l')) : l' = l ++ [.listSupervisors (.ok supervisors)] := by
  have hr : w.listSupervisors (w.moment l.length) = .ok supervisors := congrArg Prod.fst h
  rw [← hr]
  exact (congrArg Prod.snd h).symm

end FinalScans

/-- A successful discovery ends with the two final scans and is concluded from them. -/
lemma discover_ok {texts : ValueCodec.Texts} {w : World} {next : Impl}
    (h : (discover texts w []).1 = .ok next) : ∃ before live supervisors scanned,
      (discover texts w []).2 = before ++ [.listRuntimes (.ok live), .listSupervisors (.ok supervisors)] ∧
        Scanned scanned ∧ next = conclude live supervisors scanned := by
  obtain ⟨l, hrun⟩ : ∃ l, discover texts w [] = (.ok next, l) := ⟨_, Prod.ext h rfl⟩
  rw [hrun]
  unfold discover at hrun
  obtain ⟨first, l₁, _, hrun⟩ := bind_inv hrun
  obtain ⟨runtimes, l₂, _, hrun⟩ := bind_inv hrun
  obtain ⟨scanned, l₃, hscan, hrun⟩ := bind_inv hrun
  obtain ⟨live, l₄, hlive, hrun⟩ := bind_inv hrun
  obtain ⟨supervisors, l₅, hsup, hrun⟩ := bind_inv hrun
  obtain rfl := listRuntimes_ok hlive
  obtain rfl := listSupervisors_ok hsup
  have hstart : Scanned { applications := first.map application } :=
    ⟨fun _ hr => (nomatch hr), fun _ hr => (nomatch hr), fun _ hr => (nomatch hr), fun _ hr => (nomatch hr)⟩
  have hscanned : Scanned scanned :=
    Yields.foldlM runtimes (fun _ _ _ hb => scanRuntime_scanned texts first hb) hstart w _ _ _ hscan
  obtain rfl := Except.ok.inj (congrArg Prod.fst hrun)
  obtain rfl := congrArg Prod.snd hrun
  exact ⟨l₃, live, supervisors, scanned, List.append_assoc _ _ _, hscanned, rfl⟩

/-- After a successful refresh the cache is intact with respect to the final scans; after a failing
one it is empty. -/
theorem refresh_intact (texts : ValueCodec.Texts) (w : World) (impl : Impl) :
    ((refresh texts w impl).1 = 0 → ∃ before live supervisors, (discover texts w []).2 =
      before ++ [.listRuntimes (.ok live), .listSupervisors (.ok supervisors)] ∧
        Intact live supervisors (refresh texts w impl).2) ∧
    ((refresh texts w impl).1 ≠ 0 → (refresh texts w impl).2.state = .error ∧
      (refresh texts w impl).2.applications = [] ∧ (refresh texts w impl).2.elements = [] ∧
        (refresh texts w impl).2.topics = [] ∧ (refresh texts w impl).2.parameters = [] ∧
          (refresh texts w impl).2.services = []) := by
  unfold refresh
  cases hr : (discover texts w []).1 with
  | ok next =>
    obtain ⟨before, live, supervisors, scanned, hlog, hs, rfl⟩ := discover_ok hr
    refine ⟨fun _ => ⟨before, live, supervisors, hlog, hs.conclude live supervisors⟩, fun h => absurd rfl h⟩
  | error e => exact ⟨fun h => absurd h e.guard.property, fun _ => ⟨rfl, rfl, rfl, rfl, rfl, rfl⟩⟩

end KcfTools.KcfBackend
