import KcfTools.Graph.LocalGraph

/-! The graph of the local discovery does not depend on the order of what was discovered. -/

namespace KcfTools.Graph

open Std Keys

section Groups

variable {applications : List ApplicationInfo} {elements : List ElementInfo} {options : GraphOptions}

/-- Every supervisor that runs elements was discovered. -/
def Supervised (applications : List ApplicationInfo) (elements : List ElementInfo) : Prop :=
  ∀ e ∈ elements, e.supervisor = {} ∨ ∃ a ∈ applications, a.supervisor = e.supervisor

def applicationLabel (a : ApplicationInfo) : String := a.name ++ " [" ++ identity a.supervisor ++ "]"

lemma applicationGroups_iff (hdistinct : (applications.map ApplicationInfo.supervisor).Nodup) (k v : String) :
    (applicationGroups applications)[k]? = some v ↔
      ∃ a ∈ applications, identity a.supervisor = k ∧ applicationLabel a = v := by
  have hkeys : (applications.map fun a => identity a.supervisor).Nodup := by
    have hmap := hdistinct.map fun _ _ h => identity_injective h
    rwa [List.map_map] at hmap
  have hvisit := Tables.getElem?_visit (fun a : ApplicationInfo => identity a.supervisor)
    (fun a _ => applicationLabel a) "" applications (∅ : Groups) hkeys k
  have heq : (applicationGroups applications)[k]? = _ := hvisit
  rw [heq]
  cases hfind : applications.find? fun a => identity a.supervisor = k with
  | none =>
    have hnone := List.find?_eq_none.mp hfind
    simp only [decide_eq_true_eq] at hnone
    simp only [ExtTreeMap.getElem?_empty, reduceCtorEq, false_iff]
    rintro ⟨a, ha, hid, _⟩
    exact hnone a ha hid
  | some a =>
    have hid : identity a.supervisor = k := by simpa using List.find?_some hfind
    have ha := List.mem_of_find?_eq_some hfind
    rw [Option.some.injEq]
    constructor
    · exact fun hv => ⟨a, ha, hid, hv⟩
    · rintro ⟨b, hb, hid', rfl⟩
      rw [List.inj_on_of_nodup_map hkeys ha hb (hid.trans hid'.symm)]

lemma addElement_groups (s : Groups × Nodes) :
    (elements.foldl (addElement options) s).1 =
      Tables.fill s.1 (elements.map fun e => (elementGroup e, groupLabel e)) := by
  induction elements generalizing s with
  | nil => rfl
  | cons e elements ih =>
    have hfst : (addElement options s e).1 = s.1.insertIfNew (elementGroup e) (groupLabel e) := by
      unfold addElement
      simp only
      split_ifs <;> rfl
    rw [List.foldl_cons, ih, hfst]
    rfl

/-- A group that no supervisor was discovered for is the one of the elements without supervisor. -/
lemma groups_iff (hdistinct : (applications.map ApplicationInfo.supervisor).Nodup)
    (hsupervised : Supervised applications elements) (k v : String) :
    (elements.foldl (addElement options) (applicationGroups applications, ∅)).1[k]? = some v ↔
      (∃ a ∈ applications, identity a.supervisor = k ∧ applicationLabel a = v) ∨
        (∀ a ∈ applications, identity a.supervisor ≠ k) ∧ (∃ e ∈ elements, elementGroup e = k) ∧
          v = "Standalone" := by
  rw [addElement_groups, Tables.getElem?_fill]
  by_cases happ : ∃ a ∈ applications, identity a.supervisor = k
  · obtain ⟨a, ha, hid⟩ := happ
    have hsome := (applicationGroups_iff hdistinct k _).mpr ⟨a, ha, hid, rfl⟩
    rw [hsome, Option.some_or, ← hsome, applicationGroups_iff hdistinct]
    refine ⟨.inl, ?_⟩
    rintro (h | ⟨hnone, _⟩)
    · exact h
    · exact absurd hid (hnone a ha)
  · have hnone : (applicationGroups applications)[k]? = none := by
      by_contra hc
      obtain ⟨v, hv⟩ := Option.ne_none_iff_exists'.mp hc
      obtain ⟨a, ha, hid, _⟩ := (applicationGroups_iff hdistinct k v).mp hv
      exact happ ⟨a, ha, hid⟩
    have hlabel : ∀ e ∈ elements, elementGroup e = k → groupLabel e = "Standalone" := by
      intro e he hgroup
      have hpid : ¬ 0 < e.supervisor.pid := by
        intro hc
        rcases hsupervised e he with hzero | ⟨a, ha, hsame⟩
        · rw [hzero] at hc
          exact absurd hc (by decide)
        · refine happ ⟨a, ha, ?_⟩
          rw [hsame, ← hgroup, elementGroup, if_pos hc]
      have hstandalone : elementGroup e = "standalone" := if_neg hpid
      rw [groupLabel, if_pos hstandalone]
    rw [hnone, Option.none_or, List.find?_map, Option.map_map, Option.map_eq_some_iff]
    constructor
    · rintro ⟨e, hfind, rfl⟩
      have he := List.mem_of_find?_eq_some hfind
      have hgroup : elementGroup e = k := by simpa using List.find?_some hfind
      exact .inr ⟨fun a ha hid => happ ⟨a, ha, hid⟩, ⟨e, he, hgroup⟩, hlabel e he hgroup⟩
    · rintro (⟨a, ha, hid, _⟩ | ⟨_, ⟨e, he, hgroup⟩, rfl⟩)
      · exact absurd ⟨a, ha, hid⟩ happ
      · cases hfind : elements.find? ((fun e => decide (e.1 = k)) ∘ fun e =>
          (elementGroup e, groupLabel e)) with
        | none => exact absurd hgroup (by simpa using List.find?_eq_none.mp hfind e he)
        | some e' =>
          have hgroup' : elementGroup e' = k := by simpa using List.find?_some hfind
          exact ⟨e', rfl, hlabel e' (List.mem_of_find?_eq_some hfind) hgroup'⟩

end Groups

section Order

variable {applications applications' : List ApplicationInfo} {elements elements' : List ElementInfo}
  {topics topics' : List TopicInfo} {parameters parameters' : List ParameterInfo}
  {services services' : List ServiceInfo}

lemma registrations_perm (ht : topics.Perm topics') (hp : parameters.Perm parameters')
    (hs : services.Perm services') (options : GraphOptions) :
    (registrations topics parameters services options).Perm
      (registrations topics' parameters' services' options) := by
  have htopics := (ht.filter fun t => t.role = "PUBLISHER" ∨ t.role = "SUBSCRIBER").map
    fun t => (⟨.topic, t.name, t.identity, t.role, t.role = "PUBLISHER"⟩ : Registration)
  have hparameters := (hp.filter fun p => p.role = "OWNER" ∨ p.role = "CLIENT").map
    fun p => (⟨.parameter, p.name, p.identity, p.role, p.role = "OWNER"⟩ : Registration)
  have hservices := hs.map fun s => (⟨.service, s.name, s.identity, "SERVER", true⟩ : Registration)
  unfold registrations
  refine (List.Perm.append ?_ ?_).append ?_
  · split_ifs
    · exact htopics
    · exact .refl _
  · split_ifs
    · exact hparameters
    · exact .refl _
  · split_ifs
    · exact hservices
    · exact .refl _

lemma nodes_injOn {nodes : List GraphNode} (hids : (nodes.map GraphNode.id).Nodup) :
    ∀ n ∈ nodes, ∀ m ∈ nodes, nodeOrder n = nodeOrder m → n = m := by
  intro n hn m hm h
  simp only [nodeOrder, EmbeddingLike.apply_eq_iff_eq, Prod.mk.injEq] at h
  exact List.inj_on_of_nodup_map hids hn hm h.2.2.2

lemma routes_injOn {r q : Registration} (h : edgeOrder (route r) = edgeOrder (route q)) :
    route r = route q := by
  simp only [edgeOrder, EmbeddingLike.apply_eq_iff_eq, Prod.mk.injEq] at h
  obtain ⟨hsource, htarget, hrole, hendpoint⟩ := h
  have hidentity := endpointKey_injective hendpoint
  have hplain : ∀ p : Registration, (route p).networkRoute = false ∧ (route p).detail = "" := by
    intro p
    unfold route
    split_ifs <;> exact ⟨rfl, rfl⟩
  obtain ⟨hr, hr'⟩ := hplain r
  obtain ⟨hq, hq'⟩ := hplain q
  cases hroute : route r
  cases hroute' : route q
  simp_all

lemma buildGraph_groups (options : GraphOptions) :
    (buildGraph applications elements topics parameters services options).groups =
      (elements.foldl (addElement options) (applicationGroups applications, ∅)).1.toList.map
        fun g => ⟨g.1, g.2, ""⟩ := rfl

lemma present_perm (he : elements.Perm elements') (options : GraphOptions) (r : Registration) :
    Present elements options r ↔ Present elements' options r := by
  simp only [Present, he.mem_iff]

variable (applications applications') in
lemma nodes_perm (options : GraphOptions) (hdistinct : (elements.map ElementInfo.identity).Nodup)
    (he : elements.Perm elements') (ht : topics.Perm topics') (hp : parameters.Perm parameters')
    (hs : services.Perm services') :
    (buildGraph applications elements topics parameters services options).nodes =
      (buildGraph applications' elements' topics' parameters' services' options).nodes := by
  have hdistinct' := (he.map ElementInfo.identity).nodup_iff.mp hdistinct
  have hall := registrations_perm ht hp hs options
  rw [buildGraph_nodes, buildGraph_nodes]
  apply insertionSort_congr
  · exact (unordered_ids hdistinct).of_map _
  · exact (unordered_ids hdistinct').of_map _
  · intro n
    rw [mem_unordered hdistinct, mem_unordered hdistinct']
    simp only [he.mem_iff, hall.mem_iff, Passes, present_perm he options, IsChannelNode]
  · exact nodes_injOn (unordered_ids hdistinct)

variable (applications applications') in
lemma edges_perm (options : GraphOptions) (hdistinct : (elements.map ElementInfo.identity).Nodup)
    (he : elements.Perm elements') (ht : topics.Perm topics') (hp : parameters.Perm parameters')
    (hs : services.Perm services') :
    (buildGraph applications elements topics parameters services options).edges =
      (buildGraph applications' elements' topics' parameters' services' options).edges := by
  have hdistinct' := (he.map ElementInfo.identity).nodup_iff.mp hdistinct
  have hall := registrations_perm ht hp hs options
  have hcollected := collection_collected applications elements topics parameters services options hdistinct
  have hcollected' :=
    collection_collected applications' elements' topics' parameters' services' options hdistinct'
  rw [buildGraph_edges, buildGraph_edges]
  apply insertionSort_congr hcollected.nodup hcollected'.nodup
  · intro edge
    rw [hcollected.edges, hcollected'.edges]
    simp only [hall.mem_iff, owned_iff hdistinct, owned_iff hdistinct', present_perm he options]
  · intro edge hedge edge' hedge'
    obtain ⟨r, hr, _, rfl⟩ := (hcollected.edges edge).mp hedge
    obtain ⟨q, hq, _, rfl⟩ := (hcollected.edges edge').mp hedge'
    rw [edge_eq_route (registrations_directed hr), edge_eq_route (registrations_directed hq)]
    exact routes_injOn

/-- The graph is the same for every order in which its parts were discovered. -/
theorem buildGraph_perm (options : GraphOptions)
    (hsupervisors : (applications.map ApplicationInfo.supervisor).Nodup)
    (hdistinct : (elements.map ElementInfo.identity).Nodup) (hsupervised : Supervised applications elements)
    (ha : applications.Perm applications') (he : elements.Perm elements') (ht : topics.Perm topics')
    (hp : parameters.Perm parameters') (hs : services.Perm services') :
    buildGraph applications elements topics parameters services options =
      buildGraph applications' elements' topics' parameters' services' options := by
  have hsupervisors' := (ha.map ApplicationInfo.supervisor).nodup_iff.mp hsupervisors
  have hsupervised' : Supervised applications' elements' := by
    intro e hmem
    refine (hsupervised e (he.mem_iff.mpr hmem)).imp_right ?_
    rintro ⟨a, hmem, hsame⟩
    exact ⟨a, ha.mem_iff.mp hmem, hsame⟩
  have hgroups : (elements.foldl (addElement options) (applicationGroups applications, ∅)).1 =
      (elements'.foldl (addElement options) (applicationGroups applications', ∅)).1 := by
    apply ExtTreeMap.ext_getElem?
    intro k
    ext v
    simp only [groups_iff hsupervisors hsupervised, groups_iff hsupervisors' hsupervised',
      ha.mem_iff, he.mem_iff]
  have hlists : (buildGraph applications elements topics parameters services options).groups =
      (buildGraph applications' elements' topics' parameters' services' options).groups := by
    rw [buildGraph_groups, buildGraph_groups, hgroups]
  have hnodes := nodes_perm applications applications' options hdistinct he ht hp hs
  have hedges := edges_perm applications applications' options hdistinct he ht hp hs
  cases hmodel : buildGraph applications elements topics parameters services options
  cases hmodel' : buildGraph applications' elements' topics' parameters' services' options
  simp_all

def sampleApplications : List ApplicationInfo :=
  [{ name := "robot", supervisor := ⟨10, 1⟩ }, { name := "robot", supervisor := ⟨10, 2⟩ }]

theorem buildGraph_perm_sample :
    buildGraph sampleApplications sampleElements sampleTopics [] [] {} =
      buildGraph sampleApplications.reverse sampleElements.reverse sampleTopics.reverse [] [] {} :=
  buildGraph_perm {} (by decide) (by decide) (by unfold Supervised; decide)
    (List.reverse_perm _).symm (List.reverse_perm _).symm (List.reverse_perm _).symm (.refl _) (.refl _)

end Order

end KcfTools.Graph
