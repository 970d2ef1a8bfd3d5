import KcfTools.Graph.LocalGraph
import KcfTools.Lib.Transitions

/-! What the nodes of the local graph are made from, also where discovery repeats an identity. -/

namespace KcfTools.Graph

open Std

/-- The node of an element, or of registrations of one kind that share its identifier. -/
def Origin (elements : List ElementInfo) (l : List Registration) (k : String) (n : GraphNode) : Prop :=
  (∃ e ∈ elements, k = elementId e.identity ∧ n.kind = .element ∧ n.runtime = e.identity) ∨
    ∃ q ∈ l, k = q.nodeId ∧ n.kind = q.kind ∧
      ∀ p ∈ n.endpoints, ∃ r ∈ l, r.kind = q.kind ∧ r.identity = p.identity

variable {applications : List ApplicationInfo} {elements : List ElementInfo} {topics : List TopicInfo}
  {parameters : List ParameterInfo} {services : List ServiceInfo} {options : GraphOptions}
  {l : List Registration} {r : Registration} {n : GraphNode}

lemma origin_shownNodes {k : String} (h : (shownNodes applications elements options)[k]? = some n) :
    Origin elements l k n := by
  have hfold : ∀ k n, (elements.foldl (addElement options) (applicationGroups applications, ∅)).2[k]? = some n →
      Origin elements l k n := by
    refine List.foldlRecOn elements (addElement options)
      (motive := fun s : Groups × Nodes => ∀ k n, s.2[k]? = some n → Origin elements l k n) (by simp) ?_
    intro s hs e he k n hn
    rw [addElement_nodes] at hn
    split_ifs at hn with hk
    · obtain rfl := Option.some.inj hn
      exact .inl ⟨e, he, hk.2.symm, rfl, rfl⟩
    · exact hs k n hn
  exact hfold k n h

/-- The node of the registration before it is added: a new one, or one of the same kind. -/
lemma origin_current {nodes : Nodes} (h : ∀ k n, nodes[k]? = some n → Origin elements l k n)
    (r : Registration) :
    let n := nodes.getD r.nodeId { id := r.nodeId, label := r.name, kind := r.kind }
    n.kind = r.kind ∧ ∀ p ∈ n.endpoints, ∃ q ∈ l, q.kind = r.kind ∧ q.identity = p.identity := by
  simp only
  rw [ExtTreeMap.getD_eq_getD_getElem?]
  cases hn : nodes[r.nodeId]? with
  | none => simp
  | some n =>
    rw [Option.getD_some]
    rcases h _ _ hn with ⟨e, -, hid, -⟩ | ⟨q, -, hid, hkind, hends⟩
    · exact absurd hid (nodeId_ne_elementId r e.identity)
    · have hsame : r.kind = q.kind := congrArg Prod.fst (channel_of_nodeId hid)
      exact hsame ▸ ⟨hkind, hends⟩

lemma origin_add {s : Nodes × List GraphEdge} (h : ∀ k n, s.1[k]? = some n → Origin elements l k n) (hr : r ∈ l)
    {k : String} (hn : (add options s r).1[k]? = some n) : Origin elements l k n := by
  obtain ⟨hkind, hends⟩ := origin_current h r
  unfold add at hn
  simp only at hn
  generalize s.1.getD r.nodeId { id := r.nodeId, label := r.name, kind := r.kind } = node at hn hkind hends
  have hgrown : Origin elements l r.nodeId
      { node with endpoints := node.endpoints ++ [⟨r.identity, r.role⟩] } := by
    refine .inr ⟨r, hr, rfl, hkind, fun p hp => ?_⟩
    rcases List.mem_append.mp hp with hp | hp
    · exact hends p hp
    · rw [List.mem_singleton.mp hp]
      exact ⟨r, hr, rfl, rfl⟩
  split at hn
  · exact h k n hn
  · split at hn
    · exact h k n hn
    · simp only at hn
      rw [Tables.getElem?_insert] at hn
      split_ifs at hn with hk
      · obtain rfl := Option.some.inj hn
        exact hk ▸ hgrown
      · exact h k n hn

lemma origin_collection {k : String}
    (h : (collection applications elements topics parameters services options).1[k]? = some n) :
    Origin elements (registrations topics parameters services options) k n := by
  set l := registrations topics parameters services options with hl
  have hfold : ∀ k n, (l.foldl (add options) (shownNodes applications elements options, [])).1[k]? = some n →
      Origin elements l k n := by
    refine List.foldlRecOn l (add options)
      (motive := fun s : Nodes × List GraphEdge => ∀ k n, s.1[k]? = some n → Origin elements l k n)
      (fun k n hn => origin_shownNodes hn) ?_
    exact fun s hs r hr k n hn => origin_add hs hr hn
  exact hfold k n h

lemma origin_buildGraph (hn : n ∈ (buildGraph applications elements topics parameters services options).nodes) :
    ∃ k m, n = sortEndpoints m ∧ Origin elements (registrations topics parameters services options) k m := by
  rw [buildGraph_nodes, List.mem_insertionSort, unordered, List.mem_map] at hn
  obtain ⟨⟨k, m⟩, hm, rfl⟩ := hn
  exact ⟨k, m, rfl, origin_collection (ExtTreeMap.mem_toList_iff_getElem?_eq_some.mp hm)⟩

/-- An element node stands for a listed element. -/
lemma element_origin (hn : n ∈ (buildGraph applications elements topics parameters services options).nodes)
    (hkind : n.kind = .element) : ∃ e ∈ elements, e.identity = n.runtime := by
  obtain ⟨k, m, rfl, ho⟩ := origin_buildGraph hn
  rcases ho with ⟨e, he, -, -, hruntime⟩ | ⟨q, hq, -, hq', -⟩
  · exact ⟨e, he, hruntime.symm⟩
  · exact absurd (hq'.symm.trans hkind) (registrations_kind hq)

lemma topic_registered (hr : r ∈ registrations topics parameters services options) (hkind : r.kind = .topic) :
    ∃ t ∈ topics, t.identity = r.identity := by
  simp only [registrations, List.mem_append] at hr
  rcases hr with (hr | hr) | hr
  all_goals split_ifs at hr
  · obtain ⟨t, ht, rfl⟩ := List.mem_map.mp hr
    exact ⟨t, (List.mem_filter.mp ht).1, rfl⟩
  · cases hr
  · obtain ⟨p, -, rfl⟩ := List.mem_map.mp hr
    cases hkind
  · cases hr
  · obtain ⟨s, -, rfl⟩ := List.mem_map.mp hr
    cases hkind
  · cases hr

/-- Every endpoint of a topic node is that of a listed topic. -/
lemma topic_origin (hn : n ∈ (buildGraph applications elements topics parameters services options).nodes)
    (hkind : n.kind = .topic) {p : GraphEndpoint} (hp : p ∈ n.endpoints) :
    ∃ t ∈ topics, t.identity = p.identity := by
  obtain ⟨k, m, rfl, ho⟩ := origin_buildGraph hn
  have hp : p ∈ m.endpoints := (List.perm_insertionSort _ _).mem_iff.mp hp
  rcases ho with ⟨e, -, -, helement, -⟩ | ⟨q, -, -, hq, hends⟩
  · cases helement.symm.trans hkind
  · obtain ⟨r, hr, hsame, hid⟩ := hends p hp
    obtain ⟨t, ht, htopic⟩ := topic_registered hr (hsame.trans (hq.symm.trans hkind))
    exact ⟨t, ht, htopic.trans hid⟩

end KcfTools.Graph
