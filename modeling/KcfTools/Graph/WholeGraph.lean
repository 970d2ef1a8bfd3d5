import KcfTools.Lib.Transitions
import KcfTools.Graph.RemoteFilter
import KcfTools.Graph.DiscoveryOrder

/-! The local and the remote graph as one: the groups and the nodes of both parts. -/

namespace KcfTools.Graph

open Std Keys Transitions

section Identifiers

lemma identity_ne_empty (id : RuntimeIdentity) : identity id ≠ "" := by
  intro h
  have hl := congrArg String.toList h
  simp [identity, String.toList_append] at hl

lemma elementGroup_ne_empty (e : ElementInfo) : elementGroup e ≠ "" := by
  unfold elementGroup
  split_ifs
  · exact identity_ne_empty _
  · decide

lemma remoteGroup_ne_empty (e : RemoteEndpoint) : remoteGroup e ≠ "" := by
  intro h
  have hl := congrArg String.toList h
  simp [remoteGroup, String.toList_append] at hl

lemma remoteGroup_inj {e e' : RemoteEndpoint} (h : remoteGroup e = remoteGroup e') :
    e.applicationId = e'.applicationId := by
  have hl := congrArg String.toList h
  simp only [remoteGroup, String.toList_append] at hl
  exact String.toList_inj.mp (List.append_cancel_left hl)

lemma identity_ne_remoteGroup (id : RuntimeIdentity) (r : RemoteEndpoint) : identity id ≠ remoteGroup r := by
  intro h
  have hr : 'r' ∉ (toString id.pid).toList := notMem_int (by decide) (by decide) id.pid.toInt
  have hl := congrArg String.toList h
  rw [identity, remoteGroup, String.toList_append, String.toList_append, String.toList_append] at hl
  cases hpid : (toString id.pid).toList with
  | nil =>
    rw [hpid] at hl
    simp at hl
  | cons c cs =>
    rw [hpid] at hl hr
    have hc : c = 'r' := by simpa using congrArg List.head? hl
    exact hr (by simp [hc])

lemma elementGroup_ne_remoteGroup (e : ElementInfo) (r : RemoteEndpoint) : elementGroup e ≠ remoteGroup r := by
  unfold elementGroup
  split_ifs
  · exact identity_ne_remoteGroup _ r
  · intro h
    have hl := congrArg String.toList h
    simp [remoteGroup, String.toList_append] at hl

end Identifiers

section Groups

variable {applications : List ApplicationInfo} {elements : List ElementInfo} {topics : List TopicInfo}
  {parameters : List ParameterInfo} {services : List ServiceInfo} {options : GraphOptions}

lemma mem_localGroups (id : String) :
    id ∈ (buildGraph applications elements topics parameters services options).groups.map GraphGroup.id ↔
      (∃ a ∈ applications, identity a.supervisor = id) ∨ ∃ e ∈ elements, elementGroup e = id := by
  rw [buildGraph_groups, addElement_groups, List.map_map]
  have hkeys : ∀ t : Groups, t.toList.map (GraphGroup.id ∘ fun g => ⟨g.1, g.2, ""⟩) = t.keys := by
    intro t
    rw [← ExtTreeMap.map_fst_toList_eq_keys]
    rfl
  rw [hkeys, ExtTreeMap.mem_keys, Tables.mem_fill, applicationGroups, Tables.mem_inserts]
  simp

lemma localGroups_nodup :
    ((buildGraph applications elements topics parameters services options).groups.map GraphGroup.id).Nodup := by
  have hkeys := ExtTreeMap.nodup_keys (t := (elements.foldl (addElement options)
    (applicationGroups applications, ∅)).1)
  rw [← ExtTreeMap.map_fst_toList_eq_keys] at hkeys
  rw [buildGraph_groups, List.map_map]
  exact hkeys

lemma localGroups_host {g : GraphGroup}
    (hg : g ∈ (buildGraph applications elements topics parameters services options).groups) : g.host = "" := by
  rw [buildGraph_groups] at hg
  obtain ⟨_, _, rfl⟩ := List.mem_map.mp hg
  rfl

end Groups

section Kinds

variable {options : GraphOptions}

/-- No node of the table is a heading. -/
def Plain (nodes : Nodes) : Prop := ∀ (k : String) (n : GraphNode), nodes[k]? = some n → n.kind ≠ .host

lemma Plain.insert {nodes : Nodes} (h : Plain nodes) (k : String) {n : GraphNode} (hn : n.kind ≠ .host) :
    Plain (nodes.insert k n) := by
  intro k' n' hk
  rw [Tables.getElem?_insert] at hk
  split_ifs at hk
  · exact Option.some.inj hk ▸ hn
  · exact h k' n' hk

lemma Plain.addElement {s : Groups × Nodes} (h : Plain s.2) (e : ElementInfo) :
    Plain (addElement options s e).2 := by
  unfold Graph.addElement
  simp only
  split_ifs
  · exact h
  · exact h.insert _ (by simp [elementNode])

lemma Plain.add {s : Nodes × List GraphEdge} (h : Plain s.1) {r : Registration} (hr : r.kind ≠ .host) :
    Plain (add options s r).1 := by
  have hnode : (s.1.getD r.nodeId { id := r.nodeId, label := r.name, kind := r.kind }).kind ≠ .host := by
    rw [ExtTreeMap.getD_eq_getD_getElem?]
    cases hk : s.1[r.nodeId]? with
    | none => exact hr
    | some n => exact h _ n hk
  unfold Graph.add
  simp only
  split_ifs
  · exact h
  · exact h
  · exact h.insert _ hnode
  · exact h.insert _ hnode

lemma registrations_ne_host {topics : List TopicInfo} {parameters : List ParameterInfo}
    {services : List ServiceInfo} {r : Registration}
    (hr : r ∈ registrations topics parameters services options) : r.kind ≠ .host := by
  simp only [registrations, List.mem_append] at hr
  rcases hr with (hr | hr) | hr
  all_goals
    split_ifs at hr
    · obtain ⟨_, _, rfl⟩ := List.mem_map.mp hr
      simp
    · cases hr

lemma buildGraph_plain {applications : List ApplicationInfo} {elements : List ElementInfo}
    {topics : List TopicInfo} {parameters : List ParameterInfo} {services : List ServiceInfo} {n : GraphNode}
    (hn : n ∈ (buildGraph applications elements topics parameters services options).nodes) :
    n.kind ≠ .host := by
  have helements : Plain (shownNodes applications elements options) :=
    Transitions.foldl_invariant (I := fun s : Groups × Nodes => Plain s.2)
      (fun s e h => h.addElement e) elements
      (applicationGroups applications, ∅) (by simp [Plain])
  have hadd : ∀ (l : List Registration) (s : Nodes × List GraphEdge), (∀ r ∈ l, r.kind ≠ .host) →
      Plain s.1 → Plain (l.foldl (add options) s).1 := by
    intro l
    induction l with
    | nil => exact fun _ _ h => h
    | cons r l ih => exact fun s hl h => ih _ (fun q hq => hl q (by simp [hq])) (h.add (hl r (by simp)))
  rw [buildGraph_nodes, List.mem_insertionSort, unordered, List.mem_map] at hn
  obtain ⟨⟨k, m⟩, hm, rfl⟩ := hn
  exact hadd _ _ (fun r hr => registrations_ne_host hr) helements k m
    (ExtTreeMap.mem_toList_iff_getElem?_eq_some.mp hm)

end Kinds

section Remote

variable (options : GraphOptions) (network : NetworkSnapshot) (host : RemoteHost)

def hostGroups : List GraphGroup :=
  (host.endpoints.foldl (addRemoteEndpoint options network host) { edges := [] }).groups.toList.map fun g =>
    ⟨g.1, g.2, host.id⟩

variable {options network host}

lemma mem_hostTable_groups (es : List RemoteEndpoint) (s : HostGraph) (k : String) :
    k ∈ (es.foldl (addRemoteEndpoint options network host) s).groups ↔
      k ∈ s.groups ∨ ∃ e ∈ es, remoteGroup e = k := by
  have hinsert : (es.foldl (addRemoteEndpoint options network host) s).groups = es.foldl (fun t e =>
      t.insert (remoteGroup e) (e.application ++ " [" ++ e.applicationId ++ "]")) s.groups := by
    induction es generalizing s with
    | nil => rfl
    | cons e es ih =>
      have hstep : (addRemoteEndpoint options network host s e).groups =
          s.groups.insert (remoteGroup e) (e.application ++ " [" ++ e.applicationId ++ "]") := by
        by_cases hg : groupShown options e = true <;> by_cases hk : kindShown options e = true <;>
          simp [addRemoteEndpoint, hg, hk]
      rw [List.foldl_cons, ih, hstep]
      rfl
  rw [hinsert, Tables.mem_inserts]

lemma mem_hostGroups (id : String) :
    id ∈ (hostGroups options network host).map GraphGroup.id ↔ ∃ e ∈ host.endpoints, remoteGroup e = id := by
  unfold hostGroups
  rw [List.map_map]
  have hkeys : ∀ t : Groups, t.toList.map (GraphGroup.id ∘ fun g => ⟨g.1, g.2, host.id⟩) = t.keys := by
    intro t
    rw [← ExtTreeMap.map_fst_toList_eq_keys]
    rfl
  rw [hkeys, ExtTreeMap.mem_keys, mem_hostTable_groups]
  simp

lemma hostGroups_nodup : ((hostGroups options network host).map GraphGroup.id).Nodup := by
  have hkeys := ExtTreeMap.nodup_keys
    (t := (host.endpoints.foldl (addRemoteEndpoint options network host) { edges := [] }).groups)
  rw [← ExtTreeMap.map_fst_toList_eq_keys] at hkeys
  unfold hostGroups
  rw [List.map_map]
  exact hkeys

lemma hostGroups_host {g : GraphGroup} (hg : g ∈ hostGroups options network host) : g.host = host.id := by
  obtain ⟨_, _, rfl⟩ := List.mem_map.mp hg
  rfl

lemma addHost_groups (model : GraphModel) :
    (addHost options network model host).groups =
      model.groups ++ if hostShown options host then hostGroups options network host else [] := by
  unfold addHost hostShown
  by_cases h : options.host ≠ "" ∧ options.host ≠ host.id
  · simp [h]
  · have hs : options.host = "" ∨ options.host = host.id := by
      rwa [not_and_or, not_not, not_not] at h
    obtain ⟨hn, hg⟩ := @addRemoteEndpoints_start options network host
      host.endpoints { edges := model.edges } { edges := [] } rfl rfl
    simp only [h, if_false, hs, decide_true, if_true, hg, hostGroups]

lemma remotePart_groups (model : GraphModel) : (remotePart model network options).groups =
    (localPart model options).groups ++ network.hosts.flatMap fun host =>
      if hostShown options host then hostGroups options network host else [] :=
  Transitions.foldl_append (f := addHost options network) (g := GraphModel.groups)
    (fun model host _ => @addHost_groups options network host model) _

lemma remotePart_allNodes (model : GraphModel) : (remotePart model network options).nodes =
    (localPart model options).nodes ++ network.hosts.flatMap fun host =>
      if hostShown options host then hostNodes options network host else [] :=
  Transitions.foldl_append (f := addHost options network) (g := GraphModel.nodes)
    (fun _ host _ => addHost_nodes host) _

lemma heading_of_kind {n : GraphNode} (hn : n ∈ hostNodes options network host) (hk : n.kind = .host) :
    n = heading network host := by
  rcases hostNodes_cases hn with rfl | ⟨e, _, hn⟩
  · rfl
  · rcases (mem_emplaced.mp hn).2 with rfl | ⟨_, rfl⟩
    · cases hk
    · rw [endpointNode_kind, remoteKind] at hk
      split_ifs at hk

end Remote

section Whole

/-- What the graph view is given. -/
structure GraphData where
  applications : List ApplicationInfo := []
  elements : List ElementInfo := []
  topics : List TopicInfo := []
  parameters : List ParameterInfo := []
  services : List ServiceInfo := []
  network : NetworkSnapshot := {}

variable (data : GraphData) (options : GraphOptions) (now : UInt64)

def GraphData.localGraph : GraphModel :=
  buildGraph data.applications data.elements data.topics data.parameters data.services options

def GraphData.graph : GraphModel := addRemoteGraph (data.localGraph options) data.network options now

/-- The Hosts that the filters let through. -/
def GraphData.shownHosts : List RemoteHost :=
  if options.remote then data.network.hosts.filter (hostShown options) else []

variable {data options now}

lemma graph_groups : (data.graph options now).groups =
    (localPart (data.localGraph options) options).groups ++
      (data.shownHosts options).flatMap (hostGroups options data.network) := by
  unfold GraphData.graph GraphData.shownHosts addRemoteGraph
  by_cases hremote : options.remote = true
  · have hshown := flatMap_filtered data.network.hosts (fun host => hostShown options host = true)
      (hostGroups options data.network)
    simp only [Bool.decide_eq_true] at hshown
    rw [if_neg (not_not.mpr hremote), if_pos hremote, ← hshown, ← remotePart_groups]
    rfl
  · rw [if_pos hremote, if_neg hremote, List.flatMap_nil, List.append_nil]

lemma graph_nodes : (data.graph options now).nodes =
    (localPart (data.localGraph options) options).nodes ++
      (data.shownHosts options).flatMap (hostNodes options data.network) := by
  unfold GraphData.graph GraphData.shownHosts addRemoteGraph
  by_cases hremote : options.remote = true
  · have hshown := flatMap_filtered data.network.hosts (fun host => hostShown options host = true)
      (hostNodes options data.network)
    simp only [Bool.decide_eq_true] at hshown
    rw [if_neg (not_not.mpr hremote), if_pos hremote, ← hshown, ← remotePart_allNodes]
    rfl
  · rw [if_pos hremote, if_neg hremote, List.flatMap_nil, List.append_nil]

lemma localPart_cases (model : GraphModel) (options : GraphOptions) :
    localPart model options = {} ∨ localPart model options = model := by
  unfold localPart
  split_ifs
  · exact .inl rfl
  · exact .inr rfl

lemma mem_shownHosts {host : RemoteHost} (hh : host ∈ data.shownHosts options) :
    host ∈ data.network.hosts ∧ options.remote ∧ hostShown options host := by
  unfold GraphData.shownHosts at hh
  split_ifs at hh with hremote
  · exact ⟨(List.mem_filter.mp hh).1, hremote, (List.mem_filter.mp hh).2⟩
  · cases hh

lemma graph_group_ne_empty {g : GraphGroup} (hg : g ∈ (data.graph options now).groups) : g.id ≠ "" := by
  rw [graph_groups] at hg
  rcases List.mem_append.mp hg with hg | hg
  · have hid : g.id ∈ (data.localGraph options).groups.map GraphGroup.id := by
      rcases localPart_cases (data.localGraph options) options with h | h <;> rw [h] at hg
      · cases hg
      · exact List.mem_map_of_mem hg
    rcases (mem_localGroups g.id).mp hid with ⟨a, _, ha⟩ | ⟨e, _, he⟩
    · exact ha ▸ identity_ne_empty _
    · exact he ▸ elementGroup_ne_empty e
  · obtain ⟨host, _, hg⟩ := List.mem_flatMap.mp hg
    obtain ⟨e, _, he⟩ := (mem_hostGroups g.id).mp (List.mem_map_of_mem hg)
    exact he ▸ remoteGroup_ne_empty e

lemma graph_heading {n : GraphNode} (hn : n ∈ (data.graph options now).nodes) (hk : n.kind = .host) :
    ∃ host ∈ data.shownHosts options, n = heading data.network host := by
  rw [graph_nodes] at hn
  rcases List.mem_append.mp hn with hn | hn
  · rcases localPart_cases (data.localGraph options) options with h | h <;> rw [h] at hn
    · cases hn
    · exact absurd hk (buildGraph_plain hn)
  · obtain ⟨host, hh, hn⟩ := List.mem_flatMap.mp hn
    exact ⟨host, hh, heading_of_kind hn hk⟩

end Whole

end KcfTools.Graph
