import KcfTools.Lib.Partitions
import KcfTools.Graph.Sections

/-! Every node of the graph is drawn, and only once. -/

namespace KcfTools.Graph

open Transitions Partitions

section Lists

variable {model : GraphModel} {chosen : String} {d : Drawing}

def Drawing.nodes (d : Drawing) : List GraphNode := d.picture.boxes.map Prod.fst

@[simp] lemma nodes_nodeItem (n : GraphNode) (x y : ℤ) : (d.nodeItem n x y).nodes = d.nodes ++ [n] := by
  simp [Drawing.nodes, Drawing.nodeItem, Pictures.Picture.box]

@[simp] lemma nodes_down (y : ℤ) : (d.down y).nodes = d.nodes := rfl

@[simp] lemma nodes_frame (s : Section) (f : Pictures.Box) : (d.frame s f).nodes = d.nodes := rfl

def elementsOf (model : GraphModel) (group : GraphGroup) : List GraphNode :=
  model.nodes.filter fun n => n.kind = .element ∧ n.group = group.id

def membersOf (model : GraphModel) (group : GraphGroup) : List GraphNode :=
  model.nodes.filter fun n => n.group = group.id

/-- The applications of a Host, or the local ones, that pass the application filter. -/
def applicationsOf (model : GraphModel) (chosen host : String) : List GraphGroup :=
  model.groups.filter fun g => g.host = host ∧ (chosen = "" ∨ g.id = chosen)

lemma drawElements_nodes (group : GraphGroup) (d : Drawing) :
    (model.nodes.foldl (drawElement group) d).nodes = d.nodes ++ elementsOf model group := by
  rw [foldl_append (g := Drawing.nodes)
    (h := fun n => if n.kind = .element ∧ n.group = group.id then [n] else []), flatMap_filtered,
    List.flatMap_singleton']
  · rfl
  · intro d n _
    unfold drawElement
    by_cases h : n.kind = .element ∧ n.group = group.id
    · rw [if_pos h, if_pos h]
      simp
    · rw [if_neg h, if_neg h]
      simp

lemma drawApplication_nodes (group : GraphGroup) : (drawApplication model chosen d group).nodes =
    d.nodes ++ if group.host = "" ∧ (chosen = "" ∨ group.id = chosen) then elementsOf model group else [] := by
  unfold drawApplication
  by_cases h : group.host = "" ∧ (chosen = "" ∨ group.id = chosen)
  · rw [if_pos h, if_neg (not_not.mpr h.1), if_neg (by tauto)]
    dsimp only
    split_ifs <;> simp [drawElements_nodes]
  · rw [if_neg h, List.append_nil]
    by_cases hhost : group.host ≠ ""
    · rw [if_pos hhost]
    · rw [if_neg hhost, if_pos (by tauto)]

lemma drawEndpoints_nodes (c : Column) : (model.nodes.foldl drawEndpoint c).drawing.nodes =
    c.drawing.nodes ++ model.nodes.filter fun n => n.host = "" ∧ n.kind ≠ .element := by
  rw [foldl_append (g := fun c : Column => c.drawing.nodes)
    (h := fun n => if n.host = "" ∧ n.kind ≠ .element then [n] else []), flatMap_filtered,
    List.flatMap_singleton']
  intro c n _
  unfold drawEndpoint
  by_cases h : n.host = "" ∧ n.kind ≠ .element
  · rw [if_pos h, if_pos h]
    simp
  · rw [if_neg h, if_neg h]
    simp

lemma drawMembers_nodes (group : GraphGroup) (c : Columns) :
    (model.nodes.foldl (drawMember group) c).drawing.nodes = c.drawing.nodes ++ membersOf model group := by
  rw [foldl_append (g := fun c : Columns => c.drawing.nodes)
    (h := fun n => if n.group = group.id then [n] else []), flatMap_filtered, List.flatMap_singleton']
  · rfl
  · intro c n _
    unfold drawMember
    split_ifs <;> simp_all

lemma drawRemoteApplication_nodes (host : String) (group : GraphGroup) :
    (drawRemoteApplication model chosen host d group).nodes =
      d.nodes ++ if group.host = host ∧ (chosen = "" ∨ group.id = chosen) then membersOf model group
      else [] := by
  unfold drawRemoteApplication
  by_cases h : group.host = host ∧ (chosen = "" ∨ group.id = chosen)
  · rw [if_pos h, if_neg (not_not.mpr h.1), if_neg (by tauto)]
    exact drawMembers_nodes group ⟨d.down 30, d.y + 30⟩
  · rw [if_neg h, List.append_nil]
    by_cases hhost : group.host ≠ host
    · rw [if_pos hhost]
    · rw [if_neg hhost, if_pos (by tauto)]

lemma drawHost_nodes (host : GraphNode) : (drawHost model chosen d host).nodes = d.nodes ++
    if host.kind = .host then host :: (applicationsOf model chosen host.host).flatMap (membersOf model)
    else [] := by
  unfold drawHost
  by_cases h : host.kind = .host
  · rw [if_neg (not_not.mpr h), if_pos h]
    dsimp only
    rw [nodes_down, nodes_frame, foldl_append (g := Drawing.nodes)
      (fun d g _ => drawRemoteApplication_nodes host.host g), flatMap_filtered]
    simp [applicationsOf]
  · rw [if_pos h, if_neg h, List.append_nil]

lemma draw_nodes : (draw model chosen).nodes =
    ((applicationsOf model chosen "").flatMap (elementsOf model) ++
      model.nodes.filter fun n => n.host = "" ∧ n.kind ≠ .element) ++
      (model.nodes.filter fun n => n.kind = .host).flatMap fun host =>
        host :: (applicationsOf model chosen host.host).flatMap (membersOf model) := by
  have hlocal : (drawLocal model chosen).nodes = (applicationsOf model chosen "").flatMap (elementsOf model) ++
      model.nodes.filter fun n => n.host = "" ∧ n.kind ≠ .element := by
    have hgroups := foldl_append (g := Drawing.nodes) (l := model.groups)
      (fun d g _ => @drawApplication_nodes model chosen d g) {}
    rw [flatMap_filtered] at hgroups
    have hendpoints := @drawEndpoints_nodes model
      { drawing := model.groups.foldl (drawApplication model chosen) {} }
    rw [hgroups] at hendpoints
    exact hendpoints
  have hhosts := foldl_append (g := Drawing.nodes) (l := model.nodes)
    (fun d n _ => @drawHost_nodes model chosen d n) (drawLocal model chosen)
  rw [flatMap_filtered, hlocal] at hhosts
  exact hhosts

lemma box_mem {id : String} {b : Pictures.Box} (h : d.box id = some b) :
    ∃ n, (n, b) ∈ d.picture.boxes ∧ n.id = id := by
  obtain ⟨⟨n, b'⟩, hfind, rfl⟩ := Option.map_eq_some_iff.mp h
  rw [List.findRev?_eq_find?_reverse] at hfind
  have hid : n.id = id := by simpa using List.find?_some hfind
  exact ⟨n, List.mem_reverse.mp (List.mem_of_find?_eq_some hfind), hid⟩

lemma box_isSome {id : String} (h : id ∈ d.nodes.map GraphNode.id) : ∃ b, d.box id = some b := by
  obtain ⟨n, hn, hid⟩ := List.mem_map.mp h
  obtain ⟨i, hi, rfl⟩ := List.mem_map.mp hn
  have hsome : (d.picture.boxes.findRev? fun b => b.1.id = id).isSome := by
    rw [List.findRev?_eq_find?_reverse, List.find?_isSome]
    exact ⟨i, List.mem_reverse.mpr hi, decide_eq_true hid⟩
  obtain ⟨j, hj⟩ := Option.isSome_iff_exists.mp hsome
  exact ⟨j.2, by rw [Drawing.box, hj, Option.map_some]⟩

end Lists

section Parts

/-- A Host is known by its id, and an application runs on one Host. -/
structure Separate (network : NetworkSnapshot) : Prop where
  hosts : (network.hosts.map RemoteHost.id).Nodup
  named : ∀ h ∈ network.hosts, h.id ≠ ""
  applications : ∀ h ∈ network.hosts, ∀ h' ∈ network.hosts, ∀ e ∈ h.endpoints, ∀ e' ∈ h'.endpoints,
    e.applicationId = e'.applicationId → h = h'

variable {data : GraphData} {options : GraphOptions} {now : UInt64} {host : RemoteHost} {n : GraphNode}

/-- The nodes of a Host but its heading. -/
def hostRest (options : GraphOptions) (network : NetworkSnapshot) (host : RemoteHost) : List GraphNode :=
  (hostTable options network host).toList.map Prod.snd

lemma hostRest_cases (hn : n ∈ hostRest options data.network host) :
    n.host = host.id ∧ n.kind ≠ .host ∧ ∃ e ∈ host.endpoints, groupShown options e ∧
    n.group = remoteGroup e := by
  obtain ⟨⟨k, m⟩, hm, rfl⟩ := List.mem_map.mp hn
  have hf := Std.ExtTreeMap.mem_toList_iff_getElem?_eq_some.mp hm
  rw [hostTable, addRemoteEndpoints_nodes, Tables.getElem?_fill] at hf
  simp only [Std.ExtTreeMap.getElem?_empty, Option.none_or] at hf
  obtain ⟨⟨k', m'⟩, hfind, rfl⟩ := Option.map_eq_some_iff.mp hf
  obtain ⟨n, hn, he⟩ := List.mem_map.mp (List.mem_of_find?_eq_some hfind)
  obtain ⟨e, hem, hne⟩ := List.mem_flatMap.mp hn
  obtain ⟨-, rfl⟩ := Prod.mk.inj he
  obtain ⟨hgroup, rfl | ⟨-, rfl⟩⟩ := mem_emplaced.mp hne
  · exact ⟨rfl, by simp [runtimeNode], e, hem, hgroup, rfl⟩
  · refine ⟨rfl, ?_, e, hem, hgroup, rfl⟩
    rw [endpointNode_kind, remoteKind]
    split_ifs <;> simp

def headed (options : GraphOptions) (host : RemoteHost) : Prop :=
  options.group = "" ∨ ∃ e ∈ host.endpoints, remoteGroup e = options.group

instance (options : GraphOptions) (host : RemoteHost) : Decidable (headed options host) :=
  inferInstanceAs (Decidable (_ ∨ _))

lemma hostNodes_eq : hostNodes options data.network host =
    (if headed options host then [heading data.network host] else []) ++
      hostRest options data.network host := by
  have hcontains : (options.group = "" ∨ (host.endpoints.foldl (addRemoteEndpoint options data.network host)
      { edges := [] }).groups.contains options.group = true) ↔ headed options host := by
    refine or_congr Iff.rfl ?_
    rw [Std.ExtTreeMap.contains_iff_mem, mem_hostTable_groups]
    simp
  unfold hostNodes
  simp only [hcontains]
  rfl

lemma hostRest_headed (hn : n ∈ hostRest options data.network host) : headed options host := by
  obtain ⟨-, -, e, he, hgroup, -⟩ := hostRest_cases hn
  exact (of_decide_eq_true hgroup).imp_right fun h => ⟨e, he, h.symm⟩

lemma hostNodes_group (hn : n ∈ hostNodes options data.network host) : n.host = host.id ∧
    (n.kind = .host ∧ n.group = "" ∨ n.kind ≠ .host ∧ ∃ e ∈ host.endpoints, n.group = remoteGroup e) := by
  rw [hostNodes_eq] at hn
  rcases List.mem_append.mp hn with hn | hn
  · split_ifs at hn
    · rw [List.mem_singleton.mp hn]
      exact ⟨rfl, .inl ⟨rfl, rfl⟩⟩
    · cases hn
  · obtain ⟨hhost, hkind, e, he, -, hgroup⟩ := hostRest_cases hn
    exact ⟨hhost, .inr ⟨hkind, e, he, hgroup⟩⟩

variable (hdistinct : (data.elements.map ElementInfo.identity).Nodup)

def GraphData.localNodes (data : GraphData) (options : GraphOptions) : List GraphNode :=
  (localPart (data.localGraph options) options).nodes

lemma localNodes_cases (hn : n ∈ data.localNodes options) :
    n ∈ (data.localGraph options).nodes ∧
      localPart (data.localGraph options) options = data.localGraph options := by
  unfold GraphData.localNodes at hn
  rcases localPart_cases (data.localGraph options) options with h | h
  · rw [h] at hn
    cases hn
  · rw [h] at hn
    exact ⟨hn, h⟩

lemma localNodes_host (hn : n ∈ data.localNodes options) : n.host = "" :=
  (buildGraph_localOnly _ _ _ _ _ _).1 n (localNodes_cases hn).1

include hdistinct in
lemma localNodes_group (hn : n ∈ data.localNodes options) :
    (n.kind = .element ∧ ∃ e ∈ data.elements, InGroup options e ∧ n.group = elementGroup e) ∨
      n.kind ≠ .element ∧ n.kind ≠ .host ∧ n.group = "" := by
  obtain ⟨hn, -⟩ := localNodes_cases hn
  rcases (mem_buildGraph _ _ _ _ _ _ hdistinct).mp hn with ⟨e, he, hgroup, rfl⟩ | ⟨r, hr, -, hnode, -⟩
  · exact .inl ⟨rfl, e, he, hgroup, rfl⟩
  · rw [hnode.1]
    exact .inr ⟨registrations_kind hr, registrations_ne_host hr, rfl⟩

lemma graph_nodes_eq : (data.graph options now).nodes =
    data.localNodes options ++ (data.shownHosts options).flatMap (hostNodes options data.network) := graph_nodes

section Shown

variable (hseparate : Separate data.network)

include hseparate

lemma shownHosts_nodup : ((data.shownHosts options).map RemoteHost.id).Nodup := by
  unfold GraphData.shownHosts
  split_ifs
  · exact hseparate.hosts.sublist (List.filter_sublist.map _)
  · exact .nil

lemma remote_named (hh : host ∈ data.shownHosts options) (hn : n ∈ hostNodes options data.network host) :
    n.host ≠ "" := by
  rw [(hostNodes_group hn).1]
  exact hseparate.named host (mem_shownHosts hh).1

lemma applicationsOf_local : applicationsOf (data.graph options now) options.group "" =
    (localPart (data.localGraph options) options).groups.filter fun g =>
      g.host = "" ∧ (options.group = "" ∨ g.id = options.group) := by
  have hremote : ((data.shownHosts options).flatMap (hostGroups options data.network)).filter
      (fun g => decide (g.host = "" ∧ (options.group = "" ∨ g.id = options.group))) = [] := by
    refine List.filter_eq_nil_iff.mpr fun g hg hc => ?_
    obtain ⟨host, hh, hg⟩ := List.mem_flatMap.mp hg
    have hhost := (of_decide_eq_true hc).1
    rw [hostGroups_host hg] at hhost
    exact hseparate.named host (mem_shownHosts hh).1 hhost
  rw [applicationsOf, graph_groups, List.filter_append, hremote, List.append_nil]

omit hseparate in
lemma localGroup_ne {g : GraphGroup} (hg : g ∈ (localPart (data.localGraph options) options).groups)
    (e : RemoteEndpoint) : g.id ≠ remoteGroup e := by
  rcases localPart_cases (data.localGraph options) options with h | h <;> rw [h] at hg
  · cases hg
  · rcases (mem_localGroups g.id).mp (List.mem_map_of_mem hg) with ⟨a, _, ha⟩ | ⟨e', _, he⟩
    · exact ha ▸ identity_ne_remoteGroup a.supervisor e
    · exact he ▸ elementGroup_ne_remoteGroup e' e

lemma elementsOf_local {g : GraphGroup} (hg : g ∈ applicationsOf (data.graph options now) options.group "") :
    elementsOf (data.graph options now) g =
      ((data.localNodes options).filter fun n => n.kind = .element).filter fun n => n.group = g.id := by
  rw [applicationsOf_local hseparate] at hg
  have hremote : ((data.shownHosts options).flatMap (hostNodes options data.network)).filter
      (fun n => decide (n.kind = .element ∧ n.group = g.id)) = [] := by
    refine List.filter_eq_nil_iff.mpr fun n hn hc => ?_
    obtain ⟨host, _, hn⟩ := List.mem_flatMap.mp hn
    obtain ⟨hkind, hgroup⟩ := of_decide_eq_true hc
    rcases (hostNodes_group hn).2 with ⟨hheading, -⟩ | ⟨-, e, -, he⟩
    · rw [hheading] at hkind
      cases hkind
    · exact localGroup_ne (List.mem_filter.mp hg).1 e (hgroup.symm.trans he)
  rw [elementsOf, graph_nodes_eq, List.filter_append, hremote, List.append_nil, List.filter_filter]
  refine List.filter_congr fun n _ => ?_
  rw [Bool.decide_and, Bool.and_comm]

include hdistinct in
lemma local_elements_perm : ((applicationsOf (data.graph options now) options.group "").flatMap
    (elementsOf (data.graph options now))).Perm
      ((data.localNodes options).filter fun n => n.kind = .element) := by
  have hparts : (applicationsOf (data.graph options now) options.group "").flatMap
      (elementsOf (data.graph options now)) =
        ((applicationsOf (data.graph options now) options.group "").map GraphGroup.id).flatMap fun k =>
          ((data.localNodes options).filter fun n => n.kind = .element).filter fun n => n.group = k := by
    rw [List.flatMap_map]
    exact List.flatMap_congr fun g hg => elementsOf_local hseparate hg
  rw [hparts]
  apply parts_perm
  · rw [applicationsOf_local hseparate]
    refine List.Nodup.sublist (List.filter_sublist.map _) ?_
    rcases localPart_cases (data.localGraph options) options with h | h <;> rw [h]
    · exact .nil
    · exact localGroups_nodup
  · intro n hn
    obtain ⟨hn, hkind⟩ := List.mem_filter.mp hn
    obtain ⟨-, hpart⟩ := localNodes_cases hn
    obtain ⟨-, e, he, hin, hgroup⟩ := (localNodes_group hdistinct hn).resolve_right fun h =>
      h.1 (of_decide_eq_true hkind)
    obtain ⟨g, hg, hid⟩ := List.mem_map.mp
      ((@mem_localGroups data.applications data.elements data.topics data.parameters data.services options
        (elementGroup e)).mpr (.inr ⟨e, he, rfl⟩))
    rw [applicationsOf_local hseparate, hpart, hgroup]
    refine List.mem_map.mpr ⟨g, List.mem_filter.mpr ⟨hg, decide_eq_true ⟨localGroups_host hg, ?_⟩⟩, hid⟩
    rw [hid]
    exact hin.imp_right Eq.symm

lemma applicationsOf_host (hh : host ∈ data.shownHosts options) :
    applicationsOf (data.graph options now) options.group host.id =
      (hostGroups options data.network host).filter fun g => options.group = "" ∨ g.id = options.group := by
  have hnamed := hseparate.named host (mem_shownHosts hh).1
  have hlocal : (localPart (data.localGraph options) options).groups.filter
      (fun g => decide (g.host = host.id ∧ (options.group = "" ∨ g.id = options.group))) = [] := by
    refine List.filter_eq_nil_iff.mpr fun g hg hc => ?_
    rcases localPart_cases (data.localGraph options) options with h | h <;> rw [h] at hg
    · cases hg
    · exact hnamed ((of_decide_eq_true hc).1.symm.trans (localGroups_host hg))
  rw [applicationsOf, graph_groups, List.filter_append, hlocal, List.nil_append, List.filter_flatMap]
  rw [flatMap_single (List.Nodup.of_map _ (shownHosts_nodup hseparate)) hh]
  · refine List.filter_congr fun g hg => ?_
    simp [hostGroups_host hg]
  · intro host' hh' hne
    refine List.filter_eq_nil_iff.mpr fun g hg hc => hne ?_
    have hid : host'.id = host.id := (hostGroups_host hg).symm.trans (of_decide_eq_true hc).1
    exact List.inj_on_of_nodup_map hseparate.hosts (mem_shownHosts hh').1 (mem_shownHosts hh).1 hid

include hdistinct in
lemma membersOf_host (hh : host ∈ data.shownHosts options) {g : GraphGroup}
    (hg : g ∈ hostGroups options data.network host) : membersOf (data.graph options now) g =
      (hostRest options data.network host).filter fun n => n.group = g.id := by
  obtain ⟨e, he, hid⟩ := (mem_hostGroups g.id).mp (List.mem_map_of_mem hg)
  have hlocal : (data.localNodes options).filter (fun n => decide (n.group = g.id)) = [] := by
    refine List.filter_eq_nil_iff.mpr fun n hn hc => ?_
    have hgroup : n.group = remoteGroup e := (of_decide_eq_true hc).trans hid.symm
    rcases localNodes_group hdistinct hn with ⟨-, e', -, -, he'⟩ | ⟨-, -, hempty⟩
    · exact elementGroup_ne_remoteGroup e' e (he'.symm.trans hgroup)
    · exact remoteGroup_ne_empty e (hgroup.symm.trans hempty)
  rw [membersOf, graph_nodes_eq, List.filter_append, hlocal, List.nil_append, List.filter_flatMap]
  rw [flatMap_single (List.Nodup.of_map _ (shownHosts_nodup hseparate)) hh]
  · have hheading : (if headed options host then [heading data.network host] else []).filter
        (fun n => decide (n.group = g.id)) = [] := by
      refine List.filter_eq_nil_iff.mpr fun n hn hc => ?_
      split_ifs at hn
      · rw [List.mem_singleton.mp hn, decide_eq_true_eq, ← hid] at hc
        exact remoteGroup_ne_empty e hc.symm
      · cases hn
    rw [hostNodes_eq, List.filter_append, hheading, List.nil_append]
  · intro host' hh' hne
    refine List.filter_eq_nil_iff.mpr fun n hn hc => hne ?_
    have hgroup : n.group = remoteGroup e := (of_decide_eq_true hc).trans hid.symm
    rcases (hostNodes_group hn).2 with ⟨-, hempty⟩ | ⟨-, e', he', hgroup'⟩
    · exact absurd (hgroup.symm.trans hempty) (remoteGroup_ne_empty e)
    · exact hseparate.applications host' (mem_shownHosts hh').1 host (mem_shownHosts hh).1 e' he' e he
        (remoteGroup_inj (hgroup'.symm.trans hgroup))

include hdistinct in
lemma host_members_perm (hh : host ∈ data.shownHosts options) :
    ((applicationsOf (data.graph options now) options.group host.id).flatMap
      (membersOf (data.graph options now))).Perm (hostRest options data.network host) := by
  rw [applicationsOf_host hseparate hh]
  have hparts : ((hostGroups options data.network host).filter fun g =>
      options.group = "" ∨ g.id = options.group).flatMap (membersOf (data.graph options now)) =
        (((hostGroups options data.network host).filter fun g =>
          options.group = "" ∨ g.id = options.group).map GraphGroup.id).flatMap fun k =>
            (hostRest options data.network host).filter fun n => n.group = k := by
    rw [List.flatMap_map]
    exact List.flatMap_congr fun g hg => membersOf_host hdistinct hseparate hh (List.mem_filter.mp hg).1
  rw [hparts]
  apply parts_perm
  · exact List.Nodup.sublist (List.filter_sublist.map _) hostGroups_nodup
  · intro n hn
    obtain ⟨-, -, e, he, hshown, hgroup⟩ := hostRest_cases hn
    obtain ⟨g, hg, hid⟩ := List.mem_map.mp ((@mem_hostGroups options data.network host (remoteGroup e)).mpr
      ⟨e, he, rfl⟩)
    rw [hgroup]
    refine List.mem_map.mpr ⟨g, List.mem_filter.mpr ⟨hg, decide_eq_true ?_⟩, hid⟩
    rw [hid]
    exact (of_decide_eq_true hshown).imp_right Eq.symm

include hdistinct in
lemma headings_perm : (((data.graph options now).nodes.filter fun n => n.kind = .host).flatMap fun n =>
    n :: (applicationsOf (data.graph options now) options.group n.host).flatMap
      (membersOf (data.graph options now))).Perm
        ((data.shownHosts options).flatMap (hostNodes options data.network)) := by
  have hlocal : (data.localNodes options).filter (fun n => decide (n.kind = .host)) = [] := by
    refine List.filter_eq_nil_iff.mpr fun n hn hc => ?_
    rcases localNodes_group hdistinct hn with ⟨hkind, -⟩ | ⟨-, hkind, -⟩
    · rw [hkind] at hc
      cases hc
    · exact hkind (of_decide_eq_true hc)
  have hrest : ∀ host, (hostRest options data.network host).filter (fun n => decide (n.kind = .host)) = [] :=
    fun host => List.filter_eq_nil_iff.mpr fun n hn hc => (hostRest_cases hn).2.1 (of_decide_eq_true hc)
  rw [graph_nodes_eq, List.filter_append, hlocal, List.nil_append, List.filter_flatMap, List.flatMap_assoc]
  refine List.Perm.flatMap_left _ fun host hh => ?_
  rw [hostNodes_eq, List.filter_append, hrest, List.append_nil]
  by_cases hheaded : headed options host
  · simp only [if_pos hheaded]
    have hone : [heading data.network host].filter (fun n => decide (n.kind = .host)) =
        [heading data.network host] := rfl
    rw [hone, List.flatMap_singleton]
    exact (host_members_perm hdistinct hseparate hh).cons _
  · have hnil : hostRest options data.network host = [] :=
      List.eq_nil_iff_forall_not_mem.mpr fun n hn => hheaded (hostRest_headed hn)
    rw [hnil, if_neg hheaded]
    rfl

end Shown

include hdistinct in
lemma drawn_perm (hseparate : Separate data.network) :
    (draw (data.graph options now) options.group).nodes.Perm (data.graph options now).nodes := by
  have hcolumn : (data.graph options now).nodes.filter (fun n => decide (n.host = "" ∧ n.kind ≠ .element)) =
      (data.localNodes options).filter fun n => ¬ n.kind = .element := by
    have hremote : ((data.shownHosts options).flatMap (hostNodes options data.network)).filter
        (fun n => decide (n.host = "" ∧ n.kind ≠ .element)) = [] := by
      refine List.filter_eq_nil_iff.mpr fun n hn hc => ?_
      obtain ⟨host, hh, hn⟩ := List.mem_flatMap.mp hn
      exact remote_named hseparate hh hn (of_decide_eq_true hc).1
    rw [graph_nodes_eq, List.filter_append, hremote, List.append_nil]
    refine List.filter_congr fun n hn => ?_
    simp [localNodes_host hn]
  have hsplit := List.filter_append_perm (fun n : GraphNode => decide (n.kind = .element))
    (data.localNodes options)
  have hlocal := (@local_elements_perm data options now hdistinct hseparate).append_right
    ((data.localNodes options).filter fun n => ¬ n.kind = .element)
  have hnodes := List.Perm.of_eq (@graph_nodes_eq data options now).symm
  rw [draw_nodes, hcolumn]
  refine (List.Perm.append (hlocal.trans ?_) (headings_perm hdistinct hseparate)).trans hnodes
  simpa using hsplit

lemma localNodes_id (hn : n ∈ data.localNodes options)
    (hdistinct : (data.elements.map ElementInfo.identity).Nodup) :
    ∃ c, n.id.toList.head? = some c ∧ c ≠ 'r' := by
  rcases (mem_buildGraph _ _ _ _ _ _ hdistinct).mp (localNodes_cases hn).1 with
    ⟨e, _, _, rfl⟩ | ⟨r, _, _, hnode, _⟩
  · refine ⟨'e', ?_, by decide⟩
    simp [elementNode, String.toList_append]
  · refine ⟨Char.ofNat (48 + r.kind.rank), ?_, ?_⟩
    · rw [hnode.1]
      simp only [Registration.nodeId, String.toList_append, rank_toList]
      rfl
    · cases r.kind <;> decide

lemma hostNodes_id (hn : n ∈ hostNodes options data.network host) : n.id.toList.head? = some 'r' := by
  rcases hostNodes_cases hn with rfl | ⟨e, _, hn⟩
  · simp [heading_id, String.toList_append]
  · rcases (mem_emplaced.mp hn).2 with rfl | ⟨_, rfl⟩
    · simp [runtimeNode_id, String.toList_append]
    · simp [endpointNode_id, String.toList_append]

include hdistinct in
lemma graph_ids (hcoherent : Coherent data.network) :
    ((data.graph options now).nodes.map GraphNode.id).Nodup := by
  rw [graph_nodes_eq, List.map_append, List.nodup_append]
  refine ⟨?_, ?_, ?_⟩
  · unfold GraphData.localNodes
    rcases localPart_cases (data.localGraph options) options with h | h <;> rw [h]
    · exact .nil
    · exact ((List.perm_insertionSort _ _).map GraphNode.id).nodup_iff.mpr (unordered_ids hdistinct)
  · rw [List.map_flatMap, List.nodup_flatMap]
    refine ⟨fun host hh => hostNodes_ids hcoherent (mem_shownHosts hh).1, ?_⟩
    have hnodup : ((data.shownHosts options).map RemoteHost.id).Nodup := by
      unfold GraphData.shownHosts
      split_ifs
      · exact hcoherent.hosts.sublist (List.filter_sublist.map _)
      · exact .nil
    refine (hnodup.of_map _).imp_of_mem fun {host host'} hh hh' hne id hid hid' => hne ?_
    obtain ⟨m, hm, rfl⟩ := List.mem_map.mp hid
    obtain ⟨m', hm', hsame⟩ := List.mem_map.mp hid'
    exact host_unique hcoherent (mem_shownHosts hh).1 (mem_shownHosts hh').1 hm hm' hsame.symm
  · rintro id hid id' hid' rfl
    obtain ⟨m, hm, rfl⟩ := List.mem_map.mp hid
    obtain ⟨m', hm', hsame⟩ := List.mem_map.mp hid'
    obtain ⟨host, _, hm'⟩ := List.mem_flatMap.mp hm'
    obtain ⟨c, hc, hne⟩ := localNodes_id hm hdistinct
    rw [← hsame, hostNodes_id hm'] at hc
    exact hne (Option.some.inj hc).symm

/-- Under whatever filters each node of the graph is drawn once, and its id leads to its own box. -/
theorem nodes_drawn (hdistinct : (data.elements.map ElementInfo.identity).Nodup)
    (hcoherent : Coherent data.network) (hseparate : Separate data.network) (options : GraphOptions)
    (now : UInt64) :
    let model := data.graph options now
    let drawing := draw model options.group
    drawing.nodes.Perm model.nodes ∧ drawing.nodes.Nodup ∧
      ∀ n ∈ model.nodes, ∃ b, (n, b) ∈ drawing.picture.boxes ∧ drawing.box n.id = some b := by
  intro model drawing
  have hperm : drawing.nodes.Perm model.nodes := drawn_perm hdistinct hseparate
  have hids : (drawing.nodes.map GraphNode.id).Nodup :=
    (hperm.map GraphNode.id).nodup_iff.mpr (graph_ids hdistinct hcoherent)
  refine ⟨hperm, hids.of_map _, fun n hn => ?_⟩
  obtain ⟨b, hb⟩ := box_isSome (List.mem_map_of_mem (f := GraphNode.id) (hperm.mem_iff.mpr hn))
  obtain ⟨m, hm, hid⟩ := box_mem hb
  have hmn : m = n := List.inj_on_of_nodup_map hids (List.mem_map_of_mem (f := Prod.fst) hm)
    (hperm.mem_iff.mpr hn) hid
  exact ⟨b, hmn ▸ hm, hb⟩

end Parts

/-- Three local elements, and two Hosts with an application each. -/
def sampleData : GraphData where
  applications := sampleApplications
  elements := sampleElements
  topics := sampleTopics
  network := { hosts := sampleSnapshot.hosts.map fun h =>
    { h with endpoints := h.endpoints.map fun e => { e with applicationId := h.id } } }

lemma sampleData_coherent : Coherent sampleData.network where
  hosts := by decide
  endpoints := by decide
  runtimes := by decide
  agree := by decide

lemma sampleData_separate : Separate sampleData.network where
  hosts := by decide
  named := by decide
  applications := by decide

theorem nodes_drawn_sample :
    (draw (sampleData.graph everything 123460) "").nodes.Nodup ∧
      (draw (sampleData.graph everything 123460) "").picture.boxes.map (fun b => (b.2.left, b.2.top)) =
        [(20, 70), (20, 206), (20, 342), (600, 70), (0, 478), (600, 568), (600, 634), (30, 568), (0, 770),
          (600, 860), (30, 860)] :=
  ⟨(nodes_drawn (by decide) sampleData_coherent sampleData_separate everything 123460).2.1, by decide +kernel⟩

end KcfTools.Graph
