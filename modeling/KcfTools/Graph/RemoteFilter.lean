import KcfTools.Graph.VerifiedRoutes

/-! Filtering the remote graph restricts it: the visible nodes are a part of all nodes, with the edges
between them. -/

namespace KcfTools.Graph

open Std

/-- All kinds of all groups and hosts. -/
def everything : GraphOptions where
  topics := true
  parameters := true
  services := true
  actions := true
  remote := true

/-- What Discovery keeps: identities that are unique, and one description for each runtime. -/
structure Coherent (network : NetworkSnapshot) : Prop where
  hosts : (network.hosts.map RemoteHost.id).Nodup
  endpoints : (network.hosts.flatMap fun h => h.endpoints.map fun e => e.id).Nodup
  runtimes : ∀ h ∈ network.hosts, ∀ h' ∈ network.hosts, ∀ e ∈ h.endpoints, ∀ e' ∈ h'.endpoints,
    e.runtimeId = e'.runtimeId → h = h'
  agree : ∀ h ∈ network.hosts, ∀ e ∈ h.endpoints, ∀ e' ∈ h.endpoints, e.runtimeId = e'.runtimeId →
    e.applicationId = e'.applicationId ∧ e.application = e'.application ∧ e.element = e'.element

/-- The endpoint passes the host, group and kind filters. -/
def Visible (options : GraphOptions) (host : RemoteHost) (e : RemoteEndpoint) : Prop :=
  hostShown options host ∧ groupShown options e ∧ kindShown options e

instance (options : GraphOptions) (host : RemoteHost) (e : RemoteEndpoint) :
    Decidable (Visible options host e) := inferInstanceAs (Decidable (_ ∧ _ ∧ _))

lemma visible_everything (host : RemoteHost) (e : RemoteEndpoint) : Visible everything host e := by
  simp [Visible, everything, hostShown, groupShown, kindShown]

variable {options : GraphOptions} {network : NetworkSnapshot} {host host' : RemoteHost}
  {e e' : RemoteEndpoint} {n : GraphNode} {now : UInt64}

section Prefixes

lemma heading_ne_runtime : (heading network host).id ≠ (runtimeNode network host' e).id := by
  intro h
  have hl := congrArg String.toList h
  simp [heading_id, runtimeNode_id, String.toList_append] at hl

lemma heading_ne_endpoint : (heading network host).id ≠ (endpointNode network host' e).id := by
  intro h
  have hl := congrArg String.toList h
  simp [heading_id, endpointNode_id, String.toList_append] at hl

lemma runtime_ne_endpoint : (runtimeNode network host e).id ≠ (endpointNode network host' e').id := by
  intro h
  have hl := congrArg String.toList h
  simp [runtimeNode_id, endpointNode_id, String.toList_append] at hl

lemma heading_id_inj (h : (heading network host).id = (heading network host').id) : host.id = host'.id := by
  have hl := congrArg String.toList h
  simp only [heading_id, String.toList_append] at hl
  exact String.toList_inj.mp (List.append_cancel_left hl)

lemma runtimeNode_id_inj (h : (runtimeNode network host e).id = (runtimeNode network host' e').id) :
    e.runtimeId = e'.runtimeId := by
  have hl := congrArg String.toList h
  simp only [runtimeNode_id, String.toList_append] at hl
  exact String.toList_inj.mp (List.append_cancel_left hl)

end Prefixes

section Nodes

lemma mem_emplaced : n ∈ emplaced options network host e ↔ groupShown options e ∧
    (n = runtimeNode network host e ∨ kindShown options e ∧ n = endpointNode network host e) := by
  unfold emplaced
  split_ifs with hg hk <;> simp [*]

lemma runtimeNode_congr (hcoherent : Coherent network) (hh : host ∈ network.hosts) (he : e ∈ host.endpoints)
    (he' : e' ∈ host.endpoints) (hid : e.runtimeId = e'.runtimeId) :
    runtimeNode network host e = runtimeNode network host e' := by
  obtain ⟨happlication, hname, helement⟩ := hcoherent.agree host hh e he e' he' hid
  unfold runtimeNode remoteGroup
  rw [hid, happlication, hname, helement]

/-- Nodes of one host with one id are one node. -/
lemma emplaced_agree (hcoherent : Coherent network) (hh : host ∈ network.hosts) {m : GraphNode}
    (hn : n ∈ host.endpoints.flatMap (emplaced options network host))
    (hm : m ∈ host.endpoints.flatMap (emplaced options network host)) (hid : n.id = m.id) : n = m := by
  obtain ⟨e, he, hn⟩ := List.mem_flatMap.mp hn
  obtain ⟨e', he', hm⟩ := List.mem_flatMap.mp hm
  rcases (mem_emplaced.mp hn).2 with rfl | ⟨_, rfl⟩ <;> rcases (mem_emplaced.mp hm).2 with rfl | ⟨_, rfl⟩
  · exact runtimeNode_congr hcoherent hh he he' (runtimeNode_id_inj hid)
  · exact absurd hid runtime_ne_endpoint
  · exact absurd hid.symm runtime_ne_endpoint
  · have hin := (List.nodup_flatMap.mp hcoherent.endpoints).1 host hh
    rw [List.inj_on_of_nodup_map hin he he' (endpointNode_id_inj hid)]

variable (options network host) in
def hostTable : Nodes :=
  (host.endpoints.foldl (addRemoteEndpoint options network host) { edges := [] }).nodes

lemma hostTable_iff (hcoherent : Coherent network) (hh : host ∈ network.hosts) (k : String) :
    (hostTable options network host)[k]? = some n ↔
      n.id = k ∧ ∃ e ∈ host.endpoints, n ∈ emplaced options network host e := by
  unfold hostTable
  rw [addRemoteEndpoints_nodes, Tables.getElem?_fill_iff]
  · simp only [List.mem_map, Prod.mk.injEq]
    constructor
    · rintro ⟨m, hm, rfl, rfl⟩
      exact ⟨rfl, List.mem_flatMap.mp hm⟩
    · rintro ⟨rfl, hm⟩
      exact ⟨n, List.mem_flatMap.mpr hm, rfl, rfl⟩
  · intro x hx y hy hxy
    obtain ⟨n, hn, rfl⟩ := List.mem_map.mp hx
    obtain ⟨m, hm, rfl⟩ := List.mem_map.mp hy
    exact emplaced_agree hcoherent hh hn hm hxy

lemma emplaced_everything (hn : n ∈ emplaced options network host e) :
    n ∈ emplaced everything network host e := by
  obtain ⟨_, hgroup, hkind⟩ := visible_everything host e
  exact mem_emplaced.mpr ⟨hgroup, (mem_emplaced.mp hn).2.imp_right fun h => ⟨hkind, h.2⟩⟩

lemma hostNodes_sublist (hcoherent : Coherent network) (hh : host ∈ network.hosts) :
    (hostNodes options network host).Sublist (hostNodes everything network host) := by
  have htable : (hostTable options network host).toList.Sublist (hostTable everything network host).toList := by
    apply Tables.toList_sublist
    intro k n hn
    rw [hostTable_iff hcoherent hh] at hn ⊢
    obtain ⟨hid, e, he, hmem⟩ := hn
    exact ⟨hid, e, he, emplaced_everything hmem⟩
  refine List.Sublist.append ?_ (htable.map Prod.snd)
  rw [if_pos (show everything.group = "" ∨ _ from .inl rfl)]
  split_ifs
  · exact .refl _
  · exact List.nil_sublist _

lemma remotePart_nodes : (remotePart {} network options).nodes =
    network.hosts.flatMap fun host => if hostShown options host then hostNodes options network host
    else [] := by
  have hstart : localPart {} options = {} := by
    unfold localPart
    split_ifs <;> rfl
  have hfold : ∀ (hosts : List RemoteHost) (start : GraphModel),
      (hosts.foldl (addHost options network) start).nodes = start.nodes ++ hosts.flatMap fun host =>
        if hostShown options host then hostNodes options network host else [] := by
    intro hosts
    induction hosts with
    | nil => simp
    | cons host hosts ih =>
      intro start
      rw [List.foldl_cons, ih, addHost_nodes, List.flatMap_cons, List.append_assoc]
  rw [remotePart, hstart, hfold]
  rfl

lemma remotePart_sublist (hcoherent : Coherent network) :
    (remotePart {} network options).nodes.Sublist (remotePart {} network everything).nodes := by
  rw [remotePart_nodes, remotePart_nodes]
  apply Tables.flatMap_sublist
  intro host hh
  rw [if_pos (visible_everything host {}).1]
  split_ifs
  · exact hostNodes_sublist hcoherent hh
  · exact List.nil_sublist _

lemma emplaced_mem_hostNodes (hcoherent : Coherent network) (hh : host ∈ network.hosts)
    (he : e ∈ host.endpoints) (hn : n ∈ emplaced options network host e) :
    n ∈ hostNodes options network host := by
  refine List.mem_append_right _ (List.mem_map.mpr ⟨(n.id, n), ?_, rfl⟩)
  exact ExtTreeMap.mem_toList_iff_getElem?_eq_some.mpr ((hostTable_iff hcoherent hh _).mpr ⟨rfl, e, he, hn⟩)

lemma host_unique (hcoherent : Coherent network) (hh : host ∈ network.hosts) (hh' : host' ∈ network.hosts)
    {options' : GraphOptions} {m : GraphNode} (hn : n ∈ hostNodes options network host)
    (hm : m ∈ hostNodes options' network host') (hid : n.id = m.id) : host = host' := by
  rcases hostNodes_cases hn with rfl | ⟨e, he, hn⟩ <;>
    rcases hostNodes_cases hm with rfl | ⟨e', he', hm⟩
  · exact List.inj_on_of_nodup_map hcoherent.hosts hh hh' (heading_id_inj hid)
  · rcases (mem_emplaced.mp hm).2 with rfl | ⟨_, rfl⟩
    · exact absurd hid heading_ne_runtime
    · exact absurd hid heading_ne_endpoint
  · rcases (mem_emplaced.mp hn).2 with rfl | ⟨_, rfl⟩
    · exact absurd hid.symm heading_ne_runtime
    · exact absurd hid.symm heading_ne_endpoint
  · rcases (mem_emplaced.mp hn).2 with rfl | ⟨_, rfl⟩ <;> rcases (mem_emplaced.mp hm).2 with rfl | ⟨_, rfl⟩
    · exact hcoherent.runtimes host hh host' hh' e he e' he' (runtimeNode_id_inj hid)
    · exact absurd hid runtime_ne_endpoint
    · exact absurd hid.symm runtime_ne_endpoint
    · exact (endpoint_unique hcoherent.endpoints hh hh' he he' (endpointNode_id_inj hid)).1

lemma hostNodes_ids (hcoherent : Coherent network) (hh : host ∈ network.hosts) :
    ((hostNodes options network host).map GraphNode.id).Nodup := by
  have hkeys : ((hostTable options network host).toList.map Prod.snd).map GraphNode.id =
      (hostTable options network host).keys := by
    rw [← ExtTreeMap.map_fst_toList_eq_keys, List.map_map]
    refine List.map_congr_left fun ⟨k, m⟩ hm => ?_
    exact ((hostTable_iff (n := m) hcoherent hh k).mp (ExtTreeMap.mem_toList_iff_getElem?_eq_some.mp hm)).1
  have hnodup := ExtTreeMap.nodup_keys (t := hostTable options network host)
  rw [← hkeys] at hnodup
  unfold hostNodes
  rw [List.map_append]
  refine List.nodup_append.mpr ⟨?_, hnodup, ?_⟩
  · split_ifs
    · exact List.nodup_singleton _
    · exact .nil
  · rintro a ha b hb rfl
    obtain ⟨m, hm, rfl⟩ := List.mem_map.mp ha
    obtain ⟨m', hm', hid⟩ := List.mem_map.mp hb
    obtain rfl : m = heading network host := by
      split_ifs at hm
      · exact List.mem_singleton.mp hm
      · cases hm
    obtain ⟨⟨k, m'⟩, hmem, rfl⟩ := List.mem_map.mp hm'
    obtain ⟨_, e, _, hm'⟩ :=
      (hostTable_iff (n := m') hcoherent hh k).mp (ExtTreeMap.mem_toList_iff_getElem?_eq_some.mp hmem)
    rcases (mem_emplaced.mp hm').2 with rfl | ⟨_, rfl⟩
    · exact absurd hid.symm heading_ne_runtime
    · exact absurd hid.symm heading_ne_endpoint

lemma remotePart_ids (hcoherent : Coherent network) :
    ((remotePart {} network options).nodes.map GraphNode.id).Nodup := by
  rw [remotePart_nodes, List.map_flatMap]
  refine List.nodup_flatMap.mpr ⟨fun host hh => ?_, ?_⟩
  · split_ifs
    · exact hostNodes_ids hcoherent hh
    · exact .nil
  · refine (hcoherent.hosts.of_map _).imp_of_mem fun {host host'} hh hh' hne id hid hid' => ?_
    obtain ⟨m, hm, rfl⟩ := List.mem_map.mp hid
    obtain ⟨m', hm', hsame⟩ := List.mem_map.mp hid'
    split_ifs at hm hm'
    · exact hne (host_unique hcoherent hh hh' hm hm' hsame.symm)
    · cases hm'
    · cases hm
    · cases hm

lemma mem_remotePart_cases (hn : n ∈ (remotePart {} network options).nodes) :
    ∃ host ∈ network.hosts, hostShown options host ∧ n ∈ hostNodes options network host := by
  rw [remotePart_nodes] at hn
  obtain ⟨host, hh, hn⟩ := List.mem_flatMap.mp hn
  split_ifs at hn with hs
  · exact ⟨host, hh, hs, hn⟩
  · cases hn

lemma emplaced_mem_remotePart (hcoherent : Coherent network) (hh : host ∈ network.hosts)
    (he : e ∈ host.endpoints) (hs : hostShown options host) (hn : n ∈ emplaced options network host e) :
    n ∈ (remotePart {} network options).nodes := by
  rw [remotePart_nodes]
  refine List.mem_flatMap.mpr ⟨host, hh, ?_⟩
  rw [if_pos hs]
  exact emplaced_mem_hostNodes hcoherent hh he hn

lemma endpoint_visible_iff (hcoherent : Coherent network) (hh : host ∈ network.hosts)
    (he : e ∈ host.endpoints) :
    (endpointNode network host e).id ∈ (remotePart {} network options).nodes.map GraphNode.id ↔
      Visible options host e := by
  rw [List.mem_map]
  constructor
  · rintro ⟨m, hm, hid⟩
    obtain ⟨host', hh', hs, hm⟩ := mem_remotePart_cases hm
    rcases hostNodes_cases hm with rfl | ⟨e', he', hm⟩
    · exact absurd hid heading_ne_endpoint
    · obtain ⟨hgroup, rfl | ⟨hkind, rfl⟩⟩ := mem_emplaced.mp hm
      · exact absurd hid runtime_ne_endpoint
      · obtain ⟨rfl, rfl⟩ :=
          endpoint_unique hcoherent.endpoints hh' hh he' he (endpointNode_id_inj hid)
        exact ⟨hs, hgroup, hkind⟩
  · rintro ⟨hs, hgroup, hkind⟩
    refine ⟨endpointNode network host e, ?_, rfl⟩
    exact emplaced_mem_remotePart hcoherent hh he hs (mem_emplaced.mpr ⟨hgroup, .inr ⟨hkind, rfl⟩⟩)

lemma runtime_visible (hcoherent : Coherent network) (hh : host ∈ network.hosts) (he : e ∈ host.endpoints)
    (hv : Visible options host e) : runtimeNode network host e ∈ (remotePart {} network options).nodes :=
  emplaced_mem_remotePart hcoherent hh he hv.1 (mem_emplaced.mpr ⟨hv.2.1, .inl rfl⟩)

lemma endpoint_visible (hcoherent : Coherent network) (hh : host ∈ network.hosts) (he : e ∈ host.endpoints)
    (hv : Visible options host e) : endpointNode network host e ∈ (remotePart {} network options).nodes :=
  emplaced_mem_remotePart hcoherent hh he hv.1 (mem_emplaced.mpr ⟨hv.2.1, .inr ⟨hv.2.2, rfl⟩⟩)

end Nodes

section Ownership

lemma addRemoteEndpoints_ownership (es : List RemoteEndpoint) (s : HostGraph) :
    (es.foldl (addRemoteEndpoint options network host) s).edges = s.edges ++ es.flatMap fun e =>
      if groupShown options e ∧ kindShown options e then (ownershipEdge e).toList else [] := by
  induction es generalizing s with
  | nil => simp
  | cons e es ih =>
    rw [List.foldl_cons, ih, List.flatMap_cons, ← List.append_assoc]
    congr 1
    by_cases hg : groupShown options e = true <;> by_cases hk : kindShown options e = true <;>
      simp [addRemoteEndpoint, hg, hk]

variable (options network) in
def ownership : List GraphEdge :=
  network.hosts.flatMap fun host => host.endpoints.flatMap fun e =>
    if Visible options host e then (ownershipEdge e).toList else []

lemma remotePart_ownership : (remotePart {} network options).edges = ownership options network := by
  have hstart : localPart {} options = {} := by
    unfold localPart
    split_ifs <;> rfl
  have hhost : ∀ (model : GraphModel) (host : RemoteHost), (addHost options network model host).edges =
      model.edges ++ host.endpoints.flatMap fun e =>
        if Visible options host e then (ownershipEdge e).toList else [] := by
    intro model host
    unfold addHost Visible
    by_cases hs : hostShown options host = true
    · have hs' : ¬ (options.host ≠ "" ∧ options.host ≠ host.id) := by
        have := of_decide_eq_true hs
        tauto
      simp only [if_neg hs', addRemoteEndpoints_ownership, hs, true_and]
    · have hs' : options.host ≠ "" ∧ options.host ≠ host.id := by
        unfold hostShown at hs
        rw [decide_eq_true_eq] at hs
        tauto
      simp [if_pos hs', hs]
  have hfold : ∀ (hosts : List RemoteHost) (start : GraphModel),
      (hosts.foldl (addHost options network) start).edges = start.edges ++ hosts.flatMap fun host =>
        host.endpoints.flatMap fun e => if Visible options host e then (ownershipEdge e).toList else [] := by
    intro hosts
    induction hosts with
    | nil => simp
    | cons host hosts ih =>
      intro start
      rw [List.foldl_cons, ih, hhost, List.flatMap_cons, List.append_assoc]
  rw [remotePart, hstart, hfold]
  rfl

end Ownership

section Routes

variable {part whole : GraphModel} {h : RemoteHost} {r : RemoteRoute} {k : RouteKey} {sending : Bool}

def own (r : RemoteRoute) : RouteEndpointIdentity := if r.sending then r.source else r.destination

def RouteKey.end (k : RouteKey) (sending : Bool) : String := if sending then k.source else k.destination

lemma endpointText_own (hk : routeKey r = k) (hs : r.sending = sending) :
    endpointText (own r) = k.end sending := by
  subst hk hs
  unfold own RouteKey.end routeKey
  cases r.sending <;> rfl

lemma visible_mono (hsub : part.nodes.Sublist whole.nodes) {id : String} (hv : visible part id) :
    visible whole id := by
  obtain ⟨n, hn, hid⟩ := List.any_eq_true.mp hv
  exact List.any_eq_true.mpr ⟨n, hsub.mem hn, hid⟩

/-- A node that is visible in the whole graph is visible in a part that has its id. -/
lemma visible_part_iff (hsub : part.nodes.Sublist whole.nodes) (hids : (whole.nodes.map GraphNode.id).Nodup)
    {id : String} (hv : visible whole id) : visible part id ↔ id ∈ part.nodes.map GraphNode.id := by
  constructor
  · intro hp
    obtain ⟨n, hn, hid⟩ := List.any_eq_true.mp hp
    exact List.mem_map.mpr ⟨n, hn, (of_decide_eq_true hid).2.2⟩
  · intro hp
    obtain ⟨n, hn, rfl⟩ := List.mem_map.mp hp
    obtain ⟨m, hm, hid⟩ := List.any_eq_true.mp hv
    obtain rfl := List.inj_on_of_nodup_map hids hm (hsub.mem hn) (of_decide_eq_true hid).2.2
    exact List.any_eq_true.mpr ⟨m, hn, hid⟩

lemma registered_part (hsub : part.nodes.Sublist whole.nodes) (h : RemoteHost) (r : RemoteRoute) :
    registered part h r =
      (visible part ("remote-endpoint:" ++ endpointText (own r)) && registered whole h r) := by
  have hown : ∀ e, matchesEndpoint h e r → endpointText (own r) = e.id := by
    intro e hmatch
    exact ((matchesEndpoint_iff rfl).mp hmatch).2.2.1
  rw [Bool.eq_iff_iff, Bool.and_eq_true]
  unfold registered
  simp only [List.any_eq_true, decide_eq_true_eq]
  constructor
  · rintro ⟨e, he, hmatch, hv⟩
    refine ⟨?_, e, he, hmatch, visible_mono hsub hv⟩
    rwa [hown e hmatch]
  · rintro ⟨hv, e, he, hmatch, _⟩
    refine ⟨e, he, hmatch, ?_⟩
    rwa [← hown e hmatch]

lemma admitted_part (hsub : part.nodes.Sublist whole.nodes) (network : NetworkSnapshot) (now : UInt64) :
    admitted part network now = (admitted whole network now).filter fun r =>
      visible part ("remote-endpoint:" ++ endpointText (own r)) := by
  unfold admitted
  rw [List.filter_flatMap]
  congr 1
  funext host
  rw [List.filter_filter]
  congr 1
  funext r
  rw [registered_part hsub]
  cases visible part ("remote-endpoint:" ++ endpointText (own r)) <;> simp

lemma latest_part (hsub : part.nodes.Sublist whole.nodes) :
    latest (admitted part network now) k sending =
      if visible part ("remote-endpoint:" ++ k.end sending) then latest (admitted whole network now) k sending
      else none := by
  have hfilter : ∀ r ∈ ((admitted whole network now).filter fun r => routeKey r = k).filter
      fun r => r.sending == sending,
      visible part ("remote-endpoint:" ++ endpointText (own r)) =
        visible part ("remote-endpoint:" ++ k.end sending) := by
    intro r hr
    simp only [List.mem_filter, decide_eq_true_eq, beq_iff_eq] at hr
    rw [endpointText_own hr.1.2 hr.2]
  have hcomm : ∀ (l : List RemoteRoute) (p q s : RemoteRoute → Bool),
      ((l.filter p).filter q).filter s = ((l.filter q).filter s).filter p := by
    intro l p q s
    simp only [List.filter_filter]
    refine List.filter_congr fun r _ => ?_
    cases p r <;> cases q r <;> cases s r <;> rfl
  unfold latest
  rw [admitted_part hsub, hcomm, List.filter_congr hfilter]
  cases visible part ("remote-endpoint:" ++ k.end sending) <;> simp

/-- The edge of a key, where both of its sides are reported. -/
def pairEdge (rs : List RemoteRoute) (k : RouteKey) : Option GraphEdge :=
  (⟨latest rs k true, latest rs k false⟩ : Evidence).edge

lemma mem_recordRoutes (rs : List RemoteRoute) (t : EvidenceMap) :
    k ∈ rs.foldl recordRoute t ↔ k ∈ t ∨ ∃ r ∈ rs, routeKey r = k := by
  induction rs generalizing t with
  | nil => simp
  | cons r rs ih =>
    rw [List.foldl_cons, ih, recordRoute, ExtTreeMap.mem_insert, LawfulEqCmp.compare_eq_iff_eq]
    simp only [List.mem_cons, exists_eq_or_imp]
    tauto

lemma collectEvidence_edges (model : GraphModel) (network : NetworkSnapshot) (now : UInt64) :
    (collectEvidence model network now).toList.filterMap (fun entry => entry.2.edge) =
      (collectEvidence model network now).keys.filterMap (pairEdge (admitted model network now)) := by
  rw [← ExtTreeMap.map_fst_toList_eq_keys, List.filterMap_map]
  refine List.filterMap_congr fun ⟨k, pair⟩ hmem => ?_
  have hpair := ExtTreeMap.mem_toList_iff_getElem?_eq_some.mp hmem
  have hget := getD_recordRoute (admitted model network now) k
  rw [← collectEvidence_eq, ExtTreeMap.getD_eq_getD_getElem?, hpair, Option.getD_some] at hget
  simp only [Function.comp_apply, hget, pairEdge]

lemma pairEdge_ends {rs : List RemoteRoute} {edge : GraphEdge} (h : pairEdge rs k = some edge) :
    (∃ r ∈ rs, routeKey r = k ∧ r.sending = true) ∧ (∃ r ∈ rs, routeKey r = k ∧ r.sending = false) ∧
      edge.source = "remote-endpoint:" ++ k.source ∧ edge.target = "remote-endpoint:" ++ k.destination := by
  unfold pairEdge Evidence.edge at h
  split at h
  · rename_i send receive hsend hreceive
    obtain rfl := Option.some.inj h
    have hs := latest_eq_some hsend
    have hr := latest_eq_some hreceive
    refine ⟨⟨send, hs⟩, ⟨receive, hr⟩, ?_, ?_⟩
    · rw [← hs.2.1]
      rfl
    · rw [← hs.2.1]
      rfl
  · cases h

/-- A registered route starts or ends at a visible endpoint of the reporting host. -/
lemma admitted_visible {model : GraphModel} (hr : r ∈ admitted model network now) (hk : routeKey r = k)
    (hs : r.sending = sending) : visible model ("remote-endpoint:" ++ k.end sending) := by
  simp only [admitted, registered, List.mem_flatMap, List.mem_filter, decide_eq_true_eq,
    List.any_eq_true] at hr
  obtain ⟨host, _, _, _, e, _, hmatch, hv⟩ := hr
  have hown : endpointText (own r) = e.id := ((matchesEndpoint_iff rfl).mp hmatch).2.2.1
  rwa [← endpointText_own hk hs, hown]

lemma pairEdge_part (hsub : part.nodes.Sublist whole.nodes) (hids : (whole.nodes.map GraphNode.id).Nodup)
    (k : RouteKey) : pairEdge (admitted part network now) k =
      (pairEdge (admitted whole network now) k).filter fun edge =>
        edge.source ∈ part.nodes.map GraphNode.id ∧ edge.target ∈ part.nodes.map GraphNode.id := by
  cases hedge : pairEdge (admitted whole network now) k with
  | none =>
    unfold pairEdge Evidence.edge at hedge ⊢
    rw [latest_part hsub, latest_part hsub]
    split_ifs
    · exact hedge
    all_goals simp
  | some edge =>
    obtain ⟨⟨s, hs, hsk, hss⟩, ⟨r, hr, hrk, hrs⟩, hsource, htarget⟩ := pairEdge_ends hedge
    have hvs := visible_part_iff hsub hids (admitted_visible hs hsk hss)
    have hvr := visible_part_iff hsub hids (admitted_visible hr hrk hrs)
    have hsend : edge.source ∈ part.nodes.map GraphNode.id ↔
        visible part ("remote-endpoint:" ++ k.end true) := by
      rw [hvs, hsource]
      rfl
    have hreceive : edge.target ∈ part.nodes.map GraphNode.id ↔
        visible part ("remote-endpoint:" ++ k.end false) := by
      rw [hvr, htarget]
      rfl
    unfold pairEdge Evidence.edge at hedge ⊢
    rw [latest_part hsub, latest_part hsub]
    simp only [Option.filter, hsend, hreceive]
    by_cases hp : visible part ("remote-endpoint:" ++ k.end true) = true <;>
      by_cases hq : visible part ("remote-endpoint:" ++ k.end false) = true
    · simpa [hp, hq] using hedge
    all_goals simp [hp, hq]

/-- The routes of a part are those routes of the whole whose ends are visible. -/
lemma routes_part (hsub : part.nodes.Sublist whole.nodes) (hids : (whole.nodes.map GraphNode.id).Nodup)
    (network : NetworkSnapshot) (now : UInt64) :
    (collectEvidence part network now).toList.filterMap (fun entry => entry.2.edge) =
      ((collectEvidence whole network now).toList.filterMap fun entry => entry.2.edge).filter fun edge =>
        edge.source ∈ part.nodes.map GraphNode.id ∧ edge.target ∈ part.nodes.map GraphNode.id := by
  rw [collectEvidence_edges, collectEvidence_edges, List.filter_filterMap]
  have hmem : ∀ (model : GraphModel) (k : RouteKey), k ∈ (collectEvidence model network now).keys ↔
      ∃ r ∈ admitted model network now, routeKey r = k := by
    intro model k
    rw [ExtTreeMap.mem_keys, collectEvidence_eq, mem_recordRoutes]
    simp
  have hkeys : (collectEvidence part network now).keys.Sublist (collectEvidence whole network now).keys := by
    apply Tables.keys_sublist
    intro k hk
    obtain ⟨r, hr, hrk⟩ := (hmem part k).mp hk
    rw [admitted_part hsub] at hr
    exact (hmem whole k).mpr ⟨r, (List.mem_filter.mp hr).1, hrk⟩
  rw [← Tables.filterMap_sublist hkeys ExtTreeMap.nodup_keys]
  · exact List.filterMap_congr fun k _ => pairEdge_part hsub hids k
  · intro k _ hk
    cases hedge : pairEdge (admitted part network now) k with
    | none => rfl
    | some edge =>
      obtain ⟨⟨r, hr, hrk, _⟩, _⟩ := pairEdge_ends hedge
      exact absurd ((hmem part k).mpr ⟨r, hr, hrk⟩) hk

end Routes

section Restriction

variable (network host) in
lemma ownershipEdge_ends {edge : GraphEdge} (h : edge ∈ (ownershipEdge e).toList) :
    edge.networkRoute = false ∧
      (edge.source = (runtimeNode network host e).id ∧ edge.target = (endpointNode network host e).id ∨
        edge.source = (endpointNode network host e).id ∧ edge.target = (runtimeNode network host e).id) := by
  unfold ownershipEdge at h
  simp only at h
  split_ifs at h
  · rw [Option.toList_some, List.mem_singleton] at h
    rw [h]
    exact ⟨rfl, .inl ⟨rfl, rfl⟩⟩
  · rw [Option.toList_some, List.mem_singleton] at h
    rw [h]
    exact ⟨rfl, .inr ⟨rfl, rfl⟩⟩
  · cases h

variable (options) in
lemma ownership_part (hcoherent : Coherent network) : ownership options network =
    (ownership everything network).filter fun edge =>
      edge.source ∈ (remotePart {} network options).nodes.map GraphNode.id ∧
        edge.target ∈ (remotePart {} network options).nodes.map GraphNode.id := by
  unfold ownership
  rw [List.filter_flatMap]
  refine List.flatMap_congr fun host hh => ?_
  rw [List.filter_flatMap]
  refine List.flatMap_congr fun e he => ?_
  rw [if_pos (visible_everything host e)]
  have hiff : _ ↔ Visible options host e := endpoint_visible_iff hcoherent hh he
  symm
  split_ifs with hv
  · have hendpoint := List.mem_map_of_mem (f := GraphNode.id) (endpoint_visible hcoherent hh he hv)
    have hruntime := List.mem_map_of_mem (f := GraphNode.id) (runtime_visible hcoherent hh he hv)
    refine List.filter_eq_self.mpr fun edge hedge => decide_eq_true ?_
    obtain ⟨_, ⟨hs, ht⟩ | ⟨hs, ht⟩⟩ := ownershipEdge_ends network host hedge
    · exact ⟨hs ▸ hruntime, ht ▸ hendpoint⟩
    · exact ⟨hs ▸ hendpoint, ht ▸ hruntime⟩
  · refine List.filter_eq_nil_iff.mpr fun edge hedge hends => hv (hiff.mp ?_)
    obtain ⟨hsource, htarget⟩ := of_decide_eq_true hends
    obtain ⟨_, ⟨_, ht⟩ | ⟨hs, _⟩⟩ := ownershipEdge_ends network host hedge
    · exact ht ▸ htarget
    · exact hs ▸ hsource

lemma mem_ownership {edge : GraphEdge} (h : edge ∈ ownership options network) :
    ∃ host ∈ network.hosts, ∃ e ∈ host.endpoints, Visible options host e ∧
      edge ∈ (ownershipEdge e).toList := by
  obtain ⟨host, hh, h⟩ := List.mem_flatMap.mp h
  obtain ⟨e, he, h⟩ := List.mem_flatMap.mp h
  split_ifs at h with hv
  · exact ⟨host, hh, e, he, hv, h⟩
  · cases h

/-- Nodes have ids of their own, an edge joins two of them, and ownership stays within a host. -/
structure WellFormed (network : NetworkSnapshot) (model : GraphModel) : Prop where
  ids : (model.nodes.map GraphNode.id).Nodup
  ends : ∀ edge ∈ model.edges, edge.source ∈ model.nodes.map GraphNode.id ∧
    edge.target ∈ model.nodes.map GraphNode.id
  owned : ∀ edge ∈ model.edges, edge.networkRoute = false →
    ∃ host ∈ network.hosts, ∃ e ∈ host.endpoints,
      runtimeNode network host e ∈ model.nodes ∧ endpointNode network host e ∈ model.nodes ∧
        (edge.source = (runtimeNode network host e).id ∧ edge.target = (endpointNode network host e).id ∨
          edge.source = (endpointNode network host e).id ∧ edge.target = (runtimeNode network host e).id)

lemma addRemoteGraph_nodes (hremote : options.remote) :
    (addRemoteGraph {} network options now).nodes = (remotePart {} network options).nodes := by
  unfold addRemoteGraph
  rw [if_neg (not_not.mpr hremote)]
  rfl

lemma addRemoteGraph_edges (hremote : options.remote) :
    (addRemoteGraph {} network options now).edges = ownership options network ++
      (collectEvidence (remotePart {} network options) network now).toList.filterMap
        fun entry => entry.2.edge := by
  unfold addRemoteGraph
  rw [if_neg (not_not.mpr hremote), addVerifiedRoutes, remotePart_ownership]

lemma visible_id {model : GraphModel} {id : String} (hv : visible model id) :
    id ∈ model.nodes.map GraphNode.id := by
  obtain ⟨m, hm, hid⟩ := List.any_eq_true.mp hv
  exact List.mem_map.mpr ⟨m, hm, (of_decide_eq_true hid).2.2⟩

lemma addRemoteGraph_wellFormed (hcoherent : Coherent network) (hremote : options.remote) (now : UInt64) :
    WellFormed network (addRemoteGraph {} network options now) := by
  have howned : ∀ edge ∈ ownership options network, edge.networkRoute = false ∧
      ∃ host ∈ network.hosts, ∃ e ∈ host.endpoints,
        runtimeNode network host e ∈ (remotePart {} network options).nodes ∧
        endpointNode network host e ∈ (remotePart {} network options).nodes ∧
        (edge.source = (runtimeNode network host e).id ∧ edge.target = (endpointNode network host e).id ∨
          edge.source = (endpointNode network host e).id ∧ edge.target = (runtimeNode network host e).id) := by
    intro edge hedge
    obtain ⟨host, hh, e, he, hv, hedge⟩ := mem_ownership hedge
    obtain ⟨hroute, hends⟩ := ownershipEdge_ends network host hedge
    exact ⟨hroute, host, hh, e, he, runtime_visible hcoherent hh he hv,
      endpoint_visible hcoherent hh he hv, hends⟩
  constructor
  · rw [addRemoteGraph_nodes hremote]
    exact remotePart_ids hcoherent
  · intro edge hedge
    rw [addRemoteGraph_edges hremote] at hedge
    rw [addRemoteGraph_nodes hremote]
    rcases List.mem_append.mp hedge with hedge | hedge
    · obtain ⟨_, host, _, e, _, hruntime, hendpoint, ⟨hs, ht⟩ | ⟨hs, ht⟩⟩ := howned edge hedge
      · exact ⟨hs ▸ List.mem_map_of_mem hruntime, ht ▸ List.mem_map_of_mem hendpoint⟩
      · exact ⟨hs ▸ List.mem_map_of_mem hendpoint, ht ▸ List.mem_map_of_mem hruntime⟩
    · rw [collectEvidence_edges] at hedge
      obtain ⟨k, _, hpair⟩ := List.mem_filterMap.mp hedge
      obtain ⟨⟨s, hs, hsk, hss⟩, ⟨r, hr, hrk, hrs⟩, hsource, htarget⟩ := pairEdge_ends hpair
      rw [hsource, htarget]
      exact ⟨visible_id (admitted_visible hs hsk hss), visible_id (admitted_visible hr hrk hrs)⟩
  · intro edge hedge hroute
    rw [addRemoteGraph_edges hremote] at hedge
    rw [addRemoteGraph_nodes hremote]
    rcases List.mem_append.mp hedge with hedge | hedge
    · exact (howned edge hedge).2
    · obtain ⟨entry, _, hpair⟩ := List.mem_filterMap.mp hedge
      rw [edge_networkRoute hpair] at hroute
      cases hroute

/-- The graph under filters is the restriction of the whole graph to the visible nodes. -/
theorem filtering_restricts (hcoherent : Coherent network) (hremote : options.remote) (now : UInt64) :
    let whole := addRemoteGraph {} network everything now
    let part := addRemoteGraph {} network options now
    part.nodes.Sublist whole.nodes ∧
      part.edges = (whole.edges.filter fun edge =>
        edge.source ∈ part.nodes.map GraphNode.id ∧ edge.target ∈ part.nodes.map GraphNode.id) ∧
      WellFormed network whole ∧ WellFormed network part := by
  intro whole part
  have hsub : (remotePart {} network options).nodes.Sublist (remotePart {} network everything).nodes :=
    remotePart_sublist hcoherent
  refine ⟨?_, ?_, addRemoteGraph_wellFormed hcoherent rfl now,
    addRemoteGraph_wellFormed hcoherent hremote now⟩
  · rw [addRemoteGraph_nodes hremote, addRemoteGraph_nodes rfl]
    exact hsub
  · rw [addRemoteGraph_nodes hremote, addRemoteGraph_edges hremote, addRemoteGraph_edges rfl,
      List.filter_append, ← ownership_part options hcoherent,
      routes_part hsub (remotePart_ids hcoherent) network now]

def sampleSnapshot : NetworkSnapshot where
  hosts := [
    { reporter sender 1 "PUBLISHER" with
      endpoints := [
        { id := endpointText sender, runtimeId := "r1", kind := "T", role := "PUBLISHER" },
        { id := "p", runtimeId := "r1", kind := "P", role := "OWNER" }] },
    { reporter receiver 2 "SUBSCRIBER" with
      endpoints := [{ id := endpointText receiver, runtimeId := "r2", kind := "T", role := "SUBSCRIBER" }] }]

lemma sampleSnapshot_coherent : Coherent sampleSnapshot where
  hosts := by decide
  endpoints := by decide
  runtimes := by decide
  agree := by decide

theorem filtering_restricts_sample :
    (addRemoteGraph {} sampleSnapshot { remote := true } 123460).nodes.Sublist
        (addRemoteGraph {} sampleSnapshot everything 123460).nodes ∧
      ((addRemoteGraph {} sampleSnapshot { remote := true } 123460).nodes.length,
        (addRemoteGraph {} sampleSnapshot everything 123460).nodes.length,
        (addRemoteGraph {} sampleSnapshot { remote := true } 123460).edges.length,
        (addRemoteGraph {} sampleSnapshot everything 123460).edges.length) = (6, 7, 3, 4) :=
  ⟨(filtering_restricts sampleSnapshot_coherent rfl 123460).1, by decide +kernel⟩

end Restriction

end KcfTools.Graph
