import KcfTools.Graph.NetworkGraph

/-! A network edge stands for one route that both of its Gateways report. -/

namespace KcfTools.Graph

open Std

section Evidence

def admitted (model : GraphModel) (network : NetworkSnapshot) (now : UInt64) : List RemoteRoute :=
  (network.hosts.filter fun h => freshDiagnostics h now).flatMap fun h =>
    h.diagnostics.routes.filter fun r => r.state = 1 ∧ registered model h r

lemma collectRoutes_eq (model : GraphModel) (h : RemoteHost) (rs : List RemoteRoute)
    (evidence : EvidenceMap) :
    rs.foldl (collectRoute model h) evidence =
      (rs.filter fun r => r.state = 1 ∧ registered model h r).foldl recordRoute evidence := by
  induction rs generalizing evidence with
  | nil => rfl
  | cons r rs ih =>
    rw [List.foldl_cons, ih]
    by_cases hs : r.state = 1 <;> by_cases hr : registered model h r = true <;>
      simp [collectRoute, hs, hr]

lemma collectEvidence_eq (model : GraphModel) (network : NetworkSnapshot) (now : UInt64) :
    collectEvidence model network now = (admitted model network now).foldl recordRoute ∅ := by
  unfold collectEvidence admitted
  generalize (∅ : EvidenceMap) = evidence
  induction network.hosts generalizing evidence with
  | nil => rfl
  | cons h hs ih =>
    rw [List.foldl_cons, ih]
    by_cases hf : freshDiagnostics h now = true
    · rw [collectHost, if_neg (not_not.mpr hf), collectRoutes_eq,
        List.filter_cons_of_pos (by simpa using hf), List.flatMap_cons, List.foldl_append]
    · rw [collectHost, if_pos hf, List.filter_cons_of_neg (by simpa using hf)]

lemma record_send (rs : List RemoteRoute) (pair : Evidence) :
    (rs.foldl (fun pair r => Evidence.record r pair) pair).send =
      ((rs.filter fun r => r.sending).getLast?).or pair.send := by
  induction rs generalizing pair with
  | nil => rfl
  | cons r rs ih =>
    rw [List.foldl_cons, ih]
    cases hr : r.sending <;> cases hl : (rs.filter fun r => r.sending).getLast? <;>
      simp [Evidence.record, hr, hl, List.getLast?_cons]

lemma record_receive (rs : List RemoteRoute) (pair : Evidence) :
    (rs.foldl (fun pair r => Evidence.record r pair) pair).receive =
      ((rs.filter fun r => !r.sending).getLast?).or pair.receive := by
  induction rs generalizing pair with
  | nil => rfl
  | cons r rs ih =>
    rw [List.foldl_cons, ih]
    cases hr : r.sending <;> cases hl : (rs.filter fun r => !r.sending).getLast? <;>
      simp [Evidence.record, hr, hl, List.getLast?_cons]

variable (rs : List RemoteRoute) (k : RouteKey)

def latest (sending : Bool) : Option RemoteRoute :=
  ((rs.filter fun r => routeKey r = k).filter fun r => r.sending == sending).getLast?

lemma getD_recordRoute :
    (rs.foldl recordRoute ∅).getD k {} = ⟨latest rs k true, latest rs k false⟩ := by
  have hpair : (rs.foldl recordRoute ∅).getD k {} =
      (rs.filter fun r => routeKey r = k).foldl (fun pair r => Evidence.record r pair)
        ((∅ : EvidenceMap).getD k {}) :=
    Tables.getD_collect routeKey Evidence.record {} rs ∅ k
  rw [ExtTreeMap.getD_empty] at hpair
  have hsend := record_send (rs.filter fun r => routeKey r = k) {}
  have hreceive := record_receive (rs.filter fun r => routeKey r = k) {}
  rw [← hpair, Option.or_none] at hsend hreceive
  generalize (rs.foldl recordRoute ∅).getD k {} = pair at hsend hreceive ⊢
  obtain ⟨send, receive⟩ := pair
  simp only at hsend hreceive
  simp only [hsend, hreceive, latest, beq_true, beq_false]

variable {rs k}

lemma latest_eq_some {sending : Bool} {r : RemoteRoute} (h : latest rs k sending = some r) :
    r ∈ rs ∧ routeKey r = k ∧ r.sending = sending := by
  have hm := List.mem_of_getLast? h
  simp only [List.mem_filter, decide_eq_true_eq, beq_iff_eq] at hm
  exact ⟨hm.1.1, hm.1.2, hm.2⟩

lemma latest_isSome {sending : Bool} {r : RemoteRoute} (hr : r ∈ rs) (hk : routeKey r = k)
    (hs : r.sending = sending) : ∃ s, latest rs k sending = some s := by
  cases hl : latest rs k sending with
  | some s => exact ⟨s, rfl⟩
  | none =>
    have hm : r ∈ (rs.filter fun r => routeKey r = k).filter fun r => r.sending == sending := by
      simp [hr, hk, hs]
    rw [List.getLast?_eq_none_iff.mp hl] at hm
    cases hm

end Evidence

section HostNodes

variable (options : GraphOptions) (network : NetworkSnapshot) (host : RemoteHost)

def emplaced (e : RemoteEndpoint) : List GraphNode :=
  if groupShown options e then
    runtimeNode network host e :: if kindShown options e then [endpointNode network host e] else []
  else []

lemma addRemoteEndpoints_nodes (es : List RemoteEndpoint) (s : HostGraph) :
    (es.foldl (addRemoteEndpoint options network host) s).nodes =
      Tables.fill s.nodes ((es.flatMap (emplaced options network host)).map fun n => (n.id, n)) := by
  induction es generalizing s with
  | nil => rfl
  | cons e es ih =>
    rw [List.foldl_cons, ih]
    by_cases hg : groupShown options e = true <;> by_cases hk : kindShown options e = true <;>
      simp [addRemoteEndpoint, emplaced, hg, hk]

lemma addRemoteEndpoints_edges (es : List RemoteEndpoint) (s : HostGraph)
    (h : ∀ edge ∈ s.edges, edge.networkRoute = false) :
    ∀ edge ∈ (es.foldl (addRemoteEndpoint options network host) s).edges, edge.networkRoute = false := by
  induction es generalizing s with
  | nil => exact h
  | cons e es ih =>
    refine ih _ ?_
    have howned : ∀ edge ∈ (ownershipEdge e).toList, edge.networkRoute = false := by
      unfold ownershipEdge
      split_ifs <;> simp
    intro edge hm
    have hin : edge ∈ s.edges ++ (ownershipEdge e).toList := by
      unfold addRemoteEndpoint at hm
      by_cases hg : groupShown options e = true <;> by_cases hk : kindShown options e = true <;>
        simp only [hg, hk, not_true_eq_false, Bool.false_eq_true, not_false_eq_true, if_true,
          if_false] at hm
      · exact hm
      · exact List.mem_append_left _ hm
      · exact List.mem_append_left _ hm
      · exact List.mem_append_left _ hm
    rcases List.mem_append.mp hin with hin | hin
    · exact h edge hin
    · exact howned edge hin

def hostNodes : List GraphNode :=
  let s := host.endpoints.foldl (addRemoteEndpoint options network host) { edges := [] }
  (if options.group = "" ∨ s.groups.contains options.group then [heading network host] else []) ++
    s.nodes.toList.map Prod.snd

variable {options network host}

lemma endpointNode_id_inj {h h' : RemoteHost} {e e' : RemoteEndpoint}
    (he : (endpointNode network h e).id = (endpointNode network h' e').id) : e.id = e'.id := by
  have hl := congrArg String.toList he
  simp only [endpointNode_id, String.toList_append] at hl
  exact String.toList_inj.mp (List.append_cancel_left hl)

lemma hostNodes_cases {n : GraphNode} (h : n ∈ hostNodes options network host) :
    n = heading network host ∨ ∃ e ∈ host.endpoints, n ∈ emplaced options network host e := by
  rcases List.mem_append.mp h with h | h
  · split_ifs at h
    · exact .inl (List.mem_singleton.mp h)
    · cases h
  · obtain ⟨⟨k, m⟩, hm, rfl⟩ := List.mem_map.mp h
    have hf := ExtTreeMap.mem_toList_iff_getElem?_eq_some.mp hm
    rw [addRemoteEndpoints_nodes, Tables.getElem?_fill] at hf
    simp only [ExtTreeMap.getElem?_empty, Option.none_or] at hf
    obtain ⟨⟨k', m'⟩, hfind, rfl⟩ := Option.map_eq_some_iff.mp hf
    obtain ⟨n, hn, he⟩ := List.mem_map.mp (List.mem_of_find?_eq_some hfind)
    obtain ⟨e, hem, hne⟩ := List.mem_flatMap.mp hn
    obtain ⟨-, rfl⟩ := Prod.mk.inj he
    exact .inr ⟨e, hem, hne⟩

lemma mem_hostNodes {n : GraphNode} (h : n ∈ hostNodes options network host) (hk : n.kind = .topic) :
    ∃ e ∈ host.endpoints, groupShown options e ∧ kindShown options e ∧
      n = endpointNode network host e := by
  rcases hostNodes_cases h with rfl | ⟨e, hem, hne⟩
  · cases hk
  · unfold emplaced at hne
    split_ifs at hne with hg hs
    · rcases List.mem_cons.mp hne with rfl | hne
      · cases hk
      · exact ⟨e, hem, hg, hs, List.mem_singleton.mp hne⟩
    · rw [List.mem_singleton.mp hne] at hk
      cases hk
    · cases hne

lemma endpointNode_mem {e : RemoteEndpoint} (he : e ∈ host.endpoints)
    (hn : (host.endpoints.map fun e => e.id).Nodup) (hg : groupShown options e) (hk : kindShown options e) :
    endpointNode network host e ∈ hostNodes options network host := by
  refine List.mem_append_right _ (List.mem_map.mpr ⟨((endpointNode network host e).id, _), ?_, rfl⟩)
  rw [ExtTreeMap.mem_toList_iff_getElem?_eq_some, addRemoteEndpoints_nodes, Tables.getElem?_fill]
  simp only [ExtTreeMap.getElem?_empty, Option.none_or]
  set entries := (host.endpoints.flatMap (emplaced options network host)).map fun n => (n.id, n)
    with hentries
  have hmem : ((endpointNode network host e).id, endpointNode network host e) ∈ entries := by
    refine List.mem_map.mpr ⟨endpointNode network host e, List.mem_flatMap.mpr ⟨e, he, ?_⟩, rfl⟩
    simp [emplaced, hg, hk]
  obtain ⟨⟨k, n⟩, hfind⟩ := Option.isSome_iff_exists.mp
    (List.find?_isSome (p := fun x => x.1 = (endpointNode network host e).id).mpr
      ⟨_, hmem, by simp⟩)
  rw [hfind]
  obtain ⟨m, hm, heq⟩ := List.mem_map.mp (List.mem_of_find?_eq_some hfind)
  obtain ⟨rfl, rfl⟩ := Prod.mk.inj heq
  obtain ⟨d, hd, hmd⟩ := List.mem_flatMap.mp hm
  have hid : m.id = (endpointNode network host e).id := by simpa using List.find?_some hfind
  have hruntime : ∀ x y : String, "remote-runtime:" ++ x ≠ "remote-endpoint:" ++ y := by
    intro x y hxy
    have hl := congrArg String.toList hxy
    simp [String.toList_append] at hl
  have hmn : m = endpointNode network host d := by
    unfold emplaced at hmd
    split_ifs at hmd
    · rcases List.mem_cons.mp hmd with rfl | hmd
      · exact absurd hid (hruntime _ _)
      · exact List.mem_singleton.mp hmd
    · rw [List.mem_singleton.mp hmd] at hid
      exact absurd hid (hruntime _ _)
    · cases hmd
  rw [hmn] at hid
  obtain rfl : d = e := List.inj_on_of_nodup_map hn hd he (endpointNode_id_inj hid)
  rw [hmn]
  rfl

end HostNodes

section Visible

variable {options : GraphOptions} {network : NetworkSnapshot} {model : GraphModel}

def hostShown (options : GraphOptions) (host : RemoteHost) : Bool :=
  options.host = "" ∨ options.host = host.id

/-- A remote topic endpoint that the options let through. -/
structure Shown (options : GraphOptions) (host : RemoteHost) (e : RemoteEndpoint) : Prop where
  remote : options.remote = true
  nonempty : host.id ≠ ""
  host : options.host = "" ∨ options.host = host.id
  group : options.group = "" ∨ options.group = "remote-app:" ++ e.applicationId
  topics : options.topics = true
  kind : e.kind = "T"

lemma addRemoteEndpoints_start (host : RemoteHost) (es : List RemoteEndpoint) (s s' : HostGraph)
    (hn : s.nodes = s'.nodes) (hg : s.groups = s'.groups) :
    (es.foldl (addRemoteEndpoint options network host) s).nodes =
        (es.foldl (addRemoteEndpoint options network host) s').nodes ∧
      (es.foldl (addRemoteEndpoint options network host) s).groups =
        (es.foldl (addRemoteEndpoint options network host) s').groups := by
  induction es generalizing s s' with
  | nil => exact ⟨hn, hg⟩
  | cons e es ih =>
    refine ih _ _ ?_ ?_ <;>
      by_cases hs : groupShown options e = true <;> by_cases hk : kindShown options e = true <;>
        simp [addRemoteEndpoint, hs, hk, hn, hg]

lemma addHost_nodes (host : RemoteHost) :
    (addHost options network model host).nodes =
      model.nodes ++ if hostShown options host then hostNodes options network host else [] := by
  unfold addHost hostShown
  by_cases h : options.host ≠ "" ∧ options.host ≠ host.id
  · simp [h]
  · have hs : options.host = "" ∨ options.host = host.id := by
      rwa [not_and_or, not_not, not_not] at h
    obtain ⟨hn, hg⟩ := @addRemoteEndpoints_start options network host
      host.endpoints { edges := model.edges } { edges := [] } rfl rfl
    simp only [h, if_false, hs, decide_true, if_true, hn, hg, hostNodes, List.append_assoc]

lemma mem_remotePart {n : GraphNode} :
    n ∈ (remotePart model network options).nodes ↔ n ∈ (localPart model options).nodes ∨
      ∃ host ∈ network.hosts, hostShown options host ∧ n ∈ hostNodes options network host := by
  unfold remotePart
  generalize localPart model options = start
  suffices h : ∀ (hosts : List RemoteHost) (start : GraphModel),
      n ∈ (hosts.foldl (addHost options network) start).nodes ↔ n ∈ start.nodes ∨
        ∃ host ∈ hosts, hostShown options host ∧ n ∈ hostNodes options network host from
    h network.hosts start
  intro hosts
  induction hosts with
  | nil => simp
  | cons h hs ih =>
    intro start
    rw [List.foldl_cons, ih, addHost_nodes]
    by_cases hh : hostShown options h = true <;> simp [hh, or_assoc]

lemma localPart_edges (hl : ∀ e ∈ model.edges, e.networkRoute = false) :
    ∀ e ∈ (localPart model options).edges, e.networkRoute = false := by
  unfold localPart
  split_ifs
  · simp
  · exact hl

lemma remotePart_edges (hl : ∀ e ∈ model.edges, e.networkRoute = false) :
    ∀ e ∈ (remotePart model network options).edges, e.networkRoute = false := by
  unfold remotePart
  have hstart := @localPart_edges options model hl
  generalize localPart model options = start at hstart
  induction network.hosts generalizing start with
  | nil => exact hstart
  | cons h hs ih =>
    refine ih _ ?_
    unfold addHost
    split_ifs
    · exact hstart
    · exact addRemoteEndpoints_edges options network h h.endpoints _ hstart

variable (hn : (network.hosts.flatMap fun h => h.endpoints.map fun e => e.id).Nodup)

include hn

lemma endpoint_unique {h h' : RemoteHost} {e e' : RemoteEndpoint} (hh : h ∈ network.hosts)
    (hh' : h' ∈ network.hosts) (he : e ∈ h.endpoints) (he' : e' ∈ h'.endpoints) (hid : e.id = e'.id) :
    h = h' ∧ e = e' := by
  obtain ⟨hin, hout⟩ := List.nodup_flatMap.mp hn
  have heq : h = h' := by
    by_contra hne
    have : Std.Symm (Function.onFun List.Disjoint fun h : RemoteHost => h.endpoints.map fun e => e.id) :=
      ⟨fun _ _ hd => List.Disjoint.symm hd⟩
    have hd := hout.forall hh hh' hne
    exact hd (List.mem_map.mpr ⟨e, he, hid⟩) (List.mem_map.mpr ⟨e', he', rfl⟩)
  subst heq
  exact ⟨rfl, List.inj_on_of_nodup_map (hin h hh) he he' hid⟩

lemma visible_iff (hlocal : ∀ n ∈ model.nodes, n.host = "") (hr : options.remote = true)
    {host : RemoteHost} (hh : host ∈ network.hosts) {e : RemoteEndpoint} (he : e ∈ host.endpoints) :
    visible (remotePart model network options) ("remote-endpoint:" ++ e.id) = true ↔
      Shown options host e := by
  unfold visible
  rw [List.any_eq_true]
  constructor
  · rintro ⟨n, hm, hv⟩
    simp only [decide_eq_true_eq] at hv
    obtain ⟨hkind, hhost, hid⟩ := hv
    rcases mem_remotePart.mp hm with hm | ⟨h', hh', hshown, hm⟩
    · refine absurd ?_ hhost
      unfold localPart at hm
      split_ifs at hm
      · cases hm
      · exact hlocal n hm
    · obtain ⟨e', he', hg, hk, rfl⟩ := mem_hostNodes hm hkind
      obtain ⟨rfl, rfl⟩ := endpoint_unique hn hh' hh he' he
        (@endpointNode_id_inj network h' host e' e hid)
      have hT : e'.kind = "T" := by
        simp only [endpointNode_kind, remoteKind] at hkind
        split_ifs at hkind with hT
        exact hT
      simp only [kindShown, hT, decide_eq_true_eq, not_or, not_and, not_not] at hk
      exact ⟨hr, hhost, of_decide_eq_true hshown, of_decide_eq_true hg, hk.1 trivial, hT⟩
  · intro h
    refine ⟨endpointNode network host e, mem_remotePart.mpr (.inr ⟨host, hh, ?_, ?_⟩), ?_⟩
    · exact decide_eq_true h.host
    · refine endpointNode_mem he ((List.nodup_flatMap.mp hn).1 host hh) ?_ ?_
      · exact decide_eq_true h.group
      · simp [kindShown, h.kind, h.topics]
    · simpa [endpointNode_kind, endpointNode_host, endpointNode_id, remoteKind, h.kind] using h.nonempty

end Visible

structure Fresh (h : RemoteHost) (now : UInt64) : Prop where
  online : h.state = "ONLINE" ∧ h.compatibility = "COMPATIBLE" ∧ h.metadataReady = true
  status : h.diagnostics.status = .valid ∨ h.diagnostics.status = .truncated
  gateway : h.diagnostics.gatewayHost = h.id ∧ h.diagnostics.gatewayBoot = h.bootId ∧
    h.diagnostics.gatewaySession = h.session
  observed : 0 < h.diagnostics.observedAtUnixMs.toNat ∧
    h.diagnostics.observedAtUnixMs.toNat ≤ now.toNat ∧
    now.toNat - h.diagnostics.observedAtUnixMs.toNat ≤ 10000

/-- `host` is fresh and reports the active route `r`, whose own end is its endpoint `e` on display. -/
structure Reports (network : NetworkSnapshot) (options : GraphOptions) (now : UInt64) (k : RouteKey)
    (sending : Bool) (r : RemoteRoute) (host : RemoteHost) (e : RemoteEndpoint) : Prop where
  member : host ∈ network.hosts ∧ r ∈ host.diagnostics.routes ∧ e ∈ host.endpoints
  fresh : Fresh host now
  route : r.state = 1 ∧ r.sending = sending ∧ routeKey r = k
  shown : Shown options host e
  role : e.role = if sending then "PUBLISHER" else "SUBSCRIBER"
  own : endpointText (if sending then r.source else r.destination) = e.id ∧
    (if sending then r.source else r.destination).hostId = host.id ∧
    (if sending then r.source else r.destination).bootId = host.bootId ∧
    (if sending then r.sourceSession else r.destinationSession) = host.session

/-- The edge drawn for `k` joins the two endpoints that report it. -/
def Verified (network : NetworkSnapshot) (options : GraphOptions) (now : UInt64) (nodes : List GraphNode)
    (k : RouteKey) (edge : GraphEdge) : Prop :=
  ∃ send receive host host' e e', Reports network options now k true send host e ∧
    Reports network options now k false receive host' e' ∧ edge = routeEdge send receive ∧
    edge.source = (endpointNode network host e).id ∧ endpointNode network host e ∈ nodes ∧
    edge.target = (endpointNode network host' e').id ∧ endpointNode network host' e' ∈ nodes

lemma freshDiagnostics_iff {h : RemoteHost} {now : UInt64} : freshDiagnostics h now = true ↔ Fresh h now := by
  have hsub : h.diagnostics.observedAtUnixMs ≤ now →
      (now - h.diagnostics.observedAtUnixMs).toNat = now.toNat - h.diagnostics.observedAtUnixMs.toNat :=
    fun hle => UInt64.toNat_sub_of_le _ _ hle
  have hzero : h.diagnostics.observedAtUnixMs ≠ 0 ↔ 0 < h.diagnostics.observedAtUnixMs.toNat := by
    rw [Nat.pos_iff_ne_zero, not_iff_not, ← UInt64.toNat_inj]
    rfl
  simp only [freshDiagnostics, decide_eq_true_eq, UInt64.le_iff_toNat_le, hzero]
  constructor
  · rintro ⟨h₁, h₂, h₃, h₄, h₅, h₆, h₇, h₈, h₉, h₁₀⟩
    rw [hsub (UInt64.le_iff_toNat_le.mpr h₉)] at h₁₀
    exact ⟨⟨h₁, h₂, h₃⟩, h₄, ⟨h₅, h₆, h₇⟩, h₈, h₉, h₁₀⟩
  · rintro ⟨⟨h₁, h₂, h₃⟩, h₄, ⟨h₅, h₆, h₇⟩, h₈, h₉, h₁₀⟩
    rw [hsub (UInt64.le_iff_toNat_le.mpr h₉)]
    exact ⟨h₁, h₂, h₃, h₄, h₅, h₆, h₇, h₈, h₉, h₁₀⟩

lemma matchesEndpoint_iff {host : RemoteHost} {e : RemoteEndpoint} {r : RemoteRoute} {sending : Bool}
    (hs : r.sending = sending) : matchesEndpoint host e r = true ↔
      e.kind = "T" ∧ e.role = (if sending then "PUBLISHER" else "SUBSCRIBER") ∧
      endpointText (if sending then r.source else r.destination) = e.id ∧
      (if sending then r.source else r.destination).hostId = host.id ∧
      (if sending then r.source else r.destination).bootId = host.bootId ∧
      (if sending then r.sourceSession else r.destinationSession) = host.session := by
  have hroles : ("SUBSCRIBER" : String) ≠ "PUBLISHER" := by decide
  unfold matchesEndpoint
  cases sending <;> by_cases hk : e.kind = "T" <;> by_cases hp : e.role = "PUBLISHER" <;>
    by_cases hq : e.role = "SUBSCRIBER" <;> simp [hs, hk, hp, hq, hroles, hroles.symm]

section Routes

variable {options : GraphOptions} {network : NetworkSnapshot} {model : GraphModel} {now : UInt64}
  (hn : (network.hosts.flatMap fun h => h.endpoints.map fun e => e.id).Nodup)

include hn

lemma Reports.node {k : RouteKey} {sending : Bool} {r : RemoteRoute} {host : RemoteHost}
    {e : RemoteEndpoint} (h : Reports network options now k sending r host e) :
    endpointNode network host e ∈ (remotePart model network options).nodes := by
  obtain ⟨hh, -, he⟩ := h.member
  refine mem_remotePart.mpr (.inr ⟨host, hh, decide_eq_true h.shown.host, ?_⟩)
  refine endpointNode_mem he ((List.nodup_flatMap.mp hn).1 host hh) (decide_eq_true h.shown.group) ?_
  simp [kindShown, h.shown.kind, h.shown.topics]

variable (hlocal : ∀ n ∈ model.nodes, n.host = "") (hr : options.remote = true)

include hlocal hr

lemma admitted_iff {k : RouteKey} {sending : Bool} {r : RemoteRoute} :
    (r ∈ admitted (remotePart model network options) network now ∧ routeKey r = k ∧ r.sending = sending) ↔
      ∃ host e, Reports network options now k sending r host e := by
  simp only [admitted, registered, List.mem_flatMap, List.mem_filter, decide_eq_true_eq, List.any_eq_true,
    freshDiagnostics_iff]
  constructor
  · rintro ⟨⟨host, ⟨hh, hf⟩, hm, hstate, e, he, hmatch, hv⟩, hk, hs⟩
    rw [matchesEndpoint_iff hs] at hmatch
    exact ⟨host, e, ⟨hh, hm, he⟩, hf, ⟨hstate, hs, hk⟩, (visible_iff hn hlocal hr hh he).mp hv,
      hmatch.2.1, hmatch.2.2⟩
  · rintro ⟨host, e, ⟨hh, hm, he⟩, hf, ⟨hstate, hs, hk⟩, hshown, hrole, hown⟩
    exact ⟨⟨host, ⟨hh, hf⟩, hm, hstate, e, he, (matchesEndpoint_iff hs).mpr ⟨hshown.kind, hrole, hown⟩,
      (visible_iff hn hlocal hr hh he).mpr hshown⟩, hk, hs⟩

lemma latest_reports {k : RouteKey} {sending : Bool} {r : RemoteRoute}
    (h : latest (admitted (remotePart model network options) network now) k sending = some r) :
    ∃ host e, Reports network options now k sending r host e :=
  (admitted_iff hn hlocal hr).mp (latest_eq_some h)

lemma Reports.latest {k : RouteKey} {sending : Bool} {r : RemoteRoute} {host : RemoteHost}
    {e : RemoteEndpoint} (h : Reports network options now k sending r host e) :
    ∃ s, latest (admitted (remotePart model network options) network now) k sending = some s := by
  obtain ⟨hm, hk, hs⟩ := (admitted_iff hn hlocal hr).mpr ⟨host, e, h⟩
  exact latest_isSome hm hk hs

omit hn hlocal hr in
lemma evidence_pair {k : RouteKey} {pair : Evidence}
    (h : (collectEvidence (remotePart model network options) network now)[k]? = some pair) :
    pair = ⟨latest (admitted (remotePart model network options) network now) k true,
      latest (admitted (remotePart model network options) network now) k false⟩ := by
  rw [collectEvidence_eq] at h
  rw [← getD_recordRoute, ExtTreeMap.getD_eq_getD_getElem?, h, Option.getD_some]

/-- Two reports for one key leave a complete pair in the table. -/
lemma evidence_complete {k : RouteKey} {s r : RemoteRoute} {hs hr' : RemoteHost} {es er : RemoteEndpoint}
    (hsend : Reports network options now k true s hs es)
    (hreceive : Reports network options now k false r hr' er) :
    ∃ pair edge, (collectEvidence (remotePart model network options) network now)[k]? = some pair ∧
      pair.edge = some edge := by
  obtain ⟨send, hsend⟩ := hsend.latest hn hlocal hr
  obtain ⟨receive, hreceive⟩ := hreceive.latest hn hlocal hr
  have hget := getD_recordRoute (admitted (remotePart model network options) network now) k
  rw [hsend, hreceive, ← collectEvidence_eq, ExtTreeMap.getD_eq_getD_getElem?] at hget
  cases hc : (collectEvidence (remotePart model network options) network now)[k]? with
  | none =>
    rw [hc, Option.getD_none] at hget
    cases hget
  | some pair =>
    rw [hc, Option.getD_some] at hget
    exact ⟨pair, routeEdge send receive, rfl, by rw [hget]; rfl⟩

lemma evidence_verified {k : RouteKey} {pair : Evidence} {edge : GraphEdge}
    (h : (collectEvidence (remotePart model network options) network now)[k]? = some pair)
    (he : pair.edge = some edge) :
    Verified network options now (remotePart model network options).nodes k edge := by
  rw [evidence_pair h] at he
  unfold Evidence.edge at he
  simp only at he
  split at he
  · rename_i send receive hsend hreceive
    obtain ⟨host, e, hs⟩ := latest_reports hn hlocal hr hsend
    obtain ⟨host', e', hd⟩ := latest_reports hn hlocal hr hreceive
    obtain rfl : routeEdge send receive = edge := Option.some.inj he
    have hsource : endpointText send.source = e.id := hs.own.1
    have htarget : endpointText send.destination = e'.id := by
      have hk := congrArg RouteKey.destination (hs.route.2.2.trans hd.route.2.2.symm)
      exact hk.trans hd.own.1
    have hsend : (routeEdge send receive).source = (endpointNode network host e).id := by
      rw [endpointNode_id, ← hsource]
      rfl
    have hreceive : (routeEdge send receive).target = (endpointNode network host' e').id := by
      rw [endpointNode_id, ← htarget]
      rfl
    exact ⟨send, receive, host, host', e, e', hs, hd, rfl, hsend, hs.node hn, hreceive, hd.node hn⟩
  · cases he

end Routes

lemma edge_networkRoute {pair : Evidence} {edge : GraphEdge} (h : pair.edge = some edge) :
    edge.networkRoute = true := by
  unfold Evidence.edge at h
  split at h
  · rw [← Option.some.inj h]
    rfl
  · cases h

def routeKeys (evidence : EvidenceMap) : List RouteKey :=
  evidence.toList.filterMap fun entry => entry.2.edge.map fun _ => entry.1

lemma routeKeys_nodup (evidence : EvidenceMap) : (routeKeys evidence).Nodup := by
  have hsub : (routeKeys evidence).Sublist (evidence.toList.map Prod.fst) := by
    unfold routeKeys
    generalize evidence.toList = l
    induction l with
    | nil => exact List.Sublist.slnil
    | cons x l ih =>
      cases hx : x.2.edge with
      | none => simpa [hx] using ih.cons _
      | some e => simpa [hx] using ih
  refine hsub.nodup ?_
  rw [ExtTreeMap.map_fst_toList_eq_keys]
  exact ExtTreeMap.nodup_keys

lemma mem_routeKeys {evidence : EvidenceMap} {k : RouteKey} :
    k ∈ routeKeys evidence ↔ ∃ pair edge, evidence[k]? = some pair ∧ pair.edge = some edge := by
  simp only [routeKeys, List.mem_filterMap, Option.map_eq_some_iff]
  constructor
  · rintro ⟨⟨k', pair⟩, hm, edge, he, rfl⟩
    exact ⟨pair, edge, ExtTreeMap.mem_toList_iff_getElem?_eq_some.mp hm, he⟩
  · rintro ⟨pair, edge, hm, he⟩
    exact ⟨(k, pair), ExtTreeMap.mem_toList_iff_getElem?_eq_some.mpr hm, edge, he, rfl⟩

lemma routeKeys_edges {evidence : EvidenceMap} {R : RouteKey → GraphEdge → Prop}
    (h : ∀ (k : RouteKey) pair edge, evidence[k]? = some pair → pair.edge = some edge → R k edge) :
    List.Forall₂ R (routeKeys evidence) (evidence.toList.filterMap fun entry => entry.2.edge) := by
  have hall : ∀ entry ∈ evidence.toList, ∀ edge, entry.2.edge = some edge → R entry.1 edge :=
    fun entry hm edge he => h entry.1 entry.2 edge (ExtTreeMap.mem_toList_iff_getElem?_eq_some.mp hm) he
  unfold routeKeys
  generalize evidence.toList = l at hall
  induction l with
  | nil => exact .nil
  | cons x l ih =>
    have hl := ih fun entry hm => hall entry (List.mem_cons_of_mem _ hm)
    cases hx : x.2.edge with
    | none => simpa [hx] using hl
    | some edge => simpa [hx] using ⟨hall x (by simp) edge hx, hl⟩

/-- The network routes of the graph are exactly one edge for each key that both a sending and a
receiving side report. -/
theorem verified_routes (network : NetworkSnapshot)
    (hn : (network.hosts.flatMap fun h => h.endpoints.map fun e => e.id).Nodup)
    (applications : List ApplicationInfo) (elements : List ElementInfo) (topics : List TopicInfo)
    (parameters : List ParameterInfo) (services : List ServiceInfo) (localOptions options : GraphOptions)
    (now : UInt64) :
    let base := buildGraph applications elements topics parameters services localOptions
    let model := addRemoteGraph base network options now
    ∃ keys : List RouteKey, keys.Nodup ∧
      (∀ k, k ∈ keys ↔ (∃ r host e, Reports network options now k true r host e) ∧
        ∃ r host e, Reports network options now k false r host e) ∧
      List.Forall₂ (Verified network options now model.nodes) keys
        (model.edges.filter fun edge => edge.networkRoute) := by
  intro base model
  obtain ⟨hnodes, hedges⟩ := buildGraph_localOnly applications elements topics parameters services localOptions
  by_cases hr : options.remote = true
  · have hmodel : model = addVerifiedRoutes (remotePart base network options) network now := by
      simp only [model, addRemoteGraph, hr, not_true_eq_false, if_false]
    have hfilter : model.edges.filter (fun edge => edge.networkRoute) =
        (collectEvidence (remotePart base network options) network now).toList.filterMap
          fun entry => entry.2.edge := by
      rw [hmodel, addVerifiedRoutes, List.filter_append, List.filter_eq_nil_iff.mpr, List.nil_append,
        List.filter_eq_self]
      · intro edge hm
        obtain ⟨entry, -, he⟩ := List.mem_filterMap.mp hm
        exact edge_networkRoute he
      · intro edge hm
        rw [remotePart_edges hedges edge hm]
        decide
    refine ⟨routeKeys (collectEvidence (remotePart base network options) network now),
      routeKeys_nodup _, fun k => ?_, ?_⟩
    · rw [mem_routeKeys]
      constructor
      · rintro ⟨pair, edge, hk, he⟩
        obtain ⟨s, r, host, host', e, e', hs, hd, -⟩ := evidence_verified hn hnodes hr hk he
        exact ⟨⟨s, host, e, hs⟩, r, host', e', hd⟩
      · rintro ⟨⟨s, host, e, hs⟩, r, host', e', hd⟩
        exact evidence_complete hn hnodes hr hs hd
    · rw [hfilter, hmodel]
      exact routeKeys_edges fun k pair edge hk he => evidence_verified hn hnodes hr hk he
  · refine ⟨[], List.nodup_nil, fun k => ?_, ?_⟩
    · simp only [List.not_mem_nil, false_iff]
      rintro ⟨⟨s, host, e, hs⟩, -⟩
      exact hr hs.shown.remote
    · have hmodel : model = localPart base options := by
        simp only [model, addRemoteGraph, hr, Bool.false_eq_true, not_false_eq_true, if_true]
      have hnone : model.edges.filter (fun edge => edge.networkRoute) = [] := by
        rw [List.filter_eq_nil_iff, hmodel]
        intro edge hm
        rw [localPart_edges hedges edge hm]
        decide
      rw [hnone]
      exact .nil

def sender : RouteEndpointIdentity := ⟨"host0", "boot", 100, 123, 7⟩

def receiver : RouteEndpointIdentity := ⟨"other", "boot2", 200, 234, 8⟩

def reporter (own : RouteEndpointIdentity) (session : UInt64) (role : String) : RemoteHost where
  id := own.hostId
  bootId := own.bootId
  state := "ONLINE"
  compatibility := "COMPATIBLE"
  session := session
  metadataReady := true
  endpoints := [{ id := endpointText own, kind := "T", role := role }]
  diagnostics :=
    { status := .valid
      gatewayHost := own.hostId
      gatewayBoot := own.bootId
      gatewaySession := session
      observedAtUnixMs := 123456
      routes := [{ source := sender, destination := receiver, sourceSession := 1, destinationSession := 2,
                   routeId := 15, state := 1, sending := role = "PUBLISHER" }] }

def verifiedSnapshot : NetworkSnapshot where
  hosts := [reporter sender 1 "PUBLISHER", reporter receiver 2 "SUBSCRIBER"]

theorem verified_routes_snapshot :
    (∃ keys : List RouteKey, keys.Nodup ∧
      (∀ k, k ∈ keys ↔ (∃ r host e, Reports verifiedSnapshot {} 123460 k true r host e) ∧
        ∃ r host e, Reports verifiedSnapshot {} 123460 k false r host e) ∧
      List.Forall₂ (Verified verifiedSnapshot {} 123460
        (addRemoteGraph (buildGraph [] [] [] [] [] {}) verifiedSnapshot {} 123460).nodes) keys
        ((addRemoteGraph (buildGraph [] [] [] [] [] {}) verifiedSnapshot {} 123460).edges.filter
          fun edge => edge.networkRoute)) ∧
    ((addRemoteGraph (buildGraph [] [] [] [] [] {}) verifiedSnapshot {} 123460).edges.filter
      fun edge => edge.networkRoute).length = 1 :=
  ⟨verified_routes verifiedSnapshot (by decide) [] [] [] [] [] {} {} 123460, by decide +kernel⟩

end KcfTools.Graph
