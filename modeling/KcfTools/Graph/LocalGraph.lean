import KcfTools.Graph.GraphModel
import KcfTools.Lib.Keys

/-! The graph of the local discovery holds what was discovered, and does not depend on its order. -/

namespace KcfTools.Graph

open Std Keys

section NodeIds

lemma identity_injective {a b : RuntimeIdentity} (h : identity a = identity b) : a = b := by
  obtain ⟨hpid, hticks⟩ := colon_inj (colon_notMem_uint64 _) (colon_notMem_uint64 _) h
  cases a
  cases b
  rw [RuntimeIdentity.mk.injEq]
  exact ⟨int32_toString_inj hpid, uint64_toString_inj hticks⟩

def elementId (id : RuntimeIdentity) : String := "element:" ++ identity id

lemma elementId_injective {a b : RuntimeIdentity} (h : elementId a = elementId b) : a = b := by
  have hlist := congrArg String.toList h
  simp only [elementId, String.toList_append, List.append_cancel_left_eq] at hlist
  exact identity_injective (String.toList_injective hlist)

/-- What a node stands for: all registrations of a name, or one registration of a service. -/
def Registration.channel (r : Registration) : GraphKind × String × Option EndpointIdentity :=
  (r.kind, r.name, if r.kind = .service then some r.identity else none)

lemma rank_toList (k : GraphKind) : (toString k.rank).toList = [Char.ofNat (48 + k.rank)] := by
  cases k <;> rfl

lemma rank_char_inj {k k' : GraphKind} (h : Char.ofNat (48 + k.rank) = Char.ofNat (48 + k'.rank)) :
    k = k' := by
  revert h
  cases k <;> cases k' <;> decide

lemma nodeId_ne_elementId (r : Registration) (id : RuntimeIdentity) : r.nodeId ≠ elementId id := by
  intro h
  have hlist := congrArg String.toList h
  simp only [Registration.nodeId, elementId, String.toList_append, rank_toList, List.append_assoc,
    List.singleton_append] at hlist
  have hchar : Char.ofNat (48 + r.kind.rank) = 'e' := (List.cons.inj hlist).1
  revert hchar
  cases r.kind <;> decide

lemma channel_of_nodeId {r q : Registration} (h : r.nodeId = q.nodeId) : r.channel = q.channel := by
  have hlist := congrArg String.toList h
  simp only [Registration.nodeId, String.toList_append, rank_toList, List.append_assoc,
    List.singleton_append] at hlist
  obtain ⟨hchar, hrest⟩ := List.cons.inj hlist
  have hkind := rank_char_inj hchar
  have htail := List.append_cancel_left hrest
  rw [← hkind] at htail
  unfold Registration.channel
  rw [← hkind]
  by_cases hservice : r.kind = .service
  · simp only [if_pos hservice] at htail ⊢
    have hparts : r.name ++ ":" ++ toString r.identity.runtime.pid ++ ":" ++
        toString r.identity.runtime.processStartTicks ++ ":" ++ toString r.identity.registrationId =
          q.name ++ ":" ++ toString q.identity.runtime.pid ++ ":" ++
            toString q.identity.runtime.processStartTicks ++ ":" ++ toString q.identity.registrationId := by
      apply String.toList_injective
      simpa only [identity, String.toList_append, List.append_assoc] using htail
    obtain ⟨hparts, hreg⟩ := colon_inj (colon_notMem_uint64 _) (colon_notMem_uint64 _) hparts
    obtain ⟨hparts, hticks⟩ := colon_inj (colon_notMem_uint64 _) (colon_notMem_uint64 _) hparts
    obtain ⟨hname, hpid⟩ := colon_inj (colon_notMem_int32 _) (colon_notMem_int32 _) hparts
    have hidentity : r.identity = q.identity := by
      obtain ⟨kind, name, ⟨⟨pid, ticks⟩, registration⟩, role, outgoing⟩ := r
      obtain ⟨kind', name', ⟨⟨pid', ticks'⟩, registration'⟩, role', outgoing'⟩ := q
      simp only [EndpointIdentity.mk.injEq, RuntimeIdentity.mk.injEq]
      exact ⟨⟨int32_toString_inj hpid, uint64_toString_inj hticks⟩, uint64_toString_inj hreg⟩
    rw [hname, hidentity]
  · simp only [if_neg hservice] at htail ⊢
    have hname : r.name = q.name := by
      apply String.toList_injective
      simpa using htail
    rw [hname]

lemma nodeId_iff {r q : Registration} : r.nodeId = q.nodeId ↔ r.channel = q.channel := by
  refine ⟨channel_of_nodeId, fun h => ?_⟩
  obtain ⟨hkind, hname, hidentity⟩ := by simpa only [Registration.channel, Prod.mk.injEq] using h
  unfold Registration.nodeId
  rw [hkind] at hidentity ⊢
  rw [hname]
  by_cases hservice : q.kind = .service
  · simp only [if_pos hservice, Option.some.injEq] at hidentity ⊢
    rw [hidentity]
  · simp only [if_neg hservice]

end NodeIds

section Elements

/-- The element's group passes the filter. -/
def InGroup (options : GraphOptions) (e : ElementInfo) : Prop :=
  options.group = "" ∨ options.group = elementGroup e

instance (options : GraphOptions) (e : ElementInfo) : Decidable (InGroup options e) :=
  inferInstanceAs (Decidable (_ ∨ _))

lemma addElement_nodes (options : GraphOptions) (s : Groups × Nodes) (e : ElementInfo) (k : String) :
    (addElement options s e).2[k]? =
      if InGroup options e ∧ elementId e.identity = k then some (elementNode e) else s.2[k]? := by
  have hid : (elementNode e).id = elementId e.identity := rfl
  unfold addElement
  simp only
  by_cases hshown : InGroup options e
  · rw [if_neg (by unfold InGroup at hshown; tauto), Tables.getElem?_insert, hid]
    simp [hshown]
  · rw [if_pos (by unfold InGroup at hshown; tauto), if_neg fun hc => hshown hc.1]

/-- With distinct identities no element hides another one. -/
lemma elements_nodes (options : GraphOptions) {l : List ElementInfo}
    (hdistinct : (l.map ElementInfo.identity).Nodup) (s : Groups × Nodes) (k : String) (n : GraphNode) :
    (l.foldl (addElement options) s).2[k]? = some n ↔
      (∃ e ∈ l, InGroup options e ∧ elementId e.identity = k ∧ n = elementNode e) ∨
        s.2[k]? = some n ∧ ∀ e ∈ l, InGroup options e → elementId e.identity ≠ k := by
  induction l generalizing s with
  | nil => simp
  | cons e l ih =>
    obtain ⟨hhere, hdistinct⟩ := List.nodup_cons.mp (List.map_cons ▸ hdistinct)
    rw [List.foldl_cons, ih hdistinct, addElement_nodes]
    simp only [List.mem_cons, exists_eq_or_imp, forall_eq_or_imp]
    by_cases hk : InGroup options e ∧ elementId e.identity = k
    · have hrest : ∀ e' ∈ l, elementId e'.identity ≠ k := by
        intro e' he' hc
        have hsame := elementId_injective (hc.trans hk.2.symm)
        exact hhere (hsame ▸ List.mem_map_of_mem he')
      rw [if_pos hk, Option.some.injEq]
      constructor
      · rintro (⟨e', he', _, hid, _⟩ | ⟨rfl, _⟩)
        · exact absurd hid (hrest e' he')
        · exact .inl (.inl ⟨hk.1, hk.2, rfl⟩)
      · rintro ((⟨_, _, rfl⟩ | ⟨e', he', _, hid, _⟩) | ⟨_, hne, _⟩)
        · exact .inr ⟨rfl, fun e' he' _ => hrest e' he'⟩
        · exact absurd hid (hrest e' he')
        · exact absurd hk.2 (hne hk.1)
    · have hhidden : ¬ (InGroup options e ∧ elementId e.identity = k ∧ n = elementNode e) :=
        fun hc => hk ⟨hc.1, hc.2.1⟩
      have hfree : InGroup options e → elementId e.identity ≠ k := fun hshown hc => hk ⟨hshown, hc⟩
      rw [if_neg hk, or_iff_right hhidden, and_iff_right hfree]

end Elements

section Registrations

def Admitted (options : GraphOptions) (shown : Nodes) (r : Registration) : Prop :=
  options.group = "" ∨ shown[elementId r.identity.runtime]? ≠ none

def Owned (shown : Nodes) (r : Registration) : Prop := shown[elementId r.identity.runtime]? ≠ none

def outward (role : String) : Bool := role = "PUBLISHER" ∨ role = "OWNER" ∨ role = "SERVER"

/-- The node of a registration, with the endpoints of all registrations on its channel. -/
def Stands (options : GraphOptions) (shown : Nodes) (l : List Registration) (r : Registration)
    (n : GraphNode) : Prop :=
  n = { id := r.nodeId, label := r.name, kind := r.kind, endpoints := n.endpoints } ∧ n.endpoints.Nodup ∧
    ∀ e, e ∈ n.endpoints ↔ ∃ q ∈ l, Admitted options shown q ∧ q.nodeId = r.nodeId ∧
      e = ⟨q.identity, q.role⟩

/-- What was made of the registrations `l` so far, over the nodes of the shown elements. -/
structure Collected (options : GraphOptions) (shown : Nodes) (l : List Registration)
    (s : Nodes × List GraphEdge) : Prop where
  others : ∀ k, (∀ r ∈ l, Admitted options shown r → r.nodeId ≠ k) → s.1[k]? = shown[k]?
  nodes : ∀ r ∈ l, Admitted options shown r → ∃ n, s.1[r.nodeId]? = some n ∧ Stands options shown l r n
  nodup : s.2.Nodup
  edges : ∀ e, e ∈ s.2 ↔ ∃ r ∈ l, Owned shown r ∧ e = r.edge

variable {options : GraphOptions} {shown : Nodes} {l : List Registration} {s : Nodes × List GraphEdge}
  {r q : Registration}

lemma Collected.owner (h : Collected options shown l s) (id : RuntimeIdentity) :
    s.1[elementId id]? = shown[elementId id]? :=
  h.others _ fun r _ _ => nodeId_ne_elementId r id

lemma edge_of_same (hout : r.outgoing = outward r.role) (hout' : q.outgoing = outward q.role)
    (hid : q.nodeId = r.nodeId) (hidentity : q.identity = r.identity) (hrole : q.role = r.role) :
    q.edge = r.edge := by
  unfold Registration.edge
  rw [hout, hout', hid, hidentity, hrole]

lemma same_of_edge (h : q.edge = r.edge) :
    q.nodeId = r.nodeId ∧ q.identity = r.identity ∧ q.role = r.role := by
  have hidentity : q.identity = r.identity := congrArg GraphEdge.endpoint h
  have hrole : q.role = r.role := congrArg GraphEdge.role h
  have hsource := congrArg GraphEdge.source h
  have htarget := congrArg GraphEdge.target h
  refine ⟨?_, hidentity, hrole⟩
  unfold Registration.edge at hsource htarget
  simp only at hsource htarget
  split_ifs at hsource htarget with hq hr hr
  · exact htarget
  · exact absurd hsource.symm (nodeId_ne_elementId r _)
  · exact absurd hsource (nodeId_ne_elementId q _)
  · exact hsource

lemma Stands.extend {n : GraphNode} (h : Stands options shown l q n)
    (hr : ¬ Admitted options shown r ∨ r.nodeId ≠ q.nodeId ∨ ⟨r.identity, r.role⟩ ∈ n.endpoints) :
    Stands options shown (l ++ [r]) q n := by
  obtain ⟨hn, hnodup, hmem⟩ := h
  refine ⟨hn, hnodup, fun e => ?_⟩
  rw [hmem]
  constructor
  · rintro ⟨p, hp, hrest⟩
    exact ⟨p, by simp [hp], hrest⟩
  · rintro ⟨p, hp, hadmitted, hid, rfl⟩
    rcases List.mem_append.mp hp with hp | hp
    · exact ⟨p, hp, hadmitted, hid, rfl⟩
    · obtain rfl := List.mem_singleton.mp hp
      rcases hr with hr | hr | hr
      · exact absurd hadmitted hr
      · exact absurd hid hr
      · exact (hmem _).mp hr

lemma Stands.of_nodeId {n : GraphNode} (h : Stands options shown l q n) (hid : q.nodeId = r.nodeId) :
    Stands options shown l r n := by
  obtain ⟨hkind, hname, _⟩ := by
    simpa only [Registration.channel, Prod.mk.injEq] using channel_of_nodeId hid
  unfold Stands at h ⊢
  rwa [hid, hkind, hname] at h

/-- A registration that is filtered out, or that was seen before, changes nothing. -/
lemma Collected.skip (h : Collected options shown l s)
    (hr : ¬ Admitted options shown r ∨ ∃ q ∈ l, Admitted options shown q ∧ q.nodeId = r.nodeId ∧
      q.identity = r.identity ∧ q.role = r.role ∧ q.edge = r.edge) :
    Collected options shown (l ++ [r]) s := by
  have hold : ∀ p ∈ l, Admitted options shown p →
      ∃ n, s.1[p.nodeId]? = some n ∧ Stands options shown (l ++ [r]) p n := by
    intro p hp hadmitted
    obtain ⟨n, hn, hstands⟩ := h.nodes p hp hadmitted
    refine ⟨n, hn, hstands.extend ?_⟩
    rcases hr with hr | ⟨q, hq, hadmitted', hid, hidentity, hrole, _⟩
    · exact .inl hr
    · by_cases hsame : r.nodeId = p.nodeId
      · refine .inr (.inr ((hstands.2.2 _).mpr ⟨q, hq, hadmitted', hid.trans hsame, ?_⟩))
        rw [hidentity, hrole]
      · exact .inr (.inl hsame)
  refine ⟨fun k hk => h.others k fun q hq => hk q (by simp [hq]), fun p hp hadmitted => ?_, h.nodup,
    fun e => ?_⟩
  · rcases List.mem_append.mp hp with hp | hp
    · exact hold p hp hadmitted
    · obtain rfl := List.mem_singleton.mp hp
      obtain ⟨q, hq, hadmitted', hid, _⟩ := hr.resolve_left (not_not.mpr hadmitted)
      obtain ⟨n, hn, hstands⟩ := hold q hq hadmitted'
      exact ⟨n, hid ▸ hn, hstands.of_nodeId hid⟩
  · rw [h.edges]
    constructor
    · rintro ⟨p, hp, howned, he⟩
      exact ⟨p, by simp [hp], howned, he⟩
    · rintro ⟨p, hp, howned, rfl⟩
      rcases List.mem_append.mp hp with hp | hp
      · exact ⟨p, hp, howned, rfl⟩
      · obtain rfl := List.mem_singleton.mp hp
        obtain ⟨q, hq, _, _, hidentity, _, hedge⟩ := hr.resolve_left (not_not.mpr (.inr howned))
        refine ⟨q, hq, ?_, hedge.symm⟩
        unfold Owned
        rwa [hidentity]

/-- A new registration adds its endpoint to the node of its channel, and its edge. -/
lemma Collected.grow (h : Collected options shown l s) (hadmitted : Admitted options shown r)
    {n : GraphNode} (hn : Stands options shown l r n) (hnew : ⟨r.identity, r.role⟩ ∉ n.endpoints) :
    Collected options shown (l ++ [r])
      (s.1.insert r.nodeId { n with endpoints := n.endpoints ++ [⟨r.identity, r.role⟩] },
        if shown[elementId r.identity.runtime]? = none then s.2 else s.2 ++ [r.edge]) := by
  obtain ⟨hnode, hnodup, hmem⟩ := hn
  have hgrown : Stands options shown (l ++ [r]) r
      { n with endpoints := n.endpoints ++ [⟨r.identity, r.role⟩] } := by
    refine ⟨by rw [hnode], List.nodup_append.mpr ⟨hnodup, List.nodup_singleton _, ?_⟩, fun e => ?_⟩
    · rintro a ha b hb rfl
      exact hnew (List.mem_singleton.mp hb ▸ ha)
    · simp only [List.mem_append, List.mem_singleton, hmem]
      constructor
      · rintro (⟨q, hq, hrest⟩ | rfl)
        · exact ⟨q, .inl hq, hrest⟩
        · exact ⟨r, .inr rfl, hadmitted, rfl, rfl⟩
      · rintro ⟨q, hq | rfl, hrest⟩
        · exact .inl ⟨q, hq, hrest⟩
        · exact .inr hrest.2.2
  refine ⟨fun k hk => ?_, fun p hp hadm => ?_, ?_, fun e => ?_⟩
  · have hne : r.nodeId ≠ k := hk r (by simp) hadmitted
    rw [Tables.getElem?_insert, if_neg hne]
    exact h.others k fun q hq => hk q (by simp [hq])
  · by_cases hid : r.nodeId = p.nodeId
    · refine ⟨_, ?_, hgrown.of_nodeId hid⟩
      rw [Tables.getElem?_insert, if_pos hid]
    · have hp : p ∈ l := by
        rcases List.mem_append.mp hp with hp | hp
        · exact hp
        · exact absurd (congrArg Registration.nodeId (List.mem_singleton.mp hp).symm) hid
      obtain ⟨m, hm, hstands⟩ := h.nodes p hp hadm
      refine ⟨m, ?_, hstands.extend (.inr (.inl hid))⟩
      rw [Tables.getElem?_insert, if_neg hid, hm]
  · split_ifs with howner
    · exact h.nodup
    · refine List.nodup_append.mpr ⟨h.nodup, List.nodup_singleton _, ?_⟩
      rintro a ha b hb rfl
      obtain ⟨q, hq, howned, he⟩ := (h.edges _).mp ha
      obtain ⟨hid, hidentity, hrole⟩ := same_of_edge (he.symm.trans (List.mem_singleton.mp hb))
      refine hnew ((hmem _).mpr ⟨q, hq, .inr howned, hid, ?_⟩)
      rw [hidentity, hrole]
  · split_ifs with howner
    · rw [h.edges]
      constructor
      · rintro ⟨q, hq, hrest⟩
        exact ⟨q, by simp [hq], hrest⟩
      · rintro ⟨q, hq, howned, he⟩
        rcases List.mem_append.mp hq with hq | hq
        · exact ⟨q, hq, howned, he⟩
        · exact absurd howner (List.mem_singleton.mp hq ▸ howned)
    · simp only [List.mem_append, List.mem_singleton, h.edges]
      constructor
      · rintro (⟨q, hq, hrest⟩ | rfl)
        · exact ⟨q, .inl hq, hrest⟩
        · exact ⟨r, .inr rfl, howner, rfl⟩
      · rintro ⟨q, hq | rfl, hrest⟩
        · exact .inl ⟨q, hq, hrest⟩
        · exact .inr hrest.2

lemma Collected.current (hkeys : ∀ k n, shown[k]? = some n → ∃ id, k = elementId id)
    (h : Collected options shown l s) (r : Registration) :
    Stands options shown l r
      (s.1.getD r.nodeId { id := r.nodeId, label := r.name, kind := r.kind }) := by
  rw [ExtTreeMap.getD_eq_getD_getElem?]
  by_cases hseen : ∃ q ∈ l, Admitted options shown q ∧ q.nodeId = r.nodeId
  · obtain ⟨q, hq, hadmitted, hid⟩ := hseen
    obtain ⟨n, hn, hstands⟩ := h.nodes q hq hadmitted
    rw [← hid, hn]
    exact hstands.of_nodeId hid
  · have hnone : s.1[r.nodeId]? = none := by
      rw [h.others _ fun q hq hadmitted hid => hseen ⟨q, hq, hadmitted, hid⟩]
      by_contra hc
      obtain ⟨n, hn⟩ := Option.ne_none_iff_exists'.mp hc
      obtain ⟨id, hid⟩ := hkeys _ n hn
      exact nodeId_ne_elementId r id hid
    rw [hnone]
    refine ⟨rfl, .nil, fun e => ⟨fun he => (nomatch he), ?_⟩⟩
    rintro ⟨q, hq, hadmitted, hid, _⟩
    exact absurd ⟨q, hq, hadmitted, hid⟩ hseen

lemma Collected.add (hkeys : ∀ k n, shown[k]? = some n → ∃ id, k = elementId id)
    (hout : ∀ q ∈ l ++ [r], q.outgoing = outward q.role) (h : Collected options shown l s) :
    Collected options shown (l ++ [r]) (add options s r) := by
  have howner : s.1[("element:" ++ identity r.identity.runtime)]? = shown[elementId r.identity.runtime]? :=
    h.owner _
  have hcurrent := h.current hkeys r
  unfold Graph.add
  simp only [howner]
  by_cases hadmitted : Admitted options shown r
  · rw [if_neg (by unfold Admitted at hadmitted; tauto)]
    by_cases hseen : ⟨r.identity, r.role⟩ ∈
        (s.1.getD r.nodeId { id := r.nodeId, label := r.name, kind := r.kind }).endpoints
    · rw [if_pos]
      · obtain ⟨q, hq, hadmitted', hid, hentry⟩ := (hcurrent.2.2 _).mp hseen
        obtain ⟨hidentity, hrole⟩ := by simpa only [GraphEndpoint.mk.injEq] using hentry
        refine h.skip (.inr ⟨q, hq, hadmitted', hid, hidentity.symm, hrole.symm, ?_⟩)
        exact edge_of_same (hout r (by simp)) (hout q (by simp [hq])) hid hidentity.symm hrole.symm
      · exact List.any_eq_true.mpr ⟨_, hseen, by simp⟩
    · rw [if_neg]
      · exact h.grow hadmitted hcurrent hseen
      · rw [List.any_eq_true]
        rintro ⟨e, he, hsame⟩
        obtain ⟨hidentity, hrole⟩ := of_decide_eq_true hsame
        rw [← hidentity, ← hrole] at hseen
        exact hseen he
  · rw [if_pos (by unfold Admitted at hadmitted; tauto)]
    exact h.skip (.inl hadmitted)

lemma collected (hkeys : ∀ k n, shown[k]? = some n → ∃ id, k = elementId id)
    (hout : ∀ q ∈ l, q.outgoing = outward q.role) :
    Collected options shown l (l.foldl (add options) (shown, [])) := by
  induction l using List.reverseRecOn with
  | nil => exact ⟨fun _ _ => rfl, nofun, .nil, fun e => by simp⟩
  | append_singleton l r ih =>
    rw [List.foldl_append]
    exact (ih fun q hq => hout q (by simp [hq])).add hkeys hout

end Registrations

section Model

variable (applications : List ApplicationInfo) (elements : List ElementInfo) (topics : List TopicInfo)
  (parameters : List ParameterInfo) (services : List ServiceInfo) (options : GraphOptions)

/-- The registrations of the enabled kinds with a recognised role. -/
def registrations : List Registration :=
  (if options.topics then topicRegistrations topics else []) ++
    (if options.parameters then parameterRegistrations parameters else []) ++
      (if options.services then serviceRegistrations services else [])

def shownNodes : Nodes := (elements.foldl (addElement options) (applicationGroups applications, ∅)).2

def collection : Nodes × List GraphEdge :=
  (registrations topics parameters services options).foldl (add options)
    (shownNodes applications elements options, [])

/-- The runtime of the registration is a shown element. -/
def Present (r : Registration) : Prop := ∃ e ∈ elements, InGroup options e ∧ e.identity = r.identity.runtime

def Passes (r : Registration) : Prop := options.group = "" ∨ Present elements options r

def endpointOrder (e : GraphEndpoint) : (Int32 ×ₗ UInt64 ×ₗ UInt64) ×ₗ String :=
  toLex (endpointKey e.identity, e.role)

variable {applications elements topics parameters services options} {r q : Registration} {n : GraphNode}

lemma registrations_directed (hr : r ∈ registrations topics parameters services options) :
    r.outgoing = outward r.role := by
  simp only [registrations, List.mem_append] at hr
  rcases hr with (hr | hr) | hr
  · split_ifs at hr with htopics
    · obtain ⟨t, ht, rfl⟩ := List.mem_map.mp hr
      have hrole : t.role = "PUBLISHER" ∨ t.role = "SUBSCRIBER" := by simpa using (List.mem_filter.mp ht).2
      rcases hrole with h | h <;> simp [outward, h]
    · cases hr
  · split_ifs at hr with hparameters
    · obtain ⟨p, hp, rfl⟩ := List.mem_map.mp hr
      have hrole : p.role = "OWNER" ∨ p.role = "CLIENT" := by simpa using (List.mem_filter.mp hp).2
      rcases hrole with h | h <;> simp [outward, h]
    · cases hr
  · split_ifs at hr with hservices
    · obtain ⟨s, _, rfl⟩ := List.mem_map.mp hr
      rfl
    · cases hr

lemma registrations_kind (hr : r ∈ registrations topics parameters services options) : r.kind ≠ .element := by
  simp only [registrations, List.mem_append] at hr
  rcases hr with (hr | hr) | hr
  all_goals
    split_ifs at hr
    · obtain ⟨_, _, rfl⟩ := List.mem_map.mp hr
      exact nofun
    · cases hr

lemma shownNodes_iff (hdistinct : (elements.map ElementInfo.identity).Nodup) (k : String) :
    (shownNodes applications elements options)[k]? = some n ↔
      ∃ e ∈ elements, InGroup options e ∧ elementId e.identity = k ∧ n = elementNode e := by
  unfold shownNodes
  rw [elements_nodes options hdistinct]
  simp

lemma owned_iff (hdistinct : (elements.map ElementInfo.identity).Nodup) :
    Owned (shownNodes applications elements options) r ↔ Present elements options r := by
  unfold Owned Present
  rw [Option.ne_none_iff_exists']
  constructor
  · rintro ⟨n, hn⟩
    obtain ⟨e, he, hshown, hid, _⟩ := (shownNodes_iff hdistinct _).mp hn
    exact ⟨e, he, hshown, elementId_injective hid⟩
  · rintro ⟨e, he, hshown, hid⟩
    exact ⟨elementNode e, (shownNodes_iff hdistinct _).mpr ⟨e, he, hshown, by rw [hid], rfl⟩⟩

lemma admitted_iff_passes (hdistinct : (elements.map ElementInfo.identity).Nodup) :
    Admitted options (shownNodes applications elements options) r ↔ Passes elements options r :=
  or_congr Iff.rfl (owned_iff hdistinct)

variable (applications elements topics parameters services options) in
lemma collection_collected (hdistinct : (elements.map ElementInfo.identity).Nodup) :
    Collected options (shownNodes applications elements options)
      (registrations topics parameters services options)
      (collection applications elements topics parameters services options) := by
  refine collected (fun k n hn => ?_) fun r hr => registrations_directed hr
  obtain ⟨e, _, _, hid, _⟩ := (shownNodes_iff hdistinct k).mp hn
  exact ⟨e.identity, hid.symm⟩

lemma endpointKey_injective {a b : EndpointIdentity} (h : endpointKey a = endpointKey b) : a = b := by
  obtain ⟨⟨pid, ticks⟩, registration⟩ := a
  obtain ⟨⟨pid', ticks'⟩, registration'⟩ := b
  simp only [endpointKey, EmbeddingLike.apply_eq_iff_eq, Prod.mk.injEq] at h
  obtain ⟨rfl, rfl, rfl⟩ := h
  rfl

lemma endpointOrder_injective {a b : GraphEndpoint} (h : endpointOrder a = endpointOrder b) : a = b := by
  obtain ⟨identity, role⟩ := a
  obtain ⟨identity', role'⟩ := b
  simp only [endpointOrder, EmbeddingLike.apply_eq_iff_eq, Prod.mk.injEq] at h
  obtain ⟨hidentity, rfl⟩ := h
  rw [endpointKey_injective hidentity]

/-- The node of a channel, with the endpoints that are registered on it and pass the filter. -/
def IsChannelNode (elements : List ElementInfo) (options : GraphOptions) (l : List Registration)
    (r : Registration) (n : GraphNode) : Prop :=
  n = { id := r.nodeId, label := r.name, kind := r.kind, endpoints := n.endpoints } ∧ n.endpoints.Nodup ∧
    ∀ e, e ∈ n.endpoints ↔ ∃ q ∈ l, Passes elements options q ∧ q.channel = r.channel ∧
      e = ⟨q.identity, q.role⟩

lemma stands_iff (hdistinct : (elements.map ElementInfo.identity).Nodup) {l : List Registration} :
    Stands options (shownNodes applications elements options) l r n ↔
      IsChannelNode elements options l r n := by
  unfold Stands IsChannelNode
  simp only [admitted_iff_passes hdistinct, nodeId_iff]

lemma sortEndpoints_isChannelNode {l : List Registration} (h : IsChannelNode elements options l r n) :
    IsChannelNode elements options l r (sortEndpoints n) ∧
      (sortEndpoints n).endpoints.Pairwise (Below endpointOrder) := by
  have hperm : (sortEndpoints n).endpoints.Perm n.endpoints := List.perm_insertionSort _ _
  refine ⟨⟨?_, hperm.nodup_iff.mpr h.2.1, fun e => ?_⟩, List.pairwise_insertionSort (Below endpointOrder) _⟩
  · unfold sortEndpoints
    rw [h.1]
  · rw [hperm.mem_iff]
    exact h.2.2 e

lemma isChannelNode_unique {l : List Registration} {m : GraphNode} (hn : IsChannelNode elements options l r n)
    (hm : IsChannelNode elements options l r m) (hsn : n.endpoints.Pairwise (Below endpointOrder))
    (hsm : m.endpoints.Pairwise (Below endpointOrder)) : n = m := by
  have hperm : n.endpoints.Perm m.endpoints :=
    (List.perm_ext_iff_of_nodup hn.2.1 hm.2.1).mpr fun e => (hn.2.2 e).trans (hm.2.2 e).symm
  have hends := sorted_unique hperm (fun a _ b _ h => endpointOrder_injective h) hsn hsm
  rw [hn.1, hm.1, hends]

variable (applications elements topics parameters services options) in
/-- The nodes before they are ordered. -/
def unordered : List GraphNode :=
  (collection applications elements topics parameters services options).1.toList.map fun p => sortEndpoints p.2

lemma buildGraph_nodes : (buildGraph applications elements topics parameters services options).nodes =
    (unordered applications elements topics parameters services options).insertionSort (Below nodeOrder) := rfl

lemma buildGraph_edges : (buildGraph applications elements topics parameters services options).edges =
    (collection applications elements topics parameters services options).2.insertionSort
      (Below edgeOrder) := rfl

lemma mem_unordered (hdistinct : (elements.map ElementInfo.identity).Nodup) :
    n ∈ unordered applications elements topics parameters services options ↔
      (∃ e ∈ elements, InGroup options e ∧ n = elementNode e) ∨
        ∃ r ∈ registrations topics parameters services options, Passes elements options r ∧
          IsChannelNode elements options (registrations topics parameters services options) r n ∧
            n.endpoints.Pairwise (Below endpointOrder) := by
  have hcollected :=
    collection_collected applications elements topics parameters services options hdistinct
  unfold unordered
  rw [List.mem_map]
  constructor
  · rintro ⟨⟨k, m⟩, hm, rfl⟩
    rw [ExtTreeMap.mem_toList_iff_getElem?_eq_some] at hm
    by_cases hseen : ∃ r ∈ registrations topics parameters services options,
        Admitted options (shownNodes applications elements options) r ∧ r.nodeId = k
    · obtain ⟨r, hr, hadmitted, rfl⟩ := hseen
      obtain ⟨m', hm', hstands⟩ := hcollected.nodes r hr hadmitted
      obtain rfl := Option.some.inj (hm.symm.trans hm')
      exact .inr ⟨r, hr, (admitted_iff_passes hdistinct).mp hadmitted,
        sortEndpoints_isChannelNode ((stands_iff hdistinct).mp hstands)⟩
    · have hshown := hcollected.others k fun r hr hadmitted hid => hseen ⟨r, hr, hadmitted, hid⟩
      obtain ⟨e, he, hs, _, rfl⟩ := (shownNodes_iff hdistinct k).mp (hshown.symm.trans hm)
      exact .inl ⟨e, he, hs, rfl⟩
  · rintro (⟨e, he, hs, rfl⟩ | ⟨r, hr, hpasses, hnode, hsorted⟩)
    · refine ⟨(elementId e.identity, elementNode e), ?_, rfl⟩
      rw [ExtTreeMap.mem_toList_iff_getElem?_eq_some, hcollected.owner]
      exact (shownNodes_iff hdistinct _).mpr ⟨e, he, hs, rfl, rfl⟩
    · obtain ⟨m, hm, hstands⟩ := hcollected.nodes r hr ((admitted_iff_passes hdistinct).mpr hpasses)
      obtain ⟨hchannel, hs⟩ := sortEndpoints_isChannelNode ((stands_iff hdistinct).mp hstands)
      exact ⟨(r.nodeId, m), ExtTreeMap.mem_toList_iff_getElem?_eq_some.mpr hm,
        isChannelNode_unique hchannel hnode hs hsorted⟩

lemma collection_id (hdistinct : (elements.map ElementInfo.identity).Nodup) {k : String}
    (hn : (collection applications elements topics parameters services options).1[k]? = some n) :
    n.id = k := by
  have hcollected :=
    collection_collected applications elements topics parameters services options hdistinct
  by_cases hseen : ∃ r ∈ registrations topics parameters services options,
      Admitted options (shownNodes applications elements options) r ∧ r.nodeId = k
  · obtain ⟨r, hr, hadmitted, rfl⟩ := hseen
    obtain ⟨m, hm, hstands⟩ := hcollected.nodes r hr hadmitted
    obtain rfl := Option.some.inj (hn.symm.trans hm)
    rw [hstands.1]
  · have hshown := hcollected.others k fun r hr hadmitted hid => hseen ⟨r, hr, hadmitted, hid⟩
    obtain ⟨e, _, _, rfl, rfl⟩ := (shownNodes_iff hdistinct k).mp (hshown.symm.trans hn)
    rfl

lemma unordered_ids (hdistinct : (elements.map ElementInfo.identity).Nodup) :
    ((unordered applications elements topics parameters services options).map GraphNode.id).Nodup := by
  have hids : (unordered applications elements topics parameters services options).map GraphNode.id =
      (collection applications elements topics parameters services options).1.keys := by
    rw [← ExtTreeMap.map_fst_toList_eq_keys, unordered, List.map_map]
    refine List.map_congr_left fun ⟨k, m⟩ hm => ?_
    exact collection_id (n := m) hdistinct (ExtTreeMap.mem_toList_iff_getElem?_eq_some.mp hm)
  rw [hids]
  exact ExtTreeMap.nodup_keys

variable (applications elements topics parameters services options) in
lemma mem_buildGraph (hdistinct : (elements.map ElementInfo.identity).Nodup) :
    n ∈ (buildGraph applications elements topics parameters services options).nodes ↔
      (∃ e ∈ elements, InGroup options e ∧ n = elementNode e) ∨
        ∃ r ∈ registrations topics parameters services options, Passes elements options r ∧
          IsChannelNode elements options (registrations topics parameters services options) r n ∧
            n.endpoints.Pairwise (Below endpointOrder) := by
  rw [buildGraph_nodes, List.mem_insertionSort, mem_unordered hdistinct]

variable (applications) in
lemma exists_channelNode (hdistinct : (elements.map ElementInfo.identity).Nodup)
    (hr : r ∈ registrations topics parameters services options) (hpasses : Passes elements options r) :
    ∃ n ∈ (buildGraph applications elements topics parameters services options).nodes,
      IsChannelNode elements options (registrations topics parameters services options) r n := by
  obtain ⟨m, _, hstands⟩ := (collection_collected applications elements topics parameters services options
    hdistinct).nodes r hr ((admitted_iff_passes hdistinct).mpr hpasses)
  obtain ⟨hchannel, hsorted⟩ := sortEndpoints_isChannelNode ((stands_iff hdistinct).mp hstands)
  exact ⟨_, (mem_buildGraph _ _ _ _ _ _ hdistinct).mpr (.inr ⟨r, hr, hpasses, hchannel, hsorted⟩), hchannel⟩

/-- The edge of a registration runs from its element where the role gives, to it where it takes. -/
def route (r : Registration) : GraphEdge :=
  if outward r.role then
    { source := elementId r.identity.runtime, target := r.nodeId, role := r.role, endpoint := r.identity }
  else
    { source := r.nodeId, target := elementId r.identity.runtime, role := r.role, endpoint := r.identity }

lemma edge_eq_route (hout : r.outgoing = outward r.role) : r.edge = route r := by
  unfold Registration.edge route
  rw [hout]
  cases outward r.role <;> rfl

lemma mem_edges (hdistinct : (elements.map ElementInfo.identity).Nodup) {edge : GraphEdge} :
    edge ∈ (buildGraph applications elements topics parameters services options).edges ↔
      ∃ r ∈ registrations topics parameters services options, Present elements options r ∧
        edge = route r := by
  rw [buildGraph_edges, List.mem_insertionSort, (collection_collected _ _ _ _ _ _ hdistinct).edges]
  constructor
  · rintro ⟨r, hr, howned, rfl⟩
    exact ⟨r, hr, (owned_iff hdistinct).mp howned, edge_eq_route (registrations_directed hr)⟩
  · rintro ⟨r, hr, hpresent, rfl⟩
    exact ⟨r, hr, (owned_iff hdistinct).mpr hpresent, (edge_eq_route (registrations_directed hr)).symm⟩

lemma route_inj : route r = route q ↔
    r.channel = q.channel ∧ r.identity = q.identity ∧ r.role = q.role := by
  constructor
  · intro h
    have hedge : ∀ p : Registration, route p = { p with outgoing := outward p.role : Registration }.edge :=
      fun p => (edge_eq_route (r := { p with outgoing := outward p.role }) rfl).symm
    obtain ⟨hid, hidentity, hrole⟩ := same_of_edge ((hedge r).symm.trans (h.trans (hedge q)))
    exact ⟨channel_of_nodeId (r := r) (q := q) hid, hidentity, hrole⟩
  · rintro ⟨hchannel, hidentity, hrole⟩
    unfold route
    rw [nodeId_iff.mpr hchannel, hidentity, hrole]

/-- The graph holds the shown elements and the channels of the registrations that pass, each once, with an
edge for each registration of a shown element. -/
theorem buildGraph_exact (applications : List ApplicationInfo) (elements : List ElementInfo)
    (topics : List TopicInfo) (parameters : List ParameterInfo) (services : List ServiceInfo)
    (options : GraphOptions)
    (hdistinct : (elements.map ElementInfo.identity).Nodup) :
    let model := buildGraph applications elements topics parameters services options
    let all := registrations topics parameters services options
    (model.nodes.map GraphNode.id).Nodup ∧
    (∀ n, n ∈ model.nodes ∧ n.kind = .element ↔ ∃ e ∈ elements, InGroup options e ∧ n = elementNode e) ∧
    (∀ n ∈ model.nodes, n.kind ≠ .element →
      ∃ r ∈ all, Passes elements options r ∧ IsChannelNode elements options all r n) ∧
    (∀ r ∈ all, Passes elements options r →
      ∃! n, n ∈ model.nodes ∧ IsChannelNode elements options all r n) ∧
    (∀ r q : Registration, r.nodeId = q.nodeId ↔ r.channel = q.channel) ∧
    model.edges.Nodup ∧
    (∀ edge, edge ∈ model.edges ↔ ∃ r ∈ all, Present elements options r ∧ edge = route r) ∧
    (∀ r q, route r = route q ↔ r.channel = q.channel ∧ r.identity = q.identity ∧ r.role = q.role) ∧
    ∀ edge ∈ model.edges, edge.source ∈ model.nodes.map GraphNode.id ∧
      edge.target ∈ model.nodes.map GraphNode.id := by
  intro model all
  have hids : (model.nodes.map GraphNode.id).Nodup := by
    have hperm := (List.perm_insertionSort (Below nodeOrder)
      (unordered applications elements topics parameters services options)).map GraphNode.id
    exact hperm.nodup_iff.mpr (unordered_ids hdistinct)
  have hmem := fun n =>
    mem_buildGraph applications elements topics parameters services options (n := n) hdistinct
  have hkind : ∀ r ∈ all, ∀ n, IsChannelNode elements options all r n → n.kind ≠ .element := by
    intro r hr n hn
    rw [hn.1]
    exact registrations_kind hr
  refine ⟨hids, fun n => ⟨?_, ?_⟩, fun n hn hne => ?_, fun r hr hpasses => ?_, fun r q => nodeId_iff, ?_,
    fun edge => mem_edges hdistinct, fun r q => route_inj, fun edge hedge => ?_⟩
  · rintro ⟨hn, hne⟩
    rcases (hmem n).mp hn with he | ⟨r, hr, _, hnode, _⟩
    · exact he
    · exact absurd hne (hkind r hr n hnode)
  · rintro ⟨e, he, hshown, rfl⟩
    exact ⟨(hmem _).mpr (.inl ⟨e, he, hshown, rfl⟩), rfl⟩
  · rcases (hmem n).mp hn with ⟨e, _, _, rfl⟩ | ⟨r, hr, hpasses, hnode, _⟩
    · exact absurd rfl hne
    · exact ⟨r, hr, hpasses, hnode⟩
  · obtain ⟨n, hn, hnode⟩ := exists_channelNode applications hdistinct hr hpasses
    refine ⟨n, ⟨hn, hnode⟩, fun m ⟨hm, hmnode⟩ => ?_⟩
    apply List.inj_on_of_nodup_map hids hm hn
    rw [hmnode.1, hnode.1]
  · exact (List.perm_insertionSort (Below edgeOrder) _).nodup_iff.mpr
      (collection_collected _ _ _ _ _ _ hdistinct).nodup
  · obtain ⟨r, hr, hpresent, rfl⟩ := (mem_edges hdistinct).mp hedge
    have hchannel : r.nodeId ∈ model.nodes.map GraphNode.id := by
      obtain ⟨n, hn, hnode⟩ := exists_channelNode applications hdistinct hr (.inr hpresent)
      exact List.mem_map.mpr ⟨n, hn, by rw [hnode.1]⟩
    have helement : elementId r.identity.runtime ∈ model.nodes.map GraphNode.id := by
      obtain ⟨e, he, hshown, hid⟩ := hpresent
      refine List.mem_map.mpr ⟨elementNode e, (hmem _).mpr (.inl ⟨e, he, hshown, rfl⟩), ?_⟩
      rw [← hid]
      rfl
    unfold route
    split_ifs
    · exact ⟨helement, hchannel⟩
    · exact ⟨hchannel, helement⟩

def sampleElements : List ElementInfo :=
  [{ name := "camera", identity := ⟨100, 10⟩, supervisor := ⟨10, 1⟩ },
    { name := "planner", identity := ⟨101, 10⟩, supervisor := ⟨10, 2⟩ }, { identity := ⟨102, 10⟩ }]

def sampleTopics : List TopicInfo :=
  [{ name := "/image", identity := ⟨⟨100, 10⟩, 1⟩, role := "PUBLISHER" },
    { name := "/image", identity := ⟨⟨101, 10⟩, 1⟩, role := "SUBSCRIBER" }]

/-- The subscription of the second element under its own group. -/
theorem buildGraph_exact_sample :
    ({ source := "1:/image", target := "element:101:10", role := "SUBSCRIBER", endpoint := ⟨⟨101, 10⟩, 1⟩ } :
      GraphEdge) ∈ (buildGraph [] sampleElements sampleTopics [] [] { group := "10:2" }).edges :=
  ((buildGraph_exact [] sampleElements sampleTopics [] [] { group := "10:2" }
    (by decide)).2.2.2.2.2.2.1 _).mpr
      ⟨⟨.topic, "/image", ⟨⟨101, 10⟩, 1⟩, "SUBSCRIBER", false⟩, by decide,
        ⟨{ name := "planner", identity := ⟨101, 10⟩, supervisor := ⟨10, 2⟩ }, by decide, by decide, rfl⟩, rfl⟩

end Model

end KcfTools.Graph
