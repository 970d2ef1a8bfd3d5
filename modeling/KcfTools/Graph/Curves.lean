import KcfTools.Graph.DrawnNodes

/-! Every relation of the graph is drawn between the boxes of its nodes, and each verified route on a curve
of its own. -/

namespace KcfTools.Graph

open Pictures Transitions

section Sizes

variable {model : GraphModel} {chosen : String} {d : Drawing}

/-- Boxes have the sizes of their nodes. -/
def Drawing.Sized (d : Drawing) : Prop := ∀ i ∈ d.picture.boxes, ∃ x y, i.2 = nodeBox i.1 x y

lemma Drawing.Sized.nodeItem (h : d.Sized) (n : GraphNode) (x y : ℤ) : (d.nodeItem n x y).Sized := by
  intro i hi
  rcases List.mem_append.mp hi with hi | hi
  · exact h i hi
  · rw [List.mem_singleton.mp hi]
    exact ⟨x, y, rfl⟩

lemma drawElement_sized (group : GraphGroup) (d : Drawing) (n : GraphNode) (h : d.Sized) :
    (drawElement group d n).Sized := by
  unfold drawElement
  split_ifs
  · exact h.nodeItem n 20 d.y
  · exact h

lemma drawApplication_sized (d : Drawing) (group : GraphGroup) (h : d.Sized) :
    (drawApplication model chosen d group).Sized := by
  have helements : (model.nodes.foldl (drawElement group) (d.down 30)).Sized :=
    foldl_invariant (drawElement_sized group) model.nodes (d.down 30) h
  unfold drawApplication
  split_ifs
  · exact h
  · exact h
  · dsimp only
    split_ifs
    · exact helements
    · exact helements

lemma drawEndpoint_sized (c : Column) (n : GraphNode) (h : c.drawing.Sized) :
    (drawEndpoint c n).drawing.Sized := by
  unfold drawEndpoint
  split_ifs
  · exact h.nodeItem n 600 _
  · exact h.nodeItem n 600 _
  · exact h

lemma drawMember_sized (group : GraphGroup) (c : Columns) (n : GraphNode) (h : c.drawing.Sized) :
    (drawMember group c n).drawing.Sized := by
  unfold drawMember
  split_ifs
  · exact h
  · exact h.nodeItem n 30 _
  · exact h.nodeItem n 600 _

lemma drawRemoteApplication_sized (host : String) (d : Drawing) (group : GraphGroup) (h : d.Sized) :
    (drawRemoteApplication model chosen host d group).Sized := by
  have hmembers : (model.nodes.foldl (drawMember group) ⟨d.down 30, d.y + 30⟩).drawing.Sized :=
    foldl_invariant (I := fun c : Columns => c.drawing.Sized) (drawMember_sized group) model.nodes _ h
  unfold drawRemoteApplication
  split_ifs
  · exact h
  · exact h
  · exact hmembers

lemma drawHost_sized (d : Drawing) (host : GraphNode) (h : d.Sized) : (drawHost model chosen d host).Sized := by
  unfold drawHost
  split_ifs
  · exact h
  · exact foldl_invariant (drawRemoteApplication_sized host.host) model.groups _ (h.nodeItem host 0 d.y)

lemma draw_sized : (draw model chosen).Sized := by
  have hgroups : (model.groups.foldl (drawApplication model chosen) {}).Sized :=
    foldl_invariant drawApplication_sized model.groups {} fun i hi => absurd hi List.not_mem_nil
  have hlocal : (drawLocal model chosen).Sized :=
    foldl_invariant (I := fun c : Column => c.drawing.Sized) drawEndpoint_sized model.nodes
      { drawing := model.groups.foldl (drawApplication model chosen) {} } hgroups
  exact foldl_invariant drawHost_sized model.nodes _ hlocal

end Sizes

section Edges

variable {data : GraphData} {options : GraphOptions} {now : UInt64}

lemma addHost_edges (network : NetworkSnapshot) (model : GraphModel) (host : RemoteHost) :
    (addHost options network model host).edges = model.edges ++ host.endpoints.flatMap fun e =>
      if Visible options host e then (ownershipEdge e).toList else [] := by
  unfold addHost Visible
  by_cases hs : hostShown options host = true
  · have hs' : ¬ (options.host ≠ "" ∧ options.host ≠ host.id) := by
      have := of_decide_eq_true hs
      tauto
    simp only [if_neg hs', addRemoteEndpoints_ownership, hs, true_and]
  · have hs' : options.host ≠ "" ∧ options.host ≠ host.id := by
      unfold hostShown at hs
      rw [decide_eq_true_eq] at hs
      tauto
    simp [if_pos hs', hs]

lemma graph_edges_cases {edge : GraphEdge} (h : edge ∈ (data.graph options now).edges) :
    edge ∈ (localPart (data.localGraph options) options).edges ∨
      options.remote ∧ (edge ∈ ownership options data.network ∨
        ∃ k, pairEdge
            (admitted (remotePart (data.localGraph options) data.network options) data.network now) k =
          some edge) := by
  unfold GraphData.graph addRemoteGraph at h
  by_cases hremote : options.remote = true
  · rw [if_neg (not_not.mpr hremote)] at h
    have hedges := foldl_append (f := addHost options data.network) (g := GraphModel.edges)
      (l := data.network.hosts)
      (fun model host _ => addHost_edges data.network model host) (localPart (data.localGraph options) options)
    rw [addVerifiedRoutes, collectEvidence_edges] at h
    rcases List.mem_append.mp h with h | h
    · rw [remotePart, hedges] at h
      exact (List.mem_append.mp h).imp_right fun h => ⟨hremote, .inl h⟩
    · obtain ⟨k, _, h⟩ := List.mem_filterMap.mp h
      exact .inr ⟨hremote, .inr ⟨k, h⟩⟩
  · rw [if_pos hremote] at h
    exact .inl h

variable (hdistinct : (data.elements.map ElementInfo.identity).Nodup)

include hdistinct in
lemma localEdge_ends {edge : GraphEdge} (h : edge ∈ (data.localGraph options).edges) :
    edge.source ∈ (data.localGraph options).nodes.map GraphNode.id ∧
      edge.target ∈ (data.localGraph options).nodes.map GraphNode.id := by
  obtain ⟨r, hr, hpresent, rfl⟩ := (mem_edges hdistinct).mp h
  obtain ⟨n, hn, hnode⟩ := exists_channelNode data.applications hdistinct hr (.inr hpresent)
  have hchannel : r.nodeId ∈ (data.localGraph options).nodes.map GraphNode.id :=
    List.mem_map.mpr ⟨n, hn, by rw [hnode.1]⟩
  obtain ⟨e, he, hshown, hid⟩ := hpresent
  have helement : elementId r.identity.runtime ∈ (data.localGraph options).nodes.map GraphNode.id := by
    refine List.mem_map.mpr ⟨elementNode e, (mem_buildGraph _ _ _ _ _ _ hdistinct).mpr
      (.inl ⟨e, he, hshown, rfl⟩), ?_⟩
    rw [← hid]
    rfl
  unfold route
  split_ifs
  · exact ⟨helement, hchannel⟩
  · exact ⟨hchannel, helement⟩

include hdistinct in
lemma graph_edge_ends (hcoherent : Coherent data.network) {edge : GraphEdge}
    (h : edge ∈ (data.graph options now).edges) :
    edge.source ∈ (data.graph options now).nodes.map GraphNode.id ∧
      edge.target ∈ (data.graph options now).nodes.map GraphNode.id := by
  rcases graph_edges_cases h with h | ⟨hremote, h | ⟨k, h⟩⟩
  · have hnodes : ∀ id ∈ (data.localGraph options).nodes.map GraphNode.id,
        localPart (data.localGraph options) options = data.localGraph options →
          id ∈ (data.graph options now).nodes.map GraphNode.id := by
      intro id hid hlocal
      rw [graph_nodes, hlocal, List.map_append]
      exact List.mem_append_left _ hid
    rcases localPart_cases (data.localGraph options) options with hlocal | hlocal <;> rw [hlocal] at h
    · cases h
    · obtain ⟨hs, ht⟩ := localEdge_ends hdistinct h
      exact ⟨hnodes _ hs hlocal, hnodes _ ht hlocal⟩
  · obtain ⟨host, hh, e, he, hv, h⟩ := mem_ownership h
    have hmem : ∀ n, n ∈ emplaced options data.network host e → n ∈ (data.graph options now).nodes := by
      intro n hn
      rw [graph_nodes]
      refine List.mem_append_right _ (List.mem_flatMap.mpr
        ⟨host, ?_, emplaced_mem_hostNodes hcoherent hh he hn⟩)
      rw [GraphData.shownHosts, if_pos hremote]
      exact List.mem_filter.mpr ⟨hh, hv.1⟩
    have hruntime := List.mem_map_of_mem (f := GraphNode.id) (hmem _ (mem_emplaced.mpr ⟨hv.2.1, .inl rfl⟩))
    have hendpoint := List.mem_map_of_mem (f := GraphNode.id)
      (hmem _ (mem_emplaced.mpr ⟨hv.2.1, .inr ⟨hv.2.2, rfl⟩⟩))
    obtain ⟨-, ⟨hs, ht⟩ | ⟨hs, ht⟩⟩ := ownershipEdge_ends data.network host h
    · exact ⟨hs ▸ hruntime, ht ▸ hendpoint⟩
    · exact ⟨hs ▸ hendpoint, ht ▸ hruntime⟩
  · have hnodes : (data.graph options now).nodes =
        (remotePart (data.localGraph options) data.network options).nodes := by
      unfold GraphData.graph addRemoteGraph
      rw [if_neg (not_not.mpr hremote)]
      rfl
    obtain ⟨⟨s, hs, hsk, hss⟩, ⟨r, hr, hrk, hrs⟩, hsource, htarget⟩ := pairEdge_ends h
    rw [hnodes, hsource, htarget]
    exact ⟨visible_id (admitted_visible hs hsk hss), visible_id (admitted_visible hr hrk hrs)⟩

end Edges

section Drawn

variable {model : GraphModel} {d : Drawing}

lemma drawEdges_edges {l : List GraphEdge} (h : ∀ edge ∈ l, edge.source ∈ d.nodes.map GraphNode.id ∧
    edge.target ∈ d.nodes.map GraphNode.id) (c : Curves) :
    (l.foldl (drawEdge d) c).drawn.map Curve.edge = c.drawn.map Curve.edge ++ l := by
  have hfold := foldl_append (f := drawEdge d) (g := fun c : Curves => c.drawn.map Curve.edge)
    (h := fun e => [e])
    (l := l) (fun c edge hedge => ?_) c
  · rw [List.flatMap_singleton'] at hfold
    exact hfold
  · obtain ⟨source, hs⟩ := box_isSome (h edge hedge).1
    obtain ⟨target, ht⟩ := box_isSome (h edge hedge).2
    simp only [drawEdge, hs, ht]
    split_ifs <;> simp [curve]

/-- Boxes under different ids stand apart and are large enough to tell their middles apart. -/
lemma right_ends_differ (hapart : d.picture.boxes.Pairwise fun a b => Apart a.2 b.2) (hsized : d.Sized)
    {id id' : String} {b b' : Box} (hb : d.box id = some b) (hb' : d.box id' = some b') (hne : id ≠ id')
    {shift shift' : ℤ} (hs : shift = -7 ∨ shift = 7) (hs' : shift' = -7 ∨ shift' = 7) :
    (b.right, middle b + shift) ≠ (b'.right, middle b' + shift') := by
  obtain ⟨n, hn, rfl⟩ := box_mem hb
  obtain ⟨n', hn', rfl⟩ := box_mem hb'
  have hsymm : Std.Symm fun a b : GraphNode × Box => Apart a.2 b.2 := ⟨fun _ _ h => h.symm⟩
  have happ : Apart b b' := hapart.forall hn hn' fun h => hne (by rw [(Prod.mk.inj h).1])
  obtain ⟨x, y, hbox⟩ := hsized _ hn
  obtain ⟨x', y', hbox'⟩ := hsized _ hn'
  have hsize : 240 ≤ b.width ∧ (b.height = 58 ∨ b.height = 38) := by
    rw [show b = nodeBox n x y from hbox, nodeBox]
    dsimp only
    split_ifs <;> simp
  have hsize' : 240 ≤ b'.width ∧ (b'.height = 58 ∨ b'.height = 38) := by
    rw [show b' = nodeBox n' x' y' from hbox', nodeBox]
    dsimp only
    split_ifs <;> simp
  intro h
  obtain ⟨hright, hmiddle⟩ := Prod.mk.inj h
  simp only [Apart, Box.right, Box.bottom, middle] at happ hright hmiddle
  omega

/-- The point lies on the left or on the right side of the box. -/
def Touches (b : Box) (p : ℤ × ℤ) : Prop := (p.1 = b.left ∨ p.1 = b.right) ∧ b.top ≤ p.2 ∧ p.2 ≤ b.bottom

/-- Both are verified routes, and they run along one curve. -/
def Overlaid (c c' : Curve) : Prop :=
  c.edge.networkRoute ∧ c'.edge.networkRoute ∧ c.start = c'.start ∧ c.leaving = c'.leaving ∧ c.stop = c'.stop

/-- What the loop over the edges has drawn: lanes below the counter of their two ends. -/
structure Laned (d : Drawing) (c : Curves) : Prop where
  curves : ∀ k ∈ c.drawn, ∃ source target, ∃ n : ℕ,
    d.box k.edge.source = some source ∧ d.box k.edge.target = some target ∧
      k = curve k.edge source target (24 * n) ∧
        (k.edge.networkRoute → n < c.lanes.getD (toLex (k.edge.source, k.edge.target)) 0)
  apart : c.drawn.Pairwise fun k k' => ¬ Overlaid k k'

lemma curve_shift (edge : GraphEdge) (source target : Box) (lane : ℤ) : ∃ shift, (shift = -7 ∨ shift = 7) ∧
    (curve edge source target lane).start.2 = middle source + shift ∧
      (curve edge source target lane).stop.2 = middle target + shift := by
  unfold curve
  by_cases h : source.left < target.left
  · exact ⟨-7, .inl rfl, by simp [h], by simp [h]⟩
  · exact ⟨7, .inr rfl, by simp [h], by simp [h]⟩

lemma curve_route {edge : GraphEdge} (h : edge.networkRoute) (source target : Box) (lane : ℤ) :
    (curve edge source target lane).start.1 = source.right ∧
    (curve edge source target lane).stop.1 = target.right ∧
      (curve edge source target lane).leaving.1 = source.right + (140 + lane) := by
  simp [curve, h]

lemma not_overlaid (hapart : d.picture.boxes.Pairwise fun a b => Apart a.2 b.2) (hsized : d.Sized)
    {edge edge' : GraphEdge} {source source' target target' : Box} {n n' : ℕ}
    (hs : d.box edge.source = some source) (ht : d.box edge.target = some target)
    (hs' : d.box edge'.source = some source') (ht' : d.box edge'.target = some target')
    (hlane : edge.source = edge'.source → edge.target = edge'.target → n ≠ n') :
    ¬ Overlaid (curve edge source target (24 * n)) (curve edge' source' target' (24 * n')) := by
  rintro ⟨hroute, hroute', hstart, hleaving, hstop⟩
  obtain ⟨shift, hshift, hy, hstopy⟩ := curve_shift edge source target (24 * n)
  obtain ⟨shift', hshift', hy', hstopy'⟩ := curve_shift edge' source' target' (24 * n')
  obtain ⟨hx, hstopx, hleave⟩ := @curve_route edge hroute source target (24 * n)
  obtain ⟨hx', hstopx', hleave'⟩ := @curve_route edge' hroute' source' target' (24 * n')
  have hsource : edge.source = edge'.source := by
    by_contra hne
    apply right_ends_differ hapart hsized hs hs' hne hshift hshift'
    rw [← hx, ← hy, ← hx', ← hy', hstart]
  have htarget : edge.target = edge'.target := by
    by_contra hne
    apply right_ends_differ hapart hsized ht ht' hne hshift hshift'
    rw [← hstopx, ← hstopy, ← hstopx', ← hstopy', hstop]
  have hright : source.right = source'.right := by rw [← hx, ← hx', hstart]
  apply hlane hsource htarget
  have hl := congrArg Prod.fst hleaving
  rw [hleave, hleave', hright] at hl
  omega

lemma Laned.drawEdge (hapart : d.picture.boxes.Pairwise fun a b => Apart a.2 b.2) (hsized : d.Sized)
    {c : Curves}
    (h : Laned d c) (edge : GraphEdge) : Laned d (drawEdge d c edge) := by
  have hcurve : ∀ source target lane, (curve edge source target lane).edge = edge := fun _ _ _ => rfl
  unfold Graph.drawEdge
  cases hs : d.box edge.source with
  | none => exact h
  | some source =>
    cases ht : d.box edge.target with
    | none => exact h
    | some target =>
      dsimp only
      split_ifs with hroute
      · set key := toLex (edge.source, edge.target) with hkey
        set n := c.lanes.getD key 0 with hn
        constructor
        · intro k hk
          rcases List.mem_append.mp hk with hk | hk
          · obtain ⟨s, t, m, hks, hkt, hcurve, hm⟩ := h.curves k hk
            refine ⟨s, t, m, hks, hkt, hcurve, fun hkroute => ?_⟩
            rw [Std.ExtTreeMap.getD_insert]
            split_ifs with hsame
            · have hsame : key = toLex (k.edge.source, k.edge.target) := Std.LawfulEqCmp.eq_of_compare hsame
              have hlt := hm hkroute
              rw [← hsame] at hlt
              omega
            · exact hm hkroute
          · rw [List.mem_singleton.mp hk]
            refine ⟨source, target, n, hs, ht, rfl, fun _ => ?_⟩
            rw [hcurve, ← hkey, Std.ExtTreeMap.getD_insert_self]
            exact Nat.lt_succ_self n
        · refine List.pairwise_append.mpr ⟨h.apart, List.pairwise_singleton _ _, fun k hk k' hk' hover => ?_⟩
          rw [List.mem_singleton.mp hk'] at hover
          obtain ⟨s, t, m, hks, hkt, hcurve, hm⟩ := h.curves k hk
          have hkroute := hover.1
          rw [hcurve] at hover
          refine not_overlaid hapart hsized hks hkt hs ht (fun hsource htarget hmn => ?_) hover
          have hlt := hm hkroute
          rw [hsource, htarget, ← hkey, ← hn, hmn] at hlt
          exact lt_irrefl n hlt
      · constructor
        · intro k hk
          rcases List.mem_append.mp hk with hk | hk
          · exact h.curves k hk
          · rw [List.mem_singleton.mp hk]
            exact ⟨source, target, 0, hs, ht, by simp [curve], fun hr => absurd hr hroute⟩
        · refine List.pairwise_append.mpr ⟨h.apart, List.pairwise_singleton _ _, fun k hk k' hk' hover => ?_⟩
          rw [List.mem_singleton.mp hk'] at hover
          exact hroute hover.2.1

lemma curve_touches (hsized : d.Sized) {id id' : String} {source target : Box} (hs : d.box id = some source)
    (ht : d.box id' = some target) (edge : GraphEdge) (lane : ℤ) :
    Touches source (curve edge source target lane).start ∧
    Touches target (curve edge source target lane).stop := by
  obtain ⟨n, hn, -⟩ := box_mem hs
  obtain ⟨n', hn', -⟩ := box_mem ht
  obtain ⟨x, y, hbox⟩ := hsized _ hn
  obtain ⟨x', y', hbox'⟩ := hsized _ hn'
  obtain ⟨shift, hshift, hy, hstop⟩ := curve_shift edge source target lane
  have hsize : source.height = 58 ∨ source.height = 38 := by
    rw [show source = nodeBox n x y from hbox, nodeBox]
    dsimp only
    split_ifs <;> simp
  have hsize' : target.height = 58 ∨ target.height = 38 := by
    rw [show target = nodeBox n' x' y' from hbox', nodeBox]
    dsimp only
    split_ifs <;> simp
  refine ⟨⟨?_, ?_, ?_⟩, ?_, ?_, ?_⟩
  · unfold curve
    dsimp only
    split_ifs <;> simp
  · rw [hy, middle]
    omega
  · rw [hy, middle, Box.bottom]
    omega
  · unfold curve
    dsimp only
    split_ifs <;> simp
  · rw [hstop, middle]
    omega
  · rw [hstop, middle, Box.bottom]
    omega

end Drawn

/-- Every relation is drawn, from the box of its source to the box of its target, and no two verified routes
run along one curve. -/
theorem relations_drawn {data : GraphData} (hdistinct : (data.elements.map ElementInfo.identity).Nodup)
    (hcoherent : Coherent data.network) (hseparate : Separate data.network) (options : GraphOptions)
    (now : UInt64) :
    let model := data.graph options now
    let curves := drawEdges model options.group
    curves.map Curve.edge = model.edges ∧
      (∀ c ∈ curves, ∃ source target,
        (draw model options.group).box c.edge.source = some source ∧
          (draw model options.group).box c.edge.target = some target ∧
            Touches source c.start ∧ Touches target c.stop) ∧
      curves.Pairwise fun c c' => ¬ Overlaid c c' := by
  intro model curves
  have hnodes := List.Perm.map GraphNode.id (@drawn_perm data options now hdistinct hseparate)
  obtain ⟨hgrows, -⟩ := (@draw_drawn model options.group (graph_grouped data options now)).orderly
  have hlaned : Laned (draw model options.group) (model.edges.foldl (drawEdge (draw model options.group)) {}) :=
    foldl_invariant (I := Laned (draw model options.group))
      (fun c edge h => h.drawEdge hgrows.boxes draw_sized edge) model.edges {}
      ⟨fun k hk => absurd hk List.not_mem_nil, .nil⟩
  refine ⟨?_, fun c hc => ?_, hlaned.apart⟩
  · refine drawEdges_edges (fun edge hedge => ?_) {}
    obtain ⟨hs, ht⟩ := graph_edge_ends hdistinct hcoherent hedge
    exact ⟨hnodes.mem_iff.mpr hs, hnodes.mem_iff.mpr ht⟩
  · obtain ⟨source, target, n, hs, ht, hcurve, -⟩ := hlaned.curves c hc
    obtain ⟨hstart, hstop⟩ := curve_touches draw_sized hs ht c.edge (24 * n)
    rw [← hcurve] at hstart hstop
    exact ⟨source, target, hs, ht, hstart, hstop⟩

theorem relations_drawn_sample :
    (drawEdges (sampleData.graph everything 123460) "").Pairwise (fun c c' => ¬ Overlaid c c') ∧
      (drawEdges (sampleData.graph everything 123460) "").map (fun c => (c.start, c.stop)) =
        [((600, 96), (290, 242)), ((290, 92), (600, 82)), ((300, 590), (600, 580)), ((300, 590), (600, 646)),
          ((600, 886), (300, 896)), ((840, 594), (840, 886))] :=
  ⟨(relations_drawn (by decide) sampleData_coherent sampleData_separate everything 123460).2.2,
    by decide +kernel⟩

end KcfTools.Graph
