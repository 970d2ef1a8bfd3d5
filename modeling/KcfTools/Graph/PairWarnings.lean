import KcfTools.Backend.Discovery
import KcfTools.Graph.RemoteFilter

/-! Pair compatibility warnings: what a diagnostic names, when it is complete, and the label of its node. -/

namespace KcfTools.Discovery

open Std KcfTools.Graph

/-- The endpoints of the peers whose metadata are ready. -/
def announced (peers : List PeerInfo) : List Candidate :=
  (peers.filter (·.metadataReady)).flatMap fun p => p.endpoints.map fun e => (p, e)

def namesakes (peers : List PeerInfo) (e : NetworkEndpointMetadata) : List Candidate :=
  (announced peers).filter fun c => c.2.kind = e.kind ∧ c.2.name = e.name

variable (checks : Checks) (peer : PeerInfo) (e : NetworkEndpointMetadata)

/-- A counterpart on another Host that the check refuses. -/
def refuses (c : Candidate) : Bool :=
  c.1.host ≠ peer.host ∧ c.2.role ≠ e.role ∧
    ¬ (checks.checkEndpointCompatibility peer.profile c.1.profile e c.2).compatible

def refused (peers : List PeerInfo) : List Candidate := (namesakes peers e).filter (refuses checks peer e)

def pairLine (c : Candidate) : String :=
  c.2.identity.key ++ ": " ++
    (checks.checkEndpointCompatibility peer.profile c.1.profile e c.2).reasonName ++ "\n"

def limitNotice : String := "Pair comparison limit reached (32 candidates)\n"

/-- A diagnostic names refused counterparts only, all of them unless the notice ends it. -/
structure Diagnosed (peers : List PeerInfo) (diagnostic : String) : Prop where
  complete : (namesakes peers e).length ≤ 32 →
    diagnostic = String.join ((refused checks peer e peers).map (pairLine checks peer e))
  cut : 32 < (namesakes peers e).length → ∃ named : List Candidate,
    named.Sublist (refused checks peer e peers) ∧
    diagnostic = String.join (named.map (pairLine checks peer e)) ++ limitNotice

section Diagnostics

lemma join_cons (line : String) (lines : List String) :
    String.join (line :: lines) = line ++ String.join lines := by
  apply String.toList_injective
  rw [String.toList_append, String.toList_join, String.toList_join, List.flatMap_cons]

lemma pairDiagnostics_eq (n : ℕ) (hn : n ≤ 32) (cs : List Candidate) : pairDiagnostics checks peer e n cs =
    String.join (((cs.take (32 - n)).filter (refuses checks peer e)).map (pairLine checks peer e)) ++
      if 32 - n < cs.length then limitNotice else "" := by
  induction cs generalizing n with
  | nil => simp [pairDiagnostics]
  | cons c cs ih =>
    obtain ⟨other, candidate⟩ := c
    rw [pairDiagnostics]
    by_cases hlast : 32 < n + 1
    · have hzero : 32 - n = 0 := by omega
      have hpos : 0 < ((other, candidate) :: cs).length := by simp
      rw [if_pos hlast, hzero, List.take_zero, if_pos hpos]
      rfl
    · have hsucc : 32 - n = 32 - (n + 1) + 1 := by omega
      have hlength : (32 - (n + 1) + 1 < ((other, candidate) :: cs).length) = (32 - (n + 1) < cs.length) := by
        rw [List.length_cons, Nat.add_lt_add_iff_right]
      rw [if_neg hlast, hsucc, List.take_succ_cons, ih (n + 1) (by omega)]
      simp only [hlength]
      by_cases hskip : other.host = peer.host ∨ candidate.role = e.role
      · have hkept : refuses checks peer e (other, candidate) = false := by
          rcases hskip with h | h <;> simp [refuses, h]
        rw [if_pos hskip, List.filter_cons, hkept]
        rfl
      · rw [if_neg hskip, List.filter_cons]
        obtain ⟨hhost, hrole⟩ := not_or.mp hskip
        cases hcheck :
            (checks.checkEndpointCompatibility peer.profile other.profile e candidate).compatible with
        | true => simp [refuses, hcheck]
        | false =>
          have hnamed : refuses checks peer e (other, candidate) = true := by
            simp [refuses, hhost, hrole, hcheck]
          rw [hnamed, if_pos rfl, List.map_cons, join_cons, pairLine]
          simp only [Bool.false_eq_true, if_false, String.append_assoc]

lemma buildIndex_eq (peers : List PeerInfo) : buildIndex peers = (announced peers).foldl
    (fun t c => t.insert (c.2.kind, c.2.name) (t.getD (c.2.kind, c.2.name) [] ++ [c])) ∅ := by
  rw [announced, List.foldl_flatMap]
  simp only [List.foldl_map]
  rfl

lemma buildIndex_lookup {peers : List PeerInfo} {candidates : List Candidate}
    (h : (buildIndex peers)[(e.kind, e.name)]? = some candidates) : candidates = namesakes peers e := by
  have hgetD : (buildIndex peers).getD (e.kind, e.name) [] = candidates := by
    rw [ExtTreeMap.getD_eq_getD_getElem?, h]
    rfl
  rw [← hgetD, buildIndex_eq, Tables.getD_collect (fun c : Candidate => (c.2.kind, c.2.name))
    (fun c cs => cs ++ [c])]
  have happend : ∀ cs start : List Candidate, cs.foldl (fun cs c => cs ++ [c]) start = start ++ cs := by
    intro cs
    induction cs with
    | nil => simp
    | cons c cs ih => simp [ih]
  simp [happend, namesakes]

lemma diagnosed {peers : List PeerInfo} {v : RemoteEndpoint}
    (h : convertEndpoint checks (buildIndex peers) peer e = some v) :
    Diagnosed checks peer e peers v.diagnostic := by
  obtain ⟨candidates, hc, hv⟩ := Option.map_eq_some_iff.mp h
  obtain rfl := buildIndex_lookup e hc
  have hdiagnostic : v.diagnostic = pairDiagnostics checks peer e 0 (namesakes peers e) := by rw [← hv]
  rw [hdiagnostic, pairDiagnostics_eq checks peer e 0 (by omega)]
  refine { complete := fun hlength => ?_, cut := fun hlength => ?_ }
  · rw [List.take_of_length_le hlength, if_neg (by omega), String.append_empty, refused]
  · refine ⟨((namesakes peers e).take 32).filter (refuses checks peer e), ?_, ?_⟩
    · exact (List.take_sublist 32 _).filter _
    · rw [if_pos hlength]

variable {checks peer e}

lemma Diagnosed.warned {peers : List PeerInfo} {diagnostic : String}
    (h : Diagnosed checks peer e peers diagnostic)
    (hrefused : refused checks peer e peers ≠ []) : diagnostic ≠ "" := by
  intro hempty
  have hsize := congrArg String.toList hempty
  by_cases hlength : (namesakes peers e).length ≤ 32
  · rw [h.complete hlength, String.toList_join] at hsize
    obtain ⟨c, cs, hcs⟩ := List.exists_cons_of_ne_nil hrefused
    rw [hcs] at hsize
    simp [pairLine] at hsize
  · obtain ⟨named, _, hnamed⟩ := h.cut (by omega)
    rw [hnamed, String.toList_append] at hsize
    simp [limitNotice] at hsize

end Diagnostics

section Hosts

lemma mapM_mem {α β : Type*} {f : α → Option β} {xs : List α} {ys : List β} (h : xs.mapM f = some ys) :
    ∀ y ∈ ys, ∃ x ∈ xs, f x = some y := by
  induction xs generalizing ys with
  | nil =>
    obtain rfl := Option.some.inj h
    exact fun y hy => (nomatch hy)
  | cons x xs ih =>
    rw [List.mapM_cons] at h
    obtain ⟨z, hz, h⟩ := Option.bind_eq_some_iff.mp h
    obtain ⟨zs, hzs, h⟩ := Option.bind_eq_some_iff.mp h
    obtain rfl := Option.some.inj h
    intro y hy
    rcases List.mem_cons.mp hy with rfl | hy
    · exact ⟨x, List.mem_cons_self, hz⟩
    · obtain ⟨w, hw, hwy⟩ := ih hzs y hy
      exact ⟨w, List.mem_cons_of_mem _ hw, hwy⟩

lemma convertPeer_endpoints {checks : Checks} {index : Index} {now : ℤ} {p : PeerInfo} {host : RemoteHost}
    (h : convertPeer checks index now p = some host) {v : RemoteEndpoint} (hv : v ∈ host.endpoints) :
    p.metadataReady ∧ ∃ m ∈ p.endpoints, convertEndpoint checks index p m = some v := by
  obtain ⟨es, hes, rfl⟩ := Option.map_eq_some_iff.mp h
  have hmem : v ∈ es := (List.mem_insertionSort _).mp hv
  cases hready : p.metadataReady with
  | false =>
    rw [hready] at hes
    obtain rfl := Option.some.inj hes
    cases hmem
  | true =>
    rw [hready] at hes
    exact ⟨rfl, mapM_mem hes v hmem⟩

lemma endpointLabel_warned {v : RemoteEndpoint} (h : v.diagnostic ≠ "") :
    ∃ text, endpointLabel v = text ++ " [PAIR WARNING]" :=
  ⟨v.kind ++ ": " ++ v.name ++ " [" ++ v.role ++ "]", by rw [endpointLabel, if_neg h]⟩

lemma endpointNode_of_kind {options : GraphOptions} {network : NetworkSnapshot} {n : GraphNode}
    (hn : n ∈ (remotePart {} network options).nodes) (hhost : n.kind ≠ .host) (helement : n.kind ≠ .element) :
    ∃ host ∈ network.hosts, ∃ v ∈ host.endpoints, n = endpointNode network host v := by
  obtain ⟨host, hh, -, hn⟩ := mem_remotePart_cases hn
  rcases hostNodes_cases hn with rfl | ⟨v, hv, hn⟩
  · exact absurd rfl hhost
  · rcases (mem_emplaced.mp hn).2 with rfl | ⟨-, rfl⟩
    · exact absurd rfl helement
    · exact ⟨host, hh, v, hv, rfl⟩

end Hosts

/-- The conversion finds all it looks up, each diagnostic names refused counterparts only, and all of them
without the notice; a node of an endpoint with a refused counterpart carries a warning. -/
theorem pair_warnings (checks : Checks) (now : ℤ) (peers : List PeerInfo) (error : Int32) :
    ∃ snapshot, convert checks now peers error = some snapshot ∧
      (∀ host ∈ snapshot.hosts, ∀ v ∈ host.endpoints, ∃ p ∈ peers, p.host.key = host.id ∧ p.metadataReady ∧
        ∃ m ∈ p.endpoints, convertEndpoint checks (buildIndex peers) p m = some v ∧
          Diagnosed checks p m peers v.diagnostic) ∧
      ∀ options, ∀ n ∈ (remotePart {} snapshot options).nodes, n.kind ≠ .host → n.kind ≠ .element →
        ∃ host ∈ snapshot.hosts, ∃ v ∈ host.endpoints, n = endpointNode snapshot host v ∧
          ∃ p ∈ peers, p.host.key = host.id ∧ ∃ m ∈ p.endpoints,
            convertEndpoint checks (buildIndex peers) p m = some v ∧
            (refused checks p m peers ≠ [] → ∃ text, n.label = text ++ " [PAIR WARNING]") := by
  obtain ⟨snapshot, hconvert, hhosts⟩ := convert_hosts checks now peers error
  have hdiagnosed : ∀ host ∈ snapshot.hosts, ∀ v ∈ host.endpoints, ∃ p ∈ peers, p.host.key = host.id ∧
      p.metadataReady ∧ ∃ m ∈ p.endpoints, convertEndpoint checks (buildIndex peers) p m = some v ∧
        Diagnosed checks p m peers v.diagnostic := by
    intro host hh v hv
    obtain ⟨p, hp, hpeer⟩ := hhosts host hh
    obtain ⟨hready, m, hm, hendpoint⟩ := convertPeer_endpoints hpeer hv
    exact ⟨p, hp, (convertPeer_fields hpeer).1.symm, hready, m, hm, hendpoint, diagnosed checks p m hendpoint⟩
  refine ⟨snapshot, hconvert, hdiagnosed, ?_⟩
  intro options n hn hhost helement
  obtain ⟨host, hh, v, hv, rfl⟩ := endpointNode_of_kind hn hhost helement
  obtain ⟨p, hp, hkey, -, m, hm, hendpoint, hwarned⟩ := hdiagnosed host hh v hv
  refine ⟨host, hh, v, hv, rfl, p, hp, hkey, m, hm, hendpoint, fun hrefused => ?_⟩
  exact endpointLabel_warned (hwarned.warned hrefused)

end KcfTools.Discovery
