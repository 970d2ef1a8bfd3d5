import KcfTools.Model.LocalInfo
import KcfTools.Lib.Tables

/-! The graph of the local discovery. -/

namespace KcfTools.Graph

open Std

inductive GraphKind
  | element | topic | parameter | service | action | host
deriving DecidableEq

def GraphKind.rank : GraphKind → ℕ
  | .element => 0
  | .topic => 1
  | .parameter => 2
  | .service => 3
  | .action => 4
  | .host => 5

structure GraphGroup where
  id : String
  label : String
  host : String := ""
deriving DecidableEq

structure GraphEndpoint where
  identity : EndpointIdentity
  role : String
deriving DecidableEq

/-- A nonempty Host means a remote node. -/
structure GraphNode where
  id : String := ""
  label : String := ""
  group : String := ""
  kind : GraphKind := .element
  runtime : RuntimeIdentity := {}
  endpoints : List GraphEndpoint := []
  host : String := ""
  detail : String := ""
  lost : Bool := false
deriving DecidableEq

structure GraphEdge where
  source : String
  target : String
  role : String
  endpoint : EndpointIdentity := {}
  networkRoute : Bool := false
  detail : String := ""
deriving DecidableEq

structure GraphOptions where
  topics : Bool := true
  parameters : Bool := false
  services : Bool := false
  group : String := ""
  actions : Bool := false
  shownLocal : Bool := true
  remote : Bool := true
  host : String := ""
deriving DecidableEq

structure GraphModel where
  groups : List GraphGroup := []
  nodes : List GraphNode := []
  edges : List GraphEdge := []
deriving DecidableEq

abbrev Groups := ExtTreeMap String String
abbrev Nodes := ExtTreeMap String GraphNode

def identity (id : RuntimeIdentity) : String := toString id.pid ++ ":" ++ toString id.processStartTicks

def endpointKey (id : EndpointIdentity) : Int32 ×ₗ UInt64 ×ₗ UInt64 :=
  toLex (id.runtime.pid, toLex (id.runtime.processStartTicks, id.registrationId))

def sortOn {α β : Type*} [Ord β] (f : α → β) (xs : List α) : List α :=
  xs.insertionSort fun a b => (compare (f a) (f b)).isLE

def applicationGroups (applications : List ApplicationInfo) : Groups :=
  applications.foldl (fun groups app =>
    groups.insert (identity app.supervisor) (app.name ++ " [" ++ identity app.supervisor ++ "]")) ∅

def elementGroup (element : ElementInfo) : String :=
  if 0 < element.supervisor.pid then identity element.supervisor else "standalone"

def elementNode (element : ElementInfo) : GraphNode where
  id := "element:" ++ identity element.identity
  label := element.name
  group := elementGroup element
  runtime := element.identity

def groupLabel (element : ElementInfo) : String :=
  if elementGroup element = "standalone" then "Standalone"
  else (if element.applicationName = "" then "Supervisor" else element.applicationName) ++
    " [" ++ elementGroup element ++ "]"

def addElement (options : GraphOptions) (s : Groups × Nodes) (element : ElementInfo) : Groups × Nodes :=
  let group := elementGroup element
  let groups := s.1.insertIfNew group (groupLabel element)
  if options.group ≠ "" ∧ options.group ≠ group then (groups, s.2)
  else (groups, s.2.insert (elementNode element).id (elementNode element))

structure Registration where
  kind : GraphKind
  name : String
  identity : EndpointIdentity
  role : String
  outgoing : Bool
deriving DecidableEq

/-- Topic and parameter names identify logical channels; service servers stay individual. -/
def Registration.nodeId (r : Registration) : String :=
  toString r.kind.rank ++ ":" ++ r.name ++
    if r.kind = .service then ":" ++ Graph.identity r.identity.runtime ++ ":" ++
      toString r.identity.registrationId else ""

def Registration.edge (r : Registration) : GraphEdge :=
  let element := "element:" ++ Graph.identity r.identity.runtime
  { source := if r.outgoing then element else r.nodeId
    target := if r.outgoing then r.nodeId else element
    role := r.role
    endpoint := r.identity }

def add (options : GraphOptions) (s : Nodes × List GraphEdge) (r : Registration) :
    Nodes × List GraphEdge :=
  let owner := s.1[("element:" ++ identity r.identity.runtime)]?
  if options.group ≠ "" ∧ owner = none then s
  else
    let node := s.1.getD r.nodeId { id := r.nodeId, label := r.name, kind := r.kind }
    if node.endpoints.any fun e => e.identity = r.identity ∧ e.role = r.role then s
    else
      (s.1.insert r.nodeId { node with endpoints := node.endpoints ++ [⟨r.identity, r.role⟩] },
        if owner = none then s.2 else s.2 ++ [r.edge])

def topicRegistrations (topics : List TopicInfo) : List Registration :=
  (topics.filter fun t => t.role = "PUBLISHER" ∨ t.role = "SUBSCRIBER").map fun t =>
    ⟨.topic, t.name, t.identity, t.role, t.role = "PUBLISHER"⟩

def parameterRegistrations (parameters : List ParameterInfo) : List Registration :=
  (parameters.filter fun p => p.role = "OWNER" ∨ p.role = "CLIENT").map fun p =>
    ⟨.parameter, p.name, p.identity, p.role, p.role = "OWNER"⟩

def serviceRegistrations (services : List ServiceInfo) : List Registration :=
  services.map fun s => ⟨.service, s.name, s.identity, "SERVER", true⟩

def sortEndpoints (node : GraphNode) : GraphNode :=
  { node with endpoints := sortOn (fun e => toLex (endpointKey e.identity, e.role)) node.endpoints }

def nodeOrder (n : GraphNode) : ℕ ×ₗ String ×ₗ String ×ₗ String :=
  toLex (n.kind.rank, toLex (n.group, toLex (n.label, n.id)))

def edgeOrder (e : GraphEdge) : String ×ₗ String ×ₗ String ×ₗ Int32 ×ₗ UInt64 ×ₗ UInt64 :=
  toLex (e.source, toLex (e.target, toLex (e.role, endpointKey e.endpoint)))

def buildGraph (applications : List ApplicationInfo) (elements : List ElementInfo)
    (topics : List TopicInfo) (parameters : List ParameterInfo) (services : List ServiceInfo)
    (options : GraphOptions) : GraphModel :=
  let (groups, nodes) := elements.foldl (addElement options) (applicationGroups applications, ∅)
  let registrations := (if options.topics then topicRegistrations topics else []) ++
    (if options.parameters then parameterRegistrations parameters else []) ++
      (if options.services then serviceRegistrations services else [])
  let (nodes, edges) := registrations.foldl (add options) (nodes, [])
  { groups := groups.toList.map fun g => ⟨g.1, g.2, ""⟩
    nodes := sortOn nodeOrder (nodes.toList.map fun n => sortEndpoints n.2)
    edges := sortOn edgeOrder edges }

/-- Every node is local and no edge is a network route. -/
def LocalOnly (nodes : Nodes) (edges : List GraphEdge) : Prop :=
  (∀ (k : String) (n : GraphNode), nodes[k]? = some n → n.host = "") ∧
    ∀ e ∈ edges, e.networkRoute = false

lemma LocalOnly.insert {nodes : Nodes} {edges : List GraphEdge} (h : LocalOnly nodes edges) (k : String)
    {n : GraphNode} (hn : n.host = "") : LocalOnly (nodes.insert k n) edges := by
  refine ⟨fun k' n' hk => ?_, h.2⟩
  rw [Tables.getElem?_insert] at hk
  split_ifs at hk with he
  · exact Option.some.inj hk ▸ hn
  · exact h.1 k' n' hk

lemma LocalOnly.addElement {s : Groups × Nodes} (h : LocalOnly s.2 []) (options : GraphOptions)
    (element : ElementInfo) : LocalOnly (addElement options s element).2 [] := by
  unfold Graph.addElement
  simp only
  split_ifs
  · exact h
  · exact h.insert (elementNode element).id (n := elementNode element) rfl

lemma LocalOnly.add {s : Nodes × List GraphEdge} (h : LocalOnly s.1 s.2) (options : GraphOptions)
    (r : Registration) : LocalOnly (add options s r).1 (add options s r).2 := by
  have hnode : (s.1.getD r.nodeId { id := r.nodeId, label := r.name, kind := r.kind }).host = "" := by
    rw [ExtTreeMap.getD_eq_getD_getElem?]
    cases hk : s.1[r.nodeId]? with
    | none => rfl
    | some n => exact h.1 _ n hk
  have hedges : LocalOnly s.1 (s.2 ++ [r.edge]) := by
    refine ⟨h.1, fun e he => ?_⟩
    rcases List.mem_append.mp he with he | he
    · exact h.2 e he
    · rw [List.mem_singleton.mp he]
      rfl
  unfold Graph.add
  simp only
  split_ifs
  · exact h
  · exact h
  · exact h.insert _ hnode
  · exact hedges.insert _ hnode

lemma buildGraph_localOnly (applications : List ApplicationInfo) (elements : List ElementInfo)
    (topics : List TopicInfo) (parameters : List ParameterInfo) (services : List ServiceInfo)
    (options : GraphOptions) :
    let model := buildGraph applications elements topics parameters services options
    (∀ n ∈ model.nodes, n.host = "") ∧ ∀ e ∈ model.edges, e.networkRoute = false := by
  have helements : ∀ (l : List ElementInfo) (s : Groups × Nodes), LocalOnly s.2 [] →
      LocalOnly (l.foldl (addElement options) s).2 [] := by
    intro l
    induction l with
    | nil => exact fun _ h => h
    | cons e l ih => exact fun s h => ih _ (h.addElement options e)
  have hadd : ∀ (l : List Registration) (s : Nodes × List GraphEdge), LocalOnly s.1 s.2 →
      LocalOnly (l.foldl (add options) s).1 (l.foldl (add options) s).2 := by
    intro l
    induction l with
    | nil => exact fun _ h => h
    | cons r l ih => exact fun s h => ih _ (h.add options r)
  have hlocal := hadd ((if options.topics then topicRegistrations topics else []) ++
    (if options.parameters then parameterRegistrations parameters else []) ++
      (if options.services then serviceRegistrations services else []))
    ((elements.foldl (addElement options) (applicationGroups applications, ∅)).2, [])
    (helements elements _ ⟨by simp, by simp⟩)
  refine ⟨fun n hn => ?_, fun e he => ?_⟩
  · simp only [buildGraph, sortOn, List.mem_insertionSort, List.mem_map] at hn
    obtain ⟨⟨k, m⟩, hm, rfl⟩ := hn
    exact hlocal.1 k m (ExtTreeMap.mem_toList_iff_getElem?_eq_some.mp hm)
  · simp only [buildGraph, sortOn, List.mem_insertionSort] at he
    exact hlocal.2 e he

end KcfTools.Graph
