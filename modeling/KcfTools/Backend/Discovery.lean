import KcfTools.Model.NetworkInfo
import KcfTools.Backend.Identity
import KcfTools.Lib.Tables

/-! Discovered peers and their conversion to the display snapshot. -/

namespace KcfTools.Discovery

open Std

structure TypeIdentity where
  typeId : UInt64 := 0
  schemaId : UInt64 := 0
  encodingId : UInt32 := 0
  payloadSize : UInt32 := 0
deriving DecidableEq

inductive EndpointKind
  | topic | parameter | service | action
deriving DecidableEq

inductive EndpointRole
  | provider | consumer
deriving DecidableEq

inductive NetworkScope
  | localOnly | remote
deriving DecidableEq

inductive PeerState
  | online | lost
deriving DecidableEq

structure NetworkEndpointMetadata where
  identity : RemoteEndpointIdentity := {}
  application : RemoteRuntimeIdentity := {}
  applicationName : String := ""
  elementName : String := ""
  hostName : String := ""
  name : String := ""
  kind : EndpointKind := .topic
  role : EndpointRole := .provider
  scope : NetworkScope := .remote
  valueType : TypeIdentity := {}
  requestType : TypeIdentity := {}
  responseType : TypeIdentity := {}
  feedbackType : TypeIdentity := {}
deriving DecidableEq

structure FrameworkVersion where
  major : UInt16 := 0
  minor : UInt16 := 0
  patch : UInt16 := 0
deriving DecidableEq

structure NetworkVersion where
  major : UInt16 := 0
  minor : UInt16 := 0
deriving DecidableEq

structure PeerProfile where
  framework : FrameworkVersion := {}
  network : NetworkVersion := {}
  capabilities : UInt64 := 0
deriving DecidableEq

/-- A compatibility verdict of the framework: the name of its reason, and `Compatible()`. -/
structure CompatibilityResult where
  reasonName : String := "COMPATIBLE"
  compatible : Bool := true
deriving DecidableEq

structure PeerInfo where
  host : HostIdentity := {}
  bootId : HostIdentity := {}
  address : String := ""
  port : UInt16 := 0
  state : PeerState := .online
  sessionId : UInt64 := 0
  metadataRevision : UInt64 := 0
  metadataReady : Bool := false
  lastSeen : ℤ := 0
  profile : PeerProfile := {}
  compatibility : CompatibilityResult := {}
  endpoints : List NetworkEndpointMetadata := []
deriving DecidableEq

/-- The checks of the network library, for one fixed discovery configuration. -/
structure Checks where
  checkPeerCompatibility : PeerProfile → CompatibilityResult
  checkEndpointCompatibility :
    PeerProfile → PeerProfile → NetworkEndpointMetadata → NetworkEndpointMetadata → CompatibilityResult

def typeText (t : TypeIdentity) : String :=
  "type=" ++ toString t.typeId ++ " schema=" ++ toString t.schemaId ++
    " encoding=" ++ toString t.encodingId ++ " bytes=" ++ toString t.payloadSize

def capabilityNames : List String :=
  ["DISCOVERY", "REMOTE_PARAMETER", "REMOTE_SERVICE", "REMOTE_ACTION", "REMOTE_TOPIC",
    "TARGET_ENDPOINT", "TARGET_HOST", "TARGET_APPLICATION", "TARGET_GROUP", "TARGET_ALL",
    "NETWORK_DIAGNOSTICS", "TYPE_DESCRIPTOR_QUERY", "REMOTE_TOPIC_RECEIVER",
    "TOPIC_ENDPOINT_SUBSCRIPTION"]

def capabilitiesText (bits : UInt64) : String :=
  let set := capabilityNames.zipIdx.filter fun n => bits.toNat.testBit n.2
  ", ".intercalate (set.map Prod.fst) ++ " (raw=" ++ toString bits ++ ")"

abbrev Candidate := PeerInfo × NetworkEndpointMetadata

def EndpointKind.rank : EndpointKind → ℕ
  | .topic => 0
  | .parameter => 1
  | .service => 2
  | .action => 3

abbrev IndexKey := EndpointKind × String

def indexOrder (k : IndexKey) : ℕ ×ₗ String := toLex (k.1.rank, k.2)

lemma indexOrder_injective : Function.Injective indexOrder := by
  rintro ⟨k, n⟩ ⟨k', n'⟩ h
  cases k <;> cases k' <;> simp_all [indexOrder, EndpointKind.rank]

instance : LawfulEqCmp (compareOn indexOrder) := Tables.compareOn_lawful indexOrder_injective

abbrev Index := ExtTreeMap IndexKey (List Candidate) (compareOn indexOrder)

def Index.push (index : Index) (peer : PeerInfo) (e : NetworkEndpointMetadata) : Index :=
  index.insert (e.kind, e.name) (index.getD (e.kind, e.name) [] ++ [(peer, e)])

def buildIndex (peers : List PeerInfo) : Index :=
  (peers.filter (·.metadataReady)).foldl (fun index peer =>
    peer.endpoints.foldl (fun index e => index.push peer e) index) ∅

def kindText : EndpointKind → String
  | .topic => "T"
  | .parameter => "P"
  | .service => "S"
  | .action => "A"

def roleText (kind : String) (role : EndpointRole) : String :=
  let provider := role = .provider
  if kind = "T" then if provider then "PUBLISHER" else "SUBSCRIBER"
  else if kind = "P" then if provider then "OWNER" else "CLIENT"
  else if provider then "SERVER" else "CONSUMER"

/-- Pairwise diagnostics; at most 32 candidates of the same kind and name are examined. -/
def pairDiagnostics (checks : Checks) (peer : PeerInfo) (e : NetworkEndpointMetadata) :
    ℕ → List Candidate → String
  | _, [] => ""
  | examined, (other, candidate) :: rest =>
    if 32 < examined + 1 then "Pair comparison limit reached (32 candidates)\n"
    else if other.host = peer.host ∨ candidate.role = e.role then
      pairDiagnostics checks peer e (examined + 1) rest
    else
      let check := checks.checkEndpointCompatibility peer.profile other.profile e candidate
      (if check.compatible then "" else candidate.identity.key ++ ": " ++ check.reasonName ++ "\n") ++
        pairDiagnostics checks peer e (examined + 1) rest

def wire (t : TypeIdentity) : RemoteTypeIdentity := ⟨t.typeId, t.schemaId, t.encodingId, t.payloadSize⟩

def convertIdentity (id : RemoteEndpointIdentity) : RouteEndpointIdentity :=
  ⟨id.runtime.host.key, id.runtime.bootId.key, id.runtime.pid, id.runtime.processStartTicks,
    id.registrationId⟩

/-- `none` is the `std::out_of_range` of a failed index lookup. -/
def convertEndpoint (checks : Checks) (index : Index) (peer : PeerInfo) (e : NetworkEndpointMetadata) :
    Option RemoteEndpoint :=
  let kind := kindText e.kind
  (index[(e.kind, e.name)]?).map fun candidates =>
    { identity := convertIdentity e.identity
      session := peer.sessionId
      valueType := wire e.valueType
      requestType := wire e.requestType
      responseType := wire e.responseType
      feedbackType := wire e.feedbackType
      id := e.identity.key
      runtimeId := e.identity.runtime.key
      applicationId := if e.application.pid ≠ 0 then e.application.key
        else peer.host.key ++ ":" ++ peer.bootId.key ++ ":standalone"
      application := if e.applicationName = "" then "Standalone" else e.applicationName
      element := e.elementName
      name := e.name
      kind := kind
      role := roleText kind e.role
      scope := if e.scope = .remote then "REMOTE" else "LOCAL_ONLY"
      type := if kind = "T" ∨ kind = "P" then typeText e.valueType
        else "request/goal: " ++ typeText e.requestType ++ "\nresponse/result: " ++
          typeText e.responseType ++ "\nfeedback: " ++ typeText e.feedbackType
      diagnostic := pairDiagnostics checks peer e 0 candidates }

/-- The label is the last non-empty Host name among the endpoints, else the Host key. -/
def hostLabel (peer : PeerInfo) : String :=
  peer.endpoints.foldl (fun label e => if e.hostName = "" then label else e.hostName) peer.host.key

def convertPeer (checks : Checks) (index : Index) (now : ℤ) (peer : PeerInfo) : Option RemoteHost :=
  let endpoints := if peer.metadataReady then peer.endpoints.mapM (convertEndpoint checks index peer)
    else some []
  endpoints.map fun endpoints =>
    { id := peer.host.key
      bootId := peer.bootId.key
      label := if peer.metadataReady then hostLabel peer else peer.host.key
      address := peer.address ++ ":" ++ toString peer.port
      state := if peer.state = .online then "ONLINE" else "LOST"
      session := peer.sessionId
      revision := peer.metadataRevision
      metadataReady := peer.metadataReady
      ageMs := UInt64.ofInt ((now - peer.lastSeen).tdiv 1000000)
      frameworkVersion := toString peer.profile.framework.major ++ "." ++
        toString peer.profile.framework.minor ++ "." ++ toString peer.profile.framework.patch
      networkVersion := toString peer.profile.network.major ++ "." ++ toString peer.profile.network.minor
      compatibility := peer.compatibility.reasonName
      capabilities := capabilitiesText peer.profile.capabilities
      endpoints := endpoints.insertionSort fun a b => a.id ≤ b.id }

def convert (checks : Checks) (now : ℤ) (peers : List PeerInfo) (error : Int32) :
    Option NetworkSnapshot :=
  if error ≠ 0 then
    some { status := "Discovery error: " ++ toString error }
  else
    (peers.mapM (convertPeer checks (buildIndex peers) now)).map fun hosts =>
      { status := "Network discovery running (manual Refresh)"
        hosts := hosts.insertionSort fun a b => a.id ≤ b.id }

lemma mapM_some {α β : Type*} {f : α → Option β} {xs : List α} (h : ∀ x ∈ xs, ∃ y, f x = some y) :
    ∃ ys, xs.mapM f = some ys ∧ ∀ y ∈ ys, ∃ x ∈ xs, f x = some y := by
  induction xs with
  | nil => exact ⟨[], rfl, by simp⟩
  | cons x xs ih =>
    obtain ⟨y, hy⟩ := h x (by simp)
    obtain ⟨ys, hys, hall⟩ := ih fun z hz => h z (by simp [hz])
    refine ⟨y :: ys, by simp [hy, hys], fun z hz => ?_⟩
    rcases List.mem_cons.mp hz with rfl | hz
    · exact ⟨x, by simp, hy⟩
    · obtain ⟨w, hw, hwz⟩ := hall z hz
      exact ⟨w, by simp [hw], hwz⟩

section Index

variable {index : Index} {peers : List PeerInfo}

lemma Index.push_keeps {k : IndexKey} (h : k ∈ index) (peer : PeerInfo) (e : NetworkEndpointMetadata) :
    k ∈ index.push peer e := by
  simp [Index.push, h]

lemma Index.mem_push (peer : PeerInfo) (e : NetworkEndpointMetadata) :
    (e.kind, e.name) ∈ index.push peer e := by
  simp [Index.push]

lemma Index.pushAll_keeps {k : IndexKey} (peer : PeerInfo) (es : List NetworkEndpointMetadata)
    (h : k ∈ index) : k ∈ es.foldl (fun index e => index.push peer e) index := by
  induction es generalizing index with
  | nil => exact h
  | cons e es ih => exact ih (Index.push_keeps h peer e)

lemma Index.mem_pushAll (peer : PeerInfo) {es : List NetworkEndpointMetadata}
    {e : NetworkEndpointMetadata} (he : e ∈ es) :
    (e.kind, e.name) ∈ es.foldl (fun index e => index.push peer e) index := by
  induction es generalizing index with
  | nil => cases he
  | cons d es ih =>
    rcases List.mem_cons.mp he with rfl | he
    · exact Index.pushAll_keeps peer es (Index.mem_push peer e)
    · exact ih he

lemma mem_buildIndex {peer : PeerInfo} (hp : peer ∈ peers) (hr : peer.metadataReady = true)
    {e : NetworkEndpointMetadata} (he : e ∈ peer.endpoints) : (e.kind, e.name) ∈ buildIndex peers := by
  have hkeep : ∀ (l : List PeerInfo) (index : Index), (e.kind, e.name) ∈ index →
      (e.kind, e.name) ∈ l.foldl (fun index peer =>
        peer.endpoints.foldl (fun index e => index.push peer e) index) index := by
    intro l
    induction l with
    | nil => exact fun _ h => h
    | cons q l ih => exact fun index h => ih _ (Index.pushAll_keeps q q.endpoints h)
  obtain ⟨as, bs, hl⟩ := List.append_of_mem (List.mem_filter.mpr ⟨hp, hr⟩)
  rw [buildIndex, hl, List.foldl_append, List.foldl_cons]
  exact hkeep bs _ (Index.mem_pushAll peer he)

end Index

/-- `Convert` finds every index entry it looks up, and each Host it shows is one of the peers. -/
lemma convert_hosts (checks : Checks) (now : ℤ) (peers : List PeerInfo) (error : Int32) :
    ∃ snapshot, convert checks now peers error = some snapshot ∧ ∀ host ∈ snapshot.hosts,
      ∃ p ∈ peers, convertPeer checks (buildIndex peers) now p = some host := by
  by_cases he : error = 0
  · have hpeer : ∀ p ∈ peers, ∃ host, convertPeer checks (buildIndex peers) now p = some host := by
      intro p hp
      cases hr : p.metadataReady with
      | false => simp [convertPeer, hr]
      | true =>
        have hfound : ∀ e ∈ p.endpoints, ∃ x, convertEndpoint checks (buildIndex peers) p e = some x := by
          intro e hm
          obtain ⟨c, hc⟩ := ExtTreeMap.mem_iff_isSome_getElem?.mp (mem_buildIndex hp hr hm) |>
            Option.isSome_iff_exists.mp
          simp [convertEndpoint, hc]
        obtain ⟨es, hes, _⟩ := mapM_some hfound
        simp [convertPeer, hr, hes]
    obtain ⟨hosts, hh, hall⟩ := mapM_some hpeer
    refine ⟨_, by simp only [convert, he, ne_eq, not_true_eq_false, if_false, hh]; rfl, fun host hm => ?_⟩
    exact hall host (by simpa using hm)
  · exact ⟨{ status := "Discovery error: " ++ toString error }, by rw [convert, if_pos he], by simp⟩

lemma convertPeer_fields {checks : Checks} {index : Index} {now : ℤ} {p : PeerInfo} {host : RemoteHost}
    (h : convertPeer checks index now p = some host) :
    host.id = p.host.key ∧ host.bootId = p.bootId.key ∧ host.session = p.sessionId ∧
      host.state = if p.state = .online then "ONLINE" else "LOST" := by
  obtain ⟨es, _, rfl⟩ := Option.map_eq_some_iff.mp h
  exact ⟨rfl, rfl, rfl, rfl⟩

end KcfTools.Discovery
