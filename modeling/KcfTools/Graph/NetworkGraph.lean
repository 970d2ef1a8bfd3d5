import KcfTools.Model.NetworkInfo
import KcfTools.Graph.GraphModel

/-! The remote part of the graph, and the routes verified by both of their Gateways. -/

namespace KcfTools.Graph

open Std

def endpointText (e : RouteEndpointIdentity) : String :=
  e.hostId ++ ":" ++ e.bootId ++ ":" ++ toString e.pid ++ ":" ++ toString e.startTicks ++ ":" ++
    toString e.registrationId

def matchesEndpoint (host : RemoteHost) (endpoint : RemoteEndpoint) (r : RemoteRoute) : Bool :=
  let publisher := endpoint.role = "PUBLISHER" ∧ r.sending
  let subscriber := endpoint.role = "SUBSCRIBER" ∧ ¬ r.sending
  if endpoint.kind ≠ "T" ∨ ¬ publisher ∧ ¬ subscriber then false
  else
    let own := if publisher then r.source else r.destination
    endpointText own = endpoint.id ∧ own.hostId = host.id ∧ own.bootId = host.bootId ∧
      (if publisher then r.sourceSession else r.destinationSession) = host.session

def freshDiagnostics (h : RemoteHost) (now : UInt64) : Bool :=
  let d := h.diagnostics
  h.state = "ONLINE" ∧ h.compatibility = "COMPATIBLE" ∧ h.metadataReady ∧
    (d.status = .valid ∨ d.status = .truncated) ∧
    d.gatewayHost = h.id ∧ d.gatewayBoot = h.bootId ∧ d.gatewaySession = h.session ∧
    d.observedAtUnixMs ≠ 0 ∧ d.observedAtUnixMs ≤ now ∧ now - d.observedAtUnixMs ≤ 10000

structure RouteKey where
  source : String
  destination : String
  sourceSession : UInt64
  destinationSession : UInt64
  routeId : UInt64
deriving DecidableEq

def RouteKey.tuple (k : RouteKey) : String ×ₗ String ×ₗ UInt64 ×ₗ UInt64 ×ₗ UInt64 :=
  toLex (k.source, toLex (k.destination, toLex (k.sourceSession, toLex (k.destinationSession,
    k.routeId))))

lemma RouteKey.tuple_injective : Function.Injective RouteKey.tuple := by
  rintro ⟨s, d, x, y, i⟩ ⟨s', d', x', y', i'⟩ h
  simpa [RouteKey.tuple] using h

instance : TransCmp (compareOn RouteKey.tuple) := inferInstance

instance : LawfulEqCmp (compareOn RouteKey.tuple) := Tables.compareOn_lawful RouteKey.tuple_injective

def routeKey (r : RemoteRoute) : RouteKey :=
  ⟨endpointText r.source, endpointText r.destination, r.sourceSession, r.destinationSession, r.routeId⟩

structure Evidence where
  send : Option RemoteRoute := none
  receive : Option RemoteRoute := none

abbrev EvidenceMap := ExtTreeMap RouteKey Evidence (compareOn RouteKey.tuple)

def visible (model : GraphModel) (id : String) : Bool :=
  model.nodes.any fun n => n.kind = .topic ∧ n.host ≠ "" ∧ n.id = id

def registered (model : GraphModel) (h : RemoteHost) (r : RemoteRoute) : Bool :=
  h.endpoints.any fun e => matchesEndpoint h e r ∧ visible model ("remote-endpoint:" ++ e.id)

def Evidence.record (r : RemoteRoute) (pair : Evidence) : Evidence :=
  if r.sending then { pair with send := some r } else { pair with receive := some r }

def recordRoute (evidence : EvidenceMap) (r : RemoteRoute) : EvidenceMap :=
  evidence.insert (routeKey r) ((evidence.getD (routeKey r) {}).record r)

def collectRoute (model : GraphModel) (h : RemoteHost) (evidence : EvidenceMap) (r : RemoteRoute) :
    EvidenceMap :=
  if r.state ≠ 1 then evidence
  else if ¬ registered model h r then evidence
  else recordRoute evidence r

def collectHost (model : GraphModel) (now : UInt64) (evidence : EvidenceMap) (h : RemoteHost) :
    EvidenceMap :=
  if ¬ freshDiagnostics h now then evidence
  else h.diagnostics.routes.foldl (collectRoute model h) evidence

def collectEvidence (model : GraphModel) (network : NetworkSnapshot) (now : UInt64) : EvidenceMap :=
  network.hosts.foldl (collectHost model now) ∅

/-- A number with two decimals, a tie going to the even neighbour. -/
def fixed2 (q : ℚ) : String :=
  let x := |q| * 100
  let n := ⌊x⌋.toNat
  let up := 1 / 2 < x - n ∨ x - n = 1 / 2 ∧ n % 2 = 1
  let h := if up then n + 1 else n
  (if q < 0 then "-" else "") ++ toString (h / 100) ++ "." ++ (if h % 100 < 10 then "0" else "") ++
    toString (h % 100)

def rateLine (label : String) (rates : NetworkRouteRates) (value : ℚ) : String :=
  "\n" ++ label ++ ": " ++
    match rates.status with
    | .measuring => "Measuring"
    | .valid => fixed2 value
    | .invalid => "Unavailable"

def routeEdge (send receive : RemoteRoute) : GraphEdge where
  source := "remote-endpoint:" ++ endpointText send.source
  target := "remote-endpoint:" ++ endpointText send.destination
  role := "Verified network route"
  networkRoute := true
  detail := "Verified ACTIVE network route / route_id=" ++ toString send.routeId ++
    rateLine "Network Send Hz" send.rates send.rates.sendHz ++
    rateLine "Network Receive Hz" receive.rates receive.rates.receiveHz ++
    "\nBoth observations within 10 s at graph refresh; measurement intervals are independent."

def Evidence.edge (pair : Evidence) : Option GraphEdge :=
  match pair.send, pair.receive with
  | some send, some receive => some (routeEdge send receive)
  | _, _ => none

def addVerifiedRoutes (model : GraphModel) (network : NetworkSnapshot) (now : UInt64) : GraphModel :=
  { model with
    edges := model.edges ++
      (collectEvidence model network now).toList.filterMap fun entry => entry.2.edge }

def routeState (state : UInt8) : String :=
  match state.toNat with
  | 0 => "WAITING_SUBSCRIBER"
  | 1 => "ACTIVE"
  | 2 => "REJECTED"
  | 3 => "CLOSED"
  | _ => "UNKNOWN"

def diagnosticsRate (r : RemoteRoute) (label : String) (value : ℚ) : String :=
  label ++ ": " ++
    (if r.state ≠ 1 ∨ r.rates.status = .invalid then "Unavailable"
      else if r.rates.status = .measuring then "Measuring"
      else fixed2 value) ++ "\n"

def routeDiagnostics (endpoint : RemoteEndpoint) (count : ℕ) (r : RemoteRoute) : String :=
  "\nRoute " ++ toString count ++ " (route_id=" ++ toString r.routeId ++ ")\nTopic: " ++ r.name ++
  "\nState: " ++ routeState r.state ++ " (" ++ toString r.state ++ ")\nSending: " ++
  (if r.sending then "true" else "false") ++
  "\nSource: " ++ endpointText r.source ++ " / session " ++ toString r.sourceSession ++
  "\nDestination: " ++ endpointText r.destination ++ " / session " ++ toString r.destinationSession ++
  "\nError: " ++ toString r.error ++ " / reason: " ++ toString r.reason ++ "\n" ++
  (if endpoint.role = "PUBLISHER" ∧ r.sending then
    diagnosticsRate r "Network Send Hz" r.rates.sendHz ++
    diagnosticsRate r "Local Skipped/s" r.rates.localSkippedPerSecond
  else
    diagnosticsRate r "Network Receive Hz" r.rates.receiveHz ++
    diagnosticsRate r "Proxy Publish Hz" r.rates.proxyPublishHz ++
    "Proxy Publish is not application subscriber processing rate.\n") ++
  (if r.state = 1 ∧ r.rates.status = .valid then
    "Measured interval (s): " ++ fixed2 r.rates.intervalSeconds ++ "\n" else "") ++
  "Counters: packets_sent=" ++ toString r.packetsSent ++ ", packets_received=" ++
  toString r.packetsReceived ++ ", samples_published=" ++ toString r.samplesPublished ++
  "\nlocal_samples_skipped=" ++ toString r.localSamplesSkipped ++ ", dropped=" ++ toString r.dropped ++
  ", duplicate=" ++ toString r.duplicate ++ ", out_of_order=" ++ toString r.outOfOrder ++
  ", missed_sequence=" ++ toString r.missedSequence ++ ", malformed=" ++ toString r.malformed ++ "\n"

def unavailableText (d : RemoteNetworkDiagnostics) : Option String :=
  match d.status with
  | .unavailable => some "Unavailable: Diagnostics Client API unavailable in this build"
  | .unsupported => some "Unavailable: NETWORK_DIAGNOSTICS capability unsupported / disabled"
  | .incompatible => some "Unavailable: incompatible Gateway"
  | .pending => some "Pending: awaiting first Diagnostics observation"
  | .lost => some "Unavailable: Gateway LOST"
  | .error => some ("Unavailable: Query error " ++ toString d.error)
  | .timeout => some ("Unavailable: Query timeout " ++ toString d.error)
  | .valid => none
  | .truncated => none

def topicDiagnostics (host : RemoteHost) (endpoint : RemoteEndpoint) : String :=
  let d := host.diagnostics
  let title := "\n\nNetwork Topic Diagnostics (manual Refresh)\n"
  if host.state ≠ "ONLINE" then title ++ "Unavailable: Gateway " ++ host.state
  else if host.compatibility ≠ "COMPATIBLE" then title ++ "Unavailable: incompatible Gateway"
  else match unavailableText d with
  | some text => title ++ text
  | none =>
    if d.gatewayHost ≠ host.id ∨ d.gatewayBoot ≠ host.bootId ∨ d.gatewaySession ≠ host.session then
      title ++ "Unavailable: stale Gateway identity/session"
    else
      let incomplete := d.truncated ∨ d.status = .truncated
      let routes := d.routes.filter (matchesEndpoint host endpoint)
      title ++ "Gateway: " ++ d.gatewayHost ++ " / " ++ d.gatewayBoot ++ " / session " ++
        toString d.gatewaySession ++ "\nObservation time (Unix ms): " ++ toString d.observedAtUnixMs ++
        "\nRoutes included/total: " ++ toString d.routes.length ++ "/" ++ toString d.totalRoutes ++ "\n" ++
        (if incomplete then "Truncated snapshot: omitted routes are unknown, not absent.\n" else "") ++
        String.join ((routes.zipIdx 1).map fun r => routeDiagnostics endpoint r.2 r.1) ++
        if routes = [] then
          if incomplete then "No matching route in partial snapshot; absence is unknown."
          else "No matching diagnostics route for this endpoint."
        else ""

def description (network : NetworkSnapshot) (host : RemoteHost) : String :=
  "REMOTE Host " ++ host.label ++ "\nHost: " ++ host.id ++ "\nBoot: " ++ host.bootId ++
  "\nAddress: " ++ host.address ++ "\n" ++ host.state ++ "\nCompatibility: " ++ host.compatibility ++
  "\nFramework: " ++ host.frameworkVersion ++ "\nNetwork: " ++ host.networkVersion ++
  "\nCapabilities: " ++ host.capabilities ++ "\nSession: " ++ toString host.session ++
  "\nMetadata revision: " ++ toString host.revision ++ "\nMetadata ready: " ++
  (if host.metadataReady then "yes" else "no") ++
  "\nLast announce age (snapshot ms): " ++ toString host.ageMs ++ "\n" ++ network.routeStatus

def heading (network : NetworkSnapshot) (host : RemoteHost) : GraphNode where
  id := "remote-host:" ++ host.id
  label := host.label ++ " " ++ host.state ++ " " ++
    (if host.compatibility = "COMPATIBLE" then host.compatibility
      else "INCOMPATIBLE: " ++ host.compatibility) ++
    " FW " ++ host.frameworkVersion ++ " Net " ++ host.networkVersion
  kind := .host
  host := host.id
  detail := description network host
  lost := host.state = "LOST"

def remoteGroup (e : RemoteEndpoint) : String := "remote-app:" ++ e.applicationId

def runtimeNode (network : NetworkSnapshot) (host : RemoteHost) (e : RemoteEndpoint) : GraphNode where
  id := "remote-runtime:" ++ e.runtimeId
  label := e.element
  group := remoteGroup e
  kind := .element
  host := host.id
  lost := host.state = "LOST"
  detail := description network host ++ "\nApplication: " ++ e.application ++
    "\nApplication identity: " ++ e.applicationId ++ "\nElement: " ++ e.element ++
    "\nRuntime: " ++ e.runtimeId ++ "\nRuntime liveness is not announced separately"

def endpointLabel (e : RemoteEndpoint) : String :=
  e.kind ++ ": " ++ e.name ++ " [" ++ e.role ++ "]" ++ if e.diagnostic = "" then "" else " [PAIR WARNING]"

def remoteKind (e : RemoteEndpoint) : GraphKind :=
  if e.kind = "T" then .topic
  else if e.kind = "P" then .parameter
  else if e.kind = "S" then .service
  else .action

def endpointNode (network : NetworkSnapshot) (host : RemoteHost) (e : RemoteEndpoint) : GraphNode where
  id := "remote-endpoint:" ++ e.id
  label := endpointLabel e
  group := remoteGroup e
  kind := remoteKind e
  host := host.id
  lost := host.state = "LOST"
  detail := description network host ++ "\nApplication: " ++ e.application ++ "\nElement: " ++ e.element ++
    "\nEndpoint identity: " ++ e.id ++ "\n" ++ endpointLabel e ++ "\nScope: " ++ e.scope ++ "\n" ++ e.type ++
    "\nPair compatibility diagnostics (not routes):\n" ++
    (if e.diagnostic = "" then "Not assessed / no incompatible pair observed" else e.diagnostic) ++
    "\nProxy status: not exposed by Discovery; publisher role alone does not identify a proxy" ++
    if e.kind = "T" then topicDiagnostics host e else ""

section Nodes

variable {network : NetworkSnapshot} {host : RemoteHost} {e : RemoteEndpoint}

lemma heading_id : (heading network host).id = "remote-host:" ++ host.id := rfl

lemma runtimeNode_id : (runtimeNode network host e).id = "remote-runtime:" ++ e.runtimeId := rfl

lemma endpointNode_id : (endpointNode network host e).id = "remote-endpoint:" ++ e.id := rfl

lemma endpointNode_kind : (endpointNode network host e).kind = remoteKind e := rfl

lemma endpointNode_host : (endpointNode network host e).host = host.id := rfl

end Nodes

def groupShown (options : GraphOptions) (e : RemoteEndpoint) : Bool :=
  options.group = "" ∨ options.group = remoteGroup e

def kindShown (options : GraphOptions) (e : RemoteEndpoint) : Bool :=
  ¬ (e.kind = "T" ∧ ¬ options.topics ∨ e.kind = "P" ∧ ¬ options.parameters ∨
    e.kind = "S" ∧ ¬ options.services ∨ e.kind = "A" ∧ ¬ options.actions)

/-- Ownership within one Host; no route between Hosts is inferred. -/
def ownershipEdge (e : RemoteEndpoint) : Option GraphEdge :=
  let runtime := "remote-runtime:" ++ e.runtimeId
  let endpoint := "remote-endpoint:" ++ e.id
  if e.role = "PUBLISHER" ∨ e.role = "OWNER" ∨ e.role = "SERVER" then
    some { source := runtime, target := endpoint, role := e.role ++ " metadata ownership" }
  else if e.kind = "T" ∨ e.kind = "P" then
    some { source := endpoint, target := runtime, role := e.role ++ " metadata ownership" }
  else none

structure HostGraph where
  nodes : Nodes := ∅
  groups : Groups := ∅
  edges : List GraphEdge

def addRemoteEndpoint (options : GraphOptions) (network : NetworkSnapshot) (host : RemoteHost)
    (s : HostGraph) (e : RemoteEndpoint) : HostGraph :=
  let groups := s.groups.insert (remoteGroup e) (e.application ++ " [" ++ e.applicationId ++ "]")
  if ¬ groupShown options e then { s with groups := groups }
  else
    let runtime := runtimeNode network host e
    let nodes := s.nodes.insertIfNew runtime.id runtime
    if ¬ kindShown options e then ⟨nodes, groups, s.edges⟩
    else
      let endpoint := endpointNode network host e
      ⟨nodes.insertIfNew endpoint.id endpoint, groups, s.edges ++ (ownershipEdge e).toList⟩

def addHost (options : GraphOptions) (network : NetworkSnapshot) (model : GraphModel)
    (host : RemoteHost) : GraphModel :=
  if options.host ≠ "" ∧ options.host ≠ host.id then model
  else
    let s := host.endpoints.foldl (addRemoteEndpoint options network host) { edges := model.edges }
    { groups := model.groups ++ s.groups.toList.map fun g => ⟨g.1, g.2, host.id⟩
      nodes := model.nodes ++
        (if options.group = "" ∨ s.groups.contains options.group then [heading network host] else []) ++
        s.nodes.toList.map Prod.snd
      edges := s.edges }

def localPart (model : GraphModel) (options : GraphOptions) : GraphModel :=
  if ¬ options.shownLocal ∨ options.host ≠ "" ∧ options.host ≠ "local" then {} else model

def remotePart (model : GraphModel) (network : NetworkSnapshot) (options : GraphOptions) : GraphModel :=
  network.hosts.foldl (addHost options network) (localPart model options)

def addRemoteGraph (model : GraphModel) (network : NetworkSnapshot) (options : GraphOptions)
    (now : UInt64) : GraphModel :=
  if ¬ options.remote then localPart model options
  else addVerifiedRoutes (remotePart model network options) network now

end KcfTools.Graph
