import KcfTools.Backend.Discovery
import KcfTools.Backend.NetworkRates

/-! The worker loop of the network observer: one round reads the peers, queries at most one Gateway
and publishes a snapshot. -/

namespace KcfTools.NetworkObserver

open Std Discovery NetworkRates

structure TopicRouteSnapshot where
  source : RemoteEndpointIdentity := {}
  destination : RemoteEndpointIdentity := {}
  sourceSession : UInt64 := 0
  destinationSession : UInt64 := 0
  routeId : UInt64 := 0
  name : String := ""
  state : UInt8 := 0
  reason : UInt8 := 0
  proxyRecovery : UInt8 := 0
  sending : Bool := false
  error : Int32 := 0
  packetsSent : UInt64 := 0
  packetsReceived : UInt64 := 0
  samplesPublished : UInt64 := 0
  dropped : UInt64 := 0
  duplicate : UInt64 := 0
  outOfOrder : UInt64 := 0
  missedSequence : UInt64 := 0
  malformed : UInt64 := 0
  localSamplesSkipped : UInt64 := 0
deriving DecidableEq

structure NetworkDiagnosticsSnapshot where
  gatewayHost : HostIdentity := {}
  gatewayBootId : HostIdentity := {}
  gatewaySession : UInt64 := 0
  totalRoutes : UInt32 := 0
  truncated : Bool := false
  routes : List TopicRouteSnapshot := []
deriving DecidableEq

structure CachedDiagnostics where
  value : RemoteNetworkDiagnostics := {}
  next : TimePoint := 0
  rates : NetworkRateTracker := {}

abbrev Cache := ExtTreeMap String CachedDiagnostics

def convertRoute (r : TopicRouteSnapshot) : RemoteRoute where
  source := convertIdentity r.source
  destination := convertIdentity r.destination
  sourceSession := r.sourceSession
  destinationSession := r.destinationSession
  routeId := r.routeId
  name := r.name
  state := r.state
  reason := r.reason
  proxyRecovery := r.proxyRecovery
  sending := r.sending
  error := r.error
  packetsSent := r.packetsSent
  packetsReceived := r.packetsReceived
  samplesPublished := r.samplesPublished
  dropped := r.dropped
  duplicate := r.duplicate
  outOfOrder := r.outOfOrder
  missedSequence := r.missedSequence
  malformed := r.malformed
  localSamplesSkipped := r.localSamplesSkipped

def convertDiagnostics (snapshot : NetworkDiagnosticsSnapshot) (unixMs : UInt64) :
    RemoteNetworkDiagnostics where
  status := if snapshot.truncated then .truncated else .valid
  gatewayHost := snapshot.gatewayHost.key
  gatewayBoot := snapshot.gatewayBootId.key
  gatewaySession := snapshot.gatewaySession
  observedAtUnixMs := unixMs
  totalRoutes := snapshot.totalRoutes
  truncated := snapshot.truncated
  routes := snapshot.routes.map convertRoute

def networkDiagnosticsBit : ℕ := 10

def eligibility (checks : Checks) (peer : PeerInfo) : DiagnosticsState :=
  if peer.state ≠ .online then .lost
  else if ¬ (checks.checkPeerCompatibility peer.profile).compatible then .incompatible
  else if ¬ peer.profile.capabilities.toNat.testBit networkDiagnosticsBit then .unsupported
  else .pending

def resetEntry (checks : Checks) (peer : PeerInfo) : CachedDiagnostics where
  value :=
    { gatewayHost := peer.host.key
      gatewayBoot := peer.bootId.key
      gatewaySession := peer.sessionId
      status := eligibility checks peer }

def stale (checks : Checks) (peer : PeerInfo) (value : RemoteNetworkDiagnostics) : Bool :=
  value.gatewayBoot ≠ peer.bootId.key ∨ value.gatewaySession ≠ peer.sessionId ∨
    eligibility checks peer ≠ .pending ∨ value.status = .lost ∨ value.status = .incompatible ∨
    value.status = .unsupported

def refresh (checks : Checks) (peer : PeerInfo) (entry : CachedDiagnostics) : CachedDiagnostics :=
  if stale checks peer entry.value then resetEntry checks peer else entry

def reconcile (checks : Checks) (cache : Cache) (peers : List PeerInfo) : Cache :=
  peers.foldl (fun cache peer =>
      cache.insert peer.host.key (refresh checks peer (cache.getD peer.host.key {})))
    (cache.filter fun k _ => peers.any fun p => p.host.key = k)

/-- The loop that picks the first candidate after the cursor, else the first candidate. -/
def select (candidate : PeerInfo → Bool) (cursor : String) :
    List PeerInfo → Option PeerInfo → Option PeerInfo
  | [], selected => selected
  | peer :: peers, selected =>
    if candidate peer then
      if cursor < peer.host.key then some peer
      else select candidate cursor peers (selected.or (some peer))
    else select candidate cursor peers selected

/-- What one round of the loop reads from its surroundings. `clock` is the steady clock at the
moment a peer is looked at. -/
structure Tick where
  peers : List PeerInfo
  clock : HostIdentity → TimePoint
  lastError : Int32
  query : HostIdentity → ℤ × NetworkDiagnosticsSnapshot
  observed : TimePoint
  unixMs : UInt64
  peersAfter : List PeerInfo
  clockAfter : TimePoint
  lastErrorAfter : Int32
  converted : TimePoint

/-- What stays fixed while the worker runs. -/
structure Worker where
  checks : Checks
  host : HostIdentity
  explicitIdentity : Bool
  startError : Int32

structure ObserverState where
  cache : Cache := ∅
  cursor : String := ""

def etimedout : ℤ := 110

def queried (tick : Tick) (target : PeerInfo) : RemoteNetworkDiagnostics :=
  let (code, raw) := tick.query target.host
  if code ≠ 0 then
    { gatewayHost := target.host.key
      gatewayBoot := target.bootId.key
      gatewaySession := target.sessionId
      status := if code = -etimedout then .timeout else .error
      error := Int32.ofInt code }
  else convertDiagnostics raw tick.unixMs

def candidate (checks : Checks) (cache : Cache) (tick : Tick) (peer : PeerInfo) : Bool :=
  eligibility checks peer = .pending ∧ (cache.getD peer.host.key {}).next ≤ tick.clock peer.host

def sortedPeers (tick : Tick) : List PeerInfo :=
  tick.peers.insertionSort fun a b => a.host.key ≤ b.host.key

def selection (checks : Checks) (s : ObserverState) (tick : Tick) : Option PeerInfo :=
  let cache := reconcile checks s.cache tick.peers
  if tick.lastError = 0 then select (candidate checks cache tick) s.cursor (sortedPeers tick) none
  else none

def applyQuery (checks : Checks) (cache : Cache) (tick : Tick) (target : PeerInfo) : Cache :=
  let cache := reconcile checks cache tick.peersAfter
  match tick.peersAfter.find? fun p => p.host = target.host with
  | none => cache
  | some current =>
    if current.bootId = target.bootId ∧ current.sessionId = target.sessionId ∧
        eligibility checks current = .pending then
      let entry := cache.getD target.host.key {}
      let (rates, value) := entry.rates.observe (queried tick target) tick.observed
      cache.insert target.host.key ⟨value, tick.clockAfter + 1000000000, rates⟩
    else cache

/-- The peers, the cache and the cursor at the moment of publication. -/
def advance (checks : Checks) (s : ObserverState) (tick : Tick) : List PeerInfo × ObserverState :=
  let cache := reconcile checks s.cache tick.peers
  match selection checks s tick with
  | none => (sortedPeers tick, ⟨cache, s.cursor⟩)
  | some target => (tick.peersAfter, ⟨applyQuery checks cache tick target, target.host.key⟩)

def annotate (worker : Worker) (next : NetworkSnapshot) : NetworkSnapshot :=
  { next with
    observerHost := worker.host.key
    explicitControlIdentity := worker.explicitIdentity
    networkClientAvailable := worker.startError = 0
    remoteControlAvailable := worker.startError = 0 ∧ worker.explicitIdentity
    status := if worker.startError = 0 then next.status
      else next.status ++ " | Remote client start failed: " ++ toString worker.startError
    routeStatus := "Gateway diagnostics available in backend snapshot; no inferred network edges" }

/-- `none` stands for an exception of `Convert` or of `cache.at`. -/
def publish (worker : Worker) (cache : Cache) (tick : Tick) (peers : List PeerInfo) :
    Option NetworkSnapshot :=
  (convert worker.checks tick.converted peers tick.lastErrorAfter).bind fun next =>
    (next.hosts.mapM fun host => (cache[host.id]?).map fun entry =>
      { host with diagnostics := entry.value }).map fun hosts =>
        { annotate worker next with hosts := hosts }

def state (worker : Worker) (ticks : ℕ → Tick) : ℕ → ObserverState
  | 0 => {}
  | n + 1 => (advance worker.checks (state worker ticks n) (ticks n)).2

/-- The peer queried in round `n`, and the snapshot published at its end. -/
def target (worker : Worker) (ticks : ℕ → Tick) (n : ℕ) : Option PeerInfo :=
  selection worker.checks (state worker ticks n) (ticks n)

def lastRead (worker : Worker) (ticks : ℕ → Tick) (n : ℕ) : List PeerInfo :=
  (advance worker.checks (state worker ticks n) (ticks n)).1

def published (worker : Worker) (ticks : ℕ → Tick) (n : ℕ) : Option NetworkSnapshot :=
  publish worker (state worker ticks (n + 1)).cache (ticks n) (lastRead worker ticks n)

end KcfTools.NetworkObserver
