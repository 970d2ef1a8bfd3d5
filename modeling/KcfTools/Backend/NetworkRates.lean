import KcfTools.Model.NetworkInfo
import KcfTools.Lib.Tables
import KcfTools.Lib.Metering

/-! The rate tracker of one Gateway. Steady clock readings are counted in nanoseconds; each figure is the exact
value that the code rounds to a double. -/

namespace KcfTools.NetworkRates

open Std

abbrev TimePoint := ℤ
abbrev Counters := Fin 9 → UInt64

structure Key where
  gatewayHost : String
  gatewayBoot : String
  gatewaySession : UInt64
  source : RouteEndpointIdentity
  destination : RouteEndpointIdentity
  sourceSession : UInt64
  destinationSession : UInt64
  routeId : UInt64
  sending : Bool
deriving DecidableEq

abbrev EndpointTuple := String ×ₗ String ×ₗ Int32 ×ₗ UInt64 ×ₗ UInt64
abbrev KeyTuple :=
  String ×ₗ String ×ₗ UInt64 ×ₗ EndpointTuple ×ₗ EndpointTuple ×ₗ UInt64 ×ₗ UInt64 ×ₗ UInt64 ×ₗ Bool

def identity (e : RouteEndpointIdentity) : EndpointTuple :=
  toLex (e.hostId, toLex (e.bootId, toLex (e.pid, toLex (e.startTicks, e.registrationId))))

def Key.tuple (k : Key) : KeyTuple :=
  toLex (k.gatewayHost, toLex (k.gatewayBoot, toLex (k.gatewaySession, toLex (identity k.source,
    toLex (identity k.destination, toLex (k.sourceSession, toLex (k.destinationSession,
      toLex (k.routeId, k.sending))))))))

lemma identity_injective : Function.Injective identity := by
  rintro ⟨h, b, p, t, r⟩ ⟨h', b', p', t', r'⟩ he
  simpa [identity] using he

lemma Key.tuple_injective : Function.Injective Key.tuple := by
  rintro ⟨h, b, s, e, d, x, y, i, f⟩ ⟨h', b', s', e', d', x', y', i', f'⟩ he
  simpa [Key.tuple, identity_injective.eq_iff] using he

instance : LawfulEqCmp (compareOn Key.tuple) := Tables.compareOn_lawful Key.tuple_injective

structure History where
  baseline : Counters
  latest : Counters
  start : TimePoint
  last : TimePoint

abbrev HistoryMap := ExtTreeMap Key History (compareOn Key.tuple)

structure NetworkRateTracker where
  history : HistoryMap := ∅

def values (r : RemoteRoute) : Counters :=
  ![r.packetsSent, r.packetsReceived, r.samplesPublished, r.dropped, r.duplicate, r.outOfOrder,
    r.missedSequence, r.malformed, r.localSamplesSkipped]

def key (snapshot : RemoteNetworkDiagnostics) (route : RemoteRoute) : Key :=
  ⟨snapshot.gatewayHost, snapshot.gatewayBoot, snapshot.gatewaySession, route.source,
    route.destination, route.sourceSession, route.destinationSession, route.routeId, route.sending⟩

def success (snapshot : RemoteNetworkDiagnostics) : Bool :=
  snapshot.status = .valid ∨ snapshot.status = .truncated

def comparable (old : History) (counters : Counters) (now : TimePoint) : Bool :=
  old.last < now ∧ ∀ i, old.latest i ≤ counters i

def seconds (d : ℤ) : ℚ := d / 1000000000

def perSecond (delta : UInt64) (interval : ℚ) : ℚ := delta.toNat / interval

def counterDelta (delta : Counters) : NetworkCounterDelta :=
  ⟨delta 0, delta 1, delta 2, delta 3, delta 4, delta 5, delta 6, delta 7, delta 8⟩

def validRates (delta : Counters) (interval : ℚ) : NetworkRouteRates where
  status := .valid
  intervalSeconds := interval
  sendHz := perSecond (delta 0) interval
  receiveHz := perSecond (delta 1) interval
  proxyPublishHz := perSecond (delta 2) interval
  localSkippedPerSecond := perSecond (delta 8) interval
  delta := counterDelta delta

/-- One round of the loop over the routes: the rates of the route and the history to be stored. -/
def observeRoute (history : HistoryMap) (snapshot : RemoteNetworkDiagnostics) (now : TimePoint)
    (route : RemoteRoute) : NetworkRouteRates × Option (Key × History) :=
  if !success snapshot || route.state != 1 then ({}, none) else
  let counters := values route
  let fresh : History := ⟨counters, counters, now, now⟩
  match history[key snapshot route]? with
  | none => ({ status := .measuring }, some (key snapshot route, fresh))
  | some old =>
    if comparable old counters now then
      let interval := seconds (now - old.start)
      if 500000000 ≤ now - old.start then
        (validRates (fun i => counters i - old.baseline i) interval, some (key snapshot route, fresh))
      else
        ({ status := .measuring, intervalSeconds := interval },
          some (key snapshot route, { old with latest := counters, last := now }))
    else ({ status := .measuring }, some (key snapshot route, fresh))

def observeRoutes (history : HistoryMap) (snapshot : RemoteNetworkDiagnostics) (now : TimePoint) :
    List RemoteRoute → HistoryMap → List RemoteRoute × HistoryMap
  | [], next => ([], next)
  | route :: routes, next =>
    let (rates, stored) := observeRoute history snapshot now route
    let next := match stored with
      | none => next
      | some (k, h) => next.insertIfNew k h
    let (out, next) := observeRoutes history snapshot now routes next
    ({ route with rates := rates } :: out, next)

def NetworkRateTracker.observe (tracker : NetworkRateTracker) (snapshot : RemoteNetworkDiagnostics)
    (now : TimePoint) : NetworkRateTracker × RemoteNetworkDiagnostics :=
  let (routes, next) := observeRoutes tracker.history snapshot now snapshot.routes ∅
  (⟨next⟩, { snapshot with routes := routes })

lemma observeRoutes_eq (history : HistoryMap) (snapshot : RemoteNetworkDiagnostics) (now : TimePoint)
    (routes : List RemoteRoute) (next : HistoryMap) :
    observeRoutes history snapshot now routes next =
      (routes.map fun r => { r with rates := (observeRoute history snapshot now r).1 },
        Tables.fill next (routes.filterMap fun r => (observeRoute history snapshot now r).2)) := by
  induction routes generalizing next with
  | nil => rfl
  | cons r rs ih =>
    simp only [observeRoutes, ih, List.map_cons]
    cases hs : (observeRoute history snapshot now r).2 <;> simp [hs]

abbrev Call := RemoteNetworkDiagnostics × TimePoint

/-- The tracker before call number `n`. -/
def tracker (calls : ℕ → Call) : ℕ → NetworkRateTracker
  | 0 => {}
  | n + 1 => ((tracker calls n).observe (calls n).1 (calls n).2).1

def marked (calls : ℕ → Call) (n : ℕ) : RemoteNetworkDiagnostics :=
  ((tracker calls n).observe (calls n).1 (calls n).2).2

/-- The time for which the key's window is open at call `n`, `now - h.start`; a report gives it in seconds. -/
def elapsed (calls : ℕ → Call) (K : Key) (n : ℕ) : ℤ :=
  (calls n).2 - (((tracker calls n).history[K]?).map History.start).getD (calls n).2

/-- The observation of a key in a snapshot. -/
def firstActive (snapshot : RemoteNetworkDiagnostics) (K : Key) : Option RemoteRoute :=
  if success snapshot then snapshot.routes.find? fun r => r.state = 1 ∧ key snapshot r = K else none

abbrev Sample := Counters × TimePoint

def Continues (a b : Sample) : Prop := a.2 < b.2 ∧ ∀ i, a.1 i ≤ b.1 i

def Long (a b : Sample) : Prop := 500000000 ≤ b.2 - a.2

instance : DecidableRel Continues := fun _ _ => inferInstanceAs (Decidable (_ ∧ _))
instance : DecidableRel Long := fun _ _ => inferInstanceAs (Decidable (_ ≤ _))

def sample (call : Call) (r : RemoteRoute) : Sample := (values r, call.2)

def samples (calls : ℕ → Call) (K : Key) (n : ℕ) : Option Sample :=
  (firstActive (calls n).1 K).map (sample (calls n))

def toHistory (w : Metering.Window Sample) : History :=
  ⟨w.baseline.1, w.latest.1, w.baseline.2, w.latest.2⟩

lemma firstActive_eq_some {snapshot : RemoteNetworkDiagnostics} {K : Key} {r : RemoteRoute}
    (h : firstActive snapshot K = some r) :
    success snapshot ∧ r ∈ snapshot.routes ∧ r.state = 1 ∧ key snapshot r = K := by
  unfold firstActive at h
  split at h
  · rename_i hs
    have hp := List.find?_some h
    simp only [decide_eq_true_eq] at hp
    exact ⟨hs, List.mem_of_find?_eq_some h, hp⟩
  · cases h

lemma firstActive_isSome {snapshot : RemoteNetworkDiagnostics} {r : RemoteRoute}
    (hs : success snapshot) (hr : r ∈ snapshot.routes) (ha : r.state = 1) :
    (firstActive snapshot (key snapshot r)).isSome := by
  simp only [firstActive, hs, if_true, List.find?_isSome]
  exact ⟨r, hr, by simp [ha]⟩

section Route

variable {history : HistoryMap} {call : Call} {r : RemoteRoute} {w : Option (Metering.Window Sample)}

lemma observeRoute_inactive (h : ¬ (success call.1 ∧ r.state = 1)) :
    observeRoute history call.1 call.2 r = ({}, none) := by
  have hc : (!success call.1 || r.state != 1) = true := by
    by_cases hs : success call.1 <;> simp_all
  simp only [observeRoute, hc, if_true]

lemma comparable_window (w : Metering.Window Sample) :
    comparable (toHistory w) (values r) call.2 = true ↔ Continues w.latest (sample call r) := by
  unfold comparable
  exact decide_eq_true_iff

/-- An ACTIVE route advances the window kept under its key. -/
lemma observeRoute_stored (hs : success call.1) (ha : r.state = 1)
    (hw : history[key call.1 r]? = w.map toHistory) :
    (observeRoute history call.1 call.2 r).2 =
      some (key call.1 r, toHistory (Metering.advance Continues Long w (sample call r))) := by
  have hc : (!success call.1 || r.state != 1) = false := by simp [hs, ha]
  simp only [observeRoute, hc, Bool.false_eq_true, if_false, hw]
  cases w with
  | none => rfl
  | some w =>
    simp only [Option.map_some, comparable_window, Metering.advance]
    by_cases hcont : Continues w.latest (sample call r)
    · by_cases hl : Long w.baseline (sample call r)
      · have hl' : 500000000 ≤ call.2 - (toHistory w).start := hl
        simp only [hcont, hl, hl', if_true, not_true_eq_false, and_false, if_false]
        rfl
      · have hl' : ¬ 500000000 ≤ call.2 - (toHistory w).start := hl
        simp only [hcont, hl, hl', if_true, not_false_eq_true, and_self, if_false]
        rfl
    · simp only [hcont, if_false, false_and]
      rfl

/-- It is marked VALID exactly when the window completes a measurement. -/
lemma observeRoute_status (hs : success call.1) (ha : r.state = 1)
    (hw : history[key call.1 r]? = w.map toHistory) :
    (observeRoute history call.1 call.2 r).1.status =
      if (Metering.measure Continues Long w (sample call r)).isSome then .valid else .measuring := by
  have hc : (!success call.1 || r.state != 1) = false := by simp [hs, ha]
  simp only [observeRoute, hc, Bool.false_eq_true, if_false, hw]
  cases w with
  | none => rfl
  | some w =>
    simp only [Option.map_some, comparable_window, Metering.measure, Option.bind_some]
    by_cases hcont : Continues w.latest (sample call r)
    · by_cases hl : Long w.baseline (sample call r)
      · have hl' : 500000000 ≤ call.2 - (toHistory w).start := hl
        simp only [hcont, hl, hl', if_true, and_self, Option.isSome_some]
        rfl
      · have hl' : ¬ 500000000 ≤ call.2 - (toHistory w).start := hl
        simp [hcont, hl, hl']
    · simp [hcont]

lemma observeRoute_valid (hs : success call.1) (ha : r.state = 1)
    (hw : history[key call.1 r]? = w.map toHistory) {b : Sample}
    (hb : Metering.measure Continues Long w (sample call r) = some b) :
    (observeRoute history call.1 call.2 r).1 =
      validRates (fun i => values r i - b.1 i) (seconds (call.2 - b.2)) := by
  have hc : (!success call.1 || r.state != 1) = false := by simp [hs, ha]
  obtain ⟨v, rfl, rfl, hcont, hl⟩ := Metering.measure_eq_some.mp hb
  have hl' : 500000000 ≤ call.2 - (toHistory v).start := hl
  simp only [observeRoute, hc, Bool.false_eq_true, if_false, hw, Option.map_some, comparable_window,
    hcont, hl', if_true]
  rfl

end Route

/-- The history of a key is the abstract window over the observations of that key. -/
lemma tracker_window (calls : ℕ → Call) (K : Key) (n : ℕ) :
    (tracker calls n).history[K]? =
      (Metering.window Continues Long (samples calls K) n).map toHistory := by
  induction n generalizing K with
  | zero => simp [tracker, Metering.window]
  | succ n ih =>
    simp only [tracker, NetworkRateTracker.observe, observeRoutes_eq, Tables.getElem?_fill,
      List.find?_filterMap, ExtTreeMap.getElem?_empty, Option.none_or, Metering.window, samples,
      firstActive]
    by_cases hs : success (calls n).1
    · have hp : (fun r => Option.any (fun e => decide (e.1 = K))
          (observeRoute (tracker calls n).history (calls n).1 (calls n).2 r).2) =
          fun r => decide (r.state = 1 ∧ key (calls n).1 r = K) := by
        funext r
        by_cases ha : r.state = 1
        · simp [observeRoute_stored hs ha (ih _), ha]
        · simp [observeRoute_inactive (fun h => ha h.2), ha]
      rw [hp, if_pos hs]
      cases hf : (calls n).1.routes.find? fun r => decide (r.state = 1 ∧ key (calls n).1 r = K) with
      | none => rfl
      | some r =>
        have hr := List.find?_some hf
        simp only [decide_eq_true_eq] at hr
        obtain ⟨ha, rfl⟩ := hr
        simp [observeRoute_stored hs ha (ih _)]
    · have hp : (fun r => Option.any (fun e => decide (e.1 = K))
          (observeRoute (tracker calls n).history (calls n).1 (calls n).2 r).2) = fun _ => false := by
        funext r
        simp [observeRoute_inactive (fun h => hs h.1)]
      have hf : (calls n).1.routes.find? (fun _ => false) = none := by simp
      rw [hp, if_neg hs, hf]
      rfl

/-- What a window from call `m` to the route `r` of call `n` has to show. -/
structure Measured (calls : ℕ → Call) (m n : ℕ) (r : RemoteRoute) : Prop where
  before : m < n
  observed : ∀ k, m ≤ k → k ≤ n → (firstActive (calls k).1 (key (calls n).1 r)).isSome
  increasing : ∀ k, m ≤ k → k < n → (calls k).2 < (calls (k + 1)).2
  nondecreasing : ∀ k, m ≤ k → k + 1 < n → ∀ o o',
    firstActive (calls k).1 (key (calls n).1 r) = some o →
    firstActive (calls (k + 1)).1 (key (calls n).1 r) = some o' → ∀ i, values o i ≤ values o' i
  last : ∀ k, k + 1 = n → ∀ o, firstActive (calls k).1 (key (calls n).1 r) = some o →
    ∀ i, values o i ≤ values r i
  spans : 500000000 ≤ (calls n).2 - (calls m).2
  unmarked : ∀ k, m < k → k < n → ∀ o,
    firstActive (marked calls k) (key (calls n).1 r) = some o → o.rates.status ≠ .valid

/-- The published figures of a measurement from the observation `o` to the route `r`. -/
structure Reports (rates : NetworkRouteRates) (o r : RemoteRoute) (elapsed : ℤ) : Prop where
  packetsSent : o.packetsSent.toNat + rates.delta.packetsSent.toNat = r.packetsSent.toNat
  packetsReceived : o.packetsReceived.toNat + rates.delta.packetsReceived.toNat = r.packetsReceived.toNat
  samplesPublished :
    o.samplesPublished.toNat + rates.delta.samplesPublished.toNat = r.samplesPublished.toNat
  dropped : o.dropped.toNat + rates.delta.dropped.toNat = r.dropped.toNat
  duplicate : o.duplicate.toNat + rates.delta.duplicate.toNat = r.duplicate.toNat
  outOfOrder : o.outOfOrder.toNat + rates.delta.outOfOrder.toNat = r.outOfOrder.toNat
  missedSequence : o.missedSequence.toNat + rates.delta.missedSequence.toNat = r.missedSequence.toNat
  malformed : o.malformed.toNat + rates.delta.malformed.toNat = r.malformed.toNat
  localSamplesSkipped :
    o.localSamplesSkipped.toNat + rates.delta.localSamplesSkipped.toNat = r.localSamplesSkipped.toNat
  interval : rates.intervalSeconds = seconds elapsed
  positive : 0 < rates.intervalSeconds
  sendHz : rates.sendHz = rates.delta.packetsSent.toNat / rates.intervalSeconds
  receiveHz : rates.receiveHz = rates.delta.packetsReceived.toNat / rates.intervalSeconds
  proxyPublishHz : rates.proxyPublishHz = rates.delta.samplesPublished.toNat / rates.intervalSeconds
  localSkipped :
    rates.localSkippedPerSecond = rates.delta.localSamplesSkipped.toNat / rates.intervalSeconds

lemma validRates_reports {o r : RemoteRoute} {elapsed : ℤ} (hc : ∀ i, values o i ≤ values r i)
    (he : 500000000 ≤ elapsed) :
    Reports (validRates (fun i => values r i - values o i) (seconds elapsed)) o r elapsed := by
  have hd : ∀ i, (values o i).toNat + (values r i - values o i).toNat = (values r i).toNat := by
    intro i
    have hle := UInt64.le_iff_toNat_le.mp (hc i)
    rw [UInt64.toNat_sub_of_le _ _ (hc i)]
    omega
  have hpos : (0 : ℚ) < seconds elapsed := by
    have : (0 : ℚ) < elapsed := by exact_mod_cast (by omega : (0 : ℤ) < elapsed)
    unfold seconds
    positivity
  exact ⟨hd 0, hd 1, hd 2, hd 3, hd 4, hd 5, hd 6, hd 7, hd 8, rfl, hpos, rfl, rfl, rfl, rfl⟩

lemma marked_routes (calls : ℕ → Call) (n : ℕ) :
    (marked calls n).routes = (calls n).1.routes.map fun r =>
      { r with rates := (observeRoute (tracker calls n).history (calls n).1 (calls n).2 r).1 } := by
  simp only [marked, NetworkRateTracker.observe, observeRoutes_eq]

lemma firstActive_marked (calls : ℕ → Call) (n : ℕ) (K : Key) :
    firstActive (marked calls n) K = (firstActive (calls n).1 K).map fun r =>
      { r with rates := (observeRoute (tracker calls n).history (calls n).1 (calls n).2 r).1 } := by
  have hs : success (marked calls n) = success (calls n).1 := rfl
  have hk : ∀ r, key (marked calls n) r = key (calls n).1 r := fun _ => rfl
  unfold firstActive
  rw [hs, marked_routes, List.find?_map]
  split
  · rfl
  · rfl

lemma silent_iff (calls : ℕ → Call) (K : Key) (m n : ℕ) :
    Metering.Silent Continues Long (samples calls K) m n ↔
      ∀ k, m < k → k < n → ∀ o, firstActive (marked calls k) K = some o → o.rates.status ≠ .valid := by
  refine forall_congr' fun k => forall_congr' fun _ => forall_congr' fun _ => ?_
  rw [firstActive_marked]
  cases hf : firstActive (calls k).1 K with
  | none => simp [samples, hf]
  | some r =>
    obtain ⟨hs, _, ha, rfl⟩ := firstActive_eq_some hf
    have hst := observeRoute_status hs ha (tracker_window calls _ k)
    simp only [samples, hf, Option.map_some, Option.some.injEq, forall_eq', hst]
    cases Metering.measure Continues Long
      (Metering.window Continues Long (samples calls (key (calls k).1 r)) k) (sample (calls k) r) <;> simp

lemma continues_chain {a b : Sample} (h : Relation.ReflTransGen Continues a b) :
    ∀ i, a.1 i ≤ b.1 i := by
  induction h with
  | refl => exact fun i => UInt64.le_refl _
  | tail _ hc ih => exact fun i => UInt64.le_trans (ih i) (hc.2 i)

lemma long_of_continues (a b s : Sample) (h : Continues a b) (hl : Long b s) : Long a s :=
  hl.trans (sub_le_sub_left h.1.le _)

lemma samples_eq_some {calls : ℕ → Call} {K : Key} {n : ℕ} {s : Sample} :
    samples calls K n = some s ↔
      ∃ o, firstActive (calls n).1 K = some o ∧ s = (values o, (calls n).2) := by
  simp [samples, sample, eq_comm]

lemma Measured.spans_of {calls : ℕ → Call} {m n : ℕ} {r : RemoteRoute}
    (h : Measured calls m (n + 1) r) :
    ∃ a, Metering.Spans Continues Long (samples calls (key (calls (n + 1)).1 r)) m n a
      (sample (calls (n + 1)) r) ∧ Long a (sample (calls (n + 1)) r) := by
  have hb := h.before
  have hobs : ∀ k, m ≤ k → k ≤ n → ∃ o, firstActive (calls k).1 (key (calls (n + 1)).1 r) = some o :=
    fun k hm hk => Option.isSome_iff_exists.mp (h.observed k hm (by omega))
  obtain ⟨o, ho⟩ := hobs m le_rfl (by omega)
  obtain ⟨l, hl⟩ := hobs n (by omega) le_rfl
  refine ⟨_, ⟨by omega, samples_eq_some.mpr ⟨o, ho, rfl⟩, ?_, ?_, ?_⟩, h.spans⟩
  · intro k hm hk
    obtain ⟨x, hx⟩ := hobs k hm (by omega)
    obtain ⟨y, hy⟩ := hobs (k + 1) (by omega) (by omega)
    exact ⟨_, _, samples_eq_some.mpr ⟨x, hx, rfl⟩, samples_eq_some.mpr ⟨y, hy, rfl⟩,
      h.increasing k hm (by omega), h.nondecreasing k hm (by omega) x y hx hy⟩
  · exact ⟨_, samples_eq_some.mpr ⟨l, hl, rfl⟩, h.increasing n (by omega) (by omega),
      h.last n rfl l hl⟩
  · exact (silent_iff calls _ m (n + 1)).mpr h.unmarked

lemma Measured.of_spans {calls : ℕ → Call} {m n : ℕ} {r : RemoteRoute} {a : Sample}
    (hs : success (calls (n + 1)).1) (hr : r ∈ (calls (n + 1)).1.routes) (ha : r.state = 1)
    (h : Metering.Spans Continues Long (samples calls (key (calls (n + 1)).1 r)) m n a
      (sample (calls (n + 1)) r)) (hl : Long a (sample (calls (n + 1)) r)) :
    Measured calls m (n + 1) r := by
  obtain ⟨l, hn, hc⟩ := h.last
  have hle := h.le
  obtain ⟨o, ho, rfl⟩ := samples_eq_some.mp h.first
  obtain ⟨p, hp, rfl⟩ := samples_eq_some.mp hn
  refine ⟨by omega, ?_, ?_, ?_, ?_, hl, (silent_iff calls _ m (n + 1)).mp h.silent⟩
  · intro k hm hk
    rcases Nat.lt_trichotomy k n with hlt | rfl | hgt
    · obtain ⟨x, _, hx, _⟩ := h.unbroken k hm hlt
      obtain ⟨y, hy, _⟩ := samples_eq_some.mp hx
      simp [hy]
    · simp [hp]
    · obtain rfl : k = n + 1 := by omega
      exact firstActive_isSome hs hr ha
  · intro k hm hk
    rcases Nat.lt_succ_iff_lt_or_eq.mp hk with hlt | rfl
    · obtain ⟨x, y, hx, hy, hxy⟩ := h.unbroken k hm hlt
      obtain ⟨_, _, rfl⟩ := samples_eq_some.mp hx
      obtain ⟨_, _, rfl⟩ := samples_eq_some.mp hy
      exact hxy.1
    · exact hc.1
  · intro k hm hk x y hx hy
    obtain ⟨x', y', hx', hy', hxy⟩ := h.unbroken k hm (by omega)
    obtain rfl := Option.some.inj (hx'.symm.trans (samples_eq_some.mpr ⟨x, hx, rfl⟩))
    obtain rfl := Option.some.inj (hy'.symm.trans (samples_eq_some.mpr ⟨y, hy, rfl⟩))
    exact hxy.2
  · intro k hk x hx
    obtain rfl : k = n := by omega
    obtain rfl := Option.some.inj (hp.symm.trans hx)
    exact hc.2

/-- At call `n` a route is marked VALID exactly when some window reaches it, and its figures are then
those of such a window. -/
theorem observe_exact (calls : ℕ → Call) (n i : ℕ) (r r' : RemoteRoute)
    (hr : (calls n).1.routes[i]? = some r) (hr' : (marked calls n).routes[i]? = some r') :
    (r'.rates.status = .valid ↔ success (calls n).1 ∧ r.state = 1 ∧ ∃ m, Measured calls m n r) ∧
    (r'.rates.status = .measuring ↔
      success (calls n).1 ∧ r.state = 1 ∧ ¬ ∃ m, Measured calls m n r) ∧
    (r'.rates.status = .valid → ∃ m o, Measured calls m n r ∧
      firstActive (calls m).1 (key (calls n).1 r) = some o ∧
      Reports r'.rates o r ((calls n).2 - (calls m).2)) := by
  obtain rfl :
      { r with rates := (observeRoute (tracker calls n).history (calls n).1 (calls n).2 r).1 } = r' := by
    simpa [marked_routes, hr] using hr'
  have hmem := List.mem_of_getElem? hr
  by_cases hsa : success (calls n).1 ∧ r.state = 1
  · obtain ⟨hs, ha⟩ := hsa
    have hst := observeRoute_status hs ha (tracker_window calls _ n)
    have hiff : (Metering.measure Continues Long (Metering.window Continues Long
        (samples calls (key (calls n).1 r)) n) (sample (calls n) r)).isSome ↔
          ∃ m, Measured calls m n r := by
      cases n with
      | zero =>
        simp only [Metering.window, Metering.measure, Option.bind_none, Option.isSome_none,
          Bool.false_eq_true, false_iff]
        rintro ⟨m, hm⟩
        exact absurd hm.before (by omega)
      | succ n =>
        constructor
        · intro h
          obtain ⟨b, hb⟩ := Option.isSome_iff_exists.mp h
          obtain ⟨hl, m, hm⟩ := Metering.measure_sound hb
          exact ⟨m, .of_spans hs hmem ha hm hl⟩
        · rintro ⟨m, hm⟩
          obtain ⟨a, hsp, hl⟩ := hm.spans_of
          exact Metering.measure_complete long_of_continues hsp hl
    simp only [hst, hs, ha, true_and]
    refine ⟨?_, ?_, ?_⟩
    · rw [← hiff]
      split <;> simp_all
    · rw [← hiff]
      split <;> simp_all
    · intro hv
      have hsome : (Metering.measure Continues Long (Metering.window Continues Long
          (samples calls (key (calls n).1 r)) n) (sample (calls n) r)).isSome := by
        by_contra hc
        simp [hc] at hv
      obtain ⟨b, hb⟩ := Option.isSome_iff_exists.mp hsome
      rw [observeRoute_valid hs ha (tracker_window calls _ n) hb]
      cases n with
      | zero => simp [Metering.window, Metering.measure] at hb
      | succ n =>
        obtain ⟨hl, m, hm⟩ := Metering.measure_sound hb
        obtain ⟨l, hn, hc⟩ := hm.last
        obtain ⟨o, ho, rfl⟩ := samples_eq_some.mp hm.first
        have hle := continues_chain ((hm.unbroken.path hm.le hm.first hn).tail hc)
        exact ⟨m, o, .of_spans hs hmem ha hm hl, ho, validRates_reports hle hl⟩
  · simp only [observeRoute_inactive hsa]
    refine ⟨?_, ?_, ?_⟩
    · simp only [reduceCtorEq, false_iff]
      exact fun h => hsa ⟨h.1, h.2.1⟩
    · simp only [reduceCtorEq, false_iff]
      exact fun h => hsa ⟨h.1, h.2.1⟩
    · simp

def sight (packets : UInt64) : RemoteNetworkDiagnostics where
  status := .valid
  gatewayHost := "gateway"
  gatewayBoot := "boot"
  gatewaySession := 1
  routes := [{ state := 1, sending := true, routeId := 33, packetsSent := packets }]

def twoSights (n : ℕ) : Call := if n = 0 then (sight 100, 0) else (sight 150, 1000000000 * n)

theorem observe_exact_twoSights :
    let rates : NetworkRouteRates :=
      { status := .valid, intervalSeconds := 1, sendHz := 50, delta := { packetsSent := 50 } }
    let r : RemoteRoute := { state := 1, sending := true, routeId := 33, packetsSent := 150 }
    ∃ m o, Measured twoSights m 1 r ∧ firstActive (twoSights m).1 (key (twoSights 1).1 r) = some o ∧
      Reports rates o r ((twoSights 1).2 - (twoSights m).2) :=
  (observe_exact twoSights 1 0 { state := 1, sending := true, routeId := 33, packetsSent := 150 }
    { state := 1, sending := true, routeId := 33, packetsSent := 150, rates :=
      { status := .valid, intervalSeconds := 1, sendHz := 50, delta := { packetsSent := 50 } } }
    (by decide) (by decide +kernel)).2.2 rfl

end KcfTools.NetworkRates
