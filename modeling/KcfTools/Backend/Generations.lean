import KcfTools.Backend.FairRotation

/-! Cached diagnostics never cross a generation, that is a boot and session of a Gateway. -/

namespace KcfTools.NetworkObserver

open Std Discovery NetworkRates

lemma refresh_idem (checks : Checks) (peer : PeerInfo) (entry : CachedDiagnostics) :
    refresh checks peer (refresh checks peer entry) = refresh checks peer entry := by
  by_cases h : stale checks peer entry.value = true
  · simp only [refresh, h, if_true, ite_self]
  · simp only [refresh, h, if_false, Bool.false_eq_true]

section Reconcile

variable (checks : Checks) (cache : Cache) {peers : List PeerInfo}
  (hn : (peers.map fun p => p.host).Nodup)

include hn

lemma getElem?_reconcile (k : String) :
    (reconcile checks cache peers)[k]? =
      (peers.find? fun p => p.host.key = k).map fun p => refresh checks p (cache.getD k {}) := by
  have hkeys : (peers.map fun p => p.host.key).Nodup := by
    have := hn.map HostIdentity.key_injective
    rwa [List.map_map] at this
  unfold reconcile
  rw [Tables.getElem?_visit (fun p => p.host.key) (refresh checks) {} peers _ hkeys]
  cases hf : peers.find? fun p => p.host.key = k with
  | none =>
    have hno : (peers.any fun p => decide (p.host.key = k)) = false := by
      simpa using hf
    simp [hno]
  | some p =>
    have hyes : (peers.any fun p => decide (p.host.key = k)) = true := by
      rw [List.any_eq_true]
      exact ⟨p, List.mem_of_find?_eq_some hf, by simpa using List.find?_some hf⟩
    cases hc : cache[k]? <;> simp [ExtTreeMap.getD_eq_getD_getElem?, hyes, hc, Option.filter]

lemma reconcile_listed {p : PeerInfo} (hp : p ∈ peers) :
    (reconcile checks cache peers)[p.host.key]? =
      some (refresh checks p (cache.getD p.host.key {})) := by
  rw [getElem?_reconcile checks cache hn]
  cases hf : peers.find? fun q => q.host.key = p.host.key with
  | none =>
    have := List.find?_eq_none.mp hf p hp
    simp at this
  | some q =>
    have hq : q.host = p.host := by simpa using List.find?_some hf
    have hqp : q = p := List.inj_on_of_nodup_map hn (List.mem_of_find?_eq_some hf) hp hq
    rw [hqp]
    rfl

lemma reconcile_only {k : String} {e : CachedDiagnostics}
    (h : (reconcile checks cache peers)[k]? = some e) : ∃ p ∈ peers, p.host.key = k := by
  rw [getElem?_reconcile checks cache hn] at h
  obtain ⟨p, hp, _⟩ := Option.map_eq_some_iff.mp h
  exact ⟨p, List.mem_of_find?_eq_some hp, by simpa using List.find?_some hp⟩

lemma reconcile_idem :
    reconcile checks (reconcile checks cache peers) peers = reconcile checks cache peers := by
  refine ExtTreeMap.ext_getElem? fun k => ?_
  rw [getElem?_reconcile checks _ hn, ExtTreeMap.getD_eq_getD_getElem?,
    getElem?_reconcile checks cache hn]
  cases peers.find? fun p => p.host.key = k with
  | none => rfl
  | some p => simp [refresh_idem]

end Reconcile

/-- Two descriptions of one boot and session of a Host. -/
def SameGeneration (p q : PeerInfo) : Prop :=
  p.host = q.host ∧ p.bootId = q.bootId ∧ p.sessionId = q.sessionId

/-- A list of peers that shows the generation of `p` as eligible. -/
def Shows (checks : Checks) (peers : List PeerInfo) (p : PeerInfo) : Prop :=
  ∃ q ∈ peers, SameGeneration q p ∧ eligibility checks q = .pending

variable (worker : Worker) (ticks : ℕ → Tick)

/-- The lists read in round `n`: the second one is read only after a query. -/
def listsRead (n : ℕ) : Set (List PeerInfo) :=
  { l | l = (ticks n).peers ∨ target worker ticks n ≠ none ∧ l = (ticks n).peersAfter }

def readSince (s n : ℕ) : Set (List PeerInfo) := { l | ∃ i, s ≤ i ∧ i < n ∧ l ∈ listsRead worker ticks i }

def Asks (n : ℕ) (p : PeerInfo) : Prop := ∃ x, target worker ticks n = some x ∧ SameGeneration x p

/-- Rates and value left by the queries of the generation of `p` from round `s` to round `j`, the first
of which met an empty tracker. -/
inductive Sourced (p : PeerInfo) (s : ℕ) : ℕ → NetworkRateTracker × RemoteNetworkDiagnostics → Prop
  | first : Asks worker ticks s p →
      Sourced p s s (NetworkRateTracker.observe {} (queried (ticks s) p) (ticks s).observed)
  | next {i j : ℕ} {e : NetworkRateTracker × RemoteNetworkDiagnostics} : Sourced p s i e → i < j →
      Asks worker ticks j p → Sourced p s j (e.1.observe (queried (ticks j) p) (ticks j).observed)

/-- An entry for `p` is freshly reset, or was measured while every list read showed `p`. -/
def Entry (since : ℕ → Set (List PeerInfo)) (n : ℕ) (p : PeerInfo) (e : CachedDiagnostics) : Prop :=
  e = resetEntry worker.checks p ∨
    ∃ s j, s ≤ j ∧ j < n ∧ Sourced worker ticks p s j (e.rates, e.value) ∧
      ∀ l ∈ since s, Shows worker.checks l p

structure CacheFits (since : ℕ → Set (List PeerInfo)) (n : ℕ) (peers : List PeerInfo) (cache : Cache) :
    Prop where
  listed : ∀ p ∈ peers, ∃ e, cache[p.host.key]? = some e ∧ Entry worker ticks since n p e
  only : ∀ k e, cache[k]? = some e → ∃ p ∈ peers, p.host.key = k

/-- The assumptions on discovery and on the diagnostics client. -/
structure Proper : Prop where
  distinct : ∀ n, ((ticks n).peers.map fun p => p.host).Nodup
  distinctAfter : ∀ n, target worker ticks n ≠ none → ((ticks n).peersAfter.map fun p => p.host).Nodup
  identified : ∀ n p, target worker ticks n = some p → ((ticks n).query p.host).1 = 0 →
    ((ticks n).query p.host).2.gatewayHost = p.host ∧
    ((ticks n).query p.host).2.gatewayBootId = p.bootId ∧
    ((ticks n).query p.host).2.gatewaySession = p.sessionId

variable {worker ticks}

lemma SameGeneration.trans {p q r : PeerInfo} (h : SameGeneration p q) (h' : SameGeneration q r) :
    SameGeneration p r :=
  ⟨h.1.trans h'.1, h.2.1.trans h'.2.1, h.2.2.trans h'.2.2⟩

lemma Shows.congr {checks : Checks} {l : List PeerInfo} {p q : PeerInfo} (hg : SameGeneration p q)
    (h : Shows checks l p) : Shows checks l q := by
  obtain ⟨r, hr, hrp, he⟩ := h
  exact ⟨r, hr, hrp.trans hg, he⟩

lemma Asks.congr {n : ℕ} {p q : PeerInfo} (hg : SameGeneration p q) (h : Asks worker ticks n p) :
    Asks worker ticks n q := by
  obtain ⟨x, hx, hxp⟩ := h
  exact ⟨x, hx, hxp.trans hg⟩

lemma queried_congr (tick : Tick) {p q : PeerInfo} (hg : SameGeneration p q) :
    queried tick p = queried tick q := by
  simp only [queried, hg.1, hg.2.1, hg.2.2]

lemma Sourced.congr {p q : PeerInfo} (hg : SameGeneration p q) {s j : ℕ}
    {e : NetworkRateTracker × RemoteNetworkDiagnostics} (h : Sourced worker ticks p s j e) :
    Sourced worker ticks q s j e := by
  induction h with
  | first hq =>
    rw [queried_congr _ hg]
    exact .first (hq.congr hg)
  | next _ hij hq ih =>
    rw [queried_congr _ hg]
    exact .next ih hij (hq.congr hg)

lemma target_peers {n : ℕ} {p : PeerInfo} (h : target worker ticks n = some p) :
    p ∈ (ticks n).peers ∧ eligibility worker.checks p = .pending := by
  obtain ⟨hmem, hc⟩ := (target_next worker ticks h).1
  simp only [candidate, Bool.decide_and, Bool.and_eq_true, decide_eq_true_eq] at hc
  exact ⟨hmem, hc.1⟩

lemma round_idle {n : ℕ} (h : target worker ticks n = none) :
    lastRead worker ticks n = sortedPeers (ticks n) ∧
      (state worker ticks (n + 1)).cache =
        reconcile worker.checks (state worker ticks n).cache (ticks n).peers := by
  have hsel : selection worker.checks (state worker ticks n) (ticks n) = none := h
  simp only [lastRead, state, advance, hsel, and_self]

lemma round_query {n : ℕ} {x : PeerInfo} (h : target worker ticks n = some x) :
    lastRead worker ticks n = (ticks n).peersAfter ∧
      (state worker ticks (n + 1)).cache = applyQuery worker.checks
        (reconcile worker.checks (state worker ticks n).cache (ticks n).peers) (ticks n) x := by
  have hsel : selection worker.checks (state worker ticks n) (ticks n) = some x := h
  simp only [lastRead, state, advance, hsel, and_self]

def measuredStates : List DiagnosticsState := [.valid, .truncated, .timeout, .error]

lemma queried_generation (hp : Proper worker ticks) {n : ℕ} {p : PeerInfo} (h : Asks worker ticks n p) :
    (queried (ticks n) p).gatewayHost = p.host.key ∧ (queried (ticks n) p).gatewayBoot = p.bootId.key ∧
      (queried (ticks n) p).gatewaySession = p.sessionId ∧
      (queried (ticks n) p).status ∈ measuredStates := by
  obtain ⟨x, hx, hxp⟩ := h
  rw [← queried_congr _ hxp, ← hxp.1, ← hxp.2.1, ← hxp.2.2]
  unfold queried
  by_cases hc : ((ticks n).query x.host).1 = 0
  · obtain ⟨h₁, h₂, h₃⟩ := hp.identified n x hx hc
    simp only [hc, ne_eq, not_true_eq_false, if_false, convertDiagnostics, h₁, h₂, h₃, true_and]
    split <;> simp [measuredStates]
  · simp only [hc, ne_eq, not_false_eq_true, if_true, true_and]
    split <;> simp [measuredStates]

/-- A measured value belongs to the generation that was asked. -/
lemma Sourced.generation (hp : Proper worker ticks) {p : PeerInfo} {s j : ℕ}
    {e : NetworkRateTracker × RemoteNetworkDiagnostics} (h : Sourced worker ticks p s j e) :
    e.2.gatewayHost = p.host.key ∧ e.2.gatewayBoot = p.bootId.key ∧
      e.2.gatewaySession = p.sessionId ∧ e.2.status ∈ measuredStates := by
  cases h with
  | first hq => exact queried_generation hp hq
  | next _ _ hq => exact queried_generation hp hq

section Cache

variable {since since' : ℕ → Set (List PeerInfo)} {n : ℕ} {peers : List PeerInfo} {cache : Cache}

lemma Entry.mono {m : ℕ} {p : PeerInfo} {e : CachedDiagnostics} (h : Entry worker ticks since n p e)
    (hnm : n ≤ m) (hs : ∀ s < n, ∀ l ∈ since' s, l ∈ since s ∨ Shows worker.checks l p) :
    Entry worker ticks since' m p e := by
  rcases h with rfl | ⟨s, j, hsj, hj, he, hl⟩
  · exact .inl rfl
  · refine .inr ⟨s, j, hsj, by omega, he, fun l hm => ?_⟩
    rcases hs s (by omega) l hm with hold | hshow
    · exact hl l hold
    · exact hshow

/-- An entry that is not stale for `p` was made for the generation of `p`. -/
lemma Entry.transfer (hp : Proper worker ticks) {p q : PeerInfo} {e : CachedDiagnostics}
    (hk : q.host.key = p.host.key) (h : Entry worker ticks since n q e)
    (hs : stale worker.checks p e.value = false) : Entry worker ticks since n p e := by
  simp only [stale, decide_eq_false_iff_not, not_or, not_not] at hs
  obtain ⟨hboot, hsession, helig, h₁, h₂, h₃⟩ := hs
  have hhost : q.host = p.host := HostIdentity.key_injective hk
  rcases h with rfl | ⟨s, j, hsj, hj, he, hl⟩
  · left
    simp only [resetEntry] at hboot hsession h₁ h₂ h₃
    have hq : eligibility worker.checks q = .pending := by
      unfold eligibility at h₁ h₂ h₃ ⊢
      split_ifs at * <;> simp_all
    simp only [resetEntry, hhost, hboot, hsession, hq, helig]
  · right
    obtain ⟨_, hb, hse, _⟩ := he.generation hp
    have hg : SameGeneration q p :=
      ⟨hhost, HostIdentity.key_injective (hb.symm.trans hboot), hse.symm.trans hsession⟩
    exact ⟨s, j, hsj, hj, he.congr hg, fun l hm => (hl l hm).congr hg⟩

lemma CacheFits.reconcile (hp : Proper worker ticks) (h : CacheFits worker ticks since n peers cache)
    {l : List PeerInfo} (hn : (l.map fun p => p.host).Nodup)
    (hs : ∀ s < n, ∀ m ∈ since' s, m ∈ since s ∨ m = l) :
    CacheFits worker ticks since' n l (reconcile worker.checks cache l) where
  only _ _ he := reconcile_only worker.checks cache hn he
  listed p hm := by
    refine ⟨_, reconcile_listed worker.checks cache hn hm, ?_⟩
    cases hst : stale worker.checks p (cache.getD p.host.key {}).value with
    | true =>
      simp only [refresh, hst, if_true]
      exact .inl rfl
    | false =>
      simp only [refresh, hst, Bool.false_eq_true, if_false]
      rw [ExtTreeMap.getD_eq_getD_getElem?] at hst ⊢
      have helig : eligibility worker.checks p = .pending := by
        simp only [stale, decide_eq_false_iff_not, not_or, not_not] at hst
        exact hst.2.2.1
      cases hc : cache[p.host.key]? with
      | none =>
        rw [hc] at hst
        simp [stale, (HostIdentity.key_ne_empty _).symm] at hst
      | some e =>
        rw [hc, Option.getD_some] at hst
        obtain ⟨q, hq, hk⟩ := h.only _ _ hc
        obtain ⟨e', he', hfit⟩ := h.listed q hq
        obtain rfl : e' = e := by
          rw [hk, hc] at he'
          exact (Option.some.inj he').symm
        refine (hfit.transfer hp hk hst).mono le_rfl fun s hsn m hm' => ?_
        rcases hs s hsn m hm' with hold | rfl
        · exact .inl hold
        · exact .inr ⟨p, hm, ⟨rfl, rfl, rfl⟩, helig⟩

/-- A query adds one measurement to the entry of the generation it asked. -/
lemma Entry.measured {p : PeerInfo} {e : CachedDiagnostics} (h : Entry worker ticks since n p e)
    (ha : Asks worker ticks n p) (hl : ∀ l ∈ since n, Shows worker.checks l p) (next : TimePoint) :
    Entry worker ticks since (n + 1) p
      ⟨(e.rates.observe (queried (ticks n) p) (ticks n).observed).2, next,
        (e.rates.observe (queried (ticks n) p) (ticks n).observed).1⟩ := by
  rcases h with rfl | ⟨s, j, hsj, hj, he, hls⟩
  · exact .inr ⟨n, n, le_rfl, by omega, .first ha, hl⟩
  · exact .inr ⟨s, n, by omega, by omega, he.next hj ha, hls⟩

lemma CacheFits.applyQuery (hp : Proper worker ticks) (h : CacheFits worker ticks since n peers cache)
    {x : PeerInfo} (hx : target worker ticks n = some x)
    (hs : ∀ s < n, ∀ m ∈ since' s, m ∈ since s ∨ m = (ticks n).peersAfter)
    (hsn : ∀ m ∈ since' n, Shows worker.checks m x ∨ m = (ticks n).peersAfter) :
    CacheFits worker ticks since' (n + 1) (ticks n).peersAfter
      (applyQuery worker.checks cache (ticks n) x) := by
  have hn := hp.distinctAfter n (by simp [hx])
  have hfit := h.reconcile hp hn hs
  have hkeep : CacheFits worker ticks since' (n + 1) (ticks n).peersAfter
      (NetworkObserver.reconcile worker.checks cache (ticks n).peersAfter) :=
    ⟨fun p hm => (hfit.listed p hm).imp fun e he =>
      ⟨he.1, he.2.mono (by omega) fun _ _ _ hl => .inl hl⟩, hfit.only⟩
  unfold NetworkObserver.applyQuery
  cases hf : (ticks n).peersAfter.find? fun p => p.host = x.host with
  | none => exact hkeep
  | some c =>
    have hc : c ∈ (ticks n).peersAfter := List.mem_of_find?_eq_some hf
    have hch : c.host = x.host := by simpa using List.find?_some hf
    simp only
    split_ifs with hcond
    · obtain ⟨hboot, hsession, helig⟩ := hcond
      have hg : SameGeneration x c := ⟨hch.symm, hboot.symm, hsession.symm⟩
      refine ⟨fun p hm => ?_, fun k e he => ?_⟩
      · rw [Tables.getElem?_insert]
        split_ifs with hk
        · have hpx : p.host = c.host := (HostIdentity.key_injective hk).symm.trans hch.symm
          obtain rfl : p = c := List.inj_on_of_nodup_map hn hm hc hpx
          obtain ⟨e, he, hfite⟩ := hfit.listed p hm
          rw [queried_congr _ hg, ExtTreeMap.getD_eq_getD_getElem?, hk, he]
          refine ⟨_, rfl, hfite.measured ⟨x, hx, hg⟩ (fun l hl => ?_) _⟩
          rcases hsn l hl with hshow | rfl
          · exact hshow.congr hg
          · exact ⟨p, hm, ⟨rfl, rfl, rfl⟩, helig⟩
        · exact hkeep.listed p hm
      · rw [Tables.getElem?_insert] at he
        split_ifs at he with hk
        · exact ⟨c, hc, hch ▸ hk⟩
        · exact hkeep.only k e he
    · exact hkeep

lemma CacheFits.advance (hp : Proper worker ticks)
    (h : CacheFits worker ticks (fun s => readSince worker ticks s n) n peers
      (state worker ticks n).cache) :
    CacheFits worker ticks (fun s => readSince worker ticks s (n + 1)) (n + 1) (lastRead worker ticks n)
      (state worker ticks (n + 1)).cache := by
  have hread : ∀ s < n, ∀ m ∈ insert (ticks n).peers (readSince worker ticks s n),
      m ∈ readSince worker ticks s n ∨ m = (ticks n).peers := fun s _ m hm => hm.symm
  have hfirst := h.reconcile hp (hp.distinct n) hread
  have hsplit : ∀ s, ∀ m ∈ readSince worker ticks s (n + 1),
      m ∈ readSince worker ticks s n ∨ m ∈ listsRead worker ticks n := by
    rintro s m ⟨i, hsi, hin, hm⟩
    rcases Nat.lt_or_eq_of_le (Nat.le_of_lt_succ hin) with hlt | rfl
    · exact .inl ⟨i, hsi, hlt, hm⟩
    · exact .inr hm
  cases hx : target worker ticks n with
  | none =>
    rw [(round_idle hx).1, (round_idle hx).2]
    refine ⟨fun p hm => ?_, fun k e he => ?_⟩
    · obtain ⟨e, he, hfit⟩ := hfirst.listed p (mem_sortedPeers.mp hm)
      refine ⟨e, he, hfit.mono (by omega) fun s hs m hm' => .inl ?_⟩
      rcases hsplit s m hm' with hold | rfl | ⟨hq, _⟩
      · exact .inr hold
      · exact .inl rfl
      · exact absurd hx hq
    · obtain ⟨p, hm, hk⟩ := hfirst.only k e he
      exact ⟨p, mem_sortedPeers.mpr hm, hk⟩
  | some x =>
    rw [(round_query hx).1, (round_query hx).2]
    refine hfirst.applyQuery hp hx (fun s _ m hm => ?_) (fun m hm => ?_)
    · rcases hsplit s m hm with hold | rfl | ⟨_, rfl⟩
      · exact .inl (.inr hold)
      · exact .inl (.inl rfl)
      · exact .inr rfl
    · rcases hsplit n m hm with ⟨i, hni, hin, _⟩ | rfl | ⟨_, rfl⟩
      · omega
      · exact .inl ⟨x, (target_peers hx).1, ⟨rfl, rfl, rfl⟩, (target_peers hx).2⟩
      · exact .inr rfl

end Cache

lemma cacheFits (hp : Proper worker ticks) (n : ℕ) :
    CacheFits worker ticks (fun s => readSince worker ticks s (n + 1)) (n + 1) (lastRead worker ticks n)
      (state worker ticks (n + 1)).cache := by
  induction n with
  | zero =>
    refine @CacheFits.advance worker ticks 0 [] hp ⟨?_, ?_⟩
    · simp
    · simp [state]
  | succ n ih => exact ih.advance hp

/-- What a published Host owes to the peer `p` it was made from and to its cache entry. -/
structure Faithful (worker : Worker) (ticks : ℕ → Tick) (n : ℕ) (host : RemoteHost) (p : PeerInfo)
    (e : CachedDiagnostics) : Prop where
  shown : host.id = p.host.key ∧ host.bootId = p.bootId.key ∧ host.session = p.sessionId ∧
    host.state = if p.state = .online then "ONLINE" else "LOST"
  lookup : (state worker ticks (n + 1)).cache[host.id]? = some e ∧ host.diagnostics = e.value
  gateway : host.diagnostics.gatewayHost = host.id ∧ host.diagnostics.gatewayBoot = host.bootId ∧
    host.diagnostics.gatewaySession = host.session
  measured : host.diagnostics.status ∈ measuredStates ∨ host.diagnostics.routes ≠ [] →
    ∃ s j, s ≤ j ∧ j ≤ n ∧ Sourced worker ticks p s j (e.rates, host.diagnostics) ∧
      ∀ l ∈ readSince worker ticks s (n + 1), Shows worker.checks l p
  ineligible : eligibility worker.checks p ≠ .pending →
    host.diagnostics.status = eligibility worker.checks p ∧ host.diagnostics.routes = [] ∧
      e.rates.history = ∅
  renewed : (∀ m, n = m + 1 → ¬ ∃ q ∈ lastRead worker ticks m, SameGeneration q p) →
    host.diagnostics.routes = [] ∧ e.rates.history = ∅ ∨
      Sourced worker ticks p n n (e.rates, host.diagnostics)

lemma lastRead_mem (n : ℕ) : ∃ l ∈ listsRead worker ticks n, ∀ p ∈ l, p ∈ lastRead worker ticks n := by
  cases hx : target worker ticks n with
  | none =>
    rw [(round_idle hx).1]
    exact ⟨_, .inl rfl, fun p hp => mem_sortedPeers.mpr hp⟩
  | some x =>
    rw [(round_query hx).1]
    exact ⟨_, .inr ⟨by simp [hx], rfl⟩, fun p hp => hp⟩

lemma lastRead_nodup (hp : Proper worker ticks) (n : ℕ) :
    ((lastRead worker ticks n).map fun p => p.host).Nodup := by
  cases hx : target worker ticks n with
  | none =>
    rw [(round_idle hx).1]
    exact (((List.perm_insertionSort _ _).map _).nodup_iff).mpr (hp.distinct n)
  | some x =>
    rw [(round_query hx).1]
    exact hp.distinctAfter n (by simp [hx])

lemma lastRead_shows {s m n : ℕ} {p : PeerInfo} (hsm : s ≤ m) (hmn : m < n)
    (h : ∀ l ∈ readSince worker ticks s n, Shows worker.checks l p) :
    ∃ q ∈ lastRead worker ticks m, SameGeneration q p ∧ eligibility worker.checks q = .pending := by
  obtain ⟨l, hl, hsub⟩ := @lastRead_mem worker ticks m
  obtain ⟨q, hq, hg⟩ := h l ⟨m, hsm, hmn, hl⟩
  exact ⟨q, hsub q hq, hg⟩

lemma Entry.faithful (hp : Proper worker ticks) {n : ℕ} {p : PeerInfo} {e : CachedDiagnostics}
    {host : RemoteHost} (hm : p ∈ lastRead worker ticks n)
    (h : Entry worker ticks (fun s => readSince worker ticks s (n + 1)) (n + 1) p e)
    (hshown : host.id = p.host.key ∧ host.bootId = p.bootId.key ∧ host.session = p.sessionId ∧
      host.state = if p.state = .online then "ONLINE" else "LOST")
    (hlookup : (state worker ticks (n + 1)).cache[host.id]? = some e ∧ host.diagnostics = e.value) :
    Faithful worker ticks n host p e := by
  have ⟨hid, hboot, hsession, _⟩ := hshown
  have hv := hlookup.2
  rcases h with rfl | ⟨s, j, hsj, hj, he, hl⟩
  · refine ⟨hshown, hlookup, ?_, ?_, ?_, ?_⟩
    · simp [hv, resetEntry, hid, hboot, hsession]
    · rintro (hs | hr)
      · rw [hv] at hs
        simp only [resetEntry, eligibility, measuredStates] at hs
        split_ifs at hs <;> simp at hs
      · simp [hv, resetEntry] at hr
    · simp [hv, resetEntry]
    · simp [hv, resetEntry]
  · obtain ⟨h₁, h₂, h₃, h₄⟩ := he.generation hp
    refine ⟨hshown, hlookup, ?_, fun _ => ⟨s, j, hsj, by omega, hv ▸ he, hl⟩, fun hne => ?_, fun hnew => ?_⟩
    · rw [hv, hid, hboot, hsession]
      exact ⟨h₁, h₂, h₃⟩
    · obtain ⟨q, hq, hg, helig⟩ := lastRead_shows (by omega) (Nat.lt_succ_self n) hl
      obtain rfl : q = p := List.inj_on_of_nodup_map (lastRead_nodup hp n) hq hm hg.1
      exact absurd helig hne
    · have hsn : s = n := by
        rcases n with _ | m
        · omega
        · by_contra hne
          obtain ⟨q, hq, hg, _⟩ := lastRead_shows (show s ≤ m by omega) (by omega) hl
          exact hnew m rfl ⟨q, hq, hg⟩
      obtain rfl : j = n := by omega
      exact .inr (hv ▸ hsn ▸ he)

/-- Every round publishes a snapshot, and each of its Hosts carries diagnostics of its own boot and
session, measured only while every list read showed that generation as eligible. -/
theorem diagnostics_generation (hp : Proper worker ticks) (n : ℕ) :
    (∃ snapshot, published worker ticks n = some snapshot ∧ ∀ host ∈ snapshot.hosts,
      ∃ p ∈ lastRead worker ticks n, ∃ e, Faithful worker ticks n host p e) ∧
    ∀ (cache : Cache) (peers : List PeerInfo), (peers.map fun p => p.host).Nodup →
      reconcile worker.checks (reconcile worker.checks cache peers) peers =
        reconcile worker.checks cache peers := by
  refine ⟨?_, fun cache _ hn => reconcile_idem worker.checks cache hn⟩
  obtain ⟨next, hnext, hhosts⟩ := convert_hosts worker.checks (ticks n).converted
    (lastRead worker ticks n) (ticks n).lastErrorAfter
  have hfound : ∀ host ∈ next.hosts, ∃ shown,
      ((state worker ticks (n + 1)).cache[host.id]?).map (fun entry =>
        { host with diagnostics := entry.value }) = some shown := by
    intro host hm
    obtain ⟨p, hpm, hpeer⟩ := hhosts host hm
    obtain ⟨e, he, _⟩ := (cacheFits hp n).listed p hpm
    simp [(convertPeer_fields hpeer).1, he]
  obtain ⟨hosts, hmap, hall⟩ := mapM_some hfound
  refine ⟨_, by simp only [published, publish, hnext, Option.bind_some, hmap]; rfl, fun host hm => ?_⟩
  obtain ⟨plain, hplain, hsome⟩ := hall host hm
  obtain ⟨p, hpm, hpeer⟩ := hhosts plain hplain
  obtain ⟨e, he, rfl⟩ := Option.map_eq_some_iff.mp hsome
  obtain ⟨e', he', hfit⟩ := (cacheFits hp n).listed p hpm
  have hfields := convertPeer_fields hpeer
  obtain rfl : e' = e := by
    rw [hfields.1, he'] at he
    exact Option.some.inj he
  exact ⟨p, hpm, e', hfit.faithful hp hpm hfields ⟨he, rfl⟩⟩

def restarted (n : ℕ) : PeerInfo := { gateway 1 with sessionId := if n = 0 then 1 else 2 }

/-- A Gateway that answers every query and starts a new session after the first round. -/
def restarting (n : ℕ) : Tick :=
  { twoGateways n with
    peers := [restarted n]
    query := fun _ => (0,
      { gatewayHost := (restarted n).host
        gatewayBootId := (restarted n).bootId
        gatewaySession := (restarted n).sessionId
        routes := [{ state := 1 }] })
    peersAfter := [restarted n] }

lemma restarting_proper : Proper plainWorker restarting where
  distinct n := by simp [restarting]
  distinctAfter n _ := by simp [restarting]
  identified n p h _ := by
    obtain rfl : p = restarted n := List.mem_singleton.mp (target_peers h).1
    exact ⟨rfl, rfl, rfl⟩

theorem diagnostics_generation_restarting :
    ∃ snapshot, published plainWorker restarting 1 = some snapshot ∧ ∀ host ∈ snapshot.hosts,
      ∃ p ∈ lastRead plainWorker restarting 1, ∃ e, Faithful plainWorker restarting 1 host p e :=
  (diagnostics_generation restarting_proper 1).1

end KcfTools.NetworkObserver
