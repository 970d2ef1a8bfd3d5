import KcfTools.Backend.NetworkObserver
import KcfTools.Lib.Rotation

/-! The diagnostics query rotates fairly over the eligible and due Hosts. -/

namespace KcfTools.NetworkObserver

open Discovery NetworkRates

def Due (worker : Worker) (ticks : ℕ → Tick) (n : ℕ) (peer : PeerInfo) : Prop :=
  peer ∈ (ticks n).peers ∧ candidate worker.checks
    (reconcile worker.checks (state worker ticks n).cache (ticks n).peers) (ticks n) peer

def dueKeys (worker : Worker) (ticks : ℕ → Tick) (n : ℕ) : Set String :=
  { k | ∃ peer, Due worker ticks n peer ∧ peer.host.key = k }

def queriedHost (worker : Worker) (ticks : ℕ → Tick) (n : ℕ) : Option HostIdentity :=
  (target worker ticks n).map fun peer => peer.host

section Select

variable (p : PeerInfo → Bool) (cursor : String)

lemma select_eq (peers : List PeerInfo) (selected : Option PeerInfo) :
    select p cursor peers selected =
      ((peers.filter p).find? fun x => cursor < x.host.key).or (selected.or (peers.filter p).head?) := by
  induction peers generalizing selected with
  | nil => simp [select]
  | cons x xs ih =>
    by_cases hp : p x
    · rw [List.filter_cons_of_pos hp, List.head?_cons]
      by_cases hc : cursor < x.host.key
      · simp only [select, hp, hc, if_true, List.find?_cons, decide_true, Option.some_or]
      · simp only [select, hp, hc, if_true, if_false, ih, List.find?_cons, decide_false]
        cases selected <;> rfl
    · rw [List.filter_cons_of_neg hp]
      simp only [select, hp, if_false, ih, Bool.false_eq_true]

variable {p cursor}

lemma select_next {peers : List PeerInfo} (hs : peers.Pairwise fun a b => a.host.key ≤ b.host.key)
    {x : PeerInfo} (h : select p cursor peers none = some x) :
    (x ∈ peers ∧ p x) ∧
      Rotation.Next { k | ∃ y ∈ peers, p y ∧ y.host.key = k } cursor x.host.key := by
  have hf := hs.filter p
  rw [select_eq] at h
  cases hfind : (peers.filter p).find? fun y => cursor < y.host.key with
  | some y =>
    rw [hfind, Option.some_or] at h
    obtain rfl : y = x := Option.some.inj h
    obtain ⟨hlt, as, bs, hl, has⟩ := List.find?_eq_some_iff_append.mp hfind
    simp only [decide_eq_true_eq] at hlt
    have hmem : y ∈ peers.filter p := by simp [hl]
    rw [List.mem_filter] at hmem
    refine ⟨hmem, ⟨y, hmem.1, hmem.2, rfl⟩, ?_, fun hle => absurd hlt (not_lt.mpr hle)⟩
    rintro _ _ ⟨z, hz, hpz, rfl⟩ hcz
    have hz' : z ∈ as ++ y :: bs := hl ▸ List.mem_filter.mpr ⟨hz, hpz⟩
    rcases List.mem_append.mp hz' with ha | hb
    · have hn := has z ha
      rw [decide_eq_true hcz] at hn
      cases hn
    · rcases List.mem_cons.mp hb with rfl | hb
      · exact le_rfl
      · rw [hl, List.pairwise_append, List.pairwise_cons] at hf
        exact hf.2.1.1 z hb
  | none =>
    have hhead : (peers.filter p).head? = some x := by
      rwa [hfind, Option.none_or, Option.none_or] at h
    obtain ⟨bs, hl⟩ := List.head?_eq_some_iff.mp hhead
    have hmem : x ∈ peers.filter p := by simp [hl]
    have hbehind : ∀ y ∈ peers.filter p, y.host.key ≤ cursor := by
      intro y hy
      have hn := List.find?_eq_none.mp hfind y hy
      rw [decide_eq_true_eq] at hn
      exact not_lt.mp hn
    rw [List.mem_filter] at hmem
    refine ⟨hmem, ⟨x, hmem.1, hmem.2, rfl⟩, ?_, ?_⟩
    · intro hlt
      exact absurd hlt (not_lt.mpr (hbehind x (List.mem_filter.mpr hmem)))
    · rintro _ _ ⟨z, hz, hpz, rfl⟩
      have hz' : z ∈ peers.filter p := List.mem_filter.mpr ⟨hz, hpz⟩
      refine ⟨hbehind z hz', ?_⟩
      rw [hl] at hz' hf
      rcases List.mem_cons.mp hz' with rfl | hb
      · exact le_rfl
      · exact (List.pairwise_cons.mp hf).1 z hb

end Select

lemma sortedPeers_sorted (tick : Tick) :
    (sortedPeers tick).Pairwise fun a b => a.host.key ≤ b.host.key :=
  have : Std.Total fun a b : PeerInfo => a.host.key ≤ b.host.key := ⟨fun _ _ => le_total _ _⟩
  have : IsTrans PeerInfo fun a b => a.host.key ≤ b.host.key := ⟨fun _ _ _ => le_trans⟩
  List.pairwise_insertionSort _ _

lemma mem_sortedPeers {tick : Tick} {p : PeerInfo} : p ∈ sortedPeers tick ↔ p ∈ tick.peers := by
  simp [sortedPeers]

variable (worker : Worker) (ticks : ℕ → Tick)

lemma target_next {n : ℕ} {x : PeerInfo} (h : target worker ticks n = some x) :
    Due worker ticks n x ∧ (ticks n).lastError = 0 ∧
      Rotation.Next (dueKeys worker ticks n) (state worker ticks n).cursor x.host.key := by
  unfold target selection at h
  split at h
  · rename_i he
    obtain ⟨⟨hx, hd⟩, hn⟩ := select_next (sortedPeers_sorted _) h
    refine ⟨⟨mem_sortedPeers.mp hx, hd⟩, he, ?_⟩
    have hset : dueKeys worker ticks n = { k | ∃ y ∈ sortedPeers (ticks n), candidate worker.checks
        (reconcile worker.checks (state worker ticks n).cache (ticks n).peers) (ticks n) y ∧
          y.host.key = k } := by
      ext k
      simp [dueKeys, Due, mem_sortedPeers, and_assoc]
    rw [hset]
    exact hn
  · cases h

lemma rotation_run :
    Rotation.Run (fun n => (queriedHost worker ticks n).map HostIdentity.key)
      (fun n => (state worker ticks n).cursor) (dueKeys worker ticks) where
  next n x hx := by
    rw [queriedHost, Option.map_map, Option.map_eq_some_iff] at hx
    obtain ⟨peer, hp, rfl⟩ := hx
    refine ⟨(target_next worker ticks hp).2.2, ?_⟩
    have hsel : selection worker.checks (state worker ticks n) (ticks n) = some peer := hp
    simp [state, advance, hsel]
  idle n hn := by
    have hsel : selection worker.checks (state worker ticks n) (ticks n) = none :=
      Option.map_eq_none_iff.mp (Option.map_eq_none_iff.mp hn)
    simp [state, advance, hsel]

def listedHosts (a len : ℕ) : Finset HostIdentity :=
  ((List.range' a len).flatMap fun n => (ticks n).peers.map fun p => p.host).toFinset

/-- The Hosts queried in `len` rounds from round `a` on, in order. -/
def queriedHosts (a len : ℕ) : List HostIdentity :=
  (List.range' a len).filterMap (queriedHost worker ticks)

lemma queriedHosts_listed {a len : ℕ} {x : HostIdentity} (hx : x ∈ queriedHosts worker ticks a len) :
    x ∈ listedHosts ticks a len := by
  obtain ⟨n, hn, he⟩ := List.mem_filterMap.mp hx
  obtain ⟨peer, hp, rfl⟩ := Option.map_eq_some_iff.mp he
  have hmem := (target_next worker ticks hp).1.1
  exact List.mem_toFinset.mpr (List.mem_flatMap.mpr ⟨n, hn, List.mem_map.mpr ⟨peer, hmem, rfl⟩⟩)

/-- Let `h` be eligible and due at every query of a stretch of rounds. Between two queries of another
Host `h` is queried, and while `h` waits there are at most as many queries as other Hosts. -/
theorem fair_rotation (a len : ℕ) (h : HostIdentity)
    (hdue : ∀ n, a ≤ n → n < a + len → queriedHost worker ticks n ≠ none →
      ∃ peer, Due worker ticks n peer ∧ peer.host = h) :
    (∀ i j x, a ≤ i → i < j → j < a + len → queriedHost worker ticks i = some x →
      queriedHost worker ticks j = some x → x ≠ h →
        ∃ k, i < k ∧ k < j ∧ queriedHost worker ticks k = some h) ∧
    (h ∉ queriedHosts worker ticks a len →
      (queriedHosts worker ticks a len).length ≤ ((listedHosts ticks a len).erase h).card) := by
  have hcand : ∀ k, a ≤ k → k < a + len →
      (queriedHost worker ticks k).map HostIdentity.key ≠ none → h.key ∈ dueKeys worker ticks k := by
    intro k hk hk' hs
    obtain ⟨peer, hp, rfl⟩ := hdue k hk hk' (fun he => hs (by rw [he]; rfl))
    exact ⟨peer, hp, rfl⟩
  have hkey : ∀ k x, (queriedHost worker ticks k).map HostIdentity.key = some x.key ↔
      queriedHost worker ticks k = some x := by
    intro k x
    simp [Option.map_eq_some_iff]
  constructor
  · intro i j x hi hij hj hxi hxj hxh
    obtain ⟨k, hik, hkj, hk⟩ := (rotation_run worker ticks).served_between hij
      ((hkey i x).mpr hxi) ((hkey j x).mpr hxj) (fun he => hxh (HostIdentity.key_injective he))
      (fun k hk hk' => hcand k (by omega) (by omega))
    exact ⟨k, hik, hkj, (hkey k h).mp hk⟩
  · intro hwait
    have hpass : ∀ k, a ≤ k → k < a + len →
        (queriedHost worker ticks k).map HostIdentity.key ≠ some h.key := by
      intro k hk hk' hs
      exact hwait (List.mem_filterMap.mpr ⟨k, List.mem_range'_1.mpr ⟨hk, hk'⟩, (hkey k h).mp hs⟩)
    have hn := (rotation_run worker ticks).nodup hcand hpass
    have hnodup : (queriedHosts worker ticks a len).Nodup := by
      refine List.Nodup.of_map HostIdentity.key ?_
      rwa [queriedHosts, List.map_filterMap]
    rw [← List.toFinset_card_of_nodup hnodup]
    refine Finset.card_le_card fun x hx => ?_
    rw [List.mem_toFinset] at hx
    exact Finset.mem_erase.mpr ⟨fun he => hwait (he ▸ hx), queriedHosts_listed worker ticks hx⟩

def plainChecks : Checks where
  checkPeerCompatibility _ := {}
  checkEndpointCompatibility _ _ _ _ := {}

def plainWorker : Worker := ⟨plainChecks, {}, false, 0⟩

def gateway (n : UInt8) : PeerInfo where
  host := ⟨Vector.replicate 16 n⟩
  bootId := ⟨Vector.replicate 16 9⟩
  sessionId := 1
  profile := { capabilities := 1024 }

/-- Two Gateways that stay listed and are due in every round. -/
def twoGateways (n : ℕ) : Tick where
  peers := [gateway 1, gateway 2]
  clock _ := 10000000000 * n
  lastError := 0
  query _ := (-etimedout, {})
  observed := 10000000000 * n
  unixMs := 1
  peersAfter := [gateway 1, gateway 2]
  clockAfter := 10000000000 * n
  lastErrorAfter := 0
  converted := 10000000000 * n

lemma twoGateways_due (n : ℕ) (hn : n < 3) : Due plainWorker twoGateways n (gateway 2) := by
  refine ⟨by simp [twoGateways], ?_⟩
  interval_cases n <;> decide +kernel

theorem fair_rotation_twoGateways :
    ∃ k, 0 < k ∧ k < 2 ∧ queriedHost plainWorker twoGateways k = some (gateway 2).host :=
  (fair_rotation plainWorker twoGateways 0 3 (gateway 2).host
    (fun n _ hn _ => ⟨gateway 2, twoGateways_due n hn, rfl⟩)).1 0 2 (gateway 1).host (by decide)
      (by decide) (by decide) (by decide +kernel) (by decide +kernel) (by decide)

end KcfTools.NetworkObserver
