import KcfTools.Backend.NetworkRates

/-! The VALID figures of a key over a stretch of calls: their windows follow one another without gap
and without overlap. -/

namespace KcfTools.NetworkRates

open Relation

def active (snapshot : RemoteNetworkDiagnostics) (K : Key) (r : RemoteRoute) : Bool :=
  r.state = 1 ∧ key snapshot r = K

/-- The figures that call `n` reports VALID for the key. -/
def reported (calls : ℕ → Call) (K : Key) (n : ℕ) : List NetworkRouteRates :=
  ((marked calls n).routes.filter fun r => active (marked calls n) K r ∧ r.rates.status = .valid).map
    RemoteRoute.rates

def deltaCounters (d : NetworkCounterDelta) : Counters :=
  ![d.packetsSent, d.packetsReceived, d.samplesPublished, d.dropped, d.duplicate, d.outOfOrder,
    d.missedSequence, d.malformed, d.localSamplesSkipped]

/-- The key is observed without a break from call `a`, where its measuring starts, to call `b`. -/
structure Stretch (calls : ℕ → Call) (K : Key) (a b : ℕ) : Prop where
  le : a ≤ b
  single : ∀ k, a ≤ k → k ≤ b → ((calls k).1.routes.filter (active (calls k).1 K)).length ≤ 1
  observed : ∀ k, a ≤ k → k ≤ b → (firstActive (calls k).1 K).isSome
  increasing : ∀ k, a ≤ k → k < b → (calls k).2 < (calls (k + 1)).2
  nondecreasing : ∀ k, a ≤ k → k < b → ∀ o o', firstActive (calls k).1 K = some o →
    firstActive (calls (k + 1)).1 K = some o' → ∀ i, values o i ≤ values o' i
  starts : ∀ k, k + 1 = a → ∀ o o', firstActive (calls k).1 K = some o →
    firstActive (calls a).1 K = some o' → ¬ ((calls k).2 < (calls a).2 ∧ ∀ i, values o i ≤ values o' i)

lemma deltaCounters_counterDelta (delta : Counters) : deltaCounters (counterDelta delta) = delta := by
  funext i
  fin_cases i <;> rfl

lemma observeRoute_silent {history : HistoryMap} {call : Call} {r : RemoteRoute}
    {w : Option (Metering.Window Sample)} (hs : success call.1) (ha : r.state = 1)
    (hw : history[key call.1 r]? = w.map toHistory)
    (hb : Metering.measure Continues Long w (sample call r) = none) :
    (observeRoute history call.1 call.2 r).1.status ≠ .valid := by
  rw [observeRoute_status hs ha hw, hb]
  simp

lemma length_le_one {α : Type*} {l : List α} {x : α} (h : l.length ≤ 1) (hx : x ∈ l) : l = [x] := by
  match l, h with
  | [y], _ => rw [List.mem_singleton.mp hx]

/-- A key's reports are the measurements of its window. -/
lemma reported_eq (calls : ℕ → Call) (K : Key) (n : ℕ)
    (h : ((calls n).1.routes.filter (active (calls n).1 K)).length ≤ 1) :
    reported calls K n = ((Metering.measured Continues Long (samples calls K) n).map fun p =>
      validRates (fun i => p.2.1 i - p.1.1 i) (seconds (p.2.2 - p.1.2))).toList := by
  rw [reported, marked_routes, List.filter_map, List.map_map]
  have hsplit : ((calls n).1.routes.filter ((fun r => decide (active (marked calls n) K r = true ∧
      r.rates.status = .valid)) ∘ fun r => { r with rates :=
        (observeRoute (tracker calls n).history (calls n).1 (calls n).2 r).1 })) =
      ((calls n).1.routes.filter (active (calls n).1 K)).filter fun r => decide
        ((observeRoute (tracker calls n).history (calls n).1 (calls n).2 r).1.status = .valid) := by
    rw [List.filter_filter]
    refine List.filter_congr fun r _ => Bool.eq_iff_iff.mpr ?_
    have hsame : active (marked calls n) K { r with rates :=
        (observeRoute (tracker calls n).history (calls n).1 (calls n).2 r).1 } =
          active (calls n).1 K r := rfl
    simp only [Function.comp, hsame, decide_eq_true_eq, Bool.and_eq_true, and_comm]
  rw [hsplit]
  cases hf : firstActive (calls n).1 K with
  | none =>
    have hs : Metering.measured Continues Long (samples calls K) n = none := by
      simp [Metering.measured, samples, hf]
    have hnone : ((calls n).1.routes.filter (active (calls n).1 K)).filter (fun r => decide
        ((observeRoute (tracker calls n).history (calls n).1 (calls n).2 r).1.status = .valid)) = [] := by
      refine List.filter_eq_nil_iff.mpr fun r hr => ?_
      obtain ⟨hm, hr⟩ := List.mem_filter.mp hr
      obtain ⟨ha, rfl⟩ := of_decide_eq_true hr
      have hfail : ¬ (success (calls n).1 ∧ r.state = 1) := by
        intro hok
        have hsome := firstActive_isSome hok.1 hm ha
        simp [hf] at hsome
      simp [observeRoute_inactive hfail]
    rw [hnone, hs]
    rfl
  | some r =>
    obtain ⟨hs, hm, ha, rfl⟩ := firstActive_eq_some hf
    have hin : r ∈ (calls n).1.routes.filter (active (calls n).1 (key (calls n).1 r)) :=
      List.mem_filter.mpr ⟨hm, by simp [active, ha]⟩
    have hsample : samples calls (key (calls n).1 r) n = some (sample (calls n) r) := by
      simp [samples, hf]
    rw [length_le_one h hin]
    cases hb : Metering.measure Continues Long (Metering.window Continues Long
        (samples calls (key (calls n).1 r)) n) (sample (calls n) r) with
    | none =>
      have hq := observeRoute_silent hs ha (tracker_window calls _ n) hb
      simp [Metering.measured, hsample, hb, hq]
    | some b =>
      have hq := observeRoute_valid hs ha (tracker_window calls _ n) hb
      simp only [Metering.measured, hsample, Option.bind_some, hb, Option.map_some, Option.toList_some]
      rw [List.filter_cons_of_pos (by simp [hq, validRates]), List.filter_nil, List.map_singleton]
      simp only [Function.comp, hq]
      rfl

lemma additive_counter (i : Fin 9) :
    Metering.Additive Continues fun p q : Sample => (q.1 i).toNat - (p.1 i).toNat where
  self a := Nat.sub_self _
  add a b c hab hbc := by
    have h₁ := UInt64.le_iff_toNat_le.mp (continues_chain hab i)
    have h₂ := UInt64.le_iff_toNat_le.mp (continues_chain hbc i)
    omega

lemma additive_elapsed : Metering.Additive Continues fun p q : Sample => q.2 - p.2 where
  self _ := Int.sub_self _
  add a b c _ _ := sub_add_sub_cancel' b.2 a.2 c.2

/-- A measurement reaches back to the start of its window. -/
lemma elapsed_measured {calls : ℕ → Call} {K : Key} {n : ℕ} {p : Sample × Sample}
    (h : Metering.measured Continues Long (samples calls K) n = some p) :
    elapsed calls K n = p.2.2 - p.1.2 := by
  obtain ⟨s, hs, h⟩ := Option.bind_eq_some_iff.mp h
  obtain ⟨b, hb, rfl⟩ := Option.map_eq_some_iff.mp h
  obtain ⟨v, hv, rfl, -⟩ := Metering.measure_eq_some.mp hb
  obtain ⟨o, -, rfl⟩ := samples_eq_some.mp hs
  rw [elapsed, tracker_window, hv]
  rfl

section Stretch

variable {calls : ℕ → Call} {K : Key} {a b : ℕ} (h : Stretch calls K a b)

include h

lemma Stretch.unbroken : Metering.Unbroken Continues (samples calls K) a b := by
  intro k hak hkb
  obtain ⟨x, hx⟩ := Option.isSome_iff_exists.mp (h.observed k hak (by omega))
  obtain ⟨y, hy⟩ := Option.isSome_iff_exists.mp (h.observed (k + 1) (by omega) (by omega))
  exact ⟨_, _, samples_eq_some.mpr ⟨x, hx, rfl⟩, samples_eq_some.mpr ⟨y, hy, rfl⟩,
    h.increasing k hak hkb, h.nondecreasing k hak hkb x y hx hy⟩

lemma Stretch.restarts : Metering.Restarts Continues (samples calls K) a := by
  intro k hk l s hl hs hc
  obtain ⟨x, hx, rfl⟩ := samples_eq_some.mp hl
  obtain ⟨y, hy, rfl⟩ := samples_eq_some.mp hs
  exact h.starts k hk x y hx hy hc

/-- A sum over the reports is a sum over the measurements. -/
lemma Stretch.sum_reported {M : Type*} [AddCommMonoid M] (g : ℕ → NetworkRouteRates → M) :
    ∑ k ∈ Finset.Icc a b, ((reported calls K k).map (g k)).sum =
      ∑ k ∈ Finset.Icc a b, (Metering.measured Continues Long (samples calls K) k).elim 0 fun p =>
        g k (validRates (fun i => p.2.1 i - p.1.1 i) (seconds (p.2.2 - p.1.2))) := by
  refine Finset.sum_congr rfl fun k hk => ?_
  rw [Finset.mem_Icc] at hk
  rw [reported_eq calls K k (h.single k hk.1 hk.2)]
  cases Metering.measured Continues Long (samples calls K) k with
  | none => simp
  | some p => simp

end Stretch

lemma measured_path {calls : ℕ → Call} {K : Key} {k : ℕ} {p : Sample × Sample}
    (h : Metering.measured Continues Long (samples calls K) k = some p) : ∀ i, p.1.1 i ≤ p.2.1 i := by
  obtain ⟨s, hs, h⟩ := Option.bind_eq_some_iff.mp h
  obtain ⟨b, hb, rfl⟩ := Option.map_eq_some_iff.mp h
  obtain ⟨v, hv, rfl, hc, _⟩ := Metering.measure_eq_some.mp hb
  cases k with
  | zero => cases hv
  | succ k =>
    obtain ⟨hl, m, hm, hstart, hu, _⟩ := Metering.window_sound hv
    exact continues_chain ((hu.path hm hstart hl).tail hc)

/-- From the start of a stretch to a VALID call, the reported deltas add up to the growth of each counter. Each
report's interval is the time for which its window was open, and these times add up to the time between the two
calls. -/
theorem windows_tile (calls : ℕ → Call) (K : Key) (a b : ℕ) (h : Stretch calls K a b)
    (hb : reported calls K b ≠ []) :
    ∃ o o', firstActive (calls a).1 K = some o ∧ firstActive (calls b).1 K = some o' ∧
      (∀ i, values o i ≤ values o' i ∧ ∑ k ∈ Finset.Icc a b,
        ((reported calls K k).map fun r => (deltaCounters r.delta i).toNat).sum =
          (values o' i).toNat - (values o i).toNat) ∧
      (∀ k, a ≤ k → k ≤ b → ∀ r ∈ reported calls K k, r.intervalSeconds = seconds (elapsed calls K k)) ∧
      ∑ k ∈ Finset.Icc a b, ((reported calls K k).map fun _ => elapsed calls K k).sum =
        (calls b).2 - (calls a).2 := by
  obtain ⟨o, ho⟩ := Option.isSome_iff_exists.mp (h.observed a le_rfl h.le)
  obtain ⟨o', ho'⟩ := Option.isSome_iff_exists.mp (h.observed b h.le le_rfl)
  have hso : samples calls K a = some (values o, (calls a).2) := samples_eq_some.mpr ⟨o, ho, rfl⟩
  have hso' : samples calls K b = some (values o', (calls b).2) := samples_eq_some.mpr ⟨o', ho', rfl⟩
  have hvalid : (Metering.measured Continues Long (samples calls K) b).isSome := by
    rw [reported_eq calls K b (h.single b h.le le_rfl)] at hb
    cases hm : Metering.measured Continues Long (samples calls K) b with
    | none => simp [hm] at hb
    | some p => rfl
  refine ⟨o, o', ho, ho', fun i => ⟨?_, ?_⟩, fun k hak hkb r hr => ?_, ?_⟩
  · exact continues_chain (h.unbroken.path h.le hso hso') i
  · have htiles := Metering.tiles (additive_counter i) h.restarts h.le hso hso' h.unbroken hvalid
    rw [h.sum_reported fun _ r => (deltaCounters r.delta i).toNat, ← htiles]
    refine Finset.sum_congr rfl fun k _ => ?_
    cases hm : Metering.measured Continues Long (samples calls K) k with
    | none => rfl
    | some p =>
      have hle := measured_path hm i
      simp only [Option.elim_some, validRates, deltaCounters_counterDelta]
      exact UInt64.toNat_sub_of_le _ _ hle
  · rw [reported_eq calls K k (h.single k hak hkb)] at hr
    obtain ⟨p, hp, rfl⟩ := Option.map_eq_some_iff.mp (Option.mem_toList.mp hr)
    rw [elapsed_measured hp]
    rfl
  · have htiles := Metering.tiles additive_elapsed h.restarts h.le hso hso' h.unbroken hvalid
    rw [h.sum_reported fun k _ => elapsed calls K k, ← htiles]
    refine Finset.sum_congr rfl fun k _ => ?_
    cases hm : Metering.measured Continues Long (samples calls K) k with
    | none => rfl
    | some p => exact elapsed_measured hm

/-- An observation every 300 ms, seven packets further each time. -/
def shortSights (n : ℕ) : Call := (sight (100 + UInt64.ofNat (7 * n)), 300000000 * n)

def sightKey : Key := key (sight 0) { state := 1, sending := true, routeId := 33 }

lemma firstActive_sight (p : UInt64) : firstActive (sight p) sightKey =
    some { state := 1, sending := true, routeId := 33, packetsSent := p } := rfl

theorem windows_tile_shortSights : ∃ o o', firstActive (shortSights 0).1 sightKey = some o ∧
    firstActive (shortSights 4).1 sightKey = some o' ∧
      (∀ i, values o i ≤ values o' i ∧ ∑ k ∈ Finset.Icc 0 4,
        ((reported shortSights sightKey k).map fun r => (deltaCounters r.delta i).toNat).sum =
          (values o' i).toNat - (values o i).toNat) ∧
      (∀ k, 0 ≤ k → k ≤ 4 → ∀ r ∈ reported shortSights sightKey k,
        r.intervalSeconds = seconds (elapsed shortSights sightKey k)) ∧
      ∑ k ∈ Finset.Icc 0 4, ((reported shortSights sightKey k).map fun _ =>
        elapsed shortSights sightKey k).sum =
        (shortSights 4).2 - (shortSights 0).2 := by
  refine windows_tile shortSights sightKey 0 4 ⟨by decide, ?_, ?_, ?_, ?_, ?_⟩ ?_
  · exact fun k _ _ => (List.length_filter_le _ _).trans (le_of_eq rfl)
  · exact fun k _ _ => by rw [shortSights, firstActive_sight]; rfl
  · intro k _ _
    change (300000000 : ℤ) * k < 300000000 * (k + 1 : ℕ)
    push_cast
    omega
  · intro k _ hk o o' ho ho'
    simp only [shortSights, firstActive_sight, Option.some.injEq] at ho ho'
    subst ho ho'
    interval_cases k <;> decide
  · intro k hk
    cases hk
  · decide +kernel

end KcfTools.NetworkRates
