import Mathlib

/-! Measurements over consecutive samples. A window keeps its first and its latest sample. It is
lost when a sample is missing or does not continue the latest one, and opens anew at a sample that
completes a measurement. -/

namespace KcfTools.Metering

structure Window (σ : Type*) where
  baseline : σ
  latest : σ

variable {σ : Type*} (continues long : σ → σ → Prop) [DecidableRel continues] [DecidableRel long]

def measure (w : Option (Window σ)) (s : σ) : Option σ :=
  w.bind fun w => if continues w.latest s ∧ long w.baseline s then some w.baseline else none

def advance (w : Option (Window σ)) (s : σ) : Window σ :=
  match w with
  | none => ⟨s, s⟩
  | some w => if continues w.latest s ∧ ¬ long w.baseline s then ⟨w.baseline, s⟩ else ⟨s, s⟩

def window (obs : ℕ → Option σ) : ℕ → Option (Window σ)
  | 0 => none
  | n + 1 => (obs n).map (advance continues long (window obs n))

@[simp] lemma advance_latest (w : Option (Window σ)) (s : σ) :
    (advance continues long w s).latest = s := by
  cases w with
  | none => rfl
  | some w => simp only [advance]; split <;> rfl

def Unbroken (obs : ℕ → Option σ) (m n : ℕ) : Prop :=
  ∀ k, m ≤ k → k < n → ∃ a b, obs k = some a ∧ obs (k + 1) = some b ∧ continues a b

def Silent (obs : ℕ → Option σ) (m n : ℕ) : Prop :=
  ∀ k, m < k → k < n → ∀ s, obs k = some s → measure continues long (window continues long obs k) s = none

/-- A stretch from the observation `a` of step `m` up to a sample `s` taken at step `n + 1`. -/
structure Spans (obs : ℕ → Option σ) (m n : ℕ) (a s : σ) : Prop where
  le : m ≤ n
  first : obs m = some a
  unbroken : Unbroken continues obs m n
  last : ∃ l, obs n = some l ∧ continues l s
  silent : Silent continues long obs m (n + 1)

variable {continues long}

lemma measure_eq_some {w : Option (Window σ)} {s b : σ} :
    measure continues long w s = some b ↔
      ∃ v, w = some v ∧ v.baseline = b ∧ continues v.latest s ∧ long b s := by
  cases w with
  | none => simp [measure]
  | some w =>
    constructor
    · intro h
      simp only [measure, Option.bind_some] at h
      split at h
      · rename_i hc
        obtain rfl := Option.some.inj h
        exact ⟨w, rfl, rfl, hc⟩
      · cases h
    · rintro ⟨v, hv, rfl, hc⟩
      obtain rfl := Option.some.inj hv
      simp [measure, hc]

omit [DecidableRel continues] in
lemma Unbroken.extend {obs : ℕ → Option σ} {m n : ℕ} {a b : σ} (h : Unbroken continues obs m n)
    (ha : obs n = some a) (hb : obs (n + 1) = some b) (hc : continues a b) :
    Unbroken continues obs m (n + 1) := by
  intro k hm hk
  rcases Nat.lt_succ_iff_lt_or_eq.mp hk with hlt | rfl
  · exact h k hm hlt
  · exact ⟨a, b, ha, hb, hc⟩

lemma Silent.extend {obs : ℕ → Option σ} {m n : ℕ} (h : Silent continues long obs m n)
    (hn : ∀ s, obs n = some s → measure continues long (window continues long obs n) s = none) :
    Silent continues long obs m (n + 1) := by
  intro k hm hk s hs
  rcases Nat.lt_succ_iff_lt_or_eq.mp hk with hlt | rfl
  · exact h k hm hlt s hs
  · exact hn s hs

/-- The window after step `n` reaches back without a break and without a measurement. -/
lemma window_sound {obs : ℕ → Option σ} {n : ℕ} {w : Window σ}
    (h : window continues long obs (n + 1) = some w) :
    obs n = some w.latest ∧ ∃ m ≤ n, obs m = some w.baseline ∧ Unbroken continues obs m n ∧
      Silent continues long obs m (n + 1) := by
  induction n generalizing w with
  | zero =>
    simp only [window, Option.map_eq_some_iff] at h
    obtain ⟨s, hs, rfl⟩ := h
    refine ⟨hs, 0, le_rfl, hs, ?_, ?_⟩
    · intro k _ hk
      omega
    · intro k hm hk
      omega
  | succ n ih =>
    rw [window, Option.map_eq_some_iff] at h
    obtain ⟨s, hs, rfl⟩ := h
    refine ⟨by simpa using hs, ?_⟩
    have hfresh : ∃ m ≤ n + 1, obs m = some s ∧ Unbroken continues obs m (n + 1) ∧
        Silent continues long obs m (n + 1 + 1) := by
      refine ⟨n + 1, le_rfl, hs, ?_, ?_⟩
      · intro k hm hk
        omega
      · intro k hm hk
        omega
    cases hw : window continues long obs (n + 1) with
    | none => exact hfresh
    | some v =>
      simp only [advance]
      split
      · rename_i hc
        obtain ⟨hl, m, hm, hb, hu, hq⟩ := ih hw
        refine ⟨m, by omega, hb, hu.extend hl hs hc.1, hq.extend ?_⟩
        intro s' hs'
        obtain rfl : s' = s := Option.some.inj (hs'.symm.trans hs)
        simp [measure, hw, hc]
      · exact hfresh

omit [DecidableRel continues] in
lemma Unbroken.path {obs : ℕ → Option σ} {m n : ℕ} {a b : σ} (h : Unbroken continues obs m n)
    (hmn : m ≤ n) (ha : obs m = some a) (hb : obs n = some b) :
    Relation.ReflTransGen continues a b := by
  induction n, hmn using Nat.le_induction generalizing b with
  | base =>
    rw [Option.some.inj (ha.symm.trans hb)]
  | succ n hmn ih =>
    obtain ⟨x, y, hx, hy, hc⟩ := h n hmn n.lt_succ_self
    obtain rfl : y = b := Option.some.inj (hy.symm.trans hb)
    exact (ih (fun k hm hk => h k hm (by omega)) hx).tail hc

/-- Along a stretch without measurement the window keeps a baseline at or before the stretch. -/
lemma window_complete {obs : ℕ → Option σ} {m n : ℕ} {a : σ} (hmn : m ≤ n) (ha : obs m = some a)
    (hu : Unbroken continues obs m n) (hq : Silent continues long obs m (n + 1)) :
    ∃ w, window continues long obs (n + 1) = some w ∧
      Relation.ReflTransGen continues w.baseline a := by
  induction n, hmn using Nat.le_induction with
  | base =>
    have hw : window continues long obs (m + 1) =
        some (advance continues long (window continues long obs m) a) := by rw [window, ha]; rfl
    obtain ⟨_, j, hj, hb, hu', _⟩ := window_sound hw
    exact ⟨_, hw, hu'.path hj hb ha⟩
  | succ n hmn ih =>
    obtain ⟨w, hw, hp⟩ := ih (fun k hm hk => hu k hm (by omega)) (fun k hm hk => hq k hm (by omega))
    obtain ⟨x, y, hx, hy, hc⟩ := hu n hmn n.lt_succ_self
    have hl : w.latest = x := Option.some.inj ((window_sound hw).1.symm.trans hx)
    have hn : ¬ long w.baseline y := by
      intro hlong
      have hm := hq (n + 1) (by omega) (by omega) y hy
      rw [hw] at hm
      simp [measure, hl, hc, hlong] at hm
    refine ⟨⟨w.baseline, y⟩, ?_, hp⟩
    rw [window, hy, hw]
    simp [advance, hl, hc, hn]

/-- A sample completes a measurement with baseline `b` only over a stretch that starts at `b`. -/
lemma measure_sound {obs : ℕ → Option σ} {n : ℕ} {s b : σ}
    (h : measure continues long (window continues long obs (n + 1)) s = some b) :
    long b s ∧ ∃ m, Spans continues long obs m n b s := by
  obtain ⟨w, hw, rfl, hc, hl⟩ := measure_eq_some.mp h
  obtain ⟨hn, m, hm, hb, hu, hq⟩ := window_sound hw
  exact ⟨hl, m, hm, hb, hu, ⟨_, hn, hc⟩, hq⟩

lemma measure_complete (hlong : ∀ a b s, continues a b → long b s → long a s)
    {obs : ℕ → Option σ} {m n : ℕ} {s a : σ} (h : Spans continues long obs m n a s)
    (hl : long a s) : (measure continues long (window continues long obs (n + 1)) s).isSome := by
  obtain ⟨w, hw, hp⟩ := window_complete h.le h.first h.unbroken h.silent
  obtain ⟨l, hn, hc⟩ := h.last
  have hlatest : w.latest = l := Option.some.inj ((window_sound hw).1.symm.trans hn)
  have hb : ∀ b, Relation.ReflTransGen continues b a → long b s := by
    intro b hp
    induction hp using Relation.ReflTransGen.head_induction_on with
    | refl => exact hl
    | head hab _ ih => exact hlong _ _ _ hab ih
  rw [hw]
  simp [measure, hlatest, hc, hb _ hp]

section Tiling

variable (continues long)

/-- The measurement that step `k` completes, from its baseline to its sample. -/
def measured (obs : ℕ → Option σ) (k : ℕ) : Option (σ × σ) :=
  (obs k).bind fun s => (measure continues long (window continues long obs k) s).map fun b => (b, s)

/-- The sample of step `m` continues no earlier one. -/
def Restarts (obs : ℕ → Option σ) (m : ℕ) : Prop :=
  ∀ k, k + 1 = m → ∀ l s, obs k = some l → obs m = some s → ¬ continues l s

/-- A quantity that adds up along continued samples. -/
structure Additive {M : Type*} [AddMonoid M] (f : σ → σ → M) : Prop where
  self : ∀ a, f a a = 0
  add : ∀ a b c, Relation.ReflTransGen continues a b → Relation.ReflTransGen continues b c →
    f a b + f b c = f a c

variable {continues long} {obs : ℕ → Option σ} {m n : ℕ} {a b : σ}

lemma window_latest {w : Window σ} (h : window continues long obs (n + 1) = some w) :
    obs n = some w.latest := (window_sound h).1

lemma measure_restart (h : Restarts continues obs m) (ha : obs m = some a) :
    measure continues long (window continues long obs m) a = none := by
  cases m with
  | zero => rfl
  | succ m =>
    cases hw : window continues long obs (m + 1) with
    | none => rfl
    | some w =>
      have hc : ¬ continues w.latest a := h m rfl _ _ (window_latest hw) ha
      simp [measure, hc]

lemma window_restart (h : Restarts continues obs m) (ha : obs m = some a) :
    window continues long obs (m + 1) = some ⟨a, a⟩ := by
  rw [window, ha, Option.map_some]
  cases m with
  | zero => rfl
  | succ m =>
    cases hw : window continues long obs (m + 1) with
    | none => rfl
    | some w =>
      have hc : ¬ continues w.latest a := h m rfl _ _ (window_latest hw) ha
      simp [advance, hc]

lemma window_measured {p : σ × σ} (h : measured continues long obs n = some p) :
    obs n = some p.2 ∧ window continues long obs (n + 1) = some ⟨p.2, p.2⟩ := by
  obtain ⟨s, hs, h⟩ := Option.bind_eq_some_iff.mp h
  obtain ⟨b, hb, rfl⟩ := Option.map_eq_some_iff.mp h
  obtain ⟨v, hv, rfl, _, hl⟩ := measure_eq_some.mp hb
  refine ⟨hs, ?_⟩
  rw [window, hs, hv]
  simp [advance, hl]

/-- Since a restart, the measurements cover exactly the samples before the open window. -/
lemma tiles_window {M : Type*} [AddCommMonoid M] {f : σ → σ → M} (hf : Additive continues f)
    (h : Restarts continues obs m) (hmn : m ≤ n) (ha : obs m = some a) (hu : Unbroken continues obs m n) :
    ∃ w, window continues long obs (n + 1) = some w ∧ Relation.ReflTransGen continues a w.baseline ∧
      Relation.ReflTransGen continues w.baseline w.latest ∧
        ∑ k ∈ Finset.Icc m n, (measured continues long obs k).elim 0 (fun p => f p.1 p.2) =
          f a w.baseline := by
  induction n, hmn using Nat.le_induction with
  | base =>
    refine ⟨⟨a, a⟩, window_restart h ha, .refl, .refl, ?_⟩
    simp [measured, ha, measure_restart h ha, hf.self]
  | succ n hmn ih =>
    obtain ⟨w, hw, hbase, hlatest, hsum⟩ := ih fun k hm hk => hu k hm (by omega)
    obtain ⟨x, y, hx, hy, hc⟩ := hu n hmn n.lt_succ_self
    obtain rfl : x = w.latest := Option.some.inj (hx.symm.trans (window_latest hw))
    have hpath : Relation.ReflTransGen continues w.baseline y := hlatest.tail hc
    have hsplit : Finset.Icc m (n + 1) = insert (n + 1) (Finset.Icc m n) := by
      ext k
      simp only [Finset.mem_Icc, Finset.mem_insert]
      omega
    have hnew : n + 1 ∉ Finset.Icc m n := by simp
    rw [hsplit, Finset.sum_insert hnew, hsum]
    by_cases hl : long w.baseline y
    · have hm : measured continues long obs (n + 1) = some (w.baseline, y) := by
        simp [measured, measure, hy, hw, hc, hl]
      refine ⟨⟨y, y⟩, (window_measured hm).2, hbase.trans hpath, .refl, ?_⟩
      rw [hm, add_comm]
      exact hf.add _ _ _ hbase hpath
    · have hm : measured continues long obs (n + 1) = none := by
        simp [measured, measure, hy, hw, hl]
      refine ⟨⟨w.baseline, y⟩, ?_, hbase, hpath, ?_⟩
      · rw [window, hy, hw]
        simp [advance, hc, hl]
      · rw [hm]
        exact zero_add _

/-- Up to a sample that completes a measurement, nothing is left out and nothing counts twice. -/
lemma tiles {M : Type*} [AddCommMonoid M] {f : σ → σ → M} (hf : Additive continues f)
    (h : Restarts continues obs m) (hmn : m ≤ n) (ha : obs m = some a) (hb : obs n = some b)
    (hu : Unbroken continues obs m n) (hn : (measured continues long obs n).isSome) :
    ∑ k ∈ Finset.Icc m n, (measured continues long obs k).elim 0 (fun p => f p.1 p.2) = f a b := by
  obtain ⟨w, hw, _, _, hsum⟩ := @tiles_window σ continues long _ _ obs m n a M _ f hf h hmn ha hu
  obtain ⟨p, hp⟩ := Option.isSome_iff_exists.mp hn
  obtain ⟨hp2, hw'⟩ := window_measured hp
  obtain rfl : b = p.2 := Option.some.inj (hb.symm.trans hp2)
  obtain rfl : w = ⟨p.2, p.2⟩ := Option.some.inj (hw.symm.trans hw')
  exact hsum

end Tiling

end KcfTools.Metering
