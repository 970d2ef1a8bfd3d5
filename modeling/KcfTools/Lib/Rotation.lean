import Mathlib

/-! Cyclic service of a changing set of linearly ordered keys by a cursor. -/

namespace KcfTools.Rotation

variable {κ : Type*} [LinearOrder κ]

attribute [local instance] LinearOrder.toCircularOrder

/-- The candidate after the cursor, or the least candidate where none is after it. -/
structure Next (candidates : Set κ) (cursor x : κ) : Prop where
  mem : x ∈ candidates
  ahead : cursor < x → ∀ y ∈ candidates, cursor < y → x ≤ y
  wrapped : x ≤ cursor → ∀ y ∈ candidates, y ≤ cursor ∧ x ≤ y

lemma sbtw_def (a b c : κ) : sbtw a b c ↔ a < b ∧ b < c ∨ b < c ∧ c < a ∨ c < a ∧ a < b := Iff.rfl

/-- A candidate that is passed over lies at or behind the served key on the way round. -/
lemma Next.between {candidates : Set κ} {cursor x h : κ} (hx : Next candidates cursor x)
    (hh : h ∈ candidates) (hc : cursor ≠ h) (hxh : x ≠ h) : sbtw cursor x h := by
  rw [sbtw_def]
  rcases lt_or_ge cursor x with hlt | hge
  · rcases lt_or_gt_of_ne hc with hch | hch
    · exact Or.inl ⟨hlt, lt_of_le_of_ne (hx.ahead hlt h hh hch) hxh⟩
    · exact Or.inr (Or.inr ⟨hch, hlt⟩)
  · obtain ⟨hle, hmin⟩ := hx.wrapped hge h hh
    exact Or.inr (Or.inl ⟨lt_of_le_of_ne hmin hxh, lt_of_le_of_ne hle hc.symm⟩)

variable (served : ℕ → Option κ) (cursor : ℕ → κ) (candidates : ℕ → Set κ)

/-- A run of the rotation: a served key becomes the cursor, an idle step keeps it. -/
structure Run : Prop where
  next : ∀ n x, served n = some x → Next (candidates n) (cursor n) x ∧ cursor (n + 1) = x
  idle : ∀ n, served n = none → cursor (n + 1) = cursor n

variable {served cursor candidates}

/-- While `h` is a candidate and passed over, the cursor stays between the start and `h`. -/
lemma Run.sbtw_of_passed (hrun : Run served cursor candidates) {i : ℕ} {x h : κ}
    (hi : served i = some x) (hx : x ≠ h) (n : ℕ) (hn : i < n)
    (hcand : ∀ k, i < k → k < n → served k ≠ none → h ∈ candidates k)
    (hpass : ∀ k, i < k → k < n → served k ≠ some h) :
    (cursor n = x ∧ ∀ k, i < k → k < n → served k = none) ∨ sbtw x (cursor n) h := by
  induction n, hn using Nat.le_induction with
  | base =>
    refine Or.inl ⟨(hrun.next i x hi).2, fun k hk hk' => ?_⟩
    omega
  | succ n hn ih =>
    have hprev := ih (fun k hk hk' => hcand k hk (by omega)) (fun k hk hk' => hpass k hk (by omega))
    cases hs : served n with
    | none =>
      rw [hrun.idle n hs]
      refine hprev.imp (fun hp => ⟨hp.1, fun k hk hk' => ?_⟩) id
      rcases Nat.lt_succ_iff_lt_or_eq.mp hk' with hlt | rfl
      · exact hp.2 k hk hlt
      · exact hs
    | some y =>
      obtain ⟨hy, hcur⟩ := hrun.next n y hs
      have hh : h ∈ candidates n := hcand n hn n.lt_succ_self (by simp [hs])
      have hyh : y ≠ h := fun he => hpass n hn n.lt_succ_self (by rw [hs, he])
      rw [hcur]
      rcases hprev with ⟨hcx, _⟩ | hb
      · rw [hcx] at hy
        exact Or.inr (hy.between hh hx hyh)
      · have hch : cursor n ≠ h := fun he => sbtw_irrefl_right (he ▸ hb)
        exact Or.inr (hb.trans_left (hy.between hh hch hyh))

/-- Between two services of one key, a key that was a candidate throughout is served. -/
theorem Run.served_between (hrun : Run served cursor candidates) {i j : ℕ} {x h : κ} (hij : i < j)
    (hi : served i = some x) (hj : served j = some x) (hx : x ≠ h)
    (hcand : ∀ k, i < k → k ≤ j → served k ≠ none → h ∈ candidates k) :
    ∃ k, i < k ∧ k < j ∧ served k = some h := by
  by_contra hno
  push Not at hno
  have hb := hrun.sbtw_of_passed hi hx (j + 1) (by omega) (fun k hk hk' => hcand k hk (by omega)) ?_
  · rw [(hrun.next j x hj).2] at hb
    rcases hb with ⟨_, hidle⟩ | hb
    · have hnone := hidle j hij j.lt_succ_self
      rw [hj] at hnone
      cases hnone
    · exact sbtw_irrefl_left hb
  · intro k hk hk'
    rcases Nat.lt_succ_iff_lt_or_eq.mp hk' with hlt | rfl
    · exact hno k hk hlt
    · rw [hj]
      exact fun he => hx (Option.some.inj he)

/-- While a candidate waits, nothing is served twice. -/
theorem Run.nodup (hrun : Run served cursor candidates) {a len : ℕ} {h : κ}
    (hcand : ∀ k, a ≤ k → k < a + len → served k ≠ none → h ∈ candidates k)
    (hpass : ∀ k, a ≤ k → k < a + len → served k ≠ some h) :
    ((List.range' a len).filterMap served).Nodup := by
  rw [List.Nodup, List.pairwise_filterMap]
  refine List.Pairwise.imp_of_mem ?_ List.pairwise_lt_range'
  intro i j hi hj hij x hx y hy
  rw [List.mem_range'_1] at hi hj
  rintro rfl
  have hxh : x ≠ h := fun he => hpass i hi.1 hi.2 (by rw [hx, he])
  obtain ⟨k, hik, hkj, hk⟩ := hrun.served_between hij hx hy hxh
    (fun k hk hk' => hcand k (by omega) (by omega))
  exact hpass k (by omega) (by omega) hk

end KcfTools.Rotation
