import Mathlib

/-! Tables along a run: what a table holds is what has been put into it and not been dropped since. -/

namespace KcfTools.Histories

variable {κ ν : Type*}

/-- Each step puts entries into the table and drops others. -/
structure Kept (table : ℕ → κ → Option ν) (put drop : ℕ → κ → ν → Prop) : Prop where
  start : ∀ k, table 0 k = none
  step : ∀ n k v, table (n + 1) k = some v ↔ put n k v ∨ table n k = some v ∧ ¬ drop n k v

variable {table : ℕ → κ → Option ν} {put drop : ℕ → κ → ν → Prop}

/-- The entry was put in step `m`, and is in the table before step `n`. -/
def Since (put drop : ℕ → κ → ν → Prop) (m n : ℕ) (k : κ) (v : ν) : Prop :=
  m < n ∧ put m k v ∧ ∀ i, m < i → i < n → ¬ drop i k v

lemma since_succ {m n : ℕ} {k : κ} {v : ν} :
    Since put drop m (n + 1) k v ↔ m = n ∧ put n k v ∨ Since put drop m n k v ∧ ¬ drop n k v := by
  constructor
  · rintro ⟨hm, hp, hd⟩
    rcases Nat.lt_succ_iff_lt_or_eq.mp hm with hlt | rfl
    · exact .inr ⟨⟨hlt, hp, fun i hi hn => hd i hi (by omega)⟩, hd n hlt (by omega)⟩
    · exact .inl ⟨rfl, hp⟩
  · rintro (⟨rfl, hp⟩ | ⟨⟨hlt, hp, hd⟩, hn⟩)
    · exact ⟨by omega, hp, fun i hi hn => by omega⟩
    · refine ⟨by omega, hp, fun i hi hin => ?_⟩
      rcases Nat.lt_succ_iff_lt_or_eq.mp hin with hlt' | rfl
      · exact hd i hi hlt'
      · exact hn

lemma Kept.exact (h : Kept table put drop) (n : ℕ) (k : κ) (v : ν) :
    table n k = some v ↔ ∃ m, Since put drop m n k v := by
  induction n with
  | zero =>
    rw [h.start]
    exact iff_of_false (by simp) fun ⟨m, hm, _⟩ => Nat.not_lt_zero m hm
  | succ n ih =>
    rw [h.step, ih]
    simp only [since_succ]
    constructor
    · rintro (hp | ⟨⟨m, hm⟩, hd⟩)
      · exact ⟨n, .inl ⟨rfl, hp⟩⟩
      · exact ⟨m, .inr ⟨hm, hd⟩⟩
    · rintro ⟨m, ⟨rfl, hp⟩ | ⟨hm, hd⟩⟩
      · exact .inl hp
      · exact .inr ⟨⟨m, hm⟩, hd⟩

section Lists

variable {α : Type*} {l new : List α} {t : ℕ} {a x : α}

lemma getElem?_earlier (h : l[t]? = some a) : (l ++ new)[t]? = some a := by
  rw [List.getElem?_append_left (List.getElem?_eq_some_iff.mp h).1, h]

lemma getElem?_snoc (h : (l ++ [x])[t]? = some a) : l[t]? = some a ∨ t = l.length ∧ a = x := by
  rw [List.getElem?_append] at h
  split_ifs at h with ht
  · exact .inl h
  · have hlt := (List.getElem?_eq_some_iff.mp h).1
    simp only [List.length_singleton] at hlt
    obtain rfl : t = l.length := by omega
    simp only [Nat.sub_self, List.getElem?_cons_zero, Option.some.injEq] at h
    exact .inr ⟨rfl, h.symm⟩

end Lists

end KcfTools.Histories
