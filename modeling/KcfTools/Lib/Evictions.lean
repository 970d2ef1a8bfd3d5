import Mathlib

/-! Tables of a bounded size: entries that may go are dropped in the order of their keys until the rest fits. -/

namespace KcfTools.Evictions

open Std

variable {κ ν : Type*} (bound : ℕ) (may : ν → Prop) [DecidablePred may]

/-- The first `n` keys that may go. -/
def victims (n : ℕ) (l : List (κ × ν)) : List κ := ((l.filter fun e => may e.2).take n).map Prod.fst

section Victims

variable {may} {n : ℕ} {l : List (κ × ν)}

lemma victims_cons {e : κ × ν} : victims may n (e :: l) =
    if may e.2 then (if n = 0 then [] else e.1 :: victims may (n - 1) l) else victims may n l := by
  unfold victims
  by_cases he : may e.2
  · cases n <;> simp [he]
  · simp [he]

lemma mem_victims {k : κ} (h : k ∈ victims may n l) : ∃ v, (k, v) ∈ l ∧ may v := by
  obtain ⟨⟨k', v⟩, he, rfl⟩ := List.mem_map.mp h
  have hf := List.mem_filter.mp (List.mem_of_mem_take he)
  exact ⟨v, hf.1, by simpa using hf.2⟩

/-- Of the entries that may go, those with smaller keys go first. -/
lemma victims_prior (lt : κ → κ → Prop) (hl : l.Pairwise fun e e' => lt e.1 e'.1)
    (hasymm : ∀ k k', lt k k' → ¬ lt k' k) {k k' : κ} {v : ν}
    (h : k ∈ victims may n l) (hm : (k', v) ∈ l) (hv : may v) (hlt : lt k' k) :
    k' ∈ victims may n l := by
  have hf : (k', v) ∈ l.filter fun e => may e.2 := List.mem_filter.mpr ⟨hm, by simpa using hv⟩
  have hsorted := hl.filter fun e => may e.2
  rw [← List.take_append_drop n (l.filter fun e => may e.2)] at hf hsorted
  obtain ⟨e, he, rfl⟩ := List.mem_map.mp h
  rcases List.mem_append.mp hf with hf | hf
  · exact List.mem_map.mpr ⟨_, hf, rfl⟩
  · exact absurd hlt (hasymm _ _ ((List.pairwise_append.mp hsorted).2.2 e he _ hf))

end Victims

variable {cmp : κ → κ → Ordering} [TransCmp cmp]

def drop (kept : ExtTreeMap κ ν cmp) (e : κ × ν) : ExtTreeMap κ ν cmp :=
  if bound < kept.size ∧ may e.2 then kept.erase e.1 else kept

def evict (t : ExtTreeMap κ ν cmp) : ExtTreeMap κ ν cmp := t.toList.foldl (drop bound may) t

variable {bound may}

lemma drop_of {kept : ExtTreeMap κ ν cmp} {e : κ × ν} (hb : bound < kept.size) (he : may e.2) :
    drop bound may kept e = kept.erase e.1 := if_pos ⟨hb, he⟩

lemma drop_not {kept : ExtTreeMap κ ν cmp} {e : κ × ν} (h : ¬ (bound < kept.size ∧ may e.2)) :
    drop bound may kept e = kept := if_neg h

variable [LawfulEqCmp cmp] (t : ExtTreeMap κ ν cmp)

lemma nodup_keys : (t.toList.map Prod.fst).Nodup := by
  refine List.pairwise_map.mpr (ExtTreeMap.distinct_keys_toList.imp fun {a b} h he => h ?_)
  rw [he]
  exact ReflCmp.compare_self

lemma mem_of_toList {e : κ × ν} (h : e ∈ t.toList) : e.1 ∈ t :=
  ExtTreeMap.mem_iff_isSome_getElem?.mpr (by rw [ExtTreeMap.mem_toList_iff_getElem?_eq_some.mp h]; rfl)

variable [DecidableEq κ]

lemma foldl_drop (l : List (κ × ν)) (kept : ExtTreeMap κ ν cmp) (hd : (l.map Prod.fst).Nodup)
    (hk : ∀ e ∈ l, e.1 ∈ kept) :
    (∀ k, (l.foldl (drop bound may) kept)[k]? =
      if k ∈ victims may (kept.size - bound) l then none else kept[k]?) ∧
    (l.foldl (drop bound may) kept).size = kept.size - (victims may (kept.size - bound) l).length := by
  induction l generalizing kept with
  | nil => simp [victims]
  | cons e l ih =>
    rw [List.map_cons, List.nodup_cons] at hd
    rw [List.foldl_cons, victims_cons]
    by_cases he : may e.2
    · by_cases hb : bound < kept.size
      · have hsize : (kept.erase e.1).size = kept.size - 1 := by
          rw [ExtTreeMap.size_erase, if_pos (ExtTreeMap.contains_iff_mem.mpr (hk e List.mem_cons_self))]
        have hrest : ∀ e' ∈ l, e'.1 ∈ kept.erase e.1 := fun e' he' => by
          rw [ExtTreeMap.mem_erase]
          refine ⟨fun heq => hd.1 ?_, hk e' (List.mem_cons_of_mem e he')⟩
          rw [LawfulEqCmp.eq_of_compare heq]
          exact List.mem_map_of_mem he'
        have hn : kept.size - 1 - bound = kept.size - bound - 1 := by omega
        obtain ⟨hget, hlength⟩ := ih (kept.erase e.1) hd.2 hrest
        rw [drop_of hb he, if_pos he, if_neg (by omega)]
        rw [hsize, hn] at hget hlength
        refine ⟨fun k => ?_, ?_⟩
        · rw [hget k, ExtTreeMap.getElem?_erase]
          by_cases hke : k = e.1
          · subst hke
            simp
          · have hne : cmp e.1 k ≠ .eq := fun h => hke (LawfulEqCmp.eq_of_compare h).symm
            simp [hke, hne]
        · rw [hlength, List.length_cons]
          omega
      · have hn : kept.size - bound = 0 := by omega
        obtain ⟨hget, hlength⟩ := ih kept hd.2 fun e' he' => hk e' (List.mem_cons_of_mem e he')
        rw [hn] at hget hlength
        rw [drop_not fun h => hb h.1, if_pos he, if_pos hn]
        exact ⟨hget, hlength⟩
    · rw [drop_not fun h => he h.2, if_neg he]
      exact ih kept hd.2 fun e' he' => hk e' (List.mem_cons_of_mem e he')

lemma getElem?_evict (k : κ) : (evict bound may t)[k]? =
    if k ∈ victims may (t.size - bound) t.toList then none else t[k]? :=
  (foldl_drop t.toList t (nodup_keys t) fun _ he => mem_of_toList t he).1 k

lemma mem_evict {k : κ} : k ∈ evict bound may t ↔ k ∈ t ∧ k ∉ victims may (t.size - bound) t.toList := by
  rw [ExtTreeMap.mem_iff_isSome_getElem?, getElem?_evict, ExtTreeMap.mem_iff_isSome_getElem?]
  split_ifs with h <;> simp [h]

lemma evict_some {k : κ} {v : ν} (h : (evict bound may t)[k]? = some v) : t[k]? = some v := by
  rw [getElem?_evict] at h
  split_ifs at h
  exact h

lemma size_evict (hb : bound < t.size) : bound ≤ (evict bound may t).size := by
  have hsize : (t.toList.foldl (drop bound may) t).size = _ :=
    (foldl_drop t.toList t (nodup_keys t) fun _ he => mem_of_toList t he).2
  have hlength : (victims may (t.size - bound) t.toList).length ≤ t.size - bound := by
    unfold victims
    rw [List.length_map, List.length_take]
    exact min_le_left _ _
  unfold evict
  rw [hsize]
  omega

/-- What it means for an entry to be dropped. -/
lemma evicted {k : κ} (hk : k ∈ t) (hn : k ∉ evict bound may t) : bound < t.size ∧
    (∃ v, t[k]? = some v ∧ may v) ∧
      ∀ k' v', t[k']? = some v' → may v' → cmp k' k = .lt → k' ∉ evict bound may t := by
  have hv : k ∈ victims may (t.size - bound) t.toList := by
    by_contra hno
    exact hn ((mem_evict t).mpr ⟨hk, hno⟩)
  refine ⟨?_, ?_, fun k' v' hk' hm' hlt => ?_⟩
  · by_contra hb
    rw [Nat.sub_eq_zero_of_le (Nat.le_of_not_lt hb)] at hv
    simp [victims] at hv
  · obtain ⟨v, hm, hmay⟩ := mem_victims hv
    exact ⟨v, ExtTreeMap.mem_toList_iff_getElem?_eq_some.mp hm, hmay⟩
  · rw [mem_evict]
    refine fun hmem => hmem.2 (victims_prior (fun a b => cmp a b = .lt) ExtTreeMap.ordered_keys_toList
      (fun a b h h' => ?_) hv (ExtTreeMap.mem_toList_iff_getElem?_eq_some.mpr hk') hm' hlt)
    exact absurd (TransCmp.lt_trans h h') (by simp [ReflCmp.compare_self])

end KcfTools.Evictions
