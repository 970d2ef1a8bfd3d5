import Mathlib

/-! Ordered tables keyed by tuples, and tables filled from a list. -/

namespace KcfTools.Tables

open Std

variable {α β κ ν : Type*}

instance lexLawful [Ord α] [Ord β] [LawfulEqOrd α] [LawfulEqOrd β] : LawfulEqOrd (α ×ₗ β) where
  compare_self {a} := by
    change (compare (ofLex a).1 (ofLex a).1).then (compare (ofLex a).2 (ofLex a).2) = .eq
    simp
  eq_of_compare {a b} h := by
    have hh : (compare (ofLex a).1 (ofLex b).1).then (compare (ofLex a).2 (ofLex b).2) = .eq := h
    rw [Ordering.then_eq_eq] at hh
    exact Prod.ext (LawfulEqOrd.eq_of_compare hh.1) (LawfulEqOrd.eq_of_compare hh.2)

lemma compareOn_lawful [Ord β] [LawfulEqOrd β] {f : α → β} (hf : Function.Injective f) :
    LawfulEqCmp (compareOn f) where
  eq_of_compare h := hf (LawfulEqOrd.eq_of_compare h)
  compare_self {a} := by
    have h : compare (f a) (f a) = .eq := ReflCmp.compare_self
    exact h

variable [DecidableEq κ] {cmp : κ → κ → Ordering} [TransCmp cmp] [LawfulEqCmp cmp]

lemma getElem?_insert (t : ExtTreeMap κ ν cmp) (k a : κ) (v : ν) :
    (t.insert k v)[a]? = if k = a then some v else t[a]? := by
  simp [ExtTreeMap.getElem?_insert]

lemma getElem?_insertIfNew (t : ExtTreeMap κ ν cmp) (k a : κ) (v : ν) :
    (t.insertIfNew k v)[a]? = t[a]?.or (if k = a then some v else none) := by
  rw [ExtTreeMap.getElem?_insertIfNew]
  by_cases hk : k = a
  · subst hk
    by_cases hm : k ∈ t
    · obtain ⟨w, hw⟩ := Option.isSome_iff_exists.mp (ExtTreeMap.mem_iff_isSome_getElem?.mp hm)
      simp [hm]
    · simp [hm]
  · simp [hk]

def fill (t : ExtTreeMap κ ν cmp) (entries : List (κ × ν)) : ExtTreeMap κ ν cmp :=
  entries.foldl (fun t e => t.insertIfNew e.1 e.2) t

omit [DecidableEq κ] [LawfulEqCmp cmp] in
@[simp] lemma fill_nil (t : ExtTreeMap κ ν cmp) : fill t [] = t := rfl

omit [DecidableEq κ] [LawfulEqCmp cmp] in
@[simp] lemma fill_cons (t : ExtTreeMap κ ν cmp) (e : κ × ν) (es : List (κ × ν)) :
    fill t (e :: es) = fill (t.insertIfNew e.1 e.2) es := rfl

lemma getElem?_fill (t : ExtTreeMap κ ν cmp) (entries : List (κ × ν)) (k : κ) :
    (fill t entries)[k]? = t[k]?.or ((entries.find? fun e => e.1 = k).map Prod.snd) := by
  induction entries generalizing t with
  | nil => simp
  | cons e es ih =>
    rw [fill_cons, ih, getElem?_insertIfNew]
    by_cases he : e.1 = k
    · cases t[k]? <;> simp [he]
    · cases t[k]? <;> simp [he]

omit [DecidableEq κ] in
lemma mem_fill {t : ExtTreeMap κ ν cmp} {entries : List (κ × ν)} {k : κ} :
    k ∈ fill t entries ↔ k ∈ t ∨ ∃ e ∈ entries, e.1 = k := by
  induction entries generalizing t with
  | nil => simp
  | cons e es ih =>
    rw [fill_cons, ih, ExtTreeMap.mem_insertIfNew]
    simp [or_assoc, or_left_comm]

/-- Where entries of one key agree, a filled table holds them all. -/
lemma getElem?_fill_iff {entries : List (κ × ν)} (hagree : ∀ x ∈ entries, ∀ y ∈ entries, x.1 = y.1 → x.2 = y.2)
    (k : κ) (v : ν) : (fill (∅ : ExtTreeMap κ ν cmp) entries)[k]? = some v ↔ (k, v) ∈ entries := by
  rw [getElem?_fill, ExtTreeMap.getElem?_empty, Option.none_or, Option.map_eq_some_iff]
  constructor
  · rintro ⟨⟨k', v'⟩, hfind, rfl⟩
    obtain rfl : k' = k := by simpa using List.find?_some hfind
    exact List.mem_of_find?_eq_some hfind
  · intro hmem
    obtain ⟨x, hfind⟩ := Option.isSome_iff_exists.mp
      (List.find?_isSome (p := fun e => e.1 = k).mpr ⟨_, hmem, by simp⟩)
    have hk : x.1 = k := by simpa using List.find?_some hfind
    exact ⟨x, hfind, hagree x (List.mem_of_find?_eq_some hfind) _ hmem hk⟩

lemma sublist_of_ordered {R : α → α → Prop} (hR : ∀ a b, R a b → ¬ R b a) {xs ys : List α}
    (hxs : xs.Pairwise R) (hys : ys.Pairwise R) (hsub : xs ⊆ ys) : xs.Sublist ys := by
  have hantisymm : Std.Antisymm R := ⟨fun a b h h' => absurd h' (hR a b h)⟩
  have hnodup : xs.Nodup := hxs.imp fun {a b} h hc => by
    subst hc
    exact hR a a h h
  exact List.sublist_of_subperm_of_pairwise (List.subperm_of_subset hnodup hsub) hxs hys

omit [DecidableEq κ] in
/-- The entries of a part of a table are a part of its entries, in the same order. -/
lemma toList_sublist {t t' : ExtTreeMap κ ν cmp} (h : ∀ (k : κ) (v : ν), t[k]? = some v → t'[k]? = some v) :
    t.toList.Sublist t'.toList := by
  refine sublist_of_ordered (R := fun a b => cmp a.1 b.1 = .lt) (fun a b h => OrientedCmp.not_lt_of_lt h)
    ExtTreeMap.ordered_keys_toList ExtTreeMap.ordered_keys_toList ?_
  rintro ⟨k, v⟩ hmem
  rw [ExtTreeMap.mem_toList_iff_getElem?_eq_some] at hmem ⊢
  exact h k v hmem

omit [DecidableEq κ] [LawfulEqCmp cmp] in
lemma keys_sublist {t t' : ExtTreeMap κ ν cmp} (h : t.keys ⊆ t'.keys) : t.keys.Sublist t'.keys :=
  sublist_of_ordered (R := fun a b => cmp a b = .lt) (fun _ _ h => OrientedCmp.not_lt_of_lt h)
    ExtTreeMap.ordered_keys ExtTreeMap.ordered_keys h

lemma filterMap_sublist {f : α → Option β} {xs ys : List α} (h : xs.Sublist ys) (hys : ys.Nodup)
    (hnone : ∀ y ∈ ys, y ∉ xs → f y = none) : ys.filterMap f = xs.filterMap f := by
  induction h with
  | slnil => rfl
  | @cons xs ys y hsub ih =>
    obtain ⟨hy, hys⟩ := List.nodup_cons.mp hys
    rw [List.filterMap_cons_none (hnone y (by simp) fun hc => hy (hsub.mem hc))]
    exact ih hys fun z hz => hnone z (by simp [hz])
  | @cons_cons xs ys y hsub ih =>
    obtain ⟨hy, hys⟩ := List.nodup_cons.mp hys
    have hrest := ih hys fun z hz hc => hnone z (by simp [hz]) fun hmem => by
      rcases List.mem_cons.mp hmem with rfl | hmem
      · exact hy hz
      · exact hc hmem
    rw [List.filterMap_cons, List.filterMap_cons, hrest]

lemma flatMap_sublist {f g : α → List β} {xs : List α} (h : ∀ x ∈ xs, (f x).Sublist (g x)) :
    (xs.flatMap f).Sublist (xs.flatMap g) := by
  induction xs with
  | nil => exact .slnil
  | cons x xs ih =>
    rw [List.flatMap_cons, List.flatMap_cons]
    exact (h x (by simp)).append (ih fun y hy => h y (by simp [hy]))

/-- Visiting distinct keys in turn, each entry is updated from its value before the visits. -/
lemma getElem?_visit (key : α → κ) (f : α → ν → ν) (d : ν) (xs : List α) (t : ExtTreeMap κ ν cmp)
    (hn : (xs.map key).Nodup) (k : κ) :
    (xs.foldl (fun t x => t.insert (key x) (f x (t.getD (key x) d))) t)[k]? =
      match xs.find? fun x => key x = k with
      | some x => some (f x (t.getD k d))
      | none => t[k]? := by
  induction xs generalizing t with
  | nil => rfl
  | cons x xs ih =>
    rw [List.map_cons, List.nodup_cons] at hn
    rw [List.foldl_cons, ih _ hn.2]
    by_cases hk : key x = k
    · subst hk
      have hf : xs.find? (fun y => key y = key x) = none := by
        rw [List.find?_eq_none]
        intro y hy he
        exact hn.1 (List.mem_map.mpr ⟨y, hy, of_decide_eq_true he⟩)
      simp [hf]
    · simp only [List.find?_cons, hk, decide_false]
      cases xs.find? fun y => key y = k with
      | none => simp [getElem?_insert, hk]
      | some y => simp [ExtTreeMap.getD_insert, hk]

omit [DecidableEq κ] in
lemma mem_inserts (key : α → κ) (f : α → ν) (xs : List α) (t : ExtTreeMap κ ν cmp) (k : κ) :
    k ∈ xs.foldl (fun t x => t.insert (key x) (f x)) t ↔ k ∈ t ∨ ∃ x ∈ xs, key x = k := by
  induction xs generalizing t with
  | nil => simp
  | cons x xs ih =>
    rw [List.foldl_cons, ih, ExtTreeMap.mem_insert]
    simp [or_assoc, or_left_comm]

/-- Entries collected under repeated keys: each key sees its own part of the list, in order. -/
lemma getD_collect (key : α → κ) (f : α → ν → ν) (d : ν) (xs : List α) (t : ExtTreeMap κ ν cmp) (k : κ) :
    (xs.foldl (fun t x => t.insert (key x) (f x (t.getD (key x) d))) t).getD k d =
      (xs.filter fun x => key x = k).foldl (fun v x => f x v) (t.getD k d) := by
  induction xs generalizing t with
  | nil => rfl
  | cons x xs ih =>
    rw [List.foldl_cons, ih, ExtTreeMap.getD_insert]
    by_cases hk : key x = k
    · simp [hk]
    · simp [hk]

end KcfTools.Tables
