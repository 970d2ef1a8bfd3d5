import Mathlib

/-! Records that are found by a name of their own, and the three-way merge of two versions of one value. -/

namespace KcfTools.Named

section Positions

variable {α ν : Type} [DecidableEq ν] {name : α → ν} {l : List α} {a : α} {i j : ℕ}

lemma findIdx?_named (hl : (l.map name).Nodup) (ha : l[i]? = some a) :
    l.findIdx? (fun b => name b = name a) = some i := by
  obtain ⟨hi, rfl⟩ := List.getElem?_eq_some_iff.mp ha
  refine List.findIdx?_eq_some_iff_getElem.mpr ⟨hi, decide_eq_true rfl, fun j hj hname => ?_⟩
  have hj' : j < (l.map name).length := by
    rw [List.length_map]
    omega
  have hsame : (l.map name)[j]? = (l.map name)[i]? := by
    rw [List.getElem?_map, List.getElem?_map, List.getElem?_eq_getElem (hj.trans hi),
      List.getElem?_eq_getElem hi, Option.map_some, Option.map_some, of_decide_eq_true hname]
  have hji : j = i := (List.getElem?_inj hj' hl).mp hsame
  omega

lemma getElem?_of_findIdx? {p : α → Bool} (h : l.findIdx? p = some i) : ∃ a, l[i]? = some a ∧ p a := by
  obtain ⟨hi, hp, -⟩ := List.findIdx?_eq_some_iff_getElem.mp h
  exact ⟨l[i], List.getElem?_eq_getElem hi, hp⟩

lemma find?_named (hl : (l.map name).Nodup) (ha : a ∈ l) : l.find? (fun b => name b = name a) = some a := by
  obtain ⟨b, hb⟩ : ∃ b, l.find? (fun b => name b = name a) = some b :=
    Option.isSome_iff_exists.mp (List.find?_isSome.mpr ⟨a, ha, by simp⟩)
  have hname : name b = name a := by simpa using List.find?_some hb
  rw [hb, List.inj_on_of_nodup_map hl (List.mem_of_find?_eq_some hb) ha hname]

lemma index_named (hl : (l.map name).Nodup) {b : α} (ha : l[i]? = some a) (hb : l[j]? = some b)
    (hname : name a = name b) : i = j := by
  have hi := findIdx?_named hl ha
  have hj := findIdx?_named hl hb
  rw [hname, hj] at hi
  exact (Option.some.inj hi).symm

end Positions

section ThreeWay

variable {τ : Type} [DecidableEq τ]

/-- What `mine` changed in `base` replaces the text of `fresh`. -/
def threeWay (base mine fresh : τ) : τ := if mine = base then fresh else mine

@[simp] lemma threeWay_unchanged (base fresh : τ) : threeWay base base fresh = fresh := if_pos rfl

lemma threeWay_changed {base mine : τ} (h : mine ≠ base) (fresh : τ) : threeWay base mine fresh = mine :=
  if_neg h

end ThreeWay

end KcfTools.Named
