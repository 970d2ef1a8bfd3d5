import Mathlib

/-! Lists that are put together again from their parts under each key. -/

namespace KcfTools.Partitions

variable {α β κ : Type*}

/-- The parts under distinct keys that cover the list make up the list. -/
lemma parts_perm [DecidableEq κ] {key : α → κ} {ks : List κ} {l : List α} (hks : ks.Nodup)
    (hcover : ∀ a ∈ l, key a ∈ ks) : (ks.flatMap fun k => l.filter fun a => key a = k).Perm l := by
  induction ks generalizing l with
  | nil =>
    have hnil : l = [] := List.eq_nil_iff_forall_not_mem.mpr fun a ha => absurd (hcover a ha) List.not_mem_nil
    rw [hnil]
    rfl
  | cons k ks ih =>
    obtain ⟨hk, hks⟩ := List.nodup_cons.mp hks
    have hrest : (ks.flatMap fun k => l.filter fun a => key a = k) =
        ks.flatMap fun j => (l.filter fun a => ¬ key a = k).filter fun a => key a = j := by
      refine List.flatMap_congr fun j hj => ?_
      rw [List.filter_filter]
      refine List.filter_congr fun a _ => ?_
      have hne : j ≠ k := fun h => hk (h ▸ hj)
      by_cases hkey : key a = j
      · simp [hkey, hne]
      · simp [hkey]
    rw [List.flatMap_cons, hrest]
    have hperm := ih (l := l.filter fun a => ¬ key a = k) hks fun a ha => by
      obtain ⟨ha, hne⟩ := List.mem_filter.mp ha
      exact (List.mem_cons.mp (hcover a ha)).resolve_left (of_decide_eq_true hne)
    refine (hperm.append_left _).trans ?_
    have hsplit := List.filter_append_perm (fun a => decide (key a = k)) l
    simpa using hsplit

/-- Where only one entry of the list contributes, the list contributes what that entry does. -/
lemma flatMap_single [DecidableEq α] {f : α → List β} {l : List α} (hl : l.Nodup) {a : α} (ha : a ∈ l)
    (hother : ∀ b ∈ l, b ≠ a → f b = []) : l.flatMap f = f a := by
  induction l with
  | nil => cases ha
  | cons b l ih =>
    obtain ⟨hb, hl⟩ := List.nodup_cons.mp hl
    rw [List.flatMap_cons]
    by_cases hab : b = a
    · subst hab
      have hrest : l.flatMap f = [] := List.flatMap_eq_nil_iff.mpr fun c hc =>
        hother c (by simp [hc]) fun h => hb (h ▸ hc)
      rw [hrest, List.append_nil]
    · rw [hother b (by simp) hab, List.nil_append]
      exact ih hl ((List.mem_cons.mp ha).resolve_left fun h => hab h.symm) fun c hc => hother c (by simp [hc])

end KcfTools.Partitions
