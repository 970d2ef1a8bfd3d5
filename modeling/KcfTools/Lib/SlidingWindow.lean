import Mathlib

/-! Windows over a growing sequence. A new entry comes last, and entries leave at the front while the front one
is stale in a window of that size. -/

namespace KcfTools.SlidingWindow

variable {α : Type} (stale : ℕ → α → Prop) [∀ n a, Decidable (stale n a)]

/-- An empty window has no front entry to look at. -/
def trim : List α → Option (List α)
  | [] => none
  | a :: rest => if stale (rest.length + 1) a then trim rest else some (a :: rest)

variable {stale}

/-- A window whose last entry is not stale on its own is not emptied. -/
lemma trim_append (l : List α) {a : α} (h : ¬ stale 1 a) :
    ∃ front rest, trim stale (l ++ [a]) = some (front :: rest) ∧ front :: rest <:+ l ++ [a] ∧
      ¬ stale (rest.length + 1) front := by
  induction l with
  | nil => exact ⟨a, [], if_neg h, List.suffix_rfl, h⟩
  | cons b l ih =>
    obtain ⟨front, rest, htrim, hsuffix, hfront⟩ := ih
    by_cases hb : stale ((l ++ [a]).length + 1) b
    · exact ⟨front, rest, (if_pos hb).trans htrim, hsuffix.trans (List.suffix_cons b _), hfront⟩
    · exact ⟨b, l ++ [a], if_neg hb, List.suffix_rfl, hb⟩

lemma suffix_append {kept l : List α} (h : kept <:+ l) (a : α) : kept ++ [a] <:+ l ++ [a] := by
  obtain ⟨before, rfl⟩ := h
  exact ⟨before, by rw [List.append_assoc]⟩

lemma suffix_getLast? {a : α} {rest l : List α} (h : a :: rest <:+ l) : (a :: rest).getLast? = l.getLast? := by
  obtain ⟨before, rfl⟩ := h
  exact (List.getLast?_append_cons ..).symm

/-- A later entry extends what is ordered if it follows the last one. -/
lemma pairwise_append_last {R : α → α → Prop} [IsTrans α R] {l : List α} {a : α} (hl : l.Pairwise R)
    (ha : ∀ b ∈ l.getLast?, R b a) : (l ++ [a]).Pairwise R := by
  refine List.pairwise_append.mpr ⟨hl, List.pairwise_singleton R a, fun x hx y hy => ?_⟩
  obtain rfl := List.mem_singleton.mp hy
  rcases List.eq_nil_or_concat l with rfl | ⟨front, last, rfl⟩
  · cases hx
  rw [List.concat_eq_append] at hl hx ha
  have hlast : R last y := ha last (by simp)
  rcases List.mem_append.mp hx with hx | hx
  · exact Trans.trans ((List.pairwise_append.mp hl).2.2 x hx last (by simp)) hlast
  · obtain rfl := List.mem_singleton.mp hx
    exact hlast

end KcfTools.SlidingWindow
