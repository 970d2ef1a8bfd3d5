import Mathlib

/-! A choice among the elements of a list: the only preferred one or, where none is preferred, the only one.
One pass finds it with a candidate and a count. -/

namespace KcfTools.Preference

variable {α : Type}

/-- The preferred elements and the others. -/
def sole? : List α → List α → Option α
  | [a], _ => some a
  | [], [a] => some a
  | _, _ => none

structure Candidate (α : Type) where
  selected : Option α := none
  best : Bool := false
  found : ℕ := 0

/-- A preferred element replaces a candidate that is not, and the count starts again. -/
def Candidate.add (p : α → Bool) (s : Candidate α) (a : α) : Candidate α :=
  if s.selected.isNone ∨ p a ∧ ¬ s.best then ⟨some a, p a, 1⟩
  else if p a = s.best then { s with found := s.found + 1 }
  else s

/-- What one pass knows of the list. -/
def scanned (p : α → Bool) (l : List α) : Candidate α :=
  if l.filter p = [] then ⟨(l.filter (!p ·)).head?, false, (l.filter (!p ·)).length⟩
  else ⟨(l.filter p).head?, true, (l.filter p).length⟩

variable {p : α → Bool} {l l' : List α} {a : α}

lemma scanned_none (h : l.filter p = []) :
    scanned p l = ⟨(l.filter (!p ·)).head?, false, (l.filter (!p ·)).length⟩ := if_pos h

lemma scanned_some (h : l.filter p ≠ []) : scanned p l = ⟨(l.filter p).head?, true, (l.filter p).length⟩ :=
  if_neg h

lemma scanned_concat (l : List α) (a : α) : scanned p (l ++ [a]) = (scanned p l).add p a := by
  have hp : p a = true → (l ++ [a]).filter p = l.filter p ++ [a] := fun h => by simp [h]
  have hn : p a = false → (l ++ [a]).filter (!p ·) = l.filter (!p ·) ++ [a] := fun h => by simp [h]
  by_cases hl : l.filter p = []
  · rw [scanned_none hl]
    cases ha : p a with
    | true =>
      rw [scanned_some (by rw [hp ha]; simp), hp ha, hl, Candidate.add, ha, if_pos (by simp)]
      rfl
    | false =>
      have hkeep : (l ++ [a]).filter p = [] := by simp [hl, ha]
      rw [scanned_none hkeep, hn ha, Candidate.add, ha]
      cases ho : l.filter (!p ·) with
      | nil => rfl
      | cons b others => simp
  · have hne : (l ++ [a]).filter p ≠ [] := by simp_all
    rw [scanned_some hl, scanned_some hne, Candidate.add]
    obtain ⟨b, hb⟩ := Option.ne_none_iff_exists'.mp (mt List.head?_eq_none_iff.mp hl)
    cases ha : p a with
    | true =>
      rw [hp ha, List.head?_append_of_ne_nil _ hl, hb]
      simp
    | false =>
      rw [hb]
      simp [ha, hb]

lemma foldl_add (l : List α) : l.foldl (Candidate.add p) {} = scanned p l := by
  induction l using List.reverseRecOn with
  | nil => rfl
  | append_singleton l a ih => rw [List.foldl_concat, ih, scanned_concat]

/-- The candidate counts as found when it is alone. -/
lemma scanned_one (a : α) : (scanned p l).selected = some a ∧ (scanned p l).found = 1 ↔
    sole? (l.filter p) (l.filter (!p ·)) = some a := by
  by_cases hl : l.filter p = []
  · rw [scanned_none hl, hl]
    rcases l.filter (!p ·) with - | ⟨b, - | ⟨c, others⟩⟩ <;> simp [sole?]
  · rw [scanned_some hl]
    rcases h : l.filter p with - | ⟨b, - | ⟨c, others⟩⟩
    · exact absurd h hl
    · simp [sole?]
    · simp [sole?]

lemma scanned_empty : (scanned p l).selected = none ↔ l.filter p = [] ∧ l.filter (!p ·) = [] := by
  by_cases hl : l.filter p = []
  · rw [scanned_none hl, List.head?_eq_none_iff]
    exact ⟨fun h => ⟨hl, h⟩, fun h => h.2⟩
  · rw [scanned_some hl, List.head?_eq_none_iff]
    exact ⟨fun h => absurd h hl, fun h => h.1⟩

lemma sole?_eq_some {P Q : List α} : sole? P Q = some a ↔ P = [a] ∨ P = [] ∧ Q = [a] := by
  rcases P with - | ⟨b, - | ⟨c, P⟩⟩
  · rcases Q with - | ⟨b, - | ⟨c, Q⟩⟩ <;> simp [sole?]
  · simp [sole?]
  · simp [sole?]

lemma sole?_perm {P P' Q Q' : List α} (hP : P.Perm P') (hQ : Q.Perm Q') : sole? P Q = sole? P' Q' := by
  refine Option.ext fun a => ?_
  rw [sole?_eq_some, sole?_eq_some]
  constructor
  · rintro (rfl | ⟨rfl, rfl⟩)
    · exact .inl (List.perm_singleton.mp hP.symm)
    · exact .inr ⟨List.nil_perm.mp hP, List.perm_singleton.mp hQ.symm⟩
  · rintro (rfl | ⟨rfl, rfl⟩)
    · exact .inl (List.perm_singleton.mp hP)
    · exact .inr ⟨List.perm_nil.mp hP, List.perm_singleton.mp hQ⟩

end KcfTools.Preference
