import Mathlib

/-! Text keys that are composed with separators, and lists sorted by a key that tells their members
apart. -/

namespace KcfTools.Keys

variable {α β : Type*}

section Separators

lemma append_cons_inj {c : α} {a b s t : List α} (hs : c ∉ s) (ht : c ∉ t)
    (h : a ++ c :: s = b ++ c :: t) : a = b ∧ s = t := by
  rcases List.append_eq_append_iff.mp h with ⟨m, rfl, hm⟩ | ⟨m, rfl, hm⟩
  · cases m with
    | nil => simpa using hm
    | cons x m =>
      obtain ⟨rfl, rfl⟩ := List.cons.inj hm
      simp at hs
  · cases m with
    | nil => simpa [eq_comm] using hm
    | cons x m =>
      obtain ⟨rfl, rfl⟩ := List.cons.inj hm
      simp at ht

lemma colon_notMem_nat (n : ℕ) : ':' ∉ (toString n).toList := by
  intro h
  rw [Nat.toString_eq_repr, Nat.toList_repr] at h
  have hdigit : Char.isDigit ':' := Nat.isDigit_of_mem_toDigits (by decide) (by decide) h
  exact absurd hdigit (by decide)

lemma colon_notMem_int (n : ℤ) : ':' ∉ (toString n).toList := by
  rw [Int.toString_eq_repr, Int.repr_eq_if]
  split_ifs
  · exact colon_notMem_nat _
  · rw [String.toList_append, List.mem_append]
    rintro (h | h)
    · exact absurd h (by decide)
    · exact colon_notMem_nat _ h

lemma notMem_int {c : Char} (hdigit : c.isDigit = false) (hminus : c ≠ '-') (n : ℤ) :
    c ∉ (toString n).toList := by
  have hnat : ∀ m : ℕ, c ∉ (toString m).toList := by
    intro m h
    rw [Nat.toString_eq_repr, Nat.toList_repr] at h
    have hc : c.isDigit := Nat.isDigit_of_mem_toDigits (by decide) (by decide) h
    rw [hdigit] at hc
    cases hc
  rw [Int.toString_eq_repr, Int.repr_eq_if]
  split_ifs
  · exact hnat _
  · rw [String.toList_append, List.mem_append]
    rintro (h | h)
    · exact hminus (by simpa using h)
    · exact hnat _ h

lemma colon_notMem_int32 (n : Int32) : ':' ∉ (toString n).toList := colon_notMem_int n.toInt

lemma colon_notMem_uint64 (n : UInt64) : ':' ∉ (toString n).toList := colon_notMem_nat n.toNat

lemma int32_toString_inj {n m : Int32} (h : toString n = toString m) : n = m :=
  Int32.toInt_inj.mp (Int.repr_injective h)

lemma uint64_toString_inj {n m : UInt64} (h : toString n = toString m) : n = m :=
  UInt64.toNat_inj.mp (Nat.repr_injective h)

/-- The last component of a composed text is told apart from the rest. -/
lemma colon_inj {a b s t : String} (hs : ':' ∉ s.toList) (ht : ':' ∉ t.toList)
    (h : a ++ ":" ++ s = b ++ ":" ++ t) : a = b ∧ s = t := by
  have hlist := congrArg String.toList h
  simp only [String.toList_append, List.append_assoc] at hlist
  obtain ⟨ha, hst⟩ := append_cons_inj hs ht hlist
  exact ⟨String.toList_injective ha, String.toList_injective hst⟩

end Separators

section Sorting

variable [Ord β] [Std.TransOrd β] [Std.LawfulEqOrd β]

/-- The order of the keys. -/
def Below (f : α → β) (a b : α) : Prop := (compare (f a) (f b)).isLE

instance (f : α → β) : DecidableRel (Below f) := fun _ _ => inferInstanceAs (Decidable (_ = true))

instance (f : α → β) : IsTrans α (Below f) := ⟨fun _ _ _ h h' => Std.TransCmp.isLE_trans h h'⟩

instance (f : α → β) : Std.Total (Below f) where
  total a b := by
    have hswap : compare (f b) (f a) = (compare (f a) (f b)).swap := Std.OrientedCmp.eq_swap
    unfold Below
    rw [hswap]
    cases compare (f a) (f b) <;> simp

lemma below_antisymm {f : α → β} {a b : α} (h : Below f a b) (h' : Below f b a) : f a = f b :=
  Std.LawfulEqCmp.eq_of_compare (Std.OrientedCmp.isLE_antisymm h h')

lemma sorted_unique {f : α → β} {xs ys : List α} (hperm : xs.Perm ys)
    (hinj : ∀ a ∈ xs, ∀ b ∈ xs, f a = f b → a = b) (hxs : xs.Pairwise (Below f))
    (hys : ys.Pairwise (Below f)) : xs = ys := by
  refine hperm.eq_of_pairwise (fun a b ha hb h h' => ?_) hxs hys
  exact hinj a ha b (hperm.mem_iff.mpr hb) (below_antisymm h h')

lemma insertionSort_congr {f : α → β} {xs ys : List α} (hxs : xs.Nodup) (hys : ys.Nodup)
    (hmem : ∀ a, a ∈ xs ↔ a ∈ ys) (hinj : ∀ a ∈ xs, ∀ b ∈ xs, f a = f b → a = b) :
    xs.insertionSort (Below f) = ys.insertionSort (Below f) := by
  have hperm : (xs.insertionSort (Below f)).Perm (ys.insertionSort (Below f)) :=
    (List.perm_insertionSort _ xs).trans
      (((List.perm_ext_iff_of_nodup hxs hys).mpr hmem).trans (List.perm_insertionSort _ ys).symm)
  refine sorted_unique hperm ?_ (List.pairwise_insertionSort _ xs) (List.pairwise_insertionSort _ ys)
  intro a ha b hb
  exact hinj a ((List.mem_insertionSort _).mp ha) b ((List.mem_insertionSort _).mp hb)

end Sorting

end KcfTools.Keys
