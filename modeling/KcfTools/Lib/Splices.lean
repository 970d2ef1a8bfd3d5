import Mathlib

/-! Writes of stretches into a list that keeps its length. -/

namespace KcfTools.Splices

variable {α : Type*}

def splice (xs : List α) (start : ℕ) (new : List α) : List α :=
  xs.take start ++ new ++ xs.drop (start + new.length)

def slice (xs : List α) (start length : ℕ) : List α := (xs.drop start).take length

def splices (xs : List α) (ws : List (ℕ × List α)) : List α :=
  ws.foldl (fun xs w => splice xs w.1 w.2) xs

/-- The write ends inside a list of length `n`. -/
def Fits (n : ℕ) (w : ℕ × List α) : Prop := w.1 + w.2.length ≤ n

def Hits (w : ℕ × List α) (i : ℕ) : Prop := w.1 ≤ i ∧ i < w.1 + w.2.length

def Apart (v w : ℕ × List α) : Prop := v.1 + v.2.length ≤ w.1 ∨ w.1 + w.2.length ≤ v.1

instance (w : ℕ × List α) (i : ℕ) : Decidable (Hits w i) := inferInstanceAs (Decidable (_ ∧ _))

variable {xs : List α} {v w : ℕ × List α} {ws ws' : List (ℕ × List α)} {i : ℕ}

lemma Apart.symm (h : Apart v w) : Apart w v := Or.symm h

lemma length_slice {start length : ℕ} (h : start + length ≤ xs.length) :
    (slice xs start length).length = length := by
  simp [slice]
  omega

lemma getElem?_slice {start length j : ℕ} (h : j < length) : (slice xs start length)[j]? = xs[start + j]? := by
  simp [slice, h]

@[simp] lemma length_splice (h : Fits xs.length w) : (splice xs w.1 w.2).length = xs.length := by
  unfold Fits at h
  simp [splice]
  omega

lemma getElem?_splice (h : Fits xs.length w) :
    (splice xs w.1 w.2)[i]? = if Hits w i then w.2[i - w.1]? else xs[i]? := by
  unfold Fits at h
  have htake : (xs.take w.1).length = w.1 := by
    simp
    omega
  have hnew : (xs.take w.1 ++ w.2).length = w.1 + w.2.length := by
    rw [List.length_append, htake]
  have hlen := hnew
  rw [List.length_append] at hlen
  by_cases hi : Hits w i
  · rw [if_pos hi]
    obtain ⟨hlow, hhigh⟩ := hi
    rw [splice, List.getElem?_append_left (by omega), List.getElem?_append_right (by omega), htake]
  · rw [if_neg hi]
    unfold Hits at hi
    rcases Nat.lt_or_ge i w.1 with hlt | hge
    · rw [splice, List.getElem?_append_left (by omega), List.getElem?_append_left (by omega)]
      simp [hlt]
    · rw [splice, List.getElem?_append_right (by omega), hnew, List.getElem?_drop]
      congr 1
      omega

lemma splice_comm (h : Apart v w) (hv : Fits xs.length v) (hw : Fits xs.length w) :
    splice (splice xs v.1 v.2) w.1 w.2 = splice (splice xs w.1 w.2) v.1 v.2 := by
  apply List.ext_getElem?
  intro i
  rw [getElem?_splice (by rwa [length_splice hv]), getElem?_splice hv,
    getElem?_splice (by rwa [length_splice hw]), getElem?_splice hw]
  have hne : ¬ (Hits v i ∧ Hits w i) := by
    unfold Apart Hits at *
    omega
  by_cases hvi : Hits v i <;> by_cases hwi : Hits w i <;> simp_all

lemma length_splices (h : ∀ w ∈ ws, Fits xs.length w) : (splices xs ws).length = xs.length := by
  induction ws generalizing xs with
  | nil => rfl
  | cons w ws ih =>
    have hw := h w (by simp)
    have hlen := length_splice hw
    rw [← hlen]
    apply ih
    intro v hv
    rw [hlen]
    exact h v (by simp [hv])

lemma splices_append : splices xs (ws ++ ws') = splices (splices xs ws) ws' := by
  rw [splices, List.foldl_append]
  rfl

lemma splices_perm (hperm : ws.Perm ws') (hapart : ws.Pairwise Apart)
    (hfits : ∀ w ∈ ws, Fits xs.length w) : splices xs ws = splices xs ws' := by
  induction hperm generalizing xs with
  | nil => rfl
  | cons w hperm ih =>
    have hw := hfits w (by simp)
    apply ih (List.pairwise_cons.mp hapart).2
    intro v hv
    rw [length_splice hw]
    exact hfits v (by simp [hv])
  | swap v w ws =>
    have hwv : Apart w v := (List.pairwise_cons.mp hapart).1 v (by simp)
    have hcomm := splice_comm hwv (hfits w (by simp)) (hfits v (by simp))
    exact congrArg (fun xs => splices xs ws) hcomm
  | trans hfirst _ ih ih' =>
    have hapart' := (hfirst.pairwise_iff Apart.symm).mp hapart
    rw [ih hapart hfits]
    exact ih' hapart' fun w hw => hfits w (hfirst.mem_iff.mpr hw)

lemma getElem?_splices_outside (hfits : ∀ w ∈ ws, Fits xs.length w) (hi : ∀ w ∈ ws, ¬ Hits w i) :
    (splices xs ws)[i]? = xs[i]? := by
  induction ws generalizing xs with
  | nil => rfl
  | cons w ws ih =>
    have hw := hfits w (by simp)
    have htail : ∀ v ∈ ws, Fits (splice xs w.1 w.2).length v := by
      intro v hv
      rw [length_splice hw]
      exact hfits v (by simp [hv])
    calc (splices xs (w :: ws))[i]? = (splice xs w.1 w.2)[i]? := ih htail fun v hv => hi v (by simp [hv])
      _ = xs[i]? := by rw [getElem?_splice hw, if_neg (hi w (by simp))]

lemma getElem?_splices (hapart : ws.Pairwise Apart) (hfits : ∀ w ∈ ws, Fits xs.length w) (hw : w ∈ ws)
    (hi : Hits w i) : (splices xs ws)[i]? = w.2[i - w.1]? := by
  induction ws generalizing xs with
  | nil => cases hw
  | cons v ws ih =>
    have hv := hfits v (by simp)
    have htail : ∀ u ∈ ws, Fits (splice xs v.1 v.2).length u := by
      intro u hu
      rw [length_splice hv]
      exact hfits u (by simp [hu])
    obtain ⟨hhead, hpair⟩ := List.pairwise_cons.mp hapart
    rcases List.mem_cons.mp hw with rfl | hw
    · have hrest : ∀ u ∈ ws, ¬ Hits u i := by
        intro u hu hc
        have := hhead u hu
        unfold Apart Hits at *
        omega
      calc (splices xs (w :: ws))[i]? = (splice xs w.1 w.2)[i]? := getElem?_splices_outside htail hrest
        _ = w.2[i - w.1]? := by rw [getElem?_splice hv, if_pos hi]
    · exact ih hpair htail hw

lemma slice_splices (hapart : ws.Pairwise Apart) (hfits : ∀ w ∈ ws, Fits xs.length w) (hw : w ∈ ws) :
    slice (splices xs ws) w.1 w.2.length = w.2 := by
  apply List.ext_getElem?
  intro j
  have hlen : (slice (splices xs ws) w.1 w.2.length).length = w.2.length := by
    apply length_slice
    rw [length_splices hfits]
    exact hfits w hw
  rcases Nat.lt_or_ge j w.2.length with hj | hj
  · rw [getElem?_slice hj, getElem?_splices hapart hfits hw ⟨by omega, by omega⟩]
    congr 1
    omega
  · rw [List.getElem?_eq_none (by omega), List.getElem?_eq_none (by omega)]

lemma splices_self (hapart : ws.Pairwise Apart) (hfits : ∀ w ∈ ws, Fits xs.length w)
    (hthere : ∀ w ∈ ws, slice xs w.1 w.2.length = w.2) : splices xs ws = xs := by
  apply List.ext_getElem?
  intro i
  by_cases hi : ∃ w ∈ ws, Hits w i
  · obtain ⟨w, hw, hi⟩ := hi
    have hj : i - w.1 < w.2.length := by
      unfold Hits at hi
      omega
    rw [getElem?_splices hapart hfits hw hi, ← hthere w hw, getElem?_slice hj]
    congr 1
    unfold Hits at hi
    omega
  · exact getElem?_splices_outside hfits fun w hw hc => hi ⟨w, hw, hc⟩

end KcfTools.Splices
