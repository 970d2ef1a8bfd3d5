import Mathlib

/-! Loops whose passes may fail. -/

namespace KcfTools.Results

variable {ε α β σ : Type}

lemma bind_ok_inv {x : Except ε α} {f : α → Except ε β} {b : β} (h : x >>= f = .ok b) :
    ∃ a, x = .ok a ∧ f a = .ok b := by
  cases x with
  | error e => cases h
  | ok a => exact ⟨a, rfl, h⟩

lemma mapM_each {g : α → Except ε β} {l : List α} {ys : List β} (h : l.mapM g = .ok ys) :
    ∀ x ∈ l, ∃ y, g x = .ok y := by
  induction l generalizing ys with
  | nil => exact fun x hx => (nomatch hx)
  | cons a l ih =>
    rw [List.mapM_cons] at h
    obtain ⟨y, hy, h⟩ := bind_ok_inv h
    obtain ⟨zs, hzs, _⟩ := bind_ok_inv h
    intro x hx
    rcases List.mem_cons.mp hx with rfl | hx
    · exact ⟨y, hy⟩
    · exact ih hzs x hx

lemma mapM_of_ok {g : α → Except ε β} {b : α → β} {l : List α} (h : ∀ x ∈ l, g x = .ok (b x)) :
    l.mapM g = .ok (l.map b) := by
  induction l with
  | nil => rfl
  | cons a l ih =>
    rw [List.mapM_cons, h a (by simp), ih fun x hx => h x (by simp [hx])]
    rfl

lemma mapM_congr {R : α → α → Prop} {f g : α → Except ε β} {l l' : List α} (hfg : ∀ x y, R x y → f x = g y)
    (h : List.Forall₂ R l l') : l.mapM f = l'.mapM g := by
  induction h with
  | nil => rfl
  | cons hxy hrest ih => rw [List.mapM_cons, List.mapM_cons, hfg _ _ hxy, ih]

variable {g : α → Except ε β} {w : σ → α → β → σ} {l : List α} {s s' : σ}

lemma foldlM_each (h : l.foldlM (fun s x => do return w s x (← g x)) s = .ok s') :
    ∀ x ∈ l, ∃ y, g x = .ok y := by
  induction l generalizing s with
  | nil => exact fun x hx => (nomatch hx)
  | cons a l ih =>
    rw [List.foldlM_cons] at h
    obtain ⟨t, ht, h⟩ := bind_ok_inv h
    obtain ⟨y, hy, _⟩ := bind_ok_inv ht
    intro x hx
    rcases List.mem_cons.mp hx with rfl | hx
    · exact ⟨y, hy⟩
    · exact ih h x hx

lemma foldlM_of_ok {b : α → β} (h : ∀ x ∈ l, g x = .ok (b x)) :
    l.foldlM (fun s x => do return w s x (← g x)) s = .ok (l.foldl (fun s x => w s x (b x)) s) := by
  induction l generalizing s with
  | nil => rfl
  | cons a l ih =>
    rw [List.foldlM_cons, h a (by simp)]
    exact ih fun x hx => h x (by simp [hx])

section Accumulators

variable {f : σ → α → Except ε σ}

lemma foldlM_kept {P : σ → Prop} (hstep : ∀ s x s', P s → f s x = .ok s' → P s') (hs : P s)
    (h : l.foldlM f s = .ok s') : P s' := by
  induction l generalizing s with
  | nil =>
    obtain rfl := Except.ok.inj h
    exact hs
  | cons a l ih =>
    rw [List.foldlM_cons] at h
    obtain ⟨t, ht, h⟩ := bind_ok_inv h
    exact ih (hstep s a t hs ht) h

lemma foldlM_congr {R : α → α → Prop} {f g : σ → α → Except ε σ} {l l' : List α}
    (hstep : ∀ s x y, R x y → f s x = g s y) (h : List.Forall₂ R l l') (s : σ) :
    l.foldlM f s = l'.foldlM g s := by
  induction h generalizing s with
  | nil => rfl
  | cons hxy hrest ih =>
    rw [List.foldlM_cons, List.foldlM_cons, hstep s _ _ hxy]
    exact bind_congr fun t => ih t

/-- A loop whose passes append one result each. -/
lemma foldlM_appended {R : α → β → Prop} {f : List β → α → Except ε (List β)} {l : List α}
    {out out' : List β} (hstep : ∀ out x out', f out x = .ok out' → ∃ y, out' = out ++ [y] ∧ R x y)
    (h : l.foldlM f out = .ok out') : ∃ ys, out' = out ++ ys ∧ List.Forall₂ R l ys := by
  induction l generalizing out with
  | nil =>
    obtain rfl := Except.ok.inj h
    exact ⟨[], (List.append_nil _).symm, .nil⟩
  | cons a l ih =>
    rw [List.foldlM_cons] at h
    obtain ⟨t, ht, h⟩ := bind_ok_inv h
    obtain ⟨y, rfl, hy⟩ := hstep out a t ht
    obtain ⟨ys, rfl, hys⟩ := ih h
    exact ⟨y :: ys, List.append_assoc out [y] ys, .cons hy hys⟩

lemma forall₂_mem_right {R : α → β → Prop} {l : List α} {ys : List β} (h : List.Forall₂ R l ys) :
    ∀ y ∈ ys, ∃ x ∈ l, R x y := by
  induction h with
  | nil => exact fun y hy => (nomatch hy)
  | @cons a b l ys hab hrest ih =>
    intro y hy
    rcases List.mem_cons.mp hy with rfl | hy
    · exact ⟨a, List.mem_cons_self, hab⟩
    · obtain ⟨x, hx, hxy⟩ := ih y hy
      exact ⟨x, List.mem_cons_of_mem _ hx, hxy⟩

end Accumulators

end KcfTools.Results
