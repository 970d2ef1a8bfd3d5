import Mathlib

/-! What holds along folds and along chains of steps. -/

namespace KcfTools.Transitions

open Relation

variable {σ α β : Type}

lemma foldl_keeps {f : σ → α → σ} {g : σ → β} (hf : ∀ s a, g (f s a) = g s) (l : List α) (s : σ) :
    g (l.foldl f s) = g s := by
  induction l generalizing s with
  | nil => rfl
  | cons a l ih => rw [List.foldl_cons, ih, hf]

/-- A loop whose passes append. -/
lemma foldl_append {f : σ → α → σ} {g : σ → List β} {h : α → List β} {l : List α}
    (hf : ∀ s, ∀ a ∈ l, g (f s a) = g s ++ h a) (s : σ) : g (l.foldl f s) = g s ++ l.flatMap h := by
  induction l generalizing s with
  | nil => simp
  | cons a l ih =>
    rw [List.foldl_cons, ih (fun s b hb => hf s b (by simp [hb])), hf s a (by simp), List.flatMap_cons,
      List.append_assoc]

lemma flatMap_filtered (l : List α) (p : α → Prop) [DecidablePred p] (f : α → List β) :
    (l.flatMap fun a => if p a then f a else []) = (l.filter fun a => p a).flatMap f := by
  induction l with
  | nil => rfl
  | cons a l ih => by_cases ha : p a <;> simp [ha, ih]

lemma foldl_invariant {f : σ → α → σ} {I : σ → Prop} (hf : ∀ s a, I s → I (f s a)) (l : List α) (s : σ)
    (hs : I s) : I (l.foldl f s) := by
  induction l generalizing s with
  | nil => exact hs
  | cons a l ih => exact ih _ (hf s a hs)

lemma chain_invariant {R : σ → σ → Prop} {I : σ → Prop} (hR : ∀ s s', R s s' → I s → I s') {s s' : σ}
    (h : ReflTransGen R s s') (hs : I s) : I s' := by
  induction h with
  | refl => exact hs
  | tail _ hstep ih => exact hR _ _ hstep ih

/-- Each step of a run meets `P`. -/
def Along (f : σ → α → σ) (P : σ → α → Prop) : σ → List α → Prop
  | _, [] => True
  | s, a :: l => P s a ∧ Along f P (f s a) l

/-- Whether each step of a run meets `P`. -/
instance decidableAlong {f : σ → α → σ} {P : σ → α → Prop} [∀ s a, Decidable (P s a)] (s : σ) (l : List α) :
    Decidable (Along f P s l) :=
  match l with
  | [] => .isTrue trivial
  | a :: l =>
    have : Decidable (Along f P (f s a) l) := decidableAlong (f s a) l
    inferInstanceAs (Decidable (P s a ∧ Along f P (f s a) l))

lemma Along.mono {f : σ → α → σ} {P Q : σ → α → Prop} (hPQ : ∀ s a, P s a → Q s a) (l : List α) (s : σ)
    (h : Along f P s l) : Along f Q s l := by
  induction l generalizing s with
  | nil => trivial
  | cons a l ih => exact ⟨hPQ s a h.1, ih _ h.2⟩

lemma along_invariant {f : σ → α → σ} {P : σ → α → Prop} {I : σ → Prop} (hf : ∀ s a, P s a → I s → I (f s a))
    (l : List α) (s : σ) (h : Along f P s l) (hs : I s) : I (l.foldl f s) := by
  induction l generalizing s with
  | nil => exact hs
  | cons a l ih => exact ih _ h.2 (hf s a h.1 hs)

end KcfTools.Transitions
