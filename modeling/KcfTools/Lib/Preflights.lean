import KcfTools.Lib.Traced

/-! A program that starts with the same check as another one: what the check refuses, the other refuses too. -/

namespace KcfTools.Traced

variable {ω σ κ ε α β γ : Type} {P : ω → ε → σ → Prop}

/-- Every error of the program, with the state that it leaves, satisfies `P`. -/
def Raises (P : ω → ε → σ → Prop) (x : Prog ω σ ε α) : Prop := ∀ w s e s', x w s = (.error e, s') → P w e s'

section Raises

variable {Q : ω → ε → σ → Prop} {x : Prog ω σ ε α} {f : α → Prog ω σ ε β}

lemma Raises.mono (h : Raises P x) (hq : ∀ w e s, P w e s → Q w e s) : Raises Q x :=
  fun w s e s' he => hq w e s' (h w s e s' he)

lemma Raises.fail {e : ε} (h : ∀ w s, P w e s) : Raises P (Traced.fail e : Prog ω σ ε α) := by
  rintro w s e' s' he
  cases he
  exact h w s

lemma Raises.act {P : ω → ε → List κ → Prop} {run : ω → ℕ → Except ε α × κ}
    (h : ∀ w l e, (run w l.length).1 = .error e → P w e (l ++ [(run w l.length).2])) :
    Raises P (Traced.act run) := by
  rintro w l e m hm
  obtain ⟨he, rfl⟩ := Prod.mk.inj hm
  exact h w l e he

/-- The second part knows what the first one has returned. -/
lemma Raises.bind (hx : Raises P x)
    (hf : ∀ w s a s' e s'', x w s = (.ok a, s') → f a w s' = (.error e, s'') → P w e s'') :
    Raises P (x >>= f) := by
  intro w s e s' he
  rcases hrun : x w s with ⟨e' | a, s''⟩
  · rw [bind_error hrun] at he
    cases he
    exact hx w s _ _ hrun
  · rw [bind_ok hrun] at he
    exact hf w s a s'' e s' hrun he

lemma Raises.andThen (hx : Raises P x) (hf : ∀ a, Raises P (f a)) : Raises P (x >>= f) :=
  hx.bind fun w _ a s' e s'' _ he => hf a w s' e s'' he

end Raises

/-- What `x` refuses `y` refuses, with the same error and in the same state; where `x` returns, `P` relates
every error of `y` to the states before and after. -/
structure Guards (P : ω → σ → ε → σ → Prop) (x : Prog ω σ ε α) (y : Prog ω σ ε β) : Prop where
  refused : ∀ w s e s', x w s = (.error e, s') → y w s = (.error e, s')
  passed : ∀ w s a s' e s'', x w s = (.ok a, s') → y w s = (.error e, s'') → P w s e s''

section Guards

variable {P : ω → σ → ε → σ → Prop} {Q : α → ω → σ → ε → σ → Prop} {x : Prog ω σ ε α} {f : α → Prog ω σ ε β}
  {g : α → Prog ω σ ε γ} {R : α → Prop}

lemma Guards.fail (e : ε) : Guards P (Traced.fail e : Prog ω σ ε β) (Traced.fail e : Prog ω σ ε γ) where
  refused _ _ _ _ h := by
    cases h
    rfl
  passed _ _ _ _ _ _ h := by cases h

/-- The check ends here. -/
lemma Guards.pure (a : α) {y : Prog ω σ ε γ} (h : Raises (fun w e s' => ∀ s, P w s e s') y) :
    Guards P (pure a : Prog ω σ ε α) y where
  refused _ _ _ _ h := by cases h
  passed w s _ _ e s' _ he := h w s e s' he s

/-- Both programs start with `x`. -/
lemma Guards.bind (hr : Yields R x) (h : ∀ a, R a → Guards (Q a) (f a) (g a))
    (hq : ∀ w s a s' e s'', x w s = (.ok a, s') → Q a w s' e s'' → P w s e s'') :
    Guards P (x >>= f) (x >>= g) where
  refused w s e s' he := by
    rcases hrun : x w s with ⟨e' | a, s''⟩
    · rw [bind_error hrun] at he ⊢
      cases he
      rfl
    · rw [bind_ok hrun] at he ⊢
      exact (h a (hr w s a s'' hrun)).refused w s'' e s' he
  passed w s b s' e s₂ hb he := by
    obtain ⟨a, s₁, ha, hb⟩ := bind_inv hb
    rw [bind_ok ha] at he
    exact hq w s a s₁ e s₂ ha ((h a (hr w s a s₁ ha)).passed w s₁ b s' e s₂ hb he)

end Guards

end KcfTools.Traced
