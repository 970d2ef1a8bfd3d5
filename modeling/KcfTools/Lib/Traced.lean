import Mathlib

/-! Programs that read an environment, change a state and may fail, and their logs. -/

namespace KcfTools.Traced

/-- A failing program keeps the state it has reached. -/
def Prog (ω σ ε α : Type) := ω → σ → Except ε α × σ

variable {ω σ κ ε α β γ : Type}

instance : Monad (Prog ω σ ε) where
  pure a := fun _ s => (.ok a, s)
  bind x f := fun w s =>
    match x w s with
    | (.ok a, s') => f a w s'
    | (.error e, s') => (.error e, s')

def fail (e : ε) : Prog ω σ ε α := fun _ s => (.error e, s)

def read : Prog ω σ ε ω := fun w s => (.ok w, s)

def getState : Prog ω σ ε σ := fun _ s => (.ok s, s)

def modifyState (f : σ → σ) : Prog ω σ ε Unit := fun _ s => (.ok (), f s)

/-- One action of a logging program: it is logged with the number of actions before it, whatever its
outcome. -/
def act (run : ω → ℕ → Except ε α × κ) : Prog ω (List κ) ε α := fun w l =>
  ((run w l.length).1, l ++ [(run w l.length).2])

@[simp] lemma pure_run (a : α) (w : ω) (s : σ) : (pure a : Prog ω σ ε α) w s = (.ok a, s) := rfl

@[simp] lemma fail_run (e : ε) (w : ω) (s : σ) : (fail e : Prog ω σ ε α) w s = (.error e, s) := rfl

section Bind

variable {x : Prog ω σ ε α} {f : α → Prog ω σ ε β} {w : ω} {s s' : σ}

lemma bind_ok {a : α} (h : x w s = (.ok a, s')) : (x >>= f) w s = f a w s' := by
  change (match x w s with
    | (.ok a, s') => f a w s'
    | (.error e, s') => (.error e, s')) = f a w s'
  rw [h]

lemma bind_error {e : ε} (h : x w s = (.error e, s')) : (x >>= f) w s = (.error e, s') := by
  change (match x w s with
    | (.ok a, s') => f a w s'
    | (.error e, s') => (.error e, s')) = (.error e, s')
  rw [h]

end Bind

lemma bind_assoc_run (x : Prog ω σ ε α) (f : α → Prog ω σ ε β) (g : β → Prog ω σ ε γ) :
    x >>= f >>= g = x >>= fun a => f a >>= g := by
  funext w s
  rcases hx : x w s with ⟨e | a, s'⟩
  · rw [bind_error hx, bind_error (bind_error hx)]
  · rw [bind_ok hx]
    rcases hf : f a w s' with ⟨e | b, s''⟩
    · rw [bind_error hf, bind_error ((bind_ok hx).trans hf)]
    · rw [bind_ok hf, bind_ok ((bind_ok hx).trans hf)]

lemma id_map_run (x : Prog ω σ ε α) : id <$> x = x := by
  funext w s
  rcases hx : x w s with ⟨e | a, s'⟩
  · exact bind_error hx
  · exact bind_ok hx

instance : LawfulMonad (Prog ω σ ε) :=
  LawfulMonad.mk' _ id_map_run (fun _ _ => rfl) bind_assoc_run

/-- From every state, the program ends in the same state, with an outcome that satisfies `P`. -/
def Quiet (P : Except ε α → Prop) (x : Prog ω σ ε α) : Prop := ∀ w s, (x w s).2 = s ∧ P (x w s).1

section Quiet

variable {P : Except ε α → Prop} {Q : Except ε β → Prop} {x : Prog ω σ ε α} {f : α → Prog ω σ ε β}

lemma Quiet.run (h : Quiet P x) {w : ω} {s s' : σ} {r : Except ε α} (hr : x w s = (r, s')) : s' = s ∧ P r := by
  have hw := h w s
  rwa [hr] at hw

lemma Quiet.pure {a : α} (h : P (.ok a)) : Quiet P (pure a : Prog ω σ ε α) := fun _ _ => ⟨rfl, h⟩

lemma Quiet.bind (hx : Quiet P x) (hf : ∀ a, P (.ok a) → Quiet Q (f a))
    (he : ∀ e, P (.error e) → Q (.error e)) : Quiet Q (x >>= f) := by
  intro w s
  rcases hr : x w s with ⟨e | a, s'⟩
  · obtain ⟨hs, hp⟩ := hx.run hr
    rw [bind_error hr]
    exact ⟨hs, he e hp⟩
  · obtain ⟨rfl, hp⟩ := hx.run hr
    rw [bind_ok hr]
    exact hf a hp w s'

lemma Quiet.read_bind {f : ω → Prog ω σ ε β} (hf : ∀ w, Quiet Q (f w)) : Quiet Q (read >>= f) := fun w s => by
  rw [bind_ok (show read w s = (.ok w, s) from rfl)]
  exact hf w w s

lemma Quiet.getState_bind {f : σ → Prog ω σ ε β} (hf : ∀ s, Quiet Q (f s)) : Quiet Q (getState >>= f) :=
  fun w s => by
    rw [bind_ok (show getState w s = (.ok s, s) from rfl)]
    exact hf s w s

end Quiet

/-- Every entry that the program adds to the log satisfies `P`. -/
def Emits (P : κ → Prop) (x : Prog ω (List κ) ε α) : Prop :=
  ∀ w l, ∃ new, (x w l).2 = l ++ new ∧ ∀ k ∈ new, P k

section Emits

variable {P Q : κ → Prop} {x : Prog ω (List κ) ε α} {f : α → Prog ω (List κ) ε β}

lemma Emits.pure (a : α) : Emits P (pure a : Prog ω (List κ) ε α) := fun _ l => ⟨[], by simp, by simp⟩

lemma Emits.fail (e : ε) : Emits P (Traced.fail e : Prog ω (List κ) ε α) := fun _ l => ⟨[], by simp, by simp⟩

lemma Emits.act {run : ω → ℕ → Except ε α × κ} (h : ∀ w n, P (run w n).2) : Emits P (Traced.act run) :=
  fun w l => ⟨[(run w l.length).2], rfl, by simpa using h w l.length⟩

lemma Emits.run (h : Emits P x) {w : ω} {l l' : List κ} {r : Except ε α} (hr : x w l = (r, l')) :
    ∃ new, l' = l ++ new ∧ ∀ k ∈ new, P k := by
  obtain ⟨new, hl, hn⟩ := h w l
  rw [hr] at hl
  exact ⟨new, hl, hn⟩

lemma Emits.start (h : Emits P x) {w : ω} {l : List κ} {r : Except ε α} (hr : x w [] = (r, l)) :
    ∀ k ∈ l, P k := by
  obtain ⟨new, hl, hn⟩ := h.run hr
  rw [hl, List.nil_append]
  exact hn

lemma Emits.bind (hx : Emits P x) (hf : ∀ a, Emits P (f a)) : Emits P (x >>= f) := by
  intro w l
  obtain ⟨new, hl, hn⟩ := hx w l
  rcases hr : x w l with ⟨e | a, l'⟩
  · rw [bind_error hr]
    exact ⟨new, by rw [← hl, hr], hn⟩
  · rw [bind_ok hr]
    obtain ⟨new', hl', hn'⟩ := hf a w l'
    rw [hr] at hl
    refine ⟨new ++ new', by rw [hl', ← List.append_assoc, ← hl], fun k hk => ?_⟩
    rcases List.mem_append.mp hk with hk | hk
    · exact hn k hk
    · exact hn' k hk

end Emits

/-- Whatever the program returns satisfies `P`. -/
def Yields (P : α → Prop) (x : Prog ω σ ε α) : Prop := ∀ w s a s', x w s = (.ok a, s') → P a

section Yields

variable {P : α → Prop} {Q : β → Prop} {x : Prog ω σ ε α} {f : α → Prog ω σ ε β}

lemma Yields.pure {a : α} (h : P a) : Yields P (pure a : Prog ω σ ε α) := by
  rintro w s b s' hr
  obtain rfl := Except.ok.inj (congrArg Prod.fst hr)
  exact h

lemma Yields.any (x : Prog ω σ ε α) : Yields (fun _ => True) x := fun _ _ _ _ _ => trivial

lemma bind_inv {w : ω} {s s' : σ} {b : β} (h : (x >>= f) w s = (.ok b, s')) :
    ∃ a s'', x w s = (.ok a, s'') ∧ f a w s'' = (.ok b, s') := by
  rcases hx : x w s with ⟨e | a, s''⟩
  · rw [bind_error hx] at h
    cases h
  · rw [bind_ok hx] at h
    exact ⟨a, s'', rfl, h⟩

lemma Yields.bind (hx : Yields P x) (hf : ∀ a, P a → Yields Q (f a)) : Yields Q (x >>= f) := by
  intro w s b s' h
  obtain ⟨a, s'', ha, hb⟩ := bind_inv h
  exact hf a (hx w s a s'' ha) w s'' b s' hb

lemma Yields.foldlM {P : β → Prop} {step : β → α → Prog ω σ ε β} (l : List α)
    (hstep : ∀ b, ∀ a ∈ l, P b → Yields P (step b a)) {b : β} (hb : P b) : Yields P (l.foldlM step b) := by
  induction l generalizing b with
  | nil => exact Yields.pure hb
  | cons a l ih =>
    rw [List.foldlM_cons]
    exact (hstep b a List.mem_cons_self hb).bind fun c hc =>
      ih (fun b a ha => hstep b a (List.mem_cons_of_mem _ ha)) hc

end Yields

/-- A program in five parts, the second and the fourth of which are the same check. -/
def sandwich (before : Prog ω (List κ) ε α) (check : Prog ω (List κ) ε Unit) (between : α → Prog ω (List κ) ε β)
    (commit : α → β → Prog ω (List κ) ε γ) : Prog ω (List κ) ε γ :=
  before >>= fun a => check >>= fun _ => between a >>= fun b => check >>= fun _ => commit a b

section Sandwich

variable {before : Prog ω (List κ) ε α} {check : Prog ω (List κ) ε Unit} {between : α → Prog ω (List κ) ε β}
  {commit : α → β → Prog ω (List κ) ε γ}

/-- Where a run of a sandwich from the empty log ends. -/
inductive Ends (before : Prog ω (List κ) ε α) (check : Prog ω (List κ) ε Unit)
    (between : α → Prog ω (List κ) ε β)
    (commit : α → β → Prog ω (List κ) ε γ) (w : ω) : Except ε γ × List κ → Prop
  | before {e l} : before w [] = (.error e, l) → Ends before check between commit w (.error e, l)
  | first {a l e l'} : before w [] = (.ok a, l) → check w l = (.error e, l') →
      Ends before check between commit w (.error e, l')
  | between {a l l' e m} : before w [] = (.ok a, l) → check w l = (.ok (), l') →
      between a w l' = (.error e, m) → Ends before check between commit w (.error e, m)
  | second {a b l l' m e m'} : before w [] = (.ok a, l) → check w l = (.ok (), l') →
      between a w l' = (.ok b, m) → check w m = (.error e, m') →
      Ends before check between commit w (.error e, m')
  | commit {a b l l' m m'} : before w [] = (.ok a, l) → check w l = (.ok (), l') →
      between a w l' = (.ok b, m) → check w m = (.ok (), m') →
      Ends before check between commit w (commit a b w m')

lemma sandwich_ends (w : ω) :
    Ends before check between commit w (sandwich before check between commit w []) := by
  unfold sandwich
  rcases h₁ : before w [] with ⟨e | a, l⟩
  · rw [bind_error h₁]
    exact .before h₁
  rw [bind_ok h₁]
  rcases h₂ : check w l with ⟨e | u, l'⟩
  · rw [bind_error h₂]
    exact .first h₁ h₂
  rw [bind_ok h₂]
  rcases h₃ : between a w l' with ⟨e | b, m⟩
  · rw [bind_error h₃]
    exact .between h₁ h₂ h₃
  rw [bind_ok h₃]
  rcases h₄ : check w m with ⟨e | u', m'⟩
  · rw [bind_error h₄]
    exact .second h₁ h₂ h₃ h₄
  rw [bind_ok h₄]
  exact .commit h₁ h₂ h₃ h₄

end Sandwich

end KcfTools.Traced
