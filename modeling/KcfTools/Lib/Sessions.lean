import Mathlib

/-! Clients of a source with many topics that read one of them at a time, through a session. A start opens
a session, and every call but a read in order and a read outside the session ends it. -/

namespace KcfTools.Sessions

structure Session (X T : Type) where
  identity : X
  topic : T
  /-- The number of the start that opened the session. -/
  opening : ℕ
deriving DecidableEq

structure State (X T : Type) where
  session : Option (Session X T) := none
  starts : ℕ := 0
deriving DecidableEq

inductive Call (X : Type)
  | start (x : X) | read | stop | refresh | once
deriving DecidableEq

/-- A call that has returned. The accesses are the openings and the topics whose readers it used. -/
structure Event (X T D : Type) where
  call : Call X
  listed : Option T := none
  code : ℤ := 0
  given : D
  output : D
  accesses : List (ℕ × T) := []

variable {X T D : Type} (again closed : ℤ)

def State.next (s : State X T) (e : Event X T D) : State X T :=
  match e.call with
  | .start x => ⟨if e.code = 0 then e.listed.map fun t => ⟨x, t, s.starts⟩ else none, s.starts + 1⟩
  | .read => if e.code = 0 ∨ e.code = again then s else { s with session := none }
  | .stop => { s with session := none }
  | .refresh => { s with session := none }
  | .once => s

structure Permitted (s : State X T) (e : Event X T D) : Prop where
  started : ∀ x, e.call = .start x → e.code = 0 → e.listed ≠ none
  refused : e.call = .read → s.session = none → e.code = closed
  accesses : ∀ a ∈ e.accesses, e.call = .read ∧ ∃ x, s.session = some ⟨x, a.2, a.1⟩
  unchanged : e.code ≠ 0 → e.output = e.given

/-- The events are permitted one after the other, and lead from the first state to the second. -/
inductive Steps : State X T → List (Event X T D) → State X T → Prop
  | refl (s) : Steps s [] s
  | tail {s es t} (e) : Steps s es t → Permitted closed t e → Steps s (es ++ [e]) (t.next again e)

def Event.isStart (e : Event X T D) : Bool :=
  match e.call with
  | .start _ => true
  | _ => false

/-- The event leaves every session as it is. -/
def Harmless (e : Event X T D) : Prop := e.call = .once ∨ e.call = .read ∧ (e.code = 0 ∨ e.code = again)

/-- The last start opened the session, and nothing has ended it since. -/
def Opened (es : List (Event X T D)) (σ : Session X T) : Prop :=
  ∃ before e after, es = before ++ e :: after ∧ e.call = .start σ.identity ∧ e.code = 0 ∧
    e.listed = some σ.topic ∧ σ.opening = before.countP Event.isStart ∧ ∀ e' ∈ after, Harmless again e'

section Next

variable {again closed} {s : State X T} {e : Event X T D}

lemma next_harmless (h : Harmless again e) : s.next again e = s := by
  unfold State.next
  rcases h with h | ⟨h, hc⟩
  · rw [h]
  · rw [h]
    exact if_pos hc

lemma next_start {x : X} (h : e.call = .start x) (hc : e.code = 0) :
    (s.next again e).session = e.listed.map fun t => ⟨x, t, s.starts⟩ := by
  simp only [State.next, h, hc, if_true]

lemma next_ended (h : ¬ Harmless again e) (hs : ∀ x, e.call = .start x → e.code ≠ 0) :
    (s.next again e).session = none := by
  unfold State.next
  cases hc : e.call with
  | start x => exact if_neg (hs x hc)
  | read =>
    have hne : ¬ (e.code = 0 ∨ e.code = again) := fun h' => h (.inr ⟨hc, h'⟩)
    exact congrArg State.session (if_neg hne)
  | stop => rfl
  | refresh => rfl
  | once => exact absurd (.inl hc) h

lemma next_starts : (s.next again e).starts = s.starts + [e].countP Event.isStart := by
  unfold State.next Event.isStart
  cases hc : e.call with
  | start x => simp [hc]
  | read =>
    dsimp only
    split_ifs <;> simp [hc]
  | stop => simp [hc]
  | refresh => simp [hc]
  | once => simp [hc]

lemma not_harmless_of_start {x : X} (h : e.call = .start x) : ¬ Harmless again e := by
  rintro (h' | ⟨h', _⟩)
  · rw [h] at h'
    cases h'
  · rw [h] at h'
    cases h'

lemma opened_append {es : List (Event X T D)} {σ : Session X T} : Opened again (es ++ [e]) σ ↔
    (e.call = .start σ.identity ∧ e.code = 0 ∧ e.listed = some σ.topic ∧
      σ.opening = es.countP Event.isStart) ∨ Harmless again e ∧ Opened again es σ := by
  constructor
  · rintro ⟨before, f, after, heq, hf, hcode, hl, hn, hafter⟩
    rcases List.eq_nil_or_concat after with rfl | ⟨front, last, rfl⟩
    · obtain ⟨rfl, hlast⟩ := List.append_inj' heq rfl
      obtain rfl := List.singleton_inj.mp hlast
      exact .inl ⟨hf, hcode, hl, hn⟩
    · rw [List.concat_eq_append] at heq hafter
      have heq' : es ++ [e] = (before ++ f :: front) ++ [last] := by simpa using heq
      obtain ⟨rfl, hlast⟩ := List.append_inj' heq' rfl
      obtain rfl := List.singleton_inj.mp hlast
      exact .inr ⟨hafter e (by simp), before, f, front, rfl, hf, hcode, hl, hn,
        fun e' he' => hafter e' (by simp [he'])⟩
  · rintro (⟨hf, hcode, hl, hn⟩ | ⟨he, before, f, after, rfl, hf, hcode, hl, hn, hafter⟩)
    · exact ⟨es, e, [], rfl, hf, hcode, hl, hn, by simp⟩
    · refine ⟨before, f, after ++ [e], by simp, hf, hcode, hl, hn, fun e' he' => ?_⟩
      rcases List.mem_append.mp he' with he' | he'
      · exact hafter e' he'
      · rw [List.mem_singleton.mp he']
        exact he

end Next

section Histories

variable {again closed} {s : State X T} {es : List (Event X T D)}

lemma Steps.starts (h : Steps again closed {} es s) : s.starts = es.countP Event.isStart := by
  induction h with
  | refl => rfl
  | tail e _ _ ih => rw [next_starts, ih, List.countP_append]

/-- A session is open exactly if the last start opened it and nothing has ended it since. -/
theorem session_iff (h : Steps again closed {} es s) (σ : Session X T) :
    s.session = some σ ↔ Opened again es σ := by
  induction h with
  | refl =>
    refine ⟨fun h => (nomatch h), ?_⟩
    rintro ⟨before, e, after, heq, _⟩
    simp at heq
  | @tail es t e h he ih =>
    rw [opened_append]
    by_cases hh : Harmless again e
    · have hstart : ∀ x, e.call ≠ .start x := fun x hx => not_harmless_of_start hx hh
      rw [next_harmless hh, ih]
      exact ⟨fun ho => .inr ⟨hh, ho⟩, fun ho => ho.elim (fun h' => absurd h'.1 (hstart _)) And.right⟩
    · have hrest : ¬ (Harmless again e ∧ Opened again es σ) := fun h' => hh h'.1
      rw [or_iff_left hrest]
      by_cases hs : ∃ x, e.call = .start x ∧ e.code = 0
      · obtain ⟨x, hx, hc⟩ := hs
        obtain ⟨topic, ht⟩ := Option.ne_none_iff_exists'.mp (he.started x hx hc)
        rw [next_start hx hc, ht, h.starts, hx]
        simp only [Option.map_some, Option.some_inj, Call.start.injEq, hc, true_and]
        constructor
        · rintro rfl
          exact ⟨rfl, rfl, rfl⟩
        · rintro ⟨rfl, rfl, hn⟩
          rw [← hn]
      · push Not at hs
        rw [next_ended hh hs]
        exact ⟨fun h' => (nomatch h'), fun h' => absurd h'.2.1 (hs _ h'.1)⟩

/-- What was permitted in the middle of a history was so in the state that the history had reached. -/
lemma Steps.at (h : Steps again closed {} es s) {before after : List (Event X T D)} {e : Event X T D}
    (heq : es = before ++ e :: after) : ∃ t, Steps again closed {} before t ∧ Permitted closed t e := by
  induction h generalizing after with
  | refl => simp at heq
  | @tail es t f h hf ih =>
    rcases List.eq_nil_or_concat after with rfl | ⟨front, last, rfl⟩
    · obtain ⟨rfl, hlast⟩ := List.append_inj' heq rfl
      obtain rfl := List.singleton_inj.mp hlast
      exact ⟨t, h, hf⟩
    · rw [List.concat_eq_append] at heq
      have heq' : es ++ [f] = (before ++ e :: front) ++ [last] := by simpa using heq
      exact ih (List.append_inj' heq' rfl).1

/-- What a client sees of the automaton, in terms of the history alone. -/
structure Law (again closed : ℤ) (es : List (Event X T D)) (held : Option (Session X T)) : Prop where
  session : ∀ σ, held = some σ ↔ Opened again es σ
  identity : ∀ x, (∃ σ, held = some σ ∧ σ.identity = x) ↔ ∃ before e after, es = before ++ e :: after ∧
    e.call = .start x ∧ e.code = 0 ∧ ∀ e' ∈ after, Harmless again e'
  refused : ∀ before e after, es = before ++ e :: after → e.call = .read →
    (∀ σ, ¬ Opened again before σ) → e.code = closed ∧ e.accesses = []
  accesses : ∀ before e after, es = before ++ e :: after → ∀ a ∈ e.accesses,
    e.call = .read ∧ ∃ σ, Opened again before σ ∧ a = (σ.opening, σ.topic)
  once : ∀ before e after, es = before ++ e :: after → e.call = .once →
    ∀ σ, Opened again (before ++ [e]) σ ↔ Opened again before σ
  unchanged : ∀ e ∈ es, e.code ≠ 0 → e.output = e.given

lemma Opened.identity_iff (h : Steps again closed {} es s) (x : X) : (∃ σ, Opened again es σ ∧ σ.identity = x) ↔
    ∃ before e after, es = before ++ e :: after ∧ e.call = .start x ∧ e.code = 0 ∧
      ∀ e' ∈ after, Harmless again e' := by
  constructor
  · rintro ⟨σ, ⟨before, e, after, heq, he, hc, _, _, hafter⟩, rfl⟩
    exact ⟨before, e, after, heq, he, hc, hafter⟩
  · rintro ⟨before, e, after, heq, he, hc, hafter⟩
    obtain ⟨t, _, hp⟩ := h.at heq
    obtain ⟨topic, ht⟩ := Option.ne_none_iff_exists'.mp (hp.started x he hc)
    exact ⟨⟨x, topic, _⟩, ⟨before, e, after, heq, he, hc, ht, rfl, hafter⟩, rfl⟩

theorem Steps.law (h : Steps again closed {} es s) : Law again closed es s.session where
  session := session_iff h
  identity x := by
    simp only [session_iff h]
    exact Opened.identity_iff h x
  refused before e after heq he hnone := by
    obtain ⟨t, ht, hp⟩ := h.at heq
    have hs : t.session = none := by
      refine Option.eq_none_iff_forall_ne_some.mpr fun σ hσ => hnone σ ((session_iff ht σ).mp hσ)
    refine ⟨hp.refused he hs, List.eq_nil_iff_forall_not_mem.mpr fun a ha => ?_⟩
    obtain ⟨_, x, hx⟩ := hp.accesses a ha
    rw [hs] at hx
    cases hx
  accesses before e after heq a ha := by
    obtain ⟨t, ht, hp⟩ := h.at heq
    obtain ⟨he, x, hx⟩ := hp.accesses a ha
    exact ⟨he, _, (session_iff ht _).mp hx, rfl⟩
  once before e after _ he σ := by
    rw [opened_append, or_iff_right]
    · exact and_iff_right (.inl he)
    · rintro ⟨hs, _⟩
      rw [he] at hs
      cases hs
  unchanged e he := by
    obtain ⟨before, after, heq⟩ := List.append_of_mem he
    obtain ⟨t, _, hp⟩ := h.at heq
    exact hp.unchanged

/-- What a call with its code leaves of the identity that is read. -/
def Call.follow (again : ℤ) (c : Call X) (code : ℤ) (held : Option X) : Option X :=
  match c with
  | .start x => if code = 0 then some x else none
  | .read => if code = 0 ∨ code = again then held else none
  | .once => held
  | _ => none

lemma identity_next {e : Event X T D} (h : Permitted closed s e) :
    (s.next again e).session.map Session.identity =
      e.call.follow again e.code (s.session.map Session.identity) := by
  unfold State.next Call.follow
  cases hc : e.call with
  | start x =>
    simp only
    split_ifs with h0
    · obtain ⟨topic, ht⟩ := Option.ne_none_iff_exists'.mp (h.started x hc h0)
      rw [ht]
      rfl
    · rfl
  | read =>
    simp only
    split_ifs <;> rfl
  | _ => rfl

lemma Steps.identity (h : Steps again closed {} es s) : s.session.map Session.identity =
    (es.map fun e => (e.call, e.code)).foldl (fun held c => c.1.follow again c.2 held) none := by
  induction h with
  | refl => rfl
  | tail e _ hp ih => rw [identity_next hp, ih, List.map_append, List.foldl_append, List.map_singleton,
      List.foldl_cons, List.foldl_nil]

end Histories

section Simulation

variable {again closed} {I S : Type} {step : S → I → Event X T D × S} {A : S → State X T} {J : S → Prop}

/-- The events of a machine and its last state. -/
def observe (step : S → I → Event X T D × S) (s : S) : List I → List (Event X T D) × S
  | [] => ([], s)
  | i :: is => ((step s i).1 :: (observe step (step s i).2 is).1, (observe step (step s i).2 is).2)

lemma observe_append (s : S) (is : List I) (i : I) : observe step s (is ++ [i]) =
    ((observe step s is).1 ++ [(step (observe step s is).2 i).1], (step (observe step s is).2 i).2) := by
  induction is generalizing s with
  | nil => rfl
  | cons j is ih => simp only [List.cons_append, observe, ih]

/-- A machine each of whose steps is a permitted event is simulated over every run. -/
lemma simulated (hstep : ∀ s i, J s → Permitted closed (A s) (step s i).1 ∧
      A (step s i).2 = (A s).next again (step s i).1 ∧ J (step s i).2)
    {s : S} (hs : J s) (is : List I) :
    Steps again closed (A s) (observe step s is).1 (A (observe step s is).2) ∧ J (observe step s is).2 := by
  induction is using List.reverseRecOn with
  | nil => exact ⟨.refl _, hs⟩
  | append_singleton is i ih =>
    obtain ⟨hp, hn, hJ⟩ := hstep _ i ih.2
    rw [observe_append]
    refine ⟨?_, hJ⟩
    rw [hn]
    exact .tail _ ih.1 hp

end Simulation

end KcfTools.Sessions
