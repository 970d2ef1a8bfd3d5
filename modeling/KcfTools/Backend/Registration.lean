import KcfTools.Backend.KcfBackend

/-! An operation commits its effect only between two sightings of the cached registration. -/

namespace KcfTools.KcfBackend

open Traced ValueCodec

def IsCheck : Action → Prop
  | .listEndpoints _ _ => True
  | .listServices _ _ => True
  | _ => False

def IsOpen : Action → Prop
  | .openTopic _ => True
  | .openParameter _ => True
  | .openService _ _ => True
  | _ => False

/-- A registration check together with what it reads: at a given moment the listing confirms the cached
registration, or it shows that the registration is gone. -/
structure Validator where
  check : Op Unit
  confirmed : World → ℕ → Prop
  refuted : World → ℕ → Prop
  exclusive : ∀ w t, confirmed w t → ¬ refuted w t
  ok : ∀ w l l', check w l = (.ok (), l') →
    ∃ a, l' = l ++ [a] ∧ IsCheck a ∧ confirmed w (w.moment l.length)
  error : ∀ w l e l', check w l = (.error e, l') → l' = l ∨
    ∃ a, l' = l ++ [a] ∧ IsCheck a ∧ (refuted w (w.moment l.length) → e = estale)

section Listing

variable {E : Type} (listing : World → ℕ → Outcome (List E)) (registrationId : E → UInt64)
  (same : E → Bool) (id : UInt64)

/-- The listing at moment `t` contains the cached registration, unchanged. -/
def Listed (w : World) (t : ℕ) : Prop :=
  ∃ l e, listing w t = .ok l ∧ (l.find? fun x => registrationId x = id) = some e ∧ same e = true

/-- The listing at moment `t` misses the cached registration, shows it changed, or its process is gone. -/
def Unlisted (w : World) (t : ℕ) : Prop :=
  listing w t = .error enoent ∨ listing w t = .error esrch ∨
    ∃ l, listing w t = .ok l ∧ ∀ e, (l.find? fun x => registrationId x = id) = some e → same e = false

variable {listing registrationId same id}

lemma listed_exclusive {w : World} {t : ℕ} (h : Listed listing registrationId same id w t) :
    ¬ Unlisted listing registrationId same id w t := by
  obtain ⟨l, e, hl, hf, hs⟩ := h
  rintro (he | he | ⟨l', hl', hall⟩)
  · rw [hl] at he
    cases he
  · rw [hl] at he
    cases he
  · obtain rfl : l = l' := Except.ok.inj (hl.symm.trans hl')
    rw [hall e hf] at hs
    cases hs

variable {log : Outcome (List E) → Action} (hlog : ∀ r, IsCheck (log r))

include hlog

lemma listingCheck_ok (w : World) (l l' : List Action)
    (h : listingCheck listing log registrationId same id w l = (.ok (), l')) :
    ∃ a, l' = l ++ [a] ∧ IsCheck a ∧ Listed listing registrationId same id w (w.moment l.length) := by
  unfold listingCheck at h
  cases hr : listing w (w.moment l.length) with
  | error e =>
    rw [bind_error (e := discoveryError e) (by simp only [act, hr]; rfl)] at h
    cases h
  | ok current =>
    rw [bind_ok (a := current) (by simp only [act, hr]; rfl)] at h
    cases hf : current.find? fun x => registrationId x = id with
    | none =>
      rw [hf] at h
      cases h
    | some e =>
      rw [hf] at h
      simp only at h
      split_ifs at h with hs
      · exact ⟨_, (Prod.mk.inj h).2.symm, hlog _, current, e, hr, hf, hs⟩
      · cases h

lemma listingCheck_error (w : World) (l : List Action) (e : Fault) (l' : List Action)
    (h : listingCheck listing log registrationId same id w l = (.error e, l')) :
    l' = l ∨ ∃ a, l' = l ++ [a] ∧ IsCheck a ∧
      (Unlisted listing registrationId same id w (w.moment l.length) → e = estale) := by
  right
  unfold listingCheck at h
  cases hr : listing w (w.moment l.length) with
  | error e' =>
    rw [bind_error (e := discoveryError e') (by simp only [act, hr]; rfl)] at h
    obtain ⟨he, hl⟩ := Prod.mk.inj h
    obtain rfl : discoveryError e' = e := Except.error.inj he
    refine ⟨_, hl.symm, hlog _, fun hu => ?_⟩
    have hgone : e' = enoent ∨ e' = esrch := by
      rcases hu with hu | hu | ⟨l, hu, -⟩
      · exact .inl (Except.error.inj (hr.symm.trans hu))
      · exact .inr (Except.error.inj (hr.symm.trans hu))
      · rw [hr] at hu
        cases hu
    simp only [discoveryError, hgone, if_true]
  | ok current =>
    rw [bind_ok (a := current) (by simp only [act, hr]; rfl)] at h
    cases hf : current.find? fun x => registrationId x = id with
    | none =>
      rw [hf] at h
      obtain ⟨he, hl⟩ := Prod.mk.inj h
      exact ⟨_, hl.symm, hlog _, fun _ => (Except.error.inj he).symm⟩
    | some x =>
      rw [hf] at h
      simp only at h
      split_ifs at h with hs
      · cases h
      · obtain ⟨he, hl⟩ := Prod.mk.inj h
        exact ⟨_, hl.symm, hlog _, fun _ => (Except.error.inj he).symm⟩

end Listing

/-- The listing check behind a test of the record itself. -/
def listingValidator {E : Type} (bad : Prop) [Decidable bad] (listing : World → ℕ → Outcome (List E))
    (log : Outcome (List E) → Action) (hlog : ∀ r, IsCheck (log r)) (registrationId : E → UInt64)
    (same : E → Bool) (id : UInt64) : Validator where
  check := if bad then fail estale else listingCheck listing log registrationId same id
  confirmed := Listed listing registrationId same id
  refuted := Unlisted listing registrationId same id
  exclusive _ _ := listed_exclusive
  ok w l l' h := by
    split_ifs at h
    · cases h
    · exact listingCheck_ok hlog w l l' h
  error w l e l' h := by
    split_ifs at h
    · exact .inl (Prod.mk.inj h).2.symm
    · exact listingCheck_error hlog w l e l' h

def endpointValidator (bad : Prop) [Decidable bad] (cached : Cached) (kind : EndpointKind)
    (role : EndpointRole) : Validator :=
  listingValidator (bad ∨ ¬ sameRuntime cached.identity.runtime cached.runtime)
    (fun w t => w.listEndpoints t cached.runtime) (.listEndpoints cached.runtime) (fun _ => trivial)
    EndpointInfo.registrationId (sameEndpoint cached kind role) cached.identity.registrationId

def topicValidator (record : Record TopicInfo) : Validator :=
  endpointValidator (record.model.role ≠ "PUBLISHER" ∧ record.model.role ≠ "SUBSCRIBER")
    (topicCached record) .topic (topicRole record.model.role)

def parameterValidator (record : Record ParameterInfo) : Validator :=
  endpointValidator (record.model.role ≠ "OWNER" ∧ record.model.role ≠ "CLIENT")
    (parameterCached record) .parameter (parameterRole record.model.role)

def serviceValidator (record : Record ServiceInfo) : Validator :=
  listingValidator (¬ sameRuntime record.model.identity.runtime record.runtime)
    (fun w t => w.listServices t record.runtime) (.listServices record.runtime) (fun _ => trivial)
    ListedService.registrationId (sameService record.model) record.model.identity.registrationId

lemma endpointValidator_check (bad : Prop) [Decidable bad] (cached : Cached) (kind : EndpointKind)
    (role : EndpointRole) : (endpointValidator bad cached kind role).check =
      if bad then fail estale else validateEndpoint cached kind role := by
  by_cases hb : bad <;> by_cases hs : sameRuntime cached.identity.runtime cached.runtime = true <;>
    simp [endpointValidator, listingValidator, validateEndpoint, hb, hs]

lemma topicValidator_check (record : Record TopicInfo) :
    (topicValidator record).check = validateTopic record :=
  endpointValidator_check _ _ _ _

lemma parameterValidator_check (record : Record ParameterInfo) :
    (parameterValidator record).check = validateParameter record :=
  endpointValidator_check _ _ _ _

lemma serviceValidator_check (record : Record ServiceInfo) :
    (serviceValidator record).check = validateService record := rfl

section Sandwich

variable (w : World) (v : Validator) (live : ℕ → Prop) (middle commit : Action → Prop)

/-- The checks of an operation are calls `i` and `j`; both confirm the registration, which is live all
the time in between. What needs it happens in between, and the effect happens later. -/
def Sandwiched (log : List Action) : Prop :=
  ∃ i j, i < j ∧ j < log.length ∧ v.confirmed w (w.moment i) ∧ v.confirmed w (w.moment j) ∧
    (∀ t, w.moment i ≤ t → t ≤ w.moment j → live t) ∧
    (∀ k a, log[k]? = some a → IsCheck a → k = i ∨ k = j) ∧
    (∀ k a, log[k]? = some a → middle a → i < k ∧ k < j) ∧
    ∀ k a, log[k]? = some a → commit a → j < k

structure Guarded {α : Type} (r : Outcome α) (log : List Action) : Prop where
  sandwiched : (∃ x, r = .ok x) ∨ (∃ a ∈ log, commit a) → Sandwiched w v live middle commit log
  stale : ∀ k a, log[k]? = some a → IsCheck a → v.refuted w (w.moment k) → r = .error estale

variable {w v live middle commit}

lemma entry_cases {l m : List Action} {a x : Action} {k : ℕ} (h : (l ++ a :: m)[k]? = some x) :
    (k < l.length ∧ x ∈ l) ∨ (k = l.length ∧ x = a) ∨ ∃ i, k = l.length + 1 + i ∧ m[i]? = some x := by
  rw [List.getElem?_append] at h
  split_ifs at h with hk
  · exact .inl ⟨hk, List.mem_of_getElem? h⟩
  obtain ⟨i, rfl⟩ := Nat.exists_eq_add_of_le (Nat.le_of_not_lt hk)
  rw [Nat.add_sub_cancel_left] at h
  cases i with
  | zero => exact .inr (.inl ⟨rfl, (Option.some.inj h).symm⟩)
  | succ i => exact .inr (.inr ⟨i, by omega, h⟩)

variable {α β γ : Type} {before : Op α} {between : α → Op β} {finish : α → β → Op γ}
  (hlive : ∀ t t', v.confirmed w t → v.confirmed w t' → ∀ s, t ≤ s → s ≤ t' → live s)
  (hcheck : ∀ a, IsCheck a → ¬ middle a ∧ ¬ commit a)
  (hbefore : Emits (fun a => ¬ IsCheck a ∧ ¬ middle a ∧ ¬ commit a) before)
  (hbetween : ∀ a, Emits (fun a => ¬ IsCheck a ∧ ¬ commit a) (between a))
  (hfinish : ∀ a b, Emits (fun a => ¬ IsCheck a ∧ ¬ middle a) (finish a b))

include hlive hcheck hbefore hbetween hfinish

omit hlive hcheck hbetween hfinish hbefore in
/-- A run that failed without a commit, with at most one check that did not confirm. -/
lemma guarded_of_error {e : Fault} {log : List Action} (hc : ∀ a ∈ log, ¬ commit a)
    (hs : ∀ k a, log[k]? = some a → IsCheck a → v.refuted w (w.moment k) → e = estale) :
    Guarded w v live middle commit (.error e : Outcome γ) log where
  sandwiched h := by
    rcases h with ⟨_, h⟩ | ⟨a, ha, h⟩
    · cases h
    · exact absurd h (hc a ha)
  stale k a hk ha hr := congrArg Except.error (hs k a hk ha hr)

/-- The checks keep their order whatever the parts around them do, as long as these list nothing. -/
lemma guarded : Guarded w v live middle commit (sandwich before v.check between finish w []).1
    (sandwich before v.check between finish w []).2 := by
  generalize hrun : sandwich before v.check between finish w [] = run
  have hends : Ends before v.check between finish w run := hrun ▸ sandwich_ends w
  cases hends with
  | @before e l h₁ =>
    have hl := hbefore.start h₁
    exact guarded_of_error (fun a ha => (hl a ha).2.2)
      fun k a hk ha _ => absurd ha (hl a (List.mem_of_getElem? hk)).1
  | @first a l e l' h₁ h₂ =>
    have hl := hbefore.start h₁
    rcases v.error _ _ _ _ h₂ with rfl | ⟨c, rfl, hc, he⟩
    · exact guarded_of_error (fun a ha => (hl a ha).2.2)
        fun k a hk ha _ => absurd ha (hl a (List.mem_of_getElem? hk)).1
    · refine guarded_of_error (fun a ha => ?_) fun k a hk ha hr => ?_
      · rcases List.mem_append.mp ha with ha | ha
        · exact (hl a ha).2.2
        · exact List.mem_singleton.mp ha ▸ (hcheck c hc).2
      · rcases entry_cases hk with ⟨-, hm⟩ | ⟨rfl, rfl⟩ | ⟨i, -, hm⟩
        · exact absurd ha (hl a hm).1
        · exact he hr
        · simp at hm
  | @between a l l' e m' h₁ h₂ h₃ =>
    have hl := hbefore.start h₁
    obtain ⟨c, rfl, hc, hok⟩ := v.ok _ _ _ h₂
    obtain ⟨m, rfl, hm⟩ := (hbetween _).run h₃
    simp only [List.append_assoc, List.singleton_append]
    refine guarded_of_error (fun a ha => ?_) fun k a hk ha hr => ?_
    · rcases List.mem_append.mp ha with ha | ha
      · exact (hl a ha).2.2
      · rcases List.mem_cons.mp ha with rfl | ha
        · exact (hcheck a hc).2
        · exact (hm a ha).2
    · rcases entry_cases hk with ⟨-, hx⟩ | ⟨rfl, rfl⟩ | ⟨i, -, hx⟩
      · exact absurd ha (hl a hx).1
      · exact absurd hr (v.exclusive _ _ hok)
      · exact absurd ha (hm a (List.mem_of_getElem? hx)).1
  | @second a b l l' m' e log h₁ h₂ h₃ h₄ =>
    have hl := hbefore.start h₁
    obtain ⟨c, rfl, hc, hok⟩ := v.ok _ _ _ h₂
    obtain ⟨m, rfl, hm⟩ := (hbetween _).run h₃
    simp only [List.append_assoc, List.singleton_append] at h₄
    have hcalm : ∀ a ∈ l ++ c :: m, ¬ commit a := by
      intro a ha
      rcases List.mem_append.mp ha with ha | ha
      · exact (hl a ha).2.2
      · rcases List.mem_cons.mp ha with rfl | ha
        · exact (hcheck a hc).2
        · exact (hm a ha).2
    have hfirst : ∀ k a, (l ++ c :: m)[k]? = some a → IsCheck a → ¬ v.refuted w (w.moment k) := by
      intro k a hk ha
      rcases entry_cases hk with ⟨-, hx⟩ | ⟨rfl, rfl⟩ | ⟨i, -, hx⟩
      · exact absurd ha (hl a hx).1
      · exact v.exclusive _ _ hok
      · exact absurd ha (hm a (List.mem_of_getElem? hx)).1
    rcases v.error _ _ _ _ h₄ with rfl | ⟨d, rfl, hd, he⟩
    · exact guarded_of_error hcalm fun k a hk ha hr => absurd hr (hfirst k a hk ha)
    · refine guarded_of_error (fun a ha => ?_) fun k a hk ha hr => ?_
      · rcases List.mem_append.mp ha with ha | ha
        · exact hcalm a ha
        · exact List.mem_singleton.mp ha ▸ (hcheck d hd).2
      · rcases entry_cases hk with ⟨hlt, -⟩ | ⟨rfl, rfl⟩ | ⟨i, -, hx⟩
        · rw [List.getElem?_append_left hlt] at hk
          exact absurd hr (hfirst k a hk ha)
        · exact he hr
        · simp at hx
  | @commit a b l l' m' log h₁ h₂ h₃ h₄ =>
    have hl := hbefore.start h₁
    obtain ⟨c, rfl, hc, hok⟩ := v.ok _ _ _ h₂
    obtain ⟨m, rfl, hm⟩ := (hbetween _).run h₃
    obtain ⟨d, rfl, hd, hok'⟩ := v.ok _ _ _ h₄
    obtain ⟨n, hlog, hn⟩ := (hfinish _ _).run (Prod.mk.eta (p := finish _ _ w _)).symm
    rw [hlog]
    simp only [List.append_assoc, List.cons_append, List.nil_append] at hok' ⊢
    have hlen : (l ++ c :: m).length = l.length + 1 + m.length := by
      simp only [List.length_append, List.length_cons]
      omega
    rw [hlen] at hok'
    -- Every entry lies before, at, between or after the two checks.
    have hentry : ∀ k a, (l ++ c :: (m ++ d :: n))[k]? = some a →
        (k < l.length ∧ a ∈ l) ∨ (k = l.length ∧ a = c) ∨
          (l.length < k ∧ k < l.length + 1 + m.length ∧ a ∈ m) ∨
          (k = l.length + 1 + m.length ∧ a = d) ∨ (l.length + 1 + m.length < k ∧ a ∈ n) := by
      intro k a hk
      rcases entry_cases hk with h | h | ⟨i, rfl, hi⟩
      · exact .inl h
      · exact .inr (.inl h)
      · rcases entry_cases hi with ⟨hlt, h⟩ | ⟨rfl, h⟩ | ⟨j, rfl, hj⟩
        · exact .inr (.inr (.inl ⟨by omega, by omega, h⟩))
        · exact .inr (.inr (.inr (.inl ⟨rfl, h⟩)))
        · exact .inr (.inr (.inr (.inr ⟨by omega, List.mem_of_getElem? hj⟩)))
    refine ⟨fun _ => ⟨l.length, l.length + 1 + m.length, by omega, ?_, hok, hok',
      hlive _ _ hok hok', ?_, ?_, ?_⟩, ?_⟩
    · simp only [List.length_append, List.length_cons]
      omega
    · intro k a hk ha
      rcases hentry k a hk with ⟨-, h⟩ | ⟨rfl, -⟩ | ⟨-, -, h⟩ | ⟨rfl, -⟩ | ⟨-, h⟩
      · exact absurd ha (hl a h).1
      · exact .inl rfl
      · exact absurd ha (hm a h).1
      · exact .inr rfl
      · exact absurd ha (hn a h).1
    · intro k a hk ha
      rcases hentry k a hk with ⟨-, h⟩ | ⟨-, rfl⟩ | ⟨h₅, h₆, -⟩ | ⟨-, rfl⟩ | ⟨-, h⟩
      · exact absurd ha (hl a h).2.1
      · exact absurd ha (hcheck a hc).1
      · exact ⟨h₅, h₆⟩
      · exact absurd ha (hcheck a hd).1
      · exact absurd ha (hn a h).2
    · intro k a hk ha
      rcases hentry k a hk with ⟨-, h⟩ | ⟨-, rfl⟩ | ⟨-, -, h⟩ | ⟨-, rfl⟩ | ⟨h, -⟩
      · exact absurd ha (hl a h).2.2
      · exact absurd ha (hcheck a hc).2
      · exact absurd ha (hm a h).2
      · exact absurd ha (hcheck a hd).2
      · exact h
    · intro k a hk ha hr
      rcases hentry k a hk with ⟨-, h⟩ | ⟨rfl, -⟩ | ⟨-, -, h⟩ | ⟨rfl, -⟩ | ⟨-, h⟩
      · exact absurd ha (hl a h).1
      · exact absurd hr (v.exclusive _ _ hok)
      · exact absurd ha (hm a h).1
      · exact absurd hr (v.exclusive _ _ hok')
      · exact absurd ha (hn a h).1

/-- The same for the returned code; `changed` is an effect on what the caller sees. -/
structure Protects (w : World) (v : Validator) (live : ℕ → Prop) (middle commit : Action → Prop)
    (code : ℤ) (changed : Prop) (log : List Action) : Prop where
  commits : code = 0 ∨ changed ∨ (∃ a ∈ log, commit a) → Sandwiched w v live middle commit log
  unchanged : code ≠ 0 → ¬ changed
  stale : (∃ k a, log[k]? = some a ∧ IsCheck a ∧ v.refuted w (w.moment k)) → code = -116

omit hlive hcheck hbefore hbetween hfinish in
lemma Guarded.protects {r : Outcome γ} {log : List Action} (h : Guarded w v live middle commit r log)
    {changed : Prop} (hc : changed → ∃ x, r = .ok x) :
    Protects w v live middle commit (withCode r) changed log where
  commits hh := by
    refine h.sandwiched ?_
    rcases hh with hh | hh | hh
    · cases r with
      | ok x => exact .inl ⟨x, rfl⟩
      | error e => exact absurd hh e.guard.property
    · exact .inl (hc hh)
    · exact .inr hh
  unchanged hne hch := by
    obtain ⟨x, rfl⟩ := hc hch
    exact hne rfl
  stale := by
    rintro ⟨k, a, hk, ha, hr⟩
    rw [h.stale k a hk ha hr]
    rfl

end Sandwich

/-- What is assumed of the registry: a listing shows live registrations, an id is never reused within a
runtime, and a registration is live over one interval. -/
structure Registrations {E : Type} (registrationId : E → UInt64)
    (listing : ℕ → RuntimeInfo → Outcome (List E)) (live : ℕ → RuntimeInfo → E → Prop) : Prop where
  listed : ∀ t r l e, listing t r = .ok l → e ∈ l → live t r e
  noReuse : ∀ t t' r e e', live t r e → live t' r e' → registrationId e = registrationId e' → e = e'
  contiguous : ∀ r e, { t | live t r e }.OrdConnected

lemma Registrations.between {E : Type} {registrationId : E → UInt64}
    {listing : World → ℕ → RuntimeInfo → Outcome (List E)} {live : ℕ → RuntimeInfo → E → Prop} {w : World}
    (h : Registrations registrationId (listing w) live) {runtime : RuntimeInfo} {same : E → Bool}
    {id : UInt64} {t t' : ℕ} (ht : Listed (fun w t => listing w t runtime) registrationId same id w t)
    (ht' : Listed (fun w t => listing w t runtime) registrationId same id w t') :
    ∀ s, t ≤ s → s ≤ t' → ∃ e, registrationId e = id ∧ same e = true ∧ live s runtime e := by
  obtain ⟨l, e, hl, hf, hs⟩ := ht
  obtain ⟨l', e', hl', hf', -⟩ := ht'
  have hid : registrationId e = id := by simpa using List.find?_some hf
  have hid' : registrationId e' = id := by simpa using List.find?_some hf'
  have he := h.listed t runtime l e hl (List.mem_of_find?_eq_some hf)
  have he' := h.listed t' runtime l' e' hl' (List.mem_of_find?_eq_some hf')
  obtain rfl : e = e' := h.noReuse t t' runtime e e' he he' (hid.trans hid'.symm)
  intro s hts hst
  exact ⟨e, hid, hs, (h.contiguous runtime e).out he he' ⟨hts, hst⟩⟩

def EndpointLive (live : ℕ → RuntimeInfo → EndpointInfo → Prop) (cached : Cached) (kind : EndpointKind)
    (role : EndpointRole) (t : ℕ) : Prop :=
  ∃ e, e.registrationId = cached.identity.registrationId ∧ sameEndpoint cached kind role e = true ∧
    live t cached.runtime e

def ServiceLive (live : ℕ → RuntimeInfo → ListedService → Prop) (record : Record ServiceInfo) (t : ℕ) :
    Prop :=
  ∃ s, s.registrationId = record.model.identity.registrationId ∧ sameService record.model s = true ∧
    live t record.runtime s

section Operations

variable (texts : Texts) {P : Action → Prop}

lemma emits_ask {α : Type} (call : World → ℕ → Outcome α) {action : Action} (h : P action) :
    Emits P (ask call action) :=
  Emits.act fun _ _ => h

lemma emits_lift {α : Type} (r : Except Failure α) : Emits P (lift r) := by
  cases r with
  | ok a => exact Emits.pure a
  | error c => exact Emits.fail _

lemma emits_type (runtime : RuntimeInfo) (id : UInt64) (size : ℕ) (h : P (.getType runtime id)) :
    Emits P (type texts runtime id size) := by
  unfold type
  split_ifs
  · exact Emits.fail _
  · refine Emits.bind (emits_ask _ h) fun d => ?_
    split_ifs
    · exact Emits.pure _
    · exact Emits.fail _

lemma emits_listingCheck {E : Type} {listing : World → ℕ → Outcome (List E)} {log : Outcome (List E) → Action}
    {registrationId : E → UInt64} {same : E → Bool} {id : UInt64} (h : ∀ result, P (log result)) :
    Emits P (listingCheck listing log registrationId same id) := by
  unfold listingCheck
  refine Emits.bind (Emits.act fun _ _ => h _) fun current => ?_
  split
  · split_ifs
    · exact Emits.pure _
    · exact Emits.fail _
  · exact Emits.fail _

lemma emits_validateEndpoint {cached : Cached} {kind : EndpointKind} {role : EndpointRole}
    (h : ∀ result, P (.listEndpoints cached.runtime result)) : Emits P (validateEndpoint cached kind role) := by
  unfold validateEndpoint
  split_ifs
  · exact emits_listingCheck h
  · exact Emits.fail _

lemma prepareTopic_eq {topics : List (Record TopicInfo)} {id : EndpointIdentity}
    {record : Record TopicInfo} (h : find TopicInfo.identity topics id = some record) :
    prepareTopic texts topics id =
      sandwich (if record.model.role ≠ "PUBLISHER" then fail (.code enotsup) else pure ())
        (topicValidator record).check
        (fun _ => ask (fun w t => w.pidfdOpen t id.runtime.pid) (.pidfdOpen id.runtime.pid) >>= fun _ =>
          topicType texts record >>= fun d => openTopic record.model.name d >>= fun _ => pure d)
        fun _ d => pure ⟨id, d⟩ := by
  unfold prepareTopic sandwich
  simp only [h, topicValidator_check]
  split_ifs
  · rfl
  · simp only [pure_bind, bind_assoc]

lemma readLatest_eq {topics : List (Record TopicInfo)} {id : EndpointIdentity}
    {record : Record TopicInfo} (h : find TopicInfo.identity topics id = some record) :
    readLatest texts topics id =
      sandwich (pure ()) (topicValidator record).check
        (fun _ => topicType texts record >>= fun d => openTopic record.model.name d >>= fun _ => pure d)
        fun _ d => ask (fun w t => w.readLatest t) .readLatest >>= fun bytes =>
          lift (decode texts d bytes) := by
  unfold readLatest sandwich
  simp only [h, topicValidator_check, pure_bind, bind_assoc]

lemma getValue_eq {parameters : List (Record ParameterInfo)} {id : EndpointIdentity}
    {record : Record ParameterInfo} (h : find ParameterInfo.identity parameters id = some record) :
    getValue texts parameters id =
      sandwich (pure ()) (parameterValidator record).check
        (fun _ => parameterType texts record >>= fun d =>
          openParameter record.model.name d >>= fun _ => pure d)
        fun _ d => ask (fun w t => w.getParameter t) .getParameter >>= fun bytes =>
          lift (decode texts d bytes) := by
  unfold getValue sandwich
  simp only [h, parameterValidator_check, pure_bind, bind_assoc]

lemma setValue_eq {parameters : List (Record ParameterInfo)} {id : EndpointIdentity}
    {record : Record ParameterInfo} (value : DataSnapshot)
    (h : find ParameterInfo.identity parameters id = some record) :
    setValue texts parameters id value =
      sandwich (if record.model.typeId = 0 then fail (.code enotsup)
          else if ¬ record.model.writable then fail eperm
          else parameterType texts record >>= fun d => lift (encode texts d value none) >>= fun _ => pure d)
        (parameterValidator record).check
        (fun d => openParameter record.model.name d >>= fun _ =>
          ask (fun w t => w.getParameter t) .getParameter >>= fun seed =>
            lift (encode texts d value (some seed)))
        fun _ bytes => ask (fun w t => w.setParameter t bytes) (.setParameter bytes) := by
  unfold setValue sandwich
  simp only [h, parameterValidator_check]
  split_ifs
  · rfl
  · simp only [pure_bind, bind_assoc]
  · rfl

lemma callValue_eq {services : List (Record ServiceInfo)} {id : EndpointIdentity}
    {record : Record ServiceInfo} (request : DataSnapshot) (timeout retries : UInt32)
    (h : find ServiceInfo.identity services id = some record) :
    callValue texts services id request timeout retries =
      sandwich
        (type texts record.runtime record.model.requestTypeId record.model.requestSize.toNat >>= fun req =>
          type texts record.runtime record.model.responseTypeId record.model.responseSize.toNat >>= fun res =>
            lift (encode texts req request none) >>= fun bytes => pure (req, res, bytes))
        (serviceValidator record).check
        (fun x => ask (fun w t => w.openService t record.model.port record.model.serviceId x.1 x.2.1 timeout
          retries) (.openService record.model.port record.model.serviceId))
        fun x _ => ask (fun w t => w.callService t x.2.2) (.callService x.2.2) >>= fun response =>
          lift (decode texts x.2.1 response) := by
  unfold callValue sandwich
  simp only [h, serviceValidator_check, pure_bind, bind_assoc]

end Operations

def IsSeed : Action → Prop
  | .getParameter => True
  | a => IsOpen a

def IsRead : Action → Prop
  | .readLatest => True
  | .getParameter => True
  | _ => False

def IsSet : Action → Prop
  | .setParameter _ => True
  | _ => False

def IsCall : Action → Prop
  | .callService _ => True
  | _ => False

lemma isCheck_other {a : Action} (h : IsCheck a) :
    ¬ IsOpen a ∧ ¬ IsSeed a ∧ ¬ IsRead a ∧ ¬ IsSet a ∧ ¬ IsCall a := by
  cases a <;> simp_all [IsCheck, IsOpen, IsSeed, IsRead, IsSet, IsCall]

lemma withOutput_changed {r : Outcome DataSnapshot} {output : DataSnapshot}
    (h : (withOutput r output).2 ≠ output) : ∃ x, r = .ok x := by
  cases r with
  | ok x => exact ⟨x, rfl⟩
  | error e => exact absurd rfl h

lemma withOutput_code (r : Outcome DataSnapshot) (output : DataSnapshot) :
    (withOutput r output).1 = withCode r := by
  cases r <;> rfl

section Guarding

variable (texts : Texts) (w : World) {liveE : ℕ → RuntimeInfo → EndpointInfo → Prop}
  {liveS : ℕ → RuntimeInfo → ListedService → Prop}

lemma startTopicEcho_protected (hE : Registrations EndpointInfo.registrationId w.listEndpoints liveE)
    {topics : List (Record TopicInfo)} {id : EndpointIdentity} {record : Record TopicInfo}
    (h : find TopicInfo.identity topics id = some record) :
    Protects w (topicValidator record)
      (EndpointLive liveE (topicCached record) .topic (topicRole record.model.role)) IsOpen
      (fun _ => False) (startTopicEcho texts w topics id).1
      ((startTopicEcho texts w topics id).2 ≠ none) (prepareTopic texts topics id w []).2 := by
  refine Guarded.protects ?_ fun hc => ?_
  · rw [prepareTopic_eq texts h]
    refine guarded (fun t t' ht ht' => hE.between ht ht')
      (fun a ha => ⟨(isCheck_other ha).1, not_false⟩) ?_ ?_ ?_
    · split_ifs
      · exact Emits.fail _
      · exact Emits.pure _
    · intro _
      exact Emits.bind (emits_ask _ ⟨not_false, not_false⟩) fun _ =>
        Emits.bind (emits_type _ _ _ _ ⟨not_false, not_false⟩) fun d =>
          Emits.bind (emits_ask _ ⟨not_false, not_false⟩) fun _ => Emits.pure _
    · exact fun _ _ => Emits.pure _
  · unfold startTopicEcho at hc
    cases hr : (prepareTopic texts topics id w []).1 with
    | ok x => exact ⟨x, rfl⟩
    | error e =>
      rw [hr] at hc
      exact absurd rfl hc

lemma readTopicLatest_protected (hE : Registrations EndpointInfo.registrationId w.listEndpoints liveE)
    {topics : List (Record TopicInfo)} {id : EndpointIdentity} {record : Record TopicInfo}
    (h : find TopicInfo.identity topics id = some record) (output : DataSnapshot) :
    Protects w (topicValidator record)
      (EndpointLive liveE (topicCached record) .topic (topicRole record.model.role)) IsOpen IsRead
      (readTopicLatest texts w topics id output).1
      ((readTopicLatest texts w topics id output).2 ≠ output) (readLatest texts topics id w []).2 := by
  rw [readTopicLatest, withOutput_code]
  refine Guarded.protects ?_ withOutput_changed
  rw [readLatest_eq texts h]
  refine guarded (fun t t' ht ht' => hE.between ht ht')
    (fun a ha => ⟨(isCheck_other ha).1, (isCheck_other ha).2.2.1⟩) (Emits.pure _) (fun _ => ?_)
    fun _ d => ?_
  · exact Emits.bind (emits_type _ _ _ _ ⟨not_false, not_false⟩) fun d =>
      Emits.bind (emits_ask _ ⟨not_false, not_false⟩) fun _ => Emits.pure _
  · exact Emits.bind (emits_ask _ ⟨not_false, not_false⟩) fun bytes => emits_lift _

lemma getParameter_protected (hE : Registrations EndpointInfo.registrationId w.listEndpoints liveE)
    {parameters : List (Record ParameterInfo)} {id : EndpointIdentity} {record : Record ParameterInfo}
    (h : find ParameterInfo.identity parameters id = some record) (output : DataSnapshot) :
    Protects w (parameterValidator record)
      (EndpointLive liveE (parameterCached record) .parameter (parameterRole record.model.role)) IsOpen
      IsRead (getParameter texts w parameters id output).1
      ((getParameter texts w parameters id output).2 ≠ output) (getValue texts parameters id w []).2 := by
  rw [getParameter, withOutput_code]
  refine Guarded.protects ?_ withOutput_changed
  rw [getValue_eq texts h]
  refine guarded (fun t t' ht ht' => hE.between ht ht')
    (fun a ha => ⟨(isCheck_other ha).1, (isCheck_other ha).2.2.1⟩) (Emits.pure _) (fun _ => ?_)
    fun _ d => ?_
  · exact Emits.bind (emits_type _ _ _ _ ⟨not_false, not_false⟩) fun d =>
      Emits.bind (emits_ask _ ⟨not_false, not_false⟩) fun _ => Emits.pure _
  · exact Emits.bind (emits_ask _ ⟨not_false, not_false⟩) fun bytes => emits_lift _

lemma setParameter_protected (hE : Registrations EndpointInfo.registrationId w.listEndpoints liveE)
    {parameters : List (Record ParameterInfo)} {id : EndpointIdentity} {record : Record ParameterInfo}
    (h : find ParameterInfo.identity parameters id = some record) (value : DataSnapshot) :
    Protects w (parameterValidator record)
      (EndpointLive liveE (parameterCached record) .parameter (parameterRole record.model.role)) IsSeed
      IsSet (setParameter texts w parameters id value) False
      (setValue texts parameters id value w []).2 := by
  refine Guarded.protects ?_ False.elim
  rw [setValue_eq texts value h]
  refine guarded (fun t t' ht ht' => hE.between ht ht')
    (fun a ha => ⟨(isCheck_other ha).2.1, (isCheck_other ha).2.2.2.1⟩) ?_ (fun d => ?_) fun _ bytes => ?_
  · split_ifs
    · exact Emits.fail _
    · exact Emits.bind (emits_type _ _ _ _ ⟨not_false, not_false, not_false⟩) fun d =>
        Emits.bind (emits_lift _) fun _ => Emits.pure _
    · exact Emits.fail _
  · exact Emits.bind (emits_ask _ ⟨not_false, not_false⟩) fun _ =>
      Emits.bind (emits_ask _ ⟨not_false, not_false⟩) fun seed => emits_lift _
  · exact emits_ask _ ⟨not_false, not_false⟩

lemma callService_protected (hS : Registrations ListedService.registrationId w.listServices liveS)
    {services : List (Record ServiceInfo)} {id : EndpointIdentity} {record : Record ServiceInfo}
    (h : find ServiceInfo.identity services id = some record) (request output : DataSnapshot)
    (timeout retries : UInt32) :
    Protects w (serviceValidator record) (ServiceLive liveS record) IsOpen IsCall
      (callService texts w services id request output timeout retries).1
      ((callService texts w services id request output timeout retries).2 ≠ output)
      (callValue texts services id request timeout retries w []).2 := by
  rw [callService, withOutput_code]
  refine Guarded.protects ?_ withOutput_changed
  rw [callValue_eq texts request timeout retries h]
  refine guarded (fun t t' ht ht' => hS.between ht ht')
    (fun a ha => ⟨(isCheck_other ha).1, (isCheck_other ha).2.2.2.2⟩) ?_ (fun x => ?_) fun x _ => ?_
  · exact Emits.bind (emits_type _ _ _ _ ⟨not_false, not_false, not_false⟩) fun req =>
      Emits.bind (emits_type _ _ _ _ ⟨not_false, not_false, not_false⟩) fun res =>
        Emits.bind (emits_lift _) fun bytes => Emits.pure _
  · exact emits_ask _ ⟨not_false, not_false⟩
  · exact Emits.bind (emits_ask _ ⟨not_false, not_false⟩) fun response => emits_lift _

/-- Every operation on a cached endpoint commits between two confirmations of its registration, fails
without an effect otherwise, and fails as stale when a check refutes the registration. -/
theorem registration_sandwich (hE : Registrations EndpointInfo.registrationId w.listEndpoints liveE)
    (hS : Registrations ListedService.registrationId w.listServices liveS)
    (topics : List (Record TopicInfo)) (parameters : List (Record ParameterInfo))
    (services : List (Record ServiceInfo)) (id : EndpointIdentity) (value output : DataSnapshot)
    (timeout retries : UInt32) :
    (∀ record, find TopicInfo.identity topics id = some record →
      Protects w (topicValidator record)
        (EndpointLive liveE (topicCached record) .topic (topicRole record.model.role)) IsOpen
        (fun _ => False) (startTopicEcho texts w topics id).1
        ((startTopicEcho texts w topics id).2 ≠ none) (prepareTopic texts topics id w []).2 ∧
      Protects w (topicValidator record)
        (EndpointLive liveE (topicCached record) .topic (topicRole record.model.role)) IsOpen IsRead
        (readTopicLatest texts w topics id output).1
        ((readTopicLatest texts w topics id output).2 ≠ output) (readLatest texts topics id w []).2) ∧
    (∀ record, find ParameterInfo.identity parameters id = some record →
      Protects w (parameterValidator record)
        (EndpointLive liveE (parameterCached record) .parameter (parameterRole record.model.role)) IsOpen
        IsRead (getParameter texts w parameters id output).1
        ((getParameter texts w parameters id output).2 ≠ output) (getValue texts parameters id w []).2 ∧
      Protects w (parameterValidator record)
        (EndpointLive liveE (parameterCached record) .parameter (parameterRole record.model.role)) IsSeed
        IsSet (setParameter texts w parameters id value) False
        (setValue texts parameters id value w []).2) ∧
    ∀ record, find ServiceInfo.identity services id = some record →
      Protects w (serviceValidator record) (ServiceLive liveS record) IsOpen IsCall
        (callService texts w services id value output timeout retries).1
        ((callService texts w services id value output timeout retries).2 ≠ output)
        (callValue texts services id value timeout retries w []).2 :=
  ⟨fun _ h => ⟨startTopicEcho_protected texts w hE h, readTopicLatest_protected texts w hE h output⟩,
    fun _ h => ⟨getParameter_protected texts w hE h output, setParameter_protected texts w hE h value⟩,
    fun _ h => callService_protected texts w hS h value output timeout retries⟩

end Guarding

def flagType : TypeDescriptor where
  typeName := "flag"
  typeId := 1
  payloadSize := 1
  fields := [⟨"on", 0, 1, 1, .bool⟩]

def flagTexts : Texts where
  validateTypeDescriptor d := d = flagType
  printFloat _ _ := ""
  readFloat _ _ := none

def flagOwner : Record ParameterInfo where
  model := { name := "/flag", identity := ⟨⟨7, 9⟩, 3⟩, role := "OWNER", typeId := 1, payloadSize := 1,
             writable := true }
  runtime := { pid := 7, processStartTicks := 9 }

def flagEndpoint : EndpointInfo where
  registrationId := 3
  kind := .parameter
  role := .parameterOwner
  name := "/flag"
  typeId := 1
  payloadSize := 1

def flagValue : DataSnapshot where
  typeName := "flag"
  typeId := 1
  fields := [{ name := "on", typeName := "bool", value := "true", kind := .boolean }]

/-- One parameter that stays registered. -/
def flagWorld : World where
  moment n := 2 * n
  increasing _ _ h := by simpa using h
  listEndpoints _ _ := .ok [flagEndpoint]
  listServices _ _ := .ok []
  getType _ _ _ := .ok flagType
  pidfdOpen _ _ := .ok ()
  openTopic _ _ _ := .ok ()
  openParameter _ _ _ := .ok ()
  openService _ _ _ _ _ _ _ := .ok ()
  readLatest _ := .ok { typeId := 1, bytes := [0] }
  getParameter _ := .ok { typeId := 1, bytes := [0] }
  setParameter _ _ := .ok ()
  callService _ _ := .ok { typeId := 1, bytes := [0] }

lemma flagWorld_endpoints :
    Registrations EndpointInfo.registrationId flagWorld.listEndpoints fun _ _ e => e = flagEndpoint where
  listed _ _ l e hl he := by
    obtain rfl : [flagEndpoint] = l := Except.ok.inj hl
    exact List.mem_singleton.mp he
  noReuse _ _ _ _ _ he he' _ := he.trans he'.symm
  contiguous _ _ := ⟨fun _ h _ _ _ _ => h⟩

lemma flagWorld_services :
    Registrations ListedService.registrationId flagWorld.listServices fun _ _ _ => False where
  listed _ _ l e hl he := by
    obtain rfl : [] = l := Except.ok.inj hl
    cases he
  noReuse _ _ _ _ _ h := h.elim
  contiguous _ _ := ⟨fun _ h => h.elim⟩

theorem registration_sandwich_flag :
    setParameter flagTexts flagWorld [flagOwner] flagOwner.model.identity flagValue = 0 ∧
      Protects flagWorld (parameterValidator flagOwner)
        (EndpointLive (fun _ _ e => e = flagEndpoint) (parameterCached flagOwner) .parameter
          (parameterRole flagOwner.model.role)) IsSeed IsSet
        (setParameter flagTexts flagWorld [flagOwner] flagOwner.model.identity flagValue) False
        (setValue flagTexts [flagOwner] flagOwner.model.identity flagValue flagWorld []).2 :=
  ⟨by decide +kernel, ((registration_sandwich flagTexts flagWorld flagWorld_endpoints flagWorld_services []
    [flagOwner] [] flagOwner.model.identity flagValue {} 0 0).2.1 flagOwner (by decide +kernel)).2⟩

end KcfTools.KcfBackend
