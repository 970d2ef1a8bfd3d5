import KcfTools.Backend.Observers
import KcfTools.Backend.RuntimeTables

/-! The executors of all networks: a handle is given out once in the life of the process, and the actions in
their tables are those of the goals that they have executed. -/

namespace KcfTools.KcfNetwork

open ControlGate (Observer)
open Histories (getElem?_earlier getElem?_snoc)
open RemoteExecutor (Job Notice)
open Std

section Ran

variable {texts : ValueCodec.Texts} {b b' : KcfNetwork} {i : ℕ} {o o' : Observer}

/-- The executor with the handles of the process. -/
def counting (n : ℕ) (e : RemoteExecutor) : RemoteExecutor :=
  { e with runtime := { e.runtime with nextHandle := n } }

/-- What a turn of the threads does to the executors. -/
inductive Ran (texts : ValueCodec.Texts) (b b' : KcfNetwork) : Prop
  | same (h : b'.executor = b.executor) (hn : b'.nextHandle = b.nextHandle)
  | launched {i error} (hi : b.executor i = none)
      (h : b'.executor = Function.update b.executor i (some (RemoteExecutor.start error)))
      (hn : b'.nextHandle = b.nextHandle)
  | stopped {i e} (hi : b.executor i = some e)
      (h : b'.executor = Function.update b.executor i (some (RemoteExecutor.stop e)))
      (hn : b'.nextHandle = b.nextHandle)
  | worked {i e f} (hi : b.executor i = some e)
      (h : b'.executor =
        Function.update b.executor i (some (RemoteExecutor.work texts (counting b.nextHandle e) f)))
      (hn : b'.nextHandle = (RemoteExecutor.work texts (counting b.nextHandle e) f).runtime.nextHandle)

lemma executor_eq (ho : b.observers[i]? = some o) : b.executor i = o.executor := by
  unfold KcfNetwork.executor
  rw [ho]
  rfl

lemma executor_set (ho : b.observers[i]? = some o) (n : ℕ) :
    ({ b with observers := b.observers.set i o', nextHandle := n } : KcfNetwork).executor =
      Function.update b.executor i o'.executor := by
  have hi := (List.getElem?_eq_some_iff.mp ho).1
  funext j
  unfold KcfNetwork.executor
  simp only [List.getElem?_set, Function.update_apply]
  by_cases hj : j = i
  · subst hj
    simp [hi]
  · simp [hj, Ne.symm hj]

lemma executor_same (ho : b.observers[i]? = some o) (he : o'.executor = o.executor) (n : ℕ) :
    ({ b with observers := b.observers.set i o', nextHandle := n } : KcfNetwork).executor = b.executor := by
  rw [executor_set ho, he, ← executor_eq ho, Function.update_eq_self]

lemma launch_executor (l : ControlGate.Launch) : (ControlGate.launch o l).executor = o.executor ∨
    ∃ error, (ControlGate.launch o l).executor = some (RemoteExecutor.start error) := by
  unfold ControlGate.launch
  by_cases hg : ¬ l.generated
  · rw [if_pos hg]
    exact .inl rfl
  rw [if_neg hg]
  cases ControlGate.hostIdError o.hostId with
  | some status => exact .inl rfl
  | none =>
    by_cases hd : l.discovery ≠ 0
    · simp only [if_pos hd]
      exact .inl rfl
    · simp only [if_neg hd]
      exact .inr ⟨_, rfl⟩

lemma ran_turn (hc : ∀ (i : ℕ) o, b.observers[i]? = some o → Calm o) (leaving : Option ℕ) (i : ℕ)
    (t : ControlGate.Event) : Ran texts b (b.turn texts leaving i t) := by
  unfold turn
  split
  · exact .same rfl rfl
  rename_i o ho
  split_ifs
  swap
  · exact .same rfl rfl
  have hsame : ∀ o' : Observer, o'.executor = o.executor →
      Ran texts b { b with observers := b.observers.set i o' } := fun o' he =>
    .same (executor_same ho he b.nextHandle) rfl
  cases t with
  | launch l =>
    simp only [ControlGate.step]
    split
    · rename_i hp
      rcases @launch_executor o l with he | ⟨error, he⟩
      · exact hsame _ he
      · refine @Ran.launched texts b _ i error ((executor_eq ho).trans ((hc i o ho).starting hp)) ?_ rfl
        rw [executor_set ho b.nextHandle, he]
    · exact hsame o rfl
  | round tick =>
    refine hsame _ ?_
    simp only [ControlGate.step]
    split
    · unfold ControlGate.round
      simp only
      split <;> rfl
    · rfl
  | leave =>
    refine hsame _ ?_
    simp only [ControlGate.step]
    split <;> rfl
  | release =>
    refine hsame _ ?_
    simp only [ControlGate.step, ControlGate.release]
    split_ifs
    · rfl
    · split <;> rfl
  | submit c => simp_all [Allowed]
  | stop =>
    cases he : o.executor with
    | none => exact hsame _ (by simp [ControlGate.step, he])
    | some e =>
      refine .stopped ((executor_eq ho).trans he) ?_ rfl
      rw [executor_set ho b.nextHandle]
      simp [ControlGate.step, he]
  | work f =>
    cases he : o.executor with
    | none =>
      refine .same (executor_same ho ?_ _) ?_ <;> simp [ControlGate.step, lend, he]
    | some e =>
      refine .worked ((executor_eq ho).trans he) (f := f) ?_ ?_
      · rw [executor_set ho]
        simp [ControlGate.step, lend, he, counting]
      · simp [ControlGate.step, lend, he, counting]

/-- What `SubmitRemote` does to the executors. -/
lemma submitRemote_executor (c : RemoteCommand) :
    (∃ error, b.submitRemote c = (.ready (remoteUnavailable error), b)) ∨
    ∃ i e, b.executor i = some e ∧ (b.submitRemote c).1 = .call i e.tickets ∧
      (b.submitRemote c).2.executor = Function.update b.executor i (some (RemoteExecutor.submit e c)) ∧
      (b.submitRemote c).2.nextHandle = b.nextHandle := by
  unfold submitRemote
  cases hconn : connected b with
  | none => exact .inl ⟨_, rfl⟩
  | some x =>
    obtain ⟨i, o⟩ := x
    have ho := (connected_some hconn).2
    simp only
    unfold ControlGate.submit
    split_ifs
    · exact .inl ⟨_, rfl⟩
    cases hl : ControlGate.lock o with
    | none => exact .inl ⟨_, rfl⟩
    | some e =>
      have he := ControlGate.lock_eq hl
      refine .inr ⟨i, e, (executor_eq ho).trans he, ?_, ?_, rfl⟩
      · rw [he]
        rfl
      · exact @executor_set b i o { o with executor := some (RemoteExecutor.submit e c) } ho b.nextHandle

lemma startNetwork_executor (options : NetworkOptions) (made : Bool) :
    (startNetwork b options made).2.executor = b.executor ∧
      (startNetwork b options made).2.nextHandle = b.nextHandle := by
  unfold startNetwork
  split_ifs
  · exact ⟨rfl, rfl⟩
  · refine ⟨?_, rfl⟩
    funext j
    unfold KcfNetwork.executor
    simp only [List.getElem?_append]
    split_ifs with hj
    · rfl
    · rw [List.getElem?_eq_none (Nat.le_of_not_lt hj)]
      cases hn : ([{ hostId := options.hostId }] : List Observer)[j - b.observers.length]? with
      | none => rfl
      | some o =>
        obtain rfl := List.mem_singleton.mp (List.mem_of_getElem? hn)
        rfl
  · exact ⟨rfl, rfl⟩

lemma advance_executor (c : Configuration) (made : Bool) :
    (b.advance c made).2.executor = b.executor ∧ (b.advance c made).2.nextHandle = b.nextHandle := by
  unfold KcfNetwork.advance
  split
  · exact ⟨rfl, rfl⟩
  · split_ifs <;> exact ⟨rfl, rfl⟩
  · exact ⟨rfl, rfl⟩
  · exact startNetwork_executor c.options made
  · exact ⟨rfl, rfl⟩

end Ran

section Accounts

variable {texts : ValueCodec.Texts} {b b' : KcfNetwork}

/-- A goal for the endpoint was executed, and its reply gave out the handle. -/
def Began (log : List Notice) (handle : ℕ) (endpoint : RemoteEndpoint) : Prop :=
  handle ≠ 0 ∧ ∃ job r, .finished job (some r) ∈ log ∧ job.command.operation = .goal ∧
    job.command.endpoint = endpoint ∧ r.handle = handle

lemma Began.append {log : List Notice} {handle : ℕ} {endpoint : RemoteEndpoint}
    (h : Began log handle endpoint) (new : List Notice) : Began (log ++ new) handle endpoint := by
  obtain ⟨h0, job, r, hm, hr⟩ := h
  exact ⟨h0, job, r, List.mem_append_left new hm, hr⟩

/-- What the log of one executor says about its tables. -/
structure Accounts (e : RemoteExecutor) (n : ℕ) : Prop where
  issued : RemoteRuntime.Issued { e.runtime with nextHandle := n }
  given : ∀ job r, .finished job (some r) ∈ e.log → r.handle ≤ n
  actions : ∀ (k : ℕ) a, e.runtime.actions[k]? = some a → Began e.log k a.endpoint
  polls : ∀ job r, .finished job (some r) ∈ e.log → job.command.operation = .poll →
    ∀ v ∈ r.activities, v.topic = false → Began e.log v.handle v.endpoint

lemma accounts_start (error : ℤ) (n : ℕ) : Accounts (RemoteExecutor.start error) n where
  issued := ⟨fun k hk => absurd hk ExtTreeMap.not_mem_empty, fun k hk => absurd hk ExtTreeMap.not_mem_empty⟩
  given _ _ h := by cases h
  actions k a h := by simp [RemoteExecutor.start] at h
  polls _ _ h := by cases h

lemma Accounts.raise {e : RemoteExecutor} {n n' : ℕ} (h : Accounts e n) (hn : n ≤ n') : Accounts e n' where
  issued := ⟨fun k hk => (h.issued.actions k hk).trans hn, fun k hk => (h.issued.subscriptions k hk).trans hn⟩
  given job r hm := (h.given job r hm).trans hn
  actions := h.actions
  polls := h.polls

/-- Notices of other kinds do not matter. -/
lemma Accounts.more {e e' : RemoteExecutor} {n : ℕ} (h : Accounts e n) {new : List Notice}
    (hl : e'.log = e.log ++ new) (hn : ∀ job r, .finished job (some r) ∉ new)
    (hr : e'.runtime.actions = e.runtime.actions)
    (hs : e'.runtime.subscriptions = e.runtime.subscriptions) : Accounts e' n where
  issued := ⟨fun k hk => h.issued.actions k (hr ▸ hk), fun k hk => h.issued.subscriptions k (hs ▸ hk)⟩
  given job r hm := by
    rw [hl] at hm
    exact h.given job r ((List.mem_append.mp hm).resolve_right (hn job r))
  actions k a ha := by
    rw [hr] at ha
    rw [hl]
    exact (h.actions k a ha).append new
  polls job r hm ho v hv ht := by
    rw [hl] at hm ⊢
    exact (h.polls job r ((List.mem_append.mp hm).resolve_right (hn job r)) ho v hv ht).append new

section Execute

open RemoteRuntime

variable {c : RemoteCommand} {f : Framework} {rt : Runtime}

/-- The handle that a reply carries is new. -/
lemma execute_handle : ∀ r ∈ (execute texts c f rt).1, r.handle = 0 ∨
    r.handle = rt.nextHandle + 1 ∧ (execute texts c f rt).2.nextHandle = rt.nextHandle + 1 := by
  have he := @execute_effect texts c f rt
  generalize execute texts c f rt = out at he
  obtain ⟨reply, rt'⟩ := out
  intro r hr
  cases he with
  | silent _ hh => exact .inl (hh r hr)
  | unsubscribed =>
    obtain rfl := Option.some.inj hr
    exact .inl rfl
  | subscribed =>
    obtain rfl := Option.some.inj hr
    exact .inr ⟨rfl, rfl⟩
  | pruned _ hh => exact .inl (hh r hr)
  | started a _ hh =>
    obtain rfl := Option.some.inj hr
    exact .inr ⟨hh, rfl⟩

lemma execute_actions (hi : Issued rt) {k : ℕ} {a : RunningAction}
    (ha : (execute texts c f rt).2.actions[k]? = some a) : rt.actions[k]? = some a ∨
      k ≠ 0 ∧ c.operation = .goal ∧ a.endpoint = c.endpoint ∧
        ∃ r, (execute texts c f rt).1 = some r ∧ r.handle = k := by
  rcases (actions_step hi k a).mp ha with hs | ⟨ha, -⟩
  · have hnext := hs.next
    obtain ⟨ho, hk, x, r, -, -, -, hendpoint⟩ := hs
    refine .inr ⟨by omega, ho, congrArg RunningAction.endpoint hendpoint, ?_⟩
    have he := @execute_effect texts c f rt
    generalize execute texts c f rt = out at he hnext
    obtain ⟨reply, rt'⟩ := out
    cases he with
    | silent => exact absurd (hnext.symm.trans rfl) (by simp only; omega)
    | unsubscribed hu => cases ho.symm.trans hu
    | subscribed _ hs => cases ho.symm.trans hs
    | pruned => exact absurd (hnext.symm.trans rfl) (by simp only; omega)
    | started _ _ hh => exact ⟨_, rfl, hh.trans hk.symm⟩
  · exact .inl ha

lemma execute_polls (ho : c.operation = .poll) : ∀ r ∈ (execute texts c f rt).1, ∀ v ∈ r.activities,
    v.topic = false → ∃ a, rt.actions[v.handle]? = some a ∧ a.endpoint = v.endpoint := by
  intro r hr v hv ht
  by_cases he : rt.error = 0
  · rw [execute_poll ho he] at hr
    obtain rfl := Option.some.inj hr
    rcases List.mem_append.mp hv with hv | hv
    · obtain ⟨⟨k, a⟩, hm, rfl⟩ := List.mem_map.mp hv
      refine ⟨a, ?_, (actionActivity_endpoint f k a).symm⟩
      rw [(actionActivity_fields k a).1]
      exact ExtTreeMap.mem_toList_iff_getElem?_eq_some.mp hm
    · obtain ⟨⟨k, t⟩, -, rfl⟩ := List.mem_map.mp hv
      rw [topicActivity_topic] at ht
      cases ht
  · rw [execute_failed he] at hr
    obtain rfl := Option.some.inj hr
    cases hv

end Execute

lemma finished_finish {e : RemoteExecutor} {job job' : Job} {f : RemoteRuntime.Framework} {r : RemoteReply}
    (h : .finished job' (some r) ∈ (RemoteExecutor.finish texts e job f).log) :
    .finished job' (some r) ∈ e.log ∨
      job' = job ∧ (RemoteRuntime.execute texts job.command f e.runtime).1 = some r := by
  have hlog : (RemoteExecutor.finish texts e job f).log = e.log ++
      [.finished job (RemoteRuntime.execute texts job.command f e.runtime).1,
        .answered job.ticket ((RemoteRuntime.execute texts job.command f e.runtime).1.getD
          (remoteUnavailable eio))] := rfl
  rw [hlog] at h
  rcases List.mem_append.mp h with h | h
  · exact .inl h
  · rcases List.mem_cons.mp h with h | h
    · obtain ⟨rfl, hr⟩ := Notice.finished.inj h
      exact .inr ⟨rfl, hr.symm⟩
    · cases List.mem_singleton.mp h

lemma Accounts.finish {e : RemoteExecutor} {n : ℕ} (h : Accounts e n) (job : Job)
    (f : RemoteRuntime.Framework) :
    Accounts (RemoteExecutor.finish texts (counting n e) job f)
      (RemoteExecutor.finish texts (counting n e) job f).runtime.nextHandle := by
  let rt : RemoteRuntime.Runtime := { e.runtime with nextHandle := n }
  let out := RemoteRuntime.execute texts job.command f rt
  have hn : n ≤ out.2.nextHandle := (@RemoteRuntime.execute_effect texts job.command f rt).nextHandle_le
  have hlog : (RemoteExecutor.finish texts (counting n e) job f).log =
      e.log ++ [.finished job out.1, .answered job.ticket (out.1.getD (remoteUnavailable eio))] := rfl
  have hruntime : (RemoteExecutor.finish texts (counting n e) job f).runtime = out.2 := rfl
  have hnew : ∀ job' r, .finished job' (some r) ∈ (RemoteExecutor.finish texts (counting n e) job f).log →
      .finished job' (some r) ∈ e.log ∨ job' = job ∧ out.1 = some r := fun job' r hm => finished_finish hm
  have hactions : ∀ (k : ℕ) a, rt.actions[k]? = some a →
      Began (RemoteExecutor.finish texts (counting n e) job f).log k a.endpoint := fun k a ha => by
    rw [hlog]
    exact (h.actions k a ha).append _
  rw [hruntime]
  refine ⟨RemoteRuntime.issued_execute h.issued, fun job' r hm => ?_, fun k a ha => ?_,
    fun job' r hm ho v hv ht => ?_⟩
  · rcases hnew job' r hm with hm | ⟨rfl, hr⟩
    · exact (h.given job' r hm).trans hn
    · rcases execute_handle r hr with h0 | ⟨hk, hnext⟩
      · rw [h0]
        exact Nat.zero_le _
      · exact (hk.trans hnext.symm).le
  · rcases execute_actions h.issued ha with ha | ⟨h0, ho, he, r, hr, hk⟩
    · exact hactions k a ha
    · refine ⟨h0, job, r, ?_, ho, he.symm, hk⟩
      have hr : out.1 = some r := hr
      rw [hlog, hr]
      simp
  · rcases hnew job' r hm with hm | ⟨rfl, hr⟩
    · rw [hlog]
      exact (h.polls job' r hm ho v hv ht).append _
    · obtain ⟨a, ha, he⟩ := execute_polls ho r hr v hv ht
      exact he ▸ hactions v.handle a ha

lemma worker_cases (e : RemoteExecutor) (f : RemoteRuntime.Framework) :
    (∃ job, e.worker = .executing job ∧ RemoteExecutor.work texts e f = RemoteExecutor.finish texts e job f) ∨
      (RemoteExecutor.work texts e f).runtime = e.runtime ∧
        ∃ new, (RemoteExecutor.work texts e f).log = e.log ++ new ∧ ∀ job r, .finished job r ∉ new := by
  obtain ⟨new, hl, -, -, -, hf⟩ := @work_notices texts e f
  by_cases hx : ∃ job, e.worker = .executing job
  · obtain ⟨job, hx⟩ := hx
    refine .inl ⟨job, hx, ?_⟩
    unfold RemoteExecutor.work
    simp only [hx]
  · refine .inr ⟨?_, new, hl, fun job r hm => hx ⟨job, (hf job r hm).1⟩⟩
    unfold RemoteExecutor.work
    cases hw : e.worker with
    | waiting =>
      simp only [RemoteExecutor.take]
      split_ifs
      · rfl
      · split <;> rfl
    | holding job => rfl
    | executing job => exact absurd ⟨job, hw⟩ hx
    | ended => rfl

lemma Accounts.work {e : RemoteExecutor} {n : ℕ} (h : Accounts e n) (f : RemoteRuntime.Framework) :
    Accounts (RemoteExecutor.work texts (counting n e) f)
      (RemoteExecutor.work texts (counting n e) f).runtime.nextHandle := by
  rcases @worker_cases texts (counting n e) f with ⟨job, -, hw⟩ | ⟨hr, new, hl, hn⟩
  · rw [hw]
    exact h.finish job f
  · rw [hr]
    have hcounting : Accounts (counting n e) n := ⟨h.issued, h.given, h.actions, h.polls⟩
    exact hcounting.more hl (fun job r => hn job (some r)) (congrArg _ hr) (congrArg _ hr)

/-- All handles that the process has given out are accounted for. -/
structure Accounted (b : KcfNetwork) : Prop where
  accounts : ∀ i e, b.executor i = some e → Accounts e b.nextHandle
  once : ∀ i e i' e' job r job' r', b.executor i = some e → b.executor i' = some e' →
    .finished job (some r) ∈ e.log → .finished job' (some r') ∈ e'.log → r.handle = r'.handle → r.handle ≠ 0 →
      i = i' ∧ job = job'

/-- What is new in the logs carries a handle beyond those given out before. -/
lemma Accounted.update {i : ℕ} {e : RemoteExecutor} (h : Accounted b)
    (he : b'.executor = Function.update b.executor i (some e)) (hn : b.nextHandle ≤ b'.nextHandle)
    (ha : Accounts e b'.nextHandle)
    (hold : ∀ job r, .finished job (some r) ∈ e.log → r.handle ≠ 0 →
      (∃ e₀, b.executor i = some e₀ ∧ .finished job (some r) ∈ e₀.log) ∨ b.nextHandle < r.handle)
    (hnew : ∀ job r job' r', .finished job (some r) ∈ e.log → .finished job' (some r') ∈ e.log →
      r.handle = r'.handle → b.nextHandle < r.handle → job = job') : Accounted b' := by
  -- a notice of `b'` is one of `b`, or it is new
  have hcases : ∀ j e₁ job r, b'.executor j = some e₁ → .finished job (some r) ∈ e₁.log → r.handle ≠ 0 →
      (∃ e₀, b.executor j = some e₀ ∧ .finished job (some r) ∈ e₀.log) ∨
        j = i ∧ e₁ = e ∧ b.nextHandle < r.handle := fun j e₁ job r hj hm h0 => by
    rw [he, Function.update_apply] at hj
    split_ifs at hj with hji
    · subst hji
      obtain rfl := Option.some.inj hj
      exact (hold job r hm h0).imp_right fun hlt => ⟨rfl, rfl, hlt⟩
    · exact .inl ⟨e₁, hj, hm⟩
  have hle : ∀ j e₀ job r, b.executor j = some e₀ → .finished job (some r) ∈ e₀.log → r.handle ≤ b.nextHandle :=
    fun j e₀ job r hj hm => (h.accounts j e₀ hj).given job r hm
  constructor
  · intro j e₁ hj
    rw [he, Function.update_apply] at hj
    split_ifs at hj
    · obtain rfl := Option.some.inj hj
      exact ha
    · exact (h.accounts j e₁ hj).raise hn
  · intro j e₁ j' e₁' job r job' r' hj hj' hm hm' heq h0
    rcases hcases j e₁ job r hj hm h0 with ⟨e₀, hj₀, hm₀⟩ | ⟨rfl, rfl, hlt⟩ <;>
      rcases hcases j' e₁' job' r' hj' hm' (heq ▸ h0) with ⟨e₀', hj₀', hm₀'⟩ | ⟨rfl, rfl, hlt'⟩
    · exact h.once j e₀ j' e₀' job r job' r' hj₀ hj₀' hm₀ hm₀' heq h0
    · have := hle j e₀ job r hj₀ hm₀
      omega
    · have := hle j' e₀' job' r' hj₀' hm₀'
      omega
    · exact ⟨rfl, hnew job r job' r' hm hm' heq hlt⟩

lemma Accounted.same (h : Accounted b) (he : b'.executor = b.executor) (hn : b'.nextHandle = b.nextHandle) :
    Accounted b' := by
  refine ⟨fun i e hi => ?_, fun i e i' e' job r job' r' hi hi' => ?_⟩
  · rw [he] at hi
    exact hn ▸ h.accounts i e hi
  · rw [he] at hi hi'
    exact h.once i e i' e' job r job' r' hi hi'

/-- No command has been finished. -/
lemma Accounted.quiet {i : ℕ} {e e₀ : RemoteExecutor} (h : Accounted b) (hi : b.executor i = some e₀)
    (he : b'.executor = Function.update b.executor i (some e)) (hn : b'.nextHandle = b.nextHandle)
    (ha : Accounts e b.nextHandle)
    (hf : ∀ job r, .finished job (some r) ∈ e.log → .finished job (some r) ∈ e₀.log) : Accounted b' := by
  refine h.update he hn.ge (hn ▸ ha) (fun job r hm _ => .inl ⟨e₀, hi, hf job r hm⟩)
    fun job r _ _ hm _ _ hlt => ?_
  exact absurd ((h.accounts i e₀ hi).given job r (hf job r hm)) (Nat.not_le.mpr hlt)

lemma Accounted.ran (h : Accounted b) (hr : Ran texts b b') : Accounted b' := by
  cases hr with
  | same he hn => exact h.same he hn
  | @launched i error hi he hn =>
    refine h.update he hn.ge (accounts_start error _) (fun job r hm => ?_) fun job r _ _ hm => ?_
    · cases hm
    · cases hm
  | @stopped i e hi he hn =>
    have ha := h.accounts i e hi
    exact h.quiet hi he hn ⟨ha.issued, ha.given, ha.actions, ha.polls⟩ fun _ _ hm => hm
  | @worked i e f hi he hn =>
    have ha := h.accounts i e hi
    rcases @worker_cases texts (counting b.nextHandle e) f with ⟨job, -, hw⟩ | ⟨hruntime, new, hl, hnew⟩
    · rw [hw] at he hn
      have hle : b.nextHandle ≤ b'.nextHandle := by
        rw [hn]
        exact (@RemoteRuntime.execute_effect texts job.command f
          (counting b.nextHandle e).runtime).nextHandle_le
      -- only the reply to this job is new
      have hcases : ∀ job' r, .finished job' (some r) ∈
          (RemoteExecutor.finish texts (counting b.nextHandle e) job f).log → .finished job' (some r) ∈ e.log ∨
            job' = job ∧ (r.handle ≠ 0 → b.nextHandle < r.handle) := fun job' r hm => by
        rcases finished_finish hm with hm | ⟨rfl, hr⟩
        · exact .inl hm
        · refine .inr ⟨rfl, fun h0 => ?_⟩
          rcases execute_handle r hr with hz | ⟨hk, -⟩
          · exact absurd hz h0
          · exact hk ▸ Nat.lt_succ_self _
      refine h.update he hle (hn ▸ ha.finish job f) (fun job' r hm h0 => ?_) fun j r j' r' hm hm' heq hlt => ?_
      · rcases hcases job' r hm with hm | ⟨-, hk⟩
        · exact .inl ⟨e, hi, hm⟩
        · exact .inr (hk h0)
      · have hno : ∀ job' r', .finished job' (some r') ∈ e.log → b.nextHandle < r'.handle → False :=
          fun job' r' hm hlt => absurd (ha.given job' r' hm) (Nat.not_le.mpr hlt)
        rcases hcases j r hm with hm | ⟨rfl, -⟩
        · exact (hno j r hm hlt).elim
        · rcases hcases j' r' hm' with hm' | ⟨rfl, -⟩
          · exact (hno j' r' hm' (heq ▸ hlt)).elim
          · rfl
    · have hn : b'.nextHandle = b.nextHandle := hn.trans (congrArg _ hruntime)
      have hwork := @Accounts.work texts e b.nextHandle ha f
      rw [hruntime] at hwork
      refine h.quiet hi he hn hwork fun job r hm => ?_
      rw [hl] at hm
      exact (List.mem_append.mp hm).resolve_right (hnew job (some r))

lemma submit_notices (e : RemoteExecutor) (c : RemoteCommand) :
    ∃ new, (RemoteExecutor.submit e c).log = e.log ++ new ∧ ∀ job r, .finished job (some r) ∉ new := by
  unfold RemoteExecutor.submit RemoteExecutor.note
  simp only
  split_ifs
  · exact ⟨_, List.append_assoc .., by simp⟩
  · exact ⟨_, List.append_assoc .., by simp⟩
  · exact ⟨_, rfl, by simp⟩

lemma Accounted.submitRemote (h : Accounted b) (c : RemoteCommand) : Accounted (b.submitRemote c).2 := by
  rcases @submitRemote_executor b c with ⟨error, hs⟩ | ⟨i, e, hi, -, he, hn⟩
  · rw [hs]
    exact h
  · have ha := h.accounts i e hi
    obtain ⟨-, -, hf, hr⟩ := @submit_fields e c
    obtain ⟨new, hl, hnew⟩ := submit_notices e c
    refine h.quiet hi he hn (ha.more hl hnew (congrArg _ hr) (congrArg _ hr)) fun job r hm => (hf job _).mp hm

lemma Accounted.advance (h : Accounted b) (c : Configuration) (made : Bool) : Accounted (b.advance c made).2 :=
  h.same (advance_executor c made).1 (advance_executor c made).2

end Accounts

section Calls

variable {texts : ValueCodec.Texts} {b b' : KcfNetwork} {futures : List Future} {sent : List RemoteCommand}

/-- Which command stands behind a future, and which future behind a job. -/
structure Wired (b : KcfNetwork) (futures : List Future) (sent : List RemoteCommand) : Prop where
  length : futures.length ≤ sent.length
  ready : ∀ (t : ℕ) r, futures[t]? = some (.ready r) → ∃ error, r = remoteUnavailable error
  calls : ∀ (t : ℕ) i n, futures[t]? = some (.call i n) → ∃ e, b.executor i = some e ∧ n < e.tickets
  distinct : ∀ (t t' : ℕ) i n, futures[t]? = some (.call i n) → futures[t']? = some (.call i n) → t = t'
  called : ∀ i e job, b.executor i = some e → Submitted e.log job →
    ∃ t : ℕ, futures[t]? = some (.call i job.ticket) ∧ sent[t]? = some job.command

lemma Ran.keeps (h : Ran texts b b') :
    (∀ i e, b.executor i = some e → ∃ e', b'.executor i = some e' ∧ e'.tickets = e.tickets) ∧
      ∀ i e' job, b'.executor i = some e' → Submitted e'.log job →
        ∃ e, b.executor i = some e ∧ Submitted e.log job := by
  -- the executor that has a turn
  have hone : ∀ i e e', b.executor i = some e → b'.executor = Function.update b.executor i (some e') →
      e'.tickets = e.tickets → (∀ job, Submitted e'.log job → Submitted e.log job) →
      (∀ i e, b.executor i = some e → ∃ e', b'.executor i = some e' ∧ e'.tickets = e.tickets) ∧
        ∀ i e' job, b'.executor i = some e' → Submitted e'.log job →
          ∃ e, b.executor i = some e ∧ Submitted e.log job := fun i e e' hi he ht hs => by
    refine ⟨fun j p hp => ?_, fun j p' job hp' hm => ?_⟩
    · rw [he, Function.update_apply]
      split_ifs with hj
      · subst hj
        obtain rfl := Option.some.inj (hi.symm.trans hp)
        exact ⟨e', rfl, ht⟩
      · exact ⟨p, hp, rfl⟩
    · rw [he, Function.update_apply] at hp'
      split_ifs at hp' with hj
      · subst hj
        obtain rfl := Option.some.inj hp'
        exact ⟨e, hi, hs job hm⟩
      · exact ⟨p', hp', hm⟩
  cases h with
  | same he _ =>
    rw [he]
    exact ⟨fun _ e hi => ⟨e, hi, rfl⟩, fun _ e' _ hi hm => ⟨e', hi, hm⟩⟩
  | @launched i error hi he _ =>
    refine ⟨fun j p hp => ?_, fun j p' job hp' hm => ?_⟩
    · rw [he, Function.update_apply]
      split_ifs with hj
      · subst hj
        cases hi.symm.trans hp
      · exact ⟨p, hp, rfl⟩
    · rw [he, Function.update_apply] at hp'
      split_ifs at hp' with hj
      · obtain rfl := Option.some.inj hp'
        obtain ⟨_, _, hm⟩ := hm
        cases hm
      · exact ⟨p', hp', hm⟩
  | stopped hi he _ => exact hone _ _ _ hi he rfl fun _ hs => hs
  | @worked i e f hi he _ =>
    obtain ⟨new, hl, hnew, ht, -⟩ := @work_notices texts (counting b.nextHandle e) f
    refine hone _ _ _ hi he ht fun job hs => ?_
    rw [hl] at hs
    exact (submitted_append hnew job).mp hs

lemma Wired.ran (h : Wired b futures sent) (hr : Ran texts b b') : Wired b' futures sent := by
  obtain ⟨hkeeps, hback⟩ := hr.keeps
  refine ⟨h.length, h.ready, fun t i n hf => ?_, h.distinct, fun i e' job hi hs => ?_⟩
  · obtain ⟨e, hi, hn⟩ := h.calls t i n hf
    obtain ⟨e', hi', ht⟩ := hkeeps i e hi
    exact ⟨e', hi', ht ▸ hn⟩
  · obtain ⟨e, hi, hs⟩ := hback i e' job hi hs
    exact h.called i e job hi hs

lemma Wired.same (h : Wired b futures sent) (he : b'.executor = b.executor) : Wired b' futures sent := by
  refine ⟨h.length, h.ready, ?_, h.distinct, ?_⟩
  · rw [he]
    exact h.calls
  · rw [he]
    exact h.called

lemma Wired.sends (h : Wired b futures sent) (new : List RemoteCommand) : Wired b futures (sent ++ new) where
  length := h.length.trans (by simp)
  ready := h.ready
  calls := h.calls
  distinct := h.distinct
  called i e job hi hs := by
    obtain ⟨t, hf, hc⟩ := h.called i e job hi hs
    exact ⟨t, hf, getElem?_earlier hc⟩

lemma Wired.submitRemote {c : RemoteCommand} (h : Wired b futures sent) (hc : sent[futures.length]? = some c) :
    Wired (b.submitRemote c).2 (futures ++ [(b.submitRemote c).1]) sent := by
  have hlength : futures.length < sent.length := (List.getElem?_eq_some_iff.mp hc).1
  rcases @submitRemote_executor b c with ⟨error, hs⟩ | ⟨i, e, hi, hfuture, he, -⟩
  · rw [hs]
    refine ⟨by simpa using hlength, fun t r hf => ?_, fun t i n hf => ?_, fun t t' i n hf hf' => ?_,
      fun i e job hi hs => ?_⟩
    · rcases getElem?_snoc hf with hf | ⟨-, hr⟩
      · exact h.ready t r hf
      · exact ⟨error, (Future.ready.inj hr)⟩
    · rcases getElem?_snoc hf with hf | ⟨-, hr⟩
      · exact h.calls t i n hf
      · cases hr
    · rcases getElem?_snoc hf with hf | ⟨-, hr⟩ <;> rcases getElem?_snoc hf' with hf' | ⟨-, hr'⟩
      · exact h.distinct t t' i n hf hf'
      · cases hr'
      · cases hr
      · cases hr
    · obtain ⟨t, hf, hm⟩ := h.called i e job hi hs
      exact ⟨t, getElem?_earlier hf, hm⟩
  · rw [hfuture]
    obtain ⟨htickets, -⟩ := @submit_fields e c
    have hself : (b.submitRemote c).2.executor i = some (RemoteExecutor.submit e c) := by
      rw [he, Function.update_self]
    refine ⟨by simpa using hlength, fun t r hf => ?_, fun t j n hf => ?_, fun t t' j n hf hf' => ?_,
      fun j p job hj hs => ?_⟩
    · rcases getElem?_snoc hf with hf | ⟨-, hr⟩
      · exact h.ready t r hf
      · cases hr
    · rcases getElem?_snoc hf with hf | ⟨-, hr⟩
      · obtain ⟨p, hp, hn⟩ := h.calls t j n hf
        rw [he, Function.update_apply]
        split_ifs with hj
        · subst hj
          obtain rfl := Option.some.inj (hi.symm.trans hp)
          exact ⟨_, rfl, htickets ▸ Nat.lt_succ_of_lt hn⟩
        · exact ⟨p, hp, hn⟩
      · obtain ⟨rfl, rfl⟩ := Future.call.inj hr
        exact ⟨_, hself, htickets ▸ Nat.lt_succ_self _⟩
    · -- the ticket of the new call is new
      have hfresh : ∀ u : ℕ, futures[u]? ≠ some (.call i e.tickets) := fun u hu => by
        obtain ⟨p, hp, hn⟩ := h.calls u i _ hu
        obtain rfl := Option.some.inj (hi.symm.trans hp)
        exact absurd hn (lt_irrefl _)
      rcases getElem?_snoc hf with hf | ⟨ht, hr⟩ <;> rcases getElem?_snoc hf' with hf' | ⟨ht', hr'⟩
      · exact h.distinct t t' j n hf hf'
      · exact absurd (hr' ▸ hf) (hfresh t)
      · exact absurd (hr ▸ hf') (hfresh t')
      · exact ht.trans ht'.symm
    · rw [he, Function.update_apply] at hj
      split_ifs at hj with hji
      · subst hji
        obtain rfl := Option.some.inj hj
        rcases (submitted_submit c job).mp hs with hs | rfl
        · obtain ⟨t, hf, hm⟩ := h.called j e job hi hs
          exact ⟨t, getElem?_earlier hf, hm⟩
        · exact ⟨futures.length, by simp, hc⟩
      · obtain ⟨t, hf, hm⟩ := h.called j p job hj hs
        exact ⟨t, getElem?_earlier hf, hm⟩

end Calls

end KcfTools.KcfNetwork
