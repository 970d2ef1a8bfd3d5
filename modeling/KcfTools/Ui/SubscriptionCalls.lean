import KcfTools.Lib.Leases
import KcfTools.Backend.RuntimeEffects
import KcfTools.Ui.Subscriptions
import KcfTools.Ui.SystemGoals

/-! The handles of one epoch as a ledger, and what the threads behind the remote tabs do to it. -/

namespace KcfTools.Subscriptions

open ControlGate (Observer)
open KcfNetwork (Future Calm connected counting executor_eq executor_set)
open Leases (Request Ledger)
open RemoteExecutor (Job)
open RemoteSystem (System Honest ready reply submitting leaving)
open RemoteWorkspace (Workspace Awaited acquiring returning)

/-- An epoch begins after `base` commands; the observer of its own network has the number `own`. -/
structure Epoch where
  base : ℕ
  own : ℕ

variable {texts : ValueCodec.Texts} {ep : Epoch} {s s' : System} {b b' : KcfNetwork} {o : Observer} {k t : ℕ}
  {c : RemoteCommand} {r : RemoteReply} {D : Set ℕ}

section Ledger

def kind (c : RemoteCommand) : Request :=
  match c.operation with
  | .subscribe => .acquire
  | .unsubscribe => .giveBack c.handle
  | _ => .other

def held (s : System) : ℕ := (s.ui.panels .topic).subscription

/-- The executor of an observer, until it is destroyed. -/
def locked (o : Observer) : RemoteExecutor := (ControlGate.lock o).getD {}

def executor (k : ℕ) (b : KcfNetwork) : RemoteExecutor := ((b.observers[k]?).map locked).getD {}

/-- The runtime of the epoch's network has the handle. -/
def live (ep : Epoch) (s : System) (handle : ℕ) : Prop :=
  handle ∈ (executor ep.own s.backend).runtime.subscriptions

def toAnswer (r : RemoteReply) : Leases.Answer := ⟨r.handle, r.error = 0⟩

/-- The command has no answer. -/
structure Flying (ep : Epoch) (s : System) (t : ℕ) (c : RemoteCommand) : Prop where
  base : ep.base ≤ t
  sent : s.ui.sent[t]? = some c
  waiting : ready s t = none

/-- The answer to a command of this epoch. -/
def answered (ep : Epoch) (s : System) (t : ℕ) : Option RemoteReply := if t < ep.base then none else ready s t

def ledger (ep : Epoch) (s : System) : Ledger where
  held := held s
  acquiring := acquiring s.ui
  returning := returning s.ui
  flying t q := ∃ c, Flying ep s t c ∧ kind c = q
  answer t := (answered ep s t).map toAnswer
  live := live ep s
  issued := s.backend.nextHandle

lemma kind_giveBack {handle : ℕ} (h : kind c = .giveBack handle) :
    c.operation = .unsubscribe ∧ c.handle = handle := by
  unfold kind at h
  split at h
  · cases h
  · exact ⟨by assumption, by simpa using h⟩
  · cases h

lemma kind_other (hs : c.operation ≠ .subscribe) (hu : c.operation ≠ .unsubscribe) : kind c = .other := by
  unfold kind
  split
  · exact absurd (by assumption) hs
  · exact absurd (by assumption) hu
  · rfl

lemma toAnswer_error (hh : r.handle = 0) (he : r.error ≠ 0) : toAnswer r = ⟨0, false⟩ := by
  unfold toAnswer
  rw [hh, decide_eq_false he]

/-- The commands in `D` are answered. -/
structure Answers (s s' : System) (D : Set ℕ) (r : RemoteReply) : Prop where
  ui : s'.ui = s.ui
  waiting : ∀ t ∈ D, ready s t = none
  landed : ∀ t ∈ D, ready s' t = some r
  kept : ∀ t ∉ D, ready s' t = ready s t

lemma Answers.flying (h : Answers s s' D r) : Flying ep s' t c ↔ Flying ep s t c ∧ t ∉ D := by
  constructor
  · rintro ⟨hb, hs, hw⟩
    have ht : t ∉ D := fun ht => by
      rw [h.landed t ht] at hw
      cases hw
    exact ⟨⟨hb, h.ui ▸ hs, h.kept t ht ▸ hw⟩, ht⟩
  · rintro ⟨⟨hb, hs, hw⟩, ht⟩
    exact ⟨hb, h.ui ▸ hs, (h.kept t ht).trans hw⟩

lemma Answers.ledger (h : Answers s s' D r) : ledger ep s' =
    { (ledger ep s).land {t | ep.base ≤ t ∧ t ∈ D} (toAnswer r) with
      live := live ep s', issued := s'.backend.nextHandle } := by
  refine Ledger.ext_of_iff ?_ (fun t => ?_) (fun t _ => ?_) (fun t q => ?_) (fun t => ?_) (fun _ => Iff.rfl) rfl
  · exact congrArg (fun w : Workspace => (w.panels .topic).subscription) h.ui
  · simp only [Subscriptions.ledger, Ledger.land, h.ui]
  · simp only [Subscriptions.ledger, Ledger.land, h.ui]
  · simp only [Subscriptions.ledger, Ledger.land, h.flying, Set.mem_ofPred_eq]
    constructor
    · rintro ⟨c, ⟨hf, ht⟩, hq⟩
      exact ⟨⟨c, hf, hq⟩, fun hD => ht hD.2⟩
    · rintro ⟨⟨c, hf, hq⟩, ht⟩
      exact ⟨c, ⟨hf, fun hD => ht ⟨hf.base, hD⟩⟩, hq⟩
  · simp only [Subscriptions.ledger, Ledger.land, answered, Set.mem_ofPred_eq]
    by_cases hb : t < ep.base
    · rw [if_pos hb, if_pos hb, if_neg fun hD => absurd hD.1 (Nat.not_le.mpr hb)]
    · by_cases ht : t ∈ D
      · rw [if_neg hb, if_pos ⟨Nat.not_lt.mp hb, ht⟩, h.landed t ht]
        rfl
      · rw [if_neg hb, if_neg hb, if_neg fun hD => ht hD.2, h.kept t ht]

lemma ledger_answers {u : ℕ} (h : Answers s s' {u} r) (hu : ep.base ≤ u) : ledger ep s' =
    { (ledger ep s).land {u} (toAnswer r) with live := live ep s', issued := s'.backend.nextHandle } := by
  have hset : {t | ep.base ≤ t ∧ t ∈ ({u} : Set ℕ)} = {u} := by
    ext t
    exact ⟨fun ht => ht.2, fun ht => ⟨Set.mem_singleton_iff.mp ht ▸ hu, ht⟩⟩
  rw [h.ledger, hset]

lemma ledger_same (hui : s'.ui = s.ui) (hready : ∀ t, ready s' t = ready s t) : ledger ep s' =
    { ledger ep s with live := live ep s', issued := s'.backend.nextHandle } := by
  refine Ledger.ext_of_iff ?_ (fun t => ?_) (fun t _ => ?_) (fun t q => ?_) (fun t => ?_) (fun _ => Iff.rfl) rfl
  · exact congrArg (fun w : Workspace => (w.panels .topic).subscription) hui
  · simp only [ledger, hui]
  · simp only [ledger, hui]
  · have hflying : ∀ c, Flying ep s' t c ↔ Flying ep s t c := fun c => by
      constructor
      · rintro ⟨hb, hs, hw⟩
        exact ⟨hb, hui ▸ hs, (hready t).symm.trans hw⟩
      · rintro ⟨hb, hs, hw⟩
        exact ⟨hb, hui ▸ hs, (hready t).trans hw⟩
    simp only [ledger, hflying]
  · simp only [ledger, answered, hready]

end Ledger

section Turns

/-- What a call of an executor has returned so far. -/
def call (b : KcfNetwork) (i n : ℕ) : Option RemoteReply := (b.executor i).bind fun e => reply e.log n

/-- A runtime that failed to start has no subscriptions. -/
def Failed (rt : RemoteRuntime.Runtime) : Prop := rt.error ≠ 0 → ∀ handle, handle ∉ rt.subscriptions

structure Same (rt rt' : RemoteRuntime.Runtime) : Prop where
  subscriptions : rt'.subscriptions = rt.subscriptions
  failed : Failed rt → Failed rt'

lemma Same.of_eq {rt rt' : RemoteRuntime.Runtime} (hs : rt'.subscriptions = rt.subscriptions)
    (he : rt'.error = rt.error) : Same rt rt' :=
  ⟨hs, fun h => by rwa [Failed, he, hs]⟩

lemma Same.refl (rt : RemoteRuntime.Runtime) : Same rt rt := .of_eq rfl rfl

/-- What a turn of the threads of observer `i` does to the answers and to observer `k`. -/
inductive Turned (texts : ValueCodec.Texts) (k i : ℕ) (t : ControlGate.Event) (b b' : KcfNetwork) : Prop
  | idle (hl : ∀ j n, call b' j n = call b j n) (hn : b'.nextHandle = b.nextHandle)
      (hr : Same (executor k b).runtime (executor k b').runtime)
  | released {o : Observer} (hk : k = i) (ht : t = .release) (ho : b.observers[i]? = some o)
      (hx : (ControlGate.release o).expired) (hl : ∀ j n, call b' j n = call b j n)
      (hn : b'.nextHandle = b.nextHandle) (hr : executor k b' = {})
  | dropped {e f} (ht : t = .work f) (hi : b.executor i = some e) (hw : e.worker = .waiting) (hs : e.stopping)
      (hl : ∀ j n, call b' j n = if j = i ∧ n ∈ e.queue.map Job.ticket then some (remoteUnavailable ecanceled)
        else call b j n)
      (hn : b'.nextHandle = b.nextHandle) (hr : Same (executor k b).runtime (executor k b').runtime)
  | executed {e f job} (ht : t = .work f) (hi : b.executor i = some e) (hw : e.worker = .executing job)
      (hl : ∀ j n, call b' j n = if j = i ∧ n = job.ticket then
          some ((RemoteRuntime.execute texts job.command f (counting b.nextHandle e).runtime).1.getD
            (remoteUnavailable eio))
        else call b j n)
      (hn : b'.nextHandle =
        (RemoteRuntime.execute texts job.command f (counting b.nextHandle e).runtime).2.nextHandle)
      (hr : (k = i ∧ executor k b = e ∧ (executor k b').runtime =
          (RemoteRuntime.execute texts job.command f (counting b.nextHandle e).runtime).2) ∨
        (k = i → executor k b = {}) ∧ Same (executor k b).runtime (executor k b').runtime)

lemma reply_dropped (queue : List Job) (n : ℕ) :
    reply (queue.map fun job => .answered job.ticket r) n =
      if n ∈ queue.map Job.ticket then some r else none := by
  induction queue with
  | nil => rfl
  | cons job queue ih =>
    by_cases hn : job.ticket = n
    · simp [reply, hn]
    · have hrest : reply ((job :: queue).map fun job => .answered job.ticket r) n =
          reply (queue.map fun job => .answered job.ticket r) n := by simp [reply, hn]
      rw [hrest, ih]
      simp [Ne.symm hn]

lemma unanswered {e : RemoteExecutor} (h : RemoteExecutor.Sound e) {job : Job}
    (hj : job ∈ e.worker.jobs ++ e.queue) : reply e.log job.ticket = none := by
  refine RemoteSystem.reply_none fun ha => ?_
  have hnodup := h.places.nodup_iff.mpr List.nodup_range
  exact (List.nodup_append.mp hnodup).2.2 _ ha _ (List.mem_map_of_mem hj) rfl

/-- The executor's turn: its job is taken, started, or executed, or the queue is dropped. -/
lemma work_cases {e : RemoteExecutor} (h : RemoteExecutor.Sound e) (f : RemoteRuntime.Framework) :
    ((∀ n, reply (RemoteExecutor.work texts e f).log n = reply e.log n) ∧
      (RemoteExecutor.work texts e f).runtime = e.runtime) ∨
    (e.worker = .waiting ∧ e.stopping ∧ (∀ n, reply (RemoteExecutor.work texts e f).log n =
        if n ∈ e.queue.map Job.ticket then some (remoteUnavailable ecanceled) else reply e.log n) ∧
      (RemoteExecutor.work texts e f).runtime = e.runtime) ∨
    ∃ job, e.worker = .executing job ∧ (∀ n, reply (RemoteExecutor.work texts e f).log n =
        if n = job.ticket then
          some ((RemoteRuntime.execute texts job.command f e.runtime).1.getD (remoteUnavailable eio))
        else reply e.log n) ∧
      (RemoteExecutor.work texts e f).runtime = (RemoteRuntime.execute texts job.command f e.runtime).2 := by
  unfold RemoteExecutor.work
  cases hworker : e.worker with
  | waiting =>
    by_cases hs : e.stopping = true
    · refine .inr (.inl ⟨rfl, hs, fun n => ?_, ?_⟩)
      · have hlog : (RemoteExecutor.take e).log = e.log ++ (.stopSeen e.queue ::
            e.queue.map fun job => .answered job.ticket (remoteUnavailable ecanceled)) := by
          unfold RemoteExecutor.take
          rw [if_pos hs]
          rfl
        have hnew : reply (.stopSeen e.queue ::
            e.queue.map fun job => .answered job.ticket (remoteUnavailable ecanceled)) n =
              if n ∈ e.queue.map Job.ticket then some (remoteUnavailable ecanceled) else none :=
          reply_dropped e.queue n
        simp only [hlog, RemoteSystem.reply_append, hnew]
        split_ifs with hn
        · obtain ⟨job, hj, rfl⟩ := List.mem_map.mp hn
          rw [unanswered h (List.mem_append_right _ hj)]
          rfl
        · exact Option.or_none
      · unfold RemoteExecutor.take
        rw [if_pos hs]
        rfl
    · left
      simp only [RemoteExecutor.take, hs, Bool.false_eq_true, if_false]
      cases e.queue with
      | nil => exact ⟨fun _ => rfl, rfl⟩
      | cons job queue => exact ⟨fun _ => rfl, rfl⟩
  | holding job =>
    exact .inl ⟨fun n => (RemoteSystem.reply_append _ [.started job] n).trans Option.or_none, rfl⟩
  | executing job =>
    refine .inr (.inr ⟨job, rfl, fun n => ?_, rfl⟩)
    have hlog : (RemoteExecutor.finish texts e job f).log = e.log ++
        [.finished job (RemoteRuntime.execute texts job.command f e.runtime).1,
          .answered job.ticket ((RemoteRuntime.execute texts job.command f e.runtime).1.getD
            (remoteUnavailable eio))] := rfl
    simp only [hlog, RemoteSystem.reply_append]
    split_ifs with hn
    · have hjob : job ∈ e.worker.jobs ++ e.queue := by
        rw [hworker]
        exact List.mem_cons_self
      rw [hn, unanswered h hjob]
      simp [reply]
    · simp [reply, Ne.symm hn]
  | ended => exact .inl ⟨fun _ => rfl, rfl⟩

lemma executor_of (ho : b.observers[k]? = some o) : executor k b = locked o := by
  unfold executor
  rw [ho]
  rfl

section Set

variable {i : ℕ} {o' : Observer}

lemma executor_update (ho : b.observers[i]? = some o) (n : ℕ) :
    executor k { b with observers := b.observers.set i o', nextHandle := n } =
      if k = i then locked o' else executor k b := by
  have hi := (List.getElem?_eq_some_iff.mp ho).1
  unfold executor
  simp only [List.getElem?_set]
  split_ifs with hki hik hik
  · rfl
  · exact absurd hki.symm hik
  · exact absurd hik.symm hki
  · rfl

lemma call_update (ho : b.observers[i]? = some o) (n j m : ℕ) :
    call { b with observers := b.observers.set i o', nextHandle := n } j m =
      if j = i then o'.executor.bind (fun e => reply e.log m) else call b j m := by
  unfold call
  rw [executor_set ho, Function.update_apply]
  split_ifs <;> rfl

lemma call_of (ho : b.observers[i]? = some o) (m : ℕ) :
    call b i m = o.executor.bind fun e => reply e.log m := by
  unfold call
  rw [executor_eq ho]

/-- The observer has neither answered a command nor changed its subscriptions. -/
lemma turned_idle {t : ControlGate.Event} (ho : b.observers[i]? = some o)
    (hl : ∀ m, (o'.executor.bind fun e => reply e.log m) = o.executor.bind fun e => reply e.log m)
    (hr : Same (locked o).runtime (locked o').runtime) :
    Turned texts k i t b { b with observers := b.observers.set i o' } := by
  refine .idle (fun j m => ?_) rfl ?_
  · apply (call_update ho b.nextHandle j m).trans
    split_ifs with hj
    · rw [hj, hl, call_of ho]
    · rfl
  · have he := @executor_update b o k i o' ho b.nextHandle
    split_ifs at he with hk
    · rw [he, hk, executor_of ho]
      exact hr
    · rw [he]
      exact .refl _

lemma same_launch (hn : o.executor = none) (l : ControlGate.Launch) :
    (∀ m, ((ControlGate.launch o l).executor.bind fun e => reply e.log m) =
      o.executor.bind fun e => reply e.log m) ∧
    Same (locked o).runtime (locked (ControlGate.launch o l)).runtime := by
  have hblank : ∀ o₁ : Observer, o₁.executor = none → locked o₁ = {} := fun o₁ h₁ => by
    unfold locked ControlGate.lock
    rw [h₁]
    split_ifs <;> rfl
  rw [hblank o hn, hn]
  rcases @KcfNetwork.launch_executor o l with he | ⟨error, he⟩
  · rw [hblank _ (he.trans hn), he, hn]
    exact ⟨fun _ => rfl, .refl _⟩
  · refine ⟨fun m => by rw [he]; rfl, ?_⟩
    have hempty : (locked (ControlGate.launch o l)).runtime.subscriptions = ∅ := by
      unfold locked ControlGate.lock
      rw [he]
      split_ifs <;> rfl
    refine ⟨hempty, fun _ _ handle hlive => ?_⟩
    rw [hempty] at hlive
    exact Std.ExtTreeMap.not_mem_empty hlive

lemma same_round (worker : NetworkObserver.Worker) (tick : NetworkObserver.Tick) :
    (ControlGate.round o worker tick).executor = o.executor ∧
      locked (ControlGate.round o worker tick) = locked o := by
  unfold ControlGate.round
  simp only
  split <;> exact ⟨rfl, rfl⟩

lemma same_stop : (∀ m, ((o.executor.map RemoteExecutor.stop).bind fun e => reply e.log m) =
      o.executor.bind fun e => reply e.log m) ∧
    (locked { o with executor := o.executor.map RemoteExecutor.stop }).runtime = (locked o).runtime := by
  unfold locked ControlGate.lock
  cases o.executor with
  | none => exact ⟨fun _ => rfl, by split_ifs <;> rfl⟩
  | some e => exact ⟨fun _ => rfl, by split_ifs <;> rfl⟩

lemma release_cases : (ControlGate.release o).executor = o.executor ∧
    (locked (ControlGate.release o) = locked o ∨
      (ControlGate.release o).expired ∧ locked (ControlGate.release o) = {}) := by
  unfold ControlGate.release
  split_ifs
  · exact ⟨rfl, .inl rfl⟩
  · split
    · exact ⟨rfl, .inr ⟨rfl, rfl⟩⟩
    · exact ⟨rfl, .inr ⟨rfl, rfl⟩⟩
    · exact ⟨rfl, .inl rfl⟩

lemma turned_release (ho : b.observers[i]? = some o) :
    Turned texts k i .release b { b with observers := b.observers.set i (ControlGate.release o) } := by
  obtain ⟨he, hl | ⟨hx, hl⟩⟩ := @release_cases o
  · refine turned_idle ho (fun m => by rw [he]) ?_
    rw [hl]
    exact .refl _
  · have hcalls : ∀ j m, call { b with observers := b.observers.set i (ControlGate.release o) } j m =
        call b j m := by
      intro j m
      apply (call_update ho b.nextHandle j m).trans
      split_ifs with hj
      · rw [hj, he, call_of ho]
      · rfl
    have hexecutor := @executor_update b o k i (ControlGate.release o) ho b.nextHandle
    split_ifs at hexecutor with hk
    · exact .released hk rfl ho hx hcalls rfl (hexecutor.trans hl)
    · refine .idle hcalls rfl ?_
      rw [hexecutor]
      exact .refl _

lemma execute_error (c : RemoteCommand) (f : RemoteRuntime.Framework) (rt : RemoteRuntime.Runtime) :
    (RemoteRuntime.execute texts c f rt).2.error = rt.error := by
  have h := @RemoteRuntime.execute_effect texts c f rt
  generalize RemoteRuntime.execute texts c f rt = outcome at h
  obtain ⟨r, rt'⟩ := outcome
  cases h <;> rfl

lemma turned_work (ho : b.observers[i]? = some o) {e : RemoteExecutor} (he : o.executor = some e)
    (hs : RemoteExecutor.Sound (counting b.nextHandle e)) (f : RemoteRuntime.Framework) :
    Turned texts k i (.work f) b { b with
      observers := b.observers.set i
        { o with executor := some (RemoteExecutor.work texts (counting b.nextHandle e) f) }
      nextHandle := (RemoteExecutor.work texts (counting b.nextHandle e) f).runtime.nextHandle } := by
  let e' := RemoteExecutor.work texts (counting b.nextHandle e) f
  have hi : b.executor i = some e := (executor_eq ho).trans he
  have hlocked : (executor k b = e ∧ locked { o with executor := some e' } = e') ∨
      executor k b = {} ∧ locked { o with executor := some e' } = {} ∨ k ≠ i := by
    by_cases hk : k = i
    · rw [hk, executor_of ho]
      unfold locked ControlGate.lock
      rw [he]
      split_ifs
      · exact .inr (.inl ⟨rfl, rfl⟩)
      · exact .inl ⟨rfl, rfl⟩
    · exact .inr (.inr hk)
  have hexecutor := @executor_update b o k i { o with executor := some e' } ho e'.runtime.nextHandle
  have hcall : ∀ j m, call { b with observers := b.observers.set i { o with executor := some e' }
                                    nextHandle := e'.runtime.nextHandle } j m =
      if j = i then reply e'.log m else call b j m := call_update ho _
  have hcall_i : ∀ m, call b i m = reply e.log m := fun m => by
    rw [call_of ho, he]
    rfl
  have hsame : e'.runtime = (counting b.nextHandle e).runtime → Same (executor k b).runtime
      (executor k { b with observers := b.observers.set i { o with executor := some e' }
                           nextHandle := e'.runtime.nextHandle }).runtime := fun hr => by
    rw [hexecutor]
    split_ifs with hk
    · rcases hlocked with ⟨h₁, h₂⟩ | ⟨h₁, h₂⟩ | hne
      · rw [h₁, h₂, hr]
        exact .of_eq rfl rfl
      · rw [h₁, h₂]
        exact .refl _
      · exact absurd hk hne
    · exact .refl _
  rcases @work_cases texts _ hs f with ⟨hl, hr⟩ | ⟨hw, hstop, hl, hr⟩ | ⟨job, hw, hl, hr⟩
  · refine .idle (fun j m => ?_) (congrArg RemoteRuntime.Runtime.nextHandle hr) (hsame hr)
    rw [hcall]
    split_ifs with hj
    · rw [hj, hcall_i]
      exact hl m
    · rfl
  · refine .dropped rfl hi hw hstop (fun j m => ?_) (congrArg RemoteRuntime.Runtime.nextHandle hr) (hsame hr)
    rw [hcall]
    by_cases hj : j = i
    · simp only [hj, true_and, if_true, hcall_i]
      exact hl m
    · simp only [hj, false_and, if_false]
  · refine .executed rfl hi hw (fun j m => ?_) (congrArg RemoteRuntime.Runtime.nextHandle hr) ?_
    · rw [hcall]
      by_cases hj : j = i
      · simp only [hj, true_and, if_true, hcall_i]
        exact hl m
      · simp only [hj, false_and, if_false]
    · rw [hexecutor]
      by_cases hk : k = i
      · rw [if_pos hk]
        rcases hlocked with ⟨h₁, h₂⟩ | ⟨h₁, h₂⟩ | hne
        · exact .inl ⟨hk, h₁, by rw [h₂, hr]⟩
        · refine .inr ⟨fun _ => h₁, ?_⟩
          rw [h₁, h₂]
          exact .refl _
        · exact absurd hk hne
      · rw [if_neg hk]
        exact .inr ⟨fun hki => absurd hki hk, .refl _⟩

end Set

lemma turned (h : ∀ (i : ℕ) o, b.observers[i]? = some o → Calm o) (leaving : Option ℕ) (i : ℕ)
    (t : ControlGate.Event) : Turned texts k i t b (b.turn texts leaving i t) := by
  have hidle : Turned texts k i t b b := .idle (fun _ _ => rfl) rfl (.refl _)
  unfold KcfNetwork.turn
  split
  · exact hidle
  rename_i o ho
  have hset : Turned texts k i t b { b with observers := b.observers.set i o } :=
    turned_idle ho (fun _ => rfl) (.refl _)
  split_ifs with hallowed
  swap
  · exact hidle
  cases t with
  | launch l =>
    simp only [ControlGate.step]
    split
    · obtain ⟨hl, hr⟩ := same_launch ((h i o ho).starting ‹_›) l
      exact turned_idle ho hl hr
    · exact hset
  | round tick =>
    simp only [ControlGate.step]
    split
    · obtain ⟨he, hr⟩ := @same_round o ‹_› tick
      refine turned_idle ho (fun m => by rw [he]) ?_
      rw [hr]
      exact .refl _
    · exact hset
  | leave =>
    simp only [ControlGate.step]
    split
    · exact turned_idle ho (fun _ => rfl) (.refl _)
    · exact hset
  | release => exact turned_release ho
  | submit c => cases hallowed
  | stop =>
    obtain ⟨hl, hr⟩ := @same_stop o
    apply turned_idle ho hl
    change Same _ (locked { o with executor := o.executor.map RemoteExecutor.stop }).runtime
    rw [hr]
    exact .refl _
  | work f =>
    cases he : o.executor with
    | none =>
      have hstep : ControlGate.step texts (KcfNetwork.lend b.nextHandle o) (.work f) = o := by
        simp only [ControlGate.step, KcfNetwork.lend, he, Option.map_none]
        rw [← he]
      simp only [hstep, he, Option.map_none, Option.getD_none]
      exact hset
    | some e =>
      have hsound := ((KcfNetwork.calm_lend (h i o ho) b.nextHandle).sound (counting b.nextHandle e)
        (by rw [KcfNetwork.lend, he]; rfl)).1
      have hstep : ControlGate.step texts (KcfNetwork.lend b.nextHandle o) (.work f) =
          { o with executor := some (RemoteExecutor.work texts (counting b.nextHandle e) f) } := by
        simp only [ControlGate.step, KcfNetwork.lend, he]
        rfl
      simp only [hstep]
      exact turned_work ho he hsound f

end Turns

section Commands

variable {f : RemoteRuntime.Framework} {rt rt' : RemoteRuntime.Runtime} {reply : Option RemoteReply}

/-- A command that is neither a Subscribe nor an Unsubscribe leaves the subscriptions. -/
lemma effect_other (h : RemoteRuntime.Effect texts c f rt reply rt') (hs : c.operation ≠ .subscribe)
    (hu : c.operation ≠ .unsubscribe) :
    rt'.subscriptions = rt.subscriptions ∧ rt.nextHandle ≤ rt'.nextHandle := by
  cases h with
  | silent => exact ⟨rfl, le_rfl⟩
  | unsubscribed ho => exact absurd ho hu
  | subscribed _ ho => exact absurd ho hs
  | pruned => exact ⟨rfl, le_rfl⟩
  | started => exact ⟨rfl, Nat.le_succ _⟩

lemma effect_subscribe (h : RemoteRuntime.Effect texts c f rt reply rt') (hs : c.operation = .subscribe) :
    (rt' = rt ∧ ∀ r ∈ reply, r.handle = 0 ∧ r.error ≠ 0) ∨
    ∃ topic, reply = some { handle := rt.nextHandle + 1 } ∧ rt' = { rt with
      nextHandle := rt.nextHandle + 1
      subscriptions := rt.subscriptions.insertIfNew (rt.nextHandle + 1) topic } := by
  cases h with
  | silent _ hh he => exact .inl ⟨rfl, fun r hr => ⟨hh r hr, he (.inl hs) r hr⟩⟩
  | unsubscribed ho => simp [hs] at ho
  | subscribed topic => exact .inr ⟨topic, rfl, rfl⟩
  | pruned hp => cases hs.symm.trans hp.1
  | started _ hp => cases hs.symm.trans hp.1

lemma refused_subscribe (h : ∀ r ∈ reply, r.handle = 0 ∧ r.error ≠ 0) :
    toAnswer (reply.getD (remoteUnavailable eio)) = ⟨0, false⟩ := by
  cases reply with
  | none => exact toAnswer_error rfl (show eio ≠ 0 by decide)
  | some r => exact toAnswer_error (h r rfl).1 (h r rfl).2

lemma mem_erase_iff {α : Type} {m : Std.ExtTreeMap ℕ α} {k h : ℕ} : h ∈ m.erase k ↔ h ∈ m ∧ h ≠ k := by
  rw [Std.ExtTreeMap.mem_erase, ne_eq, compare_eq_iff_eq, and_comm, eq_comm]

lemma mem_insertIfNew_iff {α : Type} {m : Std.ExtTreeMap ℕ α} {k h : ℕ} {v : α} :
    h ∈ m.insertIfNew k v ↔ h ∈ m ∨ h = k := by
  rw [Std.ExtTreeMap.mem_insertIfNew, compare_eq_iff_eq, or_comm, eq_comm]

/-- The panel has the handle, or another Unsubscribe of it is on its way. -/
def Owned (ep : Epoch) (s : System) (D : Set ℕ) (handle : ℕ) : Prop :=
  held s = handle ∨ ∃ t ∉ D, ∃ c, Flying ep s t c ∧ c.operation = .unsubscribe ∧ c.handle = handle

lemma Owned.ledger {handle : ℕ} (h : Owned ep s D handle) :
    (ledger ep s).Owned {t | ep.base ≤ t ∧ t ∈ D} handle := by
  refine h.imp_right fun ⟨t, ht, c, hc, ho, hh⟩ => ⟨t, fun hD => ht hD.2, c, hc, ?_⟩
  rw [kind, ho, hh]

/-- The runtime of the epoch's network has executed the command. -/
structure Executed (texts : ValueCodec.Texts) (ep : Epoch) (s s' : System) (t : ℕ) (c : RemoteCommand)
    (f : RemoteRuntime.Framework) (rt : RemoteRuntime.Runtime) : Prop where
  flying : Flying ep s t c
  answers : Answers s s' {t} ((RemoteRuntime.execute texts c f rt).1.getD (remoteUnavailable eio))
  before : ∀ handle, live ep s handle ↔ handle ∈ rt.subscriptions
  after : ∀ handle, live ep s' handle ↔ handle ∈ (RemoteRuntime.execute texts c f rt).2.subscriptions
  issued : s.backend.nextHandle = rt.nextHandle
  next : s'.backend.nextHandle = (RemoteRuntime.execute texts c f rt).2.nextHandle
  failed : Failed rt

lemma Executed.ledger (h : Executed texts ep s s' t c f rt) : ledger ep s' =
    { (ledger ep s).land {t}
        (toAnswer ((RemoteRuntime.execute texts c f rt).1.getD (remoteUnavailable eio))) with
      live := fun handle => handle ∈ (RemoteRuntime.execute texts c f rt).2.subscriptions
      issued := (RemoteRuntime.execute texts c f rt).2.nextHandle } := by
  rw [ledger_answers h.answers h.flying.base, h.next]
  have hlive : live ep s' = fun handle => handle ∈ (RemoteRuntime.execute texts c f rt).2.subscriptions :=
    funext fun handle => propext (h.after handle)
  rw [hlive]

lemma Executed.same (h : Executed texts ep s s' t c f rt) :
    { Subscriptions.ledger ep s with
      live := fun handle => handle ∈ rt.subscriptions, issued := rt.nextHandle } = Subscriptions.ledger ep s :=
  Ledger.ext_of_iff rfl (fun _ => Iff.rfl) (fun _ _ => Iff.rfl) (fun _ _ => Iff.rfl) (fun _ => rfl)
    (fun handle => (h.before handle).symm) h.issued.symm

/-- The command is refused, and the runtime stays as it is. -/
lemma Executed.refuse (h : Executed texts ep s s' t c f rt) {r : Option RemoteReply}
    (he : RemoteRuntime.execute texts c f rt = (r, rt))
    (hr : toAnswer (r.getD (remoteUnavailable eio)) = ⟨0, false⟩)
    (ho : ∀ handle, c.operation = .unsubscribe → c.handle = handle → handle ∈ rt.subscriptions →
      Owned ep s {t} handle) : Leases.Step (Subscriptions.ledger ep s) (Subscriptions.ledger ep s') := by
  have hledger := h.ledger
  rw [he] at hledger
  have hland : Subscriptions.ledger ep s' = (Subscriptions.ledger ep s).land {t} ⟨0, false⟩ := by
    rw [hledger, hr, ← h.same]
    rfl
  rw [hland]
  refine .refused (fun u hu => ?_) fun u hu handle ⟨c', hf, hkind⟩ hlive => ?_
  · rw [Set.mem_singleton_iff.mp hu]
    change (answered ep s t).map toAnswer = none
    rw [answered, h.flying.waiting]
    split_ifs <;> rfl
  · obtain rfl := Set.mem_singleton_iff.mp hu
    obtain rfl := Option.some.inj (h.flying.sent.symm.trans hf.sent)
    obtain ⟨hop, hh⟩ := kind_giveBack hkind
    have howned := (ho handle hop hh ((h.before handle).mp hlive)).ledger
    have hset : {v | ep.base ≤ v ∧ v ∈ ({u} : Set ℕ)} = {u} := by
      ext v
      exact ⟨fun hv => hv.2, fun hv => ⟨Set.mem_singleton_iff.mp hv ▸ h.flying.base, hv⟩⟩
    rwa [hset] at howned

lemma Executed.unsubscribe (h : Executed texts ep s s' t c f rt) (hu : c.operation = .unsubscribe)
    (hk : ∀ topic, rt.subscriptions[c.handle]? = some topic → f.unsubscribe topic.handle = none →
      Owned ep s {t} c.handle) : Leases.Step (Subscriptions.ledger ep s) (Subscriptions.ledger ep s') := by
  by_cases he : rt.error ≠ 0
  · exact h.refuse (RemoteRuntime.execute_failed he) (toAnswer_error rfl he) fun handle _ _ hlive =>
      absurd hlive (h.failed he handle)
  rw [not_not] at he
  have hexecute : RemoteRuntime.execute texts c f rt = _ := RemoteRuntime.execute_unsubscribe hu he
  cases ht : rt.subscriptions[c.handle]? with
  | none =>
    rw [ht] at hexecute
    refine h.refuse hexecute (toAnswer_error rfl (show RemoteRuntime.enoent ≠ 0 by decide))
      fun handle _ hh hlive => ?_
    have hsome := Std.ExtTreeMap.mem_iff_isSome_getElem?.mp hlive
    rw [← hh, ht] at hsome
    cases hsome
  | some topic =>
    rw [ht] at hexecute
    simp only at hexecute
    cases hr : f.unsubscribe topic.handle with
    | none =>
      rw [hr] at hexecute
      exact h.refuse hexecute (toAnswer_error rfl (show eio ≠ 0 by decide)) fun handle _ hh _ =>
        hh ▸ hk topic ht hr
    | some r =>
      rw [hr] at hexecute
      have hq : (Subscriptions.ledger ep s).flying t (.giveBack c.handle) := ⟨c, h.flying, by rw [kind, hu]⟩
      have hledger := h.ledger
      rw [hexecute] at hledger
      have hended : Subscriptions.ledger ep s' = { (Subscriptions.ledger ep s).land {t} ⟨0, r = 0⟩ with
          live := fun handle => (Subscriptions.ledger ep s).live handle ∧ handle ≠ c.handle } := by
        rw [hledger, ← h.same]
        simp only [mem_erase_iff]
        rfl
      rw [hended]
      exact .ended hq

lemma Executed.subscribe (h : Executed texts ep s s' t c f rt) (hs : c.operation = .subscribe) :
    Leases.Step (Subscriptions.ledger ep s) (Subscriptions.ledger ep s') := by
  have heffect := @RemoteRuntime.execute_effect texts c f rt
  rcases effect_subscribe heffect hs with ⟨hsame, hrefused⟩ | ⟨topic, hgranted, hrt⟩
  · exact h.refuse (Prod.ext rfl hsame) (refused_subscribe hrefused) fun _ hu => by
      rw [hs] at hu
      cases hu
  · have hq : (Subscriptions.ledger ep s).flying t .acquire := ⟨c, h.flying, by rw [kind, hs]⟩
    have hledger := h.ledger
    rw [hgranted, hrt] at hledger
    have hnew : Subscriptions.ledger ep s' =
        { (Subscriptions.ledger ep s).land {t} ⟨(Subscriptions.ledger ep s).issued + 1, true⟩ with
          live := fun handle => (Subscriptions.ledger ep s).live handle ∨
            handle = (Subscriptions.ledger ep s).issued + 1
          issued := (Subscriptions.ledger ep s).issued + 1 } := by
      rw [hledger, ← h.same]
      simp only [mem_insertIfNew_iff]
      rfl
    rw [hnew]
    exact .granted hq

lemma Executed.other (h : Executed texts ep s s' t c f rt) (hs : c.operation ≠ .subscribe)
    (hu : c.operation ≠ .unsubscribe) :
    Leases.Step (Subscriptions.ledger ep s) (Subscriptions.ledger ep s') := by
  have hq : (Subscriptions.ledger ep s).flying t .other := ⟨c, h.flying, kind_other hs hu⟩
  obtain ⟨hsame, hissued⟩ := effect_other (@RemoteRuntime.execute_effect texts c f rt) hs hu
  have hledger := h.ledger
  rw [hsame] at hledger
  rw [hledger, ← h.same]
  rw [← h.same] at hq
  exact .performed hq hissued

/-- Another runtime has executed the command, and the epoch's has no subscription. -/
lemma answers_elsewhere {reply : RemoteReply} (hf : Flying ep s t c) (ha : Answers s s' {t} reply)
    (hl : ∀ handle, ¬ live ep s handle) (hl' : ∀ handle, ¬ live ep s' handle)
    (he : reply = (RemoteRuntime.execute texts c f rt).1.getD (remoteUnavailable eio))
    (hi : s.backend.nextHandle = rt.nextHandle)
    (hn : s'.backend.nextHandle = (RemoteRuntime.execute texts c f rt).2.nextHandle) :
    Leases.Step (ledger ep s) (ledger ep s') := by
  have heffect := @RemoteRuntime.execute_effect texts c f rt
  have hledger : ledger ep s' =
      { (ledger ep s).land {t} (toAnswer reply) with issued := s'.backend.nextHandle } := by
    rw [ledger_answers ha hf.base]
    exact Ledger.ext_of_iff rfl (fun _ => Iff.rfl) (fun _ _ => Iff.rfl) (fun _ _ => Iff.rfl) (fun _ => rfl)
      (fun handle => iff_of_false (hl' handle) (hl handle)) rfl
  rw [hledger]
  refine .elsewhere ⟨c, hf, rfl⟩ hl ?_ fun hq hne => ?_
  · change s.backend.nextHandle ≤ s'.backend.nextHandle
    rw [hi, hn]
    exact heffect.nextHandle_le
  · have hs : c.operation = .subscribe := by
      by_contra hs
      by_cases hu : c.operation = .unsubscribe
      · rw [kind, hu] at hq
        cases hq
      · cases (kind_other hs hu).symm.trans hq
    rcases effect_subscribe heffect hs with ⟨-, hrefused⟩ | ⟨topic, hgranted, hrt⟩
    · rw [he, refused_subscribe hrefused] at hne
      exact absurd rfl hne
    · rw [hgranted] at he
      change decide (reply.error = 0) = true ∧ reply.handle ≤ s'.backend.nextHandle ∧
        s.backend.nextHandle < reply.handle
      rw [hn, hrt, hi, he]
      exact ⟨rfl, le_rfl, Nat.lt_succ_self _⟩

end Commands

end KcfTools.Subscriptions
