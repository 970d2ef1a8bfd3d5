import KcfTools.Ui.SubscriptionCalls

/-! The owners of the subscriptions through the turns of the threads and the calls of `SubmitRemote`. -/

namespace KcfTools.Subscriptions

open ControlGate (Observer)
open KcfNetwork (Future Calm connected counting executor_eq executor_set)
open Leases (Request Ledger)
open RemoteExecutor (Job)
open RemoteSystem (System Honest Alive ready reply submitting leaving)
open RemoteWorkspace (Workspace Awaited acquiring returning)

variable {texts : ValueCodec.Texts} {ep : Epoch} {s s' : System} {b b' : KcfNetwork} {o : Observer} {k t : ℕ}
  {c : RemoteCommand} {r : RemoteReply} {D : Set ℕ}

/-- The observer of the epoch comes after the others, and it takes commands of the epoch only. -/
structure Wired (ep : Epoch) (s : System) : Prop where
  sent : s.futures.length ≤ s.ui.sent.length
  length : ep.base ≤ s.futures.length
  calls : ∀ t n : ℕ, s.futures[t]? = some (.call ep.own n) → ep.base ≤ t
  observers : s.backend.observers.length ≤ ep.own + 1
  before : ∀ c, s.configuration = some c → (∀ code, c.stage ≠ .returned code) →
    s.backend.observers.length ≤ ep.own
  failed : Failed (executor ep.own s.backend).runtime

structure Coupled (ep : Epoch) (s : System) : Prop where
  wired : Wired ep s
  leases : Leases.Sound (ledger ep s)

section Own

lemma executor_cases (k : ℕ) (b : KcfNetwork) : executor k b = {} ∨
    ∃ o e, b.observers[k]? = some o ∧ ControlGate.lock o = some e ∧ executor k b = e := by
  unfold executor
  cases ho : b.observers[k]? with
  | none => exact .inl rfl
  | some o =>
    cases hl : ControlGate.lock o with
    | none =>
      left
      change locked o = {}
      rw [locked, hl]
      rfl
    | some e =>
      refine .inr ⟨o, e, rfl, hl, ?_⟩
      change locked o = e
      rw [locked, hl]
      rfl

lemma live_own {handle : ℕ} (h : live ep s handle) :
    ∃ o e, s.backend.observers[ep.own]? = some o ∧ ControlGate.lock o = some e ∧
      executor ep.own s.backend = e := by
  refine (executor_cases ep.own s.backend).resolve_left fun hnone => ?_
  unfold live at h
  rw [hnone] at h
  exact Std.ExtTreeMap.not_mem_empty h

/-- While the epoch's network has a subscription, no other observer runs. -/
lemma alive_own (hs : Honest s) (hw : Wired ep s) {handle : ℕ} (hl : live ep s handle) {i : ℕ}
    (hi : Alive s.backend i) : i = ep.own := by
  obtain ⟨o, -, ho, -⟩ := live_own hl
  have hlt := (List.getElem?_eq_some_iff.mp ho).1
  have hlast := (hs.orderly.alive hi).2
  have hle := hw.observers
  omega

lemma working_own (hs : Honest s) (hw : Wired ep s) {handle : ℕ} (hl : live ep s handle) {i : ℕ}
    {e : RemoteExecutor} (hi : s.backend.executor i = some e) (he : e.worker ≠ .ended) :
    i = ep.own ∧ executor ep.own s.backend = e := by
  obtain ⟨o, ho, hx⟩ := Option.bind_eq_some_iff.mp hi
  have halive : Alive s.backend i :=
    ⟨o, ho, fun hp => he ((hs.orderly.lined.calm i o ho).ended hp e hx).1⟩
  obtain rfl := alive_own hs hw hl halive
  obtain ⟨o', e', ho', hlock, he'⟩ := live_own hl
  obtain rfl := Option.some.inj (ho.symm.trans ho')
  obtain rfl := Option.some.inj (hx.symm.trans (ControlGate.lock_eq hlock))
  exact ⟨rfl, he'⟩

end Own

section Answers

lemma ready_call {i n : ℕ} (hf : s.futures[t]? = some (.call i n)) : ready s t = call s.backend i n := by
  unfold RemoteSystem.ready
  rw [hf]
  rfl

lemma ready_kept (hf : s'.futures = s.futures)
    (h : ∀ i n, s.futures[t]? = some (.call i n) → call s'.backend i n = call s.backend i n) :
    ready s' t = ready s t := by
  cases ht : s.futures[t]? with
  | none =>
    unfold RemoteSystem.ready
    rw [hf, ht]
    rfl
  | some future =>
    cases future with
    | ready r =>
      unfold RemoteSystem.ready
      rw [hf, ht]
      rfl
    | call i n => rw [ready_call ht, ready_call (hf ▸ ht), h i n ht]

/-- The jobs of an executor are commands that have no answer. -/
lemma job_waits (hs : Honest s) {i : ℕ} {e : RemoteExecutor} (hi : s.backend.executor i = some e) {job : Job}
    (hj : job ∈ e.worker.jobs ++ e.queue) : ∃ t : ℕ, s.futures[t]? = some (.call i job.ticket) ∧
      s.ui.sent[t]? = some job.command ∧ ready s t = none := by
  obtain ⟨hsound, hknown⟩ := hs.sound hi
  obtain ⟨t, hf, hc⟩ := hs.wired.called i e job hi (hknown.jobs job hj)
  refine ⟨t, hf, hc, ?_⟩
  rw [ready_call hf, call, hi]
  exact unanswered hsound hj

/-- The tickets of the commands in the queue. -/
def queued (s : System) (i : ℕ) (queue : List Job) : Set ℕ :=
  {t | ∃ job ∈ queue, s.futures[t]? = some (.call i job.ticket)}

lemma answers_dropped (hs : Honest s) {i : ℕ} {e : RemoteExecutor} (hi : s.backend.executor i = some e)
    (hui : s'.ui = s.ui) (hf : s'.futures = s.futures)
    (hl : ∀ j n, call s'.backend j n = if j = i ∧ n ∈ e.queue.map Job.ticket then some r
      else call s.backend j n) : Answers s s' (queued s i e.queue) r where
  ui := hui
  waiting t := by
    rintro ⟨job, hj, ht⟩
    obtain ⟨u, hu, -, hwait⟩ := job_waits hs hi (List.mem_append_right e.worker.jobs hj)
    obtain rfl := hs.wired.distinct t u i job.ticket ht hu
    exact hwait
  landed t := by
    rintro ⟨job, hj, ht⟩
    rw [ready_call (hf ▸ ht), hl, if_pos ⟨rfl, List.mem_map_of_mem hj⟩]
  kept t ht := by
    refine ready_kept hf fun j n hfuture => ?_
    rw [hl, if_neg]
    rintro ⟨rfl, hn⟩
    obtain ⟨job, hj, rfl⟩ := List.mem_map.mp hn
    exact ht ⟨job, hj, hfuture⟩

lemma answers_executed (hs : Honest s) {i : ℕ} {e : RemoteExecutor} (hi : s.backend.executor i = some e)
    {job : Job} (hw : e.worker = .executing job) (hui : s'.ui = s.ui) (hf : s'.futures = s.futures)
    (hl : ∀ j n, call s'.backend j n = if j = i ∧ n = job.ticket then some r else call s.backend j n) :
    ∃ t : ℕ, s.futures[t]? = some (.call i job.ticket) ∧ s.ui.sent[t]? = some job.command ∧
      Answers s s' {t} r := by
  have hjob : job ∈ e.worker.jobs ++ e.queue := by
    rw [hw]
    exact List.mem_cons_self
  obtain ⟨t, ht, hc, hwait⟩ := job_waits hs hi hjob
  refine ⟨t, ht, hc, hui, fun u hu => ?_, fun u hu => ?_, fun u hu => ready_kept hf fun j n hfuture => ?_⟩
  · obtain rfl := Set.mem_singleton_iff.mp hu
    exact hwait
  · obtain rfl := Set.mem_singleton_iff.mp hu
    rw [ready_call (hf ▸ ht), hl, if_pos ⟨rfl, rfl⟩]
  · rw [hl, if_neg]
    rintro ⟨rfl, rfl⟩
    exact hu (hs.wired.distinct u t j job.ticket hfuture ht)

end Answers

section Turns

variable {i : ℕ} {f : RemoteRuntime.Framework}

/-- The queue is dropped, or an Unsubscribe ends by an exception, only if the handle has an owner. -/
structure KeepsWork (ep : Epoch) (s : System) (f : RemoteRuntime.Framework) : Prop where
  dropped : ∀ e, executor ep.own s.backend = e → e.worker = .waiting → e.stopping → ∀ job ∈ e.queue,
    job.command.operation = .unsubscribe → live ep s job.command.handle →
      Owned ep s (queued s ep.own e.queue) job.command.handle
  thrown : ∀ job, (executor ep.own s.backend).worker = .executing job → job.command.operation = .unsubscribe →
    ∀ topic, (executor ep.own s.backend).runtime.subscriptions[job.command.handle]? = some topic →
      f.unsubscribe topic.handle = none →
        ∀ t : ℕ, s.futures[t]? = some (.call ep.own job.ticket) → Owned ep s {t} job.command.handle

/-- The executor is destroyed only if the panel has no handle of it, or waits for the answer to an
Unsubscribe. -/
def KeepsExecutor (ep : Epoch) (s : System) : Prop :=
  ∀ o, s.backend.observers[ep.own]? = some o → (ControlGate.release o).expired → live ep s (held s) →
    ∃ t, returning s.ui t (held s)

lemma Wired.turn (hw : Wired ep s) (hp : KcfNetwork.Proceeds s.backend s'.backend) (hui : s'.ui = s.ui)
    (hf : s'.futures = s.futures) (hc : s'.configuration = s.configuration)
    (hr : Failed (executor ep.own s'.backend).runtime) : Wired ep s' where
  sent := by
    rw [hf, hui]
    exact hw.sent
  length := hf ▸ hw.length
  calls := hf ▸ hw.calls
  observers := hp.length ▸ hw.observers
  before c hconf := hp.length ▸ hw.before c (hc ▸ hconf)
  failed := hr

lemma ledger_live (hui : s'.ui = s.ui) (hready : ∀ t, ready s' t = ready s t)
    (hn : s'.backend.nextHandle = s.backend.nextHandle)
    (hr : (executor ep.own s'.backend).runtime.subscriptions =
      (executor ep.own s.backend).runtime.subscriptions) : ledger ep s' = ledger ep s := by
  have hlive : live ep s' = live ep s := by
    unfold live
    rw [hr]
  rw [ledger_same hui hready, hlive, hn]
  rfl

lemma Coupled.dropped (h : Coupled ep s) (hs : Honest s) (hk : i = ep.own → KeepsWork ep s f)
    {e : RemoteExecutor} (hi : s.backend.executor i = some e) (hw : e.worker = .waiting) (hstop : e.stopping)
    (ha : Answers s s' (queued s i e.queue) (remoteUnavailable ecanceled))
    (hn : s'.backend.nextHandle = s.backend.nextHandle)
    (hr : (executor ep.own s'.backend).runtime.subscriptions =
      (executor ep.own s.backend).runtime.subscriptions) : Leases.Step (ledger ep s) (ledger ep s') := by
  have hlive : live ep s' = live ep s := by
    unfold live
    rw [hr]
  have hledger : ledger ep s' = (ledger ep s).land {t | ep.base ≤ t ∧ t ∈ queued s i e.queue} ⟨0, false⟩ := by
    rw [ha.ledger, hlive, hn]
    rfl
  rw [hledger]
  refine .refused (fun t ht => ?_) ?_
  · change (answered ep s t).map toAnswer = none
    rw [answered, ha.waiting t ht.2]
    split_ifs <;> rfl
  · rintro t ⟨-, job, hj, ht⟩ handle ⟨c, hf, hkind⟩ hl
    obtain ⟨rfl, he⟩ := working_own hs h.wired hl hi (by simp [hw])
    obtain ⟨hu, rfl⟩ := kind_giveBack hkind
    obtain ⟨u, hu', hc, -⟩ := job_waits hs hi (List.mem_append_right e.worker.jobs hj)
    obtain rfl := hs.wired.distinct t u _ job.ticket ht hu'
    obtain rfl := Option.some.inj (hc.symm.trans hf.sent)
    exact ((hk rfl).dropped e he hw hstop job hj hu hl).ledger

lemma Coupled.executed (h : Coupled ep s) (hs : Honest s) (hk : i = ep.own → KeepsWork ep s f)
    {e : RemoteExecutor} {job : Job} (hi : s.backend.executor i = some e) (hw : e.worker = .executing job)
    (ht : s.futures[t]? = some (.call i job.ticket)) (hc : s.ui.sent[t]? = some job.command)
    (ha : Answers s s' {t} ((RemoteRuntime.execute texts job.command f
      (counting s.backend.nextHandle e).runtime).1.getD (remoteUnavailable eio)))
    (hn : s'.backend.nextHandle = (RemoteRuntime.execute texts job.command f
      (counting s.backend.nextHandle e).runtime).2.nextHandle)
    (hr : (ep.own = i ∧ executor ep.own s.backend = e ∧ (executor ep.own s'.backend).runtime =
        (RemoteRuntime.execute texts job.command f (counting s.backend.nextHandle e).runtime).2) ∨
      (ep.own = i → executor ep.own s.backend = {}) ∧
        Same (executor ep.own s.backend).runtime (executor ep.own s'.backend).runtime) :
    Leases.Step (ledger ep s) (ledger ep s') := by
  by_cases hb : ep.base ≤ t
  swap
  · -- a command of an earlier epoch, and not in the epoch's executor
    have hi : ep.own ≠ i := fun hi => hb (h.wired.calls t job.ticket (hi ▸ ht))
    have hsame : Same _ _ := (hr.resolve_left fun hown => hi hown.1).2
    have hlive : live ep s' = live ep s := by
      unfold live
      rw [hsame.subscriptions]
    have hnone : {u | ep.base ≤ u ∧ u ∈ ({t} : Set ℕ)} = ∅ := by
      ext u
      refine iff_of_false (fun hu => ?_) (Set.notMem_empty u)
      exact hb (Set.mem_singleton_iff.mp hu.2 ▸ hu.1)
    have hledger : ledger ep s' = { ledger ep s with issued := s'.backend.nextHandle } := by
      rw [ha.ledger, hnone, hlive]
      exact Ledger.ext_of_iff rfl (fun _ => Iff.rfl) (fun _ _ => Iff.rfl)
        (fun _ _ => and_iff_left (Set.notMem_empty _))
        (fun u => Ledger.land_of_notMem (Set.notMem_empty u)) (fun _ => Iff.rfl) rfl
    rw [hledger]
    refine .raised ?_
    change s.backend.nextHandle ≤ s'.backend.nextHandle
    rw [hn]
    have heffect :=
      @RemoteRuntime.execute_effect texts job.command f (counting s.backend.nextHandle e).runtime
    exact heffect.nextHandle_le
  have hflying : Flying ep s t job.command := ⟨hb, hc, ha.waiting t rfl⟩
  rcases hr with ⟨rfl, he, hruntime⟩ | ⟨hblank, hsame⟩
  · have hexecuted : Executed texts ep s s' t job.command f (counting s.backend.nextHandle e).runtime := by
      refine ⟨hflying, ha, fun handle => ?_, fun handle => ?_, rfl, hn, ?_⟩
      · unfold live
        rw [he]
        rfl
      · unfold live
        rw [hruntime]
      · have hfailed := h.wired.failed
        rw [he] at hfailed
        exact hfailed
    by_cases hu : job.command.operation = .unsubscribe
    · refine hexecuted.unsubscribe hu fun topic htopic hthrown => ?_
      exact (hk rfl).thrown job (he ▸ hw) hu topic (he ▸ htopic) hthrown t ht
    by_cases hsub : job.command.operation = .subscribe
    · exact hexecuted.subscribe hsub
    · exact hexecuted.other hsub hu
  · have hnone : ∀ handle, ¬ live ep s handle := fun handle hl => by
      obtain ⟨hown, -⟩ := working_own hs h.wired hl hi (by simp [hw])
      unfold live at hl
      rw [hblank hown.symm] at hl
      exact Std.ExtTreeMap.not_mem_empty hl
    refine answers_elsewhere hflying ha hnone (fun handle hl => hnone handle ?_) rfl rfl hn
    unfold live at hl ⊢
    rwa [hsame.subscriptions] at hl

/-- What is asked of a turn of the threads of observer `i`. -/
def KeepsTurn (ep : Epoch) (s : System) (i : ℕ) : ControlGate.Event → Prop
  | .work f => i = ep.own → KeepsWork ep s f
  | .release => i = ep.own → KeepsExecutor ep s
  | _ => True

lemma Coupled.turn (h : Coupled ep s) (hs : Honest s) (i : ℕ) (t : ControlGate.Event)
    (hk : KeepsTurn ep s i t) : Coupled ep { s with backend := s.backend.turn texts (leaving s) i t } := by
  have hturned : Turned texts ep.own i t s.backend _ := turned hs.orderly.lined.calm (leaving s) i t
  have hproceeds := @KcfNetwork.proceeds_turn texts s.backend (leaving s) i t
  generalize hs' : { s with backend := s.backend.turn texts (leaving s) i t } = s'
  have hui : s'.ui = s.ui := hs' ▸ rfl
  have hf : s'.futures = s.futures := hs' ▸ rfl
  have hc : s'.configuration = s.configuration := hs' ▸ rfl
  have hb : s.backend.turn texts (leaving s) i t = s'.backend := hs' ▸ rfl
  rw [hb] at hturned hproceeds
  cases hturned with
  | idle hl hn hr =>
    refine ⟨h.wired.turn hproceeds hui hf hc (hr.failed h.wired.failed), ?_⟩
    rw [ledger_live hui (fun u => ready_kept hf fun j n _ => hl j n) hn hr.subscriptions]
    exact h.leases
  | @released o hown ht ho hx hl hn hr =>
    subst ht
    refine ⟨h.wired.turn hproceeds hui hf hc ?_, h.leases.step ?_⟩
    · rw [hr]
      exact fun he => absurd rfl he
    · have hlive : live ep s' = fun _ => False := by
        funext handle
        unfold live
        rw [hr]
        exact eq_false Std.ExtTreeMap.not_mem_empty
      rw [ledger_same hui (fun u => ready_kept hf fun j n _ => hl j n), hlive, hn]
      exact .closed (hk hown.symm o (hown ▸ ho) hx)
  | @dropped e f ht hi hw hstop hl hn hr =>
    subst ht
    refine ⟨h.wired.turn hproceeds hui hf hc (hr.failed h.wired.failed), h.leases.step ?_⟩
    exact h.dropped hs hk hi hw hstop (answers_dropped hs hi hui hf hl) hn hr.subscriptions
  | @executed e f job ht hi hw hl hn hr =>
    subst ht
    obtain ⟨u, hu, hcommand, ha⟩ := answers_executed hs hi hw hui hf hl
    refine ⟨h.wired.turn hproceeds hui hf hc ?_, h.leases.step (h.executed hs hk hi hw hu hcommand ha hn hr)⟩
    rcases hr with ⟨hown, he, hruntime⟩ | ⟨-, hsame⟩
    · have hfailed := h.wired.failed
      rw [he] at hfailed
      rw [hruntime]
      intro herror
      rw [execute_error] at herror
      rw [RemoteRuntime.execute_failed herror]
      exact hfailed herror
    · exact hsame.failed h.wired.failed

end Turns

section Sends

/-- An observer takes the next command into its queue. -/
def Taken (s : System) : Prop :=
  ∃ i o e, connected s.backend = some (i, o) ∧ ControlGate.lock o = some e ∧ ¬ e.stopping ∧ e.queue.length < 32

/-- An Unsubscribe is not taken only if the handle has another owner. -/
def KeepsRoom (ep : Epoch) (s : System) : Prop :=
  ∀ c, submitting s = some c → c.operation = .unsubscribe → live ep s c.handle → ¬ Taken s →
    Owned ep s {s.futures.length} c.handle

/-- The command gets its answer at once, or a call of an executor that has not answered yet. -/
lemma submitRemote_cases (b : KcfNetwork) (c : RemoteCommand) :
    (∃ r, (b.submitRemote c).1 = .ready r ∧ (b.submitRemote c).2 = b ∧ toAnswer r = ⟨0, false⟩ ∧
      (c.operation = .unsubscribe →
        ∀ i o, connected b = some (i, o) → ControlGate.lock o = none)) ∨
    ∃ i o e, connected b = some (i, o) ∧ ControlGate.lock o = some e ∧
      (b.submitRemote c).1 = .call i e.tickets ∧ (b.submitRemote c).2 = { b with
        observers := b.observers.set i { o with executor := some (RemoteExecutor.submit e c) } } := by
  unfold KcfNetwork.submitRemote
  cases hconn : connected b with
  | none =>
    exact .inl ⟨_, rfl, rfl, toAnswer_error rfl (show ControlGate.enotconn ≠ 0 by decide),
      fun _ _ _ h => nomatch h⟩
  | some x =>
    obtain ⟨i, o⟩ := x
    simp only
    unfold ControlGate.submit
    by_cases hg : ¬ o.snapshot.explicitControlIdentity ∧ ¬ ControlGate.readOnly c.operation
    · rw [if_pos hg]
      refine .inl ⟨_, rfl, rfl, toAnswer_error rfl (show ControlGate.eacces ≠ 0 by decide), fun hu => ?_⟩
      rw [hu] at hg
      exact absurd rfl hg.2
    · rw [if_neg hg]
      cases hl : ControlGate.lock o with
      | none =>
        refine .inl ⟨_, rfl, rfl, toAnswer_error rfl (show ControlGate.enotconn ≠ 0 by decide),
          fun _ j p hp => ?_⟩
        obtain ⟨-, rfl⟩ := Prod.mk.inj (Option.some.inj hp)
        exact hl
      | some e =>
        refine .inr ⟨i, o, e, rfl, hl, ?_, rfl⟩
        rw [ControlGate.lock_eq hl]
        rfl

lemma reply_fresh {e : RemoteExecutor} (h : RemoteExecutor.Sound e) {n : ℕ} (hn : e.tickets ≤ n) :
    reply e.log n = none := by
  refine RemoteSystem.reply_none fun ha => ?_
  have hlt := List.mem_range.mp (h.places.mem_iff.mp (List.mem_append_left _ ha))
  omega

/-- A full or stopped executor answers at once. -/
lemma submit_replies {e : RemoteExecutor} (h : RemoteExecutor.Sound e) (c : RemoteCommand) :
    ((¬ e.stopping ∧ e.queue.length < 32) ∧
      ∀ n, reply (RemoteExecutor.submit e c).log n = reply e.log n) ∨
    ∃ r, ¬ (¬ e.stopping ∧ e.queue.length < 32) ∧ toAnswer r = ⟨0, false⟩ ∧
      ∀ n, reply (RemoteExecutor.submit e c).log n = if n = e.tickets then some r else reply e.log n := by
  have hnew : ∀ r n, reply (e.log ++ [.submitted ⟨e.tickets, c⟩ e.stopping e.queue.length] ++
      [.answered e.tickets r]) n = if n = e.tickets then some r else reply e.log n := fun r n => by
    rw [RemoteSystem.reply_append, RemoteSystem.reply_append]
    split_ifs with hn
    · rw [hn, reply_fresh h le_rfl]
      simp [reply]
    · simp [reply, Ne.symm hn]
  unfold RemoteExecutor.submit RemoteExecutor.note
  simp only
  by_cases hs : e.stopping = true
  · rw [if_pos hs]
    exact .inr ⟨_, fun hno => hno.1 hs, toAnswer_error rfl (show ecanceled ≠ 0 by decide), hnew _⟩
  rw [if_neg hs]
  by_cases hq : 32 ≤ e.queue.length
  · rw [if_pos hq]
    exact .inr ⟨_, fun hno => absurd hq (Nat.not_le.mpr hno.2),
      toAnswer_error rfl (show eagain ≠ 0 by decide), hnew _⟩
  · rw [if_neg hq]
    exact .inl ⟨⟨hs, Nat.not_le.mp hq⟩, fun n => (RemoteSystem.reply_append _ [_] n).trans Option.or_none⟩

variable {x : Future}

lemma ready_sent (hf : s'.futures = s.futures ++ [x])
    (hl : ∀ (t : ℕ) i n, s.futures[t]? = some (.call i n) → call s'.backend i n = call s.backend i n) (t : ℕ) :
    ready s' t = if t = s.futures.length then RemoteSystem.answer s' x else ready s t := by
  unfold RemoteSystem.ready
  rw [hf]
  split_ifs with ht
  · rw [ht, List.getElem?_concat_length]
    rfl
  · rcases Nat.lt_or_gt_of_ne ht with hlt | hgt
    · rw [List.getElem?_append_left hlt]
      cases hfuture : s.futures[t]? with
      | none => rfl
      | some future =>
        cases future with
        | ready r => rfl
        | call i n => exact hl t i n hfuture
    · rw [List.getElem?_eq_none (by simp; omega), List.getElem?_eq_none (by omega)]
      rfl

lemma waits_last (s : System) : ready s s.futures.length = none := by
  unfold RemoteSystem.ready
  rw [List.getElem?_eq_none le_rfl]
  rfl

lemma Wired.send (hw : Wired ep s) (hs : submitting s = some c) (hui : s'.ui = s.ui)
    (hf : s'.futures = s.futures ++ [x]) (hlength : s'.backend.observers.length = s.backend.observers.length)
    (hc : s'.configuration = s.configuration) (hr : Failed (executor ep.own s'.backend).runtime) :
    Wired ep s' where
  sent := by
    rw [hf, hui, List.length_append]
    exact (List.getElem?_eq_some_iff.mp hs).1
  length := by
    rw [hf, List.length_append]
    exact hw.length.trans (Nat.le_add_right _ _)
  calls t n ht := by
    rw [hf] at ht
    rcases Histories.getElem?_snoc ht with hold | ⟨rfl, -⟩
    · exact hw.calls t n hold
    · exact hw.length
  observers := hlength ▸ hw.observers
  before c hconf := hlength ▸ hw.before c (hc ▸ hconf)
  failed := hr

/-- A command that is not taken has its answer. -/
lemma Coupled.refused (h : Coupled ep s) (hc : submitting s = some c) (hk : KeepsRoom ep s)
    (ht : c.operation = .unsubscribe → ¬ Taken s) (hui : s'.ui = s.ui)
    (hready : ∀ t, ready s' t = if t = s.futures.length then some r else ready s t)
    (hr : toAnswer r = ⟨0, false⟩) (hn : s'.backend.nextHandle = s.backend.nextHandle)
    (hlive : live ep s' = live ep s) : Leases.Step (ledger ep s) (ledger ep s') := by
  have ha : Answers s s' {s.futures.length} r := by
    refine ⟨hui, fun t ht => ?_, fun t ht => ?_, fun t ht => ?_⟩
    · rw [Set.mem_singleton_iff.mp ht]
      exact waits_last s
    · rw [hready, if_pos (Set.mem_singleton_iff.mp ht)]
    · rw [hready, if_neg fun he => ht (Set.mem_singleton_iff.mpr he)]
  have hledger : ledger ep s' = (ledger ep s).land {s.futures.length} ⟨0, false⟩ := by
    rw [ledger_answers ha h.wired.length, hr, hlive, hn]
    rfl
  rw [hledger]
  refine .refused (fun t ht => ?_) fun t ht' handle ⟨c', hf, hkind⟩ hl => ?_
  · rw [Set.mem_singleton_iff.mp ht]
    change (answered ep s s.futures.length).map toAnswer = none
    rw [answered, waits_last]
    split_ifs <;> rfl
  · obtain rfl := Set.mem_singleton_iff.mp ht'
    obtain rfl := Option.some.inj (hc.symm.trans hf.sent)
    obtain ⟨hu, rfl⟩ := kind_giveBack hkind
    apply (hk c hc hu hl (ht hu)).imp_right
    rintro ⟨u, hne, c', hf', hu', hh⟩
    exact ⟨u, hne, c', hf', by rw [kind, hu', hh]⟩

lemma Coupled.send (h : Coupled ep s) (hs : Honest s) (hc : submitting s = some c) (hk : KeepsRoom ep s) :
    Coupled ep (RemoteSystem.submit s c) := by
  have hcases := submitRemote_cases s.backend c
  generalize hs' : RemoteSystem.submit s c = s'
  have hui : s'.ui = s.ui := hs' ▸ rfl
  have hb : s'.backend = (s.backend.submitRemote c).2 := hs' ▸ rfl
  have hf : s'.futures = s.futures ++ [(s.backend.submitRemote c).1] := hs' ▸ rfl
  have hconf : s'.configuration = s.configuration := hs' ▸ rfl
  rcases hcases with ⟨r, hfuture, hbackend, hr, hlock⟩ | ⟨i, o, e, hconn, hlock, hfuture, hbackend⟩
  · rw [hfuture] at hf
    rw [hbackend] at hb
    have hready := ready_sent (s := s) hf fun _ _ _ _ => by rw [hb]
    have hlive : live ep s' = live ep s := by
      unfold live
      rw [hb]
    refine ⟨h.wired.send hc hui hf (by rw [hb]) hconf (hb ▸ h.wired.failed), h.leases.step ?_⟩
    refine h.refused hc hk (fun hu => ?_) hui hready hr (by rw [hb]) hlive
    rintro ⟨i, o, e, hconn, he, -⟩
    cases (hlock hu i o hconn).symm.trans he
  have ho := (KcfNetwork.connected_some hconn).2
  have he := ControlGate.lock_eq hlock
  have hi : s.backend.executor i = some e := (executor_eq ho).trans he
  have hcall : ∀ j m, call s'.backend j m =
      if j = i then reply (RemoteExecutor.submit e c).log m else call s.backend j m := by
    rw [hb, hbackend]
    exact call_update ho s.backend.nextHandle
  have hexecutor : executor ep.own s'.backend = if ep.own = i then RemoteExecutor.submit e c
      else executor ep.own s.backend := by
    have hlocked : locked { o with executor := some (RemoteExecutor.submit e c) } =
        RemoteExecutor.submit e c := by
      unfold ControlGate.lock at hlock
      unfold locked ControlGate.lock
      split_ifs at hlock ⊢
      rfl
    rw [hb, hbackend]
    apply (executor_update ho s.backend.nextHandle).trans
    rw [hlocked]
  have hsame : Same (executor ep.own s.backend).runtime (executor ep.own s'.backend).runtime := by
    rw [hexecutor]
    split_ifs with hown
    · have hbefore : executor ep.own s.backend = e := by
        rw [hown, executor_of ho, locked, hlock]
        rfl
      rw [hbefore, (@KcfNetwork.submit_fields e c).2.2.2]
      exact .refl _
    · exact .refl _
  have hlive : live ep s' = live ep s := by
    unfold live
    rw [hsame.subscriptions]
  have hn : s'.backend.nextHandle = s.backend.nextHandle := by rw [hb, hbackend]
  have hwired : Wired ep s' := by
    refine h.wired.send hc hui hf ?_ hconf (hsame.failed h.wired.failed)
    rw [hb, hbackend]
    exact List.length_set
  rw [hfuture] at hf
  -- the calls before this one have other numbers
  have hold : (∀ n, n ≠ e.tickets → reply (RemoteExecutor.submit e c).log n = reply e.log n) →
      ∀ (t : ℕ) j n, s.futures[t]? = some (.call j n) → call s'.backend j n = call s.backend j n := by
    intro hlog t j n ht
    rw [hcall]
    split_ifs with hj
    · subst hj
      obtain ⟨e', hi', hlt⟩ := hs.wired.calls t j n ht
      obtain rfl := Option.some.inj (hi.symm.trans hi')
      rw [hlog n hlt.ne, call, hi]
      rfl
    · rfl
  have hlast : RemoteSystem.answer s' (.call i e.tickets) =
      reply (RemoteExecutor.submit e c).log e.tickets := by
    change call s'.backend i e.tickets = _
    rw [hcall, if_pos rfl]
  have hsound := (hs.sound hi).1
  rcases submit_replies hsound c with ⟨-, hlog⟩ | ⟨r, hfull, hr, hlog⟩
  · have hready : ∀ t, ready s' t = ready s t := fun t => by
      rw [ready_sent hf (hold fun n _ => hlog n) t, hlast, hlog, reply_fresh hsound le_rfl]
      split_ifs with ht
      · rw [ht, waits_last]
      · rfl
    refine ⟨hwired, ?_⟩
    rw [ledger_live hui hready hn hsame.subscriptions]
    exact h.leases
  · have hready : ∀ t, ready s' t = if t = s.futures.length then some r else ready s t := fun t => by
      rw [ready_sent hf (hold fun n hne => by rw [hlog, if_neg hne]) t, hlast, hlog, if_pos rfl]
    refine ⟨hwired, h.leases.step (h.refused hc hk (fun _ => ?_) hui hready hr hn hlive)⟩
    rintro ⟨j, p, e', hconn', hlock', htaken⟩
    obtain ⟨rfl, rfl⟩ := Prod.mk.inj (Option.some.inj (hconn.symm.trans hconn'))
    obtain rfl := Option.some.inj (hlock.symm.trans hlock')
    exact hfull htaken

end Sends

end KcfTools.Subscriptions
