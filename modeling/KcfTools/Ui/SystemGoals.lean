import KcfTools.Backend.NetworkExecutors
import KcfTools.Ui.Activities
import KcfTools.Ui.SystemThreads

/-! Goals and cancels through every change of the network: a handle belongs to one goal of one observer, and
every future is answered by the execution of its own command. -/

namespace KcfTools.RemoteSystem

open RemoteWorkspace (Workspace Pending Move Moves Counted Owned Shifts Clicks)
open KcfNetwork (Future Accounted Began Submitted Wired Ran counting)
open RemoteExecutor (Job answers)
open Transitions

variable {texts : ValueCodec.Texts} {s s' : System} {w w' : Workspace} {b b' : KcfNetwork}

section Logs

lemma reply_append (log new : List RemoteExecutor.Notice) (call : ℕ) :
    reply (log ++ new) call = (reply log call).or (reply new call) := List.findSome?_append ..

lemma reply_some {log : List RemoteExecutor.Notice} {call : ℕ} {r : RemoteReply} (h : reply log call = some r) :
    .answered call r ∈ log := by
  obtain ⟨n, hn, hr⟩ := List.exists_of_findSome?_eq_some h
  cases n with
  | answered t r' =>
    simp only at hr
    split_ifs at hr with ht
    obtain rfl := ht
    rwa [← Option.some.inj hr]
  | _ => cases hr

lemma reply_isSome {log : List RemoteExecutor.Notice} {call : ℕ} (h : call ∈ answers log) :
    (reply log call).isSome := by
  obtain ⟨r, hr⟩ := RemoteExecutor.mem_answers.mp h
  exact List.findSome?_isSome_iff.mpr ⟨_, hr, by simp⟩

lemma reply_none {log : List RemoteExecutor.Notice} {call : ℕ} (h : call ∉ answers log) :
    reply log call = none := by
  cases hr : reply log call with
  | none => rfl
  | some r => exact absurd (RemoteExecutor.mem_answers.mpr ⟨r, reply_some hr⟩) h

/-- An observer executed the goal, and its reply gave out the handle. -/
def Gave (b : KcfNetwork) (i : ℕ) (job : Job) (handle : ℕ) : Prop :=
  handle ≠ 0 ∧ ∃ e r, b.executor i = some e ∧ .finished job (some r) ∈ e.log ∧ job.command.operation = .goal ∧
    r.handle = handle

def Goals (b : KcfNetwork) (handle : ℕ) (endpoint : RemoteEndpoint) : Prop :=
  ∃ i e, b.executor i = some e ∧ Began e.log handle endpoint

lemma Goals.gave {handle : ℕ} {endpoint : RemoteEndpoint} (h : Goals b handle endpoint) :
    ∃ i job, Gave b i job handle ∧ job.command.endpoint = endpoint := by
  obtain ⟨i, e, hi, h0, job, r, hm, ho, he, hr⟩ := h
  exact ⟨i, job, ⟨h0, e, r, hi, hm, ho, hr⟩, he⟩

/-- The logs of all executors grow. -/
def Grows (b b' : KcfNetwork) : Prop :=
  ∀ i e, b.executor i = some e → ∃ e' new, b'.executor i = some e' ∧ e'.log = e.log ++ new

lemma Grows.goals (h : Grows b b') (handle : ℕ) (endpoint : RemoteEndpoint) (hg : Goals b handle endpoint) :
    Goals b' handle endpoint := by
  obtain ⟨i, e, hi, hb⟩ := hg
  obtain ⟨e', new, hi', hl⟩ := h i e hi
  exact ⟨i, e', hi', hl ▸ hb.append new⟩

lemma grows_same (he : b'.executor = b.executor) : Grows b b' := fun _ e hi =>
  ⟨e, [], he ▸ hi, (List.append_nil _).symm⟩

lemma grows_update {i : ℕ} {e e' : RemoteExecutor} (hi : b.executor i = some e)
    (he : b'.executor = Function.update b.executor i (some e')) (hl : ∃ new, e'.log = e.log ++ new) :
    Grows b b' := fun j p hj => by
  rw [he, Function.update_apply]
  split_ifs with hji
  · subst hji
    obtain rfl := Option.some.inj (hi.symm.trans hj)
    obtain ⟨new, hl⟩ := hl
    exact ⟨e', new, rfl, hl⟩
  · exact ⟨p, [], hj, (List.append_nil _).symm⟩

lemma grows_ran (h : Ran texts b b') : Grows b b' := by
  cases h with
  | same he _ => exact grows_same he
  | @launched i error hi he _ =>
    intro j p hj
    have hn : j ≠ i := fun hji => by
      rw [hji, hi] at hj
      cases hj
    rw [he, Function.update_of_ne hn]
    exact ⟨p, [], hj, (List.append_nil _).symm⟩
  | stopped hi he _ => exact grows_update hi he ⟨[], (List.append_nil _).symm⟩
  | worked hi he _ =>
    obtain ⟨new, hl, -⟩ := KcfNetwork.work_notices _
    exact grows_update hi he ⟨new, hl⟩

lemma grows_submitRemote (c : RemoteCommand) : Grows b (b.submitRemote c).2 := by
  rcases @KcfNetwork.submitRemote_executor b c with ⟨error, hs⟩ | ⟨i, e, hi, -, he, -⟩
  · rw [hs]
    exact grows_same rfl
  · obtain ⟨new, hl, -⟩ := KcfNetwork.submit_notices e c
    exact grows_update hi he ⟨new, hl⟩

end Logs

section Requests

variable {ok : Pending → RemoteReply → Workspace → Prop}

/-- A request that waits knows the command that it sent. -/
def Named (w : Workspace) : Prop := ∀ entry ∈ w.pending, w.sent[entry.ticket]? = some entry.command

lemma named_move (hm : Move ok w w') (h : Named w) : Named w' := by
  intro entry he
  rcases RemoteWorkspace.move_pending hm with hp | ⟨page, c, -, rfl⟩
  · obtain ⟨new, hnew⟩ := RemoteWorkspace.move_sent hm
    rw [hnew]
    exact Histories.getElem?_earlier (h entry (hp entry he))
  · rcases List.mem_append.mp he with hold | hnew
    · exact Histories.getElem?_earlier (h entry hold)
    · obtain rfl := List.mem_singleton.mp hnew
      exact List.getElem?_concat_length

lemma moves_sent (hm : Moves ok w w') : ∃ new, w'.sent = w.sent ++ new := by
  induction hm with
  | refl => exact ⟨[], (List.append_nil _).symm⟩
  | tail _ hstep ih =>
    obtain ⟨new, hnew⟩ := ih
    obtain ⟨more, hmore⟩ := RemoteWorkspace.move_sent hstep
    exact ⟨new ++ more, by rw [hmore, hnew, List.append_assoc]⟩

end Requests

/-- The networks and the workspace agree on who has which handle. -/
structure Honest (s : System) : Prop where
  orderly : Orderly s
  accounted : Accounted s.backend
  wired : Wired s.backend s.futures s.ui.sent
  counted : Counted s.ui
  named : Named s.ui
  checking : ∀ rest, s.checking = some rest → rest.Sublist s.ui.pending
  owned : Owned (Goals s.backend) s.ui

section Replies

/-- The job of the command, in the executor that took it, has given the reply. -/
def Executed (s : System) (t : ℕ) (r : RemoteReply) : Prop :=
  ∃ i e job, s.futures[t]? = some (.call i job.ticket) ∧ s.backend.executor i = some e ∧
    .finished job (some r) ∈ e.log ∧ s.ui.sent[t]? = some job.command

lemma Honest.ready (h : Honest s) {t : ℕ} {r : RemoteReply} (hr : ready s t = some r) :
    Executed s t r ∨ ∃ error, r = remoteUnavailable error := by
  obtain ⟨future, hf, ha⟩ := Option.bind_eq_some_iff.mp hr
  cases future with
  | ready r' =>
    obtain rfl := Option.some.inj ha
    exact .inr (h.wired.ready t r' hf)
  | call i n =>
    obtain ⟨e, hi, hreply⟩ := Option.bind_eq_some_iff.mp ha
    obtain ⟨o, ho, he⟩ := Option.bind_eq_some_iff.mp hi
    obtain ⟨hsound, hknown⟩ := (h.orderly.lined.calm i o ho).sound e he
    cases hsound.justified n r (reply_some hreply) with
    | @executed c _ hm =>
      obtain ⟨t', hf', hs⟩ := h.wired.called i e _ hi (hknown.finished _ _ hm)
      obtain rfl := h.wired.distinct t t' i n hf hf'
      exact .inl ⟨i, e, _, hf, hi, hm, hs⟩
    | threw _ => exact .inr ⟨_, rfl⟩
    | late _ => exact .inr ⟨_, rfl⟩
    | left _ _ => exact .inr ⟨_, rfl⟩
    | full _ => exact .inr ⟨_, rfl⟩

lemma Honest.records (h : Honest s) {entry : Pending} (he : entry ∈ s.ui.pending) {r : RemoteReply}
    (hr : RemoteSystem.ready s entry.ticket = some r) (ho : entry.command.operation = .goal)
    (h0 : r.handle ≠ 0) :
    Goals s.backend r.handle entry.command.endpoint := by
  rcases h.ready hr with ⟨i, e, job, -, hi, hm, hs⟩ | ⟨error, rfl⟩
  · have hc : entry.command = job.command := Option.some.inj ((h.named entry he).symm.trans hs)
    exact ⟨i, e, hi, h0, job, r, hm, hc ▸ ho, hc ▸ rfl, rfl⟩
  · exact absurd rfl h0

lemma Honest.polled (h : Honest s) {t : ℕ} (ht : s.ui.polling = some t) {r : RemoteReply}
    (hr : RemoteSystem.ready s t = some r) : ∀ a ∈ r.activities, a.topic = false →
      Goals s.backend a.handle a.endpoint := by
  intro a ha htopic
  rcases h.ready hr with ⟨i, e, job, -, hi, hm, hs⟩ | ⟨error, rfl⟩
  · have hc := Option.some.inj ((h.owned.polling t ht).symm.trans hs)
    have ho : job.command.operation = .poll := hc ▸ rfl
    exact ⟨i, e, hi, (h.accounted.accounts i e hi).polls job r hm ho a ha htopic⟩
  · cases ha

end Replies

section Events

/-- The workspace has done something. -/
lemma Honest.sees (h : Honest s) (hm : Moves (fun _ _ _ => True) s.ui s'.ui)
    (ho : Owned (Goals s.backend) s'.ui) (hs : Orderly s') (hb : s'.backend = s.backend)
    (hf : s'.futures = s.futures) (hc : ∀ rest, s'.checking = some rest → rest.Sublist s'.ui.pending) :
    Honest s' where
  orderly := hs
  accounted := hb ▸ h.accounted
  wired := by
    obtain ⟨new, hnew⟩ := moves_sent hm
    rw [hb, hf, hnew]
    exact h.wired.sends new
  counted := chain_invariant (I := Counted) (fun _ _ hstep hi =>
    RemoteWorkspace.counted_move hstep hi) hm h.counted
  named := chain_invariant (I := Named) (fun _ _ hstep hi => named_move hstep hi) hm h.named
  checking := hc
  owned := hb ▸ ho

/-- The threads of the networks have done something. -/
lemma Honest.backend (h : Honest s) {futures : List Future} {c : Option KcfNetwork.Configuration}
    (ha : Accounted b) (hw : Wired b futures s.ui.sent) (hg : Grows s.backend b)
    (ho : Orderly { s with backend := b, futures := futures, configuration := c }) :
    Honest { s with backend := b, futures := futures, configuration := c } where
  orderly := ho
  accounted := ha
  wired := hw
  counted := h.counted
  named := h.named
  checking := h.checking
  owned := h.owned.mono hg.goals

lemma shows_fields (w : Workspace) : (shows s w).ui = w ∧ (shows s w).backend = s.backend ∧
    (shows s w).futures = s.futures ∧ (shows s w).checking = s.checking := by
  unfold shows
  split_ifs <;> exact ⟨rfl, rfl, rfl, rfl⟩

lemma Honest.shows (h : Honest s) (hn : s.checking = none) (hm : Moves (fun _ _ _ => True) s.ui w)
    (ho : Owned (Goals s.backend) w) {c : Option KcfNetwork.Configuration}
    (hs : Orderly (shows { s with configuration := c } w)) :
    Honest (RemoteSystem.shows { s with configuration := c } w) := by
  obtain ⟨hui, hb, hf, hc⟩ := @shows_fields { s with configuration := c } w
  refine h.sees (by rwa [hui]) (by rwa [hui]) hs hb hf fun rest hr => ?_
  rw [hc] at hr
  cases hn.symm.trans hr

lemma Honest.beginTick (h : Honest s) (hn : s.checking = none) : Honest (beginTick s) := by
  have hs := h.orderly.beginTick
  unfold RemoteSystem.beginTick at hs ⊢
  cases hr : returned s with
  | false =>
    simp only [hr, Bool.false_eq_true, false_and, and_false, if_false] at hs ⊢
    refine h.sees (RemoteWorkspace.moves_configured.trans RemoteWorkspace.moves_refresh) ?_ hs rfl rfl ?_
    · have hno : RemoteWorkspace.configured s.ui
          { snapshot := s.backend.getNetworkSnapshot, configured := false } = s.ui := if_neg (by simp)
      rw [hno]
      exact RemoteWorkspace.owned_refresh h.owned _
    · exact fun rest hrest => Option.some.inj hrest ▸ .refl _
  | true =>
    simp only [hr, if_true, true_and] at hs ⊢
    split_ifs at hs ⊢ with hc
    · have hclosing : s.ui.configuring ∧ true = true ∧ s.ui.closing := ⟨hc.1, rfl, hc.2⟩
      refine h.shows hn ?_ (RemoteWorkspace.owned_completes h.owned
        (RemoteWorkspace.completes_closing hclosing)) hs
      exact RemoteWorkspace.moves_tick fun hno => absurd hclosing hno
    · refine h.sees (RemoteWorkspace.moves_configured.trans RemoteWorkspace.moves_refresh) ?_ hs rfl rfl ?_
      · rcases @RemoteWorkspace.configured_cases s.ui
          { snapshot := s.backend.getNetworkSnapshot, configured := true } (fun hno => hc ⟨hno.1, hno.2.2⟩) with
            ⟨-, he⟩ | ⟨-, -, hdone⟩
        · rw [he]
          exact RemoteWorkspace.owned_refresh h.owned _
        · exact RemoteWorkspace.owned_refresh (RemoteWorkspace.owned_completes h.owned hdone) _
      · exact fun rest hrest => Option.some.inj hrest ▸ .refl _

lemma Honest.check (h : Honest s) (hs : Orderly (check s)) : Honest (check s) := by
  revert hs
  unfold RemoteSystem.check
  split
  · intro hs
    rename_i entry rest hchecking
    have hsub := h.checking _ hchecking
    have he : entry ∈ s.ui.pending := hsub.mem List.mem_cons_self
    unfold RemoteWorkspace.receiveReady at hs ⊢
    cases hr : RemoteSystem.ready s entry.ticket with
    | none =>
      simp only [hr] at hs ⊢
      refine h.sees .refl h.owned hs rfl rfl fun rest' hrest => ?_
      obtain rfl := Option.some.inj hrest
      exact (List.sublist_cons_self entry rest).trans hsub
    | some r =>
      simp only [hr] at hs ⊢
      refine h.sees (.single (.receive he trivial)) ?_ hs rfl rfl fun rest' hrest => ?_
      · have hshifts : Shifts (Goals s.backend) True s.ui (RemoteWorkspace.receive s.ui entry r) :=
          RemoteWorkspace.shifts_receive fun hrecords => h.records he hr hrecords.2.1 hrecords.2.2
        exact RemoteWorkspace.owned_shifts h.owned hshifts
      · obtain rfl := Option.some.inj hrest
        rw [RemoteWorkspace.receive_pending]
        have herase := hsub.erase entry
        rwa [List.erase_cons_head] at herase
  · exact fun _ => h

lemma Honest.finishTick (h : Honest s) (hs : Orderly (finishTick s)) : Honest (finishTick s) := by
  revert hs
  unfold RemoteSystem.finishTick
  split
  · intro hs
    refine h.sees ?_ ?_ hs rfl rfl fun rest hrest => by cases hrest
    · exact (RemoteWorkspace.moves_pollReply _).trans
        (RemoteWorkspace.moves_poll.trans RemoteWorkspace.moves_enable)
    · have hshifts : Shifts (Goals s.backend) True s.ui
          (RemoteWorkspace.enable (RemoteWorkspace.poll
            (RemoteWorkspace.pollReply s.ui (RemoteSystem.ready s)))) :=
        (RemoteWorkspace.shifts_pollReply trivial fun t r ht hr => h.polled ht hr).trans
          (RemoteWorkspace.shifts_poll.trans (RemoteWorkspace.shifts_still RemoteWorkspace.still_enable))
      exact RemoteWorkspace.owned_shifts h.owned hshifts
  · exact fun _ => h

lemma honest_next (h : Honest s) (e : Event) : Honest (next texts s e) := by
  have hs : Orderly (next texts s e) := orderly_next h.orderly e
  cases e with
  | click e =>
    simp only [next] at hs ⊢
    split_ifs at hs ⊢ with hb
    · exact h
    rw [not_or] at hb
    have hn : s.checking = none := by
      have hbusy := hb.1
      simp only [busy, Bool.or_eq_true, not_or] at hbusy
      simpa using hbusy.2
    have he : ¬ (read s e).isTick := by
      cases e <;> simp_all [read, RemoteWorkspace.Event.isTick]
    have hclicks : Clicks (Goals s.backend) True s.ui (RemoteWorkspace.step s.ui (read s e)) :=
      RemoteWorkspace.clicks_step he h.orderly.settled.permitted h.orderly.settled.ending
    exact h.shows hn (RemoteWorkspace.moves_step h.counted.asked (RemoteWorkspace.receives_any s.ui _))
      (RemoteWorkspace.owned_clicks h.owned hclicks) hs
  | edit settings =>
    simp only [next] at hs ⊢
    split_ifs at hs ⊢
    · exact h
    · exact h.sees .refl h.owned hs rfl rfl h.checking
  | tick =>
    simp only [next]
    split_ifs with hb
    · exact h
    · apply h.beginTick
      simp only [busy, Bool.or_eq_true, not_or] at hb
      simpa using hb.2
  | check =>
    simp only [next] at hs ⊢
    split_ifs at hs ⊢
    · exact h
    · exact h.check hs
  | finish =>
    simp only [next] at hs ⊢
    split_ifs at hs ⊢
    · exact h
    · exact h.finishTick hs
  | send =>
    revert hs
    simp only [next]
    split
    · exact fun _ => h
    · intro hs
      rename_i c hc
      exact h.backend (h.accounted.submitRemote c) (h.wired.submitRemote hc) (grows_submitRemote c) hs
  | turn i t =>
    have hran : Ran texts s.backend (s.backend.turn texts (leaving s) i t) :=
      KcfNetwork.ran_turn h.orderly.lined.calm (leaving s) i t
    exact h.backend (h.accounted.ran hran) (h.wired.ran hran) (grows_ran hran) hs
  | configure made =>
    revert hs
    simp only [next]
    split
    · exact fun _ => h
    · intro hs
      rename_i c _
      have he := (@KcfNetwork.advance_executor s.backend c made).1
      exact h.backend (h.accounted.advance c made) (h.wired.same he) (grows_same he) hs

end Events

section Runs

lemma opened_accounts (o : Opening) : Accounted (open_ texts o) ∧ Wired (open_ texts o) [] [] := by
  have hblank : Accounted {} ∧ Wired {} [] [] := by
    have hnone : ∀ i, ({} : KcfNetwork).executor i = none := fun i => by simp [KcfNetwork.executor]
    refine ⟨⟨fun i e hi => ?_, fun i e _ _ _ _ _ _ hi => ?_⟩, le_rfl, by simp, by simp, by simp,
      fun i e _ hi => ?_⟩ <;>
      cases (hnone i).symm.trans hi
  unfold open_
  cases o.network with
  | none => exact hblank
  | some options =>
    have hlined : KcfNetwork.Lined {} none := ⟨by simp, by simp, by simp, by simp⟩
    obtain ⟨hexecutor, hhandle⟩ := @KcfNetwork.startNetwork_executor {} options o.made
    have hstart := (hlined.start rfl options o.made).1
    let I (b : KcfNetwork) : Prop := KcfNetwork.Lined b none ∧ Accounted b ∧ Wired b [] []
    have hturn : ∀ b t, I b → I (b.turn texts none 0 t) := fun b t ⟨hl, ha, hw⟩ => by
      have hran : Ran texts b (b.turn texts none 0 t) := KcfNetwork.ran_turn hl.calm none 0 t
      exact ⟨hl.proceeds (KcfNetwork.proceeds_turn none 0 t), ha.ran hran, hw.ran hran⟩
    exact (foldl_invariant (I := I) hturn o.turns _
      ⟨hstart, hblank.1.same hexecutor hhandle, hblank.2.same hexecutor⟩).2

lemma honest_initial (o : Opening) : Honest (initial texts o) := by
  obtain ⟨ha, hw⟩ := @opened_accounts texts o
  refine ⟨orderly_initial o, ha, hw, RemoteWorkspace.sound_blank.counted, ?_, by simp [initial],
    RemoteWorkspace.owned_blank⟩
  exact fun entry he => absurd he List.not_mem_nil

lemma honest_run (o : Opening) (events : List Event) : Honest (run texts o events) := by
  unfold run
  exact foldl_invariant (I := Honest) (fun _ e h => honest_next h e) events _ ((honest_initial o).beginTick rfl)

end Runs

section Attribution

/-- Every handle belongs to one goal, whoever uses it, and a cancel reaches nothing but the action of that
goal. -/
structure Attributed (texts : ValueCodec.Texts) (s : System) : Prop where
  once : ∀ i i' job job' h, Gave s.backend i job h → Gave s.backend i' job' h → i = i' ∧ job = job'
  asked : ∀ i job h, Gave s.backend i job h → job.command ∈ s.ui.sent
  shown : ∀ (h : ℕ) a, s.ui.activities[h]? = some a →
    ∃ i job, Gave s.backend i job h ∧ job.command.endpoint = a.endpoint
  cancels : ∀ c ∈ s.ui.sent, c.operation = .cancel →
    ∃ i job, Gave s.backend i job c.handle ∧ job.command.endpoint = c.endpoint
  reached : ∀ i e job f h, s.backend.executor i = some e → e.worker = .executing job →
    RemoteRuntime.CancelReaches texts job.command f (counting s.backend.nextHandle e).runtime h →
      ∃ goal a, Gave s.backend i goal job.command.handle ∧ goal.command.endpoint = job.command.endpoint ∧
        e.runtime.actions[job.command.handle]? = some a ∧ a.handle = h

lemma Honest.sound (h : Honest s) {i : ℕ} {e : RemoteExecutor} (hi : s.backend.executor i = some e) :
    RemoteExecutor.Sound e ∧ KcfNetwork.Known e := by
  obtain ⟨o, ho, he⟩ := Option.bind_eq_some_iff.mp hi
  exact (h.orderly.lined.calm i o ho).sound e he

lemma Honest.sent (h : Honest s) {i : ℕ} {e : RemoteExecutor} (hi : s.backend.executor i = some e) {job : Job}
    (hj : Submitted e.log job) : job.command ∈ s.ui.sent := by
  obtain ⟨t, -, hs⟩ := h.wired.called i e job hi hj
  exact List.mem_of_getElem? hs

lemma Honest.attributed (h : Honest s) : Attributed texts s := by
  have honce : ∀ i i' job job' k, Gave s.backend i job k → Gave s.backend i' job' k → i = i' ∧ job = job' := by
    rintro i i' job job' k ⟨h0, e, r, hi, hm, -, rfl⟩ ⟨-, e', r', hi', hm', -, hr⟩
    exact h.accounted.once i e i' e' job r job' r' hi hi' hm hm' hr.symm h0
  have hcancels : ∀ c ∈ s.ui.sent, c.operation = .cancel →
      ∃ i job, Gave s.backend i job c.handle ∧ job.command.endpoint = c.endpoint :=
    fun c hc ho => (h.owned.cancels c hc ho).gave
  refine ⟨honce, ?_, fun k a ha => (h.owned.activities k a ha).2.gave, hcancels, ?_⟩
  · rintro i job k ⟨-, e, r, hi, hm, -⟩
    exact h.sent hi ((h.sound hi).2.finished job _ hm)
  · intro i e job f k hi hw hreaches
    obtain ⟨ho, -, -, a, ha, -, hk⟩ := RemoteRuntime.cancelReaches_iff.mp hreaches
    have ha : e.runtime.actions[job.command.handle]? = some a := ha
    have hjob : job ∈ e.worker.jobs ++ e.queue := by
      rw [hw]
      exact List.mem_cons_self
    have hsent := h.sent hi ((h.sound hi).2.jobs job hjob)
    -- the entry of the table and the sender of the cancel know of the same goal
    obtain ⟨h0, goal, r, hm, hgoal, -, hr⟩ := (h.accounted.accounts i e hi).actions _ a ha
    have hgave : Gave s.backend i goal job.command.handle := ⟨h0, e, r, hi, hm, hgoal, hr⟩
    obtain ⟨j, goal', hgave', hendpoint⟩ := hcancels _ hsent ho
    obtain ⟨-, rfl⟩ := honce j i goal' goal _ hgave' hgave
    exact ⟨goal', a, hgave, hendpoint, ha, hk⟩

theorem goals_attributed (texts : ValueCodec.Texts) (o : Opening) (events : List Event) :
    Attributed texts (run texts o events) :=
  (honest_run o events).attributed

end Attribution

section Answers

/-- A command waits only for an observer that still runs, and its reply comes from its own execution. -/
structure Answered (s : System) : Prop where
  waiting : ∀ t < s.futures.length, ready s t = none → ∃ i n, s.futures[t]? = some (.call i n) ∧
    Alive s.backend i
  justified : ∀ t r, ready s t = some r → Executed s t r ∨ ∃ error, r = remoteUnavailable error
  once : ∀ i e job, s.backend.executor i = some e → Submitted e.log job →
    ∃! t : ℕ, s.futures[t]? = some (.call i job.ticket) ∧ s.ui.sent[t]? = some job.command

lemma Honest.answered (h : Honest s) : Answered s := by
  refine ⟨fun t ht hr => ?_, fun t r hr => h.ready hr, fun i e job hi hj => ?_⟩
  · obtain ⟨future, hf⟩ : ∃ future, s.futures[t]? = some future := ⟨_, List.getElem?_eq_getElem ht⟩
    have ha : answer s future = none := by simpa [RemoteSystem.ready, hf] using hr
    cases future with
    | ready r => cases ha
    | call i n =>
      refine ⟨i, n, hf, by_contra fun hn => ?_⟩
      obtain ⟨e, hi, hlt⟩ := h.wired.calls t i n hf
      obtain ⟨o, ho, he⟩ := Option.bind_eq_some_iff.mp hi
      have hcount := (h.orderly.oneNetwork.answered i o e ho hn he).2 n hlt
      have hmem : n ∈ answers e.log := List.count_pos_iff.mp (hcount ▸ Nat.one_pos)
      have hreply : reply e.log n = none := by simpa [answer, hi] using ha
      exact absurd (reply_isSome hmem) (by simp [hreply])
  · obtain ⟨t, hf, hs⟩ := h.wired.called i e job hi hj
    exact ⟨t, ⟨hf, hs⟩, fun t' ht' => h.wired.distinct t' t i _ ht'.1 hf⟩

lemma next_grows (h : Orderly s) (e : Event) : Grows s.backend (next texts s e).backend ∧
    ∃ new, (next texts s e).futures = s.futures ++ new := by
  have hsame : Grows s.backend s.backend ∧ ∃ new, s.futures = s.futures ++ new :=
    ⟨grows_same rfl, [], (List.append_nil _).symm⟩
  cases e with
  | click e =>
    simp only [next]
    split_ifs
    · exact hsame
    · obtain ⟨-, hb, hf, -⟩ := @shows_fields s (RemoteWorkspace.step s.ui (read s e))
      rwa [hb, hf]
  | edit settings =>
    simp only [next]
    split_ifs <;> exact hsame
  | tick =>
    simp only [next]
    split_ifs
    · exact hsame
    · unfold beginTick shows
      simp only
      split_ifs <;> exact hsame
  | check =>
    simp only [next]
    split_ifs
    · exact hsame
    · unfold check
      split <;> exact hsame
  | finish =>
    simp only [next]
    split_ifs
    · exact hsame
    · unfold finishTick
      split <;> exact hsame
  | send =>
    simp only [next]
    split
    · exact hsame
    · exact ⟨grows_submitRemote _, _, rfl⟩
  | turn i t => exact ⟨grows_ran (KcfNetwork.ran_turn h.lined.calm (leaving s) i t), hsame.2⟩
  | configure made =>
    simp only [next]
    split
    · exact hsame
    · exact ⟨grows_same (KcfNetwork.advance_executor _ made).1, hsame.2⟩

lemma ready_grows (hg : Grows s.backend s'.backend) (hf : ∃ new, s'.futures = s.futures ++ new) {t : ℕ}
    {r : RemoteReply} (hr : ready s t = some r) : ready s' t = some r := by
  obtain ⟨new, hf⟩ := hf
  obtain ⟨future, ht, ha⟩ := Option.bind_eq_some_iff.mp hr
  refine Option.bind_eq_some_iff.mpr ⟨future, hf ▸ Histories.getElem?_earlier ht, ?_⟩
  cases future with
  | ready r' => exact ha
  | call i n =>
    obtain ⟨e, hi, hreply⟩ := Option.bind_eq_some_iff.mp ha
    obtain ⟨e', more, hi', hl⟩ := hg i e hi
    refine Option.bind_eq_some_iff.mpr ⟨e', hi', ?_⟩
    rw [hl, reply_append, hreply]
    rfl

/-- What a future holds, it holds for good. -/
theorem commands_answered (texts : ValueCodec.Texts) (o : Opening) (events more : List Event) :
    Answered (run texts o events) ∧
      ∀ t r, ready (run texts o events) t = some r → ready (run texts o (events ++ more)) t = some r := by
  refine ⟨(honest_run o events).answered, fun t r hr => ?_⟩
  unfold run at hr ⊢
  rw [List.foldl_append]
  have hs := @orderly_run texts o events
  unfold run at hs
  generalize events.foldl (next texts) (start texts o) = s at hr hs ⊢
  induction more generalizing s with
  | nil => exact hr
  | cons e more ih =>
    obtain ⟨hg, hf⟩ := next_grows hs e
    exact ih (next texts s e) (ready_grows hg hf hr) (orderly_next hs e)

end Answers

end KcfTools.RemoteSystem
