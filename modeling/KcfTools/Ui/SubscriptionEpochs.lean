import KcfTools.Ui.SubscriptionOwners

/-! The owners of the subscriptions along the runs of one epoch. -/

namespace KcfTools.Subscriptions

open KcfNetwork (Calm Lined Configuration)
open RemoteSystem (System Opening Event Honest Orderly ready submitting leaving returned next run open_ initial)
open RemoteWorkspace hiding Event run
open Transitions

variable {texts : ValueCodec.Texts} {ep : Epoch} {s s' : System} {w w' : Workspace} {entry : Pending}
  {r : RemoteReply} {ok : Pending → RemoteReply → Workspace → Prop}

section Steps

/-- A granted handle finds its peer current just if the epoch's runtime has it, unless the page has been
selected or cleared since; a page with a handle that is gone hears of it. -/
def KeepsUp (ep : Epoch) (s : System) : Prop :=
  ∀ entry rest r, s.checking = some (entry :: rest) → ready s entry.ticket = some r → entry.epoch = s.ui.epoch →
    (entry.command.operation = .subscribe → entry.revision = (s.ui.panels .topic).revision → r.handle ≠ 0 →
      (current s.ui entry.command.endpoint ↔ live ep s r.handle)) ∧
    (entry.command.operation = .unsubscribe → held s = entry.command.handle → entry.command.handle ≠ 0 →
      ¬ live ep s entry.command.handle → r.error = 0 ∧ entry.revision = (s.ui.panels .topic).revision)

def Meets (ep : Epoch) (s : System) : Event → Prop
  | .send => KeepsRoom ep s
  | .turn i t => KeepsTurn ep s i t
  | .check => KeepsUp ep s
  | _ => True

/-- What holds in every epoch. -/
structure Regular (s : System) : Prop where
  honest : Honest s
  tidy : Tidy s.ui
  past : Past s.ui

lemma moves_beginTick : Moves ok s.ui (RemoteSystem.beginTick s).ui := by
  unfold RemoteSystem.beginTick
  cases returned s with
  | false =>
    simp only [Bool.false_eq_true, if_false, false_and, and_false]
    exact moves_configured.trans moves_refresh
  | true =>
    simp only [if_true, true_and]
    split_ifs with hc
    · rw [(RemoteSystem.shows_fields _).1]
      exact moves_tick fun hr => absurd ⟨hc.1, rfl, hc.2⟩ hr
    · exact moves_configured.trans moves_refresh

lemma moves_finishTick : Moves ok s.ui (RemoteSystem.finishTick s).ui := by
  unfold RemoteSystem.finishTick
  split
  · exact (moves_pollReply _).trans (moves_poll.trans moves_enable)
  · exact .refl

lemma moves_check (h : Honest s) : Moves (fun _ _ _ => True) s.ui (RemoteSystem.check s).ui := by
  unfold RemoteSystem.check
  split
  · rename_i entry rest hchecking
    have he : entry ∈ s.ui.pending := (h.checking _ hchecking).mem List.mem_cons_self
    change Moves _ s.ui (receiveReady (ready s) s.ui entry)
    unfold receiveReady
    split
    · exact .refl
    · exact .single (.receive he trivial)
  · exact .refl

lemma moves_next (h : Honest s) (e : Event) : Moves (fun _ _ _ => True) s.ui (next texts s e).ui := by
  cases e with
  | click e =>
    simp only [next]
    split_ifs
    · exact .refl
    · rw [(RemoteSystem.shows_fields _).1]
      exact moves_step h.counted.asked (receives_any s.ui _)
  | edit settings =>
    simp only [next]
    split_ifs <;> exact .refl
  | tick =>
    simp only [next]
    split_ifs
    · exact .refl
    · exact moves_beginTick
  | check =>
    simp only [next]
    split_ifs
    · exact .refl
    · exact moves_check h
  | finish =>
    simp only [next]
    split_ifs
    · exact .refl
    · exact moves_finishTick
  | send =>
    simp only [next]
    split <;> exact .refl
  | turn i t => exact .refl
  | configure made =>
    simp only [next]
    split <;> exact .refl

lemma regular_next (h : Regular s) (e : Event) : Regular (next texts s e) where
  honest := RemoteSystem.honest_next h.honest e
  tidy := tidy_moves (moves_next h.honest e) h.tidy
  past := chain_invariant (I := Past) (fun _ _ hm hp => past_move hm hp) (moves_next h.honest e) h.past

lemma Coupled.keep (h : Coupled ep s) (hui : s'.ui = s.ui) (hb : s'.backend = s.backend)
    (hf : s'.futures = s.futures) (hc : s'.configuration = s.configuration ∨ s'.configuration = none) :
    Coupled ep s' where
  wired := by
    refine ⟨?_, hf ▸ h.wired.length, hf ▸ h.wired.calls, hb ▸ h.wired.observers, fun c hconf => ?_,
      hb ▸ h.wired.failed⟩
    · rw [hui, hf]
      exact h.wired.sent
    · rcases hc with hc | hc
      · exact hb ▸ h.wired.before c (hc ▸ hconf)
      · cases hc.symm.trans hconf
  leases := by
    rw [ledger_live hui (fun t => ready_kept hf fun _ _ _ => by rw [hb]) (by rw [hb]) (by rw [hb])]
    exact h.leases

lemma Steady.keep (h : Steady ep s) (hui : s'.ui = s.ui) (hb : s'.backend = s.backend)
    (hf : s'.futures = s.futures) (hc : s'.configuration = s.configuration ∨ s'.configuration = none) :
    Steady ep s' where
  coupled := h.coupled.keep hui hb hf hc
  recent := by
    rw [hui]
    exact h.recent

lemma Steady.answered (hr : Regular s) (h : Steady ep s) {rest : List Pending} (hk : KeepsUp ep s)
    (hchecking : s.checking = some (entry :: rest)) (hready : ready s entry.ticket = some r) :
    Coupled ep { s with ui := receive s.ui entry r } := by
  have he : entry ∈ s.ui.pending := (hr.honest.checking _ hchecking).mem List.mem_cons_self
  have hanswered : ∀ o, Awaited s.ui o entry → Subscriptions.answered ep s entry.ticket = some r := by
    intro o ha
    have hbase := h.recent entry he ha.epoch ha.page
    rwa [Subscriptions.answered, if_neg (Nat.not_lt.mpr hbase)]
  by_cases hs : Awaited s.ui .subscribe entry
  · have hcurrent := (hk entry rest r hchecking hready hs.epoch).1 hs.operation
    exact h.coupled.subscribed hr.tidy (hanswered _ hs) hs hcurrent
  by_cases hu : Awaited s.ui .unsubscribe entry
  · have hgone := (hk entry rest r hchecking hready hu.epoch).2 hu.operation
    exact h.coupled.unsubscribed hr.tidy (hanswered _ hu) hu hgone
  · exact h.coupled.unrelated hr.tidy he hs hu

lemma steady_check (hr : Regular s) (h : Steady ep s) (hk : KeepsUp ep s) :
    Steady ep (RemoteSystem.check s) := by
  unfold RemoteSystem.check
  split
  · rename_i entry rest hchecking
    unfold receiveReady
    cases hready : ready s entry.ticket with
    | none => exact h.keep rfl rfl rfl (.inl rfl)
    | some r =>
      have hsteady : Steady ep { s with ui := receive s.ui entry r } := by
        refine ⟨h.answered hr hk hchecking hready, fun it hm hepoch hp => ?_⟩
        change it ∈ (receive s.ui entry r).pending at hm
        change it.epoch = (receive s.ui entry r).epoch at hepoch
        rw [receive_pending] at hm
        rw [receive_epoch] at hepoch
        exact h.recent it (List.mem_of_mem_erase hm) hepoch hp
      exact hsteady.keep rfl rfl rfl (.inl rfl)
  · exact h

lemma steady_shows (hr : Regular s) (h : Steady ep s) (hm : Moves (fun _ _ _ => False) s.ui w)
    (hc : s'.configuration = s.configuration ∨ s'.configuration = none) (hui : s'.ui = s.ui)
    (hb : s'.backend = s.backend) (hf : s'.futures = s.futures)
    (he : (RemoteSystem.shows s' w).ui.epoch = s.ui.epoch) : Steady ep (RemoteSystem.shows s' w) := by
  rw [(RemoteSystem.shows_fields w).1] at he
  unfold RemoteSystem.shows
  rw [if_pos (hui ▸ he)]
  exact (steady_moves hm he hr.tidy h).keep rfl hb hf hc

lemma steady_beginTick (hr : Regular s) (h : Steady ep s)
    (he : (RemoteSystem.beginTick s).ui.epoch = s.ui.epoch) : Steady ep (RemoteSystem.beginTick s) := by
  unfold RemoteSystem.beginTick at he ⊢
  cases hreturned : returned s with
  | false =>
    simp only [hreturned, Bool.false_eq_true, if_false, false_and, and_false] at he ⊢
    exact (steady_moves (moves_configured.trans moves_refresh) he hr.tidy h).keep rfl rfl rfl (.inl rfl)
  | true =>
    simp only [hreturned, if_true, true_and] at he ⊢
    split_ifs at he ⊢ with hc
    · exact steady_shows hr h (moves_tick fun hno => absurd ⟨hc.1, rfl, hc.2⟩ hno) (.inr rfl) rfl rfl rfl he
    · exact (steady_moves (moves_configured.trans moves_refresh) he hr.tidy h).keep rfl rfl rfl (.inr rfl)

lemma executor_startNetwork (k : ℕ) (b : KcfNetwork) (options : KcfNetwork.NetworkOptions) (made : Bool) :
    executor k (b.startNetwork options made).2 = executor k b ∧
      (b.startNetwork options made).2.observers.length ≤ b.observers.length + 1 := by
  unfold KcfNetwork.startNetwork
  split_ifs
  · exact ⟨rfl, Nat.le_succ _⟩
  · refine ⟨?_, List.length_append.le⟩
    unfold executor
    rcases Nat.lt_trichotomy k b.observers.length with hlt | rfl | hgt
    · rw [List.getElem?_append_left hlt]
    · rw [List.getElem?_concat_length, List.getElem?_eq_none le_rfl]
      rfl
    · rw [List.getElem?_eq_none (by simp; omega), List.getElem?_eq_none (by omega)]
  · exact ⟨rfl, Nat.le_succ _⟩

/-- A step of `ConfigureNetwork` makes no observer but the epoch's own. -/
lemma advance_cases (k : ℕ) (b : KcfNetwork) (c : Configuration) (made : Bool) :
    executor k (b.advance c made).2 = executor k b ∧
    ((b.advance c made).2.observers.length = b.observers.length ∧
        ((∃ code, c.stage = .returned code) → (b.advance c made).1 = c) ∨
      (∃ code, (b.advance c made).1.stage = .returned code) ∧ (∀ code, c.stage ≠ .returned code) ∧
        (b.advance c made).2.observers.length ≤ b.observers.length + 1) := by
  unfold KcfNetwork.advance
  cases hs : c.stage with
  | stopping => exact ⟨rfl, .inl ⟨rfl, fun ⟨_, hc⟩ => nomatch hc⟩⟩
  | joining old =>
    simp only
    split_ifs
    · exact ⟨rfl, .inl ⟨rfl, fun ⟨_, hc⟩ => nomatch hc⟩⟩
    · exact ⟨rfl, .inl ⟨rfl, fun _ => rfl⟩⟩
  | storing => exact ⟨rfl, .inl ⟨rfl, fun ⟨_, hc⟩ => nomatch hc⟩⟩
  | starting =>
    obtain ⟨he, hl⟩ := executor_startNetwork k b c.options made
    exact ⟨he, .inr ⟨⟨_, rfl⟩, fun _ hc => (nomatch hc), hl⟩⟩
  | returned code => exact ⟨rfl, .inl ⟨rfl, fun _ => rfl⟩⟩

lemma Steady.configure (h : Steady ep s) {c : Configuration} (hc : s.configuration = some c) (made : Bool) :
    Steady ep { s with
      backend := (s.backend.advance c made).2, configuration := some (s.backend.advance c made).1 } := by
  have hw := h.coupled.wired
  obtain ⟨hexecutor, hcases⟩ := advance_cases ep.own s.backend c made
  obtain ⟨hcalls, hn⟩ := @KcfNetwork.advance_executor s.backend c made
  refine ⟨⟨⟨hw.sent, hw.length, hw.calls, ?_, fun c' hc' hno => ?_, ?_⟩, ?_⟩, h.recent⟩
  · rcases hcases with ⟨hl, -⟩ | ⟨-, hno, hl⟩
    · exact hl ▸ hw.observers
    · exact hl.trans (Nat.succ_le_succ (hw.before c hc hno))
  · obtain rfl := Option.some.inj hc'
    rcases hcases with ⟨hl, hsame⟩ | ⟨⟨code, hcode⟩, -⟩
    · refine hl ▸ hw.before c hc fun code hcode => ?_
      rw [hsame ⟨code, hcode⟩] at hno
      exact hno code hcode
    · exact absurd hcode (hno code)
  · rw [hexecutor]
    exact hw.failed
  · generalize hs' : { s with
      backend := (s.backend.advance c made).2, configuration := some (s.backend.advance c made).1 } = s'
    have hb : s'.backend = (s.backend.advance c made).2 := hs' ▸ rfl
    have hui : s'.ui = s.ui := hs' ▸ rfl
    have hf : s'.futures = s.futures := hs' ▸ rfl
    have hready : ∀ t, ready s' t = ready s t := fun t => ready_kept hf fun j n _ => by
      rw [hb, call, hcalls, call]
    rw [ledger_live hui hready (hb ▸ hn) (by rw [hb, hexecutor])]
    exact h.coupled.leases

lemma steady_next (hr : Regular s) (h : Steady ep s) (e : Event) (hm : Meets ep s e)
    (he : (next texts s e).ui.epoch = s.ui.epoch) : Steady ep (next texts s e) := by
  cases e with
  | click e =>
    simp only [next] at he ⊢
    split_ifs at he ⊢ with hc
    · exact h
    · refine steady_shows hr h (moves_step hr.tidy.counted.asked ?_) (.inl rfl) rfl rfl rfl he
      cases e with
      | tick input => simp [RemoteWorkspace.Event.isTick] at hc
      | _ => trivial
  | edit settings =>
    simp only [next]
    split_ifs
    · exact h
    · exact h.keep rfl rfl rfl (.inl rfl)
  | tick =>
    simp only [next] at he ⊢
    split_ifs at he ⊢
    · exact h
    · exact steady_beginTick hr h he
  | check =>
    simp only [next]
    split_ifs
    · exact h
    · exact steady_check hr h hm
  | finish =>
    simp only [next] at he ⊢
    split_ifs at he ⊢
    · exact h
    · have hmoves := steady_moves (moves_finishTick (s := s)) he hr.tidy h
      unfold RemoteSystem.finishTick at hmoves ⊢
      split at hmoves
      · exact hmoves.keep rfl rfl rfl (.inl rfl)
      · exact h
  | send =>
    simp only [next]
    split
    · exact h
    · rename_i c hc
      exact ⟨h.coupled.send hr.honest hc hm, h.recent⟩
  | turn i t => exact ⟨h.coupled.turn hr.honest i t hm, h.recent⟩
  | configure made =>
    simp only [next]
    split
    · exact h
    · exact h.configure ‹_› made

end Steps

section Begins

/-- A new epoch begins while nothing is being submitted. -/
structure Renewed (s s' : System) : Prop where
  ui : Renews s.ui s'.ui
  backend : s'.backend = s.backend
  futures : s'.futures = s.futures
  submitting : submitting s = none

lemma submitting_of_idle (hb : ¬ RemoteSystem.busy s) : submitting s = none := by
  simp only [RemoteSystem.busy, Bool.or_eq_true, not_or] at hb
  simpa using hb.1

lemma renewed_shows {s₁ : System} (hr : w.epoch = s.ui.epoch ∨ Renews s.ui w) (hb : ¬ RemoteSystem.busy s)
    (hbackend : s₁.backend = s.backend) (hf : s₁.futures = s.futures) :
    (RemoteSystem.shows s₁ w).ui.epoch = s.ui.epoch ∨ Renewed s (RemoteSystem.shows s₁ w) := by
  obtain ⟨hw, hb', hf', -⟩ := @RemoteSystem.shows_fields s₁ w
  rw [hw]
  refine hr.imp_right fun hr => ⟨?_, hb'.trans hbackend, hf'.trans hf, submitting_of_idle hb⟩
  rw [hw]
  exact hr

lemma renewed_beginTick (hb : ¬ RemoteSystem.busy s) :
    (RemoteSystem.beginTick s).ui.epoch = s.ui.epoch ∨ Renewed s (RemoteSystem.beginTick s) := by
  have hrefresh : ∀ v input, (refresh (RemoteWorkspace.configured v input) input).epoch = v.epoch :=
    fun v input => by
      have hv : (RemoteWorkspace.configured v input).epoch = v.epoch := by
        unfold RemoteWorkspace.configured
        split_ifs <;> rfl
      exact (RemoteSystem.unchanged_shifts shifts_refresh).epoch.trans hv
  unfold RemoteSystem.beginTick
  cases returned s with
  | false =>
    simp only [Bool.false_eq_true, if_false, false_and, and_false]
    exact .inl (hrefresh _ _)
  | true =>
    simp only [if_true, true_and]
    split_ifs with hc
    · refine renewed_shows ?_ hb rfl rfl
      have hdone : Completes s.ui
          (RemoteWorkspace.tick s.ui ⟨s.backend.getNetworkSnapshot, fun _ => none, true⟩) :=
        completes_closing ⟨hc.1, rfl, hc.2⟩
      generalize RemoteWorkspace.tick s.ui _ = w' at hdone ⊢
      cases hdone with
      | done _ hn => exact absurd hc.2 hn
      | ended => exact .inl rfl
      | again => exact .inr ⟨{ s.ui with configuring := false }, true, rfl, rfl, rfl, rfl⟩
    · exact .inl (hrefresh _ _)

lemma renewed_next (h : Regular s) (e : Event) :
    (next texts s e).ui.epoch = s.ui.epoch ∨ Renewed s (next texts s e) := by
  cases e with
  | click e =>
    simp only [next]
    split_ifs with hc
    · exact .inl rfl
    · rw [not_or] at hc
      refine renewed_shows (renews_step ?_ h.honest.orderly.settled.permitted) hc.1 rfl rfl
      cases e <;> simp_all [RemoteSystem.read, RemoteWorkspace.Event.isTick]
  | edit settings =>
    simp only [next]
    split_ifs <;> exact .inl rfl
  | tick =>
    simp only [next]
    split_ifs with hb
    · exact .inl rfl
    · exact renewed_beginTick hb
  | check =>
    left
    simp only [next]
    split_ifs
    · rfl
    unfold RemoteSystem.check receiveReady
    split
    · simp only
      split
      · rfl
      · exact receive_epoch
    · rfl
  | finish =>
    left
    simp only [next]
    split_ifs
    · rfl
    unfold RemoteSystem.finishTick
    split
    · refine (RemoteSystem.unchanged_shifts ?_).epoch
      exact (shifts_pollReply trivial fun _ _ _ _ _ _ _ => trivial).trans
        (shifts_poll.trans (shifts_still still_enable))
    · rfl
  | send =>
    left
    simp only [next]
    split <;> rfl
  | turn i t => exact .inl rfl
  | configure made =>
    left
    simp only [next]
    split <;> rfl

lemma steady_renewed (h : Regular s) (hr : Renewed s s') :
    Steady ⟨s'.ui.sent.length, s'.backend.observers.length⟩ s' := by
  have hsent : s'.ui.sent.length ≤ s'.futures.length := by
    rw [hr.ui.sent, hr.futures]
    exact List.getElem?_eq_none_iff.mp hr.submitting
  have hnone : s'.backend.observers[s'.backend.observers.length]? = none := List.getElem?_eq_none le_rfl
  have hblank : executor s'.backend.observers.length s'.backend = {} := by
    unfold executor
    rw [hnone]
    rfl
  have hpending : ∀ entry ∈ s'.ui.pending, entry.epoch ≠ s'.ui.epoch :=
    fun entry he => hr.ui.pending h.past he
  refine ⟨⟨⟨?_, hsent, fun t n ht => ?_, Nat.le_succ _, fun _ _ _ => le_rfl, ?_⟩, ?_⟩,
    fun entry he hepoch => absurd hepoch (hpending entry he)⟩
  · rw [hr.ui.sent, hr.futures]
    exact h.honest.wired.length
  · rw [hr.futures] at ht
    obtain ⟨e, hi, -⟩ := h.honest.wired.calls t _ n ht
    rw [← hr.backend, KcfNetwork.executor, hnone] at hi
    cases hi
  · rw [hblank]
    exact fun he => absurd rfl he
  · refine .start (hr.ui.panels .topic) (fun handle hl => ?_) ?_ ?_ ?_
    · change handle ∈ (executor s'.backend.observers.length s'.backend).runtime.subscriptions at hl
      rw [hblank] at hl
      exact Std.ExtTreeMap.not_mem_empty hl
    · rintro t q ⟨c, hf, -⟩
      exact absurd (List.getElem?_eq_some_iff.mp hf.sent).1 (Nat.not_lt.mpr hf.base)
    · rintro t ⟨entry, ha, -⟩
      exact hpending entry ha.pending ha.epoch
    · rintro t handle ⟨entry, ha, -⟩
      exact hpending entry ha.pending ha.epoch

/-- No command has been submitted to the network that the program begins with. -/
lemma opened_blank (o : Opening) : (open_ texts o).observers.length ≤ 1 ∧
    ∀ k handle, handle ∉ (executor k (open_ texts o)).runtime.subscriptions := by
  have hblank : ∀ k handle, handle ∉ (executor k {}).runtime.subscriptions := fun k handle => by
    have hnone : executor k {} = {} := by
      unfold executor
      rw [List.getElem?_nil]
      rfl
    rw [hnone]
    exact Std.ExtTreeMap.not_mem_empty
  unfold open_
  cases o.network with
  | none => exact ⟨Nat.zero_le _, hblank⟩
  | some options =>
    have hlined : Lined {} none := ⟨by simp, by simp, by simp, by simp⟩
    have hwired : KcfNetwork.Wired {} [] [] := by
      have hnone : ∀ i, ({} : KcfNetwork).executor i = none := fun i => by simp [KcfNetwork.executor]
      exact ⟨le_rfl, by simp, by simp, by simp, fun i e _ hi => by cases (hnone i).symm.trans hi⟩
    have hexecutor := (@KcfNetwork.startNetwork_executor {} options o.made).1
    have hstart := fun k => executor_startNetwork k {} options o.made
    let I (b : KcfNetwork) : Prop := (Lined b none ∧ KcfNetwork.Wired b [] []) ∧ b.observers.length ≤ 1 ∧
      ∀ k handle, handle ∉ (executor k b).runtime.subscriptions
    have hturn : ∀ b t, I b → I (b.turn texts none 0 t) := by
      rintro b t ⟨⟨hl, hw⟩, hlength, hlive⟩
      have hproceeds := @KcfNetwork.proceeds_turn texts b none 0 t
      refine ⟨⟨hl.proceeds hproceeds, hw.ran (KcfNetwork.ran_turn hl.calm none 0 t)⟩,
        hproceeds.length ▸ hlength, fun k handle => ?_⟩
      have hturned : Turned texts k 0 t b (b.turn texts none 0 t) := turned hl.calm none 0 t
      cases hturned with
      | idle _ _ hr => exact hr.subscriptions ▸ hlive k handle
      | released _ _ _ _ _ _ hr =>
        rw [hr]
        exact Std.ExtTreeMap.not_mem_empty
      | dropped _ _ _ _ _ _ hr => exact hr.subscriptions ▸ hlive k handle
      | @executed e f job _ hi hexecuting _ _ _ =>
        obtain ⟨p, hp, he⟩ := Option.bind_eq_some_iff.mp hi
        have hknown := ((hl.calm 0 p hp).sound e he).2.jobs job (by rw [hexecuting]; exact List.mem_cons_self)
        obtain ⟨_, hf, -⟩ := hw.called 0 e job hi hknown
        cases hf
    have hfirst : I (KcfNetwork.startNetwork {} options o.made).2 :=
      ⟨⟨(hlined.start rfl options o.made).1, hwired.same hexecutor⟩, (hstart 0).2,
        fun k handle => (hstart k).1 ▸ hblank k handle⟩
    exact (foldl_invariant hturn o.turns _ hfirst).2

lemma steady_initial (o : Opening) : Steady ⟨0, 0⟩ (initial texts o) := by
  obtain ⟨hlength, hlive⟩ := @opened_blank texts o
  have hwired : Wired ⟨0, 0⟩ (initial texts o) :=
    ⟨le_rfl, le_rfl, fun _ _ _ => Nat.zero_le _, hlength, fun _ hc => (nomatch hc), fun _ => hlive 0⟩
  refine ⟨⟨hwired, ?_⟩, fun entry he => absurd he List.not_mem_nil⟩
  refine .start rfl (hlive 0) ?_ ?_ ?_
  · rintro t q ⟨c, hf, -⟩
    cases hf.sent
  · rintro t ⟨entry, ha, -⟩
    exact absurd ha.pending List.not_mem_nil
  · rintro t handle ⟨entry, ha, -⟩
    exact absurd ha.pending List.not_mem_nil

lemma regular_initial (o : Opening) : Regular (initial texts o) :=
  ⟨RemoteSystem.honest_initial o, tidy_blank, fun _ he => absurd he List.not_mem_nil⟩

lemma not_busy_initial (o : Opening) : ¬ RemoteSystem.busy (initial texts o) := Bool.false_ne_true

lemma start_eq (o : Opening) : RemoteSystem.start texts o = next texts (initial texts o) .tick := by
  simp only [next, if_neg (not_busy_initial o)]
  rfl

lemma regular_run (o : Opening) (events : List Event) : Regular (run texts o events) := by
  unfold RemoteSystem.run
  refine foldl_invariant (I := Regular) (fun _ e h => regular_next h e) events _ ?_
  rw [start_eq]
  exact regular_next (regular_initial o) .tick

lemma steady_start (o : Opening) : Steady ⟨0, 0⟩ (RemoteSystem.start texts o) :=
  steady_beginTick (regular_initial o) (steady_initial o) (by rfl)

/-- An epoch begins with the program, or with a new configuration of the network: its own observer comes after
those that there are. -/
inductive Begins (texts : ValueCodec.Texts) (o : Opening) : List Event → Epoch → Prop
  | start : Begins texts o [] ⟨0, 0⟩
  | configured {before e} (h : (run texts o before).ui.epoch < (run texts o (before ++ [e])).ui.epoch) :
      Begins texts o (before ++ [e]) ⟨(run texts o (before ++ [e])).ui.sent.length,
        (run texts o (before ++ [e])).backend.observers.length⟩

lemma Begins.steady {o : Opening} {before : List Event} (h : Begins texts o before ep) :
    Steady ep (run texts o before) := by
  cases h with
  | start => exact steady_start o
  | @configured before e h =>
    have hrun : run texts o (before ++ [e]) = next texts (run texts o before) e := by
      unfold RemoteSystem.run
      rw [List.foldl_append]
      rfl
    rw [hrun] at h ⊢
    exact steady_renewed (regular_run o before)
      ((renewed_next (regular_run o before) e).resolve_left fun he => absurd he h.ne')

end Begins

section Runs

/-- No command is pending in the workspace, being submitted, or in the executor of the epoch. -/
structure Quiet (ep : Epoch) (s : System) : Prop where
  pending : s.ui.pending = []
  submitting : submitting s = none
  jobs : (executor ep.own s.backend).worker.jobs ++ (executor ep.own s.backend).queue = []

lemma epoch_next (h : Regular s) (e : Event) : s.ui.epoch ≤ (next texts s e).ui.epoch :=
  epoch_moves (moves_next h.honest e)

lemma steady_run (events : List Event) (hr : Regular s) (h : Steady ep s)
    (hm : Along (next texts) (Meets ep) s events)
    (he : (events.foldl (next texts) s).ui.epoch = s.ui.epoch) :
    Steady ep (events.foldl (next texts) s) := by
  let I (v : System) : Prop := Regular v ∧ s.ui.epoch ≤ v.ui.epoch ∧ (v.ui.epoch = s.ui.epoch → Steady ep v)
  have hstep : ∀ v e, Meets ep v e → I v → I (next texts v e) := by
    rintro v e hv ⟨hregular, hle, hsteady⟩
    have hgrows : v.ui.epoch ≤ (next texts v e).ui.epoch := epoch_next hregular e
    refine ⟨regular_next hregular e, hle.trans hgrows, fun heq => ?_⟩
    have hsame : v.ui.epoch = s.ui.epoch := by omega
    exact steady_next hregular (hsteady hsame) e hv (heq.trans hsame.symm)
  exact (along_invariant (I := I) hstep events s hm ⟨hr, le_rfl, fun _ => h⟩).2.2 he

/-- In a quiet state, no Unsubscribe of a live handle is on its way. -/
lemma Quiet.not_flying (hq : Quiet ep s) (hs : Honest s) (hw : Wired ep s) {t handle : ℕ}
    (hl : live ep s handle) (hf : (ledger ep s).flying t (.giveBack handle)) : False := by
  obtain ⟨c, ⟨-, hsent, hwait⟩, -⟩ := hf
  have hlt : t < s.futures.length := by
    have hsent := (List.getElem?_eq_some_iff.mp hsent).1
    have hle := List.getElem?_eq_none_iff.mp hq.submitting
    omega
  obtain ⟨i, n, hfuture, halive⟩ := hs.answered.waiting t hlt hwait
  obtain rfl := alive_own hs hw hl halive
  obtain ⟨o, e, ho, hlock, he⟩ := live_own hl
  have hi : s.backend.executor ep.own = some e := (KcfNetwork.executor_eq ho).trans (ControlGate.lock_eq hlock)
  obtain ⟨e', hi', hn⟩ := hs.wired.calls t _ n hfuture
  obtain rfl := Option.some.inj (hi.symm.trans hi')
  have hplace := (hs.sound hi).1.places.mem_iff.mpr (List.mem_range.mpr hn)
  rcases List.mem_append.mp hplace with hanswer | hjob
  · have hsome := RemoteSystem.reply_isSome hanswer
    rw [ready_call hfuture, call, hi] at hwait
    rw [show RemoteSystem.reply e.log n = none from hwait] at hsome
    cases hsome
  · rw [← he, hq.jobs] at hjob
    cases hjob

/-- In a run of one epoch whose steps meet the condition, the subscriptions of the runtime are the one that
the page holds, whenever no command is under way. -/
theorem subscriptions_owned (texts : ValueCodec.Texts) (o : Opening) (before events : List Event) {ep : Epoch}
    (hb : Begins texts o before ep) (hm : Along (next texts) (Meets ep) (run texts o before) events)
    (he : (run texts o (before ++ events)).ui.epoch = (run texts o before).ui.epoch)
    (hq : Quiet ep (run texts o (before ++ events))) (handle : ℕ) :
    live ep (run texts o (before ++ events)) handle ↔
      handle ≠ 0 ∧ held (run texts o (before ++ events)) = handle := by
  have hrun : run texts o (before ++ events) = events.foldl (next texts) (run texts o before) := by
    unfold RemoteSystem.run
    rw [List.foldl_append]
  have hregular := @regular_run texts o (before ++ events)
  rw [hrun] at he hq hregular ⊢
  have hsteady := steady_run events (regular_run o before) hb.steady hm he
  refine hsteady.coupled.leases.exact (fun t h hl => ?_) ?_ ?_ handle
  · exact hq.not_flying hregular.honest hsteady.coupled.wired hl
  · rintro t ⟨entry, ha, -⟩
    exact List.not_mem_nil (hq.pending ▸ ha.pending)
  · rintro t h ⟨entry, ha, -⟩
    exact List.not_mem_nil (hq.pending ▸ ha.pending)

end Runs

section Odometer

instance (ep : Epoch) (s : System) : Decidable (Quiet ep s) :=
  decidable_of_iff (s.ui.pending = [] ∧ submitting s = none ∧
      (executor ep.own s.backend).worker.jobs ++ (executor ep.own s.backend).queue = [])
    ⟨fun ⟨hp, hs, hj⟩ => ⟨hp, hs, hj⟩, fun ⟨hp, hs, hj⟩ => ⟨hp, hs, hj⟩⟩

instance (ep : Epoch) (s : System) (handle : ℕ) : Decidable (live ep s handle) :=
  inferInstanceAs (Decidable (handle ∈ (executor ep.own s.backend).runtime.subscriptions))

def unsubscribes (c : RemoteCommand) : Bool := c.operation = .unsubscribe

/-- Nothing is unsubscribed, each peer is current, and its handle live. -/
def Harmless (ep : Epoch) (s : System) : Event → Bool
  | .send => (submitting s).all fun c => !unsubscribes c
  | .turn _ (.work _) =>
    let e := executor ep.own s.backend
    (e.worker.jobs ++ e.queue).all fun job => !unsubscribes job.command
  | .turn _ .release => false
  | .check => match s.checking with
    | some (entry :: _) => !unsubscribes entry.command && current s.ui entry.command.endpoint &&
        (ready s entry.ticket).all fun r => r.handle = 0 ∨ live ep s r.handle
    | _ => true
  | _ => true

lemma Harmless.meets (e : Event) (h : Harmless ep s e) : Meets ep s e := by
  cases e with
  | send =>
    intro c hc ho
    simp [Harmless, hc, unsubscribes, ho] at h
  | check =>
    intro entry rest r hc hr _
    simp only [Harmless, hc, hr, unsubscribes, Option.all_some, Bool.and_eq_true, Bool.not_eq_true',
      decide_eq_false_iff_not, decide_eq_true_eq] at h
    obtain ⟨⟨hu, hcurrent⟩, hlive⟩ := h
    exact ⟨fun _ _ hn => iff_of_true hcurrent (hlive.resolve_left hn), fun ho => absurd ho hu⟩
  | turn i t =>
    cases t with
    | work f =>
      have hno : ∀ job ∈ (executor ep.own s.backend).worker.jobs ++ (executor ep.own s.backend).queue,
          job.command.operation ≠ .unsubscribe := fun job hj => by
        simpa [unsubscribes] using List.all_eq_true.mp h job hj
      refine fun _ => ⟨fun e he _ _ job hj ho => ?_, fun job hj ho => ?_⟩
      · exact absurd ho (hno job (List.mem_append_right _ (he ▸ hj)))
      · exact absurd ho (hno job (List.mem_append_left _ (hj ▸ List.mem_cons_self)))
    | release => cases h
    | _ => trivial
  | _ => trivial

def odometer : RemoteEndpoint :=
  { identity := { hostId := "000102030405060708090a0b0c0d0e0f", bootId := "101112131415161718191a1b1c1d1e1f" }
    session := 4, id := "odometer", name := "odometer", kind := "T", role := "PUBLISHER", scope := "REMOTE" }

def odometerPeer : Discovery.PeerInfo :=
  { host := parseHost odometer.identity.hostId, bootId := parseHost odometer.identity.bootId, sessionId := 4
    metadataReady := true
    endpoints := [{ identity := RemoteRuntime.endpointIdentity odometer, name := "odometer", kind := .topic }] }

def odometerFramework : RemoteRuntime.Framework :=
  { RemoteRuntime.armFramework 0 with
    peers := [odometerPeer]
    subscribe := some (0, 5)
    unsubscribe := fun _ => some (-5) }

def odometerLaunch : ControlGate.Launch where
  checks := { checkPeerCompatibility := fun _ => {}, checkEndpointCompatibility := fun _ _ _ _ => {} }
  generated := true
  ephemeral := {}
  discovery := 0
  startError := 0

def odometerRound : NetworkObserver.Tick where
  peers := [odometerPeer]
  clock _ := 0
  lastError := 0
  query _ := (0, {})
  observed := 0
  unixMs := 0
  peersAfter := [odometerPeer]
  clockAfter := 0
  lastErrorAfter := 0
  converted := 0

/-- The observer has found the odometer before the window opens. -/
def odometerOpening : Opening where
  network := some {}
  turns := [.launch odometerLaunch, .round odometerRound]

def pass : List Event := [.tick, .check, .finish]

def works : List Event := List.replicate 3 (.turn 0 (.work odometerFramework))

def selectOdometer : List Event :=
  .finish :: pass ++ pass ++ pass ++ pass ++ .send :: works ++
    [.click (.pickHost 1), .click (.pickRow .topic 0)] ++ pass

def pressed (second : Bool) : List Event := [.click (.press .topic second), .send] ++ works ++ pass

def runOdometer (events : List Event) : System := run RemoteRuntime.armTexts odometerOpening events

def subscribeOdometer : List Event := selectOdometer ++ pressed false

theorem subscriptions_owned_odometer :
    live ⟨0, 0⟩ (runOdometer subscribeOdometer) 1 ↔ 1 ≠ 0 ∧ held (runOdometer subscribeOdometer) = 1 :=
  subscriptions_owned RemoteRuntime.armTexts odometerOpening [] subscribeOdometer .start
    (Along.mono (fun _ => Harmless.meets) _ _ (by decide +kernel)) (by decide +kernel) (by decide +kernel) 1

/-- The runtime drops the handle although the framework fails, and the page keeps it. -/
theorem handle_kept : Begins RemoteRuntime.armTexts odometerOpening [] ⟨0, 0⟩ ∧
    (runOdometer (subscribeOdometer ++ pressed true)).ui.epoch = (runOdometer []).ui.epoch ∧
    Quiet ⟨0, 0⟩ (runOdometer (subscribeOdometer ++ pressed true)) ∧
    ¬ ∀ handle, live ⟨0, 0⟩ (runOdometer (subscribeOdometer ++ pressed true)) handle ↔
      handle ≠ 0 ∧ held (runOdometer (subscribeOdometer ++ pressed true)) = handle := by
  refine ⟨.start, by decide +kernel, by decide +kernel, fun h => ?_⟩
  have hkept : held (runOdometer (subscribeOdometer ++ pressed true)) = 1 := by decide +kernel
  have hdropped : ¬ live ⟨0, 0⟩ (runOdometer (subscribeOdometer ++ pressed true)) 1 := by decide +kernel
  exact hdropped ((h 1).mpr ⟨one_ne_zero, hkept⟩)

end Odometer

end KcfTools.Subscriptions
