import KcfTools.Ui.SubscriptionThreads

/-! Each subscription of the runtime has an owner in the workspace, and the workspace's is in the runtime. -/

namespace KcfTools.Subscriptions

open Leases (Request Ledger)
open RemoteSystem (System ready)
open RemoteWorkspace
open Transitions

variable {texts : ValueCodec.Texts} {ep : Epoch} {s s' : System} {w w' : Workspace} {page : Page}
  {c : RemoteCommand} {entry : Pending} {r : RemoteReply}

section Views

lemma Wired.sees (hw : Wired ep s) (new : List RemoteCommand) (hsent : w'.sent = s.ui.sent ++ new) :
    Wired ep { s with ui := w' } where
  sent := by
    change s.futures.length ≤ w'.sent.length
    rw [hsent, List.length_append]
    exact hw.sent.trans (Nat.le_add_right _ _)
  length := hw.length
  calls := hw.calls
  observers := hw.observers
  before := hw.before
  failed := hw.failed

lemma flying_sees {t : ℕ} (hsent : w'.sent = s.ui.sent) :
    Flying ep { s with ui := w' } t c ↔ Flying ep s t c := by
  constructor
  · rintro ⟨hb, hs, hw⟩
    exact ⟨hb, hsent ▸ hs, hw⟩
  · rintro ⟨hb, hs, hw⟩
    exact ⟨hb, hsent.symm ▸ hs, hw⟩

/-- The next ticket has no future yet. -/
lemma Wired.waits (hw : Wired ep s) : ready s s.ui.sent.length = none := by
  unfold RemoteSystem.ready
  rw [List.getElem?_eq_none hw.sent]
  rfl

lemma flying_sends {t : ℕ} {c' : RemoteCommand} (hw : Wired ep s) (hsent : w'.sent = s.ui.sent ++ [c]) :
    Flying ep { s with ui := w' } t c' ↔ Flying ep s t c' ∨ t = s.ui.sent.length ∧ c' = c := by
  constructor
  · rintro ⟨hb, hs, hwait⟩
    change w'.sent[t]? = some c' at hs
    rw [hsent] at hs
    rcases Histories.getElem?_snoc hs with hold | hnew
    · exact .inl ⟨hb, hold, hwait⟩
    · exact .inr hnew
  · rintro (⟨hb, hs, hwait⟩ | ⟨rfl, rfl⟩)
    · refine ⟨hb, ?_, hwait⟩
      change w'.sent[t]? = some c'
      rw [hsent]
      exact Histories.getElem?_earlier hs
    · refine ⟨hw.length.trans hw.sent, ?_, hw.waits⟩
      change w'.sent[_]? = some c'
      rw [hsent, List.getElem?_concat_length]

lemma ledger_sees (hsent : w'.sent = s.ui.sent) :
    ledger ep { s with ui := w' } = { ledger ep s with
      held := (w'.panels .topic).subscription
      acquiring := acquiring w'
      returning := returning w' } := by
  refine Ledger.ext_of_iff rfl (fun _ => Iff.rfl) (fun _ _ => Iff.rfl) (fun t q => ?_) (fun _ => rfl)
    (fun _ => Iff.rfl) rfl
  simp only [ledger, flying_sees hsent]

lemma ledger_sends (hw : Wired ep s) (hsent : w'.sent = s.ui.sent ++ [c]) :
    ledger ep { s with ui := w' } = { (ledger ep s).fly s.ui.sent.length (kind c) with
      held := (w'.panels .topic).subscription
      acquiring := acquiring w'
      returning := returning w' } := by
  refine Ledger.ext_of_iff rfl (fun _ => Iff.rfl) (fun _ _ => Iff.rfl) (fun t q => ?_) (fun _ => rfl)
    (fun _ => Iff.rfl) rfl
  simp only [ledger, Ledger.fly, flying_sends hw hsent]
  constructor
  · rintro ⟨c', h | ⟨ht, rfl⟩, hq⟩
    · exact .inl ⟨c', h, hq⟩
    · exact .inr ⟨ht, hq.symm⟩
  · rintro (⟨c', h, hq⟩ | ⟨ht, hq⟩)
    · exact ⟨c', .inl h, hq⟩
    · exact ⟨c, .inr ⟨ht, rfl⟩, hq.symm⟩

lemma fresh_ticket (hw : Wired ep s) (ht : Tidy s.ui) : (ledger ep s).Fresh s.ui.sent.length where
  flying q := by
    rintro ⟨c, h, -⟩
    exact absurd (List.getElem?_eq_some_iff.mp h.sent).1 (lt_irrefl _)
  answer := by
    change (answered ep s s.ui.sent.length).map toAnswer = none
    rw [answered, hw.waits]
    split_ifs <;> rfl
  acquiring := by
    rintro ⟨entry, h, he⟩
    exact absurd (ht.numbered entry h.pending) (by omega)
  returning h := by
    rintro ⟨entry, ha, he, -⟩
    exact absurd (ht.numbered entry ha.pending) (by omega)

end Views

section Moves

/-- The view of the page does not matter. -/
lemma Coupled.sees (h : Coupled ep s) (hsent : w'.sent = s.ui.sent) (hpending : w'.pending = s.ui.pending)
    (hepoch : w'.epoch = s.ui.epoch) (hheld : (w'.panels .topic).subscription = held s) :
    Coupled ep { s with ui := w' } := by
  refine ⟨h.wired.sees [] (by rw [hsent, List.append_nil]), ?_⟩
  rw [ledger_sees hsent, hheld, acquiring_congr fun _ => awaited_congr hpending hepoch,
    returning_congr fun _ => awaited_congr hpending hepoch]
  exact h.leases

lemma Coupled.sends (h : Coupled ep s) (hsent : w'.sent = s.ui.sent ++ [c])
    (hstep : Leases.Step (ledger ep s) { (ledger ep s).fly s.ui.sent.length (kind c) with
      held := (w'.panels .topic).subscription
      acquiring := acquiring w'
      returning := returning w' }) : Coupled ep { s with ui := w' } := by
  refine ⟨h.wired.sees [c] hsent, h.leases.step ?_⟩
  rw [ledger_sends h.wired hsent]
  exact hstep

lemma Coupled.poll (h : Coupled ep s) (ht : Tidy s.ui) :
    Coupled ep { s with ui := submitRemote s.ui { operation := .poll } } := by
  have hawaited : ∀ o it, Awaited (submitRemote s.ui { operation := .poll }) o it ↔
      Awaited s.ui o it := fun _ _ => awaited_congr rfl rfl
  apply h.sends rfl
  rw [acquiring_congr (hawaited _), returning_congr (hawaited _)]
  exact .other (fresh_ticket h.wired ht)

lemma Coupled.release (h : Coupled ep s) (ht : Tidy s.ui) (page : Page) :
    Coupled ep { s with ui := RemoteWorkspace.release s.ui page } := by
  by_cases hn : (s.ui.panels page).subscription ≠ 0
  · have hp : page = .topic := by
      by_contra hp
      exact hn (ht.others page hp)
    subst hp
    have hsent : (RemoteWorkspace.release s.ui .topic).sent =
        s.ui.sent ++ [unsubscribeCommand (held s)] := by
      rw [release_sent, if_pos hn]
      rfl
    have hheld : ((RemoteWorkspace.release s.ui .topic).panels .topic).subscription = 0 := by
      rw [release_panels, if_pos rfl]
    have hawaited : ∀ o it, Awaited (RemoteWorkspace.release s.ui .topic) o it ↔ Awaited s.ui o it := fun _ _ =>
      awaited_congr release_pending release_epoch
    apply h.sends hsent
    rw [hheld, acquiring_congr (hawaited _), returning_congr (hawaited _)]
    exact .drop (fresh_ticket h.wired ht) hn
  · have hsame : RemoteWorkspace.release s.ui page = s.ui := if_neg hn
    rw [hsame]
    exact h

lemma Coupled.request (h : Coupled ep s) (ht : Tidy s.ui) (hr : Request s.ui page c) :
    Coupled ep { s with ui := submit s.ui page c } := by
  have hheld : ((submit s.ui page c).panels .topic).subscription = held s :=
    submit_subscription .topic
  have hfresh := fresh_ticket h.wired ht
  apply h.sends rfl
  rw [hheld]
  by_cases hs : c.operation = .subscribe
  · obtain rfl := hr.topic (.inl hs)
    have hkind : kind c = .acquire := by rw [kind, hs]
    have hacquiring : acquiring (submit s.ui .topic c) =
        fun t => acquiring s.ui t ∨ t = s.ui.sent.length := by
      funext t
      simp [acquiring_submit, hs]
    have hreturning : returning (submit s.ui .topic c) = returning s.ui := by
      funext t handle
      simp [returning_submit, hs]
    rw [hkind, hacquiring, hreturning]
    refine .acquire hfresh (hr.unsubscribed hs) ?_ ?_
    · rintro t ⟨it, ha, -⟩
      exact ht.idle hr.idle ha.pending ha.page
    · rintro t handle ⟨it, ha, -⟩
      exact ht.idle hr.idle ha.pending ha.page
  have hacquiring : acquiring (submit s.ui page c) = acquiring s.ui := by
    funext t
    simp [acquiring_submit, hs]
  by_cases hu : c.operation = .unsubscribe
  · obtain rfl := hr.topic (.inr hu)
    have hhandle : c.handle = held s := (hr.source.resolve_left (by simp [hu])).2.2
    have hkind : kind c = .giveBack (held s) := by rw [kind, hu, ← hhandle]
    have hreturning : returning (submit s.ui .topic c) =
        fun t handle => returning s.ui t handle ∨ t = s.ui.sent.length ∧ handle = held s := by
      funext t handle
      simp [returning_submit, hu, hhandle]
    rw [hkind, hacquiring, hreturning]
    refine .giveBack hfresh ?_
    rintro t ⟨it, ha, -⟩
    exact ht.idle hr.idle ha.pending ha.page
  · have hreturning : returning (submit s.ui page c) = returning s.ui := by
      funext t handle
      simp [returning_submit, hu]
    rw [kind_other hs hu, hacquiring, hreturning]
    exact .other hfresh

lemma coupled_move (hm : Move (fun _ _ _ => False) s.ui w') (he : w'.epoch = s.ui.epoch) (h : Coupled ep s)
    (ht : Tidy s.ui) : Coupled ep { s with ui := w' } := by
  cases hm with
  | view hv => exact h.sees hv.sent hv.pending hv.epoch (hv.subscription .topic)
  | ask _ => exact h.sees rfl rfl rfl rfl
  | confirm _ => exact h.sees rfl rfl rfl rfl
  | edit _ =>
    obtain ⟨hpending, hsent, hsubscription⟩ := editCell_keeps (w := s.ui) _ _
    exact h.sees hsent hpending he (hsubscription .topic)
  | clear _ => exact h.sees rfl rfl rfl (clear_subscription _ .topic)
  | pick _ => exact h.sees rfl rfl rfl (pick_subscription _ .topic)
  | release => exact h.release ht _
  | submit hr => exact h.request ht hr
  | receive _ hf => exact hf.elim
  | reconfigure =>
    have hnext : (reconfigure s.ui).epoch = s.ui.epoch + 1 := rfl
    omega
  | poll => exact h.poll ht

end Moves

section Replies

/-- The page has heard of the request, and it waits for nothing else. -/
lemma ledger_forget (h : Tidy s.ui) (he : entry ∈ s.ui.pending) (hp : entry.page = .topic) :
    ((ledger ep s).forget entry.ticket).acquiring = acquiring (receive s.ui entry r) ∧
      ((ledger ep s).forget entry.ticket).returning = returning (receive s.ui entry r) := by
  constructor
  · funext t
    refine propext ⟨?_, ?_⟩
    · rintro ⟨⟨it, ha, rfl⟩, hne⟩
      rw [h.only he hp ha] at hne
      exact absurd rfl hne
    · rintro ⟨it, ha, -⟩
      exact absurd ha (h.received he hp)
  · funext t handle
    refine propext ⟨?_, ?_⟩
    · rintro ⟨⟨it, ha, rfl, -⟩, hne⟩
      rw [h.only he hp ha] at hne
      exact absurd rfl hne
    · rintro ⟨it, ha, -⟩
      exact absurd ha (h.received he hp)

lemma Coupled.unrelated (h : Coupled ep s) (ht : Tidy s.ui) (he : entry ∈ s.ui.pending)
    (hs : ¬ Awaited s.ui .subscribe entry) (hu : ¬ Awaited s.ui .unsubscribe entry) :
    Coupled ep { s with ui := receive s.ui entry r } := by
  have hstale : staleCommands s.ui entry r = [] := staleCommands_eq fun ⟨hepoch, ho⟩ =>
    hs ⟨he, ht.paged entry he (.inl ho), hepoch, ho⟩
  have hsent : (receive s.ui entry r).sent = s.ui.sent := by
    rw [receive_sent, hstale, List.append_nil]
  have hheld : ((receive s.ui entry r).panels .topic).subscription = held s := by
    by_cases hp : entry.page = .topic
    · by_cases ha : applies s.ui entry r
      · have hepoch : entry.epoch = s.ui.epoch := by
          simp only [applies, decide_eq_true_eq] at ha
          exact ha.1
        rw [subscription_receive hp ha]
        exact applyReply_subscription _ (fun ho => hs ⟨he, hp, hepoch, ho⟩) fun ho => hu ⟨he, hp, hepoch, ho⟩
      · exact subscription_refused ha
    · rw [receive_panels, if_neg (Ne.symm hp)]
      rfl
  refine ⟨h.wired.sees [] (by rw [hsent, List.append_nil]), ?_⟩
  rw [ledger_sees hsent, hheld, acquiring_congr fun _ => awaited_receive hs,
    returning_congr fun _ => awaited_receive hu]
  exact h.leases

variable (h : Coupled ep s) (ht : Tidy s.ui) (hr : answered ep s entry.ticket = some r)

include h ht hr

/-- The reply brings the page no live handle. -/
lemma Coupled.missed (ha : Awaited s.ui .subscribe entry) (hstale : staleCommands s.ui entry r = [])
    (hheld : ((receive s.ui entry r).panels .topic).subscription = held s) (hl : ¬ live ep s r.handle) :
    Coupled ep { s with ui := receive s.ui entry r } := by
  have hanswer : (ledger ep s).answer entry.ticket = some (toAnswer r) := congrArg (Option.map toAnswer) hr
  obtain ⟨hforgetA, hforgetR⟩ := @ledger_forget ep s entry r ht ha.pending ha.page
  have hsent : (receive s.ui entry r).sent = s.ui.sent := by
    rw [receive_sent, hstale, List.append_nil]
  refine ⟨h.wired.sees [] (by rw [hsent, List.append_nil]), h.leases.step ?_⟩
  rw [ledger_sees hsent, hheld, ← hforgetA, ← hforgetR]
  exact .missed ⟨entry, ha, rfl⟩ hanswer hl

lemma Coupled.adopted (ha : Awaited s.ui .subscribe entry)
    (hrevision : entry.revision = (s.ui.panels .topic).revision) (hc : current s.ui entry.command.endpoint)
    (hl : live ep s r.handle) : Coupled ep { s with ui := receive s.ui entry r } := by
  have hacquiring : (ledger ep s).acquiring entry.ticket := ⟨entry, ha, rfl⟩
  have hanswer : (ledger ep s).answer entry.ticket = some (toAnswer r) := congrArg (Option.map toAnswer) hr
  obtain ⟨hforgetA, hforgetR⟩ := @ledger_forget ep s entry r ht ha.pending ha.page
  obtain ⟨hok, -⟩ := h.leases.granted _ _ hacquiring hanswer (h.leases.positive _ hl)
  have happlies : applies s.ui entry r := by
    simp only [applies, decide_eq_true_eq, ha.page]
    exact ⟨ha.epoch, hrevision, .inr hc, of_decide_eq_true hok⟩
  have hstale : staleCommands s.ui entry r = [] := if_neg fun hs => hs.2.1 (ha.page ▸ hrevision)
  have hsent : (receive s.ui entry r).sent = s.ui.sent := by
    rw [receive_sent, hstale, List.append_nil]
  have hheld : ((receive s.ui entry r).panels .topic).subscription = r.handle := by
    rw [subscription_receive ha.page happlies, ha.operation]
    rfl
  refine ⟨h.wired.sees [] (by rw [hsent, List.append_nil]), h.leases.step ?_⟩
  rw [ledger_sees hsent, hheld, ← hforgetA, ← hforgetR]
  exact .adopted hacquiring hanswer hl

lemma Coupled.subscribed (ha : Awaited s.ui .subscribe entry)
    (hc : entry.revision = (s.ui.panels .topic).revision → r.handle ≠ 0 →
      (current s.ui entry.command.endpoint ↔ live ep s r.handle)) :
    Coupled ep { s with ui := receive s.ui entry r } := by
  have hacquiring : (ledger ep s).acquiring entry.ticket := ⟨entry, ha, rfl⟩
  have hanswer : (ledger ep s).answer entry.ticket = some (toAnswer r) := congrArg (Option.map toAnswer) hr
  have hempty : held s = 0 := h.leases.empty _ hacquiring
  by_cases hh : r.handle = 0
  · have hheld : ((receive s.ui entry r).panels .topic).subscription = held s := by
      by_cases hap : applies s.ui entry r
      · rw [subscription_receive ha.page hap, ha.operation, hempty]
        exact hh
      · exact subscription_refused hap
    exact h.missed ht hr ha (if_neg fun hs => hs.2.2.2 hh) hheld fun hl => h.leases.positive _ hl hh
  by_cases hrevision : entry.revision = (s.ui.panels .topic).revision
  · by_cases hcurrent : current s.ui entry.command.endpoint
    · exact h.adopted ht hr ha hrevision hcurrent ((hc hrevision hh).mp hcurrent)
    · have hrefused : ¬ applies s.ui entry r := by
        simp only [applies, decide_eq_true_eq, ha.operation]
        exact fun hap => hcurrent (hap.2.2.1.resolve_left (by decide))
      exact h.missed ht hr ha (if_neg fun hs => hs.2.1 (ha.page ▸ hrevision)) (subscription_refused hrefused)
        fun hl => hcurrent ((hc hrevision hh).mpr hl)
  · have hrefused : ¬ applies s.ui entry r := by
      simp only [applies, decide_eq_true_eq, ha.page]
      exact fun hap => hrevision hap.2.1
    have hstale : staleCommands s.ui entry r = [unsubscribeCommand r.handle] :=
      if_pos ⟨ha.epoch, ha.page ▸ hrevision, ha.operation, hh⟩
    have hheld : ((receive s.ui entry r).panels .topic).subscription = held s :=
      subscription_refused hrefused
    obtain ⟨hforgetA, hforgetR⟩ := @ledger_forget ep s entry r ht ha.pending ha.page
    apply h.sends (receive_sent.trans (congrArg _ hstale))
    rw [hheld, ← hforgetA, ← hforgetR]
    exact .givenUp hacquiring hanswer hh (fresh_ticket h.wired ht)

lemma Coupled.unsubscribed (ha : Awaited s.ui .unsubscribe entry)
    (hk : held s = entry.command.handle → entry.command.handle ≠ 0 → ¬ live ep s entry.command.handle →
      r.error = 0 ∧ entry.revision = (s.ui.panels .topic).revision) :
    Coupled ep { s with ui := receive s.ui entry r } := by
  have hreturning : (ledger ep s).returning entry.ticket entry.command.handle := ⟨entry, ha, rfl, rfl⟩
  have hanswer : (ledger ep s).answer entry.ticket = some (toAnswer r) := congrArg (Option.map toAnswer) hr
  obtain ⟨hforgetA, hforgetR⟩ := @ledger_forget ep s entry r ht ha.pending ha.page
  have hstale : staleCommands s.ui entry r = [] := staleCommands_eq fun ⟨_, ho⟩ => by
    rw [ha.operation] at ho
    cases ho
  have hsent : (receive s.ui entry r).sent = s.ui.sent := by
    rw [receive_sent, hstale, List.append_nil]
  refine ⟨h.wired.sees [] (by rw [hsent, List.append_nil]), h.leases.step ?_⟩
  by_cases hap : applies s.ui entry r
  · have hheld : ((receive s.ui entry r).panels .topic).subscription = 0 := by
      rw [subscription_receive ha.page hap, ha.operation]
      rfl
    have herror : r.error = 0 := by
      simp only [applies, decide_eq_true_eq] at hap
      exact hap.2.2.2
    rw [ledger_sees hsent, hheld, ← hforgetA, ← hforgetR]
    exact .gone hreturning hanswer (decide_eq_true herror)
  · have hheld : ((receive s.ui entry r).panels .topic).subscription = held s :=
      subscription_refused hap
    rw [ledger_sees hsent, hheld, ← hforgetA, ← hforgetR]
    refine .kept hreturning hanswer fun heq hne => ?_
    by_contra hdead
    obtain ⟨herror, hrevision⟩ := hk heq hne hdead
    simp only [applies, decide_eq_true_eq, ha.page] at hap
    exact hap ⟨ha.epoch, hrevision, .inl ha.operation, herror⟩

end Replies

section Chains

/-- What holds within the epoch. -/
structure Steady (ep : Epoch) (s : System) : Prop where
  coupled : Coupled ep s
  recent : ∀ entry ∈ s.ui.pending, entry.epoch = s.ui.epoch → entry.page = .topic → ep.base ≤ entry.ticket

lemma steady_move (hm : Move (fun _ _ _ => False) s.ui w') (he : w'.epoch = s.ui.epoch) (ht : Tidy s.ui)
    (h : Steady ep s) : Steady ep { s with ui := w' } where
  coupled := coupled_move hm he h.coupled ht
  recent entry hm' hepoch hp := by
    rcases move_pending hm with hold | ⟨page, c, -, rfl⟩
    · exact h.recent entry (hold entry hm') (hepoch.trans he) hp
    · rcases List.mem_append.mp hm' with hold | hnew
      · exact h.recent entry hold hepoch hp
      · obtain rfl := List.mem_singleton.mp hnew
        exact h.coupled.wired.length.trans h.coupled.wired.sent

lemma steady_moves (hm : Moves (fun _ _ _ => False) s.ui w') (he : w'.epoch = s.ui.epoch) (ht : Tidy s.ui)
    (h : Steady ep s) : Steady ep { s with ui := w' } := by
  let I (v : Workspace) : Prop :=
    Tidy v ∧ s.ui.epoch ≤ v.epoch ∧ (v.epoch = s.ui.epoch → Steady ep { s with ui := v })
  have hstep : ∀ v v', Move (fun _ _ _ => False) v v' → I v → I v' := by
    rintro v v' hv ⟨htidy, hle, hsteady⟩
    have hgrows := epoch_move hv
    refine ⟨tidy_move hv htidy, hle.trans hgrows, fun heq => ?_⟩
    have hv : v.epoch = s.ui.epoch := by omega
    exact steady_move (s := { s with ui := v }) ‹_› (heq.trans hv.symm) htidy (hsteady hv)
  exact (chain_invariant (I := I) hstep hm ⟨ht, le_rfl, fun _ => h⟩).2.2 he

end Chains

end KcfTools.Subscriptions
