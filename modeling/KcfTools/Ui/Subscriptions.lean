import KcfTools.Ui.PanelRequests
import KcfTools.Ui.Shifts

/-! The subscription of the topic page, the requests that the page waits for, and the epoch that they belong
to. -/

namespace KcfTools.RemoteWorkspace

open Relation Transitions

variable {w w' : Workspace} {page : Page} {c : RemoteCommand} {entry : Pending} {r : RemoteReply}
  {ok : Pending → RemoteReply → Workspace → Prop}

section Tidy

/-- Only the topic page subscribes, and a ticket stands for a command that was sent. -/
structure Tidy (w : Workspace) : Prop where
  counted : Counted w
  others : ∀ page, page ≠ .topic → (w.panels page).subscription = 0
  paged : ∀ entry ∈ w.pending, entry.command.operation = .subscribe ∨ entry.command.operation = .unsubscribe →
    entry.page = .topic
  numbered : ∀ entry ∈ w.pending, entry.ticket < w.sent.length

lemma applyReply_subscription {o : RemoteOperation} (p : Panel) (hs : o ≠ .subscribe)
    (hu : o ≠ .unsubscribe) : (applyReply o r p).subscription = p.subscription := by
  cases o with
  | subscribe => exact absurd rfl hs
  | unsubscribe => exact absurd rfl hu
  | set =>
    unfold applyReply
    simp only
    split_ifs <;> rfl
  | _ => rfl

lemma repliedPanel_subscription (hs : entry.command.operation ≠ .subscribe)
    (hu : entry.command.operation ≠ .unsubscribe) :
    (repliedPanel w entry r).subscription = (w.panels entry.page).subscription := by
  unfold repliedPanel
  simp only
  split_ifs
  · exact applyReply_subscription _ hs hu
  · rfl

lemma editCell_keeps (row : ℕ) (text : String) :
    (editCell w page row text).pending = w.pending ∧
    (editCell w page row text).sent = w.sent ∧ ∀ page',
      ((editCell w page row text).panels page').subscription =
        (w.panels page').subscription := by
  rcases @editCell_cases w page row text with he | ⟨-, he⟩ <;> rw [he]
  · exact ⟨rfl, rfl, fun _ => rfl⟩
  · refine ⟨rfl, rfl, fun page' => ?_⟩
    rw [note_panels, setPanel_panels]
    split_ifs with hp
    · rw [hp]
    · rfl

lemma clear_subscription (reason : Reason) (page' : Page) :
    ((clear w page reason).panels page').subscription = (w.panels page').subscription := by
  rw [clear_panels]
  split_ifs with hp
  · rw [hp]
    rfl
  · rfl

lemma pick_subscription (e : RemoteEndpoint) (page' : Page) :
    ((pick w page e).panels page').subscription = (w.panels page').subscription := by
  rw [pick_panels]
  split_ifs with hp
  · rw [hp]
    rfl
  · rfl

lemma submit_subscription (page' : Page) :
    ((submit w page c).panels page').subscription = (w.panels page').subscription := by
  rw [submit_panels]
  split_ifs with hp
  · rw [hp]
  · rfl

lemma move_subscription (hm : Move ok w w') :
    (w'.panels page).subscription = (w.panels page).subscription ∨ (w'.panels page).subscription = 0 ∨
      ∃ entry ∈ w.pending, entry.page = page ∧ ∃ r, w' = receive w entry r := by
  cases hm with
  | view hv => exact .inl (hv.subscription page)
  | ask _ => exact .inl rfl
  | confirm _ => exact .inl rfl
  | edit _ => exact .inl ((editCell_keeps _ _).2.2 page)
  | clear _ => exact .inl (clear_subscription _ page)
  | pick _ => exact .inl (pick_subscription _ page)
  | release =>
    rw [release_panels]
    split_ifs
    · exact .inr (.inl rfl)
    · exact .inl rfl
  | submit _ => exact .inl (submit_subscription page)
  | @receive entry r he _ =>
    by_cases hp : page = entry.page
    · exact .inr (.inr ⟨entry, he, hp.symm, r, rfl⟩)
    · left
      rw [receive_panels, if_neg hp]
  | reconfigure =>
    right
    left
    rw [reconfigure_panels]
  | poll => exact .inl rfl

lemma move_pending (hm : Move ok w w') : (∀ entry ∈ w'.pending, entry ∈ w.pending) ∨
    ∃ page c, Request w page c ∧ w' = submit w page c := by
  cases hm with
  | view hv => exact .inl fun _ he => hv.pending ▸ he
  | edit _ => exact .inl fun _ he => (editCell_keeps _ _).1 ▸ he
  | release => exact .inl fun _ he => release_pending ▸ he
  | @submit page c hr => exact .inr ⟨page, c, hr, rfl⟩
  | receive _ _ => exact .inl fun _ he => List.mem_of_mem_erase (receive_pending ▸ he)
  | reconfigure => exact .inl fun _ he => reconfigure_pending ▸ he
  | _ => exact .inl fun _ he => he

lemma move_sent (hm : Move ok w w') : ∃ new, w'.sent = w.sent ++ new := by
  cases hm with
  | view hv => exact ⟨[], by rw [hv.sent, List.append_nil]⟩
  | edit _ => exact ⟨[], by rw [(editCell_keeps _ _).2.1, List.append_nil]⟩
  | release => exact ⟨_, release_sent⟩
  | @submit page c _ => exact ⟨[c], rfl⟩
  | receive _ _ => exact ⟨_, receive_sent⟩
  | reconfigure => exact ⟨[], by rw [reconfigure_sent, List.append_nil]⟩
  | poll => exact ⟨_, rfl⟩
  | _ => exact ⟨[], (List.append_nil _).symm⟩

lemma tidy_move (hm : Move ok w w') (h : Tidy w) : Tidy w' where
  counted := counted_move hm h.counted
  others page hn := by
    rcases @move_subscription w w' page ok hm with he | he | ⟨entry, he, rfl, r, rfl⟩
    · exact he.trans (h.others page hn)
    · exact he
    · rw [receive_panels, if_pos rfl, repliedPanel_subscription]
      · exact h.others _ hn
      · exact fun ho => hn (h.paged entry he (.inl ho))
      · exact fun ho => hn (h.paged entry he (.inr ho))
  paged entry he ho := by
    rcases move_pending hm with hp | ⟨page, c, hr, rfl⟩
    · exact h.paged entry (hp entry he) ho
    · rcases List.mem_append.mp he with hold | hnew
      · exact h.paged entry hold ho
      · obtain rfl := List.mem_singleton.mp hnew
        exact hr.topic ho
  numbered entry he := by
    obtain ⟨new, hnew⟩ := move_sent hm
    rcases move_pending hm with hp | ⟨page, c, hr, rfl⟩
    · have hlt := h.numbered entry (hp entry he)
      rw [hnew, List.length_append]
      omega
    · have hlength : (submit w page c).sent.length = w.sent.length + 1 := List.length_append
      rw [hlength]
      rcases List.mem_append.mp he with hold | hfresh
      · exact Nat.lt_succ_of_lt (h.numbered entry hold)
      · obtain rfl := List.mem_singleton.mp hfresh
        exact Nat.lt_succ_self _

lemma tidy_moves (hm : Moves ok w w') (h : Tidy w) : Tidy w' :=
  chain_invariant (I := Tidy) (fun _ _ hstep ht => tidy_move hstep ht) hm h

lemma tidy_blank : Tidy {} :=
  ⟨sound_blank.counted, fun _ _ => rfl, fun _ he => absurd he List.not_mem_nil,
    fun _ he => absurd he List.not_mem_nil⟩

end Tidy

structure Awaited (w : Workspace) (operation : RemoteOperation) (entry : Pending) : Prop where
  pending : entry ∈ w.pending
  page : entry.page = .topic
  epoch : entry.epoch = w.epoch
  operation : entry.command.operation = operation

/-- The Subscribe requests that the page waits for. -/
def acquiring (w : Workspace) (t : ℕ) : Prop := ∃ entry, Awaited w .subscribe entry ∧ entry.ticket = t

def returning (w : Workspace) (t handle : ℕ) : Prop :=
  ∃ entry, Awaited w .unsubscribe entry ∧ entry.ticket = t ∧ entry.command.handle = handle

section Awaited

variable {o : RemoteOperation} {it : Pending} {t handle : ℕ}

lemma acquiring_congr (h : ∀ it, Awaited w' .subscribe it ↔ Awaited w .subscribe it) :
    acquiring w' = acquiring w := by
  funext t
  simp only [acquiring, h]

lemma returning_congr (h : ∀ it, Awaited w' .unsubscribe it ↔ Awaited w .unsubscribe it) :
    returning w' = returning w := by
  funext t handle
  simp only [returning, h]

lemma awaited_congr (hp : w'.pending = w.pending) (he : w'.epoch = w.epoch) :
    Awaited w' o it ↔ Awaited w o it := by
  constructor
  · rintro ⟨hm, hpage, hepoch, ho⟩
    exact ⟨hp ▸ hm, hpage, hepoch.trans he, ho⟩
  · rintro ⟨hm, hpage, hepoch, ho⟩
    exact ⟨hp ▸ hm, hpage, hepoch.trans he.symm, ho⟩

lemma awaited_submit : Awaited (submit w page c) o it ↔ Awaited w o it ∨
    it = ⟨w.sent.length, c, page, w.epoch, (w.panels page).revision⟩ ∧ page = .topic ∧ c.operation = o := by
  constructor
  · rintro ⟨hm, hpage, hepoch, ho⟩
    rcases List.mem_append.mp hm with hold | hnew
    · exact .inl ⟨hold, hpage, hepoch, ho⟩
    · obtain rfl := List.mem_singleton.mp hnew
      exact .inr ⟨rfl, hpage, ho⟩
  · rintro (⟨hm, hpage, hepoch, ho⟩ | ⟨rfl, hpage, ho⟩)
    · exact ⟨List.mem_append_left _ hm, hpage, hepoch, ho⟩
    · exact ⟨List.mem_append_right _ (List.mem_singleton_self _), hpage, rfl, ho⟩

lemma acquiring_submit : acquiring (submit w page c) t ↔
    acquiring w t ∨ t = w.sent.length ∧ page = .topic ∧ c.operation = .subscribe := by
  simp only [acquiring, awaited_submit]
  constructor
  · rintro ⟨it, h | ⟨rfl, h⟩, rfl⟩
    · exact .inl ⟨it, h, rfl⟩
    · exact .inr ⟨rfl, h⟩
  · rintro (⟨it, h, ht⟩ | ⟨rfl, h⟩)
    · exact ⟨it, .inl h, ht⟩
    · exact ⟨_, .inr ⟨rfl, h⟩, rfl⟩

lemma returning_submit : returning (submit w page c) t handle ↔ returning w t handle ∨
    t = w.sent.length ∧ handle = c.handle ∧ page = .topic ∧ c.operation = .unsubscribe := by
  simp only [returning, awaited_submit]
  constructor
  · rintro ⟨it, h | ⟨rfl, h⟩, rfl, rfl⟩
    · exact .inl ⟨it, h, rfl, rfl⟩
    · exact .inr ⟨rfl, rfl, h⟩
  · rintro (⟨it, h, ht⟩ | ⟨rfl, rfl, h⟩)
    · exact ⟨it, .inl h, ht⟩
    · exact ⟨_, .inr ⟨rfl, h⟩, rfl, rfl⟩

/-- An idle topic page waits for nothing. -/
lemma Tidy.idle (h : Tidy w) (hb : (w.panels .topic).busy = false) (hm : it ∈ w.pending) :
    it.page ≠ .topic := by
  have hcount := h.counted.busy .topic
  rw [hb, if_neg (by decide), List.countP_eq_zero] at hcount
  simpa using hcount it hm

lemma Tidy.alone (h : Tidy w) (he : entry ∈ w.pending) (hp : entry.page = .topic)
    (hm : it ∈ w.pending.erase entry) : it.page ≠ .topic := by
  have hle : w.pending.countP (fun it => it.page = Page.topic) ≤ 1 := by
    rw [h.counted.busy]
    split_ifs <;> decide
  have hzero : (w.pending.erase entry).countP (fun it => it.page = Page.topic) = 0 := by
    rw [List.countP_erase, if_pos ⟨he, by simpa using hp⟩]
    omega
  simpa using List.countP_eq_zero.mp hzero it hm

lemma Tidy.only (h : Tidy w) (he : entry ∈ w.pending) (hp : entry.page = .topic) (ha : Awaited w o it) :
    it = entry := by
  by_contra hn
  exact h.alone he hp ((List.mem_erase_of_ne hn).mpr ha.pending) ha.page

lemma awaited_receive (h : ¬ Awaited w o entry) :
    Awaited (receive w entry r) o it ↔ Awaited w o it := by
  constructor
  · rintro ⟨hm, hpage, hepoch, ho⟩
    rw [receive_pending] at hm
    rw [receive_epoch] at hepoch
    exact ⟨List.mem_of_mem_erase hm, hpage, hepoch, ho⟩
  · intro ha
    have hn : it ≠ entry := fun he => h (he ▸ ha)
    refine ⟨?_, ha.page, ?_, ha.operation⟩
    · rw [receive_pending]
      exact (List.mem_erase_of_ne hn).mpr ha.pending
    · rw [receive_epoch]
      exact ha.epoch

lemma Tidy.received (h : Tidy w) (he : entry ∈ w.pending) (hp : entry.page = .topic) :
    ¬ Awaited (receive w entry r) o it := by
  intro ha
  have hm := ha.pending
  rw [receive_pending] at hm
  exact h.alone he hp hm ha.page

end Awaited

section Replies

lemma subscription_receive (hp : entry.page = .topic) (ha : applies w entry r) :
    ((receive w entry r).panels .topic).subscription =
      (applyReply entry.command.operation r (w.panels .topic)).subscription := by
  rw [receive_panels, if_pos hp.symm, repliedPanel, if_pos ha, hp]
  cases entry.command.operation with
  | set =>
    unfold applyReply
    simp only
    split_ifs <;> rfl
  | _ => rfl

lemma subscription_refused (ha : ¬ applies w entry r) :
    ((receive w entry r).panels page).subscription = (w.panels page).subscription := by
  rw [receive_panels, repliedPanel, if_neg ha]
  split_ifs with hp
  · rw [hp]
  · rfl

lemma staleCommands_eq (h : ¬ (entry.epoch = w.epoch ∧ entry.command.operation = .subscribe)) :
    staleCommands w entry r = [] := if_neg fun hs => h ⟨hs.1, hs.2.2.1⟩

end Replies

section Epochs

lemma epoch_move (hm : Move ok w w') : w.epoch ≤ w'.epoch := by
  cases hm with
  | view hv => exact hv.epoch.symm.le
  | @edit page row text _ =>
    rcases @editCell_cases w page row text with he | ⟨-, he⟩
    · rw [he]
    · rw [he]
      exact le_rfl
  | release => rw [release_epoch]
  | receive _ _ => rw [receive_epoch]
  | reconfigure => exact Nat.le_succ _
  | _ => exact le_rfl

lemma epoch_moves (hm : Moves ok w w') : w.epoch ≤ w'.epoch :=
  chain_invariant (I := fun v => w.epoch ≤ v.epoch) (fun _ _ hstep hle => hle.trans (epoch_move hstep)) hm
    le_rfl

/-- No request comes from a later epoch. -/
def Past (w : Workspace) : Prop := ∀ entry ∈ w.pending, entry.epoch ≤ w.epoch

lemma past_move (hm : Move ok w w') (h : Past w) : Past w' := by
  intro entry he
  have hle := epoch_move hm
  rcases move_pending hm with hp | ⟨page, c, -, rfl⟩
  · exact (h entry (hp entry he)).trans hle
  · rcases List.mem_append.mp he with hold | hnew
    · exact h entry hold
    · obtain rfl := List.mem_singleton.mp hnew
      exact le_rfl

/-- A new epoch begins, and nothing else. -/
def Renews (w w' : Workspace) : Prop :=
  ∃ v shutdown, w' = begun v shutdown ∧ v.epoch = w.epoch ∧ v.pending = w.pending ∧ v.sent = w.sent

lemma renews_configureConfirmed (shutdown : Bool) (hostId : String) :
    (configureConfirmed w shutdown hostId).epoch = w.epoch ∨
    Renews w (configureConfirmed w shutdown hostId) := by
  rcases @configureConfirmed_cases w shutdown hostId with h | h <;> rw [h]
  · exact .inl rfl
  · exact .inr ⟨w, shutdown, rfl, rfl, rfl, rfl⟩

lemma renews_closeConfirmed : (closeConfirmed w).epoch = w.epoch ∨ Renews w (closeConfirmed w) := by
  rcases closeConfirmed_cases w with ⟨-, h⟩ | ⟨-, h⟩ <;> rw [h]
  · exact .inl rfl
  · exact .inr ⟨{ w with closing := true }, true, rfl, rfl, rfl, rfl⟩

lemma renews_answer {q : Question} (yes : Bool) (hq : Allowed w q) :
    (answer w q yes).epoch = w.epoch ∨ Renews w (answer w q yes) := by
  unfold answer
  cases yes with
  | true =>
    cases q with
    | host next => exact .inl (still_hostConfirmed.trans (still_resume next)).epoch
    | select page row => exact .inl (still_selectConfirmed page row).epoch
    | request page operation => exact .inl (still_requestConfirmed page hq).epoch
    | configure hostId =>
      exact renews_configureConfirmed (w := { w with question := none, log := _ }) false hostId
    | close => exact renews_closeConfirmed (w := { w with question := none, log := _ })
  | false =>
    cases q with
    | host next => exact .inl (still_resume next).epoch
    | select page row => exact .inl (still_selectRefused page).epoch
    | _ => exact .inl rfl

lemma renews_step {e : Event} (he : ¬ e.isTick) (hp : Permitted w) :
    (step w e).epoch = w.epoch ∨ Renews w (step w e) := by
  unfold step
  split
  · exact absurd rfl he
  · rename_i q yes hq
    exact renews_answer yes (hp q hq)
  · exact .inl rfl
  · exact .inl rfl
  · left
    split_ifs
    · exact (still_setHostIndex _ none).epoch
    · rfl
  · left
    split_ifs
    · exact (still_setCurrentRow _ _).epoch
    · rfl
  · exact .inl (still_navigate _).epoch
  · exact .inl (still_openRemote _ _).epoch
  · exact .inl (still_press _ _).epoch
  · left
    split_ifs
    · exact (unchanged_shifts (@shifts_cancelSelected (fun _ _ => True) True w)).epoch
    · rfl
  · rename_i handle _
    left
    split_ifs
    · obtain ⟨activities, enabled, h⟩ := showActivity_cases { w with activity := some handle }
      rw [h]
    · rfl
  · exact .inl (still_editCell _ _ _).epoch
  · exact .inl rfl
  · unfold configure
    split_ifs
    · exact .inl rfl
    · exact .inl rfl
    · exact renews_configureConfirmed false _
  · unfold beginClose
    split_ifs
    · exact .inl rfl
    · exact .inl rfl
    · exact .inl rfl
    · exact renews_closeConfirmed

lemma Renews.panels (h : Renews w w') (page : Page) : (w'.panels page).subscription = 0 := by
  obtain ⟨v, shutdown, rfl, -⟩ := h
  change ((reconfigure v).panels page).subscription = 0
  rw [reconfigure_panels]

lemma Renews.sent (h : Renews w w') : w'.sent = w.sent := by
  obtain ⟨v, shutdown, rfl, -, -, hs⟩ := h
  exact (reconfigure_sent (w := v)).trans hs

/-- The requests that wait are those of earlier epochs. -/
lemma Renews.pending (h : Renews w w') (hp : Past w) (he : entry ∈ w'.pending) : entry.epoch ≠ w'.epoch := by
  obtain ⟨v, shutdown, rfl, hv, hw, -⟩ := h
  change entry ∈ (reconfigure v).pending at he
  rw [reconfigure_pending, hw] at he
  have hle := hp entry he
  change entry.epoch ≠ v.epoch + 1
  omega

end Epochs

end KcfTools.RemoteWorkspace
