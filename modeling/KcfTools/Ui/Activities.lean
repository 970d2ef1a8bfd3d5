import KcfTools.Lib.Evictions
import KcfTools.Lib.Histories
import KcfTools.Lib.Tables
import KcfTools.Ui.Shifts

/-! The table of activities: what enters it, and that an action only leaves it once it is over. -/

namespace KcfTools.RemoteWorkspace

open Relation Transitions Std

/-- The workspace no longer waits for the action. -/
def Over (a : RemoteActivity) : Prop := a.terminal ∨ a.communicationLost

instance : DecidablePred Over := fun a => inferInstanceAs (Decidable (a.terminal ∨ a.communicationLost))

lemma trim_eq (activities : ExtTreeMap ℕ RemoteActivity) :
    trim activities = Evictions.evict 128 Over activities := rfl

lemma trim_some {activities : ExtTreeMap ℕ RemoteActivity} {h : ℕ} {a : RemoteActivity}
    (ha : (trim activities)[h]? = some a) : activities[h]? = some a := by
  rw [trim_eq] at ha
  exact Evictions.evict_some activities ha

section Table

variable {ok : ℕ → RemoteEndpoint → Prop} {lists : Prop} {w w' : Workspace} {h : ℕ} {a : RemoteActivity}

/-- What the selected activity shows is the same action. -/
lemma showActivity_get (hs : (showActivity w).activities[h]? = some a) :
    ∃ b, w.activities[h]? = some b ∧ a.handle = b.handle ∧ a.endpoint = b.endpoint := by
  unfold showActivity at hs
  split at hs
  · exact ⟨a, hs, rfl, rfl⟩
  · split at hs
    · exact ⟨a, hs, rfl, rfl⟩
    · rename_i k _ _ b hb
      simp only [Tables.getElem?_insert] at hs
      split_ifs at hs with hk
      · subst hk
        obtain rfl := Option.some.inj hs
        exact ⟨b, hb, rfl, rfl⟩
      · exact ⟨a, hs, rfl, rfl⟩

lemma showActivity_mem : h ∈ (showActivity w).activities ↔ h ∈ w.activities := by
  unfold showActivity
  split
  · rfl
  · split
    · rfl
    · rename_i k _ _ b hb
      simp only [ExtTreeMap.mem_insert, Std.compare_eq_iff_eq]
      constructor
      · rintro (rfl | hm)
        · exact ExtTreeMap.mem_iff_isSome_getElem?.mpr (by rw [hb]; rfl)
        · exact hm
      · exact .inr

lemma showActivity_size : (showActivity w).activities.size = w.activities.size := by
  unfold showActivity
  split
  · rfl
  · split
    · rfl
    · rename_i k _ _ b hb
      have hk : k ∈ w.activities := ExtTreeMap.mem_iff_isSome_getElem?.mpr (by rw [hb]; rfl)
      rw [ExtTreeMap.size_insert, if_pos (ExtTreeMap.contains_iff_mem.mpr hk)]

lemma detach_get (hs : (w.activities.map detach)[h]? = some a) :
    ∃ b, w.activities[h]? = some b ∧ a.handle = b.handle ∧ a.endpoint = b.endpoint := by
  rw [ExtTreeMap.getElem?_map] at hs
  obtain ⟨b, hb, rfl⟩ := Option.map_eq_some_iff.mp hs
  exact ⟨b, hb, rfl, rfl⟩

/-- The table, the commands and the poll that is under way. -/
structure Owned (began : ℕ → RemoteEndpoint → Prop) (w : Workspace) : Prop where
  activities : ∀ (h : ℕ) a, w.activities[h]? = some a → a.handle = h ∧ began h a.endpoint
  cancels : ∀ c ∈ w.sent, c.operation = .cancel → began c.handle c.endpoint
  polling : ∀ t, w.polling = some t → w.sent[t]? = some { operation := .poll }

lemma Owned.mono {began began' : ℕ → RemoteEndpoint → Prop} (hw : Owned began w)
    (hb : ∀ h e, began h e → began' h e) : Owned began' w :=
  ⟨fun h a ha => (hw.activities h a ha).imp_right (hb _ _), fun c hc ho => hb _ _ (hw.cancels c hc ho),
    hw.polling⟩

/-- Only entries with the same handle and endpoint as before. -/
lemma Owned.keep (hw : Owned ok w)
    (ha : ∀ (h : ℕ) a, w'.activities[h]? = some a → ∃ b, w.activities[h]? = some b ∧ a.handle = b.handle ∧
      a.endpoint = b.endpoint) (hs : w'.sent = w.sent) (hp : w'.polling = w.polling) : Owned ok w' where
  activities h a hget := by
    obtain ⟨b, hb, hh, he⟩ := ha h a hget
    obtain ⟨hhandle, hbegan⟩ := hw.activities h b hb
    exact ⟨hh.trans hhandle, he ▸ hbegan⟩
  cancels c hc := hw.cancels c (hs ▸ hc)
  polling t ht := by
    rw [hs]
    exact hw.polling t (hp ▸ ht)

lemma owned_shift (hw : Owned ok w) (hs : Shift ok lists w w') : Owned ok w' := by
  cases hs with
  | still hs =>
    obtain ⟨new, hsent, hnew⟩ := hs.sent
    refine ⟨hs.activities ▸ hw.activities, fun c hc ho => ?_, fun t ht => ?_⟩
    · rw [hsent] at hc
      rcases List.mem_append.mp hc with hc | hc
      · exact hw.cancels c hc ho
      · exact absurd ho (hnew c hc)
    · rw [hsent]
      exact Histories.getElem?_earlier (hw.polling t (hs.polling ▸ ht))
  | shown =>
    refine hw.keep (fun h a => showActivity_get) ?_ ?_ <;>
      obtain ⟨activities, enabled, he⟩ := showActivity_cases w <;> rw [he]
  | @entered a hok =>
    refine ⟨fun h b hb => ?_, hw.cancels, hw.polling⟩
    simp only [Tables.getElem?_insert] at hb
    split_ifs at hb with hk
    · obtain rfl := Option.some.inj hb
      exact ⟨hk, hk ▸ hok⟩
    · exact hw.activities h b hb
  | listed _ =>
    unfold listActivities
    simp only
    refine hw.keep (fun h a ha => ?_) ?_ ?_
    · obtain ⟨b, hb, hsame⟩ := showActivity_get ha
      exact ⟨b, trim_some hb, hsame⟩
    all_goals
      obtain ⟨activities, enabled, he⟩ := showActivity_cases
        { w with
          activities := trim w.activities, activityItems := (trim w.activities).keys
          activity := w.activity.filter fun h => h ∈ (trim w.activities).keys }
      rw [he]
  | polled =>
    refine ⟨hw.activities, fun c hc ho => ?_, fun t ht => ?_⟩
    · rcases List.mem_append.mp hc with hc | hc
      · exact hw.cancels c hc ho
      · obtain rfl := List.mem_singleton.mp hc
        cases ho
    · obtain rfl := Option.some.inj ht
      exact List.getElem?_concat_length
  | collected => exact ⟨hw.activities, hw.cancels, fun t ht => by cases ht⟩
  | picked _ => exact ⟨hw.activities, hw.cancels, hw.polling⟩
  | @cancelled h a hs ha _ _ =>
    refine ⟨hw.activities, fun c hc ho => ?_, fun t ht => Histories.getElem?_earlier (hw.polling t ht)⟩
    rcases List.mem_append.mp hc with hc | hc
    · exact hw.cancels c hc ho
    · obtain rfl := List.mem_singleton.mp hc
      exact (hw.activities h a ha).2

lemma owned_shifts (hw : Owned ok w) (hs : Shifts ok lists w w') : Owned ok w' := by
  induction hs with
  | refl => exact hw
  | tail _ hstep ih => exact owned_shift ih hstep

lemma owned_refresh (hw : Owned ok w) (input : TickInput) : Owned ok (refresh w input) := by
  have hs : Shifts ok False w (refresh w input) := shifts_refresh
  exact owned_shifts hw hs

lemma owned_begun (hw : Owned ok w) (shutdown : Bool) : Owned ok (begun w shutdown) :=
  hw.keep (fun _ _ => detach_get) rfl rfl

lemma owned_clicks (hw : Owned ok w) (hc : Clicks ok lists w w') : Owned ok w' := by
  obtain ⟨v, hs, rfl | hb⟩ := hc
  · exact owned_shifts hw hs
  have hv := owned_shifts hw hs
  cases hb with
  | begun _ _ => exact owned_begun hv false
  | closes _ =>
    have hclosing : Owned ok { v with closing := true } := ⟨hv.activities, hv.cancels, hv.polling⟩
    rcases closeConfirmed_cases v with ⟨-, he⟩ | ⟨-, he⟩ <;> rw [he]
    · exact hclosing
    · exact owned_begun hclosing true

lemma owned_completes (hw : Owned ok w) (hc : Completes w w') : Owned ok w' := by
  cases hc with
  | done => exact ⟨hw.activities, hw.cancels, hw.polling⟩
  | ended => exact ⟨hw.activities, hw.cancels, hw.polling⟩
  | again =>
    have hdone : Owned ok { w with configuring := false } := ⟨hw.activities, hw.cancels, hw.polling⟩
    exact owned_begun hdone true

lemma owned_blank : Owned ok {} :=
  ⟨fun h a ha => by simp at ha, fun c hc => absurd hc List.not_mem_nil, by simp⟩

end Table

section Runs

variable {ok : ℕ → RemoteEndpoint → Prop} {lists : Prop} {w w' : Workspace} {h : ℕ}

/-- The list shows activities of the table, and the selected one is in the list. -/
structure Tabled (w : Workspace) : Prop where
  handles : ∀ (h : ℕ) a, w.activities[h]? = some a → a.handle = h
  items : ∀ h ∈ w.activityItems, h ∈ w.activities
  selected : ∀ h, w.activity = some h → h ∈ w.activityItems

lemma keeps_shift (hs : Shift ok False w w') (hm : h ∈ w.activities) : h ∈ w'.activities := by
  cases hs with
  | still hs => exact hs.activities ▸ hm
  | shown => exact showActivity_mem.mpr hm
  | entered _ => exact ExtTreeMap.mem_insert.mpr (.inr hm)
  | listed hl => exact hl.elim
  | _ => exact hm

lemma keeps_shifts (hs : Shifts ok False w w') (hm : h ∈ w.activities) : h ∈ w'.activities := by
  induction hs with
  | refl => exact hm
  | tail _ hstep ih => exact keeps_shift hstep ih

lemma keeps_detach (hm : h ∈ w.activities) : h ∈ w.activities.map detach := by
  rw [ExtTreeMap.mem_map]
  exact hm

lemma keeps_begins (hb : Begins w w') (hm : h ∈ w.activities) : h ∈ w'.activities := by
  cases hb with
  | begun => exact keeps_detach hm
  | closes =>
    rcases closeConfirmed_cases w with ⟨-, he⟩ | ⟨-, he⟩ <;> rw [he]
    · exact hm
    · exact @keeps_detach { w with closing := true } h hm

lemma keeps_completes (hc : Completes w w') (hm : h ∈ w.activities) : h ∈ w'.activities := by
  cases hc with
  | again => exact @keeps_detach { w with configuring := false } h hm
  | _ => exact hm

lemma keeps_clicks (hc : Clicks ok False w w') (hm : h ∈ w.activities) : h ∈ w'.activities := by
  obtain ⟨v, hs, rfl | hb⟩ := hc
  · exact keeps_shifts hs hm
  · exact keeps_begins hb (keeps_shifts hs hm)

/-- A tick lists the activities of a poll's reply in `v`. -/
def Lists (w : Workspace) (input : TickInput) (v : Workspace) : Prop :=
  ¬ (w.configuring ∧ input.configured ∧ w.closing) ∧
    ∃ r, (replies (refresh (configured w input) input) input.ready).polling.bind input.ready = some r ∧
      v = noted (replies (refresh (configured w input) input) input.ready) r

lemma poll_activities : (poll w).activities = w.activities := by
  unfold poll
  split_ifs <;> rfl

lemma tick_leaves {input : TickInput} (hm : h ∈ w.activities) (hn : h ∉ (tick w input).activities) :
    ∃ v, Lists w input v ∧ h ∈ v.activities ∧ (∀ k, k ∈ (tick w input).activities ↔ k ∈ trim v.activities) ∧
      (tick w input).activities.size = (trim v.activities).size := by
  by_cases hc : w.configuring ∧ input.configured ∧ w.closing
  · exact absurd (keeps_completes (completes_closing hc) hm) hn
  let u := replies (refresh (configured w input) input) input.ready
  have hu : h ∈ u.activities := by
    have hconfigured : h ∈ (configured w input).activities := by
      rcases configured_cases hc with ⟨-, he⟩ | ⟨-, -, hdone⟩
      · exact he.symm ▸ hm
      · exact keeps_completes hdone hm
    have hrefresh : Shifts (fun _ _ => True) False (configured w input) (refresh (configured w input) input) :=
      shifts_refresh
    have hreplies : Shifts (fun _ _ => True) False (refresh (configured w input) input) u :=
      shifts_replies (fun _ _ => trivial) _
    exact keeps_shifts (hrefresh.trans hreplies) hconfigured
  have htick : (tick w input).activities = (pollReply u input.ready).activities := by
    unfold tick
    rw [if_neg hc]
    exact poll_activities
  rw [htick, pollReply_eq] at hn ⊢
  cases hr : u.polling.bind input.ready with
  | none =>
    rw [hr] at hn
    exact absurd hu hn
  | some r =>
    refine ⟨noted u r, ⟨hc, r, hr, rfl⟩, ?_, fun k => showActivity_mem, showActivity_size⟩
    have hnoted : Shifts (fun _ _ => True) False u (noted u r) := shifts_noted fun _ _ _ => trivial
    exact keeps_shifts hnoted hu

lemma tabled_shift (hw : Tabled w) (hs : Shift ok lists w w') : Tabled w' := by
  cases hs with
  | still hs =>
    refine ⟨hs.activities ▸ hw.handles, ?_, ?_⟩
    · rw [hs.activityItems, hs.activities]
      exact hw.items
    · rw [hs.activity, hs.activityItems]
      exact hw.selected
  | shown =>
    have hhandles : ∀ (h : ℕ) a, (showActivity w).activities[h]? = some a → a.handle = h := fun h a ha => by
      obtain ⟨b, hb, hh, -⟩ := showActivity_get ha
      exact hh.trans (hw.handles h b hb)
    obtain ⟨activities, enabled, he⟩ := showActivity_cases w
    refine ⟨hhandles, fun h hi => showActivity_mem.mpr (hw.items h ?_), fun h hi => ?_⟩
    · rw [he] at hi
      exact hi
    · rw [he] at hi ⊢
      exact hw.selected h hi
  | @entered a _ =>
    refine ⟨fun h b hb => ?_, fun h hi => ExtTreeMap.mem_insert.mpr (.inr (hw.items h hi)), hw.selected⟩
    simp only [Tables.getElem?_insert] at hb
    split_ifs at hb with hk
    · obtain rfl := Option.some.inj hb
      exact hk
    · exact hw.handles h b hb
  | listed _ =>
    let v : Workspace := { w with
      activities := trim w.activities, activityItems := (trim w.activities).keys
      activity := w.activity.filter fun h => h ∈ (trim w.activities).keys }
    change Tabled (showActivity v)
    obtain ⟨activities, enabled, he⟩ := showActivity_cases v
    refine ⟨fun h a ha => ?_, fun h hi => showActivity_mem.mpr ?_, fun h hi => ?_⟩
    · obtain ⟨b, hb, hh, -⟩ := showActivity_get ha
      exact hh.trans (hw.handles h b (trim_some hb))
    · rw [he] at hi
      exact ExtTreeMap.mem_keys.mp hi
    · rw [he] at hi ⊢
      exact ExtTreeMap.mem_keys.mpr (by simpa using (Option.filter_eq_some_iff.mp hi).2)
  | picked hi =>
    refine ⟨hw.handles, hw.items, fun k hk => ?_⟩
    obtain rfl := Option.some.inj hk
    exact hi
  | _ => exact ⟨hw.handles, hw.items, hw.selected⟩

lemma tabled_shifts (hw : Tabled w) (hs : Shifts ok lists w w') : Tabled w' := by
  induction hs with
  | refl => exact hw
  | tail _ hstep ih => exact tabled_shift ih hstep

lemma tabled_begun (hw : Tabled w) (shutdown : Bool) : Tabled (begun w shutdown) := by
  refine ⟨fun h a ha => ?_, fun h hi => keeps_detach (hw.items h hi), hw.selected⟩
  obtain ⟨b, hb, hh, -⟩ := detach_get ha
  exact hh.trans (hw.handles h b hb)

lemma tabled_clicks (hw : Tabled w) (hc : Clicks ok lists w w') : Tabled w' := by
  obtain ⟨v, hs, rfl | hb⟩ := hc
  · exact tabled_shifts hw hs
  have hv := tabled_shifts hw hs
  cases hb with
  | begun _ _ => exact tabled_begun hv false
  | closes _ =>
    have hclosing : Tabled { v with closing := true } := ⟨hv.handles, hv.items, hv.selected⟩
    rcases closeConfirmed_cases v with ⟨-, he⟩ | ⟨-, he⟩ <;> rw [he]
    · exact hclosing
    · exact tabled_begun hclosing true

lemma tabled_completes (hw : Tabled w) (hc : Completes w w') : Tabled w' := by
  cases hc with
  | again =>
    have hdone : Tabled { w with configuring := false } := ⟨hw.handles, hw.items, hw.selected⟩
    exact tabled_begun hdone true
  | _ => exact ⟨hw.handles, hw.items, hw.selected⟩

lemma tabled_blank : Tabled {} := ⟨fun h a ha => by simp at ha, fun h hi => absurd hi List.not_mem_nil, by simp⟩

/-- Between two events. -/
structure Between (w : Workspace) : Prop where
  settled : Settled w
  tabled : Tabled w

lemma between_tick (hw : Between w) (input : TickInput) : Between (tick w input) := by
  by_cases hc : w.configuring ∧ input.configured ∧ w.closing
  · have hdone := completes_closing hc
    exact ⟨hw.settled.completes hdone, tabled_completes hw.tabled hdone⟩
  · have hconfigured : Between (configured w input) := by
      rcases configured_cases hc with ⟨-, he⟩ | ⟨-, -, hdone⟩
      · exact he.symm ▸ hw
      · exact ⟨hw.settled.completes hdone, tabled_completes hw.tabled hdone⟩
    have hshifts : Shifts (fun _ _ => True) True (configured w input) (tick w input) := by
      unfold tick
      rw [if_neg hc]
      exact shifts_refresh.trans ((shifts_replies (fun _ _ => trivial) _).trans
        ((shifts_pollReply trivial fun _ _ _ _ _ _ _ => trivial).trans
          (shifts_poll.trans (shifts_still still_enable))))
    exact ⟨hconfigured.settled.unchanged (unchanged_shifts hshifts), tabled_shifts hconfigured.tabled hshifts⟩

lemma step_tick (w : Workspace) (input : TickInput) : step w (.tick input) = tick w input := by
  unfold step
  cases w.question <;> rfl

/-- Any event but a tick. -/
lemma Between.clicks (hw : Between w) {e : Event} (he : ¬ e.isTick) :
    Clicks (fun _ _ => True) False w (step w e) :=
  clicks_step he hw.settled.permitted hw.settled.ending

lemma between_step (hw : Between w) (e : Event) : Between (step w e) := by
  by_cases he : e.isTick
  · cases e with
    | tick input => exact step_tick w input ▸ between_tick hw input
    | _ => cases he
  · have hc := hw.clicks he
    exact ⟨hw.settled.clicks hc, tabled_clicks hw.tabled hc⟩

lemma between_run (input : TickInput) (events : List Event) : Between (run (start input) events) := by
  have hstart : Between (start input) := between_tick ⟨settled_blank, tabled_blank⟩ input
  unfold run
  exact foldl_invariant (I := Between) (fun _ e h => between_step h e) events _ hstart

/-- The list of activities shows the table, and an action leaves the table only when a poll's reply is listed,
the table holds more than 128 actions, and this one is over, after all actions with smaller handles that are. -/
theorem activities_kept (input : TickInput) (events : List Event) (e : Event) :
    let w := run (start input) events
    Tabled w ∧ ∀ h ∈ w.activities, h ∉ (step w e).activities →
      ∃ input v a, e = .tick input ∧ Lists w input v ∧ 128 < v.activities.size ∧ v.activities[h]? = some a ∧
      Over a ∧
        (∀ (k : ℕ) b, v.activities[k]? = some b → Over b → k < h → k ∉ (step w e).activities) ∧
          128 ≤ (step w e).activities.size := by
  intro w
  have hw : Between w := between_run input events
  refine ⟨hw.tabled, fun h hm hn => ?_⟩
  by_cases he : e.isTick
  swap
  · exact absurd (keeps_clicks (hw.clicks he) hm) hn
  cases e with
  | tick input =>
    rw [step_tick] at hn ⊢
    obtain ⟨v, hl, hv, hkeys, hsizes⟩ := tick_leaves hm hn
    have hdropped : h ∉ Evictions.evict 128 Over v.activities := fun ht => hn ((hkeys h).mpr ht)
    obtain ⟨hsize, ⟨a, ha, hover⟩, hprior⟩ := Evictions.evicted v.activities hv hdropped
    refine ⟨input, v, a, rfl, hl, hsize, ha, hover, fun k b hb hover hlt hk => ?_, ?_⟩
    · exact hprior k b hb hover (compare_lt_iff_lt.mpr hlt) ((hkeys k).mp hk)
    · rw [hsizes, trim_eq]
      exact Evictions.size_evict v.activities hsize
  | _ => cases he

end Runs

end KcfTools.RemoteWorkspace
