import KcfTools.Ui.MoveFields

/-! The receive rate of a topic. A rate is measured from a baseline, and a decrease of the packet count is
compared with the baseline and not with the reply before. -/

namespace KcfTools.RemoteWorkspace

open Transitions

section Replies

def Active (a : RemoteActivity) : Prop := a.state = 1 ∧ ¬ a.communicationLost

instance : DecidablePred Active := fun a => inferInstanceAs (Decidable (a.state = 1 ∧ ¬ a.communicationLost))

def fresh (a : RemoteActivity) : TopicRate := ⟨a.observedAt, a.receivedPackets, a.routeId, -1⟩

/-- The rate that a reply is measured against. -/
def rebase (rate : TopicRate) (a : RemoteActivity) : TopicRate :=
  if rate.observedAt = 0 ∨ rate.route ≠ a.routeId ∨ a.receivedPackets < rate.packets then fresh a else rate

/-- Half a second has passed since the rate's baseline. -/
def Long (rate : TopicRate) (a : RemoteActivity) : Prop := 1 / 2 ≤ seconds (a.observedAt - rate.observedAt)

instance (rate : TopicRate) (a : RemoteActivity) : Decidable (Long rate a) :=
  inferInstanceAs (Decidable (1 / 2 ≤ seconds (a.observedAt - rate.observedAt)))

/-- The value that a reply gives the rate, if any. -/
def newHz (r : Option TopicRate) (a : RemoteActivity) : Option ℚ :=
  if Active a ∧ Long (rebase (r.getD {}) a) a then some (measure (r.getD {}) a).hz else none

def Dropped (a : RemoteActivity) : Prop := ¬ a.hasValue ∧ (a.communicationLost ∨ a.terminal)

instance : DecidablePred Dropped := fun a =>
  inferInstanceAs (Decidable (¬ a.hasValue ∧ (a.communicationLost ∨ a.terminal)))

/-- The rate of a handle after one more reply. -/
def track (r : Option TopicRate) (a : RemoteActivity) : Option TopicRate :=
  if Active a ∧ ¬ Dropped a then some (measure (r.getD {}) a) else none

def tracked (replies : List RemoteActivity) : Option TopicRate := replies.foldl track none

/-- The topic was active on one route with a growing count from the first to the last reply. -/
structure Stretch (b : RemoteActivity) (mid : List RemoteActivity) (a : RemoteActivity) : Prop where
  active : ∀ x ∈ b :: mid ++ [a], Active x ∧ x.routeId = a.routeId
  growing : (b :: mid ++ [a]).IsChain fun x y => x.receivedPackets ≤ y.receivedPackets

/-- A value spans a stretch from an earlier reply. -/
def Spans (before : List RemoteActivity) (a : RemoteActivity) (v : ℚ) : Prop :=
  ∃ front b mid, before = front ++ b :: mid ∧ Stretch b mid a ∧
    1 / 2 ≤ seconds (a.observedAt - b.observedAt) ∧
    v = ((a.receivedPackets.toNat : ℚ) - b.receivedPackets.toNat) / seconds (a.observedAt - b.observedAt)

/-- No measurement reaches back before the reply. -/
def Restarted (r : Option TopicRate) (a : RemoteActivity) : Prop := r = none ∨ r = some (fresh a)

/-- Every value spans a stretch, and every decrease discards the running measurement. -/
def MonotoneRates (replies : List RemoteActivity) : Prop :=
  ∀ before a after, replies = before ++ a :: after →
    (∀ v, newHz (tracked before) a = some v → Spans before a v) ∧
    ∀ front l, before = front ++ [l] → a.receivedPackets < l.receivedPackets →
      Restarted (tracked (before ++ [a])) a

/-- The count of a reply has decreased, but not below the baseline of the rate that it continues. -/
def Unnoticed (r : Option TopicRate) (l a : RemoteActivity) : Prop :=
  ∃ rate, r = some rate ∧ Active a ∧ rate.observedAt ≠ 0 ∧ rate.route = a.routeId ∧
    rate.packets ≤ a.receivedPackets ∧ a.receivedPackets < l.receivedPackets ∧
    (Long rate a ∨ ¬ Dropped a ∧ rate ≠ fresh a)

def Noticed (replies : List RemoteActivity) : Prop :=
  ∀ front l a after, replies = front ++ l :: a :: after → ¬ Unnoticed (tracked (front ++ [l])) l a

lemma tracked_append (replies : List RemoteActivity) (a : RemoteActivity) :
    tracked (replies ++ [a]) = track (tracked replies) a := by
  simp [tracked]

lemma measure_eq (rate : TopicRate) (a : RemoteActivity) : measure rate a =
    if Long (rebase rate a) a then
      { rebase rate a with
        hz := (a.receivedPackets - (rebase rate a).packets).toNat /
          seconds (a.observedAt - (rebase rate a).observedAt)
        observedAt := a.observedAt
        packets := a.receivedPackets }
    else rebase rate a := rfl

lemma not_long_fresh (a : RemoteActivity) : ¬ Long (fresh a) a := by
  simp [Long, fresh, seconds]

lemma measure_fresh {rate : TopicRate} {a : RemoteActivity} (h : rebase rate a = fresh a) :
    measure rate a = fresh a := by
  rw [measure_eq, h, if_neg (not_long_fresh a)]

lemma rebase_unset (a : RemoteActivity) : rebase {} a = fresh a := if_pos (.inl rfl)

lemma rebase_kept {rate : TopicRate} {a : RemoteActivity} (h : rebase rate a ≠ fresh a) :
    rebase rate a = rate ∧ rate.observedAt ≠ 0 ∧ rate.route = a.routeId ∧ rate.packets ≤ a.receivedPackets := by
  unfold rebase at h ⊢
  split_ifs at h ⊢ with hc
  · exact absurd rfl h
  · simp only [not_or, not_not, UInt64.not_lt] at hc
    exact ⟨rfl, hc⟩

/-- The rate's baseline is a reply from which a stretch leads to the latest one. -/
def Based (replies : List RemoteActivity) (rate : TopicRate) : Prop :=
  ∃ front b mid, replies = front ++ b :: mid ∧
    (∀ x ∈ b :: mid, Active x ∧ x.routeId = rate.route) ∧
    (b :: mid).IsChain (fun x y => x.receivedPackets ≤ y.receivedPackets) ∧
    rate.observedAt = b.observedAt ∧ rate.packets = b.receivedPackets

lemma Based.self {replies : List RemoteActivity} {a : RemoteActivity} (ha : Active a) {rate : TopicRate}
    (ht : rate.observedAt = a.observedAt) (hp : rate.packets = a.receivedPackets)
    (hr : rate.route = a.routeId) : Based (replies ++ [a]) rate := by
  refine ⟨replies, a, [], rfl, fun x hx => ?_, .singleton a, ht, hp⟩
  obtain rfl := List.mem_singleton.mp hx
  exact ⟨ha, hr.symm⟩

lemma Based.stretch {replies : List RemoteActivity} {rate : TopicRate} {a : RemoteActivity}
    (h : Based replies rate) (ha : Active a) (hr : rate.route = a.routeId)
    (hgrow : ∀ front l, replies = front ++ [l] → l.receivedPackets ≤ a.receivedPackets) :
    ∃ front b mid, replies = front ++ b :: mid ∧ Stretch b mid a ∧ rate.observedAt = b.observedAt ∧
      rate.packets = b.receivedPackets := by
  obtain ⟨front, b, mid, heq, hactive, hchain, ht, hp⟩ := h
  refine ⟨front, b, mid, heq, ⟨fun x hx => ?_, ?_⟩, ht, hp⟩
  · rcases List.mem_append.mp hx with hx | hx
    · exact ⟨(hactive x hx).1, (hactive x hx).2.trans hr⟩
    · obtain rfl := List.mem_singleton.mp hx
      exact ⟨ha, rfl⟩
  · refine List.isChain_append.mpr ⟨hchain, .singleton a, fun x hx y hy => ?_⟩
    obtain rfl : a = y := Option.some.inj hy
    obtain ⟨rest, hrest⟩ := List.getLast?_eq_some_iff.mp hx
    exact hgrow (front ++ rest) x (by rw [heq, hrest, List.append_assoc])

lemma Based.extend {replies : List RemoteActivity} {rate : TopicRate} {a : RemoteActivity}
    (h : Based replies rate) (ha : Active a) (hr : rate.route = a.routeId)
    (hgrow : ∀ front l, replies = front ++ [l] → l.receivedPackets ≤ a.receivedPackets) :
    Based (replies ++ [a]) rate := by
  obtain ⟨front, b, mid, heq, hs, ht, hp⟩ := h.stretch ha hr hgrow
  refine ⟨front, b, mid ++ [a], by rw [heq]; simp, fun x hx => ?_, hs.growing, ht, hp⟩
  exact ⟨(hs.active x hx).1, (hs.active x hx).2.trans hr.symm⟩

/-- A long stretch gives its growth for its time. -/
lemma Based.spans {replies : List RemoteActivity} {rate : TopicRate} {a : RemoteActivity}
    (h : Based replies rate) (ha : Active a) (hr : rate.route = a.routeId) (hlong : Long rate a)
    (hle : rate.packets ≤ a.receivedPackets)
    (hgrow : ∀ front l, replies = front ++ [l] → l.receivedPackets ≤ a.receivedPackets) :
    Spans replies a ((a.receivedPackets - rate.packets).toNat / seconds (a.observedAt - rate.observedAt)) := by
  obtain ⟨front, b, mid, heq, hs, ht, hp⟩ := h.stretch ha hr hgrow
  refine ⟨front, b, mid, heq, hs, by rw [← ht]; exact hlong, ?_⟩
  have hsub : (a.receivedPackets - rate.packets).toNat = a.receivedPackets.toNat - rate.packets.toNat :=
    UInt64.toNat_sub_of_le _ _ hle
  have hle' : rate.packets.toNat ≤ a.receivedPackets.toNat := UInt64.le_iff_toNat_le.mp hle
  rw [hsub, Nat.cast_sub hle', ht, hp]

section Step

variable {r : Option TopicRate} {replies : List RemoteActivity} {a : RemoteActivity}

lemma track_some {rate : TopicRate} (h : track r a = some rate) :
    Active a ∧ ¬ Dropped a ∧ measure (r.getD {}) a = rate := by
  unfold track at h
  split_ifs at h with hc
  exact ⟨hc.1, hc.2, Option.some.inj h⟩

lemma track_fresh (h : Active a → ¬ Dropped a → measure (r.getD {}) a = fresh a) : Restarted (track r a) a := by
  unfold track
  split_ifs with hc
  · exact .inr (congrArg some (h hc.1 hc.2))
  · exact .inl rfl

lemma newHz_some {v : ℚ} (h : newHz r a = some v) :
    Active a ∧ Long (rebase (r.getD {}) a) a ∧ (measure (r.getD {}) a).hz = v := by
  unfold newHz at h
  split_ifs at h with hc
  exact ⟨hc.1, hc.2, Option.some.inj h⟩

lemma Restarted.based (h : Restarted (track r a) a) {rate : TopicRate} (hr : track r a = some rate) :
    Based (replies ++ [a]) rate := by
  obtain h | h := h
  · rw [hr] at h
    cases h
  · obtain rfl : rate = fresh a := Option.some.inj (hr.symm.trans h)
    exact .self (track_some hr).1 rfl rfl rfl

lemma continues_cases (r : Option TopicRate) (a : RemoteActivity) :
    rebase (r.getD {}) a = fresh a ∨ ∃ rate, r = some rate ∧ rebase rate a = rate ∧ rate.observedAt ≠ 0 ∧
      rate.route = a.routeId ∧ rate.packets ≤ a.receivedPackets := by
  by_cases h : rebase (r.getD {}) a = fresh a
  · exact .inl h
  · cases r with
    | none => exact absurd (rebase_unset a) h
    | some rate => exact .inr ⟨rate, rfl, rebase_kept h⟩

/-- What one reply may do. -/
structure Steady (replies : List RemoteActivity) (a : RemoteActivity) : Prop where
  based : ∀ rate, tracked (replies ++ [a]) = some rate → Based (replies ++ [a]) rate
  spans : ∀ v, newHz (tracked replies) a = some v → Spans replies a v
  restarted : ∀ front l, replies = front ++ [l] → a.receivedPackets < l.receivedPackets →
    Restarted (tracked (replies ++ [a])) a

lemma steady_fresh (hshort : Active a → ¬ Long (rebase ((tracked replies).getD {}) a) a)
    (h : Active a → ¬ Dropped a → measure ((tracked replies).getD {}) a = fresh a) : Steady replies a := by
  have hd : Restarted (track (tracked replies) a) a := track_fresh h
  refine ⟨fun rate hr => ?_, fun v hv => ?_, fun front l _ _ => ?_⟩
  · rw [tracked_append] at hr
    exact hd.based hr
  · obtain ⟨ha, hlong, _⟩ := newHz_some hv
    exact absurd hlong (hshort ha)
  · rw [tracked_append]
    exact hd

lemma steady_step (hbased : ∀ rate, tracked replies = some rate → Based replies rate)
    (hseen : ∀ front l, replies = front ++ [l] → ¬ Unnoticed (tracked replies) l a) : Steady replies a := by
  rcases continues_cases (tracked replies) a with hfresh | ⟨rate, hr, hkept, hset, hroute, hle⟩
  · refine steady_fresh (fun _ => ?_) fun _ _ => measure_fresh hfresh
    rw [hfresh]
    exact not_long_fresh a
  have hrate : (tracked replies).getD {} = rate := by rw [hr]; rfl
  by_cases hgrow : ∀ front l, replies = front ++ [l] → l.receivedPackets ≤ a.receivedPackets
  · have hb := hbased rate hr
    refine ⟨fun rate' hr' => ?_, fun v hv => ?_, fun front l heq hlt => ?_⟩
    · rw [tracked_append] at hr'
      obtain ⟨ha, _, rfl⟩ := track_some hr'
      rw [hrate, measure_eq, hkept]
      split_ifs with hlong
      · exact .self ha rfl rfl hroute
      · exact hb.extend ha hroute hgrow
    · obtain ⟨ha, hlong, rfl⟩ := newHz_some hv
      rw [hrate, hkept] at hlong
      rw [hrate, measure_eq, hkept, if_pos hlong]
      exact hb.spans ha hroute hlong hle hgrow
    · exact absurd (hgrow front l heq) (UInt64.not_le.mpr hlt)
  · push Not at hgrow
    obtain ⟨front, l, heq, hlt⟩ := hgrow
    have hlost : Active a → ¬ Long rate a ∧ (¬ Dropped a → rate = fresh a) := by
      intro ha
      by_contra hc
      refine hseen front l heq ⟨rate, hr, ha, hset, hroute, hle, UInt64.not_le.mp hlt, ?_⟩
      by_cases hlong : Long rate a
      · exact .inl hlong
      · exact .inr (by simpa [hlong] using hc)
    rw [← hrate] at hkept hlost
    refine steady_fresh (fun ha => ?_) fun ha hd => ?_
    · rw [hkept]
      exact (hlost ha).1
    · rw [measure_eq, hkept, if_neg (hlost ha).1]
      exact (hlost ha).2 hd

end Step

lemma Noticed.left {replies : List RemoteActivity} {a : RemoteActivity} (h : Noticed (replies ++ [a])) :
    Noticed replies := fun front l b after heq =>
  h front l b (after ++ [a]) (by rw [heq]; simp)

lemma Noticed.last {replies : List RemoteActivity} {a : RemoteActivity} (h : Noticed (replies ++ [a])) :
    ∀ front l, replies = front ++ [l] → ¬ Unnoticed (tracked replies) l a := by
  rintro front l rfl
  exact h front l a [] (by simp)

lemma based_of_noticed {replies : List RemoteActivity} (h : Noticed replies) :
    ∀ rate, tracked replies = some rate → Based replies rate := by
  induction replies using List.reverseRecOn with
  | nil => exact fun rate hr => (nomatch hr)
  | append_singleton replies a ih => exact (steady_step (ih h.left) h.last).based

/-- An unnoticed decrease either enters a value or leaves the measurement running. -/
lemma Unnoticed.breaks {front : List RemoteActivity} {l a : RemoteActivity}
    (h : Unnoticed (tracked (front ++ [l])) l a) :
    (∃ v, newHz (tracked (front ++ [l])) a = some v ∧ ¬ Spans (front ++ [l]) a v) ∨
      ¬ Restarted (tracked (front ++ [l] ++ [a])) a := by
  obtain ⟨rate, hr, ha, hset, hroute, hle, hlt, hcase⟩ := h
  have hkept : rebase rate a = rate :=
    if_neg (by simp [hset, hroute, UInt64.not_lt.mpr hle])
  rw [tracked_append (front ++ [l]), hr]
  by_cases hlong : Long rate a
  · refine .inl ⟨(measure rate a).hz, if_pos ⟨ha, by rwa [Option.getD_some, hkept]⟩, ?_⟩
    rintro ⟨front', b, mid, heq, hs, _⟩
    have hlast : (b :: mid).getLast? = some l := by
      have h' : (front ++ [l]).getLast? = (front' ++ b :: mid).getLast? := by rw [heq]
      simpa using h'.symm
    have hle' := (List.isChain_append.mp hs.growing).2.2 l hlast a rfl
    exact absurd hle' (UInt64.not_le.mpr hlt)
  · obtain hl | ⟨hd, hne⟩ := hcase
    · exact absurd hl hlong
    · right
      have hm : measure rate a = rate := by rw [measure_eq, hkept, if_neg hlong]
      have ht : track (some rate) a = some rate := by
        rw [track, if_pos ⟨ha, hd⟩, Option.getD_some, hm]
      rw [ht]
      rintro (h | h)
      · cases h
      · exact hne (Option.some.inj h)

/-- The rates of a sequence of replies span monotone stretches exactly if no decrease goes unnoticed. -/
lemma monotone_iff (replies : List RemoteActivity) : MonotoneRates replies ↔ Noticed replies := by
  constructor
  · intro h front l a after heq hun
    obtain ⟨hspan, hdiscard⟩ := h (front ++ [l]) a after (by rw [heq]; simp)
    obtain ⟨rate, _, _, _, _, _, hlt, _⟩ := id hun
    rcases hun.breaks with ⟨v, hv, hno⟩ | hno
    · exact hno (hspan v hv)
    · exact hno (hdiscard front l rfl hlt)
  · intro h before a after heq
    have hprefix : Noticed (before ++ [a]) := fun front l b rest hb =>
      h front l b (rest ++ after) (by
        have happ : before ++ a :: after = (before ++ [a]) ++ after := by simp
        rw [heq, happ, hb]
        simp)
    have hs := steady_step (based_of_noticed hprefix.left) hprefix.last
    exact ⟨hs.spans, hs.restarted⟩

end Replies

section Kept

variable {w : Workspace} {page : Page}

@[simp] lemma clear_rates (reason : Reason) : (clear w page reason).rates = w.rates := rfl

@[simp] lemma ask_rates (q : Question) : (w.ask q).rates = w.rates := rfl

@[simp] lemma setPanel_rates (p : Panel) : (w.setPanel page p).rates = w.rates := rfl

@[simp] lemma submit_rates (c : RemoteCommand) : (submit w page c).rates = w.rates := rfl

@[simp] lemma populatePage_rates : (populatePage w page).rates = w.rates := by
  unfold populatePage
  simp only
  split_ifs <;> rfl

@[simp] lemma populate_rates : (populate w).rates = w.rates :=
  foldl_keeps (fun _ _ => populatePage_rates) Page.all w

@[simp] lemma release_rates : (release w page).rates = w.rates := by
  unfold release
  simp only
  split_ifs <;> rfl

@[simp] lemma requestConfirmed_rates (operation : RemoteOperation) :
    (requestConfirmed w page operation).rates = w.rates := by
  unfold requestConfirmed
  simp only
  split_ifs <;> rfl

@[simp] lemma request_rates (operation : RemoteOperation) : (request w page operation).rates = w.rates := by
  unfold request
  split_ifs <;> simp

@[simp] lemma selectConfirmed_rates (row : ℕ) : (selectConfirmed w page row).rates = w.rates := by
  unfold selectConfirmed
  simp only
  split
  · simp
  · split_ifs <;> simp

@[simp] lemma select_rates (row : ℕ) : (select w page row).rates = w.rates := by
  unfold select
  split_ifs <;> simp

@[simp] lemma selectRefused_rates : (selectRefused w page).rates = w.rates := by
  unfold selectRefused
  split <;> rfl

@[simp] lemma setCurrentRow_rates (row : ℕ) : (setCurrentRow w page row).rates = w.rates := by
  unfold setCurrentRow
  split_ifs <;> simp

@[simp] lemma navigate_rates (id : String) : (navigate w id).rates = w.rates := by
  unfold navigate
  split <;> simp

@[simp] lemma resume_rates (next : Option (String × String)) : (resume w next).rates = w.rates := by
  unfold resume
  split
  · rfl
  · split_ifs <;> simp

@[simp] lemma hostConfirmed_rates : (hostConfirmed w).rates = w.rates := by
  have hleave : ∀ v page, (leavePage v page).rates = v.rates := fun v page => by simp [leavePage]
  unfold hostConfirmed
  rw [populate_rates]
  exact foldl_keeps hleave Page.all _

@[simp] lemma hostChanged_rates (next : Option (String × String)) : (hostChanged w next).rates = w.rates := by
  unfold hostChanged
  split_ifs <;> simp

@[simp] lemma setHostIndex_rates (index : ℕ) (next : Option (String × String)) :
    (setHostIndex w index next).rates = w.rates := by
  unfold setHostIndex
  split_ifs <;> simp

@[simp] lemma openRemote_rates (host : String) (endpoint : Option String) :
    (openRemote w host endpoint).rates = w.rates := by
  unfold openRemote
  split <;> simp

@[simp] lemma configureConfirmed_rates (shutdown : Bool) (hostId : String) :
    (configureConfirmed w shutdown hostId).rates = w.rates := by
  unfold configureConfirmed
  split_ifs
  · rfl
  · exact foldl_keeps (fun _ _ => rfl) Page.all _

@[simp] lemma configure_rates (shutdown : Bool) (hostId : String) :
    (configure w shutdown hostId).rates = w.rates := by
  unfold configure
  split_ifs <;> simp

@[simp] lemma closeConfirmed_rates : (closeConfirmed w).rates = w.rates := by simp [closeConfirmed]

@[simp] lemma beginClose_rates : (beginClose w).rates = w.rates := by
  unfold beginClose
  split_ifs <;> simp

@[simp] lemma showActivity_rates : (showActivity w).rates = w.rates := by
  unfold showActivity
  split
  · rfl
  · split <;> rfl

@[simp] lemma cancelSelected_rates : (cancelSelected w).rates = w.rates := by
  unfold cancelSelected
  split_ifs
  · rfl
  · split
    · rfl
    · split_ifs <;> simp

@[simp] lemma editCell_rates (row : ℕ) (text : String) : (editCell w page row text).rates = w.rates := by
  unfold editCell
  simp only
  split_ifs <;> rfl

@[simp] lemma press_rates (second : Bool) : (press w page second).rates = w.rates := by
  unfold press
  split_ifs <;> simp

@[simp] lemma answer_rates (q : Question) (yes : Bool) : (answer w q yes).rates = w.rates := by
  unfold answer
  cases yes <;> cases q <;> simp [hostRefused, Workspace.note]

lemma step_rates {e : Event} (h : ∀ input, e ≠ .tick input) : (step w e).rates = w.rates := by
  unfold step
  split
  · exact absurd rfl (h _)
  all_goals try split_ifs
  all_goals simp

variable (ready : ℕ → Option RemoteReply) (input : TickInput)

@[simp] lemma receive_rates (entry : Pending) (r : RemoteReply) : (receive w entry r).rates = w.rates := by
  have hkept : (answered w entry r).rates = w.rates := by
    obtain ⟨activities, h⟩ := @answered_cases w entry r
    rw [h]
    rfl
  rw [receive_eq]
  split_ifs <;> exact hkept

@[simp] lemma replies_rates : (replies w ready).rates = w.rates := by
  refine foldl_keeps (fun v entry => ?_) w.pending w
  unfold receiveReady
  split <;> simp

@[simp] lemma refresh_rates : (refresh w input).rates = w.rates := by
  have hobserve : (countTick (observe w input)).rates = w.rates := by
    unfold countTick observe
    simp only
    split_ifs <;> simp
  have hhosts : (rebuildHosts (countTick (observe w input))).rates = w.rates := by
    unfold rebuildHosts
    simp only
    split <;> exact hobserve
  unfold refresh
  simp only
  split_ifs
  · rw [populate_rates, hhosts]
  · exact hobserve

@[simp] lemma configured_rates : (configured w input).rates = w.rates := by
  unfold configured
  split_ifs <;> rfl

@[simp] lemma poll_rates : (poll w).rates = w.rates := by
  unfold poll
  split_ifs <;> rfl

@[simp] lemma enable_rates : (enable w).rates = w.rates := rfl

@[simp] lemma listActivities_rates : (listActivities w).rates = w.rates := by simp [listActivities]

end Kept

section Runs

/-- The activities of a handle that a poll reply brings to the panel that holds it. -/
def reported (w : Workspace) (ready : ℕ → Option RemoteReply) (handle : ℕ) : List RemoteActivity :=
  match w.polling.bind ready with
  | none => []
  | some r =>
    if w.pollEpoch = w.epoch ∧ ¬ w.configuring ∧ ¬ w.closing then
      r.activities.filter fun a => a.topic ∧ a.handle = handle ∧ (w.panels .topic).subscription = handle
    else []

def processed (w : Workspace) (handle : ℕ) : Event → List RemoteActivity
  | .tick input =>
    if w.configuring ∧ input.configured ∧ w.closing then []
    else reported (replies (refresh (configured w input) input) input.ready) input.ready handle
  | _ => []

/-- The replies for a handle that a run processes, in their order. -/
def processedRun (w : Workspace) (handle : ℕ) : List Event → List RemoteActivity
  | [] => []
  | e :: events => processed w handle e ++ processedRun (step w e) handle events

variable {w : Workspace} {handle : ℕ}

lemma reportTopic_subscription (a : RemoteActivity) :
    ((reportTopic w a).panels .topic).subscription = (w.panels .topic).subscription := by
  unfold reportTopic
  simp only
  split_ifs <;> simp [measured_panels]

lemma report_subscription (a : RemoteActivity) :
    ((report w a).panels .topic).subscription = (w.panels .topic).subscription := by
  unfold report
  split_ifs
  · exact reportTopic_subscription a
  · rfl

lemma measured_rates (a : RemoteActivity) : (measured w a).rates[handle]? =
    if a.handle = handle then (if Active a then some (measure (w.rates[handle]?.getD {}) a) else none)
    else w.rates[handle]? := by
  have hm : (measured w a).rates = if Active a then
      w.rates.insert a.handle (measure (w.rates.getD a.handle {}) a) else w.rates.erase a.handle := by
    by_cases ha : Active a
    · rw [if_pos ha]
      exact congrArg Workspace.rates (if_pos ha)
    · rw [if_neg ha]
      exact congrArg Workspace.rates (if_neg ha)
  rw [hm]
  by_cases hh : a.handle = handle
  · subst hh
    rw [if_pos rfl]
    split_ifs
    · rw [Std.ExtTreeMap.getElem?_insert_self, Std.ExtTreeMap.getD_eq_getD_getElem?]
    · exact Std.ExtTreeMap.getElem?_erase_self
  · rw [if_neg hh]
    split_ifs
    · rw [Std.ExtTreeMap.getElem?_insert]
      simp [hh]
    · rw [Std.ExtTreeMap.getElem?_erase]
      simp [hh]

lemma reportTopic_rates (a : RemoteActivity) (hsub : (w.panels .topic).subscription = a.handle) :
    (reportTopic w a).rates[handle]? =
      if a.handle = handle then track (w.rates[handle]?) a else w.rates[handle]? := by
  have hr : (reportTopic w a).rates =
      if Dropped a then (measured w a).rates.erase a.handle else (measured w a).rates := by
    unfold reportTopic Dropped
    rw [if_neg (not_not.mpr hsub)]
    by_cases hv : a.hasValue
    · simp [hv]
    · simp only [hv]
      split_ifs <;> simp_all
  rw [hr]
  by_cases hd : Dropped a
  · rw [if_pos hd, Std.ExtTreeMap.getElem?_erase, measured_rates]
    by_cases hh : a.handle = handle
    · simp [hh, track, hd]
    · simp [hh]
  · rw [if_neg hd, measured_rates]
    simp [track, hd]

lemma report_rates (a : RemoteActivity) : (report w a).rates[handle]? =
    if a.topic ∧ a.handle = handle ∧ (w.panels .topic).subscription = handle then track (w.rates[handle]?) a
    else w.rates[handle]? := by
  unfold report
  by_cases ht : a.topic
  · rw [if_pos ht]
    by_cases hs : (w.panels .topic).subscription = a.handle
    · rw [reportTopic_rates a hs, hs]
      simp [ht]
    · have hkept : reportTopic w a = w := if_pos hs
      have hno : ¬ (a.topic ∧ a.handle = handle ∧ (w.panels .topic).subscription = handle) := by
        rintro ⟨_, rfl, h⟩
        exact hs h
      rw [hkept, if_neg hno]
  · rw [if_neg ht, if_neg fun h => ht h.1]

lemma reports_rates (activities : List RemoteActivity) : (activities.foldl report w).rates[handle]? =
    (activities.filter fun a =>
      a.topic ∧ a.handle = handle ∧ (w.panels .topic).subscription = handle).foldl track
      (w.rates[handle]?) := by
  induction activities generalizing w with
  | nil => rfl
  | cons a activities ih =>
    rw [List.foldl_cons, ih, report_subscription, report_rates, List.filter_cons]
    split_ifs with h h' h'
    · rfl
    · exact absurd (decide_eq_true h) h'
    · exact absurd (of_decide_eq_true h') h
    · rfl

lemma pollReply_rates (ready : ℕ → Option RemoteReply) :
    (pollReply w ready).rates[handle]? = (reported w ready handle).foldl track (w.rates[handle]?) := by
  unfold pollReply reported
  cases w.polling.bind ready with
  | none => rfl
  | some r =>
    simp only [listActivities_rates]
    split_ifs with hopen
    · exact reports_rates r.activities
    · rfl

/-- The rate of a handle is changed by the replies that a step processes, and by nothing else. -/
lemma processed_rates (e : Event) :
    (step w e).rates[handle]? = (processed w handle e).foldl track (w.rates[handle]?) := by
  cases e with
  | tick input =>
    have hstep : step w (.tick input) = tick w input := by
      unfold step
      split <;> simp_all
    rw [hstep]
    by_cases hclosed : w.configuring ∧ input.configured ∧ w.closing
    · rw [tick, processed, if_pos hclosed, if_pos hclosed]
      split_ifs
      · simp
      · simp
    · rw [tick, processed, if_neg hclosed, if_neg hclosed]
      simp [pollReply_rates]
  | _ => rw [step_rates fun _ h => by cases h]; rfl

lemma processedRun_rates (events : List Event) :
    (run w events).rates[handle]? = (processedRun w handle events).foldl track (w.rates[handle]?) := by
  induction events generalizing w with
  | nil => rfl
  | cons e events ih =>
    change (run (step w e) events).rates[handle]? = _
    rw [ih, processed_rates, processedRun, List.foldl_append]

/-- The replies for a handle since the start. -/
def history (input : TickInput) (events : List Event) (handle : ℕ) : List RemoteActivity :=
  processedRun {} handle (.tick input :: events)

/-- The rate of a handle is tracked over its processed replies. It spans monotone stretches of one route if and
only if no decrease between two replies stays at or above the running baseline. -/
theorem receive_rates_monotone (input : TickInput) (events : List Event) (handle : ℕ) :
    (run (start input) events).rates[handle]? = tracked (history input events handle) ∧
    (MonotoneRates (history input events handle) ↔ Noticed (history input events handle)) :=
  ⟨processedRun_rates (w := {}) (.tick input :: events), monotone_iff _⟩

def odometry : RemoteEndpoint :=
  { identity := { hostId := "000102030405060708090a0b0c0d0e0f", bootId := "101112131415161718191a1b1c1d1e1f" }
    session := 4, id := "odometry", name := "odometry", kind := "T", role := "PUBLISHER", scope := "REMOTE" }

def rover : RemoteHost :=
  { id := "000102030405060708090a0b0c0d0e0f", bootId := "101112131415161718191a1b1c1d1e1f", state := "ONLINE"
    compatibility := "COMPATIBLE", session := 4, metadataReady := true, endpoints := [odometry] }

def roverNetwork : NetworkSnapshot := { networkClientAvailable := true, hosts := [rover] }

def packetsAt (packets : UInt64) (milliseconds : ℤ) : RemoteActivity :=
  { handle := 7, endpoint := odometry, topic := true, accepted := true, state := 1, routeId := 3
    receivedPackets := packets, observedAt := milliseconds * 1000000 }

def roverTick (ready : List (ℕ × RemoteReply)) : Event :=
  .tick { snapshot := roverNetwork, ready := fun t => ready.lookup t }

def pollTick (ticket : ℕ) (a : RemoteActivity) : Event := roverTick [(ticket, { activities := [a] })]

/-- The topic is subscribed with the handle 7, and three polls report 100, 200 and 150 packets. -/
def threePolls : List Event :=
  [roverTick [], roverTick [], roverTick [], roverTick [], .pickHost 1, .pickRow .topic 0, roverTick [],
    .press .topic false, roverTick [(1, { handle := 7, accepted := true })], pollTick 0 (packetsAt 100 1200),
    roverTick [], roverTick [], pollTick 2 (packetsAt 200 1500), roverTick [], roverTick [], roverTick [],
    roverTick [], pollTick 3 (packetsAt 150 2000)]

lemma threePolls_history : history { snapshot := roverNetwork } threePolls 7 =
    [packetsAt 100 1200, packetsAt 200 1500, packetsAt 150 2000] := by
  decide +kernel

lemma threePolls_baseline :
    tracked [packetsAt 100 1200, packetsAt 200 1500] = some (fresh (packetsAt 100 1200)) := by
  have hfirst : tracked [packetsAt 100 1200] = some (fresh (packetsAt 100 1200)) := by
    change track none (packetsAt 100 1200) = _
    rw [track, if_pos (by decide)]
    exact congrArg some (measure_fresh (rebase_unset _))
  have hkept : rebase (fresh (packetsAt 100 1200)) (packetsAt 200 1500) = fresh (packetsAt 100 1200) :=
    if_neg (by decide)
  have hshort : ¬ Long (fresh (packetsAt 100 1200)) (packetsAt 200 1500) := by
    norm_num [Long, seconds, fresh, packetsAt]
  rw [← List.singleton_append, tracked_append, hfirst, track, if_pos (by decide), Option.getD_some, measure_eq,
    hkept, if_neg hshort]

/-- The third reply counts 50 packets since the first one, though the count has fallen from 200. -/
theorem rate_over_decrease : ¬ MonotoneRates (history { snapshot := roverNetwork } threePolls 7) := by
  rw [threePolls_history, monotone_iff]
  intro h
  have hlong : Long (fresh (packetsAt 100 1200)) (packetsAt 150 2000) := by
    norm_num [Long, seconds, fresh, packetsAt]
  exact h [packetsAt 100 1200] (packetsAt 200 1500) (packetsAt 150 2000) [] rfl
    ⟨fresh (packetsAt 100 1200), threePolls_baseline, ⟨rfl, by decide⟩, by decide, rfl, by decide, by decide,
      .inl hlong⟩

end Runs

end KcfTools.RemoteWorkspace
