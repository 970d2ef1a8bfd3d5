import KcfTools.Backend.LocalGateway
import KcfTools.Lib.Results
import KcfTools.Lib.Transitions

/-! What the client of the local Gateway publishes: whole cycles, or their errors. -/

namespace KcfTools.LocalGateway

open Results Traced Transitions

variable (inetPton : String → Bool)

/-- The second status with the peers, between two statuses of one Gateway in one state. -/
structure Ready (path : String) (answers : Answers) (s : LocalGatewaySnapshot) : Prop where
  connection : s.connection = .ready
  error : s.error = 0
  observed : s.observedAtUnixMs ≠ 0
  peers : ∃ j, query path 2 answers.peers = .ok j ∧ LocalGateway.peers inetPton j = .ok s.peers
  statuses : ∃ first before second after, query path 1 answers.first = .ok first ∧
    status inetPton first () { socketPath := path } = (.ok (), before) ∧
      query path 1 answers.second = .ok second ∧ status inetPton second () {} = (.ok (), after) ∧
        sameGateway before after ∧ s = { after with
          socketPath := path, connection := .ready, peers := s.peers, observedAtUnixMs := answers.now }
  known : s.state ∈ states

/-- An error code and nothing else. -/
def Errored (path : String) (s : LocalGatewaySnapshot) : Prop :=
  s.error < 0 ∧ s = { socketPath := path, connection := .error, error := s.error }

/-- A Gateway that runs has a session, an interface and an address. -/
def Addressed (s : LocalGatewaySnapshot) : Prop :=
  s.state = "RUNNING" →
    s.session ≠ 0 ∧ s.interfaceName ≠ [] ∧ s.interfaceIndex ≠ 0 ∧ s.ipv4 ≠ "" ∧ inetPton s.ipv4

section Fill

variable {α β : Type} {l l' : LocalGatewaySnapshot}

lemma parse_bind_ok {p : Parse α} {f : α → Fill β} {b : β} (h : (parse p >>= f) () l = (.ok b, l')) :
    ∃ a, p = .ok a ∧ f a () l = (.ok b, l') := by
  obtain ⟨a, s, ha, hb⟩ := bind_inv h
  obtain rfl : l = s := congrArg Prod.snd ha
  exact ⟨a, congrArg Prod.fst ha, hb⟩

lemma assign_bind_ok {g : LocalGatewaySnapshot → LocalGatewaySnapshot} {f : Unit → Fill β} {b : β}
    (h : (assign g >>= f) () l = (.ok b, l')) : ∃ s, s = g l ∧ f () () s = (.ok b, l') := by
  obtain ⟨a, s, ha, hb⟩ := bind_inv h
  exact ⟨s, (congrArg Prod.snd ha).symm, hb⟩

lemma require_ok {b : Bool} {u : Unit} (h : require b = .ok u) : b := by
  unfold require at h
  split_ifs at h with hb
  exact hb

lemma integer_nonneg {j : Json} {high n : ℤ} (h : integer j 0 high = .ok n) : 0 ≤ n := by
  unfold integer at h
  split at h
  · split_ifs at h with hr
    obtain rfl := Except.ok.inj h
    exact hr.1
  · split_ifs at h with hr
    obtain rfl := Except.ok.inj h
    exact hr.1
  · cases h

variable {inetPton}

/-- An accepted status fills its own fields only. -/
lemma status_ok {j : Json} (h : status inetPton j () l = (.ok (), l')) :
    (l'.connection = l.connection ∧ l'.error = l.error ∧ l'.peers = l.peers ∧
      l'.observedAtUnixMs = l.observedAtUnixMs) ∧ l'.state ∈ states ∧ Addressed inetPton l' := by
  unfold status at h
  obtain ⟨state, _, h⟩ := parse_bind_ok h
  obtain ⟨l₁, h₁, h⟩ := assign_bind_ok h
  obtain ⟨_, hknown, h⟩ := parse_bind_ok h
  obtain ⟨host, _, h⟩ := parse_bind_ok h
  obtain ⟨l₂, h₂, h⟩ := assign_bind_ok h
  obtain ⟨boot, _, h⟩ := parse_bind_ok h
  obtain ⟨l₃, h₃, h⟩ := assign_bind_ok h
  obtain ⟨session, _, h⟩ := parse_bind_ok h
  obtain ⟨l₄, h₄, h⟩ := assign_bind_ok h
  obtain ⟨interfaceName, _, h⟩ := parse_bind_ok h
  obtain ⟨l₅, h₅, h⟩ := assign_bind_ok h
  obtain ⟨ipv4, _, h⟩ := parse_bind_ok h
  obtain ⟨l₆, h₆, h⟩ := assign_bind_ok h
  obtain ⟨index, hindex, h⟩ := parse_bind_ok h
  obtain ⟨l₇, h₇, h⟩ := assign_bind_ok h
  obtain ⟨error, _, h⟩ := parse_bind_ok h
  obtain ⟨l₈, h₈, h⟩ := assign_bind_ok h
  obtain ⟨_, haddress, h⟩ := parse_bind_ok h
  have hin : state ∈ states := of_decide_eq_true (require_ok hknown)
  have hip : ipv4 = "" ∨ inetPton ipv4 := of_decide_eq_true (require_ok haddress)
  obtain ⟨item, _, hitem⟩ := bind_ok_inv hindex
  have hnonneg := integer_nonneg hitem
  have hrun : l' = l₈ ∧ (state = "RUNNING" →
      session ≠ 0 ∧ interfaceName ≠ [] ∧ ipv4 ≠ "" ∧ index ≠ 0) := by
    split_ifs at h with hstate
    · have hreq := of_decide_eq_true (require_ok (congrArg Prod.fst h))
      exact ⟨(congrArg Prod.snd h).symm, fun _ => hreq⟩
    · exact ⟨(congrArg Prod.snd h).symm, fun hc => absurd hc hstate⟩
  obtain ⟨rfl, hrun⟩ := hrun
  unfold Addressed
  simp only [h₁, h₂, h₃, h₄, h₅, h₆, h₇, h₈, and_self, true_and]
  refine ⟨hin, fun hstate => ?_⟩
  obtain ⟨hs, hi, hv, hx⟩ := hrun hstate
  exact ⟨hs, hi, fun hc => hx (le_antisymm (Int.toNat_eq_zero.mp hc) hnonneg), hv, hip.resolve_left hv⟩

end Fill

section Cycle

variable {inetPton} {path : String} {answers : Answers} {l l' : Locals} {α β : Type}

lemma lift_bind_ok {p : Parse α} {f : α → Cycle β} {b : β} (h : (lift p >>= f) answers l = (.ok b, l')) :
    ∃ a, p = .ok a ∧ f a answers l = (.ok b, l') := by
  obtain ⟨a, s, ha, hb⟩ := bind_inv h
  obtain rfl : l = s := congrArg Prod.snd ha
  exact ⟨a, congrArg Prod.fst ha, hb⟩

lemma onNext_bind_ok {p : Fill Unit} {f : Unit → Cycle β} {b : β}
    (h : (onNext p >>= f) answers l = (.ok b, l')) :
    ∃ next, p () l.next = (.ok (), next) ∧ f () answers { l with next := next } = (.ok b, l') := by
  obtain ⟨⟨⟩, s, ha, hb⟩ := bind_inv h
  obtain rfl : { l with next := (p () l.next).2 } = s := congrArg Prod.snd ha
  have hp : (p () l.next).1 = .ok () := congrArg Prod.fst ha
  exact ⟨_, Prod.ext hp rfl, hb⟩

lemma onAfter_bind_ok {p : Fill Unit} {f : Unit → Cycle β} {b : β}
    (h : (onAfter p >>= f) answers l = (.ok b, l')) :
    ∃ after, p () l.after = (.ok (), after) ∧ f () answers { l with after := after } = (.ok b, l') := by
  obtain ⟨⟨⟩, s, ha, hb⟩ := bind_inv h
  obtain rfl : { l with after := (p () l.after).2 } = s := congrArg Prod.snd ha
  have hp : (p () l.after).1 = .ok () := congrArg Prod.fst ha
  exact ⟨_, Prod.ext hp rfl, hb⟩

lemma read_bind_ok {f : Answers → Cycle β} {b : β} (h : (Traced.read >>= f) answers l = (.ok b, l')) :
    f answers answers l = (.ok b, l') := h

lemma getState_bind_ok {f : Locals → Cycle β} {b : β} (h : (getState >>= f) answers l = (.ok b, l')) :
    f l answers l = (.ok b, l') := h

lemma attempt_ok (h : attempt inetPton path answers { next := { socketPath := path } } = (.ok (), l')) :
    Ready inetPton path answers l'.next ∧ Addressed inetPton l'.next := by
  unfold attempt at h
  obtain ⟨first, hfirst, h⟩ := lift_bind_ok (read_bind_ok h)
  obtain ⟨before, hbefore, h⟩ := onNext_bind_ok h
  obtain ⟨list, hlist, h⟩ := lift_bind_ok h
  obtain ⟨second, hsecond, h⟩ := lift_bind_ok h
  obtain ⟨after, hafter, h⟩ := onAfter_bind_ok h
  replace h := getState_bind_ok h
  obtain ⟨doc, hdoc, hpeers⟩ := bind_ok_inv hlist
  obtain ⟨⟨_, herror, _, _⟩, hknown, haddressed⟩ := status_ok hafter
  split_ifs at h with hsame
  · obtain rfl := congrArg Prod.snd h
    exact ⟨⟨rfl, herror, answers.started, ⟨doc, hdoc, hpeers⟩,
      ⟨first, before, second, after, hfirst, hbefore, hsecond, hafter, hsame, rfl⟩, hknown⟩, haddressed⟩
  · have hstale : (Except.error estale : Except Raised Unit) = .ok () := congrArg Prod.fst h
    cases hstale

lemma cycle_cases (path : String) (answers : Answers) :
    (Ready inetPton path answers (cycle inetPton path answers) ∨
      Errored path (cycle inetPton path answers)) ∧ Addressed inetPton (cycle inetPton path answers) := by
  have herrored : ∀ code : Code, Errored path (failed path code) ∧ Addressed inetPton (failed path code) :=
    fun code => ⟨⟨code.property, rfl⟩, fun hc => absurd hc (by simp [failed])⟩
  unfold cycle
  split
  · rename_i hr
    exact (attempt_ok hr).imp_left .inl
  · exact (herrored _).imp_left .inr
  · exact (herrored _).imp_left .inr

end Cycle

/-- What holds at every moment of the client's life. -/
structure Sound (path : String) (c : LocalGatewayClient) : Prop where
  path_eq : c.path = path
  log : ∀ p ∈ c.log, p.2 = cycle inetPton path p.1
  publishing : ∀ answers next, c.worker = .publishing answers next → next = cycle inetPton path answers
  shown : c.stopped = false → c.snapshot = (c.log.getLast?.map Prod.snd).getD (create path).snapshot
  stopped : c.stopped → c.stop ∧ c.worker = .ended ∧ c.snapshot = disabled path

variable {inetPton} {path : String} {c : LocalGatewayClient}

lemma sound_create (path : String) : Sound inetPton path (create path) where
  path_eq := rfl
  log _ hp := nomatch hp
  publishing _ _ h := nomatch h
  shown _ := rfl
  stopped h := nomatch h

lemma Sound.work (h : Sound inetPton path c) (answers : Answers) :
    Sound inetPton path (work inetPton c answers) := by
  unfold LocalGateway.work
  cases hw : c.worker with
  | head =>
    refine ⟨h.path_eq, h.log, fun _ _ hc => ?_, h.shown, fun hs => ?_⟩
    · simp only at hc
      split_ifs at hc
    · exact absurd (hw.symm.trans (h.stopped hs).2.1) (by simp)
  | querying =>
    refine ⟨h.path_eq, h.log, ?_, h.shown, fun hs => ?_⟩
    · rintro _ _ ⟨⟩
      rw [h.path_eq]
    · exact absurd (hw.symm.trans (h.stopped hs).2.1) (by simp)
  | publishing answers next =>
    have hopen : c.stopped = false := by
      by_contra hs
      exact absurd (hw.symm.trans (h.stopped (by simpa using hs)).2.1) (by simp)
    simp only
    split_ifs with hs
    · refine ⟨h.path_eq, h.log, fun _ _ hc => (nomatch hc), h.shown, fun hc => ?_⟩
      simp [hopen] at hc
    · refine ⟨h.path_eq, ?_, ?_, ?_, fun hc => ?_⟩
      · intro p hp
        rcases List.mem_append.mp hp with hp | hp
        · exact h.log p hp
        · rw [List.mem_singleton.mp hp]
          exact h.publishing answers next hw
      · rintro _ _ ⟨⟩
      · intro _
        simp
      · simp [hopen] at hc
  | resting =>
    refine ⟨h.path_eq, h.log, ?_, h.shown, fun hs => ?_⟩
    · rintro _ _ ⟨⟩
    · exact absurd (hw.symm.trans (h.stopped hs).2.1) (by simp)
  | ended => exact h

lemma Sound.finishStop (h : Sound inetPton path c) : Sound inetPton path (finishStop c) := by
  unfold LocalGateway.finishStop
  split
  · rename_i hs hw
    refine ⟨h.path_eq, h.log, h.publishing, fun hc => (nomatch hc), fun _ => ⟨hs, hw, ?_⟩⟩
    rw [h.path_eq]
  · exact h

lemma Sound.step (h : Sound inetPton path c) (event : Event) : Sound inetPton path (step inetPton c event) := by
  cases event with
  | work answers => exact h.work answers
  | requestStop =>
    constructor
    · exact h.path_eq
    · exact h.log
    · exact h.publishing
    · exact h.shown
    · exact fun hs => ⟨rfl, (h.stopped hs).2⟩
  | finishStop => exact h.finishStop

lemma sound_run (path : String) (events : List Event) : Sound inetPton path (run inetPton path events) :=
  foldl_invariant (fun _ event h => h.step event) events _ (sound_create path)

/-- Every published snapshot is what its own cycle gives, whole or an error; the client shows the last
of them until it is stopped, and nothing afterwards. -/
theorem publishes_whole (inetPton : String → Bool) (path : String) (events : List Event) :
    (∀ p ∈ (run inetPton path events).log, p.2 = cycle inetPton path p.1 ∧
      (Ready inetPton path p.1 p.2 ∨ Errored path p.2) ∧ Addressed inetPton p.2) ∧
    ((run inetPton path events).stopped = false → (run inetPton path events).snapshot =
      ((run inetPton path events).log.getLast?.map Prod.snd).getD (create path).snapshot) ∧
    ∀ later, (run inetPton path events).stopped →
      (run inetPton path (events ++ later)).snapshot = disabled path ∧
        (run inetPton path (events ++ later)).log = (run inetPton path events).log := by
  have hs : Sound inetPton path (run inetPton path events) := sound_run path events
  refine ⟨fun p hp => ?_, hs.shown, fun later hstop => ?_⟩
  · rw [hs.log p hp]
    exact ⟨rfl, cycle_cases path p.1⟩
  · have hkeep : ∀ c : LocalGatewayClient, Sound inetPton path c ∧ c.stopped ∧
        c.log = (run inetPton path events).log → ∀ event, Sound inetPton path (step inetPton c event) ∧
          (step inetPton c event).stopped ∧
            (step inetPton c event).log = (run inetPton path events).log := by
      rintro c ⟨hc, hst, hlog⟩ event
      obtain ⟨hstop, hended, _⟩ := hc.stopped hst
      refine ⟨hc.step event, ?_⟩
      cases event with
      | work answers => simp [LocalGateway.step, LocalGateway.work, hended, hst, hlog]
      | requestStop => exact ⟨hst, hlog⟩
      | finishStop => simp [LocalGateway.step, LocalGateway.finishStop, hstop, hended, hlog]
    have hrun := foldl_invariant (fun c event hc => hkeep c hc event) later _ ⟨hs, hstop, rfl⟩
    rw [run, List.foldl_append]
    exact ⟨(hrun.1.stopped hrun.2.1).2.2, hrun.2.2⟩

end KcfTools.LocalGateway
