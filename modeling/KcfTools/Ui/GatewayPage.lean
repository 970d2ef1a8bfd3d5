import KcfTools.Backend.GatewayCycles
import KcfTools.Lib.Histories

/-! The clients of the local Gateway that `ConfigureLocalGateway` makes one after the other, and the page that
shows the peers of the last one. -/

namespace KcfTools.GatewayPage

open LocalGateway Transitions

/-- `ConfigureLocalGateway` stops the client it has taken, makes a new one and hands it over. -/
inductive Task
  | idle
  | stopping (i : ℕ) (path : String) (enabled : Bool)
  | creating (path : String)
  | publishing (i : ℕ)

/-- `clients` are all that were made so far, `gateway` is the one that is asked. The page keeps the time of the
snapshot that its rows are from; `status` is the one its first lines are from. `asked` holds the last arguments
of `ConfigureLocalGateway`, which the code does not keep. -/
structure System where
  clients : List LocalGatewayClient := []
  gateway : Option ℕ := none
  task : Task := .idle
  asked : Option (String × Bool) := none
  status : LocalGatewaySnapshot := {}
  observed : UInt64 := 0
  peers : List LocalGatewayPeer := []

inductive Event
  | configure (path : String) (enabled : Bool)
  | advance (made : Bool)
  | work (i : ℕ) (answers : Answers)
  | tick

variable (inetPton : String → Bool) (s : System)

def getLocalGatewaySnapshot : LocalGatewaySnapshot :=
  ((s.gateway.bind fun i => s.clients[i]?).map LocalGatewayClient.snapshot).getD {}

def localTick : System :=
  let snapshot := getLocalGatewaySnapshot s
  if snapshot.observedAtUnixMs = s.observed then { s with status := snapshot }
  else
    { s with
      status := snapshot
      observed := snapshot.observedAtUnixMs
      peers := if snapshot.connection = .ready then snapshot.peers else [] }

def afterStop (path : String) (enabled : Bool) : Task := if enabled then .creating path else .idle

/-- One thread configures; the others wait for it or do not come. -/
def configureLocalGateway (path : String) (enabled : Bool) : System :=
  match s.task with
  | .idle =>
    match s.gateway with
    | none => { s with task := afterStop path enabled, asked := some (path, enabled) }
    | some i =>
      { s with
        clients := s.clients.modify i fun c => step inetPton c .requestStop
        gateway := none
        task := .stopping i path enabled
        asked := some (path, enabled) }
  | _ => s

/-- `Stop` returns once the worker has; `made` tells whether the new client could be made. -/
def advance (made : Bool) : System :=
  match s.task with
  | .idle => s
  | .stopping i path enabled =>
    let clients := s.clients.modify i fun c => step inetPton c .finishStop
    if clients[i]?.any LocalGatewayClient.stopped then
      { s with clients := clients, task := afterStop path enabled }
    else s
  | .creating path =>
    if made then { s with clients := s.clients ++ [create path], task := .publishing s.clients.length }
    else { s with task := .idle }
  | .publishing i => { s with gateway := some i, task := .idle }

def next : Event → System
  | .configure path enabled => configureLocalGateway inetPton s path enabled
  | .advance made => advance inetPton s made
  | .work i answers => { s with clients := s.clients.modify i fun c => step inetPton c (.work answers) }
  | .tick => localTick s

def run (events : List Event) : System := events.foldl (next inetPton) {}

variable {inetPton} {s}

section Clients

variable {c c' : LocalGatewayClient} {l : List LocalGatewayClient} {i j : ℕ}

lemma modified {f : LocalGatewayClient → LocalGatewayClient} (h : (l.modify i f)[j]? = some c') :
    ∃ c, l[j]? = some c ∧ c' = if i = j then f c else c := by
  rw [List.getElem?_modify] at h
  obtain ⟨c, hc, rfl⟩ := Option.map_eq_some_iff.mp h
  refine ⟨c, hc, ?_⟩
  split_ifs <;> rfl

lemma modify_some {f : LocalGatewayClient → LocalGatewayClient} (h : l[j]? = some c) :
    (l.modify i f)[j]? = some (if i = j then f c else c) := by
  rw [List.getElem?_modify, h]
  split_ifs <;> rfl

lemma work_keeps (answers : Answers) : (step inetPton c (.work answers)).path = c.path ∧
    (step inetPton c (.work answers)).stop = c.stop ∧ (step inetPton c (.work answers)).stopped = c.stopped ∧
      ∃ new, (step inetPton c (.work answers)).log = c.log ++ new := by
  unfold step work
  cases c.worker with
  | publishing answers next =>
    simp only
    split_ifs
    · exact ⟨rfl, rfl, rfl, [], (List.append_nil _).symm⟩
    · exact ⟨rfl, rfl, rfl, _, rfl⟩
  | _ => exact ⟨rfl, rfl, rfl, [], (List.append_nil _).symm⟩

lemma finishStop_keeps (c : LocalGatewayClient) : (step inetPton c .finishStop).path = c.path ∧
    (step inetPton c .finishStop).log = c.log := by
  change (finishStop c).path = c.path ∧ (finishStop c).log = c.log
  unfold finishStop
  split <;> exact ⟨rfl, rfl⟩

end Clients

section Runs

/-- The client that may still run. -/
def holder (s : System) : Option ℕ :=
  match s.task with
  | .stopping i _ _ => some i
  | .publishing i => some i
  | _ => s.gateway

def Task.Stops (t : Task) (i : ℕ) : Prop := ∃ path enabled, t = .stopping i path enabled

/-- What the running configuration was asked for. -/
def Task.Fits (asked : Option (String × Bool)) : Task → Prop
  | .stopping _ path enabled => asked = some (path, enabled)
  | .creating path => asked = some (path, true)
  | _ => True

/-- The rows are the peers of a snapshot that a client has published. -/
def Published (s : System) : Prop := ∃ (i : ℕ) (c : LocalGatewayClient), s.clients[i]? = some c ∧
  ∃ p ∈ c.log, p.2.connection = .ready ∧ p.2.observedAtUnixMs = s.observed ∧ p.2.peers = s.peers

structure Clients (inetPton : String → Bool) (s : System) : Prop where
  sound : ∀ (i : ℕ) c, s.clients[i]? = some c → Sound inetPton c.path c
  released : ∀ (i : ℕ) c, s.clients[i]? = some c → holder s ≠ some i → c.stopped = true
  held : ∀ i, holder s = some i → ∃ c, s.clients[i]? = some c ∧ c.stopped = false ∧
    (c.stop = true ↔ s.task.Stops i) ∧ (¬ s.task.Stops i → s.asked = some (c.path, true))
  asked : s.task.Fits s.asked
  apart : s.task ≠ .idle → s.gateway = none

structure Page (s : System) : Prop where
  rows : s.peers = [] ∨ Published s
  blank : s.observed = 0 → s.peers = []
  quiet : s.status.connection ≠ .ready → s.peers = []

variable {i j : ℕ} {c c' : LocalGatewayClient}

lemma sound_step (h : Sound inetPton c.path c) (e : LocalGateway.Event) :
    Sound inetPton (step inetPton c e).path (step inetPton c e) := by
  have hs := h.step e
  rwa [hs.path_eq]

lemma clients_work (h : Clients inetPton s) (i : ℕ) (answers : Answers) :
    Clients inetPton (next inetPton s (.work i answers)) where
  sound j c' hc' := by
    obtain ⟨c, hc, rfl⟩ := modified hc'
    split_ifs
    · exact sound_step (h.sound j c hc) _
    · exact h.sound j c hc
  released j c' hc' hj := by
    obtain ⟨c, hc, rfl⟩ := modified hc'
    split_ifs
    · exact (work_keeps answers).2.2.1.trans (h.released j c hc hj)
    · exact h.released j c hc hj
  held j hj := by
    obtain ⟨c, hc, hstopped, hstop, hasked⟩ := h.held j hj
    refine ⟨_, modify_some hc, ?_⟩
    split_ifs
    · obtain ⟨hpath, hs, hd, -⟩ := @work_keeps inetPton c answers
      rw [hpath, hs, hd]
      exact ⟨hstopped, hstop, hasked⟩
    · exact ⟨hstopped, hstop, hasked⟩
  asked := h.asked
  apart := h.apart

lemma fits_afterStop (path : String) (enabled : Bool) :
    (afterStop path enabled).Fits (some (path, enabled)) := by
  cases enabled
  · trivial
  · rfl

lemma holder_afterStop {path : String} {enabled : Bool} (ht : s.task = afterStop path enabled) :
    holder s = s.gateway := by
  unfold holder
  rw [ht]
  cases enabled <;> rfl

lemma clients_configure (h : Clients inetPton s) (path : String) (enabled : Bool) :
    Clients inetPton (configureLocalGateway inetPton s path enabled) := by
  unfold configureLocalGateway
  split
  · rename_i htask
    have hholder : holder s = s.gateway := by
      unfold holder
      rw [htask]
    split
    · rename_i hgateway
      have hnone : holder ({ s with task := afterStop path enabled, asked := some (path, enabled) } : System) =
          none := (holder_afterStop rfl).trans hgateway
      refine ⟨h.sound, fun j c hc _ => h.released j c hc ?_, fun j hj => ?_, fits_afterStop path enabled,
        fun _ => hgateway⟩
      · rw [hholder, hgateway]
        simp
      · cases hnone.symm.trans hj
    · rename_i i hgateway
      refine ⟨fun j c' hc' => ?_, fun j c' hc' hj => ?_, fun j hj => ?_, rfl, fun _ => rfl⟩
      · obtain ⟨c, hc, rfl⟩ := modified hc'
        split_ifs
        · exact sound_step (h.sound j c hc) _
        · exact h.sound j c hc
      · obtain ⟨c, hc, rfl⟩ := modified hc'
        have hij : i ≠ j := fun he => hj (congrArg some he)
        rw [if_neg hij]
        refine h.released j c hc ?_
        rw [hholder, hgateway]
        exact fun he => hij (Option.some.inj he)
      · obtain rfl : i = j := Option.some.inj hj
        obtain ⟨c, hc, hstopped, -⟩ := h.held i (hholder.trans hgateway)
        refine ⟨_, modify_some hc, ?_⟩
        rw [if_pos rfl]
        exact ⟨hstopped, iff_of_true rfl ⟨path, enabled, rfl⟩, fun hn => absurd ⟨path, enabled, rfl⟩ hn⟩
  · exact h

lemma clients_advance (h : Clients inetPton s) (made : Bool) : Clients inetPton (advance inetPton s made) := by
  unfold advance
  split
  · exact h
  · rename_i i path enabled htask
    simp only
    split_ifs with hstopped
    · have hgateway := h.apart (by rw [htask]; simp)
      have hasked := h.asked
      rw [htask] at hasked
      have hholder : holder s = some i := by
        unfold holder
        rw [htask]
      refine ⟨fun j c' hc' => ?_, fun j c' hc' _ => ?_, fun j hj => ?_, ?_, fun _ => hgateway⟩
      · obtain ⟨c, hc, rfl⟩ := modified hc'
        split_ifs
        · exact sound_step (h.sound j c hc) _
        · exact h.sound j c hc
      · by_cases hij : i = j
        · subst hij
          rw [hc'] at hstopped
          exact hstopped
        · obtain ⟨c, hc, rfl⟩ := modified hc'
          rw [if_neg hij]
          refine h.released j c hc ?_
          rw [hholder]
          exact fun he => hij (Option.some.inj he)
      · cases ((holder_afterStop rfl).symm.trans hj).symm.trans hgateway
      · change (afterStop path enabled).Fits s.asked
        rw [show s.asked = some (path, enabled) from hasked]
        exact fits_afterStop path enabled
    · exact h
  · rename_i path htask
    have hgateway := h.apart (by rw [htask]; simp)
    have hasked := h.asked
    rw [htask] at hasked
    have hholder : holder s = none := by
      unfold holder
      rw [htask]
      exact hgateway
    have hstopped : ∀ (j : ℕ) c, s.clients[j]? = some c → c.stopped = true := fun j c hc =>
      h.released j c hc (by rw [hholder]; simp)
    split_ifs
    · refine ⟨fun j c hc => ?_, fun j c hc hj => ?_, fun j hj => ?_, trivial, fun _ => hgateway⟩
      · rcases Histories.getElem?_snoc hc with hc | ⟨-, rfl⟩
        · exact h.sound j c hc
        · exact sound_create path
      · rcases Histories.getElem?_snoc hc with hc | ⟨rfl, -⟩
        · exact hstopped j c hc
        · exact absurd rfl hj
      · obtain rfl : s.clients.length = j := Option.some.inj hj
        refine ⟨create path, by simp, rfl, iff_of_false (by simp [create]) ?_, fun _ => hasked⟩
        rintro ⟨_, _, hc⟩
        cases hc
    · refine ⟨h.sound, fun j c hc _ => hstopped j c hc, fun j hj => ?_, trivial, fun _ => hgateway⟩
      cases hgateway.symm.trans hj
  · rename_i i htask
    have hholder : holder s = some i := by
      unfold holder
      rw [htask]
    refine ⟨h.sound, fun j c hc hj => h.released j c hc (hholder.symm ▸ hj), fun j hj => ?_, trivial,
      fun hc => absurd rfl hc⟩
    obtain ⟨c, hc, hstopped, hstop, hasked⟩ := h.held j (hholder.trans hj)
    have hnot : ¬ s.task.Stops j := by
      rintro ⟨_, _, hc⟩
      cases htask.symm.trans hc
    refine ⟨c, hc, hstopped, iff_of_false (fun hc => hnot (hstop.mp hc)) ?_, fun _ => hasked hnot⟩
    rintro ⟨_, _, hc⟩
    cases hc

lemma clients_next (h : Clients inetPton s) (e : Event) : Clients inetPton (next inetPton s e) := by
  cases e with
  | configure path enabled => exact clients_configure h path enabled
  | advance made => exact clients_advance h made
  | work i answers => exact clients_work h i answers
  | tick =>
    change Clients inetPton (localTick s)
    unfold localTick
    simp only
    split
    · exact ⟨h.sound, h.released, h.held, h.asked, h.apart⟩
    · exact ⟨h.sound, h.released, h.held, h.asked, h.apart⟩

end Runs

section Pages

lemma snapshot_cases (h : Clients inetPton s) : s.gateway = none ∧ getLocalGatewaySnapshot s = {} ∨
    ∃ (i : ℕ) (c : LocalGatewayClient), s.clients[i]? = some c ∧ s.asked = some (c.path, true) ∧
      getLocalGatewaySnapshot s = (c.log.getLast?.map Prod.snd).getD (create c.path).snapshot := by
  cases hg : s.gateway with
  | none =>
    refine .inl ⟨rfl, ?_⟩
    rw [getLocalGatewaySnapshot, hg]
    rfl
  | some i =>
    right
    have htask : s.task = .idle := by
      by_contra hc
      cases (h.apart hc).symm.trans hg
    obtain ⟨c, hc, hstopped, -, hasked⟩ := h.held i (by rw [holder, htask]; exact hg)
    have hnot : ¬ s.task.Stops i := by
      rintro ⟨_, _, hn⟩
      cases htask.symm.trans hn
    refine ⟨i, c, hc, hasked hnot, ?_⟩
    rw [getLocalGatewaySnapshot, hg, Option.bind_some, hc]
    exact (h.sound i c hc).shown hstopped

/-- Only a published snapshot is ready, and the others were not observed at any time. -/
lemma snapshot_ready (h : Clients inetPton s) : (getLocalGatewaySnapshot s).connection = .ready ∧
    (∃ (i : ℕ) (c : LocalGatewayClient), s.clients[i]? = some c ∧
      ∃ p ∈ c.log, p.2 = getLocalGatewaySnapshot s) ∧ (getLocalGatewaySnapshot s).observedAtUnixMs ≠ 0 ∨
    (getLocalGatewaySnapshot s).connection ≠ .ready ∧ (getLocalGatewaySnapshot s).observedAtUnixMs = 0 := by
  rcases snapshot_cases h with ⟨-, hs⟩ | ⟨i, c, hc, -, hs⟩
  · rw [hs]
    exact .inr ⟨by decide, rfl⟩
  · rw [hs]
    cases hp : c.log.getLast? with
    | none => exact .inr ⟨by simp [create], rfl⟩
    | some p =>
      have hmem : p ∈ c.log := List.mem_of_getLast? hp
      have hcycle := (@cycle_cases inetPton c.path p.1).1
      rw [← (h.sound i c hc).log p hmem] at hcycle
      simp only [Option.map_some, Option.getD_some]
      rcases hcycle with hready | ⟨-, herror⟩
      · exact .inl ⟨hready.connection, ⟨i, c, hc, p, hmem, rfl⟩, hready.observed⟩
      · right
        rw [herror]
        exact ⟨by simp, rfl⟩

/-- What a client has published stays. -/
lemma logs_grow (s : System) (e : Event) {i : ℕ} {c : LocalGatewayClient} (hc : s.clients[i]? = some c) :
    ∃ c', (next inetPton s e).clients[i]? = some c' ∧ ∃ new, c'.log = c.log ++ new := by
  have hself : ∃ c', s.clients[i]? = some c' ∧ ∃ new, c'.log = c.log ++ new :=
    ⟨c, hc, [], (List.append_nil _).symm⟩
  have hstep : ∀ (j : ℕ) (e : LocalGateway.Event), (∃ new, (step inetPton c e).log = c.log ++ new) →
      ∃ c', (s.clients.modify j fun c => step inetPton c e)[i]? = some c' ∧ ∃ new, c'.log = c.log ++ new := by
    intro j e he
    refine ⟨_, modify_some hc, ?_⟩
    split_ifs
    · exact he
    · exact ⟨[], (List.append_nil _).symm⟩
  cases e with
  | configure path enabled =>
    change ∃ c', (configureLocalGateway inetPton s path enabled).clients[i]? = some c' ∧ _
    unfold configureLocalGateway
    split
    · split
      · exact hself
      · exact hstep _ _ ⟨[], (List.append_nil _).symm⟩
    · exact hself
  | advance made =>
    change ∃ c', (advance inetPton s made).clients[i]? = some c' ∧ _
    unfold advance
    split
    · exact hself
    · simp only
      split_ifs
      · exact hstep _ _ ⟨[], (finishStop_keeps c).2.trans (List.append_nil _).symm⟩
      · exact hself
    · split_ifs
      · exact ⟨c, Histories.getElem?_earlier hc, [], (List.append_nil _).symm⟩
      · exact hself
    · exact hself
  | work j answers => exact hstep j _ (work_keeps answers).2.2.2
  | tick =>
    change ∃ c', (localTick s).clients[i]? = some c' ∧ _
    unfold localTick
    simp only
    split <;> exact hself

lemma same_page (s : System) {e : Event} (he : e ≠ .tick) : (next inetPton s e).status = s.status ∧
    (next inetPton s e).observed = s.observed ∧ (next inetPton s e).peers = s.peers := by
  cases e with
  | configure path enabled =>
    simp only [next, configureLocalGateway]
    split
    · split <;> exact ⟨rfl, rfl, rfl⟩
    · exact ⟨rfl, rfl, rfl⟩
  | advance made =>
    simp only [next, advance]
    split
    · exact ⟨rfl, rfl, rfl⟩
    · split_ifs <;> exact ⟨rfl, rfl, rfl⟩
    · split_ifs <;> exact ⟨rfl, rfl, rfl⟩
    · exact ⟨rfl, rfl, rfl⟩
  | work i answers => exact ⟨rfl, rfl, rfl⟩
  | tick => exact absurd rfl he

lemma page_tick (h : Clients inetPton s) (hp : Page s) : Page (localTick s) := by
  unfold localTick
  simp only
  rcases snapshot_ready h with ⟨hready, ⟨i, c, hc, p, hmem, hs⟩, hobserved⟩ | ⟨hready, hobserved⟩
  · split
    · exact ⟨hp.rows, hp.blank, fun hn => absurd hready hn⟩
    · exact ⟨.inr ⟨i, c, hc, p, hmem, hs ▸ hready, congrArg _ hs, congrArg _ hs⟩, fun hn => absurd hn hobserved,
        fun hn => absurd hready hn⟩
  · rw [if_neg hready]
    split
    · rename_i hsame
      have hempty := hp.blank (hsame.symm.trans hobserved)
      exact ⟨hp.rows, hp.blank, fun _ => hempty⟩
    · exact ⟨.inl rfl, fun _ => rfl, fun _ => rfl⟩

lemma page_next (h : Clients inetPton s) (hp : Page s) (e : Event) : Page (next inetPton s e) := by
  by_cases he : e = .tick
  · rw [he]
    exact page_tick h hp
  · obtain ⟨hstatus, hobserved, hpeers⟩ := @same_page inetPton s e he
    refine ⟨hp.rows.imp hpeers.trans ?_, fun hn => hpeers.trans (hp.blank (hobserved.symm.trans hn)),
      fun hn => hpeers.trans (hp.quiet (hstatus ▸ hn))⟩
    rintro ⟨i, c, hc, p, hmem, hready, hat, hrows⟩
    obtain ⟨c', hc', new, hlog⟩ := @logs_grow inetPton s e i c hc
    exact ⟨i, c', hc', p, hlog ▸ List.mem_append_left _ hmem, hready, hat.trans hobserved.symm,
      hrows.trans hpeers.symm⟩

end Pages

lemma sane_run (events : List Event) : Clients inetPton (run inetPton events) ∧ Page (run inetPton events) := by
  unfold run
  refine foldl_invariant (I := fun s => Clients inetPton s ∧ Page s)
    (fun s e h => ⟨clients_next h.1 e, page_next h.1 h.2 e⟩) events _ ⟨⟨?_, ?_, ?_, trivial, fun _ => rfl⟩, ?_⟩
  · exact fun i c hc => by simp at hc
  · exact fun i c hc => by simp at hc
  · exact fun i hi => by cases hi
  · exact ⟨.inl rfl, fun _ => rfl, fun _ => rfl⟩

/-- One client runs at a time, and what is read is from the socket that was configured last. The page has no
rows but the peers of a whole snapshot that a client has published, and none where the last snapshot read was
not ready. -/
structure Shows (inetPton : String → Bool) (s : System) : Prop where
  alone : ∀ (i j : ℕ) c d, s.clients[i]? = some c → s.clients[j]? = some d →
    c.worker ≠ .ended → d.worker ≠ .ended → i = j
  answer : getLocalGatewaySnapshot s = {} ∨ ∃ path, s.asked = some (path, true) ∧
    (getLocalGatewaySnapshot s = (create path).snapshot ∨
      (∃ answers, Ready inetPton path answers (getLocalGatewaySnapshot s)) ∨
        Errored path (getLocalGatewaySnapshot s))
  rows : s.peers = [] ∨ ∃ (i : ℕ) (c : LocalGatewayClient), s.clients[i]? = some c ∧
    ∃ p ∈ c.log, Ready inetPton c.path p.1 p.2 ∧ p.2.observedAtUnixMs = s.observed ∧ p.2.peers = s.peers
  quiet : s.status.connection ≠ .ready → s.peers = []

theorem page_shows (inetPton : String → Bool) (events : List Event) : Shows inetPton (run inetPton events) := by
  obtain ⟨h, hp⟩ := @sane_run inetPton events
  generalize run inetPton events = s at h hp
  have hholder : ∀ (i : ℕ) c, s.clients[i]? = some c → c.worker ≠ .ended → holder s = some i := by
    intro i c hc hw
    by_contra hi
    exact hw ((h.sound i c hc).stopped (h.released i c hc hi)).2.1
  have hpublished : ∀ (i : ℕ) c, s.clients[i]? = some c → ∀ p ∈ c.log,
      Ready inetPton c.path p.1 p.2 ∨ Errored c.path p.2 := by
    intro i c hc p hmem
    have hcycle := (@cycle_cases inetPton c.path p.1).1
    rwa [← (h.sound i c hc).log p hmem] at hcycle
  refine ⟨fun i j c d hc hd hw hw' => ?_, ?_, hp.rows.imp_right ?_, hp.quiet⟩
  · exact Option.some.inj ((hholder i c hc hw).symm.trans (hholder j d hd hw'))
  · rcases snapshot_cases h with ⟨-, hs⟩ | ⟨i, c, hc, hasked, hs⟩
    · exact .inl hs
    · refine .inr ⟨c.path, hasked, ?_⟩
      rw [hs]
      cases hlast : c.log.getLast? with
      | none => exact .inl rfl
      | some p => exact .inr ((hpublished i c hc p (List.mem_of_getLast? hlast)).imp_left fun hr => ⟨p.1, hr⟩)
  · rintro ⟨i, c, hc, p, hmem, hready, hat, hrows⟩
    rcases hpublished i c hc p hmem with hr | ⟨-, herror⟩
    · exact ⟨i, c, hc, p, hmem, hr, hat, hrows⟩
    · rw [herror] at hready
      cases hready

end KcfTools.GatewayPage
