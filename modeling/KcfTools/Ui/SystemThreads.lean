import KcfTools.Backend.Observers
import KcfTools.Ui.RemoteSystem
import KcfTools.Ui.Shifts
import KcfTools.Ui.Subscriptions

/-! The threads behind the remote tabs: one network at a time, with the settings that were put into force last,
and an answer to every command of the networks before it. -/

namespace KcfTools.RemoteSystem

open RemoteWorkspace (Workspace Pending Settled Clicks Completes Shifts)
open KcfNetwork (Configuration Future Lined Reached Proceeds connected)
open RemoteExecutor (answers)
open Transitions

variable {texts : ValueCodec.Texts} {s : System} {w : Workspace}

/-- The settings of the latest configuration are in force, or it still runs. -/
structure Orderly (s : System) : Prop where
  settled : Settled s.ui
  lined : Lined s.backend (leaving s)
  configuring : s.ui.configuring = s.configuration.isSome
  reached : ∀ c, s.configuration = some c → Reached s.backend c ∧
    s.taken.head? = some { options := c.options, enabled := c.enabled } ∧
      (s.ui.configurationShutdown → c.enabled = false)
  inForce : s.configuration = none → ∃ settings, s.taken.head? = some settings ∧
    s.backend.networkOptions = settings.options ∧ (s.backend.network.isSome → settings.enabled)
  off : s.ui.closed → s.configuration = none → s.backend.network = none

lemma Orderly.sees (h : Orderly s) (hs : Settled w) (hc : w.configuring = s.ui.configuring)
    (hd : w.closed = s.ui.closed) (hk : w.configurationShutdown = s.ui.configurationShutdown)
    (checking : Option (List Pending)) : Orderly { s with ui := w, checking := checking } where
  settled := hs
  lined := h.lined
  configuring := hc.trans h.configuring
  reached c he := by
    obtain ⟨hr, ht, hshutdown⟩ := h.reached c he
    exact ⟨hr, ht, fun hu => hshutdown (hk ▸ hu)⟩
  inForce := h.inForce
  off hu := h.off (hd ▸ hu)

lemma Orderly.unchanged (h : Orderly s) (hu : RemoteWorkspace.Unchanged s.ui w)
    (checking : Option (List Pending)) : Orderly { s with ui := w, checking := checking } :=
  h.sees (h.settled.unchanged hu) hu.configuring hu.closed hu.shutdown checking

lemma Orderly.proceeds (h : Orderly s) {b : KcfNetwork} (hp : Proceeds s.backend b) (futures : List Future) :
    Orderly { s with backend := b, futures := futures } where
  settled := h.settled
  lined := h.lined.proceeds hp
  configuring := h.configuring
  reached c hc := (h.reached c hc).imp_left fun hr => hr.proceeds hp
  inForce hc := by
    obtain ⟨settings, ht, ho, hn⟩ := h.inForce hc
    exact ⟨settings, ht, hp.networkOptions.trans ho, fun hs => hn (hp.network ▸ hs)⟩
  off hd hc := hp.network.trans (h.off hd hc)

/-- A new configuration begins. -/
lemma orderly_configure (hl : Lined s.backend none) (hs : Settled w) (hn : w.epoch ≠ s.ui.epoch)
    (hu : w.configuring) : Orderly (shows s w) := by
  unfold shows
  rw [if_neg hn]
  refine ⟨hs, hl, hu, fun c he => ?_, (fun he => by cases he), fun _ he => by cases he⟩
  obtain rfl := Option.some.inj he
  refine ⟨trivial, rfl, fun hk => ?_⟩
  have hk : w.configurationShutdown = true := hk
  simp [hk]

lemma Orderly.clicks {ok : ℕ → RemoteEndpoint → Prop} {lists : Prop} (h : Orderly s)
    (hc : Clicks ok lists s.ui w) :
    Orderly (shows s w) := by
  have hs := h.settled.clicks hc
  rcases hc.epoch with ⟨he, hconf, hclosed, hshutdown⟩ | ⟨he, hf, ht, -⟩
  · unfold shows
    rw [if_pos he]
    exact h.sees hs hconf hclosed hshutdown s.checking
  · have hnone : s.configuration = none := by
      rw [h.configuring] at hf
      exact Option.not_isSome_iff_eq_none.mp (by simp [hf])
    have hl : leaving s = none := by simp [leaving, hnone]
    exact orderly_configure (hl ▸ h.lined) hs (by omega) ht

lemma returned_iff : returned s ↔ ∃ c code, s.configuration = some c ∧ c.stage = .returned code := by
  unfold returned
  split
  · rename_i options enabled code hc
    simp only [true_iff]
    exact ⟨_, code, hc, rfl⟩
  · rename_i hno
    simp only [Bool.false_eq_true, false_iff]
    rintro ⟨⟨options, enabled, stage⟩, code, hc, rfl⟩
    exact hno options enabled code hc

/-- The workspace has seen that the configuration is over. -/
lemma Orderly.collected (h : Orderly s) (hr : returned s) (hc : Completes s.ui w) :
    Orderly (shows { s with configuration := none } w) := by
  obtain ⟨c, code, hconf, hstage⟩ := returned_iff.mp hr
  obtain ⟨hreached, ht, hshutdown⟩ := h.reached c hconf
  have hl : leaving s = none := by simp [leaving, hconf, Configuration.leaving, hstage]
  have hlined : Lined s.backend none := hl ▸ h.lined
  obtain ⟨-, hoptions, hnetwork⟩ : (code = 0 ∨ code = eagain) ∧ s.backend.networkOptions = c.options ∧
      (s.backend.network.isSome ↔ c.enabled ∧ code = 0) := by
    simpa [Reached, hstage] using hreached
  have hforce : ∃ settings : Settings, s.taken.head? = some settings ∧
      s.backend.networkOptions = settings.options ∧ (s.backend.network.isSome → settings.enabled) :=
    ⟨_, ht, hoptions, fun hn => (hnetwork.mp hn).1⟩
  have hsettled := h.settled.completes hc
  cases hc with
  | done hu hn =>
    unfold shows
    rw [if_pos rfl]
    refine ⟨hsettled, hlined, rfl, (fun c hc => by cases hc), fun _ => hforce, fun hd _ => ?_⟩
    exact absurd (h.settled.closed hd) hn
  | ended hu hn hs =>
    unfold shows
    rw [if_pos rfl]
    refine ⟨hsettled, hlined, rfl, (fun c hc => by cases hc), fun _ => hforce, fun _ _ => ?_⟩
    refine Option.not_isSome_iff_eq_none.mp fun hsome => ?_
    rw [hnetwork, hshutdown hs] at hsome
    exact absurd hsome.1 (by simp)
  | again hu hn hs => exact orderly_configure hlined hsettled (Nat.succ_ne_self _) rfl

lemma unchanged_shifts {v v' : Workspace} (h : Shifts (fun _ _ => True) True v v') :
    RemoteWorkspace.Unchanged v v' :=
  RemoteWorkspace.unchanged_shifts h

lemma Orderly.beginTick (h : Orderly s) : Orderly (beginTick s) := by
  have hrefresh : ∀ (v : Workspace) input, RemoteWorkspace.Unchanged v (RemoteWorkspace.refresh v input) :=
    fun v input => unchanged_shifts RemoteWorkspace.shifts_refresh
  unfold RemoteSystem.beginTick
  cases hr : returned s with
  | false =>
    have hno : ∀ input : RemoteWorkspace.TickInput, input.configured = false →
        RemoteWorkspace.configured s.ui input = s.ui := fun input hi => if_neg (by simp [hi])
    simp only [Bool.false_eq_true, false_and, and_false, if_false]
    rw [hno _ rfl]
    exact h.unchanged (hrefresh _ _) _
  | true =>
    have hconf : s.ui.configuring := by
      obtain ⟨c, _, hc, -⟩ := returned_iff.mp hr
      rw [h.configuring, hc]
      rfl
    simp only [if_true, true_and]
    split_ifs with hc
    · exact h.collected hr (RemoteWorkspace.completes_closing ⟨hc.1, rfl, hc.2⟩)
    · rcases @RemoteWorkspace.configured_cases s.ui
        { snapshot := s.backend.getNetworkSnapshot, configured := true } (fun hn => hc ⟨hn.1, hn.2.2⟩) with
          ⟨hn, -⟩ | ⟨-, -, hdone⟩
      · exact absurd ⟨hconf, rfl⟩ hn
      · have hcollected := h.collected hr hdone
        unfold shows at hcollected
        have hepoch : (RemoteWorkspace.configured s.ui
            { snapshot := s.backend.getNetworkSnapshot, configured := true }).epoch = s.ui.epoch := by
          unfold RemoteWorkspace.configured
          split_ifs <;> rfl
        rw [if_pos hepoch] at hcollected
        exact hcollected.unchanged (hrefresh _ _) _

lemma Orderly.advance (h : Orderly s) {c : Configuration} (hc : s.configuration = some c) (made : Bool) :
    Orderly { s with
      backend := (s.backend.advance c made).2, configuration := some (s.backend.advance c made).1 } := by
  obtain ⟨hr, ht, hshutdown⟩ := h.reached c hc
  have hl : leaving s = c.leaving := by simp [leaving, hc]
  have hkeep : (s.backend.advance c made).1.options = c.options ∧
      (s.backend.advance c made).1.enabled = c.enabled := by
    unfold KcfNetwork.advance
    split
    · exact ⟨rfl, rfl⟩
    · split_ifs <;> exact ⟨rfl, rfl⟩
    · exact ⟨rfl, rfl⟩
    · exact ⟨rfl, rfl⟩
    · exact ⟨rfl, rfl⟩
  obtain ⟨hlined, hreached⟩ := (hl ▸ h.lined).advance hr made
  refine ⟨h.settled, hlined, ?_, fun c' hc' => ?_, (fun he => by cases he), fun _ he => by cases he⟩
  · rw [h.configuring, hc]
    rfl
  · obtain rfl := Option.some.inj hc'
    rw [hkeep.1, hkeep.2]
    exact ⟨hreached, ht, hshutdown⟩

lemma orderly_next (h : Orderly s) (e : Event) : Orderly (next texts s e) := by
  cases e with
  | click e =>
    simp only [next]
    split_ifs with hb
    · exact h
    · rw [not_or] at hb
      have he : ¬ (read s e).isTick := by
        cases e <;> simp_all [read, RemoteWorkspace.Event.isTick]
      have hclicks : Clicks (fun _ _ => True) True s.ui (RemoteWorkspace.step s.ui (read s e)) :=
        RemoteWorkspace.clicks_step he h.settled.permitted h.settled.ending
      exact h.clicks hclicks
  | edit settings =>
    simp only [next]
    split_ifs
    · exact h
    · exact ⟨h.settled, h.lined, h.configuring, h.reached, h.inForce, h.off⟩
  | tick =>
    simp only [next]
    split_ifs
    · exact h
    · exact h.beginTick
  | check =>
    simp only [next]
    split_ifs
    · exact h
    unfold check
    split
    · refine h.unchanged ?_ _
      unfold RemoteWorkspace.receiveReady
      split
      · exact .refl _
      · exact unchanged_shifts (RemoteWorkspace.shifts_receive fun _ => trivial)
    · exact h
  | finish =>
    simp only [next]
    split_ifs
    · exact h
    unfold finishTick
    split
    · refine h.unchanged (unchanged_shifts ?_) _
      exact (RemoteWorkspace.shifts_pollReply trivial fun _ _ _ _ _ _ _ => trivial).trans
        (RemoteWorkspace.shifts_poll.trans (RemoteWorkspace.shifts_still RemoteWorkspace.still_enable))
    · exact h
  | send =>
    simp only [next]
    split
    · exact h
    · exact h.proceeds (KcfNetwork.proceeds_submitRemote _) _
  | turn i t => exact h.proceeds (KcfNetwork.proceeds_turn _ i t) s.futures
  | configure made =>
    simp only [next]
    split
    · exact h
    · exact h.advance ‹_› made

lemma opened (o : Opening) : Lined (open_ texts o) none ∧ (open_ texts o).networkOptions = o.network.getD {} ∧
    ((open_ texts o).network.isSome → o.network.isSome) := by
  have hblank : Lined {} none := ⟨by simp, by simp, by simp, by simp⟩
  unfold open_
  cases hn : o.network with
  | none => exact ⟨hblank, rfl, by simp⟩
  | some options =>
    obtain ⟨hl, -, ho, -⟩ := hblank.start rfl options o.made
    have hinv : ∀ (b : KcfNetwork) (t : ControlGate.Event), (Lined b none ∧ b.networkOptions = options) →
        Lined (b.turn texts none 0 t) none ∧ (b.turn texts none 0 t).networkOptions = options :=
      fun b t h => ⟨h.1.proceeds (KcfNetwork.proceeds_turn none 0 t),
        (KcfNetwork.proceeds_turn none 0 t).networkOptions.trans h.2⟩
    obtain ⟨hlined, hoptions⟩ :=
      foldl_invariant (I := fun b => Lined b none ∧ b.networkOptions = options) hinv o.turns _ ⟨hl, ho⟩
    exact ⟨hlined, hoptions, fun _ => rfl⟩

lemma orderly_initial (o : Opening) : Orderly (initial texts o) := by
  obtain ⟨hl, ho, hn⟩ := @opened texts o
  exact ⟨RemoteWorkspace.settled_blank, hl, rfl, by simp [initial], fun _ => ⟨_, rfl, ho, hn⟩,
    by simp [initial]⟩

lemma orderly_run (o : Opening) (events : List Event) : Orderly (run texts o events) := by
  unfold run
  exact foldl_invariant (I := Orderly) (fun _ e h => orderly_next h e) events _ (orderly_initial o).beginTick

/-- The thread of an observer still runs. -/
def Alive (b : KcfNetwork) (i : ℕ) : Prop := ∃ o, b.observers[i]? = some o ∧ o.phase ≠ .ended

lemma Orderly.alive (h : Orderly s) {i : ℕ} (hi : Alive s.backend i) :
    (s.backend.network = some i ∨ leaving s = some i) ∧ i + 1 = s.backend.observers.length := by
  obtain ⟨o, ho, hp⟩ := hi
  have hlatest : s.backend.network = some i ∨ leaving s = some i := by
    by_contra hn
    rw [not_or] at hn
    exact hp (h.lined.past i o ho hn.1 hn.2)
  exact ⟨hlatest, h.lined.latest i hlatest⟩

/-- At most one observer runs, an ended one has answered all its commands, and `ConfigureNetwork` fails only
where a thread cannot be made. -/
structure OneNetwork (s : System) : Prop where
  alone : ∀ i j, Alive s.backend i → Alive s.backend j → i = j
  answered : ∀ (i : ℕ) o e, s.backend.observers[i]? = some o → ¬ Alive s.backend i → o.executor = some e →
    e.worker = .ended ∧ ∀ t < e.tickets, (answers e.log).count t = 1
  code : ∀ c code, s.configuration = some c → c.stage = .returned code → code = 0 ∨ code = eagain
  inForce : s.configuration = none → ∃ settings, s.taken.head? = some settings ∧
    s.backend.networkOptions = settings.options ∧ (s.backend.network.isSome → settings.enabled) ∧
      ∀ i o, connected s.backend = some (i, o) → o.hostId = settings.options.hostId
  off : s.ui.closed → s.configuration = none → ∀ i, ¬ Alive s.backend i

lemma Orderly.oneNetwork (h : Orderly s) : OneNetwork s where
  alone i j hi hj := by
    have hi := (h.alive hi).2
    have hj := (h.alive hj).2
    omega
  answered i o e ho hn he := by
    have hp : o.phase = .ended := by_contra fun hp => hn ⟨o, ho, hp⟩
    have hcalm := h.lined.calm i o ho
    have hw := (hcalm.ended hp e he).1
    exact ⟨hw, ((hcalm.sound e he).1.delivers.ended hw).2⟩
  code c code hc hs := by
    have hr := (h.reached c hc).1
    simp only [Reached, hs] at hr
    exact hr.1
  inForce hc := by
    obtain ⟨settings, ht, ho, hn⟩ := h.inForce hc
    refine ⟨settings, ht, ho, hn, fun i o hconn => ?_⟩
    obtain ⟨hnet, hobs⟩ := KcfNetwork.connected_some hconn
    exact ho ▸ h.lined.hostId i o hnet hobs
  off hd hc i hi := by
    rcases (h.alive hi).1 with hn | hl
    · rw [h.off hd hc] at hn
      cases hn
    · simp [leaving, hc] at hl

theorem one_network (texts : ValueCodec.Texts) (o : Opening) (events : List Event) :
    OneNetwork (run texts o events) :=
  (orderly_run o events).oneNetwork

end KcfTools.RemoteSystem
