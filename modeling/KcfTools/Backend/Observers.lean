import KcfTools.Backend.KcfNetwork

/-! What holds of every observer: its executor knows the calls behind its jobs, and it has ended when the
thread of the observer has. -/

namespace KcfTools.KcfNetwork

open ControlGate (Observer)
open RemoteExecutor (Job Notice)

section Known

def Submitted (log : List Notice) (job : Job) : Prop := ∃ stopping queued, .submitted job stopping queued ∈ log

/-- Every job was submitted, and a ticket stands for one job. -/
structure Known (e : RemoteExecutor) : Prop where
  fresh : ∀ job, Submitted e.log job → job.ticket < e.tickets
  single : ∀ job job', Submitted e.log job → Submitted e.log job' → job.ticket = job'.ticket → job = job'
  jobs : ∀ job ∈ e.worker.jobs ++ e.queue, Submitted e.log job
  finished : ∀ job r, .finished job r ∈ e.log → Submitted e.log job

variable {texts : ValueCodec.Texts} {e e' : RemoteExecutor}

lemma known_start (error : ℤ) : Known (RemoteExecutor.start error) where
  fresh _ h := by obtain ⟨_, _, h⟩ := h; cases h
  single _ _ h := by obtain ⟨_, _, h⟩ := h; cases h
  jobs _ h := by cases h
  finished _ _ h := by cases h

/-- Notices of other kinds do not matter. -/
lemma submitted_append {log new : List Notice} (hn : ∀ n ∈ new, ∀ job s q, n ≠ .submitted job s q) (job : Job) :
    Submitted (log ++ new) job ↔ Submitted log job := by
  unfold Submitted
  simp only [List.mem_append]
  constructor
  · rintro ⟨s, q, h | h⟩
    · exact ⟨s, q, h⟩
    · exact absurd rfl (hn _ h job s q)
  · rintro ⟨s, q, h⟩
    exact ⟨s, q, .inl h⟩

lemma Known.more (h : Known e) {new : List Notice} (hl : e'.log = e.log ++ new)
    (hn : ∀ n ∈ new, ∀ job s q, n ≠ .submitted job s q) (ht : e'.tickets = e.tickets)
    (hj : ∀ job ∈ e'.worker.jobs ++ e'.queue, job ∈ e.worker.jobs ++ e.queue)
    (hf : ∀ job r, .finished job r ∈ new → job ∈ e.worker.jobs ++ e.queue) : Known e' where
  fresh job hs := by
    rw [hl, submitted_append hn] at hs
    exact ht ▸ h.fresh job hs
  single job job' hs hs' := by
    rw [hl, submitted_append hn] at hs hs'
    exact h.single job job' hs hs'
  jobs job hm := by
    rw [hl, submitted_append hn]
    exact h.jobs job (hj job hm)
  finished job r hm := by
    rw [hl] at hm
    rw [hl, submitted_append hn]
    rcases List.mem_append.mp hm with hm | hm
    · exact h.finished job r hm
    · exact h.jobs job (hf job r hm)

lemma submitted_submit (c : RemoteCommand) (job : Job) :
    Submitted (RemoteExecutor.submit e c).log job ↔ Submitted e.log job ∨ job = ⟨e.tickets, c⟩ := by
  have hnew : ∀ new : List Notice, (∀ n ∈ new, ∀ job s q, n ≠ .submitted job s q) →
      (Submitted (e.log ++ [.submitted ⟨e.tickets, c⟩ e.stopping e.queue.length] ++ new) job ↔
        Submitted e.log job ∨ job = ⟨e.tickets, c⟩) := fun new hn => by
    rw [submitted_append hn]
    unfold Submitted
    simp only [List.mem_append, List.mem_singleton, Notice.submitted.injEq]
    constructor
    · rintro ⟨s, q, h | h⟩
      · exact .inl ⟨s, q, h⟩
      · exact .inr h.1
    · rintro (⟨s, q, h⟩ | rfl)
      · exact ⟨s, q, .inl h⟩
      · exact ⟨_, _, .inr ⟨rfl, rfl, rfl⟩⟩
  unfold RemoteExecutor.submit RemoteExecutor.note
  simp only
  split_ifs
  · exact hnew _ (by simp)
  · exact hnew _ (by simp)
  · rw [← hnew [] (by simp), List.append_nil]

lemma submit_fields (c : RemoteCommand) : (RemoteExecutor.submit e c).tickets = e.tickets + 1 ∧
    (∀ job ∈ (RemoteExecutor.submit e c).worker.jobs ++ (RemoteExecutor.submit e c).queue,
      job ∈ e.worker.jobs ++ e.queue ∨ job = ⟨e.tickets, c⟩) ∧
    (∀ job r, .finished job r ∈ (RemoteExecutor.submit e c).log ↔ .finished job r ∈ e.log) ∧
    (RemoteExecutor.submit e c).runtime = e.runtime := by
  unfold RemoteExecutor.submit RemoteExecutor.note
  simp only
  split_ifs
  · exact ⟨rfl, fun _ h => .inl h, by simp, rfl⟩
  · exact ⟨rfl, fun _ h => .inl h, by simp, rfl⟩
  · refine ⟨rfl, fun job h => ?_, by simp, rfl⟩
    simp only [List.mem_append, List.mem_singleton] at h ⊢
    tauto

lemma Known.submit (h : Known e) (c : RemoteCommand) : Known (RemoteExecutor.submit e c) := by
  obtain ⟨ht, hj, hf, -⟩ := @submit_fields e c
  constructor
  · intro job hs
    rw [ht]
    rcases (submitted_submit c job).mp hs with hs | rfl
    · exact Nat.lt_succ_of_lt (h.fresh job hs)
    · exact Nat.lt_succ_self _
  · intro job job' hs hs' he
    rcases (submitted_submit c job).mp hs with hs | rfl <;>
      rcases (submitted_submit c job').mp hs' with hs' | rfl
    · exact h.single job job' hs hs' he
    · exact absurd he (h.fresh job hs).ne
    · exact absurd he.symm (h.fresh job' hs').ne
    · rfl
  · intro job hm
    rw [submitted_submit]
    exact (hj job hm).imp_left (h.jobs job)
  · intro job r hm
    rw [submitted_submit]
    exact .inl (h.finished job r ((hf job r).mp hm))

/-- What a turn of the worker does to the log. -/
lemma work_notices (f : RemoteRuntime.Framework) : ∃ new, (RemoteExecutor.work texts e f).log = e.log ++ new ∧
    (∀ n ∈ new, ∀ job s q, n ≠ .submitted job s q) ∧ (RemoteExecutor.work texts e f).tickets = e.tickets ∧
    (∀ job ∈ (RemoteExecutor.work texts e f).worker.jobs ++ (RemoteExecutor.work texts e f).queue,
      job ∈ e.worker.jobs ++ e.queue) ∧
    (∀ job r, .finished job r ∈ new → e.worker = .executing job ∧
      r = (RemoteRuntime.execute texts job.command f e.runtime).1) := by
  unfold RemoteExecutor.work
  cases hw : e.worker with
  | waiting =>
    simp only [RemoteExecutor.take, RemoteExecutor.note]
    split_ifs
    · refine ⟨_, rfl, ?_, rfl, by simp, ?_⟩ <;> simp
    · cases hq : e.queue with
      | nil => exact ⟨[], by simp, by simp, rfl, by simp [hw, hq], by simp⟩
      | cons job queue => exact ⟨[], by simp, by simp, rfl, by simp, by simp⟩
  | holding job => exact ⟨_, rfl, by simp, rfl, by simp [RemoteExecutor.note], by simp⟩
  | executing job =>
    refine ⟨_, rfl, by simp, rfl, fun j hj => List.mem_cons_of_mem job hj, ?_⟩
    simp only [List.mem_cons, Notice.finished.injEq, List.not_mem_nil, or_false]
    rintro j r (⟨rfl, rfl⟩ | h)
    · exact ⟨rfl, rfl⟩
    · cases h
  | ended => exact ⟨[], by simp, by simp, rfl, by simp [hw], by simp⟩

lemma Known.work (h : Known e) (f : RemoteRuntime.Framework) : Known (RemoteExecutor.work texts e f) := by
  obtain ⟨new, hl, hn, ht, hj, hf⟩ := @work_notices texts e f
  refine h.more hl hn ht hj fun job r hm => ?_
  rw [(hf job r hm).1]
  exact List.mem_cons_self

end Known

section Observers

/-- The executor is sound, and the thread of an ended observer leaves an ended executor behind. -/
structure Calm (o : Observer) : Prop where
  sound : ∀ e, o.executor = some e → RemoteExecutor.Sound e ∧ Known e
  starting : o.phase = .starting → o.executor = none
  ended : o.phase = .ended → ∀ e, o.executor = some e → e.worker = .ended ∧ o.expired

variable {texts : ValueCodec.Texts} {o : Observer}

lemma calm_new (hostId : String) : Calm { hostId := hostId } :=
  ⟨by simp, fun _ => rfl, by simp⟩

lemma Calm.abort (h : Calm o) (hp : o.phase = .starting) (status : String) :
    Calm (ControlGate.abort o status) where
  sound := h.sound
  starting := by simp [ControlGate.abort]
  ended _ e he := absurd ((h.starting hp).symm.trans he) (by simp)

lemma Calm.launch (h : Calm o) (hp : o.phase = .starting) (l : ControlGate.Launch) :
    Calm (ControlGate.launch o l) := by
  unfold ControlGate.launch
  by_cases hg : ¬ l.generated
  · rw [if_pos hg]
    exact h.abort hp _
  rw [if_neg hg]
  cases ControlGate.hostIdError o.hostId with
  | some status => exact h.abort hp _
  | none =>
    by_cases hd : l.discovery ≠ 0
    · simp only [if_pos hd]
      exact h.abort hp _
    · simp only [if_neg hd]
      refine ⟨fun e he => ?_, by simp, by simp⟩
      obtain rfl := Option.some.inj he
      exact ⟨RemoteExecutor.sound_start _, known_start _⟩

lemma Calm.round (h : Calm o) (worker : NetworkObserver.Worker) (hp : o.phase = .running worker)
    (tick : NetworkObserver.Tick) : Calm (ControlGate.round o worker tick) := by
  unfold ControlGate.round
  simp only
  split
  · exact ⟨h.sound, by simp [hp], by simp [hp]⟩
  · exact ⟨h.sound, by simp, by simp⟩

lemma Calm.release (h : Calm o) : Calm (ControlGate.release o) := by
  unfold ControlGate.release
  split_ifs with he
  · exact h
  have hworker : ∀ e, o.executor = some e → e.worker = .ended := fun e hs => by
    rw [not_not, hs] at he
    exact Option.some.inj he
  split
  · exact ⟨h.sound, by simp, fun _ e hs => ⟨hworker e hs, rfl⟩⟩
  · exact ⟨h.sound, by simp, fun _ e hs => ⟨hworker e hs, rfl⟩⟩
  · exact h

/-- A step of the executor. -/
lemma Calm.map (h : Calm o) {f : RemoteExecutor → RemoteExecutor}
    (hf : ∀ e, RemoteExecutor.Sound e ∧ Known e → RemoteExecutor.Sound (f e) ∧ Known (f e))
    (hw : ∀ e, e.worker = .ended → (f e).worker = .ended) : Calm { o with executor := o.executor.map f } where
  sound e' he' := by
    obtain ⟨e, he, rfl⟩ := Option.map_eq_some_iff.mp he'
    exact hf e (h.sound e he)
  starting hp := by
    change o.executor.map f = none
    rw [h.starting hp]
    rfl
  ended hp e' he' := by
    obtain ⟨e, he, rfl⟩ := Option.map_eq_some_iff.mp he'
    exact (h.ended hp e he).imp_left (hw e)

lemma Calm.submit (h : Calm o) {c : RemoteCommand} {e : RemoteExecutor} (hs : ControlGate.submit o c = .inr e) :
    Calm { o with executor := some e } := by
  unfold ControlGate.submit at hs
  split_ifs at hs
  cases hl : ControlGate.lock o with
  | none => simp [hl] at hs
  | some e' =>
    rw [hl] at hs
    obtain rfl := Sum.inr.inj hs
    have he := ControlGate.lock_eq hl
    refine ⟨fun e he' => ?_, fun hp => ?_, fun hp => ?_⟩
    · obtain rfl := Option.some.inj he'
      exact ⟨(h.sound e' he).1.submit c, (h.sound e' he).2.submit c⟩
    · exact absurd ((h.starting hp).symm.trans he) (by simp)
    · have hexpired := (h.ended hp e' he).2
      unfold ControlGate.lock at hl
      rw [if_pos hexpired] at hl
      cases hl

lemma calm_step (h : Calm o) (t : ControlGate.Event) : Calm (ControlGate.step texts o t) := by
  cases t with
  | launch l =>
    simp only [ControlGate.step]
    split
    · exact h.launch ‹_› l
    · exact h
  | round tick =>
    simp only [ControlGate.step]
    split
    · exact h.round _ ‹_› tick
    · exact h
  | leave =>
    simp only [ControlGate.step]
    split
    · exact ⟨h.sound, by simp, by simp⟩
    · exact h
  | release => exact h.release
  | submit c =>
    simp only [ControlGate.step]
    split
    · exact h
    · exact h.submit ‹_›
  | stop =>
    exact h.map (fun e he => ⟨he.1.stop, he.2.fresh, he.2.single, he.2.jobs, he.2.finished⟩) fun _ hw => hw
  | work f =>
    refine h.map (fun e he => ⟨he.1.work texts f, he.2.work f⟩) fun e hw => ?_
    unfold RemoteExecutor.work
    simp only [hw]

lemma calm_lend (h : Calm o) (n : ℕ) : Calm (lend n o) :=
  h.map (fun _ he => ⟨⟨he.1.places, he.1.order, he.1.increasing, he.1.known, he.1.room, he.1.ended, he.1.unseen,
    he.1.silent, he.1.justified⟩, he.2.fresh, he.2.single, he.2.jobs, he.2.finished⟩) fun _ hw => hw

/-- An ended observer stays ended. -/
lemma ended_step (t : ControlGate.Event) (hp : o.phase = .ended) :
    (ControlGate.step texts o t).phase = .ended := by
  cases t with
  | launch l => simp [ControlGate.step, hp]
  | round tick => simp [ControlGate.step, hp]
  | leave => simp [ControlGate.step, hp]
  | release =>
    simp only [ControlGate.step, ControlGate.release]
    split_ifs
    · exact hp
    · simp [hp]
  | submit c =>
    simp only [ControlGate.step]
    split <;> exact hp
  | stop => exact hp
  | work f => exact hp

end Observers

section Networks

variable {texts : ValueCodec.Texts} {b : KcfNetwork} {i : ℕ} {o o' : Observer}

/-- Observers go on, and none comes or goes. -/
structure Proceeds (b b' : KcfNetwork) : Prop where
  network : b'.network = b.network
  networkOptions : b'.networkOptions = b.networkOptions
  length : b'.observers.length = b.observers.length
  observers : ∀ (i : ℕ) (o' : Observer), b'.observers[i]? = some o' →
    ∃ o, b.observers[i]? = some o ∧ o'.hostId = o.hostId ∧ (o.phase = .ended → o'.phase = .ended) ∧
      (Calm o → Calm o')

lemma Proceeds.refl (b : KcfNetwork) : Proceeds b b :=
  ⟨rfl, rfl, rfl, fun _ o ho => ⟨o, ho, rfl, id, id⟩⟩

lemma proceeds_set (ho : b.observers[i]? = some o) (hid : o'.hostId = o.hostId)
    (hended : o.phase = .ended → o'.phase = .ended) (hcalm : Calm o → Calm o') (n : ℕ) :
    Proceeds b { b with observers := b.observers.set i o', nextHandle := n } := by
  refine ⟨rfl, rfl, List.length_set, fun j p hp => ?_⟩
  have hi := (List.getElem?_eq_some_iff.mp ho).1
  simp only [List.getElem?_set] at hp
  split_ifs at hp with he
  · subst he
    obtain rfl := Option.some.inj hp
    exact ⟨o, ho, hid, hended, hcalm⟩
  · exact ⟨p, hp, rfl, id, id⟩

lemma hostId_step (t : ControlGate.Event) : (ControlGate.step texts o t).hostId = o.hostId :=
  (ControlGate.step_moved t).hostId_eq

lemma proceeds_turn (leaving : Option ℕ) (i : ℕ) (t : ControlGate.Event) :
    Proceeds b (b.turn texts leaving i t) := by
  unfold turn
  split
  · exact .refl b
  · rename_i o ho
    split_ifs
    · cases t with
      | work f =>
        refine proceeds_set ho ?_ ?_ (fun h => ?_) _
        · exact @hostId_step texts (lend b.nextHandle o) (.work f)
        · exact @ended_step texts (lend b.nextHandle o) (.work f)
        · exact calm_step (calm_lend h b.nextHandle) (.work f)
      | _ => exact proceeds_set ho (hostId_step _) (ended_step _) (fun h => calm_step h _) b.nextHandle
    · exact .refl b

lemma connected_some (h : connected b = some (i, o)) : b.network = some i ∧ b.observers[i]? = some o := by
  obtain ⟨j, hj, hm⟩ := Option.bind_eq_some_iff.mp h
  obtain ⟨p, hp, he⟩ := Option.map_eq_some_iff.mp hm
  cases he
  exact ⟨hj, hp⟩

lemma proceeds_submitRemote (c : RemoteCommand) : Proceeds b (b.submitRemote c).2 := by
  unfold submitRemote
  split
  · exact .refl b
  · rename_i i o hc
    have ho := (connected_some hc).2
    split
    · exact .refl b
    · rename_i e he
      have hcalm : Calm o → Calm { o with executor := some e } := fun h => h.submit he
      exact @proceeds_set b i o { o with executor := some e } ho rfl id hcalm b.nextHandle

/-- All observers have ended but the latest, as long as it takes commands or is being destroyed. -/
structure Lined (b : KcfNetwork) (leaving : Option ℕ) : Prop where
  calm : ∀ (i : ℕ) o, b.observers[i]? = some o → Calm o
  latest : ∀ i, b.network = some i ∨ leaving = some i → i + 1 = b.observers.length
  past : ∀ (i : ℕ) o, b.observers[i]? = some o → b.network ≠ some i → leaving ≠ some i → o.phase = .ended
  hostId : ∀ (i : ℕ) o, b.network = some i → b.observers[i]? = some o → o.hostId = b.networkOptions.hostId

variable {b' : KcfNetwork} {leaving : Option ℕ} {c : Configuration}

lemma Lined.proceeds (h : Lined b leaving) (hp : Proceeds b b') : Lined b' leaving where
  calm i o' ho' := by
    obtain ⟨o, ho, -, -, hc⟩ := hp.observers i o' ho'
    exact hc (h.calm i o ho)
  latest i hi := by
    rw [hp.network] at hi
    rw [hp.length]
    exact h.latest i hi
  past i o' ho' hn hl := by
    obtain ⟨o, ho, -, he, -⟩ := hp.observers i o' ho'
    exact he (h.past i o ho (hp.network ▸ hn) hl)
  hostId i o' hn ho' := by
    obtain ⟨o, ho, hid, -⟩ := hp.observers i o' ho'
    rw [hp.network] at hn
    rw [hid, hp.networkOptions]
    exact h.hostId i o hn ho

/-- What a configuration has brought about so far. -/
def Reached (b : KcfNetwork) (c : Configuration) : Prop :=
  match c.stage with
  | .stopping => True
  | .joining _ => b.network = none
  | .storing => b.network = none
  | .starting => b.network = none ∧ b.networkOptions = c.options ∧ c.enabled
  | .returned code => (code = 0 ∨ code = eagain) ∧ b.networkOptions = c.options ∧
    (b.network.isSome ↔ c.enabled ∧ code = 0)

lemma Reached.proceeds (h : Reached b c) (hp : Proceeds b b') : Reached b' c := by
  unfold Reached at *
  rw [hp.network, hp.networkOptions]
  exact h

lemma joined_ended {i : ℕ} (h : joined b (some i)) (ho : b.observers[i]? = some o) : o.phase = .ended := by
  unfold joined at h
  simp only [ho, Option.all_some] at h
  split at h
  · assumption
  · cases h

lemma Lined.start (h : Lined b none) (hn : b.network = none) (options : NetworkOptions) (made : Bool) :
    Lined (startNetwork b options made).2 none ∧
      (startNetwork b options made).1 = (if made then 0 else eagain) ∧
      (startNetwork b options made).2.networkOptions = options ∧
      (startNetwork b options made).2.network.isSome = made := by
  unfold startNetwork
  rw [if_neg (by simp [hn])]
  cases made with
  | false => exact ⟨⟨h.calm, h.latest, h.past, fun i o hi => by simp [hn] at hi⟩, rfl, rfl, by simp [hn]⟩
  | true =>
    refine ⟨⟨fun i o ho => ?_, fun i hi => ?_, fun i o ho hne hl => ?_, fun i o hi ho => ?_⟩, rfl, rfl, rfl⟩
    · simp only [if_true, List.getElem?_append] at ho
      split_ifs at ho
      · exact h.calm i o ho
      · obtain rfl := List.mem_singleton.mp (List.mem_of_getElem? ho)
        exact calm_new _
    · simp only [if_true, List.length_append, List.length_singleton] at hi ⊢
      rcases hi with hi | hi
      · rw [Option.some.inj hi]
      · cases hi
    · simp only [if_true, List.getElem?_append] at ho hne
      split_ifs at ho with hlt
      · exact h.past i o ho (by simp [hn]) hl
      · have hi := (List.getElem?_eq_some_iff.mp ho).1
        simp only [List.length_singleton] at hi
        exact absurd (congrArg some (by omega)) hne
    · simp only [if_true] at hi ho ⊢
      obtain rfl := Option.some.inj hi
      rw [List.getElem?_concat_length] at ho
      obtain rfl := Option.some.inj ho
      rfl

lemma Lined.advance (h : Lined b c.leaving) (hr : Reached b c) (made : Bool) :
    Lined (b.advance c made).2 (b.advance c made).1.leaving ∧
    Reached (b.advance c made).2 (b.advance c made).1 := by
  unfold KcfNetwork.advance
  cases hs : c.stage with
  | stopping =>
    have hl : c.leaving = none := by simp [Configuration.leaving, hs]
    refine ⟨⟨h.calm, fun i hi => ?_, fun i o ho _ hne => ?_, fun i o hi => by simp at hi⟩, rfl⟩
    · exact h.latest i (.inl (by simpa [Configuration.leaving] using hi))
    · exact h.past i o ho (by simpa [Configuration.leaving] using hne) (by simp [hl])
  | joining old =>
    have hl : c.leaving = old := by simp [Configuration.leaving, hs]
    have hn : b.network = none := by simpa [Reached, hs] using hr
    simp only
    split_ifs with hj
    · refine ⟨⟨h.calm, fun i hi => ?_, fun i o ho hne _ => ?_, h.hostId⟩, hn⟩
      · rcases hi with hi | hi
        · exact h.latest i (.inl hi)
        · cases hi
      · by_cases ho' : old = some i
        · exact joined_ended (ho' ▸ hj) ho
        · exact h.past i o ho hne (hl ▸ ho')
    · exact ⟨h, hr⟩
  | storing =>
    have hl : c.leaving = none := by simp [Configuration.leaving, hs]
    have hn : b.network = none := by simpa [Reached, hs] using hr
    have hlined : Lined { b with networkOptions := c.options } none :=
      ⟨h.calm, hl ▸ h.latest, hl ▸ h.past, fun i o hi => by simp [hn] at hi⟩
    cases he : c.enabled with
    | false => exact ⟨hlined, by simp [Reached, hn]⟩
    | true => exact ⟨hlined, by simp [Reached, hn]⟩
  | starting =>
    have hl : c.leaving = none := by simp [Configuration.leaving, hs]
    obtain ⟨hn, -, he⟩ : b.network = none ∧ b.networkOptions = c.options ∧ c.enabled := by
      simpa [Reached, hs] using hr
    obtain ⟨hlined, hcode, hoptions, hnetwork⟩ := (hl ▸ h : Lined b none).start hn c.options made
    refine ⟨hlined, ?_⟩
    simp only [Reached, hcode, hoptions, hnetwork, he, true_and]
    cases made <;> simp [eagain]
  | returned code => exact ⟨h, hr⟩

end Networks

end KcfTools.KcfNetwork
