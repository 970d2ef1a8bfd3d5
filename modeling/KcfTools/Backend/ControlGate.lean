import KcfTools.Backend.ActionHistory
import KcfTools.Backend.Delivery
import KcfTools.Backend.NetworkObserver

/-! The network observer around the executor: how its worker starts and ends, the snapshot that it
publishes, and the gate that this snapshot holds in front of the commands. -/

namespace KcfTools.ControlGate

open NetworkObserver RemoteExecutor Transitions

def enotconn : ℤ := -107
def eacces : ℤ := -13

/-- The loop runs, is left, or has been left through an exception; at last the worker has returned. -/
inductive Phase
  | starting
  | running (worker : NetworkObserver.Worker)
  | leaving
  | failing
  | ended

/-- The executor stays readable after `expired`, only `lock` fails then. -/
structure Observer where
  hostId : String
  snapshot : NetworkSnapshot := { status := "Network starting" }
  phase : Phase := .starting
  inner : ObserverState := {}
  executor : Option RemoteExecutor := none
  expired : Bool := false

def hostIdError (id : String) : Option String :=
  if id = "" then none
  else if id.utf8ByteSize ≠ 32 then some "Invalid Host ID: expected 32 hexadecimal digits"
  else if id.toList.any fun c => digit c < 0 then some "Invalid Host ID"
  else if id.toList.all fun c => digit c = 0 then some "Host ID must not be zero"
  else none

/-- What the start of the worker finds. -/
structure Launch where
  checks : Discovery.Checks
  generated : Bool
  ephemeral : HostIdentity
  discovery : ℤ
  startError : Int32

variable (texts : ValueCodec.Texts) (o : Observer)

def abort (status : String) : Observer :=
  { o with snapshot := { o.snapshot with status := status }, phase := .ended }

def launch (l : Launch) : Observer :=
  if ¬ l.generated then abort o "Discovery identity generation failed"
  else match hostIdError o.hostId with
    | some status => abort o status
    | none =>
      if l.discovery ≠ 0 then abort o ("Discovery start failed: " ++ toString l.discovery)
      else
        { o with
          phase := .running
            { checks := l.checks
              host := if o.hostId = "" then l.ephemeral else parseHost o.hostId
              explicitIdentity := o.hostId ≠ ""
              startError := l.startError }
          executor := some (start l.startError.toInt) }

/-- One round of the loop; an exception leaves it. -/
def round (worker : NetworkObserver.Worker) (tick : Tick) : Observer :=
  let (peers, inner) := advance worker.checks o.inner tick
  match publish worker inner.cache tick peers with
  | some snapshot => { o with inner := inner, snapshot := snapshot }
  | none => { o with phase := .failing }

/-- The executor is destroyed once its worker has returned. -/
def release : Observer :=
  if (o.executor.map RemoteExecutor.worker) ≠ some .ended then o
  else match o.phase with
    | .leaving => { o with expired := true, phase := .ended }
    | .failing =>
      { o with
        expired := true
        phase := .ended
        snapshot := { o.snapshot with hosts := [], status := "Discovery worker failed" } }
    | _ => o

def lock : Option RemoteExecutor := if o.expired then none else o.executor

def readOnly (operation : RemoteOperation) : Bool :=
  operation = .subscribe ∨ operation = .unsubscribe ∨ operation = .poll

/-- The answer at once, or the executor that took the command. -/
def submit (c : RemoteCommand) : RemoteReply ⊕ RemoteExecutor :=
  if ¬ o.snapshot.explicitControlIdentity ∧ ¬ readOnly c.operation then .inl (remoteUnavailable eacces)
  else match lock o with
    | none => .inl (remoteUnavailable enotconn)
    | some e => .inr (RemoteExecutor.submit e c)

inductive Event
  | launch (l : Launch)
  | round (tick : Tick)
  | leave
  | release
  | submit (c : RemoteCommand)
  | stop
  | work (f : RemoteRuntime.Framework)

def step (o : Observer) : Event → Observer
  | .launch l => match o.phase with
    | .starting => launch o l
    | _ => o
  | .round tick => match o.phase with
    | .running worker => round o worker tick
    | _ => o
  | .leave => match o.phase with
    | .running _ => { o with phase := .leaving }
    | _ => o
  | .release => release o
  | .submit c => match submit o c with
    | .inl _ => o
    | .inr e => { o with executor := some e }
  | .stop => { o with executor := o.executor.map stop }
  | .work f => { o with executor := o.executor.map fun e => work texts e f }

def run (hostId : String) (events : List Event) : Observer := events.foldl (step texts) { hostId := hostId }

/-- What one step does to the snapshot's identity, to the phase and to the executor. -/
inductive Moved (o : Observer) : Observer → Prop
  | idle {inner phase hosts status expired} : phase = o.phase ∨ (∀ worker, phase ≠ .running worker) →
      Moved o { o with
        inner := inner, phase := phase, expired := expired
        snapshot := { o.snapshot with hosts := hosts, status := status } }
  | launched {worker error} : worker.explicitIdentity = decide (o.hostId ≠ "") →
      Moved o { o with phase := .running worker, executor := some (start error) }
  | published {worker inner snapshot} : o.phase = .running worker →
      snapshot.explicitControlIdentity = worker.explicitIdentity →
        Moved o { o with inner := inner, snapshot := snapshot }
  | submitted {e c} : o.executor = some e → o.snapshot.explicitControlIdentity ∨ readOnly c.operation →
      Moved o { o with executor := some (RemoteExecutor.submit e c) }
  | stopped : Moved o { o with executor := o.executor.map stop }
  | worked {f} : Moved o { o with executor := o.executor.map fun e => work texts e f }

variable {texts} {o : Observer}

lemma Moved.refl : Moved texts o o :=
  @Moved.idle texts o o.inner o.phase o.snapshot.hosts o.snapshot.status o.expired (.inl rfl)

lemma abort_moved (status : String) : Moved texts o (abort o status) :=
  @Moved.idle texts o o.inner .ended o.snapshot.hosts status o.expired (.inr fun _ h => nomatch h)

lemma launch_moved (l : Launch) : Moved texts o (launch o l) := by
  unfold launch
  by_cases hg : ¬ l.generated
  · rw [if_pos hg]
    exact abort_moved _
  · rw [if_neg hg]
    cases hostIdError o.hostId with
    | some status => exact abort_moved status
    | none =>
      by_cases hd : l.discovery ≠ 0
      · simp only [if_pos hd]
        exact abort_moved _
      · simp only [if_neg hd]
        exact .launched rfl

lemma publish_explicit {worker : NetworkObserver.Worker} {cache : Cache} {tick : Tick}
    {peers : List Discovery.PeerInfo} {snapshot : NetworkSnapshot}
    (h : publish worker cache tick peers = some snapshot) :
    snapshot.explicitControlIdentity = worker.explicitIdentity := by
  obtain ⟨next, _, h⟩ := Option.bind_eq_some_iff.mp h
  obtain ⟨hosts, _, rfl⟩ := Option.map_eq_some_iff.mp h
  rfl

lemma round_moved {worker : NetworkObserver.Worker} (h : o.phase = .running worker) (tick : Tick) :
    Moved texts o (round o worker tick) := by
  unfold round
  simp only
  cases hp : publish worker (advance worker.checks o.inner tick).2.cache tick
      (advance worker.checks o.inner tick).1 with
  | some snapshot => exact .published h (publish_explicit hp)
  | none =>
    exact @Moved.idle texts o o.inner .failing o.snapshot.hosts o.snapshot.status o.expired
      (.inr fun _ h => nomatch h)

lemma release_moved : Moved texts o (release o) := by
  unfold release
  by_cases he : (o.executor.map RemoteExecutor.worker) ≠ some .ended
  · rw [if_pos he]
    exact .refl
  · rw [if_neg he]
    cases o.phase with
    | leaving =>
      exact @Moved.idle texts o o.inner .ended o.snapshot.hosts o.snapshot.status true
        (.inr fun _ h => nomatch h)
    | failing =>
      exact @Moved.idle texts o o.inner .ended [] "Discovery worker failed" true
        (.inr fun _ h => nomatch h)
    | starting => exact .refl
    | running worker => exact .refl
    | ended => exact .refl

lemma lock_eq {e : RemoteExecutor} (h : lock o = some e) : o.executor = some e := by
  unfold lock at h
  split_ifs at h
  exact h

lemma submit_moved (c : RemoteCommand) : Moved texts o (match submit o c with
    | .inl _ => o
    | .inr e => { o with executor := some e }) := by
  unfold submit
  by_cases hg : ¬ o.snapshot.explicitControlIdentity ∧ ¬ readOnly c.operation
  · rw [if_pos hg]
    exact .refl
  · rw [if_neg hg]
    cases he : lock o with
    | none => exact .refl
    | some e =>
      refine .submitted (lock_eq he) ?_
      rwa [not_and_or, not_not, not_not] at hg

lemma step_moved (event : Event) : Moved texts o (step texts o event) := by
  cases event with
  | launch l =>
    simp only [step]
    cases o.phase with
    | starting => exact launch_moved l
    | running worker => exact .refl
    | leaving => exact .refl
    | failing => exact .refl
    | ended => exact .refl
  | round tick =>
    simp only [step]
    cases hp : o.phase with
    | running worker => exact round_moved hp tick
    | starting => exact .refl
    | leaving => exact .refl
    | failing => exact .refl
    | ended => exact .refl
  | leave =>
    simp only [step]
    cases o.phase with
    | running worker =>
      exact @Moved.idle texts o o.inner .leaving o.snapshot.hosts o.snapshot.status o.expired
        (.inr fun _ h => nomatch h)
    | starting => exact .refl
    | leaving => exact .refl
    | failing => exact .refl
    | ended => exact .refl
  | release => exact release_moved
  | submit c => exact submit_moved c
  | stop => exact .stopped
  | work f => exact .worked

lemma Moved.hostId_eq {o' : Observer} (h : Moved texts o o') : o'.hostId = o.hostId := by
  cases h <;> rfl

/-- The executor has run like any other, and without Host ID it was given read-only commands only. -/
structure Gated (texts : ValueCodec.Texts) (o : Observer) : Prop where
  executor : ∀ e, o.executor = some e → ∃ error steps, e = RemoteExecutor.run texts error steps
  snapshot : o.hostId = "" → o.snapshot.explicitControlIdentity = false
  worker : o.hostId = "" → ∀ worker, o.phase = .running worker → worker.explicitIdentity = false
  submitted : o.hostId = "" → ∀ e, o.executor = some e → ∀ job stopping queued,
    .submitted job stopping queued ∈ e.log → readOnly job.command.operation

lemma submitted_work {e : RemoteExecutor} {f : RemoteRuntime.Framework} {job : Job} {stopping : Bool}
    {queued : ℕ} (h : .submitted job stopping queued ∈ (work texts e f).log) :
    .submitted job stopping queued ∈ e.log := by
  unfold work at h
  cases hw : e.worker with
  | waiting =>
    simp only [hw, take, note] at h
    split_ifs at h
    · simpa using h
    · cases hq : e.queue with
      | nil => simpa [hq] using h
      | cons j queue => simpa [hq] using h
  | holding j => simpa [hw, note] using h
  | executing j => simpa [hw, finish, note] using h
  | ended => simpa [hw] using h

lemma submitted_submit {e : RemoteExecutor} {c : RemoteCommand} {job : Job} {stopping : Bool} {queued : ℕ}
    (h : .submitted job stopping queued ∈ (RemoteExecutor.submit e c).log) :
    .submitted job stopping queued ∈ e.log ∨ job.command = c := by
  unfold RemoteExecutor.submit note at h
  simp only at h
  split_ifs at h
  · rcases (by simpa using h : _ ∈ e.log ∨ job = ⟨e.tickets, c⟩ ∧ _) with h | h
    · exact .inl h
    · exact .inr (congrArg Job.command h.1)
  · rcases (by simpa using h : _ ∈ e.log ∨ job = ⟨e.tickets, c⟩ ∧ _) with h | h
    · exact .inl h
    · exact .inr (congrArg Job.command h.1)
  · rcases (by simpa using h : _ ∈ e.log ∨ job = ⟨e.tickets, c⟩ ∧ _) with h | h
    · exact .inl h
    · exact .inr (congrArg Job.command h.1)

lemma run_step (error : ℤ) (steps : List RemoteExecutor.Event) (event : RemoteExecutor.Event) :
    RemoteExecutor.step texts (RemoteExecutor.run texts error steps) event =
      RemoteExecutor.run texts error (steps ++ [event]) := by
  simp [RemoteExecutor.run]

lemma Gated.moved {o' : Observer} (h : Gated texts o) (hm : Moved texts o o') : Gated texts o' := by
  cases hm with
  | idle hphase =>
    refine ⟨h.executor, h.snapshot, fun hid worker hw => ?_, h.submitted⟩
    rcases hphase with rfl | hno
    · exact h.worker hid worker hw
    · exact absurd hw (hno worker)
  | launched hid =>
    refine ⟨?_, h.snapshot, ?_, ?_⟩
    · rintro e he
      obtain rfl := Option.some.inj he
      exact ⟨_, [], rfl⟩
    · rintro hempty worker hw
      cases hw
      rw [hid, hempty]
      rfl
    · rintro _ e he job stopping queued hj
      obtain rfl := Option.some.inj he
      cases hj
  | published hphase hs => exact ⟨h.executor, fun hid => hs.trans (h.worker hid _ hphase), h.worker,
    h.submitted⟩
  | @submitted e c he hok =>
    refine ⟨?_, h.snapshot, h.worker, ?_⟩
    · rintro e' he'
      obtain rfl := Option.some.inj he'
      obtain ⟨error, steps, rfl⟩ := h.executor e he
      exact ⟨error, _, run_step error steps (.submit c)⟩
    · rintro hid e' he' job stopping queued hj
      obtain rfl := Option.some.inj he'
      rcases submitted_submit hj with hj | hc
      · exact h.submitted hid e he job stopping queued hj
      · rw [hc]
        exact hok.resolve_left (by simp [h.snapshot hid])
  | stopped =>
    refine ⟨?_, h.snapshot, h.worker, ?_⟩
    · rintro e' he'
      obtain ⟨e, he, rfl⟩ := Option.map_eq_some_iff.mp he'
      obtain ⟨error, steps, rfl⟩ := h.executor e he
      exact ⟨error, _, run_step error steps .stop⟩
    · rintro hid e' he' job stopping queued hj
      obtain ⟨e, he, rfl⟩ := Option.map_eq_some_iff.mp he'
      exact h.submitted hid e he job stopping queued hj
  | @worked f =>
    refine ⟨?_, h.snapshot, h.worker, ?_⟩
    · rintro e' he'
      obtain ⟨e, he, rfl⟩ := Option.map_eq_some_iff.mp he'
      obtain ⟨error, steps, rfl⟩ := h.executor e he
      exact ⟨error, _, run_step error steps (.work f)⟩
    · rintro hid e' he' job stopping queued hj
      obtain ⟨e, he, rfl⟩ := Option.map_eq_some_iff.mp he'
      exact h.submitted hid e he job stopping queued (submitted_work hj)

end KcfTools.ControlGate
