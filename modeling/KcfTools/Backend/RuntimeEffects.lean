import KcfTools.Backend.RemoteRuntime

/-! What one command can do to the tables, and what its reply says about it. -/

namespace KcfTools.RemoteRuntime

open Std Traced Discovery ValueCodec

/-- The outcome of a command that gives out no handle. -/
def Bare {α : Type} (P : α → Prop) : Except Stop α → Prop
  | .ok a => P a
  | .error (.returned reply) => reply.handle = 0
  | .error .threw => True

abbrev Silent : Exec RemoteReply → Prop := Quiet (Bare fun reply => reply.handle = 0)

section Silent

variable {α β : Type} {P : α → Prop} {Q : β → Prop}

lemma quiet_leaveError (error : ℤ) : Quiet (Bare P) (leaveError error : Exec α) := fun _ _ => ⟨rfl, rfl⟩

lemma quiet_framework (call : Framework → Option α) : Quiet (Bare fun _ => True) (framework call) := by
  intro f rt
  unfold framework
  cases call f with
  | none => exact ⟨rfl, trivial⟩
  | some a => exact ⟨rfl, trivial⟩

lemma Quiet.step {x : Exec α} {f : α → Exec β} (hx : Quiet (Bare P) x) (hf : ∀ a, Quiet (Bare Q) (f a)) :
    Quiet (Bare Q) (x >>= f) :=
  hx.bind (fun a _ => hf a) fun e he => by
    cases e with
    | returned reply => exact he
    | threw => exact he

lemma quiet_descriptor (role : DescriptorRole) (type : RemoteTypeIdentity) :
    Quiet (Bare fun _ => True) (descriptor role type) := by
  refine Quiet.step (quiet_framework _) fun x => ?_
  obtain ⟨r, d⟩ := x
  simp only
  split_ifs
  · exact quiet_leaveError _
  · refine Quiet.read_bind fun f => ?_
    split_ifs
    · exact quiet_leaveError _
    · exact quiet_leaveError _
    · exact Quiet.pure trivial

variable (texts : Texts)

lemma silent_poll : Silent (poll texts) :=
  Quiet.read_bind fun _ => Quiet.getState_bind fun _ => Quiet.pure rfl

lemma silent_cancel (command : RemoteCommand) : Silent (cancel command) := by
  refine Quiet.getState_bind fun rt => ?_
  cases rt.actions[command.handle]? with
  | none => exact quiet_leaveError _
  | some a =>
    simp only
    split_ifs
    · exact quiet_leaveError _
    · exact Quiet.step (quiet_framework _) fun r => Quiet.pure rfl

lemma silent_prepare (input : TypeDescriptor) : Silent (prepare texts input) := by
  unfold prepare
  split
  · exact Quiet.pure rfl
  · exact Quiet.pure rfl

lemma silent_get (input : TypeDescriptor) : Silent (get texts input) := by
  refine Quiet.read_bind fun f => Quiet.step (quiet_framework _) fun x => ?_
  obtain ⟨r, bytes⟩ := x
  simp only
  split_ifs
  · exact Quiet.pure rfl
  · exact Quiet.pure rfl

lemma silent_set (input : TypeDescriptor) (bytes : List UInt8) : Silent (set texts input bytes) := by
  refine Quiet.read_bind fun f => Quiet.step (quiet_framework _) fun r => ?_
  simp only
  split_ifs
  · exact Quiet.pure rfl
  · refine Quiet.step (quiet_framework _) fun x => ?_
    obtain ⟨code, bytes⟩ := x
    simp only
    split_ifs
    · exact Quiet.pure rfl
    · exact Quiet.pure rfl

lemma silent_call (response : TypeDescriptor) (bytes : List UInt8) : Silent (call texts response bytes) := by
  refine Quiet.read_bind fun f => Quiet.step (quiet_framework _) fun r => ?_
  simp only
  split_ifs
  · exact Quiet.pure rfl
  · exact Quiet.pure rfl

end Silent

variable (texts : Texts)

/-- A goal's steps up to the removal of the actions that have ended. -/
def goalReady (command : RemoteCommand) : Exec (TypeDescriptor × TypeDescriptor × List UInt8) := do
  let e := command.endpoint
  let rt ← getState
  if rt.error ≠ 0 then leaveError rt.error
  else
    let f ← read
    if ¬ current e f.peers then leaveError estale
    else
      let parameter := e.kind = "P"
      let input ← descriptor (if parameter then .value else .request)
        (if parameter then e.valueType else e.requestType)
      let f ← read
      match encodeValue texts f input command.input with
      | .error code => leaveError code.val
      | .ok bytes =>
        let response ← descriptor .response e.responseType
        let feedback ← descriptor .feedback e.feedbackType
        return (feedback, response, bytes)

lemma leaveError_bind {α β : Type} (error : ℤ) (f : α → Exec β) :
    (leaveError error >>= f : Exec β) = leaveError error := by
  funext w rt
  exact bind_error (rfl : (leaveError error : Exec α) w rt = _)

lemma perform_goal {command : RemoteCommand} (h : command.operation = .goal) :
    perform texts command = goalReady texts command >>= fun x =>
      prune >>= fun _ => startGoal command.endpoint x.1 x.2.1 x.2.2 := by
  unfold perform goalReady request
  rw [bind_assoc]
  refine congrArg _ (funext fun rt => ?_)
  rw [h]
  simp only
  by_cases he : rt.error ≠ 0
  · simp only [if_pos he, leaveError_bind]
  simp only [if_neg he, bind_assoc]
  refine congrArg _ (funext fun f => ?_)
  by_cases hc : ¬ current command.endpoint f.peers = true
  · simp only [if_pos hc, leaveError_bind]
  simp only [if_neg hc, bind_assoc]
  refine congrArg _ (funext fun input => congrArg _ (funext fun f => ?_))
  cases encodeValue texts f input command.input with
  | error code => simp only [leaveError_bind]
  | ok bytes => simp [goal, bind_assoc]

lemma quiet_goalReady (command : RemoteCommand) : Quiet (Bare fun _ => True) (goalReady texts command) := by
  refine Quiet.getState_bind fun rt => ?_
  split_ifs
  · exact quiet_leaveError _
  refine Quiet.read_bind fun f => ?_
  by_cases hc : ¬ current command.endpoint f.peers = true
  · rw [if_pos hc]
    exact quiet_leaveError _
  rw [if_neg hc]
  refine Quiet.step (quiet_descriptor _ _) fun input => Quiet.read_bind fun f => ?_
  cases encodeValue texts f input command.input with
  | error code => exact quiet_leaveError _
  | ok bytes =>
    exact Quiet.step (quiet_descriptor _ _) fun response =>
      Quiet.step (quiet_descriptor _ _) fun feedback => Quiet.pure trivial

lemma silent_request {command : RemoteCommand} (h : command.operation ≠ .goal) :
    Silent (request texts command) := by
  refine Quiet.step (quiet_descriptor _ _) fun input => ?_
  have hencode : Silent (do
      let f ← read
      match encodeValue texts f input command.input with
      | .error code => leaveError code.val
      | .ok bytes =>
        if command.operation = .set then set texts input bytes
        else
          let response ← descriptor .response command.endpoint.responseType
          if command.operation = .call then call texts response bytes
          else if command.operation = .goal then goal command.endpoint response bytes
          else leaveError einvalCode) := by
    refine Quiet.read_bind fun f => ?_
    cases encodeValue texts f input command.input with
    | error code => exact quiet_leaveError _
    | ok bytes =>
      simp only
      split_ifs
      · exact silent_set texts input bytes
      · exact Quiet.step (quiet_descriptor _ _) fun response => silent_call texts response bytes
      · exact Quiet.step (quiet_descriptor _ _) fun response => quiet_leaveError _
  rcases ho : command.operation with _ | _ | _ | _ | _ | _ | _ | _ | _ <;> rw [ho] at hencode
  case prepare => exact silent_prepare texts input
  case get => exact silent_get texts input
  case goal => exact absurd ho h
  all_goals exact hencode

/-- The command is a goal, and it gets as far as removing the actions that have ended. -/
def Prunes (command : RemoteCommand) (f : Framework) (rt : Runtime) : Prop :=
  command.operation = .goal ∧ ∃ x, goalReady texts command f rt = (.ok x, rt)

def running (f : Framework) (actions : ExtTreeMap ℕ RunningAction) : ExtTreeMap ℕ RunningAction :=
  actions.filter fun _ a => !(f.actionSnapshot a.handle).terminal

/-- What a command does to the tables, by its reply. -/
inductive Effect (command : RemoteCommand) (f : Framework) (rt : Runtime) :
    Option RemoteReply → Runtime → Prop
  | silent {reply : Option RemoteReply} (hp : ¬ Prunes texts command f rt) (hh : ∀ r ∈ reply, r.handle = 0)
      (he : command.operation = .subscribe ∨ command.operation = .unsubscribe → ∀ r ∈ reply, r.error ≠ 0) :
      Effect command f rt reply rt
  | unsubscribed {t : SubscribedTopic} {r : ℤ} (ho : command.operation = .unsubscribe)
      (ht : rt.subscriptions[command.handle]? = some t) (hr : f.unsubscribe t.handle = some r) :
      Effect command f rt (some { error := r })
        { rt with subscriptions := rt.subscriptions.erase command.handle }
  | subscribed (t : SubscribedTopic) (ho : command.operation = .subscribe) :
      Effect command f rt (some { handle := rt.nextHandle + 1 })
        { rt with nextHandle := rt.nextHandle + 1,
                  subscriptions := rt.subscriptions.insertIfNew (rt.nextHandle + 1) t }
  | pruned {reply : Option RemoteReply} (hp : Prunes texts command f rt) (hh : ∀ r ∈ reply, r.handle = 0) :
      Effect command f rt reply { rt with actions := running f rt.actions }
  | started {reply : RemoteReply} (a : RunningAction) (hp : Prunes texts command f rt)
      (hh : reply.handle = rt.nextHandle + 1) :
      Effect command f rt (some reply)
        { rt with nextHandle := rt.nextHandle + 1,
                  actions := (running f rt.actions).insertIfNew (rt.nextHandle + 1) a }

section Effect

variable {texts} {command : RemoteCommand} {f : Framework} {rt : Runtime}

lemma settle_bare {out : Except Stop RemoteReply} (h : Bare (fun reply => reply.handle = 0) out) :
    ∀ r ∈ (settle (out, rt)).1, r.handle = 0 := by
  intro r hr
  rcases out with (reply | _) | reply
  · obtain rfl : reply = r := Option.some_inj.mp hr
    exact h
  · cases hr
  · obtain rfl : reply = r := Option.some_inj.mp hr
    exact h

lemma settle_snd (out : Except Stop RemoteReply × Runtime) : (settle out).2 = out.2 := by
  rcases out with ⟨(_ | _) | _, _⟩ <;> rfl

lemma effect_silent {x : Exec RemoteReply} (hx : Silent x) (ho : command.operation ≠ .goal)
    (hs : command.operation ≠ .subscribe) (hu : command.operation ≠ .unsubscribe) :
    Effect texts command f rt (settle (x f rt)).1 (settle (x f rt)).2 := by
  rcases h : x f rt with ⟨out, rt'⟩
  obtain ⟨rfl, hb⟩ := hx.run h
  rw [settle_snd]
  exact .silent (fun hp => ho hp.1) (settle_bare hb) fun h => (h.elim hs hu).elim

lemma framework_some {α : Type} {call : Framework → Option α} {a : α} (h : call f = some a) :
    framework call f rt = (.ok a, rt) := by
  simp only [framework, h]

lemma framework_none {α : Type} {call : Framework → Option α} (h : call f = none) :
    framework call f rt = (.error .threw, rt) := by
  simp only [framework, h]

lemma effect_unsubscribe (ho : command.operation = .unsubscribe) :
    Effect texts command f rt (settle (unsubscribe command.handle f rt)).1
      (settle (unsubscribe command.handle f rt)).2 := by
  have hp : ¬ Prunes texts command f rt := fun h => by
    have hg := h.1
    simp [ho] at hg
  unfold unsubscribe
  rw [bind_ok (rfl : getState f rt = (.ok rt, rt))]
  cases ht : rt.subscriptions[command.handle]? with
  | none => exact .silent hp (by rintro r ⟨⟩; rfl) (by rintro - r ⟨⟩; decide)
  | some t =>
    simp only
    cases hr : f.unsubscribe t.handle with
    | none =>
      rw [bind_error (framework_none hr)]
      exact .silent hp (by rintro r ⟨⟩) (by rintro - r ⟨⟩)
    | some r =>
      rw [bind_ok (framework_some hr)]
      exact .unsubscribed ho ht hr

lemma effect_subscribe (ho : command.operation = .subscribe) :
    Effect texts command f rt (settle (subscribe command.endpoint f rt)).1
      (settle (subscribe command.endpoint f rt)).2 := by
  have hp : ¬ Prunes texts command f rt := fun h => by
    have hg := h.1
    simp [ho] at hg
  unfold subscribe
  cases hs : f.subscribe with
  | none =>
    rw [bind_error (framework_none hs)]
    exact .silent hp (by rintro r ⟨⟩) (by rintro - r ⟨⟩)
  | some x =>
    obtain ⟨r, subscription⟩ := x
    rw [bind_ok (framework_some hs)]
    simp only
    split_ifs with hr
    · exact .silent hp (by rintro r ⟨⟩; rfl) (by rintro - r ⟨⟩; exact hr)
    · exact .subscribed ⟨command.endpoint, subscription⟩ ho

lemma effect_goal (ho : command.operation = .goal) :
    Effect texts command f rt (settle (perform texts command f rt)).1
      (settle (perform texts command f rt)).2 := by
  rw [perform_goal texts ho]
  rcases h : goalReady texts command f rt with ⟨e | x, rt'⟩
  · obtain ⟨rfl, hb⟩ := (quiet_goalReady texts command).run h
    rw [bind_error h, settle_snd]
    refine .silent (fun hp => ?_) (settle_bare (by cases e <;> exact hb)) fun hs => by simp [ho] at hs
    obtain ⟨-, y, hy⟩ := hp
    rw [h] at hy
    cases hy
  · obtain ⟨rfl, -⟩ := (quiet_goalReady texts command).run h
    have hp : Prunes texts command f rt' := ⟨ho, x, h⟩
    rw [bind_ok h, bind_ok (rfl : prune f rt' = (.ok (), { rt' with actions := running f rt'.actions }))]
    unfold startGoal
    cases hs : f.startAction x.2.2 with
    | none =>
      rw [bind_error (framework_none hs)]
      exact .pruned hp (by rintro r ⟨⟩)
    | some r =>
      rw [bind_ok (framework_some hs)]
      simp only
      cases r.handle with
      | none => exact .pruned hp (by rintro r ⟨⟩; rfl)
      | some h => exact .started ⟨command.endpoint, x.1, x.2.1, h⟩ hp rfl

theorem execute_effect : Effect texts command f rt (execute texts command f rt).1
    (execute texts command f rt).2 := by
  unfold execute
  by_cases ho : command.operation = .goal
  · exact effect_goal ho
  have hp : ¬ Prunes texts command f rt := fun h => ho h.1
  unfold perform
  rw [bind_ok (rfl : getState f rt = (.ok rt, rt))]
  by_cases he : rt.error ≠ 0
  · rw [if_pos he]
    exact .silent hp (by rintro r ⟨⟩; rfl) (by rintro - r ⟨⟩; exact he)
  rw [if_neg he]
  cases hop : command.operation with
  | poll => exact effect_silent (silent_poll texts) ho (by simp [hop]) (by simp [hop])
  | unsubscribe => exact effect_unsubscribe hop
  | _ =>
    simp only
    rw [bind_ok (rfl : read f rt = (.ok f, rt))]
    by_cases hc : ¬ current command.endpoint f.peers = true
    · rw [if_pos hc]
      exact .silent hp (by rintro r ⟨⟩; rfl) (by rintro - r ⟨⟩; decide)
    rw [if_neg hc]
    first
    | exact effect_subscribe hop
    | exact effect_silent (silent_cancel command) ho (by simp [hop]) (by simp [hop])
    | exact effect_silent (silent_request texts ho) ho (by simp [hop]) (by simp [hop])

lemma execute_failed (he : rt.error ≠ 0) : execute texts command f rt = (some { error := rt.error }, rt) := by
  unfold execute perform
  rw [bind_ok (rfl : getState f rt = (.ok rt, rt)), if_pos he]
  rfl

/-- An exception keeps the subscription, an error does not. -/
lemma execute_unsubscribe (ho : command.operation = .unsubscribe) (he : rt.error = 0) :
    execute texts command f rt = match rt.subscriptions[command.handle]? with
      | none => (some { error := enoent }, rt)
      | some t => match f.unsubscribe t.handle with
        | none => (none, rt)
        | some r =>
          (some { error := r }, { rt with subscriptions := rt.subscriptions.erase command.handle }) := by
  unfold execute perform
  rw [bind_ok (rfl : getState f rt = (.ok rt, rt)), if_neg (not_not.mpr he), ho]
  simp only
  unfold unsubscribe
  rw [bind_ok (rfl : getState f rt = (.ok rt, rt))]
  cases ht : rt.subscriptions[command.handle]? with
  | none => rfl
  | some t =>
    simp only
    cases hr : f.unsubscribe t.handle with
    | none =>
      rw [bind_error (framework_none hr)]
      rfl
    | some r =>
      rw [bind_ok (framework_some hr)]
      rfl

end Effect

end KcfTools.RemoteRuntime
