import KcfTools.Backend.ActionHistory
import KcfTools.Lib.Histories
import KcfTools.Lib.Tables

/-! The tables of the control worker along its commands, and the handles of the framework that a Cancel
and a Poll get from them. -/

namespace KcfTools.RemoteRuntime

open Std Traced Discovery ValueCodec Histories

section Tables

variable (texts : Texts) (command : RemoteCommand) (f : Framework) (rt : Runtime)

/-- The goal starts the action, and its reply carries the handle. -/
def Starts (k : ℕ) (a : RunningAction) : Prop :=
  command.operation = .goal ∧ k = rt.nextHandle + 1 ∧ ∃ x r, goalReady texts command f rt = (.ok x, rt) ∧
    f.startAction x.2.2 = some r ∧ r.handle = some a.handle ∧ a = ⟨command.endpoint, x.1, x.2.1, a.handle⟩

/-- The goal removes the action, which has ended. -/
def Forgets (a : RunningAction) : Prop :=
  Prunes texts command f rt ∧ (f.actionSnapshot a.handle).terminal

def Subscribes (k : ℕ) (t : SubscribedTopic) : Prop :=
  command.operation = .subscribe ∧ rt.error = 0 ∧ current command.endpoint f.peers ∧ k = rt.nextHandle + 1 ∧
    t.endpoint = command.endpoint ∧ f.subscribe = some (0, t.handle)

def Unsubscribes (k : ℕ) (t : SubscribedTopic) : Prop :=
  command.operation = .unsubscribe ∧ rt.error = 0 ∧ command.handle = k ∧ (f.unsubscribe t.handle).isSome

/-- No handle is beyond those that were given out. -/
structure Issued (rt : Runtime) : Prop where
  actions : ∀ k ∈ rt.actions, k ≤ rt.nextHandle
  subscriptions : ∀ k ∈ rt.subscriptions, k ≤ rt.nextHandle

end Tables

section Steps

variable {texts : Texts} {command : RemoteCommand} {f : Framework} {rt : Runtime}

lemma getElem?_fresh {α : Type} {m : ExtTreeMap ℕ α} {n k : ℕ} {v w : α} (h : n ∉ m) :
    (m.insertIfNew n v)[k]? = some w ↔ n = k ∧ v = w ∨ m[k]? = some w := by
  rw [Tables.getElem?_insertIfNew]
  by_cases hk : n = k
  · subst hk
    simp [ExtTreeMap.getElem?_eq_none h]
  · simp [hk]

lemma not_mem_succ {α : Type} {m : ExtTreeMap ℕ α} {n : ℕ} (h : ∀ k ∈ m, k ≤ n) : n + 1 ∉ m :=
  fun hm => absurd (h _ hm) (by omega)

lemma running_issued (h : ∀ k ∈ rt.actions, k ≤ rt.nextHandle) :
    ∀ k ∈ running f rt.actions, k ≤ rt.nextHandle :=
  fun k hk => h k (ExtTreeMap.mem_of_mem_filter hk)

lemma goal_tables (ho : command.operation = .goal) (hi : Issued rt) (k : ℕ) (a : RunningAction) :
    (execute texts command f rt).2.actions[k]? = some a ↔
      Starts texts command f rt k a ∨ rt.actions[k]? = some a ∧ ¬ Forgets texts command f rt a := by
  unfold execute
  rw [settle_snd, perform_goal texts ho]
  rcases hready : goalReady texts command f rt with ⟨e | x, rt'⟩
  · obtain ⟨rfl, -⟩ := (quiet_goalReady texts command).run hready
    have hnone : ∀ x, goalReady texts command f rt' ≠ (.ok x, rt') := fun x hx => by
      rw [hready] at hx
      cases hx
    rw [bind_error hready]
    refine ⟨fun h => .inr ⟨h, fun hf => ?_⟩, fun h => h.elim (fun hs => ?_) And.left⟩
    · obtain ⟨⟨-, x, hx⟩, -⟩ := hf
      exact hnone x hx
    · obtain ⟨-, -, x, -, hx, -⟩ := hs
      exact absurd hx (hnone x)
  · obtain ⟨rfl, -⟩ := (quiet_goalReady texts command).run hready
    have hp : Prunes texts command f rt' := ⟨ho, x, hready⟩
    have hkept : (running f rt'.actions)[k]? = some a ↔
        rt'.actions[k]? = some a ∧ ¬ Forgets texts command f rt' a := by
      rw [running_getElem?]
      exact and_congr_right fun _ => not_congr ⟨fun ht => ⟨hp, ht⟩, And.right⟩
    rw [bind_ok hready, bind_ok (rfl : prune f rt' = (.ok (), { rt' with actions := running f rt'.actions }))]
    unfold startGoal
    cases hs : f.startAction x.2.2 with
    | none =>
      rw [bind_error (framework_none hs)]
      refine hkept.trans ⟨.inr, fun h => h.resolve_left fun hst => ?_⟩
      obtain ⟨-, -, y, r, hy, hr, -⟩ := hst
      rw [hready] at hy
      cases hy
      rw [hs] at hr
      cases hr
    | some r =>
      rw [bind_ok (framework_some hs)]
      simp only
      cases hr : r.handle with
      | none =>
        refine hkept.trans ⟨.inr, fun h => h.resolve_left fun hst => ?_⟩
        obtain ⟨-, -, y, r', hy, hr', hh, -⟩ := hst
        rw [hready] at hy
        cases hy
        rw [hs] at hr'
        cases hr'
        rw [hr] at hh
        cases hh
      | some h =>
        have hfresh : rt'.nextHandle + 1 ∉ running f rt'.actions := not_mem_succ (running_issued hi.actions)
        refine (getElem?_fresh hfresh).trans (or_congr ?_ hkept)
        constructor
        · rintro ⟨rfl, rfl⟩
          exact ⟨ho, rfl, x, r, hready, hs, hr, rfl⟩
        · rintro ⟨-, rfl, y, r', hy, hr', hh, ha⟩
          rw [hready] at hy
          cases hy
          rw [hs] at hr'
          cases hr'
          rw [hr, Option.some_inj] at hh
          exact ⟨rfl, by rw [ha, hh]⟩

/-- A command that is no goal leaves the actions, one that neither subscribes nor unsubscribes the
subscriptions. -/
lemma execute_others : (command.operation ≠ .goal → (execute texts command f rt).2.actions = rt.actions) ∧
    (command.operation ≠ .subscribe → command.operation ≠ .unsubscribe →
      (execute texts command f rt).2.subscriptions = rt.subscriptions) := by
  have heffect := @execute_effect texts command f rt
  generalize execute texts command f rt = out at heffect
  obtain ⟨reply, rt'⟩ := out
  cases heffect with
  | silent => exact ⟨fun _ => rfl, fun _ _ => rfl⟩
  | unsubscribed ho => exact ⟨fun _ => rfl, fun _ hu => absurd ho hu⟩
  | subscribed _ ho => exact ⟨fun _ => rfl, fun hs => absurd ho hs⟩
  | pruned hp => exact ⟨fun hg => absurd hp.1 hg, fun _ _ => rfl⟩
  | started _ hp => exact ⟨fun hg => absurd hp.1 hg, fun _ _ => rfl⟩

lemma actions_step (hi : Issued rt) (k : ℕ) (a : RunningAction) :
    (execute texts command f rt).2.actions[k]? = some a ↔
      Starts texts command f rt k a ∨ rt.actions[k]? = some a ∧ ¬ Forgets texts command f rt a := by
  by_cases ho : command.operation = .goal
  · exact goal_tables ho hi k a
  · rw [execute_others.1 ho]
    exact ⟨fun h => .inr ⟨h, fun hf => ho hf.1.1⟩, fun h => h.elim (fun hs => absurd hs.1 ho) And.left⟩

lemma subscribe_tables (ho : command.operation = .subscribe) (hi : Issued rt) (k : ℕ) (t : SubscribedTopic) :
    (execute texts command f rt).2.subscriptions[k]? = some t ↔
      Subscribes command f rt k t ∨ rt.subscriptions[k]? = some t := by
  have hnone : ¬ (rt.error = 0 ∧ current command.endpoint f.peers ∧ ∃ h, f.subscribe = some (0, h)) →
      ∀ k t, ¬ Subscribes command f rt k t := fun h k t hs => h ⟨hs.2.1, hs.2.2.1, t.handle, hs.2.2.2.2.2⟩
  have hkept : (execute texts command f rt).2 = rt → (∀ k t, ¬ Subscribes command f rt k t) →
      ((execute texts command f rt).2.subscriptions[k]? = some t ↔
        Subscribes command f rt k t ∨ rt.subscriptions[k]? = some t) := fun hrt h => by
    rw [hrt]
    exact ⟨.inr, fun ht => ht.resolve_left (h k t)⟩
  by_cases he : rt.error = 0
  swap
  · exact hkept (by rw [execute_failed he]) (hnone fun h => he h.1)
  have hexecute : execute texts command f rt =
      if ¬ current command.endpoint f.peers then (some { error := estale }, rt)
      else settle (subscribe command.endpoint f rt) := by
    unfold execute perform
    rw [bind_ok (rfl : getState f rt = (.ok rt, rt)), if_neg (not_not.mpr he), ho]
    simp only
    rw [bind_ok (rfl : read f rt = (.ok f, rt))]
    split_ifs <;> rfl
  by_cases hc : current command.endpoint f.peers
  swap
  · exact hkept (by rw [hexecute, if_pos hc]) (hnone fun h => hc h.2.1)
  rw [if_neg (not_not.mpr hc)] at hexecute
  cases hs : f.subscribe with
  | none =>
    refine hkept ?_ (hnone fun ⟨_, _, h, hh⟩ => by rw [hs] at hh; cases hh)
    rw [hexecute, settle_snd, subscribe, bind_error (framework_none hs)]
  | some x =>
    obtain ⟨r, h⟩ := x
    have hrun : subscribe command.endpoint f rt =
        (if r ≠ 0 then leaveError r else newHandle >>= fun handle => modifyState (fun rt =>
          { rt with subscriptions := rt.subscriptions.insertIfNew handle ⟨command.endpoint, h⟩ }) >>= fun _ =>
            return { handle := handle }) f rt := bind_ok (framework_some hs)
    by_cases hr : r = 0
    · rw [if_neg (not_not.mpr hr)] at hrun
      rw [hexecute, settle_snd, hrun]
      change (rt.subscriptions.insertIfNew (rt.nextHandle + 1) ⟨command.endpoint, h⟩)[k]? = some t ↔ _
      rw [getElem?_fresh (not_mem_succ hi.subscriptions)]
      refine or_congr_left ⟨?_, ?_⟩
      · rintro ⟨rfl, rfl⟩
        exact ⟨ho, he, hc, rfl, rfl, by rw [hs, hr]⟩
      · rintro ⟨-, -, -, rfl, hte, hth⟩
        rw [hs] at hth
        cases hth
        rw [← hte]
        exact ⟨rfl, rfl⟩
    · refine hkept ?_ (hnone fun ⟨_, _, h', hh⟩ => by rw [hs] at hh; cases hh; exact hr rfl)
      rw [if_pos hr] at hrun
      rw [hexecute, settle_snd, hrun]
      rfl

lemma unsubscribe_tables (ho : command.operation = .unsubscribe) (k : ℕ) (t : SubscribedTopic) :
    (execute texts command f rt).2.subscriptions[k]? = some t ↔
      rt.subscriptions[k]? = some t ∧ ¬ Unsubscribes command f rt k t := by
  by_cases he : rt.error = 0
  swap
  · rw [execute_failed he]
    exact ⟨fun h => ⟨h, fun hu => he hu.2.1⟩, And.left⟩
  rw [execute_unsubscribe ho he]
  cases hfound : rt.subscriptions[command.handle]? with
  | none =>
    refine ⟨fun h => ⟨h, fun hu => ?_⟩, And.left⟩
    rw [hu.2.2.1, h] at hfound
    cases hfound
  | some t' =>
    cases hr : f.unsubscribe t'.handle with
    | none =>
      simp only [hr]
      refine ⟨fun h => ⟨h, fun hu => ?_⟩, And.left⟩
      obtain ⟨-, -, rfl, hsome⟩ := hu
      rw [h] at hfound
      cases hfound
      simp [hr] at hsome
    | some r =>
      simp only [hr, ExtTreeMap.getElem?_erase]
      by_cases hk : command.handle = k
      · subst hk
        simp only [compare_self, if_true, hfound]
        refine ⟨fun h => by simp at h, fun ⟨h, hu⟩ => absurd ⟨ho, he, rfl, ?_⟩ hu⟩
        cases h
        simp [hr]
      · rw [if_neg (by simpa using hk)]
        exact ⟨fun h => ⟨h, fun hu => hk hu.2.2.1⟩, And.left⟩

lemma subscriptions_step (hi : Issued rt) (k : ℕ) (t : SubscribedTopic) :
    (execute texts command f rt).2.subscriptions[k]? = some t ↔
      Subscribes command f rt k t ∨ rt.subscriptions[k]? = some t ∧ ¬ Unsubscribes command f rt k t := by
  by_cases hs : command.operation = .subscribe
  · rw [subscribe_tables hs hi]
    refine or_congr_right ⟨fun h => ⟨h, fun hu => ?_⟩, And.left⟩
    cases hs.symm.trans hu.1
  by_cases hu : command.operation = .unsubscribe
  · rw [unsubscribe_tables hu]
    exact ⟨.inr, fun h => h.resolve_left fun h => hs h.1⟩
  · rw [execute_others.2 hs hu]
    exact ⟨fun h => .inr ⟨h, fun h => hu h.1⟩, fun h => h.elim (fun h => absurd h.1 hs) And.left⟩

lemma issued_execute (hi : Issued rt) : Issued (execute texts command f rt).2 := by
  have heffect := @execute_effect texts command f rt
  generalize execute texts command f rt = out at heffect
  obtain ⟨reply, rt'⟩ := out
  have hnext := heffect.nextHandle_le
  cases heffect with
  | silent => exact hi
  | unsubscribed => exact ⟨hi.actions, fun k hk => hi.subscriptions k (ExtTreeMap.mem_of_mem_erase hk)⟩
  | subscribed t =>
    refine ⟨fun k hk => (hi.actions k hk).trans hnext, fun k hk => ?_⟩
    rcases ExtTreeMap.mem_insertIfNew.mp hk with hk | hk
    · exact (show rt.nextHandle + 1 = k by simpa using hk).ge
    · exact (hi.subscriptions k hk).trans hnext
  | pruned => exact ⟨running_issued hi.actions, hi.subscriptions⟩
  | started a =>
    refine ⟨fun k hk => ?_, fun k hk => (hi.subscriptions k hk).trans hnext⟩
    rcases ExtTreeMap.mem_insertIfNew.mp hk with hk | hk
    · exact (show rt.nextHandle + 1 = k by simpa using hk).ge
    · exact (running_issued hi.actions k hk).trans hnext

lemma Starts.next {k : ℕ} {a : RunningAction} (h : Starts texts command f rt k a) :
    (execute texts command f rt).2.nextHandle = k := by
  obtain ⟨ho, rfl, x, r, hready, hs, hr, -⟩ := h
  unfold execute
  rw [settle_snd, perform_goal texts ho, bind_ok hready,
    bind_ok (rfl : prune f rt = (.ok (), { rt with actions := running f rt.actions }))]
  unfold startGoal
  rw [bind_ok (framework_some hs)]
  simp only [hr]
  rfl

lemma Subscribes.next {k : ℕ} {t : SubscribedTopic} (h : Subscribes command f rt k t) :
    (execute texts command f rt).2.nextHandle = k := by
  obtain ⟨ho, he, hc, rfl, -, hs⟩ := h
  unfold execute perform
  rw [bind_ok (rfl : getState f rt = (.ok rt, rt)), if_neg (not_not.mpr he), ho]
  simp only
  rw [bind_ok (rfl : read f rt = (.ok f, rt)), if_neg (not_not.mpr hc), settle_snd, subscribe,
    bind_ok (framework_some hs)]
  rfl

end Steps

section Alike

variable {ω σ ε α β : Type} {w w' : ω}

/-- The program does not tell the environments apart. -/
def Alike (w w' : ω) (x : Prog ω σ ε α) : Prop := x w = x w'

lemma Alike.bind {x : Prog ω σ ε α} {k : α → Prog ω σ ε β} (hx : Alike w w' x) (hk : ∀ a, Alike w w' (k a)) :
    Alike w w' (x >>= k) := by
  funext s
  rcases hr : x w s with ⟨e | a, s'⟩
  · rw [bind_error hr, bind_error (hx ▸ hr)]
  · rw [bind_ok hr, bind_ok (hx ▸ hr), hk a]

lemma Alike.read_bind {k : ω → Prog ω σ ε β} (hk : k w = k w') (h : Alike w w' (k w')) :
    Alike w w' (Traced.read >>= k) := by
  change k w w = k w' w'
  rw [hk]
  exact h

end Alike

section Reaches

variable (texts : Texts) (f : Framework) (c : HandleId → Option CallResult) (u : HandleId → Option ℤ)

/-- Another answer to CancelAction and to Unsubscribe. -/
def answering : Framework := { f with cancelAction := c, unsubscribe := u }

variable {texts f c u}

lemma same_framework {α : Type} {call : Framework → Option α} (h : call (answering f c u) = call f) :
    Alike (answering f c u) f (framework call) := by
  funext rt
  simp only [framework, h]

lemma same_descriptor (role : DescriptorRole) (type : RemoteTypeIdentity) :
    Alike (answering f c u) f (descriptor role type) := by
  refine (same_framework rfl).bind fun x => ?_
  obtain ⟨r, d⟩ := x
  simp only
  split_ifs
  · rfl
  · refine Alike.read_bind rfl ?_
    split_ifs <;> rfl

lemma same_get (input : TypeDescriptor) : Alike (answering f c u) f (get texts input) := by
  refine Alike.read_bind rfl ((same_framework rfl).bind fun x => ?_)
  obtain ⟨r, bytes⟩ := x
  simp only
  split_ifs <;> rfl

lemma same_set (input : TypeDescriptor) (bytes : List UInt8) :
    Alike (answering f c u) f (set texts input bytes) := by
  refine Alike.read_bind rfl ((same_framework rfl).bind fun r => ?_)
  simp only
  split_ifs
  · rfl
  · refine (same_framework rfl).bind fun x => ?_
    obtain ⟨code, bytes⟩ := x
    simp only
    split_ifs <;> rfl

lemma same_call (response : TypeDescriptor) (bytes : List UInt8) :
    Alike (answering f c u) f (call texts response bytes) := by
  refine Alike.read_bind rfl ((same_framework rfl).bind fun r => ?_)
  simp only
  split_ifs <;> rfl

lemma same_prepare (input : TypeDescriptor) : Alike (answering f c u) f (prepare texts input) := by
  unfold prepare
  split <;> rfl

lemma same_subscribe (e : RemoteEndpoint) : Alike (answering f c u) f (subscribe e) := by
  refine (same_framework rfl).bind fun x => ?_
  obtain ⟨r, subscription⟩ := x
  simp only
  split_ifs <;> rfl

lemma same_goal (e : RemoteEndpoint) (response : TypeDescriptor) (bytes : List UInt8) :
    Alike (answering f c u) f (goal e response bytes) := by
  refine (same_descriptor _ _).bind fun feedback => Alike.bind (Alike.read_bind rfl rfl) fun _ => ?_
  refine (same_framework rfl).bind fun r => ?_
  simp only
  split <;> rfl

lemma same_sending (e : RemoteEndpoint) (operation : RemoteOperation) (input : TypeDescriptor)
    (bytes : List UInt8) :
    Alike (answering f c u) f (do
      if operation = .set then set texts input bytes
      else
        let response ← descriptor .response e.responseType
        if operation = .call then call texts response bytes
        else if operation = .goal then goal e response bytes
        else leaveError einvalCode) := by
  split_ifs
  · exact same_set input bytes
  · exact (same_descriptor _ _).bind fun response => same_call response bytes
  · exact (same_descriptor _ _).bind fun response => same_goal _ response bytes
  · exact (same_descriptor _ _).bind fun response => rfl

lemma same_request (command : RemoteCommand) : Alike (answering f c u) f (request texts command) := by
  refine (same_descriptor _ _).bind fun input => ?_
  cases ho : command.operation
  case prepare => exact same_prepare input
  case get => exact same_get input
  all_goals
    refine Alike.read_bind rfl ?_
    cases encodeValue texts f input command.input with
    | error code => rfl
    | ok bytes => exact same_sending command.endpoint _ input bytes

lemma same_execute (hc : command.operation ≠ .cancel) (hu : command.operation ≠ .unsubscribe) :
    execute texts command (answering f c u) rt = execute texts command f rt := by
  have hperform : Alike (answering f c u) f (perform texts command) := by
    refine Alike.bind rfl fun rt => ?_
    split_ifs
    · rfl
    cases ho : command.operation with
    | cancel => exact absurd ho hc
    | unsubscribe => exact absurd ho hu
    | poll => exact Alike.read_bind rfl rfl
    | _ =>
      refine Alike.read_bind rfl ?_
      split_ifs
      · first
        | exact same_subscribe _
        | exact same_request command
      · rfl
  exact congrArg (fun x => settle (x rt)) hperform

/-- The outcome depends on what CancelAction answers for the framework's handle. -/
def CancelReaches (texts : Texts) (command : RemoteCommand) (f : Framework) (rt : Runtime) (h : HandleId) :
    Prop :=
  ∃ answer, execute texts command (answering f (Function.update f.cancelAction h answer) f.unsubscribe) rt ≠
    execute texts command f rt

def UnsubscribeReaches (texts : Texts) (command : RemoteCommand) (f : Framework) (rt : Runtime)
    (h : HandleId) : Prop :=
  ∃ answer, execute texts command (answering f f.cancelAction (Function.update f.unsubscribe h answer)) rt ≠
    execute texts command f rt

def SameEndpoint (e e' : RemoteEndpoint) : Prop :=
  endpointIdentity e = endpointIdentity e' ∧ e.session = e'.session

lemma execute_cancel (ho : command.operation = .cancel) (he : rt.error = 0) :
    execute texts command f rt =
      if ¬ current command.endpoint f.peers then (some { error := estale }, rt)
      else match rt.actions[command.handle]? with
        | none => (some { error := estale }, rt)
        | some a =>
          if endpointIdentity a.endpoint ≠ endpointIdentity command.endpoint ∨
              a.endpoint.session ≠ command.endpoint.session then (some { error := estale }, rt)
          else match f.cancelAction a.handle with
            | none => (none, rt)
            | some r =>
              (some { error := r.error, responseReceived := r.responseReceived, cancelUnknown := r.cancelUnknown
                      accepted := r.accepted }, rt) := by
  unfold execute perform
  rw [bind_ok (rfl : getState f rt = (.ok rt, rt)), if_neg (not_not.mpr he), ho]
  simp only
  rw [bind_ok (rfl : Traced.read f rt = (.ok f, rt))]
  split_ifs with hc
  · unfold cancel
    rw [bind_ok (rfl : getState f rt = (.ok rt, rt))]
    cases rt.actions[command.handle]? with
    | none => rfl
    | some a =>
      simp only
      split_ifs with hs
      · rfl
      · cases hr : f.cancelAction a.handle with
        | none =>
          rw [bind_error (framework_none hr)]
          rfl
        | some r =>
          rw [bind_ok (framework_some hr)]
          rfl
  · rfl

lemma cancelReaches_iff : CancelReaches texts command f rt h ↔
    command.operation = .cancel ∧ rt.error = 0 ∧ current command.endpoint f.peers ∧
      ∃ a, rt.actions[command.handle]? = some a ∧ SameEndpoint a.endpoint command.endpoint ∧ a.handle = h := by
  constructor
  · rintro ⟨answer, hne⟩
    have he : rt.error = 0 := by
      by_contra he
      exact hne (by rw [execute_failed he, execute_failed he])
    have ho : command.operation = .cancel := by
      by_contra ho
      by_cases hu : command.operation = .unsubscribe
      · exact hne (by rw [execute_unsubscribe hu he, execute_unsubscribe hu he]; rfl)
      · exact hne (same_execute ho hu)
    have hpeers : (answering f (Function.update f.cancelAction h answer) f.unsubscribe).peers = f.peers := rfl
    rw [execute_cancel ho he, execute_cancel ho he, hpeers] at hne
    by_cases hc : current command.endpoint f.peers
    swap
    · exact absurd (by rw [if_pos hc, if_pos hc]) hne
    rw [if_neg (not_not.mpr hc), if_neg (not_not.mpr hc)] at hne
    cases ha : rt.actions[command.handle]? with
    | none => exact absurd (by rw [ha]) hne
    | some a =>
      rw [ha] at hne
      simp only at hne
      split_ifs at hne with hs
      · exact absurd rfl hne
      · simp only [not_or, not_not] at hs
        refine ⟨ho, he, hc, a, rfl, hs, ?_⟩
        by_contra hh
        refine hne ?_
        simp only [answering, Function.update_of_ne hh]
  · rintro ⟨ho, he, hc, a, ha, hs, rfl⟩
    have hs' : ¬ (endpointIdentity a.endpoint ≠ endpointIdentity command.endpoint ∨
        a.endpoint.session ≠ command.endpoint.session) := by
      simpa [SameEndpoint] using hs
    let outcome (answer : Option CallResult) : Option RemoteReply × Runtime := match answer with
      | none => (none, rt)
      | some r =>
        (some { error := r.error, responseReceived := r.responseReceived, cancelUnknown := r.cancelUnknown
                accepted := r.accepted }, rt)
    have hexecute : ∀ g : Framework, g.peers = f.peers →
        execute texts command g rt = outcome (g.cancelAction a.handle) := fun g hg => by
      rw [execute_cancel ho he, hg, if_neg (not_not.mpr hc), ha]
      simp only [if_neg hs']
      rfl
    have hanswer : ∀ answer, execute texts command
        (answering f (Function.update f.cancelAction a.handle answer) f.unsubscribe) rt = outcome answer :=
      fun answer => by
        rw [hexecute _ (by rfl)]
        simp only [answering, Function.update_self]
    cases hr : f.cancelAction a.handle with
    | none =>
      refine ⟨some {}, fun heq => ?_⟩
      rw [hanswer, hexecute f rfl, hr] at heq
      cases congrArg Prod.fst heq
    | some r =>
      refine ⟨none, fun heq => ?_⟩
      rw [hanswer, hexecute f rfl, hr] at heq
      cases congrArg Prod.fst heq

lemma unsubscribeReaches_iff : UnsubscribeReaches texts command f rt h ↔
    command.operation = .unsubscribe ∧ rt.error = 0 ∧ ∃ t, rt.subscriptions[command.handle]? = some t ∧
      t.handle = h := by
  constructor
  · rintro ⟨answer, hne⟩
    have he : rt.error = 0 := by
      by_contra he
      exact hne (by rw [execute_failed he, execute_failed he])
    have ho : command.operation = .unsubscribe := by
      by_contra hu
      by_cases ho : command.operation = .cancel
      · exact hne (by rw [execute_cancel ho he, execute_cancel ho he]; rfl)
      · exact hne (same_execute ho hu)
    rw [execute_unsubscribe ho he, execute_unsubscribe ho he] at hne
    cases ht : rt.subscriptions[command.handle]? with
    | none => exact absurd (by rw [ht]) hne
    | some t =>
      refine ⟨ho, he, t, rfl, ?_⟩
      by_contra hh
      refine hne ?_
      rw [ht]
      simp only [answering, Function.update_of_ne hh]
  · rintro ⟨ho, he, t, ht, rfl⟩
    have hexecute : ∀ g : Framework, (execute texts command g rt).1 =
        (g.unsubscribe t.handle).map fun r => ({ error := r } : RemoteReply) := fun g => by
      rw [execute_unsubscribe ho he, ht]
      simp only
      cases g.unsubscribe t.handle <;> rfl
    have hanswer : ∀ answer, (execute texts command
        (answering f f.cancelAction (Function.update f.unsubscribe t.handle answer)) rt).1 =
          answer.map fun r => ({ error := r } : RemoteReply) :=
      fun answer => by
        rw [hexecute]
        simp only [answering, Function.update_self]
    cases hr : f.unsubscribe t.handle with
    | none =>
      refine ⟨some 0, fun heq => ?_⟩
      have hfst := congrArg Prod.fst heq
      rw [hanswer, hexecute f, hr] at hfst
      cases hfst
    | some r =>
      refine ⟨none, fun heq => ?_⟩
      have hfst := congrArg Prod.fst heq
      rw [hanswer, hexecute f, hr] at hfst
      cases hfst

end Reaches

section Runs

variable (texts : Texts) (error : ℤ) (issued : ℕ) (steps : ℕ → Step)

/-- Step `m` puts the action into the table, and it is there before step `n`. -/
def Acting (m n k : ℕ) (a : RunningAction) : Prop :=
  Since
    (fun i => Starts texts (steps i).command (steps i).framework (runtime texts error issued steps i))
    (fun i _ => Forgets texts (steps i).command (steps i).framework
      (runtime texts error issued steps i)) m n k a

def Subscribed (m n k : ℕ) (t : SubscribedTopic) : Prop :=
  Since
    (fun i => Subscribes (steps i).command (steps i).framework (runtime texts error issued steps i))
    (fun i => Unsubscribes (steps i).command (steps i).framework (runtime texts error issued steps i)) m n k t

/-- The reply to step `m` gives out the handle. -/
def GivesOut (m k : ℕ) : Prop :=
  (∃ a, Starts texts (steps m).command (steps m).framework (runtime texts error issued steps m) k a) ∨
    ∃ t, Subscribes (steps m).command (steps m).framework (runtime texts error issued steps m) k t

variable {texts error issued steps}

lemma issued_runtime (n : ℕ) : Issued (runtime texts error issued steps n) := by
  induction n with
  | zero => exact ⟨fun _ hk => absurd hk ExtTreeMap.not_mem_empty,
    fun _ hk => absurd hk ExtTreeMap.not_mem_empty⟩
  | succ n ih => exact issued_execute ih

lemma actions_exact (n k : ℕ) (a : RunningAction) :
    (runtime texts error issued steps n).actions[k]? = some a ↔
      ∃ m, Acting texts error issued steps m n k a := by
  have hkept : Kept (fun n k => (runtime texts error issued steps n).actions[k]?) _ _ :=
    ⟨fun _ => ExtTreeMap.getElem?_empty, fun n => actions_step (issued_runtime n)⟩
  exact hkept.exact n k a

lemma subscriptions_exact (n k : ℕ) (t : SubscribedTopic) :
    (runtime texts error issued steps n).subscriptions[k]? = some t ↔
      ∃ m, Subscribed texts error issued steps m n k t := by
  have hkept : Kept (fun n k => (runtime texts error issued steps n).subscriptions[k]?) _ _ :=
    ⟨fun _ => ExtTreeMap.getElem?_empty, fun n => subscriptions_step (issued_runtime n)⟩
  exact hkept.exact n k t

lemma nextHandle_mono {m n : ℕ} (h : m ≤ n) :
    (runtime texts error issued steps m).nextHandle ≤ (runtime texts error issued steps n).nextHandle := by
  induction n, h using Nat.le_induction with
  | base => exact le_rfl
  | succ n _ ih => exact ih.trans (effect_step n).nextHandle_le

lemma GivesOut.next {m k : ℕ} (h : GivesOut texts error issued steps m k) :
    k = (runtime texts error issued steps m).nextHandle + 1 ∧
      (runtime texts error issued steps (m + 1)).nextHandle = k := by
  rcases h with ⟨a, h⟩ | ⟨t, h⟩
  · exact ⟨h.2.1, h.next⟩
  · exact ⟨h.2.2.2.1, h.next⟩

lemma GivesOut.lt {m m' k k' : ℕ} (h : GivesOut texts error issued steps m k)
    (h' : GivesOut texts error issued steps m' k') (hm : m < m') : k < k' := by
  have hle : (runtime texts error issued steps (m + 1)).nextHandle ≤ _ := nextHandle_mono hm
  have hk := h.next.2
  have hk' := h'.next.1
  omega

lemma GivesOut.unique {m m' k : ℕ} (h : GivesOut texts error issued steps m k)
    (h' : GivesOut texts error issued steps m' k) : m = m' := by
  rcases Nat.lt_trichotomy m m' with hm | hm | hm
  · exact absurd (h.lt h' hm) (lt_irrefl k)
  · exact hm
  · exact absurd (h'.lt h hm) (lt_irrefl k)

lemma Acting.endpoint {m n k : ℕ} {a : RunningAction} (h : Acting texts error issued steps m n k a) :
    a.endpoint = (steps m).command.endpoint := by
  obtain ⟨-, ⟨-, -, x, r, -, -, -, ha⟩, -⟩ := h
  rw [ha]

lemma Subscribed.endpoint {m n k : ℕ} {t : SubscribedTopic} (h : Subscribed texts error issued steps m n k t) :
    t.endpoint = (steps m).command.endpoint := h.2.1.2.2.2.2.1

variable (texts error issued steps) in
/-- A handle is given out once. A Cancel gets through to the action that its handle was given out for, as
long as no goal has removed it and the endpoints agree, and to no other; an Unsubscribe likewise to its
subscription. -/
theorem handles_reach (n : ℕ) (h : HandleId) :
    (∀ m m' k, GivesOut texts error issued steps m k → GivesOut texts error issued steps m' k → m = m') ∧
    (CancelReaches texts (steps n).command (steps n).framework (runtime texts error issued steps n) h ↔
      (steps n).command.operation = .cancel ∧ error = 0 ∧
        current (steps n).command.endpoint (steps n).framework.peers ∧
          ∃ m a, Acting texts error issued steps m n (steps n).command.handle a ∧
            SameEndpoint (steps m).command.endpoint (steps n).command.endpoint ∧ a.handle = h) ∧
    (UnsubscribeReaches texts (steps n).command (steps n).framework (runtime texts error issued steps n) h ↔
      (steps n).command.operation = .unsubscribe ∧ error = 0 ∧
        ∃ m t, Subscribed texts error issued steps m n (steps n).command.handle t ∧ t.handle = h) := by
  refine ⟨fun m m' k => GivesOut.unique, ?_, ?_⟩
  · rw [cancelReaches_iff, runtime_error]
    refine and_congr_right fun _ => and_congr_right fun _ => and_congr_right fun _ => ?_
    simp only [actions_exact]
    constructor
    · rintro ⟨a, ⟨m, ha⟩, hs, hh⟩
      exact ⟨m, a, ha, ha.endpoint ▸ hs, hh⟩
    · rintro ⟨m, a, ha, hs, hh⟩
      exact ⟨a, ⟨m, ha⟩, ha.endpoint.symm ▸ hs, hh⟩
  · rw [unsubscribeReaches_iff, runtime_error]
    refine and_congr_right fun _ => and_congr_right fun _ => ?_
    simp only [subscriptions_exact]
    constructor
    · rintro ⟨t, ⟨m, ht⟩, hh⟩
      exact ⟨m, t, ht, hh⟩
    · rintro ⟨m, t, ht, hh⟩
      exact ⟨t, ⟨m, ht⟩, hh⟩

lemma actionActivity_endpoint (f : Framework) (k : ℕ) (a : RunningAction) :
    (actionActivity texts f k a).endpoint = a.endpoint := by
  unfold actionActivity
  simp only
  split_ifs <;> rfl

lemma topicActivity_fields (f : Framework) (k : ℕ) (t : SubscribedTopic) :
    (topicActivity texts f k t).handle = k ∧ (topicActivity texts f k t).endpoint = t.endpoint := by
  unfold topicActivity
  simp only
  split_ifs <;> exact ⟨rfl, rfl⟩

lemma toList_handles {α : Type} {m : ExtTreeMap ℕ α} {g : ℕ → α → RemoteActivity}
    (hg : ∀ k v, (g k v).handle = k) :
    (m.toList.map fun x => g x.1 x.2).Pairwise fun v v' => v.handle < v'.handle := by
  refine List.pairwise_map.mpr (ExtTreeMap.ordered_keys_toList.imp fun {x y} hlt => ?_)
  rw [hg, hg]
  exact compare_lt_iff_lt.mp hlt

/-- A Poll lists the actions and the subscriptions that the earlier commands have left, in the order of their
handles, and each with the endpoint that it was started for. -/
theorem poll_exact (texts : Texts) (issued : ℕ) (steps : ℕ → Step) (n : ℕ)
    (ho : (steps n).command.operation = .poll) :
    ∃ actions topics : List RemoteActivity,
      reply texts 0 issued steps n = some { activities := actions ++ topics } ∧
      (∀ v ∈ actions, v.topic = false) ∧ (∀ v ∈ topics, v.topic) ∧
      actions.Pairwise (fun v v' => v.handle < v'.handle) ∧ topics.Pairwise (fun v v' => v.handle < v'.handle) ∧
      (∀ k e, (∃ v ∈ actions, v.handle = k ∧ v.endpoint = e) ↔
        ∃ m a, Acting texts 0 issued steps m n k a ∧ (steps m).command.endpoint = e) ∧
      ∀ k e, (∃ v ∈ topics, v.handle = k ∧ v.endpoint = e) ↔
        ∃ m t, Subscribed texts 0 issued steps m n k t ∧ (steps m).command.endpoint = e := by
  have hreply : reply texts 0 issued steps n = _ := execute_poll ho (runtime_error n)
  refine ⟨_, _, hreply, ?_, ?_, toList_handles fun k a => (actionActivity_fields k a).1,
    toList_handles fun k t => (topicActivity_fields _ k t).1, fun k e => ?_, fun k e => ?_⟩
  · simp only [List.mem_map]
    rintro v ⟨x, -, rfl⟩
    exact (actionActivity_fields x.1 x.2).2.1
  · simp only [List.mem_map]
    rintro v ⟨x, -, rfl⟩
    exact topicActivity_topic x.1 x.2
  · simp only [List.mem_map]
    constructor
    · rintro ⟨_, ⟨⟨k', a⟩, ha, rfl⟩, hk, he⟩
      rw [(actionActivity_fields k' a).1] at hk
      subst hk
      obtain ⟨m, hm⟩ := (actions_exact n k' a).mp (ExtTreeMap.mem_toList_iff_getElem?_eq_some.mp ha)
      rw [actionActivity_endpoint, hm.endpoint] at he
      exact ⟨m, a, hm, he⟩
    · rintro ⟨m, a, hm, he⟩
      have ha := ExtTreeMap.mem_toList_iff_getElem?_eq_some.mpr ((actions_exact n k a).mpr ⟨m, hm⟩)
      exact ⟨_, ⟨(k, a), ha, rfl⟩, (actionActivity_fields k a).1,
        (actionActivity_endpoint _ k a).trans (hm.endpoint.trans he)⟩
  · simp only [List.mem_map]
    constructor
    · rintro ⟨_, ⟨⟨k', t⟩, ht, rfl⟩, hk, he⟩
      rw [(topicActivity_fields _ k' t).1] at hk
      subst hk
      obtain ⟨m, hm⟩ := (subscriptions_exact n k' t).mp (ExtTreeMap.mem_toList_iff_getElem?_eq_some.mp ht)
      rw [(topicActivity_fields _ k' t).2, hm.endpoint] at he
      exact ⟨m, t, hm, he⟩
    · rintro ⟨m, t, hm, he⟩
      have ht := ExtTreeMap.mem_toList_iff_getElem?_eq_some.mpr ((subscriptions_exact n k t).mpr ⟨m, hm⟩)
      exact ⟨_, ⟨(k, t), ht, rfl⟩, (topicActivity_fields _ k t).1,
        (topicActivity_fields _ k t).2.trans (hm.endpoint.trans he)⟩

def polled (n : ℕ) : Step := ⟨if n = 0 then moveArm else { operation := .poll }, armFramework n⟩

theorem poll_exact_moveArm : ∃ actions topics : List RemoteActivity,
    reply armTexts 0 0 polled 1 = some { activities := actions ++ topics } ∧
    (∃ v ∈ actions, v.handle = 1 ∧ v.endpoint = arm) ∧ topics = [] := by
  obtain ⟨actions, topics, hr, -, -, -, -, hactions, htopics⟩ := poll_exact armTexts 0 polled 1 rfl
  refine ⟨actions, topics, hr, (hactions 1 arm).mpr ?_, ?_⟩
  · have ha : 1 ∈ (runtime armTexts 0 0 polled 1).actions := by decide +kernel
    obtain ⟨a, ha⟩ := Option.isSome_iff_exists.mp (ExtTreeMap.isSome_getElem?_iff_mem.mpr ha)
    obtain ⟨m, hm⟩ := (actions_exact 1 1 a).mp ha
    obtain rfl : m = 0 := by have := hm.1; omega
    exact ⟨0, a, hm, rfl⟩
  · refine List.eq_nil_iff_forall_not_mem.mpr fun v hv => ?_
    obtain ⟨m, t, hm, -⟩ := (htopics v.handle v.endpoint).mp ⟨v, hv, rfl, rfl⟩
    obtain rfl : m = 0 := by have := hm.1; omega
    cases hm.2.1.1

end Runs

end KcfTools.RemoteRuntime
