import PaloAgent.Dispatch.Dispatcher

/-!
# The counters along a run

The fair-share scheduler of the push callback reads three `uint32_t` maps of the
registry. `_s_total_task_user_count[PUSH][u]` and `_s_total_task_count[PUSH]` are raised by
`_record_task_info` and lowered by `_remove_task_info`; `_s_running_task_user_count[k][u]`
is raised by the last statement of `_get_next_task_index`, for the user the selection loop
holds at that moment and for every kind, and lowered by `_remove_task_info`, for the user
the worker read from the request it took and only for `PUSH`.

This module runs the dispatcher of `PaloAgent.Dispatch.Dispatcher` and accounts for the
counters over whole runs:

* one short trace over the `PUSH` and `DELETE` pools on which the running counters drift;
* the totals count the registered `PUSH` requests in every run in which `PUSH` requests go
  only to the pools that run the push callback (`pushRouted`);
* the running counters count the requests push workers hold in every run in which, in
  addition, only `PUSH` requests go to those pools and every request carries
  `resource_info` (`ownUserRouted`): the two conditions under which neither update of the
  trace can go astray.

All counts are mod `2^32`, as the counters are.
-/

namespace PaloAgent

namespace Dispatcher

open TAgentTaskRequest

/-- The first worker of the PUSH pool runs the HIGH lane, every other worker NORMAL. -/
def firstPushWorkerHigh (w : Worker) : TPriority :=
  if w = ⟨.push, 0⟩ then .high else .normal

/-- In the PUSH pool, a NORMAL request of user `a`, then a HIGH request without
`resource_info`, which the HIGH-lane worker takes and completes; in the DELETE pool, one
request of user `b`, which a NORMAL-lane worker takes and completes. -/
def driftTrace : List Action :=
  [.submitTask .push ⟨.push, 1, some ⟨"a"⟩, some .normal⟩,
   .submitTask .push ⟨.push, 2, none, some .high⟩,
   .takeTask ⟨.push, 0⟩, .finishTask ⟨.push, 0⟩,
   .submitTask .delete ⟨.delete, 3, some ⟨"b"⟩, none⟩,
   .takeTask ⟨.delete, 0⟩, .finishTask ⟨.delete, 0⟩]

theorem driftTrace_run :
    (run 2 firstPushWorkerHigh init driftTrace).map
        (fun s => (s.held, s.registry.runningTaskUserCount .push "a",
          s.registry.runningTaskUserCount .push "",
          s.registry.runningTaskUserCount .delete "b")) =
      some ([], 1, 4294967295, 1) := by
  decide

/-- **The running counts drift.** A reachable state in which no worker holds a request,
yet user `a` is credited one running PUSH task, user `""`'s PUSH count has wrapped below
zero, and user `b` is credited one running DELETE task. The HIGH-lane selection credited
`a`, the user its loop carried over from the first request, and the completion debited
`""`, the user of the request taken; `_remove_task_info` debits only PUSH, while the
selection credits every kind. -/
theorem reachable_running_counts_drift :
    ∃ s, Reachable 2 firstPushWorkerHigh s ∧ s.held = [] ∧
      s.registry.runningTaskUserCount .push "a" = 1 ∧
      s.registry.runningTaskUserCount .push "" = 2 ^ 32 - 1 ∧
      s.registry.runningTaskUserCount .delete "b" = 1 := by
  obtain ⟨s, hrun, hs⟩ := Option.map_eq_some'.mp driftTrace_run
  simp only [Prod.mk.injEq] at hs
  exact ⟨s, Reachable.init.run hrun, hs⟩

end Dispatcher

/-! ### Placement rules -/

/-- A step respects the placement rule `ok` when, as a submission, it places its request
where `ok` allows. -/
def Action.Respects (ok : TaskWorkerType → TAgentTaskRequest → Prop) : Action → Prop
  | .submitTask pool task => ok pool task
  | .takeTask _ | .finishTask _ => True

instance Action.decidableRespects (ok : TaskWorkerType → TAgentTaskRequest → Prop)
    [∀ p t, Decidable (ok p t)] : DecidablePred (Action.Respects ok)
  | .submitTask pool task => inferInstanceAs (Decidable (ok pool task))
  | .takeTask _ | .finishTask _ => isTrue trivial

/-- The callers' routing: a `PUSH` request goes only to a pool that runs the push
callback. -/
def pushRouted (pool : TaskWorkerType) (task : TAgentTaskRequest) : Prop :=
  task.taskType = .push → pool.callbackFunction = .push

instance (pool : TaskWorkerType) (task : TAgentTaskRequest) : Decidable (pushRouted pool task) :=
  inferInstanceAs (Decidable (task.taskType = .push → pool.callbackFunction = .push))

/-- The push callback sees only `PUSH` requests, each with its own user: a request goes to
a pool that runs the push callback exactly when it is a `PUSH` request, and it carries
`resource_info`. -/
def ownUserRouted (pool : TaskWorkerType) (task : TAgentTaskRequest) : Prop :=
  (task.taskType = .push ↔ pool.callbackFunction = .push) ∧ task.resourceInfo.isSome

instance (pool : TaskWorkerType) (task : TAgentTaskRequest) :
    Decidable (ownUserRouted pool task) :=
  inferInstanceAs
    (Decidable ((task.taskType = .push ↔ pool.callbackFunction = .push) ∧ task.resourceInfo.isSome))

namespace Dispatcher

/-- The states reachable from boot by steps that each respect `ok`. -/
inductive ReachableBy (threadCount : Nat) (laneOf : Worker → TPriority)
    (ok : TaskWorkerType → TAgentTaskRequest → Prop) : Dispatcher → Prop
  | init : ReachableBy threadCount laneOf ok init
  | step {s s' : Dispatcher} (a : Action) : a.Respects ok → ReachableBy threadCount laneOf ok s →
      s.step threadCount laneOf a = some s' → ReachableBy threadCount laneOf ok s'

/-- Every queued and every held request sits where `ok` allows. -/
structure Placed (ok : TaskWorkerType → TAgentTaskRequest → Prop) (s : Dispatcher) : Prop where
  queued : ∀ p, ∀ t ∈ s.tasks p, ok p t
  held : ∀ e ∈ s.held, ok e.worker.pool e.task

section Placement

variable {threadCount : Nat} {laneOf : Worker → TPriority}
  {ok : TaskWorkerType → TAgentTaskRequest → Prop} {s s' : Dispatcher}

/-- A run that respects `ok` from a state reachable so ends in one. -/
theorem ReachableBy.run {as : List Action} (hs : ReachableBy threadCount laneOf ok s)
    (has : ∀ a ∈ as, a.Respects ok) (h : run threadCount laneOf s as = some s') :
    ReachableBy threadCount laneOf ok s' := by
  induction as generalizing s with
  | nil => cases h; exact hs
  | cons a as ih =>
    obtain ⟨s₁, h₁, h₂⟩ := Option.bind_eq_some.mp h
    exact ih (hs.step a (has a (List.mem_cons_self _ _)) h₁)
      (fun b hb => has b (List.mem_cons_of_mem _ hb)) h₂

theorem Placed.step {a : Action} (hs : Placed ok s) (ha : a.Respects ok)
    (h : s.step threadCount laneOf a = some s') : Placed ok s' := by
  cases a with
  | submitTask p t =>
    cases h
    by_cases hmem : t.signature ∈ s.registry.taskSignatures t.taskType
    · rwa [submitTask_of_mem p hmem]
    · refine ⟨fun q t' ht' => ?_, by simpa using hs.held⟩
      rw [submitTask_tasks_of_not_mem p hmem, Function.update_apply] at ht'
      split_ifs at ht' with hq
      · subst hq
        rcases List.mem_append.mp ht' with ht' | ht'
        · exact hs.queued _ t' ht'
        · rw [List.mem_singleton.mp ht']; exact ha
      · exact hs.queued q t' ht'
  | takeTask w =>
    rcases takeTask_spec h with ⟨ht, hh, -⟩ | ⟨t, l, hperm, ht, hh, -⟩
    · exact ⟨ht ▸ hs.queued, hh ▸ hs.held⟩
    · have hmem : ∀ t' ∈ t :: l, ok w.pool t' := fun t' h' => hs.queued _ t' (hperm.subset h')
      refine ⟨fun q t' ht' => ?_, fun e he => ?_⟩
      · rw [ht, Function.update_apply] at ht'
        split_ifs at ht' with hq
        · exact hq ▸ hmem t' (List.mem_cons_of_mem _ ht')
        · exact hs.queued q t' ht'
      · rw [hh] at he
        rcases List.mem_cons.mp he with rfl | he
        · exact hmem t (List.mem_cons_self _ _)
        · exact hs.held e he
  | finishTask w =>
    obtain ⟨entry, -, -, rfl⟩ := finishTask_spec h
    exact ⟨hs.queued, fun e he => hs.held e (List.mem_of_mem_erase he)⟩

theorem ReachableBy.placed (h : ReachableBy threadCount laneOf ok s) : Placed ok s := by
  induction h with
  | init => exact ⟨fun _ _ h => by simp [Dispatcher.init] at h, fun _ h => by simp [Dispatcher.init] at h⟩
  | step a ha _ hstep ih => exact ih.step ha hstep

end Placement

/-! ### The counters as counts -/

/-- The user of each registered `PUSH` request. -/
def pushUsers (s : Dispatcher) : Multiset String :=
  (s.content.filter (·.taskType = .push)).map (·.user)

/-- The kind and user of each request that a worker of the push callback holds. -/
def runningPairs (s : Dispatcher) : Multiset (TTaskType × String) :=
  ((s.held.filter (·.worker.pool.callbackFunction = .push)).map
    fun e => (e.task.taskType, e.task.user) : List _)

theorem pushUsers_of_content {s s' : Dispatcher} {t : TAgentTaskRequest}
    (h : s'.content = t ::ₘ s.content) :
    s'.pushUsers = if t.taskType = .push then t.user ::ₘ s.pushUsers else s.pushUsers := by
  unfold pushUsers
  rw [h, Multiset.filter_cons]
  split_ifs <;> simp

theorem runningPairs_of_perm {s s' : Dispatcher} {e : HeldTask} (h : s.held.Perm (e :: s'.held)) :
    s.runningPairs = if e.worker.pool.callbackFunction = .push then
      (e.task.taskType, e.task.user) ::ₘ s'.runningPairs else s'.runningPairs := by
  unfold runningPairs
  rw [Multiset.coe_eq_coe.mpr ((h.filter _).map _), List.filter_cons]
  split_ifs <;> simp_all

theorem mem_content_of_mem_held {s : Dispatcher} {e : HeldTask} (he : e ∈ s.held) :
    e.task ∈ s.content :=
  Multiset.mem_add.mpr (.inr (Multiset.mem_coe.mpr (List.mem_map_of_mem _ he)))

section Counts

variable {threadCount : Nat} {laneOf : Worker → TPriority} {s s' : Dispatcher} {a : Action}

/-- One step keeps the `PUSH` totals counting the registered `PUSH` requests, when every
held `PUSH` request is held by a worker of the push callback. -/
theorem totalsCount_step (hp : Placed pushRouted s) (hs : s.registry.TotalsCount s.pushUsers)
    (h : s.step threadCount laneOf a = some s') : s'.registry.TotalsCount s'.pushUsers := by
  cases a with
  | submitTask p t =>
    cases h
    by_cases hmem : t.signature ∈ s.registry.taskSignatures t.taskType
    · rwa [submitTask_of_mem p hmem]
    · have hcontent : (s.submitTask p t).content = t ::ₘ s.content := by
        rw [content_submitTask, if_neg hmem]
      rw [submitTask_registry, pushUsers_of_content hcontent]
      split_ifs with hk
      · rw [hk] at hmem ⊢
        exact hs.recordTaskInfo_push hmem t.user
      · exact hs.recordTaskInfo_of_not_push (fun h => hk h.2) t.user
  | takeTask w =>
    rw [pushUsers, content_takeTask h]
    rcases takeTask_registry h with hr | ⟨k, u, hr⟩ <;> simpa [hr] using hs
  | finishTask w =>
    obtain ⟨entry, hmem, rfl, rfl⟩ := finishTask_spec h
    rw [pushUsers_of_content (content_finish s hmem s.registry).symm] at hs
    split_ifs at hs with hk
    · have huser : entry.worker.pool.callbackFunction.removeUser entry.task = entry.task.user := by
        simp [CallbackFunction.removeUser, hp.held entry hmem hk]
      rw [huser, hk]
      exact hs.removeTaskInfo_push _
    · exact hs.removeTaskInfo_of_ne hk _ _

/-- One step keeps the running counters counting the requests push workers hold, when the
push callback sees only `PUSH` requests, each carrying `resource_info`. -/
theorem runningCount_step (hp : Placed ownUserRouted s)
    (hs : s.registry.RunningCount s.runningPairs) (h : s.step threadCount laneOf a = some s') :
    s'.registry.RunningCount s'.runningPairs := by
  cases a with
  | submitTask p t =>
    cases h
    simpa [runningPairs] using hs
  | takeTask w =>
    rcases takeTask_spec h with ⟨-, hh, hr⟩ | ⟨t, -, -, -, hh, ⟨hc, hr⟩ | ⟨hc, u, hr, hu⟩⟩
    · rwa [runningPairs, hh, hr]
    · rwa [hr, runningPairs_of_perm (List.Perm.of_eq hh), if_neg hc]
    · have hown := carriesOwnUser_of_isSome (fun t' ht' => (hp.queued w.pool t' ht').2) ""
      rw [hr, hu hown, runningPairs_of_perm (List.Perm.of_eq hh), if_pos hc]
      exact hs.addRunningTask _ _
  | finishTask w =>
    obtain ⟨entry, hmem, rfl, rfl⟩ := finishTask_spec h
    rw [@runningPairs_of_perm s ⟨s.registry, s.tasks, s.held.erase entry⟩ entry
      (List.perm_cons_erase hmem)] at hs
    have hplace := (hp.held entry hmem).1
    by_cases hk : entry.task.taskType = .push
    · have hc := hplace.mp hk
      rw [if_pos hc, hk] at hs
      rw [show entry.worker.pool.callbackFunction.removeUser entry.task = entry.task.user by
        simp [CallbackFunction.removeUser, hc], hk]
      exact hs.removeTaskInfo_push _
    · rw [if_neg (mt hplace.mpr hk)] at hs
      exact hs.removeTaskInfo_of_ne hk _ _

theorem ReachableBy.totalsCount (h : ReachableBy threadCount laneOf pushRouted s) :
    s.registry.TotalsCount s.pushUsers := by
  induction h with
  | init => exact ⟨fun _ => by simp [Dispatcher.init, Registry.empty, pushUsers, content],
      by simp [Dispatcher.init, Registry.empty, pushUsers, content]⟩
  | step _ _ h₀ hstep ih => exact totalsCount_step h₀.placed ih hstep

theorem ReachableBy.runningCount (h : ReachableBy threadCount laneOf ownUserRouted s) :
    s.registry.RunningCount s.runningPairs := by
  induction h with
  | init => intro k u; simp [Dispatcher.init, Registry.empty, runningPairs]
  | step _ _ h₀ hstep ih => exact runningCount_step h₀.placed ih hstep

theorem ReachableBy.pushRouted_of_ownUserRouted
    (h : ReachableBy threadCount laneOf ownUserRouted s) :
    ReachableBy threadCount laneOf pushRouted s := by
  induction h with
  | init => exact .init
  | step a ha _ hstep ih =>
    refine .step a ?_ ih hstep
    cases a with
    | submitTask p t => exact ha.1.mp
    | takeTask _ | finishTask _ => trivial

end Counts

/-! ### Routed runs -/

section Routed

variable {threadCount : Nat} {laneOf : Worker → TPriority} {s : Dispatcher}

/-- **The `PUSH` totals are exact.** In every run in which `PUSH` requests go only to the
pools that run the push callback, `_s_total_task_user_count[PUSH][u]` is the number of
registered `PUSH` requests of user `u` and `_s_total_task_count[PUSH]` the number of
registered `PUSH` requests, mod `2^32`. So while fewer than `2^32` requests are
registered, both counters that a completion of a held `PUSH` request lowers are
positive. -/
theorem reachableBy_pushRouted_totals (h : ReachableBy threadCount laneOf pushRouted s) :
    (∀ u, s.registry.totalTaskUserCount .push u = s.pushUsers.count u % 2 ^ 32) ∧
    s.registry.totalTaskCount .push = Multiset.card s.pushUsers % 2 ^ 32 ∧
    (Multiset.card s.content < 2 ^ 32 → ∀ e ∈ s.held, e.task.taskType = .push →
      0 < s.registry.totalTaskUserCount .push e.task.user ∧
        0 < s.registry.totalTaskCount .push) := by
  have hs := h.totalsCount
  refine ⟨hs.user_eq, hs.total_eq, fun hcard e he hk => ?_⟩
  have hmem : e.task.user ∈ s.pushUsers :=
    Multiset.mem_map_of_mem _ (Multiset.mem_filter.mpr ⟨mem_content_of_mem_held he, hk⟩)
  have hle : Multiset.card s.pushUsers ≤ Multiset.card s.content := by
    rw [pushUsers, Multiset.card_map]; exact Multiset.card_le_card (Multiset.filter_le _ _)
  have hcount := Multiset.count_le_card e.task.user s.pushUsers
  have hpos := Multiset.count_pos.mpr hmem
  rw [hs.user_eq, hs.total_eq, Nat.mod_eq_of_lt (by omega), Nat.mod_eq_of_lt (by omega)]
  omega

/-- Two `PUSH` requests, of users `a` and `b`, submitted to the `PUSH` pool; a NORMAL-lane
worker takes the first. -/
def routedTrace : List Action :=
  [.submitTask .push ⟨.push, 1, some ⟨"a"⟩, none⟩, .submitTask .push ⟨.push, 2, some ⟨"b"⟩, none⟩,
   .takeTask ⟨.push, 0⟩]

/-- The state `routedTrace` ends in. -/
def routedState : Dispatcher := (run 2 (fun _ => .normal) init routedTrace).getD init

theorem routedState_totals :
    ReachableBy 2 (fun _ => .normal) pushRouted routedState ∧
      (∀ u, routedState.registry.totalTaskUserCount .push u =
        routedState.pushUsers.count u % 2 ^ 32) ∧
      routedState.registry.totalTaskCount .push = Multiset.card routedState.pushUsers % 2 ^ 32 ∧
      (Multiset.card routedState.content < 2 ^ 32 → ∀ e ∈ routedState.held,
        e.task.taskType = .push → 0 < routedState.registry.totalTaskUserCount .push e.task.user ∧
          0 < routedState.registry.totalTaskCount .push) :=
  have h : ReachableBy 2 (fun _ => .normal) pushRouted routedState := ReachableBy.init.run
    (by decide) (show run 2 (fun _ => .normal) init routedTrace = some _ from rfl)
  ⟨h, reachableBy_pushRouted_totals h⟩

/-- **Every counter is exact when the push callback sees only `PUSH` requests, each with
its own user.** In every run in which a request goes to a pool that runs the push callback
exactly when it is a `PUSH` request, and every request carries `resource_info`,
`_s_running_task_user_count[k][u]` is the number of kind-`k` requests of user `u` held by
workers of the push callback, and the two `PUSH` totals count the registered `PUSH`
requests, all mod `2^32`. So while fewer than `2^32` requests are held, the running
counter that a completion of a held `PUSH` request lowers is positive. -/
theorem reachableBy_ownUserRouted_counts (h : ReachableBy threadCount laneOf ownUserRouted s) :
    (∀ k u, s.registry.runningTaskUserCount k u = s.runningPairs.count (k, u) % 2 ^ 32) ∧
    (∀ u, s.registry.totalTaskUserCount .push u = s.pushUsers.count u % 2 ^ 32) ∧
    s.registry.totalTaskCount .push = Multiset.card s.pushUsers % 2 ^ 32 ∧
    (s.held.length < 2 ^ 32 → ∀ e ∈ s.held, e.task.taskType = .push →
      0 < s.registry.runningTaskUserCount .push e.task.user) := by
  have hr := h.runningCount
  have ht := h.pushRouted_of_ownUserRouted.totalsCount
  refine ⟨hr, ht.user_eq, ht.total_eq, fun hlen e he hk => ?_⟩
  have hc := (h.placed.held e he).1.mp hk
  have hmem : (TTaskType.push, e.task.user) ∈ s.runningPairs := by
    rw [← hk]
    exact Multiset.mem_coe.mpr (List.mem_map_of_mem _ (List.mem_filter.mpr ⟨he, by simpa using hc⟩))
  have hle : Multiset.card s.runningPairs ≤ s.held.length := by
    simp only [runningPairs, Multiset.coe_card, List.length_map]; exact List.length_filter_le _ _
  have hcount := Multiset.count_le_card (TTaskType.push, e.task.user) s.runningPairs
  have hpos := Multiset.count_pos.mpr hmem
  rw [hr, Nat.mod_eq_of_lt (by omega)]
  exact hpos

theorem routedState_counts :
    ReachableBy 2 (fun _ => .normal) ownUserRouted routedState ∧
      (∀ k u, routedState.registry.runningTaskUserCount k u =
        routedState.runningPairs.count (k, u) % 2 ^ 32) ∧
      (∀ u, routedState.registry.totalTaskUserCount .push u =
        routedState.pushUsers.count u % 2 ^ 32) ∧
      routedState.registry.totalTaskCount .push = Multiset.card routedState.pushUsers % 2 ^ 32 ∧
      (routedState.held.length < 2 ^ 32 → ∀ e ∈ routedState.held, e.task.taskType = .push →
        0 < routedState.registry.runningTaskUserCount .push e.task.user) :=
  have h : ReachableBy 2 (fun _ => .normal) ownUserRouted routedState := ReachableBy.init.run
    (by decide) (show run 2 (fun _ => .normal) init routedTrace = some _ from rfl)
  ⟨h, reachableBy_ownUserRouted_counts h⟩

end Routed

end Dispatcher

end PaloAgent
