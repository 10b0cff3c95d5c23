import PaloAgent.Dispatch.Dispatcher

/-!
# The task lifecycle as the coordinator sees it

The coordinator learns of a task's life from the agent in two ways: `submit_task`
**accepts** a request, pushing it on a deque exactly when `_record_task_info` registers its
kind and signature, and the worker that ran it **completes** it, with `_finish_task` and
then `_remove_task_info`. Between the two the request is in flight, and
`_report_task_worker_thread_callback` sends the in-flight signatures of every kind
(`reportTasks`).

The coordinator's view is a machine over the set of in-flight (kind, signature) pairs: an
acceptance adds a pair that is not in flight, a completion removes one that is
(`applyEvent`), and a history that breaks either rule is rejected (`replayEvents`).
`ReachableLog` pairs each dispatcher run from boot with the acceptances and completions
it emits (`stepEvents`). The results:

* `reachableLog_replay`: along every run, by any interleaving of submissions, dequeues
  and completions across pools and workers, the emitted history is one the coordinator's
  machine accepts, and its in-flight set is exactly what the task report sends: the
  dispatcher refines the machine;
* `reachableLog_count`: so every (kind, signature) pair is completed at most once per
  acceptance, and accepted again only after its completion.
-/

namespace PaloAgent

/-- An event of a task's life that the coordinator observes, with the task's kind and
signature. -/
inductive TaskEvent
  | accepted (key : TTaskType × Int)
  | completed (key : TTaskType × Int)
  deriving DecidableEq, Repr

/-- `_report_task_worker_thread_callback`: `request.__set_tasks(_s_task_signatures)`. -/
def reportTasks (reg : Registry) : TTaskType → Finset Int := reg.taskSignatures

/-! ### The coordinator's machine -/

/-- One event on the in-flight set: `none` for an acceptance of a pair in flight or a
completion of one that is not. -/
def applyEvent (inFlight : Finset (TTaskType × Int)) : TaskEvent → Option (Finset (TTaskType × Int))
  | .accepted k => if k ∈ inFlight then none else some (insert k inFlight)
  | .completed k => if k ∈ inFlight then some (inFlight.erase k) else none

/-- Replay a history from an in-flight set; `none` at the first event it rejects. -/
def replayEvents : Finset (TTaskType × Int) → List TaskEvent → Option (Finset (TTaskType × Int))
  | A, [] => some A
  | A, e :: es => (applyEvent A e).bind (replayEvents · es)

theorem replayEvents_append (A : Finset (TTaskType × Int)) (F G : List TaskEvent) :
    replayEvents A (F ++ G) = (replayEvents A F).bind (replayEvents · G) := by
  induction F generalizing A with
  | nil => rfl
  | cons e F ih =>
    simp only [List.cons_append, replayEvents]
    cases applyEvent A e <;> simp [ih]

/-- One accepted event moves the count balance of `k` by what it does to `k`'s
membership. -/
theorem applyEvent_count {A A' : Finset (TTaskType × Int)} {e : TaskEvent}
    (h : applyEvent A e = some A') (k : TTaskType × Int) :
    [e].count (.accepted k) + (if k ∈ A then 1 else 0) =
      [e].count (.completed k) + (if k ∈ A' then 1 else 0) := by
  rcases e with k' | k' <;> simp only [applyEvent] at h <;> split_ifs at h with hk' <;> cases h <;>
    by_cases hk : k = k'
  all_goals first
    | (subst hk; simp [hk'])
    | simp [hk, Ne.symm hk, List.count_singleton']

/-- **An accepted history balances each pair**: from the empty set, a history the machine
accepts has, for every pair, as many completions as acceptances, plus one while the pair
is in flight. -/
theorem replayEvents_count {F : List TaskEvent} {A : Finset (TTaskType × Int)}
    (h : replayEvents ∅ F = some A) (k : TTaskType × Int) :
    F.count (.accepted k) = F.count (.completed k) + if k ∈ A then 1 else 0 := by
  suffices key : ∀ A₀, replayEvents A₀ F = some A →
      F.count (.accepted k) + (if k ∈ A₀ then 1 else 0) =
        F.count (.completed k) + if k ∈ A then 1 else 0 by
    simpa using key ∅ h
  clear h
  induction F with
  | nil => intro A₀ h; cases h; simp
  | cons e F ih =>
    intro A₀ h
    obtain ⟨A₁, h₁, h₂⟩ := Option.bind_eq_some.mp h
    have hstep := applyEvent_count h₁ k
    have hrest := ih A₁ h₂
    rw [← List.singleton_append, List.count_append, List.count_append]
    omega

/-! ### The events of the dispatcher -/

namespace Dispatcher

/-- What the coordinator observes of one step: an acceptance when `submit_task` registers
the request, a completion when a worker removes the request it holds. -/
def stepEvents (s : Dispatcher) : Action → List TaskEvent
  | .submitTask _ t =>
    if t.signature ∈ s.registry.taskSignatures t.taskType then [] else [.accepted t.key]
  | .takeTask _ => []
  | .finishTask w => (s.held.find? (·.worker = w)).toList.map fun e => .completed e.task.key

/-- The runs from boot, with the history of events each emitted. -/
inductive ReachableLog (threadCount : Nat) (laneOf : Worker → TPriority) :
    Dispatcher → List TaskEvent → Prop
  | init : ReachableLog threadCount laneOf Dispatcher.init []
  | step {s s' : Dispatcher} {F : List TaskEvent} (a : Action) :
      ReachableLog threadCount laneOf s F → s.step threadCount laneOf a = some s' →
      ReachableLog threadCount laneOf s' (F ++ s.stepEvents a)

/-- Run a list of steps, collecting their events; `none` as soon as one is not enabled. -/
def runLog (threadCount : Nat) (laneOf : Worker → TPriority) :
    Dispatcher → List Action → Option (Dispatcher × List TaskEvent)
  | s, [] => some (s, [])
  | s, a :: as => (s.step threadCount laneOf a).bind fun s' =>
      (runLog threadCount laneOf s' as).map fun r => (r.1, s.stepEvents a ++ r.2)

section Log

variable {threadCount : Nat} {laneOf : Worker → TPriority}

theorem ReachableLog.runLog {s : Dispatcher} {F : List TaskEvent} {as : List Action}
    {r : Dispatcher × List TaskEvent} (hs : ReachableLog threadCount laneOf s F)
    (h : Dispatcher.runLog threadCount laneOf s as = some r) :
    ReachableLog threadCount laneOf r.1 (F ++ r.2) := by
  induction as generalizing s F r with
  | nil => cases h; simpa using hs
  | cons a as ih =>
    obtain ⟨s₁, h₁, h₂⟩ := Option.bind_eq_some.mp h
    obtain ⟨r₁, h₃, rfl⟩ := Option.map_eq_some'.mp h₂
    simpa using ih (hs.step a h₁) h₃

theorem ReachableLog.reachable {s : Dispatcher} {F : List TaskEvent}
    (h : ReachableLog threadCount laneOf s F) : Reachable threadCount laneOf s := by
  induction h with
  | init => exact .init
  | step a _ hstep ih => exact ih.step a hstep

/-- The registry's signature sets are the coordinator's in-flight set. -/
def Corresponds (s : Dispatcher) (A : Finset (TTaskType × Int)) : Prop :=
  ∀ k sig, sig ∈ s.registry.taskSignatures k ↔ (k, sig) ∈ A

/-- **One step refines the machine**: from a state whose registry is exact, the events of
an enabled step are accepted from the corresponding in-flight set, and lead to the set
of the next state. -/
theorem stepEvents_replay {s s' : Dispatcher} {a : Action} {A : Finset (TTaskType × Int)}
    (hs : SignaturesExact s) (hA : Corresponds s A) (h : s.step threadCount laneOf a = some s') :
    ∃ A', replayEvents A (s.stepEvents a) = some A' ∧ Corresponds s' A' := by
  cases a with
  | submitTask p t =>
    cases h
    by_cases hmem : t.signature ∈ s.registry.taskSignatures t.taskType
    · rw [submitTask_of_mem p hmem]
      exact ⟨A, by simp [stepEvents, hmem, replayEvents], hA⟩
    · have hkey : t.key ∉ A := fun hk => hmem ((hA _ _).2 hk)
      refine ⟨insert t.key A, by simp [stepEvents, hmem, replayEvents, applyEvent, hkey], ?_⟩
      intro k sig
      simp only [submitTask_registry, Registry.recordTaskInfo_taskSignatures, Finset.mem_insert]
      split_ifs with hk
      · subst hk; rw [Finset.mem_insert, hA]; simp [TAgentTaskRequest.key, eq_comm]
      · rw [hA]; simp [TAgentTaskRequest.key, hk]
  | takeTask w =>
    have hsig : s'.registry.taskSignatures = s.registry.taskSignatures := by
      rcases takeTask_registry h with hreg | ⟨k, u, hreg⟩ <;> rw [hreg]; rfl
    exact ⟨A, rfl, fun k sig => by rw [hsig, hA]⟩
  | finishTask w =>
    simp only [step, finishTask] at h
    split at h
    · cases h
    · rename_i entry hfind
      cases h
      have hmem : entry.task.key ∈ A := by
        rw [← hA, hs.mem_iff]
        exact Multiset.mem_map_of_mem _ (Multiset.mem_add.mpr (.inr (Multiset.mem_coe.mpr
          (List.mem_map_of_mem _ (List.mem_of_find?_eq_some hfind)))))
      refine ⟨A.erase entry.task.key,
        by simp [stepEvents, hfind, replayEvents, applyEvent, hmem], fun k sig => ?_⟩
      simp only [Registry.removeTaskInfo_taskSignatures]
      split_ifs with hk
      · subst hk; rw [Finset.mem_erase, Finset.mem_erase, hA]; simp [TAgentTaskRequest.key]
      · rw [hA, Finset.mem_erase]; simp [TAgentTaskRequest.key, hk]

/-- Every run's history is accepted by the machine, ending in the set of its last state. -/
theorem ReachableLog.replay {s : Dispatcher} {F : List TaskEvent}
    (h : ReachableLog threadCount laneOf s F) :
    ∃ A, replayEvents ∅ F = some A ∧ Corresponds s A := by
  induction h with
  | init => exact ⟨∅, rfl, fun k sig => by simp [Dispatcher.init, Registry.empty]⟩
  | step a hlog hstep ih =>
    obtain ⟨A, hF, hA⟩ := ih
    obtain ⟨A', hev, hA'⟩ := stepEvents_replay hlog.reachable.signaturesExact hA hstep
    exact ⟨A', by rw [replayEvents_append, hF, Option.some_bind, hev], hA'⟩

/-- **The dispatcher refines the coordinator's view.** Along every run from boot, by any
interleaving of submissions, dequeues and completions across all pools and workers, the
history of acceptances and completions never accepts a (kind, signature) pair in flight
and never completes one that is not, and the pairs it leaves in flight are exactly the
ones the task report sends. -/
theorem reachableLog_replay {s : Dispatcher} {F : List TaskEvent}
    (h : ReachableLog threadCount laneOf s F) :
    ∃ A, replayEvents ∅ F = some A ∧ ∀ k sig, sig ∈ reportTasks s.registry k ↔ (k, sig) ∈ A :=
  h.replay

/-- A `CLONE` request submitted twice while queued, run and completed by a clone worker,
then submitted again. -/
def resubmitTrace : List Action :=
  [.submitTask .clone ⟨.clone, 7, none, none⟩, .submitTask .clone ⟨.clone, 7, none, none⟩,
   .takeTask ⟨.clone, 0⟩, .finishTask ⟨.clone, 0⟩, .submitTask .clone ⟨.clone, 7, none, none⟩]

/-- The state `resubmitTrace` ends in, with its history. -/
def resubmitLog : Dispatcher × List TaskEvent :=
  (runLog 1 (fun _ => .normal) Dispatcher.init resubmitTrace).getD (Dispatcher.init, [])

theorem resubmitLog_reachable : ReachableLog 1 (fun _ => .normal) resubmitLog.1 resubmitLog.2 :=
  ReachableLog.init.runLog (show runLog 1 (fun _ => .normal) Dispatcher.init resubmitTrace =
    some resubmitLog from rfl)

theorem resubmitLog_replay :
    ReachableLog 1 (fun _ => .normal) resubmitLog.1 resubmitLog.2 ∧
      ∃ A, replayEvents ∅ resubmitLog.2 = some A ∧
        ∀ k sig, sig ∈ reportTasks resubmitLog.1.registry k ↔ (k, sig) ∈ A :=
  ⟨resubmitLog_reachable, reachableLog_replay resubmitLog_reachable⟩

/-- **Each acceptance is completed at most once.** Along every run from boot, every
(kind, signature) pair is completed at most as often as it was accepted, accepted at
most once more than it was completed, and in the task report exactly when it was accepted
once more than completed. -/
theorem reachableLog_count {s : Dispatcher} {F : List TaskEvent}
    (h : ReachableLog threadCount laneOf s F) (k : TTaskType × Int) :
    F.count (.completed k) ≤ F.count (.accepted k) ∧
      F.count (.accepted k) ≤ F.count (.completed k) + 1 ∧
      (k.2 ∈ reportTasks s.registry k.1 ↔ F.count (.accepted k) = F.count (.completed k) + 1) := by
  obtain ⟨A, hF, hA⟩ := h.replay
  have hcount := replayEvents_count hF k
  have hmem : k.2 ∈ reportTasks s.registry k.1 ↔ k ∈ A := hA k.1 k.2
  by_cases hk : k ∈ A <;> simp only [hk, if_true, if_false] at hcount <;>
    exact ⟨by omega, by omega, by simp [hmem, hk, hcount]⟩

theorem resubmitLog_count :
    ReachableLog 1 (fun _ => .normal) resubmitLog.1 resubmitLog.2 ∧
      resubmitLog.2.count (.completed (.clone, 7)) ≤ resubmitLog.2.count (.accepted (.clone, 7)) ∧
      resubmitLog.2.count (.accepted (.clone, 7)) ≤ resubmitLog.2.count (.completed (.clone, 7)) + 1 ∧
      ((TTaskType.clone, (7 : Int)).2 ∈ reportTasks resubmitLog.1.registry (TTaskType.clone, (7 : Int)).1 ↔
        resubmitLog.2.count (.accepted (.clone, 7)) = resubmitLog.2.count (.completed (.clone, 7)) + 1) :=
  ⟨resubmitLog_reachable, reachableLog_count resubmitLog_reachable (.clone, 7)⟩

end Log

end Dispatcher

end PaloAgent
