import PaloAgent.Dispatch.NextTaskIndex
import Mathlib.Algebra.BigOperators.Group.Finset
import Mathlib.Data.List.GetD
import Mathlib.Tactic.Abel

/-!
# The dispatcher as a step system

The agent's task-dispatch core is a shared-memory system: `submit_task` calls from the
coordinator's RPC threads, and worker threads of every pool, all act on the process-wide
`Registry` and on the pools' `_tasks` deques. A state here holds the registry, every pool's
deque and the request each worker is executing. The steps are the critical sections of
the source, each taken as one atomic step:

* `submitTask p t`: `submit_task` on pool `p`, that is `_record_task_info` and, only if it
  returned true, `push_back`;
* `takeTask w`: worker `w`'s dequeue, `pop_front` in the generic loops and
  `_get_next_task_index` followed by `erase` in `_push_worker_thread_callback`, where a
  HIGH-lane selection of `-1` takes nothing;
* `finishTask w`: `_finish_task` (an RPC that leaves this state alone) followed by
  `_remove_task_info` for the request `w` holds, with the user its callback passes.

A worker waiting on the condition variable is a worker whose `takeTask` is not enabled.
The model lets any worker of any pool act and gives each worker a fixed lane `laneOf`; both
only add runs, so what holds of every run here holds of the source.

The registered requests of a state are its `content`, the multiset of every queued and
every held request. The main result is that in every
reachable state each kind's signature set is exactly the signatures of that kind's
registered requests, and that no (kind, signature) pair is registered twice.
-/

namespace PaloAgent

open TAgentTaskRequest

/-- A worker between its dequeue and its completion, and the request it executes. -/
structure HeldTask where
  worker : Worker
  task : TAgentTaskRequest
  deriving DecidableEq, Repr

/-- The dispatcher's state: the shared registry, each pool's `_tasks`, and the requests
the workers hold. -/
structure Dispatcher where
  registry : Registry
  tasks : TaskWorkerType → List TAgentTaskRequest
  held : List HeldTask

/-- The atomic steps of the dispatcher. -/
inductive Action
  | submitTask (pool : TaskWorkerType) (task : TAgentTaskRequest)
  | takeTask (worker : Worker)
  | finishTask (worker : Worker)

namespace Dispatcher

/-- At boot: empty registry, empty deques, idle workers. -/
def init : Dispatcher := ⟨Registry.empty, fun _ => [], []⟩

/-- `TaskWorkerPool::submit_task` on `pool`. -/
def submitTask (s : Dispatcher) (pool : TaskWorkerType) (task : TAgentTaskRequest) :
    Dispatcher :=
  let recorded := s.registry.recordTaskInfo task.taskType task.signature task.user
  { s with
    registry := recorded.2
    tasks := if recorded.1 then Function.update s.tasks pool (s.tasks pool ++ [task])
      else s.tasks }

section Steps

variable (threadCount : Nat) (laneOf : Worker → TPriority)

/-- Worker `w` takes a request from its pool's `_tasks`, as its callback does; `none` when
it is busy, when the deque is empty (it waits), or when its callback reads no deque. -/
def takeTask (s : Dispatcher) (w : Worker) : Option Dispatcher :=
  if w ∈ s.held.map HeldTask.worker then none
  else
    match s.tasks w.pool with
    | [] => none
    | head :: rest =>
      match w.pool.callbackFunction.takeDiscipline with
      | .fifo =>
        some { s with
          tasks := Function.update s.tasks w.pool rest
          held := ⟨w, head⟩ :: s.held }
      | .push =>
        let selected := getNextTaskIndex threadCount (head :: rest) (laneOf w) s.registry
        if selected.1 < 0 then some { s with registry := selected.2 }
        else
          some { registry := selected.2
                 tasks := Function.update s.tasks w.pool
                   ((head :: rest).eraseIdx selected.1.toNat)
                 held := ⟨w, (head :: rest).getD selected.1.toNat default⟩ :: s.held }
      | .none => none

/-- Worker `w` completes the request it holds: `_finish_task`, then `_remove_task_info`
with the request's kind and signature and the user its callback passes. -/
def finishTask (s : Dispatcher) (w : Worker) : Option Dispatcher :=
  match s.held.find? (·.worker = w) with
  | none => none
  | some entry =>
    some { s with
      registry := s.registry.removeTaskInfo entry.task.taskType entry.task.signature
        (w.pool.callbackFunction.removeUser entry.task)
      held := s.held.erase entry }

/-- One atomic step. -/
def step (s : Dispatcher) : Action → Option Dispatcher
  | .submitTask pool task => some (s.submitTask pool task)
  | .takeTask w => s.takeTask threadCount laneOf w
  | .finishTask w => s.finishTask w

/-- The states reachable from boot by any interleaving of steps. -/
inductive Reachable : Dispatcher → Prop
  | init : Reachable init
  | step {s s' : Dispatcher} (a : Action) :
      Reachable s → s.step threadCount laneOf a = some s' → Reachable s'

/-- Run a list of steps in order; `none` as soon as one is not enabled. -/
def run : Dispatcher → List Action → Option Dispatcher
  | s, [] => some s
  | s, a :: as => (s.step threadCount laneOf a).bind (run · as)

end Steps

/-- A run that ends starts from a reachable state only if it ends in one. -/
theorem Reachable.run {threadCount : Nat} {laneOf : Worker → TPriority} {s s' : Dispatcher}
    {as : List Action} (hs : Reachable threadCount laneOf s)
    (h : run threadCount laneOf s as = some s') : Reachable threadCount laneOf s' := by
  induction as generalizing s with
  | nil => cases h; exact hs
  | cons a as ih =>
    obtain ⟨s₁, h₁, h₂⟩ := Option.bind_eq_some.mp h
    exact ih (hs.step a h₁) h₂

/-- The registered requests: every queued request of every pool and every held one. -/
def content (s : Dispatcher) : Multiset TAgentTaskRequest :=
  (∑ p, (s.tasks p : Multiset TAgentTaskRequest)) + (s.held.map HeldTask.task : Multiset _)

/-! ### What each step does to the registered requests -/

/-- Replacing one pool's deque changes the queued requests by exactly that deque. -/
theorem sum_update_tasks (f : TaskWorkerType → List TAgentTaskRequest) (p : TaskWorkerType)
    (l : List TAgentTaskRequest) :
    (∑ q, (Function.update f p l q : Multiset TAgentTaskRequest)) + f p =
      (∑ q, (f q : Multiset TAgentTaskRequest)) + l := by
  rw [← Finset.add_sum_erase _ _ (Finset.mem_univ p),
    ← Finset.add_sum_erase _ (fun q => (f q : Multiset TAgentTaskRequest)) (Finset.mem_univ p),
    Finset.sum_congr rfl fun q hq => by rw [Function.update_noteq (Finset.ne_of_mem_erase hq)]]
  simp only [Function.update_same]
  abel

/-- `erase(begin() + i)` of a deque and the element it removed are the deque again. -/
theorem getD_cons_eraseIdx_perm {l : List TAgentTaskRequest} {i : Nat} (hi : i < l.length)
    (d : TAgentTaskRequest) : (l.getD i d :: l.eraseIdx i).Perm l := by
  rw [List.eraseIdx_eq_take_drop_succ, List.getD_eq_getElem _ _ hi]
  conv_rhs => rw [← List.take_append_drop i l, List.drop_eq_getElem_cons hi]
  exact List.perm_middle.symm

theorem content_submitTask (s : Dispatcher) (p : TaskWorkerType) (t : TAgentTaskRequest) :
    (s.submitTask p t).content =
      if t.signature ∈ s.registry.taskSignatures t.taskType then s.content
      else t ::ₘ s.content := by
  unfold submitTask content
  split_ifs with h
  · simp [h]
  · have hsum := sum_update_tasks s.tasks p (s.tasks p ++ [t])
    rw [← Multiset.coe_add, Multiset.coe_singleton] at hsum
    have key : ∑ q, (Function.update s.tasks p (s.tasks p ++ [t]) q : Multiset TAgentTaskRequest) =
        ∑ q, (s.tasks q : Multiset TAgentTaskRequest) + {t} := by
      refine add_right_cancel (?_ : _ + (s.tasks p : Multiset TAgentTaskRequest) = _ + _)
      rw [hsum]; abel
    simp only [Registry.recordTaskInfo_fst, h, not_false_eq_true, decide_eq_true_eq, if_true, key,
      ← Multiset.singleton_add]
    abel

/-- Moving a request from a pool's deque to a worker leaves the registered requests
alone. -/
theorem content_take (s : Dispatcher) (w : Worker) (p : TaskWorkerType)
    (l : List TAgentTaskRequest) (t : TAgentTaskRequest) (hperm : (t :: l).Perm (s.tasks p))
    (reg : Registry) :
    (⟨reg, Function.update s.tasks p l, ⟨w, t⟩ :: s.held⟩ : Dispatcher).content = s.content := by
  have hsum := sum_update_tasks s.tasks p l
  rw [← Multiset.coe_eq_coe.mpr hperm, ← Multiset.cons_coe, ← Multiset.singleton_add] at hsum
  have key : ∑ q, (Function.update s.tasks p l q : Multiset TAgentTaskRequest) + {t} =
      ∑ q, (s.tasks q : Multiset TAgentTaskRequest) := by
    refine add_right_cancel (?_ : _ + (l : Multiset TAgentTaskRequest) = _ + _)
    rw [← hsum]; abel
  simp only [content, List.map_cons, ← Multiset.cons_coe, ← Multiset.singleton_add, ← key]
  abel

/-- Completing the request a worker holds removes exactly that request. -/
theorem content_finish (s : Dispatcher) {entry : HeldTask} (h : entry ∈ s.held)
    (reg : Registry) :
    entry.task ::ₘ (⟨reg, s.tasks, s.held.erase entry⟩ : Dispatcher).content = s.content := by
  have hperm := (List.perm_cons_erase h).map HeldTask.task
  simp only [content, List.map_cons] at hperm ⊢
  rw [Multiset.coe_eq_coe.mpr hperm, ← Multiset.cons_coe, Multiset.add_cons]

/-! ### One lemma per step -/

/-- Submitting a request whose signature its kind already has changes nothing. -/
theorem submitTask_of_mem {s : Dispatcher} {t : TAgentTaskRequest} (p : TaskWorkerType)
    (h : t.signature ∈ s.registry.taskSignatures t.taskType) : s.submitTask p t = s := by
  simp [submitTask, Registry.recordTaskInfo_of_mem _ h]

@[simp] theorem submitTask_registry (s : Dispatcher) (p : TaskWorkerType) (t : TAgentTaskRequest) :
    (s.submitTask p t).registry = (s.registry.recordTaskInfo t.taskType t.signature t.user).2 :=
  rfl

@[simp] theorem submitTask_held (s : Dispatcher) (p : TaskWorkerType) (t : TAgentTaskRequest) :
    (s.submitTask p t).held = s.held :=
  rfl

/-- An admitted request is appended to its pool's deque. -/
theorem submitTask_tasks_of_not_mem {s : Dispatcher} {t : TAgentTaskRequest} (p : TaskWorkerType)
    (h : t.signature ∉ s.registry.taskSignatures t.taskType) :
    (s.submitTask p t).tasks = Function.update s.tasks p (s.tasks p ++ [t]) := by
  simp [submitTask, h]

section Steps

variable {threadCount : Nat} {laneOf : Worker → TPriority}

/-- **What a dequeue can do**: either nothing is taken and nothing changes, or worker `w`
takes one request `t` of its own pool's deque. A generic loop leaves the registry alone;
the push callback credits one running task of `t`'s kind to a user, `t`'s own wherever the
carried user of the deque is each request's own. -/
theorem takeTask_spec {s s' : Dispatcher} {w : Worker}
    (h : s.takeTask threadCount laneOf w = some s') :
    (s'.tasks = s.tasks ∧ s'.held = s.held ∧ s'.registry = s.registry) ∨
      ∃ t l, (t :: l).Perm (s.tasks w.pool) ∧ s'.tasks = Function.update s.tasks w.pool l ∧
        s'.held = ⟨w, t⟩ :: s.held ∧
        (w.pool.callbackFunction ≠ .push ∧ s'.registry = s.registry ∨
          w.pool.callbackFunction = .push ∧ ∃ u,
            s'.registry = s.registry.addRunningTask t.taskType u ∧
            (CarriesOwnUser "" (s.tasks w.pool) → u = t.user)) := by
  unfold takeTask at h
  split_ifs at h
  split at h
  · cases h
  · rename_i head rest hq
    split at h
    · rename_i hfifo
      cases h
      refine .inr ⟨head, rest, hq ▸ List.Perm.refl _, rfl, rfl, .inl ⟨fun hp => ?_, rfl⟩⟩
      simp [hp, CallbackFunction.takeDiscipline] at hfifo
    · rename_i hpush
      rcases getNextTaskIndex_cases threadCount s.registry (laneOf w) (List.cons_ne_nil head rest)
        with hsel | ⟨i, hi, u, hsel, hown⟩ <;> simp only [hsel] at h
      · cases h
        exact .inl ⟨rfl, rfl, rfl⟩
      · simp only [Nat.cast_nonneg, not_lt.mpr, if_false, Int.toNat_natCast] at h
        cases h
        refine .inr ⟨_, _, hq ▸ getD_cons_eraseIdx_perm hi default, rfl, rfl,
          .inr ⟨?_, u, rfl, fun hc => hown (hq ▸ hc)⟩⟩
        revert hpush
        cases w.pool.callbackFunction <;> simp [CallbackFunction.takeDiscipline]
    · cases h

/-- A dequeue changes the registry at most by one running-task credit. -/
theorem takeTask_registry {s s' : Dispatcher} {w : Worker}
    (h : s.takeTask threadCount laneOf w = some s') :
    s'.registry = s.registry ∨ ∃ k u, s'.registry = s.registry.addRunningTask k u := by
  rcases takeTask_spec h with ⟨-, -, hr⟩ | ⟨t, -, -, -, -, ⟨-, hr⟩ | ⟨-, u, hr, -⟩⟩
  · exact .inl hr
  · exact .inl hr
  · exact .inr ⟨_, u, hr⟩

/-- A dequeue leaves the registered requests alone. -/
theorem content_takeTask {s s' : Dispatcher} {w : Worker}
    (h : s.takeTask threadCount laneOf w = some s') : s'.content = s.content := by
  rcases takeTask_spec h with ⟨ht, hh, -⟩ | ⟨t, l, hperm, ht, hh, -⟩
  · simp [content, ht, hh]
  · obtain ⟨reg, tasks, held⟩ := s'
    simp only at ht hh
    subst ht hh
    exact content_take s w w.pool l t hperm reg

/-- **What a completion can do**: a worker that holds a request drops it and removes its
registration. -/
theorem finishTask_spec {s s' : Dispatcher} {w : Worker} (h : s.finishTask w = some s') :
    ∃ entry ∈ s.held, entry.worker = w ∧
      s' = ⟨s.registry.removeTaskInfo entry.task.taskType entry.task.signature
        (w.pool.callbackFunction.removeUser entry.task), s.tasks, s.held.erase entry⟩ := by
  unfold finishTask at h
  split at h
  · cases h
  · rename_i entry hfind
    cases h
    exact ⟨entry, List.mem_of_find?_eq_some hfind, by simpa using List.find?_some hfind, rfl⟩

end Steps

/-! ### The registry invariant -/

/-- **The registry invariant**: each kind's signature set is exactly the signatures of the
registered requests of that kind, and no (kind, signature) pair is registered twice. -/
structure SignaturesExact (s : Dispatcher) : Prop where
  mem_iff : ∀ k sig, sig ∈ s.registry.taskSignatures k ↔ (k, sig) ∈ s.content.map key
  nodup : (s.content.map key).Nodup

theorem signaturesExact_init : SignaturesExact init where
  mem_iff k sig := by simp [init, Registry.empty, content]
  nodup := by simp [init, content]

theorem SignaturesExact.submitTask {s : Dispatcher} (hs : SignaturesExact s)
    (p : TaskWorkerType) (t : TAgentTaskRequest) : SignaturesExact (s.submitTask p t) := by
  by_cases hmem : t.signature ∈ s.registry.taskSignatures t.taskType
  · rwa [submitTask_of_mem p hmem]
  · have hkey : t.key ∉ s.content.map key := fun h => hmem ((hs.mem_iff _ _).2 h)
    refine ⟨fun k sig => ?_, ?_⟩
    · simp only [content_submitTask, hmem, if_false, Multiset.map_cons, Multiset.mem_cons,
        submitTask_registry, Registry.recordTaskInfo_taskSignatures]
      split_ifs with hk
      · subst hk; rw [Finset.mem_insert, hs.mem_iff]; simp [key, eq_comm]
      · rw [hs.mem_iff]; simp [key, hk]
    · simp only [content_submitTask, hmem, if_false, Multiset.map_cons]
      exact Multiset.nodup_cons.2 ⟨hkey, hs.nodup⟩

theorem SignaturesExact.takeTask {threadCount : Nat} {laneOf : Worker → TPriority}
    {s s' : Dispatcher} {w : Worker} (hs : SignaturesExact s)
    (h : s.takeTask threadCount laneOf w = some s') : SignaturesExact s' := by
  have hcontent := content_takeTask h
  have hreg := takeTask_registry h
  have hsig : s'.registry.taskSignatures = s.registry.taskSignatures := by
    rcases hreg with hreg | ⟨k, u, hreg⟩ <;> rw [hreg]; rfl
  exact ⟨fun k sig => by rw [hsig, hcontent, hs.mem_iff], hcontent ▸ hs.nodup⟩

theorem SignaturesExact.finishTask {s s' : Dispatcher} {w : Worker} (hs : SignaturesExact s)
    (h : s.finishTask w = some s') : SignaturesExact s' := by
  obtain ⟨entry, hmem, -, rfl⟩ := finishTask_spec h
  have hcontent := content_finish s hmem
    (s.registry.removeTaskInfo entry.task.taskType entry.task.signature
      (w.pool.callbackFunction.removeUser entry.task))
  set rest := (⟨_, s.tasks, s.held.erase entry⟩ : Dispatcher).content
  have hnodup := hs.nodup
  rw [← hcontent, Multiset.map_cons, Multiset.nodup_cons] at hnodup
  refine ⟨fun k sig => ?_, hnodup.2⟩
  simp only [Registry.removeTaskInfo_taskSignatures]
  split_ifs with hk
  · subst hk
    rw [Finset.mem_erase, hs.mem_iff, ← hcontent, Multiset.map_cons, Multiset.mem_cons]
    constructor
    · rintro ⟨hne, h | h⟩
      · exact absurd (congrArg Prod.snd h) hne
      · exact h
    · intro h
      exact ⟨fun hsig => hnodup.1 (by subst hsig; exact h), .inr h⟩
  · rw [hs.mem_iff, ← hcontent, Multiset.map_cons, Multiset.mem_cons]
    simp [key, hk]

theorem SignaturesExact.step {threadCount : Nat} {laneOf : Worker → TPriority}
    {s s' : Dispatcher} {a : Action} (hs : SignaturesExact s)
    (h : s.step threadCount laneOf a = some s') : SignaturesExact s' := by
  cases a with
  | submitTask p t => cases h; exact hs.submitTask p t
  | takeTask w => exact hs.takeTask h
  | finishTask w => exact hs.finishTask h

theorem Reachable.signaturesExact {threadCount : Nat} {laneOf : Worker → TPriority}
    {s : Dispatcher} (h : Reachable threadCount laneOf s) : SignaturesExact s := by
  induction h with
  | init => exact signaturesExact_init
  | step _ _ hstep ih => exact ih.step hstep

/-- **Signature registry.** In every state reachable by any interleaving of submissions,
dequeues and completions across all pools and workers, each kind's signature set is
exactly the signatures of the queued and held requests of that kind, no (kind, signature)
pair is queued or held twice, and so re-submitting a registered pair changes nothing. -/
theorem reachable_taskSignatures_exact {threadCount : Nat} {laneOf : Worker → TPriority}
    {s : Dispatcher} (h : Reachable threadCount laneOf s) :
    (∀ k, s.registry.taskSignatures k =
      ((s.content.filter (·.taskType = k)).map (·.signature)).toFinset) ∧
    (s.content.map key).Nodup ∧
    ∀ p t, t.key ∈ s.content.map key → s.step threadCount laneOf (.submitTask p t) = some s := by
  have hs := h.signaturesExact
  refine ⟨fun k => Finset.ext fun sig => ?_, hs.nodup, fun p t ht => ?_⟩
  · rw [hs.mem_iff, Multiset.mem_toFinset]
    simp [key, Multiset.mem_map, Multiset.mem_filter, and_comm, and_assoc]
  · simp [step, submitTask_of_mem p ((hs.mem_iff _ _).2 ht)]

/-- One `PUSH` request of user `a`, submitted to the `PUSH` pool at boot. -/
def onePushSubmitted : Dispatcher := init.submitTask .push ⟨.push, 1, some ⟨"a"⟩, none⟩

theorem onePushSubmitted_taskSignatures_exact :
    Reachable 1 (fun _ => .normal) onePushSubmitted ∧
    (∀ k, onePushSubmitted.registry.taskSignatures k =
      ((onePushSubmitted.content.filter (·.taskType = k)).map (·.signature)).toFinset) ∧
    (onePushSubmitted.content.map key).Nodup ∧
    ∀ p t, t.key ∈ onePushSubmitted.content.map key →
      onePushSubmitted.step 1 (fun _ => .normal) (.submitTask p t) = some onePushSubmitted :=
  have h : Reachable 1 (fun _ => .normal) onePushSubmitted := .step (.submitTask .push _) .init rfl
  ⟨h, reachable_taskSignatures_exact h⟩

end Dispatcher

end PaloAgent
