import PaloAgent.Dispatch.Dispatcher

/-!
# The pools' deques over a run

Every pool keeps the requests `submit_task` queued to it in its `_tasks` deque until one of
its workers takes one. The generic callbacks take the front (`pop_front`); the push
callback takes the index `_get_next_task_index` selects (`erase`), so its requests may
start out of order. `ReachableQueues` pairs each dispatcher run from boot with what the
deques saw: each request queued to a pool (`queued`) and each request a worker took
(`started`).

The main result, `reachableQueues_conserve`, holds along every run, by any interleaving of
submissions, dequeues and completions across all pools and workers:

* for every pool, the requests its workers started, in order, followed by its deque, are
  a permutation of the requests queued to it: no queued request is lost, none is started
  twice, and none is started without being queued;
* for a pool whose callback takes the front of the deque (every callback but the push
  callback), they are equal: its requests start exactly in the order they were queued.
-/

namespace PaloAgent

/-- What a pool's deque sees: a request queued to a pool, or taken by a worker. -/
inductive QueueEvent
  | queued (pool : TaskWorkerType) (task : TAgentTaskRequest)
  | started (worker : Worker) (task : TAgentTaskRequest)
  deriving DecidableEq, Repr

/-- The request of an event that queues to `p`. -/
def QueueEvent.queuedTo (p : TaskWorkerType) : QueueEvent → Option TAgentTaskRequest
  | .queued q t => if q = p then some t else none
  | .started .. => none

/-- The request of an event in which a worker of `p` starts it. -/
def QueueEvent.startedIn (p : TaskWorkerType) : QueueEvent → Option TAgentTaskRequest
  | .started w t => if w.pool = p then some t else none
  | .queued .. => none

namespace Dispatcher

/-- What the deques see of a step from `s` to `s'`: the request an accepted submission
appends, and the request a dequeue hands to its worker. -/
def queueEvents (s : Dispatcher) (a : Action) (s' : Dispatcher) : List QueueEvent :=
  match a with
  | .submitTask p t =>
    if t.signature ∈ s.registry.taskSignatures t.taskType then [] else [.queued p t]
  | .takeTask _ =>
    if s'.held = s.held then [] else (s'.held.head?.map fun e => .started e.worker e.task).toList
  | .finishTask _ => []

/-- The runs from boot, with what the deques saw. -/
inductive ReachableQueues (threadCount : Nat) (laneOf : Worker → TPriority) :
    Dispatcher → List QueueEvent → Prop
  | init : ReachableQueues threadCount laneOf Dispatcher.init []
  | step {s s' : Dispatcher} {Q : List QueueEvent} (a : Action) :
      ReachableQueues threadCount laneOf s Q → s.step threadCount laneOf a = some s' →
      ReachableQueues threadCount laneOf s' (Q ++ s.queueEvents a s')

/-- Run a list of steps, collecting what the deques saw; `none` as soon as one is not
enabled. -/
def runQueues (threadCount : Nat) (laneOf : Worker → TPriority) :
    Dispatcher → List Action → Option (Dispatcher × List QueueEvent)
  | s, [] => some (s, [])
  | s, a :: as => (s.step threadCount laneOf a).bind fun s' =>
      (runQueues threadCount laneOf s' as).map fun r => (r.1, s.queueEvents a s' ++ r.2)

section Queues

variable {threadCount : Nat} {laneOf : Worker → TPriority}

theorem ReachableQueues.runQueues {s : Dispatcher} {Q : List QueueEvent} {as : List Action}
    {r : Dispatcher × List QueueEvent} (hs : ReachableQueues threadCount laneOf s Q)
    (h : Dispatcher.runQueues threadCount laneOf s as = some r) :
    ReachableQueues threadCount laneOf r.1 (Q ++ r.2) := by
  induction as generalizing s Q r with
  | nil => cases h; simpa using hs
  | cons a as ih =>
    obtain ⟨s₁, h₁, h₂⟩ := Option.bind_eq_some.mp h
    obtain ⟨r₁, h₃, rfl⟩ := Option.map_eq_some'.mp h₂
    simpa using ih (hs.step a h₁) h₃

/-- A front-taking dequeue hands its worker the front of the deque. -/
theorem takeTask_fifo {s s' : Dispatcher} {w : Worker}
    (h : s.takeTask threadCount laneOf w = some s')
    (hfifo : w.pool.callbackFunction.takeDiscipline = .fifo) :
    ∃ t l, s.tasks w.pool = t :: l ∧ s'.tasks = Function.update s.tasks w.pool l ∧
      s'.held = ⟨w, t⟩ :: s.held := by
  unfold takeTask at h
  split_ifs at h
  split at h
  · cases h
  · rename_i head rest hq
    simp only [hfifo] at h
    cases h
    exact ⟨head, rest, hq, rfl, rfl⟩

/-- **The deques hold what was queued and not started**: for every pool, the requests
started by its workers followed by its deque are a permutation of the requests queued to
it, and equal to them when its callback takes the front. -/
structure QueuesExact (s : Dispatcher) (Q : List QueueEvent) : Prop where
  perm : ∀ p, (Q.filterMap (QueueEvent.startedIn p) ++ s.tasks p).Perm
    (Q.filterMap (QueueEvent.queuedTo p))
  fifo : ∀ p, p.callbackFunction.takeDiscipline = .fifo →
    Q.filterMap (QueueEvent.startedIn p) ++ s.tasks p = Q.filterMap (QueueEvent.queuedTo p)

/-- Events that neither queue nor start change nothing a pool sees. -/
theorem QueuesExact.of_tasks {s s' : Dispatcher} {Q : List QueueEvent} (hq : QueuesExact s Q)
    (htasks : s'.tasks = s.tasks) : QueuesExact s' (Q ++ []) := by
  rw [List.append_nil]
  exact ⟨fun p => by rw [htasks]; exact hq.perm p, fun p hp => by rw [htasks]; exact hq.fifo p hp⟩

theorem QueuesExact.submitTask {s : Dispatcher} {Q : List QueueEvent} (hq : QueuesExact s Q)
    (p : TaskWorkerType) (t : TAgentTaskRequest) :
    QueuesExact (s.submitTask p t) (Q ++ s.queueEvents (.submitTask p t) (s.submitTask p t)) := by
  by_cases hmem : t.signature ∈ s.registry.taskSignatures t.taskType
  · simpa [queueEvents, hmem, submitTask_of_mem p hmem] using hq
  · simp only [queueEvents, hmem, if_false]
    have hs : ∀ q, (Q ++ [QueueEvent.queued p t]).filterMap (QueueEvent.startedIn q) =
        Q.filterMap (QueueEvent.startedIn q) := fun q => by simp [QueueEvent.startedIn]
    have hq' : ∀ q, (Q ++ [QueueEvent.queued p t]).filterMap (QueueEvent.queuedTo q) =
        Q.filterMap (QueueEvent.queuedTo q) ++ if p = q then [t] else [] := fun q => by
      by_cases hpq : p = q <;> simp [QueueEvent.queuedTo, hpq]
    refine ⟨fun q => ?_, fun q hfifo => ?_⟩ <;> rw [hs, hq', submitTask_tasks_of_not_mem p hmem] <;>
      by_cases hpq : p = q
    · subst hpq
      simpa [← List.append_assoc] using (hq.perm p).append_right [t]
    · simpa [Function.update_noteq (Ne.symm hpq), hpq] using hq.perm q
    · subst hpq
      simp [← List.append_assoc, hq.fifo p hfifo]
    · simpa [Function.update_noteq (Ne.symm hpq), hpq] using hq.fifo q hfifo

theorem QueuesExact.takeTask {s s' : Dispatcher} {Q : List QueueEvent} {w : Worker}
    (hq : QueuesExact s Q) (h : s.takeTask threadCount laneOf w = some s') :
    QueuesExact s' (Q ++ s.queueEvents (.takeTask w) s') := by
  rcases takeTask_spec h with ⟨ht, hh, -⟩ | ⟨t, l, hperm, ht, hh, -⟩
  · simpa [queueEvents, hh] using hq.of_tasks ht
  · have hev : s.queueEvents (.takeTask w) s' = [.started w t] := by
      simp [queueEvents, hh, List.cons_ne_self]
    rw [hev]
    have hs : ∀ q, (Q ++ [QueueEvent.started w t]).filterMap (QueueEvent.startedIn q) =
        Q.filterMap (QueueEvent.startedIn q) ++ if w.pool = q then [t] else [] := fun q => by
      by_cases hpq : w.pool = q <;> simp [QueueEvent.startedIn, hpq]
    have hq' : ∀ q, (Q ++ [QueueEvent.started w t]).filterMap (QueueEvent.queuedTo q) =
        Q.filterMap (QueueEvent.queuedTo q) := fun q => by simp [QueueEvent.queuedTo]
    refine ⟨fun q => ?_, fun q hfifo => ?_⟩ <;> rw [hs, hq', ht] <;> by_cases hpq : w.pool = q
    · subst hpq
      simp only [if_true, Function.update_same, List.append_assoc, List.singleton_append]
      exact ((hperm.append_left _).trans (hq.perm w.pool))
    · simpa [Function.update_noteq (Ne.symm hpq), hpq] using hq.perm q
    · subst hpq
      obtain ⟨t', l', hfront, ht', hh'⟩ := takeTask_fifo h hfifo
      have htt : t = t' := by simpa using hh.symm.trans hh'
      have hl : l = l' := by simpa using congrFun (ht.symm.trans ht') w.pool
      subst htt hl
      simp [← hq.fifo w.pool hfifo, hfront]
    · simpa [Function.update_noteq (Ne.symm hpq), hpq] using hq.fifo q hfifo

theorem QueuesExact.step {s s' : Dispatcher} {Q : List QueueEvent} {a : Action}
    (hq : QueuesExact s Q) (h : s.step threadCount laneOf a = some s') :
    QueuesExact s' (Q ++ s.queueEvents a s') := by
  cases a with
  | submitTask p t => cases h; exact hq.submitTask p t
  | takeTask w => exact hq.takeTask h
  | finishTask w =>
    obtain ⟨entry, -, -, rfl⟩ := finishTask_spec h
    exact hq.of_tasks rfl

theorem ReachableQueues.queuesExact {s : Dispatcher} {Q : List QueueEvent}
    (h : ReachableQueues threadCount laneOf s Q) : QueuesExact s Q := by
  induction h with
  | init => exact ⟨fun p => by simp [Dispatcher.init], fun p _ => by simp [Dispatcher.init]⟩
  | step a _ hstep ih => exact ih.step hstep

/-- **No queued request is lost, duplicated or overtaken.** Along every run from boot, by
any interleaving of submissions, dequeues and completions across all pools and workers,
for every pool the requests its workers started, in order, followed by its deque, are a
permutation of the requests `submit_task` queued to it, in order; and for a pool whose
callback takes the front of its deque they are equal, so its requests start in the
order they were queued. -/
theorem reachableQueues_conserve {s : Dispatcher} {Q : List QueueEvent}
    (h : ReachableQueues threadCount laneOf s Q) (p : TaskWorkerType) :
    (Q.filterMap (QueueEvent.startedIn p) ++ s.tasks p).Perm (Q.filterMap (QueueEvent.queuedTo p)) ∧
      (p.callbackFunction.takeDiscipline = .fifo →
        Q.filterMap (QueueEvent.startedIn p) ++ s.tasks p = Q.filterMap (QueueEvent.queuedTo p)) :=
  ⟨h.queuesExact.perm p, h.queuesExact.fifo p⟩

/-- A normal-priority push, then a high-priority one; a worker of the high lane takes. -/
def overtakeTrace : List Action :=
  [.submitTask .push ⟨.push, 1, none, some .normal⟩, .submitTask .push ⟨.push, 2, none, some .high⟩,
   .takeTask ⟨.push, 0⟩]

/-- The state `overtakeTrace` ends in, with what the deques saw. -/
def overtakeRun : Dispatcher × List QueueEvent :=
  (runQueues 1 (fun _ => .high) Dispatcher.init overtakeTrace).getD (Dispatcher.init, [])

theorem overtakeRun_reachable : ReachableQueues 1 (fun _ => .high) overtakeRun.1 overtakeRun.2 :=
  ReachableQueues.init.runQueues (show runQueues 1 (fun _ => .high) Dispatcher.init overtakeTrace =
    some overtakeRun from rfl)

theorem overtakeRun_conserve :
    ReachableQueues 1 (fun _ => .high) overtakeRun.1 overtakeRun.2 ∧
      (overtakeRun.2.filterMap (QueueEvent.startedIn .push) ++ overtakeRun.1.tasks .push).Perm
          (overtakeRun.2.filterMap (QueueEvent.queuedTo .push)) ∧
        (TaskWorkerType.push.callbackFunction.takeDiscipline = .fifo →
          overtakeRun.2.filterMap (QueueEvent.startedIn .push) ++ overtakeRun.1.tasks .push =
            overtakeRun.2.filterMap (QueueEvent.queuedTo .push)) :=
  ⟨overtakeRun_reachable, reachableQueues_conserve overtakeRun_reachable .push⟩

/-- The push pool is not first come, first served: the later, high-priority push starts
first. -/
example : overtakeRun.2.filterMap (QueueEvent.startedIn .push) = [⟨.push, 2, none, some .high⟩] ∧
    overtakeRun.1.tasks .push = [⟨.push, 1, none, some .normal⟩] := by
  decide

end Queues

end Dispatcher

end PaloAgent
