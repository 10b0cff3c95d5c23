import PaloAgent.Dispatch.Task

/-!
# Worker lanes at start-up

`_push_worker_thread_callback` first chooses its lane: holding its own pool's
`_worker_thread_lock`, it reads the function-static `uint32_t s_worker_count` and, while
that is below `push_worker_count_high_priority`, increments it and takes the HIGH lane.
`TaskWorkerPool::start` runs this callback for the `PUSH` pool and for the `DELETE` pool,
so both pools' workers draw from the one static counter, each under a different lock.

Each worker's start-up is one atomic step here, and an interleaving is the order in which
the spawned workers reach it. `startLanes_high_eq_take` is the result for every order:
the workers that get the HIGH lane are the first `push_worker_count_high_priority` to
start, whichever pool each belongs to.
-/

namespace PaloAgent

/-- One worker's start-up: its lane and the new `s_worker_count`. -/
def laneAtStart (highCount sWorkerCount : Nat) : TPriority × Nat :=
  if sWorkerCount < highCount then (.high, sWorkerCount + 1) else (.normal, sWorkerCount)

/-- The lanes the workers get when they start in the order `order`, the counter starting
at `sWorkerCount`. -/
def startLanes (highCount : Nat) : Nat → List Worker → List (Worker × TPriority)
  | _, [] => []
  | sWorkerCount, w :: order =>
    (w, (laneAtStart highCount sWorkerCount).1) ::
      startLanes highCount (laneAtStart highCount sWorkerCount).2 order

/-- The workers `start()` spawns for the two pools that run the push callback. -/
def pushCallbackWorkers (config : WorkerConfig) : List Worker :=
  (List.range (config.workerCount .push)).map (⟨.push, ·⟩) ++
    (List.range (config.workerCount .delete)).map (⟨.delete, ·⟩)

/-- **The HIGH workers are the first to start.** In any start order, the workers that get
the HIGH lane are the first `push_worker_count_high_priority` to start, from either pool. -/
theorem startLanes_high_eq_take (highCount c : Nat) (order : List Worker) :
    ((startLanes highCount c order).filter (·.2 = .high)).map Prod.fst =
      order.take (highCount - c) := by
  induction order generalizing c with
  | nil => simp [startLanes]
  | cons w order ih =>
    rw [startLanes, laneAtStart]
    by_cases h : c < highCount
    · rw [show highCount - c = highCount - (c + 1) + 1 by omega]
      simp [h, ih]
    · simp only [h, if_false]
      rw [List.filter_cons_of_neg (by simp), ih, show highCount - c = 0 by omega]
      rfl

/-- One NORMAL and one HIGH worker for `PUSH`, one worker for `DELETE`. -/
def laneConfig : WorkerConfig :=
  { (default : WorkerConfig) with
    pushWorkerCountNormalPriority := 1
    pushWorkerCountHighPriority := 1
    deleteWorkerCount := 1 }

/-- When every PUSH-pool worker starts before every DELETE-pool worker, the HIGH lanes go
to the first `push_worker_count_high_priority` PUSH workers and to no DELETE worker. -/
theorem startLanes_push_first (config : WorkerConfig) {pushOrder deleteOrder : List Worker}
    (hpush : pushOrder.Perm ((List.range (config.workerCount .push)).map (⟨.push, ·⟩))) :
    ((startLanes config.pushWorkerCountHighPriority 0 (pushOrder ++ deleteOrder)).filter
        (·.2 = .high)).map Prod.fst = pushOrder.take config.pushWorkerCountHighPriority := by
  rw [startLanes_high_eq_take, Nat.sub_zero, List.take_append_of_le_length]
  rw [hpush.length_eq]
  simp [WorkerConfig.workerCount]

theorem startLanes_push_first_sample :
    ([⟨.push, 1⟩, ⟨.push, 0⟩] : List Worker).Perm
        ((List.range (laneConfig.workerCount .push)).map (⟨.push, ·⟩)) ∧
      ((startLanes laneConfig.pushWorkerCountHighPriority 0
          ([⟨.push, 1⟩, ⟨.push, 0⟩] ++ [⟨.delete, 0⟩])).filter (·.2 = .high)).map Prod.fst =
        ([⟨.push, 1⟩, ⟨.push, 0⟩] : List Worker).take laneConfig.pushWorkerCountHighPriority :=
  have h : ([⟨.push, 1⟩, ⟨.push, 0⟩] : List Worker).Perm
      ((List.range (laneConfig.workerCount .push)).map (⟨.push, ·⟩)) := by decide
  ⟨h, startLanes_push_first laneConfig h⟩

/-- **The DELETE pool can take the HIGH lane.** When the DELETE worker reaches the counter
first, it takes the one HIGH lane: both PUSH workers run NORMAL, and the DELETE pool has
only a HIGH-lane worker. -/
theorem startLanes_delete_first :
    [⟨.delete, 0⟩, ⟨.push, 0⟩, ⟨.push, 1⟩].Perm (pushCallbackWorkers laneConfig) ∧
      startLanes laneConfig.pushWorkerCountHighPriority 0
          [⟨.delete, 0⟩, ⟨.push, 0⟩, ⟨.push, 1⟩] =
        [(⟨.delete, 0⟩, .high), (⟨.push, 0⟩, .normal), (⟨.push, 1⟩, .normal)] := by
  decide

end PaloAgent
