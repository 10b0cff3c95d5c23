import PaloAgent.Dispatch.Task
import Mathlib.Data.Finset.Basic

/-!
# The process-wide signature registry

`TaskWorkerPool` keeps four static maps shared by every pool: `_s_task_signatures`, the
signatures of each kind that are registered (queued or being executed), and for the push
fair-share scheduler the `uint32_t` counters `_s_running_task_user_count`,
`_s_total_task_user_count` and `_s_total_task_count`. `std::map::operator[]` creates a
missing entry with its default, so each map is a total function here, with `∅` and `0` as
the defaults.

The operations are `_record_task_info` (the admission gate of `submit_task`),
`_remove_task_info` (completion) and the `+= 1` on the running counter at the end of
`_get_next_task_index`. The counters are `uint32_t`: their arithmetic is taken mod `2^32`,
so a decrement of a zero counter wraps to `2^32 - 1` as in the source.
-/

namespace PaloAgent

/-- `c + 1` on a `uint32_t`. -/
def uint32Succ (c : Nat) : Nat := (c + 1) % 2 ^ 32

/-- `c - 1` on a `uint32_t`: `0 - 1` wraps to `2^32 - 1`. -/
def uint32Pred (c : Nat) : Nat := (c + (2 ^ 32 - 1)) % 2 ^ 32

/-- A counter that holds a count mod `2^32` holds the next count after `+= 1`. -/
theorem uint32Succ_mod (n : Nat) : uint32Succ (n % 2 ^ 32) = (n + 1) % 2 ^ 32 := by
  unfold uint32Succ; omega

/-- A counter that holds a positive count mod `2^32` holds the previous count after
`-= 1`. -/
theorem uint32Pred_succ_mod (n : Nat) : uint32Pred ((n + 1) % 2 ^ 32) = n % 2 ^ 32 := by
  unfold uint32Pred; omega

/-- The static maps of `TaskWorkerPool` that every pool shares. -/
structure Registry where
  taskSignatures : TTaskType → Finset Int
  runningTaskUserCount : TTaskType → String → Nat
  totalTaskUserCount : TTaskType → String → Nat
  totalTaskCount : TTaskType → Nat

/-- Apply `f` to the entry `[k][u]` of a `map<TTaskType, map<string, uint32_t>>`. -/
def modifyCount (m : TTaskType → String → Nat) (k : TTaskType) (u : String)
    (f : Nat → Nat) : TTaskType → String → Nat :=
  Function.update m k (Function.update (m k) u (f (m k u)))

@[simp] theorem modifyCount_apply (m : TTaskType → String → Nat) (k k' : TTaskType)
    (u u' : String) (f : Nat → Nat) :
    modifyCount m k u f k' u' = if k' = k ∧ u' = u then f (m k u) else m k' u' := by
  unfold modifyCount
  by_cases hk : k' = k <;> by_cases hu : u' = u <;> simp [hk, hu, Function.update_noteq]

namespace Registry

/-- The maps at boot: no signature registered and every counter zero. -/
def empty : Registry := ⟨fun _ => ∅, fun _ _ => 0, fun _ _ => 0, fun _ => 0⟩

/-- `_record_task_info`: under `_s_task_signatures_lock`, refuse a signature already
registered for the kind; otherwise insert it and, for a `PUSH` task, count it for its user
and in the kind's total. Returns `ret` and the new maps. -/
def recordTaskInfo (reg : Registry) (taskType : TTaskType) (signature : Int) (user : String) :
    Bool × Registry :=
  if signature ∈ reg.taskSignatures taskType then (false, reg)
  else
    (true,
      { reg with
        taskSignatures := Function.update reg.taskSignatures taskType
          (insert signature (reg.taskSignatures taskType))
        totalTaskUserCount := if taskType = .push then
          modifyCount reg.totalTaskUserCount taskType user uint32Succ
          else reg.totalTaskUserCount
        totalTaskCount := if taskType = .push then
          Function.update reg.totalTaskCount taskType (uint32Succ (reg.totalTaskCount taskType))
          else reg.totalTaskCount })

/-- `_remove_task_info`: erase the signature and, for a `PUSH` task, decrement the user's
total, the kind's total and the user's running count (each a `uint32_t` `-= 1`). -/
def removeTaskInfo (reg : Registry) (taskType : TTaskType) (signature : Int)
    (user : String) : Registry :=
  { taskSignatures := Function.update reg.taskSignatures taskType
      ((reg.taskSignatures taskType).erase signature)
    totalTaskUserCount := if taskType = .push then
      modifyCount reg.totalTaskUserCount taskType user uint32Pred
      else reg.totalTaskUserCount
    totalTaskCount := if taskType = .push then
      Function.update reg.totalTaskCount taskType (uint32Pred (reg.totalTaskCount taskType))
      else reg.totalTaskCount
    runningTaskUserCount := if taskType = .push then
      modifyCount reg.runningTaskUserCount taskType user uint32Pred
      else reg.runningTaskUserCount }

/-- The last statement of `_get_next_task_index`:
`_s_running_task_user_count[task_type][user] += 1`, for any kind. -/
def addRunningTask (reg : Registry) (taskType : TTaskType) (user : String) : Registry :=
  { reg with
    runningTaskUserCount := modifyCount reg.runningTaskUserCount taskType user uint32Succ }

/-! ### What each operation does to the signature sets -/

theorem recordTaskInfo_of_mem {reg : Registry} {k : TTaskType} {sig : Int} (u : String)
    (h : sig ∈ reg.taskSignatures k) : reg.recordTaskInfo k sig u = (false, reg) :=
  if_pos h

@[simp] theorem recordTaskInfo_fst (reg : Registry) (k : TTaskType) (sig : Int) (u : String) :
    (reg.recordTaskInfo k sig u).1 = decide (sig ∉ reg.taskSignatures k) := by
  unfold recordTaskInfo; split <;> simp [*]

/-- Registration inserts the signature into its kind's set (a no-op when it is there). -/
@[simp] theorem recordTaskInfo_taskSignatures (reg : Registry) (k k' : TTaskType) (sig : Int)
    (u : String) : (reg.recordTaskInfo k sig u).2.taskSignatures k' =
      if k' = k then insert sig (reg.taskSignatures k) else reg.taskSignatures k' := by
  unfold recordTaskInfo
  split
  · split <;> simp_all [Finset.insert_eq_of_mem]
  · rcases eq_or_ne k' k with rfl | hk <;> simp [*, Function.update_noteq]

@[simp] theorem removeTaskInfo_taskSignatures (reg : Registry) (k k' : TTaskType) (sig : Int)
    (u : String) : (reg.removeTaskInfo k sig u).taskSignatures k' =
      if k' = k then (reg.taskSignatures k).erase sig else reg.taskSignatures k' := by
  rcases eq_or_ne k' k with rfl | hk <;> simp [removeTaskInfo, *, Function.update_noteq]

@[simp] theorem addRunningTask_taskSignatures (reg : Registry) (k : TTaskType) (u : String) :
    (reg.addRunningTask k u).taskSignatures = reg.taskSignatures := rfl

/-! ### What each operation does to the counters -/

@[simp] theorem addRunningTask_runningTaskUserCount (reg : Registry) (k : TTaskType)
    (u : String) : (reg.addRunningTask k u).runningTaskUserCount =
      modifyCount reg.runningTaskUserCount k u uint32Succ := rfl

@[simp] theorem addRunningTask_totalTaskUserCount (reg : Registry) (k : TTaskType)
    (u : String) : (reg.addRunningTask k u).totalTaskUserCount = reg.totalTaskUserCount := rfl

@[simp] theorem addRunningTask_totalTaskCount (reg : Registry) (k : TTaskType) (u : String) :
    (reg.addRunningTask k u).totalTaskCount = reg.totalTaskCount := rfl

/-- Registration never touches the running counters. -/
@[simp] theorem recordTaskInfo_runningTaskUserCount (reg : Registry) (k : TTaskType)
    (sig : Int) (u : String) :
    (reg.recordTaskInfo k sig u).2.runningTaskUserCount = reg.runningTaskUserCount := by
  unfold recordTaskInfo; split <;> rfl

@[simp] theorem removeTaskInfo_runningTaskUserCount (reg : Registry) (k : TTaskType)
    (sig : Int) (u : String) : (reg.removeTaskInfo k sig u).runningTaskUserCount =
      if k = .push then modifyCount reg.runningTaskUserCount k u uint32Pred
      else reg.runningTaskUserCount := by
  rfl

@[simp] theorem recordTaskInfo_totalTaskUserCount (reg : Registry) (k : TTaskType)
    (sig : Int) (u : String) : (reg.recordTaskInfo k sig u).2.totalTaskUserCount =
      if sig ∉ reg.taskSignatures k ∧ k = .push then
        modifyCount reg.totalTaskUserCount k u uint32Succ
      else reg.totalTaskUserCount := by
  unfold recordTaskInfo; split <;> simp [*]

@[simp] theorem recordTaskInfo_totalTaskCount (reg : Registry) (k : TTaskType) (sig : Int)
    (u : String) : (reg.recordTaskInfo k sig u).2.totalTaskCount =
      if sig ∉ reg.taskSignatures k ∧ k = .push then
        Function.update reg.totalTaskCount k (uint32Succ (reg.totalTaskCount k))
      else reg.totalTaskCount := by
  unfold recordTaskInfo; split <;> simp [*]

@[simp] theorem removeTaskInfo_totalTaskUserCount (reg : Registry) (k : TTaskType)
    (sig : Int) (u : String) : (reg.removeTaskInfo k sig u).totalTaskUserCount =
      if k = .push then modifyCount reg.totalTaskUserCount k u uint32Pred
      else reg.totalTaskUserCount := by
  rfl

@[simp] theorem removeTaskInfo_totalTaskCount (reg : Registry) (k : TTaskType) (sig : Int)
    (u : String) : (reg.removeTaskInfo k sig u).totalTaskCount =
      if k = .push then Function.update reg.totalTaskCount k (uint32Pred (reg.totalTaskCount k))
      else reg.totalTaskCount := by
  rfl

/-! ### The counters as counts -/

/-- The `PUSH` totals of `reg` count `users`, one entry per registered `PUSH` request,
mod `2^32`. -/
structure TotalsCount (reg : Registry) (users : Multiset String) : Prop where
  user_eq : ∀ u, reg.totalTaskUserCount .push u = users.count u % 2 ^ 32
  total_eq : reg.totalTaskCount .push = Multiset.card users % 2 ^ 32

/-- The running counters of `reg` count `running`, one (kind, user) entry per running task,
mod `2^32`. -/
def RunningCount (reg : Registry) (running : Multiset (TTaskType × String)) : Prop :=
  ∀ k u, reg.runningTaskUserCount k u = running.count (k, u) % 2 ^ 32

section Counts

variable {reg : Registry} {users : Multiset String} {running : Multiset (TTaskType × String)}
  {k : TTaskType} {sig : Int} {u : String}

/-- Registering a new `PUSH` request counts its user. -/
theorem TotalsCount.recordTaskInfo_push (h : reg.TotalsCount users)
    (hsig : sig ∉ reg.taskSignatures .push) (u : String) :
    (reg.recordTaskInfo .push sig u).2.TotalsCount (u ::ₘ users) := by
  refine ⟨fun v => ?_, ?_⟩
  · rw [recordTaskInfo_totalTaskUserCount, if_pos ⟨hsig, rfl⟩, modifyCount_apply]
    by_cases hv : v = u
    · subst hv
      rw [if_pos ⟨rfl, rfl⟩, h.user_eq, uint32Succ_mod, Multiset.count_cons_self]
    · rw [if_neg (fun h => hv h.2), h.user_eq, Multiset.count_cons_of_ne hv]
  · rw [recordTaskInfo_totalTaskCount, if_pos ⟨hsig, rfl⟩, Function.update_same, h.total_eq,
      uint32Succ_mod, Multiset.card_cons]

/-- Registering anything else leaves the totals alone. -/
theorem TotalsCount.recordTaskInfo_of_not_push (h : reg.TotalsCount users)
    (hk : ¬(sig ∉ reg.taskSignatures k ∧ k = .push)) (u : String) :
    (reg.recordTaskInfo k sig u).2.TotalsCount users :=
  ⟨fun v => by rw [recordTaskInfo_totalTaskUserCount, if_neg hk, h.user_eq],
    by rw [recordTaskInfo_totalTaskCount, if_neg hk, h.total_eq]⟩

/-- Removing a `PUSH` request under its own user uncounts that user. -/
theorem TotalsCount.removeTaskInfo_push (h : reg.TotalsCount (u ::ₘ users)) (sig : Int) :
    (reg.removeTaskInfo .push sig u).TotalsCount users := by
  refine ⟨fun v => ?_, ?_⟩
  · rw [removeTaskInfo_totalTaskUserCount, if_pos rfl, modifyCount_apply]
    by_cases hv : v = u
    · subst hv
      rw [if_pos ⟨rfl, rfl⟩, h.user_eq, Multiset.count_cons_self, uint32Pred_succ_mod]
    · rw [if_neg (fun h => hv h.2), h.user_eq, Multiset.count_cons_of_ne hv]
  · rw [removeTaskInfo_totalTaskCount, if_pos rfl, Function.update_same, h.total_eq,
      Multiset.card_cons, uint32Pred_succ_mod]

theorem TotalsCount.removeTaskInfo_of_ne (h : reg.TotalsCount users) (hk : k ≠ .push)
    (sig : Int) (u : String) : (reg.removeTaskInfo k sig u).TotalsCount users :=
  ⟨fun v => by rw [removeTaskInfo_totalTaskUserCount, if_neg hk, h.user_eq],
    by rw [removeTaskInfo_totalTaskCount, if_neg hk, h.total_eq]⟩

@[simp] theorem totalsCount_addRunningTask (k : TTaskType) (u : String) :
    (reg.addRunningTask k u).TotalsCount users ↔ reg.TotalsCount users :=
  ⟨fun h => ⟨h.1, h.2⟩, fun h => ⟨h.1, h.2⟩⟩

/-- A selection counts one more running task. -/
theorem RunningCount.addRunningTask (h : reg.RunningCount running) (k : TTaskType) (u : String) :
    (reg.addRunningTask k u).RunningCount ((k, u) ::ₘ running) := fun k' u' => by
  rw [addRunningTask_runningTaskUserCount, modifyCount_apply]
  by_cases hk : k' = k ∧ u' = u
  · obtain ⟨rfl, rfl⟩ := hk
    rw [if_pos ⟨rfl, rfl⟩, h, uint32Succ_mod, Multiset.count_cons_self]
  · rw [if_neg hk, h, Multiset.count_cons_of_ne (fun h => hk (Prod.mk.inj h))]

/-- Removing a `PUSH` request under its own user uncounts one running `PUSH` task of it. -/
theorem RunningCount.removeTaskInfo_push (h : reg.RunningCount ((.push, u) ::ₘ running))
    (sig : Int) : (reg.removeTaskInfo .push sig u).RunningCount running := fun k' u' => by
  rw [removeTaskInfo_runningTaskUserCount, if_pos rfl, modifyCount_apply]
  by_cases hk : k' = .push ∧ u' = u
  · obtain ⟨rfl, rfl⟩ := hk
    rw [if_pos ⟨rfl, rfl⟩, h, Multiset.count_cons_self, uint32Pred_succ_mod]
  · rw [if_neg hk, h, Multiset.count_cons_of_ne (fun h => hk (Prod.mk.inj h))]

theorem RunningCount.removeTaskInfo_of_ne (h : reg.RunningCount running) (hk : k ≠ .push)
    (sig : Int) (u : String) : (reg.removeTaskInfo k sig u).RunningCount running := by
  rw [RunningCount, removeTaskInfo_runningTaskUserCount, if_neg hk]; exact h

@[simp] theorem runningCount_recordTaskInfo (k : TTaskType) (sig : Int) (u : String) :
    (reg.recordTaskInfo k sig u).2.RunningCount running ↔ reg.RunningCount running := by
  simp only [RunningCount, recordTaskInfo_runningTaskUserCount]

end Counts

end Registry

end PaloAgent
