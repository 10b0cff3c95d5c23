import Mathlib.Data.Fintype.Basic
import Mathlib.Tactic.DeriveFintype

/-!
# Task requests, worker pools and their callbacks

The backend agent receives `TAgentTaskRequest`s from the coordinator and hands each to the
`TaskWorkerPool` of its kind. This module fixes the data the dispatcher reads from a
request (its `task_type`, `signature`, optional `resource_info.user` and optional
`priority`) and the routing of `TaskWorkerPool::start`: which callback a pool's workers
run, and how that callback takes a task from the pool's `_tasks` deque.

The per-kind payloads (`create_tablet_req`, `push_req`, …) are handed to the engine and
modelled where a worker reads them (`PaloAgent.Worker`). The generated thrift enums and
`agent/status.h` are not part of the source, so `TTaskType` lists the task kinds the pools
handle and `AgentStatus` the values this file uses.
-/

namespace PaloAgent

/-- The task kinds of the coordinator protocol. The generated `TTaskType` enum is not in
the source; its first value, `CREATE` (`createTable`), is what a default-constructed
request holds. Only `PUSH`, `SCHEMA_CHANGE` and `ROLLUP` are compared against by the code;
the other kinds are registry keys. -/
inductive TTaskType
  | createTable | dropTable | push | delete | schemaChange | rollup | clone
  | storageMediumMigrate | cancelDeleteData | checkConsistency | makeSnapshot
  | releaseSnapshot | upload | restore
  deriving DecidableEq, Repr, Inhabited

/-- `AgentStatus`: the values this file compares against or returns, and `other` for any
further value a helper outside it (the `Pusher`) may return. -/
inductive AgentStatus
  | paloSuccess
  | paloError
  | paloTaskRequestError
  | paloCreateTableExist
  | other (code : Int)
  deriving DecidableEq, Repr

/-- `TPriority`: the priority a request may carry, and the lane of a push worker. -/
inductive TPriority
  | normal | high
  deriving DecidableEq, Repr, Inhabited

/-- The `resource_info` of a request; the dispatcher reads only its `user`. -/
structure TResourceInfo where
  user : String
  deriving DecidableEq, Repr, Inhabited

/-- The fields of `TAgentTaskRequest` the dispatcher reads. An optional thrift field is an
`Option`: `__isset.resource_info` is `resourceInfo.isSome`. -/
structure TAgentTaskRequest where
  taskType : TTaskType
  signature : Int
  resourceInfo : Option TResourceInfo
  priority : Option TPriority
  deriving DecidableEq, Repr, Inhabited

namespace TAgentTaskRequest

/-- The user `submit_task` and the push callback attach to a request: `resource_info.user`
when `resource_info` is set, `""` otherwise. -/
def user (task : TAgentTaskRequest) : String :=
  match task.resourceInfo with
  | some info => info.user
  | none => ""

/-- The registry key of a request: its kind and signature. -/
def key (task : TAgentTaskRequest) : TTaskType × Int :=
  (task.taskType, task.signature)

@[simp] theorem user_some (t : TTaskType) (s : Int) (u : String) (p : Option TPriority) :
    user ⟨t, s, some ⟨u⟩, p⟩ = u := rfl

@[simp] theorem user_none (t : TTaskType) (s : Int) (p : Option TPriority) :
    user ⟨t, s, none, p⟩ = "" := rfl

end TAgentTaskRequest

/-- The `TaskWorkerType` of a pool: the cases of the switch in `TaskWorkerPool::start`. -/
inductive TaskWorkerType
  | createTable | dropTable | push | delete | alterTable | clone | storageMediumMigrate
  | cancelDeleteData | checkConsistency | reportTask | reportDiskState | reportOlapTable
  | upload | restore | makeSnapshot | releaseSnapshot
  deriving DecidableEq, Repr, Inhabited, Fintype

/-- A worker thread: its pool and its number in the pool. -/
structure Worker where
  pool : TaskWorkerType
  id : Nat
  deriving DecidableEq, Repr

/-- The thread callbacks a pool's workers run. -/
inductive CallbackFunction
  | createTable | dropTable | push | alterTable | clone | storageMediumMigrate
  | cancelDeleteData | checkConsistency | reportTask | reportDiskState | reportOlapTable
  | upload | restore | makeSnapshot | releaseSnapshot
  deriving DecidableEq, Repr

/-- `_callback_function` as `TaskWorkerPool::start` sets it: the `PUSH` and `DELETE` pools
both run `_push_worker_thread_callback`. -/
def TaskWorkerType.callbackFunction : TaskWorkerType → CallbackFunction
  | .createTable => .createTable
  | .dropTable => .dropTable
  | .push => .push
  | .delete => .push
  | .alterTable => .alterTable
  | .clone => .clone
  | .storageMediumMigrate => .storageMediumMigrate
  | .cancelDeleteData => .cancelDeleteData
  | .checkConsistency => .checkConsistency
  | .reportTask => .reportTask
  | .reportDiskState => .reportDiskState
  | .reportOlapTable => .reportOlapTable
  | .upload => .upload
  | .restore => .restore
  | .makeSnapshot => .makeSnapshot
  | .releaseSnapshot => .releaseSnapshot

/-- How a callback takes work from its pool's `_tasks`: the generic loops wait until the
deque is non-empty and `pop_front`; the push callback selects an index with
`_get_next_task_index` and erases it; the three reporters never read `_tasks`. -/
inductive TakeDiscipline
  | fifo | push | none
  deriving DecidableEq, Repr

/-- The take discipline of each callback. -/
def CallbackFunction.takeDiscipline : CallbackFunction → TakeDiscipline
  | .push => .push
  | .reportTask | .reportDiskState | .reportOlapTable => .none
  | _ => .fifo

/-- The user a worker passes to `_remove_task_info` when it completes `task`: the push
callback passes the `user` it read from the request, every other callback passes `""`. -/
def CallbackFunction.removeUser (callback : CallbackFunction) (task : TAgentTaskRequest) :
    String :=
  if callback = .push then task.user else ""

/-- The configuration knobs `TaskWorkerPool::start` reads for the worker counts. -/
structure WorkerConfig where
  createTableWorkerCount : Nat
  dropTableWorkerCount : Nat
  pushWorkerCountNormalPriority : Nat
  pushWorkerCountHighPriority : Nat
  deleteWorkerCount : Nat
  alterTableWorkerCount : Nat
  cloneWorkerCount : Nat
  storageMediumMigrateCount : Nat
  cancelDeleteDataWorkerCount : Nat
  checkConsistencyWorkerCount : Nat
  uploadWorkerCount : Nat
  restoreWorkerCount : Nat
  makeSnapshotWorkerCount : Nat
  releaseSnapshotWorkerCount : Nat
  deriving Inhabited

/-- `_worker_count` as `TaskWorkerPool::start` sets it; each reporter pool has one worker
(`REPORT_*_WORKER_COUNT = 1`). -/
def WorkerConfig.workerCount (config : WorkerConfig) : TaskWorkerType → Nat
  | .createTable => config.createTableWorkerCount
  | .dropTable => config.dropTableWorkerCount
  | .push => config.pushWorkerCountNormalPriority + config.pushWorkerCountHighPriority
  | .delete => config.deleteWorkerCount
  | .alterTable => config.alterTableWorkerCount
  | .clone => config.cloneWorkerCount
  | .storageMediumMigrate => config.storageMediumMigrateCount
  | .cancelDeleteData => config.cancelDeleteDataWorkerCount
  | .checkConsistency => config.checkConsistencyWorkerCount
  | .reportTask => 1
  | .reportDiskState => 1
  | .reportOlapTable => 1
  | .upload => config.uploadWorkerCount
  | .restore => config.restoreWorkerCount
  | .makeSnapshot => config.makeSnapshotWorkerCount
  | .releaseSnapshot => config.releaseSnapshotWorkerCount

/-- The `thread_count` the push callback passes to `_get_next_task_index`, in both pools
that run it. -/
def WorkerConfig.pushThreadCount (config : WorkerConfig) : Nat :=
  config.pushWorkerCountNormalPriority + config.pushWorkerCountHighPriority

end PaloAgent
