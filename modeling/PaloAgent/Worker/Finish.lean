import PaloAgent.Dispatch.Task
import PaloAgent.Files.CppString
import PaloAgent.Report.ReportVersion

/-!
# Finish requests of the task handlers

Every handler of a pool ends by sending the coordinator a `TFinishTaskRequest` through
`_finish_task` and then calling `_remove_task_info`. The request carries a `TStatus` (a
status code and error messages) and, depending on the handler, the tablet infos it
produced, the report version, a snapshot path or a checksum.

Seven handlers make one engine call and report `OK` when it returns `OLAP_SUCCESS` and
`RUNTIME_ERROR` otherwise: **the engine-call family**. They differ only in the messages
they attach to a failure and in the fields they add to the request, so they share one
definition, `engineCallStatus`, and one lemma; each keeps its own definition under its
source name. `create_table` is the one member that also moves `_s_report_version`: like
every handler that mutates tablets, it increments the counter after a success and then
reads it into its request (`reportVersionAfter`).

`TaskWorkerPool.finishTask` is the delivery loop of `_finish_task`, which gives up after
`TASK_FINISH_MAX_RETRY` failed calls.

The engine's answers are inputs: an `OLAPStatus` for each call, and for
`report_tablet_info`, which `_get_tablet_info` calls, the tablet info it fills in or
`none` when it fails.
-/

namespace PaloAgent

/-- `OLAPStatus`: `OLAP_SUCCESS` or a failure with its code; the handlers tell only these
apart, and print the code. -/
inductive OLAPStatus
  | olapSuccess
  | failure (code : Int)
  deriving DecidableEq, Repr

/-- The `TStatusCode` values the handlers report. -/
inductive TStatusCode
  | ok
  | runtimeError
  | analysisError
  deriving DecidableEq, Repr

/-- `TStatus`: the status code and error messages of a finish request. -/
structure TStatus where
  statusCode : TStatusCode
  errorMsgs : List (List Char)
  deriving DecidableEq, Repr

/-- The `TTabletInfo` fields the handlers read: the version the engine reports. -/
structure TTabletInfo where
  version : Int
  versionHash : Int
  deriving DecidableEq, Repr

/-- The fields of `TFinishTaskRequest` the handlers set; an unset optional field is `none`.
`backend` is the same in every request and left out. -/
structure TFinishTaskRequest where
  taskType : TTaskType
  signature : Int
  taskStatus : TStatus
  reportVersion : Option Nat
  finishTabletInfos : Option (List TTabletInfo)
  snapshotPath : Option (List Char)
  tabletChecksum : Option Int
  requestVersion : Option Int
  requestVersionHash : Option Int
  deriving DecidableEq, Repr

/-- A finish request with only the fields every handler sets. -/
def TFinishTaskRequest.basic (taskType : TTaskType) (signature : Int) (taskStatus : TStatus) :
    TFinishTaskRequest :=
  ⟨taskType, signature, taskStatus, none, none, none, none, none, none⟩

/-- A default-constructed `TFinishTaskRequest`: each enum field holds its first value
(`TTaskType::CREATE`, `TStatusCode::OK`), the signature is `0`, there is no error message,
and no optional field is set. -/
def TFinishTaskRequest.default : TFinishTaskRequest :=
  .basic .createTable 0 ⟨.ok, []⟩

/-- `_drop_table`: `PALO_ERROR` unless the engine's `drop_table` succeeds. -/
def dropTable : OLAPStatus → AgentStatus
  | .olapSuccess => .paloSuccess
  | .failure _ => .paloError

/-! ### The engine-call family -/

/-- The status of a handler that makes one engine call: `OK` with no message when it
succeeds, `RUNTIME_ERROR` with `failureMsgs code` when it fails with `code`. -/
def engineCallStatus (failureMsgs : Int → List (List Char)) : OLAPStatus → TStatus
  | .olapSuccess => ⟨.ok, []⟩
  | .failure code => ⟨.runtimeError, failureMsgs code⟩

/-- `_create_table_worker_thread_callback`: no message on a failure. -/
def createTableStatus : OLAPStatus → TStatus := engineCallStatus fun _ => []

/-- `_drop_table_worker_thread_callback`, through `_drop_table`. -/
def dropTableStatus (drop : OLAPStatus) : TStatus :=
  if dropTable drop ≠ .paloSuccess then ⟨.runtimeError, ["drop table failed!".toList]⟩
  else ⟨.ok, []⟩

/-- `_storage_medium_migrate_worker_thread_callback`: no message on a failure. -/
def storageMediumMigrateStatus : OLAPStatus → TStatus := engineCallStatus fun _ => []

/-- `_cancel_delete_data_worker_thread_callback`: no message on a failure. -/
def cancelDeleteDataStatus : OLAPStatus → TStatus := engineCallStatus fun _ => []

/-- `_check_consistency_worker_thread_callback`: no message on a failure. -/
def checkConsistencyStatus : OLAPStatus → TStatus := engineCallStatus fun _ => []

/-- `_make_snapshot_thread_callback`: the failure's code in the message. -/
def makeSnapshotStatus : OLAPStatus → TStatus :=
  engineCallStatus fun code => ["make_snapshot failed. status: ".toList ++ decimal code]

/-- `_release_snapshot_thread_callback`: the failure's code in the message. -/
def releaseSnapshotStatus : OLAPStatus → TStatus :=
  engineCallStatus fun code => ["release_snapshot failed. status: ".toList ++ decimal code]

/-- **The engine-call family reports the engine's outcome**: `OK` exactly when the call
succeeded, and then with no message; otherwise `RUNTIME_ERROR` with the member's failure
messages. -/
theorem engineCallStatus_eq_ok_iff (failureMsgs : Int → List (List Char)) (s : OLAPStatus) :
    (engineCallStatus failureMsgs s).statusCode = .ok ↔ s = .olapSuccess := by
  cases s <;> simp [engineCallStatus]

/-- `drop_table` reports through `_drop_table` as the family does, with one fixed
message. -/
theorem dropTableStatus_eq (drop : OLAPStatus) :
    dropTableStatus drop = engineCallStatus (fun _ => ["drop table failed!".toList]) drop := by
  cases drop <;> rfl

/-! ### The report version of a mutating handler -/

/-- `if (ok) ++_s_report_version;` then `__set_report_version(_s_report_version)`, with the
counter at `reportVersion` and no other thread in between. -/
def reportVersionAfter (ok : Bool) (reportVersion : Nat) : Nat :=
  if ok then uint64Succ reportVersion else reportVersion

/-- The finish request of `_create_table_worker_thread_callback`, with the counter at
`reportVersion` when its engine call returns. -/
def createTableFinish (taskType : TTaskType) (signature : Int) (create : OLAPStatus)
    (reportVersion : Nat) : TFinishTaskRequest :=
  { TFinishTaskRequest.basic taskType signature (createTableStatus create) with
    reportVersion := some (reportVersionAfter (create = .olapSuccess) reportVersion) }

/-- The finish request of `_make_snapshot_thread_callback`: the snapshot path the engine
wrote, empty when it wrote none. -/
def makeSnapshotFinish (taskType : TTaskType) (signature : Int) (make : OLAPStatus)
    (snapshotPath : List Char) : TFinishTaskRequest :=
  { TFinishTaskRequest.basic taskType signature (makeSnapshotStatus make) with
    snapshotPath := some snapshotPath }

/-- The finish request of `_check_consistency_worker_thread_callback`: the checksum
(`0` unless the engine wrote one) and the version checked. -/
def checkConsistencyFinish (taskType : TTaskType) (signature : Int) (compute : OLAPStatus)
    (checksum : Nat) (version versionHash : Int) : TFinishTaskRequest :=
  { TFinishTaskRequest.basic taskType signature (checkConsistencyStatus compute) with
    tabletChecksum := some (checksum % 2 ^ 32)
    requestVersion := some version
    requestVersionHash := some versionHash }

/-! ### Sending the finish request -/

/-- `TASK_FINISH_MAX_RETRY`. -/
def taskFinishMaxRetry : Nat := 3

/-- The loop of `_finish_task`: call `_master_client->finish_task`, whose call number `i`
returns `clientStatus i`, until a call succeeds, while `try_time < TASK_FINISH_MAX_RETRY`;
`fuel` is `TASK_FINISH_MAX_RETRY - try_time`. The number of calls made, and whether one
succeeded. -/
def TaskWorkerPool.finishTask (clientStatus : Nat → AgentStatus) (tryTime : Nat) :
    Nat → Nat × Bool
  | 0 => (tryTime, false)
  | fuel + 1 =>
    if clientStatus tryTime = .paloSuccess then (tryTime + 1, true)
    else TaskWorkerPool.finishTask clientStatus (tryTime + 1) fuel

end PaloAgent
