import PaloAgent.Worker.Finish

/-!
# Schema changes and rollups

`_alter_table_worker_thread_callback` hands `SCHEMA_CHANGE` and `ROLLUP` requests to
`_alter_table`, which runs in four steps:

* it asks the engine for the state of the last alter of the base tablet; after a failed
  one it first drops the new tablet that alter left behind;
* unless the last alter is still running, it runs the rollup or schema change;
* after a success it increments `_s_report_version`, and reads the counter into the finish
  request in every case;
* after a success it reads the new tablet's info, and reports `OK` with it, or
  `RUNTIME_ERROR` (`ANALYSIS_ERROR` for a task type it does not know).

`runAlter` is everything up to the increment, `alterTable` the whole function and
`alterTableCallback` the callback, which sends a default-constructed request for any other
task type. Two things the model shows about the code:

* the comment before the drop says its outcome need not be checked, since a failed drop
  makes the alter fail; the code checks it, and after a failed drop it skips the alter
  (`runAlter_altered`);
* the `ANALYSIS_ERROR` branch of `_alter_table` is dead, and a task of any other type is
  answered with a request for task type `CREATE` and signature `0`, reported `OK`
  (`alterTableCallback_finish`).
-/

namespace PaloAgent

/-- `AlterTableStatus`: the state of a tablet's last schema change or rollup. -/
inductive AlterTableStatus
  | waiting
  | running
  | done
  | failed
  deriving DecidableEq, Repr

/-- The engine's answers to `_alter_table`: `show_alter_table_status` of the base tablet,
`drop_table` of the new tablet, `create_rollup_table` or `schema_change`, and the new
tablet's info from `report_tablet_info` (`none` when it fails). -/
structure AlterEngine where
  alterTableStatus : AlterTableStatus
  dropTable : OLAPStatus
  alter : OLAPStatus
  tabletInfo : Option TTabletInfo

/-- `process_name`: the two task types `_alter_table` knows. -/
def processName : TTaskType → Option (List Char)
  | .rollup => some "roll up".toList
  | .schemaChange => some "schema change".toList
  | _ => none

/-- `_alter_table` up to the increment: the status, the messages, and whether it dropped
the failed alter's tablet and ran the alter. -/
structure AlterRun where
  status : AgentStatus
  errorMsgs : List (List Char)
  dropped : Bool
  altered : Bool

/-- Check the last alter, drop its tablet after a failure, and run this alter unless the
last one is still running. -/
def runAlter (signature : Int) (taskType : TTaskType) (engine : AlterEngine) : AlterRun :=
  match processName taskType with
  | none => ⟨.paloTaskRequestError, [], false, false⟩
  | some _ =>
    let dropped := engine.alterTableStatus = .failed
    let (status, errorMsgs) : AgentStatus × List (List Char) :=
      if dropped then
        if dropTable engine.dropTable ≠ .paloSuccess then
          (dropTable engine.dropTable,
            ["delete failed rollup file failed, signature: ".toList ++ decimal signature])
        else (.paloSuccess, [])
      else (.paloSuccess, [])
    let altered := status = .paloSuccess ∧ (engine.alterTableStatus = .done ∨
      engine.alterTableStatus = .failed ∨ engine.alterTableStatus = .waiting)
    ⟨if altered ∧ engine.alter ≠ .olapSuccess then .paloError else status, errorMsgs, dropped,
      altered⟩

/-- What `_alter_table` did and the finish request it filled in, with the counter at
`reportVersion` when the alter returned; `printAgentStatus` is
`AgentUtils::print_agent_status`, defined outside this file. -/
structure AlterOutcome where
  run : AlterRun
  finish : TFinishTaskRequest

/-- `TaskWorkerPool::_alter_table`. -/
def alterTable (printAgentStatus : AgentStatus → List Char) (signature : Int)
    (taskType : TTaskType) (engine : AlterEngine) (reportVersion : Nat) : AlterOutcome :=
  let r := runAlter signature taskType engine
  let processName := (processName taskType).getD []
  let reportVersion := reportVersionAfter (r.status = .paloSuccess) reportVersion
  let request := TFinishTaskRequest.basic taskType signature
  let finish : TFinishTaskRequest :=
    if r.status = .paloSuccess then
      match engine.tabletInfo with
      | some info => { request ⟨.ok, r.errorMsgs ++ [processName ++ " success".toList]⟩ with
          reportVersion := some reportVersion
          finishTabletInfos := some [info] }
      | none => { request ⟨.runtimeError, r.errorMsgs ++
            [processName ++ " failed".toList, "status: ".toList ++ printAgentStatus .paloError]⟩ with
          reportVersion := some reportVersion }
    else if r.status = .paloTaskRequestError then
      { request ⟨.analysisError,
          r.errorMsgs ++ ["alter table request new tablet id or schema count invalid.".toList]⟩ with
        reportVersion := some reportVersion }
    else
      { request ⟨.runtimeError, r.errorMsgs ++
          [processName ++ " failed".toList, "status: ".toList ++ printAgentStatus r.status]⟩ with
        reportVersion := some reportVersion }
  ⟨r, finish⟩

/-! ### The alter step -/

section Run

variable {signature : Int} {taskType : TTaskType} {engine : AlterEngine}

/-- A known task type never ends the alter step with `PALO_TASK_REQUEST_ERROR`. -/
theorem runAlter_status_ne_taskRequestError (h : (processName taskType).isSome) :
    (runAlter signature taskType engine).status ≠ .paloTaskRequestError := by
  obtain ⟨name, hname⟩ := Option.isSome_iff_exists.mp h
  unfold runAlter
  rw [hname]
  cases engine.alterTableStatus <;> cases engine.dropTable <;> cases engine.alter <;>
    simp [dropTable]

/-- **A failed drop skips the alter.** The alter is run exactly for a known task type
whose last alter is not running, and, when the last alter failed, only after its tablet
was dropped: contrary to the comment before the drop, a failed drop is not left for the
alter to fail on. -/
theorem runAlter_altered :
    (runAlter signature taskType engine).altered = true ↔
      (processName taskType).isSome ∧ engine.alterTableStatus ≠ .running ∧
      (engine.alterTableStatus = .failed → engine.dropTable = .olapSuccess) := by
  unfold runAlter
  cases processName taskType with
  | none => simp
  | some _ =>
    cases engine.alterTableStatus <;> cases engine.dropTable <;> simp [dropTable]

end Run

/-! ### The whole function -/

section Outcome

variable {printAgentStatus : AgentStatus → List Char} {signature : Int} {taskType : TTaskType}
  {engine : AlterEngine} {reportVersion : Nat}

/-- The status code `_alter_table` reports: `OK` after a successful alter step whose new
tablet's info can be read, `ANALYSIS_ERROR` for a task type it does not know, and
`RUNTIME_ERROR` otherwise. -/
theorem alterTable_statusCode :
    (alterTable printAgentStatus signature taskType engine reportVersion).finish.taskStatus.statusCode =
      if (runAlter signature taskType engine).status = .paloSuccess ∧ engine.tabletInfo.isSome
      then .ok
      else if (runAlter signature taskType engine).status = .paloTaskRequestError
      then .analysisError else .runtimeError := by
  dsimp only [alterTable]
  by_cases hs : (runAlter signature taskType engine).status = .paloSuccess
  · cases engine.tabletInfo <;> simp [hs, TFinishTaskRequest.basic]
  · split_ifs <;> simp_all [TFinishTaskRequest.basic]

/-- The request of `_alter_table` names the task's type and signature. -/
theorem alterTable_key :
    (alterTable printAgentStatus signature taskType engine reportVersion).finish.taskType = taskType ∧
      (alterTable printAgentStatus signature taskType engine reportVersion).finish.signature =
        signature := by
  dsimp only [alterTable]
  split_ifs <;> (try split) <;> exact ⟨rfl, rfl⟩

/-- `_alter_table` reports `ANALYSIS_ERROR` only for a task type it does not know. -/
theorem alterTable_ne_analysisError (hname : (processName taskType).isSome) :
    (alterTable printAgentStatus signature taskType engine reportVersion).finish.taskStatus.statusCode
      ≠ .analysisError := by
  rw [alterTable_statusCode]
  split_ifs with _ htre
  · nofun
  · exact absurd htre (runAlter_status_ne_taskRequestError hname)
  · nofun

end Outcome

/-! ### The callback -/

/-- `_alter_table_worker_thread_callback` after taking a task: `_alter_table` for a schema
change or a rollup; for any other task type `finish_task_request` is sent as it was
default-constructed. -/
def alterTableCallback (printAgentStatus : AgentStatus → List Char) (signature : Int)
    (taskType : TTaskType) (engine : AlterEngine) (reportVersion : Nat) : TFinishTaskRequest :=
  match taskType with
  | .schemaChange | .rollup => (alterTable printAgentStatus signature taskType engine reportVersion).finish
  | _ => .default

/-- **What the callback sends.** No request of the alter callback carries `ANALYSIS_ERROR`,
since it calls `_alter_table` only with the two task types that function knows. A schema
change or rollup is answered with a request for its own type and signature; a task of
any other type with the default request, which names `CREATE` and signature `0` and
reports `OK`. -/
theorem alterTableCallback_finish (printAgentStatus : AgentStatus → List Char) (signature : Int)
    (taskType : TTaskType) (engine : AlterEngine) (reportVersion : Nat) :
    (alterTableCallback printAgentStatus signature taskType engine reportVersion).taskStatus.statusCode
        ≠ .analysisError ∧
      ((processName taskType).isSome →
        (alterTableCallback printAgentStatus signature taskType engine reportVersion).taskType =
            taskType ∧
          (alterTableCallback printAgentStatus signature taskType engine reportVersion).signature =
            signature) ∧
      (processName taskType = none →
        alterTableCallback printAgentStatus signature taskType engine reportVersion = .default) := by
  cases taskType
  case schemaChange | rollup =>
    exact ⟨alterTable_ne_analysisError rfl, fun _ => alterTable_key, nofun⟩
  all_goals exact ⟨nofun, nofun, fun _ => rfl⟩

end PaloAgent
