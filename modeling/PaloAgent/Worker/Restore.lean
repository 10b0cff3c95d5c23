import PaloAgent.Worker.Finish
import PaloAgent.Files.RestoreRename
import PaloAgent.Files.TransFile

/-!
# The restore task

`_restore_worker_thread_callback` handles a `RESTORE` request in seven blocks; all but the
first and the deletion are guarded by the status code the blocks before them left:

* write the remote source info to the temporary file `<agent_tmp_dir>/<label>`, where the
  label is the thread id, the time and the tablet id;
* get a shard root path from the engine;
* download the backup into `<shard>/<tablet_id>/` with the download command of
  `PaloAgent.Files.TransFile`;
* delete the temporary file (left out: its only effect is on that file);
* when the directory exists, rename the downloaded files (`PaloAgent.Files.RestoreRename`);
* load the header;
* read the tablet's info.

The finish request carries the status code, the messages and the tablet infos. Each block
is a function of the worker's variables (`RestoreWorkerState`), which also record the
command `exec_cmd` ran, and `restoreWorker` is their composition; the rename loop is the
one that can throw.

The main results: **the handler throws exactly on a missing separator**
(`restoreWorker_throws_iff`), and **the tool gets the restore's arguments**: a download
command is run only after the info file was written and a shard path obtained, and when
the paths and the label are plain words the shell splits it back into exactly the
arguments the handler means (`restoreWorker_shellWords`).
-/

namespace PaloAgent

/-- The fields of `TRestoreReq` the handler reads; `remote_source_properties` only goes to
`write_json_to_file`, and `schema_hash` only to `load_header` and `_get_tablet_info`,
whose outcomes are inputs. -/
structure TRestoreReq where
  tabletId : Int
  remoteFilePath : List Char
  deriving DecidableEq, Repr

/-- The answers the handler gets: the thread id and the time the label starts with
(`<tid>_<now>`), whether `write_json_to_file` succeeds, the path `obtain_shard_path` gives
when it succeeds, the message `exec_cmd` returns for a command that fails, whether the
download directory exists, the regular files the iterator yields in it, `load_header`, and
the tablet info `_get_tablet_info` fills in when it succeeds. -/
structure RestoreEngine where
  threadLabel : List Char
  writeJsonOk : Bool
  shardPath : Option (List Char)
  execCmd : List Char → Option (List Char)
  localDirExists : Bool
  files : List DirEntry
  loadHeader : OLAPStatus
  tabletInfo : Option TTabletInfo

/-- The handler's variables between its blocks, with the command it ran and the renames it
made. -/
structure RestoreWorkerState where
  statusCode : TStatusCode
  errorMsgs : List (List Char)
  command : Option (List Char)
  renamed : List (List Char × List Char)
  tabletInfos : List TTabletInfo

namespace Restore

/-- `label`: `<tid>_<now>_<tablet_id>`. -/
def label (req : TRestoreReq) (engine : RestoreEngine) : List Char :=
  restoreLabel engine.threadLabel req.tabletId

/-- `info_file_path`: the temporary file of the request's remote source info. -/
def infoFile (config : TransFileConfig) (req : TRestoreReq) (engine : RestoreEngine) : List Char :=
  infoFilePath config.agentTmpDir (label req engine)

/-- `local_file_path`, from `local_shard_root_path`; when no shard path was obtained, no
block that reads it runs. -/
def localFile (req : TRestoreReq) (engine : RestoreEngine) : List Char :=
  restoreLocalFilePath (engine.shardPath.getD []) req.tabletId

/-- The command of the download block. -/
def command (config : TransFileConfig) (req : TRestoreReq) (engine : RestoreEngine) : List Char :=
  restoreDownloadCommand config.transFileToolPath (label req engine) (localFile req engine)
    req.remoteFilePath (infoFile config req engine)

end Restore

/-! ### The blocks -/

/-- Write remote source info into file by json format. -/
def writeRemoteSourceInfo (config : TransFileConfig) (req : TRestoreReq) (engine : RestoreEngine) :
    RestoreWorkerState :=
  if engine.writeJsonOk then ⟨.ok, [], none, [], []⟩
  else ⟨.runtimeError,
    ["Write remote source info to file failed. Path:".toList ++ Restore.infoFile config req engine],
    none, [], []⟩

/-- Get local disk to restore from olap. -/
def getLocalDisk (engine : RestoreEngine) (st : RestoreWorkerState) : RestoreWorkerState :=
  if st.statusCode = .ok ∧ engine.shardPath = none then
    { st with
      statusCode := .runtimeError
      errorMsgs := st.errorMsgs ++ ["clone get local root path failed.".toList] }
  else st

/-- Download files from remote source: the command's message on a failure. -/
def downloadFromRemote (config : TransFileConfig) (req : TRestoreReq) (engine : RestoreEngine)
    (st : RestoreWorkerState) : RestoreWorkerState :=
  if st.statusCode = .ok then
    match engine.execCmd (Restore.command config req engine) with
    | some errmsg =>
      { st with statusCode := .runtimeError, errorMsgs := st.errorMsgs ++ [errmsg],
                command := some (Restore.command config req engine) }
    | none => { st with command := some (Restore.command config req engine) }
  else st

/-- Change file name, when the directory exists: the renames, and the exception that
ends the handler, if one is thrown. -/
def changeFileName (tabletId : Int) (engine : RestoreEngine) (st : RestoreWorkerState) :
    RestoreWorkerState × Option CppException :=
  if st.statusCode = .ok ∧ engine.localDirExists = true then
    ({ st with renamed := (renameFiles tabletId engine.files).1 },
      (renameFiles tabletId engine.files).2)
  else (st, none)

/-- Load olap. -/
def loadOlap (engine : RestoreEngine) (st : RestoreWorkerState) : RestoreWorkerState :=
  if st.statusCode = .ok ∧ engine.loadHeader ≠ .olapSuccess then
    { st with statusCode := .runtimeError, errorMsgs := st.errorMsgs ++ ["load header failed.".toList] }
  else st

/-- Get tablets info: a failure is only logged. -/
def getTabletsInfo (engine : RestoreEngine) (st : RestoreWorkerState) : RestoreWorkerState :=
  if st.statusCode = .ok then { st with tabletInfos := st.tabletInfos ++ engine.tabletInfo.toList }
  else st

/-- The finish request: status, messages and tablet infos. -/
def restoreFinish (taskType : TTaskType) (signature : Int) (st : RestoreWorkerState) :
    TFinishTaskRequest :=
  { TFinishTaskRequest.basic taskType signature ⟨st.statusCode, st.errorMsgs⟩ with
    finishTabletInfos := some st.tabletInfos }

/-- The worker's variables after the download block. -/
def Restore.downloaded (config : TransFileConfig) (req : TRestoreReq) (engine : RestoreEngine) :
    RestoreWorkerState :=
  downloadFromRemote config req engine (getLocalDisk engine (writeRemoteSourceInfo config req engine))

/-- `_restore_worker_thread_callback` on one request, from the dequeue to the finish
request: the worker's variables at the end, and the request or the exception of the
rename loop. -/
def restoreWorker (config : TransFileConfig) (taskType : TTaskType) (signature : Int)
    (req : TRestoreReq) (engine : RestoreEngine) :
    RestoreWorkerState × Except CppException TFinishTaskRequest :=
  let renamed := changeFileName req.tabletId engine (Restore.downloaded config req engine)
  match renamed.2 with
  | some ex => (renamed.1, .error ex)
  | none =>
    let st := getTabletsInfo engine (loadOlap engine renamed.1)
    (st, .ok (restoreFinish taskType signature st))

/-! ### What the blocks do -/

section Blocks

variable {config : TransFileConfig} {req : TRestoreReq} {tabletId : Int} {engine : RestoreEngine}
  {st : RestoreWorkerState}

/-- The steps before the renames succeed exactly when each of them does. -/
theorem downloaded_statusCode_ok :
    (Restore.downloaded config req engine).statusCode = .ok ↔
      engine.writeJsonOk = true ∧ engine.shardPath.isSome ∧
        engine.execCmd (Restore.command config req engine) = none := by
  unfold Restore.downloaded downloadFromRemote getLocalDisk writeRemoteSourceInfo
  cases engine.writeJsonOk <;> cases engine.shardPath <;>
    cases engine.execCmd (Restore.command config req engine) <;> simp

/-- The download command is run exactly when the info file was written and a shard path
obtained. -/
theorem downloaded_command :
    (Restore.downloaded config req engine).command =
      if engine.writeJsonOk = true ∧ engine.shardPath.isSome
      then some (Restore.command config req engine) else none := by
  unfold Restore.downloaded downloadFromRemote getLocalDisk writeRemoteSourceInfo
  cases engine.writeJsonOk <;> cases engine.shardPath <;>
    cases engine.execCmd (Restore.command config req engine) <;> simp

/-- The renames keep the other variables. -/
@[simp] theorem changeFileName_fst_statusCode :
    (changeFileName tabletId engine st).1.statusCode = st.statusCode ∧
      (changeFileName tabletId engine st).1.command = st.command := by
  unfold changeFileName; split_ifs <;> simp

/-- The renames throw exactly when they run and a file misses its separator. -/
theorem changeFileName_thrown_isSome :
    (changeFileName tabletId engine st).2.isSome ↔
      st.statusCode = .ok ∧ engine.localDirExists = true ∧
        ∃ e ∈ engine.files, MissingSeparator e.name := by
  unfold changeFileName
  split_ifs with h
  · simp [renameFiles_thrown_isSome, h]
  · simp only [Option.isSome_none, Bool.false_eq_true, false_iff]
    exact fun h' => h ⟨h'.1, h'.2.1⟩

@[simp] theorem loadOlap_command : (loadOlap engine st).command = st.command := by
  unfold loadOlap; split_ifs <;> rfl

@[simp] theorem getTabletsInfo_command : (getTabletsInfo engine st).command = st.command := by
  unfold getTabletsInfo; split_ifs <;> rfl

end Blocks

/-! ### The whole handler -/

section Outcome

variable {config : TransFileConfig} {taskType : TTaskType} {signature : Int} {req : TRestoreReq}
  {engine : RestoreEngine}

/-- The handler throws exactly when the renames do. -/
theorem restoreWorker_error_iff :
    (∃ ex, (restoreWorker config taskType signature req engine).2 = .error ex) ↔
      (changeFileName req.tabletId engine (Restore.downloaded config req engine)).2.isSome := by
  dsimp only [restoreWorker]
  cases (changeFileName req.tabletId engine (Restore.downloaded config req engine)).2 with
  | some ex => exact ⟨fun _ => rfl, fun _ => ⟨ex, rfl⟩⟩
  | none => simp

/-- The command the handler ran is the download block's, whether or not it throws. -/
theorem restoreWorker_command :
    (restoreWorker config taskType signature req engine).1.command =
      (Restore.downloaded config req engine).command := by
  dsimp only [restoreWorker]
  split <;> simp

/-- **The handler throws exactly on a missing separator.** The rename loop, and with it the
thread, ends in `std::out_of_range` exactly when the info file, the shard path and the
download succeeded, the download directory exists, and one of its files has a renamed
suffix and no separator. -/
theorem restoreWorker_throws_iff :
    (∃ ex, (restoreWorker config taskType signature req engine).2 = .error ex) ↔
      engine.writeJsonOk = true ∧ engine.shardPath.isSome ∧
        engine.execCmd (Restore.command config req engine) = none ∧
        engine.localDirExists = true ∧ ∃ e ∈ engine.files, MissingSeparator e.name := by
  rw [restoreWorker_error_iff, changeFileName_thrown_isSome, downloaded_statusCode_ok]
  simp only [and_assoc]

/-- **The tool gets the restore's arguments.** The handler runs a command only after it
wrote the info file and obtained a shard path; when the tool's path, the temporary
directory, the thread label, the remote path and the shard path are plain words, the
shell splits that command into exactly the arguments the handler means: the label,
`download`, `<shard>/<tablet_id>/`, the remote path and the info file. This holds also
when the rename loop throws afterwards. -/
theorem restoreWorker_shellWords
    (hplain : PlainWord config.transFileToolPath ∧ PlainWord config.agentTmpDir ∧
      PlainWord engine.threadLabel ∧ PlainWord req.remoteFilePath ∧
      ∀ shard, engine.shardPath = some shard → PlainWord shard) :
    (restoreWorker config taskType signature req engine).1.command.map shellWords =
      if engine.writeJsonOk then
        engine.shardPath.map fun shard =>
          ["sh".toList, config.transFileToolPath, restoreLabel engine.threadLabel req.tabletId,
            "download".toList, restoreLocalFilePath shard req.tabletId, req.remoteFilePath,
            infoFilePath config.agentTmpDir (restoreLabel engine.threadLabel req.tabletId)]
      else none := by
  obtain ⟨htool, hdir, hlabel, hremote, hshard⟩ := hplain
  rw [restoreWorker_command, downloaded_command]
  cases hs : engine.shardPath with
  | none => simp
  | some shard =>
    have hlabel' := hlabel.restoreLabel req.tabletId
    have hwords := shellWords_restoreDownloadCommand htool hlabel'
      ((hshard shard hs).restoreLocalFilePath req.tabletId) hremote (hdir.infoFilePath hlabel')
    cases engine.writeJsonOk <;>
      simp [Restore.command, Restore.localFile, Restore.infoFile, Restore.label, hs, hwords]

/-- A restore of tablet `10001` into the shard `/data`. -/
def sampleRestore : TransFileConfig × TRestoreReq × RestoreEngine :=
  (⟨"/tmp".toList, "/bin/trans.sh".toList⟩, ⟨10001, "/backup/s1".toList⟩,
    ⟨"140_17".toList, true, some "/data".toList, fun _ => none, true, [], .olapSuccess, none⟩)

theorem restoreWorker_shellWords_sample :
    (PlainWord sampleRestore.1.transFileToolPath ∧ PlainWord sampleRestore.1.agentTmpDir ∧
        PlainWord sampleRestore.2.2.threadLabel ∧ PlainWord sampleRestore.2.1.remoteFilePath ∧
        ∀ shard, sampleRestore.2.2.shardPath = some shard → PlainWord shard) ∧
      (restoreWorker sampleRestore.1 .restore 5 sampleRestore.2.1 sampleRestore.2.2).1.command.map
          shellWords =
        if sampleRestore.2.2.writeJsonOk then
          sampleRestore.2.2.shardPath.map fun shard =>
            ["sh".toList, sampleRestore.1.transFileToolPath,
              restoreLabel sampleRestore.2.2.threadLabel sampleRestore.2.1.tabletId,
              "download".toList, restoreLocalFilePath shard sampleRestore.2.1.tabletId,
              sampleRestore.2.1.remoteFilePath,
              infoFilePath sampleRestore.1.agentTmpDir
                (restoreLabel sampleRestore.2.2.threadLabel sampleRestore.2.1.tabletId)]
        else none :=
  have hplain : PlainWord sampleRestore.1.transFileToolPath ∧ PlainWord sampleRestore.1.agentTmpDir ∧
      PlainWord sampleRestore.2.2.threadLabel ∧ PlainWord sampleRestore.2.1.remoteFilePath ∧
      ∀ shard, sampleRestore.2.2.shardPath = some shard → PlainWord shard :=
    ⟨by decide, by decide, by decide, by decide, fun _ h => Option.some.inj h ▸ by decide⟩
  ⟨hplain, restoreWorker_shellWords hplain⟩

end Outcome

end PaloAgent
