import PaloAgent.Worker.Finish
import PaloAgent.Files.TransFile

/-!
# The upload task

`_upload_worker_thread_callback` takes the front of its pool's deque and runs three
blocks:

* write the request's remote source properties as json to the temporary file
  `<agent_tmp_dir>/<label>`, where the label is the thread id and the time;
* if that succeeded, run the upload command of `PaloAgent.Files.TransFile` on the local
  path, which is `local_file_path`, then `/<tablet_id>` when the request sets one;
* delete the temporary file (left out: its only effect is on that file).

It then sends a finish request with the status code and the messages, and calls
`_remove_task_info` with no user. As in the restore handler, each block is a function of
the worker's variables (`UploadWorkerState`), which here also record the command
`exec_cmd` ran.

The main result is that **the tool gets the upload's arguments**: the handler runs a
command only after it wrote the info file, and when the paths and the label are plain
words the shell splits that command back into exactly the arguments the handler means
(`uploadWorker_shellWords`).
-/

namespace PaloAgent

/-- The fields of `TUploadReq` the handler reads; `remote_source_properties` only goes to
`write_json_to_file`, whose outcome is an input. -/
structure TUploadReq where
  localFilePath : List Char
  remoteFilePath : List Char
  tabletId : Option Int
  deriving DecidableEq, Repr

/-- The answers the handler gets: the label built from the thread id and the time,
whether `write_json_to_file` succeeds, and the message `exec_cmd` returns for a command
that fails. -/
structure UploadEngine where
  label : List Char
  writeJsonOk : Bool
  execCmd : List Char → Option (List Char)

/-- The handler's variables between its blocks, with the command it ran. -/
structure UploadWorkerState where
  statusCode : TStatusCode
  errorMsgs : List (List Char)
  command : Option (List Char)
  deriving DecidableEq, Repr

namespace Upload

/-- The temporary file of the request's remote source info. -/
def infoFile (config : TransFileConfig) (engine : UploadEngine) : List Char :=
  infoFilePath config.agentTmpDir engine.label

/-- The command of the upload block. -/
def command (config : TransFileConfig) (req : TUploadReq) (engine : UploadEngine) : List Char :=
  uploadCommand config.transFileToolPath engine.label
    (uploadLocalFilePath req.localFilePath req.tabletId) req.remoteFilePath (infoFile config engine)

/-- Write remote source info into file by json format. -/
def writeRemoteSourceInfo (config : TransFileConfig) (engine : UploadEngine) : UploadWorkerState :=
  if engine.writeJsonOk then ⟨.ok, [], none⟩
  else ⟨.runtimeError,
    ["Write remote source info to file failed. Path:".toList ++ infoFile config engine], none⟩

/-- Upload files to remote source: the command's message on a failure. -/
def uploadFiles (config : TransFileConfig) (req : TUploadReq) (engine : UploadEngine)
    (st : UploadWorkerState) : UploadWorkerState :=
  if st.statusCode = .ok then
    match engine.execCmd (command config req engine) with
    | some errmsg =>
      { statusCode := .runtimeError, errorMsgs := st.errorMsgs ++ [errmsg],
        command := some (command config req engine) }
    | none => { st with command := some (command config req engine) }
  else st

end Upload

/-- `_upload_worker_thread_callback` on one request, from the dequeue to the finish
request. -/
def uploadWorker (config : TransFileConfig) (taskType : TTaskType) (signature : Int)
    (req : TUploadReq) (engine : UploadEngine) : UploadWorkerState × TFinishTaskRequest :=
  let st := Upload.uploadFiles config req engine (Upload.writeRemoteSourceInfo config engine)
  (st, TFinishTaskRequest.basic taskType signature ⟨st.statusCode, st.errorMsgs⟩)

section Handler

variable {config : TransFileConfig} {taskType : TTaskType} {signature : Int} {req : TUploadReq}
  {engine : UploadEngine}

/-- The handler's variables at the end, by which step failed. -/
theorem uploadWorker_fst :
    (uploadWorker config taskType signature req engine).1 =
      if engine.writeJsonOk then
        match engine.execCmd (Upload.command config req engine) with
        | some errmsg => ⟨.runtimeError, [errmsg], some (Upload.command config req engine)⟩
        | none => ⟨.ok, [], some (Upload.command config req engine)⟩
      else ⟨.runtimeError,
        ["Write remote source info to file failed. Path:".toList ++ Upload.infoFile config engine],
        none⟩ := by
  simp only [uploadWorker, Upload.uploadFiles, Upload.writeRemoteSourceInfo]
  cases engine.writeJsonOk <;> cases engine.execCmd (Upload.command config req engine) <;> rfl

/-- **The tool gets the upload's arguments.** The handler runs a command only after it
wrote the info file; when the tool's path, the temporary directory, the label and the
request's paths are plain words, the shell splits that command into exactly the
arguments the handler means: the label, `upload`, the local path (with the tablet id when
the request sets one), the remote path, the info file and `file_list`. -/
theorem uploadWorker_shellWords
    (hplain : PlainWord config.transFileToolPath ∧ PlainWord config.agentTmpDir ∧
      PlainWord engine.label ∧ PlainWord req.localFilePath ∧ PlainWord req.remoteFilePath) :
    (uploadWorker config taskType signature req engine).1.command.map shellWords =
      if engine.writeJsonOk then
        some ["sh".toList, config.transFileToolPath, engine.label, "upload".toList,
          uploadLocalFilePath req.localFilePath req.tabletId, req.remoteFilePath,
          infoFilePath config.agentTmpDir engine.label, "file_list".toList]
      else none := by
  obtain ⟨htool, hdir, hlabel, hlocal, hremote⟩ := hplain
  have hwords := shellWords_uploadCommand htool hlabel (hlocal.uploadLocalFilePath req.tabletId)
    hremote (hdir.infoFilePath hlabel)
  rw [uploadWorker_fst]
  split_ifs
  · split <;> exact congrArg some hwords
  · rfl

/-- A plain upload of tablet `10001`. -/
def sampleUpload : TransFileConfig × TUploadReq × UploadEngine :=
  (⟨"/tmp".toList, "/bin/trans.sh".toList⟩, ⟨"/data/snapshot".toList, "/backup/s1".toList, some 10001⟩,
    ⟨"140_17".toList, true, fun _ => none⟩)

theorem uploadWorker_shellWords_sample :
    (PlainWord sampleUpload.1.transFileToolPath ∧ PlainWord sampleUpload.1.agentTmpDir ∧
        PlainWord sampleUpload.2.2.label ∧ PlainWord sampleUpload.2.1.localFilePath ∧
        PlainWord sampleUpload.2.1.remoteFilePath) ∧
      (uploadWorker sampleUpload.1 .upload 5 sampleUpload.2.1 sampleUpload.2.2).1.command.map
          shellWords =
        if sampleUpload.2.2.writeJsonOk then
          some ["sh".toList, sampleUpload.1.transFileToolPath, sampleUpload.2.2.label, "upload".toList,
            uploadLocalFilePath sampleUpload.2.1.localFilePath sampleUpload.2.1.tabletId,
            sampleUpload.2.1.remoteFilePath,
            infoFilePath sampleUpload.1.agentTmpDir sampleUpload.2.2.label, "file_list".toList]
        else none :=
  ⟨by decide, uploadWorker_shellWords (by decide)⟩

end Handler

end PaloAgent
