import PaloAgent.Worker.Finish
import PaloAgent.Files.CloneCopy

/-!
# The clone task

`_clone_worker_thread_callback` handles a `CLONE` request in six blocks, each guarded by
the `status` the blocks before it left:

* the local tablet must not exist yet (`PALO_CREATE_TABLE_EXIST` otherwise);
* the engine gives a shard root path for the storage medium;
* `_clone_copy` fetches the tablet's files from a source backend;
* the engine loads the copied header;
* after a failure, the directory `local_shard_root_path/tablet_id/schema_hash` is removed;
* when the tablet is there (copied, or existing before), its info is read, and a tablet
  older than the request's committed version is dropped as stale.

The finish request reports `OK` with the tablet info, or `RUNTIME_ERROR`. Each block is a
function of the worker's variables (`CloneWorkerState`), and `cloneWorker` is their
composition; `_clone_copy` is the one that can throw.

The main result, `cloneWorker_ok`, joins the handler to the copy loop of
`PaloAgent.Files.CloneCopy`: a clone reported `OK` carries the info of a tablet at a
version no older than the committed one, which either existed before or was copied whole
(`CopiedWhole`) and loaded, except when `src_backends` is empty, where `_clone_copy`
reports success without copying anything.
-/

namespace PaloAgent

/-- The fields of `TCloneReq` the clone worker reads. -/
structure TCloneReq where
  tabletId : Int
  schemaHash : Int
  srcBackends : List SourceBackend
  committedVersion : Option Int
  committedVersionHash : Option Int

/-- The local engine's answers to the clone worker: whether `get_table` finds the tablet,
the path `obtain_shard_path` gives when it succeeds, whether `load_header` succeeds, and the
tablet info `report_tablet_info` fills in when it succeeds. -/
structure CloneEngine where
  tabletExists : Bool
  shardPath : Option (List Char)
  loadHeaderOk : Bool
  tabletInfo : Option TTabletInfo

/-- The clone worker's variables between its blocks, with the effects on the local
disk: the `_clone_copy` run, the directory removed after a failure, and whether the
tablet was dropped as stale. -/
structure CloneWorkerState where
  status : AgentStatus
  errorMsgs : List (List Char)
  localShardRootPath : List Char
  copied : Option CloneResult
  removedDir : Option (List Char)
  droppedStale : Bool
  tabletInfos : List TTabletInfo

/-- The tablet is there: `status == PALO_SUCCESS || status == PALO_CREATE_TABLE_EXIST`. -/
def AgentStatus.TabletThere (status : AgentStatus) : Prop :=
  status = .paloSuccess ∨ status = .paloCreateTableExist

instance (status : AgentStatus) : Decidable status.TabletThere :=
  inferInstanceAs (Decidable (status = .paloSuccess ∨ status = .paloCreateTableExist))

/-- The version check: with both committed fields set, a tablet whose version is older
than the committed one, or equal with another hash, is stale. -/
def TCloneReq.stale (req : TCloneReq) (info : TTabletInfo) : Bool :=
  match req.committedVersion, req.committedVersionHash with
  | some version, some versionHash =>
    decide (info.version < version ∨ (info.version = version ∧ info.versionHash ≠ versionHash))
  | _, _ => false

/-! ### The blocks -/

/-- Check local tablet exist or not. -/
def checkLocalTablet (engine : CloneEngine) : CloneWorkerState :=
  if engine.tabletExists then
    ⟨.paloCreateTableExist, ["clone tablet exist yet.".toList], [], none, none, false, []⟩
  else ⟨.paloSuccess, [], [], none, none, false, []⟩

/-- Get local disk from olap: `local_shard_root_path` stays empty when it fails. -/
def obtainShardPath (engine : CloneEngine) (st : CloneWorkerState) : CloneWorkerState :=
  if st.status = .paloSuccess then
    match engine.shardPath with
    | some path => { st with localShardRootPath := path }
    | none => { st with
        status := .paloError
        errorMsgs := st.errorMsgs ++ ["clone get local root path failed.".toList] }
  else st

/-- `_clone_copy` into the local directory `dir`; its exception ends the handler. -/
def runCloneCopy (req : TCloneReq) (dir : LocalDir) (st : CloneWorkerState) :
    Except CppException CloneWorkerState :=
  if st.status = .paloSuccess then
    match (cloneCopy req.srcBackends dir).status with
    | .ok status => .ok { st with
        status := status
        errorMsgs := st.errorMsgs ++ (cloneCopy req.srcBackends dir).errorMsgs
        copied := some (cloneCopy req.srcBackends dir) }
    | .error e => .error e
  else .ok st

/-- Load header. -/
def loadHeader (engine : CloneEngine) (st : CloneWorkerState) : CloneWorkerState :=
  if st.status = .paloSuccess then
    if engine.loadHeaderOk then st
    else { st with status := .paloError, errorMsgs := st.errorMsgs ++ ["load header failed.".toList] }
  else st

/-- Clean useless dir: `local_shard_root_path << "/" << tablet_id << "/" << schema_hash`. -/
def cleanUselessDir (req : TCloneReq) (st : CloneWorkerState) : CloneWorkerState :=
  if st.status ≠ .paloSuccess ∧ st.status ≠ .paloCreateTableExist then
    let localDataPath :=
      st.localShardRootPath ++ '/' :: (decimal req.tabletId ++ '/' :: decimal req.schemaHash)
    { st with removedDir := some localDataPath }
  else st

/-- Get clone tablet info, and drop a stale tablet. -/
def getCloneTabletInfo (req : TCloneReq) (engine : CloneEngine) (st : CloneWorkerState) :
    CloneWorkerState :=
  if st.status.TabletThere then
    match engine.tabletInfo with
    | none => { st with
        status := .paloError
        errorMsgs := st.errorMsgs ++ ["clone success, but get tablet info failed.".toList] }
    | some info =>
      if req.stale info then { st with status := .paloError, droppedStale := true }
      else { st with tabletInfos := st.tabletInfos ++ [info] }
  else st

/-- Return result to fe. -/
def cloneFinish (taskType : TTaskType) (signature : Int) (st : CloneWorkerState) :
    TFinishTaskRequest :=
  if st.status ≠ .paloSuccess ∧ st.status ≠ .paloCreateTableExist then
    .basic taskType signature ⟨.runtimeError, st.errorMsgs ++ ["clone failed.".toList]⟩
  else { TFinishTaskRequest.basic taskType signature ⟨.ok, st.errorMsgs⟩ with
    finishTabletInfos := some st.tabletInfos }

/-- `_clone_worker_thread_callback` on one request, from the dequeue to the finish
request: the worker's variables at the end and the request, or the exception of
`_clone_copy`. -/
def cloneWorker (taskType : TTaskType) (signature : Int) (req : TCloneReq)
    (engine : CloneEngine) (dir : LocalDir) :
    Except CppException (CloneWorkerState × TFinishTaskRequest) := do
  let st ← runCloneCopy req dir (obtainShardPath engine (checkLocalTablet engine))
  let st := getCloneTabletInfo req engine (cleanUselessDir req (loadHeader engine st))
  pure (st, cloneFinish taskType signature st)

/-! ### What each block does -/

section Blocks

variable {taskType : TTaskType} {signature : Int} {req : TCloneReq} {engine : CloneEngine}
  {dir : LocalDir} {st st' : CloneWorkerState} {fin : TFinishTaskRequest}

/-- The local check passes exactly when the tablet does not exist, and stops the handler
with `PALO_CREATE_TABLE_EXIST` exactly when it does. -/
theorem checkLocalTablet_status :
    ((checkLocalTablet engine).status = .paloSuccess ↔ engine.tabletExists = false) ∧
      ((checkLocalTablet engine).status = .paloCreateTableExist ↔ engine.tabletExists = true) := by
  unfold checkLocalTablet; cases engine.tabletExists <;> simp

@[simp] theorem checkLocalTablet_copied (engine : CloneEngine) :
    (checkLocalTablet engine).copied = none := by
  unfold checkLocalTablet; split <;> rfl

@[simp] theorem checkLocalTablet_tabletInfos (engine : CloneEngine) :
    (checkLocalTablet engine).tabletInfos = [] := by
  unfold checkLocalTablet; split <;> rfl

theorem obtainShardPath_status_success :
    (obtainShardPath engine st).status = .paloSuccess ↔
      st.status = .paloSuccess ∧ engine.shardPath.isSome := by
  unfold obtainShardPath
  split_ifs with hs
  · cases engine.shardPath <;> simp [hs]
  · simp [hs]

theorem obtainShardPath_status_exist :
    (obtainShardPath engine st).status = .paloCreateTableExist ↔
      st.status = .paloCreateTableExist := by
  unfold obtainShardPath
  split_ifs with hs
  · cases engine.shardPath <;> simp [hs]
  · rfl

/-- The path block leaves the copy, the removal and the infos alone. -/
@[simp] theorem obtainShardPath_unchanged :
    (obtainShardPath engine st).copied = st.copied ∧
      (obtainShardPath engine st).removedDir = st.removedDir ∧
      (obtainShardPath engine st).tabletInfos = st.tabletInfos := by
  unfold obtainShardPath
  split_ifs
  · cases engine.shardPath <;> simp
  · simp

/-- The copy block: `_clone_copy` runs exactly from success, and its status becomes the
worker's. -/
theorem runCloneCopy_spec (h : runCloneCopy req dir st = .ok st') :
    (st'.status = .paloSuccess ↔
        st.status = .paloSuccess ∧ (cloneCopy req.srcBackends dir).status = .ok .paloSuccess) ∧
      (st'.status = .paloCreateTableExist ↔ st.status = .paloCreateTableExist) ∧
      st'.copied = (if st.status = .paloSuccess then some (cloneCopy req.srcBackends dir)
        else st.copied) ∧
      st'.removedDir = st.removedDir ∧ st'.tabletInfos = st.tabletInfos := by
  unfold runCloneCopy at h
  split_ifs at h with hs
  · split at h
    · rename_i status hcopy
      cases h
      rcases cloneCopy_status hcopy with rfl | rfl <;> simp [hs, hcopy]
    · cases h
  · cases h
    simp [hs]

theorem loadHeader_status_success :
    (loadHeader engine st).status = .paloSuccess ↔
      st.status = .paloSuccess ∧ engine.loadHeaderOk = true := by
  unfold loadHeader
  by_cases hs : st.status = .paloSuccess <;> cases hl : engine.loadHeaderOk <;> simp [hs, hl]

theorem loadHeader_status_exist :
    (loadHeader engine st).status = .paloCreateTableExist ↔
      st.status = .paloCreateTableExist := by
  unfold loadHeader
  split_ifs with hs <;> simp [hs]

@[simp] theorem loadHeader_unchanged :
    (loadHeader engine st).copied = st.copied ∧
      (loadHeader engine st).removedDir = st.removedDir ∧
      (loadHeader engine st).tabletInfos = st.tabletInfos := by
  unfold loadHeader
  split_ifs <;> simp

/-- The clean-up removes `local_shard_root_path/tablet_id/schema_hash` exactly after a
failure, and changes nothing else. -/
theorem cleanUselessDir_eq :
    cleanUselessDir req st = if st.status.TabletThere then st else
      { st with removedDir := some (st.localShardRootPath ++
          '/' :: (decimal req.tabletId ++ '/' :: decimal req.schemaHash)) } := by
  unfold cleanUselessDir AgentStatus.TabletThere
  by_cases h1 : st.status = .paloSuccess <;> by_cases h2 : st.status = .paloCreateTableExist <;>
    simp [h1, h2]

@[simp] theorem getCloneTabletInfo_unchanged :
    (getCloneTabletInfo req engine st).copied = st.copied ∧
      (getCloneTabletInfo req engine st).removedDir = st.removedDir := by
  unfold getCloneTabletInfo
  split_ifs
  · cases engine.tabletInfo <;> simp
    split_ifs <;> simp
  · simp

/-- The clean-up changes only the record of the removed directory. -/
@[simp] theorem cleanUselessDir_unchanged :
    (cleanUselessDir req st).status = st.status ∧ (cleanUselessDir req st).copied = st.copied ∧
      (cleanUselessDir req st).tabletInfos = st.tabletInfos := by
  rw [cleanUselessDir_eq]; split_ifs <;> simp

/-- The info block keeps a tablet that is there only when the engine reports its info and
it is not stale, and then records that info. -/
theorem getCloneTabletInfo_there (h : (getCloneTabletInfo req engine st).status.TabletThere) :
    (getCloneTabletInfo req engine st).status = st.status ∧ ∃ info,
      engine.tabletInfo = some info ∧ req.stale info = false ∧
      (getCloneTabletInfo req engine st).tabletInfos = st.tabletInfos ++ [info] := by
  unfold getCloneTabletInfo at h ⊢
  by_cases hs : st.status.TabletThere
  · rw [if_pos hs] at h ⊢
    cases hi : engine.tabletInfo with
    | none => simp [hi, AgentStatus.TabletThere] at h
    | some info =>
      cases hstale : req.stale info
      · simp only [hi, hstale, Bool.false_eq_true, if_false] at h ⊢
        exact ⟨trivial, info, rfl, hstale, rfl⟩
      · simp [hi, hstale, AgentStatus.TabletThere] at h
  · rw [if_neg hs] at h
    exact absurd h hs

/-- A finish request reports `OK` only when the tablet is there, and then carries the
infos read. -/
theorem cloneFinish_ok (h : (cloneFinish taskType signature st).taskStatus.statusCode = .ok) :
    st.status.TabletThere ∧
      (cloneFinish taskType signature st).finishTabletInfos = some st.tabletInfos := by
  unfold cloneFinish at h ⊢
  by_cases hs : st.status ≠ .paloSuccess ∧ st.status ≠ .paloCreateTableExist
  · simp [if_pos hs, TFinishTaskRequest.basic] at h
  · rw [if_neg hs]
    exact ⟨by_contra fun hc => hs ⟨fun h => hc (.inl h), fun h => hc (.inr h)⟩, rfl⟩

theorem cloneWorker_eq_ok :
    cloneWorker taskType signature req engine dir = .ok (st, fin) ↔
      ∃ st₂, runCloneCopy req dir (obtainShardPath engine (checkLocalTablet engine)) = .ok st₂ ∧
        st = getCloneTabletInfo req engine (cleanUselessDir req (loadHeader engine st₂)) ∧
        fin = cloneFinish taskType signature st := by
  simp only [cloneWorker, bind, Except.bind, pure, Except.pure]
  cases runCloneCopy req dir (obtainShardPath engine (checkLocalTablet engine)) with
  | error e => simp
  | ok st₂ =>
    simp only [Except.ok.injEq, Prod.mk.injEq, exists_eq_left']
    constructor <;> rintro ⟨rfl, rfl⟩ <;> exact ⟨rfl, rfl⟩

end Blocks

/-! ### Outcomes -/

section Outcomes

variable {taskType : TTaskType} {signature : Int} {req : TCloneReq} {engine : CloneEngine}
  {dir : LocalDir} {st : CloneWorkerState} {fin : TFinishTaskRequest}

/-- A tablet that is not stale has at least the committed version, and the committed hash
where the versions agree. -/
theorem TCloneReq.version_of_not_stale {info : TTabletInfo} (h : req.stale info = false)
    {version versionHash : Int} (hv : req.committedVersion = some version)
    (hh : req.committedVersionHash = some versionHash) :
    version ≤ info.version ∧ (info.version = version → info.versionHash = versionHash) := by
  simp only [TCloneReq.stale, hv, hh, decide_eq_false_iff_not, not_or, not_and, not_lt] at h
  exact ⟨h.1, fun he => not_not.mp (h.2 he)⟩

/-- **A clone reported `OK` is fresh, and was there or copied.** When the clone handler
reports `OK`, its finish request carries exactly the tablet info the engine reported, at a
version no older than the committed one (with the committed hash where the versions
agree). Either the tablet existed before and nothing was copied, or it did not exist,
`_clone_copy` ran into the shard's directory and succeeded, and the header loaded; then
the copy is whole (`CopiedWhole`), unless `src_backends` is empty, in which case
`_clone_copy` succeeded without a call and the directory is as it was. -/
theorem cloneWorker_ok (h : cloneWorker taskType signature req engine dir = .ok (st, fin))
    (hok : fin.taskStatus.statusCode = .ok) :
    ∃ info, engine.tabletInfo = some info ∧ fin.finishTabletInfos = some [info] ∧
      (∀ version versionHash, req.committedVersion = some version →
        req.committedVersionHash = some versionHash →
        version ≤ info.version ∧ (info.version = version → info.versionHash = versionHash)) ∧
      ((engine.tabletExists = true ∧ st.copied = none) ∨
        (engine.tabletExists = false ∧ engine.shardPath.isSome ∧ engine.loadHeaderOk = true ∧
          st.copied = some (cloneCopy req.srcBackends dir) ∧
          (cloneCopy req.srcBackends dir).status = .ok .paloSuccess ∧
          (req.srcBackends = [] ∧ cloneCopy req.srcBackends dir = ⟨.ok .paloSuccess, dir, [], []⟩ ∨
            CopiedWhole req.srcBackends (cloneCopy req.srcBackends dir)))) := by
  obtain ⟨st₂, h₂, rfl, rfl⟩ := cloneWorker_eq_ok.mp h
  obtain ⟨hthere, hinfos⟩ := cloneFinish_ok hok
  obtain ⟨hst, info, hi, hfresh, htail⟩ := getCloneTabletInfo_there hthere
  have hcopy := runCloneCopy_spec h₂
  have hcopied : (getCloneTabletInfo req engine (cleanUselessDir req (loadHeader engine st₂))).copied
      = st₂.copied := by simp
  refine ⟨info, hi, ?_, fun _ _ => req.version_of_not_stale hfresh, ?_⟩
  · simp [hinfos, htail, hcopy.2.2.2.2]
  · rw [cleanUselessDir_unchanged.1] at hst
    rw [hcopied, hcopy.2.2.1]
    rcases (hst ▸ hthere : (loadHeader engine st₂).status.TabletThere) with hs | hs
    · obtain ⟨hs₂, hl⟩ := loadHeader_status_success.mp hs
      obtain ⟨hs₁, hc⟩ := hcopy.1.mp hs₂
      obtain ⟨hs₀, hp⟩ := obtainShardPath_status_success.mp hs₁
      refine .inr ⟨checkLocalTablet_status.1.mp hs₀, hp, hl, if_pos hs₁, hc, ?_⟩
      by_cases hnil : req.srcBackends = []
      · exact .inl ⟨hnil, by rw [hnil]; rfl⟩
      · exact .inr (cloneCopy_copiedWhole hnil hc)
    · have hs₁ := hcopy.2.1.mp (loadHeader_status_exist.mp hs)
      refine .inl ⟨checkLocalTablet_status.2.mp (obtainShardPath_status_exist.mp hs₁), ?_⟩
      rw [if_neg (by rw [hs₁]; nofun), obtainShardPath_unchanged.1, checkLocalTablet_copied]

/-- A clone of tablet `10001` from `sampleBackend` into an empty directory; the engine
reports the committed version. -/
def sampleCloneReq : TCloneReq := ⟨10001, 17, [sampleBackend], some 5, some 7⟩

/-- The local engine of `sampleCloneReq`: no tablet yet, shard `/data`, the header loads
and the info is version `5`, hash `7`. -/
def sampleCloneEngine : CloneEngine := ⟨false, some "/data".toList, true, some ⟨5, 7⟩⟩

theorem cloneWorker_ok_sample :
    ∃ st fin, cloneWorker .clone 1 sampleCloneReq sampleCloneEngine (fun _ => none) =
        .ok (st, fin) ∧ fin.taskStatus.statusCode = .ok ∧
      ∃ info, sampleCloneEngine.tabletInfo = some info ∧ fin.finishTabletInfos = some [info] ∧
        (∀ version versionHash, sampleCloneReq.committedVersion = some version →
          sampleCloneReq.committedVersionHash = some versionHash →
          version ≤ info.version ∧ (info.version = version → info.versionHash = versionHash)) ∧
        ((sampleCloneEngine.tabletExists = true ∧ st.copied = none) ∨
          (sampleCloneEngine.tabletExists = false ∧ sampleCloneEngine.shardPath.isSome ∧
            sampleCloneEngine.loadHeaderOk = true ∧
            st.copied = some (cloneCopy sampleCloneReq.srcBackends fun _ => none) ∧
            (cloneCopy sampleCloneReq.srcBackends fun _ => none).status = .ok .paloSuccess ∧
            (sampleCloneReq.srcBackends = [] ∧
                cloneCopy sampleCloneReq.srcBackends (fun _ => none) =
                  ⟨.ok .paloSuccess, fun _ => none, [], []⟩ ∨
              CopiedWhole sampleCloneReq.srcBackends
                (cloneCopy sampleCloneReq.srcBackends fun _ => none)))) :=
  have h : cloneWorker .clone 1 sampleCloneReq sampleCloneEngine (fun _ => none) =
      .ok (_, _) := rfl
  ⟨_, _, h, rfl, cloneWorker_ok h rfl⟩

end Outcomes

end PaloAgent
