import PaloAgent.Files.FileList
import PaloAgent.Dispatch.Task
import Mathlib.Data.List.Nodup

/-!
# `_clone_copy`

`_clone_copy` copies a tablet from the first source backend that can provide it. For each
entry of `clone_req.src_backends` in turn it asks the backend for a snapshot, appends a
`'/'` to the snapshot path (reading its last character with `at`), empties the local
tablet directory, lists the snapshot, and fetches the files of `file_name_list` one after
another: each file's length, then the file, checking the local size against the length.
Every remote call is retried up to `DOWNLOAD_FILE_MAX_RETRY` times. Whatever happened to
the files, the snapshot is then released; a backend all of whose files arrived ends the
loop with `PALO_SUCCESS`, any other continues to the next backend with `PALO_ERROR`.

The remote calls are the environment: a `SourceBackend` is an entry of `src_backends`
together with every answer it gives, and the local directory is a map from file name to
size. A run is the status (or the exception thrown), the local directory, the calls made
(`CloneEvent`) and the error messages.
-/

namespace PaloAgent

/-- `DOWNLOAD_FILE_MAX_RETRY`. -/
def downloadFileMaxRetry : Nat := 3

/-- One `download_file` call as the local directory sees it: a failure, leaving the local
file as given (`none`: no file), or a success, leaving a file of the given size. -/
inductive DownloadAttempt
  | failed (left : Option Nat)
  | succeeded (size : Nat)
  deriving DecidableEq, Repr

/-- An entry of `src_backends` and what it answers: `make_snapshot`'s status and
`snapshot_path`, and for each attempt `list_file_dir`, and `get_length` and
`download_file` for the file at each position of `file_name_list`. -/
structure SourceBackend where
  host : List Char
  makeSnapshotOk : Bool
  snapshotPath : Option (List Char)
  listFileDir : Nat → Option (List Char)
  getLength : Nat → Nat → Option Nat
  downloadFile : Nat → Nat → DownloadAttempt

/-- The remote calls and local directory operations of `_clone_copy`, in order; a length
query or a download stands for the retries of that call. -/
inductive CloneEvent
  | makeSnapshot (ok : Bool) (snapshotPath : Option (List Char))
  | emptyLocalDir
  | listFileDir (listing : Option (List Char))
  | getLength (name : List Char)
  | downloadFile (name : List Char)
  | releaseSnapshot (snapshotPath : List Char)
  deriving DecidableEq, Repr

/-- The local tablet directory: the size of each file present. -/
abbrev LocalDir := List Char → Option Nat

/-- A retried call of `_clone_copy`: the first success among `DOWNLOAD_FILE_MAX_RETRY`
attempts. -/
def withRetry {α : Type} (attempt : Nat → Option α) : Option α :=
  (List.range downloadFileMaxRetry).findSome? attempt

/-- The download loop of one file: each attempt leaves the local file as it says, and the
loop stops at the first successful download whose local size is the reported
`file_size`. -/
def downloadWithRetry (attempt : Nat → DownloadAttempt) (name : List Char) (fileSize : Nat) :
    List Nat → LocalDir → Bool × LocalDir
  | [], dir => (false, dir)
  | k :: ks, dir =>
    match attempt k with
    | .failed left => downloadWithRetry attempt name fileSize ks (Function.update dir name left)
    | .succeeded size =>
      if size = fileSize then (true, Function.update dir name (some size))
      else downloadWithRetry attempt name fileSize ks (Function.update dir name (some size))

/-- What the file loop leaves: whether every file arrived, the local directory, the
calls. -/
structure FilesCopied where
  ok : Bool
  dir : LocalDir
  events : List CloneEvent

/-- `for (auto file_name : file_name_list)` from position `i`: a failed length query or
download breaks the loop. -/
def copyFiles (src : SourceBackend) : Nat → List (List Char) → LocalDir → FilesCopied
  | _, [], dir => ⟨true, dir, []⟩
  | i, name :: names, dir =>
    match withRetry (src.getLength i) with
    | none => ⟨false, dir, [.getLength name]⟩
    | some fileSize =>
      match downloadWithRetry (src.downloadFile i) name fileSize
          (List.range downloadFileMaxRetry) dir with
      | (true, dir') =>
        let rest := copyFiles src (i + 1) names dir'
        ⟨rest.ok, rest.dir, .getLength name :: .downloadFile name :: rest.events⟩
      | (false, dir') => ⟨false, dir', [.getLength name, .downloadFile name]⟩

/-- What `_clone_copy` (or one iteration of its loop) leaves. -/
structure CloneResult where
  status : Except CppException AgentStatus
  dir : LocalDir
  events : List CloneEvent
  errorMsgs : List (List Char)

/-- One iteration of the loop over `src_backends`. -/
def copyFromBackend (src : SourceBackend) (dir : LocalDir) : CloneResult :=
  let made := CloneEvent.makeSnapshot src.makeSnapshotOk src.snapshotPath
  if src.makeSnapshotOk then
    match src.snapshotPath with
    | none => ⟨.ok .paloError, dir, [made], []⟩
    | some path =>
      match stringAt path (sizeTPred path.length) with
      | .error e => ⟨.error e, dir, [made], []⟩
      | .ok _ =>
        match withRetry src.listFileDir with
        | none => ⟨.ok .paloError, fun _ => none,
            [made, .emptyLocalDir, .listFileDir none, .releaseSnapshot path], []⟩
        | some listing =>
          match fileNameList listing with
          | .error e => ⟨.error e, fun _ => none,
              [made, .emptyLocalDir, .listFileDir (some listing)], []⟩
          | .ok names =>
            let copied := copyFiles src 0 names fun _ => none
            ⟨.ok (if copied.ok then .paloSuccess else .paloError), copied.dir,
              [made, .emptyLocalDir, .listFileDir (some listing)] ++ copied.events ++
                [.releaseSnapshot path], []⟩
  else ⟨.ok .paloError, dir, [made], ["make snapshot failed. backend_ip: ".toList ++ src.host]⟩

/-- The loop over `src_backends` from the status left by the previous iteration: an
exception or a success ends it. -/
def cloneCopyFrom : List SourceBackend → AgentStatus → LocalDir → CloneResult
  | [], status, dir => ⟨.ok status, dir, [], []⟩
  | src :: srcs, _, dir =>
    let r := copyFromBackend src dir
    match r.status with
    | .ok .paloError =>
      let rest := cloneCopyFrom srcs .paloError r.dir
      ⟨rest.status, rest.dir, r.events ++ rest.events, r.errorMsgs ++ rest.errorMsgs⟩
    | _ => r

/-- `TaskWorkerPool::_clone_copy`: `status` starts at `PALO_SUCCESS`. -/
def cloneCopy (srcs : List SourceBackend) (dir : LocalDir) : CloneResult :=
  cloneCopyFrom srcs .paloSuccess dir

/-! ### The download loop -/

section Download

variable (attempt : Nat → DownloadAttempt) (name : List Char) (fileSize : Nat)

/-- A download writes only its own file. -/
theorem downloadWithRetry_frame {n : List Char} (hn : n ≠ name) :
    ∀ (ks : List Nat) (dir : LocalDir), (downloadWithRetry attempt name fileSize ks dir).2 n = dir n
  | [], _ => rfl
  | k :: ks, dir => by
    simp only [downloadWithRetry]
    split
    · rw [downloadWithRetry_frame hn ks, Function.update_noteq hn]
    · split
      · exact Function.update_noteq hn _ _
      · rw [downloadWithRetry_frame hn ks, Function.update_noteq hn]

/-- A download that succeeds leaves its file with the reported size. -/
theorem downloadWithRetry_ok :
    ∀ (ks : List Nat) (dir : LocalDir), (downloadWithRetry attempt name fileSize ks dir).1 = true →
      (downloadWithRetry attempt name fileSize ks dir).2 name = some fileSize
  | [], _, h => absurd h Bool.false_ne_true
  | k :: ks, dir, h => by
    cases hk : attempt k with
    | failed left =>
      simp only [downloadWithRetry, hk] at h ⊢
      exact downloadWithRetry_ok ks _ h
    | succeeded size =>
      simp only [downloadWithRetry, hk] at h ⊢
      by_cases hsize : size = fileSize
      · simp [hsize]
      · simp only [hsize, if_false] at h ⊢
        exact downloadWithRetry_ok ks _ h

end Download

/-! ### The file loop -/

section Files

variable (src : SourceBackend)

/-- The snapshot a `release_snapshot` call releases. -/
def CloneEvent.released : CloneEvent → Option (List Char)
  | .releaseSnapshot path => some path
  | _ => none

/-- The snapshot a `make_snapshot` call made and named. -/
def CloneEvent.madeWithPath : CloneEvent → Option (List Char)
  | .makeSnapshot true (some path) => some path
  | _ => none

/-- The file loop continuing a loop over earlier files that ended as `r`. -/
def FilesCopied.andThen (r : FilesCopied) (next : LocalDir → FilesCopied) : FilesCopied :=
  if r.ok then ⟨(next r.dir).ok, (next r.dir).dir, r.events ++ (next r.dir).events⟩ else r

/-- **One turn of the file loop**: the length query fails and the loop stops, or the
download fails and the loop stops, or the file arrives and the loop goes on. -/
theorem copyFiles_cons_cases (i : Nat) (name : List Char) (names : List (List Char))
    (dir : LocalDir) :
    (copyFiles src i (name :: names) dir = ⟨false, dir, [.getLength name]⟩) ∨
    (∃ fileSize dir', downloadWithRetry (src.downloadFile i) name fileSize
        (List.range downloadFileMaxRetry) dir = (false, dir') ∧
      copyFiles src i (name :: names) dir = ⟨false, dir', [.getLength name, .downloadFile name]⟩) ∨
    (∃ fileSize dir', withRetry (src.getLength i) = some fileSize ∧
      downloadWithRetry (src.downloadFile i) name fileSize
        (List.range downloadFileMaxRetry) dir = (true, dir') ∧
      copyFiles src i (name :: names) dir =
        ⟨(copyFiles src (i + 1) names dir').ok, (copyFiles src (i + 1) names dir').dir,
          .getLength name :: .downloadFile name :: (copyFiles src (i + 1) names dir').events⟩) := by
  cases hl : withRetry (src.getLength i) with
  | none => exact .inl (by simp [copyFiles, hl])
  | some fileSize =>
    cases hd : downloadWithRetry (src.downloadFile i) name fileSize
        (List.range downloadFileMaxRetry) dir with
    | mk ok dir' =>
      cases ok
      · exact .inr (.inl ⟨fileSize, dir', hd, by simp [copyFiles, hl, hd]⟩)
      · exact .inr (.inr ⟨fileSize, dir', rfl, hd, by simp [copyFiles, hl, hd]⟩)

/-- The file loop only asks for lengths and downloads. -/
theorem copyFiles_events (i : Nat) (names : List (List Char)) (dir : LocalDir) :
    ∀ e ∈ (copyFiles src i names dir).events, ∃ n, e = .getLength n ∨ e = .downloadFile n := by
  induction names generalizing i dir with
  | nil => simp [copyFiles]
  | cons name names ih =>
    rcases copyFiles_cons_cases src i name names dir with h | ⟨_, _, -, h⟩ | ⟨_, _, -, -, h⟩ <;>
      rw [h]
    · simp
    · simp
    · intro e he
      rcases List.mem_cons.mp he with rfl | he
      · exact ⟨_, .inl rfl⟩
      rcases List.mem_cons.mp he with rfl | he
      · exact ⟨_, .inr rfl⟩
      exact ih _ _ e he

theorem copyFiles_released (i : Nat) (names : List (List Char)) (dir : LocalDir) :
    (copyFiles src i names dir).events.filterMap CloneEvent.released = [] := by
  rw [List.filterMap_eq_nil_iff]
  intro e he
  obtain ⟨n, rfl | rfl⟩ := copyFiles_events src i names dir e he <;> rfl

theorem copyFiles_madeWithPath (i : Nat) (names : List (List Char)) (dir : LocalDir) :
    (copyFiles src i names dir).events.filterMap CloneEvent.madeWithPath = [] := by
  rw [List.filterMap_eq_nil_iff]
  intro e he
  obtain ⟨n, rfl | rfl⟩ := copyFiles_events src i names dir e he <;> rfl

/-- The loop asks about no file outside its list. -/
theorem copyFiles_event_names {n : List Char} (i : Nat) (names : List (List Char))
    (dir : LocalDir)
    (h : .getLength n ∈ (copyFiles src i names dir).events ∨
      .downloadFile n ∈ (copyFiles src i names dir).events) : n ∈ names := by
  induction names generalizing i dir with
  | nil => simp [copyFiles] at h
  | cons name names ih =>
    rcases copyFiles_cons_cases src i name names dir with hc | ⟨_, _, -, hc⟩ | ⟨_, d, -, -, hc⟩ <;>
      rw [hc] at h <;> simp at h
    · exact h ▸ List.mem_cons_self _ _
    · exact h ▸ List.mem_cons_self _ _
    · rcases h with (rfl | h) | (rfl | h)
      · exact List.mem_cons_self _ _
      · exact List.mem_cons_of_mem _ (ih _ d (.inl h))
      · exact List.mem_cons_self _ _
      · exact List.mem_cons_of_mem _ (ih _ d (.inr h))

/-- The loop over `done ++ rest` runs over `done` and, if every file of it arrived, goes
on over `rest` from the directory `done` left. -/
theorem copyFiles_append (i : Nat) (done rest : List (List Char)) (dir : LocalDir) :
    copyFiles src i (done ++ rest) dir =
      (copyFiles src i done dir).andThen (copyFiles src (i + done.length) rest) := by
  induction done generalizing i dir with
  | nil => simp [copyFiles, FilesCopied.andThen]
  | cons name done ih =>
    rw [List.cons_append]
    cases hl : withRetry (src.getLength i) with
    | none => simp [copyFiles, hl, FilesCopied.andThen]
    | some fileSize =>
      cases hd : downloadWithRetry (src.downloadFile i) name fileSize
          (List.range downloadFileMaxRetry) dir with
      | mk ok dir' =>
        cases ok
        · simp [copyFiles, hl, hd, FilesCopied.andThen]
        · simp only [copyFiles, hl, hd, ih, FilesCopied.andThen, List.length_cons,
            Nat.add_right_comm i 1, Nat.add_assoc]
          split <;> simp

/-- The loop leaves alone a file it is not asked for. -/
theorem copyFiles_frame {n : List Char} (i : Nat) :
    ∀ {names : List (List Char)} (dir : LocalDir), n ∉ names →
      (copyFiles src i names dir).dir n = dir n := by
  intro names
  induction names generalizing i with
  | nil => intro dir _; rfl
  | cons name names ih =>
    intro dir hn
    have hne : n ≠ name := fun h => hn (h ▸ List.mem_cons_self _ _)
    rcases copyFiles_cons_cases src i name names dir with h | ⟨fs, d, hd, h⟩ | ⟨fs, d, -, hd, h⟩ <;>
      rw [h]
    · simpa [hd] using downloadWithRetry_frame (src.downloadFile i) name fs hne
        (List.range downloadFileMaxRetry) dir
    · rw [ih _ _ (fun h => hn (List.mem_cons_of_mem _ h))]
      simpa [hd] using downloadWithRetry_frame (src.downloadFile i) name fs hne
        (List.range downloadFileMaxRetry) dir

/-- **Arrived with the reported length.** When every file of a list of distinct names
arrives, each is present with the length reported for it. -/
theorem copyFiles_ok_dir (i : Nat) :
    ∀ {names : List (List Char)} {dir : LocalDir}, names.Nodup →
      (copyFiles src i names dir).ok = true →
      ∀ j (hj : j < names.length),
        (copyFiles src i names dir).dir names[j] = withRetry (src.getLength (i + j)) := by
  intro names
  induction names generalizing i with
  | nil => intro _ _ _ j hj; exact absurd hj (Nat.not_lt_zero _)
  | cons name names ih =>
    intro dir hnodup hok j hj
    have ⟨hname, hnodup'⟩ := List.nodup_cons.mp hnodup
    rcases copyFiles_cons_cases src i name names dir with h | ⟨_, _, -, h⟩ | ⟨fs, d, hl, hd, h⟩ <;>
      rw [h] at hok ⊢
    · exact absurd hok Bool.false_ne_true
    · exact absurd hok Bool.false_ne_true
    · cases j with
      | zero =>
        have harrived := downloadWithRetry_ok (src.downloadFile i) name fs
          (List.range downloadFileMaxRetry) dir (by rw [hd])
        rw [hd] at harrived
        rw [List.getElem_cons_zero, copyFiles_frame _ _ _ hname, Nat.add_zero, hl]
        exact harrived
      | succ j =>
        rw [List.getElem_cons_succ, ih (i + 1) hnodup' hok j (by simpa using hj),
          Nat.add_right_comm, Nat.add_assoc]

end Files

/-! ### One iteration of the backend loop -/

/-- **One iteration**: the snapshot is refused, or made without a path, or made with the
empty path (which throws), or made and the listing fails, or the listing cannot be split
(which throws), or the files are fetched. -/
theorem copyFromBackend_cases (src : SourceBackend) (dir : LocalDir) :
    (src.makeSnapshotOk = false ∧ copyFromBackend src dir = ⟨.ok .paloError, dir,
      [.makeSnapshot false src.snapshotPath],
      ["make snapshot failed. backend_ip: ".toList ++ src.host]⟩) ∨
    (src.makeSnapshotOk = true ∧ src.snapshotPath = none ∧
      copyFromBackend src dir = ⟨.ok .paloError, dir, [.makeSnapshot true none], []⟩) ∨
    (src.makeSnapshotOk = true ∧ src.snapshotPath = some [] ∧
      copyFromBackend src dir = ⟨.error .outOfRange, dir, [.makeSnapshot true (some [])], []⟩) ∨
    (∃ path, path ≠ [] ∧ src.makeSnapshotOk = true ∧ src.snapshotPath = some path ∧
      withRetry src.listFileDir = none ∧
      copyFromBackend src dir = ⟨.ok .paloError, fun _ => none, [.makeSnapshot true (some path),
        .emptyLocalDir, .listFileDir none, .releaseSnapshot path], []⟩) ∨
    (∃ path listing e, path ≠ [] ∧ src.makeSnapshotOk = true ∧ src.snapshotPath = some path ∧
      withRetry src.listFileDir = some listing ∧ fileNameList listing = .error e ∧
      copyFromBackend src dir = ⟨.error e, fun _ => none, [.makeSnapshot true (some path),
        .emptyLocalDir, .listFileDir (some listing)], []⟩) ∨
    (∃ path listing names, path ≠ [] ∧ src.makeSnapshotOk = true ∧
      src.snapshotPath = some path ∧ withRetry src.listFileDir = some listing ∧
      fileNameList listing = .ok names ∧
      copyFromBackend src dir =
        ⟨.ok (if (copyFiles src 0 names fun _ => none).ok then .paloSuccess else .paloError),
          (copyFiles src 0 names fun _ => none).dir,
          [.makeSnapshot true (some path), .emptyLocalDir, .listFileDir (some listing)] ++
            (copyFiles src 0 names fun _ => none).events ++ [.releaseSnapshot path], []⟩) := by
  cases hok : src.makeSnapshotOk
  · exact .inl ⟨rfl, by simp [copyFromBackend, hok]⟩
  cases hp : src.snapshotPath with
  | none => exact .inr (.inl ⟨rfl, rfl, by simp [copyFromBackend, hok, hp]⟩)
  | some path =>
    by_cases hnil : path = []
    · subst hnil
      exact .inr (.inr (.inl ⟨rfl, rfl, by simp [copyFromBackend, hok, hp, stringAt]⟩))
    have hat : stringAt path (sizeTPred path.length) =
        .ok (path.get ⟨_, sizeTPred_lt (List.length_pos.mpr hnil)⟩) :=
      stringAt_of_lt (sizeTPred_lt (List.length_pos.mpr hnil))
    cases hl : withRetry src.listFileDir with
    | none =>
      exact .inr (.inr (.inr (.inl ⟨path, hnil, rfl, rfl, rfl,
        by simp [copyFromBackend, hok, hp, hat, hl]⟩)))
    | some listing =>
      cases hn : fileNameList listing with
      | error e =>
        exact .inr (.inr (.inr (.inr (.inl ⟨path, listing, e, hnil, rfl, rfl, rfl, hn,
          by simp [copyFromBackend, hok, hp, hat, hl, hn]⟩))))
      | ok names =>
        exact .inr (.inr (.inr (.inr (.inr ⟨path, listing, names, hnil, rfl, rfl, rfl, hn,
          by simp [copyFromBackend, hok, hp, hat, hl, hn]⟩))))

/-! ### The backend loop -/

/-- An iteration returns `PALO_SUCCESS` or `PALO_ERROR`, when it does not throw. -/
theorem copyFromBackend_status {src : SourceBackend} {dir : LocalDir} {st : AgentStatus}
    (h : (copyFromBackend src dir).status = .ok st) : st = .paloSuccess ∨ st = .paloError := by
  rcases copyFromBackend_cases src dir with ⟨-, h'⟩ | ⟨-, -, h'⟩ | ⟨-, -, h'⟩ |
    ⟨_, -, -, -, -, h'⟩ | ⟨_, _, _, -, -, -, -, -, h'⟩ | ⟨_, _, _, -, -, -, -, -, h'⟩ <;>
    rw [h'] at h <;> cases h
  · exact .inr rfl
  · exact .inr rfl
  · exact .inr rfl
  · split <;> simp

/-- An iteration that fails without an exception hands on to the next backend. -/
theorem cloneCopyFrom_cons_of_error {src : SourceBackend} {srcs : List SourceBackend}
    {status : AgentStatus} {dir : LocalDir}
    (hst : (copyFromBackend src dir).status = .ok .paloError) :
    cloneCopyFrom (src :: srcs) status dir =
      ⟨(cloneCopyFrom srcs .paloError (copyFromBackend src dir).dir).status,
        (cloneCopyFrom srcs .paloError (copyFromBackend src dir).dir).dir,
        (copyFromBackend src dir).events ++
          (cloneCopyFrom srcs .paloError (copyFromBackend src dir).dir).events,
        (copyFromBackend src dir).errorMsgs ++
          (cloneCopyFrom srcs .paloError (copyFromBackend src dir).dir).errorMsgs⟩ := by
  simp only [cloneCopyFrom, hst]

/-- An iteration that succeeds or throws ends the loop. -/
theorem cloneCopyFrom_cons_of_ne {src : SourceBackend} {srcs : List SourceBackend}
    {status : AgentStatus} {dir : LocalDir}
    (hst : (copyFromBackend src dir).status ≠ .ok .paloError) :
    cloneCopyFrom (src :: srcs) status dir = copyFromBackend src dir := by
  simp only [cloneCopyFrom, hst]

/-! ### Releasing the snapshots -/

/-- A backend the loop handles without an exception: a snapshot it makes has a non-empty
path, and its listing is shorter than `npos`. -/
def SourceBackend.Handled (src : SourceBackend) : Prop :=
  (src.makeSnapshotOk = true → src.snapshotPath ≠ some []) ∧
    ∀ listing, withRetry src.listFileDir = some listing → listing.length < npos

/-- An iteration over a handled backend returns. -/
theorem copyFromBackend_returns {src : SourceBackend} (hsrc : src.Handled) (dir : LocalDir) :
    ∃ st, (copyFromBackend src dir).status = .ok st := by
  rcases copyFromBackend_cases src dir with ⟨-, h⟩ | ⟨-, -, h⟩ | ⟨hok, hp, -⟩ |
    ⟨_, -, -, -, -, h⟩ | ⟨_, listing, _, -, -, -, hl, hn, -⟩ | ⟨_, _, _, -, -, -, -, -, h⟩
  · exact ⟨_, by rw [h]⟩
  · exact ⟨_, by rw [h]⟩
  · exact absurd hp (hsrc.1 hok)
  · exact ⟨_, by rw [h]⟩
  · rw [fileNameList_eq (hsrc.2 listing hl)] at hn
    cases hn
  · exact ⟨_, by rw [h]⟩

/-- An iteration that returns releases exactly the snapshot it made with a path. -/
theorem copyFromBackend_released {src : SourceBackend} {dir : LocalDir} {st : AgentStatus}
    (hst : (copyFromBackend src dir).status = .ok st) :
    (copyFromBackend src dir).events.filterMap CloneEvent.released =
      (copyFromBackend src dir).events.filterMap CloneEvent.madeWithPath := by
  rcases copyFromBackend_cases src dir with ⟨-, h⟩ | ⟨-, -, h⟩ | ⟨-, -, h⟩ |
    ⟨_, -, -, -, -, h⟩ | ⟨_, _, _, -, -, -, -, -, h⟩ | ⟨_, _, _, -, -, -, -, -, h⟩ <;>
    rw [h] at hst ⊢ <;> try cases hst
  all_goals simp [CloneEvent.released, CloneEvent.madeWithPath, copyFiles_released,
    copyFiles_madeWithPath]

theorem cloneCopyFrom_status {srcs : List SourceBackend} {status st : AgentStatus}
    {dir : LocalDir} (hs : status = .paloSuccess ∨ status = .paloError)
    (h : (cloneCopyFrom srcs status dir).status = .ok st) : st = .paloSuccess ∨ st = .paloError := by
  induction srcs generalizing status dir with
  | nil => cases h; exact hs
  | cons src srcs ih =>
    by_cases herr : (copyFromBackend src dir).status = .ok .paloError
    · rw [cloneCopyFrom_cons_of_error herr] at h
      exact ih (.inr rfl) h
    · rw [cloneCopyFrom_cons_of_ne herr] at h
      exact copyFromBackend_status h

/-- `_clone_copy` returns `PALO_SUCCESS` or `PALO_ERROR`, when it does not throw. -/
theorem cloneCopy_status {srcs : List SourceBackend} {dir : LocalDir} {st : AgentStatus}
    (h : (cloneCopy srcs dir).status = .ok st) : st = .paloSuccess ∨ st = .paloError :=
  cloneCopyFrom_status (.inl rfl) h

/-- **Every snapshot made is released once.** Over handled backends the loop returns, and
the snapshots it releases are, in order, those `make_snapshot` made with a path. -/
theorem cloneCopyFrom_releases {srcs : List SourceBackend} (hsrcs : ∀ src ∈ srcs, src.Handled)
    (status : AgentStatus) (dir : LocalDir) :
    (∃ st, (cloneCopyFrom srcs status dir).status = .ok st) ∧
      (cloneCopyFrom srcs status dir).events.filterMap CloneEvent.released =
        (cloneCopyFrom srcs status dir).events.filterMap CloneEvent.madeWithPath := by
  induction srcs generalizing status dir with
  | nil => simp [cloneCopyFrom]
  | cons src srcs ih =>
    obtain ⟨st, hst⟩ := copyFromBackend_returns (hsrcs src (List.mem_cons_self _ _)) dir
    have hrel := copyFromBackend_released hst
    by_cases herr : st = .paloError
    · subst herr
      obtain ⟨hret, hrest⟩ := ih (fun s hs => hsrcs s (List.mem_cons_of_mem _ hs)) .paloError
        (copyFromBackend src dir).dir
      rw [cloneCopyFrom_cons_of_error hst]
      exact ⟨hret, by simp only [List.filterMap_append, hrel, hrest]⟩
    · rw [cloneCopyFrom_cons_of_ne (by rw [hst]; exact fun h => herr (Except.ok.inj h))]
      exact ⟨⟨_, hst⟩, hrel⟩

/-- **Every snapshot made is released once**, by `_clone_copy` over handled backends. -/
theorem cloneCopy_releases {srcs : List SourceBackend} (hsrcs : ∀ src ∈ srcs, src.Handled)
    (dir : LocalDir) :
    (∃ st, (cloneCopy srcs dir).status = .ok st) ∧
      (cloneCopy srcs dir).events.filterMap CloneEvent.released =
        (cloneCopy srcs dir).events.filterMap CloneEvent.madeWithPath :=
  cloneCopyFrom_releases hsrcs .paloSuccess dir

/-- A backend whose snapshot `/snap` lists `a.dat` and `a.hdr`, each served on the first
attempt. -/
def sampleBackend : SourceBackend where
  host := "10.0.0.2".toList
  makeSnapshotOk := true
  snapshotPath := some "/snap".toList
  listFileDir _ := some "a.dat\na.hdr\n".toList
  getLength i _ := some (i + 10)
  downloadFile i _ := .succeeded (i + 10)

theorem sampleBackend_handled : sampleBackend.Handled :=
  ⟨fun _ => by decide, fun listing hl => by
    cases (show withRetry sampleBackend.listFileDir = some "a.dat\na.hdr\n".toList from rfl).symm.trans hl
    decide⟩

theorem cloneCopy_releases_sample :
    (∀ src ∈ [sampleBackend], src.Handled) ∧
      (∃ st, (cloneCopy [sampleBackend] fun _ => none).status = .ok st) ∧
      (cloneCopy [sampleBackend] fun _ => none).events.filterMap CloneEvent.released =
        (cloneCopy [sampleBackend] fun _ => none).events.filterMap CloneEvent.madeWithPath :=
  have h : ∀ src ∈ [sampleBackend], src.Handled := fun _ hsrc =>
    (List.mem_singleton.mp hsrc) ▸ sampleBackend_handled
  ⟨h, cloneCopy_releases h _⟩

/-! ### Success -/

/-- **What a success took.** `_clone_copy` started from `status` returns `PALO_SUCCESS`
only when it started from success with no backend left, or some backend made the snapshot
with a path and listed it, and every file of its `file_name_list` arrived in the emptied
directory, which is the directory left at the end. -/
theorem cloneCopyFrom_success {srcs : List SourceBackend} {status : AgentStatus}
    {dir : LocalDir} (h : (cloneCopyFrom srcs status dir).status = .ok .paloSuccess) :
    (srcs = [] ∧ status = .paloSuccess) ∨
      ∃ src ∈ srcs, ∃ path listing names, src.makeSnapshotOk = true ∧
        src.snapshotPath = some path ∧ withRetry src.listFileDir = some listing ∧
        fileNameList listing = .ok names ∧ (copyFiles src 0 names fun _ => none).ok = true ∧
        (cloneCopyFrom srcs status dir).dir = (copyFiles src 0 names fun _ => none).dir := by
  induction srcs generalizing status dir with
  | nil => cases h; exact .inl ⟨rfl, rfl⟩
  | cons src srcs ih =>
    right
    by_cases hst : (copyFromBackend src dir).status = .ok .paloError
    · rw [cloneCopyFrom_cons_of_error hst] at h ⊢
      rcases ih h with ⟨-, hbad⟩ | ⟨src', hmem, rest⟩
      · cases hbad
      · exact ⟨src', List.mem_cons_of_mem _ hmem, rest⟩
    · rw [cloneCopyFrom_cons_of_ne hst] at h ⊢
      refine ⟨src, List.mem_cons_self _ _, ?_⟩
      rcases copyFromBackend_cases src dir with ⟨-, hc⟩ | ⟨-, -, hc⟩ | ⟨-, -, hc⟩ |
        ⟨_, -, -, -, -, hc⟩ | ⟨_, _, _, -, -, -, -, -, hc⟩ |
        ⟨path, listing, names, -, hok, hp, hl, hn, hc⟩ <;> rw [hc] at h ⊢ <;> try cases h
      refine ⟨path, listing, names, hok, hp, hl, hn, ?_, rfl⟩
      cases hcopied : (copyFiles src 0 names fun _ => none).ok
      · simp [hcopied] at h
      · rfl

/-- **A whole copy**: some backend of `srcs` made the snapshot with a path and listed it,
every file of its `file_name_list` arrived in the directory emptied for it, and, when the
names are distinct, each is present in `result`'s directory with the length reported for
it. -/
def CopiedWhole (srcs : List SourceBackend) (result : CloneResult) : Prop :=
  ∃ src ∈ srcs, ∃ path listing names, src.makeSnapshotOk = true ∧
    src.snapshotPath = some path ∧ withRetry src.listFileDir = some listing ∧
    fileNameList listing = .ok names ∧ (copyFiles src 0 names fun _ => none).ok = true ∧
    (names.Nodup → ∀ j (hj : j < names.length), result.dir names[j] = withRetry (src.getLength j))

/-- A success of `_clone_copy` over at least one backend is a whole copy. -/
theorem cloneCopy_copiedWhole {srcs : List SourceBackend} {dir : LocalDir} (hne : srcs ≠ [])
    (h : (cloneCopy srcs dir).status = .ok .paloSuccess) : CopiedWhole srcs (cloneCopy srcs dir) := by
  rcases cloneCopyFrom_success h with ⟨hnil, -⟩ | ⟨src, hsrc, path, listing, names, hok, hp, hl,
    hn, hcopied, hdir⟩
  · exact absurd hnil hne
  · refine ⟨src, hsrc, path, listing, names, hok, hp, hl, hn, hcopied, fun hnd j hj => ?_⟩
    rw [cloneCopy, hdir, copyFiles_ok_dir src 0 hnd hcopied j hj, Nat.zero_add]

/-- **Success means one backend's files all arrived.** With at least one source backend,
`_clone_copy` returns `PALO_SUCCESS` only if some backend made the snapshot with a path,
listed it, and every file of its `file_name_list` arrived in the directory emptied for
it; when the names are distinct, each is present with the length reported for it. -/
theorem cloneCopy_success {srcs : List SourceBackend} {dir : LocalDir} (hne : srcs ≠ [])
    (h : (cloneCopy srcs dir).status = .ok .paloSuccess) :
    ∃ src ∈ srcs, ∃ path listing names, src.makeSnapshotOk = true ∧
      src.snapshotPath = some path ∧ withRetry src.listFileDir = some listing ∧
      fileNameList listing = .ok names ∧ (copyFiles src 0 names fun _ => none).ok = true ∧
      (names.Nodup → ∀ j (hj : j < names.length),
        (cloneCopy srcs dir).dir names[j] = withRetry (src.getLength j)) :=
  cloneCopy_copiedWhole hne h

theorem cloneCopy_success_sample :
    [sampleBackend] ≠ [] ∧ (cloneCopy [sampleBackend] fun _ => none).status = .ok .paloSuccess ∧
      ∃ src ∈ [sampleBackend], ∃ path listing names, src.makeSnapshotOk = true ∧
        src.snapshotPath = some path ∧ withRetry src.listFileDir = some listing ∧
        fileNameList listing = .ok names ∧ (copyFiles src 0 names fun _ => none).ok = true ∧
        (names.Nodup → ∀ j (hj : j < names.length),
          (cloneCopy [sampleBackend] fun _ => none).dir names[j] = withRetry (src.getLength j)) :=
  have hne : [sampleBackend] ≠ [] := List.cons_ne_nil _ _
  have h : (cloneCopy [sampleBackend] fun _ => none).status = .ok .paloSuccess := rfl
  ⟨hne, h, cloneCopy_success hne h⟩

/-! ### Headers last -/

/-- The calls a listed iteration makes: the snapshot, the listing, the file loop, the
release. -/
theorem copyFromBackend_of_listing {src : SourceBackend} (dir : LocalDir)
    {path listing : List Char} (hok : src.makeSnapshotOk = true) (hp : src.snapshotPath = some path)
    (hpath : path ≠ []) (hl : withRetry src.listFileDir = some listing)
    (hs : listing.length < npos) :
    ∃ names, fileNameList listing = .ok names ∧ (copyFromBackend src dir).events =
      [.makeSnapshot true (some path), .emptyLocalDir, .listFileDir (some listing)] ++
        (copyFiles src 0 names fun _ => none).events ++ [.releaseSnapshot path] := by
  rcases copyFromBackend_cases src dir with ⟨hok', -⟩ | ⟨-, hp', -⟩ | ⟨-, hp', -⟩ |
    ⟨_, -, -, -, hl', -⟩ | ⟨_, _, _, -, -, -, hl', hn, -⟩ |
    ⟨path', listing', names, -, -, hp', hl', hn, hc⟩
  · simp [hok] at hok'
  · simp [hp] at hp'
  · simp [hp, hpath] at hp'
  · simp [hl] at hl'
  · rw [hl] at hl'
    cases hl'
    rw [fileNameList_eq hs] at hn
    cases hn
  · rw [hp] at hp'
    rw [hl] at hl'
    cases hp'
    cases hl'
    exact ⟨names, hn, by rw [hc]⟩

/-- A name split off a list of names before and after it. -/
theorem mem_of_append_eq {nonHdr hdr done rest : List (List Char)} {h n : List Char}
    (hsplit : done ++ h :: rest = nonHdr ++ hdr) (hh : isHdr h = true)
    (hnon : ∀ m ∈ nonHdr, isHdr m = false) (hn : n ∈ nonHdr) : n ∈ done := by
  rcases List.append_eq_append_iff.mp hsplit with ⟨a', rfl, ha'⟩ | ⟨c', rfl, -⟩
  · cases a' with
    | nil => simpa using hn
    | cons x a' =>
      obtain ⟨rfl, -⟩ := List.cons_eq_cons.mp ha'
      simp [hnon h (by simp)] at hh
  · exact List.mem_append_left _ hn

/-- **Headers after the data.** In an iteration that listed `listing` (shorter than
`npos`, with distinct entries), a header's length is asked for, or the header downloaded,
only after the loop over the names before it, among them every other entry of the
listing, ran to the end and left each with the length reported for it; the loop goes on
from that directory. -/
theorem copyFromBackend_hdr_after_data {src : SourceBackend} {dir : LocalDir}
    {path listing : List Char} (hok : src.makeSnapshotOk = true)
    (hp : src.snapshotPath = some path) (hpath : path ≠ [])
    (hl : withRetry src.listFileDir = some listing) (hs : listing.length < npos)
    (hnodup : (listingEntries listing).Nodup) {h : List Char} (hh : isHdr h = true)
    (hreq : .getLength h ∈ (copyFromBackend src dir).events ∨
      .downloadFile h ∈ (copyFromBackend src dir).events) :
    ∃ done rest, fileNameList listing = .ok (done ++ h :: rest) ∧
      (∀ n ∈ listingEntries listing, isHdr n = false → n ∈ done) ∧
      copyFiles src 0 (done ++ h :: rest) (fun _ => none) =
        (copyFiles src 0 done fun _ => none).andThen (copyFiles src done.length (h :: rest)) ∧
      (copyFiles src 0 done fun _ => none).ok = true ∧
      ∀ j (hj : j < done.length),
        (copyFiles src 0 done fun _ => none).dir done[j] = withRetry (src.getLength j) := by
  obtain ⟨names, nonHdr, hdr, hnames, hperm, hsplit, hnon, hhdr⟩ := fileNameList_hdr_last hs
  obtain ⟨names', hn, hev⟩ := copyFromBackend_of_listing dir hok hp hpath hl hs
  rw [hnames] at hn
  cases hn
  have hreq' : .getLength h ∈ (copyFiles src 0 names fun _ => none).events ∨
      .downloadFile h ∈ (copyFiles src 0 names fun _ => none).events := by
    rw [hev] at hreq
    simpa using hreq
  have hmem := copyFiles_event_names src 0 names _ hreq'
  have hnd : names.Nodup := hperm.nodup_iff.mpr hnodup
  obtain ⟨done, rest, rfl⟩ := List.append_of_mem hmem
  have hh_done : h ∉ done := fun hd =>
    (List.nodup_cons.mp (List.nodup_middle.mp hnd)).1 (List.mem_append_left _ hd)
  have happend := copyFiles_append src 0 done (h :: rest) (fun _ => none)
  have hok_done : (copyFiles src 0 done fun _ => none).ok = true := by
    by_contra hfail
    rw [happend, FilesCopied.andThen, if_neg hfail] at hreq'
    exact hh_done (copyFiles_event_names src 0 done _ hreq')
  have hdir := copyFiles_ok_dir src 0 (hnd.sublist (List.sublist_append_left _ _)) hok_done
  refine ⟨done, rest, hnames, fun n hn hnh => ?_, by rw [happend, Nat.zero_add], hok_done,
    fun j hj => by simpa using hdir j hj⟩
  have : n ∈ nonHdr := by
    rcases List.mem_append.mp (hsplit ▸ hperm.mem_iff.mpr hn) with hn | hn
    · exact hn
    · exact absurd (hhdr n hn) (by simp [hnh])
  exact mem_of_append_eq hsplit hh hnon this

theorem copyFromBackend_hdr_after_data_sample :
    ∃ done rest, fileNameList "a.dat\na.hdr\n".toList = .ok (done ++ "a.hdr".toList :: rest) ∧
      (∀ n ∈ listingEntries "a.dat\na.hdr\n".toList, isHdr n = false → n ∈ done) ∧
      copyFiles sampleBackend 0 (done ++ "a.hdr".toList :: rest) (fun _ => none) =
        (copyFiles sampleBackend 0 done fun _ => none).andThen
          (copyFiles sampleBackend done.length ("a.hdr".toList :: rest)) ∧
      (copyFiles sampleBackend 0 done fun _ => none).ok = true ∧
      ∀ j (hj : j < done.length), (copyFiles sampleBackend 0 done fun _ => none).dir done[j] =
        withRetry (sampleBackend.getLength j) :=
  @copyFromBackend_hdr_after_data sampleBackend (fun _ => none) "/snap".toList
    "a.dat\na.hdr\n".toList rfl rfl (by decide) rfl (by decide) (by decide) "a.hdr".toList
    (by decide) (.inl (by decide))

/-! ### Two inputs the loop mishandles -/

/-- **No source, success.** With an empty `src_backends` the loop never runs and
`_clone_copy` returns the `PALO_SUCCESS` it started from, having made no call and copied
nothing. -/
theorem cloneCopy_nil (dir : LocalDir) : cloneCopy [] dir = ⟨.ok .paloSuccess, dir, [], []⟩ :=
  rfl

/-- **An empty snapshot path throws.** When the first backend makes the snapshot and
returns `snapshot_path = ""`, `src_file_path->at(src_file_path->length() - 1)` asks for
index `npos` and throws `std::out_of_range`: `_clone_copy` does not return, and the
snapshot is never released. -/
theorem cloneCopy_empty_snapshotPath (src : SourceBackend) (srcs : List SourceBackend)
    (dir : LocalDir) (hok : src.makeSnapshotOk = true) (hpath : src.snapshotPath = some []) :
    cloneCopy (src :: srcs) dir = ⟨.error .outOfRange, dir, [.makeSnapshot true (some [])], []⟩ := by
  simp [cloneCopy, cloneCopyFrom, copyFromBackend, hok, hpath, stringAt]

/-- A backend that makes the snapshot but returns an empty `snapshot_path`. -/
def emptyPathBackend : SourceBackend :=
  { sampleBackend with snapshotPath := some [] }

theorem cloneCopy_emptyPathBackend :
    emptyPathBackend.makeSnapshotOk = true ∧ emptyPathBackend.snapshotPath = some [] ∧
      cloneCopy [emptyPathBackend] (fun _ => none) =
        ⟨.error .outOfRange, fun _ => none, [.makeSnapshot true (some [])], []⟩ :=
  ⟨rfl, rfl, cloneCopy_empty_snapshotPath _ _ _ rfl rfl⟩

end PaloAgent
