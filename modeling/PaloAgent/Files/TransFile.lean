import PaloAgent.Files.CppString

/-!
# The command lines of the file transfer tool

The upload and restore handlers move files with an external tool,
`config::trans_file_tool_path`, which `AgentUtils::exec_cmd` runs from one command line
built by concatenation:

* upload: `sh <tool> <label> upload <local path> <remote path> <info file> file_list`;
* restore: `sh <tool> <label> download <local path> <remote path> <info file>`.

No argument is quoted, so the tool gets the arguments the handler means only if the
shell splits the line back into them. `shellWords` is that split for a command made of
blanks and of characters `sh` reads literally (`plainShellChar`): the maximal runs of
non-blank characters.

**The command round trip** (`shellWords_uploadCommand`, `shellWords_restoreDownloadCommand`):
when every argument is a `PlainWord` (non-empty, of plain characters), the words are
exactly the arguments, in order. A path with a blank in it is split in two, and every
later argument shifts by one (the example after the round trips).

The label and the local paths are built the same way. A restore's label ends in
`_<tablet_id>`, an upload appends `/<tablet_id>` to the request's path when the request
sets a tablet id, and a restore downloads into `<shard root>/<tablet_id>/`. Each stays a
plain word when its parts are (`PlainWord.restoreLabel`, `PlainWord.uploadLocalFilePath`,
`PlainWord.restoreLocalFilePath`), since a decimal id is a sign and digits.
-/

namespace PaloAgent

/-! ### Words the shell passes through -/

/-- The characters `sh` reads literally in a word: letters, digits and `/._-`. -/
def plainShellChar (c : Char) : Bool :=
  c.isAlphanum || c == '/' || c == '.' || c == '_' || c == '-'

/-- A word `sh` passes on unchanged: non-empty, and of plain characters only. -/
def PlainWord (w : List Char) : Prop := w ≠ [] ∧ ∀ c ∈ w, plainShellChar c = true

instance : DecidablePred PlainWord := fun _ => inferInstanceAs (Decidable (_ ∧ _))

/-- The words `sh` splits a command of plain characters and blanks into: the maximal runs
of non-blank characters. -/
def shellWords (command : List Char) : List (List Char) :=
  (command.splitOn ' ').filter (· ≠ [])

theorem PlainWord.blank_not_mem {w : List Char} (h : PlainWord w) : ' ' ∉ w :=
  fun hmem => absurd (h.2 ' ' hmem) (by decide)

theorem PlainWord.append {u v : List Char} (hu : PlainWord u) (hv : ∀ c ∈ v, plainShellChar c) :
    PlainWord (u ++ v) :=
  ⟨by simp [hu.1], fun c hc => (List.mem_append.mp hc).elim (hu.2 c) (hv c)⟩

/-- A sign and digits are plain. -/
theorem plainShellChar_of_mem_decimal {n : Int} {c : Char} (h : c ∈ decimal n) :
    plainShellChar c = true := by
  rcases mem_decimal h with rfl | ⟨d, hd, rfl⟩
  · rfl
  · have : ∀ m < 10, plainShellChar (Nat.digitChar m) = true := by decide
    exact this d hd

/-- Blank-separated plain words split back into themselves. -/
theorem shellWords_intercalate {words : List (List Char)} (h : ∀ w ∈ words, PlainWord w) :
    shellWords ([' '].intercalate words) = words := by
  rcases eq_or_ne words [] with rfl | hne
  · rfl
  · rw [shellWords, List.splitOn_intercalate words ' ' (fun w hw => (h w hw).blank_not_mem) hne]
    exact List.filter_eq_self.mpr fun w hw => by simpa using (h w hw).1

/-! ### The paths -/

/-- `config::agent_tmp_dir` and `config::trans_file_tool_path`. -/
structure TransFileConfig where
  agentTmpDir : List Char
  transFileToolPath : List Char
  deriving DecidableEq, Repr

/-- The label of a restore: `<tid>_<now>`, then `"_" << tablet_id`. -/
def restoreLabel (threadLabel : List Char) (tabletId : Int) : List Char :=
  threadLabel ++ '_' :: decimal tabletId

/-- `config::agent_tmp_dir + "/" + label`: the temporary file of the remote source info. -/
def infoFilePath (agentTmpDir label : List Char) : List Char := agentTmpDir ++ '/' :: label

/-- The local path of an upload: `local_file_path`, then `"/" << tablet_id` when the
request sets `tablet_id`. -/
def uploadLocalFilePath (localFilePath : List Char) (tabletId : Option Int) : List Char :=
  localFilePath ++
    match tabletId with
    | some id => '/' :: decimal id
    | none => []

/-- The directory a restore downloads into: `local_shard_root_path << "/" << tablet_id << "/"`. -/
def restoreLocalFilePath (localShardRootPath : List Char) (tabletId : Int) : List Char :=
  localShardRootPath ++ '/' :: decimal tabletId ++ ['/']

theorem PlainWord.restoreLabel {threadLabel : List Char} (hlabel : PlainWord threadLabel)
    (tabletId : Int) : PlainWord (restoreLabel threadLabel tabletId) :=
  hlabel.append fun _ hc => (List.mem_cons.mp hc).elim (fun h => h ▸ rfl) plainShellChar_of_mem_decimal

theorem PlainWord.infoFilePath {agentTmpDir label : List Char} (hdir : PlainWord agentTmpDir)
    (hlabel : PlainWord label) : PlainWord (infoFilePath agentTmpDir label) :=
  hdir.append fun c hc => (List.mem_cons.mp hc).elim (fun h => h ▸ rfl) (hlabel.2 c)

theorem PlainWord.uploadLocalFilePath {localFilePath : List Char} (hlocal : PlainWord localFilePath)
    (tabletId : Option Int) : PlainWord (uploadLocalFilePath localFilePath tabletId) := by
  refine hlocal.append fun c hc => ?_
  cases tabletId with
  | none => simp at hc
  | some id => exact (List.mem_cons.mp hc).elim (fun h => h ▸ rfl) plainShellChar_of_mem_decimal

theorem PlainWord.restoreLocalFilePath {localShardRootPath : List Char}
    (hshard : PlainWord localShardRootPath) (tabletId : Int) :
    PlainWord (restoreLocalFilePath localShardRootPath tabletId) := by
  rw [PaloAgent.restoreLocalFilePath, List.append_assoc]
  refine hshard.append fun c hc => ?_
  simp only [List.mem_append, List.mem_cons, List.not_mem_nil, or_false] at hc
  rcases hc with (rfl | hc) | rfl
  · rfl
  · exact plainShellChar_of_mem_decimal hc
  · rfl

/-! ### The commands -/

/-- The upload command of `_upload_worker_thread_callback`. -/
def uploadCommand (transFileToolPath label localFilePath remoteFilePath infoFilePath : List Char) :
    List Char :=
  "sh ".toList ++ transFileToolPath ++ " ".toList ++ label ++ " upload ".toList ++
    localFilePath ++ " ".toList ++ remoteFilePath ++ " ".toList ++ infoFilePath ++ " ".toList ++
    "file_list".toList

/-- The download command of `_restore_worker_thread_callback`. -/
def restoreDownloadCommand (transFileToolPath label localFilePath remoteFilePath infoFilePath : List Char) :
    List Char :=
  "sh ".toList ++ transFileToolPath ++ " ".toList ++ label ++ " download ".toList ++
    localFilePath ++ " ".toList ++ remoteFilePath ++ " ".toList ++ infoFilePath

section Commands

variable {transFileToolPath label localFilePath remoteFilePath infoFilePath : List Char}

theorem uploadCommand_eq_intercalate :
    uploadCommand transFileToolPath label localFilePath remoteFilePath infoFilePath =
      [' '].intercalate ["sh".toList, transFileToolPath, label, "upload".toList, localFilePath,
        remoteFilePath, infoFilePath, "file_list".toList] := by
  simp [uploadCommand, List.intercalate]

theorem restoreDownloadCommand_eq_intercalate :
    restoreDownloadCommand transFileToolPath label localFilePath remoteFilePath infoFilePath =
      [' '].intercalate ["sh".toList, transFileToolPath, label, "download".toList, localFilePath,
        remoteFilePath, infoFilePath] := by
  simp [restoreDownloadCommand, List.intercalate]

variable (htool : PlainWord transFileToolPath) (hlabel : PlainWord label)
  (hlocal : PlainWord localFilePath) (hremote : PlainWord remoteFilePath)
  (hinfo : PlainWord infoFilePath)
include htool hlabel hlocal hremote hinfo

/-- **The upload command round trip**: the tool gets the upload's arguments, in order. -/
theorem shellWords_uploadCommand :
    shellWords (uploadCommand transFileToolPath label localFilePath remoteFilePath infoFilePath) =
      ["sh".toList, transFileToolPath, label, "upload".toList, localFilePath, remoteFilePath,
        infoFilePath, "file_list".toList] := by
  rw [uploadCommand_eq_intercalate]
  refine shellWords_intercalate ?_
  simp only [List.mem_cons, List.mem_singleton, List.not_mem_nil, or_false]
  rintro w (rfl | rfl | rfl | rfl | rfl | rfl | rfl | rfl) <;> first | assumption | decide

/-- **The restore command round trip**: the tool gets the download's arguments, in order. -/
theorem shellWords_restoreDownloadCommand :
    shellWords (restoreDownloadCommand transFileToolPath label localFilePath remoteFilePath infoFilePath) =
      ["sh".toList, transFileToolPath, label, "download".toList, localFilePath, remoteFilePath,
        infoFilePath] := by
  rw [restoreDownloadCommand_eq_intercalate]
  refine shellWords_intercalate ?_
  simp only [List.mem_cons, List.mem_singleton, List.not_mem_nil, or_false]
  rintro w (rfl | rfl | rfl | rfl | rfl | rfl | rfl) <;> first | assumption | decide

end Commands

/-- A remote path with a blank: the tool sees `my` as the remote path and `dir` as the
info file. -/
example : shellWords (uploadCommand "t.sh".toList "1_2".toList "/d".toList "my dir".toList
      "/tmp/1_2".toList) =
    ["sh".toList, "t.sh".toList, "1_2".toList, "upload".toList, "/d".toList, "my".toList,
      "dir".toList, "/tmp/1_2".toList, "file_list".toList] := by
  decide

end PaloAgent
