import PaloAgent.Worker.Finish

/-!
# The push handler

After `_get_next_task_index` has picked a task (`PaloAgent.Dispatch.NextTaskIndex`),
`_push_worker_thread_callback` runs it by its push type:

* `LOAD` and `LOAD_DELETE` go through a `Pusher`: `init`, then `process` in a loop
  `while (retry_time < PUSH_MAX_RETRY)` that calls `process` again after an internal
  error (`PALO_ERROR`);
* `DELETE` is one `delete_data` call of the engine;
* any other push type is refused with `PALO_TASK_REQUEST_ERROR`.

The handler then increments `_s_report_version` after a success and sends one finish
request with a single message. `processWithRetry` is the loop, with
`PUSH_MAX_RETRY - retry_time` as its fuel; its two lemmas say, for any fuel, which call
ends it. The comment above the loop means it to retry an internal error, but since
`PUSH_MAX_RETRY` is `1`, **the retry never happens**: a load calls `process` once, and
that call's status is the handler's (`pushStatus_load`).
-/

namespace PaloAgent

/-- `TPushType`: the push types the handler tells apart; any other value is `other`. -/
inductive TPushType
  | load
  | delete
  | loadDelete
  | other (code : Int)
  deriving DecidableEq, Repr

/-- The `TPushReq` fields the handler reads. -/
structure TPushReq where
  pushType : TPushType
  version : Int
  versionHash : Int
  deriving DecidableEq, Repr

/-- `PUSH_MAX_RETRY`. -/
def pushMaxRetry : Nat := 1

/-- The engine's answers to a push: `Pusher::init`, the status of the `i`-th call of
`Pusher::process`, `delete_data`, and the tablet infos these calls left in
`tablet_infos`. -/
structure PushEngine where
  init : AgentStatus
  process : Nat → AgentStatus
  deleteData : OLAPStatus
  tabletInfos : List TTabletInfo

/-! ### The retry loop -/

/-- `while (retry_time < PUSH_MAX_RETRY)`: call `process`, and again after `PALO_ERROR`
while retries remain; `fuel` is `PUSH_MAX_RETRY - retry_time`. The last status and the
number of calls made. -/
def processWithRetry (process : Nat → AgentStatus) (status : AgentStatus) (retryTime : Nat) :
    Nat → AgentStatus × Nat
  | 0 => (status, retryTime)
  | fuel + 1 =>
    if process retryTime = .paloError then
      processWithRetry process .paloError (retryTime + 1) fuel
    else (process retryTime, retryTime + 1)

section Retry

variable {process : Nat → AgentStatus} {status : AgentStatus}

/-- **The loop stops at the first call that is not an internal error**, when one comes
before the retries run out. -/
theorem processWithRetry_of_first_ne {retryTime fuel k : Nat} (hk : k < fuel)
    (herr : ∀ i < k, process (retryTime + i) = .paloError)
    (hne : process (retryTime + k) ≠ .paloError) :
    processWithRetry process status retryTime fuel = (process (retryTime + k), retryTime + k + 1) := by
  induction k generalizing retryTime fuel status with
  | zero =>
    obtain ⟨fuel, rfl⟩ : ∃ f, fuel = f + 1 := ⟨fuel - 1, by omega⟩
    exact if_neg hne
  | succ k ih =>
    obtain ⟨fuel, rfl⟩ : ∃ f, fuel = f + 1 := ⟨fuel - 1, by omega⟩
    have h0 : process retryTime = .paloError := herr 0 k.succ_pos
    have hshift : ∀ i, retryTime + 1 + i = retryTime + (i + 1) := fun i => by omega
    rw [processWithRetry, if_pos h0, ih (by omega) (fun i hi => hshift i ▸ herr (i + 1) (by omega))
      (hshift k ▸ hne), hshift k]

/-- **The loop gives up after `fuel` calls** when every call is an internal error, with
`PALO_ERROR` unless it made no call. -/
theorem processWithRetry_of_all_error {retryTime fuel : Nat}
    (herr : ∀ i < fuel, process (retryTime + i) = .paloError) :
    processWithRetry process status retryTime fuel =
      (if fuel = 0 then status else .paloError, retryTime + fuel) := by
  induction fuel generalizing retryTime status with
  | zero => rfl
  | succ fuel ih =>
    have h0 : process retryTime = .paloError := herr 0 fuel.succ_pos
    have hshift : ∀ i, retryTime + 1 + i = retryTime + (i + 1) := fun i => by omega
    rw [processWithRetry, if_pos h0, ih (fun i hi => hshift i ▸ herr (i + 1) (by omega)), ite_self,
      if_neg fuel.succ_ne_zero, hshift fuel]

/-- With `PUSH_MAX_RETRY = 1` the loop calls `process` once, whatever it returns. -/
theorem processWithRetry_pushMaxRetry (process : Nat → AgentStatus) :
    processWithRetry process .paloSuccess 0 pushMaxRetry = (process 0, 1) := by
  unfold pushMaxRetry
  by_cases herr : process 0 = .paloError
  · rw [processWithRetry_of_all_error fun i hi => by rw [Nat.lt_one_iff.mp hi]; exact herr, herr]
    rfl
  · exact processWithRetry_of_first_ne Nat.one_pos (fun i hi => absurd hi (Nat.not_lt_zero i)) herr

end Retry

/-! ### The handler -/

/-- The handler's status after the engine calls, and the number of `process` calls. -/
def pushStatus (req : TPushReq) (engine : PushEngine) : AgentStatus × Nat :=
  match req.pushType with
  | .load | .loadDelete =>
    if engine.init = .paloSuccess then
      processWithRetry engine.process .paloSuccess 0 pushMaxRetry
    else (engine.init, 0)
  | .delete => (if engine.deleteData ≠ .olapSuccess then .paloError else .paloSuccess, 0)
  | .other _ => (.paloTaskRequestError, 0)

/-- The finish request of `_push_worker_thread_callback`, with the counter at
`reportVersion` when the engine calls return. -/
def pushFinish (taskType : TTaskType) (signature : Int) (req : TPushReq) (engine : PushEngine)
    (reportVersion : Nat) : TFinishTaskRequest :=
  let status := (pushStatus req engine).1
  let request : TFinishTaskRequest :=
    { TFinishTaskRequest.basic taskType signature
        (if status = .paloSuccess then ⟨.ok, ["push success".toList]⟩
        else if status = .paloTaskRequestError then
          ⟨.analysisError, ["push request push_type invalid.".toList]⟩
        else ⟨.runtimeError, ["push failed".toList]⟩) with
      reportVersion := some (reportVersionAfter (status = .paloSuccess) reportVersion)
      finishTabletInfos := if status = .paloSuccess then some engine.tabletInfos else none }
  if req.pushType = .delete then
    { request with requestVersion := some req.version, requestVersionHash := some req.versionHash }
  else request

section Handler

variable {req : TPushReq} {engine : PushEngine}

/-- **A load is processed once.** With `PUSH_MAX_RETRY = 1`, a `LOAD` or `LOAD_DELETE`
push calls `Pusher::process` exactly once after a successful `init` and never after a
failed one, and that one call's status is the handler's: an internal error is not
retried. -/
theorem pushStatus_load (hload : req.pushType = .load ∨ req.pushType = .loadDelete) :
    pushStatus req engine =
      if engine.init = .paloSuccess then (engine.process 0, 1) else (engine.init, 0) := by
  rcases hload with h | h <;> simp [pushStatus, h, processWithRetry_pushMaxRetry]

end Handler

end PaloAgent
