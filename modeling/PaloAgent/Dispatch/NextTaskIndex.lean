import PaloAgent.Dispatch.Registry
import PaloAgent.Dispatch.Rate
import Mathlib.Data.Rat.Cast.Order
import Mathlib.Tactic.Positivity

/-!
# The push scheduler's selection

A push worker does not take the head of its deque: `_get_next_task_index(thread_count,
tasks, priority)` scans `tasks` from the front and returns the index to erase.

* A **HIGH-lane** worker returns the first task whose `priority` is set and `HIGH`, or
  `-1` when there is none.
* A **NORMAL-lane** worker skips the users in `improper_users`; for any other candidate it
  selects the task when its user runs nothing yet or its running share
  `(running + 1) / thread_count` does not exceed its admitted share `total_user / total`
  (compared as `float`s, `PaloAgent/Dispatch/Rate.lean`); otherwise the user becomes
  improper. When no task qualifies it falls back to index `0`.

On an index it increments `_s_running_task_user_count[tasks[index].task_type][user]`. The
`user` there is the loop's variable, updated only by tasks that carry `resource_info`, so
a task without one is scanned and credited under the user of the last task before it that
had one (`carryUser`).

The main results are `scanTasks_high` and `scanTasks_normal`, which read the loop as a
search over the queue, and the theorem assembled from them: wherever the carried user is
each task's own (`CarriesOwnUser`), the selection is the first HIGH task, respectively the
first task whose user has not come earlier and whose share fits. The same selection over
exact rational shares (`exactNextTaskIndex`) is stated beside it, to show where single
precision makes the two differ.
-/

namespace PaloAgent

open TAgentTaskRequest

/-- The loop's `user` after reading `task`: `resource_info.user` when it is set, the
previous value otherwise. -/
def carryUser (user : String) (task : TAgentTaskRequest) : String :=
  match task.resourceInfo with
  | some info => info.user
  | none => user

/-- The NORMAL-lane test of `_get_next_task_index` for `task` under the loop's `user`:
the user runs no task of the kind yet, or `user_running_rate <= user_total_rate`. -/
def shareFits (threadCount : Nat) (reg : Registry) (task : TAgentTaskRequest)
    (user : String) : Bool :=
  reg.runningTaskUserCount task.taskType user = 0 ||
    (floatDiv (uint32Succ (reg.runningTaskUserCount task.taskType user)) threadCount).le
      (floatDiv (reg.totalTaskUserCount task.taskType user) (reg.totalTaskCount task.taskType))

/-- The `for` loop of `_get_next_task_index` from position `i` on, with the loop's `user`
and `improper_users`: the position where it breaks, if any, and `user` at that point. -/
def scanTasks (threadCount : Nat) (reg : Registry) (priority : TPriority) :
    List TAgentTaskRequest → Nat → String → List String → Option Nat × String
  | [], _, user, _ => (none, user)
  | task :: tasks, i, user, improperUsers =>
    let user := carryUser user task
    if priority = .high then
      if task.priority = some .high then (some i, user)
      else scanTasks threadCount reg priority tasks (i + 1) user improperUsers
    else if user ∈ improperUsers then
      scanTasks threadCount reg priority tasks (i + 1) user improperUsers
    else if shareFits threadCount reg task user then (some i, user)
    else scanTasks threadCount reg priority tasks (i + 1) user (user :: improperUsers)

/-- `_get_next_task_index(thread_count, tasks, priority)`: the index returned and the
registry after the running-count increment. The callers wait until `_tasks` is non-empty;
on an empty deque the fallback's `tasks[0]` is undefined in the source and reads
`default` here. -/
def getNextTaskIndex (threadCount : Nat) (tasks : List TAgentTaskRequest)
    (priority : TPriority) (reg : Registry) : Int × Registry :=
  match scanTasks threadCount reg priority tasks 0 "" [] with
  | (some i, user) => (i, reg.addRunningTask (tasks.getD i default).taskType user)
  | (none, _) =>
    if priority = .high then (-1, reg)
    else (0, reg.addRunningTask (tasks.getD 0 default).taskType (tasks.getD 0 default).user)

/-! ### The scan as a search -/

section Scan

variable {threadCount : Nat} {reg : Registry} {priority : TPriority}

/-- Starting the scan at position `i` shifts every position it returns by `i`. -/
theorem scanTasks_shift (tasks : List TAgentTaskRequest) (i : Nat) (user : String)
    (improper : List String) :
    scanTasks threadCount reg priority tasks i user improper =
      Prod.map (Option.map (· + i)) id (scanTasks threadCount reg priority tasks 0 user improper) := by
  induction tasks generalizing i user improper with
  | nil => rfl
  | cons task tasks ih =>
    simp only [scanTasks, ih (i + 1), ih 1]
    split_ifs <;> simp [Prod.map, Option.map_map, Function.comp_def, Nat.add_assoc, Nat.add_comm 1 i]

/-- The scan started at `i` only returns positions of the queue, counted from `i`. -/
theorem scanTasks_lt {tasks : List TAgentTaskRequest} {i : Nat} {user : String}
    {improper : List String} {j : Nat}
    (h : (scanTasks threadCount reg priority tasks i user improper).1 = some j) :
    i ≤ j ∧ j < i + tasks.length := by
  induction tasks generalizing i user improper with
  | nil => simp [scanTasks] at h
  | cons task tasks ih =>
    simp only [scanTasks] at h
    split_ifs at h <;> first | (simp at h ⊢; omega) | (specialize ih h; simp; omega)

/-- The scan's `user` is each task's own user: every task without `resource_info` comes
where the carried user is `""`. -/
def CarriesOwnUser : String → List TAgentTaskRequest → Prop
  | _, [] => True
  | user, task :: tasks =>
    carryUser user task = task.user ∧ CarriesOwnUser (carryUser user task) tasks

instance decidableCarriesOwnUser :
    ∀ (user : String) (tasks : List TAgentTaskRequest), Decidable (CarriesOwnUser user tasks)
  | _, [] => isTrue trivial
  | user, task :: tasks =>
    have := decidableCarriesOwnUser (carryUser user task) tasks
    inferInstanceAs (Decidable (_ ∧ _))

/-- Every request carries `resource_info`: then the carried user is always the request's
own. -/
theorem carriesOwnUser_of_isSome {tasks : List TAgentTaskRequest}
    (h : ∀ t ∈ tasks, t.resourceInfo.isSome) (user : String) : CarriesOwnUser user tasks := by
  induction tasks generalizing user with
  | nil => trivial
  | cons task tasks ih =>
    obtain ⟨info, hinfo⟩ := Option.isSome_iff_exists.mp (h task (List.mem_cons_self _ _))
    exact ⟨by simp [carryUser, TAgentTaskRequest.user, hinfo],
      ih (fun t ht => h t (List.mem_cons_of_mem _ ht)) _⟩

/-- Where the carried user is each task's own, the scan stops with the user of the task it
stops at. -/
theorem scanTasks_user_own {tasks : List TAgentTaskRequest} {user : String}
    {improper : List String} {j : Nat} {u : String} (hu : CarriesOwnUser user tasks)
    (h : scanTasks threadCount reg priority tasks 0 user improper = (some j, u)) :
    u = (tasks.getD j default).user := by
  induction tasks generalizing j user improper with
  | nil => cases h
  | cons task tasks ih =>
    obtain ⟨hown, hu⟩ := hu
    have next : ∀ improper', scanTasks threadCount reg priority tasks (0 + 1) (carryUser user task)
        improper' = (some j, u) → u = ((task :: tasks).getD j default).user := fun improper' h => by
      rw [scanTasks_shift] at h
      rcases hs : scanTasks threadCount reg priority tasks 0 (carryUser user task) improper' with
        ⟨_ | j', u'⟩ <;> simp only [hs, Prod.map, Option.map_none', Option.map_some', id,
          Prod.mk.injEq, Option.some.injEq, reduceCtorEq, false_and] at h
      obtain ⟨rfl, rfl⟩ := h
      simpa using ih hu hs
    simp only [scanTasks] at h
    split_ifs at h
    all_goals first
      | (simp only [Prod.mk.injEq, Option.some.injEq] at h; obtain ⟨rfl, rfl⟩ := h; simpa using hown)
      | exact next _ h

/-- **HIGH lane.** The scan stops at the first task whose priority is set and `HIGH`. -/
theorem scanTasks_high (tasks : List TAgentTaskRequest) (user : String)
    (improper : List String) (hu : CarriesOwnUser user tasks) :
    scanTasks threadCount reg .high tasks 0 user improper =
      match tasks.findIdx? (·.priority = some .high) with
      | some j => (some j, (tasks.getD j default).user)
      | none => (none, tasks.foldl carryUser user) := by
  induction tasks generalizing user with
  | nil => rfl
  | cons task tasks ih =>
    obtain ⟨hown, hu⟩ := hu
    simp only [scanTasks, if_true, List.findIdx?_cons, decide_eq_true_eq]
    split_ifs
    · simp [hown]
    · rw [scanTasks_shift, ih _ hu, List.findIdx?_succ]
      cases tasks.findIdx? (·.priority = some .high) <;> simp [Prod.map]

/-- The first position whose task's user is not in `seen` (extended by the users passed)
and whose share fits. -/
def firstNewUserIndex (fits : TAgentTaskRequest → Bool) :
    List TAgentTaskRequest → List String → Option Nat
  | [], _ => none
  | task :: tasks, seen =>
    if task.user ∉ seen ∧ fits task then some 0
    else (firstNewUserIndex fits tasks (task.user :: seen)).map (· + 1)

/-- **NORMAL lane.** With the carried user exact, `improper_users` holds exactly the users
passed so far: each was either rejected or already improper. So the scan stops at the
first task whose user has not come earlier and whose share fits. -/
theorem scanTasks_normal (tasks : List TAgentTaskRequest) (user : String)
    (improper seen : List String) (hseen : ∀ u, u ∈ improper ↔ u ∈ seen)
    (hu : CarriesOwnUser user tasks) :
    scanTasks threadCount reg .normal tasks 0 user improper =
      match firstNewUserIndex (fun t => shareFits threadCount reg t t.user) tasks seen with
      | some j => (some j, (tasks.getD j default).user)
      | none => (none, tasks.foldl carryUser user) := by
  induction tasks generalizing user improper seen with
  | nil => rfl
  | cons task tasks ih =>
    obtain ⟨hown, hu⟩ := hu
    rw [hown] at hu
    have step : ∀ improper', (∀ u, u ∈ improper' ↔ u ∈ task.user :: seen) →
        scanTasks threadCount reg .normal tasks 1 task.user improper' =
          match (firstNewUserIndex (fun t => shareFits threadCount reg t t.user) tasks
              (task.user :: seen)).map (· + 1) with
          | some j => (some j, ((task :: tasks).getD j default).user)
          | none => (none, tasks.foldl carryUser task.user) := fun improper' h => by
      rw [scanTasks_shift, ih _ _ _ h hu]
      cases firstNewUserIndex _ tasks _ <;> simp [Prod.map]
    simp only [scanTasks, reduceCtorEq, if_false, firstNewUserIndex, hown, hseen, List.foldl_cons]
    by_cases hmem : task.user ∈ seen
    · simpa [hmem] using step improper fun u => by
        simp only [hseen, List.mem_cons]; exact ⟨Or.inr, fun h => h.elim (· ▸ hmem) id⟩
    · by_cases hfit : shareFits threadCount reg task task.user
      · simp [hmem, hfit]
      · simpa [hmem, hfit] using step (task.user :: improper) fun u => by simp [hseen]

end Scan

/-! ### What `_get_next_task_index` returns -/

section Index

variable (threadCount : Nat) (reg : Registry)

/-- Every call either finds nothing on the HIGH lane and changes nothing, or returns a
position of the (non-empty) queue and credits one running task of that position's kind to
some user, the position's own user wherever the carried user is each task's own. This is
all the dispatcher needs of the selection. -/
theorem getNextTaskIndex_cases {tasks : List TAgentTaskRequest} (priority : TPriority)
    (hne : tasks ≠ []) :
    getNextTaskIndex threadCount tasks priority reg = (-1, reg) ∨
      ∃ i < tasks.length, ∃ user, getNextTaskIndex threadCount tasks priority reg =
        ((i : Int), reg.addRunningTask (tasks.getD i default).taskType user) ∧
        (CarriesOwnUser "" tasks → user = (tasks.getD i default).user) := by
  unfold getNextTaskIndex
  rcases h : scanTasks threadCount reg priority tasks 0 "" [] with ⟨_ | i, user⟩
  · split_ifs
    · exact .inl rfl
    · exact .inr ⟨0, List.length_pos.mpr hne, _, rfl, fun _ => rfl⟩
  · have := scanTasks_lt (congrArg Prod.fst h)
    exact .inr ⟨i, by omega, user, rfl, fun hu => scanTasks_user_own hu h⟩

/-- A HIGH-lane scan stops only at a HIGH task. -/
theorem scanTasks_high_priority {tasks : List TAgentTaskRequest} {user : String}
    {improper : List String} {j : Nat}
    (h : (scanTasks threadCount reg .high tasks 0 user improper).1 = some j) :
    (tasks.getD j default).priority = some .high := by
  induction tasks generalizing j user with
  | nil => simp [scanTasks] at h
  | cons task tasks ih =>
    simp only [scanTasks, if_true] at h
    split_ifs at h with hhigh
    · obtain rfl : 0 = j := by simpa using h
      simpa using hhigh
    · rw [scanTasks_shift] at h
      obtain ⟨j', hj', rfl⟩ := Option.map_eq_some'.mp h
      simpa using ih hj'

/-- A HIGH-lane index that is not negative names a HIGH task. -/
theorem getNextTaskIndex_high_toNat {tasks : List TAgentTaskRequest}
    (h : ¬(getNextTaskIndex threadCount tasks .high reg).1 < 0) :
    (tasks.getD (getNextTaskIndex threadCount tasks .high reg).1.toNat default).priority =
      some .high := by
  unfold getNextTaskIndex at h ⊢
  rcases hs : scanTasks threadCount reg .high tasks 0 "" [] with ⟨_ | j, user⟩ <;>
    simp only [hs, if_true] at h ⊢
  · exact absurd (by decide) h
  · rw [Int.toNat_natCast]
    exact scanTasks_high_priority threadCount reg (congrArg Prod.fst hs)

/-- **The HIGH lane takes only HIGH tasks**: whatever the queue and the carried user, a
HIGH-lane worker that gets an index gets a task whose `priority` is set and `HIGH`. -/
theorem getNextTaskIndex_high_priority {tasks : List TAgentTaskRequest} {i : Nat}
    (h : (getNextTaskIndex threadCount tasks .high reg).1 = i) :
    (tasks.getD i default).priority = some .high := by
  have hhigh := @getNextTaskIndex_high_toNat threadCount reg tasks (by omega)
  rwa [h, Int.toNat_natCast] at hhigh

theorem getNextTaskIndex_high_priority_sample :
    (getNextTaskIndex 1 [⟨.push, 1, some ⟨"a"⟩, some .normal⟩, ⟨.push, 2, none, some .high⟩]
        .high Registry.empty).1 = ((1 : Nat) : Int) ∧
      ([⟨.push, 1, some ⟨"a"⟩, some .normal⟩, ⟨.push, 2, none, some .high⟩].getD 1
        (default : TAgentTaskRequest)).priority = some .high :=
  have h : (getNextTaskIndex 1 [⟨.push, 1, some ⟨"a"⟩, some .normal⟩, ⟨.push, 2, none, some .high⟩]
      .high Registry.empty).1 = ((1 : Nat) : Int) := by decide
  ⟨h, getNextTaskIndex_high_priority 1 Registry.empty h⟩

/-- The selection as the code makes it wherever the carried user is each task's own: on
the HIGH lane the first task whose `priority` is set and `HIGH`; on the NORMAL lane the
first task whose user has not come earlier in the queue and whose share fits. -/
def fairTaskIndex (tasks : List TAgentTaskRequest) : TPriority → Option Nat
  | .high => tasks.findIdx? (·.priority = some .high)
  | .normal => firstNewUserIndex (fun t => shareFits threadCount reg t t.user) tasks []

/-- **Selection.** Wherever the carried user is each task's own, `_get_next_task_index`
returns the first HIGH task (or `-1`) on the HIGH lane, and on the NORMAL lane the first
task whose user is new and whose share fits (or `0`); an index `i` credits one running task
to `tasks[i]`'s own kind and user, and `-1` changes nothing. -/
theorem getNextTaskIndex_eq_fairTaskIndex (tasks : List TAgentTaskRequest)
    (priority : TPriority) (hu : CarriesOwnUser "" tasks) :
    getNextTaskIndex threadCount tasks priority reg =
      match fairTaskIndex threadCount reg tasks priority with
      | some i => (i, reg.addRunningTask (tasks.getD i default).taskType (tasks.getD i default).user)
      | none => if priority = .high then (-1, reg)
          else (0, reg.addRunningTask (tasks.getD 0 default).taskType (tasks.getD 0 default).user) := by
  unfold getNextTaskIndex
  cases priority with
  | high =>
    rw [scanTasks_high _ _ _ hu, fairTaskIndex]
    cases tasks.findIdx? (·.priority = some .high) <;> rfl
  | normal =>
    rw [scanTasks_normal _ _ _ [] (fun _ => Iff.rfl) hu, fairTaskIndex]
    cases firstNewUserIndex (fun t => shareFits threadCount reg t t.user) tasks [] <;> rfl

/-- The NORMAL lane's search with the `improper_users` cache agrees with the plain search
for the first fitting task when every task has one kind: a user passed earlier was
rejected for that kind, so its later tasks would be rejected too. -/
theorem firstNewUserIndex_eq_findIdx {k : TTaskType} {tasks : List TAgentTaskRequest}
    {seen : List String} (htype : ∀ t ∈ tasks, t.taskType = k)
    (hseen : ∀ t ∈ tasks, t.user ∈ seen → shareFits threadCount reg t t.user = false) :
    firstNewUserIndex (fun t => shareFits threadCount reg t t.user) tasks seen =
      tasks.findIdx? (fun t => shareFits threadCount reg t t.user) := by
  induction tasks generalizing seen with
  | nil => rfl
  | cons task tasks ih =>
    have same : ∀ t ∈ tasks, t.user = task.user →
        shareFits threadCount reg t t.user = shareFits threadCount reg task task.user :=
      fun t ht hu => by
        simp [shareFits, hu, htype t (List.mem_cons_of_mem _ ht), htype task (List.mem_cons_self _ _)]
    rw [firstNewUserIndex, List.findIdx?_cons, List.findIdx?_succ]
    by_cases hfit : shareFits threadCount reg task task.user
    · have hnew : task.user ∉ seen := fun hmem => by
        simp [hseen task (List.mem_cons_self _ _) hmem] at hfit
      simp [hfit, hnew]
    · rw [ih (fun t ht => htype t (List.mem_cons_of_mem _ ht)) fun t ht hmem => ?_]
      · simp [hfit]
      · rcases List.mem_cons.mp hmem with hu | hu
        · rw [same t ht hu]; simpa using hfit
        · exact hseen t (List.mem_cons_of_mem _ ht) hu

/-- **The NORMAL lane on a one-kind queue** takes the first task whose share fits, or the
head when none does: the `improper_users` cache skips nothing the plain search would
take. -/
theorem getNextTaskIndex_normal_of_one_kind {k : TTaskType} (tasks : List TAgentTaskRequest)
    (htype : ∀ t ∈ tasks, t.taskType = k) (hu : CarriesOwnUser "" tasks) :
    (getNextTaskIndex threadCount tasks .normal reg).1 =
      ((tasks.findIdx? fun t => shareFits threadCount reg t t.user).map (↑)).getD 0 := by
  rw [getNextTaskIndex, scanTasks_normal _ _ _ [] (fun _ => Iff.rfl) hu,
    firstNewUserIndex_eq_findIdx threadCount reg htype (by simp)]
  cases tasks.findIdx? fun t => shareFits threadCount reg t t.user <;> rfl

theorem getNextTaskIndex_normal_of_one_kind_sample :
    (∀ t ∈ [(⟨.push, 1, some ⟨"A"⟩, none⟩ : TAgentTaskRequest), ⟨.push, 3, some ⟨"B"⟩, none⟩],
      t.taskType = .push) ∧
    CarriesOwnUser "" [⟨.push, 1, some ⟨"A"⟩, none⟩, ⟨.push, 3, some ⟨"B"⟩, none⟩] ∧
    (getNextTaskIndex 1 [⟨.push, 1, some ⟨"A"⟩, none⟩, ⟨.push, 3, some ⟨"B"⟩, none⟩] .normal
        Registry.empty).1 =
      (([(⟨.push, 1, some ⟨"A"⟩, none⟩ : TAgentTaskRequest), ⟨.push, 3, some ⟨"B"⟩, none⟩].findIdx?
        fun t => shareFits 1 Registry.empty t t.user).map (↑)).getD 0 :=
  have htype : ∀ t ∈ [(⟨.push, 1, some ⟨"A"⟩, none⟩ : TAgentTaskRequest),
      ⟨.push, 3, some ⟨"B"⟩, none⟩], t.taskType = .push := by decide
  have hu : CarriesOwnUser "" [⟨.push, 1, some ⟨"A"⟩, none⟩, ⟨.push, 3, some ⟨"B"⟩, none⟩] := by
    decide
  ⟨htype, hu, getNextTaskIndex_normal_of_one_kind 1 Registry.empty _ htype hu⟩

end Index

/-! ### The selection over exact shares -/

/-- The share test over exact shares, on the request's own kind and user: the user
runs nothing yet, or `(running + 1) / thread_count ≤ total_user / total` over the
rationals with a zero denominator read as share `0`; decided by cross-multiplication. -/
def exactShareFits (threadCount : Nat) (reg : Registry) (task : TAgentTaskRequest) : Bool :=
  let running := reg.runningTaskUserCount task.taskType task.user
  let total := reg.totalTaskCount task.taskType
  running = 0 ||
    (total ≠ 0 && (running + 1) * total ≤ reg.totalTaskUserCount task.taskType task.user * threadCount)

/-- `exactShareFits` is the rational comparison it stands for. -/
theorem exactShareFits_iff {threadCount : Nat} (hn : 0 < threadCount) (reg : Registry)
    (task : TAgentTaskRequest) :
    exactShareFits threadCount reg task = true ↔
      reg.runningTaskUserCount task.taskType task.user = 0 ∨
        ((reg.runningTaskUserCount task.taskType task.user + 1 : ℚ) / threadCount ≤
          if reg.totalTaskCount task.taskType = 0 then 0
          else (reg.totalTaskUserCount task.taskType task.user : ℚ) /
            reg.totalTaskCount task.taskType) := by
  have hn' : (0 : ℚ) < threadCount := by exact_mod_cast hn
  simp only [exactShareFits, Bool.or_eq_true, decide_eq_true_eq, Bool.and_eq_true, ne_eq]
  refine or_congr Iff.rfl ?_
  split_ifs with hT
  · simp only [hT, not_true_eq_false, false_and, false_iff, not_le]
    exact div_pos (by positivity) hn'
  · have hT' : (0 : ℚ) < reg.totalTaskCount task.taskType := by exact_mod_cast Nat.pos_of_ne_zero hT
    rw [div_le_div_iff₀ hn' hT']
    simp only [hT, not_false_eq_true, true_and]
    exact_mod_cast Iff.rfl

/-- The selection over exact shares: the first HIGH task or `-1`; the first task whose
exact share fits, or `0`. -/
def exactNextTaskIndex (threadCount : Nat) (tasks : List TAgentTaskRequest) :
    TPriority → Registry → Int
  | .high, _ => ((tasks.findIdx? (·.priority = some .high)).map (↑)).getD (-1)
  | .normal, reg => ((tasks.findIdx? (exactShareFits threadCount reg)).map (↑)).getD 0

/-! ### Single precision against exact shares -/

/-- One kind on `2^24` threads: user `a` runs `2^24` tasks and holds the kind's only
admitted task, user `b` runs none. -/
def roundingRegistry : Registry :=
  { Registry.empty with
    runningTaskUserCount := fun _ u => if u = "a" then 16777216 else 0
    totalTaskUserCount := fun _ u => if u = "a" then 1 else 0
    totalTaskCount := fun _ => 1 }

/-- `a`'s running share `(2^24 + 1) / 2^24` exceeds its admitted share `1 / 1`, so the
selection over exact shares passes on to `b`; both shares round to `1.0f`, and the code takes `a`. -/
theorem getNextTaskIndex_float_shares_counterexample :
    (getNextTaskIndex 16777216 [⟨.push, 1, some ⟨"a"⟩, none⟩, ⟨.push, 2, some ⟨"b"⟩, none⟩]
        .normal roundingRegistry).1 = 0 ∧
      exactNextTaskIndex 16777216 [⟨.push, 1, some ⟨"a"⟩, none⟩, ⟨.push, 2, some ⟨"b"⟩, none⟩]
        .normal roundingRegistry = 1 := by
  decide

/-- A queue of two users: `A`, `A`, `B`, one push task each. -/
def twoUserQueue : List TAgentTaskRequest :=
  [⟨.push, 1, some ⟨"A"⟩, none⟩, ⟨.push, 2, some ⟨"A"⟩, none⟩, ⟨.push, 3, some ⟨"B"⟩, none⟩]

/-- The counters before the first selection: two of the three admitted push tasks are
`A`'s, and nothing runs. -/
def twoUserRegistry : Registry :=
  { Registry.empty with
    totalTaskUserCount := fun _ u => if u = "A" then 2 else if u = "B" then 1 else 0
    totalTaskCount := fun _ => 3 }

/-- Every task of `twoUserQueue` carries its user, and the one worker first takes `A`'s
first task. -/
theorem getNextTaskIndex_twoUser_first :
    CarriesOwnUser "" twoUserQueue ∧ (getNextTaskIndex 1 twoUserQueue .normal twoUserRegistry).1 = 0 :=
  ⟨by decide, by rw [getNextTaskIndex_eq_fairTaskIndex 1 twoUserRegistry twoUserQueue .normal (by decide)]; decide⟩

end PaloAgent
