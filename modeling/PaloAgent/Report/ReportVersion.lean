import Mathlib.Data.List.Basic
import Mathlib.Tactic.Common
import Mathlib.Algebra.Group.Nat.Basic

/-!
# Report versions and tablet reports

`_s_report_version` is a process-wide `std::atomic_ulong`, set at boot to
`time(NULL) * 10000`. A worker that mutates tablets (`_create_table_worker_thread_callback`,
`_alter_table`, `_push_worker_thread_callback` for loads and deletes) runs, in program
order:

* the engine call, which applies its mutation when it succeeds;
* `++_s_report_version`, on success only;
* `finish_task_request.__set_report_version(_s_report_version)`, a fresh read.

`_report_olap_table_worker_thread_callback` reads `_s_report_version` into its request and
then captures the tablets with `report_all_tablets_info`; a failed capture sends nothing.

Each of these is one atomic step here, and any interleaving of any number of mutating
workers and reporters is a run. The engine is append-only for this purpose: mutations are
numbered in the order they are applied, and a capture is the number applied so far. The
value each increment yielded is kept as proof-only ghost state (`incrementLog`), as is
that value on a finish report.

The counter is 64 bits wide, so `++` wraps at `2^64`. In every run with fewer than
`2^64 - v₀` increments, every tablet report as fresh as a mutation's increment captured
that mutation, and every finish report is as fresh as its own increment; a run with
exactly that many increments has a report taken at boot as fresh as the last increment.
-/

namespace PaloAgent

/-- `++` on a 64-bit `atomic_ulong`. -/
def uint64Succ (c : Nat) : Nat := (c + 1) % 2 ^ 64

/-- The initial `_s_report_version`: `time(NULL) * 10000`, as an `unsigned long`. -/
def bootReportVersion (time : Nat) : Nat := time * 10000 % 2 ^ 64

theorem uint64Succ_mod (a : Nat) : uint64Succ (a % 2 ^ 64) = (a + 1) % 2 ^ 64 := by
  simp [uint64Succ, Nat.add_mod]

/-- Where a mutating worker is in its iteration; `incremented` keeps its mutation's number
and the value its increment yielded. -/
inductive MutatorPc
  | idle
  | failed
  | applied (mutation : Nat)
  | incremented (mutation version : Nat)
  deriving DecidableEq, Repr

/-- Where a reporter is in its cycle: idle, or holding the `report_version` it read. -/
inductive ReporterPc
  | idle
  | read (reportVersion : Nat)
  deriving DecidableEq, Repr

/-- A `TFinishTaskRequest` as far as versions go: its `report_version`, and for a
successful mutation the mutation and the value its increment yielded. -/
structure FinishReport where
  incremented : Option (Nat × Nat)
  reportVersion : Nat
  deriving DecidableEq, Repr

/-- A tablet `TReportRequest`: its `report_version` and the tablet state it captured, the
number of mutations applied at the capture. -/
structure TabletReport where
  reportVersion : Nat
  appliedCount : Nat
  deriving DecidableEq, Repr

/-- The counter, the engine, the threads and the reports sent so far. -/
structure ReportState where
  reportVersion : Nat
  appliedCount : Nat
  mutators : Nat → MutatorPc
  reporters : Nat → ReporterPc
  incrementLog : List (Nat × Nat)
  finishReports : List FinishReport
  tabletReports : List TabletReport

/-- The atomic steps; `ok` is the outcome of the engine call or of the capture. -/
inductive ReportAction
  | apply (thread : Nat) (ok : Bool)
  | increment (thread : Nat)
  | readFinish (thread : Nat)
  | readVersion (reporter : Nat)
  | capture (reporter : Nat) (ok : Bool)

namespace ReportState

/-- At boot at `time`: the counter at `time * 10000`, nothing applied, every thread idle,
nothing sent. -/
def boot (time : Nat) : ReportState :=
  ⟨bootReportVersion time, 0, fun _ => .idle, fun _ => .idle, [], [], []⟩

/-- One atomic step; `none` when the thread is not at that point of its loop. -/
def step (s : ReportState) : ReportAction → Option ReportState
  | .apply t ok =>
    match s.mutators t with
    | .idle => some <| if ok then
        { s with appliedCount := s.appliedCount + 1
                 mutators := Function.update s.mutators t (.applied s.appliedCount) }
      else { s with mutators := Function.update s.mutators t .failed }
    | _ => none
  | .increment t =>
    match s.mutators t with
    | .applied m => some
        { s with reportVersion := uint64Succ s.reportVersion
                 mutators := Function.update s.mutators t
                   (.incremented m (uint64Succ s.reportVersion))
                 incrementLog := s.incrementLog ++ [(m, uint64Succ s.reportVersion)] }
    | _ => none
  | .readFinish t =>
    match s.mutators t with
    | .incremented m v => some
        { s with mutators := Function.update s.mutators t .idle
                 finishReports := s.finishReports ++ [⟨some (m, v), s.reportVersion⟩] }
    | .failed => some
        { s with mutators := Function.update s.mutators t .idle
                 finishReports := s.finishReports ++ [⟨none, s.reportVersion⟩] }
    | _ => none
  | .readVersion r =>
    match s.reporters r with
    | .idle => some { s with reporters := Function.update s.reporters r (.read s.reportVersion) }
    | .read _ => none
  | .capture r ok =>
    match s.reporters r with
    | .read v => some
        { s with reporters := Function.update s.reporters r .idle
                 tabletReports := if ok then s.tabletReports ++ [⟨v, s.appliedCount⟩]
                   else s.tabletReports }
    | .idle => none

/-- The states reachable from boot at `time` by any interleaving of steps. -/
inductive Reachable (time : Nat) : ReportState → Prop
  | boot : Reachable time (boot time)
  | step {s s' : ReportState} (a : ReportAction) : Reachable time s → s.step a = some s' →
      Reachable time s'

/-- Run a list of steps in order; `none` as soon as one is not enabled. -/
def run : ReportState → List ReportAction → Option ReportState
  | s, [] => some s
  | s, a :: as => (s.step a).bind (run · as)

theorem run_append (s : ReportState) (as bs : List ReportAction) :
    run s (as ++ bs) = (run s as).bind (run · bs) := by
  induction as generalizing s with
  | nil => rfl
  | cons a as ih =>
    rw [List.cons_append, run, run, Option.bind_assoc]
    simp only [ih]

theorem Reachable.run {time : Nat} {s s' : ReportState} {as : List ReportAction}
    (hs : Reachable time s) (h : s.run as = some s') : Reachable time s' := by
  induction as generalizing s with
  | nil => cases h; exact hs
  | cons a as ih =>
    obtain ⟨s₁, h₁, h₂⟩ := Option.bind_eq_some.mp h
    exact ih (hs.step a h₁) h₂

/-- **Fresh reports**: a tablet report whose version is at least the value a mutation's
increment yielded captured that mutation, and a finish report carries at least
the value its own increment yielded. -/
def ReportsFresh (s : ReportState) : Prop :=
  (∀ rep ∈ s.tabletReports, ∀ e ∈ s.incrementLog, e.2 ≤ rep.reportVersion →
    e.1 < rep.appliedCount) ∧
  ∀ f ∈ s.finishReports, ∀ e, f.incremented = some e → e.2 ≤ f.reportVersion

end ReportState

/-! ### Tickets

Number the increments of a run `1, 2, …` and call the number an increment's ticket. Every
value of `_s_report_version` a state holds is `v₀` plus a ticket, mod `2^64`; `issued` is
the number of tickets issued so far. -/

/-- A mutator's position: a mutation it applied is counted, and the value its increment
yielded is an issued ticket's. -/
def MutatorPc.Ticketed (v₀ appliedCount issued : Nat) : MutatorPc → Prop
  | .idle | .failed => True
  | .applied m => m < appliedCount
  | .incremented _ v => ∃ i < issued, v = (v₀ + i + 1) % 2 ^ 64

/-- A reporter's position: the version it holds is an issued ticket's (or `v₀`). -/
def ReporterPc.Ticketed (v₀ issued : Nat) : ReporterPc → Prop
  | .idle => True
  | .read v => ∃ j ≤ issued, v = (v₀ + j) % 2 ^ 64

/-- A tablet report of ticket `j` captured every mutation whose increment has a ticket at
most `j`. -/
def TabletReport.Ticketed (v₀ : Nat) (incrementLog : List (Nat × Nat)) (rep : TabletReport) :
    Prop :=
  ∃ j ≤ incrementLog.length, rep.reportVersion = (v₀ + j) % 2 ^ 64 ∧
    ∀ i < j, ∀ e, incrementLog[i]? = some e → e.1 < rep.appliedCount

/-- A finish report's ticket is above its own increment's. -/
def FinishReport.Ticketed (v₀ issued : Nat) (f : FinishReport) : Prop :=
  ∀ e, f.incremented = some e → ∃ i j, i < j ∧ j ≤ issued ∧ e.2 = (v₀ + i + 1) % 2 ^ 64 ∧
    f.reportVersion = (v₀ + j) % 2 ^ 64

theorem MutatorPc.Ticketed.mono {v₀ a a' n n' : Nat} {pc : MutatorPc}
    (h : pc.Ticketed v₀ a n) (ha : a ≤ a') (hn : n ≤ n') : pc.Ticketed v₀ a' n' := by
  cases pc with
  | idle | failed => trivial
  | applied m => exact Nat.lt_of_lt_of_le h ha
  | incremented m v => obtain ⟨i, hi, hv⟩ := h; exact ⟨i, by omega, hv⟩

theorem ReporterPc.Ticketed.mono {v₀ n n' : Nat} {pc : ReporterPc}
    (h : pc.Ticketed v₀ n) (hn : n ≤ n') : pc.Ticketed v₀ n' := by
  cases pc with
  | idle => trivial
  | read v => obtain ⟨j, hj, hv⟩ := h; exact ⟨j, by omega, hv⟩

theorem TabletReport.Ticketed.append {v₀ : Nat} {log new : List (Nat × Nat)}
    {rep : TabletReport} (h : rep.Ticketed v₀ log) : rep.Ticketed v₀ (log ++ new) := by
  obtain ⟨j, hj, hv, hcap⟩ := h
  refine ⟨j, by simp; omega, hv, fun i hi e he => hcap i hi e ?_⟩
  rwa [List.getElem?_append_left (by omega)] at he

theorem FinishReport.Ticketed.mono {v₀ n n' : Nat} {f : FinishReport}
    (h : f.Ticketed v₀ n) (hn : n ≤ n') : f.Ticketed v₀ n' := fun e he => by
  obtain ⟨i, j, hij, hj, he, hf⟩ := h e he
  exact ⟨i, j, hij, by omega, he, hf⟩

namespace ReportState

/-- **Ticketed versions.** The counter is `v₀` plus the number of increments so far; the
`i`-th increment yielded ticket `i + 1` after its mutation was applied; and every thread
and every report sent is ticketed. -/
structure Ticketed (v₀ : Nat) (s : ReportState) : Prop where
  reportVersion_eq : s.reportVersion = (v₀ + s.incrementLog.length) % 2 ^ 64
  log : ∀ i e, s.incrementLog[i]? = some e → e.2 = (v₀ + i + 1) % 2 ^ 64 ∧ e.1 < s.appliedCount
  mutators : ∀ t, (s.mutators t).Ticketed v₀ s.appliedCount s.incrementLog.length
  reporters : ∀ r, (s.reporters r).Ticketed v₀ s.incrementLog.length
  tablet : ∀ rep ∈ s.tabletReports, rep.Ticketed v₀ s.incrementLog
  finish : ∀ f ∈ s.finishReports, f.Ticketed v₀ s.incrementLog.length

theorem getElem?_concat_eq_some {α : Type} {l : List α} {x e : α} {i : Nat}
    (h : (l ++ [x])[i]? = some e) : (i < l.length ∧ l[i]? = some e) ∨ (i = l.length ∧ e = x) := by
  rcases Nat.lt_trichotomy i l.length with hi | rfl | hi
  · exact .inl ⟨hi, by rwa [List.getElem?_append_left hi] at h⟩
  · simp at h
    exact .inr ⟨rfl, h.symm⟩
  · rw [List.getElem?_eq_none (by simp only [List.length_append, List.length_singleton]; omega)] at h
    cases h

theorem forall_update {α : Type} {P : α → Prop} {f : Nat → α} {t : Nat} {x : α}
    (hf : ∀ t', P (f t')) (hx : P x) (t' : Nat) : P (Function.update f t x t') := by
  rw [Function.update_apply]
  split_ifs
  exacts [hx, hf t']

variable {v₀ : Nat} {s s' : ReportState}

theorem ticketed_boot (time : Nat) : (boot time).Ticketed (bootReportVersion time) where
  reportVersion_eq := by simp [boot, bootReportVersion]
  log := by simp [boot]
  mutators _ := trivial
  reporters _ := trivial
  tablet := by simp [boot]
  finish := by simp [boot]

/-! ### What each step keeps -/

theorem Ticketed.apply (hs : s.Ticketed v₀) {t : Nat} {ok : Bool}
    (h : s.step (.apply t ok) = some s') : s'.Ticketed v₀ := by
  simp only [step] at h
  split at h
  · cases h
    cases ok
    · exact { hs with mutators := forall_update hs.mutators trivial }
    · exact { hs with
        log := fun i e he => (hs.log i e he).imp_right Nat.lt_succ_of_lt
        mutators := forall_update (fun t' => (hs.mutators t').mono (Nat.le_succ _) (Nat.le_refl _))
          (Nat.lt_succ_self _) }
  · cases h

/-- The increment issues the next ticket, to a mutation already applied. -/
theorem Ticketed.increment (hs : s.Ticketed v₀) {t : Nat}
    (h : s.step (.increment t) = some s') : s'.Ticketed v₀ := by
  simp only [step] at h
  split at h
  · rename_i m hm
    cases h
    have hv : uint64Succ s.reportVersion = (v₀ + s.incrementLog.length + 1) % 2 ^ 64 := by
      rw [hs.reportVersion_eq, uint64Succ_mod]
    have hn : s.incrementLog.length ≤ (s.incrementLog ++ [(m, uint64Succ s.reportVersion)]).length := by
      simp
    refine ⟨by simpa [Nat.add_assoc] using hv, fun i e he => ?_,
      forall_update (fun t' => (hs.mutators t').mono (Nat.le_refl _) hn) ⟨_, by simp, hv⟩,
      fun r => (hs.reporters r).mono hn, fun rep hrep => (hs.tablet rep hrep).append,
      fun f hf => (hs.finish f hf).mono hn⟩
    rcases getElem?_concat_eq_some he with ⟨-, he⟩ | ⟨rfl, rfl⟩
    · exact hs.log i e he
    · have := hs.mutators t
      rw [hm] at this
      exact ⟨hv, this⟩
  · cases h

/-- A finish report reads the counter after its own increment. -/
theorem Ticketed.readFinish (hs : s.Ticketed v₀) {t : Nat}
    (h : s.step (.readFinish t) = some s') : s'.Ticketed v₀ := by
  simp only [step] at h
  split at h
  · rename_i m v hmv
    cases h
    refine { hs with mutators := forall_update hs.mutators trivial, finish := fun f hf => ?_ }
    rcases List.mem_append.mp hf with hf | hf
    · exact hs.finish f hf
    · obtain rfl := List.mem_singleton.mp hf
      rintro e ⟨⟩
      have := hs.mutators t
      rw [hmv] at this
      obtain ⟨i, hi, hv⟩ := this
      exact ⟨i, _, hi, (Nat.le_refl _), hv, hs.reportVersion_eq⟩
  · cases h
    refine { hs with mutators := forall_update hs.mutators trivial, finish := fun f hf => ?_ }
    rcases List.mem_append.mp hf with hf | hf
    · exact hs.finish f hf
    · obtain rfl := List.mem_singleton.mp hf
      rintro e ⟨⟩
  · cases h

theorem Ticketed.readVersion (hs : s.Ticketed v₀) {r : Nat}
    (h : s.step (.readVersion r) = some s') : s'.Ticketed v₀ := by
  simp only [step] at h
  split at h
  · cases h
    exact { hs with reporters := forall_update hs.reporters ⟨_, (Nat.le_refl _), hs.reportVersion_eq⟩ }
  · cases h

/-- A capture sees every mutation applied so far, which covers every ticket issued. -/
theorem Ticketed.capture (hs : s.Ticketed v₀) {r : Nat} {ok : Bool}
    (h : s.step (.capture r ok) = some s') : s'.Ticketed v₀ := by
  simp only [step] at h
  split at h
  · rename_i v hv
    cases h
    refine { hs with reporters := forall_update hs.reporters trivial, tablet := fun rep hrep => ?_ }
    split at hrep
    · rcases List.mem_append.mp hrep with hrep | hrep
      · exact hs.tablet rep hrep
      · obtain rfl := List.mem_singleton.mp hrep
        have := hs.reporters r
        rw [hv] at this
        obtain ⟨j, hj, hv⟩ := this
        exact ⟨j, hj, hv, fun i _ e he => (hs.log i e he).2⟩
    · exact hs.tablet rep hrep
  · cases h

theorem Ticketed.step (hs : s.Ticketed v₀) {a : ReportAction} (h : s.step a = some s') :
    s'.Ticketed v₀ := by
  cases a with
  | apply t ok => exact hs.apply h
  | increment t => exact hs.increment h
  | readFinish t => exact hs.readFinish h
  | readVersion r => exact hs.readVersion h
  | capture r ok => exact hs.capture h

theorem Reachable.ticketed {time : Nat} {s : ReportState} (h : Reachable time s) :
    s.Ticketed (bootReportVersion time) := by
  induction h with
  | boot => exact ticketed_boot time
  | step a _ hstep ih => exact ih.step hstep

/-! ### Fresh reports -/

/-- **Reports are as fresh as their versions say**, in every run with fewer than
`2^64 - v₀` increments: a tablet report whose `report_version` is at least the value a
mutation's increment yielded captured that mutation, and each finish report carries at
least the value its own increment yielded. -/
theorem reachable_reportsFresh {time : Nat} {s : ReportState} (h : Reachable time s)
    (hbound : bootReportVersion time + s.incrementLog.length < 2 ^ 64) : s.ReportsFresh := by
  have hs := h.ticketed
  refine ⟨fun rep hrep e he hle => ?_, fun f hf e he => ?_⟩
  · obtain ⟨j, hj, hrv, hcap⟩ := hs.tablet rep hrep
    obtain ⟨i, hi⟩ := List.mem_iff_getElem?.mp he
    have hilen := (List.getElem?_eq_some_iff.mp hi).1
    have he₂ := (hs.log i e hi).1
    rw [Nat.mod_eq_of_lt (by omega)] at hrv he₂
    exact hcap i (by omega) e hi
  · obtain ⟨i, j, hij, hj, he₂, hf₂⟩ := hs.finish f hf e he
    rw [Nat.mod_eq_of_lt (by omega)] at he₂ hf₂
    omega

/-! ### The wrap -/

/-- One reporter cycle whose capture succeeds. -/
def reportCycle (r : Nat) : List ReportAction := [.readVersion r, .capture r true]

/-- One iteration of mutator `t` whose engine call succeeds. -/
def mutationIteration (t : Nat) : List ReportAction := [.apply t true, .increment t, .readFinish t]

theorem run_reportCycle {s : ReportState} {r : Nat} (hr : s.reporters r = .idle) :
    s.run (reportCycle r) =
      some { s with tabletReports := s.tabletReports ++ [⟨s.reportVersion, s.appliedCount⟩] } := by
  simp [reportCycle, run, step, hr, Function.update_eq_self_iff]

theorem run_mutationIteration {s : ReportState} {t : Nat} (ht : s.mutators t = .idle) :
    s.run (mutationIteration t) = some
      { s with reportVersion := uint64Succ s.reportVersion
               appliedCount := s.appliedCount + 1
               incrementLog := s.incrementLog ++ [(s.appliedCount, uint64Succ s.reportVersion)]
               finishReports := s.finishReports ++
                 [⟨some (s.appliedCount, uint64Succ s.reportVersion), uint64Succ s.reportVersion⟩] } := by
  simp [mutationIteration, run, step, ht, Function.update_eq_self_iff]

/-- A reporter's cycle at boot, then one successful mutation. -/
def reportThenMutate : ReportState :=
  ((boot 1500000000).run (reportCycle 0 ++ mutationIteration 0)).getD (boot 1500000000)

theorem reportThenMutate_reportsFresh :
    Reachable 1500000000 reportThenMutate ∧
      bootReportVersion 1500000000 + reportThenMutate.incrementLog.length < 2 ^ 64 ∧
      reportThenMutate.ReportsFresh :=
  have h : Reachable 1500000000 reportThenMutate := Reachable.boot.run
    (show (boot 1500000000).run (reportCycle 0 ++ mutationIteration 0) = some _ from rfl)
  have hb : bootReportVersion 1500000000 + reportThenMutate.incrementLog.length < 2 ^ 64 := by
    decide
  ⟨h, hb, reachable_reportsFresh h hb⟩

/-- `k` successful iterations of one mutator advance the counter by `k`, mod `2^64`. -/
theorem run_mutationIterations {s : ReportState} {t : Nat} (ht : s.mutators t = .idle)
    (hrv : s.reportVersion < 2 ^ 64) (k : Nat) :
    ∃ s', s.run (List.replicate k (mutationIteration t)).flatten = some s' ∧
      s'.mutators t = .idle ∧ s'.reportVersion = (s.reportVersion + k) % 2 ^ 64 ∧
      s'.tabletReports = s.tabletReports := by
  induction k with
  | zero => exact ⟨s, rfl, ht, (Nat.mod_eq_of_lt hrv).symm, rfl⟩
  | succ k ih =>
    obtain ⟨s', h', ht', hrv', htab'⟩ := ih
    rw [List.replicate_succ', List.flatten_append, run_append, h', Option.some_bind,
      List.flatten_singleton, run_mutationIteration ht']
    exact ⟨_, rfl, ht', by rw [hrv', uint64Succ_mod, Nat.add_assoc], htab'⟩

/-- **Freshness fails once the counter wraps.** Booted at `time = 1500000000`, a reporter
sends a tablet report at boot; then `2^64 - v₀` mutations succeed, and the last increment
wraps the counter to `0`, a value the boot-time report's version exceeds although that
report captured none of them. -/
theorem reportVersion_wrap_counterexample : ∃ s, Reachable 1500000000 s ∧ ¬ s.ReportsFresh := by
  have h₁ := run_reportCycle (s := boot 1500000000) (r := 0) rfl
  obtain ⟨s₂, h₂, ht₂, hrv₂, htab₂⟩ := run_mutationIterations (s := { boot 1500000000 with
      tabletReports := [⟨bootReportVersion 1500000000, 0⟩] }) (t := 0) rfl (by decide)
    (2 ^ 64 - bootReportVersion 1500000000 - 1)
  have h₃ := run_mutationIteration ht₂
  refine ⟨_, ((Reachable.boot.run h₁).run h₂).run h₃, fun hfresh => ?_⟩
  have hwrap : uint64Succ s₂.reportVersion = 0 := by rw [hrv₂]; decide
  have := hfresh.1 ⟨bootReportVersion 1500000000, 0⟩ (by simp [htab₂])
    (s₂.appliedCount, uint64Succ s₂.reportVersion) (by simp) (by rw [hwrap]; exact Nat.zero_le _)
  exact Nat.not_lt_zero _ this

end ReportState

end PaloAgent
