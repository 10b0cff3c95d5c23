import Mathlib.Data.List.Lex
import Mathlib.Data.Char
import Mathlib.Order.Lattice

/-!
# The disk state report

Each round of `_report_disk_state_worker_thread_callback` asks the engine for the state of
every root path (`get_all_root_path_stat`) and sends the coordinator a `std::map` from root
path to `TDisk`, filled in the engine's order by `disks[root_path] = disk`.

`StdMap` is the ordered map: its entries with their keys in strictly increasing order,
the invariant carried as a field, so that no map with a key twice can be built.
`StdMap.assign` is `m[k] = v`, which inserts `k` at its place or replaces its value.
**Its abstract meaning** is a partial function from keys to values: `find_assign` says
that an assignment sets that function at `k` and leaves it unchanged elsewhere.

The main result, `reportDisks_find`, follows from it by induction over the engine's list.
The report holds each root path once, and the disk reported for it is built from the last
stat the engine gave for that path: a later stat of the same path overwrites an earlier
one. Capacities are `int64_t` values cast to `double` (`Float.ofInt`).
-/

namespace PaloAgent

/-- **`std::map`**: entries in strictly increasing key order. -/
structure StdMap (K V : Type) [LinearOrder K] where
  entries : List (K × V)
  sorted : entries.Pairwise (fun a b => a.1 < b.1)

namespace StdMap

variable {K V : Type} [LinearOrder K]

/-- `m[k] = v` on the entries: insert `(k, v)` at its place, or replace the value of `k`. -/
def assignEntries (k : K) (v : V) : List (K × V) → List (K × V)
  | [] => [(k, v)]
  | e :: rest =>
    if k < e.1 then (k, v) :: e :: rest
    else if k = e.1 then (k, v) :: rest
    else e :: assignEntries k v rest

/-- `m.find(k)`: the value of `k`, if `k` is a key. -/
def findEntries (entries : List (K × V)) (k : K) : Option V :=
  (entries.find? (·.1 = k)).map (·.2)

theorem mem_assignEntries {k : K} {v : V} {e : K × V} :
    ∀ {l : List (K × V)}, e ∈ assignEntries k v l → e = (k, v) ∨ e ∈ l
  | [], h => .inl (List.mem_singleton.mp h)
  | e' :: rest, h => by
    unfold assignEntries at h
    split_ifs at h
    · exact (List.mem_cons.mp h).imp id id
    · exact (List.mem_cons.mp h).imp id (List.mem_cons_of_mem e')
    · rcases List.mem_cons.mp h with rfl | h
      · exact .inr (List.mem_cons_self _ _)
      · exact (mem_assignEntries h).imp id (List.mem_cons_of_mem e')

theorem assignEntries_sorted (k : K) (v : V) :
    ∀ {l : List (K × V)}, l.Pairwise (fun a b => a.1 < b.1) →
      (assignEntries k v l).Pairwise (fun a b => a.1 < b.1)
  | [], _ => List.pairwise_singleton _ _
  | e :: rest, h => by
    have hrest : ∀ a ∈ rest, e.1 < a.1 := (List.pairwise_cons.mp h).1
    unfold assignEntries
    split_ifs with hlt heq
    · exact h.cons fun a ha => (List.mem_cons.mp ha).elim (fun he => he ▸ hlt)
        fun hm => hlt.trans (hrest a hm)
    · exact h.of_cons.cons fun a ha => heq ▸ hrest a ha
    · have hgt : e.1 < k := lt_of_le_of_ne (not_lt.mp hlt) (Ne.symm heq)
      exact (assignEntries_sorted k v h.of_cons).cons fun a ha =>
        (mem_assignEntries ha).elim (fun he => he ▸ hgt) (hrest a)

@[simp] theorem findEntries_nil (k : K) : findEntries ([] : List (K × V)) k = none := rfl

@[simp] theorem findEntries_cons (e : K × V) (l : List (K × V)) (k : K) :
    findEntries (e :: l) k = if e.1 = k then some e.2 else findEntries l k := by
  by_cases h : e.1 = k <;> simp [findEntries, List.find?_cons, h]

theorem findEntries_assignEntries (k : K) (v : V) (k' : K) :
    ∀ l : List (K × V), findEntries (assignEntries k v l) k' =
      if k = k' then some v else findEntries l k'
  | [] => by simp [assignEntries]
  | e :: rest => by
    have ih := findEntries_assignEntries k v k' rest
    unfold assignEntries
    split_ifs with hlt heq <;> simp only [findEntries_cons, ih] <;> split_ifs <;> simp_all

/-- `m[k] = v`. -/
def assign (m : StdMap K V) (k : K) (v : V) : StdMap K V :=
  ⟨assignEntries k v m.entries, assignEntries_sorted k v m.sorted⟩

/-- `m.find(k)`. -/
def find (m : StdMap K V) (k : K) : Option V := findEntries m.entries k

/-- The empty map. -/
def empty : StdMap K V := ⟨[], List.Pairwise.nil⟩

@[simp] theorem find_empty (k : K) : (empty : StdMap K V).find k = none := rfl

/-- **An assignment updates the map's function at its key** and nowhere else. -/
theorem find_assign (m : StdMap K V) (k : K) (v : V) (k' : K) :
    (m.assign k v).find k' = if k = k' then some v else m.find k' :=
  findEntries_assignEntries k v k' m.entries

end StdMap

/-- The `OLAPRootPathStat` fields the report reads. -/
structure OLAPRootPathStat where
  rootPath : List Char
  diskTotalCapacity : Int
  dataUsedCapacity : Int
  diskAvailableCapacity : Int
  isUsed : Bool
  deriving DecidableEq, Repr

/-- `TDisk`: the capacities are `double`s. -/
structure TDisk where
  rootPath : List Char
  diskTotalCapacity : Float
  dataUsedCapacity : Float
  diskAvailableCapacity : Float
  used : Bool

/-- The body of the loop: the `TDisk` of one root path's state. -/
def TDisk.ofStat (stat : OLAPRootPathStat) : TDisk :=
  ⟨stat.rootPath, Float.ofInt stat.diskTotalCapacity, Float.ofInt stat.dataUsedCapacity,
    Float.ofInt stat.diskAvailableCapacity, stat.isUsed⟩

/-- The `disks` map of one report: `disks[root_path] = disk` for each state, in order. -/
def reportDisks (rootPathsStat : List OLAPRootPathStat) : StdMap (List Char) TDisk :=
  rootPathsStat.foldl (fun disks stat => disks.assign stat.rootPath (TDisk.ofStat stat)) .empty

/-- **The disk report holds the last state of each root path.** For every list of states
the engine gives and every path, the report has a disk for the path exactly when a state
of that path is in the list, and it is built from the last such state; the keys of the
map are distinct and in increasing order (`StdMap.sorted`). -/
theorem reportDisks_find (rootPathsStat : List OLAPRootPathStat) (rootPath : List Char) :
    (reportDisks rootPathsStat).find rootPath =
      (rootPathsStat.reverse.find? (·.rootPath = rootPath)).map TDisk.ofStat := by
  induction rootPathsStat using List.reverseRecOn with
  | nil => rfl
  | append_singleton init stat ih =>
    rw [reportDisks, List.foldl_append, List.foldl_cons, List.foldl_nil, ← reportDisks,
      StdMap.find_assign, List.reverse_append, List.reverse_singleton, List.singleton_append,
      List.find?_cons]
    by_cases h : stat.rootPath = rootPath <;> simp [h, ih]

/-- Two states of one path: the second one is reported. -/
example : ((reportDisks [⟨"/data1".toList, 10, 1, 9, true⟩, ⟨"/data1".toList, 20, 2, 18, false⟩]).find
    "/data1".toList).map (·.used) = some false := by
  decide

end PaloAgent
