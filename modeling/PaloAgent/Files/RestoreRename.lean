import PaloAgent.Files.CppString

/-!
# The file renames of a restore

After downloading a backup into `<shard>/<tablet_id>/`, `_restore_worker_thread_callback`
walks the directory and renames each regular file whose base name is longer than four
characters and ends in `.hdr`, `.idx` or `.dat`: the part of the base name before the
first separator (`'.'` for a header, `'_'` otherwise) is replaced by the decimal
`tablet_id`. The positions the code computes are stored in `uint32_t` variables, so
`npos` becomes `2^32 - 1`, which the comparison with `-1` recognises for `rfind` but
nothing checks for `find`.

`restoreNewPath` is the loop body for one file. When the base name has its separator, the
new name stays in the directory, starts with the tablet id, keeps the suffix, and renaming
again changes nothing; when it has none, `substr` throws, and only then. `renameFiles` is
the loop over the files the directory iterator yields (`DirEntry`): it throws exactly when
one of them misses its separator, and each rename it makes is the loop body's.
-/

namespace PaloAgent

/-- A `size_t` stored in a `uint32_t`. -/
def toUInt32 (n : Nat) : Nat := n % 2 ^ 32

/-- What the loop body does with a regular file. -/
inductive RenameOutcome
  | skip
  | rename (newPath : List Char)
  deriving DecidableEq, Repr

/-- The suffixes the loop renames. -/
def renamedSuffixes : List (List Char) := [".hdr".toList, ".idx".toList, ".dat".toList]

/-- `sperator`: `'.'` for a header, `'_'` otherwise. -/
def separatorFor (filePathSuffix : List Char) : Char :=
  if filePathSuffix = ".hdr".toList then '.' else '_'

/-- The loop body of the rename in `_restore_worker_thread_callback` for the regular file
`file_path_str`. -/
def restoreNewPath (tabletId : Int) (filePathStr : List Char) :
    Except CppException RenameOutcome := do
  let slashPos := toUInt32 (rfind filePathStr '/')
  let fileName ← if slashPos ≠ 2 ^ 32 - 1 then substr filePathStr (toUInt32 (slashPos + 1)) npos
    else pure filePathStr
  let filePathStrLen := toUInt32 fileName.length
  if filePathStrLen ≤ 4 then return .skip
  let filePathSuffix ← substr fileName (filePathStrLen - 4) npos
  if filePathSuffix ∉ renamedSuffixes then return .skip
  let speratorPos := toUInt32 (find fileName (separatorFor filePathSuffix) 0)
  let rest ← substr fileName speratorPos npos
  let dir ← substr filePathStr 0 slashPos
  return .rename (dir ++ '/' :: (decimal tabletId ++ rest))

/-- **A name without its separator throws.** For `/d/abc.dat` the search for `'_'` finds
nothing, `npos` is stored as `2^32 - 1`, and `file_name.substr(2^32 - 1)` throws
`std::out_of_range`. -/
theorem restoreNewPath_no_separator (tabletId : Int) :
    restoreNewPath tabletId "/d/abc.dat".toList = .error .outOfRange :=
  rfl

/-! ### When the separator is there -/

theorem toUInt32_of_lt {n : Nat} (h : n < 2 ^ 32) : toUInt32 n = n := Nat.mod_eq_of_lt h

/-- **The loop body on `dir/name`.** For a path shorter than `2^32 - 1` whose last `'/'`
precedes `name`, the loop body skips a short name or one with another suffix, and otherwise
cuts the name at the position its search for the separator gives. -/
theorem restoreNewPath_append_slash (tabletId : Int) (dir : List Char) {name : List Char}
    (hname : '/' ∉ name) (hlen : (dir ++ '/' :: name).length < 2 ^ 32 - 1) :
    restoreNewPath tabletId (dir ++ '/' :: name) =
      if name.length ≤ 4 then .ok .skip
      else if name.drop (name.length - 4) ∉ renamedSuffixes then .ok .skip
      else (substr name (toUInt32 (find name (separatorFor (name.drop (name.length - 4))) 0))
        npos).map fun rest => .rename (dir ++ '/' :: (decimal tabletId ++ rest)) := by
  have hl : (dir ++ '/' :: name).length = dir.length + 1 + name.length := by simp; omega
  simp only [restoreNewPath, rfind_of_split hname, toUInt32_of_lt (by omega : dir.length < 2 ^ 32),
    toUInt32_of_lt (by omega : dir.length + 1 < 2 ^ 32), if_pos (by omega : dir.length ≠ 2 ^ 32 - 1),
    substr_of_le _ (by omega : dir.length + 1 ≤ (dir ++ '/' :: name).length),
    List.drop_append 1, List.drop_one, List.tail_cons, bind, Except.bind,
    List.take_of_length_le (by unfold npos; omega : name.length ≤ npos),
    toUInt32_of_lt (by omega : name.length < 2 ^ 32), pure, Except.pure,
    substr_of_le _ (by omega : name.length - 4 ≤ name.length),
    List.take_of_length_le (by simp; unfold npos; omega : (name.drop (name.length - 4)).length ≤ npos),
    substr_of_le _ (Nat.zero_le _), List.drop_zero, List.take_left]
  split_ifs <;> rfl

/-- **The loop body on `dir/base`.** For a path shorter than `2^32 - 1` whose base name is
longer than four characters, has a renamed suffix, and splits at its first separator
`c` as `pre ++ c :: post`, the new path is `dir/` followed by the tablet id and
`c :: post`. -/
theorem restoreNewPath_of_split (tabletId : Int) (dir : List Char) {base pre post : List Char}
    (hbase : '/' ∉ base) (hlen : (dir ++ '/' :: base).length < 2 ^ 32 - 1)
    (hlong : 4 < base.length) (hsuffix : base.drop (base.length - 4) ∈ renamedSuffixes)
    (hsplit : base = pre ++ separatorFor (base.drop (base.length - 4)) :: post)
    (hpre : separatorFor (base.drop (base.length - 4)) ∉ pre) :
    restoreNewPath tabletId (dir ++ '/' :: base) = .ok (.rename
      (dir ++ '/' :: (decimal tabletId ++ separatorFor (base.drop (base.length - 4)) :: post))) := by
  rw [restoreNewPath_append_slash tabletId dir hbase hlen, if_neg (by omega),
    if_neg (not_not.mpr hsuffix)]
  generalize separatorFor (base.drop (base.length - 4)) = c at hsplit hpre ⊢
  have hl : base.length < 2 ^ 32 := by simp at hlen; omega
  have hpreLen : pre.length < base.length := by rw [hsplit]; simp
  have hrest : base.drop pre.length = c :: post := by rw [hsplit, List.drop_left]
  have hpost : (c :: post).take npos = c :: post :=
    List.take_of_length_le (by rw [← hrest]; simp; unfold npos; omega)
  rw [find_of_drop_eq (by rw [List.drop_zero]; exact hsplit) hpre, Nat.zero_add,
    toUInt32_of_lt (by omega), substr_of_le _ hpreLen.le, hrest, hpost]
  rfl

/-- The last four characters of `pre ++ m` are those of `m` when `m` has four. -/
theorem drop_length_sub_four {pre m : List Char} (hm : 4 ≤ m.length) :
    (pre ++ m).drop ((pre ++ m).length - 4) = m.drop (m.length - 4) := by
  rw [List.length_append, show pre.length + m.length - 4 = pre.length + (m.length - 4) by omega,
    List.drop_append]

/-- The first separator lies before the suffix: for a header the suffix itself starts
with `'.'`, and no other suffix holds a `'_'`. -/
theorem separator_before_suffix {base pre post : List Char} (hlong : 4 < base.length)
    (hsuffix : base.drop (base.length - 4) ∈ renamedSuffixes)
    (hsplit : base = pre ++ separatorFor (base.drop (base.length - 4)) :: post)
    (hpre : separatorFor (base.drop (base.length - 4)) ∉ pre) : pre.length + 4 ≤ base.length := by
  generalize hc : separatorFor (base.drop (base.length - 4)) = c at hsplit hpre
  by_contra hk
  have hd : base.drop (base.length - 4) = pre.drop (base.length - 4) ++ c :: post :=
    calc base.drop (base.length - 4) = (pre ++ c :: post).drop (base.length - 4) := by
          rw [← hsplit]
      _ = pre.drop (base.length - 4) ++ c :: post := List.drop_append_of_le_length (by omega)
  obtain ⟨x, xs, hx⟩ := List.exists_cons_of_ne_nil
    (show pre.drop (base.length - 4) ≠ [] by simp; omega)
  have hxpre : x ∈ pre := List.mem_of_mem_drop (hx ▸ List.mem_cons_self x xs)
  have hmem : c ∈ (x :: xs) ++ c :: post := by simp
  rw [hd, hx] at hsuffix hc
  simp only [renamedSuffixes, List.mem_cons, List.mem_singleton, List.not_mem_nil, or_false] at hsuffix
  rcases hsuffix with h | h | h <;> rw [h] at hc hmem
  · have hx' : some x = some '.' := congrArg List.head? h
    have hc' : c = '.' := by rw [← hc]; rfl
    exact hpre (hc' ▸ Option.some.inj hx' ▸ hxpre)
  all_goals
    have hc' : c = '_' := by rw [← hc]; rfl
    rw [hc'] at hmem
    exact absurd hmem (by decide)

/-- A separator is neither `'/'` nor a character of a decimal. -/
theorem separatorFor_ne (suffix : List Char) (n : Int) :
    separatorFor suffix ≠ '/' ∧ separatorFor suffix ∉ decimal n := by
  unfold separatorFor
  split
  · exact ⟨by decide, fun h => (decimal_ne h).1 rfl⟩
  · exact ⟨by decide, fun h => (decimal_ne h).2.1 rfl⟩

/-- **Renaming with the separator present.** For a path `dir/base` that is not too long,
whose base name is longer than four characters, ends in `.hdr`, `.idx` or `.dat` and
contains its separator, the loop body throws nothing and renames the file within its
directory to a name that starts with the decimal `tablet_id` and keeps the suffix; the
loop body on the new path renames it to itself. -/
theorem restoreNewPath_idem {tabletId : Int} {dir base : List Char} (hbase : '/' ∉ base)
    (hlen : (dir ++ '/' :: base).length + (decimal tabletId).length < 2 ^ 32 - 1)
    (hlong : 4 < base.length) (hsuffix : base.drop (base.length - 4) ∈ renamedSuffixes)
    (hsep : separatorFor (base.drop (base.length - 4)) ∈ base) :
    ∃ newName, restoreNewPath tabletId (dir ++ '/' :: base) = .ok (.rename (dir ++ '/' :: newName)) ∧
      '/' ∉ newName ∧ decimal tabletId <+: newName ∧ base.drop (base.length - 4) <:+ newName ∧
      restoreNewPath tabletId (dir ++ '/' :: newName) = .ok (.rename (dir ++ '/' :: newName)) := by
  obtain ⟨pre, post, hsplit, hpre⟩ := exists_first_split hsep
  have hk := separator_before_suffix hlong hsuffix hsplit hpre
  have hfirst := restoreNewPath_of_split tabletId dir hbase (by omega) hlong hsuffix hsplit hpre
  generalize hsuf : base.drop (base.length - 4) = suffix at hsuffix hsplit hpre hfirst
  generalize hc : separatorFor suffix = c at hsplit hpre hfirst
  have hbaseLen : base.length = pre.length + 1 + post.length := by rw [hsplit]; simp; omega
  have hlenCP : 4 ≤ (c :: post).length := by simp; omega
  have hsufCP : (c :: post).drop ((c :: post).length - 4) = suffix := by
    rw [← hsuf, hsplit, drop_length_sub_four hlenCP]
  have hcNe : c ≠ '/' ∧ c ∉ decimal tabletId := hc ▸ separatorFor_ne suffix tabletId
  have hslash : '/' ∉ decimal tabletId ++ c :: post := by
    simp only [List.mem_append, List.mem_cons, not_or]
    exact ⟨fun h => (decimal_ne h).2.2 rfl, Ne.symm hcNe.1,
      fun h => hbase (hsplit ▸ List.mem_append_right _ (List.mem_cons_of_mem _ h))⟩
  have hdec := List.length_pos.mpr (decimal_ne_nil tabletId)
  have hsuf' : (decimal tabletId ++ c :: post).drop
      ((decimal tabletId ++ c :: post).length - 4) = suffix := by
    rw [drop_length_sub_four hlenCP, hsufCP]
  refine ⟨decimal tabletId ++ c :: post, hfirst, hslash, List.prefix_append _ _, ?_, ?_⟩
  · have := (List.drop_suffix ((c :: post).length - 4) (c :: post)).trans
      (List.suffix_append (decimal tabletId) _)
    rwa [hsufCP] at this
  · have := restoreNewPath_of_split tabletId dir hslash (by simp at hlen ⊢; omega)
      (by simp; omega) (hsuf' ▸ hsuffix) (by rw [hsuf', hc]) (by rw [hsuf', hc]; exact hcNe.2)
    rw [this, hsuf', hc]

theorem restoreNewPath_idem_sample :
    ∃ newName, restoreNewPath 10001 ("/d".toList ++ '/' :: "abc_1.dat".toList) =
        .ok (.rename ("/d".toList ++ '/' :: newName)) ∧
      '/' ∉ newName ∧ decimal 10001 <+: newName ∧
      "abc_1.dat".toList.drop ("abc_1.dat".toList.length - 4) <:+ newName ∧
      restoreNewPath 10001 ("/d".toList ++ '/' :: newName) =
        .ok (.rename ("/d".toList ++ '/' :: newName)) :=
  restoreNewPath_idem (by decide) (by decide) (by decide) (by decide) (by decide)

/-! ### The loop over the restored files -/

/-- A regular file the directory iterator yields: its directory and its name, which holds
no `'/'`; paths are far shorter than `2^32 - 1` characters. -/
structure DirEntry where
  dir : List Char
  name : List Char
  name_no_slash : '/' ∉ name
  path_short : (dir ++ '/' :: name).length < 2 ^ 32 - 1

/-- `file_path->path().string()`. -/
def DirEntry.path (e : DirEntry) : List Char := e.dir ++ '/' :: e.name

/-- A name the loop renames that lacks its separator. -/
def MissingSeparator (name : List Char) : Prop :=
  4 < name.length ∧ name.drop (name.length - 4) ∈ renamedSuffixes ∧
    separatorFor (name.drop (name.length - 4)) ∉ name

instance : DecidablePred MissingSeparator := fun _ =>
  inferInstanceAs (Decidable (_ ∧ _ ∧ _))

theorem toUInt32_npos : toUInt32 npos = 2 ^ 32 - 1 := rfl

/-- **The loop body throws exactly on a missing separator.** On a file the iterator
yields, the loop body throws `std::out_of_range` exactly when the name is longer than four
characters, ends in `.hdr`, `.idx` or `.dat`, and holds no separator; otherwise it skips or
renames the file. -/
theorem restoreNewPath_eq_error_iff (tabletId : Int) (e : DirEntry) :
    restoreNewPath tabletId e.path = .error .outOfRange ↔ MissingSeparator e.name := by
  have hl : e.name.length < 2 ^ 32 - 1 := by have := e.path_short; simp at this; omega
  rw [DirEntry.path, restoreNewPath_append_slash tabletId e.dir e.name_no_slash e.path_short]
  unfold MissingSeparator
  by_cases hshort : e.name.length ≤ 4
  · simp [hshort]
  by_cases hsuffix : e.name.drop (e.name.length - 4) ∈ renamedSuffixes
  swap
  · simp [hshort, hsuffix]
  rw [if_neg hshort, if_neg (not_not.mpr hsuffix)]
  by_cases hsep : separatorFor (e.name.drop (e.name.length - 4)) ∈ e.name
  · obtain ⟨pre, post, hsplit, hpre⟩ := exists_first_split hsep
    have hpreLen : pre.length < e.name.length := by rw [hsplit]; simp
    rw [find_of_drop_eq (by rw [List.drop_zero]; exact hsplit) hpre, Nat.zero_add,
      toUInt32_of_lt (by omega), substr_of_le _ hpreLen.le]
    simp [hsep, Except.map]
  · rw [find_of_not_mem_drop (by rwa [List.drop_zero]), toUInt32_npos, substr_of_lt _ (by omega)]
    simp [hsep, hsuffix, Except.map]
    omega

/-- The rename loop over the files in the iterator's order: the renames it made, as
(old path, new path), and the exception that ended it, if one did. -/
def renameFiles (tabletId : Int) : List DirEntry → List (List Char × List Char) × Option CppException
  | [] => ([], none)
  | e :: es =>
    match restoreNewPath tabletId e.path with
    | .error ex => ([], some ex)
    | .ok .skip => renameFiles tabletId es
    | .ok (.rename newPath) =>
      ((e.path, newPath) :: (renameFiles tabletId es).1, (renameFiles tabletId es).2)

/-- **The loop throws exactly when a file misses its separator.** -/
theorem renameFiles_thrown_isSome (tabletId : Int) (es : List DirEntry) :
    (renameFiles tabletId es).2.isSome ↔ ∃ e ∈ es, MissingSeparator e.name := by
  induction es with
  | nil => simp [renameFiles]
  | cons e es ih =>
    rw [renameFiles]
    by_cases he : MissingSeparator e.name
    · rw [(restoreNewPath_eq_error_iff tabletId e).mpr he]
      simp [he]
    · obtain ⟨out, hout⟩ : ∃ out, restoreNewPath tabletId e.path = .ok out := by
        cases h : restoreNewPath tabletId e.path with
        | error ex => cases ex; exact absurd ((restoreNewPath_eq_error_iff tabletId e).mp h) he
        | ok out => exact ⟨out, rfl⟩
      rw [hout]
      cases out <;> simp [ih, he]

end PaloAgent
