import PaloAgent.Files.CppString

/-!
# The clone listing and the download order

`_clone_copy` asks a source backend for the files of a snapshot and receives them as one
string, `file_list_str`, a name a line. It cuts the string at each `'\n'` with `find` and
`substr`, taking what follows the last `'\n'` as a further name when it is not empty, and
files each name into `file_name_list`: a header (`*.hdr`, longer than four characters) at
the back, any other name at the front. "If the header file is not exist, the table
could't loaded by olap engine. Avoid of data is not complete, we copy the header file at
last."

`fileNameList_eq` says what the loop computes: the fold of the insertion over the listing
split at `'\n'` (`listingEntries`, with `List.splitOn`). `foldl_insertFileName` solves the
fold, and `fileNameList_hdr_last` puts the two together: `file_name_list` is a permutation
of the listing in which every header comes after every other name.
-/

namespace PaloAgent

/-- A header file: `file_name.size() > 4 && file_name.substr(file_name.size() - 4, 4) ==
".hdr"` (the `substr` cannot throw under the guard). -/
def isHdr (name : List Char) : Bool :=
  decide (4 < name.length) && ((name.drop (name.length - 4)).take 4 == ".hdr".toList)

/-- One insertion of the split loop: a header is pushed to the back of `file_name_list`,
any other name inserted at its front. -/
def insertFileName (names : List (List Char)) (name : List Char) : List (List Char) :=
  if isHdr name then names ++ [name] else name :: names

/-- The split loop of `_clone_copy` on `file_list_str = s`, from `start_position = start`
and `end_position = stop`; `fuel` bounds the iterations. -/
def splitFileList (s : List Char) :
    Nat → Nat → Nat → List (List Char) → Except CppException (List (List Char))
  | 0, _, _, names => .ok names
  | fuel + 1, start, stop, names =>
    if stop ≠ npos then do
      let name ← substr s start (stop - start)
      splitFileList s fuel (stop + 1) (find s '\n' (stop + 1)) (insertFileName names name)
    else if start ≠ s.length then do
      let name ← substr s start (s.length - start)
      pure (insertFileName names name)
    else pure names

/-- `file_name_list` for the listing `s`: every iteration moves past a `'\n'`, so
`s.length + 1` iterations are enough. -/
def fileNameList (s : List Char) : Except CppException (List (List Char)) :=
  splitFileList s (s.length + 1) 0 (find s '\n' 0) []

/-- The listing split at `'\n'`, with the empty segment after a final `'\n'` dropped. -/
def listingEntries (s : List Char) : List (List Char) :=
  let parts := s.splitOn '\n'
  if parts.getLast? = some [] then parts.dropLast else parts

/-! ### The split -/

theorem not_beq_of_not_mem {a : List Char} (ha : '\n' ∉ a) :
    ∀ x ∈ a, ¬(x == '\n') = true := fun _ hx hxc => ha (eq_of_beq hxc ▸ hx)

theorem splitOn_of_split {a b : List Char} (ha : '\n' ∉ a) :
    (a ++ '\n' :: b).splitOn '\n' = a :: b.splitOn '\n' :=
  List.splitOnP_first _ _ (not_beq_of_not_mem ha) _ (by simp) _

theorem listingEntries_of_split {a b : List Char} (ha : '\n' ∉ a) :
    listingEntries (a ++ '\n' :: b) = a :: listingEntries b := by
  obtain ⟨p, ps, hp⟩ := List.exists_cons_of_ne_nil (List.splitOnP_ne_nil (· == '\n') b)
  have hp : b.splitOn '\n' = p :: ps := hp
  simp only [listingEntries, splitOn_of_split ha, hp, List.getLast?_cons_cons,
    List.dropLast_cons₂]
  split <;> rfl

theorem listingEntries_of_not_mem {r : List Char} (h : '\n' ∉ r) :
    listingEntries r = if r = [] then [] else [r] := by
  have : r.splitOn '\n' = [r] := List.splitOnP_eq_single _ _ (not_beq_of_not_mem h)
  by_cases hr : r = [] <;> simp [listingEntries, this, hr]

/-- **The split loop computes the split.** From any `start_position` inside a listing
shorter than `npos`, with `end_position` the next `'\n'`, the loop files the rest of the
listing split at `'\n'`. -/
theorem splitFileList_eq {s : List Char} (hs : s.length < npos) :
    ∀ fuel start names, start ≤ s.length → s.length - start < fuel →
      splitFileList s fuel start (find s '\n' start) names =
        .ok ((listingEntries (s.drop start)).foldl insertFileName names)
  | 0, _, _, _, hfuel => absurd hfuel (Nat.not_lt_zero _)
  | fuel + 1, start, names, hstart, hfuel => by
    by_cases hmem : '\n' ∈ s.drop start
    · obtain ⟨a, b, hab, ha⟩ := exists_first_split hmem
      have hlen : s.length - start = a.length + 1 + b.length := by
        rw [← List.length_drop, hab]; simp; omega
      have hrest : s.drop (start + a.length + 1) = b := by
        rw [Nat.add_assoc, ← List.drop_drop, hab]; simp
      rw [splitFileList, find_of_drop_eq hab ha, if_pos (by unfold npos at hs ⊢; omega),
        substr_of_le _ hstart, Nat.add_sub_cancel_left, hab, List.take_left' rfl]
      simp only [bind, Except.bind]
      rw [splitFileList_eq hs fuel _ _ (by omega) (by omega), hrest, listingEntries_of_split ha]
      rfl
    · rw [splitFileList, find_of_not_mem_drop hmem, if_neg (not_not.mpr rfl),
        listingEntries_of_not_mem hmem]
      by_cases hend : start = s.length
      · subst hend
        simp
        rfl
      · have hne : s.drop start ≠ [] := by simp; omega
        rw [if_pos hend, substr_of_le _ hstart, List.take_of_length_le (by simp)]
        simp [bind, Except.bind, pure, Except.pure, hne]

theorem fileNameList_eq {s : List Char} (hs : s.length < npos) :
    fileNameList s = .ok ((listingEntries s).foldl insertFileName []) :=
  splitFileList_eq hs _ 0 [] (Nat.zero_le _) (by omega)

/-! ### The order -/

/-- **The insertion solved.** Filing the names `l` into `names` puts the non-headers of `l`
in reverse order in front and the headers of `l` in order at the back. -/
theorem foldl_insertFileName (l : List (List Char)) (names : List (List Char)) :
    l.foldl insertFileName names =
      (l.filter (!isHdr ·)).reverse ++ names ++ l.filter isHdr := by
  induction l generalizing names with
  | nil => simp
  | cons n l ih =>
    rw [List.foldl_cons, ih, insertFileName]
    by_cases h : isHdr n <;> simp [h]

/-- **Headers last.** For every listing shorter than `npos`, `file_name_list` is a
permutation of the listing split at `'\n'` (the empty segment after a final `'\n'`
dropped), made of the other names followed by the headers. -/
theorem fileNameList_hdr_last {s : List Char} (hs : s.length < npos) :
    ∃ names nonHdr hdr, fileNameList s = .ok names ∧ names.Perm (listingEntries s) ∧
      names = nonHdr ++ hdr ∧ (∀ n ∈ nonHdr, isHdr n = false) ∧ ∀ n ∈ hdr, isHdr n = true := by
  refine ⟨_, _, _, fileNameList_eq hs, ?_, foldl_insertFileName _ [], ?_, ?_⟩
  · rw [foldl_insertFileName, List.append_nil]
    exact ((List.reverse_perm _).append_right _).trans
      (List.perm_append_comm.trans (List.filter_append_perm _ _))
  · simp
  · simp

end PaloAgent
