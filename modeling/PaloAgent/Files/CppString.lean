import Mathlib.Data.List.Basic
import Mathlib.Tactic.Common
import Mathlib.Algebra.Group.Nat.Basic
import Mathlib.Data.Nat.Digits

/-!
# `std::string` as the agent uses it

The file-handling code of the agent cuts names out of paths and listings with
`std::string::find`, `rfind`, `substr` and `at`. A string here is its list of characters,
and positions are `size_t` values: a search that finds nothing returns `npos`, the largest
`size_t`, and `substr` and `at` throw `std::out_of_range` on a position past the end, which
is the `Except` of the model.

The decimal form of an integer, as `operator<<` writes it to a `stringstream`, is
`toString` here: a sign and digits (`mem_decimal`), so it holds none of the separators the
code searches for (`decimal_ne`).
-/

namespace PaloAgent

/-- `std::string::npos`: the largest `size_t`. -/
def npos : Nat := 2 ^ 64 - 1

/-- The exceptions `std::string` throws here. -/
inductive CppException
  | outOfRange
  deriving DecidableEq, Repr

/-- `s.find(c, pos)`: the first index at or after `pos` holding `c`, or `npos`. -/
def find (s : List Char) (c : Char) (pos : Nat) : Nat :=
  match (s.drop pos).findIdx? (· == c) with
  | some i => pos + i
  | none => npos

/-- `s.rfind(c)`: the last index holding `c`, or `npos`. -/
def rfind (s : List Char) (c : Char) : Nat :=
  match s.reverse.findIdx? (· == c) with
  | some i => s.length - 1 - i
  | none => npos

/-- `s.substr(pos, count)`: throws when `pos > s.size()`, and otherwise takes at most
`count` characters from `pos`; `s.substr(pos)` is `count = npos`. -/
def substr (s : List Char) (pos count : Nat) : Except CppException (List Char) :=
  if s.length < pos then .error .outOfRange else .ok ((s.drop pos).take count)

/-- `s.at(i)`: throws when `i >= s.size()`. -/
def stringAt (s : List Char) (i : Nat) : Except CppException Char :=
  if h : i < s.length then .ok (s.get ⟨i, h⟩) else .error .outOfRange

/-- `n - 1` on a `size_t`: `0 - 1` is `npos`. -/
def sizeTPred (n : Nat) : Nat := (n + npos) % 2 ^ 64

/-- The decimal form of an integer. -/
def decimal (n : Int) : List Char := (toString n).toList

/-! ### Searches -/

theorem find_of_findIdx?_some {s : List Char} {c : Char} {pos i : Nat}
    (h : (s.drop pos).findIdx? (· == c) = some i) : find s c pos = pos + i := by
  simp [find, h]

theorem find_of_findIdx?_none {s : List Char} {c : Char} {pos : Nat}
    (h : (s.drop pos).findIdx? (· == c) = none) : find s c pos = npos := by
  simp [find, h]

/-- A search from `pos` stops at the first `c` of what follows `pos`. -/
theorem find_of_drop_eq {s a b : List Char} {c : Char} {pos : Nat}
    (h : s.drop pos = a ++ c :: b) (ha : c ∉ a) : find s c pos = pos + a.length := by
  apply find_of_findIdx?_some
  rw [h, List.findIdx?_eq_some_iff_getElem]
  refine ⟨by simp, by simp [List.getElem_append_right], fun j hj => ?_⟩
  rw [List.getElem_append_left hj, beq_iff_eq]
  exact fun h => ha (h ▸ List.getElem_mem _)

/-- A search from `pos` finds nothing when no `c` follows `pos`. -/
theorem find_of_not_mem_drop {s : List Char} {c : Char} {pos : Nat} (h : c ∉ s.drop pos) :
    find s c pos = npos := by
  apply find_of_findIdx?_none
  rw [List.findIdx?_eq_none_iff]
  intro x hx
  simpa using fun hxc : x = c => h (hxc ▸ hx)

/-- A backward search stops at the last `c`. -/
theorem rfind_of_split {a b : List Char} {c : Char} (hb : c ∉ b) :
    rfind (a ++ c :: b) c = a.length := by
  have : (a ++ c :: b).reverse.findIdx? (· == c) = some b.length := by
    rw [List.reverse_append, List.reverse_cons, List.append_assoc, List.singleton_append,
      List.findIdx?_eq_some_iff_getElem]
    refine ⟨by simp, by simp [List.getElem_append_right], fun j hj => ?_⟩
    rw [List.getElem_append_left (by simpa using hj), beq_iff_eq]
    exact fun h => hb (List.mem_reverse.mp (h ▸ List.getElem_mem _))
  simp only [rfind, this, List.length_append, List.length_cons]
  omega

/-- Where `c` occurs, the text splits at its first occurrence. -/
theorem exists_first_split {c : Char} : ∀ {r : List Char}, c ∈ r → ∃ a b, r = a ++ c :: b ∧ c ∉ a
  | x :: r, h => by
    by_cases hx : x = c
    · exact ⟨[], r, by simp [hx], List.not_mem_nil c⟩
    · obtain ⟨a, b, rfl, ha⟩ := exists_first_split ((List.mem_cons.mp h).resolve_left (Ne.symm hx))
      exact ⟨x :: a, b, rfl, by simp [Ne.symm hx, ha]⟩

/-! ### Extraction -/

@[simp] theorem substr_of_le {s : List Char} {pos : Nat} (count : Nat) (h : pos ≤ s.length) :
    substr s pos count = .ok ((s.drop pos).take count) := by
  simp [substr, Nat.not_lt.mpr h]

@[simp] theorem substr_of_lt {s : List Char} {pos : Nat} (count : Nat) (h : s.length < pos) :
    substr s pos count = .error .outOfRange := by
  simp [substr, h]

theorem stringAt_of_lt {s : List Char} {i : Nat} (h : i < s.length) :
    stringAt s i = .ok (s.get ⟨i, h⟩) := by
  simp [stringAt, h]

theorem sizeTPred_of_pos {n : Nat} (h0 : 0 < n) (h : n ≤ 2 ^ 64) : sizeTPred n = n - 1 := by
  unfold sizeTPred npos
  rw [show n + (2 ^ 64 - 1) = (n - 1) + 2 ^ 64 by omega, Nat.add_mod_right,
    Nat.mod_eq_of_lt (by omega)]

/-- On a non-empty string, `length() - 1` is a valid index. -/
theorem sizeTPred_lt {n : Nat} (h : 0 < n) : sizeTPred n < n := by
  by_cases hn : n ≤ 2 ^ 64
  · rw [sizeTPred_of_pos h hn]; omega
  · exact Nat.lt_of_lt_of_le (Nat.mod_lt _ (by decide)) (by omega)

/-! ### Decimal integers -/

theorem digitChar_ne {d : Nat} (h : d < 10) :
    d.digitChar ≠ '.' ∧ d.digitChar ≠ '_' ∧ d.digitChar ≠ '/' := by
  have : ∀ m < 10, m.digitChar ≠ '.' ∧ m.digitChar ≠ '_' ∧ m.digitChar ≠ '/' := by decide
  exact this d h

theorem mem_toDigitsCore {c : Char} : ∀ {fuel n : Nat} {acc : List Char},
    c ∈ Nat.toDigitsCore 10 fuel n acc → c ∈ acc ∨ ∃ d < 10, c = Nat.digitChar d
  | 0, _, _, h => .inl h
  | fuel + 1, n, acc, h => by
    have hd : n % 10 < 10 := Nat.mod_lt _ (by decide)
    simp only [Nat.toDigitsCore] at h
    split_ifs at h
    · rcases List.mem_cons.mp h with rfl | h
      · exact .inr ⟨_, hd, rfl⟩
      · exact .inl h
    · rcases mem_toDigitsCore h with h | h
      · rcases List.mem_cons.mp h with rfl | h
        · exact .inr ⟨_, hd, rfl⟩
        · exact .inl h
      · exact .inr h

theorem toDigitsCore_ne_nil : ∀ {fuel n : Nat} {acc : List Char}, acc ≠ [] →
    Nat.toDigitsCore 10 fuel n acc ≠ []
  | 0, _, _, h => h
  | fuel + 1, n, acc, _ => by
    simp only [Nat.toDigitsCore]
    split_ifs
    · exact List.cons_ne_nil _ _
    · exact toDigitsCore_ne_nil (List.cons_ne_nil _ _)

/-- The decimal form of an integer has at least one character. -/
theorem decimal_ne_nil (n : Int) : decimal n ≠ [] := by
  have hrepr : ∀ m : Nat, (Nat.repr m).toList ≠ [] := fun m => by
    simp only [Nat.repr, Nat.toDigits, Nat.toDigitsCore]
    split_ifs
    · exact List.cons_ne_nil _ _
    · exact toDigitsCore_ne_nil (List.cons_ne_nil _ _)
  cases n with
  | ofNat m => exact hrepr m
  | negSucc m => exact List.cons_ne_nil _ _

/-- The decimal form of an integer is a sign and digits. -/
theorem mem_decimal {n : Int} {c : Char} (h : c ∈ decimal n) :
    c = '-' ∨ ∃ d < 10, c = Nat.digitChar d := by
  have hdigits : ∀ m : Nat, c ∈ (Nat.repr m).toList → ∃ d < 10, c = Nat.digitChar d := by
    intro m hm
    rcases mem_toDigitsCore hm with hm | hd
    · simp at hm
    · exact hd
  cases n with
  | ofNat m => exact .inr (hdigits m h)
  | negSucc m =>
    rw [show decimal (Int.negSucc m) = '-' :: (Nat.repr (m + 1)).toList from rfl] at h
    rcases List.mem_cons.mp h with rfl | h
    · exact .inl rfl
    · exact .inr (hdigits _ h)

/-- The decimal form of an integer holds none of the separators the code searches for. -/
theorem decimal_ne {n : Int} {c : Char} (h : c ∈ decimal n) : c ≠ '.' ∧ c ≠ '_' ∧ c ≠ '/' := by
  rcases mem_decimal h with rfl | ⟨d, hd, rfl⟩
  · decide
  · exact digitChar_ne hd

end PaloAgent
