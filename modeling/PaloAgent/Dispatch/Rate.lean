import Mathlib.Tactic.Common
import Mathlib.Algebra.Group.Nat.Basic

/-!
# Single-precision shares

`_get_next_task_index` compares two shares stored in `float` variables:

* `user_total_rate = _s_total_task_user_count[k][user] * 1.0 / _s_total_task_count[k]`
* `user_running_rate = (_s_running_task_user_count[k][user] + 1) * 1.0 / thread_count`

Each right-hand side is a quotient of two integers below `2^32`, computed in double
precision and then stored in a `float`, so it is rounded twice: to 53 significant bits by
the division, to 24 by the store, both to nearest with ties to even. A zero denominator
gives `+∞`, or NaN for `0 / 0`, and a comparison with NaN is false.

Both operands are below `2^32`, so a non-zero quotient lies in `[2^-32, 2^32]`, inside the
normal range of both formats: no subnormal, overflow or exponent clamp can arise, and a
value is a dyadic `m * 2^e`.
-/

namespace PaloAgent

/-- The number of binary digits of `n`; the fuel `n` bounds the recursion, which stops
when the halving reaches `0`. -/
def bitLength (n : Nat) : Nat :=
  go n n
where
  /-- Halve until zero, at most `fuel` times. -/
  go : Nat → Nat → Nat
    | 0, _ => 0
    | fuel + 1, n => if n = 0 then 0 else go fuel (n / 2) + 1

/-- `a * 2^s / b` as a fraction of naturals, for an exponent `s` of either sign. -/
def scaledFraction (a b : Nat) (s : Int) : Nat × Nat :=
  if 0 ≤ s then (a * 2 ^ s.toNat, b) else (a, b * 2 ^ (-s).toNat)

/-- `a / b` (with `0 < a` and `0 < b`) rounded to `p` significant bits, to nearest with
ties to even, as `(m, e)` with value `m * 2^e`. The first exponent `s₀` puts
`a * 2^s₀ / b` in `(2^(p-1), 2^(p+1))`; one halving more brings it below `2^p`. -/
def roundQuotient (p a b : Nat) : Nat × Int :=
  let s₀ : Int := p + bitLength b - bitLength a
  let s := if (scaledFraction a b s₀).1 / (scaledFraction a b s₀).2 < 2 ^ p then s₀ else s₀ - 1
  let num := (scaledFraction a b s).1
  let den := (scaledFraction a b s).2
  let q := num / den
  let r := num % den
  (if den < 2 * r ∨ (2 * r = den ∧ q % 2 = 1) then q + 1 else q, -s)

/-- A non-negative IEEE value as the shares take them: NaN, `+∞`, or `m * 2^e`. -/
inductive FloatValue
  | nan
  | inf
  | finite (m : Nat) (e : Int)
  deriving DecidableEq, Repr

/-- `a * 1.0 / b` stored in a `float`, for `uint32_t` or `int32_t` operands: the double
quotient rounded to 53 bits, then to 24. -/
def floatDiv (a b : Nat) : FloatValue :=
  if b = 0 then (if a = 0 then .nan else .inf)
  else if a = 0 then .finite 0 0
  else
    let d := roundQuotient 53 a b
    let f := roundQuotient 24 d.1 1
    .finite f.1 (d.2 + f.2)

/-- `x <= y` on floats: false when either side is NaN. -/
def FloatValue.le : FloatValue → FloatValue → Bool
  | .nan, _ => false
  | _, .nan => false
  | _, .inf => true
  | .inf, .finite .. => false
  | .finite m e, .finite m' e' =>
    if e ≤ e' then decide (m ≤ m' * 2 ^ (e' - e).toNat) else decide (m * 2 ^ (e - e').toNat ≤ m')

/-- The nearest float to `1/3` is `0x3EAAAAAB`, that is `11184811 * 2^-25`. -/
example : floatDiv 1 3 = .finite 11184811 (-25) := by decide

/-- Two roundings lose the last bit: `16777217 / 16777216` is stored as `1.0f`. -/
example : (floatDiv 16777217 16777216).le (floatDiv 1 1) = true := by decide

/-- A comparison with `0 / 0` is false, and anything finite is below `1 / 0`. -/
example : (floatDiv 1 1).le (floatDiv 0 0) = false ∧ (floatDiv 5 2).le (floatDiv 1 0) = true := by
  decide

end PaloAgent
