/-
A span of time in nanoseconds, its length in milliseconds, and its text: the largest unit of
seconds, milliseconds, microseconds and nanoseconds that fits, with as many decimals as it takes.
-/
import Parley.Text.Decimal

namespace Parley

/-- A span of time. -/
structure Duration where
  nanos : Nat
  deriving DecidableEq, Repr

namespace Duration

/-- A span of whole milliseconds. -/
def ofMillis (n : Nat) : Duration := ⟨n * 1000000⟩

/-- A span of whole seconds. -/
def ofSeconds (n : Nat) : Duration := ⟨n * 1000000000⟩

/-- The whole milliseconds in a span. -/
def toMillis (d : Duration) : Nat := d.nanos / 1000000

/-- Whether a span is empty. -/
def isZero (d : Duration) : Bool := d.nanos == 0

theorem toMillis_ofMillis (n : Nat) : (ofMillis n).toMillis = n :=
  Nat.mul_div_cancel n (by decide)

/-- The decimals of `rest` parts out of `10 ^ places`, without the zeros at their end. -/
def decimals (places rest : Nat) : Text :=
  let digits := Text.decimal rest
  Text.trimEndWhile (· == '0') (List.replicate (places - digits.length) '0' ++ digits)

/-- A count of units of `10 ^ places` nanoseconds. -/
def inUnit (nanos places : Nat) (unit : Text) : Text :=
  let size := Nat.pow 10 places
  let whole := Text.decimal (nanos / size)
  let rest := nanos % size
  if rest = 0 then whole ++ unit else whole ++ ('.' :: decimals places rest) ++ unit

/-- The text of a span. -/
def text (d : Duration) : Text :=
  if d.nanos ≥ 1000000000 then inUnit d.nanos 9 "s"
  else if d.nanos ≥ 1000000 then inUnit d.nanos 6 "ms"
  else if d.nanos ≥ 1000 then inUnit d.nanos 3 "µs"
  else inUnit d.nanos 0 "ns"

end Duration
end Parley
