import LineBridge.Text.Fixed

/-! Lengths of time, held in nanoseconds, as text in the largest unit of which they have at
least one, and in seconds as floating point. -/

namespace LineBridge.Elapsed

/-- A unit and its length in nanoseconds. -/
def unitOf (ns : Nat) : String × Nat :=
  if 1000000000 ≤ ns then ("s", 1000000000)
  else if 1000000 ≤ ns then ("ms", 1000000)
  else if 1000 ≤ ns then ("µs", 1000)
  else ("ns", 1)

/-- With a fixed number of places. Rounding never changes the unit. -/
def rounded (places ns : Nat) : String :=
  let (unit, length) := unitOf ns
  Fixed.ofQuotient places ns length ++ unit

/-- With as many places as it takes. -/
def exact (ns : Nat) : String :=
  let (unit, length) := unitOf ns
  let places := match length with | 1 => 0 | 1000 => 3 | 1000000 => 6 | _ => 9
  let fraction := (toString (ns % length)).toList
  let digits := (List.replicate (places - fraction.length) '0' ++ fraction).reverse
  let shown := (digits.dropWhile (· == '0')).reverse
  let tail := if shown.isEmpty then "" else "." ++ String.ofList shown
  toString (ns / length) ++ tail ++ unit

/-- Whole seconds plus the rest, each converted on its own. -/
def seconds (ns : Nat) : Float :=
  (UInt64.ofNat (ns / 1000000000)).toFloat +
    (UInt64.ofNat (ns % 1000000000)).toFloat / 1000000000.0

end LineBridge.Elapsed
