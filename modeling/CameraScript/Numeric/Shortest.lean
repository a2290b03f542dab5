import CameraScript.Numeric.Fixed

/-!
# The shortest text that reads back

* `Shortest.text`: the decimal with the fewest digits that reads back as the same float, of
  these the nearest one, and the larger of two that are equally near. It is written out
  without an exponent, and whole numbers have no point.
* `Shortest.decimal`: the digits and the place of the last one.
-/

namespace CameraScript.Numeric.Shortest

/-- The reals that read back as one float: all between `low` and `high`, in quarters of the
unit `2 ^ exponent` of its mantissa, and the ends too if `closed`. -/
structure Interval where
  low : Nat
  middle : Nat
  high : Nat
  closed : Bool
  unit : Int

/-- The float below a power of two is only half as far away as the one above it. -/
def Interval.around (mantissa : Nat) (exponent : Int) : Interval :=
  { low := if mantissa = Decoded.leadingBit ∧ Decoded.leastExponent < exponent
      then 4 * mantissa - 1 else 4 * mantissa - 2
    middle := 4 * mantissa
    high := 4 * mantissa + 2
    closed := mantissa % 2 = 0
    unit := exponent - 2 }

/-- `2 ^ unit / 10 ^ place` as a fraction. -/
def ratio (unit place : Int) : Nat × Nat :=
  (Nat.pow 2 unit.toNat * Nat.pow 10 (-place).toNat,
    Nat.pow 2 (-unit).toNat * Nat.pow 10 place.toNat)

/-- The best multiple of `10 ^ place` inside the interval, if there is one. -/
def Interval.multiple? (i : Interval) (place : Int) : Option Nat :=
  let (num, den) := ratio i.unit place
  let inside (n : Nat) : Bool :=
    if i.closed then i.low * num ≤ n * den ∧ n * den ≤ i.high * num
    else i.low * num < n * den ∧ n * den < i.high * num
  let below := i.middle * num / den
  if inside below then
    if inside (below + 1) ∧ (2 * below + 1) * den ≤ 2 * (i.middle * num) then
      some (below + 1)
    else
      some below
  else if inside (below + 1) then
    some (below + 1)
  else
    none

/-- The best multiple on the coarsest of `grids + 1` grids, from `10 ^ place` down. The
last grid needs no test: seventeen digits tell all floats apart. -/
def Interval.search (i : Interval) : (grids : Nat) → (place : Int) → Nat × Int
  | 0, place =>
    let (num, den) := ratio i.unit place
    (i.middle * num / den, place)
  | grids + 1, place =>
    match i.multiple? place with
    | some n => (n, place)
    | none => i.search grids (place - 1)

/-- A place above the first digit of everything in the interval: `30103 / 100000` is just
over the logarithm of two. -/
def Interval.topPlace (i : Interval) : Int :=
  (i.high.log2 + 1 + i.unit) * 30103 / 100000 + 1

/-- The digits, read as a number, and the place of the last one. -/
def decimal (mantissa : Nat) (exponent : Int) : Nat × Int :=
  let i := Interval.around mantissa exponent
  i.search 20 i.topPlace

/-- `n * 10 ^ place` without an exponent. -/
def positional (n : Nat) : (place : Int) → List Char
  | .ofNat zeros => Nat.toDigits 10 n ++ List.replicate zeros '0'
  | .negSucc k =>
    let unit := Nat.pow 10 (k + 1)
    Nat.toDigits 10 (n / unit) ++ '.' :: Fixed.digits (k + 1) (n % unit)

def render : Decoded → List Char
  | .nan => ['N', 'a', 'N']
  | .infinite negative => Fixed.sign negative ++ ['i', 'n', 'f']
  | .finite negative mantissa exponent =>
    Fixed.sign negative ++
      if mantissa = 0 then ['0']
      else
        let (n, place) := decimal mantissa exponent
        positional n place

def text (x : Float) : String := String.ofList (render (Decoded.ofFloat x))

end CameraScript.Numeric.Shortest
