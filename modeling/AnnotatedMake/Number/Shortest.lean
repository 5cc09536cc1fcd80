import AnnotatedMake.Number.Binary64

namespace AnnotatedMake.Binary64

/-- The reals that round to a positive number, as an interval over one denominator. -/
structure Interval where
  low : Nat
  value : Nat
  high : Nat
  denominator : Nat
  closed : Bool

/-- The interval of `significand · 2 ^ exponent`; below a power of two the gap is half as wide. -/
def intervalOf (significand : Nat) (exponent : Int) : Interval :=
  let up := Nat.pow 2 exponent.toNat
  let down := Nat.pow 2 (-exponent).toNat
  let step := if significand = Nat.pow 2 52 && decide (-1074 < exponent) then 1 else 2
  { low := (4 * significand - step) * up
    value := 4 * significand * up
    high := (4 * significand + 2) * up
    denominator := 4 * down
    closed := significand % 2 = 0 }

/-- Whether `digits · 10 ^ power` lies in an interval. -/
def Interval.has (interval : Interval) (digits : Nat) (power : Int) : Bool :=
  let point := digits * Nat.pow 10 power.toNat * interval.denominator
  let unit := Nat.pow 10 (-power).toNat
  let low := interval.low * unit
  let high := interval.high * unit
  if interval.closed then decide (low ≤ point) && decide (point ≤ high)
  else decide (low < point) && decide (point < high)

/-- The two multiples of `10 ^ power` around the value, as counts, and which of them is nearer. -/
def Interval.neighbours (interval : Interval) (power : Int) : Nat × Nat × Ordering :=
  let top := interval.value * Nat.pow 10 (-power).toNat
  let bottom := interval.denominator * Nat.pow 10 power.toNat
  let below := top / bottom
  (below, below + 1, compare (2 * (top % bottom)) bottom)

/-- The nearest neighbour of the value on the grid of `10 ^ power` that reads back. -/
def Interval.pick? (interval : Interval) (power : Int) : Option Nat :=
  let (below, above, order) := interval.neighbours power
  let preferBelow := order = .lt || (order = .eq && below % 2 = 0)
  match interval.has below power && decide (0 < below), interval.has above power with
  | true, true => some (if preferBelow then below else above)
  | true, false => some below
  | false, true => some above
  | false, false => none

/-- The least exponent, from a lower bound on, whose power of ten exceeds the value. -/
def Interval.magnitudeFrom (interval : Interval) : Nat → Int → Int
  | 0, power => power
  | fuel + 1, power =>
    let top := interval.value * Nat.pow 10 (-power).toNat
    if top < Nat.pow 10 power.toNat * interval.denominator then power
    else interval.magnitudeFrom fuel (power + 1)

/-- The exponent of the least power of ten above the value. -/
def Interval.magnitude (interval : Interval) : Int :=
  let bits : Int := (interval.value.log2 : Int) - interval.denominator.log2
  interval.magnitudeFrom 8 (bits * 30103 / 100000 - 2)

/-- Tries ever finer grids, from the one with a single digit on. -/
def Interval.shortestFrom (interval : Interval) (magnitude : Int) : Nat → Nat → Nat × Int
  | 0, count => ((interval.pick? (magnitude - count)).getD 0, magnitude - count)
  | fuel + 1, count =>
    match interval.pick? (magnitude - count) with
    | some digits => (digits, magnitude - count)
    | none => interval.shortestFrom magnitude fuel (count + 1)

/-- A number of at most 17 digits and a power of ten that read back as the value. -/
def Interval.shortest (interval : Interval) : Nat × Int :=
  interval.shortestFrom interval.magnitude 17 1

def dropZeros (digits : List Char) : List Char :=
  (digits.reverse.dropWhile fun c => c = '0').reverse

/-- An exponent is written with its sign and at least two digits. -/
def exponentText (exponent : Int) : List Char :=
  let digits := Nat.toDigits 10 exponent.natAbs
  (if exponent < 0 then '-' else '+') :: (if digits.length < 2 then '0' :: digits else digits)

/-- Digits with a point behind the first `point` of them, or with an exponent. -/
def placeDigits (digits : List Char) (point : Int) : List Char :=
  if point < -3 || 16 < point then
    let mantissa := match digits with
      | [first] => [first]
      | first :: rest => first :: '.' :: rest
      | [] => []
    mantissa ++ 'e' :: exponentText (point - 1)
  else if point ≤ 0 then '0' :: '.' :: (List.replicate (-point).toNat '0' ++ digits)
  else
    let whole := digits.take point.toNat
    let part := digits.drop point.toNat
    whole ++ List.replicate (point.toNat - digits.length) '0' ++
      '.' :: (if part.isEmpty then ['0'] else part)

/-- The text of the absolute value of a finite number. -/
def magnitudeText (significand : Nat) (exponent : Int) : List Char :=
  if significand = 0 then ['0', '.', '0']
  else
    let (digits, power) := (intervalOf significand exponent).shortest
    let all := Nat.toDigits 10 digits
    placeDigits (dropZeros all) (power + all.length)

def text : Binary64 → String
  | finite negative significand exponent =>
    (if negative then "-" else "") ++ String.ofList (magnitudeText significand exponent)
  | infinite negative => if negative then "-inf" else "inf"
  | notANumber => "nan"

end AnnotatedMake.Binary64
