import Transclude.Number.Binary64

/-!
# Shortest decimals

The decimal text of a double-precision number with the fewest digits that read back as the same
number, and of those the one nearest to it.

## Main definitions

* `Decimal.shortest` : those digits and the position of the decimal point.
* `DecimalFormat`    : how digits are written out.
* `Binary64.write`   : the text of a number in a format.
-/

namespace Transclude

/-- A positive decimal `0.d₁d₂d₃… * 10 ^ point`, where `digits` holds `d₁d₂d₃…` as a natural. -/
structure Decimal where
  digits : Nat
  point : Int
  deriving DecidableEq, Repr

namespace Decimal

/-- The reals that round to a positive double, as `low / (4 * unit)` to `high / (4 * unit)`, the
number itself being `value / (4 * unit)`; the ends belong to it if `closed`. -/
structure Interval where
  low : Nat
  value : Nat
  high : Nat
  unit : Nat
  closed : Bool

/-- The interval of the reals that round to `mantissa * 2 ^ exponent`. The gap below a power of two
is half as wide as the gap above it. -/
def Interval.around (mantissa : Nat) (exponent : Int) : Interval :=
  let scale := if 0 ≤ exponent then Nat.pow 2 exponent.toNat else 1
  let unit := if 0 ≤ exponent then 1 else Nat.pow 2 (-exponent).toNat
  let narrow := mantissa = Nat.pow 2 52 ∧ exponent > Binary64.minExponent
  { low := (4 * mantissa - if narrow then 1 else 2) * scale
    value := 4 * mantissa * scale
    high := (4 * mantissa + 2) * scale
    unit := unit
    closed := mantissa % 2 == 0 }

/-- Whether `c * 10 ^ p` lies in the interval. -/
def Interval.contains (i : Interval) (c : Nat) (p : Int) : Bool :=
  let x := c * 4 * i.unit * (if 0 ≤ p then Nat.pow 10 p.toNat else 1)
  let s := if 0 ≤ p then 1 else Nat.pow 10 (-p).toNat
  if i.closed then decide (i.low * s ≤ x) && decide (x ≤ i.high * s)
  else decide (i.low * s < x) && decide (x < i.high * s)

/-- The multiple of `10 ^ p` in the interval that is nearest to its number, if there is one: one of
the number's two neighbours on that grid, an exact tie going to the even one. -/
def Interval.nearest? (i : Interval) (p : Int) : Option Nat :=
  let num := i.value * (if 0 ≤ p then 1 else Nat.pow 10 (-p).toNat)
  let den := 4 * i.unit * (if 0 ≤ p then Nat.pow 10 p.toNat else 1)
  let below := num / den
  let first := Binary64.roundQuotient num den
  let second := if first = below then below + 1 else below
  if i.contains first p then some first
  else if i.contains second p then some second
  else none

/-- The least `k` with `value < 10 ^ k`, found from an estimate that is at most one too small or
too large on either side. -/
def magnitude (i : Interval) : Int :=
  let below (k : Int) : Bool :=
    decide (i.value * (if 0 ≤ k then 1 else Nat.pow 10 (-k).toNat)
      < 4 * i.unit * (if 0 ≤ k then Nat.pow 10 k.toNat else 1))
  let guess : Int := (Binary64.floorLog2 i.value (4 * i.unit) * 30103) / 100000
  ((List.range 4).map fun (d : Nat) => guess - 1 + (d : Int)).find? below |>.getD (guess + 3)

/-- The digits without zeros at their end. -/
def stripZeros : Nat → Nat → Nat
  | 0, n => n
  | fuel + 1, n => if n ≠ 0 ∧ n % 10 = 0 then stripZeros fuel (n / 10) else n

/-- The shortest decimal that rounds to `mantissa * 2 ^ exponent`, for a positive mantissa. Every
double is determined by seventeen digits. -/
def shortest (mantissa : Nat) (exponent : Int) : Decimal :=
  let i := Interval.around mantissa exponent
  let k := magnitude i
  let hit := (List.range 17).findSome? fun (n : Nat) =>
    let p := k - ((n : Int) + 1)
    (i.nearest? p).map fun c => (c, p)
  let (c, p) := hit.getD (0, 0)
  let length : Int := (Nat.toDigits 10 c).length
  ⟨stripZeros 17 c, p + length⟩

end Decimal

/-- How the digits of a number are written: positional notation is used while the decimal point is
at a position above `lowest` and at most `highest`; an exponent has a sign and at least two
digits. -/
structure DecimalFormat where
  lowest : Int
  highest : Int
  infinity : String
  /-- Whether a mantissa of one digit is followed by a point and a zero before an exponent. -/
  pointedMantissa : Bool

namespace Binary64

/-- The digits with the decimal point at `point`, in positional notation, always with a digit on
either side of the point. -/
def positional (digits : List Char) (point : Int) : List Char :=
  if point ≤ 0 then
    '0' :: '.' :: (List.replicate (-point).toNat '0' ++ digits)
  else if point.toNat ≥ digits.length then
    digits ++ List.replicate (point.toNat - digits.length) '0' ++ ['.', '0']
  else digits.take point.toNat ++ '.' :: digits.drop point.toNat

/-- The digits in scientific notation, with the decimal point after the first one. -/
def scientific (pointed : Bool) (digits : List Char) (point : Int) : List Char :=
  let e := point - 1
  let exponent := Nat.toDigits 10 e.natAbs
  let padded := if exponent.length < 2 then '0' :: exponent else exponent
  let mantissa := match digits with
    | [] => []
    | [d] => if pointed then [d, '.', '0'] else [d]
    | d :: rest => d :: '.' :: rest
  mantissa ++ 'e' :: (if e < 0 then '-' else '+') :: padded

/-- The text of a number in the given format. -/
def write (format : DecimalFormat) : Binary64 → String
  | .infinite negative => (if negative then "-" else "") ++ format.infinity
  | .finite negative m e =>
    let body :=
      if m = 0 then ['0', '.', '0']
      else
        let d := Decimal.shortest m e
        let digits := Nat.toDigits 10 d.digits
        if format.lowest < d.point ∧ d.point ≤ format.highest then positional digits d.point
        else scientific format.pointedMantissa digits d.point
    (if negative then "-" else "") ++ String.ofList body

end Binary64

end Transclude
