/-!
# Double-precision numbers

The double-precision binary format as exact values: a number is a sign, a mantissa and a power of
two, or an infinity. Reading rounds the exact quotient to the nearest number, a tie to the even
mantissa, and everything too large becomes an infinity.

## Main definitions

* `Binary64.ofRatio`   : the number nearest to a quotient of naturals.
* `Binary64.ofDecimal` : the number nearest to a mantissa times a power of ten.
* `Binary64.bits`      : the interchange encoding.
* `Extended.compare`   : the exact order of integers, doubles and infinities.

## Main statements

* `Extended.compare_eq_trans` : numbers that are equal to one number are equal.
-/

namespace Transclude

/-- A double-precision number. In a finite one the value is `mantissa * 2 ^ exponent`, where the
mantissa has at most 53 bits and the exponent is at least -1074. -/
inductive Binary64
  | finite (negative : Bool) (mantissa : Nat) (exponent : Int)
  | infinite (negative : Bool)
  deriving DecidableEq, Repr

namespace Binary64

/-- The least exponent of the format. -/
def minExponent : Int := -1074

/-- The greatest exponent of the format. -/
def maxExponent : Int := 971

/-- Zero with the given sign. -/
def zero (negative : Bool) : Binary64 := .finite negative 0 minExponent

/-- The quotient rounded to the nearest integer, a tie to the even one. -/
def roundQuotient (num den : Nat) : Nat :=
  let q := num / den
  let twice := 2 * (num % den)
  if twice < den then q
  else if twice > den then q + 1
  else if q % 2 = 0 then q else q + 1

/-- The two factors of `num / den / 2 ^ e` as a quotient of naturals. -/
def scaled (num den : Nat) (e : Int) : Nat × Nat :=
  if 0 ≤ e then (num, den * Nat.pow 2 e.toNat) else (num * Nat.pow 2 (-e).toNat, den)

/-- The exponent of the greatest power of two that is at most `num / den`, for positive `num` and
`den`. -/
def floorLog2 (num den : Nat) : Int :=
  let k : Int := (Nat.log2 num : Int) - (Nat.log2 den : Int)
  let (a, b) := scaled num den k
  if a < b then k - 1 else k

/-- The number nearest to `num / den`, with the given sign. -/
def ofRatio (negative : Bool) (num den : Nat) : Binary64 :=
  if num = 0 then zero negative
  else
    let e := max (floorLog2 num den - 52) minExponent
    let (a, b) := scaled num den e
    let m := roundQuotient a b
    let (m, e) := if m = Nat.pow 2 53 then (Nat.pow 2 52, e + 1) else (m, e)
    if e > maxExponent then .infinite negative else .finite negative m e

/-- The number nearest to `mantissa * 10 ^ exponent`, with the given sign. Far outside the range of
the format the answer is known from the count of digits alone. -/
def ofDecimal (negative : Bool) (mantissa : Nat) (exponent : Int) : Binary64 :=
  if mantissa = 0 then zero negative
  else
    let digits : Int := (Nat.toDigits 10 mantissa).length
    if digits + exponent > 400 then .infinite negative
    else if digits + exponent < -400 then zero negative
    else if 0 ≤ exponent then ofRatio negative (mantissa * Nat.pow 10 exponent.toNat) 1
    else ofRatio negative mantissa (Nat.pow 10 (-exponent).toNat)

/-- The interchange encoding as a 64-bit natural: sign, biased exponent, fraction. -/
def bits : Binary64 → Nat
  | .infinite negative => (if negative then Nat.pow 2 63 else 0) + 2047 * Nat.pow 2 52
  | .finite negative m e =>
    (if negative then Nat.pow 2 63 else 0) +
      (if m < Nat.pow 2 52 then m else (e + 1075).toNat * Nat.pow 2 52 + (m - Nat.pow 2 52))

/-- The value of a finite number as a quotient. -/
def ratio (negative : Bool) (mantissa : Nat) (exponent : Int) : Int × Nat :=
  let sign : Int := if negative then -1 else 1
  if 0 ≤ exponent then (sign * (mantissa * Nat.pow 2 exponent.toNat : Nat), 1)
  else (sign * (mantissa : Nat), Nat.pow 2 (-exponent).toNat)

/-- The number nearest to a quotient; a quotient that is zero has the given sign. -/
def ofQuotient (negativeZero : Bool) (num : Int) (den : Nat) : Binary64 :=
  if num = 0 then zero negativeZero else ofRatio (decide (num < 0)) num.natAbs den

/-- The sum, rounded to the nearest number. An infinity stays as it is. -/
def add (x y : Binary64) : Binary64 :=
  match x, y with
  | .infinite _, _ => x
  | _, .infinite _ => y
  | .finite s m e, .finite t n f =>
    let (a, b) := ratio s m e
    let (c, d) := ratio t n f
    ofQuotient (s && t) (a * d + c * b) (b * d)

/-- The product, rounded to the nearest number. An infinity keeps its size. -/
def mul (x y : Binary64) : Binary64 :=
  match x, y with
  | .infinite s, .infinite t | .infinite s, .finite t _ _ | .finite s _ _, .infinite t =>
    .infinite (s != t)
  | .finite s m e, .finite t n f =>
    let (a, b) := ratio s m e
    let (c, d) := ratio t n f
    ofQuotient (s != t) (a * c) (b * d)

/-- The number with the other sign. -/
def neg : Binary64 → Binary64
  | .infinite negative => .infinite (!negative)
  | .finite negative m e => .finite (!negative) m e

/-- Whether the number is an integer. -/
def isInteger : Binary64 → Bool
  | .infinite _ => false
  | .finite negative m e => let (n, d) := ratio negative m e; n % d == 0

/-- The number without its fraction; an infinity has none. -/
def truncate? : Binary64 → Option Int
  | .infinite _ => none
  | .finite negative m e => let (n, d) := ratio negative m e; some (n.tdiv d)

/-- Whether the number is zero, of either sign. -/
def isZero : Binary64 → Bool
  | .infinite _ => false
  | .finite _ m _ => m == 0

end Binary64

/-- Exact numbers with two infinities: the values that integers and doubles denote. -/
inductive Extended
  | negInf
  | ratio (num : Int) (den : Nat)
  | posInf
  deriving DecidableEq, Repr

namespace Extended

/-- The value of an integer. -/
def ofInt (i : Int) : Extended := .ratio i 1

/-- The value of a double-precision number. -/
def ofBinary64 : Binary64 → Extended
  | .infinite true => .negInf
  | .infinite false => .posInf
  | .finite negative m e =>
    .ratio (Binary64.ratio negative m e).1 (Binary64.ratio negative m e).2

/-- The order of two values; quotients are compared crosswise, so without rounding. -/
def compare : Extended → Extended → Ordering
  | .negInf, .negInf => .eq
  | .negInf, _ => .lt
  | _, .negInf => .gt
  | .posInf, .posInf => .eq
  | .posInf, _ => .gt
  | _, .posInf => .lt
  | .ratio a b, .ratio c d => Ord.compare (a * d) (c * b)

/-! ## Laws of the order -/

variable {x y z : Extended}

theorem swap_compare (x y : Extended) : (x.compare y).swap = y.compare x := by
  cases x with
  | negInf | posInf => cases y <;> rfl
  | ratio a b =>
    cases y with
    | negInf | posInf => rfl
    | ratio c d => exact Std.OrientedOrd.eq_swap.symm

theorem compare_self (x : Extended) : x.compare x = .eq := by
  cases x with
  | negInf | posInf => rfl
  | ratio a b => exact Std.ReflOrd.compare_self

/-- Whether a quotient has a positive denominator. -/
def Sound : Extended → Prop
  | .ratio _ den => 0 < den
  | .negInf | .posInf => True

/-- Numbers that are equal to one number are equal. -/
theorem compare_eq_trans (hy : y.Sound) (hxy : x.compare y = .eq) (hyz : y.compare z = .eq) :
    x.compare z = .eq := by
  cases y with
  | negInf | posInf => cases x <;> cases z <;> simp_all [compare]
  | ratio c d =>
    cases x with
    | negInf | posInf => cases hxy
    | ratio a b =>
      cases z with
      | negInf | posInf => cases hyz
      | ratio e f =>
        have hab : a * d = c * b := Std.LawfulEqOrd.eq_of_compare hxy
        have hcd : c * f = e * d := Std.LawfulEqOrd.eq_of_compare hyz
        have hd : (d : Int) ≠ 0 := by
          have : 0 < d := hy
          omega
        -- both sides are multiplied by the denominator in the middle
        have hcross : a * f * d = e * b * d := by
          calc a * f * d = a * d * f := by rw [Int.mul_right_comm]
            _ = c * f * b := by rw [hab, Int.mul_right_comm]
            _ = e * b * d := by rw [hcd, Int.mul_right_comm]
        exact Std.compare_eq_iff_eq.2 (Int.eq_of_mul_eq_mul_right hd hcross)

end Extended

end Transclude
