import Cleave.Text.Basic

/-!
# Decimal forms of fractions

A finite binary fraction is a whole number times a power of two, so its decimal form with any number of places is
a matter of whole numbers. A half is rounded to the even neighbour.
-/

namespace Cleave.Shell

/-- The quotient of two numbers, rounded to the nearest whole number and a half to the even one. -/
def roundedQuotient (n d : Nat) : Nat :=
  let q := n / d
  let r := n % d
  if 2 * r < d || (2 * r = d && q % 2 = 0) then q else q + 1

/-- A finite number that is not negative: `numerator / denominator`. -/
structure Ratio where
  numerator : Nat
  denominator : Nat

/-- The magnitude of a floating-point number. -/
def Ratio.ofFloat (x : Float) : Ratio :=
  let bits := x.toBits.toNat
  let exponent := bits / Nat.pow 2 52 % Nat.pow 2 11
  let fraction := bits % Nat.pow 2 52
  let (mantissa, power) := if exponent = 0 then (fraction, 1) else (fraction + Nat.pow 2 52, exponent)
  if 1075 ≤ power then ⟨mantissa * Nat.pow 2 (power - 1075), 1⟩ else ⟨mantissa, Nat.pow 2 (1075 - power)⟩

/-- The decimal digits of a number, at least `least` of them. -/
def digitsOf (least n : Nat) : Text :=
  let digits := Text.ofNat n
  List.replicate (least - digits.length) '0' ++ digits

/-- Digits with a point before the last `places` of them. -/
def withPoint (places : Nat) (digits : Text) : Text :=
  if places = 0 then digits
  else digits.take (digits.length - places) ++ '.' :: digits.drop (digits.length - places)

/-- The form with a fixed number of places. -/
def Ratio.fixed (places : Nat) (r : Ratio) : Text :=
  withPoint places (digitsOf (places + 1) (roundedQuotient (r.numerator * Nat.pow 10 places) r.denominator))

/-- The number times a power of ten, rounded. -/
def Ratio.scaled (r : Ratio) (power : Int) : Nat :=
  if 0 ≤ power then roundedQuotient (r.numerator * Nat.pow 10 power.toNat) r.denominator
  else roundedQuotient r.numerator (r.denominator * Nat.pow 10 (-power).toNat)

/-- The power of ten of the first digit, before any rounding. -/
def Ratio.magnitude (r : Ratio) : Int :=
  if r.denominator ≤ r.numerator then ((Text.ofNat (r.numerator / r.denominator)).length : Int) - 1
  else if r.numerator = 0 then 0
  else
    let guess := (Text.ofNat (r.denominator / r.numerator)).length
    if r.denominator ≤ r.numerator * Nat.pow 10 (guess - 1) then 1 - (guess : Int) else -(guess : Int)

/-- The digits of the form with one digit before the point, and the power of ten that goes with it. -/
def Ratio.scientificParts (places : Nat) (r : Ratio) : Text × Int :=
  let power := r.magnitude
  let n := r.scaled (places - power)
  let digits := digitsOf (places + 1) n
  if places + 1 < digits.length then (digits.dropLast, power + 1) else (digits, power)

/-- The text of a power of ten: a sign and at least two digits. -/
def powerText (mark : Char) (power : Int) : Text :=
  mark :: (if power < 0 then '-' else '+') :: digitsOf 2 power.natAbs

/-- The form with one digit before the point. -/
def Ratio.scientific (mark : Char) (places : Nat) (r : Ratio) : Text :=
  let (digits, power) := r.scientificParts places
  withPoint places digits ++ powerText mark power

/-- A number without zeros at the end of its places. -/
def trimPlaces (t : Text) : Text :=
  if t.contains '.' then
    let kept := (t.reverse.dropWhile (· == '0')).reverse
    if kept.getLast? = some '.' then kept.dropLast else kept
  else t

/-- The shorter of the two forms, with a number of digits. -/
def Ratio.general (mark : Char) (precision : Nat) (r : Ratio) : Text :=
  let precision := max precision 1
  let (digits, power) := r.scientificParts (precision - 1)
  if -4 ≤ power && power < precision then trimPlaces (r.fixed (precision - 1 - power).toNat)
  else trimPlaces (withPoint (precision - 1) digits) ++ powerText mark power

end Cleave.Shell
