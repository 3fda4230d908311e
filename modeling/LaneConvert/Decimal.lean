/-!
# Binary numbers of 64 bits

A decimal number is read as the binary number nearest to it: 53 bits of precision, exponents from
-1074 on, ties to the even neighbour. All arithmetic is exact, on natural numbers. Numbers are only
read and shown here; nothing is computed with them. A number is shown by the fewest decimal digits
that read back as the same number, and of those by the nearest, the greater of two equally near
ones. The digits are written in full, without an exponent, and with at least one place behind the
point.
-/

namespace LaneConvert.Decimal

/-- A binary floating-point number of double precision. -/
inductive Binary64 where
  /-- The number `mantissa * 2 ^ exponent`, with its sign. -/
  | finite (negative : Bool) (mantissa : Nat) (exponent : Int)
  | infinite (negative : Bool)
  | nan
  deriving DecidableEq, Repr

namespace Binary64

/-- The least exponent. -/
def minExponent : Int := -1074

/-- The greatest exponent. -/
def maxExponent : Int := 971

/-- The least mantissa that uses all bits. -/
def fullMantissa : Nat := Nat.pow 2 52

/-- The quotient `num / den` as a pair, divided by a power of a base. -/
def divPow (num den base : Nat) (exponent : Int) : Nat × Nat :=
  if 0 ≤ exponent then (num, den * base.pow exponent.toNat)
  else (num * base.pow (-exponent).toNat, den)

/-- The whole number nearest to a quotient, of two equally near ones the even one. -/
def roundEven (num den : Nat) : Nat :=
  let whole := num / den
  let rest := num % den
  if 2 * rest < den then whole
  else if den < 2 * rest then whole + 1
  else whole + whole % 2

/-- The exponent at which a positive quotient has a mantissa of 53 bits, or the least exponent. -/
def scale (num den : Nat) : Int :=
  let low : Int := (num.log2 : Int) - den.log2 - 53
  let (n, d) := divPow num den 2 low
  max minExponent (if n < d * (2 * fullMantissa) then low else low + 1)

/-- The binary number nearest to a positive quotient. -/
def nearest (negative : Bool) (num den : Nat) : Binary64 :=
  let exponent := scale num den
  let (n, d) := divPow num den 2 exponent
  let mantissa := roundEven n d
  let (mantissa, exponent) :=
    if mantissa = 2 * fullMantissa then (fullMantissa, exponent + 1) else (mantissa, exponent)
  if maxExponent < exponent then infinite negative else finite negative mantissa exponent

/-- Zero, with its sign. -/
def zero (negative : Bool) : Binary64 := finite negative 0 minExponent

/-- The number of decimal digits of a whole number. -/
def digitCount (n : Nat) : Nat := (Nat.toDigits 10 n).length

/-- The binary number nearest to `digits * 10 ^ exponent`. Numbers from `10 ^ 309` on are infinite
and numbers below `10 ^ -324` are zero, whatever their digits are. -/
def ofDecimal (negative : Bool) (digits : Nat) (exponent : Int) : Binary64 :=
  let magnitude := exponent + digitCount digits
  if digits = 0 || magnitude ≤ -324 then zero negative
  else if 310 ≤ magnitude then infinite negative
  else
    let (num, den) := divPow digits 1 10 (-exponent)
    nearest negative num den

end Binary64

/-- The whole number `coefficient` times a power of ten. -/
structure Numeral where
  coefficient : Nat
  exponent : Int
  deriving DecidableEq, Repr

namespace Binary64

/-- The multiple of a power of ten that reads back as the given positive number, if there is one on
this grid. All quantities are counted in quarters of the last bit, so that the numbers half a bit
away are whole; they read back if the mantissa is even. Below a power of two the next number is
only half a bit away. -/
def onGrid? (mantissa : Nat) (exponent : Int) (grid : Int) : Option Numeral :=
  let (num, den) := divPow 1 1 10 (-grid)
  let (num, den) := divPow num den 2 (exponent - 2)
  let value := 4 * mantissa * den
  let below := if mantissa = fullMantissa && minExponent < exponent then den else 2 * den
  let above := 2 * den
  let closed := mantissa % 2 = 0
  let floor := value / num
  let rest := value - floor * num
  let lowFits := rest < below || (closed && rest = below)
  let highFits := num - rest < above || (closed && num - rest = above)
  if lowFits && (!highFits || 2 * rest < num) then some ⟨floor, grid⟩
  else if highFits then some ⟨floor + 1, grid⟩
  else none

/-- The grids from the coarsest one on. On the last one every number is met exactly. -/
def grids : List Int := (List.range 1384).map fun (i : Nat) => 309 - (i : Int)

/-- The shortest decimal that reads back as the given positive number. -/
def shortest (mantissa : Nat) (exponent : Int) : Numeral :=
  (grids.findSome? (onGrid? mantissa exponent)).getD ⟨0, 0⟩

end Binary64

/-- A decimal written in full, with at least one place behind the point. -/
def Numeral.text (d : Numeral) : String :=
  let digits := Nat.toDigits 10 d.coefficient
  if 0 ≤ d.exponent then
    String.ofList (digits ++ List.replicate d.exponent.toNat '0') ++ ".0"
  else
    let places := (-d.exponent).toNat
    let padded := List.replicate (places + 1 - digits.length) '0' ++ digits
    let whole := padded.length - places
    String.ofList (padded.take whole) ++ "." ++ String.ofList (padded.drop whole)

/-- A binary number written out by its shortest decimal. -/
def Binary64.text : Binary64 → String
  | .finite negative mantissa exponent =>
    (if negative then "-" else "") ++
      (if mantissa = 0 then ⟨0, 0⟩ else shortest mantissa exponent : Numeral).text
  | .infinite negative => if negative then "-inf" else "inf"
  | .nan => "NaN"

end LaneConvert.Decimal
