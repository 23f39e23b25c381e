import FlowLang.Decimal.Binary64
import FlowLang.Text.Digits

/-!
# Decimal texts of double precision numbers

A finite number is written from a decimal, some digits times a power of ten, chosen in one of two ways: the fewest
digits that still read back as the number (`shortest`), or a fixed count of significant digits (`rounded`). A style
then says where positional notation ends and whether a whole number keeps a point.
-/

namespace FlowLang

open Text

/-- `digits` times ten to the power `exponent`. -/
structure Decimal where
  digits : Nat
  exponent : Int
  deriving DecidableEq, Repr

/-- How a decimal is laid out. -/
structure Decimal.Style where
  /-- positional notation is for powers of ten from 10^-4 up to, and not including, this one -/
  bound : Int
  /-- whole numbers are written with a point and a zero -/
  pointZero : Bool

namespace Decimal

/-- The greatest power of ten that is at most `num / den`, for a quotient above zero. -/
def leadingPower (num den : Nat) : Int :=
  if den ≤ num then (ofNat (num / den)).length - 1
  else
    let inverse := (den + num - 1) / num
    let places : Int := (ofNat (inverse - 1)).length
    0 - places

/-- The decimal with the digits of the text that are left when zeros at the end are removed, and the power of ten of
the first of them. -/
def significant (d : Decimal) : Text × Int :=
  let ds := ofNat d.digits
  match (ds.reverse.dropWhile (· == '0')).reverse with
  | [] => (['0'], 0)
  | kept => (kept, ds.length - 1 + d.exponent)

/-- The exponent of a number in scientific notation: a sign and at least two digits. -/
def writeExponent (e : Int) : Text :=
  'e' :: (if e < 0 then '-' else '+') :: padded 2 e.natAbs

/-- The decimal in a style. -/
def write (style : Style) (d : Decimal) : Text :=
  let (ds, power) := d.significant
  if -4 ≤ power ∧ power < style.bound then
    if power < 0 then "0.".toList ++ List.replicate (-power - 1).toNat '0' ++ ds
    else
      let places := (power + 1).toNat
      if ds.length ≤ places then
        ds ++ List.replicate (places - ds.length) '0' ++ (if style.pointZero then ".0".toList else [])
      else ds.take places ++ '.' :: ds.drop places
  else
    match ds with
    | [] => []
    | [first] => first :: writeExponent power
    | first :: rest => first :: '.' :: rest ++ writeExponent power

/-- Among the multiples of ten to the power `k` next to the number, the nearest that reads back as it. The reals that
do lie between the number's neighbours, half way to each; the ends belong to it when the mantissa is even. -/
def readsBack? (mantissa : Nat) (exponent k : Int) : Option Decimal :=
  -- everything is measured in quarters of the gap above the number: c · 10^k against x · 2^(exponent - 2)
  let p := Nat.pow 10 k.toNat * Nat.pow 2 (2 - exponent).toNat
  let q := Nat.pow 2 (exponent - 2).toNat * Nat.pow 10 (-k).toNat
  let four := 4 * mantissa
  let low := if mantissa = Nat.pow 2 52 ∧ -1074 < exponent then four - 1 else four - 2
  let high := four + 2
  let inside (c : Nat) : Bool :=
    if mantissa % 2 = 0 then low * q ≤ c * p && c * p ≤ high * q else low * q < c * p && c * p < high * q
  let below := four * q / p
  let above := below + 1
  let belowGap := four * q - below * p
  let aboveGap := above * p - four * q
  if inside below ∧ (¬ inside above ∨ belowGap < aboveGap ∨ (belowGap = aboveGap ∧ below % 2 = 0)) then
    some ⟨below, k⟩
  else if inside above then some ⟨above, k⟩
  else none

/-- The decimal of the fewest digits that reads back as the number, and of those the nearest. -/
def shortest (mantissa : Nat) (exponent : Int) : Decimal :=
  if mantissa = 0 then ⟨0, 0⟩
  else
    let (n, d) := Binary64.magnitude mantissa exponent
    let power := leadingPower n d
    ((List.range 17).findSome? fun (more : Nat) => readsBack? mantissa exponent (power - more)).getD ⟨0, 0⟩

/-- The decimal of `count` significant digits nearest to the number. -/
def rounded (count mantissa : Nat) (exponent : Int) : Decimal :=
  if mantissa = 0 then ⟨0, 0⟩
  else
    let (n, d) := Binary64.magnitude mantissa exponent
    let k := leadingPower n d - (count - 1)
    ⟨Binary64.nearest (n * Nat.pow 10 (-k).toNat) (d * Nat.pow 10 k.toNat), k⟩

end Decimal

namespace Binary64

/-- A number written by way of a decimal for its size. -/
def write (style : Decimal.Style) (decimal : Nat → Int → Decimal) : Binary64 → Text
  | .finite negative mantissa exponent =>
    (if negative then ['-'] else []) ++ (decimal mantissa exponent).write style
  | .infinity negative => if negative then "-inf".toList else "inf".toList
  | .notANumber => "nan".toList

/-- The number with as many digits as tell it apart from every other, positional up to 10^16. -/
def exact (x : Binary64) : Text :=
  x.write ⟨16, true⟩ Decimal.shortest

/-- The number to six significant digits, positional up to 10^6. -/
def brief (x : Binary64) : Text :=
  x.write ⟨6, false⟩ (Decimal.rounded 6)

end Binary64

end FlowLang
