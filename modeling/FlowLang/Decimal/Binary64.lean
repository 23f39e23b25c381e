import FlowLang.Decimal.Numeral

/-!
# Binary numbers of 64 bits

Durations and clocks are kept as double precision numbers. A finite one is a whole mantissa below 2^53 times a power
of two from 2^-1074 to 2^971. Every operation here is computed exactly on whole numbers and rounded once, to the
nearest such number and on a tie to the one with the even mantissa.
-/

namespace FlowLang

/-- A double precision number. -/
inductive Binary64 where
  /-- `mantissa` times two to the power `exponent`, below zero if `negative`; zero has a sign too -/
  | finite (negative : Bool) (mantissa : Nat) (exponent : Int)
  | infinity (negative : Bool)
  | notANumber
  deriving DecidableEq, Repr

namespace Binary64

/-- The whole number nearest to `num / den`, and of two equally near ones the even one. -/
def nearest (num den : Nat) : Nat :=
  let quotient := num / den
  let twice := 2 * (num % den)
  if twice < den then quotient
  else if den < twice then quotient + 1
  else quotient + quotient % 2

/-- The quotient `num / den` divided by two to the power `e`, as a numerator and a denominator. -/
def scaled (num den : Nat) (e : Int) : Nat × Nat :=
  (num * Nat.pow 2 (-e).toNat, den * Nat.pow 2 e.toNat)

/-- The double precision number nearest to `num / den`. -/
def ofRatio (negative : Bool) (num den : Nat) : Binary64 :=
  if num = 0 then .finite negative 0 (-1074)
  else
    -- the quotient lies between 2^52 and 2^54 times two to this power
    let rough : Int := num.log2 - den.log2 - 53
    let (n, d) := scaled num den rough
    let fitting := max (if Nat.pow 2 53 * d ≤ n then rough + 1 else rough) (-1074)
    let (n, d) := scaled num den fitting
    let mantissa := nearest n d
    let (mantissa, exponent) := if mantissa = Nat.pow 2 53 then (Nat.pow 2 52, fitting + 1) else (mantissa, fitting)
    if 971 < exponent then .infinity negative else .finite negative mantissa exponent

/-- The double precision number nearest to a whole number. -/
def ofInt (i : Int) : Binary64 :=
  ofRatio (i < 0) i.natAbs 1

/-- The double precision number nearest to what a numeral stands for. Decimals of more than 310 places before the
point are too large for a finite one, those that start more than 330 places behind it too small for any but zero. -/
def ofNumeral : Numeral → Binary64
  | .infinity negative => .infinity negative
  | .notANumber => .notANumber
  | .decimal negative digits exponent =>
    let places : Int := (Nat.toDigits 10 digits).length + exponent
    if digits = 0 ∨ places < -330 then .finite negative 0 (-1074)
    else if 310 < places then .infinity negative
    else ofRatio negative (digits * Nat.pow 10 exponent.toNat) (Nat.pow 10 (-exponent).toNat)

/-- The size of a finite number as a quotient of whole numbers. -/
def magnitude (mantissa : Nat) (exponent : Int) : Nat × Nat :=
  (mantissa * Nat.pow 2 exponent.toNat, Nat.pow 2 (-exponent).toNat)

/-- The number is above zero. -/
def isPositive : Binary64 → Bool
  | .finite negative mantissa _ => !negative && mantissa != 0
  | .infinity negative => !negative
  | .notANumber => false

/-- The number is above so many thousandths. -/
def exceeds (x : Binary64) (thousandths : Nat) : Bool :=
  match x with
  | .finite negative mantissa exponent =>
    let (n, d) := magnitude mantissa exponent
    !negative && thousandths * d < 1000 * n
  | .infinity negative => !negative
  | .notANumber => false

/-- The whole number that a finite number without fraction is. -/
def toInt? : Binary64 → Option Int
  | .finite negative mantissa exponent =>
    let (n, d) := magnitude mantissa exponent
    if n % d = 0 then some (if negative then -((n / d : Nat) : Int) else (n / d : Nat)) else none
  | _ => none

/-- The difference of two finite numbers, rounded once. -/
def sub : Binary64 → Binary64 → Binary64
  | .finite s m e, .finite s' m' e' =>
    let (n, d) := magnitude m e
    let (n', d') := magnitude m' e'
    let signed (negative : Bool) (k : Nat) : Int := if negative then -(k : Int) else k
    let difference := signed s (n * d') - signed s' (n' * d)
    ofRatio (difference < 0) difference.natAbs (d * d')
  | _, _ => .notANumber

/-- The double precision number nearest to the multiple of one tenth that is nearest to the given one. -/
def toTenths : Binary64 → Binary64
  | .finite negative mantissa exponent =>
    let (n, d) := magnitude mantissa exponent
    ofRatio negative (nearest (10 * n) d) 10
  | x => x

end Binary64

end FlowLang
