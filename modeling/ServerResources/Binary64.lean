/-!
# Binary floating-point numbers

A number of the 64-bit binary format is a sign, a significand and a power of
two.  The module reads decimal numerals into that format by exact integer
arithmetic: the nearest number wins, and a tie goes to the even significand.
-/

namespace ServerResources

/-- A number of the 64-bit binary format: `significand * 2 ^ exponent` with a
sign, where zero has a sign too, or an infinity. -/
inductive Binary64 where
  | finite (negative : Bool) (significand : Nat) (exponent : Int)
  | infinite (negative : Bool)
  deriving DecidableEq, Repr

namespace Binary64

/-- The least exponent of the format. -/
def minExponent : Int := -1074

/-- The greatest exponent of the format. -/
def maxExponent : Int := 971

/-- Significands have 53 bits, so they lie below this bound. -/
def significandBound : Nat := 9007199254740992

/-- The integer nearest to a fraction; a tie goes to the even one. -/
def roundHalfEven (numerator denominator : Nat) : Nat :=
  let quotient := numerator / denominator
  let remainder := numerator % denominator
  if 2 * remainder < denominator then quotient
  else if denominator < 2 * remainder then quotient + 1
  else quotient + quotient % 2

/-- Numerator and denominator of `numerator / denominator / base ^ exponent`. -/
def unscale (base numerator denominator : Nat) (exponent : Int) : Nat × Nat :=
  match exponent with
  | .ofNat power => (numerator, denominator * Nat.pow base power)
  | .negSucc power => (numerator * Nat.pow base (power + 1), denominator)

/-- The exponent at which a positive fraction has a significand of full
width. -/
def fullWidthExponent (numerator denominator : Nat) : Int :=
  let estimate : Int := Int.ofNat numerator.log2 - Int.ofNat denominator.log2 - 53
  let scaled := unscale 2 numerator denominator estimate
  if scaled.1 < scaled.2 * significandBound then estimate else estimate + 1

/-- The number nearest to a fraction. -/
def nearest (negative : Bool) (numerator denominator : Nat) : Binary64 :=
  if numerator = 0 then .finite negative 0 minExponent
  else
    let exponent := max minExponent (fullWidthExponent numerator denominator)
    let scaled := unscale 2 numerator denominator exponent
    let significand := roundHalfEven scaled.1 scaled.2
    let carries := significand = significandBound
    let exponent := if carries then exponent + 1 else exponent
    let significand := if carries then significandBound / 2 else significand
    if maxExponent < exponent then .infinite negative
    else .finite negative significand exponent

/-- How many decimal digits a number has. -/
def decimalLength (number : Nat) : Nat :=
  (Nat.toDigits 10 number).length

/-- The number nearest to `digits * 10 ^ exponent`.  Numerals far beyond the
format's range are settled by their magnitude alone. -/
def ofDecimal (negative : Bool) (digits : Nat) (exponent : Int) : Binary64 :=
  let magnitude := exponent + Int.ofNat (decimalLength digits)
  if digits = 0 then .finite negative 0 minExponent
  else if magnitude < -400 then .finite negative 0 minExponent
  else if 400 < magnitude then .infinite negative
  else
    let scaled := unscale 10 digits 1 (-exponent)
    nearest negative scaled.1 scaled.2

/-- The integer that a number is equal to, if it is one. -/
def toInt? : Binary64 → Option Int
  | .infinite _ => none
  | .finite negative significand exponent =>
      let scaled := unscale 2 significand 1 (-exponent)
      if scaled.1 % scaled.2 = 0 then
        let magnitude := Int.ofNat (scaled.1 / scaled.2)
        some (if negative then -magnitude else magnitude)
      else none

end Binary64

end ServerResources
