import ServerResources.Binary64

/-!
# Shortest decimal text

The text of a binary number has as few digits as read back to the same number.
`shortest` tries the grids of one, two, … digits: on each grid the two
neighbours of the number are the only candidates, and the first grid with a
neighbour in the interval of numbers that round to it wins.  How the digits are
laid out on the page is a separate choice, a `Layout`.
-/

namespace ServerResources.Binary64

/-- The decimal `digits * 10 ^ exponent`. -/
structure Decimal where
  digits : Nat
  exponent : Int
  deriving DecidableEq, Repr

/-- The fractions that read back as one number: its value with the bounds of
its rounding interval, all over one denominator. -/
structure RoundingInterval where
  low : Nat
  value : Nat
  high : Nat
  denominator : Nat
  /-- Whether the bounds themselves read back. -/
  closed : Bool

/-- The rounding interval of a positive number.  Just above a power of two the
lower neighbour is only half as far away. -/
def RoundingInterval.of (significand : Nat) (exponent : Int) :
    RoundingInterval :=
  let narrow := significand = significandBound / 2 ∧ minExponent < exponent
  let scale (quarters : Nat) := (unscale 2 quarters 1 (2 - exponent)).1
  { low := scale (if narrow then 4 * significand - 1 else 4 * significand - 2)
    value := scale (4 * significand)
    high := scale (4 * significand + 2)
    denominator := (unscale 2 1 1 (2 - exponent)).2
    closed := significand % 2 = 0 }

/-- Whether a decimal reads back. -/
def RoundingInterval.contains (interval : RoundingInterval)
    (decimal : Decimal) : Bool :=
  let scaled := unscale 10 decimal.digits 1 (-decimal.exponent)
  let candidate := scaled.1 * interval.denominator
  let low := interval.low * scaled.2
  let high := interval.high * scaled.2
  if interval.closed then low ≤ candidate ∧ candidate ≤ high
  else low < candidate ∧ candidate < high

/-- The power of ten of the leading digit. -/
def RoundingInterval.leadingPower (interval : RoundingInterval) : Int :=
  if interval.denominator ≤ interval.value then
    Int.ofNat (decimalLength (interval.value / interval.denominator)) - 1
  else
    -Int.ofNat (decimalLength ((interval.denominator - 1) / interval.value))

/-- The nearest of the decimals with `count` digits that read back, if one
does; a tie goes to the even digit. -/
def RoundingInterval.onGrid? (interval : RoundingInterval) (count : Nat) :
    Option Decimal :=
  let exponent := interval.leadingPower - Int.ofNat count + 1
  let scaled := unscale 10 interval.value interval.denominator exponent
  let below : Decimal := ⟨scaled.1 / scaled.2, exponent⟩
  let above : Decimal := ⟨scaled.1 / scaled.2 + 1, exponent⟩
  match interval.contains below, interval.contains above with
  | true, true => some ⟨roundHalfEven scaled.1 scaled.2, exponent⟩
  | true, false => some below
  | false, true => some above
  | false, false => none

/-- Seventeen digits always suffice. -/
def sufficientDigits : Nat := 17

/-- The decimal with the fewest digits that reads back as a positive number. -/
def shortest (significand : Nat) (exponent : Int) : Decimal :=
  let interval := RoundingInterval.of significand exponent
  ((List.range sufficientDigits).findSome? fun count =>
    interval.onGrid? (count + 1)).getD ⟨0, 0⟩

/-- How digits become text. -/
structure Layout where
  /-- Numbers whose leading power of ten is at least this are positional … -/
  positionalFrom : Int
  /-- … if it also is below this; the others have an exponent. -/
  positionalBelow : Int
  /-- What stands after the digits of an integral positional number. -/
  integralSuffix : String
  /-- Exponents are padded with zeros to this many digits. -/
  exponentWidth : Nat
  /-- The text of an infinity without its sign. -/
  infinity : String

namespace Layout

/-- The text of an exponent: always a sign, then padded digits. -/
def exponentText (layout : Layout) (exponent : Int) : String :=
  let digits := Nat.repr exponent.natAbs
  let padding := String.ofList (List.replicate (layout.exponentWidth - digits.length) '0')
  (if exponent < 0 then "-" else "+") ++ padding ++ digits

/-- Digits with a point after the first `whole` of them, without trailing
zeros. -/
def positional (layout : Layout) (digits : List Char) (whole : Int) : String :=
  if whole ≤ 0 then
    "0." ++ String.ofList (List.replicate whole.natAbs '0' ++ digits)
  else if digits.length ≤ whole.natAbs then
    String.ofList (digits ++ List.replicate (whole.natAbs - digits.length) '0')
      ++ layout.integralSuffix
  else
    String.ofList (digits.take whole.natAbs) ++ "."
      ++ String.ofList (digits.drop whole.natAbs)

/-- Digits with a point after the first, and an exponent. -/
def scientific (layout : Layout) (digits : List Char) (power : Int) : String :=
  let fraction :=
    match digits with
    | [] => ""
    | [digit] => String.singleton digit
    | digit :: rest => String.singleton digit ++ "." ++ String.ofList rest
  fraction ++ "e" ++ layout.exponentText power

/-- The digits of a number without the zeros at the end. -/
def significantDigits (number : Nat) : List Char :=
  ((Nat.toDigits 10 number).reverse.dropWhile (· = '0')).reverse

/-- The text of a positive decimal. -/
def decimalText (layout : Layout) (decimal : Decimal) : String :=
  let power := decimal.exponent + Int.ofNat (decimalLength decimal.digits) - 1
  let digits := significantDigits decimal.digits
  if layout.positionalFrom ≤ power ∧ power < layout.positionalBelow then
    layout.positional digits (power + 1)
  else layout.scientific digits power

/-- The text of a number; the sign of zero is kept. -/
def text (layout : Layout) : Binary64 → String
  | .infinite negative => (if negative then "-" else "") ++ layout.infinity
  | .finite negative significand exponent =>
      (if negative then "-" else "")
        ++ (if significand = 0 then "0" ++ layout.integralSuffix
            else layout.decimalText (shortest significand exponent))

end Layout

end ServerResources.Binary64
