import QueryHeaders.Decimal.Shortest

/-!
Numerals: the text of a floating point number.

A numeral has the fewest digits that read back as the number. It is positional when its first digit
stands between the fifth decimal place and the sixteenth place before the point, with `.0` after a
whole number; outside these bounds it has an exponent. How the exponent is spelled is a
`NumeralStyle`.
-/
namespace QueryHeaders

/-- How an exponent is written. -/
structure NumeralStyle where
  /-- Whether a sign stands before an exponent that is not negative. -/
  plus : Bool
  /-- The least number of digits of an exponent. -/
  width : Nat

namespace Binary64

def minPositional : Int := -5

def maxPositional : Int := 15

def zeros (n : Nat) : List Char := List.replicate n '0'

def exponentChars (style : NumeralStyle) (x : Int) : List Char :=
  let digits := Nat.toDigits 10 x.natAbs
  let sign := if x < 0 then ['-'] else if style.plus then ['+'] else []
  sign ++ zeros (style.width - digits.length) ++ digits

/-- The numeral of digits of which the first stands at the place of `10 ^ x`. -/
def placeDigits (style : NumeralStyle) (digits : List Char) (x : Int) : List Char :=
  if x < minPositional ∨ maxPositional < x then
    let fraction := if digits.length ≤ 1 then [] else '.' :: digits.drop 1
    digits.take 1 ++ fraction ++ 'e' :: exponentChars style x
  else if x < 0 then
    '0' :: '.' :: zeros (-x - 1).toNat ++ digits
  else
    let whole := x.toNat + 1
    if digits.length ≤ whole then digits ++ zeros (whole - digits.length) ++ ['.', '0']
    else digits.take whole ++ '.' :: digits.drop whole

def finiteChars (style : NumeralStyle) (negative : Bool) (m : Nat) (e : Int) : List Char :=
  let sign := if negative then ['-'] else []
  if m = 0 then sign ++ ['0', '.', '0']
  else
    let d := shortest m e
    let digits := Nat.toDigits 10 d.digits
    sign ++ placeDigits style digits (d.power + digits.length - 1)

end Binary64

end QueryHeaders
