/-!
Binary floating point numbers of 64 bits, as exact data.

A finite number is a sign, a mantissa below `2 ^ 53` and a power of two; `ofRatio` rounds a
quotient of natural numbers to the nearest of them, a tie going to the even mantissa. All
arithmetic is on natural numbers, so every number can be computed with inside a proof.
-/
namespace QueryHeaders

/-- A finite number is `mantissa * 2 ^ exponent`, with the sign in front. -/
inductive Binary64 where
  | finite (negative : Bool) (mantissa : Nat) (exponent : Int)
  | infinite (negative : Bool)
  | nan
  deriving DecidableEq, Repr, Inhabited

namespace Binary64

def powerOfTwo (k : Nat) : Nat := Nat.pow 2 k

def powerOfTen (k : Nat) : Nat := Nat.pow 10 k

/-- The least exponent; a mantissa below `2 ^ 52` goes with no other. -/
def minExponent : Int := -1074

def maxExponent : Int := 971

def zero (negative : Bool) : Binary64 := .finite negative 0 minExponent

/-- The quotient rounded to the nearest number, a tie to the even one. -/
def roundQuotient (num den : Nat) : Nat :=
  let q := num / den
  let twice := 2 * (num % den)
  if den < twice ∨ (twice = den ∧ q % 2 = 1) then q + 1 else q

def scaleDown (num den : Nat) (e : Int) : Nat × Nat :=
  (num * powerOfTwo (-e).toNat, den * powerOfTwo e.toNat)

/-- The number nearest to `num / den`. -/
def ofRatio (negative : Bool) (num den : Nat) : Binary64 :=
  if num = 0 then zero negative
  else
    let guess := (Nat.log2 num : Int) - Nat.log2 den - 52
    let (n, d) := scaleDown num den guess
    let normal := if n / d < powerOfTwo 52 then guess - 1 else guess
    let e := max normal minExponent
    let (n, d) := scaleDown num den e
    let m := roundQuotient n d
    let (m, e) := if m = powerOfTwo 53 then (powerOfTwo 52, e + 1) else (m, e)
    if maxExponent < e then .infinite negative else .finite negative m e

def decimalLength (n : Nat) : Nat := (Nat.toDigits 10 n).length

/-- The number nearest to `digits * 10 ^ power`. -/
def ofDecimal (negative : Bool) (digits : Nat) (power : Int) : Binary64 :=
  if digits = 0 then zero negative
  else
    let top := power + decimalLength digits
    if 400 < top then .infinite negative
    else if top < -400 then zero negative
    else ofRatio negative (digits * powerOfTen power.toNat) (powerOfTen (-power).toNat)

def ofNat (negative : Bool) (n : Nat) : Binary64 := ofRatio negative n 1

def neg : Binary64 → Binary64
  | .finite s m e => .finite (!s) m e
  | .infinite s => .infinite (!s)
  | .nan => .nan

/-- The product of two finite numbers, rounded. -/
def mul : Binary64 → Binary64 → Binary64
  | .finite s m e, .finite s' m' e' =>
      ofRatio (s != s') (m * m' * powerOfTwo (e + e').toNat)
        (powerOfTwo (-(e + e')).toNat)
  | _, _ => .nan

/-- The quotient of two finite numbers, rounded; the divisor is not zero. -/
def div : Binary64 → Binary64 → Binary64
  | .finite s m e, .finite s' m' e' =>
      ofRatio (s != s') (m * powerOfTwo (e - e').toNat)
        (m' * powerOfTwo (e' - e).toNat)
  | _, _ => .nan

def isFinite : Binary64 → Bool
  | .finite .. => true
  | _ => false

/-- Whether the number is finite and has no fractional part. -/
def isIntegral : Binary64 → Bool
  | .finite _ m e => m % powerOfTwo (-e).toNat == 0
  | _ => false

/-- The natural number that the number is, if it is one. -/
def toNat? : Binary64 → Option Nat
  | .finite negative m e =>
      if (negative = false ∨ m = 0) ∧ m % powerOfTwo (-e).toNat = 0 then
        some (m * powerOfTwo e.toNat / powerOfTwo (-e).toNat)
      else none
  | _ => none

/-- Equality of the numbers meant: the two zeros are one number, and so are all that are none. -/
def same : Binary64 → Binary64 → Bool
  | .finite s m e, .finite s' m' e' => (m == 0 && m' == 0) || (s == s' && m == m' && e == e')
  | .infinite s, .infinite s' => s == s'
  | .nan, .nan => true
  | _, _ => false

end Binary64

end QueryHeaders
