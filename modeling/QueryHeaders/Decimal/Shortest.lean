import QueryHeaders.Decimal.Binary64

/-!
The shortest decimal that reads back as a given number.

The reals that round to `m * 2 ^ e` form an interval around it, whose ends belong to it when `m` is
even. Among the grids of multiples of `10 ^ p` the coarsest one that has a point in the interval
gives the fewest digits; a grid can have such a point only if one of the two neighbours of the
number itself is one, so these two are all that is tried, and of two that fit the nearer is taken.
-/
namespace QueryHeaders.Binary64

/-- The number `digits * 10 ^ power`. -/
structure Decimal where
  digits : Nat
  power : Int
  deriving DecidableEq, Repr

/-- The point of the grid of `10 ^ p` that stands for `m * 2 ^ e`, if one rounds to it.

Lengths are counted in quarters of the unit `2 ^ e`: the ends of the interval are two quarters
away, or one below a mantissa at which the exponent changes. -/
def gridPoint? (m : Nat) (e : Int) (p : Int) : Option Nat :=
  let unit := powerOfTwo (e - 2).toNat * powerOfTen (-p).toNat
  let step := powerOfTwo (2 - e).toNat * powerOfTen p.toNat
  let below := if m = powerOfTwo 52 ∧ minExponent < e then 1 else 2
  let low := (4 * m - below) * unit
  let high := (4 * m + 2) * unit
  let fits (c : Nat) : Bool :=
    if m % 2 = 0 then low ≤ c * step && c * step ≤ high
    else low < c * step && c * step < high
  let value := 4 * m * unit
  let c := value / step
  let twice := 2 * (value % step)
  match fits c, fits (c + 1) with
  | true, true =>
      if step < twice ∨ (twice = step ∧ c % 2 = 1) then some (c + 1) else some c
  | true, false => some c
  | false, true => some (c + 1)
  | false, false => none

/-- Tries `count` grids, from `10 ^ p` to finer ones. -/
def searchGrids (m : Nat) (e : Int) : Nat → Int → Decimal
  | 0, p => ⟨0, p⟩
  | count + 1, p =>
      match gridPoint? m e p with
      | some c => ⟨c, p⟩
      | none => searchGrids m e count (p - 1)

/-- The shortest decimal of a mantissa that is not zero. -/
def shortest (m : Nat) (e : Int) : Decimal :=
  let top := ((Nat.log2 m : Int) + e) * 30103 / 100000 + 2
  searchGrids m e 24 top

end QueryHeaders.Binary64
