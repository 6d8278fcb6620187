import BookTheme.Text.Blank
import BookTheme.Decimal.Binary64

/-! # Shortest decimal form of a binary fraction

The fewest significant digits that read back: on the grids of 1, 2, … 17 significant digits, the first
that has a point among the numbers that round to the given one, and of two such points the nearer, or the
even one if both are equally near. The numbers that round to it reach half way to its neighbours, the
ends included if the mantissa is even.

`render` writes those digits with a point where the first digit stands at 10^-5 to 10^15, and with an
exponent that always has a sign elsewhere.
-/
namespace BookTheme.Decimal

structure Digits where
  digits : Nat
  exponent : Int
deriving DecidableEq, Repr

namespace Binary64

/-- The number and the ends of the interval that rounds to it, over one denominator. -/
structure Interval where
  low : Nat
  value : Nat
  high : Nat
  denominator : Nat
  closed : Bool

def interval (x : Binary64) : Interval :=
  let unit := Nat.pow 2 (x.exponent - 2).toNat
  let below := if x.mantissa = fullMantissa ∧ minExponent < x.exponent then 1 else 2
  { low := (4 * x.mantissa - below) * unit
    value := 4 * x.mantissa * unit
    high := (4 * x.mantissa + 2) * unit
    denominator := Nat.pow 2 (2 - x.exponent).toNat
    closed := x.mantissa % 2 = 0 }

def firstPlace (n d : Nat) : Int :=
  if d ≤ n then (Nat.toDigits 10 (n / d)).length - 1
  else -(Nat.toDigits 10 ((d - 1) / n)).length

/-- The nearer of the two points of the grid of 10^place around the number that lie in its interval. -/
def nearestOnGrid? (i : Interval) (place : Int) : Option Nat :=
  let up := Nat.pow 10 (-place).toNat
  let unit := i.denominator * Nat.pow 10 place.toNat
  let inside (k : Nat) : Bool :=
    if i.closed then i.low * up ≤ k * unit && k * unit ≤ i.high * up
    else i.low * up < k * unit && k * unit < i.high * up
  let k := i.value * up / unit
  let nearer := compare (2 * i.value * up) ((2 * k + 1) * unit)
  if inside k && (!inside (k + 1) || nearer = .lt || (nearer = .eq && k % 2 = 0)) then some k
  else if inside (k + 1) then some (k + 1)
  else none

def shortest (x : Binary64) : Digits :=
  let i := x.interval
  let first := firstPlace i.value i.denominator
  let found := (List.range 17).findSome? fun n : Nat =>
    (nearestOnGrid? i (first - n)).map fun k => (⟨k,first - n⟩ : Digits)
  found.getD ⟨0,0⟩

def render (x : Binary64) : Text :=
  if x.mantissa = 0 then "0.0".toList
  else
    let s := x.shortest
    let all := Nat.toDigits 10 s.digits
    let digits := (all.reverse.dropWhile (· = '0')).reverse
    let first : Int := s.exponent + all.length - 1
    if 0 ≤ first ∧ first ≤ 15 then
      let whole := first.toNat + 1
      let fraction := digits.drop whole
      digits.take whole ++ List.replicate (whole - digits.length) '0' ++ '.' ::
        (if fraction.isEmpty then ['0'] else fraction)
    else if -5 ≤ first ∧ first < 0 then
      '0' :: '.' :: List.replicate ((-first).toNat - 1) '0' ++ digits
    else
      digits.take 1 ++ (if digits.length ≤ 1 then [] else '.' :: digits.drop 1) ++
        'e' :: (if first < 0 then '-' else '+') :: Nat.toDigits 10 first.natAbs

end Binary64
end BookTheme.Decimal
