/-! # Binary fractions of 53 bits

A number of the form mantissa · 2^exponent, as a 64-bit float holds it: the mantissa has at most 53 bits
and the exponent is at least -1074. `ofRatio` takes a quotient to the nearest such number, of two equally
near ones to the one whose mantissa is even; products and quotients are the exact ones rounded that way.
The exponent has no upper end here, so that a number too large for 64 bits can be told from the others.
-/
namespace BookTheme.Decimal

structure Binary64 where
  mantissa : Nat
  exponent : Int
deriving DecidableEq, Repr

namespace Binary64

def minExponent : Int := -1074

def fullMantissa : Nat := Nat.pow 2 52

def zero : Binary64 := ⟨0,minExponent⟩

def isFinite (x : Binary64) : Bool := x.exponent ≤ 971

/-- The quotient of two numbers as a natural number: the nearest, or the even one of the two nearest. -/
def roundQuotient (n d : Nat) : Nat :=
  let q := n / d
  let r := n % d
  if d < 2 * r ∨ (d = 2 * r ∧ q % 2 = 1) then q + 1 else q

def inUnits (n d : Nat) (e : Int) : Nat × Nat :=
  (n * Nat.pow 2 (-e).toNat,d * Nat.pow 2 e.toNat)

def ofRatio (n d : Nat) : Binary64 :=
  if n = 0 then zero
  else
    let upper : Int := Nat.log2 n - Nat.log2 d - 52
    let (a,b) := inUnits n d upper
    let e := max minExponent (if a < b * fullMantissa then upper - 1 else upper)
    let (a,b) := inUnits n d e
    let m := roundQuotient a b
    if m = 2 * fullMantissa then ⟨fullMantissa,e + 1⟩ else ⟨m,e⟩

def ofNat (n : Nat) : Binary64 := ofRatio n 1

def mul (x y : Binary64) : Binary64 :=
  let e := x.exponent + y.exponent
  ofRatio (x.mantissa * y.mantissa * Nat.pow 2 e.toNat) (Nat.pow 2 (-e).toNat)

def div (x y : Binary64) : Binary64 :=
  let e := x.exponent - y.exponent
  ofRatio (x.mantissa * Nat.pow 2 e.toNat) (y.mantissa * Nat.pow 2 (-e).toNat)

/-- Divide by 10^k. No power beyond 10^308 is used, so a larger divisor takes several steps. -/
def downBy (x : Binary64) (k : Nat) : Binary64 :=
  if k ≤ 308 then x.div (ofNat (Nat.pow 10 k))
  else if x.mantissa = 0 then x
  else downBy (x.div (ofNat (Nat.pow 10 308))) (k - 308)
termination_by k

/-- The number n · 10^e, from the rounded number n by one product or by quotients; `none` if it is too
large. -/
def ofDecimal? (n : Nat) (e : Int) : Option Binary64 :=
  if e < 0 then some ((ofNat n).downBy (-e).toNat)
  else if n = 0 then some zero
  else if 308 < e then none
  else
    let x := (ofNat n).mul (ofNat (Nat.pow 10 e.toNat))
    if x.isFinite then some x else none

end Binary64
end BookTheme.Decimal
