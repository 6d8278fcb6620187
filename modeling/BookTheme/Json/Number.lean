import BookTheme.Json.Error

/-! # JSON numbers

A number is spelled by an optional minus, digits without a leading zero, and optionally a fraction and an
exponent. Written without those two it is an integer if it fits: up to 2^64 - 1, or from -1 down to -2^63.
Every other number is a float.

Of the digits of a float only those count that keep the number they spell below 2^64: the first of the
others ends it. Digits of the integer part that do not count still multiply by ten.
-/
namespace BookTheme.Json

inductive Number where
  | integer (value : Int)
  | float (negative : Bool) (size : Decimal.Binary64)
deriving DecidableEq

structure Spelling where
  negative : Bool
  whole : List Nat
  fraction : List Nat
  exponent : Int
  /-- Whether there is a fraction or an exponent. -/
  scaled : Bool
deriving DecidableEq

def isDigit (b : UInt8) : Bool := 0x30 ≤ b && b ≤ 0x39

def readDigits (atEnd : Error) : Reader (List Nat)
  | [] => .error atEnd
  | b :: rest =>
    if isDigit b then
      .ok (((b :: rest).takeWhile isDigit).map (·.toNat - 0x30),(b :: rest).dropWhile isDigit)
    else .error .invalidNumber

def ofDigits (digits : List Nat) : Nat := digits.foldl (fun n d => n * 10 + d) 0

def readFraction (atEnd : Error) : Reader (Option (List Nat))
  | 0x2E :: rest => do
    let (digits,rest) ← readDigits atEnd rest
    return (some digits,rest)
  | s => .ok (none,s)

def readSign : Bytes → Bool × Bytes
  | 0x2D :: rest => (true,rest)
  | 0x2B :: rest => (false,rest)
  | rest => (false,rest)

def readExponent (atEnd : Error) : Reader (Option Int)
  | [] => .ok (none,[])
  | b :: rest =>
    if b = 0x65 || b = 0x45 then do
      let (negative,rest) := readSign rest
      let (digits,rest) ← readDigits atEnd rest
      return (some (if negative then -(ofDigits digits : Int) else ofDigits digits),rest)
    else .ok (none,b :: rest)

def readSpelling (atEnd : Error) (s : Bytes) : Except Error (Spelling × Bytes) := do
  let (negative,s) := match s with
    | 0x2D :: rest => (true,rest)
    | s => (false,s)
  let (whole,s) ← readDigits atEnd s
  if whole.head? = some 0 && 1 < whole.length then .error .invalidNumber
  else do
    let (fraction,s) ← readFraction atEnd s
    let (exponent,s) ← readExponent atEnd s
    return (⟨negative,whole,fraction.getD [],exponent.getD 0,
      fraction.isSome || exponent.isSome⟩,s)

/-- Go on with the digits that keep the number below 2^64; the others are left. -/
def absorb (n : Nat) : List Nat → Nat × List Nat
  | [] => (n,[])
  | d :: rest => if n * 10 + d < UInt64.size then absorb (n * 10 + d) rest else (n,d :: rest)

/-- The number that is spelled; `none` if it is too large for a float. -/
def Spelling.value? (p : Spelling) : Option Number :=
  let (n,dropped) := absorb 0 p.whole
  if dropped.isEmpty && !p.scaled then
    if !p.negative then some (.integer n)
    else if n = 0 || UInt64.size / 2 < n then some (.float true (.ofNat n))
    else some (.integer (-n))
  else
    let (n,unused) := absorb n p.fraction
    let places : Int := p.fraction.length - unused.length
    (Decimal.Binary64.ofDecimal? n (dropped.length - places + p.exponent)).map (.float p.negative)

def readNumber (s : Bytes) : Except Error (Number × Bytes) := do
  let (spelling,rest) ← readSpelling .endInValue s
  match spelling.value? with
  | some n => .ok (n,rest)
  | none => .error .numberOutOfRange

end BookTheme.Json
