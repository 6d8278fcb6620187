import BookTheme.Bytes.Utf8

/-! # Base64

Bytes as symbols of the standard alphabet, six bits each, filled up with `=` to a multiple of four.
Only the form that `encode` writes is read: the filling must be there and unused bits must be zero.

The *tail* is the last group of one to four bytes, and only there may `=` stand. What is reported is, in
this order: a stray single byte at the end, a byte outside the alphabet before the tail, a byte that
may not stand where it does in the tail, a tail of too few symbols, missing filling, unused bits.
-/
namespace BookTheme.Base64

inductive Error where
  | invalidByte (index : Nat) (byte : UInt8)
  | invalidLength (length : Nat)
  | invalidPadding
  | invalidLastSymbol (index : Nat) (byte : UInt8)
deriving DecidableEq, Repr

def Error.message : Error → String
  | .invalidByte index byte => s!"Invalid symbol {byte.toNat}, offset {index}."
  | .invalidLength length => s!"Invalid input length: {length}"
  | .invalidPadding => "Invalid padding"
  | .invalidLastSymbol index byte => s!"Invalid last symbol {byte.toNat}, offset {index}."

def pad : UInt8 := 61

def symbol (n : Nat) : UInt8 :=
  if n < 26 then .ofNat (n + 65)
  else if n < 52 then .ofNat (n + 71)
  else if n < 62 then .ofNat (n - 4)
  else if n = 62 then 43
  else 47

def value? (b : UInt8) : Option Nat :=
  let n := b.toNat
  if 65 ≤ n ∧ n ≤ 90 then some (n - 65)
  else if 97 ≤ n ∧ n ≤ 122 then some (n - 71)
  else if 48 ≤ n ∧ n ≤ 57 then some (n + 4)
  else if n = 43 then some 62
  else if n = 47 then some 63
  else none

def encode : Bytes → Bytes
  | [] => []
  | [a] => [symbol (a.toNat / 4), symbol (a.toNat % 4 * 16), pad, pad]
  | [a, b] =>
    [symbol (a.toNat / 4), symbol (a.toNat % 4 * 16 + b.toNat / 16), symbol (b.toNat % 16 * 4), pad]
  | a :: b :: c :: rest =>
    symbol (a.toNat / 4) :: symbol (a.toNat % 4 * 16 + b.toNat / 16) ::
      symbol (b.toNat % 16 * 4 + c.toNat / 64) :: symbol (c.toNat % 64) :: encode rest

/-- The values of symbols, the first of which stands at `index`. -/
def valuesFrom (index : Nat) : Bytes → Except Error (List Nat)
  | [] => .ok []
  | b :: rest =>
    match value? b with
    | none => .error (.invalidByte index b)
    | some n => (n :: ·) <$> valuesFrom (index + 1) rest

def bytesOf : List Nat → Bytes
  | a :: b :: c :: d :: rest =>
    .ofNat (a * 4 + b / 16) :: .ofNat (b % 16 * 16 + c / 4) :: .ofNat (c % 4 * 64 + d) ::
      bytesOf rest
  | [a, b, c] => [.ofNat (a * 4 + b / 16), .ofNat (b % 16 * 16 + c / 4)]
  | [a, b] => [.ofNat (a * 4 + b / 16)]
  | _ => []

/-- The bits of the last of `count` values that belong to no byte. -/
def unusedBits (count last : Nat) : Nat :=
  if count = 2 then last % 16 else if count = 3 then last % 4 else 0

def tailValues (start : Nat) (tail : Bytes) : Except Error (List Nat) := do
  let symbols := tail.takeWhile (· ≠ pad)
  let filling := tail.dropWhile (· ≠ pad)
  let values ← valuesFrom start symbols
  let count := symbols.length
  if !filling.isEmpty && (count < 2 || filling.any (· ≠ pad)) then
    .error (.invalidByte (start + count) pad)
  else if !tail.isEmpty && count < 2 then .error (.invalidLength (start + count))
  else if !tail.isEmpty && count + filling.length ≠ 4 then .error .invalidPadding
  else if unusedBits count (values.getLastD 0) ≠ 0 then
    .error (.invalidLastSymbol (start + count - 1) (symbols.getLastD 0))
  else .ok values

/-- A byte that is alone in its group and could stand in none. -/
def strayLast? (bytes : Bytes) : Option UInt8 :=
  if bytes.length % 4 = 1 then
    bytes.getLast?.filter fun b => b ≠ pad && (value? b).isNone
  else none

def decode (bytes : Bytes) : Except Error Bytes :=
  match strayLast? bytes with
  | some b => .error (.invalidByte (bytes.length - 1) b)
  | none => do
    let start := (bytes.length - 1) / 4 * 4
    let values ← valuesFrom 0 (bytes.take start)
    return bytesOf (values ++ (← tailValues start (bytes.drop start)))

end BookTheme.Base64
