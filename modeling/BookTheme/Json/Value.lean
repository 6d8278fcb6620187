import BookTheme.Json.Characters
import BookTheme.Json.Number

/-! # JSON values

The readers for the values that a document may hold: texts, and natural numbers up to a limit. Where a
value has another type, the value that is there is read first, with its own errors, and then refused.
`skipValue` reads over a value of any type; it looks at the form only, so numbers of any size will do.

In the patterns 22 is a quote, 2C a comma, 3A a colon, 5B and 5D are brackets, 7B and 7D braces.
-/
namespace BookTheme.Json

def readWord : List UInt8 → Bytes → Except Error Bytes
  | [], s => .ok s
  | _ :: _, [] => .error .endInValue
  | a :: word, b :: rest => if a = b then readWord word rest else .error .expectedWord

def ull : List UInt8 := [0x75, 0x6C, 0x6C]

def rue : List UInt8 := [0x72, 0x75, 0x65]

def alse : List UInt8 := [0x61, 0x6C, 0x73, 0x65]

def startsNumber (b : UInt8) : Bool := b = 0x2D || isDigit b

def Number.found : Number → Found
  | integer n => .integer n
  | float negative size => .float negative size

def look : Bytes → Except Error Found
  | 0x6E :: rest => (fun _ => .null) <$> readWord ull rest
  | 0x74 :: rest => (fun _ => .boolean true) <$> readWord rue rest
  | 0x66 :: rest => (fun _ => .boolean false) <$> readWord alse rest
  | 0x22 :: rest => (fun (text,_) => .text text) <$> readString rest
  | 0x5B :: _ => .ok .list
  | 0x7B :: _ => .ok .object
  | b :: rest =>
    if startsNumber b then (fun (number,_) => number.found) <$> readNumber (b :: rest)
    else .error .expectedValue
  | [] => .error .endInValue

def refuse (expected : String) (s : Bytes) : Error :=
  match look s with
  | .ok found => .wrongType found expected
  | .error e => e

def readText (s : Bytes) : Except Error (Text × Bytes) :=
  match dropSpace s with
  | 0x22 :: rest => readString rest
  | s => .error (refuse "a string" s)

/-- A natural number up to the limit, which `expected` names. -/
def readNat (limit : Nat) (expected : String) (s : Bytes) : Except Error (Nat × Bytes) :=
  match dropSpace s with
  | [] => .error .endInValue
  | b :: rest =>
    if startsNumber b then do
      match ← readNumber (b :: rest) with
      | (.integer n,rest) =>
        if 0 ≤ n ∧ n ≤ limit then .ok (n.toNat,rest) else .error (.outOfRange n expected)
      | (number,_) => .error (.wrongType number.found expected)
    else .error (refuse expected (b :: rest))

mutual

def skipWith : Nat → Bytes → Except Error Bytes
  | 0, _ => .error .endInValue
  | fuel + 1, s =>
    match dropSpace s with
    | 0x6E :: rest => readWord ull rest
    | 0x74 :: rest => readWord rue rest
    | 0x66 :: rest => readWord alse rest
    | 0x22 :: rest => skipString rest
    | 0x5B :: rest =>
      match dropSpace rest with
      | [] => .error .endInList
      | 0x5D :: rest => .ok rest
      | rest => skipElements fuel rest
    | 0x7B :: rest =>
      match dropSpace rest with
      | [] => .error .endInObject
      | 0x7D :: rest => .ok rest
      | rest => skipMembers fuel rest
    | b :: rest =>
      if startsNumber b then (·.2) <$> readSpelling .invalidNumber (b :: rest)
      else .error .expectedValue
    | [] => .error .endInValue

def skipElements : Nat → Bytes → Except Error Bytes
  | 0, _ => .error .endInValue
  | fuel + 1, s => do
    match dropSpace (← skipWith fuel s) with
    | 0x2C :: rest => skipElements fuel rest
    | 0x5D :: rest => .ok rest
    | _ :: _ => .error .expectedCommaInList
    | [] => .error .endInList

def skipMembers : Nat → Bytes → Except Error Bytes
  | 0, _ => .error .endInValue
  | fuel + 1, s =>
    match dropSpace s with
    | 0x22 :: rest => do
      match dropSpace (← skipString rest) with
      | 0x3A :: rest =>
        match dropSpace (← skipWith fuel rest) with
        | 0x2C :: rest => skipMembers fuel rest
        | 0x7D :: rest => .ok rest
        | _ :: _ => .error .expectedCommaInObject
        | [] => .error .endInObject
      | _ :: _ => .error .expectedColon
      | [] => .error .endInObject
    | _ :: _ => .error .keyNotString
    | [] => .error .endInObject

end

/-- Read over a value. A list or object begins and ends with a byte of its own, and so do its parts, so
twice the length of the input is enough for the depth of the recursion. -/
def skipValue (s : Bytes) : Except Error Bytes := skipWith (2 * s.length + 2) s

end BookTheme.Json
