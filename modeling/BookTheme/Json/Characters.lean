import BookTheme.Json.Error
import BookTheme.Text.Hexadecimal

/-! # JSON strings

The characters between two quotes. Escapes are resolved as they come, a pair of surrogate escapes to one
character; what they and the plain bytes spell must be UTF-8, which is looked at when the closing quote
is there. `skipString` reads over a string whose text is not wanted: its escapes must be well formed, but
need not stand for characters.

In the patterns 22 is the quote, 5C the backslash and 75 the letter u.
-/
namespace BookTheme.Json

def escape? : UInt8 → Option UInt8
  | 0x22 => some 0x22
  | 0x5C => some 0x5C
  | 0x2F => some 0x2F
  | 0x62 => some 0x08
  | 0x66 => some 0x0C
  | 0x6E => some 0x0A
  | 0x72 => some 0x0D
  | 0x74 => some 0x09
  | _ => none

def hexNumber? (a b c d : UInt8) : Option Nat :=
  Text.hexNumberFrom? 0 ([a, b, c, d].map fun b => Char.ofNat b.toNat)

def isHighSurrogate (n : Nat) : Bool := 0xD800 ≤ n && n ≤ 0xDBFF

def isLowSurrogate (n : Nat) : Bool := 0xDC00 ≤ n && n ≤ 0xDFFF

def surrogatePair (high low : Nat) : Nat := 0x10000 + (high - 0xD800) * 0x400 + (low - 0xDC00)

/-- Put the bytes of a code point on top of those read before. -/
def pushCodePoint (n : Nat) (done : Bytes) : Bytes :=
  (String.utf8EncodeChar (Char.ofNat n)).reverse ++ done

/-- The bytes up to the closing quote, behind those in `done`, which come the latest first. -/
def readUntilQuote (done : Bytes) : Reader Bytes
  | [] => .error .endInString
  | 0x22 :: rest => .ok (done.reverse,rest)
  | [0x5C] => .error .endInString
  | 0x5C :: 0x75 :: a :: b :: c :: d :: rest =>
    match hexNumber? a b c d with
    | none => .error .invalidEscape
    | some n =>
      if isLowSurrogate n then .error .loneSurrogate
      else if isHighSurrogate n then
        match rest with
        | [] => .error .endInString
        | [0x5C] => .error .endInString
        | 0x5C :: 0x75 :: a :: b :: c :: d :: rest =>
          match hexNumber? a b c d with
          | none => .error .invalidEscape
          | some m =>
            if isLowSurrogate m then readUntilQuote (pushCodePoint (surrogatePair n m) done) rest
            else .error .loneSurrogate
        | 0x5C :: 0x75 :: _ => .error .endInString
        | _ => .error .halfSurrogatePair
      else readUntilQuote (pushCodePoint n done) rest
  | 0x5C :: 0x75 :: _ => .error .endInString
  | 0x5C :: e :: rest =>
    match escape? e with
    | some b => readUntilQuote (b :: done) rest
    | none => .error .invalidEscape
  | b :: rest => if b < 0x20 then .error .controlCharacter else readUntilQuote (b :: done) rest

def readString (s : Bytes) : Except Error (Text × Bytes) := do
  let (bytes,rest) ← readUntilQuote [] s
  match Utf8.decode bytes with
  | .ok text => .ok (text,rest)
  | .error _ => .error .notUtf8

def skipString : Bytes → Except Error Bytes
  | [] => .error .endInString
  | 0x22 :: rest => .ok rest
  | [0x5C] => .error .endInString
  | 0x5C :: 0x75 :: a :: b :: c :: d :: rest =>
    if (hexNumber? a b c d).isSome then skipString rest else .error .invalidEscape
  | 0x5C :: 0x75 :: _ => .error .endInString
  | 0x5C :: e :: rest => if (escape? e).isSome then skipString rest else .error .invalidEscape
  | b :: rest => if b < 0x20 then .error .controlCharacter else skipString rest

end BookTheme.Json
