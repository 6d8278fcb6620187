import BookTheme.Text.Blank

/-! # UTF-8

Texts as bytes and back. The first byte of a sequence fixes its width and which bytes may come second;
the others lie between 80 and BF. Every other arrangement is refused, so overlong forms, surrogates and
values beyond 10FFFF have no reading. What is reported is the longest valid beginning of a sequence at
the first place that has none.
-/
namespace BookTheme

abbrev Bytes := List UInt8

namespace Utf8

inductive Error where
  /-- No sequence begins with the `length` bytes at `index` and the byte after them. -/
  | invalid (index length : Nat)
  | incomplete (index : Nat)
deriving DecidableEq, Repr

def Error.message : Error → String
  | .invalid index length => s!"invalid utf-8 sequence of {length} bytes from index {index}"
  | .incomplete index => s!"incomplete utf-8 byte sequence from index {index}"

def encode (s : Text) : Bytes := s.flatMap String.utf8EncodeChar

/-- How many bytes a sequence with this first byte has; none begins with a byte of width 0. -/
def width (a : UInt8) : Nat :=
  if a < 0x80 then 1
  else if a < 0xC2 then 0
  else if a < 0xE0 then 2
  else if a < 0xF0 then 3
  else if a < 0xF5 then 4
  else 0

def isContinuation (b : UInt8) : Bool := 0x80 ≤ b && b ≤ 0xBF

/-- Whether `b` may come second after `a`. The four exceptions leave out the overlong forms, the
surrogates and what lies beyond the last code point. -/
def mayFollow (a b : UInt8) : Bool :=
  match a with
  | 0xE0 => 0xA0 ≤ b && b ≤ 0xBF
  | 0xED => 0x80 ≤ b && b ≤ 0x9F
  | 0xF0 => 0x90 ≤ b && b ≤ 0xBF
  | 0xF4 => 0x80 ≤ b && b ≤ 0x8F
  | _ => isContinuation b

def codePoint (lead : Nat) (continuations : Bytes) : Nat :=
  continuations.foldl (fun n b => n * 64 + b.toNat % 64) lead

def decodeFrom (index : Nat) : Bytes → Except Error Text
  | [] => .ok []
  | a :: rest =>
    match width a, rest with
    | 1, rest => (Char.ofNat a.toNat :: ·) <$> decodeFrom (index + 1) rest
    | 2, [] => .error (.incomplete index)
    | 2, b :: rest =>
      if mayFollow a b then
        (Char.ofNat (codePoint (a.toNat % 32) [b]) :: ·) <$> decodeFrom (index + 2) rest
      else .error (.invalid index 1)
    | 3, [] => .error (.incomplete index)
    | 3, b :: rest =>
      if mayFollow a b then
        match rest with
        | [] => .error (.incomplete index)
        | c :: rest =>
          if isContinuation c then
            (Char.ofNat (codePoint (a.toNat % 16) [b, c]) :: ·) <$> decodeFrom (index + 3) rest
          else .error (.invalid index 2)
      else .error (.invalid index 1)
    | 4, [] => .error (.incomplete index)
    | 4, b :: rest =>
      if mayFollow a b then
        match rest with
        | [] => .error (.incomplete index)
        | c :: rest =>
          if isContinuation c then
            match rest with
            | [] => .error (.incomplete index)
            | d :: rest =>
              if isContinuation d then
                (Char.ofNat (codePoint (a.toNat % 8) [b, c, d]) :: ·) <$>
                  decodeFrom (index + 4) rest
              else .error (.invalid index 3)
          else .error (.invalid index 2)
      else .error (.invalid index 1)
    | _, _ => .error (.invalid index 1)

def decode (bytes : Bytes) : Except Error Text := decodeFrom 0 bytes

def length (s : Text) : Nat := (encode s).length

/-- A text in two parts, of which the first has the given number of bytes, if that is not an end inside of
a character or beyond the text. -/
def splitAt? : Nat → Text → Option (Text × Text)
  | 0, s => some ([],s)
  | _ + 1, [] => none
  | n + 1, c :: s =>
    if c.utf8Size ≤ n + 1 then (splitAt? (n + 1 - c.utf8Size) s).map fun (t,u) => (c :: t,u) else none

@[simp] theorem encode_cons (c : Char) (s : Text) :
    encode (c :: s) = String.utf8EncodeChar c ++ encode s := by simp [encode]

@[simp] theorem encode_append (s t : Text) : encode (s ++ t) = encode s ++ encode t := by
  simp [encode]

end Utf8
end BookTheme
