import BookTheme.Text.Blank

/-! # Decimal numerals

A numeral with a limit is an optional sign and at least one ASCII digit. It is read from left to right,
and the first character that is no digit, or that takes the number over its limit, is what is wrong with
it. Leading zeros are read and change nothing. Of numbers with a fraction or an exponent only the form is
looked at.
-/
namespace BookTheme.Decimal

inductive Fault where
  | empty
  | notADigit
  | tooLarge
  | tooSmall
deriving DecidableEq, Repr

def Fault.message : Fault → String
  | .empty => "cannot parse integer from empty string"
  | .notADigit => "invalid digit found in string"
  | .tooLarge => "number too large to fit in target type"
  | .tooSmall => "number too small to fit in target type"

def digit? (c : Char) : Option Nat := if c.isDigit then some (c.toNat - 48) else none

/-- Go on reading digits behind the number `n`; `excess` is reported beyond the limit. -/
def readDigits (limit : Nat) (excess : Fault) (n : Nat) : Text → Except Fault Nat
  | [] => .ok n
  | c :: rest =>
    match digit? c with
    | none => .error .notADigit
    | some d =>
      if n * 10 + d ≤ limit then readDigits limit excess (n * 10 + d) rest else .error excess

def readNat (limit : Nat) : Text → Except Fault Nat
  | [] => .error .empty
  | ['+'] => .error .notADigit
  | '+' :: digits => readDigits limit .tooLarge 0 digits
  | digits => readDigits limit .tooLarge 0 digits

/-- An integer from `-limit - 1` to `limit`. -/
def readInt (limit : Nat) : Text → Except Fault Int
  | ['-'] => .error .notADigit
  | '-' :: digits => (fun n : Nat => -(n : Int)) <$> readDigits (limit + 1) .tooSmall 0 digits
  | s => (fun n : Nat => (n : Int)) <$> readNat limit s

def isExponent : Text → Bool
  | [] => true
  | c :: s =>
    let digits := match s with
      | '+' :: digits | '-' :: digits => digits
      | digits => digits
    (c = 'e' || c = 'E') && !digits.isEmpty && digits.all Char.isDigit

/-- Whether a text is a number without a sign, perhaps with a fraction and an exponent. There are digits
in front of the point or behind it. -/
def isNumber (s : Text) : Bool :=
  let whole := s.takeWhile Char.isDigit
  match s.dropWhile Char.isDigit with
  | '.' :: rest =>
    let fraction := rest.takeWhile Char.isDigit
    !(whole ++ fraction).isEmpty && isExponent (rest.dropWhile Char.isDigit)
  | rest => !whole.isEmpty && isExponent rest

def numeral (n : Nat) : Text := Nat.toDigits 10 n

end BookTheme.Decimal
