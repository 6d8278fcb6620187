import BookTheme.Text.Unprintable

/-! # Quoted texts

A text between double quotes on one line, for messages. Quote, backslash and the four common controls
have short escapes; every other character without a form of its own is written by its code point, in
lower-case hexadecimal digits between braces.
-/
namespace BookTheme.Text

def escaped (c : Char) : Text :=
  match c with
  | '\x00' => ['\\', '0']
  | '\t' => ['\\', 't']
  | '\n' => ['\\', 'n']
  | '\r' => ['\\', 'r']
  | '"' => ['\\', '"']
  | '\\' => ['\\', '\\']
  | c =>
    if isUnprintable c then
      ['\\', 'u', '\x7b'] ++ Nat.toDigits 16 c.toNat ++ ['\x7d']
    else [c]

def quoted (s : Text) : String := String.ofList ('"' :: s.flatMap escaped ++ ['"'])

end BookTheme.Text
