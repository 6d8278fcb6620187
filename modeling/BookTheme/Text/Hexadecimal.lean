import BookTheme.Text.Blank

/-! # Hexadecimal digits

The ten digits and the first six letters, small or capital.
-/
namespace BookTheme.Text

def hexDigit? (c : Char) : Option Nat :=
  if c.isDigit then some (c.toNat - 0x30)
  else if 'A' ≤ c ∧ c ≤ 'F' then some (c.toNat - 0x37)
  else if 'a' ≤ c ∧ c ≤ 'f' then some (c.toNat - 0x57)
  else none

/-- The number that digits spell behind those of the number `n`. -/
def hexNumberFrom? (n : Nat) : Text → Option Nat
  | [] => some n
  | c :: s => (hexDigit? c).bind fun d => hexNumberFrom? (n * 16 + d) s

end BookTheme.Text
