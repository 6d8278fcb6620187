import BookTheme.Text.Hexadecimal

/-! # Items of a pattern

What can be written with a backslash or as a character that stands for itself, and in which modes. In
spaced mode, blanks and comments may stand between the parts of a pattern. Without unicode mode a pattern
is about single bytes, and then nothing in it may fit a byte beyond ASCII, which is only a piece of a
character. With it, nothing may be asked that takes a table of characters to tell: not what is a digit, a
blank or part of a word, and not, in caseless mode, which letters differ only in case.
-/
namespace BookTheme.Log.Pattern

structure Mode where
  spaced : Bool
  unicode : Bool
  caseless : Bool
deriving DecidableEq, Repr

/-- What is left of a text without the blanks and comments in front, of which it may begin in one. -/
def dropSpace (inComment : Bool) : Text → Text
  | [] => []
  | c :: s =>
    if inComment then dropSpace (c ≠ '\n') s
    else if Text.isBlank c then dropSpace false s
    else if c = '#' then dropSpace true s
    else c :: s

theorem length_dropSpace_le (inComment : Bool) (s : Text) :
    (dropSpace inComment s).length ≤ s.length := by
  induction s generalizing inComment with
  | nil => simp [dropSpace]
  | cons c s ih =>
    simp only [dropSpace]
    split
    · exact Nat.le_succ_of_le (ih _)
    · split
      · exact Nat.le_succ_of_le (ih _)
      · split
        · exact Nat.le_succ_of_le (ih _)
        · exact Nat.le_refl _

namespace Mode

def skip (m : Mode) (s : Text) : Text := if m.spaced then dropSpace false s else s

theorem length_skip_le (m : Mode) (s : Text) : (m.skip s).length ≤ s.length := by
  unfold skip
  split
  · exact length_dropSpace_le false s
  · exact Nat.le_refl _

def tellsCharacters (m : Mode) : Bool := !(m.unicode && m.caseless)

def switches : Text := "imsUuRx".toList

/-- Whether a text consists of switches, each of which it names once, with at most one minus sign, which
is not the last. -/
def areSwitches (s : Text) : Bool :=
  s.all (fun c => (c = '-' || c ∈ switches) && s.count c = 1) && s.getLast? ≠ some '-'

def switched (m : Mode) (s : Text) : Mode :=
  let on := s.takeWhile (· ≠ '-')
  let off := s.dropWhile (· ≠ '-')
  let after (letter : Char) (now : Bool) : Bool := letter ∈ on || (now && letter ∉ off)
  ⟨after 'x' m.spaced,after 'u' m.unicode,after 'i' m.caseless⟩

end Mode

inductive Item where
  | char (c : Char)
  | byte (n : Nat)
  /-- The digits, blanks or word characters, or all the others. -/
  | kind (others : Bool)
  | textEnd
  | wordEnd
deriving DecidableEq, Repr

namespace Item

def mayStand (m : Mode) : Item → Bool
  | char _ => m.tellsCharacters
  | byte n => m.tellsCharacters && (m.unicode || n < 0x80)
  | kind others => !m.unicode && !others
  | textEnd => true
  | wordEnd => !m.unicode

def mayStandInSet (m : Mode) : Item → Bool
  | char c => m.tellsCharacters && (m.unicode || c.toNat < 0x80)
  | textEnd => false
  | wordEnd => false
  | item => item.mayStand m

def codePoint? : Item → Option Nat
  | char c => some c.toNat
  | byte n => some n
  | _ => none

end Item

def readHex (m : Mode) (n : Nat) : Nat → Text → Option (Nat × Text)
  | 0, s => some (n,s)
  | digits + 1, s =>
    match m.skip s with
    | [] => none
    | c :: s => (Text.hexDigit? c).bind fun d => readHex m (n * 16 + d) digits s

def readCodePoint (m : Mode) (digits : Nat) (s : Text) : Option (Item × Text) :=
  (readHex m 0 digits s).bind fun (n,s) =>
    if n.isValidChar then some (.char (Char.ofNat n),s) else none

/-- Read what stands behind a backslash. Letters and digits without a meaning of their own are refused. -/
def readEscape (m : Mode) : Text → Option (Item × Text)
  | [] => none
  | c :: s =>
    match c with
    | 'a' => some (.char '\x07',s)
    | 'f' => some (.char '\x0c',s)
    | 't' => some (.char '\t',s)
    | 'n' => some (.char '\n',s)
    | 'r' => some (.char '\r',s)
    | 'v' => some (.char '\x0b',s)
    | 'x' => (readHex m 0 2 s).map fun (n,s) => (.byte n,s)
    | 'u' => readCodePoint m 4 s
    | 'U' => readCodePoint m 8 s
    | 'd' | 's' | 'w' => some (.kind false,s)
    | 'D' | 'S' | 'W' => some (.kind true,s)
    | 'A' | 'z' => some (.textEnd,s)
    | 'b' | 'B' | '<' | '>' => some (.wordEnd,s)
    | c => if c.toNat < 0x80 && !c.isAlphanum then some (.char c,s) else none

end BookTheme.Log.Pattern
