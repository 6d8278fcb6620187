import BookTheme.Log.Pattern.Item

/-! # Sets of characters

The sets of a pattern stand between brackets, and they may lie in each other. In a set stand characters,
ranges, named classes and other sets, and operators with such items on both sides. What is left of a set
while it is open is only how deep its items lie. A set of all the other characters, or a class of them,
has characters beyond ASCII, so it needs unicode mode.
-/
namespace BookTheme.Log.Pattern

/-- How deep parts lie that stand side by side, when each lies as deep as is given. If there is more than
one, they lie in a row, which is a level of its own. -/
def rowDepth : List Nat → Nat
  | [] => 0
  | [depth] => depth
  | depths => depths.foldl max 0 + 1

structure OpenSet where
  /-- How deep what stands in front of the last operator lies, if there is one. -/
  left : Option Nat
  items : List Nat

namespace OpenSet

def add (o : OpenSet) (depth : Nat) : OpenSet := { o with items := depth :: o.items }

def depth (o : OpenSet) : Nat :=
  match o.left with
  | none => rowDepth o.items
  | some left => max left (rowDepth o.items) + 1

def operate (o : OpenSet) : OpenSet := ⟨some o.depth,[]⟩

def readDashes (m : Mode) : Text → Nat × Text
  | '-' :: s =>
    let (n,rest) := readDashes m (m.skip s)
    (n + 1,rest)
  | s => (0,s)
termination_by s => s.length
decreasing_by exact Nat.lt_succ_of_le (m.length_skip_le s)

/-- Read the head of a set behind its bracket. Minus signs there, or else a closing bracket, stand for
themselves. -/
def read (m : Mode) (s : Text) : Option (OpenSet × Text) :=
  let s := m.skip s
  let negated : Bool := s.head? = some '^'
  let (dashes,rest) := readDashes m (if negated then m.skip s.tail else s)
  let (marks,rest) := match dashes, rest with
    | 0, ']' :: rest => (1,rest)
    | dashes, rest => (dashes,rest)
  if (negated && !m.unicode) || (0 < marks && !m.tellsCharacters) then none
  else some (⟨none,List.replicate marks 0⟩,rest)

end OpenSet

def classNames : List String :=
  ["alnum", "alpha", "ascii", "blank", "cntrl", "digit", "graph", "lower", "print", "punct", "space",
    "upper", "word", "xdigit"]

def readClass : Text → Option (Bool × Text)
  | ':' :: s =>
    let others := s.head? = some '^'
    let s := if others then s.tail else s
    match s.dropWhile (· ≠ ':') with
    | ':' :: ']' :: rest =>
      if String.ofList (s.takeWhile (· ≠ ':')) ∈ classNames then some (others,rest) else none
    | _ => none
  | _ => none

def classMayStand (m : Mode) (others : Bool) : Bool := m.tellsCharacters && (m.unicode || !others)

def readSetItem (m : Mode) : Text → Option (Item × Text)
  | [] => none
  | '\\' :: s => readEscape m s
  | c :: s => some (.char c,s)

/-- The first character behind a minus sign; in spaced mode the first that is no blank, also behind one
number sign, although a comment begins with it. -/
def behindDash? (m : Mode) (s : Text) : Option Char :=
  if m.spaced then
    match s.dropWhile Text.isBlank with
    | '#' :: comment => (comment.dropWhile Text.isBlank).head?
    | s => s.head?
  else s.head?

/-- Read an item of a set, or two with a minus sign between them, which are the ends of a range. -/
def readRange (m : Mode) (s : Text) : Option Text := do
  let (first,rest) ← readSetItem m s
  guard (first.mayStandInSet m)
  match m.skip rest with
  | '-' :: rest =>
    if behindDash? m rest = some ']' || behindDash? m rest = some '-' then return '-' :: rest
    let (last,rest) ← readSetItem m (m.skip rest)
    guard (last.mayStandInSet m)
    guard ((← first.codePoint?) ≤ (← last.codePoint?))
    return rest
  | rest => return rest

end BookTheme.Log.Pattern
