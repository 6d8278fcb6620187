import BookTheme.Decimal.Numeral
import BookTheme.Log.Pattern.Set
import BookTheme.Text.Letters

/-! # Patterns

What a filter may ask of a value: that it is some number, or that it fits a pattern, which is a regular
expression. Here it only counts whether a pattern is well formed.

A pattern is read from left to right, one part at a time, while the reader keeps the groups and the sets
that are open; at the end none may be. Letters at the head of a group change how it is read, until the
group ends. A pattern that is nested too deeply is refused: a repetition, a group, a set, an operator in a
set, parts that stand in a row and rows between bars are each a level above what they hold.

No pattern has a closing brace, since that ends it in a filter. So an opening brace outside sets, with
which a count or a name begins, is an error.
-/
namespace BookTheme.Log.Pattern

def maxDepth : Nat := 250

structure OpenGroup where
  mode : Mode
  /-- How deep the parts behind the last bar lie, the last part first. Switches are parts that have no
  depth and cannot be repeated. -/
  row : List (Option Nat)
  /-- How deep the rows in front of that bar lie. -/
  rows : List Nat

namespace OpenGroup

def ofMode (mode : Mode) : OpenGroup := ⟨mode,[],[]⟩

def add (g : OpenGroup) (part : Option Nat) : OpenGroup := { g with row := part :: g.row }

def repeated (g : OpenGroup) : Option OpenGroup :=
  match g.row with
  | some depth :: row => some { g with row := some (depth + 1) :: row }
  | _ => none

def allRows (g : OpenGroup) : List Nat := rowDepth (g.row.map (·.getD 0)) :: g.rows

def nextRow (g : OpenGroup) : OpenGroup := { g with row := [], rows := g.allRows }

def depth (g : OpenGroup) : Nat := rowDepth g.allRows

end OpenGroup

structure Reader where
  group : OpenGroup
  outer : List OpenGroup
  sets : List OpenSet
  names : List Text

def isName : Text → Bool
  | [] => false
  | c :: s =>
    (c = '_' || Text.isLetter c) && s.all fun c =>
      c = '_' || c = '.' || c = '[' || c = ']' || Text.isLetterOrNumeral c

namespace Reader

def start : Reader := ⟨.ofMode ⟨false,true,false⟩,[],[],[]⟩

def mode (q : Reader) : Mode := q.group.mode

def add (q : Reader) (part : Option Nat) : Reader := { q with group := q.group.add part }

def inGroup (q : Reader) (m : Mode) : Reader :=
  { q with group := .ofMode m, outer := q.group :: q.outer }

def readNamed (q : Reader) (s : Text) : Option (Reader × Text) :=
  let name := s.takeWhile (· ≠ '>')
  match s.dropWhile (· ≠ '>') with
  | '>' :: rest =>
    if isName name && name ∉ q.names then
      some ({ q.inGroup q.mode with names := name :: q.names },rest)
    else none
  | _ => none

/-- Read switches and the sign behind them: a colon if they belong to a new group, a closing parenthesis
if they are for the rest of the group that is open. -/
def readSwitches (q : Reader) (s : Text) : Option (Reader × Text) :=
  let isEnd (c : Char) : Bool := c = ':' || c = ')'
  let switches := s.takeWhile (!isEnd ·)
  let mode := q.mode.switched switches
  if !Mode.areSwitches switches then none
  else match s.dropWhile (!isEnd ·) with
    | ':' :: rest => some (q.inGroup mode,rest)
    | ')' :: rest =>
      if switches.isEmpty then none
      else some ({ q with group := { q.group.add none with mode } },rest)
    | _ => none

def readGroup (q : Reader) (s : Text) : Option (Reader × Text) :=
  match q.mode.skip s with
  | '?' :: 'P' :: '<' :: rest | '?' :: '<' :: rest => q.readNamed rest
  | '?' :: rest => q.readSwitches rest
  | rest => some (q.inGroup q.mode,rest)

/-- Read the part that begins with a character, outside of sets. A question mark behind a sign of
repetition belongs to it. -/
def readPart (q : Reader) (c : Char) (rest : Text) : Option (Reader × Text) :=
  match c with
  | '(' => q.readGroup rest
  | ')' =>
    match q.outer with
    | [] => none
    | group :: outer => some ({ q with group := group.add (some (q.group.depth + 1)), outer },rest)
  | '|' => some ({ q with group := q.group.nextRow },rest)
  | '[' => (OpenSet.read q.mode rest).map fun (set,rest) => ({ q with sets := [set] },rest)
  | '*' | '+' | '?' =>
    q.group.repeated.map fun group =>
      ({ q with group },if rest.head? = some '?' then rest.tail else rest)
  | '\x7b' => none
  | '.' => if q.mode.unicode then some (q.add (some 0),rest) else none
  | '^' | '$' => some (q.add (some 0),rest)
  | '\\' =>
    (readEscape q.mode rest).bind fun (item,rest) =>
      if item.mayStand q.mode then some (q.add (some 0),rest) else none
  | c => if (Item.char c).mayStand q.mode then some (q.add (some 0),rest) else none

/-- Close the innermost set, which lies in the given ones and has the given depth. -/
def closeSet (q : Reader) (depth : Nat) : List OpenSet → Reader
  | [] => { q with sets := [] }.add (some depth)
  | set :: outer => { q with sets := set.add depth :: outer }

def readInSet (q : Reader) (set : OpenSet) (outer : List OpenSet) (c : Char) (rest : Text) :
    Option (Reader × Text) :=
  let added : Reader := { q with sets := set.add 0 :: outer }
  let operated : Reader := { q with sets := set.operate :: outer }
  match c, rest with
  | '[', rest =>
    match readClass rest with
    | some (others,rest) => if classMayStand q.mode others then some (added,rest) else none
    | none =>
      (OpenSet.read q.mode rest).map fun (inner,rest) =>
        ({ q with sets := inner :: set :: outer },rest)
  | ']', rest => some (q.closeSet (set.depth + 1) outer,rest)
  | '&', '&' :: rest | '-', '-' :: rest | '~', '~' :: rest => some (operated,rest)
  | c, rest => (readRange q.mode (c :: rest)).map fun rest => (added,rest)

def step (q : Reader) (c : Char) (rest : Text) : Option (Reader × Text) :=
  match q.sets with
  | [] => q.readPart c rest
  | set :: outer => q.readInSet set outer c rest

def readAll (q : Reader) (s : Text) : Option Reader :=
  match q.mode.skip s with
  | [] => some q
  | c :: rest =>
    match q.step c rest with
    | none => none
    | some (next,left) => if left.length < s.length then next.readAll left else none
termination_by s.length

end Reader

def isWellFormed (s : Text) : Bool :=
  (Reader.start.readAll s).any fun q =>
    q.outer.isEmpty && q.sets.isEmpty && q.group.depth ≤ maxDepth

/-- Whether a text says what a value has to be. Of numbers only those with a plus sign need be told from
patterns, as no pattern begins with it. -/
def isCondition : Text → Bool
  | '+' :: number =>
    Decimal.isNumber number || String.ofList (number.map Char.toLower) ∈ ["inf", "infinity", "nan"]
  | s => isWellFormed s

end BookTheme.Log.Pattern
