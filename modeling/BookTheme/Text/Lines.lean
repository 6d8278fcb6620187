import BookTheme.Text.Blank

/-! # Lines

Two ways to see a text as lines. `pieces` cuts after each newline and loses nothing, so its lines
carry their newline and only the last may lack one. `blockLines` is what a block of text says line
by line: line ends are dropped (a newline, or a carriage return and a newline), and so are lines
that are empty after that.
-/
namespace BookTheme.Text

/-- Put one character in front of a text that has been cut already. -/
def pushFront (c : Char) (lines : List Text) : List Text :=
  if c = '\n' then ['\n'] :: lines
  else match lines with
    | [] => [[c]]
    | line :: rest => (c :: line) :: rest

def pieces (s : Text) : List Text := s.foldr pushFront []

/-- A line without its line end. A carriage return that no newline follows is part of the line. -/
def withoutLineEnd (line : Text) : Text :=
  match line.reverse with
  | '\n' :: '\r' :: rest => rest.reverse
  | '\n' :: rest => rest.reverse
  | _ => line

def blockLines (block : Text) : List Text :=
  ((pieces block).map withoutLineEnd).filter (!·.isEmpty)

def firstLine (s : Text) : Text := withoutLineEnd ((pieces s).headD [])

@[simp] theorem pieces_nil : pieces [] = [] := rfl

@[simp] theorem pieces_cons (c : Char) (s : Text) : pieces (c :: s) = pushFront c (pieces s) := rfl

@[simp] theorem flatten_pushFront (c : Char) (lines : List Text) :
    (pushFront c lines).flatten = c :: lines.flatten := by
  unfold pushFront
  split
  · simp_all
  · cases lines <;> rfl

@[simp] theorem flatten_pieces (s : Text) : (pieces s).flatten = s := by
  induction s with
  | nil => rfl
  | cons c s ih => simp [ih]

end BookTheme.Text
