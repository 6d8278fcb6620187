import BookTheme.Text.Blank

/-! # Paths

A path is a text of steps between slashes. Empty steps, and steps of one dot that are not at its start,
lead nowhere and are idle. The parent of a path is what stands before its last step that is not idle, as
it is written, without the idle steps at its end.
-/
namespace BookTheme.Files

inductive Step where
  | stay
  | up
  | into (name : Text)
deriving DecidableEq, Repr

namespace Path

def isAbsolute (path : Text) : Bool := path.head? = some '/'

def endsInSlash (path : Text) : Bool := path.getLast? = some '/'

def step? (part : Text) : Option Step :=
  if part.isEmpty then none
  else if part = ['.'] then some .stay
  else if part = ['.', '.'] then some .up
  else some (.into part)

def steps (path : Text) : List Step := (path.splitOn '/').filterMap step?

/-- Take the idle steps off the end of a path that is written backwards. -/
def dropIdle : Text → Text
  | '/' :: rest => dropIdle rest
  | '.' :: '/' :: rest => dropIdle rest
  | backwards => backwards

def parent? (path : Text) : Option Text :=
  match dropIdle path.reverse with
  | [] => none
  | backwards =>
    match dropIdle (backwards.dropWhile (· ≠ '/')) with
    | [] => some (if isAbsolute path then ['/'] else [])
    | above => some above.reverse

/-- A path and its parents up to the last that is not empty, at most `fuel` of them. -/
def ancestors : Nat → Text → List Text
  | 0, _ => []
  | fuel + 1, path =>
    if path.isEmpty then []
    else
      path :: match parent? path with
        | some above => ancestors fuel above
        | none => []

def lineage (path : Text) : List Text := ancestors path.length path

end Path
end BookTheme.Files
