/-! # Reports

A report says what failed and, one below the other, what that came from. The causes are numbered if there
are several, and a cause of several lines is indented as a whole.
-/
namespace BookTheme

structure Report where
  message : String
  causes : List String
deriving DecidableEq, Repr

namespace Report

def under (r : Report) (message : String) : Report := ⟨message,r.message :: r.causes⟩

/-- A number in front of a cause, to the right of five places. -/
def marker (n : Nat) : List Char :=
  let digits := Nat.toDigits 10 n
  List.replicate (5 - digits.length) ' ' ++ digits ++ [':', ' ']

/-- A cause behind its marker; the lines after the first stand below its text. -/
def indented (first rest cause : List Char) : List Char :=
  first ++ cause.flatMap fun c => if c = '\n' then '\n' :: rest else [c]

def causeLines (r : Report) : List (List Char) :=
  match r.causes with
  | [cause] =>
    let blanks := List.replicate 4 ' '
    [indented blanks blanks cause.toList]
  | causes => causes.zipIdx.map fun (cause,n) =>
    indented (marker n) (List.replicate 7 ' ') cause.toList

def render (r : Report) : String :=
  let head := "Error: " ++ r.message
  if r.causes.isEmpty then head
  else "\n".intercalate (head :: "" :: "Caused by:" :: r.causeLines.map String.ofList)

end Report
end BookTheme
