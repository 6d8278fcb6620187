import BookTheme.Template.Insertions

/-! # One pass over a page template

A pass reads a template line by line. A line that is no anchor of the current phase goes through as it
is. An anchor line goes through changed, or with a block of text above it, and the pass moves on to the
next phase. What is put into the page never decides what happens: it is not read again.

`Pass.readLine` takes any string as a line. If it fails, that line has been counted and nothing else
has changed, so a caller may go on. `patch` reads the lines of a whole text, stops at the first failure,
and gives out nothing unless all five anchors were seen.
-/
namespace BookTheme.Template

inductive LayoutError where
  | endedIn (phase : Phase)
  | scrollboxTail (line : Nat)
deriving DecidableEq, Repr

def LayoutError.message : LayoutError → String
  | .endedIn phase => s!"upstream markup changed: input ended in state {phase.name}"
  | .scrollboxTail line =>
    s!"upstream markup changed: scrollbox line {line} does not end with \">\\n\""

/-- An anchor that was found: the phase that waited for it, and its line, counted from 1. -/
structure Anchor where
  phase : Phase
  line : Nat
deriving DecidableEq, Repr

structure Patched where
  text : Text
  anchors : List Anchor
deriving DecidableEq

structure Pass where
  phase : Phase
  /-- The number of lines read, those that failed included. -/
  lineCount : Nat
  /-- What was given out for the lines read, the latest first. -/
  written : List Text
  anchors : List Anchor

namespace Pass

def start : Pass := ⟨.beforeSidebar,0,[],[]⟩

def output (p : Pass) : Text := p.written.reverse.flatten

/-- Read one line: what became of the pass, and the failure if there was one. -/
def readLine (ins : Insertions) (p : Pass) (line : Text) : Pass × Option LayoutError :=
  let number := p.lineCount + 1
  if p.phase.awaits line then
    match replacement? ins line p.phase with
    | some text =>
      ({ phase := p.phase.next, lineCount := number, written := text :: p.written,
         anchors := p.anchors ++ [⟨p.phase,number⟩] },none)
    | none => ({ p with lineCount := number },some (.scrollboxTail number))
  else ({ p with lineCount := number, written := line :: p.written },none)

def readLines (ins : Insertions) : Pass → List Text → Except LayoutError Pass
  | p, [] => .ok p
  | p, line :: rest =>
    match p.readLine ins line with
    | (q,none) => readLines ins q rest
    | (_,some e) => .error e

def close (p : Pass) : Except LayoutError Patched :=
  if p.phase.isFinal then .ok ⟨p.output,p.anchors⟩ else .error (.endedIn p.phase)

@[simp] theorem output_start : start.output = [] := rfl

end Pass

def readThrough (ins : Insertions) (text : Text) : Except LayoutError Pass :=
  Pass.start.readLines ins text.pieces

def patch (ins : Insertions) (text : Text) : Except LayoutError Patched := do
  (← readThrough ins text).close

end BookTheme.Template
