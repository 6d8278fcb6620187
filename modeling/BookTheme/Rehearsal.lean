import BookTheme.Files.Tree
import BookTheme.Update

/-! # Rehearsals

A rehearsal is a run without disk or network: over a file tree that is a value, with the outcome of every
request laid down beforehand. It keeps what happened, so that a run can be read off it.
-/
namespace BookTheme

inductive Happening where
  | requested (source : Source)
  | paused (delay : Delay)
  | logged (event : Log.Event)
  | printed (text : String)
deriving DecidableEq

structure Rehearsal where
  tree : Files.Tree
  /-- The outcome of each request, counted from 0. -/
  outcome : Nat → Source → Contents.Outcome
  requests : Nat
  /-- What happened, the latest first. -/
  happenings : List Happening

namespace Rehearsal

def of (tree : Files.Tree) (outcome : Nat → Source → Contents.Outcome) : Rehearsal :=
  ⟨tree,outcome,0,[]⟩

def history (r : Rehearsal) : List Happening := r.happenings.reverse

def note (h : Happening) : StateM Rehearsal Unit :=
  modify fun r => { r with happenings := h :: r.happenings }

def client : Contents.Client (StateM Rehearsal) where
  get source := do
    note (.requested source)
    modifyGet fun r => (r.outcome r.requests source,{ r with requests := r.requests + 1 })
  pause delay := note (.paused delay)
  log event := note (.logged event)

/-- Change the tree, unless that is refused. -/
def attempt (change : Files.Tree → Except Files.OsError Files.Tree) :
    StateM Rehearsal (Except Files.OsError Unit) :=
  modifyGet fun r =>
    match change r.tree with
    | .ok tree => (.ok (),{ r with tree })
    | .error e => (.error e,r)

def disk : Files.Disk (StateM Rehearsal) where
  read path := do return (← get).tree.read? path
  makeDir path := attempt (·.makeDir? path)
  isDir path := do return (← get).tree.isDir path
  write path content := attempt (·.write? path content)

def host : Host (StateM Rehearsal) where
  disk := disk
  client := client
  print text := note (.printed text)

def sources (r : Rehearsal) : List Source :=
  r.history.filterMap fun
    | .requested source => some source
    | _ => none

def pauses (r : Rehearsal) : List Delay :=
  r.history.filterMap fun
    | .paused delay => some delay
    | _ => none

def events (r : Rehearsal) : List Log.Event :=
  r.history.filterMap fun
    | .logged event => some event
    | _ => none

def output (r : Rehearsal) : String :=
  String.join <| r.history.filterMap fun
    | .printed text => some text
    | _ => none

end Rehearsal
end BookTheme
