import BookTheme.Contents.Outcome
import BookTheme.Template.Phase

/-! # Events

What a run reports while it works. Every event has a level, and comes from an area of the program; its
message is a title and the named values that belong to it.
-/
namespace BookTheme.Log

inductive Level where
  | error
  | warn
  | info
  | debug
  | trace
deriving DecidableEq, Repr

namespace Level

def all : List Level := [error, warn, info, debug, trace]

def verbosity : Level → Nat
  | error => 1
  | warn => 2
  | info => 3
  | debug => 4
  | trace => 5

def label : Level → String
  | error => "ERROR"
  | warn => "WARN"
  | info => "INFO"
  | debug => "DEBUG"
  | trace => "TRACE"

def name : Level → String
  | error => "error"
  | warn => "warn"
  | info => "info"
  | debug => "debug"
  | trace => "trace"

end Level

inductive Event where
  | fetching (url : Text) (attempts : Nat)
  | answered (attempt status bytes : Nat)
  | refused (attempt status : Nat)
  | failed (attempt : Nat) (failure : Contents.RequestFailure)
  | waiting (millis : UInt64)
  | fetched (attempts : Nat) (revision : Text)
  | readThrough (phase : Template.Phase)
  | anchorMatched (line : Nat) (phase : Template.Phase)
  | targetWritten (path : Text) (bytes : Nat)
  | templateWritten (bytes : Nat)
deriving DecidableEq

namespace Event

def level : Event → Level
  | fetching .. => .info
  | answered .. => .debug
  | refused .. => .warn
  | failed .. => .warn
  | waiting .. => .debug
  | fetched .. => .info
  | readThrough .. => .trace
  | anchorMatched .. => .debug
  | targetWritten .. => .debug
  | templateWritten .. => .info

def area : Event → String
  | fetching .. => "update_theme"
  | answered .. => "update_theme::fetch"
  | refused .. => "update_theme::fetch"
  | failed .. => "update_theme::fetch"
  | waiting .. => "update_theme::fetch"
  | fetched .. => "update_theme"
  | readThrough .. => "update_theme::patch"
  | anchorMatched .. => "update_theme"
  | targetWritten .. => "update_theme::output"
  | templateWritten .. => "update_theme"

def title : Event → String
  | fetching .. => "fetching upstream template"
  | answered .. => "fetch ok"
  | refused .. => "upstream returned non-success status"
  | failed .. => "upstream request failed"
  | waiting .. => "waiting before retry"
  | fetched .. => "fetched upstream template"
  | readThrough .. => "end of input"
  | anchorMatched .. => "anchor matched"
  | targetWritten .. => "target written"
  | templateWritten .. => "template written"

def values : Event → List (String × String)
  | fetching url attempts => [("url",String.ofList url), ("attempts",toString attempts)]
  | answered attempt status bytes =>
    [("attempt",toString attempt), ("status",toString status), ("bytes",toString bytes)]
  | refused attempt status => [("attempt",toString attempt), ("status",toString status)]
  | failed attempt failure => [("attempt",toString attempt), ("failure",failure.message)]
  | waiting millis => [("delay_ms",toString millis.toNat)]
  | fetched attempts revision =>
    [("attempts",toString attempts), ("revision",String.ofList revision)]
  | readThrough phase => [("state",phase.name)]
  | anchorMatched line phase => [("line",toString line), ("state",phase.name)]
  | targetWritten path bytes => [("path",String.ofList path), ("bytes",toString bytes)]
  | templateWritten bytes => [("bytes",toString bytes)]

/-- The names that a filter can ask for. The title counts as a value of its own. -/
def names (e : Event) : List String := "message" :: e.values.map (·.1)

def entry (e : Event) : String :=
  e.level.label ++ " " ++ e.title ++
    String.join (e.values.map fun (name,value) => " " ++ name ++ "=" ++ value)

end Event
end BookTheme.Log
