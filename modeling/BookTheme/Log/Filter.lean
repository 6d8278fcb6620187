import BookTheme.Bytes.Utf8
import BookTheme.Decimal.Numeral
import BookTheme.Log.Event
import BookTheme.Log.Pattern

/-! # Filters

A filter says which events of a run are shown. It is a list of directives, each with a limit for the
events that it concerns: those of an area, or of every area that begins like that, and of these only the
ones that have all the values that it names. Of several directives that concern an event the one for the
longest area decides, then the one that names the most values; an event that none concerns is not shown.

Directives are written with commas between them: a limit alone, or `area[{value}]=limit` where each of
the three parts may be missing but not all. Without a limit everything is shown. A directive may name
more between its brackets, a span or what a value has to be, but what it names then is never there, and
it concerns no event.
-/
namespace BookTheme.Log

/-- The most verbose level that is shown; `none` shows nothing. -/
abbrev Limit := Option Level

namespace Limit

def admits (limit : Limit) (l : Level) : Bool :=
  match limit with
  | none => false
  | some most => l.verbosity ≤ most.verbosity

def ofVerbosity? (n : Nat) : Option Limit :=
  if n = 0 then some none else (Level.all.find? (·.verbosity = n)).map some

def ofName? (name : Text) : Option Limit :=
  let small := name.map Char.toLower
  if small = "off".toList then some none
  else (Level.all.find? (·.name.toList = small)).map some

def ofText? (s : Text) : Option Limit :=
  match Decimal.readNat (UInt64.size - 1) s with
  | .ok n => ofVerbosity? n
  | .error _ => ofName? s

end Limit

structure Directive where
  area : Text
  values : List Text
  /-- Whether there are events that it can concern. -/
  forEvents : Bool
  limit : Limit
deriving DecidableEq

namespace Directive

def forAll (limit : Limit) : Directive := ⟨[],[],true,limit⟩

def concerns (d : Directive) (e : Event) : Bool :=
  d.forEvents && d.area.isPrefixOf e.area.toList &&
    d.values.all fun value => e.names.any (·.toList = value)

def outranks (d e : Directive) : Bool :=
  if d.area.length ≠ e.area.length then e.area.length < d.area.length
  else if d.values.length ≠ e.values.length then e.values.length < d.values.length
  else e.values < d.values

def readLimit (s : Text) : Option Limit := if s.isEmpty then some (some .trace) else Limit.ofText? s

/-- What stands between two braces: the name of a value and perhaps, behind an equals sign, what the value
has to be. Another equals sign ends that. The answer tells whether there are events that can have it. -/
def readValue (s : Text) : Option (Text × Bool) :=
  match s.splitOn '=' with
  | name :: condition :: _ => if Pattern.isCondition condition then some (name,false) else none
  | _ => some (s,true)

def behind? (s : Text) (start : Nat) : Option Text := (Utf8.splitAt? start s).map (·.2)

def part? (s : Text) (start length : Nat) : Option Text :=
  (behind? s start).bind fun s => (Utf8.splitAt? length s).map (·.1)

def readEnd (d : Directive) (s rest : Text) (start : Nat) : Option Directive :=
  match rest with
  | [] => some d
  | '=' :: _ =>
    ((behind? s (start + 1)).bind readLimit).map fun limit => { d with limit }
  | _ => none

/-- Read a directive behind its first bracket. A span between the brackets, in front of the braces or
without them, is never there. -/
def readBrackets (area s rest : Text) (start : Nat) : Option Directive :=
  let isMark (c : Char) : Bool := c = ']' || c = '\x7b'
  let span := rest.takeWhile (!isMark ·)
  let start := start + Utf8.length span + 1
  match rest.dropWhile (!isMark ·) with
  | ']' :: rest => readEnd ⟨area,[],false,some .trace⟩ s rest start
  | '\x7b' :: rest =>
    let inner := rest.takeWhile (· ≠ '\x7d')
    let length := Utf8.length inner
    match rest.drop inner.length with
    | '\x7d' :: ']' :: rest =>
      if inner.isEmpty then none
      else ((part? s start length).bind readValue).bind fun (value,forEvents) =>
        readEnd ⟨area,[value],span.isEmpty && forEvents,some .trace⟩ s rest (start + length + 2)
    | _ => none
  | _ => none

def startsArea (c : Char) : Bool :=
  c = '-' || c = ':' || c = '_' || Text.isLetterOrNumeral c

/-- A directive. The places where its parts begin and end are counted without the blanks around it, but
the parts are cut out of the text with them, so blanks in front displace all parts. Places are counted in
bytes, and a part that would begin or end inside of a character cannot be read. -/
def ofText? (s : Text) : Option Directive :=
  let isMark (c : Char) : Bool := c = '=' || c = '['
  let body := s.trim
  let length := Utf8.length (body.takeWhile (!isMark ·))
  if body.head?.all fun c => c ≠ '[' && !startsArea c then none
  else match body.dropWhile (!isMark ·) with
    | '=' :: _ => do
      return ⟨← part? s 0 length,[],true,← (behind? s (length + 1)).bind readLimit⟩
    | '[' :: rest => (part? s 0 length).bind fun area => readBrackets area s rest (length + 1)
    | _ =>
      match Limit.ofText? s with
      | some limit => some (forAll limit)
      | none => some ⟨s,[],true,some .trace⟩

end Directive

abbrev Filter := List Directive

namespace Filter

def strongest? : List Directive → Option Directive
  | [] => none
  | d :: rest =>
    match strongest? rest with
    | none => some d
    | some best => some (if d.outranks best then d else best)

def shows (f : Filter) (e : Event) : Bool :=
  match strongest? (f.filter (·.concerns e)) with
  | none => false
  | some d => d.limit.admits e.level

def ofText? (s : Text) : Option Filter :=
  match (s.splitOn ',').filter (!·.isEmpty) with
  | [] => some [.forAll (some .error)]
  | pieces => pieces.mapM Directive.ofText?

/-- The filter of a run: the one that is asked for, or the usual one for the run's verbosity if none is
asked for or it cannot be read. -/
def forRun (asked : Option Text) (verbose : Bool) : Filter :=
  (asked.bind ofText?).getD [.forAll (some (if verbose then .debug else .info))]

end Filter
end BookTheme.Log
