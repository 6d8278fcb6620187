import BookTheme.Json.Value

/-! # JSON records

A record is a value with named members. It is read from an object, which gives them in any order but none
twice, or from a list, which gives them in their own order. A record either takes what is given as
overrides of a start value and refuses other names, or it is complete: then all its members must be
given, and other names are skipped.
-/
namespace BookTheme.Json

structure Member (σ : Type) where
  name : String
  read : σ → Reader σ

structure Record (σ : Type) where
  title : String
  start : σ
  members : List (Member σ)
  /-- All members must be given, and other names are skipped. -/
  complete : Bool

namespace Record

variable {σ : Type}

def names (r : Record σ) : List String := r.members.map (·.name)

/-- The end of an object: a complete record misses the first member that was not given. -/
def close (r : Record σ) (seen : List String) (value : σ) : Except Error σ :=
  match r.names.find? fun name => r.complete && !seen.contains name with
  | some name => .error (.missingField name)
  | none => .ok value

def readColon (s : Bytes) : Except Error Bytes :=
  match dropSpace s with
  | 0x3A :: rest => .ok rest
  | _ :: _ => .error .expectedColon
  | [] => .error .endInObject

def readMember (r : Record σ) (seen : List String) (value : σ) (s : Bytes) :
    Except Error ((List String × σ) × Bytes) := do
  let (key,s) ← readString s
  match r.members.find? (·.name.toList = key) with
  | some member =>
    if seen.contains member.name then .error (.duplicateField member.name)
    else do
      let (value,s) ← member.read value (← readColon s)
      return ((member.name :: seen,value),s)
  | none =>
    if r.complete then do return ((seen,value),← skipValue (← readColon s))
    else .error (.unknownField key r.names)

def readMembers (r : Record σ) (seen : List String) (value : σ) : Nat → Reader σ
  | 0, _ => .error .endInObject
  | fuel + 1, s => do
    let ((seen,value),s) ← r.readMember seen value s
    match dropSpace s with
    | 0x7D :: rest => (·,rest) <$> r.close seen value
    | 0x2C :: rest =>
      match dropSpace rest with
      | 0x22 :: rest => r.readMembers seen value fuel rest
      | 0x7D :: _ => .error .trailingComma
      | _ :: _ => .error .keyNotString
      | [] => .error .endInValue
    | _ :: _ => .error .expectedCommaInObject
    | [] => .error .endInObject

def readObject (r : Record σ) (s : Bytes) : Except Error (σ × Bytes) :=
  match dropSpace s with
  | 0x22 :: rest => r.readMembers [] r.start (rest.length + 1) rest
  | 0x7D :: rest => (·,rest) <$> r.close [] r.start
  | _ :: _ => .error .keyNotString
  | [] => .error .endInObject

def closeList (s : Bytes) : Except Error Bytes :=
  match dropSpace s with
  | 0x5D :: rest => .ok rest
  | 0x2C :: rest =>
    match dropSpace rest with
    | 0x5D :: _ => .error .trailingComma
    | _ => .error .trailingCharacters
  | _ :: _ => .error .trailingCharacters
  | [] => .error .endInList

/-- What is left where the next element begins; `none` at the end of the list. -/
def nextElement? (first : Bool) (s : Bytes) : Except Error (Option Bytes) :=
  match dropSpace s with
  | 0x5D :: _ => .ok none
  | b :: rest =>
    if first then .ok (some (b :: rest))
    else if b = 0x2C then
      match dropSpace rest with
      | 0x5D :: _ => .error .trailingComma
      | [] => .error .endInValue
      | rest => .ok (some rest)
    else .error .expectedCommaInList
  | [] => .error .endInList

/-- The elements of a list for the members that are due, after `count` others. -/
def readElements (r : Record σ) (count : Nat) (value : σ) :
    List (Member σ) → Bytes → Except Error (σ × Bytes)
  | [], s => (value,·) <$> closeList s
  | member :: due, s => do
    match ← nextElement? (count = 0) s with
    | some s =>
      let (value,s) ← member.read value s
      r.readElements (count + 1) value due s
    | none =>
      if r.complete then
        .error (.tooShort count (r.title ++ s!" with {r.members.length} elements"))
      else (value,·) <$> closeList s

def read (r : Record σ) (s : Bytes) : Except Error (σ × Bytes) :=
  match dropSpace s with
  | 0x5B :: rest => r.readElements 0 r.start r.members rest
  | 0x7B :: rest => r.readObject rest
  | s => .error (refuse r.title s)

def parse (r : Record σ) (bytes : Bytes) : Except Error σ := do
  let (value,rest) ← r.read bytes
  match dropSpace rest with
  | [] => .ok value
  | _ :: _ => .error .trailingCharacters

end Record
end BookTheme.Json
