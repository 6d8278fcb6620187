import BookTheme.Bytes.Utf8
import BookTheme.Decimal.Numeral

/-! # Addresses

An http address: its scheme, the authority up to the first slash, question mark or number sign, and the path
with the query. A path is at least a slash, also where only the query is written. What a number sign
begins is left out. Characters beyond ASCII may stand in path and query, but not in the authority.

The parts are looked at from left to right, and the first that is wrong is reported.
-/
namespace BookTheme.Contents

structure Url where
  secure : Bool
  /-- The host, perhaps with a port number behind it or with a user in front of it. -/
  authority : Text
  path : Text
deriving DecidableEq

namespace Url

inductive Error where
  | tooLong
  | badForm
  | badAuthority
  | badCharacter
deriving DecidableEq, Repr

def Error.message : Error → String
  | .tooLong => "uri too long"
  | .badForm => "invalid format"
  | .badAuthority => "invalid authority"
  | .badCharacter => "invalid uri character"

def maxBytes : Nat := 65534

/-- What has been seen of an authority. What stood in front of an at sign or inside brackets is
forgotten. -/
structure Seen where
  colons : Nat
  opened : Bool
  closed : Bool
  percent : Bool
deriving DecidableEq

def isMark (c : Char) : Bool :=
  c = '!' || c = '$' || c = '&' || c = '\'' || c = '(' || c = ')' || c = '*' || c = '+' || c = ',' ||
    c = '-' || c = '.' || c = ';' || c = '=' || c = '_' || c = '~'

def Seen.add (v : Seen) (c : Char) : Except Error Seen :=
  if c = ':' then
    if 8 ≤ v.colons then .error .badAuthority else .ok { v with colons := v.colons + 1 }
  else if c = '[' then
    if v.percent || v.opened then .error .badAuthority else .ok { v with opened := true }
  else if c = ']' then
    if !v.opened || v.closed then .error .badAuthority
    else .ok { v with closed := true, colons := 0, percent := false }
  else if c = '@' then .ok { v with colons := 0, percent := false }
  else if c = '%' then .ok { v with percent := true }
  else if c.isAlphanum || isMark c then .ok v
  else .error .badCharacter

/-- An authority has at most one colon that counts, brackets in pairs, and no percent sign that counts;
something stands behind an at sign. -/
def checkAuthority (s : Text) : Except Error Unit := do
  let v ← s.foldlM Seen.add ⟨0,false,false,false⟩
  if v.opened ≠ v.closed || 1 < v.colons || s.getLast? = some '@' || v.percent then
    .error .badAuthority
  else if s.isEmpty then .error .badForm
  else .ok ()

def inPath (c : Char) : Bool :=
  0x20 < c.toNat && c ≠ '\x7f' && c ≠ '<' && c ≠ '>' && c ≠ '`'

def inQuery (c : Char) : Bool :=
  0x20 < c.toNat && c ≠ '\x7f' && c ≠ '"' && c ≠ '<' && c ≠ '>'

def checkPath (s : Text) : Except Error Unit :=
  if (s.takeWhile (· ≠ '?')).all inPath && (s.dropWhile (· ≠ '?')).all inQuery then .ok ()
  else .error .badCharacter

def withSlash : Text → Text
  | '/' :: s => '/' :: s
  | s => '/' :: s

def parseRest (secure : Bool) (s : Text) : Except Error Url := do
  let isEnd (c : Char) : Bool := c = '/' || c = '?' || c = '#'
  let authority := s.takeWhile (!isEnd ·)
  let path := (s.dropWhile (!isEnd ·)).takeWhile (· ≠ '#')
  checkAuthority authority
  checkPath path
  return ⟨secure,authority,withSlash path⟩

def parse (s : Text) : Except Error Url :=
  let plain := "http://".toList
  let secure := "https://".toList
  if maxBytes < (Utf8.encode s).length then .error .tooLong
  else if plain.isPrefixOf s then parseRest false (s.drop plain.length)
  else if secure.isPrefixOf s then parseRest true (s.drop secure.length)
  else .error .badForm

def hostAndNumber (u : Url) : Text := (u.authority.reverse.takeWhile (· ≠ '@')).reverse

def host (u : Url) : Text :=
  match u.hostAndNumber with
  | '[' :: rest => rest.takeWhile (· ≠ ']')
  | s => s.takeWhile (· ≠ ':')

/-- The port number, or the usual one of the scheme if there is none that can be read. -/
def portNumber (u : Url) : Nat :=
  let usual := if u.secure then 443 else 80
  let behindHost := match u.hostAndNumber with
    | '[' :: rest => (rest.dropWhile (· ≠ ']')).drop 1
    | s => s.dropWhile (· ≠ ':')
  match behindHost with
  | _ :: digits => (Decimal.readNat 65535 digits).toOption.getD usual
  | [] => usual

end Url
end BookTheme.Contents
