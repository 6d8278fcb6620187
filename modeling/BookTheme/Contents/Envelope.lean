import BookTheme.Bytes.Base64
import BookTheme.Json.Record
import BookTheme.Settings.Reader

/-! # The envelope of a file

A file comes as a JSON object that tells its encoding, its content in that encoding, and an address
whose last segment is the revision. Only Base64 is decoded; the content may be broken into lines.
-/
namespace BookTheme.Contents

structure Envelope where
  encoding : Text
  content : Text
  gitUrl : Text
deriving DecidableEq

inductive DecodeError where
  | encoding (given : Text)
  | base64 (error : Base64.Error)
  | utf8 (error : Utf8.Error)
deriving DecidableEq

namespace Envelope

def record : Json.Record Envelope where
  title := "struct RemoteDocument"
  start := ⟨[],[],[]⟩
  members := [
    textMember "encoding" fun r s => { r with encoding := s },
    textMember "content" fun r s => { r with content := s },
    textMember "git_url" fun r s => { r with gitUrl := s }]
  complete := true

def parse (body : Bytes) : Except Json.Error Envelope := record.parse body

/-- What stands after the last slash of the address, or all of it if there is none. -/
def revision (e : Envelope) : Text := (e.gitUrl.reverse.takeWhile (· ≠ '/')).reverse

/-- Blank, tab, line feed, form feed and carriage return, but not the vertical tab. -/
def isFiller (c : Char) : Bool :=
  c = ' ' || c = '\t' || c = '\n' || c = '\x0c' || c = '\r'

def payload (e : Envelope) : Bytes := Utf8.encode (e.content.filter (!isFiller ·))

def decode (e : Envelope) : Except DecodeError Text :=
  if e.encoding ≠ "base64".toList then .error (.encoding e.encoding)
  else
    match Base64.decode e.payload with
    | .error error => .error (.base64 error)
    | .ok bytes =>
      match Utf8.decode bytes with
      | .error error => .error (.utf8 error)
      | .ok text => .ok text

end Envelope
end BookTheme.Contents
