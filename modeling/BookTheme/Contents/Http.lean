import BookTheme.Contents.Url
import BookTheme.Settings.Basic

/-! # Requests on the wire

A request asks for one file and for the end of the connection, so the reply is all that comes until then.
A request whose address or header cannot be written is not sent.
-/
namespace BookTheme.Contents.Http

structure Request where
  url : Url
  userAgent : Text
deriving DecidableEq

inductive Fault where
  | url (error : Url.Error)
  | userAgent
deriving DecidableEq, Repr

def Fault.message : Fault → String
  | .url error => "http: " ++ error.message
  | .userAgent => "http: failed to parse header value"

/-- Whether a character may stand in a header: no control other than the tab. -/
def inHeader (c : Char) : Bool := (0x20 ≤ c.toNat && c ≠ '\x7f') || c = '\t'

def Request.ofSource (s : Source) : Except Fault Request :=
  match Url.parse s.url with
  | .error e => .error (.url e)
  | .ok url => if s.userAgent.all inHeader then .ok ⟨url,s.userAgent⟩ else .error .userAgent

def accepted : Text := "application/vnd.github+json".toList

def lineEnd : Text := ['\r', '\n']

def Request.text (r : Request) : Text :=
  "GET ".toList ++ r.url.path ++ " HTTP/1.0".toList ++ lineEnd ++
    "host: ".toList ++ r.url.hostAndNumber ++ lineEnd ++
    "user-agent: ".toList ++ r.userAgent ++ lineEnd ++
    "accept: ".toList ++ accepted ++ lineEnd ++
    "connection: close".toList ++ lineEnd ++ lineEnd

end BookTheme.Contents.Http
