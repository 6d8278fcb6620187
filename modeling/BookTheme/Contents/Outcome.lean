import BookTheme.Bytes.Utf8

/-! # Outcomes of a request

A request ends with a reply of some status, or with none. Only replies with a status from 200 to 299
answer it.
-/
namespace BookTheme.Contents

inductive Outcome where
  | reply (status : Nat) (body : Bytes)
  | noReply (message : Text)
deriving DecidableEq, Repr

inductive RequestFailure where
  | status (code : Nat)
  | connection (message : Text)
deriving DecidableEq, Repr

def isAnswer (status : Nat) : Bool := 200 ≤ status && status < 300

def RequestFailure.message : RequestFailure → String
  | .status code => s!"Status={code}"
  | .connection message => "connection error: " ++ String.ofList message

end BookTheme.Contents
