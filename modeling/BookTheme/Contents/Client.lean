import BookTheme.Contents.Envelope
import BookTheme.Log.Event

/-! # Fetching a file

A request that is not answered is made again after a pause, until the attempts of the policy are used up;
there is always one attempt. An answer ends the requests whatever its body holds. A client says how
requests and pauses are made, and where events go.
-/
namespace BookTheme.Contents

structure Client (m : Type → Type) where
  get : Source → m Outcome
  pause : Delay → m Unit
  log : Log.Event → m Unit

inductive FetchError where
  | unanswered (attempts : Nat) (last : RequestFailure)
  | envelope (error : Json.Error)
  | content (error : DecodeError)
deriving DecidableEq

/-- The body of an answer, and the number of the attempt that it came to. -/
structure Answer where
  body : Bytes
  attempts : Nat
deriving DecidableEq

structure Document where
  revision : Text
  text : Text
  attempts : Nat
deriving DecidableEq

def Answer.envelope (a : Answer) : Except FetchError (Envelope × Nat) :=
  match Envelope.parse a.body with
  | .ok envelope => .ok (envelope,a.attempts)
  | .error error => .error (.envelope error)

def Envelope.document (e : Envelope) (attempts : Nat) : Except FetchError Document :=
  match e.decode with
  | .ok text => .ok ⟨e.revision,text,attempts⟩
  | .error error => .error (.content error)

namespace Client

variable {m : Type → Type} [Monad m]

def attempt (c : Client m) (source : Source) (number : Nat) : m (Except RequestFailure Bytes) := do
  match ← c.get source with
  | .reply status body =>
    if isAnswer status then
      c.log (.answered number status body.length)
      return .ok body
    else
      c.log (.refused number status)
      return .error (.status status)
  | .noReply message =>
    c.log (.failed number (.connection message))
    return .error (.connection message)

/-- The `number`-th attempt, and up to `more` others until one is answered. -/
def answerFrom (c : Client m) (source : Source) (delay : Delay) :
    (more number : Nat) → m (Except FetchError Answer)
  | 0, number => do
    match ← c.attempt source number with
    | .ok body => return .ok ⟨body,number⟩
    | .error failure => return .error (.unanswered number failure)
  | more + 1, number => do
    match ← c.attempt source number with
    | .ok body => return .ok ⟨body,number⟩
    | .error _ =>
      c.log (.waiting (.ofNat delay.toMillis))
      c.pause delay
      c.answerFrom source delay more (number + 1)

def answer (c : Client m) (source : Source) (policy : RequestPolicy) : m (Except FetchError Answer) :=
  c.answerFrom source policy.delay (policy.maxAttempts.toNat - 1) 1

def envelope (c : Client m) (source : Source) (policy : RequestPolicy) :
    m (Except FetchError (Envelope × Nat)) := do
  return (← c.answer source policy).bind Answer.envelope

def document (c : Client m) (source : Source) (policy : RequestPolicy) :
    m (Except FetchError Document) := do
  return (← c.envelope source policy).bind fun (envelope,attempts) => envelope.document attempts

end Client
end BookTheme.Contents
