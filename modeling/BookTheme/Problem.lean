import BookTheme.Contents.Client
import BookTheme.Files.Target
import BookTheme.Template.Pass

/-! # Problems

What can go wrong between the first request and the written target. A problem concerns the
layout if the template no longer has the one that is expected.
-/
namespace BookTheme

inductive Problem where
  | fetch (error : Contents.FetchError)
  | layout (error : Template.LayoutError)
  | target (error : Files.TargetError)
deriving DecidableEq

namespace Problem
open Contents

def message : Problem → String
  | fetch (.unanswered attempts last) =>
    s!"upstream request failed after {attempts} attempt(s): {last.message}"
  | fetch (.envelope _) => "parse contents envelope"
  | fetch (.content (.encoding given)) =>
    "unexpected content encoding " ++ given.quoted ++ " (expected \"base64\")"
  | fetch (.content (.base64 _)) => "decode base64 content"
  | fetch (.content (.utf8 _)) => "decoded content is not UTF-8"
  | layout e => e.message
  | target e => e.message

/-- What the problem comes from, if that is a problem of its own. -/
def cause? : Problem → Option String
  | fetch (.envelope e) => some e.message
  | fetch (.content (.base64 e)) => some e.message
  | fetch (.content (.utf8 e)) => some e.message
  | target e => some e.cause.message
  | _ => none

def concernsLayout : Problem → Bool
  | layout _ => true
  | _ => false

end Problem
end BookTheme
