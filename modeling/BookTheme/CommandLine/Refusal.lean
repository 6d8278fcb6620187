import BookTheme.CommandLine.Options
import BookTheme.Text.Visible

/-! # Why a command line sets nothing

The causes for which a command line is refused, with their messages, and the two texts that it can ask for
instead. A message shows what was given without its control sequences, of which a printed one may keep
more than the message by itself.
-/
namespace BookTheme.CommandLine

inductive BadNumber where
  | numeral (fault : Decimal.Fault)
  | notInRange (value : Int)
deriving DecidableEq, Repr

inductive Refusal where
  | help
  | version
  /-- Neither an option nor a target that is still to be given. -/
  | unknownArgument (argument : Text)
  | noValue (slot : Slot)
  | badNumber (slot : Slot) (value : Text) (reason : BadNumber)
  | repeated (item : Item)
  | valueForSwitch (switch : Switch) (value : Text)
deriving DecidableEq, Repr

def maxAttempts : Nat := UInt32.size - 1

def BadNumber.message : BadNumber → String
  | .numeral fault => fault.message
  | .notInRange value => s!"{value} is not in 0..={maxAttempts}"

def helpText : String := "Fetch the pinned mdBook index.hbs and patch it for the book theme

Usage: update-theme [OPTIONS] [TARGET]

Arguments:
  [TARGET]  Output path for the patched template [default: <crate>/book/theme/index.hbs]

Options:
      --config <PATH>        JSON file overriding source, retry, or patch settings
      --api-base <URL>       Contents API base URL (e.g. a mirror)
      --attempts <N>         Total request attempts before giving up
      --retry-delay-ms <MS>  Pause between attempts in milliseconds
      --check                Compare the patched template with TARGET instead of writing it
      --verbose              Emit debug logging (overridden by RUST_LOG)
  -h, --help                 Print help
  -V, --version              Print version

Examples:
  update-theme
  update-theme book/theme/index.hbs --verbose
  update-theme --check
"

def versionText : String := "update-theme 0.1.0\n"

namespace Refusal

/-- The message, when `shown` is what it shows of an argument. -/
def messageShowing (shown : Text → Text) : Refusal → String
  | help => helpText
  | version => versionText
  | unknownArgument argument =>
    "error: unexpected argument '" ++ String.ofList (shown argument) ++ "' found"
  | noValue slot =>
    "error: a value is required for '" ++ (Item.slot slot).display ++ "' but none was supplied"
  | badNumber slot value reason =>
    "error: invalid value '" ++ String.ofList (shown value) ++ "' for '" ++ (Item.slot slot).display ++
      "': " ++ reason.message
  | repeated item => "error: the argument '" ++ item.display ++ "' cannot be used multiple times"
  | valueForSwitch switch value =>
    "error: unexpected value '" ++ String.ofList (shown value) ++ "' for '" ++
      (Item.switch switch).display ++ "' found; no more were expected"

def message (r : Refusal) : String := r.messageShowing Text.visible

def printed (r : Refusal) : String := r.messageShowing Text.printed

def isRequest : Refusal → Bool
  | help => true
  | version => true
  | _ => false

def exitCode (r : Refusal) : Nat := if r.isRequest then 0 else 2

end Refusal
end BookTheme.CommandLine
