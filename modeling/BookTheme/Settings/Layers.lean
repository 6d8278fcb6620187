import BookTheme.CommandLine.Options
import BookTheme.Files.Target
import BookTheme.Report
import BookTheme.Settings.Check
import BookTheme.Settings.Reader

/-! # Layers of settings

Settings come from the defaults or from a file over the defaults, and options of the command line go over
both. Only the result is checked, so an option can mend what a file says.
-/
namespace BookTheme

inductive SettingsError where
  | unreadable (path : Text) (cause : Files.OsError)
  | malformed (path : Text) (cause : Json.Error)
  | unusable (violation : Violation)
deriving DecidableEq

def SettingsError.report : SettingsError → Report
  | .unreadable path cause => ⟨"read config " ++ String.ofList path,[cause.message]⟩
  | .malformed path cause => ⟨"parse config JSON " ++ String.ofList path,[cause.message]⟩
  | .unusable violation => ⟨violation.message,[]⟩

namespace Settings

def overlaid (s : Settings) (o : CommandLine.Options) : Settings :=
  { s with
    source := { s.source with apiBase := o.apiBase.getD s.source.apiBase }
    retry :=
      { maxAttempts := o.attempts.getD s.retry.maxAttempts
        delay := o.retryDelay.getD s.retry.delay } }

def checked (s : Settings) : Except SettingsError Settings :=
  match s.violation? with
  | some violation => .error (.unusable violation)
  | none => .ok s

variable {m : Type → Type} [Monad m]

def load (disk : Files.Disk m) (path : Text) : m (Except SettingsError Settings) := do
  match ← disk.read path with
  | .error cause => return .error (.unreadable path cause)
  | .ok bytes =>
    match parse bytes with
    | .error cause => return .error (.malformed path cause)
    | .ok settings => return .ok settings

/-- What the options go over. -/
def base (disk : Files.Disk m) (o : CommandLine.Options) : m (Except SettingsError Settings) :=
  match o.config with
  | some path => load disk path
  | none => return .ok Default.settings

def forOptions (disk : Files.Disk m) (o : CommandLine.Options) : m (Except SettingsError Settings) := do
  let settings ← base disk o
  return settings.bind fun s => (s.overlaid o).checked

end Settings
end BookTheme
