import BookTheme.CommandLine.Parser
import BookTheme.Problem
import BookTheme.Settings.Layers

/-! # A run

A run reads its command line, resolves the settings, fetches the template, patches it, and only then
touches the target: it writes the target, or, if it is asked to check, compares it. Whatever fails before
that leaves every file as it was.

The run is written against a host, which says how files are reached, how requests are made, and where
events and lines of output go.
-/
namespace BookTheme

structure Host (m : Type → Type) where
  disk : Files.Disk m
  client : Contents.Client m
  print : String → m Unit

inductive Failure where
  | settings (error : SettingsError)
  | fetch (error : Contents.FetchError)
  | layout (revision : Text) (problem : Problem)
  | template (problem : Problem)
  | target (error : Files.TargetError)
  | stale (target revision : Text)
deriving DecidableEq

inductive Ending where
  | done
  | refused (refusal : CommandLine.Refusal)
  | failed (failure : Failure)
deriving DecidableEq

/-- A problem with a template is told with the revision if the layout is at fault, else as it is. -/
def Failure.ofTemplate (revision : Text) (problem : Problem) : Failure :=
  if problem.concernsLayout then .layout revision problem else .template problem

def Problem.report (p : Problem) : Report := ⟨p.message,p.cause?.toList⟩

def Failure.report : Failure → Report
  | .settings e => e.report
  | .fetch e => (Problem.fetch e).report.under "fetch upstream template"
  | .layout revision problem =>
    problem.report.under
      s!"revision {String.ofList revision} no longer has the expected sidebar layout; target left untouched"
  | .template problem => problem.report
  | .target e => (Problem.target e).report
  | .stale path revision =>
    ⟨s!"target is stale: {String.ofList path} differs from patched revision {String.ofList revision}",
      []⟩

namespace Ending

def exitCode : Ending → Nat
  | done => 0
  | refused refusal => refusal.exitCode
  | failed _ => 1

def complaint? : Ending → Option String
  | done => none
  | refused refusal => if refusal.isRequest then none else some refusal.printed
  | failed failure => some failure.report.render

end Ending

namespace Update

/-- The target of a run that names none, below the directory that the program belongs to. -/
def defaultTarget (home : Text) : Text := home ++ "/book/theme/index.hbs".toList

variable {m : Type → Type} [Monad m]

def fetch (host : Host m) (s : Settings) : m (Except Failure Contents.Document) := do
  host.client.log (.fetching s.source.url s.retry.policy.maxAttempts.toNat)
  match ← host.client.document s.source s.retry.policy with
  | .error e => return .error (.fetch e)
  | .ok document =>
    host.client.log (.fetched document.attempts document.revision)
    host.print ("Source revision: " ++ String.ofList document.revision ++ "\n")
    return .ok document

def logAnchors (host : Host m) : List Template.Anchor → m Unit
  | [] => return ()
  | anchor :: rest => do
    host.client.log (.anchorMatched anchor.line anchor.phase)
    logAnchors host rest

def patch (host : Host m) (s : Settings) (document : Contents.Document) :
    m (Except Failure Text) := do
  match Template.readThrough s.insertions document.text with
  | .error e => return .error (.ofTemplate document.revision (.layout e))
  | .ok pass =>
    host.client.log (.readThrough pass.phase)
    match pass.close with
    | .error e => return .error (.ofTemplate document.revision (.layout e))
    | .ok patched =>
      logAnchors host patched.anchors
      return .ok patched.text

def check (host : Host m) (target revision text : Text) : m (Except Failure Unit) := do
  match ← host.disk.holds target text with
  | .error e => return .error (.target e)
  | .ok false => return .error (.stale target revision)
  | .ok true =>
    host.print (String.ofList target ++ " is up to date\n")
    return .ok ()

def write (host : Host m) (target text : Text) : m (Except Failure Unit) := do
  match ← host.disk.save host.client.log target text with
  | .error e => return .error (.target e)
  | .ok bytes =>
    host.client.log (.templateWritten bytes)
    host.print ("Wrote " ++ String.ofList target ++ "\n")
    return .ok ()

def execute (host : Host m) (home : Text) (o : CommandLine.Options) : m (Except Failure Unit) := do
  match ← Settings.forOptions host.disk o with
  | .error e => return .error (.settings e)
  | .ok s =>
    match ← fetch host s with
    | .error e => return .error e
    | .ok document =>
      match ← patch host s document with
      | .error e => return .error e
      | .ok text =>
        let target := o.target.getD (defaultTarget home)
        if o.check then check host target document.revision text else write host target text

def run (host : Host m) (home : Text) (arguments : List Text) : m Ending := do
  match CommandLine.parse arguments with
  | .error refusal =>
    if refusal.isRequest then host.print refusal.message
    return .refused refusal
  | .ok o =>
    match ← execute host home o with
    | .error failure => return .failed failure
    | .ok _ => return .done

end Update
end BookTheme
