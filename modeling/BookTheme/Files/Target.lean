import BookTheme.Files.OsError
import BookTheme.Files.Path
import BookTheme.Log.Event

/-! # The target file

The target is written as a whole, after the directories above it have been made, or it is compared with
what would be written. A directory is made only if it is not there; one that could not be made because a
directory above it is missing is tried again after that one.
-/
namespace BookTheme.Files

structure Disk (m : Type → Type) where
  read : Text → m (Except OsError Bytes)
  makeDir : Text → m (Except OsError Unit)
  isDir : Text → m Bool
  write : Text → Bytes → m (Except OsError Unit)

inductive Action where
  | create
  | read
  | write
deriving DecidableEq, Repr

def Action.name : Action → String
  | create => "create"
  | read => "read"
  | write => "write"

structure TargetError where
  action : Action
  path : Text
  cause : OsError
deriving DecidableEq

def TargetError.message (e : TargetError) : String := e.action.name ++ " " ++ String.ofList e.path

namespace Disk

variable {m : Type → Type} [Monad m]

def makeDirUnlessThere (disk : Disk m) (path : Text) : m (Except OsError Unit) := do
  match ← disk.makeDir path with
  | .ok _ => return .ok ()
  | .error e => if ← disk.isDir path then return .ok () else return .error e

/-- Make the first of the directories; the others are the ones above it, the nearest first. -/
def makeDirs (disk : Disk m) : List Text → m (Except OsError Unit)
  | [] => return .ok ()
  | path :: above => do
    match ← disk.makeDir path with
    | .ok _ => return .ok ()
    | .error .notFound =>
      match ← disk.makeDirs above with
      | .ok _ => disk.makeDirUnlessThere path
      | .error e => return .error e
    | .error e => if ← disk.isDir path then return .ok () else return .error e

def save (disk : Disk m) (log : Log.Event → m Unit) (path text : Text) :
    m (Except TargetError Nat) := do
  let parent := (Path.parent? path).getD []
  match ← disk.makeDirs (Path.lineage parent) with
  | .error e => return .error ⟨.create,parent,e⟩
  | .ok _ =>
    let content := Utf8.encode text
    match ← disk.write path content with
    | .error e => return .error ⟨.write,path,e⟩
    | .ok _ =>
      log (.targetWritten path content.length)
      return .ok content.length

/-- Whether the target holds exactly this text. A target that is not there does not. -/
def holds (disk : Disk m) (path text : Text) : m (Except TargetError Bool) := do
  match ← disk.read path with
  | .ok content => return .ok (content = Utf8.encode text)
  | .error .notFound => return .ok false
  | .error e => return .error ⟨.read,path,e⟩

end Disk
end BookTheme.Files
