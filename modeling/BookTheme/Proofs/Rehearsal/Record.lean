import BookTheme.Rehearsal

/-! # What a rehearsal records

Every operation of a rehearsal is known from its answer and from what it adds to the record. Only
operations on files change the tree, and nothing changes the script.
-/
namespace BookTheme

def Happening.isCall : Happening → Bool
  | .requested _ => true
  | .paused _ => true
  | .logged _ => false
  | .printed _ => false

@[simp] theorem isCall_requested (source : Source) : (Happening.requested source).isCall = true := rfl

@[simp] theorem isCall_paused (delay : Delay) : (Happening.paused delay).isCall = true := rfl

@[simp] theorem isCall_logged (event : Log.Event) : (Happening.logged event).isCall = false := rfl

@[simp] theorem isCall_printed (text : String) : (Happening.printed text).isCall = false := rfl

namespace Rehearsal

variable {α β : Type}

/-- The outcome of the `k`-th request from now on, counted from 1. -/
def ofAttempt (r : Rehearsal) (source : Source) (k : Nat) : Contents.Outcome :=
  r.outcome (r.requests + (k - 1)) source

def calls (r : Rehearsal) : List Happening := r.history.filter (·.isCall)

/-- The rehearsal after some requests, and all that happened with them. -/
def after (r : Rehearsal) (requests : Nat) (happenings : List Happening) : Rehearsal :=
  { r with requests := r.requests + requests, happenings := happenings.reverse ++ r.happenings }

@[simp] theorem tree_after (r : Rehearsal) (n : Nat) (hs : List Happening) : (r.after n hs).tree = r.tree := rfl

@[simp] theorem outcome_after (r : Rehearsal) (n : Nat) (hs : List Happening) :
    (r.after n hs).outcome = r.outcome := rfl

@[simp] theorem requests_after (r : Rehearsal) (n : Nat) (hs : List Happening) :
    (r.after n hs).requests = r.requests + n := rfl

@[simp] theorem history_after (r : Rehearsal) (n : Nat) (hs : List Happening) :
    (r.after n hs).history = r.history ++ hs := by
  simp [history, after]

@[simp] theorem calls_after (r : Rehearsal) (n : Nat) (hs : List Happening) :
    (r.after n hs).calls = r.calls ++ hs.filter (·.isCall) := by
  simp [calls]

@[simp] theorem after_after (r : Rehearsal) (m n : Nat) (hs gs : List Happening) :
    (r.after m hs).after n gs = r.after (m + n) (hs ++ gs) := by
  simp [after, Nat.add_assoc]

@[simp] theorem host_client : host.client = client := rfl

@[simp] theorem host_disk : host.disk = disk := rfl

theorem run_bind (x : StateM Rehearsal α) (f : α → StateM Rehearsal β) (r : Rehearsal) :
    (x >>= f).run r = (f (x.run r).1).run (x.run r).2 := rfl

theorem run_pure (a : α) (r : Rehearsal) : (pure a : StateM Rehearsal α).run r = (a,r) := rfl

theorem run_get (r : Rehearsal) (source : Source) :
    (client.get source).run r = (r.outcome r.requests source,r.after 1 [.requested source]) := rfl

theorem run_pause (r : Rehearsal) (delay : Delay) : (client.pause delay).run r = ((),r.after 0 [.paused delay]) := rfl

theorem run_log (r : Rehearsal) (event : Log.Event) :
    (client.log event).run r = ((),r.after 0 [.logged event]) := rfl

theorem run_read (r : Rehearsal) (path : Text) : (disk.read path).run r = (r.tree.read? path,r) := rfl

theorem run_isDir (r : Rehearsal) (path : Text) : (disk.isDir path).run r = (r.tree.isDir path,r) := rfl

/-- A change of the tree takes place as a whole or not at all. -/
theorem run_attempt (r : Rehearsal) (change : Files.Tree → Except Files.OsError Files.Tree) :
    (attempt change).run r =
      match change r.tree with
      | .ok tree => (.ok (),{ r with tree })
      | .error e => (.error e,r) := rfl

theorem run_makeDir (r : Rehearsal) (path : Text) :
    (disk.makeDir path).run r =
      match r.tree.makeDir? path with
      | .ok tree => (.ok (),{ r with tree })
      | .error e => (.error e,r) := run_attempt r (·.makeDir? path)

theorem run_write (r : Rehearsal) (path : Text) (content : Bytes) :
    (disk.write path content).run r =
      match r.tree.write? path content with
      | .ok tree => (.ok (),{ r with tree })
      | .error e => (.error e,r) := run_attempt r (·.write? path content)

end Rehearsal
end BookTheme
