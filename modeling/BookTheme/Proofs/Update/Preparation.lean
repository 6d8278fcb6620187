import BookTheme.Proofs.Rehearsal.Blind
import BookTheme.Proofs.Update.Stages

/-! # What comes before the target

All that a run does before it touches its target is one computation, which does not know whether the run is to
write or to check. It sees of the files no more than what the settings come to, and leaves them as they are;
so it comes out the same on every tree on which the settings are the same.
-/
namespace BookTheme

namespace Contents.Client
open Rehearsal

theorem blind_attempt (source : Source) (number : Nat) : Blind (Rehearsal.client.attempt source number) := by
  unfold Client.attempt
  apply (blind_get source).bind
  intro outcome
  cases outcome with
  | noReply message => exact (blind_log _).bind fun _ => blind_pure _
  | reply status body =>
    simp only
    split
    · exact (blind_log _).bind fun _ => blind_pure _
    · exact (blind_log _).bind fun _ => blind_pure _

theorem blind_answerFrom (source : Source) (delay : Delay) (more number : Nat) :
    Blind (Rehearsal.client.answerFrom source delay more number) := by
  induction more generalizing number with
  | zero =>
    apply (blind_attempt source number).bind
    intro result
    cases result <;> exact blind_pure _
  | succ more ih =>
    apply (blind_attempt source number).bind
    intro result
    cases result with
    | ok body => exact blind_pure _
    | error failure => exact (blind_log _).bind fun _ => (blind_pause delay).bind fun _ => ih (number + 1)

theorem blind_document (source : Source) (policy : RequestPolicy) :
    Blind (Rehearsal.client.document source policy) := by
  have he : Blind (Rehearsal.client.envelope source policy) :=
    (blind_answerFrom source policy.delay _ 1).bind fun _ => blind_pure _
  exact he.bind fun _ => blind_pure _

end Contents.Client

namespace Settings
open Rehearsal

theorem resolved_onTree {r : Rehearsal} {u : Files.Tree} {o : CommandLine.Options}
    (h : ∀ path, o.config = some path → u.read? path = r.tree.read? path) :
    resolved (r.onTree u) o = resolved r o := by
  cases hc : o.config with
  | none => rw [resolved_of_none hc, resolved_of_none hc]
  | some path =>
    rw [resolved_of_config hc, resolved_of_config hc]
    simp only [load, run_bind, run_read, tree_onTree]
    rw [h path hc]
    cases r.tree.read? path with
    | error e => rfl
    | ok bytes =>
      simp only
      cases parse bytes <;> rfl

theorem exists_read?_of_resolved {r : Rehearsal} {o : CommandLine.Options} {s : Settings} {path : Text}
    (h : resolved r o = .ok s) (hc : o.config = some path) : ∃ bytes, r.tree.read? path = .ok bytes := by
  rw [resolved_of_config hc] at h
  simp only [load, run_bind, run_read] at h
  cases hr : r.tree.read? path with
  | ok bytes => exact ⟨bytes,rfl⟩
  | error e =>
    rw [hr] at h
    cases h

end Settings

namespace Update
open Rehearsal

section
variable {m : Type → Type} [Monad m]

def acquire (host : Host m) (s : Settings) : m (Except Failure (Text × Text)) := do
  match ← fetch host s with
  | .error e => return .error e
  | .ok document =>
    match ← patch host s document with
    | .error e => return .error e
    | .ok text => return .ok (document.revision,text)

def prepare (host : Host m) (o : CommandLine.Options) : m (Except Failure (Text × Text)) := do
  match ← Settings.forOptions host.disk o with
  | .error e => return .error (.settings e)
  | .ok s => acquire host s

def deliver (host : Host m) (home : Text) (o : CommandLine.Options) (revision text : Text) :
    m (Except Failure Unit) :=
  if o.check then check host (targetOf home o) revision text else write host (targetOf home o) text

end

theorem blind_fetch (s : Settings) : Blind (fetch Rehearsal.host s) := by
  apply (blind_log _).bind
  intro _
  apply (Contents.Client.blind_document s.source s.retry.policy).bind
  intro result
  cases result with
  | error e => exact blind_pure _
  | ok document => exact (blind_log _).bind fun _ => (blind_print _).bind fun _ => blind_pure _

theorem blind_logAnchors (anchors : List Template.Anchor) : Blind (logAnchors Rehearsal.host anchors) := by
  induction anchors with
  | nil => exact blind_pure ()
  | cons anchor anchors ih => exact (blind_log _).bind fun _ => ih

theorem blind_patch (s : Settings) (document : Contents.Document) : Blind (patch Rehearsal.host s document) := by
  unfold patch
  cases Template.readThrough s.insertions document.text with
  | error e => exact blind_pure _
  | ok pass =>
    apply (blind_log _).bind
    intro _
    cases pass.close with
    | error e => exact blind_pure _
    | ok patched => exact (blind_logAnchors _).bind fun _ => blind_pure _

theorem blind_acquire (s : Settings) : Blind (acquire Rehearsal.host s) := by
  apply (blind_fetch s).bind
  intro result
  cases result with
  | error e => exact blind_pure _
  | ok document =>
    apply (blind_patch s document).bind
    intro result
    cases result <;> exact blind_pure _

variable (home : Text) (r : Rehearsal) (o : CommandLine.Options)

theorem run_prepare : (prepare Rehearsal.host o).run r =
    match Settings.resolved r o with
    | .error e => (.error (.settings e),r)
    | .ok s => (acquire Rehearsal.host s).run r := by
  unfold prepare
  rw [run_bind, host_disk, Settings.run_forOptions]
  cases Settings.resolved r o <;> rfl

/-- A run prepares, and then delivers what is prepared. -/
theorem run_execute : (execute Rehearsal.host home o).run r =
    match ((prepare Rehearsal.host o).run r).1 with
    | .error e => (.error e,((prepare Rehearsal.host o).run r).2)
    | .ok (revision,text) =>
      (deliver Rehearsal.host home o revision text).run ((prepare Rehearsal.host o).run r).2 := by
  unfold execute prepare acquire
  simp only [run_bind]
  cases ((Settings.forOptions Rehearsal.host.disk o).run r).1 with
  | error e => rfl
  | ok s =>
    simp only [run_bind]
    cases ((fetch Rehearsal.host s).run ((Settings.forOptions Rehearsal.host.disk o).run r).2).1 with
    | error e => rfl
    | ok document =>
      simp only [run_bind]
      generalize (patch Rehearsal.host s document).run _ = result
      obtain ⟨_ | text,r'⟩ := result
      · rfl
      · rfl

theorem tree_prepare : ((prepare Rehearsal.host o).run r).2.tree = r.tree := by
  rw [run_prepare]
  cases Settings.resolved r o with
  | error e => rfl
  | ok s => exact (blind_acquire s).tree_run r

variable {r o}

/-- On another tree with the same settings the same is prepared. -/
theorem prepare_onTree {u : Files.Tree} (h : ∀ path, o.config = some path → u.read? path = r.tree.read? path) :
    (prepare Rehearsal.host o).run (r.onTree u) =
      (((prepare Rehearsal.host o).run r).1,((prepare Rehearsal.host o).run r).2.onTree u) := by
  rw [run_prepare, run_prepare, Settings.resolved_onTree h]
  cases Settings.resolved r o with
  | error e => rfl
  | ok s => exact blind_acquire s r u

theorem exists_read?_of_prepare {x : Text × Text} {path : Text}
    (h : ((prepare Rehearsal.host o).run r).1 = .ok x) (hc : o.config = some path) :
    ∃ bytes, r.tree.read? path = .ok bytes := by
  rw [run_prepare] at h
  cases hs : Settings.resolved r o with
  | error e =>
    rw [hs] at h
    cases h
  | ok s => exact Settings.exists_read?_of_resolved hs hc

end Update
end BookTheme
