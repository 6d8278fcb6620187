import BookTheme.Proofs.Contents.Attempts
import BookTheme.Proofs.Files.Saving

/-! # The stages of a run

Settings are resolved, a template is fetched and patched, and only then the target is looked at. Each stage
is known from what comes out of it and from the tree that it leaves; no stage before the last touches the
tree, so all that can come before it comes down to three cases.
-/
namespace BookTheme
open Rehearsal (run_bind run_read run_log host_client host_disk)

namespace Settings

/-- The settings that the options come to, as the files are. -/
def resolved (r : Rehearsal) (o : CommandLine.Options) : Except SettingsError Settings :=
  ((forOptions Rehearsal.disk o).run r).1

theorem run_forOptions (r : Rehearsal) (o : CommandLine.Options) :
    (forOptions Rehearsal.disk o).run r = (resolved r o,r) := by
  have h : ((forOptions Rehearsal.disk o).run r).2 = r := by
    unfold forOptions base
    cases o.config with
    | none => rfl
    | some path =>
      simp only [load, run_bind, run_read]
      cases r.tree.read? path with
      | error e => rfl
      | ok bytes =>
        simp only
        cases parse bytes <;> rfl
  rw [resolved]
  exact Prod.ext rfl h

theorem resolved_of_none {r : Rehearsal} {o : CommandLine.Options} (h : o.config = none) :
    resolved r o = (Default.settings.overlaid o).checked := by
  rw [resolved, forOptions, base, h]
  rfl

theorem resolved_of_config {r : Rehearsal} {o : CommandLine.Options} {path : Text} (h : o.config = some path) :
    resolved r o = ((load Rehearsal.disk path).run r).1.bind fun s => (s.overlaid o).checked := by
  rw [resolved, forOptions, base, h]
  rfl

end Settings

namespace Update
open Contents Files

/-- What a run holds ready for its target: the page that the first answer holds, patched with the insertions
of the settings. -/
def Prepared (r : Rehearsal) (o : CommandLine.Options) (text : Text) : Prop :=
  ∃ s k body envelope page patched, Settings.resolved r o = .ok s ∧
    k ≤ max 1 s.retry.maxAttempts.toNat ∧ FirstAnswer (r.ofAttempt s.source) k body ∧
    Envelope.parse body = .ok envelope ∧ envelope.decode = .ok page ∧
    Template.patch s.insertions page = .ok patched ∧ patched.text = text

def targetOf (home : Text) (o : CommandLine.Options) : Text := o.target.getD (defaultTarget home)

theorem fetch_cases (r : Rehearsal) (s : Settings) :
    (∃ e r', (fetch Rehearsal.host s).run r = (.error (.fetch e),r') ∧ r'.tree = r.tree) ∨
    ∃ d r', (fetch Rehearsal.host s).run r = (.ok d,r') ∧ r'.tree = r.tree ∧ ∃ k body envelope,
      k ≤ max 1 s.retry.maxAttempts.toNat ∧ FirstAnswer (r.ofAttempt s.source) k body ∧
      Envelope.parse body = .ok envelope ∧ envelope.decode = .ok d.text := by
  obtain ⟨n,happenings,hr,hd⟩ := Client.run_document
    (r.after 0 [.logged (.fetching s.source.url s.retry.policy.maxAttempts.toNat)]) s.source s.retry.policy
  unfold fetch
  rw [run_bind, host_client, run_log, run_bind, hr]
  cases h : ((Rehearsal.client.document s.source s.retry.policy).run
    (r.after 0 [.logged (.fetching s.source.url s.retry.policy.maxAttempts.toNat)])).1 with
  | error e => exact Or.inl ⟨e,_,rfl,rfl⟩
  | ok d => exact Or.inr ⟨d,_,rfl,rfl,hd d h⟩

theorem run_logAnchors (r : Rehearsal) (anchors : List Template.Anchor) :
    (logAnchors Rehearsal.host anchors).run r =
      ((),r.after 0 (anchors.map fun a => .logged (.anchorMatched a.line a.phase))) := by
  induction anchors generalizing r with
  | nil => rfl
  | cons anchor anchors ih =>
    unfold logAnchors
    rw [run_bind, host_client, run_log, ih, Rehearsal.after_after]
    rfl

theorem run_patch (r : Rehearsal) (s : Settings) (d : Document) :
    ∃ r', (patch Rehearsal.host s d).run r =
      (match Template.patch s.insertions d.text with
        | .ok patched => .ok patched.text
        | .error e => .error (.layout d.revision (.layout e)),r') ∧ r'.tree = r.tree := by
  unfold patch
  cases hr : Template.readThrough s.insertions d.text with
  | error e =>
    have hp : Template.patch s.insertions d.text = .error e := by rw [Template.patch, hr]; rfl
    rw [hp]
    exact ⟨r,rfl,rfl⟩
  | ok pass =>
    have hp : Template.patch s.insertions d.text = pass.close := by rw [Template.patch, hr]; rfl
    simp only
    rw [hp, run_bind, host_client, run_log]
    cases pass.close with
    | error e => exact ⟨_,rfl,rfl⟩
    | ok patched =>
      simp only
      rw [run_bind, run_logAnchors]
      exact ⟨_,rfl,rfl⟩

theorem tree_check (r : Rehearsal) (target revision text : Text) :
    ((check Rehearsal.host target revision text).run r).2.tree = r.tree := by
  unfold check
  rw [run_bind, host_disk, Disk.run_holds]
  cases Disk.comparison target text (r.tree.read? target) with
  | error e => rfl
  | ok same => cases same <;> rfl

theorem write_cases (r : Rehearsal) (target text : Text) :
    (∃ e r', (write Rehearsal.host target text).run r = (.error (.target e),r') ∧
      Tree.Grown (Path.parents target) r.tree r'.tree) ∨
    ∃ u r', (write Rehearsal.host target text).run r = (.ok (),r') ∧
      Tree.Grown (Path.parents target) r.tree u ∧ u.write? target (Utf8.encode text) = .ok r'.tree := by
  unfold write
  rw [run_bind, host_disk, host_client]
  rcases Disk.run_save r target text with ⟨e,u,hs,hg⟩ | ⟨u,v,hg,hw,hs⟩
  · rw [hs]
    exact Or.inl ⟨e,_,rfl,hg⟩
  · rw [hs]
    exact Or.inr ⟨u,_,rfl,hg,hw⟩

/-- A run has no settings, or it fails before it comes to its target, or it comes there with what it is to
hold and with the files as they were. -/
theorem execute_cases (r : Rehearsal) (home : Text) (o : CommandLine.Options) :
    (∃ e, Settings.resolved r o = .error e ∧
      (execute Rehearsal.host home o).run r = (.error (.settings e),r)) ∨
    (∃ failure r', (execute Rehearsal.host home o).run r = (.error failure,r') ∧ r'.tree = r.tree ∧
      (∃ s, Settings.resolved r o = .ok s) ∧ (∀ e, failure ≠ .target e) ∧ ∀ problem, failure ≠ .template problem) ∨
    ∃ text revision r', Prepared r o text ∧ r'.tree = r.tree ∧
      (execute Rehearsal.host home o).run r =
        (if o.check then check Rehearsal.host (targetOf home o) revision text
          else write Rehearsal.host (targetOf home o) text).run r' := by
  unfold execute
  rw [run_bind, host_disk, Settings.run_forOptions]
  cases hs : Settings.resolved r o with
  | error e => exact Or.inl ⟨e,rfl,rfl⟩
  | ok s =>
    right
    simp only
    rw [run_bind]
    rcases fetch_cases r s with ⟨e,r₁,hf,ht⟩ | ⟨d,r₁,hf,ht,k,body,envelope,hk,hfirst,hp,hd⟩
    · rw [hf]
      exact Or.inl ⟨_,r₁,rfl,ht,⟨s,rfl⟩,by simp,by simp⟩
    · rw [hf]
      simp only
      obtain ⟨r₂,hr₂,ht₂⟩ := run_patch r₁ s d
      rw [run_bind, hr₂]
      cases hpatch : Template.patch s.insertions d.text with
      | error e => exact Or.inl ⟨_,r₂,rfl,ht₂.trans ht,⟨s,rfl⟩,by simp,by simp⟩
      | ok patched =>
        have hprep : Prepared r o patched.text :=
          ⟨s,k,body,envelope,d.text,patched,hs,hk,hfirst,hp,hd,hpatch,rfl⟩
        exact Or.inr ⟨patched.text,d.revision,r₂,hprep,ht₂.trans ht,rfl⟩

end Update
end BookTheme
