import BookTheme.Proofs.Files.Growth
import BookTheme.Proofs.Rehearsal.Record

/-! # Saving in a rehearsal

Whatever comes of it, making directories only lets the tree grow. Saving does that along the parents of the
target, and either writes the target then or leaves it at that. Comparing changes nothing.
-/
namespace BookTheme.Files
open Rehearsal (run_bind run_pure run_read run_isDir run_makeDir run_write run_log)

def Path.parents (path : Text) : List Text := lineage ((parent? path).getD [])

namespace Disk

theorem run_unlessThere (r : Rehearsal) (path : Text) (e : OsError) :
    ((do if ← Rehearsal.disk.isDir path then return .ok () else return .error e :
      StateM Rehearsal (Except OsError Unit)).run r).2 = r := by
  rw [run_bind, run_isDir]
  cases r.tree.isDir path <;> rfl

theorem run_makeDirUnlessThere (r : Rehearsal) (path : Text) :
    ∃ u, ((Rehearsal.disk.makeDirUnlessThere path).run r).2 = { r with tree := u } ∧
      Tree.Grown [path] r.tree u := by
  unfold makeDirUnlessThere
  rw [run_bind, run_makeDir]
  cases h : r.tree.makeDir? path with
  | ok u => exact ⟨u,rfl,Tree.grown_of_makeDir? h⟩
  | error e => exact ⟨r.tree,run_unlessThere r path e,Tree.Grown.refl _ _⟩

/-- Making directories lets the tree grow along their paths, also if it fails on the way. -/
theorem run_makeDirs (paths : List Text) (r : Rehearsal) :
    ∃ u, ((Rehearsal.disk.makeDirs paths).run r).2 = { r with tree := u } ∧ Tree.Grown paths r.tree u := by
  induction paths generalizing r with
  | nil => exact ⟨r.tree,rfl,Tree.Grown.refl _ _⟩
  | cons path above ih =>
    unfold makeDirs
    rw [run_bind, run_makeDir]
    cases h : r.tree.makeDir? path with
    | ok u => exact ⟨u,rfl,(Tree.grown_of_makeDir? h).mono (by simp)⟩
    | error e =>
      cases e with
      | notFound =>
        obtain ⟨u,hu,hg⟩ := ih r
        have hg' : Tree.Grown (path :: above) r.tree u := hg.mono fun p hp => List.mem_cons_of_mem _ hp
        simp only [run_bind]
        rw [hu]
        cases ha : ((Rehearsal.disk.makeDirs above).run r).1 with
        | error e => exact ⟨u,rfl,hg'⟩
        | ok _ =>
          obtain ⟨v,hv,hgv⟩ := run_makeDirUnlessThere { r with tree := u } path
          exact ⟨v,hv,hg'.trans (hgv.mono (by simp))⟩
      | _ => exact ⟨r.tree,run_unlessThere r path _,Tree.Grown.refl _ _⟩

/-- Saving either fails when the tree has grown along the parents of the target, or the target is written
in a tree that has grown so. -/
theorem run_save (r : Rehearsal) (path text : Text) :
    (∃ e u, (Rehearsal.disk.save Rehearsal.client.log path text).run r = (.error e,{ r with tree := u }) ∧
      Tree.Grown (Path.parents path) r.tree u) ∨
    ∃ u v, Tree.Grown (Path.parents path) r.tree u ∧ u.write? path (Utf8.encode text) = .ok v ∧
      (Rehearsal.disk.save Rehearsal.client.log path text).run r = (.ok (Utf8.encode text).length,
        Rehearsal.after { r with tree := v } 0 [.logged (.targetWritten path (Utf8.encode text).length)]) := by
  obtain ⟨u,hu,hg⟩ := run_makeDirs (Path.parents path) r
  unfold save
  simp only [run_bind]
  rw [show Path.lineage ((Path.parent? path).getD []) = Path.parents path from rfl, hu]
  cases ((Rehearsal.disk.makeDirs (Path.parents path)).run r).1 with
  | error e => exact Or.inl ⟨_,u,rfl,hg⟩
  | ok _ =>
    simp only [run_bind, run_write]
    cases hw : u.write? path (Utf8.encode text) with
    | error e => exact Or.inl ⟨_,u,rfl,hg⟩
    | ok v => exact Or.inr ⟨u,v,hg,hw,rfl⟩

def comparison (path text : Text) : Except OsError Bytes → Except TargetError Bool
  | .ok content => .ok (content = Utf8.encode text)
  | .error .notFound => .ok false
  | .error e => .error ⟨.read,path,e⟩

theorem run_holds (r : Rehearsal) (path text : Text) :
    (Rehearsal.disk.holds path text).run r = (comparison path text (r.tree.read? path),r) := by
  unfold holds
  rw [run_bind, run_read]
  cases r.tree.read? path with
  | ok content => rfl
  | error e => cases e <;> rfl

end Disk
end BookTheme.Files
