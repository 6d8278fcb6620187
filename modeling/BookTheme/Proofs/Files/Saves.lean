import BookTheme.Proofs.Bytes.Utf8
import BookTheme.Proofs.Files.Parents

/-! # What saving does to the tree

A save either fails, and then there may be new directories where the parents of its target lead, or it succeeds, and
then the target holds the text as well. So a file is never changed but by a save that reaches it, and after any
number of saves it holds what the last of these has left there.
-/
namespace BookTheme.Files
open Rehearsal (run_bind)

/-! ## One save -/

namespace Tree
variable {path : Text} {content : Bytes} {t u v : Tree} {l : Location}

/-- What is at a location has stayed there, or nothing was there and now there is a directory to which one of the
parents of the path leads. -/
def Kept (path : Text) (t u : Tree) (l : Location) : Prop :=
  u.node? l = t.node? l ∨
    t.node? l = none ∧ u.node? l = some .directory ∧ ∃ above ∈ Path.parents path, u.place? above = some l

theorem Kept.file_iff (h : Kept path t u l) : u.node? l = some (.file content) ↔ t.node? l = some (.file content) := by
  rcases h with h | ⟨hn,hd,_⟩
  · rw [h]
  · simp [hn, hd]

theorem Grown.kept (h : Grown (Path.parents path) t u) (l : Location) : Kept path t u l := h.node? l

/-- A text has come to the place of a path, where no directory was, and all else has been kept. -/
structure Saved (path : Text) (content : Bytes) (t u : Tree) (l : Location) : Prop where
  place : u.place? path = some l
  read : u.read? path = .ok content
  room : t.node? l ≠ some .directory
  file : u.node? l = some (.file content)
  others : ∀ k, k ≠ l → Kept path t u k

theorem Grown.saved (h : Grown (Path.parents path) t u) (hw : u.write? path content = .ok v) :
    ∃ l, Saved path content t v l := by
  obtain ⟨hread,l,hplace,hothers⟩ := written_of_write? hw
  obtain ⟨dir,name,hl,_,_,hfile⟩ := read?_eq_ok_iff.mp hread
  obtain ⟨dir',name',hl',_,_,hroom,_⟩ := write?_eq_ok_iff.mp hw
  have hkeeps := keepsDirs_of_write? hw
  have hv : v.place? path = some (name :: dir) := by rw [place?, hl]
  have hu : v.place? path = some (name' :: dir') := hkeeps.place? (by rw [place?, hl'])
  obtain rfl : name :: dir = l := Option.some.inj (hv.symm.trans hplace)
  have hsame : name' :: dir' = name :: dir := Option.some.inj (hu.symm.trans hv)
  refine ⟨name :: dir,hplace,hread,?_,hfile,?_⟩
  · intro hd
    exact hroom (hsame ▸ h.keepsDirs.directory _ hd)
  · intro k hk
    rcases h.kept k with he | ⟨hn,hd,above,ha,hp⟩
    · exact .inl ((hothers k hk).trans he)
    · exact .inr ⟨hn,(hothers k hk).trans hd,above,ha,hkeeps.place? hp⟩

end Tree

namespace Disk

theorem run_save_cases (r : Rehearsal) (path text : Text) :
    (∃ e r', (Rehearsal.disk.save Rehearsal.client.log path text).run r = (.error e,r') ∧
      Tree.Grown (Path.parents path) r.tree r'.tree) ∨
    ∃ l r', (Rehearsal.disk.save Rehearsal.client.log path text).run r = (.ok (Utf8.encode text).length,r') ∧
      Tree.Saved path (Utf8.encode text) r.tree r'.tree l := by
  rcases run_save r path text with ⟨e,u,hs,hg⟩ | ⟨u,v,hg,hw,hs⟩
  · exact .inl ⟨e,_,hs,hg⟩
  · obtain ⟨l,hl⟩ := hg.saved hw
    exact .inr ⟨l,_,hs,hl⟩

/-- What has been saved at a path is held by it, and nothing else is. -/
theorem run_holds_of_read? {r : Rehearsal} {path text : Text} (h : r.tree.read? path = .ok (Utf8.encode text))
    (other : Text) : (Rehearsal.disk.holds path other).run r = (.ok (decide (other = text)),r) := by
  have hsame : Utf8.encode text = Utf8.encode other ↔ other = text := Utf8.encode_inj.trans eq_comm
  rw [run_holds, h]
  simp only [comparison, hsame]

/-! ## Any number of saves -/

def saveAll {m : Type → Type} [Monad m] (disk : Disk m) (log : Log.Event → m Unit) : List (Text × Text) → m Unit
  | [] => return ()
  | (path,text) :: rest => do
    let _ ← disk.save log path text
    saveAll disk log rest

/-- The places that are reached by the saves that succeed, in order, each with its text. -/
def reached (r : Rehearsal) : List (Text × Text) → List (Location × Text)
  | [] => []
  | (path,text) :: rest =>
    let result := (Rehearsal.disk.save Rehearsal.client.log path text).run r
    match result.1, result.2.tree.place? path with
    | .ok _, some l => (l,text) :: reached result.2 rest
    | _, _ => reached result.2 rest

/-- The text of the last save that reaches a place. -/
def lastReached? (r : Rehearsal) (saves : List (Text × Text)) (l : Location) : Option Text :=
  (reached r saves).reverse.lookup l

section
variable {r r' : Rehearsal} {path text : Text}

theorem lastReached?_cons_of_error {e : TargetError}
    (h : (Rehearsal.disk.save Rehearsal.client.log path text).run r = (.error e,r')) (rest : List (Text × Text))
    (l : Location) : lastReached? r ((path,text) :: rest) l = lastReached? r' rest l := by
  simp only [lastReached?, reached, h]

theorem lastReached?_cons_of_ok {n : Nat} {k : Location}
    (h : (Rehearsal.disk.save Rehearsal.client.log path text).run r = (.ok n,r')) (hk : r'.tree.place? path = some k)
    (rest : List (Text × Text)) (l : Location) :
    lastReached? r ((path,text) :: rest) l = (lastReached? r' rest l).or (if l = k then some text else none) := by
  simp only [lastReached?, reached, h, hk, List.reverse_cons, List.lookup_append]
  by_cases hl : l = k
  · simp [hl]
  · simp [List.lookup_cons, beq_eq_false_iff_ne.mpr hl, hl]

end

/-- After some saves, a place that they have reached holds the text of the last one that did, and everywhere else
there are the files that were there before. -/
theorem run_saveAll (saves : List (Text × Text)) (r : Rehearsal) (l : Location) :
    let after := ((Rehearsal.disk.saveAll Rehearsal.client.log saves).run r).2
    (∀ text, lastReached? r saves l = some text → after.tree.node? l = some (.file (Utf8.encode text))) ∧
    (lastReached? r saves l = none →
      ∀ content, after.tree.node? l = some (.file content) ↔ r.tree.node? l = some (.file content)) := by
  induction saves generalizing r with
  | nil => exact ⟨by simp [lastReached?, reached],fun _ content => Iff.rfl⟩
  | cons save rest ih =>
    obtain ⟨path,text⟩ := save
    rcases run_save_cases r path text with ⟨e,r',hrun,hgrown⟩ | ⟨k,r',hrun,hsaved⟩
    · obtain ⟨hlast,hnone⟩ := ih r'
      simp only [saveAll, run_bind, hrun, lastReached?_cons_of_error hrun]
      exact ⟨hlast,fun h content => (hnone h content).trans (hgrown.file_iff l content)⟩
    · obtain ⟨hlast,hnone⟩ := ih r'
      simp only [saveAll, run_bind, hrun, lastReached?_cons_of_ok hrun hsaved.place]
      cases hrest : lastReached? r' rest l with
      | some last =>
        refine ⟨?_,by simp⟩
        intro text h
        exact hlast text (hrest.trans h)
      | none =>
        by_cases hk : l = k
        · rw [if_pos hk, Option.none_or]
          refine ⟨?_,by simp⟩
          intro text h
          cases h
          exact (hnone hrest _).mpr (hk ▸ hsaved.file)
        · rw [if_neg hk]
          exact ⟨by simp,fun _ content => (hnone hrest content).trans (hsaved.others l hk).file_iff⟩

/-- A save that succeeds answers with the number of bytes, and the target then holds the text and no other; where the
text could be written at once it does succeed, and does no more. All that was there is kept, but for the file that
the text has come to, and all that is new is this file and directories where the parents of its path lead. Of a save
that fails only such directories are new. A parent ends at a slash with a step of the path still before it. Comparing
changes nothing. After some saves, a file holds what the last one has left that reached it. -/
theorem save_framed (r : Rehearsal) (path text : Text) :
    let answer := ((Rehearsal.disk.save Rehearsal.client.log path text).run r).1
    let after := ((Rehearsal.disk.save Rehearsal.client.log path text).run r).2
    (∀ n, answer = .ok n → n = (Utf8.encode text).length ∧
      (∃ l, Tree.Saved path (Utf8.encode text) r.tree after.tree l) ∧
      ∀ other, (Rehearsal.disk.holds path other).run after = (.ok (decide (other = text)),after)) ∧
    (∀ e, answer = .error e → Tree.Grown (Path.parents path) r.tree after.tree) ∧
    (∀ above ∈ Path.parents path, Path.Names path above) ∧
    (∀ u, r.tree.write? path (Utf8.encode text) = .ok u → (∃ n, answer = .ok n) ∧ after.tree = u) ∧
    (∀ other, ((Rehearsal.disk.holds path other).run r).2 = r) ∧
    ∀ saves l,
      let last := ((Rehearsal.disk.saveAll Rehearsal.client.log saves).run r).2
      (∀ text, lastReached? r saves l = some text → last.tree.node? l = some (.file (Utf8.encode text))) ∧
      (lastReached? r saves l = none →
        ∀ content, last.tree.node? l = some (.file content) ↔ r.tree.node? l = some (.file content)) := by
  intro answer after
  refine ⟨?_,?_,fun _ => Path.names_of_mem_parents,?_,?_,fun saves l => run_saveAll saves r l⟩
  · intro n h
    rcases run_save_cases r path text with ⟨e,r',hrun,_⟩ | ⟨l,r',hrun,hsaved⟩
    · have he : answer = .error e := congrArg Prod.fst hrun
      rw [h] at he
      cases he
    · have hn : answer = .ok (Utf8.encode text).length := congrArg Prod.fst hrun
      have ha : after = r' := congrArg Prod.snd hrun
      rw [ha]
      exact ⟨Except.ok.inj (h.symm.trans hn),⟨l,hsaved⟩,run_holds_of_read? hsaved.read⟩
  · intro e h
    rcases run_save_cases r path text with ⟨e',r',hrun,hgrown⟩ | ⟨l,r',hrun,_⟩
    · have ha : after = r' := congrArg Prod.snd hrun
      rw [ha]
      exact hgrown
    · have hn : answer = .ok (Utf8.encode text).length := congrArg Prod.fst hrun
      rw [h] at hn
      cases hn
  · intro u h
    have hrun := run_save_of_write? r h
    exact ⟨⟨_,congrArg Prod.fst hrun⟩,congrArg (·.2.tree) hrun⟩
  · intro other
    rw [run_holds]

/-- One file, and a place beside it that is written twice, with a save between that fails. -/
def oneFile : Rehearsal := Rehearsal.of ⟨[(["old".toList],.file [1])],[]⟩ fun _ _ => .noReply []

def threeSaves : List (Text × Text) :=
  [("new/page".toList,"a".toList), ("new/page/".toList,"b".toList), ("./new//page".toList,"c".toList)]

/-- A slash at the end of the path keeps the file from being written, but not the directory above it from being made,
and at the place of the file there is nothing then. The last save finds the same place by another path. -/
theorem saves_oneFile :
    (∃ l, Tree.Saved "new/page".toList [0x61] oneFile.tree
      ((Rehearsal.disk.save Rehearsal.client.log "new/page".toList "a".toList).run oneFile).2.tree l) ∧
    (∀ other, (Rehearsal.disk.holds "new/page".toList other).run
        ((Rehearsal.disk.save Rehearsal.client.log "new/page".toList "a".toList).run oneFile).2 =
      (.ok (decide (other = "a".toList)),
        ((Rehearsal.disk.save Rehearsal.client.log "new/page".toList "a".toList).run oneFile).2)) ∧
    (let failed := ((Rehearsal.disk.save Rehearsal.client.log "new/page/".toList "b".toList).run oneFile).2.tree
     Tree.Grown ["new".toList] oneFile.tree failed ∧ failed.node? ["new".toList] = some .directory ∧
       failed.node? ["page".toList,"new".toList] = none) ∧
    Path.Names "new/page/".toList "new".toList ∧
    ((Rehearsal.disk.saveAll Rehearsal.client.log threeSaves).run oneFile).2.tree.node? ["page".toList,"new".toList] =
      some (.file [0x63]) := by
  obtain ⟨hsaved,_⟩ := save_framed oneFile "new/page".toList "a".toList
  obtain ⟨_,hfailed,hnames,_,_,hlast⟩ := save_framed oneFile "new/page/".toList "b".toList
  refine ⟨(hsaved 1 rfl).2.1,(hsaved 1 rfl).2.2,
    ⟨hfailed ⟨.write,"new/page/".toList,.isADirectory⟩ rfl,by decide +kernel,by decide +kernel⟩,
    hnames "new".toList (by decide +kernel),?_⟩
  exact (hlast threeSaves ["page".toList,"new".toList]).1 "c".toList (by decide +kernel)

end Disk
end BookTheme.Files
