import BookTheme.Proofs.Files.Saving
import Mathlib.Tactic.SplitIfs

/-! # The directory above a file

The parent of a path is found in the text of the path, and a path is followed through the tree. Where the
path leads to a file the two agree: the steps before the last lead into the directory that the parent names,
so there is nothing to make above the file, and saving only writes it. Saving what the file holds already
changes nothing then.
-/
namespace BookTheme.Files
open Rehearsal (run_bind run_isDir run_makeDir run_write)

namespace Path

theorem steps_append_slash (front back : Text) : steps (front ++ '/' :: back) = steps front ++ steps back := by
  rw [steps, List.splitOn_append_cons_self, List.filterMap_append]
  rfl

theorem steps_of_not_mem {part : Text} (h : '/' ∉ part) : steps part = (step? part).toList := by
  rw [steps, List.splitOn_eq_singleton h]
  cases hs : step? part <;> simp [hs]

theorem not_slash_of_not_mem {part : Text} (h : '/' ∉ part) : ∀ c ∈ part, decide (c ≠ '/') = true := by
  intro c hc
  apply decide_eq_true
  rintro rfl
  exact h hc

theorem step?_eq_into {part name : Text} (h : step? part = some (.into name)) :
    part = name ∧ name ≠ [] ∧ name ≠ ['.'] := by
  unfold step? at h
  split at h
  · cases h
  · rename_i h1
    split at h
    · cases h
    · rename_i h2
      split at h
      · cases h
      · cases h
        exact ⟨rfl,by simpa using h1,h2⟩

theorem isAbsolute_append {front : Text} (h : front ≠ []) (back : Text) :
    isAbsolute (front ++ back) = isAbsolute front := by
  cases front with
  | nil => exact absurd rfl h
  | cons c front => rfl

/-- A path that ends with a step into a name, and not with a slash, ends with the name as it is. -/
theorem exists_front {path name : Text} (hs : endsInSlash path = false)
    (h : (steps path).getLast? = some (.into name)) :
    ∃ front, path = front ++ name ∧ steps front = (steps path).dropLast ∧ '/' ∉ name ∧ name ≠ [] ∧ name ≠ ['.'] ∧
      ∀ c ∈ front.getLast?, c = '/' := by
  by_cases hm : '/' ∈ path
  · obtain ⟨back,front,hp,hb⟩ := List.eq_append_cons_of_mem (List.mem_reverse.mpr hm)
    have hpath : path = front.reverse ++ '/' :: back.reverse := by
      rw [← List.reverse_reverse path, hp]
      simp
    have hb' : '/' ∉ back.reverse := by simpa using hb
    rw [hpath, steps_append_slash, steps_of_not_mem hb'] at h ⊢
    cases hstep : step? back.reverse with
    | none =>
      have hnil : back.reverse = [] := by
        unfold step? at hstep
        split_ifs at hstep with h1
        simpa using h1
      rw [hpath, hnil] at hs
      simp [endsInSlash] at hs
    | some step =>
      rw [hstep] at h
      simp only [Option.toList_some, List.getLast?_append, List.getLast?_singleton, Option.some_or,
        Option.some.injEq] at h
      subst h
      obtain ⟨hname,hne,hdot⟩ := step?_eq_into hstep
      refine ⟨front.reverse ++ ['/'],by simp [hname],?_,hname ▸ hb',hne,hdot,by simp⟩
      rw [steps_append_slash, Option.toList_some, List.dropLast_concat]
      exact List.append_nil _
  · rw [steps_of_not_mem hm] at h ⊢
    cases hstep : step? path with
    | none =>
      rw [hstep] at h
      cases h
    | some step =>
      rw [hstep] at h
      cases h
      obtain ⟨rfl,hne,hdot⟩ := step?_eq_into hstep
      exact ⟨[],rfl,rfl,hm,hne,hdot,by simp⟩

theorem dropIdle_suffix (backwards : Text) : dropIdle backwards <:+ backwards := by
  fun_induction dropIdle backwards with
  | case1 rest ih => exact ih.trans (List.suffix_cons _ _)
  | case2 rest ih => exact ih.trans ((List.suffix_cons _ _).trans (List.suffix_cons _ _))
  | case3 => exact List.suffix_refl _

/-- What is idle at the end of a path leads nowhere. -/
theorem exists_steps_dropIdle (backwards : Text) :
    ∃ n, steps backwards.reverse = steps (dropIdle backwards).reverse ++ List.replicate n .stay := by
  fun_induction dropIdle backwards with
  | case1 rest ih =>
    obtain ⟨n,ih⟩ := ih
    refine ⟨n,?_⟩
    rw [List.reverse_cons, steps_append_slash, ih]
    exact List.append_nil _
  | case2 rest ih =>
    obtain ⟨n,ih⟩ := ih
    refine ⟨n + 1,?_⟩
    have hdot : steps ['.'] = [.stay] := by decide
    rw [List.reverse_cons, List.reverse_cons, List.append_assoc, List.singleton_append, steps_append_slash, ih, hdot,
      List.append_assoc, ← List.replicate_succ']
  | case3 => exact ⟨0,by simp⟩

/-- A name at the end of a path is not idle. -/
theorem dropIdle_name_append {name : Text} (hn : '/' ∉ name) (hne : name ≠ []) (hdot : name ≠ ['.'])
    (above : Text) : dropIdle (name.reverse ++ above) = name.reverse ++ above := by
  have hn' : '/' ∉ name.reverse := by simpa using hn
  have hdot' : name.reverse ≠ ['.'] := by simpa using hdot
  have hne' : name.reverse ≠ [] := by simpa using hne
  generalize name.reverse = back at hn' hdot' hne'
  cases back with
  | nil => exact absurd rfl hne'
  | cons c back =>
    simp only [List.mem_cons, not_or] at hn'
    rw [List.cons_append, dropIdle]
    · intro rest h
      exact hn'.1 (List.cons.inj h).1.symm
    · intro rest h
      obtain ⟨rfl,hb⟩ := List.cons.inj h
      cases back with
      | nil => exact hdot' rfl
      | cons d back => exact hn'.2 (List.mem_cons.mpr (.inl (List.cons.inj hb).1.symm))

/-- The parent of a path that ends with a name is what stands before the name, without what is idle there. -/
theorem parent?_append {front name : Text} (hn : '/' ∉ name) (hne : name ≠ []) (hdot : name ≠ ['.'])
    (hf : ∀ c ∈ front.getLast?, c = '/') :
    parent? (front ++ name) =
      match dropIdle front.reverse with
      | [] => some (if isAbsolute (front ++ name) then ['/'] else [])
      | above => some above.reverse := by
  have hdrop : (name.reverse ++ front.reverse).dropWhile (· ≠ '/') = front.reverse := by
    rw [List.dropWhile_append_of_pos (not_slash_of_not_mem (by simpa using hn))]
    cases hb : front.reverse with
    | nil => rfl
    | cons c back =>
      have hc : c = '/' := hf c (by rw [← List.head?_reverse, hb]; rfl)
      simp [hc]
  have hcons : name.reverse ++ front.reverse ≠ [] := by simp [hne]
  rw [parent?, List.reverse_append, dropIdle_name_append hn hne hdot]
  split
  · rename_i h
    exact absurd h hcons
  · cases habove : dropIdle front.reverse <;> simp only [hdrop, habove]

end Path

namespace Tree
variable {t : Tree}

theorem foldlM_enter_stay (l : Location) (n : Nat) : (List.replicate n Step.stay).foldlM t.enter l = .ok l := by
  induction n with
  | zero => rfl
  | succ n ih => exact ih

theorem foldlM_enter_of_append_stay {steps : List Step} {n : Nat} {root l : Location}
    (h : (steps ++ List.replicate n Step.stay).foldlM t.enter root = .ok l) :
    steps.foldlM t.enter root = .ok l := by
  rw [List.foldlM_append] at h
  cases hs : steps.foldlM t.enter root with
  | error e =>
    rw [hs] at h
    cases h
  | ok k =>
    rw [hs] at h
    exact (foldlM_enter_stay k n).symm.trans h

theorem byteCount_append (a b : Text) : byteCount (a ++ b) = byteCount a + byteCount b := by
  simp [byteCount]

theorem enter_into_eq_ok {dir l : Location} {name : Text} (h : t.enter dir (.into name) = .ok l) :
    ¬ maxNameBytes < byteCount name ∧ t.node? (name :: dir) = some .directory := by
  rw [enter] at h
  split at h
  · cases h
  · rename_i hb
    refine ⟨hb,?_⟩
    split at h
    · assumption
    · cases h
    · cases h

/-- A path of which all steps can be taken ends where they lead, or with the last of them still to be taken. -/
theorem follow_of_steps {path : Text} {l : Location}
    (hl : (Path.steps path).foldlM t.enter (if Path.isAbsolute path then [] else t.workingDir) = .ok l) :
    t.follow path = .ok (l,none) ∨
      ∃ dir name, t.follow path = .ok (dir,some name) ∧ t.enter dir (.into name) = .ok l := by
  generalize hroot : (if Path.isAbsolute path then [] else t.workingDir) = root at hl
  rcases List.eq_nil_or_concat (Path.steps path) with hs | ⟨steps,step,hs⟩
  · rw [hs] at hl
    cases hl
    exact .inl (by simp [follow, hroot, hs, bind, Except.bind, pure, Except.pure])
  · obtain ⟨dir,hdir,hstep⟩ : ∃ dir, steps.foldlM t.enter root = .ok dir ∧ t.enter dir step = .ok l := by
      rw [hs, List.concat_eq_append, List.foldlM_append] at hl
      cases hd : steps.foldlM t.enter root with
      | error e =>
        rw [hd] at hl
        cases hl
      | ok dir =>
        rw [hd] at hl
        have hl : (t.enter dir step >>= pure) = .ok l := hl
        rw [bind_pure] at hl
        exact ⟨dir,rfl,hl⟩
    cases step with
    | into name => exact .inr ⟨dir,name,by simp [follow, hroot, hs, hdir, bind, Except.bind],hstep⟩
    | stay | up =>
      left
      simp [follow, hroot, hs, hdir, hstep, bind, Except.bind, Functor.map, Except.map]

/-- Where all steps of a path lead, there is a directory, and none can be made. -/
theorem isDir_of_steps {path : Text} {l : Location} (hnul : path.any (· = '\x00') = false)
    (hlen : byteCount path ≤ maxPathBytes) (hne : path ≠ [])
    (hl : (Path.steps path).foldlM t.enter (if Path.isAbsolute path then [] else t.workingDir) = .ok l) :
    t.isDir path = true ∧ t.makeDir? path = .error .alreadyExists := by
  have hlocate : t.locate path = t.follow path := by
    rw [locate, hnul, if_neg Bool.false_ne_true, if_neg (Nat.not_lt.mpr hlen), if_neg (by simpa using hne)]
  rw [isDir, makeDir?, hlocate]
  rcases follow_of_steps hl with hf | ⟨dir,name,hf,hstep⟩
  · rw [hf]
    exact ⟨rfl,rfl⟩
  · obtain ⟨hb,hd⟩ := enter_into_eq_ok hstep
    rw [hf]
    simp [bind, Except.bind, hb, hd]

theorem locate_eq_ok {path : Text} {x : Location × Option Text} (h : t.locate path = .ok x) :
    path.any (· = '\x00') = false ∧ byteCount path ≤ maxPathBytes ∧ path ≠ [] ∧ t.follow path = .ok x := by
  unfold locate at h
  split at h
  · cases h
  · rename_i h1
    split at h
    · cases h
    · rename_i h2
      split at h
      · cases h
      · rename_i h3
        exact ⟨Bool.eq_false_iff.mpr h1,Nat.le_of_not_lt h2,by simpa using h3,h⟩

theorem follow_eq_into {path name : Text} {dir : Location} (h : t.follow path = .ok (dir,some name)) :
    (Path.steps path).getLast? = some (.into name) ∧
      (Path.steps path).dropLast.foldlM t.enter (if Path.isAbsolute path then [] else t.workingDir) = .ok dir := by
  unfold follow at h
  simp only at h
  cases hd : (Path.steps path).dropLast.foldlM t.enter (if Path.isAbsolute path then [] else t.workingDir) with
  | error e =>
    rw [hd] at h
    cases h
  | ok dir' =>
    rw [hd] at h
    cases hl : (Path.steps path).getLast? with
    | none =>
      rw [hl] at h
      cases h
    | some step =>
      rw [hl] at h
      cases step with
      | into name' =>
        cases h
        exact ⟨rfl,rfl⟩
      | stay => cases h
      | up =>
        simp only [bind, Except.bind, enter, Functor.map, Except.map] at h
        cases h

theorem read?_eq_ok_iff {path : Text} {content : Bytes} :
    t.read? path = .ok content ↔ ∃ dir name, t.locate path = .ok (dir,some name) ∧
      Path.endsInSlash path = false ∧ byteCount name ≤ maxNameBytes ∧
      t.node? (name :: dir) = some (.file content) := by
  constructor
  · intro h
    unfold read? at h
    cases hl : t.locate path with
    | error e =>
      rw [hl] at h
      cases h
    | ok x =>
      rw [hl] at h
      obtain ⟨dir,_ | name⟩ := x
      · cases h
      · simp only [bind, Except.bind] at h
        split at h
        · cases h
        · rename_i hb
          split at h
          · cases h
          · cases h
          · rename_i given hn
            split at h
            · cases h
            · rename_i hs
              cases h
              exact ⟨dir,name,rfl,Bool.eq_false_iff.mpr hs,Nat.le_of_not_lt hb,hn⟩
  · rintro ⟨dir,name,hl,hs,hb,hn⟩
    simp [read?, hl, bind, Except.bind, Nat.not_lt.mpr hb, hn, hs]

/-- Above the place of a file there is the directory that the path of the file names as its parent, if it names
one. -/
theorem isDir_parent_of_locate {path name : Text} {dir : Location} (hl : t.locate path = .ok (dir,some name))
    (hs : Path.endsInSlash path = false) :
    ∃ above, Path.parent? path = some above ∧
      (above ≠ [] → t.isDir above = true ∧ t.makeDir? above = .error .alreadyExists) := by
  obtain ⟨hnul,hlen,hne,hf⟩ := locate_eq_ok hl
  obtain ⟨hlast,hdir⟩ := follow_eq_into hf
  obtain ⟨front,rfl,hsteps,hn,hname,hdot,hfront⟩ := Path.exists_front hs hlast
  rw [Path.parent?_append hn hname hdot hfront]
  obtain ⟨n,hidle⟩ := Path.exists_steps_dropIdle front.reverse
  obtain ⟨rest,hrest⟩ := Path.dropIdle_suffix front.reverse
  rw [List.reverse_reverse, hsteps] at hidle
  cases hback : Path.dropIdle front.reverse with
  | nil =>
    refine ⟨_,rfl,?_⟩
    intro hne
    cases habs : Path.isAbsolute (front ++ name) with
    | false =>
      rw [habs] at hne
      exact absurd rfl hne
    | true => exact isDir_of_steps rfl (by decide) (by simp) rfl
  | cons c back =>
    refine ⟨_,rfl,?_⟩
    intro hne
    rw [hback] at hidle hrest
    have hpath : front ++ name = (c :: back).reverse ++ (rest.reverse ++ name) := by
      rw [← List.append_assoc, ← List.reverse_append, hrest, List.reverse_reverse]
    have habs : Path.isAbsolute (front ++ name) = Path.isAbsolute (c :: back).reverse := by
      rw [hpath, Path.isAbsolute_append hne]
    rw [habs, hidle] at hdir
    rw [hpath, List.any_append, Bool.or_eq_false_iff] at hnul
    rw [hpath, byteCount_append] at hlen
    exact isDir_of_steps hnul.1 (by omega) hne (foldlM_enter_of_append_stay hdir)

theorem write?_of_read? {path : Text} {content : Bytes} (h : t.read? path = .ok content) :
    t.write? path content = .ok t := by
  obtain ⟨dir,name,hl,hs,hb,hn⟩ := read?_eq_ok_iff.mp h
  have hput : t.put (name :: dir) (.file content) = t := by
    have hfind : find? (name :: dir) t.entries = some (.file content) := hn
    rw [put, insert_eq_self hfind]
  exact write?_eq_ok_iff.mpr ⟨dir,name,hl,hs,hb,by simp [hn],hput.symm⟩

theorem KeepsDirs.read? {u : Tree} (hk : KeepsDirs t u) {path : Text} {content : Bytes}
    (h : t.read? path = .ok content)
    (hf : ∀ l, u.place? path = some l → t.node? l = some (.file content) → u.node? l = some (.file content)) :
    u.read? path = .ok content := by
  obtain ⟨dir,name,hl,hs,hb,hn⟩ := read?_eq_ok_iff.mp h
  have hu := hk.locate hl
  have hplace : u.place? path = some (name :: dir) := by rw [Tree.place?, hu]
  exact read?_eq_ok_iff.mpr ⟨dir,name,hu,hs,hb,hf _ hplace hn⟩

end Tree

namespace Disk

theorem run_makeDirs_there (r : Rehearsal) {path : Text} (hd : r.tree.isDir path = true)
    (hm : r.tree.makeDir? path = .error .alreadyExists) (above : List Text) :
    (Rehearsal.disk.makeDirs (path :: above)).run r = (.ok (),r) := by
  unfold makeDirs
  rw [run_bind, run_makeDir, hm]
  simp only
  rw [run_bind, run_isDir, hd]
  rfl

/-- Where a text can be written, saving it does no more than that. -/
theorem run_save_of_write? (r : Rehearsal) {path text : Text} {u : Tree}
    (h : r.tree.write? path (Utf8.encode text) = .ok u) :
    (Rehearsal.disk.save Rehearsal.client.log path text).run r =
      (.ok (Utf8.encode text).length,
        Rehearsal.after { r with tree := u } 0 [.logged (.targetWritten path (Utf8.encode text).length)]) := by
  have hdirs : (Rehearsal.disk.makeDirs (Path.parents path)).run r = (.ok (),r) := by
    obtain ⟨dir,name,hl,hs,_⟩ := Tree.write?_eq_ok_iff.mp h
    obtain ⟨above,ha,hd⟩ := Tree.isDir_parent_of_locate hl hs
    rw [Path.parents, ha, Option.getD_some]
    cases above with
    | nil => rfl
    | cons c above =>
      obtain ⟨hd,hm⟩ := hd (by simp)
      exact run_makeDirs_there r hd hm _
  unfold save
  simp only [run_bind]
  rw [show Path.lineage ((Path.parent? path).getD []) = Path.parents path from rfl, hdirs]
  simp only [run_bind, run_write]
  rw [h]
  rfl

/-- Saving what a file holds changes nothing. -/
theorem run_save_of_read? (r : Rehearsal) {path text : Text} (h : r.tree.read? path = .ok (Utf8.encode text)) :
    (Rehearsal.disk.save Rehearsal.client.log path text).run r =
      (.ok (Utf8.encode text).length,r.after 0 [.logged (.targetWritten path (Utf8.encode text).length)]) :=
  run_save_of_write? r (Tree.write?_of_read? h)

end Disk
end BookTheme.Files
