import BookTheme.Files.Tree

/-! # Trees that grow

Paths are followed over directories only. So a path that leads somewhere still leads there when there are
more directories, or when a file is written where no directory is. A tree grows along some paths if
directories are made where these lead and nothing else happens.
-/
namespace BookTheme.Files.Tree

def place? (t : Tree) (path : Text) : Option Location :=
  match t.locate path with
  | .ok (dir,some name) => some (name :: dir)
  | .ok (dir,none) => some dir
  | .error _ => none

theorem node?_put (t : Tree) {l : Location} (hl : l ≠ []) (node : Node) (k : Location) :
    (t.put l node).node? k = if k = l then some node else t.node? k := by
  by_cases hk : k = l
  · subst hk
    simp [node?, put, hl]
  · simp [node?, put, hk, find?_insert_of_ne node t.entries (Ne.symm hk)]

/-- Every directory of a tree is one of another, which is seen from the same place. -/
structure KeepsDirs (t u : Tree) : Prop where
  workingDir : u.workingDir = t.workingDir
  directory : ∀ l, t.node? l = some .directory → u.node? l = some .directory

theorem keepsDirs_put {t : Tree} {l : Location} {node : Node} (hl : l ≠ [])
    (h : t.node? l = some .directory → node = .directory) : KeepsDirs t (t.put l node) := by
  refine ⟨rfl,?_⟩
  intro k hk
  rw [node?_put t hl]
  split
  · rename_i he
    rw [h (he ▸ hk)]
  · exact hk

namespace KeepsDirs
variable {t u v : Tree}

theorem trans (h : KeepsDirs t u) (g : KeepsDirs u v) : KeepsDirs t v where
  workingDir := g.workingDir.trans h.workingDir
  directory := fun l hl => g.directory l (h.directory l hl)

theorem enter (h : KeepsDirs t u) {l k : Location} {step : Step} (he : t.enter l step = .ok k) :
    u.enter l step = .ok k := by
  cases step with
  | stay => exact he
  | up => exact he
  | into name =>
    simp only [Tree.enter] at he ⊢
    split at he
    · cases he
    · rename_i hb
      rw [if_neg hb]
      split at he
      · rename_i hd
        rw [h.directory _ hd]
        exact he
      · cases he
      · cases he

theorem foldlM_enter (h : KeepsDirs t u) {steps : List Step} {l k : Location}
    (he : steps.foldlM t.enter l = .ok k) : steps.foldlM u.enter l = .ok k := by
  induction steps generalizing l with
  | nil => exact he
  | cons step steps ih =>
    rw [List.foldlM_cons] at he ⊢
    cases hs : t.enter l step with
    | error e =>
      rw [hs] at he
      cases he
    | ok j =>
      rw [hs] at he
      rw [h.enter hs]
      exact ih he

theorem follow (h : KeepsDirs t u) {path : Text} {x : Location × Option Text} (hf : t.follow path = .ok x) :
    u.follow path = .ok x := by
  unfold Tree.follow at hf ⊢
  simp only at hf ⊢
  rw [h.workingDir]
  cases hd : (Path.steps path).dropLast.foldlM t.enter (if Path.isAbsolute path then [] else t.workingDir) with
  | error e =>
    rw [hd] at hf
    cases hf
  | ok dir =>
    rw [hd] at hf
    rw [h.foldlM_enter hd]
    cases hl : (Path.steps path).getLast? with
    | none =>
      rw [hl] at hf
      exact hf
    | some step =>
      rw [hl] at hf
      cases step with
      | into name => exact hf
      | stay => exact hf
      | up => exact hf

theorem locate (h : KeepsDirs t u) {path : Text} {x : Location × Option Text} (hp : t.locate path = .ok x) :
    u.locate path = .ok x := by
  unfold Tree.locate at hp ⊢
  split at hp
  · cases hp
  · split at hp
    · cases hp
    · split at hp
      · cases hp
      · rename_i h1 h2 h3
        rw [if_neg h1, if_neg h2, if_neg h3]
        exact h.follow hp

theorem place? (h : KeepsDirs t u) {path : Text} {l : Location} (hp : t.place? path = some l) :
    u.place? path = some l := by
  unfold Tree.place? at hp ⊢
  cases hl : t.locate path with
  | error e =>
    rw [hl] at hp
    cases hp
  | ok x =>
    rw [hl] at hp
    rw [h.locate hl]
    exact hp

end KeepsDirs

/-- What has been made of a tree if only directories were made, each where one of the paths leads. -/
structure Grown (paths : List Text) (t u : Tree) : Prop where
  workingDir : u.workingDir = t.workingDir
  node? : ∀ l, u.node? l = t.node? l ∨
    (t.node? l = none ∧ u.node? l = some .directory ∧ ∃ path ∈ paths, u.place? path = some l)

namespace Grown
variable {paths : List Text} {t u v : Tree}

theorem refl (paths : List Text) (t : Tree) : Grown paths t t := ⟨rfl,fun _ => Or.inl rfl⟩

theorem keepsDirs (h : Grown paths t u) : KeepsDirs t u := by
  refine ⟨h.workingDir,?_⟩
  intro l hl
  rcases h.node? l with he | ⟨hn,_⟩
  · rw [he, hl]
  · rw [hl] at hn
    cases hn

theorem mono {more : List Text} (h : Grown paths t u) (hs : ∀ path ∈ paths, path ∈ more) : Grown more t u := by
  refine ⟨h.workingDir,?_⟩
  intro l
  rcases h.node? l with he | ⟨hn,hd,path,hp,hl⟩
  · exact Or.inl he
  · exact Or.inr ⟨hn,hd,path,hs path hp,hl⟩

theorem trans (h : Grown paths t u) (g : Grown paths u v) : Grown paths t v := by
  refine ⟨g.workingDir.trans h.workingDir,?_⟩
  intro l
  rcases h.node? l with he | ⟨hn,hd,path,hp,hl⟩
  · rw [← he]
    exact g.node? l
  · exact Or.inr ⟨hn,g.keepsDirs.directory l hd,path,hp,g.keepsDirs.place? hl⟩

theorem file_iff (h : Grown paths t u) (l : Location) (content : Bytes) :
    u.node? l = some (.file content) ↔ t.node? l = some (.file content) := by
  rcases h.node? l with he | ⟨hn,hd,_⟩
  · rw [he]
  · simp [hn, hd]

end Grown

theorem makeDir?_eq_ok_iff {t u : Tree} {path : Text} :
    t.makeDir? path = .ok u ↔ ∃ dir name, t.locate path = .ok (dir,some name) ∧
      byteCount name ≤ maxNameBytes ∧ t.node? (name :: dir) = none ∧ u = t.put (name :: dir) .directory := by
  unfold makeDir?
  cases t.locate path with
  | error e => simp [bind, Except.bind]
  | ok x =>
    obtain ⟨dir,_ | name⟩ := x
    · simp [bind, Except.bind]
    · by_cases hb : maxNameBytes < byteCount name
      · simp [bind, Except.bind, hb, Nat.not_le.mpr hb]
      · have hle := Nat.le_of_not_lt hb
        cases hn : t.node? (name :: dir) <;> simp [bind, Except.bind, hb, hle, hn, and_assoc, @eq_comm _ u]

theorem write?_eq_ok_iff {t u : Tree} {path : Text} {content : Bytes} :
    t.write? path content = .ok u ↔ ∃ dir name, t.locate path = .ok (dir,some name) ∧
      Path.endsInSlash path = false ∧ byteCount name ≤ maxNameBytes ∧
      t.node? (name :: dir) ≠ some .directory ∧ u = t.put (name :: dir) (.file content) := by
  unfold write?
  cases t.locate path with
  | error e => simp [bind, Except.bind]
  | ok x =>
    obtain ⟨dir,_ | name⟩ := x
    · simp [bind, Except.bind]
    · by_cases hs : Path.endsInSlash path = true
      · simp [bind, Except.bind, hs]
      · by_cases hb : maxNameBytes < byteCount name
        · simp [bind, Except.bind, hs, hb, Nat.not_le.mpr hb]
        · have hle := Nat.le_of_not_lt hb
          by_cases hd : t.node? (name :: dir) = some .directory <;>
            simp [bind, Except.bind, hs, hb, hle, hd, and_assoc, @eq_comm _ u]

theorem grown_of_makeDir? {t u : Tree} {path : Text} (h : t.makeDir? path = .ok u) : Grown [path] t u := by
  obtain ⟨dir,name,hl,_,hn,rfl⟩ := makeDir?_eq_ok_iff.mp h
  have hne : name :: dir ≠ [] := by simp
  have hk : KeepsDirs t (t.put (name :: dir) .directory) := keepsDirs_put hne fun _ => rfl
  refine ⟨rfl,?_⟩
  intro l
  by_cases he : l = name :: dir
  · subst he
    refine Or.inr ⟨hn,?_,path,by simp,hk.place? (by simp [Tree.place?, hl])⟩
    simp [node?_put t hne]
  · exact Or.inl (by simp [node?_put t hne, he])

theorem keepsDirs_of_write? {t u : Tree} {path : Text} {content : Bytes} (h : t.write? path content = .ok u) :
    KeepsDirs t u := by
  obtain ⟨dir,name,_,_,_,hd,rfl⟩ := write?_eq_ok_iff.mp h
  exact keepsDirs_put (by simp) fun hn => absurd hn hd

/-- What is written can be read back, and nothing else has changed. -/
theorem written_of_write? {t u : Tree} {path : Text} {content : Bytes} (h : t.write? path content = .ok u) :
    u.read? path = .ok content ∧ ∃ l, u.place? path = some l ∧ ∀ k, k ≠ l → u.node? k = t.node? k := by
  have hk := keepsDirs_of_write? h
  obtain ⟨dir,name,hl,hs,hb,hd,rfl⟩ := write?_eq_ok_iff.mp h
  have hne : name :: dir ≠ [] := by simp
  have hu := hk.locate hl
  refine ⟨?_,name :: dir,by simp [place?, hu],?_⟩
  · simp [read?, hu, bind, Except.bind, Nat.not_lt.mpr hb, hs, node?_put t hne]
  · intro k hkl
    simp [node?_put t hne, hkl]

end BookTheme.Files.Tree
