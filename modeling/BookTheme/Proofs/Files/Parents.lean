import BookTheme.Proofs.Files.Above
import Mathlib.Data.List.TakeWhile

/-! # The parents of a path

The parents of a path are found in its text, from its end. Each of them is a beginning of the path in front of a
slash, or the root, and behind it there is still a step of the path to take. So a slash or a dot at the end of a
path does not make the path a parent of itself.
-/
namespace BookTheme.Files

namespace Path
variable {path middle above : Text}

/-- The beginnings of a path at its slashes from which the path still goes on, into a name or up. -/
def Names (path above : Text) : Prop :=
  above ≠ [] ∧ ∃ rest, (path = above ++ '/' :: rest ∨ above = ['/'] ∧ path = '/' :: rest) ∧
    ∃ step ∈ steps rest, step ≠ .stay

theorem Names.trans (h : Names path middle) (g : Names middle above) : Names path above := by
  obtain ⟨hne,rest,rfl | ⟨rfl,rfl⟩,step,hm,hstep⟩ := h
  · obtain ⟨hne',rest',hr,_⟩ := g
    refine ⟨hne',rest' ++ '/' :: rest,?_,step,?_,hstep⟩
    · rcases hr with rfl | ⟨rfl,rfl⟩
      · simp
      · exact .inr ⟨rfl,rfl⟩
    · rw [steps_append_slash]
      exact List.mem_append_right _ hm
  · obtain ⟨hne',rest',hr | ⟨rfl,_⟩,_⟩ := g
    · have hlen := congrArg List.length hr
      have hpos := List.length_pos_iff.mpr hne'
      simp at hlen
      omega
    · exact ⟨hne',rest,.inr ⟨rfl,rfl⟩,step,hm,hstep⟩

/-- What is left of a path without its idle end does not end idle. -/
theorem not_idle_dropIdle (backwards rest : Text) :
    dropIdle backwards ≠ '/' :: rest ∧ dropIdle backwards ≠ '.' :: '/' :: rest := by
  fun_induction dropIdle backwards with
  | case1 _ ih => exact ih
  | case2 _ ih => exact ih
  | case3 backwards h1 h2 => exact ⟨h1 rest,h2 rest⟩

theorem exists_slash_dropIdle (backwards : Text) : ∃ idle, '/' :: backwards = idle ++ '/' :: dropIdle backwards := by
  fun_induction dropIdle backwards with
  | case1 rest ih =>
    obtain ⟨idle,h⟩ := ih
    exact ⟨'/' :: idle,congrArg ('/' :: ·) h⟩
  | case2 rest ih =>
    obtain ⟨idle,h⟩ := ih
    exact ⟨'/' :: '.' :: idle,congrArg ('/' :: '.' :: ·) h⟩
  | case3 => exact ⟨[],rfl⟩

theorem step?_ne_stay {part : Text} (hne : part ≠ []) (hdot : part ≠ ['.']) :
    ∃ step, step? part = some step ∧ step ≠ .stay := by
  unfold step?
  rw [if_neg (by simpa using hne), if_neg hdot]
  split
  · exact ⟨.up,rfl,by simp⟩
  · exact ⟨.into part,rfl,by simp⟩

/-- A path is cut at the slash in front of its last name, and nothing idle is left in front of the slash. -/
theorem exists_slash_of_dropIdle {backwards name back : Text} (h : dropIdle backwards = name ++ '/' :: back)
    (hn : '/' ∉ name) : ∃ rest, backwards.reverse = (dropIdle back).reverse ++ '/' :: rest ∧
      ∃ step ∈ steps rest, step ≠ .stay := by
  obtain ⟨front,hfront⟩ := dropIdle_suffix backwards
  obtain ⟨idle,hidle⟩ := exists_slash_dropIdle back
  have hcut : backwards.reverse = (dropIdle back).reverse ++ '/' :: (front ++ name ++ idle).reverse := by
    rw [← hfront, h, hidle]
    simp
  refine ⟨_,hcut,?_⟩
  have hne : name.reverse ≠ [] := by
    intro he
    obtain rfl := List.reverse_eq_nil_iff.mp he
    exact (not_idle_dropIdle backwards back).1 h
  have hdot : name.reverse ≠ ['.'] := by
    intro he
    obtain rfl : name = ['.'] := List.reverse_eq_iff.mp he
    exact (not_idle_dropIdle backwards back).2 h
  obtain ⟨step,hstep,hstay⟩ := step?_ne_stay hne hdot
  obtain ⟨n,hn'⟩ := exists_steps_dropIdle backwards
  obtain ⟨m,hm⟩ := exists_steps_dropIdle back
  have hname : steps name.reverse = [step] := by rw [steps_of_not_mem (by simpa using hn), hstep, Option.toList_some]
  have hsteps : steps (dropIdle back).reverse ++ steps (front ++ name ++ idle).reverse =
      steps (dropIdle back).reverse ++ (List.replicate m .stay ++ ([step] ++ List.replicate n .stay)) := by
    rw [← steps_append_slash, ← hcut, hn', h, List.reverse_append, List.reverse_cons, List.append_assoc,
      List.singleton_append, steps_append_slash, hm, hname]
    simp
  refine ⟨step,?_,hstay⟩
  rw [List.append_cancel_left hsteps]
  simp

theorem mem_dropIdle_of_isAbsolute (habs : isAbsolute path = true) (h : dropIdle path.reverse ≠ []) :
    '/' ∈ dropIdle path.reverse := by
  obtain ⟨rest,rfl⟩ : ∃ rest, path = '/' :: rest := by
    cases path with
    | nil => cases habs
    | cons c rest => exact ⟨rest,by rw [Option.some.inj (of_decide_eq_true habs)]⟩
  have hlast : (dropIdle ('/' :: rest).reverse).getLast h = '/' := by
    rw [(dropIdle_suffix _).getLast h]
    simp
  have hm := List.getLast_mem h
  rwa [hlast] at hm

theorem eq_root_of_ne_nil (h : (if isAbsolute path then ['/'] else []) = above) (hne : above ≠ []) :
    isAbsolute path = true ∧ above = ['/'] := by
  subst h
  cases hp : isAbsolute path with
  | true => exact ⟨rfl,rfl⟩
  | false => simp [hp] at hne

/-- A path with a parent that has a name is cut at the slash behind the parent, or behind the root. -/
theorem exists_slash_of_parent? (h : parent? path = some above) (hne : above ≠ []) :
    ∃ front rest, path = front ++ '/' :: rest ∧ (∃ step ∈ steps rest, step ≠ .stay) ∧
      (front = above ∨ front = [] ∧ above = ['/']) := by
  unfold parent? at h
  split at h
  · cases h
  · rename_i hdrop
    by_cases hm : '/' ∈ dropIdle path.reverse
    · obtain ⟨name,back,hcut,hn⟩ := List.eq_append_cons_of_mem hm
      obtain ⟨rest,hrest,hstep⟩ := exists_slash_of_dropIdle hcut hn
      rw [List.reverse_reverse] at hrest
      refine ⟨_,rest,hrest,hstep,?_⟩
      have hback : (name ++ '/' :: back).dropWhile (· ≠ '/') = '/' :: back :=
        List.dropWhile_append_of_pos (not_slash_of_not_mem hn)
      rw [hcut, hback, dropIdle] at h
      cases hfront : dropIdle back with
      | nil =>
        rw [hfront] at h
        exact .inr ⟨rfl,(eq_root_of_ne_nil (Option.some.inj h) hne).2⟩
      | cons d front =>
        rw [hfront] at h
        exact .inl (Option.some.inj h)
    · have hnone : (dropIdle path.reverse).dropWhile (· ≠ '/') = [] :=
        List.dropWhile_eq_nil_iff.mpr (not_slash_of_not_mem hm)
      rw [hnone] at h
      exact absurd (mem_dropIdle_of_isAbsolute (eq_root_of_ne_nil (Option.some.inj h) hne).1 hdrop) hm

theorem names_of_parent? (h : parent? path = some above) (hne : above ≠ []) : Names path above := by
  obtain ⟨front,rest,rfl,hstep,rfl | ⟨rfl,rfl⟩⟩ := exists_slash_of_parent? h hne
  · exact ⟨hne,rest,.inl rfl,hstep⟩
  · exact ⟨hne,rest,.inr ⟨rfl,rfl⟩,hstep⟩

theorem names_of_mem_ancestors {fuel : Nat} (h : above ∈ ancestors fuel path) : above = path ∨ Names path above := by
  induction fuel generalizing path with
  | zero => cases h
  | succ fuel ih =>
    rw [ancestors] at h
    split at h
    · cases h
    · rcases List.mem_cons.mp h with rfl | h
      · exact .inl rfl
      · split at h
        · rename_i up hup
          right
          have hne : up ≠ [] := by
            rintro rfl
            cases fuel <;> simp [ancestors] at h
          rcases ih h with rfl | hnames
          · exact names_of_parent? hup hne
          · exact (names_of_parent? hup hne).trans hnames
        · cases h

theorem names_of_mem_parents (h : above ∈ parents path) : Names path above := by
  unfold parents at h
  cases hp : parent? path with
  | none =>
    rw [hp] at h
    cases h
  | some up =>
    rw [hp, Option.getD_some] at h
    have hne : up ≠ [] := by
      rintro rfl
      cases h
    rcases names_of_mem_ancestors h with rfl | hnames
    · exact names_of_parent? hp hne
    · exact (names_of_parent? hp hne).trans hnames

end Path

end BookTheme.Files
