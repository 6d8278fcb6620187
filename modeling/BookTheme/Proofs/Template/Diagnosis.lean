import BookTheme.Proofs.Template.Layout
import BookTheme.Proofs.Template.Progress
import BookTheme.Proofs.Update.Safety
import Mathlib.Data.List.Forall2
import Mathlib.Order.Bounds.Basic

/-! # What is wrong with a page that cannot be patched

A pass takes the first line that fits each phase. No other choice of lines comes further: a line that is
passed over could only have served the phase that waits, and that phase loses nothing by taking the first.
So a failure names the best that can be done with the page, unless the line that opens the scroll box has
the wrong shape. Then that line is named, whatever stands below it.
-/
namespace BookTheme.Template

/-- What a line must look like for the phase that waits for it. -/
def Phase.Met (f : Phase) (line : Text) : Prop :=
  match f with
  | .beforeSidebar => sidebarMark <:+: line
  | .beforeScrollbox => scrollboxMark <:+: line
  | .beforeToc => tocMark <:+: line
  | .inScrollbox => line.trim = scrollboxClose
  | .inSidebar => line.trim = sidebarClose
  | .afterSidebar => False

theorem Phase.awaits_eq_true_iff {f : Phase} {line : Text} : f.awaits line = true ↔ f.Met line := by
  cases f with
  | beforeSidebar => exact Text.contains_iff
  | beforeScrollbox => exact Text.contains_iff
  | beforeToc => exact Text.contains_iff
  | inScrollbox => exact decide_eq_true_iff
  | inSidebar => exact decide_eq_true_iff
  | afterSidebar => simp [awaits, Met]

theorem Phase.awaits_eq_false_iff {f : Phase} {line : Text} : f.awaits line = false ↔ ¬ f.Met line := by
  rw [← awaits_eq_true_iff, Bool.not_eq_true]

/-- Lines, one below the other, can be chosen for the next `k` anchors of a phase. -/
def Choosable (f : Phase) (lines : List Text) (k : Nat) : Prop :=
  List.SublistForall₂ Phase.Met ((Phase.all.drop f.rank).take k) lines

theorem Phase.ne_afterSidebar_of_met {f : Phase} {line : Text} (h : f.Met line) : f ≠ .afterSidebar :=
  ne_afterSidebar_of_awaits (awaits_eq_true_iff.mpr h)

theorem Phase.exists_drop_rank (f : Phase) : ∃ fs, all.drop f.rank = f :: fs := by
  cases f with
  | _ => exact ⟨_,rfl⟩

theorem Phase.drop_rank {f : Phase} (h : f ≠ .afterSidebar) : all.drop f.rank = f :: all.drop f.next.rank := by
  cases f with
  | afterSidebar => exact absurd rfl h
  | _ => rfl

theorem sublistForall₂_of_cons {α β : Type} {R : α → β → Prop} {a : α} {xs : List α} {ys : List β}
    (h : List.SublistForall₂ R (a :: xs) ys) : List.SublistForall₂ R xs ys := by
  generalize hl : a :: xs = l at h
  induction h with
  | nil => cases hl
  | cons _ h _ =>
    cases hl
    exact h.cons_right
  | cons_right _ ih => exact (ih hl).cons_right

theorem choosable_zero (f : Phase) (lines : List Text) : Choosable f lines 0 := List.SublistForall₂.nil

theorem choosable_nil_iff {f : Phase} {k : Nat} : Choosable f [] k ↔ k = 0 := by
  constructor
  · intro h
    cases k with
    | zero => rfl
    | succ k =>
      obtain ⟨fs,hf⟩ := f.exists_drop_rank
      rw [Choosable, hf, List.take_succ_cons] at h
      cases h
  · rintro rfl
    exact choosable_zero f []

theorem choosable_cons_of_met {f : Phase} {line : Text} (h : f.Met line) {rest : List Text} {k : Nat} :
    Choosable f (line :: rest) (k + 1) ↔ Choosable f.next rest k := by
  unfold Choosable
  rw [Phase.drop_rank (Phase.ne_afterSidebar_of_met h), List.take_succ_cons]
  constructor
  · intro hs
    cases hs with
    | cons _ hs => exact hs
    | cons_right hs => exact sublistForall₂_of_cons hs
  · exact fun hs => hs.cons h

theorem choosable_cons_of_not_met {f : Phase} {line : Text} (h : ¬ f.Met line) {rest : List Text} {k : Nat} :
    Choosable f (line :: rest) k ↔ Choosable f rest k := by
  cases k with
  | zero => exact iff_of_true (choosable_zero f _) (choosable_zero f _)
  | succ k =>
    obtain ⟨fs,hf⟩ := f.exists_drop_rank
    unfold Choosable
    rw [hf, List.take_succ_cons]
    constructor
    · intro hs
      cases hs with
      | cons hm _ => exact absurd hm h
      | cons_right hs => exact hs
    · exact fun hs => hs.cons_right

variable {ins : Insertions} {p q : Pass} {lines : List Text}

/-- A pass comes as far as any choice of lines. -/
theorem Pass.choosable_iff_of_readLines (h : p.readLines ins lines = .ok q) {k : Nat} :
    Choosable p.phase lines k ↔ p.phase.rank + k ≤ q.phase.rank := by
  induction lines generalizing p k with
  | nil =>
    cases h
    rw [choosable_nil_iff]
    omega
  | cons line rest ih =>
    rw [readLines] at h
    rcases readLine_cases ins p line with ⟨ha,hr⟩ | ⟨text,ha,_,hr⟩ | ⟨_,_,hr⟩
    · rw [hr] at h
      rw [choosable_cons_of_not_met (Phase.awaits_eq_false_iff.mp ha)]
      exact ih h
    · rw [hr] at h
      have hm : p.phase.Met line := Phase.awaits_eq_true_iff.mp ha
      have hn : p.phase.next.rank = p.phase.rank + 1 := Phase.rank_next (Phase.ne_afterSidebar_of_met hm)
      have hq : ∀ k, Choosable p.phase.next rest k ↔ p.phase.next.rank + k ≤ q.phase.rank := fun k => ih h
      cases k with
      | zero =>
        have hle := (hq 0).mp (choosable_zero _ _)
        exact iff_of_true (choosable_zero _ _) (by omega)
      | succ k =>
        rw [choosable_cons_of_met hm, hq]
        omega
    · rw [hr] at h
      cases h

theorem Pass.isGreatest_of_readLines (h : start.readLines ins lines = .ok q) :
    IsGreatest {k | Choosable .beforeSidebar lines k} q.phase.rank := by
  have hk : ∀ k, Choosable .beforeSidebar lines k ↔ 0 + k ≤ q.phase.rank := fun k => choosable_iff_of_readLines h
  constructor
  · exact (hk _).mpr (Nat.zero_add _).le
  · intro k hm
    have hle := (hk k).mp hm
    omega

theorem replacement?_eq_none_iff {line : Text} {f : Phase} :
    replacement? ins line f = none ↔ f = .beforeScrollbox ∧ ¬ ['>','\n'] <:+ line := by
  cases f with
  | beforeScrollbox =>
    constructor
    · intro h
      refine ⟨rfl,?_⟩
      rintro ⟨head,rfl⟩
      rw [replacement?_beforeScrollbox_eq_some_iff.mpr ⟨head,rfl,rfl⟩] at h
      cases h
    · rintro ⟨_,h⟩
      rw [Option.eq_none_iff_forall_ne_some]
      intro text ht
      obtain ⟨head,rfl,_⟩ := replacement?_beforeScrollbox_eq_some_iff.mp ht
      exact h (List.suffix_append head _)
  | _ => simp [replacement?]

/-- Only the line that opens the scroll box can stop a pass, so nothing stops it behind that. -/
theorem Pass.readLines_of_rank (ins : Insertions) (lines : List Text) (h : 2 ≤ p.phase.rank) :
    ∃ q, p.readLines ins lines = .ok q := by
  induction lines generalizing p with
  | nil => exact ⟨p,rfl⟩
  | cons line rest ih =>
    rw [readLines]
    rcases readLine_cases ins p line with ⟨_,hr⟩ | ⟨text,ha,_,hr⟩ | ⟨_,ht,_⟩
    · rw [hr]
      exact ih (p := p.through [line]) h
    · rw [hr]
      have hn := Phase.rank_next (Phase.ne_afterSidebar_of_awaits ha)
      exact ih (p := p.moved text) (by rw [phase_moved]; omega)
    · obtain ⟨hp,_⟩ := replacement?_eq_none_iff.mp ht
      rw [hp] at h
      exact absurd h (by decide)

/-- Line `n` is the first one with the mark of the scroll box below the first one with that of the sidebar,
and the end of a tag is not at its end. -/
def TornTag (lines : List Text) (n : Nat) : Prop :=
  ∃ above sidebar between line below, lines = above ++ sidebar :: (between ++ line :: below) ∧
    (∀ x ∈ above, ¬ sidebarMark <:+: x) ∧ sidebarMark <:+: sidebar ∧
    (∀ x ∈ between, ¬ scrollboxMark <:+: x) ∧ scrollboxMark <:+: line ∧
    ¬ ['>','\n'] <:+ line ∧ n = above.length + between.length + 2

theorem Pass.readLines_eq_error_iff {e : LayoutError} :
    start.readLines ins lines = .error e ↔ ∃ n, e = .scrollboxTail n ∧ TornTag lines n := by
  constructor
  · intro h
    rcases readLines_cases ins start lines with
      ⟨_,hr⟩ | ⟨above,sidebar,rest,rfl,ha,hs,⟨text,_,hr⟩ | ⟨ht,_⟩⟩
    · rw [hr] at h
      cases h
    · rw [hr] at h
      rcases readLines_cases ins ((start.through above).moved text) rest with
        ⟨_,hr⟩ | ⟨between,line,below,rfl,hb,hl,⟨text',_,hr⟩ | ⟨ht,hr⟩⟩
      · rw [hr] at h
        cases h
      · obtain ⟨q,hq⟩ := readLines_of_rank ins below
          (p := (((start.through above).moved text).through between).moved text') (Nat.le_refl 2)
        rw [hr, hq] at h
        cases h
      · rw [hr] at h
        refine ⟨_,(Except.error.inj h).symm,above,sidebar,between,line,below,rfl,
          fun x hx => contains_eq_false_iff.mp (ha x hx),Text.contains_iff.mp hs,
          fun x hx => contains_eq_false_iff.mp (hb x hx),Text.contains_iff.mp hl,
          (replacement?_eq_none_iff.mp ht).2,?_⟩
        simp only [lineCount_moved, lineCount_through, lineCount_start]
        omega
    · exact absurd (replacement?_eq_none_iff.mp ht).1 (by decide)
  · rintro ⟨n,rfl,above,sidebar,between,line,below,rfl,ha,hs,hb,hl,ht,rfl⟩
    have ha' : ∀ x ∈ above, Phase.beforeSidebar.awaits x = false := fun x hx => contains_eq_false_iff.mpr (ha x hx)
    have hb' : ∀ x ∈ between, Phase.beforeScrollbox.awaits x = false :=
      fun x hx => contains_eq_false_iff.mpr (hb x hx)
    rw [readLines_stretch ins phase_start ha' (Text.contains_iff.mpr hs) rfl,
      readLines_through ins (p := (start.through above).moved sidebar) hb',
      readLines_stuck ins (p := ((start.through above).moved sidebar).through between)
        (Text.contains_iff.mpr hl) (replacement?_eq_none_iff.mpr ⟨rfl,ht⟩)]
    simp only [lineCount_moved, lineCount_through, lineCount_start]
    congr 2
    omega

variable {text : Text}

theorem patch_of_readLines (h : Pass.start.readLines ins text.pieces = .ok q) : patch ins text = q.close := by
  rw [patch, readThrough, h]
  rfl

theorem patch_of_readLines_error {e : LayoutError} (h : Pass.start.readLines ins text.pieces = .error e) :
    patch ins text = .error e := by
  rw [patch, readThrough, h]
  rfl

theorem patch_eq_scrollboxTail_iff {n : Nat} :
    patch ins text = .error (.scrollboxTail n) ↔ TornTag text.pieces n := by
  constructor
  · intro h
    cases hr : Pass.start.readLines ins text.pieces with
    | error e =>
      obtain ⟨m,rfl,hm⟩ := Pass.readLines_eq_error_iff.mp hr
      rw [patch_of_readLines_error hr] at h
      cases h
      exact hm
    | ok q =>
      rw [patch_of_readLines hr] at h
      by_cases hf : q.phase = .afterSidebar
      · rw [Pass.close_of_final hf] at h
        cases h
      · rw [Pass.close_of_not_final hf] at h
        cases h
  · intro hn
    exact patch_of_readLines_error (Pass.readLines_eq_error_iff.mpr ⟨n,rfl,hn⟩)

theorem exists_isGreatest_of_not_tornTag (h : ∀ n, ¬ TornTag text.pieces n) (ins : Insertions) :
    ∃ f : Phase, IsGreatest {k | Choosable .beforeSidebar text.pieces k} f.rank ∧
      if f = .afterSidebar then ∃ out, patch ins text = .ok out else patch ins text = .error (.endedIn f) := by
  cases hr : Pass.start.readLines ins text.pieces with
  | error e =>
    obtain ⟨n,_,hn⟩ := Pass.readLines_eq_error_iff.mp hr
    exact absurd hn (h n)
  | ok q =>
    refine ⟨q.phase,Pass.isGreatest_of_readLines hr,?_⟩
    rw [patch_of_readLines hr]
    by_cases hf : q.phase = .afterSidebar
    · rw [if_pos hf]
      exact ⟨_,Pass.close_of_final hf⟩
    · rw [if_neg hf]
      exact Pass.close_of_not_final hf

/-- A page, cut into its lines, fails with the line that opens the scroll box exactly if that has the wrong shape.
Otherwise the most anchors that a choice of lines can have say how far a run comes: the page is patched if they are
five, and else the failure names the phase that they lead to. A run reports every failure as one of the layout, with
the revision, and never as another problem with the template. -/
theorem patch_diagnosis (ins : Insertions) (text : Text) :
    (text.pieces.flatten = text ∧ Text.Cut text.pieces) ∧
    (∀ n, patch ins text = .error (.scrollboxTail n) ↔ TornTag text.pieces n) ∧
    ((∀ n, ¬ TornTag text.pieces n) →
      ∃ f : Phase, IsGreatest {k | Choosable .beforeSidebar text.pieces k} f.rank ∧
        if f = .afterSidebar then ∃ out, patch ins text = .ok out else patch ins text = .error (.endedIn f)) ∧
    (∀ e, patch ins text = .error e → (Problem.layout e).concernsLayout = true) ∧
    (∀ (r : Rehearsal) (source : Source) (retry : Retry) (revision : Text) (attempts : Nat),
      ((Update.patch Rehearsal.host ⟨source,retry,ins⟩ ⟨revision,text,attempts⟩).run r).1 =
        match patch ins text with
        | .ok out => .ok out.text
        | .error e => .error (.layout revision (.layout e))) ∧
    ∀ (r : Rehearsal) (home : Text) (arguments : List Text) (problem : Problem),
      ((Update.run Rehearsal.host home arguments).run r).1 ≠ .failed (.template problem) := by
  refine ⟨⟨Text.flatten_pieces text,Text.cut_pieces text⟩,fun _ => patch_eq_scrollboxTail_iff,
    fun h => exists_isGreatest_of_not_tornTag h ins,fun _ _ => rfl,?_,?_⟩
  · intro r source retry revision attempts
    obtain ⟨r',hp,_⟩ := Update.run_patch r ⟨source,retry,ins⟩ ⟨revision,text,attempts⟩
    exact congrArg Prod.fst hp
  · intro r home arguments problem
    exact Update.run_ne_template home r arguments problem

def tornPage : Text :=
  ("<nav id=\"sidebar\">\n<div class=\"sidebar-scrollbox\">\r\n\x7b\x7b#toc\x7d\x7d\x7b\x7b/toc\x7d\x7d\n" ++
    "</div>\n</nav>\n").toList

def swappedPage : Text :=
  ("<nav id=\"sidebar\">\n\x7b\x7b#toc\x7d\x7d\x7b\x7b/toc\x7d\x7d\n<div class=\"sidebar-scrollbox\">\n" ++
    "</div>\n</nav>\n").toList

theorem swappedPage_diagnosis :
    patch Default.insertions tornPage = .error (.scrollboxTail 2) ∧
    patch Default.insertions swappedPage = .error (.endedIn .beforeToc) ∧
    IsGreatest {k | Choosable .beforeSidebar swappedPage.pieces k} 2 ∧
    ∀ r source retry revision,
      ((Update.patch Rehearsal.host ⟨source,retry,Default.insertions⟩ ⟨revision,swappedPage,1⟩).run r).1 =
        .error (.layout revision (.layout (.endedIn .beforeToc))) := by
  obtain ⟨_,htorn,_⟩ := patch_diagnosis Default.insertions tornPage
  obtain ⟨_,htail,hbest,_,hrun,_⟩ := patch_diagnosis Default.insertions swappedPage
  have hswapped : patch Default.insertions swappedPage = .error (.endedIn .beforeToc) := by decide +kernel
  refine ⟨?_,hswapped,?_,?_⟩
  · refine (htorn 2).mpr ⟨[],_,[],"<div class=\"sidebar-scrollbox\">\r\n".toList,_,rfl,by simp,?_,by simp,?_,?_,rfl⟩
    · exact Text.contains_iff.mp rfl
    · exact Text.contains_iff.mp rfl
    · decide
  · have hwhole : ∀ n, ¬ TornTag swappedPage.pieces n := by
      intro n hn
      have h := (htail n).mpr hn
      rw [hswapped] at h
      cases h
    obtain ⟨f,hf,hif⟩ := hbest hwhole
    rw [hswapped] at hif
    split at hif
    · obtain ⟨out,h⟩ := hif
      cases h
    · cases hif
      exact hf
  · intro r source retry revision
    rw [hrun, hswapped]

end BookTheme.Template
