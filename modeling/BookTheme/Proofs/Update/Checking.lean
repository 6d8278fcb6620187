import BookTheme.Proofs.CommandLine.Checking
import BookTheme.Proofs.Files.Above
import BookTheme.Proofs.Update.Preparation
import BookTheme.Proofs.Update.Safety

/-! # Checking tells what writing would do

A run that checks goes as far as its target like the run that writes. There it is content exactly if writing
would succeed and change nothing. So a run that has written leaves behind what the same run, checking, is
content with, unless it has written over its own settings.
-/
namespace BookTheme.Update
open Contents Files
open CommandLine (GivesCheck)
open Rehearsal (run_bind run_log host_client host_disk)

variable (r : Rehearsal) (target revision text : Text)

theorem check_eq_ok_iff : ((check Rehearsal.host target revision text).run r).1 = .ok () ↔
    r.tree.read? target = .ok (Utf8.encode text) := by
  unfold check
  rw [run_bind, host_disk, Disk.run_holds]
  cases r.tree.read? target with
  | error e => cases e <;> simp [Disk.comparison]
  | ok content =>
    simp only [Disk.comparison]
    cases hc : decide (content = Utf8.encode text) with
    | true => exact iff_of_true rfl (congrArg Except.ok (of_decide_eq_true hc))
    | false => exact iff_of_false (by simp) fun he => of_decide_eq_false hc (Except.ok.inj he)

theorem calls_check : ((check Rehearsal.host target revision text).run r).2.calls = r.calls := by
  unfold check
  rw [run_bind, host_disk, Disk.run_holds]
  cases Disk.comparison target text (r.tree.read? target) with
  | error e => rfl
  | ok same =>
    cases same with
    | false => rfl
    | true => exact (Rehearsal.calls_after r 0 [.printed _]).trans (List.append_nil _)

theorem calls_write : ((write Rehearsal.host target text).run r).2.calls = r.calls := by
  unfold write
  rw [run_bind, host_disk, host_client]
  rcases Disk.run_save r target text with ⟨e,u,hs,_⟩ | ⟨u,v,_,_,hs⟩
  · rw [hs]
    rfl
  · rw [hs]
    simp only [run_bind, run_log, Rehearsal.after_after]
    exact (Rehearsal.calls_after (r.onTree v) 0 [.logged _,.logged _,.printed _]).trans (List.append_nil _)

variable {home : Text} {r target revision text} {o : CommandLine.Options}

theorem read?_target_of_write (h : ((write Rehearsal.host target text).run r).1 = .ok ()) :
    ((write Rehearsal.host target text).run r).2.tree.read? target = .ok (Utf8.encode text) := by
  rcases write_cases r target text with ⟨e,r',hw,_⟩ | ⟨u,r',hw,_,hu⟩
  · rw [hw] at h
    cases h
  · rw [hw]
    exact (Tree.written_of_write? hu).1

/-- Writing succeeds and changes nothing exactly if the target holds the text. -/
theorem write_unchanged_iff : ((write Rehearsal.host target text).run r).1 = .ok () ∧
    ((write Rehearsal.host target text).run r).2.tree = r.tree ↔ r.tree.read? target = .ok (Utf8.encode text) := by
  constructor
  · rintro ⟨hok,htree⟩
    have hread := read?_target_of_write hok
    rwa [htree] at hread
  · intro h
    unfold write
    rw [run_bind, host_disk, host_client, Disk.run_save_of_read? r h]
    exact ⟨rfl,rfl⟩

/-- Where a run has written, another file can be read as before. -/
theorem read?_of_write {path : Text} {content : Bytes}
    (h : ((write Rehearsal.host target text).run r).1 = .ok ()) (hr : r.tree.read? path = .ok content)
    (hp : ((write Rehearsal.host target text).run r).2.tree.place? path ≠
      ((write Rehearsal.host target text).run r).2.tree.place? target) :
    ((write Rehearsal.host target text).run r).2.tree.read? path = .ok content := by
  rcases write_cases r target text with ⟨e,r',hw,_⟩ | ⟨u,r',hw,hg,hu⟩
  · rw [hw] at h
    cases h
  · rw [hw] at hp ⊢
    obtain ⟨_,l,hl,hk⟩ := Tree.written_of_write? hu
    have hkeeps : Tree.KeepsDirs r.tree r'.tree := hg.keepsDirs.trans (Tree.keepsDirs_of_write? hu)
    apply hkeeps.read? hr
    intro k hplace hfile
    have hne : k ≠ l := by
      rintro rfl
      exact hp (hplace.trans hl.symm)
    rw [hk k hne]
    exact (hg.file_iff k content).mpr hfile

/-- The two ways to deliver, of which one writes and the other checks, after the same preparation. -/
theorem execute_agree (home : Text) (r : Rehearsal) (hc : o.check = false) :
    (((execute Rehearsal.host home (o.withCheck true)).run r).1 = .ok () ↔
      ((execute Rehearsal.host home o).run r).1 = .ok () ∧ ((execute Rehearsal.host home o).run r).2.tree = r.tree) ∧
    ((execute Rehearsal.host home (o.withCheck true)).run r).2.calls =
      ((execute Rehearsal.host home o).run r).2.calls := by
  have hprep : prepare Rehearsal.host (o.withCheck true) = prepare Rehearsal.host o := rfl
  have htree := tree_prepare r o
  rw [run_execute, run_execute, hprep]
  generalize (prepare Rehearsal.host o).run r = prepared at htree
  obtain ⟨e | ⟨revision,text⟩,r'⟩ := prepared
  · exact ⟨by simp,rfl⟩
  · have hcheck : deliver Rehearsal.host home (o.withCheck true) revision text =
        check Rehearsal.host (targetOf home o) revision text := rfl
    have hwrite : deliver Rehearsal.host home o revision text = write Rehearsal.host (targetOf home o) text := by
      rw [deliver, hc, if_neg Bool.false_ne_true]
    simp only at htree ⊢
    rw [hcheck, hwrite, ← htree]
    refine ⟨?_,?_⟩
    · rw [check_eq_ok_iff, write_unchanged_iff]
    · rw [calls_check, calls_write]

/-- What a run has written, the same run is content with when it checks. -/
theorem execute_check_after (hc : o.check = false) (hok : ((execute Rehearsal.host home o).run r).1 = .ok ())
    (hconfig : ∀ path, o.config = some path →
      ((execute Rehearsal.host home o).run r).2.tree.place? path ≠
        ((execute Rehearsal.host home o).run r).2.tree.place? (targetOf home o)) :
    ((execute Rehearsal.host home (o.withCheck true)).run
      (r.onTree ((execute Rehearsal.host home o).run r).2.tree)).1 = .ok () := by
  have htree := tree_prepare r o
  cases hp : (prepare Rehearsal.host o).run r with
  | mk result r' =>
    rw [hp] at htree
    cases result with
    | error e =>
      rw [run_execute, hp] at hok
      cases hok
    | ok prepared =>
      obtain ⟨revision,text⟩ := prepared
      have hrun : (execute Rehearsal.host home o).run r =
          (write Rehearsal.host (targetOf home o) text).run r' := by
        rw [run_execute, hp]
        simp only [deliver, hc, if_neg Bool.false_ne_true]
      rw [hrun] at hok hconfig ⊢
      have hsame : ∀ path, o.config = some path →
          ((write Rehearsal.host (targetOf home o) text).run r').2.tree.read? path = r.tree.read? path := by
        intro path hpath
        obtain ⟨bytes,hbytes⟩ := exists_read?_of_prepare (congrArg Prod.fst hp) hpath
        have hread : r'.tree.read? path = .ok bytes := htree ▸ hbytes
        rw [hbytes]
        exact read?_of_write hok hread (hconfig path hpath)
      have hprep := prepare_onTree hsame
      rw [hp] at hprep
      have hprepare : prepare Rehearsal.host (o.withCheck true) = prepare Rehearsal.host o := rfl
      rw [run_execute, hprepare, hprep]
      exact (check_eq_ok_iff _ _ _ _).mpr (read?_target_of_write hok)

def rehearse (home : Text) (arguments : List Text) (script : Nat → Source → Outcome) (tree : Tree) :
    Ending × Rehearsal :=
  (run Rehearsal.host home arguments).run (Rehearsal.of tree script)

/-- Put in front of arguments that do not give it, the switch for checking makes a run succeed exactly if
without it the run succeeds and leaves the tree as it was; the calls are the same. On the tree that a run has
left which succeeded, the same run, checking, succeeds too, unless its target has taken the place of the file
with its settings. -/
theorem checking_agrees (home : Text) (arguments : List Text) (script : Nat → Source → Outcome) (tree : Tree)
    (h : ¬ GivesCheck arguments) :
    ((rehearse home ("--check".toList :: arguments) script tree).1.exitCode = 0 ↔
      (rehearse home arguments script tree).1.exitCode = 0 ∧ (rehearse home arguments script tree).2.tree = tree) ∧
    (rehearse home ("--check".toList :: arguments) script tree).2.calls =
      (rehearse home arguments script tree).2.calls ∧
    ((rehearse home arguments script tree).1.exitCode = 0 →
      (∀ o path, CommandLine.parse arguments = .ok o → o.config = some path →
        (rehearse home arguments script tree).2.tree.place? path ≠
          (rehearse home arguments script tree).2.tree.place? (targetOf home o)) →
      (rehearse home ("--check".toList :: arguments) script
        (rehearse home arguments script tree).2.tree).1.exitCode = 0) := by
  have hcheck := CommandLine.parse_check h
  cases hp : CommandLine.parse arguments with
  | error refusal =>
    rw [hp] at hcheck
    obtain ⟨happenings,hrun,hcalls⟩ := run_of_refusal home (Rehearsal.of tree script) hp
    have hsame : ∀ t, rehearse home ("--check".toList :: arguments) script t = rehearse home arguments script t := by
      intro t
      unfold rehearse run
      rw [hcheck, hp]
      rfl
    have htree : (rehearse home arguments script tree).2.tree = tree := by
      rw [rehearse, hrun]
      rfl
    rw [hsame, hsame, htree]
    exact ⟨⟨fun h0 => ⟨h0,rfl⟩,And.left⟩,rfl,fun h0 _ => h0⟩
  | ok o =>
    rw [hp] at hcheck
    have hc := CommandLine.check_of_parse h hp
    have hwriting := run_of_options home (Rehearsal.of tree script) hp
    have hchecking := fun t => run_of_options home (Rehearsal.of t script) hcheck
    obtain ⟨hiff,hcalls⟩ := execute_agree home (Rehearsal.of tree script) hc
    simp only [rehearse, hwriting, hchecking, exitCode_endingOf_eq_zero_iff]
    refine ⟨hiff,hcalls,?_⟩
    intro h0 hconfig
    exact execute_check_after hc h0 fun path hpath => hconfig o path rfl hpath

def ownTree : Tree := ⟨[(["own".toList],.file (Utf8.encode "\x7b\x7d".toList))],[]⟩

def ownArguments : List Text := ["--config=own".toList,"new/page".toList]

/-- Before the page is written the check fails, as writing it changes the tree; then the check succeeds. -/
theorem ownTree_checked :
    ¬ GivesCheck ownArguments ∧
    (rehearse [] ownArguments secondAnswers ownTree).1.exitCode = 0 ∧
    (rehearse [] ("--check".toList :: ownArguments) secondAnswers ownTree).1.exitCode ≠ 0 ∧
    (rehearse [] ("--check".toList :: ownArguments) secondAnswers
      (rehearse [] ownArguments secondAnswers ownTree).2.tree).1.exitCode = 0 := by
  have hgives : ¬ GivesCheck ownArguments := by decide
  obtain ⟨hiff,_,hthen⟩ := checking_agrees [] ownArguments secondAnswers ownTree hgives
  have hrun : (rehearse [] ownArguments secondAnswers ownTree).1.exitCode = 0 ∧
      (rehearse [] ownArguments secondAnswers ownTree).2.tree ≠ ownTree ∧
      (rehearse [] ownArguments secondAnswers ownTree).2.tree.place? "own".toList ≠
        (rehearse [] ownArguments secondAnswers ownTree).2.tree.place? "new/page".toList := by decide +kernel
  have hparse : (CommandLine.parse ownArguments).toOption = some { CommandLine.Options.unset with
      target := some "new/page".toList, config := some "own".toList } := by decide +kernel
  refine ⟨hgives,hrun.1,fun h0 => hrun.2.1 (hiff.mp h0).2,hthen hrun.1 ?_⟩
  intro o path ho hpath
  rw [ho] at hparse
  cases hparse
  cases hpath
  exact hrun.2.2

end BookTheme.Update
