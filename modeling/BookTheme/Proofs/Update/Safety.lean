import BookTheme.Proofs.Update.Stages

/-! # No file is lost

A run that fails leaves every file as it was, and the whole tree unless it is the writing that failed; then
at most some of the directories above the target are new. A run that succeeds has written what it is meant
to write, and nothing else.
-/
namespace BookTheme.Update
open Contents Files
open Rehearsal (run_bind)

variable (home : Text) {o : CommandLine.Options} (r : Rehearsal)

theorem execute_unsettled {e : SettingsError} (h : Settings.resolved r o = .error e) :
    (execute Rehearsal.host home o).run r = (.error (.settings e),r) := by
  rcases execute_cases r home o with ⟨e',he,hx⟩ | ⟨_,_,_,_,⟨s,hs⟩,_⟩ | ⟨_,_,_,⟨s,_,_,_,_,_,hs,_⟩,_,_⟩
  · rw [h] at he
    cases he
    exact hx
  · rw [h] at hs
    cases hs
  · rw [h] at hs
    cases hs

theorem tree_execute_check (h : o.check = true) : ((execute Rehearsal.host home o).run r).2.tree = r.tree := by
  rcases execute_cases r home o with ⟨e,_,hx⟩ | ⟨failure,r',hx,ht,_⟩ | ⟨text,revision,r',_,ht,hx⟩
  · rw [hx]
  · rw [hx, ht]
  · rw [hx, if_pos h, tree_check, ht]

theorem grown_of_execute {failure : Failure} (h : ((execute Rehearsal.host home o).run r).1 = .error failure) :
    Tree.Grown (Path.parents (targetOf home o)) r.tree ((execute Rehearsal.host home o).run r).2.tree ∧
      ((∀ e, failure ≠ .target e) → ((execute Rehearsal.host home o).run r).2.tree = r.tree) := by
  rcases execute_cases r home o with ⟨e,_,hx⟩ | ⟨failure',r',hx,ht,_⟩ | ⟨text,revision,r',_,ht,hx⟩
  · rw [hx]
    exact ⟨Tree.Grown.refl _ _,fun _ => rfl⟩
  · rw [hx, ht]
    exact ⟨Tree.Grown.refl _ _,fun _ => rfl⟩
  · cases hc : o.check with
    | true =>
      rw [tree_execute_check home r hc]
      exact ⟨Tree.Grown.refl _ _,fun _ => rfl⟩
    | false =>
      rw [hc, if_neg Bool.false_ne_true] at hx
      rw [hx] at h ⊢
      rcases write_cases r' (targetOf home o) text with ⟨e,r'',hw,hg⟩ | ⟨u,r'',hw,_,_⟩
      · rw [hw] at h ⊢
        cases h
        exact ⟨ht ▸ hg,fun hne => absurd rfl (hne e)⟩
      · rw [hw] at h
        cases h

theorem check_ne_template (target revision text : Text) (problem : Problem) :
    ((check Rehearsal.host target revision text).run r).1 ≠ .error (.template problem) := by
  unfold check
  rw [run_bind, Rehearsal.host_disk, Disk.run_holds]
  cases Disk.comparison target text (r.tree.read? target) with
  | error e => nofun
  | ok same => cases same <;> nofun

/-- A problem with a template is one of its layout, if it is one at all. -/
theorem execute_ne_template (problem : Problem) :
    ((execute Rehearsal.host home o).run r).1 ≠ .error (.template problem) := by
  rcases execute_cases r home o with ⟨e,_,hx⟩ | ⟨failure,r',hx,_,_,_,hne⟩ | ⟨text,revision,r',_,_,hx⟩
  · simp [hx]
  · simp [hx, hne problem]
  · rw [hx]
    cases o.check with
    | true =>
      rw [if_pos rfl]
      exact check_ne_template r' (targetOf home o) revision text problem
    | false =>
      rw [if_neg Bool.false_ne_true]
      rcases write_cases r' (targetOf home o) text with ⟨e,r'',hw,_⟩ | ⟨u,r'',hw,_⟩ <;> simp [hw]

/-- Where a run succeeds that is to write, the target holds the patched page, and all other files are as
they were. -/
theorem written_of_execute (h : ((execute Rehearsal.host home o).run r).1 = .ok ()) (hc : o.check = false) :
    ∃ text l, Prepared r o text ∧
      ((execute Rehearsal.host home o).run r).2.tree.read? (targetOf home o) = .ok (Utf8.encode text) ∧
      ((execute Rehearsal.host home o).run r).2.tree.place? (targetOf home o) = some l ∧
      ∀ k, k ≠ l → ∀ content, ((execute Rehearsal.host home o).run r).2.tree.node? k = some (.file content) ↔
        r.tree.node? k = some (.file content) := by
  rcases execute_cases r home o with ⟨e,_,hx⟩ | ⟨failure,r',hx,_,_⟩ | ⟨text,revision,r',hp,ht,hx⟩
  · rw [hx] at h
    cases h
  · rw [hx] at h
    cases h
  · rw [hc, if_neg Bool.false_ne_true] at hx
    rw [hx] at h ⊢
    rcases write_cases r' (targetOf home o) text with ⟨e,r'',hw,_⟩ | ⟨u,r'',hw,hg,hu⟩
    · rw [hw] at h
      cases h
    · obtain ⟨hread,l,hl,hk⟩ := Tree.written_of_write? hu
      rw [hw]
      refine ⟨text,l,hp,hread,hl,?_⟩
      intro k hkl content
      rw [hk k hkl, ← ht]
      exact hg.file_iff k content

theorem run_of_refusal {arguments : List Text} {refusal : CommandLine.Refusal}
    (h : CommandLine.parse arguments = .error refusal) :
    ∃ happenings, (run Rehearsal.host home arguments).run r = (.refused refusal,r.after 0 happenings) ∧
      happenings.filter (·.isCall) = [] := by
  unfold run
  rw [h]
  simp only
  cases refusal.isRequest with
  | true => exact ⟨[.printed refusal.message],rfl,rfl⟩
  | false => exact ⟨[],rfl,rfl⟩

def endingOf : Except Failure Unit → Ending
  | .ok _ => .done
  | .error failure => .failed failure

theorem endingOf_eq_failed_iff {x : Except Failure Unit} {failure : Failure} :
    endingOf x = .failed failure ↔ x = .error failure := by
  cases x <;> simp [endingOf]

theorem exitCode_endingOf_eq_zero_iff {x : Except Failure Unit} : (endingOf x).exitCode = 0 ↔ x = .ok () := by
  cases x <;> simp [endingOf, Ending.exitCode]

theorem exists_failure_of_exitCode_ne_zero {x : Except Failure Unit} (h : (endingOf x).exitCode ≠ 0) :
    ∃ failure, x = .error failure := by
  cases x with
  | ok _ => exact absurd rfl h
  | error failure => exact ⟨failure,rfl⟩

theorem run_of_options {arguments : List Text} (h : CommandLine.parse arguments = .ok o) :
    (run Rehearsal.host home arguments).run r =
      (endingOf ((execute Rehearsal.host home o).run r).1,((execute Rehearsal.host home o).run r).2) := by
  unfold run
  rw [h]
  simp only
  rw [run_bind]
  cases ((execute Rehearsal.host home o).run r).1 <;> rfl

theorem run_ne_template (arguments : List Text) (problem : Problem) :
    ((run Rehearsal.host home arguments).run r).1 ≠ .failed (.template problem) := by
  cases hp : CommandLine.parse arguments with
  | error refusal =>
    obtain ⟨happenings,hrun,_⟩ := run_of_refusal home r hp
    simp [hrun]
  | ok o =>
    rw [run_of_options home r hp]
    exact fun h => execute_ne_template home r problem (endingOf_eq_failed_iff.mp h)

/-- A run that does not end well has left every file as it was, and the tree too unless the target could not
be written: then there may be new directories above it. A run that is to check changes nothing. Without
options or settings no request is made. A run that ends well, and was not to check, has written the page of
the first answer, patched, to the target, and has left all other files as they were. -/
theorem run_keeps_files (home : Text) (arguments : List Text) (tree : Tree) (script : Nat → Source → Outcome) :
    let before := Rehearsal.of tree script
    let ending := ((run Rehearsal.host home arguments).run before).1
    let after := ((run Rehearsal.host home arguments).run before).2
    (ending.exitCode ≠ 0 → ∀ l content,
      after.tree.node? l = some (.file content) ↔ tree.node? l = some (.file content)) ∧
    (ending.exitCode ≠ 0 → (∀ e, ending ≠ .failed (.target e)) → after.tree = tree) ∧
    (∀ refusal, CommandLine.parse arguments = .error refusal →
      ending = .refused refusal ∧ after.tree = tree ∧ after.calls = []) ∧
    ∀ o, CommandLine.parse arguments = .ok o →
      (o.check = true → after.tree = tree) ∧
      (∀ e, ending = .failed (.target e) → Tree.Grown (Path.parents (targetOf home o)) tree after.tree) ∧
      (∀ e, Settings.resolved before o = .error e → ending = .failed (.settings e) ∧ after.calls = []) ∧
      (ending.exitCode = 0 → o.check = false → ∃ text l, Prepared before o text ∧
        after.tree.read? (targetOf home o) = .ok (Utf8.encode text) ∧
        after.tree.place? (targetOf home o) = some l ∧
        ∀ k, k ≠ l → ∀ content,
          after.tree.node? k = some (.file content) ↔ tree.node? k = some (.file content)) := by
  intro before ending after
  cases hp : CommandLine.parse arguments with
  | error refusal =>
    obtain ⟨happenings,hrun,hcalls⟩ := run_of_refusal home before hp
    have he : ending = .refused refusal := congrArg Prod.fst hrun
    have ha : after = before.after 0 happenings := congrArg Prod.snd hrun
    have ht : after.tree = tree := by rw [ha]; rfl
    refine ⟨fun _ l content => by rw [ht],fun _ _ => ht,?_,by simp⟩
    intro refusal' h
    cases h
    refine ⟨he,ht,?_⟩
    rw [ha, Rehearsal.calls_after, hcalls]
    rfl
  | ok o =>
    have hrun := run_of_options home before hp
    have he : ending = endingOf ((execute Rehearsal.host home o).run before).1 := congrArg Prod.fst hrun
    have ha : after = ((execute Rehearsal.host home o).run before).2 := congrArg Prod.snd hrun
    refine ⟨?_,?_,by simp,?_⟩
    · intro h l content
      obtain ⟨failure,hx⟩ := exists_failure_of_exitCode_ne_zero (he ▸ h)
      rw [ha]
      exact (grown_of_execute home before hx).1.file_iff l content
    · intro h hne
      obtain ⟨failure,hx⟩ := exists_failure_of_exitCode_ne_zero (he ▸ h)
      have hf : ending = .failed failure := he ▸ endingOf_eq_failed_iff.mpr hx
      rw [ha]
      exact (grown_of_execute home before hx).2 fun e heq => hne e (heq ▸ hf)
    · intro o' h
      cases h
      refine ⟨?_,?_,?_,?_⟩
      · intro hc
        rw [ha]
        exact tree_execute_check home before hc
      · intro e h
        rw [ha]
        exact (grown_of_execute home before (endingOf_eq_failed_iff.mp (he ▸ h))).1
      · intro e hs
        rw [he, ha, execute_unsettled home before hs]
        exact ⟨rfl,rfl⟩
      · intro h0 hc
        rw [ha]
        exact written_of_execute home before (exitCode_endingOf_eq_zero_iff.mp (he ▸ h0)) hc

/-- A page whose five anchors stand one below the other, in its envelope. -/
def pageBody : Bytes :=
  Utf8.encode ("\x7b\"encoding\":\"base64\",\"git_url\":\"a/b\",\"content\":\"PG5hdiBpZD0ic2lkZWJhciIKPGRpdiBjbGFzcz0ic2lk" ++
    "ZWJhci1zY3JvbGxib3giPgp7eyN0b2N9fXt7L3RvY319CjwvZGl2Pgo8L25hdj4=\"\x7d").toList

def secondAnswers (n : Nat) (_ : Source) : Outcome := if n = 0 then .reply 500 [] else .reply 200 pageBody

def smallTree : Tree := ⟨[(["old".toList],.file [1])],[]⟩

def smallRun (argument : Text) : Ending × Rehearsal :=
  (run Rehearsal.host [] [argument]).run (Rehearsal.of smallTree secondAnswers)

/-- A directory is made above both targets, but only the one that does not end in a slash can be written. -/
theorem small_runs :
    (∃ text l, Prepared (Rehearsal.of smallTree secondAnswers)
        { CommandLine.Options.unset with target := some "new/page".toList } text ∧
      (smallRun "new/page".toList).2.tree.read? "new/page".toList = .ok (Utf8.encode text) ∧
      (smallRun "new/page".toList).2.tree.place? "new/page".toList = some l ∧
      ∀ k, k ≠ l → ∀ content, (smallRun "new/page".toList).2.tree.node? k = some (.file content) ↔
        smallTree.node? k = some (.file content)) ∧
    (∀ l content, (smallRun "new/page/".toList).2.tree.node? l = some (.file content) ↔
      smallTree.node? l = some (.file content)) ∧
    Tree.Grown (Path.parents "new/page/".toList) smallTree (smallRun "new/page/".toList).2.tree ∧
    (smallRun "new/page/".toList).2.tree ≠ smallTree := by
  have hw := run_keeps_files [] ["new/page".toList] smallTree secondAnswers
  have hf := run_keeps_files [] ["new/page/".toList] smallTree secondAnswers
  have hwritten := (hw.2.2.2 { CommandLine.Options.unset with target := some "new/page".toList } rfl).2.2.2
  have hfailed := (hf.2.2.2 { CommandLine.Options.unset with target := some "new/page/".toList } rfl).2.1
  have hrun : (smallRun "new/page/".toList).1 = .failed (.target ⟨.write,"new/page/".toList,.isADirectory⟩) ∧
      (smallRun "new/page/".toList).2.tree ≠ smallTree := by decide +kernel
  unfold smallRun at hrun ⊢
  refine ⟨hwritten (by decide +kernel) rfl,hf.1 ?_,hfailed _ hrun.1,hrun.2⟩
  rw [hrun.1]
  decide

end BookTheme.Update
