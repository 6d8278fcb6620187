import BookTheme.Proofs.Template.Agreement
import Mathlib.Data.List.Induction

/-! # Failures leave nothing behind

A string that fails is counted, and that is all. So a pass that is fed on after failures does what it would
have done without the strings that failed: it goes through the same phases, gives out the same, and has the
same anchors, only further down by one line for each failure above them. The patching of a text stops at the
first failure there would be.
-/
namespace BookTheme.Template
namespace Pass

variable (ins : Insertions)

/-- The strings that do not fail, and what the pass knows after each. -/
def accepted (lines : List Text) : List (Text × View) :=
  (lines.zip (start.trace ins lines)).filterMap fun x => if x.2.1.isNone then some (x.1,x.2.2) else none

def failures (lines : List Text) (n : Nat) : Nat := ((start.trace ins lines).take n).countP (·.1.isSome)

/-- The anchor, further up by the failures above it. -/
def raised (lines : List Text) (a : Anchor) : Anchor := { a with line := a.line - failures ins lines a.line }

theorem length_trace (p : Pass) (lines : List Text) : (p.trace ins lines).length = lines.length := by
  induction lines generalizing p with
  | nil => rfl
  | cons line lines ih => simp [trace, ih]

theorem trace_append_singleton (p : Pass) (lines : List Text) (line : Text) :
    p.trace ins (lines ++ [line]) = p.trace ins lines ++
      [(((lines.foldl (fun p line => (p.readLine ins line).1) p).readLine ins line).2,
        ((lines.foldl (fun p line => (p.readLine ins line).1) p).readLine ins line).1.view)] := by
  induction lines generalizing p with
  | nil => rfl
  | cons first lines ih => simp [trace, ih]

variable {ins} {lines : List Text} {line : Text} {q : Pass} {e : LayoutError}

theorem trace_snoc {o : Option LayoutError} (h : (readAll ins lines).readLine ins line = (q,o)) :
    start.trace ins (lines ++ [line]) = start.trace ins lines ++ [(o,q.view)] := by
  have ht := trace_append_singleton ins start lines line
  rw [← readAll, h] at ht
  exact ht

theorem accepted_snoc_of_ok (h : (readAll ins lines).readLine ins line = (q,none)) :
    accepted ins (lines ++ [line]) = accepted ins lines ++ [(line,q.view)] := by
  unfold accepted
  rw [trace_snoc h, List.zip_append (length_trace ins start lines).symm, List.filterMap_append]
  rfl

theorem accepted_snoc_of_failure (h : (readAll ins lines).readLine ins line = (q,some e)) :
    accepted ins (lines ++ [line]) = accepted ins lines := by
  unfold accepted
  rw [trace_snoc h, List.zip_append (length_trace ins start lines).symm, List.filterMap_append]
  exact List.append_nil _

theorem failures_snoc_of_le {n : Nat} (hn : n ≤ lines.length) :
    failures ins (lines ++ [line]) n = failures ins lines n := by
  have hl := length_trace ins start lines
  unfold failures
  rw [trace_snoc rfl, List.take_append_of_le_length (by omega)]

theorem failures_snoc {o : Option LayoutError} (h : (readAll ins lines).readLine ins line = (q,o)) :
    failures ins (lines ++ [line]) (lines.length + 1) =
      failures ins lines lines.length + if o.isSome then 1 else 0 := by
  have hl := length_trace ins start lines
  unfold failures
  rw [trace_snoc h, ← hl, List.take_length, List.take_of_length_le (by simp), List.countP_append,
    List.countP_singleton]

theorem failures_le (ins : Insertions) (lines : List Text) (n : Nat) : failures ins lines n ≤ n :=
  Nat.le_trans List.countP_le_length (List.length_take_le n _)

/-- The line of an anchor has not failed. -/
theorem failures_lt {a : Anchor} (h : a ∈ (readAll ins lines).anchors) : failures ins lines a.line < a.line := by
  induction lines using List.reverseRecOn with
  | nil => simp [readAll] at h
  | append_singleton lines line ih =>
    have hp := recorded_readAll ins lines
    have hkept : a ∈ (readAll ins lines).anchors → failures ins (lines ++ [line]) a.line < a.line := by
      intro ha
      have hle := (hp.lines_counted a ha).2
      rw [hp.lineCount_eq] at hle
      rw [failures_snoc_of_le hle]
      exact ih ha
    rw [readAll_append_singleton] at h
    rcases readLine_cases ins (readAll ins lines) line with ⟨_,hr⟩ | ⟨text,_,_,hr⟩ | ⟨_,_,hr⟩
    · rw [hr] at h
      exact hkept h
    · rw [hr, anchors_moved] at h
      rcases List.mem_append.mp h with h | h
      · exact hkept h
      · have hline : a.line = lines.length + 1 := by rw [List.mem_singleton.mp h, ← hp.lineCount_eq]
        rw [hline, failures_snoc hr]
        exact Nat.lt_succ_of_le (failures_le ins lines lines.length)
    · rw [hr] at h
      exact hkept h

theorem map_raised_snoc (ins : Insertions) (lines : List Text) (line : Text) :
    (readAll ins lines).anchors.map (raised ins (lines ++ [line])) =
      (readAll ins lines).anchors.map (raised ins lines) := by
  have hp := recorded_readAll ins lines
  apply List.map_congr_left
  intro a ha
  have hle := (hp.lines_counted a ha).2
  rw [hp.lineCount_eq] at hle
  rw [raised, raised, failures_snoc_of_le hle]

/-- A pass that stands where another one does, after the failures of that one among these strings were left
out. -/
structure Follows (ins : Insertions) (lines : List Text) (p q : Pass) : Prop where
  phase_eq : q.phase = p.phase
  written_eq : q.written = p.written
  anchors_eq : q.anchors = p.anchors.map (raised ins lines)
  lineCount_eq : q.lineCount = lines.length - failures ins lines lines.length

theorem Follows.snoc_of_ok (h : Follows ins lines (readAll ins lines) q) {p : Pass}
    (hr : (readAll ins lines).readLine ins line = (p,none)) :
    ∃ q', q.readLine ins line = (q',none) ∧ Follows ins (lines ++ [line]) p q' := by
  have hp := recorded_readAll ins lines
  have hle := failures_le ins lines lines.length
  have hfailures : failures ins (lines ++ [line]) (lines.length + 1) = failures ins lines lines.length :=
    failures_snoc hr
  have hcount : q.lineCount + 1 =
      (lines ++ [line]).length - failures ins (lines ++ [line]) (lines ++ [line]).length := by
    rw [List.length_append, List.length_singleton, hfailures, h.lineCount_eq]
    omega
  rcases readLine_cases ins (readAll ins lines) line with ⟨ha,hl⟩ | ⟨text,ha,ht,hl⟩ | ⟨_,_,hl⟩
  · rw [hl] at hr
    cases hr
    refine ⟨_,readLine_through ins (h.phase_eq ▸ ha),h.phase_eq,?_,?_,hcount⟩
    · exact congrArg (line :: ·) h.written_eq
    · rw [anchors_through, anchors_through, map_raised_snoc, h.anchors_eq]
  · rw [hl] at hr
    cases hr
    refine ⟨_,readLine_anchor ins (h.phase_eq ▸ ha) (h.phase_eq ▸ ht),?_,?_,?_,hcount⟩
    · exact congrArg Phase.next h.phase_eq
    · exact congrArg (text :: ·) h.written_eq
    · have hlast : raised ins (lines ++ [line]) ⟨(readAll ins lines).phase,(readAll ins lines).lineCount + 1⟩ =
          ⟨q.phase,q.lineCount + 1⟩ := by
        rw [raised, hp.lineCount_eq, hfailures, h.phase_eq, h.lineCount_eq, Nat.sub_add_comm hle]
      rw [anchors_moved, anchors_moved, List.map_append, map_raised_snoc, h.anchors_eq, List.map_singleton, hlast]
  · rw [hl] at hr
    cases hr

theorem Follows.snoc_of_failure (h : Follows ins lines (readAll ins lines) q) {p : Pass}
    (hr : (readAll ins lines).readLine ins line = (p,some e)) : Follows ins (lines ++ [line]) p q := by
  have hfailures : failures ins (lines ++ [line]) (lines.length + 1) = failures ins lines lines.length + 1 :=
    failures_snoc hr
  rcases readLine_cases ins (readAll ins lines) line with ⟨_,hl⟩ | ⟨text,_,_,hl⟩ | ⟨_,_,hl⟩
  · rw [hl] at hr
    cases hr
  · rw [hl] at hr
    cases hr
  · rw [hl] at hr
    cases hr
    refine ⟨h.phase_eq,h.written_eq,?_,?_⟩
    · exact h.anchors_eq.trans (map_raised_snoc ins lines line).symm
    · rw [List.length_append, List.length_singleton, hfailures, h.lineCount_eq]
      omega

variable (ins lines)

/-- What the strings that do not fail come to by themselves. -/
theorem follows_readAll :
    Follows ins lines (readAll ins lines) (readAll ins ((accepted ins lines).map Prod.fst)) ∧
    (∀ x ∈ start.trace ins ((accepted ins lines).map Prod.fst), x.1 = none) ∧
    (start.trace ins ((accepted ins lines).map Prod.fst)).map (·.2.phase) =
      (accepted ins lines).map (·.2.phase) := by
  induction lines using List.reverseRecOn with
  | nil => exact ⟨⟨rfl,rfl,rfl,rfl⟩,by simp [accepted, trace],rfl⟩
  | append_singleton lines line ih =>
    obtain ⟨hf,hnone,hphases⟩ := ih
    rw [readAll_append_singleton]
    cases hr : (readAll ins lines).readLine ins line with
    | mk p o =>
      cases o with
      | some e =>
        rw [accepted_snoc_of_failure hr]
        exact ⟨hf.snoc_of_failure hr,hnone,hphases⟩
      | none =>
        obtain ⟨q,hq,hfollows⟩ := hf.snoc_of_ok hr
        rw [accepted_snoc_of_ok hr, List.map_append, List.map_singleton, readAll_append_singleton, hq, trace_snoc hq]
        refine ⟨hfollows,?_,?_⟩
        · intro x hx
          rcases List.mem_append.mp hx with hx | hx
          · exact hnone x hx
          · rw [List.mem_singleton.mp hx]
        · rw [List.map_append, List.map_append, hphases, List.map_singleton, List.map_singleton]
          exact congrArg (_ ++ [·]) hfollows.phase_eq

variable {ins lines}

theorem Follows.close {p : Pass} (h : Follows ins lines p q) :
    q.close = p.close.map fun out => ⟨out.text,out.anchors.map (raised ins lines)⟩ := by
  by_cases hp : p.phase = .afterSidebar
  · rw [close_of_final hp, close_of_final (h.phase_eq.trans hp), h.anchors_eq, output, h.written_eq]
    rfl
  · rw [close_of_not_final hp, close_of_not_final (h.phase_eq ▸ hp), h.phase_eq]
    rfl

/-- Reading up to the first failure, told from the trace of a reading that goes on. -/
theorem readLines_eq_trace (ins : Insertions) (p : Pass) (lines : List Text) :
    p.readLines ins lines =
      match (p.trace ins lines).findSome? (·.1) with
      | some e => .error e
      | none => .ok (lines.foldl (fun p line => (p.readLine ins line).1) p) := by
  induction lines generalizing p with
  | nil => rfl
  | cons line lines ih =>
    rw [readLines, trace, List.findSome?_cons, List.foldl_cons]
    cases hr : p.readLine ins line with
    | mk q o =>
      cases o with
      | some e => rfl
      | none => exact ih q

end Pass

open Pass

theorem patch_eq_trace (ins : Insertions) (text : Text) :
    patch ins text =
      match (start.trace ins text.pieces).findSome? (·.1) with
      | some e => .error e
      | none => (readAll ins text.pieces).close := by
  unfold patch readThrough
  rw [readLines_eq_trace]
  cases (start.trace ins text.pieces).findSome? (·.1) <;> rfl

/-- Without the strings that fail, a pass fails at none, is in the same phase after each of the others, gives out
the same, and has its anchors, on which it ends or fails to end, further up by the failures above them. The
patching of a text is the first failure at its lines, if there is one, and else the end of the pass. -/
theorem failures_removable (ins : Insertions) :
    (∀ lines, let kept := (accepted ins lines).map Prod.fst
      (∀ x ∈ start.trace ins kept, x.1 = none) ∧
      (start.trace ins kept).map (·.2.phase) = (accepted ins lines).map (·.2.phase) ∧
      (readAll ins kept).output = (readAll ins lines).output ∧
      (∀ a ∈ (readAll ins lines).anchors, failures ins lines a.line < a.line) ∧
      (readAll ins kept).anchors = (readAll ins lines).anchors.map (raised ins lines) ∧
      (readAll ins kept).close =
        (readAll ins lines).close.map fun out => ⟨out.text,out.anchors.map (raised ins lines)⟩) ∧
    ∀ text, patch ins text =
      match (start.trace ins text.pieces).findSome? (·.1) with
      | some e => .error e
      | none => (readAll ins text.pieces).close := by
  refine ⟨?_,patch_eq_trace ins⟩
  intro lines kept
  obtain ⟨hf,hnone,hphases⟩ := follows_readAll ins lines
  refine ⟨hnone,hphases,?_,fun a ha => failures_lt ha,hf.anchors_eq,hf.close⟩
  rw [output, output, hf.written_eq]

/-- Without the torn tag the pass finds the same anchors, all but the first of them one line further up. If each of the
strings is a line of its own, the torn tag keeps the page from being patched. -/
theorem roughLines_kept :
    let kept := (accepted roughInsertions roughLines).map Prod.fst
    kept = roughLines.eraseIdx 2 ∧
      (readAll roughInsertions kept).output = (readAll roughInsertions roughLines).output ∧
      (readAll roughInsertions kept).anchors.map (·.line) = [2,3,4,5,6] ∧
      (∃ out, (readAll roughInsertions kept).close = .ok out ∧
        out.text = (readAll roughInsertions roughLines).output) ∧
      patch roughInsertions (roughLines.flatMap (· ++ ['\n'])) = .error (.scrollboxTail 3) := by
  intro kept
  obtain ⟨hkept,hpatch⟩ := failures_removable roughInsertions
  obtain ⟨_,_,houtput,_,hanchors,hclose⟩ := hkept roughLines
  have hfinal : (readAll roughInsertions roughLines).phase = .afterSidebar := by decide +kernel
  refine ⟨by decide +kernel,houtput,?_,?_,(hpatch _).trans (by decide +kernel)⟩
  · rw [hanchors]
    decide +kernel
  · rw [hclose, close_of_final hfinal]
    exact ⟨_,rfl,rfl⟩

end BookTheme.Template
