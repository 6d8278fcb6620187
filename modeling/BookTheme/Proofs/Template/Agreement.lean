import BookTheme.Proofs.Template.Diagnosis

/-! # Insertions decide nothing

Which line is an anchor, whether it has the right shape, and what is recorded of it depends on the lines
alone. So two passes that are fed the same strings, each with insertions of its own, stay abreast: they
differ in nothing but in what they give out.
-/
namespace BookTheme.Template
namespace Pass

/-- What a pass knows of the lines it was fed: all but what it gave out for them. -/
structure View where
  phase : Phase
  lineCount : Nat
  anchors : List Anchor
deriving DecidableEq

def view (p : Pass) : View := ⟨p.phase,p.lineCount,p.anchors⟩

/-- Feed strings as lines, also those below a failure: the failure at each, if there was one, and what the
pass knows after it. -/
def trace (ins : Insertions) : Pass → List Text → List (Option LayoutError × View)
  | _, [] => []
  | p, line :: rest =>
    ((p.readLine ins line).2,(p.readLine ins line).1.view) :: trace ins (p.readLine ins line).1 rest

variable (ins ins' : Insertions) {p q : Pass}

theorem view_eq_iff :
    p.view = q.view ↔ p.phase = q.phase ∧ p.lineCount = q.lineCount ∧ p.anchors = q.anchors := by
  simp [view]

/-- Whether an anchor has the right shape does not depend on what is put into it. -/
theorem replacement?_eq_none_congr {line : Text} {f : Phase} (h : replacement? ins line f = none) :
    replacement? ins' line f = none :=
  replacement?_eq_none_iff.mpr (replacement?_eq_none_iff.mp h)

theorem readLine_agree (h : p.view = q.view) (line : Text) :
    (p.readLine ins line).1.view = (q.readLine ins' line).1.view ∧
      (p.readLine ins line).2 = (q.readLine ins' line).2 := by
  obtain ⟨hphase,hcount,hanchors⟩ := view_eq_iff.mp h
  rcases readLine_cases ins p line with ⟨ha,hp⟩ | ⟨text,ha,ht,hp⟩ | ⟨ha,ht,hp⟩
  · have hq := readLine_through ins' (p := q) (hphase ▸ ha)
    rw [hp, hq]
    refine ⟨view_eq_iff.mpr ⟨hphase,?_,hanchors⟩,rfl⟩
    rw [lineCount_through, lineCount_through, hcount]
  · have ht' : ∃ text', replacement? ins' line q.phase = some text' := by
      apply Option.ne_none_iff_exists'.mp
      intro hn
      rw [hphase, replacement?_eq_none_congr ins' ins hn] at ht
      cases ht
    obtain ⟨text',ht'⟩ := ht'
    have hq := readLine_anchor ins' (p := q) (hphase ▸ ha) ht'
    rw [hp, hq]
    refine ⟨view_eq_iff.mpr ⟨?_,?_,?_⟩,rfl⟩
    · rw [phase_moved, phase_moved, hphase]
    · rw [lineCount_moved, lineCount_moved, hcount]
    · rw [anchors_moved, anchors_moved, hphase, hcount, hanchors]
  · have ht' := replacement?_eq_none_congr ins ins' ht
    have hq := readLine_stuck ins' (p := q) (hphase ▸ ha) (hphase ▸ ht')
    rw [hp, hq, hcount]
    exact ⟨view_eq_iff.mpr ⟨hphase,congrArg (· + 1) hcount,hanchors⟩,rfl⟩

theorem trace_agree (h : p.view = q.view) (lines : List Text) : p.trace ins lines = q.trace ins' lines := by
  induction lines generalizing p q with
  | nil => rfl
  | cons line lines ih =>
    obtain ⟨hv,he⟩ := readLine_agree ins ins' h line
    simp only [trace]
    rw [he, hv, ih hv]

theorem foldl_readLine_agree (h : p.view = q.view) (lines : List Text) :
    (lines.foldl (fun p line => (p.readLine ins line).1) p).view =
      (lines.foldl (fun q line => (q.readLine ins' line).1) q).view := by
  induction lines generalizing p q with
  | nil => exact h
  | cons line lines ih => exact ih (readLine_agree ins ins' h line).1

theorem readLines_agree (h : p.view = q.view) (lines : List Text) :
    (p.readLines ins lines).map view = (q.readLines ins' lines).map view := by
  induction lines generalizing p q with
  | nil => exact congrArg Except.ok h
  | cons line lines ih =>
    obtain ⟨hv,he⟩ := readLine_agree ins ins' h line
    simp only [readLines]
    cases hp : p.readLine ins line with
    | mk p' e =>
      cases hq : q.readLine ins' line with
      | mk q' e' =>
        rw [hp, hq] at hv he
        simp only at hv he
        subst he
        cases e with
        | none => exact ih hv
        | some e => rfl

theorem close_agree (h : p.view = q.view) : p.close.map (·.anchors) = q.close.map (·.anchors) := by
  obtain ⟨hphase,_,hanchors⟩ := view_eq_iff.mp h
  by_cases hf : p.phase = .afterSidebar
  · rw [close_of_final hf, close_of_final (hphase ▸ hf)]
    exact congrArg Except.ok hanchors
  · rw [close_of_not_final hf, close_of_not_final (hphase ▸ hf), hphase]

end Pass

open Pass

theorem patch_agree (ins ins' : Insertions) (text : Text) :
    (patch ins text).map (·.anchors) = (patch ins' text).map (·.anchors) := by
  have h := readLines_agree ins ins' (p := start) rfl text.pieces
  unfold patch readThrough
  cases hp : start.readLines ins text.pieces with
  | error e =>
    cases hq : start.readLines ins' text.pieces with
    | error e' =>
      rw [hp, hq] at h
      cases h
      rfl
    | ok q =>
      rw [hp, hq] at h
      cases h
  | ok p =>
    cases hq : start.readLines ins' text.pieces with
    | error e' =>
      rw [hp, hq] at h
      cases h
    | ok q =>
      rw [hp, hq] at h
      exact close_agree (Except.ok.inj h)

/-- Whatever two passes put into the page: fed the same strings, they fail at the same ones and with the same
errors, know the same after each, and can both be closed with the same anchors or fail to with the same
error. The same holds of the patching of a whole text. -/
theorem insertions_unread (ins ins' : Insertions) :
    (∀ lines, start.trace ins lines = start.trace ins' lines ∧
      (readAll ins lines).view = (readAll ins' lines).view ∧
      (readAll ins lines).close.map (·.anchors) = (readAll ins' lines).close.map (·.anchors)) ∧
    ∀ text, (patch ins text).map (·.anchors) = (patch ins' text).map (·.anchors) := by
  refine ⟨?_,patch_agree ins ins'⟩
  intro lines
  have hv : (readAll ins lines).view = (readAll ins' lines).view := foldl_readLine_agree ins ins' rfl lines
  exact ⟨trace_agree ins ins' rfl lines,hv,close_agree hv⟩

/-- Whatever is put in, the torn tag is the one failure, and the pass comes to its end. -/
theorem roughLines_unread : ∀ ins, (start.trace ins roughLines).map Prod.fst =
      [none,none,some (.scrollboxTail 3),none,none,none,none] ∧
    (readAll ins roughLines).close.map (·.anchors) = .ok [⟨.beforeSidebar,2⟩, ⟨.beforeScrollbox,4⟩, ⟨.beforeToc,5⟩,
      ⟨.inScrollbox,6⟩, ⟨.inSidebar,7⟩] := by
  intro ins
  obtain ⟨htrace,_,hclose⟩ := (insertions_unread ins roughInsertions).1 roughLines
  refine ⟨?_,hclose.trans (by decide +kernel)⟩
  rw [htrace]
  decide +kernel

end BookTheme.Template
