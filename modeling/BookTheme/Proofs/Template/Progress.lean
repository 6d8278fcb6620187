import BookTheme.Proofs.Template.Steps

/-! # How far a pass has come

A pass may be fed any strings as lines, and it may be fed on after a failure. Whatever it was fed, its
record fits its phase: it has counted each line, it has an anchor for each phase that lies behind it, and
these stand one below the other. No line takes back what was given out, and the pass can be closed exactly
if it has all five anchors.
-/
namespace BookTheme.Template

theorem Phase.all_take_rank_succ {f : Phase} (h : f ≠ .afterSidebar) :
    all.take (f.rank + 1) = all.take f.rank ++ [f] := by
  cases f with
  | afterSidebar => exact absurd rfl h
  | _ => rfl

theorem Phase.ne_afterSidebar_of_awaits {f : Phase} {line : Text} (h : f.awaits line = true) :
    f ≠ .afterSidebar := by
  rintro rfl
  cases h

theorem Phase.rank_le (f : Phase) : f.rank ≤ 5 := by cases f <;> decide

theorem Phase.rank_eq_five_iff {f : Phase} : f.rank = 5 ↔ f = .afterSidebar := by
  cases f <;> decide

namespace Pass
variable (ins : Insertions)

/-- Read all lines, also those below a failure. -/
def readAll (lines : List Text) : Pass := lines.foldl (fun p line => (p.readLine ins line).1) start

theorem readAll_append_singleton (lines : List Text) (line : Text) :
    readAll ins (lines ++ [line]) = ((readAll ins lines).readLine ins line).1 := by
  simp [readAll]

/-- The record of a pass that was fed so many lines. -/
structure Recorded (p : Pass) (calls : Nat) : Prop where
  lineCount_eq : p.lineCount = calls
  /-- The anchors are those of the phases that lie behind, in their order. -/
  phases_eq : p.anchors.map (·.phase) = Phase.all.take p.phase.rank
  lines_increasing : (p.anchors.map (·.line)).Pairwise (· < ·)
  lines_counted : ∀ a ∈ p.anchors, 1 ≤ a.line ∧ a.line ≤ p.lineCount

theorem recorded_start : start.Recorded 0 where
  lineCount_eq := rfl
  phases_eq := rfl
  lines_increasing := List.Pairwise.nil
  lines_counted := by simp

variable {p q : Pass} {n : Nat}

theorem Recorded.length_anchors (h : p.Recorded n) : p.anchors.length = p.phase.rank := by
  have hl := congrArg List.length h.phases_eq
  have hr := p.phase.rank_le
  simp only [List.length_map, List.length_take, Phase.all, List.length_cons, List.length_nil] at hl
  omega

theorem Recorded.phase_getElem? (h : p.Recorded n) {i : Nat} {a : Anchor} (ha : p.anchors[i]? = some a) :
    Phase.all[i]? = some a.phase := by
  have hi : i < p.anchors.length := (List.getElem?_eq_some_iff.mp ha).1
  have hm : (p.anchors.map (·.phase))[i]? = some a.phase := by simp [ha]
  rw [h.phases_eq, List.getElem?_take_of_lt (h.length_anchors ▸ hi)] at hm
  exact hm

theorem Recorded.count (h : p.Recorded n) (hc : q.lineCount = p.lineCount + 1) (hp : q.phase = p.phase)
    (ha : q.anchors = p.anchors) : q.Recorded (n + 1) where
  lineCount_eq := by rw [hc, h.lineCount_eq]
  phases_eq := by rw [ha, hp, h.phases_eq]
  lines_increasing := by rw [ha]; exact h.lines_increasing
  lines_counted := by
    intro a hm
    have hl := h.lines_counted a (ha ▸ hm)
    omega

theorem Recorded.moved (h : p.Recorded n) (hp : p.phase ≠ .afterSidebar) (text : Text) :
    (p.moved text).Recorded (n + 1) where
  lineCount_eq := by rw [lineCount_moved, h.lineCount_eq]
  phases_eq := by
    rw [anchors_moved, phase_moved, Phase.rank_next hp, Phase.all_take_rank_succ hp, List.map_append, h.phases_eq]
    rfl
  lines_increasing := by
    rw [anchors_moved, List.map_append, List.pairwise_append]
    refine ⟨h.lines_increasing,List.pairwise_singleton _ _,?_⟩
    intro i hi j hj
    obtain ⟨a,ha,rfl⟩ := List.mem_map.mp hi
    have hl := h.lines_counted a ha
    have hj : j = p.lineCount + 1 := by simpa using hj
    omega
  lines_counted := by
    intro a hm
    rw [anchors_moved] at hm
    rw [lineCount_moved]
    rcases List.mem_append.mp hm with hm | hm
    · have hl := h.lines_counted a hm
      omega
    · have ha := List.mem_singleton.mp hm
      subst ha
      exact ⟨Nat.le_add_left 1 _,Nat.le_refl _⟩

theorem Recorded.readLine (h : p.Recorded n) (line : Text) : (p.readLine ins line).1.Recorded (n + 1) := by
  rcases readLine_cases ins p line with ⟨_,hr⟩ | ⟨text,ha,_,hr⟩ | ⟨_,_,hr⟩
  · rw [hr]
    exact h.count rfl rfl rfl
  · rw [hr]
    exact h.moved (Phase.ne_afterSidebar_of_awaits ha) text
  · rw [hr]
    exact h.count rfl rfl rfl

theorem Recorded.foldl_readLine (h : p.Recorded n) (lines : List Text) :
    (lines.foldl (fun p line => (p.readLine ins line).1) p).Recorded (n + lines.length) := by
  induction lines generalizing p n with
  | nil => exact h
  | cons line lines ih =>
    have hs := ih (h.readLine ins line)
    rw [List.foldl_cons, List.length_cons, Nat.add_comm lines.length 1, ← Nat.add_assoc]
    exact hs

theorem recorded_readAll (lines : List Text) : (readAll ins lines).Recorded lines.length := by
  have h := recorded_start.foldl_readLine ins lines
  rwa [Nat.zero_add] at h

/-- A line leaves the phase, or leads to the one behind it. -/
theorem phase_readLine (p : Pass) (line : Text) :
    (p.readLine ins line).1.phase = p.phase ∨ (p.readLine ins line).1.phase.rank = p.phase.rank + 1 := by
  rcases readLine_cases ins p line with ⟨_,hr⟩ | ⟨text,ha,_,hr⟩ | ⟨_,_,hr⟩
  · exact Or.inl (by rw [hr]; rfl)
  · right
    rw [hr]
    exact Phase.rank_next (Phase.ne_afterSidebar_of_awaits ha)
  · exact Or.inl (by rw [hr]; rfl)

theorem output_prefix_readLine (p : Pass) (line : Text) : p.output <+: (p.readLine ins line).1.output := by
  rcases readLine_cases ins p line with ⟨_,hr⟩ | ⟨text,_,_,hr⟩ | ⟨_,_,hr⟩
  · rw [hr, output_through]
    exact List.prefix_append _ _
  · rw [hr, output_moved]
    exact List.prefix_append _ _
  · rw [hr]
    exact List.prefix_refl _

theorem readLine_final (h : p.phase = .afterSidebar) (line : Text) :
    p.readLine ins line = (p.through [line],none) :=
  readLine_through ins (by rw [h]; rfl)

theorem close_of_final (h : p.phase = .afterSidebar) : p.close = .ok ⟨p.output,p.anchors⟩ := by
  simp [close, Phase.isFinal, h]

theorem close_of_not_final (h : p.phase ≠ .afterSidebar) : p.close = .error (.endedIn p.phase) := by
  simp [close, Phase.isFinal, h]

/-- What holds after any lines: the record fits the phase, the next line moves the pass by at most one phase
and only adds to what was given out, the last phase lets every line through, and the pass can be closed if
it has recorded five anchors, else it fails with its phase. -/
theorem readAll_invariant (lines : List Text) :
    let p := readAll ins lines
    p.lineCount = lines.length ∧ p.anchors.length = p.phase.rank ∧
    (∀ (i : Nat) (a : Anchor), p.anchors[i]? = some a → Phase.all[i]? = some a.phase) ∧
    (p.anchors.map (·.line)).Pairwise (· < ·) ∧ (∀ a ∈ p.anchors, 1 ≤ a.line ∧ a.line ≤ p.lineCount) ∧
    (∀ line, let q := readAll ins (lines ++ [line])
      (q.phase = p.phase ∨ q.phase.rank = p.phase.rank + 1) ∧ p.output <+: q.output ∧
      (p.phase = .afterSidebar → (p.readLine ins line).2 = none ∧ q.phase = .afterSidebar ∧
        q.output = p.output ++ line)) ∧
    p.close = if p.anchors.length = 5 then .ok ⟨p.output,p.anchors⟩ else .error (.endedIn p.phase) := by
  intro p
  have hp : p.Recorded lines.length := recorded_readAll ins lines
  refine ⟨hp.lineCount_eq,hp.length_anchors,fun _ _ => hp.phase_getElem?,hp.lines_increasing,hp.lines_counted,
    ?_,?_⟩
  · intro line q
    have hq : q = (p.readLine ins line).1 := readAll_append_singleton ins lines line
    rw [hq]
    refine ⟨phase_readLine ins p line,output_prefix_readLine ins p line,?_⟩
    intro hf
    rw [readLine_final ins hf]
    exact ⟨rfl,hf,by simp⟩
  · rw [hp.length_anchors]
    by_cases hf : p.phase = .afterSidebar
    · rw [if_pos (Phase.rank_eq_five_iff.mpr hf)]
      exact close_of_final hf
    · rw [if_neg fun hr => hf (Phase.rank_eq_five_iff.mp hr)]
      exact close_of_not_final hf

/-- Strings that are no lines, a tag that is torn before it comes whole, and all five anchors. -/
def roughLines : List Text :=
  [[],"<nav id=\"sidebar\"".toList,"<div class=\"sidebar-scrollbox\">\r\n".toList,
    "<div class=\"sidebar-scrollbox\">\n".toList,"\n\x7b\x7b#toc\x7d\x7d\x7b\x7b/toc\x7d\x7d\n</div>".toList,
    "</div>\r".toList,"\n </nav>".toList]

def roughInsertions : Insertions := ⟨"x".toList,"a\r\n\nb".toList,"<".toList,">".toList,"</nav>\n".toList⟩

/-- The last of the strings takes the pass to its end, and from there on it lets everything through. -/
theorem roughLines_read :
    let p := readAll roughInsertions roughLines
    p.lineCount = 7 ∧ p.phase = .afterSidebar ∧ p.anchors.length = 5 ∧ p.anchors.map (·.line) = [2,4,5,6,7] ∧
      p.close = .ok ⟨p.output,p.anchors⟩ ∧
      (readAll roughInsertions (roughLines.take 6)).close = .error (.endedIn .inSidebar) ∧
      (readAll roughInsertions (roughLines ++ [sidebarMark])).output = p.output ++ sidebarMark := by
  intro p
  obtain ⟨hcount,hlength,_,_,_,hnext,hclose⟩ := readAll_invariant roughInsertions roughLines
  obtain ⟨_,hlength',_,_,_,_,hclose'⟩ := readAll_invariant roughInsertions (roughLines.take 6)
  have hphase : p.phase = .afterSidebar := by decide +kernel
  have hphase' : (readAll roughInsertions (roughLines.take 6)).phase = .inSidebar := by decide +kernel
  have hfive : p.anchors.length = 5 := hlength.trans (congrArg Phase.rank hphase)
  have hfour : (readAll roughInsertions (roughLines.take 6)).anchors.length ≠ 5 := by
    rw [hlength', hphase']
    decide
  refine ⟨hcount,hphase,hfive,by decide +kernel,hclose.trans (if_pos hfive),?_,((hnext sidebarMark).2.2 hphase).2.2⟩
  rw [hclose', if_neg hfour, hphase']

end Pass
end BookTheme.Template
