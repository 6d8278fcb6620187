import BookTheme.Template.Pass

/-! # Steps of a pass

A line read is one of three things: it goes through, it is an anchor and moves the pass on, or it is an
anchor of the wrong shape. So a run over many lines is known from the first anchor in them, and from the
run over the lines below that.
-/
namespace BookTheme.Template
namespace Pass

/-- The pass after lines that went through as they are. -/
def through (p : Pass) (lines : List Text) : Pass :=
  { p with lineCount := p.lineCount + lines.length, written := lines.reverse ++ p.written }

/-- The pass after the anchor of its phase, for which a text was given out. -/
def moved (p : Pass) (text : Text) : Pass where
  phase := p.phase.next
  lineCount := p.lineCount + 1
  written := text :: p.written
  anchors := p.anchors ++ [⟨p.phase,p.lineCount + 1⟩]

def stuck (p : Pass) : Pass := { p with lineCount := p.lineCount + 1 }

variable (ins : Insertions) {p q : Pass}

@[simp] theorem phase_start : start.phase = .beforeSidebar := rfl

@[simp] theorem lineCount_start : start.lineCount = 0 := rfl

@[simp] theorem anchors_start : start.anchors = [] := rfl

@[simp] theorem phase_through (lines : List Text) : (p.through lines).phase = p.phase := rfl

@[simp] theorem anchors_through (lines : List Text) : (p.through lines).anchors = p.anchors := rfl

@[simp] theorem lineCount_through (lines : List Text) : (p.through lines).lineCount = p.lineCount + lines.length := rfl

@[simp] theorem output_through (lines : List Text) : (p.through lines).output = p.output ++ lines.flatten := by
  simp [output, through]

@[simp] theorem phase_moved (text : Text) : (p.moved text).phase = p.phase.next := rfl

@[simp] theorem lineCount_moved (text : Text) : (p.moved text).lineCount = p.lineCount + 1 := rfl

@[simp] theorem anchors_moved (text : Text) :
    (p.moved text).anchors = p.anchors ++ [⟨p.phase,p.lineCount + 1⟩] := rfl

@[simp] theorem output_moved (text : Text) : (p.moved text).output = p.output ++ text := by
  simp [output, moved]

theorem readLine_through {line : Text} (h : p.phase.awaits line = false) :
    p.readLine ins line = (p.through [line],none) := by
  simp [readLine, through, h]

theorem readLine_anchor {line text : Text} (h : p.phase.awaits line = true)
    (ht : replacement? ins line p.phase = some text) : p.readLine ins line = (p.moved text,none) := by
  simp [readLine, moved, h, ht]

theorem readLine_stuck {line : Text} (h : p.phase.awaits line = true)
    (ht : replacement? ins line p.phase = none) :
    p.readLine ins line = (p.stuck,some (.scrollboxTail (p.lineCount + 1))) := by
  simp [readLine, stuck, h, ht]

/-- All that can become of one line. -/
theorem readLine_cases (p : Pass) (line : Text) :
    (p.phase.awaits line = false ∧ p.readLine ins line = (p.through [line],none)) ∨
    (∃ text, p.phase.awaits line = true ∧ replacement? ins line p.phase = some text ∧
      p.readLine ins line = (p.moved text,none)) ∨
    (p.phase.awaits line = true ∧ replacement? ins line p.phase = none ∧
      p.readLine ins line = (p.stuck,some (.scrollboxTail (p.lineCount + 1)))) := by
  cases ha : p.phase.awaits line with
  | false => exact Or.inl ⟨rfl,readLine_through ins ha⟩
  | true =>
    right
    cases ht : replacement? ins line p.phase with
    | some text => exact Or.inl ⟨text,rfl,rfl,readLine_anchor ins ha ht⟩
    | none => exact Or.inr ⟨rfl,rfl,readLine_stuck ins ha ht⟩

theorem readLines_through {gap : List Text} (h : ∀ line ∈ gap, p.phase.awaits line = false) (rest : List Text) :
    p.readLines ins (gap ++ rest) = (p.through gap).readLines ins rest := by
  induction gap generalizing p with
  | nil => rfl
  | cons line gap ih =>
    have hl := readLine_through ins (h line List.mem_cons_self)
    have hg : ∀ x ∈ gap, (p.through [line]).phase.awaits x = false := fun x hx => h x (List.mem_cons_of_mem _ hx)
    have ho : (p.through [line]).through gap = p.through (line :: gap) := by
      simp [through, Nat.add_comm, Nat.add_left_comm]
    simp only [List.cons_append, readLines, hl]
    rw [ih hg, ho]

theorem readLines_anchor {anchor text : Text} (h : p.phase.awaits anchor = true)
    (ht : replacement? ins anchor p.phase = some text) (rest : List Text) :
    p.readLines ins (anchor :: rest) = (p.moved text).readLines ins rest := by
  simp only [readLines, readLine_anchor ins h ht]

theorem readLines_stuck {anchor : Text} (h : p.phase.awaits anchor = true)
    (ht : replacement? ins anchor p.phase = none) (rest : List Text) :
    p.readLines ins (anchor :: rest) = .error (.scrollboxTail (p.lineCount + 1)) := by
  simp only [readLines, readLine_stuck ins h ht]

theorem readLines_stretch {f : Phase} (hp : p.phase = f) {gap : List Text} {anchor text : Text}
    (hg : ∀ line ∈ gap, f.awaits line = false) (ha : f.awaits anchor = true)
    (ht : replacement? ins anchor f = some text) (rest : List Text) :
    p.readLines ins (gap ++ anchor :: rest) = ((p.through gap).moved text).readLines ins rest := by
  subst hp
  rw [readLines_through ins hg]
  exact readLines_anchor ins (p := p.through gap) ha ht rest

theorem readLines_final (h : p.phase = .afterSidebar) (lines : List Text) :
    p.readLines ins lines = .ok (p.through lines) := by
  have hl : ∀ line ∈ lines, p.phase.awaits line = false := by
    intro line _
    rw [h]
    rfl
  simpa [readLines] using readLines_through ins hl []

/-- All that can become of lines: no anchor is among them, or the first one is replaced and the rest is
read, or the first one has the wrong shape. -/
theorem readLines_cases (p : Pass) (lines : List Text) :
    ((∀ line ∈ lines, p.phase.awaits line = false) ∧ p.readLines ins lines = .ok (p.through lines)) ∨
    ∃ gap anchor rest, lines = gap ++ anchor :: rest ∧
      (∀ line ∈ gap, p.phase.awaits line = false) ∧ p.phase.awaits anchor = true ∧
      ((∃ text, replacement? ins anchor p.phase = some text ∧
          p.readLines ins lines = ((p.through gap).moved text).readLines ins rest) ∨
        (replacement? ins anchor p.phase = none ∧
          p.readLines ins lines = .error (.scrollboxTail (p.lineCount + gap.length + 1)))) := by
  cases hf : lines.find? p.phase.awaits with
  | none =>
    have hn : ∀ line ∈ lines, p.phase.awaits line = false := by simpa using List.find?_eq_none.mp hf
    exact Or.inl ⟨hn,by simpa [readLines] using readLines_through ins hn []⟩
  | some anchor =>
    obtain ⟨ha,gap,rest,rfl,hg⟩ := List.find?_eq_some_iff_append.mp hf
    have hg : ∀ line ∈ gap, p.phase.awaits line = false := by simpa using hg
    refine Or.inr ⟨gap,anchor,rest,rfl,hg,ha,?_⟩
    cases ht : replacement? ins anchor p.phase with
    | none =>
      rw [readLines_through ins hg]
      exact Or.inr ⟨rfl,readLines_stuck ins (p := p.through gap) ha ht rest⟩
    | some text => exact Or.inl ⟨text,rfl,readLines_stretch ins rfl hg ha ht rest⟩

variable {ins} in
/-- A pass that has left its phase has met the first line that the phase awaits, and has replaced it. -/
theorem exists_anchor_of_readLines {lines : List Text} (h : p.readLines ins lines = .ok q)
    (hq : q.phase ≠ p.phase) :
    ∃ gap anchor rest text, lines = gap ++ anchor :: rest ∧
      (∀ line ∈ gap, p.phase.awaits line = false) ∧ p.phase.awaits anchor = true ∧
      replacement? ins anchor p.phase = some text ∧ ((p.through gap).moved text).readLines ins rest = .ok q := by
  rcases readLines_cases ins p lines with ⟨_,hr⟩ | ⟨gap,anchor,rest,hl,hg,ha,⟨text,ht,hr⟩ | ⟨_,hr⟩⟩
  · rw [hr] at h
    cases h
    exact absurd rfl hq
  · exact ⟨gap,anchor,rest,text,hl,hg,ha,ht,hr ▸ h⟩
  · rw [hr] at h
    cases h

end Pass

theorem patch_eq_ok_iff_readLines {ins : Insertions} {text : Text} {out : Patched} :
    patch ins text = .ok out ↔ ∃ q, Pass.start.readLines ins text.pieces = .ok q ∧
      q.phase = .afterSidebar ∧ out = ⟨q.output,q.anchors⟩ := by
  unfold patch readThrough
  cases Pass.start.readLines ins text.pieces with
  | error e => simp [bind, Except.bind]
  | ok q =>
    by_cases hq : q.phase = .afterSidebar
    · simp [bind, Except.bind, Pass.close, Phase.isFinal, hq, eq_comm]
    · simp [bind, Except.bind, Pass.close, Phase.isFinal, hq]

end BookTheme.Template
