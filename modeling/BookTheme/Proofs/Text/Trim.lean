import BookTheme.Proofs.Text.Pieces

/-! # What trimming leaves

A text is its indent, what is left when it is trimmed, and blanks. What is left begins and ends with
characters that are no blanks, and there is no other way to cut a text so. Since a newline is a blank, the
newline of a line is trimmed away, and a line that has more than blanks has no newline in its indent.
-/
namespace BookTheme.Text

/-- A text cut into blanks, a body that neither begins nor ends with a blank, and blanks. -/
structure Margins (s : Text) where
  left : Text
  body : Text
  right : Text
  eq : s = left ++ (body ++ right)
  left_blank : ∀ c ∈ left, isBlank c = true
  body_starts : ∃ c rest, body = c :: rest ∧ isBlank c = false
  body_ends : ∃ rest c, body = rest ++ [c] ∧ isBlank c = false
  right_blank : ∀ c ∈ right, isBlank c = true

theorem isBlank_newline : isBlank '\n' = true := by decide

theorem dropWhile_starts {p : Char → Bool} {s : Text} (h : s.dropWhile p ≠ []) :
    ∃ c rest, s.dropWhile p = c :: rest ∧ p c = false := by
  have hc := List.head_dropWhile_not p h
  exact ⟨_,_,(List.cons_head_tail h).symm,by simpa using hc⟩

theorem trimEnd_append_blanks (s : Text) {w : Text} (hw : ∀ c ∈ w, isBlank c = true) :
    trimEnd (s ++ w) = trimEnd s := by
  have hr : ∀ c ∈ w.reverse, isBlank c = true := fun c hc => hw c (List.mem_reverse.mp hc)
  rw [trimEnd, List.reverse_append, List.dropWhile_append_of_pos hr, trimEnd]

theorem trimEnd_append_of_not_isBlank (s : Text) {c : Char} (hc : isBlank c = false) :
    trimEnd (s ++ [c]) = s ++ [c] := by
  simp [trimEnd, hc]

theorem trimEnd_cons_of_not_isBlank {c : Char} (hc : isBlank c = false) (s : Text) :
    trimEnd (c :: s) = c :: trimEnd s := by
  rw [trimEnd, List.reverse_cons, List.dropWhile_append, trimEnd]
  split
  · rename_i he
    simp [List.isEmpty_iff.mp he, hc]
  · simp

def blankEnd (s : Text) : Text := (indent s.reverse).reverse

theorem isBlank_of_mem_blankEnd {s : Text} {c : Char} (h : c ∈ blankEnd s) : isBlank c = true :=
  isBlank_of_mem_indent (List.mem_reverse.mp h)

theorem trimEnd_append_blankEnd (s : Text) : trimEnd s ++ blankEnd s = s := by
  have h := congrArg List.reverse (indent_append_trimStart s.reverse)
  rwa [List.reverse_append, List.reverse_reverse] at h

theorem eq_indent_append_trim (s : Text) : s = indent s ++ (trim s ++ blankEnd (trimStart s)) :=
  calc
    s = indent s ++ trimStart s := (indent_append_trimStart s).symm
    _ = indent s ++ (trim s ++ blankEnd (trimStart s)) := by rw [trim, trimEnd_append_blankEnd]

theorem exists_blanks_after_trim (s : Text) : ∃ w, s = indent s ++ (trim s ++ w) ∧ ∀ c ∈ w, isBlank c = true :=
  ⟨_,eq_indent_append_trim s,fun _ => isBlank_of_mem_blankEnd⟩

theorem trim_ends {s : Text} (h : trim s ≠ []) : ∃ t c, trim s = t ++ [c] ∧ isBlank c = false := by
  have hr : (trimStart s).reverse.dropWhile isBlank ≠ [] := fun he => h (by simp [trim, trimEnd, he])
  obtain ⟨c,rest,hd,hc⟩ := dropWhile_starts hr
  exact ⟨rest.reverse,c,by simp [trim, trimEnd, hd],hc⟩

theorem trim_starts {s : Text} (h : trim s ≠ []) : ∃ c rest, trim s = c :: rest ∧ isBlank c = false := by
  have hs : trimStart s ≠ [] := fun he => h (by simp [trim, trimEnd, he])
  obtain ⟨c,rest,hd,hc⟩ := dropWhile_starts hs
  refine ⟨c,trimEnd rest,?_,hc⟩
  rw [trim, trimStart, hd, trimEnd_cons_of_not_isBlank hc]

def margins (s : Text) (h : trim s ≠ []) : Margins s :=
  ⟨indent s,trim s,blankEnd (trimStart s),eq_indent_append_trim s,fun _ => isBlank_of_mem_indent,trim_starts h,
    trim_ends h,fun _ => isBlank_of_mem_blankEnd⟩

namespace Margins
variable {s : Text}

theorem left_eq (m : Margins s) : m.left = indent s := by
  obtain ⟨c,rest,hb,hc⟩ := m.body_starts
  have hstop : (m.body ++ m.right).takeWhile isBlank = [] := by simp [hb, hc]
  calc
    m.left = indent (m.left ++ (m.body ++ m.right)) := by
      rw [indent, List.takeWhile_append_of_pos m.left_blank, hstop, List.append_nil]
    _ = indent s := congrArg indent m.eq.symm

theorem trimStart_eq (m : Margins s) : trimStart s = m.body ++ m.right := by
  have h := indent_append_trimStart s
  rw [← m.left_eq] at h
  exact List.append_cancel_left (h.trans m.eq)

theorem body_eq (m : Margins s) : m.body = trim s := by
  obtain ⟨rest,c,hb,hc⟩ := m.body_ends
  rw [trim, m.trimStart_eq, trimEnd_append_blanks _ m.right_blank, hb, trimEnd_append_of_not_isBlank _ hc]

end Margins

theorem trim_ne_nil_of_mem {s : Text} {c : Char} (hm : c ∈ s) (hc : isBlank c = false) : trim s ≠ [] := by
  intro h
  obtain ⟨w,hs,hw⟩ := exists_blanks_after_trim s
  rw [h, List.nil_append] at hs
  rw [hs] at hm
  rcases List.mem_append.mp hm with hm | hm
  · simp [isBlank_of_mem_indent hm] at hc
  · simp [hw c hm] at hc

theorem trim_ne_nil_iff {s : Text} : trim s ≠ [] ↔ ∃ c ∈ s, isBlank c = false := by
  constructor
  · intro h
    obtain ⟨c,rest,hc,hblank⟩ := trim_starts h
    obtain ⟨w,hs,_⟩ := exists_blanks_after_trim s
    refine ⟨c,?_,hblank⟩
    rw [hs, hc]
    simp
  · rintro ⟨c,hm,hc⟩
    exact trim_ne_nil_of_mem hm hc

theorem trimEnd_eq_indent_append_trim {s : Text} (h : trim s ≠ []) : trimEnd s = indent s ++ trim s := by
  obtain ⟨w,hs,hw⟩ := exists_blanks_after_trim s
  obtain ⟨t,c,ht,hc⟩ := trim_ends h
  have he : trimEnd (indent s ++ trim s ++ w) = indent s ++ trim s := by
    rw [trimEnd_append_blanks _ hw, ht, ← List.append_assoc, trimEnd_append_of_not_isBlank _ hc]
  rw [List.append_assoc, ← hs] at he
  exact he

/-- The newline of a line that has more than blanks stands behind all of that. -/
theorem newline_not_mem_of_trim {line : Text} (hl : Ended line ∨ '\n' ∉ line) (h : trim line ≠ []) :
    '\n' ∉ indent line ∧ '\n' ∉ trim line := by
  obtain ⟨w,hs,_⟩ := exists_blanks_after_trim line
  obtain ⟨t,c,ht,hc⟩ := trim_ends h
  rcases hl with ⟨head,hh,he⟩ | hl
  · rcases List.eq_nil_or_concat w with rfl | ⟨v,d,rfl⟩
    · have hlast : indent line ++ t ++ [c] = head ++ ['\n'] := by
        rw [← he, List.append_assoc, ← ht]
        simpa using hs.symm
      have hcn : c = '\n' := by simpa using (List.append_inj' hlast rfl).2
      rw [hcn, isBlank_newline] at hc
      cases hc
    · have hhead : indent line ++ (trim line ++ v) ++ [d] = head ++ ['\n'] := by
        rw [← he]
        simpa using hs.symm
      have hh' := (List.append_inj' hhead rfl).1
      rw [← hh'] at hh
      simp only [List.mem_append, not_or] at hh
      exact ⟨hh.1,hh.2.1⟩
  · rw [hs] at hl
    simp only [List.mem_append, not_or] at hl
    exact ⟨hl.1,hl.2.1⟩

end BookTheme.Text
