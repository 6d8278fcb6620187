import BookTheme.Proofs.Text.Trim
import Mathlib.Data.List.Infix
import Mathlib.Data.List.TakeWhile

/-! # Where a mark can stand

A mark that stands in two texts put together stands in one of them, or across the seam. It cannot stand
across the seam if no beginning of it ends the first text, or no end of it begins the second. Blanks are
such texts for a mark that neither begins nor ends with one, so these are of no account in a search.
-/
namespace BookTheme.Text
variable {mark s t u : Text}

theorem infix_append_iff_left (ht : ¬ mark <:+: t) (h : ∀ b ∈ mark.tails, b <+: t → b = []) :
    mark <:+: s ++ t ↔ mark <:+: s := by
  constructor
  · intro hm
    rcases List.infix_append_iff_ne_nil.mp hm with hm | hm | ⟨a,b,_,hb,rfl,_,hbt⟩
    · exact hm
    · exact absurd hm ht
    · exact absurd (h b ((List.mem_tails _ _).mpr (List.suffix_append a b)) hbt) hb
  · exact fun hm => List.infix_append_of_infix_left hm

theorem infix_append_iff_right (hs : ¬ mark <:+: s) (h : ∀ a ∈ mark.inits, a <:+ s → a = []) :
    mark <:+: s ++ t ↔ mark <:+: t := by
  constructor
  · intro hm
    rcases List.infix_append_iff_ne_nil.mp hm with hm | hm | ⟨a,b,ha,_,rfl,has,_⟩
    · exact absurd hm hs
    · exact hm
    · exact absurd (h a ((List.mem_inits _ _).mpr (List.prefix_append a b)) has) ha
  · exact fun hm => List.infix_append_of_infix_right hm

/-- A mark that neither begins nor ends with a blank. -/
def Solid (mark : Text) : Prop := trim mark = mark ∧ mark ≠ []

instance (mark : Text) : Decidable (Solid mark) := inferInstanceAs (Decidable (_ ∧ _))

theorem Solid.starts (h : Solid mark) : ∃ c rest, mark = c :: rest ∧ isBlank c = false := by
  obtain ⟨c,rest,hc⟩ := trim_starts (s := mark) (by rw [h.1]; exact h.2)
  exact ⟨c,rest,h.1 ▸ hc⟩

theorem Solid.ends (h : Solid mark) : ∃ rest c, mark = rest ++ [c] ∧ isBlank c = false := by
  obtain ⟨rest,c,hc⟩ := trim_ends (s := mark) (by rw [h.1]; exact h.2)
  exact ⟨rest,c,h.1 ▸ hc⟩

theorem Solid.infix_blanks_append_iff (h : Solid mark) (hu : ∀ c ∈ u, isBlank c = true) :
    mark <:+: u ++ s ↔ mark <:+: s := by
  obtain ⟨c,rest,rfl,hc⟩ := h.starts
  have hcu : c ∉ u := fun hm => by rw [hu c hm] at hc; cases hc
  apply infix_append_iff_right
  · exact fun hm => hcu (hm.subset List.mem_cons_self)
  · intro a ha hau
    rcases List.prefix_cons_iff.mp ((List.mem_inits _ _).mp ha) with rfl | ⟨b,rfl,_⟩
    · rfl
    · exact absurd (hau.subset List.mem_cons_self) hcu

theorem Solid.infix_append_blanks_iff (h : Solid mark) (hu : ∀ c ∈ u, isBlank c = true) :
    mark <:+: s ++ u ↔ mark <:+: s := by
  obtain ⟨rest,c,rfl,hc⟩ := h.ends
  have hcu : c ∉ u := fun hm => by rw [hu c hm] at hc; cases hc
  apply infix_append_iff_left
  · exact fun hm => hcu (hm.subset (by simp))
  · intro b hb hbu
    rcases List.suffix_concat_iff.mp ((List.mem_tails _ _).mp hb) with rfl | ⟨a,rfl,_⟩
    · rfl
    · exact absurd (hbu.subset (by simp)) hcu

theorem Solid.infix_trim_iff (h : Solid mark) : mark <:+: trim s ↔ mark <:+: s := by
  obtain ⟨w,hs,hw⟩ := exists_blanks_after_trim s
  calc
    mark <:+: trim s ↔ mark <:+: trim s ++ w := (h.infix_append_blanks_iff hw).symm
    _ ↔ mark <:+: indent s ++ (trim s ++ w) :=
      (h.infix_blanks_append_iff fun _ => isBlank_of_mem_indent).symm
    _ ↔ mark <:+: s := by rw [← hs]

theorem trim_blanks_append (hu : ∀ c ∈ u, isBlank c = true) (s : Text) : trim (u ++ s) = trim s := by
  rw [trim, trimStart, List.dropWhile_append_of_pos hu, trim, trimStart]

theorem trim_append_blanks (s : Text) (hu : ∀ c ∈ u, isBlank c = true) : trim (s ++ u) = trim s := by
  rw [trim, trim, trimStart, trimStart, List.dropWhile_append]
  split
  · rename_i he
    have hd : u.dropWhile isBlank = [] := List.dropWhile_eq_nil_iff.mpr hu
    rw [hd, List.isEmpty_iff.mp he]
  · exact trimEnd_append_blanks _ hu

end BookTheme.Text
