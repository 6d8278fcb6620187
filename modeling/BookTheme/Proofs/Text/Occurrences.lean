import BookTheme.Text.Blank
import Mathlib.Data.List.Infix

/-! # How often a mark stands in a text

A mark stands at every place of a text from which on the text begins with it. Read from the left, each character
can begin one more occurrence; read from the right, each can end one more, so what follows the end of the last
occurrence is of no account.
-/
namespace BookTheme.Text
variable {mark s : Text}

/-- The number of places at which a mark stands; they may overlap. -/
def occurrences (mark s : Text) : Nat := s.tails.countP fun t => mark <+: t

theorem occurrences_nil (h : mark ≠ []) : occurrences mark [] = 0 := by
  simp [occurrences, h]

theorem occurrences_cons (mark : Text) (c : Char) (s : Text) :
    occurrences mark (c :: s) = occurrences mark s + if mark <+: c :: s then 1 else 0 := by
  rw [occurrences, List.tails_cons, List.countP_cons, occurrences]
  simp only [decide_eq_true_eq]

theorem occurrences_eq_zero_iff : occurrences mark s = 0 ↔ ¬ mark <:+: s := by
  rw [occurrences, List.countP_eq_zero, List.infix_iff_prefix_suffix]
  simp only [List.mem_tails, decide_eq_true_eq, not_exists, not_and]
  exact ⟨fun h t hp ht => h t ht hp,fun h t ht hp => h t hp ht⟩

/-- One more character at the end of a text can end one more occurrence. -/
theorem occurrences_concat (h : mark ≠ []) (s : Text) (c : Char) :
    occurrences mark (s ++ [c]) = occurrences mark s + if mark <:+ s ++ [c] then 1 else 0 := by
  induction s with
  | nil =>
    rw [List.nil_append, occurrences_cons, occurrences_nil h]
    have hone : mark <+: [c] ↔ mark <:+ [c] := by
      rw [List.suffix_cons_iff, List.suffix_nil, ← List.nil_append [c], List.prefix_concat_iff, List.prefix_nil]
    simp only [hone]
  | cons d s ih =>
    rw [List.cons_append, occurrences_cons, occurrences_cons, ih]
    by_cases hw : mark = d :: (s ++ [c])
    · have hlen : mark.length = s.length + 2 := by simp [hw]
      have hs : ¬ mark <:+ s ++ [c] := fun hm => by have := hm.length_le; simp at this; omega
      have hp : ¬ mark <+: d :: s := fun hm => by have := hm.length_le; simp at this; omega
      have hend : mark <:+ d :: (s ++ [c]) := hw ▸ List.suffix_refl _
      have hstart : mark <+: d :: (s ++ [c]) := hw ▸ List.prefix_refl _
      simp only [hs, hp, hend, hstart, if_true, if_false]
    · have hend : mark <:+ d :: (s ++ [c]) ↔ mark <:+ s ++ [c] :=
        List.suffix_cons_iff.trans (or_iff_right hw)
      have hstart : mark <+: d :: (s ++ [c]) ↔ mark <+: d :: s := by
        rw [← List.cons_append, List.prefix_concat_iff]
        exact or_iff_right hw
      simp only [hend, hstart]
      omega

end BookTheme.Text
