import BookTheme.Proofs.Template.Twice
import BookTheme.Proofs.Text.Occurrences

/-! # When a second pass finds no scroll box

Below the line that opens the sidebar, the first pass writes the mark of the scroll box nowhere and takes it away
at one place, the end of the line of the scroll box. So how often the mark stands there, and where, says whether a
second pass can end for lack of it.
-/
namespace BookTheme.Template
open Text (Cut occurrences)

/-- The lines below the first one that opens the sidebar. -/
def belowSidebar (text : Text) : List Text :=
  (text.pieces.dropWhile fun line => ¬ sidebarMark <:+: line).tail

/-- How often the mark of the scroll box stands in some lines. -/
def scrollboxMarks : List Text → Nat
  | [] => 0
  | line :: rest => occurrences scrollboxMark line + scrollboxMarks rest

theorem scrollboxMarks_append (xs ys : List Text) :
    scrollboxMarks (xs ++ ys) = scrollboxMarks xs + scrollboxMarks ys := by
  induction xs with
  | nil => simp [scrollboxMarks]
  | cons x xs ih => rw [List.cons_append, scrollboxMarks, scrollboxMarks, ih, Nat.add_assoc]

theorem scrollboxMarks_eq_zero_iff {lines : List Text} :
    scrollboxMarks lines = 0 ↔ ∀ line ∈ lines, ¬ scrollboxMark <:+: line := by
  induction lines with
  | nil => simp [scrollboxMarks]
  | cons x lines ih =>
    rw [scrollboxMarks, Nat.add_eq_zero_iff, Text.occurrences_eq_zero_iff, ih, List.forall_mem_cons]

/-- The mark ends with its tag, so in a line that ends with a tag it can stand once more than before that end. -/
theorem occurrences_tagged (head : Text) :
    occurrences scrollboxMark (head ++ ['>','\n']) =
      occurrences scrollboxMark head + if scrollboxMark ++ ['\n'] <:+ head ++ ['>','\n'] then 1 else 0 := by
  have hne : scrollboxMark ≠ [] := by decide
  have hnewline : ¬ scrollboxMark <:+ (head ++ ['>']) ++ ['\n'] := by
    intro h
    have hlast : scrollboxMark.getLast? = some '>' := by decide
    obtain ⟨front,hf⟩ := h
    have he := congrArg List.getLast? hf
    simp [hlast] at he
  have hline : head ++ ['>','\n'] = (head ++ ['>']) ++ ['\n'] := by simp
  rw [hline, Text.occurrences_concat hne, if_neg hnewline, Text.occurrences_concat hne, Nat.add_zero]
  simp only [List.suffix_append_self_iff]

namespace Layout
variable {l : Layout}

theorem belowSidebar_eq {text : Text} (h : text.pieces = l.lines) :
    belowSidebar text = l.beforeScrollbox ++ (l.scrollbox ++ ['>','\n']) :: l.below := by
  have hfree : ∀ line ∈ l.beforeSidebar, decide (¬ sidebarMark <:+: line) = true :=
    fun line hl => decide_eq_true (l.beforeSidebar_free line hl)
  have hmark : ¬ decide (¬ sidebarMark <:+: l.sidebar) = true := by simpa using l.sidebar_mark
  rw [belowSidebar, h, lines, List.dropWhile_append_of_pos hfree,
    List.dropWhile_cons_of_neg (p := fun line => ¬ sidebarMark <:+: line) hmark, List.tail_cons, below,
    middle_append_bottom]
  rfl

/-- The mark stands once below the sidebar, at the end of a line, exactly if it stands neither in the line of the
scroll box before its end nor further down. -/
theorem marked_once_iff (l : Layout) :
    scrollboxMarks (l.beforeScrollbox ++ (l.scrollbox ++ ['>','\n']) :: l.below) = 1 ∧
        (∃ line ∈ l.beforeScrollbox ++ (l.scrollbox ++ ['>','\n']) :: l.below, scrollboxMark ++ ['\n'] <:+ line) ↔
      ¬ scrollboxMark <:+: l.scrollbox ∧ ∀ line ∈ l.below, ¬ scrollboxMark <:+: line := by
  have hbefore : scrollboxMarks l.beforeScrollbox = 0 := scrollboxMarks_eq_zero_iff.mpr l.beforeScrollbox_free
  have hline : occurrences scrollboxMark (l.scrollbox ++ ['>','\n']) ≠ 0 :=
    fun h => Text.occurrences_eq_zero_iff.mp h l.scrollbox_mark
  rw [scrollboxMarks_append, scrollboxMarks, hbefore, ← scrollboxMarks_eq_zero_iff,
    ← Text.occurrences_eq_zero_iff]
  have htagged := occurrences_tagged l.scrollbox
  constructor
  · rintro ⟨hsum,line,hl,hend⟩
    have hbelow : scrollboxMarks l.below = 0 := by omega
    have hmem : line = l.scrollbox ++ ['>','\n'] := by
      have hfree : ∀ x ∈ l.beforeScrollbox ++ l.below, ¬ scrollboxMark <:+: x :=
        List.forall_mem_append.mpr ⟨l.beforeScrollbox_free,scrollboxMarks_eq_zero_iff.mp hbelow⟩
      have hm : scrollboxMark <:+: line := (List.prefix_append _ _).isInfix.trans hend.isInfix
      rcases List.mem_append.mp hl with hl | hl
      · exact absurd hm (hfree line (List.mem_append_left _ hl))
      · rcases List.mem_cons.mp hl with rfl | hl
        · rfl
        · exact absurd hm (hfree line (List.mem_append_right _ hl))
    rw [if_pos (hmem ▸ hend)] at htagged
    exact ⟨by omega,hbelow⟩
  · rintro ⟨hhead,hbelow⟩
    by_cases hend : scrollboxMark ++ ['\n'] <:+ l.scrollbox ++ ['>','\n']
    · rw [if_pos hend] at htagged
      exact ⟨by omega,_,List.mem_append_right _ List.mem_cons_self,hend⟩
    · rw [if_neg hend] at htagged
      omega

end Layout

/-- A page that has been patched is refused a second time for lack of a scroll box exactly if the mark of the scroll
box stands only once below the line that opens the sidebar, and there ends its line. -/
theorem refused_again_iff {text : Text} {out : Patched} (h : patch Default.insertions text = .ok out) :
    patch Default.insertions out.text = .error (.endedIn .beforeScrollbox) ↔
      scrollboxMarks (belowSidebar text) = 1 ∧
        ∃ line ∈ belowSidebar text, scrollboxMark ++ ['\n'] <:+ line := by
  obtain ⟨l,hl,rfl⟩ := exists_layout_of_patch h
  have hc : Cut l.lines := hl ▸ Text.cut_pieces text
  rw [l.patch_patched_endedIn_iff hc, Layout.belowSidebar_eq hl, l.marked_once_iff]

/-- The tag of the scroll box alone in its line makes a second pass end for lack of a scroll box. It does not if a
paragraph opens behind it. -/
theorem anchorPage_unmarked :
    (∃ out, patch Default.insertions (anchorPage "") = .ok out ∧
      patch Default.insertions out.text = .error (.endedIn .beforeScrollbox)) ∧
    ∃ out, patch Default.insertions (anchorPage "<p>") = .ok out ∧
      patch Default.insertions out.text ≠ .error (.endedIn .beforeScrollbox) := by
  have halone : (anchorPage "").pieces =
      (anchorLayout "<div class=\"sidebar-scrollbox\"".toList (by decide +kernel)).lines := by decide +kernel
  have hopen : (anchorPage "<p>").pieces =
      (anchorLayout "<div class=\"sidebar-scrollbox\"><p".toList (by decide +kernel)).lines := by decide +kernel
  have halone := Layout.patch_of_pieces _ halone Default.insertions
  have hopen := Layout.patch_of_pieces _ hopen Default.insertions
  exact ⟨⟨_,halone,(refused_again_iff halone).mpr (by decide +kernel)⟩,
    _,hopen,mt (refused_again_iff hopen).mp (by decide +kernel)⟩

end BookTheme.Template
