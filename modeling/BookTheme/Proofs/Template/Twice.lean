import BookTheme.Proofs.Template.Diagnosis
import BookTheme.Proofs.Template.Recovery
import BookTheme.Proofs.Text.Marks
import BookTheme.Settings.Basic

/-! # Patching a page twice

The mark of the scroll box ends with its tag, so that the line that has been given an attribute is not met
again. This keeps a page from being patched twice as long as the mark stands once in that line, at its end,
and in no line below. Where it stands elsewhere too, a second pass can find it there, and then all other
anchors may still be found: the line of the table of contents keeps its mark, and the closing tags are as
they were. What is put in by default has no anchor of its own.
-/
namespace BookTheme.Template
open Text (Ended Cut Solid)

/-! ## Lines without anchors -/

/-- A line that no phase waits for. -/
def Inert (line : Text) : Prop := ∀ f : Phase, ¬ f.Met line

variable {ins : Insertions} {p : Pass} {f : Phase} {line : Text} {xs ys lines rest : List Text} {k : Nat}

theorem solid_sidebarMark : Solid sidebarMark := by decide

theorem solid_scrollboxMark : Solid scrollboxMark := by decide

theorem solid_tocMark : Solid tocMark := by decide

/-- Blanks around a line make no difference to what it is. -/
theorem Phase.met_between_blanks_iff {u w : Text} (hu : ∀ c ∈ u, Text.isBlank c = true)
    (hw : ∀ c ∈ w, Text.isBlank c = true) : f.Met (u ++ line ++ w) ↔ f.Met line := by
  have hm : ∀ {mark : Text}, Solid mark → (mark <:+: u ++ line ++ w ↔ mark <:+: line) := by
    intro mark h
    rw [h.infix_append_blanks_iff hw, h.infix_blanks_append_iff hu]
  have ht : (u ++ line ++ w).trim = line.trim := by
    rw [Text.trim_append_blanks _ hw, Text.trim_blanks_append hu]
  cases f with
  | beforeSidebar => exact hm solid_sidebarMark
  | beforeScrollbox => exact hm solid_scrollboxMark
  | beforeToc => exact hm solid_tocMark
  | inScrollbox => rw [Met, Met, ht]
  | inSidebar => rw [Met, Met, ht]
  | afterSidebar => exact Iff.rfl

theorem inert_of_mem_insertion {block sub : Text} (hb : ∀ s ∈ Text.blockLines block, Inert s)
    (h : sub ∈ insertion block line) : Inert sub := by
  obtain ⟨s,hs,rfl⟩ := List.mem_map.mp h
  intro f hf
  refine hb s hs f ((Phase.met_between_blanks_iff ?_ ?_).mp hf)
  · intro c hc
    rcases List.mem_append.mp hc with hc | hc
    · exact Text.isBlank_of_mem_indent hc
    · have he : c = ' ' := by simpa using hc
      rw [he]
      decide
  · intro c hc
    rw [List.mem_singleton.mp hc]
    exact Text.isBlank_newline

theorem choosable_insert (hx : ∀ x ∈ xs, Inert x) (above : List Text) :
    Choosable f (above ++ (xs ++ ys)) k ↔ Choosable f (above ++ ys) k := by
  induction above generalizing f k with
  | nil =>
    induction xs with
    | nil => exact Iff.rfl
    | cons x xs ih =>
      have hr : ∀ y ∈ xs, Inert y := fun y hy => hx y (List.mem_cons_of_mem _ hy)
      exact (choosable_cons_of_not_met (hx x List.mem_cons_self f)).trans (ih hr)
  | cons x above ih =>
    by_cases hm : f.Met x
    · cases k with
      | zero => exact iff_of_true (choosable_zero f _) (choosable_zero f _)
      | succ k =>
        rw [List.cons_append, List.cons_append, choosable_cons_of_met hm, choosable_cons_of_met hm]
        exact ih
    · rw [List.cons_append, List.cons_append, choosable_cons_of_not_met hm, choosable_cons_of_not_met hm]
      exact ih

theorem choosable_append (h : Choosable f lines k) (xs : List Text) : Choosable f (xs ++ lines) k := by
  induction xs with
  | nil => exact h
  | cons x xs ih => exact List.SublistForall₂.cons_right ih

/-! ## From the tag of the scroll box on -/

/-- The first line with the mark of the scroll box ends with the end of a tag, and the other three anchors
can be found below it. -/
def Reopened (lines : List Text) : Prop :=
  ∃ above line rest, lines = above ++ line :: rest ∧ (∀ x ∈ above, ¬ scrollboxMark <:+: x) ∧
    scrollboxMark <:+: line ∧ ['>','\n'] <:+ line ∧ Choosable .beforeToc rest 3

theorem reopened_cons_of_mark (h : scrollboxMark <:+: line) :
    Reopened (line :: rest) ↔ ['>','\n'] <:+ line ∧ Choosable .beforeToc rest 3 := by
  constructor
  · rintro ⟨above,line',rest',he,ha,_,ht,hc⟩
    cases above with
    | nil =>
      cases he
      exact ⟨ht,hc⟩
    | cons x above =>
      cases he
      exact absurd h (ha line List.mem_cons_self)
  · rintro ⟨ht,hc⟩
    exact ⟨[],line,rest,rfl,by simp,h,ht,hc⟩

theorem reopened_cons_of_not_mark (h : ¬ scrollboxMark <:+: line) :
    Reopened (line :: rest) ↔ Reopened rest := by
  constructor
  · rintro ⟨above,line',rest',he,ha,hm,ht,hc⟩
    cases above with
    | nil =>
      cases he
      exact absurd hm h
    | cons x above =>
      cases he
      exact ⟨above,line',rest',rfl,fun y hy => ha y (List.mem_cons_of_mem _ hy),hm,ht,hc⟩
  · rintro ⟨above,line',rest',rfl,ha,hm,ht,hc⟩
    refine ⟨line :: above,line',rest',rfl,?_,hm,ht,hc⟩
    intro y hy
    rcases List.mem_cons.mp hy with rfl | hy
    · exact h
    · exact ha y hy

theorem reopened_insert (hx : ∀ x ∈ xs, Inert x) (above : List Text) :
    Reopened (above ++ (xs ++ ys)) ↔ Reopened (above ++ ys) := by
  induction above with
  | nil =>
    induction xs with
    | nil => exact Iff.rfl
    | cons x xs ih =>
      have hr : ∀ y ∈ xs, Inert y := fun y hy => hx y (List.mem_cons_of_mem _ hy)
      exact (reopened_cons_of_not_mark (hx x List.mem_cons_self .beforeScrollbox)).trans (ih hr)
  | cons x above ih =>
    by_cases hm : scrollboxMark <:+: x
    · rw [List.cons_append, List.cons_append, reopened_cons_of_mark hm, reopened_cons_of_mark hm,
        choosable_insert hx]
    · rw [List.cons_append, List.cons_append, reopened_cons_of_not_mark hm, reopened_cons_of_not_mark hm]
      exact ih

namespace Pass

theorem final_iff_reopened (hp : p.phase = .beforeScrollbox) :
    (∃ q, p.readLines ins lines = .ok q ∧ q.phase = .afterSidebar) ↔ Reopened lines := by
  constructor
  · rintro ⟨q,hq,hf⟩
    obtain ⟨above,line,rest,text,rfl,ha,hl,ht,hr⟩ :=
      exists_anchor_of_readLines hq (by rw [hf, hp]; decide)
    rw [hp] at ha hl ht
    obtain ⟨head,rfl,_⟩ := replacement?_beforeScrollbox_eq_some_iff.mp ht
    refine ⟨above,_,rest,rfl,fun x hx => contains_eq_false_iff.mp (ha x hx),Text.contains_iff.mp hl,
      List.suffix_append _ _,?_⟩
    have hc := choosable_iff_of_readLines hr (k := 3)
    rw [phase_moved, phase_through, hp, hf] at hc
    exact hc.mpr (by decide)
  · rintro ⟨above,line,rest,rfl,ha,hm,⟨head,rfl⟩,hc⟩
    have ha' : ∀ x ∈ above, Phase.beforeScrollbox.awaits x = false :=
      fun x hx => contains_eq_false_iff.mpr (ha x hx)
    have ht : replacement? ins (head ++ ['>','\n']) .beforeScrollbox =
        some (head ++ ' ' :: ins.sidebarStyle ++ ['>','\n']) :=
      replacement?_beforeScrollbox_eq_some_iff.mpr ⟨head,rfl,rfl⟩
    rw [readLines_stretch ins hp ha' (Text.contains_iff.mpr hm) ht]
    have hn : ((p.through above).moved (head ++ ' ' :: ins.sidebarStyle ++ ['>','\n'])).phase = .beforeToc := by
      rw [phase_moved, phase_through, hp]
      rfl
    obtain ⟨q,hq⟩ := readLines_of_rank ins rest (by rw [hn]; exact Nat.le_refl 2)
    refine ⟨q,hq,Phase.rank_eq_five_iff.mp (Nat.le_antisymm q.phase.rank_le ?_)⟩
    have hc' := choosable_iff_of_readLines hq (k := 3)
    rw [hn] at hc'
    exact hc'.mp hc

theorem phase_of_close_eq_error (h : p.close = .error (.endedIn f)) : p.phase = f := by
  by_cases hf : p.phase = .afterSidebar
  · rw [close_of_final hf] at h
    cases h
  · rw [close_of_not_final hf] at h
    cases h
    rfl

theorem endedIn_beforeScrollbox_iff (hp : p.phase = .beforeScrollbox) :
    (p.readLines ins lines).bind close = .error (.endedIn .beforeScrollbox) ↔
      ∀ x ∈ lines, ¬ scrollboxMark <:+: x := by
  rcases readLines_cases ins p lines with ⟨hn,hr⟩ | ⟨above,line,rest,rfl,_,hl,h⟩
  · rw [hp] at hn
    have hc : (p.through lines).close = .error (.endedIn .beforeScrollbox) := by
      rw [close_of_not_final (by rw [phase_through, hp]; decide), phase_through, hp]
    rw [hr]
    exact iff_of_true hc fun x hx => contains_eq_false_iff.mp (hn x hx)
  · rw [hp] at hl
    refine iff_of_false ?_ fun hn => hn line (by simp) (Text.contains_iff.mp hl)
    intro he
    rcases h with ⟨text,_,hr⟩ | ⟨_,hr⟩
    · have hn : ((p.through above).moved text).phase = .beforeToc := by
        rw [phase_moved, phase_through, hp]
        rfl
      obtain ⟨q,hq⟩ := readLines_of_rank ins rest (by rw [hn]; exact Nat.le_refl 2)
      rw [hr, hq] at he
      have hle := (choosable_iff_of_readLines hq).mp (choosable_zero _ _)
      rw [hn, phase_of_close_eq_error he] at hle
      exact absurd hle (by decide)
    · rw [hr] at he
      cases he

end Pass

/-! ## The lines of a patched page -/

namespace Layout
variable {l : Layout}

def wrappedToc (l : Layout) (ins : Insertions) : Text :=
  l.toc.indent ++ ins.tocStart ++ l.toc.trim ++ ins.tocEnd ++ ['\n']

def styledScrollbox (l : Layout) (ins : Insertions) : Text :=
  l.scrollbox ++ ' ' :: ins.sidebarStyle ++ ['>','\n']

def below (l : Layout) : List Text := l.beforeToc ++ l.toc :: (l.middle ++ l.bottom)

def patchedBelow (l : Layout) (ins : Insertions) : List Text :=
  l.beforeToc ++ l.wrappedToc ins :: (l.patchedMiddle ins ++ l.bottom)

theorem middle_append_bottom (l : Layout) :
    l.middle ++ l.bottom = l.inScrollbox ++ l.scrollboxEnd :: (l.inSidebar ++ l.bottom) := by
  simp [middle]

theorem patchedMiddle_append_bottom (l : Layout) (ins : Insertions) :
    l.patchedMiddle ins ++ l.bottom = l.inScrollbox ++ (insertion ins.scrollboxEnd l.scrollboxEnd ++
      l.scrollboxEnd :: (l.inSidebar ++ (insertion ins.sidebarEnd l.sidebarEnd ++ l.bottom))) := by
  simp [patchedMiddle]

theorem pieces_patched (ins : Insertions) (h : Cut l.lines) (hs : '\n' ∉ ins.sidebarStyle)
    (ht : '\n' ∉ ins.tocStart ++ ins.tocEnd) :
    (l.patched ins).text.pieces = l.upper ++ l.styledScrollbox ins :: l.patchedBelow ins := by
  obtain ⟨hu,ho,hc,htoc,_,hb⟩ := ended_of_cut h
  have hstyled : Ended (l.styledScrollbox ins) :=
    ⟨l.scrollbox ++ ' ' :: ins.sidebarStyle ++ ['>'],by simp [ho, hs],by simp [styledScrollbox]⟩
  have hwrapped : Ended (l.wrappedToc ins) := by
    obtain ⟨hi,hm⟩ := Text.newline_not_mem_of_trim (Or.inl htoc) l.toc_trim_ne_nil
    simp only [List.mem_append, not_or] at ht
    exact ⟨l.toc.indent ++ ins.tocStart ++ l.toc.trim ++ ins.tocEnd,by simp [hi, hm, ht],rfl⟩
  have he : ∀ line ∈ l.upper ++ l.styledScrollbox ins :: (l.beforeToc ++ l.wrappedToc ins :: l.patchedMiddle ins),
      Ended line := by
    intro line hl
    simp only [List.mem_append, List.mem_cons] at hl
    rcases hl with hl | rfl | hl | rfl | hl
    · exact hu line hl
    · exact hstyled
    · exact hc line hl
    · exact hwrapped
    · exact ended_patchedMiddle h hl
  have htext : (l.patched ins).text =
      (l.upper ++ l.styledScrollbox ins :: (l.beforeToc ++ l.wrappedToc ins :: l.patchedMiddle ins)).flatten ++
        l.bottom.flatten := by
    rw [patched_text_eq]
    simp [styledScrollbox, wrappedToc]
  rw [htext, Text.pieces_flatten_append he, Text.pieces_flatten hb]
  simp [patchedBelow]

def passAbove (l : Layout) : Pass := ((Pass.start.through l.beforeSidebar).moved l.sidebar).through l.beforeScrollbox

theorem phase_passAbove (l : Layout) : l.passAbove.phase = .beforeScrollbox := rfl

theorem readLines_upper (l : Layout) (ins : Insertions) (lines : List Text) :
    Pass.start.readLines ins (l.upper ++ lines) = l.passAbove.readLines ins lines := by
  have h0 : ∀ x ∈ l.beforeSidebar, Phase.beforeSidebar.awaits x = false :=
    fun x hx => contains_eq_false_iff.mpr (l.beforeSidebar_free x hx)
  have h1 : ∀ x ∈ l.beforeScrollbox, Phase.beforeScrollbox.awaits x = false :=
    fun x hx => contains_eq_false_iff.mpr (l.beforeScrollbox_free x hx)
  rw [upper, List.append_assoc, List.cons_append,
    Pass.readLines_stretch ins Pass.phase_start h0 (Text.contains_iff.mpr l.sidebar_mark) rfl]
  exact Pass.readLines_through ins (p := (Pass.start.through l.beforeSidebar).moved l.sidebar) h1 lines

theorem choosable_patchedBelow (l : Layout) (ins : Insertions) : Choosable .beforeToc (l.patchedBelow ins) 3 := by
  have hbottom : Choosable .inSidebar l.bottom 1 :=
    (choosable_cons_of_met (f := .inSidebar) l.sidebarEnd_trim).mpr (choosable_zero _ _)
  have hmiddle : Choosable .inScrollbox (l.patchedMiddle ins ++ l.bottom) 2 := by
    rw [patchedMiddle_append_bottom]
    refine choosable_append (choosable_append ?_ _) _
    refine (choosable_cons_of_met (f := .inScrollbox) l.scrollboxEnd_trim).mpr ?_
    exact choosable_append (choosable_append hbottom _) _
  have htoc : Phase.beforeToc.Met (l.wrappedToc ins) := by
    have hm : tocMark <:+: l.toc.trim := solid_tocMark.infix_trim_iff.mpr l.toc_mark
    rw [Phase.Met, wrappedToc, List.append_assoc, List.append_assoc]
    exact List.infix_append_of_infix_right (List.infix_append_of_infix_left hm)
  exact choosable_append ((choosable_cons_of_met htoc).mpr hmiddle) _

theorem reopened_patchedBelow_iff (l : Layout) (h₁ : ∀ s ∈ Text.blockLines ins.scrollboxEnd, Inert s)
    (h₂ : ∀ s ∈ Text.blockLines ins.sidebarEnd, Inert s) :
    Reopened (l.patchedBelow ins) ↔ Reopened (l.beforeToc ++ l.wrappedToc ins :: (l.middle ++ l.bottom)) := by
  have hi₁ : ∀ x ∈ insertion ins.scrollboxEnd l.scrollboxEnd, Inert x := fun x => inert_of_mem_insertion h₁
  have hi₂ : ∀ x ∈ insertion ins.sidebarEnd l.sidebarEnd, Inert x := fun x => inert_of_mem_insertion h₂
  have hp : l.patchedBelow ins = (l.beforeToc ++ l.wrappedToc ins :: l.inScrollbox) ++
      (insertion ins.scrollboxEnd l.scrollboxEnd ++
        l.scrollboxEnd :: (l.inSidebar ++ (insertion ins.sidebarEnd l.sidebarEnd ++ l.bottom))) := by
    rw [patchedBelow, patchedMiddle_append_bottom]
    simp
  have hq : (l.beforeToc ++ l.wrappedToc ins :: l.inScrollbox) ++
      l.scrollboxEnd :: (l.inSidebar ++ (insertion ins.sidebarEnd l.sidebarEnd ++ l.bottom)) =
      (l.beforeToc ++ l.wrappedToc ins :: (l.inScrollbox ++ l.scrollboxEnd :: l.inSidebar)) ++
        (insertion ins.sidebarEnd l.sidebarEnd ++ l.bottom) := by
    simp
  rw [hp, reopened_insert hi₁, hq, reopened_insert hi₂, middle_append_bottom]
  simp

end Layout

/-! ## With the default insertions -/

theorem inert_of_mem_default {s : Text}
    (h : s ∈ Text.blockLines Default.scrollboxEnd ++ Text.blockLines Default.sidebarEnd) : Inert s := by
  have hd : ((Text.blockLines Default.scrollboxEnd ++ Text.blockLines Default.sidebarEnd).all fun s =>
      Phase.all.all fun f => !f.awaits s) = true := by
    simp only [Default.scrollboxEnd, Default.sidebarEnd, Default.block, List.flatMap_cons, List.flatMap_nil]
    repeat rw [String.toList_ofList]
    decide +kernel
  intro f
  have hs := List.all_eq_true.mp (List.all_eq_true.mp hd s h) f f.mem_all
  exact Phase.awaits_eq_false_iff.mp (by simpa using hs)

namespace Layout

/-- The attribute brings no mark into the line, and neither does what stands around the table of contents. -/
theorem mark_styledScrollbox_iff (l : Layout) :
    scrollboxMark <:+: l.styledScrollbox Default.insertions ↔ scrollboxMark <:+: l.scrollbox := by
  have hn : ¬ scrollboxMark <:+: ' ' :: Default.sidebarStyle ++ ['>','\n'] := by decide +kernel
  have ht : ∀ b ∈ scrollboxMark.tails, b <+: ' ' :: Default.sidebarStyle ++ ['>','\n'] → b = [] := by
    decide +kernel
  rw [styledScrollbox, List.append_assoc]
  exact Text.infix_append_iff_left hn ht

theorem mark_wrappedToc_iff (l : Layout) :
    scrollboxMark <:+: l.wrappedToc Default.insertions ↔ scrollboxMark <:+: l.toc := by
  have hstart : ¬ scrollboxMark <:+: Default.tocStart := by decide +kernel
  have hstart' : ∀ a ∈ scrollboxMark.inits, a <:+ Default.tocStart → a = [] := by decide +kernel
  have hend : ¬ scrollboxMark <:+: Default.tocEnd ++ ['\n'] := by decide +kernel
  have hend' : ∀ b ∈ scrollboxMark.tails, b <+: Default.tocEnd ++ ['\n'] → b = [] := by decide +kernel
  calc
    scrollboxMark <:+: l.wrappedToc Default.insertions ↔
        scrollboxMark <:+: l.toc.indent ++ (Default.tocStart ++ (l.toc.trim ++ (Default.tocEnd ++ ['\n']))) := by
      simp [wrappedToc, Default.insertions]
    _ ↔ scrollboxMark <:+: Default.tocStart ++ (l.toc.trim ++ (Default.tocEnd ++ ['\n'])) :=
      solid_scrollboxMark.infix_blanks_append_iff fun _ => Text.isBlank_of_mem_indent
    _ ↔ scrollboxMark <:+: l.toc.trim ++ (Default.tocEnd ++ ['\n']) :=
      Text.infix_append_iff_right hstart hstart'
    _ ↔ scrollboxMark <:+: l.toc.trim := Text.infix_append_iff_left hend hend'
    _ ↔ scrollboxMark <:+: l.toc := solid_scrollboxMark.infix_trim_iff

theorem mark_patchedBelow_iff (l : Layout) :
    (∀ x ∈ l.patchedBelow Default.insertions, ¬ scrollboxMark <:+: x) ↔
      ∀ x ∈ l.below, ¬ scrollboxMark <:+: x := by
  have hi : ∀ {block line x : Text}, (∀ s ∈ Text.blockLines block, Inert s) → x ∈ insertion block line →
      ¬ scrollboxMark <:+: x := fun hb hx => inert_of_mem_insertion hb hx .beforeScrollbox
  have hi₁ : ∀ x ∈ insertion Default.scrollboxEnd l.scrollboxEnd, ¬ scrollboxMark <:+: x :=
    fun _ => hi fun s hs => inert_of_mem_default (List.mem_append_left _ hs)
  have hi₂ : ∀ x ∈ insertion Default.sidebarEnd l.sidebarEnd, ¬ scrollboxMark <:+: x :=
    fun _ => hi fun s hs => inert_of_mem_default (List.mem_append_right _ hs)
  rw [patchedBelow, below, patchedMiddle_append_bottom, middle_append_bottom]
  simp only [List.forall_mem_append, List.forall_mem_cons, mark_wrappedToc_iff]
  constructor
  · rintro ⟨h₁,h₂,h₃,_,h₄,h₅,_,h₆⟩
    exact ⟨h₁,h₂,h₃,h₄,h₅,h₆⟩
  · rintro ⟨h₁,h₂,h₃,h₄,h₅,h₆⟩
    exact ⟨h₁,h₂,h₃,hi₁,h₄,h₅,hi₂,h₆⟩

theorem patch_patched_iff (l : Layout) (h : Cut l.lines) :
    (∃ again, patch Default.insertions (l.patched Default.insertions).text = .ok again) ↔
      scrollboxMark <:+: l.scrollbox ∨
        Reopened (l.beforeToc ++ l.wrappedToc Default.insertions :: (l.middle ++ l.bottom)) := by
  have hp := pieces_patched Default.insertions h (by decide +kernel) (by decide +kernel)
  calc
    (∃ again, patch Default.insertions (l.patched Default.insertions).text = .ok again) ↔
        ∃ q, Pass.start.readLines Default.insertions (l.patched Default.insertions).text.pieces = .ok q ∧
          q.phase = .afterSidebar := by
      simp only [patch_eq_ok_iff_readLines]
      exact ⟨fun ⟨_,q,hq,hf,_⟩ => ⟨q,hq,hf⟩,fun ⟨q,hq,hf⟩ => ⟨_,q,hq,hf,rfl⟩⟩
    _ ↔ Reopened (l.styledScrollbox Default.insertions :: l.patchedBelow Default.insertions) := by
      rw [hp]
      simp only [readLines_upper]
      exact Pass.final_iff_reopened l.phase_passAbove
    _ ↔ scrollboxMark <:+: l.scrollbox ∨ Reopened (l.patchedBelow Default.insertions) := by
      by_cases hm : scrollboxMark <:+: l.scrollbox
      · rw [reopened_cons_of_mark (l.mark_styledScrollbox_iff.mpr hm)]
        exact iff_of_true ⟨List.suffix_append _ _,l.choosable_patchedBelow _⟩ (Or.inl hm)
      · rw [reopened_cons_of_not_mark fun hs => hm (l.mark_styledScrollbox_iff.mp hs)]
        exact (or_iff_right hm).symm
    _ ↔ _ := by
      rw [reopened_patchedBelow_iff]
      · exact fun s hs => inert_of_mem_default (List.mem_append_left _ hs)
      · exact fun s hs => inert_of_mem_default (List.mem_append_right _ hs)

theorem patch_patched_endedIn_iff (l : Layout) (h : Cut l.lines) :
    patch Default.insertions (l.patched Default.insertions).text = .error (.endedIn .beforeScrollbox) ↔
      ¬ scrollboxMark <:+: l.scrollbox ∧ ∀ x ∈ l.below, ¬ scrollboxMark <:+: x := by
  have hp := pieces_patched Default.insertions h (by decide +kernel) (by decide +kernel)
  have hr : patch Default.insertions (l.patched Default.insertions).text =
      (l.passAbove.readLines Default.insertions
        (l.styledScrollbox Default.insertions :: l.patchedBelow Default.insertions)).bind Pass.close := by
    rw [← readLines_upper, ← hp]
    rfl
  rw [hr, Pass.endedIn_beforeScrollbox_iff l.phase_passAbove, List.forall_mem_cons, mark_styledScrollbox_iff,
    mark_patchedBelow_iff]

end Layout

/-- A page that has been patched is refused a second time unless the mark of its scroll box stands in the line
of the scroll box once more, before its end, or opens a scroll box further down with the other anchors below
it. It is refused for lack of a scroll box if the mark stands nowhere else. -/
theorem patch_again_iff {text : Text} {out : Patched} (h : patch Default.insertions text = .ok out) :
    ∃ l : Layout, text.pieces = l.lines ∧ out = l.patched Default.insertions ∧
      ((∃ e, patch Default.insertions out.text = .error e) ↔
        ¬ scrollboxMark <:+: l.scrollbox ∧
          ¬ Reopened (l.beforeToc ++ l.wrappedToc Default.insertions :: (l.middle ++ l.bottom))) ∧
      (patch Default.insertions out.text = .error (.endedIn .beforeScrollbox) ↔
        ¬ scrollboxMark <:+: l.scrollbox ∧ ∀ x ∈ l.below, ¬ scrollboxMark <:+: x) := by
  obtain ⟨l,hl,rfl⟩ := exists_layout_of_patch h
  have hc : Cut l.lines := hl ▸ Text.cut_pieces text
  refine ⟨l,hl,rfl,?_,l.patch_patched_endedIn_iff hc⟩
  rw [← not_or, ← l.patch_patched_iff hc]
  cases patch Default.insertions (l.patched Default.insertions).text with
  | ok again => simp
  | error e => simp

def anchorPage (markup : String) : Text :=
  ("<nav id=\"sidebar\">\n<div class=\"sidebar-scrollbox\">" ++ markup ++
    "\n\x7b\x7b#toc\x7d\x7d\x7b\x7b/toc\x7d\x7d\n</div>\n</nav>").toList

def anchorLayout (scrollbox : Text) (h : scrollboxMark <:+: scrollbox ++ ['>','\n']) : Layout where
  beforeSidebar := []
  sidebar := "<nav id=\"sidebar\">\n".toList
  beforeScrollbox := []
  scrollbox := scrollbox
  beforeToc := []
  toc := tocMark ++ ['\n']
  inScrollbox := []
  scrollboxEnd := "</div>\n".toList
  inSidebar := []
  sidebarEnd := "</nav>".toList
  afterSidebar := []
  beforeSidebar_free := by simp
  sidebar_mark := by decide +kernel
  beforeScrollbox_free := by simp
  scrollbox_mark := h
  beforeToc_free := by simp
  toc_mark := List.infix_append_left
  inScrollbox_free := by simp
  scrollboxEnd_trim := by decide +kernel
  inSidebar_free := by simp
  sidebarEnd_trim := by decide +kernel

/-- A page with the tag of its scroll box alone in its line is refused. -/
theorem anchorPage_again : ∃ out, patch Default.insertions (anchorPage "") = .ok out ∧
    patch Default.insertions out.text = .error (.endedIn .beforeScrollbox) ∧
    ∃ l : Layout, (anchorPage "").pieces = l.lines ∧ out = l.patched Default.insertions ∧
      ((∃ e, patch Default.insertions out.text = .error e) ↔
        ¬ scrollboxMark <:+: l.scrollbox ∧
          ¬ Reopened (l.beforeToc ++ l.wrappedToc Default.insertions :: (l.middle ++ l.bottom))) ∧
      (patch Default.insertions out.text = .error (.endedIn .beforeScrollbox) ↔
        ¬ scrollboxMark <:+: l.scrollbox ∧ ∀ x ∈ l.below, ¬ scrollboxMark <:+: x) := by
  let l := anchorLayout "<div class=\"sidebar-scrollbox\"".toList (by decide +kernel)
  have hl : (anchorPage "").pieces = l.lines := by decide +kernel
  have hp := l.patch_of_pieces hl Default.insertions
  have hc : Cut l.lines := hl ▸ Text.cut_pieces _
  have hm : ¬ scrollboxMark <:+: l.scrollbox ∧ ∀ x ∈ l.below, ¬ scrollboxMark <:+: x := by decide +kernel
  exact ⟨_,hp,(l.patch_patched_endedIn_iff hc).mpr hm,patch_again_iff hp⟩

/-- If a paragraph opens in that line too, the attribute goes into its tag, the mark stays, and the page is
patched again. -/
theorem anchorPage_patched_twice : ∃ out again, patch Default.insertions (anchorPage "<p>") = .ok out ∧
    patch Default.insertions out.text = .ok again := by
  let l := anchorLayout "<div class=\"sidebar-scrollbox\"><p".toList (by decide +kernel)
  have hl : (anchorPage "<p>").pieces = l.lines := by decide +kernel
  have hc : Cut l.lines := hl ▸ Text.cut_pieces _
  have hm : scrollboxMark <:+: l.scrollbox := by decide +kernel
  obtain ⟨again,ha⟩ := (l.patch_patched_iff hc).mpr (Or.inl hm)
  exact ⟨_,again,l.patch_of_pieces hl Default.insertions,ha⟩

end BookTheme.Template
