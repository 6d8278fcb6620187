import BookTheme.Proofs.Template.Layout

/-! # What a patched page tells about the page

Nothing of a page is lost when it is patched, other than blanks at the end of the line with the table of
contents. The lines that go through cancel one by one. What is put into the tag of the scroll box holds a
newline, and the beginning of that line none; the indent of the table of contents holds only blanks, and
what is left of the line when it is trimmed begins with none. So these cancel too, whatever is put in.
-/
namespace BookTheme.Template
open Text (Ended Cut)

theorem ended_of_mem_insertion {block line sub : Text} (hl : Ended line ∨ '\n' ∉ line) (ht : line.trim ≠ [])
    (h : sub ∈ insertion block line) : Ended sub := by
  obtain ⟨s,hs,rfl⟩ := List.mem_map.mp h
  refine ⟨line.indent ++ "    ".toList ++ s,?_,rfl⟩
  have hi := (Text.newline_not_mem_of_trim hl ht).1
  have hn := Text.newline_not_mem_of_mem_blockLines hs
  simp [hi, hn]

theorem length_insertion (block line : Text) :
    (insertion block line).length = (Text.blockLines block).length := by
  simp [insertion]

/-- The line with the table of contents can be read off what takes its place, but for blanks at its end. -/
theorem toc_inj {a b start finish x y : Text} (ha : '\n' ∉ a.trim) (hb : '\n' ∉ b.trim) (ha' : a.trim ≠ [])
    (hb' : b.trim ≠ [])
    (h : a.indent ++ (start ++ (a.trim ++ ((finish ++ ['\n']) ++ x))) =
      b.indent ++ (start ++ (b.trim ++ ((finish ++ ['\n']) ++ y)))) : a.trimEnd = b.trimEnd ∧ x = y := by
  obtain ⟨c,s,hc,hcb⟩ := Text.trim_starts ha'
  obtain ⟨d,t,hd,hdb⟩ := Text.trim_starts hb'
  obtain ⟨hi,hr⟩ := Text.append_inj_of_stop (fun _ => Text.isBlank_of_mem_indent)
    (fun _ => Text.isBlank_of_mem_indent) ⟨c,_,by rw [hc]; rfl,hcb⟩ ⟨d,_,by rw [hd]; rfl,hdb⟩ h
  obtain ⟨ht,hx⟩ := Text.append_inj_of_newline ha hb (by simp) hr
  refine ⟨?_,hx⟩
  rw [Text.trimEnd_eq_indent_append_trim ha', Text.trimEnd_eq_indent_append_trim hb', hi, ht]

namespace Layout
variable {l m : Layout} {ins : Insertions}

def upper (l : Layout) : List Text := l.beforeSidebar ++ l.sidebar :: l.beforeScrollbox

def middle (l : Layout) : List Text := l.inScrollbox ++ l.scrollboxEnd :: l.inSidebar

def patchedMiddle (l : Layout) (ins : Insertions) : List Text :=
  (l.inScrollbox ++ insertion ins.scrollboxEnd l.scrollboxEnd) ++
    (l.scrollboxEnd :: l.inSidebar ++ insertion ins.sidebarEnd l.sidebarEnd)

def bottom (l : Layout) : List Text := l.sidebarEnd :: l.afterSidebar

theorem lines_eq (l : Layout) : l.lines =
    l.upper ++ (l.scrollbox ++ ['>','\n']) :: l.beforeToc ++ l.toc :: (l.middle ++ l.bottom) := by
  simp [lines, upper, middle, bottom]

theorem patched_text_eq (l : Layout) (ins : Insertions) : (l.patched ins).text =
    l.upper.flatten ++ (l.scrollbox ++ ((' ' :: ins.sidebarStyle ++ ['>','\n']) ++ (l.beforeToc.flatten ++
      (l.toc.indent ++ (ins.tocStart ++ (l.toc.trim ++ ((ins.tocEnd ++ ['\n']) ++
        ((l.patchedMiddle ins).flatten ++ l.bottom.flatten)))))))) := by
  simp [patched, upper, patchedMiddle, bottom]

theorem ended_of_cut (h : Cut l.lines) :
    (∀ line ∈ l.upper, Ended line) ∧ '\n' ∉ l.scrollbox ∧ (∀ line ∈ l.beforeToc, Ended line) ∧
      Ended l.toc ∧ (∀ line ∈ l.middle, Ended line) ∧ Cut l.bottom := by
  have hs : l.lines = (l.upper ++ (l.scrollbox ++ ['>','\n']) :: l.beforeToc ++ l.toc :: l.middle) ++
      l.sidebarEnd :: l.afterSidebar := by
    simp [lines_eq, bottom]
  rw [hs] at h
  obtain ⟨he,hb⟩ := h.ended_of_append
  have ho : Ended (l.scrollbox ++ ['>','\n']) := he _ (by simp)
  refine ⟨fun line hl => he line (by simp [hl]),?_,fun line hl => he line (by simp [hl]),he _ (by simp),
    fun line hl => he line (by simp [hl]),hb⟩
  obtain ⟨head,hh,hoe⟩ := ho
  have hc : l.scrollbox ++ ['>'] ++ ['\n'] = head ++ ['\n'] := by simpa using hoe
  intro hn
  rw [← (List.append_inj' hc rfl).1] at hh
  exact hh (List.mem_append_left _ hn)

theorem ended_patchedMiddle (h : Cut l.lines) {line : Text} (hl : line ∈ l.patchedMiddle ins) : Ended line := by
  obtain ⟨_,_,_,_,hm,hb⟩ := ended_of_cut h
  have hs : Ended l.sidebarEnd ∨ '\n' ∉ l.sidebarEnd := hb.of_mem List.mem_cons_self
  have hc : Ended l.scrollboxEnd := hm _ (by simp [middle])
  simp only [patchedMiddle, List.mem_append] at hl
  rcases hl with (hl | hl) | (hl | hl)
  · exact hm line (by simp [middle, hl])
  · exact ended_of_mem_insertion (Or.inl hc) l.scrollboxEnd_trim_ne_nil hl
  · exact hm line (by simpa [middle] using Or.inr (List.mem_cons.mp hl))
  · exact ended_of_mem_insertion hs l.sidebarEnd_trim_ne_nil hl

theorem lengths_of_anchors (h : (l.patched ins).anchors = (m.patched ins).anchors) :
    l.beforeSidebar.length = m.beforeSidebar.length ∧ l.beforeScrollbox.length = m.beforeScrollbox.length ∧
      l.beforeToc.length = m.beforeToc.length ∧ l.inScrollbox.length = m.inScrollbox.length ∧
      l.inSidebar.length = m.inSidebar.length := by
  simp only [patched, sidebarLine, scrollboxLine, tocLine, scrollboxEndLine, sidebarEndLine, List.cons.injEq,
    Anchor.mk.injEq, true_and, and_true] at h
  omega

/-- The inserted lines are as many in both pages, so the others can be told from them by their number. -/
theorem lines_of_patched_eq (hl : Cut l.lines) (hm : Cut m.lines) (h : l.patched ins = m.patched ins) :
    ∃ above below, l.lines = above ++ l.toc :: below ∧ m.lines = above ++ m.toc :: below ∧
      above.length + 1 = l.tocLine ∧ l.toc.trimEnd = m.toc.trimEnd := by
  obtain ⟨h0,h1,h2,h3,h4⟩ := lengths_of_anchors (congrArg Patched.anchors h)
  obtain ⟨hlu,hls,hlt,hlc,_,hlb⟩ := ended_of_cut hl
  obtain ⟨hmu,hms,hmt,hmc,_,hmb⟩ := ended_of_cut hm
  have ht := congrArg Patched.text h
  rw [patched_text_eq, patched_text_eq] at ht
  obtain ⟨hu,ht⟩ := Text.flatten_append_inj hlu hmu (by simp [upper, h0, h1]) ht
  obtain ⟨hs,ht⟩ := Text.append_inj_of_newline hls hms (by simp) ht
  obtain ⟨hb,ht⟩ := Text.flatten_append_inj hlt hmt h2 ht
  obtain ⟨hc,ht⟩ := toc_inj (Text.newline_not_mem_of_trim (Or.inl hlc) l.toc_trim_ne_nil).2
    (Text.newline_not_mem_of_trim (Or.inl hmc) m.toc_trim_ne_nil).2 l.toc_trim_ne_nil m.toc_trim_ne_nil ht
  obtain ⟨hp,ht⟩ := Text.flatten_append_inj (fun _ => ended_patchedMiddle hl) (fun _ => ended_patchedMiddle hm)
    (by simp [patchedMiddle, length_insertion, h3, h4]) ht
  obtain ⟨hp1,hp2⟩ := List.append_inj hp (by simp [length_insertion, h3])
  have hmid : l.middle = m.middle := by
    rw [middle, middle, (List.append_inj hp1 h3).1, (List.append_inj hp2 (by simp [h4])).1]
  have hbot : l.bottom = m.bottom := by
    rw [← Text.pieces_flatten hlb, ht, Text.pieces_flatten hmb]
  refine ⟨l.upper ++ (l.scrollbox ++ ['>','\n']) :: l.beforeToc,l.middle ++ l.bottom,lines_eq l,?_,?_,hc⟩
  · rw [lines_eq, hu, hs, hb, hmid, hbot]
  · simp [upper, tocLine, scrollboxLine, sidebarLine]
    omega

end Layout

/-- Two pages that are patched alike have the same lines, except that the line with the table of contents
may have other blanks at its end. -/
theorem pieces_eq_of_patch_eq {ins : Insertions} {s t : Text} {out : Patched} (hs : patch ins s = .ok out)
    (ht : patch ins t = .ok out) :
    ∃ n, (∀ line, ⟨.beforeToc,line⟩ ∈ out.anchors ↔ line = n + 1) ∧ s.pieces.length = t.pieces.length ∧
      (∀ i, i ≠ n → s.pieces[i]? = t.pieces[i]?) ∧
      ∃ a b, s.pieces[n]? = some a ∧ t.pieces[n]? = some b ∧ a.trimEnd = b.trimEnd := by
  obtain ⟨l,hl,ho⟩ := exists_layout_of_patch hs
  obtain ⟨m,hm,ho'⟩ := exists_layout_of_patch ht
  obtain ⟨above,below,hla,hma,hn,hc⟩ := Layout.lines_of_patched_eq (hl ▸ Text.cut_pieces s)
    (hm ▸ Text.cut_pieces t) (ho ▸ ho')
  refine ⟨above.length,?_,?_,?_,l.toc,m.toc,?_,?_,hc⟩
  · intro line
    rw [ho, hn]
    simp [Layout.patched]
  · rw [hl, hm, hla, hma]
    simp
  · intro i hi
    rw [hl, hm, hla, hma]
    rcases Nat.lt_or_gt_of_ne hi with hlt | hgt
    · rw [List.getElem?_append_left hlt, List.getElem?_append_left hlt]
    · obtain ⟨j,rfl⟩ := Nat.exists_eq_add_of_lt hgt
      simp [List.getElem?_append_right, Nat.add_assoc]
  · rw [hl, hla]
    simp
  · rw [hm, hma]
    simp

/-- A small page with some blanks behind its table of contents. -/
def smallPage (blanks : String) : Text :=
  ("<nav id=\"sidebar\">\n<div class=\"sidebar-scrollbox\">\n  \x7b\x7b#toc\x7d\x7d\x7b\x7b/toc\x7d\x7d" ++ blanks ++
    "\n </div>\n</nav>").toList

def smallInsertions : Insertions := ⟨"x\ny".toList,"\n\u00a0\r\n".toList," \n ".toList,[],"</nav>".toList⟩

set_option maxRecDepth 4000 in
theorem smallPage_recovered : ∃ out, patch smallInsertions (smallPage "") = .ok out ∧
    patch smallInsertions (smallPage " \t") = .ok out ∧
    ∃ n, (∀ line, ⟨.beforeToc,line⟩ ∈ out.anchors ↔ line = n + 1) ∧
      (smallPage "").pieces.length = (smallPage " \t").pieces.length ∧
      (∀ i, i ≠ n → (smallPage "").pieces[i]? = (smallPage " \t").pieces[i]?) ∧
      ∃ a b, (smallPage "").pieces[n]? = some a ∧ (smallPage " \t").pieces[n]? = some b ∧
        a.trimEnd = b.trimEnd := by
  refine ⟨_,rfl,rfl,?_⟩
  exact pieces_eq_of_patch_eq (show patch smallInsertions (smallPage "") = .ok _ from rfl) rfl

end BookTheme.Template
