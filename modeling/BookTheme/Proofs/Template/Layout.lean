import BookTheme.Proofs.Template.Steps
import BookTheme.Proofs.Text.Rows
import BookTheme.Proofs.Text.Trim

/-! # Layouts

A layout is a page cut at its five anchors, each of them the first line of its kind below the one before.
It says where everything of the page is found again in the patched one, and a text can be patched exactly
if its lines have a layout. What is put in depends on the margins of three of the anchors and on the rows of
the two blocks, and on nothing else.
-/
namespace BookTheme.Template
open Text (Margins Rows)

/-- The lines of a page around its five anchors. -/
structure Layout where
  beforeSidebar : List Text
  sidebar : Text
  beforeScrollbox : List Text
  scrollbox : Text
  beforeToc : List Text
  toc : Text
  inScrollbox : List Text
  scrollboxEnd : Text
  inSidebar : List Text
  sidebarEnd : Text
  afterSidebar : List Text
  beforeSidebar_free : ∀ line ∈ beforeSidebar, ¬ sidebarMark <:+: line
  sidebar_mark : sidebarMark <:+: sidebar
  beforeScrollbox_free : ∀ line ∈ beforeScrollbox, ¬ scrollboxMark <:+: line
  scrollbox_mark : scrollboxMark <:+: scrollbox ++ ['>','\n']
  beforeToc_free : ∀ line ∈ beforeToc, ¬ tocMark <:+: line
  toc_mark : tocMark <:+: toc
  inScrollbox_free : ∀ line ∈ inScrollbox, line.trim ≠ scrollboxClose
  scrollboxEnd_trim : scrollboxEnd.trim = scrollboxClose
  inSidebar_free : ∀ line ∈ inSidebar, line.trim ≠ sidebarClose
  sidebarEnd_trim : sidebarEnd.trim = sidebarClose

def insertion (block line : Text) : List Text :=
  (Text.blockLines block).map fun sub => line.indent ++ "    ".toList ++ sub ++ ['\n']

theorem flatten_insertion (block line : Text) : (insertion block line).flatten = indented line.indent block := rfl

namespace Layout

def lines (l : Layout) : List Text :=
  l.beforeSidebar ++ l.sidebar :: (l.beforeScrollbox ++ (l.scrollbox ++ ['>','\n']) ::
    (l.beforeToc ++ l.toc :: (l.inScrollbox ++ l.scrollboxEnd :: (l.inSidebar ++ l.sidebarEnd ::
      l.afterSidebar))))

def sidebarLine (l : Layout) : Nat := l.beforeSidebar.length + 1

def scrollboxLine (l : Layout) : Nat := l.sidebarLine + l.beforeScrollbox.length + 1

def tocLine (l : Layout) : Nat := l.scrollboxLine + l.beforeToc.length + 1

def scrollboxEndLine (l : Layout) : Nat := l.tocLine + l.inScrollbox.length + 1

def sidebarEndLine (l : Layout) : Nat := l.scrollboxEndLine + l.inSidebar.length + 1

/-- What becomes of a page with this layout. -/
def patched (l : Layout) (ins : Insertions) : Patched where
  text :=
    l.beforeSidebar.flatten ++ l.sidebar ++
    l.beforeScrollbox.flatten ++ (l.scrollbox ++ ' ' :: ins.sidebarStyle ++ ['>','\n']) ++
    l.beforeToc.flatten ++ (l.toc.indent ++ ins.tocStart ++ l.toc.trim ++ ins.tocEnd ++ ['\n']) ++
    l.inScrollbox.flatten ++ (insertion ins.scrollboxEnd l.scrollboxEnd).flatten ++ l.scrollboxEnd ++
    l.inSidebar.flatten ++ (insertion ins.sidebarEnd l.sidebarEnd).flatten ++ l.sidebarEnd ++
    l.afterSidebar.flatten
  anchors :=
    [⟨.beforeSidebar,l.sidebarLine⟩, ⟨.beforeScrollbox,l.scrollboxLine⟩, ⟨.beforeToc,l.tocLine⟩,
      ⟨.inScrollbox,l.scrollboxEndLine⟩, ⟨.inSidebar,l.sidebarEndLine⟩]

/-- The pass that has read a page with this layout. -/
def pass (l : Layout) (ins : Insertions) : Pass :=
  (((((((((((Pass.start.through l.beforeSidebar).moved l.sidebar).through
    l.beforeScrollbox).moved (l.scrollbox ++ ' ' :: ins.sidebarStyle ++ ['>','\n'])).through
    l.beforeToc).moved (l.toc.indent ++ ins.tocStart ++ l.toc.trim ++ ins.tocEnd ++ ['\n'])).through
    l.inScrollbox).moved (indented l.scrollboxEnd.indent ins.scrollboxEnd ++ l.scrollboxEnd)).through
    l.inSidebar).moved (indented l.sidebarEnd.indent ins.sidebarEnd ++ l.sidebarEnd)).through
    l.afterSidebar)

theorem patched_eq (l : Layout) (ins : Insertions) :
    l.patched ins = ⟨(l.pass ins).output,(l.pass ins).anchors⟩ := by
  simp [patched, pass, flatten_insertion, sidebarLine, scrollboxLine, tocLine, scrollboxEndLine, sidebarEndLine,
    Phase.next]

end Layout

theorem contains_eq_false_iff {mark line : Text} : Text.contains mark line = false ↔ ¬ mark <:+: line := by
  rw [← Text.contains_iff, Bool.not_eq_true]

theorem replacement?_beforeScrollbox_eq_some_iff {ins : Insertions} {line text : Text} :
    replacement? ins line .beforeScrollbox = some text ↔ ∃ head, line = head ++ ['>','\n'] ∧
      text = head ++ ' ' :: ins.sidebarStyle ++ ['>','\n'] := by
  constructor
  · intro h
    simp only [replacement?] at h
    split at h
    · rename_i head hl
      refine ⟨head.reverse,?_,(Option.some.inj h).symm⟩
      simpa using congrArg List.reverse hl
    · cases h
  · rintro ⟨head,rfl,rfl⟩
    simp [replacement?]

theorem Layout.readLines_lines (l : Layout) (ins : Insertions) :
    Pass.start.readLines ins l.lines = .ok (l.pass ins) := by
  have h2 : replacement? ins (l.scrollbox ++ ['>','\n']) .beforeScrollbox =
      some (l.scrollbox ++ ' ' :: ins.sidebarStyle ++ ['>','\n']) :=
    replacement?_beforeScrollbox_eq_some_iff.mpr ⟨l.scrollbox,rfl,rfl⟩
  have g1 : ∀ line ∈ l.beforeSidebar, Phase.beforeSidebar.awaits line = false :=
    fun line h => contains_eq_false_iff.mpr (l.beforeSidebar_free line h)
  have g2 : ∀ line ∈ l.beforeScrollbox, Phase.beforeScrollbox.awaits line = false :=
    fun line h => contains_eq_false_iff.mpr (l.beforeScrollbox_free line h)
  have g3 : ∀ line ∈ l.beforeToc, Phase.beforeToc.awaits line = false :=
    fun line h => contains_eq_false_iff.mpr (l.beforeToc_free line h)
  have g4 : ∀ line ∈ l.inScrollbox, Phase.inScrollbox.awaits line = false :=
    fun line h => decide_eq_false (l.inScrollbox_free line h)
  have g5 : ∀ line ∈ l.inSidebar, Phase.inSidebar.awaits line = false :=
    fun line h => decide_eq_false (l.inSidebar_free line h)
  have a1 : Phase.beforeSidebar.awaits l.sidebar = true := Text.contains_iff.mpr l.sidebar_mark
  have a2 : Phase.beforeScrollbox.awaits (l.scrollbox ++ ['>','\n']) = true :=
    Text.contains_iff.mpr l.scrollbox_mark
  have a3 : Phase.beforeToc.awaits l.toc = true := Text.contains_iff.mpr l.toc_mark
  have a4 : Phase.inScrollbox.awaits l.scrollboxEnd = true := decide_eq_true l.scrollboxEnd_trim
  have a5 : Phase.inSidebar.awaits l.sidebarEnd = true := decide_eq_true l.sidebarEnd_trim
  refine Eq.trans (Pass.readLines_stretch ins rfl g1 a1 rfl _) ?_
  refine Eq.trans (Pass.readLines_stretch ins rfl g2 a2 h2 _) ?_
  refine Eq.trans (Pass.readLines_stretch ins rfl g3 a3 rfl _) ?_
  refine Eq.trans (Pass.readLines_stretch ins rfl g4 a4 rfl _) ?_
  refine Eq.trans (Pass.readLines_stretch ins rfl g5 a5 rfl _) ?_
  exact Pass.readLines_final ins rfl _

theorem Layout.exists_of_readLines {ins : Insertions} {lines : List Text} {q : Pass}
    (h : Pass.start.readLines ins lines = .ok q) (hq : q.phase = .afterSidebar) :
    ∃ l : Layout, lines = l.lines ∧ q = l.pass ins := by
  have hne : ∀ f : Phase, f ≠ .afterSidebar → q.phase ≠ f := fun f hf he => hf (he ▸ hq)
  obtain ⟨g0,a1,r1,t1,h1,hg0,ha1,ht1,h⟩ :=
    Pass.exists_anchor_of_readLines h (hne .beforeSidebar (by decide))
  obtain ⟨g1,a2,r2,t2,rfl,hg1,ha2,ht2,h⟩ :=
    Pass.exists_anchor_of_readLines h (hne .beforeScrollbox (by decide))
  obtain ⟨g2,a3,r3,t3,rfl,hg2,ha3,ht3,h⟩ :=
    Pass.exists_anchor_of_readLines h (hne .beforeToc (by decide))
  obtain ⟨g3,a4,r4,t4,rfl,hg3,ha4,ht4,h⟩ :=
    Pass.exists_anchor_of_readLines h (hne .inScrollbox (by decide))
  obtain ⟨g4,a5,g5,t5,rfl,hg4,ha5,ht5,h⟩ :=
    Pass.exists_anchor_of_readLines h (hne .inSidebar (by decide))
  obtain ⟨head,rfl,rfl⟩ := replacement?_beforeScrollbox_eq_some_iff.mp ht2
  obtain rfl := Option.some.inj ht1
  obtain rfl := Option.some.inj ht3
  obtain rfl := Option.some.inj ht4
  obtain rfl := Option.some.inj ht5
  rw [Pass.readLines_final ins rfl] at h
  exact ⟨⟨g0,a1,g1,head,g2,a3,g3,a4,g4,a5,g5,
    fun line hl => contains_eq_false_iff.mp (hg0 line hl),Text.contains_iff.mp ha1,
    fun line hl => contains_eq_false_iff.mp (hg1 line hl),Text.contains_iff.mp ha2,
    fun line hl => contains_eq_false_iff.mp (hg2 line hl),Text.contains_iff.mp ha3,
    fun line hl => of_decide_eq_false (hg3 line hl),of_decide_eq_true ha4,
    fun line hl => of_decide_eq_false (hg4 line hl),of_decide_eq_true ha5⟩,h1,(Except.ok.inj h).symm⟩

/-- The lines of a page that can be patched have a layout, and the layout says what comes of it. -/
theorem exists_layout_of_patch {ins : Insertions} {text : Text} {out : Patched}
    (h : patch ins text = .ok out) : ∃ l : Layout, text.pieces = l.lines ∧ out = l.patched ins := by
  obtain ⟨q,hq,hf,rfl⟩ := patch_eq_ok_iff_readLines.mp h
  obtain ⟨l,hl,rfl⟩ := Layout.exists_of_readLines hq hf
  exact ⟨l,hl,(l.patched_eq ins).symm⟩

theorem Layout.patch_of_pieces {text : Text} (l : Layout) (h : text.pieces = l.lines) (ins : Insertions) :
    patch ins text = .ok (l.patched ins) :=
  patch_eq_ok_iff_readLines.mpr ⟨l.pass ins,h ▸ l.readLines_lines ins,rfl,l.patched_eq ins⟩

namespace Layout

theorem toc_trim_ne_nil (l : Layout) : l.toc.trim ≠ [] := by
  have hm : '#' ∈ tocMark := by decide
  exact Text.trim_ne_nil_of_mem (l.toc_mark.subset hm) (by decide)

theorem scrollboxEnd_trim_ne_nil (l : Layout) : l.scrollboxEnd.trim ≠ [] := by
  rw [l.scrollboxEnd_trim]
  decide

theorem sidebarEnd_trim_ne_nil (l : Layout) : l.sidebarEnd.trim ≠ [] := by
  rw [l.sidebarEnd_trim]
  decide

end Layout

/-- The rows that are not empty, each on a line of its own, four blanks further in than the given margin. -/
def setIn (left : Text) (rows : List Text) : Text :=
  ((rows.filter (!·.isEmpty)).map fun row => left ++ "    ".toList ++ row ++ ['\n']).flatten

theorem flatten_insertion_of_rows {block line : Text} {rows : List Text} (m : Margins line) (h : Rows block rows) :
    (insertion block line).flatten = setIn m.left rows := by
  rw [insertion, setIn, m.left_eq, h.blockLines_eq]

/-- A text can be patched exactly if it can be cut into lines with a layout. In the patched text the style stands
in the tag of the scroll box, the line with the table of contents is trimmed and wrapped behind its margin, the rows
of the blocks that are not empty stand above the closing tags, and all else is as it was. -/
theorem patch_eq_ok_iff (ins : Insertions) (text : Text) (out : Patched) :
    patch ins text = .ok out ↔
      ∃ (l : Layout) (toc : Margins l.toc) (scrollboxEnd : Margins l.scrollboxEnd) (sidebarEnd : Margins l.sidebarEnd)
        (scrollboxRows sidebarRows : List Text), l.lines.flatten = text ∧ Text.Cut l.lines ∧
        Rows ins.scrollboxEnd scrollboxRows ∧ Rows ins.sidebarEnd sidebarRows ∧
        out.text =
          l.beforeSidebar.flatten ++ l.sidebar ++
          l.beforeScrollbox.flatten ++ (l.scrollbox ++ ' ' :: ins.sidebarStyle ++ ['>','\n']) ++
          l.beforeToc.flatten ++ (toc.left ++ ins.tocStart ++ toc.body ++ ins.tocEnd ++ ['\n']) ++
          l.inScrollbox.flatten ++ setIn scrollboxEnd.left scrollboxRows ++ l.scrollboxEnd ++
          l.inSidebar.flatten ++ setIn sidebarEnd.left sidebarRows ++ l.sidebarEnd ++
          l.afterSidebar.flatten ∧
        out.anchors =
          [⟨.beforeSidebar,l.sidebarLine⟩, ⟨.beforeScrollbox,l.scrollboxLine⟩, ⟨.beforeToc,l.tocLine⟩,
            ⟨.inScrollbox,l.scrollboxEndLine⟩, ⟨.inSidebar,l.sidebarEndLine⟩] := by
  constructor
  · intro h
    obtain ⟨l,hl,rfl⟩ := exists_layout_of_patch h
    obtain ⟨hf,hc⟩ := Text.pieces_eq_iff.mp hl
    obtain ⟨rows,hr,_⟩ := Text.existsUnique_rows ins.scrollboxEnd
    obtain ⟨rows',hr',_⟩ := Text.existsUnique_rows ins.sidebarEnd
    refine ⟨l,Text.margins _ l.toc_trim_ne_nil,Text.margins _ l.scrollboxEnd_trim_ne_nil,
      Text.margins _ l.sidebarEnd_trim_ne_nil,rows,rows',hf,hc,hr,hr',?_,rfl⟩
    rw [← flatten_insertion_of_rows _ hr, ← flatten_insertion_of_rows _ hr']
    rfl
  · rintro ⟨l,toc,scrollboxEnd,sidebarEnd,rows,rows',hf,hc,hr,hr',htext,hanchors⟩
    rw [← flatten_insertion_of_rows _ hr, ← flatten_insertion_of_rows _ hr', toc.left_eq, toc.body_eq] at htext
    have hout : out = l.patched ins := by
      cases out
      exact Patched.mk.injEq .. ▸ ⟨htext,hanchors⟩
    rw [hout]
    exact l.patch_of_pieces (Text.pieces_eq_iff.mpr ⟨hf,hc⟩) ins

/-- A page on which anchors stand too early, in front of markup or twice, and whose lines end in many ways. -/
def unevenLayout : Layout where
  beforeSidebar := ["</nav>\n".toList, "\x7b\x7b#toc\x7d\x7d\x7b\x7b/toc\x7d\x7d\n".toList]
  sidebar := "<nav id=\"sidebar\" class=\"x\">\r\n".toList
  beforeScrollbox := ["<nav id=\"sidebar\">\r\n".toList]
  scrollbox := "\t<div class=\"sidebar-scrollbox\"><p".toList
  beforeToc := ["</div>\n".toList]
  toc := "\u00a0 <p>\x7b\x7b#toc\x7d\x7d\x7b\x7b/toc\x7d\x7d</p>\u2003\r\n".toList
  inScrollbox := ["</div>.\n".toList, "\n".toList]
  scrollboxEnd := "\u2003</div> \r\n".toList
  inSidebar := ["<nav id=\"sidebar\"\n".toList]
  sidebarEnd := " \t</nav>\n".toList
  afterSidebar := ["</nav>".toList]
  beforeSidebar_free := by decide +kernel
  sidebar_mark := by decide +kernel
  beforeScrollbox_free := by decide +kernel
  scrollbox_mark := by decide +kernel
  beforeToc_free := by decide +kernel
  toc_mark := by decide +kernel
  inScrollbox_free := by decide +kernel
  scrollboxEnd_trim := by decide +kernel
  inSidebar_free := by decide +kernel
  sidebarEnd_trim := by decide +kernel

def unevenInsertions : Insertions where
  sidebarStyle := "style=\"a\nb\"".toList
  scrollboxEnd := "a\r\n\r\n b\rc\n\n\u00a0\n</div>\r".toList
  tocStart := "<i>\n".toList
  tocEnd := "</i>".toList
  sidebarEnd := "\n</nav>\r\r\n\r\n".toList

/-- Every row of a block goes in but the empty ones, whatever ends it and whatever it looks like. -/
theorem unevenLayout_patched :
    patch unevenInsertions unevenLayout.lines.flatten = .ok
      ⟨("</nav>\n\x7b\x7b#toc\x7d\x7d\x7b\x7b/toc\x7d\x7d\n<nav id=\"sidebar\" class=\"x\">\r\n" ++
        "<nav id=\"sidebar\">\r\n" ++
        "\t<div class=\"sidebar-scrollbox\"><p style=\"a\nb\">\n</div>\n" ++
        "\u00a0 <i>\n<p>\x7b\x7b#toc\x7d\x7d\x7b\x7b/toc\x7d\x7d</p></i>\n</div>.\n\n" ++
        "\u2003    a\n\u2003     b\rc\n\u2003    \u00a0\n\u2003    </div>\r\n\u2003</div> \r\n" ++
        "<nav id=\"sidebar\"\n \t    </nav>\r\n \t</nav>\n</nav>").toList,
      [⟨.beforeSidebar,3⟩, ⟨.beforeScrollbox,5⟩, ⟨.beforeToc,7⟩, ⟨.inScrollbox,10⟩, ⟨.inSidebar,12⟩]⟩ := by
  have hrows : Rows unevenInsertions.scrollboxEnd ["a".toList,[]," b\rc".toList,[],['\u00a0'],"</div>\r".toList] :=
    Text.rows_iff.mpr (by decide +kernel)
  have hrows' : Rows unevenInsertions.sidebarEnd [[],"</nav>\r".toList,[]] := Text.rows_iff.mpr (by decide +kernel)
  obtain ⟨hf,hc⟩ := Text.pieces_eq_iff.mp
    (show Text.pieces unevenLayout.lines.flatten = unevenLayout.lines by decide +kernel)
  refine (patch_eq_ok_iff _ _ _).mpr ⟨unevenLayout,Text.margins _ unevenLayout.toc_trim_ne_nil,
    Text.margins _ unevenLayout.scrollboxEnd_trim_ne_nil,Text.margins _ unevenLayout.sidebarEnd_trim_ne_nil,_,_,
    hf,hc,hrows,hrows',?_,rfl⟩
  simp only [String.toList_append]
  decide +kernel

end BookTheme.Template
