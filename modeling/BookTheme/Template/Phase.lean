import BookTheme.Text.Blank

/-! # Phases of a pass

A pass over a page template looks for five anchor lines, always in the same order: the tag that opens
the sidebar, the tag that opens its scroll box, the table of contents, and the two closing tags. A
phase says which of them the pass waits for; in the last one it waits for nothing.
-/
namespace BookTheme.Template

inductive Phase where
  | beforeSidebar
  | beforeScrollbox
  | beforeToc
  | inScrollbox
  | inSidebar
  | afterSidebar
deriving DecidableEq, Repr

namespace Phase

def all : List Phase :=
  [beforeSidebar, beforeScrollbox, beforeToc, inScrollbox, inSidebar, afterSidebar]

/-- How many anchors lie behind. -/
def rank : Phase → Nat
  | beforeSidebar => 0
  | beforeScrollbox => 1
  | beforeToc => 2
  | inScrollbox => 3
  | inSidebar => 4
  | afterSidebar => 5

def name : Phase → String
  | beforeSidebar => "before-sidebar"
  | beforeScrollbox => "before-scrollbox"
  | beforeToc => "before-toc"
  | inScrollbox => "in-scrollbox"
  | inSidebar => "in-sidebar"
  | afterSidebar => "after-sidebar"

def ofName? (name : String) : Option Phase := all.find? (·.name == name)

def next : Phase → Phase
  | beforeSidebar => beforeScrollbox
  | beforeScrollbox => beforeToc
  | beforeToc => inScrollbox
  | inScrollbox => inSidebar
  | inSidebar => afterSidebar
  | afterSidebar => afterSidebar

def isFinal (p : Phase) : Bool := p = afterSidebar

instance : LE Phase := ⟨fun p q => p.rank ≤ q.rank⟩

instance (p q : Phase) : Decidable (p ≤ q) := inferInstanceAs (Decidable (p.rank ≤ q.rank))

instance : Max Phase := maxOfLe

theorem mem_all (p : Phase) : p ∈ all := by cases p <;> decide

@[simp] theorem ofName?_name (p : Phase) : ofName? p.name = some p := by cases p <;> decide

theorem rank_next {p : Phase} (h : p ≠ afterSidebar) : p.next.rank = p.rank + 1 := by
  cases p with
  | afterSidebar => exact absurd rfl h
  | _ => rfl

end Phase

def sidebarMark : Text := "<nav id=\"sidebar\"".toList

/-- Opens the scroll box, up to the end of the tag: a tag with further attributes is not this one. -/
def scrollboxMark : Text := "<div class=\"sidebar-scrollbox\">".toList

def tocMark : Text := "\x7b\x7b#toc\x7d\x7d\x7b\x7b/toc\x7d\x7d".toList

def scrollboxClose : Text := "</div>".toList

def sidebarClose : Text := "</nav>".toList

/-- Whether a line is the anchor that a phase waits for. Closing tags must stand alone. -/
def Phase.awaits (line : Text) : Phase → Bool
  | .beforeSidebar => Text.contains sidebarMark line
  | .beforeScrollbox => Text.contains scrollboxMark line
  | .beforeToc => Text.contains tocMark line
  | .inScrollbox => line.trim = scrollboxClose
  | .inSidebar => line.trim = sidebarClose
  | .afterSidebar => false

end BookTheme.Template
