import BookTheme.Text.Lines
import BookTheme.Template.Phase

/-! # Insertions

The texts that go into a page, and the anchor lines with them: an attribute in the tag that opens the
scroll box, something around the table of contents, and a block above each of the two closing tags. The
first anchor goes through as it is. Only the line that opens the scroll box can have the wrong shape.
-/
namespace BookTheme.Template

structure Insertions where
  sidebarStyle : Text
  scrollboxEnd : Text
  tocStart : Text
  tocEnd : Text
  sidebarEnd : Text
deriving DecidableEq

/-- Each line of the block that is not empty, four blanks further in than the indent. -/
def indented (indent block : Text) : Text :=
  ((Text.blockLines block).map fun line => indent ++ "    ".toList ++ line ++ ['\n']).flatten

/-- The anchor line of a phase as it goes into the page, if it has the shape that this needs. -/
def replacement? (ins : Insertions) (line : Text) : Phase → Option Text
  | .beforeSidebar => some line
  | .beforeScrollbox =>
    match line.reverse with
    | '\n' :: '>' :: head => some (head.reverse ++ ' ' :: ins.sidebarStyle ++ ['>', '\n'])
    | _ => none
  | .beforeToc => some (line.indent ++ ins.tocStart ++ line.trim ++ ins.tocEnd ++ ['\n'])
  | .inScrollbox => some (indented line.indent ins.scrollboxEnd ++ line)
  | .inSidebar => some (indented line.indent ins.sidebarEnd ++ line)
  | .afterSidebar => some line

end BookTheme.Template
