import BookTheme.Proofs.Template.Recovery
import BookTheme.Proofs.Text.Rows

/-! # Blocks that are put in

A block goes in row by row, above a line and four blanks further in than that. The rows that are empty are left out,
and nothing else is lost: the lines that were put in are those rows, each behind the same indent, so that blocks
which come to the same text have the same rows.
-/
namespace BookTheme.Template
open Text (Ended Rows)

/-- The indent of a line is the longest beginning of it that holds only blanks. -/
theorem prefix_indent {line u : Text} (h : u <+: line) (hu : ∀ c ∈ u, Text.isBlank c = true) : u <+: line.indent := by
  obtain ⟨v,rfl⟩ := h
  rw [Text.indent, List.takeWhile_append_of_pos hu]
  exact List.prefix_append _ _

variable {line : Text}

theorem pieces_indented (hl : Ended line ∨ '\n' ∉ line) (ht : line.trim ≠ []) (block : Text) :
    Text.pieces (indented line.indent block) = insertion block line := by
  have he : ∀ sub ∈ insertion block line, Ended sub := fun _ => ended_of_mem_insertion hl ht
  simpa [flatten_insertion] using Text.pieces_flatten_append he []

theorem insertion_inj (line : Text) {block block' : Text} :
    insertion block line = insertion block' line ↔ Text.blockLines block = Text.blockLines block' := by
  apply List.map_inj_right
  intro s t h
  simpa using h

theorem indented_inj (hl : Ended line ∨ '\n' ∉ line) (ht : line.trim ≠ []) {block block' : Text} :
    indented line.indent block = indented line.indent block' ↔ Text.blockLines block = Text.blockLines block' := by
  rw [← insertion_inj line, ← pieces_indented hl ht, ← pieces_indented hl ht]
  exact ⟨congrArg Text.pieces,Text.pieces_injective⟩

/-- A closing tag comes out below its block, and both behind what was given out before. -/
theorem Pass.output_readLine_block {ins : Insertions} {p : Pass} {block : Text}
    (hb : (p.phase,block) ∈ [(Phase.inScrollbox,ins.scrollboxEnd), (Phase.inSidebar,ins.sidebarEnd)])
    (ha : p.phase.awaits line = true) :
    (p.readLine ins line).1.output = p.output ++ (indented line.indent block ++ line) := by
  have ht : replacement? ins line p.phase = some (indented line.indent block ++ line) := by
    rcases List.mem_cons.mp hb with h | h
    · rw [(Prod.mk.inj h).1, (Prod.mk.inj h).2]
      rfl
    · have h := List.mem_singleton.mp h
      rw [(Prod.mk.inj h).1, (Prod.mk.inj h).2]
      rfl
  rw [readLine_anchor ins ha ht, output_moved]

/-- The indent of a line that has more than blanks is the longest beginning of it in which there are only blanks, and
has no newline. A block that goes in above the line comes behind what was given out before, and is cut into the
rows of the block that are not empty, each behind the indent and four blanks. So blocks come to the same
text exactly if these rows are the same. -/
theorem blocks_told_apart {text line : Text} (hl : line ∈ text.pieces) (ht : line.trim ≠ []) :
    (line.indent <+: line ∧ (∀ c ∈ line.indent, Text.isBlank c = true) ∧
      ∀ u, u <+: line → (∀ c ∈ u, Text.isBlank c = true) → u <+: line.indent) ∧
    '\n' ∉ line.indent ∧ line = line.indent ++ line.trimStart ∧
    (∀ (ins : Insertions) (p : Pass) (block : Text),
      (p.phase,block) ∈ [(Phase.inScrollbox,ins.scrollboxEnd), (Phase.inSidebar,ins.sidebarEnd)] →
      p.phase.awaits line = true →
      (p.readLine ins line).1.output = p.output ++ (indented line.indent block ++ line)) ∧
    (∀ block, ∃! rows, Rows block rows) ∧
    (∀ block rows, Rows block rows → Text.pieces (indented line.indent block) =
      (rows.filter (!·.isEmpty)).map fun row => line.indent ++ "    ".toList ++ row ++ ['\n']) ∧
    ∀ block block' rows rows', Rows block rows → Rows block' rows' →
      (indented line.indent block = indented line.indent block' ↔
        rows.filter (!·.isEmpty) = rows'.filter (!·.isEmpty)) := by
  have hcut : Ended line ∨ '\n' ∉ line := (Text.cut_pieces text).of_mem hl
  have hsplit := Text.indent_append_trimStart line
  refine ⟨⟨⟨_,hsplit⟩,fun _ => Text.isBlank_of_mem_indent,fun _ => prefix_indent⟩,
    (Text.newline_not_mem_of_trim hcut ht).1,hsplit.symm,fun _ _ _ => Pass.output_readLine_block,
    Text.existsUnique_rows,?_,?_⟩
  · intro block rows hr
    rw [pieces_indented hcut ht, insertion, hr.blockLines_eq]
  · intro block block' rows rows' hr hr'
    rw [indented_inj hcut ht, hr.blockLines_eq, hr'.blockLines_eq]

def closingLine : Text := "\u00a0\t</div> \r\n".toList

def mixedBlock : Text := "a\r\n\r\n b\rc\n\u2003\r\r\nlast\r".toList

theorem mixedBlock_told_apart :
    Text.pieces (indented closingLine.indent mixedBlock) = ["\u00a0\t    a\n".toList,"\u00a0\t     b\rc\n".toList,
      "\u00a0\t    \u2003\r\n".toList,"\u00a0\t    last\r\n".toList] ∧
    indented closingLine.indent mixedBlock ≠ indented closingLine.indent (mixedBlock ++ ['\n']) := by
  have hrows : Rows mixedBlock ["a".toList,[]," b\rc".toList,"\u2003\r".toList,"last\r".toList] :=
    Text.rows_iff.mpr (by decide)
  have hrows' : Rows (mixedBlock ++ ['\n']) ["a".toList,[]," b\rc".toList,"\u2003\r".toList,"last".toList] :=
    Text.rows_iff.mpr (by decide)
  have hline : closingLine ∈ Text.pieces ("x\r\n".toList ++ closingLine) := by decide
  obtain ⟨_,_,_,_,_,hpieces,hsame⟩ := blocks_told_apart hline (by decide)
  exact ⟨hpieces _ _ hrows,fun h => absurd ((hsame _ _ _ _ hrows hrows').mp h) (by decide)⟩

end BookTheme.Template
