import BookTheme.Proofs.Text.Pieces
import Mathlib.Logic.ExistsUnique

/-! # What a block says row by row

A row ends with a newline, and a carriage return right in front of that belongs to its end. Every other carriage
return is part of a row, also at the end of a last row that has no newline. So a block has its rows in one way
only, and the lines of the block are those of them that are not empty.
-/
namespace BookTheme.Text

inductive Rows : Text → List Text → Prop
  | empty : Rows [] []
  | unended {row : Text} (hne : row ≠ []) (hn : '\n' ∉ row) : Rows row [row]
  | newline {row rest : Text} {rows : List Text} (hn : '\n' ∉ row) (hr : ¬ ['\r'] <:+ row)
      (h : Rows rest rows) : Rows (row ++ '\n' :: rest) (row :: rows)
  | returnNewline {row rest : Text} {rows : List Text} (hn : '\n' ∉ row) (h : Rows rest rows) :
      Rows (row ++ '\r' :: '\n' :: rest) (row :: rows)

variable {row block : Text} {rows : List Text}

theorem withoutLineEnd_of_not_mem (h : '\n' ∉ row) : withoutLineEnd row = row := by
  unfold withoutLineEnd
  split
  · rename_i he
    exact absurd (List.mem_reverse.mp (he ▸ List.mem_cons_self)) h
  · rename_i he
    exact absurd (List.mem_reverse.mp (he ▸ List.mem_cons_self)) h
  · rfl

theorem withoutLineEnd_newline (h : ¬ ['\r'] <:+ row) : withoutLineEnd (row ++ ['\n']) = row := by
  unfold withoutLineEnd
  rw [List.reverse_append, List.reverse_singleton, List.singleton_append]
  split
  · rename_i rest he
    have hr : row.reverse = '\r' :: rest := (List.cons.inj he).2
    exact absurd ⟨rest.reverse,by rw [← List.reverse_cons, ← hr, List.reverse_reverse]⟩ h
  · rename_i rest _ he
    rw [← (List.cons.inj he).2, List.reverse_reverse]
  · rename_i hn
    exact absurd rfl (hn _)

theorem withoutLineEnd_returnNewline (row : Text) : withoutLineEnd (row ++ ['\r','\n']) = row := by
  simp [withoutLineEnd]

theorem Rows.eq (h : Rows block rows) : rows = (pieces block).map withoutLineEnd := by
  induction h with
  | empty => rfl
  | unended hne hn => rw [pieces_of_not_mem hne hn, List.map_singleton, withoutLineEnd_of_not_mem hn]
  | newline hn hr _ ih => rw [pieces_append_newline hn, List.map_cons, withoutLineEnd_newline hr, ← ih]
  | @returnNewline row rest rows hn _ ih =>
    have hn' : '\n' ∉ row ++ ['\r'] := by simp [hn]
    have hp : pieces (row ++ '\r' :: '\n' :: rest) = (row ++ ['\r','\n']) :: pieces rest := by
      simpa using pieces_append_newline hn' rest
    rw [hp, List.map_cons, withoutLineEnd_returnNewline, ← ih]

theorem Rows.ended {line : Text} (hl : Ended line) (h : Rows block rows) :
    Rows (line ++ block) (withoutLineEnd line :: rows) := by
  obtain ⟨head,hn,rfl⟩ := hl
  by_cases hr : ['\r'] <:+ head
  · obtain ⟨row,rfl⟩ := hr
    have hrow : '\n' ∉ row := fun hm => hn (List.mem_append_left _ hm)
    simpa [withoutLineEnd_returnNewline] using h.returnNewline hrow
  · simpa [withoutLineEnd_newline hr] using h.newline hn hr

theorem rows_flatten {lines : List Text} (h : Cut lines) : Rows lines.flatten (lines.map withoutLineEnd) := by
  induction lines with
  | nil => exact .empty
  | cons line lines ih =>
    cases lines with
    | nil =>
      rcases h with h | ⟨hne,hn⟩
      · simpa using Rows.ended h .empty
      · simpa [withoutLineEnd_of_not_mem hn] using Rows.unended hne hn
    | cons next rest => exact (ih h.2).ended h.1

theorem rows_iff : Rows block rows ↔ rows = (pieces block).map withoutLineEnd := by
  constructor
  · exact Rows.eq
  · rintro rfl
    have h := rows_flatten (cut_pieces block)
    rwa [flatten_pieces] at h

theorem existsUnique_rows (block : Text) : ∃! rows, Rows block rows :=
  ⟨_,rows_iff.mpr rfl,fun _ => Rows.eq⟩

theorem Rows.blockLines_eq (h : Rows block rows) : blockLines block = rows.filter (!·.isEmpty) := by
  rw [blockLines, h.eq]

end BookTheme.Text
