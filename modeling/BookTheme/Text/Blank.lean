/-! # Texts and their blanks

A text is a list of characters. It contains a mark if the mark stands somewhere in it as it is. Its
blanks are the characters of Unicode's White_Space property;
the indent of a line is the longest run of them that it begins with, and trimming takes away the
runs at its ends. Controls such as U+001C and the zero-width characters are no blanks.
-/
namespace BookTheme

abbrev Text := List Char

namespace Text

def contains (mark : Text) : Text → Bool
  | [] => mark.isEmpty
  | c :: s => mark.isPrefixOf (c :: s) || contains mark s

theorem contains_iff {mark s : Text} : contains mark s = true ↔ mark <:+: s := by
  induction s with
  | nil => simp [contains]
  | cons c s ih => simp [contains, ih, List.infix_cons_iff]

def inRanges (ranges : List (Nat × Nat)) (c : Char) : Bool :=
  ranges.any fun r => r.1 ≤ c.toNat && c.toNat ≤ r.2

def blankRanges : List (Nat × Nat) :=
  [(0x9,0xD), (0x20,0x20), (0x85,0x85), (0xA0,0xA0), (0x1680,0x1680), (0x2000,0x200A),
    (0x2028,0x2029), (0x202F,0x202F), (0x205F,0x205F), (0x3000,0x3000)]

def isBlank (c : Char) : Bool := inRanges blankRanges c

def indent (s : Text) : Text := s.takeWhile isBlank

def trimStart (s : Text) : Text := s.dropWhile isBlank

def trimEnd (s : Text) : Text := (s.reverse.dropWhile isBlank).reverse

def trim (s : Text) : Text := trimEnd (trimStart s)

@[simp] theorem indent_append_trimStart (s : Text) : indent s ++ trimStart s = s :=
  List.takeWhile_append_dropWhile

theorem isBlank_of_mem_indent {s : Text} {c : Char} (h : c ∈ indent s) : isBlank c = true := by
  induction s with
  | nil => simp [indent] at h
  | cons d s ih =>
    by_cases hd : isBlank d = true
    · simp only [indent, List.takeWhile_cons, hd, if_true, List.mem_cons] at h
      rcases h with rfl | h
      · exact hd
      · exact ih h
    · simp [indent, hd] at h

end Text
end BookTheme
