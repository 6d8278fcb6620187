import BookTheme.Text.Lines

/-! # The lines of a text

What `pieces` computes is pinned down by two facts: the lines put together are the text, and every line
ends with its only newline, the last one perhaps without it. So lines can be cancelled in front of a
text, and a text is known once its lines are.
-/
namespace BookTheme.Text

/-- A line with its newline, and no other newline in it. -/
def Ended (line : Text) : Prop := ∃ head, '\n' ∉ head ∧ line = head ++ ['\n']

/-- Lines that a text is cut into: all of them are ended, but the last may lack its newline. -/
def Cut : List Text → Prop
  | [] => True
  | [line] => Ended line ∨ (line ≠ [] ∧ '\n' ∉ line)
  | line :: next :: rest => Ended line ∧ Cut (next :: rest)

theorem Ended.cons {line : Text} (h : Ended line) {c : Char} (hc : c ≠ '\n') : Ended (c :: line) := by
  obtain ⟨head,hh,rfl⟩ := h
  exact ⟨c :: head,by simp [hh,Ne.symm hc],rfl⟩

theorem Cut.cons {line : Text} {lines : List Text} (hl : Ended line) (h : Cut lines) : Cut (line :: lines) := by
  cases lines with
  | nil => exact Or.inl hl
  | cons next rest => exact ⟨hl,h⟩

theorem Cut.ended_of_append {xs : List Text} {y : Text} {ys : List Text} (h : Cut (xs ++ y :: ys)) :
    (∀ line ∈ xs, Ended line) ∧ Cut (y :: ys) := by
  induction xs with
  | nil => exact ⟨by simp,h⟩
  | cons x xs ih =>
    have hx : Ended x ∧ Cut (xs ++ y :: ys) := by
      cases xs with
      | nil => exact h
      | cons _ _ => exact h
    obtain ⟨he,hc⟩ := ih hx.2
    refine ⟨?_,hc⟩
    intro line hline
    rcases List.mem_cons.mp hline with rfl | hline
    · exact hx.1
    · exact he line hline

theorem Cut.of_append {xs ys : List Text} (h : Cut (xs ++ ys)) : Cut xs := by
  induction xs with
  | nil => trivial
  | cons x xs ih =>
    cases xs with
    | nil =>
      cases ys with
      | nil => exact h
      | cons y ys => exact Or.inl h.1
    | cons x' xs => exact ⟨h.1,ih h.2⟩

theorem Cut.of_mem {lines : List Text} (h : Cut lines) {line : Text} (hl : line ∈ lines) :
    Ended line ∨ '\n' ∉ line := by
  obtain ⟨xs,ys,rfl⟩ := List.append_of_mem hl
  have hc := h.ended_of_append.2
  cases ys with
  | nil => exact hc.imp id And.right
  | cons next rest => exact Or.inl hc.1

theorem cut_pushFront (c : Char) {lines : List Text} (h : Cut lines) : Cut (pushFront c lines) := by
  by_cases hc : c = '\n'
  · simp only [pushFront, if_pos hc]
    exact h.cons ⟨[],by simp,rfl⟩
  · simp only [pushFront, if_neg hc]
    cases lines with
    | nil => exact Or.inr ⟨by simp,by simp [Ne.symm hc]⟩
    | cons line rest =>
      cases rest with
      | nil =>
        rcases h with h | ⟨_,h⟩
        · exact Or.inl (h.cons hc)
        · exact Or.inr ⟨by simp,by simp [h,Ne.symm hc]⟩
      | cons next rest => exact ⟨h.1.cons hc,h.2⟩

theorem cut_pieces (s : Text) : Cut (pieces s) := by
  induction s with
  | nil => trivial
  | cons c s ih => exact cut_pushFront c ih

theorem pieces_append_newline {head : Text} (h : '\n' ∉ head) (s : Text) :
    pieces (head ++ '\n' :: s) = (head ++ ['\n']) :: pieces s := by
  induction head with
  | nil => simp [pushFront]
  | cons c head ih =>
    have hc : c ≠ '\n' := by rintro rfl; simp at h
    have hh : '\n' ∉ head := fun hm => h (List.mem_cons_of_mem _ hm)
    simp [ih hh, pushFront, hc]

theorem pieces_of_not_mem {s : Text} (hs : s ≠ []) (h : '\n' ∉ s) : pieces s = [s] := by
  induction s with
  | nil => exact absurd rfl hs
  | cons c s ih =>
    have hc : c ≠ '\n' := by rintro rfl; simp at h
    cases s with
    | nil => simp [pushFront, hc]
    | cons d s =>
      rw [pieces_cons, ih (by simp) fun hm => h (List.mem_cons_of_mem _ hm)]
      simp [pushFront, hc]

theorem pieces_ended_append {line : Text} (h : Ended line) (s : Text) :
    pieces (line ++ s) = line :: pieces s := by
  obtain ⟨head,hh,rfl⟩ := h
  simpa using pieces_append_newline hh s

theorem pieces_flatten_append {lines : List Text} (h : ∀ line ∈ lines, Ended line) (s : Text) :
    pieces (lines.flatten ++ s) = lines ++ pieces s := by
  induction lines with
  | nil => simp
  | cons line lines ih =>
    rw [List.flatten_cons, List.append_assoc, pieces_ended_append (h line List.mem_cons_self),
      ih fun x hx => h x (List.mem_cons_of_mem _ hx)]
    rfl

theorem pieces_flatten {lines : List Text} (h : Cut lines) : pieces lines.flatten = lines := by
  induction lines with
  | nil => rfl
  | cons line lines ih =>
    cases lines with
    | nil =>
      rcases h with h | ⟨hn,h⟩
      · simpa using pieces_ended_append h []
      · simpa using pieces_of_not_mem hn h
    | cons next rest =>
      rw [List.flatten_cons, pieces_ended_append h.1, ih h.2]

theorem pieces_flatten_take (s : Text) (k : Nat) : pieces ((pieces s).take k).flatten = (pieces s).take k := by
  have h := cut_pieces s
  rw [← List.take_append_drop k (pieces s)] at h
  exact pieces_flatten h.of_append

/-- Whatever is put behind a line with its newline begins a line of its own. -/
theorem pieces_flatten_take_append {s line : Text} {k : Nat} (hk : (pieces s)[k]? = some line)
    (hn : ['\n'] <:+ line) (t : Text) :
    pieces (((pieces s).take (k + 1)).flatten ++ t) = (pieces s).take (k + 1) ++ pieces t := by
  have hs := List.take_append_drop (k + 1) (pieces s)
  have htake : (pieces s).take (k + 1) = (pieces s).take k ++ [line] := by simp [List.take_add_one, hk]
  have hc : Cut (((pieces s).take k ++ [line]) ++ (pieces s).drop (k + 1)) := by
    rw [← htake, hs]
    exact cut_pieces s
  obtain ⟨habove,hlast⟩ := hc.of_append.ended_of_append
  rw [htake]
  apply pieces_flatten_append
  intro x hx
  rcases List.mem_append.mp hx with hx | hx
  · exact habove x hx
  · rw [List.mem_singleton.mp hx]
    exact hlast.resolve_right fun h => h.2 (hn.subset List.mem_cons_self)

/-- The lines of a text are the one way to cut it. -/
theorem pieces_eq_iff {s : Text} {lines : List Text} : pieces s = lines ↔ lines.flatten = s ∧ Cut lines := by
  constructor
  · rintro rfl
    exact ⟨flatten_pieces s,cut_pieces s⟩
  · rintro ⟨rfl,h⟩
    exact pieces_flatten h

theorem pieces_injective {s t : Text} (h : pieces s = pieces t) : s = t := by
  rw [← flatten_pieces s, h, flatten_pieces]

theorem newline_not_mem_withoutLineEnd {line : Text} (h : Ended line ∨ '\n' ∉ line) :
    '\n' ∉ withoutLineEnd line := by
  rcases h with ⟨head,hh,rfl⟩ | h
  · intro hm
    simp only [withoutLineEnd, List.reverse_append, List.reverse_singleton, List.singleton_append] at hm
    split at hm
    · rename_i rest he
      have hr : head.reverse = '\r' :: rest := (List.cons.inj he).2
      have hc : '\n' ∈ head.reverse := by rw [hr]; exact List.mem_cons_of_mem _ (List.mem_reverse.mp hm)
      exact hh (List.mem_reverse.mp hc)
    · rename_i rest _ he
      rw [← (List.cons.inj he).2, List.reverse_reverse] at hm
      exact hh hm
    · rename_i hn
      exact hn _ rfl
  · have hr : ∀ rest, line.reverse ≠ '\n' :: rest := by
      intro rest he
      exact h (List.mem_reverse.mp (he ▸ List.mem_cons_self))
    unfold withoutLineEnd
    split
    · rename_i he
      exact absurd he (hr _)
    · rename_i he
      exact absurd he (hr _)
    · exact h

theorem newline_not_mem_of_mem_blockLines {block sub : Text} (h : sub ∈ blockLines block) : '\n' ∉ sub := by
  obtain ⟨line,hl,rfl⟩ := List.mem_map.mp (List.mem_filter.mp h).1
  exact newline_not_mem_withoutLineEnd ((cut_pieces block).of_mem hl)

/-- As many ended lines in front of two equal texts are the same lines, and so is what follows them. -/
theorem flatten_append_inj {xs ys : List Text} {s t : Text} (hx : ∀ line ∈ xs, Ended line)
    (hy : ∀ line ∈ ys, Ended line) (hl : xs.length = ys.length) (h : xs.flatten ++ s = ys.flatten ++ t) :
    xs = ys ∧ s = t := by
  have hp := congrArg pieces h
  rw [pieces_flatten_append hx, pieces_flatten_append hy] at hp
  obtain ⟨he,hr⟩ := List.append_inj hp hl
  exact ⟨he,pieces_injective hr⟩

theorem takeWhile_append_stop {p : Char → Bool} {s u x : Text} (hs : ∀ c ∈ s, p c = true)
    (hx : ∃ c rest, x = c :: rest ∧ p c = false) : (s ++ (u ++ x)).takeWhile p = s ++ u.takeWhile p := by
  obtain ⟨c,rest,rfl,hc⟩ := hx
  rw [List.takeWhile_append_of_pos hs]
  congr 1
  induction u with
  | nil => simp [hc]
  | cons d u ih => simp [List.takeWhile_cons, ih]

/-- Two beginnings of one kind cancel in front of the same text, if what follows it is of another kind. -/
theorem append_inj_of_stop {p : Char → Bool} {s t u x y : Text} (hs : ∀ c ∈ s, p c = true)
    (ht : ∀ c ∈ t, p c = true) (hx : ∃ c rest, x = c :: rest ∧ p c = false)
    (hy : ∃ c rest, y = c :: rest ∧ p c = false) (h : s ++ (u ++ x) = t ++ (u ++ y)) : s = t ∧ x = y := by
  have hw := congrArg (List.takeWhile p) h
  rw [takeWhile_append_stop hs hx, takeWhile_append_stop ht hy] at hw
  obtain rfl := List.append_cancel_right hw
  exact ⟨rfl,List.append_cancel_left (List.append_cancel_left h)⟩

/-- Two texts without newlines cancel in front of the same text with a newline. -/
theorem append_inj_of_newline {s t u x y : Text} (hs : '\n' ∉ s) (ht : '\n' ∉ t) (hu : '\n' ∈ u)
    (h : s ++ (u ++ x) = t ++ (u ++ y)) : s = t ∧ x = y := by
  have hne : ∀ {v : Text}, '\n' ∉ v → ∀ c ∈ v, decide (c ≠ '\n') = true := by
    intro v hv c hc
    simpa using fun he : c = '\n' => hv (he ▸ hc)
  obtain ⟨u,w,rfl⟩ := List.append_of_mem hu
  simp only [List.append_assoc, List.cons_append] at h
  obtain ⟨hst,hxy⟩ := append_inj_of_stop (hne hs) (hne ht) ⟨'\n',w ++ x,rfl,rfl⟩ ⟨'\n',w ++ y,rfl,rfl⟩ h
  exact ⟨hst,List.append_cancel_left (List.cons.inj hxy).2⟩

end BookTheme.Text
