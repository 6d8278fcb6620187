import BookTheme.Contents.Head

/-! # What is left behind a head

What a part of a head leaves of the bytes is never longer than they were, and where the part ends a line
it is shorter. So heads that follow each other can be read until there are none, `length_read_lt`.
-/
namespace BookTheme.Contents.Head

theorem ok_of_map_ok {α β : Type} {x : Except ReplyFault α} {f : α → β} {b : β}
    (h : x.map f = .ok b) : ∃ a, x = .ok a ∧ f a = b := by
  cases x with
  | error => simp [Except.map] at h
  | ok a => exact ⟨a,rfl,Except.ok.inj h⟩

theorem ok_of_bind_ok {α β : Type} {x : Except ReplyFault α} {f : α → Except ReplyFault β} {b : β}
    (h : x >>= f = .ok b) : ∃ a, x = .ok a ∧ f a = .ok b := by
  cases x with
  | error => cases h
  | ok a => exact ⟨a,rfl,h⟩

theorem length_readLineEnd_lt {fault : ReplyFault} {s rest : Bytes}
    (h : readLineEnd fault s = .ok rest) : rest.length < s.length := by
  unfold readLineEnd at h
  grind

theorem length_skipEmptyLines_le {s rest : Bytes} (h : skipEmptyLines s = .ok rest) :
    rest.length ≤ s.length := by
  fun_induction skipEmptyLines s <;> grind

theorem length_readLine_lt {fault : ReplyFault} {s line rest : Bytes}
    (h : readLine fault s = .ok (line,rest)) : rest.length < s.length := by
  fun_induction readLine fault s generalizing line rest with
  | case1 => simp at h
  | case2 b s hb ih =>
    obtain ⟨⟨line',rest'⟩,h',h⟩ := ok_of_map_ok h
    obtain ⟨rfl,rfl⟩ := Prod.mk.inj h
    exact Nat.lt_succ_of_lt (ih h')
  | case3 b s hb =>
    obtain ⟨rest',h',h⟩ := ok_of_map_ok h
    obtain ⟨rfl,rfl⟩ := Prod.mk.inj h
    exact length_readLineEnd_lt h'

theorem length_readVersion_le {s rest : Bytes} {known : Bool}
    (h : readVersion s = .ok (known,rest)) : rest.length ≤ s.length := by
  have hd : (s.drop protocol.length).length ≤ s.length := by simp
  unfold readVersion at h
  grind

theorem length_readBlank_le {s rest : Bytes} (h : readBlank s = .ok rest) :
    rest.length ≤ s.length := by
  unfold readBlank at h
  grind

theorem length_readDigits_le {n digits m : Nat} {s rest : Bytes}
    (h : readDigits n digits s = .ok (m,rest)) : rest.length ≤ s.length := by
  fun_induction readDigits n digits s <;> grind

theorem length_skipReason_lt {s rest : Bytes} (h : skipReason s = .ok rest) :
    rest.length < s.length := by
  unfold skipReason at h
  split at h
  · obtain ⟨⟨line,rest'⟩,h',rfl⟩ := ok_of_map_ok h
    exact Nat.lt_succ_of_lt (length_readLine_lt h')
  · exact length_readLineEnd_lt h

theorem length_readValue_lt {s value rest : Bytes} (h : readValue s = .ok (value,rest)) :
    rest.length < s.length := by
  unfold readValue at h
  split at h
  · cases h
  · obtain ⟨⟨line,rest'⟩,h',h⟩ := ok_of_map_ok h
    obtain ⟨rfl,rfl⟩ := Prod.mk.inj h
    exact Nat.lt_succ_of_lt (length_readLine_lt h')
  · cases h

theorem length_readHeader_lt {s rest : Bytes} {header : Header}
    (h : readHeader s = .ok (header,rest)) : rest.length < s.length := by
  simp only [readHeader] at h
  split at h
  · cases h
  · obtain ⟨⟨value,rest'⟩,h',h⟩ := ok_of_map_ok h
    obtain ⟨rfl,rfl⟩ := Prod.mk.inj h
    exact Nat.lt_of_lt_of_le (length_readValue_lt h') (List.dropWhile_suffix _).length_le

theorem length_readHeaders_lt {room : Nat} {s rest : Bytes} {headers : List Header}
    (h : readHeaders room s = .ok (headers,rest)) : rest.length < s.length := by
  induction room generalizing s headers with
  | zero =>
    unfold readHeaders at h
    split at h
    · obtain ⟨_,h',h⟩ := ok_of_map_ok h
      obtain ⟨rfl,rfl⟩ := Prod.mk.inj h
      exact length_readLineEnd_lt h'
    · obtain ⟨_,_,h⟩ := ok_of_bind_ok h
      cases h
  | succ room ih =>
    unfold readHeaders at h
    split at h
    · obtain ⟨_,h',h⟩ := ok_of_map_ok h
      obtain ⟨rfl,rfl⟩ := Prod.mk.inj h
      exact length_readLineEnd_lt h'
    · obtain ⟨⟨_,_⟩,h',h⟩ := ok_of_bind_ok h
      obtain ⟨⟨_,_⟩,h'',h⟩ := ok_of_bind_ok h
      obtain ⟨rfl,rfl⟩ := Prod.mk.inj (Except.ok.inj h)
      exact Nat.lt_trans (ih h'') (length_readHeader_lt h')

/-- A head is at least a line, so what is left is shorter. -/
theorem length_read_lt {s rest : Bytes} {head : Head} (h : read s = .ok (head,rest)) :
    rest.length < s.length := by
  unfold read at h
  obtain ⟨_,h1,h⟩ := ok_of_bind_ok h
  obtain ⟨⟨_,_⟩,h2,h⟩ := ok_of_bind_ok h
  obtain ⟨_,h3,h⟩ := ok_of_bind_ok h
  obtain ⟨⟨_,_⟩,h4,h⟩ := ok_of_bind_ok h
  obtain ⟨_,h5,h⟩ := ok_of_bind_ok h
  obtain ⟨⟨_,_⟩,h6,h⟩ := ok_of_bind_ok h
  have h1 := length_skipEmptyLines_le h1
  have h2 := length_readVersion_le h2
  have h3 := length_readBlank_le h3
  have h4 := length_readDigits_le h4
  have h5 := length_skipReason_lt h5
  have h6 := length_readHeaders_lt h6
  dsimp only at h
  split at h
  · cases h
  · obtain ⟨rfl,rfl⟩ := Prod.mk.inj (Except.ok.inj h)
    omega
end BookTheme.Contents.Head
