import BookTheme.Bytes.Utf8
import Mathlib.Tactic.SplitIfs

/-! # UTF-8 has one form

The sequences that are read are those that characters are written as, one for each. The widths and the
four exceptions for the second byte leave out just the numbers that need fewer bytes and those that are no
characters. So a text is read from what it is written as, and from nothing else.
-/
namespace BookTheme

theorem ofNat_eq_of_toNat {a : UInt8} {n : Nat} (h : n = a.toNat) : UInt8.ofNat n = a := by
  rw [h, UInt8.ofNat_toNat]

/-- What can be read from the one form it is written in is written in no form twice. -/
theorem eq_of_encode_eq {α β ε : Type} {encode : α → β} {decode : β → Except ε α}
    (h : ∀ {b : β} {a : α}, decode b = .ok a ↔ b = encode a) {a a' : α} (he : encode a = encode a') : a = a' :=
  Except.ok.inj ((h.mpr rfl).symm.trans (h.mpr he))

namespace Utf8

/-- A sequence that is read as one character, and its code point. -/
inductive Sequence : Bytes → Nat → Prop
  | one {a : UInt8} (ha : width a = 1) : Sequence [a] a.toNat
  | two {a b : UInt8} (ha : width a = 2) (hb : mayFollow a b = true) :
      Sequence [a, b] (codePoint (a.toNat % 32) [b])
  | three {a b c : UInt8} (ha : width a = 3) (hb : mayFollow a b = true) (hc : isContinuation c = true) :
      Sequence [a, b, c] (codePoint (a.toNat % 16) [b, c])
  | four {a b c d : UInt8} (ha : width a = 4) (hb : mayFollow a b = true) (hc : isContinuation c = true)
      (hd : isContinuation d = true) : Sequence [a, b, c, d] (codePoint (a.toNat % 8) [b, c, d])

theorem width_eq (a : UInt8) : width a =
    if a.toNat < 128 then 1 else if a.toNat < 194 then 0 else if a.toNat < 224 then 2
    else if a.toNat < 240 then 3 else if a.toNat < 245 then 4 else 0 := rfl

theorem isContinuation_iff {b : UInt8} : isContinuation b = true ↔ 128 ≤ b.toNat ∧ b.toNat ≤ 191 := by
  simp [isContinuation, UInt8.le_iff_toNat_le]

theorem mayFollow_iff {a b : UInt8} : mayFollow a b = true ↔
    (128 ≤ b.toNat ∧ b.toNat ≤ 191) ∧ (a.toNat = 224 → 160 ≤ b.toNat) ∧ (a.toNat = 237 → b.toNat ≤ 159) ∧
      (a.toNat = 240 → 144 ≤ b.toNat) ∧ (a.toNat = 244 → b.toNat ≤ 143) := by
  have hn : ∀ {n : UInt8}, a ≠ n → a.toNat ≠ n.toNat := fun h he => h (UInt8.toNat_inj.mp he)
  unfold mayFollow
  split
  case h_5 he0 hed hf0 hf4 =>
    have h1 := hn he0
    have h2 := hn hed
    have h3 := hn hf0
    have h4 := hn hf4
    rw [isContinuation_iff]
    simp only [UInt8.reduceToNat] at h1 h2 h3 h4
    omega
  all_goals
    simp only [Bool.and_eq_true, decide_eq_true_eq, UInt8.le_iff_toNat_le, UInt8.reduceToNat]
    grind

theorem toNat_ofNat_of_valid {n : Nat} (h : n < 55296 ∨ 57343 < n ∧ n < 1114112) : (Char.ofNat n).toNat = n := by
  rw [Char.ofNat, dif_pos (show n.isValidChar from h)]
  rfl

theorem utf8EncodeChar_eq (c : Char) : String.utf8EncodeChar c =
    if c.toNat ≤ 127 then [UInt8.ofNat c.toNat]
    else if c.toNat ≤ 2047 then [UInt8.ofNat (c.toNat / 64 % 32 + 192), UInt8.ofNat (c.toNat % 64 + 128)]
    else if c.toNat ≤ 65535 then
      [UInt8.ofNat (c.toNat / 4096 % 16 + 224), UInt8.ofNat (c.toNat / 64 % 64 + 128),
        UInt8.ofNat (c.toNat % 64 + 128)]
    else
      [UInt8.ofNat (c.toNat / 262144 % 8 + 240), UInt8.ofNat (c.toNat / 4096 % 64 + 128),
        UInt8.ofNat (c.toNat / 64 % 64 + 128), UInt8.ofNat (c.toNat % 64 + 128)] := rfl

theorem width_eq_one_iff {a : UInt8} : width a = 1 ↔ a.toNat < 128 := by
  rw [width_eq]
  grind

theorem width_eq_two_iff {a : UInt8} : width a = 2 ↔ 194 ≤ a.toNat ∧ a.toNat < 224 := by
  rw [width_eq]
  grind

theorem width_eq_three_iff {a : UInt8} : width a = 3 ↔ 224 ≤ a.toNat ∧ a.toNat < 240 := by
  rw [width_eq]
  grind

theorem width_eq_four_iff {a : UInt8} : width a = 4 ↔ 240 ≤ a.toNat ∧ a.toNat < 245 := by
  rw [width_eq]
  grind

/-- What `width` and `mayFollow` leave of the bytes puts the number where just so many bytes are needed, so its
character is written as these. -/
theorem Sequence.encodeChar {bytes : Bytes} {n : Nat} (h : Sequence bytes n) :
    String.utf8EncodeChar (.ofNat n) = bytes := by
  cases h with
  | @one a ha =>
    have ha := width_eq_one_iff.mp ha
    rw [utf8EncodeChar_eq, toNat_ofNat_of_valid (by omega), if_pos (by omega), UInt8.ofNat_toNat]
  | @two a b ha hb =>
    have ha := width_eq_two_iff.mp ha
    have hb := mayFollow_iff.mp hb
    have hn : codePoint (a.toNat % 32) [b] = a.toNat % 32 * 64 + b.toNat % 64 := rfl
    rw [hn, utf8EncodeChar_eq, toNat_ofNat_of_valid (by omega), if_neg (by omega), if_pos (by omega),
      ofNat_eq_of_toNat (a := a) (by omega), ofNat_eq_of_toNat (a := b) (by omega)]
  | @three a b c ha hb hc =>
    have ha := width_eq_three_iff.mp ha
    have hb := mayFollow_iff.mp hb
    have hc := isContinuation_iff.mp hc
    have hn : codePoint (a.toNat % 16) [b, c] = (a.toNat % 16 * 64 + b.toNat % 64) * 64 + c.toNat % 64 := rfl
    rw [hn, utf8EncodeChar_eq, toNat_ofNat_of_valid (by omega), if_neg (by omega), if_neg (by omega),
      if_pos (by omega), ofNat_eq_of_toNat (a := a) (by omega), ofNat_eq_of_toNat (a := b) (by omega),
      ofNat_eq_of_toNat (a := c) (by omega)]
  | @four a b c d ha hb hc hd =>
    have ha := width_eq_four_iff.mp ha
    have hb := mayFollow_iff.mp hb
    have hc := isContinuation_iff.mp hc
    have hd := isContinuation_iff.mp hd
    have hn : codePoint (a.toNat % 8) [b, c, d] =
        ((a.toNat % 8 * 64 + b.toNat % 64) * 64 + c.toNat % 64) * 64 + d.toNat % 64 := rfl
    rw [hn, utf8EncodeChar_eq, toNat_ofNat_of_valid (by omega), if_neg (by omega), if_neg (by omega),
      if_neg (by omega), ofNat_eq_of_toNat (a := a) (by omega), ofNat_eq_of_toNat (a := b) (by omega),
      ofNat_eq_of_toNat (a := c) (by omega), ofNat_eq_of_toNat (a := d) (by omega)]

theorem Sequence.of_eq {bytes : Bytes} {m n : Nat} (h : Sequence bytes m) (hn : m = n) : Sequence bytes n :=
  hn ▸ h

/-- What a character is written as is a sequence. -/
theorem sequence_encodeChar (c : Char) : Sequence (String.utf8EncodeChar c) c.toNat := by
  have hc : c.toNat < 55296 ∨ 57343 < c.toNat ∧ c.toNat < 1114112 := c.valid
  have hmod : ∀ {m : Nat}, m < 256 → (UInt8.ofNat m).toNat = m := by
    intro m hm
    rw [UInt8.toNat_ofNat', Nat.mod_eq_of_lt hm]
  rw [utf8EncodeChar_eq]
  split_ifs with h1 h2 h3
  · refine (Sequence.one ?_).of_eq (hmod (by omega))
    rw [width_eq_one_iff, hmod (by omega)]
    omega
  · have ha := hmod (m := c.toNat / 64 % 32 + 192) (by omega)
    have hb := hmod (m := c.toNat % 64 + 128) (by omega)
    refine (Sequence.two ?_ ?_).of_eq ?_
    · rw [width_eq_two_iff, ha]
      omega
    · rw [mayFollow_iff, ha, hb]
      omega
    · rw [codePoint, List.foldl_cons, List.foldl_nil, ha, hb]
      omega
  · have ha := hmod (m := c.toNat / 4096 % 16 + 224) (by omega)
    have hb := hmod (m := c.toNat / 64 % 64 + 128) (by omega)
    have hd := hmod (m := c.toNat % 64 + 128) (by omega)
    refine (Sequence.three ?_ ?_ ?_).of_eq ?_
    · rw [width_eq_three_iff, ha]
      omega
    · rw [mayFollow_iff, ha, hb]
      omega
    · rw [isContinuation_iff, hd]
      omega
    · rw [codePoint, List.foldl_cons, List.foldl_cons, List.foldl_nil, ha, hb, hd]
      omega
  · have ha := hmod (m := c.toNat / 262144 % 8 + 240) (by omega)
    have hb := hmod (m := c.toNat / 4096 % 64 + 128) (by omega)
    have hd := hmod (m := c.toNat / 64 % 64 + 128) (by omega)
    have he := hmod (m := c.toNat % 64 + 128) (by omega)
    refine (Sequence.four ?_ ?_ ?_ ?_).of_eq ?_
    · rw [width_eq_four_iff, ha]
      omega
    · rw [mayFollow_iff, ha, hb]
      omega
    · rw [isContinuation_iff, hd]
      omega
    · rw [isContinuation_iff, he]
      omega
    · rw [codePoint, List.foldl_cons, List.foldl_cons, List.foldl_cons, List.foldl_nil, ha, hb, hd, he]
      omega

theorem decodeFrom_sequence {bytes : Bytes} {n : Nat} (h : Sequence bytes n) (index : Nat) (rest : Bytes) :
    decodeFrom index (bytes ++ rest) = (Char.ofNat n :: ·) <$> decodeFrom (index + bytes.length) rest := by
  cases h with
  | one ha => simp only [List.cons_append, List.nil_append, decodeFrom, ha, List.length_cons, List.length_nil]
  | two ha hb =>
    simp only [List.cons_append, List.nil_append, decodeFrom, ha, hb, if_true, List.length_cons, List.length_nil]
  | three ha hb hc =>
    simp only [List.cons_append, List.nil_append, decodeFrom, ha, hb, hc, if_true, List.length_cons,
      List.length_nil]
  | four ha hb hc hd =>
    simp only [List.cons_append, List.nil_append, decodeFrom, ha, hb, hc, hd, if_true, List.length_cons,
      List.length_nil]

theorem decodeFrom_encode (index : Nat) (text : Text) : decodeFrom index (encode text) = .ok text := by
  induction text generalizing index with
  | nil => rfl
  | cons c text ih =>
    rw [encode_cons, decodeFrom_sequence (sequence_encodeChar c), ih, Char.ofNat_toNat]
    rfl

theorem encode_of_cons {bytes rest : Bytes} {n : Nat} (hs : Sequence bytes n) {result : Except Error Text}
    {text : Text} (hr : ∀ {t : Text}, result = .ok t → rest = encode t)
    (h : (Char.ofNat n :: ·) <$> result = .ok text) : bytes ++ rest = encode text := by
  cases result with
  | error e => cases h
  | ok t =>
    cases h
    rw [encode_cons, hs.encodeChar, hr rfl]

theorem eq_encode_of_decodeFrom {index : Nat} {bytes : Bytes} {text : Text}
    (h : decodeFrom index bytes = .ok text) : bytes = encode text := by
  fun_induction decodeFrom index bytes generalizing text with
  | case1 =>
    cases h
    rfl
  | case2 index a rest ha ih => exact encode_of_cons (.one ha) ih h
  | case4 index a b rest ha hb ih => exact encode_of_cons (.two ha hb) ih h
  | case8 index a b ha hb c rest hc ih => exact encode_of_cons (.three ha hb hc) ih h
  | case14 index a b ha hb c hc d rest hd ih => exact encode_of_cons (.four ha hb hc hd) ih h
  | _ => cases h

/-- A text is read from what it is written as, and from nothing else. -/
theorem decode_eq_ok_iff {bytes : Bytes} {text : Text} : decode bytes = .ok text ↔ bytes = encode text := by
  constructor
  · exact eq_encode_of_decodeFrom
  · rintro rfl
    exact decodeFrom_encode 0 text

theorem encode_inj {s t : Text} : encode s = encode t ↔ s = t :=
  ⟨eq_of_encode_eq decode_eq_ok_iff,congrArg encode⟩

theorem encode_map_ofNat {bytes : Bytes} (h : ∀ b ∈ bytes, b.toNat < 128) :
    encode (bytes.map fun b => Char.ofNat b.toNat) = bytes := by
  induction bytes with
  | nil => rfl
  | cons b bytes ih =>
    have hb := Sequence.encodeChar (.one (width_eq_one_iff.mpr (h b List.mem_cons_self)))
    rw [List.map_cons, encode_cons, hb, ih fun c hc => h c (List.mem_cons_of_mem _ hc)]
    rfl

end Utf8
end BookTheme
