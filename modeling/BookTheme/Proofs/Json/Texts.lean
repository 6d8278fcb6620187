import BookTheme.Json.Characters
import BookTheme.Proofs.Bytes.Utf8
import BookTheme.Proofs.Json.Grammar

/-! # Texts are read as they are written

Each form of a character is read as that character, wherever it stands, so by induction a text is read from
every one of its forms. Reading over a text goes through the same forms.
-/
namespace BookTheme.Json

theorem hexDigit?_of_hexDigit {d : Nat} {b : UInt8} (h : HexDigit d b) :
    Text.hexDigit? (Char.ofNat b.toNat) = some d := by
  have hn : (Char.ofNat b.toNat).toNat = b.toNat := by
    have hb := b.toNat_lt
    exact Utf8.toNat_ofNat_of_valid (by omega)
  generalize Char.ofNat b.toNat = c at hn
  have hle : ∀ k : Char, k ≤ c ↔ k.toNat ≤ b.toNat := fun k => hn ▸ Iff.rfl
  have hge : ∀ k : Char, c ≤ k ↔ b.toNat ≤ k.toNat := fun k => hn ▸ Iff.rfl
  have hdigit : c.isDigit = true ↔ 48 ≤ b.toNat ∧ b.toNat ≤ 57 := by
    rw [Char.isDigit, Bool.and_eq_true, decide_eq_true_eq, decide_eq_true_eq]
    exact and_congr (hle '0') (hge '9')
  unfold Text.hexDigit?
  simp only [hdigit, hle, hge, hn, Char.reduceToNat]
  rcases h with ⟨hd,hb⟩ | ⟨hd,hd',hb | hb⟩
  · rw [if_pos (by omega)]
    congr 1
    omega
  · rw [if_neg (by omega), if_pos (by omega)]
    congr 1
    omega
  · rw [if_neg (by omega), if_neg (by omega), if_pos (by omega)]
    congr 1
    omega

theorem Hex.exists_number {n : Nat} {ds : Bytes} (h : Hex n ds) :
    ∃ a b c d, ds = [a,b,c,d] ∧ hexNumber? a b c d = some n := by
  cases h with
  | digits hp hq hr hs =>
    refine ⟨_,_,_,_,rfl,?_⟩
    simp [hexNumber?, Text.hexNumberFrom?, hexDigit?_of_hexDigit hp, hexDigit?_of_hexDigit hq,
      hexDigit?_of_hexDigit hr, hexDigit?_of_hexDigit hs]

section

attribute [local simp] readUntilQuote skipString

theorem readUntilQuote_plain {b : UInt8} (hs : 0x20 ≤ b) (hq : b ≠ 0x22) (hb : b ≠ 0x5C) (done rest : Bytes) :
    readUntilQuote done (b :: rest) = readUntilQuote (b :: done) rest := by
  have hc : ¬ b < 0x20 := UInt8.not_lt.mpr hs
  simp [hb, hc]

theorem readUntilQuote_short {letter b : UInt8} (h : escape? letter = some b) (done rest : Bytes) :
    readUntilQuote done (0x5C :: letter :: rest) = readUntilQuote (b :: done) rest := by
  have hu : letter ≠ 0x75 := by
    rintro rfl
    cases h
  simp [hu, h]

theorem readUntilQuote_number {n : Nat} {a b c d : UInt8} (h : hexNumber? a b c d = some n)
    (hl : isLowSurrogate n = false) (hh : isHighSurrogate n = false) (done rest : Bytes) :
    readUntilQuote done (0x5C :: 0x75 :: a :: b :: c :: d :: rest) =
      readUntilQuote (pushCodePoint n done) rest := by
  simp [h, hl, hh]

theorem readUntilQuote_pair {n m : Nat} {a b c d a' b' c' d' : UInt8} (h : hexNumber? a b c d = some n)
    (h' : hexNumber? a' b' c' d' = some m) (hl : isLowSurrogate n = false) (hh : isHighSurrogate n = true)
    (hm : isLowSurrogate m = true) (done rest : Bytes) :
    readUntilQuote done (0x5C :: 0x75 :: a :: b :: c :: d :: 0x5C :: 0x75 :: a' :: b' :: c' :: d' :: rest) =
      readUntilQuote (pushCodePoint (surrogatePair n m) done) rest := by
  simp [h, hl, hh, h', hm]

theorem skipString_plain {b : UInt8} (hs : 0x20 ≤ b) (hq : b ≠ 0x22) (hb : b ≠ 0x5C) (rest : Bytes) :
    skipString (b :: rest) = skipString rest := by
  have hc : ¬ b < 0x20 := UInt8.not_lt.mpr hs
  simp [hb, hc]

theorem skipString_short {letter b : UInt8} (h : escape? letter = some b) (rest : Bytes) :
    skipString (0x5C :: letter :: rest) = skipString rest := by
  have hu : letter ≠ 0x75 := by
    rintro rfl
    cases h
  simp [hu, h]

theorem skipString_number {n : Nat} {a b c d : UInt8} (h : hexNumber? a b c d = some n) (rest : Bytes) :
    skipString (0x5C :: 0x75 :: a :: b :: c :: d :: rest) = skipString rest := by
  simp [h]

end

theorem escape?_of_shortEscapes {letter : UInt8} {c : Char} (h : (letter,c) ∈ shortEscapes) :
    ∃ b, escape? letter = some b ∧ String.utf8EncodeChar c = [b] := by
  have hall : ∀ p ∈ shortEscapes, (escape? p.1).map (fun b => [b]) = some (String.utf8EncodeChar p.2) := by decide
  obtain ⟨b,hb,he⟩ := Option.map_eq_some_iff.mp (hall _ h)
  exact ⟨b,hb,he.symm⟩

theorem toNat_of_mem_encodeChar {c : Char} {b : UInt8} (h : b ∈ String.utf8EncodeChar c) :
    b.toNat = c.toNat ∨ 0x80 ≤ b.toNat := by
  have hc : c.toNat < 55296 ∨ 57343 < c.toNat ∧ c.toNat < 1114112 := c.valid
  rw [Utf8.utf8EncodeChar_eq] at h
  split_ifs at h with h1 h2 h3
  all_goals
    simp only [List.mem_cons, List.not_mem_nil, or_false] at h
  · left
    rw [h, UInt8.toNat_ofNat']
    omega
  · right
    rcases h with rfl | rfl <;> rw [UInt8.toNat_ofNat'] <;> omega
  · right
    rcases h with rfl | rfl | rfl <;> rw [UInt8.toNat_ofNat'] <;> omega
  · right
    rcases h with rfl | rfl | rfl | rfl <;> rw [UInt8.toNat_ofNat'] <;> omega

/-- A byte that a string may hold as it is. -/
def IsPlain (b : UInt8) : Prop := 0x20 ≤ b ∧ b ≠ 0x22 ∧ b ≠ 0x5C

theorem isPlain_of_mem_encodeChar {c : Char} {b : UInt8} (hc : 0x20 ≤ c.toNat) (hq : c ≠ '"') (hb : c ≠ '\\')
    (h : b ∈ String.utf8EncodeChar c) : IsPlain b := by
  have hq : c.toNat ≠ 0x22 := fun he => hq (Char.toNat_inj.mp he)
  have hb : c.toNat ≠ 0x5C := fun he => hb (Char.toNat_inj.mp he)
  have hn := toNat_of_mem_encodeChar h
  refine ⟨?_,?_,?_⟩
  · rw [UInt8.le_iff_toNat_le]
    change 32 ≤ b.toNat
    omega
  · rintro rfl
    change 34 = c.toNat ∨ 0x80 ≤ 34 at hn
    omega
  · rintro rfl
    change 92 = c.toNat ∨ 0x80 ≤ 92 at hn
    omega

theorem readUntilQuote_append {bytes : Bytes} (h : ∀ b ∈ bytes, IsPlain b) (done rest : Bytes) :
    readUntilQuote done (bytes ++ rest) = readUntilQuote (bytes.reverse ++ done) rest := by
  induction bytes generalizing done with
  | nil => rfl
  | cons b bytes ih =>
    obtain ⟨hs,hq,hb⟩ := h b List.mem_cons_self
    rw [List.cons_append, readUntilQuote_plain hs hq hb, ih fun c hc => h c (List.mem_cons_of_mem _ hc)]
    simp

theorem skipString_append {bytes : Bytes} (h : ∀ b ∈ bytes, IsPlain b) (rest : Bytes) :
    skipString (bytes ++ rest) = skipString rest := by
  induction bytes with
  | nil => rfl
  | cons b bytes ih =>
    obtain ⟨hs,hq,hb⟩ := h b List.mem_cons_self
    rw [List.cons_append, skipString_plain hs hq hb]
    exact ih fun c hc => h c (List.mem_cons_of_mem _ hc)

variable {c : Char} {s : Text} {bytes : Bytes}

theorem CharForm.read (h : CharForm c bytes) (done rest : Bytes) :
    readUntilQuote done (bytes ++ rest) = readUntilQuote ((String.utf8EncodeChar c).reverse ++ done) rest := by
  have hvalid : c.toNat < 55296 ∨ 57343 < c.toNat ∧ c.toNat < 1114112 := c.valid
  cases h with
  | plain hc hq hb => exact readUntilQuote_append (fun b => isPlain_of_mem_encodeChar hc hq hb) done rest
  | short h =>
    obtain ⟨b,hb,he⟩ := escape?_of_shortEscapes h
    rw [he]
    exact readUntilQuote_short hb done rest
  | number h =>
    obtain ⟨p,q,r,t,rfl,hn⟩ := h.exists_number
    have hpush : (String.utf8EncodeChar c).reverse ++ done = pushCodePoint c.toNat done := by
      rw [pushCodePoint, Char.ofNat_toNat]
    rw [hpush]
    apply readUntilQuote_number hn
    · simp only [isLowSurrogate, Bool.and_eq_false_iff, decide_eq_false_iff_not]
      omega
    · simp only [isHighSurrogate, Bool.and_eq_false_iff, decide_eq_false_iff_not]
      omega
  | @pair high low _ _ hf hs hh hl hc =>
    obtain ⟨p,q,r,t,rfl,hn⟩ := hf.exists_number
    obtain ⟨p',q',r',t',rfl,hm⟩ := hs.exists_number
    have hc : surrogatePair high low = c.toNat := hc.symm
    have hpush : (String.utf8EncodeChar c).reverse ++ done = pushCodePoint (surrogatePair high low) done := by
      rw [hc, pushCodePoint, Char.ofNat_toNat]
    rw [hpush]
    apply readUntilQuote_pair hn hm
    · simp only [isLowSurrogate, Bool.and_eq_false_iff, decide_eq_false_iff_not]
      omega
    · simpa [isHighSurrogate] using hh
    · simpa [isLowSurrogate] using hl

theorem CharForm.skip (h : CharForm c bytes) (rest : Bytes) : skipString (bytes ++ rest) = skipString rest := by
  cases h with
  | plain hc hq hb => exact skipString_append (fun b => isPlain_of_mem_encodeChar hc hq hb) rest
  | short h =>
    obtain ⟨b,hb,_⟩ := escape?_of_shortEscapes h
    exact skipString_short hb rest
  | number h =>
    obtain ⟨p,q,r,t,rfl,hn⟩ := h.exists_number
    exact skipString_number hn rest
  | pair hf hs _ _ _ =>
    obtain ⟨p,q,r,t,rfl,hn⟩ := hf.exists_number
    obtain ⟨p',q',r',t',rfl,hm⟩ := hs.exists_number
    exact (skipString_number hn _).trans (skipString_number hm rest)

theorem TextForm.read (h : TextForm s bytes) (done rest : Bytes) :
    readUntilQuote done (bytes ++ 0x22 :: rest) = .ok (done.reverse ++ Utf8.encode s,rest) := by
  induction h generalizing done with
  | nil => simp [readUntilQuote, Utf8.encode]
  | cons hc hs ih =>
    rw [List.append_assoc, hc.read, ih, Utf8.encode_cons]
    simp

theorem TextForm.skip (h : TextForm s bytes) (rest : Bytes) : skipString (bytes ++ 0x22 :: rest) = .ok rest := by
  induction h with
  | nil => simp [skipString]
  | cons hc hs ih => rw [List.append_assoc, hc.skip, ih]

theorem TextForm.readString (h : TextForm s bytes) (rest : Bytes) :
    Json.readString (bytes ++ 0x22 :: rest) = .ok (s,rest) := by
  have hs : Utf8.decode (Utf8.encode s) = .ok s := Utf8.decode_eq_ok_iff.mpr rfl
  unfold Json.readString
  rw [h.read [] rest]
  simp [bind, Except.bind, hs]

end BookTheme.Json
