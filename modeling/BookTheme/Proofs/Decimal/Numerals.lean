import BookTheme.Decimal.Numeral
import Mathlib.Data.List.Induction

/-! # Numerals are read as they are written

A numeral without sign and leading zeros is the one that a number is written as. Read with a limit, it comes
back as that number, or it is too large; whether a minus would be allowed makes no difference to it.
-/
namespace BookTheme.Decimal

theorem digit?_of_isDigit {c : Char} (h : c.isDigit = true) : digit? c = some (c.toNat - 48) := if_pos h

theorem le_ofDigitChars (s : Text) (n : Nat) : n ≤ Nat.ofDigitChars 10 s n := by
  induction s generalizing n with
  | nil => exact Nat.le_refl n
  | cons c s ih =>
    have h := ih (10 * n + (c.toNat - '0'.toNat))
    rw [Nat.ofDigitChars_cons]
    omega

/-- Digits that are read on behind `n` are the number that they make of it, or exceed the limit. -/
theorem readDigits_eq {s : Text} (hs : ∀ c ∈ s, c.isDigit = true) {limit n : Nat} (hn : n ≤ limit) (excess : Fault) :
    readDigits limit excess n s =
      if Nat.ofDigitChars 10 s n ≤ limit then .ok (Nat.ofDigitChars 10 s n) else .error excess := by
  induction s generalizing n with
  | nil => rw [readDigits, Nat.ofDigitChars_nil, if_pos hn]
  | cons c s ih =>
    have hzero : '0'.toNat = 48 := rfl
    rw [readDigits, digit?_of_isDigit (hs c List.mem_cons_self), Nat.ofDigitChars_cons, Nat.mul_comm 10 n, hzero]
    simp only
    split
    case isTrue hle => exact ih (fun d hd => hs d (List.mem_cons_of_mem c hd)) hle
    case isFalse hgt =>
      have hle := le_ofDigitChars s (n * 10 + (c.toNat - 48))
      rw [if_neg (by omega)]

theorem isDigit_of_mem_numeral {n : Nat} {c : Char} (h : c ∈ numeral n) : c.isDigit = true :=
  Nat.isDigit_of_mem_toDigits (by decide) (by decide) h

theorem exists_numeral_eq_cons (n : Nat) : ∃ c s, numeral n = c :: s ∧ c.isDigit = true := by
  cases h : numeral n with
  | nil => exact absurd h Nat.toDigits_ne_nil
  | cons c s => exact ⟨c,s,rfl,isDigit_of_mem_numeral (h ▸ List.mem_cons_self)⟩

theorem readNat_numeral (limit n : Nat) :
    readNat limit (numeral n) = if n ≤ limit then .ok n else .error .tooLarge := by
  have hread := readDigits_eq (s := numeral n) (fun c => isDigit_of_mem_numeral) (Nat.zero_le limit) .tooLarge
  have hvalue : Nat.ofDigitChars 10 (numeral n) 0 = n := Nat.ofDigitChars_ten_toDigits
  rw [hvalue] at hread
  rw [← hread]
  obtain ⟨c,s,hs,hc⟩ := exists_numeral_eq_cons n
  have hplus : c ≠ '+' := by
    rintro rfl
    exact absurd hc (by decide)
  simp [hs, readNat, hplus]

theorem readInt_numeral (limit n : Nat) :
    readInt limit (numeral n) = if n ≤ limit then .ok (n : Int) else .error .tooLarge := by
  obtain ⟨c,s,hs,hc⟩ := exists_numeral_eq_cons n
  have hminus : c ≠ '-' := by
    rintro rfl
    exact absurd hc (by decide)
  have hnat : readInt limit (numeral n) = (fun n : Nat => (n : Int)) <$> readNat limit (numeral n) := by
    simp [hs, readInt, hminus]
  rw [hnat, readNat_numeral]
  split <;> rfl

/-- One digit or more, without a sign, and without a zero in front of another digit. -/
def IsNumeral (s : Text) : Prop := s ≠ [] ∧ (∀ c ∈ s, c.isDigit = true) ∧ (s.head? = some '0' → s = ['0'])

instance (s : Text) : Decidable (IsNumeral s) :=
  decidable_of_iff (s ≠ [] ∧ s.all Char.isDigit = true ∧ (s.head? = some '0' → s = ['0']))
    (by rw [IsNumeral, List.all_eq_true])

theorem digitChar_of_isDigit {c : Char} (h : c.isDigit = true) :
    c.toNat - 48 < 10 ∧ (c.toNat - 48).digitChar = c := by
  simp only [Char.isDigit, Bool.and_eq_true, decide_eq_true_eq] at h
  have hlow : 48 ≤ c.toNat := h.1
  have hhigh : c.toNat ≤ 57 := h.2
  have hlt : c.toNat - 48 < 10 := by omega
  refine ⟨hlt,Char.toNat_inj.mp ?_⟩
  rw [Nat.toNat_digitChar_of_lt_ten hlt]
  omega

theorem IsNumeral.exists_eq {s : Text} (h : IsNumeral s) : ∃ n, s = numeral n := by
  induction s using List.reverseRecOn with
  | nil => exact absurd rfl h.1
  | append_singleton s c ih =>
    obtain ⟨hlt,hchar⟩ := digitChar_of_isDigit (h.2.1 c (by simp))
    cases s with
    | nil =>
      refine ⟨c.toNat - 48,?_⟩
      rw [numeral, Nat.toDigits_of_lt_base hlt, hchar]
      rfl
    | cons b s =>
      have hzero : b ≠ '0' := by
        rintro rfl
        simpa using h.2.2 rfl
      have hfront : IsNumeral (b :: s) :=
        ⟨by simp,fun d hd => h.2.1 d (List.mem_append_left _ hd),fun hb => absurd (Option.some.inj hb) hzero⟩
      obtain ⟨n,hn⟩ := ih hfront
      have hpos : 0 < n := by
        rw [Nat.pos_iff_ne_zero]
        rintro rfl
        exact hzero (List.cons.inj hn).1
      refine ⟨10 * n + (c.toNat - 48),?_⟩
      rw [hn, numeral, numeral, ← Nat.toDigits_append_toDigits (by decide) hpos hlt, Nat.toDigits_of_lt_base hlt, hchar]

end BookTheme.Decimal
