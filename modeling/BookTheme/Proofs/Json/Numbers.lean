import BookTheme.Json.Number
import BookTheme.Proofs.Bytes.Utf8
import BookTheme.Proofs.Json.Grammar

/-! # Numbers are read as they are written

A number ends where its digits end, and what may follow a value is no part of a number. So its parts are read
off whatever stands behind it. Of the natural numbers and their negatives the digits come back as the number
they were written for, and those that do not fit into 64 bits are no integers.
-/
namespace BookTheme.Json

theorem isDigit_iff {b : UInt8} : isDigit b = true ↔ 0x30 ≤ b ∧ b ≤ 0x39 := by
  rw [isDigit, Bool.and_eq_true, decide_eq_true_eq, decide_eq_true_eq]

/-- No part of a number begins here. -/
def Ends (rest : Bytes) : Prop :=
  ∀ b ∈ rest.head?, isDigit b = false ∧ b ≠ 0x2E ∧ b ≠ 0x65 ∧ b ≠ 0x45

theorem Stops.ends {rest : Bytes} (h : Stops rest) : Ends rest := by
  intro b hb
  rcases h b hb with (rfl | rfl | rfl | rfl) | rfl | rfl | rfl <;> decide

def values (ds : Bytes) : List Nat := ds.map (·.toNat - 0x30)

variable {ds rest : Bytes}

theorem takeWhile_isDigit (hd : ∀ b ∈ ds, isDigit b = true) (hr : ∀ b ∈ rest.head?, isDigit b = false) :
    (ds ++ rest).takeWhile isDigit = ds ∧ (ds ++ rest).dropWhile isDigit = rest := by
  rw [List.takeWhile_append_of_pos hd, List.dropWhile_append_of_pos hd]
  cases rest with
  | nil => simp
  | cons b rest =>
    have hb : isDigit b = false := hr b rfl
    simp [hb]

theorem Digits.isDigit (h : Digits ds) : ∀ b ∈ ds, Json.isDigit b = true :=
  fun b hb => isDigit_iff.mpr (h.2 b hb)

theorem Digits.read (h : Digits ds) (hr : ∀ b ∈ rest.head?, Json.isDigit b = false) (atEnd : Error) :
    readDigits atEnd (ds ++ rest) = .ok (values ds,rest) := by
  obtain ⟨ht,hd⟩ := takeWhile_isDigit h.isDigit hr
  cases ds with
  | nil => exact absurd rfl h.1
  | cons b ds =>
    rw [List.cons_append] at ht hd ⊢
    rw [readDigits, if_pos (h.isDigit b List.mem_cons_self), ht, hd, values]

theorem readFraction_none (hr : ∀ b ∈ rest.head?, b ≠ 0x2E) (atEnd : Error) :
    readFraction atEnd rest = .ok (none,rest) := by
  cases rest with
  | nil => rfl
  | cons b rest =>
    have hb : b ≠ 0x2E := hr b rfl
    simp [readFraction, hb]

theorem readExponent_none (hr : ∀ b ∈ rest.head?, b ≠ 0x65 ∧ b ≠ 0x45) (atEnd : Error) :
    readExponent atEnd rest = .ok (none,rest) := by
  cases rest with
  | nil => rfl
  | cons b rest =>
    obtain ⟨hl,hc⟩ := hr b rfl
    simp [readExponent, hl, hc]

theorem exists_readFraction {fraction : Bytes} (h : fraction = [] ∨ ∃ ds, Digits ds ∧ fraction = 0x2E :: ds) :
    ∃ o, (fraction = [] → o = none) ∧ ∀ atEnd rest,
      (∀ b ∈ rest.head?, isDigit b = false ∧ b ≠ 0x2E) → readFraction atEnd (fraction ++ rest) = .ok (o,rest) := by
  rcases h with rfl | ⟨ds,hd,rfl⟩
  · exact ⟨none,fun _ => rfl,fun atEnd rest hr => readFraction_none (fun b hb => (hr b hb).2) atEnd⟩
  · refine ⟨some (values ds),by simp,?_⟩
    intro atEnd rest hr
    have h := hd.read (fun b hb => (hr b hb).1) atEnd
    simp [readFraction, h, bind, Except.bind, pure, Except.pure]

theorem Digits.head_ne (h : Digits ds) (rest : Bytes) : ∃ b more, ds ++ rest = b :: more ∧ Json.isDigit b = true := by
  cases ds with
  | nil => exact absurd rfl h.1
  | cons b ds => exact ⟨b,ds ++ rest,rfl,h.isDigit b List.mem_cons_self⟩

theorem exists_readSign {mark : Bytes} (hm : mark = [] ∨ mark = [0x2B] ∨ mark = [0x2D]) (hd : Digits ds) :
    ∃ negative, ∀ rest, readSign (mark ++ (ds ++ rest)) = (negative,ds ++ rest) := by
  rcases hm with rfl | rfl | rfl
  · refine ⟨false,?_⟩
    intro rest
    obtain ⟨b,more,he,hb⟩ := hd.head_ne rest
    have hminus : b ≠ 0x2D := by
      rintro rfl
      exact absurd hb (by decide)
    have hplus : b ≠ 0x2B := by
      rintro rfl
      exact absurd hb (by decide)
    simp [he, readSign, hminus, hplus]
  · exact ⟨false,fun _ => rfl⟩
  · exact ⟨true,fun _ => rfl⟩

theorem exists_readExponent {exponent : Bytes}
    (h : exponent = [] ∨ ∃ letter mark ds, (letter = 0x65 ∨ letter = 0x45) ∧
      (mark = [] ∨ mark = [0x2B] ∨ mark = [0x2D]) ∧ Digits ds ∧ exponent = letter :: (mark ++ ds)) :
    ∃ o, (exponent = [] → o = none) ∧ ∀ atEnd rest, Ends rest →
      readExponent atEnd (exponent ++ rest) = .ok (o,rest) := by
  rcases h with rfl | ⟨letter,mark,ds,hl,hm,hd,rfl⟩
  · exact ⟨none,fun _ => rfl,fun atEnd rest hr => readExponent_none (fun b hb => (hr b hb).2.2) atEnd⟩
  · obtain ⟨negative,hsign⟩ := exists_readSign hm hd
    refine ⟨some (if negative then -(ofDigits (values ds) : Int) else ofDigits (values ds)),by simp,?_⟩
    intro atEnd rest hr
    have h := hd.read (fun b hb => (hr b hb).1) atEnd
    have hletter : (letter = 0x65 || letter = 0x45) = true := by simpa using hl
    simp [readExponent, hletter, hsign, h, bind, Except.bind, pure, Except.pure]

theorem Digits.leadingZero (h : Digits ds) (hz : ds.head? = some 0x30 → ds = [0x30]) :
    ((values ds).head? = some 0 && 1 < (values ds).length : Bool) = false := by
  cases ds with
  | nil => rfl
  | cons b ds =>
    by_cases hb : b = 0x30
    · rw [hz (congrArg some hb)]
      rfl
    · have hle : 0x30 ≤ b.toNat := (h.2 b List.mem_cons_self).1
      have hne : b.toNat ≠ 0x30 := fun he => hb (UInt8.toNat_inj.mp he)
      have hv : b.toNat - 0x30 ≠ 0 := by omega
      simp [values, hv]

theorem exists_readSpelling {sign whole fraction exponent : Bytes} (hs : sign = [] ∨ sign = [0x2D])
    (hw : Digits whole) (hz : whole.head? = some 0x30 → whole = [0x30])
    (hf : fraction = [] ∨ ∃ ds, Digits ds ∧ fraction = 0x2E :: ds)
    (he : exponent = [] ∨ ∃ letter mark ds, (letter = 0x65 ∨ letter = 0x45) ∧
      (mark = [] ∨ mark = [0x2B] ∨ mark = [0x2D]) ∧ Digits ds ∧ exponent = letter :: (mark ++ ds)) :
    ∃ p : Spelling, p.negative = (sign ≠ [] : Bool) ∧ p.whole = values whole ∧
      (fraction = [] → exponent = [] → p.scaled = false) ∧ ∀ atEnd rest, Ends rest →
        readSpelling atEnd (sign ++ (whole ++ (fraction ++ exponent)) ++ rest) = .ok (p,rest) := by
  obtain ⟨o,ho,hfraction⟩ := exists_readFraction hf
  obtain ⟨x,hx,hexponent⟩ := exists_readExponent he
  refine ⟨⟨sign ≠ [],values whole,o.getD [],x.getD 0,o.isSome || x.isSome⟩,rfl,rfl,?_,?_⟩
  · intro hf he
    rw [ho hf, hx he]
    rfl
  · intro atEnd rest hr
    have he : ∀ b ∈ (exponent ++ rest).head?, isDigit b = false ∧ b ≠ 0x2E := by
      rcases he with rfl | ⟨letter,mark,ds,rfl | rfl,_,_,rfl⟩
      · exact fun b hb => ⟨(hr b hb).1,(hr b hb).2.1⟩
      · simp
        decide
      · simp
        decide
    have hf : ∀ b ∈ (fraction ++ (exponent ++ rest)).head?, isDigit b = false := by
      rcases hf with rfl | ⟨ds,_,rfl⟩
      · exact fun b hb => (he b hb).1
      · simp
        decide
    have hwhole := hw.read hf atEnd
    have hzero := hw.leadingZero hz
    rcases hs with rfl | rfl
    · obtain ⟨b,more,hb,hdigit⟩ := hw.head_ne (fraction ++ (exponent ++ rest))
      have hminus : b ≠ 0x2D := by
        rintro rfl
        exact absurd hdigit (by decide)
      rw [hb] at hwhole
      simp [readSpelling, hb, hminus, hwhole, hzero, hfraction _ _ he, hexponent _ _ hr, bind, Except.bind, pure,
        Except.pure]
    · simp [readSpelling, hwhole, hzero, hfraction _ _ he, hexponent _ _ hr, bind, Except.bind, pure, Except.pure]

theorem IsNumber.read {v : Bytes} (h : IsNumber v) :
    ∃ p, ∀ atEnd rest, Ends rest → readSpelling atEnd (v ++ rest) = .ok (p,rest) := by
  obtain ⟨hs,hw,hz,hf,he⟩ := h
  obtain ⟨p,_,_,_,hp⟩ := exists_readSpelling hs hw hz hf he
  exact ⟨p,hp⟩

theorem encode_digitChar {n : Nat} (h : n < 10) : Utf8.encode [n.digitChar] = [UInt8.ofNat (0x30 + n)] := by
  have hall : ∀ n < 10, Utf8.encode [n.digitChar] = [UInt8.ofNat (0x30 + n)] := by decide
  exact hall n h

theorem natural_of_lt {n : Nat} (h : n < 10) : natural n = [UInt8.ofNat (0x30 + n)] := by
  rw [natural, Decimal.numeral, Nat.toDigits_of_lt_base h]
  exact encode_digitChar h

theorem natural_of_le {n : Nat} (h : 10 ≤ n) : natural n = natural (n / 10) ++ [UInt8.ofNat (0x30 + n % 10)] := by
  rw [natural, Decimal.numeral, Nat.toDigits_of_base_le (by decide) h]
  have hd : Utf8.encode [(n % 10).digitChar] = [UInt8.ofNat (0x30 + n % 10)] := encode_digitChar (by omega)
  rw [← hd]
  exact Utf8.encode_append _ _

theorem toNat_digit {n : Nat} (h : n < 10) : (UInt8.ofNat (0x30 + n)).toNat = 0x30 + n := by
  rw [UInt8.toNat_ofNat']
  omega

theorem digit_bounds {d : Nat} (h : d < 10) : 0x30 ≤ UInt8.ofNat (0x30 + d) ∧ UInt8.ofNat (0x30 + d) ≤ 0x39 := by
  have hall : ∀ d < 10, 0x30 ≤ UInt8.ofNat (0x30 + d) ∧ UInt8.ofNat (0x30 + d) ≤ 0x39 := by decide
  exact hall d h

theorem ofDigits_values_concat (ds : Bytes) {d : Nat} (h : d < 10) :
    ofDigits (values (ds ++ [UInt8.ofNat (0x30 + d)])) = ofDigits (values ds) * 10 + d := by
  simp only [values, ofDigits, List.map_append, List.map_cons, List.map_nil, List.foldl_append, List.foldl_cons,
    List.foldl_nil, toNat_digit h]
  omega

theorem digits_natural (n : Nat) : Digits (natural n) ∧ ((natural n).head? = some 0x30 → natural n = [0x30]) ∧
    ofDigits (values (natural n)) = n := by
  induction n using Nat.strongRecOn with
  | ind n ih =>
    by_cases h : n < 10
    · rw [natural_of_lt h]
      refine ⟨⟨by simp,?_⟩,?_,?_⟩
      · simpa using digit_bounds h
      · intro h0
        rw [Option.some.inj h0]
      · exact (ofDigits_values_concat [] h).trans (Nat.zero_add n)
    · obtain ⟨hd,hz,hv⟩ := ih (n / 10) (by omega)
      have hm : n % 10 < 10 := by omega
      rw [natural_of_le (by omega)]
      refine ⟨⟨by simp,?_⟩,?_,?_⟩
      · intro b hb
        rcases List.mem_append.mp hb with hb | hb
        · exact hd.2 b hb
        · rw [List.mem_singleton.mp hb]
          exact digit_bounds hm
      · intro h0
        have hfirst : (natural (n / 10)).head? = some 0x30 := by
          obtain ⟨b,ds,hb⟩ := List.exists_cons_of_ne_nil hd.1
          rw [hb] at h0 ⊢
          exact h0
        rw [hz hfirst] at hv
        have hv : 0 = n / 10 := hv
        omega
      · rw [ofDigits_values_concat _ hm, hv]
        omega

theorem le_foldl (n : Nat) (ds : List Nat) : n ≤ ds.foldl (fun n d => n * 10 + d) n := by
  induction ds generalizing n with
  | nil => exact Nat.le_refl n
  | cons d ds ih =>
    have h := ih (n * 10 + d)
    rw [List.foldl_cons]
    omega

/-- All digits count of a number that fits into 64 bits. -/
theorem absorb_of_lt {n : Nat} {ds : List Nat} (h : ds.foldl (fun n d => n * 10 + d) n < UInt64.size) :
    absorb n ds = (ds.foldl (fun n d => n * 10 + d) n,[]) := by
  induction ds generalizing n with
  | nil => rfl
  | cons d ds ih =>
    rw [List.foldl_cons] at h ⊢
    have hle := le_foldl (n * 10 + d) ds
    rw [absorb, if_pos (by omega)]
    exact ih h

theorem lt_of_absorb {n : Nat} {ds : List Nat} (hn : n < UInt64.size) (h : (absorb n ds).2 = []) :
    ds.foldl (fun n d => n * 10 + d) n < UInt64.size := by
  induction ds generalizing n with
  | nil => exact hn
  | cons d ds ih =>
    rw [absorb] at h
    split at h
    case isTrue hd => exact ih hd h
    case isFalse => cases h

/-- Only what is written without fraction and exponent, and fits into 64 bits, is an integer. -/
theorem Spelling.value?_eq_integer {p : Spelling} {k : Int} (h : p.value? = some (.integer k)) :
    ofDigits p.whole < UInt64.size ∧
      (p.negative = false ∧ k = ofDigits p.whole ∨ p.negative = true ∧ k < 0) := by
  unfold Spelling.value? at h
  by_cases hd : (absorb 0 p.whole).2 = []
  · have hlt : ofDigits p.whole < UInt64.size := lt_of_absorb (by decide) hd
    refine ⟨hlt,?_⟩
    rw [absorb_of_lt hlt] at h
    cases hs : p.scaled with
    | true => simp [hs] at h
    | false =>
      cases hn : p.negative with
      | false =>
        simp only [hs, hn, List.isEmpty_nil, Bool.not_false, Bool.and_self, if_true, Option.some.injEq,
          Number.integer.injEq] at h
        exact .inl ⟨rfl,h.symm⟩
      | true =>
        simp only [hs, hn, List.isEmpty_nil, Bool.not_false, Bool.not_true, Bool.and_self, if_true,
          Bool.false_eq_true, if_false, Bool.or_eq_true, decide_eq_true_eq] at h
        split at h
        case isTrue => cases h
        case isFalse hk =>
          refine .inr ⟨rfl,?_⟩
          simp only [Option.some.injEq, Number.integer.injEq] at h
          omega
  · simp [hd] at h

/-- A natural number is read as such if it fits into 64 bits. -/
theorem readNumber_natural {n : Nat} (hn : n < UInt64.size) {rest : Bytes} (hr : Ends rest) :
    readNumber (natural n ++ rest) = .ok (.integer n,rest) := by
  obtain ⟨hd,hz,hv⟩ := digits_natural n
  obtain ⟨p,hneg,hwhole,hscaled,hp⟩ := exists_readSpelling (.inl rfl) hd hz (.inl rfl) (.inl rfl)
  have hread : readSpelling .endInValue (natural n ++ rest) = .ok (p,rest) := by simpa using hp .endInValue rest hr
  have hfold : p.whole.foldl (fun n d => n * 10 + d) 0 = n := by
    rw [hwhole]
    exact hv
  have hneg : p.negative = false := by simpa using hneg
  have habsorb : absorb 0 p.whole = (n,[]) := by
    rw [absorb_of_lt (by omega), hfold]
  simp [readNumber, hread, Spelling.value?, habsorb, hscaled rfl rfl, hneg, bind, Except.bind]

/-- A sign makes a number negative, and digits that do not fit into 64 bits are no integer. -/
theorem integer_of_readNumber {n : Nat} {sign : Bytes} (hs : sign = [] ∨ sign = [0x2D]) {rest rest' : Bytes}
    (hr : Ends rest) {k : Int} (h : readNumber (sign ++ natural n ++ rest) = .ok (.integer k,rest')) :
    sign = [] ∧ k = n ∧ n < UInt64.size ∨ sign ≠ [] ∧ k < 0 := by
  obtain ⟨hd,hz,hv⟩ := digits_natural n
  obtain ⟨p,hneg,hwhole,hscaled,hp⟩ := exists_readSpelling hs hd hz (.inl rfl) (.inl rfl)
  have hread : readSpelling .endInValue (sign ++ natural n ++ rest) = .ok (p,rest) := by
    simpa using hp .endInValue rest hr
  have hvalue : p.value? = some (.integer k) := by
    simp only [readNumber, hread, bind, Except.bind] at h
    split at h
    case h_1 m hm =>
      simp only [Except.ok.injEq, Prod.mk.injEq] at h
      rw [hm, h.1]
    case h_2 => cases h
  obtain ⟨hlt,hk⟩ := p.value?_eq_integer hvalue
  rw [hwhole, hv] at hlt hk
  rcases hk with ⟨hf,rfl⟩ | ⟨ht,hk⟩
  · rw [hneg] at hf
    exact .inl ⟨by simpa using hf,rfl,hlt⟩
  · rw [hneg] at ht
    exact .inr ⟨by simpa using ht,hk⟩

end BookTheme.Json
