import BookTheme.Bytes.Base64
import BookTheme.Proofs.Bytes.Utf8
import Mathlib.Data.List.Basic

/-! # Base64 has one form

What `decode` reads is what `encode` writes, and nothing else. Between the two stand the values of the
symbols: bytes and values determine each other as long as the bits that belong to no byte are zero, and a
text of symbols is read exactly if it is those values, one symbol each, and the filling that they need.
-/
namespace BookTheme.Base64

theorem value?_symbol {n : Nat} (h : n < 64) : value? (symbol n) = some n := by
  have hd : ∀ n < 64, value? (symbol n) = some n := by decide
  exact hd n h

theorem symbol_of_value? {b : UInt8} {n : Nat} (h : value? b = some n) : n < 64 ∧ symbol n = b := by
  have hd : ∀ k < 256, (value? (.ofNat k)).all (fun n => n < 64 ∧ symbol n = .ofNat k) = true := by
    decide +kernel
  have hb := hd b.toNat b.toNat_lt
  rw [UInt8.ofNat_toNat, h] at hb
  exact of_decide_eq_true hb

theorem symbol_ne_pad {n : Nat} (h : n < 64) : symbol n ≠ pad := by
  intro he
  have hp : value? pad = none := by decide
  have hv := value?_symbol h
  rw [he, hp] at hv
  cases hv

theorem valuesFrom_eq_ok_iff {index : Nat} {bytes : Bytes} {values : List Nat} :
    valuesFrom index bytes = .ok values ↔ bytes = values.map symbol ∧ ∀ n ∈ values, n < 64 := by
  induction bytes generalizing index values with
  | nil =>
    cases values with
    | nil => simp [valuesFrom]
    | cons n values => simp [valuesFrom]
  | cons b bytes ih =>
    cases hb : value? b with
    | none =>
      constructor
      · intro h
        simp only [valuesFrom, hb] at h
        cases h
      · rintro ⟨he,hv⟩
        cases values with
        | nil => cases he
        | cons n values =>
          obtain ⟨rfl,_⟩ := List.cons.inj he
          rw [value?_symbol (hv n List.mem_cons_self)] at hb
          cases hb
    | some n =>
      obtain ⟨hn,rfl⟩ := symbol_of_value? hb
      constructor
      · intro h
        simp only [valuesFrom, hb] at h
        cases hr : valuesFrom (index + 1) bytes with
        | error e =>
          rw [hr] at h
          cases h
        | ok rest =>
          rw [hr] at h
          cases h
          obtain ⟨rfl,hlt⟩ := ih.mp hr
          refine ⟨rfl,?_⟩
          intro m hm
          rcases List.mem_cons.mp hm with rfl | hm
          · exact hn
          · exact hlt m hm
      · rintro ⟨he,hv⟩
        cases values with
        | nil => cases he
        | cons m values =>
          obtain ⟨hm,rfl⟩ := List.cons.inj he
          have hm64 := hv m List.mem_cons_self
          rw [hm, value?_symbol hm64] at hb
          cases hb
          have hr : valuesFrom (index + 1) (values.map symbol) = .ok values :=
            ih.mpr ⟨rfl,fun k hk => hv k (List.mem_cons_of_mem _ hk)⟩
          simp only [valuesFrom, value?_symbol hm64, hr]
          rfl

/-! ## Values and bytes -/

def sextets : Bytes → List Nat
  | [] => []
  | [a] => [a.toNat / 4, a.toNat % 4 * 16]
  | [a, b] => [a.toNat / 4, a.toNat % 4 * 16 + b.toNat / 16, b.toNat % 16 * 4]
  | a :: b :: c :: rest =>
    a.toNat / 4 :: (a.toNat % 4 * 16 + b.toNat / 16) :: (b.toNat % 16 * 4 + c.toNat / 64) :: c.toNat % 64 ::
      sextets rest

def filling (count : Nat) : Bytes := List.replicate ((4 - count % 4) % 4) pad

/-- Values that spell bytes without rest: the last group is not a single one, and its unused bits are zero. -/
structure Canonical (values : List Nat) : Prop where
  lt : ∀ n ∈ values, n < 64
  length_mod_ne : values.length % 4 ≠ 1
  unused_eq : unusedBits (values.length % 4) (values.getLastD 0) = 0

theorem encode_eq (bytes : Bytes) :
    encode bytes = (sextets bytes).map symbol ++ filling (sextets bytes).length := by
  fun_induction encode bytes with
  | case1 => rfl
  | case2 a => rfl
  | case3 a b => rfl
  | case4 a b c rest ih =>
    have hl : (sextets (a :: b :: c :: rest)).length = (sextets rest).length + 4 := rfl
    rw [ih, hl, filling, filling, Nat.add_mod_right]
    rfl

theorem bytesOf_sextets (bytes : Bytes) : bytesOf (sextets bytes) = bytes := by
  fun_induction sextets bytes with
  | case1 => rfl
  | case2 a =>
    have ha := a.toNat_lt
    simp only [bytesOf]
    rw [ofNat_eq_of_toNat (a := a) (by omega)]
  | case3 a b =>
    have ha := a.toNat_lt
    have hb := b.toNat_lt
    simp only [bytesOf]
    rw [ofNat_eq_of_toNat (a := a) (by omega), ofNat_eq_of_toNat (a := b) (by omega)]
  | case4 a b c rest ih =>
    have ha := a.toNat_lt
    have hb := b.toNat_lt
    have hc := c.toNat_lt
    simp only [bytesOf]
    rw [ih, ofNat_eq_of_toNat (a := a) (by omega), ofNat_eq_of_toNat (a := b) (by omega),
      ofNat_eq_of_toNat (a := c) (by omega)]

theorem length_cons₄_mod (a b c d : Nat) (rest : List Nat) :
    (a :: b :: c :: d :: rest).length % 4 = rest.length % 4 := by
  simp only [List.length_cons]
  omega

theorem Canonical.cons₄ {a b c d : Nat} {rest : List Nat} (ha : a < 64) (hb : b < 64) (hc : c < 64)
    (hd : d < 64) (h : Canonical rest) : Canonical (a :: b :: c :: d :: rest) where
  lt := by
    intro n hn
    simp only [List.mem_cons] at hn
    rcases hn with rfl | rfl | rfl | rfl | hn
    · exact ha
    · exact hb
    · exact hc
    · exact hd
    · exact h.lt n hn
  length_mod_ne := by
    rw [length_cons₄_mod]
    exact h.length_mod_ne
  unused_eq := by
    rw [length_cons₄_mod]
    cases rest with
    | nil => rfl
    | cons e rest => exact h.unused_eq

theorem Canonical.of_cons₄ {a b c d : Nat} {rest : List Nat} (h : Canonical (a :: b :: c :: d :: rest)) :
    Canonical rest where
  lt := fun n hn => h.lt n (by simp [hn])
  length_mod_ne := by
    rw [← length_cons₄_mod a b c d rest]
    exact h.length_mod_ne
  unused_eq := by
    have hu := h.unused_eq
    rw [length_cons₄_mod] at hu
    cases rest with
    | nil => rfl
    | cons e rest => exact hu

theorem canonical_sextets (bytes : Bytes) : Canonical (sextets bytes) := by
  fun_induction sextets bytes with
  | case1 => exact ⟨by simp,by decide,rfl⟩
  | case2 a =>
    have ha := a.toNat_lt
    refine ⟨?_,by simp,?_⟩
    · simp only [List.mem_cons, List.not_mem_nil, or_false]
      omega
    · change a.toNat % 4 * 16 % 16 = 0
      omega
  | case3 a b =>
    have ha := a.toNat_lt
    have hb := b.toNat_lt
    refine ⟨?_,by simp,?_⟩
    · simp only [List.mem_cons, List.not_mem_nil, or_false]
      omega
    · change b.toNat % 16 * 4 % 4 = 0
      omega
  | case4 a b c rest ih =>
    have ha := a.toNat_lt
    have hb := b.toNat_lt
    have hc := c.toNat_lt
    exact ih.cons₄ (by omega) (by omega) (by omega) (by omega)

theorem sextets_bytesOf {values : List Nat} (h : Canonical values) : sextets (bytesOf values) = values := by
  fun_induction bytesOf values with
  | case1 a b c d rest ih =>
    have ha := h.lt a (by simp)
    have hb := h.lt b (by simp)
    have hc := h.lt c (by simp)
    have hd := h.lt d (by simp)
    simp only [sextets, UInt8.toNat_ofNat', ih h.of_cons₄, List.cons.injEq, and_true]
    omega
  | case2 a b c =>
    have ha := h.lt a (by simp)
    have hb := h.lt b (by simp)
    have hc := h.lt c (by simp)
    have hu : c % 4 = 0 := h.unused_eq
    simp only [sextets, UInt8.toNat_ofNat', List.cons.injEq, and_true]
    omega
  | case3 a b =>
    have ha := h.lt a (by simp)
    have hb := h.lt b (by simp)
    have hu : b % 16 = 0 := h.unused_eq
    simp only [sextets, UInt8.toNat_ofNat', List.cons.injEq, and_true]
    omega
  | case4 values h₁ h₂ h₃ =>
    match values, h with
    | [], _ => rfl
    | [a], h => exact absurd rfl h.length_mod_ne
    | [a, b], _ => exact absurd rfl (h₃ a b)
    | [a, b, c], _ => exact absurd rfl (h₂ a b c)
    | a :: b :: c :: d :: rest, _ => exact absurd rfl (h₁ a b c d rest)

/-! ## Symbols and filling -/

theorem takeWhile_symbols {values : List Nat} (h : ∀ n ∈ values, n < 64) (k : Nat) :
    (values.map symbol ++ List.replicate k pad).takeWhile (· ≠ pad) = values.map symbol ∧
      (values.map symbol ++ List.replicate k pad).dropWhile (· ≠ pad) = List.replicate k pad := by
  have hs : ∀ b ∈ values.map symbol, decide (b ≠ pad) = true := by
    intro b hb
    obtain ⟨n,hn,rfl⟩ := List.mem_map.mp hb
    exact decide_eq_true (symbol_ne_pad (h n hn))
  rw [List.takeWhile_append_of_pos hs, List.dropWhile_append_of_pos hs]
  cases k with
  | zero => simp
  | succ k => simp [List.replicate_succ]

theorem tailValues_eq_ok_iff {start : Nat} {tail : Bytes} {values : List Nat} (ht : tail ≠ []) :
    tailValues start tail = .ok values ↔ 2 ≤ values.length ∧ values.length ≤ 4 ∧ (∀ n ∈ values, n < 64) ∧
      tail = values.map symbol ++ List.replicate (4 - values.length) pad ∧
      unusedBits values.length (values.getLastD 0) = 0 := by
  have hte : tail.isEmpty = false := by simpa using ht
  constructor
  · intro h
    simp only [tailValues] at h
    cases hv : valuesFrom start (tail.takeWhile (· ≠ pad)) with
    | error e =>
      rw [hv] at h
      cases h
    | ok vs =>
      obtain ⟨hsym,hlt⟩ := valuesFrom_eq_ok_iff.mp hv
      have hta : vs.map symbol ++ tail.dropWhile (· ≠ pad) = tail := by
        rw [← hsym, List.takeWhile_append_dropWhile]
      rw [hv, hsym] at h
      simp only [bind, Except.bind, hte, List.length_map, Bool.not_false, Bool.true_and] at h
      generalize tail.dropWhile (· ≠ pad) = pads at h hta
      split at h
      · cases h
      · rename_i hpads
        split at h
        · cases h
        · rename_i hcount
          split at h
          · cases h
          · rename_i hlength
            split at h
            · cases h
            · rename_i hunused
              cases h
              simp only [decide_eq_true_eq, Nat.not_lt] at hcount
              simp only [decide_eq_true_eq, ne_eq, not_not] at hlength hunused
              have hall : ∀ b ∈ pads, b = pad := by
                intro b hb
                by_contra hne
                refine hpads ?_
                have hany : pads.any (fun x => decide (x ≠ pad)) = true :=
                  List.any_eq_true.mpr ⟨b,hb,decide_eq_true hne⟩
                have hemp : pads.isEmpty = false := by
                  cases pads with
                  | nil => cases hb
                  | cons _ _ => rfl
                rw [hany, hemp, Bool.or_true]
                rfl
              have hlen : pads.length = 4 - values.length := by omega
              refine ⟨hcount,by omega,hlt,?_,hunused⟩
              rw [← hta, List.eq_replicate_of_mem hall, hlen]
  · rintro ⟨h2,h4,hlt,rfl,hu⟩
    obtain ⟨htake,hdrop⟩ := takeWhile_symbols hlt (4 - values.length)
    have hv : valuesFrom start (values.map symbol) = .ok values := valuesFrom_eq_ok_iff.mpr ⟨rfl,hlt⟩
    have hpads : ((!(List.replicate (4 - values.length) pad).isEmpty) && (decide (values.length < 2) ||
        (List.replicate (4 - values.length) pad).any (· ≠ pad))) = false := by
      have hc : decide (values.length < 2) = false := decide_eq_false (by omega)
      have hp : (List.replicate (4 - values.length) pad).any (· ≠ pad) = false := by simp
      rw [hc, hp, Bool.or_false, Bool.and_false]
    have hlength : values.length + (4 - values.length) = 4 := by omega
    simp only [tailValues]
    rw [htake, hdrop, hv]
    simp only [bind, Except.bind, List.length_map, hpads, hte, List.length_replicate, hlength, hu]
    simp [show ¬ values.length < 2 by omega]

/-! ## Groups and tail -/

section
variable {vs ws : List Nat} (hv : vs.length % 4 = 0) (h2 : 2 ≤ ws.length) (h4 : ws.length ≤ 4)
include hv h2 h4

theorem filling_append : filling (vs ++ ws).length = List.replicate (4 - ws.length) pad := by
  have hl : (4 - (vs ++ ws).length % 4) % 4 = 4 - ws.length := by
    rw [List.length_append]
    omega
  rw [filling, hl]

theorem canonical_append_iff :
    Canonical (vs ++ ws) ↔ (∀ n ∈ vs, n < 64) ∧ (∀ n ∈ ws, n < 64) ∧ unusedBits ws.length (ws.getLastD 0) = 0 := by
  have hlast : (vs ++ ws).getLastD 0 = ws.getLastD 0 := by
    have hne : ws ≠ [] := by
      rintro rfl
      exact absurd h2 (by decide)
    rw [List.getLastD_eq_getLast?, List.getLastD_eq_getLast?, List.getLast?_append_of_ne_nil vs hne]
  have hmod : (vs ++ ws).length % 4 = ws.length % 4 := by
    rw [List.length_append]
    omega
  have hunused : unusedBits (ws.length % 4) (ws.getLastD 0) = unusedBits ws.length (ws.getLastD 0) := by
    rcases (by omega : ws.length = 4 ∨ ws.length % 4 = ws.length) with hl | hl
    · rw [hl]
      rfl
    · rw [hl]
  constructor
  · intro h
    have hu := h.unused_eq
    rw [hmod, hlast, hunused] at hu
    exact ⟨fun n hn => h.lt n (List.mem_append_left _ hn),fun n hn => h.lt n (List.mem_append_right _ hn),hu⟩
  · rintro ⟨hvlt,hwlt,hu⟩
    refine ⟨?_,by omega,by rw [hmod, hlast, hunused, hu]⟩
    intro n hn
    rcases List.mem_append.mp hn with hn | hn
    · exact hvlt n hn
    · exact hwlt n hn

end

/-- All values but those of the last group, and these. -/
theorem Canonical.exists_tail {values : List Nat} (h : Canonical values) (hne : values ≠ []) :
    ∃ vs ws, values = vs ++ ws ∧ vs.length % 4 = 0 ∧ 2 ≤ ws.length ∧ ws.length ≤ 4 := by
  have hpos : 0 < values.length := List.length_pos_of_ne_nil hne
  have hmod := h.length_mod_ne
  refine ⟨values.take ((values.length - 1) / 4 * 4),values.drop ((values.length - 1) / 4 * 4),
    (List.take_append_drop _ _).symm,?_,?_,?_⟩
  · rw [List.length_take]
    omega
  · rw [List.length_drop]
    omega
  · rw [List.length_drop]
    omega

theorem decode_append {head tail : Bytes} (hh : head.length % 4 = 0) (h1 : 1 ≤ tail.length)
    (h4 : tail.length ≤ 4) (hs : strayLast? (head ++ tail) = none) :
    decode (head ++ tail) = (valuesFrom 0 head).bind fun vs =>
      (tailValues head.length tail).bind fun ws => .ok (bytesOf (vs ++ ws)) := by
  have hstart : ((head ++ tail).length - 1) / 4 * 4 = head.length := by
    rw [List.length_append]
    omega
  simp only [decode, hs, hstart, List.take_left, List.drop_left]
  rfl

theorem decode_filled {values : List Nat} (h : Canonical values) :
    decode (values.map symbol ++ filling values.length) = .ok (bytesOf values) := by
  by_cases hne : values = []
  · subst hne
    rfl
  · obtain ⟨vs,ws,rfl,hv,h2,h4⟩ := h.exists_tail hne
    obtain ⟨hvlt,hwlt,hu⟩ := (canonical_append_iff hv h2 h4).mp h
    have hlen : (ws.map symbol ++ List.replicate (4 - ws.length) pad).length = 4 := by
      rw [List.length_append, List.length_map, List.length_replicate]
      omega
    have htail : ws.map symbol ++ List.replicate (4 - ws.length) pad ≠ [] := by
      intro he
      rw [he] at hlen
      cases hlen
    have hvl : (vs.map symbol).length % 4 = 0 := by rw [List.length_map, hv]
    have hstray : strayLast? (vs.map symbol ++ (ws.map symbol ++ List.replicate (4 - ws.length) pad)) = none := by
      rw [strayLast?, if_neg]
      rw [List.length_append, hlen]
      omega
    have hws : tailValues (vs.map symbol).length (ws.map symbol ++ List.replicate (4 - ws.length) pad) = .ok ws :=
      (tailValues_eq_ok_iff htail).mpr ⟨h2,h4,hwlt,rfl,hu⟩
    have hvs : valuesFrom 0 (vs.map symbol) = .ok vs := valuesFrom_eq_ok_iff.mpr ⟨rfl,hvlt⟩
    rw [filling_append hv h2 h4, List.map_append, List.append_assoc,
      decode_append hvl (by omega) (by omega) hstray, hvs, hws]
    rfl

theorem exists_canonical_of_decode {bytes out : Bytes} (h : decode bytes = .ok out) :
    ∃ values, Canonical values ∧ bytes = values.map symbol ++ filling values.length ∧ bytesOf values = out := by
  by_cases hne : bytes = []
  · subst hne
    cases h
    exact ⟨[],⟨by simp,by decide,rfl⟩,rfl,rfl⟩
  · have hpos : 0 < bytes.length := List.length_pos_of_ne_nil hne
    obtain ⟨head,tail,rfl,hh,h1,h4⟩ : ∃ head tail, bytes = head ++ tail ∧ head.length % 4 = 0 ∧
        1 ≤ tail.length ∧ tail.length ≤ 4 := by
      refine ⟨bytes.take ((bytes.length - 1) / 4 * 4),bytes.drop ((bytes.length - 1) / 4 * 4),
        (List.take_append_drop _ _).symm,?_,?_,?_⟩
      · rw [List.length_take]
        omega
      · rw [List.length_drop]
        omega
      · rw [List.length_drop]
        omega
    cases hs : strayLast? (head ++ tail) with
    | some b =>
      rw [decode, hs] at h
      cases h
    | none =>
      rw [decode_append hh h1 h4 hs] at h
      cases hv : valuesFrom 0 head with
      | error e =>
        rw [hv] at h
        cases h
      | ok vs =>
        cases hw : tailValues head.length tail with
        | error e =>
          rw [hv, hw] at h
          cases h
        | ok ws =>
          rw [hv, hw] at h
          obtain ⟨rfl,hvlt⟩ := valuesFrom_eq_ok_iff.mp hv
          have htail : tail ≠ [] := List.ne_nil_of_length_pos h1
          obtain ⟨h2,hw4,hwlt,rfl,hu⟩ := (tailValues_eq_ok_iff htail).mp hw
          rw [List.length_map] at hh
          refine ⟨vs ++ ws,(canonical_append_iff hh h2 hw4).mpr ⟨hvlt,hwlt,hu⟩,?_,Except.ok.inj h⟩
          rw [filling_append hh h2 hw4, List.map_append, List.append_assoc]

/-- Bytes are read from what they are written as, and from nothing else. -/
theorem decode_eq_ok_iff {bytes out : Bytes} : decode bytes = .ok out ↔ bytes = encode out := by
  constructor
  · intro h
    obtain ⟨values,hc,rfl,rfl⟩ := exists_canonical_of_decode h
    rw [encode_eq, sextets_bytesOf hc]
  · rintro rfl
    rw [encode_eq, decode_filled (canonical_sextets out), bytesOf_sextets]

/-! ## As characters -/

theorem eq_pad_or_symbol_of_mem {bytes : Bytes} {b : UInt8} (h : b ∈ encode bytes) :
    b = pad ∨ ∃ n < 64, symbol n = b := by
  rw [encode_eq] at h
  rcases List.mem_append.mp h with h | h
  · obtain ⟨n,hn,rfl⟩ := List.mem_map.mp h
    exact .inr ⟨n,(canonical_sextets bytes).lt n hn,rfl⟩
  · exact .inl (List.eq_of_mem_replicate h)

theorem toNat_lt_of_mem {bytes : Bytes} {b : UInt8} (h : b ∈ encode bytes) : b.toNat < 128 := by
  have hs : ∀ n < 64, (symbol n).toNat < 128 := by decide
  rcases eq_pad_or_symbol_of_mem h with rfl | ⟨n,hn,rfl⟩
  · decide
  · exact hs n hn

def text (bytes : Bytes) : Text := (encode bytes).map fun b => Char.ofNat b.toNat

theorem encode_text (bytes : Bytes) : Utf8.encode (text bytes) = encode bytes :=
  Utf8.encode_map_ofNat fun _ => toNat_lt_of_mem

theorem text_inj {bytes bytes' : Bytes} : text bytes = text bytes' ↔ bytes = bytes' := by
  constructor
  · intro h
    have he := congrArg Utf8.encode h
    rw [encode_text, encode_text] at he
    exact eq_of_encode_eq decode_eq_ok_iff he
  · rintro rfl
    rfl

end BookTheme.Base64
