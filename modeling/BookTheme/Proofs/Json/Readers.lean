import BookTheme.Proofs.Json.Values

/-! # Readers that read a value alike wherever it stands

What a reader makes of a value does not depend on the space in front of it nor on what follows, and what
follows is left. So the reading of a list or an object can be followed part by part, by what is made of each
part when it stands alone. Errors are told apart no further here.
-/
namespace BookTheme.Json

variable {α : Type} {read : Reader α} {v rest : Bytes}

/-- Wherever the value stands, the reader makes this of it, or refuses it. -/
def Makes (read : Reader α) (v : Bytes) (o : Option α) : Prop :=
  ∀ ws rest, Space ws → Stops rest → (read (ws ++ (v ++ rest))).toOption = o.map fun a => (a,rest)

/-- What a reader makes of a value that stands alone. -/
def alone (read : Reader α) (v : Bytes) : Option α := (read v).toOption.map Prod.fst

def Regular (read : Reader α) : Prop := ∀ v, IsValue v → Makes read v (alone read v)

theorem Makes.alone_eq {o : Option α} (h : Makes read v o) : alone read v = o := by
  have hv := h [] [] (by simp [Space]) stops_nil
  rw [List.append_nil, List.nil_append] at hv
  rw [alone, hv]
  cases o <;> rfl

theorem regular_of_makes (h : ∀ v, IsValue v → ∃ o, Makes read v o) : Regular read := by
  intro v hv
  obtain ⟨o,ho⟩ := h v hv
  rwa [ho.alone_eq]

theorem makes_of_read_eq_ok {a : α}
    (h : ∀ ws rest, Space ws → Stops rest → read (ws ++ (v ++ rest)) = .ok (a,rest)) : Makes read v (some a) := by
  intro ws rest hw hr
  rw [h ws rest hw hr]
  rfl

def mapped {β : Type} (f : α → β) (read : Reader α) : Reader β := fun s => (fun p => (f p.1,p.2)) <$> read s

theorem Makes.mapped {β : Type} {o : Option α} (h : Makes read v o) (f : α → β) :
    Makes (Json.mapped f read) v (o.map f) := by
  intro ws rest hw hr
  have hv := h ws rest hw hr
  unfold Json.mapped
  cases hread : read (ws ++ (v ++ rest)) with
  | error e =>
    rw [hread] at hv
    cases o with
    | none => rfl
    | some a => cases hv
  | ok x =>
    rw [hread] at hv
    cases o with
    | none => cases hv
    | some a =>
      cases hv
      rfl

theorem Regular.mapped {β : Type} (h : Regular read) (f : α → β) : Regular (Json.mapped f read) :=
  regular_of_makes fun v hv => ⟨_,(h v hv).mapped f⟩

/-! ## Texts -/

theorem makes_readText {s : Text} (h : Quoted s v) : Makes readText v (some s) := by
  apply makes_of_read_eq_ok
  intro ws rest hw hr
  obtain ⟨h⟩ := h
  rw [readText, dropSpace_append hw]
  simp [dropSpace_cons (b := 0x22) (by decide), h.readString]

theorem makes_readText_none {b : UInt8} {s : Bytes} (hb : ¬ Blank b) (hq : b ≠ 0x22) :
    Makes readText (b :: s) none := by
  intro ws rest hw hr
  rw [readText, dropSpace_append hw, List.cons_append, dropSpace_cons hb]
  simp [hq, Except.toOption]

theorem regular_readText : Regular readText := by
  apply regular_of_makes
  intro v hv
  cases hv with
  | null | true | false => exact ⟨none,makes_readText_none (by decide) (by decide)⟩
  | number h =>
    obtain ⟨b,s,rfl,hb⟩ := h.first
    refine ⟨none,makes_readText_none (opens_of_startsNumber hb).1 ?_⟩
    rintro rfl
    cases hb
  | text h => exact ⟨_,makes_readText h⟩
  | list h | object h => cases h <;> exact ⟨none,makes_readText_none (by decide) (by decide)⟩

/-! ## Natural numbers -/

section
variable {limit : Nat} {expected : String}

theorem makes_readNat_none {b : UInt8} {s : Bytes} (hb : ¬ Blank b) (hn : startsNumber b = false) :
    Makes (readNat limit expected) (b :: s) none := by
  intro ws rest hw hr
  rw [readNat, dropSpace_append hw, List.cons_append, dropSpace_cons hb]
  simp [hn, Except.toOption]

theorem readNat_number {ws : Bytes} (hw : Space ws) (h : IsNumber v) :
    readNat limit expected (ws ++ (v ++ rest)) = (readNumber (v ++ rest)).bind fun
      | (.integer n,rest) =>
        if 0 ≤ n ∧ n ≤ limit then .ok (n.toNat,rest) else .error (.outOfRange n expected)
      | (number,_) => .error (.wrongType number.found expected) := by
  obtain ⟨b,s,rfl,hb⟩ := h.first
  rw [readNat, dropSpace_append hw, List.cons_append, dropSpace_cons (opens_of_startsNumber hb).1]
  simp only [hb, if_true]
  rfl

/-- What a number is read as does not depend on what follows it. -/
theorem IsNumber.readNumber_append (h : IsNumber v) :
    (∃ n, ∀ rest, Stops rest → readNumber (v ++ rest) = .ok (n,rest)) ∨
      ∀ rest, Stops rest → readNumber (v ++ rest) = .error .numberOutOfRange := by
  obtain ⟨p,hp⟩ := h.read
  cases hval : p.value? with
  | none =>
    right
    intro rest hr
    rw [readNumber, hp _ rest hr.ends]
    simp only [bind, Except.bind, hval]
  | some n =>
    left
    refine ⟨n,?_⟩
    intro rest hr
    rw [readNumber, hp _ rest hr.ends]
    simp only [bind, Except.bind, hval]

theorem regular_readNat : Regular (readNat limit expected) := by
  apply regular_of_makes
  intro v hv
  cases hv with
  | null | true | false => exact ⟨none,makes_readNat_none (by decide) (by decide)⟩
  | number h =>
    rcases h.readNumber_append with ⟨n,hread⟩ | hread
    · cases n with
      | integer n =>
        refine ⟨if 0 ≤ n ∧ n ≤ limit then some n.toNat else none,?_⟩
        intro ws rest hw hr
        rw [readNat_number hw h, hread rest hr]
        simp only [Except.bind]
        split <;> rfl
      | float negative size =>
        refine ⟨none,?_⟩
        intro ws rest hw hr
        rw [readNat_number hw h, hread rest hr]
        rfl
    · refine ⟨none,?_⟩
      intro ws rest hw hr
      rw [readNat_number hw h, hread rest hr]
      rfl
  | text h =>
    obtain ⟨h⟩ := h
    exact ⟨none,makes_readNat_none (by decide) (by decide)⟩
  | list h | object h => cases h <;> exact ⟨none,makes_readNat_none (by decide) (by decide)⟩

theorem isNumber_natural {sign : Bytes} (hs : sign = [] ∨ sign = [0x2D]) (n : Nat) : IsNumber (sign ++ natural n) := by
  obtain ⟨hd,hz,_⟩ := digits_natural n
  have h := IsNumber.parts hs hd hz (.inl rfl) (.inl rfl)
  rwa [List.append_nil, List.append_nil] at h

theorem makes_readNat {n : Nat} (hn : n ≤ limit) (hl : limit < UInt64.size) :
    Makes (readNat limit expected) (natural n) (some n) := by
  apply makes_of_read_eq_ok
  intro ws rest hw hr
  have hle : (n : Int) ≤ limit := by omega
  have hnum : IsNumber (natural n) := isNumber_natural (.inl rfl) n
  rw [readNat_number hw hnum, readNumber_natural (by omega) hr.ends]
  simp [Except.bind, hle]

/-- A negative number and one beyond the limit are refused. -/
theorem makes_readNat_outside (sign : Bytes) {n : Nat} (h : sign = [0x2D] ∨ sign = [] ∧ limit < n) :
    Makes (readNat limit expected) (sign ++ natural n) none := by
  intro ws rest hw hr
  have hs : sign = [] ∨ sign = [0x2D] := h.symm.imp_left And.left
  rw [readNat_number hw (isNumber_natural hs n)]
  cases hread : readNumber (sign ++ natural n ++ rest) with
  | error e => rfl
  | ok x =>
    obtain ⟨_ | _,rest'⟩ := x
    case float => rfl
    case integer k =>
      have hk := integer_of_readNumber hs hr.ends hread
      have hout : ¬ (0 ≤ k ∧ k ≤ limit) := by
        rcases h with rfl | ⟨rfl,hlt⟩
        · have hneg : k < 0 := by simpa using hk
          omega
        · have hval : k = n := by
            rcases hk with hk | hk
            · exact hk.2.1
            · exact absurd rfl hk.1
          omega
      simp [Except.bind, hout, Except.toOption]

end

end BookTheme.Json
