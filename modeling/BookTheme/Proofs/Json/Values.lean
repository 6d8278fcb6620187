import BookTheme.Json.Value
import BookTheme.Proofs.Json.Numbers
import BookTheme.Proofs.Json.Texts

/-! # Values are read over

Space in front of a value is not looked at, and what comes behind it is not touched: `skipValue` leaves just
what follows, however deep the value is. For lists and objects this is an induction over their parts, each of
which takes one from the fuel and has at least one byte for it.
-/
namespace BookTheme.Json

theorem isSpace_iff {b : UInt8} : isSpace b = true ↔ Blank b := by
  simp [isSpace, Blank, or_assoc]

variable {ws v bytes rest : Bytes} {fuel : Nat}

theorem dropSpace_append (hw : Space ws) (s : Bytes) : dropSpace (ws ++ s) = dropSpace s :=
  List.dropWhile_append_of_pos fun b hb => isSpace_iff.mpr (hw b hb)

theorem dropSpace_cons {b : UInt8} (hb : ¬ Blank b) (s : Bytes) : dropSpace (b :: s) = b :: s :=
  List.dropWhile_cons_of_neg fun h => hb (isSpace_iff.mp h)

theorem dropSpace_dropSpace (s : Bytes) : dropSpace (dropSpace s) = dropSpace s := by
  induction s with
  | nil => rfl
  | cons b s ih =>
    by_cases hb : isSpace b = true
    · have hd : dropSpace (b :: s) = dropSpace s := List.dropWhile_cons_of_pos hb
      rw [hd, ih]
    · have hd : dropSpace (b :: s) = b :: s := List.dropWhile_cons_of_neg hb
      rw [hd, hd]

theorem stops_nil : Stops [] := by
  intro b hb
  cases hb

theorem stops_cons {b : UInt8} (h : b = 0x2C ∨ b = 0x5D ∨ b = 0x7D) (s : Bytes) : Stops (b :: s) := by
  intro c hc
  cases hc
  exact .inr h

theorem Space.stops (hw : Space ws) (h : Stops rest) : Stops (ws ++ rest) := by
  cases ws with
  | nil => exact h
  | cons b ws =>
    intro c hc
    cases hc
    exact .inl (hw b List.mem_cons_self)

/-- A byte that no space begins with and nothing that closes a list or an object. -/
def Opens (b : UInt8) : Prop := ¬ Blank b ∧ b ≠ 0x5D ∧ b ≠ 0x7D

instance : DecidablePred Opens := fun _ => inferInstanceAs (Decidable (_ ∧ _))

theorem opens_of_startsNumber {b : UInt8} (h : startsNumber b = true) : Opens b := by
  refine ⟨?_,?_,?_⟩
  · rintro (rfl | rfl | rfl | rfl) <;> exact absurd h (by decide)
  · rintro rfl
    exact absurd h (by decide)
  · rintro rfl
    exact absurd h (by decide)

theorem IsNumber.first (h : IsNumber v) : ∃ b s, v = b :: s ∧ startsNumber b = true := by
  obtain ⟨rfl | rfl,hw,_,_,_⟩ := h
  · obtain ⟨b,more,he,hb⟩ := hw.head_ne _
    exact ⟨b,more,he,by simp [startsNumber, hb]⟩
  · exact ⟨0x2D,_,rfl,rfl⟩

theorem IsValue.first (h : IsValue v) : ∃ b s, v = b :: s ∧ Opens b := by
  cases h with
  | null | true | false => exact ⟨_,_,rfl,by decide⟩
  | number h =>
    obtain ⟨b,s,rfl,hb⟩ := h.first
    exact ⟨b,s,rfl,opens_of_startsNumber hb⟩
  | text h =>
    obtain ⟨h⟩ := h
    exact ⟨_,_,rfl,by decide⟩
  | list h | object h => cases h <;> exact ⟨_,_,rfl,by decide⟩

theorem IsValue.dropSpace (h : IsValue v) (hw : Space ws) (rest : Bytes) :
    Json.dropSpace (ws ++ (v ++ rest)) = v ++ rest := by
  obtain ⟨b,s,rfl,hb⟩ := h.first
  rw [dropSpace_append hw]
  exact dropSpace_cons hb.1 _

theorem skipWith_dropSpace (s : Bytes) : skipWith fuel (dropSpace s) = skipWith fuel s := by
  cases fuel with
  | zero => rfl
  | succ fuel => rw [skipWith, skipWith, dropSpace_dropSpace]

theorem skipElements_dropSpace (s : Bytes) : skipElements fuel (dropSpace s) = skipElements fuel s := by
  cases fuel with
  | zero => rfl
  | succ fuel => rw [skipElements, skipElements, skipWith_dropSpace]

theorem skipMembers_dropSpace (s : Bytes) : skipMembers fuel (dropSpace s) = skipMembers fuel s := by
  cases fuel with
  | zero => rfl
  | succ fuel => rw [skipMembers, skipMembers, dropSpace_dropSpace]

/-- With enough fuel the value is read over. -/
def Skipped (v : Bytes) : Prop :=
  ∀ fuel ws rest, v.length ≤ fuel → Space ws → Stops rest → skipWith fuel (ws ++ (v ++ rest)) = .ok rest

theorem readWord_append (word rest : Bytes) : readWord word (word ++ rest) = .ok rest := by
  induction word with
  | nil => rfl
  | cons b word ih => rw [List.cons_append, readWord, if_pos rfl, ih]

theorem IsNumber.skip (h : IsNumber v) : Skipped v := by
  intro fuel ws rest hf hw hr
  obtain ⟨b,s,rfl,hb⟩ := h.first
  obtain ⟨p,hp⟩ := h.read
  have hopens := opens_of_startsNumber hb
  cases fuel with
  | zero => simp at hf
  | succ fuel =>
    have hread := hp .invalidNumber rest hr.ends
    rw [List.cons_append] at hread ⊢
    rw [skipWith, dropSpace_append hw, dropSpace_cons hopens.1]
    have hne : ∀ c ∈ [0x6E,0x74,0x66,0x22,0x5B,0x7B], b ≠ c := by
      rintro c hc rfl
      have hall : ∀ c ∈ [0x6E,0x74,0x66,0x22,0x5B,0x7B], startsNumber c = false := by simp [startsNumber, isDigit]
      rw [hall b hc] at hb
      cases hb
    simp only [List.forall_mem_cons, List.not_mem_nil, false_implies, implies_true, and_true] at hne
    simp [hne, hb, hread, Functor.map, Except.map]

theorem Quoted.skip {s : Text} (h : Quoted s v) : Skipped v := by
  intro fuel ws rest hf hw hr
  obtain ⟨h⟩ := h
  cases fuel with
  | zero => simp at hf
  | succ fuel =>
    rw [skipWith, dropSpace_append hw]
    simp [dropSpace, isSpace, h.skip]

theorem dropSpace_stop {b : UInt8} (hb : b = 0x2C ∨ b = 0x5D ∨ b = 0x7D ∨ b = 0x3A ∨ b = 0x22) (hw : Space ws)
    (rest : Bytes) : dropSpace (ws ++ b :: rest) = b :: rest := by
  rw [dropSpace_append hw]
  apply dropSpace_cons
  rcases hb with rfl | rfl | rfl | rfl | rfl <;> decide

theorem Elements.skip {vs : List Bytes} (h : Elements vs bytes) (hvs : ∀ v ∈ vs, Skipped v) :
    ∀ fuel, bytes.length < fuel → ∀ rest, skipElements fuel (bytes ++ 0x5D :: rest) = .ok rest := by
  induction h with
  | @last u v w hu hw =>
    intro fuel hf rest
    obtain ⟨fuel,rfl⟩ : ∃ n, fuel = n + 1 := ⟨fuel - 1,by omega⟩
    simp only [List.length_append] at hf
    have hv := hvs v List.mem_cons_self fuel u (w ++ 0x5D :: rest) (by omega) hu
      (hw.stops (stops_cons (by simp) _))
    simp only [List.append_assoc]
    rw [skipElements, hv]
    simp only [bind, Except.bind]
    rw [dropSpace_stop (by simp) hw]
    rfl
  | @more u v w bytes vs hu hw h ih =>
    intro fuel hf rest
    obtain ⟨fuel,rfl⟩ : ∃ n, fuel = n + 1 := ⟨fuel - 1,by omega⟩
    simp only [List.length_append, List.length_cons] at hf
    have hv := hvs v List.mem_cons_self fuel u (w ++ 0x2C :: (bytes ++ 0x5D :: rest)) (by omega) hu
      (hw.stops (stops_cons (by simp) _))
    simp only [List.append_assoc, List.cons_append]
    rw [skipElements, hv]
    simp only [bind, Except.bind]
    rw [dropSpace_stop (by simp) hw]
    exact ih (fun v hv => hvs v (List.mem_cons_of_mem _ hv)) fuel (by omega) rest

theorem Entry.skip {name : Text} (h : Entry name v bytes) (hv : Skipped v) {fuel : Nat} (hf : bytes.length ≤ fuel)
    (rest : Bytes) : skipMembers (fuel + 1) (bytes ++ 0x7D :: rest) = .ok rest ∧
      skipMembers (fuel + 1) (bytes ++ 0x2C :: rest) = skipMembers fuel rest := by
  obtain @⟨t,u,w,x,key,ht,⟨hk⟩,hu,hw,hx⟩ := h
  simp only [List.length_append, List.length_cons] at hf
  have hval : ∀ b, b = 0x2C ∨ b = 0x5D ∨ b = 0x7D →
      skipWith fuel (w ++ (v ++ (x ++ b :: rest))) = .ok (x ++ b :: rest) :=
    fun b hb => hv fuel w _ (by omega) hw (hx.stops (stops_cons hb rest))
  have hcolon := dropSpace_stop (b := 0x3A) (by simp) hu
  simp only [List.append_assoc, List.cons_append, List.nil_append]
  rw [skipMembers, skipMembers, dropSpace_stop (by simp) ht, dropSpace_stop (by simp) ht]
  simp [hk.skip, bind, Except.bind, hcolon, hval, dropSpace_stop, hx]

theorem Entries.skip {ms : List (Text × Bytes)} (h : Entries ms bytes) (hms : ∀ m ∈ ms, Skipped m.2) :
    ∀ fuel, bytes.length < fuel → ∀ rest, skipMembers fuel (bytes ++ 0x7D :: rest) = .ok rest := by
  induction h with
  | @last name v bytes h =>
    intro fuel hf rest
    obtain ⟨fuel,rfl⟩ : ∃ n, fuel = n + 1 := ⟨fuel - 1,by omega⟩
    exact (h.skip (hms _ List.mem_cons_self) (by omega) rest).1
  | @more name v b bytes ms h hs ih =>
    intro fuel hf rest
    obtain ⟨fuel,rfl⟩ : ∃ n, fuel = n + 1 := ⟨fuel - 1,by omega⟩
    simp only [List.length_append, List.length_cons] at hf
    rw [List.append_assoc, List.cons_append, (h.skip (hms _ List.mem_cons_self) (by omega) _).2]
    exact ih (fun m hm => hms m (List.mem_cons_of_mem _ hm)) fuel (by omega) rest

theorem Elements.first {vs : List Bytes} (h : Elements vs bytes) (hvs : ∀ v ∈ vs, IsValue v) (rest : Bytes) :
    ∃ b s, dropSpace (bytes ++ rest) = b :: s ∧ Opens b := by
  cases h with
  | last hu hw | more hu hw =>
    have hv := hvs _ List.mem_cons_self
    obtain ⟨b,s,hb,ho⟩ := hv.first
    simp only [List.append_assoc]
    rw [hv.dropSpace hu, hb]
    exact ⟨b,_,rfl,ho⟩

theorem Entries.first {ms : List (Text × Bytes)} (h : Entries ms bytes) (rest : Bytes) :
    ∃ s, dropSpace (bytes ++ rest) = 0x22 :: s := by
  cases h with
  | last h | more h =>
    obtain ⟨ht,⟨hk⟩,_,_,_⟩ := h
    simp only [List.append_assoc, List.cons_append]
    exact ⟨_,dropSpace_stop (by simp) ht _⟩

/-- A value is read over, and what follows it is left. -/
theorem IsValue.skip (h : IsValue v) : Skipped v := by
  induction h with
  | null | true | false =>
    intro fuel ws rest hf hw hr
    obtain ⟨fuel,rfl⟩ : ∃ n, fuel = n + 1 := ⟨fuel - 1,by simp at hf; omega⟩
    rw [skipWith, dropSpace_append hw]
    exact readWord_append _ rest
  | number h => exact h.skip
  | text h => exact h.skip
  | list h hvs ih =>
    intro fuel ws rest hf hw hr
    obtain ⟨fuel,rfl⟩ : ∃ n, fuel = n + 1 := ⟨fuel - 1,by cases h <;> simp at hf <;> omega⟩
    rw [skipWith, dropSpace_append hw]
    cases h with
    | @empty inner hi =>
      have hclose := dropSpace_stop (b := 0x5D) (by simp) hi rest
      simp [dropSpace_cons (b := 0x5B) (by decide), hclose]
    | @elements _ bytes h =>
      obtain ⟨b,s,hb,ho⟩ := h.first hvs (0x5D :: rest)
      have hskip := h.skip ih fuel (by simp at hf; omega) rest
      rw [← skipElements_dropSpace, hb] at hskip
      simp [dropSpace_cons (b := 0x5B) (by decide), hb, ho.2.1, hskip]
  | object h hms ih =>
    intro fuel ws rest hf hw hr
    obtain ⟨fuel,rfl⟩ : ∃ n, fuel = n + 1 := ⟨fuel - 1,by cases h <;> simp at hf <;> omega⟩
    rw [skipWith, dropSpace_append hw]
    cases h with
    | @empty inner hi =>
      have hclose := dropSpace_stop (b := 0x7D) (by simp) hi rest
      simp [dropSpace_cons (b := 0x7B) (by decide), hclose]
    | @entries _ bytes h =>
      obtain ⟨s,hs⟩ := h.first (0x7D :: rest)
      have hskip := h.skip ih fuel (by simp at hf; omega) rest
      rw [← skipMembers_dropSpace, hs] at hskip
      simp [dropSpace_cons (b := 0x7B) (by decide), hs, hskip]

theorem skipValue_append (h : IsValue v) (hw : Space ws) (hr : Stops rest) :
    skipValue (ws ++ (v ++ rest)) = .ok rest := by
  apply h.skip _ ws rest _ hw hr
  simp only [List.length_append]
  omega

end BookTheme.Json
