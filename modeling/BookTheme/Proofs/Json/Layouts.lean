import BookTheme.Proofs.Json.Records
import Mathlib.Data.List.Nodup

/-! # Records as families of fields

Each member of a record reads the value of one field and leaves the other fields alone. Then it does not
matter in which order the members of an object come: what is read has in each field that is given what its
value makes, and in every other field what the start value has. This is what an object can come to, and it
comes to it whenever no field is given twice, all values can be read, and no name is out of place.
-/
namespace BookTheme.Json

/-- The fields of a record, with what its members read and set. -/
structure Layout {σ : Type} (r : Record σ) (ι : Type) where
  Value : ι → Type
  name : ι → String
  read (i : ι) : Reader (Value i)
  get (i : ι) : σ → Value i
  set (i : ι) : σ → Value i → σ
  all : List ι
  mem_all (i : ι) : i ∈ all
  members_eq : r.members = all.map fun i => ⟨name i,fun x s => do
    let (a,s) ← read i s
    return (set i x a,s)⟩
  name_inj {i j : ι} : name i = name j → i = j
  get_set_self (i : ι) (x : σ) (a : Value i) : get i (set i x a) = a
  get_set_of_ne {i j : ι} (h : i ≠ j) (x : σ) (a : Value i) : get j (set i x a) = get j x
  regular (i : ι) : Regular (read i)

namespace Layout

variable {σ ι : Type} {r : Record σ} (L : Layout r ι)

theorem mem_members (member : Member σ) : member ∈ r.members ↔ ∃ i, member = ⟨L.name i,fun x s => do
    let (a,s) ← L.read i s
    return (L.set i x a,s)⟩ := by
  rw [L.members_eq, List.mem_map]
  constructor
  · rintro ⟨i,_,h⟩
    exact ⟨i,h.symm⟩
  · rintro ⟨i,h⟩
    exact ⟨i,L.mem_all i,h.symm⟩

/-- The name of a field as it stands in an object. -/
def key (i : ι) : Text := (L.name i).toList

theorem key_inj {i j : ι} (h : L.key i = L.key j) : i = j := L.name_inj (String.toList_inj.mp h)

/-- What the members come to, from the record `x` on. -/
structure Gives (ms : List (Text × Bytes)) (x y : σ) : Prop where
  once (i : ι) : (ms.map Prod.fst).count (L.key i) ≤ 1
  given : ∀ m ∈ ms, (∃ i, m.1 = L.key i ∧ alone (L.read i) m.2 = some (L.get i y)) ∨
    r.complete = true ∧ ∀ i, m.1 ≠ L.key i
  kept (i : ι) : L.key i ∉ ms.map Prod.fst → L.get i y = L.get i x

theorem toOption_set (i : ι) (x : σ) (s : Bytes) : (do
      let (a,s) ← L.read i s
      return (L.set i x a,s) : Except Error (σ × Bytes)).toOption =
    (L.read i s).toOption.map fun p => (L.set i x p.1,p.2) := by
  cases L.read i s <;> rfl

include L in
theorem regular_record : r.Regular := by
  intro member hm x
  obtain ⟨i,rfl⟩ := (L.mem_members member).mp hm
  apply regular_of_makes
  intro v hv
  refine ⟨(alone (L.read i) v).map (L.set i x),?_⟩
  intro ws rest hw hr
  simp only [toOption_set]
  rw [L.regular i v hv ws rest hw hr]
  cases alone (L.read i) v <;> rfl

theorem alone_set (i : ι) (x : σ) (v : Bytes) : alone (fun s => do
      let (a,s) ← L.read i s
      return (L.set i x a,s)) v = (alone (L.read i) v).map (L.set i x) := by
  simp only [alone, toOption_set]
  cases L.read i v <;> rfl

variable {ms : List (Text × Bytes)} {seen seen' : List String} {x y : σ} {v : Bytes}

theorem take_key (i : ι) : r.take (seen,x) (L.key i,v) =
    if L.name i ∈ seen then none else (alone (L.read i) v).map fun a => (L.name i :: seen,L.set i x a) := by
  rw [Record.take]
  cases hf : r.members.find? (·.name.toList = L.key i) with
  | none =>
    have hnot := List.find?_eq_none.mp hf _ ((L.mem_members _).mpr ⟨i,rfl⟩)
    exact absurd (decide_eq_true rfl) hnot
  | some member =>
    obtain ⟨j,rfl⟩ := (L.mem_members member).mp (List.mem_of_find?_eq_some hf)
    have hname := List.find?_some hf
    have hname : L.key j = L.key i := of_decide_eq_true hname
    obtain rfl := L.key_inj hname
    simp only [alone_set, List.contains_eq_mem, decide_eq_true_eq, Option.map_map]
    rfl

theorem take_of_ne {n : Text} (h : ∀ i, n ≠ L.key i) :
    r.take (seen,x) (n,v) = if r.complete then some (seen,x) else none := by
  have hfind : r.members.find? (·.name.toList = n) = none := by
    rw [List.find?_eq_none]
    intro member hm
    obtain ⟨i,rfl⟩ := (L.mem_members member).mp hm
    simpa using fun he => h i he.symm
  rw [Record.take, hfind]

/-- What a step that succeeds has taken: a field that was not given before, or a name of no field. -/
theorem take_eq_some {n : Text} {state : List String × σ} (h : r.take (seen,x) (n,v) = some state) :
    (∃ i a, n = L.key i ∧ L.name i ∉ seen ∧ alone (L.read i) v = some a ∧
      state = (L.name i :: seen,L.set i x a)) ∨
    (∀ i, n ≠ L.key i) ∧ r.complete = true ∧ state = (seen,x) := by
  by_cases hn : ∃ i, n = L.key i
  · obtain ⟨i,rfl⟩ := hn
    rw [L.take_key] at h
    split at h
    · cases h
    · rename_i hnot
      obtain ⟨a,ha,rfl⟩ := Option.map_eq_some_iff.mp h
      exact .inl ⟨i,a,rfl,hnot,ha,rfl⟩
  · have hne : ∀ i, n ≠ L.key i := fun i he => hn ⟨i,he⟩
    rw [L.take_of_ne hne] at h
    split at h
    · rename_i hc
      cases h
      exact .inr ⟨hne,hc,rfl⟩
    · cases h

theorem Gives.field {L : Layout r ι} {i : ι} {a : L.Value i} (h : L.Gives ms (L.set i x a) y)
    (hi : L.key i ∉ ms.map Prod.fst) (ha : alone (L.read i) v = some a) : L.Gives ((L.key i,v) :: ms) x y := by
  have hvalue : L.get i y = a := (h.kept i hi).trans (L.get_set_self i x a)
  constructor
  · intro j
    rw [List.map_cons, List.count_cons]
    by_cases hj : i = j
    · subst hj
      rw [List.count_eq_zero_of_not_mem hi]
      split <;> omega
    · have hkey : ¬ L.key i = L.key j := fun he => hj (L.key_inj he)
      simpa [hkey] using h.once j
  · intro m hm
    rcases List.mem_cons.mp hm with rfl | hm
    · exact .inl ⟨i,rfl,by rw [ha, hvalue]⟩
    · exact h.given m hm
  · intro j hj
    rw [List.map_cons, List.mem_cons, not_or] at hj
    have hne : i ≠ j := by
      rintro rfl
      exact hj.1 rfl
    exact (h.kept j hj.2).trans (L.get_set_of_ne hne x a)

theorem Gives.other {L : Layout r ι} (h : L.Gives ms x y) {n : Text} (hn : ∀ i, n ≠ L.key i)
    (hc : r.complete = true) : L.Gives ((n,v) :: ms) x y := by
  constructor
  · intro j
    rw [List.map_cons, List.count_cons_of_ne (hn j)]
    exact h.once j
  · intro m hm
    rcases List.mem_cons.mp hm with rfl | hm
    · exact .inr ⟨hc,hn⟩
    · exact h.given m hm
  · intro j hj
    rw [List.map_cons, List.mem_cons, not_or] at hj
    exact h.kept j hj.2

theorem gives_of_foldlM (h : ms.foldlM r.take (seen,x) = some (seen',y)) :
    L.Gives ms x y ∧ (∀ i, L.name i ∈ seen → L.key i ∉ ms.map Prod.fst) ∧
      ∀ i, L.name i ∈ seen' ↔ L.name i ∈ seen ∨ L.key i ∈ ms.map Prod.fst := by
  induction ms generalizing seen x with
  | nil =>
    cases h
    exact ⟨⟨by simp,by simp,fun _ _ => rfl⟩,by simp,by simp⟩
  | cons m ms ih =>
    obtain ⟨n,v⟩ := m
    rw [List.foldlM_cons] at h
    obtain ⟨⟨seen₁,x₁⟩,hstep,hrest⟩ := Option.bind_eq_some_iff.mp h
    obtain ⟨hgives,hseen,hall⟩ := ih hrest
    rcases L.take_eq_some hstep with ⟨i,a,rfl,hnot,ha,hstate⟩ | ⟨hne,hc,hstate⟩
    · cases hstate
      refine ⟨hgives.field (hseen i List.mem_cons_self) ha,?_,?_⟩
      · intro j hj
        rw [List.map_cons, List.mem_cons, not_or]
        refine ⟨?_,hseen j (List.mem_cons_of_mem _ hj)⟩
        intro he
        obtain rfl := L.key_inj he
        exact hnot hj
      · intro j
        have hkey : L.name j = L.name i ↔ L.key j = L.key i := String.toList_inj.symm
        rw [hall, List.mem_cons, List.map_cons, List.mem_cons, hkey, or_assoc]
        exact or_left_comm
    · cases hstate
      refine ⟨hgives.other hne hc,?_,?_⟩
      · intro j hj
        rw [List.map_cons, List.mem_cons, not_or]
        exact ⟨fun he => hne j he.symm,hseen j hj⟩
      · intro j
        have hkey : L.key j ≠ n := fun he => hne j he.symm
        simp [hall, hkey]

theorem close_eq_some_iff : (r.close seen x).toOption = some y ↔
    x = y ∧ (r.complete = true → ∀ i, L.name i ∈ seen) := by
  have hmissing : (∀ name ∈ r.names, ¬ (r.complete && !seen.contains name) = true) ↔
      (r.complete = true → ∀ i, L.name i ∈ seen) := by
    have hnames : ∀ name, name ∈ r.names ↔ ∃ i, name = L.name i := by
      intro name
      rw [Record.names, List.mem_map]
      constructor
      · rintro ⟨member,hm,rfl⟩
        obtain ⟨i,rfl⟩ := (L.mem_members member).mp hm
        exact ⟨i,rfl⟩
      · rintro ⟨i,rfl⟩
        exact ⟨_,(L.mem_members _).mpr ⟨i,rfl⟩,rfl⟩
    simp only [hnames, forall_exists_index, Bool.and_eq_true, Bool.not_eq_true', List.contains_eq_mem,
      decide_eq_false_iff_not, not_and, Decidable.not_not]
    exact ⟨fun h hc i => h _ i rfl hc,fun h _ i hi hc => hi ▸ h hc i⟩
  rw [← hmissing, ← List.find?_eq_none, Record.close]
  cases r.names.find? fun name => r.complete && !seen.contains name with
  | none => simp
  | some name => simp

/-- What a record can come to from an object. -/
theorem gives_of_takeAll (h : r.takeAll ms = some y) :
    L.Gives ms r.start y ∧ (r.complete = true → ∀ i, L.key i ∈ ms.map Prod.fst) := by
  obtain ⟨⟨seen,y'⟩,hfold,hclose⟩ := Option.bind_eq_some_iff.mp h
  obtain ⟨hgives,_,hall⟩ := L.gives_of_foldlM hfold
  obtain ⟨rfl,hseen⟩ := L.close_eq_some_iff.mp hclose
  refine ⟨hgives,?_⟩
  intro hc i
  simpa using (hall i).mp (hseen hc i)

theorem exists_foldlM (hseen : ∀ i, L.name i ∈ seen → L.key i ∉ ms.map Prod.fst)
    (honce : ∀ i, (ms.map Prod.fst).count (L.key i) ≤ 1)
    (hread : ∀ m ∈ ms, (∃ i a, m.1 = L.key i ∧ alone (L.read i) m.2 = some a) ∨
      r.complete = true ∧ ∀ i, m.1 ≠ L.key i) : ∃ state, ms.foldlM r.take (seen,x) = some state := by
  induction ms generalizing seen x with
  | nil => exact ⟨_,rfl⟩
  | cons m ms ih =>
    obtain ⟨n,v⟩ := m
    have hmore := fun m hm => hread m (List.mem_cons_of_mem _ hm)
    have hfew : ∀ j, (ms.map Prod.fst).count (L.key j) ≤ 1 :=
      fun j => Nat.le_trans List.count_le_count_cons (honce j)
    rw [List.foldlM_cons]
    rcases hread (n,v) List.mem_cons_self with ⟨i,a,hn,ha⟩ | ⟨hc,hne⟩
    · obtain rfl : n = L.key i := hn
      have hnot : L.key i ∉ ms.map Prod.fst := by
        have h := honce i
        rw [List.map_cons, List.count_cons_self] at h
        exact List.count_eq_zero.mp (by omega)
      have hnew : L.name i ∉ seen := fun hi => hseen i hi (by simp)
      rw [L.take_key, if_neg hnew, ha]
      apply ih _ hfew hmore
      intro j hj
      rcases List.mem_cons.mp hj with hj | hj
      · rw [L.name_inj hj]
        exact hnot
      · exact fun hm => hseen j hj (List.mem_cons_of_mem _ hm)
    · rw [L.take_of_ne hne, if_pos hc]
      apply ih _ hfew hmore
      exact fun j hj hm => hseen j hj (List.mem_cons_of_mem _ hm)

/-- The record comes to something if every member can be read or skipped, no field is given twice, and none is
missing that is needed. -/
theorem exists_takeAll (honce : ∀ i, (ms.map Prod.fst).count (L.key i) ≤ 1)
    (hread : ∀ m ∈ ms, (∃ i a, m.1 = L.key i ∧ alone (L.read i) m.2 = some a) ∨
      r.complete = true ∧ ∀ i, m.1 ≠ L.key i)
    (hall : r.complete = true → ∀ i, L.key i ∈ ms.map Prod.fst) : ∃ y, r.takeAll ms = some y := by
  obtain ⟨⟨seen,y⟩,hfold⟩ : ∃ state, ms.foldlM r.take ([],r.start) = some state :=
    L.exists_foldlM (by simp) honce hread
  obtain ⟨_,_,hseen⟩ := L.gives_of_foldlM hfold
  refine ⟨y,?_⟩
  rw [Record.takeAll, hfold]
  apply L.close_eq_some_iff.mpr
  refine ⟨rfl,?_⟩
  intro hc i
  exact (hseen i).mpr (.inr (hall hc i))

include L in
theorem alone_object (h : ObjectOf ms v) (hms : ∀ m ∈ ms, IsValue m.2) : alone r.read v = r.takeAll ms :=
  (Record.makes_object L.regular_record h hms).alone_eq

/-- An object is read if each of its members can be read, or skipped, and none is repeated or missing. What is true
of all that a field may be given is true of the field then, and a field that is not given has its start value. -/
theorem exists_given {P : (i : ι) → L.Value i → Prop} (h : ObjectOf ms v)
    (honce : ∀ i, (ms.map Prod.fst).count (L.key i) ≤ 1)
    (hms : ∀ m ∈ ms, IsValue m.2 ∧ ((∃ i a, m.1 = L.key i ∧ alone (L.read i) m.2 = some a ∧ P i a) ∨
      r.complete = true ∧ ∀ i, m.1 ≠ L.key i))
    (hall : r.complete = true → ∀ i, L.key i ∈ ms.map Prod.fst) :
    IsValue v ∧ ∃ y, alone r.read v = some y ∧ (∀ i, L.key i ∈ ms.map Prod.fst → P i (L.get i y)) ∧
      ∀ i, L.key i ∉ ms.map Prod.fst → L.get i y = L.get i r.start := by
  have hvalues : ∀ m ∈ ms, IsValue m.2 := fun m hm => (hms m hm).1
  have hread : ∀ m ∈ ms, (∃ i a, m.1 = L.key i ∧ alone (L.read i) m.2 = some a) ∨
      r.complete = true ∧ ∀ i, m.1 ≠ L.key i := by
    intro m hm
    refine (hms m hm).2.imp_left ?_
    rintro ⟨i,a,hn,ha,_⟩
    exact ⟨i,a,hn,ha⟩
  obtain ⟨y,hy⟩ := L.exists_takeAll honce hread hall
  obtain ⟨hgives,_⟩ := L.gives_of_takeAll hy
  refine ⟨.object h hvalues,y,(L.alone_object h hvalues).trans hy,?_,hgives.kept⟩
  intro i hi
  obtain ⟨m,hm,hn⟩ := List.mem_map.mp hi
  rcases hgives.given m hm with ⟨j,hj,hvalue⟩ | ⟨_,hne⟩
  · obtain rfl := L.key_inj (hj.symm.trans hn)
    rcases (hms m hm).2 with ⟨l,a,hl,ha,hp⟩ | ⟨_,hne⟩
    · obtain rfl := L.key_inj (hl.symm.trans hn)
      rwa [Option.some.inj (ha.symm.trans hvalue)] at hp
    · exact absurd hn (hne j)
  · exact absurd hn (hne i)

/-- A name that is no field's, or a name that is given twice. -/
def Strays (ms : List (Text × Bytes)) : Prop := (∃ m ∈ ms, ∀ i, m.1 ≠ L.key i) ∨ ¬ (ms.map Prod.fst).Nodup

variable {L}

theorem Strays.refused (h : L.Strays ms) (hc : r.complete = false) (hv : ObjectOf ms v) (hms : ∀ m ∈ ms, IsValue m.2) :
    alone r.read v = none := by
  rw [L.alone_object hv hms, Option.eq_none_iff_forall_ne_some]
  intro y hy
  obtain ⟨hgives,_⟩ := L.gives_of_takeAll hy
  have hknown : ∀ m ∈ ms, ∃ i, m.1 = L.key i := by
    intro m hm
    rcases hgives.given m hm with ⟨i,hn,_⟩ | ⟨hcomplete,_⟩
    · exact ⟨i,hn⟩
    · rw [hc] at hcomplete
      cases hcomplete
  rcases h with ⟨m,hm,hne⟩ | hrepeated
  · obtain ⟨i,hn⟩ := hknown m hm
    exact hne i hn
  · apply hrepeated
    rw [List.nodup_iff_count_eq_one]
    intro n hn
    have hpos := List.count_pos_iff.mpr hn
    obtain ⟨m,hm,rfl⟩ := List.mem_map.mp hn
    obtain ⟨i,hi⟩ := hknown m hm
    have honce := hgives.once i
    rw [← hi] at honce
    omega

/-- An object is not read if the value of one of its fields is not. -/
theorem refused_of_mem {i : ι} {w : Bytes} (hm : (L.key i,w) ∈ ms) (hw : alone (L.read i) w = none)
    (hv : ObjectOf ms v) (hms : ∀ m ∈ ms, IsValue m.2) : alone r.read v = none := by
  rw [L.alone_object hv hms, Option.eq_none_iff_forall_ne_some]
  intro y hy
  obtain ⟨hgives,_⟩ := L.gives_of_takeAll hy
  rcases hgives.given _ hm with ⟨j,hn,ha⟩ | ⟨_,hne⟩
  · obtain rfl := L.key_inj hn
    rw [hw] at ha
    cases ha
  · exact hne i rfl

end Layout
end BookTheme.Json
