import BookTheme.Json.Record
import BookTheme.Proofs.Json.Readers

/-! # Records are read member by member

An object is read as its members come: each is looked up by its name, must not have been given before, and
changes the record by what its value makes alone. That leaves a fold over the members, in which neither space
nor bytes occur any more. A list is followed in the same way, so a record is regular if its members are.
-/
namespace BookTheme.Json

section
variable {ε α β : Type}

@[simp] theorem toOption_ok (a : α) : (Except.ok a : Except ε α).toOption = some a := rfl

@[simp] theorem toOption_error (e : ε) : (Except.error e : Except ε α).toOption = none := rfl

theorem toOption_eq_some_iff {x : Except ε α} {a : α} : x.toOption = some a ↔ x = .ok a := by
  cases x <;> simp

theorem toOption_eq_none_iff {x : Except ε α} : x.toOption = none ↔ ∃ e, x = .error e := by
  cases x <;> simp

theorem toOption_bind (x : Except ε α) (f : α → Except ε β) :
    (x >>= f).toOption = x.toOption.bind fun a => (f a).toOption := by
  cases x <;> rfl

theorem toOption_map (f : α → β) (x : Except ε α) : (f <$> x).toOption = x.toOption.map f := by
  cases x <;> rfl

end

namespace Record

variable {σ : Type} (r : Record σ)

/-- What becomes of the names that were given and of the record when another member comes. -/
def take (state : List String × σ) (m : Text × Bytes) : Option (List String × σ) :=
  match r.members.find? (·.name.toList = m.1) with
  | some member =>
    if state.1.contains member.name then none
    else (alone (member.read state.2) m.2).map fun x => (member.name :: state.1,x)
  | none => if r.complete then some state else none

/-- What becomes of a record when all these members are given. -/
def takeAll (ms : List (Text × Bytes)) : Option σ :=
  (ms.foldlM r.take ([],r.start)).bind fun state => (r.close state.1 state.2).toOption

/-- What becomes of a record when these are given for the members that are due. -/
def takeElements : σ → List (Member σ) → List Bytes → Option σ
  | x, [], [] => some x
  | _, [], _ :: _ => none
  | x, _ :: _, [] => if r.complete then none else some x
  | x, member :: due, v :: vs => (alone (member.read x) v).bind fun x => takeElements x due vs

def Regular : Prop := ∀ member ∈ r.members, ∀ x, Json.Regular (member.read x)

variable {r} {v bytes rest : Bytes} {ms : List (Text × Bytes)} {seen : List String} {x : σ}

theorem entry_read (hr : r.Regular) {name : Text} (h : Entry name v bytes) (hv : IsValue v) :
    ∃ s w, (∀ rest, dropSpace (bytes ++ rest) = 0x22 :: (s ++ rest)) ∧ Space w ∧
      ∀ seen x rest, Stops rest → (r.readMember seen x (s ++ rest)).toOption =
        (r.take (seen,x) (name,v)).map fun state => (state,w ++ rest) := by
  obtain @⟨t,u,w,y,key,ht,@⟨key,hk⟩,hu,hw,hy⟩ := h
  refine ⟨key ++ 0x22 :: (u ++ 0x3A :: (w ++ (v ++ y))),y,?_,hy,?_⟩
  · intro rest
    simp only [List.append_assoc, List.cons_append]
    exact dropSpace_stop (by simp) ht _
  · intro seen x rest hrest
    have hcolon : readColon (u ++ 0x3A :: (w ++ (v ++ (y ++ rest)))) = .ok (w ++ (v ++ (y ++ rest))) := by
      rw [readColon, dropSpace_stop (by simp) hu]
      rfl
    simp only [List.append_assoc, List.cons_append]
    rw [readMember, hk.readString, take, toOption_bind, toOption_ok, Option.bind_some]
    simp only
    cases hf : r.members.find? (·.name.toList = name) with
    | none =>
      simp only
      cases r.complete with
      | true =>
        rw [if_pos rfl, if_pos rfl, hcolon, toOption_bind, toOption_ok, Option.bind_some, toOption_bind,
          skipValue_append hv hw (hy.stops hrest)]
        rfl
      | false => rfl
    | some member =>
      simp only
      cases seen.contains member.name with
      | true => rfl
      | false =>
        have hread := hr member (List.mem_of_find?_eq_some hf) x v hv w (y ++ rest) hw (hy.stops hrest)
        rw [if_neg Bool.false_ne_true, if_neg Bool.false_ne_true, hcolon, toOption_bind, toOption_ok,
          Option.bind_some, toOption_bind, hread]
        cases alone (member.read x) v <;> rfl

theorem length_le_of_entries (h : Entries ms bytes) : ms.length ≤ bytes.length := by
  induction h with
  | last h =>
    obtain ⟨_,⟨_⟩,_,_,_⟩ := h
    simp only [List.length_append, List.length_cons, List.length_nil]
    omega
  | more _ _ ih =>
    simp only [List.length_append, List.length_cons]
    omega

/-- What is read of an object from its first member on. -/
theorem entries_read (hr : r.Regular) (h : Entries ms bytes) (hms : ∀ m ∈ ms, IsValue m.2) :
    ∃ s, (∀ rest, dropSpace (bytes ++ 0x7D :: rest) = 0x22 :: (s ++ 0x7D :: rest)) ∧ ms.length ≤ s.length + 1 ∧
      ∀ seen x fuel rest, ms.length ≤ fuel → (r.readMembers seen x fuel (s ++ 0x7D :: rest)).toOption =
        ((ms.foldlM r.take (seen,x)).bind fun state => (r.close state.1 state.2).toOption).map fun y => (y,rest) := by
  induction h with
  | @last name v bytes h =>
    obtain ⟨s,w,hs,hw,hread⟩ := entry_read hr h (hms _ List.mem_cons_self)
    refine ⟨s,fun rest => hs _,by simp,?_⟩
    intro seen x fuel rest hf
    obtain ⟨fuel,rfl⟩ : ∃ n, fuel = n + 1 := ⟨fuel - 1,by simp at hf; omega⟩
    rw [readMembers, toOption_bind, hread seen x _ (stops_cons (by simp) _), List.foldlM_cons]
    cases r.take (seen,x) (name,v) with
    | none => rfl
    | some state =>
      simp only [Option.map_some, Option.bind_some]
      rw [dropSpace_stop (by simp) hw]
      simp only [toOption_map]
      rfl
  | @more name v b bytes ms h hs ih =>
    obtain ⟨s,w,hb,hw,hread⟩ := entry_read hr h (hms _ List.mem_cons_self)
    obtain ⟨t,ht,hlen,hmore⟩ := ih fun m hm => hms m (List.mem_cons_of_mem _ hm)
    have hle := length_le_of_entries hs
    refine ⟨s ++ 0x2C :: bytes,?_,?_,?_⟩
    · intro rest
      simp only [List.append_assoc, List.cons_append]
      exact hb _
    · simp only [List.length_append, List.length_cons]
      omega
    · intro seen x fuel rest hf
      obtain ⟨fuel,rfl⟩ : ∃ n, fuel = n + 1 := ⟨fuel - 1,by simp at hf; omega⟩
      simp only [List.append_assoc, List.cons_append]
      rw [readMembers, toOption_bind, hread seen x _ (stops_cons (by simp) _), List.foldlM_cons]
      cases r.take (seen,x) (name,v) with
      | none => rfl
      | some state =>
        simp only [Option.map_some, Option.bind_some]
        rw [dropSpace_stop (by simp) hw]
        simp only [ht]
        exact hmore state.1 state.2 fuel rest (by simpa using hf)

theorem makes_object (hr : r.Regular) (h : ObjectOf ms v) (hms : ∀ m ∈ ms, IsValue m.2) :
    Makes r.read v (r.takeAll ms) := by
  intro ws rest hw _
  rw [read, dropSpace_append hw]
  cases h with
  | @empty inner hi =>
    simp only [List.cons_append, List.append_assoc, List.nil_append]
    rw [dropSpace_cons (by decide)]
    simp only [readObject]
    rw [dropSpace_stop (by simp) hi]
    simp only [toOption_map]
    rfl
  | @entries _ bytes h =>
    obtain ⟨s,hs,hlen,hread⟩ := entries_read hr h hms
    simp only [List.cons_append, List.append_assoc, List.nil_append]
    rw [dropSpace_cons (by decide)]
    simp only [readObject, hs]
    apply hread
    simp only [List.length_append, List.length_cons]
    omega

/-- What follows an element of a list, up to the end of the list. -/
inductive Tail : List Bytes → Bytes → Prop
  | done {w : Bytes} (hw : Space w) : Tail [] w
  | more {w bytes : Bytes} {vs : List Bytes} (hw : Space w) (h : Elements vs bytes) : Tail vs (w ++ 0x2C :: bytes)

theorem Tail.stops {vs : List Bytes} (h : Tail vs bytes) (rest : Bytes) : Stops (bytes ++ 0x5D :: rest) := by
  cases h with
  | done hw => exact hw.stops (stops_cons (by simp) _)
  | more hw =>
    rw [List.append_assoc, List.cons_append]
    exact hw.stops (stops_cons (by simp) _)

theorem exists_tail {vs : List Bytes} (h : Elements vs bytes) :
    ∃ u v t vs', vs = v :: vs' ∧ Space u ∧ bytes = u ++ (v ++ t) ∧ Tail vs' t := by
  cases h with
  | last hu hw => exact ⟨_,_,_,_,rfl,hu,rfl,.done hw⟩
  | more hu hw h => exact ⟨_,_,_,_,rfl,hu,rfl,.more hw h⟩

theorem nextElement?_done (first : Bool) {w : Bytes} (hw : Space w) (rest : Bytes) :
    nextElement? first (w ++ 0x5D :: rest) = .ok none := by
  rw [nextElement?, dropSpace_stop (by simp) hw]
  rfl

theorem nextElement?_more {w u : Bytes} (hw : Space w) (hu : Space u) (hv : IsValue v) (rest : Bytes) :
    nextElement? false (w ++ 0x2C :: (u ++ (v ++ rest))) = .ok (some (v ++ rest)) := by
  obtain ⟨b,s,he,hb⟩ := hv.first
  have hd := hv.dropSpace hu rest
  rw [he, List.cons_append] at hd ⊢
  rw [nextElement?, dropSpace_stop (by simp) hw]
  simp [hd, hb.2.1]

theorem readElements_done (x : σ) (count : Nat) (due : List (Member σ)) {w : Bytes} (hw : Space w) (rest : Bytes) :
    (r.readElements count x due (w ++ 0x5D :: rest)).toOption = (r.takeElements x due []).map fun y => (y,rest) := by
  have hclose : closeList (w ++ 0x5D :: rest) = .ok rest := by
    rw [closeList, dropSpace_stop (by simp) hw]
    rfl
  cases due with
  | nil =>
    rw [readElements, hclose]
    rfl
  | cons member due =>
    rw [readElements, toOption_bind, nextElement?_done _ hw, toOption_ok, Option.bind_some, takeElements]
    cases r.complete with
    | true => rfl
    | false =>
      simp only [Bool.false_eq_true, if_false]
      rw [hclose]
      rfl

theorem readElements_excess (x : σ) (count : Nat) {b : UInt8} {s t : Bytes} (hs : dropSpace s = b :: t)
    (hb : b ≠ 0x5D) : (r.readElements count x [] s).toOption = none := by
  rw [readElements, toOption_map, closeList, hs]
  split
  · rename_i heq
    exact absurd (List.cons.inj heq).1 hb
  · split <;> rfl
  · rfl
  · rfl

theorem tail_read {due : List (Member σ)} (hd : ∀ member ∈ due, ∀ x, Json.Regular (member.read x)) {vs : List Bytes}
    (h : Tail vs bytes) (hvs : ∀ v ∈ vs, IsValue v) (count : Nat) (x : σ) (rest : Bytes) :
    (r.readElements (count + 1) x due (bytes ++ 0x5D :: rest)).toOption =
      (r.takeElements x due vs).map fun y => (y,rest) := by
  induction due generalizing vs bytes count x with
  | nil =>
    cases h with
    | done hw => exact readElements_done x _ [] hw rest
    | @more w bytes _ hw h =>
      obtain ⟨u,v,t,vs,rfl,_,_,_⟩ := exists_tail h
      rw [List.append_assoc, List.cons_append]
      exact readElements_excess x _ (dropSpace_stop (by simp) hw _) (by decide)
  | cons member due ih =>
    cases h with
    | done hw => exact readElements_done x _ _ hw rest
    | @more w bytes _ hw h =>
      obtain ⟨u,v,t,vs,rfl,hu,rfl,ht⟩ := exists_tail h
      have hv := hvs v List.mem_cons_self
      have hread := hd member List.mem_cons_self x v hv [] (t ++ 0x5D :: rest) (by simp [Space]) (ht.stops rest)
      have hmore := ih (fun m hm => hd m (List.mem_cons_of_mem _ hm)) ht
        (fun v hv => hvs v (List.mem_cons_of_mem _ hv)) (count + 1)
      have hfirst : decide (count + 1 = 0) = false := by simp
      simp only [List.append_assoc, List.cons_append]
      rw [readElements, hfirst, nextElement?_more hw hu hv, toOption_bind, toOption_ok, Option.bind_some]
      simp only
      rw [toOption_bind, ← List.nil_append (v ++ _), hread, takeElements]
      cases alone (member.read x) v with
      | none => rfl
      | some y => exact hmore y

theorem nextElement?_first {u : Bytes} (hu : Space u) (hv : IsValue v) (rest : Bytes) :
    nextElement? true (u ++ (v ++ rest)) = .ok (some (v ++ rest)) := by
  obtain ⟨b,s,he,hb⟩ := hv.first
  rw [nextElement?, hv.dropSpace hu, he, List.cons_append]
  simp [hb.2.1]

theorem makes_list (hr : r.Regular) {vs : List Bytes} (h : ListOf vs v) (hvs : ∀ v ∈ vs, IsValue v) :
    Makes r.read v (r.takeElements r.start r.members vs) := by
  intro ws rest hw _
  rw [read, dropSpace_append hw]
  cases h with
  | @empty inner hi =>
    simp only [List.cons_append, List.append_assoc, List.nil_append]
    rw [dropSpace_cons (by decide)]
    exact readElements_done r.start 0 r.members hi rest
  | @elements _ bytes h =>
    obtain ⟨u,v,t,vs,rfl,hu,rfl,ht⟩ := exists_tail h
    have hv := hvs v List.mem_cons_self
    simp only [List.cons_append, List.append_assoc, List.nil_append]
    rw [dropSpace_cons (by decide)]
    simp only
    unfold Record.Regular at hr
    generalize r.members = due at hr
    cases due with
    | nil =>
      obtain ⟨b,s,hb,ho⟩ := h.first hvs (0x5D :: rest)
      simp only [List.append_assoc] at hb
      exact readElements_excess r.start 0 hb ho.2.1
    | cons member due =>
      have hread := hr member List.mem_cons_self r.start v hv [] (t ++ 0x5D :: rest) (by simp [Space]) (ht.stops rest)
      rw [readElements, decide_eq_true rfl, nextElement?_first hu hv, toOption_bind, toOption_ok, Option.bind_some]
      simp only
      rw [toOption_bind, ← List.nil_append (v ++ _), hread, takeElements]
      cases alone (member.read r.start) v with
      | none => rfl
      | some y =>
        exact tail_read (fun m hm => hr m (List.mem_cons_of_mem _ hm)) ht
          (fun v hv => hvs v (List.mem_cons_of_mem _ hv)) 0 y rest

theorem makes_read_none {b : UInt8} {s : Bytes} (hb : ¬ Blank b) (hl : b ≠ 0x5B) (ho : b ≠ 0x7B) :
    Makes r.read (b :: s) none := by
  intro ws rest hw _
  rw [read, dropSpace_append hw, List.cons_append, dropSpace_cons hb]
  simp [hl, ho]

theorem regular_read (hr : r.Regular) : Json.Regular r.read := by
  apply regular_of_makes
  intro v hv
  cases hv with
  | null | true | false => exact ⟨none,makes_read_none (by decide) (by decide) (by decide)⟩
  | number h =>
    obtain ⟨b,s,rfl,hb⟩ := h.first
    refine ⟨none,makes_read_none (opens_of_startsNumber hb).1 ?_ ?_⟩
    · rintro rfl
      cases hb
    · rintro rfl
      cases hb
  | text h =>
    obtain ⟨h⟩ := h
    exact ⟨none,makes_read_none (by decide) (by decide) (by decide)⟩
  | list h hvs => exact ⟨_,makes_list hr h hvs⟩
  | object h hms => exact ⟨_,makes_object hr h hms⟩

/-- A document is one value with nothing but space around it. -/
theorem toOption_parse (hr : r.Regular) (hv : IsValue v) {ws ws' : Bytes} (hw : Space ws) (hw' : Space ws') :
    (r.parse (ws ++ (v ++ ws'))).toOption = alone r.read v := by
  have hread := regular_read hr v hv ws ws' hw (List.append_nil ws' ▸ hw'.stops stops_nil)
  rw [parse, toOption_bind, hread]
  cases alone r.read v with
  | none => rfl
  | some y =>
    have hd := dropSpace_append hw' []
    rw [List.append_nil] at hd
    simp only [Option.map_some, Option.bind_some]
    rw [hd]
    rfl

end Record
end BookTheme.Json
