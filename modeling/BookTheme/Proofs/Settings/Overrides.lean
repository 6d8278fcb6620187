import BookTheme.Proofs.Rehearsal.Record
import BookTheme.Proofs.Settings.Fields
import BookTheme.Rehearsal
import BookTheme.Settings.Layers

/-! # Overrides are read back

A file that lists values for some of the settings, in any order and with any space, is loaded as those values
over the defaults. A name that is no setting's, a name that is given twice and a number that does not fit are
refused, wherever they stand.
-/
namespace BookTheme
open Json

abbrev Overrides := (k : Section) → (i : k.Field) → Option (k.layout.Value i)

namespace Section

/-- The ways to write the value of a setting. -/
def Form : (k : Section) → (i : k.Field) → k.layout.Value i → Bytes → Prop
  | source, _, s, v => Quoted s v
  | retry, .maxAttempts, n, v => v = natural (UInt32.toNat n)
  | retry, .delay, n, v => v = natural (UInt64.toNat n)
  | patch, _, s, v => Quoted s v

variable {k : Section} {o : (i : k.Field) → Option (k.layout.Value i)} {v : Bytes}

/-- An object that lists just these values of a section, in some order. -/
def Lists (k : Section) (o : (i : k.Field) → Option (k.layout.Value i)) (v : Bytes) : Prop :=
  ∃ ms, ObjectOf ms v ∧ (ms.map Prod.fst).Nodup ∧
    (∀ m ∈ ms, ∃ i a, m.1 = k.layout.key i ∧ o i = some a ∧ k.Form i a m.2) ∧
    ∀ i, (o i).isSome → k.layout.key i ∈ ms.map Prod.fst

theorem Form.read {i : k.Field} {a : k.layout.Value i} (h : k.Form i a v) :
    IsValue v ∧ alone (k.layout.read i) v = some a := by
  have hnatural : ∀ n, IsValue (natural n) := fun n => .number (isNumber_natural (.inl rfl) n)
  cases k with
  | source | patch => exact ⟨.text h,(makes_readText h).alone_eq⟩
  | retry =>
    cases i with
    | maxAttempts =>
      obtain rfl : v = natural (UInt32.toNat a) := h
      have hlt := UInt32.toNat_lt a
      have hle : UInt32.toNat a ≤ UInt32.size - 1 := Nat.le_sub_one_of_lt hlt
      have hmakes : Makes (readNat (UInt32.size - 1) "u32") _ _ := makes_readNat hle (by decide)
      exact ⟨hnatural _,(hmakes.mapped UInt32.ofNat).alone_eq.trans (congrArg some UInt32.ofNat_toNat)⟩
    | delay =>
      obtain rfl : v = natural (UInt64.toNat a) := h
      have hlt := UInt64.toNat_lt a
      have hle : UInt64.toNat a ≤ UInt64.size - 1 := Nat.le_sub_one_of_lt hlt
      have hmakes : Makes (readNat (UInt64.size - 1) "u64") _ _ := makes_readNat hle (by decide)
      exact ⟨hnatural _,(hmakes.mapped UInt64.ofNat).alone_eq.trans (congrArg some UInt64.ofNat_toNat)⟩

theorem Lists.read (h : k.Lists o v) : IsValue v ∧ ∃ part, alone k.record.read v = some part ∧
    ∀ i, k.layout.get i part = (o i).getD (k.layout.get i k.record.start) := by
  obtain ⟨ms,hv,hnodup,hms,hall⟩ := h
  have hread : ∀ m ∈ ms, IsValue m.2 ∧
      ((∃ i a, m.1 = k.layout.key i ∧ alone (k.layout.read i) m.2 = some a ∧ o i = some a) ∨
        k.record.complete = true ∧ ∀ i, m.1 ≠ k.layout.key i) := by
    intro m hm
    obtain ⟨i,a,hn,ho,hf⟩ := hms m hm
    exact ⟨hf.read.1,.inl ⟨i,a,hn,hf.read.2,ho⟩⟩
  have honce := fun i => List.nodup_iff_count_le_one.mp hnodup (k.layout.key i)
  obtain ⟨hvalue,part,hpart,hgiven,hkept⟩ := k.layout.exists_given hv honce hread (by simp [k.complete_record])
  refine ⟨hvalue,part,hpart,?_⟩
  intro i
  by_cases hi : k.layout.key i ∈ ms.map Prod.fst
  · rw [hgiven i hi, Option.getD_some]
  · have hnone : o i = none := Option.not_isSome_iff_eq_none.mp fun hs => hi (hall i hs)
    rw [hnone, Option.getD_none]
    exact hkept i hi

end Section

/-- An object that lists just these values of the settings: each in its section, and the sections in some
order. Sections of which nothing is listed are empty or left out. -/
def Overrides.Lists (o : Overrides) (v : Bytes) : Prop :=
  ∃ ms, ObjectOf ms v ∧ (ms.map Prod.fst).Nodup ∧
    (∀ m ∈ ms, ∃ k : Section, m.1 = Settings.layout.key k ∧ k.Lists (o k) m.2) ∧
    ∀ k i, (o k i).isSome → Settings.layout.key k ∈ ms.map Prod.fst

theorem Overrides.Lists.read {o : Overrides} {v : Bytes} (h : o.Lists v) :
    IsValue v ∧ ∃ s, alone Settings.record.read v = some s ∧ ∀ (k : Section) i,
      k.layout.get i (k.part s) = (o k i).getD (k.layout.get i (k.part Default.settings)) := by
  obtain ⟨ms,hv,hnodup,hms,hall⟩ := h
  have hread : ∀ m ∈ ms, IsValue m.2 ∧
      ((∃ (k : Section) (part : k.Part), m.1 = Settings.layout.key k ∧ alone (Settings.layout.read k) m.2 = some part ∧
        ∀ i, k.layout.get i part = (o k i).getD (k.layout.get i (k.part Default.settings))) ∨
        Settings.record.complete = true ∧ ∀ k, m.1 ≠ Settings.layout.key k) := by
    intro m hm
    obtain ⟨k,hn,hk⟩ := hms m hm
    obtain ⟨hvalue,part,hpart,hget⟩ := hk.read
    rw [← k.part_start] at hget
    exact ⟨hvalue,.inl ⟨k,part,hn,hpart,hget⟩⟩
  have honce := fun k => List.nodup_iff_count_le_one.mp hnodup (Settings.layout.key k)
  obtain ⟨hvalue,s,hs,hgiven,hkept⟩ := Settings.layout.exists_given hv honce hread fun hc => absurd hc (by decide)
  refine ⟨hvalue,s,hs,?_⟩
  intro k i
  by_cases hk : Settings.layout.key k ∈ ms.map Prod.fst
  · exact hgiven k hk i
  · have hnone : o k i = none := Option.not_isSome_iff_eq_none.mp fun hi => hk (hall k i hi)
    rw [hnone, Option.getD_none]
    exact congrArg (k.layout.get i) (hkept k hk)

/-- An integer that is negative or beyond the range of its field. -/
inductive Retry.Misfit : RetryField → Bytes → Prop
  | negative {f : RetryField} (n : Nat) : Misfit f (0x2D :: natural n)
  | attempts {n : Nat} (h : UInt32.size ≤ n) : Misfit .maxAttempts (natural n)
  | delay {n : Nat} (h : UInt64.size ≤ n) : Misfit .delay (natural n)

theorem Retry.Misfit.refused {f : RetryField} {v : Bytes} (h : Retry.Misfit f v) :
    alone (Retry.layout.read f) v = none := by
  cases h with
  | negative n => cases f <;> exact ((makes_readNat_outside _ (.inl rfl)).mapped _).alone_eq
  | attempts h =>
    have hlt : UInt32.size - 1 < _ := Nat.lt_of_lt_of_le (by decide) h
    exact ((makes_readNat_outside [] (.inr ⟨rfl,hlt⟩)).mapped _).alone_eq
  | delay h =>
    have hlt : UInt64.size - 1 < _ := Nat.lt_of_lt_of_le (by decide) h
    exact ((makes_readNat_outside [] (.inr ⟨rfl,hlt⟩)).mapped _).alone_eq

/-- Members of which one has no place among the settings, or is there twice, or is a number that does not fit:
among the sections, or in one of them. -/
inductive Settings.Flawed (ms : List (Text × Bytes)) : Prop
  | stray (h : Settings.layout.Strays ms)
  | strayWithin {k : Section} {v : Bytes} {inner : List (Text × Bytes)} (hm : (Settings.layout.key k,v) ∈ ms)
      (hv : ObjectOf inner v) (hi : ∀ m ∈ inner, IsValue m.2) (h : k.layout.Strays inner)
  | misfit {f : RetryField} {v w : Bytes} {inner : List (Text × Bytes)}
      (hm : (Settings.layout.key .retry,v) ∈ ms) (hv : ObjectOf inner v) (hi : ∀ m ∈ inner, IsValue m.2)
      (hf : (Retry.layout.key f,w) ∈ inner) (h : Retry.Misfit f w)

theorem Settings.Flawed.refused {ms : List (Text × Bytes)} {v : Bytes} (h : Settings.Flawed ms) (hv : ObjectOf ms v)
    (hms : ∀ m ∈ ms, IsValue m.2) : alone Settings.record.read v = none := by
  cases h with
  | stray h => exact h.refused rfl hv hms
  | @strayWithin k w inner hm hw hi h =>
    exact Layout.refused_of_mem (L := Settings.layout) hm (h.refused k.complete_record hw hi) hv hms
  | misfit hm hw hi hf h =>
    have hpart : alone Retry.record.read _ = none := Layout.refused_of_mem hf h.refused hw hi
    exact Layout.refused_of_mem (L := Settings.layout) hm hpart hv hms

namespace Settings

theorem run_load {r : Rehearsal} {path : Text} {bytes : Bytes} (h : r.tree.read? path = .ok bytes) :
    ((load Rehearsal.disk path).run r).1 =
      match parse bytes with
      | .ok s => .ok s
      | .error e => .error (.malformed path e) := by
  unfold load
  rw [Rehearsal.run_bind, Rehearsal.run_read, h]
  simp only
  cases parse bytes <;> rfl

/-- A file that lists overrides is loaded as the settings that have them, and the defaults elsewhere. A file
that holds an object with a flaw is refused. -/
theorem load_overrides (r : Rehearsal) (path : Text) {ws v ws' : Bytes} (hw : Space ws) (hw' : Space ws')
    (h : r.tree.read? path = .ok (ws ++ (v ++ ws'))) :
    (∀ o : Overrides, o.Lists v → ∃ s, ((load Rehearsal.disk path).run r).1 = .ok s ∧
      ∀ (k : Section) i, k.layout.get i (k.part s) = (o k i).getD (k.layout.get i (k.part Default.settings))) ∧
    ∀ ms, ObjectOf ms v → (∀ m ∈ ms, IsValue m.2) → Flawed ms →
      ∃ e, ((load Rehearsal.disk path).run r).1 = .error (.malformed path e) := by
  have hparse : IsValue v → (parse (ws ++ (v ++ ws'))).toOption = alone record.read v :=
    fun hv => Record.toOption_parse layout.regular_record hv hw hw'
  rw [run_load h]
  constructor
  · intro o ho
    obtain ⟨hv,s,hs,hvalues⟩ := ho.read
    rw [toOption_eq_some_iff.mp ((hparse hv).trans hs)]
    exact ⟨s,rfl,hvalues⟩
  · intro ms hv hms hf
    obtain ⟨e,he⟩ := toOption_eq_none_iff.mp ((hparse (.object hv hms)).trans (hf.refused hv hms))
    rw [he]
    exact ⟨e,rfl⟩

/-! ## Sections in any place -/

def holding (bytes : Bytes) : Rehearsal := Rehearsal.of ⟨[(["own".toList],.file bytes)],[]⟩ fun _ _ => .noReply []

def escapedOwner : Bytes :=
  0x22 :: 0x6D :: 0x5C :: 0x75 :: 0x30 :: 0x30 :: 0x65 :: 0x39 :: 0x5C :: 0x6E :: [0x22]

theorem quoted_escapedOwner : Quoted "mé\n".toList escapedOwner := by
  have hdigits : Hex 'é'.toNat [0x30,0x30,0x65,0x39] :=
    .digits (p := 0) (q := 0) (r := 14) (s := 9) (.inl (by decide)) (.inl (by decide)) (.inr (by decide))
      (.inl (by decide))
  exact .quoted (.cons (.plain (c := 'm') (by decide) (by decide) (by decide))
    (.cons (.number hdigits) (.cons (.short (show (0x6E,'\n') ∈ shortEscapes by decide)) .nil)))

/-- The sections from the last to the first, the first of them empty but for a blank. -/
def scatteredFile (retry source : List (Text × Bytes)) : List (Text × Bytes) :=
  [("patch".toList,[0x7B,0x20,0x7D]), ("retry".toList,plainObject retry), ("source".toList,plainObject source)]

theorem plain_scatteredFile (retry source : List (Text × Bytes)) : ∀ m ∈ scatteredFile retry source, Plain m.1 := by
  simp only [scatteredFile, List.forall_mem_cons]
  decide

def scatteredRetry (delay : Bytes) : List (Text × Bytes) :=
  [("delay_ms".toList,delay), ("max_attempts".toList,natural 4294967295)]

def scatteredSource : List (Text × Bytes) := [("owner".toList,escapedOwner)]

theorem plain_scatteredSource : ∀ m ∈ scatteredSource, Plain m.1 := by decide

def scattered : Overrides
  | .source, .owner => some "mé\n".toList
  | .retry, .maxAttempts => some (4294967295 : UInt32)
  | .retry, .delay => some (7 : UInt64)
  | _, _ => none

theorem isValue_escapedOwner : IsValue escapedOwner := .text quoted_escapedOwner

theorem isValue_natural (n : Nat) : IsValue (natural n) := .number (isNumber_natural (.inl rfl) n)

theorem objectOf_scatteredRetry (delay : Bytes) :
    ObjectOf (scatteredRetry delay) (plainObject (scatteredRetry delay)) :=
  objectOf_plain (by simp only [scatteredRetry, List.forall_mem_cons]; decide)

theorem lists_scatteredRetry : Section.retry.Lists (scattered .retry) (plainObject (scatteredRetry (natural 7))) := by
  refine ⟨_,objectOf_scatteredRetry _,by simp [scatteredRetry],?_,?_⟩
  · intro m hm
    simp only [scatteredRetry, List.mem_cons, List.not_mem_nil, or_false] at hm
    rcases hm with rfl | rfl
    · exact ⟨.delay,(7 : UInt64),rfl,rfl,rfl⟩
    · exact ⟨.maxAttempts,(4294967295 : UInt32),rfl,rfl,rfl⟩
  · intro i _
    cases i with
    | maxAttempts => exact List.mem_cons_of_mem _ List.mem_cons_self
    | delay => exact List.mem_cons_self

theorem lists_scatteredSource : Section.source.Lists (scattered .source) (plainObject scatteredSource) := by
  refine ⟨_,objectOf_plain plain_scatteredSource,by simp [scatteredSource],?_,?_⟩
  · intro m hm
    obtain rfl := List.mem_singleton.mp hm
    exact ⟨.owner,_,rfl,rfl,quoted_escapedOwner⟩
  · intro i hi
    cases i with
    | owner => exact List.mem_singleton_self _
    | _ => cases hi

theorem lists_scattered :
    scattered.Lists (plainObject (scatteredFile (scatteredRetry (natural 7)) scatteredSource)) := by
  have hblank : Space [0x20] := by simp [Space, Blank]
  have hpatch : Section.patch.Lists (scattered .patch) [0x7B,0x20,0x7D] := by
    refine ⟨[],.empty hblank,by simp,by simp,?_⟩
    intro i hi
    cases i with
    | _ => cases hi
  refine ⟨_,objectOf_plain (plain_scatteredFile _ _),by simp [scatteredFile],?_,?_⟩
  · intro m hm
    simp only [scatteredFile, List.mem_cons, List.not_mem_nil, or_false] at hm
    rcases hm with rfl | rfl | rfl
    · exact ⟨.patch,rfl,hpatch⟩
    · exact ⟨.retry,rfl,lists_scatteredRetry⟩
    · exact ⟨.source,rfl,lists_scatteredSource⟩
  · intro k _ _
    cases k with
    | _ => decide

theorem isValue_scatteredRetry (n : Nat) : ∀ m ∈ scatteredRetry (natural n), IsValue m.2 := by
  simp [scatteredRetry, isValue_natural]

theorem isValue_scatteredFile (n : Nat) {source : List (Text × Bytes)} (hp : ∀ m ∈ source, Plain m.1)
    (hv : ∀ m ∈ source, IsValue m.2) : ∀ m ∈ scatteredFile (scatteredRetry (natural n)) source, IsValue m.2 := by
  have hblank : Space [0x20] := by simp [Space, Blank]
  have hpatch : IsValue [0x7B,0x20,0x7D] := .object (.empty hblank) (by simp)
  simp only [scatteredFile, List.forall_mem_cons]
  exact ⟨hpatch,.object (objectOf_scatteredRetry _) (isValue_scatteredRetry n),.object (objectOf_plain hp) hv,by simp⟩

theorem isValue_scatteredSource : ∀ m ∈ scatteredSource, IsValue m.2 := by
  simp [scatteredSource, isValue_escapedOwner]

theorem flawed_of_delay (source : List (Text × Bytes)) :
    Flawed (scatteredFile (scatteredRetry (natural 18446744073709551616)) source) :=
  .misfit (f := .delay) (List.mem_cons_of_mem _ List.mem_cons_self) (objectOf_scatteredRetry _)
    (isValue_scatteredRetry _) List.mem_cons_self (.delay (Nat.le_refl _))

/-- The owner, and a member that has no place in the section. -/
def hostedSource : List (Text × Bytes) := [("owner".toList,escapedOwner), ("host".toList,natural 7)]

theorem plain_hostedSource : ∀ m ∈ hostedSource, Plain m.1 := by
  simp only [hostedSource, List.forall_mem_cons]
  decide

theorem isValue_hostedSource : ∀ m ∈ hostedSource, IsValue m.2 := by
  simp [hostedSource, isValue_escapedOwner, isValue_natural]

theorem flawed_of_hostedSource (retry : List (Text × Bytes)) : Flawed (scatteredFile retry hostedSource) := by
  have hhost : ("host".toList,natural 7) ∈ hostedSource := List.mem_cons_of_mem _ List.mem_cons_self
  refine .strayWithin (k := .source) (List.mem_cons_of_mem _ (List.mem_cons_of_mem _ List.mem_cons_self))
    (objectOf_plain plain_hostedSource) isValue_hostedSource (.inl ⟨_,hhost,?_⟩)
  intro i
  cases i with
  | _ => decide

/-- The sections are read from any place, what they do not list is as before, and the escaped characters are meant. A
number that is too large by one, a name that is no setting's, and a section that comes again are refused. -/
theorem load_scatteredFile :
    (∃ s, ((load Rehearsal.disk "own".toList).run
        (holding ([0x0A] ++ (plainObject (scatteredFile (scatteredRetry (natural 7)) scatteredSource) ++ [0x20])))).1 =
          .ok s ∧
      s.retry = ⟨4294967295,7⟩ ∧ s.source.owner = "mé\n".toList ∧ s.source.repo = Default.source.repo ∧
      s.insertions.tocEnd = Default.insertions.tocEnd) ∧
    ∀ ms ∈ [scatteredFile (scatteredRetry (natural 18446744073709551616)) scatteredSource,
        scatteredFile (scatteredRetry (natural 7)) hostedSource,
        ("source".toList,plainObject []) :: scatteredFile (scatteredRetry (natural 7)) scatteredSource],
      ∃ e, ((load Rehearsal.disk "own".toList).run (holding ([0x0A] ++ (plainObject ms ++ [0x20])))).1 =
        .error (.malformed "own".toList e) := by
  have hline : Space [0x0A] := by simp [Space, Blank]
  have hblank : Space [0x20] := by simp [Space, Blank]
  have hread : ∀ bytes, (holding bytes).tree.read? "own".toList = .ok bytes := fun _ => rfl
  constructor
  · obtain ⟨s,hs,hvalues⟩ := (load_overrides _ _ hline hblank (hread _)).1 scattered lists_scattered
    refine ⟨s,hs,?_,hvalues .source .owner,hvalues .source .repo,hvalues .patch .tocEnd⟩
    exact Retry.mk.injEq .. ▸ ⟨hvalues .retry .maxAttempts,hvalues .retry .delay⟩
  · have hrefused : ∀ ms, (∀ m ∈ ms, Plain m.1) → (∀ m ∈ ms, IsValue m.2) → Flawed ms →
        ∃ e, ((load Rehearsal.disk "own".toList).run (holding ([0x0A] ++ (plainObject ms ++ [0x20])))).1 =
          .error (.malformed "own".toList e) :=
      fun ms hp hv hf => (load_overrides _ _ hline hblank (hread _)).2 ms (objectOf_plain hp) hv hf
    simp only [List.forall_mem_cons]
    refine ⟨hrefused _ (plain_scatteredFile _ _)
        (isValue_scatteredFile _ plain_scatteredSource isValue_scatteredSource) (flawed_of_delay _),
      hrefused _ (plain_scatteredFile _ _) (isValue_scatteredFile _ plain_hostedSource isValue_hostedSource)
        (flawed_of_hostedSource _),hrefused _ ?_ ?_ (.stray (.inr (by decide))),by simp⟩
    · exact List.forall_mem_cons.mpr ⟨by decide,plain_scatteredFile _ _⟩
    · exact List.forall_mem_cons.mpr ⟨.object (objectOf_plain (by simp)) (by simp),
        isValue_scatteredFile _ plain_scatteredSource isValue_scatteredSource⟩

end Settings
end BookTheme
