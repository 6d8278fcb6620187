import BookTheme.CommandLine.Parser
import BookTheme.Proofs.Decimal.Numerals
import Mathlib.Data.List.Nodup
import Mathlib.Data.List.TakeWhile

/-! # Options are read back

Options can be written as a command line in many ways: in any order, a value behind an equals sign or as an
argument of its own, the target anywhere among them or behind two dashes at the end. All that counts of a reader
between two of these parts is what it comes to when it settles the value that is pending. Read in any such way,
the options come back; and an option or a switch that is written twice is refused.
-/
namespace BookTheme.CommandLine

def Options.text? (o : Options) : Slot → Option Text
  | .target => o.target
  | .config => o.config
  | .apiBase => o.apiBase
  | .attempts => o.attempts.map fun n => Decimal.numeral n.toNat
  | .retryDelay => o.retryDelay.map fun n => Decimal.numeral n.toNat

/-- A value that does not look like an option: it begins with no dash, or is a dash alone. -/
def Loose (value : Text) : Prop := value.head? = some '-' → value = ['-']

instance (value : Text) : Decidable (Loose value) := inferInstanceAs (Decidable (_ → _))

def dashed (name : String) : Text := '-' :: '-' :: name.toList

def joined (name : String) (value : Text) : Text := '-' :: '-' :: (name.toList ++ '=' :: value)

inductive Slot.Called : Slot → String → Prop
  | config : Called .config "config"
  | apiBase : Called .apiBase "api-base"
  | attempts : Called .attempts "attempts"
  | retryDelay : Called .retryDelay "retry-delay-ms"

inductive Switch.Called : Switch → String → Prop
  | check : Called .check "check"
  | verbose : Called .verbose "verbose"

/-- The ways to write an item that is set. -/
inductive Given (o : Options) : Item → List Text → Prop
  | joined {name : String} {slot : Slot} {value : Text} (hn : slot.Called name)
      (hv : o.text? slot = some value) : Given o (.slot slot) [joined name value]
  | apart {name : String} {slot : Slot} {value : Text} (hn : slot.Called name)
      (hv : o.text? slot = some value) (hl : Loose value) : Given o (.slot slot) [dashed name,value]
  | switch {name : String} {switch : Switch} (hn : switch.Called name)
      (hs : o.has (.switch switch) = true) : Given o (.switch switch) [dashed name]
  | target {path : Text} (ht : o.target = some path) (hl : Loose path) : Given o (.slot .target) [path]

/-- What may end a command line: the target behind two dashes. -/
def Last (o : Options) (last : List (Item × List Text)) : Prop :=
  last = [] ∨ ∃ path, o.target = some path ∧ last = [(.slot .target,[['-', '-'], path])]

/-- The parts of a command line for the options, and what ends it: each item that is set is written once. -/
structure Written (o : Options) (parts last : List (Item × List Text)) : Prop where
  given : ∀ p ∈ parts, Given o p.1 p.2
  ends : Last o last
  once : ((parts ++ last).map Prod.fst).Nodup
  complete : ∀ item, o.has item = true → item ∈ (parts ++ last).map Prod.fst

/-! ## Names -/

theorem Slot.Called.mem {slot : Slot} {name : String} (h : slot.Called name) : (name,.slot slot) ∈ names := by
  cases h with
  | _ => decide

theorem Switch.Called.mem {switch : Switch} {name : String} (h : switch.Called name) :
    (name,.switch switch) ∈ names := by
  cases h with
  | _ => decide

theorem ofName?_of_mem {name : String} {item : Item} (h : (name,item) ∈ names) :
    Item.ofName? name.toList = some item := by
  have hall : ∀ entry ∈ names, Item.ofName? entry.1.toList = some entry.2 := by decide
  exact hall _ h

theorem ne_equals_of_mem {name : String} {item : Item} (h : (name,item) ∈ names) :
    ∀ c ∈ name.toList, decide (c ≠ '=') = true := by
  have hall : (names.all fun entry => entry.1.toList.all fun c => decide (c ≠ '=')) = true := by decide
  exact List.all_eq_true.mp (List.all_eq_true.mp hall _ h)

theorem ne_target_of_mem {name : String} {slot : Slot} (h : (name,.slot slot) ∈ names) : slot ≠ .target := by
  have hall : ∀ entry ∈ names, entry.2 ≠ .slot .target := by decide
  rintro rfl
  exact hall _ h rfl

theorem nameAndValue_name {name : String} {item : Item} (h : (name,item) ∈ names) :
    Reading.nameAndValue name.toList = (name.toList,none) := by
  have hne := ne_equals_of_mem h
  rw [Reading.nameAndValue, List.takeWhile_eq_self_iff.mpr hne, List.dropWhile_eq_nil_iff.mpr hne]

/-- A name ends at the first equals sign, whatever the value holds. -/
theorem nameAndValue_joined {name : String} {item : Item} (h : (name,item) ∈ names) (value : Text) :
    Reading.nameAndValue (name.toList ++ '=' :: value) = (name.toList,some value) := by
  have hne := ne_equals_of_mem h
  rw [Reading.nameAndValue, List.takeWhile_append_of_pos hne, List.dropWhile_append_of_pos hne]
  simp

/-! ## One argument -/

namespace Reading

variable {r : Reading} {o : Options} {name : String} {slot : Slot} {switch : Switch} {value path : Text}
  {rest : List Text}

theorem readAll_named {s : Text} (hs : s ≠ []) :
    r.readAll (('-' :: '-' :: s) :: rest) = (r.readNamed s).bind fun r => r.readAll rest := by
  cases s with
  | nil => exact absurd rfl hs
  | cons c s => rfl

theorem readAll_joined (hn : (name,.slot slot) ∈ names) :
    r.readAll (joined name value :: rest) =
      r.settle.bind fun o => (assign o slot value).bind fun o => readAll ⟨o,none⟩ rest := by
  rw [joined, readAll_named (by simp), readNamed, nameAndValue_joined hn]
  simp only [ofName?_of_mem hn]
  cases r.settle with
  | error e => rfl
  | ok o =>
    simp only [bind, Except.bind]
    cases assign o slot value <;> rfl

theorem toList_ne_nil {item : Item} (h : (name,item) ∈ names) : name.toList ≠ [] := by
  have hall : ∀ entry ∈ names, entry.1.toList ≠ [] := by decide
  exact hall _ h

theorem readAll_dashed_slot (hn : (name,.slot slot) ∈ names) :
    r.readAll (dashed name :: rest) = r.settle.bind fun o => readAll ⟨o,some (slot,none)⟩ rest := by
  rw [dashed, readAll_named (toList_ne_nil hn), readNamed, nameAndValue_name hn]
  simp only [ofName?_of_mem hn]
  cases r.settle <;> rfl

theorem readAll_dashed_switch (hn : (name,.switch switch) ∈ names) :
    r.readAll (dashed name :: rest) =
      r.settle.bind fun o => (turnOn o switch).bind fun o => readAll ⟨o,none⟩ rest := by
  rw [dashed, readAll_named (toList_ne_nil hn), readNamed, nameAndValue_name hn]
  simp only [ofName?_of_mem hn]
  cases r.settle with
  | error e => rfl
  | ok o =>
    simp only [bind, Except.bind]
    cases turnOn o switch <;> rfl

theorem readAll_loose (hl : Loose value) :
    r.readAll (value :: rest) = (r.readPlain value).bind fun r => r.readAll rest := by
  cases value with
  | nil => rfl
  | cons c s =>
    by_cases hc : c = '-'
    · subst hc
      rw [hl rfl]
      rfl
    · simp only [readAll, bind]
      split
      all_goals simp_all

theorem readAll_value (hl : Loose value) :
    readAll ⟨o,some (slot,none)⟩ (value :: rest) = readAll ⟨o,some (slot,some value)⟩ rest := readAll_loose hl

theorem readAll_target (hl : Loose path) (hp : ∀ slot, r.pending ≠ some (slot,none)) (ht : r.hasTarget = false) :
    r.readAll (path :: rest) = r.settle.bind fun o => readAll ⟨o,some (.target,some path)⟩ rest := by
  have hplain : r.readPlain path = r.readTarget path := by
    unfold readPlain
    split
    case h_1 slot h => exact absurd h (hp slot)
    case h_2 => rfl
  rw [readAll_loose hl, hplain, readTarget, ht, if_neg Bool.false_ne_true]
  cases r.settle <;> rfl

theorem readAll_dashes (ht : r.hasTarget = false) :
    r.readAll [['-', '-'],path] = r.settle.bind fun o => assign o .target path := by
  have hread : r.readAll [['-', '-'],path] = (r.readTarget path).bind settle := by
    simp only [readAll, List.foldlM_cons, List.foldlM_nil]
    cases r.readTarget path <;> rfl
  rw [hread, readTarget, ht, if_neg Bool.false_ne_true]
  cases r.settle <;> rfl

theorem target_assign {o o' : Options} (h : assign o slot value = .ok o') :
    o'.target = if slot = .target then some value else o.target := by
  unfold assign at h
  split at h
  · cases h
  · cases slot with
    | target | config =>
      simp only at h
      split at h
      · cases h
      · cases h
        rfl
    | apiBase =>
      cases h
      rfl
    | attempts | retryDelay =>
      simp only at h
      split at h
      · cases h
        rfl
      · cases h

theorem hasTarget_of_settle (h : r.settle = .ok o) : r.hasTarget = o.target.isSome := by
  obtain ⟨given,_ | ⟨slot,_ | value⟩⟩ := r
  · cases h
    exact Bool.or_false _
  · cases h
  · rw [target_assign h, hasTarget]
    by_cases hs : slot = .target <;> simp [hs]

theorem pending_of_settle (h : r.settle = .ok o) (slot : Slot) : r.pending ≠ some (slot,none) := by
  intro hp
  rw [settle, hp] at h
  cases h

end Reading

/-! ## Some of the options -/

def Options.only (o : Options) (items : List Item) : Options where
  target := if .slot .target ∈ items then o.target else none
  config := if .slot .config ∈ items then o.config else none
  apiBase := if .slot .apiBase ∈ items then o.apiBase else none
  attempts := if .slot .attempts ∈ items then o.attempts else none
  retryDelay := if .slot .retryDelay ∈ items then o.retryDelay else none
  check := .switch .check ∈ items && o.check
  verbose := .switch .verbose ∈ items && o.verbose

variable {o : Options} {items : List Item} {item : Item} {slot : Slot} {value : Text} {args rest : List Text}
  {r : Reading}

theorem Options.has_only : (o.only items).has item = (decide (item ∈ items) && o.has item) := by
  cases item with
  | slot slot => cases slot <;> simp only [Options.has, Options.only] <;> split <;> simp [*]
  | switch switch => cases switch <;> simp [Options.has, Options.only]

theorem Options.isSome_text? (o : Options) (slot : Slot) : (o.text? slot).isSome = o.has (.slot slot) := by
  cases slot with
  | target | config | apiBase => rfl
  | attempts | retryDelay => exact Option.isSome_map

theorem Options.has_of_text? (h : o.text? slot = some value) : o.has (.slot slot) = true := by
  rw [← o.isSome_text?, h]
  rfl

theorem Options.only_eq_self (h : ∀ item, o.has item = true → item ∈ items) : o.only items = o := by
  have hslot : ∀ {α : Type} {p : Prop} [Decidable p] {x : Option α},
      (x.isSome = true → p) → (if p then x else none) = x := by
    intro α p _ x hp
    cases x with
    | none => exact ite_self none
    | some a => exact if_pos (hp rfl)
  have hswitch : ∀ {p : Prop} [Decidable p] {b : Bool}, (b = true → p) → (decide p && b) = b := by
    intro p _ b hp
    cases b with
    | false => exact Bool.and_false _
    | true => simpa using hp rfl
  exact (Options.mk.injEq ..).mpr ⟨hslot (h (.slot .target)),hslot (h (.slot .config)),hslot (h (.slot .apiBase)),
    hslot (h (.slot .attempts)),hslot (h (.slot .retryDelay)),hswitch (h (.switch .check)),
    hswitch (h (.switch .verbose))⟩

namespace Reading

theorem attempts?_numeral (n : Nat) : attempts? (Decimal.numeral n) =
    if n ≤ UInt64.size / 2 - 1 then (if n ≤ maxAttempts then .ok (.ofNat n) else .error (.notInRange n))
    else .error (.numeral .tooLarge) := by
  rw [attempts?, Decimal.readInt_numeral]
  by_cases hn : n ≤ UInt64.size / 2 - 1
  · simp [hn]
  · simp [hn]

theorem retryDelay?_numeral (n : Nat) : retryDelay? (Decimal.numeral n) =
    if n ≤ UInt64.size - 1 then .ok (.ofNat n) else .error (.numeral .tooLarge) := by
  rw [retryDelay?, Decimal.readNat_numeral]
  by_cases hn : n ≤ UInt64.size - 1
  · rw [if_pos hn, if_pos hn]
  · rw [if_neg hn, if_neg hn]

/-- Setting a slot that is not set yet to its value among the options. -/
theorem assign_only (ht : o.target ≠ some []) (hc : o.config ≠ some []) (hv : o.text? slot = some value)
    (hn : .slot slot ∉ items) : assign (o.only items) slot value = .ok (o.only (.slot slot :: items)) := by
  have hhas : (o.only items).has (.slot slot) = false := by rw [Options.has_only, decide_eq_false hn, Bool.false_and]
  have hnonempty : some value ≠ some [] → value.isEmpty = false := by
    intro h
    cases value with
    | nil => exact absurd rfl h
    | cons c value => rfl
  unfold assign
  rw [hhas, if_neg Bool.false_ne_true]
  cases slot with
  | target =>
    have hv : o.target = some value := hv
    simp [hnonempty (hv ▸ ht), Options.only, hv]
  | config =>
    have hv : o.config = some value := hv
    simp [hnonempty (hv ▸ hc), Options.only, hv]
  | apiBase =>
    have hv : o.apiBase = some value := hv
    simp [Options.only, hv]
  | attempts =>
    obtain ⟨n,hn,rfl⟩ := Option.map_eq_some_iff.mp hv
    have hlt := n.toNat_lt
    have hmost : n.toNat ≤ maxAttempts := Nat.le_sub_one_of_lt hlt
    have hwide : n.toNat ≤ UInt64.size / 2 - 1 := Nat.le_trans hmost (by decide)
    rw [attempts?_numeral, if_pos hwide, if_pos hmost]
    simp [Options.only, hn]
  | retryDelay =>
    obtain ⟨n,hn,rfl⟩ := Option.map_eq_some_iff.mp hv
    have hlt := n.toNat_lt
    have hmost : n.toNat ≤ UInt64.size - 1 := Nat.le_sub_one_of_lt hlt
    rw [retryDelay?_numeral, if_pos hmost]
    simp [Options.only, hn]

theorem assign_only_repeated (hv : o.text? slot = some value) (hm : .slot slot ∈ items) (value' : Text) :
    assign (o.only items) slot value' = .error (.repeated (.slot slot)) := by
  have hhas : (o.only items).has (.slot slot) = true := by
    rw [Options.has_only, decide_eq_true hm, Options.has_of_text? hv]
    rfl
  unfold assign
  rw [hhas, if_pos rfl]

theorem turnOn_only {switch : Switch} (hs : o.has (.switch switch) = true) (hn : .switch switch ∉ items) :
    turnOn (o.only items) switch = .ok (o.only (.switch switch :: items)) := by
  have hhas : (o.only items).has (.switch switch) = false := by
    rw [Options.has_only, decide_eq_false hn, Bool.false_and]
  unfold turnOn
  rw [hhas, if_neg Bool.false_ne_true]
  cases switch with
  | check =>
    have hs : o.check = true := hs
    simp [Options.only, hs]
  | verbose =>
    have hs : o.verbose = true := hs
    simp [Options.only, hs]
  | help | version => cases hs

theorem turnOn_only_repeated {switch : Switch} (hs : o.has (.switch switch) = true) (hm : .switch switch ∈ items) :
    turnOn (o.only items) switch = .error (.repeated (.switch switch)) := by
  have hhas : (o.only items).has (.switch switch) = true := by
    rw [Options.has_only, decide_eq_true hm, hs]
    rfl
  unfold turnOn
  rw [hhas, if_pos rfl]

end Reading

/-! ## A whole command line -/

open Reading

theorem Reading.settle_start (o : Options) : start.settle = .ok (o.only []) := rfl

variable {parts last first more : List (Item × List Text)}

theorem hasTarget_eq_false (hr : r.settle = .ok (o.only items)) (hn : .slot .target ∉ items) : r.hasTarget = false := by
  rw [hasTarget_of_settle hr, Options.only, if_neg hn]
  rfl

/-- What is written for an item sets it, if it is not set yet. -/
theorem Given.read (h : Given o item args) (ht : o.target ≠ some []) (hc : o.config ≠ some [])
    (hr : r.settle = .ok (o.only items)) (hn : item ∉ items) :
    ∃ r' : Reading, r'.settle = .ok (o.only (item :: items)) ∧ ∀ rest, r.readAll (args ++ rest) = r'.readAll rest := by
  cases h with
  | @joined name slot value hname hv =>
    refine ⟨⟨o.only (.slot slot :: items),none⟩,rfl,?_⟩
    intro rest
    rw [List.singleton_append, readAll_joined hname.mem, hr]
    simp only [Except.bind]
    rw [assign_only ht hc hv hn]
  | @apart name slot value hname hv hl =>
    refine ⟨⟨o.only items,some (slot,some value)⟩,assign_only ht hc hv hn,?_⟩
    intro rest
    rw [List.cons_append, List.singleton_append, readAll_dashed_slot hname.mem, hr]
    exact readAll_value hl
  | @switch name switch hname hs =>
    refine ⟨⟨o.only (.switch switch :: items),none⟩,rfl,?_⟩
    intro rest
    rw [List.singleton_append, readAll_dashed_switch hname.mem, hr]
    simp only [Except.bind]
    rw [turnOn_only hs hn]
  | @target path hpath hl =>
    refine ⟨⟨o.only items,some (.target,some path)⟩,assign_only ht hc hpath hn,?_⟩
    intro rest
    rw [List.singleton_append, readAll_target hl (pending_of_settle hr) (hasTarget_eq_false hr hn), hr]
    rfl

theorem readAll_parts (ht : o.target ≠ some []) (hc : o.config ≠ some []) (hgiven : ∀ p ∈ parts, Given o p.1 p.2)
    (hr : r.settle = .ok (o.only items)) (honce : ((parts.map Prod.fst).reverse ++ items).Nodup) :
    ∃ r' : Reading, r'.settle = .ok (o.only ((parts.map Prod.fst).reverse ++ items)) ∧
      ∀ rest, r.readAll (parts.flatMap Prod.snd ++ rest) = r'.readAll rest := by
  induction parts generalizing r items with
  | nil => exact ⟨r,hr,fun _ => rfl⟩
  | cons p parts ih =>
    rw [List.map_cons, List.reverse_cons, List.append_assoc, List.singleton_append] at honce ⊢
    have hn : p.1 ∉ items := (List.nodup_cons.mp (List.nodup_append.mp honce).2.1).1
    obtain ⟨r₁,hr₁,hread₁⟩ := (hgiven p List.mem_cons_self).read ht hc hr hn
    obtain ⟨r₂,hr₂,hread₂⟩ := ih (fun q hq => hgiven q (List.mem_cons_of_mem p hq)) hr₁ honce
    refine ⟨r₂,hr₂,?_⟩
    intro rest
    rw [List.flatMap_cons, List.append_assoc, hread₁, hread₂]

/-- A value that cannot be settled is found out when the next part begins, or at the end. -/
theorem readAll_unsettled {e : Refusal} (hr : r.settle = .error e) (hp : ∀ slot, r.pending ≠ some (slot,none))
    (hgiven : ∀ p ∈ more, Given o p.1 p.2) (hlast : Last o last)
    (ht : .slot .target ∈ (more ++ last).map Prod.fst → r.hasTarget = false) :
    r.readAll ((more ++ last).flatMap Prod.snd) = .error e := by
  cases more with
  | nil =>
    rcases hlast with rfl | ⟨path,_,rfl⟩
    · exact hr
    · have hread := @readAll_dashes r path (ht (by simp))
      rw [hr] at hread
      exact hread
  | cons p more =>
    obtain ⟨item,args⟩ := p
    rw [List.cons_append, List.flatMap_cons]
    cases hgiven _ List.mem_cons_self with
    | joined hname _ =>
      rw [List.singleton_append, readAll_joined hname.mem, hr]
      rfl
    | apart hname _ _ =>
      rw [List.cons_append, readAll_dashed_slot hname.mem, hr]
      rfl
    | switch hname _ =>
      rw [List.singleton_append, readAll_dashed_switch hname.mem, hr]
      rfl
    | target _ hl =>
      rw [List.singleton_append, readAll_target hl hp (ht (by simp)), hr]
      rfl

theorem Given.repeated (h : Given o item args) (hi : item ≠ .slot .target) (hr : r.settle = .ok (o.only items))
    (hm : item ∈ items) (hgiven : ∀ p ∈ more, Given o p.1 p.2) (hlast : Last o last)
    (ht : .slot .target ∈ (more ++ last).map Prod.fst → .slot .target ∉ items) :
    r.readAll (args ++ (more ++ last).flatMap Prod.snd) = .error (.repeated item) := by
  cases h with
  | @joined name slot value hname hv =>
    rw [List.singleton_append, readAll_joined hname.mem, hr]
    simp only [Except.bind]
    rw [assign_only_repeated hv hm]
  | @apart name slot value hname hv hl =>
    rw [List.cons_append, List.singleton_append, readAll_dashed_slot hname.mem, hr]
    simp only [Except.bind]
    rw [readAll_value hl]
    refine readAll_unsettled (assign_only_repeated hv hm value) (by simp) hgiven hlast ?_
    intro htarget
    have hslot : slot ≠ .target := ne_target_of_mem hname.mem
    simp [hasTarget, Options.only, ht htarget, hslot]
  | @switch name switch hname hs =>
    rw [List.singleton_append, readAll_dashed_switch hname.mem, hr]
    simp only [Except.bind]
    rw [turnOn_only_repeated hs hm]
  | target _ _ => exact absurd rfl hi

theorem Written.parse (h : Written o parts last) (ht : o.target ≠ some []) (hc : o.config ≠ some []) :
    CommandLine.parse ((parts ++ last).flatMap Prod.snd) = .ok o := by
  have honce := h.once
  have hcomplete := h.complete
  rw [List.map_append] at hcomplete honce
  obtain ⟨hparts,_,hapart⟩ := List.nodup_append.mp honce
  obtain ⟨r,hr,hread⟩ := readAll_parts ht hc h.given (settle_start o) (by simpa using hparts)
  rw [List.append_nil] at hr
  rw [CommandLine.parse, List.flatMap_append, hread]
  rcases h.ends with rfl | ⟨path,hpath,rfl⟩
  · exact hr.trans (congrArg Except.ok (Options.only_eq_self (by simpa using hcomplete)))
  · have hv : o.text? .target = some path := hpath
    have hn : .slot .target ∉ (parts.map Prod.fst).reverse := by
      intro hm
      exact hapart _ (List.mem_reverse.mp hm) _ (List.mem_singleton_self _) rfl
    have hdashes := @readAll_dashes r path (hasTarget_eq_false hr hn)
    rw [hr] at hdashes
    refine hdashes.trans ((assign_only ht hc hv hn).trans (congrArg Except.ok (Options.only_eq_self ?_)))
    intro item hitem
    simpa [or_comm] using hcomplete item hitem

/-- The other parts do not write the item of this one. -/
theorem Written.others (h : Written o (first ++ (item,args) :: more) last) :
    (item :: (first ++ more ++ last).map Prod.fst).Nodup ∧ ∀ p ∈ first ++ more, Given o p.1 p.2 := by
  constructor
  · have hperm : (first ++ (item,args) :: (more ++ last)).Perm _ := List.perm_middle
    simpa using (hperm.map Prod.fst).nodup_iff.mp (by simpa using h.once)
  · intro p hp
    apply h.given
    simp only [List.mem_append, List.mem_cons] at hp ⊢
    tauto

/-- Of two parts for the same item the second is refused. -/
theorem parse_repeated {front mid : List (Item × List Text)} {again : List Text} (ht : o.target ≠ some [])
    (hc : o.config ≠ some []) (hi : item ≠ .slot .target) (hargs : Given o item args) (hagain : Given o item again)
    (hgiven : ∀ p ∈ front ++ mid ++ more, Given o p.1 p.2) (hlast : Last o last)
    (honce : (item :: (front ++ mid ++ more ++ last).map Prod.fst).Nodup) :
    parse ((front ++ (item,args) :: (mid ++ (item,again) :: (more ++ last))).flatMap Prod.snd) =
      .error (.repeated item) := by
  rw [List.append_assoc _ more, List.map_append] at honce
  obtain ⟨hfresh,hrest⟩ := List.nodup_cons.mp honce
  obtain ⟨hnodup,_,hapart⟩ := List.nodup_append.mp hrest
  have hperm : ((front ++ (item,args) :: mid).map Prod.fst).Perm (item :: (front ++ mid).map Prod.fst) :=
    List.perm_middle.map Prod.fst
  have hfirst : ∀ p ∈ front ++ (item,args) :: mid, Given o p.1 p.2 := by
    intro p hp
    rcases List.mem_cons.mp (List.perm_middle.mem_iff.mp hp) with rfl | hp
    · exact hargs
    · exact hgiven p (List.mem_append_left _ hp)
  have hkeys : ((front ++ (item,args) :: mid).map Prod.fst).Nodup := by
    rw [hperm.nodup_iff, List.nodup_cons]
    exact ⟨fun hm => hfresh (List.mem_append_left _ hm),hnodup⟩
  obtain ⟨r,hr,hread⟩ := readAll_parts ht hc hfirst (settle_start o)
    (by rw [List.append_nil, List.nodup_reverse]; exact hkeys)
  have horder : front ++ (item,args) :: (mid ++ (item,again) :: (more ++ last)) =
      front ++ (item,args) :: mid ++ (item,again) :: (more ++ last) := by simp
  rw [parse, horder, List.flatMap_append, hread, List.flatMap_cons]
  refine hagain.repeated hi hr (by simp) (fun p hp => hgiven p (List.mem_append_right _ hp)) hlast ?_
  intro htarget hm
  rw [List.append_nil, List.mem_reverse, hperm.mem_iff] at hm
  rcases List.mem_cons.mp hm with heq | hm
  · exact hi heq.symm
  · exact hapart _ hm _ htarget rfl

/-- Written in any way, the options come back. Written with an option or a switch twice, wherever the second
stands among the parts, they are refused. -/
theorem parse_written {o : Options} {parts last : List (Item × List Text)} (ht : o.target ≠ some [])
    (hc : o.config ≠ some []) (h : Written o parts last) :
    parse ((parts ++ last).flatMap Prod.snd) = .ok o ∧
    ∀ before after item again, parts = before ++ after → item ∈ parts.map Prod.fst → item ≠ .slot .target →
      Given o item again →
        parse ((before ++ (item,again) :: (after ++ last)).flatMap Prod.snd) = .error (.repeated item) := by
  refine ⟨h.parse ht hc,?_⟩
  rintro before after item again rfl hm hi hagain
  obtain ⟨⟨_,args⟩,hmem,heq⟩ := List.mem_map.mp hm
  have hmem : (item,args) ∈ before ++ after := heq ▸ hmem
  have hargs := h.given _ hmem
  rcases List.mem_append.mp hmem with hmem | hmem
  · obtain ⟨front,mid,rfl⟩ := List.append_of_mem hmem
    rw [List.append_assoc, List.cons_append] at h
    obtain ⟨honce,hgiven⟩ := h.others
    rw [← List.append_assoc] at honce hgiven
    simpa using parse_repeated ht hc hi hargs hagain hgiven h.ends honce
  · obtain ⟨mid,more,rfl⟩ := List.append_of_mem hmem
    rw [← List.append_assoc] at h
    obtain ⟨honce,hgiven⟩ := h.others
    simpa using parse_repeated ht hc hi hagain hargs hgiven h.ends honce

/-- Options that are hard to tell apart from each other. -/
def trickyOptions : Options where
  target := some "--check".toList
  config := some "a=-b".toList
  apiBase := some []
  attempts := some 7
  retryDelay := some 18446744073709551615
  check := true
  verbose := true

def trickyParts : List (Item × List Text) :=
  [(.slot .apiBase,["--api-base".toList,[]]), (.slot .config,["--config=a=-b".toList]),
    (.switch .check,["--check".toList]), (.slot .retryDelay,["--retry-delay-ms=18446744073709551615".toList]),
    (.switch .verbose,["--verbose".toList]), (.slot .attempts,["--attempts".toList,"7".toList])]

def trickyLast : List (Item × List Text) := [(.slot .target,[['-','-'],"--check".toList])]

theorem given_tricky (path : Option Text) :
    ∀ p ∈ trickyParts, Given { trickyOptions with target := path } p.1 p.2 := by
  intro p hp
  simp only [trickyParts, List.mem_cons, List.not_mem_nil, or_false] at hp
  rcases hp with rfl | rfl | rfl | rfl | rfl | rfl
  · exact .apart .apiBase rfl (by decide)
  · exact .joined .config rfl
  · exact .switch .check rfl
  · exact .joined .retryDelay rfl
  · exact .switch .verbose rfl
  · exact .apart .attempts rfl (by decide)

theorem written_tricky : Written trickyOptions trickyParts trickyLast where
  given := given_tricky (some "--check".toList)
  ends := .inr ⟨_,rfl,rfl⟩
  once := by decide
  complete := by
    intro item
    cases item with
    | slot slot => cases slot <;> decide
    | switch switch => cases switch <;> decide

def dashParts : List (Item × List Text) := trickyParts.take 3 ++ (.slot .target,[['-']]) :: trickyParts.drop 3

theorem written_dash : Written { trickyOptions with target := some ['-'] } dashParts [] where
  given := by
    intro p hp
    rcases List.mem_cons.mp (List.perm_middle.mem_iff.mp hp) with rfl | hp
    · exact .target rfl (by decide)
    · exact given_tricky _ p (List.take_append_drop 3 trickyParts ▸ hp)
  ends := .inl rfl
  once := by decide
  complete := by
    intro item
    cases item with
    | slot slot => cases slot <;> decide
    | switch switch => cases switch <;> decide

/-- They come back from two of their command lines, but not with another `--check` or delay among the options. -/
theorem parse_tricky :
    parse ["--api-base".toList,[],"--config=a=-b".toList,"--check".toList,
      "--retry-delay-ms=18446744073709551615".toList,"--verbose".toList,"--attempts".toList,"7".toList,
      "--".toList,"--check".toList] = .ok trickyOptions ∧
    parse ["--api-base".toList,[],"--check".toList,"--config=a=-b".toList,"--check".toList,
      "--retry-delay-ms=18446744073709551615".toList,"--verbose".toList,"--attempts".toList,"7".toList,
      "--".toList,"--check".toList] = .error (.repeated (.switch .check)) ∧
    parse ["--api-base".toList,[],"--config=a=-b".toList,"--check".toList,"-".toList,
      "--retry-delay-ms=18446744073709551615".toList,"--verbose".toList,"--attempts".toList,"7".toList] =
        .ok { trickyOptions with target := some ['-'] } ∧
    parse ["--api-base".toList,[],"--config=a=-b".toList,"--check".toList,"-".toList,
      "--retry-delay-ms=18446744073709551615".toList,"--verbose".toList,"--attempts".toList,"7".toList,
      "--retry-delay-ms".toList,"18446744073709551615".toList] = .error (.repeated (.slot .retryDelay)) := by
  obtain ⟨hread,hrepeated⟩ := parse_written (by decide) (by decide) written_tricky
  obtain ⟨hread',hrepeated'⟩ := parse_written (by decide) (by decide) written_dash
  refine ⟨hread,?_,hread',?_⟩
  · exact hrepeated [(.slot .apiBase,["--api-base".toList,[]])] _ (.switch .check) ["--check".toList] rfl
      (by decide) (by decide) (.switch .check rfl)
  · exact hrepeated' dashParts [] (.slot .retryDelay) ["--retry-delay-ms".toList,"18446744073709551615".toList] rfl
      (by decide) (by decide) (.apart .retryDelay rfl (by decide))

end BookTheme.CommandLine
