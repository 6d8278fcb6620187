import BookTheme.Proofs.CommandLine.Writing
import BookTheme.Proofs.Settings.Overrides
import BookTheme.Proofs.Update.Stages

/-! # Options and files agree

Three of the settings have an option of their own, and two of these are numbers. The numerals of options and
those of files are not read by the same readers, and what does not fit is refused at different places. Still,
whatever is chosen for these settings comes to the same on both ways: to the same settings, or to none.
-/
namespace BookTheme
open Json

/-- The settings that have an option. -/
inductive Dial where
  | apiBase
  | retry (f : RetryField)

namespace Dial

def slot : Dial → CommandLine.Slot
  | apiBase => .apiBase
  | retry .maxAttempts => .attempts
  | retry .delay => .retryDelay

def name : Dial → String
  | apiBase => "api-base"
  | retry .maxAttempts => "attempts"
  | retry .delay => "retry-delay-ms"

theorem called (d : Dial) : d.slot.Called d.name := by
  rcases d with _ | ⟨_ | _⟩
  · exact .apiBase
  · exact .attempts
  · exact .retryDelay

theorem slot_inj {d d' : Dial} (h : d.slot = d'.slot) : d = d' := by
  rcases d with _ | ⟨_ | _⟩ <;> rcases d' with _ | ⟨_ | _⟩ <;> first | rfl | cases h

end Dial

/-- Below this a number fits its field. -/
def RetryField.size : RetryField → Nat
  | maxAttempts => UInt32.size
  | delay => UInt64.size

/-- What is chosen for some of these settings: any text for the base of the address, and numerals for the
numbers. -/
structure Choice where
  apiBase : Option Text
  retry : RetryField → Option Text
  numeral : ∀ f s, retry f = some s → Decimal.IsNumeral s

namespace Choice

def text? (c : Choice) : Dial → Option Text
  | .apiBase => c.apiBase
  | .retry f => c.retry f

/-- A command line that gives what is chosen, in the order of the dials. -/
def arguments (c : Choice) (order : List Dial) : List Text :=
  order.filterMap fun d => (c.text? d).map (CommandLine.joined d.name)

/-- What is chosen for a setting, if it has an option. -/
def setting? (c : Choice) : (k : Section) → k.Field → Option Text
  | .source, .apiBase => c.apiBase
  | .retry, f => c.retry f
  | _, _ => none

end Choice

namespace Section

/-- A numeral stands in a file as it is, any other text between quotes. -/
def Spelled : Section → Text → Bytes → Prop
  | retry, s, v => v = Utf8.encode s
  | _, s, v => Quoted s v

/-- An object that lists just these texts for fields of a section, in some order. -/
def Spells (k : Section) (texts : k.Field → Option Text) (v : Bytes) : Prop :=
  ∃ ms, ObjectOf ms v ∧ (ms.map Prod.fst).Nodup ∧
    (∀ m ∈ ms, ∃ i s, m.1 = k.layout.key i ∧ texts i = some s ∧ k.Spelled s m.2) ∧
    ∀ i, (texts i).isSome → k.layout.key i ∈ ms.map Prod.fst

end Section

/-- An object that gives just what is chosen: each text in its section, and the sections in some order. Sections
of which nothing is chosen are empty or left out. -/
def Choice.Spelled (c : Choice) (v : Bytes) : Prop :=
  ∃ ms, ObjectOf ms v ∧ (ms.map Prod.fst).Nodup ∧
    (∀ m ∈ ms, ∃ k : Section, m.1 = Settings.layout.key k ∧ k.Spells (c.setting? k) m.2) ∧
    ∀ k i, (c.setting? k i).isSome → Settings.layout.key k ∈ ms.map Prod.fst

/-- The settings that a command line comes to, if it comes to any. -/
def settings? (r : Rehearsal) (arguments : List Text) : Option Settings :=
  (CommandLine.parse arguments).toOption.bind fun o => (Settings.resolved r o).toOption

/-! ## A number that does not fit -/

theorem Retry.misfit_natural {f : RetryField} {n : Nat} (h : f.size ≤ n) : Retry.Misfit f (natural n) := by
  cases f with
  | maxAttempts => exact .attempts h
  | delay => exact .delay h

namespace CommandLine
open Reading

theorem assign_misfit {f : RetryField} {n : Nat} (h : f.size ≤ n) (o : Options) :
    ∃ e, assign o (Dial.retry f).slot (Decimal.numeral n) = .error e := by
  unfold assign
  split
  case isTrue => exact ⟨_,rfl⟩
  case isFalse =>
    cases f with
    | maxAttempts =>
      have hmost : ¬ n ≤ maxAttempts := Nat.not_le.mpr (Nat.lt_of_lt_of_le (by decide) h)
      by_cases hn : n ≤ UInt64.size / 2 - 1
      · simp [Dial.slot, attempts?_numeral, hn, hmost]
      · simp [Dial.slot, attempts?_numeral, hn]
    | delay =>
      have hmost : ¬ n ≤ UInt64.size - 1 := Nat.not_le.mpr (Nat.lt_of_lt_of_le (by decide) h)
      have hread : retryDelay? (Decimal.numeral n) = .error (.numeral .tooLarge) := by
        rw [retryDelay?_numeral, if_neg hmost]
      simp [Dial.slot, hread]

end CommandLine

namespace Choice
open CommandLine CommandLine.Reading

variable {c : Choice} {order : List Dial} {f : RetryField} {n : Nat} {v : Bytes}

theorem readAll_arguments_misfit (hc : c.retry f = some (Decimal.numeral n)) (h : f.size ≤ n) (hm : .retry f ∈ order)
    (o : Options) : ∃ e, readAll ⟨o,none⟩ (c.arguments order) = .error e := by
  induction order generalizing o with
  | nil => cases hm
  | cons d order ih =>
    cases hd : c.text? d with
    | none =>
      have hne : .retry f ≠ d := by
        rintro rfl
        exact absurd (hc.symm.trans hd) (Option.some_ne_none _)
      have hskip : c.arguments (d :: order) = c.arguments order := by simp [arguments, hd]
      rw [hskip]
      exact ih (List.mem_of_ne_of_mem hne hm) o
    | some s =>
      have hfirst : c.arguments (d :: order) = joined d.name s :: c.arguments order := by simp [arguments, hd]
      rw [hfirst, readAll_joined d.called.mem, settle, Except.bind]
      cases ha : assign o d.slot s with
      | error e => exact ⟨e,rfl⟩
      | ok o' =>
        have hne : .retry f ≠ d := by
          rintro rfl
          obtain rfl : Decimal.numeral n = s := Option.some.inj (hc.symm.trans hd)
          obtain ⟨e,he⟩ := assign_misfit h o
          rw [he] at ha
          cases ha
        exact ih (List.mem_of_ne_of_mem hne hm) o'

theorem isValue_of_spelled {k : Section} {i : k.Field} {s : Text} (hs : c.setting? k i = some s) (hv : k.Spelled s v) :
    IsValue v := by
  cases k with
  | source | patch => exact .text hv
  | retry =>
    obtain rfl : v = Utf8.encode s := hv
    obtain ⟨n,rfl⟩ := (c.numeral i s hs).exists_eq
    exact .number (isNumber_natural (.inl rfl) n)

theorem isValue_of_mem {k : Section} {inner : List (Text × Bytes)}
    (h : ∀ m ∈ inner, ∃ i s, m.1 = k.layout.key i ∧ c.setting? k i = some s ∧ k.Spelled s m.2) :
    ∀ m ∈ inner, IsValue m.2 := by
  intro m hm
  obtain ⟨i,s,_,hs,hspelled⟩ := h m hm
  exact isValue_of_spelled hs hspelled

theorem Spelled.misfit (hv : c.Spelled v) (hc : c.retry f = some (Decimal.numeral n)) (h : f.size ≤ n) :
    IsValue v ∧ alone Settings.record.read v = none := by
  obtain ⟨ms,hobject,_,hms,hall⟩ := hv
  have hvalues : ∀ m ∈ ms, IsValue m.2 := by
    intro m hm
    obtain ⟨k,_,inner,hinner,_,hi,_⟩ := hms m hm
    exact .object hinner (isValue_of_mem hi)
  have hsome : (c.setting? .retry f).isSome = true := Option.isSome_iff_exists.mpr ⟨_,hc⟩
  obtain ⟨⟨_,w⟩,hm,rfl⟩ := List.mem_map.mp (hall .retry f hsome)
  obtain ⟨k,hk,inner,hinner,_,hi,hgiven⟩ := hms _ hm
  obtain rfl := Settings.layout.key_inj hk
  obtain ⟨⟨_,u⟩,hu,rfl⟩ := List.mem_map.mp (hgiven f hsome)
  obtain ⟨i,s,hkey,hs,hspelled⟩ := hi _ hu
  obtain rfl := Retry.layout.key_inj hkey
  obtain rfl : Decimal.numeral n = s := Option.some.inj (hc.symm.trans hs)
  obtain rfl : u = natural n := hspelled
  have hflaw : Settings.Flawed ms := .misfit hm hinner (isValue_of_mem hi) hu (Retry.misfit_natural h)
  exact ⟨.object hobject hvalues,hflaw.refused hobject hvalues⟩

/-! ## Numbers that fit -/

variable {o : Options}

/-- What is chosen, as the only options that are set. -/
structure Fits (c : Choice) (o : Options) : Prop where
  text (d : Dial) : o.text? d.slot = c.text? d
  only : ∀ item, o.has item = true → ∃ d : Dial, item = .slot d.slot

/-- A numeral below the size of its field is one of its numbers. -/
theorem exists_number {α : Type} {f : RetryField} {ofNat : Nat → α} {toNat : α → Nat}
    (hnumber : ∀ n, n < f.size → toNat (ofNat n) = n)
    (h : ∀ n, c.retry f = some (Decimal.numeral n) → n < f.size) :
    ∃ a : Option α, (a.map fun n => Decimal.numeral (toNat n)) = c.retry f := by
  cases hc : c.retry f with
  | none => exact ⟨none,rfl⟩
  | some s =>
    obtain ⟨n,rfl⟩ := (c.numeral f s hc).exists_eq
    exact ⟨some (ofNat n),by rw [Option.map_some, hnumber n (h n hc)]⟩

theorem exists_fits (h : ∀ f n, c.retry f = some (Decimal.numeral n) → n < f.size) : ∃ o, c.Fits o := by
  have hattempts : ∃ a : Option UInt32, (a.map fun n => Decimal.numeral n.toNat) = c.retry .maxAttempts :=
    exists_number (fun n hn => UInt32.toNat_ofNat_of_lt hn) (h .maxAttempts)
  have hdelay : ∃ a : Option UInt64, (a.map fun n => Decimal.numeral n.toNat) = c.retry .delay :=
    exists_number (fun n hn => UInt64.toNat_ofNat_of_lt hn) (h .delay)
  obtain ⟨attempts,hattempts⟩ := hattempts
  obtain ⟨retryDelay,hdelay⟩ := hdelay
  refine ⟨{ Options.unset with apiBase := c.apiBase, attempts, retryDelay },?_,?_⟩
  · rintro (_ | ⟨_ | _⟩)
    · rfl
    · exact hattempts
    · exact hdelay
  · intro item hitem
    cases item with
    | switch s => cases s <;> cases hitem
    | slot s =>
      cases s with
      | target | config => cases hitem
      | apiBase => exact ⟨.apiBase,rfl⟩
      | attempts => exact ⟨.retry .maxAttempts,rfl⟩
      | retryDelay => exact ⟨.retry .delay,rfl⟩

def part? (c : Choice) (d : Dial) : Option (Item × List Text) :=
  (c.text? d).map fun s => (.slot d.slot,[joined d.name s])

theorem arguments_eq_flatMap (c : Choice) (order : List Dial) :
    c.arguments order = (order.filterMap c.part?).flatMap Prod.snd := by
  induction order with
  | nil => rfl
  | cons d order ih =>
    rw [arguments] at ih ⊢
    cases hd : c.text? d with
    | none => simp [part?, hd, ih]
    | some s => simp [part?, hd, ih]

theorem map_filterMap_part? (c : Choice) (order : List Dial) : (order.filterMap c.part?).map Prod.fst =
    order.filterMap fun d => (c.text? d).map fun _ => Item.slot d.slot := by
  rw [List.map_filterMap]
  congr 1
  funext d
  exact Option.map_map ..

theorem nodup_parts (c : Choice) {order : List Dial} (hn : order.Nodup) :
    ((order.filterMap c.part?).map Prod.fst).Nodup := by
  rw [map_filterMap_part?]
  refine List.Nodup.filterMap ?_ hn
  intro d d' item hd hd'
  obtain ⟨_,_,rfl⟩ := Option.map_eq_some_iff.mp hd
  obtain ⟨_,_,heq⟩ := Option.map_eq_some_iff.mp hd'
  exact Dial.slot_inj (Item.slot.inj heq).symm

theorem Fits.text?_eq_none (h : c.Fits o) {slot : Slot} (hs : ∀ d : Dial, slot ≠ d.slot) : o.text? slot = none := by
  rw [← Option.not_isSome_iff_eq_none, o.isSome_text?]
  intro hslot
  obtain ⟨d,hd⟩ := h.only _ hslot
  exact hs d (Item.slot.inj hd)

theorem Fits.target_eq_none (h : c.Fits o) : o.target = none :=
  @Fits.text?_eq_none c o h .target (by rintro (_ | ⟨_ | _⟩) <;> decide)

theorem Fits.config_eq_none (h : c.Fits o) : o.config = none :=
  @Fits.text?_eq_none c o h .config (by rintro (_ | ⟨_ | _⟩) <;> decide)

theorem Fits.written (h : c.Fits o) {order : List Dial} (hn : order.Nodup) (hall : ∀ d, d ∈ order) :
    Written o (order.filterMap c.part?) [] where
  given := by
    intro p hp
    obtain ⟨d,_,hd⟩ := List.mem_filterMap.mp hp
    obtain ⟨s,hs,rfl⟩ := Option.map_eq_some_iff.mp hd
    exact .joined d.called ((h.text d).trans hs)
  ends := .inl rfl
  once := by
    rw [List.append_nil]
    exact c.nodup_parts hn
  complete := by
    intro item hitem
    obtain ⟨d,rfl⟩ := h.only item hitem
    rw [← o.isSome_text?, h.text d] at hitem
    obtain ⟨s,hs⟩ := Option.isSome_iff_exists.mp hitem
    rw [List.append_nil, map_filterMap_part?, List.mem_filterMap]
    exact ⟨d,hall d,by rw [hs]; rfl⟩

theorem Fits.parse (h : c.Fits o) {order : List Dial} (hn : order.Nodup) (hall : ∀ d, d ∈ order) :
    CommandLine.parse (c.arguments order) = .ok o := by
  have hparse := (h.written hn hall).parse (by simp [h.target_eq_none]) (by simp [h.config_eq_none])
  rw [List.append_nil, ← arguments_eq_flatMap] at hparse
  exact hparse

end Choice

def Overrides.ofOptions (o : CommandLine.Options) : Overrides
  | .source, .apiBase => o.apiBase
  | .retry, .maxAttempts => o.attempts
  | .retry, .delay => o.retryDelay
  | _, _ => none

theorem Settings.get_overlaid (s : Settings) (o : CommandLine.Options) (k : Section) (i : k.Field) :
    k.layout.get i (k.part (s.overlaid o)) = (Overrides.ofOptions o k i).getD (k.layout.get i (k.part s)) := by
  cases k <;> cases i <;> rfl

theorem Settings.overlaid_of_unset {s : Settings} {o : CommandLine.Options}
    (h : ∀ d : Dial, o.text? d.slot = none) : s.overlaid o = s := by
  have hbase : o.apiBase = none := h .apiBase
  have hattempts : o.attempts = none := Option.map_eq_none_iff.mp (h (.retry .maxAttempts))
  have hdelay : o.retryDelay = none := Option.map_eq_none_iff.mp (h (.retry .delay))
  rw [overlaid, hbase, hattempts, hdelay]
  rfl

theorem Settings.ext_get {s t : Settings}
    (h : ∀ (k : Section) i, k.layout.get i (k.part s) = k.layout.get i (k.part t)) : s = t := by
  have hsource : s.source = t.source := (Source.mk.injEq ..).mpr ⟨h .source .apiBase,h .source .owner,
    h .source .repo,h .source .filePath,h .source .gitRef,h .source .userAgent⟩
  have hretry : s.retry = t.retry := (Retry.mk.injEq ..).mpr ⟨h .retry .maxAttempts,h .retry .delay⟩
  have hinsertions : s.insertions = t.insertions := (Template.Insertions.mk.injEq ..).mpr ⟨h .patch .sidebarStyle,
    h .patch .scrollboxEnd,h .patch .tocStart,h .patch .tocEnd,h .patch .sidebarEnd⟩
  exact (Settings.mk.injEq ..).mpr ⟨hsource,hretry,hinsertions⟩

namespace Choice

variable {c : Choice} {o : CommandLine.Options} {v : Bytes}

theorem Fits.form (h : c.Fits o) {k : Section} {i : k.Field} {s : Text} (hs : c.setting? k i = some s)
    (hv : k.Spelled s v) : ∃ a, Overrides.ofOptions o k i = some a ∧ k.Form i a v := by
  cases k with
  | patch => cases hs
  | source =>
    cases i with
    | apiBase => exact ⟨s,(h.text .apiBase).trans hs,hv⟩
    | _ => cases hs
  | retry =>
    cases i with
    | maxAttempts =>
      have htext : o.text? .attempts = some s := (h.text (.retry .maxAttempts)).trans hs
      obtain ⟨a,ha,rfl⟩ := Option.map_eq_some_iff.mp htext
      exact ⟨a,ha,hv⟩
    | delay =>
      have htext : o.text? .retryDelay = some s := (h.text (.retry .delay)).trans hs
      obtain ⟨a,ha,rfl⟩ := Option.map_eq_some_iff.mp htext
      exact ⟨a,ha,hv⟩

theorem Fits.setting_isSome (h : c.Fits o) {k : Section} {i : k.Field}
    (hi : (Overrides.ofOptions o k i).isSome = true) : (c.setting? k i).isSome = true := by
  cases k with
  | patch => cases hi
  | source =>
    cases i with
    | apiBase => exact (congrArg Option.isSome (h.text .apiBase)).symm.trans hi
    | _ => cases hi
  | retry =>
    have htext := congrArg Option.isSome (h.text (.retry i))
    cases i <;> exact htext.symm.trans (Option.isSome_map.trans hi)

theorem Fits.lists (h : c.Fits o) (hv : c.Spelled v) : (Overrides.ofOptions o).Lists v := by
  obtain ⟨ms,hobject,hnodup,hms,hall⟩ := hv
  refine ⟨ms,hobject,hnodup,?_,fun k i hi => hall k i (h.setting_isSome hi)⟩
  intro m hm
  obtain ⟨k,hk,inner,hinner,honce,hi,hgiven⟩ := hms m hm
  refine ⟨k,hk,inner,hinner,honce,?_,fun i hi => hgiven i (h.setting_isSome hi)⟩
  intro w hw
  obtain ⟨i,s,hkey,hs,hspelled⟩ := hi w hw
  obtain ⟨a,ha,hform⟩ := h.form hs hspelled
  exact ⟨i,a,hkey,ha,hform⟩

end Choice

/-! ## Both ways -/

namespace Settings

theorem toOption_resolved {r : Rehearsal} {o : CommandLine.Options} {path : Text} {bytes : Bytes}
    (ho : o.config = some path) (h : r.tree.read? path = .ok bytes) :
    (resolved r o).toOption = (parse bytes).toOption.bind fun s => (s.overlaid o).checked.toOption := by
  rw [resolved_of_config ho, run_load h]
  cases parse bytes <;> rfl

end Settings

/-- Whatever is chosen for the settings that have an option comes to the same, given by the options in any order
or by the file of a command line that gives none of them: the same settings, or none. -/
theorem settings_agree (r : Rehearsal) (c : Choice) {order : List Dial} (hn : order.Nodup) (hall : ∀ d, d ∈ order)
    {arguments : List Text} {o : CommandLine.Options} {path : Text} {ws v ws' : Bytes}
    (harguments : CommandLine.parse arguments = .ok o) (hpath : o.config = some path)
    (hunset : ∀ d : Dial, o.text? d.slot = none) (hfile : r.tree.read? path = .ok (ws ++ (v ++ ws')))
    (hw : Space ws) (hw' : Space ws') (hv : c.Spelled v) :
    settings? r (c.arguments order) = settings? r arguments := by
  have hread : IsValue v → (Settings.parse (ws ++ (v ++ ws'))).toOption = alone Settings.record.read v :=
    fun hv => Record.toOption_parse Settings.layout.regular_record hv hw hw'
  have hown : settings? r arguments =
      (Settings.parse (ws ++ (v ++ ws'))).toOption.bind fun s => (s.overlaid o).checked.toOption := by
    rw [settings?, harguments]
    exact Settings.toOption_resolved hpath hfile
  by_cases hmisfit : ∃ f n, c.retry f = some (Decimal.numeral n) ∧ f.size ≤ n
  · obtain ⟨f,n,hc,hsize⟩ := hmisfit
    obtain ⟨hvalue,hnone⟩ := hv.misfit hc hsize
    obtain ⟨e,he⟩ := Choice.readAll_arguments_misfit hc hsize (hall (.retry f)) .unset
    have hrefused : CommandLine.parse (c.arguments order) = .error e := he
    rw [hown, hread hvalue, hnone, settings?, hrefused]
    rfl
  · have hfit : ∀ f n, c.retry f = some (Decimal.numeral n) → n < f.size :=
      fun f n hc => Nat.lt_of_not_le fun hsize => hmisfit ⟨f,n,hc,hsize⟩
    obtain ⟨given,hgiven⟩ := Choice.exists_fits hfit
    obtain ⟨hvalue,s,hs,hget⟩ := (hgiven.lists hv).read
    have hsame : Default.settings.overlaid given = s :=
      Settings.ext_get fun k i => (Settings.get_overlaid _ given k i).trans (hget k i).symm
    rw [hown, hread hvalue, hs, settings?, hgiven.parse hn hall]
    simp only [toOption_ok, Option.bind_some]
    rw [Settings.overlaid_of_unset hunset, Settings.resolved_of_none hgiven.config_eq_none, hsame]

def edgeChoice (attempts : Text) (h : Decimal.IsNumeral attempts) : Choice where
  apiBase := some "http://a=b".toList
  retry
    | .maxAttempts => some attempts
    | .delay => some "18446744073709551615".toList
  numeral := by
    intro f s hs
    cases f with
    | maxAttempts => exact Option.some.inj hs ▸ h
    | delay => exact Option.some.inj hs ▸ (by decide)

def edgeFile (attempts : Text) : Bytes :=
  plainObject
    [("retry".toList,plainObject [("delay_ms".toList,Utf8.encode "18446744073709551615".toList),
        ("max_attempts".toList,Utf8.encode attempts)]),
      ("source".toList,plainObject [("api_base".toList,plainQuoted "http://a=b".toList)])]

theorem spelled_edge (attempts : Text) (h : Decimal.IsNumeral attempts) :
    (edgeChoice attempts h).Spelled (edgeFile attempts) := by
  have hretry : Section.retry.Spells ((edgeChoice attempts h).setting? .retry)
      (plainObject [("delay_ms".toList,Utf8.encode "18446744073709551615".toList),
        ("max_attempts".toList,Utf8.encode attempts)]) := by
    refine ⟨_,objectOf_plain (by simp; decide),by simp,?_,?_⟩
    · intro m hm
      simp only [List.mem_cons, List.not_mem_nil, or_false] at hm
      rcases hm with rfl | rfl
      · exact ⟨.delay,_,rfl,rfl,rfl⟩
      · exact ⟨.maxAttempts,_,rfl,rfl,rfl⟩
    · intro i _
      cases i with
      | maxAttempts => exact List.mem_cons_of_mem _ List.mem_cons_self
      | delay => exact List.mem_cons_self
  have hsource : Section.source.Spells ((edgeChoice attempts h).setting? .source)
      (plainObject [("api_base".toList,plainQuoted "http://a=b".toList)]) := by
    refine ⟨_,objectOf_plain (by decide),by simp,?_,?_⟩
    · intro m hm
      obtain rfl := List.mem_singleton.mp hm
      exact ⟨.apiBase,_,rfl,rfl,Plain.quoted (by decide)⟩
    · intro i hi
      cases i with
      | apiBase => exact List.mem_singleton_self _
      | _ => cases hi
  refine ⟨_,objectOf_plain (by simp; decide),by simp,?_,?_⟩
  · intro m hm
    simp only [List.mem_cons, List.not_mem_nil, or_false] at hm
    rcases hm with rfl | rfl
    · exact ⟨.retry,rfl,hretry⟩
    · exact ⟨.source,rfl,hsource⟩
  · intro k i hi
    cases k with
    | source => exact List.mem_cons_of_mem _ List.mem_cons_self
    | retry => exact List.mem_cons_self
    | patch => cases hi

/-- The file is loaded with the largest number of attempts that there can be, and refused with one attempt more. -/
theorem settings_edge :
    (∃ s, settings? (Settings.holding (edgeFile "4294967295".toList)) ["--config=own".toList] = some s ∧
      s.source.apiBase = "http://a=b".toList ∧ s.retry = ⟨4294967295,18446744073709551615⟩) ∧
    settings? (Settings.holding (edgeFile "4294967296".toList)) ["--config=own".toList] = none := by
  have hspace : Space [] := by simp [Space]
  have hagree : ∀ attempts (h : Decimal.IsNumeral attempts),
      settings? (Settings.holding (edgeFile attempts))
          ((edgeChoice attempts h).arguments [.retry .delay,.apiBase,.retry .maxAttempts]) =
        settings? (Settings.holding (edgeFile attempts)) ["--config=own".toList] := by
    intro attempts h
    refine @settings_agree _ _ _ (by simp) ?_ _ { CommandLine.Options.unset with config := some "own".toList }
      "own".toList [] _ [] (by decide) rfl ?_ ?_ hspace hspace (spelled_edge attempts h)
    · rintro (_ | ⟨_ | _⟩) <;> simp
    · rintro (_ | ⟨_ | _⟩) <;> rfl
    · rw [List.append_nil]
      rfl
  rw [← hagree "4294967295".toList (by decide), ← hagree "4294967296".toList (by decide)]
  refine ⟨⟨_,rfl,by decide,by decide⟩,by decide⟩

end BookTheme
