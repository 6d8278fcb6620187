import BookTheme.CommandLine.Parser

/-! # A switch put in front

The switch for checking is looked at when it comes and not again. So in front of arguments that do not give
it, it changes one thing about what they set, and nothing about why they are refused.
-/
namespace BookTheme.CommandLine

def Options.withCheck (b : Bool) (o : Options) : Options := { o with check := b }

/-- Whether the switch for checking stands among the options, which end at two dashes. -/
def GivesCheck (arguments : List Text) : Prop := "--check".toList ∈ arguments.takeWhile (· ≠ ['-', '-'])

instance (arguments : List Text) : Decidable (GivesCheck arguments) :=
  inferInstanceAs (Decidable (_ ∈ _))

theorem givesCheck_cons_iff {argument : Text} {arguments : List Text} : GivesCheck (argument :: arguments) ↔
    argument ≠ ['-', '-'] ∧ (argument = "--check".toList ∨ GivesCheck arguments) := by
  unfold GivesCheck
  rw [List.takeWhile_cons]
  by_cases h : argument = ['-', '-']
  · simp [h]
  · simp [h, eq_comm]

theorem eq_check_of_ofName? {name : Text} (h : Item.ofName? name = some (.switch .check)) :
    name = "check".toList := by
  unfold Item.ofName? at h
  obtain ⟨entry,he,hi⟩ := Option.map_eq_some_iff.mp h
  have hmem := List.mem_of_find?_eq_some he
  have hname : entry.1.toList = name := by simpa using List.find?_some he
  simp only [names, List.mem_cons, List.not_mem_nil, or_false] at hmem
  rcases hmem with rfl | rfl | rfl | rfl | rfl | rfl | rfl | rfl
  case inr.inr.inr.inr.inl => exact hname.symm
  all_goals cases hi

namespace Reading

def withCheck (b : Bool) (r : Reading) : Reading := { r with options := r.options.withCheck b }

variable (b : Bool) (r : Reading)

theorem assign_withCheck (o : Options) (slot : Slot) (value : Text) :
    assign (o.withCheck b) slot value = (assign o slot value).map (Options.withCheck b) := by
  have hhas : (o.withCheck b).has (.slot slot) = o.has (.slot slot) := by cases slot <;> rfl
  unfold assign
  rw [hhas]
  cases o.has (.slot slot) with
  | true => rfl
  | false =>
    cases slot with
    | target | config =>
      cases value with
      | nil => rfl
      | cons c value => rfl
    | apiBase => rfl
    | attempts => cases attempts? value <;> simp [Except.map, Options.withCheck]
    | retryDelay => cases retryDelay? value <;> simp [Except.map, Options.withCheck]

theorem settle_withCheck : (r.withCheck b).settle = r.settle.map (Options.withCheck b) := by
  obtain ⟨o,_ | ⟨slot,_ | value⟩⟩ := r
  · rfl
  · rfl
  · exact assign_withCheck b o slot value

theorem turnOn_withCheck {switch : Switch} (h : switch ≠ .check) (o : Options) :
    turnOn (o.withCheck b) switch = (turnOn o switch).map (Options.withCheck b) := by
  cases switch with
  | check => exact absurd rfl h
  | verbose => cases hv : o.verbose <;> simp [turnOn, Options.has, Options.withCheck, hv, Except.map]
  | help => rfl
  | version => rfl

theorem readTarget_withCheck (argument : Text) :
    (r.withCheck b).readTarget argument = (r.readTarget argument).map (withCheck b) := by
  have hhas : (r.withCheck b).hasTarget = r.hasTarget := rfl
  rw [readTarget, readTarget, hhas, settle_withCheck]
  cases r.hasTarget with
  | true => rfl
  | false => cases r.settle <;> rfl

theorem readPlain_withCheck (argument : Text) :
    (r.withCheck b).readPlain argument = (r.readPlain argument).map (withCheck b) := by
  obtain ⟨o,_ | ⟨slot,_ | value⟩⟩ := r
  · exact readTarget_withCheck b _ argument
  · rfl
  · exact readTarget_withCheck b _ argument

theorem readLetter_withCheck (c : Char) : (r.withCheck b).readLetter c = (r.readLetter c).map (withCheck b) := by
  unfold readLetter
  cases h : Item.ofLetter? c with
  | none => rfl
  | some switch =>
    have hs : switch ≠ .check := by
      rintro rfl
      unfold Item.ofLetter? at h
      split at h
      · cases h
      · split at h <;> cases h
    simp only [settle_withCheck]
    cases r.settle with
    | error e => rfl
    | ok o =>
      simp only [Except.map, bind, Except.bind, turnOn_withCheck b hs]
      cases turnOn o switch <;> rfl

theorem readNamed_withCheck {s : Text} (h : s ≠ "check".toList) :
    (r.withCheck b).readNamed s = (r.readNamed s).map (withCheck b) := by
  unfold readNamed
  cases hn : nameAndValue s with
  | mk name value? =>
    simp only
    cases hi : Item.ofName? name with
    | none => rfl
    | some item =>
      cases item with
      | slot slot =>
        cases value? with
        | none =>
          simp only [settle_withCheck]
          cases r.settle <;> rfl
        | some value =>
          simp only [settle_withCheck]
          cases r.settle with
          | error e => rfl
          | ok o =>
            simp only [Except.map, bind, Except.bind, assign_withCheck]
            cases assign o slot value <;> rfl
      | switch switch =>
        cases value? with
        | some value => rfl
        | none =>
          have hs : switch ≠ .check := by
            rintro rfl
            have hd : s.dropWhile (· ≠ '=') = [] := by
              have hv := congrArg Prod.snd hn
              simp only [nameAndValue] at hv
              split at hv
              · assumption
              · cases hv
            have hname : s.takeWhile (· ≠ '=') = name := congrArg Prod.fst hn
            have hs := List.takeWhile_append_dropWhile (p := fun c => decide (c ≠ '=')) (l := s)
            rw [hd, hname, List.append_nil, eq_check_of_ofName? hi] at hs
            exact h hs.symm
          simp only [settle_withCheck]
          cases r.settle with
          | error e => rfl
          | ok o =>
            simp only [Except.map, bind, Except.bind, turnOn_withCheck b hs]
            cases turnOn o switch <;> rfl

theorem foldlM_readTarget_withCheck (arguments : List Text) :
    arguments.foldlM readTarget (r.withCheck b) = (arguments.foldlM readTarget r).map (withCheck b) := by
  induction arguments generalizing r with
  | nil => rfl
  | cons argument arguments ih =>
    rw [List.foldlM_cons, List.foldlM_cons, readTarget_withCheck]
    cases r.readTarget argument with
    | error e => rfl
    | ok r => exact ih r

theorem readAll_withCheck {arguments : List Text} (h : ¬ GivesCheck arguments) :
    (r.withCheck b).readAll arguments = (r.readAll arguments).map (Options.withCheck b) := by
  induction arguments generalizing r with
  | nil => exact settle_withCheck b r
  | cons argument arguments ih =>
    have hmore : argument ≠ ['-', '-'] → ¬ GivesCheck arguments :=
      fun hne hg => h (givesCheck_cons_iff.mpr ⟨hne,.inr hg⟩)
    unfold readAll
    split
    · simp only [foldlM_readTarget_withCheck]
      cases arguments.foldlM readTarget r with
      | error e => rfl
      | ok r => exact settle_withCheck b r
    · rename_i s hs
      have hname : s ≠ "check".toList := by
        rintro rfl
        exact h (givesCheck_cons_iff.mpr ⟨by simp,.inl rfl⟩)
      rw [readNamed_withCheck b r hname]
      cases r.readNamed s with
      | error e => rfl
      | ok r => exact ih r (hmore (by simpa using hs))
    · rename_i c s hs _
      rw [readLetter_withCheck]
      cases r.readLetter c with
      | error e => rfl
      | ok r => exact ih r (hmore (by simpa using hs))
    · rename_i hs _ _
      rw [readPlain_withCheck]
      cases r.readPlain argument with
      | error e => rfl
      | ok r => exact ih r (hmore hs)

end Reading

/-- The switch for checking, in front of arguments that do not give it. -/
theorem parse_check {arguments : List Text} (h : ¬ GivesCheck arguments) :
    parse ("--check".toList :: arguments) = (parse arguments).map (Options.withCheck true) :=
  Reading.readAll_withCheck true Reading.start h

theorem check_of_parse {arguments : List Text} {o : Options} (h : ¬ GivesCheck arguments)
    (ho : parse arguments = .ok o) : o.check = false := by
  have hp : parse arguments = (parse arguments).map (Options.withCheck false) :=
    Reading.readAll_withCheck false Reading.start h
  rw [ho] at hp
  exact congrArg Options.check (Except.ok.inj hp)

end BookTheme.CommandLine
