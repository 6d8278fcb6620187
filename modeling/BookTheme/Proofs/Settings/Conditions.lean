import BookTheme.Proofs.Text.Trim
import BookTheme.Proofs.Update.Stages

/-! # Conditions on the settings

What the settings must meet can be said of each setting alone, and the conditions come in an order: the first that
is not met is the one that is reported. They are put to the settings that the options make of those below them, and
to no others.
-/
namespace BookTheme

/-- What settings must meet to be used. -/
inductive Condition where
  | http
  | notBlank (setting : Required)
  | attempted
deriving DecidableEq

namespace Condition

/-- The conditions, in the order in which they are reported. -/
def all : List Condition := .http :: (Required.all.map .notBlank ++ [.attempted])

def Holds (s : Settings) : Condition → Prop
  | http => "https://".toList <+: s.source.apiBase ∨ "http://".toList <+: s.source.apiBase
  | notBlank setting => ∃ c ∈ setting.value s.source, Text.isBlank c = false
  | attempted => 1 ≤ s.retry.maxAttempts.toNat

instance (s : Settings) : (c : Condition) → Decidable (c.Holds s)
  | http => inferInstanceAs (Decidable (_ ∨ _))
  | notBlank setting => inferInstanceAs (Decidable (∃ c ∈ setting.value s.source, Text.isBlank c = false))
  | attempted => inferInstanceAs (Decidable (1 ≤ _))

def violation (s : Settings) : Condition → Violation
  | http => .notHttp s.source.apiBase
  | notBlank setting => .blank setting
  | attempted => .noAttempts

def setting : Condition → String
  | http => "source.api_base"
  | notBlank setting => setting.name
  | attempted => "retry.max_attempts"

theorem mem_all (c : Condition) : c ∈ all := by
  cases c with
  | notBlank setting => cases setting <;> decide
  | _ => decide

theorem isHttp_eq_true_iff {s : Settings} : isHttp s.source.apiBase = true ↔ http.Holds s := by
  simp [isHttp, Holds]

theorem trim_isEmpty_iff {s : Settings} {setting : Required} :
    (setting.value s.source).trim.isEmpty = true ↔ ¬ (notBlank setting).Holds s := by
  rw [List.isEmpty_iff, Holds, ← Text.trim_ne_nil_iff]
  exact Decidable.not_not.symm

theorem maxAttempts_eq_zero_iff {s : Settings} : s.retry.maxAttempts = 0 ↔ ¬ attempted.Holds s := by
  rw [Holds, ← UInt32.toNat_inj]
  simp

end Condition

namespace Settings

/-- What is reported is the first condition that the settings do not meet. -/
theorem violation?_eq (s : Settings) :
    s.violation? = (Condition.all.find? fun c => ¬ c.Holds s).map (Condition.violation s) := by
  have hblank : ((Required.all.map Condition.notBlank).find? fun c => ¬ c.Holds s) =
      (Required.all.find? fun r => (r.value s.source).trim.isEmpty).map .notBlank := by
    have hsame : (fun c : Condition => decide ¬ c.Holds s) ∘ Condition.notBlank =
        fun r => (r.value s.source).trim.isEmpty := by
      funext r
      rw [Function.comp_apply, Bool.eq_iff_iff, decide_eq_true_iff, Condition.trim_isEmpty_iff]
    rw [List.find?_map, hsame]
  unfold violation?
  by_cases hhttp : Condition.http.Holds s
  · rw [Condition.isHttp_eq_true_iff.mpr hhttp, Condition.all, List.find?_cons_of_neg (by simpa using hhttp),
      List.find?_append, hblank]
    cases Required.all.find? fun r => (r.value s.source).trim.isEmpty with
    | some r => rfl
    | none =>
      by_cases hattempts : Condition.attempted.Holds s
      · simp [hattempts, mt Condition.maxAttempts_eq_zero_iff.mp (not_not_intro hattempts)]
      · simp [hattempts, Condition.maxAttempts_eq_zero_iff.mpr hattempts, Condition.violation]
  · have hfalse : isHttp s.source.apiBase = false :=
      Bool.eq_false_iff.mpr (mt Condition.isHttp_eq_true_iff.mp hhttp)
    rw [hfalse, Condition.all, List.find?_cons_of_pos (by simpa using hhttp)]
    rfl

theorem violation?_eq_none_iff {s : Settings} : s.violation? = none ↔ ∀ c : Condition, c.Holds s := by
  rw [violation?_eq, Option.map_eq_none_iff, List.find?_eq_none]
  simp only [decide_eq_true_eq, Decidable.not_not]
  exact ⟨fun h c => h c c.mem_all,fun h c _ => h c⟩

/-- A value is the one that is given, or the one below where none is given. -/
def Given {α : Type} (given : Option α) (below value : α) : Prop :=
  (∀ a, given = some a → value = a) ∧ (given = none → value = below)

/-- The settings that the options go over: the defaults, or what the file that they name is loaded as. -/
def Below (r : Rehearsal) (o : CommandLine.Options) (below : Settings) : Prop :=
  (o.config = none ∧ below = Default.settings) ∨
    ∃ path, o.config = some path ∧ ((load Rehearsal.disk path).run r).1 = .ok below

variable {r : Rehearsal} {o : CommandLine.Options} {s below : Settings}

theorem Below.resolved (h : Below r o below) : resolved r o = (below.overlaid o).checked := by
  rcases h with ⟨ho,rfl⟩ | ⟨path,ho,hload⟩
  · exact resolved_of_none ho
  · rw [resolved_of_config ho, hload]
    rfl

theorem resolved_of_load_error {path : Text} {e : SettingsError} (ho : o.config = some path)
    (h : ((load Rehearsal.disk path).run r).1 = .error e) : resolved r o = .error e := by
  rw [resolved_of_config ho, h]
  rfl

theorem exists_below_of_resolved (h : resolved r o = .ok s) : ∃ below, Below r o below := by
  cases ho : o.config with
  | none => exact ⟨_,.inl ⟨ho,rfl⟩⟩
  | some path =>
    cases hload : ((load Rehearsal.disk path).run r).1 with
    | ok below => exact ⟨below,.inr ⟨path,ho,hload⟩⟩
    | error e =>
      rw [resolved_of_load_error ho hload] at h
      cases h

theorem checked_eq_ok_iff {t : Settings} : t.checked = .ok s ↔ t = s ∧ t.violation? = none := by
  rw [checked]
  cases t.violation? <;> simp

theorem violation?_of_resolved (h : resolved r o = .ok s) : s.violation? = none := by
  obtain ⟨below,hbelow⟩ := exists_below_of_resolved h
  obtain ⟨rfl,hs⟩ := checked_eq_ok_iff.mp (hbelow.resolved.symm.trans h)
  exact hs

end Settings
end BookTheme
