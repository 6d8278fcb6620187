import BookTheme.Proofs.Json.Layouts
import BookTheme.Settings.Reader

/-! # The fields of the settings

The settings come in three sections, and each section is a record of its own, laid out in fields that are texts
or numbers. A section is itself a field of the settings.
-/
namespace BookTheme
open Json

inductive SourceField where
  | apiBase
  | owner
  | repo
  | filePath
  | gitRef
  | userAgent

inductive RetryField where
  | maxAttempts
  | delay

inductive InsertionField where
  | sidebarStyle
  | scrollboxEnd
  | tocStart
  | tocEnd
  | sidebarEnd

def Source.layout : Layout Source.record SourceField where
  Value _ := Text
  name
    | .apiBase => "api_base"
    | .owner => "owner"
    | .repo => "repo"
    | .filePath => "file_path"
    | .gitRef => "git_ref"
    | .userAgent => "user_agent"
  read _ := readText
  get
    | .apiBase, s => s.apiBase
    | .owner, s => s.owner
    | .repo, s => s.repo
    | .filePath, s => s.filePath
    | .gitRef, s => s.gitRef
    | .userAgent, s => s.userAgent
  set
    | .apiBase, s, a => { s with apiBase := a }
    | .owner, s, a => { s with owner := a }
    | .repo, s, a => { s with repo := a }
    | .filePath, s, a => { s with filePath := a }
    | .gitRef, s, a => { s with gitRef := a }
    | .userAgent, s, a => { s with userAgent := a }
  all := [.apiBase, .owner, .repo, .filePath, .gitRef, .userAgent]
  mem_all i := by cases i <;> simp
  members_eq := rfl
  name_inj {i j} h := by
    cases i <;> cases j <;> first | rfl | exact absurd h (by decide)
  get_set_self i _ _ := by cases i <;> rfl
  get_set_of_ne {i j} h _ _ := by
    cases i <;> cases j <;> first | rfl | exact absurd rfl h
  regular _ := regular_readText

def Retry.layout : Layout Retry.record RetryField where
  Value
    | .maxAttempts => UInt32
    | .delay => UInt64
  name
    | .maxAttempts => "max_attempts"
    | .delay => "delay_ms"
  read
    | .maxAttempts => mapped .ofNat (readNat (UInt32.size - 1) "u32")
    | .delay => mapped .ofNat (readNat (UInt64.size - 1) "u64")
  get
    | .maxAttempts, r => r.maxAttempts
    | .delay, r => r.delay
  set
    | .maxAttempts, r, n => { r with maxAttempts := n }
    | .delay, r, n => { r with delay := n }
  all := [.maxAttempts, .delay]
  mem_all i := by cases i <;> simp
  members_eq := by
    have hmapped : ∀ {α : Type} (f : Nat → α) (set : Retry → α → Retry) (read : Reader Nat),
        (fun (x : Retry) s => do
          let (n,s) ← read s
          return (set x (f n),s)) = fun x s => do
          let (a,s) ← mapped f read s
          return (set x a,s) := by
      intro α f set read
      funext x s
      simp only [mapped]
      cases read s <;> rfl
    have hattempts := hmapped UInt32.ofNat (fun x n => { x with maxAttempts := n }) (readNat (UInt32.size - 1) "u32")
    have hdelay := hmapped UInt64.ofNat (fun x n => { x with delay := n }) (readNat (UInt64.size - 1) "u64")
    exact congr (congrArg (fun f g => [Member.mk "max_attempts" f, Member.mk "delay_ms" g]) hattempts) hdelay
  name_inj {i j} h := by
    cases i <;> cases j <;> first | rfl | exact absurd h (by decide)
  get_set_self i _ _ := by cases i <;> rfl
  get_set_of_ne {i j} h _ _ := by
    cases i <;> cases j <;> first | rfl | exact absurd rfl h
  regular i := by cases i <;> exact regular_readNat.mapped _

def Template.Insertions.layout : Json.Layout Template.Insertions.record InsertionField where
  Value _ := Text
  name
    | .sidebarStyle => "sidebar_style"
    | .scrollboxEnd => "scrollbox_end"
    | .tocStart => "toc_start"
    | .tocEnd => "toc_end"
    | .sidebarEnd => "sidebar_end"
  read _ := readText
  get
    | .sidebarStyle, r => r.sidebarStyle
    | .scrollboxEnd, r => r.scrollboxEnd
    | .tocStart, r => r.tocStart
    | .tocEnd, r => r.tocEnd
    | .sidebarEnd, r => r.sidebarEnd
  set
    | .sidebarStyle, r, a => { r with sidebarStyle := a }
    | .scrollboxEnd, r, a => { r with scrollboxEnd := a }
    | .tocStart, r, a => { r with tocStart := a }
    | .tocEnd, r, a => { r with tocEnd := a }
    | .sidebarEnd, r, a => { r with sidebarEnd := a }
  all := [.sidebarStyle, .scrollboxEnd, .tocStart, .tocEnd, .sidebarEnd]
  mem_all i := by cases i <;> simp
  members_eq := rfl
  name_inj {i j} h := by
    cases i <;> cases j <;> first | rfl | exact absurd h (by decide)
  get_set_self i _ _ := by cases i <;> rfl
  get_set_of_ne {i j} h _ _ := by
    cases i <;> cases j <;> first | rfl | exact absurd rfl h
  regular _ := regular_readText

inductive Section where
  | source
  | retry
  | patch

namespace Section

def Part : Section → Type
  | source => Source
  | retry => Retry
  | patch => Template.Insertions

def Field : Section → Type
  | source => SourceField
  | retry => RetryField
  | patch => InsertionField

def record : (k : Section) → Record k.Part
  | source => Source.record
  | retry => Retry.record
  | patch => Template.Insertions.record

def layout : (k : Section) → Layout k.record k.Field
  | source => Source.layout
  | retry => Retry.layout
  | patch => Template.Insertions.layout

def part : (k : Section) → Settings → k.Part
  | source, s => s.source
  | retry, s => s.retry
  | patch, s => s.insertions

theorem complete_record (k : Section) : k.record.complete = false := by cases k <;> rfl

end Section

def Settings.layout : Layout Settings.record Section where
  Value := Section.Part
  name
    | .source => "source"
    | .retry => "retry"
    | .patch => "patch"
  read k := k.record.read
  get := Section.part
  set
    | .source, s, v => { s with source := v }
    | .retry, s, v => { s with retry := v }
    | .patch, s, v => { s with insertions := v }
  all := [.source, .retry, .patch]
  mem_all k := by cases k <;> simp
  members_eq := rfl
  name_inj {i j} h := by
    cases i <;> cases j <;> first | rfl | exact absurd h (by decide)
  get_set_self k _ _ := by cases k <;> rfl
  get_set_of_ne {i j} h _ _ := by
    cases i <;> cases j <;> first | rfl | exact absurd rfl h
  regular k := Record.regular_read k.layout.regular_record

/-- A section that is not given keeps the defaults. -/
theorem Section.part_start (k : Section) : k.part Settings.record.start = k.record.start := by cases k <;> rfl

end BookTheme
