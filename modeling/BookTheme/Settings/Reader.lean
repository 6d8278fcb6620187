import BookTheme.Json.Record
import BookTheme.Settings.Basic

/-! # Settings from JSON

A document names the settings that differ from their defaults. Names that are no settings are refused, and
so are repeated ones and numbers that do not fit.
-/
namespace BookTheme
open Json

def textMember {σ : Type} (name : String) (set : σ → Text → σ) : Member σ :=
  ⟨name,fun value s => do
    let (text,s) ← readText s
    return (set value text,s)⟩

def recordMember {σ τ : Type} (name : String) (r : Record τ) (set : σ → τ → σ) : Member σ :=
  ⟨name,fun value s => do
    let (part,s) ← r.read s
    return (set value part,s)⟩

def Source.record : Record Source where
  title := "struct SourceConfig"
  start := Default.source
  members := [
    textMember "api_base" fun r s => { r with apiBase := s },
    textMember "owner" fun r s => { r with owner := s },
    textMember "repo" fun r s => { r with repo := s },
    textMember "file_path" fun r s => { r with filePath := s },
    textMember "git_ref" fun r s => { r with gitRef := s },
    textMember "user_agent" fun r s => { r with userAgent := s }]
  complete := false

def Retry.record : Record Retry where
  title := "struct RetryConfig"
  start := Default.retry
  members := [
    ⟨"max_attempts",fun r s => do
      let (n,s) ← readNat (UInt32.size - 1) "u32" s
      return ({ r with maxAttempts := .ofNat n },s)⟩,
    ⟨"delay_ms",fun r s => do
      let (n,s) ← readNat (UInt64.size - 1) "u64" s
      return ({ r with delay := .ofNat n },s)⟩]
  complete := false

def Template.Insertions.record : Record Template.Insertions where
  title := "struct PatchConfig"
  start := Default.insertions
  members := [
    textMember "sidebar_style" fun r s => { r with sidebarStyle := s },
    textMember "scrollbox_end" fun r s => { r with scrollboxEnd := s },
    textMember "toc_start" fun r s => { r with tocStart := s },
    textMember "toc_end" fun r s => { r with tocEnd := s },
    textMember "sidebar_end" fun r s => { r with sidebarEnd := s }]
  complete := false

def Settings.record : Record Settings where
  title := "struct ThemeConfig"
  start := Default.settings
  members := [
    recordMember "source" Source.record fun r v => { r with source := v },
    recordMember "retry" Retry.record fun r v => { r with retry := v },
    recordMember "patch" Template.Insertions.record fun r v => { r with insertions := v }]
  complete := false

def Settings.parse (bytes : Bytes) : Except Json.Error Settings := Settings.record.parse bytes

end BookTheme
