import BookTheme.Text.Quoted
import BookTheme.Settings.Basic

/-! # Which settings can be used

The base of the address must be an http address, the parts of the address and the user agent must hold
more than blanks, and there must be an attempt. The first of these that fails, in this order, is
reported.
-/
namespace BookTheme

/-- The texts that must not be blank. -/
inductive Required where
  | owner
  | repo
  | filePath
  | gitRef
  | userAgent
deriving DecidableEq, Repr

namespace Required

def all : List Required := [owner, repo, filePath, gitRef, userAgent]

def name : Required → String
  | owner => "source.owner"
  | repo => "source.repo"
  | filePath => "source.file_path"
  | gitRef => "source.git_ref"
  | userAgent => "source.user_agent"

def value (s : Source) : Required → Text
  | owner => s.owner
  | repo => s.repo
  | filePath => s.filePath
  | gitRef => s.gitRef
  | userAgent => s.userAgent

end Required

inductive Violation where
  | notHttp (apiBase : Text)
  | blank (setting : Required)
  | noAttempts
deriving DecidableEq

def Violation.message : Violation → String
  | .notHttp apiBase => "source.api_base must be an http(s) URL (got " ++ apiBase.quoted ++ ")"
  | .blank setting => setting.name ++ " must be non-empty"
  | .noAttempts => "retry.max_attempts must be at least 1"

def isHttp (address : Text) : Bool :=
  "https://".toList.isPrefixOf address || "http://".toList.isPrefixOf address

def Settings.violation? (s : Settings) : Option Violation :=
  if !isHttp s.source.apiBase then some (.notHttp s.source.apiBase)
  else
    match Required.all.find? fun r => (r.value s.source).trim.isEmpty with
    | some r => some (.blank r)
    | none => if s.retry.maxAttempts = 0 then some .noAttempts else none

end BookTheme
