import BookTheme.Decimal.Numeral

/-! # Options of the command line

What a command line can set, and how the options are called. A slot takes a value, a switch takes none; the
target is the one slot that has no name. Asking for help or for the version ends the reading of a
command line.
-/
namespace BookTheme.CommandLine

structure Options where
  target : Option Text
  config : Option Text
  apiBase : Option Text
  attempts : Option UInt32
  retryDelay : Option UInt64
  check : Bool
  verbose : Bool
deriving DecidableEq

def Options.unset : Options := ⟨none,none,none,none,none,false,false⟩

inductive Slot where
  | target
  | config
  | apiBase
  | attempts
  | retryDelay
deriving DecidableEq, Repr

inductive Switch where
  | check
  | verbose
  | help
  | version
deriving DecidableEq, Repr

inductive Item where
  | slot (slot : Slot)
  | switch (switch : Switch)
deriving DecidableEq, Repr

/-- The items by the names that follow two dashes. -/
def names : List (String × Item) :=
  [("config",.slot .config), ("api-base",.slot .apiBase), ("attempts",.slot .attempts),
    ("retry-delay-ms",.slot .retryDelay), ("check",.switch .check),
    ("verbose",.switch .verbose), ("help",.switch .help), ("version",.switch .version)]

def Item.ofName? (name : Text) : Option Item :=
  (names.find? fun entry => entry.1.toList = name).map (·.2)

def Item.ofLetter? (c : Char) : Option Switch :=
  if c = 'h' then some .help else if c = 'V' then some .version else none

def Item.display : Item → String
  | .slot .target => "[TARGET]"
  | .slot .config => "--config <PATH>"
  | .slot .apiBase => "--api-base <URL>"
  | .slot .attempts => "--attempts <N>"
  | .slot .retryDelay => "--retry-delay-ms <MS>"
  | .switch .check => "--check"
  | .switch .verbose => "--verbose"
  | .switch .help => "--help"
  | .switch .version => "--version"

def Options.has (o : Options) : Item → Bool
  | .slot .target => o.target.isSome
  | .slot .config => o.config.isSome
  | .slot .apiBase => o.apiBase.isSome
  | .slot .attempts => o.attempts.isSome
  | .slot .retryDelay => o.retryDelay.isSome
  | .switch .check => o.check
  | .switch .verbose => o.verbose
  | .switch .help => false
  | .switch .version => false

end BookTheme.CommandLine
