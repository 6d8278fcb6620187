import BookTheme.Bytes.Utf8

/-! # Control sequences

What is left of a text without its control characters and control sequences. Tabs, line feeds, form feeds
and carriage returns are kept: they set out the text.

A sequence begins with an escape, and what comes next says where it ends: a bracket begins parameters,
which end with a letter or another sign from the second half of ASCII; a closing bracket begins a command,
which a bell ends; the letter `X` and the signs `^` and `_` begin a string, and the letter `P` begins
parameters with a string behind them. A new escape, cancel or substitute ends every sequence, and so
does, outside commands, strings and their parameters, a control that is kept. Where a text is printed,
though, such a control only interrupts the sequence: what stands behind it is kept, until the next control
that is not kept, with which the sequence goes on, unless a character beyond ASCII has ended it.

A string ends with the byte 9C. Strings are read byte by byte, so it counts also where it is part of a
character, and that character is lost with the string.
-/
namespace BookTheme.Text

inductive Sequence where
  | outside
  | escape
  /-- Behind an escape and signs that do not end the sequence. -/
  | escapeSigns
  | parameters
  | command
  | stringStart
  | stringParameters
  /-- Behind the parameters of a string and signs that do not begin the string. -/
  | stringSigns
  | string
deriving DecidableEq, Repr

def setsOut (c : Char) : Bool := c = '\t' || c = '\n' || c = '\x0c' || c = '\r'

def isControl (c : Char) : Bool := c.toNat < 0x20 || c = '\x7f'

/-- Whether the byte 9C is one of those that a character is written with. -/
def endsString (c : Char) : Bool := 0x9C ∈ String.utf8EncodeChar c

namespace Sequence

def afterEscape (c : Char) : Sequence :=
  if c = '[' then parameters
  else if c = ']' then command
  else if c = 'P' then stringStart
  else if c = 'X' || c = '^' || c = '_' then string
  else if c.toNat < 0x30 then escapeSigns
  else if c.toNat < 0x7F then outside
  else escape

def readSign (c : Char) : Sequence → Sequence
  | outside => outside
  | escape => afterEscape c
  | escapeSigns => if 0x30 ≤ c.toNat ∧ c.toNat < 0x7F then outside else escapeSigns
  | parameters => if 0x40 ≤ c.toNat ∧ c.toNat < 0x7F then outside else parameters
  | command => command
  | stringStart =>
    if c.toNat < 0x30 then stringSigns
    else if c.toNat < 0x40 then stringParameters
    else if c.toNat < 0x7F then string
    else stringStart
  | stringParameters =>
    if c.toNat < 0x30 then stringSigns
    else if c.toNat < 0x3C then stringParameters
    else if c.toNat < 0x7F then string
    else stringParameters
  | stringSigns => if 0x30 ≤ c.toNat ∧ c.toNat < 0x7F then string else stringSigns
  | string => if endsString c then outside else string

def readControl (c : Char) (q : Sequence) : Sequence :=
  if c = '\x1b' then escape
  else if c = '\x18' || c = '\x1a' then outside
  else if c = '\x07' && q = command then outside
  else q

/-- Whether a character that sets out text is part of the sequence. -/
def holdsText : Sequence → Bool
  | outside | escape | escapeSigns | parameters => false
  | command | stringStart | stringParameters | stringSigns | string => true

def step (q : Sequence) (c : Char) : Sequence × Bool :=
  if setsOut c && !q.holdsText then (outside,true)
  else if isControl c then (q.readControl c,false)
  else (q.readSign c,q = outside)

end Sequence

def visibleFrom : Sequence → Text → Text
  | _, [] => []
  | q, c :: rest =>
    match q.step c with
    | (next,true) => c :: visibleFrom next rest
    | (next,false) => visibleFrom next rest

def visible (s : Text) : Text := visibleFrom .outside s

/-- Where a reader of a text that is printed stands: in a sequence, perhaps where it is interrupted. -/
structure PrintedSequence where
  sequence : Sequence
  interrupted : Bool
deriving DecidableEq, Repr

def PrintedSequence.step (q : PrintedSequence) (c : Char) : PrintedSequence × Bool :=
  if setsOut c && !q.sequence.holdsText then (⟨q.sequence,true⟩,true)
  else if isControl c then (⟨q.sequence.readControl c,false⟩,false)
  else if q.interrupted then (⟨if c.toNat < 0x80 then q.sequence else .outside,true⟩,true)
  else (⟨q.sequence.readSign c,false⟩,q.sequence = .outside)

def printedFrom : PrintedSequence → Text → Text
  | _, [] => []
  | q, c :: rest =>
    match q.step c with
    | (next,true) => c :: printedFrom next rest
    | (next,false) => printedFrom next rest

def printed (s : Text) : Text := printedFrom ⟨.outside,false⟩ s

/-- Only controls that set out text are kept in different places. -/
theorem printed_eq_visible {s : Text} (h : ∀ c ∈ s, setsOut c = false) : printed s = visible s := by
  suffices ∀ q, printedFrom ⟨q,false⟩ s = visibleFrom q s from this .outside
  induction s with
  | nil => intro q; rfl
  | cons c s ih =>
    intro q
    have hs := ih fun d hd => h d (List.mem_cons_of_mem c hd)
    have hc := h c List.mem_cons_self
    by_cases hk : isControl c = true
    · simp [printedFrom, visibleFrom, PrintedSequence.step, Sequence.step, hc, hk, hs]
    · by_cases hq : q = .outside <;>
        simp [printedFrom, visibleFrom, PrintedSequence.step, Sequence.step, hc, hk, hq, hs]

end BookTheme.Text
