import BookTheme.CommandLine.Refusal

/-! # Reading a command line

The arguments are read from left to right, and the first that cannot be read refuses the whole. A value
follows its option after an equals sign or as the next argument, but then it must not begin with a
dash, unless it is a dash alone. Two dashes end the options.

A value is taken when it comes and looked at when the next argument that can be read begins, or at the
end; so what cannot be read at all is reported before the value in front of it.
-/
namespace BookTheme.CommandLine

/-- How far the reading has come: what is set, and the slot whose value is awaited or not yet looked at. -/
structure Reading where
  options : Options
  pending : Option (Slot × Option Text)
deriving DecidableEq

namespace Reading

def start : Reading := ⟨.unset,none⟩

def attempts? (value : Text) : Except BadNumber UInt32 :=
  match Decimal.readInt (UInt64.size / 2 - 1) value with
  | .error fault => .error (.numeral fault)
  | .ok n => if 0 ≤ n ∧ n ≤ maxAttempts then .ok (.ofNat n.toNat) else .error (.notInRange n)

def retryDelay? (value : Text) : Except BadNumber UInt64 :=
  match Decimal.readNat (UInt64.size - 1) value with
  | .error fault => .error (.numeral fault)
  | .ok n => .ok (.ofNat n)

def assign (o : Options) (slot : Slot) (value : Text) : Except Refusal Options :=
  if o.has (.slot slot) then .error (.repeated (.slot slot))
  else
    match slot with
    | .target => if value.isEmpty then .error (.noValue slot) else .ok { o with target := some value }
    | .config => if value.isEmpty then .error (.noValue slot) else .ok { o with config := some value }
    | .apiBase => .ok { o with apiBase := some value }
    | .attempts =>
      match attempts? value with
      | .ok n => .ok { o with attempts := some n }
      | .error reason => .error (.badNumber slot value reason)
    | .retryDelay =>
      match retryDelay? value with
      | .ok n => .ok { o with retryDelay := some n }
      | .error reason => .error (.badNumber slot value reason)

def settle (r : Reading) : Except Refusal Options :=
  match r.pending with
  | none => .ok r.options
  | some (slot,none) => .error (.noValue slot)
  | some (slot,some value) => assign r.options slot value

def turnOn (o : Options) (switch : Switch) : Except Refusal Options :=
  if o.has (.switch switch) then .error (.repeated (.switch switch))
  else
    match switch with
    | .check => .ok { o with check := true }
    | .verbose => .ok { o with verbose := true }
    | .help => .error .help
    | .version => .error .version

/-- Whether the target has been given, looked at or not. -/
def hasTarget (r : Reading) : Bool :=
  r.options.target.isSome || r.pending.any fun p => p.1 = .target

def readTarget (r : Reading) (argument : Text) : Except Refusal Reading :=
  if r.hasTarget then .error (.unknownArgument argument)
  else (⟨·,some (.target,some argument)⟩) <$> r.settle

def nameAndValue (s : Text) : Text × Option Text :=
  (s.takeWhile (· ≠ '='),match s.dropWhile (· ≠ '=') with
    | [] => none
    | _ :: value => some value)

def readNamed (r : Reading) (s : Text) : Except Refusal Reading :=
  let (name,value?) := nameAndValue s
  match Item.ofName? name, value? with
  | some (.slot slot), some value => do return ⟨← assign (← r.settle) slot value,none⟩
  | some (.slot slot), none => do return ⟨← r.settle,some (slot,none)⟩
  | some (.switch switch), none => do return ⟨← turnOn (← r.settle) switch,none⟩
  | some (.switch switch), some value => .error (.valueForSwitch switch value)
  | none, _ => .error (.unknownArgument ('-' :: '-' :: name))

/-- The first letter behind a single dash; each that means something ends the reading. -/
def readLetter (r : Reading) (c : Char) : Except Refusal Reading :=
  match Item.ofLetter? c with
  | some switch => do return ⟨← turnOn (← r.settle) switch,none⟩
  | none => .error (.unknownArgument ['-', c])

def readPlain (r : Reading) (argument : Text) : Except Refusal Reading :=
  match r.pending with
  | some (slot,none) => .ok { r with pending := some (slot,some argument) }
  | _ => r.readTarget argument

def readAll : Reading → List Text → Except Refusal Options
  | r, [] => r.settle
  | r, argument :: rest => do
    match argument with
    | ['-', '-'] => (← rest.foldlM readTarget r).settle
    | '-' :: '-' :: s => (← r.readNamed s).readAll rest
    | '-' :: c :: _ => (← r.readLetter c).readAll rest
    | argument => (← r.readPlain argument).readAll rest

end Reading

def parse (arguments : List Text) : Except Refusal Options := Reading.start.readAll arguments

end BookTheme.CommandLine
