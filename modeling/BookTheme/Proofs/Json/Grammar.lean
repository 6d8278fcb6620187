import BookTheme.Decimal.Numeral
import BookTheme.Json.Error

/-! # How JSON is written

The forms of JSON as relations between what is meant and the bytes that say it, without any regard to how
they are read. A text can be written in many ways, as each of its characters can be escaped; there may be
space around every value, name, comma and colon; and an object lists its members in some order, names
repeated or not.

As in the readers, 22 is a quote, 2C a comma, 3A a colon, 5B and 5D are brackets, 5C is the backslash, and 7B
and 7D are braces.
-/
namespace BookTheme.Json

def Blank (b : UInt8) : Prop := b = 0x20 ∨ b = 0x09 ∨ b = 0x0A ∨ b = 0x0D

instance : DecidablePred Blank := fun _ => inferInstanceAs (Decidable (_ ∨ _))

def Space (ws : Bytes) : Prop := ∀ b ∈ ws, Blank b

def HexDigit (d : Nat) (b : UInt8) : Prop :=
  d < 10 ∧ b.toNat = 0x30 + d ∨ 10 ≤ d ∧ d < 16 ∧ (b.toNat = 0x37 + d ∨ b.toNat = 0x57 + d)

inductive Hex : Nat → Bytes → Prop
  | digits {p q r s : Nat} {a b c d : UInt8} (hp : HexDigit p a) (hq : HexDigit q b) (hr : HexDigit r c)
      (hs : HexDigit s d) : Hex (((p * 16 + q) * 16 + r) * 16 + s) [a, b, c, d]

def shortEscapes : List (UInt8 × Char) :=
  [(0x22,'"'), (0x5C,'\\'), (0x2F,'/'), (0x62,'\x08'), (0x66,'\x0c'), (0x6E,'\n'), (0x72,'\r'),
    (0x74,'\t')]

/-- The ways to write a character: as it is, with a letter of its own, by its number, or, if that has more
than four digits, by a pair of surrogates. -/
inductive CharForm : Char → Bytes → Prop
  | plain {c : Char} (hc : 0x20 ≤ c.toNat) (hq : c ≠ '"') (hb : c ≠ '\\') : CharForm c (String.utf8EncodeChar c)
  | short {c : Char} {letter : UInt8} (h : (letter,c) ∈ shortEscapes) : CharForm c [0x5C, letter]
  | number {c : Char} {digits : Bytes} (h : Hex c.toNat digits) : CharForm c (0x5C :: 0x75 :: digits)
  | pair {c : Char} {high low : Nat} {first second : Bytes} (hf : Hex high first) (hs : Hex low second)
      (hh : 0xD800 ≤ high ∧ high ≤ 0xDBFF) (hl : 0xDC00 ≤ low ∧ low ≤ 0xDFFF)
      (hc : c.toNat = 0x10000 + (high - 0xD800) * 0x400 + (low - 0xDC00)) :
      CharForm c (0x5C :: 0x75 :: first ++ 0x5C :: 0x75 :: second)

inductive TextForm : Text → Bytes → Prop
  | nil : TextForm [] []
  | cons {c : Char} {s : Text} {b bytes : Bytes} (hc : CharForm c b) (hs : TextForm s bytes) :
      TextForm (c :: s) (b ++ bytes)

inductive Quoted (s : Text) : Bytes → Prop
  | quoted {bytes : Bytes} (h : TextForm s bytes) : Quoted s (0x22 :: bytes ++ [0x22])

def Digits (ds : Bytes) : Prop := ds ≠ [] ∧ ∀ b ∈ ds, 0x30 ≤ b ∧ b ≤ 0x39

/-- The parts of a number: the sign, the digits without a leading zero, the fraction and the exponent. -/
inductive IsNumber : Bytes → Prop
  | parts {sign whole fraction exponent : Bytes} (hs : sign = [] ∨ sign = [0x2D]) (hw : Digits whole)
      (hz : whole.head? = some 0x30 → whole = [0x30])
      (hf : fraction = [] ∨ ∃ ds, Digits ds ∧ fraction = 0x2E :: ds)
      (he : exponent = [] ∨ ∃ letter mark ds, (letter = 0x65 ∨ letter = 0x45) ∧
        (mark = [] ∨ mark = [0x2B] ∨ mark = [0x2D]) ∧ Digits ds ∧ exponent = letter :: (mark ++ ds)) :
      IsNumber (sign ++ (whole ++ (fraction ++ exponent)))

def natural (n : Nat) : Bytes := Utf8.encode (Decimal.numeral n)

inductive Elements : List Bytes → Bytes → Prop
  | last {u v w : Bytes} (hu : Space u) (hw : Space w) : Elements [v] (u ++ (v ++ w))
  | more {u v w bytes : Bytes} {vs : List Bytes} (hu : Space u) (hw : Space w) (h : Elements vs bytes) :
      Elements (v :: vs) (u ++ (v ++ (w ++ 0x2C :: bytes)))

inductive ListOf : List Bytes → Bytes → Prop
  | empty {ws : Bytes} (hw : Space ws) : ListOf [] (0x5B :: ws ++ [0x5D])
  | elements {vs : List Bytes} {bytes : Bytes} (h : Elements vs bytes) : ListOf vs (0x5B :: bytes ++ [0x5D])

inductive Entry (name : Text) (v : Bytes) : Bytes → Prop
  | entry {t u w x key : Bytes} (ht : Space t) (hk : Quoted name key) (hu : Space u) (hw : Space w)
      (hx : Space x) : Entry name v (t ++ (key ++ (u ++ 0x3A :: (w ++ (v ++ x)))))

inductive Entries : List (Text × Bytes) → Bytes → Prop
  | last {name : Text} {v bytes : Bytes} (h : Entry name v bytes) : Entries [(name,v)] bytes
  | more {name : Text} {v b bytes : Bytes} {ms : List (Text × Bytes)} (h : Entry name v b)
      (hs : Entries ms bytes) : Entries ((name,v) :: ms) (b ++ 0x2C :: bytes)

inductive ObjectOf : List (Text × Bytes) → Bytes → Prop
  | empty {ws : Bytes} (hw : Space ws) : ObjectOf [] (0x7B :: ws ++ [0x7D])
  | entries {ms : List (Text × Bytes)} {bytes : Bytes} (h : Entries ms bytes) :
      ObjectOf ms (0x7B :: bytes ++ [0x7D])

inductive IsValue : Bytes → Prop
  | null : IsValue [0x6E, 0x75, 0x6C, 0x6C]
  | true : IsValue [0x74, 0x72, 0x75, 0x65]
  | false : IsValue [0x66, 0x61, 0x6C, 0x73, 0x65]
  | number {v : Bytes} (h : IsNumber v) : IsValue v
  | text {s : Text} {v : Bytes} (h : Quoted s v) : IsValue v
  | list {vs : List Bytes} {v : Bytes} (h : ListOf vs v) (hvs : ∀ w ∈ vs, IsValue w) : IsValue v
  | object {ms : List (Text × Bytes)} {v : Bytes} (h : ObjectOf ms v) (hms : ∀ m ∈ ms, IsValue m.2) : IsValue v

/-- What may follow a value: space, a comma, the end of a list or an object, or nothing. -/
def Stops (rest : Bytes) : Prop :=
  ∀ b, rest.head? = some b → Blank b ∨ b = 0x2C ∨ b = 0x5D ∨ b = 0x7D

/-! ## A plain way to write -/

def Plain (s : Text) : Prop := ∀ c ∈ s, 0x20 ≤ c.toNat ∧ c ≠ '"' ∧ c ≠ '\\'

instance (s : Text) : Decidable (Plain s) := List.decidableBAll _ s

theorem Plain.form {s : Text} (h : Plain s) : TextForm s (Utf8.encode s) := by
  induction s with
  | nil => exact .nil
  | cons c s ih =>
    obtain ⟨hc,hq,hb⟩ := h c List.mem_cons_self
    rw [Utf8.encode_cons]
    exact .cons (.plain hc hq hb) (ih fun d hd => h d (List.mem_cons_of_mem _ hd))

def plainQuoted (s : Text) : Bytes := 0x22 :: Utf8.encode s ++ [0x22]

theorem Plain.quoted {s : Text} (h : Plain s) : Quoted s (plainQuoted s) := .quoted h.form

def plainEntries : List (Text × Bytes) → Bytes
  | [] => []
  | [m] => plainQuoted m.1 ++ 0x3A :: m.2
  | m :: ms => plainQuoted m.1 ++ 0x3A :: m.2 ++ 0x2C :: plainEntries ms

def plainObject (ms : List (Text × Bytes)) : Bytes := 0x7B :: plainEntries ms ++ [0x7D]

theorem objectOf_plain {ms : List (Text × Bytes)} (h : ∀ m ∈ ms, Plain m.1) : ObjectOf ms (plainObject ms) := by
  have hspace : Space [] := by simp [Space]
  have hentry : ∀ m : Text × Bytes, Plain m.1 → Entry m.1 m.2 (plainQuoted m.1 ++ 0x3A :: m.2) := by
    intro m hm
    have he := Entry.entry (v := m.2) hspace hm.quoted hspace hspace hspace
    simpa only [List.nil_append, List.append_nil] using he
  have hentries : ms ≠ [] → Entries ms (plainEntries ms) := by
    intro hne
    fun_induction plainEntries ms with
    | case1 => exact absurd rfl hne
    | case2 m => exact .last (hentry m (h m List.mem_cons_self))
    | case3 m ms hms ih =>
      have hne : ms ≠ [] := by
        rintro rfl
        exact hms rfl
      exact .more (hentry m (h m List.mem_cons_self)) (ih (fun n hn => h n (List.mem_cons_of_mem _ hn)) hne)
  cases ms with
  | nil => exact .empty hspace
  | cons m ms => exact .entries (hentries (by simp))

end BookTheme.Json
