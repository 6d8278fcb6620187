import BookTheme.Bytes.Utf8
import BookTheme.Files.OsError
import BookTheme.Files.Path

/-! # File trees

Directories and regular files, seen from a working directory. A location names a place by the steps that
lead to it from the root, the last one first. A path is followed step by step, and every step but the
last must lead into a directory that is there. What the last step means depends on what is asked: see
`read?`, `write?` and `makeDir?`. Each of them either changes one place or refuses and changes nothing.
-/
namespace BookTheme.Files

inductive Node where
  | directory
  | file (content : Bytes)
deriving DecidableEq, Repr

abbrev Location := List Text

structure Tree where
  entries : List (Location × Node)
  workingDir : Location
deriving DecidableEq

namespace Tree

def find? (l : Location) : List (Location × Node) → Option Node
  | [] => none
  | (k,node) :: rest => if k = l then some node else find? l rest

def insert (l : Location) (node : Node) : List (Location × Node) → List (Location × Node)
  | [] => [(l,node)]
  | (k,old) :: rest => if k = l then (k,node) :: rest else (k,old) :: insert l node rest

/-- What stands at a location. The root is always there. -/
def node? (t : Tree) (l : Location) : Option Node :=
  if l.isEmpty then some .directory else find? l t.entries

def put (t : Tree) (l : Location) (node : Node) : Tree := { t with entries := insert l node t.entries }

def maxNameBytes : Nat := 255

def maxPathBytes : Nat := 4095

def byteCount (s : Text) : Nat := (Utf8.encode s).length

def enter (t : Tree) (l : Location) : Step → Except OsError Location
  | .stay => .ok l
  | .up => .ok l.tail
  | .into name =>
    if maxNameBytes < byteCount name then .error .nameTooLong
    else
      match t.node? (name :: l) with
      | some .directory => .ok (name :: l)
      | some (.file _) => .error .notADirectory
      | none => .error .notFound

/-- Follow the steps of a path that is not empty. -/
def follow (t : Tree) (path : Text) : Except OsError (Location × Option Text) := do
  let steps := Path.steps path
  let dir ← steps.dropLast.foldlM t.enter (if Path.isAbsolute path then [] else t.workingDir)
  match steps.getLast? with
  | some (.into name) => .ok (dir,some name)
  | some step => (fun l => (l,none)) <$> t.enter dir step
  | none => .ok (dir,none)

/-- Where a path leads to: the directory of its last step, and the name that it steps into; `none` if the
path leads to the directory itself. -/
def locate (t : Tree) (path : Text) : Except OsError (Location × Option Text) :=
  if path.any (· = '\x00') then .error .nulInName
  else if maxPathBytes < byteCount path then .error .nameTooLong
  else if path.isEmpty then .error .notFound
  else t.follow path

def read? (t : Tree) (path : Text) : Except OsError Bytes := do
  match ← t.locate path with
  | (_,none) => .error .isADirectory
  | (dir,some name) =>
    if maxNameBytes < byteCount name then .error .nameTooLong
    else
      match t.node? (name :: dir) with
      | none => .error .notFound
      | some .directory => .error .isADirectory
      | some (.file content) =>
        if Path.endsInSlash path then .error .notADirectory else .ok content

/-- The tree after a file was written. A slash at the end asks for a directory, even if there is none. -/
def write? (t : Tree) (path : Text) (content : Bytes) : Except OsError Tree := do
  match ← t.locate path with
  | (_,none) => .error .isADirectory
  | (dir,some name) =>
    if Path.endsInSlash path then .error .isADirectory
    else if maxNameBytes < byteCount name then .error .nameTooLong
    else if t.node? (name :: dir) = some .directory then .error .isADirectory
    else .ok (t.put (name :: dir) (.file content))

def makeDir? (t : Tree) (path : Text) : Except OsError Tree := do
  match ← t.locate path with
  | (_,none) => .error .alreadyExists
  | (dir,some name) =>
    if maxNameBytes < byteCount name then .error .nameTooLong
    else if (t.node? (name :: dir)).isSome then .error .alreadyExists
    else .ok (t.put (name :: dir) .directory)

def isDir (t : Tree) (path : Text) : Bool :=
  match t.locate path with
  | .ok (_,none) => true
  | .ok (dir,some name) => t.node? (name :: dir) = some .directory
  | .error _ => false

def without (t : Tree) (l : Location) : Tree :=
  { t with entries := t.entries.filter fun e => !l.isSuffixOf e.1 }

/-- The tree without a file, or without a directory and all that is below it. -/
def remove? (t : Tree) (path : Text) : Except OsError Tree := do
  match ← t.locate path with
  | (_,none) => .error .isADirectory
  | (dir,some name) =>
    match t.node? (name :: dir) with
    | none => .error .notFound
    | some .directory => .ok (t.without (name :: dir))
    | some (.file _) =>
      if Path.endsInSlash path then .error .notADirectory else .ok (t.without (name :: dir))

@[simp] theorem find?_insert_self (l : Location) (node : Node) (es : List (Location × Node)) :
    find? l (insert l node es) = some node := by
  induction es with
  | nil => simp [insert, find?]
  | cons e es ih =>
    obtain ⟨k,old⟩ := e
    by_cases h : k = l <;> simp [insert, find?, h, ih]

theorem find?_insert_of_ne {k l : Location} (node : Node) (es : List (Location × Node)) (h : l ≠ k) :
    find? k (insert l node es) = find? k es := by
  induction es with
  | nil => simp [insert, find?, h]
  | cons e es ih =>
    obtain ⟨j,old⟩ := e
    by_cases hl : j = l
    · simp [insert, find?, hl, h]
    · by_cases hk : j = k
      · subst hk
        simp [insert, find?, hl]
      · simp [insert, find?, hl, hk, ih]

theorem insert_eq_self {l : Location} {node : Node} {es : List (Location × Node)}
    (h : find? l es = some node) : insert l node es = es := by
  induction es with
  | nil => simp [find?] at h
  | cons e es ih =>
    obtain ⟨k,old⟩ := e
    by_cases hl : k = l
    · simp only [find?, hl, if_true, Option.some.injEq] at h
      simp [insert, hl, h]
    · simp only [find?, hl, if_false] at h
      simp [insert, hl, ih h]

end Tree
end BookTheme.Files
