import ResolverWatch.Text.Quoted

/-!
# Files

A `Storage` is a tree of directories and files, written as a table of places. A place is the list of
names that lead to it from the root, which is always a directory. Programs run in one of the
directories, have a home directory, and know those of other users.

All files are regular ones: links and permissions are left out. The standard output of a program may stand at
a place like a file, to which bytes can be appended (`Machine.output`).
-/

namespace ResolverWatch

/-- The names that lead to a file or a directory from the root. -/
abbrev Place := List String

/-- What is at a place. -/
inductive Storage.Entry
  | file (bytes : List UInt8)
  | directory
  deriving DecidableEq, Repr

/-- Files and directories, the directory that relative paths start from, the home directory, and the home
directories of users by their names. -/
structure Storage where
  entries : List (Place × Storage.Entry)
  work : Place
  home : Place
  homes : List (String × Place)
  deriving DecidableEq, Repr

/-- Why a file operation fails. -/
inductive Storage.Fault
  | missing
  | exists
  | notDirectory
  | isDirectory
  | nameTooLong
  | nulInPath
  deriving DecidableEq, Repr

namespace Storage

/-- The number and the wording of a fault of the file system. -/
def Fault.reason? : Fault → Option (Nat × String)
  | .missing => some (2, "No such file or directory")
  | .exists => some (17, "File exists")
  | .notDirectory => some (20, "Not a directory")
  | .isDirectory => some (21, "Is a directory")
  | .nameTooLong => some (36, "File name too long")
  | .nulInPath => none

/-- The wording of a fault that concerns a path. A path that is none is no matter of the file
system. -/
def Fault.message (path : String) (f : Fault) : String :=
  match f.reason? with
  | some (number, reason) =>
    let shown := String.ofList (Text.quoted path.toList)
    s!"[Errno {number}] {reason}: {shown}"
  | none => "embedded null byte"

/-- What is at a place. -/
def get? (s : Storage) (p : Place) : Option Entry :=
  if p.isEmpty then some .directory else s.entries.lookup p

/-- Puts an entry at a place. -/
def put (s : Storage) (p : Place) (e : Entry) : Storage :=
  { s with entries := putIn s.entries }
where
  /-- The table with the entry in the place of an earlier one. -/
  putIn : List (Place × Entry) → List (Place × Entry)
    | [] => [(p, e)]
    | (q, d) :: rest => if q = p then (p, e) :: rest else (q, d) :: putIn rest

/-- The bytes of the file at a place. -/
def bytes? (s : Storage) (p : Place) : Option (List UInt8) :=
  match s.get? p with
  | some (.file bytes) => some bytes
  | _ => none

/-- The bytes of the file at a place, none where there is no file. -/
def content (s : Storage) (p : Place) : List UInt8 :=
  (s.bytes? p).getD []

/-- The names in a path, with an empty one for each slash that none precedes. -/
def names (path : String) : List String :=
  (splitSlashes path.toList).map String.ofList
where
  /-- The pieces of a path between slashes. -/
  splitSlashes : List Char → List (List Char)
    | [] => [[]]
    | c :: cs =>
      if c = '/' then [] :: splitSlashes cs
      else match splitSlashes cs with
        | [] => [[c]]
        | n :: ns => (c :: n) :: ns

/-- The path starts from the root. -/
def isAbsolute (path : String) : Bool :=
  path.toList.head? = some '/'

/-- The directory that a path starts from. -/
def origin (s : Storage) (path : String) : Place :=
  if isAbsolute path then [] else s.work

/-- A name may have this many bytes. -/
def longestName : Nat :=
  255

/-- Why there can be no entry of a given name. -/
def nameFault? (name : String) : Option Fault :=
  if name.toList.contains '\x00' then some .nulInPath
  else if longestName < name.utf8ByteSize then some .nameTooLong
  else none

/-- Follows names from a place. Every place on the way has to be a directory, also before a name that
leads nowhere else. -/
def follow (s : Storage) : Place → List String → Except Fault Place
  | here, [] => .ok here
  | here, name :: rest =>
    match s.get? here with
    | none => .error .missing
    | some (.file _) => .error .notDirectory
    | some .directory =>
      if name = "" ∨ name = "." then follow s here rest
      else if name = ".." then follow s here.dropLast rest
      else match nameFault? name with
        | some f => .error f
        | none => follow s (here ++ [name]) rest

/-- The bytes of the file that a path leads to. -/
def read (s : Storage) (path : String) : Except Fault (List UInt8) := do
  if path.toList.contains '\x00' then throw .nulInPath
  if path.isEmpty then throw .missing
  match s.get? (← s.follow (s.origin path) (names path)) with
  | some (.file bytes) => return bytes
  | some .directory => throw .isDirectory
  | none => throw .missing

/-- The place that a path means by its names alone: two dots take back the name before them. -/
def absolute (s : Storage) (path : String) : Place :=
  (names path).foldl (fun here name =>
    if name = "" ∨ name = "." then here else if name = ".." then here.dropLast else here ++ [name])
    (s.origin path)

/-- The home directory of a user; no name means the user of the program. -/
def home? (s : Storage) (user : String) : Option Place :=
  if user.isEmpty then some s.home else s.homes.lookup user

/-- The place that a path means when a tilde and a name at its start stand for a home directory. A name that no
user has stands for itself, with the tilde. -/
def expanded (s : Storage) (path : String) : Place :=
  match path.toList with
  | '~' :: rest =>
    match s.home? (String.ofList (rest.takeWhile (· ≠ '/'))) with
    | some home => { s with work := home }.absolute (String.ofList ('.' :: rest.dropWhile (· ≠ '/')))
    | none => s.absolute path
  | _ => s.absolute path

/-- Makes the directory `here` followed by names, and all directories on the way that are missing.
What was made before a fault stays. -/
def makeFrom (s : Storage) : Place → List String → Storage × Option Fault
  | _, [] => (s, none)
  | here, name :: rest =>
    let there := here ++ [name]
    match s.get? there, nameFault? name with
    | some .directory, _ => makeFrom s there rest
    | some (.file _), _ => (s, some (if rest.isEmpty then .exists else .notDirectory))
    | none, some f => (s, some f)
    | none, none => makeFrom (s.put there .directory) there rest

/-- Makes a directory and those on the way to it. -/
def makeDirectories (s : Storage) (p : Place) : Storage × Option Fault :=
  s.makeFrom [] p

/-- Makes sure that there is a file at a place, whose directory exists. -/
def touch (s : Storage) (p : Place) : Except Fault Storage :=
  match s.get? p with
  | some (.file _) => .ok s
  | some .directory => .error .isDirectory
  | none =>
    match p.getLast?.bind nameFault? with
    | some f => .error f
    | none => .ok (s.put p (.file []))

/-- Appends bytes to the file at a place. -/
def append (s : Storage) (p : Place) (bytes : List UInt8) : Storage :=
  s.put p (.file (s.content p ++ bytes))

theorem lookup_putIn_self (p : Place) (e : Entry) (entries : List (Place × Entry)) :
    (put.putIn p e entries).lookup p = some e := by
  induction entries with
  | nil => simp [put.putIn]
  | cons d rest ih =>
    obtain ⟨q, d⟩ := d
    unfold put.putIn
    split
    · simp
    · next other =>
      have unequal : (p == q) = false := by simpa using fun same => other same.symm
      simpa [List.lookup_cons, unequal] using ih

theorem lookup_putIn_of_ne {p q : Place} (other : q ≠ p) (e : Entry) (entries : List (Place × Entry)) :
    (put.putIn p e entries).lookup q = entries.lookup q := by
  have unequal : (q == p) = false := by simpa using other
  induction entries with
  | nil => simp [put.putIn, List.lookup_cons, unequal]
  | cons d rest ih =>
    obtain ⟨r, d⟩ := d
    unfold put.putIn
    split
    · next same =>
      subst same
      simp [List.lookup_cons, unequal]
    · simp only [List.lookup_cons]
      rw [ih]

theorem get?_put_self {s : Storage} {p : Place} (named : p ≠ []) (e : Entry) : (s.put p e).get? p = some e := by
  simp [get?, put, named, lookup_putIn_self]

theorem get?_put_of_ne {s : Storage} {p q : Place} (other : q ≠ p) (e : Entry) : (s.put p e).get? q = s.get? q := by
  simp only [get?, put]
  rw [lookup_putIn_of_ne other]

end Storage

end ResolverWatch
