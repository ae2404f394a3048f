/-!
# Files

The part of the file system a run of the program touches: regular files
with their text, and directories, by path. A path is absolute (`/tmp/x`) or
relative to the working directory. A path names a directory when it is
recorded as one, or when anything is recorded below it.

Making a directory and writing a file fail the way the operating system
fails them, walking the path from the top: a missing directory on the way
is `No such file or directory`, a file on the way is `Not a directory`;
then a path that already exists cannot be made a directory
(`File exists`), and a directory cannot be written as a file
(`Is a directory`). Making a directory with all its parents creates the
missing ones from the top down, and is content with a directory that is
already there.
-/

namespace RoomConsole.Host

/-- An entry of the file system. -/
inductive Entry where
  | file (text : String)
  | directory
  deriving DecidableEq, Repr

/-- Why an operation on the file system failed. -/
inductive IoFault where
  | notFound
  | alreadyExists
  | notDirectory
  | isDirectory
  /-- Every parent of the path was missing, up to the root. -/
  | wholeTree
  deriving DecidableEq, Repr

/-- The text the system gives for a failure, with its error number. -/
def IoFault.message : IoFault → String
  | .notFound => "No such file or directory (os error 2)"
  | .alreadyExists => "File exists (os error 17)"
  | .notDirectory => "Not a directory (os error 20)"
  | .isDirectory => "Is a directory (os error 21)"
  | .wholeTree => "failed to create whole tree"

/-- The full record of a failure, as a program that stops on it prints
it: the error number, its kind and the system's text. -/
def IoFault.record : IoFault → String
  | .notFound => "Os \x7b code: 2, kind: NotFound, message: \"No such file or directory\" \x7d"
  | .alreadyExists => "Os \x7b code: 17, kind: AlreadyExists, message: \"File exists\" \x7d"
  | .notDirectory => "Os \x7b code: 20, kind: NotADirectory, message: \"Not a directory\" \x7d"
  | .isDirectory => "Os \x7b code: 21, kind: IsADirectory, message: \"Is a directory\" \x7d"
  | .wholeTree => "Error \x7b kind: Uncategorized, message: \"failed to create whole tree\" \x7d"

/-- Files and directories by path. -/
structure Files where
  entries : List (String × Entry) := []
  deriving Repr

/-- The names along a path. -/
def components (p : String) : List String :=
  ((p.toList.splitOn '/').filter (· ≠ [])).map String.ofList

/-- The path starts at the root. -/
def isAbsolute (p : String) : Bool := p.startsWith "/"

/-- The path made of the first `n` names along `p`. -/
def prefixPath (p : String) (n : Nat) : String :=
  (if isAbsolute p then "/" else "") ++ "/".intercalate ((components p).take n)

/-- A path written the one way: no doubled or trailing slashes. -/
def normalize (p : String) : String := prefixPath p (components p).length

/-- A name inside a directory: the name alone under the working
directory, no doubled slash after a directory that ends in one. -/
def joinPath (dir name : String) : String :=
  if dir.isEmpty then name else if dir.endsWith "/" then dir ++ name else dir ++ "/" ++ name

/-- The directory a path is in: none for the root and for the empty path. -/
def parentOf (p : String) : Option String :=
  let n := (components p).length
  if n = 0 then none else some (prefixPath p (n - 1))

namespace Files

/-- What is at a path: the root and the working directory are directories,
and so is every path something is recorded below. -/
def lookup (fs : Files) (p : String) : Option Entry :=
  let q := normalize p
  if q = "/" || q = "" then some .directory
  else match fs.entries.find? (·.1 = q) with
    | some (_, e) => some e
    | none =>
      if fs.entries.any fun (k, _) => k.startsWith (q ++ "/") then some .directory else none

/-- A regular file is at the path. -/
def isFile (fs : Files) (p : String) : Bool :=
  match fs.lookup p with
  | some (.file _) => true
  | _ => false

/-- A directory is at the path. -/
def isDir (fs : Files) (p : String) : Bool := fs.lookup p = some .directory

/-- The text of the regular file at a path. -/
def read (fs : Files) (p : String) : Option String :=
  match fs.lookup p with
  | some (.file t) => some t
  | _ => none

/-- The names directly inside a directory, each once, in code point
order. -/
def list (fs : Files) (p : String) : List String :=
  let here := components p
  let names := fs.entries.filterMap fun (k, _) =>
    if isAbsolute k = isAbsolute p && (components k).take here.length = here then
      (components k)[here.length]?
    else none
  (names.foldl (fun acc n => if acc.contains n then acc else acc ++ [n]) []).mergeSort
    fun a b => decide (a ≤ b)

/-- Record an entry, replacing what was at its path. -/
def put (fs : Files) (p : String) (e : Entry) : Files :=
  let q := normalize p
  { entries := fs.entries.filter (·.1 ≠ q) ++ [(q, e)] }

/-- Every directory on the way to a path exists: the first missing one or
file on the way fails. -/
def walk (fs : Files) (p : String) : Except IoFault Unit :=
  ((List.range ((components p).length - 1)).map fun i => prefixPath p (i + 1)).forM fun a =>
    match fs.lookup a with
    | some .directory => .ok ()
    | some (.file _) => .error .notDirectory
    | none => .error .notFound

/-- Make one directory. -/
def mkdir (fs : Files) (p : String) : Except IoFault Files := do
  fs.walk p
  match fs.lookup p with
  | some _ => throw .alreadyExists
  | none => pure (fs.put p .directory)

/-- Make the directory of the first `n` names along `p` with its missing
parents: try it; when its parent is missing, make the parent first and try
again; a directory already there is fine. -/
def makeUpTo (p : String) : Nat → Files → Except IoFault Files
  | 0, fs => .ok fs
  | n + 1, fs =>
    let here := prefixPath p (n + 1)
    match fs.mkdir here with
    | .ok fs' => .ok fs'
    | .error .notFound => do
      let fs ← if n = 0 && isAbsolute p then throw .wholeTree else makeUpTo p n fs
      match fs.mkdir here with
      | .ok fs' => pure fs'
      | .error e => if fs.isDir here then pure fs else throw e
    | .error e => if fs.isDir here then .ok fs else .error e

/-- Make a directory and every missing parent. -/
def createDirAll (fs : Files) (p : String) : Except IoFault Files :=
  makeUpTo p (components p).length fs

/-- Write a regular file, creating or replacing it. -/
def write (fs : Files) (p : String) (text : String) : Except IoFault Files := do
  fs.walk p
  match fs.lookup p with
  | some .directory => throw .isDirectory
  | _ => pure (fs.put p (.file text))

end Files

end RoomConsole.Host
