/-
Module: ChipEight.Storage
Purpose: Finding a file by its path in a tree of directories.
Main exports: Storage, ReadError, ReadError.message, Storage.ofPaths, Storage.read, Storage.baseName
-/
import ChipEight.Text.Numeral
import ChipEight.Text.Quoted

namespace ChipEight

open Text

/-- A location in the tree of directories: the names that lead there from the root. -/
abbrev Location := List String

/-- The files and directories that were put into the tree, each under its location.  Of two files
under one location the first one counts.  The directories on the way to a location exist without
being listed. -/
structure Storage where
  files : List (Location × List UInt8) := []
  directories : List Location := []
deriving Repr, Inhabited, DecidableEq

/-- A reason why a file cannot be read. -/
inductive ReadError where
  | notFound (path : String)
  | notADirectory (path : String)
  | isADirectory (path : String)
  | nameTooLong (path : String)
  /-- The path holds the null character, which no file name can hold. -/
  | nullInPath
deriving Repr, Inhabited, DecidableEq

namespace ReadError

/-- The message of a failure reported by the operating system: its number, its wording and the
path. -/
def systemMessage (number : Nat) (wording path : String) : String :=
  "[Errno " ++ Numeral.decimal number ++ "] " ++ wording ++ ": " ++ Quoted.quote path

/-- The sentence shown to the user. -/
def message : ReadError → String
  | notFound path => systemMessage 2 "No such file or directory" path
  | notADirectory path => systemMessage 20 "Not a directory" path
  | isADirectory path => systemMessage 21 "Is a directory" path
  | nameTooLong path => systemMessage 36 "File name too long" path
  | nullInPath => "embedded null byte"

end ReadError

namespace Storage

/-!
### Paths

A path is a sequence of names divided by slashes.  Empty names and single dots stand for the
directory they are looked up in, and two dots for the one above, which for the root is the root
itself.  A path that starts with a slash starts at the root, any other one in the current directory.
-/

/-- The names of a path, empty ones included. -/
def names (path : String) : List String :=
  path.splitOn "/"

/-- The last name of a path. -/
def baseName (path : String) : String :=
  String.ofList (path.toList.reverse.takeWhile (· != '/')).reverse

/-- The current directory.  It is one among the temporary files and has a name that nobody knows, in
the place of which stands the empty one, since that can never be looked up. -/
def current : Location := ["tmp", ""]

/-- The location from which the names of a path are followed. -/
def origin (path : String) : Location :=
  if path.toList.head? = some '/' then [] else current

/-- The location to which a name leads from a directory. -/
def enter (location : Location) (name : String) : Location :=
  if name = "" || name = "." then location
  else if name = ".." then location.dropLast
  else location ++ [name]

/-- The locations that names lead through from a directory, its own and the last one included. -/
def trail (location : Location) : List String → List Location
  | [] => [location]
  | name :: rest => location :: trail (enter location name) rest

/-!
### Putting files and directories into the tree
-/

/-- Make the directory at a path and those on the way to it. -/
def makeDirectory (storage : Storage) (path : String) : Storage :=
  { storage with directories := trail (origin path) (names path) ++ storage.directories }

/-- Write the file at a path, in place of what was in it, and make the directories on the way. -/
def writeFile (storage : Storage) (path : String) (bytes : List UInt8) : Storage :=
  { files := ((names path).foldl enter (origin path), bytes) :: storage.files
    directories := trail (origin path) (names path).dropLast ++ storage.directories }

/-- Put directories and files into the tree, one after the other. -/
def ofPaths (files : List (String × List UInt8)) (directories : List String) : Storage :=
  files.foldl (fun storage (path, bytes) => storage.writeFile path bytes)
    (directories.foldl makeDirectory {})

/-!
### Looking up

Of the tree only what was put into it and what every system has is known.
-/

/-- What stands at a location. -/
inductive Entry where
  | file (bytes : List UInt8)
  | directory
deriving Repr, Inhabited, DecidableEq

/-- The names that every system has below its root, each with those that every system has below
it. -/
def standardDirectories : List (String × List String) :=
  [("bin", []), ("boot", []), ("dev", ["fd", "pts", "shm"]), ("etc", ["opt"]), ("home", []),
    ("lib", []), ("lib64", []), ("media", []), ("mnt", []), ("opt", []), ("proc", ["self", "sys"]),
    ("root", []), ("run", ["lock"]), ("sbin", []), ("srv", []), ("sys", []), ("tmp", []),
    ("usr", ["bin", "include", "lib", "local", "sbin", "share", "src"]),
    ("var", ["cache", "lib", "local", "lock", "log", "mail", "opt", "run", "spool", "tmp"])]

/-- What every system has at a location.  The null device is an empty file. -/
def findStandard? : Location → Option Entry
  | [] => some .directory
  | ["dev", "null"] => some (.file [])
  | [name] => (standardDirectories.lookup name).map fun _ => .directory
  | [name, part] =>
      if ((standardDirectories.lookup name).getD []).contains part then some .directory else none
  | _ => none

/-- What stands at a location. -/
def find? (storage : Storage) (location : Location) : Option Entry :=
  match storage.files.lookup location with
  | some bytes => some (.file bytes)
  | none =>
      let known := current :: storage.files.map Prod.fst ++ storage.directories
      if known.any location.isPrefixOf then some .directory else findStandard? location

/-- Follow names from a location.  They can be looked up in directories only, and a name of more
than 255 bytes cannot be looked up at all. -/
def follow (storage : Storage) (path : String) (location : Location) :
    List String → Except ReadError Location
  | [] => .ok location
  | name :: rest =>
      if storage.find? location ≠ some .directory then .error (.notADirectory path)
      else if name.utf8ByteSize > 255 then .error (.nameTooLong path)
      else if (storage.find? (enter location name)).isNone then .error (.notFound path)
      else storage.follow path (enter location name) rest

/-- The bytes of the file at a path. -/
def read (storage : Storage) (path : String) : Except ReadError (List UInt8) := do
  if path.toList.contains '\x00' then throw .nullInPath
  if path = "" then throw (.notFound path)
  if path.utf8ByteSize ≥ 4096 then throw (.nameTooLong path)
  let location ← storage.follow path (origin path) (names path)
  match storage.find? location with
  | some (.file bytes) => return bytes
  | _ => throw (.isADirectory path)

end Storage

end ChipEight
