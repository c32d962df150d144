import BasicLex.Disk.Path

namespace BasicLex

inductive ReadFailure where
  | nulInPath
  | notFound
  | notADirectory
  | isADirectory
  | nameTooLong
  | notUtf8
  | other (reason : String)
deriving DecidableEq

def ReadFailure.message : ReadFailure → String
  | .nulInPath => "file name contained an unexpected NUL byte"
  | .notFound => "No such file or directory (os error 2)"
  | .notADirectory => "Not a directory (os error 20)"
  | .isADirectory => "Is a directory (os error 21)"
  | .nameTooLong => "File name too long (os error 36)"
  | .notUtf8 => "stream did not contain valid UTF-8"
  | .other reason => reason

-- Walks begin at the root or at the working directory, and two dots can lead
-- any number of levels above the latter. The root has nothing above it.
inductive Base where
  | root
  | above (levels : Nat)
deriving DecidableEq

def Base.parent : Base → Base
  | .root => .root
  | .above levels => .above (levels + 1)

-- A base, then down through the names. What the working directory itself is
-- called is not known, so no place above it leads back into it by name.
structure Place where
  base : Base
  names : List String
deriving DecidableEq

namespace Place

def start (path : String) : Place := ⟨if Path.isAbsolute path then .root else .above 0,[]⟩

def parent (place : Place) : Place :=
  if place.names = [] then ⟨place.base.parent,[]⟩ else ⟨place.base,place.names.dropLast⟩

def step (place : Place) (part : String) : Place :=
  if part = "." then place
  else if part = ".." then place.parent
  else ⟨place.base,place.names ++ [part]⟩

def trail (place : Place) : List String → List Place
  | [] => []
  | part :: rest => place.step part :: trail (place.step part) rest

end Place

inductive Entry where
  | directory
  | file (bytes : ByteArray)

-- Plain files and directories by their places. The first entry for a place is
-- the one that counts, and a base is a directory without being listed.
structure Disk where
  files : List (Place × ByteArray)
  directories : List Place

namespace Disk

def empty : Disk := ⟨[],[]⟩

def trailOf (path : String) : List Place := (Place.start path).trail (Path.steps path)

def makeDirectory (disk : Disk) (path : String) : Disk :=
  ⟨disk.files,trailOf path ++ disk.directories⟩

def writeFile (disk : Disk) (path : String) (bytes : ByteArray) : Disk :=
  match (trailOf path).getLast? with
  | some place => ⟨(place,bytes) :: disk.files,(trailOf path).dropLast ++ disk.directories⟩
  | none => disk

def ofListing (files : List (String × ByteArray)) (directories : List String) : Disk :=
  files.foldl (fun disk file => disk.writeFile file.1 file.2) (directories.foldl makeDirectory empty)

def entry? (disk : Disk) (place : Place) : Option Entry :=
  if place.names = [] then some .directory
  else match disk.files.lookup place with
    | some bytes => some (.file bytes)
    | none => if disk.directories.contains place then some .directory else none

def longestName : Nat := 255

def longestPath : Nat := 4095

-- One step of a walk. A plain file cannot be walked through, not even by dots,
-- and a name's length is checked before its existence.
def enter (disk : Disk) (place : Place) (part : String) : Except ReadFailure Place :=
  match disk.entry? place with
  | none => .error .notFound
  | some (.file _) => .error .notADirectory
  | some .directory =>
    if longestName < part.utf8ByteSize then .error .nameTooLong
    else if (disk.entry? (place.step part)).isSome then .ok (place.step part)
    else .error .notFound

def walk (disk : Disk) (path : String) : Except ReadFailure Place :=
  (Path.steps path).foldlM disk.enter (Place.start path)

def resolve (disk : Disk) (path : String) : Except ReadFailure Place :=
  if path.toList.contains '\x00' then .error .nulInPath
  else if path = "" then .error .notFound
  else if longestPath < path.utf8ByteSize then .error .nameTooLong
  else disk.walk path

def read (disk : Disk) (path : String) : Except ReadFailure ByteArray := do
  let place ← disk.resolve path
  match disk.entry? place with
  | some (.file bytes) => .ok bytes
  | some .directory => .error .isADirectory
  | none => .error .notFound

end Disk

end BasicLex
