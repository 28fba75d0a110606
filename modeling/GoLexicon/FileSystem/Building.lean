import GoLexicon.FileSystem.Basic
/-!
# Building file systems

A file system is built up from an empty one by putting directories and files into it, with the
directories above them.
-/

namespace GoLexicon

/-- The locations on the way to a location, without the root, and at last the location itself. -/
def Location.stations : Location → List Location
  | [] => []
  | name :: rest => [name] :: (stations rest).map (name :: ·)

namespace FileSystem

/-- The file system with a directory at a location, where nothing stands there. -/
def withDirectory (fs : FileSystem) (location : Location) : FileSystem :=
  if (fs.entry? location).isSome then fs else fs.put location .directory

/-- The file system with a directory at each station of a location. -/
def withDirectories (fs : FileSystem) (location : Location) : FileSystem :=
  location.stations.foldl withDirectory fs

/-- The file system with a file at a location, and the directories above it. -/
def withFile (fs : FileSystem) (location : Location) (content : Bytes) : FileSystem :=
  (fs.withDirectories location.dropLast).put location (.file content)

/-- A file system with nothing but a current directory. -/
def bare (here : Location) : FileSystem := withDirectories ⟨[], here⟩ here

/-- A file system with nothing but a current directory and some files, given by the names on the way
from there. -/
def ofFiles (here : Location) (files : List (Location × Bytes)) : FileSystem :=
  files.foldl (fun fs (location, content) => fs.withFile (here ++ location) content) (bare here)

/-- The location that a path means when each `..` in it takes away the name in front of it. -/
def settledLocation (fs : FileSystem) (p : Path) : Location := (Path.absolute fs.herePath p).names

end FileSystem

end GoLexicon
