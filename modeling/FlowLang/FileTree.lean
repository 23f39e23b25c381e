import FlowLang.OsError
import FlowLang.Text.Utf8

/-!
# File trees

The files that the program can see. Paths are followed as an operating system does: each part but the last has to be a
directory, empty parts and `.` stay, and `..` goes up. A place is where a path ends up: names below the current
directory, below a directory above it, or below the root.
-/

namespace FlowLang

open Text

/-- What a path can lead to. -/
inductive FileEntry where
  | file (content : Bytes)
  | directory
  deriving DecidableEq, Repr

/-- The names on the way to a file. They start at the current directory; `/` in front stands for the root, and `..` in
front for the directory above. -/
abbrev Place := List Text

namespace Place

/-- The root. -/
def root : Place :=
  ["/".toList]

/-- The current directory or a directory above it: all of these are there. -/
def isAbove (place : Place) : Bool :=
  place.all (· == "..".toList)

/-- The directory above. The root is above itself. -/
def up (place : Place) : Place :=
  if place = root then root
  else if place.isAbove then place ++ ["..".toList]
  else place.dropLast

end Place

/-- The entries at known places. -/
structure FileTree where
  entries : List (Place × FileEntry)
  deriving DecidableEq, Repr

/-- Why a file cannot be used. -/
inductive FileError where
  | os (e : OsError)
  /-- a path cannot hold the character U+0000 -/
  | nullCharacter
  deriving DecidableEq, Repr

/-- The error in words. -/
def FileError.message : FileError → Text
  | .os e => e.message
  | .nullCharacter => "embedded null byte".toList

namespace FileTree

/-- No files. -/
def empty : FileTree :=
  ⟨[]⟩

/-- What is at a place. The root, the current directory and those above it are always there. -/
def get? (t : FileTree) (place : Place) : Option FileEntry :=
  if place = .root ∨ place.isAbove then some .directory
  else (t.entries.find? fun e => e.1 == place).map Prod.snd

/-- Puts an entry at a place, instead of what is there. -/
def put (t : FileTree) (place : Place) (entry : FileEntry) : FileTree :=
  if t.entries.any fun e => e.1 == place then
    ⟨t.entries.map fun e => if e.1 == place then (place, entry) else e⟩
  else ⟨t.entries ++ [(place, entry)]⟩

/-- Makes the directories on the way to a place that are not there. -/
def putParents (t : FileTree) (place : Place) : FileTree :=
  let parents := (List.range place.length).map place.take
  parents.foldl (fun t parent => if (t.get? parent).isSome then t else t.put parent .directory) t

/-- Adds a file and the directories that it is in. -/
def addFile (t : FileTree) (place : Place) (content : Bytes) : FileTree :=
  (t.putParents place).put place (.file content)

/-- Adds a directory and the directories that it is in. -/
def addDirectory (t : FileTree) (place : Place) : FileTree :=
  (t.putParents place).put place .directory

/-- Where a path leads. -/
inductive Target where
  /-- to an entry of the tree -/
  | entry (place : Place) (e : FileEntry)
  /-- to a name that is free in a directory of the tree -/
  | free (place : Place)
  /-- to such a name with a slash behind it, which only a directory could have -/
  | freeDirectory
  deriving DecidableEq, Repr

/-- Follows the parts of a path from a directory. -/
def follow (t : FileTree) (path : Text) (here : Place) : List Text → Except OsError Target
  | [] => .ok (.entry here .directory)
  | part :: rest =>
    if part.isEmpty || part == ".".toList then follow t path here rest
    else if part == "..".toList then follow t path here.up rest
    else if 255 < (Utf8.encode part).length then .error (.nameTooLong path)
    else
      let next := here ++ [part]
      match t.get? next with
      | some .directory => follow t path next rest
      | some (.file content) =>
        if rest.isEmpty then .ok (.entry next (.file content)) else .error (.notDirectory path)
      | none =>
        if rest.isEmpty then .ok (.free next)
        else if rest.all List.isEmpty then .ok .freeDirectory
        else .error (.missing path)

/-- Where a path leads: from the root if there is a slash in front, else from the current directory. The empty path
leads nowhere. -/
def resolve (t : FileTree) (path : Text) : Except FileError Target :=
  if path.contains '\x00' then .error .nullCharacter
  else if path.isEmpty then .error (.os (.missing path))
  else if 4095 < (Utf8.encode path).length then .error (.os (.nameTooLong path))
  else
    let start := if path.head? = some '/' then Place.root else []
    (t.follow path start (splitOn '/' path)).mapError .os

/-- What a path leads to, if anything. -/
def stat? (t : FileTree) (path : Text) : Option FileEntry :=
  match t.resolve path with
  | .ok (.entry _ e) => some e
  | _ => none

/-- The bytes of a file. -/
def read (t : FileTree) (path : Text) : Except FileError Bytes :=
  match t.resolve path with
  | .ok (.entry _ (.file content)) => .ok content
  | .ok (.entry _ .directory) => .error (.os (.isDirectory path))
  | .ok (.free _) | .ok .freeDirectory => .error (.os (.missing path))
  | .error e => .error e

/-- Writes a file, a new one or over an old one. -/
def write (t : FileTree) (path : Text) (content : Bytes) : Except FileError FileTree :=
  match t.resolve path with
  | .ok (.entry place (.file _)) | .ok (.free place) => .ok (t.put place (.file content))
  | .ok (.entry _ .directory) | .ok .freeDirectory => .error (.os (.isDirectory path))
  | .error e => .error e

/-- The files of a tree that are not the same, or not there, in an older one. -/
def changesSince (old new : FileTree) : List (Place × Bytes) :=
  new.entries.filterMap fun e => match e.2 with
    | .file content => if old.get? e.1 = some e.2 then none else some (e.1, content)
    | .directory => none

end FileTree

end FlowLang
