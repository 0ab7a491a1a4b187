import SqlQuery.Text.Parts
import SqlQuery.Text.Terminated

/-! # Paths in a folder

A path is read from a folder by walking along its parts. Empty parts and dots stay where they are, two
dots lead to the folder around, and every other part must be the name of an entry. The folder's
subfolders are empty, and of the folders around it nothing is known but that they exist.
-/

namespace SqlQuery

/-- Why a path has no text. -/
inductive FileError
  | notFound
  | notDirectory
  | isDirectory
  | nameTooLong
  | zeroInName
  | notText
  deriving DecidableEq, Repr

def FileError.message : FileError → String
  | notFound => "No such file or directory (os error 2)"
  | notDirectory => "Not a directory (os error 20)"
  | isDirectory => "Is a directory (os error 21)"
  | nameTooLong => "File name too long (os error 36)"
  | zeroInName => "file name contained an unexpected NUL byte"
  | notText => "stream did not contain valid UTF-8"

/-- The bytes that a path leads to. -/
abbrev Files := String → Except FileError ByteArray

/-- The text that a path leads to. -/
def Files.text (files : Files) (path : String) : Except FileError String := do
  let bytes ← files path
  match String.fromUTF8? bytes with
  | some text => .ok text
  | none => .error .notText

inductive FolderEntry
  | file (bytes : ByteArray)
  | directory

abbrev Folder := List (String × FolderEntry)

namespace Folder

/-- The most bytes in the name of an entry. -/
def nameLimit : Nat := 255

/-- The most bytes in a path. -/
def pathLimit : Nat := 4095

/-- Where a walk stands: in the folder, in a subfolder of it, in a folder around it, or at a file. -/
inductive Place
  | here
  | inside
  | outside
  | file (bytes : ByteArray)

/-- One step of a walk. Only from a directory does a step lead on. -/
def enter (folder : Folder) (place : Place) (part : String) : Except FileError Place :=
  match place with
  | .file _ => .error .notDirectory
  | place =>
    if part = "" || part = "." then .ok place
    else if part = ".." then
      match place with
      | .inside => .ok .here
      | _ => .ok .outside
    else if nameLimit < part.utf8ByteSize then .error .nameTooLong
    else
      match place, folder.lookup part with
      | .here, some (.file bytes) => .ok (.file bytes)
      | .here, some .directory => .ok .inside
      | _, _ => .error .notFound

/-- Where a path leads. An absolute path starts outside. -/
def walk (folder : Folder) (path : String) : Except FileError Place :=
  let start := if path.toList.head? = some '/' then Place.outside else .here
  (Text.parts '/' path.toList).foldlM (fun place part => folder.enter place (String.ofList part)) start

/-- The files of a folder. -/
def files (folder : Folder) : Files := fun path =>
  if Text.hasZero path then .error .zeroInName
  else if path.isEmpty then .error .notFound
  else if pathLimit < path.utf8ByteSize then .error .nameTooLong
  else
    match folder.walk path with
    | .error cause => .error cause
    | .ok (.file bytes) => .ok bytes
    | .ok _ => .error .isDirectory

end Folder

end SqlQuery
