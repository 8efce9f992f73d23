import WorkspaceSchema.Text.Utf8

/-!
# Files

A program reads files by their paths.  `Folder` is a working directory with plain files in it: a path
is walked name by name, and what lies outside the folder is not there.
-/

namespace WorkspaceSchema

/-- Why a file cannot be read. -/
inductive FileFault where
  | notFound
  | notADirectory
  | isADirectory
  | nameTooLong
  | nulInName
  | notText
  /-- The system gives another reason. -/
  | refused (reason : String) (code : Nat)
deriving DecidableEq, Repr

/-- A fault in words. -/
def FileFault.message : FileFault → String
  | .notFound => "No such file or directory (os error 2)"
  | .notADirectory => "Not a directory (os error 20)"
  | .isADirectory => "Is a directory (os error 21)"
  | .nameTooLong => "File name too long (os error 36)"
  | .nulInName => "file name contained an unexpected NUL byte"
  | .notText => "stream did not contain valid UTF-8"
  | .refused reason code => reason ++ " (os error " ++ String.ofList (Nat.toDigits 10 code) ++ ")"

/-- What reading the file at a path comes to. -/
abbrev Files : Type :=
  String → Except FileFault (List UInt8)

/-- Reads a file that holds a text. -/
def Files.readText (files : Files) (path : String) : Except FileFault (List UInt8) := do
  let bytes ← files path
  match Utf8.invalidIndex? bytes with
  | none => return bytes
  | some _ => .error .notText

/-- A working directory: its files by name. -/
structure Folder where
  entries : List (String × List UInt8)
deriving Repr, Inhabited

namespace Folder

/-- The longest name, in bytes. -/
def maxName : Nat := 255

/-- The longest path, in bytes. -/
def maxPath : Nat := 4095

/-- Follows the names of a path outside the folder, where nothing but the directories that are
reached without a name is known. -/
def walkOutside : List String → Except FileFault (List UInt8)
  | [] => .error .isADirectory
  | name :: rest =>
    if name = "" || name = "." || name = ".." then walkOutside rest
    else if maxName < name.utf8ByteSize then .error .nameTooLong
    else .error .notFound

/-- Follows the names of a path inside the folder. -/
def walk (f : Folder) : List String → Except FileFault (List UInt8)
  | [] => .error .isADirectory
  | name :: rest =>
    if name = "" || name = "." then walk f rest
    else if name = ".." then walkOutside rest
    else if maxName < name.utf8ByteSize then .error .nameTooLong
    else
      match f.entries.lookup name with
      | none => .error .notFound
      | some bytes => if rest.isEmpty then .ok bytes else .error .notADirectory

/-- The names of a path, the empty ones included. -/
def names : List Char → List (List Char)
  | [] => [[]]
  | c :: rest =>
    match names rest with
    | [] => [[]]
    | name :: others => if c = '/' then [] :: name :: others else (c :: name) :: others

/-- The files that can be read from a folder. -/
def files (f : Folder) : Files := fun path =>
  let parts := (names path.toList).map String.ofList
  if path.toList.contains '\x00' then .error .nulInName
  else if path = "" then .error .notFound
  else if maxPath < path.utf8ByteSize then .error .nameTooLong
  else if path.toList.head? = some '/' then walkOutside parts
  else f.walk parts

end Folder

end WorkspaceSchema
