/-!
# Files

What the program asks of a file: its text, or why there is none.  The format of
a file is told by the extension of its name.

`Files` is what every path holds at one moment, and `Files.ofListing` gives it
for a working directory whose files are listed.
-/

set_option autoImplicit false

namespace WarmStandby

inductive FileFault where
  | notFound
  | notText
  | isDirectory
  | unreadable (reason : String)
deriving DecidableEq, Repr

namespace FileFault

def message : FileFault → String
  | notFound => "No such file or directory (os error 2)"
  | notText => "stream did not contain valid UTF-8"
  | isDirectory => "Is a directory (os error 21)"
  | unreadable reason => reason

end FileFault

namespace FilePath

def parts (path : String) : List String :=
  (path.splitOn "/").filter (fun part => !part.isEmpty && part != ".")

/-- The part of a name behind its last point, if it has a point that is not its
first character. -/
def extensionOfName? (name : List Char) : Option String :=
  let suffix := name.reverse.takeWhile (· ≠ '.')
  if suffix.length + 1 < name.length then
    some (String.ofList suffix.reverse)
  else
    none

def extension? (path : String) : Option String :=
  match (parts path).getLast? with
  | none => none
  | some name =>
      if name = ".." then none else extensionOfName? name.toList

end FilePath

abbrev Files : Type := String → Except FileFault String

namespace Files

/-- The files of a working directory.  Each is listed under its path with its
text, or without one if its bytes are not text; every path that leads to a
listed file is a directory. -/
def ofListing (listing : List (String × Option String)) : Files := fun path =>
  let parts := FilePath.parts path
  match listing.find? (fun file => FilePath.parts file.1 == parts) with
  | some (_, some text) => .ok text
  | some (_, none) => .error .notText
  | none =>
      if path.isEmpty then .error .notFound
      else if parts.isEmpty
          || listing.any (fun file => parts.isPrefixOf (FilePath.parts file.1))
      then .error .isDirectory
      else .error .notFound

end Files

end WarmStandby
