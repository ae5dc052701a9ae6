/-! Reading source files, and a folder held in memory to read them from. -/

namespace FirstMatch.Session

inductive ReadFailure where
  | missing
  | isDirectory
  | notDirectory
  | nameTooLong
  | other (message : String)
  deriving DecidableEq

def ReadFailure.message : ReadFailure → String
  | missing => "No such file or directory (os error 2)"
  | isDirectory => "Is a directory (os error 21)"
  | notDirectory => "Not a directory (os error 20)"
  | nameTooLong => "File name too long (os error 36)"
  | other message => message

/-- A folder with files and no folders in it. -/
structure Folder where
  files : List (String × ByteArray) := []

namespace Folder

/-- The bytes of the longest name. -/
def nameLimit : Nat := 255

/-- The bytes of the longest path. -/
def pathLimit : Nat := 4095

/-- Follows the names of a path one by one, from the folder itself if `inside`.  Nothing lies below
a file, not even the empty name after a slash; of what is above the folder only the folders are
known. -/
def follow (f : Folder) (inside : Bool) : List String → Except ReadFailure ByteArray
  | [] => .error .isDirectory
  | name :: rest =>
    if name = "" ∨ name = "." then f.follow inside rest
    else if name = ".." then f.follow false rest
    else if nameLimit < name.utf8ByteSize then .error .nameTooLong
    else
      match if inside then f.files.lookup name else none with
      | none => .error .missing
      | some contents => if rest.isEmpty then .ok contents else .error .notDirectory

/-- Reads a path, relative to the folder unless it begins with a slash. -/
def read (f : Folder) (path : String) : Except ReadFailure ByteArray :=
  if pathLimit < path.utf8ByteSize then .error .nameTooLong
  else f.follow (!path.startsWith "/") (path.splitOn "/")

end Folder

end FirstMatch.Session
